import MixedProject.RefreshLoads

namespace MixedProject.MJRefreshNormalHeader

open Traces

variable {header t : MJRefreshNormalHeader}

def blockWeight : MainBlock → ℕ
  | .setNeedsLayout => 1
  | .setIdle => 4
  | .refreshingCallback => 5
  | .showHeader => 7

def animationWeight : AnimationBlock → ℕ
  | .insetRestored | .loadingFaded => 1
  | .headerShown => 6

def stateWeight : MJRefreshState → ℕ
  | .pulling => 11
  | .willRefresh => 9
  | _ => 0

/-- How much is left to run when the finger stays away. -/
def weight (header : MJRefreshNormalHeader) : ℕ :=
  (header.mainQueue.map blockWeight).sum + (header.animations.map animationWeight).sum +
    stateWeight header.state

/-- The app works off what is waiting; a header that waits for the screen is drawn there. -/
def Works (header : MJRefreshNormalHeader) : Event → Prop
  | .main | .complete _ => True
  | .draw => header.state = .willRefresh
  | _ => False

def WorkStep (header : MJRefreshNormalHeader) (e : Event) (t : MJRefreshNormalHeader) : Prop :=
  Step header e t ∧ Works header e

structure Quiet (header : MJRefreshNormalHeader) : Prop where
  mainQueue : header.mainQueue = []
  animations : header.animations = []
  drawn : header.state ≠ .willRefresh

theorem SameWork.weight (h : SameWork header t) : t.weight = header.weight := by
  simp [MJRefreshNormalHeader.weight, h.mainQueue, h.animations, h.state]

theorem Turned.weight {target : MJRefreshState} (h : Turned target header t) :
    t.weight + stateWeight header.state = header.weight + stateWeight target +
      if target = .refreshing then 8 else 1 := by
  simp only [MJRefreshNormalHeader.weight, h.mainQueue, h.animations, h.state, List.map_append,
    List.sum_append]
  split_ifs <;> simp [blockWeight] <;> omega

theorem Turn.pulling_weight {old state : MJRefreshState} (h : Turn old state)
    (hold : old = .pulling) :
    stateWeight state + (if state = .refreshing then 8 else 1) ≤ stateWeight old := by
  subst hold
  cases h <;> simp [stateWeight]

theorem setIdle_weight (header : MJRefreshNormalHeader) :
    (header.setState .idle).weight ≤ header.weight + 3 := by
  by_cases hstate : header.state = .refreshing
  · rw [(setState_finished hstate).weight]
    simp [weight, dispatchAsync, animate, assignState, setSubviews, hstate, stateWeight,
      blockWeight, animationWeight]
    omega
  · by_cases hidle : header.state = .idle
    · rw [← hidle, setState_self]
      omega
    · have hweight := (Turn.putBack hidle hstate).setState.weight
      simp only [reduceCtorEq, if_false, stateWeight] at hweight
      omega

theorem raiseInset_weight (header : MJRefreshNormalHeader) :
    header.raiseInset.weight ≤ header.weight := by
  unfold raiseInset
  split_ifs with hpan
  · exact Nat.le_refl _
  · simp only
    generalize htop : header.scrollViewOriginalInset + MJRefreshHeaderHeight = top
    obtain ⟨shown, hshown⟩ : ∃ shown, shown = (header.setScrollView
      (header.scrollView.setMj_insetT top)).setScrollView
        ((header.scrollView.setMj_insetT top).setContentOffset (-top)) := ⟨_, rfl⟩
    have hsame : SameWork header shown := by
      rw [hshown]
      exact ⟨rfl, rfl, rfl, rfl, rfl, rfl, rfl⟩
    have hinset : shown.scrollView.mj_insetT = top := by
      rw [hshown]
      exact sub_add_cancel top _
    have hoffset : shown.scrollView.offsetY = -top := by
      rw [hshown]
      rfl
    obtain ⟨t, hfollow, -, ht⟩ := scrollViewContentOffsetDidChange_cases shown
    change (setContentOffset (-top) (header.setScrollView (header.scrollView.setMj_insetT top))).weight
      ≤ header.weight
    have heq : setContentOffset (-top) (header.setScrollView
        (header.scrollView.setMj_insetT top)) = shown.scrollViewContentOffsetDidChange := by
      rw [hshown]
      rfl
    have hweight : t.weight = header.weight := (hsame.trans hfollow).weight
    rw [heq]
    obtain ht | ⟨state, hturns, ht⟩ := ht
    · rw [ht, hweight]
    · have hturn : Turn t.state state := hfollow.state.symm ▸ hturns.turn
      have hturned := hturn.setState.weight
      have hpulling : t.state = .pulling := by
        rw [hfollow.state]
        obtain hpulling | ⟨-, hbelow⟩ := hturns.pulled
        · exact hpulling
        · rw [hinset, hoffset] at hbelow
          have hheight : (0 : CGFloat) < MJRefreshHeaderHeight := by decide
          linarith
      have hdrop := hturn.pulling_weight hpulling
      rw [ht]
      omega

theorem popBlock_weight {block : MainBlock} (h : header.mainQueue.head? = some block) :
    header.weight = header.popBlock.weight + blockWeight block := by
  obtain ⟨rest, hhead⟩ := List.head?_eq_some_iff.mp h
  simp only [weight, popBlock, hhead, List.map_cons, List.sum_cons, List.tail_cons]
  omega

theorem popAnimation_weight {k : ℕ} {completion : AnimationBlock}
    (h : header.animations[k]? = some completion) :
    header.weight = (header.popAnimation k).weight + animationWeight completion := by
  obtain ⟨hk, hget⟩ := List.getElem?_eq_some_iff.mp h
  have hsum := ((List.getElem_cons_eraseIdx_perm hk).map animationWeight).sum_eq
  rw [hget, List.map_cons, List.sum_cons] at hsum
  simp only [weight, popAnimation]
  omega

theorem runBlock_weight (block : MainBlock) (header : MJRefreshNormalHeader) :
    (header.runBlock block).weight + 1 ≤ header.weight + blockWeight block := by
  cases block with
  | setNeedsLayout => exact Nat.le_refl _
  | showHeader =>
    have hraise := raiseInset_weight header
    have hmore : (header.runBlock .showHeader).weight = header.raiseInset.weight + 6 := by
      simp [weight, runBlock, showHeader, animate, animationWeight]
      omega
    simp only [hmore, blockWeight]
    omega
  | refreshingCallback =>
    simp [weight, runBlock, refreshingBlock, endRefreshing, dispatchAsync, blockWeight]
    omega
  | setIdle =>
    have hidle := setIdle_weight header
    simp only [runBlock, blockWeight]
    omega

theorem complete_weight (completion : AnimationBlock) (header : MJRefreshNormalHeader) :
    (header.complete completion).weight + 1 ≤ header.weight + animationWeight completion := by
  cases completion with
  | headerShown =>
    simp [weight, complete, executeRefreshingCallback, dispatchAsync, blockWeight, animationWeight]
    omega
  | insetRestored =>
    rw [complete, (setPullingPercent_work 0 header).weight, animationWeight]
  | loadingFaded =>
    have hsame : header.loadingFaded.weight = header.weight := by
      unfold loadingFaded
      split_ifs <;> rfl
    rw [complete, hsame, animationWeight]

theorem WorkStep.weight {e : Event} (hst : WorkStep header e t) : t.weight + 1 ≤ header.weight := by
  obtain ⟨hst, hworks⟩ := hst
  cases e with
  | main =>
    obtain ⟨block, hblock, rfl⟩ := Option.map_eq_some_iff.mp hst
    rw [popBlock_weight hblock]
    exact runBlock_weight block header.popBlock
  | complete k =>
    obtain ⟨completion, hcompletion, rfl⟩ := Option.map_eq_some_iff.mp hst
    rw [popAnimation_weight hcompletion]
    exact complete_weight completion (header.popAnimation k)
  | draw =>
    have hwill : header.state = .willRefresh := hworks
    have hturn : Turn header.state .refreshing := .refresh (by simp [hwill])
    have hturned := hturn.setState.weight
    rw [← Option.some.inj hst, drawRect, if_pos hwill]
    simp only [hwill, stateWeight, if_true] at hturned
    omega
  | scroll | drag | window | adjust | finish => exact hworks.elim

theorem Answered.run {tr : List (Event × MJRefreshNormalHeader)} (h : Answered header)
    (htr : Trace Step header tr) : Answered (last header tr) :=
  (htr.always (fun _ _ _ h hst => hst.answered h) h).last

theorem quiet_of_stuck (hstuck : ∀ e t, ¬ WorkStep header e t) : Quiet header := by
  constructor
  · cases hqueue : header.mainQueue with
    | nil => rfl
    | cons block rest =>
      exact absurd ⟨by simp [Step, handle, hqueue], trivial⟩
        (hstuck .main (header.popBlock.runBlock block))
  · cases hanimations : header.animations with
    | nil => rfl
    | cons completion rest =>
      exact absurd ⟨by simp [Step, handle, hanimations], trivial⟩
        (hstuck (.complete 0) ((header.popAnimation 0).complete completion))
  · intro hwill
    exact hstuck .draw header.drawRect ⟨rfl, hwill⟩

theorem stuck_of_quiet (h : Quiet header) (e : Event) (t : MJRefreshNormalHeader) :
    ¬ WorkStep header e t := by
  rintro ⟨hst, hworks⟩
  cases e with
  | main => simp [Step, handle, h.mainQueue] at hst
  | complete k => simp [Step, handle, h.animations] at hst
  | draw => exact h.drawn hworks
  | scroll | drag | window | adjust | finish => exact hworks

theorem run_settles {localized : NSString → NSString} {automaticallyChangeAlpha : Bool}
    {scrollView : RefreshScrollView}
    {tr work : List (Event × MJRefreshNormalHeader)}
    (htr : Trace Step (setMj_header localized automaticallyChangeAlpha scrollView) tr)
    (hwork : Trace WorkStep (last (setMj_header localized automaticallyChangeAlpha scrollView) tr)
      work) :
    work.length ≤ (last (setMj_header localized automaticallyChangeAlpha scrollView) tr).weight ∧
      ((∀ e t, ¬ WorkStep
          (last (setMj_header localized automaticallyChangeAlpha scrollView) (tr ++ work)) e t) →
        (last (setMj_header localized automaticallyChangeAlpha scrollView)
          (tr ++ work)).isRefreshing = false ∧
        (last (setMj_header localized automaticallyChangeAlpha scrollView) (tr ++ work)).loads =
          tally Starts (setMj_header localized automaticallyChangeAlpha scrollView) (tr ++ work)) := by
  have hall : Trace Step (setMj_header localized automaticallyChangeAlpha scrollView) (tr ++ work) :=
    htr.append (hwork.mono fun _ _ _ hst => hst.1)
  have hanswered := (setMj_header_answered localized automaticallyChangeAlpha scrollView).run hall
  have hloads := loads_add_underway hall
  rw [setMj_header_underway, Nat.zero_add] at hloads
  constructor
  · have hlength := hwork.length_add_le fun _ _ _ hst => hst.weight
    omega
  · intro hstuck
    have hquiet := quiet_of_stuck hstuck
    generalize last (setMj_header localized automaticallyChangeAlpha scrollView) (tr ++ work) = final
      at hquiet hanswered hloads ⊢
    have hunder : final.underway = 0 := by
      simp [underway, hquiet.mainQueue, hquiet.animations]
    constructor
    · have hnot : final.state ≠ .refreshing := by
        intro hstate
        obtain hpos | hwaits := hanswered hstate
        · omega
        · simp [hquiet.mainQueue] at hwaits
      simp [isRefreshing, hnot, hquiet.drawn]
    · omega

def workStep (header : MJRefreshNormalHeader) (e : Event) : Option MJRefreshNormalHeader :=
  match e with
  | .main | .complete _ => handle header e
  | .draw => if header.state = .willRefresh then handle header e else none
  | _ => none

theorem workStep_some (header : MJRefreshNormalHeader) (e : Event) (t : MJRefreshNormalHeader)
    (h : workStep header e = some t) : WorkStep header e t := by
  cases e with
  | main | complete => exact ⟨h, trivial⟩
  | draw =>
    simp only [workStep] at h
    split_ifs at h with hwill
    exact ⟨h, hwill⟩
  | scroll | drag | window | adjust | finish => cases h

def letGo : List (Event × MJRefreshNormalHeader) :=
  run handle (setMj_header id false {}) (pullAndLetGo.take 5)

def workedOff : List (Event × MJRefreshNormalHeader) :=
  run workStep (last (setMj_header id false {}) letGo)
    [.main, .main, .main, .main, .complete 0, .main, .main, .main, .complete 0, .complete 0]

theorem workedOff_quiet : Quiet (last (setMj_header id false {}) (letGo ++ workedOff)) := by
  constructor
  · decide +kernel
  · decide +kernel
  · decide +kernel

theorem pulled_settles :
    (last (setMj_header id false {}) letGo).isRefreshing = true ∧
      workedOff.length = (last (setMj_header id false {}) letGo).weight ∧
      (last (setMj_header id false {}) (letGo ++ workedOff)).isRefreshing = false ∧
      (last (setMj_header id false {}) (letGo ++ workedOff)).loads = 1 := by
  have hstarts : tally Starts (setMj_header id false {}) (letGo ++ workedOff) = 1 := by
    decide +kernel
  have hpulled : Trace Step (setMj_header id false {}) letGo := trace_run (fun _ _ _ h => h) _ _
  have hworked : Trace WorkStep (last (setMj_header id false {}) letGo) workedOff :=
    trace_run workStep_some _ _
  obtain ⟨-, hsettles⟩ := run_settles hpulled hworked
  obtain ⟨hrefreshing, hloads⟩ := hsettles (stuck_of_quiet workedOff_quiet)
  refine ⟨by decide +kernel, by decide +kernel, hrefreshing, ?_⟩
  exact hloads.trans hstarts

end MixedProject.MJRefreshNormalHeader
