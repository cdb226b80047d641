import MixedProject.RefreshRuns

namespace MixedProject.MJRefreshNormalHeader

open Traces

variable {header t : MJRefreshNormalHeader}

/-- Refreshes that have begun and whose refreshing block has not run. -/
def underway (header : MJRefreshNormalHeader) : ℕ :=
  header.mainQueue.count .showHeader + header.animations.count .headerShown +
    header.mainQueue.count .refreshingCallback

def Starts (header : MJRefreshNormalHeader) (_ : Event) (t : MJRefreshNormalHeader) : Prop :=
  header.state ≠ .refreshing ∧ t.state = .refreshing

instance (header : MJRefreshNormalHeader) (e : Event) (t : MJRefreshNormalHeader) :
    Decidable (Starts header e t) := inferInstanceAs (Decidable (_ ∧ _))

def Balanced (header t : MJRefreshNormalHeader) : Prop :=
  t.loads + t.underway = header.loads + header.underway +
    if header.state ≠ .refreshing ∧ t.state = .refreshing then 1 else 0

theorem SameWork.underway (h : SameWork header t) : t.underway = header.underway := by
  simp [MJRefreshNormalHeader.underway, h.mainQueue, h.animations]

theorem SameWork.balanced (h : SameWork header t) : Balanced header t := by
  rw [Balanced, h.loads, h.underway, h.state]
  simp

theorem Turn.not_refreshing {old state : MJRefreshState} (h : Turn old state) :
    old ≠ .refreshing := by
  cases h with
  | pull | defer => simp
  | putBack _ hnot | refresh hnot => exact hnot

theorem Turned.balanced {target : MJRefreshState} (h : Turned target header t)
    (hnot : header.state ≠ .refreshing) : Balanced header t := by
  rw [Balanced, h.loads, h.state, underway, h.mainQueue, h.animations]
  by_cases htarget : target = .refreshing
  · simp [htarget, hnot, underway]
    omega
  · simp [htarget, underway]

theorem scrollViewContentOffsetDidChange_balanced (header : MJRefreshNormalHeader) :
    Balanced header header.scrollViewContentOffsetDidChange := by
  obtain ⟨t, hsame, -, ht | ⟨state, hturns, ht⟩⟩ := scrollViewContentOffsetDidChange_cases header
  · rw [ht]
    exact hsame.balanced
  · have hturn : Turn t.state state := hsame.state.symm ▸ hturns.turn
    have htotal := hturn.setState.balanced hturn.not_refreshing
    rw [Balanced, hsame.loads, hsame.underway, hsame.state] at htotal
    rw [ht]
    exact htotal

theorem balanced_setScrollView {scrollView : RefreshScrollView} :
    Balanced (header.setScrollView scrollView) t ↔ Balanced header t := Iff.rfl

theorem setContentOffset_balanced (offsetY : CGFloat) (header : MJRefreshNormalHeader) :
    Balanced header (header.setContentOffset offsetY) :=
  balanced_setScrollView.mp (scrollViewContentOffsetDidChange_balanced _)

theorem setIdle_balanced (header : MJRefreshNormalHeader) :
    Balanced header (header.setState .idle) := by
  by_cases hstate : header.state = .refreshing
  · have hsame := setState_finished hstate
    rw [Balanced, hsame.loads, hsame.underway, hsame.state]
    simp [underway, dispatchAsync, animate, assignState, setSubviews]
  · by_cases hidle : header.state = .idle
    · rw [← hidle, setState_self]
      exact (SameWork.refl header).balanced
    · exact (Turn.putBack hidle hstate).setState.balanced hstate

theorem raiseInset_balanced (header : MJRefreshNormalHeader) :
    Balanced header header.raiseInset := by
  unfold raiseInset
  split_ifs
  · exact (SameWork.refl header).balanced
  · exact balanced_setScrollView.mp (setContentOffset_balanced _ _)

theorem drawRect_balanced (header : MJRefreshNormalHeader) : Balanced header header.drawRect := by
  unfold drawRect
  split_ifs with hwill
  · have hnot : header.state ≠ .refreshing := by simp [hwill]
    exact (Turn.refresh hnot).setState.balanced hnot
  · exact (SameWork.refl header).balanced

theorem popBlock_underway {block : MainBlock} (h : header.mainQueue.head? = some block) :
    header.underway = header.popBlock.underway +
      if block = .showHeader ∨ block = .refreshingCallback then 1 else 0 := by
  obtain ⟨blocks, hqueue⟩ := List.head?_eq_some_iff.mp h
  cases block <;> simp [underway, popBlock, hqueue] <;> omega

theorem popAnimation_underway {k : ℕ} {completion : AnimationBlock}
    (h : header.animations[k]? = some completion) :
    header.underway = (header.popAnimation k).underway +
      if completion = .headerShown then 1 else 0 := by
  obtain ⟨hk, hget⟩ := List.getElem?_eq_some_iff.mp h
  have hcount := (List.getElem_cons_eraseIdx_perm hk).count_eq AnimationBlock.headerShown
  rw [hget, List.count_cons] at hcount
  simp only [underway, popAnimation]
  cases completion <;> simp at hcount ⊢ <;> omega

theorem runBlock_balanced {block : MainBlock} (h : header.mainQueue.head? = some block) :
    Balanced header (header.popBlock.runBlock block) := by
  have hpop := popBlock_underway h
  cases block with
  | setNeedsLayout =>
    simp [Balanced, runBlock, hpop, popBlock]
  | showHeader =>
    have htotal := raiseInset_balanced header.popBlock
    have hmore : header.popBlock.showHeader.underway = header.popBlock.raiseInset.underway + 1 := by
      simp [underway, showHeader, animate]
      omega
    have hpopped : header.popBlock.state = header.state ∧
      header.popBlock.loads = header.loads := ⟨rfl, rfl⟩
    rw [Balanced, hpopped.1, hpopped.2] at htotal
    simp only [true_or, if_true] at hpop
    have hstate : (header.popBlock.runBlock .showHeader).state =
        header.popBlock.raiseInset.state := rfl
    have hloads : (header.popBlock.runBlock .showHeader).loads =
        header.popBlock.raiseInset.loads := rfl
    have hunder : (header.popBlock.runBlock .showHeader).underway =
        header.popBlock.raiseInset.underway + 1 := hmore
    rw [Balanced, hstate, hloads, hunder, hpop]
    omega
  | refreshingCallback =>
    have hstate : (header.popBlock.runBlock .refreshingCallback).state = header.state := rfl
    have hloads : (header.popBlock.runBlock .refreshingCallback).loads = header.loads + 1 := rfl
    have hunder : (header.popBlock.runBlock .refreshingCallback).underway =
        header.popBlock.underway := by
      simp [runBlock, refreshingBlock, endRefreshing, dispatchAsync, underway]
    rw [Balanced, hstate, hloads, hunder, hpop]
    simp
    omega
  | setIdle =>
    have htotal := setIdle_balanced header.popBlock
    simp only [reduceCtorEq, or_self, if_false, Nat.add_zero] at hpop
    rw [Balanced, hpop]
    exact htotal

theorem complete_balanced {k : ℕ} {completion : AnimationBlock}
    (h : header.animations[k]? = some completion) :
    Balanced header ((header.popAnimation k).complete completion) := by
  have hpop := popAnimation_underway h
  cases completion with
  | headerShown =>
    have hunder : ((header.popAnimation k).complete .headerShown).underway =
        (header.popAnimation k).underway + 1 := by
      simp [complete, executeRefreshingCallback, dispatchAsync, underway]
      omega
    have hstate : ((header.popAnimation k).complete .headerShown).state = header.state := rfl
    have hloads : ((header.popAnimation k).complete .headerShown).loads = header.loads := rfl
    rw [Balanced, hstate, hloads, hunder, hpop]
    simp
  | insetRestored =>
    have htotal := (setPullingPercent_work 0 (header.popAnimation k)).balanced
    simp only [reduceCtorEq, if_false, Nat.add_zero] at hpop
    rw [Balanced, hpop]
    exact htotal
  | loadingFaded =>
    have hsame : Balanced (header.popAnimation k) (header.popAnimation k).loadingFaded := by
      unfold loadingFaded
      split_ifs <;> simp [Balanced, underway, setSubviews]
    simp only [reduceCtorEq, if_false, Nat.add_zero] at hpop
    rw [Balanced, hpop]
    exact hsame

theorem Step.balanced {e : Event} (hst : Step header e t) : Balanced header t := by
  cases e with
  | scroll offsetY =>
    rw [← Option.some.inj hst]
    exact setContentOffset_balanced offsetY header
  | drag isDragging panCancelled =>
    rw [← Option.some.inj hst]
    exact (SameWork.refl header).balanced
  | window window =>
    rw [← Option.some.inj hst]
    exact (SameWork.refl header).balanced
  | adjust adjusted =>
    rw [← Option.some.inj hst]
    exact (SameWork.refl header).balanced
  | draw =>
    rw [← Option.some.inj hst]
    exact drawRect_balanced header
  | finish =>
    rw [← Option.some.inj hst]
    simp [Balanced, underway, endRefreshing, dispatchAsync]
  | main =>
    obtain ⟨block, hblock, rfl⟩ := Option.map_eq_some_iff.mp hst
    exact runBlock_balanced hblock
  | complete k =>
    obtain ⟨completion, hcompletion, rfl⟩ := Option.map_eq_some_iff.mp hst
    exact complete_balanced hcompletion

inductive Queued (header : MJRefreshNormalHeader) (e : Event) (t : MJRefreshNormalHeader) : Prop
  | more (added : List MainBlock) (hnot : e ≠ .main) (hqueue : t.mainQueue = header.mainQueue ++ added)
      (hloads : t.loads = header.loads)
  | first (block : MainBlock) (rest added : List MainBlock) (hmain : e = .main)
      (hhead : header.mainQueue = block :: rest) (hqueue : t.mainQueue = rest ++ added)
      (hloads : t.loads = header.loads + if block = .refreshingCallback then 1 else 0)
      (hidle : block = .setIdle → t.state = .idle)
      (hcallback : block = .refreshingCallback → .setIdle ∈ added ∧ t.state = header.state)

theorem scrollViewContentOffsetDidChange_queue (header : MJRefreshNormalHeader) : ∃ added,
    header.scrollViewContentOffsetDidChange.mainQueue = header.mainQueue ++ added ∧
      header.scrollViewContentOffsetDidChange.loads = header.loads := by
  obtain ⟨t, hsame, -, ht | ⟨state, hturns, ht⟩⟩ := scrollViewContentOffsetDidChange_cases header
  · exact ⟨[], by rw [ht, hsame.mainQueue, List.append_nil], by rw [ht, hsame.loads]⟩
  · have hturn : Turn t.state state := hsame.state.symm ▸ hturns.turn
    rw [ht]
    exact ⟨_, by rw [hturn.setState.mainQueue, hsame.mainQueue],
      by rw [hturn.setState.loads, hsame.loads]⟩

theorem raiseInset_queue (header : MJRefreshNormalHeader) : ∃ added,
    header.raiseInset.mainQueue = header.mainQueue ++ added ∧
      header.raiseInset.loads = header.loads := by
  unfold raiseInset
  split_ifs
  · exact ⟨[], (List.append_nil _).symm, rfl⟩
  · exact scrollViewContentOffsetDidChange_queue _

theorem setIdle_queue (header : MJRefreshNormalHeader) : ∃ added,
    (header.setState .idle).mainQueue = header.mainQueue ++ added ∧
      (header.setState .idle).loads = header.loads ∧ (header.setState .idle).state = .idle := by
  by_cases hstate : header.state = .refreshing
  · have hsame := setState_finished hstate
    exact ⟨[.setNeedsLayout], hsame.mainQueue, hsame.loads, hsame.state⟩
  · by_cases hidle : header.state = .idle
    · rw [← hidle, setState_self]
      exact ⟨[], (List.append_nil _).symm, rfl, rfl⟩
    · have hturned := (Turn.putBack hidle hstate).setState
      exact ⟨_, hturned.mainQueue, hturned.loads, hturned.state⟩

theorem runBlock_queued {block : MainBlock} (h : header.mainQueue.head? = some block) :
    Queued header .main (header.popBlock.runBlock block) := by
  obtain ⟨rest, hhead⟩ := List.head?_eq_some_iff.mp h
  have hpop : header.popBlock.mainQueue = rest := by simp [popBlock, hhead]
  cases block with
  | setNeedsLayout =>
    exact .first _ rest [] rfl hhead (hpop.trans (List.append_nil _).symm) rfl nofun nofun
  | showHeader =>
    obtain ⟨added, hqueue, hloads⟩ := raiseInset_queue header.popBlock
    rw [hpop] at hqueue
    exact .first _ rest added rfl hhead hqueue hloads nofun nofun
  | refreshingCallback =>
    have hqueue : (header.popBlock.runBlock .refreshingCallback).mainQueue = rest ++ [.setIdle] := by
      rw [← hpop]
      rfl
    exact .first _ rest [.setIdle] rfl hhead hqueue rfl nofun fun _ => ⟨by simp, rfl⟩
  | setIdle =>
    obtain ⟨added, hqueue, hloads, hstate⟩ := setIdle_queue header.popBlock
    rw [hpop] at hqueue
    exact .first _ rest added rfl hhead hqueue hloads (fun _ => hstate) nofun

theorem Step.queued {e : Event} (hst : Step header e t) : Queued header e t := by
  cases e with
  | scroll offsetY =>
    obtain ⟨added, hqueue, hloads⟩ := scrollViewContentOffsetDidChange_queue
      (header.setScrollView (header.scrollView.setContentOffset offsetY))
    rw [← Option.some.inj hst]
    exact .more added nofun hqueue hloads
  | drag | window | adjust =>
    rw [← Option.some.inj hst]
    exact .more [] nofun (List.append_nil _).symm rfl
  | draw =>
    rw [← Option.some.inj hst, drawRect]
    split_ifs with hwill
    · have hturn : Turn header.state .refreshing := .refresh (by simp [hwill])
      have hturned := hturn.setState
      exact .more _ nofun hturned.mainQueue hturned.loads
    · exact .more [] nofun (List.append_nil _).symm rfl
  | finish =>
    rw [← Option.some.inj hst]
    exact .more [.setIdle] nofun rfl rfl
  | main =>
    obtain ⟨block, hblock, rfl⟩ := Option.map_eq_some_iff.mp hst
    exact runBlock_queued hblock
  | complete k =>
    obtain ⟨completion, -, rfl⟩ := Option.map_eq_some_iff.mp hst
    cases completion with
    | headerShown => exact .more [.refreshingCallback] nofun rfl rfl
    | insetRestored =>
      have hsame := setPullingPercent_work 0 (header.popAnimation k)
      exact .more [] nofun (hsame.mainQueue.trans (List.append_nil _).symm) hsame.loads
    | loadingFaded =>
      refine .more [] nofun ?_ ?_
      all_goals
        simp only [complete, loadingFaded, List.append_nil]
        split_ifs <;> rfl

theorem Step.loads {e : Event} (hst : Step header e t) : t.loads = header.loads +
    if e = .main ∧ header.mainQueue.head? = some .refreshingCallback then 1 else 0 := by
  cases hst.queued with
  | more added hnot hqueue hloads => simp [hloads, hnot]
  | first block rest added hmain hhead hqueue hloads hidle hcallback => simp [hloads, hmain, hhead]

def Answered (header : MJRefreshNormalHeader) : Prop :=
  header.state = .refreshing → 0 < header.underway ∨ .setIdle ∈ header.mainQueue

theorem Step.answered {e : Event} (hst : Step header e t) (h : Answered header) : Answered t := by
  intro hstate
  have htotal := hst.balanced
  rw [Balanced, hstate] at htotal
  by_cases hstarts : header.state = .refreshing
  · simp only [hstarts, ne_eq, not_true_eq_false, false_and, if_false] at htotal
    cases hst.queued with
    | more added hnot hqueue hloads =>
      obtain hunder | hwaits := h hstarts
      · left
        omega
      · right
        rw [hqueue]
        exact List.mem_append_left _ hwaits
    | first block rest added hmain hhead hqueue hloads hidle hcallback =>
      by_cases hblock : block = .refreshingCallback
      · right
        rw [hqueue]
        exact List.mem_append_right _ (hcallback hblock).1
      · simp only [hblock, if_false] at hloads
        obtain hunder | hwaits := h hstarts
        · left
          omega
        · right
          rw [hhead] at hwaits
          obtain rfl | hrest := List.mem_cons.mp hwaits
          · have hend := hidle rfl
            rw [hstate] at hend
            cases hend
          · rw [hqueue]
            exact List.mem_append_left _ hrest
  · left
    simp only [hstarts, ne_eq, not_false_eq_true, true_and, if_true] at htotal
    have hloads : t.loads = header.loads := by
      cases hst.queued with
      | more added hnot hqueue hloads => exact hloads
      | first block rest added hmain hhead hqueue hloads hidle hcallback =>
        rw [hloads]
        split_ifs with hblock
        · rw [← (hcallback hblock).2] at hstarts
          exact absurd hstate hstarts
        · rfl
    omega

theorem setMj_header_answered (localized : NSString → NSString) (automaticallyChangeAlpha : Bool)
    (scrollView : RefreshScrollView) :
    Answered (setMj_header localized automaticallyChangeAlpha scrollView) := by
  cases automaticallyChangeAlpha <;> nofun

theorem setMj_header_underway (localized : NSString → NSString) (automaticallyChangeAlpha : Bool)
    (scrollView : RefreshScrollView) :
    (setMj_header localized automaticallyChangeAlpha scrollView).loads +
      (setMj_header localized automaticallyChangeAlpha scrollView).underway = 0 := by
  cases automaticallyChangeAlpha <;> rfl

theorem loads_add_underway {tr : List (Event × MJRefreshNormalHeader)}
    (htr : Trace Step header tr) : (last header tr).loads + (last header tr).underway =
      header.loads + header.underway + tally Starts header tr :=
  Trace.tally_eq (I := fun _ => True) (f := fun header => header.loads + header.underway)
    (fun _ _ _ _ _ => trivial) (fun _ _ _ _ hst => hst.balanced) htr trivial

theorem run_loads_once {localized : NSString → NSString} {automaticallyChangeAlpha : Bool}
    {scrollView : RefreshScrollView}
    {tr : List (Event × MJRefreshNormalHeader)}
    (htr : Trace Step (setMj_header localized automaticallyChangeAlpha scrollView) tr) :
    (last (setMj_header localized automaticallyChangeAlpha scrollView) tr).loads +
        (last (setMj_header localized automaticallyChangeAlpha scrollView) tr).underway =
      tally Starts (setMj_header localized automaticallyChangeAlpha scrollView) tr := by
  have htotal := loads_add_underway htr
  rw [setMj_header_underway, Nat.zero_add] at htotal
  exact htotal

def pullAndLetGo : List Event :=
  [.window true, .drag true false, .scroll (-60), .drag false false, .scroll (-58), .main, .main,
    .main, .main, .complete 0, .main]

theorem pulled_loads_once :
    (run handle (setMj_header id false {}) pullAndLetGo).length = pullAndLetGo.length ∧
      (last (setMj_header id false {}) (run handle (setMj_header id false {}) pullAndLetGo)).loads = 1 ∧
      (last (setMj_header id false {}) (run handle (setMj_header id false {}) pullAndLetGo)).loads +
          (last (setMj_header id false {}) (run handle (setMj_header id false {}) pullAndLetGo)).underway =
        tally Starts (setMj_header id false {}) (run handle (setMj_header id false {}) pullAndLetGo) := by
  refine ⟨by decide +kernel, by decide +kernel, ?_⟩
  exact run_loads_once (trace_run (fun _ _ _ h => h) _ _)

end MixedProject.MJRefreshNormalHeader
