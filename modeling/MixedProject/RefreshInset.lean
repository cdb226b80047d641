import MixedProject.RefreshLoads
import Mathlib.Tactic.Linarith

namespace MixedProject.MJRefreshNormalHeader

open Traces

variable {header t : MJRefreshNormalHeader} {inset : CGFloat}

def HeaderWaits (mainQueue : List MainBlock) : Prop :=
  ∃ before after, mainQueue = before ++ .showHeader :: after ∧
    .setIdle ∉ before ∧ .showHeader ∉ before ∧ .showHeader ∉ after

theorem HeaderWaits.append {mainQueue added : List MainBlock} (h : HeaderWaits mainQueue)
    (hadded : .showHeader ∉ added) : HeaderWaits (mainQueue ++ added) := by
  obtain ⟨before, after, rfl, hidle, hbefore, hafter⟩ := h
  refine ⟨before, after ++ added, by simp, hidle, hbefore, ?_⟩
  simp [hafter, hadded]

theorem HeaderWaits.rest {block : MainBlock} {rest : List MainBlock}
    (h : HeaderWaits (block :: rest)) (hblock : block ≠ .showHeader) :
    block ≠ .setIdle ∧ HeaderWaits rest := by
  obtain ⟨before, after, heq, hidle, hbefore, hafter⟩ := h
  cases before with
  | nil =>
    rw [List.nil_append, List.cons.injEq] at heq
    exact absurd heq.1 hblock
  | cons first before =>
    rw [List.cons_append, List.cons.injEq] at heq
    obtain ⟨rfl, rfl⟩ := heq
    rw [List.mem_cons, not_or] at hidle hbefore
    exact ⟨Ne.symm hidle.1, before, after, rfl, hidle.2, hbefore.2, hafter⟩

theorem HeaderWaits.shown {rest : List MainBlock} (h : HeaderWaits (.showHeader :: rest)) :
    .showHeader ∉ rest := by
  obtain ⟨before, after, heq, -, hbefore, hafter⟩ := h
  cases before with
  | nil =>
    rw [List.nil_append, List.cons.injEq] at heq
    rw [heq.2]
    exact hafter
  | cons first before =>
    rw [List.cons_append, List.cons.injEq] at heq
    rw [← heq.1] at hbefore
    simp at hbefore

/-- The inset is `inset` unless a refresh is on, and then the header knows how to restore it. -/
structure Reserved (inset : CGFloat) (header : MJRefreshNormalHeader) : Prop where
  least : inset ≤ header.scrollView.contentInset
  most : header.scrollView.contentInset ≤ inset + MJRefreshHeaderHeight
  calm : header.state ≠ .refreshing →
    .showHeader ∉ header.mainQueue ∧ header.scrollView.contentInset = inset
  original : header.isRefreshing = true →
    header.scrollViewOriginalInset = inset + header.scrollView.adjusted
  busy : header.state = .refreshing → HeaderWaits header.mainQueue ∨
    .showHeader ∉ header.mainQueue ∧
      header.scrollView.contentInset + header.insetTDelta = inset

def Event.adjusts : Event → Bool
  | .adjust _ => true
  | _ => false

/-- No refresh begins while the end of another waits, the header is shown on the screen and not
under a cancelled pan, and the system leaves the inset alone during a refresh. -/
structure Orderly (header : MJRefreshNormalHeader) (e : Event) (t : MJRefreshNormalHeader) :
    Prop where
  ended : Starts header e t → .setIdle ∉ header.mainQueue
  shown : e = .main → header.mainQueue.head? = some .showHeader →
    header.window = true ∧ header.scrollView.panCancelled = false
  kept : header.isRefreshing = true → e.adjusts = false

instance (header : MJRefreshNormalHeader) (e : Event) (t : MJRefreshNormalHeader) :
    Decidable (Orderly header e t) :=
  decidable_of_iff ((Starts header e t → .setIdle ∉ header.mainQueue) ∧
      (e = .main → header.mainQueue.head? = some .showHeader →
        header.window = true ∧ header.scrollView.panCancelled = false) ∧
      (header.isRefreshing = true → e.adjusts = false))
    ⟨fun h => ⟨h.1, h.2.1, h.2.2⟩, fun h => ⟨h.ended, h.shown, h.kept⟩⟩

structure Followed (header t : MJRefreshNormalHeader) : Prop where
  scrollView : t.scrollView = header.scrollView
  original : t.scrollViewOriginalInset = header.scrollView.mj_insetT
  mainQueue : ∃ added, t.mainQueue = header.mainQueue ++ added ∧
    (t.state = .refreshing → added = [.setNeedsLayout, .showHeader]) ∧
    (t.state ≠ .refreshing → .showHeader ∉ added)

theorem scrollViewContentOffsetDidChange_followed (h : header.state ≠ .refreshing) :
    Followed header header.scrollViewContentOffsetDidChange := by
  unfold scrollViewContentOffsetDidChange
  rw [if_neg h]
  have hidle : (header.setScrollViewOriginalInset header.scrollView.mj_insetT).state ≠ .refreshing := h
  obtain ⟨t, hsame, -, ht | ⟨state, hturns, ht⟩⟩ := followOffset_cases hidle
  · rw [ht]
    refine ⟨hsame.scrollView, hsame.original, [], ?_, ?_, by simp⟩
    · rw [List.append_nil]
      exact hsame.mainQueue
    · intro hstate
      exact absurd (hsame.state ▸ hstate) h
  · have hturn : Turn t.state state := hsame.state.symm ▸ hturns.turn
    have hturned := hturn.setState
    rw [ht]
    refine ⟨hturned.scrollView.trans hsame.scrollView, hturned.original.trans hsame.original,
      if state = .refreshing then [.setNeedsLayout, .showHeader] else [.setNeedsLayout], ?_, ?_, ?_⟩
    · rw [hturned.mainQueue, hsame.mainQueue]
      rfl
    · intro hstate
      rw [hturned.state] at hstate
      rw [if_pos hstate]
    · intro hstate
      rw [hturned.state] at hstate
      rw [if_neg hstate]
      simp

theorem keepInset_inset (header : MJRefreshNormalHeader) :
    header.keepInset.scrollView.contentInset + header.keepInset.insetTDelta +
        header.scrollView.adjusted = header.scrollViewOriginalInset ∧
      header.scrollViewOriginalInset ≤ header.keepInset.scrollView.mj_insetT ∧
      header.keepInset.scrollView.mj_insetT ≤
        header.scrollViewOriginalInset + MJRefreshHeaderHeight := by
  have hheight : (0 : CGFloat) ≤ MJRefreshHeaderHeight := by decide
  simp only [keepInset, setScrollView, setInsetTDelta, RefreshScrollView.setMj_insetT,
    RefreshScrollView.mj_insetT]
  refine ⟨by ring, ?_, ?_⟩ <;> split_ifs <;> linarith

namespace Reserved

theorem keepInset (h : Reserved inset header) (hstate : header.state = .refreshing) :
    Reserved inset header.keepInset := by
  obtain ⟨hrestore, hleast, hmost⟩ := keepInset_inset header
  have horiginal := h.original (by simp [isRefreshing, hstate])
  have hinset : header.keepInset.scrollView.mj_insetT =
      header.keepInset.scrollView.contentInset + header.scrollView.adjusted := rfl
  rw [hinset] at hleast hmost
  refine ⟨by linarith, by linarith, fun hnot => absurd hstate hnot, fun _ => horiginal, ?_⟩
  intro _
  obtain hwaits | ⟨hshown, -⟩ := h.busy hstate
  · exact .inl hwaits
  · exact .inr ⟨hshown, by linarith⟩

theorem scrollViewContentOffsetDidChange (h : Reserved inset header)
    (hend : header.state ≠ .refreshing →
      header.scrollViewContentOffsetDidChange.state = .refreshing → .setIdle ∉ header.mainQueue) :
    Reserved inset header.scrollViewContentOffsetDidChange := by
  by_cases hstate : header.state = .refreshing
  · unfold MJRefreshNormalHeader.scrollViewContentOffsetDidChange
    rw [if_pos hstate]
    split_ifs
    · exact h
    · exact h.keepInset hstate
  · have hfollow := scrollViewContentOffsetDidChange_followed hstate
    have hidle := hend hstate
    generalize header.scrollViewContentOffsetDidChange = t at hfollow hidle ⊢
    obtain ⟨added, hqueue, hbegun, hnone⟩ := hfollow.mainQueue
    obtain ⟨hshow, hinset⟩ := h.calm hstate
    have horiginal : t.scrollViewOriginalInset = inset + t.scrollView.adjusted := by
      rw [hfollow.original, hfollow.scrollView, RefreshScrollView.mj_insetT, hinset]
    refine ⟨?_, ?_, ?_, fun _ => horiginal, ?_⟩
    · rw [hfollow.scrollView]
      exact h.least
    · rw [hfollow.scrollView]
      exact h.most
    · intro hnot
      rw [hfollow.scrollView, hqueue]
      simp [hshow, hinset, hnone hnot]
    · intro hbegins
      left
      rw [hqueue, hbegun hbegins]
      refine ⟨header.mainQueue ++ [.setNeedsLayout], [], by simp, ?_, ?_, by simp⟩
      · simp [hidle hbegins]
      · simp [hshow]

theorem same (h : Reserved inset header) (hscroll : t.scrollView.contentInset =
      header.scrollView.contentInset ∧ t.scrollView.adjusted = header.scrollView.adjusted)
    (hstate : t.state = header.state) (hqueue : t.mainQueue = header.mainQueue)
    (hdelta : t.insetTDelta = header.insetTDelta)
    (horiginal : t.scrollViewOriginalInset = header.scrollViewOriginalInset) :
    Reserved inset t := by
  obtain ⟨hinset, hadjusted⟩ := hscroll
  have hrefreshing : t.isRefreshing = header.isRefreshing := by simp [isRefreshing, hstate]
  constructor
  · exact hinset ▸ h.least
  · exact hinset ▸ h.most
  · rw [hstate, hqueue, hinset]
    exact h.calm
  · rw [hrefreshing, horiginal, hadjusted]
    exact h.original
  · rw [hstate, hqueue, hinset, hdelta]
    exact h.busy

theorem dispatchAsync (h : Reserved inset header) {blocks : List MainBlock}
    (hblocks : .showHeader ∉ blocks) : Reserved inset (header.dispatchAsync blocks) := by
  refine ⟨h.least, h.most, ?_, h.original, ?_⟩
  · intro hstate
    obtain ⟨hshow, hinset⟩ := h.calm hstate
    exact ⟨by simp [MJRefreshNormalHeader.dispatchAsync, hshow, hblocks], hinset⟩
  · intro hstate
    obtain hwaits | ⟨hshow, hinset⟩ := h.busy hstate
    · exact .inl (hwaits.append hblocks)
    · exact .inr ⟨by simp [MJRefreshNormalHeader.dispatchAsync, hshow, hblocks], hinset⟩

theorem popBlock (h : Reserved inset header) {block : MainBlock} {rest : List MainBlock}
    (hqueue : header.mainQueue = block :: rest) (hblock : block ≠ .showHeader) :
    Reserved inset header.popBlock := by
  have hrest : header.popBlock.mainQueue = rest := by
    simp [MJRefreshNormalHeader.popBlock, hqueue]
  have hmem : .showHeader ∉ header.mainQueue → .showHeader ∉ header.popBlock.mainQueue := by
    intro hnot hmem
    rw [hrest] at hmem
    apply hnot
    rw [hqueue]
    exact List.mem_cons_of_mem _ hmem
  refine ⟨h.least, h.most, ?_, h.original, ?_⟩
  · intro hstate
    obtain ⟨hshow, hinset⟩ := h.calm hstate
    exact ⟨hmem hshow, hinset⟩
  · intro hstate
    obtain hwaits | ⟨hshow, hinset⟩ := h.busy hstate
    · left
      rw [hqueue] at hwaits
      rw [hrest]
      exact (hwaits.rest hblock).2
    · exact .inr ⟨hmem hshow, hinset⟩

theorem turn (h : Reserved inset header) {target : MJRefreshState}
    (hturn : Turn header.state target) (htarget : target ≠ .refreshing ∧ target ≠ .willRefresh) :
    Reserved inset (header.setState target) := by
  have hturned := hturn.setState
  obtain ⟨hshow, hinset⟩ := h.calm hturn.not_refreshing
  refine ⟨?_, ?_, ?_, ?_, ?_⟩
  · rw [hturned.scrollView]
    exact h.least
  · rw [hturned.scrollView]
    exact h.most
  · intro _
    rw [hturned.scrollView, hturned.mainQueue, if_neg htarget.1]
    exact ⟨by simp [hshow], hinset⟩
  · intro hrefreshing
    simp [isRefreshing, hturned.state, htarget.1, htarget.2] at hrefreshing
  · intro hstate
    rw [hturned.state] at hstate
    exact absurd hstate htarget.1

theorem drawRect (h : Reserved inset header)
    (hend : header.state ≠ .refreshing → header.drawRect.state = .refreshing →
      .setIdle ∉ header.mainQueue) : Reserved inset header.drawRect := by
  unfold MJRefreshNormalHeader.drawRect at hend ⊢
  split_ifs at hend ⊢ with hwill
  · have hnot : header.state ≠ .refreshing := by simp [hwill]
    have hturned := (Turn.refresh hnot).setState
    obtain ⟨hshow, hinset⟩ := h.calm hnot
    refine ⟨?_, ?_, fun hstill => absurd hturned.state hstill, ?_, ?_⟩
    · rw [hturned.scrollView]
      exact h.least
    · rw [hturned.scrollView]
      exact h.most
    · intro _
      rw [hturned.original, hturned.scrollView]
      exact h.original (by simp [isRefreshing, hwill])
    · intro hstate
      left
      rw [hturned.mainQueue, if_pos rfl]
      refine ⟨header.mainQueue ++ [.setNeedsLayout], [], by simp, ?_, ?_, by simp⟩
      · simp [hend hnot hstate]
      · simp [hshow]
  · exact h

theorem restored (hstate : header.state = .refreshing)
    (hshown : .showHeader ∉ header.mainQueue)
    (hinset : header.scrollView.contentInset + header.insetTDelta = inset) :
    Reserved inset (header.setState .idle) := by
  have hsame := setState_finished hstate
  have hidle : (header.setState .idle).state = .idle := hsame.state
  have hqueue : (header.setState .idle).mainQueue = header.mainQueue ++ [.setNeedsLayout] :=
    hsame.mainQueue
  have hback : (header.setState .idle).scrollView.contentInset = inset := by
    rw [setState_finish hstate, ← hinset]
    simp only [MJRefreshHeader.restoreInset]
    split_ifs <;> simp [setScrollView, setAlpha, setSubviews, animate, assignState,
      MJRefreshNormalHeader.dispatchAsync, RefreshScrollView.setMj_insetT,
      RefreshScrollView.mj_insetT] <;> ring
  have hheight : (0 : CGFloat) ≤ MJRefreshHeaderHeight := by decide
  refine ⟨by linarith, by linarith, fun _ => ⟨?_, hback⟩, ?_, ?_⟩
  · rw [hqueue]
    simp [hshown]
  · intro hrefreshing
    simp [isRefreshing, hidle] at hrefreshing
  · intro hrefreshing
    rw [hidle] at hrefreshing
    cases hrefreshing

theorem setIdle (h : Reserved inset header) {rest : List MainBlock}
    (hqueue : header.mainQueue = .setIdle :: rest) :
    Reserved inset (header.popBlock.setState .idle) := by
  have hpop := h.popBlock hqueue (by simp)
  by_cases hstate : header.state = .refreshing
  · obtain hwaits | ⟨hshown, hinset⟩ := hpop.busy hstate
    · obtain hwaits | ⟨hshown, -⟩ := h.busy hstate
      · rw [hqueue] at hwaits
        exact absurd rfl (hwaits.rest (by simp)).1
      · have hnone : .showHeader ∉ header.popBlock.mainQueue := by
          intro hmem
          apply hshown
          rw [hqueue]
          simp only [MJRefreshNormalHeader.popBlock, hqueue, List.tail_cons] at hmem
          exact List.mem_cons_of_mem _ hmem
        obtain ⟨before, after, heq, -⟩ := hwaits
        rw [heq] at hnone
        simp at hnone
    · exact restored hstate hshown hinset
  · by_cases hidle : header.popBlock.state = .idle
    · rw [← hidle, setState_self]
      exact hpop
    · exact hpop.turn (.putBack hidle hstate) ⟨by simp, by simp⟩

theorem showHeader (h : Reserved inset header) {rest : List MainBlock}
    (hqueue : header.mainQueue = .showHeader :: rest)
    (hshown : header.window = true ∧ header.scrollView.panCancelled = false) :
    Reserved inset header.popBlock.showHeader := by
  have hstate : header.state = .refreshing := by
    by_contra hnot
    have hmem := (h.calm hnot).1
    rw [hqueue] at hmem
    simp at hmem
  have hnone : .showHeader ∉ rest := by
    obtain hwaits | ⟨hnot, -⟩ := h.busy hstate
    · rw [hqueue] at hwaits
      exact hwaits.shown
    · rw [hqueue] at hnot
      simp at hnot
  have horiginal := h.original (by simp [isRefreshing, hstate])
  obtain ⟨u, hu⟩ : ∃ u, u = (header.popBlock.setScrollView
      (header.scrollView.setMj_insetT
        (header.scrollViewOriginalInset + MJRefreshHeaderHeight))).setScrollView
      ((header.scrollView.setMj_insetT
        (header.scrollViewOriginalInset + MJRefreshHeaderHeight)).setContentOffset
          (-(header.scrollViewOriginalInset + MJRefreshHeaderHeight))) := ⟨_, rfl⟩
  have hfields : u.state = .refreshing ∧ u.window = true ∧ u.mainQueue = rest ∧
      u.scrollViewOriginalInset = header.scrollViewOriginalInset ∧
      u.scrollView.adjusted = header.scrollView.adjusted := by
    rw [hu]
    refine ⟨hstate, hshown.1, ?_, rfl, rfl⟩
    simp [setScrollView, MJRefreshNormalHeader.popBlock, hqueue]
  have hshow : header.popBlock.showHeader = u.keepInset.animate [.headerShown] := by
    have hpan : header.popBlock.scrollView.panCancelled = false := hshown.2
    have hdid : u.scrollViewContentOffsetDidChange = u.keepInset := by
      unfold MJRefreshNormalHeader.scrollViewContentOffsetDidChange
      rw [if_pos hfields.1, hfields.2.1]
      rfl
    rw [MJRefreshNormalHeader.showHeader, raiseInset, if_neg (by simp [hpan]), ← hdid, hu]
    rfl
  obtain ⟨hrestore, hleast, hmost⟩ := keepInset_inset u
  have hinset : u.keepInset.scrollView.mj_insetT =
      u.keepInset.scrollView.contentInset + u.scrollView.adjusted := rfl
  rw [hinset] at hleast hmost
  obtain ⟨hrefreshing, -, hwaiting, hsame, hadjusted⟩ := hfields
  rw [hsame, hadjusted, horiginal] at hrestore hleast hmost
  rw [hshow]
  refine ⟨?_, ?_, fun hnot => absurd hrefreshing hnot, ?_, ?_⟩
  · change inset ≤ u.keepInset.scrollView.contentInset
    linarith
  · change u.keepInset.scrollView.contentInset ≤ _
    linarith
  · intro _
    change u.scrollViewOriginalInset = inset + u.scrollView.adjusted
    rw [hsame, hadjusted, horiginal]
  · intro _
    right
    change .showHeader ∉ u.mainQueue ∧
      u.keepInset.scrollView.contentInset + u.keepInset.insetTDelta = inset
    rw [hwaiting]
    exact ⟨hnone, by linarith⟩

theorem complete (h : Reserved inset header) (completion : AnimationBlock) :
    Reserved inset (header.complete completion) := by
  cases completion with
  | headerShown => exact h.dispatchAsync (by simp)
  | insetRestored =>
    have hplace := setPullingPercent_place 0 header
    exact h.same (by rw [MJRefreshNormalHeader.complete, hplace.scrollView]; exact ⟨rfl, rfl⟩)
      hplace.state hplace.mainQueue hplace.insetTDelta hplace.original
  | loadingFaded =>
    simp only [MJRefreshNormalHeader.complete, loadingFaded]
    split_ifs
    · exact h
    · exact h.same ⟨rfl, rfl⟩ rfl rfl rfl rfl

theorem step {e : Event} (h : Reserved inset header) (hst : Step header e t)
    (horderly : Orderly header e t) : Reserved inset t := by
  cases e with
  | scroll offsetY =>
    have ht := Option.some.inj hst
    rw [← ht] at horderly ⊢
    have hmoved : Reserved inset
        (header.setScrollView (header.scrollView.setContentOffset offsetY)) :=
      h.same ⟨rfl, rfl⟩ rfl rfl rfl rfl
    exact hmoved.scrollViewContentOffsetDidChange fun hnot hbegins => horderly.ended ⟨hnot, hbegins⟩
  | drag isDragging panCancelled =>
    rw [← Option.some.inj hst]
    exact h.same ⟨rfl, rfl⟩ rfl rfl rfl rfl
  | window window =>
    rw [← Option.some.inj hst]
    exact h.same ⟨rfl, rfl⟩ rfl rfl rfl rfl
  | adjust adjusted =>
    have hnot : header.isRefreshing ≠ true := fun hrefreshing =>
      Bool.noConfusion (horderly.kept hrefreshing)
    have hcalm : header.state ≠ .refreshing := by
      intro hstate
      simp [isRefreshing, hstate] at hnot
    rw [← Option.some.inj hst]
    exact ⟨h.least, h.most, h.calm, fun hrefreshing => absurd hrefreshing hnot,
      fun hstate => absurd hstate hcalm⟩
  | draw =>
    have ht := Option.some.inj hst
    rw [← ht] at horderly ⊢
    exact h.drawRect fun hnot hbegins => horderly.ended ⟨hnot, hbegins⟩
  | finish =>
    rw [← Option.some.inj hst]
    exact h.dispatchAsync (by simp)
  | main =>
    obtain ⟨block, hblock, rfl⟩ := Option.map_eq_some_iff.mp hst
    obtain ⟨rest, hqueue⟩ := List.head?_eq_some_iff.mp hblock
    cases block with
    | setNeedsLayout => exact h.popBlock hqueue (by simp)
    | showHeader => exact h.showHeader hqueue (horderly.shown rfl hblock)
    | refreshingCallback =>
      have hloaded : Reserved inset
          { header.popBlock with loads := header.popBlock.loads + 1 } :=
        (h.popBlock hqueue (by simp)).same ⟨rfl, rfl⟩ rfl rfl rfl rfl
      exact hloaded.dispatchAsync (by simp)
    | setIdle => exact h.setIdle hqueue
  | complete k =>
    obtain ⟨completion, -, rfl⟩ := Option.map_eq_some_iff.mp hst
    have hpop : Reserved inset (header.popAnimation k) := h.same ⟨rfl, rfl⟩ rfl rfl rfl rfl
    exact hpop.complete completion

end Reserved

theorem setMj_header_reserved (localized : NSString → NSString) (automaticallyChangeAlpha : Bool)
    (scrollView : RefreshScrollView) :
    Reserved scrollView.contentInset (setMj_header localized automaticallyChangeAlpha scrollView) := by
  have hheight : (0 : CGFloat) ≤ MJRefreshHeaderHeight := by decide
  have hnone : MainBlock.showHeader ∉ [MainBlock.setNeedsLayout] := by decide
  cases automaticallyChangeAlpha <;> exact ⟨le_refl _, le_add_of_nonneg_right hheight,
    fun _ => ⟨hnone, rfl⟩, nofun, nofun⟩

theorem run_inset_restored {localized : NSString → NSString} {automaticallyChangeAlpha : Bool}
    {scrollView : RefreshScrollView}
    {tr : List (Event × MJRefreshNormalHeader)}
    (htr : Trace (fun header e t => Step header e t ∧ Orderly header e t)
      (setMj_header localized automaticallyChangeAlpha scrollView) tr) :
    Always (fun header => scrollView.contentInset ≤ header.scrollView.contentInset ∧
        header.scrollView.contentInset ≤ scrollView.contentInset + MJRefreshHeaderHeight ∧
        (header.state ≠ .refreshing →
          header.scrollView.contentInset = scrollView.contentInset))
      (setMj_header localized automaticallyChangeAlpha scrollView) tr := by
  have hreserved := htr.always (I := Reserved scrollView.contentInset)
    (fun _ _ _ h hst => h.step hst.1 hst.2) (setMj_header_reserved _ _ _)
  exact hreserved.mono fun _ h => ⟨h.least, h.most, fun hstate => (h.calm hstate).2⟩

def orderlyStep (header : MJRefreshNormalHeader) (e : Event) : Option MJRefreshNormalHeader :=
  (handle header e).filter fun t => Orderly header e t

theorem orderlyStep_some (header : MJRefreshNormalHeader) (e : Event) (t : MJRefreshNormalHeader)
    (h : orderlyStep header e = some t) : Step header e t ∧ Orderly header e t := by
  obtain ⟨hst, horderly⟩ := Option.filter_eq_some_iff.mp h
  exact ⟨hst, of_decide_eq_true horderly⟩

theorem pulled_inset_restored :
    (run orderlyStep (setMj_header id false { contentInset := 4 })
        (pullAndLetGo ++ [.main])).length = 12 ∧
      (run orderlyStep (setMj_header id false { contentInset := 4 }) pullAndLetGo).map
        (fun step => step.2.scrollView.contentInset) = [4, 4, 4, 4, 4, 4, 4, 4, 58, 58, 58] ∧
      Always (fun header => (4 : CGFloat) ≤ header.scrollView.contentInset ∧
          header.scrollView.contentInset ≤ 4 + MJRefreshHeaderHeight ∧
          (header.state ≠ .refreshing → header.scrollView.contentInset = 4))
        (setMj_header id false { contentInset := 4 })
        (run orderlyStep (setMj_header id false { contentInset := 4 }) (pullAndLetGo ++ [.main])) := by
  refine ⟨by decide +kernel, by decide +kernel, ?_⟩
  exact run_inset_restored (trace_run orderlyStep_some _ _)

end MixedProject.MJRefreshNormalHeader
