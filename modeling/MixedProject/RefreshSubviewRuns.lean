import MixedProject.RefreshLoads

namespace MixedProject.MJRefreshNormalHeader

open Traces

variable {localized : NSString → NSString} {header t : MJRefreshNormalHeader}

structure ShowsState (localized : NSString → NSString) (header : MJRefreshNormalHeader) : Prop where
  titles : header.subviews.stateTitles = (headerWithRefreshingBlock localized).subviews.stateTitles
  title : header.subviews.stateLabel = header.subviews.titleForState header.state
  hidden : header.subviews.arrowHidden = header.subviews.isAnimating
  refreshing : header.state = .refreshing →
    header.subviews.isAnimating = true ∧ header.subviews.loadingAlpha = 1
  pulling : header.state = .pulling →
    header.subviews.isAnimating = false ∧ header.subviews.arrowTurned = true
  idle : header.state = .idle → header.subviews.arrowTurned = false ∧
    (.loadingFaded ∉ header.animations → header.subviews.isAnimating = false)
  solid : header.isRefreshing = true → header.alpha = 1
  used : header.state ≠ .noMoreData

theorem ShowsState.same (h : ShowsState localized header) (hsame : SameWork header t)
    (halpha : header.isRefreshing = true → t.alpha = header.alpha) : ShowsState localized t := by
  have hrefreshing : t.isRefreshing = header.isRefreshing := by simp [isRefreshing, hsame.state]
  constructor
  · rw [hsame.subviews]
    exact h.titles
  · rw [hsame.subviews, hsame.state]
    exact h.title
  · rw [hsame.subviews]
    exact h.hidden
  · rw [hsame.subviews, hsame.state]
    exact h.refreshing
  · rw [hsame.subviews, hsame.state]
    exact h.pulling
  · rw [hsame.subviews, hsame.state, hsame.animations]
    exact h.idle
  · intro hr
    rw [hrefreshing] at hr
    rw [halpha hr]
    exact h.solid hr
  · rw [hsame.state]
    exact h.used

theorem ShowsState.turn {target : MJRefreshState} (h : ShowsState localized header)
    (hturn : Turn header.state target)
    (hsolid : target = .refreshing ∨ target = .willRefresh → header.alpha = 1) :
    ShowsState localized (header.setState target) := by
  have hturned := hturn.setState
  have htitles := hturned.titles.trans h.titles
  have halpha : (header.setState target).isRefreshing = true → (header.setState target).alpha = 1 := by
    intro hr
    rw [hturned.alpha]
    apply hsolid
    simpa [isRefreshing, hturned.state] using hr
  generalize hold : header.state = old at hturn
  cases hturn with
  | pull =>
    have hnot : header.state ≠ .pulling := by simp [hold]
    have heq := setState_pulling hnot
    refine ⟨htitles, ?_, ?_, ?_, ?_, ?_, halpha, ?_⟩ <;> rw [heq] <;>
      simp [setSubviews, dispatchAsync, assignState, RefreshSubviews.setStateLabel,
        RefreshSubviews.titleForState,
        RefreshSubviews.showArrow, RefreshSubviews.turnArrow]
  | putBack hidle hnot =>
    subst hold
    have heq := setState_putBack hidle hnot
    refine ⟨htitles, ?_, ?_, ?_, ?_, ?_, halpha, ?_⟩ <;> rw [heq] <;>
      simp [setSubviews, dispatchAsync, assignState, RefreshSubviews.setStateLabel,
        RefreshSubviews.titleForState,
        RefreshSubviews.showArrow, RefreshSubviews.turnArrow]
  | refresh hnot =>
    subst hold
    have heq := setState_refreshing hnot
    refine ⟨htitles, ?_, ?_, ?_, ?_, ?_, halpha, ?_⟩ <;> rw [heq] <;>
      simp [setSubviews, dispatchAsync, assignState, RefreshSubviews.setStateLabel,
        RefreshSubviews.titleForState,
        RefreshSubviews.showLoading, RefreshSubviews.setLoadingAlpha]
  | defer =>
    have hnot : header.state ≠ .willRefresh := by simp [hold]
    have heq := setState_willRefresh hnot
    refine ⟨htitles, ?_, ?_, ?_, ?_, ?_, halpha, ?_⟩ <;> rw [heq] <;>
      simp [setSubviews, dispatchAsync, assignState, RefreshSubviews.setStateLabel,
        RefreshSubviews.titleForState, h.hidden]

theorem ShowsState.setIdle (h : ShowsState localized header) :
    ShowsState localized (header.setState .idle) := by
  by_cases hstate : header.state = .refreshing
  · have hsame := setState_finished hstate
    have hidle : (header.setState .idle).state = .idle := hsame.state
    refine ⟨?_, ?_, ?_, ?_, ?_, ?_, ?_, ?_⟩
    · rw [hsame.subviews]
      exact h.titles
    · rw [hsame.subviews, hidle]
      rfl
    · rw [hsame.subviews]
      exact h.hidden
    · simp [hidle]
    · simp [hidle]
    · rw [hsame.subviews, hsame.animations]
      intro _
      refine ⟨rfl, fun hfaded => absurd ?_ hfaded⟩
      simp [animate, setSubviews]
    · simp [isRefreshing, hidle]
    · simp [hidle]
  · by_cases hidle : header.state = .idle
    · rw [← hidle, setState_self]
      exact h
    · exact h.turn (.putBack hidle hstate) (by simp)

theorem ShowsState.scrollViewContentOffsetDidChange (h : ShowsState localized header) :
    ShowsState localized header.scrollViewContentOffsetDidChange := by
  obtain ⟨t, hsame, halpha, ht | ⟨state, hturns, ht⟩⟩ :=
    scrollViewContentOffsetDidChange_cases header
  · rw [ht]
    exact h.same hsame halpha
  · rw [ht]
    exact (h.same hsame halpha).turn (hsame.state.symm ▸ hturns.turn) hturns.solid

theorem ShowsState.setScrollView (h : ShowsState localized header) (scrollView : RefreshScrollView) :
    ShowsState localized (header.setScrollView scrollView) :=
  h.same ⟨rfl, rfl, rfl, rfl, rfl, rfl, rfl⟩ fun _ => rfl

theorem ShowsState.waiting (h : ShowsState localized header) (mainQueue : List MainBlock)
    {animations : List AnimationBlock} {loads : ℕ}
    (hfaded : .loadingFaded ∈ header.animations → .loadingFaded ∈ animations) :
    ShowsState localized { header with mainQueue, animations, loads } where
  titles := h.titles
  title := h.title
  hidden := h.hidden
  refreshing := h.refreshing
  pulling := h.pulling
  idle hidle := ⟨(h.idle hidle).1, fun hnot => (h.idle hidle).2 fun hmem => hnot (hfaded hmem)⟩
  solid := h.solid
  used := h.used

theorem ShowsState.raiseInset (h : ShowsState localized header) :
    ShowsState localized header.raiseInset := by
  unfold MJRefreshNormalHeader.raiseInset
  split_ifs
  · exact h
  · exact ((h.setScrollView _).setScrollView _).scrollViewContentOffsetDidChange

theorem ShowsState.runBlock (h : ShowsState localized header) (block : MainBlock) :
    ShowsState localized (header.popBlock.runBlock block) := by
  have hpop : ShowsState localized header.popBlock := h.waiting _ id
  cases block with
  | setNeedsLayout => exact hpop
  | showHeader =>
    exact hpop.raiseInset.waiting _ fun hmem => List.mem_append_left _ hmem
  | refreshingCallback => exact hpop.waiting _ id
  | setIdle => exact hpop.setIdle

theorem ShowsState.complete (h : ShowsState localized header) {k : ℕ} {completion : AnimationBlock}
    (hcompletion : header.animations[k]? = some completion) :
    ShowsState localized ((header.popAnimation k).complete completion) := by
  obtain ⟨hk, hget⟩ := List.getElem?_eq_some_iff.mp hcompletion
  have hperm := List.getElem_cons_eraseIdx_perm hk
  rw [hget] at hperm
  have hmem : completion ≠ .loadingFaded → .loadingFaded ∈ header.animations →
      .loadingFaded ∈ header.animations.eraseIdx k := by
    intro hne hfaded
    obtain heq | hrest := List.mem_cons.mp (hperm.mem_iff.mpr hfaded)
    · exact absurd heq.symm hne
    · exact hrest
  cases completion with
  | headerShown => exact h.waiting _ (hmem nofun)
  | insetRestored =>
    have hpop : ShowsState localized (header.popAnimation k) := h.waiting _ (hmem nofun)
    exact hpop.same (setPullingPercent_work 0 _) fun hr => setPullingPercent_alpha 0 hr
  | loadingFaded =>
    simp only [MJRefreshNormalHeader.complete, loadingFaded]
    split_ifs with hstate
    · refine ⟨h.titles, h.title, h.hidden, h.refreshing, h.pulling, fun hidle => absurd hidle hstate,
        h.solid, h.used⟩
    · have hidle : header.state = .idle := by simpa [popAnimation] using hstate
      refine ⟨h.titles, h.title, rfl, ?_, ?_, ?_, h.solid, h.used⟩
      · simp [setSubviews, popAnimation, hidle]
      · simp [setSubviews, popAnimation, hidle]
      · intro _
        exact ⟨(h.idle hidle).1, fun _ => rfl⟩

theorem ShowsState.step {e : Event} (h : ShowsState localized header) (hst : Step header e t) :
    ShowsState localized t := by
  cases e with
  | scroll offsetY =>
    rw [← Option.some.inj hst]
    exact (h.setScrollView _).scrollViewContentOffsetDidChange
  | drag | adjust =>
    rw [← Option.some.inj hst]
    exact h.setScrollView _
  | window window =>
    rw [← Option.some.inj hst]
    exact ⟨h.titles, h.title, h.hidden, h.refreshing, h.pulling, h.idle, h.solid, h.used⟩
  | draw =>
    rw [← Option.some.inj hst, drawRect]
    split_ifs with hwill
    · exact h.turn (.refresh (by simp [hwill])) fun _ => h.solid (by simp [isRefreshing, hwill])
    · exact h
  | finish =>
    rw [← Option.some.inj hst]
    exact h.waiting _ id
  | main =>
    obtain ⟨block, -, rfl⟩ := Option.map_eq_some_iff.mp hst
    exact h.runBlock block
  | complete k =>
    obtain ⟨completion, hcompletion, rfl⟩ := Option.map_eq_some_iff.mp hst
    exact h.complete hcompletion

theorem setMj_header_shows (localized : NSString → NSString) (automaticallyChangeAlpha : Bool)
    (scrollView : RefreshScrollView) :
    ShowsState localized (setMj_header localized automaticallyChangeAlpha scrollView) := by
  cases automaticallyChangeAlpha <;> exact
    ⟨rfl, rfl, rfl, nofun, nofun, fun _ => ⟨rfl, fun _ => rfl⟩, nofun, nofun⟩

end MixedProject.MJRefreshNormalHeader
