import MixedProject.RefreshHeader
import MixedProject.Tally
import Mathlib.Data.List.Count

namespace MixedProject.MJRefreshNormalHeader

open Traces

inductive Turn : MJRefreshState → MJRefreshState → Prop
  | pull : Turn .idle .pulling
  | putBack {state : MJRefreshState} (hidle : state ≠ .idle) (hnot : state ≠ .refreshing) :
      Turn state .idle
  | refresh {state : MJRefreshState} (hnot : state ≠ .refreshing) : Turn state .refreshing
  | defer : Turn .pulling .willRefresh

structure SameWork (header t : MJRefreshNormalHeader) : Prop where
  state : t.state = header.state
  subviews : t.subviews = header.subviews
  mainQueue : t.mainQueue = header.mainQueue
  animations : t.animations = header.animations
  loads : t.loads = header.loads
  window : t.window = header.window
  automatic : t.automaticallyChangeAlpha = header.automaticallyChangeAlpha

namespace SameWork

variable {header t u : MJRefreshNormalHeader}

theorem refl (header : MJRefreshNormalHeader) : SameWork header header :=
  ⟨rfl, rfl, rfl, rfl, rfl, rfl, rfl⟩

theorem trans (h : SameWork header t) (h' : SameWork t u) : SameWork header u where
  state := h'.state.trans h.state
  subviews := h'.subviews.trans h.subviews
  mainQueue := h'.mainQueue.trans h.mainQueue
  animations := h'.animations.trans h.animations
  loads := h'.loads.trans h.loads
  window := h'.window.trans h.window
  automatic := h'.automatic.trans h.automatic

end SameWork

section SetState

variable {header : MJRefreshNormalHeader}

theorem setState_self : header.setState header.state = header := by
  simp [setState]

theorem setState_pulling (h : header.state ≠ .pulling) : header.setState .pulling =
    ((header.assignState .pulling).dispatchAsync [.setNeedsLayout]).setSubviews
      ((header.subviews.setStateLabel
        (header.subviews.titleForState .pulling)).showArrow.turnArrow true) := by
  simp only [setState, MJRefreshStateHeader.setState, MJRefreshHeader.setState, h.symm, if_false]
  rfl

theorem setState_refreshing (h : header.state ≠ .refreshing) : header.setState .refreshing =
    ((header.assignState .refreshing).dispatchAsync [.setNeedsLayout, .showHeader]).setSubviews
      ((header.subviews.setStateLabel
        (header.subviews.titleForState .refreshing)).setLoadingAlpha 1).showLoading := by
  simp only [setState, MJRefreshStateHeader.setState, MJRefreshHeader.setState, h.symm, if_false]
  simp [MJRefreshComponent.setState, dispatchAsync, assignState, setSubviews]

theorem setState_willRefresh (h : header.state ≠ .willRefresh) : header.setState .willRefresh =
    ((header.assignState .willRefresh).dispatchAsync [.setNeedsLayout]).setSubviews
      (header.subviews.setStateLabel (header.subviews.titleForState .willRefresh)) := by
  simp only [setState, MJRefreshStateHeader.setState, MJRefreshHeader.setState, h.symm, if_false]
  rfl

theorem setState_putBack (h : header.state ≠ .idle) (hnot : header.state ≠ .refreshing) :
    header.setState .idle =
      ((header.assignState .idle).dispatchAsync [.setNeedsLayout]).setSubviews
        ((header.subviews.setStateLabel
          (header.subviews.titleForState .idle)).showArrow.turnArrow false) := by
  simp only [setState, MJRefreshStateHeader.setState, MJRefreshHeader.setState, h.symm, hnot,
    if_false, ne_eq, not_false_eq_true, if_true]
  rfl

theorem setState_finish (h : header.state = .refreshing) : header.setState .idle =
    (MJRefreshHeader.restoreInset ((((header.assignState .idle).dispatchAsync
      [.setNeedsLayout]).animate [.insetRestored, .loadingFaded]).setSubviews
        (((header.subviews.setStateLabel
          (header.subviews.titleForState .idle)).turnArrow false).setLoadingAlpha 0))) := by
  simp only [setState, MJRefreshStateHeader.setState, MJRefreshHeader.setState, h, if_false,
    ne_eq, not_true_eq_false, if_true, reduceCtorEq]
  simp only [MJRefreshHeader.restoreInset]
  cases hauto : header.automaticallyChangeAlpha <;>
    simp [hauto, MJRefreshComponent.setState, dispatchAsync, assignState, setSubviews, animate,
      setScrollView, setAlpha]

end SetState

theorem setPullingPercent_work (pullingPercent : CGFloat) (header : MJRefreshNormalHeader) :
    SameWork header (header.setPullingPercent pullingPercent) := by
  unfold setPullingPercent
  simp only
  split_ifs <;> exact ⟨rfl, rfl, rfl, rfl, rfl, rfl, rfl⟩

structure SamePlace (header t : MJRefreshNormalHeader) : Prop extends SameWork header t where
  scrollView : t.scrollView = header.scrollView
  insetTDelta : t.insetTDelta = header.insetTDelta
  original : t.scrollViewOriginalInset = header.scrollViewOriginalInset

theorem SamePlace.refl (header : MJRefreshNormalHeader) : SamePlace header header :=
  ⟨.refl header, rfl, rfl, rfl⟩

theorem setPullingPercent_place (pullingPercent : CGFloat) (header : MJRefreshNormalHeader) :
    SamePlace header (header.setPullingPercent pullingPercent) := by
  refine ⟨setPullingPercent_work pullingPercent header, ?_, ?_, ?_⟩
  all_goals
    unfold setPullingPercent
    simp only
    split_ifs <;> rfl

theorem setPullingPercent_one {header : MJRefreshNormalHeader} (h : header.alpha = 1) :
    (header.setPullingPercent 1).alpha = 1 := by
  unfold setPullingPercent
  simp only
  split_ifs
  · exact h
  · rfl
  · exact h

theorem setPullingPercent_alpha (pullingPercent : CGFloat) {header : MJRefreshNormalHeader}
    (h : header.isRefreshing = true) :
    (header.setPullingPercent pullingPercent).alpha = header.alpha := by
  have hsame : isRefreshing { header with pullingPercent } = true := h
  simp [setPullingPercent, hsame]

structure Turns (insetT : CGFloat) (state : MJRefreshState) (header t : MJRefreshNormalHeader) :
    Prop where
  turn : Turn header.state state
  onScreen : state = .refreshing → header.window = true
  solid : state = .refreshing ∨ state = .willRefresh → t.alpha = 1
  pulled : header.state = .pulling ∨
    state = .pulling ∧ header.scrollView.offsetY < -insetT - MJRefreshHeaderHeight

theorem followOffset_cases {header : MJRefreshNormalHeader} (h : header.state ≠ .refreshing) :
    ∃ t, SamePlace header t ∧ (header.isRefreshing = true → t.alpha = header.alpha) ∧
      (header.followOffset = t ∨ ∃ state, Turns header.scrollViewOriginalInset state header t ∧
        header.followOffset = t.setState state) := by
  unfold followOffset
  simp only
  generalize (-header.scrollViewOriginalInset - header.scrollView.offsetY) /
    MJRefreshHeaderHeight = pulled
  have hplace := setPullingPercent_place pulled header
  have halpha : header.isRefreshing = true → (header.setPullingPercent pulled).alpha = header.alpha :=
    fun hr => setPullingPercent_alpha pulled hr
  split_ifs with hbelow hdrag hpull hback hletGo hshort
  · exact ⟨header, .refl header, fun _ => rfl, .inl rfl⟩
  · refine ⟨_, hplace, halpha, .inr ⟨.pulling, ⟨?_, nofun, by simp, ?_⟩, rfl⟩⟩
    · have hidle : header.state = .idle := hplace.state ▸ hpull.1
      rw [hidle]
      exact .pull
    · exact .inr ⟨rfl, hpull.2⟩
  · have hpulling : header.state = .pulling := hplace.state ▸ hback.1
    have hturn : Turn header.state .idle := by
      rw [hpulling]
      exact .putBack nofun nofun
    exact ⟨_, hplace, halpha, .inr ⟨.idle, ⟨hturn, nofun, by simp, .inl hpulling⟩, rfl⟩⟩
  · exact ⟨_, hplace, halpha, .inl rfl⟩
  · obtain ⟨t, ht⟩ : ∃ t, t = (header.setAlpha 1).setPullingPercent 1 := ⟨_, rfl⟩
    have hopaque : t.alpha = 1 := ht ▸ setPullingPercent_one rfl
    have hfull : SamePlace (header.setAlpha 1) t := ht ▸ setPullingPercent_place 1 _
    have hsame : SamePlace header t :=
      ⟨⟨hfull.state, hfull.subviews, hfull.mainQueue, hfull.animations, hfull.loads,
        hfull.window, hfull.automatic⟩, hfull.scrollView, hfull.insetTDelta, hfull.original⟩
    refine ⟨t, hsame, fun hr => by simp [isRefreshing, hletGo] at hr, .inr ?_⟩
    rw [beginRefreshing, ← ht]
    split_ifs with hwindow hnot
    · exact ⟨.refreshing, ⟨.refresh h, fun _ => hsame.window ▸ hwindow, fun _ => hopaque,
        .inl hletGo⟩, rfl⟩
    · have hturn : Turn header.state .willRefresh := by
        rw [hletGo]
        exact .defer
      exact ⟨.willRefresh, ⟨hturn, nofun, fun _ => hopaque, .inl hletGo⟩, rfl⟩
    · have hstate : t.state = .refreshing := by simpa using hnot
      exact absurd (hsame.state ▸ hstate) h
  · exact ⟨_, hplace, halpha, .inl rfl⟩
  · exact ⟨header, .refl header, fun _ => rfl, .inl rfl⟩

theorem scrollViewContentOffsetDidChange_cases (header : MJRefreshNormalHeader) :
    ∃ t, SameWork header t ∧ (header.isRefreshing = true → t.alpha = header.alpha) ∧
      (header.scrollViewContentOffsetDidChange = t ∨
        ∃ state, Turns header.scrollView.mj_insetT state header t ∧
          header.scrollViewContentOffsetDidChange = t.setState state) := by
  unfold scrollViewContentOffsetDidChange
  split_ifs with hstate hwindow
  · exact ⟨header, .refl header, fun _ => rfl, .inl rfl⟩
  · exact ⟨header.keepInset, ⟨rfl, rfl, rfl, rfl, rfl, rfl, rfl⟩, fun _ => rfl, .inl rfl⟩
  · have hidle : (header.setScrollViewOriginalInset header.scrollView.mj_insetT).state ≠ .refreshing :=
      hstate
    obtain ⟨t, hsame, halpha, hcases⟩ := followOffset_cases hidle
    refine ⟨t, ⟨hsame.state, hsame.subviews, hsame.mainQueue, hsame.animations, hsame.loads,
      hsame.window, hsame.automatic⟩, halpha, ?_⟩
    obtain ht | ⟨state, hturns, ht⟩ := hcases
    · exact .inl ht
    · exact .inr ⟨state, ⟨hturns.turn, hturns.onScreen, hturns.solid, hturns.pulled⟩, ht⟩

structure Turned (target : MJRefreshState) (header t : MJRefreshNormalHeader) : Prop where
  state : t.state = target
  titles : t.subviews.stateTitles = header.subviews.stateTitles
  mainQueue : t.mainQueue = header.mainQueue ++
    if target = .refreshing then [.setNeedsLayout, .showHeader] else [.setNeedsLayout]
  animations : t.animations = header.animations
  loads : t.loads = header.loads
  window : t.window = header.window
  alpha : t.alpha = header.alpha
  scrollView : t.scrollView = header.scrollView
  insetTDelta : t.insetTDelta = header.insetTDelta
  original : t.scrollViewOriginalInset = header.scrollViewOriginalInset

theorem Turn.setState {header : MJRefreshNormalHeader} {state : MJRefreshState}
    (h : Turn header.state state) : Turned state header (header.setState state) := by
  generalize hold : header.state = old at h
  cases h with
  | pull =>
    rw [setState_pulling (by simp [hold])]
    exact ⟨rfl, rfl, rfl, rfl, rfl, rfl, rfl, rfl, rfl, rfl⟩
  | putBack hidle hnot =>
    subst hold
    rw [setState_putBack hidle hnot]
    exact ⟨rfl, rfl, rfl, rfl, rfl, rfl, rfl, rfl, rfl, rfl⟩
  | refresh hnot =>
    subst hold
    rw [setState_refreshing hnot]
    exact ⟨rfl, rfl, rfl, rfl, rfl, rfl, rfl, rfl, rfl, rfl⟩
  | defer =>
    rw [setState_willRefresh (by simp [hold])]
    exact ⟨rfl, rfl, rfl, rfl, rfl, rfl, rfl, rfl, rfl, rfl⟩

theorem restoreInset_work (header : MJRefreshNormalHeader) :
    SameWork header (MJRefreshHeader.restoreInset header) := by
  unfold MJRefreshHeader.restoreInset
  simp only
  split_ifs <;> exact ⟨rfl, rfl, rfl, rfl, rfl, rfl, rfl⟩

theorem setState_finished {header : MJRefreshNormalHeader} (h : header.state = .refreshing) :
    SameWork ((((header.assignState .idle).dispatchAsync [.setNeedsLayout]).animate
      [.insetRestored, .loadingFaded]).setSubviews
        (((header.subviews.setStateLabel
          (header.subviews.titleForState .idle)).turnArrow false).setLoadingAlpha 0))
      (header.setState .idle) := by
  rw [setState_finish h]
  exact restoreInset_work _

end MixedProject.MJRefreshNormalHeader
