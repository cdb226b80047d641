import MixedProject.PageRuns

namespace MixedProject.WMPageController

open Traces

variable {keeps : NSCacheKeeps} {callsBack : Bool} {c d : WMPageController}

theorem slide_cacheState (c : WMPageController) : c.slide.cacheState = c.cacheState := by
  unfold slide
  split
  · rfl
  · rfl

theorem didScroll_cacheState (c : WMPageController) :
    (c.didScroll keeps).cacheState = c.cacheState := by
  unfold didScroll
  split
  · rfl
  · rw [slide_cacheState, (wmLayout_same keeps c).cacheState]

theorem scrollViewDidScroll_cacheState (c : WMPageController) :
    (c.scrollViewDidScroll keeps).cacheState = c.cacheState := by
  unfold scrollViewDidScroll
  dsimp only
  split_ifs
  · rfl
  · exact didScroll_cacheState c
  · exact (didScroll_cacheState _).trans (didScroll_cacheState c)

theorem jumpTo_cacheState (x : CGFloat) (c : WMPageController) :
    (c.jumpTo keeps callsBack x).cacheState = c.cacheState := by
  unfold jumpTo
  dsimp only
  split
  · exact scrollViewDidScroll_cacheState _
  · rfl

theorem didSelesctedIndex_cacheState (index currentIndex : ℤ) (c : WMPageController) :
    (c.didSelesctedIndex keeps callsBack index currentIndex).cacheState = c.cacheState := by
  unfold didSelesctedIndex
  dsimp only
  split_ifs
  · rfl
  · rfl
  · rw [(didEnter_grows index _).same.cacheState]
    refine (wmLayout_same keeps _).cacheState.trans ?_
    refine (removeCurrent_same keeps currentIndex _).cacheState.trans ?_
    exact jumpTo_cacheState _ _

theorem selectItemAtIndex_cacheState (index : ℤ) (c : WMPageController) :
    (c.selectItemAtIndex keeps callsBack index).cacheState = c.cacheState := by
  unfold selectItemAtIndex
  split
  · rfl
  · split
    · rfl
    · exact didSelesctedIndex_cacheState index _ (c.updateMenuView _)

theorem didPressedMenuItem_cacheState (index : ℤ) (c : WMPageController) :
    (c.didPressedMenuItem keeps callsBack index).cacheState = c.cacheState := by
  unfold didPressedMenuItem
  split
  · rfl
  · split
    · rfl
    · exact didSelesctedIndex_cacheState index _ (c.updateMenuView _)

theorem setSelectIndex_cacheState (index : ℤ) (c : WMPageController) :
    (c.setSelectIndex keeps callsBack index).cacheState = c.cacheState := by
  unfold setSelectIndex
  dsimp only
  split
  · exact selectItemAtIndex_cacheState index _
  · rfl

theorem viewDidLayoutSubviews_cacheState (sameBounds : Bool) (width : CGFloat)
    (c : WMPageController) :
    (c.viewDidLayoutSubviews keeps callsBack sameBounds width).cacheState = c.cacheState := by
  unfold viewDidLayoutSubviews wmDelaySelectIndexIfNeeded
  dsimp only
  split_ifs
  · rfl
  · rfl
  · exact setSelectIndex_cacheState _ _
  · rfl

theorem wmResetMenuView_cacheState (c : WMPageController) :
    (c.wmResetMenuView keeps callsBack).cacheState = c.cacheState := by
  unfold wmResetMenuView
  dsimp only
  split_ifs
  · rfl
  · exact selectItemAtIndex_cacheState _ (c.updateMenuView _)
  · rfl

theorem restoreFromBackground_cacheState (c : WMPageController) (key : ℤ) :
    (c.restoreFromBackground keeps key).cacheState = c.cacheState := by
  unfold restoreFromBackground
  split
  · split
    · rfl
    · rfl
  · rfl

theorem willEnterForeground_cacheState (keys : List ℤ) (c : WMPageController) :
    (c.willEnterForeground keeps keys).cacheState = c.cacheState := by
  have hloop : (keys.foldl (restoreFromBackground keeps) c).cacheState = c.cacheState :=
    List.foldlRecOn (motive := fun d => d.cacheState = c.cacheState) keys _ rfl
      fun d hd key _ => (restoreFromBackground_cacheState d key).trans hd
  exact hloop

theorem cancel_both (requests : List (CacheGrowth × CGFloat)) :
    (requests.filter fun request => request.1 ≠ CacheGrowth.afterMemoryWarning).filter
      (fun request => request.1 ≠ .toHigh) = [] := by
  rw [List.filter_filter, List.filter_eq_nil_iff]
  rintro ⟨growth, due⟩ _
  cases growth <;> simp

def CacheState.reset (s : CacheState) : CacheState :=
  { s with memoryWarningCount := 0, performRequests := [] }

theorem wmClearDatas_cacheState (count : ℕ) (c : WMPageController) :
    (c.wmClearDatas count).cacheState = c.cacheState.reset := by
  have hnone := cancel_both c.performRequests
  unfold wmClearDatas
  dsimp only
  split
  · exact congrArg (fun requests => CacheState.mk c.cachePolicy c.memCache.countLimit 0 requests c.now)
      hnone
  · exact congrArg (fun requests => CacheState.mk c.cachePolicy c.memCache.countLimit 0 requests c.now)
      hnone

theorem reloadData_cacheState (count : ℕ) (width : CGFloat) (c : WMPageController) :
    (c.reloadData keeps callsBack count width).cacheState = c.cacheState.reset := by
  unfold reloadData
  rw [← wmClearDatas_cacheState count c]
  generalize c.wmClearDatas count = cleared
  dsimp only
  split
  · rfl
  · rw [viewDidLayoutSubviews_cacheState, wmResetMenuView_cacheState]
    rfl

namespace CacheState

def setCachePolicy (cachePolicy : WMPageControllerCachePolicy) (s : CacheState) : CacheState :=
  { s with
    cachePolicy
    countLimit := if cachePolicy ≠ .disabled then cachePolicy.rawValue else s.countLimit }

def performSelector (selector : CacheGrowth) (afterDelay : CGFloat) (s : CacheState) : CacheState :=
  { s with performRequests := s.performRequests ++ [(selector, s.now + afterDelay)] }

def warn (s : CacheState) : CacheState :=
  let shrunk : CacheState :=
    ⟨.lowMemory, WMPageControllerCachePolicy.lowMemory.rawValue, s.memoryWarningCount + 1, [], s.now⟩
  if s.memoryWarningCount + 1 < 3 then shrunk.performSelector .afterMemoryWarning 3 else shrunk

def perform (request : CacheGrowth × CGFloat) (s : CacheState) : CacheState :=
  let s := { s with performRequests := s.performRequests.erase request }
  match request.1 with
  | .afterMemoryWarning => (s.setCachePolicy .balanced).performSelector .toHigh 2
  | .toHigh => s.setCachePolicy .high

def next (s : CacheState) : Event → CacheState
  | .memoryWarning => s.warn
  | .performRequest request => s.perform request
  | .wait duration => { s with now := s.now + duration }
  | .reload _ _ => s.reset
  | _ => s

end CacheState

theorem setCachePolicy_cacheState (policy : WMPageControllerCachePolicy) (c : WMPageController) :
    (c.setCachePolicy policy).cacheState = c.cacheState.setCachePolicy policy := by
  cases policy <;> rfl

theorem shrinkCache_cacheState (c : WMPageController) : c.shrinkCache.cacheState =
    ⟨.lowMemory, WMPageControllerCachePolicy.lowMemory.rawValue, c.memoryWarningCount + 1, [],
      c.now⟩ := by
  have hlow := setCachePolicy_cacheState .lowMemory c.countMemoryWarning
  unfold shrinkCache
  generalize c.countMemoryWarning.setCachePolicy .lowMemory = low at hlow ⊢
  have hcancelled : ((low.cancelPreviousPerformRequests .afterMemoryWarning).cancelPreviousPerformRequests
      .toHigh).removeCachedControllers.cacheState = { low.cacheState with performRequests := [] } := by
    rw [← cancel_both low.performRequests]
    rfl
  rw [hcancelled, hlow]
  rfl

theorem didReceiveMemoryWarning_cacheState (c : WMPageController) :
    c.didReceiveMemoryWarning.cacheState = c.cacheState.warn := by
  have hshrunk := shrinkCache_cacheState c
  unfold didReceiveMemoryWarning CacheState.warn
  generalize c.shrinkCache = shrunk at hshrunk ⊢
  have hcount : shrunk.memoryWarningCount = c.cacheState.memoryWarningCount + 1 :=
    congrArg CacheState.memoryWarningCount hshrunk
  dsimp only
  rw [hcount]
  split
  · exact congrArg (CacheState.performSelector .afterMemoryWarning 3) hshrunk
  · exact hshrunk

theorem perform_cacheState (request : CacheGrowth × CGFloat) (c : WMPageController) :
    (c.perform request).cacheState = c.cacheState.perform request := by
  obtain ⟨growth, due⟩ := request
  cases growth <;> rfl

theorem handle_cacheState (event : Event) (c : WMPageController) :
    (c.handle keeps callsBack event).cacheState = c.cacheState.next event := by
  cases event with
  | scroll x y => exact scrollViewDidScroll_cacheState (c.setContentOffset x y)
  | willBeginDragging => rfl
  | willEndDragging target => rfl
  | didEndDragging decelerate => cases decelerate <;> rfl
  | didEndDecelerating => exact (didEnter_grows _ _).same.cacheState
  | didEndScrollingAnimation => exact (didEnter_grows _ _).same.cacheState
  | press index => exact didPressedMenuItem_cacheState index c
  | setSelectIndex index => exact setSelectIndex_cacheState index c
  | refreshMenu => rfl
  | screenFrame => rfl
  | layout sameBounds width => exact viewDidLayoutSubviews_cacheState sameBounds width c
  | forceLayout width => exact viewDidLayoutSubviews_cacheState false width (c.setHasInited false)
  | appear =>
    rw [handle, viewDidAppear]
    split
    · rfl
    · exact (didEnter_grows _ _).same.cacheState
  | reload count width => exact reloadData_cacheState count width c
  | memoryWarning => exact didReceiveMemoryWarning_cacheState c
  | wait duration => rfl
  | performRequest request => exact perform_cacheState request c
  | evict key => rfl
  | resignActive => rfl
  | enterForeground keys => exact willEnterForeground_cacheState keys c

namespace CacheState

structure Grown (s : CacheState) : Prop where
  limit : s.cachePolicy ≠ .disabled → s.countLimit = s.cachePolicy.rawValue
  pending : s.performRequests = [] ∨
    (∃ due, s.performRequests = [(.afterMemoryWarning, due)] ∧ s.cachePolicy = .lowMemory) ∨
    ∃ due, s.performRequests = [(.toHigh, due)] ∧ s.cachePolicy = .balanced
  exhausted : 3 ≤ s.memoryWarningCount → s.cachePolicy = .lowMemory ∧ s.performRequests = []

variable {s : CacheState}

theorem warn_grown (s : CacheState) : Grown s.warn := by
  unfold CacheState.warn
  dsimp only
  split
  · rename_i hfew
    refine ⟨fun _ => rfl, .inr (.inl ⟨_, rfl, rfl⟩), ?_⟩
    intro hmany
    exact absurd hfew (not_lt.mpr hmany)
  · exact ⟨fun _ => rfl, .inl rfl, fun _ => ⟨rfl, rfl⟩⟩

theorem Grown.perform (h : Grown s) {request : CacheGrowth × CGFloat}
    (hpending : request ∈ s.performRequests) : Grown (s.perform request) := by
  have hfew : ¬ 3 ≤ s.memoryWarningCount := by
    intro hmany
    rw [(h.exhausted hmany).2] at hpending
    cases hpending
  rcases h.pending with hnone | ⟨due, hone, _⟩ | ⟨due, hone, _⟩
  · rw [hnone] at hpending
    cases hpending
  · rw [hone, List.mem_singleton] at hpending
    subst hpending
    refine ⟨fun _ => rfl, .inr (.inr ⟨s.now + 2, ?_, rfl⟩), fun hmany => absurd hmany hfew⟩
    simp [CacheState.perform, CacheState.setCachePolicy, CacheState.performSelector, hone]
  · rw [hone, List.mem_singleton] at hpending
    subst hpending
    refine ⟨fun _ => rfl, .inl ?_, fun hmany => absurd hmany hfew⟩
    simp [CacheState.perform, CacheState.setCachePolicy, hone]

theorem Grown.reset (h : Grown s) : Grown s.reset := by
  refine ⟨h.limit, .inl rfl, ?_⟩
  intro hmany
  cases hmany

/-- `t` is the time of the last warning: how far the cache may have grown back since. -/
inductive Regrowing (t : CGFloat) (s : CacheState) : Prop
  | low (hpending : s.performRequests = [(.afterMemoryWarning, t + 3)])
      (hpolicy : s.cachePolicy = .lowMemory)
  | balanced (due : CGFloat) (hpending : s.performRequests = [(.toHigh, due)])
      (hpolicy : s.cachePolicy = .balanced) (hnow : t + 3 ≤ s.now) (hdue : t + 5 ≤ due)
  | high (hpending : s.performRequests = []) (hpolicy : s.cachePolicy = .high) (hnow : t + 5 ≤ s.now)
  | exhausted (hpending : s.performRequests = []) (hpolicy : s.cachePolicy = .lowMemory)

variable {t : CGFloat}

theorem warn_regrowing (s : CacheState) : Regrowing s.now s.warn := by
  unfold CacheState.warn
  dsimp only
  split
  · exact .low rfl rfl
  · exact .exhausted rfl rfl

theorem Regrowing.wait (h : Regrowing t s) {duration : CGFloat} (hduration : 0 ≤ duration) :
    Regrowing t { s with now := s.now + duration } := by
  cases h with
  | low hpending hpolicy => exact .low hpending hpolicy
  | balanced due hpending hpolicy hnow hdue =>
    exact .balanced due hpending hpolicy (hnow.trans (le_add_of_nonneg_right hduration)) hdue
  | high hpending hpolicy hnow =>
    exact .high hpending hpolicy (hnow.trans (le_add_of_nonneg_right hduration))
  | exhausted hpending hpolicy => exact .exhausted hpending hpolicy

theorem Regrowing.perform (h : Regrowing t s) {request : CacheGrowth × CGFloat}
    (hpending : request ∈ s.performRequests) (hdue : request.2 ≤ s.now) :
    Regrowing t (s.perform request) := by
  cases h with
  | low hone hpolicy =>
    rw [hone, List.mem_singleton] at hpending
    subst hpending
    have hlater : t + 5 ≤ s.now + 2 := by
      dsimp only at hdue
      linarith
    refine .balanced (s.now + 2) ?_ rfl hdue hlater
    simp [CacheState.perform, CacheState.setCachePolicy, CacheState.performSelector, hone]
  | balanced due hone hpolicy hnow hfirst =>
    rw [hone, List.mem_singleton] at hpending
    subst hpending
    refine .high ?_ rfl (hfirst.trans hdue)
    simp [CacheState.perform, CacheState.setCachePolicy, hone]
  | high hnone hpolicy hnow =>
    rw [hnone] at hpending
    cases hpending
  | exhausted hnone hpolicy =>
    rw [hnone] at hpending
    cases hpending

theorem Regrowing.policy (h : Regrowing t s) :
    (s.now < t + 3 → s.cachePolicy = .lowMemory) ∧ (s.now < t + 5 → s.cachePolicy ≠ .high) := by
  cases h with
  | low hpending hpolicy =>
    rw [hpolicy]
    exact ⟨fun _ => rfl, fun _ => WMPageControllerCachePolicy.noConfusion⟩
  | balanced due hpending hpolicy hnow hdue =>
    rw [hpolicy]
    exact ⟨fun hearly => absurd hnow (not_le.mpr hearly),
      fun _ => WMPageControllerCachePolicy.noConfusion⟩
  | high hpending hpolicy hnow =>
    constructor
    · intro hearly
      linarith
    · intro hearly
      exact absurd hnow (not_le.mpr hearly)
  | exhausted hpending hpolicy =>
    rw [hpolicy]
    exact ⟨fun _ => rfl, fun _ => WMPageControllerCachePolicy.noConfusion⟩

end CacheState

open CacheState

theorem step_grown {event : Event} (h : c.cacheState.Grown) (hstep : Step c event d) :
    d.cacheState.Grown := by
  obtain ⟨hpermitted, keeps, callsBack, rfl⟩ := hstep
  rw [handle_cacheState]
  cases event with
  | memoryWarning => exact warn_grown _
  | performRequest request => exact h.perform hpermitted.1
  | reload count width => exact h.reset
  | wait duration => exact ⟨h.limit, h.pending, h.exhausted⟩
  | _ => exact h

theorem run_cache_growth {width : CGFloat} {tr : List (Event × WMPageController)} (hfresh : Fresh c)
    (htr : Trace Step (c.viewDidLoad width) tr) :
    Always (fun d => d.cacheState.Grown) (c.viewDidLoad width) tr := by
  apply htr.always fun _ _ _ h hstep => step_grown h hstep
  have hloaded : (c.viewDidLoad width).cacheState = c.cacheState := by
    unfold viewDidLoad
    rw [if_neg hfresh.count.ne']
    rfl
  rw [hloaded]
  refine ⟨hfresh.countLimit, .inl hfresh.performRequests, ?_⟩
  intro hmany
  have hfew : c.memoryWarningCount = 0 := hfresh.memoryWarningCount
  have hmany : 3 ≤ c.memoryWarningCount := hmany
  omega

def twoPagesWarned : WMPageController := twoPagesLoaded.handle keepAll false .memoryWarning

theorem twoPages_warning : Step twoPagesLoaded .memoryWarning twoPagesWarned :=
  ⟨trivial, keepAll, false, rfl⟩

theorem twoPages_cache_growth : Always (fun d => d.cacheState.Grown) twoPagesLoaded
    [(Event.memoryWarning, twoPagesWarned)] :=
  run_cache_growth twoPages_fresh (.cons twoPages_warning (.nil _))

def Event.restarts : Event → Bool
  | .memoryWarning => true
  | .reload _ _ => true
  | _ => false

theorem run_regrowth {tr : List (Event × WMPageController)} (hwarning : Step c .memoryWarning d)
    (htr : Trace (fun c event d => Step c event d ∧ event.restarts = false) d tr) :
    (∀ key, d.memCache.objectForKey key = none) ∧
      Always (fun e => (e.now < c.now + 3 → e.cachePolicy = .lowMemory) ∧
        (e.now < c.now + 5 → e.cachePolicy ≠ .high)) d tr := by
  obtain ⟨_, keeps, callsBack, rfl⟩ := hwarning
  constructor
  · intro key
    unfold handle didReceiveMemoryWarning
    dsimp only
    split
    · rfl
    · rfl
  · have hrun : Always (fun e => Regrowing c.now e.cacheState) (c.handle keeps callsBack .memoryWarning)
        tr := by
      apply htr.always
      · rintro e event f h ⟨⟨hpermitted, keeps, callsBack, rfl⟩, hquiet⟩
        rw [handle_cacheState]
        cases event with
        | memoryWarning => cases hquiet
        | reload count width => cases hquiet
        | performRequest request => exact h.perform hpermitted.1 hpermitted.2
        | wait duration => exact h.wait hpermitted
        | _ => exact h
      · rw [handle_cacheState]
        exact warn_regrowing c.cacheState
    apply hrun.mono
    intro e he
    exact he.policy

def twoPagesWaited : WMPageController := twoPagesWarned.handle keepAll false (.wait 3)

def twoPagesGrown : WMPageController :=
  twoPagesWaited.handle keepAll false (.performRequest (.afterMemoryWarning, 3))

theorem twoPages_regrowth : (∀ key, twoPagesWarned.memCache.objectForKey key = none) ∧
    Always (fun e => (e.now < twoPagesLoaded.now + 3 → e.cachePolicy = .lowMemory) ∧
        (e.now < twoPagesLoaded.now + 5 → e.cachePolicy ≠ .high)) twoPagesWarned
      [(Event.wait 3, twoPagesWaited),
       (Event.performRequest (.afterMemoryWarning, 3), twoPagesGrown)] := by
  apply run_regrowth twoPages_warning
  have hwait : (0 : CGFloat) ≤ 3 := by norm_num
  have hpending : (CacheGrowth.afterMemoryWarning, (3 : CGFloat)) ∈ twoPagesWaited.performRequests ∧
      (3 : CGFloat) ≤ twoPagesWaited.now := by decide +kernel
  exact .cons ⟨⟨hwait, keepAll, false, rfl⟩, rfl⟩
    (.cons ⟨⟨hpending, keepAll, false, rfl⟩, rfl⟩ (.nil _))

end MixedProject.WMPageController
