import MixedProject.ScrollOwnership

namespace MixedProject.NestedScroll

open Traces

def Pinned (screen : Screen) (s : State) : Prop :=
  s.canScroll = false → s.contentOffset = screen.maxOffsetY

def NotBelow (s : State) : Event → Prop
  | .containerScroll y => s.canScroll = false → 0 < y
  | _ => True

instance (s : State) : DecidablePred (NotBelow s)
  | .containerScroll y => inferInstanceAs (Decidable (s.canScroll = false → 0 < y))
  | .pageScroll _ _ | .loadPage | .viewWillAppear | .viewDidAppear | .viewWillDisappear =>
    .isTrue trivial

theorem pinned_topped (screen : Screen) (s : State) : Pinned screen (topped screen s) := fun _ => rfl

theorem pinned_step {screen : Screen} {s t : State} {e : Event} (hs : Registered s)
    (h : Pinned screen s) (hst : Step screen s e t) (hg : NotBelow s e) : Pinned screen t := by
  have ht := step_outcome hs hst
  cases e with
  | containerScroll y =>
    rw [ht, outcome, containerSettled]
    split_ifs with habove hzero hmax hcan
    · exact pinned_topped screen _
    · exact pinned_topped screen _
    · intro hlocked
      have hpos : 0 < y := hg hlocked
      exact absurd hzero (not_le.mpr hpos)
    · intro hlocked
      have hfree : s.canScroll = true := hcan
      have hstill : s.canScroll = false := hlocked
      rw [hstill] at hfree
      cases hfree
    · exact pinned_topped screen _
  | pageScroll i y =>
    rw [ht]
    simp only [outcome, pageOutcome]
    split_ifs
    · intro hlocked
      have hcan : s.canScroll = false := by
        simp only [released, Bool.or_eq_false_iff] at hlocked
        exact hlocked.1
      exact h hcan
    · exact h
    · exact h
  | loadPage => rw [ht]; exact h
  | viewWillAppear => rw [ht]; exact h
  | viewDidAppear => rw [ht]; exact h
  | viewWillDisappear => rw [ht]; exact h

theorem notBelow_of_pinned {screen : Screen} (hmax : 0 < screen.maxOffsetY) {s t : State}
    {e : Event} (hs : Registered s) (hst : Step screen s e t) (hpin : Pinned screen t) :
    NotBelow s e := by
  have ht := step_outcome hs hst
  cases e with
  | containerScroll y =>
    intro hlocked
    by_contra hneg
    have hle : y ≤ 0 := not_lt.mp hneg
    have habove : ¬ screen.maxOffsetY ≤ (moved y s).contentOffset := not_le.mpr (hle.trans_lt hmax)
    have hzero : (moved y s).contentOffset ≤ 0 := hle
    rw [outcome, containerSettled, if_neg habove, if_pos hzero, if_neg (not_le.mpr hmax)] at ht
    have hstill : t.canScroll = false := by rw [ht]; exact hlocked
    have hoffset : t.contentOffset = 0 := by rw [ht]; rfl
    rw [hpin hstill] at hoffset
    exact hmax.ne' hoffset
  | pageScroll i y => trivial
  | loadPage => trivial
  | viewWillAppear => trivial
  | viewDidAppear => trivial
  | viewWillDisappear => trivial

theorem unlock_step {screen : Screen} {s t : State} {e : Event} (hs : Registered s)
    (hst : Step screen s e t) (hlocked : s.canScroll = false) (hfree : t.canScroll = true) :
    ∃ i y, e = .pageScroll i y ∧ (page s i).canScroll = true ∧ y < 0 ∧ observing s = true := by
  have ht := step_outcome hs hst
  cases e with
  | containerScroll y =>
    rcases containerSettled_cases screen (moved y s) with heq | ⟨z, heq⟩
    · rw [ht, outcome, heq] at hfree
      cases hfree
    · rw [ht, outcome, heq] at hfree
      exact absurd hfree (by simp [shaded, moved, hlocked])
  | pageScroll i y =>
    simp only [outcome, pageOutcome] at ht
    split_ifs at ht with hcan hneg
    · refine ⟨i, y, rfl, hcan, hneg, ?_⟩
      simpa [ht, released, hlocked] using hfree
    · exact absurd hfree (by simp [ht, scrolled, modifyPage, hlocked])
    · exact absurd hfree (by simp [ht, scrolled, modifyPage, hlocked])
  | loadPage => exact absurd hfree (by simp [ht, outcome, loadPage, hlocked])
  | viewWillAppear => exact absurd hfree (by simp [ht, outcome, viewWillAppear, hlocked])
  | viewDidAppear => exact absurd hfree (by simp [ht, outcome, viewDidAppear, hlocked])
  | viewWillDisappear => exact absurd hfree (by simp [ht, outcome, viewWillDisappear, hlocked])

theorem stays_pinned_iff (screen : Screen) (hmax : 0 < screen.maxOffsetY)
    {tr : List (Event × State)} (htr : Trace (Step screen) viewDidLoad tr) :
    (Always (fun s => s.canScroll = false → s.contentOffset = screen.maxOffsetY) viewDidLoad tr ∧
      Steps (fun s e t => s.canScroll = false → t.canScroll = true →
        ∃ i y, e = .pageScroll i y ∧ (page s i).canScroll = true ∧ y < 0 ∧ observing s = true)
        viewDidLoad tr) ↔
      Steps (fun s e _ => NotBelow s e) viewDidLoad tr := by
  have hstart : Registered viewDidLoad ∧ Pinned screen viewDidLoad := by
    refine ⟨registered_viewDidLoad, ?_⟩
    intro hlocked
    cases hlocked
  have hpin : Always (fun s => s.canScroll = false → s.contentOffset = screen.maxOffsetY)
      viewDidLoad tr ↔ Steps (fun s e _ => NotBelow s e) viewDidLoad tr := by
    apply htr.always_iff (I := fun s => Registered s ∧ Pinned screen s) _ _ _ hstart
    · intro s hs
      exact hs.2
    · intro s e t hs hst hg
      exact ⟨registered_step hs.1 hst, pinned_step hs.1 hs.2 hst hg⟩
    · intro s e t hs hst hstays
      exact notBelow_of_pinned hmax hs.1 hst hstays
  have hunlock := htr.steps (I := Registered) (fun _ _ _ hs hst => registered_step hs hst)
    (fun _ _ _ hs hst => unlock_step hs hst) registered_viewDidLoad
  constructor
  · intro h
    exact hpin.mp h.1
  · intro h
    exact ⟨hpin.mpr h, hunlock⟩

theorem handover_pin :
    Always (fun s => s.canScroll = false → s.contentOffset = phone.maxOffsetY) viewDidLoad
        (run (handle phone 4) viewDidLoad handover) ∧
      Steps (fun s e t => s.canScroll = false → t.canScroll = true →
        ∃ i y, e = .pageScroll i y ∧ (page s i).canScroll = true ∧ y < 0 ∧ observing s = true)
        viewDidLoad (run (handle phone 4) viewDidLoad handover) := by
  apply (stays_pinned_iff phone (by decide +kernel) (trace_handle phone handover)).mpr
  decide +kernel

def fling : List Event := [.containerScroll 200, .containerScroll (-1)]

theorem fling_leaves_the_top :
    ¬ ∀ (screen : Screen) (tr : List (Event × State)), 0 < screen.maxOffsetY →
      Trace (Step screen) viewDidLoad tr →
      Always (fun s => s.canScroll = false → s.contentOffset = screen.maxOffsetY) viewDidLoad tr := by
  intro h
  have hlast := (h phone _ (by decide +kernel) (trace_handle phone fling)).last
  revert hlast
  decide +kernel

end MixedProject.NestedScroll
