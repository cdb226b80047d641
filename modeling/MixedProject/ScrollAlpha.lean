import MixedProject.ScrollSettling

namespace MixedProject.NestedScroll

open Traces

/-- The page with the mark that it has appeared and not begun to disappear. -/
structure Shown where
  view : State
  onScreen : Bool
  deriving DecidableEq

def onScreenAfter (onScreen : Bool) : Event → Bool
  | .viewDidAppear => true
  | .viewWillDisappear => false
  | _ => onScreen

def ShownStep (screen : Screen) (p : Shown) (e : Event) (q : Shown) : Prop :=
  Step screen p.view e q.view ∧ q.onScreen = onScreenAfter p.onScreen e

def hidden : Shown := ⟨viewDidLoad, false⟩

structure Tracking (screen : Screen) (p : Shown) : Prop where
  registered : Registered p.view
  nonneg : 0 ≤ p.view.contentOffset
  le_max : p.view.contentOffset ≤ screen.maxOffsetY
  alpha : p.onScreen = true → p.view.alpha = p.view.contentOffset / screen.maxOffsetY

def AppearsAtZero (p : Shown) (e : Event) : Prop := e = .viewDidAppear → p.view.contentOffset = 0

instance (p : Shown) (e : Event) : Decidable (AppearsAtZero p e) :=
  inferInstanceAs (Decidable (e = .viewDidAppear → p.view.contentOffset = 0))

theorem alpha_containerSettled (screen : Screen) (s : State) :
    (containerSettled screen s).alpha =
      (containerSettled screen s).contentOffset / screen.maxOffsetY := by
  rcases containerSettled_cases screen s with heq | ⟨y, heq⟩
  · rw [heq]
    rfl
  · rw [heq]
    rfl

theorem outcome_still (screen : Screen) (s : State) {e : Event}
    (hscroll : ∀ y, e ≠ .containerScroll y) :
    (outcome screen s e).contentOffset = s.contentOffset ∧
      (e ≠ .viewDidAppear → (outcome screen s e).alpha = s.alpha) := by
  cases e with
  | containerScroll y => exact absurd rfl (hscroll y)
  | pageScroll i y =>
    simp only [outcome, pageOutcome]
    split_ifs
    · exact ⟨rfl, fun _ => rfl⟩
    · exact ⟨rfl, fun _ => rfl⟩
    · exact ⟨rfl, fun _ => rfl⟩
  | loadPage => exact ⟨rfl, fun _ => rfl⟩
  | viewWillAppear => exact ⟨rfl, fun _ => rfl⟩
  | viewDidAppear => exact ⟨rfl, fun h => absurd rfl h⟩
  | viewWillDisappear => exact ⟨rfl, fun _ => rfl⟩

theorem tracking_step {screen : Screen} (hmax : 0 < screen.maxOffsetY) {p q : Shown} {e : Event}
    (h : Tracking screen p) (hst : ShownStep screen p e q) (hzero : AppearsAtZero p e) :
    Tracking screen q := by
  obtain ⟨hview, hshown⟩ := hst
  have hq := step_outcome h.registered hview
  have hreg : Registered q.view := registered_step h.registered hview
  by_cases hscroll : ∃ y, e = .containerScroll y
  · obtain ⟨y, rfl⟩ := hscroll
    obtain ⟨fuel, ht⟩ := hview
    have hsettled := containerDidScroll_settles hmax fuel _ _ ht
    refine ⟨hreg, hsettled.nonneg, hsettled.le_max, fun _ => ?_⟩
    rw [hq]
    exact alpha_containerSettled screen _
  · have hstill := outcome_still screen p.view fun y hy => hscroll ⟨y, hy⟩
    rw [← hq] at hstill
    refine ⟨hreg, ?_, ?_, ?_⟩
    · rw [hstill.1]
      exact h.nonneg
    · rw [hstill.1]
      exact h.le_max
    · intro honScreen
      by_cases happear : e = .viewDidAppear
      · have halpha : q.view.alpha = 0 := by rw [hq, happear]; rfl
        rw [halpha, hstill.1, hzero happear, zero_div]
      · rw [hstill.1, hstill.2 happear]
        apply h.alpha
        rw [hshown] at honScreen
        cases e with
        | viewDidAppear => exact absurd rfl happear
        | viewWillDisappear => cases honScreen
        | _ => exact honScreen

theorem tracking_hidden {screen : Screen} (hmax : 0 < screen.maxOffsetY) : Tracking screen hidden := by
  refine ⟨registered_viewDidLoad, le_rfl, hmax.le, ?_⟩
  intro honScreen
  cases honScreen

theorem appearsAtZero_of_alpha {screen : Screen} (hmax : 0 < screen.maxOffsetY) {p q : Shown}
    {e : Event} (h : Tracking screen p) (hst : ShownStep screen p e q)
    (halpha : q.onScreen = true → q.view.alpha = q.view.contentOffset / screen.maxOffsetY) :
    AppearsAtZero p e := by
  rintro rfl
  obtain ⟨hview, hshown⟩ := hst
  have hq : q.view = viewDidAppear p.view := step_outcome h.registered hview
  have hlaw := halpha hshown
  rw [hq] at hlaw
  have hzero : p.view.contentOffset / screen.maxOffsetY = 0 := hlaw.symm
  rcases div_eq_zero_iff.mp hzero with hoffset | hno
  · exact hoffset
  · exact absurd hno hmax.ne'

theorem alpha_follows_offset_iff (screen : Screen) (hmax : 0 < screen.maxOffsetY)
    {tr : List (Event × Shown)} (htr : Trace (ShownStep screen) hidden tr) :
    Always (fun p => p.onScreen = true →
      p.view.alpha = p.view.contentOffset / screen.maxOffsetY ∧ 0 ≤ p.view.alpha ∧ p.view.alpha ≤ 1)
      hidden tr ↔ Steps (fun p e _ => AppearsAtZero p e) hidden tr := by
  apply htr.always_iff (I := Tracking screen) _ _ _ (tracking_hidden hmax)
  · intro p hp honScreen
    have halpha := hp.alpha honScreen
    refine ⟨halpha, ?_, ?_⟩
    · rw [halpha]
      exact div_nonneg hp.nonneg hmax.le
    · rw [halpha, div_le_one hmax]
      exact hp.le_max
  · intro p e q hp hst hzero
    exact tracking_step hmax hp hst hzero
  · intro p e q hp hst hlaw
    exact appearsAtZero_of_alpha hmax hp hst fun honScreen => (hlaw honScreen).1

def shownRun (screen : Screen) (es : List Event) : List (Event × Shown) :=
  run (fun p e => (handle screen 4 p.view e).map fun view => ⟨view, onScreenAfter p.onScreen e⟩)
    hidden es

theorem trace_shownRun (screen : Screen) (es : List Event) :
    Trace (ShownStep screen) hidden (shownRun screen es) := by
  apply trace_run
  intro p e q hq
  obtain ⟨view, hview, rfl⟩ := Option.map_eq_some_iff.mp hq
  exact ⟨⟨4, hview⟩, rfl⟩

def firstVisit : List Event :=
  [.viewWillAppear, .viewDidAppear, .containerScroll 50, .viewWillDisappear]

theorem firstVisit_alpha :
    Always (fun p => p.onScreen = true →
      p.view.alpha = p.view.contentOffset / phone.maxOffsetY ∧ 0 ≤ p.view.alpha ∧ p.view.alpha ≤ 1)
      hidden (shownRun phone firstVisit) := by
  apply (alpha_follows_offset_iff phone (by decide +kernel) (trace_shownRun phone firstVisit)).mpr
  decide +kernel

theorem second_visit_is_transparent :
    ¬ ∀ (screen : Screen) (tr : List (Event × Shown)), 0 < screen.maxOffsetY →
      Trace (ShownStep screen) hidden tr →
      Always (fun p => p.onScreen = true →
        p.view.alpha = p.view.contentOffset / screen.maxOffsetY) hidden tr := by
  intro h
  have hlast := (h phone _ (by decide +kernel)
    (trace_shownRun phone (firstVisit ++ [.viewWillAppear, .viewDidAppear]))).last
  revert hlast
  decide +kernel

end MixedProject.NestedScroll
