import MixedProject.ScrollEvents
import MixedProject.Traces

namespace MixedProject.NestedScroll

open Traces

theorem mem_modify {pages : List ChildTableViewController} {i : ℕ}
    {f : ChildTableViewController → ChildTableViewController} {q : ChildTableViewController}
    (hq : q ∈ pages.modify i f) : q ∈ pages ∨ pages[i]?.map f = some q := by
  obtain ⟨j, hj⟩ := List.mem_iff_getElem?.mp hq
  rw [List.getElem?_modify] at hj
  split_ifs at hj with hij
  · subst hij
    exact .inr hj
  · apply Or.inl
    apply List.mem_iff_getElem?.mpr
    exact ⟨j, by simpa using hj⟩

theorem page_getElem {s : State} {i : ℕ} (hi : i < s.pages.length) :
    s.pages[i]? = some (page s i) := by
  simp [page, hi]

theorem mem_scrolled {i : ℕ} {y : CGFloat} {s : State} {q : ChildTableViewController}
    (hi : i < s.pages.length) (hq : q ∈ (scrolled i y s).pages) :
    q ∈ s.pages ∨ q = { page s i with contentOffset := y } := by
  rcases mem_modify hq with hold | hnew
  · exact .inl hold
  · rw [page_getElem hi] at hnew
    exact .inr (Option.some.inj hnew).symm

theorem page_mem {s : State} {i : ℕ} (hi : i < s.pages.length) : page s i ∈ s.pages :=
  List.mem_iff_getElem?.mpr ⟨i, page_getElem hi⟩

structure Owned (s : State) : Prop where
  registered : Registered s
  exclusive : s.canScroll = true → ∀ p ∈ s.pages, p.canScroll = false
  atRest : ∀ p ∈ s.pages, p.canScroll = false → p.contentOffset = 0
  nonneg : ∀ p ∈ s.pages, 0 ≤ p.contentOffset

namespace Owned

theorem locked {s : State} (h : Owned s) {p : ChildTableViewController} (hp : p ∈ s.pages)
    (hcan : p.canScroll = true) : s.canScroll = false := by
  cases hs : s.canScroll with
  | false => rfl
  | true => rw [h.exclusive hs p hp] at hcan; cases hcan

theorem topped {screen : Screen} {s : State} (h : Owned s) : Owned (topped screen s) := by
  have hpages : ∀ q ∈ (NestedScroll.topped screen s).pages,
      ∃ p ∈ s.pages, effect .homeGoTop p = q := fun q hq => List.mem_map.mp hq
  refine ⟨h.registered.topped, ?_, ?_, ?_⟩
  · intro hcan
    cases hcan
  · intro q hq hfree
    obtain ⟨p, -, rfl⟩ := hpages q hq
    cases hfree
  · intro q hq
    obtain ⟨p, hp, rfl⟩ := hpages q hq
    exact h.nonneg p hp

theorem released {s : State} (h : Owned s) : Owned (released s) := by
  have hpages : ∀ q ∈ (NestedScroll.released s).pages, q = {} := by
    intro q hq
    obtain ⟨p, -, rfl⟩ := List.mem_map.mp hq
    rfl
  refine ⟨h.registered.congr rfl (by simp [NestedScroll.released]), ?_, ?_, ?_⟩
  · intro _ q hq
    rw [hpages q hq]
  · intro q hq _
    rw [hpages q hq]
  · intro q hq
    rw [hpages q hq]

theorem scrolled {i : ℕ} {y : CGFloat} {s : State} (h : Owned s) (hi : i < s.pages.length)
    (hrest : (page s i).canScroll = false → y = 0) (hy : 0 ≤ y) : Owned (scrolled i y s) := by
  refine ⟨h.registered.scrolled, ?_, ?_, ?_⟩
  · intro hcan q hq
    rcases mem_scrolled hi hq with hold | rfl
    · exact h.exclusive hcan q hold
    · have hfree : (page s i).canScroll = false := h.exclusive hcan _ (page_mem hi)
      exact hfree
  · intro q hq hfree
    rcases mem_scrolled hi hq with hold | rfl
    · exact h.atRest q hold hfree
    · exact hrest hfree
  · intro q hq
    rcases mem_scrolled hi hq with hold | rfl
    · exact h.nonneg q hold
    · exact hy

theorem loadPage {s : State} (h : Owned s) : Owned (loadPage s) := by
  have hpages : ∀ q ∈ (NestedScroll.loadPage s).pages, q ∈ s.pages ∨ q = {} := by
    intro q hq
    simpa [NestedScroll.loadPage] using hq
  refine ⟨registered_loadPage h.registered, ?_, ?_, ?_⟩
  · intro hcan q hq
    rcases hpages q hq with hold | rfl
    · exact h.exclusive hcan q hold
    · rfl
  · intro q hq hfree
    rcases hpages q hq with hold | rfl
    · exact h.atRest q hold hfree
    · rfl
  · intro q hq
    rcases hpages q hq with hold | rfl
    · exact h.nonneg q hold
    · exact le_rfl

theorem congr {s t : State} (h : Owned s) (hreg : Registered t) (hcan : t.canScroll = s.canScroll)
    (hpages : t.pages = s.pages) : Owned t := by
  refine ⟨hreg, ?_, ?_, ?_⟩
  · rw [hcan, hpages]
    exact h.exclusive
  · rw [hpages]
    exact h.atRest
  · rw [hpages]
    exact h.nonneg

theorem step {screen : Screen} {s t : State} {e : Event} (h : Owned s)
    (hst : Step screen s e t) : Owned t := by
  have ht := step_outcome h.registered hst
  have hreg : Registered t := registered_step h.registered hst
  cases e with
  | containerScroll y =>
    rcases containerSettled_cases screen (moved y s) with heq | ⟨z, heq⟩
    · rw [ht, outcome, heq]
      exact (h.congr h.registered.moved rfl rfl).topped
    · rw [outcome, heq] at ht
      exact h.congr hreg (by rw [ht]; rfl) (by rw [ht]; rfl)
  | pageScroll i y =>
    have hi : i < s.pages.length := step_possible hst
    rw [ht]
    simp only [outcome, pageOutcome]
    split_ifs with hfree hneg
    · exact h.released
    · apply h.scrolled hi
      · intro hno
        rw [hno] at hfree
        cases hfree
      · exact not_lt.mp hneg
    · exact h.scrolled hi (fun _ => rfl) le_rfl
  | loadPage => rw [ht]; exact h.loadPage
  | viewWillAppear => exact h.congr hreg (by rw [ht]; rfl) (by rw [ht]; rfl)
  | viewDidAppear => exact h.congr hreg (by rw [ht]; rfl) (by rw [ht]; rfl)
  | viewWillDisappear => exact h.congr hreg (by rw [ht]; rfl) (by rw [ht]; rfl)

theorem viewDidLoad : Owned viewDidLoad := by
  refine ⟨registered_viewDidLoad, ?_, ?_, ?_⟩ <;> simp [NestedScroll.viewDidLoad]

end Owned

theorem always_owned {screen : Screen} {tr : List (Event × State)}
    (htr : Trace (Step screen) viewDidLoad tr) : Always Owned viewDidLoad tr :=
  htr.always (fun _ _ _ h hst => h.step hst) Owned.viewDidLoad

theorem never_two_scrollers (screen : Screen) {tr : List (Event × State)}
    (htr : Trace (Step screen) viewDidLoad tr) :
    Always (fun s =>
      (¬ ∃ p ∈ s.pages, s.canScroll = true ∧ p.canScroll = true) ∧
      (s.canScroll = true → ∀ p ∈ s.pages, p.contentOffset = 0) ∧
      (∀ p ∈ s.pages, 0 ≤ p.contentOffset ∧ (p.canScroll = false → p.contentOffset = 0)) ∧
      ∀ e, Possible s e → ∃ t, Step screen s e t)
      viewDidLoad tr := by
  refine (always_owned htr).mono fun s h => ⟨?_, ?_, ?_, ?_⟩
  · rintro ⟨p, hp, hs, hcan⟩
    rw [h.locked hp hcan] at hs
    cases hs
  · intro hs p hp
    exact h.atRest p hp (h.exclusive hs p hp)
  · intro p hp
    exact ⟨h.nonneg p hp, h.atRest p hp⟩
  · intro e he
    exact ⟨_, step_total screen h.registered he⟩

def phone : Screen := { kScreenWidth := 375, kHeightNavBar := 64 }

def handover : List Event :=
  [.loadPage, .loadPage, .viewWillAppear, .containerScroll 500, .pageScroll 0 80, .pageScroll 1 (-3),
    .containerScroll 20]

theorem handover_one_scroller :
    Always (fun s =>
      (¬ ∃ p ∈ s.pages, s.canScroll = true ∧ p.canScroll = true) ∧
      (s.canScroll = true → ∀ p ∈ s.pages, p.contentOffset = 0) ∧
      (∀ p ∈ s.pages, 0 ≤ p.contentOffset ∧ (p.canScroll = false → p.contentOffset = 0)) ∧
      ∀ e, Possible s e → ∃ t, Step phone s e t)
      viewDidLoad (run (handle phone 4) viewDidLoad handover) := by
  exact never_two_scrollers phone (trace_handle phone handover)

def HandedOver (s : State) : Event → Prop
  | .loadPage => s.canScroll = true
  | .pageScroll i y => (page s i).canScroll = true → y < 0 → observing s = true
  | _ => True

instance (s : State) : DecidablePred (HandedOver s)
  | .loadPage => inferInstanceAs (Decidable (s.canScroll = true))
  | .pageScroll i y =>
    inferInstanceAs (Decidable ((page s i).canScroll = true → y < 0 → observing s = true))
  | .containerScroll _ | .viewWillAppear | .viewDidAppear | .viewWillDisappear => .isTrue trivial

def PagesFree (s : State) : Prop := s.canScroll = false → ∀ p ∈ s.pages, p.canScroll = true

theorem PagesFree.congr {s t : State} (h : PagesFree s) (hcan : t.canScroll = s.canScroll)
    (hpages : t.pages = s.pages) : PagesFree t := by
  rw [PagesFree, hcan, hpages]
  exact h

theorem pagesFree_topped (screen : Screen) (s : State) : PagesFree (topped screen s) := by
  intro _ q hq
  obtain ⟨p, -, rfl⟩ := List.mem_map.mp hq
  rfl

theorem pagesFree_scrolled {i : ℕ} {y : CGFloat} {s : State} (h : PagesFree s)
    (hi : i < s.pages.length) : PagesFree (scrolled i y s) := by
  intro hcan q hq
  rcases mem_scrolled hi hq with hold | rfl
  · exact h hcan q hold
  · have hfree : (page s i).canScroll = true := h hcan _ (page_mem hi)
    exact hfree

theorem pagesFree_step {screen : Screen} {s t : State} {e : Event} (hs : Owned s)
    (h : PagesFree s) (hst : Step screen s e t) (hg : HandedOver s e) : PagesFree t := by
  have ht := step_outcome hs.registered hst
  cases e with
  | containerScroll y =>
    rcases containerSettled_cases screen (moved y s) with heq | ⟨z, heq⟩
    · rw [ht, outcome, heq]
      exact pagesFree_topped screen _
    · rw [ht, outcome, heq]
      exact h.congr rfl rfl
  | pageScroll i y =>
    have hi : i < s.pages.length := step_possible hst
    rw [ht]
    simp only [outcome, pageOutcome]
    split_ifs with hfree hneg
    · intro hcan
      have hheard : observing s = true := hg hfree hneg
      simp [released, hheard] at hcan
    · exact pagesFree_scrolled h hi
    · exact pagesFree_scrolled h hi
  | loadPage =>
    intro hcan
    have hlocked : s.canScroll = false := by rwa [ht] at hcan
    have hfree : s.canScroll = true := hg
    rw [hlocked] at hfree
    cases hfree
  | viewWillAppear => exact h.congr (by rw [ht]; rfl) (by rw [ht]; rfl)
  | viewDidAppear => exact h.congr (by rw [ht]; rfl) (by rw [ht]; rfl)
  | viewWillDisappear => exact h.congr (by rw [ht]; rfl) (by rw [ht]; rfl)

theorem handedOver_of_pagesFree {screen : Screen} {s t : State} {e : Event} (hs : Owned s)
    (hst : Step screen s e t) (hfree : PagesFree t) : HandedOver s e := by
  have ht := step_outcome hs.registered hst
  cases e with
  | pageScroll i y =>
    intro hcan hneg
    have hi : i < s.pages.length := step_possible hst
    have htr : t = released s := by rw [ht, outcome, pageOutcome, if_pos hcan, if_pos hneg]
    have hlocked : s.canScroll = false := hs.locked (page_mem hi) hcan
    by_contra hdeaf
    have hdeaf : observing s = false := by simpa using hdeaf
    have hstill : t.canScroll = false := by rw [htr, released, hlocked, hdeaf]; rfl
    have hmem : effect .homeLeaveTop (page s i) ∈ t.pages := by
      rw [htr]
      exact List.mem_map.mpr ⟨_, page_mem hi, rfl⟩
    cases hfree hstill _ hmem
  | loadPage =>
    have hmem : ({} : ChildTableViewController) ∈ t.pages := by simp [ht, outcome, loadPage]
    by_contra hlocked
    have hstill : t.canScroll = false := by
      rw [ht]
      simpa [HandedOver, outcome, loadPage] using hlocked
    cases hfree hstill _ hmem
  | containerScroll y => trivial
  | viewWillAppear => trivial
  | viewDidAppear => trivial
  | viewWillDisappear => trivial

theorem never_zero_scrollers_iff (screen : Screen) {tr : List (Event × State)}
    (htr : Trace (Step screen) viewDidLoad tr) :
    Always (fun s => s.canScroll = false → ∀ p ∈ s.pages, p.canScroll = true) viewDidLoad tr ↔
      Steps (fun s e _ => HandedOver s e) viewDidLoad tr := by
  have hstart : Owned viewDidLoad ∧ PagesFree viewDidLoad := by
    refine ⟨Owned.viewDidLoad, ?_⟩
    intro hcan
    cases hcan
  apply htr.always_iff (I := fun s => Owned s ∧ PagesFree s) _ _ _ hstart
  · intro s hs
    exact hs.2
  · intro s e t hs hst hg
    exact ⟨hs.1.step hst, pagesFree_step hs.1 hs.2 hst hg⟩
  · intro s e t hs hst hfree
    exact handedOver_of_pagesFree hs.1 hst hfree

theorem handover_keeps_a_scroller :
    Always (fun s => s.canScroll = false → ∀ p ∈ s.pages, p.canScroll = true) viewDidLoad
      (run (handle phone 4) viewDidLoad handover) := by
  apply (never_zero_scrollers_iff phone (trace_handle phone handover)).mpr
  decide +kernel

def lateLoad : List Event := [.loadPage, .viewWillAppear, .containerScroll 200, .loadPage]

theorem late_page_is_locked :
    ¬ ∀ (screen : Screen) (tr : List (Event × State)), Trace (Step screen) viewDidLoad tr →
      Always (fun s => s.canScroll = false → ∀ p ∈ s.pages, p.canScroll = true) viewDidLoad tr := by
  intro h
  have hlast := (h phone _ (trace_handle phone lateLoad)).last
  revert hlast
  decide +kernel

end MixedProject.NestedScroll
