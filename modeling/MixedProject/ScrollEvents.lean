import MixedProject.ScrollCascade
import MixedProject.Traces

namespace MixedProject.NestedScroll

open Traces

def scrolled (i : ℕ) (y : CGFloat) (s : State) : State :=
  modifyPage s i fun p => { p with contentOffset := y }

def released (s : State) : State :=
  { s with
    canScroll := s.canScroll || observing s
    pages := s.pages.map (effect .homeLeaveTop) }

def pageOutcome (i : ℕ) (y : CGFloat) (s : State) : State :=
  if (page s i).canScroll then if y < 0 then released s else scrolled i y s
  else scrolled i 0 s

theorem page_scrolled {i : ℕ} {y : CGFloat} {s : State} (hi : i < s.pages.length) :
    page (scrolled i y s) i = { page s i with contentOffset := y } := by
  simp [page, scrolled, modifyPage, hi]

theorem Registered.scrolled {i : ℕ} {y : CGFloat} {s : State} (h : Registered s) :
    Registered (scrolled i y s) := h.congr rfl (by simp [NestedScroll.scrolled, modifyPage])

theorem released_scrolled (i : ℕ) (y : CGFloat) (s : State) :
    released (scrolled i y s) = released s := by
  have hpages : (s.pages.modify i fun p => { p with contentOffset := y }).map
      (effect .homeLeaveTop) = s.pages.map (effect .homeLeaveTop) := by
    apply List.ext_getElem?
    intro j
    rw [List.getElem?_map, List.getElem?_map, List.getElem?_modify]
    cases s.pages[j]? with
    | none => rfl
    | some p => split_ifs <;> rfl
  simp only [released, scrolled, modifyPage, hpages]
  rfl

theorem pageSettled_scrolled {i : ℕ} {y : CGFloat} {s : State} (h : Registered s)
    (hi : i < s.pages.length) : pageSettled i (scrolled i y s) = pageOutcome i y s := by
  have hpage := page_scrolled (y := y) hi
  have hcan : (page (scrolled i y s) i).canScroll = (page s i).canScroll := by rw [hpage]
  unfold pageOutcome
  split_ifs with hfree hneg
  · have hpinned : pinned i (scrolled i y s) = scrolled i y s := by
      rw [pinned, hcan, if_pos hfree]
    rw [pageSettled, hpinned, hpage, if_pos hneg, posted_leaveTop h.scrolled]
    exact released_scrolled i y s
  · have hpinned : pinned i (scrolled i y s) = scrolled i y s := by
      rw [pinned, hcan, if_pos hfree]
    rw [pageSettled, hpinned, hpage, if_neg hneg]
  · have hpinned : pinned i (scrolled i y s) = scrolled i 0 s := by
      rw [pinned, hcan, if_neg hfree, rested, scrolled, modifyPage_modifyPage]
      rfl
    rw [pageSettled, hpinned, page_scrolled hi, if_neg (lt_irrefl 0)]

def outcome (screen : Screen) (s : State) : Event → State
  | .containerScroll y => containerSettled screen (moved y s)
  | .pageScroll i y => pageOutcome i y s
  | .loadPage => loadPage s
  | .viewWillAppear => viewWillAppear s
  | .viewDidAppear => viewDidAppear s
  | .viewWillDisappear => viewWillDisappear s

theorem step_outcome {screen : Screen} {s t : State} {e : Event} (h : Registered s)
    (hst : Step screen s e t) : t = outcome screen s e := by
  obtain ⟨fuel, ht⟩ := hst
  cases e with
  | containerScroll y => exact containerDidScroll_sound h.moved ht
  | pageScroll i y =>
    simp only [handle] at ht
    split_ifs at ht with hi
    rw [pageDidScroll_sound ht]
    exact pageSettled_scrolled h hi
  | loadPage => exact (Option.some.inj ht).symm
  | viewWillAppear => exact (Option.some.inj ht).symm
  | viewDidAppear => exact (Option.some.inj ht).symm
  | viewWillDisappear => exact (Option.some.inj ht).symm

def Possible (s : State) : Event → Prop
  | .pageScroll i _ => i < s.pages.length
  | _ => True

theorem step_possible {screen : Screen} {s t : State} {e : Event} (hst : Step screen s e t) :
    Possible s e := by
  obtain ⟨fuel, ht⟩ := hst
  cases e with
  | pageScroll i y =>
    simp only [handle] at ht
    split_ifs at ht with hi
    exact hi
  | containerScroll y => trivial
  | loadPage => trivial
  | viewWillAppear => trivial
  | viewDidAppear => trivial
  | viewWillDisappear => trivial

theorem step_total (screen : Screen) {s : State} (h : Registered s) {e : Event}
    (he : Possible s e) : Step screen s e (outcome screen s e) := by
  have hsome : ∃ t, Step screen s e t := by
    cases e with
    | containerScroll y =>
      obtain ⟨t, ht⟩ := containerDidScroll_total screen 0 (moved y s)
      exact ⟨t, 4, ht⟩
    | pageScroll i y =>
      refine ⟨pageSettled i (scrolled i y s), 2, ?_⟩
      have hi : i < s.pages.length := he
      rw [handle, if_pos hi]
      exact pageDidScroll_total 0 i _
    | loadPage => exact ⟨_, 0, rfl⟩
    | viewWillAppear => exact ⟨_, 0, rfl⟩
    | viewDidAppear => exact ⟨_, 0, rfl⟩
    | viewWillDisappear => exact ⟨_, 0, rfl⟩
  obtain ⟨t, ht⟩ := hsome
  rwa [step_outcome h ht] at ht

theorem observersOf_append (name : NotificationName) (s : State)
    (entries : List (NotificationName × Observer)) :
    observersOf name { s with observers := s.observers ++ entries } =
      observersOf name s ++ ((entries.filter fun entry => entry.1 = name).map Prod.snd) := by
  simp [observersOf]

theorem registered_loadPage {s : State} (h : Registered s) : Registered (loadPage s) := by
  have hof : ∀ name, observersOf name (loadPage s) =
      observersOf name s ++ (([(.homeGoTop, .page s.pages.length),
        (.homeLeaveTop, .page s.pages.length)].filter fun entry => entry.1 = name).map Prod.snd) :=
    fun name => observersOf_append name s _
  have hlen : (loadPage s).pages.length = s.pages.length + 1 := by simp [loadPage]
  constructor
  · intro o
    have hnew : o ∈ observersOf .homeGoTop (loadPage s) ↔
        (∃ i < s.pages.length, o = .page i) ∨ o = .page s.pages.length := by
      rw [hof, List.mem_append, h.goTop]
      simp
    rw [hnew, hlen]
    constructor
    · rintro (⟨i, hi, rfl⟩ | rfl)
      · exact ⟨i, by omega, rfl⟩
      · exact ⟨s.pages.length, by omega, rfl⟩
    · rintro ⟨i, hi, rfl⟩
      rcases Nat.lt_succ_iff_lt_or_eq.mp hi with hlt | rfl
      · exact .inl ⟨i, hlt, rfl⟩
      · exact .inr rfl
  · intro i
    have hnew : .page i ∈ observersOf .homeLeaveTop (loadPage s) ↔
        i < s.pages.length ∨ i = s.pages.length := by
      rw [hof, List.mem_append, h.leaveTop]
      simp
    rw [hnew, hlen]
    omega

theorem registered_viewWillAppear {s : State} (h : Registered s) :
    Registered (viewWillAppear s) := by
  have hof : ∀ name, observersOf name (viewWillAppear s) =
      observersOf name s ++ (([(.homeLeaveTop, .container),
        (.changeVideo, .container)].filter fun entry => entry.1 = name).map Prod.snd) :=
    fun name => observersOf_append name s _
  have hlen : (viewWillAppear s).pages.length = s.pages.length := rfl
  constructor
  · intro o
    rw [hof, hlen, ← h.goTop o]
    simp
  · intro i
    rw [hof, hlen, ← h.leaveTop i]
    simp

theorem mem_observersOf_viewWillDisappear {name : NotificationName} {s : State} {o : Observer} :
    o ∈ observersOf name (viewWillDisappear s) ↔ o ∈ observersOf name s ∧ o ≠ .container := by
  simp only [observersOf, viewWillDisappear, List.mem_map, List.mem_filter, decide_eq_true_eq]
  constructor
  · rintro ⟨entry, ⟨⟨hentry, hne⟩, hname⟩, rfl⟩
    exact ⟨⟨entry, ⟨hentry, hname⟩, rfl⟩, hne⟩
  · rintro ⟨⟨entry, ⟨hentry, hname⟩, rfl⟩, hne⟩
    exact ⟨entry, ⟨⟨hentry, hne⟩, hname⟩, rfl⟩

theorem registered_viewWillDisappear {s : State} (h : Registered s) :
    Registered (viewWillDisappear s) := by
  constructor
  · intro o
    rw [mem_observersOf_viewWillDisappear, h.goTop]
    constructor
    · exact fun ho => ho.1
    · rintro ⟨i, hi, rfl⟩
      exact ⟨⟨i, hi, rfl⟩, by simp⟩
  · intro i
    rw [mem_observersOf_viewWillDisappear, h.leaveTop]
    exact ⟨fun ho => ho.1, fun hi => ⟨hi, by simp⟩⟩

theorem containerSettled_cases (screen : Screen) (s : State) :
    containerSettled screen s = topped screen s ∨
      ∃ y, containerSettled screen s = shaded screen (moved y s) := by
  unfold containerSettled
  split_ifs
  · exact .inl rfl
  · exact .inl rfl
  · exact .inr ⟨0, rfl⟩
  · exact .inr ⟨s.contentOffset, rfl⟩
  · exact .inl rfl

theorem registered_outcome {screen : Screen} {s : State} (h : Registered s) (e : Event) :
    Registered (outcome screen s e) := by
  cases e with
  | containerScroll y =>
    rcases containerSettled_cases screen (moved y s) with heq | ⟨z, heq⟩
    · rw [outcome, heq]; exact h.moved.topped
    · rw [outcome, heq]; exact h.moved.moved.shaded
  | pageScroll i y =>
    simp only [outcome, pageOutcome]
    split_ifs
    · exact h.congr rfl (by simp [released])
    · exact h.scrolled
    · exact h.scrolled
  | loadPage => exact registered_loadPage h
  | viewWillAppear => exact registered_viewWillAppear h
  | viewDidAppear => exact h.congr rfl rfl
  | viewWillDisappear => exact registered_viewWillDisappear h

theorem registered_step {screen : Screen} {s t : State} {e : Event} (h : Registered s)
    (hst : Step screen s e t) : Registered t := by
  rw [step_outcome h hst]
  exact registered_outcome h e

theorem registered_viewDidLoad : Registered viewDidLoad := by
  constructor
  · intro o
    simp [viewDidLoad, observersOf]
  · intro i
    simp [viewDidLoad, observersOf]

theorem trace_handle (screen : Screen) (es : List Event) :
    Trace (Step screen) viewDidLoad (run (handle screen 4) viewDidLoad es) :=
  trace_run (fun _ _ _ ht => ⟨4, ht⟩) viewDidLoad es

end MixedProject.NestedScroll
