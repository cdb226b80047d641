import MixedProject.NewsRows

namespace MixedProject.NewsApp

open Traces NewsViewController

variable {mj : MJExtension}

def Quiet (e : Event) : Prop := (∀ i completion, e ≠ .complete i completion) ∧ ∀ i, e ≠ .save i

def FailureHarmless (mj : MJExtension) (s : NewsApp) (e : Event) (t : NewsApp) : Prop :=
  ∀ i, e = .complete i .failure → ∀ (tr : List (Event × NewsApp)) (u : NewsApp),
    Trace (Step mj) t tr → (∀ e ∈ tr.map Prod.fst, Quiet e) → Step mj (last t tr) (.save i) u →
    (∀ (j : ℕ) (c : NewsViewController), s.store.controllers[j]? = some c →
      u.store.controllers[j]? = some c) ∧ u.store.table = s.store.table

def NothingToSave (s : NewsApp) (e : Event) : Prop :=
  ∀ (i : ℕ) (c : NewsViewController), e = .complete i .failure →
    s.store.controllers[i]? = some c → c.dataArray = [] ∨ c.dataArray = s.store.table

theorem table_kept {s t : NewsApp} {e : Event} (h : CacheUnread s) (hst : Step mj s e t)
    (he : ∀ i, e ≠ .save i) : t.store.table = s.store.table := by
  cases e with
  | viewDidLoad newsCategory =>
    rw [step_viewDidLoad hst]
    rfl
  | probe | change | deliver | refresh =>
    obtain ⟨manager, requests, rfl, -⟩ := step_pending hst rfl
    rfl
  | complete i completion =>
    obtain ⟨c, items, -, -, rfl⟩ := step_complete hst
    rfl
  | save i => exact absurd rfl (he i)
  | read i =>
    obtain ⟨-, rfl⟩ := step_read hst
    rfl
  | display =>
    obtain ⟨i, cacheData, shows, hshows, -⟩ := step_display hst
    rw [h.shows] at hshows
    cases hshows

theorem quiet_trace {s : NewsApp} {tr : List (Event × NewsApp)} (h : CacheUnread s)
    (htr : Trace (Step mj) s tr) (hquiet : ∀ e ∈ tr.map Prod.fst, Quiet e) :
    (∀ (j : ℕ) (c : NewsViewController), s.store.controllers[j]? = some c →
      (last s tr).store.controllers[j]? = some c) ∧
      (last s tr).store.table = s.store.table := by
  induction htr with
  | nil s => exact ⟨fun _ _ hc => hc, rfl⟩
  | cons hst _ ih =>
    rw [List.map_cons, List.forall_mem_cons] at hquiet
    obtain ⟨he, hrest⟩ := hquiet
    obtain ⟨hcontrollers, htable⟩ := ih (h.step hst) hrest
    constructor
    · intro j c hc
      exact hcontrollers j c (controllers_kept h hst he.1 hc)
    · exact htable.trans (table_kept h hst he.2)

theorem save_keeps_iff {c : NewsViewController} {table : List NewsModel} :
    c.save table = table ↔ c.dataArray = [] ∨ c.dataArray = table := by
  by_cases hrows : c.dataArray = []
  · simp [save_empty hrows, hrows]
  · simp [save_rows hrows, hrows]

theorem step_save_total {s : NewsApp} {i : ℕ} {c : NewsViewController} (hi : i ∈ s.saves)
    (hc : s.store.controllers[i]? = some c) : ∃ t, Step mj s (.save i) t := by
  refine ⟨{ s with store.table := c.save s.store.table, saves := s.saves.erase i }, ?_⟩
  simp [Step, handle, hi, NewsStore.saved, hc]

theorem harmless_of_nothing {s t : NewsApp} {e : Event} (h : CacheUnread s) (hst : Step mj s e t)
    (hnothing : NothingToSave s e) : FailureHarmless mj s e t := by
  rintro i rfl tr u htr hquiet hsave
  have ht := step_complete_failure hst
  obtain ⟨hcontrollers, htable⟩ := quiet_trace (h.step hst) htr hquiet
  rw [ht] at hcontrollers htable
  obtain ⟨c, -, hc, -, -⟩ := step_complete hst
  obtain ⟨d, hd, hu⟩ := step_save hsave
  have hsame : d = c := by
    rw [ht, hcontrollers i c hc] at hd
    exact (Option.some.inj hd).symm
  rw [hu, hsame]
  constructor
  · intro j c' hc'
    rw [ht]
    exact hcontrollers j c' hc'
  · have hkept : (last t tr).store.table = s.store.table := by
      rw [ht]
      exact htable
    change c.save (last t tr).store.table = s.store.table
    rw [hkept]
    exact save_keeps_iff.mpr (hnothing i c rfl hc)

theorem nothing_of_harmless {s t : NewsApp} {e : Event} (hst : Step mj s e t)
    (hharmless : FailureHarmless mj s e t) : NothingToSave s e := by
  rintro i c rfl hc
  have ht := step_complete_failure hst
  have hqueued : i ∈ t.saves := by simp [ht]
  have hct : t.store.controllers[i]? = some c := by
    rw [ht]
    exact hc
  obtain ⟨u, hsave⟩ : ∃ u, Step mj t (.save i) u := step_save_total hqueued hct
  have htable := (hharmless i rfl [] u (.nil t) (by simp) hsave).2
  obtain ⟨d, hd, hu⟩ := step_save hsave
  rw [hct] at hd
  cases hd
  rw [hu, ht] at htable
  exact save_keeps_iff.mp htable

theorem failure_harmless_iff (mj : MJExtension) (table : List NewsModel)
    {tr : List (Event × NewsApp)} (htr : Trace (Step mj) (launch table) tr) :
    Steps (FailureHarmless mj) (launch table) tr ↔
      Steps (fun s e _ => NothingToSave s e) (launch table) tr := by
  apply htr.steps_iff (I := CacheUnread) _ _ ⟨rfl, rfl⟩
  · intro s e t hs hst hnothing
    exact ⟨hs.step hst, harmless_of_nothing hs hst hnothing⟩
  · intro s e t _ hst hharmless
    exact nothing_of_harmless hst hharmless

def failedRetry : List Event :=
  [.viewDidLoad (ns "dy"), .refresh 0, .complete 0 (.success (response "dy" [article "a"])), .save 0,
    .refresh 0, .complete 0 .failure, .save 0]

theorem failedRetry_harmless :
    Steps (FailureHarmless plain) (launch []) (run (handle plain) (launch []) failedRetry) := by
  apply (failure_harmless_iff plain [] (trace_run (fun _ _ _ ht => ht) _ _)).mpr
  refine ⟨?_, ?_, ?_, ?_, ?_, ?_, ?_, trivial⟩
  · rintro i c ⟨⟩
  · rintro i c ⟨⟩
  · rintro i c ⟨⟩
  · rintro i c ⟨⟩
  · rintro i c ⟨⟩
  · rintro i c ⟨⟩ hc
    cases hc
    exact .inr rfl
  · rintro i c ⟨⟩

def staleFailure : List Event :=
  [.viewDidLoad (ns "dy"), .refresh 0, .complete 0 (.success (response "dy" [article "a"])), .save 0,
    .viewDidLoad (ns "tech"), .refresh 1, .complete 1 (.success (response "tech" [article "b"])),
    .save 1, .refresh 0, .complete 0 .failure]

theorem failure_replaces_table :
    ¬ ∀ (mj : MJExtension) (table : List NewsModel) (tr : List (Event × NewsApp)),
      Trace (Step mj) (launch table) tr → Steps (FailureHarmless mj) (launch table) tr := by
  intro h
  have htr : Trace (Step plain) (launch []) (run (handle plain) (launch []) staleFailure) :=
    trace_run (fun _ _ _ ht => ht) _ _
  obtain ⟨-, -, -, -, -, -, -, -, -, hlast, -⟩ := h plain [] _ htr
  have hkept := (hlast 0 rfl [] _ (.nil _) (by simp) rfl).2
  revert hkept
  decide +kernel

end MixedProject.NewsApp
