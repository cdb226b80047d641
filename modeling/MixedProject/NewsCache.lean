import Mathlib.Logic.Function.Basic
import MixedProject.NewsStore
import MixedProject.Traces

namespace MixedProject.NewsCache

open Traces NewsViewController

inductive Event
  | loaded (i : ℕ) (completion : Completion)
  | saved (i : ℕ)
  | restored (i : ℕ)
  deriving DecidableEq

/-- Who wrote what: the table's rows with the category that saved them, and the last list of each. -/
structure Ledger where
  lastSaver : Option NSString := none
  written : List (NSString × NewsModel) := []
  lastSaved : NSString → Option (List NewsModel) := fun _ => none

def Ledger.record (c : NewsViewController) (l : Ledger) : Ledger :=
  if c.dataArray = [] then l
  else
    { lastSaver := some c.newsCategory
      written := c.dataArray.map fun row => (c.newsCategory, row)
      lastSaved := Function.update l.lastSaved c.newsCategory (some c.dataArray) }

structure State where
  store : NewsStore
  ledger : Ledger := {}

variable {mj : MJExtension}

def handle (mj : MJExtension) (s : State) : Event → Option State
  | .loaded i completion => do
    let store ← s.store.loaded mj i completion
    return { s with store }
  | .saved i => do
    let c ← s.store.controllers[i]?
    let store ← s.store.saved i
    return { store, ledger := s.ledger.record c }
  | .restored i => do
    let store ← s.store.shown i s.store.getAllObjectsOfClass
    return { s with store }

def Step (mj : MJExtension) (s : State) (e : Event) (t : State) : Prop := handle mj s e = some t

theorem step_loaded {s t : State} {i : ℕ} {completion : Completion}
    (hst : Step mj s (.loaded i completion) t) :
    ∃ store, s.store.loaded mj i completion = some store ∧ t = { s with store } := by
  obtain ⟨store, hstore, ht⟩ := Option.bind_eq_some_iff.mp hst
  exact ⟨store, hstore, (Option.some.inj ht).symm⟩

theorem step_saved {s t : State} {i : ℕ} (hst : Step mj s (.saved i) t) :
    ∃ c, s.store.controllers[i]? = some c ∧
      t = ⟨{ s.store with table := c.save s.store.table }, s.ledger.record c⟩ := by
  obtain ⟨c, hc, hst⟩ := Option.bind_eq_some_iff.mp hst
  obtain ⟨store, hstore, ht⟩ := Option.bind_eq_some_iff.mp hst
  obtain ⟨c', hc', rfl⟩ := NewsStore.saved_some hstore
  rw [hc] at hc'
  cases hc'
  exact ⟨c, hc, (Option.some.inj ht).symm⟩

theorem step_restored {s t : State} {i : ℕ} (hst : Step mj s (.restored i) t) :
    ∃ c, s.store.controllers[i]? = some c ∧ t = ⟨{ s.store with
      controllers := s.store.controllers.set i (showCacheData s.store.table c) }, s.ledger⟩ := by
  obtain ⟨store, hstore, ht⟩ := Option.bind_eq_some_iff.mp hst
  obtain ⟨c, hc, rfl⟩ := NewsStore.shown_some hstore
  exact ⟨c, hc, (Option.some.inj ht).symm⟩

def install (categories : List NSString) : State where
  store := { controllers := categories.map fun newsCategory => { newsCategory }, table := [] }

def Isolated (s : State) (e : Event) (t : State) : Prop :=
  ∀ i c d, e = .restored i → s.store.controllers[i]? = some c → t.store.controllers[i]? = some d →
    (∀ rows, s.ledger.lastSaved c.newsCategory = some rows → d.dataArray = rows) ∧
    ∀ row ∈ d.dataArray, ∀ saver, (saver, row) ∈ s.ledger.written → saver = c.newsCategory

def SavedLast (s : State) (e : Event) : Prop :=
  ∀ i c, e = .restored i → s.store.controllers[i]? = some c →
    ∀ saver, s.ledger.lastSaver = some saver → saver = c.newsCategory

structure Audited (s : State) : Prop where
  table : s.store.table = s.ledger.written.map Prod.snd
  unsaved : s.ledger.lastSaver = none → s.ledger.written = [] ∧ ∀ k, s.ledger.lastSaved k = none
  saved : ∀ saver, s.ledger.lastSaver = some saver → ∃ rows, rows ≠ [] ∧
    s.ledger.written = rows.map (fun row => (saver, row)) ∧ s.ledger.lastSaved saver = some rows

theorem Audited.congr {s t : State} (h : Audited s) (htable : t.store.table = s.store.table)
    (hledger : t.ledger = s.ledger) : Audited t := by
  constructor
  · rw [htable, hledger]
    exact h.table
  · rw [hledger]
    exact h.unsaved
  · rw [hledger]
    exact h.saved

theorem Audited.step {s t : State} {e : Event} (h : Audited s) (hst : Step mj s e t) : Audited t := by
  cases e with
  | loaded i completion =>
    obtain ⟨store, hload, rfl⟩ := step_loaded hst
    obtain ⟨c, items, -, -, rfl⟩ := NewsStore.loaded_some hload
    exact h.congr rfl rfl
  | saved i =>
    obtain ⟨c, -, rfl⟩ := step_saved hst
    by_cases hrows : c.dataArray = []
    · apply h.congr
      · exact save_empty hrows s.store.table
      · exact if_pos hrows
    · have hledger : s.ledger.record c = ⟨some c.newsCategory,
          c.dataArray.map fun row => (c.newsCategory, row),
          Function.update s.ledger.lastSaved c.newsCategory (some c.dataArray)⟩ := if_neg hrows
      rw [hledger, save_rows hrows]
      constructor
      · simp
      · intro hnone
        cases hnone
      · intro saver hsaver
        cases hsaver
        exact ⟨c.dataArray, hrows, rfl, Function.update_self ..⟩
  | restored i =>
    obtain ⟨c, -, rfl⟩ := step_restored hst
    exact h.congr rfl rfl

theorem audited_install (categories : List NSString) : Audited (install categories) := by
  refine ⟨rfl, fun _ => ⟨rfl, fun _ => rfl⟩, ?_⟩
  intro saver hsaver
  cases hsaver

theorem restored_shows {s t : State} {i : ℕ} {c d : NewsViewController}
    (hst : Step mj s (.restored i) t) (hc : s.store.controllers[i]? = some c)
    (hd : t.store.controllers[i]? = some d) : d = showCacheData s.store.table c := by
  obtain ⟨c', hc', rfl⟩ := step_restored hst
  rw [hc] at hc'
  cases hc'
  have hi := (List.getElem?_eq_some_iff.mp hc).1
  rw [List.getElem?_set_self hi] at hd
  exact (Option.some.inj hd).symm

theorem isolated_of_savedLast {s t : State} {e : Event} (h : Audited s) (hst : Step mj s e t)
    (hlast : SavedLast s e) : Isolated s e t := by
  rintro i c d rfl hc hd
  have hshown := restored_shows hst hc hd
  cases hsaver : s.ledger.lastSaver with
  | none =>
    obtain ⟨hwritten, hsaved⟩ := h.unsaved hsaver
    constructor
    · intro rows hrows
      rw [hsaved] at hrows
      cases hrows
    · intro row _ saver hrow
      rw [hwritten] at hrow
      cases hrow
  | some saver =>
    have hown := hlast i c rfl hc saver hsaver
    subst hown
    obtain ⟨rows, hne, hwritten, hsaved⟩ := h.saved _ hsaver
    have htable : s.store.table = rows := by rw [h.table, hwritten]; simp
    constructor
    · intro rows' hrows'
      rw [hsaved] at hrows'
      cases hrows'
      rw [hshown, htable, showCacheData, if_neg (by simpa using hne)]
    · intro row _ saver hrow
      rw [hwritten] at hrow
      obtain ⟨r, -, heq⟩ := List.mem_map.mp hrow
      exact (Prod.mk.inj heq).1.symm

theorem savedLast_of_isolated {s t : State} {e : Event} (h : Audited s) (hst : Step mj s e t)
    (hiso : Isolated s e t) : SavedLast s e := by
  rintro i c rfl hc saver hsaver
  obtain ⟨rows, hne, hwritten, -⟩ := h.saved saver hsaver
  obtain ⟨row, hrow⟩ := List.exists_mem_of_ne_nil rows hne
  obtain ⟨d, hd⟩ : ∃ d, t.store.controllers[i]? = some d := by
    obtain ⟨c', -, rfl⟩ := step_restored hst
    have hi := (List.getElem?_eq_some_iff.mp hc).1
    exact ⟨_, List.getElem?_set_self hi⟩
  have htable : s.store.table = rows := by rw [h.table, hwritten]; simp
  have hdisplayed : d.dataArray = rows := by
    rw [restored_shows hst hc hd, htable, showCacheData, if_neg (by simpa using hne)]
  apply (hiso i c d rfl hc hd).2 row (hdisplayed ▸ hrow) saver
  rw [hwritten]
  exact List.mem_map.mpr ⟨row, hrow, rfl⟩

theorem cache_isolated_iff (mj : MJExtension) (categories : List NSString)
    {tr : List (Event × State)} (htr : Trace (Step mj) (install categories) tr) :
    Steps Isolated (install categories) tr ↔
      Steps (fun s e _ => SavedLast s e) (install categories) tr := by
  apply htr.steps_iff (I := Audited) _ _ (audited_install categories)
  · intro s e t hs hst hlast
    exact ⟨hs.step hst, isolated_of_savedLast hs hst hlast⟩
  · intro s e t hs hst hiso
    exact savedLast_of_isolated hs hst hiso

def twoCategories : State := install [ns "dy", ns "tech"]

def loadAndSave (i : ℕ) (newsCategory : String) : List Event :=
  [.loaded i (.success (response newsCategory [article newsCategory])), .saved i]

def ownSave : List (Event × State) :=
  run (handle plain) twoCategories (loadAndSave 0 "dy" ++ [.restored 0])

theorem own_save_restored : Steps Isolated twoCategories ownSave := by
  apply (cache_isolated_iff plain [ns "dy", ns "tech"] (trace_run (fun _ _ _ ht => ht) _ _)).mpr
  refine ⟨?_, ?_, ?_, trivial⟩
  · intro i c he
    cases he
  · intro i c he
    cases he
  · intro i c he hc saver hsaver
    cases he
    cases hc
    cases hsaver
    rfl

theorem other_category_leaks :
    ¬ ∀ (mj : MJExtension) (categories : List NSString) (tr : List (Event × State)),
      Trace (Step mj) (install categories) tr → Steps Isolated (install categories) tr := by
  intro h
  have htr : Trace (Step plain) twoCategories (run (handle plain) twoCategories
      (loadAndSave 0 "dy" ++ loadAndSave 1 "tech" ++ [.restored 0])) :=
    trace_run (fun _ _ _ ht => ht) _ _
  have hsteps := h plain [ns "dy", ns "tech"] _ htr
  obtain ⟨-, -, -, -, hlast, -⟩ := hsteps
  have hdisplayed := (hlast 0 _ _ rfl rfl rfl).1 _ rfl
  revert hdisplayed
  decide +kernel

end MixedProject.NewsCache
