import MixedProject.NewsStore
import MixedProject.Traces

namespace MixedProject.NewsAtomicity

open Traces NewsViewController

inductive Stage
  | counting
  | deleting
  | inserting
  deriving DecidableEq

structure State where
  store : NewsStore
  blocks : List (ℕ × Stage) := []
  /-- The lists inserted since the table was last emptied. -/
  writes : List (List NewsModel) := []
  completed : Bool := false
  deriving DecidableEq

inductive Event
  | loaded (i : ℕ) (completion : Completion)
  | count (k : ℕ)
  | delete (k : ℕ) (result : Bool)
  | insert (k : ℕ) (result : Bool)
  | kill
  deriving DecidableEq

variable {mj : MJExtension}

def block (s : State) (k : ℕ) (stage : Stage) : Option (ℕ × NewsViewController) := do
  let (i, reached) ← s.blocks[k]?
  let c ← s.store.controllers[i]?
  if reached = stage then some (i, c) else none

def handle (mj : MJExtension) (s : State) : Event → Option State
  | .loaded i completion => do
    let store ← s.store.loaded mj i completion
    return { s with store, blocks := s.blocks ++ [(i, .counting)] }
  | .count k => do
    let (i, c) ← block s k .counting
    if c.dataArray.length ≠ 0 then return { s with blocks := s.blocks.set k (i, .deleting) }
    else return { s with blocks := s.blocks.eraseIdx k }
  | .delete k result => do
    let (i, _) ← block s k .deleting
    return { s with
      store.table := deleteAllObjectsFromTable result s.store.table
      blocks := s.blocks.set k (i, .inserting)
      writes := if result then [] else s.writes }
  | .insert k result => do
    let (_, c) ← block s k .inserting
    return { s with
      store.table := insertOrReplaceObjects result c.dataArray s.store.table
      blocks := s.blocks.eraseIdx k
      writes := if result then s.writes ++ [c.dataArray] else s.writes
      completed := s.completed || result }
  | .kill => some { s with
      store.controllers := s.store.controllers.map fun c => { c with dataArray := [] }
      blocks := [] }

def Step (mj : MJExtension) (s : State) (e : Event) (t : State) : Prop := handle mj s e = some t

def install (categories : List NSString) : State where
  store := { controllers := categories.map fun newsCategory => { newsCategory }, table := [] }

def Atomic (s : State) : Prop :=
  s.completed = true → ∃ rows, rows ≠ [] ∧ s.writes = [rows] ∧ s.store.table = rows

def Undisturbed (s : State) : Event → Prop
  | .delete _ true => s.completed = false
  | .insert _ true => s.completed = false
  | _ => True

theorem block_some {s : State} {k i : ℕ} {stage : Stage} {c : NewsViewController}
    (h : block s k stage = some (i, c)) :
    s.blocks[k]? = some (i, stage) ∧ s.store.controllers[i]? = some c := by
  obtain ⟨⟨j, reached⟩, hk, h⟩ := Option.bind_eq_some_iff.mp h
  obtain ⟨d, hd, h⟩ := Option.bind_eq_some_iff.mp h
  split_ifs at h with hstage
  cases h
  cases hstage
  exact ⟨hk, hd⟩

theorem step_loaded {s t : State} {i : ℕ} {completion : Completion}
    (hst : Step mj s (.loaded i completion) t) :
    ∃ store, s.store.loaded mj i completion = some store ∧
      t = { s with store, blocks := s.blocks ++ [(i, .counting)] } := by
  obtain ⟨store, hstore, ht⟩ := Option.bind_eq_some_iff.mp hst
  exact ⟨store, hstore, (Option.some.inj ht).symm⟩

theorem step_count {s t : State} {k : ℕ} (hst : Step mj s (.count k) t) :
    ∃ i c, block s k .counting = some (i, c) ∧
      (c.dataArray ≠ [] ∧ t = { s with blocks := s.blocks.set k (i, .deleting) } ∨
        c.dataArray = [] ∧ t = { s with blocks := s.blocks.eraseIdx k }) := by
  obtain ⟨⟨i, c⟩, hblock, ht⟩ := Option.bind_eq_some_iff.mp hst
  refine ⟨i, c, hblock, ?_⟩
  simp only at ht
  split_ifs at ht with hrows
  · exact .inl ⟨by simpa using hrows, (Option.some.inj ht).symm⟩
  · exact .inr ⟨by simpa using hrows, (Option.some.inj ht).symm⟩

theorem step_delete {s t : State} {k : ℕ} {result : Bool} (hst : Step mj s (.delete k result) t) :
    ∃ i c, block s k .deleting = some (i, c) ∧
      t = { s with
        store.table := deleteAllObjectsFromTable result s.store.table
        blocks := s.blocks.set k (i, .inserting)
        writes := if result then [] else s.writes } := by
  obtain ⟨⟨i, c⟩, hblock, ht⟩ := Option.bind_eq_some_iff.mp hst
  exact ⟨i, c, hblock, (Option.some.inj ht).symm⟩

theorem step_insert {s t : State} {k : ℕ} {result : Bool} (hst : Step mj s (.insert k result) t) :
    ∃ i c, block s k .inserting = some (i, c) ∧
      t = { s with
        store.table := insertOrReplaceObjects result c.dataArray s.store.table
        blocks := s.blocks.eraseIdx k
        writes := if result then s.writes ++ [c.dataArray] else s.writes
        completed := s.completed || result } := by
  obtain ⟨⟨i, c⟩, hblock, ht⟩ := Option.bind_eq_some_iff.mp hst
  exact ⟨i, c, hblock, (Option.some.inj ht).symm⟩

theorem block_eq {s : State} {k i : ℕ} {stage : Stage} {c : NewsViewController}
    (hk : s.blocks[k]? = some (i, stage)) (hc : s.store.controllers[i]? = some c) :
    block s k stage = some (i, c) := by
  simp [block, hk, hc]

theorem block_alone {s : State} {k i : ℕ} {c : NewsViewController}
    (hk : s.blocks[k]? = some (i, .counting)) (hc : s.store.controllers[i]? = some c)
    (hrows : c.dataArray ≠ []) :
    ∃ s₁ s₂ s₃, Step mj s (.count k) s₁ ∧ Step mj s₁ (.delete k true) s₂ ∧
      Step mj s₂ (.insert k true) s₃ ∧ s.store.saved i = some s₃.store := by
  have hlt : k < s.blocks.length := (List.getElem?_eq_some_iff.mp hk).1
  let s₁ : State := { s with blocks := s.blocks.set k (i, .deleting) }
  let s₂ : State := { s with
    store.table := [], blocks := s₁.blocks.set k (i, .inserting), writes := [] }
  let s₃ : State := { s₂ with
    store.table := c.dataArray, blocks := s₂.blocks.eraseIdx k
    writes := [c.dataArray], completed := true }
  have hdeleting : s₁.blocks[k]? = some (i, .deleting) := List.getElem?_set_self hlt
  have hinserting : s₂.blocks[k]? = some (i, .inserting) :=
    List.getElem?_set_self (by rw [List.length_set]; exact hlt)
  have hcount : Step mj s (.count k) s₁ := by
    simp [Step, handle, block_eq hk hc, hrows, s₁]
  have hdelete : Step mj s₁ (.delete k true) s₂ := by
    rw [Step, handle, block_eq hdeleting hc]
    rfl
  have hinsert : Step mj s₂ (.insert k true) s₃ := by
    rw [Step, handle, block_eq hinserting hc]
    simp [insertOrReplaceObjects, s₂, s₃]
  refine ⟨s₁, s₂, s₃, hcount, hdelete, hinsert, ?_⟩
  simp [NewsStore.saved, hc, save_rows hrows, s₂, s₃]

structure Counted (s : State) : Prop where
  table : s.store.table = s.writes.flatten
  unsaved : s.completed = false → s.writes = []
  rows : ∀ i stage, (i, stage) ∈ s.blocks → stage ≠ .counting →
    ∃ c, s.store.controllers[i]? = some c ∧ c.dataArray ≠ []

theorem rows_set {s : State} (h : Counted s) {k i : ℕ} {next : Stage} {c : NewsViewController}
    (hc : s.store.controllers[i]? = some c) (hrows : c.dataArray ≠ []) :
    ∀ j stage, (j, stage) ∈ s.blocks.set k (i, next) → stage ≠ .counting →
      ∃ c, s.store.controllers[j]? = some c ∧ c.dataArray ≠ [] := by
  intro j stage hj hstage
  rcases List.mem_or_eq_of_mem_set hj with hold | hnew
  · exact h.rows j stage hold hstage
  · cases hnew
    exact ⟨c, hc, hrows⟩

theorem rows_loaded {s : State} (h : Counted s) {i : ℕ} {c : NewsViewController}
    (hc : s.store.controllers[i]? = some c) (items : List NewsModel) :
    ∀ j stage, (j, stage) ∈ s.blocks ++ [(i, .counting)] → stage ≠ .counting →
      ∃ d, (s.store.controllers.set i { c with dataArray := c.dataArray ++ items })[j]? = some d ∧
        d.dataArray ≠ [] := by
  intro j stage hj hstage
  have hold : (j, stage) ∈ s.blocks := by
    obtain hold | hnew := List.mem_append.mp hj
    · exact hold
    · simp only [List.mem_singleton, Prod.mk.injEq] at hnew
      exact absurd hnew.2 hstage
  obtain ⟨d, hd, hrows⟩ := h.rows j stage hold hstage
  by_cases hij : i = j
  · subst hij
    rw [hc] at hd
    cases hd
    exact ⟨_, List.getElem?_set_self (List.getElem?_eq_some_iff.mp hc).1, by simp [hrows]⟩
  · refine ⟨d, ?_, hrows⟩
    rw [List.getElem?_set_ne hij]
    exact hd

theorem counted_step {s t : State} {e : Event} (h : Counted s) (hst : Step mj s e t) : Counted t := by
  cases e with
  | loaded i completion =>
    obtain ⟨store, hload, rfl⟩ := step_loaded hst
    obtain ⟨c, items, hc, -, rfl⟩ := NewsStore.loaded_some hload
    exact ⟨h.table, h.unsaved, rows_loaded h hc items⟩
  | count k =>
    obtain ⟨i, c, hblock, ⟨hrows, rfl⟩ | ⟨-, rfl⟩⟩ := step_count hst
    · exact ⟨h.table, h.unsaved, rows_set h (block_some hblock).2 hrows⟩
    · exact ⟨h.table, h.unsaved, fun j stage hj => h.rows j stage (List.mem_of_mem_eraseIdx hj)⟩
  | delete k result =>
    obtain ⟨i, c, hblock, rfl⟩ := step_delete hst
    obtain ⟨hk, hc⟩ := block_some hblock
    obtain ⟨d, hd, hrows⟩ := h.rows i .deleting (List.mem_of_getElem? hk) (by simp)
    refine ⟨?_, ?_, rows_set h hd hrows⟩
    · cases result
      · exact h.table
      · rfl
    · intro hnone
      cases result
      · exact h.unsaved hnone
      · rfl
  | insert k result =>
    obtain ⟨i, c, -, rfl⟩ := step_insert hst
    refine ⟨?_, ?_, fun j stage hj => h.rows j stage (List.mem_of_mem_eraseIdx hj)⟩
    · cases result
      · exact h.table
      · simp [insertOrReplaceObjects, h.table]
    · intro hnone
      cases result
      · exact h.unsaved (by simpa using hnone)
      · simp at hnone
  | kill =>
    cases hst
    refine ⟨h.table, h.unsaved, ?_⟩
    intro j stage hj
    cases hj

theorem atomic_step {s t : State} {e : Event} (h : Counted s) (hatomic : Atomic s)
    (hst : Step mj s e t) (hg : Undisturbed s e) : Atomic t := by
  cases e with
  | loaded i completion =>
    obtain ⟨store, hload, rfl⟩ := step_loaded hst
    obtain ⟨c, items, -, -, rfl⟩ := NewsStore.loaded_some hload
    exact hatomic
  | count k =>
    obtain ⟨i, c, -, ⟨-, rfl⟩ | ⟨-, rfl⟩⟩ := step_count hst
    · exact hatomic
    · exact hatomic
  | delete k result =>
    obtain ⟨i, c, -, rfl⟩ := step_delete hst
    cases result with
    | false => exact hatomic
    | true =>
      intro hdone
      have hnone : s.completed = false := hg
      rw [hnone] at hdone
      cases hdone
  | insert k result =>
    obtain ⟨i, c, hblock, rfl⟩ := step_insert hst
    cases result with
    | false =>
      intro hdone
      exact hatomic (by simpa using hdone)
    | true =>
      intro _
      have hnone : s.completed = false := hg
      have hempty : s.store.table = [] := by rw [h.table, h.unsaved hnone, List.flatten_nil]
      obtain ⟨hk, hc⟩ := block_some hblock
      obtain ⟨d, hd, hrows⟩ := h.rows i .inserting (List.mem_of_getElem? hk) (by simp)
      rw [hc] at hd
      cases hd
      refine ⟨c.dataArray, hrows, ?_, ?_⟩
      · simp [h.unsaved hnone]
      · simp [insertOrReplaceObjects, hempty]
  | kill =>
    cases hst
    exact hatomic

theorem undisturbed_of_atomic {s t : State} {e : Event} (hatomic : Atomic s) (hst : Step mj s e t)
    (hafter : Atomic t) : Undisturbed s e := by
  cases e with
  | delete k result =>
    cases result with
    | false => trivial
    | true =>
      obtain ⟨i, c, -, rfl⟩ := step_delete hst
      by_contra hdone
      have hcompleted : s.completed = true := by simpa [Undisturbed] using hdone
      obtain ⟨rows, -, hwrites, -⟩ := hafter hcompleted
      cases hwrites
  | insert k result =>
    cases result with
    | false => trivial
    | true =>
      obtain ⟨i, c, -, rfl⟩ := step_insert hst
      by_contra hdone
      have hcompleted : s.completed = true := by simpa [Undisturbed] using hdone
      obtain ⟨rows, -, hwrites, -⟩ := hatomic hcompleted
      obtain ⟨rows', -, hwrites', -⟩ := hafter (by simp)
      simp [hwrites] at hwrites'
  | loaded i completion => trivial
  | count k => trivial
  | kill => trivial

theorem replacement_atomic_iff (mj : MJExtension) (categories : List NSString)
    {tr : List (Event × State)} (htr : Trace (Step mj) (install categories) tr) :
    Always Atomic (install categories) tr ↔
      Steps (fun s e _ => Undisturbed s e) (install categories) tr := by
  have hstart : Counted (install categories) ∧ Atomic (install categories) := by
    refine ⟨⟨rfl, fun _ => rfl, ?_⟩, ?_⟩
    · intro i stage hi
      cases hi
    · intro hdone
      cases hdone
  apply htr.always_iff (I := fun s => Counted s ∧ Atomic s) _ _ _ hstart
  · intro s hs
    exact hs.2
  · intro s e t hs hst hg
    exact ⟨counted_step hs.1 hst, atomic_step hs.1 hs.2 hst hg⟩
  · intro s e t hs hst hafter
    exact undisturbed_of_atomic hs.2 hst hafter

def singleCategory : State := install [ns "dy"]

def loadOnce : Event := .loaded 0 (.success (response "dy" [article "a"]))

theorem single_save_atomic :
    Always Atomic singleCategory (run (handle plain) singleCategory
      [loadOnce, .count 0, .delete 0 true, .insert 0 true, .kill]) := by
  apply (replacement_atomic_iff plain [ns "dy"] (trace_run (fun _ _ _ ht => ht) _ _)).mpr
  exact ⟨trivial, trivial, rfl, rfl, trivial, trivial⟩

def killedSave : List Event :=
  [loadOnce, .count 0, .delete 0 true, .insert 0 true, loadOnce, .count 0, .delete 0 true, .kill]

theorem kill_empties_the_cache :
    ¬ ∀ (mj : MJExtension) (categories : List NSString) (tr : List (Event × State)),
      Trace (Step mj) (install categories) tr → Always Atomic (install categories) tr := by
  intro h
  have htr : Trace (Step plain) singleCategory (run (handle plain) singleCategory killedSave) :=
    trace_run (fun _ _ _ ht => ht) _ _
  have hlast : Atomic (last singleCategory (run (handle plain) singleCategory killedSave)) :=
    (h plain [ns "dy"] _ htr).last
  obtain ⟨rows, -, hwrites, -⟩ := hlast (by decide +kernel)
  have hempty : (last singleCategory (run (handle plain) singleCategory killedSave)).writes = [] := by
    decide +kernel
  rw [hempty] at hwrites
  cases hwrites

end MixedProject.NewsAtomicity
