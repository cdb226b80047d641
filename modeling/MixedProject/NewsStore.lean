import MixedProject.NewsModels

namespace MixedProject

structure NewsStore where
  controllers : List NewsViewController
  table : List NewsModel
  deriving DecidableEq

namespace NewsStore

open NewsViewController

variable {mj : MJExtension} {s t : NewsStore} {i : ℕ}

def loaded (mj : MJExtension) (i : ℕ) (completion : Completion) (s : NewsStore) : Option NewsStore := do
  let c ← s.controllers[i]?
  let d ← (loadDataCompleted mj completion c).toOption
  return { s with controllers := s.controllers.set i d }

def saved (i : ℕ) (s : NewsStore) : Option NewsStore := do
  let c ← s.controllers[i]?
  return { s with table := c.save s.table }

def getAllObjectsOfClass (s : NewsStore) : List NewsModel := s.table

def shown (i : ℕ) (cacheData : List NewsModel) (s : NewsStore) : Option NewsStore := do
  let c ← s.controllers[i]?
  return { s with controllers := s.controllers.set i (showCacheData cacheData c) }

theorem loaded_some {completion : Completion} (h : loaded mj i completion s = some t) :
    ∃ c items, s.controllers[i]? = some c ∧
      newsItems mj c.newsCategory (HttpTool.responseObject completion) = .ok items ∧
      t = { s with controllers := s.controllers.set i { c with dataArray := c.dataArray ++ items } } := by
  obtain ⟨c, hc, h⟩ := Option.bind_eq_some_iff.mp h
  obtain ⟨d, hd, h⟩ := Option.bind_eq_some_iff.mp h
  cases hload : loadDataCompleted mj completion c with
  | error e =>
    rw [hload] at hd
    cases hd
  | ok d' =>
    rw [hload] at hd
    cases hd
    cases h
    obtain ⟨items, hitems, rfl⟩ := loadDataSuccess_ok.mp hload
    exact ⟨c, items, hc, hitems, rfl⟩

theorem saved_some (h : saved i s = some t) :
    ∃ c, s.controllers[i]? = some c ∧ t = { s with table := c.save s.table } := by
  obtain ⟨c, hc, h⟩ := Option.bind_eq_some_iff.mp h
  cases h
  exact ⟨c, hc, rfl⟩

theorem shown_some {cacheData : List NewsModel} (h : shown i cacheData s = some t) :
    ∃ c, s.controllers[i]? = some c ∧
      t = { s with controllers := s.controllers.set i (showCacheData cacheData c) } := by
  obtain ⟨c, hc, h⟩ := Option.bind_eq_some_iff.mp h
  cases h
  exact ⟨c, hc, rfl⟩

end NewsStore

namespace NewsViewController

theorem save_empty {c : NewsViewController} (h : c.dataArray = []) (table : List NewsModel) :
    c.save table = table := by
  simp [save, h]

theorem save_rows {c : NewsViewController} (h : c.dataArray ≠ []) (table : List NewsModel) :
    c.save table = c.dataArray := by
  simp [save, h, insertOrReplaceObjects, deleteAllObjectsFromTable]

end NewsViewController

end MixedProject
