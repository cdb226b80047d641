import MixedProject.RaisingLoops
import MixedProject.NewsModels

namespace MixedProject.ServerAnswer

def member (key : NSString) : Option Value → Option Value
  | some (.dictionary entries) => entries.lookup key
  | _ => none

def elements : Option Value → List Value
  | some (.array xs) => xs
  | _ => []

def object : Value → Option NSDictionary
  | .dictionary entries => some entries
  | _ => none

def NilOrObject (value : Option Value) : Prop := value = none ∨ ∃ entries, value = some (.dictionary entries)

theorem subscript_ok {key : NSString} {value field : Option Value} :
    objectForKeyedSubscript key value = .ok field ↔ NilOrObject value ∧ field = member key value := by
  unfold NilOrObject
  cases value with
  | none => simp [objectForKeyedSubscript, member, eq_comm]
  | some value => cases value <;> simp [objectForKeyedSubscript, member, eq_comm]

theorem nilOrObject_some {value : Value} :
    NilOrObject (some value) ↔ ∃ entries, value = .dictionary entries := by
  simp [NilOrObject]

theorem nilOrObject_of_member {key : NSString} {value : Option Value} {field : Value}
    (h : member key value = some field) : NilOrObject value := by
  unfold NilOrObject
  cases value with
  | none => exact Or.inl rfl
  | some value =>
    cases value with
    | dictionary entries => exact Or.inr ⟨entries, rfl⟩
    | null => cases h
    | number n => cases h
    | string s => cases h
    | array xs => cases h

theorem object_some {value : Value} {entries : NSDictionary} :
    object value = some entries ↔ value = .dictionary entries := by
  cases value <;> simp [object]

def fields : Option Value → NSDictionary
  | some (.dictionary entries) => entries
  | _ => []

theorem lookup_fields (key : NSString) (value : Option Value) :
    (fields value).lookup key = member key value := by
  cases value with
  | none => rfl
  | some value => cases value <;> rfl

theorem dictionaryWithDictionary_ok {value : Option Value} {entries : NSDictionary} :
    dictionaryWithDictionary value = .ok entries ↔ NilOrObject value ∧ entries = fields value := by
  unfold NilOrObject
  cases value with
  | none => simp [dictionaryWithDictionary, fields, eq_comm]
  | some value => cases value <;> simp [dictionaryWithDictionary, fields, eq_comm]

def Lists (P : Value → Prop) (value : Option Value) : Prop :=
  value = none ∨ value = some (.dictionary []) ∨ ∃ xs, value = some (.array xs) ∧ ∀ x ∈ xs, P x

theorem enumeration_lists {P : Value → Prop} (hstring : ∀ s, ¬ P (.string s)) {value : Option Value} :
    (∃ xs, fastEnumeration value = .ok xs ∧ ∀ x ∈ xs, P x) ↔ Lists P value := by
  unfold Lists
  cases value with
  | none => simp [fastEnumeration]
  | some value =>
    cases value with
    | null => simp [fastEnumeration]
    | number n => simp [fastEnumeration]
    | string s => simp [fastEnumeration]
    | array xs => simp [fastEnumeration]
    | dictionary entries =>
      cases entries with
      | nil => simp [fastEnumeration]
      | cons entry entries => simp [fastEnumeration, hstring]

theorem enumeration_elements {α : Type} {g : Value → Option α} (hstring : ∀ s, g (.string s) = none)
    {value : Option Value} {xs : List Value} (h : fastEnumeration value = .ok xs) :
    (elements value).filterMap g = xs.filterMap g := by
  cases value with
  | none =>
    cases h
    rfl
  | some value =>
    cases value with
    | array ys =>
      cases h
      rfl
    | dictionary entries =>
      cases h
      have hnone : (entries.map fun entry => Value.string entry.1).filterMap g = [] := by
        simp [List.filterMap_map, hstring]
      rw [hnone]
      rfl
    | null => cases h
    | number n => cases h
    | string s => cases h

theorem enumeration_appends_iff {α : Type} {f : Value → Except NSException (Option α)}
    {g : Value → Option α} {P : Value → Prop} (hread : ∀ x, f x = .ok (g x) ↔ P x)
    (hskip : ∀ x, f x = .ok none → g x = none)
    (hsame : ∀ x y z, f x = .ok (some y) → g x = some z → y = z)
    (hstring : ∀ s, g (.string s) = none ∧ ¬ P (.string s)) (value : Option Value) (acc : List α) :
    (∃ xs, fastEnumeration value = .ok xs ∧
      xs.foldlM (AppendLoop.step f) acc = .ok (acc ++ (elements value).filterMap g)) ↔
      Lists P value := by
  rw [← enumeration_lists fun s => (hstring s).2]
  apply exists_congr
  intro xs
  apply and_congr_right
  intro hxs
  rw [enumeration_elements (fun s => (hstring s).1) hxs, AppendLoop.loop_iff hskip hsame]
  apply forall₂_congr
  intro x _
  exact hread x

end MixedProject.ServerAnswer
