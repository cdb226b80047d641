import Mathlib.Algebra.GroupWithZero.Nat
import Mathlib.Algebra.BigOperators.Group.List.Basic

namespace JoinedWords

variable {α : Type*}

def offset (gap : ℕ) (words : List (List α)) (i : ℕ) : ℕ :=
  ((words.take i).map fun word => word.length + gap).sum

@[simp] theorem offset_zero (gap : ℕ) (words : List (List α)) : offset gap words 0 = 0 := by
  simp [offset]

@[simp] theorem offset_cons (gap : ℕ) (word : List α) (words : List (List α)) (i : ℕ) :
    offset gap (word :: words) (i + 1) = word.length + gap + offset gap words i := by
  simp [offset]

theorem offset_separated {gap : ℕ} {words : List (List α)} {i j : ℕ} (hij : i < j)
    (hj : j < words.length) : offset gap words i + words[i].length + gap ≤ offset gap words j := by
  induction words generalizing i j with
  | nil => cases hj
  | cons word words ih =>
    obtain ⟨j, rfl⟩ : ∃ k, j = k + 1 := ⟨j - 1, by omega⟩
    cases i with
    | zero =>
      simp only [offset_zero, offset_cons, List.getElem_cons_zero]
      omega
    | succ i =>
      have hrest := ih (Nat.lt_of_succ_lt_succ hij) (Nat.lt_of_succ_lt_succ hj)
      simp only [offset_cons, List.getElem_cons_succ]
      omega

theorem intercalate_cons (sep word : List α) (words : List (List α)) :
    sep.intercalate (word :: words) = word ++ words.flatMap fun next => sep ++ next := by
  induction words generalizing word with
  | nil => simp
  | cons next words ih =>
    rw [List.intercalate_cons_cons, ih next, List.flatMap_cons]
    simp only [List.append_assoc]

theorem drop_offset (sep : List α) {words : List (List α)} {i : ℕ} (hi : i < words.length) :
    ∃ rest, (sep.intercalate words).drop (offset sep.length words i) = words[i] ++ rest := by
  induction words generalizing i with
  | nil => cases hi
  | cons word words ih =>
    cases i with
    | zero =>
      rw [offset_zero, List.drop_zero, intercalate_cons]
      exact ⟨_, rfl⟩
    | succ i =>
      have hi' : i < words.length := Nat.lt_of_succ_lt_succ hi
      have hne : words ≠ [] := List.ne_nil_of_length_pos (by omega)
      obtain ⟨rest, hrest⟩ := ih hi'
      refine ⟨rest, ?_⟩
      rw [List.intercalate_cons_of_ne_nil hne, offset_cons, List.append_assoc, Nat.add_assoc,
        ← List.drop_drop, List.drop_left, ← List.drop_drop, List.drop_left, hrest,
        List.getElem_cons_succ]

theorem take_drop_offset (sep : List α) {words : List (List α)} {i : ℕ} (hi : i < words.length) :
    ((sep.intercalate words).drop (offset sep.length words i)).take words[i].length = words[i] := by
  obtain ⟨rest, hrest⟩ := drop_offset sep hi
  rw [hrest, List.take_left]

theorem offset_inside (sep : List α) {words : List (List α)} {i : ℕ} (hi : i < words.length) :
    offset sep.length words i + words[i].length ≤ (sep.intercalate words).length := by
  induction words generalizing i with
  | nil => cases hi
  | cons word words ih =>
    cases i with
    | zero =>
      rw [offset_zero, intercalate_cons, List.getElem_cons_zero, List.length_append]
      omega
    | succ i =>
      have hi' : i < words.length := Nat.lt_of_succ_lt_succ hi
      have hne : words ≠ [] := List.ne_nil_of_length_pos (by omega)
      have hrest := ih hi'
      rw [List.intercalate_cons_of_ne_nil hne, offset_cons, List.length_append, List.length_append,
        List.getElem_cons_succ]
      omega

end JoinedWords
