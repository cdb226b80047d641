import Mathlib.Data.List.Basic
import Mathlib.Tactic.Abel

namespace RowLayout

variable {K : Type*}

@[ext]
structure Span (K : Type*) where
  x : K
  width : K
  deriving DecidableEq

def Span.maxX [Add K] (span : Span K) : K := span.x + span.width

def Span.shift [Add K] (distance : K) (span : Span K) : Span K :=
  { span with x := span.x + distance }

def position [Add K] (start : K) (width gap : ℕ → K) : ℕ → K
  | 0 => start
  | i + 1 => position start width gap i + (width i + gap i)

def row [Add K] (start : K) (width gap : ℕ → K) (n : ℕ) : List (Span K) :=
  (List.range n).map fun i => ⟨position start width gap i, width i⟩

section

variable [Add K] (start : K) (width gap : ℕ → K) (n : ℕ)

@[simp] theorem position_zero : position start width gap 0 = start := rfl

theorem position_succ (i : ℕ) :
    position start width gap (i + 1) = position start width gap i + (width i + gap i) := rfl

@[simp] theorem length_row : (row start width gap n).length = n := by simp [row]

theorem row_succ : row start width gap (n + 1) =
    row start width gap n ++ [⟨position start width gap n, width n⟩] := by
  simp [row, List.range_succ]

theorem getElem?_row {i : ℕ} (h : i < n) :
    (row start width gap n)[i]? = some ⟨position start width gap i, width i⟩ := by
  simp [row, h]

theorem getElem?_row_eq_some {i : ℕ} {span : Span K} :
    (row start width gap n)[i]? = some span ↔
      i < n ∧ span = ⟨position start width gap i, width i⟩ := by
  constructor
  · intro h
    have hi : i < n := by simpa using (List.getElem?_eq_some_iff.mp h).1
    rw [getElem?_row start width gap n hi] at h
    exact ⟨hi, (Option.some.inj h).symm⟩
  · rintro ⟨hi, rfl⟩
    exact getElem?_row start width gap n hi

end

section

variable [AddCommGroup K] {start : K} {width gap : ℕ → K}

theorem position_shift {shift : ℕ → K} {spread : K} (hshift : ∀ i, shift (i + 1) = shift i + spread)
    (i : ℕ) :
    position start width gap i + shift i =
      position (start + shift 0) width (fun j => gap j + spread) i := by
  induction i with
  | zero => rfl
  | succ i ih =>
    rw [position_succ, position_succ, ← ih, hshift]
    abel

theorem mapIdx_row {shift : ℕ → K} {spread : K} (hshift : ∀ i, shift (i + 1) = shift i + spread)
    (n : ℕ) :
    (row start width gap n).mapIdx (fun i span => span.shift (shift i)) =
      row (start + shift 0) width (fun j => gap j + spread) n := by
  apply List.ext_getElem?
  intro i
  rw [List.getElem?_mapIdx]
  by_cases hi : i < n
  · rw [getElem?_row _ _ _ _ hi, getElem?_row _ _ _ _ hi]
    simp [Span.shift, position_shift hshift]
  · rw [List.getElem?_eq_none (by simpa using hi), List.getElem?_eq_none (by simpa using hi)]
    rfl

end

end RowLayout
