import Mathlib.Data.Int.Log
import Mathlib.Data.Rat.Floor
import Mathlib.Algebra.Order.Field.Power
import Mathlib.Tactic.Linarith
import Mathlib.Tactic.NormNum
import Mathlib.Tactic.Ring
import Mathlib.Tactic.FieldSimp

namespace BinaryRounding

def roundHalfEven (x : ℚ) : ℤ :=
  if Int.fract x < 1 / 2 then ⌊x⌋
  else if 1 / 2 < Int.fract x then ⌊x⌋ + 1
  else if ⌊x⌋ % 2 = 0 then ⌊x⌋ else ⌊x⌋ + 1

theorem roundHalfEven_intCast (z : ℤ) : roundHalfEven (z : ℚ) = z := by
  simp [roundHalfEven]

def lastBit (p : ℕ) (x : ℚ) : ℤ := Int.log 2 |x| + 1 - p

/-- Round to nearest with `p` significant bits, ties to even; the exponent is unbounded. -/
def roundBits (p : ℕ) (x : ℚ) : ℚ := roundHalfEven (x / 2 ^ lastBit p x) * 2 ^ lastBit p x

theorem roundBits_multiple (p : ℕ) (x : ℚ) (z : ℤ) (h : x = z * 2 ^ lastBit p x) :
    roundBits p x = x := by
  have hpos : (2 : ℚ) ^ lastBit p x ≠ 0 := (zpow_pos (by norm_num) _).ne'
  have hq : x / 2 ^ lastBit p x = z := by rw [div_eq_iff hpos]; exact h
  rw [roundBits, hq, roundHalfEven_intCast, ← h]

theorem log_lt_of_abs_lt (p : ℕ) (x : ℚ) (hx : x ≠ 0) (h : |x| < 2 ^ p) : Int.log 2 |x| < p := by
  have hlog : Int.log 2 |x| < (p : ℤ) ↔ |x| < ((2 : ℕ) : ℚ) ^ (p : ℤ) :=
    (Int.lt_zpow_iff_log_lt (by norm_num) (abs_pos.mpr hx)).symm
  rw [hlog]
  exact_mod_cast h

theorem roundBits_intCast (p : ℕ) (z : ℤ) (h : |z| < 2 ^ p) : roundBits p (z : ℚ) = z := by
  rcases eq_or_ne z 0 with rfl | hz
  · simp [roundBits, roundHalfEven]
  · have hz' : (z : ℚ) ≠ 0 := by exact_mod_cast hz
    have hlog := log_lt_of_abs_lt p z hz' (by exact_mod_cast h)
    obtain ⟨k, hk⟩ : ∃ k : ℕ, lastBit p z = -(k : ℤ) := by
      refine ⟨(-lastBit p z).toNat, ?_⟩
      simp only [lastBit] at *
      omega
    apply roundBits_multiple p z (z * 2 ^ k)
    rw [hk, zpow_neg, zpow_natCast]
    push_cast
    field_simp

theorem roundBits_window (p : ℕ) (x : ℚ) (e : ℤ) (hlow : (2 : ℚ) ^ (e + p - 1) ≤ x)
    (hhigh : x < 2 ^ (e + p)) :
    roundBits p x = roundHalfEven (x / 2 ^ e) * 2 ^ e := by
  have hx : 0 < x := (zpow_pos (by norm_num) _).trans_le hlow
  have hle : e + p - 1 ≤ Int.log 2 |x| := by
    rw [abs_of_pos hx]
    exact (Int.zpow_le_iff_le_log (by norm_num) hx).mp (by exact_mod_cast hlow)
  have hlt : Int.log 2 |x| < e + p := by
    rw [abs_of_pos hx]
    exact (Int.lt_zpow_iff_log_lt (by norm_num) hx).mp (by exact_mod_cast hhigh)
  have he : lastBit p x = e := by simp only [lastBit]; omega
  rw [roundBits, he]

end BinaryRounding
