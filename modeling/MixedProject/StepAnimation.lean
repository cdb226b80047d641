import Mathlib.Data.Rat.Floor
import Mathlib.Algebra.Order.Ring.Abs
import Mathlib.Data.Sign.Defs
import Mathlib.Tactic.Linarith
import Mathlib.Tactic.NormNum
import Mathlib.Tactic.Ring
import Mathlib.Tactic.FieldSimp

namespace StepAnimation

def truncate (x : ℚ) : ℤ := if 0 ≤ x then ⌊x⌋ else ⌈x⌉

theorem truncate_of_nonneg {x : ℚ} (h : 0 ≤ x) : truncate x = ⌊x⌋ := if_pos h

@[simp] theorem truncate_intCast (z : ℤ) : truncate z = z := by simp [truncate]

theorem truncate_nonneg {x : ℚ} (h : 0 ≤ x) : 0 ≤ truncate x := by
  rw [truncate_of_nonneg h]
  exact Int.floor_nonneg.mpr h

theorem truncate_lt_add_one (x : ℚ) : x < truncate x + 1 := by
  unfold truncate
  split
  · exact Int.lt_floor_add_one x
  · exact (Int.le_ceil x).trans_lt (lt_add_one _)

theorem sub_one_lt_truncate (x : ℚ) : (truncate x : ℚ) - 1 < x := by
  unfold truncate
  split
  · exact (sub_one_lt _).trans_le (Int.floor_le x)
  · exact sub_lt_iff_lt_add.mpr (Int.ceil_lt_add_one x)

theorem truncate_le {x : ℚ} (h : 0 ≤ x) : (truncate x : ℚ) ≤ x := by
  rw [truncate_of_nonneg h]
  exact Int.floor_le x

theorem truncate_half {x : ℚ} {n : ℕ} (h : |x - n| < 1 / 2) : truncate (x + 1 / 2) = n := by
  obtain ⟨hlow, hhigh⟩ := abs_lt.mp h
  have hn : (0 : ℚ) ≤ n := Nat.cast_nonneg n
  rw [truncate_of_nonneg (by linarith), Int.floor_eq_iff]
  push_cast
  constructor <;> linarith

/-- A value that a display link moves towards a target in steps of one size. -/
structure Motion where
  value : ℚ := 0
  direction : ℤ := 0
  gap : ℚ := 0
  step : ℚ := 0
  running : Bool := false
  deriving DecidableEq

def assign (accepts : ℚ → Bool) (value : ℚ) (m : Motion) : Motion :=
  if accepts value then { m with value } else m

def launch (direction : ℤ) (gap factor : ℚ) (m : Motion) : Motion :=
  { m with direction, gap, step := gap / factor, running := true }

def tick (accepts : ℚ → Bool) (tolerance : ℚ) (m : Motion) : Motion :=
  if m.gap > tolerance then
    let m := { m with gap := m.gap - m.step }
    if m.gap < 0 then assign accepts (truncate (m.value + m.direction * m.step + 1 / 2)) m
    else assign accepts (m.value + m.direction * m.step) m
  else { assign accepts (truncate (m.value + 1 / 2)) m with running := false }

def fire (accepts : ℚ → Bool) (tolerance : ℚ) (m : Motion) : Motion :=
  if m.running then tick accepts tolerance m else m

/-- A last step that passes the target by less than a half is rounded back to it. -/
def Lands (factor gap : ℚ) : Prop := gap * (⌈factor⌉₊ - factor) < factor / 2

theorem lands_natCast {n : ℕ} (hn : 0 < n) (gap : ℚ) : Lands n gap := by
  have hpos : (0 : ℚ) < n := by exact_mod_cast hn
  rw [Lands, Nat.ceil_natCast, sub_self, mul_zero]
  linarith

theorem Lands.mono {factor gap gap' : ℚ} (h : Lands factor gap') (hle : gap ≤ gap') :
    Lands factor gap := by
  have hceil : (0 : ℚ) ≤ ⌈factor⌉₊ - factor := sub_nonneg.mpr (Nat.le_ceil factor)
  exact (mul_le_mul_of_nonneg_right hle hceil).trans_lt h

/-- `k` steps are done, each a `factor`-th of the way. -/
structure Underway (factor start : ℚ) (target k : ℕ) (m : Motion) : Prop where
  running : m.running = true
  step : m.step = |start - target| / factor
  gap : m.gap = |start - target| * (1 - k / factor)
  value : m.value = start + (target - start) * (k / factor)
  direction : m.direction * |start - target| = target - start

structure Landed (tolerance : ℚ) (target : ℕ) (m : Motion) : Prop where
  running : m.running = true
  gap : m.gap ≤ tolerance
  value : m.value = target

structure Arrived (target : ℕ) (m : Motion) : Prop where
  running : m.running = false
  value : m.value = target

theorem assign_value {accepts : ℚ → Bool} {P : ℚ → Prop} (haccepts : ∀ x, accepts x = true → P x)
    (x : ℚ) {m : Motion} (h : P m.value) : P (assign accepts x m).value := by
  unfold assign
  split
  · rename_i hx
    exact haccepts x hx
  · exact h

theorem fire_value {accepts : ℚ → Bool} {P : ℚ → Prop} (haccepts : ∀ x, accepts x = true → P x)
    (tolerance : ℚ) {m : Motion} (h : P m.value) : P (fire accepts tolerance m).value := by
  unfold fire tick
  dsimp only
  split_ifs
  · exact assign_value haccepts _ h
  · exact assign_value haccepts _ h
  · exact assign_value haccepts _ h
  · exact h

theorem le_blend {low a b rate : ℚ} (ha : low ≤ a) (hb : low ≤ b) (hzero : 0 ≤ rate)
    (hone : rate ≤ 1) : low ≤ a + (b - a) * rate := by
  nlinarith

theorem blend_le {high a b rate : ℚ} (ha : a ≤ high) (hb : b ≤ high) (hzero : 0 ≤ rate)
    (hone : rate ≤ 1) : a + (b - a) * rate ≤ high := by
  nlinarith

section

variable {accepts : ℚ → Bool} {tolerance factor start : ℚ} {target k : ℕ} {m : Motion}

theorem share_le_one (hfactor : 0 < factor) (hk : (k : ℚ) ≤ factor) :
    0 ≤ (k : ℚ) / factor ∧ (k : ℚ) / factor ≤ 1 :=
  ⟨div_nonneg (Nat.cast_nonneg k) hfactor.le, div_le_one_of_le₀ hk hfactor.le⟩

theorem Underway.error (h : Underway factor start target k m) (hfactor : 0 < factor)
    (hk : (k : ℚ) ≤ factor) : |m.value - target| = m.gap := by
  rw [h.value, h.gap]
  have hrest : (0 : ℚ) ≤ 1 - k / factor := sub_nonneg.mpr (share_le_one hfactor hk).2
  have hvalue : start + (target - start) * (k / factor : ℚ) - target =
      (start - target) * (1 - k / factor) := by
    ring
  rw [hvalue, abs_mul, abs_of_nonneg hrest]

theorem Underway.next_gap (h : Underway factor start target k m) :
    m.gap - m.step = |start - target| * (1 - (k + 1 : ℕ) / factor) := by
  rw [h.gap, h.step]
  push_cast
  ring

theorem Underway.next_value (h : Underway factor start target k m) :
    m.value + m.direction * m.step = start + (target - start) * ((k + 1 : ℕ) / factor) := by
  calc m.value + m.direction * m.step
      = start + (target - start) * (k / factor) + m.direction * |start - target| / factor := by
        rw [h.value, h.step, mul_div_assoc]
    _ = start + (target - start) * ((k + 1 : ℕ) / factor) := by
        rw [h.direction]
        push_cast
        ring

theorem Underway.tick_far (h : Underway factor start target k m) (hfactor : 0 < factor)
    (hk : ((k + 1 : ℕ) : ℚ) ≤ factor) (hfar : tolerance < m.gap)
    (haccepts : accepts (start + (target - start) * ((k + 1 : ℕ) / factor)) = true) :
    Underway factor start target (k + 1) (tick accepts tolerance m) := by
  have hgap := h.next_gap
  have hvalue := h.next_value
  have hnonneg : ¬ m.gap - m.step < 0 := by
    rw [hgap, not_lt]
    exact mul_nonneg (abs_nonneg _) (sub_nonneg.mpr (share_le_one hfactor hk).2)
  have htick : tick accepts tolerance m =
      { m with gap := m.gap - m.step, value := m.value + m.direction * m.step } := by
    simp only [tick, if_pos (show m.gap > tolerance from hfar), if_neg hnonneg, assign, hvalue, haccepts,
      if_true]
  rw [htick]
  exact ⟨h.running, h.step, hgap, hvalue, h.direction⟩

theorem Underway.tick_near (h : Underway factor start target k m) (hfactor : 0 < factor)
    (hk : (k : ℚ) ≤ factor) (htolerance : tolerance < 1 / 2) (hnear : m.gap ≤ tolerance)
    (haccepts : accepts target = true) : Arrived target (tick accepts tolerance m) := by
  have hround : truncate (m.value + 1 / 2) = target := by
    apply truncate_half
    rw [h.error hfactor hk]
    exact hnear.trans_lt htolerance
  have hassign : accepts ((truncate (m.value + 1 / 2) : ℤ) : ℚ) = true := by
    rw [hround]
    exact haccepts
  simp only [tick, if_neg (show ¬ m.gap > tolerance from not_lt.mpr hnear), assign, hassign, if_true]
  exact ⟨rfl, by rw [hround]; rfl⟩

theorem Underway.before_end (h : Underway factor start target k m) (hfactor : 0 < factor)
    (hk : (k : ℚ) ≤ factor) (hgap : 0 < m.gap) : (k : ℚ) < factor := by
  rcases hk.lt_or_eq with hlt | heq
  · exact hlt
  · rw [h.gap, heq, div_self hfactor.ne', sub_self, mul_zero] at hgap
    exact absurd hgap (lt_irrefl 0)

theorem Underway.overshoot (h : Underway factor start target k m) (hfactor : 0 < factor)
    (hk : (k : ℚ) ≤ factor) (hover : factor < (k + 1 : ℕ)) (hgap : 0 < m.gap)
    (hlands : Lands factor |start - target|) :
    m.gap - m.step < 0 ∧ |m.value + m.direction * m.step - target| < 1 / 2 := by
  have hbefore := h.before_end hfactor hk hgap
  have hceil : ⌈factor⌉₊ = k + 1 := by
    rw [Nat.ceil_eq_iff (Nat.succ_ne_zero k)]
    exact ⟨by simpa using hbefore, hover.le⟩
  have hway : 0 < |start - target| := by
    by_contra hzero
    have hno : |start - target| = 0 := le_antisymm (not_lt.mp hzero) (abs_nonneg _)
    rw [h.gap, hno, zero_mul] at hgap
    exact absurd hgap (lt_irrefl 0)
  have hpast : 0 < ((k + 1 : ℕ) : ℚ) / factor - 1 := by
    rw [sub_pos, one_lt_div hfactor]
    exact hover
  constructor
  · rw [h.next_gap]
    exact mul_neg_of_pos_of_neg hway (by linarith)
  · have herror : start + (target - start) * ((k + 1 : ℕ) / factor : ℚ) - target =
        (target - start) * ((k + 1 : ℕ) / factor - 1) := by
      ring
    have hshare : ((k + 1 : ℕ) : ℚ) / factor - 1 = ((k + 1 : ℕ) - factor) / factor := by
      rw [sub_div, div_self hfactor.ne']
    have hlt : |start - target| * ((k + 1 : ℕ) - factor) < factor / 2 := hceil ▸ hlands
    rw [h.next_value, herror, abs_mul, abs_of_pos hpast, abs_sub_comm, hshare, ← mul_div_assoc,
      div_lt_iff₀ hfactor]
    linarith

theorem Underway.tick_over (h : Underway factor start target k m) (hfactor : 0 < factor)
    (hk : (k : ℚ) ≤ factor) (hover : factor < (k + 1 : ℕ)) (hlow : 0 ≤ tolerance)
    (hfar : tolerance < m.gap) (hlands : Lands factor |start - target|)
    (haccepts : accepts target = true) : Landed tolerance target (tick accepts tolerance m) := by
  obtain ⟨hneg, hnear⟩ := h.overshoot hfactor hk hover (hlow.trans_lt hfar) hlands
  have hround : truncate (m.value + m.direction * m.step + 1 / 2) = target := truncate_half hnear
  have hassign : accepts ((truncate (m.value + m.direction * m.step + 1 / 2) : ℤ) : ℚ) = true := by
    rw [hround]
    exact haccepts
  simp only [tick, if_pos (show m.gap > tolerance from hfar), if_pos hneg, assign, hassign, if_true]
  exact ⟨h.running, hneg.le.trans hlow, by rw [hround]; rfl⟩

theorem Landed.tick (h : Landed tolerance target m) (haccepts : accepts target = true) :
    Arrived target (tick accepts tolerance m) := by
  have hround : truncate (m.value + 1 / 2) = target := by
    apply truncate_half
    rw [h.value, sub_self, abs_zero]
    norm_num
  have hassign : accepts ((truncate (m.value + 1 / 2) : ℤ) : ℚ) = true := by
    rw [hround]
    exact haccepts
  simp only [StepAnimation.tick, if_neg (show ¬ m.gap > tolerance from not_lt.mpr h.gap), assign,
    hassign, if_true]
  exact ⟨rfl, by rw [hround]; rfl⟩

theorem fire_arrived (h : Arrived target m) : fire accepts tolerance m = m := by
  simp [fire, h.running]

def Due (tolerance low high factor : ℚ) (target left : ℕ) (m : Motion) : Prop :=
  Arrived target m ∨ Landed tolerance target m ∧ 0 < left ∨
    ∃ start : ℚ, ∃ k : ℕ, (k : ℚ) ≤ factor ∧ ⌈factor⌉₊ + 1 ≤ k + left ∧
      Underway factor start target k m ∧ (low ≤ start ∧ start ≤ high) ∧
      Lands factor |start - target|

variable {low high : ℚ} {left left' : ℕ}

theorem Due.mono (h : Due tolerance low high factor target left m) (hle : left ≤ left') :
    Due tolerance low high factor target left' m := by
  rcases h with harrived | ⟨hlanded, hpos⟩ | ⟨start, k, hk, hleft, hway, hstart, hlands⟩
  · exact .inl harrived
  · exact .inr (.inl ⟨hlanded, hpos.trans_le hle⟩)
  · exact .inr (.inr ⟨start, k, hk, by omega, hway, hstart, hlands⟩)

theorem Due.arrived (h : Due tolerance low high factor target 0 m) : Arrived target m := by
  rcases h with harrived | ⟨-, hpos⟩ | ⟨start, k, hk, hleft, -⟩
  · exact harrived
  · cases hpos
  · have hceil : k ≤ ⌈factor⌉₊ := by exact_mod_cast hk.trans (Nat.le_ceil factor)
    omega

theorem Due.value (h : Due tolerance low high factor target left m) (hfactor : 0 < factor)
    (htarget : low ≤ target ∧ (target : ℚ) ≤ high) : low ≤ m.value ∧ m.value ≤ high := by
  rcases h with harrived | ⟨hlanded, -⟩ | ⟨start, k, hk, -, hway, hstart, -⟩
  · rw [harrived.value]
    exact htarget
  · rw [hlanded.value]
    exact htarget
  · obtain ⟨hzero, hone⟩ := share_le_one hfactor hk
    rw [hway.value]
    exact ⟨le_blend hstart.1 htarget.1 hzero hone, blend_le hstart.2 htarget.2 hzero hone⟩

theorem Due.fire (h : Due tolerance low high factor target (left + 1) m) (hfactor : 0 < factor)
    (hlow : 0 ≤ tolerance) (hhigh : tolerance < 1 / 2)
    (htarget : low ≤ target ∧ (target : ℚ) ≤ high)
    (haccepts : ∀ x, low ≤ x ∧ x ≤ high → accepts x = true) :
    Due tolerance low high factor target left (fire accepts tolerance m) := by
  have hend := haccepts target htarget
  rcases h with harrived | ⟨hlanded, -⟩ | ⟨start, k, hk, hleft, hway, hstart, hlands⟩
  · rw [fire_arrived harrived]
    exact .inl harrived
  · rw [StepAnimation.fire, if_pos hlanded.running]
    exact .inl (hlanded.tick hend)
  · rw [StepAnimation.fire, if_pos hway.running]
    by_cases hnear : m.gap ≤ tolerance
    · exact .inl (hway.tick_near hfactor hk hhigh hnear hend)
    · have hfar : tolerance < m.gap := not_le.mp hnear
      by_cases hnext : ((k + 1 : ℕ) : ℚ) ≤ factor
      · obtain ⟨hzero, hone⟩ := share_le_one hfactor hnext
        have hvalue := haccepts _
          ⟨le_blend hstart.1 htarget.1 hzero hone, blend_le hstart.2 htarget.2 hzero hone⟩
        exact .inr (.inr ⟨start, k + 1, hnext, by omega, hway.tick_far hfactor hnext hfar hvalue,
          hstart, hlands⟩)
      · have hover : factor < (k + 1 : ℕ) := not_le.mp hnext
        have hlanded := hway.tick_over hfactor hk hover hlow hfar hlands hend
        refine .inr (.inl ⟨hlanded, ?_⟩)
        by_contra hnone
        have hceil : k < ⌈factor⌉₊ :=
          Nat.lt_ceil.mpr (hway.before_end hfactor hk (hlow.trans_lt hfar))
        omega

theorem due_launch (direction : ℤ)
    (hdirection : (direction : ℚ) * |m.value - target| = target - m.value) (hfactor : 0 < factor)
    (hvalue : low ≤ m.value ∧ m.value ≤ high) (hlands : Lands factor |m.value - target|) :
    Due tolerance low high factor target (⌈factor⌉₊ + 1)
      (launch direction |m.value - target| factor m) := by
  refine .inr (.inr ⟨m.value, 0, ?_, by omega, ?_, hvalue, hlands⟩)
  · rw [Nat.cast_zero]
    exact hfactor.le
  · constructor
    · rfl
    · rfl
    · simp [launch]
    · simp [launch]
    · exact hdirection

end

end StepAnimation
