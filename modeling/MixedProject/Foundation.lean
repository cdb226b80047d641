import Mathlib.Data.Rat.Floor
import Mathlib.Logic.Basic
import MixedProject.BinaryRounding

namespace MixedProject

abbrev CGFloat := ℚ

/-- An `NSString` is its sequence of UTF-16 units, so `length` is `List.length`. -/
abbrev NSString := List UInt16

def utf16 (c : Char) : NSString :=
  if c.toNat < 0x10000 then [c.toNat.toUInt16]
  else [(0xD800 + (c.toNat - 0x10000) / 0x400).toUInt16,
    (0xDC00 + (c.toNat - 0x10000) % 0x400).toUInt16]

def ns (s : String) : NSString := s.toList.flatMap utf16

inductive NSException
  | arrayIndex
  | attributedRange
  | invalidArgument
  deriving DecidableEq

theorem bind_ok {α β : Type} {x : Except NSException α} {f : α → Except NSException β} {b : β}
    (h : x >>= f = .ok b) : ∃ a, x = .ok a ∧ f a = .ok b := by
  cases x with
  | error e => cases h
  | ok a => exact ⟨a, rfl, h⟩

theorem bind_eq_ok {α β : Type} {x : Except NSException α} {f : α → Except NSException β} {b : β} :
    x >>= f = .ok b ↔ ∃ a, x = .ok a ∧ f a = .ok b := by
  constructor
  · exact bind_ok
  · rintro ⟨a, rfl, h⟩
    exact h

theorem bind_error {α β : Type} {x : Except NSException α} {f : α → Except NSException β}
    {e : NSException} (h : x >>= f = .error e) : x = .error e ∨ ∃ a, x = .ok a ∧ f a = .error e := by
  cases x with
  | error e' => cases h; exact .inl rfl
  | ok a => exact .inr ⟨a, rfl, h⟩

def objectAtIndex {α : Type} (xs : List α) (i : ℕ) : Except NSException α :=
  match xs[i]? with
  | some x => .ok x
  | none => .error .arrayIndex

theorem objectAtIndex_ok {α : Type} {xs : List α} {i : ℕ} {x : α} :
    objectAtIndex xs i = .ok x ↔ xs[i]? = some x := by
  unfold objectAtIndex
  cases xs[i]? <;> simp

/-- A property-list value. `true` and `false` are the numbers 1 and 0, and a dictionary lists
its entries in key order, so equality of values is `isEqual:`. -/
inductive Value
  | null
  | number (n : ℚ)
  | string (s : NSString)
  | array (xs : List Value)
  | dictionary (entries : List (NSString × Value))

namespace Value

mutual

def decEq : (a b : Value) → Decidable (a = b)
  | .null, .null => isTrue rfl
  | .number m, .number n => decidable_of_iff (m = n) (by simp)
  | .string s, .string t => decidable_of_iff (s = t) (by simp)
  | .array xs, .array ys => @decidable_of_iff _ (xs = ys) (by simp) (decEqArray xs ys)
  | .dictionary xs, .dictionary ys => @decidable_of_iff _ (xs = ys) (by simp) (decEqEntries xs ys)
  | .null, .number _ | .null, .string _ | .null, .array _ | .null, .dictionary _
  | .number _, .null | .number _, .string _ | .number _, .array _ | .number _, .dictionary _
  | .string _, .null | .string _, .number _ | .string _, .array _ | .string _, .dictionary _
  | .array _, .null | .array _, .number _ | .array _, .string _ | .array _, .dictionary _
  | .dictionary _, .null | .dictionary _, .number _ | .dictionary _, .string _
  | .dictionary _, .array _ => isFalse (by simp)

def decEqArray : (xs ys : List Value) → Decidable (xs = ys)
  | [], [] => isTrue rfl
  | x :: xs, y :: ys => @decidable_of_iff _ (x = y ∧ xs = ys) (by simp)
      (@instDecidableAnd _ _ (decEq x y) (decEqArray xs ys))
  | [], _ :: _ | _ :: _, [] => isFalse (by simp)

def decEqEntries : (xs ys : List (NSString × Value)) → Decidable (xs = ys)
  | [], [] => isTrue rfl
  | (k, x) :: xs, (l, y) :: ys => @decidable_of_iff _ (k = l ∧ x = y ∧ xs = ys)
      (by simp [and_assoc])
      (@instDecidableAnd _ _ _ (@instDecidableAnd _ _ (decEq x y) (decEqEntries xs ys)))
  | [], _ :: _ | _ :: _, [] => isFalse (by simp)

end

instance : DecidableEq Value := decEq

end Value

/-- A number that an `NSInteger` cannot hold becomes the nearest one it can. -/
def clampNSInteger (value : ℤ) : ℤ := max (-2 ^ 63) (min value (2 ^ 63 - 1))

namespace NSString

/-- `whitespaceAndNewlineCharacterSet`: the separators of Unicode, U+0009 to U+000D and U+0085. -/
def isSpace (u : UInt16) : Bool :=
  (0x09 ≤ u && u ≤ 0x0D) || u = 0x20 || u = 0x85 || u = 0xA0 || u = 0x1680 ||
    (0x2000 ≤ u && u ≤ 0x200A) || u = 0x2028 || u = 0x2029 || u = 0x202F || u = 0x205F || u = 0x3000

def isDigit (u : UInt16) : Bool := 0x30 ≤ u && u ≤ 0x39

def digits (s : NSString) : ℤ :=
  (s.takeWhile isDigit).foldl (fun n u => 10 * n + (u.toNat - 0x30)) 0

def integerValue (s : NSString) : ℤ :=
  clampNSInteger <| match s.dropWhile isSpace with
    | 0x2D :: rest => -digits rest
    | 0x2B :: rest => digits rest
    | rest => digits rest

end NSString

def Value.integerValue : Value → Except NSException ℤ
  | .number n => .ok (clampNSInteger (n.num.tdiv n.den))
  | .string s => .ok (NSString.integerValue s)
  | _ => .error .invalidArgument

def integerValueOrNil : Option Value → Except NSException ℤ
  | none => .ok 0
  | some value => value.integerValue

theorem integerValueOrNil_error {value : Option Value} {e : NSException}
    (h : integerValueOrNil value = .error e) : e = .invalidArgument := by
  cases value with
  | none => cases h
  | some value => cases value <;> cases h <;> rfl

def numberWithFloat (x : CGFloat) : CGFloat := BinaryRounding.roundBits 24 x

theorem numberWithFloat_exact (z : ℤ) (h : |z| < 2 ^ 24) : numberWithFloat (z : ℚ) = z :=
  BinaryRounding.roundBits_intCast 24 z h

end MixedProject
