import MixedProject.Foundation
import Mathlib.Data.List.TakeWhile

namespace MixedProject

namespace NSString

def isHighSurrogate (u : UInt16) : Bool := 0xD800 ≤ u && u ≤ 0xDBFF

def isLowSurrogate (u : UInt16) : Bool := 0xDC00 ≤ u && u ≤ 0xDFFF

/-- There are none where a surrogate stands alone. -/
def scalars : NSString → Option (List ℕ)
  | [] => some []
  | [u] => if isHighSurrogate u || isLowSurrogate u then none else some [u.toNat]
  | u :: v :: rest =>
    if isHighSurrogate u && isLowSurrogate v then
      (scalars rest).map fun cs =>
        (0x10000 + (u.toNat - 0xD800) * 0x400 + (v.toNat - 0xDC00)) :: cs
    else if isHighSurrogate u || isLowSurrogate u then none
    else (scalars (v :: rest)).map fun cs => u.toNat :: cs

def utf8 (c : ℕ) : List UInt8 :=
  let tail (k : ℕ) : UInt8 := (0x80 + c / k % 0x40).toUInt8
  if c < 0x80 then [c.toUInt8]
  else if c < 0x800 then [(0xC0 + c / 0x40).toUInt8, tail 1]
  else if c < 0x10000 then [(0xE0 + c / 0x1000).toUInt8, tail 0x40, tail 1]
  else [(0xF0 + c / 0x40000).toUInt8, tail 0x1000, tail 0x40, tail 1]

def UTF8String (s : NSString) : Option (List UInt8) :=
  (scalars s).map fun cs => cs.flatMap utf8

def slash : UInt16 := 0x2F

def dot : UInt16 := 0x2E

/-- A dot at the start of the last component starts no extension. -/
def pathExtension (path : NSString) : NSString :=
  let component := (path.reverse.dropWhile (· = slash)).takeWhile (· ≠ slash)
  match component.dropWhile (· ≠ dot) with
  | _ :: _ :: _ => (component.takeWhile (· ≠ dot)).reverse
  | _ => []

def stringByDeletingPathExtension (path : NSString) : NSString :=
  let trimmed := (path.reverse.dropWhile (· = slash)).reverse
  if pathExtension path = [] then trimmed
  else trimmed.take (trimmed.length - (pathExtension path).length - 1)

def hexDigit (n : ℕ) : UInt16 := (if n < 10 then 0x30 + n else 0x57 + n).toUInt16

def hexByte (b : UInt8) : NSString := [hexDigit (b.toNat / 16), hexDigit (b.toNat % 16)]

def hex (r : Vector UInt8 16) : NSString := r.toList.flatMap hexByte

theorem hexDigit_inj : ∀ m < 16, ∀ n < 16, hexDigit m = hexDigit n → m = n := by decide

theorem hexDigit_plain : ∀ n < 16, hexDigit n ≠ slash ∧ hexDigit n ≠ dot := by decide

theorem hexByte_inj {b b' : UInt8} (h : hexByte b = hexByte b') : b = b' := by
  have hlt := b.toNat_lt
  have hlt' := b'.toNat_lt
  obtain ⟨hhigh, hlow, -⟩ := List.cons.inj h |>.imp_right List.cons.inj
  have hdiv := hexDigit_inj _ (by omega) _ (by omega) hhigh
  have hmod := hexDigit_inj _ (by omega) _ (by omega) hlow
  apply UInt8.toNat_inj.mp
  omega

theorem flatMap_hexByte_inj {bs bs' : List UInt8} (h : bs.flatMap hexByte = bs'.flatMap hexByte) :
    bs = bs' := by
  induction bs generalizing bs' with
  | nil =>
    cases bs' with
    | nil => rfl
    | cons b' bs' => cases h
  | cons b bs ih =>
    cases bs' with
    | nil => cases h
    | cons b' bs' =>
      rw [List.flatMap_cons, List.flatMap_cons] at h
      obtain ⟨hbyte, hrest⟩ := List.append_inj h rfl
      rw [hexByte_inj hbyte, ih hrest]

theorem hex_inj {r r' : Vector UInt8 16} (h : hex r = hex r') : r = r' :=
  Vector.toList_inj.mp (flatMap_hexByte_inj h)

theorem hex_length (r : Vector UInt8 16) : (hex r).length = 32 := by
  have hbytes : ∀ bs : List UInt8, (bs.flatMap hexByte).length = 2 * bs.length := by
    intro bs
    induction bs with
    | nil => rfl
    | cons b bs ih =>
      rw [List.flatMap_cons, List.length_append, ih, List.length_cons]
      simp only [hexByte, List.length_cons, List.length_nil]
      omega
  rw [hex, hbytes, Vector.length_toList]

def Plain (s : NSString) : Prop := ∀ u ∈ s, u ≠ slash ∧ u ≠ dot

theorem hex_plain (r : Vector UInt8 16) : Plain (hex r) := by
  intro u hu
  obtain ⟨b, -, hb⟩ := List.mem_flatMap.mp hu
  have hlt := b.toNat_lt
  simp only [hexByte, List.mem_cons, List.not_mem_nil, or_false] at hb
  rcases hb with rfl | rfl
  · exact hexDigit_plain _ (by omega)
  · exact hexDigit_plain _ (by omega)

theorem pathExtension_plain (path : NSString) : Plain (pathExtension path) := by
  unfold pathExtension
  dsimp only
  split
  · intro u hu
    rw [List.mem_reverse] at hu
    have hdot := List.mem_takeWhile_imp hu
    have hslash := List.mem_takeWhile_imp (List.takeWhile_subset _ hu)
    exact ⟨by simpa using hslash, by simpa using hdot⟩
  · intro u hu
    cases hu

section

variable {stem ext : NSString}

theorem dropWhile_slash {s : NSString} (h : ∀ u ∈ s, u ≠ slash) :
    s.reverse.dropWhile (· = slash) = s.reverse := by
  apply List.dropWhile_eq_self_iff.mpr
  intro hpos
  simpa using h _ (List.mem_reverse.mp (List.getElem_mem hpos))

theorem takeWhile_slash {s : NSString} (h : ∀ u ∈ s, u ≠ slash) :
    s.reverse.takeWhile (· ≠ slash) = s.reverse := by
  apply List.takeWhile_eq_self_iff.mpr
  intro u hu
  simpa using h u (List.mem_reverse.mp hu)

theorem pathExtension_stem (hstem : Plain stem) : pathExtension stem = [] := by
  have hslash : ∀ u ∈ stem, u ≠ slash := fun u hu => (hstem u hu).1
  have hnone : stem.reverse.dropWhile (· ≠ dot) = [] := by
    apply List.dropWhile_eq_nil_iff.mpr
    intro u hu
    simpa using (hstem u (List.mem_reverse.mp hu)).2
  unfold pathExtension
  rw [dropWhile_slash hslash, takeWhile_slash hslash]
  dsimp only
  rw [hnone]

theorem joined_slash (hstem : Plain stem) (hext : Plain ext) :
    ∀ u ∈ stem ++ dot :: ext, u ≠ slash := by
  intro u hu
  rcases List.mem_append.mp hu with hu | hu
  · exact (hstem u hu).1
  · rcases List.mem_cons.mp hu with rfl | hu
    · decide
    · exact (hext u hu).1

theorem pathExtension_joined (hstem : Plain stem) (hne : stem ≠ []) (hext : Plain ext) :
    pathExtension (stem ++ dot :: ext) = ext := by
  have hslash := joined_slash hstem hext
  have hsplit : (stem ++ dot :: ext).reverse = ext.reverse ++ dot :: stem.reverse := by
    simp
  have hleft : ∀ u ∈ ext.reverse, (decide (u ≠ dot)) = true := by
    intro u hu
    simpa using (hext u (List.mem_reverse.mp hu)).2
  have hdrop : (ext.reverse ++ dot :: stem.reverse).dropWhile (· ≠ dot) = dot :: stem.reverse := by
    rw [List.dropWhile_append_of_pos hleft, List.dropWhile_cons_of_neg (by simp)]
  have htake : (ext.reverse ++ dot :: stem.reverse).takeWhile (· ≠ dot) = ext.reverse := by
    rw [List.takeWhile_append_of_pos hleft, List.takeWhile_cons_of_neg (by simp), List.append_nil]
  obtain ⟨u, us, hstemrev⟩ := List.exists_cons_of_ne_nil (List.reverse_ne_nil_iff.mpr hne)
  unfold pathExtension
  rw [dropWhile_slash hslash, takeWhile_slash hslash, hsplit]
  dsimp only
  rw [hdrop, htake, hstemrev, List.reverse_reverse]

theorem deleting_stem (hstem : Plain stem) : stringByDeletingPathExtension stem = stem := by
  have hslash : ∀ u ∈ stem, u ≠ slash := fun u hu => (hstem u hu).1
  unfold stringByDeletingPathExtension
  rw [if_pos (pathExtension_stem hstem), dropWhile_slash hslash, List.reverse_reverse]

theorem deleting_joined (hstem : Plain stem) (hne : stem ≠ []) (hext : Plain ext) (hsome : ext ≠ []) :
    stringByDeletingPathExtension (stem ++ dot :: ext) = stem := by
  unfold stringByDeletingPathExtension
  rw [pathExtension_joined hstem hne hext, if_neg hsome, dropWhile_slash (joined_slash hstem hext),
    List.reverse_reverse]
  apply List.take_left'
  rw [List.length_append, List.length_cons]
  omega

end

end NSString

namespace SDImageCache

open NSString

variable (MD5 : List UInt8 → Vector UInt8 16)

/-- `str` ends at its first zero byte, and its length is cut to the 32 bits of a `CC_LONG`. -/
def digestForKey (key : NSString) : Vector UInt8 16 :=
  let str := ((UTF8String key).getD []).takeWhile (· ≠ 0)
  MD5 (str.take (str.length % 2 ^ 32))

def cachedFileNameForKey (key : NSString) : NSString :=
  hex (digestForKey MD5 key) ++
    if pathExtension key = [] then [] else dot :: pathExtension key

variable {MD5} {key key' : NSString}

theorem digest_of_fileName (h : cachedFileNameForKey MD5 key = cachedFileNameForKey MD5 key') :
    digestForKey MD5 key = digestForKey MD5 key' := by
  have hstems := (List.append_inj h (by rw [hex_length, hex_length])).1
  exact hex_inj hstems

theorem deleting_fileName (key : NSString) :
    stringByDeletingPathExtension (cachedFileNameForKey MD5 key) = hex (digestForKey MD5 key) := by
  have hplain := hex_plain (digestForKey MD5 key)
  have hne : hex (digestForKey MD5 key) ≠ [] := by
    intro hnil
    have hlength := hex_length (digestForKey MD5 key)
    rw [hnil] at hlength
    cases hlength
  unfold cachedFileNameForKey
  split
  · rw [List.append_nil]
    exact deleting_stem hplain
  · rename_i hsome
    exact deleting_joined hplain hne (pathExtension_plain key) hsome

theorem digest_of_deleting
    (h : stringByDeletingPathExtension (cachedFileNameForKey MD5 key) = cachedFileNameForKey MD5 key') :
    digestForKey MD5 key = digestForKey MD5 key' := by
  rw [deleting_fileName, cachedFileNameForKey, ← List.append_nil (hex (digestForKey MD5 key))] at h
  exact hex_inj (List.append_inj h (by rw [hex_length, hex_length])).1

example : NSString.pathExtension (ns "http://a.b/c.png?w=2") = ns "png?w=2" ∧
    NSString.pathExtension (ns "http://a.b/c") = [] := by decide +kernel

end SDImageCache

end MixedProject
