import Mathlib.Data.List.Infix
import Mathlib.Data.String.Basic
import Vantyr.Data.Strip

/-!
This module contains the operations on text that depend on classes of characters, after the standard
library of Rust. Lengths of text are counted in bytes.
-/

namespace Vantyr

namespace Text

-- The characters of the category Cc.
def isControl (c : Char) : Bool :=
  c.toNat < 0x20 || 0x7f ≤ c.toNat && c.toNat < 0xa0

-- The characters with the property White_Space.
def isWhitespace (c : Char) : Bool :=
  0x09 ≤ c.toNat && c.toNat ≤ 0x0d
    || c.toNat = 0x20
    || c.toNat = 0x85
    || c.toNat = 0xa0
    || c.toNat = 0x1680
    || 0x2000 ≤ c.toNat && c.toNat ≤ 0x200a
    || c.toNat = 0x2028
    || c.toNat = 0x2029
    || c.toNat = 0x202f
    || c.toNat = 0x205f
    || c.toNat = 0x3000

def trim (text : String) : String :=
  String.ofList ((text.toList.dropWhile isWhitespace).rdropWhile isWhitespace)

def asciiLower (c : Char) : Char :=
  if 'A' ≤ c ∧ c ≤ 'Z' then Char.ofNat (c.toNat + 32) else c

def toAsciiLowercase (text : String) : String :=
  String.ofList (text.toList.map asciiLower)

-- `str::contains`
def contains (text pattern : String) : Bool :=
  pattern.toList <:+: text.toList

def isAsciiAlphanumeric (c : Char) : Bool :=
  '0' ≤ c ∧ c ≤ '9' ∨ 'a' ≤ c ∧ c ≤ 'z' ∨ 'A' ≤ c ∧ c ≤ 'Z'

theorem isAsciiAlphanumeric_cases {c : Char} (h : isAsciiAlphanumeric c = true)
    : 48 ≤ c.toNat ∧ c.toNat ≤ 57 ∨ 97 ≤ c.toNat ∧ c.toNat ≤ 122
      ∨ 65 ≤ c.toNat ∧ c.toNat ≤ 90 := by
  unfold isAsciiAlphanumeric at h
  rw [decide_eq_true_eq] at h
  exact h

theorem contains_self (text : String) : contains text text = true :=
  decide_eq_true (List.infix_refl _)

theorem contains_empty (text : String) : contains text "" = true :=
  decide_eq_true (List.nil_infix)

theorem size_ofList_le (cs : List Char) : (String.ofList cs).utf8ByteSize ≤ 4 * cs.length := by
  rw [String.utf8ByteSize_ofList]
  induction cs with
  | nil => exact Nat.le_refl _
  | cons c cs ih =>
    have := c.utf8Size_le_four
    simp only [String.utf8Len_cons, List.length_cons]
    omega

theorem toNat_ofAscii {n : Nat} (h : n < 128) : (Char.ofNat n).toNat = n := by
  have : ∀ m : Fin 128, (Char.ofNat m).toNat = m.val := by decide
  exact this ⟨n, h⟩

theorem isWhitespace_asciiLower (c : Char) : isWhitespace (asciiLower c) = isWhitespace c := by
  unfold asciiLower
  split
  . next h =>
    have hlow : 65 ≤ c.toNat := h.1
    have hhigh : c.toNat ≤ 90 := h.2
    have hlower := toNat_ofAscii (show c.toNat + 32 < 128 by omega)
    unfold isWhitespace
    rw [hlower, Bool.eq_iff_iff]
    simp only [Bool.or_eq_true, Bool.and_eq_true, decide_eq_true_eq]
    omega
  . rfl

theorem asciiLower_asciiLower (c : Char) : asciiLower (asciiLower c) = asciiLower c := by
  by_cases h : 'A' ≤ c ∧ c ≤ 'Z'
  . have hlow : 65 ≤ c.toNat := h.1
    have hhigh : c.toNat ≤ 90 := h.2
    have hlower := toNat_ofAscii (show c.toNat + 32 < 128 by omega)
    simp only [asciiLower, if_pos h]
    rw [if_neg]
    intro hupper
    have : (Char.ofNat (c.toNat + 32)).toNat ≤ 90 := hupper.2
    omega
  . simp only [asciiLower, if_neg h]

-- Text that neither begins nor ends with white space.
theorem strip_trim (text : String) : Strip.strip isWhitespace (trim text).toList = (trim text).toList := by
  unfold trim
  rw [String.toList_ofList]
  exact Strip.strip_strip isWhitespace text.toList

theorem trim_trim (text : String) : trim (trim text) = trim text := by
  rw [← String.toList_inj, ← strip_trim text]
  exact String.toList_ofList

theorem trim_eq_self {text : String} (h : ∀ c ∈ text.toList, isWhitespace c = false)
    : trim text = text := by
  have hself : Strip.strip isWhitespace text.toList = text.toList := Strip.strip_eq_self h
  calc
    trim text = String.ofList (Strip.strip isWhitespace text.toList) := rfl
    _ = text := by rw [hself, String.ofList_toList]

theorem trim_toAsciiLowercase (text : String)
    : trim (toAsciiLowercase text) = toAsciiLowercase (trim text) := by
  unfold trim toAsciiLowercase
  rw [String.toList_ofList, String.toList_ofList]
  exact congrArg String.ofList (Strip.strip_map isWhitespace_asciiLower text.toList)

theorem toAsciiLowercase_eq_empty {text : String} : toAsciiLowercase text = "" ↔ text = "" := by
  unfold toAsciiLowercase
  rw [← String.toList_inj, String.toList_ofList, ← String.toList_inj]
  simp

theorem toAsciiLowercase_idem (text : String)
    : toAsciiLowercase (toAsciiLowercase text) = toAsciiLowercase text := by
  unfold toAsciiLowercase
  rw [String.toList_ofList, List.map_map]
  congr 1
  apply List.map_congr_left
  intro c _
  exact asciiLower_asciiLower c

end Text

end Vantyr
