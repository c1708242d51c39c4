import Mathlib.Algebra.Ring.Int.Defs
import Mathlib.Algebra.Ring.Nat
import Mathlib.Data.List.Basic
import Mathlib.Data.Nat.Basic
import Mathlib.Tactic.Common

/-!
This module contains UUIDs and their text form: `Uuid.text` writes the hyphenated lower case form,
`Uuid.parse` also accepts the other documented ones (upper case, without hyphens, in braces or as a
URN). The main result is that parsing takes back what was written, `Uuid.parse_text`.
-/

namespace Vantyr

abbrev Uuid := BitVec 128

-- Whether a list of identifiers has one of them is decided by comparing.
instance : LawfulBEq Uuid := inferInstance

namespace Hex

def digit (n : Nat) : Char :=
  if n < 10 then Char.ofNat (48 + n) else Char.ofNat (87 + n)

def value (c : Char) : Option Nat :=
  if '0' ≤ c ∧ c ≤ '9' then
    some (c.toNat - 48)
  else if 'a' ≤ c ∧ c ≤ 'f' then
    some (c.toNat - 87)
  else if 'A' ≤ c ∧ c ≤ 'F' then
    some (c.toNat - 55)
  else
    none

-- The most significant of the last `width` digits comes first.
def digits : (width : Nat) → (n : Nat) → List Char
  | 0, _ => []
  | width + 1, n => digits width (n / 16) ++ [digit (n % 16)]

def read (cs : List Char) : Option Nat :=
  cs.foldlM (fun acc c => (value c).map (acc * 16 + ·)) 0

theorem value_digit {n : Nat} (h : n < 16) : value (digit n) = some n := by
  have : ∀ m : Fin 16, value (digit m) = some m.val := by decide
  exact this ⟨n, h⟩

@[simp]
theorem length_digits (width n : Nat) : (digits width n).length = width := by
  induction width generalizing n with
  | zero => rfl
  | succ width ih => simp [digits, ih]

theorem read_digits (width n : Nat) : read (digits width n) = some (n % 16 ^ width) := by
  induction width generalizing n with
  | zero => simp [digits, read, Nat.mod_one]
  | succ width ih =>
    have hd : value (digit (n % 16)) = some (n % 16) := value_digit (Nat.mod_lt _ (by omega))
    have hn : n / 16 % 16 ^ width * 16 + n % 16 = n % 16 ^ (width + 1) := by
      rw [Nat.pow_succ', Nat.mod_mul]
      omega
    simp only [read] at ih
    simp [digits, read, List.foldlM_append, ih, hd, hn]

end Hex

namespace Uuid

def nil : Uuid := 0

def hyphenate (cs : List Char) : List Char :=
  cs.take 8 ++ '-' :: ((cs.drop 8).take 4 ++ '-' :: ((cs.drop 12).take 4 ++ '-' ::
    ((cs.drop 16).take 4 ++ '-' :: cs.drop 20)))

def text (id : Uuid) : String :=
  String.ofList (hyphenate (Hex.digits 32 id.toNat))

-- The 32 digits of a hyphenated or of a simple form.
def unhyphenate (cs : List Char) : Option (List Char) :=
  if cs.length = 32 then
    some cs
  else if cs.length = 36 ∧ cs[8]? = some '-' ∧ cs[13]? = some '-' ∧ cs[18]? = some '-'
      ∧ cs[23]? = some '-' then
    some (cs.take 8 ++ ((cs.drop 9).take 4 ++ ((cs.drop 14).take 4 ++ ((cs.drop 19).take 4
      ++ cs.drop 24))))
  else
    none

-- The text inside braces or after `urn:uuid:`.
def unwrap (cs : List Char) : List Char :=
  if cs.length = 38 ∧ cs.head? = some '{' ∧ cs.getLast? = some '}' then
    cs.tail.dropLast
  else if "urn:uuid:".toList <+: cs then
    cs.drop 9
  else
    cs

def parse (s : String) : Option Uuid := do
  let cs ← unhyphenate (unwrap s.toList)
  let n ← Hex.read cs
  return BitVec.ofNat 128 n

theorem length_hyphenate {cs : List Char} (h : cs.length = 32) : (hyphenate cs).length = 36 := by
  simp [hyphenate, h]

theorem unhyphenate_hyphenate {cs : List Char} (h : cs.length = 32)
    : unhyphenate (hyphenate cs) = some cs := by
  -- The hyphens cut the digits into blocks of known lengths.
  obtain ⟨a, b, c, d, e, rfl, ha, hb, hc, hd⟩ : ∃ a b c d e : List Char,
      cs = a ++ (b ++ (c ++ (d ++ e))) ∧ a.length = 8 ∧ b.length = 4 ∧ c.length = 4
        ∧ d.length = 4 := by
    refine ⟨cs.take 8, (cs.drop 8).take 4, (cs.drop 12).take 4, (cs.drop 16).take 4, cs.drop 20,
      ?_, ?_, ?_, ?_, ?_⟩
    . have h1 := List.take_append_drop 8 cs
      have h2 := List.take_append_drop 4 (cs.drop 8)
      have h3 := List.take_append_drop 4 (cs.drop 12)
      have h4 := List.take_append_drop 4 (cs.drop 16)
      simp only [List.drop_drop, Nat.reduceAdd] at h2 h3 h4
      rw [h4, h3, h2, h1]
    all_goals simp [h]
  have hl := length_hyphenate h
  have hform : hyphenate (a ++ (b ++ (c ++ (d ++ e))))
      = a ++ '-' :: (b ++ '-' :: (c ++ '-' :: (d ++ '-' :: e))) := by
    simp (disch := omega) [hyphenate, List.drop_append, List.drop_of_length_le, ha, hb, hc]
  rw [hform] at hl ⊢
  unfold unhyphenate
  rw [if_neg (by omega), if_pos]
  . simp (disch := omega) [List.drop_append, List.drop_of_length_le, ha, hb, hc, hd]
  . refine ⟨hl, ?_, ?_, ?_, ?_⟩
    all_goals simp [List.getElem?_append, ha, hb, hc, hd]

theorem unwrap_of_length {cs : List Char} (h : cs.length = 36) (hu : cs.head? ≠ some 'u')
    : unwrap cs = cs := by
  unfold unwrap
  rw [if_neg (by omega), if_neg]
  intro hp
  rcases hp with ⟨rest, hrest⟩
  apply hu
  rw [← hrest]
  rfl

theorem forall_digits {P : Char → Prop} (h : ∀ d : Fin 16, P (Hex.digit d)) (width n : Nat)
    : ∀ c ∈ Hex.digits width n, P c := by
  induction width generalizing n with
  | zero => simp [Hex.digits]
  | succ width ih =>
    intro c hc
    rcases List.mem_append.mp hc with hc | hc
    . exact ih _ c hc
    . rw [List.mem_singleton.mp hc]
      exact h ⟨n % 16, Nat.mod_lt _ (by omega)⟩

theorem digits_ne_u (width n : Nat) : ∀ c ∈ Hex.digits width n, c ≠ 'u' :=
  forall_digits (by decide) width n

theorem forall_hyphenate {P : Char → Prop} {cs : List Char} (h : ∀ c ∈ cs, P c) (hyphen : P '-')
    : ∀ c ∈ hyphenate cs, P c := by
  intro c hc
  simp only [hyphenate, List.mem_append, List.mem_cons] at hc
  rcases hc with hc | rfl | hc | rfl | hc | rfl | hc | rfl | hc
  . exact h c (List.mem_of_mem_take hc)
  . exact hyphen
  . exact h c (List.mem_of_mem_drop (List.mem_of_mem_take hc))
  . exact hyphen
  . exact h c (List.mem_of_mem_drop (List.mem_of_mem_take hc))
  . exact hyphen
  . exact h c (List.mem_of_mem_drop (List.mem_of_mem_take hc))
  . exact hyphen
  . exact h c (List.mem_of_mem_drop hc)

/--
What holds of the hexadecimal digits and of the hyphen holds of every character of the text.
-/
theorem forall_text {P : Char → Prop} (h : ∀ d : Fin 16, P (Hex.digit d)) (hyphen : P '-') (id : Uuid)
    : ∀ c ∈ id.text.toList, P c := by
  rw [text, String.toList_ofList]
  exact forall_hyphenate (forall_digits h 32 id.toNat) hyphen

theorem length_text (id : Uuid) : id.text.toList.length = 36 := by
  rw [text, String.toList_ofList]
  exact length_hyphenate (Hex.length_digits ..)

theorem parse_text (id : Uuid) : parse (text id) = some id := by
  have hl : (Hex.digits 32 id.toNat).length = 32 := Hex.length_digits ..
  have hu : (hyphenate (Hex.digits 32 id.toNat)).head? ≠ some 'u' := by
    intro h
    have hh : (Hex.digits 32 id.toNat).head? = some 'u' := by
      cases hd : Hex.digits 32 id.toNat with
      | nil => simp [hd] at hl
      | cons c cs => simpa [hyphenate, hd] using h
    exact digits_ne_u 32 id.toNat 'u' (List.mem_of_head? hh) rfl
  have hlt : id.toNat < 16 ^ 32 := id.isLt
  have hread : BitVec.ofNat 128 (id.toNat % 16 ^ 32) = id := by
    rw [Nat.mod_eq_of_lt hlt]
    exact (BitVec.ofNat_toNat 128 id).trans (BitVec.setWidth_eq id)
  simp only [parse, text, String.toList_ofList, unwrap_of_length (length_hyphenate hl) hu,
    unhyphenate_hyphenate hl, Option.bind_eq_bind, Option.bind_some, Hex.read_digits, hread]
  rfl

theorem text_injective : Function.Injective text := by
  intro a b h
  have : parse (text a) = parse (text b) := by rw [h]
  simpa [parse_text] using this

example : text 0x0123456789abcdef0123456789abcdef#128 = "01234567-89ab-cdef-0123-456789abcdef" := by
  decide

end Uuid

end Vantyr
