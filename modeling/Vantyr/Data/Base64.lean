import Mathlib.Data.List.Basic
import Mathlib.Tactic.IntervalCases

/-!
This module contains base64 with the standard alphabet and padding: `Base64.encode` as an encoder writes
it, and `Base64.atob` as a browser reads it. The main result is that what was written is read back.
-/

namespace Vantyr

namespace Base64

def digit (n : Nat) : Char :=
  if n < 26 then Char.ofNat (65 + n)
  else if n < 52 then Char.ofNat (71 + n)
  else if n < 62 then Char.ofNat (n - 4)
  else if n = 62 then '+'
  else '/'

def value (c : Char) : Option Nat :=
  if 'A' ≤ c ∧ c ≤ 'Z' then some (c.toNat - 65)
  else if 'a' ≤ c ∧ c ≤ 'z' then some (c.toNat - 71)
  else if '0' ≤ c ∧ c ≤ '9' then some (c.toNat + 4)
  else if c = '+' then some 62
  else if c = '/' then some 63
  else none

-- Three bytes are four groups of six bits. Bits that are missing at the end are zero.
def sextets : List UInt8 → List Nat
  | [] => []
  | [a] => [a.toNat / 4, a.toNat % 4 * 16]
  | [a, b] => [a.toNat / 4, a.toNat % 4 * 16 + b.toNat / 16, b.toNat % 16 * 4]
  | a :: b :: c :: rest =>
    a.toNat / 4 :: (a.toNat % 4 * 16 + b.toNat / 16) :: (b.toNat % 16 * 4 + c.toNat / 64) :: c.toNat % 64
      :: sextets rest

-- The bits that do not make up a byte are dropped.
def bytes : List Nat → List UInt8
  | p :: q :: r :: s :: rest =>
    UInt8.ofNat (p * 4 + q / 16) :: UInt8.ofNat (q % 16 * 16 + r / 4) :: UInt8.ofNat (r % 4 * 64 + s)
      :: bytes rest
  | [p, q, r] => [UInt8.ofNat (p * 4 + q / 16), UInt8.ofNat (q % 16 * 16 + r / 4)]
  | [p, q] => [UInt8.ofNat (p * 4 + q / 16)]
  | _ => []

def padding (length : Nat) : List Char :=
  List.replicate ((3 - length % 3) % 3) '='

def encode (data : List UInt8) : String :=
  String.ofList ((sextets data).map digit ++ padding data.length)

def isAsciiWhitespace (c : Char) : Bool :=
  c = '\t' || c = '\n' || c = '\x0c' || c = '\r' || c = ' '

def dropPad : List Char → List Char
  | '=' :: rest => rest
  | text => text

-- At most two characters of padding.
def dropPadding (text : List Char) : List Char :=
  if text.length % 4 = 0 then (dropPad (dropPad text.reverse)).reverse else text

def atob (text : String) : Option (List UInt8) :=
  let text := dropPadding (text.toList.filter (fun c => !isAsciiWhitespace c))
  if text.length % 4 = 1 then none else (text.mapM value).map bytes

/-!
A digit is read back.
-/

theorem digit_spec {n : Nat} (h : n < 64)
    : value (digit n) = some n ∧ isAsciiWhitespace (digit n) = false ∧ digit n ≠ '=' := by
  have hall : ∀ m : Fin 64, value (digit m) = some m.val ∧ isAsciiWhitespace (digit m) = false
      ∧ digit m ≠ '=' := by
    decide
  exact hall ⟨n, h⟩

theorem sextets_lt (data : List UInt8) : ∀ n ∈ sextets data, n < 64 := by
  induction data using sextets.induct with
  | case1 => simp [sextets]
  | case2 a =>
    have := a.toNat_lt
    simp only [sextets, List.mem_cons, List.not_mem_nil, or_false, forall_eq_or_imp, forall_eq]
    omega
  | case3 a b =>
    have := a.toNat_lt
    have := b.toNat_lt
    simp only [sextets, List.mem_cons, List.not_mem_nil, or_false, forall_eq_or_imp, forall_eq]
    omega
  | case4 a b c rest ih =>
    have := a.toNat_lt
    have := b.toNat_lt
    have := c.toNat_lt
    simp only [sextets, List.mem_cons, forall_eq_or_imp]
    exact ⟨by omega, by omega, by omega, by omega, ih⟩

-- The length of the digits, and how much padding completes it.
theorem length_sextets (data : List UInt8)
    : (sextets data).length % 4 ≠ 1 ∧ ((sextets data).length + (padding data.length).length) % 4 = 0 := by
  rw [padding, List.length_replicate]
  induction data using sextets.induct with
  | case1 => simp [sextets]
  | case2 a => simp [sextets]
  | case3 a b => simp [sextets]
  | case4 a b c rest ih =>
    simp only [sextets, List.length_cons]
    omega

theorem ofNat_eq {a : UInt8} {n : Nat} (h : n = a.toNat) : UInt8.ofNat n = a := by
  rw [h, UInt8.ofNat_toNat]

theorem bytes_sextets (data : List UInt8) : bytes (sextets data) = data := by
  induction data using sextets.induct with
  | case1 => rfl
  | case2 a =>
    simp only [sextets, bytes]
    rw [ofNat_eq (a := a) (by omega)]
  | case3 a b =>
    simp only [sextets, bytes]
    have := b.toNat_lt
    rw [ofNat_eq (a := a) (by omega), ofNat_eq (a := b) (by omega)]
  | case4 a b c rest ih =>
    simp only [sextets, bytes, ih]
    have := b.toNat_lt
    have := c.toNat_lt
    rw [ofNat_eq (a := a) (by omega), ofNat_eq (a := b) (by omega), ofNat_eq (a := c) (by omega)]

theorem mapM_value (ns : List Nat) (h : ∀ n ∈ ns, n < 64) : (ns.map digit).mapM value = some ns := by
  induction ns with
  | nil => rfl
  | cons n ns ih =>
    rw [List.map_cons, List.mapM_cons, (digit_spec (h n List.mem_cons_self)).1,
      ih (fun m hm => h m (List.mem_cons_of_mem _ hm))]
    rfl

theorem dropPad_digits {text : List Char} (hdigits : '=' ∉ text) : dropPad text.reverse = text.reverse := by
  unfold dropPad
  split
  . next rest heq =>
    rw [← List.mem_reverse, heq] at hdigits
    exact absurd List.mem_cons_self hdigits
  . rfl

theorem dropPadding_append {text : List Char} (hdigits : '=' ∉ text) {pad : Nat} (hpad : pad ≤ 2)
    (hlength : (text.length + pad) % 4 = 0) : dropPadding (text ++ List.replicate pad '=') = text := by
  unfold dropPadding
  rw [if_pos (by simpa using hlength), List.reverse_append, List.reverse_replicate]
  suffices h : dropPad (dropPad (List.replicate pad '=' ++ text.reverse)) = text.reverse by
    rw [h, List.reverse_reverse]
  interval_cases pad
  . change dropPad (dropPad text.reverse) = _
    rw [dropPad_digits hdigits, dropPad_digits hdigits]
  . exact dropPad_digits hdigits
  . rfl

/--
What was encoded is decoded again.
-/
theorem atob_encode (data : List UInt8) : atob (encode data) = some data := by
  have hlt := sextets_lt data
  have hlength := length_sextets data
  have hclean : (((sextets data).map digit ++ padding data.length).filter
      (fun c => !isAsciiWhitespace c)) = (sextets data).map digit ++ padding data.length := by
    rw [List.filter_eq_self]
    intro c hc
    rcases List.mem_append.mp hc with hc | hc
    . rcases List.mem_map.mp hc with ⟨n, hn, rfl⟩
      rw [(digit_spec (hlt n hn)).2.1]
      rfl
    . rw [List.eq_of_mem_replicate hc]
      decide
  have hdigits : '=' ∉ (sextets data).map digit := by
    intro hmem
    rcases List.mem_map.mp hmem with ⟨n, hn, heq⟩
    exact (digit_spec (hlt n hn)).2.2 heq
  have hdrop : dropPadding ((sextets data).map digit ++ padding data.length)
      = (sextets data).map digit := by
    apply dropPadding_append hdigits
    . omega
    . rw [padding, List.length_replicate] at hlength
      rw [List.length_map]
      exact hlength.2
  unfold atob encode
  simp only [String.toList_ofList]
  rw [hclean, hdrop, List.length_map, if_neg hlength.1, mapM_value _ hlt, Option.map_some,
    bytes_sextets]

end Base64

end Vantyr
