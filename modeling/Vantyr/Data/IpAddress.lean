import Mathlib.Data.List.DropRight
import Vantyr.Data.Text

/-!
This module contains IP addresses, and how the standard library of Rust reads and writes them. A text is
the list of its characters here.
-/

namespace Vantyr

inductive IpAddr where
  | v4 (addr : BitVec 32)
  | v6 (addr : BitVec 128)
  deriving DecidableEq, Repr

structure SocketAddr where
  ip : IpAddr
  port : Nat
  deriving DecidableEq, Repr

namespace IpAddr

def isIpv4 : IpAddr → Bool
  | .v4 _ => true
  | .v6 _ => false

-- The parts of `width` bits, the first one of them the most significant.
def parts (width count addr : Nat) : List Nat :=
  (List.range count).map (fun i => addr / 2 ^ (width * (count - 1 - i)) % 2 ^ width)

def ofParts (width : Nat) (parts : List Nat) : Nat :=
  parts.foldl (fun addr part => addr * 2 ^ width + part) 0

def octets (addr : BitVec 32) : List Nat :=
  parts 8 4 addr.toNat

def segments (addr : BitVec 128) : List Nat :=
  parts 16 8 addr.toNat

section Parser

def toDigit (radix : Nat) (c : Char) : Option Nat :=
  let digit :=
    if '0' ≤ c ∧ c ≤ '9' then some (c.toNat - 48)
    else if 'a' ≤ c ∧ c ≤ 'z' then some (c.toNat - 87)
    else if 'A' ≤ c ∧ c ≤ 'Z' then some (c.toNat - 55)
    else none
  digit.filter (· < radix)

def readGivenChar (given : Char) : List Char → Option (List Char)
  | c :: rest => if c = given then some rest else none
  | [] => none

def readSeparator (sep : Char) (index : Nat) (input : List Char) : Option (List Char) :=
  if 0 < index then readGivenChar sep input else some input

def readNumber (radix maxDigits : Nat) (allowZeroPrefix : Bool) (max : Nat) (input : List Char)
    : Option (Nat × List Char) :=
  let isDigit := fun c => (toDigit radix c).isSome
  let digits := input.takeWhile isDigit
  let number := (digits.filterMap (toDigit radix)).foldl (fun n digit => n * radix + digit) 0
  if digits.length = 0 ∨ maxDigits < digits.length then
    none
  else if !allowZeroPrefix ∧ digits.head? = some '0' ∧ 1 < digits.length then
    none
  else if max < number then
    none
  else
    some (number, input.dropWhile isDigit)

-- `count` octets are left, of which the first one is at `index`.
def readOctets : (count index : Nat) → List Char → Option (List Nat × List Char)
  | 0, _, input => some ([], input)
  | count + 1, index, input => do
    let (octet, rest) ← readNumber 10 3 false 255 (← readSeparator '.' index input)
    let (octets, rest) ← readOctets count (index + 1) rest
    some (octet :: octets, rest)

def readIpv4Addr (input : List Char) : Option (BitVec 32 × List Char) := do
  let (octets, rest) ← readOctets 4 0 input
  some (BitVec.ofNat 32 (ofParts 8 octets), rest)

-- `count` groups are left, of which the first one is at `index`. Besides the groups that were read, the
-- answer says whether they end in an address in the notation of version 4.
def readGroups : (count index : Nat) → List Char → List Nat × Bool × List Char
  | 0, _, input => ([], false, input)
  | count + 1, index, input =>
    let embedded :=
      if 0 < count then (readSeparator ':' index input).bind readIpv4Addr else none
    match embedded with
    | some (addr, rest) => (parts 16 2 addr.toNat, true, rest)
    | none =>
      match (readSeparator ':' index input).bind (readNumber 16 4 true 65535) with
      | none => ([], false, input)
      | some (group, rest) =>
        let (groups, embedded, rest) := readGroups count (index + 1) rest
        (group :: groups, embedded, rest)

def readIpv6Addr (input : List Char) : Option (BitVec 128 × List Char) :=
  let (head, embedded, rest) := readGroups 8 0 input
  if head.length = 8 then
    some (BitVec.ofNat 128 (ofParts 16 head), rest)
  else if embedded then
    none
  else do
    let rest ← readGivenChar ':' rest
    let rest ← readGivenChar ':' rest
    let (tail, _, rest) := readGroups (8 - (head.length + 1)) 0 rest
    let zeros := List.replicate (8 - head.length - tail.length) 0
    some (BitVec.ofNat 128 (ofParts 16 (head ++ zeros ++ tail)), rest)

def readIpAddr (input : List Char) : Option (IpAddr × List Char) :=
  match readIpv4Addr input with
  | some (addr, rest) => some (.v4 addr, rest)
  | none => (readIpv6Addr input).map (fun (addr, rest) => (.v6 addr, rest))

def parse (input : List Char) : Option IpAddr :=
  match readIpAddr input with
  | some (addr, []) => some addr
  | _ => none

end Parser

section Display

def displayIpv4 (addr : BitVec 32) : List Char :=
  ['.'].intercalate ((octets addr).map (Nat.toDigits 10))

def displaySegments (segments : List Nat) : List Char :=
  [':'].intercalate (segments.map (Nat.toDigits 16))

-- The segments from `start` on that are zero.
def zeroRun (segments : List Nat) (start : Nat) : Nat :=
  ((segments.drop start).takeWhile (· = 0)).length

-- The first one of the longest runs of zeros, as its start and its length.
def longestZeroRun (segments : List Nat) : Nat × Nat :=
  (List.range segments.length).foldl
    (fun longest start =>
      if longest.2 < zeroRun segments start then (start, zeroRun segments start) else longest)
    (0, 0)

def displayIpv6 (addr : BitVec 128) : List Char :=
  let segments := segments addr
  let (start, length) := longestZeroRun segments
  if segments.take 6 = [0, 0, 0, 0, 0, 0xffff] then
    [':', ':', 'f', 'f', 'f', 'f', ':'] ++ displayIpv4 (addr.truncate 32)
  else if 1 < length then
    displaySegments (segments.take start) ++ [':', ':']
      ++ displaySegments (segments.drop (start + length))
  else
    displaySegments segments

def display : IpAddr → List Char
  | .v4 addr => displayIpv4 addr
  | .v6 addr => displayIpv6 addr

-- The characters that an address is written with.
def isDisplayed (c : Char) : Bool :=
  c ∈ ['0', '1', '2', '3', '4', '5', '6', '7', '8', '9', 'a', 'b', 'c', 'd', 'e', 'f', '.', ':']

theorem isDisplayed_digitChar {n : Nat} (h : n < 16) : isDisplayed n.digitChar = true := by
  have : ∀ m : Fin 16, isDisplayed m.val.digitChar = true := by decide
  exact this ⟨n, h⟩

theorem isDisplayed_toDigits {b n : Nat} (hb : 1 < b) (hb' : b ≤ 16)
    : ∀ c ∈ Nat.toDigits b n, isDisplayed c = true := by
  induction n using Nat.base_induction b hb with
  | single m hm =>
    intro c hc
    rw [Nat.toDigits_of_lt_base hm, List.mem_singleton] at hc
    rw [hc]
    apply isDisplayed_digitChar
    omega
  | digit m k hk hm ih =>
    intro c hc
    rw [← Nat.toDigits_append_toDigits hb hm hk, List.mem_append] at hc
    rcases hc with hc | hc
    . exact ih c hc
    . rw [Nat.toDigits_of_lt_base hk, List.mem_singleton] at hc
      rw [hc]
      apply isDisplayed_digitChar
      omega

theorem isDisplayed_intercalate {sep : Char} (hsep : isDisplayed sep = true) (texts : List (List Char))
    (h : ∀ text ∈ texts, ∀ c ∈ text, isDisplayed c = true)
    : ∀ c ∈ [sep].intercalate texts, isDisplayed c = true := by
  induction texts with
  | nil => simp
  | cons text texts ih =>
    rw [List.forall_mem_cons] at h
    by_cases hnil : texts = []
    . rw [hnil, List.intercalate_singleton]
      exact h.1
    . rw [List.intercalate_cons_of_ne_nil hnil, List.forall_mem_append, List.forall_mem_append]
      exact ⟨⟨h.1, by simpa using hsep⟩, ih h.2⟩

theorem isDisplayed_numbers {sep : Char} (hsep : isDisplayed sep = true) {radix : Nat}
    (hradix : 1 < radix) (hradix' : radix ≤ 16) (numbers : List Nat)
    : ∀ c ∈ [sep].intercalate (numbers.map (Nat.toDigits radix)), isDisplayed c = true := by
  apply isDisplayed_intercalate hsep
  intro text htext
  rw [List.mem_map] at htext
  rcases htext with ⟨n, -, rfl⟩
  exact isDisplayed_toDigits hradix hradix'

theorem isDisplayed_displayIpv4 (addr : BitVec 32) : ∀ c ∈ displayIpv4 addr, isDisplayed c = true :=
  isDisplayed_numbers rfl (by omega) (by omega) _

theorem isDisplayed_displaySegments (segments : List Nat)
    : ∀ c ∈ displaySegments segments, isDisplayed c = true :=
  isDisplayed_numbers rfl (by omega) (by omega) _

theorem isDisplayed_display (ip : IpAddr) : ∀ c ∈ ip.display, isDisplayed c = true := by
  cases ip with
  | v4 addr => exact isDisplayed_displayIpv4 addr
  | v6 addr =>
    simp only [display, displayIpv6]
    split
    . rw [List.forall_mem_append]
      exact ⟨List.all_eq_true.mp rfl, isDisplayed_displayIpv4 _⟩
    . split
      . rw [List.forall_mem_append, List.forall_mem_append]
        exact ⟨⟨isDisplayed_displaySegments _, List.all_eq_true.mp rfl⟩,
          isDisplayed_displaySegments _⟩
      . exact isDisplayed_displaySegments _

end Display

end IpAddr

end Vantyr
