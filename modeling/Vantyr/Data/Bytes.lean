import Mathlib.Algebra.Ring.Nat
import Mathlib.Data.List.Basic
import Mathlib.Tactic.Common

/-!
This module contains what formats with lengths in them need of byte strings: `slice?`, which takes a
range only if all of it is there, and 32 bit numbers with their lowest byte first.
-/

namespace Vantyr

namespace Bytes

def slice? (bytes : List UInt8) (start stop : Nat) : Option (List UInt8) :=
  if start ≤ stop ∧ stop ≤ bytes.length then
    some ((bytes.take stop).drop start)
  else
    none

-- Of a number that takes more than 32 bits only the lowest ones are written.
def u32le (n : Nat) : List UInt8 :=
  [UInt8.ofNat n, UInt8.ofNat (n / 2 ^ 8), UInt8.ofNat (n / 2 ^ 16), UInt8.ofNat (n / 2 ^ 24)]

def readU32le : List UInt8 → Option Nat
  | [a, b, c, d] => some (a.toNat + 2 ^ 8 * b.toNat + 2 ^ 16 * c.toNat + 2 ^ 24 * d.toNat)
  | _ => none

@[simp]
theorem length_u32le (n : Nat) : (u32le n).length = 4 := rfl

theorem readU32le_u32le (n : Nat) : readU32le (u32le n) = some (n % 2 ^ 32) := by
  simp only [readU32le, u32le, UInt8.toNat_ofNat', Option.some.injEq]
  omega

theorem slice?_eq_some {bytes part : List UInt8} {start stop : Nat}
    : slice? bytes start stop = some part ↔
        ∃ before after, bytes = before ++ (part ++ after) ∧ before.length = start
          ∧ (before ++ part).length = stop := by
  unfold slice?
  constructor
  . intro h
    split at h
    . next hle =>
      rw [Option.some.injEq] at h
      refine ⟨bytes.take start, bytes.drop stop, ?_, ?_, ?_⟩
      . have hstart : bytes.take start = (bytes.take stop).take start := by
          rw [List.take_take, Nat.min_eq_left hle.1]
        rw [← List.append_assoc, ← h, hstart, List.take_append_drop, List.take_append_drop]
      . simp only [List.length_take]
        omega
      . simp only [← h, List.length_append, List.length_take, List.length_drop]
        omega
    . cases h
  . intro h
    rcases h with ⟨before, after, rfl, hbefore, hpart⟩
    have hstop : before.length ≤ stop := by
      rw [← hpart, List.length_append]
      omega
    rw [if_pos]
    . rw [← List.append_assoc, ← hpart, List.take_left', ← hbefore, List.drop_left']
      . rfl
      . rfl
    . simp only [List.length_append] at hpart ⊢
      omega

theorem slice?_append (before part after : List UInt8)
    : slice? (before ++ (part ++ after)) before.length (before.length + part.length)
        = some part := by
  rw [slice?_eq_some]
  exact ⟨before, after, rfl, rfl, List.length_append⟩

-- The rest of a byte string.
theorem slice?_rest (before after : List UInt8)
    : slice? (before ++ after) before.length (before ++ after).length = some after := by
  rw [slice?_eq_some]
  exact ⟨before, [], by simp, rfl, rfl⟩

theorem length_slice? {bytes part : List UInt8} {start stop : Nat}
    (h : slice? bytes start stop = some part) : start + part.length = stop := by
  rcases slice?_eq_some.mp h with ⟨before, after, _, hstart, hstop⟩
  rw [← hstop, ← hstart, List.length_append]

/-!
A magic of four bytes, the length of a header, the header and a body.
-/

def frame (magic header body : List UInt8) : List UInt8 :=
  magic ++ (u32le header.length ++ (header ++ body))

section Frames

variable {magic : List UInt8} (hmagic : magic.length = 4)

include hmagic

theorem readU32le_frame {header : List UInt8} (hheader : header.length < 2 ^ 32) (body : List UInt8)
    : (slice? (frame magic header body) 4 8).bind readU32le = some header.length := by
  have hslice := slice?_append magic (u32le header.length) (header ++ body)
  rw [hmagic, length_u32le] at hslice
  rw [frame, hslice, Option.bind_some, readU32le_u32le, Nat.mod_eq_of_lt hheader]

theorem header_frame (header body : List UInt8)
    : slice? (frame magic header body) 8 (8 + header.length) = some header := by
  have hslice := slice?_append (magic ++ u32le header.length) header body
  rw [List.append_assoc, List.length_append, hmagic, length_u32le] at hslice
  exact hslice

theorem body_frame (header body : List UInt8)
    : slice? (frame magic header body) (8 + header.length) (frame magic header body).length
        = some body := by
  have hslice := slice?_rest (magic ++ (u32le header.length ++ header)) body
  have hframe : magic ++ (u32le header.length ++ header) ++ body = frame magic header body := by
    simp [frame]
  have hlen : (magic ++ (u32le header.length ++ header)).length = 8 + header.length := by
    simp only [List.length_append, hmagic, length_u32le]
    omega
  rw [hframe, hlen] at hslice
  exact hslice

theorem length_frame (header body : List UInt8)
    : (frame magic header body).length = 8 + header.length + body.length := by
  simp only [frame, List.length_append, hmagic, length_u32le]
  omega

theorem frame_inj {h h' b b' : List UInt8} (hh : h.length < 2 ^ 32) (hh' : h'.length < 2 ^ 32)
    (heq : frame magic h b = frame magic h' b') : h = h' ∧ b = b' := by
  have hlen : h.length = h'.length := by
    have hread := readU32le_frame hmagic hh b
    rw [heq, readU32le_frame hmagic hh' b'] at hread
    exact (Option.some.inj hread).symm
  unfold frame at heq
  rw [hlen] at heq
  exact List.append_inj (List.append_cancel_left (List.append_cancel_left heq)) hlen

end Frames

-- Every number that was read from four bytes is written as them.
theorem u32le_readU32le {bytes : List UInt8} {n : Nat} (h : readU32le bytes = some n)
    : u32le n = bytes := by
  unfold readU32le at h
  split at h
  . next a b c d =>
    rw [Option.some.injEq] at h
    have ha := a.toNat_lt
    have hb := b.toNat_lt
    have hc := c.toNat_lt
    have hd := d.toNat_lt
    simp only [u32le, List.cons.injEq, and_true]
    refine ⟨?_, ?_, ?_, ?_⟩
    all_goals
      apply UInt8.toNat_inj.mp
      rw [UInt8.toNat_ofNat']
      omega
  . cases h

/--
Whatever the lengths in a byte string say, if all of its parts are there it is a frame of them.
-/
theorem eq_frame {bytes header body : List UInt8} {n : Nat}
    (hlen : (slice? bytes 4 8).bind readU32le = some n) (hheader : slice? bytes 8 (8 + n) = some header)
    (hbody : slice? bytes (8 + n) bytes.length = some body)
    : bytes = frame (bytes.take 4) header body := by
  rcases Option.bind_eq_some_iff.mp hlen with ⟨field, hfield, hn⟩
  have hcount := length_slice? hheader
  unfold slice? at hfield hheader hbody
  split at hfield
  . next hle =>
    split at hheader
    . next hle' =>
      split at hbody
      . next hle'' =>
        rw [Option.some.injEq] at hfield hheader hbody
        have hparts : bytes = bytes.take 4 ++ ((bytes.drop 4).take 4 ++ ((bytes.drop 8).take n
            ++ bytes.drop (8 + n))) := by
          have h1 := List.take_append_drop 4 bytes
          have h2 := List.take_append_drop 4 (bytes.drop 4)
          have h3 := List.take_append_drop n (bytes.drop 8)
          simp only [List.drop_drop, Nat.reduceAdd] at h2 h3
          rw [h3, h2, h1]
        have hfield' : (bytes.drop 4).take 4 = field := by
          rw [← hfield, List.drop_take]
        have hheader' : (bytes.drop 8).take n = header := by
          rw [← hheader, List.drop_take]
          congr 1
          omega
        have hbody' : bytes.drop (8 + n) = body := by
          rw [← hbody, List.take_length]
        have hlength : header.length = n := by omega
        rw [hfield', hheader', hbody', ← u32le_readU32le hn, ← hlength] at hparts
        exact hparts
      . cases hbody
    . cases hheader
  . cases hfield

end Bytes

end Vantyr
