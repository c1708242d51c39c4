import Mathlib.Algebra.Ring.Nat
import Mathlib.Data.List.Basic
import Mathlib.Tactic.Common

/-!
This module contains decimal numbers of a fixed width, with zeros in front. The main result is that they
sort as texts the way they sort as numbers.
-/

namespace Vantyr

namespace Decimal

def digits : (width : Nat) → Nat → List Char
  | 0, _ => []
  | width + 1, n => digits width (n / 10) ++ [Nat.digitChar (n % 10)]

@[simp]
theorem length_digits (width n : Nat) : (digits width n).length = width := by
  induction width generalizing n with
  | zero => rfl
  | succ width ih => simp [digits, ih]

theorem digits_zero (width : Nat) : digits width 0 = List.replicate width '0' := by
  induction width with
  | zero => rfl
  | succ width ih =>
    rw [digits, Nat.zero_div, ih, List.replicate_succ']
    rfl

-- What is written with fewer digits is padded with zeros.
theorem replicate_append_toDigits {width n : Nat} (hwidth : 0 < width) (h : n < 10 ^ width)
    : List.replicate (width - (Nat.toDigits 10 n).length) '0' ++ Nat.toDigits 10 n = digits width n := by
  induction width generalizing n with
  | zero => exact absurd hwidth (by decide)
  | succ width ih =>
    by_cases hn : n < 10
    . rw [Nat.toDigits_of_lt_base hn, digits, Nat.div_eq_of_lt hn, digits_zero, Nat.mod_eq_of_lt hn]
      rfl
    . have hn : 10 ≤ n := Nat.le_of_not_lt hn
      have hdiv : n / 10 < 10 ^ width := by
        rw [Nat.pow_succ] at h
        omega
      have hwidth : 0 < width := by
        apply Nat.pos_of_ne_zero
        intro hzero
        rw [hzero] at hdiv
        omega
      rw [Nat.toDigits_eq_if (by decide), if_neg (Nat.not_lt.mpr hn), digits, ← ih hwidth hdiv,
        List.length_append, List.length_singleton, Nat.add_sub_add_right, List.append_assoc]

theorem append_lt_append {xs ys : List Char} (hlength : xs.length = ys.length) (h : xs < ys)
    (as bs : List Char) : xs ++ as < ys ++ bs := by
  induction xs generalizing ys with
  | nil =>
    cases ys with
    | nil => exact absurd h (List.lt_irrefl _)
    | cons y ys => cases hlength
  | cons x xs ih =>
    cases ys with
    | nil => cases hlength
    | cons y ys =>
      rw [List.cons_append, List.cons_append, List.cons_lt_cons_iff]
      rcases List.cons_lt_cons_iff.mp h with hxy | ⟨heq, hrest⟩
      . exact .inl hxy
      . exact .inr ⟨heq, ih (by simpa using hlength) hrest⟩

theorem digitChar_lt {m n : Nat} (h : m < n) (hn : n < 10) : Nat.digitChar m < Nat.digitChar n := by
  revert h
  have hm : ∀ n < 10, ∀ m < n, Nat.digitChar m < Nat.digitChar n := by decide
  exact fun h => hm n hn m h

theorem digits_lt {width m n : Nat} (h : m < n) (hn : n < 10 ^ width) : digits width m < digits width n := by
  induction width generalizing m n with
  | zero =>
    rw [Nat.pow_zero] at hn
    omega
  | succ width ih =>
    rw [digits, digits]
    have hdiv : n / 10 < 10 ^ width := by
      rw [Nat.pow_succ] at hn
      omega
    by_cases heq : m / 10 = n / 10
    . rw [heq]
      apply List.append_left_lt
      rw [List.cons_lt_cons_iff]
      exact .inl (digitChar_lt (by omega) (by omega))
    . exact append_lt_append (by simp) (ih (by omega) hdiv) _ _

end Decimal

end Vantyr
