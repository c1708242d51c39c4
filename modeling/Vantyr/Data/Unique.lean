import Mathlib.Data.List.Nodup
import Mathlib.Data.List.Perm.Subperm

/-!
This module contains when a table has at most one row of a kind, and what becomes of items of which every row
shows some.
-/

namespace Vantyr

namespace Unique

variable {α β : Type}

theorem filter_length_le_one {p : α → Bool} {rows : List α}
    (h : rows.Pairwise (fun a b => p a = true → p b = false)) : (rows.filter p).length ≤ 1 := by
  induction rows with
  | nil => exact Nat.zero_le _
  | cons a rows ih =>
    rcases List.pairwise_cons.mp h with ⟨hlater, hrest⟩
    rw [List.filter_cons]
    split
    . next hp =>
      rw [List.filter_eq_nil_iff.mpr (fun b hb => by simp [hlater b hb hp])]
      exact Nat.le_refl _
    . exact ih hrest

section

variable [DecidableEq β] (shown : α → β → Bool) (rows : List α) (items : List β)

theorem count_flatMap_filter (b : β)
    : (rows.flatMap (fun a => items.filter (shown a))).count b
      = (rows.filter (fun a => shown a b)).length * items.count b := by
  induction rows with
  | nil => exact (Nat.zero_mul _).symm
  | cons a rows ih =>
    rw [List.flatMap_cons, List.count_append, ih, List.filter_cons]
    split
    . next hshown => rw [List.count_filter hshown, List.length_cons, Nat.succ_mul, Nat.add_comm]
    . next hshown =>
      have hnone : (items.filter (shown a)).count b = 0 :=
        List.count_eq_zero.mpr (fun h => hshown (List.mem_filter.mp h).2)
      rw [hnone, Nat.zero_add]

theorem flatMap_filter_subperm_iff
    : (rows.flatMap (fun a => items.filter (shown a))).Subperm items
      ↔ ∀ b ∈ items, (rows.filter (fun a => shown a b)).length ≤ 1 := by
  constructor
  . intro h b hb
    have hcount := h.count_le b
    rw [count_flatMap_filter] at hcount
    have hpos : 0 < items.count b := List.count_pos_iff.mpr hb
    by_contra hmore
    have : 2 * items.count b ≤ (rows.filter (fun a => shown a b)).length * items.count b :=
      Nat.mul_le_mul_right _ (by omega)
    omega
  . intro h
    rw [List.subperm_ext_iff]
    intro b hb
    rcases List.mem_flatMap.mp hb with ⟨_, _, hfilter⟩
    rw [count_flatMap_filter]
    have := Nat.mul_le_mul_right (items.count b) (h b (List.mem_filter.mp hfilter).1)
    omega

-- Items of which every one has its place lose nothing.
theorem flatMap_places_perm (place : β → Option Nat) {n : Nat}
    (h : ∀ b ∈ items, ∃ i < n, place b = some i)
    : ((List.range n).flatMap (fun i => items.filter (fun b => place b = some i))).Perm items := by
  rw [List.perm_iff_count]
  intro b
  rw [count_flatMap_filter (fun i b => decide (place b = some i))]
  by_cases hb : b ∈ items
  . rcases h b hb with ⟨i, hi, hplace⟩
    have hone : ((List.range n).filter (fun j => decide (place b = some j))).length = 1 := by
      have hcount := List.count_eq_one_of_mem List.nodup_range (List.mem_range.mpr hi)
      rw [← hcount, List.count, List.countP_eq_length_filter]
      congr 2
      funext j
      rw [hplace, Bool.eq_iff_iff, decide_eq_true_eq, beq_iff_eq, Option.some.injEq]
      exact eq_comm
    rw [hone, Nat.one_mul]
  . rw [List.count_eq_zero.mpr hb, Nat.mul_zero]

end

end Unique

end Vantyr
