import Mathlib.Data.List.Nodup

/-!
This module contains the assignment of a key to one of several groups, where the groups are settled one
after the other: a group gives up its key if it does not want it, and takes the key if it wants it and the
key is free. A group never takes the key from another one. The main result is what a key is assigned to
after all groups, `foldl_settle`.
-/

namespace Vantyr

namespace Rollup

variable {γ : Type} [DecidableEq γ]

-- The group that holds the key after `g` was settled.
def settle (want held : Option γ) (g : γ) : Option γ :=
  if held = none ∨ held = some g then
    if want = some g then some g else none
  else
    held

variable {want : Option γ} {groups : List γ}

theorem settle_other {g i : γ} (h : i ≠ g) : settle want (some i) g = some i := by
  unfold settle
  rw [if_neg]
  simp [h]

-- A key that no group to come holds is left alone.
theorem foldl_settle_other {i : γ} (h : i ∉ groups) : groups.foldl (settle want) (some i) = some i := by
  induction groups with
  | nil => rfl
  | cons g groups ih =>
    rw [List.mem_cons, not_or] at h
    rw [List.foldl_cons, settle_other h.1]
    exact ih h.2

-- A free key gets to the group that wants it.
theorem foldl_settle_free (hnodup : groups.Nodup)
    : groups.foldl (settle want) none = want.filter (fun g => g ∈ groups) := by
  induction groups with
  | nil => cases want <;> rfl
  | cons g groups ih =>
    rw [List.nodup_cons] at hnodup
    have hfirst : settle want none g = if want = some g then some g else none := if_pos (Or.inl rfl)
    rw [List.foldl_cons, hfirst]
    split
    . next hwant =>
      rw [foldl_settle_other hnodup.1, hwant, Option.filter_some, if_pos]
      simp
    . next hwant =>
      rw [ih hnodup.2]
      cases want with
      | none => rfl
      | some j =>
        have hne : j ≠ g := fun heq => hwant (congrArg some heq)
        simp [Option.filter_some, hne]

/--
A key that a group holds stays there if the group wants it, and otherwise gets to the group that wants it if
this one is settled later.
-/
theorem foldl_settle_held {i : γ} {before after : List γ} (hnodup : (before ++ i :: after).Nodup)
    : (before ++ i :: after).foldl (settle want) (some i)
        = if want = some i then some i else want.filter (fun g => g ∈ after) := by
  have hsplit := List.nodup_append.mp hnodup
  have hbefore : i ∉ before := fun hmem => hsplit.2.2 i hmem i List.mem_cons_self rfl
  have hafter := List.nodup_cons.mp hsplit.2.1
  have hself : settle want (some i) i = if want = some i then some i else none := if_pos (Or.inr rfl)
  rw [List.foldl_append, foldl_settle_other hbefore, List.foldl_cons, hself]
  split
  . exact foldl_settle_other hafter.1
  . exact foldl_settle_free hafter.2

-- The group that wants the key is settled before the one that holds it.
def Overtaken (groups : List γ) (want held : Option γ) : Prop :=
  ∃ i j, held = some i ∧ want = some j ∧ groups.idxOf j < groups.idxOf i

theorem filter_mem (hwant : ∀ j ∈ want, j ∈ groups) : want.filter (fun g => g ∈ groups) = want := by
  cases want with
  | none => rfl
  | some j => rw [Option.filter_some, if_pos (decide_eq_true (hwant j rfl))]

/--
Every key gets to the group that wants it, unless this one is settled before the group that holds the key.
Then it gets to none.
-/
theorem foldl_settle (hnodup : groups.Nodup) {held : Option γ} (hheld : ∀ i ∈ held, i ∈ groups)
    (hwant : ∀ j ∈ want, j ∈ groups)
    : (¬Overtaken groups want held → groups.foldl (settle want) held = want)
      ∧ (Overtaken groups want held → groups.foldl (settle want) held = none) := by
  cases held with
  | none =>
    refine ⟨fun _ => (foldl_settle_free hnodup).trans (filter_mem hwant), ?_⟩
    rintro ⟨i, j, hnone, _⟩
    cases hnone
  | some i =>
    rcases List.mem_iff_append.mp (hheld i rfl) with ⟨before, after, rfl⟩
    have hapart := (List.nodup_append.mp hnodup).2.2
    have hbefore : i ∉ before := fun hmem => hapart i hmem i List.mem_cons_self rfl
    have hindex : (before ++ i :: after).idxOf i = before.length := by
      rw [List.idxOf_append_of_notMem hbefore, List.idxOf_cons_self]
      rfl
    rw [foldl_settle_held hnodup]
    cases want with
    | none =>
      refine ⟨fun _ => rfl, ?_⟩
      rintro ⟨i', j, _, hnone, _⟩
      cases hnone
    | some j =>
      by_cases hsame : j = i
      . subst hsame
        refine ⟨fun _ => if_pos rfl, ?_⟩
        rintro ⟨i', j', hi, hj, hlt⟩
        cases hi
        cases hj
        exact absurd hlt (Nat.lt_irrefl _)
      . have hne : some j ≠ some i := fun heq => hsame (Option.some.inj heq)
        rw [if_neg hne, Option.filter_some]
        by_cases hmem : j ∈ before
        . have hlate : j ∉ after := fun hafter => hapart j hmem j (List.mem_cons_of_mem _ hafter) rfl
          have hlt := List.idxOf_lt_length_of_mem hmem
          rw [if_neg (by rwa [decide_eq_true_iff])]
          refine ⟨fun hnot => absurd ⟨i, j, rfl, rfl, ?_⟩ hnot, fun _ => rfl⟩
          rwa [hindex, List.idxOf_append_of_mem hmem]
        . have hafter : j ∈ after := by
            rcases List.mem_append.mp (hwant j rfl) with hbefore | hcons
            . exact absurd hbefore hmem
            . exact (List.mem_cons.mp hcons).resolve_left hsame
          rw [if_pos (decide_eq_true hafter)]
          refine ⟨fun _ => rfl, ?_⟩
          rintro ⟨i', j', hi, hj, hlt⟩
          cases hi
          cases hj
          rw [hindex, List.idxOf_append_of_notMem hmem] at hlt
          omega

-- A group that neither holds the key nor wants it makes no difference.
theorem foldl_settle_filter {p : γ → Bool} {held : Option γ} (hheld : ∀ i ∈ held, p i = true)
    (hwant : ∀ j ∈ want, p j = true)
    : groups.foldl (settle want) held = (groups.filter p).foldl (settle want) held := by
  induction groups generalizing held with
  | nil => rfl
  | cons g groups ih =>
    rw [List.foldl_cons, List.filter_cons]
    split
    . next hg =>
      rw [List.foldl_cons]
      apply ih
      intro i hi
      unfold settle at hi
      split at hi
      . split at hi
        . rw [← Option.some.inj hi]
          exact hg
        . cases hi
      . exact hheld i hi
    . next hg =>
      have hidle : settle want held g = held := by
        unfold settle
        split
        . next hfree =>
          rcases hfree with rfl | rfl
          . exact if_neg (fun heq => hg (hwant g heq))
          . exact absurd (hheld g rfl) hg
        . rfl
      rw [hidle]
      exact ih hheld

end Rollup

end Vantyr
