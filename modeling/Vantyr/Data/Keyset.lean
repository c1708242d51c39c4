import Mathlib.Data.List.Basic

/-!
This module contains keyset pagination over any type of rows: a page is the beginning of the rows
behind a position, and the position of its last row leads to the next page. If the rows are sorted
without ties, following the positions goes through all of them once.
-/

namespace Vantyr

namespace Keyset

structure Page (β κ : Type) where
  items : List β
  next : Option κ

variable {α β κ ε : Type}

-- One row more than the limit was asked for, which only shows that there is a next page.
def page (rows : List α) (limit : Nat) (position : α → κ) (item : α → β) : Page β κ where
  items := (rows.take limit).map item
  next := if limit < rows.length then ((rows.take limit).getLast?).map position else none

/--
The items of all pages from a position on, each one requested with the `next` of the one before.
-/
inductive Follows (fetch : Option κ → Except ε (Page β κ)) : Option κ → List β → Prop where
  | last {after : Option κ} {p : Page β κ} (hfetch : fetch after = .ok p) (hnext : p.next = none)
      : Follows fetch after p.items
  | more {after : Option κ} {p : Page β κ} {position : κ} {rest : List β}
      (hfetch : fetch after = .ok p) (hnext : p.next = some position)
      (hrest : Follows fetch (some position) rest)
      : Follows fetch after (p.items ++ rest)

section Sorted

variable {le : α → α → Bool} (htrans : ∀ a b c, le a b = true → le b c = true → le a c = true)
  (htotal : ∀ a b, (le a b || le b a) = true)

-- No two rows of the list are equally far behind.
def Untied (le : α → α → Bool) (rows : List α) : Prop :=
  rows.Pairwise (fun a b => ¬ (le a b = true ∧ le b a = true))

theorem Untied.eq {rows : List α} (h : Untied le rows) {a b : α} (ha : a ∈ rows) (hb : b ∈ rows)
    (hab : le a b = true) (hba : le b a = true) : a = b := by
  induction rows with
  | nil => contradiction
  | cons row rows ih =>
    rw [Untied, List.pairwise_cons] at h
    rw [List.mem_cons] at ha hb
    rcases ha with ha | ha
    . rcases hb with hb | hb
      . rw [ha, hb]
      . subst ha
        exact absurd ⟨hab, hba⟩ (h.1 b hb)
    . rcases hb with hb | hb
      . subst hb
        exact absurd ⟨hba, hab⟩ (h.1 a ha)
      . exact ih h.2 ha hb

section

include htrans htotal

theorem mergeSort_filter {rows : List α} (h : Untied le rows) (p : α → Bool)
    : (rows.filter p).mergeSort le = (rows.mergeSort le).filter p := by
  apply @List.Perm.eq_of_pairwise _ (fun a b => le a b = true)
  . intro a b ha hb hab hba
    rw [List.mem_mergeSort, List.mem_filter] at ha
    rw [List.mem_filter, List.mem_mergeSort] at hb
    exact h.eq ha.1 hb.1 hab hba
  . exact List.pairwise_mergeSort htrans htotal _
  . exact (List.pairwise_mergeSort htrans htotal rows).filter p
  . exact (List.mergeSort_perm _ _).trans ((List.mergeSort_perm rows le).symm.filter p)

theorem mergeSort_strict {rows : List α} (h : Untied le rows)
    : (rows.mergeSort le).Pairwise (fun a b => le b a = false) := by
  have huntied : Untied le (rows.mergeSort le) := by
    apply (List.mergeSort_perm rows le).symm.pairwise h
    intro a b hab hba
    exact hab ⟨hba.2, hba.1⟩
  have hsorted := List.pairwise_mergeSort htrans htotal rows
  apply (hsorted.and huntied).imp
  intro a b hab
  simpa [hab.1] using hab.2

end

include htotal

-- The rows behind one of the rows.
theorem filter_after {xs ys : List α} {a : α}
    (h : (xs ++ a :: ys).Pairwise (fun a b => le b a = false))
    : (xs ++ a :: ys).filter (fun row => !le row a) = ys := by
  rw [List.pairwise_append, List.pairwise_cons] at h
  have hself : le a a = true := by
    simpa using htotal a a
  have hbefore : xs.filter (fun row => !le row a) = [] := by
    rw [List.filter_eq_nil_iff]
    intro row hrow
    have := htotal row a
    rw [h.2.2 row hrow a List.mem_cons_self, Bool.or_false] at this
    simp [this]
  have hafter : ys.filter (fun row => !le row a) = ys := by
    rw [List.filter_eq_self]
    intro row hrow
    simp [h.2.1.1 row hrow]
  rw [List.filter_append, hbefore, List.filter_cons, hself, hafter]
  rfl

end Sorted

/--
If a request returns the page behind its position, following the positions goes through all rows.
-/
theorem follows {rows : List α} {limit : Nat} {position : α → κ} {item : α → β}
    {fetch : Option κ → Except ε (Page β κ)} (hlimit : 0 < limit)
    (hfetch : ∀ xs ys after, rows = xs ++ ys → (xs = [] ∧ after = none
        ∨ ∃ zs a, xs = zs ++ [a] ∧ after = some (position a)) →
      fetch after = .ok (page (ys.take (limit + 1)) limit position item))
    : Follows fetch none (rows.map item) := by
  -- The induction is on the rows that are left.
  have hrest : ∀ n xs ys after, ys.length = n → rows = xs ++ ys → (xs = [] ∧ after = none
      ∨ ∃ zs a, xs = zs ++ [a] ∧ after = some (position a)) →
      Follows fetch after (ys.map item) := by
    intro n
    induction n using Nat.strongRecOn with
    | ind n ih =>
      intro xs ys after hn hrows hafter
      have hpage := hfetch xs ys after hrows hafter
      by_cases hlast : ys.length ≤ limit
      . have hitems : (page (ys.take (limit + 1)) limit position item).items = ys.map item := by
          simp only [page, List.take_take]
          rw [List.take_of_length_le (by omega)]
        rw [← hitems]
        apply Follows.last hpage
        simp only [page, List.length_take]
        rw [if_neg (by omega)]
      . have hitems : (page (ys.take (limit + 1)) limit position item).items
            = (ys.take limit).map item := by
          simp only [page, List.take_take]
          rw [Nat.min_eq_left (by omega)]
        have hne : ys.take limit ≠ [] := by
          rw [← List.length_pos_iff, List.length_take]
          omega
        have hnext : (page (ys.take (limit + 1)) limit position item).next
            = some (position ((ys.take limit).getLast hne)) := by
          simp only [page, List.length_take, List.take_take]
          rw [if_pos (by omega), Nat.min_eq_left (by omega), List.getLast?_eq_some_getLast hne]
          rfl
        have hsplit : ys.map item = (ys.take limit).map item ++ (ys.drop limit).map item := by
          rw [← List.map_append, List.take_append_drop]
        rw [hsplit, ← hitems]
        apply Follows.more hpage hnext
        apply ih (ys.drop limit).length _ (xs ++ ys.take limit) (ys.drop limit) _ rfl
        . rw [hrows, List.append_assoc, List.take_append_drop]
        . refine Or.inr ⟨xs ++ (ys.take limit).dropLast, (ys.take limit).getLast hne, ?_, rfl⟩
          rw [List.append_assoc, List.dropLast_concat_getLast hne]
        . rw [List.length_drop]
          omega
  exact hrest rows.length [] rows none rfl rfl (Or.inl ⟨rfl, rfl⟩)

end Keyset

end Vantyr
