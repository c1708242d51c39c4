import Mathlib.Data.List.Sort

/-!
This module contains rankings: a stable sort by a key, with the greatest first. The main result is when the
first elements do not depend on the order that is sorted.
-/

namespace Vantyr

namespace Ranking

variable {α β : Type} [LinearOrder β] (key : α → β)

def rank (l : List α) : List α :=
  l.insertionSort (fun a b => key b ≤ key a)

theorem rank_perm (l : List α) : (rank key l).Perm l :=
  List.perm_insertionSort _ _

theorem rank_sorted (l : List α) : (rank key l).Pairwise (fun a b => key b ≤ key a) := by
  have : Std.Total (fun a b : α => key b ≤ key a) := ⟨fun a b => le_total (key b) (key a)⟩
  have : IsTrans α (fun a b => key b ≤ key a) := ⟨fun _ _ _ hab hbc => le_trans hbc hab⟩
  exact List.pairwise_insertionSort _ _

-- An element is put behind those with a greater key, and before all others.
theorem getElem?_orderedInsert {x : α} {l : List α} (h : l.Pairwise (fun a b => key b ≤ key a))
    : (l.orderedInsert (fun a b => key b ≤ key a) x)[l.countP (fun z => key x < key z)]? = some x := by
  induction l with
  | nil => rfl
  | cons b l ih =>
    rcases List.pairwise_cons.mp h with ⟨hfirst, hrest⟩
    rw [List.orderedInsert_cons]
    by_cases hle : key b ≤ key x
    . have hnone : (b :: l).countP (fun z => key x < key z) = 0 := by
        rw [List.countP_eq_zero]
        intro z hz
        rw [decide_eq_true_iff, not_lt]
        rcases List.mem_cons.mp hz with rfl | hz
        . exact hle
        . exact le_trans (hfirst z hz) hle
      rw [if_pos hle, hnone]
      rfl
    . have hbefore : (b :: l).countP (fun z => key x < key z) = l.countP (fun z => key x < key z) + 1 :=
        List.countP_cons_of_pos (by simpa using hle)
      rw [if_neg hle, hbefore, List.getElem?_cons_succ]
      exact ih hrest

-- The elements with a greater key are those before it.
theorem countP_le_of_getElem? {l : List α} (h : l.Pairwise (fun a b => key b ≤ key a)) {i : Nat} {x : α}
    (hx : l[i]? = some x) : l.countP (fun z => key x < key z) ≤ i := by
  have hbehind : (l.drop i).countP (fun z => key x < key z) = 0 := by
    rw [List.countP_eq_zero]
    rcases List.getElem?_eq_some_iff.mp hx with ⟨hi, rfl⟩
    have hdrop := h.drop (i := i)
    rw [List.drop_eq_getElem_cons hi] at hdrop ⊢
    intro z hz
    rw [decide_eq_true_iff, not_lt]
    rcases List.mem_cons.mp hz with rfl | hz
    . exact le_refl _
    . exact List.rel_of_pairwise_cons hdrop hz
  calc
    l.countP (fun z => key x < key z)
      = (l.take i).countP (fun z => key x < key z) + (l.drop i).countP (fun z => key x < key z) := by
      rw [← List.countP_append, List.take_append_drop]
    _ = (l.take i).countP (fun z => key x < key z) := by rw [hbehind, Nat.add_zero]
    _ ≤ (l.take i).length := List.countP_le_length
    _ ≤ i := by
      rw [List.length_take]
      exact Nat.min_le_left _ _

-- The keys of a ranking do not depend on the order.
theorem map_rank_eq {o o' : List α} (h : o.Perm o') : (rank key o).map key = (rank key o').map key := by
  have hperm : ((rank key o).map key).Perm ((rank key o').map key) :=
    (((rank_perm key o).trans h).trans (rank_perm key o').symm).map key
  have hsorted : ((rank key o).map key).Pairwise (fun a b => b ≤ a) :=
    List.pairwise_map.mpr (rank_sorted key o)
  have hsorted' : ((rank key o').map key).Pairwise (fun a b => b ≤ a) :=
    List.pairwise_map.mpr (rank_sorted key o')
  exact hperm.eq_of_pairwise (fun a b _ _ hba hab => le_antisymm hab hba) hsorted hsorted'

-- Of two elements with the same key, the one that comes first keeps its place.
theorem exists_order {x : α} {l : List α} (h : x ∈ l)
    : ∃ o, o.Perm l ∧ (rank key o)[l.countP (fun z => key x < key z)]? = some x := by
  rcases List.append_of_mem h with ⟨before, behind, rfl⟩
  refine ⟨x :: (before ++ behind), List.perm_middle.symm, ?_⟩
  have hcount : (before ++ x :: behind).countP (fun z => key x < key z)
      = (rank key (before ++ behind)).countP (fun z => key x < key z) := by
    rw [List.perm_middle.countP_eq, (rank_perm key _).countP_eq, List.countP_cons_of_neg]
    simp
  rw [hcount]
  exact getElem?_orderedInsert key (rank_sorted key _)

/--
The first elements of a ranking are the same for all orders if and only if there is no tie within them.
-/
theorem take_rank_eq_iff {l : List α} {n : Nat}
    : (∀ o o', o.Perm l → o'.Perm l → (rank key o).take n = (rank key o').take n)
      ↔ ∀ x ∈ l, ∀ y ∈ l, x ≠ y → key x = key y → n ≤ l.countP (fun z => key x < key z) := by
  constructor
  . intro h x hx y hy hne htie
    by_contra hlt
    rw [not_le] at hlt
    rcases exists_order key hx with ⟨o, ho, hplace⟩
    rcases exists_order key hy with ⟨o', ho', hplace'⟩
    rw [← htie] at hplace'
    have hsame := congrArg (fun t => t[l.countP (fun z => key x < key z)]?) (h o o' ho ho')
    rw [List.getElem?_take_of_lt hlt, List.getElem?_take_of_lt hlt, hplace, hplace'] at hsame
    cases hsame
    exact hne rfl
  . intro h o o' ho ho'
    have hkeys := map_rank_eq key (ho.trans ho'.symm)
    apply List.ext_getElem?
    intro i
    by_cases hi : i < n
    . rw [List.getElem?_take_of_lt hi, List.getElem?_take_of_lt hi]
      have hkey := congrArg (fun t => t[i]?) hkeys
      simp only [List.getElem?_map] at hkey
      cases hx : (rank key o)[i]? with
      | none =>
        rw [hx, Option.map_none] at hkey
        exact (Option.map_eq_none_iff.mp hkey.symm).symm
      | some x =>
        rw [hx, Option.map_some] at hkey
        rcases Option.map_eq_some_iff.mp hkey.symm with ⟨y, hy, htie⟩
        have hplace := countP_le_of_getElem? key (rank_sorted key o) hx
        rw [((rank_perm key o).trans ho).countP_eq] at hplace
        have hmem : x ∈ l := ((rank_perm key o).trans ho).subset (List.mem_of_getElem? hx)
        have hmem' : y ∈ l := ((rank_perm key o').trans ho').subset (List.mem_of_getElem? hy)
        rw [hy]
        by_contra hne
        have hxy : x ≠ y := fun heq => hne (congrArg some heq)
        have := h x hmem y hmem' hxy htie.symm
        omega
    . rw [List.getElem?_eq_none (by rw [List.length_take]; omega),
        List.getElem?_eq_none (by rw [List.length_take]; omega)]

end Ranking

end Vantyr
