import Mathlib.Data.List.DropRight

/-!
This module contains lists from which the elements of a class are removed at both ends.
-/

namespace Vantyr

namespace Strip

variable {α : Type} {p q : α → Bool}

def strip (p : α → Bool) (l : List α) : List α :=
  (l.dropWhile p).rdropWhile p

theorem strip_sublist (p : α → Bool) (l : List α) : (strip p l).Sublist l :=
  (List.rdropWhile_prefix p _).sublist.trans (List.dropWhile_sublist p)

theorem strip_eq_self_iff {l : List α}
    : strip p l = l ↔ (∀ c ∈ l.head?, p c = false) ∧ ∀ c ∈ l.getLast?, p c = false := by
  constructor
  . intro h
    have hdrop : l.dropWhile p = l := by
      apply (List.dropWhile_sublist p).eq_of_length_le
      have hlength := (List.rdropWhile_prefix p (l.dropWhile p)).length_le
      rwa [show (l.dropWhile p).rdropWhile p = l from h] at hlength
    unfold strip at h
    rw [hdrop, List.rdropWhile_eq_self_iff] at h
    constructor
    . intro c hc
      have hhead := List.head?_dropWhile_not p l
      rw [hdrop, hc] at hhead
      exact Bool.eq_false_iff.mpr (by simpa using hhead)
    . intro c hc
      have hne : l ≠ [] := by
        rintro rfl
        cases hc
      rw [List.getLast?_eq_some_getLast hne, Option.mem_some_iff] at hc
      rw [← hc]
      exact Bool.eq_false_iff.mpr (h hne)
  . rintro ⟨hhead, hlast⟩
    cases l with
    | nil => rfl
    | cons c cs =>
      have hc : p c = false := hhead c rfl
      unfold strip
      rw [List.dropWhile_cons_of_neg (by rw [hc]; exact Bool.false_ne_true), List.rdropWhile_eq_self_iff]
      intro hne
      rw [hlast _ (List.getLast?_eq_some_getLast hne)]
      exact Bool.false_ne_true

theorem strip_strip (p : α → Bool) (l : List α) : strip p (strip p l) = strip p l := by
  rw [strip_eq_self_iff]
  constructor
  . intro c hc
    have hfront := List.rdropWhile_prefix p (l.dropWhile p)
    rcases List.head?_eq_some_iff.mp hc with ⟨rest, hrest⟩
    rcases hfront with ⟨tail, htail⟩
    have hhead := List.head?_dropWhile_not p l
    rw [← htail, show (l.dropWhile p).rdropWhile p = c :: rest from hrest] at hhead
    exact Bool.eq_false_iff.mpr (by simpa using hhead)
  . intro c hc
    have hne : strip p l ≠ [] := by
      intro hnil
      rw [hnil] at hc
      cases hc
    rw [List.getLast?_eq_some_getLast hne, Option.mem_some_iff] at hc
    rw [← hc]
    exact Bool.eq_false_iff.mpr (List.rdropWhile_last_not p _ hne)

theorem strip_map {f : α → α} (h : ∀ c, p (f c) = p c) (l : List α)
    : strip p (l.map f) = (strip p l).map f := by
  have hfront : ∀ cs : List α, (cs.map f).dropWhile p = (cs.dropWhile p).map f := by
    intro cs
    induction cs with
    | nil => rfl
    | cons c cs ih =>
      simp only [List.map_cons, List.dropWhile_cons, h]
      split
      . exact ih
      . rfl
  unfold strip List.rdropWhile
  rw [hfront, ← List.map_reverse, hfront, List.map_reverse]

theorem strip_eq_self {l : List α} (h : ∀ c ∈ l, p c = false) : strip p l = l :=
  strip_eq_self_iff.mpr
    ⟨fun c hc => h c (List.mem_of_mem_head? hc), fun c hc => h c (List.mem_of_getLast? hc)⟩

-- Nothing is left to remove for a class that is smaller on the list.
theorem strip_of_imp {l : List α} (h : strip p l = l) (hq : ∀ c ∈ l, q c = true → p c = true)
    : strip q l = l := by
  rw [strip_eq_self_iff] at h ⊢
  have hnot : ∀ c ∈ l, p c = false → q c = false := by
    intro c hc hp
    cases hqc : q c with
    | false => rfl
    | true =>
      rw [hq c hc hqc] at hp
      cases hp
  exact ⟨fun c hc => hnot c (List.mem_of_mem_head? hc) (h.1 c hc),
    fun c hc => hnot c (List.mem_of_getLast? hc) (h.2 c hc)⟩

end Strip

end Vantyr
