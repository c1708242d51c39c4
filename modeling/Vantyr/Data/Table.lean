import Mathlib.Algebra.Ring.Int.Defs
import Mathlib.Algebra.Ring.Nat
import Mathlib.Data.List.AList

/-!
This module contains what association lists need in order to stand for a hash map that is iterated
over: its values, `retain`, a mutation of every value, and a change of the order of the entries,
which a hash map does not promise anything about.
-/

namespace Vantyr

namespace Table

variable {κ β : Type}

def values (table : AList (fun _ : κ => β)) : List β :=
  table.entries.map Sigma.snd

def retain (keep : κ → β → Bool) (table : AList (fun _ : κ => β)) : AList (fun _ : κ => β) where
  entries := table.entries.filter (fun entry => keep entry.1 entry.2)
  nodupKeys := by
    apply List.NodupKeys.sublist _ table.nodupKeys
    exact List.filter_sublist

def mapValues (f : β → β) (table : AList (fun _ : κ => β)) : AList (fun _ : κ => β) where
  entries := table.entries.map (fun entry => ⟨entry.1, f entry.2⟩)
  nodupKeys := by
    have : (table.entries.map (fun entry => (⟨entry.1, f entry.2⟩ : Sigma (fun _ : κ => β)))).keys
        = table.entries.keys := by
      simp [List.keys]
    rw [List.NodupKeys, this]
    exact table.nodupKeys

variable [DecidableEq κ]

-- Any order of the entries can be reached by moving one after the other to the front.
def moveToFront (key : κ) (table : AList (fun _ : κ => β)) : AList (fun _ : κ => β) :=
  match table.lookup key with
  | some value => table.insert key value
  | none => table

-- A counter that is not in the table is zero.
def add (table : AList (fun _ : κ => Int)) (key : κ) (amount : Int) : AList (fun _ : κ => Int) :=
  table.insert key ((table.lookup key).getD 0 + amount)

theorem mem_values {table : AList (fun _ : κ => β)} {value : β}
    : value ∈ values table ↔ ∃ key, table.lookup key = some value := by
  simp only [values, List.mem_map]
  constructor
  . intro h
    rcases h with ⟨⟨key, v⟩, hmem, heq⟩
    simp only at heq
    subst heq
    exact ⟨key, AList.mem_lookup_iff.mpr hmem⟩
  . intro h
    rcases h with ⟨key, h⟩
    exact ⟨⟨key, value⟩, AList.mem_lookup_iff.mp h, rfl⟩

theorem entries_erase (key : κ) (table : AList (fun _ : κ => β))
    : (table.erase key).entries = table.entries.kerase key :=
  rfl

-- Where an entry is, and what is left without it.
theorem split_of_lookup {table : AList (fun _ : κ => β)} {key : κ} {value : β}
    (h : table.lookup key = some value)
    : ∃ xs ys, table.entries = xs ++ ⟨key, value⟩ :: ys ∧ table.entries.kerase key = xs ++ ys := by
  have hmem : key ∈ table.entries.keys := by
    rw [← AList.keys, ← AList.mem_keys, ← AList.lookup_isSome, h]
    rfl
  rcases List.exists_of_kerase hmem with ⟨b, xs, ys, hnot, heq, hkerase⟩
  have hb : table.lookup key = some b := by
    rw [← Option.mem_def, AList.mem_lookup_iff, heq]
    simp
  rw [h] at hb
  cases hb
  exact ⟨xs, ys, heq, hkerase⟩

-- An entry can be brought to the front.
theorem perm_of_lookup {table : AList (fun _ : κ => β)} {key : κ} {value : β}
    (h : table.lookup key = some value)
    : table.entries.Perm (⟨key, value⟩ :: table.entries.kerase key) := by
  rcases split_of_lookup h with ⟨xs, ys, heq, hkerase⟩
  rw [hkerase, heq]
  exact List.perm_middle

@[simp]
theorem lookup_retain (keep : κ → β → Bool) (table : AList (fun _ : κ => β)) (key : κ)
    : (retain keep table).lookup key = (table.lookup key).filter (keep key) := by
  apply Option.ext
  intro value
  rw [Option.mem_def.symm, AList.mem_lookup_iff, Option.filter_eq_some_iff, ← Option.mem_def,
    AList.mem_lookup_iff]
  simp [retain]

theorem retain_eq_self {keep : κ → β → Bool} {table : AList (fun _ : κ => β)}
    (h : ∀ key value, table.lookup key = some value → keep key value = true)
    : retain keep table = table := by
  apply AList.ext
  simp only [retain, List.filter_eq_self]
  intro entry hentry
  exact h entry.1 entry.2 (AList.mem_lookup_iff.mpr hentry)

@[simp]
theorem lookup_mapValues (f : β → β) (table : AList (fun _ : κ => β)) (key : κ)
    : (mapValues f table).lookup key = (table.lookup key).map f := by
  apply Option.ext
  intro value
  rw [← Option.mem_def, AList.mem_lookup_iff, Option.map_eq_some_iff]
  simp only [mapValues, List.mem_map]
  constructor
  . intro h
    rcases h with ⟨⟨k, v⟩, hmem, heq⟩
    simp only [Sigma.mk.injEq, heq_eq_eq] at heq
    rcases heq with ⟨hk, hv⟩
    subst hk
    exact ⟨v, AList.mem_lookup_iff.mpr hmem, hv⟩
  . intro h
    rcases h with ⟨v, hv, heq⟩
    exact ⟨⟨key, v⟩, AList.mem_lookup_iff.mp hv, by rw [heq]⟩

@[simp]
theorem lookup_moveToFront (key other : κ) (table : AList (fun _ : κ => β))
    : (moveToFront key table).lookup other = table.lookup other := by
  unfold moveToFront
  split
  . next value hvalue =>
    by_cases h : other = key
    . subst h
      simp [hvalue]
    . rw [AList.lookup_insert_ne h]
  . rfl

theorem lookup_insert_eq (table : AList (fun _ : κ => β)) (key other : κ) (value : β)
    : (table.insert key value).lookup other
        = if other = key then some value else table.lookup other := by
  split
  . next h =>
    subst h
    rw [AList.lookup_insert]
  . next h => rw [AList.lookup_insert_ne h]

theorem lookup_erase_eq (table : AList (fun _ : κ => β)) (key other : κ)
    : (table.erase key).lookup other = if other = key then none else table.lookup other := by
  split
  . next h =>
    subst h
    rw [AList.lookup_erase]
  . next h => rw [AList.lookup_erase_ne h]

theorem length_erase_le (table : AList (fun _ : κ => β)) (key : κ)
    : (table.erase key).entries.length ≤ table.entries.length := by
  rw [entries_erase]
  exact (List.kerase_sublist key _).length_le

theorem length_insert_le (table : AList (fun _ : κ => β)) (key : κ) (value : β)
    : (table.insert key value).entries.length ≤ table.entries.length + 1 := by
  rw [AList.entries_insert, List.length_cons]
  exact Nat.succ_le_succ (List.kerase_sublist key _).length_le

theorem length_insert_of_lookup {table : AList (fun _ : κ => β)} {key : κ} {old : β}
    (h : table.lookup key = some old) (value : β)
    : (table.insert key value).entries.length = table.entries.length := by
  have := (perm_of_lookup h).length_eq
  rw [AList.entries_insert, List.length_cons, this, List.length_cons]

theorem kerase_of_lookup_none {table : AList (fun _ : κ => β)} {key : κ} (h : table.lookup key = none)
    : table.entries.kerase key = table.entries := by
  apply List.kerase_of_notMem_keys
  rw [← AList.keys, ← AList.mem_keys]
  exact AList.lookup_eq_none.mp h

theorem sum_add (table : AList (fun _ : κ => Int)) (key : κ) (amount : Int)
    : (values (add table key amount)).sum = (values table).sum + amount := by
  have hinsert : (values (add table key amount)).sum
      = (table.lookup key).getD 0 + amount + ((table.entries.kerase key).map Sigma.snd).sum := by
    rw [values, add, AList.entries_insert, List.map_cons, List.sum_cons]
  rw [hinsert]
  cases h : table.lookup key with
  | none =>
    rw [kerase_of_lookup_none h, Option.getD_none, values]
    omega
  | some old =>
    rcases split_of_lookup h with ⟨xs, ys, heq, hkerase⟩
    rw [hkerase, Option.getD_some, values, heq]
    simp only [List.map_append, List.map_cons, List.sum_append, List.sum_cons]
    omega

end Table

end Vantyr
