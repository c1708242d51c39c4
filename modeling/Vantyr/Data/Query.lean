import Mathlib.Data.List.Basic

/-!
This module contains the parameters of a query: an ordered list of names and values, in which a name may occur
several times (`URLSearchParams`).
-/

namespace Vantyr

namespace Query

variable {κ β : Type} [DecidableEq κ]

def get (params : List (κ × β)) (name : κ) : Option β :=
  (params.find? (fun param => param.1 = name)).map Prod.snd

def has (params : List (κ × β)) (name : κ) : Bool :=
  params.any (fun param => param.1 = name)

def delete (params : List (κ × β)) (name : κ) : List (κ × β) :=
  params.filter (fun param => param.1 ≠ name)

-- The first occurrence is replaced, and the others are removed.
def set (name : κ) (value : β) : List (κ × β) → List (κ × β)
  | [] => [(name, value)]
  | param :: rest =>
    if param.1 = name then (name, value) :: delete rest name else param :: set name value rest

theorem has_eq_isSome (params : List (κ × β)) (name : κ) : has params name = (get params name).isSome := by
  unfold has get
  rw [Option.isSome_map, Bool.eq_iff_iff, List.any_eq_true, List.find?_isSome]

theorem get_delete (params : List (κ × β)) (name other : κ)
    : get (delete params name) other = if other = name then none else get params other := by
  unfold get delete
  rw [List.find?_filter]
  split
  . next h =>
    subst h
    rw [List.find?_eq_none.mpr]
    . rfl
    . intro param _
      simp
  . next h =>
    congr 2
    funext param
    by_cases heq : param.1 = other
    . simp [heq, h]
    . simp [heq]

theorem get_set (params : List (κ × β)) (name other : κ) (value : β)
    : get (set name value params) other = if other = name then some value else get params other := by
  induction params with
  | nil =>
    unfold set get
    by_cases h : other = name
    . simp [h]
    . simp [h, Ne.symm h]
  | cons param rest ih =>
    unfold set
    split
    . next heq =>
      by_cases h : other = name
      . simp [get, h]
      . have hrest := get_delete rest name other
        rw [if_neg h] at hrest
        rw [if_neg h]
        unfold get at hrest ⊢
        rw [List.find?_cons_of_neg (by simpa using Ne.symm h), hrest,
          List.find?_cons_of_neg (by simpa [heq] using Ne.symm h)]
    . next hne =>
      by_cases hother : param.1 = other
      . subst hother
        rw [if_neg hne]
        simp [get]
      . unfold get at ih ⊢
        rw [List.find?_cons_of_neg (by simpa using hother), ih,
          List.find?_cons_of_neg (by simpa using hother)]

theorem get_foldl_delete (params : List (κ × β)) (names : List κ) (other : κ)
    : get (names.foldl delete params) other = if other ∈ names then none else get params other := by
  induction names generalizing params with
  | nil => simp
  | cons name names ih =>
    rw [List.foldl_cons, ih, get_delete]
    by_cases h : other = name
    . simp [h]
    . simp [h]

-- The parameters that are not among some names.
def others (names : List κ) (params : List (κ × β)) : List (κ × β) :=
  params.filter (fun param => param.1 ∉ names)

theorem others_delete {names : List κ} {name : κ} (h : name ∈ names) (params : List (κ × β))
    : others names (delete params name) = others names params := by
  unfold others delete
  rw [List.filter_filter]
  apply List.filter_congr
  intro param _
  by_cases heq : param.1 = name
  . simp [heq, h]
  . simp [heq]

theorem others_set {names : List κ} {name : κ} (h : name ∈ names) (value : β) (params : List (κ × β))
    : others names (set name value params) = others names params := by
  induction params with
  | nil => simp [set, others, h]
  | cons param rest ih =>
    unfold set
    split
    . next heq =>
      have hrest := others_delete h rest
      unfold others at hrest ⊢
      rw [List.filter_cons_of_neg (by simpa using h), hrest, List.filter_cons_of_neg (by simpa [heq] using h)]
    . unfold others at ih ⊢
      rw [List.filter_cons, List.filter_cons, ih]

theorem others_foldl_delete {names deleted : List κ} (h : ∀ name ∈ deleted, name ∈ names)
    (params : List (κ × β)) : others names (deleted.foldl delete params) = others names params := by
  induction deleted generalizing params with
  | nil => rfl
  | cons name deleted ih =>
    rw [List.foldl_cons, ih (fun other hother => h other (List.mem_cons_of_mem _ hother)),
      others_delete (h name List.mem_cons_self)]

end Query

end Vantyr
