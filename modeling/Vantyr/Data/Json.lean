import Mathlib.Algebra.Ring.Int.Defs
import Mathlib.Algebra.Ring.Nat
import Mathlib.Data.Option.Basic
import Mathlib.Data.String.Basic
import Mathlib.Order.Basic

/-!
This module contains JSON values the way `serde_json::Value` represents them: numbers are unsigned,
negative or floating point, and an object is a map whose entries are kept in the order of their keys.
Next to the type are the accessors that programs working on raw values use (`value[key]`, `as_str`,
insertion and removal of a key) and the readers a derived deserialiser is made of.
-/

namespace Vantyr

-- `negInt n` is the number `-(n + 1)`, a floating point number is given by its bits.
inductive Number where
  | posInt (n : Nat)
  | negInt (n : Nat)
  | float (bits : Nat)
  deriving DecidableEq, Repr, Inhabited

inductive Json where
  | null
  | bool (b : Bool)
  | number (n : Number)
  | string (s : String)
  | array (items : List Json)
  | object (fields : List (String × Json))
  deriving Repr, Inhabited

namespace Json

mutual

def decEq : (a b : Json) → Decidable (a = b)
  | .null, b =>
    match b with
    | .null => isTrue rfl
    | .bool _ | .number _ | .string _ | .array _ | .object _ => isFalse (by simp)
  | .bool x, b =>
    match b with
    | .bool y => decidable_of_iff (x = y) (by simp)
    | .null | .number _ | .string _ | .array _ | .object _ => isFalse (by simp)
  | .number x, b =>
    match b with
    | .number y => decidable_of_iff (x = y) (by simp)
    | .null | .bool _ | .string _ | .array _ | .object _ => isFalse (by simp)
  | .string x, b =>
    match b with
    | .string y => decidable_of_iff (x = y) (by simp)
    | .null | .bool _ | .number _ | .array _ | .object _ => isFalse (by simp)
  | .array xs, b =>
    match b with
    | .array ys => @decidable_of_iff _ (xs = ys) (by simp) (decEqItems xs ys)
    | .null | .bool _ | .number _ | .string _ | .object _ => isFalse (by simp)
  | .object xs, b =>
    match b with
    | .object ys => @decidable_of_iff _ (xs = ys) (by simp) (decEqFields xs ys)
    | .null | .bool _ | .number _ | .string _ | .array _ => isFalse (by simp)

def decEqItems : (xs ys : List Json) → Decidable (xs = ys)
  | [], [] => isTrue rfl
  | [], _ :: _ => isFalse (by simp)
  | _ :: _, [] => isFalse (by simp)
  | x :: xs, y :: ys =>
    @decidable_of_iff _ (x = y ∧ xs = ys) (by simp)
      (@instDecidableAnd _ _ (decEq x y) (decEqItems xs ys))

def decEqFields : (xs ys : List (String × Json)) → Decidable (xs = ys)
  | [], [] => isTrue rfl
  | [], _ :: _ => isFalse (by simp)
  | _ :: _, [] => isFalse (by simp)
  | (k, x) :: xs, (l, y) :: ys =>
    @decidable_of_iff _ (k = l ∧ x = y ∧ xs = ys) (by simp [and_assoc])
      (@instDecidableAnd _ _ inferInstance
        (@instDecidableAnd _ _ (decEq x y) (decEqFields xs ys)))

end

instance : DecidableEq Json := decEq

end Json

/-!
The entries of an object, and of any other map that is kept sorted by its keys.
-/
namespace Fields

variable {α : Type}

def get? (key : String) : List (String × α) → Option α
  | [] => none
  | (k, v) :: rest => if k = key then some v else get? key rest

def erase (key : String) (fields : List (String × α)) : List (String × α) :=
  fields.filter (fun field => field.1 ≠ key)

-- Insertion into a sorted map: an existing entry is replaced where it stands.
def insert (key : String) (value : α) : List (String × α) → List (String × α)
  | [] => [(key, value)]
  | (k, v) :: rest =>
    if k = key then
      (key, value) :: rest
    else if key < k then
      (key, value) :: (k, v) :: rest
    else
      (k, v) :: insert key value rest

@[simp]
theorem get?_nil (key : String) : get? key ([] : List (String × α)) = none := rfl

theorem get?_cons (key k : String) (v : α) (rest : List (String × α))
    : get? key ((k, v) :: rest) = if k = key then some v else get? key rest := rfl

@[simp]
theorem get?_insert_self (key : String) (value : α) (fields : List (String × α))
    : get? key (insert key value fields) = some value := by
  induction fields with
  | nil => simp [insert, get?_cons]
  | cons field rest ih =>
    rcases field with ⟨k, v⟩
    unfold insert
    split
    . simp [get?_cons]
    . split
      . simp [get?_cons]
      . next hne _ => simp [get?_cons, hne, ih]

theorem get?_insert_of_ne {key other : String} (h : other ≠ key) (value : α)
    (fields : List (String × α))
    : get? other (insert key value fields) = get? other fields := by
  induction fields with
  | nil => simp [insert, get?_cons, h.symm]
  | cons field rest ih =>
    rcases field with ⟨k, v⟩
    unfold insert
    split
    . next heq => simp [get?_cons, heq, h.symm]
    . split
      . simp [get?_cons, h.symm]
      . simp [get?_cons, ih]

@[simp]
theorem get?_erase_self (key : String) (fields : List (String × α))
    : get? key (erase key fields) = none := by
  induction fields with
  | nil => rfl
  | cons field rest ih =>
    rcases field with ⟨k, v⟩
    by_cases hk : k = key
    . simpa [erase, hk] using ih
    . simpa [erase, hk, get?_cons] using ih

theorem get?_erase_of_ne {key other : String} (h : other ≠ key) (fields : List (String × α))
    : get? other (erase key fields) = get? other fields := by
  induction fields with
  | nil => rfl
  | cons field rest ih =>
    rcases field with ⟨k, v⟩
    by_cases hk : k = key
    . subst hk
      simpa [erase, get?_cons, h.symm] using ih
    . have : erase key ((k, v) :: rest) = (k, v) :: erase key rest := by
        simp [erase, hk]
      rw [this]
      simp only [get?_cons, ih]

def Sorted (fields : List (String × α)) : Prop :=
  fields.Pairwise (fun a b => a.1 < b.1)

theorem Sorted.erase {fields : List (String × α)} (h : Sorted fields) (key : String)
    : Sorted (erase key fields) :=
  List.Pairwise.filter _ h

theorem mem_insert {key : String} {value : α} {fields : List (String × α)} {field : String × α}
    (h : field ∈ insert key value fields) : field = (key, value) ∨ field ∈ fields := by
  induction fields with
  | nil => simpa [insert] using h
  | cons head rest ih =>
    rcases head with ⟨k, v⟩
    unfold insert at h
    split at h
    . simp only [List.mem_cons] at h ⊢
      rcases h with h | h
      . exact Or.inl h
      . exact Or.inr (Or.inr h)
    . split at h
      . simpa using h
      . simp only [List.mem_cons] at h ⊢
        rcases h with h | h
        . exact Or.inr (Or.inl h)
        . rcases ih h with h | h
          . exact Or.inl h
          . exact Or.inr (Or.inr h)

theorem Sorted.insert {fields : List (String × α)} (h : Sorted fields) (key : String) (value : α)
    : Sorted (insert key value fields) := by
  induction fields with
  | nil => simp [Fields.insert, Sorted]
  | cons head rest ih =>
    rcases head with ⟨k, v⟩
    simp only [Sorted, List.pairwise_cons] at h
    unfold Fields.insert
    split
    . next heq =>
      subst heq
      simpa [Sorted] using h
    . next hne =>
      split
      . next hlt =>
        simp only [Sorted, List.pairwise_cons, List.mem_cons, forall_eq_or_imp]
        refine ⟨⟨hlt, ?_⟩, h⟩
        intro field hfield
        exact lt_trans hlt (h.1 field hfield)
      . next hnlt =>
        simp only [Sorted, List.pairwise_cons]
        refine ⟨?_, ih h.2⟩
        intro field hfield
        rcases mem_insert hfield with hfield | hfield
        . subst hfield
          exact lt_of_le_of_ne (not_lt.mp hnlt) hne
        . exact h.1 field hfield

theorem get?_eq_none_of_lt {key : String} {fields : List (String × α)}
    (h : ∀ field ∈ fields, key < field.1) : get? key fields = none := by
  induction fields with
  | nil => rfl
  | cons head rest ih =>
    have hne : head.1 ≠ key := (h head (by simp)).ne'
    rcases head with ⟨k, v⟩
    simp only [get?_cons, if_neg hne]
    exact ih (fun field hfield => h field (by simp [hfield]))

/--
A sorted map is determined by what its keys are mapped to.
-/
theorem Sorted.ext {xs ys : List (String × α)} (hxs : Sorted xs) (hys : Sorted ys)
    (h : ∀ key, get? key xs = get? key ys) : xs = ys := by
  induction xs generalizing ys with
  | nil =>
    cases ys with
    | nil => rfl
    | cons y ys =>
      rcases y with ⟨l, w⟩
      have := h l
      simp [get?_cons] at this
  | cons x xs ih =>
    cases ys with
    | nil =>
      rcases x with ⟨k, v⟩
      have := h k
      simp [get?_cons] at this
    | cons y ys =>
      simp only [Sorted, List.pairwise_cons] at hxs hys
      rcases x with ⟨k, v⟩
      rcases y with ⟨l, w⟩
      -- The smallest key of both maps is the same, since either one is found in the other.
      have hkl : k = l := by
        rcases lt_trichotomy k l with hlt | heq | hgt
        . have hnone : get? k ((l, w) :: ys) = none := by
            apply get?_eq_none_of_lt
            intro field hfield
            rcases List.mem_cons.mp hfield with hfield | hfield
            . simpa [hfield] using hlt
            . exact lt_trans hlt (hys.1 field hfield)
          have := h k
          rw [hnone] at this
          simp [get?_cons] at this
        . exact heq
        . have hnone : get? l ((k, v) :: xs) = none := by
            apply get?_eq_none_of_lt
            intro field hfield
            rcases List.mem_cons.mp hfield with hfield | hfield
            . simpa [hfield] using hgt
            . exact lt_trans hgt (hxs.1 field hfield)
          have := h l
          rw [hnone] at this
          simp [get?_cons] at this
      subst hkl
      have hvw : v = w := by simpa [get?_cons] using h k
      subst hvw
      congr 1
      apply ih hxs.2 hys.2
      intro key
      by_cases hk : k = key
      . subst hk
        rw [get?_eq_none_of_lt hxs.1, get?_eq_none_of_lt hys.1]
      . simpa [get?_cons, hk] using h key

end Fields

namespace Json

def get? (value : Json) (key : String) : Option Json :=
  match value with
  | .object fields => Fields.get? key fields
  | _ => none

-- `value[key]`: a missing field reads as `null`.
def field (value : Json) (key : String) : Json :=
  (value.get? key).getD .null

-- `value[key] = new`, which turns `null` into an object.
def setField (value : Json) (key : String) (new : Json) : Json :=
  match value with
  | .object fields => .object (Fields.insert key new fields)
  | .null => .object [(key, new)]
  | other => other

def eraseField (value : Json) (key : String) : Json :=
  match value with
  | .object fields => .object (Fields.erase key fields)
  | other => other

def isNull : Json → Bool
  | .null => true
  | _ => false

def isObject : Json → Bool
  | .object _ => true
  | _ => false

def asStr : Json → Option String
  | .string s => some s
  | _ => none

def asBool : Json → Option Bool
  | .bool b => some b
  | _ => none

def asArray : Json → Option (List Json)
  | .array items => some items
  | _ => none

def asU64 : Json → Option Nat
  | .number (.posInt n) => some n
  | _ => none

def asI64 : Json → Option Int
  | .number (.posInt n) => if n < 2 ^ 63 then some n else none
  | .number (.negInt n) => some (-(n + 1))
  | _ => none

/--
The fields of a struct all of whose fields are required, in the order of `names`. A derived
`Deserialize` reads them from an object by name and from an array by position; it ignores further
fields of an object unless the struct denies unknown fields.
-/
def structFields (names : List String) (denyUnknown : Bool) : Json → Option (List Json)
  | .object fields =>
    if denyUnknown && fields.any (fun field => !names.contains field.1) then
      none
    else
      names.mapM (Fields.get? · fields)
  | .array items => if items.length = names.length then some items else none
  | _ => none

/--
The fields of a struct with fields that may be missing. From an array only the last `defaults` of them
may be, which have a default value.
-/
def optionalFields (names : List String) (defaults : Nat) : Json → Option (List (Option Json))
  | .object fields => some (names.map (Fields.get? · fields))
  | .array items =>
    if items.length ≤ names.length ∧ names.length ≤ items.length + defaults then
      some (items.map some ++ List.replicate (names.length - items.length) none)
    else
      none
  | _ => none

def readOption {α : Type} (read : Json → Option α) : Option Json → Option (Option α)
  | none => some none
  | some .null => some none
  | some value => (read value).map some

def ofNat (n : Nat) : Json :=
  .number (.posInt n)

def ofInt : Int → Json
  | .ofNat n => .number (.posInt n)
  | .negSucc n => .number (.negInt n)

@[simp]
theorem asU64_ofNat (n : Nat) : (ofNat n).asU64 = some n := rfl

theorem asI64_ofInt {i : Int} (h : i < 2 ^ 63) : (ofInt i).asI64 = some i := by
  cases i with
  | ofNat n =>
    have : n < 2 ^ 63 := by
      have : (n : Int) < 2 ^ 63 := h
      omega
    simp only [ofInt, asI64, this, ↓reduceIte]
    rfl
  | negSucc n => rfl

theorem get?_setField_self {value : Json} {other : String} {old : Json}
    (h : value.get? other = some old) (key : String) (new : Json)
    : (value.setField key new).get? key = some new := by
  cases value <;> simp_all [get?, setField]

theorem get?_setField_of_ne {key other : String} (hne : other ≠ key) (value new : Json)
    : (value.setField key new).get? other = value.get? other := by
  cases value with
  | object fields => simp [get?, setField, Fields.get?_insert_of_ne hne]
  | null => simp [get?, setField, Fields.get?_cons, hne.symm]
  | _ => rfl

theorem field_setField_of_ne {key other : String} (hne : other ≠ key) (value new : Json)
    : (value.setField key new).field other = value.field other := by
  simp [field, get?_setField_of_ne hne]

@[simp]
theorem get?_eraseField_self (value : Json) (key : String)
    : (value.eraseField key).get? key = none := by
  cases value <;> simp [get?, eraseField]

theorem get?_eraseField_of_ne {key other : String} (hne : other ≠ key) (value : Json)
    : (value.eraseField key).get? other = value.get? other := by
  cases value with
  | object fields => simp [get?, eraseField, Fields.get?_erase_of_ne hne]
  | _ => rfl

theorem field_eraseField_of_ne {key other : String} (hne : other ≠ key) (value : Json)
    : (value.eraseField key).field other = value.field other := by
  simp [field, get?_eraseField_of_ne hne]

theorem field_eq_of_get? {value : Json} {key : String} {v : Json} (h : value.get? key = some v)
    : value.field key = v := by
  simp [field, h]

end Json

end Vantyr
