import Mathlib.Data.List.Nodup
import Mathlib.Logic.Function.Basic
import Vantyr.Data.Uuid
import Vantyr.Protocol.Modules

/-!
This module contains the readers of `protocol/src/lenient.rs`, and the records whose fields are read by
them. A record is read from the entries of an object, where a missing field has its default and one that
is not of its type reads as if it had no value, so that reading never fails. Writing leaves out what a
reader takes for the default, hence reading gives back what was written.
-/

namespace Vantyr

namespace Fields

variable {α : Type}

-- The map that a serialiser collects its entries in.
def collect (entries fields : List (String × α)) : List (String × α) :=
  entries.foldl (fun fields entry => insert entry.1 entry.2 fields) fields

theorem get?_collect_of_not_mem {key : String} {entries : List (String × α)}
    (h : ∀ value, (key, value) ∉ entries) (fields : List (String × α))
    : get? key (collect entries fields) = get? key fields := by
  induction entries generalizing fields with
  | nil => rfl
  | cons entry entries ih =>
    have hne : key ≠ entry.1 := by
      intro heq
      apply h entry.2
      rw [heq]
      exact List.mem_cons_self
    have hrest : ∀ value, (key, value) ∉ entries :=
      fun value hmem => h value (List.mem_cons_of_mem _ hmem)
    exact (ih hrest _).trans (get?_insert_of_ne hne ..)

theorem get?_collect_of_mem {key : String} {value : α} {entries : List (String × α)}
    (hmem : (key, value) ∈ entries) (hall : ∀ other, (key, other) ∈ entries → other = value)
    (fields : List (String × α)) : get? key (collect entries fields) = some value := by
  induction entries generalizing fields with
  | nil => exact absurd hmem List.not_mem_nil
  | cons entry entries ih =>
    have hrest : ∀ other, (key, other) ∈ entries → other = value :=
      fun other hother => hall other (List.mem_cons_of_mem _ hother)
    by_cases hlater : (key, value) ∈ entries
    . exact ih hlater hrest _
    . have hentry : entry = (key, value) := by
        rcases List.mem_cons.mp hmem with h | h
        . exact h.symm
        . exact absurd h hlater
      have hnone : ∀ other, (key, other) ∉ entries := by
        intro other hother
        rw [hrest other hother] at hother
        exact hlater hother
      have hstep : collect (entry :: entries) fields
          = collect entries (insert entry.1 entry.2 fields) := rfl
      rw [hstep, get?_collect_of_not_mem hnone, hentry]
      exact get?_insert_self ..

end Fields

/-!
Floating point numbers of 64 bits, as their bits.
-/
namespace Binary64

def isFinite (bits : Nat) : Bool :=
  bits / 2 ^ 52 % 2 ^ 11 ≠ 2 ^ 11 - 1

-- The number that is nearest to `n`, and of two of them the even one. A mantissa that is rounded up to
-- the next power of two carries into the exponent.
def ofNat (n : Nat) : Nat :=
  let exponent := n.log2
  if n = 0 then
    0
  else if exponent ≤ 52 then
    (exponent + 1023) * 2 ^ 52 + (n * 2 ^ (52 - exponent) - 2 ^ 52)
  else
    let unit := 2 ^ (exponent - 52)
    let mantissa := n / unit
    let up := unit < 2 * (n % unit) ∨ unit = 2 * (n % unit) ∧ mantissa % 2 = 1
    (exponent + 1023) * 2 ^ 52 + ((if up then mantissa + 1 else mantissa) - 2 ^ 52)

def ofNumber : Number → Nat
  | .posInt n => ofNat n
  | .negInt n => 2 ^ 63 + ofNat (n + 1)
  | .float bits => bits

example : (ofNumber (.posInt 30), ofNumber (.negInt 0), ofNumber (.posInt (2 ^ 64 - 1)))
    = (0x403E000000000000, 0xBFF0000000000000, 0x43F0000000000000) := by
  decide

end Binary64

inductive Scalar where
  | module
  | bool
  | u64
  | f64
  | string
  | number
  deriving DecidableEq, Repr

namespace Scalar

abbrev Carrier : Scalar → Type
  | .module => Module
  | .bool => Bool
  | .u64 => Nat
  | .f64 => Nat
  | .string => String
  | .number => Number

-- `serde_json::from_value`
def fromValue : (s : Scalar) → Json → Option s.Carrier
  | .module, value => Module.ofJson value
  | .bool, value => value.asBool
  | .u64, value => value.asU64
  | .f64, value =>
    match value with
    | .number n => some (Binary64.ofNumber n)
    | _ => none
  | .string, value => value.asStr
  | .number, value =>
    match value with
    | .number n => some n
    | _ => none

def toValue : (s : Scalar) → s.Carrier → Json
  | .module, m => m.toJson
  | .bool, b => .bool b
  | .u64, n => .ofNat n
  | .f64, bits => if Binary64.isFinite bits then .number (.float bits) else .null
  | .string, text => .string text
  | .number, n => .number n

def isFinite : (s : Scalar) → s.Carrier → Bool
  | .f64, bits => Binary64.isFinite bits
  | .module, _ | .bool, _ | .u64, _ | .string, _ | .number, _ => true

-- The values of this type.
def accepts : Scalar → Json → Bool
  | .module, .string name => (Module.ofStr name).isSome
  | .module, .object [(name, .null)] => (Module.ofStr name).isSome
  | .bool, .bool _ => true
  | .u64, .number (.posInt _) => true
  | .f64, .number _ => true
  | .string, .string _ => true
  | .number, .number _ => true
  | _, _ => false

theorem fromValue_toValue {s : Scalar} {x : s.Carrier} (h : s.isFinite x = true)
    : s.fromValue (s.toValue x) = some x := by
  cases s with
  | module => exact Module.ofJson_toJson x
  | f64 =>
    have : Binary64.isFinite x = true := h
    simp [toValue, fromValue, this, Binary64.ofNumber]
  | _ => rfl

theorem fromValue_null (s : Scalar) : s.fromValue .null = none := by
  cases s <;> rfl

theorem fromValue_of_not_accepts {s : Scalar} {value : Json} (h : s.accepts value = false)
    : s.fromValue value = none := by
  cases s with
  | module =>
    simp only [fromValue, Module.ofJson]
    split
    . simpa [accepts] using h
    . simpa [accepts] using h
    . rfl
  | u64 =>
    simp only [fromValue, Json.asU64]
    split
    . simp [accepts] at h
    . rfl
  | bool => cases value <;> simp_all [fromValue, accepts, Json.asBool]
  | f64 => cases value <;> simp_all [fromValue, accepts]
  | string => cases value <;> simp_all [fromValue, accepts, Json.asStr]
  | number => cases value <;> simp_all [fromValue, accepts]

end Scalar

-- The readers of the fields; a field of raw JSON has none.
inductive FieldType where
  | string
  | opt (s : Scalar)
  | uuid
  | array
  | raw
  | present (s : Scalar)
  deriving DecidableEq, Repr

namespace FieldType

abbrev Carrier : FieldType → Type
  | .string => String
  | .opt s => Option s.Carrier
  | .uuid => Option Uuid
  | .array => List Json
  | .raw => Json
  | .present s => Option (Option s.Carrier)

-- `#[serde(default)]`
def default : (t : FieldType) → t.Carrier
  | .string => ""
  | .opt _ => none
  | .uuid => none
  | .array => []
  | .raw => .null
  | .present _ => none

def read : (t : FieldType) → Json → t.Carrier
  | .string, value => (Scalar.fromValue .string value).getD ""
  | .opt s, value => s.fromValue value
  | .uuid, value => (Scalar.fromValue .string value).bind Uuid.parse
  | .array, value => value.asArray.getD []
  | .raw, value => value
  | .present s, value => some (s.fromValue value)

-- What is written of a field, nothing if it is skipped.
def write : (t : FieldType) → t.Carrier → Option Json
  | .string, text => some (.string text)
  | .opt s, x => x.map s.toValue
  | .uuid, id => id.map (fun id => .string id.text)
  | .array, items => some (.array items)
  | .raw, value => some value
  | .present s, x => x.map (fun x => x.elim .null s.toValue)

def isFinite : (t : FieldType) → t.Carrier → Bool
  | .opt s, x => x.all s.isFinite
  | .present s, x => x.all (fun y => y.all s.isFinite)
  | .string, _ | .uuid, _ | .array, _ | .raw, _ => true

-- The values of the type of a field.
def accepts : FieldType → Json → Bool
  | .string, value => Scalar.accepts .string value
  | .opt s, value => s.accepts value
  | .uuid, .string text => (Uuid.parse text).isSome
  | .uuid, _ => false
  | .array, .array _ => true
  | .array, _ => false
  | .raw, _ => true
  | .present s, value => s.accepts value

-- What a field has from a value of another type: its default, but a field that records its presence is
-- present without a value.
def unusable : (t : FieldType) → t.Carrier
  | .present _ => some none
  | .string => default .string
  | .opt s => default (.opt s)
  | .uuid => default .uuid
  | .array => default .array
  | .raw => default .raw

theorem read_of_write {t : FieldType} {x : t.Carrier} (h : t.isFinite x = true) {value : Json}
    (hwrite : t.write x = some value) : t.read value = x := by
  cases t with
  | string =>
    injection hwrite with hwrite
    rw [← hwrite]
    rfl
  | opt s =>
    rcases Option.map_eq_some_iff.mp hwrite with ⟨y, rfl, rfl⟩
    exact Scalar.fromValue_toValue h
  | uuid =>
    rcases Option.map_eq_some_iff.mp hwrite with ⟨id, rfl, rfl⟩
    have : Scalar.fromValue .string (.string id.text) = some id.text := rfl
    simp only [read, this, Option.bind_some]
    exact Uuid.parse_text id
  | array =>
    injection hwrite with hwrite
    rw [← hwrite]
    rfl
  | raw =>
    injection hwrite with hwrite
    exact hwrite.symm
  | present s =>
    rcases Option.map_eq_some_iff.mp hwrite with ⟨y, rfl, rfl⟩
    apply congrArg some
    cases y with
    | none => exact Scalar.fromValue_null s
    | some z => exact Scalar.fromValue_toValue h

theorem default_of_write {t : FieldType} {x : t.Carrier} (h : t.write x = none) : t.default = x := by
  cases t with
  | string => exact absurd h (Option.some_ne_none _)
  | opt s => exact (Option.map_eq_none_iff.mp h).symm
  | uuid => exact (Option.map_eq_none_iff.mp h).symm
  | array => exact absurd h (Option.some_ne_none _)
  | raw => exact absurd h (Option.some_ne_none _)
  | present s => exact (Option.map_eq_none_iff.mp h).symm

theorem read_of_not_accepts {t : FieldType} {value : Json} (h : t.accepts value = false)
    : t.read value = t.unusable := by
  cases t with
  | string =>
    have : Scalar.fromValue .string value = none := Scalar.fromValue_of_not_accepts h
    simp only [read, this]
    rfl
  | opt s => exact Scalar.fromValue_of_not_accepts h
  | uuid =>
    cases value with
    | string text =>
      have hread : Scalar.fromValue .string (.string text) = some text := rfl
      have hnone : Uuid.parse text = none := by simpa [accepts] using h
      simp only [read, hread, Option.bind_some, hnone]
      rfl
    | _ => rfl
  | array =>
    cases value with
    | array items => simp [accepts] at h
    | _ => rfl
  | raw => simp [accepts] at h
  | present s => exact congrArg some (Scalar.fromValue_of_not_accepts h)

end FieldType

structure FieldSpec where
  name : String
  type : FieldType
  deriving DecidableEq, Repr

abbrev Record (schema : List FieldSpec) : Type :=
  (i : Fin schema.length) → (schema.get i).type.Carrier

namespace Record

variable {schema : List FieldSpec}

def nil : Record [] :=
  fun i => i.elim0

def cons {spec : FieldSpec} (x : spec.type.Carrier) (record : Record schema)
    : Record (spec :: schema)
  | ⟨0, _⟩ => x
  | ⟨i + 1, h⟩ => record ⟨i, Nat.lt_of_succ_lt_succ h⟩

def readField (spec : FieldSpec) (fields : List (String × Json)) : spec.type.Carrier :=
  match Fields.get? spec.name fields with
  | some value => spec.type.read value
  | none => spec.type.default

def ofFields (schema : List FieldSpec) (fields : List (String × Json)) : Record schema :=
  fun i => readField (schema.get i) fields

-- From a sequence the fields are read in their order.
def ofItems (schema : List FieldSpec) (items : List Json) : Record schema :=
  fun i =>
    match items[i.val]? with
    | some value => (schema.get i).type.read value
    | none => (schema.get i).type.default

def entries (record : Record schema) : List (String × Json) :=
  (List.finRange schema.length).filterMap
    (fun i => ((schema.get i).type.write (record i)).map (fun value => ((schema.get i).name, value)))

def Finite (record : Record schema) : Prop :=
  ∀ i, (schema.get i).type.isFinite (record i) = true

instance (record : Record schema) : Decidable record.Finite :=
  inferInstanceAs (Decidable (∀ i, (schema.get i).type.isFinite (record i) = true))

theorem readField_congr {spec : FieldSpec} {fields fields' : List (String × Json)}
    (h : Fields.get? spec.name fields = Fields.get? spec.name fields')
    : readField spec fields = readField spec fields' := by
  unfold readField
  rw [h]

theorem name_injective (h : (schema.map FieldSpec.name).Nodup) {i j : Fin schema.length}
    (heq : (schema.get i).name = (schema.get j).name) : i = j := by
  have hspec := List.inj_on_of_nodup_map h (List.get_mem schema i) (List.get_mem schema j) heq
  exact (List.Nodup.of_map _ h).injective_get hspec

theorem mem_entries {record : Record schema} {key : String} {value : Json}
    : (key, value) ∈ record.entries
      ↔ ∃ i, (schema.get i).name = key ∧ (schema.get i).type.write (record i) = some value := by
  simp only [entries, List.mem_filterMap, List.mem_finRange, true_and, Option.map_eq_some_iff,
    Prod.mk.injEq]
  constructor
  . rintro ⟨i, _, hwrite, hname, rfl⟩
    exact ⟨i, hname, hwrite⟩
  . rintro ⟨i, hname, hwrite⟩
    exact ⟨i, value, hwrite, hname, rfl⟩

-- A field is found among the entries as it was written.
theorem get?_collect_entries (h : (schema.map FieldSpec.name).Nodup) (record : Record schema)
    (i : Fin schema.length) {fields : List (String × Json)}
    (hfields : Fields.get? (schema.get i).name fields = none)
    : Fields.get? (schema.get i).name (Fields.collect record.entries fields)
      = (schema.get i).type.write (record i) := by
  cases hwrite : (schema.get i).type.write (record i) with
  | none =>
    rw [Fields.get?_collect_of_not_mem, hfields]
    intro value hmem
    rcases mem_entries.mp hmem with ⟨j, hname, hj⟩
    rcases name_injective h hname
    rw [hwrite] at hj
    cases hj
  | some value =>
    apply Fields.get?_collect_of_mem
    . exact mem_entries.mpr ⟨i, rfl, hwrite⟩
    . intro other hmem
      rcases mem_entries.mp hmem with ⟨j, hname, hj⟩
      rcases name_injective h hname
      rw [hwrite] at hj
      exact (Option.some.inj hj).symm

theorem readField_of_write {spec : FieldSpec} {x : spec.type.Carrier} (h : spec.type.isFinite x = true)
    {fields : List (String × Json)} (hget : Fields.get? spec.name fields = spec.type.write x)
    : readField spec fields = x := by
  unfold readField
  rw [hget]
  split
  . next value hwrite => exact FieldType.read_of_write h hwrite
  . next hwrite => exact FieldType.default_of_write hwrite

-- A value of another type is all that the other fields do not see.
theorem ofFields_insert (h : (schema.map FieldSpec.name).Nodup) (i : Fin schema.length) {value : Json}
    (hvalue : (schema.get i).type.accepts value = false) (fields : List (String × Json))
    : ofFields schema (Fields.insert (schema.get i).name value fields)
      = Function.update (ofFields schema fields) i (schema.get i).type.unusable := by
  funext j
  by_cases hji : j = i
  . subst hji
    rw [Function.update_self]
    unfold ofFields readField
    rw [Fields.get?_insert_self]
    exact FieldType.read_of_not_accepts hvalue
  . rw [Function.update_of_ne hji]
    apply readField_congr
    apply Fields.get?_insert_of_ne
    intro hname
    exact hji (name_injective h hname)

end Record

end Vantyr
