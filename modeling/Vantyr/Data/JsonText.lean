import Vantyr.Data.Json

/-!
This module contains JSON texts as the crate `serde_json` writes and reads them: how long a text can
be, and what is read back from what was written.
-/

namespace Vantyr

namespace Json

mutual

/--
A bound on the length of a JSON text: a number takes at most 24 characters, a byte of a string six.
-/
def renderedSize : Json → Nat
  | .null => 4
  | .bool _ => 5
  | .number _ => 24
  | .string s => 6 * s.utf8ByteSize + 2
  | .array items => itemsSize items + 2
  | .object fields => fieldsSize fields + 2

def itemsSize : List Json → Nat
  | [] => 0
  | item :: items => renderedSize item + 1 + itemsSize items

def fieldsSize : List (String × Json) → Nat
  | [] => 0
  | (key, value) :: fields => 6 * key.utf8ByteSize + renderedSize value + 4 + fieldsSize fields

end

mutual

def mapFloats (f : Nat → Nat) : Json → Json
  | .number (.float bits) => .number (.float (f bits))
  | .array items => .array (mapFloatsItems f items)
  | .object fields => .object (mapFloatsFields f fields)
  | value => value

def mapFloatsItems (f : Nat → Nat) : List Json → List Json
  | [] => []
  | item :: items => mapFloats f item :: mapFloatsItems f items

def mapFloatsFields (f : Nat → Nat) : List (String × Json) → List (String × Json)
  | [] => []
  | (key, value) :: fields => (key, mapFloats f value) :: mapFloatsFields f fields

end

theorem get?_mapFloatsFields (f : Nat → Nat) (fields : List (String × Json)) (key : String)
    : Fields.get? key (mapFloatsFields f fields) = (Fields.get? key fields).map (mapFloats f) := by
  induction fields with
  | nil => rfl
  | cons field fields ih =>
    rw [mapFloatsFields, Fields.get?_cons, Fields.get?_cons, ih]
    split
    . rfl
    . rfl

theorem get?_mapFloats (f : Nat → Nat) (value : Json) (key : String)
    : (value.mapFloats f).get? key = (value.get? key).map (mapFloats f) := by
  cases value with
  | object fields => exact get?_mapFloatsFields f fields key
  | number n =>
    cases n with
    | _ => rfl
  | _ => rfl

theorem field_mapFloats (f : Nat → Nat) (value : Json) (key : String)
    : (value.mapFloats f).field key = (value.field key).mapFloats f := by
  unfold field
  rw [get?_mapFloats]
  cases value.get? key with
  | none => rfl
  | some _ => rfl

theorem asStr_mapFloats (f : Nat → Nat) (value : Json) : (value.mapFloats f).asStr = value.asStr := by
  cases value with
  | number n =>
    cases n with
    | _ => rfl
  | _ => rfl

theorem fieldsSize_erase (key : String) (fields : List (String × Json))
    : fieldsSize (Fields.erase key fields) ≤ fieldsSize fields := by
  unfold Fields.erase
  induction fields with
  | nil => exact Nat.le_refl _
  | cons field fields ih =>
    rw [List.filter_cons]
    split
    . simp only [fieldsSize]
      omega
    . simp only [fieldsSize]
      omega

theorem fieldsSize_insert (key : String) (value : Json) (fields : List (String × Json))
    : fieldsSize (Fields.insert key value fields)
        ≤ fieldsSize fields + (6 * key.utf8ByteSize + renderedSize value + 4) := by
  induction fields with
  | nil =>
    simp only [Fields.insert, fieldsSize]
    omega
  | cons field fields ih =>
    unfold Fields.insert
    split
    . simp only [fieldsSize]
      omega
    . split
      . simp only [fieldsSize]
        omega
      . simp only [fieldsSize]
        omega

-- How many bytes a character takes in a string: some have an escape of their own.
def escapedSize (c : Char) : Nat :=
  if c = '"' ∨ c = '\\' then
    2
  else if c.toNat < 0x20 then
    if c.toNat = 0x08 ∨ c.toNat = 0x09 ∨ c.toNat = 0x0a ∨ c.toNat = 0x0c ∨ c.toNat = 0x0d then 2
    else 6
  else
    c.utf8Size

def quotedSize (text : String) : Nat :=
  (text.toList.map escapedSize).sum + 2

def numberSize (floatSize : Nat → Nat) : Number → Nat
  | .posInt n => (Nat.toDigits 10 n).length
  | .negInt n => (Nat.toDigits 10 (n + 1)).length + 1
  | .float bits => floatSize bits

mutual

/--
The length of a JSON text without white space. How long a number with a fraction is gets decided by
the crate `ryu`.
-/
def compactSize (floatSize : Nat → Nat) : Json → Nat
  | .null => 4
  | .bool b => if b then 4 else 5
  | .number n => numberSize floatSize n
  | .string s => quotedSize s
  | .array items => compactItems floatSize items + 2
  | .object fields => compactFields floatSize fields + 2

def compactItems (floatSize : Nat → Nat) : List Json → Nat
  | [] => 0
  | [item] => compactSize floatSize item
  | item :: items => compactSize floatSize item + 1 + compactItems floatSize items

def compactFields (floatSize : Nat → Nat) : List (String × Json) → Nat
  | [] => 0
  | [(key, value)] => quotedSize key + 1 + compactSize floatSize value
  | (key, value) :: fields =>
    quotedSize key + 1 + compactSize floatSize value + 1 + compactFields floatSize fields

end

end Json

structure JsonText where
  toVec : Json → List UInt8
  fromSlice : List UInt8 → Option Json

/--
A value that is written as a text of a usual length, from which it is read back up to the last bits of
the numbers with a fraction.
-/
structure JsonText.Writes (text : JsonText) (value : Json) : Prop where
  size : (text.toVec value).length ≤ value.renderedSize
  readBack : ∃ f, text.fromSlice (text.toVec value) = some (value.mapFloats f)

-- A text of which no more can be read than it is long.
def JsonText.Reads (text : JsonText) (bytes : List UInt8) : Prop :=
  ∀ value ∈ text.fromSlice bytes, value.renderedSize ≤ 24 * bytes.length

end Vantyr
