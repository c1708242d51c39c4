import Mathlib.Data.List.Dedup
import Mathlib.Data.List.Sort
import Vantyr.Data.Rollup
import Vantyr.Data.Table
import Vantyr.Data.Text

/-!
This module contains the custom groups of URL categories (`url_categorization/custom.rs`, `db/custom.rs`)
and the switches and labels of the categories themselves (`put_categories`). A category belongs to at most
one group: the index on the members is unique, and a member that another group has is skipped.
-/

namespace Vantyr

namespace CustomCategories

/--
`str::to_lowercase`. A trimmed text in lower case stays the same.
-/
structure Lowercase where
  lower : String → String
  again : ∀ text, lower (Text.trim (lower (Text.trim text))) = lower (Text.trim text)

variable (lc : Lowercase)

def Lowercase.normalKey (key : String) : String :=
  lc.lower (Text.trim key)

structure CategoryRow where
  key : String
  label : String
  enabled : Bool
  description : String
  deriving DecidableEq, Repr

structure CustomCategory where
  id : Nat
  key : String
  labelEn : String
  descriptionEn : String
  displayOrder : Int
  hidden : Bool
  deriving DecidableEq, Repr

/--
The tables. `members` has the group of a category.
-/
structure Database where
  categories : List CategoryRow
  rows : List CustomCategory
  members : AList (fun _ : String => Nat)
  nextId : Nat
  categoryKeys : (categories.map CategoryRow.key).Nodup
  ids : (rows.map CustomCategory.id).Nodup
  fresh : ∀ row ∈ rows, 0 < row.id ∧ row.id < nextId
  positive : 0 < nextId
  keys : (rows.map CustomCategory.key).Nodup
  normal : ∀ row ∈ rows, lc.normalKey row.key = row.key
  owned : ∀ {key id}, members.lookup key = some id → ∃ row ∈ rows, row.id = id

inductive Error where
  | badRequest (text : String)
  | unknownKeys (missing : List String)
  | notFound (text : String)
  | database
  deriving DecidableEq, Repr

structure PutCategoryRow where
  key : String
  enabled : Bool
  label : Option String
  description : Option String
  deriving DecidableEq, Repr

structure CreateBody where
  key : String
  labelEn : String
  descriptionEn : String := ""
  displayOrder : Int := 0
  hidden : Bool := false
  deriving DecidableEq, Repr

structure UpdateBody where
  labelEn : Option String
  descriptionEn : Option String := none
  displayOrder : Option Int := none
  hidden : Option Bool
  deriving DecidableEq, Repr

def isKeyChar (c : Char) : Bool :=
  'a' ≤ c && c ≤ 'z' || '0' ≤ c && c ≤ '9' || c = '_' || c = '-'

def validateCustomKey (key : String) : Bool :=
  let k := Text.trim key
  if k = "" ∨ 64 < k.utf8ByteSize then false else k.toList.all isKeyChar

def PutCategoryRow.apply (update : PutCategoryRow) (row : CategoryRow) : CategoryRow :=
  if row.key = Text.trim update.key then
    match (update.label.map Text.trim).filter (· ≠ "") with
    | some label =>
      { row with enabled := update.enabled, label, description := Text.trim (update.description.getD "") }
    | none => { row with enabled := update.enabled }
  else
    row

theorem PutCategoryRow.apply_key (update : PutCategoryRow) (row : CategoryRow)
    : (update.apply row).key = row.key := by
  unfold PutCategoryRow.apply
  split
  . split <;> rfl
  . rfl

theorem keys_applyAll (updates : List PutCategoryRow) (rows : List CategoryRow)
    : (updates.foldl (fun rows update => rows.map update.apply) rows).map CategoryRow.key
        = rows.map CategoryRow.key := by
  induction updates generalizing rows with
  | nil => rfl
  | cons update updates ih =>
    rw [List.foldl_cons, ih, List.map_map]
    exact List.map_congr_left (fun row _ => update.apply_key row)

-- Members that another group has are skipped: `ON CONFLICT DO NOTHING`.
def insertMember (id : Nat) (members : AList (fun _ : String => Nat)) (key : String)
    : AList (fun _ : String => Nat) :=
  if (members.lookup key).isSome then members else members.insert key id

def replaceMembers (members : AList (fun _ : String => Nat)) (id : Nat) (keys : List String)
    : AList (fun _ : String => Nat) :=
  keys.foldl (insertMember id) (Table.retain (fun _ owner => owner ≠ id) members)

-- The keys that are stored for a group.
def memberKeys (ut1Keys : List String) : List String :=
  let keys := (ut1Keys.map Text.trim).filter (fun k => k ≠ "" && k.utf8ByteSize ≤ 128)
  (keys.insertionSort (· ≤ ·)).dedup

theorem mem_memberKeys {ut1Keys : List String} {key : String}
    : key ∈ memberKeys ut1Keys
      ↔ (∃ raw ∈ ut1Keys, Text.trim raw = key) ∧ key ≠ "" ∧ key.utf8ByteSize ≤ 128 := by
  unfold memberKeys
  rw [List.mem_dedup, List.mem_insertionSort, List.mem_filter, List.mem_map, Bool.and_eq_true,
    decide_eq_true_iff, decide_eq_true_iff]

theorem lookup_insertMembers (id : Nat) (members : AList (fun _ : String => Nat)) (keys : List String)
    (key : String)
    : (keys.foldl (insertMember id) members).lookup key
        = (members.lookup key).or (if key ∈ keys then some id else none) := by
  induction keys generalizing members with
  | nil => simp
  | cons k keys ih =>
    rw [List.foldl_cons, ih]
    unfold insertMember
    by_cases hkey : key = k
    . subst hkey
      cases hlookup : members.lookup key with
      | some owner => simp [hlookup]
      | none => simp
    . split
      . simp [hkey]
      . simp [hkey, AList.lookup_insert_ne hkey]

-- A group settles each category when its members are replaced.
theorem lookup_replaceMembers (members : AList (fun _ : String => Nat)) (id : Nat) (keys : List String)
    (key : String) {want : Option Nat} (hwant : key ∈ keys ↔ want = some id)
    : (replaceMembers members id keys).lookup key = Rollup.settle want (members.lookup key) id := by
  unfold replaceMembers Rollup.settle
  rw [lookup_insertMembers, Table.lookup_retain]
  cases members.lookup key with
  | none => simp [hwant]
  | some owner =>
    by_cases howner : owner = id
    . subst howner
      simp [hwant, Option.filter_some]
    . simp [howner, Option.filter_some]

namespace Database

variable {lc}

def putCategories (db : Database lc) (updates : List PutCategoryRow) : Except Error (Database lc) :=
  if 512 < updates.length then
    .error (.badRequest "at most 512 categories per request")
  else
    .ok {
      db with
      categories := updates.foldl (fun rows update => rows.map update.apply) db.categories
      categoryKeys := by
        rw [keys_applyAll]
        exact db.categoryKeys
    }

def row? (db : Database lc) (id : Nat) : Option CustomCategory :=
  db.rows.find? (fun row => row.id = id)

theorem row?_isSome {db : Database lc} {id : Nat} : (db.row? id).isSome = true ↔ ∃ row ∈ db.rows, row.id = id := by
  unfold row?
  rw [List.find?_isSome]
  simp only [decide_eq_true_eq]

def createRow (db : Database lc) (row : CustomCategory) (hid : row.id = db.nextId)
    (hkey : row.key ∉ db.rows.map CustomCategory.key) (hnormal : lc.normalKey row.key = row.key)
    : Database lc where
  categories := db.categories
  categoryKeys := db.categoryKeys
  rows := db.rows ++ [row]
  members := db.members
  nextId := db.nextId + 1
  ids := by
    rw [List.map_append, List.map_singleton, List.nodup_append]
    refine ⟨db.ids, List.nodup_singleton _, ?_⟩
    intro id hmem other hother heq
    rcases List.mem_map.mp hmem with ⟨old, hold, rfl⟩
    rw [List.mem_singleton.mp hother, hid] at heq
    exact absurd (db.fresh old hold).2 (by omega)
  fresh := by
    intro other hother
    rcases List.mem_append.mp hother with hold | hnew
    . exact ⟨(db.fresh other hold).1, Nat.lt_succ_of_lt (db.fresh other hold).2⟩
    . rw [List.mem_singleton.mp hnew, hid]
      exact ⟨db.positive, Nat.lt_succ_self _⟩
  positive := Nat.succ_pos _
  keys := by
    rw [List.map_append, List.map_singleton, List.nodup_append]
    refine ⟨db.keys, List.nodup_singleton _, ?_⟩
    intro key hmem other hother heq
    rw [List.mem_singleton.mp hother] at heq
    exact hkey (heq ▸ hmem)
  normal := by
    intro other hother
    rcases List.mem_append.mp hother with hold | hnew
    . exact db.normal other hold
    . rw [List.mem_singleton.mp hnew]
      exact hnormal
  owned := by
    intro key id hlookup
    rcases db.owned hlookup with ⟨old, hold, hid⟩
    exact ⟨old, List.mem_append_left _ hold, hid⟩

def create (db : Database lc) (body : CreateBody) : Except Error (Nat × Database lc) :=
  let key := lc.normalKey body.key
  let labelEn := Text.trim body.labelEn
  if !validateCustomKey key then
    .error (.badRequest "invalid key (use lowercase letters, digits, _ or -)")
  else if labelEn = "" ∨ 128 < labelEn.utf8ByteSize then
    .error (.badRequest "label_en is required (max 128 chars)")
  else if hkey : key ∈ db.rows.map CustomCategory.key then
    .error .database
  else
    let row : CustomCategory := {
      id := db.nextId
      key
      labelEn
      descriptionEn := Text.trim body.descriptionEn
      displayOrder := body.displayOrder
      hidden := body.hidden
    }
    .ok (db.nextId, db.createRow row rfl hkey (lc.again body.key))

-- The rows are changed in place.
def mapRows (db : Database lc) (f : CustomCategory → CustomCategory) (hid : ∀ row, (f row).id = row.id)
    (hkey : ∀ row, (f row).key = row.key) : Database lc where
  categories := db.categories
  categoryKeys := db.categoryKeys
  rows := db.rows.map f
  members := db.members
  nextId := db.nextId
  ids := by
    rw [List.map_map, show CustomCategory.id ∘ f = CustomCategory.id from funext hid]
    exact db.ids
  fresh := by
    intro row hrow
    rcases List.mem_map.mp hrow with ⟨old, hold, rfl⟩
    rw [hid]
    exact db.fresh old hold
  positive := db.positive
  keys := by
    rw [List.map_map, show CustomCategory.key ∘ f = CustomCategory.key from funext hkey]
    exact db.keys
  normal := by
    intro row hrow
    rcases List.mem_map.mp hrow with ⟨old, hold, rfl⟩
    rw [hkey]
    exact db.normal old hold
  owned := by
    intro key id hlookup
    rcases db.owned hlookup with ⟨old, hold, hold'⟩
    exact ⟨f old, List.mem_map_of_mem hold, (hid old).trans hold'⟩

def updateRow (id : Nat) (labelEn : String) (body : UpdateBody) (row : CustomCategory) : CustomCategory :=
  if row.id = id then
    {
      row with
      labelEn
      descriptionEn := (body.descriptionEn.map Text.trim).getD row.descriptionEn
      displayOrder := body.displayOrder.getD row.displayOrder
      hidden := body.hidden.getD row.hidden
    }
  else
    row

theorem updateRow_id (id : Nat) (labelEn : String) (body : UpdateBody) (row : CustomCategory)
    : (updateRow id labelEn body row).id = row.id := by
  unfold updateRow
  split <;> rfl

theorem updateRow_key (id : Nat) (labelEn : String) (body : UpdateBody) (row : CustomCategory)
    : (updateRow id labelEn body row).key = row.key := by
  unfold updateRow
  split <;> rfl

def update (db : Database lc) (id : Nat) (body : UpdateBody) : Except Error (Database lc) :=
  match db.row? id with
  | none => .error (.notFound "not found")
  | some cur =>
    let nextLabel := ((body.labelEn.map Text.trim).filter (· ≠ "")).getD cur.labelEn
    if nextLabel = "" ∨ 128 < nextLabel.utf8ByteSize then
      .error (.badRequest "label_en must be non-empty (max 128 chars)")
    else
      .ok (db.mapRows (updateRow id nextLabel body) (updateRow_id id nextLabel body)
        (updateRow_key id nextLabel body))

-- The members go with their group: `ON DELETE CASCADE`.
def delete (db : Database lc) (id : Nat) : Database lc where
  categories := db.categories
  categoryKeys := db.categoryKeys
  rows := db.rows.filter (fun row => row.id ≠ id)
  members := Table.retain (fun _ owner => owner ≠ id) db.members
  nextId := db.nextId
  ids := db.ids.sublist (List.filter_sublist.map _)
  fresh := by
    intro row hrow
    exact db.fresh row (List.mem_filter.mp hrow).1
  positive := db.positive
  keys := db.keys.sublist (List.filter_sublist.map _)
  normal := by
    intro row hrow
    exact db.normal row (List.mem_filter.mp hrow).1
  owned := by
    intro key owner hlookup
    rw [Table.lookup_retain, Option.filter_eq_some_iff] at hlookup
    rcases db.owned hlookup.1 with ⟨row, hrow, rfl⟩
    exact ⟨row, List.mem_filter.mpr ⟨hrow, hlookup.2⟩, rfl⟩

theorem owned_replaceMembers (db : Database lc) {id : Nat} (keys : List String)
    (hid : ∃ row ∈ db.rows, row.id = id) {key : String} {owner : Nat}
    (hlookup : (replaceMembers db.members id keys).lookup key = some owner)
    : ∃ row ∈ db.rows, row.id = owner := by
  unfold replaceMembers at hlookup
  rw [lookup_insertMembers, Table.lookup_retain, Option.or_eq_some_iff] at hlookup
  rcases hlookup with hkept | ⟨_, hnew⟩
  . exact db.owned (Option.filter_eq_some_iff.mp hkept).1
  . split at hnew
    . rwa [← Option.some.inj hnew]
    . cases hnew

def putMembers (db : Database lc) (id : Nat) (ut1Keys : List String) : Except Error (Database lc) :=
  if 4096 < ut1Keys.length then
    .error (.badRequest "too many members (max 4096)")
  else if hid : (db.row? id).isSome then
    let keys := memberKeys ut1Keys
    let missing := (keys.filter (fun k => db.categories.all (fun c => c.key ≠ k))).take 25
    if missing ≠ [] then
      .error (.unknownKeys (missing.filter (· ≠ "")))
    else
      .ok {
        db with
        members := replaceMembers db.members id keys
        owned := db.owned_replaceMembers keys (row?_isSome.mp hid)
      }
  else
    .error (.notFound "not found")

end Database

end CustomCategories

end Vantyr
