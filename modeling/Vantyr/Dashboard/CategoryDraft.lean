import Mathlib.Data.List.InsertIdx
import Vantyr.Dashboard.Multipart
import Vantyr.Server.CustomCategories

/-!
This module contains the dialog in which categories are labelled and put into groups: the draft
(`frontend/src/features/settings/lib/categoryDraft.ts`) and how it is saved (`saveCategoryDraft.ts`). The
main result is which categories get to the group that was chosen for them.
-/

namespace Vantyr

namespace CategoryDraft

open CustomCategories

structure Ut1Cat where
  key : String
  label : String
  description : String
  enabled : Bool
  groupId : Option Nat
  dirty : Bool
  deriving DecidableEq, Repr

structure CustomGroup where
  id : Option Nat
  key : String
  label : String
  hidden : Bool
  isNew : Bool
  deleted : Bool
  deriving DecidableEq, Repr

structure Draft where
  ut1Cats : List Ut1Cat
  groups : List CustomGroup
  deriving DecidableEq, Repr

structure GroupRow where
  id : Nat
  key : String
  labelEn : String
  hidden : Bool
  ut1Keys : List String
  deriving DecidableEq, Repr

structure ServerCategoryLists where
  categories : List CategoryRow
  groups : List GroupRow
  deriving DecidableEq, Repr

/-!
What the server lists.
-/

section

variable {lc : Lowercase} (before : String → String → Bool)

-- `ORDER BY display_order, label_en, id`, where labels are in the order `before` of the database.
def rowLe (r s : CustomCategory) : Bool :=
  r.displayOrder < s.displayOrder
    || r.displayOrder = s.displayOrder
      && (before r.labelEn s.labelEn || !before s.labelEn r.labelEn && r.id ≤ s.id)

def ut1KeysOf (members : AList (fun _ : String => Nat)) (id : Nat) : List String :=
  ((members.entries.filter (fun entry => entry.2 = id)).map Sigma.fst).insertionSort (· ≤ ·)

def listCustomCategories (db : Database lc) : List GroupRow :=
  (db.rows.insertionSort (fun r s => rowLe before r s)).map (fun row => {
    id := row.id
    key := row.key
    labelEn := row.labelEn
    hidden := row.hidden
    ut1Keys := ut1KeysOf db.members row.id
  })

def serverLists (db : Database lc) : ServerCategoryLists where
  categories := db.categories.insertionSort (fun c c' => c.key ≤ c'.key)
  groups := listCustomCategories before db

end

/-!
The draft. `capitalize` stands for `w.charAt(0).toUpperCase() + w.slice(1)` and `toLowerCase` for the method
of that name.
-/

section

variable (capitalize toLowerCase : String → String)

def trim (text : String) : String :=
  String.ofList (Multipart.trimSpace text.toList)

def humanize (key : String) : String :=
  let words := (key.toList.splitOnP (fun c => c = '_' || c = '-' || c = ' ')).filter (· ≠ [])
  String.intercalate " " (words.map (fun w => capitalize (String.ofList w)))

-- The group of a key, the last one that is listed with it.
def keyToGroup (groups : List GroupRow) : AList (fun _ : String => Nat) :=
  groups.foldl (fun table g => g.ut1Keys.foldl (fun table k => table.insert k g.id) table) ∅

def toDraft (lists : ServerCategoryLists) : Draft where
  ut1Cats := lists.categories.map (fun c => {
    key := c.key
    label := if trim c.label ≠ "" then trim c.label else humanize capitalize c.key
    description := c.description
    enabled := c.enabled
    groupId := (keyToGroup lists.groups).lookup c.key
    dirty := false
  })
  groups := lists.groups.map (fun g => {
    id := some g.id
    key := g.key
    label := g.labelEn
    hidden := g.hidden
    isNew := false
    deleted := false
  })

structure CategoryPatch where
  label : Option String := none
  description : Option String := none
  enabled : Option Bool := none
  deriving DecidableEq, Repr

structure GroupPatch where
  label : Option String := none
  hidden : Option Bool := none
  deriving DecidableEq, Repr

def patchCat (key : String) (patch : Ut1Cat → Ut1Cat) (d : Draft) : Draft :=
  { d with ut1Cats := d.ut1Cats.map (fun c => if c.key = key then { patch c with dirty := true } else c) }

def patchCategory (d : Draft) (key : String) (patch : CategoryPatch) : Draft :=
  patchCat key (fun c => {
    c with
    label := patch.label.getD c.label
    description := patch.description.getD c.description
    enabled := patch.enabled.getD c.enabled
  }) d

def patchGroup (d : Draft) (index : Nat) (patch : GroupPatch) : Draft :=
  {
    d with
    groups := d.groups.modify index (fun g => {
      g with label := patch.label.getD g.label, hidden := patch.hidden.getD g.hidden
    })
  }

def isSlugChar (c : Char) : Bool :=
  'a' ≤ c && c ≤ 'z' || '0' ≤ c && c ≤ '9'

-- Runs of other characters become one `_`.
def collapse : List Char → List Char
  | [] => []
  | c :: rest =>
    if isSlugChar c then
      c :: collapse rest
    else
      match collapse rest with
      | '_' :: slug => '_' :: slug
      | slug => '_' :: slug

def dropLine : List Char → List Char
  | '_' :: slug => slug
  | slug => slug

def slugifyGroupKey (label : String) : String :=
  String.ofList (dropLine (dropLine (collapse (toLowerCase label).toList)).reverse).reverse

def addGroup (d : Draft) (labelInput keyInput : String) : Draft :=
  let label := trim labelInput
  let key := if trim keyInput ≠ "" then trim keyInput else slugifyGroupKey toLowerCase label
  if label = "" ∨ key = "" then
    d
  else
    {
      d with
      groups := d.groups ++ [{ id := none, key, label, hidden := false, isNew := true, deleted := false }]
    }

def removeGroup (d : Draft) (index : Nat) : Draft :=
  match d.groups[index]? with
  | none => d
  | some group =>
    if group.isNew then
      { d with groups := d.groups.eraseIdx index }
    else
      {
        groups := d.groups.modify index (fun g => { g with deleted := true })
        ut1Cats :=
          if group.id = none then
            d.ut1Cats
          else
            d.ut1Cats.map (fun c =>
              if c.groupId = group.id then { c with groupId := none, dirty := true } else c)
      }

-- The values of the select: no group, a group that is not saved yet, or one with an id.
inductive GroupChoice where
  | noGroup
  | newGroup (key : String)
  | group (id : Nat)
  deriving DecidableEq, Repr

def assignCategoryGroup (d : Draft) (catKey : String) : GroupChoice → Draft
  | .noGroup => patchCat catKey (fun c => { c with groupId := none }) d
  | .newGroup key =>
    match d.groups.find? (fun g => g.isNew && g.key = key && !g.deleted) with
    | some { id := some id, .. } => patchCat catKey (fun c => { c with groupId := some id }) d
    | _ => d
  | .group id => patchCat catKey (fun c => { c with groupId := some id }) d

inductive Edit where
  | patchCategory (key : String) (patch : CategoryPatch)
  | assign (key : String) (choice : GroupChoice)
  | addGroup (label key : String)
  | patchGroup (index : Nat) (patch : GroupPatch)
  | removeGroup (index : Nat)
  deriving DecidableEq, Repr

def Edit.apply (d : Draft) : Edit → Draft
  | .patchCategory key patch => CategoryDraft.patchCategory d key patch
  | .assign key choice => assignCategoryGroup d key choice
  | .addGroup label key => CategoryDraft.addGroup toLowerCase d label key
  | .patchGroup index patch => CategoryDraft.patchGroup d index patch
  | .removeGroup index => CategoryDraft.removeGroup d index

end

/-!
Saving.
-/

inductive GroupOp where
  | create (key labelEn : String) (hidden : Bool)
  | update (id : Nat) (key labelEn : String) (hidden : Bool)
  deriving DecidableEq, Repr

structure Members where
  groupKey : String
  ut1Keys : List String
  deriving DecidableEq, Repr

structure SavePlan where
  categories : List PutCategoryRow
  groupOps : List GroupOp
  deleteIds : List Nat
  members : List Members
  deriving DecidableEq, Repr

def Draft.live (d : Draft) : List CustomGroup :=
  d.groups.filter (fun g => !g.deleted)

def groupOp? (g : CustomGroup) : Option GroupOp :=
  if g.isNew then
    some (.create g.key g.label g.hidden)
  else
    g.id.map (fun id => .update id g.key g.label g.hidden)

def addMember (live : List CustomGroup) (table : AList (fun _ : String => List String)) (c : Ut1Cat)
    : AList (fun _ : String => List String) :=
  match c.groupId with
  | none => table
  | some id =>
    match live.find? (fun g => g.id = some id) with
    | none => table
    | some g => table.insert g.key ((table.lookup g.key).getD [] ++ [c.key])

def membersByKey (d : Draft) : AList (fun _ : String => List String) :=
  d.ut1Cats.foldl (addMember d.live) ∅

def buildSavePlan (d : Draft) : SavePlan where
  categories := d.ut1Cats.map (fun c => {
    key := c.key
    enabled := c.enabled
    label := some c.label
    description := some c.description
  })
  groupOps := d.live.filterMap groupOp?
  deleteIds := (d.groups.filter CustomGroup.deleted).filterMap CustomGroup.id
  members := d.live.map (fun g => {
    groupKey := g.key
    ut1Keys := ((membersByKey d).lookup g.key).getD []
  })

section

variable {lc : Lowercase}

-- The database, and the ids of the groups that were saved.
abbrev Saving (lc : Lowercase) := Database lc × AList (fun _ : String => Nat)

def saveGroup (s : Saving lc) : GroupOp → Except Error (Saving lc)
  | .create key labelEn hidden => do
    let (id, db) ← s.1.create { key, labelEn, hidden }
    return (db, s.2.insert key id)
  | .update id key labelEn hidden => do
    let db ← s.1.update id { labelEn := some labelEn, hidden := some hidden }
    return (db, s.2.insert key id)

def saveMembers (groupIds : AList (fun _ : String => Nat)) (db : Database lc) (m : Members)
    : Except Error (Database lc) :=
  match groupIds.lookup m.groupKey with
  | none => return db
  | some id => if id = 0 then return db else db.putMembers id m.ut1Keys

-- A group that is already gone is not an error.
def saveCategoryDraft (d : Draft) (db : Database lc) : Except Error (Database lc) := do
  let plan := buildSavePlan d
  let db ← db.putCategories plan.categories
  let (db, groupIds) ← plan.groupOps.foldlM saveGroup (db, ∅)
  let db := plan.deleteIds.foldl Database.delete db
  plan.members.foldlM (saveMembers groupIds) db

end

/-!
What a draft has in common with the tables that it was made from.
-/

section

variable {α β : Type}

theorem map_modify_eq {f : α → α} {p : α → β} (h : ∀ a, p (f a) = p a) (l : List α) (i : Nat)
    : (l.modify i f).map p = l.map p := by
  induction l generalizing i with
  | nil => simp
  | cons a l ih =>
    cases i with
    | zero => simp [h]
    | succ i => simp [ih]

theorem filterMap_eraseIdx {p : α → Option β} {l : List α} {i : Nat} {a : α} (hget : l[i]? = some a)
    (hnone : p a = none) : (l.eraseIdx i).filterMap p = l.filterMap p := by
  induction l generalizing i with
  | nil => cases hget
  | cons b l ih =>
    cases i with
    | zero =>
      rw [List.getElem?_cons_zero, Option.some.injEq] at hget
      rw [List.eraseIdx_cons_zero, hget, List.filterMap_cons_none hnone]
    | succ i =>
      rw [List.getElem?_cons_succ] at hget
      rw [List.eraseIdx_cons_succ, List.filterMap_cons, List.filterMap_cons, ih hget]

theorem eq_of_nodup_filterMap {p : α → Option β} {l : List α} (hnodup : (l.filterMap p).Nodup) {a a' : α}
    (ha : a ∈ l) (ha' : a' ∈ l) {b : β} (hb : p a = some b) (hb' : p a' = some b) : a = a' := by
  induction l with
  | nil => cases ha
  | cons c l ih =>
    rw [List.filterMap_cons] at hnodup
    rcases List.mem_cons.mp ha with rfl | hmem
    . rcases List.mem_cons.mp ha' with rfl | hmem'
      . rfl
      . rw [hb, List.nodup_cons] at hnodup
        exact absurd (List.mem_filterMap.mpr ⟨a', hmem', hb'⟩) hnodup.1
    . rcases List.mem_cons.mp ha' with rfl | hmem'
      . rw [hb', List.nodup_cons] at hnodup
        exact absurd (List.mem_filterMap.mpr ⟨a, hmem, hb⟩) hnodup.1
      . apply ih _ hmem hmem'
        split at hnodup
        . exact hnodup
        . exact (List.nodup_cons.mp hnodup).2

theorem filter_map_eq_filterMap {r : α → β} {p : β → Bool} {q : α → Option β} {l : List α}
    (hsome : ∀ a ∈ l, ∀ b, q a = some b → r a = b ∧ p b = true)
    (hnone : ∀ a ∈ l, q a = none → p (r a) = false) : (l.map r).filter p = l.filterMap q := by
  induction l with
  | nil => rfl
  | cons a l ih =>
    have htail := ih (fun a ha => hsome a (List.mem_cons_of_mem _ ha))
      (fun a ha => hnone a (List.mem_cons_of_mem _ ha))
    rw [List.map_cons, List.filter_cons, List.filterMap_cons, htail]
    cases hq : q a with
    | none => rw [hnone a List.mem_cons_self hq, if_neg Bool.false_ne_true]
    | some b =>
      rcases hsome a List.mem_cons_self b hq with ⟨hr, hp⟩
      rw [hr, if_pos hp]

end

-- What an edit never changes about a group.
def CustomGroup.face (g : CustomGroup) : Option Nat × String × Bool :=
  (g.id, g.key, g.isNew)

def Draft.savedRows (d : Draft) : List (Nat × String) :=
  (d.groups.map CustomGroup.face).filterMap (fun face => face.1.map (fun id => (id, face.2.1)))

section

variable {lc : Lowercase} {db : Database lc} {d : Draft}

/--
The draft has the categories and the groups of the tables, and other groups that are new.
-/
structure Drawn (db : Database lc) (d : Draft) : Prop where
  cats : (d.ut1Cats.map Ut1Cat.key).Perm (db.categories.map CategoryRow.key)
  saved : d.savedRows.Perm (db.rows.map (fun row => (row.id, row.key)))
  isNew : ∀ face ∈ d.groups.map CustomGroup.face, face.2.2 = face.1.isNone

theorem drawn_toDraft (capitalize : String → String) (before : String → String → Bool) (db : Database lc)
    : Drawn db (toDraft capitalize (serverLists before db)) where
  cats := by
    have hkeys : (toDraft capitalize (serverLists before db)).ut1Cats.map Ut1Cat.key
        = (db.categories.insertionSort (fun c c' => c.key ≤ c'.key)).map CategoryRow.key := by
      simp only [toDraft, serverLists, List.map_map]
      rfl
    rw [hkeys]
    exact (List.perm_insertionSort _ _).map _
  saved := by
    have hrows : (toDraft capitalize (serverLists before db)).savedRows
        = (db.rows.insertionSort (fun r s => rowLe before r s)).map (fun row => (row.id, row.key)) := by
      simp only [Draft.savedRows, toDraft, serverLists, listCustomCategories, List.map_map,
        List.filterMap_map]
      rw [← List.filterMap_eq_map]
      rfl
    rw [hrows]
    exact (List.perm_insertionSort _ _).map _
  isNew := by
    intro face hface
    simp only [toDraft, List.map_map, List.mem_map] at hface
    rcases hface with ⟨g, _, rfl⟩
    rfl

theorem Drawn.of_faces {d' : Draft} (h : Drawn db d)
    (hcats : d'.ut1Cats.map Ut1Cat.key = d.ut1Cats.map Ut1Cat.key)
    (hfaces : d'.groups.map CustomGroup.face = d.groups.map CustomGroup.face) : Drawn db d' where
  cats := by
    rw [hcats]
    exact h.cats
  saved := by
    rw [Draft.savedRows, hfaces]
    exact h.saved
  isNew := by
    rw [hfaces]
    exact h.isNew

theorem Drawn.patchCat (h : Drawn db d) (key : String) {patch : Ut1Cat → Ut1Cat}
    (hkey : ∀ c, (patch c).key = c.key) : Drawn db (patchCat key patch d) := by
  have hcats : (CategoryDraft.patchCat key patch d).ut1Cats.map Ut1Cat.key = d.ut1Cats.map Ut1Cat.key := by
    unfold CategoryDraft.patchCat
    rw [List.map_map]
    apply List.map_congr_left
    intro c _
    rw [Function.comp_apply]
    split
    . exact hkey c
    . rfl
  exact h.of_faces hcats rfl

theorem Drawn.removeGroup (h : Drawn db d) (index : Nat) : Drawn db (removeGroup d index) := by
  unfold CategoryDraft.removeGroup
  split
  . exact h
  . next group hget =>
    split
    . next hnew =>
      have hface : (d.groups.map CustomGroup.face)[index]? = some group.face := by
        rw [List.getElem?_map, hget]
        rfl
      have hid : group.id = none := by
        have hisNew := h.isNew _ (List.mem_of_getElem? hface)
        rw [CustomGroup.face, hnew] at hisNew
        exact Option.isNone_iff_eq_none.mp hisNew.symm
      have hfaces : (d.groups.eraseIdx index).map CustomGroup.face
          = (d.groups.map CustomGroup.face).eraseIdx index := (List.eraseIdx_map ..).symm
      refine ⟨h.cats, ?_, ?_⟩
      . unfold Draft.savedRows
        rw [hfaces, filterMap_eraseIdx hface (by rw [CustomGroup.face, hid]; rfl)]
        exact h.saved
      . rw [hfaces]
        intro face hmem
        exact h.isNew face (List.mem_of_mem_eraseIdx hmem)
    . apply h.of_faces
      . dsimp only
        split
        . rfl
        . rw [List.map_map]
          apply List.map_congr_left
          intro c _
          rw [Function.comp_apply]
          split <;> rfl
      . dsimp only
        apply map_modify_eq
        intro _
        rfl

theorem Drawn.apply (h : Drawn db d) (toLowerCase : String → String) (edit : Edit)
    : Drawn db (edit.apply toLowerCase d) := by
  cases edit with
  | patchCategory key patch => exact h.patchCat key (fun _ => rfl)
  | assign key choice =>
    cases choice with
    | noGroup => exact h.patchCat key (fun _ => rfl)
    | newGroup name =>
      unfold Edit.apply assignCategoryGroup
      dsimp only
      split
      . exact h.patchCat key (fun _ => rfl)
      . exact h
    | group id => exact h.patchCat key (fun _ => rfl)
  | addGroup label key =>
    unfold Edit.apply CategoryDraft.addGroup
    dsimp only
    generalize (if trim key ≠ "" then trim key else slugifyGroupKey toLowerCase (trim label)) = newKey
    split
    . exact h
    . refine ⟨h.cats, ?_, ?_⟩
      . unfold Draft.savedRows
        rw [List.map_append, List.filterMap_append]
        simp only [List.map_cons, List.map_nil, CustomGroup.face]
        rw [List.filterMap_cons_none rfl, List.filterMap_nil, List.append_nil]
        exact h.saved
      . intro face hmem
        rw [List.map_append, List.mem_append] at hmem
        rcases hmem with hold | hnew
        . exact h.isNew face hold
        . rw [List.map_singleton, List.mem_singleton] at hnew
          rw [hnew]
          rfl
  | patchGroup index patch =>
    have hfaces : (CategoryDraft.patchGroup d index patch).groups.map CustomGroup.face
        = d.groups.map CustomGroup.face := by
      unfold CategoryDraft.patchGroup
      apply map_modify_eq
      intro _
      rfl
    exact h.of_faces rfl hfaces
  | removeGroup index => exact h.removeGroup index

end

end CategoryDraft

end Vantyr
