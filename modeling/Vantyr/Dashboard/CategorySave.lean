import Vantyr.Dashboard.CategoryDraft

/-!
This module contains what saving a draft of the categories does to the groups they are in. The groups are
saved in the order of the draft, and each one takes its members only where they are free. The main result is
that a category gets to the group that was chosen for it unless this one is listed before the group that the
category is in. Then it ends up in no group.
-/

namespace Vantyr

namespace CategoryDraft

open CustomCategories

section

variable {lc : Lowercase} {db db' : Database lc}

theorem id_eq_of_key {row row' : CustomCategory} (hrow : row ∈ db.rows) (hrow' : row' ∈ db.rows)
    (h : row.key = row'.key) : row.id = row'.id :=
  congrArg CustomCategory.id (List.inj_on_of_nodup_map db.keys hrow hrow' h)

-- Saving a group adds rows, and leaves the ids and keys of the others and all members as they are.
structure Grows (db db' : Database lc) : Prop where
  members : db'.members = db.members
  categories : db'.categories = db.categories
  nextId : db.nextId ≤ db'.nextId
  rows : ∀ row ∈ db.rows, ∃ row' ∈ db'.rows, row'.id = row.id ∧ row'.key = row.key

theorem Grows.refl (db : Database lc) : Grows db db :=
  ⟨rfl, rfl, Nat.le_refl _, fun row hrow => ⟨row, hrow, rfl, rfl⟩⟩

theorem Grows.trans {db'' : Database lc} (h : Grows db db') (h' : Grows db' db'') : Grows db db'' where
  members := h'.members.trans h.members
  categories := h'.categories.trans h.categories
  nextId := Nat.le_trans h.nextId h'.nextId
  rows := by
    intro row hrow
    rcases h.rows row hrow with ⟨row', hrow', hid, hkey⟩
    rcases h'.rows row' hrow' with ⟨row'', hrow'', hid', hkey'⟩
    exact ⟨row'', hrow'', hid'.trans hid, hkey'.trans hkey⟩

theorem create_spec {body : CreateBody} {id : Nat} (h : db.create body = .ok (id, db'))
    : Grows db db' ∧ id = db.nextId ∧ (∃ row ∈ db'.rows, row.id = id ∧ row.key = lc.normalKey body.key)
      ∧ ∀ row ∈ db.rows, row.key ≠ lc.normalKey body.key := by
  unfold Database.create at h
  dsimp only at h
  split at h
  . cases h
  . split at h
    . cases h
    . split at h
      . cases h
      . next hkey =>
        cases h
        refine ⟨⟨rfl, rfl, Nat.le_succ _, ?_⟩, rfl, ?_, ?_⟩
        . intro row hrow
          exact ⟨row, List.mem_append_left _ hrow, rfl, rfl⟩
        . exact ⟨_, List.mem_append_right _ (List.mem_singleton.mpr rfl), rfl, rfl⟩
        . intro row hrow heq
          exact hkey (List.mem_map.mpr ⟨row, hrow, heq⟩)

theorem update_spec {id : Nat} {body : UpdateBody} (h : db.update id body = .ok db') : Grows db db' := by
  unfold Database.update at h
  split at h
  . cases h
  . dsimp only at h
    split at h
    . cases h
    . cases h
      refine ⟨rfl, rfl, Nat.le_refl _, ?_⟩
      intro row hrow
      exact ⟨_, List.mem_map_of_mem hrow, Database.updateRow_id .., Database.updateRow_key ..⟩

def GroupOp.key : GroupOp → String
  | .create key _ _ => key
  | .update _ key _ _ => key

-- The id under which a group was saved is that of the row with its key.
def Recorded (s : Saving lc) : Prop :=
  ∀ {key id}, s.2.lookup key = some id → ∃ row ∈ s.1.rows, row.id = id ∧ row.key = lc.normalKey key

-- What an update is for exists.
def Known (db : Database lc) (op : GroupOp) : Prop :=
  match op with
  | .create _ _ _ => True
  | .update id key _ _ => ∃ row ∈ db.rows, row.id = id ∧ row.key = key

def SavedAs (first : Nat) (op : GroupOp) (id : Nat) : Prop :=
  match op with
  | .create _ _ _ => first ≤ id
  | .update old _ _ _ => id = old

theorem Known.mono {op : GroupOp} (h : Known db op) (hgrows : Grows db db') : Known db' op := by
  cases op with
  | create key label hidden => trivial
  | update id key label hidden =>
    rcases h with ⟨row, hrow, hid, hkey⟩
    rcases hgrows.rows row hrow with ⟨row', hrow', hid', hkey'⟩
    exact ⟨row', hrow', hid'.trans hid, hkey'.trans hkey⟩

theorem saveGroup_spec {s s' : Saving lc} {op : GroupOp} (h : saveGroup s op = .ok s') (hs : Recorded s)
    (hop : Known s.1 op)
    : Grows s.1 s'.1 ∧ Recorded s' ∧ (∀ {key id}, s.2.lookup key = some id → s'.2.lookup key = some id)
      ∧ ∃ id, s'.2.lookup op.key = some id ∧ SavedAs s.1.nextId op id := by
  cases op with
  | create key label hidden =>
    unfold saveGroup at h
    dsimp only at h
    cases hcreate : s.1.create { key, labelEn := label, hidden } with
    | error e =>
      rw [hcreate] at h
      cases h
    | ok result =>
      rcases result with ⟨id, db'⟩
      rw [hcreate] at h
      cases h
      rcases create_spec hcreate with ⟨hgrows, hid, ⟨row, hrow, hrowId, hrowKey⟩, hnew⟩
      refine ⟨hgrows, ?_, ?_, id, AList.lookup_insert _, Nat.le_of_eq hid.symm⟩
      . intro other otherId hlookup
        by_cases hother : other = key
        . subst hother
          rw [AList.lookup_insert, Option.some.injEq] at hlookup
          exact ⟨row, hrow, hrowId.trans hlookup, hrowKey⟩
        . rw [AList.lookup_insert_ne hother] at hlookup
          rcases hs hlookup with ⟨old, hold, holdId, holdKey⟩
          rcases hgrows.rows old hold with ⟨old', hold', hid', hkey'⟩
          exact ⟨old', hold', hid'.trans holdId, hkey'.trans holdKey⟩
      . intro other otherId hlookup
        have hother : other ≠ key := by
          rintro rfl
          rcases hs hlookup with ⟨old, hold, _, holdKey⟩
          exact hnew old hold holdKey
        rwa [AList.lookup_insert_ne hother]
  | update id key label hidden =>
    unfold saveGroup at h
    dsimp only at h
    cases hupdate : s.1.update id { labelEn := some label, hidden := some hidden } with
    | error e =>
      rw [hupdate] at h
      cases h
    | ok db' =>
      rw [hupdate] at h
      cases h
      have hgrows := update_spec hupdate
      rcases hop with ⟨row, hrow, hrowId, hrowKey⟩
      have hnormal : lc.normalKey key = key := by
        rw [← hrowKey]
        exact s.1.normal row hrow
      refine ⟨hgrows, ?_, ?_, id, AList.lookup_insert _, rfl⟩
      . intro other otherId hlookup
        by_cases hother : other = key
        . subst hother
          rw [AList.lookup_insert, Option.some.injEq] at hlookup
          rcases hgrows.rows row hrow with ⟨row', hrow', hid', hkey'⟩
          refine ⟨row', hrow', ?_, ?_⟩
          . rw [hid', hrowId, hlookup]
          . rw [hkey', hrowKey, hnormal]
        . rw [AList.lookup_insert_ne hother] at hlookup
          rcases hs hlookup with ⟨old, hold, holdId, holdKey⟩
          rcases hgrows.rows old hold with ⟨old', hold', hid', hkey'⟩
          exact ⟨old', hold', hid'.trans holdId, hkey'.trans holdKey⟩
      . intro other otherId hlookup
        by_cases hother : other = key
        . subst hother
          rcases hs hlookup with ⟨old, hold, holdId, holdKey⟩
          rw [AList.lookup_insert, Option.some.injEq, ← holdId, ← hrowId]
          exact id_eq_of_key hrow hold (by rw [hrowKey, holdKey, hnormal])
        . rwa [AList.lookup_insert_ne hother]

theorem saveGroups_spec {ops : List GroupOp} {s s' : Saving lc} (h : ops.foldlM saveGroup s = .ok s')
    (hs : Recorded s) (hops : ∀ op ∈ ops, Known s.1 op)
    : Grows s.1 s'.1 ∧ Recorded s' ∧ (∀ {key id}, s.2.lookup key = some id → s'.2.lookup key = some id)
      ∧ ∀ op ∈ ops, ∃ id, s'.2.lookup op.key = some id ∧ SavedAs s.1.nextId op id := by
  induction ops generalizing s with
  | nil =>
    cases h
    exact ⟨Grows.refl _, hs, fun hlookup => hlookup, fun _ hop => by cases hop⟩
  | cons op ops ih =>
    rw [List.foldlM_cons] at h
    cases hstep : saveGroup s op with
    | error e =>
      rw [hstep] at h
      cases h
    | ok mid =>
      rw [hstep] at h
      rcases saveGroup_spec hstep hs (hops op List.mem_cons_self) with ⟨hgrows, hmid, hkept, id, hid, has⟩
      have hknown : ∀ other ∈ ops, Known mid.1 other :=
        fun other hother => (hops other (List.mem_cons_of_mem _ hother)).mono hgrows
      rcases ih h hmid hknown with ⟨hgrows', hdone, hkept', hall⟩
      refine ⟨hgrows.trans hgrows', hdone, fun hlookup => hkept' (hkept hlookup), ?_⟩
      intro other hother
      rcases List.mem_cons.mp hother with rfl | hother
      . exact ⟨id, hkept' hid, has⟩
      . rcases hall other hother with ⟨otherId, hlookup, hsaved⟩
        refine ⟨otherId, hlookup, ?_⟩
        cases other with
        | create key label hidden => exact Nat.le_trans hgrows.nextId hsaved
        | update old key label hidden => exact hsaved

-- The groups that are removed take their members along.
theorem deletes_spec (db : Database lc) (ids : List Nat) (key : String)
    : (ids.foldl Database.delete db).members.lookup key
        = (db.members.lookup key).filter (fun id => id ∉ ids) := by
  induction ids generalizing db with
  | nil =>
    cases h : db.members.lookup key <;> simp [h, Option.filter_some]
  | cons id ids ih =>
    rw [List.foldl_cons, ih]
    change ((Table.retain (fun _ owner => owner ≠ id) db.members).lookup key).filter _ = _
    rw [Table.lookup_retain, Option.filter_filter]
    congr 1
    funext owner
    simp only [List.mem_cons, not_or, decide_not, Bool.decide_and]

theorem putMembers_spec {id : Nat} {ut1Keys : List String} (h : db.putMembers id ut1Keys = .ok db')
    : db'.members = replaceMembers db.members id (memberKeys ut1Keys) := by
  unfold Database.putMembers at h
  split at h
  . cases h
  . split at h
    . dsimp only at h
      split at h
      . cases h
      . cases h
        rfl
    . cases h

def idOf (groupIds : AList (fun _ : String => Nat)) (m : Members) : Nat :=
  (groupIds.lookup m.groupKey).getD 0

-- One group after the other settles a category.
theorem saveMembers_spec {groupIds : AList (fun _ : String => Nat)} {ms : List Members} {key : String}
    {want : Option Nat} (h : ms.foldlM (saveMembers groupIds) db = .ok db')
    (hms : ∀ m ∈ ms, idOf groupIds m ≠ 0
      ∧ (key ∈ memberKeys m.ut1Keys ↔ want = some (idOf groupIds m)))
    : db'.members.lookup key
        = (ms.map (idOf groupIds)).foldl (Rollup.settle want) (db.members.lookup key) := by
  induction ms generalizing db with
  | nil =>
    cases h
    rfl
  | cons m ms ih =>
    rw [List.foldlM_cons] at h
    rcases hms m List.mem_cons_self with ⟨hpos, hwant⟩
    cases hstep : saveMembers groupIds db m with
    | error e =>
      rw [hstep] at h
      cases h
    | ok mid =>
      rw [hstep] at h
      rw [ih h (fun other hother => hms other (List.mem_cons_of_mem _ hother)), List.map_cons,
        List.foldl_cons]
      congr 1
      unfold saveMembers at hstep
      cases hlookup : groupIds.lookup m.groupKey with
      | none =>
        rw [idOf, hlookup] at hpos
        exact absurd rfl hpos
      | some id =>
        have hid : idOf groupIds m = id := by rw [idOf, hlookup, Option.getD_some]
        rw [hid] at hpos hwant ⊢
        rw [hlookup] at hstep
        dsimp only at hstep
        rw [if_neg hpos] at hstep
        rw [putMembers_spec hstep, lookup_replaceMembers _ _ _ _ hwant]

end

/-!
The members that the plan has for a group.
-/

-- The group that a category is put into, if it is not deleted.
def Draft.placed (d : Draft) (c : Ut1Cat) : Option CustomGroup :=
  c.groupId.bind (fun id => d.live.find? (fun g => g.id = some id))

def Draft.groupOf (d : Draft) (c : Ut1Cat) : Option Nat :=
  (d.placed c).bind CustomGroup.id

-- The groups that stay, in the order in which they are saved.
def Draft.liveIds (d : Draft) : List Nat :=
  d.live.filterMap CustomGroup.id

-- The group that has a category before the draft is saved, if it stays.
def Draft.heldBy {lc : Lowercase} (d : Draft) (db : Database lc) (key : String) : Option Nat :=
  (db.members.lookup key).filter (fun id => id ∈ d.liveIds)

section

variable {d : Draft} {c : Ut1Cat} {g : CustomGroup}

theorem placed_spec (h : d.placed c = some g) : g ∈ d.live ∧ g.id = c.groupId ∧ g.id.isSome = true := by
  unfold Draft.placed at h
  rcases Option.bind_eq_some_iff.mp h with ⟨id, hgroup, hfind⟩
  have hid := List.find?_some hfind
  rw [decide_eq_true_iff] at hid
  exact ⟨List.mem_of_find?_eq_some hfind, hid.trans hgroup.symm, by rw [hid]; rfl⟩

theorem addMember_lookup (live : List CustomGroup) (table : AList (fun _ : String => List String)) (c : Ut1Cat)
    (groupKey : String)
    : ((addMember live table c).lookup groupKey).getD []
        = (table.lookup groupKey).getD []
          ++ if ∃ g, c.groupId.bind (fun id => live.find? (fun g => g.id = some id)) = some g ∧ g.key = groupKey
            then [c.key] else [] := by
  unfold addMember
  cases c.groupId with
  | none => simp
  | some id =>
    dsimp only
    rw [Option.bind_some]
    cases live.find? (fun g => g.id = some id) with
    | none => simp
    | some g =>
      dsimp only
      by_cases hkey : g.key = groupKey
      . subst hkey
        simp
      . rw [AList.lookup_insert_ne (fun heq => hkey heq.symm)]
        simp [hkey]

theorem mem_membersByKey {key groupKey : String}
    : key ∈ ((membersByKey d).lookup groupKey).getD []
      ↔ ∃ c ∈ d.ut1Cats, c.key = key ∧ ∃ g, d.placed c = some g ∧ g.key = groupKey := by
  have hfold (cats : List Ut1Cat) (table : AList (fun _ : String => List String))
      : key ∈ ((cats.foldl (addMember d.live) table).lookup groupKey).getD []
        ↔ key ∈ (table.lookup groupKey).getD []
          ∨ ∃ c ∈ cats, c.key = key ∧ ∃ g, d.placed c = some g ∧ g.key = groupKey := by
    induction cats generalizing table with
    | nil => simp
    | cons c cats ih =>
      rw [List.foldl_cons, ih, addMember_lookup, List.mem_append, or_assoc, List.exists_mem_cons_iff]
      apply or_congr_right
      apply or_congr_left
      change key ∈ (if ∃ g, d.placed c = some g ∧ g.key = groupKey then [c.key] else []) ↔ _
      split
      . next hplaced =>
        rw [List.mem_singleton]
        exact ⟨fun heq => ⟨heq.symm, hplaced⟩, fun heq => heq.1.symm⟩
      . next hnot => simp [hnot]
  unfold membersByKey
  rw [hfold]
  simp

end

/-!
The main result.
-/

section

variable {lc : Lowercase} {db db' : Database lc} {d : Draft}

theorem savedRows_fst (d : Draft) : d.savedRows.map Prod.fst = d.groups.filterMap CustomGroup.id := by
  unfold Draft.savedRows
  rw [List.filterMap_map, List.map_filterMap]
  apply List.filterMap_congr
  intro g _
  rw [Function.comp_apply, CustomGroup.face]
  cases g.id <;> rfl

theorem Drawn.nodup (h : Drawn db d) : (d.groups.filterMap CustomGroup.id).Nodup := by
  rw [← savedRows_fst, (h.saved.map Prod.fst).nodup_iff, List.map_map]
  exact db.ids

theorem mem_savedRows {pair : Nat × String}
    : pair ∈ d.savedRows ↔ ∃ g ∈ d.groups, g.id = some pair.1 ∧ g.key = pair.2 := by
  unfold Draft.savedRows
  rw [List.filterMap_map, List.mem_filterMap]
  apply exists_congr
  intro g
  apply and_congr_right
  intro _
  rw [Function.comp_apply, CustomGroup.face, Option.map_eq_some_iff]
  constructor
  . rintro ⟨id, hid, rfl⟩
    exact ⟨hid, rfl⟩
  . rintro ⟨hid, hkey⟩
    exact ⟨pair.1, hid, by rw [hkey]⟩

theorem Drawn.row (h : Drawn db d) {g : CustomGroup} {id : Nat} (hg : g ∈ d.groups) (hid : g.id = some id)
    : ∃ row ∈ db.rows, row.id = id ∧ row.key = g.key := by
  have hmem : (id, g.key) ∈ d.savedRows := mem_savedRows.mpr ⟨g, hg, hid, rfl⟩
  rcases List.mem_map.mp (h.saved.subset hmem) with ⟨row, hrow, heq⟩
  exact ⟨row, hrow, congrArg Prod.fst heq, congrArg Prod.snd heq⟩

theorem Drawn.group (h : Drawn db d) {row : CustomCategory} (hrow : row ∈ db.rows)
    : ∃ g ∈ d.groups, g.id = some row.id := by
  have hmem : (row.id, row.key) ∈ d.savedRows := h.saved.symm.subset (List.mem_map.mpr ⟨row, hrow, rfl⟩)
  rcases mem_savedRows.mp hmem with ⟨g, hg, hid, _⟩
  exact ⟨g, hg, hid⟩

theorem mem_live {g : CustomGroup} : g ∈ d.live ↔ g ∈ d.groups ∧ g.deleted = false := by
  unfold Draft.live
  rw [List.mem_filter, Bool.not_eq_true']

-- Of the groups of the tables, those that are not deleted stay.
theorem Drawn.live_iff (h : Drawn db d) {row : CustomCategory} (hrow : row ∈ db.rows)
    : row.id ∈ d.liveIds ↔ row.id ∉ (buildSavePlan d).deleteIds := by
  rcases h.group hrow with ⟨g, hg, hid⟩
  unfold Draft.liveIds buildSavePlan
  dsimp only
  rw [List.mem_filterMap, List.mem_filterMap]
  constructor
  . rintro ⟨live, hlive, hliveId⟩ ⟨deleted, hdeleted, hdeletedId⟩
    rcases List.mem_filter.mp hdeleted with ⟨hmem, hflag⟩
    rcases mem_live.mp hlive with ⟨hmem', hflag'⟩
    rw [eq_of_nodup_filterMap h.nodup hmem hmem' hdeletedId hliveId, hflag'] at hflag
    cases hflag
  . intro hnot
    refine ⟨g, mem_live.mpr ⟨hg, ?_⟩, hid⟩
    by_contra hdeleted
    rw [Bool.not_eq_false] at hdeleted
    exact hnot ⟨g, List.mem_filter.mpr ⟨hg, hdeleted⟩, hid⟩

theorem Drawn.heldBy_eq (h : Drawn db d) (key : String)
    : d.heldBy db key = (db.members.lookup key).filter (fun id => id ∉ (buildSavePlan d).deleteIds) := by
  unfold Draft.heldBy
  cases hlookup : db.members.lookup key with
  | none => rfl
  | some id =>
    rcases db.owned hlookup with ⟨row, hrow, rfl⟩
    rw [Option.filter_some, Option.filter_some]
    congr 1
    exact propext ⟨fun hmem => decide_eq_true ((h.live_iff hrow).mp (of_decide_eq_true hmem)),
      fun hnot => decide_eq_true ((h.live_iff hrow).mpr (of_decide_eq_true hnot))⟩

theorem Drawn.known (h : Drawn db d) : ∀ op ∈ (buildSavePlan d).groupOps, Known db op := by
  intro op hop
  rcases List.mem_filterMap.mp hop with ⟨g, hg, hgroupOp⟩
  unfold groupOp? at hgroupOp
  split at hgroupOp
  . cases hgroupOp
    trivial
  . rcases Option.map_eq_some_iff.mp hgroupOp with ⟨id, hid, rfl⟩
    exact h.row (mem_live.mp hg).1 hid

-- Every group that stays is saved: under its id, or under a new one.
theorem Drawn.savedAs (h : Drawn db d) {groupIds : AList (fun _ : String => Nat)} {first : Nat}
    (hall : ∀ op ∈ (buildSavePlan d).groupOps, ∃ id, groupIds.lookup op.key = some id ∧ SavedAs first op id)
    {g : CustomGroup} (hg : g ∈ d.live)
    : ∃ id, groupIds.lookup g.key = some id ∧ (∀ old, g.id = some old → id = old)
      ∧ (g.id = none → first ≤ id) := by
  have hisNew : g.isNew = g.id.isNone := h.isNew _ (List.mem_map_of_mem (mem_live.mp hg).1)
  cases hid : g.id with
  | none =>
    rw [hid] at hisNew
    have hop : GroupOp.create g.key g.label g.hidden ∈ (buildSavePlan d).groupOps :=
      List.mem_filterMap.mpr ⟨g, hg, if_pos hisNew⟩
    rcases hall _ hop with ⟨id, hlookup, hfirst⟩
    exact ⟨id, hlookup, fun old hold => (by cases hold), fun _ => hfirst⟩
  | some old =>
    rw [hid] at hisNew
    have hop : GroupOp.update old g.key g.label g.hidden ∈ (buildSavePlan d).groupOps := by
      refine List.mem_filterMap.mpr ⟨g, hg, ?_⟩
      unfold groupOp?
      rw [hisNew, hid]
      rfl
    rcases hall _ hop with ⟨id, hlookup, hsame⟩
    refine ⟨id, hlookup, ?_, fun hnone => (by cases hnone)⟩
    intro other hother
    rw [← Option.some.inj hother]
    exact hsame

-- A key that is stored as a member the way it is.
def Storable (key : String) : Prop :=
  Text.trim key = key ∧ key ≠ "" ∧ key.utf8ByteSize ≤ 128

instance (key : String) : Decidable (Storable key) :=
  inferInstanceAs (Decidable (_ ∧ _ ∧ _))

-- What a group takes are the categories that were put into it.
theorem Drawn.members_iff (h : Drawn db d) (hkeys : ∀ row ∈ db.categories, Storable row.key) {c : Ut1Cat}
    (hc : c ∈ d.ut1Cats) (groupKey : String)
    : c.key ∈ memberKeys (((membersByKey d).lookup groupKey).getD [])
      ↔ ∃ g, d.placed c = some g ∧ g.key = groupKey := by
  have hstorable : ∀ other ∈ d.ut1Cats, Storable other.key := by
    intro other hother
    rcases List.mem_map.mp (h.cats.subset (List.mem_map_of_mem hother)) with ⟨row, hrow, heq⟩
    rw [← heq]
    exact hkeys row hrow
  have hnodup : (d.ut1Cats.map Ut1Cat.key).Nodup := h.cats.nodup_iff.mpr db.categoryKeys
  rw [mem_memberKeys]
  constructor
  . rintro ⟨⟨raw, hraw, htrim⟩, _⟩
    rcases mem_membersByKey.mp hraw with ⟨other, hother, rfl, hplaced⟩
    rw [(hstorable other hother).1] at htrim
    rwa [List.inj_on_of_nodup_map hnodup hother hc htrim] at hplaced
  . intro hplaced
    refine ⟨⟨c.key, mem_membersByKey.mpr ⟨c, hc, rfl, hplaced⟩, (hstorable c hc).1⟩, (hstorable c hc).2⟩

-- A category is wanted by the group it was put into, under the id that this one was saved as.
theorem Drawn.wanted_iff (h : Drawn db d) {groupIds : AList (fun _ : String => Nat)} {c : Ut1Cat}
    (hid : ∀ g ∈ d.live, ∃ id, groupIds.lookup g.key = some id ∧ (∀ old, g.id = some old → id = old)
      ∧ (g.id = none → db.nextId ≤ id)) {g : CustomGroup} (hg : g ∈ d.live) {id : Nat}
    (hlookup : groupIds.lookup g.key = some id)
    : (∃ g', d.placed c = some g' ∧ g'.key = g.key) ↔ d.groupOf c = some id := by
  unfold Draft.groupOf
  constructor
  . rintro ⟨g', hplaced, hkey⟩
    rcases placed_spec hplaced with ⟨hlive, _, hsome⟩
    rcases Option.isSome_iff_exists.mp hsome with ⟨old, hold⟩
    rcases hid g' hlive with ⟨id', hlookup', hsame, _⟩
    rw [hkey, hlookup, Option.some.injEq] at hlookup'
    rw [hplaced, Option.bind_some, hold, hlookup', hsame old hold]
  . intro hgroup
    rcases Option.bind_eq_some_iff.mp hgroup with ⟨g', hplaced, hid'⟩
    rcases placed_spec hplaced with ⟨hlive, _, _⟩
    refine ⟨g', hplaced, ?_⟩
    rcases hid g hg with ⟨other, hother, hsame, hnew⟩
    rw [hlookup, Option.some.injEq] at hother
    subst hother
    cases hgid : g.id with
    | some old =>
      rw [← hsame old hgid] at hgid
      rw [eq_of_nodup_filterMap h.nodup (mem_live.mp hlive).1 (mem_live.mp hg).1 hid' hgid]
    | none =>
      rcases h.row (mem_live.mp hlive).1 hid' with ⟨row, hrow, rfl, _⟩
      exact absurd (hnew hgid) (Nat.not_le.mpr (db.fresh row hrow).2)

theorem Drawn.groupOf_mem (c : Ut1Cat) : ∀ id ∈ d.groupOf c, id ∈ d.liveIds := by
  intro id hid
  rcases Option.bind_eq_some_iff.mp hid with ⟨g, hplaced, hgid⟩
  exact List.mem_filterMap.mpr ⟨g, (placed_spec hplaced).1, hgid⟩

theorem Drawn.lt_nextId (h : Drawn db d) {id : Nat} (hid : id ∈ d.liveIds) : id < db.nextId := by
  rcases List.mem_filterMap.mp hid with ⟨g, hg, hgid⟩
  rcases h.row (mem_live.mp hg).1 hgid with ⟨row, hrow, rfl, _⟩
  exact (db.fresh row hrow).2

theorem heldBy_mem (key : String) : ∀ id ∈ d.heldBy db key, id ∈ d.liveIds := by
  intro id hid
  exact of_decide_eq_true (Option.filter_eq_some_iff.mp hid).2

-- The groups that are new neither hold nor want a category of the draft.
theorem Drawn.foldl_members (h : Drawn db d) {groupIds : AList (fun _ : String => Nat)} (c : Ut1Cat)
    (hid : ∀ g ∈ d.live, ∃ id, groupIds.lookup g.key = some id ∧ (∀ old, g.id = some old → id = old)
      ∧ (g.id = none → db.nextId ≤ id))
    : ((buildSavePlan d).members.map (idOf groupIds)).foldl (Rollup.settle (d.groupOf c))
          (d.heldBy db c.key)
        = d.liveIds.foldl (Rollup.settle (d.groupOf c)) (d.heldBy db c.key) := by
  have hwant : ∀ j ∈ d.groupOf c, decide (j < db.nextId) = true :=
    fun j hj => decide_eq_true (h.lt_nextId (Drawn.groupOf_mem c j hj))
  have hheld : ∀ i ∈ d.heldBy db c.key, decide (i < db.nextId) = true :=
    fun i hi => decide_eq_true (h.lt_nextId (heldBy_mem c.key i hi))
  rw [Rollup.foldl_settle_filter hheld hwant]
  congr 1
  have hmap : (buildSavePlan d).members.map (idOf groupIds)
      = d.live.map (fun g => (groupIds.lookup g.key).getD 0) := by
    unfold buildSavePlan
    dsimp only
    rw [List.map_map]
    rfl
  rw [hmap]
  apply filter_map_eq_filterMap
  . intro g hg old hold
    rcases hid g hg with ⟨id, hlookup, hsame, _⟩
    rw [hlookup, Option.getD_some, hsame old hold]
    exact ⟨rfl, decide_eq_true (h.lt_nextId (List.mem_filterMap.mpr ⟨g, hg, hold⟩))⟩
  . intro g hg hnone
    rcases hid g hg with ⟨id, hlookup, _, hnew⟩
    rw [hlookup, Option.getD_some]
    exact decide_eq_false (Nat.not_lt.mpr (hnew hnone))

theorem Drawn.save_spec (h : Drawn db d) (hkeys : ∀ row ∈ db.categories, Storable row.key)
    (hsave : saveCategoryDraft d db = .ok db') {c : Ut1Cat} (hc : c ∈ d.ut1Cats)
    : db'.members.lookup c.key = d.liveIds.foldl (Rollup.settle (d.groupOf c)) (d.heldBy db c.key) := by
  unfold saveCategoryDraft at hsave
  dsimp only at hsave
  cases hput : db.putCategories (buildSavePlan d).categories with
  | error e =>
    rw [hput] at hsave
    cases hsave
  | ok start =>
    rw [hput] at hsave
    have hstart : start.members = db.members ∧ start.rows = db.rows ∧ start.nextId = db.nextId := by
      unfold Database.putCategories at hput
      split at hput
      . cases hput
      . cases hput
        exact ⟨rfl, rfl, rfl⟩
    change (do let s ← (buildSavePlan d).groupOps.foldlM saveGroup (start, ∅); _) = _ at hsave
    cases hgroups : (buildSavePlan d).groupOps.foldlM saveGroup (start, ∅) with
    | error e =>
      rw [hgroups] at hsave
      cases hsave
    | ok saved =>
      rcases saved with ⟨mid, groupIds⟩
      rw [hgroups] at hsave
      change (buildSavePlan d).members.foldlM (saveMembers groupIds)
        ((buildSavePlan d).deleteIds.foldl Database.delete mid) = .ok db' at hsave
      have hknown : ∀ op ∈ (buildSavePlan d).groupOps, Known start op := by
        intro op hop
        have hop := h.known op hop
        cases op with
        | create key label hidden => trivial
        | update id key label hidden =>
          rcases hop with ⟨row, hrow, hrow'⟩
          exact ⟨row, hstart.2.1 ▸ hrow, hrow'⟩
      have hempty : Recorded ((start, ∅) : Saving lc) := by
        intro key id hlookup
        cases hlookup
      rcases saveGroups_spec hgroups hempty hknown with ⟨hgrows, hrecorded, _, hall⟩
      rw [hstart.2.2] at hall
      have hid : ∀ g ∈ d.live, ∃ id, groupIds.lookup g.key = some id
          ∧ (∀ old, g.id = some old → id = old) ∧ (g.id = none → db.nextId ≤ id) :=
        fun g hg => h.savedAs hall hg
      have hms : ∀ m ∈ (buildSavePlan d).members, idOf groupIds m ≠ 0
          ∧ (c.key ∈ memberKeys m.ut1Keys ↔ d.groupOf c = some (idOf groupIds m)) := by
        intro m hm
        rcases List.mem_map.mp hm with ⟨g, hg, rfl⟩
        rcases hid g hg with ⟨id, hlookup, _⟩
        rcases hrecorded hlookup with ⟨row, hrow, hrowId, _⟩
        rw [idOf, hlookup, Option.getD_some, h.members_iff hkeys hc, ← h.wanted_iff hid hg hlookup]
        exact ⟨Nat.ne_of_gt (hrowId ▸ (mid.fresh row hrow).1), Iff.rfl⟩
      rw [saveMembers_spec hsave hms, deletes_spec, hgrows.members, hstart.1, ← h.heldBy_eq,
        h.foldl_members c hid]

theorem drawn_edits (toLowerCase : String → String) (h : Drawn db d) (edits : List Edit)
    : Drawn db (edits.foldl (Edit.apply toLowerCase) d) := by
  induction edits generalizing d with
  | nil => exact h
  | cons edit edits ih => exact ih (h.apply toLowerCase edit)

/--
However a draft was edited, a category is in the group that was chosen for it after the draft was saved if and
only if this group is not listed before the one that the category was in. Otherwise it is in none.
-/
theorem save_places_iff (capitalize toLowerCase : String → String) (before : String → String → Bool)
    (hkeys : ∀ row ∈ db.categories, Storable row.key) (edits : List Edit)
    : let d := edits.foldl (Edit.apply toLowerCase) (toDraft capitalize (serverLists before db))
      saveCategoryDraft d db = .ok db' → ∀ c ∈ d.ut1Cats,
        (db'.members.lookup c.key = d.groupOf c
            ↔ ¬Rollup.Overtaken d.liveIds (d.groupOf c) (d.heldBy db c.key))
          ∧ (Rollup.Overtaken d.liveIds (d.groupOf c) (d.heldBy db c.key)
            → db'.members.lookup c.key = none) := by
  intro d hsave c hc
  have hdrawn : Drawn db d := drawn_edits toLowerCase (drawn_toDraft capitalize before db) edits
  have hnodup : d.liveIds.Nodup := hdrawn.nodup.sublist (List.filter_sublist.filterMap _)
  rw [hdrawn.save_spec hkeys hsave hc]
  rcases Rollup.foldl_settle hnodup (heldBy_mem c.key) (Drawn.groupOf_mem c) with ⟨hplaced, hlost⟩
  refine ⟨⟨?_, hplaced⟩, hlost⟩
  intro hsame hovertaken
  rw [hlost hovertaken] at hsame
  rcases hovertaken with ⟨i, j, _, hwant, _⟩
  rw [← hsame] at hwant
  cases hwant

end

def asciiLower : Lowercase where
  lower := Text.toAsciiLowercase
  again := fun text => by
    rw [Text.trim_toAsciiLowercase, Text.toAsciiLowercase_idem, Text.trim_trim]

-- The groups `fun` and `work` have one category each.
def twoGroups : Database asciiLower where
  categories := [
    { key := "games", label := "Games", enabled := true, description := "" },
    { key := "news", label := "News", enabled := true, description := "" }
  ]
  rows := [
    { id := 1, key := "fun", labelEn := "Fun", descriptionEn := "", displayOrder := 0, hidden := false },
    { id := 2, key := "work", labelEn := "Work", descriptionEn := "", displayOrder := 1, hidden := false }
  ]
  members := (AList.singleton "games" 1).insert "news" 2
  nextId := 3
  categoryKeys := by decide
  ids := by decide
  fresh := by decide
  positive := by decide
  keys := by decide
  normal := by decide +kernel
  owned := by
    intro key id hlookup
    by_cases hnews : key = "news"
    . subst hnews
      rw [AList.lookup_insert, Option.some.injEq] at hlookup
      subst hlookup
      exact ⟨_, List.mem_cons_of_mem _ List.mem_cons_self, rfl⟩
    . rw [AList.lookup_insert_ne hnews] at hlookup
      by_cases hgames : key = "games"
      . subst hgames
        change some 1 = some id at hlookup
        cases hlookup
        exact ⟨_, List.mem_cons_self, rfl⟩
      . rw [AList.lookup_eq_none.mpr (fun hmem => hgames (List.mem_singleton.mp hmem))] at hlookup
        cases hlookup

def exchange : List Edit :=
  [.assign "games" (.group 2), .assign "news" (.group 1)]

def exchanged : Draft :=
  exchange.foldl (Edit.apply id) (toDraft id (serverLists (fun a b => a < b) twoGroups))

-- Both categories change places, and only the one that goes to the later group arrives there.
theorem save_places_iff_exchanged
    : ∃ db', saveCategoryDraft exchanged twoGroups = .ok db' ∧ db'.members.lookup "games" = some 2
        ∧ db'.members.lookup "news" = none := by
  have hsaved : (saveCategoryDraft exchanged twoGroups).toBool = true := by decide +kernel
  have hlive : exchanged.liveIds = [1, 2] := by decide +kernel
  have hkeys : ∀ row ∈ twoGroups.categories, Storable row.key := by decide +kernel
  cases hsave : saveCategoryDraft exchanged twoGroups with
  | error e =>
    rw [hsave] at hsaved
    cases hsaved
  | ok db' =>
    have hall := save_places_iff (id : String → String) id (fun a b => a < b) hkeys exchange hsave
    refine ⟨db', rfl, ?_, ?_⟩
    . have hgames : ∃ c ∈ exchanged.ut1Cats, c.key = "games" ∧ exchanged.groupOf c = some 2
          ∧ exchanged.heldBy twoGroups c.key = some 1 := by decide +kernel
      rcases hgames with ⟨c, hc, hkey, hwant, hheld⟩
      have hplaced := (hall c hc).1
      change _ ↔ ¬Rollup.Overtaken exchanged.liveIds (exchanged.groupOf c) (exchanged.heldBy twoGroups c.key)
        at hplaced
      rw [← hkey, ← hwant]
      apply hplaced.mpr
      rw [hwant, hheld, hlive]
      rintro ⟨i, j, hi, hj, hlt⟩
      cases hi
      cases hj
      exact absurd hlt (by decide)
    . have hnews : ∃ c ∈ exchanged.ut1Cats, c.key = "news" ∧ exchanged.groupOf c = some 1
          ∧ exchanged.heldBy twoGroups c.key = some 2 := by decide +kernel
      rcases hnews with ⟨c, hc, hkey, hwant, hheld⟩
      rw [← hkey]
      apply (hall c hc).2
      change Rollup.Overtaken exchanged.liveIds (exchanged.groupOf c) (exchanged.heldBy twoGroups c.key)
      rw [hwant, hheld, hlive]
      exact ⟨2, 1, rfl, rfl, by decide⟩

end CategoryDraft

end Vantyr
