import Mathlib.Data.List.Nodup
import Vantyr.Agent.Input
import Vantyr.Server.Releases

/-!
This module contains the agreement of the two records of held input: what is down on the host of the
agent is held according to the server, and is released by the commands the server drains its record into.
-/

namespace Vantyr

namespace Input

/-!
The names of the keys.
-/

theorem SpecialKey.mem_all (key : SpecialKey) : key ∈ SpecialKey.all := by
  cases key <;> decide

theorem names_all : SpecialKey.all.map SpecialKey.name = heldKeys := rfl

theorem SpecialKey.name_injective {key other : SpecialKey} (h : key.name = other.name)
    : key = other :=
  List.inj_on_of_nodup_map (by decide : (SpecialKey.all.map SpecialKey.name).Nodup) key.mem_all
    other.mem_all h

theorem specialKeyToEnigo_injective {key other : SpecialKey}
    (h : specialKeyToEnigo key = specialKeyToEnigo other) : key = other :=
  List.inj_on_of_nodup_map (by decide : (SpecialKey.all.map specialKeyToEnigo).Nodup) key.mem_all
    other.mem_all h

theorem SpecialKey.ofName_of_heldKeys {name : String} (h : name ∈ heldKeys)
    : ∃ key : SpecialKey, SpecialKey.ofName name = some key ∧ key.name = name := by
  rw [← names_all, List.mem_map] at h
  rcases h with ⟨key, hmem, hname⟩
  cases hfind : SpecialKey.ofName name with
  | none =>
    unfold SpecialKey.ofName at hfind
    rw [List.find?_eq_none] at hfind
    exact absurd (decide_eq_true hname) (hfind key hmem)
  | some found =>
    refine ⟨found, rfl, ?_⟩
    unfold SpecialKey.ofName at hfind
    have := List.find?_some hfind
    simpa using this

/-!
The commands after their coordinates have been mapped.
-/

structure Mapped (v v' : Json) : Prop where
  kind : v'.kind = v.kind
  get? : ∀ key, key ≠ "x" → key ≠ "y" → v'.get? key = v.get? key
  coordinates : Selection.isPointer v.kind = true →
    (ControlCommand.i32 v' "x").isSome = true ∧ (ControlCommand.i32 v' "y").isSome = true

theorem key_mapped {v v' : Json} (hmap : Mapped v v') {name : String}
    (hname : (v.field "key").asStr = some name) (hheld : name ∈ heldKeys)
    : ∃ key : SpecialKey, ControlCommand.key v' = some key ∧ key.name = name := by
  rcases SpecialKey.ofName_of_heldKeys hheld with ⟨key, hkey, hkeyName⟩
  refine ⟨key, ?_, hkeyName⟩
  have hget : v'.get? "key" = v.get? "key" := hmap.get? "key" (by decide) (by decide)
  unfold Json.field at hname
  unfold ControlCommand.key
  rw [hget]
  cases h : v.get? "key" with
  | none => simp [h, Json.asStr] at hname
  | some value =>
    rw [h, Option.getD_some] at hname
    rw [Option.bind_some, hname, Option.bind_some, hkey]

theorem button_mapped {v v' : Json} (hmap : Mapped v v') {b : Button}
    (hbutton : HeldInput.button v = .ok b) : ControlCommand.button v' = some b := by
  have hget : v'.get? "button" = v.get? "button" := hmap.get? "button" (by decide) (by decide)
  unfold HeldInput.button at hbutton
  unfold ControlCommand.button
  rw [hget]
  split at hbutton
  . next hnone =>
    cases hbutton
    rw [hnone]
    rfl
  . next value hsome =>
    rw [hsome]
    split at hbutton
    . next hfound =>
      cases hbutton
      exact hfound
    . cases hbutton

theorem ofJson_pointer {v v' : Json} (hmap : Mapped v v') {b : Button}
    (hbutton : HeldInput.button v = .ok b) (hpointer : Selection.isPointer v.kind = true)
    : ∃ x y, ControlCommand.i32 v' "x" = some x ∧ ControlCommand.i32 v' "y" = some y
      ∧ ControlCommand.button v' = some b := by
  rcases hmap.coordinates hpointer with ⟨hx, hy⟩
  rw [Option.isSome_iff_exists] at hx hy
  rcases hx with ⟨x, hx⟩
  rcases hy with ⟨y, hy⟩
  exact ⟨x, y, hx, hy, button_mapped hmap hbutton⟩

namespace InputController

variable {c : InputController}

/-!
What is down is listed, so that releasing everything leaves nothing down.
-/

def Listed (c : InputController) : Prop :=
  (∀ k, c.down (.inl k) = true → k ∈ c.heldKeys)
    ∧ ∀ b, c.down (.inr b) = true → b ∈ c.heldButtons

-- Nothing more is down than before.
structure Lifts (c c' : InputController) : Prop where
  down : ∀ contact, c'.down contact = true → c.down contact = true
  listed : c'.Listed

theorem foldl_release_down (contacts : List (Key ⊕ Button)) (contact : Key ⊕ Button)
    : (contacts.foldl release c).down contact = true
        ↔ c.down contact = true ∧ contact ∉ contacts := by
  induction contacts generalizing c with
  | nil => simp
  | cons first contacts ih =>
    rw [List.foldl_cons, ih]
    simp only [release, Function.update_apply, List.mem_cons, not_or]
    split
    . next heq => simp [heq]
    . next hne => simp [hne]

theorem releaseAll_down (h : c.Listed) (contact : Key ⊕ Button)
    : c.releaseAll.down contact = false := by
  rw [← Bool.not_eq_true]
  intro hdown
  have hfold : ((c.heldKeys.map Sum.inl ++ c.heldButtons.map Sum.inr).foldl release c).down contact
      = true := hdown
  rw [foldl_release_down, List.mem_append, not_or] at hfold
  rcases hfold with ⟨hdown, hkey, hbutton⟩
  cases contact with
  | inl k => exact hkey (List.mem_map.mpr ⟨k, h.1 k hdown, rfl⟩)
  | inr b => exact hbutton (List.mem_map.mpr ⟨b, h.2 b hdown, rfl⟩)

theorem lifts_releaseAll (h : c.Listed) : Lifts c c.releaseAll := by
  refine ⟨?_, ?_, ?_⟩
  . intro contact hdown
    rw [releaseAll_down h] at hdown
    cases hdown
  . intro k hdown
    rw [releaseAll_down h] at hdown
    cases hdown
  . intro b hdown
    rw [releaseAll_down h] at hdown
    cases hdown

theorem Lifts.refl (h : c.Listed) : Lifts c c :=
  ⟨fun _ hdown => hdown, h⟩

theorem Lifts.trans {c' c'' : InputController} (h : Lifts c c') (h' : Lifts c' c'') : Lifts c c'' :=
  ⟨fun contact hdown => h.down contact (h'.down contact hdown), h'.listed⟩

def covers (held : HeldInput) : Key ⊕ Button → Prop
  | .inl k => ∃ key, specialKeyToEnigo key = k ∧ held.holds (.key key.name) = true
  | .inr b => held.holds (.button b) = true

structure Covered (held : HeldInput) (c : InputController) : Prop where
  listed : c.Listed
  covers : ∀ contact, c.down contact = true → covers held contact

theorem Covered.lifts {held : HeldInput} {c' : InputController} (h : Covered held c) (hl : Lifts c c')
    : Covered held c' :=
  ⟨hl.listed, fun contact hdown => h.covers contact (hl.down contact hdown)⟩

theorem Covered.mono {held held' : HeldInput} (h : Covered held c)
    (hheld : ∀ contact, held.holds contact = true → held'.holds contact = true)
    : Covered held' c := by
  refine ⟨h.listed, ?_⟩
  intro contact hdown
  have := h.covers contact hdown
  cases contact with
  | inl k =>
    rcases this with ⟨key, heq, hholds⟩
    exact ⟨key, heq, hheld _ hholds⟩
  | inr b => exact hheld _ this

theorem Covered.released {held : HeldInput} (h : c.Listed) : Covered held c.releaseAll := by
  refine ⟨(lifts_releaseAll h).listed, ?_⟩
  intro contact hdown
  rw [releaseAll_down h] at hdown
  cases hdown

-- A command that does not release a contact leaves it held.
theorem holds_of_not_releases {held held' : HeldInput} {v : Json} (h : held.track v = .ok held')
    {contact : Contact} (hreleases : contact.releases v = false)
    (hholds : held.holds contact = true) : held'.holds contact = true := by
  rw [HeldInput.holds_track h, hholds]
  unfold Latch.step
  rw [hreleases]
  split <;> rfl

theorem Covered.keyDown {held held' : HeldInput} {v v' : Json} (h : Covered held c)
    (hmap : Mapped v v') (htrack : held.track v = .ok held') (hkind : v.kind = "KeyDown")
    {index : Nat} (hkey : HeldInput.key v = .ok index) (outcome : Outcome)
    : ∃ cmd, ControlCommand.ofJson v' = some cmd ∧ Covered held' (c.execute outcome cmd).2 := by
  rcases HeldInput.key_ok hkey with ⟨name, hname, hindex⟩
  have hmem : name ∈ Vantyr.heldKeys := by
    rw [List.idxOf?_eq_some_iff] at hindex
    rcases hindex with ⟨hlt, heq, _⟩
    exact heq ▸ List.getElem_mem hlt
  rcases key_mapped hmap hname hmem with ⟨key, hread, hkeyName⟩
  refine ⟨.keyDown key, by simp [ControlCommand.ofJson, hmap.kind, hkind, hread], ?_⟩
  have hkeep : ∀ contact : Contact, held.holds contact = true → held'.holds contact = true := by
    intro contact
    apply holds_of_not_releases htrack
    cases contact <;> simp [Contact.releases, Contact.isAt, hkind]
  have hheld : held'.holds (.key key.name) = true := by
    rw [HeldInput.holds_track htrack]
    simp [Latch.step, Contact.presses, Contact.isAt, hkind, hname, hkeyName]
  have hmono := h.mono hkeep
  simp only [execute]
  refine ⟨⟨?_, hmono.listed.2⟩, ?_⟩
  . intro k hdown
    simp only [press, Function.update_apply, Sum.inl.injEq] at hdown ⊢
    split
    . next hcontains =>
      split at hdown
      . next heq =>
        rw [heq]
        simpa using hcontains
      . exact hmono.listed.1 k hdown
    . rw [List.mem_append, List.mem_singleton]
      split at hdown
      . next heq => exact .inr heq
      . exact .inl (hmono.listed.1 k hdown)
  . intro contact hdown
    simp only [press, Function.update_apply] at hdown
    split at hdown
    . next heq =>
      rw [heq]
      exact ⟨key, rfl, hheld⟩
    . exact hmono.covers contact hdown

theorem Covered.keyUp {held held' : HeldInput} {v v' : Json} (h : Covered held c)
    (hmap : Mapped v v') (htrack : held.track v = .ok held') (hkind : v.kind = "KeyUp")
    {index : Nat} (hkey : HeldInput.key v = .ok index) (outcome : Outcome)
    : ∃ cmd, ControlCommand.ofJson v' = some cmd ∧ Covered held' (c.execute outcome cmd).2 := by
  rcases HeldInput.key_ok hkey with ⟨name, hname, hindex⟩
  have hmem : name ∈ Vantyr.heldKeys := by
    rw [List.idxOf?_eq_some_iff] at hindex
    rcases hindex with ⟨hlt, heq, _⟩
    exact heq ▸ List.getElem_mem hlt
  rcases key_mapped hmap hname hmem with ⟨key, hread, hkeyName⟩
  refine ⟨.keyUp key, by simp [ControlCommand.ofJson, hmap.kind, hkind, hread], ?_⟩
  simp only [execute]
  have hdown' : ∀ contact, (c.release (.inl (specialKeyToEnigo key))).down contact = true →
      contact ≠ .inl (specialKeyToEnigo key) ∧ c.down contact = true := by
    intro contact hdown
    simp only [release, Function.update_apply] at hdown
    split at hdown
    . cases hdown
    . next hne => exact ⟨hne, hdown⟩
  refine ⟨⟨?_, ?_⟩, ?_⟩
  . intro k hdown
    rcases hdown' _ hdown with ⟨hne, hdown⟩
    rw [List.mem_filter]
    refine ⟨h.listed.1 k hdown, ?_⟩
    simpa using hne
  . intro b hdown
    exact h.listed.2 b (hdown' _ hdown).2
  . intro contact hdown
    rcases hdown' _ hdown with ⟨hne, hdown⟩
    have hcovers := h.covers contact hdown
    cases contact with
    | inl k =>
      rcases hcovers with ⟨other, heq, hholds⟩
      refine ⟨other, heq, holds_of_not_releases htrack ?_ hholds⟩
      have hother : other.name ≠ name := by
        intro hsame
        rw [← hkeyName] at hsame
        rw [← heq, SpecialKey.name_injective hsame] at hne
        exact hne rfl
      simp [Contact.releases, Contact.isAt, hname, hother.symm]
    | inr b =>
      refine holds_of_not_releases htrack ?_ hcovers
      simp [Contact.releases, Contact.isAt, hkind]

theorem Covered.mouseDown {held held' : HeldInput} {v v' : Json} (h : Covered held c)
    (hmap : Mapped v v') (htrack : held.track v = .ok held') (hkind : v.kind = "MouseDown")
    {b : Button} (hbutton : HeldInput.button v = .ok b) (outcome : Outcome)
    : ∃ cmd, ControlCommand.ofJson v' = some cmd ∧ Covered held' (c.execute outcome cmd).2 := by
  rcases ofJson_pointer hmap hbutton (by simp [hkind, Selection.isPointer]) with ⟨x, y, hx, hy, hb⟩
  refine ⟨.mouseDown x y b, by simp [ControlCommand.ofJson, hmap.kind, hkind, hx, hy, hb], ?_⟩
  have hkeep : ∀ contact : Contact, held.holds contact = true → held'.holds contact = true := by
    intro contact
    apply holds_of_not_releases htrack
    cases contact <;> simp [Contact.releases, Contact.isAt, hkind]
  have hheld : held'.holds (.button b) = true := by
    rw [HeldInput.holds_track htrack]
    simp [Latch.step, Contact.presses, Contact.isAt, hkind, hbutton, Except.toOption]
  have hmono := h.mono hkeep
  simp only [execute]
  split
  . refine ⟨⟨hmono.listed.1, ?_⟩, ?_⟩
    . intro other hdown
      simp only [press, Function.update_apply, Sum.inr.injEq] at hdown ⊢
      split
      . next hcontains =>
        split at hdown
        . next heq =>
          rw [heq]
          simpa using hcontains
        . exact hmono.listed.2 other hdown
      . rw [List.mem_append, List.mem_singleton]
        split at hdown
        . next heq => exact .inr heq
        . exact .inl (hmono.listed.2 other hdown)
    . intro contact hdown
      simp only [press, Function.update_apply] at hdown
      split at hdown
      . next heq =>
        rw [heq]
        exact hheld
      . exact hmono.covers contact hdown
  . exact hmono

theorem Covered.mouseUp {held held' : HeldInput} {v v' : Json} (h : Covered held c)
    (hmap : Mapped v v') (htrack : held.track v = .ok held') (hkind : v.kind = "MouseUp")
    {b : Button} (hbutton : HeldInput.button v = .ok b) (outcome : Outcome)
    (hup : outcome.moved = true ∨ c.down (.inr b) = false)
    : ∃ cmd, ControlCommand.ofJson v' = some cmd ∧ Covered held' (c.execute outcome cmd).2 := by
  rcases ofJson_pointer hmap hbutton (by simp [hkind, Selection.isPointer]) with ⟨x, y, hx, hy, hb⟩
  refine ⟨.mouseUp x y b, by simp [ControlCommand.ofJson, hmap.kind, hkind, hx, hy, hb], ?_⟩
  -- What is down and is not the button that goes up stays held.
  have hcovers : ∀ contact, contact ≠ .inr b → c.down contact = true →
      InputController.covers held' contact := by
    intro contact hne hdown
    have hcovers := h.covers contact hdown
    cases contact with
    | inl k =>
      rcases hcovers with ⟨other, heq, hholds⟩
      refine ⟨other, heq, holds_of_not_releases htrack ?_ hholds⟩
      simp [Contact.releases, Contact.isAt, hkind]
    | inr other =>
      refine holds_of_not_releases htrack ?_ hcovers
      have hother : b ≠ other := fun heq => hne (by rw [heq])
      simp [Contact.releases, Contact.isAt, hbutton, Except.toOption, hother]
  simp only [execute]
  split
  . have hdown' : ∀ contact, (c.release (.inr b)).down contact = true →
        contact ≠ .inr b ∧ c.down contact = true := by
      intro contact hdown
      simp only [release, Function.update_apply] at hdown
      split at hdown
      . cases hdown
      . next hne => exact ⟨hne, hdown⟩
    refine ⟨⟨?_, ?_⟩, ?_⟩
    . intro k hdown
      exact h.listed.1 k (hdown' _ hdown).2
    . intro other hdown
      rcases hdown' _ hdown with ⟨hne, hdown⟩
      rw [List.mem_filter]
      refine ⟨h.listed.2 other hdown, ?_⟩
      simpa using hne
    . intro contact hdown
      rcases hdown' _ hdown with ⟨hne, hdown⟩
      exact hcovers contact hne hdown
  . next hmoved =>
    refine ⟨h.listed, ?_⟩
    intro contact hdown
    apply hcovers contact _ hdown
    intro heq
    rw [heq] at hdown
    rcases hup with hup | hup
    . exact hmoved hup
    . rw [hup] at hdown
      cases hdown

-- A generation that is current, and the one every command of a run carries.
structure Under (permissions : Permissions.State) (g : Permissions.Generation) : Prop where
  module : g.module = .remoteInput
  current : g.matches permissions = true

theorem Under.enabled {permissions : Permissions.State} {g : Permissions.Generation}
    (h : Under permissions g) : permissions.enabled .remoteInput = true := by
  have hcurrent := h.current
  unfold Permissions.Generation.matches Permissions.Generation.fromState at hcurrent
  rw [beq_iff_eq, h.module, Option.map_eq_some_iff] at hcurrent
  rcases hcurrent with ⟨grant, hgrant, _⟩
  rw [Option.filter_eq_some_iff] at hgrant
  simp [Permissions.State.enabled, hgrant.1, hgrant.2]

end InputController

/-!
Runs.
-/

-- A command, which is a JSON object, with the geometry and the outcome of the other calls when it is
-- executed.
structure Event where
  fields : List (String × Json)
  selection : Selection
  outcome : Outcome

def Event.command (e : Event) : Json :=
  .object e.fields

namespace Example

def permissions : Permissions.State :=
  (Permissions.State.default.localSet .remoteInput true).2

def generation : Permissions.Generation :=
  { module := .remoteInput, revision := 1 }

end Example

end Input

end Vantyr
