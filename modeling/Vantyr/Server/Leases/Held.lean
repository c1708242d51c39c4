import Vantyr.Server.Leases.Law
import Vantyr.Server.Releases

/-!
This module contains what is released when a lease ends, whatever was sent under it: every key and
button that the accepted commands leave down, once, and at the place where they leave the cursor.
-/

namespace Vantyr

/-!
What the accepted commands amount to on the host: `Contact.isDown`, and the cursor.
-/

def coordinates (cmd : Json) : Option (Int × Int) :=
  match cmd.kind with
  | "MouseDown" | "MouseUp" | "MouseMove" | "MouseClick" | "MouseDoubleClick" => do
    return (← (cmd.field "x").asI64, ← (cmd.field "y").asI64)
  | _ => none

def cursor (commands : List Json) : Option (Int × Int) :=
  (commands.filterMap coordinates).getLast?

theorem cursor_concat (commands : List Json) (cmd : Json)
    : cursor (commands ++ [cmd]) = (coordinates cmd).or (cursor commands) := by
  unfold cursor
  rw [List.filterMap_append, List.getLast?_append]
  cases h : coordinates cmd <;> simp [h]

/--
`commands` is one release for each key and each button that is down after `accepted`.
-/
structure ReleaseOf (accepted commands : List Json) : Prop where
  nodup : commands.Nodup
  mem_iff : ∀ {command}, command ∈ commands
    ↔ (∃ name, (Contact.key name).isDown accepted = true ∧ command = HeldInput.keyUp name)
      ∨ ∃ b point, (Contact.button b).isDown accepted = true
        ∧ cursor accepted = some (point.x, point.y) ∧ command = HeldInput.mouseUp b point
  located : ∀ {b}, (Contact.button b).isDown accepted = true →
    ∃ point : Point, cursor accepted = some (point.x, point.y)
  cleanup : ∀ {command}, command ∈ commands → isCleanupCommand command = true

namespace HeldInput

theorem position_ok {cmd : Json} {point : Point} (h : position cmd = .ok point)
    : (cmd.field "x").asI64 = some point.x ∧ (cmd.field "y").asI64 = some point.y := by
  unfold position at h
  split at h
  . next x y hx hy =>
    split at h
    . cases h
      exact ⟨hx, hy⟩
    . cases h
  . cases h

-- A command with coordinates takes every button that is down along with it.
theorem track_buttons {held held' : HeldInput} {cmd : Json} (h : held.track cmd = .ok held')
    : (coordinates cmd = none ∧ held'.buttons = held.buttons)
      ∨ ∃ point, coordinates cmd = some (point.x, point.y)
        ∧ ∀ b p, held'.buttons b = some p → p = point := by
  have hmoved : ∀ point b p, (held.moveTo point).buttons b = some p → p = point := by
    intro point b p hp
    unfold moveTo at hp
    rw [Option.map_eq_some_iff] at hp
    rcases hp with ⟨_, _, rfl⟩
    rfl
  have hcoordinates : ∀ {point}, position cmd = .ok point →
      (cmd.kind = "MouseDown" ∨ cmd.kind = "MouseUp" ∨ cmd.kind = "MouseMove"
        ∨ cmd.kind = "MouseClick" ∨ cmd.kind = "MouseDoubleClick") →
      coordinates cmd = some (point.x, point.y) := by
    intro point hposition hkind
    rcases position_ok hposition with ⟨hx, hy⟩
    unfold coordinates
    rcases hkind with hkind | hkind | hkind | hkind | hkind <;> simp [hkind, hx, hy]
  unfold track at h
  split at h
  . next hkind =>
    cases hkey : key cmd with
    | error e =>
      rw [hkey] at h
      cases h
    | ok index =>
      rw [hkey] at h
      cases h
      exact .inl ⟨by simp [coordinates, hkind], rfl⟩
  . next hkind =>
    cases hkey : key cmd with
    | error e =>
      rw [hkey] at h
      cases h
    | ok index =>
      rw [hkey] at h
      cases h
      exact .inl ⟨by simp [coordinates, hkind], rfl⟩
  . next hkind =>
    cases hbutton : button cmd with
    | error e =>
      rw [hbutton] at h
      cases h
    | ok pressed =>
      cases hposition : position cmd with
      | error e =>
        rw [hbutton, hposition] at h
        cases h
      | ok point =>
        rw [hbutton, hposition] at h
        cases h
        refine .inr ⟨point, hcoordinates hposition (by simp [hkind]), ?_⟩
        intro b p hp
        by_cases heq : b = pressed
        . subst heq
          simp only [setButton, Function.update_self, Option.some.injEq] at hp
          exact hp.symm
        . exact hmoved point b p ((Function.update_of_ne heq _ _).symm.trans hp)
  . next hkind =>
    cases hbutton : button cmd with
    | error e =>
      rw [hbutton] at h
      cases h
    | ok pressed =>
      cases hposition : position cmd with
      | error e =>
        rw [hbutton, hposition] at h
        cases h
      | ok point =>
        rw [hbutton, hposition] at h
        cases h
        refine .inr ⟨point, hcoordinates hposition (by simp [hkind]), ?_⟩
        intro b p hp
        by_cases heq : b = pressed
        . subst heq
          simp [setButton] at hp
        . exact hmoved point b p ((Function.update_of_ne heq _ _).symm.trans hp)
  iterate 3
    next hkind =>
      cases hposition : position cmd with
      | error e =>
        rw [hposition] at h
        cases h
      | ok point =>
        rw [hposition] at h
        cases h
        exact .inr ⟨point, hcoordinates hposition (by simp [hkind]), hmoved point⟩
  . cases h
    apply Or.inl
    constructor
    . unfold coordinates
      split <;> simp_all
    . rfl

/-!
What is drained, in terms of what is held.
-/

theorem heldKeys_nodup : heldKeys.Nodup := by
  decide

theorem idxOf?_of_mem_zipIdx {name : String} {index : Nat} (h : (name, index) ∈ heldKeys.zipIdx)
    : heldKeys.idxOf? name = some index := by
  rw [List.mem_zipIdx_iff_getElem?, List.getElem?_eq_some_iff] at h
  rcases h with ⟨hlt, hname⟩
  rw [List.idxOf?_eq_some_iff]
  refine ⟨hlt, hname, ?_⟩
  intro j hj heq
  have hne := (heldKeys_nodup.getElem_inj_iff).mp (heq.trans hname.symm)
  omega

theorem drain_eq (held : HeldInput)
    : held.drain = (heldKeys.filter (fun name => held.holds (.key name))).map keyUp
      ++ Button.all.filterMap (fun button => (held.buttons button).map (mouseUp button)) := by
  have hkeys : (fun entry : String × Nat =>
        if held.holds (.key entry.1) then some (keyUp entry.1) else none)
      = (fun name => if held.holds (.key name) then some (keyUp name) else none) ∘ Prod.fst :=
    rfl
  unfold drain
  congr 1
  rw [← List.filterMap_eq_map, List.filterMap_filter]
  calc
    _ = heldKeys.zipIdx.filterMap
        (fun entry => if held.holds (.key entry.1) then some (keyUp entry.1) else none) := by
      apply List.filterMap_congr
      intro (name, index) hmem
      simp only [holds_key (idxOf?_of_mem_zipIdx hmem)]
    _ = _ := by
      rw [hkeys, ← List.filterMap_map, List.zipIdx_map_fst]
      rfl

theorem keyUp_inj {name other : String} (h : keyUp name = keyUp other) : name = other := by
  simpa [keyUp] using h

theorem mouseUp_inj {b other : Button} {point p : Point} (h : mouseUp b point = mouseUp other p)
    : b = other := by
  simp only [mouseUp, Json.object.injEq, List.cons.injEq, Prod.mk.injEq, true_and, and_true,
    Json.string.injEq] at h
  have hname := congrArg Button.ofName h.1
  rwa [Button.ofName_name, Button.ofName_name, Option.some.injEq] at hname

theorem drain_nodup (held : HeldInput) : held.drain.Nodup := by
  rw [drain_eq, List.nodup_append]
  refine ⟨?_, ?_, ?_⟩
  . exact (heldKeys_nodup.filter _).map (fun _ _ => keyUp_inj)
  . have hall : Button.all.Nodup := by decide
    apply hall.filterMap
    intro b other command hcommand hcommand'
    rw [Option.mem_def, Option.map_eq_some_iff] at hcommand hcommand'
    rcases hcommand with ⟨point, _, rfl⟩
    rcases hcommand' with ⟨p, _, heq⟩
    exact (mouseUp_inj heq).symm
  . intro command hkey other hbutton
    rw [List.mem_map] at hkey
    rcases hkey with ⟨name, _, rfl⟩
    rw [List.mem_filterMap] at hbutton
    rcases hbutton with ⟨b, _, hmap⟩
    rw [Option.map_eq_some_iff] at hmap
    rcases hmap with ⟨point, _, rfl⟩
    simp [keyUp, mouseUp]

theorem mem_heldKeys {held : HeldInput} {name : String} (h : held.holds (.key name) = true)
    : name ∈ heldKeys := by
  unfold holds at h
  cases hindex : heldKeys.idxOf? name with
  | none => simp [hindex] at h
  | some index =>
    rw [List.idxOf?_eq_some_iff] at hindex
    rcases hindex with ⟨hlt, hname, _⟩
    rw [← hname]
    exact List.getElem_mem hlt

theorem mem_drain {held : HeldInput} {command : Json}
    : command ∈ held.drain
      ↔ (∃ name, held.holds (.key name) = true ∧ command = keyUp name)
        ∨ ∃ b point, held.buttons b = some point ∧ command = mouseUp b point := by
  rw [drain_eq, List.mem_append, List.mem_map, List.mem_filterMap]
  apply or_congr
  . constructor
    . intro ⟨name, hmem, heq⟩
      exact ⟨name, (List.mem_filter.mp hmem).2, heq.symm⟩
    . intro ⟨name, hholds, heq⟩
      exact ⟨name, List.mem_filter.mpr ⟨mem_heldKeys hholds, hholds⟩, heq.symm⟩
  . constructor
    . intro ⟨b, _, hmap⟩
      rcases Option.map_eq_some_iff.mp hmap with ⟨point, hpoint, heq⟩
      exact ⟨b, point, hpoint, heq.symm⟩
    . intro ⟨b, point, hpoint, heq⟩
      exact ⟨b, Button.mem_all b, by rw [hpoint, heq]; rfl⟩

-- What a lease holds is what its accepted commands have left down, and where.
structure Reflects (held : HeldInput) (accepted : List Json) : Prop where
  down : ∀ c : Contact, held.holds c = c.isDown accepted
  located : ∀ {b point}, held.buttons b = some point → cursor accepted = some (point.x, point.y)

namespace Reflects

theorem init : Reflects default [] where
  down := holds_default
  located := by
    intro b point h
    cases h

theorem track {held held' : HeldInput} {accepted : List Json} {cmd : Json}
    (h : Reflects held accepted) (htrack : held.track cmd = .ok held')
    : Reflects held' (accepted ++ [cmd]) where
  down := by
    intro c
    rw [holds_track htrack, h.down, Contact.isDown, Contact.isDown, Latch.isOn_concat]
  located := by
    intro b point hpoint
    rw [cursor_concat]
    rcases track_buttons htrack with ⟨hnone, hbuttons⟩ | ⟨moved, hmoved, hall⟩
    . rw [hbuttons] at hpoint
      rw [hnone, Option.none_or, h.located hpoint]
    . rw [hmoved, hall b point hpoint, Option.some_or]

theorem drain {held : HeldInput} {accepted : List Json} (h : Reflects held accepted)
    : ReleaseOf accepted held.drain where
  nodup := held.drain_nodup
  mem_iff := by
    intro command
    rw [mem_drain]
    apply or_congr
    . simp only [h.down]
    . constructor
      . rintro ⟨b, point, hpoint, heq⟩
        refine ⟨b, point, ?_, h.located hpoint, heq⟩
        rw [← h.down, holds, hpoint]
        rfl
      . rintro ⟨b, point, hdown, hcursor, heq⟩
        rw [← h.down, holds, Option.isSome_iff_exists] at hdown
        rcases hdown with ⟨p, hp⟩
        have hsame := h.located hp
        rw [hcursor, Option.some.injEq, Prod.mk.injEq] at hsame
        refine ⟨b, p, hp, ?_⟩
        rw [heq, mouseUp, mouseUp, hsame.1, hsame.2]
  located := by
    intro b hdown
    rw [← h.down, holds, Option.isSome_iff_exists] at hdown
    rcases hdown with ⟨point, hpoint⟩
    exact ⟨point, h.located hpoint⟩
  cleanup := drain_cleanup

end Reflects

end HeldInput

/-!
The runs of the table.
-/

namespace Ledger

structure Tracked (l : Ledger) : Prop where
  orderly : Orderly l
  reflects : ∀ {agent lease}, l.sessions.lookup agent = some lease →
    HeldInput.Reflects lease.held (l.accepted lease.grant.token)
  unused : ∀ {token}, l.issued token = none → l.accepted token = []
  released : ∀ {c}, c ∈ l.cleanups → ReleaseOf (l.accepted c.token) c.commands

namespace Tracked

variable {l l' : Ledger}

theorem init : Tracked init where
  orderly := Orderly.init
  reflects := by simp [Ledger.init]
  unused := by
    intro token _
    rfl
  released := by simp [Ledger.init]

theorem change (h : Tracked l) (hchange : Change l l') : Tracked l' := by
  have horderly := h.orderly.change hchange
  cases hchange with
  | wait hnow => exact ⟨horderly, h.reflects, h.unused, h.released⟩
  | reorder agent =>
    refine ⟨horderly, ?_, h.unused, h.released⟩
    intro other lease hlease
    rw [Table.lookup_moveToFront] at hlease
    exact h.reflects hlease
  | @ended agent lease reason hlease =>
    refine ⟨horderly, ?_, h.unused, ?_⟩
    . intro other old hold
      rw [Table.lookup_erase_eq] at hold
      split at hold
      . cases hold
      . exact h.reflects hold
    . intro c hc
      rcases List.mem_append.mp hc with hc | hc
      . exact h.released hc
      . rw [List.mem_singleton] at hc
        rw [hc]
        exact (h.reflects hlease).drain
  | @granted agent grant hnone hfresh hbound =>
    refine ⟨horderly, ?_, ?_, h.released⟩
    . intro other lease hlease
      change (l.sessions.insert agent _).lookup other = _ at hlease
      rw [Table.lookup_insert_eq] at hlease
      split at hlease
      . cases hlease
        change HeldInput.Reflects _ (l.accepted grant.token)
        rw [h.unused hfresh]
        exact .init
      . exact h.reflects hlease
    . intro token hunissued
      by_cases heq : token = grant.token
      . rw [heq]
        exact h.unused hfresh
      . exact h.unused ((Function.update_of_ne heq _ _).symm.trans hunissued)
  | @renewed agent lease expiresAt hlease hbound =>
    refine ⟨horderly, ?_, ?_, h.released⟩
    . intro other old hold
      change (l.sessions.insert agent _).lookup other = _ at hold
      rw [Table.lookup_insert_eq] at hold
      split at hold
      . cases hold
        have hreflects := h.reflects hlease
        exact hreflects
      . exact h.reflects hold
    . intro token hunissued
      by_cases heq : token = lease.grant.token
      . subst heq
        cases (Function.update_self _ _ _).symm.trans hunissued
      . exact h.unused ((Function.update_of_ne heq _ _).symm.trans hunissued)
  | @tracked agent lease cmd held hlease htrack =>
    rcases h.orderly.issued hlease with ⟨time, hissued⟩
    -- The accepted commands of the other tokens stay what they are.
    have hother : ∀ {token}, token ≠ lease.grant.token →
        Function.update l.accepted lease.grant.token (l.accepted lease.grant.token ++ [cmd]) token
          = l.accepted token :=
      fun hne => Function.update_of_ne hne _ _
    refine ⟨horderly, ?_, ?_, ?_⟩
    . intro other old hold
      change (l.sessions.insert agent _).lookup other = _ at hold
      change HeldInput.Reflects _ (Function.update l.accepted _ _ _)
      rw [Table.lookup_insert_eq] at hold
      split at hold
      . cases hold
        rw [Function.update_self]
        exact (h.reflects hlease).track htrack
      . next hne =>
        rw [hother (fun heq => hne (h.orderly.unique hold hlease heq))]
        exact h.reflects hold
    . intro token hunissued
      change Function.update l.accepted _ _ _ = _
      rw [hother]
      . exact h.unused hunissued
      . intro heq
        rw [heq] at hunissued
        cases hissued.symm.trans hunissued
    . intro c hc
      change ReleaseOf (Function.update l.accepted _ _ _) _
      rw [hother (h.orderly.gone hc hlease).symm]
      exact h.released hc

theorem changes (h : Tracked l) (hchanges : Changes l l') : Tracked l' := by
  induction hchanges with
  | refl => exact h
  | tail _ hchange ih => exact ih.change hchange

end Tracked

variable {l : Ledger}

theorem Reachable.tracked (h : Reachable l) : Tracked l :=
  Tracked.init.changes (h.changes Orderly.init)

theorem rejected_unchanged {sessions : ControlSessions} {agent : Uuid} {owner : LeaseOwner}
    {token : Uuid} {cmd : Json} {now : Nat} {e : LeaseError}
    (h : (sessions.authorizeAndTrack agent owner token cmd now).result = .error e)
    : ((sessions.authorizeAndTrack agent owner token cmd now).cleanup,
        (sessions.authorizeAndTrack agent owner token cmd now).sessions)
        = sessions.expireAgent agent now := by
  rcases sessions.authorize_cases agent now owner token with
    ⟨⟨e', he⟩, heq⟩ | ⟨lease, hlease, _, _, _, heq⟩
  . unfold ControlSessions.authorizeAndTrack
    simp only [he]
    exact heq
  . have hlive : sessions.expireAgent agent now = ([], sessions) := by
      have hcleanup : (sessions.authorize agent owner token now).cleanup
          = (sessions.expireAgent agent now).1 := rfl
      have hsessions : (sessions.authorize agent owner token now).sessions
          = (sessions.expireAgent agent now).2 := rfl
      rw [heq] at hcleanup hsessions
      exact Prod.ext hcleanup.symm hsessions.symm
    unfold ControlSessions.authorizeAndTrack at h ⊢
    rw [hlive]
    simp only [heq, hlease] at h ⊢
    cases htrack : lease.held.track cmd with
    | ok held =>
      rw [htrack] at h
      cases h
    | error e' => rfl

/--
What was returned when a lease ended is one release for each key and each button that the commands
accepted under its token leave down. A command that is rejected is not one of them, and leaves the
table as it is, up to a lease that had expired before it came.
-/
theorem held_input_exact (h : Reachable l)
    : (∀ c ∈ l.cleanups, ReleaseOf (l.accepted c.token) c.commands)
      ∧ ∀ agent owner token cmd now e,
        (l.sessions.authorizeAndTrack agent owner token cmd now).result = .error e →
        (l.step (.authorizeAndTrack agent owner token cmd now)).accepted = l.accepted
          ∧ ((l.sessions.authorizeAndTrack agent owner token cmd now).cleanup,
              (l.sessions.authorizeAndTrack agent owner token cmd now).sessions)
            = l.sessions.expireAgent agent now := by
  constructor
  . exact fun c hc => h.tracked.released hc
  . intro agent owner token cmd now e herror
    refine ⟨?_, rejected_unchanged herror⟩
    have hrun : (LeaseOp.authorizeAndTrack agent owner token cmd now).run l.sessions
        = {
          result := .error e
          cleanup := (l.sessions.authorizeAndTrack agent owner token cmd now).cleanup
          sessions := (l.sessions.authorizeAndTrack agent owner token cmd now).sessions
        } := by
      change Transition.withGrant _ _ = _
      unfold Transition.withGrant
      rw [herror]
      rfl
    rw [@step_error l _ e (_, _) hrun]
    rfl

def leftDown : Json :=
  .object [("button", .string "left"), ("type", .string "MouseDown"), ("x", .ofInt 1), ("y", .ofInt 2)]

def dragging : Ledger :=
  (init.step (.acquire 4 viewer 0 5 6)).step (.authorizeAndTrack 4 viewer 6 leftDown 6)

def dropped : Ledger :=
  dragging.step (.release 4 viewer 6 7)

theorem held_input_exact_drag
    : ∃ c ∈ dropped.cleanups, ReleaseOf [leftDown] c.commands
      ∧ c.commands = [HeldInput.mouseUp .left { x := 1, y := 2, inRange := by decide }] := by
  have hacquire : init.Admits (.acquire 4 viewer 0 5 6) := by
    refine ⟨by decide, ?_⟩
    intro agent owner requestedTtl now fresh h
    cases h
    rfl
  have htrack : (init.step (.acquire 4 viewer 0 5 6)).Admits
      (.authorizeAndTrack 4 viewer 6 leftDown 6) := by
    refine ⟨by decide, ?_⟩
    intro agent owner requestedTtl now fresh h
    cases h
  have hrelease : dragging.Admits (.release 4 viewer 6 7) := by
    refine ⟨by decide, ?_⟩
    intro agent owner requestedTtl now fresh h
    cases h
  have hexact := held_input_exact (.step (.step (.step (.refl _) hacquire) htrack) hrelease)
  have hmem : ControlSessions.cleanup 4 .released
      {
        grant := { token := 6, owner := viewer, expiresAt := ControlSessions.deadline 5 0 }
        held := HeldInput.default.setButton .left (some { x := 1, y := 2, inRange := by decide })
      } ∈ dropped.cleanups := by
    decide
  exact ⟨_, hmem, hexact.1 _ hmem, by decide⟩

end Ledger

end Vantyr
