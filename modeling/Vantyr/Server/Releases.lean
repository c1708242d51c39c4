import Vantyr.Data.Latch
import Vantyr.Server.Stamps

/-!
This module contains what becomes of the keys and mouse buttons that a viewer presses: what a lease
holds down is what is down once the queue has been written, and it is released when the lease ends.
-/

namespace Vantyr

-- A key or a mouse button of the agent's host.
inductive Contact where
  | key (name : String)
  | button (b : Button)
  deriving DecidableEq, Repr

namespace Contact

def isAt (c : Contact) (keyKind buttonKind : String) (cmd : Json) : Bool :=
  match c with
  | .key name => cmd.kind = keyKind && (cmd.field "key").asStr = some name
  | .button b => cmd.kind = buttonKind && (HeldInput.button cmd).toOption = some b

def presses (c : Contact) : Json → Bool :=
  c.isAt "KeyDown" "MouseDown"

def releases (c : Contact) : Json → Bool :=
  c.isAt "KeyUp" "MouseUp"

def isDown (c : Contact) (commands : List Json) : Bool :=
  Latch.isOn c.presses c.releases commands

end Contact

def HeldInput.holds (held : HeldInput) : Contact → Bool
  | .key name => (heldKeys.idxOf? name).any held.keys.getLsbD
  | .button button => (held.buttons button).isSome

namespace HeldInput

theorem holds_default (c : Contact) : default.holds c = false := by
  cases c with
  | key name => cases h : heldKeys.idxOf? name <;> simp [holds, default, h]
  | button button => rfl

theorem key_ok {cmd : Json} {index : Nat} (h : key cmd = .ok index)
    : ∃ name, (cmd.field "key").asStr = some name ∧ heldKeys.idxOf? name = some index := by
  unfold key at h
  split at h
  . next found hfound =>
    rw [Option.bind_eq_some_iff] at hfound
    cases h
    exact hfound
  . cases h

-- The branches of `track`.
inductive Tracks (held : HeldInput) (cmd : Json) (held' : HeldInput) : Prop where
  | keyDown (hkind : cmd.kind = "KeyDown") {index : Nat} (hkey : key cmd = .ok index)
      (heq : held' = held.setKey index)
  | keyUp (hkind : cmd.kind = "KeyUp") {index : Nat} (hkey : key cmd = .ok index)
      (heq : held' = held.clearKey index)
  | mouseDown (hkind : cmd.kind = "MouseDown") {b : Button} {point : Point}
      (hbutton : HeldInput.button cmd = .ok b)
      (heq : held' = (held.moveTo point).setButton b (some point))
  | mouseUp (hkind : cmd.kind = "MouseUp") {b : Button} {point : Point}
      (hbutton : HeldInput.button cmd = .ok b)
      (heq : held' = (held.moveTo point).setButton b none)
  | other (hkind : cmd.kind ≠ "KeyDown" ∧ cmd.kind ≠ "KeyUp" ∧ cmd.kind ≠ "MouseDown"
        ∧ cmd.kind ≠ "MouseUp")
      (heq : held' = held ∨ ∃ point, held' = held.moveTo point)

theorem track_ok {held held' : HeldInput} {cmd : Json} (h : held.track cmd = .ok held')
    : Tracks held cmd held' := by
  unfold track at h
  split at h
  . next hkind =>
    cases hkey : key cmd with
    | error e =>
      rw [hkey] at h
      cases h
    | ok index =>
      rw [hkey] at h
      cases h
      exact .keyDown hkind hkey rfl
  . next hkind =>
    cases hkey : key cmd with
    | error e =>
      rw [hkey] at h
      cases h
    | ok index =>
      rw [hkey] at h
      cases h
      exact .keyUp hkind hkey rfl
  . next hkind =>
    cases hbutton : HeldInput.button cmd with
    | error e =>
      rw [hbutton] at h
      cases h
    | ok b =>
      cases hposition : position cmd with
      | error e =>
        rw [hbutton, hposition] at h
        cases h
      | ok point =>
        rw [hbutton, hposition] at h
        cases h
        exact .mouseDown hkind hbutton rfl
  . next hkind =>
    cases hbutton : HeldInput.button cmd with
    | error e =>
      rw [hbutton] at h
      cases h
    | ok b =>
      cases hposition : position cmd with
      | error e =>
        rw [hbutton, hposition] at h
        cases h
      | ok point =>
        rw [hbutton, hposition] at h
        cases h
        exact .mouseUp hkind hbutton rfl
  iterate 3
    next hkind =>
      cases hposition : position cmd with
      | error e =>
        rw [hposition] at h
        cases h
      | ok point =>
        rw [hposition] at h
        cases h
        refine .other ?_ (.inr ⟨point, rfl⟩)
        rw [hkind]
        decide
  . next hdown hup hpress hrelease _ _ _ =>
    cases h
    exact .other ⟨hdown, hup, hpress, hrelease⟩ (.inl rfl)

theorem length_heldKeys : heldKeys.length = 32 := rfl

theorem idxOf?_lt {name : String} {index : Nat} (h : heldKeys.idxOf? name = some index)
    : index < 64 := by
  rw [List.idxOf?_eq_some_iff] at h
  rcases h with ⟨hlt, _⟩
  rw [length_heldKeys] at hlt
  omega

theorem idxOf?_inj {name other : String} {index : Nat} (h : heldKeys.idxOf? name = some index)
    (hother : heldKeys.idxOf? other = some index) : name = other := by
  rw [List.idxOf?_eq_some_iff] at h hother
  rcases h with ⟨_, hname, _⟩
  rcases hother with ⟨_, hother, _⟩
  rw [← hname, hother]

theorem holds_moveTo (held : HeldInput) (point : Point) (c : Contact)
    : (held.moveTo point).holds c = held.holds c := by
  cases c with
  | key name => rfl
  | button b =>
    unfold holds moveTo
    exact Option.isSome_map

theorem getLsbD_bit {i index : Nat} (hi : i < 64)
    : (1#64 <<< index).getLsbD i = decide (i = index) := by
  rw [BitVec.getLsbD_shiftLeft, BitVec.getLsbD_one]
  rw [Bool.eq_iff_iff]
  simp only [Bool.and_eq_true, decide_eq_true_eq, Bool.not_eq_true', decide_eq_false_iff_not]
  omega

theorem holds_key {held : HeldInput} {name : String} {index : Nat}
    (h : heldKeys.idxOf? name = some index) : held.holds (.key name) = held.keys.getLsbD index := by
  simp only [holds, h, Option.any_some]

theorem holds_setKey {held : HeldInput} {name : String} {index : Nat}
    (h : heldKeys.idxOf? name = some index) (other : String)
    : (held.setKey index).holds (.key other)
        = if name = other then true else held.holds (.key other) := by
  split
  . next heq =>
    subst heq
    rw [holds_key h, setKey, BitVec.getLsbD_or, getLsbD_bit (idxOf?_lt h)]
    simp
  . next hne =>
    cases hother : heldKeys.idxOf? other with
    | none => simp only [holds, hother, Option.any_none]
    | some i =>
      have hindex : i ≠ index := by
        intro hindex
        rw [hindex] at hother
        exact hne (idxOf?_inj h hother)
      rw [holds_key hother, holds_key hother, setKey, BitVec.getLsbD_or, getLsbD_bit (idxOf?_lt hother)]
      simp [hindex]

theorem holds_clearKey {held : HeldInput} {name : String} {index : Nat}
    (h : heldKeys.idxOf? name = some index) (other : String)
    : (held.clearKey index).holds (.key other)
        = if name = other then false else held.holds (.key other) := by
  split
  . next heq =>
    subst heq
    rw [holds_key h, clearKey, BitVec.getLsbD_and, BitVec.getLsbD_not, getLsbD_bit (idxOf?_lt h)]
    simp
  . next hne =>
    cases hother : heldKeys.idxOf? other with
    | none => simp only [holds, hother, Option.any_none]
    | some i =>
      have hindex : i ≠ index := by
        intro hindex
        rw [hindex] at hother
        exact hne (idxOf?_inj h hother)
      rw [holds_key hother, holds_key hother, clearKey, BitVec.getLsbD_and, BitVec.getLsbD_not,
        getLsbD_bit (idxOf?_lt hother)]
      simp [hindex, idxOf?_lt hother]

/--
A lease holds what is down after its input.
-/
theorem holds_track {held held' : HeldInput} {cmd : Json} (h : held.track cmd = .ok held')
    (c : Contact) : held'.holds c = Latch.step c.presses c.releases (held.holds c) cmd := by
  unfold Latch.step Contact.presses Contact.releases Contact.isAt
  cases track_ok h with
  | keyDown hkind hkey heq =>
    rcases key_ok hkey with ⟨name, hname, hindex⟩
    subst heq
    cases c with
    | key other =>
      rw [holds_setKey hindex]
      simp [hkind, hname]
    | button b => simp [hkind, holds, setKey]
  | keyUp hkind hkey heq =>
    rcases key_ok hkey with ⟨name, hname, hindex⟩
    subst heq
    cases c with
    | key other =>
      rw [holds_clearKey hindex]
      simp [hkind, hname]
    | button b => simp [hkind, holds, clearKey]
  | @mouseDown hkind b point hbutton heq =>
    subst heq
    cases c with
    | key name => simp [hkind, holds, setButton, moveTo]
    | button other =>
      by_cases hsame : other = b
      . subst hsame
        simp [hkind, hbutton, Except.toOption, holds, setButton]
      . have hother : b ≠ other := fun heq => hsame heq.symm
        simp [hkind, hbutton, Except.toOption, holds, setButton, moveTo, hsame, hother]
  | @mouseUp hkind b point hbutton heq =>
    subst heq
    cases c with
    | key name => simp [hkind, holds, setButton, moveTo]
    | button other =>
      by_cases hsame : other = b
      . subst hsame
        simp [hkind, hbutton, Except.toOption, holds, setButton]
      . have hother : b ≠ other := fun heq => hsame heq.symm
        simp [hkind, hbutton, Except.toOption, holds, setButton, moveTo, hsame, hother]
  | other hkind heq =>
    have hholds : held'.holds c = held.holds c := by
      rcases heq with heq | ⟨point, heq⟩
      . rw [heq]
      . rw [heq, holds_moveTo]
    rw [hholds]
    cases c <;> simp [hkind]

theorem drain_kind {held : HeldInput} {command : Json} (h : command ∈ held.drain)
    : command.kind = "KeyUp" ∨ command.kind = "MouseUp" := by
  unfold drain at h
  simp only [List.mem_append, List.mem_filterMap, Option.map_eq_some_iff] at h
  rcases h with ⟨entry, _, heq⟩ | ⟨b, _, point, _, heq⟩
  . split at heq
    . rw [Option.some.injEq] at heq
      rw [← heq]
      exact .inl rfl
    . cases heq
  . rw [← heq]
    exact .inr rfl

theorem drain_presses {held : HeldInput} {command : Json} (h : command ∈ held.drain) (c : Contact)
    : c.presses command = false := by
  unfold Contact.presses Contact.isAt
  rcases drain_kind h with hkind | hkind
  . cases c <;> simp [hkind]
  . cases c <;> simp [hkind]

theorem asI32_ofInt {n : Int} (h : -2 ^ 31 ≤ n ∧ n < 2 ^ 31) : (Json.ofInt n).asI32 = some n := by
  have hlt : n < 2 ^ 63 := by omega
  have hguard : (guard (-2 ^ 31 ≤ n ∧ n < 2 ^ 31) : Option Unit) = some () := if_pos h
  simp only [Json.asI32, Json.asI64_ofInt hlt, Option.bind_eq_bind, Option.bind_some, hguard]
  rfl

theorem drain_cleanup {held : HeldInput} {command : Json} (h : command ∈ held.drain)
    : isCleanupCommand command = true := by
  unfold drain at h
  simp only [List.mem_append, List.mem_filterMap, Option.map_eq_some_iff] at h
  rcases h with ⟨entry, hmem, heq⟩ | ⟨b, _, point, _, heq⟩
  . split at heq
    . rw [Option.some.injEq] at heq
      rw [← heq]
      have hkey : entry.1 ∈ heldKeys := by
        rw [(List.mem_zipIdx' hmem).2]
        exact List.getElem_mem _
      have hname : ((keyUp entry.1).field "key").asStr = some entry.1 := rfl
      have hkind : (keyUp entry.1).kind = "KeyUp" := rfl
      simp [isCleanupCommand, hkind, hname, hkey]
    . cases heq
  . rw [← heq]
    have hbutton : ((mouseUp b point).field "button").asStr = some b.name := rfl
    have hx : (mouseUp b point).field "x" = .ofInt point.x := rfl
    have hy : (mouseUp b point).field "y" = .ofInt point.y := rfl
    have hkind : (mouseUp b point).kind = "MouseUp" := rfl
    simp [isCleanupCommand, hkind, hbutton, hx, hy, asI32_ofInt point.inRange.1,
      asI32_ofInt point.inRange.2]

theorem drain_releases {held : HeldInput} {c : Contact} (h : held.holds c = true)
    : ∃ command ∈ held.drain, c.releases command = true := by
  cases c with
  | key name =>
    cases hindex : heldKeys.idxOf? name with
    | none => simp [holds, hindex] at h
    | some index =>
      rw [holds_key hindex] at h
      refine ⟨keyUp name, ?_, ?_⟩
      . unfold drain
        rw [List.mem_append, List.mem_filterMap]
        refine .inl ⟨(name, index), ?_, ?_⟩
        . rw [List.mem_zipIdx_iff_getElem?]
          rw [List.idxOf?_eq_some_iff] at hindex
          rcases hindex with ⟨hlt, hname, _⟩
          rw [List.getElem?_eq_getElem hlt, hname]
        . simp [h]
      . have hname : ((keyUp name).field "key").asStr = some name := rfl
        have hkind : (keyUp name).kind = "KeyUp" := rfl
        simp [Contact.releases, Contact.isAt, hname, hkind]
  | button b =>
    simp only [holds, Option.isSome_iff_exists] at h
    rcases h with ⟨point, hpoint⟩
    refine ⟨mouseUp b point, ?_, ?_⟩
    . unfold drain
      rw [List.mem_append]
      apply Or.inr
      rw [List.mem_filterMap]
      exact ⟨b, Button.mem_all b, by rw [hpoint]; rfl⟩
    . have hbutton : HeldInput.button (mouseUp b point) = .ok b := by
        have hget : (mouseUp b point).get? "button" = some (.string b.name) := rfl
        simp [HeldInput.button, hget, Json.asStr]
      have hkind : (mouseUp b point).kind = "MouseUp" := rfl
      simp [Contact.releases, Contact.isAt, hbutton, hkind, Except.toOption]

end HeldInput

/-!
What goes out on a socket.
-/

namespace Socket

-- What will have been written when all of the queue is.
def stream (socket : Socket) : List Json :=
  socket.written.map Prod.snd ++ socket.queue.map (fun item => item.control.command)

theorem stream_grow {socket : Socket} (h : socket.taken ≤ socket.sent.length) (items : List Queued)
    (shutdown : Option String)
    : { socket with sent := socket.sent ++ items, shutdown }.stream
        = socket.stream ++ items.map (fun item => item.control.command) := by
  unfold stream queue
  rw [List.drop_append_of_le_length h, List.map_append, List.append_assoc]

theorem queue_head {socket : Socket} {item : Queued} (h : socket.sent[socket.taken]? = some item)
    : socket.queue = item :: { socket with taken := socket.taken + 1 }.queue := by
  unfold queue
  rw [List.drop_eq_getElem_cons (List.getElem?_eq_some_iff.mp h).1]
  rw [(List.getElem?_eq_some_iff.mp h).2]

end Socket

theorem Contact.neutral {cmd : Json} (h : isRemoteInput cmd.kind = false) (c : Contact)
    : c.presses cmd = false ∧ c.releases cmd = false := by
  have hkind : ∀ kind, isRemoteInput kind = true → cmd.kind ≠ kind := by
    intro kind hinput heq
    rw [heq, hinput] at h
    cases h
  unfold Contact.presses Contact.releases Contact.isAt
  cases c with
  | key name => simp [hkind "KeyDown" rfl, hkind "KeyUp" rfl]
  | button b => simp [hkind "MouseDown" rfl, hkind "MouseUp" rfl]

theorem Contact.isAt_authorized {s : AppState} {agent : Uuid} {cmd authorized : Json}
    (h : s.authorizeAgentCommand agent cmd = .ok authorized) (c : Contact) (keyKind buttonKind : String)
    : c.isAt keyKind buttonKind authorized = c.isAt keyKind buttonKind cmd := by
  have hkey : authorized.field "key" = cmd.field "key" := by
    unfold Json.field
    rw [get?_authorized h (by decide)]
  have hbutton : HeldInput.button authorized = HeldInput.button cmd := by
    unfold HeldInput.button
    rw [get?_authorized h (by decide)]
  cases c with
  | key name =>
    unfold isAt
    rw [kind_authorized h, hkey]
  | button b =>
    unfold isAt
    rw [kind_authorized h, hbutton]

theorem AppState.openConn?_congr {s t : AppState} (hconnections : t.connections = s.connections)
    (hshutdown : ∀ conn, (t.sockets conn).shutdown = (s.sockets conn).shutdown) (agent : Uuid)
    : t.openConn? agent = s.openConn? agent := by
  simp only [AppState.openConn?, AppState.connId?, AppState.closing, hconnections, hshutdown]

theorem AppState.write_openConn? (s : AppState) (conn agent : Uuid) (position : Nat) (command : Json)
    : ((s.take conn).write conn position command).openConn? agent = s.openConn? agent := by
  apply AppState.openConn?_congr
  . rfl
  . intro other
    exact shutdown_write s conn other position command

theorem SameCore.openConn? {s t : AppState} (h : SameCore s t) (agent : Uuid)
    : t.openConn? agent = s.openConn? agent := by
  apply AppState.openConn?_congr h.connections
  intro conn
  rw [h.sockets]

-- An open connection was open before, with the same socket up to new entries, or it is new.
theorem Effect.open_grow {P : Uuid → Queued → Prop} {s t : AppState} {agent conn : Uuid}
    (hs : Sound s) (h : Effect P s t) (hopen : t.openConn? agent = some conn)
    : conn ∉ s.minted ∧ (t.sockets conn).sent = [] ∧ (t.sockets conn).written = []
      ∨ s.openConn? agent = some conn
        ∧ ∃ items, t.sockets conn
          = { s.sockets conn with sent := (s.sockets conn).sent ++ items } := by
  have hconn := AppState.connId?_of_openConn? hopen
  rcases h.connId? hs.1 hconn.1 with hold | hfresh
  . apply Or.inr
    cases h.socket hs.1 conn with
    | new _ hfresh _ heq => exact absurd (hs.1.minted agent conn hold) hfresh
    | grow items shutdown heq hshutdown _ _ =>
      have hnone : shutdown = (s.sockets conn).shutdown := by
        rcases hshutdown with hsame | hsome
        . exact hsame
        . rw [AppState.closing, heq, hsome] at hconn
          cases hconn.2
      rw [hnone] at heq
      refine ⟨?_, items, heq⟩
      have hclosing : s.closing conn = false := by
        rw [AppState.closing, heq] at hconn
        exact hconn.2
      simp [AppState.openConn?, hold, hclosing]
  . apply Or.inl
    have hunused := (hs.2.unused conn hfresh).1
    have hwritten : (s.sockets conn).written = [] := by
      rw [List.eq_nil_iff_forall_not_mem]
      intro entry hentry
      have := (hs.2.written conn entry hentry).1
      have := hs.2.taken conn
      rw [hunused, List.length_nil] at this
      omega
    cases h.socket hs.1 conn with
    | new _ _ _ heq =>
      rw [heq]
      exact ⟨hfresh, rfl, rfl⟩
    | grow items shutdown heq _ _ hregistered =>
      rcases hregistered with ⟨hitems, _⟩ | ⟨other, hother⟩
      . rw [heq]
        exact ⟨hfresh, by simp [hunused, hitems], hwritten⟩
      . exact absurd (hs.1.minted other conn hother) hfresh

/--
What an action does to the input of an agent, by its lease and on its socket.
-/
inductive InputChange (s t : AppState) (agent conn : Uuid) : Prop where
  | none (items : List Queued)
      (hsent : (t.sockets conn).sent = (s.sockets conn).sent ++ items)
      (hitems : ∀ item ∈ items, isRemoteInput item.control.command.kind = false)
      (hheld : (t.sessions.lookup agent).map Lease.held = (s.sessions.lookup agent).map Lease.held)
  | granted (hsent : (t.sockets conn).sent = (s.sockets conn).sent)
      (hlease : s.sessions.lookup agent = Option.none)
  | tracked {lease : Lease} {cmd authorized : Json} {held : HeldInput} {origin : Origin}
      (hlease : s.sessions.lookup agent = some lease)
      (hauth : s.authorizeAgentCommand agent cmd = .ok authorized)
      (htrack : lease.held.track cmd = .ok held)
      (hsent : (t.sockets conn).sent = (s.sockets conn).sent ++ [{ control := .text authorized, origin }])
      (hnew : t.sessions.lookup agent = some { lease with held })
  | ended {lease : Lease} {token : Uuid} (hlease : s.sessions.lookup agent = some lease)
      (hsent : (t.sockets conn).sent
        = (s.sockets conn).sent ++ AppState.releaseItems conn token lease.held.drain)

namespace InputChange

variable {s t : AppState} {agent conn : Uuid}

theorem of_eq (hsockets : t.sockets conn = s.sockets conn)
    (hsessions : t.sessions.lookup agent = s.sessions.lookup agent)
    : InputChange s t agent conn := by
  apply InputChange.none []
  . rw [hsockets, List.append_nil]
  . simp
  . rw [hsessions]

theorem of_push {socket : Uuid} {item : Queued} (hsockets : t.sockets = (s.push socket item).sockets)
    (hsessions : t.sessions.lookup agent = s.sessions.lookup agent)
    (hitem : isRemoteInput item.control.command.kind = false) : InputChange s t agent conn := by
  apply InputChange.none (if conn = socket then [item] else [])
  . rw [hsockets]
    exact Succession.pushed_sent s socket conn item
  . intro other hother
    split at hother
    . rw [List.mem_singleton] at hother
      rw [hother]
      exact hitem
    . cases hother
  . rw [hsessions]

end InputChange

theorem Effect.inputChange {P : Uuid → Queued → Prop} {s t : AppState} {agent conn : Uuid}
    (hs : Sound s) (h : Effect P s t) (hold : s.openConn? agent = some conn)
    (hopen : t.openConn? agent = some conn) : InputChange s t agent conn := by
  have hconn := AppState.connId?_of_openConn? hold
  have hclosing := (AppState.connId?_of_openConn? hopen).2
  have hsame : ∀ other lease, s.sessions.lookup other = some lease
      → (other = agent ↔ lease.grant.owner.agentConnectionId = conn) := by
    intro other lease hlease
    have howner := hs.1.lease other lease hlease
    constructor
    . intro heq
      rw [heq, hconn.1, Option.some.injEq] at howner
      exact howner.symm
    . intro heq
      rw [heq] at howner
      rw [← hs.1.agent other conn howner, hs.1.agent agent conn hconn.1]
  cases h with
  | @endLease other lease reason count hlease hP =>
    by_cases hagent : other = agent
    . subst hagent
      have howner := (hsame other lease hlease).mp rfl
      have hcount : lease.held.drain.length ≤ count := by
        by_contra hlt
        rw [not_le] at hlt
        simp [AppState.closing, AppState.endLease, howner, hlt] at hclosing
      apply @InputChange.ended s _ other conn lease lease.grant.token hlease
      simp only [AppState.endLease, howner, Function.update_self, List.take_of_length_le hcount]
    . have hne : conn ≠ lease.grant.owner.agentConnectionId := by
        intro heq
        exact hagent ((hsame other lease hlease).mpr heq.symm)
      apply InputChange.of_eq
      . simp only [AppState.endLease, Function.update_of_ne hne]
      . simp only [AppState.endLease, Table.lookup_erase_eq, if_neg (Ne.symm hagent)]
  | @input other lease cmd authorized held hlease hopen' hkind hauth htrack hP =>
    by_cases hagent : other = agent
    . subst hagent
      have howner := (hsame other lease hlease).mp rfl
      apply InputChange.tracked hlease hauth htrack
      . rw [Succession.pushed_sent, if_pos howner.symm]
        rfl
      . exact (Table.lookup_insert_eq ..).trans (if_pos rfl)
    . have hne : conn ≠ lease.grant.owner.agentConnectionId := by
        intro heq
        exact hagent ((hsame other lease hlease).mpr heq.symm)
      apply InputChange.of_eq
      . exact Function.update_of_ne hne ..
      . exact (Table.lookup_insert_eq ..).trans (if_neg (Ne.symm hagent))
  | @lost other lease held hlease =>
    by_cases hagent : other = agent
    . have howner := (hsame other lease hlease).mp hagent
      rw [howner] at hclosing
      simp [AppState.closing, AppState.shutdown, AppState.modifySocket] at hclosing
    . have hne : conn ≠ lease.grant.owner.agentConnectionId := by
        intro heq
        exact hagent ((hsame other lease hlease).mpr heq.symm)
      apply InputChange.of_eq
      . exact Function.update_of_ne hne ..
      . exact (Table.lookup_insert_eq ..).trans (if_neg (Ne.symm hagent))
  | @grant other lease frozen hlease hopen' hheld hfresh hfrozen =>
    by_cases hagent : other = agent
    . subst hagent
      apply InputChange.granted _ hlease
      simp only [AppState.grantLease, AppState.commitControlCapture_sockets]
    . apply InputChange.of_eq
      . simp only [AppState.grantLease, AppState.commitControlCapture_sockets]
      . simp only [AppState.grantLease, AppState.commitControlCapture_sessions,
          Table.lookup_insert_eq, if_neg (Ne.symm hagent)]
  | @renew other lease expiresAt hlease =>
    by_cases hagent : other = agent
    . subst hagent
      apply InputChange.none []
      . exact (List.append_nil _).symm
      . simp
      . rw [AppState.setLease, Table.lookup_insert_eq, if_pos rfl, hlease]
        rfl
    . apply InputChange.of_eq
      . rfl
      . exact (Table.lookup_insert_eq ..).trans (if_neg (Ne.symm hagent))
  | push hopen hordinary hstamp hP => exact .of_push rfl rfl hordinary.1
  | @close other socket hconn' =>
    have hne : conn ≠ socket := by
      intro heq
      rw [heq] at hclosing
      simp [AppState.closing, AppState.shutdown, AppState.modifySocket] at hclosing
    exact .of_eq (Function.update_of_ne hne ..) rfl
  | @start other active command hopen' hauth hnil hfresh hfrozen hP =>
    refine @InputChange.of_push s (s.startActive other active command) agent conn active.connId
      (AppState.startItem active command) rfl rfl ?_
    rw [AppState.startItem, AgentControl.command, kind_startItem hauth]
    rfl
  | @stop other socket command hopen' hauth hP =>
    refine @InputChange.of_push s ((s.push socket (AppState.stopItem command)).setActive other none)
      agent conn socket (AppState.stopItem command) rfl rfl ?_
    rw [AppState.stopItem, AgentControl.command, kind_stopItem hauth]
    rfl
  | dropActive _ => exact .of_eq rfl rfl
  | openSession hsession hconn => exact .of_eq rfl rfl
  | dropSession hfree => exact .of_eq rfl rfl
  | publish hconn hfollows => exact .of_eq rfl rfl
  | @register other fresh historyKnown hlease hfresh =>
    have hspec := hs.1.registerConnection_spec hlease hfresh historyKnown
    have hsocket := hspec.sockets conn
    have hne : conn ≠ fresh := by
      intro heq
      rw [← heq] at hfresh
      exact hfresh (hs.1.minted agent conn hconn.1)
    rw [if_neg hne] at hsocket
    split at hsocket
    . simp [AppState.closing, hsocket] at hclosing
    . apply InputChange.of_eq hsocket
      rw [hspec.sessions]
  | @unregister other socket reason hconn' hlease =>
    have hspec := hs.1.unregister_spec hconn' reason
    have hagent := (AppState.connId?_of_openConn? hopen).1
    rw [hspec.connId?] at hagent
    split at hagent
    . cases hagent
    . next hne =>
      have hsocket := hspec.sockets conn
      have hother : conn ≠ socket := by
        intro heq
        rw [heq] at hagent
        apply hne
        rw [← hs.1.agent agent socket hagent, hs.1.agent other socket hconn']
      rw [if_neg hother] at hsocket
      apply InputChange.of_eq hsocket
      rw [hspec.sessions]
  | launch hconn hplain hstamp => exact .of_eq rfl rfl

/-!
The invariant. On a connection that is open, what is down after the queue is held by a lease.
-/

structure Releases (s : AppState) : Prop where
  cleanup : ∀ conn, ∀ item ∈ (s.sockets conn).sent, ∀ socket command,
    item.control = .inputCleanup socket command → socket = conn ∧ isCleanupCommand command = true
  untagged : ∀ conn, ∀ item ∈ (s.sockets conn).sent, ∀ cmd,
    item.control = .text cmd → isRemoteInput cmd.kind = true → cmd.get? "__capture_generation" = none
  held : ∀ agent conn c, s.openConn? agent = some conn
    → c.isDown (s.sockets conn).stream = true
    → ∃ lease, s.sessions.lookup agent = some lease ∧ lease.held.holds c = true

/--
What is released by the next entry of the queue, and is down so far, can still be released: remote input
is granted at the revision of the stamp, and it is not about to be disabled.
-/
def Releasing (s : AppState) (conn : Uuid) (item : Queued) : Prop :=
  ∀ agent cmd (c : Contact), s.openConn? agent = some conn → item.control = .text cmd
    → c.releases cmd = true
    → c.isDown ((s.sockets conn).written.map Prod.snd) = true
    → ∃ runtime, s.modules agent = some runtime
      ∧ (runtime.report.get .remoteInput).granted = true
      ∧ cmd.get? "__module_generation"
        = some (generationStamp .remoteInput (runtime.report.get .remoteInput).revision)
      ∧ runtime.disablePending .remoteInput = false

namespace Releases

variable {s t : AppState}

theorem placed_cleanup {conn : Uuid} {item : Queued} (h : Places s conn item) {socket : Uuid}
    {command : Json} (hcontrol : item.control = .inputCleanup socket command)
    : socket = conn ∧ isCleanupCommand command = true := by
  cases h with
  | release hlease howner hitem =>
    simp only [AppState.releaseItems, List.mem_map] at hitem
    rcases hitem with ⟨released, hmem, rfl⟩
    rw [AgentControl.inputCleanup.injEq] at hcontrol
    rw [← hcontrol.1, ← hcontrol.2]
    exact ⟨rfl, HeldInput.drain_cleanup hmem⟩
  | input _ _ _ _ _ hitem =>
    rw [hitem] at hcontrol
    cases hcontrol
  | push _ _ _ hitem =>
    rw [hitem] at hcontrol
    cases hcontrol
  | start _ _ hitem =>
    rw [hitem] at hcontrol
    cases hcontrol
  | stop _ _ hitem =>
    rw [hitem] at hcontrol
    cases hcontrol

theorem placed_untagged {conn : Uuid} {item : Queued} (h : Places s conn item) {cmd : Json}
    (hcontrol : item.control = .text cmd) (hkind : isRemoteInput cmd.kind = true)
    : cmd.get? "__capture_generation" = none := by
  cases h with
  | release hlease howner hitem =>
    simp only [AppState.releaseItems, List.mem_map] at hitem
    rcases hitem with ⟨released, hmem, rfl⟩
    cases hcontrol
  | input hlease hopen hinput hauth htrack hitem =>
    rw [hitem, AgentControl.text.injEq] at hcontrol
    rw [← hcontrol, get?_authorized hauth (by decide)]
    exact (authorizeAgentCommand_ok hauth).2.1
  | push hopen hordinary hstamp hitem =>
    rw [hitem, AgentControl.text.injEq] at hcontrol
    rw [← hcontrol, hordinary.1] at hkind
    cases hkind
  | start hopen hauth hitem =>
    rw [hitem, AppState.startItem, AgentControl.text.injEq] at hcontrol
    rw [← hcontrol, kind_startItem hauth] at hkind
    cases hkind
  | stop hopen hauth hitem =>
    rw [hitem, AppState.stopItem, AgentControl.text.injEq] at hcontrol
    rw [← hcontrol, kind_stopItem hauth] at hkind
    cases hkind

theorem effect_held {P : Uuid → Queued → Prop} (h : Releases s) (hs : Sound s)
    (heffect : Effect P s t) {agent conn : Uuid} {c : Contact}
    (hopen : t.openConn? agent = some conn) (hdown : c.isDown (t.sockets conn).stream = true)
    : ∃ lease, t.sessions.lookup agent = some lease ∧ lease.held.holds c = true := by
  rcases heffect.open_grow hs hopen with ⟨_, hsent, hwritten⟩ | ⟨hold, items, hsocket⟩
  . simp [Socket.stream, Socket.queue, hsent, hwritten, Contact.isDown, Latch.isOn] at hdown
  . have hstream : (t.sockets conn).stream
        = (s.sockets conn).stream ++ items.map (fun item => item.control.command) := by
      rw [hsocket]
      exact Socket.stream_grow (hs.2.taken conn) items _
    have hitems : (t.sockets conn).sent = (s.sockets conn).sent ++ items := by
      rw [hsocket]
    unfold Contact.isDown at hdown
    rw [hstream] at hdown
    cases heffect.inputChange hs hold hopen with
    | none others hsent hneutral hheld =>
      rw [hitems, List.append_cancel_left_eq] at hsent
      subst hsent
      rw [Latch.isOn_append_neutral] at hdown
      . rcases h.held agent conn c hold hdown with ⟨lease, hlease, hholds⟩
        rw [hlease, Option.map_some, Option.map_eq_some_iff] at hheld
        rcases hheld with ⟨new, hnew, heq⟩
        rw [← heq] at hholds
        exact ⟨new, hnew, hholds⟩
      . intro command hcommand
        rw [List.mem_map] at hcommand
        rcases hcommand with ⟨item, hitem, rfl⟩
        exact Contact.neutral (hneutral item hitem) c
    | granted hsent hlease =>
      rw [hitems, List.append_right_eq_self] at hsent
      subst hsent
      rw [List.map_nil, List.append_nil] at hdown
      rcases h.held agent conn c hold hdown with ⟨lease, hsome, _⟩
      rw [hlease] at hsome
      cases hsome
    | @tracked lease cmd authorized held origin hlease hauth htrack hsent hnew =>
      rw [hitems, List.append_cancel_left_eq] at hsent
      subst hsent
      refine ⟨_, hnew, ?_⟩
      rw [HeldInput.holds_track htrack]
      rw [List.map_singleton, Latch.isOn_concat] at hdown
      unfold Latch.step Contact.presses Contact.releases at hdown ⊢
      simp only [AgentControl.command, Contact.isAt_authorized hauth] at hdown
      split at hdown
      . next hpress => rw [if_pos hpress]
      . next hpress =>
        rw [if_neg hpress]
        split at hdown
        . cases hdown
        . next hrelease =>
          rw [if_neg hrelease]
          rcases h.held agent conn c hold hdown with ⟨old, hsome, hholds⟩
          rw [hlease, Option.some.injEq] at hsome
          rw [hsome]
          exact hholds
    | @ended lease token hlease hsent =>
      rw [hitems, List.append_cancel_left_eq] at hsent
      subst hsent
      have hcommands : (AppState.releaseItems conn token lease.held.drain).map
          (fun item => item.control.command) = lease.held.drain := by
        unfold AppState.releaseItems
        rw [List.map_map]
        exact List.map_id _
      rw [hcommands, Latch.isOn_append_reset] at hdown
      . cases hdown
      . intro command hcommand
        exact HeldInput.drain_presses hcommand c
      . intro hon
        rcases h.held agent conn c hold hon with ⟨old, hsome, hholds⟩
        rw [hlease, Option.some.injEq] at hsome
        rw [hsome]
        exact HeldInput.drain_releases hholds

theorem effect {P : Uuid → Queued → Prop} (h : Releases s) (hs : Sound s) (heffect : Effect P s t)
    : Releases t where
  cleanup := by
    intro conn item hitem socket command hcontrol
    cases heffect.places.socket hs.1 conn with
    | new _ _ _ heq =>
      rw [heq] at hitem
      cases hitem
    | grow items shutdown heq _ hplaces _ =>
      rw [heq, List.mem_append] at hitem
      rcases hitem with hitem | hitem
      . exact h.cleanup conn item hitem socket command hcontrol
      . exact placed_cleanup (hplaces item hitem) hcontrol
  untagged := by
    intro conn item hitem cmd hcontrol hkind
    cases heffect.places.socket hs.1 conn with
    | new _ _ _ heq =>
      rw [heq] at hitem
      cases hitem
    | grow items shutdown heq _ hplaces _ =>
      rw [heq, List.mem_append] at hitem
      rcases hitem with hitem | hitem
      . exact h.untagged conn item hitem cmd hcontrol hkind
      . exact placed_untagged (hplaces item hitem) hcontrol hkind
  held := by
    intro agent conn c hopen hdown
    exact h.effect_held hs heffect hopen hdown

end Releases

theorem Contact.kind_releases {c : Contact} {cmd : Json} (h : c.releases cmd = true)
    : cmd.kind = "KeyUp" ∨ cmd.kind = "MouseUp" := by
  unfold releases isAt at h
  cases c with
  | key name =>
    simp only [Bool.and_eq_true, decide_eq_true_eq] at h
    exact .inl h.1
  | button b =>
    simp only [Bool.and_eq_true, decide_eq_true_eq] at h
    exact .inr h.1

-- A command that is stamped with the grant in force passes the check of its generation.
theorem generationDeliverable_of_granted {s : AppState} (hs : Coherent s) {agent conn : Uuid}
    {cmd : Json} {m : Module} {runtime : RuntimeModules} (hconn : s.connId? agent = some conn)
    (hgate : cmd.gate = .module m) (hruntime : s.modules agent = some runtime)
    (hgranted : (runtime.report.get m).granted = true)
    (hstamp : cmd.get? "__module_generation"
      = some (generationStamp m (runtime.report.get m).revision))
    (hpending : runtime.disablePending m = false) : s.generationDeliverable agent cmd = true := by
  have hmodule : s.moduleRuntime agent conn = some runtime := by
    have := hs.modules agent runtime hruntime
    rw [hconn, Option.some.injEq] at this
    simp [AppState.moduleRuntime, hruntime, this]
  generalize huntag : (cmd.eraseField "__capture_generation").eraseField "__module_generation" = plain
  have hplain : plain.gate = .module m := by
    rw [← hgate, ← huntag]
    unfold Json.gate Json.kind
    rw [Json.field_eraseField_of_ne (by decide), Json.field_eraseField_of_ne (by decide)]
  have hnone : plain.get? "__module_generation" = none := by
    rw [← huntag]
    exact Json.get?_eraseField_self ..
  have hnone' : plain.get? "__capture_generation" = none := by
    rw [← huntag, Json.get?_eraseField_of_ne (by decide)]
    exact Json.get?_eraseField_self ..
  have hauth := authorizeAgentCommand_of_granted hconn hnone hnone' hplain hmodule hgranted hpending
  rcases type_of_gate hplain with ⟨value, htype⟩
  simp only [AppState.generationDeliverable, huntag, hauth, decide_eq_true_eq]
  rw [hstamp, Json.get?_setField_self htype]

-- A release that is stamped with the grant in force is written.
theorem deliverable_release {s : AppState} (hs : Coherent s) {agent conn : Uuid} {item : Queued}
    {cmd : Json} {c : Contact} {runtime : RuntimeModules} (hopen : s.openConn? agent = some conn)
    (hcontrol : item.control = .text cmd) (hrelease : c.releases cmd = true)
    (huntagged : cmd.get? "__capture_generation" = none)
    (hruntime : s.modules agent = some runtime)
    (hgranted : (runtime.report.get .remoteInput).granted = true)
    (hstamp : cmd.get? "__module_generation"
      = some (generationStamp .remoteInput (runtime.report.get .remoteInput).revision))
    (hpending : runtime.disablePending .remoteInput = false) : s.deliverable conn item = true := by
  have hconn := (AppState.connId?_of_openConn? hopen).1
  have hkind := c.kind_releases hrelease
  have hgate : cmd.gate = .module .remoteInput := by
    unfold Json.gate
    rcases hkind with heq | heq
    . rw [heq]
      rfl
    . rw [heq]
      rfl
  simp only [AppState.deliverable, hcontrol, hs.agent agent conn hconn, hopen, Bool.and_eq_true,
    decide_eq_true_eq, true_and]
  constructor
  . unfold AppState.captureDeliverable
    rcases hkind with heq | heq
    . simp [heq, huntagged]
    . simp [heq, huntagged]
  . exact generationDeliverable_of_granted hs hconn hgate hruntime hgranted hstamp hpending

namespace Releases

variable {s t : AppState}

-- An entry that is dropped does not release anything that is down.
theorem not_releases (h : Releases s) (hs : Sound s) {agent conn : Uuid} {item : Queued} {c : Contact}
    (hopen : s.openConn? agent = some conn)
    (hitem : (s.sockets conn).sent[(s.sockets conn).taken]? = some item) (hC : Releasing s conn item)
    (hdenied : s.deliverable conn item = false
      ∨ (∃ cmd, item.control = .text cmd
        ∧ (cmd.kind = "ClipboardRead" ∨ cmd.kind = "ClipboardWrite")))
    (hrelease : c.releases item.control.command = true)
    : c.isDown ((s.sockets conn).written.map Prod.snd) = false := by
  rw [Bool.eq_false_iff]
  intro hdown
  have hmem := List.mem_of_getElem? hitem
  have hconn := (AppState.connId?_of_openConn? hopen).1
  cases hcontrol : item.control with
  | text cmd =>
    rw [hcontrol, AgentControl.command] at hrelease
    have hkind := c.kind_releases hrelease
    have hinput : isRemoteInput cmd.kind = true := by
      rcases hkind with heq | heq
      . rw [heq]
        rfl
      . rw [heq]
        rfl
    rcases hC agent cmd c hopen hcontrol hrelease hdown with
      ⟨runtime, hruntime, hgranted, hstamp, hpending⟩
    have hdeliverable := deliverable_release hs.1 hopen hcontrol hrelease
      (h.untagged conn item hmem cmd hcontrol hinput) hruntime hgranted hstamp hpending
    rcases hdenied with hdenied | ⟨other, hother, hclipboard⟩
    . rw [hdeliverable] at hdenied
      cases hdenied
    . rw [hcontrol, AgentControl.text.injEq] at hother
      rw [← hother] at hclipboard
      rcases hkind with heq | heq <;> rw [heq] at hclipboard <;> revert hclipboard <;> decide
  | inputCleanup socket command =>
    have hcleanup := h.cleanup conn item hmem socket command hcontrol
    rcases hdenied with hdenied | ⟨cmd, hcmd, _⟩
    . simp [AppState.deliverable, hcontrol, AppState.controlCleanupDeliverable,
        hs.1.agent agent conn hconn, hopen, hcleanup] at hdenied
    . rw [hcontrol] at hcmd
      cases hcmd

theorem drop (h : Releases s) (hs : Sound s) {conn : Uuid} {item : Queued}
    (hitem : (s.sockets conn).sent[(s.sockets conn).taken]? = some item) (hC : Releasing s conn item)
    (hdenied : s.deliverable conn item = false
      ∨ (∃ cmd, item.control = .text cmd
        ∧ (cmd.kind = "ClipboardRead" ∨ cmd.kind = "ClipboardWrite")))
    : Releases (s.take conn) where
  cleanup := by
    intro other
    rw [take_sent]
    exact h.cleanup other
  untagged := by
    intro other
    rw [take_sent]
    exact h.untagged other
  held := by
    intro agent other c hopen hdown
    have hold : s.openConn? agent = some other := by
      rw [AppState.take_openConn?] at hopen
      exact hopen
    by_cases hother : other = conn
    . subst hother
      rw [s.sockets_take, if_pos rfl] at hdown
      apply h.held agent other c hold
      unfold Contact.isDown Socket.stream at hdown ⊢
      rw [Socket.queue_head hitem, List.map_cons]
      apply Latch.isOn_of_erased hdown
      exact h.not_releases hs hold hitem hC hdenied
    . rw [s.sockets_take, if_neg hother] at hdown
      exact h.held agent other c hold hdown

theorem write (h : Releases s) {conn : Uuid} {item : Queued}
    (hitem : (s.sockets conn).sent[(s.sockets conn).taken]? = some item)
    : Releases ((s.take conn).write conn (s.sockets conn).taken item.control.command) where
  cleanup := by
    intro other
    rw [write_sent]
    exact h.cleanup other
  untagged := by
    intro other
    rw [write_sent]
    exact h.untagged other
  held := by
    intro agent other c hopen hdown
    have hold : s.openConn? agent = some other := by
      rw [AppState.write_openConn?] at hopen
      exact hopen
    by_cases hother : other = conn
    . subst hother
      rw [s.sockets_write, if_pos rfl] at hdown
      apply h.held agent other c hold
      unfold Contact.isDown Socket.stream at hdown ⊢
      rw [Socket.queue_head hitem, List.map_cons]
      rw [List.map_append, List.map_singleton, List.append_assoc] at hdown
      exact hdown
    . rw [s.sockets_write, if_neg hother] at hdown
      exact h.held agent other c hold hdown

theorem preserves : Preserves Sound Releasing Releases where
  same := by
    intro s t _ h hsame
    constructor
    . rw [hsame.sockets]
      exact h.cleanup
    . rw [hsame.sockets]
      exact h.untagged
    . intro agent conn c hopen hdown
      rw [hsame.sockets] at hdown
      rw [hsame.sessions]
      rw [hsame.openConn?] at hopen
      exact h.held agent conn c hopen hdown
  effect := by
    intro P s t hs h heffect
    exact h.effect hs heffect
  drop := by
    intro s conn item hs h hitem hC hdenied
    exact h.drop hs hitem hC hdenied
  write := by
    intro s conn item _ h hitem _
    exact h.write hitem

theorem init : Releases AppState.init := by
  constructor
  . simp [AppState.init, Socket.new]
  . simp [AppState.init, Socket.new]
  . intro agent conn c hopen
    cases hopen

end Releases

/--
In a run in which no release of something that is down comes too late, nothing stays down: in every
state in which the agent has no lease, its socket is open and the queue is drained, what was pressed
has been released after it was pressed last.
-/
theorem no_stuck_input {s : AppState} (h : RunsIf Releasing AppState.init s) {agent conn : Uuid}
    (hopen : s.openConn? agent = some conn) (hlease : s.sessions.lookup agent = none)
    (hqueue : (s.sockets conn).queue = []) (c : Contact) {before after : List Json} {cmd : Json}
    (hwritten : (s.sockets conn).written.map Prod.snd = before ++ cmd :: after)
    (hpress : c.presses cmd = true)
    : ∃ up ∈ after, c.releases up = true := by
  have hinv := Releases.preserves.holds Sound.init Releases.init h
  have hdown : c.isDown (s.sockets conn).stream = false := by
    rw [Bool.eq_false_iff]
    intro hdown
    rcases hinv.held agent conn c hopen hdown with ⟨lease, hsome, _⟩
    rw [hlease] at hsome
    cases hsome
  rw [Socket.stream, hqueue, List.map_nil, List.append_nil, hwritten] at hdown
  exact Latch.resets_after hdown hpress

namespace Example

def shiftDown : Json :=
  .object [("key", .string "shift"), ("type", .string "KeyDown")]

def shiftUp : Json :=
  .object [("key", .string "shift"), ("type", .string "KeyUp")]

def pressed : List Op :=
  controlled ++ [.viewerCommand 1 6 operator (some 7) shiftDown 0, .deliver 2 0]

def expired : List Op :=
  pressed ++ [.expire (10 ^ 12), .deliver 2 0]

def written (ops : List Op) : List Json :=
  ((AppState.init.run ops).sockets 2).written.map Prod.snd

-- No entry of this kind is a release that a viewer has sent.
def unreleased (_ : AppState) (_ : Uuid) (item : Queued) : Bool :=
  match item.control with
  | .text cmd => cmd.kind ≠ "KeyUp" ∧ cmd.kind ≠ "MouseUp"
  | .inputCleanup _ _ => true

theorem releasing_unreleased (s : AppState) (conn : Uuid) (item : Queued) (_ : Sound s)
    (h : unreleased s conn item = true) : Releasing s conn item := by
  intro agent cmd c _ hcontrol hrelease
  simp only [unreleased, hcontrol, decide_eq_true_eq] at h
  rcases c.kind_releases hrelease with hkind | hkind
  . exact absurd hkind h.1
  . exact absurd hkind h.2

end Example

-- The lease expires while a key is down, and the key is released.
theorem no_stuck_input_expired
    : ∃ up ∈ [HeldInput.keyUp "shift"], (Contact.key "shift").releases up = true := by
  -- The facts about the run are one, so that it is evaluated once.
  have hrun : AppState.init.checkedRun Example.unreleased Example.expired = true
      ∧ (AppState.init.run Example.expired).openConn? 1 = some 2
      ∧ (AppState.init.run Example.expired).sessions.lookup 1 = none
      ∧ ((AppState.init.run Example.expired).sockets 2).queue = []
      ∧ Example.written Example.expired
        = (Example.written Example.expired).take 1
          ++ Example.shiftDown.setField "__module_generation" (generationStamp .remoteInput 2)
            :: [HeldInput.keyUp "shift"] := by
    decide +kernel
  rcases hrun with ⟨hchecked, hopen, hlease, hqueue, hwritten⟩
  have hruns : RunsIf Releasing AppState.init (AppState.init.run Example.expired) :=
    AppState.runsIf_run Example.releasing_unreleased Sound.init hchecked
  exact no_stuck_input hruns hopen hlease hqueue (.key "shift") hwritten (by decide +kernel)

namespace Example

def withdrawn : Permissions.State :=
  grants.run [.localSet .remoteInput false]

def stuck : List Op :=
  pressed ++ [
    .viewerCommand 1 6 operator (some 7) shiftUp 0,
    .moduleReport 1 2 (withdrawn.wire (fun _ => true)),
    .deliver 2 0
  ]

end Example

/--
A viewer presses a key and releases it, and before the release is taken out of the queue remote input
is withdrawn: the key stays down.
-/
theorem key_stuck
    : ¬ ∀ s, Reachable s → ∀ agent conn, s.openConn? agent = some conn
      → s.sessions.lookup agent = none → (s.sockets conn).queue = []
      → ∀ (c : Contact) before cmd after,
        (s.sockets conn).written.map Prod.snd = before ++ cmd :: after → c.presses cmd = true
        → ∃ up ∈ after, c.releases up = true := by
  intro h
  have hrun : AppState.init.freshRun Example.stuck = true
      ∧ (AppState.init.run Example.stuck).openConn? 1 = some 2
      ∧ (AppState.init.run Example.stuck).sessions.lookup 1 = none
      ∧ ((AppState.init.run Example.stuck).sockets 2).queue = []
      ∧ Example.written Example.stuck
        = (Example.written Example.stuck).take 1
          ++ Example.shiftDown.setField "__module_generation" (generationStamp .remoteInput 2) :: [] := by
    decide +kernel
  rcases hrun with ⟨hfresh, hopen, hlease, hqueue, hwritten⟩
  rcases h _ (AppState.reachable_run hfresh) 1 2 hopen hlease hqueue (.key "shift") _ _ _ hwritten
    (by decide +kernel) with ⟨up, hmem, _⟩
  cases hmem

end Vantyr
