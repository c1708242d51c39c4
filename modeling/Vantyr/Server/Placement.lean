import Mathlib.Data.List.Induction
import Vantyr.Server.Registry

/-!
This module proves where the entries of a queue come from: input and clipboard commands from the owner
of a live lease on the very connection, or from the releases such a lease leaves behind, and capture
commands from the arbitration of live captures.
-/

namespace Vantyr

theorem Acts.sent {P : Uuid → Queued → Prop} {s t : AppState} (hs : Sound s) (h : Acts P s t)
    (conn : Uuid)
    : ∃ items, (t.sockets conn).sent = (s.sockets conn).sent ++ items
        ∧ ∀ item ∈ items, P conn item := by
  have hstrong : Sound t
      ∧ ∃ items, (t.sockets conn).sent = (s.sockets conn).sent ++ items
        ∧ ∀ item ∈ items, P conn item := by
    induction h with
    | refl => exact ⟨hs, [], by simp, by simp⟩
    | @tail u v _ hmicro ih =>
      rcases ih with ⟨hu, items, hitems, hP⟩
      cases hmicro with
      | same hsame =>
        refine ⟨(Sound.preserves Always).same trivial hu hsame, items, ?_, hP⟩
        rw [hsame.sockets]
        exact hitems
      | effect heffect =>
        refine ⟨(Sound.preserves Always).effect trivial hu heffect, ?_⟩
        cases heffect.socket hu.1 conn with
        | new agent hfresh hminted heq =>
          have hunused := (hu.2.unused conn hfresh).1
          refine ⟨items, ?_, hP⟩
          rw [heq, ← hitems, hunused]
          rfl
        | grow more shutdown heq hshutdown hmore hconn =>
          refine ⟨items ++ more, ?_, ?_⟩
          . simp only [heq, hitems, List.append_assoc]
          . intro item hitem
            rw [List.mem_append] at hitem
            cases hitem with
            | inl hold => exact hP item hold
            | inr hnew => exact hmore item hnew
  exact hstrong.2

theorem take_sent (s : AppState) (conn other : Uuid)
    : ((s.take conn).sockets other).sent = (s.sockets other).sent := by
  rw [s.sockets_take]
  split
  . next heq => rw [heq]
  . rfl

theorem write_sent (s : AppState) (conn other : Uuid) (position : Nat) (command : Json)
    : (((s.take conn).write conn position command).sockets other).sent = (s.sockets other).sent := by
  rw [s.sockets_write]
  split
  . next heq => rw [heq]
  . rfl

-- What one step places in a queue.
theorem exec_placed {s : AppState} {op : Op} (hs : Sound s) (hfresh : s.Fresh op) (conn : Uuid)
    : ∃ items, ((s.exec op).sockets conn).sent = (s.sockets conn).sent ++ items
        ∧ ∀ item ∈ items, Placed s op conn item := by
  by_cases hop : ∀ conn now, op ≠ .deliver conn now
  . exact (AppState.acts_exec hs.1 hfresh hop).sent hs conn
  . simp only [not_forall, not_not] at hop
    rcases hop with ⟨socket, now, hop⟩
    have hdelivery := AppState.delivery hs.1 (releasable_placed s op) socket now
    have hexec : s.exec op = s.deliver socket now := by rw [hop]; rfl
    rw [hexec]
    generalize s.deliver socket now = t at hdelivery
    cases hdelivery with
    | idle => exact ⟨[], by simp, by simp⟩
    | drop hitem hdenied hacts =>
      have htake : Sound (s.take socket) := ⟨hs.1.take socket, hs.2.take hitem⟩
      rcases hacts.sent htake conn with ⟨items, hitems, hP⟩
      refine ⟨items, ?_, hP⟩
      rw [hitems, take_sent]
    | write hitem hdeliverable => exact ⟨[], by simp [write_sent], by simp⟩

/-!
Which commands an entry point may place.
-/

/--
An entry was placed in the queue of `conn` by the owner of a live lease on that connection, or
releases what such a lease held.
-/
inductive ByLease (s : AppState) (op : Op) (conn : Uuid) (item : Queued) : Prop where
  | input {agent viewer : Uuid} {user : AuthUser} {cmd : Json} {now : Nat} {lease : Lease}
      (hop : op = .viewerCommand agent viewer user (some lease.grant.token) cmd now)
      (hlease : s.sessions.lookup agent = some lease)
      (howner : lease.grant.owner
        = { viewerConnectionId := viewer, userId := user.userId, agentConnectionId := conn })
      (hlive : now < lease.grant.expiresAt)
  | clipboard {agent fresh : Uuid} {user : AuthUser} {request : ClipboardRequest} {now : Nat}
      {lease : Lease}
      (hop : op = .clipboardRequest agent user request now fresh)
      (hlease : s.sessions.lookup agent = some lease)
      (htoken : lease.grant.token = request.controlToken)
      (huser : lease.grant.owner.userId = user.userId)
      (hconn : lease.grant.owner.agentConnectionId = conn)
      (hlive : now < lease.grant.expiresAt)
  | release {agent : Uuid} {lease : Lease} {held : HeldInput} {command : Json}
      (hitem : item.control = .inputCleanup conn command)
      (hlease : s.sessions.lookup agent = some lease)
      (hconn : lease.grant.owner.agentConnectionId = conn)
      (hheld : held = lease.held ∨ ∃ cmd, lease.held.track cmd = .ok held)
      (hmem : command ∈ held.drain)

-- The entry points of the capture arbitration.
def Op.isArbitration : Op → Bool
  | .syncCapture _ _ => true
  | .beginSession _ _ _ _ _ _ _ => true
  | .endSession _ _ _ _ => true
  | _ => false

def needsLease (command : Json) : Bool :=
  isRemoteInput command.kind
    || command.kind = "ClipboardRead"
    || command.kind = "ClipboardWrite"

theorem isCapture_of_remoteInput {command : Json} (h : isRemoteInput command.kind = true)
    : command.isCapture = false := by
  unfold Json.isCapture
  rw [decide_eq_false_iff_not]
  intro hkind
  rcases hkind with hkind | hkind
  . rw [hkind] at h
    revert h
    decide
  . rw [hkind] at h
    revert h
    decide

theorem needsLease_of_isCapture {command : Json} (h : command.isCapture = true)
    : needsLease command = false := by
  unfold Json.isCapture at h
  rw [decide_eq_true_eq] at h
  unfold needsLease
  rcases h with h | h
  . rw [h]
    decide
  . rw [h]
    decide

theorem kind_drain {held : HeldInput} {command : Json} (h : command ∈ held.drain)
    : command.kind = "KeyUp" ∨ command.kind = "MouseUp" := by
  unfold HeldInput.drain at h
  simp only [List.mem_append, List.mem_filterMap, Option.map_eq_some_iff] at h
  rcases h with ⟨entry, _, heq⟩ | ⟨button, _, point, _, heq⟩
  . split at heq
    . cases heq
      exact Or.inl rfl
    . contradiction
  . subst heq
    exact Or.inr rfl

theorem remoteInput_drain {held : HeldInput} {command : Json} (h : command ∈ held.drain)
    : isRemoteInput command.kind = true := by
  rcases kind_drain h with hkind | hkind
  . rw [hkind]
    decide
  . rw [hkind]
    decide

theorem Placed.byLease {s : AppState} {op : Op} {conn : Uuid} {item : Queued}
    (h : Placed s op conn item) (hneeds : needsLease item.control.command = true)
    : ByLease s op conn item := by
  cases h with
  | release hlease hheld hmem => exact .release rfl hlease rfl hheld hmem
  | input hop hlease hviewer huser hlive hkind =>
    subst hviewer
    refine .input hop hlease ?_ hlive
    rw [← huser]
  | clipboard hop hlease htoken huser hlive hordinary =>
    exact .clipboard hop hlease htoken huser rfl hlive
  | @capture _ _ _ command hkind hop =>
    have hneeds : needsLease command = true := hneeds
    rw [needsLease_of_isCapture hkind] at hneeds
    contradiction
  | plain hplain =>
    simp [needsLease, AgentControl.command, hplain.ordinary.1, hplain.notRead, hplain.notWrite]
      at hneeds

theorem Placed.byArbitration {s : AppState} {op : Op} {conn : Uuid} {item : Queued}
    (h : Placed s op conn item) (hcapture : item.control.command.isCapture = true)
    : op.isArbitration = true := by
  have hnot : ∀ command : Json, item.control.command = command → command.isCapture = false →
      False := by
    intro command hcommand hfalse
    rw [hcommand, hfalse] at hcapture
    contradiction
  cases h with
  | release hlease hheld hmem =>
    exact (hnot _ rfl (isCapture_of_remoteInput (remoteInput_drain hmem))).elim
  | input hop hlease hviewer huser hlive hkind =>
    exact (hnot _ rfl (isCapture_of_remoteInput hkind)).elim
  | clipboard hop hlease htoken huser hlive hordinary => exact (hnot _ rfl hordinary.2).elim
  | capture hkind hop =>
    rcases hop with hop | ⟨_, _, _, _, _, hop⟩ | ⟨_, _, hop⟩
    . rw [hop]
      rfl
    . rw [hop]
      rfl
    . rw [hop]
      rfl
  | plain hplain => exact (hnot _ rfl hplain.ordinary.2).elim

/-!
Whole runs.
-/

theorem AppState.run_append (s : AppState) (xs ys : List Op) : s.run (xs ++ ys) = (s.run xs).run ys := by
  simp [run]

theorem AppState.freshRun_append (s : AppState) (xs ys : List Op)
    : s.freshRun (xs ++ ys) = (s.freshRun xs && (s.run xs).freshRun ys) := by
  induction xs generalizing s with
  | nil => rfl
  | cons x xs ih =>
    simp only [List.cons_append, freshRun, ih, Bool.and_assoc]
    rfl

-- The step of a run that placed an entry.
theorem placed_in_run {ops : List Op} (h : AppState.init.freshRun ops = true) {conn : Uuid}
    {index : Nat} {item : Queued}
    (hitem : ((AppState.init.run ops).sockets conn).sent[index]? = some item)
    : ∃ before op after,
      ops = before ++ op :: after
        ∧ ((AppState.init.run before).sockets conn).sent.length ≤ index
        ∧ index < (((AppState.init.run before).exec op).sockets conn).sent.length
        ∧ Placed (AppState.init.run before) op conn item := by
  induction ops using List.reverseRecOn with
  | nil => simp [AppState.run, AppState.init, Socket.new] at hitem
  | append_singleton ops op ih =>
    rw [AppState.freshRun_append, Bool.and_eq_true] at h
    have hsound := (AppState.reachable_run h.1).sound
    have hfresh : (AppState.init.run ops).Fresh op := by
      have := h.2
      simp only [AppState.freshRun, Bool.and_true] at this
      exact (AppState.isFresh_iff _ op).mp this
    rcases exec_placed hsound hfresh conn with ⟨items, hitems, hplaced⟩
    rw [AppState.run_append] at hitem
    change ((((AppState.init.run ops).exec op).sockets conn).sent[index]? = some item) at hitem
    by_cases hindex : index < ((AppState.init.run ops).sockets conn).sent.length
    . rw [hitems, List.getElem?_append_left hindex] at hitem
      rcases ih h.1 hitem with ⟨before, placing, after, hops, hrest⟩
      refine ⟨before, placing, after ++ [op], ?_, hrest⟩
      rw [hops]
      simp
    . refine ⟨ops, op, [], by simp, by omega, ?_, ?_⟩
      . exact (List.getElem?_eq_some_iff.mp hitem).1
      . apply hplaced
        rw [hitems, List.getElem?_append_right (by omega)] at hitem
        exact List.mem_of_getElem? hitem

/--
Every entry that ever was in a queue was placed there by one step of the run. If it is input or a
clipboard command, that step was taken by the owner of a live lease on the connection, or released
what such a lease held; if it selects a capture, the step belongs to the capture arbitration.
-/
theorem no_lease_bypass {ops : List Op} (h : AppState.init.freshRun ops = true) (conn : Uuid)
    (index : Nat) (item : Queued)
    (hitem : ((AppState.init.run ops).sockets conn).sent[index]? = some item)
    : ∃ before op after,
      ops = before ++ op :: after
        ∧ ((AppState.init.run before).sockets conn).sent.length ≤ index
        ∧ index < (((AppState.init.run before).exec op).sockets conn).sent.length
        ∧ (needsLease item.control.command = true →
          ByLease (AppState.init.run before) op conn item)
        ∧ (item.control.command.isCapture = true → op.isArbitration = true) := by
  rcases placed_in_run h hitem with ⟨before, op, after, hops, hle, hlt, hplaced⟩
  exact ⟨before, op, after, hops, hle, hlt, hplaced.byLease, hplaced.byArbitration⟩

-- The capture of the example is started by its first session.
theorem no_lease_bypass_viewed
    : ∃ item, ((AppState.init.run Example.viewed).sockets 2).sent[0]? = some item
        ∧ ∃ before op after, Example.viewed = before ++ op :: after
          ∧ (item.control.command.isCapture = true → op.isArbitration = true) := by
  have hfresh : AppState.init.freshRun Example.viewed = true := by
    decide +kernel
  have hsome : (((AppState.init.run Example.viewed).sockets 2).sent[0]?).isSome = true := by
    decide +kernel
  rw [Option.isSome_iff_exists] at hsome
  rcases hsome with ⟨item, hitem⟩
  rcases no_lease_bypass hfresh 2 0 item hitem with ⟨before, op, after, hops, _, _, _, hcapture⟩
  exact ⟨item, hitem, before, op, after, hops, hcapture⟩

end Vantyr
