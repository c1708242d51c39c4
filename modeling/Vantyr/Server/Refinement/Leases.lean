import Vantyr.Server.Authorization

/-!
This module starts the proof that every entry point of the server is a sequence of actions: placing
an entry in a queue and ending leases. What an entry point may place in a queue is spelled out by
`Placed`.
-/

namespace Vantyr

/--
The entries `op` may place in the queue of a connection when it is run in `s`.
-/
inductive Placed (s : AppState) (op : Op) : Uuid → Queued → Prop where
  | release {agent : Uuid} {lease : Lease} {held : HeldInput} {command : Json}
      (hlease : s.sessions.lookup agent = some lease)
      (hheld : held = lease.held ∨ ∃ cmd, lease.held.track cmd = .ok held)
      (hmem : command ∈ held.drain)
      : Placed s op lease.grant.owner.agentConnectionId {
          control := .inputCleanup lease.grant.owner.agentConnectionId command
          origin := .release lease.grant.token
        }
  | input {agent viewer : Uuid} {user : AuthUser} {cmd authorized : Json} {now : Nat} {lease : Lease}
      (hop : op = .viewerCommand agent viewer user (some lease.grant.token) cmd now)
      (hlease : s.sessions.lookup agent = some lease)
      (hviewer : lease.grant.owner.viewerConnectionId = viewer)
      (huser : lease.grant.owner.userId = user.userId)
      (hlive : now < lease.grant.expiresAt)
      (hkind : isRemoteInput authorized.kind = true)
      : Placed s op lease.grant.owner.agentConnectionId
          { control := .text authorized, origin := .input lease.grant.token }
  | clipboard {agent fresh : Uuid} {user : AuthUser} {request : ClipboardRequest} {now : Nat}
      {lease : Lease} {authorized : Json}
      (hop : op = .clipboardRequest agent user request now fresh)
      (hlease : s.sessions.lookup agent = some lease)
      (htoken : lease.grant.token = request.controlToken)
      (huser : lease.grant.owner.userId = user.userId)
      (hlive : now < lease.grant.expiresAt)
      (hordinary : Ordinary authorized)
      : Placed s op lease.grant.owner.agentConnectionId
          { control := .text authorized, origin := .command }
  | capture {conn agent fresh : Uuid} {command : Json} (hkind : command.isCapture)
      (hop : op = .syncCapture agent fresh
        ∨ (∃ session user prefs monitor now,
          op = .beginSession agent session user prefs monitor now fresh)
        ∨ ∃ session user, op = .endSession agent session user fresh)
      : Placed s op conn { control := .text command, origin := .command }
  | plain {conn : Uuid} {command : Json} (hplain : Plain command)
      : Placed s op conn { control := .text command, origin := .command }

section Sequences

variable {P : Uuid → Queued → Prop} {s t u : AppState}

theorem Acts.refl (s : AppState) : Acts P s s :=
  Relation.ReflTransGen.refl

theorem Acts.trans (h : Acts P s t) (h' : Acts P t u) : Acts P s u :=
  Relation.ReflTransGen.trans h h'

theorem Acts.same (h : SameCore s t) : Acts P s t :=
  Relation.ReflTransGen.single (.same h)

theorem Acts.effect (h : Effect P s t) : Acts P s t :=
  Relation.ReflTransGen.single (.effect h)

-- The usual shape: one action, up to the tables that do not matter.
theorem Acts.effect_same (h : Effect P s t) (h' : SameCore t u) : Acts P s u :=
  (Acts.effect h).trans (Acts.same h')

theorem SameCore.trans (h : SameCore s t) (h' : SameCore t u) : SameCore s u where
  connections := h'.connections.trans h.connections
  cmds := h'.cmds.trans h.cmds
  modules := h'.modules.trans h.modules
  sockets := h'.sockets.trans h.sockets
  sessions := fun agent => (h'.sessions agent).trans (h.sessions agent)
  capture := h'.capture.trans h.capture
  mjpegSessions := fun session => (h'.mjpegSessions session).trans (h.mjpegSessions session)
  activeCapture := h'.activeCapture.trans h.activeCapture
  inflight := List.Subset.trans h'.inflight h.inflight
  minted := List.Subset.trans h.minted h'.minted
  grants := h'.grants.trans h.grants
  cleanups := h'.cleanups.trans h.cleanups

theorem SameCore.modifySocket (h : SameCore s t) (conn : Uuid) (f : Socket → Socket)
    : SameCore (s.modifySocket conn f) (t.modifySocket conn f) where
  connections := h.connections
  cmds := h.cmds
  modules := h.modules
  sockets := by simp only [AppState.modifySocket, h.sockets]
  sessions := h.sessions
  capture := h.capture
  mjpegSessions := h.mjpegSessions
  activeCapture := h.activeCapture
  inflight := h.inflight
  minted := h.minted
  grants := h.grants
  cleanups := h.cleanups

theorem SameCore.setActive (h : SameCore s t) (agent : Uuid) (active : Option ActiveCapture)
    : SameCore (s.setActive agent active) (t.setActive agent active) where
  connections := h.connections
  cmds := h.cmds
  modules := h.modules
  sockets := h.sockets
  sessions := h.sessions
  capture := h.capture
  mjpegSessions := h.mjpegSessions
  activeCapture := by simp only [AppState.setActive, h.activeCapture]
  inflight := h.inflight
  minted := h.minted
  grants := h.grants
  cleanups := h.cleanups

end Sequences

namespace AppState

theorem modifySocket_modifySocket (s : AppState) (conn : Uuid) (f g : Socket → Socket)
    : (s.modifySocket conn f).modifySocket conn g = s.modifySocket conn (fun socket => g (f socket)) := by
  simp [modifySocket]

/-!
Placing an entry in a queue.
-/

theorem trySend_true {s t : AppState} {agent : Uuid} {item : Queued}
    (h : s.trySend agent item = (true, t))
    : ∃ conn, s.cmds agent = some conn ∧ SameCore (s.push conn item) t := by
  unfold trySend at h
  split at h
  . next conn room hcmds hroom =>
    simp only [Prod.mk.injEq, true_and] at h
    subst h
    refine ⟨conn, hcmds, ?_⟩
    constructor <;> simp [push, modifySocket, setRoom]
  . simp at h

theorem trySend_false {s t : AppState} {agent : Uuid} {item : Queued}
    (h : s.trySend agent item = (false, t)) : SameCore s t := by
  unfold trySend at h
  split at h
  . simp at h
  . simp only [Prod.mk.injEq, true_and] at h
    subst h
    constructor <;> simp [setRoom]

theorem enqueueAuthorizedCommand_ok {s t : AppState} {agent conn : Uuid} {command : Json}
    {origin : Origin} (hs : Coherent s)
    (h : s.enqueueAuthorizedCommand agent conn command origin = (.ok (), t))
    : s.openConn? agent = some conn
        ∧ SameCore (s.push conn { control := .text command, origin }) t := by
  unfold enqueueAuthorizedCommand at h
  split at h
  . simp at h
  . next hopen =>
    split at h
    . simp at h
    . split at h
      . next heq =>
        simp only [Prod.mk.injEq, true_and] at h
        subst h
        have hopen : s.openConn? agent = some conn := by simpa using hopen
        rcases trySend_true heq with ⟨c, hc, hsame⟩
        rw [hs.cmds, (connId?_of_openConn? hopen).1] at hc
        simp only [Option.some.injEq] at hc
        subst hc
        exact ⟨hopen, hsame⟩
      . simp at h

theorem enqueueAuthorizedCommand_error {s t : AppState} {agent conn : Uuid} {command : Json}
    {origin : Origin} {e : CommandDenied}
    (h : s.enqueueAuthorizedCommand agent conn command origin = (.error e, t)) : SameCore s t := by
  unfold enqueueAuthorizedCommand at h
  split at h
  . simp only [Prod.mk.injEq] at h
    rw [← h.2]
    exact SameCore.refl s
  . split at h
    . simp only [Prod.mk.injEq] at h
      rw [← h.2]
      exact SameCore.refl s
    . split at h
      . simp at h
      . next heq =>
        simp only [Prod.mk.injEq] at h
        rw [← h.2]
        exact trySend_false heq

/-!
Ending a lease: the releases are placed in the queue, up to the first one that finds no room.
-/

def released (s : AppState) (conn token : Uuid) (commands : List Json) (count : Nat) : AppState :=
  s.modifySocket conn (fun socket => {
    socket with
    sent := socket.sent ++ releaseItems conn token (commands.take count)
    shutdown := if count < commands.length then some "" else socket.shutdown
  })

theorem deliverReleases_spec {s t : AppState} {agent conn token : Uuid} {commands : List Json}
    {safe : Bool} (hcmds : s.cmds agent = some conn)
    (h : s.deliverReleases agent conn token commands = (safe, t))
    : ∃ count,
      SameCore (s.released conn token commands count) t
        ∧ (safe = true → commands.length ≤ count) := by
  induction commands generalizing s with
  | nil =>
    simp only [deliverReleases, Prod.mk.injEq] at h
    refine ⟨0, ?_, by simp⟩
    rw [← h.2]
    have : s.released conn token [] 0 = s := by
      simp [released, releaseItems, modifySocket]
    rw [this]
    exact SameCore.refl s
  | cons command commands ih =>
    unfold deliverReleases at h
    split at h
    . next s' heq =>
      rcases trySend_true heq with ⟨c, hc, hsame⟩
      rw [hcmds] at hc
      simp only [Option.some.injEq] at hc
      subst hc
      have hcmds' : s'.cmds agent = some conn := by
        rw [hsame.cmds]
        exact hcmds
      rcases ih hcmds' h with ⟨count, hrest, hsafe⟩
      refine ⟨count + 1, ?_, by simpa using hsafe⟩
      have := (hsame.modifySocket conn _).trans hrest
      simpa [released, push, modifySocket_modifySocket, releaseItems, List.take_succ_cons] using this
    . next s' heq =>
      simp only [Prod.mk.injEq] at h
      refine ⟨0, ?_, by simp [← h.1]⟩
      rw [← h.2]
      have := (trySend_false heq).modifySocket conn
        (fun socket => { socket with shutdown := some "" })
      simpa [released, shutdown, releaseItems] using this

theorem settle_remove {s t : AppState} {agent : Uuid} {lease : Lease} {reason : TeardownReason}
    {safe : Bool} (hs : Coherent s) (hlease : s.sessions.lookup agent = some lease)
    (h : s.settle (s.sessions.remove agent reason) = (safe, t))
    : ∃ count,
      SameCore (s.endLease agent lease reason count) t
        ∧ (safe = true → lease.held.drain.length ≤ count) := by
  have hconn := hs.lease agent lease hlease
  have hcmds : s.cmds agent = some lease.grant.owner.agentConnectionId := by
    rw [hs.cmds, hconn]
  simp only [settle, ControlSessions.remove, hlease, Option.map_some, Option.toList_some,
    deliverControlCleanup, deliverBatch, ControlSessions.cleanup, Bool.and_true] at h
  rw [if_pos, Prod.mk.eta] at h
  . refine deliverReleases_spec ?_ h
    exact hcmds
  . exact hconn

theorem settle_remove_none {s : AppState} {agent : Uuid} (hlease : s.sessions.lookup agent = none)
    (reason : TeardownReason) : SameCore s (s.settle (s.sessions.remove agent reason)).2 := by
  simp only [settle, ControlSessions.remove, hlease, Option.map_none, Option.toList_none,
    deliverControlCleanup]
  constructor <;> try simp
  intro other
  rw [Table.lookup_erase_eq]
  split
  . next heq =>
    subst heq
    exact hlease.symm
  . rfl

/--
A change of tables that cleaning up neither looks at nor changes.
-/
structure Passive (m : AppState → AppState) : Prop where
  update : ∀ s sockets capture cleanups room,
    m { s with sockets, capture, cleanups, room } = { m s with sockets, capture, cleanups, room }
  connections : ∀ s, (m s).connections = s.connections
  cmds : ∀ s, (m s).cmds = s.cmds
  sockets : ∀ s, (m s).sockets = s.sockets
  capture : ∀ s, (m s).capture = s.capture
  cleanups : ∀ s, (m s).cleanups = s.cleanups
  room : ∀ s, (m s).room = s.room

theorem passive_sessions (sessions : ControlSessions) : Passive (fun s => { s with sessions }) := by
  constructor <;> intros <;> rfl

theorem passive_mjpegSessions (mjpegSessions : AList (fun _ : Uuid => MjpegSession))
    : Passive (fun s => { s with mjpegSessions }) := by
  constructor <;> intros <;> rfl

section Passive

variable {m : AppState → AppState} (hm : Passive m) (s : AppState)

include hm

theorem Passive.modifySocket (conn : Uuid) (f : Socket → Socket)
    : (m s).modifySocket conn f = m (s.modifySocket conn f) := by
  have := hm.update s (Function.update s.sockets conn (f (s.sockets conn))) s.capture s.cleanups
    s.room
  simp only [AppState.modifySocket, this, hm.sockets, hm.capture, hm.cleanups, hm.room]

theorem Passive.setRoom (room : List Bool) : (m s).setRoom room = m (s.setRoom room) := by
  have := hm.update s s.sockets s.capture s.cleanups room
  simp only [AppState.setRoom, this, hm.sockets, hm.capture, hm.cleanups]

theorem Passive.trySend (agent : Uuid) (item : Queued)
    : (m s).trySend agent item = ((s.trySend agent item).1, m (s.trySend agent item).2) := by
  simp only [AppState.trySend, hm.cmds, hm.room, hm.setRoom, push, hm.modifySocket]
  cases s.cmds agent with
  | none => rfl
  | some conn =>
    cases s.room with
    | nil => rfl
    | cons free room => cases free <;> rfl

theorem Passive.deliverReleases (agent conn token : Uuid) (commands : List Json)
    : (m s).deliverReleases agent conn token commands
        = ((s.deliverReleases agent conn token commands).1,
          m (s.deliverReleases agent conn token commands).2) := by
  induction commands generalizing s with
  | nil => rfl
  | cons command commands ih =>
    simp only [AppState.deliverReleases, hm.trySend]
    generalize s.trySend agent _ = res
    rcases res with ⟨room, t⟩
    cases room with
    | true => exact ih t
    | false => simp only [shutdown, hm.modifySocket]

theorem Passive.deliverBatch (batch : LeaseCleanup)
    : (m s).deliverBatch batch = ((s.deliverBatch batch).1, m (s.deliverBatch batch).2) := by
  have hunfreeze : (m s).unfreeze batch = m (s.unfreeze batch) := by
    have := hm.update s s.sockets (Function.update s.capture batch.agentId none)
      (s.cleanups ++ [batch]) s.room
    simp only [unfreeze, this, hm.sockets, hm.capture, hm.cleanups, hm.room]
  have hconn : (m s).connId? batch.agentId = s.connId? batch.agentId := by
    simp only [connId?, hm.connections]
  simp only [AppState.deliverBatch, hconn, hunfreeze, hm.deliverReleases]
  split <;> rfl

theorem Passive.deliverControlCleanup (batches : List LeaseCleanup)
    : (m s).deliverControlCleanup batches
        = ((s.deliverControlCleanup batches).1, m (s.deliverControlCleanup batches).2) := by
  induction batches generalizing s with
  | nil => rfl
  | cons batch batches ih =>
    simp only [AppState.deliverControlCleanup, hm.deliverBatch]
    rw [ih]

end Passive

theorem deliverControlCleanup_sessions (s : AppState) (sessions : ControlSessions)
    (batches : List LeaseCleanup)
    : { s with sessions }.deliverControlCleanup batches
        = ((s.deliverControlCleanup batches).1,
          { (s.deliverControlCleanup batches).2 with sessions }) :=
  (passive_sessions sessions).deliverControlCleanup s batches

theorem deliverControlCleanup_append (s : AppState) (xs ys : List LeaseCleanup)
    : (s.deliverControlCleanup (xs ++ ys)).2
        = ((s.deliverControlCleanup xs).2.deliverControlCleanup ys).2 := by
  induction xs generalizing s with
  | nil => rfl
  | cons x xs ih =>
    simp only [List.cons_append, deliverControlCleanup]
    exact ih _

theorem settle_append (s : AppState) (xs ys : List LeaseCleanup) (mid sessions : ControlSessions)
    : (s.settle (xs ++ ys, sessions)).2 = ((s.settle (xs, mid)).2.settle (ys, sessions)).2 := by
  simp only [settle, deliverControlCleanup_append, deliverControlCleanup_sessions]

end AppState

-- Any of the leases may be ended.
def Releasable (P : Uuid → Queued → Prop) (s : AppState) : Prop :=
  ∀ agent lease, s.sessions.lookup agent = some lease →
    ∀ item ∈ AppState.releaseItems lease.grant.owner.agentConnectionId lease.grant.token
      lease.held.drain, P lease.grant.owner.agentConnectionId item

namespace AppState

variable {P : Uuid → Queued → Prop}

theorem endLease_lookup {s t : AppState} {agent other : Uuid} {lease l : Lease}
    {reason : TeardownReason} {count : Nat} (h : SameCore (s.endLease agent lease reason count) t)
    (hl : t.sessions.lookup other = some l) : s.sessions.lookup other = some l := by
  rw [h.sessions] at hl
  simp only [endLease, Table.lookup_erase_eq] at hl
  split at hl
  . contradiction
  . exact hl

theorem acts_remove {s : AppState} (hs : Coherent s) (hP : Releasable P s) (agent : Uuid)
    (reason : TeardownReason)
    : Acts P s (s.settle (s.sessions.remove agent reason)).2
        ∧ Releasable P (s.settle (s.sessions.remove agent reason)).2 := by
  cases hlease : s.sessions.lookup agent with
  | none =>
    have hsame := settle_remove_none hlease reason
    refine ⟨Acts.same hsame, ?_⟩
    intro other l hl
    rw [hsame.sessions] at hl
    exact hP other l hl
  | some lease =>
    generalize hres : s.settle (s.sessions.remove agent reason) = res
    rcases res with ⟨safe, t⟩
    rcases settle_remove hs hlease hres with ⟨count, hsame, _⟩
    refine ⟨Acts.effect_same (.endLease reason count hlease (hP agent lease hlease)) hsame, ?_⟩
    intro other l hl
    exact hP other l (endLease_lookup hsame hl)

theorem settle_sessions (s : AppState) (change : List LeaseCleanup × ControlSessions)
    : (s.settle change).2.sessions = change.2 := by
  simp only [settle, deliverControlCleanup_sessions]

-- The leases are removed from the table first and cleaned up after then; one after the other is the
-- same.
theorem acts_removeAll {s : AppState} (hs : Coherent s) (hP : Releasable P s)
    (reason : TeardownReason) (agents : List Uuid)
    : Acts P s (s.settle (s.sessions.removeAll reason agents)).2
        ∧ Releasable P (s.settle (s.sessions.removeAll reason agents)).2 := by
  induction agents generalizing s with
  | nil => exact ⟨Acts.refl s, hP⟩
  | cons agent agents ih =>
    have hfirst := acts_remove hs hP agent reason
    have hrest := ih (hs.acts hfirst.1) hfirst.2
    have hsessions := s.settle_sessions (s.sessions.remove agent reason)
    have heq : (s.settle (s.sessions.removeAll reason (agent :: agents))).2
        = ((s.settle (s.sessions.remove agent reason)).2.settle
          ((s.settle (s.sessions.remove agent reason)).2.sessions.removeAll reason agents)).2 := by
      rw [hsessions]
      exact s.settle_append _ _ (s.sessions.remove agent reason).2 _
    rw [heq]
    exact ⟨hfirst.1.trans hrest.1, hrest.2⟩

theorem acts_revokeAgentControl {s : AppState} (hs : Coherent s) (hP : Releasable P s)
    (agent conn : Uuid)
    : Acts P s (s.revokeAgentControl agent conn)
        ∧ Releasable P (s.revokeAgentControl agent conn) := by
  unfold revokeAgentControl ControlSessions.revokeAgent
  split
  . exact acts_remove hs hP agent .agentDisconnected
  . exact ⟨Acts.refl s, hP⟩

theorem acts_expireControl {s : AppState} (hs : Coherent s) (hP : Releasable P s) (now : Nat)
    : Acts P s (s.expireControl now) ∧ Releasable P (s.expireControl now) :=
  acts_removeAll hs hP .expired _

theorem acts_revokeViewerControl {s : AppState} (hs : Coherent s) (hP : Releasable P s)
    (viewer : Uuid) : Acts P s (s.revokeViewerControl viewer) :=
  (acts_removeAll hs hP .viewerDisconnected _).1

theorem acts_expireAgent {s : AppState} (hs : Coherent s) (hP : Releasable P s) (agent : Uuid)
    (now : Nat)
    : Acts P s (s.settle (s.sessions.expireAgent agent now)).2
        ∧ Releasable P (s.settle (s.sessions.expireAgent agent now)).2 := by
  unfold ControlSessions.expireAgent
  split
  . exact acts_remove hs hP agent .expired
  . exact ⟨Acts.refl s, hP⟩

-- The tables that cleaning up leaves alone.
theorem deliverReleases_frame (s : AppState) (agent conn token : Uuid) (commands : List Json)
    : ∃ sockets room, (s.deliverReleases agent conn token commands).2 = { s with sockets, room } := by
  induction commands generalizing s with
  | nil => exact ⟨s.sockets, s.room, rfl⟩
  | cons command commands ih =>
    unfold deliverReleases trySend
    cases s.cmds agent with
    | none => exact ⟨_, _, rfl⟩
    | some channel =>
      cases s.room with
      | nil => exact ⟨_, _, rfl⟩
      | cons free room =>
        cases free with
        | false => exact ⟨_, _, rfl⟩
        | true =>
          rcases ih ((s.setRoom room).push channel _) with ⟨sockets, room', heq⟩
          exact ⟨sockets, room', heq⟩

theorem deliverControlCleanup_frame (s : AppState) (batches : List LeaseCleanup)
    : ∃ sockets capture cleanups room,
      (s.deliverControlCleanup batches).2 = { s with sockets, capture, cleanups, room } := by
  induction batches generalizing s with
  | nil => exact ⟨s.sockets, s.capture, s.cleanups, s.room, rfl⟩
  | cons batch batches ih =>
    have hbatch : ∃ sockets capture cleanups room,
        (s.deliverBatch batch).2 = { s with sockets, capture, cleanups, room } := by
      simp only [deliverBatch]
      split
      . rcases (s.unfreeze batch).deliverReleases_frame batch.agentId
          batch.owner.agentConnectionId batch.token batch.commands with ⟨sockets, room, heq⟩
        rw [heq]
        exact ⟨_, _, _, _, rfl⟩
      . exact ⟨_, _, _, _, rfl⟩
    rcases hbatch with ⟨_, _, _, _, hbatch⟩
    simp only [deliverControlCleanup, hbatch]
    rcases ih { s with sockets := _, capture := _, cleanups := _, room := _ } with
      ⟨_, _, _, _, heq⟩
    rw [heq]
    exact ⟨_, _, _, _, rfl⟩

theorem settle_frame (s : AppState) (change : List LeaseCleanup × ControlSessions)
    : ∃ sockets capture cleanups room,
      (s.settle change).2 = { s with sessions := change.2, sockets, capture, cleanups, room } := by
  rcases { s with sessions := change.2 }.deliverControlCleanup_frame change.1 with
    ⟨sockets, capture, cleanups, room, heq⟩
  exact ⟨sockets, capture, cleanups, room, heq⟩

theorem settle_minted (s : AppState) (change : List LeaseCleanup × ControlSessions)
    : (s.settle change).2.minted = s.minted := by
  rcases s.settle_frame change with ⟨_, _, _, _, heq⟩
  rw [heq]

theorem settle_mjpegSessions (s : AppState) (change : List LeaseCleanup × ControlSessions)
    : (s.settle change).2.mjpegSessions = s.mjpegSessions := by
  rcases s.settle_frame change with ⟨_, _, _, _, heq⟩
  rw [heq]

theorem settle_connId? (s : AppState) (change : List LeaseCleanup × ControlSessions) (agent : Uuid)
    : (s.settle change).2.connId? agent = s.connId? agent := by
  rcases s.settle_frame change with ⟨_, _, _, _, heq⟩
  rw [heq]
  rfl

end AppState

end Vantyr
