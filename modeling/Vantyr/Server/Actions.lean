import Vantyr.Server.System

/-!
This module breaks the entry points of the server down into actions: the smallest changes of the state
between which its tables agree with each other. An invariant of the server is established once for
every action instead of once for every branch of every entry point.
-/

namespace Vantyr

namespace AppState

def releaseItems (conn token : Uuid) (commands : List Json) : List Queued :=
  commands.map (fun command => { control := .inputCleanup conn command, origin := .release token })

def setLease (s : AppState) (agent : Uuid) (lease : Lease) : AppState :=
  { s with sessions := s.sessions.insert agent lease }

-- The lease is gone, and with it the freeze of the capture; `count` of its releases found room.
def endLease (s : AppState) (agent : Uuid) (lease : Lease) (reason : TeardownReason) (count : Nat)
    : AppState :=
  let conn := lease.grant.owner.agentConnectionId
  let commands := lease.held.drain
  let socket := s.sockets conn
  {
    s with
    sessions := s.sessions.erase agent
    capture := Function.update s.capture agent none
    cleanups := s.cleanups ++ [ControlSessions.cleanup agent reason lease]
    sockets := Function.update s.sockets conn {
      socket with
      sent := socket.sent ++ releaseItems conn lease.grant.token (commands.take count)
      shutdown := if count < commands.length then some "" else socket.shutdown
    }
  }

def grantLease (s : AppState) (agent : Uuid) (lease : Lease) (frozen : FrozenCapture) : AppState :=
  let s := s.commitControlCapture agent frozen
  let conn := lease.grant.owner.agentConnectionId
  {
    s with
    sessions := s.sessions.insert agent lease
    capture := Function.update s.capture agent (some frozen)
    minted := lease.grant.token :: s.minted
    grants := s.grants ++ [
      { token := lease.grant.token, connId := conn, start := (s.sockets conn).sent.length }
    ]
  }

def startItem (active : ActiveCapture) (command : Json) : Queued :=
  {
    control := .text
      (command.setField "__capture_generation" (.string active.generation.text))
    origin := .command
  }

def stopItem (command : Json) : Queued :=
  {
    control := .text (command.setField "__capture_generation" (.string "stopped"))
    origin := .command
  }

def startActive (s : AppState) (agent : Uuid) (active : ActiveCapture) (command : Json)
    : AppState :=
  ({ s with minted := active.generation :: s.minted }.push active.connId
    (startItem active command)).setActive agent (some active)

def publish (s : AppState) (agent : Uuid) (runtime : RuntimeModules) : AppState :=
  {
    s with
    modules := Function.update s.modules agent (some runtime)
    activeCapture :=
      if s.revisionChanged agent .liveScreen runtime.report then
        (s.nilGeneration agent).activeCapture
      else
        s.activeCapture
  }

end AppState

/--
The entries and tables that matter to the invariants are the same, up to the order of hash maps.
Commands in flight may have been given up, ids may have been generated.
-/
structure SameCore (s t : AppState) : Prop where
  connections : t.connections = s.connections
  cmds : t.cmds = s.cmds
  modules : t.modules = s.modules
  sockets : t.sockets = s.sockets
  sessions : ∀ agent, t.sessions.lookup agent = s.sessions.lookup agent
  capture : t.capture = s.capture
  mjpegSessions : ∀ session, t.mjpegSessions.lookup session = s.mjpegSessions.lookup session
  activeCapture : t.activeCapture = s.activeCapture
  inflight : t.inflight ⊆ s.inflight
  minted : s.minted ⊆ t.minted
  grants : t.grants = s.grants
  cleanups : t.cleanups = s.cleanups

-- A command that the current report of the agent authorizes, or one that needs no grant.
def Stamped (s : AppState) (agent : Uuid) (command : Json) : Prop :=
  command.get? "__module_generation" = none
    ∨ ∃ m runtime,
      s.modules agent = some runtime
        ∧ (runtime.report.get m).granted = true
        ∧ command.get? "__module_generation"
          = some (generationStamp m (runtime.report.get m).revision)

def Json.isCapture (command : Json) : Bool :=
  command.kind = "start_capture" ∨ command.kind = "stop_capture"

-- Neither input nor capture selection, which have entry points of their own.
def Ordinary (command : Json) : Prop :=
  isRemoteInput command.kind = false ∧ command.isCapture = false

-- What may be sent without a lease.
structure Plain (command : Json) : Prop where
  ordinary : Ordinary command
  notRead : command.kind ≠ "ClipboardRead"
  notWrite : command.kind ≠ "ClipboardWrite"

structure Freezable (s : AppState) (agent : Uuid) (owner : LeaseOwner) (frozen : FrozenCapture)
    : Prop where
  owned : frozen.owner = owner
  session : ∃ mapped,
    s.mjpegSessions.lookup frozen.sessionId = some mapped
      ∧ mapped.agentId = agent
      ∧ mapped.userId = owner.userId
      ∧ mapped.connId = owner.agentConnectionId
  conn : frozen.active.connId = owner.agentConnectionId
  pinned : frozen.active.prefs.monitor ≠ none
  active : ∃ active,
    s.activeCapture agent = some active
      ∧ { active.prefs with monitor := frozen.active.prefs.monitor } = frozen.active.prefs
      ∧ (active.prefs.monitor = none ∨ active.prefs.monitor = frozen.active.prefs.monitor)

/--
The actions. `P` says what may be placed in which queue.
-/
inductive Effect (P : Uuid → Queued → Prop) : AppState → AppState → Prop where
  | endLease {s : AppState} {agent : Uuid} {lease : Lease} (reason : TeardownReason) (count : Nat)
      (hlease : s.sessions.lookup agent = some lease)
      (hP : ∀ item ∈ AppState.releaseItems lease.grant.owner.agentConnectionId lease.grant.token
        lease.held.drain, P lease.grant.owner.agentConnectionId item)
      : Effect P s (s.endLease agent lease reason count)
  | input {s : AppState} {agent : Uuid} {lease : Lease} {cmd authorized : Json} {held : HeldInput}
      (hlease : s.sessions.lookup agent = some lease)
      (hopen : s.openConn? agent = some lease.grant.owner.agentConnectionId)
      (hkind : isRemoteInput cmd.kind = true)
      (hauth : s.authorizeAgentCommand agent cmd = .ok authorized)
      (htrack : lease.held.track cmd = .ok held)
      (hP : P lease.grant.owner.agentConnectionId
        { control := .text authorized, origin := .input lease.grant.token })
      : Effect P s ((s.setLease agent { lease with held }).push
          lease.grant.owner.agentConnectionId
          { control := .text authorized, origin := .input lease.grant.token })
  | lost {s : AppState} {agent : Uuid} {lease : Lease} (held : HeldInput)
      (hlease : s.sessions.lookup agent = some lease)
      : Effect P s ((s.setLease agent { lease with held }).shutdown
          lease.grant.owner.agentConnectionId "")
  | grant {s : AppState} {agent : Uuid} {lease : Lease} {frozen : FrozenCapture}
      (hlease : s.sessions.lookup agent = none)
      (hopen : s.openConn? agent = some lease.grant.owner.agentConnectionId)
      (hheld : lease.held = HeldInput.default)
      (hfresh : lease.grant.token ∉ s.minted)
      (hfrozen : Freezable s agent lease.grant.owner frozen)
      : Effect P s (s.grantLease agent lease frozen)
  | renew {s : AppState} {agent : Uuid} {lease : Lease} (expiresAt : Nat)
      (hlease : s.sessions.lookup agent = some lease)
      : Effect P s (s.setLease agent { lease with grant := { lease.grant with expiresAt } })
  | push {s : AppState} {agent conn : Uuid} {command : Json}
      (hopen : s.openConn? agent = some conn)
      (hordinary : Ordinary command)
      (hstamp : Stamped s agent command ∨ (agent, conn, command) ∈ s.inflight)
      (hP : P conn { control := .text command, origin := .command })
      : Effect P s (s.push conn { control := .text command, origin := .command })
  | close {s : AppState} {agent conn : Uuid} (hconn : s.connId? agent = some conn)
      : Effect P s (s.shutdown conn "")
  | start {s : AppState} {agent : Uuid} {active : ActiveCapture} {command : Json}
      (hopen : s.openConn? agent = some active.connId)
      (hauth : s.authorizeAgentCommand agent
        (startCapture active.wireMonitor active.prefs.jpegQuality active.prefs.intervalMs)
          = .ok command)
      (hnil : active.generation ≠ Uuid.nil)
      (hfresh : active.generation ∉ s.minted)
      (hfrozen : ∀ frozen, s.capture agent = some frozen →
        frozen.active.connId = active.connId → active.prefs = frozen.active.prefs)
      (hP : P active.connId (AppState.startItem active command))
      : Effect P s (s.startActive agent active command)
  | stop {s : AppState} {agent conn : Uuid} {command : Json}
      (hopen : s.openConn? agent = some conn)
      (hauth : s.authorizeAgentCommand agent stopCapture = .ok command)
      (hP : P conn (AppState.stopItem command))
      : Effect P s ((s.push conn (AppState.stopItem command)).setActive agent none)
  | dropActive {s : AppState} {agent : Uuid}
      (h : ∀ active, s.activeCapture agent = some active → s.closing active.connId = true)
      : Effect P s (s.setActive agent none)
  | openSession {s : AppState} {session : Uuid} {mapped : MjpegSession}
      (hsession : s.mjpegSessions.lookup session = none)
      (hconn : s.connId? mapped.agentId = some mapped.connId)
      : Effect P s { s with mjpegSessions := s.mjpegSessions.insert session mapped }
  | dropSession {s : AppState} {session : Uuid}
      (h : ∀ agent frozen, s.capture agent = some frozen → frozen.sessionId ≠ session)
      : Effect P s { s with mjpegSessions := s.mjpegSessions.erase session }
  | publish {s : AppState} {agent : Uuid} {runtime : RuntimeModules}
      (hconn : s.connId? agent = some runtime.connId)
      (hfollows : ∀ old, s.modules agent = some old →
        runtime.report = old.report ∨ runtime.report.follows old.report = true)
      : Effect P s (s.publish agent runtime)
  | register {s : AppState} {agent fresh : Uuid} (historyKnown : Bool)
      (hlease : s.sessions.lookup agent = none)
      (hfresh : fresh ∉ s.minted)
      : Effect P s (s.registerConnection agent historyKnown fresh)
  | unregister {s : AppState} {agent conn : Uuid} (reason : Option String)
      (hconn : s.connId? agent = some conn)
      (hlease : s.sessions.lookup agent = none)
      : Effect P s (reason.elim ((s.clearCaptureConnection agent conn).unregister agent)
          (((s.clearCaptureConnection agent conn).unregister agent).shutdown conn))
  | launch {s : AppState} {agent conn : Uuid} {command : Json}
      (hconn : s.connId? agent = some conn)
      (hplain : Plain command)
      (hstamp : Stamped s agent command)
      : Effect P s { s with inflight := (agent, conn, command) :: s.inflight }

inductive Micro (P : Uuid → Queued → Prop) (s t : AppState) : Prop where
  | same (h : SameCore s t)
  | effect (h : Effect P s t)

def Acts (P : Uuid → Queued → Prop) : AppState → AppState → Prop :=
  Relation.ReflTransGen (Micro P)

/--
How the tables of the server belong together. The first part is about the registry, the second about
the capture a lease freezes.
-/
structure Coherent (s : AppState) : Prop where
  cmds : ∀ agent, s.cmds agent = s.connId? agent
  modules : ∀ agent runtime, s.modules agent = some runtime → s.connId? agent = some runtime.connId
  agent : ∀ agent conn, s.connId? agent = some conn → (s.sockets conn).agent = agent
  minted : ∀ agent conn, s.connId? agent = some conn → conn ∈ s.minted
  lease : ∀ agent lease, s.sessions.lookup agent = some lease →
    s.connId? agent = some lease.grant.owner.agentConnectionId
  token : ∀ agent lease, s.sessions.lookup agent = some lease → lease.grant.token ∈ s.minted
  session : ∀ session mapped, s.mjpegSessions.lookup session = some mapped →
    s.connId? mapped.agentId = some mapped.connId
  active : ∀ agent active, s.activeCapture agent = some active →
    s.connId? agent = some active.connId
  unfrozen : ∀ agent, s.sessions.lookup agent = none → s.capture agent = none
  pinned : ∀ agent frozen, s.capture agent = some frozen → frozen.active.prefs.monitor ≠ none
  frozen : ∀ agent lease, s.sessions.lookup agent = some lease →
    ∃ frozen, s.capture agent = some frozen
      ∧ frozen.owner = lease.grant.owner
      ∧ frozen.active.connId = lease.grant.owner.agentConnectionId
      ∧ (∃ mapped, s.mjpegSessions.lookup frozen.sessionId = some mapped
        ∧ mapped.agentId = agent
        ∧ mapped.userId = lease.grant.owner.userId
        ∧ mapped.connId = lease.grant.owner.agentConnectionId)
      ∧ (∀ active, s.activeCapture agent = some active → active.prefs = frozen.active.prefs)
  inflight : ∀ entry ∈ s.inflight, Plain entry.2.2

end Vantyr
