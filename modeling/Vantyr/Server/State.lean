import Vantyr.Data.Table
import Vantyr.Server.ModuleReport
import Vantyr.Server.Sessions

/-!
This module contains the state of the server that is concerned with the agents' sockets: the registry
of connections with their command queues and grants, the control runtime, the live media tables and
the tables of module reports and disable requests in the database.
-/

namespace Vantyr

structure CommandDenied where
  code : String
  error : String
  module : Option Module
  deriving DecidableEq, Repr

-- Texts are represented by the JSON value they are printed from.
inductive AgentControl where
  | text (command : Json)
  | inputCleanup (connId : Uuid) (command : Json)
  deriving DecidableEq, Repr

-- Which lease an entry of a queue was placed for, recorded for the sake of the proofs only.
inductive Origin where
  | input (token : Uuid)
  | release (token : Uuid)
  | command
  deriving DecidableEq, Repr

structure Queued where
  control : AgentControl
  origin : Origin
  deriving DecidableEq, Repr

/--
A WebSocket of an agent together with the receiving end of its command queue. The queue is kept as
the history of what was `sent` into it and the number of entries that were `taken` out of it so far;
`written` are the texts that went out on the wire, each with the position of its entry.
-/
structure Socket where
  agent : Uuid
  sent : List Queued
  taken : Nat
  written : List (Nat × Json)
  shutdown : Option String
  deriving DecidableEq, Repr

namespace Socket

def new (agent : Uuid) : Socket :=
  { agent, sent := [], taken := 0, written := [], shutdown := none }

def queue (socket : Socket) : List Queued :=
  socket.sent.drop socket.taken

end Socket

structure AgentConn where
  connId : Uuid
  legacyPolicyDelivery : Bool
  deriving DecidableEq, Repr

inductive RequestStatus where
  | queued
  | sent
  | disabled
  | duplicate
  | stale
  | conflict
  | error
  deriving DecidableEq, Repr

structure ModuleDisableRequest where
  commandId : Uuid
  agentId : Uuid
  module : Module
  expectedRevision : Nat
  status : RequestStatus
  error : Option String
  persisted : Bool
  stopStatus : String
  deriving DecidableEq, Repr

def ModuleDisableRequest.pending (request : ModuleDisableRequest) : Bool :=
  request.status = .queued ∨ request.status = .sent

structure RuntimeModules where
  connId : Uuid
  report : ModuleReport
  pending : AList (fun _ : Uuid => ModuleDisableRequest)
  sent : List Uuid
  lastSent : Uuid → Option Nat

def RuntimeModules.disablePending (runtime : RuntimeModules) (m : Module) : Bool :=
  (Table.values runtime.pending).any (fun request => request.module = m)

structure MjpegViewerPrefs where
  jpegQuality : Nat
  intervalMs : Nat
  monitor : Option Nat
  deriving DecidableEq, Repr

structure MjpegSession where
  requestedMonitor : Option Nat
  agentId : Uuid
  userId : Uuid
  connId : Uuid
  prefs : MjpegViewerPrefs
  deriving DecidableEq, Repr

-- The capture ids of a connection that are no longer current, the latest one first.
abbrev RetiredCaptures := List Uuid

structure ActiveCapture where
  wireMonitor : Option Nat
  generation : Uuid
  retiredCaptureIds : RetiredCaptures
  connId : Uuid
  prefs : MjpegViewerPrefs
  deriving DecidableEq, Repr

structure FrozenCapture where
  owner : LeaseOwner
  sessionId : Uuid
  active : ActiveCapture
  deriving DecidableEq, Repr

-- The checks `frame_geometry` makes on the geometry in the header of a frame.
def geometryChecked (g : Json) : Bool :=
  let inRange (value : Json) := value.asU64.any (fun n => 1 ≤ n ∧ n ≤ 65535)
  let desktop := g.field "desktop"
  let fits (origin size : String) :=
    (desktop.field origin).asI32.any (fun n =>
      (desktop.field size).asU64.any (fun m => n + (m : Int) - 1 ≤ 2 ^ 31 - 1))
  ((g.field "capture_id").asStr.bind Uuid.parse).isSome
    && (g.field "geometry_revision").asU64.any (fun n => n ≠ 0)
    && inRange (g.field "frame_width")
    && inRange (g.field "frame_height")
    && inRange (desktop.field "physical_width")
    && inRange (desktop.field "physical_height")
    && fits "x" "physical_width"
    && fits "y" "physical_height"
    && (g.field "monitor_index").asU64.any (fun n => n < 64)

structure Geometry where
  value : Json
  checked : geometryChecked value = true
  deriving DecidableEq

namespace Geometry

theorem captureId_isSome (g : Geometry)
    : ((g.value.field "capture_id").asStr.bind Uuid.parse).isSome := by
  have := g.checked
  simp only [geometryChecked, Bool.and_eq_true] at this
  exact this.1.1.1.1.1.1.1.1

def captureId (g : Geometry) : Uuid :=
  ((g.value.field "capture_id").asStr.bind Uuid.parse).get g.captureId_isSome

theorem monitorIndex_isSome (g : Geometry) : (g.value.field "monitor_index").asU64.isSome := by
  have := g.checked
  simp only [geometryChecked, Bool.and_eq_true] at this
  cases h : (g.value.field "monitor_index").asU64 with
  | none => simp [h] at this
  | some n => rfl

def monitorIndex (g : Geometry) : Nat :=
  (g.value.field "monitor_index").asU64.get g.monitorIndex_isSome

end Geometry

-- A JPEG is represented by the geometry that can be read from its header.
structure Frame where
  geometry : Option Geometry
  lastUpdate : Nat
  deriving DecidableEq

structure PendingClipboard where
  agent : Uuid
  owner : LeaseOwner
  token : Uuid
  deadline : Nat
  fence : Json
  sender : Bool
  reply : Option Json
  deriving DecidableEq, Repr

-- A lease that was granted while `start` entries had been placed in the queue of its connection.
structure GrantRecord where
  token : Uuid
  connId : Uuid
  start : Nat
  deriving DecidableEq, Repr

/--
The fields up to `moduleReports` are the state of the server, where `cmds` maps an agent to the
connection whose queue its sender feeds. A command that was authorized but is not yet enqueued is
`inflight`. Whether a queue has `room` for the next entry is read off a tape the environment provides,
since its consumer runs on its own. The remaining fields record the history for the proofs: the ids
that were generated, the leases that were granted and what was left to clean up after them.
-/
structure AppState where
  connections : Uuid → Option AgentConn
  cmds : Uuid → Option Uuid
  modules : Uuid → Option RuntimeModules
  sockets : Uuid → Socket
  sessions : ControlSessions
  clipboard : AList (fun _ : Uuid => PendingClipboard)
  capture : Uuid → Option FrozenCapture
  frames : AList (fun _ : Uuid => Frame)
  retiredCaptures : Uuid → Option (Uuid × RetiredCaptures)
  captureViewers : Uuid → Option Nat
  mjpegSessions : AList (fun _ : Uuid => MjpegSession)
  activeCapture : Uuid → Option ActiveCapture
  disableRequests : AList (fun _ : Uuid => ModuleDisableRequest)
  moduleReports : Uuid → Option ModuleReport
  inflight : List (Uuid × Uuid × Json)
  room : List Bool
  minted : List Uuid
  grants : List GrantRecord
  cleanups : List LeaseCleanup

namespace AppState

def init : AppState where
  connections := fun _ => none
  cmds := fun _ => none
  modules := fun _ => none
  sockets := fun _ => Socket.new Uuid.nil
  sessions := ∅
  clipboard := ∅
  capture := fun _ => none
  frames := ∅
  retiredCaptures := fun _ => none
  captureViewers := fun _ => none
  mjpegSessions := ∅
  activeCapture := fun _ => none
  disableRequests := ∅
  moduleReports := fun _ => none
  inflight := []
  room := []
  minted := []
  grants := []
  cleanups := []

def connId? (s : AppState) (agent : Uuid) : Option Uuid :=
  (s.connections agent).map AgentConn.connId

def closing (s : AppState) (conn : Uuid) : Bool :=
  (s.sockets conn).shutdown.isSome

-- The connection of an agent that is registered and not about to be closed.
def openConn? (s : AppState) (agent : Uuid) : Option Uuid :=
  (s.connId? agent).filter (fun conn => !s.closing conn)

def modifySocket (s : AppState) (conn : Uuid) (f : Socket → Socket) : AppState :=
  { s with sockets := Function.update s.sockets conn (f (s.sockets conn)) }

def shutdown (s : AppState) (conn : Uuid) (reason : String) : AppState :=
  s.modifySocket conn (fun socket => { socket with shutdown := some reason })

def push (s : AppState) (conn : Uuid) (item : Queued) : AppState :=
  s.modifySocket conn (fun socket => { socket with sent := socket.sent ++ [item] })

def setRoom (s : AppState) (room : List Bool) : AppState :=
  { s with room }

def trySend (s : AppState) (agent : Uuid) (item : Queued) : Bool × AppState :=
  match s.cmds agent, s.room with
  | some conn, true :: room => (true, (s.setRoom room).push conn item)
  | _, _ => (false, s.setRoom s.room.tail)

def moduleRuntime (s : AppState) (agent conn : Uuid) : Option RuntimeModules :=
  (s.modules agent).filter (fun runtime => runtime.connId = conn)

end AppState

def generationStamp (m : Module) (revision : Nat) : Json :=
  .object [("module", m.toJson), ("revision", .ofNat revision)]

namespace AppState

def authorizeDisable (runtime : Option RuntimeModules) (cmd : Json) : Except CommandDenied Json :=
  match runtime with
  | none => .error {
      code := "module_report_required"
      error := "Update the agent and authorize modules on the device; a current report is required."
      module := none
    }
  | some runtime =>
    match ((cmd.field "command_id").asStr.bind Uuid.parse).bind runtime.pending.lookup with
    | none => .error {
        code := "invalid_disable_request"
        error := "Disable commands must come from a persisted request."
        module := none
      }
    | some request =>
      if cmd.field "module" ≠ request.module.toJson
          ∨ (cmd.field "expected_revision").asU64 ≠ some request.expectedRevision then
        .error {
          code := "invalid_disable_request"
          error := "Disable request binding differs from its persisted command."
          module := none
        }
      else
        .ok cmd

def authorizeModule (connection : AgentConn) (runtime : Option RuntimeModules) (m : Module)
    (cmd : Json) : Except CommandDenied Json :=
  match runtime with
  | none =>
    if connection.legacyPolicyDelivery ∧ (m = .appPolicy ∨ m = .networkPolicy) then
      .ok cmd
    else
      .error {
        code := "module_report_required"
        error := "Update the agent and authorize this module on the device; no current module report is available."
        module := some m
      }
  | some runtime =>
    if !(runtime.report.get m).granted then
      .error {
        code := "module_not_authorized"
        error := "This module is off on the device. Turn it on in the Vantyr app there (Settings → Modules)."
        module := some m
      }
    else if runtime.disablePending m then
      .error {
        code := "module_disable_pending"
        error := "A persisted disable request is awaiting acknowledgment; commands are blocked."
        module := some m
      }
    else
      .ok (cmd.setField "__module_generation" (generationStamp m (runtime.report.get m).revision))

def authorizeAgentCommand (s : AppState) (agent : Uuid) (cmd : Json) : Except CommandDenied Json :=
  match s.connections agent with
  | none => .error { code := "agent_offline", error := "Agent is not connected.", module := none }
  | some connection =>
    if (cmd.get? "__module_generation").isSome ∨ (cmd.get? "__capture_generation").isSome then
      .error {
        code := "invalid_command"
        error := "Server-owned generation field is not accepted from callers."
        module := none
      }
    else
      let runtime := s.moduleRuntime agent connection.connId
      match cmd.gate with
      | .protocol => .ok cmd
      | .disableModule => authorizeDisable runtime cmd
      | .denied => .error {
          code := "unsupported_command"
          error := "This command is not supported. Configure device-owned settings on the device."
          module := none
        }
      | .module m => authorizeModule connection runtime m cmd

def enqueueAuthorizedCommand (s : AppState) (agent conn : Uuid) (command : Json) (origin : Origin)
    : Except CommandDenied Unit × AppState :=
  if s.openConn? agent ≠ some conn then
    (.error {
      code := "agent_offline", error := "Connection changed or is closing.", module := none
    }, s)
  else if s.cmds agent = none then
    (.error { code := "agent_offline", error := "Agent is not connected.", module := none }, s)
  else
    match s.trySend agent { control := .text command, origin } with
    | (true, s) => (.ok (), s)
    | (false, s) =>
      (.error {
        code := "command_queue_full"
        error := "Agent command queue is full; retry shortly."
        module := none
      }, s)

-- The releases a lease leaves behind, up to the first one the queue has no room for.
def deliverReleases (s : AppState) (agent conn token : Uuid) : List Json → Bool × AppState
  | [] => (true, s)
  | command :: commands =>
    match s.trySend agent { control := .inputCleanup conn command, origin := .release token } with
    | (true, s) => deliverReleases s agent conn token commands
    | (false, s) => (false, s.shutdown conn "")

-- The freeze of the capture ends with the lease; the cleanup is recorded for the proofs.
def unfreeze (s : AppState) (batch : LeaseCleanup) : AppState :=
  {
    s with
    capture := Function.update s.capture batch.agentId none
    cleanups := s.cleanups ++ [batch]
  }

def deliverBatch (s : AppState) (batch : LeaseCleanup) : Bool × AppState :=
  let conn := batch.owner.agentConnectionId
  if s.connId? batch.agentId = some conn then
    (s.unfreeze batch).deliverReleases batch.agentId conn batch.token batch.commands
  else
    (true, s.unfreeze batch)

def deliverControlCleanup (s : AppState) : List LeaseCleanup → Bool × AppState
  | [] => (true, s)
  | batch :: batches =>
    let (safe, s) := s.deliverBatch batch
    let (rest, s) := s.deliverControlCleanup batches
    (safe && rest, s)

-- What every caller does with a change of the lease table: it is stored, then cleaned up after.
def settle (s : AppState) (change : List LeaseCleanup × ControlSessions) : Bool × AppState :=
  { s with sessions := change.2 }.deliverControlCleanup change.1

def revokeAgentControl (s : AppState) (agent conn : Uuid) : AppState :=
  (s.settle (s.sessions.revokeAgent agent conn)).2

def revokeViewerControl (s : AppState) (viewer : Uuid) : AppState :=
  (s.settle (s.sessions.revokeViewer viewer)).2

def expireControl (s : AppState) (now : Nat) : AppState :=
  (s.settle (s.sessions.expire now)).2

end AppState

end Vantyr
