import Vantyr.Server.Clipboard
import Vantyr.Server.Grants

/-!
This module contains the life of an agent's socket: its registration and removal in
`server/src/agent_ws/connection.rs`, the invalidation in `agents/lifecycle.rs`, and the delivery of
the entries of its queue, each of which is checked again before it is written.
-/

namespace Vantyr

def maxCachedFrames : Nat := 16

namespace AppState

-- Unless the history of the device is known to be empty it is taken for a modern agent.
def registerConnection (s : AppState) (agent : Uuid) (historyKnown : Bool) (fresh : Uuid)
    : AppState :=
  let old := s.connId? agent
  let s :=
    match old with
    | some old => (s.revokeAgentControl agent old).clearCaptureConnection agent old
    | none => s
  let legacyPolicyDelivery := historyKnown && (s.moduleReports agent).isNone
  let s := {
    s with
    connections := Function.update s.connections agent
      (some { connId := fresh, legacyPolicyDelivery })
    modules := Function.update s.modules agent none
    cmds := Function.update s.cmds agent (some fresh)
    sockets := Function.update s.sockets fresh (Socket.new agent)
    minted := fresh :: s.minted
  }
  match old with
  | some old => s.shutdown old ""
  | none => s

def unregister (s : AppState) (agent : Uuid) : AppState :=
  {
    s with
    connections := Function.update s.connections agent none
    cmds := Function.update s.cmds agent none
    modules := Function.update s.modules agent none
    frames := s.frames.erase agent
  }

def cleanupConnection (s : AppState) (agent conn : Uuid) : AppState :=
  let s := (s.revokeAgentControl agent conn).clearCaptureConnection agent conn
  if s.connId? agent = some conn then s.unregister agent else s

def invalidateAgentConnection (s : AppState) (agent : Uuid) (reason : String) : AppState :=
  match s.connId? agent with
  | some conn =>
    let s := (s.revokeAgentControl agent conn).clearCaptureConnection agent conn
    (s.unregister agent).shutdown conn reason
  | none => s.unregister agent

def captureDeliverable (s : AppState) (agent conn : Uuid) (cmd : Json) : Bool :=
  let tag := cmd.get? "__capture_generation"
  let active := s.activeCapture agent
  if cmd.kind = "start_capture" then
    tag.isSome
      && tag = (active.filter (fun active => active.connId = conn)).map
        (fun active => .string active.generation.text)
  else if cmd.kind = "stop_capture" then
    tag.isSome && active.isNone && tag = some (.string "stopped")
  else
    tag.isNone

def generationDeliverable (s : AppState) (agent : Uuid) (cmd : Json) : Bool :=
  let untagged := (cmd.eraseField "__capture_generation").eraseField "__module_generation"
  match s.authorizeAgentCommand agent untagged with
  | .ok expected => cmd.get? "__module_generation" = expected.get? "__module_generation"
  | .error _ => false

def commandDeliverable (s : AppState) (agent conn : Uuid) (cmd : Json) (now : Nat)
    : Bool × AppState :=
  let (valid, s) :=
    if cmd.kind = "ClipboardRead" ∨ cmd.kind = "ClipboardWrite" then
      s.clipboardDeliverable agent conn cmd now
    else
      (true, s)
  (valid
    && s.openConn? agent = some conn
    && s.captureDeliverable agent conn cmd
    && s.generationDeliverable agent cmd, s)

def controlCleanupDeliverable (s : AppState) (agent socket cleanupSocket : Uuid) (command : Json)
    : Bool :=
  socket = cleanupSocket ∧ s.openConn? agent = some socket ∧ isCleanupCommand command

def take (s : AppState) (conn : Uuid) : AppState :=
  s.modifySocket conn (fun socket => { socket with taken := socket.taken + 1 })

def write (s : AppState) (conn : Uuid) (position : Nat) (command : Json) : AppState :=
  s.modifySocket conn
    (fun socket => { socket with written := socket.written ++ [(position, command)] })

-- A write that fails ends the socket, which is then cleaned up like any other.
def deliver (s : AppState) (conn : Uuid) (now : Nat) : AppState :=
  let socket := s.sockets conn
  match socket.sent[socket.taken]? with
  | none => s
  | some item =>
    match item.control with
    | .text cmd =>
      match (s.take conn).commandDeliverable socket.agent conn cmd now with
      | (true, s) => s.write conn socket.taken cmd
      | (false, s) => s
    | .inputCleanup cleanupSocket command =>
      if s.controlCleanupDeliverable socket.agent conn cleanupSocket command then
        (s.take conn).write conn socket.taken command
      else
        s.take conn

def moduleAuthorized (s : AppState) (agent : Uuid) (m : Module) : Bool :=
  match s.connId? agent, s.modules agent with
  | some conn, some runtime =>
    conn = runtime.connId ∧ (runtime.report.get m).granted ∧ !runtime.disablePending m
  | _, _ => false

def storeFrame (s : AppState) (agent : Uuid) (geometry : Option Geometry) (now : Nat) : AppState :=
  let oldest := s.frames.entries.foldl
    (fun (oldest : Option (Uuid × Nat)) entry =>
      if oldest.any (fun oldest => oldest.2 ≤ entry.2.lastUpdate) then
        oldest
      else
        some (entry.1, entry.2.lastUpdate))
    none
  let evict := (s.frames.lookup agent).isNone ∧ maxCachedFrames ≤ s.frames.entries.length
  let frames :=
    match oldest with
    | some oldest => if evict then s.frames.erase oldest.1 else s.frames
    | none => s.frames
  { s with frames := frames.insert agent { geometry, lastUpdate := now } }

def ingestFrame (s : AppState) (agent conn : Uuid) (geometry : Option Geometry) (now : Nat)
    : AppState :=
  if s.connId? agent = some conn ∧ s.moduleAuthorized agent .liveScreen then
    s.storeFrame agent geometry now
  else
    s

end AppState

end Vantyr
