import Vantyr.Server.Capture

/-!
This module contains the integration of the leases with the agents' queues,
`server/src/control/runtime.rs`: acquiring, renewing and releasing control, and the input of a viewer
that holds it. The identities of viewer and user come from the authenticated connection, never from
the message.
-/

namespace Vantyr

structure AuthUser where
  userId : Uuid
  isOperator : Bool
  deriving DecidableEq, Repr

def isRemoteInput (kind : String) : Bool :=
  [ "MouseMove", "MouseClick", "MouseDoubleClick", "MouseDown", "MouseUp", "MouseScroll", "Scroll",
    "KeyPress", "KeyDown", "KeyUp", "KeyChar", "TypeText", "Notify" ].contains kind

def remoteInputDenied (code error : String) : CommandDenied :=
  { code, error, module := some .remoteInput }

def leaseError : LeaseError → CommandDenied
  | .conflict _ => remoteInputDenied "control_conflict" "Another viewer owns remote control."
  | .missing =>
    remoteInputDenied "control_lease_required" "Acquire remote control before sending input."
  | .expired =>
    remoteInputDenied "control_lease_expired" "Remote control expired; acquire it again."
  | .mismatch =>
    remoteInputDenied "control_lease_mismatch"
      "Lease does not match this viewer or device connection."
  | .invalidHeldInput => remoteInputDenied "invalid_command" "Invalid held input command."

namespace AppState

def currentControlOwner (s : AppState) (agent viewer : Uuid) (user : AuthUser)
    : Except CommandDenied LeaseOwner :=
  if !user.isOperator then
    .error (remoteInputDenied "permission_denied" "Operator permission is required.")
  else
    match s.openConn? agent with
    | none => .error {
        code := "agent_offline", error := "Agent is not connected or is closing.", module := none
      }
    | some conn => .ok {
        viewerConnectionId := viewer, userId := user.userId, agentConnectionId := conn
      }

def cleanupFailed : CommandDenied :=
  remoteInputDenied "control_cleanup_failed"
    "Device connection is closing after failed input cleanup."

-- Keeps the history of grants; an acquisition by the current owner returns its earlier grant.
def recordGrant (s : AppState) (grant : LeaseGrant) (fresh : Uuid) : AppState :=
  if grant.token = fresh then
    let conn := grant.owner.agentConnectionId
    {
      s with
      minted := fresh :: s.minted
      grants := s.grants ++ [{ token := fresh, connId := conn, start := (s.sockets conn).sent.length }]
    }
  else
    s

def freeze (s : AppState) (agent : Uuid) (frozen : FrozenCapture) : AppState :=
  if (s.capture agent).isSome then
    s
  else
    { s with capture := Function.update s.capture agent (some frozen) }

def acquireControl (s : AppState) (agent : Uuid) (owner : LeaseOwner) (value : Json) (now : Nat)
    (fresh : Uuid) : Except CommandDenied (Option LeaseGrant) × AppState :=
  match s.settle (s.sessions.expireAgent agent now) with
  | (false, s) => (.error cleanupFailed, s)
  | (true, s) =>
    match s.validateControlCapture agent owner value now with
    | .error e => (.error e, s)
    | .ok frozen =>
      if (s.capture agent).any
          (fun capture => capture.owner = owner ∧ capture.sessionId ≠ frozen.sessionId) then
        (.error (captureDenied "capture_session_locked"
          "Release the existing lease before binding a different live stream session."), s)
      else
        let transition := s.sessions.acquire agent owner defaultLeaseTtl now fresh
        match s.settle (transition.cleanup, transition.sessions) with
        | (false, s) =>
          (.error cleanupFailed, s.revokeAgentControl agent owner.agentConnectionId)
        | (true, s) =>
          match transition.result with
          | .error e => (.error (leaseError e), s)
          | .ok grant =>
            let s := (s.recordGrant grant fresh).commitControlCapture agent frozen
            (.ok (some grant), s.freeze agent frozen)

def heartbeatControl (s : AppState) (agent : Uuid) (owner : LeaseOwner) (token : Uuid) (now : Nat)
    : Except CommandDenied (Option LeaseGrant) × AppState :=
  let transition := s.sessions.heartbeat agent owner token defaultLeaseTtl now
  let (_, s) := s.settle (transition.cleanup, transition.sessions)
  ((transition.result.map some).mapError leaseError, s)

def releaseControl (s : AppState) (agent : Uuid) (owner : LeaseOwner) (token : Uuid) (now : Nat)
    : Except CommandDenied (Option LeaseGrant) × AppState :=
  let transition := s.sessions.release agent owner token now
  let (_, s) := s.settle (transition.cleanup, transition.sessions)
  ((transition.result.map (fun _ => none)).mapError leaseError, s)

def controlLeaseResult (s : AppState) (agent viewer : Uuid) (user : AuthUser) (value : Json)
    (now : Nat) (fresh : Uuid) : Except CommandDenied (Option LeaseGrant) × AppState :=
  let kind := value.kind
  match s.currentControlOwner agent viewer user with
  | .error e => (.error e, s)
  | .ok owner =>
    -- A release stays possible after the device revoked remote input.
    let authorized :=
      if kind ≠ "control_release" then s.authorizeAgentCommand agent mouseMoveProbe else .ok .null
    match authorized with
    | .error e => (.error e, s)
    | .ok _ =>
      if kind = "control_acquire" then
        s.acquireControl agent owner value now fresh
      else
        match (value.field "lease_token").asStr.bind Uuid.parse with
        | none => (.error (leaseError .missing), s)
        | some token =>
          if kind = "control_heartbeat" then
            s.heartbeatControl agent owner token now
          else if kind = "control_release" then
            s.releaseControl agent owner token now
          else
            (.error {
              code := "invalid_request"
              error := "Unknown control lease operation."
              module := none
            }, s)

def grantReply (s : AppState) (agent : Uuid) (grant : LeaseGrant) (now : Nat) (reply : Json) : Json :=
  let reply := (reply.setField "status" (.string "granted")).setField "lease_token"
    (.string grant.token.text)
  let reply :=
    match s.capture agent with
    | some capture =>
      (reply.setField "capture_session" (.string capture.sessionId.text)).setField "monitor"
        (capture.active.prefs.monitor.elim .null .ofNat)
    | none => reply
  reply.setField "expires_in_ms" (.ofNat ((grant.expiresAt - now) / 10 ^ 6))

def controlLeaseMessage (s : AppState) (viewer : Uuid) (user : AuthUser) (value : Json) (now : Nat)
    (fresh : Uuid) : Json × AppState :=
  let agentId := (value.field "agent_id").asStr.bind Uuid.parse
  let requestId := (value.field "request_id").asStr.bind Uuid.parse
  let id (id : Option Uuid) := id.elim Json.null (fun id => .string id.text)
  let reply := Json.object [
    ("agent_id", id agentId),
    ("event", .string "control_lease"),
    ("expires_in_ms", .ofNat 0),
    ("request_id", id requestId),
    ("status", .string "denied")
  ]
  match agentId, requestId with
  | some agent, some _ =>
    match s.controlLeaseResult agent viewer user value now fresh with
    | (.ok (some grant), s) => (s.grantReply agent grant now reply, s)
    | (.ok none, s) => (reply.setField "status" (.string "released"), s)
    | (.error e, s) =>
      ((reply.setField "code" (.string e.code)).setField "error" (.string e.error), s)
  | _, _ =>
    ((reply.setField "code" (.string "invalid_request")).setField "error"
      (.string "agent_id and request_id must be UUIDs."), s)

def enqueueViewerInput (s : AppState) (agent conn token : Uuid) (authorized : Json)
    : Except CommandDenied Unit × AppState :=
  match s.enqueueAuthorizedCommand agent conn authorized (.input token) with
  | (.ok (), s) => (.ok (), s)
  | (.error e, s) =>
    let s := if s.connId? agent = some conn then s.shutdown conn "" else s
    (.error e, s.revokeAgentControl agent conn)

def sendViewerInput (s : AppState) (agent viewer : Uuid) (user : AuthUser) (token : Option Uuid)
    (cmd : Json) (now : Nat) : Except CommandDenied Unit × AppState :=
  match s.currentControlOwner agent viewer user with
  | .error e => (.error e, s)
  | .ok owner =>
    match token with
    | none => (.error (leaseError .missing), s)
    | some token =>
      match s.authorizeAgentCommand agent cmd with
      | .error e => (.error e, s)
      | .ok authorized =>
        let transition := s.sessions.authorizeAndTrack agent owner token cmd now
        let (_, s) := s.settle (transition.cleanup, transition.sessions)
        match transition.result with
        | .error e => (.error (leaseError e), s)
        | .ok () => s.enqueueViewerInput agent owner.agentConnectionId token authorized

-- `send_agent_command_json` up to the point where the authorized command is about to be enqueued.
def authorizeSend (s : AppState) (agent : Uuid) (cmd : Json) : Except CommandDenied AppState :=
  match s.authorizeAgentCommand agent cmd with
  | .error e => .error e
  | .ok command =>
    if cmd.kind = "start_capture" ∨ cmd.kind = "stop_capture" then
      .error (captureDenied "capture_session_required"
        "Capture selection is managed by live stream sessions.")
    else if isRemoteInput cmd.kind ∨ cmd.kind = "ClipboardRead" ∨ cmd.kind = "ClipboardWrite" then
      .error (remoteInputDenied "control_lease_required"
        "Remote input requires a viewer control lease.")
    else
      match s.connId? agent with
      | none =>
        .error { code := "agent_offline", error := "Agent is not connected.", module := none }
      | some conn => .ok { s with inflight := (agent, conn, command) :: s.inflight }

-- The commands in flight are enqueued in any order.
def finishSend (s : AppState) (index : Nat) : Except CommandDenied Unit × AppState :=
  match s.inflight[index]? with
  | none => (.ok (), s)
  | some (agent, conn, command) =>
    { s with inflight := s.inflight.eraseIdx index }.enqueueAuthorizedCommand agent conn command
      .command

end AppState

end Vantyr
