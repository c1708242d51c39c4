import Vantyr.Server.Runtime

/-!
This module contains the clipboard RPCs of `server/src/control/clipboard.rs`. A request is fenced to
the lease, the connection and the grants it was made under, from the HTTP request over its delivery
to the reply.
-/

namespace Vantyr

def clipboardDenied (message : String) : CommandDenied :=
  { code := "clipboard_unavailable", error := message, module := some .clipboard }

def maxTextBytes : Nat := 64 * 1024

def clipboardTimeout : Nat := 5 * 10 ^ 9

def boundedText (text : String) : Bool :=
  text.utf8ByteSize ≤ maxTextBytes ∧ !text.toList.contains '\x00'

structure ClipboardRequest where
  action : String
  controlToken : Uuid
  text : Option String
  deriving DecidableEq, Repr

def ClipboardRequest.command (request : ClipboardRequest) (id : Uuid) : Except CommandDenied Json :=
  let invalid := {
    code := "invalid_request"
    error := "Use read without text, or write with text of at most 65,536 UTF-8 bytes and no NUL characters."
    module := none
  }
  match request.action, request.text with
  | "read", none => .ok (clipboardRead id)
  | "write", some text =>
    if boundedText text then .ok (clipboardWrite id text) else .error invalid
  | _, _ => .error invalid

namespace AppState

def clipboardValid (s : AppState) (p : PendingClipboard) (now : Nat) : Bool × AppState :=
  if p.deadline ≤ now ∨ s.openConn? p.agent ≠ some p.owner.agentConnectionId then
    (false, s)
  else
    let transition := s.sessions.authorize p.agent p.owner p.token now
    let (_, s) := s.settle (transition.cleanup, transition.sessions)
    match transition.result, s.authorizeAgentCommand p.agent mouseMoveProbe,
        s.authorizeAgentCommand p.agent (p.fence.eraseField "__module_generation") with
    | .ok (), .ok _, .ok command =>
      (command.field "__module_generation" = p.fence.field "__module_generation", s)
    | _, _, _ => (false, s)

def clipboardDeliverable (s : AppState) (agent conn : Uuid) (cmd : Json) (now : Nat)
    : Bool × AppState :=
  match ((cmd.field "request_id").asStr.bind Uuid.parse).bind s.clipboard.lookup with
  | none => (false, s)
  | some p =>
    if p.agent = agent
        ∧ p.owner.agentConnectionId = conn
        ∧ p.fence.field "type" = cmd.field "type"
        ∧ p.fence.field "__module_generation" = cmd.field "__module_generation" then
      s.clipboardValid p now
    else
      (false, s)

def clipboardFailed (error : String) : Json :=
  .object [("error", .string error), ("ok", .bool false)]

def clipboardReply (p : PendingClipboard) (valid : Bool) (value : Json) : Json :=
  if !valid then
    clipboardFailed "Clipboard permission, connection, or control lease was revoked."
  else if value.field "ok" = .bool true then
    if p.fence.field "type" = .string "ClipboardRead" then
      match (value.field "text").asStr.filter boundedText with
      | some text => .object [("ok", .bool true), ("text", .string text)]
      | none => clipboardFailed "Agent returned invalid or oversized clipboard text."
    else
      .object [("ok", .bool true)]
  else
    clipboardFailed "Agent could not access clipboard text; permission may have been revoked or the desktop clipboard may be unavailable."

def completeClipboard (s : AppState) (agent conn : Uuid) (value : Json) (now : Nat) : AppState :=
  match (value.field "request_id").asStr.bind Uuid.parse with
  | none => s
  | some id =>
    match s.clipboard.lookup id with
    | none => s
    | some p =>
      if p.agent ≠ agent ∨ p.owner.agentConnectionId ≠ conn then
        s
      else
        let (valid, s) := s.clipboardValid p now
        let reply := if p.sender then some (clipboardReply p valid value) else p.reply
        { s with clipboard := s.clipboard.insert id { p with sender := false, reply } }

-- Registers a request, if it is valid and no other is in progress, and places it in the queue.
def enqueueClipboard (s : AppState) (p : PendingClipboard) (authorized : Json) (now : Nat)
    (fresh : Uuid) : Except CommandDenied Unit × AppState :=
  match s.clipboardValid p now with
  | (false, s) =>
    (.error (clipboardDenied
      "Control lease, connection, or device permission is no longer valid."), s)
  | (true, s) =>
    if 128 ≤ s.clipboard.entries.length
        ∨ (Table.values s.clipboard).any (fun other => other.agent = p.agent) then
      (.error {
        code := "clipboard_busy"
        error := "A clipboard request is already in progress."
        module := none
      }, s)
    else
      match { s with clipboard := s.clipboard.insert fresh p }.enqueueAuthorizedCommand p.agent
          p.owner.agentConnectionId authorized .command with
      | (.ok (), s) => (.ok (), s)
      | (.error e, s) => (.error e, { s with clipboard := s.clipboard.erase fresh })

-- The first half of an exchange; `clipboardTick` and `clipboardReceive` wait for the reply.
def clipboardExchange (s : AppState) (agent : Uuid) (user : AuthUser) (request : ClipboardRequest)
    (now : Nat) (fresh : Uuid) : Except CommandDenied Unit × AppState :=
  if !user.isOperator then
    (.error (clipboardDenied "Operator permission is required."), s)
  else
    let s := { s with minted := fresh :: s.minted }
    match request.command fresh with
    | .error e => (.error e, s)
    | .ok command =>
      match s.sessions.httpOwner agent user.userId request.controlToken with
      | none =>
        (.error (clipboardDenied "An active control token belonging to this user is required."), s)
      | some owner =>
        match s.authorizeAgentCommand agent command with
        | .error e => (.error e, s)
        | .ok authorized =>
          let p := {
            agent
            owner
            token := request.controlToken
            deadline := now + clipboardTimeout
            fence := authorized.eraseField "text"
            sender := true
            reply := none
          }
          s.enqueueClipboard p authorized now fresh

-- The waiter of a request ends before the reply arrived.
def dropWaiter (s : AppState) (id : Uuid) : AppState :=
  match s.clipboard.lookup id with
  | none => s
  | some p =>
    ({ s with clipboard := s.clipboard.erase id }.enqueueAuthorizedCommand p.agent
      p.owner.agentConnectionId (clipboardCancel id) .command).2

def clipboardTick (s : AppState) (id : Uuid) (now : Nat) : AppState :=
  match s.clipboard.lookup id with
  | none => s
  | some p =>
    let (valid, s) := s.clipboardValid p now
    if p.deadline ≤ now ∨ !valid then s.dropWaiter id else s

def clipboardReceive (s : AppState) (id : Uuid) (now : Nat) : Option Json × AppState :=
  match s.clipboard.lookup id with
  | none => (none, s)
  | some p =>
    match p.reply with
    | none => (none, s)
    | some reply =>
      let (valid, s) := { s with clipboard := s.clipboard.erase id }.clipboardValid p now
      (if valid then some reply else none, s)

end AppState

end Vantyr
