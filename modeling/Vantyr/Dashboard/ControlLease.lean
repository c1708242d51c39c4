import Mathlib.Logic.Relation
import Vantyr.Server.Sessions

/-!
This module contains the hook of the dashboard that takes, renews and gives back a control lease
(`frontend/src/features/remote/hooks/useRemoteControlLease.ts`), connected to the lease table of the
server by one channel in each direction. Whatever React renders in between is an input of each event, and
so is whatever the server decides about a message before it turns to the lease table. All times are those
of one clock and are counted in nanoseconds.
-/

namespace Vantyr

namespace ControlLease

inductive Request where
  | acquire (agentId requestId : Uuid) (captureSession : String) (captureIdentity : Option String)
  | heartbeat (agentId requestId : Uuid) (captureSession : String) (token : Uuid)
  | release (agentId requestId : Uuid) (token : Uuid)
  deriving DecidableEq, Repr

namespace Request

def requestId : Request → Uuid
  | .acquire _ requestId _ _ => requestId
  | .heartbeat _ requestId _ _ => requestId
  | .release _ requestId _ => requestId

end Request

inductive ReplyStatus where
  | granted
  | denied
  | released
  | revoked
  deriving DecidableEq, Repr

-- The event `control_lease`. That of a revocation has no request id.
structure Reply where
  agentId : Uuid
  requestId : Option Uuid
  status : ReplyStatus
  leaseToken : Option Uuid
  expiresInMs : Nat
  error : Option String
  deriving DecidableEq, Repr

/-!
The hook.
-/

structure CaptureScope where
  agentId : Uuid
  captureSession : String
  captureIdentity : Option String
  deriving DecidableEq, Repr

structure Grant where
  scope : CaptureScope
  token : Uuid
  deadline : Nat
  deriving DecidableEq, Repr

inductive PendingKind where
  | acquire
  | heartbeat
  deriving DecidableEq, Repr

structure Pending where
  scope : CaptureScope
  id : Uuid
  kind : PendingKind
  sentAt : Nat
  deriving DecidableEq, Repr

structure Hook where
  grant : Option Grant
  acquiring : Option CaptureScope
  feedback : String
  current : Option Grant
  pending : Option Pending
  cancelled : List (Uuid × Uuid)
  deriving DecidableEq, Repr

/--
What an event handler reads of the last rendering: the properties it closes over, those that are mirrored
in refs, and the stamp of the frame on display, if the page has a getter for it.
-/
structure Rendered where
  agentId : Uuid
  captureSession : Option String
  captureIdentity : Option String
  allowed : Bool
  scope : Uuid
  capture : Option String
  stamp : Option (Option String)
  hidden : Bool
  deriving DecidableEq, Repr

namespace Rendered

def owns (r : Rendered) (scope : CaptureScope) : Bool :=
  scope.agentId = r.agentId
    && some scope.captureSession = r.captureSession
    && scope.captureIdentity = r.captureIdentity

end Rendered

def isHexDigit (c : Char) : Bool :=
  '0' ≤ c ∧ c ≤ '9' ∨ 'a' ≤ c ∧ c ≤ 'f' ∨ 'A' ≤ c ∧ c ≤ 'F'

def isSessionId (text : String) : Bool :=
  let groups := text.toList.splitOn '-'
  groups.map List.length = [8, 4, 4, 4, 12] && groups.all (fun group => group.all isHexDigit)

namespace Hook

def init : Hook where
  grant := none
  acquiring := none
  feedback := ""
  current := none
  pending := none
  cancelled := []

-- The oldest entries are forgotten.
def cancelPending (h : Hook) : Hook :=
  match h.pending with
  | none => h
  | some p =>
    let cancelled := h.cancelled.filter (fun entry => entry.1 ≠ p.id) ++ [(p.id, p.scope.agentId)]
    { h with pending := none, cancelled := cancelled.drop (cancelled.length - 64) }

def giveBack (grant : Option Grant) (id : Uuid) : List Request :=
  (grant.map (fun g => Request.release g.scope.agentId id g.token)).toList

def release (h : Hook) (id : Uuid) : Hook × List Request :=
  ({ h.cancelPending with current := none, grant := none, acquiring := none }, giveBack h.current id)

def fail (change : Hook × List Request) (message : String) : Hook × List Request :=
  ({ change.1 with feedback := message }, change.2)

def acquire (h : Hook) (r : Rendered) (now : Nat) (id : Uuid) : Hook × List Request :=
  if !r.allowed || h.pending.isSome || h.current.isSome then
    (h, [])
  else
    match r.capture.filter isSessionId with
    | none => fail (h, []) "Reconnect live view before taking control."
    | some session =>
      if r.stamp = some none then
        fail (h, []) "Wait for a verified displayed frame before taking control."
      else
        let scope := { agentId := r.scope, captureSession := session, captureIdentity := r.stamp.join }
        ({ h with
          pending := some { scope, id, kind := .acquire, sentAt := now }
          acquiring := some scope
          feedback := "" },
          [.acquire r.scope id session r.stamp.join])

-- The token of a reply that is of no use is given back, unless it is that of the current lease.
def refuse (h : Hook) (reply : Reply) (agentId id id' : Uuid) : Hook × List Request :=
  let other := reply.leaseToken.filter (fun token =>
    reply.status = .granted ∧ h.current.map Grant.token ≠ some token)
  let back := (other.map (fun token => Request.release agentId id token)).toList
  ((h.release id').1, back ++ (h.release id').2)

def onGranted (h : Hook) (r : Rendered) (now : Nat) (request : Pending) (reply : Reply)
    (token : Uuid) (id id' : Uuid) : Hook × List Request :=
  if request.kind = .heartbeat ∧ h.current.map Grant.token ≠ some token then
    fail (h.release id) "Control session changed. Take control again."
  else
    let next := {
      scope := { request.scope with agentId := r.agentId }
      token
      deadline := request.sentAt + reply.expiresInMs * 10 ^ 6
    }
    if next.deadline ≤ now then
      fail (h.refuse reply r.agentId id id') "Control confirmation arrived too late. Try again."
    else
      ({ h with current := some next, grant := some next, feedback := "" }, [])

def onEvent (h : Hook) (r : Rendered) (now : Nat) (reply : Reply) (id id' : Uuid)
    : Hook × List Request :=
  match reply.requestId.bind (fun q => h.cancelled.find? (· = (q, reply.agentId))) with
  | some (q, agentId) =>
    let granted := reply.leaseToken.filter (fun _ => reply.status = .granted)
    ({ h with cancelled := h.cancelled.filter (fun entry => entry.1 ≠ q) },
      (granted.map (fun token => Request.release agentId id token)).toList)
  | none =>
    if reply.agentId ≠ r.agentId then
      (h, [])
    else if reply.status = .revoked ∧ reply.leaseToken.isSome
        ∧ reply.leaseToken = h.current.map Grant.token then
      fail (h.release id)
        (reply.error.getD "Control ended. Take control again to continue.")
    else
      match h.pending.filter (fun p => reply.requestId = some p.id) with
      | none => (h, [])
      | some request =>
        let h := { h with pending := none, acquiring := none }
        match reply.leaseToken.filter (fun _ =>
            reply.status = .granted ∧ r.allowed ∧ r.scope = r.agentId
              ∧ some request.scope.captureSession = r.capture
              ∧ request.scope.captureIdentity = r.stamp.join
              ∧ 0 < reply.expiresInMs ∧ reply.expiresInMs ≤ 30000) with
        | some token => h.onGranted r now request reply token id id'
        | none =>
          fail (h.refuse reply r.agentId id id')
            (reply.error.getD "Control was not granted. Check device permissions and try again.")

-- Every 500 ms.
def onTimer (h : Hook) (r : Rendered) (now : Nat) (id : Uuid) : Hook × List Request :=
  match h.current, h.pending with
  | some active, request =>
    if active.deadline ≤ now then
      fail (h.release id) "Control expired. Take control again."
    else if request.any (fun p => p.sentAt + 5000 * 10 ^ 6 ≤ now) then
      fail (h.release id) "Control confirmation timed out. Try again."
    else if request.isNone && !r.hidden && active.deadline ≤ now + 10000 * 10 ^ 6 then
      ({ h with pending := some { scope := active.scope, id, kind := .heartbeat, sentAt := now } },
        [.heartbeat active.scope.agentId id active.scope.captureSession active.token])
    else
      (h, [])
  | none, request =>
    if request.any (fun p => p.sentAt + 5000 * 10 ^ 6 ≤ now) then
      fail (h.release id) "Control confirmation timed out. Try again."
    else
      (h, [])

-- The effect that runs when the scope has changed, and the cleanup of the effect before.
def leaveScope (h : Hook) (leaves : CaptureScope → Bool) (id : Uuid) : Hook × List Request :=
  let left := h.current.filter (fun g => leaves g.scope)
  let h := if h.pending.any (fun p => leaves p.scope) then h.cancelPending else h
  ({ h with current := h.current.filter (fun g => !leaves g.scope) }, giveBack left id)

def enterScope (h : Hook) (r : Rendered) (id : Uuid) : Hook × List Request :=
  h.leaveScope (fun scope => !r.owns scope) id

def cleanup (h : Hook) (r : Rendered) (id : Uuid) : Hook × List Request :=
  h.leaveScope r.owns id

def unmount (h : Hook) (id : Uuid) : Hook × List Request :=
  ({ h.cancelPending with current := none }, giveBack h.current id)

def disable (h : Hook) (id : Uuid) : Hook × List Request :=
  ({ h.cancelPending with current := none, grant := none, acquiring := none }, giveBack h.current id)

-- The token that the page works with.
def token (h : Hook) (r : Rendered) (now : Nat) : Option Uuid :=
  (h.grant.filter (fun g => r.allowed && r.owns g.scope && now < g.deadline)).map Grant.token

end Hook

end ControlLease

end Vantyr
