import Mathlib.Data.List.AList
import Vantyr.Protocol.Commands

/-!
This module contains the exclusive remote-input leases of `server/src/control/sessions.rs`: the input
a lease holds down on the device, the commands that release it, and the transitions of the lease
table.
-/

namespace Vantyr

def heldKeys : List String :=
  [ "enter", "backspace", "tab", "escape", "delete", "insert", "space", "home", "end", "pageup",
    "pagedown", "arrowup", "arrowdown", "arrowleft", "arrowright", "f1", "f2", "f3", "f4", "f5",
    "f6", "f7", "f8", "f9", "f10", "f11", "f12", "control", "alt", "shift", "meta", "capslock" ]

inductive Button where
  | left
  | right
  | middle
  deriving DecidableEq, Repr

namespace Button

def all : List Button := [.left, .right, .middle]

def name : Button → String
  | .left => "left"
  | .right => "right"
  | .middle => "middle"

def ofName (name : String) : Option Button :=
  all.find? (fun button => button.name = name)

theorem mem_all (button : Button) : button ∈ all := by
  cases button <;> decide

@[simp]
theorem ofName_name (button : Button) : ofName button.name = some button := by
  cases button <;> decide

end Button

-- `i32::try_from` of an `i64`.
def Json.asI32 (value : Json) : Option Int := do
  let n ← value.asI64
  guard (-2 ^ 31 ≤ n ∧ n < 2 ^ 31)
  return n

def isCleanupCommand (command : Json) : Bool :=
  match command.kind with
  | "KeyUp" => (command.field "key").asStr.any heldKeys.contains
  | "MouseUp" =>
    ((command.field "button").asStr.bind Button.ofName).isSome
      && (command.field "x").asI32.isSome
      && (command.field "y").asI32.isSome
  | _ => false

structure LeaseOwner where
  viewerConnectionId : Uuid
  userId : Uuid
  agentConnectionId : Uuid
  deriving DecidableEq, Repr

structure LeaseGrant where
  token : Uuid
  owner : LeaseOwner
  expiresAt : Nat
  deriving DecidableEq, Repr

inductive LeaseError where
  | conflict (owner : LeaseOwner)
  | missing
  | expired
  | mismatch
  | invalidHeldInput
  deriving DecidableEq, Repr

inductive TeardownReason where
  | released
  | expired
  | viewerDisconnected
  | agentDisconnected
  deriving DecidableEq, Repr

structure LeaseCleanup where
  token : Uuid
  agentId : Uuid
  owner : LeaseOwner
  reason : TeardownReason
  commands : List Json
  deriving DecidableEq, Repr

-- Both coordinates are known to be in the range of an `i32`.
structure Point where
  x : Int
  y : Int
  inRange : (-2 ^ 31 ≤ x ∧ x < 2 ^ 31) ∧ (-2 ^ 31 ≤ y ∧ y < 2 ^ 31)
  deriving DecidableEq

structure HeldInput where
  keys : BitVec 64
  buttons : Button → Option Point

namespace HeldInput

def default : HeldInput := { keys := 0, buttons := fun _ => none }

def position (cmd : Json) : Except LeaseError Point :=
  match (cmd.field "x").asI64, (cmd.field "y").asI64 with
  | some x, some y =>
    if inRange : (-2 ^ 31 ≤ x ∧ x < 2 ^ 31) ∧ (-2 ^ 31 ≤ y ∧ y < 2 ^ 31) then
      .ok { x, y, inRange }
    else
      .error .invalidHeldInput
  | _, _ => .error .invalidHeldInput

def button (cmd : Json) : Except LeaseError Button :=
  match cmd.get? "button" with
  | none => .ok .left
  | some value =>
    match value.asStr.bind Button.ofName with
    | some button => .ok button
    | none => .error .invalidHeldInput

def key (cmd : Json) : Except LeaseError Nat :=
  match (cmd.field "key").asStr.bind heldKeys.idxOf? with
  | some index => .ok index
  | none => .error .invalidHeldInput

-- Every command with coordinates moves the cursor of the host, and what is dragged along with it.
def moveTo (held : HeldInput) (point : Point) : HeldInput :=
  { held with buttons := fun button => (held.buttons button).map (fun _ => point) }

def setKey (held : HeldInput) (index : Nat) : HeldInput :=
  { held with keys := held.keys ||| (1#64 <<< index) }

def clearKey (held : HeldInput) (index : Nat) : HeldInput :=
  { held with keys := held.keys &&& ~~~(1#64 <<< index) }

def setButton (held : HeldInput) (button : Button) (point : Option Point) : HeldInput :=
  { held with buttons := Function.update held.buttons button point }

def track (held : HeldInput) (cmd : Json) : Except LeaseError HeldInput :=
  match cmd.kind with
  | "KeyDown" => do return held.setKey (← key cmd)
  | "KeyUp" => do return held.clearKey (← key cmd)
  | "MouseDown" => do
    let button ← button cmd
    let point ← position cmd
    return (held.moveTo point).setButton button (some point)
  | "MouseUp" => do
    let button ← button cmd
    let point ← position cmd
    return (held.moveTo point).setButton button none
  | "MouseMove" | "MouseClick" | "MouseDoubleClick" => do return held.moveTo (← position cmd)
  | _ => return held

def keyUp (key : String) : Json :=
  .object [("key", .string key), ("type", .string "KeyUp")]

def mouseUp (button : Button) (point : Point) : Json :=
  .object [
    ("button", .string button.name),
    ("type", .string "MouseUp"),
    ("x", .ofInt point.x),
    ("y", .ofInt point.y)
  ]

def drain (held : HeldInput) : List Json :=
  heldKeys.zipIdx.filterMap
      (fun (key, index) => if held.keys.getLsbD index then some (keyUp key) else none)
    ++ Button.all.filterMap (fun button => (held.buttons button).map (mouseUp button))

end HeldInput

structure Lease where
  grant : LeaseGrant
  held : HeldInput

abbrev ControlSessions := AList (fun _ : Uuid => Lease)

structure Transition (α : Type) where
  result : Except LeaseError α
  cleanup : List LeaseCleanup
  sessions : ControlSessions

-- Instants and durations are counted in nanoseconds.
def defaultLeaseTtl : Nat := 15 * 10 ^ 9

def minLeaseTtl : Nat := 10 ^ 9

def maxLeaseTtl : Nat := 30 * 10 ^ 9

namespace ControlSessions

def deadline (now requestedTtl : Nat) : Nat :=
  now + max minLeaseTtl (min requestedTtl maxLeaseTtl)

def cleanup (agent : Uuid) (reason : TeardownReason) (lease : Lease) : LeaseCleanup :=
  {
    agentId := agent
    token := lease.grant.token
    owner := lease.grant.owner
    reason
    commands := lease.held.drain
  }

def remove (sessions : ControlSessions) (agent : Uuid) (reason : TeardownReason)
    : List LeaseCleanup × ControlSessions :=
  (((sessions.lookup agent).map (cleanup agent reason)).toList, sessions.erase agent)

def expireAgent (sessions : ControlSessions) (agent : Uuid) (now : Nat)
    : List LeaseCleanup × ControlSessions :=
  if (sessions.lookup agent).any (fun lease => lease.grant.expiresAt ≤ now) then
    sessions.remove agent .expired
  else
    ([], sessions)

def check (sessions : ControlSessions) (agent : Uuid) (owner : LeaseOwner) (token : Uuid)
    : Except LeaseError Unit :=
  match sessions.lookup agent with
  | none => .error .missing
  | some lease =>
    if lease.grant.owner ≠ owner ∨ lease.grant.token ≠ token then
      .error .mismatch
    else
      .ok ()

def acquire (sessions : ControlSessions) (agent : Uuid) (owner : LeaseOwner)
    (requestedTtl now : Nat) (fresh : Uuid) : Transition LeaseGrant :=
  let (cleanup, sessions) := sessions.expireAgent agent now
  match sessions.lookup agent with
  | some existing =>
    if existing.grant.owner = owner then
      { result := .ok existing.grant, cleanup, sessions }
    else
      { result := .error (.conflict existing.grant.owner), cleanup, sessions }
  | none =>
    let grant := { token := fresh, owner, expiresAt := deadline now requestedTtl }
    {
      result := .ok grant
      cleanup
      sessions := sessions.insert agent { grant, held := HeldInput.default }
    }

def httpOwner (sessions : ControlSessions) (agent user token : Uuid) : Option LeaseOwner :=
  ((sessions.lookup agent).filter
    (fun lease => lease.grant.token = token ∧ lease.grant.owner.userId = user)).map
    (fun lease => lease.grant.owner)

def authorize (sessions : ControlSessions) (agent : Uuid) (owner : LeaseOwner) (token : Uuid)
    (now : Nat) : Transition Unit :=
  let (cleanup, sessions) := sessions.expireAgent agent now
  {
    result := if cleanup.isEmpty then sessions.check agent owner token else .error .expired
    cleanup
    sessions
  }

-- A tracking error leaves the lease as it was.
def authorizeAndTrack (sessions : ControlSessions) (agent : Uuid) (owner : LeaseOwner)
    (token : Uuid) (cmd : Json) (now : Nat) : Transition Unit :=
  let transition := sessions.authorize agent owner token now
  match transition.result, transition.sessions.lookup agent with
  | .ok (), some lease =>
    match lease.held.track cmd with
    | .ok held => {
        transition with
        sessions := transition.sessions.insert agent { lease with held }
      }
    | .error e => { transition with result := .error e }
  | _, _ => transition

def heartbeat (sessions : ControlSessions) (agent : Uuid) (owner : LeaseOwner) (token : Uuid)
    (requestedTtl now : Nat) : Transition LeaseGrant :=
  let auth := sessions.authorize agent owner token now
  match auth.result, auth.sessions.lookup agent with
  | .ok (), some lease =>
    let grant := { lease.grant with expiresAt := deadline now requestedTtl }
    {
      result := .ok grant
      cleanup := auth.cleanup
      sessions := auth.sessions.insert agent { lease with grant }
    }
  | .ok (), none => { result := .error .missing, cleanup := auth.cleanup, sessions := auth.sessions }
  | .error e, _ => { result := .error e, cleanup := auth.cleanup, sessions := auth.sessions }

def release (sessions : ControlSessions) (agent : Uuid) (owner : LeaseOwner) (token : Uuid)
    (now : Nat) : Transition Unit :=
  let transition := sessions.authorize agent owner token now
  match transition.result with
  | .ok () =>
    let (removed, sessions) := transition.sessions.remove agent .released
    { result := .ok (), cleanup := transition.cleanup ++ removed, sessions }
  | .error _ => transition

def removeAll (sessions : ControlSessions) (reason : TeardownReason)
    : List Uuid → List LeaseCleanup × ControlSessions
  | [] => ([], sessions)
  | agent :: agents =>
    let (removed, sessions) := sessions.remove agent reason
    let (rest, sessions) := removeAll sessions reason agents
    (removed ++ rest, sessions)

def expire (sessions : ControlSessions) (now : Nat) : List LeaseCleanup × ControlSessions :=
  let expired := sessions.entries.filter (fun entry => entry.2.grant.expiresAt ≤ now)
  sessions.removeAll .expired (expired.map Sigma.fst)

def revokeViewer (sessions : ControlSessions) (viewer : Uuid)
    : List LeaseCleanup × ControlSessions :=
  let owned := sessions.entries.filter
    (fun entry => entry.2.grant.owner.viewerConnectionId = viewer)
  sessions.removeAll .viewerDisconnected (owned.map Sigma.fst)

def revokeAgent (sessions : ControlSessions) (agent agentConnectionId : Uuid)
    : List LeaseCleanup × ControlSessions :=
  if (sessions.lookup agent).any
      (fun lease => lease.grant.owner.agentConnectionId = agentConnectionId) then
    sessions.remove agent .agentDisconnected
  else
    ([], sessions)

/-!
The branches of the transitions. An expired lease is removed before anything else happens.
-/

variable (sessions : ControlSessions) (agent : Uuid) (now : Nat)

theorem expireAgent_cases
    : (∃ lease, sessions.lookup agent = some lease
        ∧ lease.grant.expiresAt ≤ now
        ∧ sessions.expireAgent agent now = sessions.remove agent .expired)
      ∨ (sessions.expireAgent agent now = ([], sessions)
        ∧ ∀ lease, sessions.lookup agent = some lease → now < lease.grant.expiresAt) := by
  unfold expireAgent
  cases hlease : sessions.lookup agent with
  | none =>
    apply Or.inr
    simp
  | some lease =>
    by_cases hexpired : lease.grant.expiresAt ≤ now
    . apply Or.inl
      refine ⟨lease, rfl, hexpired, ?_⟩
      simp [hexpired]
    . apply Or.inr
      simp only [Option.any_some, hexpired, decide_false, Bool.false_eq_true, ↓reduceIte, true_and,
        Option.some.injEq]
      intro l hl
      rw [← hl]
      omega

theorem expireAgent_expireAgent
    : (sessions.expireAgent agent now).2.expireAgent agent now
        = ([], (sessions.expireAgent agent now).2) := by
  rcases sessions.expireAgent_cases agent now with ⟨lease, hlease, hexpired, heq⟩ | ⟨heq, hlive⟩
  . rw [heq]
    simp [remove, expireAgent]
  . rw [heq]
    exact heq

theorem authorize_cases (owner : LeaseOwner) (token : Uuid)
    : ((∃ e, (sessions.authorize agent owner token now).result = .error e)
        ∧ ((sessions.authorize agent owner token now).cleanup,
          (sessions.authorize agent owner token now).sessions) = sessions.expireAgent agent now)
      ∨ ∃ lease, sessions.lookup agent = some lease
        ∧ lease.grant.owner = owner
        ∧ lease.grant.token = token
        ∧ now < lease.grant.expiresAt
        ∧ sessions.authorize agent owner token now
          = { result := .ok (), cleanup := [], sessions } := by
  rcases sessions.expireAgent_cases agent now with ⟨lease, hlease, hexpired, heq⟩ | ⟨heq, hlive⟩
  . apply Or.inl
    simp [authorize, heq, remove, hlease]
  . simp only [authorize, heq, List.isEmpty_nil, ↓reduceIte, check]
    cases hlease : sessions.lookup agent with
    | none => simp
    | some lease =>
      simp only
      split
      . simp
      . next hmatch =>
        simp only [not_or, ne_eq, not_not] at hmatch
        exact Or.inr ⟨lease, rfl, hmatch.1, hmatch.2, hlive lease hlease, rfl⟩

end ControlSessions

end Vantyr
