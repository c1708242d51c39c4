import Mathlib.Logic.Relation
import Vantyr.Server.Connection

/-!
This module contains the server as a transition system. A step runs one of the entry points to its
end; the locks of the server make each of them atomic, except for `send_agent_command_json`, which
authorizes a command in one step and enqueues it in a later one.
-/

namespace Vantyr

/--
The entry points with their arguments. `fresh` is the random id an operation generates when it needs
one. The last three belong to the environment: it decides in which order hash maps are iterated over
and when there is room in a queue.
-/
inductive Op where
  | register (agent : Uuid) (historyKnown : Bool) (fresh : Uuid)
  | cleanup (agent conn : Uuid)
  | invalidate (agent : Uuid) (reason : String)
  | deliver (conn : Uuid) (now : Nat)
  | frame (agent conn : Uuid) (geometry : Option Geometry) (now : Nat)
  | moduleReport (agent conn : Uuid) (value : Json)
  | disableAck (agent conn : Uuid) (value : Json) (acknowledged : Bool)
  | requestDisable (agent : Uuid) (user : AuthUser) (m : Module) (expectedRevision : Nat)
      (commandId : Uuid) (now : Nat) (readBack : Bool)
  | replayDisable (agent conn commandId : Uuid) (now : Nat) (marked : Bool)
  | syncCapture (agent fresh : Uuid)
  | beginSession (agent session user : Uuid) (prefs : MjpegViewerPrefs)
      (requestedMonitor : Option Nat) (now : Nat) (fresh : Uuid)
  | endSession (agent session : Uuid) (user : Option Uuid) (fresh : Uuid)
  | leaseMessage (viewer : Uuid) (user : AuthUser) (value : Json) (now : Nat) (fresh : Uuid)
  | viewerCommand (agent viewer : Uuid) (user : AuthUser) (token : Option Uuid) (cmd : Json)
      (now : Nat)
  | viewerGone (viewer : Uuid)
  | expire (now : Nat)
  | sendCommand (agent : Uuid) (cmd : Json)
  | finishSend (index : Nat)
  | clipboardRequest (agent : Uuid) (user : AuthUser) (request : ClipboardRequest) (now : Nat)
      (fresh : Uuid)
  | clipboardTick (id : Uuid) (now : Nat)
  | clipboardReceive (id : Uuid) (now : Nat)
  | clipboardDrop (id : Uuid)
  | clipboardResult (agent conn : Uuid) (value : Json) (now : Nat)
  | provideRoom (room : List Bool)
  | reorderSessions (session : Uuid)
  | reorderLeases (agent : Uuid)

namespace AppState

-- The part of `viewer_message` that decides how a command reaches the agent.
def viewerCommand (s : AppState) (agent viewer : Uuid) (user : AuthUser) (token : Option Uuid)
    (cmd : Json) (now : Nat) : AppState :=
  if !user.isOperator then
    s
  else if isRemoteInput cmd.kind then
    (s.sendViewerInput agent viewer user token cmd now).2
  else
    (s.authorizeSend agent cmd).toOption.getD s

def exec (s : AppState) : Op → AppState
  | .register agent historyKnown fresh => s.registerConnection agent historyKnown fresh
  | .cleanup agent conn => s.cleanupConnection agent conn
  | .invalidate agent reason => s.invalidateAgentConnection agent reason
  | .deliver conn now => s.deliver conn now
  | .frame agent conn geometry now => s.ingestFrame agent conn geometry now
  | .moduleReport agent conn value => (s.acceptModuleReport agent conn value).2
  | .disableAck agent conn value acknowledged =>
    (s.acceptModuleDisableAck agent conn value acknowledged).2
  | .requestDisable agent user m expectedRevision commandId now readBack =>
    (s.requestDisable agent user m expectedRevision commandId now readBack).2
  | .replayDisable agent conn commandId now marked =>
    s.replayModuleDisable agent conn commandId now marked
  | .syncCapture agent fresh => s.syncMjpegCapture agent fresh
  | .beginSession agent session user prefs requestedMonitor now fresh =>
    (s.beginMjpegSession agent session user prefs requestedMonitor now fresh).2
  | .endSession agent session user fresh => (s.endMjpegSession agent session user fresh).2
  | .leaseMessage viewer user value now fresh =>
    (s.controlLeaseMessage viewer user value now fresh).2
  | .viewerCommand agent viewer user token cmd now => s.viewerCommand agent viewer user token cmd now
  | .viewerGone viewer => s.revokeViewerControl viewer
  | .expire now => s.expireControl now
  | .sendCommand agent cmd => (s.authorizeSend agent cmd).toOption.getD s
  | .finishSend index => (s.finishSend index).2
  | .clipboardRequest agent user request now fresh =>
    (s.clipboardExchange agent user request now fresh).2
  | .clipboardTick id now => s.clipboardTick id now
  | .clipboardReceive id now => (s.clipboardReceive id now).2
  | .clipboardDrop id => s.dropWaiter id
  | .clipboardResult agent conn value now => s.completeClipboard agent conn value now
  | .provideRoom room => s.setRoom room
  | .reorderSessions session => { s with mjpegSessions := Table.moveToFront session s.mjpegSessions }
  | .reorderLeases agent => { s with sessions := Table.moveToFront agent s.sessions }

end AppState

def Op.fresh? : Op → Option Uuid
  | .register _ _ fresh => some fresh
  | .syncCapture _ fresh => some fresh
  | .beginSession _ _ _ _ _ _ fresh => some fresh
  | .endSession _ _ _ fresh => some fresh
  | .leaseMessage _ _ _ _ fresh => some fresh
  | .clipboardRequest _ _ _ _ fresh => some fresh
  | _ => none

-- A random id is neither the nil id nor one that was generated before.
def AppState.Fresh (s : AppState) (op : Op) : Prop :=
  ∀ id ∈ op.fresh?, id ≠ Uuid.nil ∧ id ∉ s.minted

instance (s : AppState) (op : Op) : Decidable (s.Fresh op) :=
  inferInstanceAs (Decidable (∀ id ∈ op.fresh?, id ≠ Uuid.nil ∧ id ∉ s.minted))

def Step (s t : AppState) : Prop :=
  ∃ op, s.Fresh op ∧ t = s.exec op

def Runs : AppState → AppState → Prop :=
  Relation.ReflTransGen Step

def Reachable (s : AppState) : Prop :=
  Runs AppState.init s

namespace AppState

def run (s : AppState) (ops : List Op) : AppState :=
  ops.foldl exec s

def isFresh (s : AppState) (op : Op) : Bool :=
  match op.fresh? with
  | none => true
  | some id => id != Uuid.nil && !s.minted.contains id

theorem isFresh_iff (s : AppState) (op : Op) : s.isFresh op = true ↔ s.Fresh op := by
  unfold isFresh Fresh
  cases op.fresh? <;> simp

def freshRun (s : AppState) : List Op → Bool
  | [] => true
  | op :: ops => s.isFresh op && (s.exec op).freshRun ops

theorem runs_run {s : AppState} {ops : List Op} (h : s.freshRun ops = true) : Runs s (s.run ops) := by
  induction ops generalizing s with
  | nil => exact Relation.ReflTransGen.refl
  | cons op ops ih =>
    simp only [freshRun, Bool.and_eq_true] at h
    exact Relation.ReflTransGen.head ⟨op, (s.isFresh_iff op).mp h.1, rfl⟩ (ih h.2)

theorem reachable_run {ops : List Op} (h : init.freshRun ops = true) : Reachable (init.run ops) :=
  runs_run h

end AppState

end Vantyr
