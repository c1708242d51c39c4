import Mathlib.Data.List.Count
import Mathlib.Logic.Relation
import Vantyr.Server.Enrollment.Claims

/-!
This module contains enrollment as a system (`server/src/agents/enrollment`, and the poll loop of
`agent/src/connection/enrollment`): an approval looks up the binding of its claim, commits its
transaction and publishes the token in separate steps, and a poll of an agent loads the claim and looks
for the token in separate steps. The gate of a device only forbids some of the orders that are admitted
here. The log is not part of the program.
-/

namespace Vantyr

namespace Enrollment

structure PendingToken where
  agentId : Uuid
  agentName : String
  agentToken : String
  deriving DecidableEq, Repr

inductive ApprovalPhase where
  | found (bound : Option Uuid)
  | gated (bound : Option Uuid)
  | issued (token : PendingToken)
  deriving DecidableEq, Repr

structure Approval where
  claimId : Uuid
  agentName : Option String
  phase : ApprovalPhase
  deriving DecidableEq, Repr

inductive Polling where
  | waiting (left : Nat)
  | asked (left : Nat)
  | loaded (left : Nat) (row : Option Claim)
  | adopted (agentToken agentName : String)
  | failed (message : String)
  | timedOut
  deriving DecidableEq, Repr

structure PollLoop where
  requestedName : String
  polling : Polling
  deriving DecidableEq, Repr

inductive Event where
  | issued (invite : Uuid) (uses : Int)
  | approved (claim : Uuid) (invite : Option Uuid)
  | rejected (claim : Uuid)
  | delivered (claim : Uuid) (agentToken : String)
  deriving DecidableEq, Repr

structure System where
  db : Database
  now : Nat
  approvals : AList (fun _ : Nat => Approval)
  pendingTokens : AList (fun _ : Uuid => PendingToken)
  loops : AList (fun _ : Uuid => PollLoop)
  log : List Event

inductive PollResponse where
  | notFound
  | claim (status : ClaimStatus) (agentName agentToken error : Option String)
  deriving DecidableEq, Repr

def retrieved : String :=
  "credential was already retrieved; start a new pairing if this device did not save it"

def pollResponse (row : Option Claim) (issued : Option PendingToken) : PollResponse :=
  match row with
  | none => .notFound
  | some claim =>
    match claim.status with
    | .pending => .claim .pending none none none
    | .approved =>
      match issued with
      | some token => .claim .approved (some token.agentName) (some token.agentToken) none
      | none => .claim .approved (some claim.requestedName) none (some retrieved)
    | status => .claim status none none (some (claim.error.getD "Rejected by admin"))

def nonBlank (text : Option String) : Option String :=
  (text.map Text.trim).filter (· ≠ "")

-- What the agent makes of a response, with `left` polls to go.
def handlePoll (requestedName : String) (left : Nat) : PollResponse → Polling
  | .notFound => .failed "Pairing poll failed HTTP 404"
  | .claim .pending _ _ _ => if left = 0 then .timedOut else .waiting left
  | .claim .approved agentName agentToken error =>
    match nonBlank agentToken with
    | none => .failed (error.getD "Approval did not include a token")
    | some token => .adopted token ((nonBlank agentName).getD requestedName)
  | .claim .rejected _ _ error => .failed (error.getD "Rejected by admin")
  | .claim .expired _ _ error => .failed (error.getD "Pairing code expired")

inductive Op where
  | createToken (uses : Int) (expiresAt : Option Nat) (draws : List String) (fresh : Uuid)
  | revokeToken (id : Uuid)
  | revokeAll
  | revokeCredentials (agentId : Uuid)
  | replaceInstallation (agentId : Uuid) (draws : List String) (fresh : Uuid)
  | deleteAgents (ids : List Uuid)
  | dropTokens (ids : List Uuid)
  | createClaim (input : ClaimInput) (fresh : Uuid)
  | beginApproval (handler : Nat) (claimId : Uuid) (agentName : Option String)
  | recheckApproval (handler : Nat)
  | commitApproval (handler : Nat) (token salt : String) (fresh : Uuid)
  | publishApproval (handler : Nat)
  | rejectClaim (claimId : Uuid) (error : Option String)
  | tick (elapsed : Nat)
  | startPolling (claimId : Uuid) (requestedName : String)
  | poll (claimId : Uuid)
  | loadClaim (claimId : Uuid)
  | answerPoll (claimId : Uuid)

namespace System

variable (sha256Hex : String → String) (hashPassword : String → String → String)

def init : System where
  db := .empty
  now := 0
  approvals := ∅
  pendingTokens := ∅
  loops := ∅
  log := []

def createToken (s : System) (uses : Int) (expiresAt : Option Nat) (draws : List String)
    (fresh : Uuid) : System :=
  match s.db.createEnrollmentToken sha256Hex uses expiresAt draws fresh with
  | none => s
  | some db => { s with db, log := s.log ++ [.issued fresh (max uses 1)] }

def replaceInstallation (s : System) (agentId : Uuid) (draws : List String) (fresh : Uuid)
    : System :=
  match s.db.createReplacementToken sha256Hex s.now agentId draws fresh with
  | none => s
  | some db => { s with db, log := s.log ++ [.issued fresh 1] }

-- Whoever presented a code that approves by itself begins an approval next.
def createClaim (s : System) (input : ClaimInput) (fresh : Uuid) : System :=
  match s.db.createClaim sha256Hex s.now input fresh with
  | .error _ => s
  | .ok (db, _, _) => { s with db }

def beginApproval (s : System) (handler : Nat) (claimId : Uuid) (agentName : Option String)
    : System :=
  { s with
    approvals := s.approvals.insert handler {
      claimId
      agentName
      phase := .found (s.db.claimBoundAgentId s.now claimId)
    } }

-- Holding the gate of the bound agent, the binding is looked up again.
def recheckApproval (s : System) (handler : Nat) : System :=
  match s.approvals.lookup handler with
  | some ⟨claimId, agentName, .found bound⟩ =>
    if bound.isSome ∧ s.db.claimBoundAgentId s.now claimId ≠ bound then
      { s with approvals := s.approvals.erase handler }
    else
      { s with approvals := s.approvals.insert handler ⟨claimId, agentName, .gated bound⟩ }
  | _ => s

def commitApproval (s : System) (handler : Nat) (token salt : String) (fresh : Uuid) : System :=
  match s.approvals.lookup handler with
  | some ⟨claimId, agentName, .gated bound⟩ =>
    match s.db.approveClaim s.now claimId agentName bound (hashPassword token salt) fresh with
    | .error _ => { s with approvals := s.approvals.erase handler }
    | .ok (db, claim, agentId, name) =>
      { s with
        db
        approvals := s.approvals.insert handler ⟨claimId, agentName, .issued ⟨agentId, name, token⟩⟩
        log := s.log ++ [.approved claimId claim.inviteId] }
  | _ => s

def publishApproval (s : System) (handler : Nat) : System :=
  match s.approvals.lookup handler with
  | some ⟨claimId, _, .issued token⟩ =>
    { s with
      approvals := s.approvals.erase handler
      pendingTokens := s.pendingTokens.insert claimId token }
  | _ => s

def rejectClaim (s : System) (claimId : Uuid) (error : Option String) : System :=
  match s.db.rejectClaim claimId error with
  | none => s
  | some db => { s with db, log := s.log ++ [.rejected claimId] }

def setPolling (s : System) (claimId : Uuid) (loop : PollLoop) (polling : Polling) : System :=
  { s with loops := s.loops.insert claimId { loop with polling } }

def poll (s : System) (claimId : Uuid) : System :=
  match s.loops.lookup claimId with
  | some ⟨name, .waiting (left + 1)⟩ => s.setPolling claimId ⟨name, .waiting (left + 1)⟩ (.asked left)
  | _ => s

def loadClaim (s : System) (claimId : Uuid) : System :=
  match s.loops.lookup claimId with
  | some ⟨name, .asked left⟩ =>
    s.setPolling claimId ⟨name, .asked left⟩ (.loaded left (s.db.claims.lookup claimId))
  | _ => s

-- The token is taken out of the table when the claim was loaded as approved.
def answerPoll (s : System) (claimId : Uuid) : System :=
  match s.loops.lookup claimId with
  | some ⟨name, .loaded left row⟩ =>
    let issued := s.pendingTokens.lookup claimId
    let answered := s.setPolling claimId ⟨name, .loaded left row⟩
      (handlePoll name left (pollResponse row issued))
    match row.map Claim.status, issued with
    | some .approved, some token =>
      { answered with
        pendingTokens := s.pendingTokens.erase claimId
        log := s.log ++ [.delivered claimId token.agentToken] }
    | _, _ => answered
  | _ => s

def exec (s : System) : Op → System
  | .createToken uses expiresAt draws fresh => s.createToken sha256Hex uses expiresAt draws fresh
  | .revokeToken id => { s with db := s.db.revokeEnrollmentToken s.now id }
  | .revokeAll => { s with db := s.db.revokeAllEnrollmentTokens s.now }
  | .revokeCredentials agentId => { s with db := s.db.revokeAgentCredentials s.now agentId }
  | .replaceInstallation agentId draws fresh => s.replaceInstallation sha256Hex agentId draws fresh
  | .deleteAgents ids => { s with db := s.db.deleteAgents s.now ids }
  | .dropTokens ids =>
    { s with
      pendingTokens := Table.retain (fun _ token => !ids.contains token.agentId) s.pendingTokens }
  | .createClaim input fresh => s.createClaim sha256Hex input fresh
  | .beginApproval handler claimId agentName => s.beginApproval handler claimId agentName
  | .recheckApproval handler => s.recheckApproval handler
  | .commitApproval handler token salt fresh =>
    s.commitApproval hashPassword handler token salt fresh
  | .publishApproval handler => s.publishApproval handler
  | .rejectClaim claimId error => s.rejectClaim claimId error
  | .tick elapsed => { s with now := s.now + elapsed }
  | .startPolling claimId requestedName =>
    { s with loops := s.loops.insert claimId ⟨requestedName, .waiting 300⟩ }
  | .poll claimId => s.poll claimId
  | .loadClaim claimId => s.loadClaim claimId
  | .answerPoll claimId => s.answerPoll claimId

def isTokenCharacter (c : Char) : Bool :=
  Text.isAsciiAlphanumeric c || c = '-' || c = '_'

-- Generated ids are new, and so is whoever begins an approval or a loop; an agent polls its own claim.
def Fresh (s : System) : Op → Prop
  | .createToken _ _ _ fresh => s.db.invites.lookup fresh = none
  | .replaceInstallation _ _ fresh => s.db.invites.lookup fresh = none
  | .createClaim _ fresh => s.db.claims.lookup fresh = none
  | .beginApproval handler _ _ => s.approvals.lookup handler = none
  | .commitApproval _ token _ fresh =>
    s.db.agents.lookup fresh = none ∧ token.toList.length = 43
      ∧ token.toList.all isTokenCharacter = true
  | .startPolling claimId _ =>
    s.loops.lookup claimId = none ∧ (s.db.claims.lookup claimId).isSome = true
  | _ => True

instance : (s : System) → (op : Op) → Decidable (s.Fresh op)
  | s, .createToken _ _ _ fresh => inferInstanceAs (Decidable (s.db.invites.lookup fresh = none))
  | s, .replaceInstallation _ _ fresh =>
    inferInstanceAs (Decidable (s.db.invites.lookup fresh = none))
  | s, .createClaim _ fresh => inferInstanceAs (Decidable (s.db.claims.lookup fresh = none))
  | s, .beginApproval handler _ _ => inferInstanceAs (Decidable (s.approvals.lookup handler = none))
  | s, .commitApproval _ token _ fresh =>
    inferInstanceAs (Decidable (s.db.agents.lookup fresh = none ∧ token.toList.length = 43
      ∧ token.toList.all isTokenCharacter = true))
  | s, .startPolling claimId _ =>
    inferInstanceAs (Decidable (s.loops.lookup claimId = none
      ∧ (s.db.claims.lookup claimId).isSome = true))
  | _, .revokeToken _ | _, .revokeAll | _, .revokeCredentials _ | _, .deleteAgents _
  | _, .dropTokens _ | _, .recheckApproval _ | _, .publishApproval _ | _, .rejectClaim _ _
  | _, .tick _ | _, .poll _ | _, .loadClaim _ | _, .answerPoll _ => instDecidableTrue

def Step (s t : System) : Prop :=
  ∃ op, s.Fresh op ∧ t = s.exec sha256Hex hashPassword op

def Reachable (s : System) : Prop :=
  Relation.ReflTransGen (Step sha256Hex hashPassword) init s

def run (s : System) (ops : List Op) : System :=
  ops.foldl (exec sha256Hex hashPassword) s

-- Whether every step of a run is fresh, and meets a condition.
def checkedRun (condition : System → Op → Bool) (s : System) : List Op → Bool
  | [] => true
  | op :: ops =>
    decide (s.Fresh op) && condition s op
      && checkedRun condition (s.exec sha256Hex hashPassword op) ops

-- The runs all of whose steps meet a condition.
inductive RunsIf (condition : System → Op → Prop) : System → System → Prop where
  | refl (s : System) : RunsIf condition s s
  | step {s t : System} {op : Op} (h : RunsIf condition s t) (hfresh : t.Fresh op)
      (hcondition : condition t op)
      : RunsIf condition s (t.exec sha256Hex hashPassword op)

variable {sha256Hex hashPassword}

theorem RunsIf.reachable {condition : System → Op → Prop} {s : System}
    (h : RunsIf sha256Hex hashPassword condition init s) : Reachable sha256Hex hashPassword s := by
  induction h with
  | refl => exact .refl
  | step _ hfresh _ ih => exact .tail ih ⟨_, hfresh, rfl⟩

theorem runsIf_run {condition : System → Op → Prop} {check : System → Op → Bool} {s t : System}
    {ops : List Op} (hcheck : ∀ s op, check s op = true → condition s op)
    (hs : RunsIf sha256Hex hashPassword condition s t)
    (h : checkedRun sha256Hex hashPassword check t ops = true)
    : RunsIf sha256Hex hashPassword condition s (t.run sha256Hex hashPassword ops) := by
  induction ops generalizing t with
  | nil => exact hs
  | cons op ops ih =>
    rw [checkedRun, Bool.and_eq_true, Bool.and_eq_true, decide_eq_true_eq] at h
    exact ih (hs.step h.1.1 (hcheck _ _ h.1.2)) h.2

theorem reachable_run {ops : List Op}
    (h : checkedRun sha256Hex hashPassword (fun _ _ => true) init ops = true)
    : Reachable sha256Hex hashPassword (init.run sha256Hex hashPassword ops) :=
  (runsIf_run (fun _ _ _ => trivial) (.refl _) h : RunsIf _ _ (fun _ _ => True) _ _).reachable

end System

end Enrollment

end Vantyr
