import Vantyr.Data.Table
import Vantyr.Server.Sessions

/-!
This module contains the runs of the lease table: its operations, in any order and on a clock that does
not go back, and a ledger of what they have returned so far. Every operation is a sequence of changes to
single leases.
-/

namespace Vantyr

inductive LeaseOp where
  | acquire (agent : Uuid) (owner : LeaseOwner) (requestedTtl now : Nat) (fresh : Uuid)
  | heartbeat (agent : Uuid) (owner : LeaseOwner) (token : Uuid) (requestedTtl now : Nat)
  | release (agent : Uuid) (owner : LeaseOwner) (token : Uuid) (now : Nat)
  | authorize (agent : Uuid) (owner : LeaseOwner) (token : Uuid) (now : Nat)
  | authorizeAndTrack (agent : Uuid) (owner : LeaseOwner) (token : Uuid) (cmd : Json) (now : Nat)
  | expire (now : Nat)
  | expireAgent (agent : Uuid) (now : Nat)
  | revokeViewer (viewer : Uuid)
  | revokeAgent (agent agentConnectionId : Uuid)
  -- The order of a hash map is not under the control of the program.
  | reorder (agent : Uuid)

def Transition.withGrant {α : Type} (t : Transition α) (grant : α → Option LeaseGrant)
    : Transition (Option LeaseGrant) :=
  { result := t.result.map grant, cleanup := t.cleanup, sessions := t.sessions }

namespace LeaseOp

def now? : LeaseOp → Option Nat
  | .acquire _ _ _ now _ | .heartbeat _ _ _ _ now | .release _ _ _ now | .authorize _ _ _ now
  | .authorizeAndTrack _ _ _ _ now | .expire now | .expireAgent _ now => some now
  | .revokeViewer _ | .revokeAgent _ _ | .reorder _ => none

def run (sessions : ControlSessions) : LeaseOp → Transition (Option LeaseGrant)
  | .acquire agent owner requestedTtl now fresh =>
    (sessions.acquire agent owner requestedTtl now fresh).withGrant some
  | .heartbeat agent owner token requestedTtl now =>
    (sessions.heartbeat agent owner token requestedTtl now).withGrant some
  | .release agent owner token now => (sessions.release agent owner token now).withGrant (fun _ => none)
  | .authorize agent owner token now =>
    (sessions.authorize agent owner token now).withGrant (fun _ => none)
  | .authorizeAndTrack agent owner token cmd now =>
    (sessions.authorizeAndTrack agent owner token cmd now).withGrant (fun _ => none)
  | .expire now => returned (sessions.expire now)
  | .expireAgent agent now => returned (sessions.expireAgent agent now)
  | .revokeViewer viewer => returned (sessions.revokeViewer viewer)
  | .revokeAgent agent agentConnectionId => returned (sessions.revokeAgent agent agentConnectionId)
  | .reorder agent => returned ([], Table.moveToFront agent sessions)
where
  returned (t : List LeaseCleanup × ControlSessions) : Transition (Option LeaseGrant) :=
    { result := .ok none, cleanup := t.1, sessions := t.2 }

-- The token in whose name an operation went through.
def authorised (sessions : ControlSessions) (op : LeaseOp) : Option Uuid :=
  match op, (op.run sessions).result with
  | .heartbeat _ _ token _ _, .ok _ | .release _ _ token _, .ok _ | .authorize _ _ token _, .ok _
  | .authorizeAndTrack _ _ token _ _, .ok _ => some token
  | _, _ => none

-- The grant that was made or extended, and when. An owner that asks again is only told the grant.
def issues (sessions : ControlSessions) (op : LeaseOp) : Option (LeaseGrant × Nat) :=
  match op, (op.run sessions).result with
  | .acquire _ _ _ now fresh, .ok (some grant) => if grant.token = fresh then some (grant, now) else none
  | .heartbeat _ _ _ _ now, .ok (some grant) => some (grant, now)
  | _, _ => none

def accepts (sessions : ControlSessions) (op : LeaseOp) : Option (Uuid × Json) :=
  match op, (op.run sessions).result with
  | .authorizeAndTrack _ _ token cmd _, .ok _ => some (token, cmd)
  | _, _ => none

end LeaseOp

namespace LeaseOp

-- Without an authorization all that happens is that an expired lease is removed.
section Denied

variable {sessions : ControlSessions} {agent : Uuid} {owner : LeaseOwner} {token : Uuid} {now : Nat}
  {e : LeaseError} (he : (sessions.authorize agent owner token now).result = .error e)

include he

theorem heartbeat_denied (requestedTtl : Nat)
    : (heartbeat agent owner token requestedTtl now).run sessions
        = {
          result := .error e
          cleanup := (sessions.expireAgent agent now).1
          sessions := (sessions.expireAgent agent now).2
        } := by
  change (sessions.heartbeat agent owner token requestedTtl now).withGrant some = _
  unfold ControlSessions.heartbeat Transition.withGrant
  simp only [he]
  rfl

theorem release_denied
    : (release agent owner token now).run sessions
        = {
          result := .error e
          cleanup := (sessions.expireAgent agent now).1
          sessions := (sessions.expireAgent agent now).2
        } := by
  change (sessions.release agent owner token now).withGrant (fun _ => none) = _
  unfold ControlSessions.release Transition.withGrant
  simp only [he]
  rfl

theorem authorizeAndTrack_denied (cmd : Json)
    : (authorizeAndTrack agent owner token cmd now).run sessions
        = {
          result := .error e
          cleanup := (sessions.expireAgent agent now).1
          sessions := (sessions.expireAgent agent now).2
        } := by
  change (sessions.authorizeAndTrack agent owner token cmd now).withGrant (fun _ => none) = _
  unfold ControlSessions.authorizeAndTrack Transition.withGrant
  simp only [he]
  rfl

end Denied

end LeaseOp

/--
The table with its history: the time, every cleanup that was returned, the last grant or heartbeat of
each token, and the commands that were accepted under it.
-/
structure Ledger where
  sessions : ControlSessions
  now : Nat
  cleanups : List LeaseCleanup
  issued : Uuid → Option (LeaseGrant × Nat)
  accepted : Uuid → List Json

namespace Ledger

def init : Ledger :=
  { sessions := ∅, now := 0, cleanups := [], issued := fun _ => none, accepted := fun _ => [] }

def issue (l : Ledger) (grant : LeaseGrant) (now : Nat) : Ledger :=
  { l with issued := Function.update l.issued grant.token (some (grant, now)) }

def accept (l : Ledger) (token : Uuid) (cmd : Json) : Ledger :=
  { l with accepted := Function.update l.accepted token (l.accepted token ++ [cmd]) }

def step (l : Ledger) (op : LeaseOp) : Ledger :=
  let t := op.run l.sessions
  let l' := {
    l with
    sessions := t.sessions
    now := op.now?.getD l.now
    cleanups := l.cleanups ++ t.cleanup
  }
  let l' := ((op.issues l.sessions).map (fun (grant, now) => l'.issue grant now)).getD l'
  ((op.accepts l.sessions).map (fun (token, cmd) => l'.accept token cmd)).getD l'

-- The clock does not go back, and a token that is drawn is new.
def Admits (l : Ledger) (op : LeaseOp) : Prop :=
  (∀ now ∈ op.now?, l.now ≤ now)
    ∧ ∀ agent owner requestedTtl now fresh,
      op = .acquire agent owner requestedTtl now fresh → l.issued fresh = none

inductive Run : Ledger → Ledger → Prop where
  | refl (l : Ledger) : Run l l
  | step {l l' : Ledger} (h : Run l l') {op : LeaseOp} (hadmits : l'.Admits op) : Run l (l'.step op)

def Reachable (l : Ledger) : Prop :=
  Run init l

/-!
The changes to single leases.
-/

inductive Change (l : Ledger) : Ledger → Prop where
  | wait {now : Nat} (hnow : l.now ≤ now) : Change l { l with now }
  | reorder (agent : Uuid) : Change l { l with sessions := Table.moveToFront agent l.sessions }
  | ended {agent : Uuid} {lease : Lease} (reason : TeardownReason)
      (hlease : l.sessions.lookup agent = some lease)
      : Change l {
          l with
          sessions := l.sessions.erase agent
          cleanups := l.cleanups ++ [ControlSessions.cleanup agent reason lease]
        }
  | granted {agent : Uuid} {grant : LeaseGrant} (hnone : l.sessions.lookup agent = none)
      (hfresh : l.issued grant.token = none) (hbound : grant.expiresAt ≤ l.now + maxLeaseTtl)
      : Change l (({
          l with sessions := l.sessions.insert agent { grant, held := HeldInput.default }
        } : Ledger).issue grant l.now)
  | renewed {agent : Uuid} {lease : Lease} {expiresAt : Nat}
      (hlease : l.sessions.lookup agent = some lease) (hbound : expiresAt ≤ l.now + maxLeaseTtl)
      : Change l (({
          l with
          sessions := l.sessions.insert agent { lease with grant := { lease.grant with expiresAt } }
        } : Ledger).issue { lease.grant with expiresAt } l.now)
  | tracked {agent : Uuid} {lease : Lease} {cmd : Json} {held : HeldInput}
      (hlease : l.sessions.lookup agent = some lease) (htrack : lease.held.track cmd = .ok held)
      : Change l (({
          l with sessions := l.sessions.insert agent { lease with held }
        } : Ledger).accept lease.grant.token cmd)

abbrev Changes : Ledger → Ledger → Prop :=
  Relation.ReflTransGen Change

/-!
The operations as sequences of changes.
-/

def after (l : Ledger) (t : List LeaseCleanup × ControlSessions) : Ledger :=
  { l with sessions := t.2, cleanups := l.cleanups ++ t.1 }

theorem after_nil (l : Ledger) : l.after ([], l.sessions) = l := by
  simp [after]

theorem changes_remove (l : Ledger) (agent : Uuid) (reason : TeardownReason)
    : Changes l (l.after (l.sessions.remove agent reason)) := by
  unfold ControlSessions.remove
  cases hlease : l.sessions.lookup agent with
  | none =>
    rw [AList.lookup_eq_none] at hlease
    have herase : l.sessions.erase agent = l.sessions := by
      apply AList.ext
      exact List.kerase_of_notMem_keys hlease
    rw [herase]
    simp only [Option.map_none, Option.toList_none, after_nil]
    exact .refl
  | some lease => exact .single (.ended reason hlease)

theorem changes_removeAll (l : Ledger) (reason : TeardownReason) (agents : List Uuid)
    : Changes l (l.after (l.sessions.removeAll reason agents)) := by
  induction agents generalizing l with
  | nil =>
    unfold ControlSessions.removeAll
    rw [after_nil]
  | cons agent agents ih =>
    have hrest := ih (l.after (l.sessions.remove agent reason))
    unfold after at hrest
    rw [List.append_assoc] at hrest
    exact (l.changes_remove agent reason).trans hrest

theorem changes_expireAgent (l : Ledger) (agent : Uuid) (now : Nat)
    : Changes l (l.after (l.sessions.expireAgent agent now)) := by
  rcases l.sessions.expireAgent_cases agent now with ⟨_, _, _, heq⟩ | ⟨heq, _⟩
  . rw [heq]
    exact l.changes_remove agent .expired
  . rw [heq, after_nil]

theorem changes_revokeAgent (l : Ledger) (agent agentConnectionId : Uuid)
    : Changes l (l.after (l.sessions.revokeAgent agent agentConnectionId)) := by
  unfold ControlSessions.revokeAgent
  split
  . exact l.changes_remove agent .agentDisconnected
  . rw [after_nil]

section Operations

variable {l : Ledger} {agent : Uuid} {owner : LeaseOwner} {token : Uuid} {now : Nat}

def expiring (l : Ledger) (agent : Uuid) (now : Nat) : Ledger :=
  ({ l with now } : Ledger).after (l.sessions.expireAgent agent now)

theorem changes_expiring (hnow : l.now ≤ now) (agent : Uuid) : Changes l (l.expiring agent now) :=
  .head (.wait hnow) (({ l with now } : Ledger).changes_expireAgent agent now)

theorem deadline_le (now requestedTtl : Nat)
    : ControlSessions.deadline now requestedTtl ≤ now + maxLeaseTtl := by
  unfold ControlSessions.deadline minLeaseTtl maxLeaseTtl
  omega

theorem step_error {op : LeaseOp} {e : LeaseError} {t : List LeaseCleanup × ControlSessions}
    (h : op.run l.sessions = { result := .error e, cleanup := t.1, sessions := t.2 })
    : l.step op = ({ l with now := op.now?.getD l.now } : Ledger).after t := by
  unfold step LeaseOp.issues LeaseOp.accepts
  rw [h]
  cases op <;> rfl

theorem lookup_expireAgent {lease : Lease} {sessions : ControlSessions}
    (h : (sessions.expireAgent agent now).2.lookup agent = some lease)
    : sessions.lookup agent = some lease := by
  rcases sessions.expireAgent_cases agent now with ⟨_, _, _, heq⟩ | ⟨heq, _⟩
  . rw [heq] at h
    unfold ControlSessions.remove at h
    rw [AList.lookup_erase] at h
    cases h
  . rw [heq] at h
    exact h

theorem changes_acquire {requestedTtl : Nat} {fresh : Uuid} (hnow : l.now ≤ now)
    (hfresh : l.issued fresh = none)
    (hissued : ∀ lease, l.sessions.lookup agent = some lease → l.issued lease.grant.token ≠ none)
    : Changes l (l.step (.acquire agent owner requestedTtl now fresh)) := by
  apply (changes_expiring hnow agent).trans
  unfold step LeaseOp.issues LeaseOp.accepts LeaseOp.run ControlSessions.acquire Transition.withGrant
  dsimp only
  cases hlease : (l.sessions.expireAgent agent now).2.lookup agent with
  | none =>
    have hgranted := @Change.granted (l.expiring agent now) agent
      { token := fresh, owner, expiresAt := ControlSessions.deadline now requestedTtl }
      hlease hfresh (deadline_le now requestedTtl)
    simpa [expiring, after, Except.map, LeaseOp.now?] using Relation.ReflTransGen.single hgranted
  | some existing =>
    dsimp only
    split
    . have hne : existing.grant.token ≠ fresh := by
        intro heq
        rw [← heq] at hfresh
        exact hissued existing (lookup_expireAgent hlease) hfresh
      simp only [Except.map, hne, if_false]
      exact .refl
    . exact .refl

theorem changes_heartbeat {requestedTtl : Nat} (hnow : l.now ≤ now)
    : Changes l (l.step (.heartbeat agent owner token requestedTtl now)) := by
  rcases l.sessions.authorize_cases agent now owner token with
    ⟨⟨e, he⟩, _⟩ | ⟨lease, hlease, rfl, rfl, _, heq⟩
  . rw [step_error (LeaseOp.heartbeat_denied he requestedTtl)]
    exact changes_expiring hnow agent
  . have hrenewed := @Change.renewed { l with now } agent lease
      (ControlSessions.deadline now requestedTtl) hlease (deadline_le now requestedTtl)
    refine .head (.wait hnow) (.single ?_)
    unfold step LeaseOp.issues LeaseOp.accepts LeaseOp.run ControlSessions.heartbeat
      Transition.withGrant
    simpa [heq, hlease, Except.map, LeaseOp.now?] using hrenewed

theorem changes_release (hnow : l.now ≤ now)
    : Changes l (l.step (.release agent owner token now)) := by
  rcases l.sessions.authorize_cases agent now owner token with
    ⟨⟨e, he⟩, _⟩ | ⟨lease, hlease, rfl, rfl, _, heq⟩
  . rw [step_error (LeaseOp.release_denied he)]
    exact changes_expiring hnow agent
  . have hremove := ({ l with now } : Ledger).changes_remove agent .released
    refine .head (.wait hnow) ?_
    unfold step LeaseOp.issues LeaseOp.accepts LeaseOp.run ControlSessions.release
      Transition.withGrant
    simpa [heq, Except.map, LeaseOp.now?, after] using hremove

theorem changes_track {cmd : Json} (hnow : l.now ≤ now)
    : Changes l (l.step (.authorizeAndTrack agent owner token cmd now)) := by
  rcases l.sessions.authorize_cases agent now owner token with
    ⟨⟨e, he⟩, _⟩ | ⟨lease, hlease, rfl, rfl, _, heq⟩
  . rw [step_error (LeaseOp.authorizeAndTrack_denied he cmd)]
    exact changes_expiring hnow agent
  . refine .head (.wait hnow) ?_
    unfold step LeaseOp.issues LeaseOp.accepts LeaseOp.run ControlSessions.authorizeAndTrack
      Transition.withGrant
    cases htrack : lease.held.track cmd with
    | error e =>
      simp [heq, hlease, htrack, Except.map, LeaseOp.now?]
      rfl
    | ok held =>
      have htracked := @Change.tracked { l with now } agent lease cmd held hlease htrack
      simpa [heq, hlease, htrack, Except.map, LeaseOp.now?] using Relation.ReflTransGen.single htracked

/--
Every operation is a sequence of changes.
-/
theorem step_changes {op : LeaseOp} (h : l.Admits op)
    (hissued : ∀ agent lease, l.sessions.lookup agent = some lease → l.issued lease.grant.token ≠ none)
    : Changes l (l.step op) := by
  cases op with
  | acquire agent owner requestedTtl now fresh =>
    exact changes_acquire (h.1 now rfl) (h.2 agent owner requestedTtl now fresh rfl) (hissued agent)
  | heartbeat agent owner token requestedTtl now => exact changes_heartbeat (h.1 now rfl)
  | release agent owner token now => exact changes_release (h.1 now rfl)
  | authorize agent owner token now =>
    have hsame : l.step (.authorize agent owner token now) = l.expiring agent now := by
      unfold step LeaseOp.issues LeaseOp.accepts
      dsimp only
      cases ((LeaseOp.authorize agent owner token now).run l.sessions).result <;> rfl
    rw [hsame]
    exact changes_expiring (h.1 now rfl) agent
  | authorizeAndTrack agent owner token cmd now => exact changes_track (h.1 now rfl)
  | expire now =>
    exact .head (.wait (h.1 now rfl)) (({ l with now } : Ledger).changes_removeAll _ _)
  | expireAgent agent now => exact changes_expiring (h.1 now rfl) agent
  | revokeViewer viewer => exact l.changes_removeAll _ _
  | revokeAgent agent agentConnectionId => exact l.changes_revokeAgent agent agentConnectionId
  | reorder agent =>
    have hsame : l.step (.reorder agent) = { l with sessions := Table.moveToFront agent l.sessions } := by
      simp [step, LeaseOp.run, LeaseOp.run.returned, LeaseOp.issues, LeaseOp.accepts, LeaseOp.now?]
    rw [hsame]
    exact .single (.reorder agent)

end Operations

end Ledger

end Vantyr
