import Vantyr.Dashboard.ControlLease
import Vantyr.Data.Table

/-!
This module contains the agreement of the dashboard and the server on a lease: while the deadline of the
dashboard has not passed, the lease of the server has not run out of time either. What the server may do
to its lease table at one instant is stated once, as a lawful change, and every operation is one.
-/

namespace Vantyr

namespace ControlLease

/-!
The server.
-/

def leaseTtl : Nat :=
  max minLeaseTtl (min defaultLeaseTtl maxLeaseTtl)

/--
What `control_lease_message` finds out before and between the operations on the lease table: the owner that
is the viewer on the current connection of the device, whether the device grants remote input, whether the
releases of an expired lease and of the operation itself could be delivered, and whether the capture can be
controlled.
-/
structure Verdict where
  owner : Option LeaseOwner
  authorized : Bool
  settled : Bool
  capture : Bool
  safe : Bool
  deriving DecidableEq, Repr

def grantReply (agentId requestId : Uuid) (grant : LeaseGrant) (now : Nat) : Reply where
  agentId
  requestId := some requestId
  status := .granted
  leaseToken := some grant.token
  expiresInMs := (grant.expiresAt - now) / 10 ^ 6
  error := none

def plainReply (agentId requestId : Uuid) (status : ReplyStatus) : Reply where
  agentId
  requestId := some requestId
  status
  leaseToken := none
  expiresInMs := 0
  error := none

structure Served where
  reply : Reply
  cleanup : List LeaseCleanup
  sessions : ControlSessions

def serveAcquire (sessions : ControlSessions) (v : Verdict) (owner : LeaseOwner)
    (agentId requestId : Uuid) (now : Nat) (fresh : Uuid) : Served :=
  let (expired, sessions) := sessions.expireAgent agentId now
  let denied := plainReply agentId requestId .denied
  if !v.settled || !v.capture then
    { reply := denied, cleanup := expired, sessions }
  else
    let transition := sessions.acquire agentId owner defaultLeaseTtl now fresh
    if !v.safe then
      let (revoked, sessions) := transition.sessions.revokeAgent agentId owner.agentConnectionId
      { reply := denied, cleanup := expired ++ (transition.cleanup ++ revoked), sessions }
    else
      {
        reply :=
          match transition.result with
          | .ok grant => grantReply agentId requestId grant now
          | .error _ => denied
        cleanup := expired ++ transition.cleanup
        sessions := transition.sessions
      }

def serve (sessions : ControlSessions) (v : Verdict) (request : Request) (now : Nat) (fresh : Uuid)
    : Served :=
  match v.owner, request with
  | some owner, .acquire agentId requestId _ _ =>
    if v.authorized then
      serveAcquire sessions v owner agentId requestId now fresh
    else
      { reply := plainReply agentId requestId .denied, cleanup := [], sessions }
  | some owner, .heartbeat agentId requestId _ token =>
    if v.authorized then
      let transition := sessions.heartbeat agentId owner token defaultLeaseTtl now
      {
        reply :=
          match transition.result with
          | .ok grant => grantReply agentId requestId grant now
          | .error _ => plainReply agentId requestId .denied
        cleanup := transition.cleanup
        sessions := transition.sessions
      }
    else
      { reply := plainReply agentId requestId .denied, cleanup := [], sessions }
  | some owner, .release agentId requestId token =>
    let transition := sessions.release agentId owner token now
    {
      reply :=
        match transition.result with
        | .ok () => plainReply agentId requestId .released
        | .error _ => plainReply agentId requestId .denied
      cleanup := transition.cleanup
      sessions := transition.sessions
    }
  | none, .acquire agentId requestId _ _ =>
    { reply := plainReply agentId requestId .denied, cleanup := [], sessions }
  | none, .heartbeat agentId requestId _ _ =>
    { reply := plainReply agentId requestId .denied, cleanup := [], sessions }
  | none, .release agentId requestId _ =>
    { reply := plainReply agentId requestId .denied, cleanup := [], sessions }

/-!
Lawful changes of the lease table.
-/

structure Tidy (now : Nat) (sessions : ControlSessions) : Prop where
  bounded : ∀ a lease, sessions.lookup a = some lease → lease.grant.expiresAt ≤ now + leaseTtl
  unique : ∀ a b lease other, sessions.lookup a = some lease → sessions.lookup b = some other
    → lease.grant.token = other.grant.token → a = b

-- `fresh` is the device that may have got a new lease, and its token.
structure Lawful (now : Nat) (fresh : Option (Uuid × Uuid)) (sessions : ControlSessions)
    (cleanup : List LeaseCleanup) (sessions' : ControlSessions) : Prop where
  tidy : Tidy now sessions'
  kept : ∀ a lease', sessions'.lookup a = some lease'
    → (∃ lease, sessions.lookup a = some lease ∧ lease.grant.token = lease'.grant.token
        ∧ lease.grant.expiresAt ≤ lease'.grant.expiresAt)
      ∨ (fresh = some (a, lease'.grant.token) ∧ now < lease'.grant.expiresAt)
  ended : ∀ a lease, sessions.lookup a = some lease
    → (∃ lease', sessions'.lookup a = some lease' ∧ lease'.grant.token = lease.grant.token)
      ∨ ∃ c ∈ cleanup, c.token = lease.grant.token
  known : ∀ c ∈ cleanup, (∃ a lease, sessions.lookup a = some lease ∧ lease.grant.token = c.token)
    ∨ ∃ a, fresh = some (a, c.token)
  gone : ∀ c ∈ cleanup, ∀ a lease', sessions'.lookup a = some lease' → lease'.grant.token ≠ c.token
  expired : ∀ c ∈ cleanup, c.reason = .expired
    → ∃ a lease, sessions.lookup a = some lease ∧ lease.grant.token = c.token
      ∧ lease.grant.expiresAt ≤ now

def Unused (fresh : Uuid) (sessions : ControlSessions) : Prop :=
  ∀ a lease, sessions.lookup a = some lease → lease.grant.token ≠ fresh

section Lawful

variable {now : Nat} {fresh : Option (Uuid × Uuid)} {sessions mid sessions' : ControlSessions}
  {xs ys : List LeaseCleanup}

theorem Lawful.refl (ht : Tidy now sessions) : Lawful now fresh sessions [] sessions where
  tidy := ht
  kept := fun _ lease h => .inl ⟨lease, h, rfl, Nat.le_refl _⟩
  ended := fun _ lease h => .inl ⟨lease, h, rfl⟩
  known := by simp
  gone := by simp
  expired := by simp

theorem Lawful.trans (h : Lawful now none sessions xs mid) (h' : Lawful now fresh mid ys sessions')
    (hfresh : ∀ a token, fresh = some (a, token) → Unused token sessions)
    : Lawful now fresh sessions (xs ++ ys) sessions' where
  tidy := h'.tidy
  kept := by
    intro a lease' hlookup
    rcases h'.kept a lease' hlookup with ⟨lease, hmid, htoken, hle⟩ | hnew
    . rcases h.kept a lease hmid with ⟨old, hold, htoken', hle'⟩ | ⟨hnone, _⟩
      . exact .inl ⟨old, hold, htoken'.trans htoken, Nat.le_trans hle' hle⟩
      . cases hnone
    . exact .inr hnew
  ended := by
    intro a lease hlookup
    rcases h.ended a lease hlookup with ⟨lease', hmid, htoken⟩ | ⟨c, hc, htoken⟩
    . rcases h'.ended a lease' hmid with ⟨lease'', hlookup', htoken'⟩ | ⟨c, hc, htoken'⟩
      . exact .inl ⟨lease'', hlookup', htoken'.trans htoken⟩
      . exact .inr ⟨c, List.mem_append_right _ hc, htoken'.trans htoken⟩
    . exact .inr ⟨c, List.mem_append_left _ hc, htoken⟩
  known := by
    intro c hc
    rcases List.mem_append.mp hc with hc | hc
    . rcases h.known c hc with hold | ⟨_, hnone⟩
      . exact .inl hold
      . cases hnone
    . rcases h'.known c hc with ⟨a, lease, hmid, htoken⟩ | hnew
      . rcases h.kept a lease hmid with ⟨old, hold, htoken', _⟩ | ⟨hnone, _⟩
        . exact .inl ⟨a, old, hold, htoken'.trans htoken⟩
        . cases hnone
      . exact .inr hnew
  gone := by
    intro c hc a lease' hlookup heq
    rcases List.mem_append.mp hc with hc | hc
    . rcases h'.kept a lease' hlookup with ⟨lease, hmid, htoken, _⟩ | ⟨hnew, _⟩
      . exact h.gone c hc a lease hmid (htoken.trans heq)
      . rcases h.known c hc with ⟨b, old, hold, htoken⟩ | ⟨_, hnone⟩
        . exact hfresh _ _ hnew b old hold (htoken.trans heq.symm)
        . cases hnone
    . exact h'.gone c hc a lease' hlookup heq
  expired := by
    intro c hc hreason
    rcases List.mem_append.mp hc with hc | hc
    . exact h.expired c hc hreason
    . rcases h'.expired c hc hreason with ⟨a, lease, hmid, htoken, hle⟩
      rcases h.kept a lease hmid with ⟨old, hold, htoken', hle'⟩ | ⟨hnone, _⟩
      . exact ⟨a, old, hold, htoken'.trans htoken, Nat.le_trans hle' hle⟩
      . cases hnone

-- The other way around, what is new may be removed again.
theorem Lawful.thenKeep (h : Lawful now fresh sessions xs mid)
    (h' : Lawful now none mid ys sessions') : Lawful now fresh sessions (xs ++ ys) sessions' where
  tidy := h'.tidy
  kept := by
    intro a lease' hlookup
    rcases h'.kept a lease' hlookup with ⟨lease, hmid, htoken, hle⟩ | ⟨hnone, _⟩
    . rcases h.kept a lease hmid with ⟨old, hold, htoken', hle'⟩ | ⟨hnew, hlt⟩
      . exact .inl ⟨old, hold, htoken'.trans htoken, Nat.le_trans hle' hle⟩
      . exact .inr ⟨by rw [hnew, htoken], Nat.lt_of_lt_of_le hlt hle⟩
    . cases hnone
  ended := by
    intro a lease hlookup
    rcases h.ended a lease hlookup with ⟨lease', hmid, htoken⟩ | ⟨c, hc, htoken⟩
    . rcases h'.ended a lease' hmid with ⟨lease'', hlookup', htoken'⟩ | ⟨c, hc, htoken'⟩
      . exact .inl ⟨lease'', hlookup', htoken'.trans htoken⟩
      . exact .inr ⟨c, List.mem_append_right _ hc, htoken'.trans htoken⟩
    . exact .inr ⟨c, List.mem_append_left _ hc, htoken⟩
  known := by
    intro c hc
    rcases List.mem_append.mp hc with hc | hc
    . exact h.known c hc
    . rcases h'.known c hc with ⟨a, lease, hmid, htoken⟩ | ⟨_, hnone⟩
      . rcases h.kept a lease hmid with ⟨old, hold, htoken', _⟩ | ⟨hnew, _⟩
        . exact .inl ⟨a, old, hold, htoken'.trans htoken⟩
        . exact .inr ⟨a, by rw [hnew, htoken]⟩
      . cases hnone
  gone := by
    intro c hc a lease' hlookup heq
    rcases List.mem_append.mp hc with hc | hc
    . rcases h'.kept a lease' hlookup with ⟨lease, hmid, htoken, _⟩ | ⟨hnone, _⟩
      . exact h.gone c hc a lease hmid (htoken.trans heq)
      . cases hnone
    . exact h'.gone c hc a lease' hlookup heq
  expired := by
    intro c hc hreason
    rcases List.mem_append.mp hc with hc | hc
    . exact h.expired c hc hreason
    . rcases h'.expired c hc hreason with ⟨a, lease, hmid, htoken, hle⟩
      rcases h.kept a lease hmid with ⟨old, hold, htoken', hle'⟩ | ⟨_, hlt⟩
      . exact ⟨a, old, hold, htoken'.trans htoken, Nat.le_trans hle' hle⟩
      . omega

theorem lookup_remove {a b : Uuid} {reason : TeardownReason} {lease : Lease}
    (h : (sessions.remove a reason).2.lookup b = some lease)
    : b ≠ a ∧ sessions.lookup b = some lease := by
  dsimp only [ControlSessions.remove] at h
  by_cases heq : b = a
  . rw [heq, AList.lookup_erase] at h
    cases h
  . rw [AList.lookup_erase_ne heq] at h
    exact ⟨heq, h⟩

theorem Tidy.remove (ht : Tidy now sessions) (a : Uuid) (reason : TeardownReason)
    : Tidy now (sessions.remove a reason).2 where
  bounded := fun b lease h => ht.bounded b lease (lookup_remove h).2
  unique := fun b c lease other hb hc =>
    ht.unique b c lease other (lookup_remove hb).2 (lookup_remove hc).2

theorem Lawful.remove (ht : Tidy now sessions) (a : Uuid) (reason : TeardownReason)
    (hreason : reason = .expired
      → ∀ lease, sessions.lookup a = some lease → lease.grant.expiresAt ≤ now)
    : Lawful now fresh sessions (sessions.remove a reason).1 (sessions.remove a reason).2 := by
  have hcleanup : ∀ c ∈ (sessions.remove a reason).1,
      ∃ lease, sessions.lookup a = some lease ∧ c = ControlSessions.cleanup a reason lease := by
    intro c hc
    dsimp only [ControlSessions.remove] at hc
    rw [Option.mem_toList, Option.map_eq_some_iff] at hc
    rcases hc with ⟨lease, hlease, rfl⟩
    exact ⟨lease, hlease, rfl⟩
  constructor
  . exact ht.remove a reason
  . intro b lease hlookup
    exact .inl ⟨lease, (lookup_remove hlookup).2, rfl, Nat.le_refl _⟩
  . intro b lease hlookup
    dsimp only [ControlSessions.remove]
    by_cases heq : b = a
    . apply Or.inr
      rw [heq] at hlookup
      rw [hlookup]
      exact ⟨ControlSessions.cleanup a reason lease, by simp, rfl⟩
    . rw [AList.lookup_erase_ne heq]
      exact .inl ⟨lease, hlookup, rfl⟩
  . intro c hc
    rcases hcleanup c hc with ⟨lease, hlease, rfl⟩
    exact .inl ⟨a, lease, hlease, rfl⟩
  . intro c hc b lease' hlookup heq
    rcases hcleanup c hc with ⟨lease, hlease, rfl⟩
    rcases lookup_remove hlookup with ⟨hne, hb⟩
    exact hne (ht.unique b a lease' lease hb hlease heq)
  . intro c hc hexpired
    rcases hcleanup c hc with ⟨lease, hlease, rfl⟩
    exact ⟨a, lease, hlease, rfl, hreason hexpired lease hlease⟩

theorem Lawful.removeAll (ht : Tidy now sessions) (reason : TeardownReason) (agents : List Uuid)
    (hreason : reason = .expired
      → ∀ a ∈ agents, ∀ lease, sessions.lookup a = some lease → lease.grant.expiresAt ≤ now)
    : Lawful now none sessions (sessions.removeAll reason agents).1
        (sessions.removeAll reason agents).2 := by
  induction agents generalizing sessions with
  | nil => exact Lawful.refl ht
  | cons a agents ih =>
    have hfirst : Lawful now none sessions (sessions.remove a reason).1 (sessions.remove a reason).2 :=
      Lawful.remove ht a reason (fun h => hreason h a List.mem_cons_self)
    apply hfirst.thenKeep
    apply ih hfirst.tidy
    intro hexpired b hb lease hlookup
    exact hreason hexpired b (List.mem_cons_of_mem _ hb) lease (lookup_remove hlookup).2

theorem Lawful.expireAgent (ht : Tidy now sessions) (a : Uuid)
    : Lawful now none sessions (sessions.expireAgent a now).1 (sessions.expireAgent a now).2 := by
  rcases sessions.expireAgent_cases a now with ⟨lease, hlease, hexpired, heq⟩ | ⟨heq, _⟩
  . rw [heq]
    apply Lawful.remove ht
    intro _ other hother
    rw [hlease] at hother
    cases hother
    exact hexpired
  . rw [heq]
    exact Lawful.refl ht

theorem Lawful.expire (ht : Tidy now sessions)
    : Lawful now none sessions (sessions.expire now).1 (sessions.expire now).2 := by
  unfold ControlSessions.expire
  apply Lawful.removeAll ht
  intro _ a ha lease hlease
  rw [List.mem_map] at ha
  rcases ha with ⟨⟨b, other⟩, hmem, rfl⟩
  rw [List.mem_filter, decide_eq_true_eq] at hmem
  have hother := AList.mem_lookup_iff.mpr hmem.1
  rw [Option.mem_def, hlease] at hother
  cases hother
  exact hmem.2

theorem Lawful.revokeViewer (ht : Tidy now sessions) (viewer : Uuid)
    : Lawful now none sessions (sessions.revokeViewer viewer).1 (sessions.revokeViewer viewer).2 := by
  unfold ControlSessions.revokeViewer
  apply Lawful.removeAll ht
  intro h
  cases h

theorem Lawful.revokeAgent (ht : Tidy now sessions) (a conn : Uuid)
    : Lawful now none sessions (sessions.revokeAgent a conn).1 (sessions.revokeAgent a conn).2 := by
  unfold ControlSessions.revokeAgent
  split
  . apply Lawful.remove ht
    intro h
    cases h
  . exact Lawful.refl ht

theorem Lawful.insert {a : Uuid} {lease : Lease} (ht : Tidy now sessions)
    (hlease : (∃ old, sessions.lookup a = some old ∧ old.grant.token = lease.grant.token
        ∧ old.grant.expiresAt ≤ lease.grant.expiresAt)
      ∨ (sessions.lookup a = none ∧ fresh = some (a, lease.grant.token)
        ∧ Unused lease.grant.token sessions ∧ now < lease.grant.expiresAt))
    (hle : lease.grant.expiresAt ≤ now + leaseTtl)
    : Lawful now fresh sessions [] (sessions.insert a lease) := by
  have hcases : ∀ b other, (sessions.insert a lease).lookup b = some other
      → b = a ∧ other = lease ∨ b ≠ a ∧ sessions.lookup b = some other := by
    intro b other hlookup
    rw [Table.lookup_insert_eq] at hlookup
    split at hlookup
    . next heq =>
      cases hlookup
      exact .inl ⟨heq, rfl⟩
    . next hne => exact .inr ⟨hne, hlookup⟩
  -- No other device has the token.
  have hother : ∀ b other, b ≠ a → sessions.lookup b = some other
      → other.grant.token ≠ lease.grant.token := by
    intro b other hne hlookup heq
    rcases hlease with ⟨old, hold, htoken, _⟩ | ⟨_, _, hunused, _⟩
    . exact hne (ht.unique b a other old hlookup hold (heq.trans htoken.symm))
    . exact hunused b other hlookup heq
  constructor
  . constructor
    . intro b other hlookup
      rcases hcases b other hlookup with ⟨_, rfl⟩ | ⟨_, hold⟩
      . exact hle
      . exact ht.bounded b other hold
    . intro b c one other hb hc heq
      rcases hcases b one hb with ⟨rfl, rfl⟩ | ⟨hneb, holdb⟩
      . rcases hcases c other hc with ⟨rfl, _⟩ | ⟨hnec, holdc⟩
        . rfl
        . exact absurd heq.symm (hother c other hnec holdc)
      . rcases hcases c other hc with ⟨rfl, rfl⟩ | ⟨_, holdc⟩
        . exact absurd heq (hother b one hneb holdb)
        . exact ht.unique b c one other holdb holdc heq
  . intro b other hlookup
    rcases hcases b other hlookup with ⟨rfl, rfl⟩ | ⟨_, hold⟩
    . rcases hlease with hold | ⟨_, hnew, _, hlt⟩
      . exact .inl hold
      . exact .inr ⟨hnew, hlt⟩
    . exact .inl ⟨other, hold, rfl, Nat.le_refl _⟩
  . intro b other hlookup
    apply Or.inl
    rw [Table.lookup_insert_eq]
    split
    . next heq =>
      rw [heq] at hlookup
      rcases hlease with ⟨old, hold, htoken, _⟩ | ⟨hnone, _⟩
      . rw [hlookup] at hold
        cases hold
        exact ⟨lease, rfl, htoken.symm⟩
      . rw [hlookup] at hnone
        cases hnone
    . exact ⟨other, hlookup, rfl⟩
  . simp
  . simp
  . simp

theorem deadline_default (now : Nat) : ControlSessions.deadline now defaultLeaseTtl = now + leaseTtl :=
  rfl

theorem leaseTtl_pos : 0 < leaseTtl := by
  decide

-- The grant that an operation returns is that of a lease which has not expired.
def Granted (now : Nat) (a : Uuid) (transition : Transition LeaseGrant) : Prop :=
  ∀ grant, transition.result = .ok grant
    → now < grant.expiresAt
      ∧ ∃ lease, transition.sessions.lookup a = some lease ∧ lease.grant = grant

theorem unused_of_lawful {token : Uuid} (h : Lawful now none sessions xs sessions')
    (hunused : Unused token sessions) : Unused token sessions' := by
  intro a lease' hlookup heq
  rcases h.kept a lease' hlookup with ⟨lease, hold, htoken, _⟩ | ⟨hnone, _⟩
  . exact hunused a lease hold (htoken.trans heq)
  . cases hnone

theorem lawful_acquire (ht : Tidy now sessions) {token : Uuid} (hunused : Unused token sessions)
    (a : Uuid) (owner : LeaseOwner)
    : Lawful now (some (a, token)) sessions
        (sessions.acquire a owner defaultLeaseTtl now token).cleanup
        (sessions.acquire a owner defaultLeaseTtl now token).sessions
      ∧ Granted now a (sessions.acquire a owner defaultLeaseTtl now token) := by
  have hexpire := Lawful.expireAgent ht a
  have hfresh : ∀ b t, some (a, token) = some (b, t) → Unused t sessions := by
    intro b t heq
    cases heq
    exact hunused
  have hexpired : Lawful now (some (a, token)) sessions (sessions.expireAgent a now).1
      (sessions.expireAgent a now).2 := by
    rw [← List.append_nil (sessions.expireAgent a now).1]
    exact hexpire.trans (Lawful.refl hexpire.tidy) hfresh
  have hlive : ∀ lease, (sessions.expireAgent a now).2.lookup a = some lease
      → now < lease.grant.expiresAt := by
    rcases sessions.expireAgent_cases a now with ⟨lease, _, _, heq⟩ | ⟨heq, hlive⟩
    . rw [heq]
      intro other hother
      exact absurd rfl (lookup_remove hother).1
    . rw [heq]
      exact hlive
  unfold ControlSessions.acquire
  dsimp only
  split
  . next existing hexisting =>
    split
    . refine ⟨hexpired, ?_⟩
      intro grant hgrant
      cases hgrant
      exact ⟨hlive existing hexisting, existing, hexisting, rfl⟩
    . refine ⟨hexpired, ?_⟩
      intro grant hgrant
      cases hgrant
  . next hnone =>
    have hpos := leaseTtl_pos
    have hdeadline : now < now + leaseTtl := by omega
    constructor
    . rw [← List.append_nil (sessions.expireAgent a now).1]
      refine hexpire.trans (Lawful.insert hexpire.tidy (.inr ⟨hnone, rfl, ?_, hdeadline⟩)
        (Nat.le_refl _)) hfresh
      exact unused_of_lawful hexpire hunused
    . intro grant hgrant
      cases hgrant
      exact ⟨hdeadline, _, AList.lookup_insert _, rfl⟩

theorem lawful_authorize (ht : Tidy now sessions) (a : Uuid) (owner : LeaseOwner) (token : Uuid)
    : Lawful now none sessions (sessions.authorize a owner token now).cleanup
        (sessions.authorize a owner token now).sessions := by
  rcases sessions.authorize_cases a now owner token with ⟨_, heq⟩ | ⟨lease, _, _, _, _, heq⟩
  . have hexpire := Lawful.expireAgent ht a
    rw [← heq] at hexpire
    exact hexpire
  . rw [heq]
    exact Lawful.refl ht

theorem lawful_heartbeat (ht : Tidy now sessions) (a : Uuid) (owner : LeaseOwner) (token : Uuid)
    : Lawful now none sessions (sessions.heartbeat a owner token defaultLeaseTtl now).cleanup
        (sessions.heartbeat a owner token defaultLeaseTtl now).sessions
      ∧ Granted now a (sessions.heartbeat a owner token defaultLeaseTtl now) := by
  rcases sessions.authorize_cases a now owner token with
    ⟨⟨e, he⟩, _⟩ | ⟨lease, hlease, howner, htoken, hlive, heq⟩
  . have hauthorize := lawful_authorize ht a owner token
    unfold ControlSessions.heartbeat
    dsimp only
    rw [he]
    refine ⟨hauthorize, ?_⟩
    intro grant hgrant
    cases hgrant
  . unfold ControlSessions.heartbeat
    dsimp only
    rw [heq, hlease]
    have hle := ht.bounded a lease hlease
    have hpos := leaseTtl_pos
    constructor
    . dsimp only
      refine Lawful.insert ht (.inl ⟨lease, hlease, rfl, ?_⟩) (Nat.le_refl _)
      exact hle
    . intro grant hgrant
      cases hgrant
      refine ⟨?_, _, AList.lookup_insert _, rfl⟩
      dsimp only
      rw [deadline_default]
      omega

theorem lawful_release (ht : Tidy now sessions) (a : Uuid) (owner : LeaseOwner) (token : Uuid)
    : Lawful now none sessions (sessions.release a owner token now).cleanup
        (sessions.release a owner token now).sessions := by
  have hauthorize := lawful_authorize ht a owner token
  unfold ControlSessions.release
  dsimp only
  split
  . exact hauthorize.thenKeep (Lawful.remove hauthorize.tidy a .released (by simp))
  . exact hauthorize

theorem lawful_authorizeAndTrack (ht : Tidy now sessions) (a : Uuid) (owner : LeaseOwner)
    (token : Uuid) (cmd : Json)
    : Lawful now none sessions (sessions.authorizeAndTrack a owner token cmd now).cleanup
        (sessions.authorizeAndTrack a owner token cmd now).sessions := by
  have hauthorize := lawful_authorize ht a owner token
  unfold ControlSessions.authorizeAndTrack
  dsimp only
  split
  . next lease _ hlease =>
    split
    . rw [← List.append_nil (sessions.authorize a owner token now).cleanup]
      exact hauthorize.thenKeep (Lawful.insert hauthorize.tidy
        (.inl ⟨lease, hlease, rfl, Nat.le_refl _⟩) (hauthorize.tidy.bounded a lease hlease))
    . exact hauthorize
  . exact hauthorize

theorem lawful_serveAcquire (ht : Tidy now sessions) {token : Uuid} (hunused : Unused token sessions)
    (v : Verdict) (owner : LeaseOwner) (a requestId : Uuid)
    : Lawful now (some (a, token)) sessions
        (serveAcquire sessions v owner a requestId now token).cleanup
        (serveAcquire sessions v owner a requestId now token).sessions := by
  have hfresh : ∀ b t, some (a, token) = some (b, t) → Unused t sessions := by
    intro b t heq
    cases heq
    exact hunused
  have hexpire := Lawful.expireAgent ht a
  have hacquire := lawful_acquire hexpire.tidy (unused_of_lawful hexpire hunused) a owner
  unfold serveAcquire
  dsimp only
  split
  . rw [← List.append_nil (sessions.expireAgent a now).1]
    exact hexpire.trans (Lawful.refl hexpire.tidy) hfresh
  . split
    . have hrevoke := Lawful.revokeAgent hacquire.1.tidy a owner.agentConnectionId
      exact hexpire.trans (hacquire.1.thenKeep hrevoke) hfresh
    . exact hexpire.trans hacquire.1 hfresh

/--
What is served is lawful, and a granted reply tells how long a lease lasts that is in the table.
-/
theorem lawful_serve (ht : Tidy now sessions) {token : Uuid} (hunused : Unused token sessions)
    (v : Verdict) (request : Request)
    : (∃ fresh, (∀ b t, fresh = some (b, t) → t = token)
        ∧ Lawful now fresh sessions (serve sessions v request now token).cleanup
          (serve sessions v request now token).sessions)
      ∧ ((serve sessions v request now token).reply.status = .granted
        → (serve sessions v request now token).reply.requestId = some request.requestId
          ∧ (∀ a id t, request ≠ .release a id t)
          ∧ ∃ a lease, (serve sessions v request now token).sessions.lookup a = some lease
            ∧ (serve sessions v request now token).reply.leaseToken = some lease.grant.token
            ∧ now + (serve sessions v request now token).reply.expiresInMs * 10 ^ 6
              ≤ lease.grant.expiresAt) := by
  have hgrant : ∀ (a requestId : Uuid) (grant : LeaseGrant) (table : ControlSessions) lease,
      now < grant.expiresAt → table.lookup a = some lease → lease.grant = grant
      → ∃ b other, table.lookup b = some other
        ∧ (grantReply a requestId grant now).leaseToken = some other.grant.token
        ∧ now + (grantReply a requestId grant now).expiresInMs * 10 ^ 6 ≤ other.grant.expiresAt := by
    intro a requestId grant table lease hlive hlease heq
    refine ⟨a, lease, hlease, by rw [heq]; rfl, ?_⟩
    dsimp only [grantReply]
    rw [heq]
    have := Nat.div_mul_le_self (grant.expiresAt - now) (10 ^ 6)
    omega
  have hsame : ∃ fresh : Option (Uuid × Uuid), (∀ b t, fresh = some (b, t) → t = token)
      ∧ Lawful now fresh sessions [] sessions :=
    ⟨none, by simp, Lawful.refl ht⟩
  unfold serve
  split
  . next owner a requestId _ _ _ =>
    split
    . have hserve := lawful_serveAcquire ht hunused v owner a requestId
      constructor
      . refine ⟨_, ?_, hserve⟩
        intro b t heq
        cases heq
        rfl
      . have hexpire := Lawful.expireAgent ht a
        have hacquire := lawful_acquire hexpire.tidy (unused_of_lawful hexpire hunused) a owner
        unfold serveAcquire
        dsimp only
        split
        . intro h
          cases h
        . split
          . intro h
            cases h
          . intro h
            split at h
            . next grant hresult =>
              rcases hacquire.2 grant hresult with ⟨hlive, lease, hlease, heq⟩
              exact ⟨rfl, by simp, hgrant a requestId grant _ lease hlive hlease heq⟩
            . cases h
    . refine ⟨hsame, ?_⟩
      intro h
      cases h
  . next owner a requestId _ t _ =>
    split
    . dsimp only
      have hheartbeat := lawful_heartbeat ht a owner t
      refine ⟨⟨none, by simp, hheartbeat.1⟩, ?_⟩
      intro h
      split at h
      . next grant hresult =>
        rcases hheartbeat.2 grant hresult with ⟨hlive, lease, hlease, heq⟩
        exact ⟨rfl, by simp, hgrant a requestId grant _ lease hlive hlease heq⟩
      . cases h
    . refine ⟨hsame, ?_⟩
      intro h
      cases h
  . next owner a requestId t _ =>
    dsimp only
    refine ⟨⟨none, by simp, lawful_release ht a owner t⟩, ?_⟩
    intro h
    split at h <;> cases h
  . refine ⟨hsame, ?_⟩
    intro h
    cases h
  . refine ⟨hsame, ?_⟩
    intro h
    cases h
  . refine ⟨hsame, ?_⟩
    intro h
    cases h

end Lawful

/-!
The dashboard, the server and the channels between them.
-/

structure Removal where
  token : Uuid
  reason : TeardownReason
  time : Nat
  deriving DecidableEq, Repr

structure Link where
  now : Nat
  hook : Hook
  toServer : List Request
  toDashboard : List Reply
  sessions : ControlSessions
  -- The tokens and the ids of requests that were generated, and what became of leases.
  minted : List Uuid
  ids : List Uuid
  removed : List Removal

inductive Op where
  | tick (elapsed : Nat)
  | acquire (r : Rendered) (id : Uuid)
  | event (r : Rendered) (id id' : Uuid)
  | timer (r : Rendered) (id : Uuid)
  | release (id : Uuid)
  | enterScope (r : Rendered) (id : Uuid)
  | cleanup (r : Rendered) (id : Uuid)
  | unmount (id : Uuid)
  | disable (id : Uuid)
  | disconnect
  | serve (v : Verdict) (fresh : Uuid)
  | push (reply : Reply)
  | otherAcquire (agentId : Uuid) (owner : LeaseOwner) (fresh : Uuid)
  | otherHeartbeat (agentId : Uuid) (owner : LeaseOwner) (token : Uuid)
  | otherRelease (agentId : Uuid) (owner : LeaseOwner) (token : Uuid)
  | authorizeAndTrack (agentId : Uuid) (owner : LeaseOwner) (token : Uuid) (cmd : Json)
  | expireAgent (agentId : Uuid)
  | expire
  | revokeViewer (viewer : Uuid)
  | revokeAgent (agentId connectionId : Uuid)

namespace Link

def init : Link where
  now := 0
  hook := Hook.init
  toServer := []
  toDashboard := []
  sessions := ∅
  minted := []
  ids := []
  removed := []

def setHook (s : Link) (change : Hook × List Request) : Link :=
  { s with hook := change.1, toServer := s.toServer ++ change.2 }

def setSessions (s : Link) (cleanup : List LeaseCleanup) (sessions : ControlSessions) : Link :=
  { s with
    sessions
    removed := s.removed ++ cleanup.map (fun c => ⟨c.token, c.reason, s.now⟩) }

def exec (s : Link) : Op → Link
  | .tick elapsed => { s with now := s.now + elapsed }
  | .acquire r id => { s.setHook (s.hook.acquire r s.now id) with ids := id :: s.ids }
  | .event r id id' =>
    match s.toDashboard with
    | [] => s
    | reply :: rest =>
      { s.setHook (s.hook.onEvent r s.now reply id id') with toDashboard := rest }
  | .timer r id => { s.setHook (s.hook.onTimer r s.now id) with ids := id :: s.ids }
  | .release id => s.setHook (s.hook.release id)
  | .enterScope r id => s.setHook (s.hook.enterScope r id)
  | .cleanup r id => s.setHook (s.hook.cleanup r id)
  | .unmount id => s.setHook (s.hook.unmount id)
  | .disable id => s.setHook (s.hook.disable id)
  | .disconnect => { s with toServer := [], toDashboard := [] }
  | .serve v fresh =>
    match s.toServer with
    | [] => s
    | request :: rest =>
      let served := ControlLease.serve s.sessions v request s.now fresh
      { s.setSessions served.cleanup served.sessions with
        toServer := rest
        toDashboard := s.toDashboard ++ [served.reply]
        minted := fresh :: s.minted }
  | .push reply => { s with toDashboard := s.toDashboard ++ [reply] }
  | .otherAcquire agentId owner fresh =>
    let transition := s.sessions.acquire agentId owner defaultLeaseTtl s.now fresh
    { s.setSessions transition.cleanup transition.sessions with minted := fresh :: s.minted }
  | .otherHeartbeat agentId owner token =>
    let transition := s.sessions.heartbeat agentId owner token defaultLeaseTtl s.now
    s.setSessions transition.cleanup transition.sessions
  | .otherRelease agentId owner token =>
    let transition := s.sessions.release agentId owner token s.now
    s.setSessions transition.cleanup transition.sessions
  | .authorizeAndTrack agentId owner token cmd =>
    let transition := s.sessions.authorizeAndTrack agentId owner token cmd s.now
    s.setSessions transition.cleanup transition.sessions
  | .expireAgent agentId =>
    s.setSessions (s.sessions.expireAgent agentId s.now).1 (s.sessions.expireAgent agentId s.now).2
  | .expire => s.setSessions (s.sessions.expire s.now).1 (s.sessions.expire s.now).2
  | .revokeViewer viewer =>
    s.setSessions (s.sessions.revokeViewer viewer).1 (s.sessions.revokeViewer viewer).2
  | .revokeAgent agentId connectionId =>
    s.setSessions (s.sessions.revokeAgent agentId connectionId).1
      (s.sessions.revokeAgent agentId connectionId).2

-- Random ids are new, and what the server sends by itself grants nothing.
def Fresh (s : Link) : Op → Prop
  | .acquire _ id => id ∉ s.ids
  | .timer _ id => id ∉ s.ids
  | .serve _ fresh => fresh ∉ s.minted
  | .otherAcquire _ _ fresh => fresh ∉ s.minted
  | .push reply => reply.status ≠ .granted
  | _ => True

instance : (s : Link) → (op : Op) → Decidable (s.Fresh op)
  | s, .acquire _ id => inferInstanceAs (Decidable (id ∉ s.ids))
  | s, .timer _ id => inferInstanceAs (Decidable (id ∉ s.ids))
  | s, .serve _ fresh => inferInstanceAs (Decidable (fresh ∉ s.minted))
  | s, .otherAcquire _ _ fresh => inferInstanceAs (Decidable (fresh ∉ s.minted))
  | _, .push reply => inferInstanceAs (Decidable (reply.status ≠ .granted))
  | _, .tick _ | _, .event _ _ _ | _, .release _ | _, .enterScope _ _ | _, .cleanup _ _
  | _, .unmount _ | _, .disable _ | _, .disconnect | _, .otherHeartbeat _ _ _
  | _, .otherRelease _ _ _ | _, .authorizeAndTrack _ _ _ _ | _, .expireAgent _ | _, .expire
  | _, .revokeViewer _ | _, .revokeAgent _ _ => instDecidableTrue

def Step (s t : Link) : Prop :=
  ∃ op, s.Fresh op ∧ t = s.exec op

def Reachable (s : Link) : Prop :=
  Relation.ReflTransGen Step init s

def run (s : Link) (ops : List Op) : Link :=
  ops.foldl exec s

def freshRun (s : Link) : List Op → Bool
  | [] => true
  | op :: ops => decide (s.Fresh op) && freshRun (s.exec op) ops

theorem reachable_run {s : Link} {ops : List Op} (hs : Reachable s) (h : s.freshRun ops = true)
    : Reachable (s.run ops) := by
  induction ops generalizing s with
  | nil => exact hs
  | cons op ops ih =>
    rw [freshRun, Bool.and_eq_true, decide_eq_true_eq] at h
    exact ih (hs.tail ⟨op, h.1, rfl⟩) h.2

end Link

/-!
What the dashboard may believe of a token: no lease with it ends its time earlier.
-/

structure Backed (s : Link) (token : Uuid) (deadline : Nat) : Prop where
  minted : token ∈ s.minted
  lease : ∀ a lease, s.sessions.lookup a = some lease → lease.grant.token = token
    → deadline ≤ lease.grant.expiresAt
  removed : ∀ removal ∈ s.removed, removal.token = token → removal.reason = .expired
    → deadline ≤ removal.time
  held : (∃ a lease, s.sessions.lookup a = some lease ∧ lease.grant.token = token)
    ∨ ∃ removal ∈ s.removed, removal.token = token

structure Sound (s : Link) : Prop where
  tidy : Tidy s.now s.sessions
  minted : ∀ a lease, s.sessions.lookup a = some lease → lease.grant.token ∈ s.minted
  past : ∀ removal ∈ s.removed, removal.time ≤ s.now ∧ removal.token ∈ s.minted
    ∧ ∀ a lease, s.sessions.lookup a = some lease → lease.grant.token ≠ removal.token
  pending : ∀ p, s.hook.pending = some p → p.sentAt ≤ s.now ∧ p.id ∈ s.ids
  requests : ∀ request ∈ s.toServer, (∃ a id token, request = .release a id token)
    ∨ request.requestId ∈ s.ids
  replies : ∀ reply ∈ s.toDashboard, reply.status = .granted
    → ∃ id token, reply.requestId = some id ∧ reply.leaseToken = some token ∧ id ∈ s.ids
      ∧ ∀ p, s.hook.pending = some p → p.id = id
        → Backed s token (p.sentAt + reply.expiresInMs * 10 ^ 6)
  grant : ∀ g, s.hook.grant = some g ∨ s.hook.current = some g → Backed s g.token g.deadline

theorem Sound.init : Sound Link.init where
  tidy := by
    constructor
    . intro a lease h
      cases h
    . intro a b lease other h
      cases h
  minted := by
    intro a lease h
    cases h
  past := by
    intro removal h
    cases h
  pending := by
    intro p h
    cases h
  requests := by
    intro request h
    cases h
  replies := by
    intro reply h
    cases h
  grant := by
    intro g h
    rcases h with h | h <;> cases h

section Server

variable {s : Link} {fresh : Option (Uuid × Uuid)} {cleanup : List LeaseCleanup} {sessions : ControlSessions}

theorem Backed.change {token : Uuid} {deadline : Nat} (h : Backed s token deadline)
    (hlawful : Lawful s.now fresh s.sessions cleanup sessions)
    (hfresh : ∀ a, fresh ≠ some (a, token))
    : Backed (s.setSessions cleanup sessions) token deadline where
  minted := h.minted
  lease := by
    intro a lease' hlookup htoken
    rcases hlawful.kept a lease' hlookup with ⟨lease, hold, heq, hle⟩ | ⟨hnew, _⟩
    . exact Nat.le_trans (h.lease a lease hold (heq.trans htoken)) hle
    . rw [htoken] at hnew
      exact absurd hnew (hfresh a)
  removed := by
    intro removal hmem htoken hreason
    rcases List.mem_append.mp hmem with hmem | hmem
    . exact h.removed removal hmem htoken hreason
    . rw [List.mem_map] at hmem
      rcases hmem with ⟨c, hc, rfl⟩
      rcases hlawful.expired c hc hreason with ⟨a, lease, hold, heq, hle⟩
      exact Nat.le_trans (h.lease a lease hold (heq.trans htoken)) hle
  held := by
    rcases h.held with ⟨a, lease, hold, htoken⟩ | ⟨removal, hmem, htoken⟩
    . rcases hlawful.ended a lease hold with ⟨lease', hlookup, heq⟩ | ⟨c, hc, heq⟩
      . exact .inl ⟨a, lease', hlookup, heq.trans htoken⟩
      . apply Or.inr
        refine ⟨⟨c.token, c.reason, s.now⟩, ?_, heq.trans htoken⟩
        exact List.mem_append_right _ (List.mem_map.mpr ⟨c, hc, rfl⟩)
    . exact .inr ⟨removal, List.mem_append_left _ hmem, htoken⟩

-- Only the lease table, its history and the tokens matter.
theorem Backed.congr {t : Link} {token : Uuid} {deadline : Nat} (h : Backed s token deadline)
    (hsessions : t.sessions = s.sessions) (hremoved : t.removed = s.removed)
    (hminted : s.minted ⊆ t.minted) : Backed t token deadline where
  minted := hminted h.minted
  lease := by
    rw [hsessions]
    exact h.lease
  removed := by
    rw [hremoved]
    exact h.removed
  held := by
    rw [hsessions, hremoved]
    exact h.held

theorem Backed.le {token : Uuid} {deadline deadline' : Nat} (h : Backed s token deadline)
    (hle : deadline' ≤ deadline) : Backed s token deadline' where
  minted := h.minted
  lease := fun a lease hlookup htoken => Nat.le_trans hle (h.lease a lease hlookup htoken)
  removed := fun removal hmem htoken hreason =>
    Nat.le_trans hle (h.removed removal hmem htoken hreason)
  held := h.held

/--
A lawful change of the lease table, with what is generated and enqueued along with it.
-/
theorem Sound.change (h : Sound s) (hlawful : Lawful s.now fresh s.sessions cleanup sessions)
    (hfresh : ∀ token ∈ s.minted, ∀ a, fresh ≠ some (a, token)) {minted : List Uuid}
    (hminted : s.minted ⊆ minted) (hnew : ∀ a token, fresh = some (a, token) → token ∈ minted)
    {toServer : List Request} (htoServer : toServer ⊆ s.toServer) {replies : List Reply}
    (hreplies : ∀ reply ∈ replies, reply.status = .granted
      → ∃ id token, reply.requestId = some id ∧ reply.leaseToken = some token ∧ id ∈ s.ids
        ∧ ∀ p, s.hook.pending = some p → p.id = id
          → Backed { s.setSessions cleanup sessions with minted } token
            (p.sentAt + reply.expiresInMs * 10 ^ 6))
    : Sound { s.setSessions cleanup sessions with
        minted, toServer, toDashboard := s.toDashboard ++ replies } := by
  have hbacked : ∀ token deadline, Backed s token deadline
      → Backed { s.setSessions cleanup sessions with
          minted, toServer, toDashboard := s.toDashboard ++ replies } token deadline := by
    intro token deadline hb
    exact (hb.change hlawful (hfresh token hb.minted)).congr rfl rfl hminted
  constructor
  . exact hlawful.tidy
  . intro a lease' hlookup
    rcases hlawful.kept a lease' hlookup with ⟨lease, hold, htoken, _⟩ | ⟨hnew', _⟩
    . rw [← htoken]
      exact hminted (h.minted a lease hold)
    . exact hnew _ _ hnew'
  . intro removal hmem
    rcases List.mem_append.mp hmem with hmem | hmem
    . rcases h.past removal hmem with ⟨hpast, hmem', hgone⟩
      refine ⟨hpast, hminted hmem', ?_⟩
      intro a lease' hlookup heq
      rcases hlawful.kept a lease' hlookup with ⟨lease, hold, htoken, _⟩ | ⟨hnew', _⟩
      . exact hgone a lease hold (htoken.trans heq)
      . rw [heq] at hnew'
        exact hfresh _ hmem' a hnew'
    . rw [List.mem_map] at hmem
      rcases hmem with ⟨c, hc, rfl⟩
      refine ⟨Nat.le_refl _, ?_, hlawful.gone c hc⟩
      rcases hlawful.known c hc with ⟨a, lease, hold, htoken⟩ | ⟨a, hnew'⟩
      . rw [← htoken]
        exact hminted (h.minted a lease hold)
      . exact hnew _ _ hnew'
  . exact h.pending
  . intro request hmem
    exact h.requests request (htoServer hmem)
  . intro reply hmem hgranted
    rcases List.mem_append.mp hmem with hmem | hmem
    . rcases h.replies reply hmem hgranted with ⟨id, token, hid, htoken, hids, hpending⟩
      refine ⟨id, token, hid, htoken, hids, ?_⟩
      intro p hp heq
      exact hbacked _ _ (hpending p hp heq)
    . rcases hreplies reply hmem hgranted with ⟨id, token, hid, htoken, hids, hpending⟩
      refine ⟨id, token, hid, htoken, hids, ?_⟩
      intro p hp heq
      exact (hpending p hp heq).congr rfl rfl (fun _ hmem => hmem)
  . intro g hg
    exact hbacked _ _ (h.grant g hg)

-- An operation that generates no token.
theorem Sound.keep (h : Sound s) (hlawful : Lawful s.now none s.sessions cleanup sessions)
    : Sound (s.setSessions cleanup sessions) := by
  have := @Sound.change s none cleanup sessions h hlawful (by simp) s.minted (fun _ hmem => hmem)
    (by simp) s.toServer (fun _ hmem => hmem) [] (by simp)
  simpa [Link.setSessions] using this

end Server

section Dashboard

-- A hook that has no grant and no request that it did not have before.
structure Weaker (h h' : Hook) : Prop where
  grant : ∀ g, h'.grant = some g → h.grant = some g
  current : ∀ g, h'.current = some g → h.current = some g
  pending : ∀ p, h'.pending = some p → h.pending = some p

variable {h : Hook}

theorem Weaker.refl (h : Hook) : Weaker h h :=
  ⟨fun _ hg => hg, fun _ hg => hg, fun _ hp => hp⟩

theorem weaker_cancelPending (h : Hook) : Weaker h h.cancelPending := by
  unfold Hook.cancelPending
  split
  . exact Weaker.refl h
  . exact ⟨fun _ hg => hg, fun _ hg => hg, fun _ hp => by cases hp⟩

theorem weaker_release (h : Hook) (id : Uuid) : Weaker h (h.release id).1 where
  grant := (fun _ hg => by cases hg)
  current := (fun _ hg => by cases hg)
  pending := (weaker_cancelPending h).pending

theorem Weaker.fail {change : Hook × List Request} (hweaker : Weaker h change.1) (message : String)
    : Weaker h (Hook.fail change message).1 :=
  ⟨hweaker.grant, hweaker.current, hweaker.pending⟩

theorem weaker_leaveScope (h : Hook) (leaves : CaptureScope → Bool) (id : Uuid)
    : Weaker h (h.leaveScope leaves id).1 := by
  have hcurrent : ∀ (hook : Hook) g, hook.current.filter (fun g => !leaves g.scope) = some g
      → hook.current = some g := by
    intro hook g hg
    rw [Option.filter_eq_some_iff] at hg
    exact hg.1
  unfold Hook.leaveScope
  dsimp only
  split
  . refine ⟨(weaker_cancelPending h).grant, ?_, (weaker_cancelPending h).pending⟩
    intro g hg
    exact (weaker_cancelPending h).current g (hcurrent _ g hg)
  . exact ⟨fun _ hg => hg, fun g hg => hcurrent h g hg, fun _ hp => hp⟩

-- All that these send is releases.
def OnlyReleases (requests : List Request) : Prop :=
  ∀ request ∈ requests, ∃ a id token, request = .release a id token

theorem onlyReleases_giveBack (grant : Option Grant) (id : Uuid)
    : OnlyReleases (Hook.giveBack grant id) := by
  intro request hmem
  unfold Hook.giveBack at hmem
  rw [Option.mem_toList, Option.map_eq_some_iff] at hmem
  rcases hmem with ⟨g, _, rfl⟩
  exact ⟨_, _, _, rfl⟩

theorem onlyReleases_map (token : Option Uuid) (agentId id : Uuid)
    : OnlyReleases (token.map (fun t => Request.release agentId id t)).toList := by
  intro request hmem
  rw [Option.mem_toList, Option.map_eq_some_iff] at hmem
  rcases hmem with ⟨t, _, rfl⟩
  exact ⟨_, _, _, rfl⟩

theorem refuse_spec (h : Hook) (reply : Reply) (agentId id id' : Uuid)
    : Weaker h (h.refuse reply agentId id id').1
      ∧ OnlyReleases (h.refuse reply agentId id id').2 := by
  refine ⟨weaker_release h id', ?_⟩
  intro request hmem
  unfold Hook.refuse at hmem
  rcases List.mem_append.mp hmem with hmem | hmem
  . exact onlyReleases_map _ _ _ request hmem
  . exact onlyReleases_giveBack _ _ request hmem

theorem onGranted_eq (h : Hook) (r : Rendered) (now : Nat) (request : Pending) (reply : Reply)
    (token id id' : Uuid)
    : h.onGranted r now request reply token id id'
      = if request.kind = .heartbeat ∧ h.current.map Grant.token ≠ some token then
          Hook.fail (h.release id) "Control session changed. Take control again."
        else if request.sentAt + reply.expiresInMs * 10 ^ 6 ≤ now then
          Hook.fail (h.refuse reply r.agentId id id')
            "Control confirmation arrived too late. Try again."
        else
          ({ h with
              current := some ⟨{ request.scope with agentId := r.agentId }, token,
                request.sentAt + reply.expiresInMs * 10 ^ 6⟩
              grant := some ⟨{ request.scope with agentId := r.agentId }, token,
                request.sentAt + reply.expiresInMs * 10 ^ 6⟩
              feedback := "" }, []) :=
  rfl

-- What the granted reply to the pending request can do.
theorem onGranted_cases (h : Hook) (r : Rendered) (now : Nat) (request : Pending) (reply : Reply)
    (token id id' : Uuid)
    : OnlyReleases (h.onGranted r now request reply token id id').2
      ∧ (Weaker h (h.onGranted r now request reply token id id').1
        ∨ ∃ g, g.token = token ∧ g.deadline = request.sentAt + reply.expiresInMs * 10 ^ 6
          ∧ (h.onGranted r now request reply token id id').1
            = { h with current := some g, grant := some g, feedback := "" }) := by
  rw [onGranted_eq]
  split
  . exact ⟨onlyReleases_giveBack _ _, .inl ((weaker_release _ id).fail _)⟩
  . split
    . have hrefuse := refuse_spec h reply r.agentId id id'
      exact ⟨hrefuse.2, .inl (hrefuse.1.fail _)⟩
    . exact ⟨by simp [OnlyReleases], .inr ⟨_, rfl, rfl, rfl⟩⟩

/--
What an event can do: the hook gets weaker, or it believes the granted reply to its own request, for as
long as the reply lasts from the time at which the request was sent.
-/
theorem onEvent_cases (h : Hook) (r : Rendered) (now : Nat) (reply : Reply) (id id' : Uuid)
    : OnlyReleases (h.onEvent r now reply id id').2
      ∧ (Weaker h (h.onEvent r now reply id id').1
        ∨ ∃ request token g, h.pending = some request ∧ reply.requestId = some request.id
          ∧ reply.status = .granted ∧ reply.leaseToken = some token ∧ g.token = token
          ∧ g.deadline = request.sentAt + reply.expiresInMs * 10 ^ 6
          ∧ (h.onEvent r now reply id id').1.grant = some g
          ∧ (h.onEvent r now reply id id').1.current = some g
          ∧ (h.onEvent r now reply id id').1.pending = none) := by
  unfold Hook.onEvent
  split
  . exact ⟨onlyReleases_map _ _ _, .inl ⟨fun _ hg => hg, fun _ hg => hg, fun _ hp => hp⟩⟩
  . split
    . exact ⟨by simp [OnlyReleases], .inl (Weaker.refl h)⟩
    . split
      . exact ⟨onlyReleases_giveBack _ _, .inl ((weaker_release h id).fail _)⟩
      . split
        . exact ⟨by simp [OnlyReleases], .inl (Weaker.refl h)⟩
        . next request hrequest =>
          rw [Option.filter_eq_some_iff, decide_eq_true_eq] at hrequest
          have hweaker : ∀ h' : Hook, Weaker { h with pending := none, acquiring := none } h'
              → Weaker h h' := by
            intro h' hw
            exact ⟨hw.grant, hw.current, fun p hp => by cases hw.pending p hp⟩
          dsimp only
          split
          . next token htoken =>
            rw [Option.filter_eq_some_iff, decide_eq_true_eq] at htoken
            rcases onGranted_cases { h with pending := none, acquiring := none } r now request reply
              token id id' with ⟨honly, hw | ⟨g, hg, hdeadline, heq⟩⟩
            . exact ⟨honly, .inl (hweaker _ hw)⟩
            . rw [heq]
              exact ⟨honly, .inr ⟨request, token, g, hrequest.1, hrequest.2, htoken.2.1, htoken.1, hg,
                hdeadline, rfl, rfl, rfl⟩⟩
          . have hrefuse := refuse_spec { h with pending := none, acquiring := none } reply
              r.agentId id id'
            exact ⟨hrefuse.2, .inl (hweaker _ (hrefuse.1.fail _))⟩

-- A request of the hook has an id of its own and the time at which it was sent.
structure Requests (now : Nat) (id : Uuid) (h : Hook) (change : Hook × List Request) : Prop where
  grant : ∀ g, change.1.grant = some g → h.grant = some g
  current : ∀ g, change.1.current = some g → h.current = some g
  pending : ∀ p, change.1.pending = some p → h.pending = some p ∨ (p.id = id ∧ p.sentAt = now)
  requests : ∀ request ∈ change.2,
    (∃ a q token, request = .release a q token) ∨ request.requestId = id

theorem requests_of_weaker {now : Nat} {id : Uuid} {change : Hook × List Request}
    (hweaker : Weaker h change.1) (honly : OnlyReleases change.2) : Requests now id h change where
  grant := hweaker.grant
  current := hweaker.current
  pending := fun p hp => .inl (hweaker.pending p hp)
  requests := fun request hmem => .inl (honly request hmem)

theorem requests_acquire (h : Hook) (r : Rendered) (now : Nat) (id : Uuid)
    : Requests now id h (h.acquire r now id) := by
  have hnone : OnlyReleases [] := by simp [OnlyReleases]
  unfold Hook.acquire
  split
  . exact requests_of_weaker (Weaker.refl h) hnone
  . split
    . exact requests_of_weaker ⟨fun _ hg => hg, fun _ hg => hg, fun _ hp => hp⟩ hnone
    . split
      . exact requests_of_weaker ⟨fun _ hg => hg, fun _ hg => hg, fun _ hp => hp⟩ hnone
      . refine ⟨fun _ hg => hg, fun _ hg => hg, ?_, ?_⟩
        . intro p hp
          cases hp
          exact .inr ⟨rfl, rfl⟩
        . intro request hmem
          rw [List.mem_singleton] at hmem
          rw [hmem]
          exact .inr rfl

theorem requests_onTimer (h : Hook) (r : Rendered) (now : Nat) (id : Uuid)
    : Requests now id h (h.onTimer r now id) := by
  have hnone : OnlyReleases [] := by simp [OnlyReleases]
  have hrelease : ∀ message, Requests now id h (Hook.fail (h.release id) message) := by
    intro message
    exact requests_of_weaker ((weaker_release h id).fail message) (onlyReleases_giveBack _ _)
  unfold Hook.onTimer
  split
  . split
    . exact hrelease _
    . split
      . exact hrelease _
      . split
        . refine ⟨fun _ hg => hg, fun _ hg => hg, ?_, ?_⟩
          . intro p hp
            cases hp
            exact .inr ⟨rfl, rfl⟩
          . intro request hmem
            rw [List.mem_singleton] at hmem
            rw [hmem]
            exact .inr rfl
        . exact requests_of_weaker (Weaker.refl h) hnone
  . split
    . exact hrelease _
    . exact requests_of_weaker (Weaker.refl h) hnone

variable {s : Link}

/--
A change of the hook that believes nothing without backing, and asks only under an id that is new.
-/
theorem Sound.hookChange (hs : Sound s) {hook : Hook} {requests : List Request} {ids : List Uuid}
    {toDashboard : List Reply} (hids : s.ids ⊆ ids) (hsub : toDashboard ⊆ s.toDashboard)
    (hgrant : ∀ g, hook.grant = some g ∨ hook.current = some g → Backed s g.token g.deadline)
    (hpending : ∀ p, hook.pending = some p
      → s.hook.pending = some p ∨ (p.id ∉ s.ids ∧ p.id ∈ ids ∧ p.sentAt ≤ s.now))
    (hrequests : ∀ request ∈ requests,
      (∃ a q token, request = .release a q token) ∨ request.requestId ∈ ids)
    : Sound { s.setHook (hook, requests) with ids, toDashboard } := by
  have hbacked : ∀ token deadline, Backed s token deadline
      → Backed { s.setHook (hook, requests) with ids, toDashboard } token deadline :=
    fun _ _ hb => hb.congr rfl rfl (fun _ hmem => hmem)
  constructor
  . exact hs.tidy
  . exact hs.minted
  . exact hs.past
  . intro p hp
    rcases hpending p hp with hold | ⟨_, hid, hle⟩
    . exact ⟨(hs.pending p hold).1, hids (hs.pending p hold).2⟩
    . exact ⟨hle, hid⟩
  . intro request hmem
    rcases List.mem_append.mp hmem with hmem | hmem
    . rcases hs.requests request hmem with hrelease | hid
      . exact .inl hrelease
      . exact .inr (hids hid)
    . exact hrequests request hmem
  . intro reply hmem hgranted
    rcases hs.replies reply (hsub hmem) hgranted with ⟨id, token, hid, htoken, hmemId, hback⟩
    refine ⟨id, token, hid, htoken, hids hmemId, ?_⟩
    intro p hp heq
    rcases hpending p hp with hold | ⟨hnot, _⟩
    . exact hbacked _ _ (hback p hold heq)
    . rw [heq] at hnot
      exact absurd hmemId hnot
  . intro g hg
    exact hbacked _ _ (hgrant g hg)

theorem Sound.requests' (hs : Sound s) {id : Uuid} (hfresh : id ∉ s.ids)
    {change : Hook × List Request} (hchange : Requests s.now id s.hook change)
    : Sound { s.setHook change with ids := id :: s.ids } := by
  refine @Sound.hookChange s hs _ _ _ s.toDashboard ?_ ?_ ?_ ?_ ?_
  . exact fun _ hmem => List.mem_cons_of_mem _ hmem
  . exact fun _ hmem => hmem
  . intro g hg
    apply hs.grant
    rcases hg with hg | hg
    . exact .inl (hchange.grant g hg)
    . exact .inr (hchange.current g hg)
  . intro p hp
    rcases hchange.pending p hp with hold | ⟨hid, hsent⟩
    . exact .inl hold
    . rw [hid, hsent]
      exact .inr ⟨hfresh, List.mem_cons_self, Nat.le_refl _⟩
  . intro request hmem
    rcases hchange.requests request hmem with hrelease | hid
    . exact .inl hrelease
    . rw [hid]
      exact .inr List.mem_cons_self

theorem Sound.weaker (hs : Sound s) {change : Hook × List Request}
    (hweaker : Weaker s.hook change.1) (honly : OnlyReleases change.2)
    : Sound (s.setHook change) := by
  refine @Sound.hookChange s hs _ _ s.ids s.toDashboard ?_ ?_ ?_ ?_ ?_
  . exact fun _ hmem => hmem
  . exact fun _ hmem => hmem
  . intro g hg
    apply hs.grant
    rcases hg with hg | hg
    . exact .inl (hweaker.grant g hg)
    . exact .inr (hweaker.current g hg)
  . intro p hp
    exact .inl (hweaker.pending p hp)
  . intro request hmem
    exact .inl (honly request hmem)

theorem Sound.event (hs : Sound s) (r : Rendered) (id id' : Uuid)
    : Sound (s.exec (.event r id id')) := by
  dsimp only [Link.exec]
  split
  . exact hs
  . next reply rest hqueue =>
    rcases onEvent_cases s.hook r s.now reply id id' with ⟨honly, hcases⟩
    have hsub : rest ⊆ s.toDashboard := by
      rw [hqueue]
      exact List.subset_cons_self _ _
    refine @Sound.hookChange s hs _ _ s.ids rest (fun _ hmem => hmem) hsub ?_ ?_ ?_
    . intro g hg
      rcases hcases with hweaker | ⟨request, token, next, hpending, hid, hgranted, htoken, heq, hdeadline,
        hgrant, hcurrent, _⟩
      . apply hs.grant
        rcases hg with hg | hg
        . exact .inl (hweaker.grant g hg)
        . exact .inr (hweaker.current g hg)
      . have hsame : next = g := by
          rcases hg with hg | hg
          . exact Option.some.inj (hgrant.symm.trans hg)
          . exact Option.some.inj (hcurrent.symm.trans hg)
        have hmem : reply ∈ s.toDashboard := by
          rw [hqueue]
          exact List.mem_cons_self
        rcases hs.replies reply hmem hgranted with ⟨q, t, hq, ht, _, hback⟩
        rw [hid] at hq
        rw [htoken] at ht
        cases hq
        cases ht
        rw [← hsame, heq, hdeadline]
        exact hback request hpending rfl
    . intro p hp
      rcases hcases with hweaker | ⟨_, _, _, _, _, _, _, _, _, _, _, hnone⟩
      . exact .inl (hweaker.pending p hp)
      . have := hnone.symm.trans hp
        cases this
    . intro request hmem
      exact .inl (honly request hmem)

end Dashboard

theorem Sound.unused {s : Link} (hs : Sound s) {token : Uuid} (hfresh : token ∉ s.minted)
    : Unused token s.sessions := by
  intro a lease hlookup heq
  rw [← heq] at hfresh
  exact hfresh (hs.minted a lease hlookup)

theorem Sound.serve {s : Link} (hs : Sound s) {v : Verdict} {token : Uuid}
    (hfresh : token ∉ s.minted) : Sound (s.exec (.serve v token)) := by
  dsimp only [Link.exec]
  split
  . exact hs
  . next request rest hqueue =>
    rcases lawful_serve hs.tidy (hs.unused hfresh) v request with ⟨⟨fresh, htoken, hlawful⟩, hreply⟩
    have hsub : rest ⊆ s.toServer := by
      rw [hqueue]
      exact List.subset_cons_self _ _
    have hnew : ∀ t ∈ s.minted, ∀ a, fresh ≠ some (a, t) := by
      intro t hmem a heq
      rw [htoken a t heq] at hmem
      exact hfresh hmem
    have hminted : ∀ a t, fresh = some (a, t) → t ∈ token :: s.minted := by
      intro a t heq
      rw [htoken a t heq]
      exact List.mem_cons_self
    refine hs.change hlawful hnew (List.subset_cons_self _ _) hminted hsub ?_
    intro reply hmem hgranted
    rw [List.mem_singleton] at hmem
    rw [hmem] at hgranted ⊢
    rcases hreply hgranted with ⟨hid, hrelease, a, lease, hlease, hleaseToken, hle⟩
    have hids : request.requestId ∈ s.ids := by
      have hrequest : request ∈ s.toServer := by
        rw [hqueue]
        exact List.mem_cons_self
      rcases hs.requests request hrequest with ⟨b, q, t, heq⟩ | hids
      . exact absurd heq (hrelease b q t)
      . exact hids
    refine ⟨_, _, hid, hleaseToken, hids, ?_⟩
    intro p hp _
    have hsent := (hs.pending p hp).1
    constructor
    . rcases hlawful.kept a lease hlease with ⟨old, hold, heq, _⟩ | ⟨heq, _⟩
      . rw [← heq]
        exact List.mem_cons_of_mem _ (hs.minted a old hold)
      . exact hminted _ _ heq
    . intro b other hother heq
      have hother' : (ControlLease.serve s.sessions v request s.now token).sessions.lookup b = some other :=
        hother
      have hsame := hlawful.tidy.unique b a other lease hother' hlease heq
      rw [hsame, hlease] at hother'
      cases hother'
      omega
    . -- What is in the table has not been removed.
      intro removal hremoval heq _
      rcases List.mem_append.mp hremoval with hremoval | hremoval
      . rcases hs.past removal hremoval with ⟨_, hmem', hgone⟩
        rcases hlawful.kept a lease hlease with ⟨old, hold, hsame, _⟩ | ⟨hsame, _⟩
        . exact absurd (hsame.trans heq.symm) (hgone a old hold)
        . rw [← heq] at hsame
          exact absurd hsame (hnew _ hmem' a)
      . rw [List.mem_map] at hremoval
        rcases hremoval with ⟨c, hc, rfl⟩
        exact absurd heq.symm (hlawful.gone c hc a lease hlease)
    . exact .inl ⟨a, lease, hlease, rfl⟩

theorem Sound.step {s : Link} (hs : Sound s) {op : Op} (hfresh : s.Fresh op) : Sound (s.exec op) := by
  cases op with
  | tick elapsed =>
    have hbacked : ∀ token deadline, Backed s token deadline
        → Backed { s with now := s.now + elapsed } token deadline :=
      fun _ _ hb => hb.congr rfl rfl (fun _ hmem => hmem)
    constructor
    . refine ⟨?_, hs.tidy.unique⟩
      intro a lease hlookup
      have := hs.tidy.bounded a lease hlookup
      dsimp only [Link.exec]
      omega
    . exact hs.minted
    . intro removal hmem
      rcases hs.past removal hmem with ⟨hpast, hrest⟩
      refine ⟨?_, hrest⟩
      dsimp only [Link.exec]
      omega
    . intro p hp
      rcases hs.pending p hp with ⟨hle, hid⟩
      refine ⟨?_, hid⟩
      dsimp only [Link.exec]
      omega
    . exact hs.requests
    . intro reply hmem hgranted
      rcases hs.replies reply hmem hgranted with ⟨id, token, hid, htoken, hids, hback⟩
      exact ⟨id, token, hid, htoken, hids, fun p hp heq => hbacked _ _ (hback p hp heq)⟩
    . intro g hg
      exact hbacked _ _ (hs.grant g hg)
  | acquire r id => exact hs.requests' hfresh (requests_acquire s.hook r s.now id)
  | event r id id' => exact hs.event r id id'
  | timer r id => exact hs.requests' hfresh (requests_onTimer s.hook r s.now id)
  | release id => exact hs.weaker (weaker_release s.hook id) (onlyReleases_giveBack _ _)
  | enterScope r id => exact hs.weaker (weaker_leaveScope s.hook _ id) (onlyReleases_giveBack _ _)
  | cleanup r id => exact hs.weaker (weaker_leaveScope s.hook _ id) (onlyReleases_giveBack _ _)
  | unmount id =>
    have hweaker : Weaker s.hook (s.hook.unmount id).1 :=
      ⟨(weaker_cancelPending s.hook).grant, (fun _ hg => by cases hg),
        (weaker_cancelPending s.hook).pending⟩
    exact hs.weaker hweaker (onlyReleases_giveBack _ _)
  | disable id =>
    have hweaker : Weaker s.hook (s.hook.disable id).1 :=
      ⟨(fun _ hg => by cases hg), (fun _ hg => by cases hg), (weaker_cancelPending s.hook).pending⟩
    exact hs.weaker hweaker (onlyReleases_giveBack _ _)
  | disconnect =>
    have hbacked : ∀ token deadline, Backed s token deadline
        → Backed { s with toServer := [], toDashboard := [] } token deadline :=
      fun _ _ hb => hb.congr rfl rfl (fun _ hmem => hmem)
    refine ⟨hs.tidy, hs.minted, hs.past, hs.pending, ?_, ?_, ?_⟩
    . intro request hmem
      cases hmem
    . intro reply hmem
      cases hmem
    . intro g hg
      exact hbacked _ _ (hs.grant g hg)
  | serve v fresh => exact hs.serve hfresh
  | push reply =>
    have hbacked : ∀ token deadline, Backed s token deadline
        → Backed { s with toDashboard := s.toDashboard ++ [reply] } token deadline :=
      fun _ _ hb => hb.congr rfl rfl (fun _ hmem => hmem)
    refine ⟨hs.tidy, hs.minted, hs.past, hs.pending, hs.requests, ?_, ?_⟩
    . intro other hmem hgranted
      rcases List.mem_append.mp hmem with hmem | hmem
      . rcases hs.replies other hmem hgranted with ⟨id, token, hid, htoken, hids, hback⟩
        exact ⟨id, token, hid, htoken, hids, fun p hp heq => hbacked _ _ (hback p hp heq)⟩
      . rw [List.mem_singleton] at hmem
        rw [hmem] at hgranted
        exact absurd hgranted hfresh
    . intro g hg
      exact hbacked _ _ (hs.grant g hg)
  | otherAcquire a owner fresh =>
    have hlawful := (lawful_acquire hs.tidy (hs.unused hfresh) a owner).1
    have hsound := @Sound.change s _ _ _ hs hlawful
      (fun token hmem b heq => by cases heq; exact hfresh hmem) (fresh :: s.minted)
      (List.subset_cons_self _ _) (fun b token heq => by cases heq; exact List.mem_cons_self)
      s.toServer (fun _ hmem => hmem) [] (by simp)
    simpa [Link.exec, Link.setSessions] using hsound
  | otherHeartbeat a owner token => exact hs.keep (lawful_heartbeat hs.tidy a owner token).1
  | otherRelease a owner token => exact hs.keep (lawful_release hs.tidy a owner token)
  | authorizeAndTrack a owner token cmd =>
    exact hs.keep (lawful_authorizeAndTrack hs.tidy a owner token cmd)
  | expireAgent a => exact hs.keep (Lawful.expireAgent hs.tidy a)
  | expire => exact hs.keep (Lawful.expire hs.tidy)
  | revokeViewer viewer => exact hs.keep (Lawful.revokeViewer hs.tidy viewer)
  | revokeAgent a conn => exact hs.keep (Lawful.revokeAgent hs.tidy a conn)

theorem reachable_sound {s : Link} (h : Link.Reachable s) : Sound s := by
  induction h with
  | refl => exact Sound.init
  | tail _ hstep ih =>
    rcases hstep with ⟨op, hfresh, rfl⟩
    exact ih.step hfresh

/--
While the deadline of a token has not passed for the dashboard, every lease of the server with this
token has time left, none was removed because its time was up, and if there is no lease any more, it was
released or revoked.
-/
theorem no_expired_belief {s : Link} (h : Link.Reachable s) {g : Grant}
    (hg : s.hook.grant = some g ∨ s.hook.current = some g) (hlive : s.now < g.deadline)
    : (∀ a lease, s.sessions.lookup a = some lease → lease.grant.token = g.token
        → s.now < lease.grant.expiresAt)
      ∧ (∀ removal ∈ s.removed, removal.token = g.token → removal.reason ≠ .expired)
      ∧ ((∃ a lease, s.sessions.lookup a = some lease ∧ lease.grant.token = g.token)
        ∨ ∃ removal ∈ s.removed, removal.token = g.token ∧ removal.reason ≠ .expired) := by
  have hsound := reachable_sound h
  have hbacked := hsound.grant g hg
  have hremoved : ∀ removal ∈ s.removed, removal.token = g.token → removal.reason ≠ .expired := by
    intro removal hmem htoken hreason
    have hdeadline := hbacked.removed removal hmem htoken hreason
    have hpast := (hsound.past removal hmem).1
    omega
  refine ⟨?_, hremoved, ?_⟩
  . intro a lease hlookup htoken
    exact Nat.lt_of_lt_of_le hlive (hbacked.lease a lease hlookup htoken)
  . rcases hbacked.held with hlease | ⟨removal, hmem, htoken⟩
    . exact .inl hlease
    . exact .inr ⟨removal, hmem, htoken, hremoved removal hmem htoken⟩

/-!
A lease that is taken while the reply is late.
-/

namespace Example

def page : Rendered where
  agentId := 1
  captureSession := some "00000000-0000-0000-0000-000000000001"
  captureIdentity := some "a:1"
  allowed := true
  scope := 1
  capture := some "00000000-0000-0000-0000-000000000001"
  stamp := some (some "a:1")
  hidden := false

def verdict : Verdict :=
  { owner := some ⟨2, 3, 4⟩, authorized := true, settled := true, capture := true, safe := true }

def taken : Link :=
  Link.init.run [.acquire page 5, .tick (10 ^ 9), .serve verdict 6, .tick (10 ^ 9), .event page 7 8]

end Example

theorem no_expired_belief_taken
    : ∃ g, Example.taken.hook.grant = some g ∧ Example.taken.now < g.deadline
      ∧ ∀ a lease, Example.taken.sessions.lookup a = some lease → lease.grant.token = g.token
        → Example.taken.now < lease.grant.expiresAt := by
  have hreachable : Link.Reachable Example.taken :=
    Link.reachable_run .refl (by decide +kernel)
  have hg : Example.taken.hook.grant
      = some ⟨⟨1, "00000000-0000-0000-0000-000000000001", some "a:1"⟩, 6, 15 * 10 ^ 9⟩ := by
    decide +kernel
  have hlive : Example.taken.now < 15 * 10 ^ 9 := by
    decide +kernel
  exact ⟨_, hg, hlive, (no_expired_belief hreachable (.inl hg) hlive).1⟩

end ControlLease

end Vantyr
