import Vantyr.Server.Enrollment.Accounting

/-!
This module contains the delivery of a token: what is stored for the agent when its claim is approved, and
which of its polls carries the token. An approval commits before it publishes the token, so a poll in
between is answered as if the token had been retrieved.
-/

namespace Vantyr

namespace Enrollment

/-!
The credential of an approved claim.
-/

structure Secured (db : Database) (claimId agentId : Uuid) (hash : String) : Prop where
  agent : ∃ agent, db.agents.lookup agentId = some agent ∧ agent.apiTokenHash = some hash
  others : ∀ c claim i invite, c ≠ claimId → db.claims.lookup c = some claim
    → claim.inviteId = some i → db.invites.lookup i = some invite → invite.revokedAt = none
    → invite.boundAgentId ≠ some agentId
  spent : ∀ i invite, db.invites.lookup i = some invite → invite.revokedAt = none
    → invite.boundAgentId = some agentId → invite.usesRemaining ≤ 0

section Secured

variable {sha256Hex : String → String} {hashPassword : String → String → String}
  {db db' : Database} {claimId agentId : Uuid} {hash : String} {log : List Event} {now : Nat}

theorem Secured.change (h : Secured db claimId agentId hash)
    (hinvites : ∀ i invite', db'.invites.lookup i = some invite' → invite'.revokedAt = none
      → invite'.boundAgentId = some agentId
      → ∃ invite, db.invites.lookup i = some invite ∧ invite.revokedAt = none
        ∧ invite.boundAgentId = some agentId ∧ invite'.usesRemaining ≤ invite.usesRemaining)
    (hclaims : ∀ c claim' i, c ≠ claimId → db'.claims.lookup c = some claim'
      → claim'.inviteId = some i
      → (∃ claim, db.claims.lookup c = some claim ∧ claim.inviteId = some i)
        ∨ ∃ invite, db.invites.lookup i = some invite ∧ invite.revokedAt = none
          ∧ 0 < invite.usesRemaining)
    (hagent : ∀ agent, db.agents.lookup agentId = some agent
      → ∃ agent', db'.agents.lookup agentId = some agent'
        ∧ agent'.apiTokenHash = agent.apiTokenHash)
    : Secured db' claimId agentId hash where
  agent := by
    rcases h.agent with ⟨agent, hlookup, hhash⟩
    rcases hagent agent hlookup with ⟨agent', hlookup', heq⟩
    exact ⟨agent', hlookup', heq.trans hhash⟩
  others := by
    intro c claim' i invite' hne hc hi hinvite hrevoked hbound
    rcases hinvites i invite' hinvite hrevoked hbound with ⟨invite, hold, holdRevoked, holdBound, _⟩
    rcases hclaims c claim' i hne hc hi with ⟨claim, hclaim, hlink⟩ | ⟨other, hother, _, hpos⟩
    . exact h.others c claim i invite hne hclaim hlink hold holdRevoked holdBound
    . rw [hold] at hother
      cases hother
      have := h.spent i invite hold holdRevoked holdBound
      omega
  spent := by
    intro i invite' hinvite hrevoked hbound
    rcases hinvites i invite' hinvite hrevoked hbound with
      ⟨invite, hold, holdRevoked, holdBound, hle⟩
    have := h.spent i invite hold holdRevoked holdBound
    omega

theorem Secured.revokeInvites (h : Secured db claimId agentId hash) (now : Nat)
    (which : Invite → Bool) : Secured (db.revokeInvites now which) claimId agentId hash := by
  apply h.change
  . intro i invite' hinvite hrevoked hbound
    dsimp only [Database.revokeInvites] at hinvite
    rw [Table.lookup_mapValues, Option.map_eq_some_iff] at hinvite
    rcases hinvite with ⟨invite, hold, rfl⟩
    split at hrevoked
    . cases hrevoked
    . next hkept =>
      rw [if_neg hkept] at hbound ⊢
      exact ⟨invite, hold, hrevoked, hbound, Int.le_refl _⟩
  . intro c claim i _ hc hi
    exact .inl ⟨claim, hc, hi⟩
  . intro agent hagent
    exact ⟨agent, hagent, rfl⟩

theorem Secured.revokeEnrollmentToken (h : Secured db claimId agentId hash) (now : Nat) (id : Uuid)
    : Secured (db.revokeEnrollmentToken now id) claimId agentId hash := by
  unfold Database.revokeEnrollmentToken
  split
  . exact h
  . apply h.change
    . intro i invite' hinvite hrevoked hbound
      dsimp only at hinvite
      rw [Table.lookup_insert_eq] at hinvite
      split at hinvite
      . cases hinvite
        cases hrevoked
      . exact ⟨invite', hinvite, hrevoked, hbound, Int.le_refl _⟩
    . intro c claim i _ hc hi
      exact .inl ⟨claim, hc, hi⟩
    . intro agent hagent
      exact ⟨agent, hagent, rfl⟩

theorem Secured.issue (h : Secured db claimId agentId hash) {fresh : Uuid} {invite : Invite}
    (hbound : invite.boundAgentId ≠ some agentId)
    : Secured { db with invites := db.invites.insert fresh invite } claimId agentId hash := by
  apply h.change
  . intro i invite' hinvite hrevoked hagent
    dsimp only at hinvite
    rw [Table.lookup_insert_eq] at hinvite
    split at hinvite
    . cases hinvite
      exact absurd hagent hbound
    . exact ⟨invite', hinvite, hrevoked, hagent, Int.le_refl _⟩
  . intro c claim i _ hc hi
    exact .inl ⟨claim, hc, hi⟩
  . intro agent hagent
    exact ⟨agent, hagent, rfl⟩

theorem Secured.setTokenHash (h : Secured db claimId agentId hash) {a : Uuid}
    (hne : a ≠ agentId) (new : Option String)
    : Secured (db.setTokenHash a new) claimId agentId hash := by
  apply h.change
  . intro i invite hinvite hrevoked hbound
    rw [(setTokenHash_tables _ _ _).1] at hinvite
    exact ⟨invite, hinvite, hrevoked, hbound, Int.le_refl _⟩
  . intro c claim i _ hc hi
    rw [(setTokenHash_tables _ _ _).2] at hc
    exact .inl ⟨claim, hc, hi⟩
  . intro agent hagent
    rw [lookup_setTokenHash, hagent]
    refine ⟨_, rfl, ?_⟩
    dsimp only
    rw [if_neg hne.symm]

theorem Secured.revokeAgentCredentials (h : Secured db claimId agentId hash) (now : Nat) {a : Uuid}
    (hne : a ≠ agentId) : Secured (db.revokeAgentCredentials now a) claimId agentId hash :=
  (h.revokeInvites now _).setTokenHash hne none

theorem Secured.deleteAgent (h : Secured db claimId agentId hash) {a : Uuid} (hne : a ≠ agentId)
    : Secured (db.deleteAgent a) claimId agentId hash := by
  apply h.change
  . intro i invite' hinvite hrevoked hbound
    dsimp only [Database.deleteAgent] at hinvite
    rw [Table.lookup_mapValues, Option.map_eq_some_iff] at hinvite
    rcases hinvite with ⟨invite, hold, rfl⟩
    rw [Option.filter_eq_some_iff] at hbound
    exact ⟨invite, hold, hrevoked, hbound.1, Int.le_refl _⟩
  . intro c claim' i _ hc hi
    dsimp only [Database.deleteAgent] at hc
    rw [Table.lookup_mapValues, Option.map_eq_some_iff] at hc
    rcases hc with ⟨claim, hold, rfl⟩
    exact .inl ⟨claim, hold, hi⟩
  . intro agent hagent
    dsimp only [Database.deleteAgent]
    rw [Table.lookup_erase_eq, if_neg hne.symm]
    exact ⟨agent, hagent, rfl⟩

theorem Secured.foldl {f : Database → Uuid → Database}
    (hf : ∀ db a, a ≠ agentId → Secured db claimId agentId hash → Secured (f db a) claimId agentId hash)
    {ids : List Uuid} (hids : agentId ∉ ids) (h : Secured db claimId agentId hash)
    : Secured (ids.foldl f db) claimId agentId hash := by
  induction ids generalizing db with
  | nil => exact h
  | cons id ids ih =>
    rw [List.mem_cons, not_or] at hids
    exact ih hids.2 (hf db id (Ne.symm hids.1) h)

theorem Secured.deleteAgents (h : Secured db claimId agentId hash) (now : Nat) {ids : List Uuid}
    (hids : agentId ∉ ids) : Secured (db.deleteAgents now ids) claimId agentId hash :=
  Secured.foldl (fun _ _ hne hdb => hdb.deleteAgent hne) hids
    (Secured.foldl (fun _ _ hne hdb => hdb.revokeAgentCredentials now hne) hids h)

theorem Secured.insertClaim (h : Secured db claimId agentId hash) {id : Uuid} {claim : Claim}
    (hlink : ∀ i, claim.inviteId = some i
      → (∃ old, db.claims.lookup id = some old ∧ old.inviteId = some i)
        ∨ ∃ invite, db.invites.lookup i = some invite ∧ invite.revokedAt = none
          ∧ 0 < invite.usesRemaining)
    : Secured { db with claims := db.claims.insert id claim } claimId agentId hash := by
  apply h.change
  . intro i invite hinvite hrevoked hbound
    exact ⟨invite, hinvite, hrevoked, hbound, Int.le_refl _⟩
  . intro c claim' i _ hc hi
    dsimp only at hc
    rw [Table.lookup_insert_eq] at hc
    split at hc
    . next heq =>
      cases hc
      rw [heq]
      exact hlink i hi
    . exact .inl ⟨claim', hc, hi⟩
  . intro agent hagent
    exact ⟨agent, hagent, rfl⟩

theorem Secured.useInvite (h : Secured db claimId agentId hash) {id : Uuid} {invite : Invite}
    (hinvite : db.invites.lookup id = some invite)
    : Secured (db.useInvite id invite) claimId agentId hash := by
  apply h.change
  . intro i invite' hlookup hrevoked hbound
    dsimp only [Database.useInvite] at hlookup
    rw [Table.lookup_insert_eq] at hlookup
    split at hlookup
    . next heq =>
      cases hlookup
      rw [heq]
      refine ⟨invite, hinvite, hrevoked, hbound, ?_⟩
      dsimp only
      omega
    . exact ⟨invite', hlookup, hrevoked, hbound, Int.le_refl _⟩
  . intro c claim i _ hc hi
    exact .inl ⟨claim, hc, hi⟩
  . intro agent hagent
    exact ⟨agent, hagent, rfl⟩

theorem Secured.createClaim (h : Secured db claimId agentId hash) {input : ClaimInput}
    {fresh id : Uuid} {auto : Bool} (hfresh : db.claims.lookup fresh = none)
    (hcreated : db.createClaim sha256Hex now input fresh = .ok (db', id, auto))
    : Secured db' claimId agentId hash := by
  rcases createClaim_cases hfresh hcreated with
    ⟨claim, _, _, ⟨rfl, hlink⟩ | ⟨i, invite, hi, hrevoked, hpos, hlink, rfl⟩⟩
  . apply h.insertClaim
    intro i hi
    rcases hlink with hnone | ⟨old, hold, heq⟩
    . rw [hnone] at hi
      cases hi
    . exact .inl ⟨old, hold, heq ▸ hi⟩
  . -- The invite is not bound to the agent, since it has a use left.
    have hinserted : Secured { db with claims := db.claims.insert id claim } claimId agentId hash := by
      apply h.insertClaim
      intro j hj
      rw [hlink] at hj
      cases hj
      exact .inr ⟨invite, hi, hrevoked, hpos⟩
    exact hinserted.useInvite hi

theorem Secured.rejectClaim (h : Secured db claimId agentId hash) {id : Uuid}
    {error : Option String} (hrejected : db.rejectClaim id error = some db')
    : Secured db' claimId agentId hash := by
  rcases rejectClaim_cases hrejected with ⟨claim, rejected, hclaim, _, _, hinvite, rfl⟩
  apply h.insertClaim
  intro i hi
  exact .inl ⟨claim, hclaim, hinvite ▸ hi⟩

-- Another claim is not approved for the same agent.
theorem Secured.approveClaim (h : Secured db claimId agentId hash) {id other fresh : Uuid}
    {agentName : Option String} {expected : Option Uuid} {new name : String} {claim : Claim}
    (hne : id ≠ claimId) (hfresh : db.agents.lookup fresh = none)
    (happroved : db.approveClaim now id agentName expected new fresh = .ok (db', claim, other, name))
    : Secured db' claimId agentId hash := by
  rcases approveClaim_cases happroved with ⟨hlock, issued, rfl, hissued⟩
  rcases lockClaimForApproval_ok hlock with ⟨hclaim, _, hbound, hvalid⟩
  unfold Database.markClaimApproved
  rcases hissued with ⟨rfl, _, rfl⟩ | ⟨_, _, rfl⟩
  . have hother : other ≠ agentId := by
      intro heq
      unfold Database.boundAgentOf at hbound
      rw [heq, Option.bind_eq_some_iff] at hbound
      rcases hbound with ⟨invite, hinvite, hagent⟩
      rw [Option.bind_eq_some_iff] at hinvite
      rcases hinvite with ⟨i, hi, hlookup⟩
      rcases hvalid i hi with ⟨invite', hinvite', hrevoked, _⟩
      rw [hlookup] at hinvite'
      cases hinvite'
      exact h.others id claim i invite hne hclaim hi hlookup hrevoked hagent
    apply (h.setTokenHash hother (some new)).insertClaim
    intro i hi
    rw [(setTokenHash_tables _ _ _).2]
    exact .inl ⟨claim, hclaim, hi⟩
  . have hagents : Secured { db with agents := db.agents.insert fresh ⟨name, some new⟩ }
        claimId agentId hash := by
      apply h.change
      . intro i invite hinvite hrevoked hbound
        exact ⟨invite, hinvite, hrevoked, hbound, Int.le_refl _⟩
      . intro c claim i _ hc hi
        exact .inl ⟨claim, hc, hi⟩
      . intro agent hagent
        dsimp only
        rw [AList.lookup_insert_ne]
        . exact ⟨agent, hagent, rfl⟩
        . intro heq
          rw [heq, hfresh] at hagent
          cases hagent
    apply hagents.insertClaim
    intro i hi
    exact .inl ⟨claim, hclaim, hi⟩

-- The approval itself: its invite is spent, and no other one is valid for the agent.
theorem Accounted.secured (h : Accounted db log) {fresh : Uuid} {agentName : Option String}
    {expected : Option Uuid} {name : String} {claim : Claim}
    (hfresh : db.agents.lookup fresh = none)
    (happroved : db.approveClaim now claimId agentName expected hash fresh
      = .ok (db', claim, agentId, name))
    : Secured db' claimId agentId hash := by
  rcases approveClaim_cases happroved with ⟨hlock, issued, rfl, hissued⟩
  rcases lockClaimForApproval_ok hlock with ⟨hclaim, _, hbound, hvalid⟩
  have hclaims : ∀ c other i, c ≠ claimId
      → (issued.markClaimApproved claimId claim agentId hash).claims.lookup c = some other
      → other.inviteId = some i
      → issued.claims.lookup c = some other := by
    intro c other i hne hc _
    dsimp only [Database.markClaimApproved] at hc
    rw [AList.lookup_insert_ne hne] at hc
    exact hc
  rcases hissued with ⟨hexpected, hagent, rfl⟩ | ⟨_, rfl, rfl⟩
  . rw [hexpected] at hbound
    unfold Database.boundAgentOf at hbound
    rw [Option.bind_eq_some_iff] at hbound
    rcases hbound with ⟨invite, hinvite, hboundAgent⟩
    rw [Option.bind_eq_some_iff] at hinvite
    rcases hinvite with ⟨i, hi, hlookup⟩
    rcases hvalid i hi with ⟨invite', hinvite', hrevoked, _⟩
    rw [hlookup] at hinvite'
    cases hinvite'
    have huses := h.boundUses i invite agentId hlookup hboundAgent
    constructor
    . rcases Option.isSome_iff_exists.mp hagent with ⟨agent, hagent⟩
      refine ⟨{ agent with apiTokenHash := some hash }, ?_, rfl⟩
      dsimp only [Database.markClaimApproved]
      rw [lookup_setTokenHash, hagent]
      simp
    . intro c other j otherInvite hne hc hj hotherInvite hotherRevoked hotherBound
      have hc' := hclaims c other j hne hc hj
      rw [(setTokenHash_tables _ _ _).2] at hc'
      dsimp only [Database.markClaimApproved] at hotherInvite
      rw [(setTokenHash_tables _ _ _).1] at hotherInvite
      have heq := h.boundOnce i j invite otherInvite agentId hlookup hotherInvite hrevoked
        hotherRevoked hboundAgent hotherBound
      rw [← heq] at hj
      have htwo := two_le_attached (Ne.symm hne) hclaim hc' hi hj
      have hpos := h.uses i invite hlookup
      omega
    . intro j otherInvite hotherInvite hotherRevoked hotherBound
      dsimp only [Database.markClaimApproved] at hotherInvite
      rw [(setTokenHash_tables _ _ _).1] at hotherInvite
      have heq := h.boundOnce i j invite otherInvite agentId hlookup hotherInvite hrevoked
        hotherRevoked hboundAgent hotherBound
      rw [← heq, hlookup] at hotherInvite
      cases hotherInvite
      have hone := one_le_attached hclaim hi
      omega
  . have hnone : ∀ i invite, db.invites.lookup i = some invite
        → invite.boundAgentId ≠ some agentId := by
      intro i invite hinvite hboundAgent
      have := h.boundExists i invite agentId hinvite hboundAgent
      rw [hfresh] at this
      cases this
    constructor
    . refine ⟨⟨name, some hash⟩, ?_, rfl⟩
      dsimp only [Database.markClaimApproved]
      rw [AList.lookup_insert]
    . intro c other j otherInvite _ _ _ hotherInvite _
      exact hnone j otherInvite hotherInvite
    . intro j otherInvite hotherInvite _ hotherBound
      exact absurd hotherBound (hnone j otherInvite hotherInvite)

end Secured

/-!
The way of the token.
-/

def Event.deliveryTo (claimId : Uuid) : Event → Option String
  | .delivered c token => if c = claimId then some token else none
  | _ => none

def isIssued : ApprovalPhase → Bool
  | .issued _ => true
  | _ => false

namespace System

def deliveries (s : System) (claimId : Uuid) : List String :=
  s.log.filterMap (Event.deliveryTo claimId)

-- An approval of the claim has committed, but has not published its token.
def unpublished (s : System) (claimId : Uuid) : Bool :=
  (Table.values s.approvals).any (fun approval =>
    approval.claimId = claimId && isIssued approval.phase)

-- A poll of the claim has loaded it as approved, and looks for the token next.
def loadedApproved (s : System) (claimId : Uuid) : Bool :=
  match s.loops.lookup claimId with
  | some ⟨_, .loaded _ row⟩ => row.any (fun claim => claim.status = .approved)
  | _ => false

def enrolledAs (s : System) (claimId agentId : Uuid) : Bool :=
  (s.db.claims.lookup claimId).any (fun claim => claim.agentId = some agentId)

/--
A step that neither answers a poll of the claim between the commit and the publication of its approval,
nor revokes the agent that the claim was approved for.
-/
def undisturbed (claimId : Uuid) (s : System) : Op → Bool
  | .answerPoll c => !(c = claimId && s.loadedApproved claimId && s.unpublished claimId)
  | .revokeCredentials agentId => !s.enrolledAs claimId agentId
  | .replaceInstallation agentId _ _ => !s.enrolledAs claimId agentId
  | .deleteAgents ids => !ids.any (s.enrolledAs claimId)
  | .dropTokens ids => !ids.any (s.enrolledAs claimId)
  | _ => true

def Undisturbed (claimId : Uuid) (s : System) (op : Op) : Prop :=
  s.undisturbed claimId op = true

def IssuedTo (s : System) (claimId : Uuid) (handler : Nat) (token : PendingToken) : Prop :=
  ∃ agentName, s.approvals.lookup handler = some ⟨claimId, agentName, .issued token⟩

theorem unpublished_iff {s : System} {claimId : Uuid}
    : s.unpublished claimId = true ↔ ∃ handler token, s.IssuedTo claimId handler token := by
  unfold unpublished
  rw [List.any_eq_true]
  constructor
  . intro h
    rcases h with ⟨⟨c, name, phase⟩, hmem, h⟩
    rw [Table.mem_values] at hmem
    rcases hmem with ⟨handler, hlookup⟩
    rw [Bool.and_eq_true, decide_eq_true_eq] at h
    cases phase with
    | issued token =>
      refine ⟨handler, token, name, ?_⟩
      rw [hlookup, ← h.1]
    | found | gated => cases h.2
  . intro h
    rcases h with ⟨handler, token, name, hlookup⟩
    exact ⟨_, Table.mem_values.mpr ⟨handler, hlookup⟩, by simp [isIssued]⟩

end System

def Polling.running : Polling → Bool
  | .adopted _ _ => false
  | .failed _ => false
  | _ => true

def isToken (token : String) : Prop :=
  token.toList.length = 43 ∧ token.toList.all System.isTokenCharacter = true

-- No token of the claim is anywhere.
structure Untouched (s : System) (claimId : Uuid) : Prop where
  issued : ∀ handler token, ¬ s.IssuedTo claimId handler token
  pending : s.pendingTokens.lookup claimId = none
  delivered : s.deliveries claimId = []
  polling : ∀ loop, s.loops.lookup claimId = some loop → ∀ token name, loop.polling ≠ .adopted token name

-- Where the token of an approved claim is.
inductive Stage (s : System) (claimId : Uuid) (pending : PendingToken) : Prop where
  | unpublished (handler : Nat) (hissued : s.IssuedTo claimId handler pending)
      (honly : ∀ other token, s.IssuedTo claimId other token → other = handler)
      (hpending : s.pendingTokens.lookup claimId = none) (hdelivered : s.deliveries claimId = [])
      (hrunning : ∀ loop, s.loops.lookup claimId = some loop → loop.polling.running = true)
  | published (hissued : ∀ handler token, ¬ s.IssuedTo claimId handler token)
      (hpending : s.pendingTokens.lookup claimId = some pending)
      (hdelivered : s.deliveries claimId = [])
      (hrunning : ∀ loop, s.loops.lookup claimId = some loop → loop.polling.running = true)
  | delivered (requestedName name : String)
      (hissued : ∀ handler token, ¬ s.IssuedTo claimId handler token)
      (hpending : s.pendingTokens.lookup claimId = none)
      (hdelivered : s.deliveries claimId = [pending.agentToken])
      (hloop : s.loops.lookup claimId = some ⟨requestedName, .adopted pending.agentToken name⟩)

structure Delivery (hashPassword : String → String → String) (claimId : Uuid) (s : System) : Prop where
  known : ∀ loop, s.loops.lookup claimId = some loop → (s.db.claims.lookup claimId).isSome = true
  loaded : ∀ name left row, s.loops.lookup claimId = some ⟨name, .loaded left row⟩
    → ∃ old claim, row = some old ∧ s.db.claims.lookup claimId = some claim
      ∧ (old.status ≠ .pending → claim.status = old.status)
  untouched : (∀ claim, s.db.claims.lookup claimId = some claim → claim.status ≠ .approved)
    → Untouched s claimId
  failed : ∀ name message claim, s.loops.lookup claimId = some ⟨name, .failed message⟩
    → s.db.claims.lookup claimId = some claim
    → claim.status ≠ .pending ∧ claim.status ≠ .approved
  approved : ∀ claim, s.db.claims.lookup claimId = some claim → claim.status = .approved
    → ∃ pending salt, claim.agentId = some pending.agentId
      ∧ claim.issuedTokenHash = some (hashPassword pending.agentToken salt)
      ∧ isToken pending.agentToken
      ∧ Secured s.db claimId pending.agentId (hashPassword pending.agentToken salt)
      ∧ Stage s claimId pending

theorem Delivery.init (hashPassword : String → String → String) (claimId : Uuid)
    : Delivery hashPassword claimId System.init where
  known := by
    intro loop h
    cases h
  loaded := by
    intro name left row h
    cases h
  untouched := by
    intro _
    constructor
    . rintro handler token ⟨name, h⟩
      cases h
    . rfl
    . rfl
    . intro loop h
      cases h
  failed := by
    intro name message claim h
    cases h
  approved := by
    intro claim h
    cases h

-- What the way of the token depends on.
structure SameWay (claimId : Uuid) (s t : System) : Prop where
  loops : t.loops.lookup claimId = s.loops.lookup claimId
  issued : ∀ handler token, t.IssuedTo claimId handler token ↔ s.IssuedTo claimId handler token
  pending : t.pendingTokens.lookup claimId = s.pendingTokens.lookup claimId
  delivered : t.deliveries claimId = s.deliveries claimId

section Way

variable {hashPassword : String → String → String} {claimId : Uuid} {s t : System}

theorem SameWay.untouched (hway : SameWay claimId s t) (h : Untouched s claimId)
    : Untouched t claimId where
  issued := by
    intro handler token hissued
    exact h.issued handler token ((hway.issued handler token).mp hissued)
  pending := hway.pending.trans h.pending
  delivered := hway.delivered.trans h.delivered
  polling := by
    intro loop hloop
    rw [hway.loops] at hloop
    exact h.polling loop hloop

theorem SameWay.stage (hway : SameWay claimId s t) {pending : PendingToken}
    (h : Stage s claimId pending) : Stage t claimId pending := by
  cases h with
  | unpublished handler hissued honly hpending hdelivered hrunning =>
    apply Stage.unpublished handler ((hway.issued _ _).mpr hissued)
    . intro other token hother
      exact honly other token ((hway.issued _ _).mp hother)
    . exact hway.pending.trans hpending
    . exact hway.delivered.trans hdelivered
    . rw [hway.loops]
      exact hrunning
  | published hissued hpending hdelivered hrunning =>
    apply Stage.published _ (hway.pending.trans hpending) (hway.delivered.trans hdelivered)
    . rw [hway.loops]
      exact hrunning
    . intro handler token hother
      exact hissued handler token ((hway.issued _ _).mp hother)
  | delivered requestedName name hissued hpending hdelivered hloop =>
    apply Stage.delivered requestedName name _ (hway.pending.trans hpending)
      (hway.delivered.trans hdelivered) (hway.loops.trans hloop)
    intro handler token hother
    exact hissued handler token ((hway.issued _ _).mp hother)

-- A step that concerns neither the claim nor its token.
theorem Delivery.frame (h : Delivery hashPassword claimId s) (hway : SameWay claimId s t)
    (hclaim : t.db.claims.lookup claimId = s.db.claims.lookup claimId)
    (hsecured : ∀ claim agentId hash, s.db.claims.lookup claimId = some claim
      → claim.status = .approved → claim.agentId = some agentId
      → Secured s.db claimId agentId hash → Secured t.db claimId agentId hash)
    : Delivery hashPassword claimId t where
  known := by
    rw [hway.loops, hclaim]
    exact h.known
  loaded := by
    rw [hway.loops, hclaim]
    exact h.loaded
  untouched := by
    rw [hclaim]
    intro hne
    exact hway.untouched (h.untouched hne)
  failed := by
    rw [hway.loops, hclaim]
    exact h.failed
  approved := by
    rw [hclaim]
    intro claim hlookup hstatus
    rcases h.approved claim hlookup hstatus with
      ⟨pending, salt, hagent, hhash, htoken, hsec, hstage⟩
    exact ⟨pending, salt, hagent, hhash, htoken,
      hsecured claim _ _ hlookup hstatus hagent hsec, hway.stage hstage⟩

-- As long as a claim is pending, no poll has ended with an answer.
theorem Delivery.running_of_pending (h : Delivery hashPassword claimId s) {claim : Claim}
    (hclaim : s.db.claims.lookup claimId = some claim) (hpending : claim.status = .pending)
    {loop : PollLoop} (hloop : s.loops.lookup claimId = some loop)
    : loop.polling.running = true := by
  have huntouched : Untouched s claimId := by
    apply h.untouched
    intro other hother
    rw [hclaim] at hother
    cases hother
    rw [hpending]
    decide
  rcases loop with ⟨name, polling⟩
  cases polling with
  | adopted token adoptedName => exact absurd rfl (huntouched.polling _ hloop token adoptedName)
  | failed message => exact absurd hpending (h.failed name message claim hloop hclaim).1
  | waiting | asked | loaded | timedOut => rfl

-- A claim is created, presented again or rejected.
theorem Delivery.changeClaim (h : Delivery hashPassword claimId s) (hway : SameWay claimId s t)
    (hold : ∀ old, s.db.claims.lookup claimId = some old → old.status = .pending) {claim : Claim}
    (hclaim : t.db.claims.lookup claimId = some claim) (hstatus : claim.status ≠ .approved)
    : Delivery hashPassword claimId t where
  known := by
    intro loop _
    rw [hclaim]
    rfl
  loaded := by
    intro name left row hloop
    rw [hway.loops] at hloop
    rcases h.loaded name left row hloop with ⟨old, current, rfl, hcurrent, hsame⟩
    refine ⟨old, claim, rfl, hclaim, ?_⟩
    intro hne
    rw [← hsame hne] at hne
    exact absurd (hold current hcurrent) hne
  untouched := by
    intro _
    apply hway.untouched
    apply h.untouched
    intro old hlookup
    rw [hold old hlookup]
    decide
  failed := by
    intro name message current hloop _
    rw [hway.loops] at hloop
    rcases Option.isSome_iff_exists.mp (h.known _ hloop) with ⟨old, hlookup⟩
    have := h.running_of_pending hlookup (hold old hlookup) hloop
    cases this
  approved := by
    intro current hcurrent happroved
    rw [hclaim] at hcurrent
    cases hcurrent
    exact absurd happroved hstatus

-- The loop goes on.
theorem Delivery.loop (h : Delivery hashPassword claimId s)
    (hold : ∀ loop, s.loops.lookup claimId = some loop → loop.polling.running = true)
    {loop : PollLoop} (hrunning : loop.polling.running = true)
    (hknown : (s.db.claims.lookup claimId).isSome = true)
    (hloaded : ∀ left row, loop.polling = .loaded left row → row = s.db.claims.lookup claimId)
    : Delivery hashPassword claimId { s with loops := s.loops.insert claimId loop } where
  known := by
    intro _ _
    exact hknown
  loaded := by
    intro name left row hloop
    rw [AList.lookup_insert, Option.some.injEq] at hloop
    rcases Option.isSome_iff_exists.mp hknown with ⟨claim, hclaim⟩
    have := hloaded left row (by rw [hloop])
    rw [this]
    exact ⟨claim, claim, hclaim, hclaim, fun _ => rfl⟩
  untouched := by
    intro hne
    have huntouched := h.untouched hne
    refine ⟨huntouched.issued, huntouched.pending, huntouched.delivered, ?_⟩
    intro other hother token name heq
    rw [AList.lookup_insert] at hother
    cases hother
    rw [heq] at hrunning
    cases hrunning
  failed := by
    intro name message claim hloop
    rw [AList.lookup_insert] at hloop
    cases hloop
    cases hrunning
  approved := by
    have hloop : ∀ other, (s.loops.insert claimId loop).lookup claimId = some other
        → other.polling.running = true := by
      intro other hother
      rw [AList.lookup_insert] at hother
      cases hother
      exact hrunning
    intro claim hclaim hstatus
    rcases h.approved claim hclaim hstatus with
      ⟨pending, salt, hagent, hhash, htoken, hsec, hstage⟩
    refine ⟨pending, salt, hagent, hhash, htoken, hsec, ?_⟩
    cases hstage with
    | unpublished handler hissued honly hpending hdelivered _ =>
      exact .unpublished handler hissued honly hpending hdelivered hloop
    | published hissued hpending hdelivered _ => exact .published hissued hpending hdelivered hloop
    | delivered requestedName name _ _ _ hlookup =>
      have := hold _ hlookup
      cases this

end Way

section Steps

variable {sha256Hex : String → String} {hashPassword : String → String → String} {claimId : Uuid}
  {s : System}

theorem deliveries_concat (s : System) (claimId : Uuid) (event : Event)
    : (s.log ++ [event]).filterMap (Event.deliveryTo claimId)
        = s.deliveries claimId ++ (event.deliveryTo claimId).toList := by
  rw [List.filterMap_append]
  rfl

theorem SameWay.log (s : System) (db : Database) {event : Event}
    (hevent : event.deliveryTo claimId = none)
    : SameWay claimId s { s with db, log := s.log ++ [event] } where
  loops := rfl
  issued := fun _ _ => Iff.rfl
  pending := rfl
  delivered := by
    unfold System.deliveries
    rw [deliveries_concat, hevent]
    simp [System.deliveries]

theorem SameWay.db (s : System) (db : Database) : SameWay claimId s { s with db } where
  loops := rfl
  issued := fun _ _ => Iff.rfl
  pending := rfl
  delivered := rfl

theorem SameWay.insertApproval {handler : Nat} {approval : Approval}
    (hold : ∀ token, ¬ s.IssuedTo claimId handler token)
    (hnew : ∀ name token, approval ≠ ⟨claimId, name, .issued token⟩)
    : SameWay claimId s { s with approvals := s.approvals.insert handler approval } where
  loops := rfl
  pending := rfl
  delivered := rfl
  issued := by
    intro other token
    by_cases heq : other = handler
    . rw [heq]
      constructor
      . rintro ⟨name, hlookup⟩
        rw [AList.lookup_insert, Option.some.injEq] at hlookup
        exact absurd hlookup (hnew name token)
      . intro hissued
        exact absurd hissued (hold token)
    . unfold System.IssuedTo
      dsimp only
      rw [AList.lookup_insert_ne heq]

theorem SameWay.eraseApproval {handler : Nat} (hold : ∀ token, ¬ s.IssuedTo claimId handler token)
    : SameWay claimId s { s with approvals := s.approvals.erase handler } where
  loops := rfl
  pending := rfl
  delivered := rfl
  issued := by
    intro other token
    by_cases heq : other = handler
    . rw [heq]
      constructor
      . rintro ⟨name, hlookup⟩
        rw [AList.lookup_erase] at hlookup
        cases hlookup
      . intro hissued
        exact absurd hissued (hold token)
    . unfold System.IssuedTo
      dsimp only
      rw [AList.lookup_erase_ne heq]

theorem SameWay.trans {s t u : System} (h : SameWay claimId s t) (h' : SameWay claimId t u)
    : SameWay claimId s u where
  loops := h'.loops.trans h.loops
  issued := fun handler token => (h'.issued handler token).trans (h.issued handler token)
  pending := h'.pending.trans h.pending
  delivered := h'.delivered.trans h.delivered

theorem SameWay.otherLoop {c : Uuid} (hne : c ≠ claimId) (loop : PollLoop)
    : SameWay claimId s { s with loops := s.loops.insert c loop } where
  loops := AList.lookup_insert_ne hne.symm
  issued := fun _ _ => Iff.rfl
  pending := rfl
  delivered := rfl

theorem not_issuedTo {handler : Nat} {approval : Approval}
    (h : s.approvals.lookup handler = some approval)
    (hne : ∀ name token, approval ≠ ⟨claimId, name, .issued token⟩) (token : PendingToken)
    : ¬ s.IssuedTo claimId handler token := by
  rintro ⟨name, hlookup⟩
  rw [h, Option.some.injEq] at hlookup
  exact hne name token hlookup

-- A step of the same database.
theorem Delivery.way {t : System} (h : Delivery hashPassword claimId s)
    (hway : SameWay claimId s t) (hdb : t.db = s.db) : Delivery hashPassword claimId t := by
  apply h.frame hway
  . rw [hdb]
  . intro claim agentId hash _ _ _ hsecured
    rw [hdb]
    exact hsecured

-- A step of the database that leaves the claim alone.
theorem Delivery.transaction {t : System} (h : Delivery hashPassword claimId s)
    (hway : SameWay claimId s t)
    (hclaim : t.db.claims.lookup claimId = s.db.claims.lookup claimId)
    (hsecured : ∀ agentId hash, s.enrolledAs claimId agentId = true
      → Secured s.db claimId agentId hash → Secured t.db claimId agentId hash)
    : Delivery hashPassword claimId t := by
  apply h.frame hway hclaim
  intro claim agentId hash hlookup _ hagent
  apply hsecured
  unfold System.enrolledAs
  rw [hlookup, Option.any_some, hagent, decide_eq_true_eq]

theorem Delivery.createClaim (h : Delivery hashPassword claimId s) {input : ClaimInput}
    {fresh : Uuid} (hfresh : s.db.claims.lookup fresh = none)
    : Delivery hashPassword claimId (s.createClaim sha256Hex input fresh) := by
  unfold System.createClaim
  split
  . exact h
  . next db id auto hcreated =>
    rcases createClaim_cases hfresh hcreated with ⟨claim, hstatus, hpending, hcases⟩
    have hclaims : db.claims = s.db.claims.insert id claim := by
      rcases hcases with ⟨rfl, _⟩ | ⟨i, invite, _, _, _, _, rfl⟩ <;> rfl
    by_cases heq : id = claimId
    . rw [heq] at hpending
      apply h.changeClaim (SameWay.db s db) hpending
      . dsimp only
        rw [hclaims, heq]
        exact AList.lookup_insert _
      . rw [hstatus]
        decide
    . apply h.transaction (SameWay.db s db)
      . dsimp only
        rw [hclaims, AList.lookup_insert_ne (Ne.symm heq)]
      . intro agentId hash _ hsecured
        exact hsecured.createClaim hfresh hcreated

theorem Delivery.rejectClaim (h : Delivery hashPassword claimId s) {id : Uuid}
    {error : Option String} : Delivery hashPassword claimId (s.rejectClaim id error) := by
  unfold System.rejectClaim
  split
  . exact h
  . next db hrejected =>
    rcases rejectClaim_cases hrejected with ⟨claim, rejected, hclaim, hpending, hstatus, _, hdb⟩
    by_cases heq : id = claimId
    . rw [heq] at hclaim
      apply h.changeClaim (SameWay.log s db rfl)
      . intro old hold
        rw [hclaim] at hold
        cases hold
        exact hpending
      . dsimp only
        rw [hdb, heq]
        exact AList.lookup_insert _
      . rw [hstatus]
        decide
    . apply h.transaction (SameWay.log s db rfl)
      . dsimp only
        rw [hdb]
        exact AList.lookup_insert_ne (Ne.symm heq)
      . intro agentId hash _ hsecured
        exact hsecured.rejectClaim hrejected

theorem Delivery.deleteAgents (h : Delivery hashPassword claimId s) {ids : List Uuid}
    (hids : ids.any (s.enrolledAs claimId) = false)
    : Delivery hashPassword claimId { s with db := s.db.deleteAgents s.now ids } := by
  have hnot : ∀ agentId, s.enrolledAs claimId agentId = true → agentId ∉ ids := by
    intro agentId henrolled hmem
    rw [List.any_eq_false] at hids
    exact hids agentId hmem henrolled
  have hkeep : ∀ (ids' : List Uuid) (db : Database), (∀ a ∈ ids', a ∈ ids)
      → db.claims.lookup claimId = s.db.claims.lookup claimId
      → (ids'.foldl Database.deleteAgent db).claims.lookup claimId
        = s.db.claims.lookup claimId := by
    intro ids'
    induction ids' with
    | nil =>
      intro db _ hsame
      exact hsame
    | cons a ids' ih =>
      intro db hsub hsame
      apply ih
      . intro b hb
        exact hsub b (List.mem_cons_of_mem _ hb)
      . dsimp only [Database.deleteAgent]
        rw [Table.lookup_mapValues, hsame]
        cases hclaim : s.db.claims.lookup claimId with
        | none => rfl
        | some claim =>
          have hagent : claim.agentId ≠ some a := by
            intro heq
            apply hnot a _ (hsub a List.mem_cons_self)
            unfold System.enrolledAs
            rw [hclaim, Option.any_some, heq, decide_eq_true_eq]
          have hfilter : claim.agentId.filter (· ≠ a) = claim.agentId := by
            cases hid : claim.agentId with
            | none => rfl
            | some b =>
              rw [Option.filter_some, if_pos]
              rw [decide_eq_true_eq]
              intro heq
              rw [hid, heq] at hagent
              exact hagent rfl
          rw [Option.map_some, hfilter]
  apply h.transaction (SameWay.db s _)
  . apply hkeep ids _ (fun _ ha => ha)
    have hrevoke : ∀ (ids' : List Uuid) (db : Database),
        (ids'.foldl (fun db id => db.revokeAgentCredentials s.now id) db).claims = db.claims := by
      intro ids'
      induction ids' with
      | nil =>
        intro db
        rfl
      | cons a ids' ih =>
        intro db
        rw [List.foldl_cons, ih]
        exact (setTokenHash_tables _ _ _).2
    rw [hrevoke]
  . intro agentId hash henrolled hsecured
    exact hsecured.deleteAgents s.now (hnot agentId henrolled)

theorem Delivery.commitApproval (h : Delivery hashPassword claimId s) (haccounted : Accounted s.db s.log)
    {handler : Nat} {token salt : String} {fresh : Uuid}
    (hfresh : s.Fresh (.commitApproval handler token salt fresh))
    : Delivery hashPassword claimId (s.commitApproval hashPassword handler token salt fresh) := by
  unfold System.commitApproval
  split
  . next id agentName bound happroval =>
    have hnone : ∀ token, ¬ s.IssuedTo claimId handler token :=
      not_issuedTo happroval (by simp)
    split
    . exact h.way (SameWay.eraseApproval hnone) rfl
    . next db claim agentId name happroved =>
      rcases lockClaimForApproval_ok (approveClaim_cases happroved).1 with ⟨hclaim, hpending, _⟩
      have hclaims := approveClaim_claims happroved
      by_cases heq : id = claimId
      . rw [heq] at hclaim happroved hclaims ⊢
        have huntouched : Untouched s claimId := by
          apply h.untouched
          intro other hother
          rw [hclaim] at hother
          cases hother
          rw [hpending]
          decide
        have hlookup : db.claims.lookup claimId = some { claim with
            status := .approved
            agentId := some agentId
            issuedTokenHash := some (hashPassword token salt)
            error := none } := by
          rw [hclaims]
          exact AList.lookup_insert _
        constructor
        . intro loop _
          dsimp only
          rw [hlookup]
          rfl
        . intro loopName left row hloop
          rcases h.loaded loopName left row hloop with ⟨old, current, rfl, hcurrent, hsame⟩
          refine ⟨old, _, rfl, hlookup, ?_⟩
          intro hne
          rw [hclaim] at hcurrent
          cases hcurrent
          rw [← hsame hne] at hne
          exact absurd hpending hne
        . intro hne
          exact absurd rfl (hne _ hlookup)
        . intro loopName message current hloop _
          have := h.running_of_pending hclaim hpending hloop
          cases this
        . intro current hcurrent _
          dsimp only at hcurrent
          rw [hlookup] at hcurrent
          cases hcurrent
          refine ⟨⟨agentId, name, token⟩, salt, rfl, rfl, hfresh.2,
            haccounted.secured hfresh.1 happroved, ?_⟩
          apply Stage.unpublished handler ⟨agentName, AList.lookup_insert _⟩
          . rintro other token' ⟨otherName, hother⟩
            by_contra hne
            dsimp only at hother
            rw [AList.lookup_insert_ne hne] at hother
            exact huntouched.issued other token' ⟨otherName, hother⟩
          . exact huntouched.pending
          . unfold System.deliveries
            rw [deliveries_concat, huntouched.delivered]
            rfl
          . intro loop hloop
            exact h.running_of_pending hclaim hpending hloop
      . have hway : SameWay claimId s { s with
            db
            approvals := s.approvals.insert handler ⟨id, agentName, .issued ⟨agentId, name, token⟩⟩
            log := s.log ++ [.approved id claim.inviteId] } := by
          apply SameWay.trans (@SameWay.log claimId s db (.approved id claim.inviteId) rfl)
          apply SameWay.insertApproval
          . exact hnone
          . intro otherName token' hsame
            rw [Approval.mk.injEq] at hsame
            exact heq hsame.1
        apply h.transaction hway
        . dsimp only
          rw [hclaims, AList.lookup_insert_ne (Ne.symm heq)]
        . intro other hash _ hsecured
          exact hsecured.approveClaim heq hfresh.1 happroved
  . exact h

-- Whatever is issued was issued for an approved claim.
theorem Delivery.approved_of_issued (h : Delivery hashPassword claimId s) {handler : Nat}
    {token : PendingToken} (hissued : s.IssuedTo claimId handler token)
    : ∃ claim, s.db.claims.lookup claimId = some claim ∧ claim.status = .approved := by
  by_contra hnone
  apply (h.untouched _).issued handler token hissued
  intro claim hclaim hstatus
  exact hnone ⟨claim, hclaim, hstatus⟩

theorem Delivery.publishApproval (h : Delivery hashPassword claimId s) {handler : Nat}
    : Delivery hashPassword claimId (s.publishApproval handler) := by
  unfold System.publishApproval
  split
  . next id agentName token happroval =>
    by_cases heq : id = claimId
    . rw [heq] at happroval ⊢
      have hissued : s.IssuedTo claimId handler token := ⟨agentName, happroval⟩
      rcases h.approved_of_issued hissued with ⟨claim, hclaim, hstatus⟩
      refine ⟨h.known, h.loaded, ?_, h.failed, ?_⟩
      . intro hne
        exact absurd hstatus (hne claim hclaim)
      . intro current hcurrent happroved
        rcases h.approved current hcurrent happroved with
          ⟨pending, salt, hagent, hhash, htoken, hsec, hstage⟩
        refine ⟨pending, salt, hagent, hhash, htoken, hsec, ?_⟩
        cases hstage with
        | unpublished handler' hissued' honly hpending hdelivered hrunning =>
          have hsame := honly handler token hissued
          rcases hissued' with ⟨otherName, hlookup⟩
          rw [← hsame, happroval] at hlookup
          cases hlookup
          refine Stage.published ?_ (AList.lookup_insert _) hdelivered hrunning
          rintro other token' ⟨name', hother⟩
          dsimp only at hother
          by_cases hsame' : other = handler
          . rw [hsame', AList.lookup_erase] at hother
            cases hother
          . rw [AList.lookup_erase_ne hsame'] at hother
            exact hsame' ((honly other token' ⟨name', hother⟩).trans hsame.symm)
        | published hnone => exact absurd hissued (hnone handler token)
        | delivered _ _ hnone => exact absurd hissued (hnone handler token)
    . have hnone : ∀ token', ¬ s.IssuedTo claimId handler token' := by
        apply not_issuedTo happroval
        intro name token' hsame
        rw [Approval.mk.injEq] at hsame
        exact heq hsame.1
      refine h.way ?_ rfl
      apply SameWay.trans (SameWay.eraseApproval hnone)
      exact ⟨rfl, fun _ _ => Iff.rfl, AList.lookup_insert_ne (Ne.symm heq), rfl⟩
  . exact h

theorem trim_token {token : String} (h : isToken token) : Text.trim token = token ∧ token ≠ "" := by
  constructor
  . apply Text.trim_eq_self
    intro c hc
    have hcharacter := List.all_eq_true.mp h.2 c hc
    have hcode : 45 ≤ c.toNat ∧ c.toNat ≤ 122 := by
      unfold System.isTokenCharacter at hcharacter
      simp only [Bool.or_eq_true, decide_eq_true_eq] at hcharacter
      rcases hcharacter with (halphanumeric | rfl) | rfl
      . have := Text.isAsciiAlphanumeric_cases halphanumeric
        omega
      . decide
      . decide
    unfold Text.isWhitespace
    rw [Bool.eq_false_iff]
    intro hspace
    simp only [Bool.or_eq_true, Bool.and_eq_true, decide_eq_true_eq] at hspace
    omega
  . intro heq
    have := h.1
    rw [heq] at this
    cases this

theorem handlePoll_approved {name : String} {left : Nat} {row : Claim} {pending : PendingToken}
    (hstatus : row.status = .approved) (htoken : isToken pending.agentToken)
    : ∃ adoptedName, handlePoll name left (pollResponse (some row) (some pending))
        = .adopted pending.agentToken adoptedName := by
  rcases trim_token htoken with ⟨htrim, hne⟩
  have hblank : nonBlank (some pending.agentToken) = some pending.agentToken := by
    unfold nonBlank
    rw [Option.map_some, htrim, Option.filter_some, if_pos (by simpa using hne)]
  unfold pollResponse
  dsimp only
  rw [hstatus]
  unfold handlePoll
  dsimp only
  rw [hblank]
  exact ⟨_, rfl⟩

-- A poll that finds the token.
theorem Delivery.adopt (h : Delivery hashPassword claimId s) {name : String} {left : Nat}
    {row : Claim} (hloop : s.loops.lookup claimId = some ⟨name, .loaded left (some row)⟩)
    (hstatus : row.status = .approved) (hpublished : s.unpublished claimId = false)
    : Delivery hashPassword claimId (s.answerPoll claimId)
      ∧ ∃ pending adoptedName, s.pendingTokens.lookup claimId = some pending
        ∧ (s.answerPoll claimId).loops.lookup claimId
          = some ⟨name, .adopted pending.agentToken adoptedName⟩ := by
  rcases h.loaded name left _ hloop with ⟨old, claim, heq, hclaim, hsame⟩
  cases heq
  have happroved : claim.status = .approved := by
    rw [hsame (by rw [hstatus]; decide), hstatus]
  rcases h.approved claim hclaim happroved with ⟨pending, salt, hagent, hhash, htoken, hsec, hstage⟩
  rcases @handlePoll_approved name left _ _ hstatus htoken with ⟨adoptedName, hadopted⟩
  have hissuedNone : ∀ handler token, ¬ s.IssuedTo claimId handler token := by
    intro handler token hissued
    rw [System.unpublished_iff.mpr ⟨handler, token, hissued⟩] at hpublished
    cases hpublished
  have hpending : s.pendingTokens.lookup claimId = some pending ∧ s.deliveries claimId = [] := by
    cases hstage with
    | unpublished handler hissued => exact absurd hissued (hissuedNone handler pending)
    | published _ hpending hdelivered => exact ⟨hpending, hdelivered⟩
    | delivered _ _ _ _ _ hother =>
      rw [hloop] at hother
      cases hother
  have hanswer : s.answerPoll claimId = { s with
      loops := s.loops.insert claimId ⟨name, .adopted pending.agentToken adoptedName⟩
      pendingTokens := s.pendingTokens.erase claimId
      log := s.log ++ [.delivered claimId pending.agentToken] } := by
    unfold System.answerPoll
    rw [hloop]
    dsimp only
    rw [hpending.1, hadopted, Option.map_some, hstatus]
    rfl
  rw [hanswer]
  refine ⟨?_, pending, adoptedName, hpending.1, AList.lookup_insert _⟩
  constructor
  . intro _ _
    dsimp only
    rw [hclaim]
    rfl
  . intro otherName otherLeft otherRow hother
    rw [AList.lookup_insert] at hother
    cases hother
  . intro hne
    exact absurd happroved (hne claim hclaim)
  . intro otherName message current hother
    rw [AList.lookup_insert] at hother
    cases hother
  . intro current hcurrent _
    dsimp only at hcurrent
    rw [hclaim] at hcurrent
    cases hcurrent
    refine ⟨pending, salt, hagent, hhash, htoken, hsec, ?_⟩
    refine Stage.delivered name adoptedName hissuedNone (AList.lookup_erase _ _) ?_ ?_
    . unfold System.deliveries
      rw [deliveries_concat, hpending.2]
      simp [Event.deliveryTo]
    . exact AList.lookup_insert _

theorem Delivery.answerPoll (h : Delivery hashPassword claimId s)
    (hundisturbed : ¬ (s.loadedApproved claimId = true ∧ s.unpublished claimId = true))
    : Delivery hashPassword claimId (s.answerPoll claimId) := by
  cases hlookup : s.loops.lookup claimId with
  | none =>
    unfold System.answerPoll
    rw [hlookup]
    exact h
  | some loop =>
    rcases loop with ⟨name, polling⟩
    cases polling with
    | loaded left row =>
      rcases h.loaded name left row hlookup with ⟨old, claim, rfl, hclaim, hsame⟩
      have hold : ∀ loop, s.loops.lookup claimId = some loop → loop.polling.running = true := by
        intro loop hloop
        rw [hlookup] at hloop
        cases hloop
        rfl
      have hfailed : old.status ≠ .pending → old.status ≠ .approved
          → ∀ message, Delivery hashPassword claimId
            { s with loops := s.loops.insert claimId ⟨name, .failed message⟩ } := by
        intro hne hne' message
        have hcurrent := hsame hne
        rw [← hcurrent] at hne hne'
        constructor
        . intro _ _
          dsimp only
          rw [hclaim]
          rfl
        . intro otherName otherLeft otherRow hother
          rw [AList.lookup_insert] at hother
          cases hother
        . intro hnone
          have huntouched := h.untouched hnone
          refine ⟨huntouched.issued, huntouched.pending, huntouched.delivered, ?_⟩
          intro loop hloop token adoptedName heq
          rw [AList.lookup_insert] at hloop
          cases hloop
          cases heq
        . intro otherName otherMessage current _ hlookup'
          dsimp only at hlookup'
          rw [hclaim] at hlookup'
          cases hlookup'
          exact ⟨hne, hne'⟩
        . intro current hlookup' happroved
          dsimp only at hlookup'
          rw [hclaim] at hlookup'
          cases hlookup'
          exact absurd happroved hne'
      cases hstatus : old.status with
      | approved =>
        have hpublished : s.unpublished claimId = false := by
          rw [← Bool.not_eq_true]
          intro hunpublished
          apply hundisturbed
          refine ⟨?_, hunpublished⟩
          unfold System.loadedApproved
          rw [hlookup]
          simp [hstatus]
        exact (h.adopt hlookup hstatus hpublished).1
      | pending =>
        have hanswer : s.answerPoll claimId = { s with
            loops := s.loops.insert claimId
              ⟨name, if left = 0 then .timedOut else .waiting left⟩ } := by
          unfold System.answerPoll
          rw [hlookup]
          dsimp only
          rw [Option.map_some, hstatus]
          simp [pollResponse, hstatus, handlePoll, System.setPolling]
        rw [hanswer]
        apply h.loop hold
        . dsimp only
          split <;> rfl
        . rw [hclaim]
          rfl
        . intro otherLeft row hloaded
          dsimp only at hloaded
          split at hloaded <;> cases hloaded
      | rejected =>
        have hanswer : ∃ message, s.answerPoll claimId
            = { s with loops := s.loops.insert claimId ⟨name, .failed message⟩ } := by
          unfold System.answerPoll
          rw [hlookup]
          dsimp only
          rw [Option.map_some, hstatus]
          simp only [pollResponse, hstatus, handlePoll, System.setPolling]
          exact ⟨_, rfl⟩
        rcases hanswer with ⟨message, hanswer⟩
        rw [hanswer]
        exact hfailed (by rw [hstatus]; decide) (by rw [hstatus]; decide) message
      | expired =>
        have hanswer : ∃ message, s.answerPoll claimId
            = { s with loops := s.loops.insert claimId ⟨name, .failed message⟩ } := by
          unfold System.answerPoll
          rw [hlookup]
          dsimp only
          rw [Option.map_some, hstatus]
          simp only [pollResponse, hstatus, handlePoll, System.setPolling]
          exact ⟨_, rfl⟩
        rcases hanswer with ⟨message, hanswer⟩
        rw [hanswer]
        exact hfailed (by rw [hstatus]; decide) (by rw [hstatus]; decide) message
    | waiting | asked | adopted | failed | timedOut =>
      unfold System.answerPoll
      rw [hlookup]
      exact h

theorem SameWay.answerPoll {c : Uuid} (hne : c ≠ claimId)
    : SameWay claimId s (s.answerPoll c) ∧ (s.answerPoll c).db = s.db := by
  unfold System.answerPoll
  split
  . dsimp only
    split
    . refine ⟨⟨AList.lookup_insert_ne hne.symm, fun _ _ => Iff.rfl, ?_, ?_⟩, rfl⟩
      . exact AList.lookup_erase_ne hne.symm
      . unfold System.deliveries
        rw [deliveries_concat]
        simp [Event.deliveryTo, hne, System.deliveries]
    . exact ⟨⟨AList.lookup_insert_ne hne.symm, fun _ _ => Iff.rfl, rfl, rfl⟩, rfl⟩
  . exact ⟨⟨rfl, fun _ _ => Iff.rfl, rfl, rfl⟩, rfl⟩

theorem Delivery.dropTokens (h : Delivery hashPassword claimId s) {ids : List Uuid}
    (hids : ids.any (s.enrolledAs claimId) = false)
    : Delivery hashPassword claimId { s with
        pendingTokens := Table.retain (fun _ token => !ids.contains token.agentId)
          s.pendingTokens } := by
  refine ⟨h.known, h.loaded, ?_, h.failed, ?_⟩
  . intro hne
    have huntouched := h.untouched hne
    refine ⟨huntouched.issued, ?_, huntouched.delivered, huntouched.polling⟩
    dsimp only
    rw [Table.lookup_retain, huntouched.pending]
    rfl
  . intro claim hclaim hstatus
    rcases h.approved claim hclaim hstatus with
      ⟨pending, salt, hagent, hhash, htoken, hsec, hstage⟩
    refine ⟨pending, salt, hagent, hhash, htoken, hsec, ?_⟩
    have hkept : ids.contains pending.agentId = false := by
      rw [← Bool.not_eq_true, List.contains_iff_mem]
      intro hmem
      rw [List.any_eq_false] at hids
      apply hids _ hmem
      unfold System.enrolledAs
      rw [hclaim, Option.any_some, hagent, decide_eq_true_eq]
    cases hstage with
    | unpublished handler hissued honly hpending hdelivered hrunning =>
      refine .unpublished handler hissued honly ?_ hdelivered hrunning
      dsimp only
      rw [Table.lookup_retain, hpending]
      rfl
    | published hissued hpending hdelivered hrunning =>
      refine .published hissued ?_ hdelivered hrunning
      dsimp only
      rw [Table.lookup_retain, hpending, Option.filter_some, if_pos]
      rw [hkept]
      rfl
    | delivered requestedName name hissued hpending hdelivered hloop =>
      refine .delivered requestedName name hissued ?_ hdelivered hloop
      dsimp only
      rw [Table.lookup_retain, hpending]
      rfl

theorem Delivery.startPolling (h : Delivery hashPassword claimId s) {c : Uuid} {name : String}
    (hfresh : s.Fresh (.startPolling c name))
    : Delivery hashPassword claimId
        { s with loops := s.loops.insert c ⟨name, .waiting 300⟩ } := by
  by_cases heq : c = claimId
  . rw [heq] at hfresh ⊢
    apply h.loop
    . intro loop hloop
      rw [hfresh.1] at hloop
      cases hloop
    . rfl
    . exact hfresh.2
    . intro left row hloaded
      cases hloaded
  . exact h.way (SameWay.otherLoop heq _) rfl

theorem Delivery.poll (h : Delivery hashPassword claimId s) {c : Uuid}
    : Delivery hashPassword claimId (s.poll c) := by
  unfold System.poll
  split
  . next name left hlookup =>
    by_cases heq : c = claimId
    . rw [heq] at hlookup ⊢
      apply h.loop
      . intro loop hloop
        rw [hlookup] at hloop
        cases hloop
        rfl
      . rfl
      . exact h.known _ hlookup
      . intro otherLeft row hloaded
        cases hloaded
    . exact h.way (SameWay.otherLoop heq _) rfl
  . exact h

theorem Delivery.loadClaim (h : Delivery hashPassword claimId s) {c : Uuid}
    : Delivery hashPassword claimId (s.loadClaim c) := by
  unfold System.loadClaim
  split
  . next name left hlookup =>
    by_cases heq : c = claimId
    . rw [heq] at hlookup ⊢
      apply h.loop
      . intro loop hloop
        rw [hlookup] at hloop
        cases hloop
        rfl
      . rfl
      . exact h.known _ hlookup
      . intro otherLeft row hloaded
        cases hloaded
        rfl
    . exact h.way (SameWay.otherLoop heq _) rfl
  . exact h

theorem ne_of_enrolledAs {a agentId : Uuid} (hnot : s.enrolledAs claimId a = false)
    (henrolled : s.enrolledAs claimId agentId = true) : a ≠ agentId := by
  intro heq
  rw [heq, henrolled] at hnot
  cases hnot

theorem Delivery.step (h : Delivery hashPassword claimId s) (haccounted : Accounted s.db s.log)
    {op : Op} (hfresh : s.Fresh op) (hundisturbed : s.Undisturbed claimId op)
    : Delivery hashPassword claimId (s.exec sha256Hex hashPassword op) := by
  unfold System.Undisturbed at hundisturbed
  cases op with
  | createToken uses expiresAt draws fresh =>
    dsimp only [System.exec, System.createToken]
    split
    . exact h
    . next db hcreated =>
      unfold Database.createEnrollmentToken at hcreated
      rw [Option.map_eq_some_iff] at hcreated
      rcases hcreated with ⟨code, _, rfl⟩
      apply h.transaction (SameWay.log s _ rfl)
      . rfl
      . intro agentId hash _ hsecured
        apply hsecured.issue
        simp
  | revokeToken id =>
    apply h.transaction (SameWay.db s _)
    . dsimp only
      rw [(revokeEnrollmentToken_tables _ _ _).1]
    . intro agentId hash _ hsecured
      exact hsecured.revokeEnrollmentToken s.now id
  | revokeAll =>
    apply h.transaction (SameWay.db s _)
    . rfl
    . intro agentId hash _ hsecured
      exact hsecured.revokeInvites s.now _
  | revokeCredentials a =>
    have hnot : s.enrolledAs claimId a = false := by
      simpa [System.undisturbed] using hundisturbed
    apply h.transaction (SameWay.db s _)
    . dsimp only [Database.revokeAgentCredentials]
      rw [(setTokenHash_tables _ _ _).2]
      rfl
    . intro agentId hash henrolled hsecured
      exact hsecured.revokeAgentCredentials s.now (ne_of_enrolledAs hnot henrolled)
  | replaceInstallation a draws fresh =>
    have hnot : s.enrolledAs claimId a = false := by
      simpa [System.undisturbed] using hundisturbed
    dsimp only [System.exec, System.replaceInstallation]
    split
    . exact h
    . next db hcreated =>
      apply h.transaction (SameWay.log s db rfl)
      . dsimp only
        rw [(claims_createReplacementToken hcreated).1]
      . intro agentId hash henrolled hsecured
        have hne := ne_of_enrolledAs hnot henrolled
        unfold Database.createReplacementToken at hcreated
        dsimp only at hcreated
        split at hcreated
        . cases hcreated
        . rw [Option.map_eq_some_iff] at hcreated
          rcases hcreated with ⟨code, _, rfl⟩
          apply (hsecured.revokeAgentCredentials s.now hne).issue
          dsimp only
          intro heq
          exact hne (Option.some.inj heq)
  | deleteAgents ids =>
    apply h.deleteAgents
    simpa [System.undisturbed] using hundisturbed
  | dropTokens ids =>
    apply h.dropTokens
    simpa [System.undisturbed] using hundisturbed
  | createClaim input fresh => exact h.createClaim hfresh
  | beginApproval handler id agentName =>
    refine h.way (SameWay.insertApproval ?_ (by simp)) rfl
    rintro token ⟨name, hlookup⟩
    rw [show s.approvals.lookup handler = none from hfresh] at hlookup
    cases hlookup
  | recheckApproval handler =>
    dsimp only [System.exec, System.recheckApproval]
    split
    . next happroval =>
      have hnone : ∀ token, ¬ s.IssuedTo claimId handler token :=
        not_issuedTo happroval (by simp)
      split
      . exact h.way (SameWay.eraseApproval hnone) rfl
      . exact h.way (SameWay.insertApproval hnone (by simp)) rfl
    . exact h
  | commitApproval handler token salt fresh => exact h.commitApproval haccounted hfresh
  | publishApproval handler => exact h.publishApproval
  | rejectClaim id error => exact h.rejectClaim
  | tick elapsed => exact h.way ⟨rfl, fun _ _ => Iff.rfl, rfl, rfl⟩ rfl
  | startPolling c name => exact h.startPolling hfresh
  | poll c => exact h.poll
  | loadClaim c => exact h.loadClaim
  | answerPoll c =>
    by_cases heq : c = claimId
    . rw [heq]
      apply h.answerPoll
      intro hboth
      simp [System.undisturbed, heq, hboth.1, hboth.2] at hundisturbed
    . exact h.way (SameWay.answerPoll heq).1 (SameWay.answerPoll heq).2

theorem runsIf_delivery
    (h : System.RunsIf sha256Hex hashPassword (System.Undisturbed claimId) .init s)
    : Delivery hashPassword claimId s := by
  induction h with
  | refl => exact Delivery.init hashPassword claimId
  | step hrun hfresh hcondition ih =>
    exact ih.step (reachable_accounted hrun.reachable).1 hfresh hcondition

end Steps

def Polling.final : Polling → Bool
  | .adopted _ _ => true
  | .failed _ => true
  | _ => false

/--
In a run in which no poll that has loaded the claim as approved is answered before the approval has
published its token, and in which the agent is not revoked: once the claim is approved, the hash of a
token is stored for its agent, a loop that has got a final answer has adopted this token, which one
response carried and no other, and a loop that goes on is given it by its next poll, as soon as it is
published.
-/
theorem token_delivered {sha256Hex : String → String} {hashPassword : String → String → String}
    {claimId : Uuid} {s : System}
    (h : System.RunsIf sha256Hex hashPassword (System.Undisturbed claimId) .init s)
    : (s.deliveries claimId).length ≤ 1
      ∧ ∀ claim, s.db.claims.lookup claimId = some claim → claim.status = .approved
        → ∃ agentId agent token salt, claim.agentId = some agentId
          ∧ claim.issuedTokenHash = some (hashPassword token salt)
          ∧ s.db.agents.lookup agentId = some agent
          ∧ agent.apiTokenHash = some (hashPassword token salt)
          ∧ (∀ loop, s.loops.lookup claimId = some loop → loop.polling.final = true
            → (∃ name, loop.polling = .adopted token name) ∧ s.deliveries claimId = [token])
          ∧ ∀ name left, s.loops.lookup claimId = some ⟨name, .waiting (left + 1)⟩
            → s.unpublished claimId = false
            → ∃ adoptedName, (s.run sha256Hex hashPassword
                [.poll claimId, .loadClaim claimId, .answerPoll claimId]).loops.lookup claimId
              = some ⟨name, .adopted token adoptedName⟩ := by
  have hdelivery := runsIf_delivery h
  constructor
  . by_cases happroved : ∃ claim, s.db.claims.lookup claimId = some claim ∧ claim.status = .approved
    . rcases happroved with ⟨claim, hclaim, hstatus⟩
      rcases hdelivery.approved claim hclaim hstatus with ⟨pending, salt, _, _, _, _, hstage⟩
      cases hstage with
      | unpublished _ _ _ _ hdelivered => simp [hdelivered]
      | published _ _ hdelivered => simp [hdelivered]
      | delivered _ _ _ _ hdelivered => simp [hdelivered]
    . have huntouched := hdelivery.untouched (fun claim hclaim hstatus =>
        happroved ⟨claim, hclaim, hstatus⟩)
      simp [huntouched.delivered]
  . intro claim hclaim hstatus
    rcases hdelivery.approved claim hclaim hstatus with
      ⟨pending, salt, hagentId, hhash, htoken, hsec, hstage⟩
    rcases hsec.agent with ⟨agent, hagent, hagentHash⟩
    refine ⟨pending.agentId, agent, pending.agentToken, salt, hagentId, hhash, hagent, hagentHash,
      ?_, ?_⟩
    . intro loop hloop hfinal
      have hnotRunning : ¬ loop.polling.running = true := by
        cases hpolling : loop.polling with
        | adopted | failed => simp [Polling.running]
        | waiting | asked | loaded | timedOut =>
          rw [hpolling] at hfinal
          cases hfinal
      cases hstage with
      | unpublished _ _ _ _ _ hrunning => exact absurd (hrunning loop hloop) hnotRunning
      | published _ _ _ hrunning => exact absurd (hrunning loop hloop) hnotRunning
      | delivered requestedName name _ _ hdelivered hlookup =>
        rw [hloop] at hlookup
        cases hlookup
        exact ⟨⟨name, rfl⟩, hdelivered⟩
    . intro name left hloop hpublished
      let asked := (s.exec sha256Hex hashPassword (.poll claimId)).exec sha256Hex hashPassword
        (.loadClaim claimId)
      have hasked : asked = { s with
          loops := (s.loops.insert claimId ⟨name, .asked left⟩).insert claimId
            ⟨name, .loaded left (some claim)⟩ } := by
        simp only [asked, System.exec, System.poll, hloop, System.setPolling, System.loadClaim,
          AList.lookup_insert, hclaim]
      have hnext : Delivery hashPassword claimId asked :=
        hdelivery.poll.loadClaim
      have hloaded : asked.loops.lookup claimId = some ⟨name, .loaded left (some claim)⟩ := by
        rw [hasked]
        exact AList.lookup_insert _
      have hstill : asked.unpublished claimId = false := by
        rw [hasked]
        exact hpublished
      rcases (hnext.adopt hloaded hstatus hstill).2 with ⟨found, adoptedName, hfound, hadopted⟩
      have hpending : s.pendingTokens.lookup claimId = some found := by
        rw [hasked] at hfound
        exact hfound
      cases hstage with
      | unpublished handler hissued =>
        rw [System.unpublished_iff.mpr ⟨handler, pending, hissued⟩] at hpublished
        cases hpublished
      | published _ hlookup =>
        rw [hpending] at hlookup
        cases hlookup
        exact ⟨adoptedName, hadopted⟩
      | delivered _ _ _ _ _ hlookup =>
        rw [hloop] at hlookup
        cases hlookup

/-!
A poll between the commit and the publication, and one after both.
-/

namespace Example

def commit : List Op :=
  [.createToken 1 none ["123456"] 1, .createClaim ⟨some "123-456", "kiosk", none, "a"⟩ 2,
    .startPolling 2 "kiosk", .beginApproval 0 2 none, .recheckApproval 0,
    .commitApproval 0 (token 'a') "$1" 3]

def pollOnce : List Op :=
  [.poll 2, .loadClaim 2, .answerPoll 2]

def delivered : System :=
  System.init.run codeDigest saltedHash (commit ++ .publishApproval 0 :: pollOnce)

def lost : System :=
  System.init.run codeDigest saltedHash (commit ++ pollOnce ++ [.publishApproval 0])

end Example

theorem token_delivered_published
    : ∃ claim, Example.delivered.db.claims.lookup 2 = some claim ∧ claim.status = .approved
      ∧ ∃ agentId agent token salt, claim.agentId = some agentId
        ∧ claim.issuedTokenHash = some (Example.saltedHash token salt)
        ∧ Example.delivered.db.agents.lookup agentId = some agent
        ∧ agent.apiTokenHash = some (Example.saltedHash token salt)
        ∧ ∃ loop, Example.delivered.loops.lookup 2 = some loop
          ∧ (∃ name, loop.polling = .adopted token name)
          ∧ Example.delivered.deliveries 2 = [token] := by
  have hrun : System.RunsIf Example.codeDigest Example.saltedHash (System.Undisturbed 2) .init
      Example.delivered :=
    System.runsIf_run (fun _ _ h => h) (.refl _) (by decide +kernel)
  have hclaim : ∃ claim, Example.delivered.db.claims.lookup 2 = some claim
      ∧ claim.status = .approved :=
    ⟨⟨some 1, .approved, "kiosk", some "a", some 3,
      some (Example.saltedHash (Example.token 'a') "$1"), none⟩, by decide +kernel, rfl⟩
  have hloop : Example.delivered.loops.lookup 2
      = some ⟨"kiosk", .adopted (Example.token 'a') "kiosk"⟩ := by
    decide +kernel
  rcases hclaim with ⟨claim, hclaim, hstatus⟩
  rcases (token_delivered hrun).2 claim hclaim hstatus with
    ⟨agentId, agent, token, salt, hagentId, hhash, hagent, hagentHash, hfinal, _⟩
  exact ⟨claim, hclaim, hstatus, agentId, agent, token, salt, hagentId, hhash, hagent, hagentHash,
    _, hloop, hfinal _ hloop rfl⟩

/--
The poll finds the claim approved and no token: the loop ends, although a token has been minted, and
published since.
-/
theorem retrieved_by_nobody
    : System.Reachable Example.codeDigest Example.saltedHash Example.lost
      ∧ (∃ claim, Example.lost.db.claims.lookup 2 = some claim ∧ claim.status = .approved)
      ∧ Example.lost.loops.lookup 2 = some ⟨"kiosk", .failed retrieved⟩
      ∧ Example.lost.deliveries 2 = [] := by
  refine ⟨System.reachable_run (by decide +kernel), ?_, by decide +kernel, by decide +kernel⟩
  exact ⟨⟨some 1, .approved, "kiosk", some "a", some 3,
    some (Example.saltedHash (Example.token 'a') "$1"), none⟩, by decide +kernel, rfl⟩

end Enrollment

end Vantyr
