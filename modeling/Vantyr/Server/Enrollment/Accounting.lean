import Vantyr.Server.Enrollment.System

/-!
This module contains the accounting of invites: in any order of the transactions no more claims are
approved against an invite than it had uses, and a credential is replaced only through an invite that is
bound to its agent.
-/

namespace Vantyr

namespace Enrollment

/-!
The claims that an invite was used for.
-/

def attached (claims : AList (fun _ : Uuid => Claim)) (invite : Uuid) : Nat :=
  claims.entries.countP (fun entry => entry.2.inviteId = some invite)

theorem attached_insert_le (claims : AList (fun _ : Uuid => Claim)) (id : Uuid) (claim : Claim)
    (invite : Uuid)
    : attached (claims.insert id claim) invite
        ≤ attached claims invite + if claim.inviteId = some invite then 1 else 0 := by
  unfold attached
  rw [AList.entries_insert, List.countP_cons]
  simp only [decide_eq_true_eq]
  exact Nat.add_le_add_right (List.kerase_sublist id _).countP_le _

theorem attached_insert_same {claims : AList (fun _ : Uuid => Claim)} {id : Uuid} {old claim : Claim}
    (h : claims.lookup id = some old) (hinvite : claim.inviteId = old.inviteId) (invite : Uuid)
    : attached (claims.insert id claim) invite = attached claims invite := by
  unfold attached
  rw [(Table.perm_of_lookup h).countP_eq, AList.entries_insert, List.countP_cons, List.countP_cons,
    hinvite]

theorem attached_eq_zero {claims : AList (fun _ : Uuid => Claim)} {invite : Uuid}
    (h : ∀ id claim, claims.lookup id = some claim → claim.inviteId ≠ some invite)
    : attached claims invite = 0 := by
  unfold attached
  rw [List.countP_eq_zero]
  intro entry hentry
  rw [decide_eq_true_eq]
  exact h entry.1 entry.2 (AList.mem_lookup_iff.mpr hentry)

-- Two claims of one invite are counted as two.
theorem two_le_attached {claims : AList (fun _ : Uuid => Claim)} {invite id other : Uuid}
    {claim otherClaim : Claim} (hne : id ≠ other) (h : claims.lookup id = some claim)
    (hother : claims.lookup other = some otherClaim) (hinvite : claim.inviteId = some invite)
    (hotherInvite : otherClaim.inviteId = some invite) : 2 ≤ attached claims invite := by
  unfold attached
  have hmem : ⟨other, otherClaim⟩ ∈ claims.entries.kerase id := by
    have := AList.mem_lookup_iff.mp hother
    rw [(Table.perm_of_lookup h).mem_iff] at this
    rcases List.mem_cons.mp this with heq | hmem
    . cases heq
      exact absurd rfl hne
    . exact hmem
  rw [(Table.perm_of_lookup h).countP_eq, List.countP_cons]
  have hpos : 0 < (claims.entries.kerase id).countP (fun entry => entry.2.inviteId = some invite) := by
    rw [List.countP_pos_iff]
    exact ⟨_, hmem, by simpa using hotherInvite⟩
  simp only [hinvite, decide_true, ↓reduceIte]
  omega

theorem one_le_attached {claims : AList (fun _ : Uuid => Claim)} {invite id : Uuid} {claim : Claim}
    (h : claims.lookup id = some claim) (hinvite : claim.inviteId = some invite)
    : 1 ≤ attached claims invite := by
  unfold attached
  rw [Nat.one_le_iff_ne_zero, ← Nat.pos_iff_ne_zero, List.countP_pos_iff]
  exact ⟨⟨id, claim⟩, AList.mem_lookup_iff.mp h, by simpa using hinvite⟩

/-!
The accounts that every transaction keeps.
-/

structure Accounted (db : Database) (log : List Event) : Prop where
  uses : ∀ i invite, db.invites.lookup i = some invite → 0 ≤ invite.usesRemaining
  linked : ∀ c claim i, db.claims.lookup c = some claim → claim.inviteId = some i
    → (db.invites.lookup i).isSome = true
  boundExists : ∀ i invite a, db.invites.lookup i = some invite → invite.boundAgentId = some a
    → (db.agents.lookup a).isSome = true
  boundOnce : ∀ i j invite other a, db.invites.lookup i = some invite
    → db.invites.lookup j = some other → invite.revokedAt = none → other.revokedAt = none
    → invite.boundAgentId = some a → other.boundAgentId = some a → i = j
  boundUses : ∀ i invite a, db.invites.lookup i = some invite → invite.boundAgentId = some a
    → invite.usesRemaining + attached db.claims i ≤ 1
  budget : ∀ i uses, .issued i uses ∈ log
    → ∃ invite, db.invites.lookup i = some invite ∧ invite.usesRemaining + attached db.claims i ≤ uses

theorem Accounted.empty : Accounted .empty [] where
  uses := by
    intro i invite h
    cases h
  linked := by
    intro c claim i h
    cases h
  boundExists := by
    intro i invite a h
    cases h
  boundOnce := by
    intro i j invite other a h
    cases h
  boundUses := by
    intro i invite a h
    cases h
  budget := by
    intro i uses h
    cases h

/--
What a transaction that adds no invite has to obey: the uses it gives back are those of claims that
are gone from the invite, none is bound anew, and none becomes valid again.
-/
theorem Accounted.change {db db' : Database} {log : List Event} (h : Accounted db log)
    (f : Uuid → Invite → Invite)
    (hinvites : ∀ i, db'.invites.lookup i = (db.invites.lookup i).map (f i))
    (huses : ∀ i invite, db.invites.lookup i = some invite → 0 ≤ invite.usesRemaining
      → 0 ≤ (f i invite).usesRemaining
        ∧ (f i invite).usesRemaining + attached db'.claims i
          ≤ invite.usesRemaining + attached db.claims i)
    (hbound : ∀ i invite a, (f i invite).boundAgentId = some a → invite.boundAgentId = some a
      ∧ ((db.agents.lookup a).isSome = true → (db'.agents.lookup a).isSome = true))
    (hrevoked : ∀ i invite, (f i invite).revokedAt = none → invite.revokedAt = none)
    (hlinked : ∀ c claim i, db'.claims.lookup c = some claim → claim.inviteId = some i
      → (db.invites.lookup i).isSome = true)
    : Accounted db' log := by
  have hcases : ∀ i invite', db'.invites.lookup i = some invite'
      → ∃ invite, db.invites.lookup i = some invite ∧ f i invite = invite' := by
    intro i invite' hlookup
    rw [hinvites, Option.map_eq_some_iff] at hlookup
    exact hlookup
  constructor
  . intro i invite' hlookup
    rcases hcases i invite' hlookup with ⟨invite, hi, rfl⟩
    exact (huses i invite hi (h.uses i invite hi)).1
  . intro c claim i hc hi
    rw [hinvites, Option.isSome_map]
    exact hlinked c claim i hc hi
  . intro i invite' a hlookup ha
    rcases hcases i invite' hlookup with ⟨invite, hi, rfl⟩
    rcases hbound i invite a ha with ⟨hba, hsome⟩
    exact hsome (h.boundExists i invite a hi hba)
  . intro i j invite' other' a hi hj hri hrj hai haj
    rcases hcases i invite' hi with ⟨invite, hold, rfl⟩
    rcases hcases j other' hj with ⟨other, holdj, rfl⟩
    exact h.boundOnce i j invite other a hold holdj (hrevoked i invite hri) (hrevoked j other hrj)
      (hbound i invite a hai).1 (hbound j other a haj).1
  . intro i invite' a hlookup ha
    rcases hcases i invite' hlookup with ⟨invite, hi, rfl⟩
    have hone := h.boundUses i invite a hi (hbound i invite a ha).1
    have := (huses i invite hi (h.uses i invite hi)).2
    omega
  . intro i uses hlog
    rcases h.budget i uses hlog with ⟨invite, hi, hle⟩
    refine ⟨f i invite, ?_, ?_⟩
    . rw [hinvites, hi]
      rfl
    . have := (huses i invite hi (h.uses i invite hi)).2
      omega

theorem Accounted.log {db : Database} {log : List Event} (h : Accounted db log) {event : Event}
    (hevent : ∀ i uses, event ≠ .issued i uses) : Accounted db (log ++ [event]) where
  uses := h.uses
  linked := h.linked
  boundExists := h.boundExists
  boundOnce := h.boundOnce
  boundUses := h.boundUses
  budget := by
    intro i uses hmem
    rw [List.mem_append, List.mem_singleton] at hmem
    rcases hmem with hmem | heq
    . exact h.budget i uses hmem
    . exact absurd heq.symm (hevent i uses)

theorem Accounted.issue {db : Database} {log : List Event} (h : Accounted db log) {fresh : Uuid}
    {invite : Invite} {uses : Int} (hfresh : db.invites.lookup fresh = none)
    (huses : invite.usesRemaining = uses) (hpos : 0 ≤ uses)
    (hbound : ∀ a, invite.boundAgentId = some a → (db.agents.lookup a).isSome = true ∧ uses ≤ 1
      ∧ ∀ j other, db.invites.lookup j = some other → other.boundAgentId = some a
        → other.revokedAt ≠ none)
    : Accounted { db with invites := db.invites.insert fresh invite } (log ++ [.issued fresh uses]) := by
  have hcases : ∀ i other, (db.invites.insert fresh invite).lookup i = some other
      → i = fresh ∧ other = invite ∨ i ≠ fresh ∧ db.invites.lookup i = some other := by
    intro i other hlookup
    rw [Table.lookup_insert_eq] at hlookup
    split at hlookup
    . next heq =>
      cases hlookup
      exact .inl ⟨heq, rfl⟩
    . next hne => exact .inr ⟨hne, hlookup⟩
  have hkeep : ∀ i other, db.invites.lookup i = some other
      → (db.invites.insert fresh invite).lookup i = some other := by
    intro i other hlookup
    rw [AList.lookup_insert_ne, hlookup]
    intro heq
    rw [heq, hfresh] at hlookup
    cases hlookup
  have hzero : attached db.claims fresh = 0 := by
    apply attached_eq_zero
    intro c claim hc hinvite
    have := h.linked c claim fresh hc hinvite
    rw [hfresh] at this
    cases this
  constructor
  . intro i other hlookup
    rcases hcases i other hlookup with ⟨_, rfl⟩ | ⟨_, hi⟩
    . omega
    . exact h.uses i other hi
  . intro c claim i hc hinvite
    rcases Option.isSome_iff_exists.mp (h.linked c claim i hc hinvite) with ⟨other, hi⟩
    rw [hkeep i other hi]
    rfl
  . intro i other a hlookup ha
    rcases hcases i other hlookup with ⟨_, rfl⟩ | ⟨_, hi⟩
    . exact (hbound a ha).1
    . exact h.boundExists i other a hi ha
  . intro i j one other a hi hj hri hrj hai haj
    rcases hcases i one hi with ⟨rfl, rfl⟩ | ⟨_, hold⟩
    . rcases hcases j other hj with ⟨rfl, _⟩ | ⟨_, holdj⟩
      . rfl
      . exact absurd hrj ((hbound a hai).2.2 j other holdj haj)
    . rcases hcases j other hj with ⟨rfl, rfl⟩ | ⟨_, holdj⟩
      . exact absurd hri ((hbound a haj).2.2 i one hold hai)
      . exact h.boundOnce i j one other a hold holdj hri hrj hai haj
  . intro i other a hlookup ha
    rcases hcases i other hlookup with ⟨rfl, rfl⟩ | ⟨_, hi⟩
    . dsimp only
      rw [hzero, huses]
      have := (hbound a ha).2.1
      omega
    . exact h.boundUses i other a hi ha
  . intro i n hlog
    rw [List.mem_append, List.mem_singleton] at hlog
    rcases hlog with hlog | heq
    . rcases h.budget i n hlog with ⟨other, hi, hle⟩
      exact ⟨other, hkeep i other hi, hle⟩
    . cases heq
      refine ⟨invite, AList.lookup_insert _, ?_⟩
      dsimp only
      omega

/-!
The transactions.
-/

section Transactions

variable {sha256Hex : String → String} {db db' : Database} {log : List Event} {now : Nat}

theorem Accounted.revokeInvites (h : Accounted db log) (now : Nat) (which : Invite → Bool)
    : Accounted (db.revokeInvites now which) log := by
  apply h.change (fun _ invite => if which invite then invite.revoke now else invite)
  . intro i
    exact Table.lookup_mapValues _ _ i
  . intro i invite hi huses
    dsimp only [Database.revokeInvites]
    split
    . dsimp only [Invite.revoke]
      omega
    . omega
  . intro i invite a ha
    refine ⟨?_, id⟩
    split at ha <;> exact ha
  . intro i invite hrevoked
    split at hrevoked
    . cases hrevoked
    . exact hrevoked
  . exact h.linked

theorem Accounted.revokeEnrollmentToken (h : Accounted db log) (now : Nat) (id : Uuid)
    : Accounted (db.revokeEnrollmentToken now id) log := by
  unfold Database.revokeEnrollmentToken
  split
  . exact h
  . next invite hinvite =>
    apply h.change (fun i invite => if i = id then invite.revoke now else invite)
    . intro i
      dsimp only
      rw [Table.lookup_insert_eq]
      split
      . next heq =>
        rw [heq, hinvite]
        rfl
      . simp
    . intro i invite hi huses
      dsimp only
      split
      . dsimp only [Invite.revoke]
        omega
      . omega
    . intro i invite a ha
      refine ⟨?_, fun hsome => hsome⟩
      split at ha <;> exact ha
    . intro i invite hrevoked
      split at hrevoked
      . cases hrevoked
      . exact hrevoked
    . exact h.linked

theorem Accounted.agents (h : Accounted db log) {agents : AList (fun _ : Uuid => Agent)}
    (hagents : ∀ a, (db.agents.lookup a).isSome = true → (agents.lookup a).isSome = true)
    : Accounted { db with agents } log := by
  apply h.change (fun _ invite => invite)
  . intro i
    simp
  . intro i invite hi huses
    exact ⟨huses, Int.le_refl _⟩
  . intro i invite a ha
    exact ⟨ha, hagents a⟩
  . intro i invite hrevoked
    exact hrevoked
  . exact h.linked

theorem Accounted.claim (h : Accounted db log) {id : Uuid} {old claim : Claim}
    (hold : db.claims.lookup id = some old) (hinvite : claim.inviteId = old.inviteId)
    : Accounted { db with claims := db.claims.insert id claim } log := by
  apply h.change (fun _ invite => invite)
  . intro i
    simp
  . intro i invite hi huses
    dsimp only
    rw [attached_insert_same hold hinvite]
    exact ⟨huses, Int.le_refl _⟩
  . intro i invite a ha
    exact ⟨ha, fun hsome => hsome⟩
  . intro i invite hrevoked
    exact hrevoked
  . intro c row i hc hi
    rw [Table.lookup_insert_eq] at hc
    split at hc
    . cases hc
      rw [hinvite] at hi
      exact h.linked id old i hold hi
    . exact h.linked c row i hc hi

theorem lookup_setTokenHash (db : Database) (id a : Uuid) (hash : Option String)
    : (db.setTokenHash id hash).agents.lookup a
        = (db.agents.lookup a).map (fun agent =>
          if a = id then { agent with apiTokenHash := hash } else agent) := by
  unfold Database.setTokenHash
  split
  . next hnone =>
    by_cases heq : a = id
    . rw [heq, hnone]
      rfl
    . simp [heq]
  . next agent hagent =>
    dsimp only
    rw [Table.lookup_insert_eq]
    by_cases heq : a = id
    . rw [heq, hagent]
      simp
    . simp [heq]

theorem setTokenHash_tables (db : Database) (id : Uuid) (hash : Option String)
    : (db.setTokenHash id hash).invites = db.invites
      ∧ (db.setTokenHash id hash).claims = db.claims := by
  unfold Database.setTokenHash
  split <;> exact ⟨rfl, rfl⟩

theorem Accounted.setTokenHash (h : Accounted db log) (id : Uuid) (hash : Option String)
    : Accounted (db.setTokenHash id hash) log := by
  have heq : db.setTokenHash id hash = { db with agents := (db.setTokenHash id hash).agents } := by
    rw [← (setTokenHash_tables db id hash).1, ← (setTokenHash_tables db id hash).2]
  rw [heq]
  apply h.agents
  intro a ha
  rw [lookup_setTokenHash, Option.isSome_map]
  exact ha

theorem Accounted.revokeAgentCredentials (h : Accounted db log) (now : Nat) (agentId : Uuid)
    : Accounted (db.revokeAgentCredentials now agentId) log :=
  (h.revokeInvites now _).setTokenHash agentId none

theorem Accounted.deleteAgent (h : Accounted db log) (agentId : Uuid)
    : Accounted (db.deleteAgent agentId) log := by
  have hattached : ∀ i, attached (db.deleteAgent agentId).claims i = attached db.claims i := by
    intro i
    unfold attached Database.deleteAgent Table.mapValues
    rw [List.countP_map]
    rfl
  apply h.change (fun _ invite =>
    { invite with boundAgentId := invite.boundAgentId.filter (· ≠ agentId) })
  . intro i
    exact Table.lookup_mapValues _ _ i
  . intro i invite hi huses
    dsimp only
    rw [hattached]
    exact ⟨huses, Int.le_refl _⟩
  . intro i invite a ha
    rw [Option.filter_eq_some_iff] at ha
    refine ⟨ha.1, ?_⟩
    intro hsome
    have hne : a ≠ agentId := by simpa using ha.2
    dsimp only [Database.deleteAgent]
    rw [Table.lookup_erase_eq, if_neg hne]
    exact hsome
  . intro i invite hrevoked
    exact hrevoked
  . intro c claim i hc hi
    dsimp only [Database.deleteAgent] at hc
    rw [Table.lookup_mapValues, Option.map_eq_some_iff] at hc
    rcases hc with ⟨old, hold, rfl⟩
    exact h.linked c old i hold hi

theorem Accounted.deleteAgents (h : Accounted db log) (now : Nat) (ids : List Uuid)
    : Accounted (db.deleteAgents now ids) log := by
  have hrevoked : Accounted (ids.foldl (fun db id => db.revokeAgentCredentials now id) db) log :=
    List.foldlRecOn (motive := fun db => Accounted db log) ids _ h
      (fun _ hdb id _ => hdb.revokeAgentCredentials now id)
  exact List.foldlRecOn (motive := fun db => Accounted db log) ids _ hrevoked
    (fun _ hdb id _ => hdb.deleteAgent id)

theorem Accounted.createEnrollmentToken (h : Accounted db log) {uses : Int}
    {expiresAt : Option Nat} {draws : List String} {fresh : Uuid}
    (hfresh : db.invites.lookup fresh = none)
    (hcreated : db.createEnrollmentToken sha256Hex uses expiresAt draws fresh = some db')
    : Accounted db' (log ++ [.issued fresh (max uses 1)]) := by
  unfold Database.createEnrollmentToken at hcreated
  rw [Option.map_eq_some_iff] at hcreated
  rcases hcreated with ⟨code, _, rfl⟩
  have hpos : 0 ≤ max uses 1 := by omega
  apply h.issue hfresh rfl hpos
  intro a ha
  cases ha

theorem Accounted.createReplacementToken (h : Accounted db log) {agentId : Uuid}
    {draws : List String} {fresh : Uuid} (hfresh : db.invites.lookup fresh = none)
    (hcreated : db.createReplacementToken sha256Hex now agentId draws fresh = some db')
    : Accounted db' (log ++ [.issued fresh 1]) := by
  unfold Database.createReplacementToken at hcreated
  dsimp only at hcreated
  split at hcreated
  . cases hcreated
  . next hsome =>
    rw [Option.map_eq_some_iff] at hcreated
    rcases hcreated with ⟨code, _, rfl⟩
    have hrevoked := h.revokeAgentCredentials now agentId
    have hlookup : ∀ i, (db.revokeAgentCredentials now agentId).invites.lookup i
        = (db.invites.lookup i).map (fun invite =>
          if invite.boundAgentId = some agentId then invite.revoke now else invite) := by
      intro i
      unfold Database.revokeAgentCredentials
      rw [(setTokenHash_tables _ _ _).1]
      simp [Database.revokeInvites]
    apply hrevoked.issue _ rfl Int.one_nonneg
    . intro a ha
      cases ha
      refine ⟨?_, Int.le_refl _, ?_⟩
      . unfold Database.revokeAgentCredentials
        rw [lookup_setTokenHash, Option.isSome_map]
        rw [Option.isNone_iff_eq_none] at hsome
        exact Option.isSome_iff_ne_none.mpr hsome
      . intro j other hj hother
        rw [hlookup, Option.map_eq_some_iff] at hj
        rcases hj with ⟨invite, _, rfl⟩
        split
        . exact Option.some_ne_none _
        . next hne =>
          rw [if_neg hne] at hother
          exact absurd hother hne
    . rw [hlookup, hfresh]
      rfl

theorem lockInvite_ok {code : String} {id : Uuid} {invite : Invite}
    (h : db.lockInvite sha256Hex now code = .ok (id, invite))
    : db.invites.lookup id = some invite ∧ invite.revokedAt = none ∧ 0 < invite.usesRemaining := by
  unfold Database.lockInvite at h
  split at h
  . cases h
  . split at h
    . cases h
    . next hfind =>
      split at h
      . cases h
      . next hchecks =>
        cases h
        simp only [Bool.or_eq_true, decide_eq_true_eq, not_or] at hchecks
        have hfound := List.find?_some hfind
        rw [decide_eq_true_eq] at hfound
        refine ⟨AList.mem_lookup_iff.mpr (List.mem_of_find?_eq_some hfind), hfound.2, ?_⟩
        omega

-- A claim is attached to an invite that loses a use for it.
theorem Accounted.useInvite (h : Accounted db log) {id claimId : Uuid} {invite : Invite}
    {claim : Claim} (hinvite : db.invites.lookup id = some invite)
    (hpos : 0 < invite.usesRemaining) (hclaim : claim.inviteId = some id)
    : Accounted { db.useInvite id invite with
        claims := (db.useInvite id invite).claims.insert claimId claim } log := by
  apply h.change (fun i invite =>
    if i = id then { invite with usesRemaining := invite.usesRemaining - 1 } else invite)
  . intro i
    dsimp only [Database.useInvite]
    rw [Table.lookup_insert_eq]
    split
    . next heq =>
      rw [heq, hinvite]
      rfl
    . simp
  . intro i other hi huses
    have hle := attached_insert_le db.claims claimId claim i
    rw [hclaim] at hle
    dsimp only [Database.useInvite]
    split
    . next heq =>
      rw [heq, hinvite] at hi
      cases hi
      rw [heq, if_pos rfl] at hle
      rw [heq]
      dsimp only
      omega
    . next hne =>
      rw [if_neg (fun heq => hne (Option.some.inj heq).symm)] at hle
      omega
  . intro i other a ha
    refine ⟨?_, fun hsome => hsome⟩
    split at ha <;> exact ha
  . intro i other hrevoked
    split at hrevoked <;> exact hrevoked
  . intro c row i hc hi
    dsimp only [Database.useInvite] at hc
    rw [Table.lookup_insert_eq] at hc
    split at hc
    . cases hc
      rw [hclaim] at hi
      cases hi
      rw [hinvite]
      rfl
    . exact h.linked c row i hc hi

theorem Accounted.insertClaim (h : Accounted db log) {fresh : Uuid} {claim : Claim}
    (hclaim : claim.inviteId = none)
    : Accounted { db with claims := db.claims.insert fresh claim } log := by
  apply h.change (fun _ invite => invite)
  . intro i
    simp
  . intro i invite hi huses
    have hle := attached_insert_le db.claims fresh claim i
    rw [hclaim, if_neg (by simp)] at hle
    dsimp only
    omega
  . intro i invite a ha
    exact ⟨ha, fun hsome => hsome⟩
  . intro i invite hrevoked
    exact hrevoked
  . intro c row i hc hi
    rw [Table.lookup_insert_eq] at hc
    split at hc
    . cases hc
      rw [hclaim] at hi
      cases hi
    . exact h.linked c row i hc hi

theorem pendingClaimOf_some {digest : String} {id : Uuid} {claim : Claim}
    (h : db.pendingClaimOf digest = some (id, claim))
    : db.claims.lookup id = some claim ∧ claim.status = .pending := by
  unfold Database.pendingClaimOf at h
  rw [Option.map_eq_some_iff] at h
  rcases h with ⟨⟨key, row⟩, hfind, heq⟩
  cases heq
  have hfound := List.find?_some hfind
  rw [decide_eq_true_eq] at hfound
  exact ⟨AList.mem_lookup_iff.mpr (List.mem_of_find?_eq_some hfind), hfound.2⟩

-- A claim that is created is pending, and takes the place of a pending one at most.
theorem createClaim_cases {input : ClaimInput} {fresh id : Uuid} {auto : Bool}
    (hfresh : db.claims.lookup fresh = none)
    (h : db.createClaim sha256Hex now input fresh = .ok (db', id, auto))
    : ∃ claim : Claim, claim.status = .pending
      ∧ (∀ old, db.claims.lookup id = some old → old.status = .pending)
      ∧ ((db' = { db with claims := db.claims.insert id claim }
          ∧ (claim.inviteId = none
            ∨ ∃ old, db.claims.lookup id = some old ∧ claim.inviteId = old.inviteId))
        ∨ ∃ i invite, db.invites.lookup i = some invite ∧ invite.revokedAt = none
          ∧ 0 < invite.usesRemaining ∧ claim.inviteId = some i
          ∧ db' = { db.useInvite i invite with
              claims := (db.useInvite i invite).claims.insert id claim }) := by
  have hnew : ∀ old, db.claims.lookup fresh = some old → old.status = .pending := by
    intro old hold
    rw [hfresh] at hold
    cases hold
  unfold Database.createClaim at h
  dsimp only at h
  split at h
  . next claimId claim hpending =>
    rw [Option.bind_eq_some_iff] at hpending
    rcases hpending with ⟨digest, _, hpending⟩
    rcases pendingClaimOf_some hpending with ⟨hlookup, hstatus⟩
    have hold : ∀ old, db.claims.lookup claimId = some old → old.status = .pending := by
      intro old hold
      rw [hlookup] at hold
      cases hold
      exact hstatus
    split at h
    . cases h
      refine ⟨{ claim with
        requestedName := claimName input, inviteId := none.or claim.inviteId }, hstatus, hold, ?_⟩
      exact .inl ⟨rfl, .inr ⟨claim, hlookup, rfl⟩⟩
    . split at h
      . cases h
      . next i invite hlock =>
        split at h
        . cases h
        . cases h
          rcases lockInvite_ok hlock with ⟨hi, hrevoked, hpos⟩
          refine ⟨{ claim with
            requestedName := claimName input, inviteId := (some i).or claim.inviteId },
            hstatus, hold, ?_⟩
          exact .inr ⟨i, invite, hi, hrevoked, hpos, rfl, rfl⟩
  . split at h
    . split at h
      . cases h
      . cases h
        exact ⟨_, rfl, hnew, .inl ⟨rfl, .inl rfl⟩⟩
    . split at h
      . cases h
      . next i invite hlock =>
        split at h
        . cases h
        . cases h
          rcases lockInvite_ok hlock with ⟨hi, hrevoked, hpos⟩
          exact ⟨_, rfl, hnew, .inr ⟨i, invite, hi, hrevoked, hpos, rfl, rfl⟩⟩

theorem Accounted.createClaim (h : Accounted db log) {input : ClaimInput} {fresh id : Uuid}
    {auto : Bool} (hfresh : db.claims.lookup fresh = none)
    (hcreated : db.createClaim sha256Hex now input fresh = .ok (db', id, auto))
    : Accounted db' log := by
  rcases createClaim_cases hfresh hcreated with
    ⟨claim, _, _, ⟨rfl, hnone | ⟨old, hold, hinvite⟩⟩ | ⟨i, invite, hi, _, hpos, hinvite, rfl⟩⟩
  . exact h.insertClaim hnone
  . exact h.claim hold hinvite
  . exact h.useInvite hi hpos hinvite

theorem lockClaimForApproval_ok {claimId : Uuid} {expected : Option Uuid} {claim : Claim}
    (h : db.lockClaimForApproval now claimId expected = .ok claim)
    : db.claims.lookup claimId = some claim ∧ claim.status = .pending
      ∧ db.boundAgentOf claim = expected
      ∧ ∀ i, claim.inviteId = some i → ∃ invite, db.invites.lookup i = some invite
        ∧ invite.revokedAt = none ∧ invite.expired now = false := by
  unfold Database.lockClaimForApproval at h
  split at h
  . cases h
  . next row hrow =>
    split at h
    . cases h
    . next hstatus =>
      rw [ne_eq, not_not] at hstatus
      split at h
      . cases h
      . next hbound =>
        rw [ne_eq, not_not] at hbound
        split at h
        . next hnone =>
          cases h
          refine ⟨hrow, hstatus, hbound, ?_⟩
          intro i hi
          rw [hnone] at hi
          cases hi
        . next inviteId hinvite =>
          split at h
          . cases h
          . next hvalid =>
            cases h
            refine ⟨hrow, hstatus, hbound, ?_⟩
            intro i hi
            rw [hinvite] at hi
            cases hi
            cases hlookup : db.invites.lookup inviteId with
            | none =>
              rw [hlookup] at hvalid
              exact absurd rfl hvalid
            | some invite =>
              rw [hlookup, Option.all_some, Bool.or_eq_true, Bool.or_eq_true, not_or, not_or,
                Option.isSome_iff_ne_none, not_not, Bool.not_eq_true] at hvalid
              exact ⟨invite, rfl, hvalid.1⟩

theorem approveClaim_cases {claimId agentId fresh : Uuid} {agentName : Option String}
    {expected : Option Uuid} {hash name : String} {claim : Claim}
    (h : db.approveClaim now claimId agentName expected hash fresh = .ok (db', claim, agentId, name))
    : db.lockClaimForApproval now claimId expected = .ok claim
      ∧ ∃ issued, db' = issued.markClaimApproved claimId claim agentId hash
        ∧ ((expected = some agentId ∧ (db.agents.lookup agentId).isSome = true
            ∧ issued = db.setTokenHash agentId (some hash))
          ∨ (expected = none ∧ agentId = fresh
            ∧ issued = { db with agents := db.agents.insert fresh ⟨name, some hash⟩ })) := by
  unfold Database.approveClaim at h
  split at h
  . cases h
  . next locked hlock =>
    split at h
    . cases h
    . next issued issuedId issuedName hissue =>
      cases h
      refine ⟨hlock, issued, rfl, ?_⟩
      rw [(lockClaimForApproval_ok hlock).2.2.1] at hissue
      unfold Database.issueAgentCredentials at hissue
      split at hissue
      . split at hissue
        . cases hissue
        . next agent hagent =>
          cases hissue
          exact .inl ⟨rfl, by rw [hagent]; rfl, rfl⟩
      . split at hissue
        . cases hissue
        . cases hissue
          exact .inr ⟨rfl, rfl, rfl⟩

theorem isSome_lookup_insert {β : Type} (table : AList (fun _ : Uuid => β)) (id a : Uuid) (value : β)
    (h : (table.lookup a).isSome = true) : ((table.insert id value).lookup a).isSome = true := by
  rw [Table.lookup_insert_eq]
  split
  . rfl
  . exact h

theorem Accounted.markClaimApproved (h : Accounted db log) {claimId : Uuid} {claim : Claim}
    (hclaim : db.claims.lookup claimId = some claim) (agentId : Uuid) (hash : String)
    : Accounted (db.markClaimApproved claimId claim agentId hash) log := by
  apply h.claim hclaim
  rfl

theorem Accounted.approveClaim (h : Accounted db log) {claimId agentId fresh : Uuid}
    {agentName : Option String} {expected : Option Uuid} {hash name : String} {claim : Claim}
    (happroved : db.approveClaim now claimId agentName expected hash fresh
      = .ok (db', claim, agentId, name))
    : Accounted db' log := by
  rcases approveClaim_cases happroved with ⟨hlock, issued, rfl, hissued⟩
  have hclaim := (lockClaimForApproval_ok hlock).1
  rcases hissued with ⟨_, _, rfl⟩ | ⟨_, _, rfl⟩
  . apply (h.setTokenHash agentId (some hash)).markClaimApproved
    rw [(setTokenHash_tables _ _ _).2]
    exact hclaim
  . apply (h.agents (isSome_lookup_insert db.agents _ · _)).markClaimApproved
    exact hclaim

theorem rejectClaim_cases {claimId : Uuid} {error : Option String}
    (h : db.rejectClaim claimId error = some db')
    : ∃ claim rejected, db.claims.lookup claimId = some claim ∧ claim.status = .pending
      ∧ rejected.status = .rejected ∧ rejected.inviteId = claim.inviteId
      ∧ db' = { db with claims := db.claims.insert claimId rejected } := by
  unfold Database.rejectClaim at h
  split at h
  . cases h
  . next claim hclaim =>
    split at h
    . next hstatus =>
      cases h
      refine ⟨claim, { claim with
        status := .rejected, error := some (error.getD "Rejected by admin") }, hclaim, hstatus, ?_⟩
      exact ⟨rfl, rfl, rfl⟩
    . cases h

theorem Accounted.rejectClaim (h : Accounted db log) {claimId : Uuid} {error : Option String}
    (hrejected : db.rejectClaim claimId error = some db') : Accounted db' log := by
  rcases rejectClaim_cases hrejected with ⟨claim, rejected, hclaim, _, _, hinvite, rfl⟩
  exact h.claim hclaim hinvite

end Transactions

/-!
Every step keeps the accounts.
-/

section Steps

variable {sha256Hex : String → String} {hashPassword : String → String → String}

theorem Accounted.step {s : System} {op : Op} (h : Accounted s.db s.log) (hfresh : s.Fresh op)
    : Accounted (s.exec sha256Hex hashPassword op).db (s.exec sha256Hex hashPassword op).log := by
  cases op with
  | createToken uses expiresAt draws fresh =>
    dsimp only [System.exec, System.createToken]
    split
    . exact h
    . next hcreated => exact h.createEnrollmentToken hfresh hcreated
  | revokeToken id => exact h.revokeEnrollmentToken s.now id
  | revokeAll => exact h.revokeInvites s.now _
  | revokeCredentials agentId => exact h.revokeAgentCredentials s.now agentId
  | replaceInstallation agentId draws fresh =>
    dsimp only [System.exec, System.replaceInstallation]
    split
    . exact h
    . next hcreated => exact h.createReplacementToken hfresh hcreated
  | deleteAgents ids => exact h.deleteAgents s.now ids
  | createClaim input fresh =>
    dsimp only [System.exec, System.createClaim]
    split
    . exact h
    . next hcreated => exact h.createClaim hfresh hcreated
  | recheckApproval handler =>
    dsimp only [System.exec, System.recheckApproval]
    split
    . split <;> exact h
    . exact h
  | commitApproval handler token salt fresh =>
    dsimp only [System.exec, System.commitApproval]
    split
    . split
      . exact h
      . next happroved => exact (h.approveClaim happroved).log (by simp)
    . exact h
  | publishApproval handler =>
    dsimp only [System.exec, System.publishApproval]
    split <;> exact h
  | rejectClaim claimId error =>
    dsimp only [System.exec, System.rejectClaim]
    split
    . exact h
    . next hrejected => exact (h.rejectClaim hrejected).log (by simp)
  | poll claimId =>
    dsimp only [System.exec, System.poll]
    split <;> exact h
  | loadClaim claimId =>
    dsimp only [System.exec, System.loadClaim]
    split <;> exact h
  | answerPoll claimId =>
    dsimp only [System.exec, System.answerPoll]
    split
    . split
      . exact h.log (by simp)
      . exact h
    . exact h
  | beginApproval | dropTokens | tick | startPolling => exact h

end Steps

/-!
A claim that is not pending any more stays what it is.
-/

def Keeps (claims claims' : AList (fun _ : Uuid => Claim)) : Prop :=
  ∀ c claim, claims.lookup c = some claim → claim.status ≠ .pending
    → ∃ agentId, claims'.lookup c = some { claim with agentId }

theorem Keeps.refl (claims : AList (fun _ : Uuid => Claim)) : Keeps claims claims := by
  intro c claim hc _
  exact ⟨claim.agentId, hc⟩

theorem keeps_insert {claims : AList (fun _ : Uuid => Claim)} {id : Uuid}
    (hpending : ∀ old, claims.lookup id = some old → old.status = .pending) (claim : Claim)
    : Keeps claims (claims.insert id claim) := by
  intro c other hc hstatus
  refine ⟨other.agentId, ?_⟩
  rw [AList.lookup_insert_ne, hc]
  intro heq
  rw [heq] at hc
  exact hstatus (hpending other hc)

theorem Keeps.trans {xs ys zs : AList (fun _ : Uuid => Claim)} (h : Keeps xs ys) (h' : Keeps ys zs)
    : Keeps xs zs := by
  intro c claim hc hstatus
  rcases h c claim hc hstatus with ⟨agentId, hy⟩
  exact h' c { claim with agentId } hy hstatus

theorem Keeps.foldl {f : Database → Uuid → Database}
    (hf : ∀ db id, Keeps db.claims (f db id).claims) (ids : List Uuid) (db : Database)
    : Keeps db.claims (ids.foldl f db).claims := by
  induction ids generalizing db with
  | nil => exact Keeps.refl _
  | cons id ids ih => exact (hf db id).trans (ih (f db id))

theorem keeps_deleteAgents (db : Database) (now : Nat) (ids : List Uuid)
    : Keeps db.claims (db.deleteAgents now ids).claims := by
  have hrevoke : ∀ (db : Database) id, Keeps db.claims (db.revokeAgentCredentials now id).claims := by
    intro db id
    unfold Database.revokeAgentCredentials
    rw [(setTokenHash_tables _ _ _).2]
    exact Keeps.refl _
  have hdelete : ∀ (db : Database) id, Keeps db.claims (db.deleteAgent id).claims := by
    intro db id c claim hc _
    refine ⟨claim.agentId.filter (· ≠ id), ?_⟩
    dsimp only [Database.deleteAgent]
    rw [Table.lookup_mapValues, hc]
    rfl
  exact (Keeps.foldl hrevoke ids db).trans (Keeps.foldl hdelete ids _)

def approvedClaim : Event → Option Uuid
  | .approved c _ => some c
  | _ => none

structure Logged (claims : AList (fun _ : Uuid => Claim)) (log : List Event) : Prop where
  approved : ∀ c i, .approved c i ∈ log
    → ∃ claim, claims.lookup c = some claim ∧ claim.status = .approved ∧ claim.inviteId = i
  rejected : ∀ c, .rejected c ∈ log
    → ∃ claim, claims.lookup c = some claim ∧ claim.status = .rejected
  once : (log.filterMap approvedClaim).Nodup

theorem Logged.keep {claims claims' : AList (fun _ : Uuid => Claim)} {log : List Event}
    (h : Logged claims log) (hkeeps : Keeps claims claims') : Logged claims' log where
  approved := by
    intro c i hmem
    rcases h.approved c i hmem with ⟨claim, hc, hstatus, hinvite⟩
    rcases hkeeps c claim hc (by rw [hstatus]; decide) with ⟨agentId, hc'⟩
    exact ⟨_, hc', hstatus, hinvite⟩
  rejected := by
    intro c hmem
    rcases h.rejected c hmem with ⟨claim, hc, hstatus⟩
    rcases hkeeps c claim hc (by rw [hstatus]; decide) with ⟨agentId, hc'⟩
    exact ⟨_, hc', hstatus⟩
  once := h.once

theorem Logged.log {claims : AList (fun _ : Uuid => Claim)} {log : List Event}
    (h : Logged claims log) {event : Event} (hevent : approvedClaim event = none)
    (hrejected : ∀ c, event = .rejected c
      → ∃ claim, claims.lookup c = some claim ∧ claim.status = .rejected)
    : Logged claims (log ++ [event]) where
  approved := by
    intro c i hmem
    rw [List.mem_append, List.mem_singleton] at hmem
    rcases hmem with hmem | heq
    . exact h.approved c i hmem
    . rw [← heq] at hevent
      cases hevent
  rejected := by
    intro c hmem
    rw [List.mem_append, List.mem_singleton] at hmem
    rcases hmem with hmem | heq
    . exact h.rejected c hmem
    . exact hrejected c heq.symm
  once := by
    rw [List.filterMap_append, List.filterMap_cons, hevent]
    simpa using h.once

theorem Logged.approve {claims : AList (fun _ : Uuid => Claim)} {log : List Event}
    (h : Logged claims log) {id : Uuid} {old claim : Claim} (hold : claims.lookup id = some old)
    (hpending : old.status = .pending) (hstatus : claim.status = .approved)
    : Logged (claims.insert id claim) (log ++ [.approved id claim.inviteId]) := by
  have hpendings : ∀ other, claims.lookup id = some other → other.status = .pending := by
    intro other hother
    rw [hold] at hother
    cases hother
    exact hpending
  have hkept := h.keep (keeps_insert hpendings claim)
  constructor
  . intro c i hmem
    rw [List.mem_append, List.mem_singleton] at hmem
    rcases hmem with hmem | heq
    . exact hkept.approved c i hmem
    . cases heq
      exact ⟨claim, AList.lookup_insert _, hstatus, rfl⟩
  . intro c hmem
    rw [List.mem_append, List.mem_singleton] at hmem
    rcases hmem with hmem | heq
    . exact hkept.rejected c hmem
    . cases heq
  . rw [List.filterMap_append, List.filterMap_cons, List.filterMap_nil]
    dsimp only [approvedClaim]
    rw [List.nodup_append]
    refine ⟨h.once, List.nodup_singleton _, ?_⟩
    intro c hc other hother heq
    rw [List.mem_singleton] at hother
    rw [heq, hother, List.mem_filterMap] at hc
    rcases hc with ⟨event, hmem, hevent⟩
    cases event with
    | approved c' i =>
      cases hevent
      rcases h.approved _ i hmem with ⟨row, hrow, happroved, _⟩
      rw [hpendings row hrow] at happroved
      cases happroved
    | issued | rejected | delivered => cases hevent

section Steps

variable {sha256Hex : String → String} {hashPassword : String → String → String}

theorem keeps_createClaim {db db' : Database} {now : Nat} {input : ClaimInput} {fresh id : Uuid}
    {auto : Bool} (hfresh : db.claims.lookup fresh = none)
    (hcreated : db.createClaim sha256Hex now input fresh = .ok (db', id, auto))
    : Keeps db.claims db'.claims := by
  rcases createClaim_cases hfresh hcreated with
    ⟨claim, _, hpending, ⟨rfl, _⟩ | ⟨i, invite, _, _, _, _, rfl⟩⟩
  . exact keeps_insert hpending claim
  . exact keeps_insert hpending claim

theorem claims_createEnrollmentToken {db db' : Database} {uses : Int} {expiresAt : Option Nat}
    {draws : List String} {fresh : Uuid}
    (h : db.createEnrollmentToken sha256Hex uses expiresAt draws fresh = some db')
    : db'.claims = db.claims ∧ db'.agents = db.agents := by
  unfold Database.createEnrollmentToken at h
  rw [Option.map_eq_some_iff] at h
  rcases h with ⟨code, _, rfl⟩
  exact ⟨rfl, rfl⟩

theorem claims_createReplacementToken {db db' : Database} {now : Nat} {agentId : Uuid}
    {draws : List String} {fresh : Uuid}
    (h : db.createReplacementToken sha256Hex now agentId draws fresh = some db')
    : db'.claims = db.claims ∧ db'.agents = (db.revokeAgentCredentials now agentId).agents := by
  unfold Database.createReplacementToken at h
  dsimp only at h
  split at h
  . cases h
  . rw [Option.map_eq_some_iff] at h
    rcases h with ⟨code, _, rfl⟩
    exact ⟨(setTokenHash_tables _ _ _).2, rfl⟩

theorem revokeEnrollmentToken_tables (db : Database) (now : Nat) (id : Uuid)
    : (db.revokeEnrollmentToken now id).claims = db.claims
      ∧ (db.revokeEnrollmentToken now id).agents = db.agents := by
  unfold Database.revokeEnrollmentToken
  split <;> exact ⟨rfl, rfl⟩

theorem approveClaim_claims {db db' : Database} {now : Nat} {claimId agentId fresh : Uuid}
    {agentName : Option String} {expected : Option Uuid} {hash name : String} {claim : Claim}
    (h : db.approveClaim now claimId agentName expected hash fresh = .ok (db', claim, agentId, name))
    : db'.claims = db.claims.insert claimId { claim with
        status := .approved
        agentId := some agentId
        issuedTokenHash := some hash
        error := none } := by
  rcases approveClaim_cases h with ⟨_, issued, rfl, ⟨_, _, rfl⟩ | ⟨_, _, rfl⟩⟩
  . dsimp only [Database.markClaimApproved]
    rw [(setTokenHash_tables _ _ _).2]
  . rfl

theorem Logged.step {s : System} {op : Op} (h : Logged s.db.claims s.log) (hfresh : s.Fresh op)
    : Logged (s.exec sha256Hex hashPassword op).db.claims
        (s.exec sha256Hex hashPassword op).log := by
  cases op with
  | createToken uses expiresAt draws fresh =>
    dsimp only [System.exec, System.createToken]
    split
    . exact h
    . next hcreated =>
      dsimp only
      rw [(claims_createEnrollmentToken hcreated).1]
      exact h.log rfl (by simp)
  | revokeToken id =>
    dsimp only [System.exec]
    rw [(revokeEnrollmentToken_tables _ _ _).1]
    exact h
  | revokeAll => exact h
  | revokeCredentials agentId =>
    dsimp only [System.exec, Database.revokeAgentCredentials]
    rw [(setTokenHash_tables _ _ _).2]
    exact h
  | replaceInstallation agentId draws fresh =>
    dsimp only [System.exec, System.replaceInstallation]
    split
    . exact h
    . next hcreated =>
      dsimp only
      rw [(claims_createReplacementToken hcreated).1]
      exact h.log rfl (by simp)
  | deleteAgents ids => exact h.keep (keeps_deleteAgents s.db s.now ids)
  | createClaim input fresh =>
    dsimp only [System.exec, System.createClaim]
    split
    . exact h
    . next hcreated => exact h.keep (keeps_createClaim hfresh hcreated)
  | recheckApproval handler =>
    dsimp only [System.exec, System.recheckApproval]
    split
    . split <;> exact h
    . exact h
  | commitApproval handler token salt fresh =>
    dsimp only [System.exec, System.commitApproval]
    split
    . split
      . exact h
      . next happroved =>
        rcases lockClaimForApproval_ok (approveClaim_cases happroved).1 with ⟨hclaim, hpending, _⟩
        dsimp only
        rw [approveClaim_claims happroved]
        apply h.approve hclaim hpending
        rfl
    . exact h
  | publishApproval handler =>
    dsimp only [System.exec, System.publishApproval]
    split <;> exact h
  | rejectClaim claimId error =>
    dsimp only [System.exec, System.rejectClaim]
    split
    . exact h
    . next hrejected =>
      rcases rejectClaim_cases hrejected with ⟨claim, rejected, hclaim, hpending, hstatus, _, rfl⟩
      have hpendings : ∀ old, s.db.claims.lookup claimId = some old → old.status = .pending := by
        intro old hold
        rw [hclaim] at hold
        cases hold
        exact hpending
      apply (h.keep (keeps_insert hpendings rejected)).log rfl
      intro c heq
      cases heq
      exact ⟨rejected, AList.lookup_insert _, hstatus⟩
  | poll claimId =>
    dsimp only [System.exec, System.poll]
    split <;> exact h
  | loadClaim claimId =>
    dsimp only [System.exec, System.loadClaim]
    split <;> exact h
  | answerPoll claimId =>
    dsimp only [System.exec, System.answerPoll]
    split
    . split
      . exact h.log rfl (by simp)
      . exact h
    . exact h
  | beginApproval | dropTokens | tick | startPolling => exact h

theorem reachable_accounted {s : System} (h : System.Reachable sha256Hex hashPassword s)
    : Accounted s.db s.log ∧ Logged s.db.claims s.log := by
  induction h with
  | refl => exact ⟨.empty, by simp [System.init], by simp [System.init], by simp [System.init]⟩
  | tail _ hstep ih =>
    rcases hstep with ⟨op, hfresh, rfl⟩
    exact ⟨ih.1.step hfresh, ih.2.step hfresh⟩

end Steps

/-!
Credentials.
-/

-- No agent is added, and the only new hash is none.
def Dropped (agents agents' : AList (fun _ : Uuid => Agent)) : Prop :=
  ∀ a new, agents'.lookup a = some new
    → ∃ old, agents.lookup a = some old
      ∧ (new.apiTokenHash = old.apiTokenHash ∨ new.apiTokenHash = none)

theorem Dropped.refl (agents : AList (fun _ : Uuid => Agent)) : Dropped agents agents := by
  intro a new h
  exact ⟨new, h, .inl rfl⟩

theorem Dropped.trans {xs ys zs : AList (fun _ : Uuid => Agent)} (h : Dropped xs ys)
    (h' : Dropped ys zs) : Dropped xs zs := by
  intro a new hz
  rcases h' a new hz with ⟨mid, hy, hmid⟩
  rcases h a mid hy with ⟨old, hx, hold⟩
  refine ⟨old, hx, ?_⟩
  rcases hmid with heq | hnone
  . rw [heq]
    exact hold
  . exact .inr hnone

theorem Dropped.foldl {f : Database → Uuid → Database}
    (hf : ∀ db id, Dropped db.agents (f db id).agents) (ids : List Uuid) (db : Database)
    : Dropped db.agents (ids.foldl f db).agents := by
  induction ids generalizing db with
  | nil => exact Dropped.refl _
  | cons id ids ih => exact (hf db id).trans (ih (f db id))

theorem dropped_revokeAgentCredentials (db : Database) (now : Nat) (agentId : Uuid)
    : Dropped db.agents (db.revokeAgentCredentials now agentId).agents := by
  intro a new h
  unfold Database.revokeAgentCredentials at h
  rw [lookup_setTokenHash, Option.map_eq_some_iff] at h
  rcases h with ⟨old, hold, rfl⟩
  refine ⟨old, hold, ?_⟩
  split
  . exact .inr rfl
  . exact .inl rfl

theorem dropped_deleteAgents (db : Database) (now : Nat) (ids : List Uuid)
    : Dropped db.agents (db.deleteAgents now ids).agents := by
  have hdelete : ∀ (db : Database) id, Dropped db.agents (db.deleteAgent id).agents := by
    intro db id a new h
    dsimp only [Database.deleteAgent] at h
    rw [Table.lookup_erase_eq] at h
    split at h
    . cases h
    . exact ⟨new, h, .inl rfl⟩
  exact (Dropped.foldl (fun db id => dropped_revokeAgentCredentials db now id) ids db).trans
    (Dropped.foldl hdelete ids _)

-- The claim could be approved now, through an invite that is bound to the agent.
def System.BoundTo (s : System) (claimId agentId : Uuid) : Prop :=
  ∃ claim i invite, s.db.claims.lookup claimId = some claim ∧ claim.inviteId = some i
    ∧ s.db.invites.lookup i = some invite ∧ invite.boundAgentId = some agentId
    ∧ invite.revokedAt = none ∧ invite.expired s.now = false

theorem boundTo_of_boundAgentOf {s : System} {claimId agentId : Uuid} {claim : Claim}
    (hlock : s.db.lockClaimForApproval s.now claimId (some agentId) = .ok claim)
    : s.BoundTo claimId agentId := by
  rcases lockClaimForApproval_ok hlock with ⟨hclaim, _, hbound, hvalid⟩
  unfold Database.boundAgentOf at hbound
  rw [Option.bind_eq_some_iff] at hbound
  rcases hbound with ⟨invite, hinvite, hagent⟩
  rw [Option.bind_eq_some_iff] at hinvite
  rcases hinvite with ⟨i, hi, hlookup⟩
  rcases hvalid i hi with ⟨other, hother, hrevoked, hexpired⟩
  rw [hlookup] at hother
  cases hother
  exact ⟨claim, i, invite, hclaim, hi, hlookup, hagent, hrevoked, hexpired⟩

section Steps

variable {sha256Hex : String → String} {hashPassword : String → String → String}

theorem dropped_step (s : System) (op : Op)
    (hop : ∀ handler token salt fresh, op ≠ .commitApproval handler token salt fresh)
    : Dropped s.db.agents (s.exec sha256Hex hashPassword op).db.agents := by
  cases op with
  | createToken uses expiresAt draws fresh =>
    dsimp only [System.exec, System.createToken]
    split
    . exact Dropped.refl _
    . next hcreated =>
      dsimp only
      rw [(claims_createEnrollmentToken hcreated).2]
      exact Dropped.refl _
  | revokeToken id =>
    dsimp only [System.exec]
    rw [(revokeEnrollmentToken_tables _ _ _).2]
    exact Dropped.refl _
  | revokeCredentials agentId => exact dropped_revokeAgentCredentials s.db s.now agentId
  | replaceInstallation agentId draws fresh =>
    dsimp only [System.exec, System.replaceInstallation]
    split
    . exact Dropped.refl _
    . next hcreated =>
      dsimp only
      rw [(claims_createReplacementToken hcreated).2]
      exact dropped_revokeAgentCredentials s.db s.now agentId
  | deleteAgents ids => exact dropped_deleteAgents s.db s.now ids
  | createClaim input fresh =>
    dsimp only [System.exec, System.createClaim]
    split
    . exact Dropped.refl _
    . next db id auto hcreated =>
      have : db.agents = s.db.agents := by
        unfold Database.createClaim at hcreated
        dsimp only at hcreated
        split at hcreated
        . split at hcreated
          . cases hcreated
            rfl
          . split at hcreated
            . cases hcreated
            . split at hcreated <;> cases hcreated
              rfl
        . split at hcreated
          . split at hcreated <;> cases hcreated
            rfl
          . split at hcreated
            . cases hcreated
            . split at hcreated <;> cases hcreated
              rfl
      dsimp only
      rw [this]
      exact Dropped.refl _
  | recheckApproval handler =>
    dsimp only [System.exec, System.recheckApproval]
    split
    . split <;> exact Dropped.refl _
    . exact Dropped.refl _
  | commitApproval handler token salt fresh => exact absurd rfl (hop handler token salt fresh)
  | publishApproval handler =>
    dsimp only [System.exec, System.publishApproval]
    split <;> exact Dropped.refl _
  | rejectClaim claimId error =>
    dsimp only [System.exec, System.rejectClaim]
    split
    . exact Dropped.refl _
    . next hrejected =>
      rcases rejectClaim_cases hrejected with ⟨_, _, _, _, _, _, rfl⟩
      exact Dropped.refl _
  | poll claimId =>
    dsimp only [System.exec, System.poll]
    split <;> exact Dropped.refl _
  | loadClaim claimId =>
    dsimp only [System.exec, System.loadClaim]
    split <;> exact Dropped.refl _
  | answerPoll claimId =>
    dsimp only [System.exec, System.answerPoll]
    split
    . split <;> exact Dropped.refl _
    . exact Dropped.refl _
  | revokeAll | beginApproval | dropTokens | tick | startPolling => exact Dropped.refl _

theorem replaced_commitApproval {s : System} {handler : Nat} {token salt : String} {fresh a : Uuid}
    {old new : Agent}
    (hfresh : s.Fresh (.commitApproval handler token salt fresh))
    (hold : s.db.agents.lookup a = some old)
    (hnew : (s.commitApproval hashPassword handler token salt fresh).db.agents.lookup a = some new)
    (hne : new.apiTokenHash ≠ old.apiTokenHash)
    : ∃ approval, s.approvals.lookup handler = some approval ∧ s.BoundTo approval.claimId a := by
  unfold System.commitApproval at hnew
  split at hnew
  . next claimId agentName bound happroval =>
    split at hnew
    . rw [hold] at hnew
      cases hnew
      exact absurd rfl hne
    . next db claim agentId name happroved =>
      refine ⟨_, happroval, ?_⟩
      rcases approveClaim_cases happroved with ⟨hlock, issued, rfl, ⟨rfl, _, rfl⟩ | ⟨_, _, rfl⟩⟩
      . dsimp only [Database.markClaimApproved] at hnew
        rw [lookup_setTokenHash, hold, Option.map_some, Option.some.injEq] at hnew
        split at hnew
        . next heq =>
          rw [heq]
          exact boundTo_of_boundAgentOf hlock
        . rw [hnew] at hne
          exact absurd rfl hne
      . dsimp only [Database.markClaimApproved] at hnew
        rw [AList.lookup_insert_ne, hold] at hnew
        . cases hnew
          exact absurd rfl hne
        . intro heq
          rw [heq, hfresh.1] at hold
          cases hold
  . rw [hold] at hnew
    cases hnew
    exact absurd rfl hne

end Steps

/-!
Accounting of approvals.
-/

def isApprovalAgainst (invite : Uuid) : Event → Bool
  | .approved _ i => i = some invite
  | _ => false

def isApprovalOf (claimId : Uuid) : Event → Bool
  | .approved c _ => c = claimId
  | _ => false

theorem length_approvals (invite : Uuid) (log : List Event)
    : ((log.filter (isApprovalAgainst invite)).filterMap approvedClaim).length
        = log.countP (isApprovalAgainst invite) := by
  induction log with
  | nil => rfl
  | cons event log ih =>
    cases event with
    | approved c i =>
      by_cases heq : i = some invite
      . simp [isApprovalAgainst, approvedClaim, heq, ← ih]
      . simp [isApprovalAgainst, heq, ← ih]
    | issued | rejected | delivered =>
      simp [isApprovalAgainst, ← ih]

-- Each approval is that of another claim, which is attached to the invite.
theorem Logged.approvals_le {claims : AList (fun _ : Uuid => Claim)} {log : List Event}
    (h : Logged claims log) (invite : Uuid)
    : log.countP (isApprovalAgainst invite) ≤ attached claims invite := by
  have hnodup : ((log.filter (isApprovalAgainst invite)).filterMap approvedClaim).Nodup :=
    h.once.sublist (List.filter_sublist.filterMap approvedClaim)
  have hsubset : (log.filter (isApprovalAgainst invite)).filterMap approvedClaim
      ⊆ (claims.entries.filter (fun entry => entry.2.inviteId = some invite)).map Sigma.fst := by
    intro c hc
    rw [List.mem_filterMap] at hc
    rcases hc with ⟨event, hmem, hevent⟩
    rw [List.mem_filter] at hmem
    cases event with
    | approved c' i =>
      cases hevent
      have hi : i = some invite := by simpa [isApprovalAgainst] using hmem.2
      rcases h.approved _ i hmem.1 with ⟨claim, hclaim, _, hinvite⟩
      rw [List.mem_map]
      refine ⟨⟨c, claim⟩, ?_, rfl⟩
      rw [List.mem_filter]
      refine ⟨AList.mem_lookup_iff.mp hclaim, ?_⟩
      simp [hinvite, hi]
    | issued | rejected | delivered => cases hevent
  have hle := (List.subperm_of_subset hnodup hsubset).length_le
  rw [length_approvals, List.length_map, ← List.countP_eq_length_filter] at hle
  exact hle

theorem countP_isApprovalOf (claimId : Uuid) (log : List Event)
    : log.countP (isApprovalOf claimId) = (log.filterMap approvedClaim).count claimId := by
  induction log with
  | nil => rfl
  | cons event log ih =>
    cases event with
    | approved c i =>
      by_cases heq : c = claimId
      . simp [isApprovalOf, approvedClaim, heq, ih]
      . simp [isApprovalOf, approvedClaim, heq, ih]
    | issued | rejected | delivered => simp [isApprovalOf, approvedClaim, List.filterMap_cons, ih]

/--
However claims are created, approved and rejected and invites are revoked and expire: an invite has no
negative number of uses left, no more claims were approved against it than it had uses at first, a claim
was approved once at most and never if it was rejected, and the hash of an agent is replaced only by the
approval of a claim whose invite is bound to that agent and is neither revoked nor expired.
-/
theorem enrollment_accounted {sha256Hex : String → String} {hashPassword : String → String → String}
    {s : System} (h : System.Reachable sha256Hex hashPassword s)
    : (∀ i invite, s.db.invites.lookup i = some invite → 0 ≤ invite.usesRemaining)
      ∧ (∀ i uses, .issued i uses ∈ s.log → (s.log.countP (isApprovalAgainst i) : Int) ≤ uses)
      ∧ (∀ c, s.log.countP (isApprovalOf c) ≤ 1)
      ∧ (∀ c, .rejected c ∈ s.log → s.log.countP (isApprovalOf c) = 0)
      ∧ ∀ op a old new, s.Fresh op → s.db.agents.lookup a = some old
        → (s.exec sha256Hex hashPassword op).db.agents.lookup a = some new
        → new.apiTokenHash ≠ old.apiTokenHash → new.apiTokenHash ≠ none
        → ∃ handler token salt fresh approval, op = .commitApproval handler token salt fresh
          ∧ s.approvals.lookup handler = some approval ∧ s.BoundTo approval.claimId a := by
  rcases reachable_accounted h with ⟨haccounted, hlogged⟩
  refine ⟨haccounted.uses, ?_, ?_, ?_, ?_⟩
  . intro i uses hissued
    rcases haccounted.budget i uses hissued with ⟨invite, hi, hle⟩
    have huses := haccounted.uses i invite hi
    have happrovals := hlogged.approvals_le i
    omega
  . intro c
    rw [countP_isApprovalOf]
    exact List.nodup_iff_count_le_one.mp hlogged.once c
  . intro c hrejected
    rw [countP_isApprovalOf, List.count_eq_zero, List.mem_filterMap]
    rintro ⟨event, hmem, hevent⟩
    cases event with
    | approved c' i =>
      cases hevent
      rcases hlogged.rejected c hrejected with ⟨claim, hclaim, hstatus⟩
      rcases hlogged.approved c i hmem with ⟨other, hother, happroved, _⟩
      rw [hclaim] at hother
      cases hother
      rw [hstatus] at happroved
      cases happroved
    | issued | rejected | delivered => cases hevent
  . intro op a old new hfresh hold hnew hne hsome
    by_cases hop : ∀ handler token salt fresh, op ≠ .commitApproval handler token salt fresh
    . rcases dropped_step s op hop a new hnew with ⟨other, hother, heq | hnone⟩
      . rw [hold] at hother
        cases hother
        exact absurd heq hne
      . exact absurd hnone hsome
    . simp only [not_forall, ne_eq, not_not] at hop
      rcases hop with ⟨handler, token, salt, fresh, rfl⟩
      rcases replaced_commitApproval hfresh hold hnew hne with ⟨approval, happroval, hbound⟩
      exact ⟨handler, token, salt, fresh, approval, rfl, happroval, hbound⟩

/-!
An agent is enrolled with a code, and is installed anew with another one.
-/

namespace Example

def codeDigest : String → String :=
  id

def saltedHash (token salt : String) : String :=
  token ++ salt

def token (c : Char) : String :=
  String.ofList (List.replicate 43 c)

def approve (handler : Nat) (claimId : Uuid) (c : Char) (fresh : Uuid) : List Op :=
  [.beginApproval handler claimId none, .recheckApproval handler,
    .commitApproval handler (token c) "$1" fresh, .publishApproval handler]

def enroll : List Op :=
  [.createToken 1 none ["123456"] 1, .createClaim ⟨some "123-456", "kiosk", none, "a"⟩ 2]
    ++ approve 0 2 'a' 3

def replace : List Op :=
  [.replaceInstallation 3 ["654321"] 4, .createClaim ⟨some "654321", "kiosk", none, "b"⟩ 5,
    .beginApproval 1 5 none, .recheckApproval 1]

def replaced : System :=
  System.init.run codeDigest saltedHash (enroll ++ replace)

def rotate : Op :=
  .commitApproval 1 (token 'b') "$2" 6

end Example

theorem enrollment_accounted_replaced
    : (Event.issued 1 1 ∈ Example.replaced.log
        ∧ (Example.replaced.log.countP (isApprovalAgainst 1) : Int) ≤ 1)
      ∧ ∃ old new, Example.replaced.db.agents.lookup 3 = some old
        ∧ (Example.replaced.exec Example.codeDigest Example.saltedHash Example.rotate).db.agents.lookup 3
          = some new
        ∧ new.apiTokenHash = some (Example.saltedHash (Example.token 'b') "$2")
        ∧ ∃ handler token salt fresh approval,
          Example.rotate = .commitApproval handler token salt fresh
            ∧ Example.replaced.approvals.lookup handler = some approval
            ∧ Example.replaced.BoundTo approval.claimId 3 := by
  have hreachable : System.Reachable Example.codeDigest Example.saltedHash Example.replaced :=
    System.reachable_run (by decide +kernel)
  have hall := enrollment_accounted hreachable
  refine ⟨⟨by decide +kernel, hall.2.1 1 1 (by decide +kernel)⟩, ⟨"kiosk", none⟩,
    ⟨"kiosk", some (Example.saltedHash (Example.token 'b') "$2")⟩, by decide +kernel,
    by decide +kernel, rfl, ?_⟩
  apply hall.2.2.2.2 Example.rotate 3 ⟨"kiosk", none⟩
    ⟨"kiosk", some (Example.saltedHash (Example.token 'b') "$2")⟩
  . decide +kernel
  . decide +kernel
  . decide +kernel
  . decide
  . decide

end Enrollment

end Vantyr
