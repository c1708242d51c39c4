import Vantyr.Data.Table
import Vantyr.Data.Text
import Vantyr.Data.Uuid

/-!
This module contains the enrollment tables of the server (`server/src/agents/enrollment/db`): pairing
codes, called invites, the claims that agents create with or without one, and the agents whose
credentials are issued when a claim is approved. Each definition is one database transaction.
-/

namespace Vantyr

namespace Enrollment

inductive InviteKind where
  | quickPair
  | unattended
  | reEnroll
  deriving DecidableEq, Repr

inductive ClaimStatus where
  | pending
  | approved
  | rejected
  | expired
  deriving DecidableEq, Repr

structure Invite where
  secretDigest : String
  kind : InviteKind
  usesRemaining : Int
  expiresAt : Option Nat
  autoApprove : Bool
  boundAgentId : Option Uuid
  revokedAt : Option Nat
  deriving DecidableEq, Repr

structure Claim where
  inviteId : Option Uuid
  status : ClaimStatus
  requestedName : String
  installDigest : Option String
  agentId : Option Uuid
  issuedTokenHash : Option String
  error : Option String
  deriving DecidableEq, Repr

structure Agent where
  name : String
  apiTokenHash : Option String
  deriving DecidableEq, Repr

structure Database where
  invites : AList (fun _ : Uuid => Invite)
  claims : AList (fun _ : Uuid => Claim)
  agents : AList (fun _ : Uuid => Agent)

inductive ClaimCreateReject where
  | invalidOrExpiredCode
  | alreadyEnrolled
  deriving DecidableEq, Repr

inductive ClaimApproveReject where
  | notFound
  | notPending
  | alreadyEnrolled
  deriving DecidableEq, Repr

structure ClaimInput where
  pairingCode : Option String
  requestedName : String
  hostname : Option String
  installId : String

def normalizeEnrollmentCode (raw : String) : Option String :=
  let digits := raw.toList.filter (fun c => '0' ≤ c ∧ c ≤ '9')
  if digits.length = 6 then some (String.ofList digits) else none

def takeChars (n : Nat) (text : String) : String :=
  String.ofList (text.toList.take n)

def claimName (input : ClaimInput) : String :=
  let name := takeChars 128 (Text.trim input.requestedName)
  if name = "" then takeChars 128 (Text.trim (input.hostname.getD "agent")) else name

def finalAgentName (overrideName : Option String) (requestedName : String) : String :=
  takeChars 128 (((overrideName.map Text.trim).filter (· ≠ "")).getD requestedName)

namespace Invite

def revoke (now : Nat) (invite : Invite) : Invite :=
  { invite with usesRemaining := 0, revokedAt := some (invite.revokedAt.getD now) }

-- The deadline itself has not passed yet.
def expired (now : Nat) (invite : Invite) : Bool :=
  invite.expiresAt.any (· < now)

def autoApproves (invite : Invite) : Bool :=
  invite.autoApprove || invite.kind = .quickPair

end Invite

namespace Database

variable (sha256Hex : String → String)

def empty : Database :=
  { invites := ∅, claims := ∅, agents := ∅ }

def nameTaken (db : Database) (name : String) : Bool :=
  (Table.values db.agents).any (fun agent => agent.name = name)

def digestTaken (db : Database) (digest : String) : Bool :=
  (Table.values db.invites).any (fun invite => invite.secretDigest = digest)

-- A pending claim is unique for its installation, by an index.
def pendingClaimOf (db : Database) (digest : String) : Option (Uuid × Claim) :=
  (db.claims.entries.find? (fun entry =>
    entry.2.installDigest = some digest ∧ entry.2.status = .pending)).map (fun entry =>
      (entry.1, entry.2))

def installDigest (installId : String) : Option String :=
  if Text.trim installId = "" then
    none
  else
    (some (sha256Hex (Text.trim installId))).filter (· ≠ "")

-- The invite of a code that can be used, locked until the transaction ends.
def lockInvite (db : Database) (now : Nat) (code : String)
    : Except ClaimCreateReject (Uuid × Invite) :=
  match normalizeEnrollmentCode code with
  | none => .error .invalidOrExpiredCode
  | some code =>
    match db.invites.entries.find? (fun entry =>
        entry.2.secretDigest = sha256Hex code ∧ entry.2.revokedAt = none) with
    | none => .error .invalidOrExpiredCode
    | some ⟨id, invite⟩ =>
      if invite.usesRemaining ≤ 0
          || invite.expired now
          || invite.kind = .reEnroll && invite.boundAgentId.isNone then
        .error .invalidOrExpiredCode
      else
        .ok (id, invite)

def useInvite (db : Database) (id : Uuid) (invite : Invite) : Database :=
  { db with
    invites := db.invites.insert id { invite with usesRemaining := invite.usesRemaining - 1 } }

-- `COALESCE` keeps the invite of before when no other is presented.
def updateClaim (db : Database) (id : Uuid) (claim : Claim) (name : String)
    (inviteId : Option Uuid) : Database :=
  { db with
    claims := db.claims.insert id
      { claim with requestedName := name, inviteId := inviteId.or claim.inviteId } }

def insertClaim (db : Database) (fresh : Uuid) (name : String) (digest : Option String)
    (inviteId : Option Uuid) : Database :=
  { db with
    claims := db.claims.insert fresh {
      inviteId
      status := .pending
      requestedName := name
      installDigest := digest
      agentId := none
      issuedTokenHash := none
      error := none
    } }

def createClaim (db : Database) (now : Nat) (input : ClaimInput) (fresh : Uuid)
    : Except ClaimCreateReject (Database × Uuid × Bool) :=
  let digest := installDigest sha256Hex input.installId
  let name := claimName input
  let code := Text.trim (input.pairingCode.getD "")
  match digest.bind db.pendingClaimOf with
  | some (id, claim) =>
    if code = "" then
      .ok (db.updateClaim id claim name none, id, false)
    else
      match db.lockInvite sha256Hex now code with
      | .error e => .error e
      | .ok (inviteId, invite) =>
        if invite.boundAgentId.isNone && db.nameTaken name then
          .error .alreadyEnrolled
        else
          .ok ((db.useInvite inviteId invite).updateClaim id claim name (some inviteId), id,
            invite.autoApproves)
  | none =>
    if code = "" then
      if db.nameTaken name then
        .error .alreadyEnrolled
      else
        .ok (db.insertClaim fresh name digest none, fresh, false)
    else
      match db.lockInvite sha256Hex now code with
      | .error e => .error e
      | .ok (inviteId, invite) =>
        if invite.boundAgentId.isNone && db.nameTaken name then
          .error .alreadyEnrolled
        else
          .ok ((db.useInvite inviteId invite).insertClaim fresh name digest (some inviteId), fresh,
            invite.autoApproves)

/-!
Invites. Codes are drawn until one has a digest that no other invite has.
-/

def drawCode (db : Database) (draws : List String) : Option String :=
  (draws.take 512).find? (fun code => !db.digestTaken (sha256Hex code))

def createEnrollmentToken (db : Database) (uses : Int) (expiresAt : Option Nat)
    (draws : List String) (fresh : Uuid) : Option Database :=
  (db.drawCode sha256Hex draws).map (fun code =>
    { db with
      invites := db.invites.insert fresh {
        secretDigest := sha256Hex code
        kind := .quickPair
        usesRemaining := max uses 1
        expiresAt
        autoApprove := true
        boundAgentId := none
        revokedAt := none
      } })

def revokeEnrollmentToken (db : Database) (now : Nat) (id : Uuid) : Database :=
  match db.invites.lookup id with
  | none => db
  | some invite => { db with invites := db.invites.insert id (invite.revoke now) }

def revokeInvites (db : Database) (now : Nat) (which : Invite → Bool) : Database :=
  { db with
    invites := Table.mapValues (fun invite => if which invite then invite.revoke now else invite)
      db.invites }

def revokeAllEnrollmentTokens (db : Database) (now : Nat) : Database :=
  db.revokeInvites now (fun invite => 0 < invite.usesRemaining)

def setTokenHash (db : Database) (id : Uuid) (hash : Option String) : Database :=
  match db.agents.lookup id with
  | none => db
  | some agent => { db with agents := db.agents.insert id { agent with apiTokenHash := hash } }

def revokeAgentCredentials (db : Database) (now : Nat) (agentId : Uuid) : Database :=
  (db.revokeInvites now (fun invite => invite.boundAgentId = some agentId)).setTokenHash agentId none

def createReplacementToken (db : Database) (now : Nat) (agentId : Uuid) (draws : List String)
    (fresh : Uuid) : Option Database :=
  let revoked := db.revokeAgentCredentials now agentId
  if (db.agents.lookup agentId).isNone then
    none
  else
    (revoked.drawCode sha256Hex draws).map (fun code =>
      { revoked with
        invites := revoked.invites.insert fresh {
          secretDigest := sha256Hex code
          kind := .reEnroll
          usesRemaining := 1
          expiresAt := some (now + 10 * 60 * 1000)
          autoApprove := true
          boundAgentId := some agentId
          revokedAt := none
        } })

-- The rows that refer to the agent are set to `NULL`.
def deleteAgent (db : Database) (agentId : Uuid) : Database where
  invites := Table.mapValues (fun invite =>
    { invite with boundAgentId := invite.boundAgentId.filter (· ≠ agentId) }) db.invites
  claims := Table.mapValues (fun claim =>
    { claim with agentId := claim.agentId.filter (· ≠ agentId) }) db.claims
  agents := db.agents.erase agentId

def deleteAgents (db : Database) (now : Nat) (ids : List Uuid) : Database :=
  ids.foldl deleteAgent (ids.foldl (fun db id => db.revokeAgentCredentials now id) db)

/-!
Approval and rejection.
-/

def boundAgentOf (db : Database) (claim : Claim) : Option Uuid :=
  (claim.inviteId.bind db.invites.lookup).bind Invite.boundAgentId

def claimBoundAgentId (db : Database) (now : Nat) (claimId : Uuid) : Option Uuid :=
  match db.claims.lookup claimId with
  | none => none
  | some claim =>
    ((claim.inviteId.bind db.invites.lookup).filter (fun invite =>
      claim.status = .pending ∧ invite.revokedAt = none ∧ invite.expiresAt.all (now < ·))).bind
        Invite.boundAgentId

def lockClaimForApproval (db : Database) (now : Nat) (claimId : Uuid) (expected : Option Uuid)
    : Except ClaimApproveReject Claim :=
  match db.claims.lookup claimId with
  | none => .error .notFound
  | some claim =>
    if claim.status ≠ .pending then
      .error .notPending
    else if db.boundAgentOf claim ≠ expected then
      .error .notPending
    else
      match claim.inviteId with
      | none => .ok claim
      | some inviteId =>
        if (db.invites.lookup inviteId).all (fun invite =>
            invite.revokedAt.isSome
              || invite.expired now
              || invite.kind = .reEnroll && invite.boundAgentId.isNone) then
          .error .notPending
        else
          .ok claim

def issueAgentCredentials (db : Database) (bound : Option Uuid) (finalName hash : String)
    (fresh : Uuid) : Except ClaimApproveReject (Database × Uuid × String) :=
  match bound with
  | some id =>
    match db.agents.lookup id with
    | none => .error .notFound
    | some agent => .ok (db.setTokenHash id (some hash), id, agent.name)
  | none =>
    if db.nameTaken finalName then
      .error .alreadyEnrolled
    else
      .ok ({ db with agents := db.agents.insert fresh { name := finalName, apiTokenHash := some hash } },
        fresh, finalName)

def markClaimApproved (db : Database) (claimId : Uuid) (claim : Claim) (agentId : Uuid)
    (hash : String) : Database :=
  { db with
    claims := db.claims.insert claimId { claim with
      status := .approved
      agentId := some agentId
      issuedTokenHash := some hash
      error := none } }

-- The claim that was approved, and the agent with its name.
def approveClaim (db : Database) (now : Nat) (claimId : Uuid) (agentName : Option String)
    (expected : Option Uuid) (hash : String) (fresh : Uuid)
    : Except ClaimApproveReject (Database × Claim × Uuid × String) :=
  match db.lockClaimForApproval now claimId expected with
  | .error e => .error e
  | .ok claim =>
    match db.issueAgentCredentials (db.boundAgentOf claim)
        (finalAgentName agentName claim.requestedName) hash fresh with
    | .error e => .error e
    | .ok (issued, agentId, name) =>
      .ok (issued.markClaimApproved claimId claim agentId hash, claim, agentId, name)

def rejectClaim (db : Database) (claimId : Uuid) (error : Option String) : Option Database :=
  match db.claims.lookup claimId with
  | none => none
  | some claim =>
    if claim.status = .pending then
      some { db with
        claims := db.claims.insert claimId
          { claim with status := .rejected, error := some (error.getD "Rejected by admin") } }
    else
      none

end Database

end Enrollment

end Vantyr
