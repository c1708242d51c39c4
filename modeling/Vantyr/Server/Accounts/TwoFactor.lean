import Mathlib.Data.List.Rotate
import Vantyr.Data.Interleaving
import Vantyr.Data.Text

/-!
This module contains the second factor of a dashboard user: the requests to set it up, enable and disable
it (`server/src/auth/twofa/api.rs`), the second factor of a login (`server/src/auth/login.rs`), and the
statements these make on the user's row and recovery codes (`server/src/auth/users/db/totp.rs`).
-/

namespace Vantyr

namespace TwoFactor

structure RecoveryCode where
  id : Nat
  codeHash : String
  used : Bool
  deriving DecidableEq, Repr

-- The row of the user, its recovery codes and the serial number of the next one. `verified` and `marked`
-- are history: the secrets that a code was verified for, and the codes that were marked as used.
structure Account where
  totpSecret : Option String
  totpEnabled : Bool
  codes : List RecoveryCode
  nextId : Nat
  verified : List String
  marked : List Nat
  deriving DecidableEq, Repr

namespace Account

def totpSetPending (s : Account) (secret : String) : Account :=
  { s with totpSecret := some secret, totpEnabled := false }

def totpEnable (s : Account) : Account :=
  { s with totpEnabled := true }

def totpDisable (s : Account) : Account :=
  { s with totpSecret := none, totpEnabled := false, codes := [] }

def issued (nextId : Nat) (hashes : List String) : List RecoveryCode :=
  hashes.zipIdx.map (fun (codeHash, i) => { id := nextId + i, codeHash, used := false })

def recoveryCodesReplace (s : Account) (hashes : List String) : Account :=
  { s with codes := issued s.nextId hashes, nextId := s.nextId + hashes.length }

def recoveryCodesUnused (s : Account) : List RecoveryCode :=
  s.codes.filter (fun row => !row.used)

def recoveryCodeMarkUsed (s : Account) (id : Nat) : Account :=
  {
    s with
    codes := s.codes.map (fun row => if row.id = id then { row with used := true } else row)
    marked := s.marked ++ [id]
  }

end Account

inductive Body where
  | setup
  | enable (code : String)
  | disable (code : String)
  | login (totpCode : Option String)
  deriving DecidableEq, Repr

inductive Response where
  | ok
  | badRequest (message : String)
  | unauthorized (message : String)
  | internalError
  deriving DecidableEq, Repr

-- What a request has shown before it turns the second factor off.
inductive Proof where
  | totp (secret code : String) (now : Nat)
  | recovery (row : RecoveryCode) (code : String)
  deriving DecidableEq, Repr

-- What a request does next. `since` is the length of the history when the codes were read.
inductive Phase where
  | received
  | enable (secret : String)
  | replaceCodes
  | readCodes (code : String)
  | mark (row : RecoveryCode) (code : String) (since : Nat)
  | drop (proof : Proof)
  | done (response : Response)
  deriving DecidableEq, Repr

structure Request where
  body : Body
  phase : Phase
  deriving DecidableEq, Repr

-- What the environment adds to a step: the clock, whether the statement fails, the secret or the hashes
-- of the codes that are generated, and where in the table a query starts.
structure Answer where
  now : Nat
  fails : Bool
  secret : String
  hashes : List String
  offset : Nat
  deriving DecidableEq, Repr

def Proof.code : Proof → String
  | .totp _ code _ | .recovery _ code => code

-- A TOTP secret and a code at a time, and a hash and a code.
variable (verify : String → String → Nat → Bool) (verifyDashboardPassword : String → String → Bool)

def Proof.Valid : Proof → Prop
  | .totp secret code now => verify secret code now = true
  | .recovery row code => row.used = false ∧ verifyDashboardPassword row.codeHash code = true

def matchingRecoveryCode (codes : List RecoveryCode) (code : String) : Option RecoveryCode :=
  codes.find? (fun row => verifyDashboardPassword row.codeHash code)

namespace Request

def finish (r : Request) (response : Response) : Request :=
  { r with phase := .done response }

def refuse (r : Request) : Request :=
  match r.body with
  | .login _ => r.finish (.unauthorized "Invalid two-factor code")
  | _ => r.finish (.badRequest "Invalid code")

def enable (s : Account) (r : Request) (code : String) (a : Answer) : Account × Request :=
  if s.totpEnabled then
    (s, r.finish (.badRequest "Two-factor authentication is already enabled"))
  else
    match s.totpSecret with
    | none => (s, r.finish (.badRequest "Start 2FA setup before enabling"))
    | some secret =>
      if verify secret (Text.trim code) a.now then
        ({ s with verified := secret :: s.verified }, { r with phase := .enable secret })
      else
        (s, r.refuse)

-- The proof that the code is one of the authenticator's at the moment.
def totpProof (s : Account) (code : String) (now : Nat) : Option Proof :=
  (s.totpSecret.filter (fun secret => verify secret code now)).map (fun secret => .totp secret code now)

def disable (s : Account) (r : Request) (code : String) (a : Answer) : Account × Request :=
  if !s.totpEnabled then
    (s, r.finish .ok)
  else
    match totpProof verify s (Text.trim code) a.now with
    | some proof => (s, { r with phase := .drop proof })
    | none => (s, { r with phase := .readCodes (Text.trim code) })

def login (s : Account) (r : Request) (totpCode : Option String) (a : Answer) : Account × Request :=
  let code := (totpCode.map Text.trim).getD ""
  if !s.totpEnabled then
    (s, r.finish .ok)
  else if code = "" then
    (s, r.finish (.unauthorized "Two-factor authentication code required"))
  else if (totpProof verify s code a.now).isSome then
    (s, r.finish .ok)
  else
    (s, { r with phase := .readCodes code })

def act (s : Account) (r : Request) (a : Answer) : Account × Request :=
  match r.phase with
  | .received =>
    if a.fails then
      (s, r.finish .internalError)
    else
      match r.body with
      | .setup => (s.totpSetPending a.secret, r.finish .ok)
      | .enable code => r.enable verify s code a
      | .disable code => r.disable verify s code a
      | .login totpCode => r.login verify s totpCode a
  | .enable _ =>
    if a.fails then (s, r.finish .internalError) else (s.totpEnable, { r with phase := .replaceCodes })
  | .replaceCodes =>
    if a.fails then
      (s, r.finish .internalError)
    else
      (s.recoveryCodesReplace a.hashes, r.finish .ok)
  | .readCodes code =>
    if a.fails then
      (s, r.refuse)
    else
      match matchingRecoveryCode verifyDashboardPassword (s.recoveryCodesUnused.rotate a.offset) code with
      | none => (s, r.refuse)
      | some row => (s, { r with phase := .mark row code s.marked.length })
  | .mark row code _ =>
    if a.fails then
      (s, r.refuse)
    else
      match r.body with
      | .disable _ => (s.recoveryCodeMarkUsed row.id, { r with phase := .drop (.recovery row code) })
      | _ => (s.recoveryCodeMarkUsed row.id, r.finish .ok)
  | .drop _ =>
    if a.fails then (s, r.finish .internalError) else (s.totpDisable, r.finish .ok)
  | .done _ => (s, r)

def program : Interleaving.Program Account Request Answer where
  starts _ r := r.phase = .received
  act := act verify verifyDashboardPassword

instance (s : Account) (r : Request) : Decidable ((program verify verifyDashboardPassword).starts s r) :=
  inferInstanceAs (Decidable (_ = _))

end Request

end TwoFactor

end Vantyr
