import Mathlib.Logic.Function.Basic
import Vantyr.Data.Interleaving
import Vantyr.Data.Text

/-!
This module contains the lockout of logins (`server/src/auth/lockout.rs`) and the steps of a login
(`server/src/auth/login.rs`): the check of the two buckets, the evaluation of the password and of the
second factor, and the recording of a failure, each of which other logins may come in between.
-/

namespace Vantyr

namespace Lockout

-- Instants and durations are counted in nanoseconds.
def loginFailWindow : Nat := 15 * 60 * 10 ^ 9

def maxLoginFailuresPerWindow : Nat := 10

-- A key that is not in the map has no failures.
abbrev FailureMap := String → List Nat

def retain (failures : List Nat) (now : Nat) : List Nat :=
  failures.filter (fun t => now - t < loginFailWindow)

def retryAfter (failures : List Nat) (now : Nat) : Nat :=
  max 1 ((loginFailWindow - (now - failures.min?.getD now)) / 10 ^ 9)

def lockoutRetryAfter (map : FailureMap) (key : String) (now : Nat) : Option Nat × FailureMap :=
  let failures := retain (map key) now
  (
    if maxLoginFailuresPerWindow ≤ failures.length then some (retryAfter failures now) else none,
    Function.update map key failures
  )

def lockoutRecord (map : FailureMap) (key : String) (now : Nat) : Except Nat Nat × FailureMap :=
  let failures := retain (map key) now ++ [now]
  (
    if maxLoginFailuresPerWindow ≤ failures.length then
      .error (retryAfter failures now)
    else
      .ok (maxLoginFailuresPerWindow - failures.length),
    Function.update map key failures
  )

def clearLoginFailures (map : FailureMap) (key : String) : FailureMap :=
  Function.update map key []

-- The outcome of recording a failure under both keys.
def both : Except Nat Nat → Except Nat Nat → Except Nat Nat
  | .error a, .error b => .error (max a b)
  | .error a, .ok _ => .error a
  | .ok _, .error b => .error b
  | .ok a, .ok b => .ok (min a b)

-- A credential check that failed, for a client address and an account, and a login that was accepted,
-- when the failures of one of its keys were cleared.
inductive Entry where
  | failed (ip user : String) (time : Nat)
  | accepted (key : String) (time : Nat)
  deriving DecidableEq, Repr

def Entry.time : Entry → Nat
  | .failed _ _ time | .accepted _ time => time

-- `evaluated`, `pending` and `log` are history: the failed checks of each key, those of them that are
-- still to be recorded, and what has happened, the latest first.
structure Throttle where
  now : Nat
  loginFailures : FailureMap
  evaluated : String → Nat
  pending : String → Nat
  log : List Entry

-- What a check of a bucket has found, and the history at that time.
structure Snapshot where
  retry : Option Nat
  seen : Nat
  pending : Nat
  evaluated : Nat
  deriving DecidableEq, Repr

namespace Throttle

def init : Throttle :=
  {
    now := 0
    loginFailures := fun _ => []
    evaluated := fun _ => 0
    pending := fun _ => 0
    log := []
  }

def check (s : Throttle) (key : String) : Snapshot × Throttle :=
  let result := lockoutRetryAfter s.loginFailures key s.now
  (
    {
      retry := result.1
      seen := (result.2 key).length
      pending := s.pending key
      evaluated := s.evaluated key
    },
    { s with loginFailures := result.2 }
  )

def fail (s : Throttle) (ip user : String) : Throttle :=
  {
    s with
    evaluated := fun key => if key = ip ∨ key = user then s.evaluated key + 1 else s.evaluated key
    pending := fun key => if key = ip ∨ key = user then s.pending key + 1 else s.pending key
    log := .failed ip user s.now :: s.log
  }

def record (s : Throttle) (key : String) : Except Nat Nat × Throttle :=
  let result := lockoutRecord s.loginFailures key s.now
  (
    result.1,
    {
      s with
      loginFailures := result.2
      pending := Function.update s.pending key (s.pending key - 1)
    }
  )

def clear (s : Throttle) (key : String) : Throttle :=
  {
    s with
    loginFailures := clearLoginFailures s.loginFailures key
    log := .accepted key s.now :: s.log
  }

end Throttle

inductive Response where
  | tooManyAttempts (retryAfter : Nat)
  | invalidCredentials (attemptsRemaining : Nat)
  | twoFactorRequired
  | invalidTwoFactor
  | internalError
  | ok
  deriving DecidableEq, Repr

inductive Phase where
  | checkIp
  | checkUser (ip : Snapshot)
  | findUser (ip user : Snapshot)
  | verifyPassword (ip user : Snapshot) (passwordHash : String)
  | readTotp (ip user : Snapshot)
  | verifyTotp (ip user : Snapshot) (secret : Option String)
  | recordIp (second : Bool)
  | recordUser (second : Bool) (ip : Except Nat Nat)
  | clearIp
  | clearUser
  | createSession
  | done (response : Response)
  deriving DecidableEq

structure Login where
  clientIp : String
  username : String
  password : String
  totpCode : Option String
  phase : Phase
  deriving DecidableEq

-- What the environment adds to a step: the clock, whether the statement fails, the row of the user, its
-- second factor, and whether the code is a recovery code that could be consumed.
structure Answer where
  now : Nat
  fails : Bool
  user : Option String
  totpSecret : Option String
  totpEnabled : Bool
  recovered : Bool

-- `str::to_lowercase`, a TOTP secret and a code at a time, and a hash and a password.
variable (toLowercase : String → String) (verify : String → String → Nat → Bool)
  (verifyDashboardPassword : String → String → Bool)

def loginUsernameKey (username : String) : String :=
  "user:" ++ toLowercase (Text.trim username)

namespace Login

def ipKey (r : Login) : String :=
  r.clientIp

def userKey (r : Login) : String :=
  loginUsernameKey toLowercase r.username

def code (r : Login) : String :=
  (r.totpCode.map Text.trim).getD ""

def finish (r : Login) (response : Response) : Login :=
  { r with phase := .done response }

def recordedResponse (second : Bool) (result : Except Nat Nat) : Response :=
  if second then
    .invalidTwoFactor
  else
    match result with
    | .error retry => .tooManyAttempts retry
    | .ok remaining => .invalidCredentials remaining

def act (s : Throttle) (r : Login) (a : Answer) : Throttle × Login :=
  let s := { s with now := a.now }
  match r.phase with
  | .checkIp =>
    let (ip, s) := s.check r.ipKey
    (s, { r with phase := .checkUser ip })
  | .checkUser ip =>
    let (user, s) := s.check (r.userKey toLowercase)
    match ip.retry, user.retry with
    | none, none => (s, { r with phase := .findUser ip user })
    | some retry, none | none, some retry => (s, r.finish (.tooManyAttempts retry))
    | some retry, some other => (s, r.finish (.tooManyAttempts (max retry other)))
  | .findUser ip user =>
    if a.fails then
      (s, r.finish .internalError)
    else
      match a.user with
      | none => (s.fail r.ipKey (r.userKey toLowercase), { r with phase := .recordIp false })
      | some passwordHash => (s, { r with phase := .verifyPassword ip user passwordHash })
  | .verifyPassword ip user passwordHash =>
    if verifyDashboardPassword passwordHash r.password then
      (s, { r with phase := .readTotp ip user })
    else
      (s.fail r.ipKey (r.userKey toLowercase), { r with phase := .recordIp false })
  | .readTotp ip user =>
    if a.fails then
      (s, r.finish .internalError)
    else if !a.totpEnabled then
      (s, { r with phase := .clearIp })
    else if r.code = "" then
      (s, r.finish .twoFactorRequired)
    else
      (s, { r with phase := .verifyTotp ip user a.totpSecret })
  | .verifyTotp _ _ secret =>
    if secret.any (fun secret => verify secret r.code a.now) || a.recovered then
      (s, { r with phase := .clearIp })
    else
      (s.fail r.ipKey (r.userKey toLowercase), { r with phase := .recordIp true })
  | .recordIp second =>
    let (ip, s) := s.record r.ipKey
    (s, { r with phase := .recordUser second ip })
  | .recordUser second ip =>
    let (user, s) := s.record (r.userKey toLowercase)
    (s, r.finish (recordedResponse second (both ip user)))
  | .clearIp => (s.clear r.ipKey, { r with phase := .clearUser })
  | .clearUser => (s.clear (r.userKey toLowercase), { r with phase := .createSession })
  | .createSession => (s, r.finish (if a.fails then .internalError else .ok))
  | .done _ => (s, r)

def program : Interleaving.Program Throttle Login Answer where
  starts _ r := r.phase = .checkIp
  act := act toLowercase verify verifyDashboardPassword

instance (s : Throttle) (r : Login)
    : Decidable ((program toLowercase verify verifyDashboardPassword).starts s r) :=
  inferInstanceAs (Decidable (_ = _))

end Login

end Lockout

end Vantyr
