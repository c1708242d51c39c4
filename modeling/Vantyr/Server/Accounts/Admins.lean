import Vantyr.Data.Interleaving
import Vantyr.Data.Table
import Vantyr.Data.Text
import Vantyr.Data.Uuid

/-!
This module contains the two requests that can take the role of an administrator from a user,
`user_set_role` and `user_delete` in `server/src/auth/users/api.rs`. The check for the last administrator
and the write it protects are statements of their own. The main result is that an administrator is left
as long as the check would still pass at the time of the write.
-/

namespace Vantyr

-- The users with their roles.
abbrev Users := AList (fun _ : Uuid => String)

namespace Users

def dashboardUserIsAdmin (users : Users) (id : Uuid) : Bool :=
  users.lookup id = some "admin"

def dashboardAdminCount (users : Users) : Nat :=
  (users.entries.filter (fun entry => entry.2 = "admin")).length

def dashboardUserSetRole (users : Users) (id : Uuid) (role : String) : Users :=
  if (users.lookup id).isSome then users.insert id role else users

def dashboardUserDelete (users : Users) (id : Uuid) : Users :=
  users.erase id

def HasAdmin (users : Users) : Prop :=
  0 < users.dashboardAdminCount

instance (users : Users) : Decidable users.HasAdmin :=
  inferInstanceAs (Decidable (0 < _))

end Users

inductive UserWrite where
  | setRole (role : String)
  | delete
  deriving DecidableEq, Repr

namespace UserWrite

def apply (users : Users) (id : Uuid) : UserWrite → Users
  | .setRole role => users.dashboardUserSetRole id role
  | .delete => users.dashboardUserDelete id

def demotes (write : UserWrite) : Bool :=
  write ≠ .setRole "admin"

def lastAdminMessage : UserWrite → String
  | .setRole _ => "Cannot demote the last admin user"
  | .delete => "Cannot delete the last admin user"

end UserWrite

namespace UserRequest

inductive Response where
  | ok
  | badRequest (message : String)
  | internalError
  deriving DecidableEq, Repr

-- The statement that a request is about to make.
inductive Phase where
  | received
  | readIsAdmin (write : UserWrite)
  | readAdminCount (write : UserWrite)
  | write (write : UserWrite)
  | done (response : Response)
  deriving DecidableEq, Repr

inductive Body where
  | setRole (role : String)
  | delete
  deriving DecidableEq, Repr

end UserRequest

structure UserRequest where
  requester : Uuid
  id : Uuid
  body : UserRequest.Body
  phase : UserRequest.Phase
  deriving DecidableEq, Repr

namespace UserRequest

-- None of the three roles has a letter that is the lower case of one outside of ASCII.
def normalizeRole (raw : Option String) : Except String String :=
  let role := Text.toAsciiLowercase (Text.trim (raw.getD "viewer"))
  if role = "admin" ∨ role = "operator" ∨ role = "viewer" then
    .ok role
  else
    .error "role must be one of: admin, operator, viewer"

def receive (r : UserRequest) : Phase :=
  match r.body with
  | .setRole raw =>
    match normalizeRole (some raw) with
    | .error message => .done (.badRequest message)
    | .ok role => if role ≠ "admin" then .readIsAdmin (.setRole role) else .write (.setRole role)
  | .delete =>
    if r.id = r.requester then
      .done (.badRequest "cannot delete your own user")
    else
      .readIsAdmin .delete

-- Whether the next statement fails is up to the database. A failed read counts as `false` or as 0.
def act (users : Users) (r : UserRequest) (fails : Bool) : Users × UserRequest :=
  match r.phase with
  | .received => (users, { r with phase := r.receive })
  | .readIsAdmin write =>
    let isTargetAdmin := if fails then false else users.dashboardUserIsAdmin r.id
    (users, { r with phase := if isTargetAdmin then .readAdminCount write else .write write })
  | .readAdminCount write =>
    let adminCount := if fails then 0 else users.dashboardAdminCount
    (users, {
      r with
      phase := if adminCount ≤ 1 then .done (.badRequest write.lastAdminMessage) else .write write
    })
  | .write write =>
    if fails then
      (users, { r with phase := .done .internalError })
    else
      (write.apply users r.id, { r with phase := .done .ok })
  | .done _ => (users, r)

-- Only administrators get this far.
def program : Interleaving.Program Users UserRequest Bool where
  starts users r := r.phase = .received ∧ users.dashboardUserIsAdmin r.requester = true
  act := act

instance (users : Users) (r : UserRequest) : Decidable (program.starts users r) :=
  inferInstanceAs (Decidable (_ ∧ _))

-- What the handlers check before they write.
def isLastAdmin (users : Users) (id : Uuid) : Bool :=
  users.dashboardUserIsAdmin id && users.dashboardAdminCount ≤ 1

/--
The check for the last administrator still passes on the rows that are there at the time of the write.
-/
def UpToDate (users : Users) (r : UserRequest) (fails : Bool) : Prop :=
  ∀ write, r.phase = .write write → fails = false → write.demotes = true →
    isLastAdmin users r.id = false

end UserRequest

namespace Users

variable {users : Users} {id : Uuid} {role : String}

theorem count_insert (users : Users) (id : Uuid) (role : String)
    : dashboardAdminCount (users.insert id role)
        = (if role = "admin" then 1 else 0) + dashboardAdminCount (users.erase id) := by
  unfold dashboardAdminCount
  rw [AList.entries_insert, List.filter_cons, Table.entries_erase]
  split
  . next h =>
    rw [decide_eq_true_eq] at h
    rw [if_pos h, List.length_cons, Nat.add_comm]
  . next h =>
    rw [decide_eq_true_eq] at h
    rw [if_neg h, Nat.zero_add]

theorem count_of_lookup (h : users.lookup id = some role)
    : users.dashboardAdminCount
        = (if role = "admin" then 1 else 0) + dashboardAdminCount (users.erase id) := by
  rw [← count_insert]
  unfold dashboardAdminCount
  exact ((Table.perm_of_lookup h).filter _).length_eq

theorem erase_of_lookup (h : users.lookup id = none) : users.erase id = users := by
  rw [AList.lookup_eq_none] at h
  apply AList.ext
  exact List.kerase_of_notMem_keys h

end Users

namespace UserRequest

open Interleaving

variable {users : Users} {id : Uuid}

theorem isLastAdmin_iff (hlookup : users.lookup id = some "admin")
    : isLastAdmin users id = true ↔ Users.dashboardAdminCount (users.erase id) = 0 := by
  have hcount := Users.count_of_lookup hlookup
  rw [if_pos rfl] at hcount
  simp only [isLastAdmin, Users.dashboardUserIsAdmin, hlookup, decide_true, Bool.true_and,
    decide_eq_true_eq]
  omega

-- A write that takes the role away leaves the other administrators.
theorem hasAdmin_demote (hadmin : users.HasAdmin) {write : UserWrite} (hdemotes : write.demotes = true)
    : (write.apply users id).HasAdmin ↔ isLastAdmin users id = false := by
  cases hlookup : users.lookup id with
  | none =>
    have hsame : write.apply users id = users := by
      cases write with
      | setRole role => simp [UserWrite.apply, Users.dashboardUserSetRole, hlookup]
      | delete => exact Users.erase_of_lookup hlookup
    simp [hsame, hadmin, isLastAdmin, Users.dashboardUserIsAdmin, hlookup]
  | some old =>
    have hleft : (write.apply users id).dashboardAdminCount = Users.dashboardAdminCount (users.erase id) := by
      cases write with
      | setRole role =>
        have hrole : role ≠ "admin" := by simpa [UserWrite.demotes] using hdemotes
        simp [UserWrite.apply, Users.dashboardUserSetRole, hlookup, Users.count_insert, hrole]
      | delete => rfl
    have hcount := Users.count_of_lookup hlookup
    unfold Users.HasAdmin at hadmin ⊢
    by_cases hold : old = "admin"
    . rw [hold] at hlookup
      rw [← Bool.not_eq_true, isLastAdmin_iff hlookup]
      omega
    . rw [if_neg hold] at hcount
      have hnot : isLastAdmin users id = false := by
        simp [isLastAdmin, Users.dashboardUserIsAdmin, hlookup, hold]
      simp only [hnot, iff_true]
      omega

theorem hasAdmin_promote (hadmin : users.HasAdmin) {write : UserWrite} (hdemotes : write.demotes = false)
    : (write.apply users id).HasAdmin := by
  have hwrite : write = .setRole "admin" := by simpa [UserWrite.demotes] using hdemotes
  rw [hwrite, UserWrite.apply, Users.dashboardUserSetRole]
  split
  . rw [Users.HasAdmin, Users.count_insert, if_pos rfl]
    omega
  . exact hadmin

theorem act_users {r : UserRequest} {fails : Bool}
    : (act users r fails).1 = users
      ∨ ∃ write, r.phase = .write write ∧ fails = false
        ∧ (act users r fails).1 = write.apply users r.id := by
  unfold act
  split
  . exact .inl rfl
  . exact .inl rfl
  . exact .inl rfl
  . next write hphase =>
    cases fails with
    | true => exact .inl rfl
    | false => exact .inr ⟨write, hphase, rfl, rfl⟩
  . exact .inl rfl

theorem stable : Stable program UpToDate Users.HasAdmin (fun _ _ => True) where
  starts := fun _ _ => trivial
  own := by
    intro users r fails hadmin _ hcurrent
    refine ⟨?_, trivial⟩
    change (act users r fails).1.HasAdmin
    rcases act_users with heq | ⟨write, hphase, hfails, heq⟩
    . rw [heq]
      exact hadmin
    . rw [heq]
      cases hdemotes : write.demotes with
      | true => exact (hasAdmin_demote hadmin hdemotes).mpr (hcurrent write hphase hfails hdemotes)
      | false => exact hasAdmin_promote hadmin hdemotes
  others := fun _ _ _ _ => trivial

/--
There is an administrator all along a run if and only if every write that takes the role away is made
while the check for the last administrator would still pass.
-/
theorem hasAdmin_iff {users : Users} (hadmin : users.HasAdmin) {events : List (Event UserRequest Bool)}
    (hrun : program.Admits (fun _ _ _ => True) { shared := users, threads := [] } events)
    : (∀ n, (program.exec { shared := users, threads := [] } (events.take n)).shared.HasAdmin)
      ↔ program.Admits UpToDate { shared := users, threads := [] } events := by
  refine stable.always_iff (fun h => h) ?_ (.init hadmin) hrun
  intro users r fails hadmin _ _ houtdated
  simp only [UpToDate, not_forall] at houtdated
  rcases houtdated with ⟨write, hphase, hfails, hdemotes, hlast⟩
  have hact : (act users r fails).1 = write.apply users r.id := by
    unfold act
    rw [hphase, hfails]
    rfl
  change ¬(act users r fails).1.HasAdmin
  rw [hact, hasAdmin_demote hadmin hdemotes]
  exact hlast

-- The check is up to date right after both of its reads were answered.
theorem upToDate_of_answered {r : UserRequest} {write : UserWrite}
    (hcheck : r.phase = .readIsAdmin write ∨ r.phase = .readAdminCount write)
    (hphase : (act users r false).2.phase = .write write) : isLastAdmin users r.id = false := by
  unfold act at hphase
  unfold isLastAdmin
  rcases hcheck with hcheck | hcheck
  . simp only [hcheck, Bool.false_eq_true, if_false] at hphase
    split at hphase
    . cases hphase
    . next hadmin => rw [Bool.eq_false_of_not_eq_true hadmin, Bool.false_and]
  . simp only [hcheck, Bool.false_eq_true, if_false] at hphase
    split at hphase
    . cases hphase
    . next hcount => rw [decide_eq_false hcount, Bool.and_false]

def twoAdmins : Users :=
  ((∅ : Users).insert 1 "admin").insert 2 "admin"

-- Two administrators take the role from each other, and each is counted before the other one's write.
def demotions : List (Event UserRequest Bool) :=
  [
    .start { requester := 1, id := 2, body := .setRole "viewer", phase := .received },
    .start { requester := 2, id := 1, body := .setRole "viewer", phase := .received },
    .move 0 false, .move 1 false, .move 0 false, .move 1 false, .move 0 false, .move 1 false,
    .move 0 false, .move 1 false
  ]

theorem demotions_no_admin
    : ¬∀ (users : Users) (events : List (Event UserRequest Bool)), users.HasAdmin →
        program.Admits (fun _ _ _ => True) { shared := users, threads := [] } events →
        (program.exec { shared := users, threads := [] } events).shared.HasAdmin := by
  intro h
  exact absurd (h twoAdmins demotions (by decide) (by decide)) (by decide)

theorem hasAdmin_iff_demotions
    : ¬program.Admits UpToDate { shared := twoAdmins, threads := [] } demotions := by
  intro hcurrent
  exact absurd ((hasAdmin_iff (by decide) (by decide)).mpr hcurrent 10) (by decide)

end UserRequest

end Vantyr
