import Vantyr.Server.Accounts.Lockout

/-!
This module contains the bound on the failed credential checks of a key within a window. It holds as long
as no login relies on a check of its bucket that has missed too many failures: those that were evaluated
but not recorded then, and those that were evaluated since.
-/

namespace Vantyr

namespace Lockout

open Interleaving

def Entry.IsFailed (key : String) : Entry → Prop
  | .failed ip user _ => key = ip ∨ key = user
  | .accepted _ _ => False

instance (key : String) (e : Entry) : Decidable (e.IsFailed key) :=
  match e with
  | .failed ip user _ => inferInstanceAs (Decidable (key = ip ∨ key = user))
  | .accepted _ _ => inferInstanceAs (Decidable False)

def Within (start : Nat) (e : Entry) : Prop :=
  start ≤ e.time ∧ e.time < start + loginFailWindow

instance (start : Nat) (e : Entry) : Decidable (Within start e) :=
  inferInstanceAs (Decidable (_ ∧ _))

-- The failed checks of a key in the window that begins at `start`.
def failuresWithin (key : String) (start : Nat) (log : List Entry) : Nat :=
  log.countP (fun e => e.IsFailed key ∧ Within start e)

-- The times of the failed checks of a key since a login with it was accepted.
def since (key : String) : List Entry → List Nat
  | [] => []
  | .failed ip user time :: log =>
    if key = ip ∨ key = user then time :: since key log else since key log
  | .accepted other _ :: log => if key = other then [] else since key log

-- How many of them are less than a window old.
def recent (now : Nat) (times : List Nat) : Nat :=
  times.countP (fun t => now < t + loginFailWindow)

-- When a check failed, there were less than the maximum for each of its keys.
def Bounded : List Entry → Prop
  | [] => True
  | .failed ip user time :: log =>
    (∀ key, key = ip ∨ key = user → recent time (since key log) < maxLoginFailuresPerWindow)
      ∧ Bounded log
  | .accepted _ _ :: log => Bounded log

def Ordered (log : List Entry) : Prop :=
  log.Pairwise (fun e older => older.time ≤ e.time)

theorem failuresWithin_cons (key : String) (start : Nat) (e : Entry) (log : List Entry)
    : failuresWithin key start (e :: log)
        = failuresWithin key start log + if e.IsFailed key ∧ Within start e then 1 else 0 := by
  unfold failuresWithin
  rw [List.countP_cons]
  simp only [decide_eq_true_eq]

theorem failuresWithin_eq_zero {key : String} {start : Nat} {log : List Entry}
    (h : ∀ e ∈ log, e.time < start) : failuresWithin key start log = 0 := by
  unfold failuresWithin
  rw [List.countP_eq_zero]
  intro e he
  rw [decide_eq_true_eq]
  intro hcounted
  exact absurd hcounted.2.1 (Nat.not_le_of_lt (h e he))

-- Before a time in the window, the failed checks of the window are among the recent ones.
theorem failuresWithin_le_recent {key : String} {start now : Nat} {log : List Entry}
    (hordered : Ordered log) (hnow : now < start + loginFailWindow) (hpast : ∀ e ∈ log, e.time ≤ now)
    (hnone : ∀ time, .accepted key time ∈ log → ¬Within start (.accepted key time))
    : failuresWithin key start log ≤ recent now (since key log) := by
  induction log with
  | nil => exact Nat.le_refl _
  | cons e log ih =>
    have horderedTail := List.Pairwise.of_cons hordered
    have hle := ih horderedTail (fun x hx => hpast x (List.mem_cons_of_mem _ hx))
      (fun time hx => hnone time (List.mem_cons_of_mem _ hx))
    rw [failuresWithin_cons]
    cases e with
    | failed ip user time =>
      unfold since
      by_cases hkey : key = ip ∨ key = user
      . have hfailed : (Entry.failed ip user time).IsFailed key := hkey
        rw [if_pos hkey, recent, List.countP_cons]
        simp only [hfailed, true_and, Within, Entry.time, decide_eq_true_eq]
        unfold recent at hle
        split
        . rw [if_pos (by omega)]
          omega
        . omega
      . have hfailed : ¬(Entry.failed ip user time).IsFailed key := hkey
        rw [if_neg hkey]
        simp only [hfailed, false_and, if_false]
        exact hle
    | accepted other time =>
      have hfailed : ¬(Entry.accepted other time).IsFailed key := id
      simp only [hfailed, false_and, if_false, Nat.add_zero]
      unfold since
      split
      . next heq =>
        subst heq
        -- The window begins after this login.
        have hnot := hnone time List.mem_cons_self
        have htime := hpast _ List.mem_cons_self
        have hbefore : time < start := by
          simp only [Within, Entry.time] at hnot htime
          omega
        rw [failuresWithin_eq_zero]
        . exact Nat.zero_le _
        . intro x hx
          have := List.rel_of_pairwise_cons hordered hx
          exact Nat.lt_of_le_of_lt this hbefore
      . exact hle

theorem Bounded.failuresWithin_le {key : String} {start : Nat} {log : List Entry} (h : Bounded log)
    (hordered : Ordered log)
    (hnone : ∀ time, .accepted key time ∈ log → ¬Within start (.accepted key time))
    : failuresWithin key start log ≤ maxLoginFailuresPerWindow := by
  induction log with
  | nil => exact Nat.zero_le _
  | cons e log ih =>
    have horderedTail := List.Pairwise.of_cons hordered
    have hnoneTail := fun time hx => hnone time (List.mem_cons_of_mem e hx)
    rw [failuresWithin_cons]
    cases e with
    | failed ip user time =>
      split
      . next hcounted =>
        have hrecent := h.1 key hcounted.1
        have hle := failuresWithin_le_recent horderedTail hcounted.2.2
          (fun x hx => List.rel_of_pairwise_cons hordered hx) hnoneTail
        simp only [Entry.time] at hle
        omega
      . exact ih h.2 horderedTail hnoneTail
    | accepted other time =>
      rw [if_neg (fun hcounted => hcounted.1)]
      exact ih h horderedTail hnoneTail

/-!
The buckets cover the failed checks, up to those that are still to be recorded.
-/

theorem recent_anti {now later : Nat} (h : now ≤ later) (times : List Nat)
    : recent later times ≤ recent now times := by
  apply List.countP_mono_left
  intro t _ ht
  rw [decide_eq_true_eq] at ht ⊢
  omega

theorem recent_retain {now later : Nat} (h : now ≤ later) (times : List Nat)
    : recent later (retain times now) = recent later times := by
  unfold recent retain
  rw [List.countP_filter]
  apply List.countP_congr
  intro t _
  have hwindow : 0 < loginFailWindow := by decide
  rw [Bool.and_eq_true, decide_eq_true_eq, decide_eq_true_eq]
  omega

theorem recent_le_retain (now : Nat) (times : List Nat) : recent now times ≤ (retain times now).length := by
  rw [← recent_retain (Nat.le_refl now)]
  exact List.countP_le_length

theorem recent_append (now : Nat) (times more : List Nat)
    : recent now (times ++ more) = recent now times + recent now more :=
  List.countP_append

theorem mem_since {key : String} {t : Nat} {log : List Entry} (h : t ∈ since key log)
    : ∃ e ∈ log, e.time = t := by
  induction log with
  | nil => cases h
  | cons e log ih =>
    cases e with
    | failed ip user time =>
      unfold since at h
      split at h
      . rcases List.mem_cons.mp h with rfl | h
        . exact ⟨_, List.mem_cons_self, rfl⟩
        . rcases ih h with ⟨e, he, heq⟩
          exact ⟨e, List.mem_cons_of_mem _ he, heq⟩
      . rcases ih h with ⟨e, he, heq⟩
        exact ⟨e, List.mem_cons_of_mem _ he, heq⟩
    | accepted other time =>
      unfold since at h
      split at h
      . cases h
      . rcases ih h with ⟨e, he, heq⟩
        exact ⟨e, List.mem_cons_of_mem _ he, heq⟩

structure Sound (s : Throttle) : Prop where
  ordered : Ordered s.log
  past : ∀ {e}, e ∈ s.log → e.time ≤ s.now
  bounded : Bounded s.log
  covered : ∀ {key later}, s.now ≤ later →
    recent later (since key s.log) ≤ recent later (s.loginFailures key) + s.pending key

-- The failed checks that a check of the bucket did not see.
def Snapshot.missed (snapshot : Snapshot) (s : Throttle) (key : String) : Nat :=
  snapshot.pending + (s.evaluated key - snapshot.evaluated)

structure Covers (s : Throttle) (key : String) (snapshot : Snapshot) : Prop where
  evaluated : snapshot.evaluated ≤ s.evaluated key
  counted : recent s.now (since key s.log) ≤ snapshot.seen + snapshot.missed s key
  unlocked : snapshot.retry = none → snapshot.seen < maxLoginFailuresPerWindow

variable {s : Throttle} {key : String} {snapshot : Snapshot}

theorem Sound.init : Sound Throttle.init where
  ordered := List.Pairwise.nil
  past := by simp [Throttle.init]
  bounded := trivial
  covered := by
    intro key later _
    exact Nat.zero_le _

section Wait

variable {now : Nat} (hnow : s.now ≤ now)

include hnow

theorem Sound.wait (h : Sound s) : Sound { s with now } where
  ordered := h.ordered
  past := fun he => Nat.le_trans (h.past he) hnow
  bounded := h.bounded
  covered := fun hlater => h.covered (Nat.le_trans hnow hlater)

theorem Covers.wait (h : Covers s key snapshot) : Covers { s with now } key snapshot where
  evaluated := h.evaluated
  counted := Nat.le_trans (recent_anti hnow _) h.counted
  unlocked := h.unlocked

end Wait

theorem Sound.check (h : Sound s) (key : String) : Sound (s.check key).2 where
  ordered := h.ordered
  past := h.past
  bounded := h.bounded
  covered := by
    intro other later hlater
    have hcovered := @Sound.covered s h other later hlater
    change _ ≤ recent later (Function.update s.loginFailures key (retain (s.loginFailures key) s.now) other)
      + s.pending other
    by_cases heq : other = key
    . subst heq
      have hnow : s.now ≤ later := hlater
      rw [Function.update_self, recent_retain hnow]
      exact hcovered
    . rw [Function.update_of_ne heq]
      exact hcovered

theorem Sound.covers_check (h : Sound s) (key : String) : Covers (s.check key).2 key (s.check key).1 where
  evaluated := Nat.le_refl _
  counted := by
    have hcovered := @Sound.covered s h key s.now (Nat.le_refl s.now)
    have hretained := recent_le_retain s.now (s.loginFailures key)
    have hseen : (s.check key).1.seen = (retain (s.loginFailures key) s.now).length := by
      simp [Throttle.check, lockoutRetryAfter]
    have hmissed : (s.check key).1.missed (s.check key).2 key = s.pending key := by
      simp [Throttle.check, Snapshot.missed]
    change recent s.now (since key s.log) ≤ _
    omega
  unlocked := by
    intro hretry
    have hseen : (s.check key).1.seen = (retain (s.loginFailures key) s.now).length := by
      simp [Throttle.check, lockoutRetryAfter]
    rw [hseen]
    simp only [Throttle.check, lockoutRetryAfter] at hretry
    split at hretry
    . cases hretry
    . omega

theorem Sound.record (h : Sound s) (key : String) : Sound (s.record key).2 where
  ordered := h.ordered
  past := h.past
  bounded := h.bounded
  covered := by
    intro other later hlater
    have hnow : s.now ≤ later := hlater
    have hcovered := @Sound.covered s h other later hnow
    change recent later (since other s.log)
      ≤ recent later (Function.update s.loginFailures key (retain (s.loginFailures key) s.now ++ [s.now])
          other)
        + Function.update s.pending key (s.pending key - 1) other
    by_cases heq : other = key
    . subst heq
      rw [Function.update_self, Function.update_self, recent_append, recent_retain hnow]
      by_cases hfresh : later < s.now + loginFailWindow
      . have hone : recent later [s.now] = 1 := by
          simp [recent, hfresh]
        omega
      . -- All failed checks are as old as this record.
        have hzero : recent later (since other s.log) = 0 := by
          unfold recent
          rw [List.countP_eq_zero]
          intro t ht
          rcases mem_since ht with ⟨e, he, rfl⟩
          have := h.past he
          rw [decide_eq_true_eq]
          omega
        omega
    . rw [Function.update_of_ne heq, Function.update_of_ne heq]
      exact hcovered

theorem Sound.clear (h : Sound s) (key : String) : Sound (s.clear key) where
  ordered := List.Pairwise.cons (fun _ he => h.past he) h.ordered
  past := by
    intro e he
    rcases List.mem_cons.mp he with rfl | he
    . exact Nat.le_refl _
    . exact h.past he
  bounded := h.bounded
  covered := by
    intro other later hlater
    have hcovered := @Sound.covered s h other later hlater
    change recent later (if other = key then [] else since other s.log)
      ≤ recent later (Function.update s.loginFailures key [] other) + s.pending other
    split
    . exact Nat.zero_le _
    . next hne =>
      rw [Function.update_of_ne hne]
      exact hcovered

theorem Covers.clear (h : Covers s key snapshot) (other : String)
    : Covers (s.clear other) key snapshot where
  evaluated := h.evaluated
  counted := by
    change recent s.now (if key = other then [] else since key s.log) ≤ _
    split
    . exact Nat.zero_le _
    . exact h.counted
  unlocked := h.unlocked

theorem since_fail (s : Throttle) (ip user key : String)
    : since key (s.fail ip user).log
        = if key = ip ∨ key = user then s.now :: since key s.log else since key s.log :=
  rfl

theorem recent_cons (now t : Nat) (times : List Nat)
    : recent now (t :: times) = recent now times + if now < t + loginFailWindow then 1 else 0 := by
  unfold recent
  rw [List.countP_cons]
  simp only [decide_eq_true_eq]

theorem Sound.fail (h : Sound s) {ip user : String}
    (hfew : ∀ key, key = ip ∨ key = user → recent s.now (since key s.log) < maxLoginFailuresPerWindow)
    : Sound (s.fail ip user) where
  ordered := List.Pairwise.cons (fun _ he => h.past he) h.ordered
  past := by
    intro e he
    rcases List.mem_cons.mp he with rfl | he
    . exact Nat.le_refl _
    . exact h.past he
  bounded := ⟨hfew, h.bounded⟩
  covered := by
    intro key later hlater
    have hcovered := @Sound.covered s h key later hlater
    rw [since_fail]
    change _ ≤ recent later (s.loginFailures key)
      + if key = ip ∨ key = user then s.pending key + 1 else s.pending key
    split
    . rw [recent_cons]
      split
      . omega
      . omega
    . exact hcovered

theorem Covers.fail (h : Covers s key snapshot) (ip user : String)
    : Covers (s.fail ip user) key snapshot := by
  have hevaluated : (s.fail ip user).evaluated key
      = if key = ip ∨ key = user then s.evaluated key + 1 else s.evaluated key := rfl
  have hle := h.evaluated
  constructor
  . rw [hevaluated]
    split
    . omega
    . exact hle
  . have hcounted := h.counted
    unfold Snapshot.missed at hcounted ⊢
    rw [since_fail, hevaluated]
    change recent s.now _ ≤ _
    split
    . rw [recent_cons]
      split
      . omega
      . omega
    . exact hcounted
  . exact h.unlocked

theorem Covers.of_same {s' : Throttle} (h : Covers s key snapshot) (hnow : s'.now = s.now)
    (hevaluated : s'.evaluated = s.evaluated) (hlog : s'.log = s.log) : Covers s' key snapshot where
  evaluated := by
    rw [hevaluated]
    exact h.evaluated
  counted := by
    rw [Snapshot.missed, hnow, hevaluated, hlog]
    exact h.counted
  unlocked := h.unlocked

/-!
The steps of a login.
-/

namespace Login

variable (toLowercase : String → String) (verify : String → String → Nat → Bool)
  (verifyDashboardPassword : String → String → Bool)

-- The checks of the buckets that a login relies on.
def snapshots (r : Login) : List (String × Snapshot) :=
  match r.phase with
  | .checkUser ip => [(r.ipKey, ip)]
  | .findUser ip user | .verifyPassword ip user _ | .readTotp ip user | .verifyTotp ip user _ =>
    [(r.ipKey, ip), (r.userKey toLowercase, user)]
  | _ => []

-- Whether the next step is a check of credentials that fails.
def fails (r : Login) (a : Answer) : Bool :=
  match r.phase with
  | .findUser _ _ => !a.fails && a.user.isNone
  | .verifyPassword _ _ passwordHash => !verifyDashboardPassword passwordHash r.password
  | .verifyTotp _ _ secret => !(secret.any (fun secret => verify secret r.code a.now) || a.recovered)
  | _ => false

def Timely (s : Throttle) (_ : Login) (a : Answer) : Prop :=
  s.now ≤ a.now

/--
Where a check of credentials fails, the failures that the check of the bucket has seen and those that it
has missed, if there are any, are less than the maximum.
-/
structure UpToDate (s : Throttle) (r : Login) (a : Answer) : Prop where
  timely : Timely s r a
  few : r.fails verify verifyDashboardPassword a = true → ∀ e ∈ r.snapshots toLowercase,
    e.2.missed s e.1 ≠ 0 → e.2.seen + e.2.missed s e.1 < maxLoginFailuresPerWindow

instance (s : Throttle) (r : Login) (a : Answer) : Decidable (Timely s r a) :=
  inferInstanceAs (Decidable (_ ≤ _))

instance (s : Throttle) (r : Login) (a : Answer)
    : Decidable (UpToDate toLowercase verify verifyDashboardPassword s r a) :=
  decidable_of_iff (Timely s r a ∧ (r.fails verify verifyDashboardPassword a = true →
      ∀ e ∈ r.snapshots toLowercase,
        e.2.missed s e.1 ≠ 0 → e.2.seen + e.2.missed s e.1 < maxLoginFailuresPerWindow))
    ⟨fun h => ⟨h.1, h.2⟩, fun h => ⟨h.timely, h.few⟩⟩

variable {toLowercase verify verifyDashboardPassword} {r : Login} {a : Answer}

-- A login goes on only if both of its buckets were open.
structure Passed (toLowercase : String → String) (s : Throttle) (r : Login) : Prop where
  covers : ∀ {e}, e ∈ r.snapshots toLowercase → Covers s e.1 e.2
  unlocked : ∀ {e}, e ∈ r.snapshots toLowercase → (∀ ip, r.phase ≠ .checkUser ip) → e.2.retry = none

theorem Passed.of_nil (h : r.snapshots toLowercase = []) : Passed toLowercase s r := by
  constructor <;> simp [h]

theorem Passed.weaken {s' : Throttle} (h : Passed toLowercase s r)
    (hcovers : ∀ {key snapshot}, Covers s key snapshot → Covers s' key snapshot)
    : Passed toLowercase s' r where
  covers := fun he => hcovers (h.covers he)
  unlocked := h.unlocked

theorem Passed.of_same {r' : Login} (h : Passed toLowercase s r)
    (hsnapshots : r'.snapshots toLowercase = r.snapshots toLowercase)
    (hphase : ∀ ip, r.phase ≠ .checkUser ip) : Passed toLowercase s r' where
  covers := by
    rw [hsnapshots]
    exact h.covers
  unlocked := by
    intro e he _
    rw [hsnapshots] at he
    exact h.unlocked he hphase

-- What a step does to the buckets.
inductive Effect (toLowercase : String → String) (verify : String → String → Nat → Bool)
    (verifyDashboardPassword : String → String → Bool) (s : Throttle) (r : Login) (a : Answer)
    : Throttle → Prop where
  | same : Effect toLowercase verify verifyDashboardPassword s r a s
  | check (key : String) : Effect toLowercase verify verifyDashboardPassword s r a (s.check key).2
  | fail (hfails : r.fails verify verifyDashboardPassword a = true)
    : Effect toLowercase verify verifyDashboardPassword s r a (s.fail r.ipKey (r.userKey toLowercase))
  | record (key : String) : Effect toLowercase verify verifyDashboardPassword s r a (s.record key).2
  | clear (key : String) : Effect toLowercase verify verifyDashboardPassword s r a (s.clear key)

theorem Effect.covers {s' : Throttle} (h : Effect toLowercase verify verifyDashboardPassword s r a s')
    (hcovers : Covers s key snapshot) : Covers s' key snapshot := by
  cases h with
  | same => exact hcovers
  | check key => exact hcovers.of_same rfl rfl rfl
  | fail => exact hcovers.fail _ _
  | record key => exact hcovers.of_same rfl rfl rfl
  | clear key => exact hcovers.clear _

theorem act_effect (s : Throttle) (r : Login) (a : Answer)
    : Effect toLowercase verify verifyDashboardPassword { s with now := a.now } r a
        (act toLowercase verify verifyDashboardPassword s r a).1 := by
  unfold act
  dsimp only
  split
  . exact .check _
  . split
    all_goals exact .check _
  . next hphase =>
    split
    . exact .same
    . next hanswered =>
      split
      . next huser =>
        apply Effect.fail
        simp [fails, hphase, huser, hanswered]
      . exact .same
  . next hphase =>
    split
    . exact .same
    . next hwrong =>
      apply Effect.fail
      simp [fails, hphase, hwrong]
  . split
    . exact .same
    . split
      . exact .same
      . split
        . exact .same
        . exact .same
  . next hphase =>
    split
    . exact .same
    . next hwrong =>
      apply Effect.fail
      simp only [fails, hphase, Bool.eq_false_of_not_eq_true hwrong, Bool.not_false]
  . exact .record _
  . exact .record _
  . exact .clear _
  . exact .clear _
  . exact .same
  . exact .same

theorem act_passed (hsound : Sound { s with now := a.now })
    (h : Passed toLowercase { s with now := a.now } r)
    : Passed toLowercase (act toLowercase verify verifyDashboardPassword s r a).1
        (act toLowercase verify verifyDashboardPassword s r a).2 := by
  unfold act
  dsimp only
  split
  . refine ⟨?_, ?_⟩
    . intro e he
      rw [snapshots, List.mem_singleton] at he
      rw [he]
      exact hsound.covers_check _
    . intro e _ hphase
      exact absurd rfl (hphase _)
  . next ip hphase =>
    split
    . next hip huser =>
      have hcovers := h.covers (by rw [snapshots, hphase]; exact List.mem_singleton_self _)
      refine ⟨?_, ?_⟩
      . intro e he
        rw [snapshots, List.mem_cons, List.mem_singleton] at he
        rcases he with rfl | rfl
        . exact hcovers.of_same rfl rfl rfl
        . exact hsound.covers_check _
      . intro e he _
        rw [snapshots, List.mem_cons, List.mem_singleton] at he
        rcases he with rfl | rfl
        . exact hip
        . exact huser
    all_goals exact .of_nil rfl
  . next ip user hphase =>
    split
    . exact .of_nil rfl
    . split
      . exact .of_nil rfl
      . exact h.of_same (by simp only [snapshots, hphase]; rfl) (by simp [hphase])
  . next ip user passwordHash hphase =>
    split
    . exact h.of_same (by simp only [snapshots, hphase]; rfl) (by simp [hphase])
    . exact .of_nil rfl
  . next ip user hphase =>
    split
    . exact .of_nil rfl
    . split
      . exact .of_nil rfl
      . split
        . exact .of_nil rfl
        . exact h.of_same (by simp only [snapshots, hphase]; rfl) (by simp [hphase])
  . split
    . exact .of_nil rfl
    . exact .of_nil rfl
  . exact .of_nil rfl
  . exact .of_nil rfl
  . exact .of_nil rfl
  . exact .of_nil rfl
  . exact .of_nil rfl
  . next hphase => exact .of_nil (by rw [snapshots, hphase])

-- A failed check that is up to date finds less than the maximum of recent ones.
theorem Passed.few (h : Passed toLowercase s r) {e : String × Snapshot}
    (he : e ∈ r.snapshots toLowercase) (hphase : ∀ ip, r.phase ≠ .checkUser ip)
    (hfew : e.2.missed s e.1 ≠ 0 → e.2.seen + e.2.missed s e.1 < maxLoginFailuresPerWindow)
    : recent s.now (since e.1 s.log) < maxLoginFailuresPerWindow := by
  have hcovers := h.covers he
  have hcounted := hcovers.counted
  by_cases hmissed : e.2.missed s e.1 = 0
  . have := hcovers.unlocked (h.unlocked he hphase)
    omega
  . have := hfew hmissed
    omega

theorem fails_snapshots (h : r.fails verify verifyDashboardPassword a = true)
    : (∀ ip, r.phase ≠ .checkUser ip)
      ∧ ∃ ip user, r.snapshots toLowercase = [(r.ipKey, ip), (r.userKey toLowercase, user)] := by
  unfold fails at h
  unfold snapshots
  split at h
  . next ip user hphase => exact ⟨by simp [hphase], ip, user, by rw [hphase]⟩
  . next ip user _ hphase => exact ⟨by simp [hphase], ip, user, by rw [hphase]⟩
  . next ip user _ hphase => exact ⟨by simp [hphase], ip, user, by rw [hphase]⟩
  . cases h

theorem stable_sound : Stable (program toLowercase verify verifyDashboardPassword)
    (UpToDate toLowercase verify verifyDashboardPassword) Sound (Passed toLowercase) where
  starts := fun {_ r} _ hphase => .of_nil (by rw [snapshots, show r.phase = .checkIp from hphase])
  own := by
    intro s r a hsound hpassed hcurrent
    have hwait := hsound.wait hcurrent.timely
    have hpassed := hpassed.weaken (fun hcovers => hcovers.wait hcurrent.timely)
    refine ⟨?_, act_passed hwait hpassed⟩
    change Sound (act toLowercase verify verifyDashboardPassword s r a).1
    have heffect := @act_effect toLowercase verify verifyDashboardPassword s r a
    generalize (act toLowercase verify verifyDashboardPassword s r a).1 = s' at heffect ⊢
    cases heffect with
    | same => exact hwait
    | check key => exact hwait.check key
    | fail hfails =>
      apply hwait.fail
      intro key hkey
      rcases @fails_snapshots toLowercase _ _ _ _ hfails with ⟨hphase, ip, user, hsnapshots⟩
      rcases hkey with rfl | rfl
      . have he : (r.ipKey, ip) ∈ r.snapshots toLowercase := by
          rw [hsnapshots]
          exact List.mem_cons_self
        exact hpassed.few he hphase (hcurrent.few hfails _ he)
      . have he : (r.userKey toLowercase, user) ∈ r.snapshots toLowercase := by
          rw [hsnapshots]
          exact List.mem_cons_of_mem _ (List.mem_singleton_self _)
        exact hpassed.few he hphase (hcurrent.few hfails _ he)
    | record key => exact hwait.record key
    | clear key => exact hwait.clear key
  others := by
    intro s r u a _ hr _ hcurrent
    have hwait := hr.weaken (fun hcovers => hcovers.wait hcurrent.timely)
    exact hwait.weaken (fun hcovers => (act_effect s u a).covers hcovers)

/--
As long as no failed check of credentials relies on a check of its bucket that has missed too many
failures, at most ten of them are evaluated for a key in a window without an accepted login.
-/
theorem failures_bounded {events : List (Event Login Answer)}
    (hrun : (program toLowercase verify verifyDashboardPassword).Admits
      (UpToDate toLowercase verify verifyDashboardPassword)
      { shared := Throttle.init, threads := [] } events) (key : String) (start : Nat)
    : let log := ((program toLowercase verify verifyDashboardPassword).exec
        { shared := Throttle.init, threads := [] } events).shared.log
      (∀ time, .accepted key time ∈ log → ¬Within start (.accepted key time)) →
      failuresWithin key start log ≤ maxLoginFailuresPerWindow := by
  intro log hnone
  have hsound := (stable_sound.exec (.init Sound.init) hrun).shared
  exact hsound.bounded.failuresWithin_le hsound.ordered hnone

def attempt : Login :=
  {
    clientIp := "203.0.113.7"
    username := "alice"
    password := "wrong"
    totpCode := none
    phase := .checkIp
  }

def answer : Answer :=
  {
    now := 0
    fails := false
    user := some "$argon2id$v=19$m=19456,t=2,p=1$"
    totpSecret := none
    totpEnabled := false
    recovered := false
  }

-- The stored hash is one of this password only.
def verifyStored (hash password : String) : Bool :=
  hash = "$argon2id$v=19$m=19456,t=2,p=1$" && password = "correct horse"

-- The name of this account is in lower case.
abbrev accounts : Interleaving.Program Throttle Login Answer :=
  program (fun username => username) (fun _ _ _ => false) verifyStored

def refused : List (Event Login Answer) :=
  [.start attempt, .move 0 answer, .move 0 answer, .move 0 answer, .move 0 answer]

theorem failures_bounded_refused
    : failuresWithin "user:alice" 0
        (accounts.exec { shared := Throttle.init, threads := [] } refused).shared.log
      ≤ maxLoginFailuresPerWindow := by
  have hlog : (accounts.exec { shared := Throttle.init, threads := [] } refused).shared.log
      = [.failed "203.0.113.7" "user:alice" 0] := by
    decide
  apply failures_bounded
  . decide
  . intro time h
    rw [hlog, List.mem_singleton] at h
    cases h

def unlocked : Snapshot :=
  { retry := none, seen := 0, pending := 0, evaluated := 0 }

-- A login that has passed the check of the buckets when there were no failures.
def passed : Login :=
  { attempt with phase := .verifyPassword unlocked unlocked "$argon2id$v=19$m=19456,t=2,p=1$" }

def entering (i : Nat) : List (Event Login Answer) :=
  [.start attempt, .move i answer, .move i answer, .move i answer]

-- Eleven logins pass the check of the buckets before the first password is verified.
def flood : List (Event Login Answer) :=
  (List.range 11).flatMap entering ++ (List.range 11).map (fun i => .move i answer)

theorem check_init (key : String)
    : Throttle.init.check key
        = (unlocked, Throttle.init) := by
  have hsame : Function.update Throttle.init.loginFailures key [] = Throttle.init.loginFailures :=
    Function.update_eq_self key _
  have hretain : retain (Throttle.init.loginFailures key) Throttle.init.now = [] := rfl
  unfold Throttle.check lockoutRetryAfter
  dsimp only
  rw [hretain, hsame]
  rfl

theorem enter (logins : List Login)
    : accounts.Admits Timely { shared := Throttle.init, threads := logins } (entering logins.length)
      ∧ accounts.exec { shared := Throttle.init, threads := logins } (entering logins.length)
        = { shared := Throttle.init, threads := logins ++ [passed] } := by
  have hget : ∀ r : Login, (logins ++ [r])[logins.length]? = some r := by simp
  have hstep : ∀ r r' : Login, accounts.act Throttle.init r answer = (Throttle.init, r') →
      accounts.step { shared := Throttle.init, threads := logins ++ [r] } (.move logins.length answer)
        = { shared := Throttle.init, threads := logins ++ [r'] } := by
    intro r r' hact
    unfold Program.step
    simp only [hget, hact]
    simp
  have hip : accounts.act Throttle.init attempt answer
      = (Throttle.init, { attempt with phase := .checkUser unlocked }) :=
    Prod.ext (congrArg Prod.snd (check_init attempt.ipKey)) (by decide)
  have huser : accounts.act Throttle.init { attempt with phase := .checkUser unlocked } answer
      = (Throttle.init, { attempt with phase := .findUser unlocked unlocked }) :=
    Prod.ext (congrArg Prod.snd (check_init (attempt.userKey (fun username => username)))) (by decide)
  have hfind : accounts.act Throttle.init { attempt with phase := .findUser unlocked unlocked } answer
      = (Throttle.init, passed) :=
    rfl
  have hstart : accounts.step { shared := Throttle.init, threads := logins } (.start attempt)
      = { shared := Throttle.init, threads := logins ++ [attempt] } :=
    rfl
  have htimely : ∀ r, Timely Throttle.init r answer := fun _ => Nat.le_refl 0
  constructor
  . simp only [entering, Program.Admits, hstart, hstep _ _ hip, hstep _ _ huser, Program.Allows]
    exact ⟨rfl, fun r _ => htimely r, fun r _ => htimely r, fun r _ => htimely r, trivial⟩
  . simp only [entering, Program.exec, List.foldl_cons, List.foldl_nil, hstart, hstep _ _ hip,
      hstep _ _ huser, hstep _ _ hfind]

theorem enter_all (n : Nat)
    : accounts.Admits Timely { shared := Throttle.init, threads := [] } ((List.range n).flatMap entering)
      ∧ accounts.exec { shared := Throttle.init, threads := [] } ((List.range n).flatMap entering)
        = { shared := Throttle.init, threads := List.replicate n passed } := by
  induction n with
  | zero => exact ⟨trivial, rfl⟩
  | succ n ih =>
    have hone := enter (List.replicate n passed)
    rw [List.length_replicate] at hone
    rw [List.range_succ, List.flatMap_append, List.flatMap_singleton, Program.Admits.append_iff,
      Program.exec_append, ih.2, hone.2, List.replicate_succ']
    exact ⟨⟨ih.1, hone.1⟩, rfl⟩

theorem flood_log
    : (accounts.exec { shared := Throttle.init, threads := [] } flood).shared.log
        = List.replicate 11 (.failed "203.0.113.7" "user:alice" 0) := by
  rw [flood, Program.exec_append, (enter_all 11).2]
  decide +kernel

theorem flood_exceeds
    : ¬∀ (events : List (Event Login Answer)) (key : String) (start : Nat),
        accounts.Admits Timely { shared := Throttle.init, threads := [] } events →
        (∀ time, .accepted key time
            ∈ (accounts.exec { shared := Throttle.init, threads := [] } events).shared.log →
          ¬Within start (.accepted key time)) →
        failuresWithin key start (accounts.exec { shared := Throttle.init, threads := [] } events).shared.log
          ≤ maxLoginFailuresPerWindow := by
  intro h
  have hadmits : accounts.Admits Timely { shared := Throttle.init, threads := [] } flood := by
    rw [flood, Program.Admits.append_iff, (enter_all 11).2]
    exact ⟨(enter_all 11).1, by decide +kernel⟩
  have hle := h flood "user:alice" 0 hadmits
  rw [flood_log] at hle
  exact absurd (hle (by simp)) (by decide)

end Login

end Lockout

end Vantyr
