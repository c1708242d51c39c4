import Vantyr.Data.Runs
import Vantyr.Server.Accounts.Lockout

/-!
This module contains what the lockout of a bucket announces (`server/src/auth/lockout.rs`). A bucket is
locked by the failures of the last 15 minutes, but the time after which it is said to be unlocked is that
of the oldest of them in whole seconds, which may be too early.
-/

namespace Vantyr

namespace Lockout

inductive Access where
  | record (key : String) (elapsed : Nat)
  | check (key : String) (elapsed : Nat)

-- `recorded` is history: the failures of each key, the latest at the end.
structure Buckets where
  now : Nat
  loginFailures : FailureMap
  recorded : String → List Nat

namespace Buckets

def init : Buckets where
  now := 0
  loginFailures _ := []
  recorded _ := []

def step (s : Buckets) : Access → Buckets
  | .record key elapsed =>
    let now := s.now + elapsed
    {
      now
      loginFailures := (lockoutRecord s.loginFailures key now).2
      recorded := Function.update s.recorded key (s.recorded key ++ [now])
    }
  | .check key elapsed =>
    let now := s.now + elapsed
    { s with now, loginFailures := (lockoutRetryAfter s.loginFailures key now).2 }

end Buckets

theorem retain_retain {now later : Nat} (h : now ≤ later) (failures : List Nat)
    : retain (retain failures now) later = retain failures later := by
  unfold retain
  rw [List.filter_filter]
  apply List.filter_congr
  intro t _
  by_cases hlater : later - t < loginFailWindow
  . have hnow : now - t < loginFailWindow := by omega
    simp [hlater, hnow]
  . simp [hlater]

theorem retain_append (failures more : List Nat) (now : Nat)
    : retain (failures ++ more) now = retain failures now ++ retain more now :=
  List.filter_append ..

/-!
A bucket has the failures that are still in the window.
-/

structure Buckets.Exact (s : Buckets) : Prop where
  past : ∀ key, ∀ t ∈ s.recorded key, t ≤ s.now
  kept : ∀ key later, s.now ≤ later
    → retain (s.loginFailures key) later = retain (s.recorded key) later

namespace Buckets

variable {s : Buckets}

theorem Exact.init : Exact Buckets.init where
  past key t ht := by cases ht
  kept _ _ _ := rfl

theorem Exact.record (h : s.Exact) (key : String) (elapsed : Nat) : (s.step (.record key elapsed)).Exact where
  past other t ht := by
    change t ∈ Function.update s.recorded key (s.recorded key ++ [s.now + elapsed]) other at ht
    change t ≤ s.now + elapsed
    rw [Function.update_apply] at ht
    split at ht
    . rcases List.mem_append.mp ht with ht | ht
      . exact Nat.le_trans (h.past key t ht) (Nat.le_add_right _ _)
      . rw [List.mem_singleton.mp ht]
    . exact Nat.le_trans (h.past other t ht) (Nat.le_add_right _ _)
  kept other later hlater := by
    change s.now + elapsed ≤ later at hlater
    change retain (Function.update s.loginFailures key
        (retain (s.loginFailures key) (s.now + elapsed) ++ [s.now + elapsed]) other) later
      = retain (Function.update s.recorded key (s.recorded key ++ [s.now + elapsed]) other) later
    rw [Function.update_apply, Function.update_apply]
    split
    . rw [retain_append, retain_append, retain_retain hlater, h.kept key later (by omega)]
    . exact h.kept other later (by omega)

theorem Exact.check (h : s.Exact) (key : String) (elapsed : Nat) : (s.step (.check key elapsed)).Exact where
  past other t ht := Nat.le_trans (h.past other t ht) (Nat.le_add_right _ _)
  kept other later hlater := by
    change s.now + elapsed ≤ later at hlater
    change retain (Function.update s.loginFailures key
        (retain (s.loginFailures key) (s.now + elapsed)) other) later
      = retain (s.recorded other) later
    rw [Function.update_apply]
    split
    . next heq => rw [retain_retain hlater, heq, h.kept key later (by omega)]
    . exact h.kept other later (by omega)

theorem Exact.step (h : s.Exact) (access : Access) : (s.step access).Exact := by
  cases access with
  | record key elapsed => exact h.record key elapsed
  | check key elapsed => exact h.check key elapsed

end Buckets

/-!
What is announced, and when it is long enough.
-/

-- The failure of a record that locks the bucket announces what a check at the same time does.
theorem lockoutRecord_announces {map : FailureMap} {key : String} {now retry : Nat}
    (h : (lockoutRecord map key now).1 = .error retry)
    : (lockoutRetryAfter (lockoutRecord map key now).2 key now).1 = some retry := by
  have hmap : (lockoutRecord map key now).2 key = retain (map key) now ++ [now] :=
    Function.update_self ..
  have hretained : retain (retain (map key) now ++ [now]) now = retain (map key) now ++ [now] := by
    rw [retain_append, retain_retain (Nat.le_refl now)]
    simp [retain, loginFailWindow]
  unfold lockoutRetryAfter
  dsimp only
  rw [hmap, hretained]
  unfold lockoutRecord at h
  dsimp only at h
  split at h
  . next hlocked =>
    rw [Except.error.injEq] at h
    rw [if_pos hlocked, h]
  . cases h

/--
The failures that count at a time are unlocked by the wait for the oldest of them: it was a whole number
of seconds ago and fewer than ten are newer, or fewer than ten were less than 14 minutes and 59 seconds
ago.
-/
def OldestDecides (failures : List Nat) (now : Nat) : Prop :=
  (10 ^ 9 ∣ now - failures.min?.getD now
    ∧ failures.countP (fun t => failures.min?.getD now < t) < maxLoginFailuresPerWindow)
  ∨ failures.countP (fun t => now - t < loginFailWindow - 10 ^ 9) < maxLoginFailuresPerWindow

-- The failures that are still in the window after the wait.
theorem retain_wait {failures : List Nat} {now oldest : Nat} (hpast : ∀ t ∈ failures, t ≤ now)
    (hmin : failures.min? = some oldest) (hrecent : now - oldest < loginFailWindow)
    : (retain failures (now + retryAfter failures now * 10 ^ 9)).length < maxLoginFailuresPerWindow
      ↔ OldestDecides failures now := by
  rcases List.min?_eq_some_iff.mp hmin with ⟨hmem, hle⟩
  have holdest := hpast oldest hmem
  unfold retain OldestDecides retryAfter
  rw [hmin, Option.getD_some, ← List.countP_eq_length_filter]
  unfold maxLoginFailuresPerWindow at *
  unfold loginFailWindow at *
  by_cases hlong : 10 ^ 9 ≤ 15 * 60 * 10 ^ 9 - (now - oldest)
  . have hretry : max 1 ((15 * 60 * 10 ^ 9 - (now - oldest)) / 10 ^ 9)
        = (15 * 60 * 10 ^ 9 - (now - oldest)) / 10 ^ 9 := by omega
    rw [hretry]
    by_cases hwhole : 10 ^ 9 ∣ now - oldest
    . -- The oldest failure leaves the window when it was said to.
      have hsame : failures.countP
            (fun t => decide (now + (15 * 60 * 10 ^ 9 - (now - oldest)) / 10 ^ 9 * 10 ^ 9 - t
              < 15 * 60 * 10 ^ 9))
          = failures.countP (fun t => decide (oldest < t)) := by
        apply List.countP_congr
        intro t ht
        have := hle t ht
        have := hpast t ht
        simp only [decide_eq_true_eq]
        omega
      rw [hsame]
      constructor
      . intro hfew
        exact .inl ⟨hwhole, hfew⟩
      . rintro (⟨_, hfew⟩ | hfew)
        . exact hfew
        . apply Nat.lt_of_le_of_lt _ hfew
          apply List.countP_mono_left
          intro t ht hnewer
          have := hpast t ht
          simp only [decide_eq_true_eq] at hnewer ⊢
          omega
    . -- Every failure is still in the window.
      have hall : failures.countP
            (fun t => decide (now + (15 * 60 * 10 ^ 9 - (now - oldest)) / 10 ^ 9 * 10 ^ 9 - t
              < 15 * 60 * 10 ^ 9))
          = failures.length := by
        apply List.countP_eq_length.mpr
        intro t ht
        have := hle t ht
        have := hpast t ht
        simp only [decide_eq_true_eq]
        omega
      have hall' : failures.countP (fun t => decide (now - t < 15 * 60 * 10 ^ 9 - 10 ^ 9))
          = failures.length := by
        apply List.countP_eq_length.mpr
        intro t ht
        have := hle t ht
        have := hpast t ht
        simp only [decide_eq_true_eq]
        omega
      rw [hall, hall']
      simp only [hwhole, false_and, false_or]
  . -- The wait is rounded up to a second.
    have hretry : max 1 ((15 * 60 * 10 ^ 9 - (now - oldest)) / 10 ^ 9) = 1 := by omega
    have hwhole : ¬10 ^ 9 ∣ now - oldest := by omega
    have hsame : failures.countP (fun t => decide (now + 1 * 10 ^ 9 - t < 15 * 60 * 10 ^ 9))
        = failures.countP (fun t => decide (now - t < 15 * 60 * 10 ^ 9 - 10 ^ 9)) := by
      apply List.countP_congr
      intro t ht
      have := hpast t ht
      simp only [decide_eq_true_eq]
      omega
    rw [hretry, hsame]
    simp only [hwhole, false_and, false_or]

theorem lockoutRetryAfter_eq (map : FailureMap) (key : String) (now : Nat)
    : (lockoutRetryAfter map key now).1
        = if maxLoginFailuresPerWindow ≤ (retain (map key) now).length then
            some (retryAfter (retain (map key) now) now)
          else
            none :=
  rfl

theorem lockoutRetryAfter_eq_none {map : FailureMap} {key : String} {now : Nat}
    : (lockoutRetryAfter map key now).1 = none
      ↔ (retain (map key) now).length < maxLoginFailuresPerWindow := by
  rw [lockoutRetryAfter_eq]
  split
  . next hlocked => simpa using hlocked
  . next hfew => simpa using hfew

/--
A bucket unlocks after the seconds that a check announces if and only if the oldest of the failures that
lock it decides.
-/
theorem unlocks_iff {map : FailureMap} {key : String} {now retry : Nat}
    (hpast : ∀ t ∈ retain (map key) now, t ≤ now)
    (h : (lockoutRetryAfter map key now).1 = some retry)
    : (lockoutRetryAfter (lockoutRetryAfter map key now).2 key (now + retry * 10 ^ 9)).1 = none
      ↔ OldestDecides (retain (map key) now) now := by
  rw [lockoutRetryAfter_eq] at h
  split at h
  . next hlocked =>
    rw [Option.some.injEq] at h
    have hmap : (lockoutRetryAfter map key now).2 key = retain (map key) now := Function.update_self ..
    rw [lockoutRetryAfter_eq_none, hmap, ← h]
    rcases hmin : (retain (map key) now).min? with _ | oldest
    . rw [List.min?_eq_none_iff] at hmin
      rw [hmin] at hlocked
      cases hlocked
    . have hmem := (List.min?_eq_some_iff.mp hmin).1
      have hrecent := of_decide_eq_true (List.mem_filter.mp hmem).2
      exact retain_wait hpast hmin hrecent
  . cases h

theorem Buckets.Exact.exec (accesses : List Access) : (Runs.exec Buckets.step .init accesses).Exact :=
  Runs.exec_inv (fun h => h.step _) .init accesses

/--
After every run a bucket is locked exactly when ten failures were recorded in the last 15 minutes, and the
announced seconds are enough to unlock it if and only if the oldest of these failures decides.
-/
theorem retry_after_honest_iff (accesses : List Access) (key : String) (elapsed : Nat)
    : let s := Runs.exec Buckets.step .init accesses
      let t := s.now + elapsed
      ((lockoutRetryAfter s.loginFailures key t).1.isSome
        ↔ 10 ≤ (s.recorded key).countP (fun failure => t - failure < 15 * 60 * 10 ^ 9))
      ∧ ∀ retry, (lockoutRetryAfter s.loginFailures key t).1 = some retry →
        ((lockoutRetryAfter (lockoutRetryAfter s.loginFailures key t).2 key (t + retry * 10 ^ 9)).1 = none
          ↔ OldestDecides ((s.recorded key).filter (fun failure => t - failure < 15 * 60 * 10 ^ 9)) t) := by
  have hexact := Buckets.Exact.exec accesses
  generalize Runs.exec Buckets.step .init accesses = s at hexact
  intro s t
  have hkept : retain (s.loginFailures key) t = retain (s.recorded key) t :=
    hexact.kept key t (Nat.le_add_right _ _)
  constructor
  . rw [Option.isSome_iff_ne_none, ne_eq, lockoutRetryAfter_eq_none, hkept, Nat.not_lt, retain,
      ← List.countP_eq_length_filter]
    rfl
  . intro retry hretry
    have hpast : ∀ failure ∈ retain (s.loginFailures key) t, failure ≤ t := by
      intro failure hfailure
      rw [hkept] at hfailure
      exact Nat.le_trans (hexact.past key failure (List.mem_of_mem_filter hfailure)) (Nat.le_add_right _ _)
    rw [unlocks_iff hpast hretry, hkept]
    rfl

-- Ten failures half a second ago: the last half second is not announced.
theorem announced_wait_too_short
    : ¬∀ (accesses : List Access) (key : String) (elapsed : Nat),
        let s := Runs.exec Buckets.step .init accesses
        let t := s.now + elapsed
        ((lockoutRetryAfter s.loginFailures key t).1.isSome
          ↔ 10 ≤ (s.recorded key).countP (fun failure => t - failure < 15 * 60 * 10 ^ 9))
        ∧ ∀ retry, (lockoutRetryAfter s.loginFailures key t).1 = some retry →
          (lockoutRetryAfter (lockoutRetryAfter s.loginFailures key t).2 key (t + retry * 10 ^ 9)).1
            = none := by
  intro h
  have hwait := (h (List.replicate 10 (.record "user:admin" 0)) "user:admin" (5 * 10 ^ 8)).2 899
    (by decide +kernel)
  revert hwait
  decide +kernel

end Lockout

end Vantyr
