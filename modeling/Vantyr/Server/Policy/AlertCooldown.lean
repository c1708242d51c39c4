import Mathlib.Data.List.AList
import Mathlib.Data.List.Perm.Basic
import Vantyr.Data.Runs
import Vantyr.Data.Table
import Vantyr.Data.Uuid

/-!
This module contains the cooldown of alerts, `fire_alert` in `server/src/policy/alert_rules/engine.rs`. A
match that passes the cooldown is stamped at once, and its event is inserted in a statement of its own,
which other matches may come before and which may fail. The main result is that only recorded events
suppress matches as long as none comes within the cooldown of one whose event is not recorded.
-/

namespace Vantyr

namespace Alerts

structure AlertRule where
  name : String
  takeScreenshot : Bool
  cooldownSecs : Int
  deriving DecidableEq, Repr

abbrev AlertKey := Nat × Uuid

structure AlertMatch where
  ruleId : Nat
  agentId : Uuid
  channel : String
  snippet : String
  deriving DecidableEq, Repr

def AlertMatch.key (m : AlertMatch) : AlertKey :=
  (m.ruleId, m.agentId)

-- In whole seconds.
def AlertRule.cooldown (rule : AlertRule) : Nat :=
  (max rule.cooldownSecs 0).toNat

abbrev Cooldowns := AList (fun _ : AlertKey => Nat)

-- Instants are counted in nanoseconds. The comparison is made in whole seconds.
def cooling (cooldown now last : Nat) : Bool :=
  (now - last) / 10 ^ 9 < cooldown

-- Whether the match passes, and the stamps after it.
def passCooldown (map : Cooldowns) (key : AlertKey) (cooldown now : Nat) : Bool × Cooldowns :=
  if 0 < cooldown then
    if (map.lookup key).any (cooling cooldown now) then (false, map) else (true, map.insert key now)
  else
    (true, map)

-- A match that has passed the cooldown, and when.
structure Fire where
  m : AlertMatch
  time : Nat
  deriving DecidableEq, Repr

inductive Outcome where
  | recorded (fire : Fire)
  | suppressed (m : AlertMatch) (time : Nat)
  deriving DecidableEq, Repr

/--
The stamps, and the matches whose event is being inserted. `failed` and `log` are history: the matches
whose event could not be inserted, and what has happened, the latest first.
-/
structure Engine where
  now : Nat
  cooldowns : Cooldowns
  inserting : List Fire
  failed : List Fire
  log : List Outcome

inductive Event where
  -- A match that comes `elapsed` after the one before. The clock is read under the lock of the stamps.
  | matched (m : AlertMatch) (elapsed : Nat)
  | inserted (i : Nat) (ok : Bool)

-- The rules that are enabled.
variable (rules : Nat → AlertRule)

namespace Engine

def init : Engine where
  now := 0
  cooldowns := ∅
  inserting := []
  failed := []
  log := []

def matched (s : Engine) (m : AlertMatch) (elapsed : Nat) : Engine :=
  let now := s.now + elapsed
  let result := passCooldown s.cooldowns m.key (rules m.ruleId).cooldown now
  if result.1 then
    { s with now, cooldowns := result.2, inserting := s.inserting ++ [{ m, time := now }] }
  else
    { s with now, log := .suppressed m now :: s.log }

-- `alert_rule_event_insert` returns. A failure is logged, and the stamp stays.
def inserted (s : Engine) (i : Nat) (ok : Bool) : Engine :=
  match s.inserting[i]? with
  | none => s
  | some fire =>
    let s := { s with inserting := s.inserting.eraseIdx i }
    if ok then { s with log := .recorded fire :: s.log } else { s with failed := fire :: s.failed }

def step (s : Engine) : Event → Engine
  | .matched m elapsed => s.matched rules m elapsed
  | .inserted i ok => s.inserted i ok

end Engine

def cooldownNanos (m : AlertMatch) : Nat :=
  (rules m.ruleId).cooldown * 10 ^ 9

def Outcome.fire? : Outcome → Option Fire
  | .recorded fire => some fire
  | .suppressed _ _ => none

-- The events that were recorded.
def events (log : List Outcome) : List Fire :=
  log.filterMap Outcome.fire?

-- Two matches of one rule and agent are at least a cooldown apart.
def Apart (f g : Fire) : Prop :=
  f.m.key = g.m.key →
    f.time + cooldownNanos rules f.m ≤ g.time ∨ g.time + cooldownNanos rules f.m ≤ f.time

-- An event of the same rule and agent was recorded less than the cooldown before.
def Supported (before : List Outcome) (m : AlertMatch) (time : Nat) : Prop :=
  ∃ f ∈ events before, f.m.key = m.key ∧ f.time ≤ time ∧ time - f.time < cooldownNanos rules m

structure Engine.Sound (s : Engine) : Prop where
  apart : (events s.log).Pairwise (Apart rules)
  supported : ∀ {later m time before}, s.log = later ++ .suppressed m time :: before
    → Supported rules before m time

/--
A match does not come within the cooldown of one whose event is being inserted or could not be.
-/
def Recorded (s : Engine) : Event → Prop
  | .matched m elapsed => ∀ f ∈ s.inserting ++ s.failed, f.m.key = m.key →
      cooldownNanos rules m ≤ s.now + elapsed - f.time
  | .inserted _ _ => True

variable {rules}

theorem cooldownNanos_eq {m m' : AlertMatch} (h : m.key = m'.key)
    : cooldownNanos rules m = cooldownNanos rules m' := by
  have hrule : m.ruleId = m'.ruleId := congrArg Prod.fst h
  unfold cooldownNanos
  rw [hrule]

theorem Apart.symm {f g : Fire} (h : Apart rules f g) : Apart rules g f := by
  intro hkey
  rw [cooldownNanos_eq hkey]
  exact (h hkey.symm).symm

theorem cooling_iff {cooldown now last : Nat}
    : cooling cooldown now last = true ↔ now - last < cooldown * 10 ^ 9 := by
  unfold cooling
  rw [decide_eq_true_eq, Nat.div_lt_iff_lt_mul (by decide)]

theorem passCooldown_false {map : Cooldowns} {key : AlertKey} {cooldown now : Nat}
    : (passCooldown map key cooldown now).1 = false
      ↔ 0 < cooldown ∧ ∃ last, map.lookup key = some last ∧ cooling cooldown now last = true := by
  unfold passCooldown
  split
  . next hpositive =>
    split
    . next hcooling => simpa [hpositive] using (Option.any_eq_true _ _).mp hcooling
    . next hcooling =>
      simp only [Bool.true_eq_false, false_iff, not_and]
      intro _ hexists
      exact hcooling ((Option.any_eq_true _ _).mpr hexists)
  . next hpositive => simp [hpositive]

theorem passCooldown_lookup {map : Cooldowns} {key : AlertKey} {cooldown now : Nat}
    (hpass : (passCooldown map key cooldown now).1 = true) (other : AlertKey)
    : (passCooldown map key cooldown now).2.lookup other
        = if 0 < cooldown ∧ other = key then some now else map.lookup other := by
  unfold passCooldown at hpass ⊢
  split
  . next hpositive =>
    rw [if_pos hpositive] at hpass
    split
    . next hcooling =>
      rw [if_pos hcooling] at hpass
      cases hpass
    . rw [Table.lookup_insert_eq]
      simp [hpositive]
  . next hpositive => simp [hpositive]

/-!
The matches that have passed the cooldown are known to the stamps.
-/

namespace Engine

def unrecorded (s : Engine) : List Fire :=
  s.inserting ++ s.failed

def passed (s : Engine) : List Fire :=
  s.unrecorded ++ events s.log

structure Stamped (rules : Nat → AlertRule) (s : Engine) : Prop where
  past : ∀ f ∈ s.passed, f.time ≤ s.now
  apart : s.passed.Pairwise (Apart rules)
  stamp : ∀ f ∈ s.passed, 0 < (rules f.m.ruleId).cooldown
    → ∃ last, s.cooldowns.lookup f.m.key = some last ∧ f.time ≤ last
  origin : ∀ {key last}, s.cooldowns.lookup key = some last
    → ∃ f ∈ s.passed, f.m.key = key ∧ f.time = last
  supported : ∀ {later m time before}, s.log = later ++ .suppressed m time :: before
    → Supported rules before m time

variable {s : Engine}

theorem Stamped.sound (h : s.Stamped rules) : s.Sound rules where
  apart := (List.pairwise_append.mp h.apart).2.1
  supported := h.supported

theorem init_stamped : init.Stamped rules where
  past := by simp [init, passed, unrecorded, events]
  apart := by simp [init, passed, unrecorded, events]
  stamp := by simp [init, passed, unrecorded, events]
  origin := by simp [init]
  supported := by simp [init]

/-!
A statement that returns only moves a match from one list to another.
-/

theorem inserted_passed (s : Engine) (i : Nat) (ok : Bool) : (s.inserted i ok).passed.Perm s.passed := by
  unfold inserted
  split
  . exact List.Perm.refl _
  . next fire hfire =>
    rcases List.getElem?_eq_some_iff.mp hfire with ⟨hi, hget⟩
    have hperm : (fire :: s.inserting.eraseIdx i).Perm s.inserting := by
      rw [← hget]
      exact List.getElem_cons_eraseIdx_perm hi
    cases ok with
    | false =>
      apply List.Perm.append_right
      exact List.perm_middle.trans (hperm.append_right s.failed)
    | true =>
      apply List.perm_middle.trans
      exact (hperm.append_right s.failed).append_right (events s.log)

theorem inserted_fields (s : Engine) (i : Nat) (ok : Bool)
    : (s.inserted i ok).now = s.now ∧ (s.inserted i ok).cooldowns = s.cooldowns := by
  unfold inserted
  split
  . exact ⟨rfl, rfl⟩
  . cases ok with
    | false => exact ⟨rfl, rfl⟩
    | true => exact ⟨rfl, rfl⟩

theorem inserted_suppressed {i : Nat} {ok : Bool} {later : List Outcome} {m : AlertMatch} {time : Nat}
    {before : List Outcome} (h : (s.inserted i ok).log = later ++ .suppressed m time :: before)
    : ∃ later, s.log = later ++ .suppressed m time :: before := by
  unfold inserted at h
  split at h
  . exact ⟨later, h⟩
  . cases ok with
    | false => exact ⟨later, h⟩
    | true =>
      cases later with
      | nil =>
        injection h with hfirst
        cases hfirst
      | cons first later =>
        injection h with _ hlog
        exact ⟨later, hlog⟩

theorem Stamped.inserted (h : s.Stamped rules) (i : Nat) (ok : Bool) : (s.inserted i ok).Stamped rules := by
  have hperm := inserted_passed s i ok
  rcases inserted_fields s i ok with ⟨hnow, hcooldowns⟩
  refine ⟨?_, ?_, ?_, ?_, ?_⟩
  . intro f hf
    rw [hnow]
    exact h.past f (hperm.mem_iff.mp hf)
  . exact (hperm.pairwise_iff Apart.symm).mpr h.apart
  . intro f hf hpositive
    rw [hcooldowns]
    exact h.stamp f (hperm.mem_iff.mp hf) hpositive
  . intro key last hlast
    rw [hcooldowns] at hlast
    rcases h.origin hlast with ⟨f, hf, hkey, htime⟩
    exact ⟨f, hperm.mem_iff.mpr hf, hkey, htime⟩
  . intro later m time before hlog
    rcases inserted_suppressed hlog with ⟨later, hlog⟩
    exact h.supported hlog

/-!
A match either passes, when it is a cooldown away from all that have passed before, or is suppressed.
-/

theorem matched_passes {m : AlertMatch} {elapsed : Nat}
    (hpass : (passCooldown s.cooldowns m.key (rules m.ruleId).cooldown (s.now + elapsed)).1 = true)
    : s.matched rules m elapsed = {
        s with
        now := s.now + elapsed
        cooldowns := (passCooldown s.cooldowns m.key (rules m.ruleId).cooldown (s.now + elapsed)).2
        inserting := s.inserting ++ [{ m, time := s.now + elapsed }]
      } := by
  unfold matched
  dsimp only
  rw [if_pos hpass]

theorem matched_suppressed {m : AlertMatch} {elapsed : Nat}
    (hpass : (passCooldown s.cooldowns m.key (rules m.ruleId).cooldown (s.now + elapsed)).1 = false)
    : s.matched rules m elapsed
        = { s with now := s.now + elapsed, log := .suppressed m (s.now + elapsed) :: s.log } := by
  unfold matched
  dsimp only
  rw [if_neg (by rw [hpass]; exact Bool.false_ne_true)]

theorem Stamped.apart_of_passes (h : s.Stamped rules) {m : AlertMatch} {now : Nat} (hnow : s.now ≤ now)
    (hpass : (passCooldown s.cooldowns m.key (rules m.ruleId).cooldown now).1 = true) {f : Fire}
    (hf : f ∈ s.passed) : Apart rules f { m, time := now } := by
  intro hkey
  dsimp only at hkey ⊢
  left
  have hpast := h.past f hf
  have heq : cooldownNanos rules f.m = cooldownNanos rules m := cooldownNanos_eq hkey
  by_cases hpositive : 0 < (rules f.m.ruleId).cooldown
  . rcases h.stamp f hf hpositive with ⟨last, hlast, hle⟩
    rw [hkey] at hlast
    have hrule : f.m.ruleId = m.ruleId := congrArg Prod.fst hkey
    rw [hrule] at hpositive
    have hcooling : cooling (rules m.ruleId).cooldown now last = false := by
      by_contra hcooling
      rw [Bool.not_eq_false] at hcooling
      rw [passCooldown_false.mpr ⟨hpositive, last, hlast, hcooling⟩] at hpass
      cases hpass
    rw [← Bool.not_eq_true, cooling_iff] at hcooling
    rw [heq]
    unfold cooldownNanos
    rcases h.origin hlast with ⟨g, hg, _, htime⟩
    have := h.past g hg
    omega
  . have hzero : cooldownNanos rules f.m = 0 := by
      unfold cooldownNanos
      rw [Nat.eq_zero_of_not_pos hpositive, Nat.zero_mul]
    omega

theorem Stamped.passes (h : s.Stamped rules) {m : AlertMatch} {elapsed : Nat}
    (hpass : (passCooldown s.cooldowns m.key (rules m.ruleId).cooldown (s.now + elapsed)).1 = true)
    : (s.matched rules m elapsed).Stamped rules := by
  rw [matched_passes hpass]
  generalize hnow : s.now + elapsed = now at hpass
  have hle : s.now ≤ now := by omega
  have hperm : (s.inserting ++ [Fire.mk m now] ++ s.failed ++ events s.log).Perm
      (Fire.mk m now :: s.passed) := by
    rw [List.append_assoc, List.append_assoc, List.singleton_append, passed, unrecorded,
      List.append_assoc]
    exact List.perm_middle
  refine ⟨?_, ?_, ?_, ?_, h.supported⟩
  . intro f hf
    rcases List.mem_cons.mp (hperm.mem_iff.mp hf) with rfl | hf
    . exact Nat.le_refl _
    . exact Nat.le_trans (h.past f hf) hle
  . apply (hperm.pairwise_iff Apart.symm).mpr
    apply List.pairwise_cons.mpr
    refine ⟨?_, h.apart⟩
    intro f hf
    exact (h.apart_of_passes hle hpass hf).symm
  . intro f hf hpositive
    dsimp only
    rw [passCooldown_lookup hpass]
    rcases List.mem_cons.mp (hperm.mem_iff.mp hf) with rfl | hf
    . exact ⟨now, if_pos ⟨hpositive, rfl⟩, Nat.le_refl _⟩
    . rcases h.stamp f hf hpositive with ⟨last, hlast, hle'⟩
      split
      . exact ⟨now, rfl, Nat.le_trans (h.past f hf) hle⟩
      . exact ⟨last, hlast, hle'⟩
  . intro key last hlast
    dsimp only at hlast
    rw [passCooldown_lookup hpass] at hlast
    split at hlast
    . next hnew =>
      refine ⟨Fire.mk m now, hperm.mem_iff.mpr List.mem_cons_self, hnew.2.symm, ?_⟩
      exact Option.some.inj hlast
    . rcases h.origin hlast with ⟨f, hf, hfound⟩
      exact ⟨f, hperm.mem_iff.mpr (List.mem_cons_of_mem _ hf), hfound⟩

theorem Stamped.suppressed (h : s.Stamped rules) {m : AlertMatch} {elapsed : Nat}
    (hpass : (passCooldown s.cooldowns m.key (rules m.ruleId).cooldown (s.now + elapsed)).1 = false)
    (hsupported : Supported rules s.log m (s.now + elapsed)) : (s.matched rules m elapsed).Stamped rules := by
  rw [matched_suppressed hpass]
  refine ⟨?_, h.apart, h.stamp, h.origin, ?_⟩
  . intro f hf
    exact Nat.le_trans (h.past f hf) (Nat.le_add_right _ _)
  . intro later m' time before hlog
    cases later with
    | nil =>
      injection hlog with hfirst hlog
      cases hfirst
      subst hlog
      exact hsupported
    | cons first later =>
      injection hlog with _ hlog
      exact h.supported hlog

-- The stamp that suppresses a match is that of a recorded event.
theorem Stamped.supported_of_recorded (h : s.Stamped rules) {m : AlertMatch} {elapsed : Nat}
    (hrecorded : Recorded rules s (.matched m elapsed))
    (hpass : (passCooldown s.cooldowns m.key (rules m.ruleId).cooldown (s.now + elapsed)).1 = false)
    : Supported rules s.log m (s.now + elapsed) := by
  rcases passCooldown_false.mp hpass with ⟨_, last, hlast, hcooling⟩
  rw [cooling_iff] at hcooling
  rcases h.origin hlast with ⟨f, hf, hkey, rfl⟩
  have hpast := h.past f hf
  rcases List.mem_append.mp hf with hunrecorded | hevent
  . have := hrecorded f hunrecorded hkey
    unfold cooldownNanos at this
    omega
  . exact ⟨f, hevent, hkey, by omega, hcooling⟩

theorem Stamped.step (h : s.Stamped rules) {e : Event} (hrecorded : Recorded rules s e)
    : (s.step rules e).Stamped rules := by
  cases e with
  | matched m elapsed =>
    cases hpass : (passCooldown s.cooldowns m.key (rules m.ruleId).cooldown (s.now + elapsed)).1 with
    | true => exact h.passes hpass
    | false => exact h.suppressed hpass (h.supported_of_recorded hrecorded hpass)
  | inserted i ok => exact h.inserted i ok

-- A match within the cooldown of one that is not recorded is suppressed, and no event is as recent.
theorem Stamped.not_sound (h : s.Stamped rules) {e : Event} (hnot : ¬Recorded rules s e)
    : ¬(s.step rules e).Sound rules := by
  cases e with
  | inserted i ok => exact absurd trivial hnot
  | matched m elapsed =>
    simp only [Recorded, not_forall, Nat.not_le] at hnot
    rcases hnot with ⟨f, hf, hkey, hrecent⟩
    have hpassed : f ∈ s.passed := List.mem_append_left _ hf
    have heq : cooldownNanos rules f.m = cooldownNanos rules m := cooldownNanos_eq hkey
    have hrule : f.m.ruleId = m.ruleId := congrArg Prod.fst hkey
    have hpositive : 0 < (rules f.m.ruleId).cooldown := by
      rw [hrule]
      by_contra hzero
      rw [cooldownNanos, Nat.eq_zero_of_not_pos hzero, Nat.zero_mul] at hrecent
      omega
    have hpass : (passCooldown s.cooldowns m.key (rules m.ruleId).cooldown (s.now + elapsed)).1 = false := by
      rcases h.stamp f hpassed hpositive with ⟨last, hlast, hle⟩
      rw [hkey] at hlast
      rw [hrule] at hpositive
      refine passCooldown_false.mpr ⟨hpositive, last, hlast, ?_⟩
      rw [cooling_iff]
      unfold cooldownNanos at hrecent
      omega
    intro hsound
    change ((s.matched rules m elapsed).Sound rules) at hsound
    rw [matched_suppressed hpass] at hsound
    have hlog
        : ({ s with
              now := s.now + elapsed
              log := .suppressed m (s.now + elapsed) :: s.log } : Engine).log
            = [] ++ .suppressed m (s.now + elapsed) :: s.log :=
      rfl
    rcases hsound.supported hlog with ⟨g, hg, hgkey, hgtime, hgrecent⟩
    have hapart := (List.pairwise_append.mp h.apart).2.2 f hf g hg (hkey.trans hgkey.symm)
    have hpast := h.past f hpassed
    omega

end Engine

/--
At most one event of a rule and an agent is recorded in a cooldown, and only recorded events suppress
matches, if and only if no match comes within the cooldown of one whose event is not recorded.
-/
theorem sound_iff (rules : Nat → AlertRule) (events : List Event)
    : (∀ n, (Runs.exec (Engine.step rules) .init (events.take n)).Sound rules)
      ↔ Runs.Admits (Engine.step rules) (Recorded rules) .init events := by
  apply Runs.always_iff (I := Engine.Stamped rules)
  . intro s e h hrecorded
    exact h.step hrecorded
  . intro s h
    exact h.sound
  . intro s e h hnot
    exact h.not_sound hnot
  . exact Engine.init_stamped

-- The event of the first match is lost, and its stamp suppresses the second one.
def lostEvent : List Event :=
  let m := { ruleId := 1, agentId := 1, channel := "url", snippet := "example.org" }
  [.matched m 0, .inserted 0 false, .matched m 1]

theorem lostEvent_suppresses
    : ¬(Runs.exec (Engine.step (fun _ => ⟨"", false, 60⟩)) .init lostEvent).Sound
        (fun _ => ⟨"", false, 60⟩) := by
  intro h
  have hlog : (Runs.exec (Engine.step (fun _ => ⟨"", false, 60⟩)) .init lostEvent).log
      = [] ++ [.suppressed { ruleId := 1, agentId := 1, channel := "url", snippet := "example.org" } 1] := by
    decide +kernel
  rcases h.supported hlog with ⟨f, hf, _⟩
  cases hf

end Alerts

end Vantyr
