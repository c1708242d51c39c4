import Mathlib.Data.List.Induction
import Vantyr.Data.Table
import Vantyr.Data.Uuid

/-!
This module contains which accesses to Recall get a row in the audit log (`recall_audit_decision` in
`server/src/state/throttles.rs`). The table of the last rows is bounded, so that it is pruned and in the
worst case cleared. Neither costs a row: what is forgotten is logged again.
-/

namespace Vantyr

namespace Recall

-- Instants and durations are counted in nanoseconds.
def recallAuditWindow : Nat := 10 * 60 * 10 ^ 9

def recallAuditMaxTracked : Nat := 4096

-- The viewer, the agent and the action.
abbrev RecallAuditKey := Uuid × Uuid × String

abbrev RecallAuditSeen := AList (fun _ : RecallAuditKey => Nat)

def live (now at_ : Nat) : Bool :=
  now - at_ < recallAuditWindow

-- Whether the table is cleared, and what is left of it.
def makeRoom (seen : RecallAuditSeen) (now : Nat) : Bool × RecallAuditSeen :=
  if recallAuditMaxTracked ≤ seen.entries.length then
    let seen := Table.retain (fun _ at_ => live now at_) seen
    if recallAuditMaxTracked ≤ seen.entries.length then (true, ∅) else (false, seen)
  else
    (false, seen)

def recallAuditDecision (seen : RecallAuditSeen) (key : RecallAuditKey) (now : Nat)
    : Bool × RecallAuditSeen :=
  let seen := (makeRoom seen now).2
  if (seen.lookup key).any (live now) then (false, seen) else (true, seen.insert key now)

-- An access, whether it was audited, and whether the table was cleared for it.
structure AuditedAccess where
  key : RecallAuditKey
  time : Nat
  audited : Bool
  cleared : Bool
  deriving DecidableEq, Repr

-- `log` is history, the latest access first.
structure RecallAudit where
  now : Nat
  seen : RecallAuditSeen
  log : List AuditedAccess

namespace RecallAudit

def init : RecallAudit where
  now := 0
  seen := ∅
  log := []

-- An access of `key` that comes `elapsed` after the one before. The clock is read under the lock of the
-- table.
def access (s : RecallAudit) (key : RecallAuditKey) (elapsed : Nat) : RecallAudit :=
  let now := s.now + elapsed
  let result := recallAuditDecision s.seen key now
  {
    now
    seen := result.2
    log := {
      key
      time := now
      audited := result.1
      cleared := (makeRoom s.seen now).1
    } :: s.log
  }

def run (accesses : List (RecallAuditKey × Nat)) : RecallAudit :=
  accesses.foldl (fun s a => s.access a.1 a.2) init

end RecallAudit

-- The access is audited, or one of the same key was at most a window before.
def Covered (a : AuditedAccess) (before : List AuditedAccess) : Prop :=
  a.audited = true ∨ ∃ b ∈ before,
    b.key = a.key ∧ b.audited = true ∧ b.time ≤ a.time ∧ a.time - b.time ≤ recallAuditWindow

-- Whether the table has been cleared since a list of accesses began.
def ClearedSince (accesses : List AuditedAccess) : Prop :=
  ∃ a ∈ accesses, a.cleared = true

theorem clearedSince_cons (a : AuditedAccess) (accesses : List AuditedAccess)
    : ClearedSince (a :: accesses) ↔ a.cleared = true ∨ ClearedSince accesses := by
  simp [ClearedSince]

/-!
What the table remembers of the log.
-/

structure RecallAudit.Remembers (s : RecallAudit) : Prop where
  bounded : s.seen.entries.length ≤ recallAuditMaxTracked
  past : ∀ a ∈ s.log, a.time ≤ s.now
  logged : ∀ {key at_}, s.seen.lookup key = some at_
    → ∃ a ∈ s.log, a.key = key ∧ a.audited = true ∧ a.time = at_
  kept : ∀ {later a before}, s.log = later ++ a :: before → a.audited = true → ¬ClearedSince later
    → recallAuditWindow ≤ s.now - a.time ∨ ∃ at_, s.seen.lookup a.key = some at_ ∧ a.time ≤ at_

theorem makeRoom_length (seen : RecallAuditSeen) (now : Nat)
    : (makeRoom seen now).2.entries.length < recallAuditMaxTracked := by
  unfold makeRoom
  split
  . dsimp only
    split
    . exact Nat.succ_pos _
    . next hroom => exact Nat.lt_of_not_le hroom
  . next hroom => exact Nat.lt_of_not_le hroom

theorem makeRoom_lookup {seen : RecallAuditSeen} {now at_ : Nat} {key : RecallAuditKey}
    (h : (makeRoom seen now).2.lookup key = some at_) : seen.lookup key = some at_ := by
  unfold makeRoom at h
  split at h
  . dsimp only at h
    split at h
    . exact absurd h (by simp)
    . rw [Table.lookup_retain, Option.filter_eq_some_iff] at h
      exact h.1
  . exact h

-- Only entries that are no longer live are pruned.
theorem lookup_makeRoom {seen : RecallAuditSeen} {now at_ : Nat} {key : RecallAuditKey}
    (hcleared : (makeRoom seen now).1 = false) (h : seen.lookup key = some at_)
    (hlive : live now at_ = true) : (makeRoom seen now).2.lookup key = some at_ := by
  unfold makeRoom at hcleared ⊢
  split at hcleared
  . next hfull =>
    rw [if_pos hfull]
    dsimp only at hcleared ⊢
    split at hcleared
    . exact absurd hcleared (by decide)
    . next hroom =>
      rw [if_neg hroom, Table.lookup_retain, h, Option.filter_some, if_pos hlive]
  . next hroom =>
    rw [if_neg hroom]
    exact h

theorem recallAuditDecision_lookup (seen : RecallAuditSeen) (key other : RecallAuditKey) (now : Nat)
    : (recallAuditDecision seen key now).2.lookup other
        = if (recallAuditDecision seen key now).1 = true ∧ other = key then
            some now
          else
            (makeRoom seen now).2.lookup other := by
  unfold recallAuditDecision
  dsimp only
  split
  . simp
  . simp only [true_and]
    exact Table.lookup_insert_eq _ key other now

theorem recallAuditDecision_length (seen : RecallAuditSeen) (key : RecallAuditKey) (now : Nat)
    : (recallAuditDecision seen key now).2.entries.length ≤ recallAuditMaxTracked := by
  have hroom := makeRoom_length seen now
  unfold recallAuditDecision
  dsimp only
  split
  . exact Nat.le_of_lt hroom
  . exact Nat.le_trans (Table.length_insert_le _ key now) hroom

namespace RecallAudit

variable {s : RecallAudit}

-- An access that is not audited found an audited one in the table.
theorem Remembers.covered (h : s.Remembers) (key : RecallAuditKey) (now : Nat) (hnow : s.now ≤ now)
    (cleared : Bool)
    : Covered ⟨key, now, (recallAuditDecision s.seen key now).1, cleared⟩ s.log := by
  unfold Covered recallAuditDecision
  dsimp only
  split
  . next hlive =>
    right
    rcases (Option.any_eq_true _ _).mp hlive with ⟨at_, hat, hlive⟩
    rcases h.logged (makeRoom_lookup hat) with ⟨a, ha, hkey, haudited, htime⟩
    have hpast := h.past a ha
    have hwindow := of_decide_eq_true hlive
    exact ⟨a, ha, hkey, haudited, by omega, by omega⟩
  . left
    rfl

-- An access that is audited found no live one in the table.
theorem Remembers.renewed (h : s.Remembers) {key : RecallAuditKey} {now : Nat} (hnow : s.now ≤ now)
    (haudited : (recallAuditDecision s.seen key now).1 = true)
    {later : List AuditedAccess} {a : AuditedAccess} {before : List AuditedAccess}
    (hlog : s.log = later ++ a :: before) (ha : a.audited = true) (hkey : a.key = key)
    (hwindow : now - a.time < recallAuditWindow)
    : (makeRoom s.seen now).1 = true ∨ ClearedSince later := by
  by_contra hcleared
  rw [not_or, Bool.not_eq_true] at hcleared
  rcases h.kept hlog ha hcleared.2 with hold | ⟨at_, hat, hle⟩
  . omega
  . have hlive : live now at_ = true := decide_eq_true (by omega)
    rw [hkey] at hat
    have hfound := lookup_makeRoom hcleared.1 hat hlive
    unfold recallAuditDecision at haudited
    dsimp only at haudited
    rw [hfound, Option.any_some, if_pos hlive] at haudited
    exact absurd haudited Bool.false_ne_true

-- What the table knows of an access it still knows after another one, or its window is over.
theorem Remembers.still (h : s.Remembers) (key : RecallAuditKey) {now : Nat} (hnow : s.now ≤ now)
    {later : List AuditedAccess} {a : AuditedAccess} {before : List AuditedAccess}
    (hlog : s.log = later ++ a :: before) (ha : a.audited = true)
    (hroom : (makeRoom s.seen now).1 = false) (hcleared : ¬ClearedSince later)
    : recallAuditWindow ≤ now - a.time
      ∨ ∃ at_, (recallAuditDecision s.seen key now).2.lookup a.key = some at_ ∧ a.time ≤ at_ := by
  have hpast : a.time ≤ s.now := h.past a (by rw [hlog]; simp)
  rw [recallAuditDecision_lookup]
  rcases h.kept hlog ha hcleared with hold | ⟨at_, hat, hle⟩
  . left
    omega
  . by_cases hlive : live now at_ = true
    . right
      rw [lookup_makeRoom hroom hat hlive]
      split
      . exact ⟨now, rfl, by omega⟩
      . exact ⟨at_, rfl, hle⟩
    . left
      have := of_decide_eq_false (Bool.eq_false_iff.mpr hlive)
      omega

theorem init_remembers : init.Remembers where
  bounded := Nat.zero_le _
  past := by simp [init]
  logged := by simp [init]
  kept := by simp [init]

theorem Remembers.access (h : s.Remembers) (key : RecallAuditKey) (elapsed : Nat)
    : (s.access key elapsed).Remembers where
  bounded := recallAuditDecision_length _ _ _
  past := by
    intro a ha
    rcases List.mem_cons.mp ha with rfl | ha
    . exact Nat.le_refl _
    . exact Nat.le_trans (h.past a ha) (Nat.le_add_right _ _)
  logged := by
    intro other at_ hat
    change (recallAuditDecision s.seen key (s.now + elapsed)).2.lookup other = some at_ at hat
    rw [recallAuditDecision_lookup] at hat
    split at hat
    . next hnew =>
      refine ⟨_, List.mem_cons_self, hnew.2.symm, hnew.1, ?_⟩
      exact Option.some.inj hat
    . rcases h.logged (makeRoom_lookup hat) with ⟨a, ha, hlogged⟩
      exact ⟨a, List.mem_cons_of_mem _ ha, hlogged⟩
  kept := by
    intro later a before hlog ha hcleared
    cases later with
    | nil =>
      cases hlog
      right
      refine ⟨s.now + elapsed, ?_, Nat.le_refl _⟩
      change (recallAuditDecision s.seen key (s.now + elapsed)).2.lookup key = _
      rw [recallAuditDecision_lookup, if_pos ⟨ha, rfl⟩]
    | cons last later =>
      injection hlog with hlast hlog
      rw [clearedSince_cons, not_or, Bool.not_eq_true, ← hlast] at hcleared
      exact h.still key (Nat.le_add_right _ _) hlog ha hcleared.1 hcleared.2

theorem run_concat (accesses : List (RecallAuditKey × Nat)) (a : RecallAuditKey × Nat)
    : run (accesses ++ [a]) = (run accesses).access a.1 a.2 := by
  simp [run]

theorem run_remembers (accesses : List (RecallAuditKey × Nat)) : (run accesses).Remembers := by
  induction accesses using List.reverseRecOn with
  | nil => exact init_remembers
  | append_singleton accesses a ih =>
    rw [run_concat]
    exact ih.access a.1 a.2

theorem run_covered (accesses : List (RecallAuditKey × Nat)) {later : List AuditedAccess}
    {a : AuditedAccess} {before : List AuditedAccess} (h : (run accesses).log = later ++ a :: before)
    : Covered a before := by
  induction accesses using List.reverseRecOn generalizing later with
  | nil => exact absurd h (by simp [run, init])
  | append_singleton accesses b ih =>
    rw [run_concat] at h
    cases later with
    | nil =>
      cases h
      exact (run_remembers accesses).covered b.1 _ (Nat.le_add_right _ _) _
    | cons last later =>
      injection h with _ hlog
      exact ih hlog

theorem run_renewed (accesses : List (RecallAuditKey × Nat)) {later : List AuditedAccess}
    {b : AuditedAccess} {between : List AuditedAccess} {a : AuditedAccess} {before : List AuditedAccess}
    (h : (run accesses).log = later ++ b :: (between ++ a :: before)) (hkey : a.key = b.key)
    (ha : a.audited = true) (hb : b.audited = true) (hwindow : b.time - a.time < recallAuditWindow)
    : ClearedSince (b :: between) := by
  rw [clearedSince_cons]
  induction accesses using List.reverseRecOn generalizing later with
  | nil => exact absurd h (by simp [run, init])
  | append_singleton accesses c ih =>
    rw [run_concat] at h
    cases later with
    | nil =>
      injection h with hfirst hlog
      subst hfirst
      exact (run_remembers accesses).renewed (Nat.le_add_right _ _) hb hlog ha hkey hwindow
    | cons last later =>
      injection h with _ hlog
      exact ih hlog

/--
Every access to Recall is audited or covered by an audited one of the same key that is no more than ten
minutes older, the table is bounded, and a key is audited twice within ten minutes only if the table was
cleared in between.
-/
theorem recall_audit_coverage (accesses : List (RecallAuditKey × Nat))
    : (∀ later a before, (run accesses).log = later ++ a :: before → Covered a before)
      ∧ (run accesses).seen.entries.length ≤ 4096
      ∧ ∀ later b between a before, (run accesses).log = later ++ b :: (between ++ a :: before)
        → a.key = b.key → a.audited = true → b.audited = true → b.time - a.time < recallAuditWindow
        → ClearedSince (b :: between) := by
  refine ⟨?_, (run_remembers accesses).bounded, ?_⟩
  . intro later a before h
    exact run_covered accesses h
  . intro later b between a before h hkey ha hb hwindow
    exact run_renewed accesses h hkey ha hb hwindow

-- The second look of a viewer adds no row.
example : (run [((1, 2, "recall_replay"), 0), ((1, 2, "recall_replay"), 5)]).log.map AuditedAccess.audited
    = [false, true] := by
  decide +kernel

end RecallAudit

end Recall

end Vantyr
