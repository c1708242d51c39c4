import Mathlib.Data.List.Sort
import Vantyr.Server.Policy.Rules

/-!
This module contains the rules that block the internet (`server/src/policy/internet_block/db.rs`), and
the quick toggle of an agent, `internet_block_set_for_agent`. The main result is when the toggle does to
the agent what it is for and nothing to the others.
-/

namespace Vantyr

namespace InternetBlock

open Policy

structure Rule where
  id : Nat
  name : String
  enabled : Bool
  scopes : List RuleScope
  schedules : List RuleSchedule
  deriving DecidableEq, Repr

structure EffectiveRow where
  id : Nat
  name : String
  schedules : List RuleSchedule
  deriving DecidableEq, Repr

-- The tables of the rules with the serial number of the next one, the agents and the members of groups.
structure Database where
  rules : List Rule
  nextId : Nat
  agents : List Uuid
  members : List (Uuid × Uuid)
  deriving DecidableEq, Repr

def Rule.appliesTo (members : List (Uuid × Uuid)) (rule : Rule) (agent : Uuid) : Bool :=
  rule.scopes.any (fun scope => scope.appliesTo members agent)

def Rule.direct (rule : Rule) (agent : Uuid) : Bool :=
  rule.scopes.any (fun scope => scope.direct agent)

def scheduleLe (s t : RuleSchedule) : Prop :=
  s.dayOfWeek < t.dayOfWeek
    ∨ s.dayOfWeek = t.dayOfWeek
      ∧ (s.startMinute < t.startMinute ∨ s.startMinute = t.startMinute ∧ s.endMinute ≤ t.endMinute)

instance : DecidableRel scheduleLe :=
  fun _ _ => inferInstanceAs (Decidable (_ ∨ _))

def Rule.effectiveRow (rule : Rule) : EffectiveRow where
  id := rule.id
  name := rule.name
  schedules := rule.schedules.insertionSort scheduleLe

namespace Database

def effective (db : Database) (agent : Uuid) (rule : Rule) : Bool :=
  rule.enabled && rule.appliesTo db.members agent

-- Only rules without schedules count: the others are evaluated on the agent.
def getAgentInternetBlocked (db : Database) (agent : Uuid) : Bool :=
  0 < db.rules.countP (fun rule => db.effective agent rule && rule.schedules.isEmpty)

def internetBlockRulesEffectiveForAgent (db : Database) (agent : Uuid) : List EffectiveRow :=
  ((db.rules.filter (db.effective agent)).insertionSort (fun r s => r.id ≤ s.id)).map Rule.effectiveRow

def internetBlockRuleCreate (db : Database) (name : String) (scopes : List RuleScope)
    (schedules : List RuleSchedule) : Database :=
  {
    db with
    rules := db.rules ++ [{ id := db.nextId, name, enabled := true, scopes, schedules }]
    nextId := db.nextId + 1
  }

def manualScope (agent : Uuid) : RuleScope where
  kind := "agent"
  groupId := none
  agentId := some agent

-- The rows of the join of the enabled rules and their scopes.
def already (db : Database) (agent : Uuid) : Nat :=
  ((db.rules.filter Rule.enabled).map (fun rule => rule.scopes.countP (fun scope => scope.direct agent))).sum

def toggled (db : Database) (agent : Uuid) (blocked : Bool) : Database :=
  if blocked then
    if db.already agent = 0 then
      db.internetBlockRuleCreate "Manual block" [manualScope agent] []
    else
      db
  else
    { db with rules := db.rules.filter (fun rule => !rule.direct agent) }

def internetBlockSetForAgent (db : Database) (agent : Uuid) (blocked : Bool) : Bool × Database :=
  let db := db.toggled agent blocked
  (db.getAgentInternetBlocked agent, db)

end Database

/--
What the toggle is for: the agent is blocked, or none of the rules for it alone is left. To any other
agent the same rules apply as before.
-/
def OneAgentOnly (db : Database) (agent : Uuid) (blocked : Bool) : Prop :=
  let after := (db.internetBlockSetForAgent agent blocked).2
  (blocked = true → after.getAgentInternetBlocked agent = true)
    ∧ (blocked = false → ∀ rule ∈ after.rules, rule.direct agent = false)
    ∧ ∀ other ∈ db.agents, other ≠ agent →
      after.internetBlockRulesEffectiveForAgent other = db.internetBlockRulesEffectiveForAgent other
        ∧ after.getAgentInternetBlocked other = db.getAgentInternetBlocked other

/--
An agent that is to be blocked is blocked already, or it has no enabled rule of its own; no enabled rule
of an agent that is to be unblocked applies to another one.
-/
def Separable (db : Database) (agent : Uuid) (blocked : Bool) : Prop :=
  if blocked then
    db.getAgentInternetBlocked agent = true
      ∨ ∀ rule ∈ db.rules, rule.enabled = true → rule.direct agent = false
  else
    ∀ rule ∈ db.rules, rule.enabled = true → rule.direct agent = true →
      ∀ other ∈ db.agents, other ≠ agent → rule.appliesTo db.members other = false

variable {db : Database} {agent other : Uuid}

theorem already_eq_zero_iff
    : db.already agent = 0 ↔ ∀ rule ∈ db.rules, rule.enabled = true → rule.direct agent = false := by
  rw [Database.already, List.sum_eq_zero_iff_forall_eq_nat, List.forall_mem_map]
  simp only [List.mem_filter, and_imp, List.countP_eq_zero, Rule.direct, List.any_eq_false]

-- The rule that the toggle creates is for one agent.
theorem appliesTo_manualScope (members : List (Uuid × Uuid)) (agent other : Uuid)
    : (Database.manualScope agent).appliesTo members other = decide (other = agent) := by
  simp [Database.manualScope, RuleScope.appliesTo, RuleScope.direct, eq_comm]

theorem effective_manual (agent : Uuid) (other : Uuid) (id : Nat)
    : db.effective other {
        id, name := "Manual block", enabled := true, scopes := [Database.manualScope agent]
        schedules := []
      } = decide (other = agent) := by
  simp [Database.effective, Rule.appliesTo, appliesTo_manualScope]

-- The two queries only see the rules that are effective for the agent.
theorem queries_eq {after : Database}
    (h : after.rules.filter (after.effective agent) = db.rules.filter (db.effective agent))
    : after.internetBlockRulesEffectiveForAgent agent = db.internetBlockRulesEffectiveForAgent agent
      ∧ after.getAgentInternetBlocked agent = db.getAgentInternetBlocked agent := by
  constructor
  . rw [Database.internetBlockRulesEffectiveForAgent, h]
    rfl
  . have hcount (d : Database) : d.rules.countP (fun rule => d.effective agent rule && rule.schedules.isEmpty)
        = (d.rules.filter (d.effective agent)).countP (fun rule => rule.schedules.isEmpty) := by
      rw [List.countP_filter]
      simp only [Bool.and_comm]
    rw [Database.getAgentInternetBlocked, Database.getAgentInternetBlocked, hcount, hcount, h]

theorem blocked_iff
    : db.getAgentInternetBlocked agent = true
      ↔ ∃ rule ∈ db.rules, db.effective agent rule = true ∧ rule.schedules = [] := by
  simp [Database.getAgentInternetBlocked, List.countP_pos_iff]

-- Blocking an agent that has no enabled rule of its own.
theorem block_created (h : db.already agent = 0)
    : OneAgentOnly db agent true := by
  have hafter : (db.internetBlockSetForAgent agent true).2
      = db.internetBlockRuleCreate "Manual block" [Database.manualScope agent] [] := by
    simp [Database.internetBlockSetForAgent, Database.toggled, h]
  rw [OneAgentOnly, hafter]
  refine ⟨?_, by simp, ?_⟩
  . intro _
    rw [blocked_iff]
    refine ⟨_, List.mem_append_right _ List.mem_cons_self, ?_, rfl⟩
    exact (effective_manual agent agent _).trans (decide_eq_true rfl)
  . intro other _ hne
    apply queries_eq
    change (db.rules ++ [_]).filter (db.effective other) = _
    rw [List.filter_append, List.filter_singleton, effective_manual, decide_eq_false hne]
    exact List.append_nil _

theorem block_iff : OneAgentOnly db agent true ↔ Separable db agent true := by
  by_cases h : db.already agent = 0
  . constructor
    . intro _
      exact Or.inr (already_eq_zero_iff.mp h)
    . intro _
      exact block_created h
  . have hafter : (db.internetBlockSetForAgent agent true).2 = db := by
      simp [Database.internetBlockSetForAgent, Database.toggled, h]
    rw [OneAgentOnly, hafter]
    constructor
    . intro hblocked
      exact Or.inl (hblocked.1 rfl)
    . intro hblocked
      refine ⟨?_, by simp, ?_⟩
      . intro _
        rcases hblocked with hblocked | hnone
        . exact hblocked
        . exact absurd (already_eq_zero_iff.mpr hnone) h
      . intro _ _ _
        exact ⟨rfl, rfl⟩

-- What is effective for an agent after the rules of another one are deleted.
theorem filter_unblock (db : Database) (agent other : Uuid)
    : (db.toggled agent false).rules.filter ((db.toggled agent false).effective other)
        = (db.rules.filter (db.effective other)).filter (fun rule => !rule.direct agent) := by
  change (db.rules.filter (fun rule => !rule.direct agent)).filter (db.effective other) = _
  rw [List.filter_comm]

theorem unblock_iff : OneAgentOnly db agent false ↔ Separable db agent false := by
  have hafter : (db.internetBlockSetForAgent agent false).2 = db.toggled agent false := rfl
  rw [OneAgentOnly, hafter]
  constructor
  . rintro ⟨_, _, hothers⟩ rule hrule henabled hdirect other hother hne
    by_contra happlies
    rw [Bool.not_eq_false] at happlies
    have heffective : rule ∈ db.rules.filter (db.effective other) := by
      rw [List.mem_filter, Database.effective, henabled, happlies]
      exact ⟨hrule, rfl⟩
    have hlength := congrArg List.length (hothers other hother hne).1
    simp only [Database.internetBlockRulesEffectiveForAgent, List.length_map,
      List.length_insertionSort, filter_unblock] at hlength
    have hall := List.length_filter_eq_length_iff.mp hlength rule heffective
    rw [hdirect] at hall
    cases hall
  . intro hseparable
    refine ⟨by simp, ?_, ?_⟩
    . intro _ rule hrule
      simpa using List.of_mem_filter hrule
    . intro other hother hne
      apply queries_eq
      rw [filter_unblock, List.filter_eq_self]
      intro rule hrule
      rcases List.mem_filter.mp hrule with ⟨hmem, heffective⟩
      rw [Database.effective, Bool.and_eq_true] at heffective
      by_contra hdirect
      rw [Bool.not_eq_true, Bool.not_eq_false'] at hdirect
      have hnot := hseparable rule hmem heffective.1 hdirect other hother hne
      rw [heffective.2] at hnot
      cases hnot

/--
The quick toggle does what it is for, and nothing to the other agents, if and only if the rules are
separable.
-/
theorem oneAgentOnly_iff (db : Database) (agent : Uuid) (blocked : Bool)
    : OneAgentOnly db agent blocked ↔ Separable db agent blocked :=
  match blocked with
  | true => block_iff
  | false => unblock_iff

-- A curfew of the first agent, and a rule for both agents.
def curfewAndShared : Database where
  rules := [
    {
      id := 1
      name := "Curfew"
      enabled := true
      scopes := [⟨"agent", none, some 1⟩]
      schedules := [⟨1, 0, 60⟩]
    },
    {
      id := 2
      name := "Lab"
      enabled := true
      scopes := [⟨"agent", none, some 1⟩, ⟨"agent", none, some 2⟩]
      schedules := [⟨2, 0, 60⟩]
    }
  ]
  nextId := 3
  agents := [1, 2]
  members := []

-- The first agent is not blocked, and unblocking it takes the rule from the second one.
theorem curfewAndShared_toggled
    : ¬OneAgentOnly curfewAndShared 1 true ∧ ¬OneAgentOnly curfewAndShared 1 false := by
  constructor
  . intro h
    exact absurd (h.1 rfl) (by decide +kernel)
  . intro h
    exact absurd (h.2.2 2 (by decide) (by decide)).1 (by decide +kernel)

end InternetBlock

end Vantyr
