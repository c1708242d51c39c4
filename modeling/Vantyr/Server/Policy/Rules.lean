import Vantyr.Data.Uuid

/-!
This module contains what the rules of a policy have in common: the devices a rule is for and the weekly
windows it is active in, with the checks of their tables (`server/migrations/0032_app_block_rules.sql`,
`0035_internet_block_rules.sql`, `0047_internet_block_rule_schedules.sql` and
`0048_app_block_rule_schedules.sql`), and the condition with which the queries select the rules of an
agent.
-/

namespace Vantyr

namespace Policy

structure RuleScope where
  kind : String
  groupId : Option Uuid
  agentId : Option Uuid
  deriving DecidableEq, Repr

structure RuleSchedule where
  dayOfWeek : Int
  startMinute : Int
  endMinute : Int
  deriving DecidableEq, Repr

namespace RuleScope

def check (scope : RuleScope) : Bool :=
  scope.kind = "all" ∧ scope.groupId.isNone ∧ scope.agentId.isNone
    ∨ scope.kind = "group" ∧ scope.groupId.isSome ∧ scope.agentId.isNone
    ∨ scope.kind = "agent" ∧ scope.agentId.isSome ∧ scope.groupId.isNone

-- The scope names the agent itself.
def direct (scope : RuleScope) (agent : Uuid) : Bool :=
  scope.kind = "agent" ∧ scope.agentId = some agent

def appliesTo (members : List (Uuid × Uuid)) (scope : RuleScope) (agent : Uuid) : Bool :=
  scope.kind = "all"
    ∨ scope.direct agent
    ∨ scope.kind = "group" ∧ scope.groupId.any (fun group => (group, agent) ∈ members)

end RuleScope

def RuleSchedule.check (s : RuleSchedule) : Bool :=
  0 ≤ s.dayOfWeek ∧ s.dayOfWeek ≤ 6 ∧ 0 ≤ s.startMinute ∧ s.startMinute ≤ 1439 ∧ 0 ≤ s.endMinute
    ∧ s.endMinute ≤ 1439 ∧ s.startMinute < s.endMinute

end Policy

end Vantyr
