import Vantyr.Agent.Permissions

/-!
This module contains how the agent blocks the internet: the commands `set_network_policy` and
`set_internet_block_rules` in `agent/src/commands/policy.rs`, the scheduler of
`policy/network/scheduler.rs` and the time windows of `policy/schedule.rs`.
-/

namespace Vantyr

namespace Curfew

structure StoredScheduleWindow where
  dayOfWeek : Nat
  startMinute : Nat
  endMinute : Nat
  deriving DecidableEq, Repr

structure StoredInternetBlockRule where
  id : Int
  name : String
  schedules : List StoredScheduleWindow
  deriving DecidableEq, Repr

-- The local time, as far as the windows look at it.
structure LocalTime where
  dow : Nat
  minute : Nat
  deriving DecidableEq, Repr

def isActiveNowLocal (now : LocalTime) (windows : List StoredScheduleWindow) : Bool :=
  if windows.isEmpty then
    true
  else
    windows.any (fun w =>
      w.dayOfWeek = now.dow ∧ w.startMinute ≤ now.minute ∧ now.minute < w.endMinute)

structure Config where
  internetBlocked : Bool
  internetBlockRules : List StoredInternetBlockRule

def Config.desired (config : Config) (now : LocalTime) : Bool :=
  if config.internetBlockRules.isEmpty then
    config.internetBlocked
  else
    config.internetBlockRules.any (fun r => isActiveNowLocal now r.schedules)

/--
The agent with its firewall. An application that was spawned and has not run is `spawned`;
`lastApplied` is the variable of the scheduler. What the last `set_network_policy` asked for is kept
as `requested`.
-/
structure Device where
  now : LocalTime
  permissions : Permissions.State
  config : Config
  spawned : List (Bool × Option Permissions.Generation)
  lastApplied : Option Bool
  blocked : Bool
  requested : Bool

namespace Device

def valid (d : Device) (generation : Option Permissions.Generation) : Bool :=
  generation.any (fun g => g.matches d.permissions)

def applyNetworkPolicy (d : Device) (blocked : Bool) (generation : Option Permissions.Generation)
    : Device :=
  if blocked ∧ !generation.any (fun g => g.module = .networkPolicy ∧ g.matches d.permissions) then
    d
  else
    { d with blocked }

def spawnForCommand (d : Device) (blocked : Bool) (generation : Option Permissions.Generation)
    : Device :=
  { d with spawned := d.spawned ++ [(blocked, generation)] }

-- The front of `spawn_for_command`: the oldest application that was spawned runs.
def runSpawned (d : Device) : Device :=
  match d.spawned with
  | [] => d
  | (blocked, generation) :: spawned =>
    let d := { d with spawned }
    if generation.any (fun g => !g.matches d.permissions) then
      d
    else
      d.applyNetworkPolicy blocked generation

def setNetworkPolicy (d : Device) (blocked : Option Bool)
    (generation : Option Permissions.Generation) : Device :=
  let blocked := blocked.getD false
  let needsAction := blocked || d.config.internetBlocked
  let d := if needsAction then d.spawnForCommand blocked generation else d
  { d with config := { d.config with internetBlocked := blocked }, requested := blocked }

def setInternetBlockRules (d : Device) (rules : List StoredInternetBlockRule)
    (generation : Option Permissions.Generation) : Device :=
  let config := { d.config with internetBlockRules := rules }
  let desired := config.desired d.now
  let current := config.internetBlocked
  let d := { d with config := { config with internetBlocked := desired } }
  if desired ≠ current then d.spawnForCommand desired generation else d

-- A command whose generation is not current is dropped before it gets to its handler.
def dispatch (d : Device) (generation : Permissions.Generation) (handler : Device → Device) : Device :=
  if generation.module = .networkPolicy ∧ generation.matches d.permissions then handler d else d

def allowed (d : Device) : Bool :=
  d.permissions.enabled .networkPolicy

def tick (d : Device) : Device :=
  if !d.allowed then
    { d with blocked := false, lastApplied := none }
  else
    let desired := d.config.desired d.now
    let hasRules := !d.config.internetBlockRules.isEmpty
    let baseline := d.lastApplied.getD d.config.internetBlocked
    if desired = baseline then
      d
    else
      let d := d.applyNetworkPolicy desired
        (Permissions.Generation.fromState d.permissions .networkPolicy)
      let config :=
        if hasRules then { d.config with internetBlocked := desired } else d.config
      { d with config, lastApplied := some desired }

end Device

inductive Op where
  | networkPolicy (blocked : Option Bool) (generation : Permissions.Generation)
  | internetBlockRules (rules : List StoredInternetBlockRule) (generation : Permissions.Generation)
  | runSpawned
  | tick
  | clock (now : LocalTime)
  | permissions (op : Permissions.Operation)

namespace Device

def exec (d : Device) : Op → Device
  | .networkPolicy blocked generation =>
    d.dispatch generation (fun d => d.setNetworkPolicy blocked (some generation))
  | .internetBlockRules rules generation =>
    d.dispatch generation (fun d => d.setInternetBlockRules rules (some generation))
  | .runSpawned => d.runSpawned
  | .tick => d.tick
  | .clock now => { d with now }
  | .permissions op => { d with permissions := d.permissions.exec op }

def run (d : Device) (ops : List Op) : Device :=
  ops.foldl exec d

def init (now : LocalTime) : Device where
  now
  permissions := Permissions.State.default
  config := { internetBlocked := false, internetBlockRules := [] }
  spawned := []
  lastApplied := none
  blocked := false
  requested := false

-- What the device should do: the rules decide if there are any, else the last request.
def wanted (d : Device) : Bool :=
  { d.config with internetBlocked := d.requested }.desired d.now

/--
The state a tick with the grant starts from. Where what the scheduler computes differs from its baseline
it is applied, so it has to be what is wanted; where it does not nothing is done, so the machine has to
be as wanted already.
-/
def Settled (d : Device) : Prop :=
  if d.config.desired d.now = d.lastApplied.getD d.config.internetBlocked then
    d.blocked = d.wanted
  else
    d.config.desired d.now = d.wanted

variable {d : Device}

end Device

namespace Example

def regranted : List Op := [
  .permissions (.localSet .networkPolicy true),
  .networkPolicy (some true) { module := .networkPolicy, revision := 1 },
  .runSpawned,
  .tick,
  .permissions (.localSet .networkPolicy false),
  .tick,
  .permissions (.localSet .networkPolicy true),
  .tick
]

end Example

end Curfew

end Vantyr
