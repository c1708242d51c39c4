import Mathlib.Data.List.Nodup
import Vantyr.Data.Runs
import Vantyr.Data.Unique
import Vantyr.Data.Uuid

/-!
This module contains the scheduler of scripts (`tick` in `server/src/scripts/scheduler.rs`,
`server/src/scripts/scheduled/db/executions.rs`). The scheduler matches schedules in local time, and what was
executed before is looked up by the minute in UTC. A time zone is the offset of local time in seconds at each
second of UTC.
-/

namespace Vantyr

namespace ScheduledScripts

abbrev TimeZone := Int → Int

namespace TimeZone

variable (tz : TimeZone)

def localSecond (time : Int) : Int :=
  time + tz time

def localMinute (time : Int) : Int :=
  tz.localSecond time / 60

def localDate (time : Int) : Int :=
  tz.localSecond time / 86400

def minuteOfDay (time : Int) : Int :=
  tz.localSecond time / 60 % 1440

-- Sunday is 0, the first of January 1970 was a Thursday.
def dayOfWeek (time : Int) : Int :=
  (tz.localDate time + 4) % 7

theorem localMinute_congr {time time' : Int} (hdate : tz.localDate time = tz.localDate time')
    (hminute : tz.minuteOfDay time = tz.minuteOfDay time') : tz.localMinute time = tz.localMinute time' := by
  unfold localDate at hdate
  unfold minuteOfDay at hminute
  unfold localMinute
  omega

end TimeZone

structure Schedule where
  frequency : String
  dayOfWeek : Option Int
  fireMinute : Int
  deriving DecidableEq, Repr

structure Scope where
  kind : String
  groupId : Option Uuid
  agentId : Option Uuid
  deriving DecidableEq, Repr

structure EnabledScript where
  id : Int
  schedules : List Schedule
  scopes : List Scope
  deriving DecidableEq, Repr

-- The Boolean of the loop over the schedules.
def Schedule.matchesFreq (tz : TimeZone) (now : Int) (sch : Schedule) : Bool :=
  if sch.frequency = "hourly" then
    (tz.minuteOfDay now).tmod 60 = sch.fireMinute.tmod 60
  else if sch.frequency = "daily" then
    tz.minuteOfDay now = sch.fireMinute
  else if sch.frequency = "weekly" then
    sch.dayOfWeek = some (tz.dayOfWeek now) && tz.minuteOfDay now = sch.fireMinute
  else
    false

-- A row of `scheduled_script_executions`.
structure Execution where
  scriptId : Int
  agentId : Uuid
  status : String
  expectedFireTime : Int
  deriving DecidableEq, Repr

structure Run where
  scriptId : Int
  agentId : Uuid
  time : Int
  deriving DecidableEq, Repr

-- The time of UTC in seconds, and the table. `executed` is history: what was sent to agents.
structure Server where
  now : Int
  executions : List Execution
  executed : List Run

-- What a tick finds: the enabled scripts, the agents, the members of groups and the connected agents.
structure Tick where
  elapsed : Nat
  scripts : List EnabledScript
  agents : List Uuid
  members : Uuid → List Uuid
  connected : List Uuid

namespace Tick

-- A set in the source, the order is up to its iterator.
def resolveAgents (t : Tick) (scopes : List Scope) : List Uuid :=
  if scopes.any (fun scope => scope.kind = "all") then
    t.agents.dedup
  else
    (scopes.flatMap fun scope =>
      if scope.kind = "agent" then scope.agentId.toList
      else if scope.kind = "group" then (scope.groupId.map t.members).getD []
      else []).dedup

end Tick

namespace Server

def init (start : Int) : Server where
  now := start
  executions := []
  executed := []

def executionExists (s : Server) (scriptId : Int) (agentId : Uuid) (fireTime : Int) : Bool :=
  s.executions.any (fun r => r.scriptId = scriptId && r.agentId = agentId && r.expectedFireTime = fireTime)

-- `ON CONFLICT DO NOTHING`
def insertScheduledExecution (s : Server) (r : Execution) : Server :=
  if s.executionExists r.scriptId r.agentId r.expectedFireTime then
    s
  else
    { s with executions := s.executions ++ [r] }

-- The body of the loop over the agents of a script.
def dispatch (connected : List Uuid) (scriptId : Int) (s : Server) (agentId : Uuid) : Server :=
  let expectedFireTime := s.now / 60
  let isOnline := connected.contains agentId
  let status := if isOnline then "fired" else "skipped_offline"
  if s.executionExists scriptId agentId expectedFireTime then
    s
  else
    let s := s.insertScheduledExecution { scriptId, agentId, status, expectedFireTime }
    if !isOnline then s else { s with executed := s.executed ++ [{ scriptId, agentId, time := s.now }] }

def fire (tz : TimeZone) (t : Tick) (s : Server) (record : EnabledScript) : Server :=
  if !record.schedules.any (Schedule.matchesFreq tz s.now) then
    s
  else if record.scopes = [] then
    s
  else
    (t.resolveAgents record.scopes).foldl (dispatch t.connected record.id) s

def tick (tz : TimeZone) (s : Server) (t : Tick) : Server :=
  t.scripts.foldl (fire tz t) { s with now := s.now + t.elapsed }

end Server

-- Restarts lose nothing, the table is in the database.
inductive Event where
  | tick (t : Tick)
  | restart (elapsed : Nat)

def Server.step (tz : TimeZone) (s : Server) : Event → Server
  | .tick t => s.tick tz t
  | .restart elapsed => { s with now := s.now + elapsed }

-- What deduplication is keyed by.
def Run.key (run : Run) : Int × Uuid × Int :=
  (run.scriptId, run.agentId, run.time / 60)

namespace Server

-- Every run has its row, which keeps it the only one of its minute.
structure Recorded (s : Server) : Prop where
  nodup : (s.executed.map Run.key).Nodup
  exists_row : ∀ run ∈ s.executed, s.executionExists run.scriptId run.agentId (run.time / 60) = true

-- A script with one schedule that does not fire hourly.
def Single (record : EnabledScript) (sch : Schedule) : Prop :=
  record.schedules = [sch] ∧ (sch.frequency = "daily" ∨ sch.frequency = "weekly")

-- The local minute of an earlier run of the script for the agent has come again in another minute of UTC.
def Again (tz : TimeZone) (now : Int) (scriptId : Int) (agentId : Uuid) (s : Server) : Prop :=
  ∃ run ∈ s.executed, run.scriptId = scriptId ∧ run.agentId = agentId
    ∧ tz.localMinute run.time = tz.localMinute now ∧ run.time / 60 ≠ now / 60

-- A tick is due to run a script of one daily or weekly schedule in such a minute.
def Repeats (tz : TimeZone) (s : Server) : Event → Prop
  | .tick t =>
    ∃ record ∈ t.scripts, (∃ sch, Single record sch ∧ sch.matchesFreq tz (s.now + t.elapsed) = true)
      ∧ ∃ agentId ∈ t.resolveAgents record.scopes, agentId ∈ t.connected
        ∧ Again tz (s.now + t.elapsed) record.id agentId s
  | .restart _ => False

-- What holds of the runs of a script that keeps its schedule.
structure Kept (tz : TimeZone) (scriptId : Int) (sch : Schedule) (s : Server) : Prop extends Recorded s where
  scheduled : ∀ run ∈ s.executed, run.scriptId = scriptId → sch.matchesFreq tz run.time = true
  once : s.executed.Pairwise fun run run' =>
    run.scriptId = scriptId → run'.scriptId = scriptId → run.agentId = run'.agentId
      → tz.localDate run.time ≠ tz.localDate run'.time

variable {tz : TimeZone} {s : Server}

-- A dispatch finds a row, records that the agent is offline, or records and sends.
theorem dispatch_cases (connected : List Uuid) (scriptId : Int) (s : Server) (agentId : Uuid)
    : s.dispatch connected scriptId agentId = s
      ∨ s.executionExists scriptId agentId (s.now / 60) = false
        ∧ ∃ row : Execution, row.scriptId = scriptId ∧ row.agentId = agentId
          ∧ row.expectedFireTime = s.now / 60
          ∧ (s.dispatch connected scriptId agentId = { s with executions := s.executions ++ [row] }
            ∨ agentId ∈ connected ∧ s.dispatch connected scriptId agentId = {
              s with
              executions := s.executions ++ [row]
              executed := s.executed ++ [{ scriptId, agentId, time := s.now }]
            }) := by
  unfold dispatch
  dsimp only
  split
  . exact .inl rfl
  . next hexists =>
    have hexists : s.executionExists scriptId agentId (s.now / 60) = false := Bool.eq_false_iff.mpr hexists
    unfold insertScheduledExecution
    rw [hexists, if_neg Bool.false_ne_true]
    cases honline : connected.contains agentId with
    | true =>
      refine .inr ⟨rfl, ⟨scriptId, agentId, "fired", s.now / 60⟩, rfl, rfl, rfl, .inr ⟨?_, rfl⟩⟩
      exact List.contains_iff_mem.mp honline
    | false => exact .inr ⟨rfl, ⟨scriptId, agentId, "skipped_offline", s.now / 60⟩, rfl, rfl, rfl, .inl rfl⟩

theorem executionExists_append (s : Server) (row : Execution) (executed : List Run) (scriptId : Int)
    (agentId : Uuid) (fireTime : Int)
    : executionExists { s with executions := s.executions ++ [row], executed } scriptId agentId fireTime
      = (s.executionExists scriptId agentId fireTime
        || row.scriptId = scriptId && row.agentId = agentId && row.expectedFireTime = fireTime) := by
  unfold executionExists
  rw [List.any_append, List.any_cons, List.any_nil, Bool.or_false]

theorem now_dispatch (connected : List Uuid) (scriptId : Int) (s : Server) (agentId : Uuid)
    : (s.dispatch connected scriptId agentId).now = s.now := by
  rcases s.dispatch_cases connected scriptId agentId with h | ⟨_, row, _, _, _, h | ⟨_, h⟩⟩ <;> rw [h]

theorem Recorded.dispatch (h : s.Recorded) (connected : List Uuid) (scriptId : Int) (agentId : Uuid)
    : (s.dispatch connected scriptId agentId).Recorded := by
  rcases s.dispatch_cases connected scriptId agentId
    with heq | ⟨hexists, row, hscript, hagent, htime, heq | ⟨_, heq⟩⟩
  . rw [heq]
    exact h
  . rw [heq]
    refine ⟨h.nodup, ?_⟩
    intro run hrun
    rw [executionExists_append, h.exists_row run hrun]
    rfl
  . rw [heq]
    constructor
    . show ((s.executed ++ [_]).map Run.key).Nodup
      rw [List.map_append, List.nodup_append]
      refine ⟨h.nodup, List.nodup_singleton _, ?_⟩
      rintro key hkey key' hkey' rfl
      rcases List.mem_map.mp hkey with ⟨run, hrun, rfl⟩
      have hrow := h.exists_row run hrun
      have heq : run.key = (scriptId, agentId, s.now / 60) := List.mem_singleton.mp hkey'
      unfold Run.key at heq
      simp only [Prod.mk.injEq] at heq
      rw [heq.1, heq.2.1, heq.2.2, hexists] at hrow
      cases hrow
    . intro run hrun
      rw [executionExists_append]
      rcases List.mem_append.mp hrun with hrun | hrun
      . rw [h.exists_row run hrun]
        rfl
      . rw [List.mem_singleton.mp hrun, hscript, hagent, htime]
        simp

theorem Again.dispatch {now : Int} (hnow : s.now = now) {connected : List Uuid} {scriptId scriptId' : Int}
    {agentId agentId' : Uuid}
    (h : Again tz now scriptId agentId (s.dispatch connected scriptId' agentId'))
    : Again tz now scriptId agentId s := by
  rcases h with ⟨run, hrun, hscript, hagent, hminute, hother⟩
  refine ⟨run, ?_, hscript, hagent, hminute, hother⟩
  rcases s.dispatch_cases connected scriptId' agentId' with heq | ⟨_, row, _, _, _, heq | ⟨_, heq⟩⟩
  . rwa [heq] at hrun
  . rwa [heq] at hrun
  . rw [heq] at hrun
    rcases List.mem_append.mp hrun with hrun | hrun
    . exact hrun
    . rw [List.mem_singleton.mp hrun, ← hnow] at hother
      exact absurd rfl hother

variable {scriptId : Int} {sch : Schedule}

theorem minuteOfDay_of_matchesFreq {now : Int}
    (hfrequency : sch.frequency = "daily" ∨ sch.frequency = "weekly") (h : sch.matchesFreq tz now = true)
    : tz.minuteOfDay now = sch.fireMinute := by
  unfold Schedule.matchesFreq at h
  rcases hfrequency with hfrequency | hfrequency
  . rw [hfrequency, if_neg (by decide), if_pos rfl] at h
    exact of_decide_eq_true h
  . rw [hfrequency, if_neg (by decide), if_neg (by decide), if_pos rfl, Bool.and_eq_true] at h
    exact of_decide_eq_true h.2

-- A run that its minute in UTC does not prevent is the first one of its local date.
theorem Kept.dispatch (h : s.Kept tz scriptId sch)
    (hfrequency : sch.frequency = "daily" ∨ sch.frequency = "weekly") {connected : List Uuid} {id : Int}
    {agentId : Uuid} (hdue : id = scriptId → sch.matchesFreq tz s.now = true)
    (hagain : id = scriptId → agentId ∈ connected → ¬Again tz s.now id agentId s)
    : (s.dispatch connected id agentId).Kept tz scriptId sch := by
  suffices hruns : (∀ run ∈ (s.dispatch connected id agentId).executed,
      run.scriptId = scriptId → sch.matchesFreq tz run.time = true)
      ∧ (s.dispatch connected id agentId).executed.Pairwise fun run run' =>
        run.scriptId = scriptId → run'.scriptId = scriptId → run.agentId = run'.agentId
          → tz.localDate run.time ≠ tz.localDate run'.time by
    exact ⟨h.toRecorded.dispatch connected id agentId, hruns.1, hruns.2⟩
  rcases s.dispatch_cases connected id agentId with heq | ⟨hexists, row, _, _, _, heq | ⟨honline, heq⟩⟩
  . rw [heq]
    exact ⟨h.scheduled, h.once⟩
  . rw [heq]
    exact ⟨h.scheduled, h.once⟩
  . rw [heq]
    constructor
    . intro run hrun hscript
      rcases List.mem_append.mp hrun with hrun | hrun
      . exact h.scheduled run hrun hscript
      . rw [List.mem_singleton] at hrun
        subst hrun
        exact hdue hscript
    . refine List.pairwise_append.mpr ⟨h.once, List.pairwise_singleton _ _, ?_⟩
      intro run hrun run' hrun' hscript hscript' hagent hdate
      rw [List.mem_singleton] at hrun'
      subst hrun'
      have hscript' : id = scriptId := hscript'
      have hagent : run.agentId = agentId := hagent
      have hdate : tz.localDate run.time = tz.localDate s.now := hdate
      have hminute := (minuteOfDay_of_matchesFreq hfrequency (h.scheduled run hrun hscript)).trans
        (minuteOfDay_of_matchesFreq hfrequency (hdue hscript')).symm
      have hlocal := TimeZone.localMinute_congr tz hdate hminute
      have hutc : run.time / 60 = s.now / 60 := by
        by_contra hother
        exact hagain hscript' honline ⟨run, hrun, hscript.trans hscript'.symm, hagent, hlocal, hother⟩
      have hrow := h.exists_row run hrun
      rw [hscript, ← hscript', hagent, hutc, hexists] at hrow
      cases hrow

-- What the loops of a tick preserve.
theorem fire_inv {I : Server → Prop} {t : Tick} {record : EnabledScript} (hI : I s)
    (h : record.schedules.any (Schedule.matchesFreq tz s.now) = true
      → ∀ agentId ∈ t.resolveAgents record.scopes, ∀ {s'}, s'.now = s.now → I s'
        → I (s'.dispatch t.connected record.id agentId))
    : I (s.fire tz t record) ∧ (s.fire tz t record).now = s.now := by
  unfold fire
  split
  . exact ⟨hI, rfl⟩
  . next hdue =>
    have hdue : record.schedules.any (Schedule.matchesFreq tz s.now) = true := by simpa using hdue
    split
    . exact ⟨hI, rfl⟩
    . have htargets : Runs.Admits (dispatch t.connected record.id)
          (fun _ agentId => agentId ∈ t.resolveAgents record.scopes) s (t.resolveAgents record.scopes) :=
        Runs.Admits.of_forall (fun _ hagent _ => hagent)
      refine Runs.Admits.exec (I := fun s' => I s' ∧ s'.now = s.now) ?_ ⟨hI, rfl⟩ htargets
      rintro s' agentId ⟨hs', hnow⟩ hagent
      exact ⟨h hdue agentId hagent hnow hs', (now_dispatch _ _ _ _).trans hnow⟩

-- What the whole tick preserves.
theorem tick_inv {I : Server → Prop} {t : Tick} (hI : I { s with now := s.now + t.elapsed })
    (h : ∀ record ∈ t.scripts, record.schedules.any (Schedule.matchesFreq tz (s.now + t.elapsed)) = true
      → ∀ agentId ∈ t.resolveAgents record.scopes, ∀ {s'}, s'.now = s.now + t.elapsed → I s'
        → I (s'.dispatch t.connected record.id agentId))
    : I (s.tick tz t) := by
  have hinv : I (s.tick tz t) ∧ (s.tick tz t).now = s.now + t.elapsed := by
    have hscripts : Runs.Admits (fire tz t) (fun _ record => record ∈ t.scripts)
        { s with now := s.now + t.elapsed } t.scripts := Runs.Admits.of_forall (fun _ hrecord _ => hrecord)
    refine Runs.Admits.exec (I := fun s' => I s' ∧ s'.now = s.now + t.elapsed) ?_ ⟨hI, rfl⟩ hscripts
    rintro s' record ⟨hs', hnow⟩ hrecord
    have hfire : I (s'.fire tz t record) ∧ (s'.fire tz t record).now = s'.now :=
      fire_inv hs' (fun hdue agentId hagent {s''} hnow' hs'' =>
        h record hrecord (hnow ▸ hdue) agentId hagent (hnow'.trans hnow) hs'')
    exact ⟨hfire.1, hfire.2.trans hnow⟩
  exact hinv.1

theorem Recorded.step (h : s.Recorded) (event : Event) : (s.step tz event).Recorded := by
  cases event with
  | restart elapsed => exact ⟨h.nodup, h.exists_row⟩
  | tick t => exact tick_inv ⟨h.nodup, h.exists_row⟩ (fun _ _ _ _ _ _ _ hs' => hs'.dispatch _ _ _)

-- Every tick finds the one schedule of the script.
def KeepsSchedule (scriptId : Int) (sch : Schedule) : Event → Prop
  | .tick t => ∀ record ∈ t.scripts, record.id = scriptId → record.schedules = [sch]
  | .restart _ => True

theorem Kept.step (h : s.Kept tz scriptId sch)
    (hfrequency : sch.frequency = "daily" ∨ sch.frequency = "weekly") {event : Event}
    (hsingle : KeepsSchedule scriptId sch event) (hrepeats : ¬Repeats tz s event)
    : (s.step tz event).Kept tz scriptId sch := by
  cases event with
  | restart elapsed => exact ⟨⟨h.nodup, h.exists_row⟩, h.scheduled, h.once⟩
  | tick t =>
    let now := s.now + t.elapsed
    -- No run that a record is due for comes again, whatever this tick has already executed.
    have hinv : (s.tick tz t).Kept tz scriptId sch
        ∧ ∀ scriptId agentId, Again tz now scriptId agentId (s.tick tz t)
          → Again tz now scriptId agentId s := by
      refine tick_inv (I := fun s' => s'.Kept tz scriptId sch
        ∧ ∀ scriptId agentId, Again tz now scriptId agentId s' → Again tz now scriptId agentId s) ?_ ?_
      . exact ⟨⟨⟨h.nodup, h.exists_row⟩, h.scheduled, h.once⟩, fun _ _ hagain => hagain⟩
      . rintro record hrecord hdue agentId hagent s' hnow ⟨hkept, hagain⟩
        have hmatches : record.id = scriptId → sch.matchesFreq tz now = true := by
          intro hid
          rw [hsingle record hrecord hid] at hdue
          simpa using hdue
        refine ⟨hkept.dispatch hfrequency ?_ ?_, ?_⟩
        . rw [hnow]
          exact hmatches
        . rw [hnow]
          intro hid honline hagain'
          refine hrepeats ⟨record, hrecord, ⟨sch, ⟨hsingle record hrecord hid, hfrequency⟩, hmatches hid⟩,
            agentId, hagent, honline, hagain _ _ hagain'⟩
        . intro scriptId' agentId' hagain'
          exact hagain _ _ (hagain'.dispatch hnow)
    exact hinv.1

end Server

/--
No run is executed twice in a minute of UTC. When no due script was executed in a local minute that comes
again, a script that keeps its daily or weekly schedule is executed at most once for an agent on a local date,
at the scheduled time and, when it is weekly, on the scheduled day of the week.
-/
theorem executed_once (tz : TimeZone) (start : Int) (events : List Event)
    : let s := Runs.exec (Server.step tz) (.init start) events
      (s.executed.map Run.key).Nodup
      ∧ (Runs.Admits (Server.step tz) (fun s event => ¬s.Repeats tz event) (.init start) events
        → ∀ scriptId sch, sch.frequency = "daily" ∨ sch.frequency = "weekly"
        → (∀ event ∈ events, Server.KeepsSchedule scriptId sch event)
        → (∀ agentId date, (s.executed.filter (fun run =>
            run.scriptId = scriptId && run.agentId = agentId && tz.localDate run.time = date)).length ≤ 1)
          ∧ ∀ run ∈ s.executed, run.scriptId = scriptId
            → tz.minuteOfDay run.time = sch.fireMinute
              ∧ (sch.frequency = "weekly" → sch.dayOfWeek = some (tz.dayOfWeek run.time))) := by
  have hrecorded : (Runs.exec (Server.step tz) (.init start) events).Recorded :=
    Runs.exec_inv (fun h => h.step _) ⟨List.nodup_nil, fun _ hrun => by cases hrun⟩ events
  refine ⟨hrecorded.nodup, ?_⟩
  intro hadmits scriptId sch hfrequency hkeeps
  have hkept : (Runs.exec (Server.step tz) (.init start) events).Kept tz scriptId sch := by
    refine Runs.Admits.exec (fun h hguard => h.step hfrequency hguard.2 hguard.1) ?_
      (hadmits.and (Runs.Admits.of_forall (fun event hevent _ => hkeeps event hevent)))
    exact ⟨⟨List.nodup_nil, fun _ hrun => by cases hrun⟩, (fun _ hrun => by cases hrun), List.Pairwise.nil⟩
  constructor
  . intro agentId date
    refine Unique.filter_length_le_one (hkept.once.imp ?_)
    intro run run' hdates hrun
    simp only [Bool.and_eq_true, decide_eq_true_eq] at hrun
    rw [Bool.eq_false_iff]
    intro hrun'
    simp only [Bool.and_eq_true, decide_eq_true_eq] at hrun'
    exact hdates hrun.1.1 hrun'.1.1 (hrun.1.2.trans hrun'.1.2.symm) (hrun.2.trans hrun'.2.symm)
  . intro run hrun hscript
    have hmatches := hkept.scheduled run hrun hscript
    refine ⟨Server.minuteOfDay_of_matchesFreq hfrequency hmatches, ?_⟩
    intro hweekly
    unfold Schedule.matchesFreq at hmatches
    rw [hweekly, if_neg (by decide), if_neg (by decide), if_pos rfl, Bool.and_eq_true] at hmatches
    exact of_decide_eq_true hmatches.1

namespace Example

def daily : Schedule where
  frequency := "daily"
  dayOfWeek := none
  fireMinute := 150

def everywhere : EnabledScript where
  id := 1
  schedules := [daily]
  scopes := [{ kind := "all", groupId := none, agentId := none }]

def tick (elapsed : Nat) : Event :=
  .tick { elapsed, scripts := [everywhere], agents := [7], members := fun _ => [], connected := [7] }

end Example

-- Two days of a zone in which the time is never changed.
theorem executed_once_example
    : ∀ agentId date,
      let s := Runs.exec (Server.step fun _ => 3600) (.init 5400) [Example.tick 0, Example.tick 86400]
      (s.executed.filter (fun run => run.scriptId = 1 && run.agentId = agentId
        && TimeZone.localDate (fun _ => 3600) run.time = date)).length ≤ 1 := by
  have hfirst : ((Server.init 5400).step (fun _ => 3600) (Example.tick 0)).executed = [⟨1, 7, 5400⟩] := by
    decide +kernel
  have hkeeps : ∀ event ∈ [Example.tick 0, Example.tick 86400],
      Server.KeepsSchedule 1 Example.daily event := by
    intro event hevent
    rcases List.mem_pair.mp hevent with rfl | rfl
    . exact fun record hrecord _ => congrArg EnabledScript.schedules (List.mem_singleton.mp hrecord)
    . exact fun record hrecord _ => congrArg EnabledScript.schedules (List.mem_singleton.mp hrecord)
  refine ((executed_once (fun _ => 3600) 5400 [Example.tick 0, Example.tick 86400]).2
    ⟨?_, ?_, trivial⟩ 1 Example.daily (.inl rfl) hkeeps).1
  . rintro ⟨_, _, _, _, _, _, run, hrun, _⟩
    cases hrun
  . rintro ⟨_, _, _, _, _, _, run, hrun, _, _, hminute, _⟩
    rw [hfirst, List.mem_singleton] at hrun
    rw [hrun] at hminute
    revert hminute
    decide +kernel

-- The clocks of a zone like Berlin are set back from three to two at one o'clock of UTC.
theorem fires_again_when_set_back
    : let setBack : Int := 1761440400
      let tz : TimeZone := fun time => if time < setBack then 7200 else 3600
      let record : EnabledScript := {
        id := 1
        schedules := [{ frequency := "daily", dayOfWeek := none, fireMinute := 150 }]
        scopes := [{ kind := "all", groupId := none, agentId := none }]
      }
      let t elapsed : Event :=
        .tick { elapsed, scripts := [record], agents := [7], members := fun _ => [], connected := [7] }
      let s := Runs.exec (Server.step tz) (.init (setBack - 1800)) [t 0, t 3600]
      s.executed = [⟨1, 7, setBack - 1800⟩, ⟨1, 7, setBack + 1800⟩]
      ∧ tz.localDate (setBack - 1800) = tz.localDate (setBack + 1800) := by
  decide +kernel

end ScheduledScripts

end Vantyr
