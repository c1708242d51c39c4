import Vantyr.Server.CaptureSteps

/-!
This module composes the server with the devices that capture their screens and with the frames that are
in flight from one to the other.
-/

namespace Vantyr

-- A capture that a device has opened, with the generation of the command it was opened for.
structure DeviceCapture where
  id : Uuid
  generation : Option Json
  deriving DecidableEq, Repr

/--
The end of a connection on the device. It has `executed` the first of the commands that were written to
its socket. Every `start_capture` it carries out opens another one of its `captures`; the one at position
`running` produces frames. The `frames` are in flight to the server, the oldest one first, each with the
position of the capture it shows.
-/
structure Device where
  executed : Nat
  captures : List DeviceCapture
  running : Option Nat
  frames : List (Nat × Option Geometry)

namespace Device

def init : Device :=
  { executed := 0, captures := [], running := none, frames := [] }

-- The captures the server may still receive a frame of.
def coming (device : Device) : List Nat :=
  device.frames.map Prod.fst ++ device.running.toList

-- The device carries out a command that starts a capture.
def start (device : Device) (id : Uuid) (cmd : Json) : Device :=
  {
    device with
    executed := device.executed + 1
    captures := device.captures ++ [{ id, generation := cmd.get? "__capture_generation" }]
    running := some device.captures.length
  }

-- The device may also refuse a command or fail to carry it out.
def execute (device : Device) (cmd : Json) (id : Option Uuid) : Device :=
  match id with
  | some id =>
    if cmd.kind = "start_capture" then
      device.start id cmd
    else
      { device with executed := device.executed + 1 }
  | none => { device with executed := device.executed + 1 }

def produce (device : Device) (geometry : Option Geometry) : Device :=
  match device.running with
  | some position => { device with frames := device.frames ++ [(position, geometry)] }
  | none => device

-- A frame names the capture that produces it.
def Shows (device : Device) (geometry : Option Geometry) : Prop :=
  ∀ g ∈ geometry, ∀ position ∈ device.running, ∀ capture ∈ device.captures[position]?,
    capture.id = g.captureId

instance (device : Device) (geometry : Option Geometry) : Decidable (device.Shows geometry) :=
  inferInstanceAs (Decidable (∀ g ∈ geometry, ∀ position ∈ device.running,
    ∀ capture ∈ device.captures[position]?, capture.id = g.captureId))

/-!
Frames reach the server in the order in which they were produced.
-/

structure Tidy (device : Device) : Prop where
  bounded : ∀ i ∈ device.coming, i < device.captures.length
  ordered : device.coming.Pairwise (· ≤ ·)
  shown : ∀ i geometry, (i, some geometry) ∈ device.frames
    → ∃ capture, device.captures[i]? = some capture ∧ capture.id = geometry.captureId

-- No capture is opened, and nothing comes that was not to come.
structure Quieter (old new : Device) : Prop where
  captures : new.captures = old.captures
  coming : ∀ i ∈ new.coming, i ∈ old.coming
  executed : old.executed ≤ new.executed

theorem Quieter.refl (device : Device) : Quieter device device :=
  ⟨rfl, fun _ => id, Nat.le_refl _⟩

variable {device : Device}

theorem coming_init : init.coming = [] :=
  rfl

theorem execute_cases (device : Device) (cmd : Json) (fresh : Option Uuid)
    : device.execute cmd fresh = { device with executed := device.executed + 1 }
      ∨ ∃ id, fresh = some id ∧ cmd.kind = "start_capture"
        ∧ device.execute cmd fresh = device.start id cmd := by
  cases fresh with
  | none => exact .inl rfl
  | some id =>
    unfold execute
    simp only
    split
    . next hkind => exact .inr ⟨id, rfl, hkind, rfl⟩
    . exact .inl rfl

namespace Tidy

theorem init : Tidy Device.init := by
  constructor
  . simp [coming_init]
  . simp [coming_init]
  . simp [Device.init]

theorem mem_frames (h : device.Tidy) {i : Nat} (hi : i ∈ device.frames.map Prod.fst)
    : i < device.captures.length :=
  h.bounded i (List.mem_append_left _ hi)

theorem start (h : device.Tidy) (id : Uuid) (cmd : Json) : (device.start id cmd).Tidy := by
  constructor
  . intro i hi
    simp only [coming, Device.start, Option.toList_some, List.mem_append, List.mem_singleton] at hi
    rw [Device.start, List.length_append, List.length_singleton]
    rcases hi with hi | hi
    . exact Nat.lt_succ_of_lt (h.mem_frames hi)
    . omega
  . simp only [coming, Device.start, Option.toList_some]
    rw [List.pairwise_append]
    refine ⟨(List.pairwise_append.mp h.ordered).1, List.pairwise_singleton _ _, ?_⟩
    intro i hi j hj
    rw [List.mem_singleton] at hj
    rw [hj]
    exact Nat.le_of_lt (h.mem_frames hi)
  . intro i geometry hmem
    rcases h.shown i geometry hmem with ⟨shown, hshown, hid⟩
    refine ⟨shown, ?_, hid⟩
    rw [Device.start, List.getElem?_append_left (List.getElem?_eq_some_iff.mp hshown).1]
    exact hshown

theorem executed (h : device.Tidy) : Tidy { device with executed := device.executed + 1 } :=
  ⟨h.bounded, h.ordered, h.shown⟩

theorem ended (h : device.Tidy) : Tidy { device with running := none } := by
  have hsublist : List.Sublist (coming { device with running := none }) device.coming := by
    simp [coming]
  exact ⟨fun i hi => h.bounded i (hsublist.subset hi), h.ordered.sublist hsublist, h.shown⟩

theorem take (h : device.Tidy) {frame : Nat × Option Geometry} {frames : List (Nat × Option Geometry)}
    (hframes : device.frames = frame :: frames) : Tidy { device with frames } := by
  have hsublist : List.Sublist (coming { device with frames }) device.coming := by
    simp [coming, hframes]
  refine ⟨fun i hi => h.bounded i (hsublist.subset hi), h.ordered.sublist hsublist, ?_⟩
  intro i geometry hmem
  apply h.shown i geometry
  rw [hframes]
  exact List.mem_cons_of_mem _ hmem

theorem produce (h : device.Tidy) {geometry : Option Geometry} (hshows : device.Shows geometry)
    : (device.produce geometry).Tidy := by
  unfold Device.produce
  split
  . next position hrunning =>
    have hcoming : position ∈ device.coming := by
      simp [coming, hrunning]
    have hlast : ∀ i ∈ device.frames.map Prod.fst, i ≤ position := by
      have := (List.pairwise_append.mp h.ordered).2.2
      intro i hi
      exact this i hi position (by simp [hrunning])
    constructor
    . intro i hi
      apply h.bounded
      simp only [coming, List.map_append, List.map_singleton, List.mem_append,
        List.mem_singleton] at hi ⊢
      rcases hi with (hi | hi) | hi
      . exact .inl hi
      . exact .inr (by simp [hrunning, hi])
      . exact .inr hi
    . simp only [coming, List.map_append, List.map_singleton, hrunning, Option.toList_some]
      rw [List.append_assoc, List.pairwise_append]
      refine ⟨(List.pairwise_append.mp h.ordered).1, by simp, ?_⟩
      intro i hi j hj
      have : j = position := by simpa using hj
      rw [this]
      exact hlast i hi
    . intro i shown hmem
      rw [List.mem_append, List.mem_singleton] at hmem
      rcases hmem with hmem | hmem
      . exact h.shown i shown hmem
      . rw [Prod.mk.injEq] at hmem
        rcases hmem with ⟨rfl, hgeometry⟩
        have hlt := h.bounded i hcoming
        exact ⟨device.captures[i], List.getElem?_eq_getElem hlt,
          hshows shown hgeometry.symm i hrunning _ (List.getElem?_eq_getElem hlt)⟩
  . exact h

end Tidy

namespace Quieter

theorem ended (device : Device) : Quieter device { device with running := none } := by
  refine ⟨rfl, ?_, Nat.le_refl _⟩
  intro i hi
  simp only [Device.coming, Option.toList_none, List.append_nil] at hi
  exact List.mem_append_left _ hi

theorem execute (device : Device) : Quieter device { device with executed := device.executed + 1 } :=
  ⟨rfl, fun _ => id, Nat.le_succ _⟩

theorem produce (device : Device) (geometry : Option Geometry)
    : Quieter device (device.produce geometry) := by
  unfold Device.produce
  split
  . next position hrunning =>
    refine ⟨rfl, ?_, Nat.le_refl _⟩
    intro i hi
    simp only [Device.coming, List.map_append, List.map_singleton, List.mem_append,
      List.mem_singleton] at hi ⊢
    rcases hi with (hi | hi) | hi
    . exact .inl hi
    . exact .inr (by simp [hrunning, hi])
    . exact .inr hi
  . exact .refl device

theorem take {frame : Nat × Option Geometry} {frames : List (Nat × Option Geometry)}
    (hframes : device.frames = frame :: frames) : Quieter device { device with frames } := by
  refine ⟨rfl, ?_, Nat.le_refl _⟩
  intro i hi
  simp only [Device.coming, hframes, List.map_cons, List.cons_append, List.mem_cons] at hi ⊢
  exact .inr hi

end Quieter

end Device

/--
The server with the device at the end of every connection. The remaining fields record the history for
the proofs: for an agent, the generation of the capture that was started last and the captures that the
cached frame showed when another one was started, and the ids of all captures that were opened.
-/
structure World where
  server : AppState
  devices : Uuid → Device
  latest : Uuid → Option Uuid
  observed : Uuid → List Uuid
  opened : List Uuid

inductive Event where
  | server (op : Op)
  | execute (conn : Uuid) (id : Option Uuid)
  | ended (conn : Uuid)
  | produce (conn : Uuid) (geometry : Option Geometry)
  | arrive (conn : Uuid) (now : Nat)

namespace World

def init : World where
  server := AppState.init
  devices := fun _ => Device.init
  latest := fun _ => none
  observed := fun _ => []
  opened := []

def setDevice (w : World) (conn : Uuid) (device : Device) : World :=
  { w with devices := Function.update w.devices conn device }

-- An operation starts the capture of an agent anew.
def restarts (w : World) (op : Op) (agent : Uuid) : Bool :=
  ((w.server.exec op).activeCapture agent).any (fun active =>
    active.generation ≠ Uuid.nil ∧ active.generation ∉ w.server.minted)

def serve (w : World) (op : Op) : World :=
  let server := w.server.exec op
  {
    w with
    server
    latest := fun agent =>
      match (server.activeCapture agent).filter (fun active => active.generation ≠ Uuid.nil) with
      | some active => some active.generation
      | none => w.latest agent
    observed := fun agent =>
      if w.restarts op agent then
        (w.server.cachedCapture agent).toList ++ w.observed agent
      else
        w.observed agent
  }

-- A capture ends when the device gets to stop it, or on its own.
def step (w : World) : Event → World
  | .server op => w.serve op
  | .execute conn id =>
    let device := w.devices conn
    match (w.server.sockets conn).written[device.executed]? with
    | some (_, cmd) =>
      { w.setDevice conn (device.execute cmd id) with opened := id.toList ++ w.opened }
    | none => w
  | .ended conn => w.setDevice conn { w.devices conn with running := none }
  | .produce conn geometry => w.setDevice conn ((w.devices conn).produce geometry)
  | .arrive conn now =>
    match (w.devices conn).frames with
    | (_, geometry) :: frames =>
      {
        w.setDevice conn { w.devices conn with frames } with
        server := w.server.exec (.frame (w.server.sockets conn).agent conn geometry now)
      }
    | [] => w

-- Ids are fresh, and the server receives frames from the devices only.
def Allowed (w : World) : Event → Prop
  | .server op => w.server.Fresh op ∧ op.isFrame = false
  | .execute _ id => ∀ fresh ∈ id, fresh ∉ w.opened
  | .ended _ => True
  | .produce conn geometry => (w.devices conn).Shows geometry
  | .arrive _ _ => True

def StepIf (C : World → Event → Prop) (w v : World) : Prop :=
  ∃ event, w.Allowed event ∧ C w event ∧ v = w.step event

def RunsIf (C : World → Event → Prop) : World → World → Prop :=
  Relation.ReflTransGen (StepIf C)

def Reachable (w : World) : Prop :=
  RunsIf (fun _ _ => True) init w

/--
No start of a capture is on its way to the device, and the server has seen a frame of every capture that
it may still receive one of: its id was retired, or the frame is the cached one.
-/
structure Settled (w : World) (agent conn : Uuid) : Prop where
  executed : ∀ entry ∈ (w.server.sockets conn).written.drop (w.devices conn).executed,
    entry.2.kind ≠ "start_capture"
  seen : ∀ position ∈ (w.devices conn).coming, ∀ capture ∈ (w.devices conn).captures[position]?,
    capture.id ∈ w.server.retiredIds agent conn ∨ w.server.cachedCapture agent = some capture.id

-- A capture is started anew only when the connection is settled.
def Settling (w : World) (event : Event) : Prop :=
  ∀ op agent conn, event = .server op → w.server.connId? agent = some conn → w.restarts op agent = true
    → w.Settled agent conn

-- What a command or a capture was tagged with is the generation that was started last.
def Latest (w : World) (agent : Uuid) (tag : Option Json) : Prop :=
  ∃ generation, w.latest agent = some generation ∧ tag = some (.string generation.text)

-- The cached frame of an agent was produced for a capture, and for that one only.
structure CachedFrame (w : World) (agent conn : Uuid) (active : ActiveCapture)
    (capture : DeviceCapture) : Prop where
  connected : w.server.connId? agent = some conn
  recorded : w.server.activeCapture agent = some active
  latest : active.generation ≠ Uuid.nil → w.latest agent = some active.generation
  shown : w.server.cachedCapture agent = some capture.id
  opened : capture ∈ (w.devices conn).captures
  only : ∀ socket, ∀ other ∈ (w.devices socket).captures, other.id = capture.id
    → socket = conn ∧ other = capture

-- The cached frame of the agent was produced for the latest start of the capture on record.
def FreshFrame (w : World) (agent : Uuid) : Prop :=
  ∃ conn active capture, w.CachedFrame agent conn active capture
    ∧ w.Latest agent capture.generation

/-!
Runs.
-/

def allows (w : World) : Event → Bool
  | .server op => w.server.isFresh op && !op.isFrame
  | .execute _ id => id.all (fun fresh => !w.opened.contains fresh)
  | .ended _ => true
  | .produce conn geometry => (w.devices conn).Shows geometry
  | .arrive _ _ => true

theorem allows_iff (w : World) (event : Event) : w.allows event = true ↔ w.Allowed event := by
  cases event with
  | server op => simp [allows, Allowed, AppState.isFresh_iff]
  | execute conn id => cases id <;> simp [allows, Allowed]
  | ended conn => simp [allows, Allowed]
  | produce conn geometry => simp [allows, Allowed]
  | arrive conn now => simp [allows, Allowed]

def run (w : World) (events : List Event) : World :=
  events.foldl step w

-- A run whose events are allowed and pass a check.
def checkedRun (check : World → Event → Bool) (w : World) : List Event → Bool
  | [] => true
  | event :: events => w.allows event && check w event && (w.step event).checkedRun check events

theorem reachable_step {w : World} (h : Vantyr.Reachable w.server) {event : Event}
    (hallowed : w.Allowed event) : Vantyr.Reachable (w.step event).server := by
  cases event with
  | server op => exact h.tail ⟨op, hallowed.1, rfl⟩
  | execute conn id =>
    simp only [step]
    split
    . exact h
    . exact h
  | ended conn => exact h
  | produce conn geometry => exact h
  | arrive conn now =>
    simp only [step]
    split
    . next geometry frames _ =>
      refine h.tail ⟨.frame (w.server.sockets conn).agent conn geometry now, ?_, rfl⟩
      intro id hid
      cases hid
    . exact h

theorem runsIf_run {C : World → Event → Prop} {check : World → Event → Bool}
    (hC : ∀ w event, Vantyr.Reachable w.server → check w event = true → C w event) {w : World}
    (hw : Vantyr.Reachable w.server) {events : List Event} (h : w.checkedRun check events = true)
    : RunsIf C w (w.run events) := by
  induction events generalizing w with
  | nil => exact Relation.ReflTransGen.refl
  | cons event events ih =>
    simp only [checkedRun, Bool.and_eq_true] at h
    have hallowed := (w.allows_iff event).mp h.1.1
    exact Relation.ReflTransGen.head ⟨event, hallowed, hC w event hw h.1.2, rfl⟩
      (ih (reachable_step hw hallowed) h.2)

theorem reachable_init : Vantyr.Reachable World.init.server :=
  Relation.ReflTransGen.refl

theorem reachable_run {events : List Event}
    (h : World.init.checkedRun (fun _ _ => true) events = true) : Reachable (World.init.run events) :=
  runsIf_run (fun _ _ _ _ => trivial) reachable_init h

end World

end Vantyr
