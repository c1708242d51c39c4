import Vantyr.Data.Runs
import Vantyr.Server.Registry

/-!
This module contains the screenshots of alerts, `capture_and_store_screenshot_for_event` in
`server/src/policy/alert_rules/engine.rs`, among everything else that the server does. No command that
starts or stops a capture passes `send_agent_command_json`, so the main result is that no screenshot is ever
stored, and that alerts leave the live views alone.
-/

namespace Vantyr

namespace AppState

-- `try_send_command` sends at once what was authorized.
def trySendCommand (s : AppState) (agent : Uuid) (cmd : Json) : Bool × AppState :=
  match s.authorizeSend agent cmd with
  | .error _ => (false, s)
  | .ok sending =>
    match sending.finishSend 0 with
    | (.ok (), s) => (true, s)
    | (.error _, s) => (false, s)

end AppState

namespace Screenshots

-- The bytes of a frame, numbered in the order of arrival.
structure Image where
  seq : Nat
  jpeg : List UInt8
  deriving DecidableEq, Repr

inductive Phase where
  | starting
  | waiting (prevSeq deadline : Nat)
  | finishing (jpeg : Option (List UInt8))
  deriving DecidableEq, Repr

-- The task that was spawned for an event.
structure Shot where
  agent : Uuid
  event : Nat
  phase : Phase
  deriving DecidableEq, Repr

/--
The server with the bytes of the frames it has cached, the tasks that are under way and the screenshots in
the database. Times are counted in milliseconds. `received` is history: all frames that were accepted.
-/
structure Alerting where
  app : AppState
  images : AList (fun _ : Uuid => Image)
  frameSeq : Nat
  received : List (Uuid × Image)
  now : Nat
  shots : List Shot
  screenshots : AList (fun _ : Nat => List UInt8)

def screenshotWait : Nat := 3000

inductive Action where
  -- What the server does besides; the bytes are those of a frame that arrives.
  | server (op : Op) (jpeg : List UInt8)
  | elapse (ms : Nat)
  -- An alert is recorded as an event.
  | fire (agent : Uuid) (event : Nat) (takeScreenshot : Bool)
  -- A task goes on, and may have to store its screenshot.
  | resume (i : Nat) (stored : Bool)

namespace Alerting

def init (app : AppState) : Alerting where
  app
  images := ∅
  frameSeq := 1
  received := []
  now := 0
  shots := []
  screenshots := ∅

def accepts (s : Alerting) (agent conn : Uuid) : Prop :=
  s.app.connId? agent = some conn ∧ s.app.moduleAuthorized agent .liveScreen = true

instance (s : Alerting) (agent conn : Uuid) : Decidable (s.accepts agent conn) :=
  inferInstanceAs (Decidable (_ ∧ _))

def receive (s : Alerting) (agent : Uuid) (jpeg : List UInt8) : Alerting :=
  let image := { seq := s.frameSeq, jpeg }
  {
    s with
    images := s.images.insert agent image
    frameSeq := s.frameSeq + 1
    received := (agent, image) :: s.received
  }

-- The bytes go with the frames of the cache.
def server (s : Alerting) (op : Op) (jpeg : List UInt8) : Alerting :=
  let app := s.app.exec op
  let s :=
    match op with
    | .frame agent conn _ _ => if s.accepts agent conn then s.receive agent jpeg else s
    | _ => s
  { s with app, images := Table.retain (fun agent _ => (app.frames.lookup agent).isSome) s.images }

def fire (s : Alerting) (agent : Uuid) (event : Nat) (takeScreenshot : Bool) : Alerting :=
  if takeScreenshot then
    { s with shots := s.shots ++ [{ agent, event, phase := .starting }] }
  else
    s

def setShot (s : Alerting) (i : Nat) (shot : Shot) : Alerting :=
  { s with shots := s.shots.set i shot }

def endShot (s : Alerting) (i : Nat) : Alerting :=
  { s with shots := s.shots.eraseIdx i }

def start (s : Alerting) (i : Nat) (shot : Shot) : Alerting :=
  if s.app.cmds shot.agent = none then
    s.endShot i
  else
    let prevSeq := (s.images.lookup shot.agent).elim 0 Image.seq
    match s.app.trySendCommand shot.agent startCaptureDefault with
    | (false, app) => { s with app }.endShot i
    | (true, app) =>
      { s with app }.setShot i { shot with phase := .waiting prevSeq (s.now + screenshotWait) }

def wait (s : Alerting) (i : Nat) (shot : Shot) (prevSeq deadline : Nat) : Alerting :=
  if deadline ≤ s.now then
    s.setShot i { shot with phase := .finishing none }
  else
    match s.images.lookup shot.agent with
    | none => s
    | some image =>
      if prevSeq < image.seq ∧ image.jpeg ≠ [] then
        s.setShot i { shot with phase := .finishing (some image.jpeg) }
      else
        s

-- Whether the capture could be stopped makes no difference.
def finish (s : Alerting) (i : Nat) (shot : Shot) (jpeg : Option (List UInt8)) (stored : Bool) : Alerting :=
  let s := { s with app := (s.app.trySendCommand shot.agent stopCapture).2 }.endShot i
  match jpeg with
  | none => s
  | some jpeg =>
    if stored then { s with screenshots := s.screenshots.insert shot.event jpeg } else s

def resume (s : Alerting) (i : Nat) (stored : Bool) : Alerting :=
  match s.shots[i]? with
  | none => s
  | some shot =>
    match shot.phase with
    | .starting => s.start i shot
    | .waiting prevSeq deadline => s.wait i shot prevSeq deadline
    | .finishing jpeg => s.finish i shot jpeg stored

def step (s : Alerting) : Action → Alerting
  | .server op jpeg => s.server op jpeg
  | .elapse ms => { s with now := s.now + ms }
  | .fire agent event takeScreenshot => s.fire agent event takeScreenshot
  | .resume i stored => s.resume i stored

end Alerting

def Action.op? : Action → Option Op
  | .server op _ => some op
  | _ => none

/-!
What is promised of a screenshot.
-/

/--
The agent is connected, may be asked for its screen, and sends a frame before the wait is over.
-/
structure Answered (fired : Alerting) (agent : Uuid) (during : List Action) : Prop where
  connected : fired.app.cmds agent ≠ none
  authorized : ∃ command, fired.app.authorizeAgentCommand agent startCaptureDefault = .ok command
  frame : ∃ before conn geometry time jpeg after,
    during = before ++ .server (.frame agent conn geometry time) jpeg :: after
      ∧ (Runs.exec Alerting.step fired before).accepts agent conn
      ∧ (Runs.exec Alerting.step fired before).now < fired.now + screenshotWait
      ∧ jpeg ≠ []

/--
The screenshot of an event is a frame that the agent sent after it, and the server is as it would be without
alerts.
-/
structure Kept (fired s : Alerting) (agent : Uuid) (event : Nat) (undisturbed : AppState) : Prop where
  stored : ∃ image, s.screenshots.lookup event = some image.jpeg ∧ (agent, image) ∈ s.received
    ∧ fired.frameSeq ≤ image.seq
  undisturbed : s.app = undisturbed

/-!
No task gets beyond its start.
-/

theorem trySendCommand_capture {cmd : Json} (h : cmd.kind = "start_capture" ∨ cmd.kind = "stop_capture")
    (s : AppState) (agent : Uuid) : s.trySendCommand agent cmd = (false, s) := by
  have herror : ∃ e, s.authorizeSend agent cmd = .error e := by
    unfold AppState.authorizeSend
    split
    . exact ⟨_, rfl⟩
    . rw [if_pos h]
      exact ⟨_, rfl⟩
  rcases herror with ⟨e, he⟩
  unfold AppState.trySendCommand
  rw [he]

structure Unserved (s : Alerting) : Prop where
  starting : ∀ shot ∈ s.shots, shot.phase = .starting
  screenshots : s.screenshots = ∅

theorem start_eq (s : Alerting) (i : Nat) (shot : Shot) : s.start i shot = s.endShot i := by
  unfold Alerting.start
  split
  . rfl
  . rw [trySendCommand_capture (.inl rfl)]

theorem server_shots (s : Alerting) (op : Op) (jpeg : List UInt8)
    : (s.server op jpeg).shots = s.shots ∧ (s.server op jpeg).screenshots = s.screenshots := by
  unfold Alerting.server
  dsimp only
  split
  . split
    . exact ⟨rfl, rfl⟩
    . exact ⟨rfl, rfl⟩
  . exact ⟨rfl, rfl⟩

theorem resume_eq {s : Alerting} (h : Unserved s) (i : Nat) (stored : Bool)
    : s.resume i stored = s.endShot i := by
  unfold Alerting.resume
  cases hshot : s.shots[i]? with
  | none =>
    rw [Alerting.endShot, List.eraseIdx_of_length_le (List.getElem?_eq_none_iff.mp hshot)]
  | some shot =>
    dsimp only
    rw [h.starting shot (List.mem_of_getElem? hshot)]
    exact start_eq s i shot

theorem Unserved.step {s : Alerting} (h : Unserved s) {a : Action} : Unserved (s.step a) := by
  cases a with
  | server op jpeg =>
    have hshots := server_shots s op jpeg
    refine ⟨?_, hshots.2.trans h.screenshots⟩
    intro shot hshot
    exact h.starting shot (hshots.1 ▸ hshot)
  | elapse ms => exact ⟨h.starting, h.screenshots⟩
  | fire agent event takeScreenshot =>
    unfold Alerting.step Alerting.fire
    dsimp only
    split
    . refine ⟨?_, h.screenshots⟩
      intro shot hshot
      rcases List.mem_append.mp hshot with hshot | hshot
      . exact h.starting shot hshot
      . rw [List.mem_singleton.mp hshot]
    . exact h
  | resume i stored =>
    unfold Alerting.step
    dsimp only
    rw [resume_eq h]
    exact ⟨fun shot hshot => h.starting shot (List.mem_of_mem_eraseIdx hshot), h.screenshots⟩

theorem app_step {s : Alerting} (h : Unserved s) (a : Action)
    : (s.step a).app = (a.op?).elim s.app s.app.exec := by
  cases a with
  | server op jpeg => rfl
  | elapse ms => rfl
  | fire agent event takeScreenshot =>
    unfold Alerting.step Alerting.fire
    dsimp only
    split
    . rfl
    . rfl
  | resume i stored =>
    unfold Alerting.step
    dsimp only
    rw [resume_eq h]
    rfl

theorem init_unserved (app : AppState) : Unserved (.init app) :=
  ⟨by simp [Alerting.init], rfl⟩

theorem run_unserved (app : AppState) (actions : List Action)
    : Unserved (Runs.exec Alerting.step (.init app) actions) :=
  Runs.exec_inv (fun h => h.step) (init_unserved app) actions

-- Without the alerts the server would be in the same state.
theorem app_exec {s : Alerting} (h : Unserved s) (actions : List Action)
    : (Runs.exec Alerting.step s actions).app = s.app.run (actions.filterMap Action.op?) := by
  induction actions generalizing s with
  | nil => rfl
  | cons a actions ih =>
    have happ := app_step h a
    change (Runs.exec Alerting.step (s.step a) actions).app = _
    rw [ih h.step, happ, List.filterMap_cons]
    cases a.op? with
    | none => rfl
    | some op => rfl

/--
In every run, the screenshot that is promised for an event is not stored. The live views, the captures and
the leases are those of the run without alerts.
-/
theorem screenshot_never_kept (app : AppState) (before during : List Action) (agent : Uuid) (event : Nat)
    : let fired := Runs.exec Alerting.step (.init app) (before ++ [.fire agent event true])
      let s := Runs.exec Alerting.step fired during
      let undisturbed := app.run ((before ++ during).filterMap Action.op?)
      ¬Kept fired s agent event undisturbed ∧ s.app = undisturbed := by
  have hfired := run_unserved app (before ++ [.fire agent event true])
  dsimp only
  rw [← Runs.exec_append]
  constructor
  . intro h
    rcases h.stored with ⟨image, hlookup, _⟩
    rw [(run_unserved app _).screenshots, AList.lookup_empty] at hlookup
    cases hlookup
  . rw [app_exec (init_unserved app)]
    simp only [List.append_assoc, List.filterMap_append, List.filterMap_cons, List.filterMap_nil, Action.op?]
    rfl

namespace Example

-- The screen of the agent is viewed when the alert fires.
def before : List Action :=
  Vantyr.Example.viewed.map (fun op => .server op [])

def frame : Action :=
  .server (.frame 1 2 (some Vantyr.Example.geometry) 0) [0xff, 0xd8]

def during : List Action :=
  [.resume 0 true, .elapse 100, frame, .elapse 100, .resume 0 true, .resume 0 true]

def fired : Alerting :=
  Runs.exec Alerting.step (.init .init) (before ++ [.fire 1 7 true])

theorem authorized : ∃ command, fired.app.authorizeAgentCommand 1 startCaptureDefault = .ok command := by
  have hok : (fired.app.authorizeAgentCommand 1 startCaptureDefault).toOption.isSome = true := by
    decide +kernel
  cases hauth : fired.app.authorizeAgentCommand 1 startCaptureDefault with
  | error e =>
    rw [hauth] at hok
    cases hok
  | ok command => exact ⟨command, rfl⟩

theorem answered : Answered fired 1 during where
  connected := by decide +kernel
  authorized := authorized
  frame := ⟨[.resume 0 true, .elapse 100], 2, some Vantyr.Example.geometry, 0, [0xff, 0xd8],
    [.elapse 100, .resume 0 true, .resume 0 true], rfl, by decide +kernel, by decide +kernel, by decide⟩

end Example

theorem answered_alert_not_kept
    : ¬∀ (app : AppState) (before during : List Action) (agent : Uuid) (event : Nat),
        let fired := Runs.exec Alerting.step (.init app) (before ++ [.fire agent event true])
        let s := Runs.exec Alerting.step fired during
        Answered fired agent during → s.shots = [] →
          Kept fired s agent event (app.run ((before ++ during).filterMap Action.op?)) := by
  intro h
  have hkept := h .init Example.before Example.during 1 7 Example.answered (by decide +kernel)
  rcases hkept.stored with ⟨image, hlookup, _⟩
  rw [← Runs.exec_append, (run_unserved .init _).screenshots, AList.lookup_empty] at hlookup
  cases hlookup

end Screenshots

end Vantyr
