import Vantyr.Server.State

/-!
This module contains the arbitration of live captures, `server/src/control/capture_arbitration.rs`:
the live view sessions of an agent, the one capture that is active for all of them, and the selection
a control lease freezes.
-/

namespace Vantyr

def captureDenied (code message : String) : CommandDenied :=
  { code, error := message, module := some .liveScreen }

namespace AppState

def validateControlCapture (s : AppState) (agent : Uuid) (owner : LeaseOwner) (value : Json)
    (now : Nat) : Except CommandDenied FrozenCapture :=
  match s.authorizeAgentCommand agent startCaptureDefault with
  | .error e => .error e
  | .ok _ =>
  match (value.field "capture_session").asStr.bind Uuid.parse with
  | none => .error (captureDenied "capture_session_required"
      "Open a live stream and supply its session UUID as capture_session.")
  | some session =>
  match (s.mjpegSessions.lookup session).filter (fun mapped =>
      mapped.agentId = agent
        ∧ mapped.userId = owner.userId
        ∧ mapped.connId = owner.agentConnectionId) with
  | none => .error (captureDenied "capture_session_stale"
      "Live stream is missing, belongs to another user, or uses an old connection; reopen it.")
  | some mapped =>
  match (s.activeCapture agent).filter (fun active =>
      active.connId = owner.agentConnectionId ∧ active.prefs.monitor = mapped.prefs.monitor) with
  | none => .error (captureDenied "capture_selection_stale"
      "Live display selection changed; reopen the requested stream before acquiring control.")
  | some active =>
  match (s.frames.lookup agent).filter (fun frame => now - frame.lastUpdate ≤ 10 * 10 ^ 9) with
  | none => .error (captureDenied "capture_frame_required"
      "Wait for a fresh live frame before acquiring control.")
  | some frame =>
  match frame.geometry with
  | none => .error (captureDenied "capture_geometry_required"
      "Live frame has no verified physical desktop geometry. This capture is view-only until the agent provides valid geometry.")
  | some geometry =>
    if ((value.get? "capture_id").isSome ∨ (value.get? "geometry_revision").isSome)
        ∧ (value.field "capture_id" ≠ geometry.value.field "capture_id"
          ∨ value.field "geometry_revision" ≠ geometry.value.field "geometry_revision") then
      .error (captureDenied "capture_geometry_stale"
        "Displayed frame geometry changed; wait for the current frame before acquiring control.")
    else if active.retiredCaptureIds.contains geometry.captureId then
      .error (captureDenied "capture_frame_pending"
        "Wait for a frame from the new capture session before acquiring control.")
    else if active.prefs.monitor.any (fun monitor => monitor ≠ geometry.monitorIndex) then
      .error (captureDenied "capture_selection_stale"
        "Agent frame does not match the requested display; wait for its new frame.")
    else
      .ok {
        owner
        sessionId := session
        active := {
          active with prefs := { active.prefs with monitor := some geometry.monitorIndex }
        }
      }

-- Sessions that did not ask for a certain monitor follow the one that was pinned.
def pinMonitor (agent conn : Uuid) (monitor : Option Nat) (session : MjpegSession) : MjpegSession :=
  if session.agentId = agent ∧ session.connId = conn ∧ session.requestedMonitor = none then
    { session with prefs := { session.prefs with monitor } }
  else
    session

def commitControlCapture (s : AppState) (agent : Uuid) (frozen : FrozenCapture) : AppState :=
  match (s.activeCapture agent).filter (fun active =>
      active.connId = frozen.active.connId ∧ active.prefs.monitor = none) with
  | none => s
  | some active =>
    let monitor := frozen.active.prefs.monitor
    {
      s with
      activeCapture := Function.update s.activeCapture agent
        (some { active with prefs := { active.prefs with monitor } })
      mjpegSessions := Table.mapValues (pinMonitor agent frozen.active.connId monitor)
        s.mjpegSessions
    }

def enqueueCapture (s : AppState) (agent conn : Uuid) (cmd : Json) (generation : Option Uuid)
    : Except CommandDenied Unit × AppState :=
  match s.authorizeAgentCommand agent cmd with
  | .error e => (.error e, s)
  | .ok command =>
    let tag := Json.string (generation.elim "stopped" Uuid.text)
    match s.enqueueAuthorizedCommand agent conn (command.setField "__capture_generation" tag)
        .command with
    | (.ok (), s) => (.ok (), s)
    | (.error e, s) =>
      (.error e, if s.connId? agent = some conn then s.shutdown conn "" else s)

def setActive (s : AppState) (agent : Uuid) (active : Option ActiveCapture) : AppState :=
  { s with activeCapture := Function.update s.activeCapture agent active }

-- The preferences all sessions of an agent are served with, unless a lease froze them.
def mergedPrefs (s : AppState) (agent conn : Uuid) (selection : Option Nat)
    (first : MjpegSession) (rest : List MjpegSession) : MjpegViewerPrefs :=
  match (s.capture agent).filter (fun frozen => frozen.active.connId = conn) with
  | some frozen => frozen.active.prefs
  | none => {
      monitor := selection
      jpegQuality := (rest.map (fun session => session.prefs.jpegQuality)).foldl max
        first.prefs.jpegQuality
      intervalMs := (rest.map (fun session => session.prefs.intervalMs)).foldl min
        first.prefs.intervalMs
    }

def retireObserved (s : AppState) (agent conn : Uuid) : RetiredCaptures :=
  let ids := ((s.retiredCaptures agent).filter (fun entry => entry.1 = conn)).elim [] Prod.snd
  match ((s.frames.lookup agent).bind Frame.geometry).map Geometry.captureId with
  | some id => if ids.contains id then ids else (id :: ids).take 32
  | none => ids

def restartCapture (s : AppState) (agent conn : Uuid) (prefs : MjpegViewerPrefs)
    (wireMonitor : Option Nat) (fresh : Uuid) : Except CommandDenied Unit × AppState :=
  let retiredCaptureIds := s.retireObserved agent conn
  let s := {
    s with
    retiredCaptures := Function.update s.retiredCaptures agent (some (conn, retiredCaptureIds))
    minted := fresh :: s.minted
  }
  let active := { connId := conn, prefs, wireMonitor, generation := fresh, retiredCaptureIds }
  let cmd := startCapture wireMonitor prefs.jpegQuality prefs.intervalMs
  match s.enqueueCapture agent conn cmd (some fresh) with
  | (.error e, s) => (.error e, s)
  | (.ok (), s) => (.ok (), { s with frames := s.frames.erase agent }.setActive agent (some active))

def syncCapture (s : AppState) (agent : Uuid) (requested : Option (Option Nat)) (fresh : Uuid)
    : Except CommandDenied Unit × AppState :=
  let conn := s.openConn? agent
  let sessions := (Table.values s.mjpegSessions).filter
    (fun session => session.agentId = agent ∧ some session.connId = conn)
  let old := s.activeCapture agent
  match sessions, conn with
  | [], _ =>
    match old.filter (fun active => some active.connId = conn) with
    | some old =>
      match s.enqueueCapture agent old.connId stopCapture none with
      | (.error e, s) => (.error e, s)
      | (.ok (), s) => (.ok (), s.setActive agent none)
    | none => (.ok (), s.setActive agent none)
  | _ :: _, none => (.ok (), s)
  | first :: rest, some conn =>
    let current := old.filter (fun active => active.connId = conn)
    let selection := requested.getD
      (current.elim first.prefs.monitor (fun active => active.prefs.monitor))
    let prefs := s.mergedPrefs agent conn selection first rest
    let wireMonitor :=
      match current.filter (fun active => active.prefs.monitor = prefs.monitor) with
      | some active => active.wireMonitor
      | none =>
        ((first :: rest).find? (fun session => session.prefs.monitor = prefs.monitor)).elim
          prefs.monitor MjpegSession.requestedMonitor
    if current.any (fun active =>
        active.prefs = prefs ∧ active.wireMonitor = wireMonitor ∧ active.generation ≠ Uuid.nil) then
      (.ok (), s)
    else
      s.restartCapture agent conn prefs wireMonitor fresh

def syncMjpegCapture (s : AppState) (agent : Uuid) (fresh : Uuid) : AppState :=
  (s.syncCapture agent none fresh).2

def sessionCount (s : AppState) (agent : Uuid) : Nat :=
  ((Table.values s.mjpegSessions).filter (fun session => session.agentId = agent)).length

def setViewers (s : AppState) (agent : Uuid) (count : Nat) : AppState :=
  {
    s with
    captureViewers := Function.update s.captureViewers agent (if count = 0 then none else some count)
  }

-- Sessions that did not ask for a monitor join the one a default capture was pinned to.
def joinedPrefs (s : AppState) (agent conn : Uuid) (prefs : MjpegViewerPrefs)
    (requestedMonitor : Option Nat) : MjpegViewerPrefs :=
  if prefs.monitor = none ∧ requestedMonitor = none then
    match (s.activeCapture agent).filter
        (fun active => active.connId = conn ∧ active.wireMonitor = none) with
    | some active => { prefs with monitor := active.prefs.monitor }
    | none => prefs
  else
    prefs

def admitMjpegSession (s : AppState) (agent conn session user : Uuid) (prefs : MjpegViewerPrefs)
    (requestedMonitor : Option Nat) (fresh : Uuid) : Except CommandDenied Unit × AppState :=
  let count := (s.captureViewers agent).getD 0
  if 256 ≤ count ∨ 4096 ≤ s.mjpegSessions.entries.length then
    (.error (captureDenied "capture_viewer_limit"
      "Too many live stream sessions; close an existing stream first."), s)
  else
    let mapped := { requestedMonitor, agentId := agent, userId := user, connId := conn, prefs }
    let s := { s with mjpegSessions := s.mjpegSessions.insert session mapped }
    match (s.setViewers agent (count + 1)).syncCapture agent (some prefs.monitor) fresh with
    | (.ok (), s) => (.ok (), s)
    | (.error e, s) =>
      (.error e, { s with mjpegSessions := s.mjpegSessions.erase session }.setViewers agent count)

def beginMjpegSession (s : AppState) (agent session user : Uuid) (prefs : MjpegViewerPrefs)
    (requestedMonitor : Option Nat) (now : Nat) (fresh : Uuid)
    : Except CommandDenied Unit × AppState :=
  let s := s.expireControl now
  match s.openConn? agent with
  | none => (.error (captureDenied "agent_offline" "Agent is offline or closing."), s)
  | some conn =>
  match s.authorizeAgentCommand agent startCaptureDefault with
  | .error e => (.error e, s)
  | .ok _ =>
    if (s.mjpegSessions.lookup session).isSome then
      (.error (captureDenied "duplicate_capture_session"
        "Use a fresh session UUID for each live stream."), s)
    else
      let prefs := s.joinedPrefs agent conn prefs requestedMonitor
      if (s.capture agent).any (fun frozen =>
          frozen.active.connId ≠ conn ∨ frozen.active.prefs.monitor ≠ prefs.monitor) then
        (.error (captureDenied "capture_selection_locked"
          "Another live control lease freezes the display. Release control, change the stream monitor, then reacquire."), s)
      else
        s.admitMjpegSession agent conn session user prefs requestedMonitor fresh

def endMjpegSession (s : AppState) (agent session : Uuid) (user : Option Uuid) (fresh : Uuid)
    : Bool × AppState :=
  match (s.mjpegSessions.lookup session).filter
      (fun mapped => mapped.agentId = agent ∧ user.all (fun user => user = mapped.userId)) with
  | none => (false, s)
  | some mapped =>
    let frozen := (s.capture agent).any (fun capture => capture.sessionId = session)
    let s := { s with mjpegSessions := s.mjpegSessions.erase session }
    let s := if frozen then s.revokeAgentControl agent mapped.connId else s
    let s := s.setViewers agent (s.sessionCount agent)
    (true, (s.syncCapture agent none fresh).2)

def clearCaptureConnection (s : AppState) (agent conn : Uuid) : AppState :=
  let s :=
    if (s.retiredCaptures agent).any (fun entry => entry.1 = conn) then
      { s with retiredCaptures := Function.update s.retiredCaptures agent none }
    else
      s
  let s := {
    s with
    mjpegSessions := Table.retain
      (fun _ session => session.agentId ≠ agent ∨ session.connId ≠ conn) s.mjpegSessions
  }
  let s := s.setViewers agent (s.sessionCount agent)
  if (s.activeCapture agent).any (fun active => active.connId = conn) then
    { s with frames := s.frames.erase agent }.setActive agent none
  else
    s

end AppState

end Vantyr
