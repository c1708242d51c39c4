import Vantyr.Agent.Permissions
import Vantyr.Server.Invariant

/-!
This module contains what the coherence of the tables means for the connections of an agent and for
the captures that leases freeze.
-/

namespace Vantyr

/-!
A run in which an operator opens a live view of an agent and takes control of it.
-/

namespace Example

def grants : Permissions.State :=
  Permissions.State.default.run [.localSet .liveScreen true, .localSet .remoteInput true]

def geometry : Geometry where
  value := .object [
    ("capture_id", .string (Uuid.text 8)),
    ("desktop", .object [
      ("physical_height", .ofNat 600),
      ("physical_width", .ofNat 800),
      ("x", .ofNat 0),
      ("y", .ofNat 0)
    ]),
    ("frame_height", .ofNat 600),
    ("frame_width", .ofNat 800),
    ("geometry_revision", .ofNat 1),
    ("monitor_index", .ofNat 0)
  ]
  checked := by decide

def operator : AuthUser :=
  { userId := 4, isOperator := true }

def acquire : Json :=
  .object [
    ("agent_id", .string (Uuid.text 1)),
    ("capture_session", .string (Uuid.text 3)),
    ("request_id", .string (Uuid.text 9)),
    ("type", .string "control_acquire")
  ]

def viewed : List Op := [
  .register 1 true 2,
  .provideRoom (List.replicate 8 true),
  .moduleReport 1 2 (grants.wire (fun _ => true)),
  .beginSession 1 3 4 { jpegQuality := 80, intervalMs := 100, monitor := none } none 0 5
]

def controlled : List Op :=
  viewed ++ [
    .deliver 2 0,
    .frame 1 2 (some geometry) 0,
    .leaseMessage 6 operator acquire 0 7
  ]

theorem reachable_controlled : Reachable (AppState.init.run controlled) :=
  AppState.reachable_run (by decide +kernel)

end Example

/-!
Connections.
-/

theorem cleanupConnection_stale {s : AppState} {agent conn : Uuid} (hs : Coherent s)
    (hconn : s.connId? agent ≠ some conn)
    : s.cleanupConnection agent conn = s.clearCaptureConnection agent conn := by
  unfold AppState.cleanupConnection
  rw [AppState.revokeAgentControl_of_ne hs hconn]
  simp only
  rw [if_neg]
  rw [(AppState.clearCaptureConnection_stale hs hconn).connId?]
  exact hconn

theorem clearCaptureConnection_frames {s : AppState} {agent conn : Uuid} (hs : Coherent s)
    (hconn : s.connId? agent ≠ some conn)
    : (s.clearCaptureConnection agent conn).frames = s.frames := by
  have hactive := AppState.active_stale hs hconn
  unfold AppState.clearCaptureConnection
  simp only [AppState.setViewers]
  split <;> simp [hactive]

/--
The registry of connections, the senders and the module states agree with each other, and cleaning up
after a connection that is not the registered one changes nothing that belongs to the agent.
-/
theorem registry_coherent {s : AppState} (h : Reachable s)
    : (∀ agent, (s.connections agent).isSome = (s.cmds agent).isSome
        ∧ s.cmds agent = s.connId? agent)
      ∧ (∀ agent runtime, s.modules agent = some runtime → s.connId? agent = some runtime.connId)
      ∧ ∀ agent conn, s.connId? agent ≠ some conn →
        (s.cleanupConnection agent conn).connections = s.connections
          ∧ (s.cleanupConnection agent conn).cmds = s.cmds
          ∧ (s.cleanupConnection agent conn).sockets = s.sockets
          ∧ (s.cleanupConnection agent conn).modules = s.modules
          ∧ (s.cleanupConnection agent conn).sessions = s.sessions
          ∧ (s.cleanupConnection agent conn).capture = s.capture
          ∧ (s.cleanupConnection agent conn).mjpegSessions = s.mjpegSessions
          ∧ (s.cleanupConnection agent conn).activeCapture = s.activeCapture
          ∧ (s.cleanupConnection agent conn).frames = s.frames := by
  have hs := h.coherent
  refine ⟨?_, hs.modules, ?_⟩
  . intro agent
    have hcmds := hs.cmds agent
    refine ⟨?_, hcmds⟩
    rw [hcmds, AppState.connId?, Option.isSome_map]
  . intro agent conn hconn
    have hcleared := s.clearCaptureConnection_spec agent conn
    have hsame := AppState.clearCaptureConnection_stale hs hconn
    rw [cleanupConnection_stale hs hconn]
    refine ⟨hcleared.connections, hcleared.cmds, hcleared.sockets, hcleared.modules,
      hcleared.sessions, hcleared.capture, ?_, hsame.activeCapture,
      clearCaptureConnection_frames hs hconn⟩
    rw [hcleared.mjpegSessions]
    exact AppState.retain_stale hs hconn

-- The first connection of the agent is replaced, and cleaned up after late.
theorem registry_coherent_replaced
    : ((AppState.init.run (Example.controlled ++ [.register 1 true 10])).cleanupConnection 1
        2).cmds 1 = some 10 := by
  have hrun : AppState.init.freshRun (Example.controlled ++ [.register 1 true 10]) = true
      ∧ (AppState.init.run (Example.controlled ++ [.register 1 true 10])).connId? 1 = some 10 := by
    decide +kernel
  rcases hrun with ⟨hfresh, hconn⟩
  have hcoherent := registry_coherent (AppState.reachable_run hfresh)
  rw [(hcoherent.2.2 1 2 (by rw [hconn]; decide)).2.1, (hcoherent.1 1).2, hconn]

/-!
Frozen captures.
-/

/--
A capture is frozen exactly as long as there is a lease, for the owner of that lease and a live view
session of its user on the connection of the agent.
-/
theorem lease_coherent {s : AppState} (h : Reachable s) (agent : Uuid)
    : ((s.capture agent).isSome ↔ (s.sessions.lookup agent).isSome)
      ∧ ∀ lease, s.sessions.lookup agent = some lease →
        s.connId? agent = some lease.grant.owner.agentConnectionId
          ∧ ∃ frozen, s.capture agent = some frozen
            ∧ frozen.owner = lease.grant.owner
            ∧ (∃ session, s.mjpegSessions.lookup frozen.sessionId = some session
              ∧ session.agentId = agent
              ∧ session.userId = lease.grant.owner.userId
              ∧ session.connId = lease.grant.owner.agentConnectionId)
            ∧ ∀ active, s.activeCapture agent = some active →
              active.connId = lease.grant.owner.agentConnectionId →
              active.prefs = frozen.active.prefs := by
  have hs := h.coherent
  constructor
  . cases hlease : s.sessions.lookup agent with
    | none => simp [hs.unfrozen agent hlease]
    | some lease =>
      rcases hs.frozen agent lease hlease with ⟨frozen, hfrozen, _⟩
      simp [hfrozen]
  . intro lease hlease
    refine ⟨hs.lease agent lease hlease, ?_⟩
    rcases hs.frozen agent lease hlease with ⟨frozen, hfrozen, howner, _, hsession, hactive⟩
    refine ⟨frozen, hfrozen, howner, hsession, ?_⟩
    intro active h _
    exact hactive active h

theorem lease_coherent_controlled
    : ((AppState.init.run Example.controlled).capture 1).isSome := by
  rw [(lease_coherent Example.reachable_controlled 1).1]
  decide +kernel

-- The session a capture is frozen for is bound to a connection of the agent, not of the viewer.
theorem session_not_of_viewer
    : ¬ ∀ s, Reachable s → ∀ agent lease frozen session,
      s.sessions.lookup agent = some lease →
      s.capture agent = some frozen →
      s.mjpegSessions.lookup frozen.sessionId = some session →
      session.connId = lease.grant.owner.viewerConnectionId := by
  intro h
  have hreachable := Example.reachable_controlled
  have howner : ((AppState.init.run Example.controlled).sessions.lookup 1).map
      (fun lease => lease.grant.owner)
        = some { viewerConnectionId := 6, userId := 4, agentConnectionId := 2 } := by
    decide +kernel
  rw [Option.map_eq_some_iff] at howner
  rcases howner with ⟨lease, hlease, howner⟩
  rcases hreachable.coherent.frozen 1 lease hlease with
    ⟨frozen, hfrozen, _, _, ⟨session, hsession, _, _, hconn⟩, _⟩
  have := h _ hreachable 1 lease frozen session hlease hfrozen hsession
  rw [hconn, howner] at this
  revert this
  decide

end Vantyr
