import Vantyr.Server.Actions

/-!
This module proves that the tables of the server belong together as `Coherent` says in every state
between two actions.
-/

namespace Vantyr

namespace AppState

theorem agent_update {s : AppState} {conn : Uuid} {socket : Socket}
    (h : socket.agent = (s.sockets conn).agent) (other : Uuid)
    : (Function.update s.sockets conn socket other).agent = (s.sockets other).agent := by
  by_cases hother : other = conn
  . subst hother
    rw [Function.update_self, h]
  . rw [Function.update_of_ne hother]

theorem connId?_of_openConn? {s : AppState} {agent conn : Uuid} (h : s.openConn? agent = some conn)
    : s.connId? agent = some conn ∧ s.closing conn = false := by
  unfold openConn? at h
  rw [Option.filter_eq_some_iff] at h
  exact ⟨h.1, by simpa using h.2⟩

theorem commitControlCapture_cases (s : AppState) (agent : Uuid) (frozen : FrozenCapture)
    : (s.commitControlCapture agent frozen = s
        ∧ ∀ active, s.activeCapture agent = some active →
          active.connId = frozen.active.connId → active.prefs.monitor ≠ none)
      ∨ ∃ active,
        s.activeCapture agent = some active
          ∧ active.connId = frozen.active.connId
          ∧ active.prefs.monitor = none
          ∧ s.commitControlCapture agent frozen = {
            s with
            activeCapture := Function.update s.activeCapture agent (some {
              active with
              prefs := { active.prefs with monitor := frozen.active.prefs.monitor }
            })
            mjpegSessions := Table.mapValues
              (pinMonitor agent frozen.active.connId frozen.active.prefs.monitor) s.mjpegSessions
          } := by
  unfold commitControlCapture
  split
  . next h =>
    rw [Option.filter_eq_none_iff] at h
    refine Or.inl ⟨rfl, ?_⟩
    intro active hactive hconn hmonitor
    have := h active hactive
    simp [hconn, hmonitor] at this
  . next active h =>
    rw [Option.filter_eq_some_iff] at h
    simp only [decide_eq_true_eq] at h
    exact Or.inr ⟨active, h.1, h.2.1, h.2.2, rfl⟩

theorem pinMonitor_agentId (agent conn : Uuid) (monitor : Option Nat) (session : MjpegSession)
    : (pinMonitor agent conn monitor session).agentId = session.agentId := by
  unfold pinMonitor
  split <;> rfl

theorem pinMonitor_userId (agent conn : Uuid) (monitor : Option Nat) (session : MjpegSession)
    : (pinMonitor agent conn monitor session).userId = session.userId := by
  unfold pinMonitor
  split <;> rfl

theorem pinMonitor_connId (agent conn : Uuid) (monitor : Option Nat) (session : MjpegSession)
    : (pinMonitor agent conn monitor session).connId = session.connId := by
  unfold pinMonitor
  split <;> rfl

section Commit

variable (s : AppState) (agent : Uuid) (frozen : FrozenCapture)

@[simp]
theorem commitControlCapture_connections
    : (s.commitControlCapture agent frozen).connections = s.connections := by
  unfold commitControlCapture
  split <;> rfl

@[simp]
theorem commitControlCapture_modules
    : (s.commitControlCapture agent frozen).modules = s.modules := by
  unfold commitControlCapture
  split <;> rfl

@[simp]
theorem commitControlCapture_sockets
    : (s.commitControlCapture agent frozen).sockets = s.sockets := by
  unfold commitControlCapture
  split <;> rfl

@[simp]
theorem commitControlCapture_sessions
    : (s.commitControlCapture agent frozen).sessions = s.sessions := by
  unfold commitControlCapture
  split <;> rfl

@[simp]
theorem commitControlCapture_capture
    : (s.commitControlCapture agent frozen).capture = s.capture := by
  unfold commitControlCapture
  split <;> rfl

@[simp]
theorem commitControlCapture_inflight
    : (s.commitControlCapture agent frozen).inflight = s.inflight := by
  unfold commitControlCapture
  split <;> rfl

@[simp]
theorem commitControlCapture_minted
    : (s.commitControlCapture agent frozen).minted = s.minted := by
  unfold commitControlCapture
  split <;> rfl

@[simp]
theorem commitControlCapture_grants
    : (s.commitControlCapture agent frozen).grants = s.grants := by
  unfold commitControlCapture
  split <;> rfl

@[simp]
theorem commitControlCapture_cleanups
    : (s.commitControlCapture agent frozen).cleanups = s.cleanups := by
  unfold commitControlCapture
  split <;> rfl

end Commit

/-!
What becomes of a connection, once its lease is gone.
-/

theorem revokeAgentControl_of_lookup {s : AppState} {agent : Uuid}
    (h : s.sessions.lookup agent = none) (conn : Uuid) : s.revokeAgentControl agent conn = s := by
  simp only [revokeAgentControl, ControlSessions.revokeAgent, h, Option.any_none, settle]
  rfl

end AppState

structure CaptureCleared (s t : AppState) (agent conn : Uuid) : Prop where
  connections : t.connections = s.connections
  cmds : t.cmds = s.cmds
  modules : t.modules = s.modules
  sockets : t.sockets = s.sockets
  sessions : t.sessions = s.sessions
  capture : t.capture = s.capture
  mjpegSessions : t.mjpegSessions = Table.retain
    (fun _ session => session.agentId ≠ agent ∨ session.connId ≠ conn) s.mjpegSessions
  activeCapture : t.activeCapture
    = if (s.activeCapture agent).any (fun active => active.connId = conn) then
        Function.update s.activeCapture agent none
      else
        s.activeCapture
  inflight : t.inflight = s.inflight
  minted : t.minted = s.minted
  grants : t.grants = s.grants
  cleanups : t.cleanups = s.cleanups

theorem AppState.clearCaptureConnection_spec (s : AppState) (agent conn : Uuid)
    : CaptureCleared s (s.clearCaptureConnection agent conn) agent conn := by
  by_cases hretired : (s.retiredCaptures agent).any (fun entry => entry.1 = conn) = true
  all_goals
    by_cases hactive : (s.activeCapture agent).any (fun active => active.connId = conn) = true
    all_goals
      constructor
      all_goals
        simp only [clearCaptureConnection, hretired, hactive, setViewers, ↓reduceIte,
          Bool.false_eq_true] <;> rfl

theorem SameCore.refl (s : AppState) : SameCore s s := by
  constructor <;> simp

theorem SameCore.connId? {s t : AppState} (h : SameCore s t) (agent : Uuid)
    : t.connId? agent = s.connId? agent := by
  simp only [AppState.connId?, h.connections]

namespace Coherent

variable {s t : AppState} {agent : Uuid}

theorem same (h : Coherent s) (hsame : SameCore s t) : Coherent t where
  cmds := by
    intro agent
    rw [hsame.cmds, hsame.connId?]
    exact h.cmds agent
  modules := by
    intro agent runtime hruntime
    rw [hsame.modules] at hruntime
    rw [hsame.connId?]
    exact h.modules agent runtime hruntime
  agent := by
    intro agent conn hconn
    rw [hsame.connId?] at hconn
    rw [hsame.sockets]
    exact h.agent agent conn hconn
  minted := by
    intro agent conn hconn
    rw [hsame.connId?] at hconn
    exact hsame.minted (h.minted agent conn hconn)
  lease := by
    intro agent lease hlease
    rw [hsame.sessions] at hlease
    rw [hsame.connId?]
    exact h.lease agent lease hlease
  token := by
    intro agent lease hlease
    rw [hsame.sessions] at hlease
    exact hsame.minted (h.token agent lease hlease)
  session := by
    intro session mapped hmapped
    rw [hsame.mjpegSessions] at hmapped
    rw [hsame.connId?]
    exact h.session session mapped hmapped
  active := by
    intro agent active hactive
    rw [hsame.activeCapture] at hactive
    rw [hsame.connId?]
    exact h.active agent active hactive
  unfrozen := by
    intro agent hlease
    rw [hsame.sessions] at hlease
    rw [hsame.capture]
    exact h.unfrozen agent hlease
  pinned := by
    rw [hsame.capture]
    exact h.pinned
  frozen := by
    intro agent lease hlease
    rw [hsame.sessions] at hlease
    simp only [hsame.capture, hsame.mjpegSessions, hsame.activeCapture]
    exact h.frozen agent lease hlease
  inflight := by
    intro entry hentry
    exact h.inflight entry (hsame.inflight hentry)

theorem endLease (h : Coherent s) (agent : Uuid) (lease : Lease) (reason : TeardownReason)
    (count : Nat) : Coherent (s.endLease agent lease reason count) where
  cmds := h.cmds
  modules := h.modules
  agent := by
    intro other conn hconn
    have := h.agent other conn hconn
    rw [← this]
    change (Function.update s.sockets _ _ conn).agent = _
    apply AppState.agent_update
    rfl
  minted := h.minted
  lease := by
    intro other l hl
    simp only [AppState.endLease, Table.lookup_erase_eq] at hl
    split at hl
    . contradiction
    . exact h.lease other l hl
  token := by
    intro other l hl
    simp only [AppState.endLease, Table.lookup_erase_eq] at hl
    split at hl
    . contradiction
    . exact h.token other l hl
  session := h.session
  active := h.active
  unfrozen := by
    intro other hl
    simp only [AppState.endLease, Table.lookup_erase_eq] at hl ⊢
    by_cases hother : other = agent
    . subst hother
      rw [Function.update_self]
    . rw [if_neg hother] at hl
      rw [Function.update_of_ne hother]
      exact h.unfrozen other hl
  pinned := by
    intro other frozen hfrozen
    simp only [AppState.endLease, Function.update_apply] at hfrozen
    split at hfrozen
    . contradiction
    . exact h.pinned other frozen hfrozen
  frozen := by
    intro other l hl
    simp only [AppState.endLease, Table.lookup_erase_eq] at hl ⊢
    by_cases hother : other = agent
    . simp [hother] at hl
    . rw [if_neg hother] at hl
      rw [Function.update_of_ne hother]
      exact h.frozen other l hl
  inflight := h.inflight

-- A lease is replaced by one of the same owner.
theorem setLease {lease new : Lease} (h : Coherent s)
    (hlease : s.sessions.lookup agent = some lease) (howner : new.grant.owner = lease.grant.owner)
    (htoken : new.grant.token = lease.grant.token)
    : Coherent (s.setLease agent new) where
  cmds := h.cmds
  modules := h.modules
  agent := h.agent
  minted := h.minted
  lease := by
    intro other l hl
    simp only [AppState.setLease, Table.lookup_insert_eq] at hl
    split at hl
    . next heq =>
      cases hl
      rw [heq, howner]
      exact h.lease agent lease hlease
    . exact h.lease other l hl
  token := by
    intro other l hl
    simp only [AppState.setLease, Table.lookup_insert_eq] at hl
    split at hl
    . cases hl
      rw [htoken]
      exact h.token agent lease hlease
    . exact h.token other l hl
  session := h.session
  active := h.active
  unfrozen := by
    intro other hl
    simp only [AppState.setLease, Table.lookup_insert_eq] at hl
    split at hl
    . contradiction
    . exact h.unfrozen other hl
  pinned := h.pinned
  frozen := by
    intro other l hl
    simp only [AppState.setLease, Table.lookup_insert_eq] at hl
    split at hl
    . next heq =>
      cases hl
      rw [heq, howner]
      exact h.frozen agent lease hlease
    . exact h.frozen other l hl
  inflight := h.inflight

theorem modifySocket {conn : Uuid} {f : Socket → Socket} (h : Coherent s)
    (hagent : (f (s.sockets conn)).agent = (s.sockets conn).agent)
    : Coherent (s.modifySocket conn f) where
  cmds := h.cmds
  modules := h.modules
  agent := by
    intro other c hc
    simp only [AppState.modifySocket]
    rw [AppState.agent_update hagent]
    exact h.agent other c hc
  minted := h.minted
  lease := h.lease
  token := h.token
  session := h.session
  active := h.active
  unfrozen := h.unfrozen
  pinned := h.pinned
  frozen := h.frozen
  inflight := h.inflight

theorem push (h : Coherent s) (conn : Uuid) (item : Queued) : Coherent (s.push conn item) :=
  h.modifySocket rfl

theorem shutdown (h : Coherent s) (conn : Uuid) (reason : String)
    : Coherent (s.shutdown conn reason) :=
  h.modifySocket rfl

theorem setActive {active : Option ActiveCapture} (h : Coherent s)
    (hconn : ∀ new, active = some new → s.connId? agent = some new.connId)
    (hprefs : ∀ new frozen, active = some new → s.capture agent = some frozen →
      frozen.active.connId = new.connId → new.prefs = frozen.active.prefs)
    : Coherent (s.setActive agent active) where
  cmds := h.cmds
  modules := h.modules
  agent := h.agent
  minted := h.minted
  lease := h.lease
  token := h.token
  session := h.session
  active := by
    intro other new hnew
    simp only [AppState.setActive] at hnew
    by_cases hother : other = agent
    . subst hother
      rw [Function.update_self] at hnew
      exact hconn new hnew
    . rw [Function.update_of_ne hother] at hnew
      exact h.active other new hnew
  unfrozen := h.unfrozen
  pinned := h.pinned
  frozen := by
    intro other l hl
    rcases h.frozen other l hl with ⟨frozen, hfrozen, howner, hfconn, hmapped, hactive⟩
    refine ⟨frozen, hfrozen, howner, hfconn, hmapped, ?_⟩
    intro new hnew
    simp only [AppState.setActive] at hnew
    by_cases hother : other = agent
    . subst hother
      rw [Function.update_self] at hnew
      apply hprefs new frozen hnew hfrozen
      have := h.lease other l hl
      rw [hconn new hnew] at this
      rw [hfconn]
      simpa using this.symm
    . rw [Function.update_of_ne hother] at hnew
      exact hactive new hnew
  inflight := h.inflight

theorem minting (h : Coherent s) (id : Uuid) : Coherent { s with minted := id :: s.minted } := by
  apply h.same
  constructor <;> simp

theorem startActive {active : ActiveCapture} (h : Coherent s)
    (hopen : s.openConn? agent = some active.connId)
    (hfrozen : ∀ frozen, s.capture agent = some frozen →
      frozen.active.connId = active.connId → active.prefs = frozen.active.prefs) (command : Json)
    : Coherent (s.startActive agent active command) := by
  apply ((h.minting active.generation).push _ _).setActive
  . intro new hnew
    cases hnew
    exact (AppState.connId?_of_openConn? hopen).1
  . intro new frozen hnew hcapture hconn
    cases hnew
    exact hfrozen frozen hcapture hconn

theorem openSession {session : Uuid} {mapped : MjpegSession} (h : Coherent s)
    (hsession : s.mjpegSessions.lookup session = none)
    (hconn : s.connId? mapped.agentId = some mapped.connId)
    : Coherent { s with mjpegSessions := s.mjpegSessions.insert session mapped } where
  cmds := h.cmds
  modules := h.modules
  agent := h.agent
  minted := h.minted
  lease := h.lease
  token := h.token
  session := by
    intro other m hm
    simp only [Table.lookup_insert_eq] at hm
    split at hm
    . cases hm
      exact hconn
    . exact h.session other m hm
  active := h.active
  unfrozen := h.unfrozen
  pinned := h.pinned
  frozen := by
    intro other l hl
    rcases h.frozen other l hl with ⟨frozen, hfrozen, howner, hfconn, ⟨m, hm, hmapped⟩, hactive⟩
    refine ⟨frozen, hfrozen, howner, hfconn, ⟨m, ?_, hmapped⟩, hactive⟩
    rw [Table.lookup_insert_eq, if_neg]
    . exact hm
    . intro heq
      rw [heq, hsession] at hm
      contradiction
  inflight := h.inflight

theorem dropSession {session : Uuid} (h : Coherent s)
    (hfree : ∀ agent frozen, s.capture agent = some frozen → frozen.sessionId ≠ session)
    : Coherent { s with mjpegSessions := s.mjpegSessions.erase session } where
  cmds := h.cmds
  modules := h.modules
  agent := h.agent
  minted := h.minted
  lease := h.lease
  token := h.token
  session := by
    intro other m hm
    simp only [Table.lookup_erase_eq] at hm
    split at hm
    . contradiction
    . exact h.session other m hm
  active := h.active
  unfrozen := h.unfrozen
  pinned := h.pinned
  frozen := by
    intro other l hl
    rcases h.frozen other l hl with ⟨frozen, hfrozen, howner, hfconn, ⟨m, hm, hmapped⟩, hactive⟩
    refine ⟨frozen, hfrozen, howner, hfconn, ⟨m, ?_, hmapped⟩, hactive⟩
    rw [Table.lookup_erase_eq, if_neg (hfree other frozen hfrozen)]
    exact hm
  inflight := h.inflight

theorem setRuntime {runtime : RuntimeModules} (h : Coherent s)
    (hconn : s.connId? agent = some runtime.connId) : Coherent (s.setRuntime agent runtime) where
  cmds := h.cmds
  modules := by
    intro other r hr
    simp only [AppState.setRuntime] at hr
    by_cases hother : other = agent
    . subst hother
      rw [Function.update_self] at hr
      cases hr
      exact hconn
    . rw [Function.update_of_ne hother] at hr
      exact h.modules other r hr
  agent := h.agent
  minted := h.minted
  lease := h.lease
  token := h.token
  session := h.session
  active := h.active
  unfrozen := h.unfrozen
  pinned := h.pinned
  frozen := h.frozen
  inflight := h.inflight

theorem nilGeneration (h : Coherent s) (agent : Uuid) : Coherent (s.nilGeneration agent) := by
  apply h.setActive
  . intro new hnew
    rw [Option.map_eq_some_iff] at hnew
    rcases hnew with ⟨active, hactive, heq⟩
    subst heq
    exact h.active agent active hactive
  . intro new frozen hnew hcapture hconn
    rw [Option.map_eq_some_iff] at hnew
    rcases hnew with ⟨active, hactive, heq⟩
    subst heq
    cases hlease : s.sessions.lookup agent with
    | none => simp [h.unfrozen agent hlease] at hcapture
    | some lease =>
      rcases h.frozen agent lease hlease with ⟨frozen', hfrozen, _, _, _, hprefs⟩
      rw [hcapture] at hfrozen
      cases hfrozen
      exact hprefs active hactive

theorem publish {runtime : RuntimeModules} (h : Coherent s)
    (hconn : s.connId? agent = some runtime.connId) : Coherent (s.publish agent runtime) := by
  by_cases hchanged : s.revisionChanged agent .liveScreen runtime.report = true
  . have : s.publish agent runtime = (s.nilGeneration agent).setRuntime agent runtime := by
      simp only [AppState.publish, hchanged, ↓reduceIte]
      rfl
    rw [this]
    exact (h.nilGeneration agent).setRuntime hconn
  . have : s.publish agent runtime = s.setRuntime agent runtime := by
      simp only [AppState.publish, hchanged]
      rfl
    rw [this]
    exact h.setRuntime hconn

theorem launch {conn : Uuid} {command : Json} (h : Coherent s) (hplain : Plain command)
    : Coherent { s with inflight := (agent, conn, command) :: s.inflight } where
  cmds := h.cmds
  modules := h.modules
  agent := h.agent
  minted := h.minted
  lease := h.lease
  token := h.token
  session := h.session
  active := h.active
  unfrozen := h.unfrozen
  pinned := h.pinned
  frozen := h.frozen
  inflight := by
    intro entry hentry
    rw [List.mem_cons] at hentry
    cases hentry with
    | inl heq =>
      rw [heq]
      exact hplain
    | inr hmem => exact h.inflight entry hmem

theorem commitControlCapture (h : Coherent s) (hlease : s.sessions.lookup agent = none)
    (frozen : FrozenCapture) : Coherent (s.commitControlCapture agent frozen) := by
  rcases s.commitControlCapture_cases agent frozen with ⟨heq, _⟩ | ⟨active, hactive, _, _, heq⟩
  . rw [heq]
    exact h
  . rw [heq]
    exact {
      cmds := h.cmds
      modules := h.modules
      agent := h.agent
      minted := h.minted
      lease := h.lease
      token := h.token
      session := by
        intro session mapped hmapped
        simp only [Table.lookup_mapValues, Option.map_eq_some_iff] at hmapped
        rcases hmapped with ⟨mapped', hmapped', hpin⟩
        subst hpin
        rw [AppState.pinMonitor_agentId, AppState.pinMonitor_connId]
        exact h.session session mapped' hmapped'
      active := by
        intro other new hnew
        by_cases hother : other = agent
        . subst hother
          simp only [Function.update_self, Option.some.injEq] at hnew
          subst hnew
          exact h.active other active hactive
        . simp only [Function.update_of_ne hother] at hnew
          exact h.active other new hnew
      unfrozen := h.unfrozen
      pinned := h.pinned
      frozen := by
        intro other l hl
        have hother : other ≠ agent := by
          intro heq
          subst heq
          rw [hlease] at hl
          contradiction
        rcases h.frozen other l hl with
          ⟨fz, hfz, howner, hconn, ⟨m, hm, hagent, huser, hmconn⟩, hprefs⟩
        refine ⟨fz, hfz, howner, hconn, ⟨
          AppState.pinMonitor agent frozen.active.connId frozen.active.prefs.monitor m,
          ?_, ?_, ?_, ?_⟩, ?_⟩
        . simp only [Table.lookup_mapValues, hm, Option.map_some]
        . rw [AppState.pinMonitor_agentId]
          exact hagent
        . rw [AppState.pinMonitor_userId]
          exact huser
        . rw [AppState.pinMonitor_connId]
          exact hmconn
        . intro new hnew
          simp only [Function.update_of_ne hother] at hnew
          exact hprefs new hnew
      inflight := h.inflight
    }

theorem grantLease {lease : Lease} {frozen : FrozenCapture} (h : Coherent s)
    (hlease : s.sessions.lookup agent = none)
    (hopen : s.openConn? agent = some lease.grant.owner.agentConnectionId)
    (hfrozen : Freezable s agent lease.grant.owner frozen)
    : Coherent (s.grantLease agent lease frozen) := by
  have hc := h.commitControlCapture hlease frozen
  exact {
    cmds := hc.cmds
    modules := hc.modules
    agent := hc.agent
    minted := by
      intro other conn hconn
      exact List.mem_cons_of_mem _ (hc.minted other conn hconn)
    lease := by
      intro other l hl
      simp only [AppState.grantLease, Table.lookup_insert_eq] at hl
      split at hl
      . next heq =>
        cases hl
        rw [heq]
        have := (AppState.connId?_of_openConn? hopen).1
        simpa [AppState.connId?, AppState.grantLease] using this
      . exact hc.lease other l hl
    token := by
      intro other l hl
      simp only [AppState.grantLease, Table.lookup_insert_eq] at hl
      split at hl
      . cases hl
        exact List.mem_cons_self
      . exact List.mem_cons_of_mem _ (hc.token other l hl)
    session := hc.session
    active := hc.active
    unfrozen := by
      intro other hl
      simp only [AppState.grantLease, Table.lookup_insert_eq] at hl ⊢
      split at hl
      . contradiction
      . next hother =>
        rw [Function.update_of_ne hother]
        exact hc.unfrozen other hl
    pinned := by
      intro other new hnew
      simp only [AppState.grantLease, Function.update_apply] at hnew
      split at hnew
      . cases hnew
        exact hfrozen.pinned
      . exact hc.pinned other new hnew
    frozen := by
      intro other l hl
      simp only [AppState.grantLease, Table.lookup_insert_eq] at hl ⊢
      split at hl
      . next heq =>
        subst heq
        cases hl
        rw [Function.update_self]
        refine ⟨frozen, rfl, hfrozen.owned, hfrozen.conn, ?_, ?_⟩
        . rcases hfrozen.session with ⟨m, hm, hagent, huser, hmconn⟩
          rcases s.commitControlCapture_cases other frozen with ⟨heq, _⟩ | ⟨_, _, _, _, heq⟩
          . rw [heq]
            exact ⟨m, hm, hagent, huser, hmconn⟩
          . rw [heq]
            refine ⟨AppState.pinMonitor other frozen.active.connId frozen.active.prefs.monitor m,
              ?_, ?_, ?_, ?_⟩
            . simp only [Table.lookup_mapValues, hm, Option.map_some]
            . rw [AppState.pinMonitor_agentId]
              exact hagent
            . rw [AppState.pinMonitor_userId]
              exact huser
            . rw [AppState.pinMonitor_connId]
              exact hmconn
        . intro new hnew
          rcases hfrozen.active with ⟨active, hactive, hprefs, hmonitor⟩
          rcases s.commitControlCapture_cases other frozen with
            ⟨heq, hpinned⟩ | ⟨active', hactive', _, _, heq⟩
          . rw [heq, hactive] at hnew
            cases hnew
            have hconn := h.active other new hactive
            rw [(AppState.connId?_of_openConn? hopen).1] at hconn
            have := hpinned new hactive (by rw [hfrozen.conn]; simpa using hconn.symm)
            cases hmonitor with
            | inl hnone => contradiction
            | inr heq =>
              rw [← hprefs, ← heq]
          . rw [heq] at hnew
            simp only [Function.update_self, Option.some.injEq] at hnew
            rw [hactive] at hactive'
            cases hactive'
            subst hnew
            exact hprefs
      . next hother =>
        rw [Function.update_of_ne hother]
        exact hc.frozen other l hl
    inflight := hc.inflight
  }

end Coherent

/-!
The two ends of a connection. Coherence makes the tables that mention it empty where the code only
removes what belongs to the old connection.
-/

structure Registered (s t : AppState) (agent fresh : Uuid) : Prop where
  connId? : ∀ other, t.connId? other = if other = agent then some fresh else s.connId? other
  cmds : ∀ other, t.cmds other = if other = agent then some fresh else s.cmds other
  modules : ∀ other, t.modules other = if other = agent then none else s.modules other
  sockets : ∀ conn, t.sockets conn
    = if conn = fresh then
        Socket.new agent
      else if s.connId? agent = some conn then
        { s.sockets conn with shutdown := some "" }
      else
        s.sockets conn
  sessions : t.sessions = s.sessions
  capture : t.capture = s.capture
  mjpegSessions : ∀ session, t.mjpegSessions.lookup session
    = (s.mjpegSessions.lookup session).filter (fun mapped => mapped.agentId ≠ agent)
  activeCapture : ∀ other, t.activeCapture other
    = if other = agent then none else s.activeCapture other
  inflight : t.inflight = s.inflight
  minted : t.minted = fresh :: s.minted
  grants : t.grants = s.grants
  cleanups : t.cleanups = s.cleanups

structure Unregistered (s t : AppState) (agent conn : Uuid) (reason : Option String) : Prop where
  connId? : ∀ other, t.connId? other = if other = agent then none else s.connId? other
  cmds : ∀ other, t.cmds other = if other = agent then none else s.cmds other
  modules : ∀ other, t.modules other = if other = agent then none else s.modules other
  sockets : ∀ other, t.sockets other
    = if other = conn then
        { s.sockets conn with shutdown := reason.or (s.sockets conn).shutdown }
      else
        s.sockets other
  sessions : t.sessions = s.sessions
  capture : t.capture = s.capture
  mjpegSessions : ∀ session, t.mjpegSessions.lookup session
    = (s.mjpegSessions.lookup session).filter (fun mapped => mapped.agentId ≠ agent)
  activeCapture : ∀ other, t.activeCapture other
    = if other = agent then none else s.activeCapture other
  inflight : t.inflight = s.inflight
  minted : t.minted = s.minted
  grants : t.grants = s.grants
  cleanups : t.cleanups = s.cleanups

namespace Coherent

variable {s : AppState} {agent : Uuid}

theorem lookup_cleared {conn session : Uuid} (h : Coherent s) (hconn : s.connId? agent = some conn)
    : ((s.clearCaptureConnection agent conn).mjpegSessions.lookup session)
        = (s.mjpegSessions.lookup session).filter (fun mapped => mapped.agentId ≠ agent) := by
  rw [(s.clearCaptureConnection_spec agent conn).mjpegSessions, Table.lookup_retain]
  cases hmapped : s.mjpegSessions.lookup session with
  | none => rfl
  | some mapped =>
    have := h.session session mapped hmapped
    by_cases hagent : mapped.agentId = agent
    . rw [hagent, hconn] at this
      simp only [Option.some.injEq] at this
      simp [Option.filter, hagent, this.symm]
    . simp [Option.filter, hagent]

theorem active_cleared {conn : Uuid} (h : Coherent s) (hconn : s.connId? agent = some conn)
    (other : Uuid) : (s.clearCaptureConnection agent conn).activeCapture other
        = if other = agent then none else s.activeCapture other := by
  rw [(s.clearCaptureConnection_spec agent conn).activeCapture]
  cases hactive : s.activeCapture agent with
  | none =>
    simp only [Option.any_none, Bool.false_eq_true, ↓reduceIte]
    split
    . next heq =>
      rw [heq]
      exact hactive
    . rfl
  | some active =>
    have := h.active agent active hactive
    rw [hconn] at this
    simp only [Option.some.injEq] at this
    simp [this.symm, Function.update_apply]

theorem lookup_of_connId? {session : Uuid} (h : Coherent s) (hconn : s.connId? agent = none)
    : s.mjpegSessions.lookup session
        = (s.mjpegSessions.lookup session).filter (fun mapped => mapped.agentId ≠ agent) := by
  cases hmapped : s.mjpegSessions.lookup session with
  | none => rfl
  | some mapped =>
    have hagent : mapped.agentId ≠ agent := by
      intro heq
      have := h.session session mapped hmapped
      rw [heq, hconn] at this
      contradiction
    simp [Option.filter, hagent]

theorem active_of_connId? (h : Coherent s) (hconn : s.connId? agent = none) (other : Uuid)
    : s.activeCapture other = if other = agent then none else s.activeCapture other := by
  split
  . next heq =>
    subst heq
    cases hactive : s.activeCapture other with
    | none => rfl
    | some active =>
      have := h.active other active hactive
      rw [hconn] at this
      contradiction
  . rfl

theorem registerConnection_spec {fresh : Uuid} (h : Coherent s)
    (hlease : s.sessions.lookup agent = none) (hfresh : fresh ∉ s.minted) (historyKnown : Bool)
    : Registered s (s.registerConnection agent historyKnown fresh) agent fresh := by
  cases hold : s.connId? agent with
  | none =>
    simp only [AppState.registerConnection, hold]
    exact {
      connId? := by
        intro other
        simp only [AppState.connId?, Function.update_apply]
        split <;> rfl
      cmds := by
        intro other
        simp only [Function.update_apply]
      modules := by
        intro other
        simp only [Function.update_apply]
      sockets := by
        intro conn
        simp only [Function.update_apply, hold, reduceCtorEq, ↓reduceIte]
      sessions := rfl
      capture := rfl
      mjpegSessions := by
        intro session
        exact h.lookup_of_connId? hold
      activeCapture := h.active_of_connId? hold
      inflight := rfl
      minted := rfl
      grants := rfl
      cleanups := rfl
    }
  | some old =>
    have hcleared := s.clearCaptureConnection_spec agent old
    have hne : old ≠ fresh := by
      intro heq
      subst heq
      exact hfresh (h.minted agent old hold)
    simp only [AppState.registerConnection, hold, AppState.revokeAgentControl_of_lookup hlease]
    exact {
      connId? := by
        intro other
        simp only [AppState.connId?, AppState.shutdown, AppState.modifySocket, Function.update_apply,
          hcleared.connections]
        split <;> rfl
      cmds := by
        intro other
        simp only [AppState.shutdown, AppState.modifySocket, Function.update_apply, hcleared.cmds]
      modules := by
        intro other
        simp only [AppState.shutdown, AppState.modifySocket, Function.update_apply, hcleared.modules]
      sockets := by
        intro conn
        simp only [AppState.shutdown, AppState.modifySocket, Function.update_apply, hcleared.sockets,
          hold, Option.some.injEq, hne, ↓reduceIte]
        by_cases hconn : conn = old
        . simp [hconn, hne]
        . have : old ≠ conn := fun heq => hconn heq.symm
          simp [hconn, this]
      sessions := hcleared.sessions
      capture := hcleared.capture
      mjpegSessions := by
        intro session
        exact h.lookup_cleared hold
      activeCapture := h.active_cleared hold
      inflight := hcleared.inflight
      minted := by
        simp only [AppState.shutdown, AppState.modifySocket, hcleared.minted]
      grants := hcleared.grants
      cleanups := hcleared.cleanups
    }

theorem unregister_spec {conn : Uuid} (h : Coherent s) (hconn : s.connId? agent = some conn)
    (reason : Option String)
    : Unregistered s (reason.elim ((s.clearCaptureConnection agent conn).unregister agent)
        (((s.clearCaptureConnection agent conn).unregister agent).shutdown conn)) agent conn
          reason := by
  have hcleared := s.clearCaptureConnection_spec agent conn
  have hbase : Unregistered s ((s.clearCaptureConnection agent conn).unregister agent) agent conn
      none := {
    connId? := by
      intro other
      simp only [AppState.connId?, AppState.unregister, Function.update_apply,
        hcleared.connections]
      split <;> rfl
    cmds := by
      intro other
      simp only [AppState.unregister, Function.update_apply, hcleared.cmds]
    modules := by
      intro other
      simp only [AppState.unregister, Function.update_apply, hcleared.modules]
    sockets := by
      intro other
      simp only [AppState.unregister, hcleared.sockets, Option.none_or]
      split
      . next heq => rw [heq]
      . rfl
    sessions := hcleared.sessions
    capture := hcleared.capture
    mjpegSessions := by
      intro session
      exact h.lookup_cleared hconn
    activeCapture := h.active_cleared hconn
    inflight := hcleared.inflight
    minted := hcleared.minted
    grants := hcleared.grants
    cleanups := hcleared.cleanups
  }
  cases reason with
  | none => exact hbase
  | some reason =>
    exact {
      hbase with
      sockets := by
        intro other
        simp only [Option.elim_some, AppState.shutdown, AppState.modifySocket, Function.update_apply,
          AppState.unregister, hcleared.sockets, Option.some_or]
    }

theorem registered {fresh : Uuid} {t : AppState} (h : Coherent s)
    (hlease : s.sessions.lookup agent = none) (hfresh : fresh ∉ s.minted)
    (ht : Registered s t agent fresh) : Coherent t where
  cmds := by
    intro other
    rw [ht.cmds, ht.connId?, h.cmds]
  modules := by
    intro other runtime hruntime
    rw [ht.modules] at hruntime
    split at hruntime
    . contradiction
    . next hother =>
      rw [ht.connId?, if_neg hother]
      exact h.modules other runtime hruntime
  agent := by
    intro other conn hconn
    rw [ht.connId?] at hconn
    rw [ht.sockets]
    split at hconn
    . next hother =>
      simp only [Option.some.injEq] at hconn
      rw [if_pos hconn.symm, hother]
      rfl
    . have hne : conn ≠ fresh := by
        intro heq
        subst heq
        exact hfresh (h.minted other conn hconn)
      rw [if_neg hne]
      split <;> exact h.agent other conn hconn
  minted := by
    intro other conn hconn
    rw [ht.connId?] at hconn
    rw [ht.minted, List.mem_cons]
    split at hconn
    . apply Or.inl
      simpa using hconn.symm
    . apply Or.inr
      exact h.minted other conn hconn
  lease := by
    intro other lease hl
    rw [ht.sessions] at hl
    have hother : other ≠ agent := by
      intro heq
      subst heq
      rw [hlease] at hl
      contradiction
    rw [ht.connId?, if_neg hother]
    exact h.lease other lease hl
  token := by
    rw [ht.sessions, ht.minted]
    intro other lease hl
    exact List.mem_cons_of_mem _ (h.token other lease hl)
  session := by
    intro session mapped hmapped
    rw [ht.mjpegSessions, Option.filter_eq_some_iff] at hmapped
    rw [ht.connId?, if_neg (by simpa using hmapped.2)]
    exact h.session session mapped hmapped.1
  active := by
    intro other active hactive
    rw [ht.activeCapture] at hactive
    split at hactive
    . contradiction
    . next hother =>
      rw [ht.connId?, if_neg hother]
      exact h.active other active hactive
  unfrozen := by
    rw [ht.sessions, ht.capture]
    exact h.unfrozen
  pinned := by
    rw [ht.capture]
    exact h.pinned
  frozen := by
    intro other lease hl
    rw [ht.sessions] at hl
    have hother : other ≠ agent := by
      intro heq
      subst heq
      rw [hlease] at hl
      contradiction
    rcases h.frozen other lease hl with
      ⟨frozen, hfrozen, howner, hconn, ⟨m, hm, hagent, hmapped⟩, hactive⟩
    rw [ht.capture, ht.activeCapture, if_neg hother]
    refine ⟨frozen, hfrozen, howner, hconn, ⟨m, ?_, hagent, hmapped⟩, hactive⟩
    rw [ht.mjpegSessions, hm]
    simp [Option.filter, hagent, hother]
  inflight := by
    rw [ht.inflight]
    exact h.inflight

theorem unregistered {conn : Uuid} {reason : Option String} {t : AppState} (h : Coherent s)
    (hlease : s.sessions.lookup agent = none) (ht : Unregistered s t agent conn reason)
    : Coherent t where
  cmds := by
    intro other
    rw [ht.cmds, ht.connId?, h.cmds]
  modules := by
    intro other runtime hruntime
    rw [ht.modules] at hruntime
    split at hruntime
    . contradiction
    . next hother =>
      rw [ht.connId?, if_neg hother]
      exact h.modules other runtime hruntime
  agent := by
    intro other c hc
    rw [ht.connId?] at hc
    split at hc
    . contradiction
    . rw [ht.sockets]
      split
      . next heq =>
        rw [← heq]
        exact h.agent other c hc
      . exact h.agent other c hc
  minted := by
    intro other c hc
    rw [ht.connId?] at hc
    rw [ht.minted]
    split at hc
    . contradiction
    . exact h.minted other c hc
  lease := by
    intro other lease hl
    rw [ht.sessions] at hl
    have hother : other ≠ agent := by
      intro heq
      subst heq
      rw [hlease] at hl
      contradiction
    rw [ht.connId?, if_neg hother]
    exact h.lease other lease hl
  token := by
    rw [ht.sessions, ht.minted]
    exact h.token
  session := by
    intro session mapped hmapped
    rw [ht.mjpegSessions, Option.filter_eq_some_iff] at hmapped
    rw [ht.connId?, if_neg (by simpa using hmapped.2)]
    exact h.session session mapped hmapped.1
  active := by
    intro other active hactive
    rw [ht.activeCapture] at hactive
    split at hactive
    . contradiction
    . next hother =>
      rw [ht.connId?, if_neg hother]
      exact h.active other active hactive
  unfrozen := by
    rw [ht.sessions, ht.capture]
    exact h.unfrozen
  pinned := by
    rw [ht.capture]
    exact h.pinned
  frozen := by
    intro other lease hl
    rw [ht.sessions] at hl
    have hother : other ≠ agent := by
      intro heq
      subst heq
      rw [hlease] at hl
      contradiction
    rcases h.frozen other lease hl with
      ⟨frozen, hfrozen, howner, hfconn, ⟨m, hm, hagent, hmapped⟩, hactive⟩
    rw [ht.capture, ht.activeCapture, if_neg hother]
    refine ⟨frozen, hfrozen, howner, hfconn, ⟨m, ?_, hagent, hmapped⟩, hactive⟩
    rw [ht.mjpegSessions, hm]
    simp [Option.filter, hagent, hother]
  inflight := by
    rw [ht.inflight]
    exact h.inflight

theorem effect {P : Uuid → Queued → Prop} {t : AppState} (h : Coherent s) (heffect : Effect P s t)
    : Coherent t := by
  cases heffect with
  | endLease reason count hlease hP => exact h.endLease _ _ reason count
  | input hlease hopen hkind hauth htrack hP =>
    apply Coherent.push
    exact h.setLease hlease rfl rfl
  | lost held hlease =>
    apply Coherent.shutdown
    exact h.setLease hlease rfl rfl
  | grant hlease hopen hheld hfresh hfrozen => exact h.grantLease hlease hopen hfrozen
  | renew expiresAt hlease => exact h.setLease hlease rfl rfl
  | push hopen hordinary hstamp hP => exact h.push _ _
  | close hconn => exact h.shutdown _ _
  | start hopen hauth hnil hfresh hfrozen hP => exact h.startActive hopen hfrozen _
  | stop hopen hauth hP =>
    apply (h.push _ _).setActive
    . intro new hnew
      contradiction
    . intro new frozen hnew
      contradiction
  | dropActive hclosing =>
    apply h.setActive
    . intro new hnew
      contradiction
    . intro new frozen hnew
      contradiction
  | openSession hsession hconn => exact h.openSession hsession hconn
  | dropSession hfree => exact h.dropSession hfree
  | publish hconn hfollows => exact h.publish hconn
  | register historyKnown hlease hfresh =>
    exact h.registered hlease hfresh (h.registerConnection_spec hlease hfresh historyKnown)
  | unregister reason hconn hlease => exact h.unregistered hlease (h.unregister_spec hconn reason)
  | launch hconn hplain hstamp => exact h.launch hplain

theorem micro {P : Uuid → Queued → Prop} {t : AppState} (h : Coherent s) (hmicro : Micro P s t)
    : Coherent t := by
  cases hmicro with
  | same hsame => exact h.same hsame
  | effect heffect => exact h.effect heffect

theorem acts {P : Uuid → Queued → Prop} {t : AppState} (h : Coherent s) (hacts : Acts P s t)
    : Coherent t := by
  induction hacts with
  | refl => exact h
  | tail _ hmicro ih => exact ih.micro hmicro

theorem init : Coherent AppState.init := by
  constructor <;> intros <;> simp_all [AppState.init, AppState.connId?]

end Coherent

end Vantyr
