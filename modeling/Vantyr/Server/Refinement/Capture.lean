import Vantyr.Server.Refinement.Leases

/-!
This module proves that the arbitration of live captures is a sequence of actions.
-/

namespace Vantyr

namespace AppState

variable {P : Uuid → Queued → Prop}

theorem enqueueCapture_ok {s t : AppState} {agent conn : Uuid} {cmd : Json}
    {generation : Option Uuid} (hs : Coherent s)
    (h : s.enqueueCapture agent conn cmd generation = (.ok (), t))
    : ∃ command,
      s.authorizeAgentCommand agent cmd = .ok command
        ∧ s.openConn? agent = some conn
        ∧ SameCore (s.push conn {
          control := .text (command.setField "__capture_generation"
            (.string (generation.elim "stopped" Uuid.text)))
          origin := .command
        }) t := by
  unfold enqueueCapture at h
  split at h
  . simp at h
  . next command hauth =>
    simp only at h
    split at h
    . next heq =>
      simp only [Prod.mk.injEq, true_and] at h
      subst h
      have hok := enqueueAuthorizedCommand_ok hs heq
      exact ⟨command, hauth, hok.1, hok.2⟩
    . simp at h

theorem acts_enqueueCapture_error {s t : AppState} {agent conn : Uuid} {cmd : Json}
    {generation : Option Uuid} {e : CommandDenied}
    (h : s.enqueueCapture agent conn cmd generation = (.error e, t)) : Acts P s t := by
  unfold enqueueCapture at h
  split at h
  . simp only [Prod.mk.injEq] at h
    rw [← h.2]
    exact Acts.refl s
  . simp only at h
    split at h
    . simp at h
    . next heq =>
      simp only [Prod.mk.injEq] at h
      have hsame := enqueueAuthorizedCommand_error heq
      rw [← h.2]
      split
      . next hconn => exact (Acts.same hsame).trans (Acts.effect (.close hconn))
      . exact Acts.same hsame

theorem acts_restartCapture {s : AppState} {agent conn : Uuid} {prefs : MjpegViewerPrefs}
    {wireMonitor : Option Nat} {fresh : Uuid} (hs : Coherent s)
    (hfresh : fresh ≠ Uuid.nil ∧ fresh ∉ s.minted)
    (hfrozen : ∀ frozen, s.capture agent = some frozen → frozen.active.connId = conn →
      prefs = frozen.active.prefs)
    (hP : ∀ command, command.isCapture → P conn { control := .text command, origin := .command })
    : Acts P s (s.restartCapture agent conn prefs wireMonitor fresh).2 := by
  unfold restartCapture
  simp only
  generalize hactive : ActiveCapture.mk wireMonitor fresh (s.retireObserved agent conn) conn prefs
    = active
  generalize hstart : AppState.mk _ _ _ _ _ _ _ _ _ _ _ _ _ _ _ _ _ _ _ = s'
  have hsame : SameCore s s' := by
    subst hstart
    constructor <;> simp
  have hmint : SameCore { s with minted := active.generation :: s.minted } s' := by
    subst hstart hactive
    constructor <;> simp
  split
  . next e t heq => exact (Acts.same hsame).trans (acts_enqueueCapture_error heq)
  . next t heq =>
    rcases enqueueCapture_ok (hs.same hsame) heq with ⟨command, hauth, hopen, hpush⟩
    have hgeneration : active.generation = fresh := by rw [← hactive]
    have hconn : active.connId = conn := by rw [← hactive]
    have hauth' : s.authorizeAgentCommand agent
        (startCapture active.wireMonitor active.prefs.jpegQuality active.prefs.intervalMs)
          = .ok command := by
      rw [← hauth, ← hstart, ← hactive]
      rfl
    have hopen' : s.openConn? agent = some active.connId := by
      rw [hconn, ← hopen, ← hstart]
      rfl
    have hlast : SameCore t { t with frames := t.frames.erase agent } := by
      constructor <;> simp
    have heffect : Effect P s (s.startActive agent active command) := by
      apply Effect.start hopen' hauth'
      . rw [hgeneration]
        exact hfresh.1
      . rw [hgeneration]
        exact hfresh.2
      . intro frozen hcapture hfconn
        rw [hconn] at hfconn
        rw [← hactive]
        exact hfrozen frozen hcapture hfconn
      . rw [hconn]
        apply hP
        simp [Json.isCapture, kind_startItem hauth']
    apply Acts.effect_same heffect
    apply SameCore.setActive
    apply SameCore.trans _ hlast
    apply SameCore.trans _ hpush
    have := hmint.modifySocket conn
      (fun socket => { socket with sent := socket.sent ++ [startItem active command] })
    rw [hconn]
    simpa [push, startItem, hgeneration] using this

theorem acts_syncCapture {s : AppState} {fresh : Uuid} (hs : Coherent s)
    (hfresh : fresh ≠ Uuid.nil ∧ fresh ∉ s.minted)
    (hP : ∀ conn command, command.isCapture →
      P conn { control := .text command, origin := .command }) (agent : Uuid)
    (requested : Option (Option Nat)) : Acts P s (s.syncCapture agent requested fresh).2 := by
  unfold syncCapture
  simp only
  split
  . split
    . next old hold =>
      split
      . next heq => exact acts_enqueueCapture_error heq
      . next t heq =>
        rcases enqueueCapture_ok hs heq with ⟨command, hauth, hopen, hpush⟩
        have heffect : Effect P s ((s.push old.connId (stopItem command)).setActive agent none) :=
          .stop hopen hauth (hP _ _ (by simp [Json.isCapture, kind_stopItem hauth]))
        exact Acts.effect_same heffect (hpush.setActive agent none)
    . next hold =>
      apply Acts.effect
      apply Effect.dropActive
      intro active hactive
      have hconn := hs.active agent active hactive
      rw [Option.filter_eq_none_iff] at hold
      have := hold active hactive
      simp only [openConn?, hconn, decide_eq_true_eq] at this
      cases hclosing : s.closing active.connId with
      | true => rfl
      | false => simp [Option.filter, hclosing] at this
  . exact Acts.refl s
  . next first rest conn hsessions hconn =>
    have hrestart : ∀ selection wireMonitor, Acts P s (s.restartCapture agent conn
        (s.mergedPrefs agent conn selection first rest) wireMonitor fresh).2 := by
      intro selection wireMonitor
      apply acts_restartCapture hs hfresh
      . intro frozen hcapture hfconn
        simp [mergedPrefs, hcapture, Option.filter, hfconn]
      . exact hP conn
    -- The monitor on the wire is chosen first; either way the capture is restarted or left alone.
    split
    . split
      . exact Acts.refl s
      . exact hrestart _ _
    . split
      . exact Acts.refl s
      . exact hrestart _ _

/-!
Live view sessions.
-/

theorem enqueueAuthorizedCommand_frame (s : AppState) (agent conn : Uuid) (command : Json)
    (origin : Origin)
    : ∃ sockets room,
      (s.enqueueAuthorizedCommand agent conn command origin).2 = { s with sockets, room } := by
  unfold enqueueAuthorizedCommand
  split
  . exact ⟨_, _, rfl⟩
  . split
    . exact ⟨_, _, rfl⟩
    . unfold trySend
      cases s.cmds agent with
      | none => exact ⟨_, _, rfl⟩
      | some channel =>
        cases s.room with
        | nil => exact ⟨_, _, rfl⟩
        | cons free room => cases free <;> exact ⟨_, _, rfl⟩

theorem enqueueCapture_frame (s : AppState) (agent conn : Uuid) (cmd : Json)
    (generation : Option Uuid)
    : ∃ sockets room, (s.enqueueCapture agent conn cmd generation).2 = { s with sockets, room } := by
  unfold enqueueCapture
  split
  . exact ⟨_, _, rfl⟩
  . next command hauth =>
    simp only
    rcases s.enqueueAuthorizedCommand_frame agent conn (command.setField "__capture_generation"
      (.string (generation.elim "stopped" Uuid.text))) .command with ⟨sockets, room, hframe⟩
    split
    . next heq =>
      rw [heq] at hframe
      exact ⟨_, _, hframe⟩
    . next heq =>
      rw [heq] at hframe
      simp only at hframe
      rw [hframe]
      split <;> exact ⟨_, _, rfl⟩

theorem syncCapture_capture (s : AppState) (agent : Uuid) (requested : Option (Option Nat))
    (fresh : Uuid) : (s.syncCapture agent requested fresh).2.capture = s.capture := by
  have hrestart : ∀ conn prefs wireMonitor,
      (s.restartCapture agent conn prefs wireMonitor fresh).2.capture = s.capture := by
    intro conn prefs wireMonitor
    unfold restartCapture
    simp only
    generalize hstart : AppState.mk _ _ _ _ _ _ _ _ _ _ _ _ _ _ _ _ _ _ _ = s'
    have hcapture : s'.capture = s.capture := by rw [← hstart]
    rcases s'.enqueueCapture_frame agent conn (startCapture wireMonitor prefs.jpegQuality
      prefs.intervalMs) (some fresh) with ⟨sockets, room, hframe⟩
    split
    . next heq =>
      rw [heq] at hframe
      simp only at hframe
      rw [hframe, hcapture]
    . next heq =>
      rw [heq] at hframe
      simp only at hframe
      simp only [hframe, setActive, hcapture]
  unfold syncCapture
  simp only
  split
  . split
    . next old hold =>
      rcases s.enqueueCapture_frame agent old.connId stopCapture none with ⟨sockets, room, hframe⟩
      split
      . next heq =>
        rw [heq] at hframe
        simp only at hframe
        rw [hframe]
      . next heq =>
        rw [heq] at hframe
        simp only at hframe
        simp only [hframe, setActive]
    . rfl
  . rfl
  . split
    . split
      . rfl
      . exact hrestart _ _ _
    . split
      . rfl
      . exact hrestart _ _ _

end AppState

-- Who freezes a capture has a lease, and the session it was frozen for is alive.
theorem Coherent.frozen_session {s : AppState} {agent : Uuid} {frozen : FrozenCapture}
    (hs : Coherent s) (hfrozen : s.capture agent = some frozen)
    : ∃ lease mapped,
      s.sessions.lookup agent = some lease
        ∧ s.mjpegSessions.lookup frozen.sessionId = some mapped
        ∧ mapped.agentId = agent
        ∧ mapped.connId = lease.grant.owner.agentConnectionId := by
  cases hlease : s.sessions.lookup agent with
  | none =>
    rw [hs.unfrozen agent hlease] at hfrozen
    contradiction
  | some lease =>
    rcases hs.frozen agent lease hlease with ⟨f, hf, _, _, ⟨mapped, hmapped⟩, _⟩
    rw [hf] at hfrozen
    cases hfrozen
    exact ⟨lease, mapped, rfl, hmapped.1, hmapped.2.1, hmapped.2.2.2⟩

namespace AppState

variable {P : Uuid → Queued → Prop}

theorem sameCore_setViewers (s : AppState) (agent : Uuid) (count : Nat)
    : SameCore s (s.setViewers agent count) := by
  constructor <;> simp [setViewers]

theorem acts_admitMjpegSession {s : AppState} {agent conn session fresh : Uuid} (hs : Coherent s)
    (hfresh : fresh ≠ Uuid.nil ∧ fresh ∉ s.minted)
    (hP : ∀ conn command, command.isCapture →
      P conn { control := .text command, origin := .command })
    (hconn : s.connId? agent = some conn) (hsession : s.mjpegSessions.lookup session = none)
    (user : Uuid) (prefs : MjpegViewerPrefs) (requestedMonitor : Option Nat)
    : Acts P s (s.admitMjpegSession agent conn session user prefs requestedMonitor fresh).2 := by
  unfold admitMjpegSession
  simp only
  split
  . exact Acts.refl s
  . generalize hmapped : MjpegSession.mk requestedMonitor agent user conn prefs = mapped
    generalize hinsert : AppState.mk _ _ _ _ _ _ _ _ _ _ _ _ _ _ _ _ _ _ _ = s'
    have hopen : Acts P s s' := by
      rw [← hinsert]
      apply Acts.effect
      apply Effect.openSession hsession
      rw [← hmapped]
      exact hconn
    generalize (s.captureViewers agent).getD 0 = count
    have hview : Acts P s (s'.setViewers agent (count + 1)) :=
      hopen.trans (Acts.same (s'.sameCore_setViewers agent (count + 1)))
    have hfresh' : fresh ∉ (s'.setViewers agent (count + 1)).minted := by
      rw [← hinsert]
      exact hfresh.2
    have hsync := acts_syncCapture (hs.acts hview) ⟨hfresh.1, hfresh'⟩ hP agent (some prefs.monitor)
    have hcapture := (s'.setViewers agent (count + 1)).syncCapture_capture agent
      (some prefs.monitor) fresh
    split
    . next t heq =>
      rw [heq] at hsync
      exact hview.trans hsync
    . next e t heq =>
      rw [heq] at hsync hcapture
      apply (hview.trans hsync).trans
      apply Acts.effect_same (.dropSession _) (sameCore_setViewers _ agent count)
      intro other frozen hfrozen heq
      have hfrozen' : s.capture other = some frozen := by
        rw [← hfrozen, hcapture, ← hinsert]
        rfl
      rcases hs.frozen_session hfrozen' with ⟨_, mapped', _, hlookup, _⟩
      subst heq
      rw [hsession] at hlookup
      contradiction

theorem acts_beginMjpegSession {s : AppState} {fresh : Uuid} (hs : Coherent s)
    (hfresh : fresh ≠ Uuid.nil ∧ fresh ∉ s.minted)
    (hP : ∀ conn command, command.isCapture →
      P conn { control := .text command, origin := .command })
    (hrelease : Releasable P s) (agent session user : Uuid) (prefs : MjpegViewerPrefs)
    (requestedMonitor : Option Nat) (now : Nat)
    : Acts P s (s.beginMjpegSession agent session user prefs requestedMonitor now fresh).2 := by
  have hexpire := acts_expireControl hs hrelease now
  have hfresh' : fresh ∉ (s.expireControl now).minted := by
    unfold expireControl
    rw [settle_minted]
    exact hfresh.2
  unfold beginMjpegSession
  generalize s.expireControl now = s' at hexpire hfresh'
  simp only
  split
  . exact hexpire.1
  . next conn hopen =>
    split
    . exact hexpire.1
    . split
      . exact hexpire.1
      . next hsession =>
        split
        . exact hexpire.1
        . apply hexpire.1.trans
          apply acts_admitMjpegSession (hs.acts hexpire.1) ⟨hfresh.1, hfresh'⟩ hP
          . exact (connId?_of_openConn? hopen).1
          . simpa using hsession

-- The session is forgotten before its control is revoked; the other order gives the same.
theorem revokeAgentControl_mjpegSessions (s : AppState)
    (mjpegSessions : AList (fun _ : Uuid => MjpegSession)) (agent conn : Uuid)
    : { s with mjpegSessions }.revokeAgentControl agent conn
        = { s.revokeAgentControl agent conn with mjpegSessions } := by
  unfold revokeAgentControl settle
  have := (passive_mjpegSessions mjpegSessions).deliverControlCleanup
    { s with sessions := (s.sessions.revokeAgent agent conn).2 }
    (s.sessions.revokeAgent agent conn).1
  exact congrArg Prod.snd this

theorem revokeAgentControl_capture {s : AppState} {agent conn : Uuid} {lease : Lease}
    (hs : Coherent s) (hP : Releasable P s) (hlease : s.sessions.lookup agent = some lease)
    (hconn : lease.grant.owner.agentConnectionId = conn)
    : (s.revokeAgentControl agent conn).capture agent = none := by
  apply (hs.acts (acts_revokeAgentControl hs hP agent conn).1).unfrozen
  simp [revokeAgentControl, settle_sessions, ControlSessions.revokeAgent, hlease, hconn,
    ControlSessions.remove]

theorem acts_dropSession {s : AppState} {agent session : Uuid} {mapped : MjpegSession}
    (hs : Coherent s) (hrelease : Releasable P s)
    (hmapped : s.mjpegSessions.lookup session = some mapped) (hagent : mapped.agentId = agent)
    {frozen : Bool} (hfrozen : frozen = (s.capture agent).any (fun c => c.sessionId = session))
    : Acts P s (if frozen then
        { s with mjpegSessions := s.mjpegSessions.erase session }.revokeAgentControl agent
          mapped.connId
      else
        { s with mjpegSessions := s.mjpegSessions.erase session }) := by
  have hother : ∀ other capture, s.capture other = some capture → capture.sessionId = session →
      other = agent ∧ ∃ lease, s.sessions.lookup agent = some lease
        ∧ lease.grant.owner.agentConnectionId = mapped.connId := by
    intro other capture hcapture hsession
    rcases hs.frozen_session hcapture with ⟨lease, mapped', hlease, hlookup, hagent', hconn⟩
    subst hsession
    rw [hmapped] at hlookup
    cases hlookup
    subst hagent' hagent
    exact ⟨rfl, lease, hlease, hconn.symm⟩
  split
  . next hyes =>
    have hrevoke := (acts_revokeAgentControl hs hrelease agent mapped.connId).1
    have hsessions : (s.revokeAgentControl agent mapped.connId).mjpegSessions = s.mjpegSessions := by
      unfold revokeAgentControl
      rw [settle_mjpegSessions]
    rw [revokeAgentControl_mjpegSessions, ← hsessions]
    apply hrevoke.trans
    apply Acts.effect
    apply Effect.dropSession
    intro other capture hcapture hsession
    rcases (hs.acts hrevoke).frozen_session hcapture with ⟨_, mapped', _, hlookup, hagent', _⟩
    rw [hsessions] at hlookup
    subst hsession
    rw [hmapped] at hlookup
    cases hlookup
    subst hagent' hagent
    rw [hfrozen, Option.any_eq_true] at hyes
    rcases hyes with ⟨c, hc, hid⟩
    rcases (hother _ c hc (by simpa using hid)).2 with ⟨lease, hlease, hconn⟩
    rw [revokeAgentControl_capture hs hrelease hlease hconn] at hcapture
    contradiction
  . next hno =>
    apply Acts.effect
    apply Effect.dropSession
    intro other capture hcapture hsession
    have hsame := (hother other capture hcapture hsession).1
    subst hsame
    rw [hfrozen, hcapture] at hno
    simp [hsession] at hno

theorem acts_resync {s s' : AppState} {fresh : Uuid} (hs : Coherent s)
    (hfresh : fresh ≠ Uuid.nil ∧ fresh ∉ s.minted)
    (hP : ∀ conn command, command.isCapture →
      P conn { control := .text command, origin := .command })
    (h : Acts P s s') (hminted : s'.minted = s.minted) (agent : Uuid)
    : Acts P s ((s'.setViewers agent (s'.sessionCount agent)).syncCapture agent none fresh).2 := by
  have hview := h.trans (Acts.same (s'.sameCore_setViewers agent (s'.sessionCount agent)))
  apply hview.trans
  apply acts_syncCapture (hs.acts hview) ⟨hfresh.1, _⟩ hP
  change fresh ∉ s'.minted
  rw [hminted]
  exact hfresh.2

theorem acts_endMjpegSession {s : AppState} {fresh : Uuid} (hs : Coherent s)
    (hfresh : fresh ≠ Uuid.nil ∧ fresh ∉ s.minted)
    (hP : ∀ conn command, command.isCapture →
      P conn { control := .text command, origin := .command })
    (hrelease : Releasable P s) (agent session : Uuid) (user : Option Uuid)
    : Acts P s (s.endMjpegSession agent session user fresh).2 := by
  unfold endMjpegSession
  split
  . exact Acts.refl s
  . next mapped hmapped =>
    rw [Option.filter_eq_some_iff] at hmapped
    simp only [decide_eq_true_eq] at hmapped
    apply acts_resync hs hfresh hP (acts_dropSession hs hrelease hmapped.1 hmapped.2.1 rfl)
    split
    . unfold revokeAgentControl
      rw [settle_minted]
    . rfl

end AppState

end Vantyr
