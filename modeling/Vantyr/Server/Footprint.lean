import Vantyr.Server.Refinement.System

/-!
This module contains the footprints of the entry points: the fields of the state that each of them may
change. Everything else is left as it was.
-/

namespace Vantyr

namespace AppState

variable (s : AppState)

/-!
Leases and grants.
-/

theorem revokeAgentControl_frame (agent conn : Uuid)
    : ∃ sessions sockets capture cleanups room,
      s.revokeAgentControl agent conn = { s with sessions, sockets, capture, cleanups, room } := by
  rcases s.settle_frame (s.sessions.revokeAgent agent conn) with ⟨_, _, _, _, heq⟩
  exact ⟨_, _, _, _, _, heq⟩

theorem applyGrants_frame (agent conn : Uuid) (report : ModuleReport) (revoke : Bool)
    : ∃ sessions sockets capture cleanups room activeCapture,
      s.applyGrants agent conn report revoke
        = { s with sessions, sockets, capture, cleanups, room, activeCapture } := by
  have hrevoke : ∀ condition : Bool, ∃ sessions sockets capture cleanups room,
      (if condition then s.revokeAgentControl agent conn else s)
        = { s with sessions, sockets, capture, cleanups, room } := by
    intro condition
    cases condition with
    | true => exact s.revokeAgentControl_frame agent conn
    | false => exact ⟨_, _, _, _, _, rfl⟩
  unfold applyGrants
  simp only
  rcases hrevoke (s.revisionChanged agent .liveScreen report || !(report.get .liveScreen).granted
    || !(report.get .remoteInput).granted || revoke
    || s.revisionChanged agent .remoteInput report) with ⟨_, _, _, _, _, heq⟩
  rw [heq]
  split
  . exact ⟨_, _, _, _, _, _, rfl⟩
  . exact ⟨_, _, _, _, _, _, rfl⟩

theorem commitControlCapture_frame (agent : Uuid) (frozen : FrozenCapture)
    : ∃ activeCapture mjpegSessions,
      s.commitControlCapture agent frozen = { s with activeCapture, mjpegSessions } := by
  unfold commitControlCapture
  split
  . exact ⟨_, _, rfl⟩
  . exact ⟨_, _, rfl⟩

theorem enqueueViewerInput_frame (agent conn token : Uuid) (authorized : Json)
    : ∃ sessions sockets capture cleanups room,
      (s.enqueueViewerInput agent conn token authorized).2
        = { s with sessions, sockets, capture, cleanups, room } := by
  rcases s.enqueueAuthorizedCommand_frame agent conn authorized (.input token) with ⟨_, _, hframe⟩
  unfold enqueueViewerInput
  split
  . next heq =>
    rw [heq] at hframe
    exact ⟨_, _, _, _, _, hframe⟩
  . next t heq =>
    rw [heq] at hframe
    simp only at hframe
    rw [hframe]
    simp only
    split
    . exact revokeAgentControl_frame _ agent conn
    . exact revokeAgentControl_frame _ agent conn

theorem sendViewerInput_frame (agent viewer : Uuid) (user : AuthUser) (token : Option Uuid)
    (cmd : Json) (now : Nat)
    : ∃ sessions sockets capture cleanups room,
      (s.sendViewerInput agent viewer user token cmd now).2
        = { s with sessions, sockets, capture, cleanups, room } := by
  unfold sendViewerInput
  split
  . exact ⟨_, _, _, _, _, rfl⟩
  . split
    . exact ⟨_, _, _, _, _, rfl⟩
    . split
      . exact ⟨_, _, _, _, _, rfl⟩
      . simp only
        generalize s.sessions.authorizeAndTrack _ _ _ _ _ = transition
        rcases s.settle_frame (transition.cleanup, transition.sessions) with ⟨_, _, _, _, heq⟩
        rw [heq]
        split
        . exact ⟨_, _, _, _, _, rfl⟩
        . exact enqueueViewerInput_frame _ _ _ _ _

theorem authorizeSend_frame (agent : Uuid) (cmd : Json)
    : ∃ inflight, (s.authorizeSend agent cmd).toOption.getD s = { s with inflight } := by
  unfold authorizeSend
  split
  . exact ⟨_, rfl⟩
  . split
    . exact ⟨_, rfl⟩
    . split
      . exact ⟨_, rfl⟩
      . split
        . exact ⟨_, rfl⟩
        . exact ⟨_, rfl⟩

/-!
Lease messages.
-/

theorem acquireControl_frame (agent : Uuid) (owner : LeaseOwner) (value : Json) (now : Nat)
    (fresh : Uuid)
    : ∃ sessions sockets capture cleanups room minted grants activeCapture mjpegSessions,
      (s.acquireControl agent owner value now fresh).2 = {
        s with
        sessions, sockets, capture, cleanups, room, minted, grants, activeCapture, mjpegSessions
      } := by
  rcases s.settle_frame (s.sessions.expireAgent agent now) with ⟨_, _, _, _, hexpire⟩
  unfold acquireControl
  split
  . next heq =>
    rw [heq] at hexpire
    exact ⟨_, _, _, _, _, _, _, _, _, hexpire⟩
  . next t heq =>
    rw [heq] at hexpire
    simp only at hexpire
    subst hexpire
    split
    . exact ⟨_, _, _, _, _, _, _, _, _, rfl⟩
    . next frozen _ =>
      split
      . exact ⟨_, _, _, _, _, _, _, _, _, rfl⟩
      . simp only
        generalize ControlSessions.acquire _ _ _ _ _ _ = transition
        generalize hexpired : AppState.mk _ _ _ _ _ _ _ _ _ _ _ _ _ _ _ _ _ _ _ = u
        rcases u.settle_frame (transition.cleanup, transition.sessions) with ⟨_, _, _, _, hsettle⟩
        subst hexpired
        split
        . next v hres =>
          rw [hres] at hsettle
          simp only at hsettle
          rcases v.revokeAgentControl_frame agent owner.agentConnectionId with
            ⟨_, _, _, _, _, hrevoke⟩
          rw [hrevoke, hsettle]
          exact ⟨_, _, _, _, _, _, _, _, _, rfl⟩
        . next v hres =>
          rw [hres] at hsettle
          simp only at hsettle
          subst hsettle
          split
          . exact ⟨_, _, _, _, _, _, _, _, _, rfl⟩
          . next grant _ =>
            unfold recordGrant
            simp only
            split
            . generalize hrecorded : AppState.mk _ _ _ _ _ _ _ _ _ _ _ _ _ _ _ _ _ _ _ = w
              rcases w.commitControlCapture_frame agent frozen with ⟨_, _, hcommit⟩
              rw [hcommit, ← hrecorded]
              unfold freeze
              split
              . exact ⟨_, _, _, _, _, _, _, _, _, rfl⟩
              . exact ⟨_, _, _, _, _, _, _, _, _, rfl⟩
            . generalize hrecorded : AppState.mk _ _ _ _ _ _ _ _ _ _ _ _ _ _ _ _ _ _ _ = w
              rcases w.commitControlCapture_frame agent frozen with ⟨_, _, hcommit⟩
              rw [hcommit, ← hrecorded]
              unfold freeze
              split
              . exact ⟨_, _, _, _, _, _, _, _, _, rfl⟩
              . exact ⟨_, _, _, _, _, _, _, _, _, rfl⟩

theorem controlLeaseMessage_frame (viewer : Uuid) (user : AuthUser) (value : Json) (now : Nat)
    (fresh : Uuid)
    : ∃ sessions sockets capture cleanups room minted grants activeCapture mjpegSessions,
      (s.controlLeaseMessage viewer user value now fresh).2 = {
        s with
        sessions, sockets, capture, cleanups, room, minted, grants, activeCapture, mjpegSessions
      } := by
  have hsettle : ∀ change : List LeaseCleanup × ControlSessions,
      ∃ sessions sockets capture cleanups room minted grants activeCapture mjpegSessions,
        (s.settle change).2 = {
          s with
          sessions, sockets, capture, cleanups, room, minted, grants, activeCapture, mjpegSessions
        } := by
    intro change
    rcases s.settle_frame change with ⟨_, _, _, _, heq⟩
    exact ⟨_, _, _, _, _, _, _, _, _, heq⟩
  have hresult : ∀ agent,
      ∃ sessions sockets capture cleanups room minted grants activeCapture mjpegSessions,
        (s.controlLeaseResult agent viewer user value now fresh).2 = {
          s with
          sessions, sockets, capture, cleanups, room, minted, grants, activeCapture, mjpegSessions
        } := by
    intro agent
    unfold controlLeaseResult
    simp only
    split
    . exact ⟨_, _, _, _, _, _, _, _, _, rfl⟩
    . split
      . exact ⟨_, _, _, _, _, _, _, _, _, rfl⟩
      . split
        . exact s.acquireControl_frame _ _ _ _ _
        . split
          . exact ⟨_, _, _, _, _, _, _, _, _, rfl⟩
          . split
            . exact hsettle _
            . split
              . exact hsettle _
              . exact ⟨_, _, _, _, _, _, _, _, _, rfl⟩
  unfold controlLeaseMessage
  simp only
  split
  . next agent _ _ _ =>
    have := hresult agent
    split
    . next heq =>
      rw [heq] at this
      exact this
    . next heq =>
      rw [heq] at this
      exact this
    . next heq =>
      rw [heq] at this
      exact this
  . exact ⟨_, _, _, _, _, _, _, _, _, rfl⟩

/-!
Module reports and disable requests.
-/

theorem acceptModuleReport_frame (agent conn : Uuid) (value : Json)
    : ∃ moduleReports modules sessions sockets capture cleanups room activeCapture,
      (s.acceptModuleReport agent conn value).2 = {
        s with moduleReports, modules, sessions, sockets, capture, cleanups, room, activeCapture
      } := by
  unfold acceptModuleReport
  split
  . exact ⟨_, _, _, _, _, _, _, _, rfl⟩
  . simp only
    split
    . exact ⟨_, _, _, _, _, _, _, _, rfl⟩
    . split
      . exact ⟨_, _, _, _, _, _, _, _, rfl⟩
      . next report _ _ _ =>
        rcases applyGrants_frame
          { s with moduleReports := Function.update s.moduleReports agent (some report) } agent conn
          report ((Table.values (s.pendingDisables agent)).any
            (fun request => request.module = .remoteInput)) with ⟨_, _, _, _, _, _, heq⟩
        rw [heq]
        exact ⟨_, _, _, _, _, _, _, _, rfl⟩

theorem acceptModuleDisableAck_frame (agent conn : Uuid) (value : Json) (acknowledged : Bool)
    : ∃ disableRequests moduleReports modules sessions sockets capture cleanups room activeCapture,
      (s.acceptModuleDisableAck agent conn value acknowledged).2 = {
        s with
        disableRequests, moduleReports, modules, sessions, sockets, capture, cleanups, room
        activeCapture
      } := by
  have happly : ∀ (t : AppState) commandId report,
      ∃ modules sessions sockets capture cleanups room activeCapture,
        t.applyAck agent conn commandId report
          = { t with modules, sessions, sockets, capture, cleanups, room, activeCapture } := by
    intro t commandId report
    unfold applyAck forgetPending
    cases report with
    | none =>
      simp only
      split
      . exact ⟨_, _, _, _, _, _, _, rfl⟩
      . exact ⟨_, _, _, _, _, _, _, rfl⟩
    | some report =>
      rcases t.applyGrants_frame agent conn report false with ⟨_, _, _, _, _, _, heq⟩
      simp only
      rw [heq]
      split
      . exact ⟨_, _, _, _, _, _, _, rfl⟩
      . exact ⟨_, _, _, _, _, _, _, rfl⟩
  unfold acceptModuleDisableAck
  split
  . exact ⟨_, _, _, _, _, _, _, _, _, rfl⟩
  . split
    . exact ⟨_, _, _, _, _, _, _, _, _, rfl⟩
    . split
      . exact ⟨_, _, _, _, _, _, _, _, _, rfl⟩
      . split
        . exact ⟨_, _, _, _, _, _, _, _, _, rfl⟩
        . next ack _ _ _ request _ =>
          simp only
          split
          . exact ⟨_, _, _, _, _, _, _, _, _, rfl⟩
          . split
            . exact ⟨_, _, _, _, _, _, _, _, _, rfl⟩
            . split
              . exact ⟨_, _, _, _, _, _, _, _, _, rfl⟩
              . split
                . exact ⟨_, _, _, _, _, _, _, _, _, rfl⟩
                . rcases happly _ _ _ with ⟨_, _, _, _, _, _, _, heq⟩
                  rw [heq]
                  exact ⟨_, _, _, _, _, _, _, _, _, rfl⟩

theorem requestDisable_frame (agent : Uuid) (user : AuthUser) (m : Module) (expectedRevision : Nat)
    (commandId : Uuid) (now : Nat) (readBack : Bool)
    : ∃ disableRequests modules sessions sockets capture cleanups room,
      (s.requestDisable agent user m expectedRevision commandId now readBack).2
        = { s with disableRequests, modules, sessions, sockets, capture, cleanups, room } := by
  have hcreate : ∃ disableRequests,
      s.createModuleDisable agent m expectedRevision commandId = { s with disableRequests } := by
    unfold createModuleDisable
    split
    . exact ⟨_, rfl⟩
    . exact ⟨_, rfl⟩
  have hblock : ∀ (t : AppState) request retry, ∃ modules sessions sockets capture cleanups room,
      (t.blockModule agent request retry now).2
        = { t with modules, sessions, sockets, capture, cleanups, room } := by
    intro t request retry
    unfold blockModule
    split
    . exact ⟨_, _, _, _, _, _, rfl⟩
    . next conn _ =>
      have hrevoke : ∃ sessions sockets capture cleanups room,
          (if request.module = .remoteInput ∨ request.module = .liveScreen then
            t.revokeAgentControl agent conn else t)
            = { t with sessions, sockets, capture, cleanups, room } := by
        split
        . exact t.revokeAgentControl_frame agent conn
        . exact ⟨_, _, _, _, _, rfl⟩
      rcases hrevoke with ⟨_, _, _, _, _, heq⟩
      simp only [heq]
      split
      . exact ⟨_, _, _, _, _, _, rfl⟩
      . split
        . exact ⟨_, _, _, _, _, _, rfl⟩
        . exact ⟨_, _, _, _, _, _, rfl⟩
  rcases hcreate with ⟨_, hcreate⟩
  unfold requestDisable
  simp only [hcreate]
  split
  . exact ⟨_, _, _, _, _, _, _, rfl⟩
  . split
    . exact ⟨_, _, _, _, _, _, _, rfl⟩
    . split
      . exact ⟨_, _, _, _, _, _, _, rfl⟩
      . split
        . exact ⟨_, _, _, _, _, _, _, rfl⟩
        . split
          . rcases hblock _ _ _ with ⟨_, _, _, _, _, _, heq⟩
            rw [heq]
            exact ⟨_, _, _, _, _, _, _, rfl⟩
          . exact ⟨_, _, _, _, _, _, _, rfl⟩

theorem replayModuleDisable_frame (agent conn commandId : Uuid) (now : Nat) (marked : Bool)
    : ∃ disableRequests modules sockets room,
      s.replayModuleDisable agent conn commandId now marked
        = { s with disableRequests, modules, sockets, room } := by
  unfold replayModuleDisable
  split
  . exact ⟨_, _, _, _, rfl⟩
  . split
    . exact ⟨_, _, _, _, rfl⟩
    . split
      . exact ⟨_, _, _, _, rfl⟩
      . next command _ =>
        rcases s.enqueueAuthorizedCommand_frame agent conn command .command with ⟨_, _, henqueue⟩
        split
        . next heq =>
          rw [heq] at henqueue
          exact ⟨_, _, _, _, henqueue⟩
        . next heq =>
          rw [heq] at henqueue
          simp only at henqueue
          rw [henqueue]
          simp only
          split
          . exact ⟨_, _, _, _, rfl⟩
          . exact ⟨_, _, _, _, rfl⟩

/-!
Captures.
-/

theorem clearCaptureConnection_frame (agent conn : Uuid)
    : ∃ retiredCaptures mjpegSessions captureViewers activeCapture frames,
      s.clearCaptureConnection agent conn
        = { s with retiredCaptures, mjpegSessions, captureViewers, activeCapture, frames } := by
  unfold clearCaptureConnection
  simp only
  split
  . split
    . exact ⟨_, _, _, _, _, rfl⟩
    . exact ⟨_, _, _, _, _, rfl⟩
  . split
    . exact ⟨_, _, _, _, _, rfl⟩
    . exact ⟨_, _, _, _, _, rfl⟩

theorem restartCapture_frame (agent conn : Uuid) (prefs : MjpegViewerPrefs)
    (wireMonitor : Option Nat) (fresh : Uuid)
    : ∃ sockets room minted retiredCaptures activeCapture frames,
      (s.restartCapture agent conn prefs wireMonitor fresh).2
        = { s with sockets, room, minted, retiredCaptures, activeCapture, frames } := by
  unfold restartCapture
  simp only
  generalize hstart : AppState.mk _ _ _ _ _ _ _ _ _ _ _ _ _ _ _ _ _ _ _ = s'
  rcases s'.enqueueCapture_frame agent conn
    (startCapture wireMonitor prefs.jpegQuality prefs.intervalMs) (some fresh) with ⟨_, _, hframe⟩
  subst hstart
  split
  . next heq =>
    rw [heq] at hframe
    exact ⟨_, _, _, _, _, _, hframe⟩
  . next heq =>
    rw [heq] at hframe
    simp only at hframe
    rw [hframe]
    exact ⟨_, _, _, _, _, _, rfl⟩

theorem syncCapture_frame (agent : Uuid) (requested : Option (Option Nat)) (fresh : Uuid)
    : ∃ sockets room minted retiredCaptures activeCapture frames,
      (s.syncCapture agent requested fresh).2
        = { s with sockets, room, minted, retiredCaptures, activeCapture, frames } := by
  unfold syncCapture
  simp only
  split
  . split
    . next old _ =>
      rcases s.enqueueCapture_frame agent old.connId stopCapture none with ⟨_, _, hframe⟩
      split
      . next heq =>
        rw [heq] at hframe
        exact ⟨_, _, _, _, _, _, hframe⟩
      . next heq =>
        rw [heq] at hframe
        simp only at hframe
        rw [hframe]
        exact ⟨_, _, _, _, _, _, rfl⟩
    . exact ⟨_, _, _, _, _, _, rfl⟩
  . exact ⟨_, _, _, _, _, _, rfl⟩
  . split
    . split
      . exact ⟨_, _, _, _, _, _, rfl⟩
      . exact s.restartCapture_frame _ _ _ _ _
    . split
      . exact ⟨_, _, _, _, _, _, rfl⟩
      . exact s.restartCapture_frame _ _ _ _ _

theorem admitMjpegSession_frame (agent conn session user : Uuid) (prefs : MjpegViewerPrefs)
    (requestedMonitor : Option Nat) (fresh : Uuid)
    : ∃ mjpegSessions captureViewers sockets room minted retiredCaptures activeCapture frames,
      (s.admitMjpegSession agent conn session user prefs requestedMonitor fresh).2 = {
        s with
        mjpegSessions, captureViewers, sockets, room, minted, retiredCaptures, activeCapture, frames
      } := by
  unfold admitMjpegSession
  simp only
  split
  . exact ⟨_, _, _, _, _, _, _, _, rfl⟩
  . generalize hopen : setViewers _ _ _ = opened
    rcases opened.syncCapture_frame agent (some prefs.monitor) fresh with ⟨_, _, _, _, _, _, hsync⟩
    subst hopen
    split
    . next heq =>
      rw [heq] at hsync
      exact ⟨_, _, _, _, _, _, _, _, hsync⟩
    . next heq =>
      rw [heq] at hsync
      simp only at hsync
      rw [hsync]
      exact ⟨_, _, _, _, _, _, _, _, rfl⟩

theorem beginMjpegSession_frame (agent session user : Uuid) (prefs : MjpegViewerPrefs)
    (requestedMonitor : Option Nat) (now : Nat) (fresh : Uuid)
    : ∃ sessions capture cleanups mjpegSessions captureViewers sockets room minted retiredCaptures
        activeCapture frames,
      (s.beginMjpegSession agent session user prefs requestedMonitor now fresh).2 = {
        s with
        sessions, capture, cleanups, mjpegSessions, captureViewers, sockets, room, minted
        retiredCaptures, activeCapture, frames
      } := by
  have hexpire : ∃ sessions sockets capture cleanups room,
      s.expireControl now = { s with sessions, sockets, capture, cleanups, room } := by
    rcases s.settle_frame (s.sessions.expire now) with ⟨_, _, _, _, heq⟩
    exact ⟨_, _, _, _, _, heq⟩
  rcases hexpire with ⟨_, _, _, _, _, hexpire⟩
  unfold beginMjpegSession
  simp only [hexpire]
  split
  . exact ⟨_, _, _, _, _, _, _, _, _, _, _, rfl⟩
  . split
    . exact ⟨_, _, _, _, _, _, _, _, _, _, _, rfl⟩
    . split
      . exact ⟨_, _, _, _, _, _, _, _, _, _, _, rfl⟩
      . split
        . exact ⟨_, _, _, _, _, _, _, _, _, _, _, rfl⟩
        . generalize hexpired : AppState.mk _ _ _ _ _ _ _ _ _ _ _ _ _ _ _ _ _ _ _ = t
          rcases t.admitMjpegSession_frame agent _ session user _ requestedMonitor fresh with
            ⟨_, _, _, _, _, _, _, _, heq⟩
          rw [heq, ← hexpired]
          exact ⟨_, _, _, _, _, _, _, _, _, _, _, rfl⟩

theorem endMjpegSession_frame (agent session : Uuid) (user : Option Uuid) (fresh : Uuid)
    : ∃ sessions capture cleanups mjpegSessions captureViewers sockets room minted retiredCaptures
        activeCapture frames,
      (s.endMjpegSession agent session user fresh).2 = {
        s with
        sessions, capture, cleanups, mjpegSessions, captureViewers, sockets, room, minted
        retiredCaptures, activeCapture, frames
      } := by
  have hsync : ∀ t : AppState, ∃ captureViewers sockets room minted retiredCaptures activeCapture
      frames, ((t.setViewers agent (t.sessionCount agent)).syncCapture agent none fresh).2
        = { t with captureViewers, sockets, room, minted, retiredCaptures, activeCapture, frames } := by
    intro t
    rcases (t.setViewers agent (t.sessionCount agent)).syncCapture_frame agent none fresh with
      ⟨_, _, _, _, _, _, heq⟩
    exact ⟨_, _, _, _, _, _, _, heq⟩
  unfold endMjpegSession
  split
  . exact ⟨_, _, _, _, _, _, _, _, _, _, _, rfl⟩
  . next mapped _ =>
    simp only
    split
    . generalize hended : AppState.mk _ _ _ _ _ _ _ _ _ _ _ _ _ _ _ _ _ _ _ = t
      rcases t.revokeAgentControl_frame agent mapped.connId with ⟨_, _, _, _, _, hrevoke⟩
      rcases hsync (t.revokeAgentControl agent mapped.connId) with ⟨_, _, _, _, _, _, _, heq⟩
      rw [heq, hrevoke, ← hended]
      exact ⟨_, _, _, _, _, _, _, _, _, _, _, rfl⟩
    . rcases hsync _ with ⟨_, _, _, _, _, _, _, heq⟩
      rw [heq]
      exact ⟨_, _, _, _, _, _, _, _, _, _, _, rfl⟩

/-!
The clipboard and the delivery.
-/

theorem clipboardValid_frame (p : PendingClipboard) (now : Nat)
    : ∃ sessions sockets capture cleanups room,
      (s.clipboardValid p now).2 = { s with sessions, sockets, capture, cleanups, room } := by
  unfold clipboardValid
  split
  . exact ⟨_, _, _, _, _, rfl⟩
  . simp only
    generalize s.sessions.authorize _ _ _ _ = transition
    rcases s.settle_frame (transition.cleanup, transition.sessions) with ⟨_, _, _, _, heq⟩
    split
    . exact ⟨_, _, _, _, _, heq⟩
    . exact ⟨_, _, _, _, _, heq⟩

theorem dropWaiter_frame (id : Uuid)
    : ∃ sockets room,
      s.dropWaiter id = { s with clipboard := s.clipboard.erase id, sockets, room } := by
  unfold dropWaiter
  split
  . next hnone =>
    have : s.clipboard.erase id = s.clipboard := by
      apply AList.ext
      rw [Table.entries_erase]
      rw [AList.lookup_eq_none, AList.mem_keys] at hnone
      exact List.kerase_of_notMem_keys hnone
    rw [this]
    exact ⟨_, _, rfl⟩
  . exact enqueueAuthorizedCommand_frame _ _ _ _ _

theorem enqueueClipboard_frame (p : PendingClipboard) (authorized : Json) (now : Nat) (fresh : Uuid)
    : ∃ sessions sockets capture cleanups room clipboard,
      (s.enqueueClipboard p authorized now fresh).2
        = { s with sessions, sockets, capture, cleanups, room, clipboard } := by
  rcases s.clipboardValid_frame p now with ⟨_, _, _, _, _, hvalid⟩
  unfold enqueueClipboard
  split
  . next heq =>
    rw [heq] at hvalid
    exact ⟨_, _, _, _, _, _, hvalid⟩
  . next t heq =>
    rw [heq] at hvalid
    simp only at hvalid
    subst hvalid
    split
    . exact ⟨_, _, _, _, _, _, rfl⟩
    . generalize hinserted : AppState.mk _ _ _ _ _ _ _ _ _ _ _ _ _ _ _ _ _ _ _ = u
      rcases u.enqueueAuthorizedCommand_frame p.agent p.owner.agentConnectionId authorized
        .command with ⟨_, _, henqueue⟩
      subst hinserted
      split
      . next hres =>
        rw [hres] at henqueue
        exact ⟨_, _, _, _, _, _, henqueue⟩
      . next hres =>
        rw [hres] at henqueue
        simp only at henqueue
        rw [henqueue]
        exact ⟨_, _, _, _, _, _, rfl⟩

theorem deliver_frame (conn : Uuid) (now : Nat)
    : ∃ sessions sockets capture cleanups room,
      s.deliver conn now = { s with sessions, sockets, capture, cleanups, room } := by
  have hcommand : ∀ (t : AppState) agent cmd, ∃ sessions sockets capture cleanups room,
      (t.commandDeliverable agent conn cmd now).2
        = { t with sessions, sockets, capture, cleanups, room } := by
    intro t agent cmd
    unfold commandDeliverable clipboardDeliverable
    simp only
    split
    . split
      . exact ⟨_, _, _, _, _, rfl⟩
      . split
        . exact t.clipboardValid_frame _ _
        . exact ⟨_, _, _, _, _, rfl⟩
    . exact ⟨_, _, _, _, _, rfl⟩
  unfold deliver
  simp only
  split
  . exact ⟨_, _, _, _, _, rfl⟩
  . split
    . next cmd _ =>
      rcases hcommand (s.take conn) (s.sockets conn).agent cmd with ⟨_, _, _, _, _, hframe⟩
      split
      . next heq =>
        rw [heq] at hframe
        simp only at hframe
        rw [hframe]
        exact ⟨_, _, _, _, _, rfl⟩
      . next heq =>
        rw [heq] at hframe
        exact ⟨_, _, _, _, _, hframe⟩
    . split
      . exact ⟨_, _, _, _, _, rfl⟩
      . exact ⟨_, _, _, _, _, rfl⟩

end AppState

end Vantyr
