import Vantyr.Server.Footprint
import Vantyr.Server.Registry

/-!
This module proves that the viewer count of an agent is the number of its live view sessions, and that
a session that is refused leaves no trace.
-/

namespace Vantyr

namespace AppState

-- The tables that few entry points change: the sessions, their count and the clipboard requests.
def views (s : AppState) : AList (fun _ : Uuid => MjpegSession) × (Uuid → Option Nat)
    × AList (fun _ : Uuid => PendingClipboard) :=
  (s.mjpegSessions, s.captureViewers, s.clipboard)

-- The count kept for an agent is the number of its sessions, and there is none when it is zero.
def Counted (s : AppState) : Prop :=
  ∀ agent, s.captureViewers agent
    = if s.sessionCount agent = 0 then none else some (s.sessionCount agent)

theorem Counted.of_eq {s t : AppState} (h : s.Counted) (hsessions : t.mjpegSessions = s.mjpegSessions)
    (hviewers : t.captureViewers = s.captureViewers) : t.Counted := by
  intro agent
  have hcount : t.sessionCount agent = s.sessionCount agent := by
    unfold sessionCount
    rw [hsessions]
  rw [hviewers, h agent, hcount]

theorem Counted.of_views {s t : AppState} (h : s.Counted) (hviews : t.views = s.views)
    : t.Counted := by
  simp only [views, Prod.mk.injEq] at hviews
  exact h.of_eq hviews.1 hviews.2.1

theorem Counted.of_clipboard {s t : AppState} {clipboard : AList (fun _ : Uuid => PendingClipboard)}
    (h : s.Counted) (hviews : t.views = { s with clipboard }.views) : t.Counted := by
  simp only [views, Prod.mk.injEq] at hviews
  exact h.of_eq hviews.1 hviews.2.1

/-!
Most entry points leave these tables alone.
-/

section Frame

variable (s : AppState)

theorem settle_views (change : List LeaseCleanup × ControlSessions)
    : (s.settle change).2.views = s.views := by
  rcases s.settle_frame change with ⟨_, _, _, _, heq⟩
  rw [heq]
  rfl

theorem revokeAgentControl_views (agent conn : Uuid)
    : (s.revokeAgentControl agent conn).views = s.views :=
  s.settle_views _

theorem enqueueAuthorizedCommand_views (agent conn : Uuid) (command : Json) (origin : Origin)
    : (s.enqueueAuthorizedCommand agent conn command origin).2.views = s.views := by
  rcases s.enqueueAuthorizedCommand_frame agent conn command origin with ⟨_, _, heq⟩
  rw [heq]
  rfl

theorem syncCapture_views (agent : Uuid) (requested : Option (Option Nat)) (fresh : Uuid)
    : (s.syncCapture agent requested fresh).2.views = s.views := by
  rcases s.syncCapture_frame agent requested fresh with ⟨_, _, _, _, _, _, heq⟩
  rw [heq]
  rfl

theorem clipboardValid_views (p : PendingClipboard) (now : Nat)
    : (s.clipboardValid p now).2.views = s.views := by
  rcases s.clipboardValid_frame p now with ⟨_, _, _, _, _, heq⟩
  rw [heq]
  rfl

theorem dropWaiter_views (id : Uuid)
    : (s.dropWaiter id).views = { s with clipboard := s.clipboard.erase id }.views := by
  rcases s.dropWaiter_frame id with ⟨_, _, heq⟩
  rw [heq]
  rfl

end Frame

/-!
Counting the sessions of an agent.
-/

def countFor (agent : Uuid) (sessions : AList (fun _ : Uuid => MjpegSession)) : Nat :=
  sessions.entries.countP (fun entry => entry.2.agentId = agent)

theorem sessionCount_eq (s : AppState) (agent : Uuid)
    : s.sessionCount agent = countFor agent s.mjpegSessions := by
  unfold sessionCount countFor Table.values
  rw [← List.countP_eq_length_filter, List.countP_map]
  rfl

theorem countFor_insert {sessions : AList (fun _ : Uuid => MjpegSession)} {session : Uuid}
    (h : sessions.lookup session = none) (mapped : MjpegSession) (agent : Uuid)
    : countFor agent (sessions.insert session mapped)
        = countFor agent sessions + if mapped.agentId = agent then 1 else 0 := by
  rw [AList.lookup_eq_none] at h
  simp only [countFor, AList.entries_insert_of_notMem h, List.countP_cons, decide_eq_true_eq]

theorem insert_erase {sessions : AList (fun _ : Uuid => MjpegSession)} {session : Uuid}
    (h : sessions.lookup session = none) (mapped : MjpegSession)
    : (sessions.insert session mapped).erase session = sessions := by
  rw [AList.lookup_eq_none] at h
  apply AList.ext
  rw [Table.entries_erase, AList.entries_insert_of_notMem h]
  exact List.kerase_cons_eq rfl

theorem countFor_erase {sessions : AList (fun _ : Uuid => MjpegSession)} {session agent : Uuid}
    (h : ∀ mapped, sessions.lookup session = some mapped → mapped.agentId ≠ agent)
    : countFor agent (sessions.erase session) = countFor agent sessions := by
  unfold countFor
  rw [Table.entries_erase]
  cases hmapped : sessions.lookup session with
  | none =>
    rw [AList.lookup_eq_none, AList.mem_keys] at hmapped
    rw [List.kerase_of_notMem_keys hmapped]
  | some mapped =>
    rw [(Table.perm_of_lookup hmapped).countP_eq, List.countP_cons_of_neg]
    simpa using h mapped hmapped

theorem countFor_retain (keep : MjpegSession → Bool) (sessions : AList (fun _ : Uuid => MjpegSession))
    {agent : Uuid} (h : ∀ mapped, mapped.agentId = agent → keep mapped = true)
    : countFor agent (Table.retain (fun _ mapped => keep mapped) sessions)
        = countFor agent sessions := by
  unfold countFor Table.retain
  rw [List.countP_filter]
  apply List.countP_congr
  intro entry _
  have := h entry.2
  simp only [Bool.and_eq_true, decide_eq_true_eq]
  constructor
  . intro hentry
    exact hentry.1
  . intro hentry
    exact ⟨hentry, this hentry⟩

theorem countFor_mapValues (f : MjpegSession → MjpegSession)
    (hf : ∀ mapped, (f mapped).agentId = mapped.agentId)
    (sessions : AList (fun _ : Uuid => MjpegSession)) (agent : Uuid)
    : countFor agent (Table.mapValues f sessions) = countFor agent sessions := by
  unfold countFor Table.mapValues
  simp only [List.countP_map]
  apply List.countP_congr
  intro entry _
  simp [hf]

theorem countFor_moveToFront (session agent : Uuid) (sessions : AList (fun _ : Uuid => MjpegSession))
    : countFor agent (Table.moveToFront session sessions) = countFor agent sessions := by
  unfold Table.moveToFront
  split
  . next mapped hmapped =>
    unfold countFor
    rw [AList.entries_insert, (Table.perm_of_lookup hmapped).countP_eq]
  . rfl

/-!
The entry points that change the sessions.
-/

theorem counted_iff (s : AppState)
    : s.Counted ↔ ∀ agent, s.captureViewers agent
        = if countFor agent s.mjpegSessions = 0 then none
          else some (countFor agent s.mjpegSessions) := by
  unfold Counted
  simp only [sessionCount_eq]

theorem Counted.counted_insert {s : AppState} {session : Uuid} (h : s.Counted)
    (hsession : s.mjpegSessions.lookup session = none) (mapped : MjpegSession)
    : ({ s with mjpegSessions := s.mjpegSessions.insert session mapped }.setViewers mapped.agentId
        ((s.captureViewers mapped.agentId).getD 0 + 1)).Counted := by
  rw [counted_iff] at h ⊢
  intro agent
  have hagent := h agent
  simp only [setViewers, countFor_insert hsession, Function.update_apply]
  by_cases heq : agent = mapped.agentId
  . subst heq
    have hcount : (s.captureViewers mapped.agentId).getD 0
        = countFor mapped.agentId s.mjpegSessions := by
      rw [hagent]
      split
      . next hzero => simp [hzero]
      . rfl
    simp [hcount]
  . have : mapped.agentId ≠ agent := fun h => heq h.symm
    simp [heq, this, hagent]

-- The sessions of one agent change, and its count is taken anew.
theorem Counted.counted_recount {s : AppState} (h : s.Counted) (agent : Uuid)
    (sessions : AList (fun _ : Uuid => MjpegSession))
    (hother : ∀ other, other ≠ agent → countFor other sessions = countFor other s.mjpegSessions)
    : ({ s with mjpegSessions := sessions }.setViewers agent
        ({ s with mjpegSessions := sessions }.sessionCount agent)).Counted := by
  rw [counted_iff] at h ⊢
  intro other
  simp only [setViewers, sessionCount_eq, Function.update_apply]
  by_cases heq : other = agent
  . subst heq
    simp
  . rw [if_neg heq, h other, hother other heq]

theorem counted_clearCaptureConnection {s : AppState} (h : s.Counted) (agent conn : Uuid)
    : (s.clearCaptureConnection agent conn).Counted := by
  have hcount := h.counted_recount agent _
    (fun other hother => countFor_retain
      (fun mapped => mapped.agentId ≠ agent ∨ mapped.connId ≠ conn) s.mjpegSessions
      (fun mapped hmapped => by simp [hmapped, hother]))
  apply hcount.of_views
  unfold clearCaptureConnection
  simp only
  split
  . split <;> rfl
  . split <;> rfl

theorem setViewers_restore {s t : AppState} (h : s.Counted) {agent : Uuid} {count : Nat}
    (hviewers : t.captureViewers = Function.update s.captureViewers agent (some count))
    : (t.setViewers agent ((s.captureViewers agent).getD 0)).captureViewers = s.captureViewers := by
  funext other
  have hagent := h agent
  simp only [setViewers, hviewers, Function.update_apply]
  by_cases hother : other = agent
  . subst hother
    rw [if_pos rfl, hagent]
    split
    . simp
    . next hne => simp [hne]
  . simp [hother]

theorem counted_commit {s : AppState} (h : s.Counted) (agent : Uuid) (frozen : FrozenCapture)
    : (s.commitControlCapture agent frozen).Counted := by
  unfold commitControlCapture
  split
  . exact h
  . rw [counted_iff] at h ⊢
    intro other
    rw [countFor_mapValues _ (pinMonitor_agentId _ _ _)]
    exact h other

/-!
A capture that cannot be started or stopped is left as it is.
-/

theorem restartCapture_error {s t : AppState} {agent conn fresh : Uuid} {prefs : MjpegViewerPrefs}
    {wireMonitor : Option Nat} {e : CommandDenied}
    (h : s.restartCapture agent conn prefs wireMonitor fresh = (.error e, t))
    : t.activeCapture = s.activeCapture ∧ t.frames = s.frames := by
  unfold restartCapture at h
  simp only at h
  generalize hstart : AppState.mk _ _ _ _ _ _ _ _ _ _ _ _ _ _ _ _ _ _ _ = s' at h
  rcases s'.enqueueCapture_frame agent conn (startCapture wireMonitor prefs.jpegQuality
    prefs.intervalMs) (some fresh) with ⟨_, _, hframe⟩
  split at h
  . next heq =>
    rw [heq] at hframe
    simp only [Prod.mk.injEq] at h
    simp only at hframe
    rw [← h.2, hframe, ← hstart]
    exact ⟨rfl, rfl⟩
  . simp at h

theorem syncCapture_error {s t : AppState} {agent fresh : Uuid} {requested : Option (Option Nat)}
    {e : CommandDenied} (h : s.syncCapture agent requested fresh = (.error e, t))
    : t.activeCapture = s.activeCapture ∧ t.frames = s.frames := by
  unfold syncCapture at h
  simp only at h
  split at h
  . split at h
    . next old hold =>
      rcases s.enqueueCapture_frame agent old.connId stopCapture none with ⟨_, _, hframe⟩
      split at h
      . next heq =>
        rw [heq] at hframe
        simp only [Prod.mk.injEq] at h
        simp only at hframe
        rw [← h.2, hframe]
        exact ⟨rfl, rfl⟩
      . simp at h
    . simp at h
  . simp at h
  . split at h
    . split at h
      . simp at h
      . exact restartCapture_error h
    . split at h
      . simp at h
      . exact restartCapture_error h

/-!
Beginning and ending a session.
-/

-- Everything a refused session could have changed.
structure Untouched (s t : AppState) : Prop where
  mjpegSessions : t.mjpegSessions = s.mjpegSessions
  captureViewers : t.captureViewers = s.captureViewers
  activeCapture : t.activeCapture = s.activeCapture
  frames : t.frames = s.frames

theorem Untouched.refl (s : AppState) : Untouched s s :=
  ⟨rfl, rfl, rfl, rfl⟩

theorem admitMjpegSession_spec {s : AppState} {session : Uuid} (h : s.Counted)
    (hsession : s.mjpegSessions.lookup session = none) (agent conn user : Uuid)
    (prefs : MjpegViewerPrefs) (requestedMonitor : Option Nat) (fresh : Uuid)
    : (s.admitMjpegSession agent conn session user prefs requestedMonitor fresh).2.Counted
        ∧ ∀ e, (s.admitMjpegSession agent conn session user prefs requestedMonitor fresh).1
            = .error e →
          Untouched s (s.admitMjpegSession agent conn session user prefs requestedMonitor fresh).2 := by
  unfold admitMjpegSession
  simp only
  split
  . exact ⟨h, fun _ _ => Untouched.refl s⟩
  . generalize hmapped : MjpegSession.mk requestedMonitor agent user conn prefs = mapped
    generalize hinsert : AppState.mk _ _ _ _ _ _ _ _ _ _ _ _ _ _ _ _ _ _ _ = s'
    have hagent : mapped.agentId = agent := by rw [← hmapped]
    have hcounted := h.counted_insert hsession mapped
    rw [hinsert, hagent] at hcounted
    have hviews := (s'.setViewers agent ((s.captureViewers agent).getD 0 + 1)).syncCapture_views
      agent (some prefs.monitor) fresh
    split
    . next t heq =>
      rw [heq] at hviews
      refine ⟨hcounted.of_views hviews, ?_⟩
      intro e he
      contradiction
    . next e t heq =>
      have herror := syncCapture_error heq
      rw [heq] at hviews
      simp only [views, Prod.mk.injEq] at hviews
      have hrestored : Untouched s (setViewers
          { t with mjpegSessions := t.mjpegSessions.erase session } agent
          ((s.captureViewers agent).getD 0)) := {
        mjpegSessions := by
          simp only [setViewers, hviews.1, ← hinsert]
          exact insert_erase hsession mapped
        captureViewers := by
          apply setViewers_restore h
          rw [hviews.2.1, ← hinsert]
          simp only [setViewers]
          rfl
        activeCapture := by
          simp only [setViewers, herror.1, ← hinsert]
        frames := by
          simp only [setViewers, herror.2, ← hinsert]
      }
      refine ⟨?_, fun _ _ => hrestored⟩
      exact h.of_eq hrestored.mjpegSessions hrestored.captureViewers

theorem beginMjpegSession_spec {s : AppState} (h : s.Counted) (agent session user : Uuid)
    (prefs : MjpegViewerPrefs) (requestedMonitor : Option Nat) (now : Nat) (fresh : Uuid)
    : (s.beginMjpegSession agent session user prefs requestedMonitor now fresh).2.Counted
        ∧ ∀ e, (s.beginMjpegSession agent session user prefs requestedMonitor now fresh).1
            = .error e →
          Untouched (s.expireControl now)
            (s.beginMjpegSession agent session user prefs requestedMonitor now fresh).2 := by
  have hexpired : (s.expireControl now).Counted := h.of_views (s.settle_views _)
  unfold beginMjpegSession
  generalize s.expireControl now = s' at hexpired
  simp only
  split
  . exact ⟨hexpired, fun _ _ => Untouched.refl s'⟩
  . split
    . exact ⟨hexpired, fun _ _ => Untouched.refl s'⟩
    . split
      . exact ⟨hexpired, fun _ _ => Untouched.refl s'⟩
      . next hsession =>
        split
        . exact ⟨hexpired, fun _ _ => Untouched.refl s'⟩
        . apply admitMjpegSession_spec hexpired
          simpa using hsession

theorem endMjpegSession_counted {s : AppState} (h : s.Counted) (agent session : Uuid)
    (user : Option Uuid) (fresh : Uuid)
    : (s.endMjpegSession agent session user fresh).2.Counted := by
  unfold endMjpegSession
  split
  . exact h
  . next mapped hmapped =>
    rw [Option.filter_eq_some_iff] at hmapped
    simp only [decide_eq_true_eq] at hmapped
    have hcount := h.counted_recount agent (s.mjpegSessions.erase session)
      (fun other hother => countFor_erase (fun m hm => by
        rw [hmapped.1] at hm
        cases hm
        rw [hmapped.2.1]
        exact fun heq => hother heq.symm))
    have hrecount : ∀ t : AppState,
        t.views = { s with mjpegSessions := s.mjpegSessions.erase session }.views →
        (t.setViewers agent (t.sessionCount agent)).Counted := by
      intro t ht
      apply hcount.of_views
      simp only [views, Prod.mk.injEq] at ht
      have hsessions : t.sessionCount agent
          = sessionCount { s with mjpegSessions := s.mjpegSessions.erase session } agent := by
        unfold sessionCount
        rw [ht.1]
      simp only [views, setViewers, hsessions, ht.1, ht.2.1, ht.2.2]
    simp only
    apply (hrecount _ _).of_views (syncCapture_views _ _ _ _)
    split
    . exact revokeAgentControl_views _ _ _
    . rfl

/-!
Every entry point.
-/

theorem acquireControl_counted {s : AppState} (h : s.Counted) (agent : Uuid) (owner : LeaseOwner)
    (value : Json) (now : Nat) (fresh : Uuid)
    : (s.acquireControl agent owner value now fresh).2.Counted := by
  have hexpire := s.settle_views (s.sessions.expireAgent agent now)
  unfold acquireControl
  split
  . next t heq =>
    rw [heq] at hexpire
    exact h.of_views hexpire
  . next t heq =>
    rw [heq] at hexpire
    have ht := h.of_views hexpire
    simp only at ht
    split
    . exact ht
    . next frozen hvalidate =>
      split
      . exact ht
      . simp only
        generalize t.sessions.acquire agent owner defaultLeaseTtl now fresh = transition
        have hsettle := t.settle_views (transition.cleanup, transition.sessions)
        split
        . next u hu =>
          rw [hu] at hsettle
          exact (ht.of_views hsettle).of_views (u.revokeAgentControl_views _ _)
        . next u hu =>
          rw [hu] at hsettle
          have hcounted := ht.of_views hsettle
          simp only at hcounted
          split
          . exact hcounted
          . next grant hgrant =>
            have hrecord : (u.recordGrant grant fresh).views = u.views := by
              unfold recordGrant
              split <;> rfl
            have hfreeze : ∀ v : AppState, (v.freeze agent frozen).views = v.views := by
              intro v
              unfold freeze
              split <;> rfl
            exact (counted_commit (hcounted.of_views hrecord) agent frozen).of_views (hfreeze _)

theorem controlLeaseMessage_counted {s : AppState} (h : s.Counted) (viewer : Uuid) (user : AuthUser)
    (value : Json) (now : Nat) (fresh : Uuid)
    : (s.controlLeaseMessage viewer user value now fresh).2.Counted := by
  have hresult : ∀ agent,
      (s.controlLeaseResult agent viewer user value now fresh).2.Counted := by
    intro agent
    unfold controlLeaseResult
    simp only
    split
    . exact h
    . split
      . exact h
      . split
        . exact acquireControl_counted h _ _ _ _ _
        . split
          . exact h
          . split
            . exact h.of_views (s.settle_views _)
            . split
              . exact h.of_views (s.settle_views _)
              . exact h
  unfold controlLeaseMessage
  simp only
  split
  . next agent request hagent hrequest =>
    have := hresult agent
    split
    . next heq =>
      rw [heq] at this
      exact this
    . next heq =>
      rw [heq] at this
      exact this
    . next heq =>
      rw [heq] at this
      exact this
  . exact h

theorem sendViewerInput_views (s : AppState) (agent viewer : Uuid) (user : AuthUser)
    (token : Option Uuid) (cmd : Json) (now : Nat)
    : (s.sendViewerInput agent viewer user token cmd now).2.views = s.views := by
  rcases s.sendViewerInput_frame agent viewer user token cmd now with ⟨_, _, _, _, _, heq⟩
  rw [heq]
  rfl

theorem authorizeSend_views (s : AppState) (agent : Uuid) (cmd : Json)
    : ((s.authorizeSend agent cmd).toOption.getD s).views = s.views := by
  rcases s.authorizeSend_frame agent cmd with ⟨_, heq⟩
  rw [heq]
  rfl

theorem acceptModuleReport_views (s : AppState) (agent conn : Uuid) (value : Json)
    : (s.acceptModuleReport agent conn value).2.views = s.views := by
  rcases s.acceptModuleReport_frame agent conn value with ⟨_, _, _, _, _, _, _, _, heq⟩
  rw [heq]
  rfl

theorem acceptModuleDisableAck_views (s : AppState) (agent conn : Uuid) (value : Json)
    (acknowledged : Bool)
    : (s.acceptModuleDisableAck agent conn value acknowledged).2.views = s.views := by
  rcases s.acceptModuleDisableAck_frame agent conn value acknowledged with
    ⟨_, _, _, _, _, _, _, _, _, heq⟩
  rw [heq]
  rfl

theorem requestDisable_views (s : AppState) (agent : Uuid) (user : AuthUser) (m : Module)
    (expectedRevision : Nat) (commandId : Uuid) (now : Nat) (readBack : Bool)
    : (s.requestDisable agent user m expectedRevision commandId now readBack).2.views = s.views := by
  rcases s.requestDisable_frame agent user m expectedRevision commandId now readBack with
    ⟨_, _, _, _, _, _, _, heq⟩
  rw [heq]
  rfl

theorem replayModuleDisable_views (s : AppState) (agent conn commandId : Uuid) (now : Nat)
    (marked : Bool) : (s.replayModuleDisable agent conn commandId now marked).views = s.views := by
  rcases s.replayModuleDisable_frame agent conn commandId now marked with ⟨_, _, _, _, heq⟩
  rw [heq]
  rfl

theorem enqueueClipboard_views (s : AppState) (p : PendingClipboard) (authorized : Json) (now : Nat)
    (fresh : Uuid)
    : ∃ clipboard, (s.enqueueClipboard p authorized now fresh).2.views
        = { s with clipboard }.views := by
  rcases s.enqueueClipboard_frame p authorized now fresh with ⟨_, _, _, _, _, _, heq⟩
  rw [heq]
  exact ⟨_, rfl⟩

theorem deliver_views (s : AppState) (conn : Uuid) (now : Nat)
    : (s.deliver conn now).views = s.views := by
  rcases s.deliver_frame conn now with ⟨_, _, _, _, _, heq⟩
  rw [heq]
  rfl

theorem counted_exec {s : AppState} (h : s.Counted) (op : Op) : (s.exec op).Counted := by
  cases op with
  | register agent historyKnown fresh =>
    simp only [exec, registerConnection]
    split
    . next old _ =>
      have hcleared := counted_clearCaptureConnection
        (h.of_views (s.revokeAgentControl_views agent old)) agent old
      exact hcleared.of_views rfl
    . exact h.of_views rfl
  | cleanup agent conn =>
    have hcleared := counted_clearCaptureConnection
      (h.of_views (s.revokeAgentControl_views agent conn)) agent conn
    simp only [exec, cleanupConnection]
    split
    . exact hcleared.of_views rfl
    . exact hcleared
  | invalidate agent reason =>
    simp only [exec, invalidateAgentConnection]
    split
    . next conn _ =>
      have hcleared := counted_clearCaptureConnection
        (h.of_views (s.revokeAgentControl_views agent conn)) agent conn
      exact hcleared.of_views rfl
    . exact h.of_views rfl
  | deliver conn now => exact h.of_views (s.deliver_views conn now)
  | frame agent conn geometry now =>
    simp only [exec, ingestFrame]
    split
    . exact h.of_views rfl
    . exact h
  | moduleReport agent conn value => exact h.of_views (s.acceptModuleReport_views _ _ _)
  | disableAck agent conn value acknowledged =>
    exact h.of_views (s.acceptModuleDisableAck_views _ _ _ _)
  | requestDisable agent user m expectedRevision commandId now readBack =>
    exact h.of_views (s.requestDisable_views _ _ _ _ _ _ _)
  | replayDisable agent conn commandId now marked =>
    exact h.of_views (s.replayModuleDisable_views _ _ _ _ _)
  | syncCapture agent fresh => exact h.of_views (s.syncCapture_views _ _ _)
  | beginSession agent session user prefs requestedMonitor now fresh =>
    exact (beginMjpegSession_spec h _ _ _ _ _ _ _).1
  | endSession agent session user fresh => exact endMjpegSession_counted h _ _ _ _
  | leaseMessage viewer user value now fresh => exact controlLeaseMessage_counted h _ _ _ _ _
  | viewerCommand agent viewer user token cmd now =>
    simp only [exec, viewerCommand]
    split
    . exact h
    . split
      . exact h.of_views (s.sendViewerInput_views _ _ _ _ _ _)
      . exact h.of_views (s.authorizeSend_views _ _)
  | viewerGone viewer => exact h.of_views (s.settle_views _)
  | expire now => exact h.of_views (s.settle_views _)
  | sendCommand agent cmd => exact h.of_views (s.authorizeSend_views _ _)
  | finishSend index =>
    simp only [exec, finishSend]
    split
    . exact h
    . exact h.of_views (enqueueAuthorizedCommand_views _ _ _ _ _)
  | clipboardRequest agent user request now fresh =>
    simp only [exec, clipboardExchange]
    split
    . exact h
    . split
      . exact h.of_views rfl
      . split
        . exact h.of_views rfl
        . split
          . exact h.of_views rfl
          . next authorized _ =>
            rcases enqueueClipboard_views { s with minted := fresh :: s.minted } _ authorized now
              fresh with ⟨clipboard, heq⟩
            exact h.of_clipboard heq
  | clipboardTick id now =>
    simp only [exec, clipboardTick]
    split
    . exact h
    . next p _ =>
      have hvalid := h.of_views (s.clipboardValid_views p now)
      split
      . exact hvalid.of_clipboard (dropWaiter_views _ _)
      . exact hvalid
  | clipboardReceive id now =>
    simp only [exec, clipboardReceive]
    split
    . exact h
    . split
      . exact h
      . exact h.of_clipboard (clipboardValid_views _ _ _)
  | clipboardDrop id => exact h.of_clipboard (s.dropWaiter_views id)
  | clipboardResult agent conn value now =>
    simp only [exec, completeClipboard]
    split
    . exact h
    . split
      . exact h
      . split
        . exact h
        . next p _ _ => exact (h.of_views (s.clipboardValid_views p now)).of_eq rfl rfl
  | provideRoom room => exact h.of_views rfl
  | reorderSessions session =>
    rw [counted_iff] at h ⊢
    intro agent
    simp only [exec, countFor_moveToFront]
    exact h agent
  | reorderLeases agent => exact h.of_views rfl

end AppState

theorem Reachable.counted {s : AppState} (h : Reachable s) : s.Counted := by
  induction h with
  | refl =>
    intro agent
    rfl
  | tail _ hstep ih =>
    rcases hstep with ⟨op, _, heq⟩
    subst heq
    exact AppState.counted_exec ih op

/--
The viewer count of an agent is the number of its live view sessions, and a session that is refused
changes nothing beyond the collection of expired leases.
-/
theorem viewers_counted {s : AppState} (h : Reachable s)
    : (∀ agent, s.captureViewers agent
        = if s.sessionCount agent = 0 then none else some (s.sessionCount agent))
      ∧ ∀ agent session user prefs requestedMonitor now fresh e,
        (s.beginMjpegSession agent session user prefs requestedMonitor now fresh).1 = .error e →
        AppState.Untouched (s.expireControl now)
          (s.beginMjpegSession agent session user prefs requestedMonitor now fresh).2 := by
  refine ⟨h.counted, ?_⟩
  intro agent session user prefs requestedMonitor now fresh
  exact (AppState.beginMjpegSession_spec h.counted agent session user prefs requestedMonitor now
    fresh).2

theorem viewers_counted_viewed : (AppState.init.run Example.viewed).captureViewers 1 = some 1 := by
  have hreachable : Reachable (AppState.init.run Example.viewed) :=
    AppState.reachable_run (by decide +kernel)
  have hcount : (AppState.init.run Example.viewed).sessionCount 1 = 1 := by
    decide +kernel
  rw [(viewers_counted hreachable).1 1, hcount]
  rfl

end Vantyr
