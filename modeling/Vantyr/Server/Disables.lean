import Vantyr.Server.Viewers
import Vantyr.Server.CaptureAgreement

/-!
This module contains what holds of the disable requests of a device: the requests a connection keeps in
memory are the ones that are pending in the database, at most one of them for a module, a request that
has ended stays as it is, and only the connection a request was sent on can end it.
-/

namespace Vantyr

-- The `LIMIT` of the query that reads the pending requests of a device.
def disableRowLimit : Nat := 200

namespace AppState

-- The tables that only the entry points of the disable requests change.
def disables (s : AppState) : (Uuid → Option RuntimeModules)
    × AList (fun _ : Uuid => ModuleDisableRequest) :=
  (s.modules, s.disableRequests)

/-!
The other entry points leave these tables alone.
-/

section Frame

variable (s : AppState)

theorem settle_disables (change : List LeaseCleanup × ControlSessions)
    : (s.settle change).2.disables = s.disables := by
  rcases s.settle_frame change with ⟨_, _, _, _, heq⟩
  rw [heq]
  rfl

theorem revokeAgentControl_disables (agent conn : Uuid)
    : (s.revokeAgentControl agent conn).disables = s.disables :=
  s.settle_disables _

theorem enqueueAuthorizedCommand_disables (agent conn : Uuid) (command : Json) (origin : Origin)
    : (s.enqueueAuthorizedCommand agent conn command origin).2.disables = s.disables := by
  rcases s.enqueueAuthorizedCommand_frame agent conn command origin with ⟨_, _, heq⟩
  rw [heq]
  rfl

theorem clearCaptureConnection_disables (agent conn : Uuid)
    : (s.clearCaptureConnection agent conn).disables = s.disables := by
  rcases s.clearCaptureConnection_frame agent conn with ⟨_, _, _, _, _, heq⟩
  rw [heq]
  rfl

theorem syncCapture_disables (agent : Uuid) (requested : Option (Option Nat)) (fresh : Uuid)
    : (s.syncCapture agent requested fresh).2.disables = s.disables := by
  rcases s.syncCapture_frame agent requested fresh with ⟨_, _, _, _, _, _, heq⟩
  rw [heq]
  rfl

theorem beginMjpegSession_disables (agent session user : Uuid) (prefs : MjpegViewerPrefs)
    (requestedMonitor : Option Nat) (now : Nat) (fresh : Uuid)
    : (s.beginMjpegSession agent session user prefs requestedMonitor now fresh).2.disables
        = s.disables := by
  rcases s.beginMjpegSession_frame agent session user prefs requestedMonitor now fresh with
    ⟨_, _, _, _, _, _, _, _, _, _, _, heq⟩
  rw [heq]
  rfl

theorem endMjpegSession_disables (agent session : Uuid) (user : Option Uuid) (fresh : Uuid)
    : (s.endMjpegSession agent session user fresh).2.disables = s.disables := by
  rcases s.endMjpegSession_frame agent session user fresh with
    ⟨_, _, _, _, _, _, _, _, _, _, _, heq⟩
  rw [heq]
  rfl

theorem controlLeaseMessage_disables (viewer : Uuid) (user : AuthUser) (value : Json) (now : Nat)
    (fresh : Uuid) : (s.controlLeaseMessage viewer user value now fresh).2.disables = s.disables := by
  rcases s.controlLeaseMessage_frame viewer user value now fresh with
    ⟨_, _, _, _, _, _, _, _, _, heq⟩
  rw [heq]
  rfl

theorem sendViewerInput_disables (agent viewer : Uuid) (user : AuthUser) (token : Option Uuid)
    (cmd : Json) (now : Nat)
    : (s.sendViewerInput agent viewer user token cmd now).2.disables = s.disables := by
  rcases s.sendViewerInput_frame agent viewer user token cmd now with ⟨_, _, _, _, _, heq⟩
  rw [heq]
  rfl

theorem authorizeSend_disables (agent : Uuid) (cmd : Json)
    : ((s.authorizeSend agent cmd).toOption.getD s).disables = s.disables := by
  rcases s.authorizeSend_frame agent cmd with ⟨_, heq⟩
  rw [heq]
  rfl

theorem clipboardValid_disables (p : PendingClipboard) (now : Nat)
    : (s.clipboardValid p now).2.disables = s.disables := by
  rcases s.clipboardValid_frame p now with ⟨_, _, _, _, _, heq⟩
  rw [heq]
  rfl

theorem dropWaiter_disables (id : Uuid) : (s.dropWaiter id).disables = s.disables := by
  rcases s.dropWaiter_frame id with ⟨_, _, heq⟩
  rw [heq]
  rfl

theorem enqueueClipboard_disables (p : PendingClipboard) (authorized : Json) (now : Nat)
    (fresh : Uuid) : (s.enqueueClipboard p authorized now fresh).2.disables = s.disables := by
  rcases s.enqueueClipboard_frame p authorized now fresh with ⟨_, _, _, _, _, _, heq⟩
  rw [heq]
  rfl

theorem deliver_disables (conn : Uuid) (now : Nat) : (s.deliver conn now).disables = s.disables := by
  rcases s.deliver_frame conn now with ⟨_, _, _, _, _, heq⟩
  rw [heq]
  rfl

theorem applyGrants_disables (agent conn : Uuid) (report : ModuleReport) (revoke : Bool)
    : (s.applyGrants agent conn report revoke).disables = s.disables := by
  have hrevoke : ∀ condition : Bool,
      (if condition then s.revokeAgentControl agent conn else s).disables = s.disables := by
    intro condition
    cases condition with
    | true => exact s.revokeAgentControl_disables agent conn
    | false => rfl
  unfold applyGrants
  simp only
  split
  . exact hrevoke _
  . exact hrevoke _

end Frame

/-!
What an entry point does to the disable requests.
-/

-- What identifies a request; its status in memory is the one it was read with.
def binding (request : ModuleDisableRequest) : Uuid × Uuid × Module × Nat :=
  (request.commandId, request.agentId, request.module, request.expectedRevision)

def SentOn (s : AppState) (conn commandId : Uuid) : Prop :=
  ∃ m revision, ∃ item ∈ (s.sockets conn).sent,
    item.control = .text (disableModule m revision commandId)

/--
The change of the rows and of what the connections keep of them. `started` is a new row or one that is
sent again, `ended` is an acknowledgment.
-/
inductive DisableChange (s t : AppState) : Prop where
  | same (h : t.disables = s.disables)
  | gone (agent : Uuid)
      (h : t.disables = (Function.update s.modules agent none, s.disableRequests))
  | reported (agent : Uuid) (runtime : RuntimeModules)
      (h : t.disables = (Function.update s.modules agent (some runtime), s.disableRequests))
      (hpending : runtime.pending = s.pendingDisables agent)
      (hsent : ∀ id ∈ runtime.sent, ∃ old, s.modules agent = some old
        ∧ old.connId = runtime.connId ∧ id ∈ old.sent)
  | started (request : ModuleDisableRequest) (modules : Uuid → Option RuntimeModules)
      (rows : AList (fun _ : Uuid => ModuleDisableRequest))
      (h : t.disables = (modules, rows))
      (hpending : request.pending = true)
      (hrows : s.disableRequests.lookup request.commandId = some request ∧ rows = s.disableRequests
        ∨ s.disableRequests.lookup request.commandId = none
          ∧ (∀ id other, s.disableRequests.lookup id = some other → other.pending = true →
            other.agentId = request.agentId → other.module ≠ request.module)
          ∧ rows = s.disableRequests.insert request.commandId request)
      (hmodules : s.modules request.agentId = none ∧ modules = s.modules
        ∨ ∃ old runtime, s.modules request.agentId = some old
          ∧ modules = Function.update s.modules request.agentId (some runtime)
          ∧ runtime.connId = old.connId
          ∧ runtime.pending = old.pending.insert request.commandId request
          ∧ runtime.sent ⊆ old.sent)
  | marked (agent commandId : Uuid) (old runtime : RuntimeModules)
      (rows : AList (fun _ : Uuid => ModuleDisableRequest))
      (h : t.disables = (Function.update s.modules agent (some runtime), rows))
      (hold : s.modules agent = some old)
      (hconn : runtime.connId = old.connId)
      (hpending : runtime.pending = old.pending)
      (hsent : runtime.sent = commandId :: old.sent)
      (hpushed : SentOn t runtime.connId commandId)
      (hrows : rows = s.disableRequests ∨ ∃ mark : ModuleDisableRequest → ModuleDisableRequest,
        rows = Table.mapValues mark s.disableRequests
          ∧ ∀ request, binding (mark request) = binding request
            ∧ (mark request).pending = request.pending
            ∧ (request.pending = false → mark request = request))
  | ended (agent : Uuid) (request ended : ModuleDisableRequest) (old runtime : RuntimeModules)
      (h : t.disables = (Function.update s.modules agent (some runtime),
        s.disableRequests.insert request.commandId ended))
      (hrow : s.disableRequests.lookup request.commandId = some request)
      (hagent : request.agentId = agent)
      (hrequest : request.pending = true)
      (hbinding : binding ended = binding request)
      (hended : ended.pending = false)
      (hold : s.modules agent = some old)
      (hconn : runtime.connId = old.connId)
      (hpending : runtime.pending = old.pending.erase request.commandId)
      (hsent : runtime.sent ⊆ old.sent)
      (hid : request.commandId ∈ old.sent)

section Change

variable {s : AppState}

theorem disables_eq {t : AppState} : t.disables = s.disables
    ↔ t.modules = s.modules ∧ t.disableRequests = s.disableRequests := by
  simp only [disables, Prod.mk.injEq]

theorem disables_setRuntime {t : AppState} (h : t.disables = s.disables) (agent : Uuid)
    (runtime : RuntimeModules)
    : (t.setRuntime agent runtime).disables
        = (Function.update s.modules agent (some runtime), s.disableRequests) := by
  rw [disables_eq] at h
  simp only [disables, setRuntime, h.1, h.2]

theorem change_register (agent : Uuid) (historyKnown : Bool) (fresh : Uuid)
    : DisableChange s (s.registerConnection agent historyKnown fresh) := by
  apply DisableChange.gone agent
  unfold registerConnection
  simp only
  split
  . next old _ =>
    have hclear : ((s.revokeAgentControl agent old).clearCaptureConnection agent old).disables
        = s.disables := by
      rw [clearCaptureConnection_disables, revokeAgentControl_disables]
    rw [disables_eq] at hclear
    simp only [disables, AppState.shutdown, AppState.modifySocket, hclear.1, hclear.2]
  . rfl

theorem change_cleanup (agent conn : Uuid) : DisableChange s (s.cleanupConnection agent conn) := by
  have hclear : ((s.revokeAgentControl agent conn).clearCaptureConnection agent conn).disables
      = s.disables := by
    rw [clearCaptureConnection_disables, revokeAgentControl_disables]
  unfold cleanupConnection
  simp only
  split
  . apply DisableChange.gone agent
    rw [disables_eq] at hclear
    simp only [disables, unregister, hclear.1, hclear.2]
  . exact .same hclear

theorem change_invalidate (agent : Uuid) (reason : String)
    : DisableChange s (s.invalidateAgentConnection agent reason) := by
  apply DisableChange.gone agent
  unfold invalidateAgentConnection
  split
  . next conn _ =>
    have hclear : ((s.revokeAgentControl agent conn).clearCaptureConnection agent conn).disables
        = s.disables := by
      rw [clearCaptureConnection_disables, revokeAgentControl_disables]
    rw [disables_eq] at hclear
    simp only [disables, unregister, AppState.shutdown, AppState.modifySocket, hclear.1, hclear.2]
  . rfl

theorem change_moduleReport (agent conn : Uuid) (value : Json)
    : DisableChange s (s.acceptModuleReport agent conn value).2 := by
  unfold acceptModuleReport
  split
  . exact .same rfl
  . next report _ =>
    simp only
    split
    . exact .same rfl
    . split
      . exact .same rfl
      . have hgrants := applyGrants_disables
          { s with moduleReports := Function.update s.moduleReports agent (some report) } agent conn
          report ((Table.values (s.pendingDisables agent)).any
            (fun request => request.module = .remoteInput))
        refine .reported agent _ (disables_setRuntime hgrants agent _) rfl ?_
        intro id hid
        cases hruntime : s.moduleRuntime agent conn with
        | none => simp [hruntime] at hid
        | some old =>
          simp only [hruntime, Option.elim_some] at hid
          rcases moduleRuntime_some hruntime with ⟨hmodules, hconn⟩
          exact ⟨old, hmodules, hconn, hid⟩

-- Blocking the module of a request whose row is there, or was just inserted.
theorem change_blockModule {t : AppState} (hs : Coherent s) {agent : Uuid}
    {request : ModuleDisableRequest} (retry : Bool) (now : Nat)
    (hmodules : t.modules = s.modules) (hconnections : t.connections = s.connections)
    (hagent : request.agentId = agent) (hpending : request.pending = true)
    (hrows : s.disableRequests.lookup request.commandId = some request
        ∧ t.disableRequests = s.disableRequests
      ∨ retry = false ∧ s.disableRequests.lookup request.commandId = none
        ∧ (∀ id other, s.disableRequests.lookup id = some other → other.pending = true →
          other.agentId = request.agentId → other.module ≠ request.module)
        ∧ t.disableRequests = s.disableRequests.insert request.commandId request)
    : DisableChange s (t.blockModule agent request retry now).2 := by
  have hrows' : s.disableRequests.lookup request.commandId = some request
        ∧ t.disableRequests = s.disableRequests
      ∨ s.disableRequests.lookup request.commandId = none
        ∧ (∀ id other, s.disableRequests.lookup id = some other → other.pending = true →
          other.agentId = request.agentId → other.module ≠ request.module)
        ∧ t.disableRequests = s.disableRequests.insert request.commandId request :=
    hrows.imp_right And.right
  have hconnId : t.connId? agent = s.connId? agent := by
    simp only [connId?, hconnections]
  have hnone : ∀ conn, s.connId? agent = some conn → t.moduleRuntime agent conn = none →
      s.modules agent = none := by
    intro conn hconn hruntime
    cases hold : s.modules agent with
    | none => rfl
    | some old =>
      rw [moduleRuntime, hmodules, ← moduleRuntime, moduleRuntime_of_modules hs hconn hold] at hruntime
      cases hruntime
  unfold blockModule
  split
  . next hconn =>
    rw [hconnId] at hconn
    refine .started request t.modules t.disableRequests rfl hpending hrows' (.inl ⟨?_, hmodules⟩)
    rw [hagent]
    cases hold : s.modules agent with
    | none => rfl
    | some old =>
      have := hs.modules agent old hold
      rw [hconn] at this
      cases this
  . next conn hconn =>
    rw [hconnId] at hconn
    simp only
    generalize hrevoked : (if request.module = .remoteInput ∨ request.module = .liveScreen then
        t.revokeAgentControl agent conn else t) = u
    have hu : u.modules = t.modules ∧ u.disableRequests = t.disableRequests := by
      rw [← disables_eq, ← hrevoked]
      split
      . exact t.revokeAgentControl_disables agent conn
      . rfl
    have hruntime : u.moduleRuntime agent conn = t.moduleRuntime agent conn := by
      simp only [moduleRuntime, hu.1]
    rw [hruntime]
    split
    . next hold =>
      refine .started request t.modules t.disableRequests ?_ hpending hrows' (.inl ⟨?_, hmodules⟩)
      . simp only [disables, hu.1, hu.2]
      . rw [hagent]
        exact hnone conn hconn hold
    . next old hold =>
      have hold' : s.modules agent = some old := by
        rw [← hmodules]
        exact (moduleRuntime_some hold).1
      split
      . next hretry =>
        rcases hrows with ⟨_, hrows⟩ | ⟨hfirst, _⟩
        . apply DisableChange.same
          rw [disables_eq]
          exact ⟨hu.1.trans hmodules, hu.2.trans hrows⟩
        . rw [hfirst] at hretry
          cases hretry.1
      . have hset : ∀ runtime, (u.setRuntime agent runtime).disables
            = (Function.update s.modules request.agentId (some runtime), t.disableRequests) := by
          intro runtime
          simp only [disables, setRuntime, hu.1, hu.2, hmodules, hagent]
        refine .started request _ t.disableRequests (hset _) hpending hrows'
          (.inr ⟨old, _, by rw [hagent]; exact hold', rfl, rfl, rfl, ?_⟩)
        simp only
        split
        . exact List.filter_subset_self _
        . exact List.Subset.refl _

theorem change_requestDisable (hs : Coherent s)
    (hkey : ∀ id request, s.disableRequests.lookup id = some request → request.commandId = id)
    (agent : Uuid) (user : AuthUser) (m : Module) (expectedRevision : Nat) (commandId : Uuid)
    (now : Nat)
    : DisableChange s (s.requestDisable agent user m expectedRevision commandId now true).2 := by
  unfold requestDisable
  simp only
  split
  . exact .same rfl
  . split
    . exact .same rfl
    . split
      . exact .same rfl
      . unfold createModuleDisable
        by_cases hexists : (s.disableRequests.lookup commandId).isSome
            ∨ (Table.values s.disableRequests).any
              (fun request => request.agentId = agent ∧ request.module = m ∧ request.pending)
        . -- The row is there, or another one is pending: nothing is inserted.
          rw [if_pos hexists]
          split
          . exact .same rfl
          . next request hrequest =>
            rw [Option.filter_eq_some_iff, Option.filter_eq_some_iff] at hrequest
            rcases hrequest with ⟨⟨hlookup, hagent⟩, _⟩
            have hid := hkey commandId request hlookup
            split
            . next hpending =>
              refine change_blockModule hs _ now rfl rfl (by simpa using hagent) hpending
                (.inl ⟨?_, rfl⟩)
              rw [hid]
              exact hlookup
            . exact .same rfl
        . rw [if_neg hexists]
          rw [not_or] at hexists
          have hfree : s.disableRequests.lookup commandId = none := by
            simpa using hexists.1
          simp only [AList.lookup_insert, hfree, Option.filter_some, Option.filter_none, decide_true,
            if_true, and_self, Option.isSome_none, ModuleDisableRequest.pending, true_or]
          refine change_blockModule hs false now rfl rfl rfl rfl (.inr ⟨rfl, hfree, ?_, rfl⟩)
          intro id other hother hpending hagent hmodule
          apply hexists.2
          rw [List.any_eq_true]
          refine ⟨other, Table.mem_values.mpr ⟨id, hother⟩, ?_⟩
          simpa [hpending, hmodule] using hagent

theorem authorized_disableModule {agent commandId : Uuid} {m : Module} {revision : Nat} {command : Json}
    (h : s.authorizeAgentCommand agent (disableModule m revision commandId) = .ok command)
    : command = disableModule m revision commandId := by
  unfold authorizeAgentCommand at h
  split at h
  . cases h
  . split at h
    . cases h
    . have hgate : (disableModule m revision commandId).gate = .disableModule := rfl
      simp only [hgate] at h
      unfold authorizeDisable at h
      split at h
      . cases h
      . split at h
        . cases h
        . split at h
          . cases h
          . cases h
            rfl

theorem change_replayDisable (hs : Coherent s) (agent conn commandId : Uuid) (now : Nat)
    (marked : Bool) : DisableChange s (s.replayModuleDisable agent conn commandId now marked) := by
  unfold replayModuleDisable
  split
  . exact .same rfl
  . next old hruntime =>
    rcases moduleRuntime_some hruntime with ⟨hold, hconn⟩
    split
    . exact .same rfl
    . next request hrequest =>
      split
      . exact .same rfl
      . next command hauth =>
        have hdisables := s.enqueueAuthorizedCommand_disables agent conn command .command
        split
        . next heq =>
          rw [heq] at hdisables
          exact .same hdisables
        . next t heq =>
          rw [heq, disables_eq] at hdisables
          have hok := enqueueAuthorizedCommand_ok hs heq
          have hcommand := authorized_disableModule hauth
          have hpushed : ∃ item ∈ (t.sockets conn).sent, item.control = .text (disableModule
              request.module request.expectedRevision request.commandId) := by
            rw [hok.2.sockets, hcommand]
            refine ⟨{ control := .text (disableModule request.module request.expectedRevision
              request.commandId), origin := .command }, ?_, rfl⟩
            simp only [AppState.push, AppState.modifySocket, Function.update_self]
            exact List.mem_append_right _ List.mem_cons_self
          have hsent : SentOn t old.connId request.commandId := by
            rw [hconn]
            exact ⟨_, _, hpushed⟩
          have hset := fun runtime => disables_setRuntime (disables_eq.mpr hdisables) agent runtime
          have hmark : ∀ (mark : ModuleDisableRequest → ModuleDisableRequest) runtime,
              disables {
                t.setRuntime agent runtime with
                disableRequests := Table.mapValues mark (t.setRuntime agent runtime).disableRequests
              } = (Function.update s.modules agent (some runtime),
                Table.mapValues mark s.disableRequests) := by
            intro mark runtime
            have := hset runtime
            simp only [disables, Prod.mk.injEq] at this ⊢
            exact ⟨this.1, congrArg _ this.2⟩
          simp only
          split
          . refine .marked agent request.commandId old _ _ (hmark _ _) hold rfl rfl rfl hsent
              (.inr ⟨_, rfl, ?_⟩)
            intro row
            split
            . next hrow =>
              refine ⟨rfl, ?_, ?_⟩
              . rw [hrow.2.2]
                rfl
              . intro hended
                rw [hrow.2.2] at hended
                cases hended
            . exact ⟨rfl, rfl, fun _ => rfl⟩
          . exact .marked agent request.commandId old _ _ (hset _) hold rfl rfl rfl hsent (.inl rfl)

theorem ended_of_checkAck {request : ModuleDisableRequest} {previous report : Option ModuleReport}
    {ack : DisableAck} {status : RequestStatus}
    (h : checkAck request previous ack = .ok (status, report))
    : status ≠ .queued ∧ status ≠ .sent := by
  have hresult : ack.result = some status := by
    unfold checkAck at h
    split at h
    . cases h
    . split at h
      . cases h
      . next result hresult =>
        simp only at h
        split at h
        . cases h
        . split at h
          . cases h
          . split at h
            . cases h
            . split at h
              . cases h
              . split at h
                . cases h
                . cases h
                  exact hresult
  unfold DisableAck.result at hresult
  split at hresult <;> cases hresult <;> decide

theorem change_applyAck {agent conn : Uuid} {request : ModuleDisableRequest} {ack : DisableAck}
    {status : RequestStatus} {report : Option ModuleReport} {old : RuntimeModules}
    (hrow : s.disableRequests.lookup request.commandId = some request)
    (hagent : request.agentId = agent) (hrequest : request.pending = true)
    (hruntime : s.moduleRuntime agent conn = some old) (hid : request.commandId ∈ old.sent)
    (hended : status ≠ .queued ∧ status ≠ .sent) (moduleReports : Uuid → Option ModuleReport)
    : DisableChange s (({ s with moduleReports }.acknowledge request status ack).applyAck agent conn
        request.commandId report) := by
  rcases moduleRuntime_some hruntime with ⟨hold, hconn⟩
  generalize hacknowledged : { s with moduleReports }.acknowledge request status ack = t
  have ht : t.modules = s.modules ∧ ∃ ended, t.disableRequests
        = s.disableRequests.insert request.commandId ended
      ∧ binding ended = binding request ∧ ended.pending = false := by
    rw [← hacknowledged]
    refine ⟨rfl, _, rfl, rfl, ?_⟩
    simp [ModuleDisableRequest.pending, hended.1, hended.2]
  rcases ht with ⟨hmodules, ended, hrows, hbinding, hpending⟩
  have happly : ∃ u : AppState, t.applyAck agent conn request.commandId report
        = u.forgetPending agent conn request.commandId report
      ∧ u.disables = (s.modules, s.disableRequests.insert request.commandId ended) := by
    rw [← hrows, ← hmodules]
    cases report with
    | none => exact ⟨t, rfl, rfl⟩
    | some report => exact ⟨_, rfl, t.applyGrants_disables _ _ _ _⟩
  rcases happly with ⟨u, happly, hu⟩
  rw [happly]
  simp only [disables, Prod.mk.injEq] at hu
  have hruntime' : u.moduleRuntime agent conn = some old := by
    rw [moduleRuntime, hu.1, ← moduleRuntime, hruntime]
  have hset : ∀ runtime, (u.setRuntime agent runtime).disables
      = (Function.update s.modules agent (some runtime),
        s.disableRequests.insert request.commandId ended) := by
    intro runtime
    simp only [disables, setRuntime, hu.1, hu.2]
  unfold forgetPending
  rw [hruntime']
  exact .ended agent request ended old _ (hset _) hrow hagent hrequest hbinding hpending hold rfl rfl
    (List.filter_subset_self _) hid

theorem change_disableAck
    (hkey : ∀ id request, s.disableRequests.lookup id = some request → request.commandId = id)
    (agent conn : Uuid) (value : Json) (acknowledged : Bool)
    : DisableChange s (s.acceptModuleDisableAck agent conn value acknowledged).2 := by
  unfold acceptModuleDisableAck
  split
  . exact .same rfl
  . next ack _ =>
    split
    . exact .same rfl
    . split
      . exact .same rfl
      . split
        . exact .same rfl
        . next request hrequest =>
          rw [Option.filter_eq_some_iff] at hrequest
          have hid := hkey _ _ hrequest.1
          simp only
          split
          . exact .same rfl
          . next hpending =>
            split
            . exact .same rfl
            . next hsent =>
              split
              . exact .same rfl
              . next status report hcheck =>
                split
                . exact .same rfl
                . cases hruntime : s.moduleRuntime agent conn with
                  | none => simp [hruntime] at hsent
                  | some old =>
                    rcases moduleRuntime_some hruntime with ⟨hold, hconn⟩
                    rw [← hid]
                    exact change_applyAck (hid ▸ hrequest.1) (by simpa using hrequest.2)
                      (by simpa using hpending) hruntime
                      (by simpa [hruntime, hid] using hsent) (ended_of_checkAck hcheck) _

theorem change_exec (hs : Coherent s)
    (hkey : ∀ id request, s.disableRequests.lookup id = some request → request.commandId = id)
    (op : Op) (hread : ∀ agent user m revision id now readBack,
      op = .requestDisable agent user m revision id now readBack → readBack = true)
    : DisableChange s (s.exec op) := by
  cases op with
  | register agent historyKnown fresh => exact change_register agent historyKnown fresh
  | cleanup agent conn => exact change_cleanup agent conn
  | invalidate agent reason => exact change_invalidate agent reason
  | deliver conn now => exact .same (s.deliver_disables conn now)
  | frame agent conn geometry now =>
    apply DisableChange.same
    simp only [exec, ingestFrame]
    split <;> rfl
  | moduleReport agent conn value => exact change_moduleReport agent conn value
  | disableAck agent conn value acknowledged =>
    exact change_disableAck hkey agent conn value acknowledged
  | requestDisable agent user m expectedRevision commandId now readBack =>
    rw [hread agent user m expectedRevision commandId now readBack rfl]
    exact change_requestDisable hs hkey agent user m expectedRevision commandId now
  | replayDisable agent conn commandId now marked =>
    exact change_replayDisable hs agent conn commandId now marked
  | syncCapture agent fresh => exact .same (s.syncCapture_disables _ _ _)
  | beginSession agent session user prefs requestedMonitor now fresh =>
    exact .same (s.beginMjpegSession_disables _ _ _ _ _ _ _)
  | endSession agent session user fresh => exact .same (s.endMjpegSession_disables _ _ _ _)
  | leaseMessage viewer user value now fresh =>
    exact .same (s.controlLeaseMessage_disables _ _ _ _ _)
  | viewerCommand agent viewer user token cmd now =>
    apply DisableChange.same
    simp only [exec, viewerCommand]
    split
    . rfl
    . split
      . exact s.sendViewerInput_disables _ _ _ _ _ _
      . exact s.authorizeSend_disables _ _
  | viewerGone viewer => exact .same (s.settle_disables _)
  | expire now => exact .same (s.settle_disables _)
  | sendCommand agent cmd => exact .same (s.authorizeSend_disables _ _)
  | finishSend index =>
    apply DisableChange.same
    simp only [exec, finishSend]
    split
    . rfl
    . exact enqueueAuthorizedCommand_disables _ _ _ _ _
  | clipboardRequest agent user request now fresh =>
    apply DisableChange.same
    simp only [exec, clipboardExchange]
    split
    . rfl
    . split
      . rfl
      . split
        . rfl
        . split
          . rfl
          . exact enqueueClipboard_disables _ _ _ _ _
  | clipboardTick id now =>
    apply DisableChange.same
    simp only [exec, clipboardTick]
    split
    . rfl
    . next p _ =>
      split
      . rw [dropWaiter_disables]
        exact s.clipboardValid_disables p now
      . exact s.clipboardValid_disables p now
  | clipboardReceive id now =>
    apply DisableChange.same
    simp only [exec, clipboardReceive]
    split
    . rfl
    . split
      . rfl
      . exact clipboardValid_disables _ _ _
  | clipboardDrop id => exact .same (s.dropWaiter_disables id)
  | clipboardResult agent conn value now =>
    apply DisableChange.same
    simp only [exec, completeClipboard]
    split
    . rfl
    . split
      . rfl
      . split
        . rfl
        . next p _ _ => exact s.clipboardValid_disables p now
  | provideRoom room => exact .same rfl
  | reorderSessions session => exact .same rfl
  | reorderLeases agent => exact .same rfl

end Change

/-!
What the entry points keep.
-/

structure Disables (s : AppState) : Prop where
  key : ∀ id request, s.disableRequests.lookup id = some request → request.commandId = id
  single : ∀ id id' request request', s.disableRequests.lookup id = some request →
    s.disableRequests.lookup id' = some request' → request.pending = true →
    request'.pending = true → request.agentId = request'.agentId →
    request.module = request'.module → id = id'
  pending : ∀ agent runtime, s.modules agent = some runtime → ∀ id,
    (runtime.pending.lookup id).map binding
      = ((s.disableRequests.lookup id).filter
        (fun request => request.agentId = agent ∧ request.pending)).map binding
  sent : ∀ agent runtime, s.modules agent = some runtime → ∀ id ∈ runtime.sent,
    s.SentOn runtime.connId id

theorem lookup_pendingDisables (s : AppState) (agent id : Uuid)
    : (s.pendingDisables agent).lookup id = (s.disableRequests.lookup id).filter
        (fun request => request.agentId = agent ∧ request.pending) := by
  unfold pendingDisables
  rw [Table.lookup_retain]

theorem Disables.change {s t : AppState} (hd : Disables s) (hs : Coherent s) (h : DisableChange s t)
    (hgrow : ∀ conn id, conn ∈ s.minted → s.SentOn conn id → t.SentOn conn id) : Disables t := by
  have hgrow' : ∀ agent runtime, s.modules agent = some runtime → ∀ id ∈ runtime.sent,
      t.SentOn runtime.connId id := by
    intro agent runtime hruntime id hid
    exact hgrow _ _ (hs.minted agent _ (hs.modules agent runtime hruntime))
      (hd.sent agent runtime hruntime id hid)
  -- Everything but the entry of one agent is as it was.
  have hupdate : ∀ {agent : Uuid} {entry : Option RuntimeModules}, t.modules
        = Function.update s.modules agent entry →
      (∀ runtime, entry = some runtime → ∀ id ∈ runtime.sent, t.SentOn runtime.connId id) →
      ∀ other runtime, t.modules other = some runtime → ∀ id ∈ runtime.sent,
        t.SentOn runtime.connId id := by
    intro agent entry hmodules hentry other runtime hruntime
    rw [hmodules, Function.update_apply] at hruntime
    split at hruntime
    . exact hentry runtime hruntime
    . exact hgrow' other runtime hruntime
  cases h with
  | same h =>
    rw [disables_eq] at h
    constructor
    . rw [h.2]
      exact hd.key
    . rw [h.2]
      exact hd.single
    . rw [h.1, h.2]
      exact hd.pending
    . rw [h.1]
      exact hgrow'
  | gone agent h =>
    simp only [disables, Prod.mk.injEq] at h
    refine ⟨h.2 ▸ hd.key, h.2 ▸ hd.single, ?_, hupdate h.1 (by simp)⟩
    intro other runtime hruntime
    rw [h.1, Function.update_apply] at hruntime
    split at hruntime
    . cases hruntime
    . rw [h.2]
      exact hd.pending other runtime hruntime
  | reported agent new h hpending hsent =>
    simp only [disables, Prod.mk.injEq] at h
    refine ⟨h.2 ▸ hd.key, h.2 ▸ hd.single, ?_, hupdate h.1 ?_⟩
    . intro other runtime hruntime
      rw [h.1, Function.update_apply] at hruntime
      rw [h.2]
      split at hruntime
      . next hother =>
        cases hruntime
        intro id
        rw [hpending, lookup_pendingDisables, hother]
      . exact hd.pending other runtime hruntime
    . intro runtime hruntime id hid
      cases hruntime
      rcases hsent id hid with ⟨old, hold, hconn, hid⟩
      rw [← hconn]
      exact hgrow' agent old hold id hid
  | started request modules rows h hpending hrows hmodules =>
    simp only [disables, Prod.mk.injEq] at h
    rcases h with ⟨hm, hr⟩
    have hself : rows.lookup request.commandId = some request := by
      rcases hrows with ⟨hrow, heq⟩ | ⟨_, _, heq⟩
      . rw [heq]
        exact hrow
      . rw [heq, AList.lookup_insert]
    have hother : ∀ id, id ≠ request.commandId → rows.lookup id = s.disableRequests.lookup id := by
      intro id hne
      rcases hrows with ⟨_, heq⟩ | ⟨_, _, heq⟩
      . rw [heq]
      . rw [heq, AList.lookup_insert_ne hne]
    -- Another pending row of the device is about another module.
    have hsingle : ∀ id row, id ≠ request.commandId → s.disableRequests.lookup id = some row →
        row.pending = true → row.agentId = request.agentId → row.module ≠ request.module := by
      intro id row hne hrow hlive hagent hmodule
      rcases hrows with ⟨hstored, _⟩ | ⟨_, hfree, _⟩
      . exact hne (hd.single _ _ _ _ hrow hstored hlive hpending hagent hmodule)
      . exact hfree id row hrow hlive hagent hmodule
    constructor
    . intro id row hrow
      rw [hr] at hrow
      by_cases hid : id = request.commandId
      . rw [hid, hself] at hrow
        cases hrow
        exact hid.symm
      . rw [hother id hid] at hrow
        exact hd.key id row hrow
    . intro id id' row row' hrow hrow' hlive hlive' hagent hmodule
      rw [hr] at hrow hrow'
      by_cases hid : id = request.commandId
      . by_cases hid' : id' = request.commandId
        . exact hid.trans hid'.symm
        . rw [hid, hself] at hrow
          cases hrow
          rw [hother id' hid'] at hrow'
          exact absurd hmodule.symm (hsingle id' row' hid' hrow' hlive' hagent.symm)
      . rw [hother id hid] at hrow
        by_cases hid' : id' = request.commandId
        . rw [hid', hself] at hrow'
          cases hrow'
          exact absurd hmodule (hsingle id row hid hrow hlive hagent)
        . rw [hother id' hid'] at hrow'
          exact hd.single id id' row row' hrow hrow' hlive hlive' hagent hmodule
    . intro other runtime hruntime id
      rw [hm] at hruntime
      rw [hr]
      by_cases hagent : other = request.agentId
      . subst hagent
        rcases hmodules with ⟨hnone, heq⟩ | ⟨old, new, hold, heq, _, hnew, _⟩
        . rw [heq, hnone] at hruntime
          cases hruntime
        . rw [heq, Function.update_self] at hruntime
          cases hruntime
          rw [hnew]
          by_cases hid : id = request.commandId
          . rw [hid, AList.lookup_insert, hself]
            simp [Option.filter, hpending]
          . rw [AList.lookup_insert_ne hid, hother id hid]
            exact hd.pending _ old hold id
      . have hruntime' : s.modules other = some runtime := by
          rcases hmodules with ⟨_, heq⟩ | ⟨_, _, _, heq, _⟩
          . rwa [heq] at hruntime
          . rwa [heq, Function.update_of_ne hagent] at hruntime
        rw [hd.pending other runtime hruntime' id]
        by_cases hid : id = request.commandId
        . rw [hid, hself]
          have hforeign : ¬request.agentId = other := fun heq => hagent heq.symm
          rcases hrows with ⟨hrow, _⟩ | ⟨hrow, _⟩
          . rw [hrow]
          . simp [hrow, Option.filter, hforeign]
        . rw [hother id hid]
    . rcases hmodules with ⟨_, heq⟩ | ⟨old, new, hold, heq, hconn, _, hsent⟩
      . rw [hm, heq]
        exact hgrow'
      . apply hupdate (hm.trans heq)
        intro runtime hruntime id hid
        cases hruntime
        rw [hconn]
        exact hgrow' _ old hold id (hsent hid)
  | marked agent commandId old new rows h hold hconn hpending hsent hpushed hrows =>
    simp only [disables, Prod.mk.injEq] at h
    rcases h with ⟨hm, hr⟩
    have hlookup : ∃ mark : ModuleDisableRequest → ModuleDisableRequest,
        (∀ id, rows.lookup id = (s.disableRequests.lookup id).map mark)
          ∧ ∀ row, binding (mark row) = binding row ∧ (mark row).pending = row.pending := by
      rcases hrows with heq | ⟨mark, heq, hmark⟩
      . exact ⟨id, by simp [heq], fun _ => ⟨rfl, rfl⟩⟩
      . exact ⟨mark, by simp [heq], fun row => ⟨(hmark row).1, (hmark row).2.1⟩⟩
    rcases hlookup with ⟨mark, hlookup, hmark⟩
    have hbinding : ∀ row, (mark row).commandId = row.commandId ∧ (mark row).agentId = row.agentId
        ∧ (mark row).module = row.module := by
      intro row
      have := (hmark row).1
      simp only [binding, Prod.mk.injEq] at this
      exact ⟨this.1, this.2.1, this.2.2.1⟩
    constructor
    . intro id row hrow
      rw [hr, hlookup, Option.map_eq_some_iff] at hrow
      rcases hrow with ⟨row, hrow, rfl⟩
      rw [(hbinding row).1]
      exact hd.key id row hrow
    . intro id id' row row' hrow hrow' hlive hlive' hagent hmodule
      rw [hr, hlookup, Option.map_eq_some_iff] at hrow hrow'
      rcases hrow with ⟨row, hrow, rfl⟩
      rcases hrow' with ⟨row', hrow', rfl⟩
      rw [(hmark row).2] at hlive
      rw [(hmark row').2] at hlive'
      rw [(hbinding row).2.1, (hbinding row').2.1] at hagent
      rw [(hbinding row).2.2, (hbinding row').2.2] at hmodule
      exact hd.single id id' row row' hrow hrow' hlive hlive' hagent hmodule
    . intro other runtime hruntime id
      have hsame : ∃ before, s.modules other = some before ∧ runtime.pending = before.pending := by
        rw [hm, Function.update_apply] at hruntime
        split at hruntime
        . next heq =>
          cases hruntime
          exact ⟨old, heq ▸ hold, hpending⟩
        . exact ⟨runtime, hruntime, rfl⟩
      rcases hsame with ⟨before, hbefore, heq⟩
      rw [heq, hd.pending other before hbefore id, hr, hlookup]
      cases s.disableRequests.lookup id with
      | none => rfl
      | some row =>
        simp only [Option.map_some, Option.filter_some, (hbinding row).2.1, (hmark row).2]
        split
        . simp only [Option.map_some, (hmark row).1]
        . rfl
    . apply hupdate hm
      intro runtime hruntime id hid
      cases hruntime
      rw [hsent] at hid
      rcases List.mem_cons.mp hid with rfl | hid
      . exact hpushed
      . rw [hconn]
        exact hgrow' agent old hold id hid
  | ended agent request ended old new h hrow hagent hrequest hbinding hended hold hconn hpending hsent
      hid =>
    simp only [disables, Prod.mk.injEq] at h
    rcases h with ⟨hm, hr⟩
    simp only [binding, Prod.mk.injEq] at hbinding
    have hlive : ∀ id row, t.disableRequests.lookup id = some row → row.pending = true →
        id ≠ request.commandId ∧ s.disableRequests.lookup id = some row := by
      intro id row hlookup hpending
      rw [hr, Table.lookup_insert_eq] at hlookup
      split at hlookup
      . cases hlookup
        rw [hended] at hpending
        cases hpending
      . next hne => exact ⟨hne, hlookup⟩
    constructor
    . intro id row hlookup
      rw [hr, Table.lookup_insert_eq] at hlookup
      split at hlookup
      . next heq =>
        cases hlookup
        rw [hbinding.1, heq]
      . exact hd.key id row hlookup
    . intro id id' row row' hlookup hlookup' hpending hpending'
      exact hd.single id id' row row' (hlive id row hlookup hpending).2
        (hlive id' row' hlookup' hpending').2 hpending hpending'
    . intro other runtime hruntime id
      rw [hr, Table.lookup_insert_eq]
      rw [hm, Function.update_apply] at hruntime
      split at hruntime
      . next hother =>
        cases hruntime
        rw [hpending, Table.lookup_erase_eq]
        split
        . simp [Option.filter, hended]
        . rw [hother]
          exact hd.pending agent old hold id
      . next hother =>
        rw [hd.pending other runtime hruntime id]
        split
        . next heq =>
          have hforeign : ¬request.agentId = other := by
            rw [hagent]
            exact fun heq => hother heq.symm
          rw [heq, hrow]
          simp [Option.filter, hforeign, hended]
        . rfl
    . apply hupdate hm
      intro runtime hruntime id hmem
      cases hruntime
      rw [hconn]
      exact hgrow' agent old hold id (hsent hmem)

/-!
Runs in which the database takes every write and answers every read.
-/

theorem sent_preserves (conn : Uuid) (item : Queued)
    : Preserves Coherent Always (fun s => conn ∈ s.minted ∧ item ∈ (s.sockets conn).sent) where
  same := by
    intro s t _ h hsame
    rw [hsame.sockets]
    exact ⟨hsame.minted h.1, h.2⟩
  effect := by
    intro P s t hs h heffect
    refine ⟨heffect.minted hs h.1, ?_⟩
    cases heffect.socket hs conn with
    | new agent hfresh _ _ => exact absurd h.1 hfresh
    | grow items shutdown heq _ _ _ =>
      rw [heq]
      exact List.mem_append_left _ h.2
  drop := by
    intro s other _ _ h _ _ _
    refine ⟨h.1, ?_⟩
    rw [sockets_take]
    split
    . next heq => exact heq ▸ h.2
    . exact h.2
  write := by
    intro s other _ _ h _ _
    refine ⟨h.1, ?_⟩
    rw [sockets_write]
    split
    . next heq => exact heq ▸ h.2
    . exact h.2

theorem sentOn_exec {s : AppState} {op : Op} (hs : Coherent s) (hfresh : s.Fresh op)
    {conn id : Uuid} (hconn : conn ∈ s.minted) (h : s.SentOn conn id) : (s.exec op).SentOn conn id := by
  rcases h with ⟨m, revision, item, hitem, hcontrol⟩
  have hboth := ((Coherent.preserves Always).and (sent_preserves conn item)).step hs
    ⟨hs, hconn, hitem⟩ ⟨op, hfresh, fun _ _ _ _ _ => trivial, rfl⟩
  exact ⟨m, revision, item, hboth.2.2, hcontrol⟩

end AppState

def Op.stored : Op → Bool
  | .disableAck _ _ _ acknowledged => acknowledged
  | .requestDisable _ _ _ _ _ _ readBack => readBack
  | .replayDisable _ _ _ _ marked => marked
  | _ => true

def StoredStep (s t : AppState) : Prop :=
  ∃ op : Op, s.Fresh op ∧ op.stored = true ∧ t = s.exec op

def StoredRuns : AppState → AppState → Prop :=
  Relation.ReflTransGen StoredStep

theorem StoredRuns.runs {s t : AppState} (h : StoredRuns s t) : Runs s t := by
  refine Relation.ReflTransGen.mono ?_ _ _ h
  intro s t hstep
  rcases hstep with ⟨op, hfresh, _, heq⟩
  exact ⟨op, hfresh, heq⟩

namespace AppState

theorem Disables.exec {s : AppState} {op : Op} (hd : Disables s) (hs : Coherent s)
    (hfresh : s.Fresh op) (hstored : op.stored = true) : Disables (s.exec op) := by
  refine hd.change hs (change_exec hs hd.key op ?_) ?_
  . intro agent user m revision id now readBack heq
    rw [heq] at hstored
    exact hstored
  . intro conn id hconn hsent
    exact sentOn_exec hs hfresh hconn hsent

theorem Disables.init : Disables AppState.init := by
  constructor
  . intro id request hlookup
    cases hlookup
  . intro id id' request request' hlookup
    cases hlookup
  . intro agent runtime hruntime
    cases hruntime
  . intro agent runtime hruntime
    cases hruntime

theorem Disables.runs {s : AppState} (h : StoredRuns AppState.init s) : Disables s := by
  induction h with
  | refl => exact Disables.init
  | @tail s t hruns hstep ih =>
    rcases hstep with ⟨op, hfresh, hstored, rfl⟩
    exact ih.exec (Reachable.coherent (StoredRuns.runs hruns)) hfresh hstored

-- A request that has ended is not written any more.
theorem DisableChange.lookup {s t : AppState} (h : DisableChange s t) {id : Uuid}
    {request : ModuleDisableRequest} (hrow : s.disableRequests.lookup id = some request)
    (hended : request.pending = false) : t.disableRequests.lookup id = some request := by
  cases h with
  | same h =>
    rw [disables_eq] at h
    rw [h.2]
    exact hrow
  | gone agent h =>
    simp only [disables, Prod.mk.injEq] at h
    rw [h.2]
    exact hrow
  | reported agent runtime h =>
    simp only [disables, Prod.mk.injEq] at h
    rw [h.2]
    exact hrow
  | started other modules rows h hpending hrows =>
    simp only [disables, Prod.mk.injEq] at h
    rw [h.2]
    rcases hrows with ⟨_, heq⟩ | ⟨hfree, _, heq⟩
    . rw [heq]
      exact hrow
    . rw [heq, Table.lookup_insert_eq]
      split
      . next hid =>
        rw [hid, hfree] at hrow
        cases hrow
      . exact hrow
  | marked agent commandId old runtime rows h hold hconn hpending hsent hpushed hrows =>
    simp only [disables, Prod.mk.injEq] at h
    rw [h.2]
    rcases hrows with heq | ⟨mark, heq, hmark⟩
    . rw [heq]
      exact hrow
    . rw [heq, Table.lookup_mapValues, hrow, Option.map_some, (hmark request).2.2 hended]
  | ended agent other ended old runtime h hother hagent hpending =>
    simp only [disables, Prod.mk.injEq] at h
    rw [h.2, Table.lookup_insert_eq]
    split
    . next hid =>
      rw [hid, hother] at hrow
      cases hrow
      rw [hended] at hpending
      cases hpending
    . exact hrow

theorem ended_runs {s t : AppState} (h : StoredRuns AppState.init s) (hruns : StoredRuns s t)
    {id : Uuid} {request : ModuleDisableRequest} (hrow : s.disableRequests.lookup id = some request)
    (hended : request.pending = false) : t.disableRequests.lookup id = some request := by
  induction hruns with
  | refl => exact hrow
  | @tail u v hbefore hstep ih =>
    rcases hstep with ⟨op, hfresh, hstored, rfl⟩
    have hreach := Relation.ReflTransGen.trans h hbefore
    refine (change_exec (Reachable.coherent (StoredRuns.runs hreach)) (Disables.runs hreach).key op
      ?_).lookup ih hended
    intro agent user m revision id now readBack heq
    rw [heq] at hstored
    exact hstored

theorem applyAck_rows (s : AppState) (agent conn commandId : Uuid) (report : Option ModuleReport)
    : (s.applyAck agent conn commandId report).disableRequests = s.disableRequests := by
  have hforget : ∀ (t : AppState),
      (t.forgetPending agent conn commandId report).disableRequests = t.disableRequests := by
    intro t
    unfold forgetPending
    split <;> rfl
  unfold applyAck
  simp only
  rw [hforget]
  split
  . exact (disables_eq.mp (s.applyGrants_disables _ _ _ _)).2
  . rfl

-- An acknowledgment changes a row only where the connection it came from was sent the request.
theorem disableAck_sent {s : AppState} (hd : Disables s) {agent conn : Uuid} {value : Json}
    {acknowledged : Bool} {id : Uuid}
    (hne : (s.acceptModuleDisableAck agent conn value acknowledged).2.disableRequests.lookup id
      ≠ s.disableRequests.lookup id)
    : s.connId? agent = some conn ∧ s.SentOn conn id := by
  unfold acceptModuleDisableAck at hne
  split at hne
  . exact absurd rfl hne
  . next ack _ =>
    split at hne
    . exact absurd rfl hne
    . split at hne
      . exact absurd rfl hne
      . next hcurrent =>
        split at hne
        . exact absurd rfl hne
        . next request hrequest =>
          rw [Option.filter_eq_some_iff] at hrequest
          have hkey := hd.key _ _ hrequest.1
          simp only at hne
          split at hne
          . exact absurd rfl hne
          . split at hne
            . exact absurd rfl hne
            . next hsent =>
              split at hne
              . exact absurd rfl hne
              . split at hne
                . exact absurd rfl hne
                . simp only [applyAck_rows, acknowledge, Table.lookup_insert_eq, hkey] at hne
                  split at hne
                  . next hid =>
                    cases hruntime : s.moduleRuntime agent conn with
                    | none => simp [hruntime] at hsent
                    | some old =>
                      rcases moduleRuntime_some hruntime with ⟨hold, hconn⟩
                      have hmem : ack.commandId ∈ old.sent := by
                        simpa [hruntime] using hsent
                      have := hd.sent agent old hold _ hmem
                      rw [hconn, ← hid] at this
                      exact ⟨by simpa using hcurrent, this⟩
                  . exact absurd rfl hne

theorem length_pendingDisables {s : AppState} (hd : Disables s) (agent : Uuid)
    : (s.pendingDisables agent).entries.length ≤ disableRowLimit := by
  have hrow : ∀ entry ∈ (s.pendingDisables agent).entries,
      s.disableRequests.lookup entry.1 = some entry.2
        ∧ entry.2.agentId = agent ∧ entry.2.pending = true := by
    intro entry hentry
    have hlookup := AList.mem_lookup_iff.mpr hentry
    rw [Option.mem_def, lookup_pendingDisables, Option.filter_eq_some_iff] at hlookup
    exact ⟨hlookup.1, by simpa using hlookup.2⟩
  -- The rows are told apart by their modules.
  have hnodup : ((s.pendingDisables agent).entries.map (fun entry => entry.2.module)).Nodup := by
    apply List.Nodup.map_on _ (s.pendingDisables agent).nodupKeys.nodup
    intro x hx y hy hmodule
    rcases hrow x hx with ⟨hlookup, hagent, hpending⟩
    rcases hrow y hy with ⟨hlookup', hagent', hpending'⟩
    have hid := hd.single _ _ _ _ hlookup hlookup' hpending hpending' (hagent.trans hagent'.symm)
      hmodule
    rw [hid, hlookup'] at hlookup
    exact Sigma.ext hid (heq_of_eq (Option.some.inj hlookup.symm))
  have hsubset : (s.pendingDisables agent).entries.map (fun entry => entry.2.module) ⊆ Module.all :=
    fun m _ => Module.mem_all m
  have hlength := (List.subperm_of_subset hnodup hsubset).length_le
  rw [List.length_map] at hlength
  exact Nat.le_trans hlength (by decide)

end AppState

/--
What the current connection of a device keeps of its disable requests is what is pending in the
database, which the limit of the query does not cut short and of which there is one for a module at
most; a request that has ended stays as it is, and an acknowledgment changes a request only if it was
sent on the connection the acknowledgment came from.
-/
theorem disables_coherent {s : AppState} (h : StoredRuns AppState.init s)
    : (∀ agent conn runtime, s.connId? agent = some conn → s.moduleRuntime agent conn = some runtime →
        ∀ id, (runtime.pending.lookup id).map AppState.binding
          = ((s.disableRequests.lookup id).filter
            (fun request => request.agentId = agent ∧ request.pending)).map AppState.binding)
      ∧ (∀ agent, (s.pendingDisables agent).entries.length ≤ disableRowLimit)
      ∧ (∀ id id' request request', s.disableRequests.lookup id = some request →
        s.disableRequests.lookup id' = some request' → request.pending = true →
        request'.pending = true → request.agentId = request'.agentId →
        request.module = request'.module → id = id')
      ∧ (∀ t, StoredRuns s t → ∀ id request, s.disableRequests.lookup id = some request →
        request.pending = false → t.disableRequests.lookup id = some request)
      ∧ ∀ agent conn value acknowledged id,
        (s.acceptModuleDisableAck agent conn value acknowledged).2.disableRequests.lookup id
          ≠ s.disableRequests.lookup id →
        s.connId? agent = some conn ∧ s.SentOn conn id := by
  have hd := AppState.Disables.runs h
  refine ⟨?_, fun agent => AppState.length_pendingDisables hd agent, hd.single, ?_, ?_⟩
  . intro agent conn runtime _ hruntime
    exact hd.pending agent runtime (AppState.moduleRuntime_some hruntime).1
  . intro t hruns id request hrow hended
    exact AppState.ended_runs h hruns hrow hended
  . intro agent conn value acknowledged id hne
    exact AppState.disableAck_sent hd hne

/-!
A request is made, sent and refused by the device.
-/

theorem storedRuns_run {s : AppState} {ops : List Op} (hfresh : s.freshRun ops = true)
    (hstored : ops.all Op.stored = true) : StoredRuns s (s.run ops) := by
  induction ops generalizing s with
  | nil => exact Relation.ReflTransGen.refl
  | cons op ops ih =>
    simp only [AppState.freshRun, Bool.and_eq_true] at hfresh
    simp only [List.all_cons, Bool.and_eq_true] at hstored
    exact Relation.ReflTransGen.head ⟨op, (s.isFresh_iff op).mp hfresh.1, hstored.1, rfl⟩
      (ih hfresh.2 hstored.2)

theorem disables_coherent_refused
    : (((AppState.init.run Example.refused).run [.invalidate 1 "Closed"]).disableRequests.lookup
        20).map ModuleDisableRequest.status = some .error := by
  have hrun : AppState.init.freshRun Example.refused = true
      ∧ Example.refused.all Op.stored = true
      ∧ (AppState.init.run Example.refused).freshRun [.invalidate 1 "Closed"] = true
      ∧ ((AppState.init.run Example.refused).disableRequests.lookup 20).map ModuleDisableRequest.status
        = some .error := by
    decide +kernel
  rcases hrun with ⟨hfresh, hstored, hclosed, hstatus⟩
  have hinit : StoredRuns AppState.init (AppState.init.run Example.refused) :=
    storedRuns_run hfresh hstored
  have hruns : StoredRuns (AppState.init.run Example.refused)
      ((AppState.init.run Example.refused).run [.invalidate 1 "Closed"]) :=
    storedRuns_run hclosed (by decide)
  rw [Option.map_eq_some_iff] at hstatus
  rcases hstatus with ⟨request, hrow, hstatus⟩
  have hended : request.pending = false := by
    simp [ModuleDisableRequest.pending, hstatus]
  rw [(disables_coherent hinit).2.2.2.1 _ hruns 20 request hrow hended, Option.map_some, hstatus]

end Vantyr
