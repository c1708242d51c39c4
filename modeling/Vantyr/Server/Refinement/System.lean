import Vantyr.Server.Refinement.Control

/-!
This module proves that the entry points that take in grants and those of a connection are sequences
of actions, and puts the parts together: every step of the server is a sequence of actions, or it
takes an entry out of a queue.
-/

namespace Vantyr

namespace AppState

variable {P : Uuid → Queued → Prop} {s : AppState}

/-!
Grants.
-/

theorem settle_modules (s : AppState) (change : List LeaseCleanup × ControlSessions)
    : (s.settle change).2.modules = s.modules := by
  rcases s.settle_frame change with ⟨_, _, _, _, heq⟩
  rw [heq]

theorem revokeAgentControl_modules (s : AppState) (agent conn : Uuid)
    : (s.revokeAgentControl agent conn).modules = s.modules :=
  s.settle_modules _

theorem revokeAgentControl_connId? (s : AppState) (agent conn other : Uuid)
    : (s.revokeAgentControl agent conn).connId? other = s.connId? other :=
  s.settle_connId? _ other

theorem moduleRuntime_of_modules {agent conn : Uuid} {runtime : RuntimeModules} (hs : Coherent s)
    (hconn : s.connId? agent = some conn) (hruntime : s.modules agent = some runtime)
    : s.moduleRuntime agent conn = some runtime := by
  have := hs.modules agent runtime hruntime
  rw [hconn] at this
  simp only [Option.some.injEq] at this
  simp [moduleRuntime, hruntime, this, Option.filter]

theorem moduleRuntime_some {agent conn : Uuid} {runtime : RuntimeModules}
    (h : s.moduleRuntime agent conn = some runtime)
    : s.modules agent = some runtime ∧ runtime.connId = conn := by
  unfold moduleRuntime at h
  rw [Option.filter_eq_some_iff] at h
  exact ⟨h.1, by simpa using h.2⟩

-- The generation of the capture is taken away with the same report that changed its revision.
theorem publish_eq (agent : Uuid) (runtime : RuntimeModules)
    : s.publish agent runtime
        = (if s.revisionChanged agent .liveScreen runtime.report then s.nilGeneration agent
          else s).setRuntime agent runtime := by
  unfold publish
  split <;> rfl

theorem setRuntime_eq {agent : Uuid} {old runtime : RuntimeModules}
    (hold : s.modules agent = some old) (hreport : runtime.report = old.report)
    : s.setRuntime agent runtime = s.publish agent runtime := by
  rw [publish_eq, if_neg]
  simp [revisionChanged, hold, hreport]

theorem acts_setRuntime {agent : Uuid} {old runtime : RuntimeModules} (hs : Coherent s)
    (hold : s.modules agent = some old) (hconn : runtime.connId = old.connId)
    (hreport : runtime.report = old.report) : Acts P s (s.setRuntime agent runtime) := by
  rw [setRuntime_eq hold hreport]
  apply Acts.effect
  apply Effect.publish
  . rw [hconn]
    exact hs.modules agent old hold
  . intro old' hold'
    rw [hold] at hold'
    cases hold'
    exact Or.inl hreport

theorem acts_applyGrants {agent conn : Uuid} {runtime : RuntimeModules} {report : ModuleReport}
    (hs : Coherent s) (hP : Releasable P s) (hconn : s.connId? agent = some conn)
    (hruntime : runtime.connId = conn) (hreport : runtime.report = report)
    (hfollows : ∀ old, s.modules agent = some old → report.follows old.report = true)
    (revoke : Bool)
    : Acts P s ((s.applyGrants agent conn report revoke).setRuntime agent runtime) := by
  subst hreport
  have hpublish : ∀ t, Acts P s t → t.modules = s.modules → t.connId? agent = some conn →
      Acts P s ((if s.revisionChanged agent .liveScreen runtime.report then t.nilGeneration agent
        else t).setRuntime agent runtime) := by
    intro t ht hmodules htconn
    have hchanged : s.revisionChanged agent .liveScreen runtime.report
        = t.revisionChanged agent .liveScreen runtime.report := by
      simp only [revisionChanged, hmodules]
    rw [hchanged, ← publish_eq]
    apply ht.trans
    apply Acts.effect
    apply Effect.publish
    . rw [hruntime]
      exact htconn
    . intro old hold
      rw [hmodules] at hold
      exact Or.inr (hfollows old hold)
  simp only [applyGrants]
  generalize (_ || _ : Bool) = condition
  cases condition with
  | true =>
    apply hpublish
    . exact (acts_revokeAgentControl hs hP agent conn).1
    . exact s.revokeAgentControl_modules agent conn
    . rw [if_pos rfl, revokeAgentControl_connId?]
      exact hconn
  | false =>
    apply hpublish
    . exact Acts.refl s
    . rfl
    . exact hconn

theorem acts_acceptModuleReport (hs : Coherent s) (hP : Releasable P s) (agent conn : Uuid)
    (value : Json) : Acts P s (s.acceptModuleReport agent conn value).2 := by
  unfold acceptModuleReport
  split
  . exact Acts.refl s
  . next report hreport =>
    simp only
    split
    . exact Acts.refl s
    . next hconn =>
      have hconn : s.connId? agent = some conn := by simpa using hconn
      split
      . exact Acts.refl s
      . next hfollows =>
        generalize hstart : AppState.mk _ _ _ _ _ _ _ _ _ _ _ _ _ _ _ _ _ _ _ = s'
        have hsame : SameCore s s' := by
          rw [← hstart]
          constructor <;> simp
        have hP' : Releasable P s' := by
          rw [← hstart]
          exact hP
        apply (Acts.same hsame).trans
        apply acts_applyGrants (hs.same hsame) hP'
        . rw [hsame.connId?]
          exact hconn
        . rfl
        . rfl
        . intro old hold
          rw [hsame.modules] at hold
          have := moduleRuntime_of_modules hs hconn hold
          simpa [this] using hfollows

theorem plain_disableModule (m : Module) (revision : Nat) (id : Uuid)
    : Plain (disableModule m revision id) := by
  have hkind : (disableModule m revision id).kind = "disable_module" := rfl
  constructor
  . exact ordinary_of_kind hkind (by decide)
  . rw [hkind]
    decide
  . rw [hkind]
    decide

theorem plain_authorized {agent : Uuid} {cmd command : Json}
    (h : s.authorizeAgentCommand agent cmd = .ok command) (hcmd : Plain cmd) : Plain command where
  ordinary := ordinary_authorized h hcmd.ordinary
  notRead := by
    rw [kind_authorized h]
    exact hcmd.notRead
  notWrite := by
    rw [kind_authorized h]
    exact hcmd.notWrite

theorem acts_replayModuleDisable {op : Op} {s₀ : AppState} (hs : Coherent s)
    (agent conn commandId : Uuid) (now : Nat) (marked : Bool)
    : Acts (Placed s₀ op) s (s.replayModuleDisable agent conn commandId now marked) := by
  unfold replayModuleDisable
  split
  . exact Acts.refl s
  . next runtime hruntime =>
    split
    . exact Acts.refl s
    . next request hrequest =>
      split
      . exact Acts.refl s
      . next command hauth =>
        split
        . next e t heq => exact Acts.same (enqueueAuthorizedCommand_error heq)
        . next t heq =>
          have hok := enqueueAuthorizedCommand_ok hs heq
          have hplain := plain_authorized hauth (plain_disableModule _ _ _)
          have hpush : Acts (Placed s₀ op) s t :=
            Acts.effect_same
              (.push hok.1 hplain.ordinary (Or.inl (stamped_authorized hauth)) (.plain hplain)) hok.2
          have hmodules : t.modules agent = some runtime := by
            rw [hok.2.modules]
            exact (moduleRuntime_some hruntime).1
          have hset : Acts (Placed s₀ op) s (t.setRuntime agent {
              runtime with
              sent := request.commandId :: runtime.sent
              lastSent := Function.update runtime.lastSent request.commandId (some now)
            }) :=
            hpush.trans (acts_setRuntime (hs.acts hpush) hmodules rfl rfl)
          simp only
          split
          . apply hset.trans
            apply Acts.same
            constructor <;> simp
          . exact hset

theorem checkAck_follows {request : ModuleDisableRequest} {previous report : ModuleReport}
    {ack : DisableAck} {status : RequestStatus}
    (h : checkAck request (some previous) ack = .ok (status, some report))
    : report.follows previous = true := by
  unfold checkAck at h
  split at h
  . contradiction
  . split at h
    . contradiction
    . simp only at h
      split at h
      . contradiction
      . split at h
        . contradiction
        . split at h
          . contradiction
          . split at h
            . contradiction
            . split at h
              . contradiction
              . next hstate =>
                cases h
                unfold checkAckState at hstate
                split at hstate
                . split at hstate
                  . cases hstate
                  . contradiction
                . split at hstate
                  . contradiction
                  . split at hstate
                    . contradiction
                    . next hreport =>
                      cases hstate
                      unfold checkAckReport at hreport
                      simp only at hreport
                      split at hreport
                      . contradiction
                      . split at hreport
                        . contradiction
                        . split at hreport
                          . contradiction
                          . split at hreport
                            . contradiction
                            . next hfollows => simpa using hfollows

theorem forgetPending_eq {agent conn commandId : Uuid} {runtime : RuntimeModules}
    (hruntime : s.moduleRuntime agent conn = some runtime) (report : Option ModuleReport)
    : s.forgetPending agent conn commandId report = s.setRuntime agent {
        runtime with
        report := report.getD runtime.report
        pending := runtime.pending.erase commandId
        sent := runtime.sent.filter (fun id => id ≠ commandId)
        lastSent := Function.update runtime.lastSent commandId none
      } := by
  unfold forgetPending
  rw [hruntime]

theorem applyGrants_moduleRuntime (s : AppState) (agent conn : Uuid) (report : ModuleReport)
    (revoke : Bool)
    : (s.applyGrants agent conn report revoke).moduleRuntime agent conn
        = s.moduleRuntime agent conn := by
  have hmodules : (s.applyGrants agent conn report revoke).modules = s.modules := by
    simp only [applyGrants]
    split
    . simp only [nilGeneration, setActive]
      split
      . exact s.revokeAgentControl_modules agent conn
      . rfl
    . split
      . exact s.revokeAgentControl_modules agent conn
      . rfl
  simp only [moduleRuntime, hmodules]

theorem acts_applyAck {agent conn commandId : Uuid} {runtime : RuntimeModules} (hs : Coherent s)
    (hP : Releasable P s) (hconn : s.connId? agent = some conn)
    (hruntime : s.moduleRuntime agent conn = some runtime) (report : Option ModuleReport)
    (hfollows : ∀ new, report = some new → new.follows runtime.report = true)
    : Acts P s (s.applyAck agent conn commandId report) := by
  have hmodules := moduleRuntime_some hruntime
  unfold applyAck
  cases report with
  | none =>
    simp only
    rw [forgetPending_eq hruntime]
    exact acts_setRuntime hs hmodules.1 rfl rfl
  | some new =>
    simp only
    rw [forgetPending_eq (by rw [applyGrants_moduleRuntime]; exact hruntime)]
    apply acts_applyGrants hs hP hconn
    . exact hmodules.2
    . rfl
    . intro old hold
      rw [hmodules.1] at hold
      cases hold
      exact hfollows new rfl

theorem acts_acceptModuleDisableAck (hs : Coherent s) (hP : Releasable P s) (agent conn : Uuid)
    (value : Json) (acknowledged : Bool)
    : Acts P s (s.acceptModuleDisableAck agent conn value acknowledged).2 := by
  unfold acceptModuleDisableAck
  split
  . exact Acts.refl s
  . next ack hack =>
    split
    . exact Acts.refl s
    . split
      . exact Acts.refl s
      . next hconn =>
        have hconn : s.connId? agent = some conn := by simpa using hconn
        split
        . exact Acts.refl s
        . next request hrequest =>
          simp only
          split
          . exact Acts.refl s
          . split
            . exact Acts.refl s
            . next hsent =>
              split
              . exact Acts.refl s
              . next status report hcheck =>
                cases hruntime : s.moduleRuntime agent conn with
                | none => simp [hruntime] at hsent
                | some runtime =>
                  rw [hruntime, Option.map_some] at hcheck
                  generalize hstart : AppState.mk _ _ _ _ _ _ _ _ _ _ _ _ _ _ _ _ _ _ _ = s'
                  have hsame : SameCore s s' := by
                    rw [← hstart]
                    constructor <;> simp
                  have hsessions : s'.sessions = s.sessions := by rw [← hstart]
                  split
                  . exact Acts.same hsame
                  . have hack : SameCore s (s'.acknowledge request status ack) :=
                      hsame.trans (by constructor <;> simp [acknowledge])
                    apply (Acts.same hack).trans
                    apply acts_applyAck (hs.same hack)
                    . intro other l hl
                      rw [hack.sessions] at hl
                      exact hP other l hl
                    . rw [hack.connId?]
                      exact hconn
                    . simp only [moduleRuntime, hack.modules]
                      exact hruntime
                    . intro new hnew
                      rw [hnew] at hcheck
                      exact checkAck_follows hcheck

theorem acts_blockModule (hs : Coherent s) (hP : Releasable P s) (agent : Uuid)
    (request : ModuleDisableRequest) (retry : Bool) (now : Nat)
    : Acts P s (s.blockModule agent request retry now).2 := by
  unfold blockModule
  split
  . exact Acts.refl s
  . next conn hconn =>
    dsimp only
    have hrevoked : Acts P s (if request.module = .remoteInput ∨ request.module = .liveScreen then
        s.revokeAgentControl agent conn else s) := by
      split
      . exact (acts_revokeAgentControl hs hP agent conn).1
      . exact Acts.refl s
    generalize (if request.module = .remoteInput ∨ request.module = .liveScreen then
      s.revokeAgentControl agent conn else s) = t at hrevoked
    split
    . exact hrevoked
    . next runtime hruntime =>
      split
      . exact hrevoked
      . apply hrevoked.trans
        exact acts_setRuntime (hs.acts hrevoked) (moduleRuntime_some hruntime).1 rfl rfl

theorem acts_requestDisable (hs : Coherent s) (hP : Releasable P s) (agent : Uuid) (user : AuthUser)
    (m : Module) (expectedRevision : Nat) (commandId : Uuid) (now : Nat) (readBack : Bool)
    : Acts P s (s.requestDisable agent user m expectedRevision commandId now readBack).2 := by
  have hcreate : SameCore s (s.createModuleDisable agent m expectedRevision commandId) := by
    unfold createModuleDisable
    split
    . exact SameCore.refl s
    . constructor <;> simp
  have hP' : Releasable P (s.createModuleDisable agent m expectedRevision commandId) := by
    intro other l hl
    rw [hcreate.sessions] at hl
    exact hP other l hl
  unfold requestDisable
  simp only
  split
  . exact Acts.refl s
  . split
    . exact Acts.refl s
    . split
      . exact Acts.refl s
      . split
        . exact Acts.same hcreate
        . split
          . apply (Acts.same hcreate).trans
            exact acts_blockModule (hs.same hcreate) hP' agent _ _ now
          . exact Acts.same hcreate

/-!
Connections.
-/

theorem revokeAgentControl_lookup {agent conn : Uuid} (hs : Coherent s)
    (hconn : s.connId? agent = some conn)
    : (s.revokeAgentControl agent conn).sessions.lookup agent = none := by
  unfold revokeAgentControl
  rw [settle_sessions]
  unfold ControlSessions.revokeAgent
  cases hlease : s.sessions.lookup agent with
  | none => simpa using hlease
  | some lease =>
    have := hs.lease agent lease hlease
    rw [hconn] at this
    simp only [Option.some.injEq] at this
    simp [this, ControlSessions.remove]

theorem registerConnection_revoke {agent conn : Uuid} (hs : Coherent s)
    (hconn : s.connId? agent = some conn) (historyKnown : Bool) (fresh : Uuid)
    : s.registerConnection agent historyKnown fresh
        = (s.revokeAgentControl agent conn).registerConnection agent historyKnown fresh := by
  have hnone := revokeAgentControl_lookup hs hconn
  have hconn' := s.revokeAgentControl_connId? agent conn agent
  rw [hconn] at hconn'
  simp only [registerConnection, hconn, hconn', revokeAgentControl_of_lookup hnone]

theorem acts_registerConnection {agent fresh : Uuid} (hs : Coherent s) (hP : Releasable P s)
    (hfresh : fresh ∉ s.minted) (historyKnown : Bool)
    : Acts P s (s.registerConnection agent historyKnown fresh) := by
  cases hconn : s.connId? agent with
  | none =>
    apply Acts.effect
    apply Effect.register historyKnown _ hfresh
    cases hlease : s.sessions.lookup agent with
    | none => rfl
    | some lease =>
      have := hs.lease agent lease hlease
      rw [hconn] at this
      contradiction
  | some conn =>
    rw [registerConnection_revoke hs hconn]
    apply (acts_revokeAgentControl hs hP agent conn).1.trans
    apply Acts.effect
    apply Effect.register historyKnown (revokeAgentControl_lookup hs hconn)
    unfold revokeAgentControl
    rw [settle_minted]
    exact hfresh

theorem revokeAgentControl_of_ne {agent conn : Uuid} (hs : Coherent s)
    (hconn : s.connId? agent ≠ some conn) : s.revokeAgentControl agent conn = s := by
  unfold revokeAgentControl ControlSessions.revokeAgent
  rw [if_neg]
  . rfl
  . intro hany
    rw [Option.any_eq_true] at hany
    rcases hany with ⟨lease, hlease, howner⟩
    apply hconn
    rw [hs.lease agent lease hlease]
    simpa using howner

theorem retain_stale {agent conn : Uuid} (hs : Coherent s) (hconn : s.connId? agent ≠ some conn)
    : Table.retain (fun _ session => session.agentId ≠ agent ∨ session.connId ≠ conn) s.mjpegSessions
        = s.mjpegSessions := by
  apply Table.retain_eq_self
  intro session mapped hmapped
  have := hs.session session mapped hmapped
  by_cases hagent : mapped.agentId = agent
  . rw [hagent] at this
    rw [this] at hconn
    simpa [hagent] using hconn
  . simp [hagent]

theorem active_stale {agent conn : Uuid} (hs : Coherent s) (hconn : s.connId? agent ≠ some conn)
    : (s.activeCapture agent).any (fun active => active.connId = conn) = false := by
  rw [Option.any_eq_false]
  intro active hactive
  have := hs.active agent active hactive
  rw [this] at hconn
  simpa using hconn

theorem clearCaptureConnection_stale {agent conn : Uuid} (hs : Coherent s)
    (hconn : s.connId? agent ≠ some conn) : SameCore s (s.clearCaptureConnection agent conn) := by
  have hcleared := s.clearCaptureConnection_spec agent conn
  constructor
  . exact hcleared.connections
  . exact hcleared.cmds
  . exact hcleared.modules
  . exact hcleared.sockets
  . intro other
    rw [hcleared.sessions]
  . exact hcleared.capture
  . intro session
    rw [hcleared.mjpegSessions, retain_stale hs hconn]
  . rw [hcleared.activeCapture, active_stale hs hconn]
    rfl
  . rw [hcleared.inflight]
    exact List.Subset.refl _
  . rw [hcleared.minted]
    exact List.Subset.refl _
  . exact hcleared.grants
  . exact hcleared.cleanups

theorem acts_cleanupConnection (hs : Coherent s) (hP : Releasable P s) (agent conn : Uuid)
    : Acts P s (s.cleanupConnection agent conn) := by
  unfold cleanupConnection
  by_cases hconn : s.connId? agent = some conn
  . have hrevoke := (acts_revokeAgentControl hs hP agent conn).1
    have hconn' : (s.revokeAgentControl agent conn).connId? agent = some conn := by
      rw [revokeAgentControl_connId?]
      exact hconn
    have hnone := revokeAgentControl_lookup hs hconn
    simp only
    rw [if_pos]
    . exact hrevoke.trans (Acts.effect (.unregister none hconn' hnone))
    . unfold connId?
      rw [(clearCaptureConnection_spec _ agent conn).connections]
      exact hconn'
  . have hstale := clearCaptureConnection_stale hs hconn
    rw [revokeAgentControl_of_ne hs hconn]
    simp only
    rw [if_neg]
    . exact Acts.same hstale
    . rw [hstale.connId?]
      exact hconn

theorem acts_invalidateAgentConnection (hs : Coherent s) (hP : Releasable P s) (agent : Uuid)
    (reason : String) : Acts P s (s.invalidateAgentConnection agent reason) := by
  unfold invalidateAgentConnection
  split
  . next conn hconn =>
    have hrevoke := (acts_revokeAgentControl hs hP agent conn).1
    have hconn' : (s.revokeAgentControl agent conn).connId? agent = some conn := by
      rw [revokeAgentControl_connId?]
      exact hconn
    have hnone := revokeAgentControl_lookup hs hconn
    exact hrevoke.trans (Acts.effect (.unregister (some reason) hconn' hnone))
  . next hconn =>
    have hconnection : s.connections agent = none := by simpa [connId?] using hconn
    have hcmds : s.cmds agent = none := by
      rw [hs.cmds]
      exact hconn
    have hmodules : s.modules agent = none := by
      cases hruntime : s.modules agent with
      | none => rfl
      | some runtime =>
        have := hs.modules agent runtime hruntime
        rw [hconn] at this
        contradiction
    apply Acts.same
    constructor <;> simp [unregister, ← hconnection, ← hcmds, ← hmodules]

/-!
Delivery.
-/

@[simp]
theorem take_connId? (s : AppState) (conn agent : Uuid)
    : (s.take conn).connId? agent = s.connId? agent :=
  rfl

@[simp]
theorem take_openConn? (s : AppState) (conn agent : Uuid)
    : (s.take conn).openConn? agent = s.openConn? agent := by
  have hclosing : ∀ other, (s.take conn).closing other = s.closing other := by
    intro other
    simp only [closing, take, modifySocket, Function.update_apply]
    split
    . next heq => rw [heq]
    . rfl
  simp only [openConn?, hclosing]
  rfl

end AppState

-- What is checked before an entry is written, apart from the fence of a clipboard request.
def AppState.deliverable (s : AppState) (conn : Uuid) (item : Queued) : Bool :=
  let agent := (s.sockets conn).agent
  match item.control with
  | .text cmd =>
    s.openConn? agent = some conn
      && s.captureDeliverable agent conn cmd
      && s.generationDeliverable agent cmd
  | .inputCleanup cleanupSocket command =>
    s.controlCleanupDeliverable agent conn cleanupSocket command

def AgentControl.command : AgentControl → Json
  | .text cmd => cmd
  | .inputCleanup _ command => command

/--
How a delivery ends. An entry that is not deliverable is dropped; so are clipboard requests whose
lease is gone, which may find it expired.
-/
inductive Delivery (P : Uuid → Queued → Prop) (s : AppState) (conn : Uuid) : AppState → Prop where
  | idle (h : (s.sockets conn).sent[(s.sockets conn).taken]? = none) : Delivery P s conn s
  | drop {item : Queued} {t : AppState}
      (hitem : (s.sockets conn).sent[(s.sockets conn).taken]? = some item)
      (hdenied : s.deliverable conn item = false
        ∨ ∃ cmd, item.control = .text cmd
          ∧ (cmd.kind = "ClipboardRead" ∨ cmd.kind = "ClipboardWrite"))
      (hacts : Acts P (s.take conn) t) : Delivery P s conn t
  | write {item : Queued}
      (hitem : (s.sockets conn).sent[(s.sockets conn).taken]? = some item)
      (hdeliverable : s.deliverable conn item = true)
      : Delivery P s conn
          ((s.take conn).write conn (s.sockets conn).taken item.control.command)

namespace AppState

variable {P : Uuid → Queued → Prop} {s : AppState}

theorem clipboardDeliverable_true {t : AppState} {agent conn : Uuid} {cmd : Json} {now : Nat}
    (h : s.clipboardDeliverable agent conn cmd now = (true, t)) : t = s := by
  unfold clipboardDeliverable at h
  split at h
  . simp at h
  . split at h
    . exact (clipboardValid_true h).1
    . simp at h

theorem acts_clipboardDeliverable (hs : Coherent s) (hP : Releasable P s) (agent conn : Uuid)
    (cmd : Json) (now : Nat) : Acts P s (s.clipboardDeliverable agent conn cmd now).2 := by
  unfold clipboardDeliverable
  split
  . exact Acts.refl s
  . split
    . exact acts_clipboardValid hs hP _ now
    . exact Acts.refl s

theorem delivery (hs : Coherent s) (hP : Releasable P s) (conn : Uuid) (now : Nat)
    : Delivery P s conn (s.deliver conn now) := by
  unfold deliver
  simp only
  split
  . next hnone => exact .idle hnone
  . next item hitem =>
    have htake : Coherent (s.take conn) := hs.modifySocket rfl
    split
    . next cmd hcontrol =>
      generalize hres : (s.take conn).commandDeliverable _ conn cmd now = res
      rcases res with ⟨valid, t⟩
      by_cases hclipboard : cmd.kind = "ClipboardRead" ∨ cmd.kind = "ClipboardWrite"
      . simp only [commandDeliverable, hclipboard, ↓reduceIte] at hres
        have hacts := acts_clipboardDeliverable htake hP (s.sockets conn).agent conn cmd now
        generalize hclip : (s.take conn).clipboardDeliverable _ conn cmd now = clip at hres hacts
        rcases clip with ⟨ok, u⟩
        simp only [Prod.mk.injEq] at hres
        rcases hres with ⟨hvalid, hu⟩
        subst hu
        cases valid with
        | false => exact .drop hitem (Or.inr ⟨cmd, hcontrol, hclipboard⟩) hacts
        | true =>
          simp only [Bool.and_eq_true] at hvalid
          have hok := hvalid.1.1.1
          subst hok
          have hu := clipboardDeliverable_true hclip
          subst hu
          have hcommand : cmd = item.control.command := by rw [hcontrol]; rfl
          rw [hcommand]
          apply Delivery.write hitem
          simp only [deliverable, hcontrol, Bool.and_eq_true]
          rw [take_openConn?] at hvalid
          exact ⟨⟨hvalid.1.1.2, hvalid.1.2⟩, hvalid.2⟩
      . simp only [commandDeliverable, hclipboard, ↓reduceIte, Bool.true_and, Prod.mk.injEq] at hres
        rcases hres with ⟨hvalid, ht⟩
        subst ht
        have hdeliverable : s.deliverable conn item = valid := by
          rw [← hvalid, take_openConn?]
          simp only [deliverable, hcontrol]
          rfl
        cases valid with
        | false => exact .drop hitem (Or.inl hdeliverable) (Acts.refl _)
        | true =>
          have hcommand : cmd = item.control.command := by rw [hcontrol]; rfl
          rw [hcommand]
          exact .write hitem hdeliverable
    . next cleanupSocket command hcontrol =>
      have hcommand : command = item.control.command := by rw [hcontrol]; rfl
      split
      . next hdeliverable =>
        rw [hcommand]
        apply Delivery.write hitem
        simp only [deliverable, hcontrol]
        exact hdeliverable
      . next hdeliverable =>
        refine .drop hitem (Or.inl ?_) (Acts.refl _)
        simp only [deliverable, hcontrol]
        simpa using hdeliverable

/-!
Every step.
-/

theorem acts_exec {op : Op} (hs : Coherent s) (hfresh : s.Fresh op)
    (hop : ∀ conn now, op ≠ .deliver conn now) : Acts (Placed s op) s (s.exec op) := by
  have hP := releasable_placed s op
  cases op with
  | register agent historyKnown fresh =>
    exact acts_registerConnection hs hP (hfresh fresh rfl).2 historyKnown
  | cleanup agent conn => exact acts_cleanupConnection hs hP agent conn
  | invalidate agent reason => exact acts_invalidateAgentConnection hs hP agent reason
  | deliver conn now => exact absurd rfl (hop conn now)
  | frame agent conn geometry now =>
    apply Acts.same
    simp only [exec, ingestFrame]
    split
    . constructor <;> simp [storeFrame]
    . exact SameCore.refl s
  | moduleReport agent conn value => exact acts_acceptModuleReport hs hP agent conn value
  | disableAck agent conn value acknowledged =>
    exact acts_acceptModuleDisableAck hs hP agent conn value acknowledged
  | requestDisable agent user m expectedRevision commandId now readBack =>
    exact acts_requestDisable hs hP agent user m expectedRevision commandId now readBack
  | replayDisable agent conn commandId now marked =>
    exact acts_replayModuleDisable hs agent conn commandId now marked
  | syncCapture agent fresh =>
    apply acts_syncCapture hs (hfresh fresh rfl)
    intro conn command hkind
    exact .capture hkind (Or.inl rfl)
  | beginSession agent session user prefs requestedMonitor now fresh =>
    refine acts_beginMjpegSession hs (hfresh fresh rfl) ?_ hP agent session user prefs
      requestedMonitor now
    intro conn command hkind
    exact .capture hkind (Or.inr (Or.inl ⟨session, user, prefs, requestedMonitor, now, rfl⟩))
  | endSession agent session user fresh =>
    refine acts_endMjpegSession hs (hfresh fresh rfl) ?_ hP agent session user
    intro conn command hkind
    exact .capture hkind (Or.inr (Or.inr ⟨session, user, rfl⟩))
  | leaseMessage viewer user value now fresh =>
    exact acts_controlLeaseMessage hs (hfresh fresh rfl).2 hP viewer user value now
  | viewerCommand agent viewer user token cmd now =>
    simp only [exec, viewerCommand]
    split
    . exact Acts.refl s
    . split
      . next hkind => exact acts_sendViewerInput hs hkind
      . exact acts_authorizeSend s agent cmd
  | viewerGone viewer => exact acts_revokeViewerControl hs hP viewer
  | expire now => exact (acts_expireControl hs hP now).1
  | sendCommand agent cmd => exact acts_authorizeSend s agent cmd
  | finishSend index => exact acts_finishSend hs index
  | clipboardRequest agent user request now fresh => exact acts_clipboardExchange hs
  | clipboardTick id now => exact acts_clipboardTick hs id now
  | clipboardReceive id now => exact acts_clipboardReceive hs hP id now
  | clipboardDrop id => exact acts_dropWaiter hs id
  | clipboardResult agent conn value now => exact acts_completeClipboard hs hP agent conn value now
  | provideRoom room =>
    apply Acts.same
    constructor <;> simp [exec, setRoom]
  | reorderSessions session =>
    apply Acts.same
    constructor <;> simp [exec]
  | reorderLeases agent =>
    apply Acts.same
    constructor <;> simp [exec]

end AppState

theorem Coherent.take {s : AppState} (hs : Coherent s) (conn : Uuid) : Coherent (s.take conn) :=
  hs.modifySocket rfl

theorem Coherent.delivery {P : Uuid → Queued → Prop} {s t : AppState} {conn : Uuid}
    (hs : Coherent s) (h : Delivery P s conn t) : Coherent t := by
  cases h with
  | idle => exact hs
  | drop hitem hdenied hacts => exact (hs.take conn).acts hacts
  | write hitem hdeliverable => exact (hs.take conn).modifySocket rfl

theorem Coherent.step {s t : AppState} (hs : Coherent s) (h : Step s t) : Coherent t := by
  rcases h with ⟨op, hfresh, heq⟩
  subst heq
  by_cases hop : ∀ conn now, op ≠ .deliver conn now
  . exact hs.acts (AppState.acts_exec hs hfresh hop)
  . simp only [not_forall, not_not] at hop
    rcases hop with ⟨conn, now, hop⟩
    subst hop
    exact hs.delivery (AppState.delivery hs (releasable_placed s (.deliver conn now)) conn now)

theorem Reachable.coherent {s : AppState} (h : Reachable s) : Coherent s := by
  induction h with
  | refl => exact Coherent.init
  | tail _ hstep ih => exact ih.step hstep

end Vantyr
