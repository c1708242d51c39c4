import Vantyr.Server.CaptureAgreement
import Vantyr.Server.Footprint

/-!
This module contains what a step of the server does to the capture of an agent, to the frame that is
cached for it and to the captures that are remembered as retired.
-/

namespace Vantyr

namespace AppState

-- The captures of a connection that are remembered as retired.
def retiredIds (s : AppState) (agent conn : Uuid) : RetiredCaptures :=
  ((s.retiredCaptures agent).filter (fun entry => entry.1 = conn)).elim [] Prod.snd

-- The capture that the cached frame of an agent shows.
def cachedCapture (s : AppState) (agent : Uuid) : Option Uuid :=
  ((s.frames.lookup agent).bind Frame.geometry).map Geometry.captureId

theorem retireObserved_eq (s : AppState) (agent conn : Uuid)
    : s.retireObserved agent conn
        = match s.cachedCapture agent with
          | some id =>
            if (s.retiredIds agent conn).contains id then
              s.retiredIds agent conn
            else
              (id :: s.retiredIds agent conn).take 32
          | none => s.retiredIds agent conn :=
  rfl

section Retire

variable {s : AppState} {agent conn id : Uuid}

theorem retireObserved_subset (h : id ∈ s.retireObserved agent conn)
    : id ∈ s.retiredIds agent conn ∨ s.cachedCapture agent = some id := by
  rw [retireObserved_eq] at h
  split at h
  . next cached heq =>
    split at h
    . exact .inl h
    . rcases List.mem_cons.mp (List.mem_of_mem_take h) with rfl | hmem
      . exact .inr heq
      . exact .inl hmem
  . exact .inl h

theorem cachedCapture_retired (h : s.cachedCapture agent = some id)
    : id ∈ s.retireObserved agent conn := by
  rw [retireObserved_eq, h]
  simp only
  split
  . next hmem => exact List.contains_iff_mem.mp hmem
  . exact List.mem_cons_self

-- What is pushed out of the list was not the first of it.
theorem mem_retireObserved
    (h : id ∈ s.retiredIds agent conn ∨ s.cachedCapture agent = some id)
    (hnew : ∀ cached, s.cachedCapture agent = some cached → cached ∉ s.retiredIds agent conn
      → id ∉ s.retiredIds agent conn)
    : id ∈ s.retireObserved agent conn := by
  rcases h with hmem | hcached
  . rw [retireObserved_eq]
    split
    . next cached heq =>
      split
      . exact hmem
      . next hnot =>
        rw [List.contains_iff_mem] at hnot
        exact absurd hmem (hnew cached heq hnot)
    . exact hmem
  . exact cachedCapture_retired hcached

end Retire

end AppState

/--
A capture stays on record with the captures it was told to ignore, or it is no longer on record. Its
generation may be taken from it.
-/
def Kept (old new : Option ActiveCapture) : Prop :=
  ∀ active, new = some active
    → ∃ before, old = some before
      ∧ active.connId = before.connId
      ∧ active.retiredCaptureIds = before.retiredCaptureIds
      ∧ (active.generation = before.generation ∨ active.generation = Uuid.nil)

namespace Kept

variable {old mid new : Option ActiveCapture}

theorem refl (old : Option ActiveCapture) : Kept old old :=
  fun active h => ⟨active, h, rfl, rfl, .inl rfl⟩

theorem none (old : Option ActiveCapture) : Kept old none := by
  intro active h
  cases h

theorem trans (h : Kept old mid) (h' : Kept mid new) : Kept old new := by
  intro active hactive
  rcases h' active hactive with ⟨between, hbetween, hconn', hids', hgeneration'⟩
  rcases h between hbetween with ⟨before, hbefore, hconn, hids, hgeneration⟩
  refine ⟨before, hbefore, hconn'.trans hconn, hids'.trans hids, ?_⟩
  rcases hgeneration' with heq | hnil
  . rw [heq]
    exact hgeneration
  . exact .inr hnil

end Kept

theorem kept_commit (s : AppState) (agent other : Uuid) (frozen : FrozenCapture)
    : Kept (s.activeCapture agent) ((s.commitControlCapture other frozen).activeCapture agent) := by
  rcases s.commitControlCapture_cases other frozen with ⟨heq, _⟩ | ⟨active, hactive, _, _, heq⟩
  . rw [heq]
    exact Kept.refl _
  . rw [heq]
    by_cases hagent : agent = other
    . subst hagent
      intro new hnew
      simp only [Function.update_self, Option.some.injEq] at hnew
      subst hnew
      exact ⟨active, hactive, rfl, rfl, .inl rfl⟩
    . simp only [Function.update_of_ne hagent]
      exact Kept.refl _

theorem kept_nilGeneration (s : AppState) (agent other : Uuid)
    : Kept (s.activeCapture agent) ((s.nilGeneration other).activeCapture agent) := by
  by_cases hagent : agent = other
  . subst hagent
    intro new hnew
    simp only [AppState.nilGeneration, AppState.setActive, Function.update_self,
      Option.map_eq_some_iff] at hnew
    rcases hnew with ⟨active, hactive, rfl⟩
    exact ⟨active, hactive, rfl, rfl, .inr rfl⟩
  . simp only [AppState.nilGeneration, AppState.setActive, Function.update_of_ne hagent]
    exact Kept.refl _

theorem kept_setNone (s : AppState) (agent other : Uuid)
    : Kept (s.activeCapture agent) ((s.setActive other none).activeCapture agent) := by
  by_cases hagent : agent = other
  . subst hagent
    simp only [AppState.setActive, Function.update_self]
    exact Kept.none _
  . simp only [AppState.setActive, Function.update_of_ne hagent]
    exact Kept.refl _

-- Only a start puts another capture on record, with a generation that is new.
theorem Effect.record {P : Uuid → Queued → Prop} {s t : AppState} (hs : Coherent s)
    (h : Effect P s t) (agent : Uuid)
    : Kept (s.activeCapture agent) (t.activeCapture agent)
      ∨ ∃ active item, t.activeCapture agent = some active
        ∧ active.generation ∈ t.minted
        ∧ P active.connId item
        ∧ item.control.command.kind = "start_capture" := by
  cases h with
  | grant hlease hopen hheld hfresh hfrozen => exact .inl (kept_commit s agent _ _)
  | @start other active command hopen hauth hnil hfresh hfrozen hitem =>
    by_cases hagent : agent = other
    . subst hagent
      rcases command_startItem hauth with ⟨revision, hcommand⟩
      refine .inr ⟨active, _, Function.update_self .., List.mem_cons_self, hitem, ?_⟩
      rw [hcommand]
      rfl
    . left
      simp only [AppState.startActive, AppState.setActive, Function.update_of_ne hagent]
      exact Kept.refl _
  | stop hopen hauth hitem => exact .inl (kept_setNone s agent _)
  | dropActive hclosing => exact .inl (kept_setNone s agent _)
  | publish hconn hfollows =>
    left
    unfold AppState.publish
    dsimp only
    split
    . exact kept_nilGeneration s agent _
    . exact Kept.refl _
  | register historyKnown hlease hfresh =>
    left
    rw [(hs.registerConnection_spec hlease hfresh historyKnown).activeCapture]
    split
    . exact Kept.none _
    . exact Kept.refl _
  | unregister reason hconn hlease =>
    left
    rw [(hs.unregister_spec hconn reason).activeCapture]
    split
    . exact Kept.none _
    . exact Kept.refl _
  | _ => exact .inl (Kept.refl _)

-- A generation that was given out is not given out again.
def GenerationsMinted (s : AppState) : Prop :=
  ∀ agent active, s.activeCapture agent = some active → active.generation ≠ Uuid.nil
    → active.generation ∈ s.minted

theorem GenerationsMinted.preserves : Preserves Sound Always GenerationsMinted where
  same := by
    intro s t _ h hsame agent active hactive hnil
    rw [hsame.activeCapture] at hactive
    exact hsame.minted (h agent active hactive hnil)
  effect := by
    intro P s t hs h heffect agent active hactive hnil
    rcases heffect.record hs.1 agent with hkept | ⟨started, _, hstarted, hminted, _⟩
    . rcases hkept active hactive with ⟨before, hbefore, _, _, hsame | hnone⟩
      . rw [hsame] at hnil ⊢
        exact heffect.minted hs.1 (h agent before hbefore hnil)
      . exact absurd hnone hnil
    . rw [hactive, Option.some.injEq] at hstarted
      rw [hstarted]
      exact hminted
  drop := by
    intro s conn item _ h _ _ _
    exact h
  write := by
    intro s conn item _ h _ _
    exact h

theorem Reachable.generationsMinted {s : AppState} (h : Reachable s) : GenerationsMinted s := by
  apply GenerationsMinted.preserves.holds Sound.init _ h.always
  intro agent active hactive
  cases hactive

theorem Acts.kept {P : Uuid → Queued → Prop} {s t : AppState} (hs : Coherent s) (h : Acts P s t)
    (hP : ∀ conn item, P conn item → item.control.command.kind ≠ "start_capture") (agent : Uuid)
    : Kept (s.activeCapture agent) (t.activeCapture agent) := by
  induction h with
  | refl => exact Kept.refl _
  | @tail u v hacts hmicro ih =>
    apply ih.trans
    cases hmicro with
    | same hsame =>
      rw [hsame.activeCapture]
      exact Kept.refl _
    | effect heffect =>
      rcases heffect.record (hs.acts hacts) agent with hkept | ⟨_, item, _, _, hitem, hkind⟩
      . exact hkept
      . exact absurd hkind (hP _ item hitem)

theorem Placed.kind_ne {s : AppState} {op : Op} (hop : op.isArbitration = false) {conn : Uuid}
    {item : Queued} (h : Placed s op conn item) : item.control.command.kind ≠ "start_capture" := by
  have hordinary : ∀ {command : Json}, command.isCapture = false
      → command.kind ≠ "start_capture" := by
    intro command hcapture hkind
    simp [Json.isCapture, hkind] at hcapture
  cases h with
  | release hlease hheld hmem => exact hordinary (isCapture_release hmem)
  | input _ _ _ _ _ hkind => exact hordinary (isCapture_of_remoteInput hkind)
  | clipboard _ _ _ _ _ hordinary' => exact hordinary hordinary'.2
  | capture hkind hcase =>
    exfalso
    rcases hcase with heq | ⟨_, _, _, _, _, heq⟩ | ⟨_, _, heq⟩ <;> rw [heq] at hop <;> cases hop
  | plain hplain => exact hordinary hplain.ordinary.2

theorem exec_kept {s : AppState} {op : Op} (hs : Sound s) (hfresh : s.Fresh op)
    (hop : op.isArbitration = false) (agent : Uuid)
    : Kept (s.activeCapture agent) ((s.exec op).activeCapture agent) := by
  have hP : ∀ conn item, Placed s op conn item
      → item.control.command.kind ≠ "start_capture" := fun _ _ => Placed.kind_ne hop
  by_cases hdeliver : ∀ conn now, op ≠ .deliver conn now
  . exact (AppState.acts_exec hs.1 hfresh hdeliver).kept hs.1 hP agent
  . simp only [not_forall, not_not] at hdeliver
    rcases hdeliver with ⟨conn, now, rfl⟩
    have hdelivery := AppState.delivery hs.1 (releasable_placed s (.deliver conn now)) conn now
    change Kept _ ((s.deliver conn now).activeCapture agent)
    generalize s.deliver conn now = t at hdelivery
    cases hdelivery with
    | idle => exact Kept.refl _
    | drop hitem hdenied hacts => exact hacts.kept (hs.1.take conn) hP agent
    | write hitem hdeliverable => exact Kept.refl _

namespace AppState

/-!
The entry points that leave the captures alone.
-/

-- The tables that tell what an agent may be shown, apart from the record of its capture.
def captureTables (s : AppState)
    : (Uuid → Option AgentConn) × (Uuid → Option (Uuid × RetiredCaptures))
      × AList (fun _ : Uuid => Frame) :=
  (s.connections, s.retiredCaptures, s.frames)

end AppState

-- The entry points by which connections come and go.
def Op.isRegistry : Op → Bool
  | .register _ _ _ => true
  | .cleanup _ _ => true
  | .invalidate _ _ => true
  | _ => false

def Op.isFrame : Op → Bool
  | .frame _ _ _ _ => true
  | _ => false

namespace AppState

theorem exec_captureTables (s : AppState) {op : Op} (harbitration : op.isArbitration = false)
    (hregistry : op.isRegistry = false) (hframe : op.isFrame = false)
    : (s.exec op).captureTables = s.captureTables := by
  have hsettle : ∀ (s : AppState) change, (s.settle change).2.captureTables = s.captureTables := by
    intro s change
    rcases s.settle_frame change with ⟨_, _, _, _, heq⟩
    rw [heq]
    rfl
  have hvalid : ∀ (s : AppState) p now,
      (s.clipboardValid p now).2.captureTables = s.captureTables := by
    intro s p now
    rcases s.clipboardValid_frame p now with ⟨_, _, _, _, _, heq⟩
    rw [heq]
    rfl
  have hdrop : ∀ (s : AppState) id, (s.dropWaiter id).captureTables = s.captureTables := by
    intro s id
    rcases s.dropWaiter_frame id with ⟨_, _, heq⟩
    rw [heq]
    rfl
  have hsend : ∀ agent cmd,
      ((s.authorizeSend agent cmd).toOption.getD s).captureTables = s.captureTables := by
    intro agent cmd
    rcases s.authorizeSend_frame agent cmd with ⟨_, heq⟩
    rw [heq]
    rfl
  cases op with
  | register agent historyKnown fresh => cases hregistry
  | cleanup agent conn => cases hregistry
  | invalidate agent reason => cases hregistry
  | frame agent conn geometry now => cases hframe
  | syncCapture agent fresh => cases harbitration
  | beginSession agent session user prefs requestedMonitor now fresh => cases harbitration
  | endSession agent session user fresh => cases harbitration
  | deliver conn now =>
    rcases s.deliver_frame conn now with ⟨_, _, _, _, _, heq⟩
    rw [exec, heq]
    rfl
  | moduleReport agent conn value =>
    rcases s.acceptModuleReport_frame agent conn value with ⟨_, _, _, _, _, _, _, _, heq⟩
    rw [exec, heq]
    rfl
  | disableAck agent conn value acknowledged =>
    rcases s.acceptModuleDisableAck_frame agent conn value acknowledged with
      ⟨_, _, _, _, _, _, _, _, _, heq⟩
    rw [exec, heq]
    rfl
  | requestDisable agent user m expectedRevision commandId now readBack =>
    rcases s.requestDisable_frame agent user m expectedRevision commandId now readBack with
      ⟨_, _, _, _, _, _, _, heq⟩
    rw [exec, heq]
    rfl
  | replayDisable agent conn commandId now marked =>
    rcases s.replayModuleDisable_frame agent conn commandId now marked with ⟨_, _, _, _, heq⟩
    rw [exec, heq]
    rfl
  | leaseMessage viewer user value now fresh =>
    rcases s.controlLeaseMessage_frame viewer user value now fresh with
      ⟨_, _, _, _, _, _, _, _, _, heq⟩
    rw [exec, heq]
    rfl
  | viewerCommand agent viewer user token cmd now =>
    simp only [exec, viewerCommand]
    split
    . rfl
    . split
      . rcases s.sendViewerInput_frame agent viewer user token cmd now with ⟨_, _, _, _, _, heq⟩
        rw [heq]
        rfl
      . exact hsend agent cmd
  | viewerGone viewer => exact hsettle s _
  | expire now => exact hsettle s _
  | sendCommand agent cmd => exact hsend agent cmd
  | finishSend index =>
    simp only [exec, finishSend]
    split
    . rfl
    . generalize hinflight : AppState.mk _ _ _ _ _ _ _ _ _ _ _ _ _ _ _ _ _ _ _ = u
      rcases u.enqueueAuthorizedCommand_frame _ _ _ .command with ⟨_, _, heq⟩
      rw [heq, ← hinflight]
      rfl
  | clipboardRequest agent user request now fresh =>
    simp only [exec, clipboardExchange]
    split
    . rfl
    . split
      . rfl
      . split
        . rfl
        . split
          . rfl
          . next authorized _ =>
            generalize hminted : AppState.mk _ _ _ _ _ _ _ _ _ _ _ _ _ _ _ _ _ _ _ = u
            rcases u.enqueueClipboard_frame _ authorized now fresh with ⟨_, _, _, _, _, _, heq⟩
            rw [heq, ← hminted]
            rfl
  | clipboardTick id now =>
    simp only [exec, clipboardTick]
    split
    . rfl
    . next p _ =>
      split
      . rw [hdrop]
        exact hvalid s p now
      . exact hvalid s p now
  | clipboardReceive id now =>
    simp only [exec, clipboardReceive]
    split
    . rfl
    . split
      . rfl
      . exact hvalid _ _ _
  | clipboardDrop id => exact hdrop s id
  | clipboardResult agent conn value now =>
    simp only [exec, completeClipboard]
    split
    . rfl
    . split
      . rfl
      . split
        . rfl
        . next p _ _ => exact hvalid s p now
  | provideRoom room => rfl
  | reorderSessions session => rfl
  | reorderLeases agent => rfl

/-!
The arbitration.
-/

-- What arbitration reads and writes of the captures.
def captureView (s : AppState) :=
  (s.captureTables, s.activeCapture)

end AppState

inductive Synced (s t : AppState) (agent fresh : Uuid) : Prop where
  | kept (htables : t.captureTables = s.captureTables)
      (hactive : ∀ other, Kept (s.activeCapture other) (t.activeCapture other))
  | refused {conn : Uuid} (hconn : s.connId? agent = some conn)
      (hconnections : t.connections = s.connections)
      (hretired : t.retiredCaptures
        = Function.update s.retiredCaptures agent (some (conn, s.retireObserved agent conn)))
      (hframes : t.frames = s.frames)
      (hactive : t.activeCapture = s.activeCapture)
  | restarted {conn : Uuid} {active : ActiveCapture} (hconn : s.connId? agent = some conn)
      (hconnections : t.connections = s.connections)
      (hretired : t.retiredCaptures
        = Function.update s.retiredCaptures agent (some (conn, s.retireObserved agent conn)))
      (hframes : t.frames = s.frames.erase agent)
      (hactive : t.activeCapture = Function.update s.activeCapture agent (some active))
      (hids : active.retiredCaptureIds = s.retireObserved agent conn)
      (hgeneration : active.generation = fresh)

theorem Synced.congr {s s' t t' : AppState} {agent fresh : Uuid} (h : Synced s t agent fresh)
    (hs : s'.captureView = s.captureView) (ht : t'.captureView = t.captureView)
    : Synced s' t' agent fresh := by
  simp only [AppState.captureView, AppState.captureTables, Prod.mk.injEq] at hs ht
  have hobserved : ∀ conn, s'.retireObserved agent conn = s.retireObserved agent conn := by
    intro conn
    unfold AppState.retireObserved
    rw [hs.1.2.1, hs.1.2.2]
  have hconnId : s'.connId? agent = s.connId? agent := by
    unfold AppState.connId?
    rw [hs.1.1]
  cases h with
  | kept htables hactive =>
    simp only [AppState.captureTables, Prod.mk.injEq] at htables
    apply Synced.kept
    . simp only [AppState.captureTables, hs.1.1, hs.1.2.1, hs.1.2.2, ht.1.1, ht.1.2.1, ht.1.2.2,
        htables.1, htables.2.1, htables.2.2]
    . rw [hs.2, ht.2]
      exact hactive
  | @refused conn hconn hconnections hretired hframes hactive =>
    apply Synced.refused (hconnId.trans hconn)
    . rw [hs.1.1, ht.1.1, hconnections]
    . rw [hs.1.2.1, ht.1.2.1, hobserved, hretired]
    . rw [hs.1.2.2, ht.1.2.2, hframes]
    . rw [hs.2, ht.2, hactive]
  | @restarted conn active hconn hconnections hretired hframes hactive hids hgeneration =>
    refine Synced.restarted (hconnId.trans hconn) ?_ ?_ ?_ ?_ ?_ hgeneration
    . rw [hs.1.1, ht.1.1, hconnections]
    . rw [hs.1.2.1, ht.1.2.1, hobserved, hretired]
    . rw [hs.1.2.2, ht.1.2.2, hframes]
    . rw [hs.2, ht.2, hactive]
    . rw [hobserved, hids]

namespace AppState

theorem restartCapture_synced (s : AppState) {agent conn : Uuid} (hconn : s.connId? agent = some conn)
    (prefs : MjpegViewerPrefs) (wireMonitor : Option Nat) (fresh : Uuid)
    : Synced s (s.restartCapture agent conn prefs wireMonitor fresh).2 agent fresh := by
  unfold restartCapture
  simp only
  generalize hstart : AppState.mk _ _ _ _ _ _ _ _ _ _ _ _ _ _ _ _ _ _ _ = s'
  rcases s'.enqueueCapture_frame agent conn
    (startCapture wireMonitor prefs.jpegQuality prefs.intervalMs) (some fresh) with ⟨_, _, hframe⟩
  subst hstart
  split
  . next heq =>
    rw [heq] at hframe
    simp only at hframe
    rw [hframe]
    exact .refused hconn rfl rfl rfl rfl
  . next heq =>
    rw [heq] at hframe
    simp only at hframe
    rw [hframe]
    exact .restarted hconn rfl rfl rfl rfl rfl rfl

theorem syncCapture_synced (s : AppState) (agent : Uuid) (requested : Option (Option Nat))
    (fresh : Uuid) : Synced s (s.syncCapture agent requested fresh).2 agent fresh := by
  have hkept : Synced s s agent fresh := .kept rfl (fun _ => Kept.refl _)
  unfold syncCapture
  simp only
  split
  . split
    . next old _ =>
      rcases s.enqueueCapture_frame agent old.connId stopCapture none with ⟨_, _, hframe⟩
      split
      . next heq =>
        rw [heq] at hframe
        simp only at hframe
        rw [hframe]
        exact .kept rfl (fun _ => Kept.refl _)
      . next heq =>
        rw [heq] at hframe
        simp only at hframe
        rw [hframe]
        exact .kept rfl (fun other => kept_setNone s other agent)
    . exact .kept rfl (fun other => kept_setNone s other agent)
  . exact hkept
  . next conn _ hopen =>
    have hconn := (connId?_of_openConn? hopen).1
    split
    . split
      . exact hkept
      . exact s.restartCapture_synced hconn _ _ fresh
    . split
      . exact hkept
      . exact s.restartCapture_synced hconn _ _ fresh

theorem admitMjpegSession_synced (s : AppState) (agent conn session user : Uuid)
    (prefs : MjpegViewerPrefs) (requestedMonitor : Option Nat) (fresh : Uuid)
    : Synced s (s.admitMjpegSession agent conn session user prefs requestedMonitor fresh).2 agent
        fresh := by
  unfold admitMjpegSession
  simp only
  split
  . exact .kept rfl (fun _ => Kept.refl _)
  . generalize hopen : setViewers _ _ _ = opened
    have hsync := opened.syncCapture_synced agent (some prefs.monitor) fresh
    have hview : s.captureView = opened.captureView := by
      rw [← hopen]
      rfl
    split
    . next heq =>
      rw [heq] at hsync
      exact hsync.congr hview rfl
    . next heq =>
      rw [heq] at hsync
      exact hsync.congr hview rfl

theorem beginMjpegSession_synced (s : AppState) (agent session user : Uuid) (prefs : MjpegViewerPrefs)
    (requestedMonitor : Option Nat) (now : Nat) (fresh : Uuid)
    : Synced s (s.beginMjpegSession agent session user prefs requestedMonitor now fresh).2 agent
        fresh := by
  have hview : s.captureView = (s.expireControl now).captureView := by
    rcases s.settle_frame (s.sessions.expire now) with ⟨_, _, _, _, heq⟩
    rw [expireControl, heq]
    rfl
  have hkept : Synced s (s.expireControl now) agent fresh :=
    Synced.congr (.kept rfl (fun _ => Kept.refl _)) hview rfl
  unfold beginMjpegSession
  simp only
  split
  . exact hkept
  . split
    . exact hkept
    . split
      . exact hkept
      . split
        . exact hkept
        . exact (admitMjpegSession_synced _ _ _ _ _ _ _ _).congr hview rfl

theorem endMjpegSession_synced (s : AppState) (agent session : Uuid) (user : Option Uuid)
    (fresh : Uuid) : Synced s (s.endMjpegSession agent session user fresh).2 agent fresh := by
  unfold endMjpegSession
  split
  . exact .kept rfl (fun _ => Kept.refl _)
  . next mapped _ =>
    simp only
    apply (syncCapture_synced _ agent none fresh).congr _ rfl
    split
    . generalize hended : AppState.mk _ _ _ _ _ _ _ _ _ _ _ _ _ _ _ _ _ _ _ = t
      rcases t.revokeAgentControl_frame agent mapped.connId with ⟨_, _, _, _, _, heq⟩
      rw [heq, ← hended]
      rfl
    . rfl

end AppState

/-!
Connections.
-/

theorem clearCaptureConnection_tables (s : AppState) (agent conn : Uuid)
    : (s.clearCaptureConnection agent conn).retiredCaptures
          = (if (s.retiredCaptures agent).any (fun entry => entry.1 = conn) then
              Function.update s.retiredCaptures agent none
            else
              s.retiredCaptures)
        ∧ (s.clearCaptureConnection agent conn).frames
          = if (s.activeCapture agent).any (fun active => active.connId = conn) then
              s.frames.erase agent
            else
              s.frames := by
  by_cases hretired : (s.retiredCaptures agent).any (fun entry => entry.1 = conn) = true
  all_goals
    by_cases hactive : (s.activeCapture agent).any (fun active => active.connId = conn) = true
    all_goals
      constructor
      all_goals
        simp only [AppState.clearCaptureConnection, hretired, hactive, AppState.setViewers,
          ↓reduceIte, Bool.false_eq_true] <;> rfl

-- Nothing is remembered or cached that was not, and only for `agent` something may be forgotten.
structure Forgets (s t : AppState) (agent : Uuid) : Prop where
  cached : ∀ other, t.cachedCapture other = s.cachedCapture other ∨ t.cachedCapture other = none
  retired : ∀ other entry, t.retiredCaptures other = some entry
    → s.retiredCaptures other = some entry
  others : ∀ other, other ≠ agent
    → t.connId? other = s.connId? other ∧ t.retiredCaptures other = s.retiredCaptures other

namespace Forgets

variable {s t u : AppState} {agent : Uuid}

theorem of_tables (h : t.captureTables = s.captureTables) : Forgets s t agent := by
  simp only [AppState.captureTables, Prod.mk.injEq] at h
  constructor
  . intro other
    left
    simp only [AppState.cachedCapture, h.2.2]
  . rw [h.2.1]
    exact fun _ _ => id
  . intro other _
    simp only [AppState.connId?, h.1, h.2.1, and_self]

theorem trans (h : Forgets s t agent) (h' : Forgets t u agent) : Forgets s u agent where
  cached := by
    intro other
    rcases h'.cached other with heq | hnone
    . rw [heq]
      exact h.cached other
    . exact .inr hnone
  retired := by
    intro other entry hentry
    exact h.retired other entry (h'.retired other entry hentry)
  others := by
    intro other hother
    rcases h.others other hother with ⟨hconn, hretired⟩
    rcases h'.others other hother with ⟨hconn', hretired'⟩
    exact ⟨hconn'.trans hconn, hretired'.trans hretired⟩

theorem cached_erase (s : AppState) (agent other : Uuid) {t : AppState}
    (h : t.frames = s.frames.erase agent)
    : t.cachedCapture other = s.cachedCapture other ∨ t.cachedCapture other = none := by
  unfold AppState.cachedCapture
  rw [h]
  by_cases hother : other = agent
  . subst hother
    exact .inr (by rw [AList.lookup_erase]; rfl)
  . exact .inl (by rw [AList.lookup_erase_ne hother])

theorem revoke (s : AppState) (agent conn : Uuid)
    : Forgets s (s.revokeAgentControl agent conn) agent := by
  rcases s.revokeAgentControl_frame agent conn with ⟨_, _, _, _, _, heq⟩
  rw [heq]
  exact of_tables rfl

theorem clear (s : AppState) (agent conn : Uuid)
    : Forgets s (s.clearCaptureConnection agent conn) agent where
  cached := by
    intro other
    have hframes := (clearCaptureConnection_tables s agent conn).2
    split at hframes
    . exact cached_erase s agent other hframes
    . left
      simp only [AppState.cachedCapture, hframes]
  retired := by
    intro other entry hentry
    rw [(clearCaptureConnection_tables s agent conn).1] at hentry
    split at hentry
    . rw [Function.update_apply] at hentry
      split at hentry
      . cases hentry
      . exact hentry
    . exact hentry
  others := by
    intro other hother
    have hspec := s.clearCaptureConnection_spec agent conn
    refine ⟨by simp only [AppState.connId?, hspec.connections], ?_⟩
    rw [(clearCaptureConnection_tables s agent conn).1]
    split
    . exact Function.update_of_ne hother ..
    . rfl

theorem unregister (s : AppState) (agent : Uuid) : Forgets s (s.unregister agent) agent where
  cached := fun other => cached_erase s agent other rfl
  retired := fun _ _ => id
  others := by
    intro other hother
    simp [AppState.unregister, AppState.connId?, Function.update_of_ne hother]

theorem connect (s : AppState) (agent : Uuid) (connection : AgentConn) {t : AppState}
    (hconnections : t.connections = Function.update s.connections agent (some connection))
    (hretired : t.retiredCaptures = s.retiredCaptures) (hframes : t.frames = s.frames)
    : Forgets s t agent where
  cached := by
    intro other
    left
    simp only [AppState.cachedCapture, hframes]
  retired := by
    rw [hretired]
    exact fun _ _ => id
  others := by
    intro other hother
    simp only [AppState.connId?, hconnections, Function.update_of_ne hother, hretired, and_self]

theorem register (s : AppState) (agent : Uuid) (historyKnown : Bool) (fresh : Uuid)
    : Forgets s (s.registerConnection agent historyKnown fresh) agent := by
  unfold AppState.registerConnection
  cases hold : s.connId? agent with
  | none => exact connect s agent _ rfl rfl rfl
  | some old =>
    have hclear := (revoke s agent old).trans (clear (s.revokeAgentControl agent old) agent old)
    exact hclear.trans (connect _ agent _ rfl rfl rfl)

theorem cleanup (s : AppState) (agent conn : Uuid)
    : Forgets s (s.cleanupConnection agent conn) agent := by
  have hclear := (revoke s agent conn).trans (clear (s.revokeAgentControl agent conn) agent conn)
  unfold AppState.cleanupConnection
  simp only
  split
  . exact hclear.trans (unregister _ agent)
  . exact hclear

theorem invalidate (s : AppState) (agent : Uuid) (reason : String)
    : Forgets s (s.invalidateAgentConnection agent reason) agent := by
  unfold AppState.invalidateAgentConnection
  split
  . next conn _ =>
    have hclear := (revoke s agent conn).trans
      (clear (s.revokeAgentControl agent conn) agent conn)
    exact (hclear.trans (unregister _ agent)).trans (of_tables rfl)
  . exact unregister s agent

end Forgets

theorem registerConnection_connId? (s : AppState) (agent : Uuid) (historyKnown : Bool) (fresh : Uuid)
    : (s.registerConnection agent historyKnown fresh).connId? agent = some fresh := by
  unfold AppState.registerConnection AppState.connId?
  simp only
  split <;> simp [AppState.shutdown, AppState.modifySocket]

theorem cleanupConnection_connId? {s : AppState} {agent conn : Uuid} (h : s.connId? agent = some conn)
    : (s.cleanupConnection agent conn).connId? agent = none := by
  unfold AppState.cleanupConnection
  simp only
  rw [if_pos]
  . simp [AppState.unregister, AppState.connId?]
  . unfold AppState.connId?
    rw [(AppState.clearCaptureConnection_spec _ agent conn).connections]
    exact (s.revokeAgentControl_connId? agent conn agent).trans h

theorem invalidateAgentConnection_connId? (s : AppState) (agent : Uuid) (reason : String)
    : (s.invalidateAgentConnection agent reason).connId? agent = none := by
  unfold AppState.invalidateAgentConnection
  split
  . simp [AppState.unregister, AppState.connId?, AppState.shutdown, AppState.modifySocket]
  . simp [AppState.unregister, AppState.connId?]

-- The retired captures of another connection are forgotten.
theorem retiredIds_clear {s : AppState} {agent conn socket : Uuid} (hne : conn ≠ socket)
    : (s.clearCaptureConnection agent socket).retiredIds agent conn = s.retiredIds agent conn := by
  unfold AppState.retiredIds
  rw [(clearCaptureConnection_tables s agent socket).1]
  split
  . next hany =>
    rw [Option.any_eq_true] at hany
    rcases hany with ⟨entry, hentry, hsocket⟩
    rw [decide_eq_true_eq] at hsocket
    simp [Function.update_self, hentry, Option.filter, hsocket, Ne.symm hne]
  . rfl

/-!
Every step.
-/

inductive CaptureMove (s t : AppState) (agent : Uuid) : Prop where
  | kept (hconn : t.connId? agent = s.connId? agent)
      (hretired : ∀ conn, s.connId? agent = some conn
        → t.retiredIds agent conn = s.retiredIds agent conn)
      (hactive : Kept (s.activeCapture agent) (t.activeCapture agent))
  | refused {conn : Uuid} (hold : s.connId? agent = some conn)
      (hconn : t.connId? agent = s.connId? agent)
      (hretired : t.retiredIds agent conn = s.retireObserved agent conn)
      (hcached : t.cachedCapture agent = s.cachedCapture agent)
      (hactive : t.activeCapture agent = s.activeCapture agent)
  | restarted {conn : Uuid} {active : ActiveCapture} (hold : s.connId? agent = some conn)
      (hconn : t.connId? agent = s.connId? agent)
      (hretired : t.retiredIds agent conn = s.retireObserved agent conn)
      (hcached : t.cachedCapture agent = none)
      (hactive : t.activeCapture agent = some active)
      (hids : active.retiredCaptureIds = s.retireObserved agent conn)
      (hnil : active.generation ≠ Uuid.nil)
      (hfresh : active.generation ∉ s.minted)
  | moved (hconn : ∀ conn, t.connId? agent = some conn → conn ∉ s.minted)
      (hactive : t.activeCapture agent = none)

structure CaptureStep (s t : AppState) (agent : Uuid) : Prop where
  cached : t.cachedCapture agent = s.cachedCapture agent ∨ t.cachedCapture agent = none
  retired : ∀ entry, t.retiredCaptures agent = some entry
    → s.retiredCaptures agent = some entry
      ∨ ∃ conn, s.connId? agent = some conn ∧ entry = (conn, s.retireObserved agent conn)
  move : CaptureMove s t agent

namespace CaptureStep

variable {s t : AppState} {agent : Uuid}

theorem of_tables (h : t.captureTables = s.captureTables)
    (hactive : Kept (s.activeCapture agent) (t.activeCapture agent)) : CaptureStep s t agent := by
  simp only [AppState.captureTables, Prod.mk.injEq] at h
  constructor
  . left
    simp only [AppState.cachedCapture, h.2.2]
  . rw [h.2.1]
    exact fun _ => .inl
  . apply CaptureMove.kept
    . simp only [AppState.connId?, h.1]
    . intro conn _
      simp only [AppState.retiredIds, h.2.1]
    . exact hactive

theorem of_retired {other conn : Uuid} (hconn : s.connId? other = some conn)
    (hretired : t.retiredCaptures
      = Function.update s.retiredCaptures other (some (conn, s.retireObserved other conn)))
    {entry : Uuid × RetiredCaptures} (hentry : t.retiredCaptures agent = some entry)
    : s.retiredCaptures agent = some entry
      ∨ ∃ conn, s.connId? agent = some conn ∧ entry = (conn, s.retireObserved agent conn) := by
  rw [hretired, Function.update_apply] at hentry
  split at hentry
  . next heq =>
    subst heq
    rw [Option.some.injEq] at hentry
    exact .inr ⟨conn, hconn, hentry.symm⟩
  . exact .inl hentry

theorem of_synced {other fresh : Uuid} (h : Synced s t other fresh) (hnil : fresh ≠ Uuid.nil)
    (hfresh : fresh ∉ s.minted) : CaptureStep s t agent := by
  have hids : ∀ conn, t.retiredCaptures
      = Function.update s.retiredCaptures other (some (conn, s.retireObserved other conn))
      → t.retiredIds other conn = s.retireObserved other conn := by
    intro conn hretired
    simp [AppState.retiredIds, hretired, Option.filter]
  have hothers : ∀ conn entry, agent ≠ other
      → t.retiredCaptures = Function.update s.retiredCaptures other entry
      → t.retiredIds agent conn = s.retiredIds agent conn := by
    intro conn entry hother hretired
    simp only [AppState.retiredIds, hretired, Function.update_of_ne hother]
  cases h with
  | kept htables hactive => exact of_tables htables (hactive agent)
  | @refused conn hconn hconnections hretired hframes hactive =>
    have hconnId : t.connId? agent = s.connId? agent := by
      simp only [AppState.connId?, hconnections]
    have hcached : t.cachedCapture agent = s.cachedCapture agent := by
      simp only [AppState.cachedCapture, hframes]
    refine ⟨.inl hcached, fun entry => of_retired hconn hretired, ?_⟩
    by_cases hother : agent = other
    . subst hother
      exact .refused hconn hconnId (hids conn hretired) hcached (by rw [hactive])
    . apply CaptureMove.kept hconnId
      . exact fun conn _ => hothers conn _ hother hretired
      . rw [hactive]
        exact Kept.refl _
  | @restarted conn active hconn hconnections hretired hframes hactive hretiredIds hgeneration =>
    have hconnId : t.connId? agent = s.connId? agent := by
      simp only [AppState.connId?, hconnections]
    refine ⟨Forgets.cached_erase s other agent hframes, fun entry => of_retired hconn hretired, ?_⟩
    by_cases hother : agent = other
    . subst hother
      refine .restarted hconn hconnId (hids conn hretired) ?_ ?_ hretiredIds ?_ ?_
      . simp [AppState.cachedCapture, hframes]
      . rw [hactive, Function.update_self]
      . rw [hgeneration]
        exact hnil
      . rw [hgeneration]
        exact hfresh
    . apply CaptureMove.kept hconnId
      . exact fun conn _ => hothers conn _ hother hretired
      . rw [hactive, Function.update_of_ne hother]
        exact Kept.refl _

theorem of_forgets {other : Uuid} (h : Forgets s t other)
    (hactive : Kept (s.activeCapture agent) (t.activeCapture agent))
    (hmove : agent = other → CaptureMove s t agent) : CaptureStep s t agent := by
  refine ⟨h.cached agent, fun entry hentry => .inl (h.retired agent entry hentry), ?_⟩
  by_cases hother : agent = other
  . exact hmove hother
  . rcases h.others agent hother with ⟨hconn, hretired⟩
    apply CaptureMove.kept hconn
    . intro conn _
      simp only [AppState.retiredIds, hretired]
    . exact hactive

end CaptureStep

theorem Minted.preserves (id : Uuid) : Preserves Sound Always (fun s => id ∈ s.minted) where
  same := by
    intro s t _ h hsame
    exact hsame.minted h
  effect := by
    intro P s t hs h heffect
    exact heffect.minted hs.1 h
  drop := by
    intro s conn item _ h _ _ _
    exact h
  write := by
    intro s conn item _ h _ _
    exact h

theorem exec_minted {s : AppState} {op : Op} (hs : Sound s) (hfresh : s.Fresh op) {id : Uuid}
    (h : id ∈ s.minted) : id ∈ (s.exec op).minted :=
  (Minted.preserves id).holds hs h (Runs.always (Relation.ReflTransGen.single ⟨op, hfresh, rfl⟩))

-- Nothing is on record for a connection that is gone or new.
theorem CaptureMove.of_gone {s t : AppState} {agent : Uuid} (hs : Coherent s) (ht : Coherent t)
    (hconn : ∀ conn, t.connId? agent = some conn → conn ∉ s.minted)
    (hactive : Kept (s.activeCapture agent) (t.activeCapture agent)) : CaptureMove s t agent := by
  refine .moved hconn ?_
  rw [Option.eq_none_iff_forall_not_mem]
  intro active hmem
  rcases hactive active hmem with ⟨before, hbefore, hsame, _⟩
  have hminted := hs.minted agent before.connId (hs.active agent before hbefore)
  rw [← hsame] at hminted
  exact hconn active.connId (ht.active agent active hmem) hminted

theorem exec_captureStep {s : AppState} {op : Op} (hs : Sound s) (hfresh : s.Fresh op)
    (hframe : op.isFrame = false) (agent : Uuid) : CaptureStep s (s.exec op) agent := by
  have ht : Coherent (s.exec op) := (hs.runs (Relation.ReflTransGen.single ⟨op, hfresh, rfl⟩)).1
  by_cases harbitration : op.isArbitration = true
  . cases op with
    | syncCapture other fresh =>
      have hid := hfresh fresh rfl
      exact .of_synced (s.syncCapture_synced other none fresh) hid.1 hid.2
    | beginSession other session user prefs requestedMonitor now fresh =>
      have hid := hfresh fresh rfl
      exact .of_synced (s.beginMjpegSession_synced ..) hid.1 hid.2
    | endSession other session user fresh =>
      have hid := hfresh fresh rfl
      exact .of_synced (s.endMjpegSession_synced ..) hid.1 hid.2
    | _ => cases harbitration
  . rw [Bool.not_eq_true] at harbitration
    have hkept := exec_kept hs hfresh harbitration agent
    by_cases hregistry : op.isRegistry = true
    . cases op with
      | register other historyKnown fresh =>
        refine .of_forgets (.register s other historyKnown fresh) hkept ?_
        intro heq
        subst heq
        refine CaptureMove.of_gone hs.1 ht ?_ hkept
        intro conn hconn
        rw [AppState.exec, registerConnection_connId?, Option.some.injEq] at hconn
        rw [← hconn]
        exact (hfresh fresh rfl).2
      | cleanup other conn =>
        refine .of_forgets (.cleanup s other conn) hkept ?_
        intro heq
        subst heq
        by_cases hconn : s.connId? agent = some conn
        . refine CaptureMove.of_gone hs.1 ht ?_ hkept
          intro socket hsocket
          rw [AppState.exec, cleanupConnection_connId? hconn] at hsocket
          cases hsocket
        . have heq : s.exec (.cleanup agent conn) = s.clearCaptureConnection agent conn :=
            cleanupConnection_stale hs.1 hconn
          rw [heq] at hkept ⊢
          apply CaptureMove.kept
          . exact (AppState.clearCaptureConnection_stale hs.1 hconn).connId? agent
          . intro socket hsocket
            apply retiredIds_clear
            intro hsame
            rw [hsame] at hsocket
            exact hconn hsocket
          . exact hkept
      | invalidate other reason =>
        refine .of_forgets (.invalidate s other reason) hkept ?_
        intro heq
        subst heq
        refine CaptureMove.of_gone hs.1 ht ?_ hkept
        intro socket hsocket
        rw [AppState.exec, invalidateAgentConnection_connId?] at hsocket
        cases hsocket
      | _ => cases hregistry
    . rw [Bool.not_eq_true] at hregistry
      exact .of_tables (s.exec_captureTables harbitration hregistry hframe) hkept

/-!
The tags of the commands in a queue.
-/

-- A start carries the generation of a capture, not the one that stands for none.
def Tagged (_ : Uuid) (item : Queued) : Prop :=
  item.control.command.kind = "start_capture"
    → item.control.command.get? "__capture_generation" ≠ some (.string Uuid.nil.text)

theorem Effect.tagged {P : Uuid → Queued → Prop} {s t : AppState} (h : Effect P s t)
    : Effect Tagged s t := by
  have hother : ∀ {conn : Uuid} {item : Queued}, item.control.command.isCapture = false
      → Tagged conn item := by
    intro conn item hcapture hkind
    simp [Json.isCapture, hkind] at hcapture
  cases h with
  | endLease reason count hlease hP =>
    apply Effect.endLease reason count hlease
    intro item hitem
    simp only [AppState.releaseItems, List.mem_map] at hitem
    rcases hitem with ⟨command, hcommand, rfl⟩
    exact hother (isCapture_release hcommand)
  | input hlease hopen hkind hauth htrack hP =>
    apply Effect.input hlease hopen hkind hauth htrack
    apply hother
    apply isCapture_of_remoteInput
    rw [AgentControl.command, kind_authorized hauth]
    exact hkind
  | lost held hlease => exact .lost held hlease
  | grant hlease hopen hheld hfresh hfrozen => exact .grant hlease hopen hheld hfresh hfrozen
  | renew expiresAt hlease => exact .renew expiresAt hlease
  | push hopen hordinary hstamp hP => exact .push hopen hordinary hstamp (hother hordinary.2)
  | close hconn => exact .close hconn
  | @start _ active command hopen hauth hnil hfresh hfrozen hP =>
    apply Effect.start hopen hauth hnil hfresh hfrozen
    intro _ htag
    rcases command_startItem hauth with ⟨revision, hcommand⟩
    rw [hcommand] at htag
    have : some (Json.string active.generation.text) = some (.string Uuid.nil.text) := htag
    rw [Option.some.injEq, Json.string.injEq] at this
    exact hnil (Uuid.text_injective this)
  | stop hopen hauth hP =>
    apply Effect.stop hopen hauth
    intro hkind
    rw [command_stopItem hauth] at hkind
    exact absurd hkind (by decide)
  | dropActive hclosing => exact .dropActive hclosing
  | openSession hsession hconn => exact .openSession hsession hconn
  | dropSession hfree => exact .dropSession hfree
  | publish hconn hfollows => exact .publish hconn hfollows
  | register historyKnown hlease hfresh => exact .register historyKnown hlease hfresh
  | unregister reason hconn hlease => exact .unregister reason hconn hlease
  | launch hconn hplain hstamp => exact .launch hconn hplain hstamp

def AllTagged (s : AppState) : Prop :=
  ∀ conn, ∀ item ∈ (s.sockets conn).sent, Tagged conn item

theorem AllTagged.preserves : Preserves Sound Always AllTagged where
  same := by
    intro s t _ h hsame
    unfold AllTagged
    rw [hsame.sockets]
    exact h
  effect := by
    intro P s t hs h heffect conn item hitem
    cases heffect.tagged.socket hs.1 conn with
    | new _ _ _ heq =>
      rw [heq] at hitem
      cases hitem
    | grow items shutdown heq _ htagged _ =>
      rw [heq, List.mem_append] at hitem
      rcases hitem with hitem | hitem
      . exact h conn item hitem
      . exact htagged item hitem
  drop := by
    intro s conn item _ h _ _ _ other entry hentry
    rw [take_sent] at hentry
    exact h other entry hentry
  write := by
    intro s conn item _ h _ _ other entry hentry
    rw [write_sent] at hentry
    exact h other entry hentry

theorem Reachable.allTagged {s : AppState} (h : Reachable s) : AllTagged s := by
  apply AllTagged.preserves.holds Sound.init _ h.always
  intro conn item hitem
  cases hitem

-- A start that is written belongs to the capture on record.
theorem exec_started {s : AppState} (h : Reachable s) {op : Op} (hfresh : s.Fresh op) (conn : Uuid)
    : ((s.exec op).sockets conn).written = (s.sockets conn).written
      ∨ ∃ entry, ((s.exec op).sockets conn).written = (s.sockets conn).written ++ [entry]
        ∧ (s.exec op).captureView = s.captureView
        ∧ (entry.2.kind = "start_capture" → ∀ agent, s.connId? agent = some conn
          → ∃ active, s.activeCapture agent = some active ∧ active.generation ≠ Uuid.nil
            ∧ entry.2.get? "__capture_generation" = some (.string active.generation.text)) := by
  have hs := h.sound
  rcases exec_written hs hfresh with hsame | ⟨socket, item, hitem, hdeliverable, heq⟩
  . exact .inl (hsame conn)
  . rw [heq, s.sockets_write]
    split
    . next hconn =>
      subst hconn
      refine .inr ⟨_, rfl, rfl, ?_⟩
      intro hkind agent hagent
      have htagged := h.allTagged conn item (List.mem_of_getElem? hitem) hkind
      unfold AppState.deliverable at hdeliverable
      rw [hs.1.agent agent conn hagent] at hdeliverable
      cases hcontrol : item.control with
      | inputCleanup socket command =>
        rw [hcontrol] at hdeliverable hkind
        simp only [AppState.controlCleanupDeliverable, decide_eq_true_eq] at hdeliverable
        rw [AgentControl.command] at hkind
        simp [isCleanupCommand, hkind] at hdeliverable
      | text cmd =>
        rw [hcontrol] at hdeliverable hkind htagged
        rw [AgentControl.command] at hkind htagged
        simp only [Bool.and_eq_true, AppState.captureDeliverable, hkind, ↓reduceIte,
          decide_eq_true_eq] at hdeliverable
        rcases hdeliverable.1.2 with ⟨hsome, htag⟩
        rw [htag, Option.isSome_map] at hsome
        rw [Option.isSome_iff_exists] at hsome
        rcases hsome with ⟨active, hactive⟩
        rw [hactive, Option.map_some] at htag
        rw [Option.filter_eq_some_iff] at hactive
        refine ⟨active, hactive.1, ?_, htag⟩
        intro hnil
        rw [htag, hnil] at htagged
        exact htagged rfl
    . exact .inl rfl

end Vantyr
