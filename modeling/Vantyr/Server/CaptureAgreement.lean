import Vantyr.Agent.Disable
import Vantyr.Server.Releases

/-!
This module compares the capture that the server has on record for an agent with the capture commands
that its socket was given: the last one to go out on the socket is the one that was recorded.
-/

namespace Vantyr

def stopCommand : Json :=
  stopCapture.setField "__capture_generation" (.string "stopped")

def ActiveCapture.startCommand (active : ActiveCapture) (revision : Nat) : Json :=
  let command := startCapture active.wireMonitor active.prefs.jpegQuality active.prefs.intervalMs
  (command.setField "__module_generation" (generationStamp .liveScreen revision)).setField
    "__capture_generation" (.string active.generation.text)

-- The last capture command among some.
def lastCapture (commands : List Json) : Option Json :=
  (commands.filter Json.isCapture).getLast?

/--
What the last capture command is to be: the start of the capture that is on record, or, if there is
none, a stop. Nothing is expected once the record was invalidated.
-/
def Agrees (active : Option ActiveCapture) (last : Option Json) : Prop :=
  match active with
  | none => last = none ∨ last = some stopCommand
  | some active =>
    active.generation ≠ Uuid.nil → ∃ revision, last = some (active.startCommand revision)

theorem lastCapture_append_other {xs ys : List Json} (h : ∀ command ∈ ys, command.isCapture = false)
    : lastCapture (xs ++ ys) = lastCapture xs := by
  have hnone : ys.filter Json.isCapture = [] := by
    rw [List.filter_eq_nil_iff]
    intro command hcommand
    rw [h command hcommand]
    decide
  rw [lastCapture, List.filter_append, hnone, List.append_nil]
  rfl

theorem lastCapture_concat {xs : List Json} {command : Json} (h : command.isCapture = true)
    : lastCapture (xs ++ [command]) = some command := by
  rw [lastCapture, List.filter_append, List.filter_singleton, h]
  exact List.getLast?_concat

-- Only the last capture command matters.
theorem lastCapture_erased {xs ys : List Json} {command : Json}
    : lastCapture (xs ++ command :: ys) = lastCapture (xs ++ ys)
      ∨ command.isCapture = true ∧ lastCapture (xs ++ command :: ys) = some command := by
  unfold lastCapture
  rw [List.filter_append, List.filter_append, List.filter_cons]
  split
  . next hcapture =>
    by_cases hys : ys.filter Json.isCapture = []
    . apply Or.inr
      rw [hys]
      exact ⟨hcapture, List.getLast?_concat⟩
    . apply Or.inl
      rw [List.getLast?_append_of_ne_nil _ (List.cons_ne_nil _ _),
        List.getLast?_append_of_ne_nil _ hys, List.getLast?_cons_of_ne_nil hys]
  . exact .inl rfl

/-!
What an action does to the capture of an agent, on record and on its socket.
-/

inductive CaptureChange (s t : AppState) (agent conn : Uuid) : Prop where
  | kept (items : List Queued)
      (hsent : (t.sockets conn).sent = (s.sockets conn).sent ++ items)
      (hitems : ∀ item ∈ items, item.control.command.isCapture = false)
      (hactive : ∀ last, Agrees (s.activeCapture agent) last → Agrees (t.activeCapture agent) last)
  | started {active : ActiveCapture} {command : Json}
      (hsent : (t.sockets conn).sent
        = (s.sockets conn).sent ++ [AppState.startItem active command])
      (hauth : s.authorizeAgentCommand agent
        (startCapture active.wireMonitor active.prefs.jpegQuality active.prefs.intervalMs)
          = .ok command)
      (hactive : t.activeCapture agent = some active)
  | stopped {command : Json}
      (hsent : (t.sockets conn).sent = (s.sockets conn).sent ++ [AppState.stopItem command])
      (hauth : s.authorizeAgentCommand agent stopCapture = .ok command)
      (hactive : t.activeCapture agent = none)

theorem command_startItem {s : AppState} {agent : Uuid} {active : ActiveCapture} {command : Json}
    (h : s.authorizeAgentCommand agent
      (startCapture active.wireMonitor active.prefs.jpegQuality active.prefs.intervalMs)
        = .ok command)
    : ∃ revision, (AppState.startItem active command).control.command
        = active.startCommand revision := by
  rcases authorizeAgentCommand_granted h rfl (by decide) with ⟨_, runtime, _, _, _, _, heq⟩
  refine ⟨(runtime.report.get .liveScreen).revision, ?_⟩
  rw [AppState.startItem, AgentControl.command, heq]
  rfl

theorem command_stopItem {s : AppState} {agent : Uuid} {command : Json}
    (h : s.authorizeAgentCommand agent stopCapture = .ok command)
    : (AppState.stopItem command).control.command = stopCommand := by
  rcases (authorizeAgentCommand_ok h).2.2 with ⟨heq, _⟩ | ⟨_, _, _, _, hgate, _⟩
  . rw [heq]
    rfl
  . cases hgate

namespace CaptureChange

variable {s t : AppState} {agent conn : Uuid}

theorem of_eq (hsent : (t.sockets conn).sent = (s.sockets conn).sent)
    (hactive : t.activeCapture agent = s.activeCapture agent) : CaptureChange s t agent conn := by
  apply CaptureChange.kept []
  . rw [hsent, List.append_nil]
  . simp
  . rw [hactive]
    exact fun _ => id

theorem of_push {socket : Uuid} {item : Queued} (hsockets : t.sockets = (s.push socket item).sockets)
    (hactive : t.activeCapture agent = s.activeCapture agent)
    (hitem : item.control.command.isCapture = false) : CaptureChange s t agent conn := by
  apply CaptureChange.kept (if conn = socket then [item] else [])
  . rw [hsockets]
    exact Succession.pushed_sent s socket conn item
  . intro other hother
    split at hother
    . rw [List.mem_singleton] at hother
      rw [hother]
      exact hitem
    . cases hother
  . rw [hactive]
    exact fun _ => id

end CaptureChange

theorem sent_shutdown (s : AppState) (conn other : Uuid) (reason : String)
    : ((s.shutdown conn reason).sockets other).sent = (s.sockets other).sent := by
  simp only [AppState.shutdown, AppState.modifySocket, Function.update_apply]
  split
  . next heq => rw [heq]
  . rfl

theorem isCapture_release {held : HeldInput} {command : Json} (h : command ∈ held.drain)
    : command.isCapture = false := by
  apply isCapture_of_remoteInput
  rcases HeldInput.drain_kind h with heq | heq
  . rw [heq]
    rfl
  . rw [heq]
    rfl

-- A lease that pins the monitor of a capture changes nothing that the agent was told.
theorem agrees_pinned {s : AppState} {agent other : Uuid} {frozen : FrozenCapture} {last : Option Json}
    (h : Agrees (s.activeCapture agent) last)
    : Agrees ((s.commitControlCapture other frozen).activeCapture agent) last := by
  rcases s.commitControlCapture_cases other frozen with ⟨heq, _⟩ | ⟨active, hactive, _, _, heq⟩
  . rw [heq]
    exact h
  . rw [heq]
    by_cases hagent : agent = other
    . subst hagent
      rw [hactive] at h
      simp only [Function.update_self]
      exact h
    . simp only [Function.update_of_ne hagent]
      exact h

theorem agrees_publish {s : AppState} {agent other : Uuid} {runtime : RuntimeModules}
    {last : Option Json} (h : Agrees (s.activeCapture agent) last)
    : Agrees ((s.publish other runtime).activeCapture agent) last := by
  unfold AppState.publish
  dsimp only
  split
  . by_cases hagent : agent = other
    . subst hagent
      simp only [AppState.nilGeneration, AppState.setActive, Function.update_self]
      cases hactive : s.activeCapture agent with
      | none =>
        rw [hactive] at h
        exact h
      | some active => exact fun hne => absurd rfl hne
    . simp only [AppState.nilGeneration, AppState.setActive, Function.update_of_ne hagent]
      exact h
  . exact h

theorem Effect.captureChange {P : Uuid → Queued → Prop} {s t : AppState} {agent conn : Uuid}
    (hs : Sound s) (h : Effect P s t) (hold : s.openConn? agent = some conn)
    (hopen : t.openConn? agent = some conn) : CaptureChange s t agent conn := by
  have hconn := AppState.connId?_of_openConn? hold
  have hagents : ∀ other, s.connId? other = some conn → other = agent := by
    intro other hother
    rw [← hs.1.agent other conn hother, hs.1.agent agent conn hconn.1]
  cases h with
  | @endLease other lease reason count hlease hP =>
    by_cases heq : conn = lease.grant.owner.agentConnectionId
    . apply CaptureChange.kept
        (AppState.releaseItems conn lease.grant.token (lease.held.drain.take count))
      . simp only [AppState.endLease, ← heq, Function.update_self]
      . intro item hitem
        simp only [AppState.releaseItems, List.mem_map] at hitem
        rcases hitem with ⟨command, hcommand, rfl⟩
        exact isCapture_release (List.mem_of_mem_take hcommand)
      . exact fun _ => id
    . apply CaptureChange.of_eq
      . simp only [AppState.endLease, Function.update_of_ne heq]
      . rfl
  | @input other lease cmd authorized held hlease hopen' hkind hauth htrack hP =>
    refine @CaptureChange.of_push s _ agent conn lease.grant.owner.agentConnectionId
      { control := .text authorized, origin := .input lease.grant.token } rfl rfl ?_
    apply isCapture_of_remoteInput
    rw [AgentControl.command, kind_authorized hauth]
    exact hkind
  | lost held hlease => exact .of_eq (sent_shutdown ..) rfl
  | grant hlease hopen' hheld hfresh hfrozen =>
    apply CaptureChange.kept []
    . simp only [AppState.grantLease, AppState.commitControlCapture_sockets, List.append_nil]
    . simp
    . exact fun _ => agrees_pinned
  | renew expiresAt hlease => exact .of_eq rfl rfl
  | push hopen' hordinary hstamp hP => exact .of_push rfl rfl hordinary.2
  | close hconn' => exact .of_eq (sent_shutdown ..) rfl
  | @start other active command hopen' hauth hnil hfresh hfrozen hP =>
    have hregistered := (AppState.connId?_of_openConn? hopen').1
    by_cases hagent : other = agent
    . subst hagent
      rw [hold, Option.some.injEq] at hopen'
      subst hopen'
      apply CaptureChange.started _ hauth
      . exact Function.update_self ..
      . exact (Succession.pushed_sent ..).trans (by rw [if_pos rfl])
    . have hne : conn ≠ active.connId := by
        intro heq
        rw [← heq] at hregistered
        exact hagent (hagents other hregistered)
      apply CaptureChange.of_eq
      . exact congrArg Socket.sent (Function.update_of_ne hne ..)
      . exact Function.update_of_ne (Ne.symm hagent) ..
  | @stop other socket command hopen' hauth hP =>
    have hregistered := (AppState.connId?_of_openConn? hopen').1
    by_cases hagent : other = agent
    . subst hagent
      rw [hold, Option.some.injEq] at hopen'
      subst hopen'
      apply CaptureChange.stopped _ hauth
      . exact Function.update_self ..
      . exact (Succession.pushed_sent ..).trans (by rw [if_pos rfl])
    . have hne : conn ≠ socket := by
        intro heq
        rw [← heq] at hregistered
        exact hagent (hagents other hregistered)
      apply CaptureChange.of_eq
      . exact congrArg Socket.sent (Function.update_of_ne hne ..)
      . exact Function.update_of_ne (Ne.symm hagent) ..
  | @dropActive other hclosed =>
    refine @CaptureChange.of_eq s (s.setActive other none) agent conn rfl ?_
    by_cases hagent : agent = other
    . subst hagent
      cases hactive : s.activeCapture agent with
      | none => exact Function.update_self ..
      | some active =>
        have := hs.1.active agent active hactive
        rw [hconn.1, Option.some.injEq] at this
        rw [this, hclosed active hactive] at hconn
        cases hconn.2
    . exact Function.update_of_ne hagent ..
  | openSession hsession hconn' => exact .of_eq rfl rfl
  | dropSession hfree => exact .of_eq rfl rfl
  | publish hconn' hfollows =>
    apply CaptureChange.kept []
    . exact (List.append_nil _).symm
    . simp
    . exact fun _ => agrees_publish
  | @register other fresh historyKnown hlease hfresh =>
    have hspec := hs.1.registerConnection_spec hlease hfresh historyKnown
    have hagent := (AppState.connId?_of_openConn? hopen).1
    have hne : conn ≠ fresh := by
      intro heq
      rw [← heq] at hfresh
      exact hfresh (hs.1.minted agent conn hconn.1)
    rw [hspec.connId?] at hagent
    split at hagent
    . rw [Option.some.injEq] at hagent
      exact absurd hagent.symm hne
    . next hother =>
      apply CaptureChange.of_eq
      . rw [hspec.sockets, if_neg hne]
        split <;> rfl
      . rw [hspec.activeCapture, if_neg hother]
  | @unregister other socket reason hconn' hlease =>
    have hspec := hs.1.unregister_spec hconn' reason
    have hagent := (AppState.connId?_of_openConn? hopen).1
    rw [hspec.connId?] at hagent
    split at hagent
    . cases hagent
    . next hother =>
      apply CaptureChange.of_eq
      . rw [hspec.sockets]
        split
        . next heq => rw [heq]
        . rfl
      . rw [hspec.activeCapture, if_neg hother]
  | launch hconn' hplain hstamp => exact .of_eq rfl rfl

/-!
The invariant.
-/

structure Recorded (s : AppState) : Prop where
  text : ∀ conn, ∀ item ∈ (s.sockets conn).sent, item.control.command.isCapture = true
    → ∃ cmd, item.control = .text cmd
  agrees : ∀ agent conn, s.openConn? agent = some conn
    → Agrees (s.activeCapture agent) (lastCapture (s.sockets conn).stream)

/--
If the next entry of the queue starts the capture that is on record, it can be started: the live screen
is granted at the revision of the stamp, and it is not about to be disabled.
-/
def Starting (s : AppState) (conn : Uuid) (item : Queued) : Prop :=
  ∀ agent active cmd, s.openConn? agent = some conn → s.activeCapture agent = some active
    → active.generation ≠ Uuid.nil → item.control = .text cmd → cmd.kind = "start_capture"
    → cmd.get? "__capture_generation" = some (.string active.generation.text)
    → ∃ runtime, s.modules agent = some runtime
      ∧ (runtime.report.get .liveScreen).granted = true
      ∧ cmd.get? "__module_generation"
        = some (generationStamp .liveScreen (runtime.report.get .liveScreen).revision)
      ∧ runtime.disablePending .liveScreen = false

theorem deliverable_stop {s : AppState} (hs : Coherent s) {agent conn : Uuid} {item : Queued}
    (hopen : s.openConn? agent = some conn) (hcontrol : item.control = .text stopCommand)
    (hactive : s.activeCapture agent = none) : s.deliverable conn item = true := by
  have hconn := (AppState.connId?_of_openConn? hopen).1
  have hgeneration : s.generationDeliverable agent stopCommand = true := by
    unfold AppState.connId? at hconn
    rw [Option.map_eq_some_iff] at hconn
    rcases hconn with ⟨connection, hconnection, _⟩
    have hauth : s.authorizeAgentCommand agent stopCapture = .ok stopCapture := by
      simp only [AppState.authorizeAgentCommand, hconnection]
      rfl
    have huntag : (stopCommand.eraseField "__capture_generation").eraseField "__module_generation"
        = stopCapture := rfl
    simp only [AppState.generationDeliverable, huntag, hauth]
    rfl
  have hcapture : s.captureDeliverable agent conn stopCommand = true := by
    unfold AppState.captureDeliverable
    rw [hactive]
    rfl
  simp only [AppState.deliverable, hcontrol, hs.agent agent conn hconn, hopen, hgeneration, hcapture]
  decide

theorem deliverable_start {s : AppState} (hs : Coherent s) {agent conn : Uuid} {item : Queued}
    {active : ActiveCapture} {revision : Nat} (hopen : s.openConn? agent = some conn)
    (hcontrol : item.control = .text (active.startCommand revision))
    (hactive : s.activeCapture agent = some active) (hnil : active.generation ≠ Uuid.nil)
    (hC : Starting s conn item) : s.deliverable conn item = true := by
  have hconn := (AppState.connId?_of_openConn? hopen).1
  have hkind : (active.startCommand revision).kind = "start_capture" := rfl
  have htag : (active.startCommand revision).get? "__capture_generation"
      = some (.string active.generation.text) := rfl
  rcases hC agent active _ hopen hactive hnil hcontrol hkind htag with
    ⟨runtime, hruntime, hgranted, hstamp, hpending⟩
  have hgate : (active.startCommand revision).gate = .module .liveScreen := rfl
  have hgeneration := generationDeliverable_of_granted hs hconn hgate hruntime hgranted hstamp hpending
  have hsocket : active.connId = conn := by
    have := hs.active agent active hactive
    rw [hconn, Option.some.injEq] at this
    exact this.symm
  have hcapture : s.captureDeliverable agent conn (active.startCommand revision) = true := by
    have hfilter : (s.activeCapture agent).filter (fun active => active.connId = conn)
        = some active := by
      rw [hactive]
      simp [Option.filter, hsocket]
    simp [AppState.captureDeliverable, hkind, htag, hfilter]
  simp [AppState.deliverable, hcontrol, hs.agent agent conn hconn, hopen, hgeneration, hcapture]

namespace Recorded

variable {s t : AppState}

theorem placed_text {conn : Uuid} {item : Queued} (h : Places s conn item)
    (hcapture : item.control.command.isCapture = true) : ∃ cmd, item.control = .text cmd := by
  cases h with
  | release hlease howner hitem =>
    simp only [AppState.releaseItems, List.mem_map] at hitem
    rcases hitem with ⟨command, hmem, rfl⟩
    rw [AgentControl.command, isCapture_release hmem] at hcapture
    cases hcapture
  | input _ _ _ _ _ hitem => exact ⟨_, by rw [hitem]⟩
  | push _ _ _ hitem => exact ⟨_, by rw [hitem]⟩
  | start _ _ hitem => exact ⟨_, by rw [hitem]; rfl⟩
  | stop _ _ hitem => exact ⟨_, by rw [hitem]; rfl⟩

-- Nothing is on record for a connection that is new.
theorem unrecorded {P : Uuid → Queued → Prop} (hs : Coherent s) (h : Effect P s t) {agent conn : Uuid}
    (hconn : t.connId? agent = some conn) (hfresh : conn ∉ s.minted) : t.activeCapture agent = none := by
  cases h with
  | grant hlease hopen hheld hfresh' hfrozen =>
    simp only [AppState.connId?, AppState.grantLease, AppState.commitControlCapture_connections]
      at hconn
    exact absurd (hs.minted agent conn hconn) hfresh
  | register historyKnown hlease hfresh' =>
    have hspec := hs.registerConnection_spec hlease hfresh' historyKnown
    rw [hspec.connId?] at hconn
    split at hconn
    . next heq => rw [hspec.activeCapture, if_pos heq]
    . exact absurd (hs.minted agent conn hconn) hfresh
  | unregister reason hconn' hlease =>
    rw [(hs.unregister_spec hconn' reason).connId?] at hconn
    split at hconn
    . cases hconn
    . exact absurd (hs.minted agent conn hconn) hfresh
  | _ => exact absurd (hs.minted agent conn hconn) hfresh

theorem effect_agrees {P : Uuid → Queued → Prop} (h : Recorded s) (hs : Sound s)
    (heffect : Effect P s t) {agent conn : Uuid} (hopen : t.openConn? agent = some conn)
    : Agrees (t.activeCapture agent) (lastCapture (t.sockets conn).stream) := by
  rcases heffect.open_grow hs hopen with ⟨hfresh, hsent, hwritten⟩ | ⟨hold, items, hsocket⟩
  . rw [unrecorded hs.1 heffect (AppState.connId?_of_openConn? hopen).1 hfresh]
    simp [Socket.stream, Socket.queue, hsent, hwritten, lastCapture, Agrees]
  . have hstream : (t.sockets conn).stream
        = (s.sockets conn).stream ++ items.map (fun item => item.control.command) := by
      rw [hsocket]
      exact Socket.stream_grow (hs.2.taken conn) items _
    have hitems : (t.sockets conn).sent = (s.sockets conn).sent ++ items := by
      rw [hsocket]
    rw [hstream]
    cases heffect.captureChange hs hold hopen with
    | kept others hsent hneutral hactive =>
      rw [hitems, List.append_cancel_left_eq] at hsent
      subst hsent
      rw [lastCapture_append_other]
      . exact hactive _ (h.agrees agent conn hold)
      . intro command hcommand
        rw [List.mem_map] at hcommand
        rcases hcommand with ⟨item, hitem, rfl⟩
        exact hneutral item hitem
    | @started active command hsent hauth hactive =>
      rw [hitems, List.append_cancel_left_eq] at hsent
      subst hsent
      rcases command_startItem hauth with ⟨revision, hcommand⟩
      rw [hactive, List.map_singleton, hcommand, lastCapture_concat rfl]
      exact fun _ => ⟨revision, rfl⟩
    | @stopped command hsent hauth hactive =>
      rw [hitems, List.append_cancel_left_eq] at hsent
      subst hsent
      rw [hactive, List.map_singleton, command_stopItem hauth, lastCapture_concat rfl]
      exact .inr rfl

theorem effect {P : Uuid → Queued → Prop} (h : Recorded s) (hs : Sound s) (heffect : Effect P s t)
    : Recorded t where
  text := by
    intro conn item hitem hcapture
    cases heffect.places.socket hs.1 conn with
    | new _ _ _ heq =>
      rw [heq] at hitem
      cases hitem
    | grow items shutdown heq _ hplaces _ =>
      rw [heq, List.mem_append] at hitem
      rcases hitem with hitem | hitem
      . exact h.text conn item hitem hcapture
      . exact placed_text (hplaces item hitem) hcapture
  agrees := by
    intro agent conn hopen
    exact h.effect_agrees hs heffect hopen

-- The capture command that the record stands for is not dropped.
theorem not_last (h : Recorded s) (hs : Sound s) {agent conn : Uuid} {item : Queued}
    (hopen : s.openConn? agent = some conn)
    (hitem : (s.sockets conn).sent[(s.sockets conn).taken]? = some item) (hC : Starting s conn item)
    (hdenied : s.deliverable conn item = false
      ∨ (∃ cmd, item.control = .text cmd
        ∧ (cmd.kind = "ClipboardRead" ∨ cmd.kind = "ClipboardWrite")))
    (hcapture : item.control.command.isCapture = true)
    (hagrees : Agrees (s.activeCapture agent) (some item.control.command)) (last : Option Json)
    : Agrees (s.activeCapture agent) last := by
  rcases h.text conn item (List.mem_of_getElem? hitem) hcapture with ⟨cmd, hcontrol⟩
  have hdeliverable : s.deliverable conn item = false := by
    rcases hdenied with hdenied | ⟨other, hother, hclipboard⟩
    . exact hdenied
    . rw [hother, AgentControl.command] at hcapture
      rw [Json.isCapture, decide_eq_true_eq] at hcapture
      rcases hclipboard with hkind | hkind
      . simp [hkind] at hcapture
      . simp [hkind] at hcapture
  rw [hcontrol, AgentControl.command] at hagrees
  cases hactive : s.activeCapture agent with
  | none =>
    rw [hactive] at hagrees
    rcases hagrees with hnone | hstop
    . cases hnone
    . rw [Option.some.injEq] at hstop
      rw [hstop] at hcontrol
      rw [deliverable_stop hs.1 hopen hcontrol hactive] at hdeliverable
      cases hdeliverable
  | some active =>
    rw [hactive] at hagrees
    intro hnil
    rcases hagrees hnil with ⟨revision, hstart⟩
    rw [Option.some.injEq] at hstart
    rw [hstart] at hcontrol
    rw [deliverable_start hs.1 hopen hcontrol hactive hnil hC] at hdeliverable
    cases hdeliverable

theorem drop (h : Recorded s) (hs : Sound s) {conn : Uuid} {item : Queued}
    (hitem : (s.sockets conn).sent[(s.sockets conn).taken]? = some item) (hC : Starting s conn item)
    (hdenied : s.deliverable conn item = false
      ∨ (∃ cmd, item.control = .text cmd
        ∧ (cmd.kind = "ClipboardRead" ∨ cmd.kind = "ClipboardWrite")))
    : Recorded (s.take conn) where
  text := by
    intro other
    rw [take_sent]
    exact h.text other
  agrees := by
    intro agent other hopen
    rw [AppState.take_openConn?] at hopen
    have hagrees := h.agrees agent other hopen
    change Agrees (s.activeCapture agent) _
    rw [s.sockets_take]
    split
    . next heq =>
      subst heq
      unfold Socket.stream at hagrees ⊢
      rw [Socket.queue_head hitem, List.map_cons] at hagrees
      rcases lastCapture_erased with hsame | ⟨hcapture, hlast⟩
      . rw [hsame] at hagrees
        exact hagrees
      . rw [hlast] at hagrees
        exact h.not_last hs hopen hitem hC hdenied hcapture hagrees _
    . exact hagrees

theorem write (h : Recorded s) {conn : Uuid} {item : Queued}
    (hitem : (s.sockets conn).sent[(s.sockets conn).taken]? = some item)
    : Recorded ((s.take conn).write conn (s.sockets conn).taken item.control.command) where
  text := by
    intro other
    rw [write_sent]
    exact h.text other
  agrees := by
    intro agent other hopen
    rw [AppState.write_openConn?] at hopen
    have hagrees := h.agrees agent other hopen
    change Agrees (s.activeCapture agent) _
    rw [s.sockets_write]
    split
    . next heq =>
      subst heq
      unfold Socket.stream at hagrees ⊢
      rw [Socket.queue_head hitem, List.map_cons] at hagrees
      rw [List.map_append, List.map_singleton, List.append_assoc]
      exact hagrees
    . exact hagrees

theorem preserves : Preserves Sound Starting Recorded where
  same := by
    intro s t _ h hsame
    constructor
    . rw [hsame.sockets]
      exact h.text
    . intro agent conn hopen
      rw [hsame.openConn?] at hopen
      rw [hsame.sockets, hsame.activeCapture]
      exact h.agrees agent conn hopen
  effect := by
    intro P s t hs h heffect
    exact h.effect hs heffect
  drop := by
    intro s conn item hs h hitem hC hdenied
    exact h.drop hs hitem hC hdenied
  write := by
    intro s conn item _ h hitem _
    exact h.write hitem

theorem init : Recorded AppState.init := by
  constructor
  . simp [AppState.init, Socket.new]
  . intro agent conn hopen
    cases hopen

end Recorded

/--
In a run in which every start of the capture on record is taken out of the queue while it can be
started, the last capture command that was written agrees with the record in every state in which the
socket is open and its queue is drained.
-/
theorem capture_agreement {s : AppState} (h : RunsIf Starting AppState.init s) {agent conn : Uuid}
    (hopen : s.openConn? agent = some conn) (hqueue : (s.sockets conn).queue = [])
    : (s.activeCapture agent = none
        → lastCapture ((s.sockets conn).written.map Prod.snd) = none
          ∨ lastCapture ((s.sockets conn).written.map Prod.snd) = some stopCommand)
      ∧ ∀ active, s.activeCapture agent = some active → active.generation ≠ Uuid.nil
        → ∃ revision, lastCapture ((s.sockets conn).written.map Prod.snd)
          = some (active.startCommand revision) := by
  have hagrees := (Recorded.preserves.holds Sound.init Recorded.init h).agrees agent conn hopen
  rw [Socket.stream, hqueue, List.map_nil, List.append_nil] at hagrees
  constructor
  . intro hactive
    rw [hactive] at hagrees
    exact hagrees
  . intro active hactive
    rw [hactive] at hagrees
    exact hagrees

namespace Example

def started : List Op :=
  viewed ++ [.deliver 2 0]

-- The condition for the agent that the socket belongs to.
def startable (s : AppState) (conn : Uuid) (item : Queued) : Bool :=
  match item.control with
  | .text cmd =>
    cmd.kind ≠ "start_capture" || (s.modules (s.sockets conn).agent).any (fun runtime =>
      (runtime.report.get .liveScreen).granted
        && cmd.get? "__module_generation"
          = some (generationStamp .liveScreen (runtime.report.get .liveScreen).revision)
        && !runtime.disablePending .liveScreen)
  | .inputCleanup _ _ => true

theorem starting_startable (s : AppState) (conn : Uuid) (item : Queued) (hs : Sound s)
    (h : startable s conn item = true) : Starting s conn item := by
  intro agent active cmd hopen _ _ hcontrol hkind _
  rw [startable, hcontrol, hs.1.agent agent conn (AppState.connId?_of_openConn? hopen).1] at h
  simp only [hkind, ne_eq, not_true_eq_false, decide_false, Bool.false_or, Option.any_eq_true,
    Bool.and_eq_true, decide_eq_true_eq, Bool.not_eq_true'] at h
  rcases h with ⟨runtime, hruntime, ⟨hgranted, hstamp⟩, hpending⟩
  exact ⟨runtime, hruntime, hgranted, hstamp, hpending⟩

end Example

theorem capture_agreement_started
    : ∃ active, (AppState.init.run Example.started).activeCapture 1 = some active
      ∧ ∃ revision, lastCapture (((AppState.init.run Example.started).sockets 2).written.map Prod.snd)
        = some (active.startCommand revision) := by
  -- The facts about the run are one, so that it is evaluated once.
  have hrun : AppState.init.checkedRun Example.startable Example.started = true
      ∧ (AppState.init.run Example.started).openConn? 1 = some 2
      ∧ ((AppState.init.run Example.started).activeCapture 1).any
        (fun active => active.generation ≠ Uuid.nil) = true
      ∧ ((AppState.init.run Example.started).sockets 2).queue = [] := by
    decide +kernel
  rcases hrun with ⟨hchecked, hopen, hactive, hqueue⟩
  have hruns : RunsIf Starting AppState.init (AppState.init.run Example.started) :=
    AppState.runsIf_run Example.starting_startable Sound.init hchecked
  rw [Option.any_eq_true] at hactive
  rcases hactive with ⟨active, hactive, hnil⟩
  have hagreement := capture_agreement hruns hopen hqueue
  exact ⟨active, hactive, hagreement.2 active hactive (by simpa using hnil)⟩

namespace Example

def failedAck : Json :=
  (Permissions.disableAndWait grants (fun _ => true) (some "disk full")
    (disableModule .liveScreen 1 20) 0).1

def refused : List Op :=
  viewed ++ [
    .requestDisable 1 operator .liveScreen 1 20 0 true,
    .deliver 2 0,
    .replayDisable 1 2 20 0 true,
    .deliver 2 0,
    .disableAck 1 2 failedAck true,
    .syncCapture 1 30
  ]

end Example

/--
While a request to disable the live screen waits for its answer, the start of a capture is dropped. When
the agent answers that it could not disable it the record is kept, and nothing starts the capture again.
-/
theorem dropped_start_recorded
    : ¬ ∀ s, Reachable s → ∀ agent conn, s.openConn? agent = some conn
      → (s.sockets conn).queue = []
      → ∀ active, s.activeCapture agent = some active → active.generation ≠ Uuid.nil
        → ∃ revision, lastCapture ((s.sockets conn).written.map Prod.snd)
          = some (active.startCommand revision) := by
  intro h
  have hrun : AppState.init.freshRun Example.refused = true
      ∧ (AppState.init.run Example.refused).openConn? 1 = some 2
      ∧ ((AppState.init.run Example.refused).sockets 2).queue = []
      ∧ ((AppState.init.run Example.refused).activeCapture 1).any
        (fun active => active.generation ≠ Uuid.nil) = true
      ∧ lastCapture (((AppState.init.run Example.refused).sockets 2).written.map Prod.snd) = none := by
    decide +kernel
  rcases hrun with ⟨hfresh, hopen, hqueue, hactive, hnone⟩
  rw [Option.any_eq_true] at hactive
  rcases hactive with ⟨active, hactive, hnil⟩
  rcases h _ (AppState.reachable_run hfresh) 1 2 hopen hqueue active hactive (by simpa using hnil)
    with ⟨revision, hlast⟩
  rw [hnone] at hlast
  cases hlast

end Vantyr
