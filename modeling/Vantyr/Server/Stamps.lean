import Vantyr.Server.Placement
import Vantyr.Server.Succession

/-!
This module contains what becomes of the commands in a queue when the grants change: a command is
stamped with the revision of its grant when it is authorized, and once that grant was withdrawn it is
never written again.
-/

namespace Vantyr

/-!
What is placed in a queue, and what becomes of the reports.
-/

inductive Places (s : AppState) (conn : Uuid) (item : Queued) : Prop where
  | release {agent : Uuid} {lease : Lease} (hlease : s.sessions.lookup agent = some lease)
      (hconn : lease.grant.owner.agentConnectionId = conn)
      (hitem : item ∈ AppState.releaseItems conn lease.grant.token lease.held.drain)
  | input {agent : Uuid} {lease : Lease} {cmd authorized : Json} {held : HeldInput}
      (hlease : s.sessions.lookup agent = some lease) (hopen : s.openConn? agent = some conn)
      (hkind : isRemoteInput cmd.kind = true)
      (hauth : s.authorizeAgentCommand agent cmd = .ok authorized)
      (htrack : lease.held.track cmd = .ok held)
      (hitem : item = { control := .text authorized, origin := .input lease.grant.token })
  | push {agent : Uuid} {command : Json} (hopen : s.openConn? agent = some conn)
      (hordinary : Ordinary command)
      (hstamp : Stamped s agent command ∨ (agent, conn, command) ∈ s.inflight)
      (hitem : item = { control := .text command, origin := .command })
  | start {agent : Uuid} {active : ActiveCapture} {command : Json}
      (hopen : s.openConn? agent = some conn)
      (hauth : s.authorizeAgentCommand agent
        (startCapture active.wireMonitor active.prefs.jpegQuality active.prefs.intervalMs)
          = .ok command)
      (hitem : item = AppState.startItem active command)
  | stop {agent : Uuid} {command : Json} (hopen : s.openConn? agent = some conn)
      (hauth : s.authorizeAgentCommand agent stopCapture = .ok command)
      (hitem : item = AppState.stopItem command)

theorem Effect.places {P : Uuid → Queued → Prop} {s t : AppState} (h : Effect P s t)
    : Effect (Places s) s t := by
  cases h with
  | endLease reason count hlease hP =>
    exact .endLease reason count hlease (fun item hitem => .release hlease rfl hitem)
  | input hlease hopen hkind hauth htrack hP =>
    exact .input hlease hopen hkind hauth htrack (.input hlease hopen hkind hauth htrack rfl)
  | lost held hlease => exact .lost held hlease
  | grant hlease hopen hheld hfresh hfrozen => exact .grant hlease hopen hheld hfresh hfrozen
  | renew expiresAt hlease => exact .renew expiresAt hlease
  | push hopen hordinary hstamp hP =>
    exact .push hopen hordinary hstamp (.push hopen hordinary hstamp rfl)
  | close hconn => exact .close hconn
  | start hopen hauth hnil hfresh hfrozen hP =>
    exact .start hopen hauth hnil hfresh hfrozen (.start hopen hauth rfl)
  | stop hopen hauth hP => exact .stop hopen hauth (.stop hopen hauth rfl)
  | dropActive hclosing => exact .dropActive hclosing
  | openSession hsession hconn => exact .openSession hsession hconn
  | dropSession hfree => exact .dropSession hfree
  | publish hconn hfollows => exact .publish hconn hfollows
  | register historyKnown hlease hfresh => exact .register historyKnown hlease hfresh
  | unregister reason hconn hlease => exact .unregister reason hconn hlease
  | launch hconn hplain hstamp => exact .launch hconn hplain hstamp

-- The report of a connection is replaced by one that follows it, or goes with the connection.
inductive ReportChange (s t : AppState) (agent : Uuid) : Prop where
  | same (h : t.modules agent = s.modules agent)
  | published {runtime : RuntimeModules} (h : t.modules agent = some runtime)
      (hfollows : ∀ old, s.modules agent = some old →
        runtime.report = old.report ∨ runtime.report.follows old.report = true)
  | gone (h : ∀ conn, t.connId? agent = some conn → conn ∉ s.minted)

theorem Effect.report {P : Uuid → Queued → Prop} {s t : AppState} (hs : Coherent s)
    (h : Effect P s t) (agent : Uuid) : ReportChange s t agent := by
  cases h with
  | grant hlease hopen hheld hfresh hfrozen =>
    apply ReportChange.same
    simp only [AppState.grantLease, AppState.commitControlCapture_modules]
  | @publish other runtime hconn hfollows =>
    by_cases heq : agent = other
    . subst heq
      exact .published (by simp only [AppState.publish, Function.update_self]) hfollows
    . apply ReportChange.same
      simp only [AppState.publish, Function.update_of_ne heq]
  | @register other fresh historyKnown hlease hfresh =>
    have hspec := hs.registerConnection_spec hlease hfresh historyKnown
    by_cases heq : agent = other
    . apply ReportChange.gone
      intro conn hconn
      rw [hspec.connId?, if_pos heq, Option.some.injEq] at hconn
      rw [← hconn]
      exact hfresh
    . apply ReportChange.same
      rw [hspec.modules, if_neg heq]
  | @unregister other old reason hconn hlease =>
    have hspec := hs.unregister_spec hconn reason
    by_cases heq : agent = other
    . apply ReportChange.gone
      intro conn hconn
      rw [hspec.connId?, if_pos heq] at hconn
      cases hconn
    . apply ReportChange.same
      rw [hspec.modules, if_neg heq]
  | _ => exact .same rfl

-- A command that is in flight was authorized on the connection it is meant for.
theorem Effect.inflight {P : Uuid → Queued → Prop} {s t : AppState} (hs : Coherent s)
    (h : Effect P s t) {agent conn : Uuid} {cmd : Json} (hmem : (agent, conn, cmd) ∈ t.inflight)
    : (agent, conn, cmd) ∈ s.inflight
      ∨ s.connId? agent = some conn ∧ Stamped s agent cmd := by
  cases h with
  | grant hlease hopen hheld hfresh hfrozen =>
    simp only [AppState.grantLease, AppState.commitControlCapture_inflight] at hmem
    exact .inl hmem
  | register historyKnown hlease hfresh =>
    rw [(hs.registerConnection_spec hlease hfresh historyKnown).inflight] at hmem
    exact .inl hmem
  | unregister reason hconn hlease =>
    rw [(hs.unregister_spec hconn reason).inflight] at hmem
    exact .inl hmem
  | launch hconn hplain hstamp =>
    rcases List.mem_cons.mp hmem with heq | hmem
    . rw [Prod.mk.injEq, Prod.mk.injEq] at heq
      rcases heq with ⟨rfl, rfl, rfl⟩
      exact .inr ⟨hconn, hstamp⟩
    . exact .inl hmem
  | _ => exact .inl hmem

/-!
Stamps.
-/

def Queued.Stamp (item : Queued) (m : Module) (revision : Nat) : Prop :=
  ∃ cmd, item.control = .text cmd
    ∧ cmd.get? "__module_generation" = some (generationStamp m revision)

theorem generationStamp_inj {m m' : Module} {r r' : Nat}
    (h : generationStamp m r = generationStamp m' r') : m = m' ∧ r = r' := by
  simp only [generationStamp, Json.ofNat, Json.object.injEq, List.cons.injEq, Prod.mk.injEq, true_and,
    and_true, Json.number.injEq, Number.posInt.injEq] at h
  exact ⟨Module.toJson_injective h.1, h.2⟩

-- The connection of the agent has reported the module at the revision of the stamp or a later one.
def Reported (s : AppState) (agent : Uuid) (m : Module) (revision : Nat) : Prop :=
  ∃ runtime, s.modules agent = some runtime ∧ revision ≤ (runtime.report.get m).revision

theorem Stamped.reported {s : AppState} {agent : Uuid} {command : Json} {m : Module} {r : Nat}
    (h : Stamped s agent command)
    (hstamp : command.get? "__module_generation" = some (generationStamp m r))
    : Reported s agent m r := by
  rcases h with hnone | ⟨m', runtime, hruntime, _, heq⟩
  . rw [hnone] at hstamp
    cases hstamp
  . rw [heq, Option.some.injEq] at hstamp
    rcases generationStamp_inj hstamp with ⟨rfl, rfl⟩
    exact ⟨runtime, hruntime, Nat.le_refl _⟩

theorem Reported.effect {P : Uuid → Queued → Prop} {s t : AppState} {agent conn : Uuid} {m : Module}
    {r : Nat} (h : Reported s agent m r) (hs : Coherent s) (heffect : Effect P s t)
    (hconn : s.connId? agent = some conn) (hconn' : t.connId? agent = some conn)
    : Reported t agent m r := by
  rcases h with ⟨runtime, hruntime, hle⟩
  cases heffect.report hs agent with
  | same heq =>
    rw [← heq] at hruntime
    exact ⟨runtime, hruntime, hle⟩
  | @published new hnew hfollows =>
    refine ⟨new, hnew, ?_⟩
    rcases hfollows runtime hruntime with heq | hfollows
    . rw [heq]
      exact hle
    . have := (((ModuleReport.follows_iff _ _).mp hfollows).2 m).1
      omega
  | gone hgone => exact absurd (hs.minted agent conn hconn) (hgone conn hconn')

-- The releases of a lease carry no stamp.
theorem unstamped_drain {held : HeldInput} {command : Json} (h : command ∈ held.drain)
    : command.get? "__module_generation" = none := by
  unfold HeldInput.drain at h
  simp only [List.mem_append, List.mem_filterMap, Option.map_eq_some_iff] at h
  rcases h with ⟨entry, _, heq⟩ | ⟨button, _, point, _, heq⟩
  . split at heq
    . rw [Option.some.injEq] at heq
      rw [← heq]
      rfl
    . cases heq
  . rw [← heq]
    rfl

structure Stamps (s : AppState) : Prop where
  cleanup : ∀ conn, ∀ item ∈ (s.sockets conn).sent, ∀ socket command,
    item.control = .inputCleanup socket command → command.get? "__module_generation" = none
  queued : ∀ agent conn item m r, s.connId? agent = some conn → item ∈ (s.sockets conn).sent
    → item.Stamp m r → Reported s agent m r
  minted : ∀ agent conn cmd, (agent, conn, cmd) ∈ s.inflight → conn ∈ s.minted
  inflight : ∀ agent conn cmd m r, (agent, conn, cmd) ∈ s.inflight → s.connId? agent = some conn
    → cmd.get? "__module_generation" = some (generationStamp m r) → Reported s agent m r

namespace Stamps

variable {s t : AppState}

theorem placed (h : Stamps s) (hs : Coherent s) {agent conn : Uuid} {item : Queued} {m : Module}
    {r : Nat} (hconn : s.connId? agent = some conn) (hplaces : Places s conn item)
    (hstamp : item.Stamp m r) : Reported s agent m r := by
  rcases hstamp with ⟨cmd, hcontrol, hget⟩
  have hsame : ∀ other, s.openConn? other = some conn → other = agent := by
    intro other hopen
    rw [← hs.agent other conn (AppState.connId?_of_openConn? hopen).1, hs.agent agent conn hconn]
  cases hplaces with
  | release hlease howner hitem =>
    simp only [AppState.releaseItems, List.mem_map] at hitem
    rcases hitem with ⟨command, _, rfl⟩
    cases hcontrol
  | input hlease hopen hkind hauth htrack hitem =>
    rw [hitem, AgentControl.text.injEq] at hcontrol
    rw [← hcontrol] at hget
    rw [← hsame _ hopen]
    exact (stamped_authorized hauth).reported hget
  | push hopen hordinary hauth hitem =>
    rw [hitem, AgentControl.text.injEq] at hcontrol
    rw [← hcontrol] at hget
    rw [hsame _ hopen] at hauth
    rcases hauth with hauth | hauth
    . exact hauth.reported hget
    . exact h.inflight agent conn _ m r hauth hconn hget
  | start hopen hauth hitem =>
    rw [hitem, AppState.startItem, AgentControl.text.injEq] at hcontrol
    rw [← hcontrol, Json.get?_setField_of_ne (by decide)] at hget
    rw [← hsame _ hopen]
    exact (stamped_authorized hauth).reported hget
  | stop hopen hauth hitem =>
    rw [hitem, AppState.stopItem, AgentControl.text.injEq] at hcontrol
    rw [← hcontrol, Json.get?_setField_of_ne (by decide)] at hget
    rw [← hsame _ hopen]
    exact (stamped_authorized hauth).reported hget

theorem unstamped {conn : Uuid} {item : Queued} (hplaces : Places s conn item) {socket : Uuid}
    {command : Json} (hcontrol : item.control = .inputCleanup socket command)
    : command.get? "__module_generation" = none := by
  cases hplaces with
  | release hlease howner hitem =>
    simp only [AppState.releaseItems, List.mem_map] at hitem
    rcases hitem with ⟨released, hmem, rfl⟩
    rw [AgentControl.inputCleanup.injEq] at hcontrol
    rw [← hcontrol.2]
    exact unstamped_drain hmem
  | input _ _ _ _ _ hitem =>
    rw [hitem] at hcontrol
    cases hcontrol
  | push _ _ _ hitem =>
    rw [hitem] at hcontrol
    cases hcontrol
  | start _ _ hitem =>
    rw [hitem] at hcontrol
    cases hcontrol
  | stop _ _ hitem =>
    rw [hitem] at hcontrol
    cases hcontrol

-- A connection that has entries in its queue was registered before.
theorem connId?_of_sent {P : Uuid → Queued → Prop} (hs : Sound s) (heffect : Effect P s t)
    {agent conn : Uuid} (hconn : t.connId? agent = some conn)
    (hsent : (t.sockets conn).sent ≠ []) : s.connId? agent = some conn := by
  rcases heffect.connId? hs.1 hconn with hold | hfresh
  . exact hold
  . exfalso
    apply hsent
    have hunused := (hs.2.unused conn hfresh).1
    cases heffect.socket hs.1 conn with
    | new _ _ _ heq =>
      rw [heq]
      rfl
    | grow items shutdown heq _ _ hregistered =>
      rcases hregistered with ⟨hitems, _⟩ | ⟨other, hother⟩
      . rw [heq]
        simp [hunused, hitems]
      . exact absurd (hs.1.minted other conn hother) hfresh

theorem effect {P : Uuid → Queued → Prop} (h : Stamps s) (hs : Sound s) (heffect : Effect P s t)
    : Stamps t where
  cleanup := by
    intro conn item hitem socket command hcontrol
    cases heffect.places.socket hs.1 conn with
    | new _ _ _ heq =>
      rw [heq] at hitem
      cases hitem
    | grow items shutdown heq _ hplaces _ =>
      rw [heq, List.mem_append] at hitem
      rcases hitem with hitem | hitem
      . exact h.cleanup conn item hitem socket command hcontrol
      . exact unstamped (hplaces item hitem) hcontrol
  queued := by
    intro agent conn item m r hconn hitem hstamp
    have hold := connId?_of_sent hs heffect hconn (List.ne_nil_of_mem hitem)
    apply Reported.effect _ hs.1 heffect hold hconn
    cases heffect.places.socket hs.1 conn with
    | new _ _ _ heq =>
      rw [heq] at hitem
      cases hitem
    | grow items shutdown heq _ hplaces _ =>
      rw [heq, List.mem_append] at hitem
      rcases hitem with hitem | hitem
      . exact h.queued agent conn item m r hold hitem hstamp
      . exact h.placed hs.1 hold (hplaces item hitem) hstamp
  minted := by
    intro agent conn cmd hmem
    apply heffect.minted hs.1
    rcases heffect.inflight hs.1 hmem with hold | ⟨hconn, _⟩
    . exact h.minted agent conn cmd hold
    . exact hs.1.minted agent conn hconn
  inflight := by
    intro agent conn cmd m r hmem hconn hget
    rcases heffect.inflight hs.1 hmem with hold | ⟨hconn', hstamped⟩
    . rcases heffect.connId? hs.1 hconn with hconn' | hfresh
      . exact (h.inflight agent conn cmd m r hold hconn' hget).effect hs.1 heffect hconn' hconn
      . exact absurd (h.minted agent conn cmd hold) hfresh
    . exact (hstamped.reported hget).effect hs.1 heffect hconn' hconn

theorem preserves : Preserves Sound Always Stamps where
  same := by
    intro s t _ h hsame
    have hreported : ∀ {agent m r}, Reported s agent m r → Reported t agent m r := by
      intro agent m r hreported
      rcases hreported with ⟨runtime, hruntime, hle⟩
      rw [← hsame.modules] at hruntime
      exact ⟨runtime, hruntime, hle⟩
    constructor
    . rw [hsame.sockets]
      exact h.cleanup
    . intro agent conn item m r hconn hitem hstamp
      rw [hsame.connId?] at hconn
      rw [hsame.sockets] at hitem
      exact hreported (h.queued agent conn item m r hconn hitem hstamp)
    . intro agent conn cmd hmem
      exact hsame.minted (h.minted agent conn cmd (hsame.inflight hmem))
    . intro agent conn cmd m r hmem hconn hget
      rw [hsame.connId?] at hconn
      exact hreported (h.inflight agent conn cmd m r (hsame.inflight hmem) hconn hget)
  effect := by
    intro P s t hs h heffect
    exact h.effect hs heffect
  drop := by
    intro s conn item _ h _ _ _
    refine ⟨?_, ?_, h.minted, h.inflight⟩
    . intro other item hitem
      rw [take_sent] at hitem
      exact h.cleanup other item hitem
    . intro agent other item m r hconn hitem hstamp
      rw [take_sent] at hitem
      exact h.queued agent other item m r hconn hitem hstamp
  write := by
    intro s conn item _ h _ _
    refine ⟨?_, ?_, h.minted, h.inflight⟩
    . intro other item hitem
      rw [write_sent] at hitem
      exact h.cleanup other item hitem
    . intro agent other item m r hconn hitem hstamp
      rw [write_sent] at hitem
      exact h.queued agent other item m r hconn hitem hstamp

theorem init : Stamps AppState.init := by
  constructor <;> simp [AppState.init, Socket.new]

end Stamps

theorem Reachable.stamps {s : AppState} (h : Reachable s) : Stamps s :=
  Stamps.preserves.holds Sound.init Stamps.init h.always

/-!
What is written.
-/

theorem deliverable_stamp {s : AppState} (hs : Coherent s) {conn : Uuid} {item : Queued} {m : Module}
    {r : Nat} (hstamp : item.Stamp m r) (h : s.deliverable conn item = true)
    : ∃ runtime, s.openConn? (s.sockets conn).agent = some conn
        ∧ s.modules (s.sockets conn).agent = some runtime ∧ runtime.connId = conn
        ∧ (runtime.report.get m).granted = true ∧ (runtime.report.get m).revision = r
        ∧ runtime.disablePending m = false := by
  rcases hstamp with ⟨cmd, hcontrol, hget⟩
  have hopen := AppState.open_of_deliverable h
  simp only [AppState.deliverable, hcontrol, Bool.and_eq_true] at h
  have hgeneration := h.2
  unfold AppState.generationDeliverable at hgeneration
  dsimp only at hgeneration
  split at hgeneration
  . next expected hauth =>
    rw [decide_eq_true_eq, hget] at hgeneration
    rcases authorizeAgentCommand_ok hauth with ⟨hnone, _, ⟨heq, _⟩ | hcase⟩
    . rw [heq, hnone] at hgeneration
      cases hgeneration
    . rcases hcase with ⟨other, m', runtime, hconn, hgate, hruntime, hgranted, hpending, heq⟩
      rcases type_of_gate hgate with ⟨value, htype⟩
      rw [heq, Json.get?_setField_self htype, Option.some.injEq] at hgeneration
      rcases generationStamp_inj hgeneration with ⟨rfl, rfl⟩
      unfold AppState.moduleRuntime at hruntime
      rw [Option.filter_eq_some_iff] at hruntime
      have hregistered := (AppState.connId?_of_openConn? hopen).1
      have hmodules := hs.modules _ runtime hruntime.1
      rw [hregistered, Option.some.injEq] at hmodules
      exact ⟨runtime, hopen, hruntime.1, hmodules.symm, hgranted, rfl, hpending⟩
  . cases hgeneration

theorem Acts.written {P : Uuid → Queued → Prop} {s t : AppState} (hs : Sound s) (h : Acts P s t)
    (conn : Uuid) : Sound t ∧ (t.sockets conn).written = (s.sockets conn).written := by
  induction h with
  | refl => exact ⟨hs, rfl⟩
  | @tail u v _ hmicro ih =>
    rcases ih with ⟨hu, hwritten⟩
    cases hmicro with
    | same hsame =>
      refine ⟨(Sound.preserves Always).same trivial hu hsame, ?_⟩
      rw [hsame.sockets]
      exact hwritten
    | effect heffect =>
      refine ⟨(Sound.preserves Always).effect trivial hu heffect, ?_⟩
      cases heffect.socket hu.1 conn with
      | new agent hfresh _ heq =>
        have hempty : (u.sockets conn).written = [] := by
          rw [List.eq_nil_iff_forall_not_mem]
          intro entry hentry
          have hlt := (hu.2.written conn entry hentry).1
          have hle := hu.2.taken conn
          rw [(hu.2.unused conn hfresh).1] at hle
          simp only [List.length_nil] at hle
          omega
        rw [heq, ← hwritten, hempty]
        rfl
      | grow items shutdown heq _ _ _ =>
        rw [heq]
        exact hwritten

-- A step writes nothing, or the first entry of a queue that is deliverable.
theorem exec_written {s : AppState} {op : Op} (hs : Sound s) (hfresh : s.Fresh op)
    : (∀ conn, ((s.exec op).sockets conn).written = (s.sockets conn).written)
      ∨ ∃ conn item, (s.sockets conn).sent[(s.sockets conn).taken]? = some item
        ∧ s.deliverable conn item = true
        ∧ s.exec op = (s.take conn).write conn (s.sockets conn).taken item.control.command := by
  by_cases hop : ∀ conn now, op ≠ .deliver conn now
  . left
    intro conn
    exact ((AppState.acts_exec hs.1 hfresh hop).written hs conn).2
  . simp only [not_forall, not_not] at hop
    rcases hop with ⟨socket, now, hop⟩
    have hdelivery := AppState.delivery hs.1 (releasable_placed s op) socket now
    have hexec : s.exec op = s.deliver socket now := by rw [hop]; rfl
    rw [hexec]
    generalize s.deliver socket now = t at hdelivery
    cases hdelivery with
    | idle => exact .inl (fun _ => rfl)
    | drop hitem hdenied hacts =>
      left
      intro conn
      have htake : Sound (s.take socket) := ⟨hs.1.take socket, hs.2.take hitem⟩
      rw [(hacts.written htake conn).2, s.sockets_take]
      split
      . next heq => rw [heq]
      . rfl
    | write hitem hdeliverable => exact .inr ⟨socket, _, hitem, hdeliverable, rfl⟩

/-!
Commands that are never written.
-/

-- The report no longer authorizes the module at the revision of a stamp.
def ModuleReport.Withdraws (report : ModuleReport) (m : Module) (revision : Nat) : Prop :=
  revision < (report.get m).revision
    ∨ (report.get m).revision = revision ∧ (report.get m).authorizationRequired = true

theorem ModuleReport.Withdraws.follows {report previous : ModuleReport} {m : Module} {r : Nat}
    (h : previous.Withdraws m r) (hfollows : report = previous ∨ report.follows previous = true)
    : report.Withdraws m r := by
  rcases hfollows with heq | hfollows
  . rw [heq]
    exact h
  . have hm := ((follows_iff _ _).mp hfollows).2 m
    rcases h with hlt | ⟨heq, hauth⟩
    . exact .inl (by omega)
    . by_cases hsame : (report.get m).revision = (previous.get m).revision
      . exact .inr ⟨by omega, by rw [hm.2.1 hsame, hauth]⟩
      . exact .inl (by omega)

/--
The connection was replaced or removed, it is about to be closed, or its report withdraws the grant.
-/
inductive Barred (s : AppState) (conn : Uuid) (m : Module) (revision : Nat) : Prop where
  | gone (h : ∀ agent, s.connId? agent ≠ some conn)
  | closing (h : s.closing conn = true)
  | withdrawn {agent : Uuid} {runtime : RuntimeModules} (hconn : s.connId? agent = some conn)
      (hruntime : s.modules agent = some runtime) (h : runtime.report.Withdraws m revision)

structure Doomed (conn : Uuid) (index : Nat) (item : Queued) (m : Module) (revision : Nat)
    (s : AppState) : Prop where
  queued : (s.sockets conn).sent[index]? = some item
  unwritten : ∀ entry ∈ (s.sockets conn).written, entry.1 ≠ index
  barred : Barred s conn m revision

namespace Barred

variable {s t : AppState} {conn : Uuid} {m : Module} {r : Nat}

theorem effect {P : Uuid → Queued → Prop} (h : Barred s conn m r) (hs : Sound s)
    (hminted : conn ∈ s.minted) (heffect : Effect P s t) : Barred t conn m r := by
  have hback : ∀ agent, t.connId? agent = some conn → s.connId? agent = some conn := by
    intro agent hconn
    rcases heffect.connId? hs.1 hconn with hold | hfresh
    . exact hold
    . exact absurd hminted hfresh
  cases h with
  | gone hgone => exact .gone (fun agent hconn => hgone agent (hback agent hconn))
  | closing hclosing => exact .closing (Succession.closing_effect hs heffect hclosing)
  | @withdrawn agent runtime hconn hruntime hwithdraws =>
    by_cases hkept : t.connId? agent = some conn
    . cases heffect.report hs.1 agent with
      | same heq =>
        rw [← heq] at hruntime
        exact .withdrawn hkept hruntime hwithdraws
      | published hnew hfollows =>
        exact .withdrawn hkept hnew (hwithdraws.follows (hfollows runtime hruntime))
      | gone hgone => exact absurd hminted (hgone conn hkept)
    . apply Barred.gone
      intro other hother
      have hold := hback other hother
      have : other = agent := by
        rw [← hs.1.agent other conn hold, hs.1.agent agent conn hconn]
      rw [this] at hother
      exact hkept hother

-- Nothing that happens to the queue of a socket lifts the bar.
theorem congr (h : Barred s conn m r) (hconnections : t.connections = s.connections)
    (hmodules : t.modules = s.modules)
    (hshutdown : (t.sockets conn).shutdown = (s.sockets conn).shutdown) : Barred t conn m r := by
  have hconnId : ∀ agent, t.connId? agent = s.connId? agent := by
    intro agent
    simp only [AppState.connId?, hconnections]
  cases h with
  | gone hgone => exact .gone (fun agent => by rw [hconnId]; exact hgone agent)
  | closing hclosing =>
    apply Barred.closing
    rw [AppState.closing, hshutdown]
    exact hclosing
  | withdrawn hconn hruntime hwithdraws =>
    exact .withdrawn (by rw [hconnId]; exact hconn) (by rw [hmodules]; exact hruntime) hwithdraws

theorem not_deliverable (h : Barred s conn m r) (hs : Coherent s) {item : Queued}
    (hstamp : item.Stamp m r) : s.deliverable conn item = false := by
  rw [Bool.eq_false_iff]
  intro hdeliverable
  rcases deliverable_stamp hs hstamp hdeliverable with
    ⟨runtime, hopen, hruntime, _, hgranted, hrevision, _⟩
  have hconn := AppState.connId?_of_openConn? hopen
  cases h with
  | gone hgone => exact hgone _ hconn.1
  | closing hclosing =>
    rw [hconn.2] at hclosing
    cases hclosing
  | @withdrawn agent old hconn' hold hwithdraws =>
    rw [hs.agent agent conn hconn', hold, Option.some.injEq] at hruntime
    rw [hruntime] at hwithdraws
    rcases hwithdraws with hlt | ⟨_, hauth⟩
    . omega
    . simp [ModuleState.granted, hauth] at hgranted

end Barred

theorem shutdown_take (s : AppState) (conn other : Uuid)
    : ((s.take conn).sockets other).shutdown = (s.sockets other).shutdown := by
  rw [s.sockets_take]
  split
  . next heq => rw [heq]
  . rfl

theorem shutdown_write (s : AppState) (conn other : Uuid) (position : Nat) (command : Json)
    : (((s.take conn).write conn position command).sockets other).shutdown
        = (s.sockets other).shutdown := by
  rw [s.sockets_write]
  split
  . next heq => rw [heq]
  . rfl

theorem Doomed.preserves {conn : Uuid} {index : Nat} {item : Queued} {m : Module} {r : Nat}
    (hstamp : item.Stamp m r) : Preserves Sound Always (Doomed conn index item m r) where
  same := by
    intro s t _ h hsame
    refine ⟨?_, ?_, h.barred.congr hsame.connections hsame.modules (by rw [hsame.sockets])⟩
    . rw [hsame.sockets]
      exact h.queued
    . rw [hsame.sockets]
      exact h.unwritten
  effect := by
    intro P s t hs h heffect
    have hminted : conn ∈ s.minted := by
      by_contra hnot
      have hqueued := h.queued
      rw [(hs.2.unused conn hnot).1] at hqueued
      cases hqueued
    cases heffect.socket hs.1 conn with
    | new agent hfresh _ heq => exact absurd hminted hfresh
    | grow items shutdown heq _ _ _ =>
      refine ⟨?_, ?_, h.barred.effect hs hminted heffect⟩
      . rw [heq, List.getElem?_append_left (List.getElem?_eq_some_iff.mp h.queued).1]
        exact h.queued
      . rw [heq]
        exact h.unwritten
  drop := by
    intro s other dropped _ h _ _ _
    refine ⟨?_, ?_, h.barred.congr rfl rfl (shutdown_take s other conn)⟩
    . rw [take_sent]
      exact h.queued
    . rw [s.sockets_take]
      split
      . next heq =>
        rw [← heq]
        exact h.unwritten
      . exact h.unwritten
  write := by
    intro s other written hs h hitem hdeliverable
    refine ⟨?_, ?_, h.barred.congr rfl rfl (shutdown_write s other conn _ _)⟩
    . rw [write_sent]
      exact h.queued
    . rw [s.sockets_write]
      split
      . next heq =>
        subst heq
        intro entry hentry
        rw [List.mem_append, List.mem_singleton] at hentry
        rcases hentry with hentry | rfl
        . exact h.unwritten entry hentry
        . -- The entry itself would have to be deliverable.
          intro hindex
          dsimp only at hindex
          rw [hindex, h.queued, Option.some.injEq] at hitem
          rw [← hitem, h.barred.not_deliverable hs.1 hstamp] at hdeliverable
          cases hdeliverable
      . exact h.unwritten

/--
A command that was stamped with a grant is written to the socket it was enqueued for, and only while
the report of that connection grants its module at the revision of the stamp and nothing waits to
disable it. Once the connection is gone or closing, or a report was accepted that requires another
authorization of the module or shows it at another revision, the command is never written.
-/
theorem no_resurrection {s : AppState} (h : Reachable s)
    : (∀ op conn index cmd m r, s.Fresh op
        → cmd.get? "__module_generation" = some (generationStamp m r)
        → (index, cmd) ∈ ((s.exec op).sockets conn).written
        → (index, cmd) ∉ (s.sockets conn).written
        → ∃ item runtime, (s.sockets conn).sent[index]? = some item ∧ item.control.command = cmd
          ∧ s.openConn? (s.sockets conn).agent = some conn
          ∧ s.modules (s.sockets conn).agent = some runtime ∧ runtime.connId = conn
          ∧ (runtime.report.get m).granted = true ∧ (runtime.report.get m).revision = r
          ∧ runtime.disablePending m = false)
      ∧ (∀ conn index item m r, (s.sockets conn).sent[index]? = some item → item.Stamp m r
        → (s.sockets conn).taken ≤ index
        → (∀ agent, s.connId? agent ≠ some conn) ∨ s.closing conn = true
          ∨ (∃ agent runtime, s.connId? agent = some conn ∧ s.modules agent = some runtime
            ∧ ((runtime.report.get m).authorizationRequired = true
              ∨ (runtime.report.get m).revision ≠ r))
        → ∀ t, Runs s t → ∀ entry ∈ (t.sockets conn).written, entry.1 ≠ index) := by
  have hs := h.sound
  constructor
  . intro op conn index cmd m r hfresh hget hwritten hnot
    rcases exec_written hs hfresh with hsame | ⟨socket, item, hitem, hdeliverable, heq⟩
    . rw [hsame] at hwritten
      exact absurd hwritten hnot
    . rw [heq, s.sockets_write] at hwritten
      split at hwritten
      . next hconn =>
        subst hconn
        rw [List.mem_append, List.mem_singleton] at hwritten
        rcases hwritten with hwritten | hwritten
        . exact absurd hwritten hnot
        . rw [Prod.mk.injEq] at hwritten
          have hstamp : item.Stamp m r := by
            rw [hwritten.2] at hget
            cases hcontrol : item.control with
            | text command =>
              rw [hcontrol] at hget
              exact ⟨command, hcontrol, hget⟩
            | inputCleanup socket command =>
              have hnone := h.stamps.cleanup conn item (List.mem_of_getElem? hitem) socket command
                hcontrol
              rw [hcontrol, AgentControl.command, hnone] at hget
              cases hget
          rcases deliverable_stamp hs.1 hstamp hdeliverable with ⟨runtime, hruntime⟩
          refine ⟨item, runtime, ?_, hwritten.2.symm, hruntime⟩
          rw [hwritten.1]
          exact hitem
      . exact absurd hwritten hnot
  . intro conn index item m r hitem hstamp hqueued hbarred t hruns
    have hdoomed : Doomed conn index item m r s := by
      refine ⟨hitem, ?_, ?_⟩
      . intro entry hentry
        have := (hs.2.written conn entry hentry).1
        omega
      . rcases hbarred with hgone | hclosing | ⟨agent, runtime, hconn, hruntime, hreport⟩
        . exact .gone hgone
        . exact .closing hclosing
        . refine .withdrawn hconn hruntime ?_
          rcases h.stamps.queued agent conn item m r hconn (List.mem_of_getElem? hitem) hstamp with
            ⟨reported, hreported, hle⟩
          rw [hruntime, Option.some.injEq] at hreported
          rw [← hreported] at hle
          rcases hreport with hauth | hne
          . by_cases hrevision : (runtime.report.get m).revision = r
            . exact .inr ⟨hrevision, hauth⟩
            . exact .inl (by omega)
          . exact .inl (by omega)
    exact ((Doomed.preserves hstamp).holds hs hdoomed hruns.always).unwritten

namespace Example

def filesGrant : Permissions.State :=
  Permissions.State.default.run [.localSet .files true]

def listDir : Json :=
  .object [("path", .string "/"), ("type", .string "ListDir")]

-- The command is enqueued under the first report.
def listed (reports : List Op) : List Op :=
  [ .register 1 true 2,
    .provideRoom (List.replicate 8 true),
    .moduleReport 1 2 (filesGrant.wire (fun _ => true)),
    .sendCommand 1 listDir,
    .finishSend 0 ] ++ reports

-- The grant is withdrawn and given again, or the module was not available for a while.
def regranted : List Op :=
  listed [
    .moduleReport 1 2 ((filesGrant.run [.localSet .files false]).wire (fun _ => true)),
    .moduleReport 1 2
      ((filesGrant.run [.localSet .files false, .localSet .files true]).wire (fun _ => true))
  ]

def unavailable : List Op :=
  listed [.moduleReport 1 2 (filesGrant.wire (fun m => m ≠ .files))]

def stampedList : Json :=
  listDir.setField "__module_generation" (generationStamp .files 1)

def listItem : Queued :=
  { control := .text stampedList, origin := .command }

theorem stamp_listItem : listItem.Stamp .files 1 :=
  ⟨stampedList, rfl, by decide⟩

end Example

-- Although the module is granted again, the command is not written.
theorem no_resurrection_regranted
    : ((AppState.init.run Example.regranted).sockets 2).sent[0]? = some Example.listItem
      ∧ ∀ t, Runs (AppState.init.run Example.regranted) t
        → ∀ entry ∈ (t.sockets 2).written, entry.1 ≠ 0 := by
  -- The facts about the run are one, so that it is evaluated once.
  have hrun : AppState.init.freshRun Example.regranted = true
      ∧ ((AppState.init.run Example.regranted).modules 1).any
        (fun runtime => (runtime.report.get .files).revision ≠ 1) = true
      ∧ ((AppState.init.run Example.regranted).sockets 2).sent[0]? = some Example.listItem
      ∧ ((AppState.init.run Example.regranted).sockets 2).taken ≤ 0
      ∧ (AppState.init.run Example.regranted).connId? 1 = some 2 := by
    decide +kernel
  rcases hrun with ⟨hfresh, hreport, hitem, htaken, hconn⟩
  rw [Option.any_eq_true] at hreport
  rcases hreport with ⟨runtime, hruntime, hrevision⟩
  refine ⟨hitem, ?_⟩
  apply (no_resurrection (AppState.reachable_run hfresh)).2 2 0 Example.listItem .files 1
  . exact hitem
  . exact Example.stamp_listItem
  . exact htaken
  . exact .inr (.inr ⟨1, runtime, hconn, hruntime, .inr (by simpa using hrevision)⟩)

/--
A report that shows the module as not available does not withdraw its grant: the command is written
once the module is available again.
-/
theorem unavailable_then_written
    : ¬ ∀ s, Reachable s → ∀ agent conn runtime index item m r, s.connId? agent = some conn
      → s.modules agent = some runtime → (s.sockets conn).sent[index]? = some item → item.Stamp m r
      → (s.sockets conn).taken ≤ index → (runtime.report.get m).granted = false
      → ∀ t, Runs s t → ∀ entry ∈ (t.sockets conn).written, entry.1 ≠ index := by
  intro h
  let later : List Op := [.moduleReport 1 2 (Example.filesGrant.wire (fun _ => true)), .deliver 2 0]
  have hrun : AppState.init.freshRun Example.unavailable = true
      ∧ ((AppState.init.run Example.unavailable).modules 1).any
        (fun runtime => !(runtime.report.get .files).granted) = true
      ∧ (AppState.init.run Example.unavailable).connId? 1 = some 2
      ∧ ((AppState.init.run Example.unavailable).sockets 2).sent[0]? = some Example.listItem
      ∧ ((AppState.init.run Example.unavailable).sockets 2).taken ≤ 0
      ∧ (AppState.init.run Example.unavailable).freshRun later = true
      ∧ (0, Example.stampedList)
        ∈ (((AppState.init.run Example.unavailable).run later).sockets 2).written := by
    decide +kernel
  rcases hrun with ⟨hfresh, hreport, hconn, hitem, htaken, hlater, hwritten⟩
  rw [Option.any_eq_true] at hreport
  rcases hreport with ⟨runtime, hruntime, hgranted⟩
  apply h _ (AppState.reachable_run hfresh) 1 2 runtime 0 Example.listItem .files 1 hconn hruntime hitem
    Example.stamp_listItem htaken (by simpa using hgranted) _ (AppState.runs_run hlater)
    (0, Example.stampedList) hwritten
  rfl

end Vantyr
