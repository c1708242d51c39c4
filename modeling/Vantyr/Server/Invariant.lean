import Vantyr.Server.Refinement.System

/-!
This module contains the rule by which the invariants of the server are proved: an invariant is
established for every action and for both ends of a delivery. It also contains the first of them, which
is about the queues on their own.
-/

namespace Vantyr

-- A step under a condition on the entries that are taken out of a queue.
def StepIf (C : AppState → Uuid → Queued → Prop) (s t : AppState) : Prop :=
  ∃ op,
    s.Fresh op
      ∧ (∀ conn now item, op = .deliver conn now →
        (s.sockets conn).sent[(s.sockets conn).taken]? = some item → C s conn item)
      ∧ t = s.exec op

def RunsIf (C : AppState → Uuid → Queued → Prop) : AppState → AppState → Prop :=
  Relation.ReflTransGen (StepIf C)

-- The condition that always holds.
def Always (_ : AppState) (_ : Uuid) (_ : Queued) : Prop :=
  True

theorem Runs.always {s t : AppState} (h : Runs s t) : RunsIf Always s t := by
  refine Relation.ReflTransGen.mono ?_ _ _ h
  intro s t hstep
  rcases hstep with ⟨op, hfresh, heq⟩
  exact ⟨op, hfresh, fun _ _ _ _ _ => trivial, heq⟩

theorem RunsIf.runs {C : AppState → Uuid → Queued → Prop} {s t : AppState} (h : RunsIf C s t)
    : Runs s t := by
  refine Relation.ReflTransGen.mono ?_ _ _ h
  intro s t hstep
  rcases hstep with ⟨op, hfresh, _, heq⟩
  exact ⟨op, hfresh, heq⟩

/--
`I` holds after an action or a delivery if it held before, where `B` is known to hold as well.
-/
structure Preserves (B : AppState → Prop) (C : AppState → Uuid → Queued → Prop)
    (I : AppState → Prop) : Prop where
  same : ∀ {s t}, B s → I s → SameCore s t → I t
  effect : ∀ {P s t}, B s → I s → Effect P s t → I t
  drop : ∀ {s conn item}, B s → I s →
    (s.sockets conn).sent[(s.sockets conn).taken]? = some item → C s conn item →
    s.deliverable conn item = false
      ∨ (∃ cmd, item.control = .text cmd
        ∧ (cmd.kind = "ClipboardRead" ∨ cmd.kind = "ClipboardWrite")) →
    I (s.take conn)
  write : ∀ {s conn item}, B s → I s →
    (s.sockets conn).sent[(s.sockets conn).taken]? = some item → s.deliverable conn item = true →
    I ((s.take conn).write conn (s.sockets conn).taken item.control.command)

namespace Preserves

variable {B I : AppState → Prop} {C : AppState → Uuid → Queued → Prop}

theorem and (hB : Preserves (fun _ => True) C B) (hI : Preserves B C I)
    : Preserves (fun _ => True) C (fun s => B s ∧ I s) where
  same := by
    intro s t _ h hsame
    exact ⟨hB.same trivial h.1 hsame, hI.same h.1 h.2 hsame⟩
  effect := by
    intro P s t _ h heffect
    exact ⟨hB.effect trivial h.1 heffect, hI.effect h.1 h.2 heffect⟩
  drop := by
    intro s conn item _ h hitem hC hdenied
    exact ⟨hB.drop trivial h.1 hitem hC hdenied, hI.drop h.1 h.2 hitem hC hdenied⟩
  write := by
    intro s conn item _ h hitem hdeliverable
    exact ⟨hB.write trivial h.1 hitem hdeliverable, hI.write h.1 h.2 hitem hdeliverable⟩

theorem acts {P : Uuid → Queued → Prop} {s t : AppState} (h : Preserves (fun _ => True) C I)
    (hs : I s) (hacts : Acts P s t) : I t := by
  induction hacts with
  | refl => exact hs
  | tail _ hmicro ih =>
    cases hmicro with
    | same hsame => exact h.same trivial ih hsame
    | effect heffect => exact h.effect trivial ih heffect

theorem step {s t : AppState} (h : Preserves (fun _ => True) C I) (hcoherent : Coherent s)
    (hs : I s) (hstep : StepIf C s t) : I t := by
  rcases hstep with ⟨op, hfresh, hC, heq⟩
  subst heq
  by_cases hop : ∀ conn now, op ≠ .deliver conn now
  . exact h.acts hs (AppState.acts_exec hcoherent hfresh hop)
  . simp only [not_forall, not_not] at hop
    rcases hop with ⟨conn, now, hop⟩
    subst hop
    have hdelivery := AppState.delivery hcoherent (releasable_placed s (.deliver conn now)) conn now
    change I (s.deliver conn now)
    generalize s.deliver conn now = t at hdelivery
    cases hdelivery with
    | idle => exact hs
    | drop hitem hdenied hacts =>
      exact h.acts (h.drop trivial hs hitem (hC conn now _ rfl hitem) hdenied) hacts
    | write hitem hdeliverable => exact h.write trivial hs hitem hdeliverable

theorem runs {s t : AppState} (h : Preserves (fun _ => True) C I)
    (hcoherent : ∀ s, I s → Coherent s) (hs : I s) (hruns : RunsIf C s t) : I t := by
  induction hruns with
  | refl => exact hs
  | tail _ hstep ih => exact h.step (hcoherent _ ih) ih hstep

end Preserves

theorem Coherent.preserves (C : AppState → Uuid → Queued → Prop)
    : Preserves (fun _ => True) C Coherent where
  same := by
    intro s t _ h hsame
    exact h.same hsame
  effect := by
    intro P s t _ h heffect
    exact h.effect heffect
  drop := by
    intro s conn item _ h _ _ _
    exact h.take conn
  write := by
    intro s conn item _ h _ _
    exact (h.take conn).modifySocket rfl

/-!
What an action does to a socket.
-/

inductive SocketChange (P : Uuid → Queued → Prop) (s t : AppState) (conn : Uuid) : Prop where
  | new (agent : Uuid) (hfresh : conn ∉ s.minted) (hminted : conn ∈ t.minted)
      (heq : t.sockets conn = Socket.new agent)
  | grow (items : List Queued) (shutdown : Option String)
      (heq : t.sockets conn = {
        s.sockets conn with sent := (s.sockets conn).sent ++ items, shutdown
      })
      (hshutdown : shutdown = (s.sockets conn).shutdown ∨ shutdown.isSome = true)
      (hP : ∀ item ∈ items, P conn item)
      (hconn : items = [] ∧ shutdown = (s.sockets conn).shutdown
        ∨ ∃ agent, s.connId? agent = some conn)

namespace SocketChange

variable {P : Uuid → Queued → Prop} {s t : AppState} {conn other : Uuid}

theorem of_eq (h : t.sockets conn = s.sockets conn) : SocketChange P s t conn := by
  apply SocketChange.grow [] (s.sockets conn).shutdown
  . simpa using h
  . exact Or.inl rfl
  . simp
  . exact Or.inl ⟨rfl, rfl⟩

theorem pushed {agent : Uuid} {item : Queued} (hconn : s.connId? agent = some conn)
    (hP : P conn item) (h : t.sockets = (s.push conn item).sockets) : SocketChange P s t other := by
  simp only [AppState.push, AppState.modifySocket] at h
  by_cases hother : other = conn
  . subst hother
    apply SocketChange.grow [item] (s.sockets other).shutdown
    . rw [h, Function.update_self]
    . exact Or.inl rfl
    . intro new hnew
      rw [List.mem_singleton] at hnew
      rw [hnew]
      exact hP
    . exact Or.inr ⟨agent, hconn⟩
  . apply SocketChange.of_eq
    rw [h, Function.update_of_ne hother]

theorem closed {agent : Uuid} {reason : String} (hconn : s.connId? agent = some conn)
    (h : t.sockets conn = { s.sockets conn with shutdown := some reason })
    : SocketChange P s t conn := by
  apply SocketChange.grow [] (some reason)
  . simpa using h
  . exact Or.inr rfl
  . simp
  . exact Or.inr ⟨agent, hconn⟩

theorem shutdown {agent : Uuid} {reason : String} (hconn : s.connId? agent = some conn)
    (h : t.sockets = (s.shutdown conn reason).sockets) : SocketChange P s t other := by
  simp only [AppState.shutdown, AppState.modifySocket] at h
  by_cases hother : other = conn
  . subst hother
    apply SocketChange.closed hconn
    rw [h, Function.update_self]
  . apply SocketChange.of_eq
    rw [h, Function.update_of_ne hother]

theorem ended {agent : Uuid} {lease : Lease} {reason : TeardownReason} {count : Nat}
    (hs : Coherent s) (hlease : s.sessions.lookup agent = some lease)
    (hP : ∀ item ∈ AppState.releaseItems lease.grant.owner.agentConnectionId lease.grant.token
      lease.held.drain, P lease.grant.owner.agentConnectionId item)
    : SocketChange P s (s.endLease agent lease reason count) other := by
  by_cases hother : other = lease.grant.owner.agentConnectionId
  . subst hother
    apply SocketChange.grow
    . simp only [AppState.endLease, Function.update_self]
      rfl
    . split
      . exact Or.inr rfl
      . exact Or.inl rfl
    . intro item hitem
      apply hP
      simp only [AppState.releaseItems, List.mem_map] at hitem ⊢
      rcases hitem with ⟨command, hcommand, heq⟩
      exact ⟨command, List.mem_of_mem_take hcommand, heq⟩
    . exact Or.inr ⟨agent, hs.lease agent lease hlease⟩
  . apply SocketChange.of_eq
    simp only [AppState.endLease, Function.update_of_ne hother]

end SocketChange

theorem Effect.socket {P : Uuid → Queued → Prop} {s t : AppState} (hs : Coherent s)
    (h : Effect P s t) (conn : Uuid) : SocketChange P s t conn := by
  cases h with
  | endLease reason count hlease hP => exact .ended hs hlease hP
  | input hlease hopen hkind hauth htrack hP =>
    exact .pushed (AppState.connId?_of_openConn? hopen).1 hP rfl
  | lost held hlease => exact .shutdown (hs.lease _ _ hlease) rfl
  | grant hlease hopen hheld hfresh hfrozen =>
    apply SocketChange.of_eq
    simp only [AppState.grantLease, AppState.commitControlCapture_sockets]
  | renew expiresAt hlease => exact .of_eq rfl
  | push hopen hordinary hstamp hP =>
    exact .pushed (AppState.connId?_of_openConn? hopen).1 hP rfl
  | close hconn => exact .shutdown hconn rfl
  | start hopen hauth hnil hfresh hfrozen hP =>
    exact .pushed (AppState.connId?_of_openConn? hopen).1 hP rfl
  | stop hopen hauth hP => exact .pushed (AppState.connId?_of_openConn? hopen).1 hP rfl
  | dropActive hclosing => exact .of_eq rfl
  | openSession hsession hconn => exact .of_eq rfl
  | dropSession hfree => exact .of_eq rfl
  | publish hconn hfollows => exact .of_eq rfl
  | register historyKnown hlease hfresh =>
    have hspec := hs.registerConnection_spec hlease hfresh historyKnown
    have hsocket := hspec.sockets conn
    split at hsocket
    . next heq =>
      subst heq
      apply SocketChange.new _ hfresh _ hsocket
      rw [hspec.minted]
      exact List.mem_cons_self
    . split at hsocket
      . next hold => exact .closed hold hsocket
      . exact .of_eq hsocket
  | unregister reason hconn hlease =>
    have hsocket := (hs.unregister_spec hconn reason).sockets conn
    split at hsocket
    . next heq =>
      subst heq
      cases reason with
      | none => exact .of_eq hsocket
      | some reason => exact .closed hconn hsocket
    . exact .of_eq hsocket
  | launch hconn hplain hstamp => exact .of_eq rfl

theorem Effect.minted {P : Uuid → Queued → Prop} {s t : AppState} (hs : Coherent s)
    (h : Effect P s t) : s.minted ⊆ t.minted := by
  cases h with
  | grant hlease hopen hheld hfresh hfrozen =>
    simp [AppState.grantLease]
  | start hopen hauth hnil hfresh hfrozen hP =>
    exact List.subset_cons_self _ _
  | register historyKnown hlease hfresh =>
    rw [(hs.registerConnection_spec hlease hfresh historyKnown).minted]
    exact List.subset_cons_self _ _
  | unregister reason hconn hlease =>
    rw [(hs.unregister_spec hconn reason).minted]
    exact List.Subset.refl _
  | _ => exact List.Subset.refl _

-- A connection id is registered once.
theorem Effect.connId? {P : Uuid → Queued → Prop} {s t : AppState} {agent conn : Uuid}
    (hs : Coherent s) (h : Effect P s t) (hconn : t.connId? agent = some conn)
    : s.connId? agent = some conn ∨ conn ∉ s.minted := by
  cases h with
  | grant hlease hopen hheld hfresh hfrozen =>
    simp only [AppState.connId?, AppState.grantLease, AppState.commitControlCapture_connections]
      at hconn
    exact Or.inl hconn
  | register historyKnown hlease hfresh =>
    rw [(hs.registerConnection_spec hlease hfresh historyKnown).connId?] at hconn
    split at hconn
    . cases hconn
      exact Or.inr hfresh
    . exact Or.inl hconn
  | unregister reason hconn' hlease =>
    rw [(hs.unregister_spec hconn' reason).connId?] at hconn
    split at hconn
    . contradiction
    . exact Or.inl hconn
  | _ => exact Or.inl hconn

/-!
What a delivery does to a socket.
-/

theorem AppState.sockets_take (s : AppState) (conn other : Uuid)
    : (s.take conn).sockets other
        = if other = conn then { s.sockets conn with taken := (s.sockets conn).taken + 1 }
          else s.sockets other := by
  simp only [take, modifySocket, Function.update_apply]

theorem AppState.sockets_write (s : AppState) (conn other : Uuid) (position : Nat) (command : Json)
    : ((s.take conn).write conn position command).sockets other
        = if other = conn then {
            s.sockets conn with
            taken := (s.sockets conn).taken + 1
            written := (s.sockets conn).written ++ [(position, command)]
          }
          else s.sockets other := by
  simp only [write, take, modifySocket, Function.update_apply, ↓reduceIte]
  split <;> rfl

/-!
The queues. Entries are taken out in order, and what is written is what was sent.
-/

structure Queues (s : AppState) : Prop where
  taken : ∀ conn, (s.sockets conn).taken ≤ (s.sockets conn).sent.length
  written : ∀ conn, ∀ entry ∈ (s.sockets conn).written,
    entry.1 < (s.sockets conn).taken
      ∧ ∃ item, (s.sockets conn).sent[entry.1]? = some item ∧ item.control.command = entry.2
  unused : ∀ conn, conn ∉ s.minted → (s.sockets conn).sent = [] ∧ (s.sockets conn).shutdown = none

namespace Queues

theorem change {P : Uuid → Queued → Prop} {s t : AppState} (h : Queues s) (hs : Coherent s)
    (hminted : s.minted ⊆ t.minted) (hsocket : ∀ conn, SocketChange P s t conn) : Queues t where
  taken := by
    intro conn
    have := h.taken conn
    cases hsocket conn with
    | new agent hfresh hmem heq => simp [heq, Socket.new]
    | grow items shutdown heq hshutdown hP hconn =>
      simp only [heq, List.length_append]
      omega
  written := by
    intro conn entry hentry
    cases hsocket conn with
    | new agent hfresh hmem heq => simp [heq, Socket.new] at hentry
    | grow items shutdown heq hshutdown hP hconn =>
      simp only [heq] at hentry ⊢
      rcases h.written conn entry hentry with ⟨hlt, item, hitem, hcommand⟩
      refine ⟨hlt, item, ?_, hcommand⟩
      have := h.taken conn
      rw [List.getElem?_append_left (by omega)]
      exact hitem
  unused := by
    intro conn hconn
    have hnot : conn ∉ s.minted := fun hmem => hconn (hminted hmem)
    cases hsocket conn with
    | new agent hfresh hmem heq => contradiction
    | grow items shutdown heq hshutdown hP hregistered =>
      rcases hregistered with ⟨hitems, hsame⟩ | ⟨agent, hagent⟩
      . simp only [heq, hitems, hsame, List.append_nil]
        exact h.unused conn hnot
      . exact absurd (hs.minted agent conn hagent) hnot

theorem same {s t : AppState} (h : Queues s) (hsame : SameCore s t) : Queues t where
  taken := by
    rw [hsame.sockets]
    exact h.taken
  written := by
    rw [hsame.sockets]
    exact h.written
  unused := by
    intro conn hconn
    rw [hsame.sockets]
    exact h.unused conn (fun hmem => hconn (hsame.minted hmem))

section Delivered

variable {s : AppState} {conn : Uuid} {item : Queued} (h : Queues s)
  (hitem : (s.sockets conn).sent[(s.sockets conn).taken]? = some item)

include h hitem

theorem take : Queues (s.take conn) where
  taken := by
    intro other
    have := h.taken other
    rw [s.sockets_take]
    split
    . exact (List.getElem?_eq_some_iff.mp hitem).1
    . exact this
  written := by
    intro other entry hentry
    rw [s.sockets_take] at hentry ⊢
    split at hentry
    . next heq =>
      rw [if_pos heq]
      have := h.written conn entry hentry
      exact ⟨Nat.lt_succ_of_lt this.1, this.2⟩
    . next hne =>
      rw [if_neg hne]
      exact h.written other entry hentry
  unused := by
    intro other hother
    have := h.unused other hother
    rw [s.sockets_take]
    split
    . next heq =>
      subst heq
      exact this
    . exact this

theorem write : Queues ((s.take conn).write conn (s.sockets conn).taken item.control.command) where
  taken := by
    intro other
    have := h.taken other
    rw [s.sockets_write]
    split
    . exact (List.getElem?_eq_some_iff.mp hitem).1
    . exact this
  written := by
    intro other entry hentry
    rw [s.sockets_write] at hentry ⊢
    split at hentry
    . next heq =>
      rw [if_pos heq]
      simp only [List.mem_append, List.mem_singleton] at hentry
      rcases hentry with hold | hnew
      . have := h.written conn entry hold
        exact ⟨Nat.lt_succ_of_lt this.1, this.2⟩
      . subst hnew
        exact ⟨by simp, item, hitem, rfl⟩
    . next hne =>
      rw [if_neg hne]
      exact h.written other entry hentry
  unused := by
    intro other hother
    have := h.unused other hother
    rw [s.sockets_write]
    split
    . next heq =>
      subst heq
      exact this
    . exact this

end Delivered

theorem preserves (C : AppState → Uuid → Queued → Prop) : Preserves Coherent C Queues where
  same := by
    intro s t _ h hsame
    exact h.same hsame
  effect := by
    intro P s t hs h heffect
    exact h.change hs (heffect.minted hs) (heffect.socket hs)
  drop := by
    intro s conn item _ h hitem _ _
    exact h.take hitem
  write := by
    intro s conn item _ h hitem _
    exact h.write hitem

theorem init : Queues AppState.init := by
  constructor <;> simp [AppState.init, Socket.new]

end Queues

-- What later invariants build on.
def Sound (s : AppState) : Prop :=
  Coherent s ∧ Queues s

theorem Sound.preserves (C : AppState → Uuid → Queued → Prop)
    : Preserves (fun _ => True) C Sound :=
  (Coherent.preserves C).and (Queues.preserves C)

theorem Sound.init : Sound AppState.init :=
  ⟨Coherent.init, Queues.init⟩

theorem Sound.runs {s t : AppState} (hs : Sound s) (h : Runs s t) : Sound t :=
  (Sound.preserves Always).runs (fun _ h => h.1) hs h.always

theorem Reachable.sound {s : AppState} (h : Reachable s) : Sound s :=
  Sound.init.runs h

/--
An invariant that builds on `Sound` holds in every state of a run if it holds in its first one.
-/
theorem Preserves.holds {C : AppState → Uuid → Queued → Prop} {I : AppState → Prop} {s t : AppState}
    (h : Preserves Sound C I) (hs : Sound s) (hI : I s) (hruns : RunsIf C s t) : I t :=
  (((Sound.preserves C).and h).runs (fun _ h => h.1.1) ⟨hs, hI⟩ hruns).2

namespace AppState

-- A run with fresh ids whose deliveries all pass a check.
def checkedRun (check : AppState → Uuid → Queued → Bool) (s : AppState) : List Op → Bool
  | [] => true
  | op :: ops =>
    s.isFresh op
      && (match op with
        | .deliver conn _ => ((s.sockets conn).sent[(s.sockets conn).taken]?).all (check s conn)
        | _ => true)
      && (s.exec op).checkedRun check ops

theorem runsIf_run {C : AppState → Uuid → Queued → Prop} {check : AppState → Uuid → Queued → Bool}
    (hC : ∀ s conn item, Sound s → check s conn item = true → C s conn item) {s : AppState}
    (hs : Sound s) {ops : List Op} (h : s.checkedRun check ops = true)
    : RunsIf C s (s.run ops) := by
  induction ops generalizing s with
  | nil => exact Relation.ReflTransGen.refl
  | cons op ops ih =>
    simp only [checkedRun, Bool.and_eq_true] at h
    have hfresh := (s.isFresh_iff op).mp h.1.1
    have hnext : Sound (s.exec op) := hs.runs (Relation.ReflTransGen.single ⟨op, hfresh, rfl⟩)
    apply Relation.ReflTransGen.head _ (ih hnext h.2)
    refine ⟨op, hfresh, ?_, rfl⟩
    intro conn now item hop hitem
    subst hop
    have hcheck := h.1.2
    simp only [hitem, Option.all_some] at hcheck
    exact hC s conn item hs hcheck

end AppState

end Vantyr
