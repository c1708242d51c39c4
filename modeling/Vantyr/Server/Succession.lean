import Vantyr.Server.Registry

/-!
This module proves that the leases on one connection do not get into each other's way: what a lease
held is released in the queue before the next one is granted, or the connection is closing and nothing
is granted on it any more.
-/

namespace Vantyr

def Queued.isInput (item : Queued) (token : Uuid) : Prop :=
  item.origin = .input token

/--
The releases of a lease that ended are in the queue, behind all of its input. If some are missing the
connection is closing.
-/
structure Ended (s : AppState) (g : GrantRecord) (c : LeaseCleanup) (before after : List Queued)
    (count : Nat) : Prop where
  cleaned : c ∈ s.cleanups
  token : c.token = g.token
  sent : (s.sockets g.connId).sent
    = before ++ AppState.releaseItems g.connId g.token (c.commands.take count) ++ after
  silent : ∀ item ∈ after, ¬ item.isInput g.token
  rest : c.commands.length ≤ count ∨ s.closing g.connId = true

theorem Ended.full {s : AppState} {g : GrantRecord} {c : LeaseCleanup} {before after : List Queued}
    {count : Nat} (h : Ended s g c before after count) (hle : c.commands.length ≤ count)
    : Ended s g c before after c.commands.length where
  cleaned := h.cleaned
  token := h.token
  sent := by
    have := h.sent
    rw [List.take_of_length_le hle] at this
    rw [this, List.take_of_length_le (Nat.le_refl _)]
  silent := h.silent
  rest := Or.inl (Nat.le_refl _)

structure Succession (s : AppState) : Prop where
  granted : ∀ g ∈ s.grants, g.token ∈ s.minted
  cleaned : ∀ c ∈ s.cleanups, c.token ∈ s.minted
  nodup : (s.grants.map GrantRecord.token).Nodup
  input : ∀ conn, ∀ item ∈ (s.sockets conn).sent, ∀ token, item.isInput token →
    ∃ g ∈ s.grants, g.token = token ∧ g.connId = conn
  start : ∀ g ∈ s.grants, g.start ≤ (s.sockets g.connId).sent.length
    ∧ ∀ item ∈ (s.sockets g.connId).sent.take g.start, ¬ item.isInput g.token
  live : ∀ agent lease, s.sessions.lookup agent = some lease →
    ∃ g ∈ s.grants, g.token = lease.grant.token ∧ g.connId = lease.grant.owner.agentConnectionId
  uncleaned : ∀ agent lease, s.sessions.lookup agent = some lease →
    ∀ c ∈ s.cleanups, c.token ≠ lease.grant.token
  distinct : ∀ a b la lb, s.sessions.lookup a = some la → s.sessions.lookup b = some lb →
    la.grant.token = lb.grant.token → a = b
  ended : ∀ g ∈ s.grants,
    (∃ agent lease, s.sessions.lookup agent = some lease ∧ lease.grant.token = g.token)
      ∨ ∃ c before after count, Ended s g c before after count
  order : s.grants.Pairwise (fun g₁ g₂ => g₁.connId = g₂.connId →
    ∃ c before after, Ended s g₁ c before after c.commands.length
      ∧ before.length + c.commands.length ≤ g₂.start)

namespace AppState

-- The token and the owner of a lease, which do not change while it lasts.
def leaseKey (s : AppState) (agent : Uuid) : Option (Uuid × LeaseOwner) :=
  (s.sessions.lookup agent).map (fun lease => (lease.grant.token, lease.grant.owner))

theorem leaseKey_eq {s t : AppState} (h : ∀ agent, t.leaseKey agent = s.leaseKey agent)
    {agent : Uuid} {lease : Lease} (hlease : t.sessions.lookup agent = some lease)
    : ∃ old, s.sessions.lookup agent = some old
        ∧ old.grant.token = lease.grant.token
        ∧ old.grant.owner = lease.grant.owner := by
  have := h agent
  simp only [leaseKey, hlease, Option.map_some] at this
  have := this.symm
  rw [Option.map_eq_some_iff] at this
  rcases this with ⟨old, hold, heq⟩
  simp only [Prod.mk.injEq] at heq
  exact ⟨old, hold, heq.1, heq.2⟩

end AppState

/--
An action that neither grants nor ends a lease, and places no input.
-/
structure Quiet (s t : AppState) : Prop where
  grants : t.grants = s.grants
  cleanups : t.cleanups = s.cleanups
  minted : s.minted ⊆ t.minted
  leases : ∀ agent, t.leaseKey agent = s.leaseKey agent
  sockets : ∀ conn, ∃ items, (t.sockets conn).sent = (s.sockets conn).sent ++ items
    ∧ ∀ item ∈ items, item.origin = .command
  closing : ∀ conn, s.closing conn = true → t.closing conn = true

namespace Succession

variable {s t : AppState}

theorem ended_grow {g : GrantRecord} {c : LeaseCleanup} {before after items : List Queued}
    {count : Nat} (h : Ended s g c before after count) (hcleanups : c ∈ t.cleanups)
    (hsent : (t.sockets g.connId).sent = (s.sockets g.connId).sent ++ items)
    (hitems : ∀ item ∈ items, ¬ item.isInput g.token)
    (hclosing : s.closing g.connId = true → t.closing g.connId = true)
    : Ended t g c before (after ++ items) count where
  cleaned := hcleanups
  token := h.token
  sent := by
    rw [hsent, h.sent, List.append_assoc]
  silent := by
    intro item hitem
    rw [List.mem_append] at hitem
    cases hitem with
    | inl hold => exact h.silent item hold
    | inr hnew => exact hitems item hnew
  rest := h.rest.imp id hclosing

-- What stays true of the grants as long as the queues only grow.
theorem start_grow {g : GrantRecord} {items : List Queued}
    (h : g.start ≤ (s.sockets g.connId).sent.length
      ∧ ∀ item ∈ (s.sockets g.connId).sent.take g.start, ¬ item.isInput g.token)
    (hsent : (t.sockets g.connId).sent = (s.sockets g.connId).sent ++ items)
    : g.start ≤ (t.sockets g.connId).sent.length
      ∧ ∀ item ∈ (t.sockets g.connId).sent.take g.start, ¬ item.isInput g.token := by
  rw [hsent, List.take_append_of_le_length h.1]
  refine ⟨?_, h.2⟩
  rw [List.length_append]
  exact h.1.trans (Nat.le_add_right _ _)

theorem command_not_input {item : Queued} (h : item.origin = .command) (token : Uuid)
    : ¬ item.isInput token := by
  unfold Queued.isInput
  rw [h]
  exact Origin.noConfusion

theorem quiet (h : Succession s) (hq : Quiet s t) : Succession t where
  granted := by
    rw [hq.grants]
    intro g hg
    exact hq.minted (h.granted g hg)
  cleaned := by
    rw [hq.cleanups]
    intro c hc
    exact hq.minted (h.cleaned c hc)
  nodup := by
    rw [hq.grants]
    exact h.nodup
  input := by
    intro conn item hitem token hinput
    rcases hq.sockets conn with ⟨items, hsent, hitems⟩
    rw [hsent, List.mem_append] at hitem
    rw [hq.grants]
    cases hitem with
    | inl hold => exact h.input conn item hold token hinput
    | inr hnew => exact absurd hinput (command_not_input (hitems item hnew) token)
  start := by
    rw [hq.grants]
    intro g hg
    rcases hq.sockets g.connId with ⟨items, hsent, _⟩
    exact start_grow (h.start g hg) hsent
  live := by
    intro agent lease hlease
    rcases AppState.leaseKey_eq hq.leases hlease with ⟨old, hold, htoken, howner⟩
    rw [hq.grants, ← htoken, ← howner]
    exact h.live agent old hold
  uncleaned := by
    intro agent lease hlease
    rcases AppState.leaseKey_eq hq.leases hlease with ⟨old, hold, htoken, _⟩
    rw [hq.cleanups, ← htoken]
    exact h.uncleaned agent old hold
  distinct := by
    intro a b la lb ha hb heq
    rcases AppState.leaseKey_eq hq.leases ha with ⟨oa, hoa, hta, _⟩
    rcases AppState.leaseKey_eq hq.leases hb with ⟨ob, hob, htb, _⟩
    rw [← hta, ← htb] at heq
    exact h.distinct a b oa ob hoa hob heq
  ended := by
    rw [hq.grants]
    intro g hg
    rcases h.ended g hg with ⟨agent, lease, hlease, htoken⟩ | ⟨c, before, after, count, hended⟩
    . have hback : ∀ agent, s.leaseKey agent = t.leaseKey agent := fun agent =>
        (hq.leases agent).symm
      rcases AppState.leaseKey_eq hback hlease with ⟨new, hnew, htoken', _⟩
      exact Or.inl ⟨agent, new, hnew, htoken'.trans htoken⟩
    . rcases hq.sockets g.connId with ⟨items, hsent, hitems⟩
      refine Or.inr ⟨c, before, after ++ items, count, ended_grow hended ?_ hsent ?_ ?_⟩
      . rw [hq.cleanups]
        exact hended.cleaned
      . intro item hitem
        exact command_not_input (hitems item hitem) _
      . exact hq.closing _
  order := by
    rw [hq.grants]
    apply h.order.imp
    intro g₁ g₂ hpair hconn
    rcases hpair hconn with ⟨c, before, after, hended, hle⟩
    rcases hq.sockets g₁.connId with ⟨items, hsent, hitems⟩
    refine ⟨c, before, after ++ items, ended_grow hended ?_ hsent ?_ ?_, hle⟩
    . rw [hq.cleanups]
      exact hended.cleaned
    . intro item hitem
      exact command_not_input (hitems item hitem) _
    . exact hq.closing _

/-!
The actions on leases.
-/

theorem eq_of_token (h : Succession s) {g g' : GrantRecord} (hg : g ∈ s.grants)
    (hg' : g' ∈ s.grants) (htoken : g.token = g'.token) : g = g' :=
  List.inj_on_of_nodup_map h.nodup hg hg' htoken

theorem release_not_input {conn token : Uuid} {commands : List Json} {item : Queued}
    (h : item ∈ AppState.releaseItems conn token commands) (other : Uuid)
    : ¬ item.isInput other := by
  simp only [AppState.releaseItems, List.mem_map] at h
  rcases h with ⟨command, _, heq⟩
  subst heq
  exact Origin.noConfusion

theorem endLease {agent : Uuid} {lease : Lease} (h : Succession s)
    (hlease : s.sessions.lookup agent = some lease) (hminted : lease.grant.token ∈ s.minted)
    (reason : TeardownReason) (count : Nat) : Succession (s.endLease agent lease reason count) := by
  generalize hconn : lease.grant.owner.agentConnectionId = conn
  generalize hitems : AppState.releaseItems conn lease.grant.token (lease.held.drain.take count)
    = items
  generalize ht : s.endLease agent lease reason count = t
  have hgrants : t.grants = s.grants := by rw [← ht]; rfl
  have hcleanups : t.cleanups
      = s.cleanups ++ [ControlSessions.cleanup agent reason lease] := by rw [← ht]; rfl
  have hmint : t.minted = s.minted := by rw [← ht]; rfl
  have hlookup : ∀ other, t.sessions.lookup other
      = if other = agent then none else s.sessions.lookup other := by
    intro other
    rw [← ht]
    exact Table.lookup_erase_eq _ _ _
  have hsocket : t.sockets conn = {
      s.sockets conn with
      sent := (s.sockets conn).sent ++ items
      shutdown := if count < lease.held.drain.length then some "" else (s.sockets conn).shutdown
    } := by
    rw [← ht, ← hitems, ← hconn]
    simp only [AppState.endLease, Function.update_self]
  have hother : ∀ other, other ≠ conn → t.sockets other = s.sockets other := by
    intro other hne
    rw [← hconn] at hne
    rw [← ht]
    simp only [AppState.endLease, Function.update_of_ne hne]
  have hgrow : ∀ other, ∃ more, (t.sockets other).sent = (s.sockets other).sent ++ more
      ∧ ∀ item ∈ more, item ∈ items := by
    intro other
    by_cases hne : other = conn
    . subst hne
      exact ⟨items, by rw [hsocket], fun _ h => h⟩
    . exact ⟨[], by rw [hother other hne]; simp, by simp⟩
  have hclosing : ∀ other, s.closing other = true → t.closing other = true := by
    intro other hclosed
    unfold AppState.closing at hclosed ⊢
    by_cases hne : other = conn
    . subst hne
      rw [hsocket]
      simp only
      split
      . rfl
      . exact hclosed
    . rw [hother other hne]
      exact hclosed
  have hsilent : ∀ item ∈ items, ∀ token, ¬ item.isInput token := by
    intro item hitem token
    rw [← hitems] at hitem
    exact release_not_input hitem token
  exact {
    granted := by
      rw [hgrants, hmint]
      exact h.granted
    cleaned := by
      rw [hcleanups, hmint]
      intro c hc
      rw [List.mem_append, List.mem_singleton] at hc
      cases hc with
      | inl hold => exact h.cleaned c hold
      | inr hnew =>
        rw [hnew]
        exact hminted
    nodup := by
      rw [hgrants]
      exact h.nodup
    input := by
      intro other item hitem token hinput
      rcases hgrow other with ⟨more, hsent, hmore⟩
      rw [hsent, List.mem_append] at hitem
      rw [hgrants]
      cases hitem with
      | inl hold => exact h.input other item hold token hinput
      | inr hnew => exact absurd hinput (hsilent item (hmore item hnew) token)
    start := by
      rw [hgrants]
      intro g hg
      rcases hgrow g.connId with ⟨more, hsent, _⟩
      exact start_grow (h.start g hg) hsent
    live := by
      intro other l hl
      rw [hlookup] at hl
      rw [hgrants]
      split at hl
      . contradiction
      . exact h.live other l hl
    uncleaned := by
      intro other l hl c hc
      rw [hlookup] at hl
      split at hl
      . contradiction
      . next hne =>
        rw [hcleanups, List.mem_append, List.mem_singleton] at hc
        cases hc with
        | inl hold => exact h.uncleaned other l hl c hold
        | inr hnew =>
          rw [hnew]
          intro htoken
          exact hne (h.distinct agent other lease l hlease hl htoken).symm
    distinct := by
      intro a b la lb ha hb
      rw [hlookup] at ha hb
      split at ha
      . contradiction
      . split at hb
        . contradiction
        . exact h.distinct a b la lb ha hb
    ended := by
      rw [hgrants]
      intro g hg
      by_cases htoken : g.token = lease.grant.token
      . -- The lease that just ended: its releases are the last entries of the queue.
        apply Or.inr
        rcases h.live agent lease hlease with ⟨g', hg', htoken', hconn'⟩
        have heq := h.eq_of_token hg hg' (htoken.trans htoken'.symm)
        subst heq
        rw [hconn] at hconn'
        refine ⟨ControlSessions.cleanup agent reason lease, (s.sockets conn).sent, [], count, ?_⟩
        constructor
        . rw [hcleanups]
          simp
        . exact htoken.symm
        . rw [hconn', hsocket, htoken, ← hitems]
          simp [ControlSessions.cleanup]
        . simp
        . rw [hconn']
          simp only [AppState.closing, hsocket, ControlSessions.cleanup]
          by_cases hcount : count < lease.held.drain.length
          . simp [hcount]
          . exact Or.inl (by omega)
      . rcases h.ended g hg with ⟨other, l, hl, hl'⟩ | ⟨c, before, after, n, hended⟩
        . refine Or.inl ⟨other, l, ?_, hl'⟩
          rw [hlookup, if_neg]
          . exact hl
          . intro heq
            subst heq
            rw [hlease] at hl
            cases hl
            exact htoken hl'.symm
        . rcases hgrow g.connId with ⟨more, hsent, hmore⟩
          refine Or.inr ⟨c, before, after ++ more, n, ended_grow hended ?_ hsent ?_ ?_⟩
          . rw [hcleanups]
            exact List.mem_append_left _ hended.cleaned
          . intro item hitem
            exact hsilent item (hmore item hitem) _
          . exact hclosing _
    order := by
      rw [hgrants]
      apply h.order.imp
      intro g₁ g₂ hpair heq
      rcases hpair heq with ⟨c, before, after, hended, hle⟩
      rcases hgrow g₁.connId with ⟨more, hsent, hmore⟩
      refine ⟨c, before, after ++ more, ended_grow hended ?_ hsent ?_ ?_, hle⟩
      . rw [hcleanups]
        exact List.mem_append_left _ hended.cleaned
      . intro item hitem
        exact hsilent item (hmore item hitem) _
      . exact hclosing _
  }

theorem leaseKey_setLease {agent : Uuid} {lease new : Lease}
    (hlease : s.sessions.lookup agent = some lease) (htoken : new.grant.token = lease.grant.token)
    (howner : new.grant.owner = lease.grant.owner) (other : Uuid)
    : (s.setLease agent new).leaseKey other = s.leaseKey other := by
  simp only [AppState.leaseKey, AppState.setLease, Table.lookup_insert_eq]
  split
  . next heq =>
    subst heq
    simp [hlease, htoken, howner]
  . rfl

theorem pushed_sent (s : AppState) (conn other : Uuid) (item : Queued)
    : ((s.push conn item).sockets other).sent
        = (s.sockets other).sent ++ if other = conn then [item] else [] := by
  simp only [AppState.push, AppState.modifySocket, Function.update_apply]
  split
  . next heq => rw [heq]
  . simp

theorem pushed_closing (s : AppState) (conn other : Uuid) (item : Queued)
    : (s.push conn item).closing other = s.closing other := by
  simp only [AppState.closing, AppState.push, AppState.modifySocket, Function.update_apply]
  split
  . next heq => rw [heq]
  . rfl

-- Input goes behind everything that was released before.
theorem input_effect {agent : Uuid} {lease : Lease} {held : HeldInput} {authorized : Json}
    (h : Succession s) (hlease : s.sessions.lookup agent = some lease)
    : Succession ((s.setLease agent { lease with held }).push lease.grant.owner.agentConnectionId
        { control := .text authorized, origin := .input lease.grant.token }) := by
  generalize hitem : Queued.mk (.text authorized) (.input lease.grant.token) = item
  generalize hset : s.setLease agent { lease with held } = u
  have hsockets : u.sockets = s.sockets := by rw [← hset]; rfl
  have hgrants : u.grants = s.grants := by rw [← hset]; rfl
  have hcleanups : u.cleanups = s.cleanups := by rw [← hset]; rfl
  have hquiet : Quiet s u := {
    grants := hgrants
    cleanups := hcleanups
    minted := by
      rw [← hset]
      exact List.Subset.refl _
    leases := by
      rw [← hset]
      exact leaseKey_setLease hlease rfl rfl
    sockets := by
      intro conn
      exact ⟨[], by rw [hsockets]; simp, by simp⟩
    closing := by
      intro conn hclosing
      rw [AppState.closing, hsockets]
      exact hclosing
  }
  have hu := h.quiet hquiet
  have hinput : item.isInput lease.grant.token := by
    rw [← hitem]
    rfl
  have honly : ∀ g c before after count, Ended u g c before after count →
      ∀ conn, ∀ new ∈ (if g.connId = conn then [item] else []), ¬ new.isInput g.token := by
    intro g c before after count hended conn new hnew
    split at hnew
    . rw [List.mem_singleton] at hnew
      subst hnew
      intro hother
      unfold Queued.isInput at hinput hother
      rw [hinput, Origin.input.injEq] at hother
      have hcleaned := hended.cleaned
      rw [hcleanups] at hcleaned
      exact h.uncleaned agent lease hlease c hcleaned (hended.token.trans hother.symm)
    . simp at hnew
  exact {
    granted := hu.granted
    cleaned := hu.cleaned
    nodup := hu.nodup
    input := by
      intro conn new hnew token htoken
      rw [pushed_sent, List.mem_append] at hnew
      cases hnew with
      | inl hold => exact hu.input conn new hold token htoken
      | inr hpushed =>
        split at hpushed
        . next hconn =>
          rw [List.mem_singleton] at hpushed
          subst hpushed
          unfold Queued.isInput at hinput htoken
          rw [hinput, Origin.input.injEq] at htoken
          rcases h.live agent lease hlease with ⟨g, hg, hgtoken, hgconn⟩
          refine ⟨g, ?_, hgtoken.trans htoken, ?_⟩
          . change g ∈ u.grants
            rw [hgrants]
            exact hg
          . rw [hconn]
            exact hgconn
        . simp at hpushed
    start := by
      intro g hg
      exact start_grow (hu.start g hg) (pushed_sent _ _ _ _)
    live := hu.live
    uncleaned := hu.uncleaned
    distinct := hu.distinct
    ended := by
      intro g hg
      rcases hu.ended g hg with hlive | ⟨c, before, after, count, hended⟩
      . exact Or.inl hlive
      . refine Or.inr ⟨c, before, _, count, ended_grow hended hended.cleaned
          (pushed_sent _ _ _ _) (honly g c before after count hended _) ?_⟩
        rw [pushed_closing]
        exact id
    order := by
      apply hu.order.imp
      intro g₁ g₂ hpair heq
      rcases hpair heq with ⟨c, before, after, hended, hle⟩
      refine ⟨c, before, _, ended_grow hended hended.cleaned (pushed_sent _ _ _ _)
        (honly g₁ c before after _ hended _) ?_, hle⟩
      rw [pushed_closing]
      exact id
  }

theorem grant_effect {agent : Uuid} {lease : Lease} {frozen : FrozenCapture} (h : Succession s)
    (hs : Sound s) (hlease : s.sessions.lookup agent = none)
    (hopen : s.openConn? agent = some lease.grant.owner.agentConnectionId)
    (hfresh : lease.grant.token ∉ s.minted) : Succession (s.grantLease agent lease frozen) := by
  generalize hconn : lease.grant.owner.agentConnectionId = conn at hopen
  have hregistered := AppState.connId?_of_openConn? hopen
  generalize hnew : GrantRecord.mk lease.grant.token conn (s.sockets conn).sent.length = new
  generalize ht : s.grantLease agent lease frozen = t
  have hgrants : t.grants = s.grants ++ [new] := by
    rw [← ht, ← hnew, ← hconn]
    simp [AppState.grantLease]
  have hcleanups : t.cleanups = s.cleanups := by
    rw [← ht]
    simp [AppState.grantLease]
  have hminted : t.minted = lease.grant.token :: s.minted := by
    rw [← ht]
    simp [AppState.grantLease]
  have hsockets : t.sockets = s.sockets := by
    rw [← ht]
    simp [AppState.grantLease]
  have hlookup : ∀ other, t.sessions.lookup other
      = if other = agent then some lease else s.sessions.lookup other := by
    intro other
    rw [← ht]
    simp only [AppState.grantLease, AppState.commitControlCapture_sessions,
      Table.lookup_insert_eq]
  have hclosing : ∀ other, t.closing other = s.closing other := by
    intro other
    simp only [AppState.closing, hsockets]
  have htoken : new.token = lease.grant.token := by rw [← hnew]
  have hnewConn : new.connId = conn := by rw [← hnew]
  have hunused : ∀ g ∈ s.grants, g.token ≠ lease.grant.token := by
    intro g hg heq
    apply hfresh
    rw [← heq]
    exact h.granted g hg
  have hended : ∀ {g c before after count}, Ended s g c before after count →
      Ended t g c before after count := by
    intro g c before after count he
    have := @ended_grow s t g c before after [] count he (by rw [hcleanups]; exact he.cleaned)
      (by rw [hsockets]; simp) (by simp) (by rw [hclosing]; exact id)
    simpa using this
  -- Every earlier lease on the connection has ended, with all of its releases in the queue.
  have hearlier : ∀ g ∈ s.grants, g.connId = conn →
      ∃ c before after, Ended s g c before after c.commands.length
        ∧ before.length + c.commands.length ≤ (s.sockets conn).sent.length := by
    intro g hg hgconn
    rcases h.ended g hg with ⟨other, l, hl, hltoken⟩ | ⟨c, before, after, count, he⟩
    . rcases h.live other l hl with ⟨g', hg', htoken', hconn'⟩
      have heq := h.eq_of_token hg hg' (hltoken.symm.trans htoken'.symm)
      subst heq
      have hother := hs.1.lease other l hl
      rw [← hconn', hgconn] at hother
      have hagent := hs.1.agent other conn hother
      rw [hs.1.agent agent conn hregistered.1] at hagent
      subst hagent
      rw [hlease] at hl
      contradiction
    . have hrest : c.commands.length ≤ count := by
        rcases he.rest with hle | hclosed
        . exact hle
        . rw [hgconn, hregistered.2] at hclosed
          contradiction
      have hfull := he.full hrest
      refine ⟨c, before, after, hfull, ?_⟩
      have hlength := congrArg List.length hfull.sent
      rw [hgconn, List.take_of_length_le (Nat.le_refl _)] at hlength
      simp only [List.length_append, AppState.releaseItems, List.length_map] at hlength
      omega
  exact {
    granted := by
      rw [hgrants, hminted]
      intro g hg
      rw [List.mem_append, List.mem_singleton] at hg
      cases hg with
      | inl hold => exact List.mem_cons_of_mem _ (h.granted g hold)
      | inr heq =>
        rw [heq, htoken]
        exact List.mem_cons_self
    cleaned := by
      rw [hcleanups, hminted]
      intro c hc
      exact List.mem_cons_of_mem _ (h.cleaned c hc)
    nodup := by
      rw [hgrants, List.map_append, List.nodup_append]
      refine ⟨h.nodup, by simp, ?_⟩
      intro a ha b hb
      rw [List.mem_map] at ha
      rcases ha with ⟨g, hg, heq⟩
      simp only [List.map_cons, List.map_nil, List.mem_singleton] at hb
      rw [← heq, hb, htoken]
      exact hunused g hg
    input := by
      rw [hsockets, hgrants]
      intro other item hitem token hinput
      rcases h.input other item hitem token hinput with ⟨g, hg, hrest⟩
      exact ⟨g, List.mem_append_left _ hg, hrest⟩
    start := by
      rw [hsockets, hgrants]
      intro g hg
      rw [List.mem_append, List.mem_singleton] at hg
      cases hg with
      | inl hold => exact h.start g hold
      | inr heq =>
        subst heq
        rw [hnewConn, htoken]
        refine ⟨by rw [← hnew], ?_⟩
        intro item hitem hinput
        rcases h.input conn item (List.mem_of_mem_take hitem) _ hinput with ⟨g, hg, heq, _⟩
        exact hunused g hg heq
    live := by
      intro other l hl
      rw [hlookup] at hl
      rw [hgrants]
      split at hl
      . cases hl
        refine ⟨new, by simp, htoken, ?_⟩
        rw [hnewConn, hconn]
      . rcases h.live other l hl with ⟨g, hg, hrest⟩
        exact ⟨g, List.mem_append_left _ hg, hrest⟩
    uncleaned := by
      intro other l hl c hc
      rw [hlookup] at hl
      rw [hcleanups] at hc
      split at hl
      . cases hl
        intro heq
        apply hfresh
        rw [← heq]
        exact h.cleaned c hc
      . exact h.uncleaned other l hl c hc
    distinct := by
      have hnot : ∀ other l, s.sessions.lookup other = some l →
          l.grant.token ≠ lease.grant.token := by
        intro other l hl heq
        apply hfresh
        rw [← heq]
        exact hs.1.token other l hl
      intro a b la lb ha hb heq
      rw [hlookup] at ha hb
      split at ha
      . next haa =>
        split at hb
        . next hbb => rw [haa, hbb]
        . cases ha
          exact absurd heq.symm (hnot b lb hb)
      . split at hb
        . cases hb
          exact absurd heq (hnot a la ha)
        . exact h.distinct a b la lb ha hb heq
    ended := by
      rw [hgrants]
      intro g hg
      rw [List.mem_append, List.mem_singleton] at hg
      cases hg with
      | inl hold =>
        rcases h.ended g hold with ⟨other, l, hl, hltoken⟩ | ⟨c, before, after, count, he⟩
        . refine Or.inl ⟨other, l, ?_, hltoken⟩
          rw [hlookup, if_neg]
          . exact hl
          . intro heq
            subst heq
            rw [hlease] at hl
            contradiction
        . exact Or.inr ⟨c, before, after, count, hended he⟩
      | inr heq =>
        refine Or.inl ⟨agent, lease, ?_, ?_⟩
        . rw [hlookup, if_pos rfl]
        . rw [heq, htoken]
    order := by
      rw [hgrants, List.pairwise_append]
      refine ⟨?_, by simp, ?_⟩
      . apply h.order.imp
        intro g₁ g₂ hpair heq
        rcases hpair heq with ⟨c, before, after, he, hle⟩
        exact ⟨c, before, after, hended he, hle⟩
      . intro g hg g' hg' heq
        rw [List.mem_singleton] at hg'
        subst hg'
        rw [hnewConn] at heq
        rcases hearlier g hg heq with ⟨c, before, after, he, hle⟩
        refine ⟨c, before, after, hended he, ?_⟩
        rw [← hnew]
        exact hle
  }

/-!
All other actions.
-/

def placesCommand (_ : Uuid) (item : Queued) : Prop :=
  item.origin = .command

theorem closing_effect {P : Uuid → Queued → Prop} {conn : Uuid} (hs : Sound s)
    (heffect : Effect P s t) (hclosing : s.closing conn = true) : t.closing conn = true := by
  unfold AppState.closing at hclosing ⊢
  cases heffect.socket hs.1 conn with
  | new agent hfresh hminted heq =>
    rw [(hs.2.unused conn hfresh).2] at hclosing
    contradiction
  | grow items shutdown heq hshutdown hP hconn =>
    rw [heq]
    rcases hshutdown with hsame | hsome
    . rw [hsame]
      exact hclosing
    . exact hsome

theorem quiet_of_effect (hs : Sound s) (heffect : Effect placesCommand s t)
    (hgrants : t.grants = s.grants) (hcleanups : t.cleanups = s.cleanups)
    (hleases : t.sessions = s.sessions) : Quiet s t where
  grants := hgrants
  cleanups := hcleanups
  minted := heffect.minted hs.1
  leases := by
    intro agent
    simp only [AppState.leaseKey, hleases]
  sockets := by
    intro conn
    cases heffect.socket hs.1 conn with
    | new agent hfresh hminted heq =>
      refine ⟨[], ?_, by simp⟩
      rw [heq, (hs.2.unused conn hfresh).1]
      rfl
    | grow items shutdown heq hshutdown hP hconn => exact ⟨items, by rw [heq], hP⟩
  closing := fun _ hclosing => closing_effect hs heffect hclosing

theorem taken_quiet
    (hsockets : ∀ conn, (t.sockets conn).sent = (s.sockets conn).sent
      ∧ (t.sockets conn).shutdown = (s.sockets conn).shutdown)
    (hgrants : t.grants = s.grants) (hcleanups : t.cleanups = s.cleanups)
    (hminted : t.minted = s.minted) (hleases : t.sessions = s.sessions) : Quiet s t where
  grants := hgrants
  cleanups := hcleanups
  minted := by
    rw [hminted]
    exact List.Subset.refl _
  leases := by
    intro agent
    simp only [AppState.leaseKey, hleases]
  sockets := by
    intro conn
    exact ⟨[], by rw [(hsockets conn).1]; simp, by simp⟩
  closing := by
    intro conn hclosing
    rw [AppState.closing, (hsockets conn).2]
    exact hclosing

theorem preserves : Preserves Sound Always Succession where
  same := by
    intro s t hs h hsame
    apply h.quiet
    exact {
      grants := hsame.grants
      cleanups := hsame.cleanups
      minted := hsame.minted
      leases := by
        intro agent
        simp only [AppState.leaseKey, hsame.sessions]
      sockets := by
        intro conn
        exact ⟨[], by rw [hsame.sockets]; simp, by simp⟩
      closing := by
        intro conn hclosing
        rw [AppState.closing, hsame.sockets]
        exact hclosing
    }
  effect := by
    intro P s t hs h heffect
    cases heffect with
    | endLease reason count hlease hP =>
      exact h.endLease hlease (hs.1.token _ _ hlease) reason count
    | input hlease hopen hkind hauth htrack hP => exact h.input_effect hlease
    | grant hlease hopen hheld hfresh hfrozen => exact h.grant_effect hs hlease hopen hfresh
    | lost held hlease =>
      have hshut := quiet_of_effect hs
        (Effect.close (hs.1.lease _ _ hlease)) rfl rfl rfl
      apply h.quiet
      exact {
        grants := rfl
        cleanups := rfl
        minted := List.Subset.refl _
        leases := leaseKey_setLease hlease rfl rfl
        sockets := hshut.sockets
        closing := hshut.closing
      }
    | renew expiresAt hlease =>
      apply h.quiet
      exact {
        grants := rfl
        cleanups := rfl
        minted := List.Subset.refl _
        leases := leaseKey_setLease hlease rfl rfl
        sockets := fun conn => ⟨[], by simp [AppState.setLease], by simp⟩
        closing := fun conn hclosing => hclosing
      }
    | push hopen hordinary hstamp hP =>
      exact h.quiet (quiet_of_effect hs (.push hopen hordinary hstamp rfl) rfl rfl rfl)
    | close hconn => exact h.quiet (quiet_of_effect hs (.close hconn) rfl rfl rfl)
    | start hopen hauth hnil hfresh hfrozen hP =>
      exact h.quiet
        (quiet_of_effect hs (.start hopen hauth hnil hfresh hfrozen rfl) rfl rfl rfl)
    | stop hopen hauth hP =>
      exact h.quiet (quiet_of_effect hs (.stop hopen hauth rfl) rfl rfl rfl)
    | dropActive hclosing =>
      exact h.quiet (quiet_of_effect hs (.dropActive hclosing) rfl rfl rfl)
    | openSession hsession hconn =>
      exact h.quiet (quiet_of_effect hs (.openSession hsession hconn) rfl rfl rfl)
    | dropSession hfree =>
      exact h.quiet (quiet_of_effect hs (.dropSession hfree) rfl rfl rfl)
    | publish hconn hfollows =>
      exact h.quiet (quiet_of_effect hs (.publish hconn hfollows) rfl rfl rfl)
    | register historyKnown hlease hfresh =>
      have hspec := hs.1.registerConnection_spec hlease hfresh historyKnown
      exact h.quiet (quiet_of_effect hs (.register historyKnown hlease hfresh) hspec.grants
        hspec.cleanups hspec.sessions)
    | unregister reason hconn hlease =>
      have hspec := hs.1.unregister_spec hconn reason
      exact h.quiet (quiet_of_effect hs (.unregister reason hconn hlease) hspec.grants
        hspec.cleanups hspec.sessions)
    | launch hconn hplain hstamp =>
      exact h.quiet (quiet_of_effect hs (.launch hconn hplain hstamp) rfl rfl rfl)
  drop := by
    intro s conn item hs h hitem _ _
    apply h.quiet
    exact taken_quiet (by
      intro other
      rw [s.sockets_take]
      split
      . next heq => exact ⟨by rw [heq], by rw [heq]⟩
      . exact ⟨rfl, rfl⟩) rfl rfl rfl rfl
  write := by
    intro s conn item hs h hitem _
    apply h.quiet
    exact taken_quiet (by
      intro other
      rw [s.sockets_write]
      split
      . next heq => exact ⟨by rw [heq], by rw [heq]⟩
      . exact ⟨rfl, rfl⟩) rfl rfl rfl rfl

theorem init : Succession AppState.init := by
  constructor <;> simp [AppState.init, Socket.new]

end Succession

theorem Reachable.succession {s : AppState} (h : Reachable s) : Succession s :=
  Succession.preserves.holds Sound.init Succession.init h.always

/-!
Connections that are closing.
-/

theorem AppState.open_of_deliverable {s : AppState} {conn : Uuid} {item : Queued}
    (h : s.deliverable conn item = true) : s.openConn? (s.sockets conn).agent = some conn := by
  unfold AppState.deliverable at h
  split at h
  . simp only [Bool.and_eq_true, decide_eq_true_eq] at h
    exact h.1.1
  . unfold AppState.controlCleanupDeliverable at h
    rw [decide_eq_true_eq] at h
    exact h.2.1

/--
Since `s` nothing was written to the connection, and no input was placed in its queue.
-/
structure Silenced (s : AppState) (conn : Uuid) (t : AppState) : Prop where
  closing : t.closing conn = true
  written : (t.sockets conn).written = (s.sockets conn).written
  sent : ∃ items, (t.sockets conn).sent = (s.sockets conn).sent ++ items
    ∧ ∀ item ∈ items, ∀ token, ¬ item.isInput token

namespace Silenced

variable {s t u : AppState} {conn : Uuid}

theorem grow {P : Uuid → Queued → Prop} (h : Silenced s conn t) (ht : Sound t)
    (heffect : Effect P t u)
    (hP : ∀ item, P conn item → ∀ token, ¬ item.isInput token) : Silenced s conn u where
  closing := Succession.closing_effect ht heffect h.closing
  written := by
    have hclosing := h.closing
    cases heffect.socket ht.1 conn with
    | new agent hfresh hminted heq =>
      rw [AppState.closing, (ht.2.unused conn hfresh).2] at hclosing
      contradiction
    | grow items shutdown heq hshutdown hP hconn =>
      rw [heq]
      exact h.written
  sent := by
    have hclosing := h.closing
    rcases h.sent with ⟨old, hsent, hsilent⟩
    cases heffect.socket ht.1 conn with
    | new agent hfresh hminted heq =>
      rw [AppState.closing, (ht.2.unused conn hfresh).2] at hclosing
      contradiction
    | grow items shutdown heq hshutdown hitems hconn =>
      refine ⟨old ++ items, ?_, ?_⟩
      . rw [heq]
        simp only [hsent, List.append_assoc]
      . intro item hitem
        rw [List.mem_append] at hitem
        cases hitem with
        | inl hold => exact hsilent item hold
        | inr hnew => exact hP item (hitems item hnew)

theorem preserves (s : AppState) (conn : Uuid) : Preserves Sound Always (Silenced s conn) where
  same := by
    intro t u _ h hsame
    exact ⟨by rw [AppState.closing, hsame.sockets]; exact h.closing,
      by rw [hsame.sockets]; exact h.written, by rw [hsame.sockets]; exact h.sent⟩
  effect := by
    intro P t u ht h heffect
    have hgrow := @grow s t u conn (fun other item => other = conn → ∀ token, ¬ item.isInput token) h ht
    apply hgrow
    . cases heffect with
      | endLease reason count hlease hP =>
        refine .endLease reason count hlease ?_
        intro item hitem _
        exact Succession.release_not_input hitem
      | input hlease hopen hkind hauth htrack hP =>
        refine .input hlease hopen hkind hauth htrack ?_
        -- Input is enqueued on open connections only, so not on this one.
        intro heq
        have hclosing := h.closing
        rw [heq] at hopen
        rw [(AppState.connId?_of_openConn? hopen).2] at hclosing
        contradiction
      | lost held hlease => exact .lost held hlease
      | grant hlease hopen hheld hfresh hfrozen => exact .grant hlease hopen hheld hfresh hfrozen
      | renew expiresAt hlease => exact .renew expiresAt hlease
      | push hopen hordinary hstamp hP =>
        exact .push hopen hordinary hstamp (fun _ => Succession.command_not_input rfl)
      | close hconn => exact .close hconn
      | start hopen hauth hnil hfresh hfrozen hP =>
        exact .start hopen hauth hnil hfresh hfrozen (fun _ => Succession.command_not_input rfl)
      | stop hopen hauth hP =>
        exact .stop hopen hauth (fun _ => Succession.command_not_input rfl)
      | dropActive hclosing => exact .dropActive hclosing
      | openSession hsession hconn => exact .openSession hsession hconn
      | dropSession hfree => exact .dropSession hfree
      | publish hconn hfollows => exact .publish hconn hfollows
      | register historyKnown hlease hfresh => exact .register historyKnown hlease hfresh
      | unregister reason hconn hlease => exact .unregister reason hconn hlease
      | launch hconn hplain hstamp => exact .launch hconn hplain hstamp
    . intro item hitem
      exact hitem rfl
  drop := by
    intro t other item _ h _ _ _
    have hsocket := t.sockets_take other conn
    have hclosing := h.closing
    unfold AppState.closing at hclosing
    by_cases heq : conn = other
    . subst heq
      rw [if_pos rfl] at hsocket
      exact ⟨by rw [AppState.closing, hsocket]; exact hclosing,
        by rw [hsocket]; exact h.written, by rw [hsocket]; exact h.sent⟩
    . rw [if_neg heq] at hsocket
      exact ⟨by rw [AppState.closing, hsocket]; exact hclosing,
        by rw [hsocket]; exact h.written, by rw [hsocket]; exact h.sent⟩
  write := by
    intro t other item _ h hitem hdeliverable
    have hopen := AppState.connId?_of_openConn? (AppState.open_of_deliverable hdeliverable)
    have hne : conn ≠ other := by
      intro heq
      subst heq
      rw [h.closing] at hopen
      simp at hopen
    have hsocket := t.sockets_write other conn (t.sockets other).taken item.control.command
    rw [if_neg hne] at hsocket
    exact ⟨by rw [AppState.closing, hsocket]; exact h.closing,
      by rw [hsocket]; exact h.written, by rw [hsocket]; exact h.sent⟩

theorem refl (h : s.closing conn = true) : Silenced s conn s :=
  ⟨h, rfl, [], by simp, by simp⟩

end Silenced

/--
Of two leases on one connection, the first has released everything it held behind the last of its
input and before the second was granted. A lease that ended without room for all of its releases
leaves the connection closing, and a closing connection takes no input and writes nothing ever again.
-/
theorem successor_isolated {s : AppState} (h : Reachable s)
    : (s.grants.map GrantRecord.token).Nodup
      ∧ s.grants.Pairwise (fun g₁ g₂ => g₁.connId = g₂.connId →
        ∃ c before after, Ended s g₁ c before after c.commands.length
          ∧ (∀ item ∈ before ++ AppState.releaseItems g₁.connId g₁.token c.commands,
            ¬ item.isInput g₂.token))
      ∧ (∀ g ∈ s.grants,
        (∃ agent lease, s.sessions.lookup agent = some lease ∧ lease.grant.token = g.token)
          ∨ (∃ c before after, Ended s g c before after c.commands.length)
          ∨ s.closing g.connId = true)
      ∧ ∀ conn, s.closing conn = true → ∀ t, Runs s t → Silenced s conn t := by
  have hs := h.succession
  refine ⟨hs.nodup, ?_, ?_, ?_⟩
  . apply List.Pairwise.imp_of_mem _ hs.order
    intro g₁ g₂ _ hg₂ hpair hconn
    rcases hpair hconn with ⟨c, before, after, hended, hle⟩
    refine ⟨c, before, after, hended, ?_⟩
    intro item hitem
    apply (hs.start g₂ hg₂).2
    refine List.IsPrefix.subset ?_ hitem
    rw [List.prefix_take_iff, ← hconn, hended.sent, List.take_of_length_le (Nat.le_refl _)]
    refine ⟨List.prefix_append _ _, ?_⟩
    simpa [AppState.releaseItems] using hle
  . intro g hg
    rcases hs.ended g hg with hlive | ⟨c, before, after, count, hended⟩
    . exact Or.inl hlive
    . apply Or.inr
      rcases hended.rest with hle | hclosing
      . exact Or.inl ⟨c, before, after, hended.full hle⟩
      . exact Or.inr hclosing
  . intro conn hclosing t hruns
    exact (Silenced.preserves s conn).holds h.sound (Silenced.refl hclosing) hruns.always

namespace Example

def release : Json :=
  .object [
    ("agent_id", .string (Uuid.text 1)),
    ("lease_token", .string (Uuid.text 7)),
    ("request_id", .string (Uuid.text 9)),
    ("type", .string "control_release")
  ]

def keyDown : Json :=
  .object [("key", .string "shift"), ("type", .string "KeyDown")]

-- The operator presses a key, gives up the lease and acquires it again.
def succeeded : List Op :=
  controlled ++ [
    .viewerCommand 1 6 operator (some 7) keyDown 0,
    .leaseMessage 6 operator release 0 10,
    .leaseMessage 6 operator acquire 0 11,
    .viewerCommand 1 6 operator (some 11) keyDown 0
  ]

end Example

theorem successor_isolated_succeeded
    : ∃ g₁ g₂ c before after,
      (AppState.init.run Example.succeeded).grants = [g₁, g₂]
        ∧ Ended (AppState.init.run Example.succeeded) g₁ c before after c.commands.length
        ∧ ∀ item ∈ before ++ AppState.releaseItems g₁.connId g₁.token c.commands,
          ¬ item.isInput g₂.token := by
  have hrun : AppState.init.freshRun Example.succeeded = true
      ∧ (AppState.init.run Example.succeeded).grants = [
        { token := 7, connId := 2, start := 1 },
        { token := 11, connId := 2, start := 3 }
      ] := by
    decide +kernel
  rcases hrun with ⟨hfresh, hgrants⟩
  have hpairwise := (successor_isolated (AppState.reachable_run hfresh)).2.1
  rw [hgrants, List.pairwise_cons] at hpairwise
  rcases hpairwise.1 _ List.mem_cons_self rfl with ⟨c, before, after, hended, hbefore⟩
  exact ⟨_, _, c, before, after, hgrants, hended, hbefore⟩

end Vantyr
