import Vantyr.Server.Leases.Ledger

/-!
This module contains the law of the lease table. Whatever the order of its operations, a token is drawn
once and its cleanup is returned once, it is authorised only in between and before its deadline, and the
deadline is never far from the last grant or heartbeat.
-/

namespace Vantyr

namespace Ledger

structure Orderly (l : Ledger) : Prop where
  issued : ∀ {agent lease}, l.sessions.lookup agent = some lease →
    ∃ time, l.issued lease.grant.token = some (lease.grant, time)
  bounded : ∀ {token grant time}, l.issued token = some (grant, time) →
    time ≤ l.now ∧ grant.expiresAt ≤ time + maxLeaseTtl
  unique : ∀ {agent other lease lease'}, l.sessions.lookup agent = some lease →
    l.sessions.lookup other = some lease' → lease.grant.token = lease'.grant.token → agent = other
  cleaned : ∀ {c}, c ∈ l.cleanups → l.issued c.token ≠ none
  gone : ∀ {c agent lease}, c ∈ l.cleanups → l.sessions.lookup agent = some lease →
    lease.grant.token ≠ c.token
  nodup : (l.cleanups.map LeaseCleanup.token).Nodup

-- What has become of the leases of `l`.
structure Accounts (l l' : Ledger) : Prop where
  cleanups : ∃ returned, l'.cleanups = l.cleanups ++ returned
    ∧ ∀ {agent lease}, l.sessions.lookup agent = some lease →
      (∃ lease', l'.sessions.lookup agent = some lease' ∧ lease'.grant.token = lease.grant.token
        ∧ lease'.grant.owner = lease.grant.owner)
      ∨ ∃ c ∈ returned, c.agentId = agent ∧ c.token = lease.grant.token ∧ c.owner = lease.grant.owner

variable {l l' : Ledger}

theorem Accounts.refl (l : Ledger) : Accounts l l where
  cleanups := ⟨[], (List.append_nil _).symm, fun {_ lease} hlease => .inl ⟨lease, hlease, rfl, rfl⟩⟩

theorem Accounts.trans {m : Ledger} (h : Accounts l m) (h' : Accounts m l') : Accounts l l' := by
  rcases h.cleanups with ⟨returned, heq, hkept⟩
  rcases h'.cleanups with ⟨returned', heq', hkept'⟩
  refine ⟨returned ++ returned', by rw [heq', heq, List.append_assoc], ?_⟩
  intro agent lease hlease
  rcases hkept hlease with ⟨mid, hmid, htoken, howner⟩ | ⟨c, hc, hagent, htoken, howner⟩
  . rcases hkept' hmid with ⟨lease', hlease', htoken', howner'⟩ | ⟨c, hc, hagent, htoken', howner'⟩
    . exact .inl ⟨lease', hlease', htoken'.trans htoken, howner'.trans howner⟩
    . exact .inr ⟨c, List.mem_append_right _ hc, hagent, htoken'.trans htoken, howner'.trans howner⟩
  . exact .inr ⟨c, List.mem_append_left _ hc, hagent, htoken, howner⟩

theorem Accounts.of_kept (hcleanups : l'.cleanups = l.cleanups)
    (hkept : ∀ agent lease, l.sessions.lookup agent = some lease →
      ∃ lease', l'.sessions.lookup agent = some lease' ∧ lease'.grant.token = lease.grant.token
        ∧ lease'.grant.owner = lease.grant.owner)
    : Accounts l l' where
  cleanups := by
    refine ⟨[], by rw [hcleanups, List.append_nil], ?_⟩
    intro agent lease hlease
    exact .inl (hkept agent lease hlease)

theorem accounts_insert {agent : Uuid} {lease : Lease} (hcleanups : l'.cleanups = l.cleanups)
    (hsessions : l'.sessions = l.sessions.insert agent lease)
    (hlease : ∀ old, l.sessions.lookup agent = some old →
      lease.grant.token = old.grant.token ∧ lease.grant.owner = old.grant.owner)
    : Accounts l l' := by
  apply Accounts.of_kept hcleanups
  intro other old hold
  rw [hsessions, Table.lookup_insert_eq]
  split
  . next heq =>
    rw [heq] at hold
    exact ⟨lease, rfl, hlease old hold⟩
  . exact ⟨old, hold, rfl, rfl⟩

theorem Change.accounts (h : Change l l') : Accounts l l' := by
  cases h with
  | wait _ => exact Accounts.of_kept rfl (fun _ lease hlease => ⟨lease, hlease, rfl, rfl⟩)
  | reorder agent =>
    refine Accounts.of_kept (by rfl) ?_
    intro other lease hlease
    exact ⟨lease, (Table.lookup_moveToFront agent other _).trans hlease, rfl, rfl⟩
  | @ended agent lease reason hlease =>
    refine ⟨[ControlSessions.cleanup agent reason lease], rfl, ?_⟩
    intro other old hold
    by_cases heq : other = agent
    . rw [heq, hlease] at hold
      cases hold
      exact .inr ⟨_, List.mem_singleton_self _, heq.symm, rfl, rfl⟩
    . apply Or.inl
      exact ⟨old, (AList.lookup_erase_ne heq).trans hold, rfl, rfl⟩
  | granted hnone _ _ =>
    refine accounts_insert (by rfl) (by rfl) ?_
    intro old hold
    rw [hnone] at hold
    cases hold
  | renewed hlease _ =>
    refine accounts_insert (by rfl) (by rfl) ?_
    intro old hold
    rw [hlease] at hold
    cases hold
    exact ⟨rfl, rfl⟩
  | tracked hlease _ =>
    refine accounts_insert (by rfl) (by rfl) ?_
    intro old hold
    rw [hlease] at hold
    cases hold
    exact ⟨rfl, rfl⟩

theorem Changes.accounts (h : Changes l l') : Accounts l l' := by
  induction h with
  | refl => exact Accounts.refl _
  | tail _ hchange ih => exact ih.trans hchange.accounts

namespace Orderly

theorem init : Orderly init := by
  constructor <;> simp [Ledger.init]

-- A change that only replaces the table by one with leases of the same grants.
theorem regrant {sessions : ControlSessions} (h : Orderly l)
    (hlookup : ∀ {agent lease}, sessions.lookup agent = some lease →
      ∃ old, l.sessions.lookup agent = some old ∧ lease.grant = old.grant)
    : Orderly { l with sessions } where
  issued := by
    intro agent lease hlease
    rcases hlookup hlease with ⟨old, hold, hgrant⟩
    rw [hgrant]
    exact h.issued hold
  bounded := h.bounded
  unique := by
    intro agent other lease lease' hlease hlease' htoken
    rcases hlookup hlease with ⟨old, hold, hgrant⟩
    rcases hlookup hlease' with ⟨old', hold', hgrant'⟩
    rw [hgrant, hgrant'] at htoken
    exact h.unique hold hold' htoken
  cleaned := h.cleaned
  gone := by
    intro c agent lease hc hlease
    rcases hlookup hlease with ⟨old, hold, hgrant⟩
    rw [hgrant]
    exact h.gone hc hold
  nodup := h.nodup

theorem end_lease {agent : Uuid} {lease : Lease} (h : Orderly l) (reason : TeardownReason)
    (hlease : l.sessions.lookup agent = some lease)
    : Orderly {
        l with
        sessions := l.sessions.erase agent
        cleanups := l.cleanups ++ [ControlSessions.cleanup agent reason lease]
      } := by
  have hlookup : ∀ {other : Uuid} {old : Lease}, (l.sessions.erase agent).lookup other = some old →
      other ≠ agent ∧ l.sessions.lookup other = some old := by
    intro other old hold
    rw [Table.lookup_erase_eq] at hold
    split at hold
    . cases hold
    . next hne => exact ⟨hne, hold⟩
  have hcleanup : ∀ {c : LeaseCleanup},
      c ∈ l.cleanups ++ [ControlSessions.cleanup agent reason lease] →
      c ∈ l.cleanups ∨ c.token = lease.grant.token := by
    intro c hc
    rw [List.mem_append, List.mem_singleton] at hc
    rcases hc with hc | rfl
    . exact .inl hc
    . exact .inr rfl
  constructor
  . intro other old hold
    exact h.issued (hlookup hold).2
  . exact h.bounded
  . intro one other old old' hold hold' htoken
    exact h.unique (hlookup hold).2 (hlookup hold').2 htoken
  . intro c hc
    rcases hcleanup hc with hc | htoken
    . exact h.cleaned hc
    . rcases h.issued hlease with ⟨time, hissued⟩
      simp [htoken, hissued]
  . intro c other old hc hold
    rcases hcleanup hc with hc | htoken
    . exact h.gone hc (hlookup hold).2
    . rw [htoken]
      intro heq
      exact (hlookup hold).1 (h.unique (hlookup hold).2 hlease heq)
  . rw [List.map_append, List.map_singleton, List.nodup_append]
    refine ⟨h.nodup, List.nodup_singleton _, ?_⟩
    intro token htoken other hother
    rw [List.mem_singleton] at hother
    rw [List.mem_map] at htoken
    rcases htoken with ⟨c, hc, rfl⟩
    rw [hother]
    exact (h.gone hc hlease).symm

theorem issue_grant {agent : Uuid} {lease : Lease} (h : Orderly l)
    (hlease : (l.sessions.lookup agent = none ∧ l.issued lease.grant.token = none)
      ∨ ∃ old, l.sessions.lookup agent = some old ∧ old.grant.token = lease.grant.token)
    (hbound : lease.grant.expiresAt ≤ l.now + maxLeaseTtl)
    : Orderly (({ l with sessions := l.sessions.insert agent lease } : Ledger).issue lease.grant l.now) := by
  have hlookup : ∀ {other : Uuid} {one : Lease},
      (l.sessions.insert agent lease).lookup other = some one →
      (other = agent ∧ one = lease) ∨ (other ≠ agent ∧ l.sessions.lookup other = some one) := by
    intro other one hone
    rw [Table.lookup_insert_eq] at hone
    split at hone
    . next heq =>
      cases hone
      exact .inl ⟨heq, rfl⟩
    . next hne => exact .inr ⟨hne, hone⟩
  -- No other agent has the token, and it was not cleaned up.
  have hother : ∀ {other : Uuid} {one : Lease}, other ≠ agent → l.sessions.lookup other = some one →
      one.grant.token ≠ lease.grant.token := by
    intro other one hne hone heq
    rcases hlease with ⟨_, hfresh⟩ | ⟨old, hold, htoken⟩
    . rcases h.issued hone with ⟨time, hissued⟩
      rw [heq, hfresh] at hissued
      cases hissued
    . exact hne (h.unique hone hold (heq.trans htoken.symm))
  have hcleaned : ∀ {c : LeaseCleanup}, c ∈ l.cleanups → lease.grant.token ≠ c.token := by
    intro c hc heq
    rcases hlease with ⟨_, hfresh⟩ | ⟨old, hold, htoken⟩
    . rw [heq] at hfresh
      exact h.cleaned hc hfresh
    . exact h.gone hc hold (htoken.trans heq)
  constructor
  . intro other one hone
    rcases hlookup hone with ⟨rfl, rfl⟩ | ⟨hne, hold⟩
    . exact ⟨l.now, Function.update_self _ _ _⟩
    . rcases h.issued hold with ⟨time, hissued⟩
      exact ⟨time, (Function.update_of_ne (hother hne hold) _ _).trans hissued⟩
  . intro token grant time hissued
    by_cases htoken : token = lease.grant.token
    . subst htoken
      have hsome := (Function.update_self _ _ _).symm.trans hissued
      cases hsome
      exact ⟨Nat.le_refl _, hbound⟩
    . exact h.bounded ((Function.update_of_ne htoken _ _).symm.trans hissued)
  . intro one other old old' hold hold' htoken
    rcases hlookup hold with ⟨rfl, rfl⟩ | ⟨hne, hone⟩
    . rcases hlookup hold' with ⟨rfl, rfl⟩ | ⟨hne', hone'⟩
      . rfl
      . exact absurd htoken.symm (hother hne' hone')
    . rcases hlookup hold' with ⟨rfl, rfl⟩ | ⟨hne', hone'⟩
      . exact absurd htoken (hother hne hone)
      . exact h.unique hone hone' htoken
  . intro c hc
    exact (Function.update_of_ne (hcleaned hc).symm _ _).trans_ne (h.cleaned hc)
  . intro c other one hc hone
    rcases hlookup hone with ⟨rfl, rfl⟩ | ⟨_, hold⟩
    . exact hcleaned hc
    . exact h.gone hc hold
  . exact h.nodup

theorem change (h : Orderly l) (hchange : Change l l') : Orderly l' := by
  cases hchange with
  | wait hnow =>
    refine ⟨h.issued, ?_, h.unique, h.cleaned, h.gone, h.nodup⟩
    intro token grant time hissued
    rcases h.bounded hissued with ⟨htime, hbound⟩
    exact ⟨Nat.le_trans htime hnow, hbound⟩
  | reorder agent =>
    apply h.regrant
    intro other lease hlease
    rw [Table.lookup_moveToFront] at hlease
    exact ⟨lease, hlease, rfl⟩
  | ended reason hlease => exact h.end_lease reason hlease
  | @granted agent grant hnone hfresh hbound =>
    exact @issue_grant l agent { grant, held := HeldInput.default } h (.inl ⟨hnone, hfresh⟩) hbound
  | @renewed agent lease expiresAt hlease hbound =>
    exact @issue_grant l agent { lease with grant := { lease.grant with expiresAt } } h
      (.inr ⟨lease, hlease, rfl⟩) hbound
  | @tracked agent lease cmd held hlease htrack =>
    have hregrant : Orderly { l with sessions := l.sessions.insert agent { lease with held } } := by
      apply h.regrant
      intro other one hone
      rw [Table.lookup_insert_eq] at hone
      split at hone
      . next heq =>
        cases hone
        rw [heq]
        exact ⟨lease, hlease, rfl⟩
      . exact ⟨one, hone, rfl⟩
    exact ⟨hregrant.issued, hregrant.bounded, hregrant.unique, hregrant.cleaned, hregrant.gone,
      hregrant.nodup⟩

theorem changes (h : Orderly l) (hchanges : Changes l l') : Orderly l' := by
  induction hchanges with
  | refl => exact h
  | tail _ hchange ih => exact ih.change hchange

theorem step_changes (h : Orderly l) {op : LeaseOp} (hadmits : l.Admits op) : Changes l (l.step op) := by
  apply Ledger.step_changes hadmits
  intro agent lease hlease hnone
  rcases h.issued hlease with ⟨time, hissued⟩
  rw [hnone] at hissued
  cases hissued

end Orderly

theorem Run.changes (h : Run l l') (horderly : Orderly l) : Changes l l' := by
  induction h with
  | refl => exact .refl
  | step _ hadmits ih => exact ih.trans ((horderly.changes ih).step_changes hadmits)

theorem Reachable.orderly (h : Reachable l) : Orderly l :=
  Orderly.init.changes (h.changes Orderly.init)

end Ledger

/-!
What goes through in the name of a token.
-/

section Authorised

variable {sessions : ControlSessions} {agent : Uuid} {owner : LeaseOwner} {token : Uuid} {now : Nat}

theorem authorize_live (h : (sessions.authorize agent owner token now).result = .ok ())
    : ∃ lease, sessions.lookup agent = some lease ∧ lease.grant.token = token
      ∧ now < lease.grant.expiresAt := by
  rcases sessions.authorize_cases agent now owner token with ⟨⟨e, he⟩, _⟩ | ⟨lease, hlease, _, htoken, hlive, _⟩
  . rw [h] at he
    cases he
  . exact ⟨lease, hlease, htoken, hlive⟩

theorem authorised_live {op : LeaseOp} (h : op.authorised sessions = some token)
    : ∃ agent lease now, sessions.lookup agent = some lease ∧ lease.grant.token = token
      ∧ op.now? = some now ∧ now < lease.grant.expiresAt := by
  have hlive : ∀ {agent owner now}, op.now? = some now →
      (sessions.authorize agent owner token now).result = .ok () →
      ∃ agent lease now, sessions.lookup agent = some lease ∧ lease.grant.token = token
        ∧ op.now? = some now ∧ now < lease.grant.expiresAt := by
    intro agent owner now hnow hok
    rcases authorize_live hok with ⟨lease, hlease, htoken, hlt⟩
    exact ⟨agent, lease, now, hlease, htoken, hnow, hlt⟩
  unfold LeaseOp.authorised at h
  split at h
  . next agent owner token' requestedTtl now _ hresult =>
    cases h
    cases hauthorize : (sessions.authorize agent owner token now).result with
    | ok => exact hlive rfl hauthorize
    | error e =>
      rw [LeaseOp.heartbeat_denied hauthorize] at hresult
      cases hresult
  . next agent owner token' now _ hresult =>
    cases h
    cases hauthorize : (sessions.authorize agent owner token now).result with
    | ok => exact hlive rfl hauthorize
    | error e =>
      rw [LeaseOp.release_denied hauthorize] at hresult
      cases hresult
  . next agent owner token' now _ hresult =>
    cases h
    cases hauthorize : (sessions.authorize agent owner token now).result with
    | ok => exact hlive rfl hauthorize
    | error e =>
      change Except.map _ (sessions.authorize agent owner token now).result = _ at hresult
      rw [hauthorize] at hresult
      cases hresult
  . next agent owner token' cmd now _ hresult =>
    cases h
    cases hauthorize : (sessions.authorize agent owner token now).result with
    | ok => exact hlive rfl hauthorize
    | error e =>
      rw [LeaseOp.authorizeAndTrack_denied hauthorize] at hresult
      cases hresult
  . cases h

theorem acquire_owner {lease : Lease} (hlease : sessions.lookup agent = some lease)
    (hlive : now < lease.grant.expiresAt) (requestedTtl : Nat) (fresh : Uuid)
    : sessions.acquire agent lease.grant.owner requestedTtl now fresh
        = { result := .ok lease.grant, cleanup := [], sessions } := by
  unfold ControlSessions.acquire
  rcases sessions.expireAgent_cases agent now with ⟨other, hother, hexpired, _⟩ | ⟨heq, _⟩
  . rw [hlease] at hother
    cases hother
    omega
  . simp [heq, hlease]

end Authorised

namespace Ledger

variable {l l' : Ledger}

/--
Let `l'` be a later ledger than `l`. There is one lease for an agent, a lease of `l` is still in place
in `l'` or its cleanup was returned in between, and no token was cleaned up twice. Nothing goes through
in `l'` in the name of a token that was cleaned up in `l`. The grant of a lease is the last one that was
made or extended under its token, which is what its owner is told again, its deadline is at most
`maxLeaseTtl` later, and no operation goes through in its name from then on.
-/
theorem lease_law (h : Reachable l) (hrun : Run l l')
    : l.sessions.keys.Nodup
      ∧ (∃ returned, l'.cleanups = l.cleanups ++ returned
        ∧ ∀ agent lease, l.sessions.lookup agent = some lease →
          (∃ lease', l'.sessions.lookup agent = some lease' ∧ lease'.grant.token = lease.grant.token
            ∧ lease'.grant.owner = lease.grant.owner)
          ∨ ∃ c ∈ returned, c.agentId = agent ∧ c.token = lease.grant.token
            ∧ c.owner = lease.grant.owner)
      ∧ (l'.cleanups.map LeaseCleanup.token).Nodup
      ∧ (∀ c ∈ l.cleanups, (∀ op : LeaseOp, op.authorised l'.sessions ≠ some c.token)
        ∧ ∀ agent user, l'.sessions.httpOwner agent user c.token = none)
      ∧ (∀ agent lease, l.sessions.lookup agent = some lease →
        (∃ time ≤ l.now, l.issued lease.grant.token = some (lease.grant, time)
          ∧ lease.grant.expiresAt ≤ time + maxLeaseTtl)
        ∧ ∀ requestedTtl now fresh, now < lease.grant.expiresAt →
          l.sessions.acquire agent lease.grant.owner requestedTtl now fresh
            = { result := .ok lease.grant, cleanup := [], sessions := l.sessions })
      ∧ ∀ (op : LeaseOp) token, op.authorised l.sessions = some token →
        ∃ grant time now, l.issued token = some (grant, time) ∧ op.now? = some now
          ∧ now < grant.expiresAt := by
  have horderly := h.orderly
  have hchanges := hrun.changes horderly
  have horderly' := horderly.changes hchanges
  rcases hchanges.accounts.cleanups with ⟨returned, heq, hkept⟩
  -- A cleanup of `l` is one of `l'`, where its token is gone.
  have hgone : ∀ {c agent lease}, c ∈ l.cleanups → l'.sessions.lookup agent = some lease →
      lease.grant.token ≠ c.token := by
    intro c agent lease hc
    apply horderly'.gone
    rw [heq]
    exact List.mem_append_left _ hc
  refine ⟨l.sessions.nodupKeys, ⟨returned, heq, fun agent lease => hkept⟩, horderly'.nodup, ?_, ?_, ?_⟩
  . intro c hc
    constructor
    . intro op hauthorised
      rcases authorised_live hauthorised with ⟨agent, lease, now, hlease, htoken, _⟩
      exact hgone hc hlease htoken
    . intro agent user
      unfold ControlSessions.httpOwner
      rw [Option.map_eq_none_iff, Option.filter_eq_none_iff]
      intro lease hlease hmatch
      rw [decide_eq_true_eq] at hmatch
      exact hgone hc hlease hmatch.1
  . intro agent lease hlease
    constructor
    . rcases horderly.issued hlease with ⟨time, hissued⟩
      rcases horderly.bounded hissued with ⟨htime, hbound⟩
      exact ⟨time, htime, hissued, hbound⟩
    . intro requestedTtl now fresh hlive
      exact acquire_owner hlease hlive requestedTtl fresh
  . intro op token hauthorised
    rcases authorised_live hauthorised with ⟨agent, lease, now, hlease, rfl, hnow, hlive⟩
    rcases horderly.issued hlease with ⟨time, hissued⟩
    exact ⟨lease.grant, time, now, hissued, hnow, hlive⟩

def viewer : LeaseOwner :=
  { viewerConnectionId := 1, userId := 2, agentConnectionId := 3 }

def released : Ledger :=
  (init.step (.acquire 4 viewer 0 5 6)).step (.release 4 viewer 6 7)

def acquiredAgain : Ledger :=
  released.step (.acquire 4 viewer 0 8 9)

-- The token of a lease that was released is of no use to the next one.
theorem lease_law_released
    : (LeaseOp.authorize 4 viewer 6 8).authorised acquiredAgain.sessions ≠ some 6
      ∧ (LeaseOp.authorize 4 viewer 9 8).authorised acquiredAgain.sessions = some 9 := by
  have hacquire : init.Admits (.acquire 4 viewer 0 5 6) := by
    refine ⟨by decide, ?_⟩
    intro agent owner requestedTtl now fresh h
    cases h
    rfl
  have hrelease : (init.step (.acquire 4 viewer 0 5 6)).Admits (.release 4 viewer 6 7) := by
    refine ⟨by decide, ?_⟩
    intro agent owner requestedTtl now fresh h
    cases h
  have hagain : released.Admits (.acquire 4 viewer 0 8 9) := by
    refine ⟨by decide, ?_⟩
    intro agent owner requestedTtl now fresh h
    cases h
    rfl
  have hlaw := lease_law (.step (.step (.refl _) hacquire) hrelease) (.step (.refl _) hagain)
  have hcleanup : ControlSessions.cleanup 4 .released
      {
        grant := { token := 6, owner := viewer, expiresAt := ControlSessions.deadline 5 0 }
        held := HeldInput.default
      } ∈ released.cleanups :=
    List.mem_singleton_self _
  exact ⟨(hlaw.2.2.2.1 _ hcleanup).1 _, by decide⟩

end Ledger

end Vantyr
