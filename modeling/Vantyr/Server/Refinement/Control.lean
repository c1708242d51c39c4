import Vantyr.Server.Refinement.Capture

/-!
This module proves that control is acquired, renewed, used and released by sequences of actions, and
that the clipboard RPCs are sequences of actions as well.
-/

namespace Vantyr

theorem releasable_placed (s : AppState) (op : Op) : Releasable (Placed s op) s := by
  intro agent lease hlease item hitem
  simp only [AppState.releaseItems, List.mem_map] at hitem
  rcases hitem with ⟨command, hmem, heq⟩
  subst heq
  exact Placed.release hlease (Or.inl rfl) hmem

namespace AppState

variable {P : Uuid → Queued → Prop} {s : AppState}

theorem settle_nil (s : AppState) (sessions : ControlSessions)
    : s.settle ([], sessions) = (true, { s with sessions }) :=
  rfl

-- As long as nothing was left behind the connection stays open.
theorem settle_expireAgent_openConn? {t : AppState} {agent : Uuid} {now : Nat} (hs : Coherent s)
    (h : s.settle (s.sessions.expireAgent agent now) = (true, t)) (other : Uuid)
    : t.openConn? other = s.openConn? other := by
  rcases s.sessions.expireAgent_cases agent now with ⟨lease, hlease, hexpired, heq⟩ | ⟨heq, hlive⟩
  . rw [heq] at h
    rcases settle_remove hs hlease h with ⟨count, hsame, hsafe⟩
    have hclosing : ∀ conn, t.closing conn = s.closing conn := by
      intro conn
      have := hsafe rfl
      simp only [closing, hsame.sockets, endLease, Function.update_apply]
      split
      . next hconn =>
        rw [if_neg (by omega), hconn]
      . rfl
    simp only [openConn?, hsame.connId?, hclosing]
    rfl
  . rw [heq, settle_nil] at h
    cases h
    rfl

theorem currentControlOwner_ok {agent viewer : Uuid} {user : AuthUser} {owner : LeaseOwner}
    (h : s.currentControlOwner agent viewer user = .ok owner)
    : s.openConn? agent = some owner.agentConnectionId
        ∧ owner.viewerConnectionId = viewer
        ∧ owner.userId = user.userId := by
  unfold currentControlOwner at h
  split at h
  . contradiction
  . split at h
    . contradiction
    . next conn hconn =>
      cases h
      exact ⟨hconn, rfl, rfl⟩

theorem validateControlCapture_ok {agent : Uuid} {owner : LeaseOwner} {value : Json} {now : Nat}
    {frozen : FrozenCapture} (h : s.validateControlCapture agent owner value now = .ok frozen)
    : Freezable s agent owner frozen := by
  unfold validateControlCapture at h
  split at h
  . contradiction
  . split at h
    . contradiction
    . next session hsession =>
      split at h
      . contradiction
      . next mapped hmapped =>
        split at h
        . contradiction
        . next active hactive =>
          rw [Option.filter_eq_some_iff] at hmapped hactive
          simp only [decide_eq_true_eq] at hmapped hactive
          split at h
          . contradiction
          . split at h
            . contradiction
            . next geometry hgeometry =>
              split at h
              . contradiction
              . split at h
                . contradiction
                . split at h
                  . contradiction
                  . next hmonitor =>
                    cases h
                    exact {
                      owned := rfl
                      session := ⟨mapped, hmapped⟩
                      conn := hactive.2.1
                      pinned := by simp
                      active := by
                        refine ⟨active, hactive.1, rfl, ?_⟩
                        cases hm : active.prefs.monitor with
                        | none => exact Or.inl rfl
                        | some monitor =>
                          rw [hm] at hmonitor
                          apply Or.inr
                          simpa using hmonitor
                    }

/-!
Control leases.
-/

-- The existing lease of the same owner is returned and its capture is frozen already.
theorem reacquire_eq {agent : Uuid} {lease : Lease} {fresh : Uuid} (hs : Coherent s)
    (hfresh : fresh ∉ s.minted) (hlease : s.sessions.lookup agent = some lease)
    (frozen : FrozenCapture)
    : ((s.recordGrant lease.grant fresh).commitControlCapture agent frozen).freeze agent frozen
        = s := by
  have hrecord : s.recordGrant lease.grant fresh = s := by
    unfold recordGrant
    rw [if_neg]
    intro heq
    apply hfresh
    rw [← heq]
    exact hs.token agent lease hlease
  rcases hs.frozen agent lease hlease with ⟨old, hold, _, holdConn, _, hprefs⟩
  have hcommit : s.commitControlCapture agent frozen = s := by
    rcases s.commitControlCapture_cases agent frozen with ⟨heq, _⟩ | ⟨active, hactive, _, hnone, _⟩
    . exact heq
    . rw [hprefs active hactive] at hnone
      have := hs.pinned agent old hold
      contradiction
  rw [hrecord, hcommit]
  unfold freeze
  simp [hold]

theorem grantLease_eq {agent : Uuid} {owner : LeaseOwner} {expiresAt : Nat} {fresh : Uuid}
    {frozen : FrozenCapture} (hcapture : s.capture agent = none)
    : let lease : Lease :=
        { grant := { token := fresh, owner, expiresAt }, held := HeldInput.default }
      ((({ s with sessions := s.sessions.insert agent lease }.recordGrant lease.grant
        fresh).commitControlCapture agent frozen).freeze agent frozen)
          = s.grantLease agent lease frozen := by
  simp only [recordGrant, ↓reduceIte, grantLease, commitControlCapture, freeze]
  split <;> simp [hcapture]

theorem acts_acquireControl {agent : Uuid} {owner : LeaseOwner} {fresh : Uuid} (hs : Coherent s)
    (hfresh : fresh ∉ s.minted) (hP : Releasable P s)
    (hopen : s.openConn? agent = some owner.agentConnectionId) (value : Json) (now : Nat)
    : Acts P s (s.acquireControl agent owner value now fresh).2 := by
  have hexpire := (acts_expireAgent hs hP agent now).1
  have hsessions := s.settle_sessions (s.sessions.expireAgent agent now)
  have hminted := s.settle_minted (s.sessions.expireAgent agent now)
  unfold acquireControl
  split
  . next t heq =>
    rw [heq] at hexpire
    exact hexpire
  . next t heq =>
    rw [heq] at hexpire hsessions hminted
    have hopen' := settle_expireAgent_openConn? hs heq agent
    rw [hopen] at hopen'
    simp only at hexpire hsessions hminted
    have ht := hs.acts hexpire
    apply hexpire.trans
    split
    . exact Acts.refl t
    . next frozen hvalidate =>
      have hfreezable := validateControlCapture_ok hvalidate
      split
      . exact Acts.refl t
      . have hidem : t.sessions.expireAgent agent now = ([], t.sessions) := by
          rw [hsessions]
          exact s.sessions.expireAgent_expireAgent agent now
        simp only [ControlSessions.acquire, hidem]
        cases hlease : t.sessions.lookup agent with
        | some lease =>
          simp only
          by_cases howner : lease.grant.owner = owner
          . simp only [howner, ↓reduceIte, settle_nil]
            rw [reacquire_eq ht]
            . exact Acts.refl t
            . rw [hminted]
              exact hfresh
            . exact hlease
          . simp only [howner, ↓reduceIte, settle_nil]
            exact Acts.refl t
        | none =>
          simp only [settle_nil]
          rw [grantLease_eq (ht.unfrozen agent hlease)]
          apply Acts.effect
          apply Effect.grant hlease hopen' rfl
          . rw [hminted]
            exact hfresh
          . exact hfreezable

theorem acts_heartbeatControl (hs : Coherent s) (hP : Releasable P s) (agent : Uuid)
    (owner : LeaseOwner) (token : Uuid) (now : Nat)
    : Acts P s (s.heartbeatControl agent owner token now).2 := by
  have hexpire := (acts_expireAgent hs hP agent now).1
  unfold heartbeatControl
  simp only [ControlSessions.heartbeat]
  rcases s.sessions.authorize_cases agent now owner token with
    ⟨⟨e, herror⟩, hpair⟩ | ⟨lease, hlease, _, _, _, heq⟩
  . simp only [herror, hpair]
    exact hexpire
  . simp only [heq, hlease, settle_nil]
    exact Acts.effect (.renew _ hlease)

theorem acts_releaseControl (hs : Coherent s) (hP : Releasable P s) (agent : Uuid)
    (owner : LeaseOwner) (token : Uuid) (now : Nat)
    : Acts P s (s.releaseControl agent owner token now).2 := by
  have hexpire := (acts_expireAgent hs hP agent now).1
  unfold releaseControl
  simp only [ControlSessions.release]
  rcases s.sessions.authorize_cases agent now owner token with
    ⟨⟨e, herror⟩, hpair⟩ | ⟨lease, hlease, _, _, _, heq⟩
  . simp only [herror, hpair]
    exact hexpire
  . simp only [heq, List.nil_append]
    exact (acts_remove hs hP agent .released).1

theorem acts_controlLeaseMessage {fresh : Uuid} (hs : Coherent s) (hfresh : fresh ∉ s.minted)
    (hP : Releasable P s) (viewer : Uuid) (user : AuthUser) (value : Json) (now : Nat)
    : Acts P s (s.controlLeaseMessage viewer user value now fresh).2 := by
  have hresult : ∀ agent, Acts P s (s.controlLeaseResult agent viewer user value now fresh).2 := by
    intro agent
    unfold controlLeaseResult
    simp only
    split
    . exact Acts.refl s
    . next owner howner =>
      have hopen := (currentControlOwner_ok howner).1
      split
      . exact Acts.refl s
      . split
        . exact acts_acquireControl hs hfresh hP hopen value now
        . split
          . exact Acts.refl s
          . next token htoken =>
            split
            . exact acts_heartbeatControl hs hP agent owner token now
            . split
              . exact acts_releaseControl hs hP agent owner token now
              . exact Acts.refl s
  unfold controlLeaseMessage
  simp only
  split
  . next agent request hagent hrequest =>
    have := hresult agent
    split
    . next heq =>
      rw [heq] at this
      exact this
    . next heq =>
      rw [heq] at this
      exact this
    . next heq =>
      rw [heq] at this
      exact this
  . exact Acts.refl s

/-!
The input of a viewer.
-/

-- Input that finds no room ends the lease together with the connection.
theorem acts_lostInput {t : AppState} {agent : Uuid} {lease : Lease} {held : HeldInput}
    (hs : Coherent s) (hlease : s.sessions.lookup agent = some lease)
    (hP : Releasable P (s.setLease agent { lease with held }))
    (hsame : SameCore (s.setLease agent { lease with held }) t)
    : Acts P s ((t.shutdown lease.grant.owner.agentConnectionId "").revokeAgentControl agent
        lease.grant.owner.agentConnectionId) := by
  have hlost : Acts P s (t.shutdown lease.grant.owner.agentConnectionId "") :=
    Acts.effect_same (.lost held hlease) (hsame.modifySocket _ _)
  apply hlost.trans
  refine (acts_revokeAgentControl (hs.acts hlost) ?_ agent _).1
  intro other l hl
  apply hP other l
  rw [← hsame.sessions]
  exact hl

theorem acts_enqueueViewerInput {agent : Uuid} {lease : Lease} {held : HeldInput}
    {cmd authorized : Json} (hs : Coherent s) (hlease : s.sessions.lookup agent = some lease)
    (hP : Releasable P (s.setLease agent { lease with held }))
    (hinput : P lease.grant.owner.agentConnectionId
      { control := .text authorized, origin := .input lease.grant.token })
    (hopen : s.openConn? agent = some lease.grant.owner.agentConnectionId)
    (hkind : isRemoteInput cmd.kind = true)
    (hauth : s.authorizeAgentCommand agent cmd = .ok authorized)
    (htrack : lease.held.track cmd = .ok held)
    : Acts P s ((s.setLease agent { lease with held }).enqueueViewerInput agent
        lease.grant.owner.agentConnectionId lease.grant.token authorized).2 := by
  unfold enqueueViewerInput
  split
  . next t heq =>
    have hset : Coherent (s.setLease agent { lease with held }) := hs.setLease hlease rfl rfl
    have hpush := (enqueueAuthorizedCommand_ok hset heq).2
    exact Acts.effect_same (.input hlease hopen hkind hauth htrack hinput) hpush
  . next e t heq =>
    have hsame := enqueueAuthorizedCommand_error heq
    have hconn : t.connId? agent = some lease.grant.owner.agentConnectionId := by
      rw [hsame.connId?]
      exact (connId?_of_openConn? hopen).1
    simp only [hconn, ↓reduceIte]
    exact acts_lostInput hs hlease hP hsame

theorem acts_sendViewerInput {agent viewer : Uuid} {user : AuthUser} {token : Option Uuid}
    {cmd : Json} {now : Nat} (hs : Coherent s) (hkind : isRemoteInput cmd.kind = true)
    : Acts (Placed s (.viewerCommand agent viewer user token cmd now)) s
        (s.sendViewerInput agent viewer user token cmd now).2 := by
  generalize hop : Op.viewerCommand agent viewer user token cmd now = op
  have hP := releasable_placed s op
  have hexpire := (acts_expireAgent hs hP agent now).1
  unfold sendViewerInput
  split
  . exact Acts.refl s
  . next owner howner =>
    split
    . exact Acts.refl s
    . next token =>
      split
      . exact Acts.refl s
      . next authorized hauth =>
        simp only [ControlSessions.authorizeAndTrack]
        rcases s.sessions.authorize_cases agent now owner token with
          ⟨⟨e, herror⟩, hpair⟩ | ⟨lease, hlease, hlowner, hltoken, hlive, heq⟩
        . simp only [herror, hpair]
          exact hexpire
        . simp only [heq, hlease]
          cases htrack : lease.held.track cmd with
          | error e =>
            simp only [settle_nil]
            exact Acts.refl s
          | ok held =>
            simp only [settle_nil]
            subst hlowner hltoken
            have hok := currentControlOwner_ok howner
            apply acts_enqueueViewerInput hs hlease _ _ hok.1 hkind hauth htrack
            . intro other l hl item hitem
              simp only [setLease, Table.lookup_insert_eq] at hl
              split at hl
              . cases hl
                simp only [releaseItems, List.mem_map] at hitem
                rcases hitem with ⟨command, hmem, heq⟩
                subst heq
                have hheld : held = lease.held ∨ ∃ cmd, lease.held.track cmd = .ok held :=
                  Or.inr ⟨cmd, htrack⟩
                exact @Placed.release s op agent lease held command hlease hheld hmem
              . exact hP other l hl item hitem
            . apply Placed.input hop.symm hlease hok.2.1 hok.2.2 hlive
              rw [kind_authorized hauth]
              exact hkind

/-!
Commands that need no lease.
-/

theorem acts_authorizeSend (s : AppState) (agent : Uuid) (cmd : Json)
    : Acts P s ((s.authorizeSend agent cmd).toOption.getD s) := by
  unfold authorizeSend
  split
  . exact Acts.refl s
  . next command hauth =>
    have hkind := kind_authorized hauth
    split
    . exact Acts.refl s
    . next hcapture =>
      split
      . exact Acts.refl s
      . next hinput =>
        split
        . exact Acts.refl s
        . next conn hconn =>
          apply Acts.effect
          apply Effect.launch hconn _ (stamped_authorized hauth)
          simp only [not_or, Bool.not_eq_true] at hcapture hinput
          rw [← hkind] at hcapture hinput
          exact {
            ordinary := ⟨hinput.1, by simpa [Json.isCapture] using hcapture⟩
            notRead := hinput.2.1
            notWrite := hinput.2.2
          }

theorem acts_finishSend {op : Op} (hs : Coherent s) (index : Nat)
    : Acts (Placed s op) s (s.finishSend index).2 := by
  unfold finishSend
  split
  . exact Acts.refl s
  . next agent conn command hentry =>
    have hmem : (agent, conn, command) ∈ s.inflight := List.mem_of_getElem? hentry
    have hplain := hs.inflight _ hmem
    have hsame : SameCore s { s with inflight := s.inflight.eraseIdx index } := by
      constructor <;> simp [List.eraseIdx_subset]
    generalize hres : enqueueAuthorizedCommand _ agent conn command .command = res
    rcases res with ⟨result, t⟩
    cases result with
    | error e => exact (Acts.same hsame).trans (Acts.same (enqueueAuthorizedCommand_error hres))
    | ok _ =>
      have hok := enqueueAuthorizedCommand_ok (hs.same hsame) hres
      have heffect : Effect (Placed s op) s
          (s.push conn { control := .text command, origin := .command }) :=
        .push hok.1 hplain.ordinary (Or.inr hmem) (.plain hplain)
      exact Acts.effect_same heffect ((hsame.modifySocket _ _).trans hok.2)

/-!
Clipboard RPCs.
-/

theorem clipboardValid_true {t : AppState} {p : PendingClipboard} {now : Nat}
    (h : s.clipboardValid p now = (true, t))
    : t = s
        ∧ s.openConn? p.agent = some p.owner.agentConnectionId
        ∧ ∃ lease, s.sessions.lookup p.agent = some lease
          ∧ lease.grant.owner = p.owner
          ∧ lease.grant.token = p.token
          ∧ now < lease.grant.expiresAt := by
  unfold clipboardValid at h
  split at h
  . simp at h
  . next hopen =>
    simp only [not_or, not_le, ne_eq, not_not] at hopen
    rcases s.sessions.authorize_cases p.agent now p.owner p.token with
      ⟨⟨e, herror⟩, hpair⟩ | ⟨lease, hlease, howner, htoken, hlive, heq⟩
    . simp [herror] at h
    . simp only [heq, settle_nil] at h
      refine ⟨?_, hopen.2, lease, hlease, howner, htoken, hlive⟩
      split at h
      . simp only [Prod.mk.injEq] at h
        exact h.2.symm
      . simp at h

theorem acts_clipboardValid (hs : Coherent s) (hP : Releasable P s) (p : PendingClipboard)
    (now : Nat) : Acts P s (s.clipboardValid p now).2 := by
  have hexpire := (acts_expireAgent hs hP p.agent now).1
  unfold clipboardValid
  split
  . exact Acts.refl s
  . rcases s.sessions.authorize_cases p.agent now p.owner p.token with
      ⟨⟨e, herror⟩, hpair⟩ | ⟨lease, hlease, _, _, _, heq⟩
    . simp only [herror, hpair]
      exact hexpire
    . simp only [heq, settle_nil]
      split <;> exact Acts.refl s

theorem ordinary_of_kind {command : Json} {kind : String} (h : command.kind = kind)
    (hkind : isRemoteInput kind = false ∧ kind ≠ "start_capture" ∧ kind ≠ "stop_capture")
    : Ordinary command := by
  unfold Ordinary Json.isCapture
  rw [h]
  exact ⟨hkind.1, by simpa using hkind.2⟩

theorem ordinary_clipboard {request : ClipboardRequest} {id : Uuid} {command : Json}
    (h : request.command id = .ok command) : Ordinary command := by
  unfold ClipboardRequest.command at h
  simp only at h
  split at h
  . cases h
    exact ordinary_of_kind (rfl : _ = "ClipboardRead") (by decide)
  . split at h
    . cases h
      exact ordinary_of_kind (rfl : _ = "ClipboardWrite") (by decide)
    . contradiction
  . contradiction

theorem httpOwner_some {sessions : ControlSessions} {agent user token : Uuid} {owner : LeaseOwner}
    (h : sessions.httpOwner agent user token = some owner)
    : ∃ lease, sessions.lookup agent = some lease
        ∧ lease.grant.token = token
        ∧ lease.grant.owner.userId = user
        ∧ lease.grant.owner = owner := by
  unfold ControlSessions.httpOwner at h
  rw [Option.map_eq_some_iff] at h
  rcases h with ⟨lease, hlease, howner⟩
  rw [Option.filter_eq_some_iff] at hlease
  simp only [decide_eq_true_eq] at hlease
  exact ⟨lease, hlease.1, hlease.2.1, hlease.2.2, howner⟩

theorem acts_enqueueClipboard {p : PendingClipboard} {authorized : Json} {now : Nat}
    (hs : Coherent s) (hrelease : Releasable P s) (hordinary : Ordinary authorized)
    (hstamp : Stamped s p.agent authorized)
    (hP : ∀ lease, s.sessions.lookup p.agent = some lease → now < lease.grant.expiresAt →
      P p.owner.agentConnectionId { control := .text authorized, origin := .command })
    (fresh : Uuid) : Acts P s (s.enqueueClipboard p authorized now fresh).2 := by
  have hvalid := acts_clipboardValid hs hrelease p now
  unfold enqueueClipboard
  split
  . next t heq =>
    rw [heq] at hvalid
    exact hvalid
  . next t heq =>
    rcases clipboardValid_true heq with ⟨ht, _, lease, hlease, _, _, hlive⟩
    subst ht
    have hinsert : SameCore t { t with clipboard := t.clipboard.insert fresh p } := by
      constructor <;> simp
    split
    . exact Acts.refl t
    . split
      . next u hres =>
        have hok := enqueueAuthorizedCommand_ok (hs.same hinsert) hres
        have heffect : Effect P t (t.push p.owner.agentConnectionId
            { control := .text authorized, origin := .command }) :=
          .push hok.1 hordinary (Or.inl hstamp) (hP lease hlease hlive)
        exact Acts.effect_same heffect ((hinsert.modifySocket _ _).trans hok.2)
      . next e u hres =>
        have hsame := hinsert.trans (enqueueAuthorizedCommand_error hres)
        apply Acts.same (hsame.trans _)
        constructor <;> simp

theorem acts_clipboardExchange {agent : Uuid} {user : AuthUser} {request : ClipboardRequest}
    {now : Nat} {fresh : Uuid} (hs : Coherent s)
    : Acts (Placed s (.clipboardRequest agent user request now fresh)) s
        (s.clipboardExchange agent user request now fresh).2 := by
  generalize hop : Op.clipboardRequest agent user request now fresh = op
  have hmint : SameCore s { s with minted := fresh :: s.minted } := by
    constructor <;> simp
  have hP : Releasable (Placed s op) { s with minted := fresh :: s.minted } :=
    releasable_placed s op
  unfold clipboardExchange
  split
  . exact Acts.refl s
  . apply (Acts.same hmint).trans
    simp only
    split
    . exact Acts.refl _
    . next command hcommand =>
      split
      . exact Acts.refl _
      . next owner howner =>
        split
        . exact Acts.refl _
        . next authorized hauth =>
          have hordinary := ordinary_authorized hauth (ordinary_clipboard hcommand)
          apply acts_enqueueClipboard (hs.same hmint) hP hordinary (stamped_authorized hauth)
          intro lease hlease hlive
          rcases httpOwner_some howner with ⟨lease', hlease', htoken, huser, howner'⟩
          rw [hlease'] at hlease
          cases hlease
          rw [← howner']
          exact Placed.clipboard hop.symm hlease' htoken huser hlive hordinary

theorem plain_clipboardCancel (id : Uuid) : Plain (clipboardCancel id) := by
  have hkind : (clipboardCancel id).kind = "ClipboardCancel" := rfl
  constructor
  . exact ordinary_of_kind hkind (by decide)
  . rw [hkind]
    decide
  . rw [hkind]
    decide

theorem acts_dropWaiter {s₀ : AppState} {op : Op} (hs : Coherent s) (id : Uuid)
    : Acts (Placed s₀ op) s (s.dropWaiter id) := by
  unfold dropWaiter
  split
  . exact Acts.refl s
  . next p hp =>
    have herase : SameCore s { s with clipboard := s.clipboard.erase id } := by
      constructor <;> simp
    generalize hres : enqueueAuthorizedCommand _ p.agent p.owner.agentConnectionId _ _ = res
    rcases res with ⟨result, t⟩
    cases result with
    | error e => exact (Acts.same herase).trans (Acts.same (enqueueAuthorizedCommand_error hres))
    | ok _ =>
      have hok := enqueueAuthorizedCommand_ok (hs.same herase) hres
      have hplain := plain_clipboardCancel id
      have heffect : Effect (Placed s₀ op) s (s.push p.owner.agentConnectionId
          { control := .text (clipboardCancel id), origin := .command }) :=
        .push hok.1 hplain.ordinary (Or.inl (Or.inl rfl)) (.plain hplain)
      exact Acts.effect_same heffect ((herase.modifySocket _ _).trans hok.2)

theorem acts_clipboardTick {op : Op} (hs : Coherent s) (id : Uuid) (now : Nat)
    : Acts (Placed s op) s (s.clipboardTick id now) := by
  unfold clipboardTick
  split
  . exact Acts.refl s
  . next p hp =>
    have hvalid := acts_clipboardValid hs (releasable_placed s op) p now
    simp only
    split
    . exact hvalid.trans (acts_dropWaiter (hs.acts hvalid) id)
    . exact hvalid

theorem acts_clipboardReceive (hs : Coherent s) (hP : Releasable P s) (id : Uuid) (now : Nat)
    : Acts P s (s.clipboardReceive id now).2 := by
  unfold clipboardReceive
  split
  . exact Acts.refl s
  . next p hp =>
    split
    . exact Acts.refl s
    . have herase : SameCore s { s with clipboard := s.clipboard.erase id } := by
        constructor <;> simp
      exact (Acts.same herase).trans (acts_clipboardValid (hs.same herase) hP p now)

theorem acts_completeClipboard (hs : Coherent s) (hP : Releasable P s) (agent conn : Uuid)
    (value : Json) (now : Nat) : Acts P s (s.completeClipboard agent conn value now) := by
  unfold completeClipboard
  split
  . exact Acts.refl s
  . split
    . exact Acts.refl s
    . next p hp =>
      split
      . exact Acts.refl s
      . apply (acts_clipboardValid hs hP p now).trans
        apply Acts.same
        constructor <;> simp

end AppState

end Vantyr
