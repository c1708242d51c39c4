import Mathlib.Data.List.Induction
import Vantyr.Agent.Disable
import Vantyr.Server.Coherence

/-!
This module proves that the agent and the server agree on reports of grants: the server accepts every
report of a device, keeps the latest one in whatever order they arrive, and accepts the answers to its
requests to disable a module.
-/

namespace Vantyr

open Permissions

/-!
Reports.
-/

def Permissions.State.moduleState (s : State) (available : Module → Bool) (m : Module) : ModuleState where
  module := m
  available := available m
  enabled := s.enabled m && available m
  revision := s.grantRevision m
  authorizationRequired := !s.enabled m

theorem ofJson_wireModule (s : State) (available : Module → Bool) (m : Module)
    : ModuleState.ofJson (s.wireModule available m) = some (s.moduleState available m) := by
  have hfields : (s.wireModule available m).structFields
      ["module", "available", "enabled", "revision", "authorization_required"] true
        = some [m.toJson, .bool (available m), .bool (s.enabled m && available m),
            .ofNat (s.grantRevision m), .bool (!s.enabled m)] := rfl
  simp only [ModuleState.ofJson, hfields, Option.bind_eq_bind, Option.bind_some, Module.ofJson_toJson,
    Json.asBool, Json.asU64_ofNat, Option.pure_def]
  rfl

theorem mapM_wireModule (s : State) (available : Module → Bool) (ms : List Module)
    : (ms.map (s.wireModule available)).mapM ModuleState.ofJson
        = some (ms.map (s.moduleState available)) := by
  induction ms with
  | nil => rfl
  | cons m ms ih =>
    simp only [List.map_cons, List.mapM_cons, ofJson_wireModule, ih, Option.bind_eq_bind,
      Option.bind_some, Option.pure_def]

theorem deserialize_wire (s : State) (available : Module → Bool)
    : ModuleReport.deserialize (s.wire available)
        = some ("module_states", 1, s.revision, Module.all.map (s.moduleState available)) := by
  have hfields : (s.wire available).structFields ["type", "schema_version", "revision", "modules"] true
      = some [.string "module_states", .ofNat 1, .ofNat s.revision,
          .array (Module.all.map (s.wireModule available))] := rfl
  simp only [ModuleReport.deserialize, hfields, Option.bind_eq_bind, Option.bind_some, Json.asStr,
    Json.asArray, Json.asU64_ofNat, mapM_wireModule, Option.pure_def]
  rfl

theorem checkModules_moduleState {s : State} (h : s.Bounded) (available : Module → Bool)
    {ms seen : List Module} (hnodup : ms.Nodup) (hseen : ∀ m ∈ ms, m ∉ seen)
    : checkModules s.revision seen (ms.map (s.moduleState available)) = .ok () := by
  induction ms generalizing seen with
  | nil => rfl
  | cons m ms ih =>
    rw [List.nodup_cons] at hnodup
    have hbound : (s.moduleState available m).revision ≤ s.revision := h m
    have hm : (s.moduleState available m).module ∉ seen := hseen m List.mem_cons_self
    rw [List.map_cons, checkModules]
    rw [if_neg hm, if_neg (Nat.not_lt.mpr hbound), if_neg, if_neg]
    . apply ih hnodup.2
      intro other hother
      rw [List.mem_cons, not_or]
      refine ⟨?_, hseen other (List.mem_cons_of_mem _ hother)⟩
      intro heq
      rw [show other = m from heq] at hother
      exact hnodup.1 hother
    . simp only [State.moduleState]
      cases available m with
      | _ => cases s.enabled m with
        | _ => decide
    . simp only [State.moduleState]
      cases available m with
      | _ => cases s.enabled m with
        | _ => decide

theorem parse_wire {s : State} (h : s.Bounded) (available : Module → Bool)
    : ∃ report, ModuleReport.parse (s.wire available) = .ok report ∧ report.revision = s.revision
        ∧ ∀ m, report.get m = s.moduleState available m := by
  have hcheck : checkModules s.revision [] (Module.all.map (s.moduleState available)) = .ok () :=
    checkModules_moduleState h available Module.nodup_all (by simp)
  have hlen : (Module.all.map (s.moduleState available)).length = Module.all.length :=
    List.length_map _
  have hclipboard : ModuleReport.withClipboard (Module.all.map (s.moduleState available))
      = Module.all.map (s.moduleState available) := by
    rw [ModuleReport.withClipboard, if_neg]
    rw [hlen]
    simp
  let report : ModuleReport := {
    revision := s.revision
    modules := Module.all.map (s.moduleState available)
    complete := hlen
    checked := hcheck
  }
  refine ⟨report, ?_, rfl, ?_⟩
  . simp only [ModuleReport.parse, deserialize_wire, ModuleReport.validate, hclipboard]
    rw [if_neg (by simp), dif_pos hlen]
    split
    . rfl
    . next heq =>
      rw [hclipboard, hcheck] at heq
      cases heq
  . intro m
    have hmem : s.moduleState available m ∈ report.modules :=
      List.mem_map.mpr ⟨m, Module.mem_all m, rfl⟩
    exact ModuleReport.get_eq_of_mem hmem

-- Two states of one device: one of them is later than the other.
def OneDevice (s t : State) : Prop :=
  s.Bounded ∧ t.Bounded ∧ (s.Extends t ∨ t.Extends s)

theorem modules_of_revision_le {s t : State} (h : OneDevice s t) (hle : s.revision ≤ t.revision)
    (m : Module) : t.modules m = s.modules m ∨ s.revision < t.grantRevision m := by
  rcases h with ⟨hs, ht, hst | hts⟩
  . exact hst.modules m
  . rcases hts.modules m with heq | hlt
    . exact .inl heq.symm
    . have := hs m
      omega

/--
Of two reports of one device the one with the greater revision follows the other, and only that one
unless they have the same revision.
-/
theorem follows_wire_iff {s t : State} (h : OneDevice s t) {available available' : Module → Bool}
    {report report' : ModuleReport} (hreport : ModuleReport.parse (s.wire available) = .ok report)
    (hreport' : ModuleReport.parse (t.wire available') = .ok report')
    : report'.follows report = true ↔ s.revision ≤ t.revision := by
  rcases parse_wire h.1 available with ⟨first, hfirst, hrevision, hget⟩
  rcases parse_wire h.2.1 available' with ⟨second, hsecond, hrevision', hget'⟩
  rw [hfirst, Except.ok.injEq] at hreport
  rw [hsecond, Except.ok.injEq] at hreport'
  rw [← hreport, ← hreport', ModuleReport.follows_iff, hrevision, hrevision']
  constructor
  . intro hfollows
    exact hfollows.1
  . intro hle
    refine ⟨hle, ?_⟩
    intro m
    have hs := h.1 m
    have ht := h.2.1 m
    simp only [hget, hget', State.moduleState]
    rcases modules_of_revision_le h hle m with heq | hlt
    . have hgrant : t.grantRevision m = s.grantRevision m := by
        simp only [State.grantRevision, heq]
      have henabled : t.enabled m = s.enabled m := by
        simp only [State.enabled, heq]
      refine ⟨by omega, fun _ => by rw [henabled], fun _ => hgrant⟩
    . refine ⟨by omega, fun hsame => by omega, fun hsame => by omega⟩

/-!
The reports of a connection.
-/

section Receiving

variable (agent conn : Uuid)

-- The reports with the availability of the modules at their time.
def receive (s : AppState) (received : List (State × (Module → Bool))) : AppState :=
  received.foldl (fun s r => (s.acceptModuleReport agent conn (r.1.wire r.2)).2) s

variable {agent conn}

theorem connections_deliverReleases (s : AppState) (token : Uuid) (commands : List Json)
    : (s.deliverReleases agent conn token commands).2.connections = s.connections
      ∧ (s.deliverReleases agent conn token commands).2.modules = s.modules := by
  induction commands generalizing s with
  | nil => exact ⟨rfl, rfl⟩
  | cons command commands ih =>
    have htry : ∀ item, (s.trySend agent item).2.connections = s.connections
        ∧ (s.trySend agent item).2.modules = s.modules := by
      intro item
      unfold AppState.trySend
      split
      . exact ⟨rfl, rfl⟩
      . exact ⟨rfl, rfl⟩
    unfold AppState.deliverReleases
    generalize hsend : s.trySend agent _ = sent
    have := htry { control := .inputCleanup conn command, origin := .release token }
    rw [hsend] at this
    rcases sent with ⟨ok, u⟩
    cases ok with
    | true => exact ⟨(ih u).1.trans this.1, (ih u).2.trans this.2⟩
    | false => exact this

theorem connections_revoke (s : AppState)
    : (s.revokeAgentControl agent conn).connections = s.connections
      ∧ (s.revokeAgentControl agent conn).modules = s.modules := by
  have hbatch : ∀ (s : AppState) batch, (s.deliverBatch batch).2.connections = s.connections
      ∧ (s.deliverBatch batch).2.modules = s.modules := by
    intro s batch
    unfold AppState.deliverBatch
    dsimp only
    split
    . exact connections_deliverReleases _ _ _
    . exact ⟨rfl, rfl⟩
  have hcleanup : ∀ (batches : List LeaseCleanup) (s : AppState),
      (s.deliverControlCleanup batches).2.connections = s.connections
        ∧ (s.deliverControlCleanup batches).2.modules = s.modules := by
    intro batches
    induction batches with
    | nil => exact fun s => ⟨rfl, rfl⟩
    | cons batch batches ih =>
      intro s
      have hfirst := hbatch s batch
      have hrest := ih (s.deliverBatch batch).2
      exact ⟨hrest.1.trans hfirst.1, hrest.2.trans hfirst.2⟩
  exact hcleanup _ _

theorem connections_applyGrants (s : AppState) (report : ModuleReport) (revoke : Bool)
    : (s.applyGrants agent conn report revoke).connections = s.connections := by
  unfold AppState.applyGrants
  dsimp only
  split
  . split
    . exact (connections_revoke s).1
    . rfl
  . split
    . exact (connections_revoke s).1
    . rfl

-- What a report does to the report of its connection.
theorem acceptModuleReport_report {s : AppState} (hconn : s.connId? agent = some conn) {value : Json}
    {report : ModuleReport} (hparse : ModuleReport.parse value = .ok report)
    : (s.acceptModuleReport agent conn value).2.connId? agent = some conn
      ∧ ((s.acceptModuleReport agent conn value).2.moduleRuntime agent conn).map RuntimeModules.report
        = if (s.moduleRuntime agent conn).any (fun previous => !report.follows previous.report) then
            (s.moduleRuntime agent conn).map RuntimeModules.report
          else
            some report := by
  unfold AppState.acceptModuleReport
  simp only [hparse]
  rw [if_neg (by simp [hconn])]
  split
  . exact ⟨hconn, rfl⟩
  . constructor
    . simp only [AppState.connId?, AppState.setRuntime, connections_applyGrants]
      exact hconn
    . simp [AppState.moduleRuntime, AppState.setRuntime]

/--
In whatever order the reports of a device arrive, and however often, the last one of those with the
greatest revision is kept.
-/
theorem receive_latest {s : AppState} (hconn : s.connId? agent = some conn)
    (hnone : s.moduleRuntime agent conn = none) {received : List (State × (Module → Bool))}
    (hdevice : ∀ x ∈ received, ∀ y ∈ received, OneDevice x.1 y.1)
    : (receive agent conn s received).connId? agent = some conn
      ∧ (received = [] ∨ ∃ before latest after report, received = before ++ latest :: after
        ∧ ((receive agent conn s received).moduleRuntime agent conn).map RuntimeModules.report
          = some report
        ∧ ModuleReport.parse (latest.1.wire latest.2) = .ok report
        ∧ (∀ x ∈ before, x.1.revision ≤ latest.1.revision)
        ∧ ∀ x ∈ after, x.1.revision < latest.1.revision) := by
  induction received using List.reverseRecOn with
  | nil => exact ⟨hconn, .inl rfl⟩
  | append_singleton received r ih =>
    have hsub : ∀ x ∈ received, ∀ y ∈ received, OneDevice x.1 y.1 := by
      intro x hx y hy
      exact hdevice x (List.mem_append_left _ hx) y (List.mem_append_left _ hy)
    have hlast : r ∈ received ++ [r] := List.mem_append_right _ List.mem_cons_self
    rcases ih hsub with ⟨hstill, hlatest⟩
    rcases parse_wire (hdevice r hlast r hlast).1 r.2 with ⟨report, hparse, hrevision, _⟩
    have hstep : receive agent conn s (received ++ [r])
        = ((receive agent conn s received).acceptModuleReport agent conn (r.1.wire r.2)).2 := by
      simp only [receive, List.foldl_append, List.foldl_cons, List.foldl_nil]
    rcases acceptModuleReport_report hstill hparse with ⟨hkept, hreport⟩
    rw [hstep]
    refine ⟨hkept, .inr ?_⟩
    rw [hreport]
    rcases hlatest with hempty | ⟨before, latest, after, stored, hsplit, hstored, hlatest, hle, hlt⟩
    . -- The first report is stored.
      rw [hempty]
      have : receive agent conn s [] = s := rfl
      rw [this, hnone]
      exact ⟨[], r, [], report, rfl, rfl, hparse, by simp, by simp⟩
    . have hmem : latest ∈ received ++ [r] := by
        rw [hsplit]
        simp
      have hfollows := follows_wire_iff (hdevice latest hmem r hlast) hlatest hparse
      rcases Option.map_eq_some_iff.mp hstored with ⟨runtime, hruntime, hruntimeReport⟩
      rw [hruntime, Option.any_some, hruntimeReport, Option.map_some, hruntimeReport]
      by_cases hnewer : latest.1.revision ≤ r.1.revision
      . rw [if_neg (by simp [hfollows.mpr hnewer])]
        refine ⟨received, r, [], report, rfl, rfl, hparse, ?_, by simp⟩
        intro x hx
        rw [hsplit, List.mem_append, List.mem_cons] at hx
        rcases hx with hx | rfl | hx
        . exact Nat.le_trans (hle x hx) hnewer
        . exact hnewer
        . exact Nat.le_trans (Nat.le_of_lt (hlt x hx)) hnewer
      . have hnot : report.follows stored = false := by
          rw [Bool.eq_false_iff]
          intro h
          exact hnewer (hfollows.mp h)
        rw [if_pos (by rw [hnot]; rfl)]
        refine ⟨before, latest, after ++ [r], stored, by rw [hsplit]; simp, rfl, hlatest, hle, ?_⟩
        intro x hx
        rw [List.mem_append, List.mem_singleton] at hx
        rcases hx with hx | rfl
        . exact hlt x hx
        . omega

end Receiving

/-!
Answers to a request to disable a module.
-/

theorem disable_ok {s t : State} (hb : s.Bounded) (hr : s.Receipted) {m : Module} {expected : Nat}
    {id : String} {r : DisableResult} (h : s.disable m expected id = (.ok r, t))
    : t.Bounded ∧ s.Extends t ∧ (r.applied = true → expected < t.grantRevision m)
      ∧ (r = .disabled → t.enabled m = false) ∧ (r = .stale → t.grantRevision m ≠ expected) := by
  rcases s.disable_cases m expected id with ⟨res, hres, heq⟩ | ⟨hnew, hrevision, heq⟩
  . rw [heq, Prod.mk.injEq] at h
    rcases h with ⟨rfl, rfl⟩
    refine ⟨hb, .refl s, ?_, ?_, ?_⟩
    . intro happlied
      unfold State.disable at heq
      split at heq
      . cases heq
      . split at heq
        . next receipt hreceipt =>
          split at heq
          . next hsame =>
            have := hr id receipt hreceipt
            rw [hsame.1, hsame.2] at this
            exact this
          . rw [Prod.mk.injEq, Except.ok.injEq] at heq
            rw [← heq.1] at happlied
            cases happlied
        . split at heq
          . rw [Prod.mk.injEq, Except.ok.injEq] at heq
            rw [← heq.1] at happlied
            cases happlied
          . split at heq
            . cases heq
            . split at heq
              . cases heq
              . rw [Prod.mk.injEq] at heq
                exact absurd heq.1.symm hres
    . intro hdisabled
      rw [hdisabled] at hres
      exact absurd rfl hres
    . intro hstale
      unfold State.disable at heq
      split at heq
      . cases heq
      . split at heq
        . split at heq
          . rw [Prod.mk.injEq, Except.ok.injEq, hstale] at heq
            cases heq.1
          . rw [Prod.mk.injEq, Except.ok.injEq, hstale] at heq
            cases heq.1
        . split at heq
          . next hne => exact hne
          . split at heq
            . cases heq
            . split at heq
              . cases heq
              . rw [Prod.mk.injEq] at heq
                exact absurd heq.1.symm hres
  . rw [heq, Prod.mk.injEq, Except.ok.injEq] at h
    rcases h with ⟨rfl, rfl⟩
    have hgrant : (s.disabled m id).grantRevision m = s.revision + 1 := by
      have := s.grantRevision_setGrant m m false
      rw [if_pos rfl] at this
      exact this
    have hbounded := hb m
    refine ⟨State.bounded_setGrant hb m false, State.extends_disabled hnew m, ?_, ?_, ?_⟩
    . intro _
      omega
    . intro _
      simp [State.enabled, State.disabled, State.insertReceipt, State.setGrant]
    . intro hstale
      cases hstale

-- What the server reads from an answer.
def ackOf (request : ModuleDisableRequest) (r : DisableResult) (state : Json) (stopStatus : String)
    : DisableAck where
  kind := "module_disable_ack"
  commandId := request.commandId
  module := request.module
  ok := r.applied
  status := r.asStr
  state := some state
  error := none
  persisted := r.applied
  stopped := false
  stopStatus := some stopStatus

def failedOf (request : ModuleDisableRequest) (error : String) : DisableAck where
  kind := "module_disable_ack"
  commandId := request.commandId
  module := request.module
  ok := false
  status := "error"
  state := none
  error := some error
  persisted := false
  stopped := false
  stopStatus := none

def ModuleDisableRequest.command (request : ModuleDisableRequest) : Json :=
  disableModule request.module request.expectedRevision request.commandId

theorem ofJson_failed (request : ModuleDisableRequest) (error : String)
    : DisableAck.ofJson (moduleDisableFailed request.command error)
        = some (failedOf request error) := by
  have hid : Uuid.parse request.commandId.text = some request.commandId := Uuid.parse_text _
  have hmodule : Module.ofJson request.module.toJson = some request.module := Module.ofJson_toJson _
  have h1 : (moduleDisableFailed request.command error).get? "type"
      = some (.string "module_disable_ack") := rfl
  have h2 : (moduleDisableFailed request.command error).get? "command_id"
      = some (.string request.commandId.text) := rfl
  have h3 : (moduleDisableFailed request.command error).get? "module"
      = some request.module.toJson := rfl
  have h4 : (moduleDisableFailed request.command error).get? "ok" = some (.bool false) := rfl
  have h5 : (moduleDisableFailed request.command error).get? "status" = some (.string "error") := rfl
  have h6 : (moduleDisableFailed request.command error).get? "state" = none := rfl
  have h7 : (moduleDisableFailed request.command error).get? "error" = some (.string error) := rfl
  have h8 : (moduleDisableFailed request.command error).get? "persisted" = none := rfl
  have h9 : (moduleDisableFailed request.command error).get? "stopped" = none := rfl
  have h10 : (moduleDisableFailed request.command error).get? "stop_status" = none := rfl
  simp only [DisableAck.ofJson, DisableAck.defaulted, DisableAck.optional, h1, h2, h3, h4, h5, h6, h7,
    h8, h9, h10, Option.bind_eq_bind, Option.bind_some, Json.asStr, Json.asBool, hid, hmodule,
    Option.elim_some, Option.elim_none, Option.map_some, Option.pure_def]
  rfl

theorem ofJson_ack {request : ModuleDisableRequest} {value : Json} {r : DisableResult}
    {fields : List (String × Json)} {stopStatus : String}
    (hvalue : ∀ key ∈ ["type", "command_id", "module", "ok", "status", "state", "error", "persisted",
      "stopped"], value.get? key = (moduleDisableAck request.command r (.object fields)).get? key)
    (hstop : value.get? "stop_status" = some (.string stopStatus))
    : DisableAck.ofJson value = some (ackOf request r (.object fields) stopStatus) := by
  have hid : Uuid.parse request.commandId.text = some request.commandId := Uuid.parse_text _
  have hmodule : Module.ofJson request.module.toJson = some request.module := Module.ofJson_toJson _
  have h1 : value.get? "type" = some (.string "module_disable_ack") := hvalue _ (by simp)
  have h2 : value.get? "command_id" = some (.string request.commandId.text) := hvalue _ (by simp)
  have h3 : value.get? "module" = some request.module.toJson := hvalue _ (by simp)
  have h4 : value.get? "ok" = some (.bool r.applied) := hvalue _ (by simp)
  have h5 : value.get? "status" = some (.string r.asStr) := hvalue _ (by simp)
  have h6 : value.get? "state" = some (.object fields) := hvalue _ (by simp)
  have h7 : value.get? "error" = none := hvalue _ (by simp)
  have h8 : value.get? "persisted" = some (.bool r.applied) := hvalue _ (by simp)
  have h9 : value.get? "stopped" = some (.bool false) := hvalue _ (by simp)
  simp only [DisableAck.ofJson, DisableAck.defaulted, DisableAck.optional, h1, h2, h3, h4, h5, h6, h7,
    h8, h9, hstop, Option.bind_eq_bind, Option.bind_some, Json.asStr, Json.asBool, hid, hmodule,
    Option.elim_some, Option.elim_none, Option.map_some, Option.pure_def]
  rfl

theorem checkAck_eq {request : ModuleDisableRequest} {previous report : Option ModuleReport}
    {ack : DisableAck} {status : RequestStatus} (hmodule : ack.module = request.module)
    (hresult : ack.result = some status)
    (hok : ack.ok = true ↔ status = .disabled ∨ status = .duplicate)
    (hpersisted : ack.ok = true → ack.persisted = true) (hstopped : ack.stopped = false)
    (hstop : (ack.stopStatus.getD "unconfirmed").utf8ByteSize ≤ 256)
    (hstate : checkAckState request status previous ack.state = .ok report)
    : checkAck request previous ack = .ok (status, report) := by
  unfold checkAck
  rw [if_neg (by simp [hmodule]), hresult]
  dsimp only
  rw [if_neg (not_not_intro (propext hok)), if_neg, if_neg (by simp [hstopped]),
    if_neg (Nat.not_lt.mpr hstop), hstate]
  rintro ⟨hsuccess, hnot⟩
  rw [hpersisted (hok.mpr hsuccess)] at hnot
  cases hnot

theorem checkAck_failed (request : ModuleDisableRequest) (error : String)
    (previous : Option ModuleReport)
    : checkAck request previous (failedOf request error) = .ok (.error, none) := by
  apply checkAck_eq
  . rfl
  . rfl
  . simp [failedOf]
  . simp [failedOf]
  . rfl
  . have : "unconfirmed".utf8ByteSize ≤ 256 := by decide
    exact this
  . rfl

theorem checkAck_ackOf {t : State} (hb : t.Bounded) {available : Module → Bool}
    {request : ModuleDisableRequest} {r : DisableResult} {stopStatus : String}
    {previous : Option ModuleReport} {report : ModuleReport}
    (happlied : r.applied = true → request.expectedRevision < t.grantRevision request.module)
    (hdisabled : r = .disabled → t.enabled request.module = false)
    (hstale : r = .stale → t.grantRevision request.module ≠ request.expectedRevision)
    (hstop : stopStatus.utf8ByteSize ≤ 256) (hparse : ModuleReport.parse (t.wire available) = .ok report)
    (hfollows : ∀ old ∈ previous, report.follows old = true)
    : ∃ res, checkAck request previous (ackOf request r (t.wire available) stopStatus) = .ok res := by
  rcases parse_wire hb available with ⟨other, hother, _, hget⟩
  rw [hother, Except.ok.injEq] at hparse
  rw [hparse] at hother
  have hm := hget request.module
  rw [hparse] at hm
  have hprevious : previous.any (fun previous => !report.follows previous) = false := by
    rw [Option.any_eq_false]
    intro old hold
    simp [hfollows old hold]
  have hreport : ∀ status, (status = .disabled ∨ status = .duplicate →
      request.expectedRevision < t.grantRevision request.module) →
      (status = .disabled → t.enabled request.module = false) →
      (status = .stale → t.grantRevision request.module ≠ request.expectedRevision) →
      checkAckReport request status previous report = .ok () := by
    intro status hsuccess hoff hother
    simp only [checkAckReport, hm, State.moduleState, hprevious]
    rw [if_neg, if_neg, if_neg]
    . rfl
    . rintro ⟨hst, heq⟩
      exact hother hst heq
    . rintro ⟨hst, hbad⟩
      rw [hoff hst] at hbad
      simp at hbad
    . rintro ⟨hst, hle⟩
      have := hsuccess hst
      omega
  have hstate : ∀ status, checkAckReport request status previous report = .ok () →
      checkAckState request status previous (some (t.wire available)) = .ok (some report) := by
    intro status hok
    simp only [checkAckState, hother, hok]
  cases r with
  | disabled =>
    have := hreport .disabled (fun _ => happlied rfl) (fun _ => hdisabled rfl) (fun h => by cases h)
    exact ⟨_, checkAck_eq rfl rfl (by simp [ackOf, DisableResult.applied]) (fun h => h) rfl hstop
      (hstate _ this)⟩
  | duplicate =>
    have := hreport .duplicate (fun _ => happlied rfl) (fun h => by cases h) (fun h => by cases h)
    exact ⟨_, checkAck_eq rfl rfl (by simp [ackOf, DisableResult.applied]) (fun h => h) rfl hstop
      (hstate _ this)⟩
  | stale =>
    have := hreport .stale (fun h => by rcases h with h | h <;> cases h) (fun h => by cases h)
      (fun _ => hstale rfl)
    exact ⟨_, checkAck_eq rfl rfl (by simp [ackOf, DisableResult.applied]) (fun h => h) rfl hstop
      (hstate _ this)⟩
  | conflict =>
    have := hreport .conflict (fun h => by rcases h with h | h <;> cases h) (fun h => by cases h)
      (fun h => by cases h)
    exact ⟨_, checkAck_eq rfl rfl (by simp [ackOf, DisableResult.applied]) (fun h => h) rfl hstop
      (hstate _ this)⟩

theorem remoteDisable_cases (s : State) (available : Module → Bool) (failure : Option String)
    (request : ModuleDisableRequest)
    : (∃ e, remoteDisable s available failure request.command
        = (moduleDisableFailed request.command e, s))
      ∨ ∃ r t, s.disable request.module request.expectedRevision request.commandId.text = (.ok r, t)
        ∧ remoteDisable s available failure request.command
          = (moduleDisableAck request.command r (t.wire available), t) := by
  have hmodule : Module.ofJson (request.command.field "module") = some request.module :=
    Module.ofJson_toJson _
  have hrevision : (request.command.field "expected_revision").asU64
      = some request.expectedRevision := rfl
  have hid : (request.command.field "command_id").asStr = some request.commandId.text := rfl
  cases failure with
  | some e => exact .inl ⟨e, by simp only [remoteDisable]⟩
  | none =>
    rcases s.disable_cases request.module request.expectedRevision request.commandId.text with
      ⟨res, _, heq⟩ | ⟨_, _, heq⟩
    . cases res with
      | error e =>
        refine .inl ⟨e, ?_⟩
        simp only [remoteDisable, hmodule, hrevision, hid, heq]
      | ok r =>
        refine .inr ⟨r, s, heq, ?_⟩
        simp only [remoteDisable, hmodule, hrevision, hid, heq]
    . refine .inr ⟨.disabled, _, heq, ?_⟩
      simp only [remoteDisable, hmodule, hrevision, hid, heq]

/--
Every answer of the agent can be read, and names the request.
-/
theorem disableAndWait_cases (s : State) (available : Module → Bool) (failure : Option String)
    (request : ModuleDisableRequest) (workers : Nat)
    : (∃ e, disableAndWait s available failure request.command workers
        = (moduleDisableFailed request.command e, s))
      ∨ ∃ r t value stopStatus,
        s.disable request.module request.expectedRevision request.commandId.text = (.ok r, t)
          ∧ disableAndWait s available failure request.command workers = (value, t)
          ∧ stopStatus.utf8ByteSize ≤ 256
          ∧ DisableAck.ofJson value = some (ackOf request r (t.wire available) stopStatus) := by
  rcases remoteDisable_cases s available failure request with ⟨e, heq⟩ | ⟨r, t, hdisable, heq⟩
  . left
    refine ⟨e, ?_⟩
    unfold disableAndWait
    rw [heq]
    dsimp only
    rw [if_pos]
    intro h
    have : (moduleDisableFailed request.command e).field "status" = .string "error" := rfl
    rw [this] at h
    revert h
    decide
  . right
    unfold disableAndWait
    rw [heq]
    dsimp only
    split
    . refine ⟨r, t, _, "unconfirmed", hdisable, rfl, by decide, ?_⟩
      exact ofJson_ack (fun _ _ => rfl) rfl
    . let stopStatus :=
        if workers = 0 then "registered_local_workers_drained_global_unconfirmed"
        else "local_barrier_timeout"
      refine ⟨r, t, _, stopStatus, hdisable, rfl, ?_, ?_⟩
      . dsimp only [stopStatus]
        split
        . decide
        . decide
      . apply ofJson_ack
        . intro key hkey
          have h1 : key ≠ "stop_status" := by
            rintro rfl
            revert hkey
            decide
          have h2 : key ≠ "local_registered_workers_stopped" := by
            rintro rfl
            revert hkey
            decide
          have h3 : key ≠ "local_workers_pending" := by
            rintro rfl
            revert hkey
            decide
          rw [Json.get?_setField_of_ne h1, Json.get?_setField_of_ne h2, Json.get?_setField_of_ne h3]
          rfl
        . have htype : (((moduleDisableAck request.command r (t.wire available)).setField
              "local_workers_pending" (.ofNat workers)).setField "local_registered_workers_stopped"
                (.bool (workers = 0))).get? "type" = some (.string "module_disable_ack") := by
            rw [Json.get?_setField_of_ne (by decide), Json.get?_setField_of_ne (by decide)]
            rfl
          exact Json.get?_setField_self htype _ _

/-!
The states of one device.
-/

theorem extends_take {ops : List Operation} {j k : Nat} (h : j ≤ k)
    : (State.default.run (ops.take j)).Extends (State.default.run (ops.take k)) := by
  have hsplit : ops.take k = ops.take j ++ (ops.take k).drop j := by
    have := List.take_append_drop j (ops.take k)
    rw [List.take_take, Nat.min_eq_left h] at this
    exact this.symm
  rw [hsplit, State.run_append]
  exact State.extends_run _ _

theorem oneDevice_take (ops : List Operation) (j k : Nat)
    : OneDevice (State.default.run (ops.take j)) (State.default.run (ops.take k)) := by
  refine ⟨State.bounded_run State.bounded_default _, State.bounded_run State.bounded_default _, ?_⟩
  rcases Nat.le_total j k with h | h
  . exact .inl (extends_take h)
  . exact .inr (extends_take h)

/--
The server accepts every report of a device, and each later one after it. In whatever order they
arrive the latest one is kept. Every answer to a request to disable a module is accepted as well, unless
a report of a later state has overtaken it.
-/
theorem reports_agree (ops : List Operation)
    : (∀ k available, ∃ report,
        ModuleReport.parse ((State.default.run (ops.take k)).wire available) = .ok report)
      ∧ (∀ j k available available' report report', j ≤ k
        → ModuleReport.parse ((State.default.run (ops.take j)).wire available) = .ok report
        → ModuleReport.parse ((State.default.run (ops.take k)).wire available') = .ok report'
        → report'.follows report = true)
      ∧ (∀ (s : AppState) agent conn received, s.connId? agent = some conn
        → s.moduleRuntime agent conn = none → received ≠ []
        → (∀ x ∈ received, ∃ k, x.1 = State.default.run (ops.take k))
        → ∃ before latest after report, received = before ++ latest :: after
          ∧ ((receive agent conn s received).moduleRuntime agent conn).map RuntimeModules.report
            = some report
          ∧ ModuleReport.parse (latest.1.wire latest.2) = .ok report
          ∧ (∀ x ∈ before, x.1.revision ≤ latest.1.revision)
          ∧ ∀ x ∈ after, x.1.revision < latest.1.revision)
      ∧ ∀ request available failure workers value t,
        disableAndWait (State.default.run ops) available failure request.command workers = (value, t)
        → ∃ ack, DisableAck.ofJson value = some ack ∧ ack.kind = "module_disable_ack"
          ∧ ack.commandId = request.commandId
          ∧ ∀ previous, (∀ old ∈ previous, ∃ p a, ModuleReport.parse (State.wire p a) = .ok old
              ∧ p.revision ≤ t.revision
              ∧ ((∃ k, p = State.default.run (ops.take k)) ∨ ∃ later, p = t.run later))
            → ∃ res, checkAck request previous ack = .ok res := by
  refine ⟨?_, ?_, ?_, ?_⟩
  . intro k available
    rcases parse_wire (oneDevice_take ops k k).1 available with ⟨report, hreport, _⟩
    exact ⟨report, hreport⟩
  . intro j k available available' report report' hle hreport hreport'
    rw [follows_wire_iff (oneDevice_take ops j k) hreport hreport']
    exact (extends_take hle).revision
  . intro s agent conn received hconn hnone hsome hhonest
    have hdevice : ∀ x ∈ received, ∀ y ∈ received, OneDevice x.1 y.1 := by
      intro x hx y hy
      rcases hhonest x hx with ⟨j, hj⟩
      rcases hhonest y hy with ⟨k, hk⟩
      rw [hj, hk]
      exact oneDevice_take ops j k
    rcases (receive_latest hconn hnone hdevice).2 with hempty | hlatest
    . exact absurd hempty hsome
    . exact hlatest
  . intro request available failure workers value t heq
    have hb : (State.default.run ops).Bounded := State.bounded_run State.bounded_default ops
    have hr : (State.default.run ops).Receipted :=
      State.receipted_run State.bounded_default State.receipted_default ops
    rcases disableAndWait_cases (State.default.run ops) available failure request workers with
      ⟨e, hfailed⟩ | ⟨r, t', value', stopStatus, hdisable, hack, hstop, hofJson⟩
    . rw [hfailed, Prod.mk.injEq] at heq
      refine ⟨failedOf request e, ?_, rfl, rfl, ?_⟩
      . rw [← heq.1]
        exact ofJson_failed request e
      . intro previous _
        exact ⟨_, checkAck_failed request e previous⟩
    . rw [hack, Prod.mk.injEq] at heq
      rcases heq with ⟨rfl, rfl⟩
      rcases disable_ok hb hr hdisable with ⟨hbounded, hextends, happlied, hoff, hstale⟩
      rcases parse_wire hbounded available with ⟨report, hparse, _⟩
      refine ⟨_, hofJson, rfl, rfl, ?_⟩
      intro previous hprevious
      apply checkAck_ackOf hbounded happlied hoff hstale hstop hparse
      intro old hold
      rcases hprevious old hold with ⟨p, a, hold, hle, hp⟩
      have hdevice : OneDevice p t' := by
        rcases hp with ⟨k, rfl⟩ | ⟨later, rfl⟩
        . refine ⟨(oneDevice_take ops k k).1, hbounded, .inl (State.Extends.trans ?_ hextends)⟩
          rcases Nat.le_total k ops.length with hk | hk
          . have htake : (State.default.run (ops.take k)).Extends
                (State.default.run (ops.take ops.length)) := extends_take hk
            rw [List.take_length] at htake
            exact htake
          . rw [List.take_of_length_le hk]
            exact .refl _
        . exact ⟨State.bounded_run hbounded later, hbounded, .inr (State.extends_run t' later)⟩
      rw [follows_wire_iff hdevice hold hparse]
      exact hle

namespace Example

def screenOn : State :=
  State.default.run [.localSet .liveScreen true]

def disableScreen : ModuleDisableRequest where
  commandId := 9
  agentId := 1
  module := .liveScreen
  expectedRevision := 1
  status := .sent
  error := none
  persisted := false
  stopStatus := "unconfirmed"

def screenOff : Json × State :=
  disableAndWait screenOn (fun _ => true) none disableScreen.command 0

end Example

/--
While the agent waits for its workers before it answers, the module can be turned on again on the
device: the report of that overtakes the answer, which is then refused.
-/
theorem overtaken_ack_refused
    : ∃ ack report, DisableAck.ofJson Example.screenOff.1 = some ack
      ∧ ModuleReport.parse
          ((Example.screenOff.2.run [.localSet .liveScreen true]).wire (fun _ => true)) = .ok report
      ∧ checkAck Example.disableScreen (some report) ack
        = .error (.message "backward acknowledgment report") := by
  have hrefused : (DisableAck.ofJson Example.screenOff.1).any (fun ack =>
      (ModuleReport.parse ((Example.screenOff.2.run [.localSet .liveScreen true]).wire
        (fun _ => true))).toOption.any (fun report =>
          checkAck Example.disableScreen (some report) ack
            = .error (.message "backward acknowledgment report"))) = true := by
    decide +kernel
  rcases (Option.any_eq_true _ _).mp hrefused with ⟨ack, hack, hcheck⟩
  rcases (Option.any_eq_true _ _).mp hcheck with ⟨report, hreport, hcheck⟩
  refine ⟨ack, report, hack, ?_, of_decide_eq_true hcheck⟩
  cases hparse : ModuleReport.parse ((Example.screenOff.2.run [.localSet .liveScreen true]).wire
    (fun _ => true)) with
  | error => rw [hparse] at hreport; cases hreport
  | ok parsed =>
    rw [hparse] at hreport
    rw [Option.some.inj hreport]

end Vantyr
