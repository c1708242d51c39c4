import Vantyr.Server.Runtime

/-!
This module contains how the server takes in the grants of a device and asks for them to be revoked:
module reports, disable requests and their acknowledgments in `server/src/agents/modules/mod.rs`,
`api.rs` and `db.rs`. Each step holds the lifecycle gate of the device, so none of these interleave
with each other.
-/

namespace Vantyr

def disableRetryCooldown : Nat := 5 * 10 ^ 9

structure DisableAck where
  kind : String
  commandId : Uuid
  module : Module
  ok : Bool
  status : String
  state : Option Json
  error : Option String
  persisted : Bool
  stopped : Bool
  stopStatus : Option String
  deriving DecidableEq, Repr

namespace DisableAck

-- A field with a default: absent, or to be read like any other.
def defaulted {α : Type} (value : Json) (key : String) (read : Json → Option α) (default : α)
    : Option α :=
  (value.get? key).elim (some default) read

def optional {α : Type} (read : Json → Option α) : Json → Option (Option α)
  | .null => some none
  | value => (read value).map some

def ofJson (value : Json) : Option DisableAck := do
  return {
    kind := ← (← value.get? "type").asStr
    commandId := ← Uuid.parse (← (← value.get? "command_id").asStr)
    module := ← Module.ofJson (← value.get? "module")
    ok := ← (← value.get? "ok").asBool
    status := ← (← value.get? "status").asStr
    state := ← defaulted value "state" (optional some) none
    error := ← defaulted value "error" (optional Json.asStr) none
    persisted := ← defaulted value "persisted" Json.asBool false
    stopped := ← defaulted value "stopped" Json.asBool false
    stopStatus := ← defaulted value "stop_status" (optional Json.asStr) none
  }

def result (ack : DisableAck) : Option RequestStatus :=
  match ack.status with
  | "disabled" => some .disabled
  | "duplicate" => some .duplicate
  | "stale" => some .stale
  | "conflict" => some .conflict
  | "error" => some .error
  | _ => none

end DisableAck

-- The checks on the report inside an acknowledgment, against the last report of the connection.
def checkAckReport (request : ModuleDisableRequest) (status : RequestStatus)
    (previous : Option ModuleReport) (report : ModuleReport) : Except ReportError Unit :=
  let grant := report.get request.module
  let success := status = .disabled ∨ status = .duplicate
  if success ∧ grant.revision ≤ request.expectedRevision then
    .error (.message "ack revision does not follow requested generation")
  else if status = .disabled ∧ (grant.enabled ∨ !grant.authorizationRequired) then
    .error (.message "disable ack must report revoked grant")
  else if status = .stale ∧ grant.revision = request.expectedRevision then
    .error (.message "stale ack must show different generation")
  else if previous.any (fun previous => !report.follows previous) then
    .error (.message "backward acknowledgment report")
  else
    .ok ()

def checkAckState (request : ModuleDisableRequest) (status : RequestStatus)
    (previous : Option ModuleReport) (state : Option Json)
    : Except ReportError (Option ModuleReport) :=
  match state with
  | none =>
    if status = .error then .ok none else .error (.message "acknowledgment needs full report")
  | some state =>
    match ModuleReport.parse state with
    | .error e => .error e
    | .ok report =>
      match checkAckReport request status previous report with
      | .error e => .error e
      | .ok () => .ok (some report)

def checkAck (request : ModuleDisableRequest) (previous : Option ModuleReport) (ack : DisableAck)
    : Except ReportError (RequestStatus × Option ModuleReport) :=
  if request.module ≠ ack.module then
    .error (.message "acknowledgment module differs from request")
  else
    match ack.result with
    | none => .error (.message "invalid acknowledgment status")
    | some status =>
      let success := status = .disabled ∨ status = .duplicate
      if ack.ok ≠ success then
        .error (.message "invalid acknowledgment status")
      else if success ∧ !ack.persisted then
        .error (.message "successful ack must confirm durable persistence")
      else if ack.stopped then
        .error (.message "physical stop is not confirmed by this protocol")
      else if 256 < (ack.stopStatus.getD "unconfirmed").utf8ByteSize then
        .error (.message "invalid stop status")
      else
        match checkAckState request status previous ack.state with
        | .error e => .error e
        | .ok report => .ok (status, report)

namespace AppState

def nilGeneration (s : AppState) (agent : Uuid) : AppState :=
  s.setActive agent
    ((s.activeCapture agent).map (fun active => { active with generation := Uuid.nil }))

def revisionChanged (s : AppState) (agent : Uuid) (m : Module) (report : ModuleReport) : Bool :=
  (s.modules agent).any (fun old => (old.report.get m).revision ≠ (report.get m).revision)

-- Control ends and the capture is restarted unless the report leaves their grants as they were.
def applyGrants (s : AppState) (agent conn : Uuid) (report : ModuleReport) (revoke : Bool)
    : AppState :=
  let screenChanged := s.revisionChanged agent .liveScreen report
  let revoke :=
    screenChanged
      || !(report.get .liveScreen).granted
      || !(report.get .remoteInput).granted
      || revoke
      || s.revisionChanged agent .remoteInput report
  let s := if revoke then s.revokeAgentControl agent conn else s
  if screenChanged then s.nilGeneration agent else s

def setRuntime (s : AppState) (agent : Uuid) (runtime : RuntimeModules) : AppState :=
  { s with modules := Function.update s.modules agent (some runtime) }

def pendingDisables (s : AppState) (agent : Uuid) : AList (fun _ : Uuid => ModuleDisableRequest) :=
  Table.retain (fun _ request => request.agentId = agent ∧ request.pending) s.disableRequests

def acceptModuleReport (s : AppState) (agent conn : Uuid) (value : Json)
    : Except ReportError Unit × AppState :=
  match ModuleReport.parse value with
  | .error e => (.error e, s)
  | .ok report =>
    let previous := s.moduleRuntime agent conn
    if s.connId? agent ≠ some conn then
      (.error (.message "stale socket report"), s)
    else if previous.any (fun previous => !report.follows previous.report) then
      (.error (.message "backward or inconsistent module revisions"), s)
    else
      let pending := s.pendingDisables agent
      let s := { s with moduleReports := Function.update s.moduleReports agent (some report) }
      let s := s.applyGrants agent conn report
        ((Table.values pending).any (fun request => request.module = .remoteInput))
      let runtime := {
        connId := conn
        report
        pending
        sent := previous.elim [] RuntimeModules.sent
        lastSent := previous.elim (fun _ => none) RuntimeModules.lastSent
      }
      (.ok (), s.setRuntime agent runtime)

-- One round of the loop in `replay_module_disables`; the update of the row may fail.
def replayModuleDisable (s : AppState) (agent conn commandId : Uuid) (now : Nat) (marked : Bool)
    : AppState :=
  match s.moduleRuntime agent conn with
  | none => s
  | some runtime =>
    match (runtime.pending.lookup commandId).filter
        (fun request => !runtime.sent.contains request.commandId) with
    | none => s
    | some request =>
      match s.authorizeAgentCommand agent
          (disableModule request.module request.expectedRevision request.commandId) with
      | .error _ => s
      | .ok command =>
        match s.enqueueAuthorizedCommand agent conn command .command with
        | (.error _, s) => s
        | (.ok (), s) =>
          let s := s.setRuntime agent {
            runtime with
            sent := request.commandId :: runtime.sent
            lastSent := Function.update runtime.lastSent request.commandId (some now)
          }
          let mark (row : ModuleDisableRequest) :=
            if row.commandId = request.commandId ∧ row.agentId = agent ∧ row.pending then
              { row with status := .sent }
            else
              row
          if marked then
            { s with disableRequests := Table.mapValues mark s.disableRequests }
          else
            s

def acknowledge (s : AppState) (request : ModuleDisableRequest) (status : RequestStatus)
    (ack : DisableAck) : AppState :=
  {
    s with
    disableRequests := s.disableRequests.insert request.commandId {
      request with
      status
      error := ack.error.map (fun error => String.ofList (error.toList.take 1024))
      persisted := status = .disabled ∨ status = .duplicate
      stopStatus := ack.stopStatus.getD "unconfirmed"
    }
  }

def forgetPending (s : AppState) (agent conn commandId : Uuid) (report : Option ModuleReport)
    : AppState :=
  match s.moduleRuntime agent conn with
  | none => s
  | some runtime =>
    s.setRuntime agent {
      runtime with
      report := report.getD runtime.report
      pending := runtime.pending.erase commandId
      sent := runtime.sent.filter (fun id => id ≠ commandId)
      lastSent := Function.update runtime.lastSent commandId none
    }

def applyAck (s : AppState) (agent conn : Uuid) (commandId : Uuid) (report : Option ModuleReport)
    : AppState :=
  let s :=
    match report with
    | some report => s.applyGrants agent conn report false
    | none => s
  s.forgetPending agent conn commandId report

def acceptModuleDisableAck (s : AppState) (agent conn : Uuid) (value : Json) (acknowledged : Bool)
    : Except ReportError Unit × AppState :=
  match DisableAck.ofJson value with
  | none => (.error .deserialize, s)
  | some ack =>
    if ack.kind ≠ "module_disable_ack" then
      (.error (.message "invalid acknowledgment type"), s)
    else if s.connId? agent ≠ some conn then
      (.error (.message "stale socket acknowledgment"), s)
    else
      match (s.disableRequests.lookup ack.commandId).filter
          (fun request => request.agentId = agent) with
      | none => (.error (.message "uncorrelated acknowledgment"), s)
      | some request =>
        let runtime := s.moduleRuntime agent conn
        if !request.pending then
          (.ok (), s)
        else if !runtime.any (fun runtime => runtime.sent.contains ack.commandId) then
          (.error (.message "acknowledgment was not sent on this connection"), s)
        else
          match checkAck request (runtime.map RuntimeModules.report) ack with
          | .error e => (.error e, s)
          | .ok (status, report) =>
            let moduleReports :=
              match report with
              | some report => Function.update s.moduleReports agent (some report)
              | none => s.moduleReports
            let s := { s with moduleReports }
            if !acknowledged then
              (.error (.message "database unavailable"), s)
            else
              (.ok (), (s.acknowledge request status ack).applyAck agent conn ack.commandId report)

def createModuleDisable (s : AppState) (agent : Uuid) (m : Module) (revision : Nat)
    (commandId : Uuid) : AppState :=
  -- The primary key and the unique index on the pending requests of a module.
  if (s.disableRequests.lookup commandId).isSome
      ∨ (Table.values s.disableRequests).any
        (fun request => request.agentId = agent ∧ request.module = m ∧ request.pending) then
    s
  else
    {
      s with
      disableRequests := s.disableRequests.insert commandId {
        commandId
        agentId := agent
        module := m
        expectedRevision := revision
        status := .queued
        error := none
        persisted := false
        stopStatus := "unconfirmed"
      }
    }

def retryCoolingDown (runtime : RuntimeModules) (commandId : Uuid) (now : Nat) : Bool :=
  (runtime.lastSent commandId).any (fun last => now - last < disableRetryCooldown)

-- What a pending request does to the connection; `replayModuleDisable` then sends it.
def blockModule (s : AppState) (agent : Uuid) (request : ModuleDisableRequest) (retry : Bool)
    (now : Nat) : Except CommandDenied Unit × AppState :=
  match s.connId? agent with
  | none => (.ok (), s)
  | some conn =>
    let s :=
      if request.module = .remoteInput ∨ request.module = .liveScreen then
        s.revokeAgentControl agent conn
      else
        s
    match s.moduleRuntime agent conn with
    | none => (.ok (), s)
    | some runtime =>
      if retry ∧ retryCoolingDown runtime request.commandId now then
        (.error {
          code := "module_retry_cooldown"
          error := "Wait before retrying this pending disable request."
          module := none
        }, s)
      else
        let sent :=
          if retry then runtime.sent.filter (fun id => id ≠ request.commandId) else runtime.sent
        (.ok (), s.setRuntime agent {
          runtime with sent, pending := runtime.pending.insert request.commandId request
        })

def requestDisable (s : AppState) (agent : Uuid) (user : AuthUser) (m : Module)
    (expectedRevision : Nat) (commandId : Uuid) (now : Nat) (readBack : Bool)
    : Except CommandDenied Unit × AppState :=
  let row (s : AppState) :=
    (s.disableRequests.lookup commandId).filter (fun request => request.agentId = agent)
  let conflict code error := { code, error, module := none : CommandDenied }
  if !user.isOperator then
    (.error (conflict "forbidden" "Operator role required"), s)
  else if (row s).isNone ∧ (s.moduleReports agent).isNone then
    (.error (conflict "module_report_required"
      "Update the agent and obtain a module report before requesting a disable."), s)
  else if (row s).isNone
      ∧ (s.moduleReports agent).any
        (fun report => (report.get m).revision ≠ expectedRevision) then
    (.error (conflict "module_revision_conflict"
      "Module revision changed; refresh before requesting disable."), s)
  else
    let retry := (row s).isSome
    let s := s.createModuleDisable agent m expectedRevision commandId
    match (row s).filter (fun request =>
        readBack ∧ request.module = m ∧ request.expectedRevision = expectedRevision) with
    | none =>
      (.error (conflict "disable_request_conflict"
        "Command ID was reused with different binding, or this module already has a pending request."), s)
    | some request =>
      if request.pending then s.blockModule agent request retry now else (.ok (), s)

end AppState

end Vantyr
