import Vantyr.Server.Coherence

/-!
This module contains what a successful `authorize_agent_command` says about the command it returns,
and the other direction: which commands it lets through.
-/

namespace Vantyr

theorem type_of_gate {cmd : Json} {m : Module} (h : cmd.gate = .module m)
    : ∃ value, cmd.get? "type" = some value := by
  cases htype : cmd.get? "type" with
  | none =>
    have hkind : cmd.kind = "" := by simp [Json.kind, Json.field, htype, Json.asStr]
    have hdenied : (CommandKind.fromKind "").gate = .denied := rfl
    rw [Json.gate, hkind, hdenied] at h
    cases h
  | some value => exact ⟨value, rfl⟩

/--
The two ways for a command to be authorized: it is passed on as it is, or it is gated on a module that
is granted and not about to be disabled, and then stamped with the revision of the grant.
-/
theorem authorizeAgentCommand_ok {s : AppState} {agent : Uuid} {cmd command : Json}
    (h : s.authorizeAgentCommand agent cmd = .ok command)
    : cmd.get? "__module_generation" = none
        ∧ cmd.get? "__capture_generation" = none
        ∧ ((command = cmd
            ∧ ∀ conn m, s.connId? agent = some conn → cmd.gate = .module m →
              s.moduleRuntime agent conn = none)
          ∨ ∃ conn m runtime,
            s.connId? agent = some conn
              ∧ cmd.gate = .module m
              ∧ s.moduleRuntime agent conn = some runtime
              ∧ (runtime.report.get m).granted = true
              ∧ runtime.disablePending m = false
              ∧ command = cmd.setField "__module_generation"
                (generationStamp m (runtime.report.get m).revision)) := by
  unfold AppState.authorizeAgentCommand at h
  split at h
  . contradiction
  . next connection hconnection =>
    have hconn : s.connId? agent = some connection.connId := by
      simp [AppState.connId?, hconnection]
    split at h
    . contradiction
    . next htags =>
      simp only [not_or, Option.not_isSome_iff_eq_none] at htags
      refine ⟨htags.1, htags.2, ?_⟩
      simp only at h
      split at h
      . next hgate =>
        cases h
        refine Or.inl ⟨rfl, ?_⟩
        intro conn m _ hm
        rw [hgate] at hm
        contradiction
      . next hgate =>
        refine Or.inl ⟨?_, ?_⟩
        . unfold AppState.authorizeDisable at h
          split at h
          . contradiction
          . split at h
            . contradiction
            . split at h
              . contradiction
              . cases h
                rfl
        . intro conn m _ hm
          rw [hgate] at hm
          contradiction
      . contradiction
      . next m hgate =>
        unfold AppState.authorizeModule at h
        split at h
        . next hruntime =>
          split at h
          . cases h
            refine Or.inl ⟨rfl, ?_⟩
            intro conn m' hconn' _
            rw [hconn] at hconn'
            cases hconn'
            exact hruntime
          . contradiction
        . next runtime hruntime =>
          split at h
          . contradiction
          . next hgranted =>
            split at h
            . contradiction
            . next hpending =>
              cases h
              refine Or.inr ⟨_, m, runtime, hconn, hgate, hruntime, ?_, ?_, rfl⟩
              . simpa using hgranted
              . simpa using hpending

theorem authorizeAgentCommand_of_granted {s : AppState} {agent conn : Uuid} {cmd : Json}
    {m : Module} {runtime : RuntimeModules} (hconn : s.connId? agent = some conn)
    (hmodule : cmd.get? "__module_generation" = none)
    (hcapture : cmd.get? "__capture_generation" = none) (hgate : cmd.gate = .module m)
    (hruntime : s.moduleRuntime agent conn = some runtime)
    (hgranted : (runtime.report.get m).granted = true)
    (hpending : runtime.disablePending m = false)
    : s.authorizeAgentCommand agent cmd
        = .ok (cmd.setField "__module_generation"
          (generationStamp m (runtime.report.get m).revision)) := by
  unfold AppState.connId? at hconn
  cases hconnection : s.connections agent with
  | none => simp [hconnection] at hconn
  | some connection =>
    simp only [hconnection, Option.map_some, Option.some.injEq] at hconn
    subst hconn
    simp [AppState.authorizeAgentCommand, hconnection, hmodule, hcapture, hgate,
      AppState.authorizeModule, hruntime, hgranted, hpending]

-- Only the policies are delivered to devices that never reported their grants.
theorem authorizeAgentCommand_granted {s : AppState} {agent : Uuid} {cmd command : Json} {m : Module}
    (h : s.authorizeAgentCommand agent cmd = .ok command) (hgate : cmd.gate = .module m)
    (hm : m ≠ .appPolicy ∧ m ≠ .networkPolicy)
    : ∃ conn runtime,
      s.connId? agent = some conn
        ∧ s.moduleRuntime agent conn = some runtime
        ∧ (runtime.report.get m).granted = true
        ∧ runtime.disablePending m = false
        ∧ command = cmd.setField "__module_generation"
          (generationStamp m (runtime.report.get m).revision) := by
  rcases (authorizeAgentCommand_ok h).2.2 with
    ⟨_, hnone⟩ | ⟨conn, m', runtime, hconn, hgate', hruntime, hgranted, hpending, heq⟩
  . unfold AppState.authorizeAgentCommand at h
    split at h
    . contradiction
    . next connection hconnection =>
      have hconn : s.connId? agent = some connection.connId := by
        simp [AppState.connId?, hconnection]
      split at h
      . contradiction
      . simp [hgate, hnone _ m hconn hgate, AppState.authorizeModule, hm.1, hm.2] at h
  . rw [hgate] at hgate'
    cases hgate'
    exact ⟨conn, runtime, hconn, hruntime, hgranted, hpending, heq⟩

section Authorized

variable {s : AppState} {agent : Uuid} {cmd command : Json}
  (h : s.authorizeAgentCommand agent cmd = .ok command)

include h

theorem get?_authorized {key : String} (hkey : key ≠ "__module_generation")
    : command.get? key = cmd.get? key := by
  rcases (authorizeAgentCommand_ok h).2.2 with ⟨heq, _⟩ | ⟨_, _, _, _, _, _, _, _, heq⟩
  . rw [heq]
  . rw [heq, Json.get?_setField_of_ne hkey]

theorem kind_authorized : command.kind = cmd.kind := by
  simp only [Json.kind, Json.field, get?_authorized h (by decide : "type" ≠ "__module_generation")]

theorem ordinary_authorized (hcmd : Ordinary cmd) : Ordinary command := by
  unfold Ordinary Json.isCapture
  rw [kind_authorized h]
  exact hcmd

theorem stamped_authorized : Stamped s agent command := by
  have hok := authorizeAgentCommand_ok h
  rcases hok.2.2 with ⟨heq, _⟩ | ⟨conn, m, runtime, _, hgate, hruntime, hgranted, _, heq⟩
  . apply Or.inl
    rw [heq]
    exact hok.1
  . rcases type_of_gate hgate with ⟨value, htype⟩
    unfold AppState.moduleRuntime at hruntime
    rw [Option.filter_eq_some_iff] at hruntime
    apply Or.inr
    refine ⟨m, runtime, hruntime.1, hgranted, ?_⟩
    rw [heq]
    exact Json.get?_setField_self htype _ _

end Authorized

theorem kind_setField {key : String} (hkey : "type" ≠ key) (command value : Json)
    : (command.setField key value).kind = command.kind := by
  unfold Json.kind
  rw [Json.field_setField_of_ne hkey]

theorem kind_startItem {s : AppState} {agent : Uuid} {active : ActiveCapture} {command : Json}
    (h : s.authorizeAgentCommand agent
      (startCapture active.wireMonitor active.prefs.jpegQuality active.prefs.intervalMs)
        = .ok command)
    : (command.setField "__capture_generation" (.string active.generation.text)).kind
        = "start_capture" := by
  rw [kind_setField (by decide), kind_authorized h]
  rfl

theorem kind_stopItem {s : AppState} {agent : Uuid} {command : Json}
    (h : s.authorizeAgentCommand agent stopCapture = .ok command)
    : (command.setField "__capture_generation" (.string "stopped")).kind = "stop_capture" := by
  rw [kind_setField (by decide), kind_authorized h]
  rfl

end Vantyr
