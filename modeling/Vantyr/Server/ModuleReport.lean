import Mathlib.Data.List.Nodup
import Mathlib.Data.List.Perm.Subperm
import Vantyr.Protocol.Commands

/-!
This module contains the validated reports of device-owned grants, `ModuleReport` in
`server/src/agents/modules/mod.rs`, with the order in which the reports of one connection may follow
each other.
-/

namespace Vantyr

structure ModuleState where
  module : Module
  available : Bool
  enabled : Bool
  revision : Nat
  authorizationRequired : Bool
  deriving DecidableEq, Repr

namespace ModuleState

def granted (st : ModuleState) : Bool :=
  st.available && st.enabled && !st.authorizationRequired

def ofJson (value : Json) : Option ModuleState := do
  let names := ["module", "available", "enabled", "revision", "authorization_required"]
  match ← value.structFields names true with
  | [m, available, enabled, revision, authorizationRequired] =>
    return {
      module := ← Module.ofJson m
      available := ← available.asBool
      enabled := ← enabled.asBool
      revision := ← revision.asU64
      authorizationRequired := ← authorizationRequired.asBool
    }
  | _ => none

end ModuleState

-- What went wrong in the deserialiser is not part of the model, the texts of the checks are.
inductive ReportError where
  | deserialize
  | message (text : String)
  deriving DecidableEq, Repr

def checkModules (revision : Nat) (seen : List Module) : List ModuleState → Except ReportError Unit
  | [] => .ok ()
  | st :: rest =>
    if st.module ∈ seen then
      .error (.message "duplicate module")
    else if revision < st.revision then
      .error (.message "module revision exceeds report revision")
    else if st.enabled && !(st.available && !st.authorizationRequired) then
      .error (.message "inconsistent grant")
    else if st.available && st.authorizationRequired != !st.enabled then
      .error (.message "inconsistent authorization_required")
    else
      checkModules revision (st.module :: seen) rest

/--
A report that passed the checks of `ModuleReport::parse`. These make it complete, so that looking up
a module cannot fail.
-/
structure ModuleReport where
  revision : Nat
  modules : List ModuleState
  complete : modules.length = Module.all.length
  checked : checkModules revision [] modules = .ok ()
  deriving DecidableEq

theorem checkModules_nodup {revision : Nat} {seen : List Module} {modules : List ModuleState}
    (h : checkModules revision seen modules = .ok ())
    : (modules.map ModuleState.module).Nodup
        ∧ ∀ st ∈ modules, st.module ∉ seen ∧ st.revision ≤ revision := by
  induction modules generalizing seen with
  | nil => simp
  | cons st rest ih =>
    unfold checkModules at h
    split at h
    . contradiction
    . next hseen =>
      split at h
      . contradiction
      . next hrevision =>
        split at h
        . contradiction
        . split at h
          . contradiction
          . have hrest := ih h
            constructor
            . rw [List.map_cons, List.nodup_cons]
              refine ⟨?_, hrest.1⟩
              intro hmem
              rw [List.mem_map] at hmem
              rcases hmem with ⟨other, hother, heq⟩
              have := (hrest.2 other hother).1
              rw [heq] at this
              simp at this
            . intro other hother
              rw [List.mem_cons] at hother
              cases hother with
              | inl heq =>
                subst heq
                exact ⟨hseen, by omega⟩
              | inr hmem =>
                have := hrest.2 other hmem
                simp only [List.mem_cons, not_or] at this
                exact ⟨this.1.2, this.2⟩

namespace ModuleReport

theorem find?_isSome (report : ModuleReport) (m : Module)
    : (report.modules.find? (fun st => st.module = m)).isSome := by
  have hnodup := (checkModules_nodup report.checked).1
  have hsubset : report.modules.map ModuleState.module ⊆ Module.all := by
    intro m _
    exact Module.mem_all m
  have hperm : (report.modules.map ModuleState.module).Perm Module.all := by
    apply (hnodup.subperm hsubset).perm_of_length_le
    rw [List.length_map, report.complete]
  have hmem : m ∈ report.modules.map ModuleState.module := by
    rw [hperm.mem_iff]
    exact Module.mem_all m
  rw [List.mem_map] at hmem
  rcases hmem with ⟨st, hst, heq⟩
  rw [List.find?_isSome]
  exact ⟨st, hst, by simpa using heq⟩

def get (report : ModuleReport) (m : Module) : ModuleState :=
  (report.modules.find? (fun st => st.module = m)).get (report.find?_isSome m)

def follows (report previous : ModuleReport) : Bool :=
  previous.revision ≤ report.revision
    && report.modules.all (fun current =>
      let old := previous.get current.module
      old.revision ≤ current.revision
        && (current.revision != old.revision
          || current.authorizationRequired == old.authorizationRequired)
        && (report.revision != previous.revision || current.revision == old.revision))

-- Older agents omit the clipboard, which is then neither available nor authorized.
def missingClipboard : ModuleState :=
  {
    module := .clipboard
    available := false
    enabled := false
    revision := 0
    authorizationRequired := true
  }

def withClipboard (modules : List ModuleState) : List ModuleState :=
  if modules.length = Module.all.length - 1 ∧ modules.all (fun st => st.module ≠ .clipboard) then
    modules ++ [missingClipboard]
  else
    modules

def validate (kind : String) (schemaVersion revision : Nat) (reported : List ModuleState)
    : Except ReportError ModuleReport :=
  let modules := withClipboard reported
  if kind ≠ "module_states" ∨ schemaVersion ≠ 1 then
    .error (.message "unsupported module report schema")
  else if complete : modules.length = Module.all.length then
    match checked : checkModules revision [] modules with
    | .ok () => .ok { revision, modules, complete, checked }
    | .error e => .error e
  else
    .error (.message "report must contain all modules")

def deserialize (value : Json) : Option (String × Nat × Nat × List ModuleState) := do
  match ← value.structFields ["type", "schema_version", "revision", "modules"] true with
  | [kind, schemaVersion, revision, modules] =>
    let schemaVersion ← schemaVersion.asU64
    guard (schemaVersion < 2 ^ 32)
    return (← kind.asStr, schemaVersion, ← revision.asU64, ← (← modules.asArray).mapM ModuleState.ofJson)
  | _ => none

def parse (value : Json) : Except ReportError ModuleReport :=
  match deserialize value with
  | some (kind, schemaVersion, revision, modules) => validate kind schemaVersion revision modules
  | none => .error .deserialize

theorem get_mem (report : ModuleReport) (m : Module)
    : report.get m ∈ report.modules ∧ (report.get m).module = m := by
  have hfind : report.modules.find? (fun st => st.module = m) = some (report.get m) := by
    simp [get]
  constructor
  . exact List.mem_of_find?_eq_some hfind
  . simpa using List.find?_some hfind

theorem get_eq_of_mem {report : ModuleReport} {st : ModuleState} (h : st ∈ report.modules)
    : report.get st.module = st := by
  have hnodup := (checkModules_nodup report.checked).1
  have hget := report.get_mem st.module
  exact List.inj_on_of_nodup_map hnodup hget.1 h hget.2

/--
What `follows` says about one module: its revision does not go back, and as long as it stays the same
so does the authorization of the module (but not its availability).
-/
theorem follows_iff (report previous : ModuleReport)
    : report.follows previous = true
        ↔ previous.revision ≤ report.revision
          ∧ ∀ m,
            (previous.get m).revision ≤ (report.get m).revision
              ∧ ((report.get m).revision = (previous.get m).revision →
                (report.get m).authorizationRequired = (previous.get m).authorizationRequired)
              ∧ (report.revision = previous.revision →
                (report.get m).revision = (previous.get m).revision) := by
  simp only [follows, Bool.and_eq_true, decide_eq_true_eq, List.all_eq_true, Bool.or_eq_true,
    bne_iff_ne, beq_iff_eq]
  constructor
  . intro h
    refine ⟨h.1, ?_⟩
    intro m
    have hm := h.2 _ (report.get_mem m).1
    rw [(report.get_mem m).2] at hm
    refine ⟨hm.1.1, ?_, ?_⟩
    . intro heq
      cases hm.1.2 with
      | inl hne => contradiction
      | inr hauth => exact hauth
    . intro heq
      cases hm.2 with
      | inl hne => contradiction
      | inr hrevision => exact hrevision
  . intro h
    refine ⟨h.1, ?_⟩
    intro st hst
    have hm := h.2 st.module
    rw [get_eq_of_mem hst] at hm
    refine ⟨⟨hm.1, ?_⟩, ?_⟩
    . rw [← imp_iff_not_or]
      exact hm.2.1
    . rw [← imp_iff_not_or]
      exact hm.2.2

end ModuleReport

end Vantyr
