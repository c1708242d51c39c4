import Vantyr.Protocol.Commands
import Vantyr.Protocol.Lenient

/-!
This module contains the server commands with their payloads (`protocol/src/commands.rs`). A command that
is written is read back, the gate of a command depends on its type alone, and a payload field of another
type leaves the rest of the command as it is.
-/

namespace Vantyr

/-!
The payload structs, field by field.
-/
namespace Payload

def disableModule : List FieldSpec :=
  [⟨"module", .opt .module⟩, ⟨"expected_revision", .opt .u64⟩, ⟨"command_id", .uuid⟩]

def historyFrameAck : List FieldSpec :=
  [⟨"uid", .string⟩, ⟨"rejected", .opt .bool⟩, ⟨"reason", .opt .string⟩]

def clipboardRequest : List FieldSpec :=
  [⟨"request_id", .uuid⟩]

def clipboardWrite : List FieldSpec :=
  [⟨"request_id", .uuid⟩, ⟨"text", .opt .string⟩]

def terminalSize : List FieldSpec :=
  [⟨"session_id", .uuid⟩, ⟨"cols", .opt .u64⟩, ⟨"rows", .opt .u64⟩]

def terminalInput : List FieldSpec :=
  [⟨"session_id", .uuid⟩, ⟨"data", .opt .string⟩]

def terminalSession : List FieldSpec :=
  [⟨"session_id", .uuid⟩]

def setAutoUpdate : List FieldSpec :=
  [⟨"enabled", .opt .bool⟩]

def setNetworkPolicy : List FieldSpec :=
  [⟨"blocked", .opt .bool⟩]

def blockRules : List FieldSpec :=
  [⟨"rules", .array⟩]

def setRecallSettings : List FieldSpec :=
  [⟨"settings", .raw⟩]

def startCapture : List FieldSpec :=
  [ ⟨"jpeg_quality", .present .u64⟩, ⟨"jpeg_q", .present .u64⟩, ⟨"interval_ms", .present .number⟩,
    ⟨"fps", .opt .f64⟩, ⟨"monitor", .present .u64⟩, ⟨"monitor_index", .present .u64⟩ ]

def listLogSources : List FieldSpec :=
  [⟨"request_id", .string⟩]

def readLogTail : List FieldSpec :=
  [⟨"request_id", .string⟩, ⟨"kind", .opt .string⟩, ⟨"max_kb", .opt .u64⟩]

def filePath : List FieldSpec :=
  [⟨"path", .string⟩]

def mkdir : List FieldSpec :=
  [⟨"request_id", .string⟩, ⟨"path", .string⟩, ⟨"name", .string⟩]

def pathPair : List FieldSpec :=
  [⟨"request_id", .string⟩, ⟨"src", .string⟩, ⟨"dst", .string⟩]

def deletePath : List FieldSpec :=
  [⟨"request_id", .string⟩, ⟨"path", .string⟩, ⟨"recursive", .opt .bool⟩]

def writeFileChunk : List FieldSpec :=
  [ ⟨"path", .string⟩, ⟨"total_chunks", .opt .u64⟩, ⟨"chunk_index", .opt .u64⟩, ⟨"data", .string⟩ ]

def runScript : List FieldSpec :=
  [ ⟨"request_id", .string⟩, ⟨"shell", .opt .string⟩, ⟨"script", .string⟩,
    ⟨"timeout_secs", .opt .u64⟩ ]

end Payload

namespace CommandKind

def fields : CommandKind → List FieldSpec
  | .disableModule => Payload.disableModule
  | .historyFrameAck => Payload.historyFrameAck
  | .clipboardRead | .clipboardCancel => Payload.clipboardRequest
  | .clipboardWrite => Payload.clipboardWrite
  | .terminalStart | .terminalResize => Payload.terminalSize
  | .terminalInput => Payload.terminalInput
  | .terminalClose => Payload.terminalSession
  | .setAutoUpdate => Payload.setAutoUpdate
  | .setNetworkPolicy => Payload.setNetworkPolicy
  | .setInternetBlockRules | .setAppBlockRules => Payload.blockRules
  | .setRecallSettings => Payload.setRecallSettings
  | .startCapture => Payload.startCapture
  | .listLogSources => Payload.listLogSources
  | .readLogTail => Payload.readLogTail
  | .listDir | .readFile => Payload.filePath
  | .writeFileChunk => Payload.writeFileChunk
  | .mkdir => Payload.mkdir
  | .renamePath | .copyPath => Payload.pathPair
  | .deletePath => Payload.deletePath
  | .runScript => Payload.runScript
  | .agentDeleted | .agentCredentialsRevoked | .requestInfo | .collectSoftware | .lockHost
  | .restartHost | .shutdownHost | .updateNow | .stopCapture | .startAudio | .stopAudio
  | .mouseMove | .mouseClick | .mouseDoubleClick | .mouseDown | .mouseUp | .mouseScroll | .scroll
  | .keyDown | .keyUp | .keyPress | .keyChar | .typeText | .notify | .unknown => []

-- The name that is written; `Unknown` is not one that is read.
def name : CommandKind → String
  | .agentDeleted => "agent_deleted"
  | .agentCredentialsRevoked => "agent_credentials_revoked"
  | .disableModule => "disable_module"
  | .historyFrameAck => "history_frame_ack"
  | .clipboardRead => "ClipboardRead"
  | .clipboardWrite => "ClipboardWrite"
  | .clipboardCancel => "ClipboardCancel"
  | .terminalStart => "TerminalStart"
  | .terminalInput => "TerminalInput"
  | .terminalResize => "TerminalResize"
  | .terminalClose => "TerminalClose"
  | .requestInfo => "RequestInfo"
  | .collectSoftware => "CollectSoftware"
  | .lockHost => "LockHost"
  | .restartHost => "RestartHost"
  | .shutdownHost => "ShutdownHost"
  | .updateNow => "update_now"
  | .setAutoUpdate => "set_auto_update"
  | .setNetworkPolicy => "set_network_policy"
  | .setInternetBlockRules => "set_internet_block_rules"
  | .setRecallSettings => "set_recall_settings"
  | .setAppBlockRules => "set_app_block_rules"
  | .startCapture => "start_capture"
  | .stopCapture => "stop_capture"
  | .startAudio => "start_audio"
  | .stopAudio => "stop_audio"
  | .listLogSources => "ListLogSources"
  | .readLogTail => "ReadLogTail"
  | .listDir => "ListDir"
  | .readFile => "ReadFile"
  | .writeFileChunk => "WriteFileChunk"
  | .mkdir => "Mkdir"
  | .renamePath => "RenamePath"
  | .deletePath => "DeletePath"
  | .copyPath => "CopyPath"
  | .runScript => "RunScript"
  | .mouseMove => "MouseMove"
  | .mouseClick => "MouseClick"
  | .mouseDoubleClick => "MouseDoubleClick"
  | .mouseDown => "MouseDown"
  | .mouseUp => "MouseUp"
  | .mouseScroll => "MouseScroll"
  | .scroll => "Scroll"
  | .keyDown => "KeyDown"
  | .keyUp => "KeyUp"
  | .keyPress => "KeyPress"
  | .keyChar => "KeyChar"
  | .typeText => "TypeText"
  | .notify => "Notify"
  | .unknown => "Unknown"

@[simp]
theorem fromKind_name (kind : CommandKind) : fromKind kind.name = kind := by
  cases kind <;> rfl

theorem nodup_names (kind : CommandKind) : (kind.fields.map FieldSpec.name).Nodup := by
  cases kind <;> decide

theorem type_not_mem_names (kind : CommandKind) : "type" ∉ kind.fields.map FieldSpec.name := by
  cases kind <;> decide

theorem name_ne_type {kind : CommandKind} (i : Fin kind.fields.length)
    : (kind.fields.get i).name ≠ "type" := by
  intro heq
  apply kind.type_not_mem_names
  rw [← heq]
  exact List.mem_map_of_mem (List.get_mem kind.fields i)

end CommandKind

structure ServerCommand where
  kind : CommandKind
  payload : Record kind.fields

namespace ServerCommand

def unknown : ServerCommand where
  kind := .unknown
  payload := Record.nil

-- A tagged value is read from an object, or from a sequence that starts with the tag.
def parse : Json → ServerCommand
  | .object fields =>
    match Fields.get? "type" fields with
    | some (.string name) =>
      {
        kind := CommandKind.fromKind name
        payload := Record.ofFields _ (Fields.erase "type" fields)
      }
    | _ => unknown
  | .array (.string name :: items) =>
    if items.length ≤ (CommandKind.fromKind name).fields.length then
      { kind := CommandKind.fromKind name, payload := Record.ofItems _ items }
    else
      unknown
  | _ => unknown

def fromKind (kind : String) : ServerCommand :=
  parse (.object [("type", .string kind)])

def toValue (command : ServerCommand) : Json :=
  .object (Fields.collect command.payload.entries [("type", .string command.kind.name)])

def gate (command : ServerCommand) : Gate :=
  command.kind.gate

-- Every floating point number is finite; there is one in `start_capture`.
def Finite (command : ServerCommand) : Prop :=
  command.payload.Finite

instance (command : ServerCommand) : Decidable command.Finite :=
  inferInstanceAs (Decidable command.payload.Finite)

theorem parse_object {fields : List (String × Json)} {name : String} {kind : CommandKind}
    (h : Fields.get? "type" fields = some (.string name)) (hkind : CommandKind.fromKind name = kind)
    : parse (.object fields) = ⟨kind, Record.ofFields _ (Fields.erase "type" fields)⟩ := by
  subst hkind
  simp only [parse, h]

theorem parse_untagged {fields : List (String × Json)}
    (h : ∀ name, Fields.get? "type" fields ≠ some (.string name))
    : parse (.object fields) = unknown := by
  simp only [parse]

theorem fromKind_eq (kind : String)
    : fromKind kind = ⟨CommandKind.fromKind kind, Record.ofFields _ []⟩ := by
  have : Fields.get? "type" [("type", Json.string kind)] = some (.string kind) := by
    simp [Fields.get?_cons]
  exact parse_object this rfl

theorem get?_type_toValue (command : ServerCommand)
    : Fields.get? "type"
        (Fields.collect command.payload.entries [("type", .string command.kind.name)])
          = some (.string command.kind.name) := by
  rw [Fields.get?_collect_of_not_mem]
  . simp [Fields.get?_cons]
  . intro value hmem
    rcases Record.mem_entries.mp hmem with ⟨i, hname, -⟩
    exact CommandKind.name_ne_type i hname

theorem parse_toValue {command : ServerCommand} (h : command.Finite)
    : parse command.toValue = command := by
  rcases command with ⟨kind, payload⟩
  have hpayload : Record.ofFields kind.fields
      (Fields.erase "type" (Fields.collect payload.entries [("type", .string kind.name)]))
        = payload := by
    funext i
    apply Record.readField_of_write (h i)
    have hne := CommandKind.name_ne_type i
    rw [Fields.get?_erase_of_ne hne]
    apply Record.get?_collect_entries kind.nodup_names
    rw [Fields.get?_cons, if_neg hne.symm]
    rfl
  have hparse := parse_object (get?_type_toValue ⟨kind, payload⟩) (CommandKind.fromKind_name kind)
  rw [hpayload] at hparse
  exact hparse

-- The constructors of the payloads, as the server uses them.
def disableModule (m : Module) (expectedRevision : Nat) (commandId : Uuid) : ServerCommand where
  kind := .disableModule
  payload := Record.cons (some m) (Record.cons (some expectedRevision)
    (Record.cons (some commandId) Record.nil))

def clipboardRead (requestId : Uuid) : ServerCommand where
  kind := .clipboardRead
  payload := Record.cons (some requestId) Record.nil

def clipboardCancel (requestId : Uuid) : ServerCommand where
  kind := .clipboardCancel
  payload := Record.cons (some requestId) Record.nil

def clipboardWrite (requestId : Uuid) (text : String) : ServerCommand where
  kind := .clipboardWrite
  payload := Record.cons (some requestId) (Record.cons (some text) Record.nil)

def startCapture (monitor : Option Nat) (jpegQuality intervalMs : Nat) : ServerCommand where
  kind := .startCapture
  payload := Record.cons (some (some jpegQuality)) (Record.cons none
    (Record.cons (some (some (.posInt intervalMs))) (Record.cons none
      (Record.cons (some monitor) (Record.cons none Record.nil)))))

def stopCapture : ServerCommand where
  kind := .stopCapture
  payload := Record.nil

theorem toValue_disableModule (m : Module) (expectedRevision : Nat) (commandId : Uuid)
    : (disableModule m expectedRevision commandId).toValue
        = Vantyr.disableModule m expectedRevision commandId := by
  have hvalue : (disableModule m expectedRevision commandId).toValue
      = .object (Fields.collect
          [ ("module", m.toJson), ("expected_revision", .ofNat expectedRevision),
            ("command_id", .string commandId.text) ]
          [("type", .string "disable_module")]) := rfl
  have hmodule : "module" < "type" := by decide
  have hrevision : "expected_revision" < "module" := by decide
  have hcommand : "command_id" < "expected_revision" := by decide
  rw [hvalue]
  simp [Vantyr.disableModule, Fields.collect, Fields.insert, hmodule, hrevision, hcommand]

theorem toValue_clipboardRead (requestId : Uuid)
    : (clipboardRead requestId).toValue = Vantyr.clipboardRead requestId := by
  have hvalue : (clipboardRead requestId).toValue
      = .object (Fields.collect [("request_id", .string requestId.text)]
          [("type", .string "ClipboardRead")]) := rfl
  have hrequest : "request_id" < "type" := by decide
  rw [hvalue]
  simp [Vantyr.clipboardRead, Fields.collect, Fields.insert, hrequest]

theorem toValue_clipboardCancel (requestId : Uuid)
    : (clipboardCancel requestId).toValue = Vantyr.clipboardCancel requestId := by
  have hvalue : (clipboardCancel requestId).toValue
      = .object (Fields.collect [("request_id", .string requestId.text)]
          [("type", .string "ClipboardCancel")]) := rfl
  have hrequest : "request_id" < "type" := by decide
  rw [hvalue]
  simp [Vantyr.clipboardCancel, Fields.collect, Fields.insert, hrequest]

theorem toValue_clipboardWrite (requestId : Uuid) (text : String)
    : (clipboardWrite requestId text).toValue = Vantyr.clipboardWrite requestId text := by
  have hvalue : (clipboardWrite requestId text).toValue
      = .object (Fields.collect [("request_id", .string requestId.text), ("text", .string text)]
          [("type", .string "ClipboardWrite")]) := rfl
  have hrequest : "request_id" < "type" := by decide
  have htext : "text" < "type" := by decide
  have horder : ¬ "text" < "request_id" := by decide
  rw [hvalue]
  simp [Vantyr.clipboardWrite, Fields.collect, Fields.insert, hrequest, htext, horder]

theorem toValue_startCapture (monitor : Option Nat) (jpegQuality intervalMs : Nat)
    : (startCapture monitor jpegQuality intervalMs).toValue
        = Vantyr.startCapture monitor jpegQuality intervalMs := by
  have hvalue : (startCapture monitor jpegQuality intervalMs).toValue
      = .object (Fields.collect
          [ ("jpeg_quality", .ofNat jpegQuality), ("interval_ms", .ofNat intervalMs),
            ("monitor", monitor.elim .null .ofNat) ]
          [("type", .string "start_capture")]) := by
    cases monitor <;> rfl
  have hquality : "jpeg_quality" < "type" := by decide
  have hinterval : "interval_ms" < "jpeg_quality" := by decide
  have hmonitor : "monitor" < "type" := by decide
  have horder : ¬ "monitor" < "interval_ms" := by decide
  have horder' : ¬ "monitor" < "jpeg_quality" := by decide
  rw [hvalue]
  simp [Vantyr.startCapture, Fields.collect, Fields.insert, hquality, hinterval, hmonitor, horder,
    horder']

theorem toValue_stopCapture : stopCapture.toValue = Vantyr.stopCapture := rfl

theorem gate_parse {fields : List (String × Json)} {name : String}
    (h : Fields.get? "type" fields = some (.string name))
    : (parse (.object fields)).gate = (fromKind name).gate := by
  rw [parse_object h rfl, fromKind_eq]
  rfl

-- The gate of a raw command is that of the command which is parsed from it.
theorem gate_json (fields : List (String × Json))
    : (Json.object fields).gate = (parse (.object fields)).gate := by
  by_cases h : ∃ name, Fields.get? "type" fields = some (.string name)
  . rcases h with ⟨name, h⟩
    have hget : (Json.object fields).get? "type" = some (.string name) := h
    have hkind : (Json.object fields).kind = name := by
      rw [Json.kind, Json.field_eq_of_get? hget]
      rfl
    rw [gate_parse h, Json.gate, hkind, fromKind_eq]
    rfl
  . have hkind : (Json.object fields).kind = "" := by
      have hfield : (Json.object fields).field "type"
          = (Fields.get? "type" fields).getD .null := rfl
      rw [Json.kind, hfield]
      cases hget : Fields.get? "type" fields with
      | none => rfl
      | some value =>
        cases value with
        | string name => exact absurd ⟨name, hget⟩ h
        | _ => rfl
    rw [parse_untagged (not_exists.mp h), Json.gate, hkind]
    rfl

theorem parse_insert {fields : List (String × Json)} {command : ServerCommand}
    (h : parse (.object fields) = command) (i : Fin command.kind.fields.length) {value : Json}
    (hvalue : (command.kind.fields.get i).type.accepts value = false)
    : parse (.object (Fields.insert (command.kind.fields.get i).name value fields))
        = ⟨command.kind,
            Function.update command.payload i (command.kind.fields.get i).type.unusable⟩ := by
  subst h
  by_cases htype : ∃ name, Fields.get? "type" fields = some (.string name)
  . rcases htype with ⟨name, htype⟩
    revert i
    rw [parse_object htype rfl]
    intro i hvalue
    have hne := CommandKind.name_ne_type i
    rw [parse_object ((Fields.get?_insert_of_ne hne.symm ..).trans htype) rfl]
    congr 1
    rw [← Record.ofFields_insert (CommandKind.nodup_names _) i hvalue]
    funext j
    apply Record.readField_congr
    have hj := CommandKind.name_ne_type j
    rw [Fields.get?_erase_of_ne hj]
    by_cases hji : j = i
    . rw [hji, Fields.get?_insert_self, Fields.get?_insert_self]
    . have hname : ((CommandKind.fromKind name).fields.get j).name
          ≠ ((CommandKind.fromKind name).fields.get i).name :=
        fun heq => hji (Record.name_injective (CommandKind.nodup_names _) heq)
      rw [Fields.get?_insert_of_ne hname, Fields.get?_insert_of_ne hname,
        Fields.get?_erase_of_ne hj]
  . revert i
    rw [parse_untagged (not_exists.mp htype)]
    intro i
    exact i.elim0

/--
What is written is read back, the gate of an object is that of its type alone, and a payload field of
another type has its default, except for the fields that record their presence, and leaves everything
else as it is.
-/
theorem codec_and_gates
    : (∀ command : ServerCommand, command.Finite →
        (parse command.toValue).toValue = command.toValue
          ∧ (parse command.toValue).gate = command.gate)
      ∧ (∀ (fields : List (String × Json)) (name : String),
        Fields.get? "type" fields = some (.string name) →
          (parse (.object fields)).gate = (fromKind name).gate)
      ∧ ∀ (fields : List (String × Json)) (command : ServerCommand),
        parse (.object fields) = command →
          ∀ (i : Fin command.kind.fields.length) (value : Json),
            (command.kind.fields.get i).type.accepts value = false →
              parse (.object (Fields.insert (command.kind.fields.get i).name value fields))
                = ⟨command.kind,
                    Function.update command.payload i (command.kind.fields.get i).type.unusable⟩ := by
  refine ⟨?_, ?_, ?_⟩
  . intro command h
    rw [parse_toValue h]
    exact ⟨rfl, rfl⟩
  . intro fields name h
    exact gate_parse h
  . intro fields command h i value hvalue
    exact parse_insert h i hvalue

-- A capture at 30 frames a second, of the primary monitor.
def captureAt30 : ServerCommand where
  kind := .startCapture
  payload :=
    Record.cons (some (some 80)) (Record.cons none (Record.cons (some (some (.posInt 100)))
      (Record.cons (some 0x403E000000000000) (Record.cons (some none)
        (Record.cons none Record.nil)))))

theorem codec_and_gates_captureAt30
    : ((parse captureAt30.toValue).toValue = captureAt30.toValue
          ∧ (parse captureAt30.toValue).gate = captureAt30.gate)
      ∧ (parse (.object [("jpeg_q", .bool true), ("type", .string "start_capture")])).gate
          = (fromKind "start_capture").gate
      ∧ parse (.object (Fields.insert "fps" (.string "30") [("type", .string "start_capture")]))
          = ⟨.startCapture, Function.update (Record.ofFields _ []) ⟨3, by decide⟩ none⟩ :=
  ⟨codec_and_gates.1 captureAt30 (by decide), codec_and_gates.2.1 _ _ rfl,
    codec_and_gates.2.2 [("type", .string "start_capture")] ⟨.startCapture, Record.ofFields _ []⟩ rfl
      ⟨3, by decide⟩ (.string "30") rfl⟩

-- A quality that is not a number is recorded as present.
theorem wrong_type_not_default
    : ¬ ∀ (fields : List (String × Json)) (command : ServerCommand),
      parse (.object fields) = command →
        ∀ (i : Fin command.kind.fields.length) (value : Json),
          (command.kind.fields.get i).type.accepts value = false →
            parse (.object (Fields.insert (command.kind.fields.get i).name value fields))
              = ⟨command.kind,
                  Function.update command.payload i (command.kind.fields.get i).type.default⟩ := by
  intro h
  have hcommand := h [("type", .string "start_capture")] ⟨.startCapture, Record.ofFields _ []⟩ rfl
    ⟨0, by decide⟩ (.string "high") rfl
  have := congrArg toValue hcommand
  revert this
  decide

end ServerCommand

end Vantyr
