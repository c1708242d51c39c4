import Vantyr.Data.Uuid
import Vantyr.Protocol.Modules

/-!
This module contains the server -> agent commands of `protocol/src/commands.rs`: the table of their
names, the gate that decides how each one is authorised, and the JSON objects of the commands the
server builds itself. Payloads do not influence the gate, so a `ServerCommand` is represented by its
kind here.
-/

namespace Vantyr

inductive CommandKind where
  | agentDeleted
  | agentCredentialsRevoked
  | disableModule
  | historyFrameAck
  | clipboardRead
  | clipboardWrite
  | clipboardCancel
  | terminalStart
  | terminalInput
  | terminalResize
  | terminalClose
  | requestInfo
  | collectSoftware
  | lockHost
  | restartHost
  | shutdownHost
  | updateNow
  | setAutoUpdate
  | setNetworkPolicy
  | setInternetBlockRules
  | setRecallSettings
  | setAppBlockRules
  | startCapture
  | stopCapture
  | startAudio
  | stopAudio
  | listLogSources
  | readLogTail
  | listDir
  | readFile
  | writeFileChunk
  | mkdir
  | renamePath
  | deletePath
  | copyPath
  | runScript
  | mouseMove
  | mouseClick
  | mouseDoubleClick
  | mouseDown
  | mouseUp
  | mouseScroll
  | scroll
  | keyDown
  | keyUp
  | keyPress
  | keyChar
  | typeText
  | notify
  | unknown
  deriving DecidableEq, Repr

inductive Gate where
  | module (m : Module)
  | protocol
  | disableModule
  | denied
  deriving DecidableEq, Repr

namespace CommandKind

def fromKind (kind : String) : CommandKind :=
  match kind with
  | "agent_deleted" => .agentDeleted
  | "agent_credentials_revoked" => .agentCredentialsRevoked
  | "disable_module" => .disableModule
  | "history_frame_ack" => .historyFrameAck
  | "ClipboardRead" => .clipboardRead
  | "ClipboardWrite" => .clipboardWrite
  | "ClipboardCancel" => .clipboardCancel
  | "TerminalStart" => .terminalStart
  | "TerminalInput" => .terminalInput
  | "TerminalResize" => .terminalResize
  | "TerminalClose" => .terminalClose
  | "RequestInfo" => .requestInfo
  | "CollectSoftware" => .collectSoftware
  | "LockHost" => .lockHost
  | "RestartHost" => .restartHost
  | "ShutdownHost" => .shutdownHost
  | "update_now" => .updateNow
  | "set_auto_update" => .setAutoUpdate
  | "set_network_policy" => .setNetworkPolicy
  | "set_internet_block_rules" => .setInternetBlockRules
  | "set_recall_settings" => .setRecallSettings
  | "set_app_block_rules" => .setAppBlockRules
  | "start_capture" => .startCapture
  | "stop_capture" => .stopCapture
  | "start_audio" => .startAudio
  | "stop_audio" => .stopAudio
  | "ListLogSources" => .listLogSources
  | "ReadLogTail" => .readLogTail
  | "ListDir" => .listDir
  | "ReadFile" => .readFile
  | "WriteFileChunk" => .writeFileChunk
  | "Mkdir" => .mkdir
  | "RenamePath" => .renamePath
  | "DeletePath" => .deletePath
  | "CopyPath" => .copyPath
  | "RunScript" => .runScript
  | "MouseMove" => .mouseMove
  | "MouseClick" => .mouseClick
  | "MouseDoubleClick" => .mouseDoubleClick
  | "MouseDown" => .mouseDown
  | "MouseUp" => .mouseUp
  | "MouseScroll" => .mouseScroll
  | "Scroll" => .scroll
  | "KeyDown" => .keyDown
  | "KeyUp" => .keyUp
  | "KeyPress" => .keyPress
  | "KeyChar" => .keyChar
  | "TypeText" => .typeText
  | "Notify" => .notify
  | _ => .unknown

def gate : CommandKind → Gate
  | .startCapture => .module .liveScreen
  | .startAudio => .module .liveAudio
  | .clipboardRead | .clipboardWrite => .module .clipboard
  | .mouseMove | .mouseClick | .mouseDoubleClick | .mouseDown | .mouseUp | .mouseScroll | .scroll
  | .keyDown | .keyUp | .keyPress | .keyChar | .typeText | .notify => .module .remoteInput
  | .terminalStart | .terminalInput | .terminalResize => .module .terminal
  | .runScript => .module .scripts
  | .listDir | .readFile | .writeFileChunk | .mkdir | .renamePath | .deletePath | .copyPath =>
    .module .files
  | .collectSoftware => .module .softwareInventory
  | .requestInfo => .module .systemInfo
  | .lockHost | .restartHost | .shutdownHost => .module .systemControl
  | .setAppBlockRules => .module .appPolicy
  | .setNetworkPolicy | .setInternetBlockRules => .module .networkPolicy
  | .listLogSources | .readLogTail => .module .logs
  | .disableModule => .disableModule
  | .agentDeleted | .agentCredentialsRevoked | .historyFrameAck | .clipboardCancel
  | .terminalClose | .updateNow | .setAutoUpdate | .setRecallSettings | .stopCapture
  | .stopAudio => .protocol
  | .unknown => .denied

def module? (kind : CommandKind) : Option Module :=
  match kind.gate with
  | .module m => some m
  | .protocol | .disableModule | .denied => none

end CommandKind

def Json.kind (cmd : Json) : String :=
  (cmd.field "type").asStr.getD ""

def Json.gate (cmd : Json) : Gate :=
  (CommandKind.fromKind cmd.kind).gate

def startCaptureDefault : Json :=
  .object [("type", .string "start_capture")]

def startCapture (monitor : Option Nat) (jpegQuality intervalMs : Nat) : Json :=
  .object [
    ("interval_ms", .ofNat intervalMs),
    ("jpeg_quality", .ofNat jpegQuality),
    ("monitor", monitor.elim .null .ofNat),
    ("type", .string "start_capture")
  ]

def stopCapture : Json :=
  .object [("type", .string "stop_capture")]

def clipboardRead (requestId : Uuid) : Json :=
  .object [("request_id", .string requestId.text), ("type", .string "ClipboardRead")]

def clipboardWrite (requestId : Uuid) (text : String) : Json :=
  .object [
    ("request_id", .string requestId.text),
    ("text", .string text),
    ("type", .string "ClipboardWrite")
  ]

def clipboardCancel (requestId : Uuid) : Json :=
  .object [("request_id", .string requestId.text), ("type", .string "ClipboardCancel")]

def disableModule (m : Module) (expectedRevision : Nat) (commandId : Uuid) : Json :=
  .object [
    ("command_id", .string commandId.text),
    ("expected_revision", .ofNat expectedRevision),
    ("module", m.toJson),
    ("type", .string "disable_module")
  ]

-- The command that stands for remote input in general when a lease is acquired or renewed.
def mouseMoveProbe : Json :=
  .object [("type", .string "MouseMove"), ("x", .ofNat 0), ("y", .ofNat 0)]

end Vantyr
