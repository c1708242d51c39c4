import Vantyr.Data.Json

/-!
This module contains the module catalogue `MODULES`: the device-owned capabilities a server command
or an agent event can be gated on, and their names on the wire.
-/

namespace Vantyr

inductive Module where
  | keyboardText
  | idleActivity
  | windowActivity
  | browserUrls
  | recall
  | liveScreen
  | liveAudio
  | remoteInput
  | clipboard
  | files
  | terminal
  | scripts
  | softwareInventory
  | resourceMetrics
  | systemInfo
  | systemControl
  | appPolicy
  | networkPolicy
  | logs
  deriving DecidableEq, Repr

namespace Module

def all : List Module :=
  [ .keyboardText, .idleActivity, .windowActivity, .browserUrls, .recall, .liveScreen, .liveAudio,
    .remoteInput, .clipboard, .files, .terminal, .scripts, .softwareInventory, .resourceMetrics,
    .systemInfo, .systemControl, .appPolicy, .networkPolicy, .logs ]

def asStr : Module → String
  | .keyboardText => "keyboard_text"
  | .idleActivity => "idle_activity"
  | .windowActivity => "window_activity"
  | .browserUrls => "browser_urls"
  | .recall => "recall"
  | .liveScreen => "live_screen"
  | .liveAudio => "live_audio"
  | .remoteInput => "remote_input"
  | .clipboard => "clipboard"
  | .files => "files"
  | .terminal => "terminal"
  | .scripts => "scripts"
  | .softwareInventory => "software_inventory"
  | .resourceMetrics => "resource_metrics"
  | .systemInfo => "system_info"
  | .systemControl => "system_control"
  | .appPolicy => "app_policy"
  | .networkPolicy => "network_policy"
  | .logs => "logs"

def ofStr (name : String) : Option Module :=
  all.find? (fun m => m.asStr = name)

def toJson (m : Module) : Json :=
  .string m.asStr

-- A derived `Deserialize` reads a unit variant from its name, or from an object that maps the name
-- to `null`.
def ofJson : Json → Option Module
  | .string name => ofStr name
  | .object [(name, .null)] => ofStr name
  | _ => none

theorem mem_all (m : Module) : m ∈ all := by
  cases m <;> decide

theorem nodup_all : all.Nodup := by
  decide

@[simp]
theorem length_all : all.length = 19 := rfl

@[simp]
theorem ofStr_asStr (m : Module) : ofStr m.asStr = some m := by
  cases m <;> decide

@[simp]
theorem ofJson_toJson (m : Module) : ofJson m.toJson = some m := by
  simp [toJson, ofJson]

theorem toJson_injective : Function.Injective toJson := by
  intro a b h
  have : ofJson a.toJson = ofJson b.toJson := by rw [h]
  simpa using this

end Module

end Vantyr
