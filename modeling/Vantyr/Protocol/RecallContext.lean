import Vantyr.Data.Text
import Vantyr.Protocol.Modules

/-!
This module contains the foreground context that an agent attaches to a Recall keyframe
(`protocol/src/recall_context.rs`): the vocabulary and the limits that the agent and the server share,
and the JSON form of a context.
-/

namespace Vantyr

namespace RecallContext

def contextVersion : Nat := 1

def contextScope : String := "session_foreground"

def maxBracketMs : Nat := 1000

def maxContextBytes : Nat := 4096

def maxAppBytes : Nat := 256

def maxTitleBytes : Nat := 1024

def monitorRelations : List String := ["unknown", "same", "other"]

inductive Status where
  | observed
  | uncertain
  | unknown
  | notCollected
  deriving DecidableEq, Repr

inductive Reason where
  | moduleDisabled
  | revoked
  | unsupported
  | noForeground
  | readFailed
  | sampleTimeout
  | changed
  | identityUnverified
  | notBrowser
  | invalidUrl
  | invalidContext
  deriving DecidableEq, Repr

inductive Source where
  | win32
  | hyprland
  | uiaHwnd
  | none
  deriving DecidableEq, Repr

-- A derived `Deserialize` reads a unit variant from its name, or from an object that maps the name
-- to `null`.
def unitVariant {α : Type} (fromWire : String → Option α) : Json → Option α
  | .string name => fromWire name
  | .object [(name, .null)] => fromWire name
  | _ => none

namespace Status

def asStr : Status → String
  | .observed => "observed"
  | .uncertain => "uncertain"
  | .unknown => "unknown"
  | .notCollected => "not_collected"

def fromWire : String → Option Status
  | "observed" => some .observed
  | "uncertain" => some .uncertain
  | "unknown" => some .unknown
  | "not_collected" => some .notCollected
  | _ => none

@[simp]
theorem fromWire_asStr (status : Status) : fromWire status.asStr = some status := by
  cases status <;> rfl

end Status

namespace Reason

def asStr : Reason → String
  | .moduleDisabled => "module_disabled"
  | .revoked => "revoked"
  | .unsupported => "unsupported"
  | .noForeground => "no_foreground"
  | .readFailed => "read_failed"
  | .sampleTimeout => "sample_timeout"
  | .changed => "changed"
  | .identityUnverified => "identity_unverified"
  | .notBrowser => "not_browser"
  | .invalidUrl => "invalid_url"
  | .invalidContext => "invalid_context"

def fromWire : String → Option Reason
  | "module_disabled" => some .moduleDisabled
  | "revoked" => some .revoked
  | "unsupported" => some .unsupported
  | "no_foreground" => some .noForeground
  | "read_failed" => some .readFailed
  | "sample_timeout" => some .sampleTimeout
  | "changed" => some .changed
  | "identity_unverified" => some .identityUnverified
  | "not_browser" => some .notBrowser
  | "invalid_url" => some .invalidUrl
  | "invalid_context" => some .invalidContext
  | _ => none

@[simp]
theorem fromWire_asStr (reason : Reason) : fromWire reason.asStr = some reason := by
  cases reason <;> rfl

end Reason

namespace Source

def asStr : Source → String
  | .win32 => "win32"
  | .hyprland => "hyprland"
  | .uiaHwnd => "uia_hwnd"
  | .none => "none"

def fromWire : String → Option Source
  | "win32" => some .win32
  | "hyprland" => some .hyprland
  | "uia_hwnd" => some .uiaHwnd
  | "none" => some .none
  | _ => Option.none

def isWindowSource : Source → Bool
  | .win32 | .hyprland | .none => true
  | .uiaHwnd => false

def isBrowserSource : Source → Bool
  | .uiaHwnd | .none => true
  | .win32 | .hyprland => false

@[simp]
theorem fromWire_asStr (source : Source) : fromWire source.asStr = some source := by
  cases source <;> rfl

end Source

structure WindowContext where
  status : Status
  reason : Option Reason
  source : Source
  app : Option String
  title : Option String
  titleTruncated : Bool
  deriving DecidableEq, Repr

structure BrowserContext where
  status : Status
  reason : Option Reason
  source : Source
  url : Option String
  urlHost : Option String
  deriving DecidableEq, Repr

structure Context where
  version : Nat
  scope : String
  bracketMs : Nat
  monitorRelation : String
  window : WindowContext
  browser : BrowserContext
  grantRevisions : Module → Option Nat

def stringOrNull (text : Option String) : Json :=
  text.elim .null .string

def reasonOrNull (reason : Option Reason) : Json :=
  reason.elim .null (fun r => .string r.asStr)

namespace WindowContext

def empty (status : Status) (reason : Reason) : WindowContext where
  status
  reason := some reason
  source := .none
  app := none
  title := none
  titleTruncated := false

-- A flag that is not set is left out.
def toJson (w : WindowContext) : Json :=
  let fields := [
    ("app", stringOrNull w.app),
    ("reason", reasonOrNull w.reason),
    ("source", .string w.source.asStr),
    ("status", .string w.status.asStr),
    ("title", stringOrNull w.title)
  ]
  .object (if w.titleTruncated then fields ++ [("title_truncated", .bool true)] else fields)

def ofJson (value : Json) : Option WindowContext := do
  let names := ["status", "reason", "source", "app", "title", "title_truncated"]
  match ← value.optionalFields names 1 with
  | [status, reason, source, app, title, titleTruncated] =>
    return {
      status := ← status.bind (unitVariant Status.fromWire)
      reason := ← Json.readOption (unitVariant Reason.fromWire) reason
      source := ← source.bind (unitVariant Source.fromWire)
      app := ← Json.readOption Json.asStr app
      title := ← Json.readOption Json.asStr title
      titleTruncated := ← titleTruncated.elim (some false) Json.asBool
    }
  | _ => none

end WindowContext

namespace BrowserContext

def toJson (b : BrowserContext) : Json :=
  .object [
    ("reason", reasonOrNull b.reason),
    ("source", .string b.source.asStr),
    ("status", .string b.status.asStr),
    ("url", stringOrNull b.url),
    ("url_host", stringOrNull b.urlHost)
  ]

def ofJson (value : Json) : Option BrowserContext := do
  match ← value.optionalFields ["status", "reason", "source", "url", "url_host"] 0 with
  | [status, reason, source, url, urlHost] =>
    return {
      status := ← status.bind (unitVariant Status.fromWire)
      reason := ← Json.readOption (unitVariant Reason.fromWire) reason
      source := ← source.bind (unitVariant Source.fromWire)
      url := ← Json.readOption Json.asStr url
      urlHost := ← Json.readOption Json.asStr urlHost
    }
  | _ => none

end BrowserContext

def revisionsToJson (revisions : Module → Option Nat) : Json :=
  .object (Module.all.foldr (fun m fields =>
    match revisions m with
    | some revision => Fields.insert m.asStr (.ofNat revision) fields
    | none => fields) [])

def revisionsOfJson : Json → Option (Module → Option Nat)
  | .object fields => do
    let entries ← fields.mapM (fun field => do
      return (← Module.ofStr field.1, ← field.2.asU64))
    return fun m => (entries.find? (fun entry => entry.1 = m)).map Prod.snd
  | _ => none

namespace Context

def toJson (c : Context) : Json :=
  .object [
    ("bracket_ms", .ofNat c.bracketMs),
    ("browser", c.browser.toJson),
    ("grant_revisions", revisionsToJson c.grantRevisions),
    ("monitor_relation", .string c.monitorRelation),
    ("scope", .string c.scope),
    ("version", .ofNat c.version),
    ("window", c.window.toJson)
  ]

def ofJson (value : Json) : Option Context := do
  let names := ["version", "scope", "bracket_ms", "monitor_relation", "window", "browser",
    "grant_revisions"]
  match ← value.optionalFields names 0 with
  | [version, scope, bracketMs, monitorRelation, window, browser, grantRevisions] =>
    return {
      version := ← (version.bind Json.asU64).filter (· < 2 ^ 8)
      scope := ← scope.bind Json.asStr
      bracketMs := ← (bracketMs.bind Json.asU64).filter (· < 2 ^ 32)
      monitorRelation := ← monitorRelation.bind Json.asStr
      window := ← window.bind WindowContext.ofJson
      browser := ← browser.bind BrowserContext.ofJson
      grantRevisions := ← grantRevisions.bind revisionsOfJson
    }
  | _ => none

def isSupported (c : Context) : Bool :=
  c.version = contextVersion ∧ c.scope = contextScope ∧ c.bracketMs ≤ maxBracketMs

end Context

-- The longest prefix of at most `max` bytes.
def takeBytes : (max : Nat) → List Char → List Char
  | _, [] => []
  | max, c :: cs => if c.utf8Size ≤ max then c :: takeBytes (max - c.utf8Size) cs else []

def boundedClean (raw : String) (max : Nat) : String × Bool :=
  let clean := String.ofList (raw.toList.filter (fun c => !Text.isControl c))
  if clean.utf8ByteSize ≤ max then
    (clean, false)
  else
    (String.ofList (takeBytes max clean.toList), true)

theorem utf8Len_takeBytes (max : Nat) (cs : List Char) : String.utf8Len (takeBytes max cs) ≤ max := by
  induction cs generalizing max with
  | nil => exact Nat.zero_le max
  | cons c cs ih =>
    unfold takeBytes
    split
    . have := ih (max - c.utf8Size)
      rw [String.utf8Len_cons]
      omega
    . exact Nat.zero_le max

theorem size_boundedClean (raw : String) (max : Nat)
    : (boundedClean raw max).1.utf8ByteSize ≤ max := by
  unfold boundedClean
  dsimp only
  split
  . next h => exact h
  . rw [String.utf8ByteSize_ofList]
    exact utf8Len_takeBytes ..

example : boundedClean "a\x00b文" 4 = ("ab", true) := by decide +kernel

end RecallContext

end Vantyr
