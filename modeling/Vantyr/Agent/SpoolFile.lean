import Vantyr.Agent.BinaryFence
import Vantyr.Agent.Spool
import Vantyr.Server.Recall.Noninterference

/-!
This module contains the files of the spool: a magic, the header as JSON and the image. What is read from a
file is what was written to it. Only a context that this version does not know is read as none.
-/

namespace Vantyr

namespace Spool

open Permissions RecallContext

-- `VRF1`.
def magic : List UInt8 := [86, 82, 70, 49]

-- A duration and a context that are missing are left out.
def FrameHeader.toJson (h : FrameHeader) : Json :=
  .object (
    (h.captureDurationMs.map (fun ms => ("capture_duration_ms", Json.ofNat ms))).toList
      ++ [("captured_at", .string h.capturedAt), ("captured_ms", .ofInt h.capturedMs)]
      ++ (h.context.map (fun c => ("context", c.toJson))).toList
      ++ [
        ("context_generations", generationsToJson h.contextGenerations),
        ("generation", h.generation.elim .null Generation.toJson),
        ("h", .ofNat h.h),
        ("monitor", .ofNat h.monitor),
        ("ocr_text", stringOrNull h.ocrText),
        ("ocr_words", .array h.ocrWords),
        ("phash", .string h.phash),
        ("uid", .string h.uid),
        ("w", .ofNat h.w)
      ])

def fileBytes (text : JsonText) (header : FrameHeader) (jpeg : List UInt8) : List UInt8 :=
  Bytes.frame magic (text.toVec header.toJson) jpeg

-- How long a number with a fraction is as a text.
variable (floatSize : Nat → Nat)

-- A context that is not known does not make the frame unreadable.
def deserializeContext : Option Json → Option Context
  | none => none
  | some .null => none
  | some value =>
    if value.compactSize floatSize > maxContextBytes then
      none
    else
      (Context.ofJson value).filter Context.isSupported

def headerFields : List String :=
  ["generation", "capture_duration_ms", "context", "context_generations", "uid", "captured_at",
    "captured_ms", "monitor", "w", "h", "phash", "ocr_text", "ocr_words"]

def asU32 (value : Json) : Option Nat :=
  value.asU64.filter (· < 2 ^ 32)

def FrameHeader.ofJson (value : Json) : Option FrameHeader := do
  match ← value.optionalFields headerFields 1 with
  | [generation, captureDurationMs, context, contextGenerations, uid, capturedAt, capturedMs, monitor,
      w, h, phash, ocrText, ocrWords] =>
    return {
      generation := ← Json.readOption Generation.ofJson generation
      captureDurationMs := ← Json.readOption asU32 captureDurationMs
      context := deserializeContext floatSize context
      contextGenerations := ← contextGenerations.elim (some .default) generationsOfJson
      uid := ← uid.bind Json.asStr
      capturedAt := ← capturedAt.bind Json.asStr
      capturedMs := ← capturedMs.bind Json.asI64
      monitor := ← monitor.bind Json.asU64
      w := ← w.bind asU32
      h := ← h.bind asU32
      phash := ← phash.bind Json.asStr
      ocrText := ← Json.readOption Json.asStr ocrText
      ocrWords := ← ocrWords.elim (some []) Json.asArray
    }
  | _ => none

-- `Spool::load` on the bytes of a file.
def readBytes (text : JsonText) (bytes : List UInt8) : Option SpooledFrame :=
  if bytes.length < 8 ∨ bytes.take 4 ≠ magic then
    none
  else do
    let hlen ← Bytes.readU32le (← Bytes.slice? bytes 4 8)
    let header ← FrameHeader.ofJson floatSize (← text.fromSlice (← Bytes.slice? bytes 8 (8 + hlen)))
    let jpeg ← Bytes.slice? bytes (8 + hlen) bytes.length
    return { header, jpeg }

def File.ofBytes (text : JsonText) (bytes : List UInt8) : File where
  len := bytes.length
  frame := readBytes floatSize text bytes

/-!
What the texts of numbers with a fraction do to a context: nothing, it has none.
-/

section Floats

variable (f : Nat → Nat)

theorem mapFloats_stringOrNull (text : Option String)
    : (stringOrNull text).mapFloats f = stringOrNull text := by
  cases text with
  | none => rfl
  | some text => rfl

theorem mapFloats_reasonOrNull (reason : Option Reason)
    : (reasonOrNull reason).mapFloats f = reasonOrNull reason := by
  cases reason with
  | none => rfl
  | some reason => rfl

theorem mapFloats_window (w : WindowContext) : w.toJson.mapFloats f = w.toJson := by
  unfold WindowContext.toJson
  split
  . simp only [Json.mapFloats, Json.mapFloatsFields, List.cons_append, List.nil_append,
      mapFloats_stringOrNull, mapFloats_reasonOrNull]
  . simp only [Json.mapFloats, Json.mapFloatsFields, mapFloats_stringOrNull, mapFloats_reasonOrNull]

theorem mapFloats_browser (b : BrowserContext) : b.toJson.mapFloats f = b.toJson := by
  simp only [BrowserContext.toJson, Json.mapFloats, Json.mapFloatsFields, mapFloats_stringOrNull,
    mapFloats_reasonOrNull]

-- The revisions of a context that was checked are those of the window.
def windowRevision (revision : Option Nat) : Module → Option Nat :=
  fun m => if m = .windowActivity then revision else none

theorem revisionsToJson_window (revision : Option Nat)
    : revisionsToJson (windowRevision revision)
        = .object ((revision.map (fun n => ("window_activity", Json.ofNat n))).toList) := by
  cases revision with
  | none => rfl
  | some n => rfl

theorem mapFloats_revisions (revision : Option Nat)
    : (revisionsToJson (windowRevision revision)).mapFloats f
        = revisionsToJson (windowRevision revision) := by
  rw [revisionsToJson_window]
  cases revision with
  | none => rfl
  | some n => rfl

theorem mapFloats_context {c : Context} {revision : Option Nat}
    (hrevisions : c.grantRevisions = windowRevision revision) : c.toJson.mapFloats f = c.toJson := by
  simp only [Context.toJson, hrevisions, Json.mapFloats, Json.mapFloatsFields, Json.ofNat,
    mapFloats_window, mapFloats_browser, mapFloats_revisions]

theorem mapFloats_generations (gs : Generations)
    : (generationsToJson gs).mapFloats f = generationsToJson gs := by
  obtain ⟨window, browser⟩ := gs
  cases window with
  | none =>
    cases browser with
    | none => rfl
    | some _ => rfl
  | some _ =>
    cases browser with
    | none => rfl
    | some _ => rfl

end Floats

/-!
A context is read back.
-/

theorem readOption_stringOrNull (text : Option String)
    : Json.readOption Json.asStr (some (stringOrNull text)) = some text := by
  cases text with
  | none => rfl
  | some text => rfl

theorem readOption_reasonOrNull (reason : Option Reason)
    : Json.readOption (unitVariant Reason.fromWire) (some (reasonOrNull reason)) = some reason := by
  cases reason with
  | none => rfl
  | some reason => simp [Json.readOption, reasonOrNull, unitVariant]

theorem ofJson_window (w : WindowContext) : WindowContext.ofJson w.toJson = some w := by
  have hfields : w.toJson.optionalFields ["status", "reason", "source", "app", "title", "title_truncated"] 1
      = some [some (.string w.status.asStr), some (reasonOrNull w.reason), some (.string w.source.asStr),
        some (stringOrNull w.app), some (stringOrNull w.title),
        if w.titleTruncated then some (.bool true) else none] := by
    unfold WindowContext.toJson
    split
    . rfl
    . rfl
  have htruncated : Option.elim (if w.titleTruncated then some (Json.bool true) else none) (some false)
      Json.asBool = some w.titleTruncated := by
    cases w.titleTruncated with
    | true => rfl
    | false => rfl
  simp only [WindowContext.ofJson, hfields, Option.bind_eq_bind, Option.bind_some, readOption_stringOrNull,
    readOption_reasonOrNull, unitVariant, Status.fromWire_asStr, Source.fromWire_asStr, htruncated,
    Option.pure_def]

theorem ofJson_browser (b : BrowserContext) : BrowserContext.ofJson b.toJson = some b := by
  have hfields : b.toJson.optionalFields ["status", "reason", "source", "url", "url_host"] 0
      = some [some (.string b.status.asStr), some (reasonOrNull b.reason), some (.string b.source.asStr),
        some (stringOrNull b.url), some (stringOrNull b.urlHost)] := by
    simp [BrowserContext.toJson, Json.optionalFields, Fields.get?]
  simp only [BrowserContext.ofJson, hfields, Option.bind_eq_bind, Option.bind_some, readOption_stringOrNull,
    readOption_reasonOrNull, unitVariant, Status.fromWire_asStr, Source.fromWire_asStr, Option.pure_def]

theorem ofJson_revisions (revision : Option Nat)
    : revisionsOfJson (revisionsToJson (windowRevision revision)) = some (windowRevision revision) := by
  rw [revisionsToJson_window]
  cases revision with
  | none =>
    simp only [revisionsOfJson, Option.map_none, Option.toList_none, List.mapM_nil, Option.pure_def,
      Option.bind_eq_bind, Option.bind_some, Option.some.injEq]
    funext m
    simp [windowRevision]
  | some n =>
    have hmodule : Module.ofStr "window_activity" = some .windowActivity := by decide
    simp only [revisionsOfJson, Option.map_some, Option.toList_some, List.mapM_cons, List.mapM_nil,
      hmodule, Json.asU64_ofNat, Option.pure_def, Option.bind_eq_bind, Option.bind_some,
      Option.some.injEq]
    funext m
    by_cases h : m = .windowActivity
    . simp [windowRevision, h]
    . simp [windowRevision, h, Ne.symm h]

-- The version takes 8 bits and the bracket 32.
theorem ofJson_context {c : Context} {revision : Option Nat}
    (hrevisions : c.grantRevisions = windowRevision revision)
    : Context.ofJson c.toJson = if c.version < 2 ^ 8 ∧ c.bracketMs < 2 ^ 32 then some c else none := by
  have hfields : c.toJson.optionalFields ["version", "scope", "bracket_ms", "monitor_relation", "window",
        "browser", "grant_revisions"] 0
      = some [some (.ofNat c.version), some (.string c.scope), some (.ofNat c.bracketMs),
        some (.string c.monitorRelation), some c.window.toJson, some c.browser.toJson,
        some (revisionsToJson c.grantRevisions)] :=
    rfl
  have hread : revisionsOfJson (revisionsToJson c.grantRevisions) = some c.grantRevisions := by
    rw [hrevisions, ofJson_revisions]
  simp only [Context.ofJson, hfields, Option.bind_eq_bind, Option.bind_some, Json.asU64_ofNat, Json.asStr,
    ofJson_window, ofJson_browser, hread, Option.pure_def, Option.filter_some, decide_eq_true_eq]
  split
  . next hversion =>
    rw [Option.bind_some]
    split
    . next hbracket => rw [Option.bind_some, if_pos ⟨hversion, hbracket⟩]
    . next hbracket => rw [Option.bind_none, if_neg (fun h => hbracket h.2)]
  . next hversion => rw [Option.bind_none, if_neg (fun h => hversion h.1)]

/-!
A context that was checked fits in the limit.
-/

section Sanitized

variable (c : Context) (s : State) (gs : Generations)

theorem isSupported_sanitizeIn : (c.sanitizeIn s gs).isSupported = c.isSupported := by
  have h := c.envelope_sanitizeIn s gs
  unfold Context.isSupported
  rw [h.version, h.scope, h.bracketMs]

theorem revision_sanitizeIn {n : Nat} (h : (c.sanitizeIn s gs).grantRevisions .windowActivity = some n)
    : ∃ g, gs.windowGeneration = some g ∧ g.revision = n := by
  unfold Context.sanitizeIn Context.sanitizeWindow at h
  split at h
  . simp [Context.setRevision] at h
  . next valid hvalid =>
    have hgeneration := (Option.filter_eq_some_iff.mp hvalid).1
    split at h
    . refine ⟨valid, hgeneration, ?_⟩
      simpa [Context.setRevision] using h
    . simp [Context.setRevision] at h

theorem clear_bounded {raw text : String} {cap : Nat} (h : (bounded raw cap).1 = some text)
    : Recall.ClearText text := by
  have hcontrol := Recall.control_boundedClean raw cap
  unfold bounded at h
  dsimp only at h
  split at h
  . cases h
  . rw [Option.some.injEq] at h
    rw [← h]
    exact hcontrol

theorem clear_sanitizeIn
    : (∀ app ∈ (c.sanitizeIn s gs).window.app, Recall.ClearText app)
      ∧ ∀ title ∈ (c.sanitizeIn s gs).window.title, Recall.ClearText title := by
  have hbounded := c.sanitizeIn_window_bounded s gs
  constructor
  . intro app happ
    rcases hbounded.1 app happ with ⟨raw, hraw⟩
    exact clear_bounded hraw
  . intro title htitle
    rcases hbounded.2 title htitle with ⟨raw, hraw⟩
    exact clear_bounded hraw

theorem keptReason_reasonOrNull (reason : Option Reason) : Recall.KeptReason (reasonOrNull reason) := by
  cases reason with
  | none => exact .inl rfl
  | some reason => exact .inr ⟨reason, rfl⟩

theorem size_sanitizedWindow : (c.sanitizeIn s gs).window.toJson.compactSize floatSize ≤ 2750 := by
  have hsize := Context.size_sanitizeIn_window c s gs
  have hclear := clear_sanitizeIn c s gs
  generalize (c.sanitizeIn s gs).window = w at hsize hclear
  have hbound :
      (Recall.windowJson w.status (reasonOrNull w.reason) w.source w.app w.title).compactSize floatSize ≤ 2750
      ∧ ((Recall.windowJson w.status (reasonOrNull w.reason) w.source w.app w.title).setField
        "title_truncated" (.bool true)).compactSize floatSize ≤ 2750 :=
    Recall.size_keptWindow w.status w.source (keptReason_reasonOrNull w.reason)
      (fun app happ => ⟨hclear.1 app happ, hsize.1 app happ⟩)
      (fun title htitle => ⟨hclear.2 title htitle, hsize.2 title htitle⟩)
  unfold WindowContext.toJson
  split
  . exact hbound.2
  . exact hbound.1

theorem size_sanitizedBrowser : (c.sanitizeIn s gs).browser.toJson.compactSize floatSize ≤ 650 := by
  have hbrowser : (c.sanitizeIn s gs).browser = Context.sanitizeBrowser s gs := rfl
  have hhost : ∀ host ∈ (none : Option String), Recall.ClearText host ∧ host.utf8ByteSize ≤ 253 := by
    simp
  rw [hbrowser]
  exact Recall.size_browserJson _ _ (keptReason_reasonOrNull _) hhost

theorem size_digits {n width : Nat} (hwidth : 0 < width) (h : n < 10 ^ width)
    : (Nat.toDigits 10 n).length ≤ width := by
  rw [Nat.length_toDigits_le_iff (by decide) hwidth]
  exact h

theorem size_windowRevision {revision : Option Nat} (h : ∀ n ∈ revision, n < 2 ^ 64)
    : (revisionsToJson (windowRevision revision)).compactSize floatSize ≤ 40 := by
  have hkey : Json.quotedSize "window_activity" = 17 := by decide
  rw [revisionsToJson_window]
  cases revision with
  | none => simp [Json.compactSize, Json.compactFields]
  | some n =>
    have hn := h n rfl
    have hdigits : (Nat.toDigits 10 n).length ≤ 20 := size_digits (by decide) (by omega)
    simp only [Option.map_some, Option.toList_some, Json.compactSize, Json.compactFields, Json.ofNat,
      Json.numberSize, hkey]
    omega

theorem fits_sanitizeIn (hsupported : c.isSupported = true)
    (hrevision : ∀ g ∈ gs.windowGeneration, g.revision < 2 ^ 64)
    : (c.sanitizeIn s gs).toJson.compactSize floatSize ≤ maxContextBytes := by
  have hrevisions : (revisionsToJson (c.sanitizeIn s gs).grantRevisions).compactSize floatSize ≤ 40 := by
    rw [c.grantRevisions_sanitizeIn s gs]
    apply size_windowRevision
    intro n hn
    rcases revision_sanitizeIn c s gs hn with ⟨g, hg, rfl⟩
    exact hrevision g hg
  have hwindow := size_sanitizedWindow floatSize c s gs
  have hbrowser := size_sanitizedBrowser floatSize c s gs
  have henvelope := c.envelope_sanitizeIn s gs
  unfold Context.isSupported at hsupported
  rw [decide_eq_true_eq, ← henvelope.version, ← henvelope.scope, ← henvelope.bracketMs] at hsupported
  rcases hsupported with ⟨hversion, hscope, hbracket⟩
  have hdigits : (Nat.toDigits 10 (c.sanitizeIn s gs).bracketMs).length ≤ 4 := by
    apply size_digits (by decide)
    unfold maxBracketMs at hbracket
    omega
  have hkeys : Json.quotedSize "bracket_ms" = 12 ∧ Json.quotedSize "browser" = 9
      ∧ Json.quotedSize "grant_revisions" = 17 ∧ Json.quotedSize "monitor_relation" = 18
      ∧ Json.quotedSize "scope" = 7 ∧ Json.quotedSize "version" = 9 ∧ Json.quotedSize "window" = 8
      ∧ Json.quotedSize "unknown" = 9 ∧ Json.quotedSize contextScope = 20
      ∧ (Nat.toDigits 10 contextVersion).length = 1 := by
    decide
  simp only [Context.toJson, Json.compactSize, Json.compactFields, Json.ofNat, Json.numberSize,
    Context.monitorRelation_sanitizeIn, hversion, hscope, hkeys]
  unfold maxContextBytes
  omega

-- A context of another version, or of another kind, is no context.
theorem deserializeContext_sanitizeIn (hrevision : ∀ g ∈ gs.windowGeneration, g.revision < 2 ^ 64)
    : deserializeContext floatSize (some (c.sanitizeIn s gs).toJson)
        = (some (c.sanitizeIn s gs)).filter Context.isSupported := by
  have hread := ofJson_context (c.grantRevisions_sanitizeIn s gs)
  have hobject : deserializeContext floatSize (some (c.sanitizeIn s gs).toJson)
      = if (c.sanitizeIn s gs).toJson.compactSize floatSize > maxContextBytes then none
        else (Context.ofJson (c.sanitizeIn s gs).toJson).filter Context.isSupported :=
    rfl
  rw [hobject, hread]
  by_cases hsupported : c.isSupported = true
  . have henvelope := c.envelope_sanitizeIn s gs
    have hsupported' := hsupported
    unfold Context.isSupported at hsupported'
    rw [decide_eq_true_eq, ← henvelope.version, ← henvelope.scope, ← henvelope.bracketMs] at hsupported'
    have hversion : (c.sanitizeIn s gs).version < 2 ^ 8 := by
      rw [hsupported'.1]
      decide
    have hbracket : (c.sanitizeIn s gs).bracketMs < 2 ^ 32 := by
      have hle := hsupported'.2.2
      unfold maxBracketMs at hle
      omega
    rw [if_neg (Nat.not_lt.mpr (fits_sanitizeIn floatSize c s gs hsupported hrevision)),
      if_pos ⟨hversion, hbracket⟩]
  . have hnone : (some (c.sanitizeIn s gs)).filter Context.isSupported = none := by
      rw [Option.filter_some, isSupported_sanitizeIn, if_neg hsupported]
    rw [hnone]
    split
    . rfl
    . split
      . exact hnone
      . rfl

end Sanitized

/-!
A header is read back.
-/

theorem optionalFields_mapFloats (f : Nat → Nat) (fields : List (String × Json)) (names : List String)
    (defaults : Nat)
    : ((Json.object fields).mapFloats f).optionalFields names defaults
        = some (names.map (fun name => (Fields.get? name fields).map (Json.mapFloats f))) := by
  simp only [Json.mapFloats, Json.optionalFields, Json.get?_mapFloatsFields]

theorem optionalFields_header (f : Nat → Nat) (h : FrameHeader)
    : (h.toJson.mapFloats f).optionalFields headerFields 1 = some [
        some (h.generation.elim .null Generation.toJson),
        h.captureDurationMs.map Json.ofNat,
        h.context.map (fun c => c.toJson.mapFloats f),
        some (generationsToJson h.contextGenerations),
        some (.string h.uid),
        some (.string h.capturedAt),
        some ((Json.ofInt h.capturedMs).mapFloats f),
        some (.ofNat h.monitor),
        some (.ofNat h.w),
        some (.ofNat h.h),
        some (.string h.phash),
        some (stringOrNull h.ocrText),
        some (.array (Json.mapFloatsItems f h.ocrWords))
      ] := by
  have hgeneration : (h.generation.elim .null Generation.toJson).mapFloats f
      = h.generation.elim .null Generation.toJson := by
    cases h.generation with
    | none => rfl
    | some g => rfl
  rw [← mapFloats_generations f, ← mapFloats_stringOrNull f, ← hgeneration, FrameHeader.toJson,
    optionalFields_mapFloats]
  cases h.captureDurationMs with
  | none =>
    cases h.context with
    | none => rfl
    | some c => rfl
  | some ms =>
    cases h.context with
    | none => rfl
    | some c => rfl

/--
What the types of the source say of a header: a duration, a width and a height of 32 bits, a time of 64
bits.
-/
structure FrameHeader.Typed (h : FrameHeader) : Prop where
  captureDurationMs : ∀ ms ∈ h.captureDurationMs, ms < 2 ^ 32
  capturedMs : h.capturedMs < 2 ^ 63
  width : h.w < 2 ^ 32
  height : h.h < 2 ^ 32
  windowRevision : ∀ g ∈ h.contextGenerations.windowGeneration, g.revision < 2 ^ 64

theorem asU32_ofNat {n : Nat} (h : n < 2 ^ 32) : asU32 (.ofNat n) = some n := by
  rw [asU32, Json.asU64_ofNat, Option.filter_some, if_pos (by simpa using h)]

theorem mapFloats_ofInt (f : Nat → Nat) (n : Int) : (Json.ofInt n).mapFloats f = .ofInt n := by
  cases n with
  | ofNat n => rfl
  | negSucc n => rfl

theorem ofJson_header (f : Nat → Nat) {h : FrameHeader} (htyped : h.Typed) {c : Option Context} {s : State}
    (hcontext : h.context = c.map (·.sanitizeIn s h.contextGenerations))
    : FrameHeader.ofJson floatSize (h.toJson.mapFloats f) = some {
        h with
        context := h.context.filter Context.isSupported
        ocrWords := Json.mapFloatsItems f h.ocrWords
      } := by
  have hgeneration : Json.readOption Generation.ofJson (some (h.generation.elim .null Generation.toJson))
      = some h.generation := by
    cases h.generation with
    | none => rfl
    | some g =>
      have hread := ofJson_generation g
      unfold Generation.toJson at hread
      simp [Json.readOption, Generation.toJson, hread]
  have hduration : Json.readOption asU32 (h.captureDurationMs.map Json.ofNat)
      = some h.captureDurationMs := by
    cases hms : h.captureDurationMs with
    | none => rfl
    | some ms =>
      have hread := asU32_ofNat (htyped.captureDurationMs ms hms)
      unfold Json.ofNat at hread
      simp [Json.readOption, Json.ofNat, hread]
  have hread : deserializeContext floatSize (h.context.map (fun c => c.toJson.mapFloats f))
      = h.context.filter Context.isSupported := by
    rw [hcontext]
    cases c with
    | none => rfl
    | some c =>
      rw [Option.map_some, Option.map_some, mapFloats_context f (c.grantRevisions_sanitizeIn s _)]
      exact deserializeContext_sanitizeIn floatSize c s _ htyped.windowRevision
  unfold FrameHeader.ofJson
  rw [optionalFields_header]
  dsimp only [Option.bind_eq_bind, Option.bind_some, Option.elim_some, Json.asStr, Json.asArray]
  rw [hgeneration, hduration, hread, generationsOfJson_toJson, mapFloats_ofInt,
    Json.asI64_ofInt htyped.capturedMs, Json.asU64_ofNat, asU32_ofNat htyped.width,
    asU32_ofNat htyped.height, readOption_stringOrNull]
  rfl

/--
What a push wrote is read back: the image byte by byte and the context if it is of this version.
-/
theorem readBytes_fileBytes {text : JsonText} {h : FrameHeader} (htyped : h.Typed) {c : Option Context}
    {s : State} (hcontext : h.context = c.map (·.sanitizeIn s h.contextGenerations))
    (hwrites : text.Writes h.toJson) (hlength : (text.toVec h.toJson).length < 2 ^ 32) (jpeg : List UInt8)
    : ∃ words, readBytes floatSize text (fileBytes text h jpeg) = some {
        header := { h with context := h.context.filter Context.isSupported, ocrWords := words }
        jpeg
      } := by
  rcases hwrites.readBack with ⟨f, hread⟩
  have hmagic : magic.length = 4 := rfl
  have hn := Bytes.readU32le_frame hmagic hlength jpeg
  rcases Option.bind_eq_some_iff.mp hn with ⟨field, hfield, hfieldLength⟩
  have hheader := ofJson_header floatSize f htyped hcontext
  have hgood : ¬((fileBytes text h jpeg).length < 8 ∨ (fileBytes text h jpeg).take 4 ≠ magic) := by
    have hlen := Bytes.length_frame hmagic (text.toVec h.toJson) jpeg
    have htake : (fileBytes text h jpeg).take 4 = magic := List.take_left' hmagic
    rw [htake, fileBytes]
    simp only [ne_eq, not_true_eq_false, or_false]
    omega
  refine ⟨Json.mapFloatsItems f h.ocrWords, ?_⟩
  unfold readBytes
  rw [if_neg hgood]
  unfold fileBytes
  simp only [Option.bind_eq_bind, hfield, hfieldLength, Option.bind_some, Bytes.header_frame hmagic, hread,
    hheader, Bytes.body_frame hmagic, Option.pure_def]

end Spool

end Vantyr
