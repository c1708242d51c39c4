import Vantyr.Agent.Fence
import Vantyr.Agent.RecallContext
import Vantyr.Data.JsonText
import Vantyr.Server.Recall.Ingest

/-!
This module contains the generation fence of binary frames (`agent/src/permissions/fence.rs`): a frame
is tagged with the grant it was made under, and the last writer takes the tag off if the grant is still
the current one. Of a Recall keyframe it also checks the context again.
-/

namespace Vantyr

namespace Permissions

open RecallContext

-- `VGN1`.
def fenceMagic : List UInt8 := [86, 71, 78, 49]

-- `AUD\0`.
def audioFrameMagic : List UInt8 := [65, 85, 68, 0]

structure BinaryFence where
  generation : Generation
  contextGenerations : Generations

def Generation.toJson (g : Generation) : Json :=
  .object [("module", g.module.toJson), ("revision", .ofNat g.revision)]

def generationField (key : String) (g : Option Generation) : List (String × Json) :=
  (g.map (fun g => (key, g.toJson))).toList

-- A generation that is missing is left out.
def generationsToJson (gs : Generations) : Json :=
  .object (generationField "browser_generation" gs.browserGeneration
    ++ generationField "window_generation" gs.windowGeneration)

def generationsOfJson (value : Json) : Option Generations := do
  match ← value.optionalFields ["window_generation", "browser_generation"] 2 with
  | [window, browser] =>
    return {
      windowGeneration := ← Json.readOption Generation.ofJson window
      browserGeneration := ← Json.readOption Generation.ofJson browser
    }
  | _ => none

namespace BinaryFence

def toJson (fence : BinaryFence) : Json :=
  .object [
    ("context_generations", generationsToJson fence.contextGenerations),
    ("module", fence.generation.module.toJson),
    ("revision", .ofNat fence.generation.revision)
  ]

-- A fence with a flattened generation is read from an object only.
def ofJson : Json → Option BinaryFence
  | .object fields => do
    let generation ← Generation.ofJson (.object fields)
    let contextGenerations ←
      (Fields.get? "context_generations" fields).elim (some Generations.default) generationsOfJson
    return { generation, contextGenerations }
  | _ => none

end BinaryFence

section Codec

variable (text : JsonText)

def tagBinary (b : List UInt8) : Option Generation → List UInt8
  | none => b
  | some g => Bytes.frame fenceMagic (text.toVec g.toJson) b

def tagRecallBinary (b : List UInt8) (generation : Option Generation) (contextGenerations : Generations)
    : List UInt8 :=
  match generation with
  | none => b
  | some generation =>
    Bytes.frame fenceMagic (text.toVec (BinaryFence.toJson { generation, contextGenerations })) b

def payloadModule (payload : List UInt8) : Module :=
  if Recall.historyFrameMagic <+: payload then
    .recall
  else if audioFrameMagic <+: payload then
    .liveAudio
  else
    .liveScreen

def fenceHeader (s : State) (gs : Generations) : Json → Option Json
  | .object fields =>
    match Fields.get? "context" fields with
    | none => some (.object fields)
    | some raw =>
      let rest := Fields.erase "context" fields
      match (Context.ofJson raw).filter Context.isSupported with
      | none => some (.object rest)
      | some c => some (.object (Fields.insert "context" (c.sanitizeIn s gs).toJson rest))
  | _ => none

def maxHistoryHeaderBytes : Nat := 1024 * 1024

def prepareHistoryFrame (s : State) (gs : Generations) (payload : List UInt8)
    : Option (List UInt8) := do
  let hlen ← Bytes.readU32le (← Bytes.slice? payload 4 8)
  if maxHistoryHeaderBytes < hlen then
    none
  else
    let header ← text.fromSlice (← Bytes.slice? payload 8 (8 + hlen))
    let header ← fenceHeader s gs header
    let jpeg ← Bytes.slice? payload (8 + hlen) payload.length
    return Bytes.frame Recall.historyFrameMagic (text.toVec header) jpeg

def releasePayload (s : State) (fence : BinaryFence) (payload : List UInt8) : Option (List UInt8) :=
  let module := payloadModule payload
  if fence.generation.module ≠ module ∨ !fence.generation.matches s then
    none
  else if module ≠ .recall then
    some payload
  else
    prepareHistoryFrame text s fence.contextGenerations payload

def prepareBinaryIn (b : List UInt8) (s : State) : Option (List UInt8) := do
  let n ← Bytes.readU32le (← Bytes.slice? b 4 8)
  let fence ← BinaryFence.ofJson (← text.fromSlice (← Bytes.slice? b 8 (8 + n)))
  let payload ← Bytes.slice? b (8 + n) b.length
  releasePayload text s fence payload

def readTag (b : List UInt8) : Option (Generation × List UInt8) := do
  let n ← Bytes.readU32le (← Bytes.slice? b 4 8)
  let g ← Generation.ofJson (← text.fromSlice (← Bytes.slice? b 8 (8 + n)))
  return (g, ← Bytes.slice? b (8 + n) b.length)

-- What `message_allowed` asks of a binary frame.
def binaryAllowed (store : Option State) (b : List UInt8) : Bool :=
  fenceMagic.isPrefixOf b && (readTag text b).any (fun tag =>
    tag.1.module = payloadModule tag.2 ∧ tag.1.validFresh store)

-- A binary frame in `prepare_message`.
def prepareBinary (store : Option State) (b : List UInt8) : Option (List UInt8) :=
  if binaryAllowed text store b then store.bind (prepareBinaryIn text b) else none

end Codec

/-!
A tag is read back.
-/

theorem ofJson_generation (g : Generation) : Generation.ofJson g.toJson = some g := by
  simp [Generation.ofJson, Generation.toJson, Json.structFields, Fields.get?]

theorem readOption_generation (g : Option Generation)
    : Json.readOption Generation.ofJson (g.map Generation.toJson) = some g := by
  cases g with
  | none => rfl
  | some g =>
    have := ofJson_generation g
    unfold Generation.toJson at this
    simp [Json.readOption, Generation.toJson, this]

theorem optionalFields_generations (gs : Generations)
    : (generationsToJson gs).optionalFields ["window_generation", "browser_generation"] 2
        = some [gs.windowGeneration.map Generation.toJson,
            gs.browserGeneration.map Generation.toJson] := by
  obtain ⟨window, browser⟩ := gs
  cases window with
  | none =>
    cases browser with
    | none => rfl
    | some _ => rfl
  | some _ =>
    cases browser with
    | none => rfl
    | some _ => rfl

theorem generationsOfJson_toJson (gs : Generations)
    : generationsOfJson (generationsToJson gs) = some gs := by
  simp only [generationsOfJson, optionalFields_generations, Option.bind_eq_bind, Option.bind_some,
    readOption_generation, Option.pure_def]

theorem BinaryFence.ofJson_toJson (fence : BinaryFence) : ofJson fence.toJson = some fence := by
  simp [ofJson, toJson, Generation.ofJson, Json.structFields, Fields.get?, generationsOfJson_toJson]

theorem BinaryFence.ofJson_generation (g : Generation)
    : ofJson g.toJson = some { generation := g, contextGenerations := .default } := by
  simp [ofJson, Generation.toJson, Generation.ofJson, Json.structFields, Fields.get?]

theorem mapFloats_generation (f : Nat → Nat) (g : Generation) : g.toJson.mapFloats f = g.toJson := rfl

theorem mapFloats_fence (f : Nat → Nat) (fence : BinaryFence)
    : fence.toJson.mapFloats f = fence.toJson := by
  obtain ⟨g, ⟨window, browser⟩⟩ := fence
  cases window with
  | none =>
    cases browser with
    | none => rfl
    | some _ => rfl
  | some _ =>
    cases browser with
    | none => rfl
    | some _ => rfl

/-!
A header is no longer than a length field can say, also after its context was checked again.
-/

theorem size_module (m : Module) : m.asStr.utf8ByteSize ≤ 18 := by
  cases m <;> decide

theorem size_generation (g : Generation) : g.toJson.renderedSize ≤ 300 := by
  have hmodule := size_module g.module
  have h1 : "module".utf8ByteSize = 6 := by decide
  have h2 : "revision".utf8ByteSize = 8 := by decide
  simp only [Generation.toJson, Module.toJson, Json.ofNat, Json.renderedSize, Json.fieldsSize, h1, h2]
  omega

theorem size_generationField (key : String) (g : Option Generation)
    : Json.fieldsSize (generationField key g) ≤ 6 * key.utf8ByteSize + 304 := by
  cases g with
  | none => exact Nat.zero_le _
  | some g =>
    have := size_generation g
    simp only [generationField, Option.map_some, Option.toList_some, Json.fieldsSize]
    omega

theorem fieldsSize_append (xs ys : List (String × Json))
    : Json.fieldsSize (xs ++ ys) = Json.fieldsSize xs + Json.fieldsSize ys := by
  induction xs with
  | nil => simp [Json.fieldsSize]
  | cons x xs ih =>
    simp only [List.cons_append, Json.fieldsSize, ih]
    omega

theorem size_fence (fence : BinaryFence) : fence.toJson.renderedSize ≤ 2000 := by
  have hmodule := size_module fence.generation.module
  have hbrowser := size_generationField "browser_generation" fence.contextGenerations.browserGeneration
  have hwindow := size_generationField "window_generation" fence.contextGenerations.windowGeneration
  have h1 : "module".utf8ByteSize = 6 := by decide
  have h2 : "revision".utf8ByteSize = 8 := by decide
  have h3 : "context_generations".utf8ByteSize = 19 := by decide
  have h4 : "browser_generation".utf8ByteSize = 18 := by decide
  have h5 : "window_generation".utf8ByteSize = 17 := by decide
  rw [h4] at hbrowser
  rw [h5] at hwindow
  simp only [BinaryFence.toJson, generationsToJson, Module.toJson, Json.ofNat, Json.renderedSize,
    Json.fieldsSize, fieldsSize_append, h1, h2, h3]
  omega

theorem size_stringOrNull {text : Option String} {n : Nat} (h : ∀ t ∈ text, t.utf8ByteSize ≤ n)
    : (stringOrNull text).renderedSize ≤ 6 * n + 4 := by
  cases text with
  | none =>
    simp only [stringOrNull, Option.elim_none, Json.renderedSize]
    omega
  | some t =>
    have := h t rfl
    simp only [stringOrNull, Option.elim_some, Json.renderedSize]
    omega

theorem size_reasonOrNull (reason : Option Reason) : (reasonOrNull reason).renderedSize ≤ 120 := by
  cases reason with
  | none => decide
  | some reason => cases reason <;> decide

theorem size_status (status : Status) : status.asStr.utf8ByteSize ≤ 13 := by
  cases status <;> decide

theorem size_source (source : Source) : source.asStr.utf8ByteSize ≤ 8 := by
  cases source <;> decide

theorem size_window {w : WindowContext} (happ : ∀ app ∈ w.app, app.utf8ByteSize ≤ maxAppBytes)
    (htitle : ∀ title ∈ w.title, title.utf8ByteSize ≤ maxTitleBytes)
    : w.toJson.renderedSize ≤ 8400 := by
  have h := size_stringOrNull happ
  have h' := size_stringOrNull htitle
  have hreason := size_reasonOrNull w.reason
  have hstatus := size_status w.status
  have hsource := size_source w.source
  have h1 : "app".utf8ByteSize = 3 := by decide
  have h2 : "reason".utf8ByteSize = 6 := by decide
  have h3 : "source".utf8ByteSize = 6 := by decide
  have h4 : "status".utf8ByteSize = 6 := by decide
  have h5 : "title".utf8ByteSize = 5 := by decide
  have h6 : "title_truncated".utf8ByteSize = 15 := by decide
  simp only [maxAppBytes, maxTitleBytes] at h h'
  unfold WindowContext.toJson
  dsimp only
  split
  . simp only [Json.renderedSize, Json.fieldsSize, List.cons_append, List.nil_append, h1, h2, h3, h4,
      h5, h6]
    omega
  . simp only [Json.renderedSize, Json.fieldsSize, h1, h2, h3, h4, h5]
    omega

theorem size_sanitizeBrowser (s : State) (gs : Generations)
    : (Context.sanitizeBrowser s gs).toJson.renderedSize ≤ 600 := by
  have hreason := size_reasonOrNull (Context.sanitizeBrowser s gs).reason
  have hstatus := size_status (Context.sanitizeBrowser s gs).status
  have hsource := size_source (Context.sanitizeBrowser s gs).source
  have hurl : (stringOrNull (Context.sanitizeBrowser s gs).url).renderedSize = 4 := rfl
  have hhost : (stringOrNull (Context.sanitizeBrowser s gs).urlHost).renderedSize = 4 := rfl
  have h1 : "reason".utf8ByteSize = 6 := by decide
  have h2 : "source".utf8ByteSize = 6 := by decide
  have h3 : "status".utf8ByteSize = 6 := by decide
  have h4 : "url".utf8ByteSize = 3 := by decide
  have h5 : "url_host".utf8ByteSize = 8 := by decide
  simp only [BrowserContext.toJson, Json.renderedSize, Json.fieldsSize, hurl, hhost, h1, h2, h3, h4, h5]
  omega

theorem size_revisions (revision : Option Nat)
    : (revisionsToJson (fun m => if m = .windowActivity then revision else none)).renderedSize
        ≤ 200 := by
  cases revision with
  | none =>
    simp [revisionsToJson, Module.all, Json.renderedSize, Json.fieldsSize]
  | some n =>
    have h1 : Module.windowActivity.asStr.utf8ByteSize = 15 := by decide
    simp [revisionsToJson, Module.all, Json.renderedSize, Json.fieldsSize, Fields.insert, Json.ofNat, h1]

theorem size_context {c : Context} (hsupported : c.isSupported = true) (s : State) (gs : Generations)
    : (c.sanitizeIn s gs).toJson.renderedSize ≤ 10000 := by
  have hvalues := Context.size_sanitizeIn_window c s gs
  have hwindow := size_window hvalues.1 hvalues.2
  have hbrowser := size_sanitizeBrowser s gs
  have hrevisions := size_revisions ((c.sanitizeIn s gs).grantRevisions .windowActivity)
  have hscope : (c.sanitizeIn s gs).scope = contextScope := by
    simp only [Context.isSupported, decide_eq_true_eq] at hsupported
    rw [(c.envelope_sanitizeIn s gs).scope, hsupported.2.1]
  have hrelation := c.monitorRelation_sanitizeIn s gs
  rw [← c.grantRevisions_sanitizeIn s gs] at hrevisions
  have hbrowser' : (c.sanitizeIn s gs).browser = Context.sanitizeBrowser s gs := rfl
  have h0 : contextScope.utf8ByteSize = 18 := by decide
  have h1 : "bracket_ms".utf8ByteSize = 10 := by decide
  have h2 : "browser".utf8ByteSize = 7 := by decide
  have h3 : "grant_revisions".utf8ByteSize = 15 := by decide
  have h4 : "monitor_relation".utf8ByteSize = 16 := by decide
  have h5 : "scope".utf8ByteSize = 5 := by decide
  have h6 : "version".utf8ByteSize = 7 := by decide
  have h7 : "window".utf8ByteSize = 6 := by decide
  have h8 : "unknown".utf8ByteSize = 7 := by decide
  simp only [Context.toJson, Json.renderedSize, Json.fieldsSize, Json.ofNat, hscope, hrelation,
    hbrowser', h0, h1, h2, h3, h4, h5, h6, h7, h8]
  omega

theorem size_fenceHeader {s : State} {gs : Generations} {value header : Json}
    (h : fenceHeader s gs value = some header)
    : header.renderedSize ≤ value.renderedSize + 10100 := by
  unfold fenceHeader at h
  split at h
  . next fields =>
    split at h
    . rw [Option.some.injEq] at h
      rw [← h]
      omega
    . next raw _ =>
      dsimp only at h
      have herase := Json.fieldsSize_erase "context" fields
      split at h
      . rw [Option.some.injEq] at h
        rw [← h]
        simp only [Json.renderedSize]
        omega
      . next c hc =>
        rw [Option.filter_eq_some_iff] at hc
        have hcontext := size_context hc.2 s gs
        have hinsert := Json.fieldsSize_insert "context" (c.sanitizeIn s gs).toJson
          (Fields.erase "context" fields)
        have h1 : "context".utf8ByteSize = 7 := by decide
        rw [Option.some.injEq] at h
        rw [← h]
        simp only [Json.renderedSize]
        omega
  . cases h

/-!
The three formats together.
-/

section Frames

variable {text : JsonText} {s : State} {g : Generation} {gs : Generations}

/--
The frames that a payload is tagged as, with the generations of its context.
-/
inductive Tagged (text : JsonText) (g : Generation) (p : List UInt8)
    : Generations → List UInt8 → Prop where
  | plain : Tagged text g p .default (tagBinary text p (some g))
  | recall (gs : Generations) : Tagged text g p gs (tagRecallBinary text p (some g) gs)

theorem prepareBinaryIn_frame {header : List UInt8} (hlen : header.length < 2 ^ 32)
    (p : List UInt8) (s : State)
    : prepareBinaryIn text (Bytes.frame fenceMagic header p) s
        = ((text.fromSlice header).bind BinaryFence.ofJson).bind (releasePayload text s · p) := by
  have hn := Bytes.readU32le_frame (show fenceMagic.length = 4 from rfl) hlen p
  rcases Option.bind_eq_some_iff.mp hn with ⟨field, hfield, hread⟩
  simp only [prepareBinaryIn, Option.bind_eq_bind, hfield, hread, Option.bind_some,
    Bytes.header_frame (show fenceMagic.length = 4 from rfl),
    Bytes.body_frame (show fenceMagic.length = 4 from rfl)]
  cases text.fromSlice header with
  | none => rfl
  | some value => rfl

theorem prepareBinaryIn_tagged {p frame : List UInt8} (h : Tagged text g p gs frame)
    (hplain : text.Writes g.toJson)
    (hfence : text.Writes (BinaryFence.toJson { generation := g, contextGenerations := gs }))
    (s : State)
    : prepareBinaryIn text frame s
        = releasePayload text s { generation := g, contextGenerations := gs } p := by
  cases h with
  | plain =>
    have hsize := hplain.size
    have hbound := size_generation g
    rcases hplain.readBack with ⟨f, hread⟩
    rw [tagBinary, prepareBinaryIn_frame (by omega), hread, mapFloats_generation, Option.bind_some,
      BinaryFence.ofJson_generation, Option.bind_some]
  | _ =>
    have hsize := hfence.size
    have hbound := size_fence { generation := g, contextGenerations := gs }
    rcases hfence.readBack with ⟨f, hread⟩
    rw [tagRecallBinary, prepareBinaryIn_frame (by omega), hread, mapFloats_fence, Option.bind_some,
      BinaryFence.ofJson_toJson, Option.bind_some]

/--
A keyframe that the last writer can take apart: a header that is a JSON object of at most 1 MiB, and
the bytes of an image.
-/
structure HistoryPayload (text : JsonText) (p header : List UInt8) (fields : List (String × Json))
    (jpeg : List UInt8) : Prop where
  frame : p = Bytes.frame Recall.historyFrameMagic header jpeg
  size : header.length ≤ maxHistoryHeaderBytes
  object : text.fromSlice header = some (.object fields)

theorem prepareHistoryFrame_eq {p header jpeg : List UInt8} {fields : List (String × Json)}
    (h : HistoryPayload text p header fields jpeg)
    : prepareHistoryFrame text s gs p = (fenceHeader s gs (.object fields)).map
        (fun value => Bytes.frame Recall.historyFrameMagic (text.toVec value) jpeg) := by
  have hsize := h.size
  have hlen : header.length < 2 ^ 32 := by
    unfold maxHistoryHeaderBytes at hsize
    omega
  have hmagic : Recall.historyFrameMagic.length = 4 := rfl
  have hn := Bytes.readU32le_frame hmagic hlen jpeg
  rcases Option.bind_eq_some_iff.mp hn with ⟨field, hfield, hread⟩
  rw [h.frame]
  simp only [prepareHistoryFrame, Option.bind_eq_bind, hfield, hread, Option.bind_some,
    if_neg (Nat.not_lt.mpr hsize), Bytes.header_frame hmagic, Bytes.body_frame hmagic, h.object]
  cases fenceHeader s gs (.object fields) with
  | none => rfl
  | some value => rfl

theorem historyPayload_of_prepare {p out : List UInt8}
    (hmagic : Recall.historyFrameMagic <+: p) (h : prepareHistoryFrame text s gs p = some out)
    : ∃ header fields jpeg, HistoryPayload text p header fields jpeg := by
  simp only [prepareHistoryFrame, Option.bind_eq_bind] at h
  rcases Option.bind_eq_some_iff.mp h with ⟨field, hfield, h⟩
  rcases Option.bind_eq_some_iff.mp h with ⟨hlen, hread, h⟩
  split at h
  . cases h
  . next hsize =>
    rcases Option.bind_eq_some_iff.mp h with ⟨header, hheader, h⟩
    rcases Option.bind_eq_some_iff.mp h with ⟨value, hvalue, h⟩
    rcases Option.bind_eq_some_iff.mp h with ⟨fenced, hfenced, h⟩
    rcases Option.bind_eq_some_iff.mp h with ⟨jpeg, hjpeg, _⟩
    have hcount := Bytes.length_slice? hheader
    have hframe := Bytes.eq_frame (Option.bind_eq_some_iff.mpr ⟨field, hfield, hread⟩) hheader hjpeg
    have htake : p.take 4 = Recall.historyFrameMagic := by
      rcases hmagic with ⟨rest, hrest⟩
      rw [← hrest]
      rfl
    cases value with
    | object fields =>
      refine ⟨header, fields, jpeg, ?_, ?_, hvalue⟩
      . rw [htake] at hframe
        exact hframe
      . omega
    | _ => cases hfenced

theorem exists_fenceHeader (s : State) (gs : Generations) (fields : List (String × Json))
    : ∃ value, fenceHeader s gs (.object fields) = some value := by
  simp only [fenceHeader]
  split
  . exact ⟨_, rfl⟩
  . split
    . exact ⟨_, rfl⟩
    . exact ⟨_, rfl⟩

theorem prefix_historyFrame {p header jpeg : List UInt8} {fields : List (String × Json)}
    (h : HistoryPayload text p header fields jpeg) : payloadModule p = .recall := by
  unfold payloadModule
  rw [if_pos]
  rw [h.frame]
  exact List.prefix_append ..

-- The payload is let through if its grant is the current one and its keyframe can be taken apart.
theorem isSome_releasePayload {p : List UInt8}
    : (releasePayload text s { generation := g, contextGenerations := gs } p).isSome = true ↔
        g.matches s = true ∧ g.module = payloadModule p
          ∧ (payloadModule p = .recall → ∃ header fields jpeg, HistoryPayload text p header fields jpeg)
    := by
  unfold releasePayload
  dsimp only
  split
  . next h =>
    constructor
    . intro hsome
      cases hsome
    . intro hmatch
      rcases h with h | h
      . exact absurd hmatch.2.1 h
      . rw [hmatch.1] at h
        cases h
  . next h =>
    have hmodule : g.module = payloadModule p := by
      by_contra hne
      exact h (.inl hne)
    have hmatch : g.matches s = true := by
      by_contra hne
      exact h (.inr (by simpa using hne))
    split
    . next hother =>
      constructor
      . intro _
        exact ⟨hmatch, hmodule, fun hrecall => absurd hrecall hother⟩
      . intro _
        rfl
    . next hrecall =>
      have hclass : payloadModule p = .recall := by
        by_contra hne
        exact hrecall hne
      constructor
      . intro hsome
        rcases Option.isSome_iff_exists.mp hsome with ⟨out, hout⟩
        refine ⟨hmatch, hmodule, fun _ => historyPayload_of_prepare ?_ hout⟩
        by_contra hnot
        unfold payloadModule at hclass
        rw [if_neg hnot] at hclass
        split at hclass
        . cases hclass
        . cases hclass
      . intro hready
        rcases hready.2.2 hclass with ⟨header, fields, jpeg, hpayload⟩
        rcases exists_fenceHeader s gs fields with ⟨value, hvalue⟩
        rw [prepareHistoryFrame_eq hpayload, hvalue]
        rfl

theorem parseHistoryFrameBinary_frame {header : List UInt8} {value : Json}
    (hlen : header.length < 2 ^ 32) (hread : text.fromSlice header = some value) (jpeg : List UInt8)
    : Recall.parseHistoryFrameBinary text.fromSlice (Bytes.frame Recall.historyFrameMagic header jpeg)
        = .ok (value, jpeg) := by
  have hmagic : Recall.historyFrameMagic.length = 4 := rfl
  have hlength := Bytes.length_frame hmagic header jpeg
  have hn := Bytes.readU32le_frame hmagic hlen jpeg
  rcases Option.bind_eq_some_iff.mp hn with ⟨field, hfield, hfieldRead⟩
  have hbody := Bytes.body_frame hmagic header jpeg
  have hslice : ((Bytes.frame Recall.historyFrameMagic header jpeg).take 8).drop 4 = field := by
    unfold Bytes.slice? at hfield
    rw [if_pos (by omega), Option.some.injEq] at hfield
    exact hfield
  have hdrop : (Bytes.frame Recall.historyFrameMagic header jpeg).drop (8 + header.length) = jpeg := by
    unfold Bytes.slice? at hbody
    rw [if_pos (by omega), Option.some.injEq, List.take_length] at hbody
    exact hbody
  unfold Recall.parseHistoryFrameBinary
  rw [if_neg (by omega), if_neg (by simp [Bytes.frame, Recall.historyFrameMagic]), hslice, hfieldRead]
  simp only [Bytes.header_frame hmagic, hread, hdrop]

theorem frame_of_parseHistoryFrameBinary {b jpeg : List UInt8} {value : Json}
    (h : Recall.parseHistoryFrameBinary text.fromSlice b = .ok (value, jpeg))
    : ∃ header, b = Bytes.frame Recall.historyFrameMagic header jpeg
        ∧ text.fromSlice header = some value := by
  unfold Recall.parseHistoryFrameBinary at h
  split at h
  . cases h
  . next hlen =>
    split at h
    . cases h
    . next hmagic =>
      split at h
      . cases h
      . next hlen' hread =>
        split at h
        . cases h
        . next header hheader =>
          split at h
          . cases h
          . next val hval =>
            rw [Except.ok.injEq, Prod.mk.injEq] at h
            have hcount := Bytes.length_slice? hheader
            have hfield : (Bytes.slice? b 4 8).bind Bytes.readU32le = some hlen' := by
              rw [Bytes.slice?, if_pos (by omega)]
              exact hread
            have hbody : Bytes.slice? b (8 + hlen') b.length = some jpeg := by
              have hle : 8 + hlen' ≤ b.length := by
                by_contra hnot
                rw [Bytes.slice?, if_neg (by omega)] at hheader
                cases hheader
              rw [Bytes.slice?, if_pos (by omega), List.take_length, h.2]
            have hframe := Bytes.eq_frame hfield hheader hbody
            have htake : b.take 4 = Recall.historyFrameMagic := by
              by_contra hne
              exact hmagic hne
            rw [htake] at hframe
            refine ⟨header, hframe, ?_⟩
            rw [hval, h.1]

theorem field_fenceHeader {fields : List (String × Json)} {value : Json}
    (h : fenceHeader s gs (.object fields) = some value) {key : String} (hkey : key ≠ "context")
    : value.field key = (Json.object fields).field key := by
  simp only [fenceHeader] at h
  split at h
  . rw [Option.some.injEq] at h
    rw [h]
  . split at h
    . rw [Option.some.injEq] at h
      rw [← h]
      simp only [Json.field, Json.get?, Fields.get?_erase_of_ne hkey]
    . rw [Option.some.injEq] at h
      rw [← h]
      simp only [Json.field, Json.get?, Fields.get?_insert_of_ne hkey, Fields.get?_erase_of_ne hkey]

theorem context_fenceHeader {fields : List (String × Json)} {value : Json}
    (h : fenceHeader s gs (.object fields) = some value)
    : value.field "context" = .null
      ∨ ∃ c : Context, value.field "context" = (c.sanitizeIn s gs).toJson := by
  simp only [fenceHeader] at h
  split at h
  . next hnone =>
    rw [Option.some.injEq] at h
    left
    rw [← h]
    simp only [Json.field, Json.get?, hnone]
    rfl
  . split at h
    . rw [Option.some.injEq] at h
      left
      rw [← h]
      simp only [Json.field, Json.get?, Fields.get?_erase_self]
      rfl
    . next c _ =>
      rw [Option.some.injEq] at h
      right
      refine ⟨c, ?_⟩
      rw [← h]
      simp only [Json.field, Json.get?, Fields.get?_insert_self]
      rfl

-- A value of the window in the context of a keyframe.
def windowValue (header : Json) (key : String) : Json :=
  ((header.field "context").field "window").field key

theorem windowValue_mapFloats (f : Nat → Nat) (header : Json) (key : String)
    : windowValue (header.mapFloats f) key = (windowValue header key).mapFloats f := by
  simp only [windowValue, Json.field_mapFloats]

theorem windowValue_toJson (c : Context) {header : Json} (h : header.field "context" = c.toJson)
    : windowValue header "app" = stringOrNull c.window.app
      ∧ windowValue header "title" = stringOrNull c.window.title := by
  have hwindow : c.toJson.field "window" = c.window.toJson := rfl
  unfold windowValue
  rw [h, hwindow]
  unfold WindowContext.toJson
  dsimp only
  split
  . exact ⟨rfl, rfl⟩
  . exact ⟨rfl, rfl⟩

theorem windowValue_fenceHeader {fields : List (String × Json)} {value : Json}
    (h : fenceHeader s gs (.object fields) = some value)
    (hvalue : windowValue value "app" ≠ .null ∨ windowValue value "title" ≠ .null)
    : ∃ w, gs.windowGeneration = some w ∧ w.module = .windowActivity ∧ w.matches s = true := by
  rcases context_fenceHeader h with hnull | ⟨c, hc⟩
  . unfold windowValue at hvalue
    rw [hnull] at hvalue
    rcases hvalue with hvalue | hvalue
    . exact absurd rfl hvalue
    . exact absurd rfl hvalue
  . rcases windowValue_toJson _ hc with ⟨happ, htitle⟩
    rw [happ, htitle] at hvalue
    apply Context.sanitizeIn_window_values (c := c)
    rcases hvalue with hvalue | hvalue
    . left
      intro hnone
      rw [hnone] at hvalue
      exact hvalue rfl
    . right
      intro hnone
      rw [hnone] at hvalue
      exact hvalue rfl

theorem mapFloats_eq_null {f : Nat → Nat} {value : Json} (h : value = .null)
    : value.mapFloats f = .null := by
  rw [h]
  rfl

end Frames

/--
A tagged payload is let through just if its grant is the current one of its class, and a keyframe if
its header can be read as well. Anything but a keyframe is let through as it is; of a keyframe the
server reads the id, the time and the image that were sent, and a window only under a grant that is
current. Whatever bytes come in, both parsers accept nothing else.
-/
theorem fence_codec (text : JsonText) (s : State) (g : Generation) (gs : Generations)
    (p frame : List UInt8) (htagged : Tagged text g p gs frame) (hplain : text.Writes g.toJson)
    (hfence : text.Writes (BinaryFence.toJson { generation := g, contextGenerations := gs }))
    (hheader : ∀ header fields jpeg, HistoryPayload text p header fields jpeg
      → text.Reads header
        ∧ ∀ value, fenceHeader s gs (.object fields) = some value → text.Writes value)
    : ((prepareBinaryIn text frame s).isSome = true ↔ g.matches s = true ∧ g.module = payloadModule p
        ∧ (payloadModule p = .recall
          → ∃ header fields jpeg, HistoryPayload text p header fields jpeg))
      ∧ (payloadModule p ≠ .recall → ∀ out ∈ prepareBinaryIn text frame s, out = p)
      ∧ (∀ header fields jpeg, HistoryPayload text p header fields jpeg
        → ∀ out ∈ prepareBinaryIn text frame s,
          ∃ value, Recall.parseHistoryFrameBinary text.fromSlice out = .ok (value, jpeg)
            ∧ (value.field "uid").asStr = ((Json.object fields).field "uid").asStr
            ∧ (value.field "captured_at").asStr = ((Json.object fields).field "captured_at").asStr
            ∧ (windowValue value "app" ≠ .null ∨ windowValue value "title" ≠ .null
              → ∃ w, gs.windowGeneration = some w ∧ w.module = .windowActivity
                ∧ w.matches s = true))
      ∧ (∀ b out, prepareBinaryIn text b s = some out → ∃ header payload value fence,
        b = Bytes.frame (b.take 4) header payload ∧ text.fromSlice header = some value
          ∧ BinaryFence.ofJson value = some fence ∧ fence.generation.matches s = true
          ∧ fence.generation.module = payloadModule payload)
      ∧ (∀ b, ¬fenceMagic <+: b → prepareBinary text (some s) b = none)
      ∧ (∀ b value jpeg, Recall.parseHistoryFrameBinary text.fromSlice b = .ok (value, jpeg)
        → ∃ header, b = Bytes.frame Recall.historyFrameMagic header jpeg
          ∧ text.fromSlice header = some value) := by
  have hprepare := prepareBinaryIn_tagged htagged hplain hfence s
  refine ⟨?_, ?_, ?_, ?_, ?_, ?_⟩
  . rw [hprepare]
    exact isSome_releasePayload
  . intro hother out hout
    rw [hprepare] at hout
    unfold releasePayload at hout
    dsimp only at hout
    split at hout
    . cases hout
    . rw [Option.mem_def, Option.some.injEq] at hout
      exact hout.symm
  . intro header fields jpeg hpayload out hout
    rw [hprepare] at hout
    unfold releasePayload at hout
    dsimp only at hout
    split at hout
    . cases hout
    . rw [if_neg (not_not_intro (prefix_historyFrame hpayload)), prepareHistoryFrame_eq hpayload,
        Option.mem_def, Option.map_eq_some_iff] at hout
      rcases hout with ⟨fenced, hfenced, rfl⟩
      rcases hheader header fields jpeg hpayload with ⟨hreads, hwrites⟩
      rcases (hwrites fenced hfenced).readBack with ⟨f, hread⟩
      have hsize := (hwrites fenced hfenced).size
      have hgrowth := size_fenceHeader hfenced
      have hbound := hreads _ hpayload.object
      have hshort := hpayload.size
      unfold maxHistoryHeaderBytes at hshort
      refine ⟨_, parseHistoryFrameBinary_frame (by omega) hread jpeg, ?_, ?_, ?_⟩
      . rw [Json.field_mapFloats, Json.asStr_mapFloats, field_fenceHeader hfenced (by decide)]
      . rw [Json.field_mapFloats, Json.asStr_mapFloats, field_fenceHeader hfenced (by decide)]
      . intro hvalue
        apply windowValue_fenceHeader hfenced
        simp only [windowValue_mapFloats] at hvalue
        rcases hvalue with hvalue | hvalue
        . exact .inl (fun hnull => hvalue (mapFloats_eq_null hnull))
        . exact .inr (fun hnull => hvalue (mapFloats_eq_null hnull))
  . intro b out hout
    simp only [prepareBinaryIn, Option.bind_eq_bind] at hout
    rcases Option.bind_eq_some_iff.mp hout with ⟨field, hfield, hout⟩
    rcases Option.bind_eq_some_iff.mp hout with ⟨n, hread, hout⟩
    rcases Option.bind_eq_some_iff.mp hout with ⟨header, hslice, hout⟩
    rcases Option.bind_eq_some_iff.mp hout with ⟨value, hvalue, hout⟩
    rcases Option.bind_eq_some_iff.mp hout with ⟨fence, hofJson, hout⟩
    rcases Option.bind_eq_some_iff.mp hout with ⟨payload, hpayload, hout⟩
    have hsome : (releasePayload text s fence payload).isSome = true := by
      rw [hout]
      rfl
    have hready := isSome_releasePayload.mp hsome
    exact ⟨header, payload, value, fence,
      Bytes.eq_frame (Option.bind_eq_some_iff.mpr ⟨field, hfield, hread⟩) hslice hpayload, hvalue,
      hofJson, hready.1, hready.2.1⟩
  . intro b hmagic
    unfold prepareBinary binaryAllowed
    have : fenceMagic.isPrefixOf b = false := by
      rw [Bool.eq_false_iff]
      intro h
      exact hmagic (List.isPrefixOf_iff_prefix.mp h)
    rw [this]
    rfl
  . intro b value jpeg h
    exact frame_of_parseHistoryFrameBinary h

namespace Example

-- The texts of the values that a run meets.
def textOf (pairs : List (Json × String)) : JsonText where
  toVec value :=
    match pairs.find? (fun pair => pair.1 = value) with
    | some pair => pair.2.toList.map (fun c => UInt8.ofNat c.toNat)
    | none => []
  fromSlice bytes :=
    (pairs.find? (fun pair => pair.2.toList.map (fun c => UInt8.ofNat c.toNat) = bytes)).map Prod.fst

def grants : State := State.default.setGrant .recall true

def generation : Generation := { module := .recall, revision := 1 }

def fence : BinaryFence := { generation, contextGenerations := .default }

def sentHeader : Json :=
  .object [
    ("captured_at", .string "2026-01-01T00:00:00+00:00"),
    ("context", .null),
    ("uid", .string "3f1a9c62-0000-4000-8000-000000000001")
  ]

def fencedHeader : Json :=
  .object [
    ("captured_at", .string "2026-01-01T00:00:00+00:00"),
    ("uid", .string "3f1a9c62-0000-4000-8000-000000000001")
  ]

def text : JsonText :=
  textOf [
    (generation.toJson, "\x7b\"module\":\"recall\",\"revision\":1\x7d"),
    (fence.toJson,
      "\x7b\"module\":\"recall\",\"revision\":1,\"context_generations\":\x7b\x7d\x7d"),
    (sentHeader,
      "\x7b\"captured_at\":\"2026-01-01T00:00:00+00:00\",\"context\":null,"
        ++ "\"uid\":\"3f1a9c62-0000-4000-8000-000000000001\"\x7d"),
    (fencedHeader,
      "\x7b\"captured_at\":\"2026-01-01T00:00:00+00:00\","
        ++ "\"uid\":\"3f1a9c62-0000-4000-8000-000000000001\"\x7d")
  ]

def jpeg : List UInt8 := [0xff, 0xd8, 0xff, 0xd9]

def keyframe : List UInt8 :=
  Bytes.frame Recall.historyFrameMagic (text.toVec sentHeader) jpeg

theorem writes_of {value : Json} (hsize : (text.toVec value).length ≤ value.renderedSize)
    (hread : text.fromSlice (text.toVec value) = some (value.mapFloats id)) : text.Writes value where
  size := hsize
  readBack := ⟨id, hread⟩

theorem length_sentHeader : (text.toVec sentHeader).length < 2 ^ 32 := by
  decide +kernel

theorem read_sentHeader : text.fromSlice (text.toVec sentHeader) = some sentHeader := by
  decide +kernel

theorem reads_keyframe (header : List UInt8) (fields : List (String × Json)) (image : List UInt8)
    (h : HistoryPayload text keyframe header fields image)
    : text.Reads header ∧ ∀ value, fenceHeader grants .default (.object fields) = some value
        → text.Writes value := by
  have hlen : header.length < 2 ^ 32 := by
    have := h.size
    unfold maxHistoryHeaderBytes at this
    omega
  have hheader := (Bytes.frame_inj (show Recall.historyFrameMagic.length = 4 from rfl)
    length_sentHeader hlen h.frame).1
  have hobject := h.object
  rw [← hheader, read_sentHeader, Option.some.injEq] at hobject
  constructor
  . intro value hvalue
    rw [← hheader, read_sentHeader, Option.mem_def, Option.some.injEq] at hvalue
    rw [← hvalue, ← hheader]
    decide +kernel
  . intro value hvalue
    have hfenced : fenceHeader grants .default sentHeader = some fencedHeader := by
      decide +kernel
    rw [← hobject, hfenced, Option.some.injEq] at hvalue
    rw [← hvalue]
    exact writes_of (by decide +kernel) (by decide +kernel)

end Example

-- A keyframe that the server can store.
theorem fence_codec_keyframe
    : (prepareBinaryIn Example.text
        (tagRecallBinary Example.text Example.keyframe (some Example.generation) .default)
        Example.grants).isSome = true := by
  have hcodec := fence_codec Example.text Example.grants Example.generation .default Example.keyframe
    _ (.recall .default) (Example.writes_of (by decide +kernel) (by decide +kernel))
    (Example.writes_of (by decide +kernel) (by decide +kernel)) Example.reads_keyframe
  rw [hcodec.1]
  refine ⟨by decide +kernel, by decide +kernel, fun _ => ?_⟩
  exact ⟨_, _, _, rfl, by decide +kernel, Example.read_sentHeader⟩

/--
The magic of a keyframe alone is dropped although its grant is the current one.
-/
theorem truncated_keyframe_dropped
    : Example.generation.matches Example.grants = true
      ∧ Example.generation.module = payloadModule Recall.historyFrameMagic
      ∧ prepareBinaryIn Example.text
          (tagBinary Example.text Recall.historyFrameMagic (some Example.generation)) Example.grants
        = none := by
  decide +kernel

end Permissions

end Vantyr
