import Vantyr.Server.Recall.Context

/-!
This module contains what the stored context of a keyframe depends on: not on the values of a component
whose grant is not the current one, and in one component not on the other. What is stored is clean, and
is stored again as it is.
-/

namespace Vantyr

namespace Recall

open RecallContext

/-!
Contexts that differ in one field.
-/

theorem isSome_get?_iff (key : String) (fields : List (String × Json))
    : (Fields.get? key fields).isSome = true ↔ ∃ field ∈ fields, field.1 = key := by
  induction fields with
  | nil => simp [Fields.get?_nil]
  | cons field rest ih =>
    rw [Fields.get?_cons]
    split
    . next heq => simp [heq]
    . next hne =>
      rw [ih]
      simp only [List.mem_cons, exists_eq_or_imp]
      constructor
      . intro h
        exact .inr h
      . intro h
        exact h.resolve_left (fun heq => hne heq)

theorem keysIn_iff (names : List String) (c : Json)
    : keysIn names c = true ↔ ∀ key, (c.get? key).isSome = true → key ∈ names := by
  cases c with
  | object fields =>
    simp only [keysIn, List.all_eq_true, List.contains_iff_mem, Json.get?, isSome_get?_iff]
    constructor
    . rintro h key ⟨field, hmem, rfl⟩
      exact h field hmem
    . intro h field hmem
      exact h field.1 ⟨field, hmem, rfl⟩
  | _ => simp [keysIn, Json.get?]

theorem keysIn_congr {names : List String} {c c' : Json} {part : String} (hpart : part ∈ names)
    (h : ∀ key ≠ part, c.get? key = c'.get? key) : keysIn names c = keysIn names c' := by
  rw [Bool.eq_iff_iff, keysIn_iff, keysIn_iff]
  apply forall_congr'
  intro key
  by_cases hkey : key = part
  . rw [hkey]
    simp [hpart]
  . rw [h key hkey]

-- Two headers whose contexts fit the limit and differ in one field at most.
structure DifferIn (floatSize : Nat → Nat) (part : String) (header header' c c' : Json) : Prop where
  rest : ∀ key ≠ "context", header.get? key = header'.get? key
  context : header.get? "context" = some c
  context' : header'.get? "context" = some c'
  isObject : c.isObject = true
  isObject' : c'.isObject = true
  fits : contextFits floatSize c = true
  fits' : contextFits floatSize c' = true
  others : ∀ key ≠ part, c.get? key = c'.get? key

theorem field_congr {c c' : Json} {key : String} (h : c.get? key = c'.get? key)
    : c.field key = c'.field key := by
  unfold Json.field
  rw [h]

section

variable {floatSize : Nat → Nat} {hosts : HostSyntax} {part : String} {header header' c c' : Json}

theorem DifferIn.validContext (h : DifferIn floatSize part header header' c c')
    (hpart : part = "window" ∨ part = "browser")
    : Recall.validContext floatSize c = Recall.validContext floatSize c' := by
  have hne : part ≠ "version" ∧ part ≠ "scope" ∧ part ≠ "bracket_ms" ∧ part ≠ "monitor_relation"
      ∧ part ∈ contextKeys := by
    rcases hpart with rfl | rfl <;> decide
  unfold Recall.validContext
  rw [h.isObject, h.isObject', h.fits, h.fits', field_congr (h.others "version" hne.1.symm),
    field_congr (h.others "scope" hne.2.1.symm), field_congr (h.others "bracket_ms" hne.2.2.1.symm),
    field_congr (h.others "monitor_relation" hne.2.2.2.1.symm), keysIn_congr hne.2.2.2.2 h.others]

theorem DifferIn.duration (h : DifferIn floatSize part header header' c c')
    : header.field "capture_duration_ms" = header'.field "capture_duration_ms" :=
  field_congr (h.rest _ (by decide))

theorem DifferIn.sanitizedContext (h : DifferIn floatSize part header header' c c')
    (hpart : part = "window" ∨ part = "browser") (window browser : Json)
    : Recall.sanitizedContext c window browser = Recall.sanitizedContext c' window browser := by
  have hne : part ≠ "bracket_ms" ∧ part ≠ "monitor_relation" := by
    rcases hpart with rfl | rfl <;> decide
  unfold Recall.sanitizedContext
  rw [field_congr (h.others "bracket_ms" hne.1.symm),
    field_congr (h.others "monitor_relation" hne.2.symm)]

variable {windowRevision browserRevision : Option UInt64}

theorem sanitize_eq (hcontext : header.get? "context" = some c)
    : sanitize floatSize hosts header windowRevision browserRevision
      = if Recall.validContext floatSize c then
          {
            context := some (Recall.sanitizedContext c (windowOf hosts c windowRevision)
              (browserOf hosts c browserRevision))
            durationMs := (header.field "capture_duration_ms").asU64.filter (· ≤ 1000)
            app := ((windowOf hosts c windowRevision).field "app").asStr.map Text.toAsciiLowercase
            title := ((windowOf hosts c windowRevision).field "title").asStr
            host := ((browserOf hosts c browserRevision).field "url_host").asStr
          }
        else
          {
            context := none
            durationMs := (header.field "capture_duration_ms").asU64.filter (· ≤ 1000)
            app := none
            title := none
            host := none
          } := by
  unfold sanitize
  rw [hcontext]
  by_cases hvalid : Recall.validContext floatSize c = true
  . simp [Option.filter, hvalid]
  . simp [Option.filter, hvalid]

theorem DifferIn.sanitize (h : DifferIn floatSize part header header' c c')
    (hpart : part = "window" ∨ part = "browser")
    (hwindow : windowOf hosts c windowRevision = windowOf hosts c' windowRevision)
    (hbrowser : browserOf hosts c browserRevision = browserOf hosts c' browserRevision)
    : Recall.sanitize floatSize hosts header windowRevision browserRevision
      = Recall.sanitize floatSize hosts header' windowRevision browserRevision := by
  rw [sanitize_eq h.context, sanitize_eq h.context', h.validContext hpart, h.duration, hwindow,
    hbrowser, h.sanitizedContext hpart]

theorem DifferIn.browserOf (h : DifferIn floatSize "window" header header' c c')
    : Recall.browserOf hosts c browserRevision = Recall.browserOf hosts c' browserRevision := by
  unfold Recall.browserOf
  rw [h.others "browser" (by decide), field_congr (h.others "grant_revisions" (by decide))]

theorem DifferIn.windowOf (h : DifferIn floatSize "browser" header header' c c')
    : Recall.windowOf hosts c windowRevision = Recall.windowOf hosts c' windowRevision := by
  unfold Recall.windowOf
  rw [h.others "window" (by decide), field_congr (h.others "grant_revisions" (by decide))]

end

/-!
What a stored context says.
-/

mutual

-- The fields of a value, with those of the values in it.
def allFields : Json → List (String × Json)
  | .object fields => fieldsIn fields
  | .array items => fieldsOfItems items
  | _ => []

def fieldsIn : List (String × Json) → List (String × Json)
  | [] => []
  | (key, value) :: fields => (key, value) :: (allFields value ++ fieldsIn fields)

def fieldsOfItems : List Json → List (String × Json)
  | [] => []
  | item :: items => allFields item ++ fieldsOfItems items

end

def ClearText (text : String) : Prop :=
  ∀ c ∈ text.toList, Text.isControl c = false

instance (text : String) : Decidable (ClearText text) :=
  decidable_of_iff (text.toList.all (fun c => !Text.isControl c) = true) (by simp [ClearText])

-- A field that may be stored, and has no fields in it.
structure ClearField (key : String) (value : Json) : Prop where
  name : key ≠ "grant_revisions"
  url : key = "url" → value = .null
  key : ClearText key
  text : ∀ text ∈ value.asStr, ClearText text
  list : value.asArray = none
  leaf : allFields value = []

theorem clear_null {key : String} (hname : key ≠ "grant_revisions") (hkey : ClearText key)
    : ClearField key .null :=
  ⟨hname, fun _ => rfl, hkey, by simp [Json.asStr], rfl, rfl⟩

theorem clear_string {key text : String} (hname : key ≠ "grant_revisions" ∧ key ≠ "url")
    (hkey : ClearText key) (htext : ClearText text) : ClearField key (.string text) := by
  refine ⟨hname.1, fun h => absurd h hname.2, hkey, ?_, rfl, rfl⟩
  intro t ht
  cases ht
  exact htext

theorem clear_stringOrNull {key : String} {text : Option String}
    (hname : key ≠ "grant_revisions" ∧ key ≠ "url") (hkey : ClearText key)
    (htext : ∀ t ∈ text, ClearText t) : ClearField key (stringOrNull text) := by
  cases text with
  | none => exact clear_null hname.1 hkey
  | some t => exact clear_string hname hkey (htext t rfl)

theorem clear_reason {reason : Json} (h : KeptReason reason) : ClearField "reason" reason := by
  rcases h with rfl | ⟨r, rfl⟩
  . exact clear_null (by decide) (by decide)
  . exact clear_string (by decide) (by decide) (by cases r <;> decide)

theorem clear_status (status : Status) : ClearField "status" (.string status.asStr) :=
  clear_string (by decide) (by decide) (by cases status <;> decide)

theorem clear_source (source : Source) : ClearField "source" (.string source.asStr) :=
  clear_string (by decide) (by decide) (by cases source <;> decide)

-- An object with such fields only.
def ClearObject (value : Json) : Prop :=
  ∃ fields, value = .object fields ∧ ∀ field ∈ fields, ClearField field.1 field.2

theorem fieldsIn_leaves {fields : List (String × Json)}
    (h : ∀ field ∈ fields, ClearField field.1 field.2) : fieldsIn fields = fields := by
  induction fields with
  | nil => rfl
  | cons field rest ih =>
    rw [List.forall_mem_cons] at h
    rw [fieldsIn, h.1.leaf, List.nil_append, ih h.2]

theorem ClearObject.allFields {value : Json} (h : ClearObject value)
    : ∀ field ∈ allFields value, ClearField field.1 field.2 := by
  rcases h with ⟨fields, rfl, hfields⟩
  rw [Recall.allFields, fieldsIn_leaves hfields]
  exact hfields

theorem clear_windowJson (status : Status) {reason : Json} (source : Source)
    {app title : Option String} (hreason : KeptReason reason) (happ : ∀ a ∈ app, ClearText a)
    (htitle : ∀ t ∈ title, ClearText t) : ClearObject (windowJson status reason source app title) := by
  have hfapp : ClearField "app" (stringOrNull app) :=
    clear_stringOrNull (by decide) (by decide) happ
  have hftitle : ClearField "title" (stringOrNull title) :=
    clear_stringOrNull (by decide) (by decide) htitle
  refine ⟨_, rfl, ?_⟩
  rw [List.forall_mem_cons, List.forall_mem_cons, List.forall_mem_cons, List.forall_mem_cons,
    List.forall_mem_singleton]
  exact ⟨hfapp, clear_reason hreason, clear_source source, clear_status status, hftitle⟩

theorem clear_browserJson (status : Status) {reason : Json} (source : Source)
    {host : Option String} (hreason : KeptReason reason) (hhost : ∀ h ∈ host, ClearText h)
    : ClearObject (browserJson status reason source host) := by
  have hfhost : ClearField "url_host" (stringOrNull host) :=
    clear_stringOrNull (by decide) (by decide) hhost
  refine ⟨_, rfl, ?_⟩
  rw [List.forall_mem_cons, List.forall_mem_cons, List.forall_mem_cons, List.forall_mem_cons,
    List.forall_mem_singleton]
  exact ⟨clear_reason hreason, clear_source source, clear_status status,
    clear_null (by decide) (by decide), hfhost⟩

theorem clear_keptWindow (source : Source) {app title : Option String} (truncated : Bool)
    (happ : ∀ a ∈ app, ClearText a) (htitle : ∀ t ∈ title, ClearText t)
    : ClearObject (keptWindow source app title truncated) := by
  rcases clear_windowJson .observed source (.inl rfl) happ htitle with ⟨fields, heq, hfields⟩
  unfold keptWindow
  rw [heq]
  cases truncated with
  | false => exact ⟨fields, rfl, hfields⟩
  | true =>
    refine ⟨_, rfl, ?_⟩
    intro field hmem
    rcases Fields.mem_insert hmem with rfl | hmem
    . exact ⟨by decide, fun h => absurd h (by decide), by decide, by simp [Json.asStr], rfl, rfl⟩
    . exact hfields field hmem

theorem clear_kept {hosts : HostSyntax} (hlaws : hosts.Regular) {browser : Bool}
    {current : Option UInt64} {v : Json} (h : Kept hosts browser current v) : ClearObject v := by
  cases h with
  | blank hstatus hreason hsource =>
    cases browser with
    | false => exact clear_windowJson _ _ hreason (by simp) (by simp)
    | true => exact clear_browserJson _ _ hreason (by simp)
  | window hsource hne happ htitle =>
    exact clear_keptWindow _ _ (fun a ha => (happ a ha).control) (fun t ht => (htitle t ht).control)
  | browser hsource hne hhost =>
    refine clear_browserJson _ _ (.inl rfl) (fun h hh => ?_)
    rcases hhost h hh with ⟨raw, hraw⟩
    exact fun c hc => ((plain_normalizeHost hlaws hraw).2 c hc).1

-- What makes a context valid says what is stored of its own fields.
structure StoredFields (c : Json) : Prop where
  bracket : ∃ n, c.field "bracket_ms" = .number (.posInt n) ∧ n ≤ maxBracketMs
  relation : ∃ relation ∈ monitorRelations, c.field "monitor_relation" = .string relation

theorem storedFields {floatSize : Nat → Nat} {c : Json} (h : validContext floatSize c = true)
    : StoredFields c := by
  unfold validContext at h
  simp only [Bool.and_eq_true, Option.any_eq_true, decide_eq_true_eq] at h
  rcases h with ⟨⟨⟨⟨⟨⟨_, _⟩, _⟩, _⟩, n, hn, hle⟩, relation, hrelation, hmem⟩, _⟩
  refine ⟨⟨n, ?_, hle⟩, ⟨relation, by simpa using hmem, ?_⟩⟩
  . cases hvalue : c.field "bracket_ms" with
    | number value =>
      rw [hvalue] at hn
      cases value with
      | posInt m =>
        cases hn
        rfl
      | _ => cases hn
    | _ =>
      rw [hvalue] at hn
      cases hn
  . cases hvalue : c.field "monitor_relation" with
    | string text =>
      rw [hvalue] at hrelation
      cases hrelation
      rfl
    | _ =>
      rw [hvalue] at hrelation
      cases hrelation

-- Nothing that must not be stored. There are no lists in a stored context.
structure Private (key : String) (value : Json) : Prop where
  name : key ≠ "grant_revisions"
  url : key = "url" → value = .null
  key : ClearText key
  text : ∀ text ∈ value.asStr, ClearText text
  list : value.asArray = none

theorem ClearField.isPrivate {key : String} {value : Json} (h : ClearField key value)
    : Private key value :=
  ⟨h.name, h.url, h.key, h.text, h.list⟩

theorem ClearObject.isPrivate {key : String} {value : Json} (h : ClearObject value)
    (hname : key ≠ "grant_revisions" ∧ key ≠ "url") (hkey : ClearText key) : Private key value := by
  rcases h with ⟨fields, rfl, _⟩
  exact ⟨hname.1, fun heq => absurd heq hname.2, hkey, by simp [Json.asStr], rfl⟩

/--
No grant revisions, no URL and no control character are stored.
-/
theorem private_sanitizedContext {c window browser : Json} (hc : StoredFields c)
    (hwindow : ClearObject window) (hbrowser : ClearObject browser)
    : ∀ field ∈ allFields (sanitizedContext c window browser), Private field.1 field.2 := by
  rcases hc.bracket with ⟨n, hbracket, _⟩
  rcases hc.relation with ⟨relation, hrelation, hfield⟩
  have hclear : ClearText relation := by
    have hall : ∀ relation ∈ monitorRelations, ClearText relation := by
      decide
    exact hall relation hrelation
  have hversion : allFields (Json.ofNat contextVersion) = [] := rfl
  intro field hmem
  unfold sanitizedContext at hmem
  rw [hbracket, hfield] at hmem
  simp only [allFields, fieldsIn, hversion, List.nil_append, List.append_nil, List.mem_cons,
    List.mem_append] at hmem
  rcases hmem with rfl | rfl | hmem | rfl | rfl | rfl | rfl | hmem
  . exact ⟨by simp, by simp, show ClearText "bracket_ms" by decide, by simp [Json.asStr], rfl⟩
  . exact hbrowser.isPrivate (by simp) (show ClearText "browser" by decide)
  . exact (hbrowser.allFields field hmem).isPrivate
  . exact (clear_string (by simp) (show ClearText "monitor_relation" by decide) hclear).isPrivate
  . exact (clear_string (by simp) (by decide) (by decide)).isPrivate
  . exact ⟨by simp, by simp, by decide, by simp [Json.ofNat, Json.asStr], rfl⟩
  . exact hwindow.isPrivate (by simp) (show ClearText "window" by decide)
  . exact (hwindow.allFields field hmem).isPrivate

/-!
A stored context that is sanitized again.
-/

def revisionJson : Option UInt64 → Json
  | none => .null
  | some revision => .ofNat revision.toNat

-- The context with the current revisions put back into it.
def withRevisions (context : Json) (windowRevision browserRevision : Option UInt64) : Json :=
  context.setField "grant_revisions" (.object [
    ("browser_urls", revisionJson browserRevision),
    ("window_activity", revisionJson windowRevision)
  ])

theorem asU64_revisionJson (revision : Option UInt64)
    : (revisionJson revision).asU64 = revision.map UInt64.toNat := by
  cases revision with
  | none => rfl
  | some r => rfl

theorem withRevisions_eq (c window browser : Json) (windowRevision browserRevision : Option UInt64)
    : withRevisions (sanitizedContext c window browser) windowRevision browserRevision
      = .object [
        ("bracket_ms", c.field "bracket_ms"),
        ("browser", browser),
        ("grant_revisions", .object [
          ("browser_urls", revisionJson browserRevision),
          ("window_activity", revisionJson windowRevision)
        ]),
        ("monitor_relation", c.field "monitor_relation"),
        ("scope", .string contextScope),
        ("version", .ofNat contextVersion),
        ("window", window)
      ] := by
  rfl

section Sizes

variable {floatSize : Nat → Nat}

theorem escapedSize_le {c : Char} (h : Text.isControl c = false)
    : Json.escapedSize c ≤ 2 * c.utf8Size := by
  have hpos := c.utf8Size_pos
  have hge : ¬ c.toNat < 0x20 := by
    unfold Text.isControl at h
    simp only [Bool.or_eq_false_iff, decide_eq_false_iff_not] at h
    exact h.1
  unfold Json.escapedSize
  simp only [hge, if_false]
  split <;> omega

theorem quotedSize_le {text : String} (h : ClearText text)
    : Json.quotedSize text ≤ 2 * text.utf8ByteSize + 2 := by
  have hlist : ∀ cs : List Char, (∀ c ∈ cs, Text.isControl c = false)
      → (cs.map Json.escapedSize).sum ≤ 2 * String.utf8Len cs := by
    intro cs hcs
    induction cs with
    | nil => exact Nat.le_refl _
    | cons c cs ih =>
      rw [List.forall_mem_cons] at hcs
      have hhead := escapedSize_le hcs.1
      have htail := ih hcs.2
      simp only [List.map_cons, List.sum_cons, String.utf8Len_cons]
      omega
  have hsize := String.utf8ByteSize_ofList text.toList
  rw [String.ofList_toList] at hsize
  have := hlist text.toList h
  unfold Json.quotedSize
  omega

theorem size_revisionJson (revision : Option UInt64)
    : (revisionJson revision).compactSize floatSize ≤ 20 := by
  cases revision with
  | none =>
    simp [revisionJson, Json.compactSize]
  | some r =>
    have hlt := r.toNat_lt
    simp only [revisionJson, Json.ofNat, Json.compactSize, Json.numberSize]
    rw [Nat.length_toDigits_le_iff (by decide) (by decide)]
    omega

theorem length_stringOrNull {text : Option String} {max : Nat}
    (h : ∀ t ∈ text, ClearText t ∧ t.utf8ByteSize ≤ max)
    : (stringOrNull text).compactSize floatSize ≤ 2 * max + 4 := by
  cases text with
  | none =>
    have : (stringOrNull none).compactSize floatSize = 4 := by
      simp [stringOrNull, Json.compactSize]
    omega
  | some t =>
    have hquoted := quotedSize_le (h t rfl).1
    have hmax := (h t rfl).2
    have heq : (stringOrNull (some t)).compactSize floatSize = Json.quotedSize t := by
      rw [stringOrNull, Option.elim_some, Json.compactSize]
    omega

theorem size_reason {reason : Json} (h : KeptReason reason)
    : reason.compactSize floatSize ≤ 25 := by
  rcases h with rfl | ⟨r, rfl⟩
  . simp [Json.compactSize]
  . simp only [Json.compactSize]
    cases r <;> decide

theorem size_keptWindow (status : Status) {reason : Json} (source : Source)
    {app title : Option String} (hreason : KeptReason reason)
    (happ : ∀ a ∈ app, ClearText a ∧ a.utf8ByteSize ≤ maxAppBytes)
    (htitle : ∀ t ∈ title, ClearText t ∧ t.utf8ByteSize ≤ maxTitleBytes)
    : (windowJson status reason source app title).compactSize floatSize ≤ 2750
      ∧ ((windowJson status reason source app title).setField "title_truncated"
        (.bool true)).compactSize floatSize ≤ 2750 := by
  have happ : (stringOrNull app).compactSize floatSize ≤ 2 * maxAppBytes + 4 :=
    length_stringOrNull happ
  have htitle : (stringOrNull title).compactSize floatSize ≤ 2 * maxTitleBytes + 4 :=
    length_stringOrNull htitle
  have hreason : reason.compactSize floatSize ≤ 25 := size_reason hreason
  have hstatus : Json.quotedSize status.asStr ≤ 15 := by
    cases status <;> decide
  have hsource : Json.quotedSize source.asStr ≤ 10 := by
    cases source <;> decide
  have hkeys : Json.quotedSize "app" = 5 ∧ Json.quotedSize "reason" = 8 ∧ Json.quotedSize "source" = 8
      ∧ Json.quotedSize "status" = 8 ∧ Json.quotedSize "title" = 7
      ∧ Json.quotedSize "title_truncated" = 17 := by
    decide
  have hlong : (windowJson status reason source app title).setField "title_truncated" (.bool true)
      = .object [
        ("app", stringOrNull app),
        ("reason", reason),
        ("source", .string source.asStr),
        ("status", .string status.asStr),
        ("title", stringOrNull title),
        ("title_truncated", .bool true)
      ] := by
    rfl
  rw [hlong]
  unfold windowJson maxAppBytes maxTitleBytes at *
  simp only [Json.compactSize, Json.compactFields, hkeys, if_true]
  omega

theorem size_browserJson (status : Status) {reason : Json} (source : Source)
    {host : Option String} (hreason : KeptReason reason)
    (hhost : ∀ h ∈ host, ClearText h ∧ h.utf8ByteSize ≤ 253)
    : (browserJson status reason source host).compactSize floatSize ≤ 650 := by
  have hhost : (stringOrNull host).compactSize floatSize ≤ 2 * 253 + 4 :=
    length_stringOrNull hhost
  have hreason : reason.compactSize floatSize ≤ 25 := size_reason hreason
  have hstatus : Json.quotedSize status.asStr ≤ 15 := by
    cases status <;> decide
  have hsource : Json.quotedSize source.asStr ≤ 10 := by
    cases source <;> decide
  have hkeys : Json.quotedSize "reason" = 8 ∧ Json.quotedSize "source" = 8
      ∧ Json.quotedSize "status" = 8 ∧ Json.quotedSize "url" = 5 ∧ Json.quotedSize "url_host" = 10 := by
    decide
  unfold browserJson
  simp only [Json.compactSize, Json.compactFields, hkeys]
  omega

theorem size_kept {hosts : HostSyntax} (hlaws : hosts.Regular) {browser : Bool}
    {current : Option UInt64} {v : Json} (h : Kept hosts browser current v)
    : v.compactSize floatSize ≤ if browser then 650 else 2750 := by
  cases h with
  | blank hstatus hreason hsource =>
    cases browser with
    | false => exact (size_keptWindow _ _ hreason (by simp) (by simp)).1
    | true => exact size_browserJson _ _ hreason (by simp)
  | @window revision source app title truncated hsource hne happ htitle =>
    have happ : ∀ a ∈ app, ClearText a ∧ a.utf8ByteSize ≤ maxAppBytes :=
      fun a ha => ⟨(happ a ha).control, (happ a ha).size⟩
    have htitle : ∀ t ∈ title, ClearText t ∧ t.utf8ByteSize ≤ maxTitleBytes :=
      fun t ht => ⟨(htitle t ht).control, (htitle t ht).size⟩
    cases truncated with
    | false => exact (size_keptWindow _ _ (.inl rfl) happ htitle).1
    | true => exact (size_keptWindow _ _ (.inl rfl) happ htitle).2
  | browser hsource hne hhost =>
    refine size_browserJson _ _ (.inl rfl) (fun h hh => ?_)
    rcases hhost h hh with ⟨raw, hraw⟩
    have hplain := plain_normalizeHost hlaws hraw
    exact ⟨fun c hc => (hplain.2 c hc).1, hplain.1⟩

-- There is room for the revisions.
theorem fits_withRevisions {c window browser : Json} (hc : StoredFields c)
    (hwindow : window.compactSize floatSize ≤ 2750) (hbrowser : browser.compactSize floatSize ≤ 650)
    (windowRevision browserRevision : Option UInt64)
    : contextFits floatSize (withRevisions (sanitizedContext c window browser) windowRevision
      browserRevision) = true := by
  rcases hc.bracket with ⟨n, hbracket, hn⟩
  rcases hc.relation with ⟨relation, hrelation, hfield⟩
  have hrevision : (revisionJson windowRevision).compactSize floatSize ≤ 20 :=
    size_revisionJson windowRevision
  have hrevision' : (revisionJson browserRevision).compactSize floatSize ≤ 20 :=
    size_revisionJson browserRevision
  have hlength : (Nat.toDigits 10 n).length ≤ 4 := by
    rw [Nat.length_toDigits_le_iff (by decide) (by decide)]
    unfold maxBracketMs at hn
    omega
  have hrelations : ∀ relation ∈ monitorRelations, Json.quotedSize relation ≤ 9 := by
    decide
  have hquoted := hrelations relation hrelation
  have hkeys : Json.quotedSize "bracket_ms" = 12 ∧ Json.quotedSize "browser" = 9
      ∧ Json.quotedSize "grant_revisions" = 17 ∧ Json.quotedSize "browser_urls" = 14
      ∧ Json.quotedSize "window_activity" = 17 ∧ Json.quotedSize "monitor_relation" = 18
      ∧ Json.quotedSize "scope" = 7 ∧ Json.quotedSize "version" = 9 ∧ Json.quotedSize "window" = 8
      ∧ Json.quotedSize contextScope = 20 ∧ (Nat.toDigits 10 contextVersion).length = 1 := by
    decide
  unfold contextFits
  rw [withRevisions_eq, hbracket, hfield, decide_eq_true_eq]
  simp only [Json.compactSize, Json.compactFields, Json.ofNat, Json.numberSize, hkeys]
  unfold maxContextBytes
  omega

end Sizes

-- The header that has such a context.
def headerOf (context : Json) : Json :=
  .object [("context", context)]

theorem validContext_withRevisions {floatSize : Nat → Nat} {c window browser : Json}
    (hc : StoredFields c) (windowRevision browserRevision : Option UInt64)
    (hfits : contextFits floatSize (withRevisions (sanitizedContext c window browser) windowRevision
      browserRevision) = true)
    : validContext floatSize (withRevisions (sanitizedContext c window browser) windowRevision
      browserRevision) = true := by
  rcases hc.bracket with ⟨n, hbracket, hn⟩
  rcases hc.relation with ⟨relation, hrelation, hfield⟩
  unfold validContext
  rw [hfits]
  rw [withRevisions_eq, hbracket, hfield]
  change (true && true && decide (some contextVersion = some contextVersion)
    && decide (some contextScope = some contextScope) && (some n).any (· ≤ maxBracketMs)
    && (some relation).any monitorRelations.contains && true) = true
  simp [hn]
  simpa using hrelation

/-!
The two components.
-/

def partName (browser : Bool) : String :=
  if browser then "browser" else "window"

def valueKeys (browser : Bool) : List String :=
  if browser then ["url_host"] else ["app", "title", "title_truncated"]

def sentRevision (c : Json) (browser : Bool) : Option Nat :=
  ((c.field "grant_revisions").field (if browser then "browser_urls" else "window_activity")).asU64

-- Well-formed observed components that differ in their values only.
structure SameButValues (browser : Bool) (v v' : Json) : Prop where
  isObject : v.isObject = true
  isObject' : v'.isObject = true
  observed : ∃ source, checkComponent v browser = some (.observed, source)
  observed' : ∃ source, checkComponent v' browser = some (.observed, source)
  others : ∀ key, key ∉ valueKeys browser → v.get? key = v'.get? key

section

variable {floatSize : Nat → Nat} {hosts : HostSyntax} {header header' c c' : Json}
  {windowRevision browserRevision : Option UInt64}

theorem sanitize_revoked {browser : Bool} {v v' : Json}
    (h : DifferIn floatSize (partName browser) header header' c c')
    (hv : c.get? (partName browser) = some v) (hv' : c'.get? (partName browser) = some v')
    (hsame : SameButValues browser v v')
    (hrevision : ∀ r, sentRevision c browser = some r
      → (if browser then browserRevision else windowRevision).map UInt64.toNat ≠ some r)
    : sanitize floatSize hosts header windowRevision browserRevision
      = sanitize floatSize hosts header' windowRevision browserRevision := by
  rcases hsame.observed with ⟨source, hcheck⟩
  rcases hsame.observed' with ⟨source', hcheck'⟩
  cases browser with
  | false =>
    have hrevision : ∀ r, sentRevision c false = some r
        → windowRevision.map UInt64.toNat ≠ some r :=
      hrevision
    have hsent : sentRevision c false = sentRevision c' false := by
      unfold sentRevision
      rw [field_congr (h.others "grant_revisions" (by decide))]
    refine h.sanitize (.inl rfl) ?_ h.browserOf
    change component hosts (c.get? (partName false)) false (sentRevision c false) _
      = component hosts (c'.get? (partName false)) false (sentRevision c' false) _
    rw [hv, hv', component_revoked hsame.isObject hcheck hrevision,
      component_revoked hsame.isObject' hcheck' (hsent ▸ hrevision)]
  | true =>
    have hrevision : ∀ r, sentRevision c true = some r
        → browserRevision.map UInt64.toNat ≠ some r :=
      hrevision
    have hsent : sentRevision c true = sentRevision c' true := by
      unfold sentRevision
      rw [field_congr (h.others "grant_revisions" (by decide))]
    refine h.sanitize (.inr rfl) h.windowOf ?_
    change component hosts (c.get? (partName true)) true (sentRevision c true) _
      = component hosts (c'.get? (partName true)) true (sentRevision c' true) _
    rw [hv, hv', component_revoked hsame.isObject hcheck hrevision,
      component_revoked hsame.isObject' hcheck' (hsent ▸ hrevision)]

theorem sanitize_context {stored : Json}
    (h : (sanitize floatSize hosts header windowRevision browserRevision).context = some stored)
    : ∃ c, header.get? "context" = some c ∧ validContext floatSize c = true
      ∧ stored = sanitizedContext c (windowOf hosts c windowRevision)
        (browserOf hosts c browserRevision) := by
  cases hcontext : header.get? "context" with
  | none =>
    unfold sanitize at h
    rw [hcontext] at h
    cases h
  | some c =>
    rw [sanitize_eq hcontext] at h
    split at h
    . next hvalid => exact ⟨c, rfl, hvalid, (Option.some.inj h).symm⟩
    . cases h

theorem sanitize_again (hlaws : hosts.Regular) {stored : Json}
    (h : (sanitize floatSize hosts header windowRevision browserRevision).context = some stored)
    : let again := sanitize floatSize hosts
        (headerOf (withRevisions stored windowRevision browserRevision)) windowRevision browserRevision
      let first := sanitize floatSize hosts header windowRevision browserRevision
      again.app = first.app ∧ again.title = first.title ∧ again.host = first.host := by
  rcases sanitize_context h with ⟨c, hcontext, hvalid, rfl⟩
  have hc := storedFields hvalid
  have hwindow : Kept hosts false windowRevision (windowOf hosts c windowRevision) :=
    component_kept hosts _ _ _ _
  have hbrowser : Kept hosts true browserRevision (browserOf hosts c browserRevision) :=
    component_kept hosts _ _ _ _
  have hfits : contextFits floatSize _ = true := fits_withRevisions hc (size_kept hlaws hwindow)
    (size_kept hlaws hbrowser) windowRevision browserRevision
  have hwindow' : windowOf hosts (withRevisions (sanitizedContext c (windowOf hosts c windowRevision)
      (browserOf hosts c browserRevision)) windowRevision browserRevision) windowRevision
      = windowOf hosts c windowRevision := by
    have hagain := component_again hlaws hwindow
    rw [← asU64_revisionJson] at hagain
    rw [withRevisions_eq]
    exact hagain
  have hbrowser' : browserOf hosts (withRevisions (sanitizedContext c (windowOf hosts c windowRevision)
      (browserOf hosts c browserRevision)) windowRevision browserRevision) browserRevision
      = browserOf hosts c browserRevision := by
    have hagain := component_again hlaws hbrowser
    rw [← asU64_revisionJson] at hagain
    rw [withRevisions_eq]
    exact hagain
  intro again first
  have hagain : again = _ := sanitize_eq (c := withRevisions (sanitizedContext c
    (windowOf hosts c windowRevision) (browserOf hosts c browserRevision)) windowRevision
    browserRevision) rfl
  have hfirst : first = _ := sanitize_eq hcontext
  rw [if_pos (validContext_withRevisions hc windowRevision browserRevision hfits), hwindow',
    hbrowser'] at hagain
  rw [if_pos hvalid] at hfirst
  rw [hagain, hfirst]
  exact ⟨rfl, rfl, rfl⟩

theorem separator_kept {v : Json} {browser : Bool} {current : Option UInt64}
    (h : Kept hosts browser current v) (hbrowser : browser = false) {app : String}
    (happ : (v.field "app").asStr = some app) : ∀ ch ∈ app.toList, ch ≠ '/' ∧ ch ≠ '\\' := by
  cases h with
  | blank hstatus hreason hsource =>
    rw [hbrowser] at happ
    cases happ
  | window hsource hne hclean htitle =>
    rw [(field_keptWindow _ _ _ _).2.1, asStr_stringOrNull] at happ
    exact (hclean app happ).separator
  | browser hsource hne hhost => cases hbrowser

end

/--
The values of a component whose grant is not the current one do not matter, nor does one component for
the other. What is stored has no grant revisions, no URL, no control character and no path, and is stored
again as it is.
-/
theorem context_noninterference {floatSize : Nat → Nat} {hosts : HostSyntax} (hlaws : hosts.Regular)
    (windowRevision browserRevision : Option UInt64)
    : (∀ browser header header' c c' v v',
        DifferIn floatSize (partName browser) header header' c c' →
        c.get? (partName browser) = some v → c'.get? (partName browser) = some v' →
        SameButValues browser v v' →
        (∀ r, sentRevision c browser = some r →
          (if browser then browserRevision else windowRevision).map UInt64.toNat ≠ some r) →
        sanitize floatSize hosts header windowRevision browserRevision
          = sanitize floatSize hosts header' windowRevision browserRevision)
      ∧ (∀ header header' c c', DifferIn floatSize "window" header header' c c' →
        let stored := sanitize floatSize hosts header windowRevision browserRevision
        let stored' := sanitize floatSize hosts header' windowRevision browserRevision
        stored.context.map (fun context => context.field "browser")
          = stored'.context.map (fun context => context.field "browser")
          ∧ stored.host = stored'.host)
      ∧ (∀ header header' c c', DifferIn floatSize "browser" header header' c c' →
        let stored := sanitize floatSize hosts header windowRevision browserRevision
        let stored' := sanitize floatSize hosts header' windowRevision browserRevision
        stored.context.map (fun context => context.field "window")
          = stored'.context.map (fun context => context.field "window")
          ∧ stored.app = stored'.app ∧ stored.title = stored'.title)
      ∧ ∀ header stored,
        (sanitize floatSize hosts header windowRevision browserRevision).context = some stored →
        (∀ field ∈ allFields stored, Private field.1 field.2)
          ∧ (∀ app, ((stored.field "window").field "app").asStr = some app →
            ∀ ch ∈ app.toList, ch ≠ '/' ∧ ch ≠ '\\')
          ∧ let again := sanitize floatSize hosts
              (headerOf (withRevisions stored windowRevision browserRevision)) windowRevision
              browserRevision
            let first := sanitize floatSize hosts header windowRevision browserRevision
            again.app = first.app ∧ again.title = first.title ∧ again.host = first.host := by
  refine ⟨?_, ?_, ?_, ?_⟩
  . intro browser header header' c c' v v' h hv hv' hsame hrevision
    exact sanitize_revoked h hv hv' hsame hrevision
  . intro header header' c c' h stored stored'
    have hstored : stored = _ := sanitize_eq h.context
    have hstored' : stored' = _ := sanitize_eq h.context'
    rw [h.validContext (.inl rfl), h.browserOf] at hstored
    rw [hstored, hstored']
    split
    . exact ⟨rfl, rfl⟩
    . exact ⟨rfl, rfl⟩
  . intro header header' c c' h stored stored'
    have hstored : stored = _ := sanitize_eq h.context
    have hstored' : stored' = _ := sanitize_eq h.context'
    rw [h.validContext (.inr rfl), h.windowOf] at hstored
    rw [hstored, hstored']
    split
    . exact ⟨rfl, rfl, rfl⟩
    . exact ⟨rfl, rfl, rfl⟩
  . intro header stored h
    rcases sanitize_context h with ⟨c, _, hvalid, heq⟩
    have hwindow : Kept hosts false windowRevision (windowOf hosts c windowRevision) :=
      component_kept hosts _ _ _ _
    have hbrowser : Kept hosts true browserRevision (browserOf hosts c browserRevision) :=
      component_kept hosts _ _ _ _
    refine ⟨?_, ?_, sanitize_again hlaws h⟩
    . rw [heq]
      exact private_sanitizedContext (storedFields hvalid) (clear_kept hlaws hwindow)
        (clear_kept hlaws hbrowser)
    . intro app happ
      rw [heq] at happ
      exact separator_kept hwindow rfl happ

namespace Example

-- Names without anything but ASCII letters, which are domains.
def plainHosts : HostSyntax where
  parseIp := fun _ => none
  domainToAscii := fun raw => some (Text.toAsciiLowercase raw)
  urlHost := some

theorem regular_plainHosts : plainHosts.Regular where
  reread := fun _ _ h => by cases h
  nonempty := fun _ _ h => by cases h
  size := fun _ _ h => by cases h
  characters := fun _ _ h => by cases h
  last := fun _ _ h => by cases h
  v4 := fun _ _ h => by cases h
  ascii := by
    intro raw ascii h _
    cases h
    simp [plainHosts, Text.toAsciiLowercase_idem]
  url := by
    intro raw ascii host _ _ h
    cases h
    exact .inl rfl

def windowTitled (title : String) : Json :=
  .object [
    ("app", .string "mail"),
    ("reason", .null),
    ("source", .string "win32"),
    ("status", .string "observed"),
    ("title", .string title)
  ]

def contextTitled (title : String) : Json :=
  .object [
    ("bracket_ms", .ofNat 5),
    ("grant_revisions", .object [("window_activity", .ofNat 2)]),
    ("monitor_relation", .string "same"),
    ("scope", .string "session_foreground"),
    ("version", .ofNat 1),
    ("window", windowTitled title)
  ]

end Example

theorem get?_cons_congr {key k : String} {v : Json} {rest rest' : List (String × Json)}
    (h : Fields.get? key rest = Fields.get? key rest')
    : Fields.get? key ((k, v) :: rest) = Fields.get? key ((k, v) :: rest') := by
  rw [Fields.get?_cons, Fields.get?_cons, h]

theorem get?_last_of_ne {key k : String} (h : key ≠ k) (v v' : Json)
    : Fields.get? key [(k, v)] = Fields.get? key [(k, v')] := by
  rw [Fields.get?_cons, Fields.get?_cons, if_neg h.symm, if_neg h.symm]

theorem context_noninterference_revoked
    : sanitize (fun _ => 24) Example.plainHosts (headerOf (Example.contextTitled "Inbox")) (some 3) none
      = sanitize (fun _ => 24) Example.plainHosts (headerOf (Example.contextTitled "Draft")) (some 3) none := by
  have hothers : ∀ key ≠ "window",
      (Example.contextTitled "Inbox").get? key = (Example.contextTitled "Draft").get? key := by
    intro key hkey
    exact get?_cons_congr (get?_cons_congr (get?_cons_congr (get?_cons_congr (get?_cons_congr
      (get?_last_of_ne hkey _ _)))))
  have hvalues : ∀ key, key ∉ valueKeys false
      → (Example.windowTitled "Inbox").get? key = (Example.windowTitled "Draft").get? key := by
    intro key hkey
    have hne : key ≠ "title" := by
      rintro rfl
      exact hkey (by decide)
    exact get?_cons_congr (get?_cons_congr (get?_cons_congr (get?_cons_congr
      (get?_last_of_ne hne _ _))))
  have hdiffer : DifferIn (fun _ => 24) "window" (headerOf (Example.contextTitled "Inbox"))
      (headerOf (Example.contextTitled "Draft")) (Example.contextTitled "Inbox") (Example.contextTitled "Draft") := by
    refine ⟨?_, rfl, rfl, rfl, rfl, by decide +kernel, by decide +kernel, hothers⟩
    intro key hkey
    exact get?_last_of_ne hkey _ _
  have hsame : SameButValues false (Example.windowTitled "Inbox") (Example.windowTitled "Draft") :=
    ⟨rfl, rfl, ⟨.win32, by decide +kernel⟩, ⟨.win32, by decide +kernel⟩, hvalues⟩
  refine (context_noninterference Example.regular_plainHosts (some 3) none).1 false _ _ _ _ _ _ hdiffer
    rfl rfl hsame ?_
  intro r hr
  cases hr
  decide

end Recall

end Vantyr
