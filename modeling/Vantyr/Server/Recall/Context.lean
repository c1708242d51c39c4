import Vantyr.Data.JsonText
import Vantyr.Protocol.RecallContext
import Vantyr.Server.Recall.Filters

/-!
This module contains what the server keeps of the foreground context in the header of a keyframe
(`server/src/recall/context.rs`). Each of its two components is checked on its own, and its values
are kept only under the grant that the server knows as the current one.
-/

namespace Vantyr

namespace Recall

open RecallContext

structure Metadata where
  context : Option Json
  durationMs : Option Nat
  app : Option String
  title : Option String
  host : Option String
  deriving DecidableEq, Repr

/-!
The components as they are kept.
-/

def windowJson (status : Status) (reason : Json) (source : Source) (app title : Option String) : Json :=
  .object [
    ("app", stringOrNull app),
    ("reason", reason),
    ("source", .string source.asStr),
    ("status", .string status.asStr),
    ("title", stringOrNull title)
  ]

def browserJson (status : Status) (reason : Json) (source : Source) (host : Option String) : Json :=
  .object [
    ("reason", reason),
    ("source", .string source.asStr),
    ("status", .string status.asStr),
    ("url", .null),
    ("url_host", stringOrNull host)
  ]

-- A component without values.
def blank (browser : Bool) (status : Status) (reason : Json) (source : Source) : Json :=
  if browser then browserJson status reason source none else windowJson status reason source none none

def empty (reason : Reason) (status : Status) (browser : Bool) : Json :=
  blank browser status (.string reason.asStr) .none

def componentKeys (browser : Bool) : List String :=
  if browser then
    ["status", "reason", "source", "url", "url_host"]
  else
    ["status", "reason", "source", "app", "title", "title_truncated"]

def keysIn (names : List String) : Json → Bool
  | .object fields => fields.all (fun field => names.contains field.1)
  | _ => true

-- A field that is missing, `null` or a string.
def scalar (c : Json) (key : String) : Bool :=
  (c.get? key).all (fun value => value.isNull || value.asStr.isSome)

def validReason (c : Json) : Bool :=
  (c.get? "reason").any Json.isNull
    || (c.field "reason").asStr.any (fun reason => (Reason.fromWire reason).isSome)

def validValues (c : Json) (browser : Bool) : Bool :=
  if browser then
    (c.get? "url").all Json.isNull && scalar c "url_host"
  else
    scalar c "app"
      && scalar c "title"
      && (c.get? "title_truncated").all (fun value => value.asBool.isSome)

def isSourceOf (browser : Bool) (source : Source) : Bool :=
  if browser then source.isBrowserSource else source.isWindowSource

-- The status and the source of a component that is well formed.
def checkComponent (c : Json) (browser : Bool) : Option (Status × Source) :=
  match (c.field "status").asStr.bind Status.fromWire,
      ((c.field "source").asStr.bind Source.fromWire).filter (isSourceOf browser) with
  | some status, some source =>
    if keysIn (componentKeys browser) c
        && validReason c
        && validValues c browser
        && !(status = .observed && (source = .none || (c.field "reason").asStr.isSome)) then
      some (status, source)
    else
      none
  | _, _ => none

def hasValues (c : Json) (browser : Bool) : Bool :=
  if browser then
    !(c.field "url_host").isNull
  else
    !(c.field "app").isNull || !(c.field "title").isNull

def keptApp (c : Json) : Option String :=
  ((c.field "app").asStr.map (fun app => boundedClean app maxAppBytes)).bind (fun (app, long) =>
    if !long && app ≠ "" && !app.toList.any (fun ch => ch = '/' || ch = '\\') then some app else none)

def keptTitle (c : Json) : Option String :=
  ((c.field "title").asStr.map (fun title => (boundedClean title maxTitleBytes).1)).filter (· ≠ "")

def keptTruncated (c : Json) : Bool :=
  (c.field "title_truncated").asBool.getD false
    || (c.field "title").asStr.any (fun title => (boundedClean title maxTitleBytes).2)

def observedWindow (c : Json) (source : Source) : Json :=
  let out := windowJson .observed .null source (keptApp c) (keptTitle c)
  if keptTruncated c then out.setField "title_truncated" (.bool true) else out

def observedBrowser (hosts : HostSyntax) (c : Json) (source : Source) : Json :=
  match (c.field "url_host").asStr.map (normalizeHost hosts) with
  | none => browserJson .observed .null source none
  | some (.ok host) => browserJson .observed .null source (some host)
  | some (.error _) => empty .invalidUrl .unknown true

def component (hosts : HostSyntax) (raw : Option Json) (browser : Bool)
    (revision : Option Nat) (current : Option UInt64) : Json :=
  match raw.filter Json.isObject with
  | none => empty .invalidContext .unknown browser
  | some c =>
    match checkComponent c browser with
    | none => empty .invalidContext .unknown browser
    | some (status, source) =>
      if status ≠ .observed then
        if hasValues c browser then
          empty .invalidContext .unknown browser
        else
          blank browser status (c.field "reason") source
      else if revision.isNone ∨ revision ≠ current.map UInt64.toNat then
        empty .revoked .notCollected browser
      else if browser then
        observedBrowser hosts c source
      else
        observedWindow c source

def contextFits (floatSize : Nat → Nat) (value : Json) : Bool :=
  value.compactSize floatSize ≤ maxContextBytes

def contextKeys : List String :=
  ["version", "scope", "bracket_ms", "monitor_relation", "window", "browser", "grant_revisions"]

def validContext (floatSize : Nat → Nat) (c : Json) : Bool :=
  c.isObject
    && contextFits floatSize c
    && (c.field "version").asU64 = some contextVersion
    && (c.field "scope").asStr = some contextScope
    && (c.field "bracket_ms").asU64.any (· ≤ maxBracketMs)
    && (c.field "monitor_relation").asStr.any monitorRelations.contains
    && keysIn contextKeys c

def windowOf (hosts : HostSyntax) (c : Json) (windowRevision : Option UInt64) : Json :=
  component hosts (c.get? "window") false
    ((c.field "grant_revisions").field "window_activity").asU64 windowRevision

def browserOf (hosts : HostSyntax) (c : Json) (browserRevision : Option UInt64) : Json :=
  component hosts (c.get? "browser") true
    ((c.field "grant_revisions").field "browser_urls").asU64 browserRevision

def sanitizedContext (c window browser : Json) : Json :=
  .object [
    ("bracket_ms", c.field "bracket_ms"),
    ("browser", browser),
    ("monitor_relation", c.field "monitor_relation"),
    ("scope", .string contextScope),
    ("version", .ofNat contextVersion),
    ("window", window)
  ]

def sanitize (floatSize : Nat → Nat) (hosts : HostSyntax) (header : Json)
    (windowRevision browserRevision : Option UInt64) : Metadata :=
  let durationMs := (header.field "capture_duration_ms").asU64.filter (· ≤ 1000)
  match (header.get? "context").filter (validContext floatSize) with
  | none => { context := none, durationMs, app := none, title := none, host := none }
  | some c =>
    let window := windowOf hosts c windowRevision
    let browser := browserOf hosts c browserRevision
    {
      context := some (sanitizedContext c window browser)
      durationMs
      app := (window.field "app").asStr.map Text.toAsciiLowercase
      title := (window.field "title").asStr
      host := (browser.field "url_host").asStr
    }

/-!
Hosts. Normalizing a host again does not change it.
-/

def isIpCharacter (c : Char) : Bool :=
  Text.isAsciiAlphanumeric c || c = '.' || c = ':'

/--
What the standard library and the crates `idna` and `url` document: an address is printed in a form of
its own, from which it is read back; an IPv4 address has no other form; a domain that was converted is
not changed by another conversion, nor by a URL, unless it is an IPv4 address in one of the forms that
only URLs have.
-/
structure HostSyntax.Regular (hosts : HostSyntax) : Prop where
  reread : ∀ raw ip, hosts.parseIp raw = some ip → hosts.parseIp ip = some ip
  nonempty : ∀ raw ip, hosts.parseIp raw = some ip → ip ≠ ""
  size : ∀ raw ip, hosts.parseIp raw = some ip → ip.utf8ByteSize ≤ 45
  characters : ∀ raw ip, hosts.parseIp raw = some ip → ∀ c ∈ ip.toList, isIpCharacter c = true
  last : ∀ raw ip, hosts.parseIp raw = some ip → ip.toList.getLast? ≠ some '.'
  v4 : ∀ raw ip, hosts.parseIp raw = some ip → ':' ∉ raw.toList → ip = raw
  ascii : ∀ raw ascii, hosts.domainToAscii raw = some ascii
    → ((Text.toAsciiLowercase ascii).toList.splitOn '.').all validLabel = true
    → hosts.domainToAscii (Text.toAsciiLowercase ascii) = some (Text.toAsciiLowercase ascii)
  url : ∀ raw ascii host, hosts.domainToAscii raw = some ascii
    → ((Text.toAsciiLowercase ascii).toList.splitOn '.').all validLabel = true
    → hosts.urlHost (Text.toAsciiLowercase ascii) = some host
    → host = Text.toAsciiLowercase ascii ∨ hosts.parseIp host = some host

theorem isHostCharacter_plain {c : Char}
    (h : Text.isAsciiAlphanumeric c = true ∨ c = '-' ∨ c = '.' ∨ c = ':')
    : Text.isWhitespace c = false ∧ Text.isControl c = false ∧ c ≠ '[' ∧ c ≠ '"' ∧ c ≠ '\\' := by
  have hrange : 45 ≤ c.toNat ∧ c.toNat ≤ 122 ∧ c.toNat ≠ 91 ∧ c.toNat ≠ 92 := by
    rcases h with h | h | h | h
    . have := Text.isAsciiAlphanumeric_cases h
      omega
    . rw [h]
      decide
    . rw [h]
      decide
    . rw [h]
      decide
  have hne : ∀ d : Char, c.toNat ≠ d.toNat → c ≠ d := by
    intro d hd heq
    rw [heq] at hd
    exact hd rfl
  refine ⟨?_, ?_, hne _ hrange.2.2.1, hne _ ?_, hne _ hrange.2.2.2⟩
  . unfold Text.isWhitespace
    rw [Bool.eq_false_iff]
    intro hspace
    simp only [Bool.or_eq_true, Bool.and_eq_true, decide_eq_true_eq] at hspace
    omega
  . unfold Text.isControl
    rw [Bool.eq_false_iff]
    intro hcontrol
    simp only [Bool.or_eq_true, Bool.and_eq_true, decide_eq_true_eq] at hcontrol
    omega
  . have : '"'.toNat = 34 := rfl
    omega

theorem mem_intercalate {c sep : Char} {labels : List (List Char)}
    (h : c ∈ List.intercalate [sep] labels) : c = sep ∨ ∃ label ∈ labels, c ∈ label := by
  induction labels with
  | nil => simp at h
  | cons label labels ih =>
    cases labels with
    | nil =>
      rw [List.intercalate_singleton] at h
      exact .inr ⟨label, List.mem_cons_self, h⟩
    | cons next labels =>
      rw [List.intercalate_cons_cons, List.mem_append, List.mem_append, List.mem_singleton] at h
      rcases h with (h | h) | h
      . exact .inr ⟨label, List.mem_cons_self, h⟩
      . exact .inl h
      . rcases ih h with heq | ⟨other, hmem, hc⟩
        . exact .inl heq
        . exact .inr ⟨other, List.mem_cons_of_mem _ hmem, hc⟩

theorem validLabels_character {host : String} (h : (host.toList.splitOn '.').all validLabel = true)
    : ∀ c ∈ host.toList, Text.isAsciiAlphanumeric c = true ∨ c = '-' ∨ c = '.' := by
  intro c hc
  have hjoined : List.intercalate ['.'] (host.toList.splitOn '.') = host.toList :=
    List.intercalate_splitOn '.'
  rw [← hjoined] at hc
  rcases mem_intercalate hc with heq | ⟨label, hmem, hlabel⟩
  . exact .inr (.inr heq)
  . have hvalid := List.all_eq_true.mp h label hmem
    unfold validLabel at hvalid
    simp only [Bool.and_eq_true, List.all_eq_true, Bool.or_eq_true, decide_eq_true_eq] at hvalid
    rcases hvalid.2 c hlabel with hc | hc
    . exact .inl hc
    . exact .inr (.inl hc)

theorem validLabels_last {host : String} (h : (host.toList.splitOn '.').all validLabel = true)
    : host.toList.getLast? ≠ some '.' := by
  intro hlast
  rw [List.getLast?_eq_some_iff] at hlast
  rcases hlast with ⟨front, hfront⟩
  have hempty : [] ∈ host.toList.splitOn '.' := by
    rw [hfront, List.splitOn_append_cons_self]
    simp
  have := List.all_eq_true.mp h [] hempty
  cases this

theorem unbracket_eq_self {host : String} (h : ∀ c ∈ host.toList, c ≠ '[') : unbracket host = host := by
  unfold unbracket
  split
  . next rest heq => exact absurd rfl (h '[' (by rw [heq]; exact List.mem_cons_self))
  . rfl

theorem stripDot_eq_self {host : String} (h : host.toList.getLast? ≠ some '.') : stripDot host = host := by
  unfold stripDot
  rw [if_neg h]

theorem rdropWhile_dot {host : String} (h : host.toList.getLast? ≠ some '.')
    : String.ofList (host.toList.rdropWhile (· = '.')) = host := by
  cases hlast : host.toList.getLast? with
  | none =>
    rw [List.getLast?_eq_none_iff] at hlast
    rw [hlast]
    rw [← String.toList_inj, hlast]
    rfl
  | some c =>
    rw [List.getLast?_eq_some_iff] at hlast
    rcases hlast with ⟨front, hfront⟩
    have hne : c ≠ '.' := by
      intro heq
      rw [hfront, heq] at h
      simp at h
    rw [hfront, List.rdropWhile_concat_neg _ _ _ (by simpa using hne), ← hfront, String.ofList_toList]

-- The checks that precede everything else.
theorem checked_plain {host : String} (hne : host ≠ "") (hsize : host.utf8ByteSize ≤ 1024)
    (hplain : ∀ c ∈ host.toList, Text.isAsciiAlphanumeric c = true ∨ c = '-' ∨ c = '.' ∨ c = ':')
    : ¬ (host = ""
        || 1024 < host.utf8ByteSize
        || Text.trim host ≠ host
        || host.toList.any Text.isControl) = true
      ∧ unbracket host = host := by
  constructor
  . have htrim : Text.trim host = host :=
      Text.trim_eq_self (fun c hc => (isHostCharacter_plain (hplain c hc)).1)
    have hcontrol : host.toList.any Text.isControl = false := by
      rw [List.any_eq_false]
      intro c hc
      rw [(isHostCharacter_plain (hplain c hc)).2.1]
      decide
    simp only [Bool.or_eq_true, decide_eq_true_eq, not_or, hcontrol, htrim]
    exact ⟨⟨⟨hne, by omega⟩, by simp⟩, by simp⟩
  . exact unbracket_eq_self (fun c hc => (isHostCharacter_plain (hplain c hc)).2.2.1)

theorem normalizeHost_ip {hosts : HostSyntax} (hlaws : hosts.Regular) {ip : String}
    (h : hosts.parseIp ip = some ip) : normalizeHost hosts ip = .ok ip := by
  have hplain : ∀ c ∈ ip.toList, Text.isAsciiAlphanumeric c = true ∨ c = '-' ∨ c = '.' ∨ c = ':' := by
    intro c hc
    have := hlaws.characters ip ip h c hc
    simp only [isIpCharacter, Bool.or_eq_true, decide_eq_true_eq] at this
    tauto
  have hsize := hlaws.size ip ip h
  rcases checked_plain (hlaws.nonempty ip ip h) (by omega) hplain with ⟨hchecked, hunbracket⟩
  unfold normalizeHost
  rw [if_neg hchecked, hunbracket, h]

theorem normalizeHost_domain {hosts : HostSyntax} {host : String} (hne : host ≠ "")
    (hsize : host.utf8ByteSize ≤ 253) (hlabels : (host.toList.splitOn '.').all validLabel = true)
    (hlower : Text.toAsciiLowercase host = host) (hip : hosts.parseIp host = none)
    (hascii : hosts.domainToAscii host = some host) (hurl : hosts.urlHost host = some host)
    : normalizeHost hosts host = .ok host := by
  have hcharacter := validLabels_character hlabels
  have hplain : ∀ c ∈ host.toList,
      Text.isAsciiAlphanumeric c = true ∨ c = '-' ∨ c = '.' ∨ c = ':' := by
    intro c hc
    have := hcharacter c hc
    tauto
  have hlast := validLabels_last hlabels
  rcases checked_plain hne (by omega) hplain with ⟨hchecked, hunbracket⟩
  have hspace : host.toList.any Text.isWhitespace = false := by
    rw [List.any_eq_false]
    intro c hc
    rw [(isHostCharacter_plain (hplain c hc)).1]
    decide
  have hforbidden : host.toList.any ("/:?#@\\%[]".toList.contains ·) = false := by
    rw [List.any_eq_false]
    intro c hc hmem
    have hall : "/:?#@\\%[]".toList.all (fun d =>
        !(Text.isAsciiAlphanumeric d || d = '-' || d = '.')) = true := by
      decide
    have hd := List.all_eq_true.mp hall c (List.contains_iff_mem.mp hmem)
    have := hcharacter c hc
    simp only [Bool.not_eq_true', Bool.or_eq_false_iff, decide_eq_false_iff_not] at hd
    rcases this with h | h | h
    . rw [hd.1.1] at h
      cases h
    . exact hd.1.2 h
    . exact hd.2 h
  unfold normalizeHost
  rw [if_neg hchecked, hunbracket, hip]
  simp only [hspace, hforbidden, stripDot_eq_self hlast, hascii, hlower, hne, hlabels, hurl,
    rdropWhile_dot hlast]
  have : ¬ 253 < host.utf8ByteSize := by omega
  simp [this]

/--
What is known of a host after it was normalized: it is an address, or a domain that is not changed by a
conversion.
-/
theorem normalizeHost_cases {hosts : HostSyntax} (hlaws : hosts.Regular) {raw host : String}
    (h : normalizeHost hosts raw = .ok host)
    : hosts.parseIp host = some host
      ∨ host ≠ "" ∧ host.utf8ByteSize ≤ 253
        ∧ (host.toList.splitOn '.').all validLabel = true
        ∧ Text.toAsciiLowercase host = host
        ∧ hosts.domainToAscii host = some host
        ∧ hosts.urlHost host = some host := by
  unfold normalizeHost at h
  split at h
  . cases h
  . split at h
    . next ip hip =>
      cases h
      exact .inl (hlaws.reread _ _ hip)
    . split at h
      . cases h
      . split at h
        . cases h
        . next ascii hascii =>
          dsimp only at h
          split at h
          . cases h
          . next hvalid =>
            simp only [Bool.or_eq_true, decide_eq_true_eq, not_or, Bool.not_eq_true',
              Bool.not_eq_false, Nat.not_lt] at hvalid
            rcases hvalid with ⟨⟨hne, hsize⟩, hlabels⟩
            split at h
            . cases h
            . next url hurl =>
              rw [Except.ok.injEq] at h
              rcases hlaws.url _ _ _ hascii hlabels hurl with heq | hip
              . rw [heq] at h hurl
                rw [rdropWhile_dot (validLabels_last hlabels)] at h
                rw [← h]
                exact .inr ⟨hne, hsize, hlabels, Text.toAsciiLowercase_idem _,
                  hlaws.ascii _ _ hascii hlabels, hurl⟩
              . rw [rdropWhile_dot (hlaws.last _ _ hip)] at h
                rw [← h]
                exact .inl hip

theorem normalizeHost_idem {hosts : HostSyntax} (hlaws : hosts.Regular) {raw host : String}
    (h : normalizeHost hosts raw = .ok host) : normalizeHost hosts host = .ok host := by
  rcases normalizeHost_cases hlaws h with hip | ⟨hne, hsize, hlabels, hlower, hascii, hurl⟩
  . exact normalizeHost_ip hlaws hip
  . cases hip : hosts.parseIp host with
    | none => exact normalizeHost_domain hne hsize hlabels hlower hip hascii hurl
    | some ip =>
      have hcolon : ':' ∉ host.toList := by
        intro hmem
        have hc := validLabels_character hlabels ':' hmem
        revert hc
        decide
      have heq := hlaws.v4 _ _ hip hcolon
      rw [heq] at hip
      exact normalizeHost_ip hlaws hip

theorem plain_normalizeHost {hosts : HostSyntax} (hlaws : hosts.Regular) {raw host : String}
    (h : normalizeHost hosts raw = .ok host)
    : host.utf8ByteSize ≤ 253 ∧ ∀ c ∈ host.toList, Text.isControl c = false ∧ c ≠ '"' ∧ c ≠ '\\' := by
  rcases normalizeHost_cases hlaws h with hip | ⟨_, hsize, hlabels, _, _, _⟩
  . refine ⟨(hlaws.size _ _ hip).trans (by decide), ?_⟩
    intro c hc
    have := hlaws.characters _ _ hip c hc
    simp only [isIpCharacter, Bool.or_eq_true, decide_eq_true_eq] at this
    have hplain := isHostCharacter_plain (by tauto : Text.isAsciiAlphanumeric c = true ∨ c = '-'
      ∨ c = '.' ∨ c = ':')
    exact ⟨hplain.2.1, hplain.2.2.2.1, hplain.2.2.2.2⟩
  . refine ⟨hsize, ?_⟩
    intro c hc
    have := validLabels_character hlabels c hc
    have hplain := isHostCharacter_plain (by tauto : Text.isAsciiAlphanumeric c = true ∨ c = '-'
      ∨ c = '.' ∨ c = ':')
    exact ⟨hplain.2.1, hplain.2.2.2.1, hplain.2.2.2.2⟩

/-!
Values. What was cleaned is not changed by cleaning it again.
-/

-- A text that is kept as the value of a field.
structure CleanText (max : Nat) (text : String) : Prop where
  nonempty : text ≠ ""
  size : text.utf8ByteSize ≤ max
  control : ∀ c ∈ text.toList, Text.isControl c = false

theorem control_boundedClean (raw : String) (max : Nat)
    : ∀ c ∈ (boundedClean raw max).1.toList, Text.isControl c = false := by
  have hclean : ∀ c ∈ raw.toList.filter (fun c => !Text.isControl c), Text.isControl c = false := by
    intro c hc
    simpa using (List.mem_filter.mp hc).2
  have htake : ∀ max cs, ∀ c ∈ takeBytes max cs, c ∈ cs := by
    intro max cs
    induction cs generalizing max with
    | nil =>
      intro c hc
      exact hc
    | cons d cs ih =>
      intro c hc
      unfold takeBytes at hc
      split at hc
      . rcases List.mem_cons.mp hc with heq | hc
        . rw [heq]
          exact List.mem_cons_self
        . exact List.mem_cons_of_mem _ (ih _ c hc)
      . cases hc
  intro c hc
  unfold boundedClean at hc
  dsimp only at hc
  split at hc
  . rw [String.toList_ofList] at hc
    exact hclean c hc
  . rw [String.toList_ofList] at hc
    have := htake _ _ c hc
    rw [String.toList_ofList] at this
    exact hclean c this

theorem boundedClean_clean {max : Nat} {text : String} (h : CleanText max text)
    : boundedClean text max = (text, false) := by
  have hfilter : text.toList.filter (fun c => !Text.isControl c) = text.toList := by
    rw [List.filter_eq_self]
    intro c hc
    rw [h.control c hc]
    rfl
  unfold boundedClean
  rw [hfilter, String.ofList_toList, if_pos h.size]

theorem clean_boundedClean {raw : String} {max : Nat} (h : (boundedClean raw max).1 ≠ "")
    : CleanText max (boundedClean raw max).1 where
  nonempty := h
  size := size_boundedClean raw max
  control := control_boundedClean raw max

structure CleanApp (app : String) : Prop extends CleanText maxAppBytes app where
  separator : ∀ c ∈ app.toList, c ≠ '/' ∧ c ≠ '\\'

theorem clean_keptApp {c : Json} {app : String} (h : keptApp c = some app) : CleanApp app := by
  unfold keptApp at h
  rw [Option.bind_eq_some_iff] at h
  rcases h with ⟨⟨cleaned, long⟩, hcleaned, h⟩
  rw [Option.map_eq_some_iff] at hcleaned
  rcases hcleaned with ⟨raw, _, heq⟩
  dsimp only at h
  split at h
  . next hkept =>
    simp only [Bool.and_eq_true, decide_eq_true_eq, Bool.not_eq_true', ne_eq,
      List.any_eq_false, Bool.or_eq_true, not_or] at hkept
    rw [Option.some.injEq] at h
    have hraw : (boundedClean raw maxAppBytes).1 = app := by
      rw [heq, h]
    rw [h] at hkept
    rw [← hraw]
    refine ⟨clean_boundedClean ?_, ?_⟩
    . rw [hraw]
      exact hkept.1.2
    . rw [hraw]
      exact hkept.2
  . cases h

theorem clean_keptTitle {c : Json} {title : String} (h : keptTitle c = some title)
    : CleanText maxTitleBytes title := by
  unfold keptTitle at h
  rw [Option.filter_eq_some_iff, Option.map_eq_some_iff] at h
  rcases h with ⟨⟨raw, _, heq⟩, hne⟩
  rw [← heq]
  apply clean_boundedClean
  rw [heq]
  simpa using hne

/-!
What is kept of a component.
-/

def keptWindow (source : Source) (app title : Option String) (truncated : Bool) : Json :=
  let out := windowJson .observed .null source app title
  if truncated then out.setField "title_truncated" (.bool true) else out

def KeptReason (reason : Json) : Prop :=
  reason = .null ∨ ∃ r : Reason, reason = .string r.asStr

inductive Kept (hosts : HostSyntax) : Bool → Option UInt64 → Json → Prop where
  | blank {browser : Bool} {current : Option UInt64} {status : Status} {reason : Json}
      {source : Source} (hstatus : status ≠ .observed) (hreason : KeptReason reason)
      (hsource : isSourceOf browser source = true)
      : Kept hosts browser current (blank browser status reason source)
  | window {revision : UInt64} {source : Source} {app title : Option String} {truncated : Bool}
      (hsource : source.isWindowSource = true) (hne : source ≠ .none)
      (happ : ∀ a ∈ app, CleanApp a) (htitle : ∀ t ∈ title, CleanText maxTitleBytes t)
      : Kept hosts false (some revision) (keptWindow source app title truncated)
  | browser {revision : UInt64} {source : Source} {host : Option String}
      (hsource : source.isBrowserSource = true) (hne : source ≠ .none)
      (hhost : ∀ h ∈ host, ∃ raw, normalizeHost hosts raw = .ok h)
      : Kept hosts true (some revision) (browserJson .observed .null source host)

theorem checkComponent_some {c : Json} {browser : Bool} {status : Status} {source : Source}
    : checkComponent c browser = some (status, source)
      ↔ (c.field "status").asStr.bind Status.fromWire = some status
        ∧ (c.field "source").asStr.bind Source.fromWire = some source
        ∧ isSourceOf browser source = true
        ∧ keysIn (componentKeys browser) c = true
        ∧ validReason c = true
        ∧ validValues c browser = true
        ∧ ¬ (status = .observed ∧ (source = .none ∨ (c.field "reason").asStr.isSome = true)) := by
  unfold checkComponent
  constructor
  . intro h
    split at h
    . next hstatus hsource =>
      rw [Option.filter_eq_some_iff] at hsource
      split at h
      . next hchecks =>
        simp only [Option.some.injEq, Prod.mk.injEq] at h
        rcases h with ⟨rfl, rfl⟩
        simp only [Bool.and_eq_true, Bool.not_eq_true', Bool.and_eq_false_imp, decide_eq_true_eq,
          Bool.or_eq_false_iff, decide_eq_false_iff_not] at hchecks
        rcases hchecks with ⟨⟨⟨hkeys, hreason⟩, hvalues⟩, hobserved⟩
        refine ⟨hstatus, hsource.1, hsource.2, hkeys, hreason, hvalues, ?_⟩
        intro hboth
        rcases hboth.2 with hnone | hsome
        . exact (hobserved hboth.1).1 hnone
        . rw [(hobserved hboth.1).2] at hsome
          cases hsome
      . cases h
    . cases h
  . intro h
    rcases h with ⟨hstatus, hsource, hof, hkeys, hreason, hvalues, hobserved⟩
    rw [hstatus, hsource]
    simp only [Option.filter, hof, ↓reduceIte, hkeys, hreason, hvalues, Bool.true_and]
    rw [if_pos]
    simp only [Bool.not_eq_true', Bool.and_eq_false_imp, decide_eq_true_eq, Bool.or_eq_false_iff,
      decide_eq_false_iff_not]
    intro heq
    rw [not_and, not_or, Bool.not_eq_true] at hobserved
    exact hobserved heq

theorem asStr_of_fromWire {text : String} {r : Reason} (h : Reason.fromWire text = some r)
    : r.asStr = text := by
  unfold Reason.fromWire at h
  split at h <;> cases h <;> rfl

theorem kept_validReason {c : Json} (h : validReason c = true) : KeptReason (c.field "reason") := by
  unfold validReason at h
  rw [Bool.or_eq_true] at h
  rcases h with h | h
  . rw [Option.any_eq_true] at h
    rcases h with ⟨value, hvalue, hnull⟩
    apply Or.inl
    rw [Json.field_eq_of_get? hvalue]
    cases value with
    | null => rfl
    | _ => cases hnull
  . rw [Option.any_eq_true] at h
    rcases h with ⟨text, htext, hwire⟩
    rw [Option.isSome_iff_exists] at hwire
    rcases hwire with ⟨r, hr⟩
    apply Or.inr
    refine ⟨r, ?_⟩
    rw [asStr_of_fromWire hr]
    cases hvalue : c.field "reason" with
    | string s =>
      rw [hvalue] at htext
      cases htext
      rfl
    | _ =>
      rw [hvalue] at htext
      cases htext

theorem component_kept (hosts : HostSyntax) (raw : Option Json) (browser : Bool)
    (revision : Option Nat) (current : Option UInt64)
    : Kept hosts browser current (component hosts raw browser revision current) := by
  have hempty : ∀ reason status, status ≠ .observed
      → Kept hosts browser current (empty reason status browser) := by
    intro reason status hstatus
    apply Kept.blank hstatus (.inr ⟨reason, rfl⟩)
    cases browser <;> rfl
  unfold component
  split
  . exact hempty _ _ (by decide)
  . next c hc =>
    split
    . exact hempty _ _ (by decide)
    . next status source hcheck =>
      rcases checkComponent_some.mp hcheck with ⟨_, _, hof, _, hreason, _, hobserved⟩
      split
      . next hstatus =>
        split
        . exact hempty _ _ (by decide)
        . exact .blank hstatus (kept_validReason hreason) hof
      . next hstatus =>
        rw [ne_eq, not_not] at hstatus
        have hne : source ≠ .none := by
          intro heq
          exact hobserved ⟨hstatus, .inl heq⟩
        split
        . exact hempty _ _ (by decide)
        . next hrevision =>
          rw [not_or, not_not] at hrevision
          cases hcurrent : current with
          | none =>
            rw [hrevision.2, hcurrent] at hrevision
            exact absurd rfl hrevision.1
          | some r =>
            split
            . next hbrowser =>
              rw [hbrowser] at hof ⊢
              unfold observedBrowser
              split
              . exact .browser hof hne (by simp)
              . next host hhost =>
                apply Kept.browser hof hne
                intro h hmem
                cases hmem
                rw [Option.map_eq_some_iff] at hhost
                rcases hhost with ⟨rawHost, _, heq⟩
                exact ⟨rawHost, heq⟩
              . exact .blank (by decide) (.inr ⟨_, rfl⟩) rfl
            . next hbrowser =>
              rw [Bool.not_eq_true] at hbrowser
              rw [hbrowser] at hof ⊢
              exact .window hof hne (fun a ha => clean_keptApp ha) (fun t ht => clean_keptTitle ht)

/-!
What is kept of what was kept.
-/

section Again

variable {hosts : HostSyntax} {c : Json} {browser : Bool} {status : Status} {source : Source}
  {revision : Option Nat} {current : Option UInt64}

theorem component_blank (hobject : c.isObject = true)
    (hcheck : checkComponent c browser = some (status, source)) (hstatus : status ≠ .observed)
    (hvalues : hasValues c browser = false)
    : component hosts (some c) browser revision current
        = blank browser status (c.field "reason") source := by
  simp only [component, Option.filter, hobject, ↓reduceIte, hcheck, hstatus, hvalues,
    Bool.false_eq_true, ne_eq, not_false_eq_true]

theorem component_revoked (hobject : c.isObject = true)
    (hcheck : checkComponent c browser = some (.observed, source))
    (hrevision : ∀ r, revision = some r → current.map UInt64.toNat ≠ some r)
    : component hosts (some c) browser revision current = empty .revoked .notCollected browser := by
  have hrevoked : revision.isNone = true ∨ revision ≠ current.map UInt64.toNat := by
    cases revision with
    | none => exact .inl rfl
    | some r => exact .inr (fun heq => hrevision r rfl heq.symm)
  simp only [component, Option.filter, hobject, ↓reduceIte, hcheck, ne_eq, not_true_eq_false,
    if_pos hrevoked]

theorem component_observed {r : UInt64} (hobject : c.isObject = true)
    (hcheck : checkComponent c browser = some (.observed, source))
    : component hosts (some c) browser (some r.toNat) (some r)
        = if browser then observedBrowser hosts c source else observedWindow c source := by
  simp only [component, Option.filter, hobject, ↓reduceIte, hcheck, ne_eq, not_true_eq_false,
    Option.isNone_some, Option.map_some, Bool.false_eq_true, or_self]

end Again

theorem checkComponent_blank {browser : Bool} {status : Status} {reason : Json} {source : Source}
    (hstatus : status ≠ .observed) (hreason : KeptReason reason)
    (hsource : isSourceOf browser source = true)
    : checkComponent (blank browser status reason source) browser = some (status, source) := by
  have hvalid : validReason (blank browser status reason source) = true := by
    rcases hreason with heq | ⟨r, heq⟩
    . rw [heq]
      cases browser <;> rfl
    . rw [heq]
      cases browser <;> cases r <;> rfl
  have hfields : (blank browser status reason source).field "status" = .string status.asStr
      ∧ (blank browser status reason source).field "source" = .string source.asStr
      ∧ keysIn (componentKeys browser) (blank browser status reason source) = true
      ∧ validValues (blank browser status reason source) browser = true := by
    cases browser <;> exact ⟨rfl, rfl, rfl, rfl⟩
  rw [checkComponent_some, hfields.1, hfields.2.1]
  exact ⟨Status.fromWire_asStr status, Source.fromWire_asStr source, hsource, hfields.2.2.1, hvalid,
    hfields.2.2.2, fun hboth => hstatus hboth.1⟩

theorem field_keptWindow (source : Source) (app title : Option String) (truncated : Bool)
    : (keptWindow source app title truncated).isObject = true
      ∧ (keptWindow source app title truncated).field "app" = stringOrNull app
      ∧ (keptWindow source app title truncated).field "title" = stringOrNull title
      ∧ (keptWindow source app title truncated).field "reason" = .null
      ∧ ((keptWindow source app title truncated).field "title_truncated").asBool.getD false
        = truncated := by
  cases truncated <;> exact ⟨rfl, rfl, rfl, rfl, rfl⟩

theorem asStr_stringOrNull (text : Option String) : (stringOrNull text).asStr = text := by
  cases text <;> rfl

theorem checkComponent_keptWindow {source : Source} {app title : Option String} {truncated : Bool}
    (hsource : source.isWindowSource = true) (hne : source ≠ .none)
    : checkComponent (keptWindow source app title truncated) false = some (.observed, source) := by
  rw [checkComponent_some]
  refine ⟨?_, ?_, hsource, ?_, ?_, ?_, ?_⟩
  . cases truncated <;> rfl
  . cases truncated <;> exact Source.fromWire_asStr source
  . cases truncated <;> rfl
  . cases truncated <;> rfl
  . cases truncated <;> cases app <;> cases title <;> rfl
  . rcases field_keptWindow source app title truncated with ⟨_, _, _, hreason, _⟩
    rw [hreason]
    rintro ⟨_, hnone | hsome⟩
    . exact hne hnone
    . cases hsome

theorem checkComponent_keptBrowser {source : Source} {host : Option String}
    (hsource : source.isBrowserSource = true) (hne : source ≠ .none)
    : checkComponent (browserJson .observed .null source host) true = some (.observed, source) := by
  rw [checkComponent_some]
  refine ⟨rfl, Source.fromWire_asStr source, hsource, rfl, rfl, ?_, ?_⟩
  . cases host <;> rfl
  . simp [browserJson, Json.field, Json.get?, Fields.get?_cons, hne, Json.asStr]

theorem kept_window_again {source : Source} {app title : Option String} {truncated : Bool}
    (happ : ∀ a ∈ app, CleanApp a) (htitle : ∀ t ∈ title, CleanText maxTitleBytes t)
    : observedWindow (keptWindow source app title truncated) source
        = keptWindow source app title truncated := by
  rcases field_keptWindow source app title truncated with ⟨_, hfapp, hftitle, _, hftruncated⟩
  have happ' : keptApp (keptWindow source app title truncated) = app := by
    unfold keptApp
    rw [hfapp, asStr_stringOrNull]
    cases app with
    | none => rfl
    | some a =>
      have hclean := happ a rfl
      have hseparator : a.toList.any (fun ch => ch = '/' || ch = '\\') = false := by
        rw [List.any_eq_false]
        intro ch hmem
        simp [hclean.separator ch hmem]
      rw [Option.map_some, boundedClean_clean hclean.toCleanText, Option.bind_some]
      simp [hclean.nonempty, hseparator]
  have htitle' : keptTitle (keptWindow source app title truncated) = title := by
    unfold keptTitle
    rw [hftitle, asStr_stringOrNull]
    cases title with
    | none => rfl
    | some t =>
      rw [Option.map_some, boundedClean_clean (htitle t rfl), Option.filter_some,
        if_pos (by simpa using (htitle t rfl).nonempty)]
  have htruncated : keptTruncated (keptWindow source app title truncated) = truncated := by
    unfold keptTruncated
    rw [hftitle, hftruncated, asStr_stringOrNull]
    cases title with
    | none => simp
    | some t => simp [boundedClean_clean (htitle t rfl)]
  unfold observedWindow
  rw [happ', htitle', htruncated]
  rfl

theorem kept_browser_again {hosts : HostSyntax} (hlaws : hosts.Regular) {source : Source}
    {host : Option String} (hhost : ∀ h ∈ host, ∃ raw, normalizeHost hosts raw = .ok h)
    : observedBrowser hosts (browserJson .observed .null source host) source
        = browserJson .observed .null source host := by
  cases host with
  | none => rfl
  | some h =>
    rcases hhost h rfl with ⟨raw, hraw⟩
    have hfield : ((browserJson .observed .null source (some h)).field "url_host").asStr = some h := rfl
    simp only [observedBrowser, hfield, Option.map_some, normalizeHost_idem hlaws hraw]

/--
A component that was kept is kept as it is, if its grant is still the current one.
-/
theorem component_again {hosts : HostSyntax} (hlaws : hosts.Regular) {browser : Bool}
    {current : Option UInt64} {v : Json} (h : Kept hosts browser current v)
    : component hosts (some v) browser (current.map UInt64.toNat) current = v := by
  cases h with
  | @blank browser current status reason source hstatus hreason hsource =>
    rw [component_blank _ (checkComponent_blank hstatus hreason hsource) hstatus]
    . cases browser <;> rfl
    . cases browser <;> rfl
    . cases browser <;> rfl
  | window hsource hne happ htitle =>
    rw [Option.map_some, component_observed _ (checkComponent_keptWindow hsource hne)]
    . exact kept_window_again happ htitle
    . exact (field_keptWindow _ _ _ _).1
  | browser hsource hne hhost =>
    rw [Option.map_some, component_observed rfl (checkComponent_keptBrowser hsource hne)]
    exact kept_browser_again hlaws hhost

end Recall

end Vantyr
