import Mathlib.Data.Rat.Defs
import Vantyr.Dashboard.RemoteFrame
import Vantyr.Data.Json
import Vantyr.Data.Strip
import Vantyr.Server.Recall.Context

/-!
This module contains the context filters of the dashboard
(`frontend/src/features/recall/lib/recallContext.ts`): how they are restored from any value, and the form of
a host in them. The main result is that restored filters are restored from themselves. What a URL is parsed
to is a parameter.
-/

namespace Vantyr

-- A number is rational, or it is not finite.
inductive JsValue where
  | undefined
  | null
  | bool (b : Bool)
  | number (x : Option ℚ)
  | string (s : String)
  | array (items : List JsValue)
  | object (fields : List (String × JsValue))

namespace JsValue

def field (fields : List (String × JsValue)) (key : String) : JsValue :=
  (Fields.get? key fields).getD undefined

-- `value ?? text`
def orString (value : JsValue) (text : String) : JsValue :=
  match value with
  | undefined => string text
  | null => string text
  | value => value

-- A string or `null`.
def ofOption (text : Option String) : JsValue :=
  text.elim null string

def isTruthy : JsValue → Bool
  | undefined => false
  | null => false
  | bool b => b
  | number x => x.any (· ≠ 0)
  | string s => s ≠ ""
  | array _ => true
  | object _ => true

end JsValue

namespace RecallFilters

open Recall (Filters)

-- What `URL` exposes.
structure Url where
  hostname : String
  port : String
  deriving DecidableEq, Repr

def trim (text : String) : String :=
  String.ofList (Multipart.trimSpace text.toList)

-- `value || null`
def truthy (text : String) : Option String :=
  if text = "" then none else some text

def hasControls (text : String) : Bool :=
  text.toList.any (fun c => c.toNat ≤ 31 || 127 ≤ c.toNat && c.toNat ≤ 159)

def isLowerOrDigit (c : Char) : Bool :=
  'a' ≤ c ∧ c ≤ 'z' ∨ '0' ≤ c ∧ c ≤ '9'

-- The regular expression of a label.
def isLabel (part : List Char) : Bool :=
  part.head?.any isLowerOrDigit && part.getLast?.any isLowerOrDigit
    && part.all (fun c => isLowerOrDigit c || c = '-')

section

variable (newUrl : String → Option Url)

def normalizeRecallHost (raw : String) : Except String String :=
  let value := trim raw
  if value = ""
      || 253 < value.utf8ByteSize
      || hasControls value
      || value.toList.any (fun c => "/@?#\\%".toList.contains c || Multipart.isSpace c) then
    .error "Enter an exact host without a scheme, path or port."
  else if value.toList.contains ':' then
    let literal :=
      if value.toList.head? = some '[' && value.toList.getLast? = some ']' then value else "[" ++ value ++ "]"
    match newUrl ("https://" ++ literal ++ "/") with
    | none => .error "Enter a valid IPv6 host without a port."
    | some url =>
      if url.port ≠ "" then
        .error "Enter a valid IPv6 host without a port."
      else
        .ok (Text.toAsciiLowercase (String.ofList url.hostname.toList.tail.dropLast))
  else if value.toList.contains '[' || value.toList.contains ']' then
    .error "Enter a valid exact host."
  else
    match newUrl ("https://" ++ Recall.stripDot value ++ "/") with
    | none => .error "Enter a valid exact host."
    | some url =>
      let host := Text.toAsciiLowercase url.hostname
      if host = ""
          || 253 < host.utf8ByteSize
          || (host.toList.splitOn '.').any
            (fun part => part.isEmpty || 63 < part.length || !(isLabel part)) then
        .error "Enter a valid exact host."
      else
        .ok host

def textFilter (raw : List (String × JsValue)) (key : String) (max : Nat) : Except String (Option String) :=
  let name := if key = "app" then "App" else if key = "title" then "Title" else "Host"
  match JsValue.field raw key with
  | .undefined => .ok none
  | .null => .ok none
  | .string value =>
    if value.utf8ByteSize ≤ max && !hasControls value then
      .ok (truthy (trim value))
    else
      .error (name ++ " filter exceeds its UTF-8 limit or contains control characters.")
  | _ => .error (name ++ " filter exceeds its UTF-8 limit or contains control characters.")

def filterKeys : List String :=
  ["app", "app_mode", "title", "url_host", "context"]

def parseRecallFilters (raw : JsValue) : Except String Filters :=
  match raw with
  | .undefined => .ok Filters.default
  | .null => .ok Filters.default
  | .object raw =>
    if raw.any (fun field => !filterKeys.contains field.1) then
      .error "Invalid capture context filter field."
    else do
      let app ← textFilter raw "app" 256
      let title ← textFilter raw "title" 1024
      let host ← textFilter raw "url_host" 253
      match (JsValue.field raw "app_mode").orString "exact", (JsValue.field raw "context").orString "all" with
      | .string mode, .string context =>
        if !(["exact", "prefix"].contains mode) || !(["all", "known", "unknown"].contains context) then
          throw "Invalid capture context filter mode."
        if app.isNone && mode ≠ "exact" then
          throw "Choose an app before using prefix matching."
        if context = "unknown" && (app.isSome || title.isSome || host.isSome) then
          throw ("Unknown context cannot be combined with app, title or host filters. "
            ++ "Clear those fields first.")
        let app := app.map Text.toAsciiLowercase
        match host with
        | none => pure { app, appMode := mode, title, urlHost := none, context }
        | some host =>
          let urlHost ← normalizeRecallHost newUrl host
          pure { app, appMode := mode, title, urlHost := some urlHost, context }
      | _, _ => throw "Invalid capture context filter mode."
  | _ => .error "Invalid capture context filters."

end

-- The object that filters are.
def toValue (f : Filters) : JsValue :=
  .object [
    ("app", .ofOption f.app),
    ("app_mode", .string f.appMode),
    ("title", .ofOption f.title),
    ("url_host", .ofOption f.urlHost),
    ("context", .string f.context)
  ]

/--
What the standard of URLs says of hosts: a host is written as it is parsed, in lower case, and a literal in
brackets is an address of hexadecimal numbers and colons.
-/
structure Whatwg (newUrl : String → Option Url) : Prop where
  again : ∀ {host url}, newUrl ("https://" ++ host ++ "/") = some url
    → newUrl ("https://" ++ url.hostname ++ "/") = some { hostname := url.hostname, port := "" }
  lower : ∀ {host url}, newUrl ("https://" ++ host ++ "/") = some url
    → Text.toAsciiLowercase url.hostname = url.hostname
  address : ∀ {literal url}, (∀ c ∈ literal.toList, c ∉ "/@?#\\".toList)
    → newUrl ("https://[" ++ literal ++ "]/") = some url
    → ∃ address : List Char, url.hostname = "[" ++ String.ofList address ++ "]" ∧ address.length ≤ 39
      ∧ ':' ∈ address ∧ ∀ c ∈ address, c ∈ "0123456789abcdef:".toList

/-!
Hosts.
-/

def hostCharacters : List Char :=
  "abcdefghijklmnopqrstuvwxyz0123456789-.:".toList

theorem mem_hostCharacters {c : Char} (h : isLowerOrDigit c = true) : c ∈ hostCharacters := by
  have hall : ∀ n < 123, 97 ≤ n ∨ 48 ≤ n ∧ n ≤ 57 → Char.ofNat n ∈ hostCharacters := by decide
  have hrange : (97 ≤ c.toNat ∧ c.toNat ≤ 122) ∨ 48 ≤ c.toNat ∧ c.toNat ≤ 57 := by
    unfold isLowerOrDigit at h
    rw [decide_eq_true_iff] at h
    exact h
  have hmem := hall c.toNat (by omega) (by omega)
  rwa [Char.ofNat_toNat] at hmem

theorem hostCharacter_plain
    : ∀ c ∈ hostCharacters, Multipart.isSpace c = false
      ∧ (c.toNat ≤ 31 || 127 ≤ c.toNat && c.toNat ≤ 159) = false
      ∧ "/@?#\\%".toList.contains c = false ∧ c ≠ '[' ∧ c ≠ ']' ∧ Text.asciiLower c = c := by
  have hall : hostCharacters.all (fun c => !Multipart.isSpace c
      && !(c.toNat ≤ 31 || 127 ≤ c.toNat && c.toNat ≤ 159)
      && !"/@?#\\%".toList.contains c && c != '[' && c != ']' && Text.asciiLower c == c) = true := by
    decide
  intro c hc
  have hplain := List.all_eq_true.mp hall c hc
  simp only [Bool.and_eq_true, Bool.not_eq_true', bne_iff_ne, beq_iff_eq] at hplain
  rcases hplain with ⟨⟨⟨⟨⟨hspace, hcontrol⟩, hspecial⟩, hopen⟩, hclose⟩, hlower⟩
  exact ⟨hspace, hcontrol, hspecial, hopen, hclose, hlower⟩

section

variable {newUrl : String → Option Url} {host raw : String}

theorem trim_eq_self (h : ∀ c ∈ host.toList, c ∈ hostCharacters) : trim host = host := by
  unfold trim
  rw [show Multipart.trimSpace host.toList = host.toList from
    Strip.strip_eq_self (fun c hc => (hostCharacter_plain c (h c hc)).1), String.ofList_toList]

theorem hasControls_plain (h : ∀ c ∈ host.toList, c ∈ hostCharacters) : hasControls host = false := by
  unfold hasControls
  rw [List.any_eq_false]
  intro c hc
  rw [(hostCharacter_plain c (h c hc)).2.1]
  exact Bool.false_ne_true

theorem lower_plain (h : ∀ c ∈ host.toList, c ∈ hostCharacters) : Text.toAsciiLowercase host = host := by
  unfold Text.toAsciiLowercase
  rw [List.map_congr_left (fun c hc => (hostCharacter_plain c (h c hc)).2.2.2.2.2), List.map_id',
    String.ofList_toList]

-- The checks that precede the parsing of a URL.
theorem checked_plain (hne : host ≠ "") (hsize : host.utf8ByteSize ≤ 253)
    (h : ∀ c ∈ host.toList, c ∈ hostCharacters)
    : ¬(trim host = ""
      || 253 < (trim host).utf8ByteSize
      || hasControls (trim host)
      || (trim host).toList.any (fun c => "/@?#\\%".toList.contains c || Multipart.isSpace c)) = true := by
  have hspecial : host.toList.any (fun c => "/@?#\\%".toList.contains c || Multipart.isSpace c) = false := by
    rw [List.any_eq_false]
    intro c hc
    have hplain := hostCharacter_plain c (h c hc)
    rw [hplain.1, hplain.2.2.1]
    exact Bool.false_ne_true
  rw [trim_eq_self h, hasControls_plain h, hspecial]
  simp [hne, hsize]

theorem normalize_address {address : List Char} (hlength : address.length ≤ 39) (hcolon : ':' ∈ address)
    (h : ∀ c ∈ address, c ∈ hostCharacters)
    (hurl : newUrl ("https://" ++ ("[" ++ String.ofList address ++ "]") ++ "/")
      = some { hostname := "[" ++ String.ofList address ++ "]", port := "" })
    : normalizeRecallHost newUrl (String.ofList address) = .ok (String.ofList address) := by
  have hplain : ∀ c ∈ (String.ofList address).toList, c ∈ hostCharacters := by
    rwa [String.toList_ofList]
  have hne : String.ofList address ≠ "" := by
    intro hempty
    rw [← String.toList_inj, String.toList_ofList] at hempty
    rw [hempty] at hcolon
    cases hcolon
  have hsize := Text.size_ofList_le address
  have hopen : ¬((String.ofList address).toList.head? = some '['
      && (String.ofList address).toList.getLast? = some ']') = true := by
    intro hopen
    rw [Bool.and_eq_true, decide_eq_true_iff] at hopen
    exact (hostCharacter_plain '[' (hplain _ (List.mem_of_mem_head? hopen.1))).2.2.2.1 rfl
  have hslice : ("[" ++ String.ofList address ++ "]").toList.tail.dropLast = address := by
    simp
  unfold normalizeRecallHost
  dsimp only
  rw [if_neg (checked_plain hne (by omega) hplain), trim_eq_self hplain, if_pos (by simpa using hcolon),
    if_neg hopen, hurl]
  dsimp only
  rw [if_neg (by simp), hslice, lower_plain hplain]

theorem normalize_domain (hne : host ≠ "") (hsize : host.utf8ByteSize ≤ 253)
    (hlabels : ∀ part ∈ host.toList.splitOn '.', part ≠ [] ∧ part.length ≤ 63 ∧ isLabel part = true)
    (hplain : ∀ c ∈ host.toList, c ∈ hostCharacters) (hcolon : ':' ∉ host.toList)
    (hurl : newUrl ("https://" ++ host ++ "/") = some { hostname := host, port := "" })
    : normalizeRecallHost newUrl host = .ok host := by
  have hparts : ((host.toList.splitOn '.').any
      (fun part => part.isEmpty || 63 < part.length || !(isLabel part))) = false := by
    rw [List.any_eq_false]
    intro part hpart
    rcases hlabels part hpart with ⟨hpart, hlength, hlabel⟩
    simp [hpart, hlength, hlabel]
  have hdot : host.toList.getLast? ≠ some '.' := by
    intro hlast
    rw [List.getLast?_eq_some_iff] at hlast
    rcases hlast with ⟨front, hfront⟩
    have hempty : [] ∈ host.toList.splitOn '.' := by
      rw [hfront, List.splitOn_append_cons_self]
      simp
    exact (hlabels [] hempty).1 rfl
  have hbrackets : ¬(host.toList.contains '[' || host.toList.contains ']') = true := by
    rw [Bool.or_eq_true, List.contains_iff_mem, List.contains_iff_mem, not_or]
    exact ⟨fun hmem => (hostCharacter_plain '[' (hplain _ hmem)).2.2.2.1 rfl,
      fun hmem => (hostCharacter_plain ']' (hplain _ hmem)).2.2.2.2.1 rfl⟩
  unfold normalizeRecallHost
  dsimp only
  rw [if_neg (checked_plain hne hsize hplain), trim_eq_self hplain, if_neg (by simpa using hcolon),
    if_neg hbrackets, Recall.stripDot_eq_self hdot, hurl]
  dsimp only
  rw [lower_plain hplain, hparts]
  simp [hne, hsize]

theorem label_characters (hlabels : ∀ part ∈ host.toList.splitOn '.', isLabel part = true)
    : ∀ c ∈ host.toList, c ∈ hostCharacters ∧ c ≠ ':' := by
  intro c hc
  have hjoined : List.intercalate ['.'] (host.toList.splitOn '.') = host.toList :=
    List.intercalate_splitOn '.'
  rw [← hjoined] at hc
  rcases Recall.mem_intercalate hc with rfl | ⟨part, hpart, hc⟩
  . decide
  . have hlabel := hlabels part hpart
    unfold isLabel at hlabel
    rw [Bool.and_eq_true, List.all_eq_true] at hlabel
    have hclass := hlabel.2 c hc
    rw [Bool.or_eq_true, decide_eq_true_iff] at hclass
    rcases hclass with hlower | rfl
    . refine ⟨mem_hostCharacters hlower, ?_⟩
      rintro rfl
      exact absurd hlower (by decide)
    . decide

theorem bracketed_of_ends {text : String} (hopen : text.toList.head? = some '[')
    (hclose : text.toList.getLast? = some ']') (hcolon : ':' ∈ text.toList)
    : ∃ literal : String, text = "[" ++ literal ++ "]" := by
  rcases List.head?_eq_some_iff.mp hopen with ⟨rest, hrest⟩
  rw [hrest] at hclose hcolon
  have hne : rest ≠ [] := by
    rintro rfl
    revert hcolon
    decide
  rw [List.getLast?_cons, List.getLast?_eq_some_getLast hne, Option.getD_some, Option.some.injEq] at hclose
  refine ⟨String.ofList rest.dropLast, ?_⟩
  rw [← String.toList_inj, hrest]
  simp only [String.toList_append, String.toList_ofList]
  rw [← List.dropLast_append_getLast hne, hclose]
  simp

-- A host that is stored: the limits hold of it, and it is its own form.
structure NormalHost (newUrl : String → Option Url) (host : String) : Prop where
  nonempty : host ≠ ""
  size : host.utf8ByteSize ≤ 253
  plain : ∀ c ∈ host.toList, c ∈ hostCharacters
  again : normalizeRecallHost newUrl host = .ok host

theorem address_normal (h : Whatwg newUrl) {literal : String} {url : Url}
    (hliteral : ∀ c ∈ literal.toList, c ∉ "/@?#\\".toList)
    (hurl : newUrl ("https://" ++ ("[" ++ literal ++ "]") ++ "/") = some url)
    : NormalHost newUrl (Text.toAsciiLowercase (String.ofList url.hostname.toList.tail.dropLast)) := by
  have hbrackets : newUrl ("https://[" ++ literal ++ "]/") = some url := by
    rw [← hurl]
    congr 1
    simp [← String.toList_inj]
  rcases h.address hliteral hbrackets with ⟨address, hhostname, hlength, hcolon, hcharacters⟩
  have hclass : "0123456789abcdef:".toList.all hostCharacters.contains = true := by decide
  have hplain : ∀ c ∈ address, c ∈ hostCharacters := by
    intro c hc
    exact List.contains_iff_mem.mp (List.all_eq_true.mp hclass c (hcharacters c hc))
  have hslice : url.hostname.toList.tail.dropLast = address := by
    rw [hhostname]
    simp
  have hagain := h.again hurl
  rw [hhostname] at hagain
  have hlower : Text.toAsciiLowercase (String.ofList address) = String.ofList address :=
    lower_plain (by rwa [String.toList_ofList])
  rw [hslice, hlower]
  have hsize := Text.size_ofList_le address
  refine {
    nonempty := ?_
    size := by omega
    plain := by rwa [String.toList_ofList]
    again := normalize_address hlength hcolon hplain hagain
  }
  intro hempty
  rw [← String.toList_inj, String.toList_ofList] at hempty
  rw [hempty] at hcolon
  cases hcolon

theorem domain_normal (h : Whatwg newUrl) {name : String} {url : Url}
    (hurl : newUrl ("https://" ++ name ++ "/") = some url) (hne : url.hostname ≠ "")
    (hsize : url.hostname.utf8ByteSize ≤ 253)
    (hlabels : ∀ part ∈ url.hostname.toList.splitOn '.', part ≠ [] ∧ part.length ≤ 63 ∧ isLabel part = true)
    : NormalHost newUrl url.hostname := by
  have hcharacters := label_characters (fun part hpart => (hlabels part hpart).2.2)
  have hplain : ∀ c ∈ url.hostname.toList, c ∈ hostCharacters := fun c hc => (hcharacters c hc).1
  have hcolon : ':' ∉ url.hostname.toList := fun hmem => (hcharacters _ hmem).2 rfl
  exact {
    nonempty := hne
    size := hsize
    plain := hplain
    again := normalize_domain hne hsize hlabels hplain hcolon (h.again hurl)
  }

theorem normalizeRecallHost_normal (h : Whatwg newUrl) (hraw : normalizeRecallHost newUrl raw = .ok host)
    : NormalHost newUrl host := by
  unfold normalizeRecallHost at hraw
  dsimp only at hraw
  split at hraw
  . cases hraw
  . next hchecks =>
    have hspecial : ∀ c ∈ (trim raw).toList, c ∉ "/@?#\\".toList := by
      have hsubset : ∀ c ∈ "/@?#\\".toList, c ∈ "/@?#\\%".toList := by simp
      intro c hc hmem
      apply hchecks
      rw [Bool.or_eq_true]
      right
      rw [List.any_eq_true]
      exact ⟨c, hc, by rw [List.contains_iff_mem.mpr (hsubset c hmem)]; rfl⟩
    split at hraw
    . next hcolon =>
      rw [List.contains_iff_mem] at hcolon
      split at hraw
      . cases hraw
      . next url hurl =>
        split at hraw
        . cases hraw
        . rw [← Except.ok.inj hraw]
          split at hurl
          . next hopen =>
            rw [Bool.and_eq_true, decide_eq_true_iff, decide_eq_true_iff] at hopen
            rcases bracketed_of_ends hopen.1 hopen.2 hcolon with ⟨literal, hliteral⟩
            rw [hliteral] at hurl hspecial
            refine address_normal h ?_ hurl
            intro c hc
            apply hspecial
            simp [hc]
          . exact address_normal h hspecial hurl
    . split at hraw
      . cases hraw
      . split at hraw
        . cases hraw
        . next url hurl =>
          have hlower := h.lower hurl
          rw [hlower] at hraw
          split at hraw
          . cases hraw
          . next hdomain =>
            cases hraw
            simp only [Bool.or_eq_true, decide_eq_true_iff, not_or, not_lt, Bool.not_eq_true,
              List.any_eq_false] at hdomain
            rcases hdomain with ⟨⟨hne, hsize⟩, hparts⟩
            refine domain_normal h hurl hne hsize ?_
            intro part hpart
            have hvalid := hparts part hpart
            simp only [Bool.not_eq_false', List.isEmpty_eq_false_iff] at hvalid
            exact ⟨hvalid.1.1, hvalid.1.2, hvalid.2⟩

end

/-!
Texts.
-/

structure NormalText (max : Nat) (text : String) : Prop where
  nonempty : text ≠ ""
  size : text.utf8ByteSize ≤ max
  clear : hasControls text = false
  trimmed : trim text = text

theorem size_of_sublist {text : String} {cs : List Char} (h : cs.Sublist text.toList)
    : (String.ofList cs).utf8ByteSize ≤ text.utf8ByteSize := by
  rw [← String.ofList_toList (s := text), String.utf8ByteSize_ofList, String.utf8ByteSize_ofList]
  exact String.utf8Len_le_of_sublist h

theorem trim_trim (text : String) : trim (trim text) = trim text := by
  unfold trim
  rw [String.toList_ofList]
  exact congrArg String.ofList (Strip.strip_strip Multipart.isSpace text.toList)

theorem size_trim (text : String) : (trim text).utf8ByteSize ≤ text.utf8ByteSize :=
  size_of_sublist (Strip.strip_sublist Multipart.isSpace text.toList)

theorem textFilter_normal {raw : List (String × JsValue)} {key : String} {max : Nat} {text : String}
    (h : textFilter raw key max = .ok (some text)) : NormalText max text := by
  unfold textFilter at h
  dsimp only at h
  split at h
  . cases h
  . cases h
  . next value hvalue =>
    split at h
    . next hbounded =>
      rw [Bool.and_eq_true, decide_eq_true_iff, Bool.not_eq_true'] at hbounded
      unfold truthy at h
      split at h
      . cases h
      . next hne =>
        cases h
        refine {
          nonempty := hne
          size := Nat.le_trans (size_trim value) hbounded.1
          clear := ?_
          trimmed := trim_trim value
        }
        have hclear := List.any_eq_false.mp hbounded.2
        unfold hasControls trim
        rw [String.toList_ofList, List.any_eq_false]
        exact fun c hc => hclear c ((Strip.strip_sublist Multipart.isSpace value.toList).subset hc)
    . cases h
  . cases h

theorem asciiLower_cases (c : Char)
    : Text.asciiLower c = c ∨ (65 ≤ c.toNat ∧ c.toNat ≤ 90) ∧ (Text.asciiLower c).toNat = c.toNat + 32 := by
  unfold Text.asciiLower
  split
  . next h =>
    have hrange : 65 ≤ c.toNat ∧ c.toNat ≤ 90 := h
    exact .inr ⟨hrange, Text.toNat_ofAscii (by omega)⟩
  . exact .inl rfl

theorem isSpace_asciiLower (c : Char) : Multipart.isSpace (Text.asciiLower c) = Multipart.isSpace c := by
  rcases asciiLower_cases c with h | ⟨hrange, h⟩
  . rw [h]
  . unfold Multipart.isSpace
    rw [h, Bool.eq_iff_iff]
    simp only [Bool.or_eq_true, Bool.and_eq_true, decide_eq_true_iff]
    omega

theorem size_lower (text : String) : (Text.toAsciiLowercase text).utf8ByteSize = text.utf8ByteSize := by
  have hmap : ∀ cs : List Char, String.utf8Len (cs.map Text.asciiLower) = String.utf8Len cs := by
    intro cs
    induction cs with
    | nil => rfl
    | cons c cs ih =>
      have hsize : (Text.asciiLower c).utf8Size = c.utf8Size := by
        rcases asciiLower_cases c with h | ⟨hrange, h⟩
        . rw [h]
        . rw [Char.utf8Size_eq_one_iff.mpr, Char.utf8Size_eq_one_iff.mpr]
          . change c.toNat ≤ 127
            omega
          . change (Text.asciiLower c).toNat ≤ 127
            omega
      rw [List.map_cons, String.utf8Len_cons, String.utf8Len_cons, ih, hsize]
  unfold Text.toAsciiLowercase
  rw [String.utf8ByteSize_ofList, hmap, ← String.utf8ByteSize_ofList, String.ofList_toList]

theorem NormalText.lower {max : Nat} {text : String} (h : NormalText max text)
    : NormalText max (Text.toAsciiLowercase text) where
  nonempty := by
    rw [ne_eq, Text.toAsciiLowercase_eq_empty]
    exact h.nonempty
  size := by
    rw [size_lower]
    exact h.size
  clear := by
    have hclear := List.any_eq_false.mp h.clear
    unfold hasControls Text.toAsciiLowercase
    rw [String.toList_ofList, List.any_map, List.any_eq_false]
    intro c hc hcontrol
    apply hclear c hc
    rcases asciiLower_cases c with heq | ⟨hrange, heq⟩
    . rwa [Function.comp_apply, heq] at hcontrol
    . rw [Function.comp_apply, heq] at hcontrol
      simp only [Bool.or_eq_true, Bool.and_eq_true, decide_eq_true_iff] at hcontrol ⊢
      omega
  trimmed := by
    have htrimmed : Strip.strip Multipart.isSpace text.toList = text.toList := by
      have := congrArg String.toList h.trimmed
      unfold trim at this
      rwa [String.toList_ofList] at this
    unfold trim Text.toAsciiLowercase
    rw [String.toList_ofList, show Multipart.trimSpace (text.toList.map Text.asciiLower)
      = Strip.strip Multipart.isSpace (text.toList.map Text.asciiLower) from rfl,
      Strip.strip_map isSpace_asciiLower, htrimmed]

/-!
Filters.
-/

structure Normal (newUrl : String → Option Url) (f : Filters) : Prop where
  app : ∀ app ∈ f.app, NormalText 256 app ∧ Text.toAsciiLowercase app = app
  title : ∀ title ∈ f.title, NormalText 1024 title
  host : ∀ host ∈ f.urlHost, NormalHost newUrl host
  mode : f.appMode = "exact" ∨ f.appMode = "prefix" ∧ f.app.isSome = true
  context : f.context = "all" ∨ f.context = "known" ∨ f.context = "unknown"
  unknown : f.context = "unknown" → f.app = none ∧ f.title = none ∧ f.urlHost = none

variable {newUrl : String → Option Url}

theorem normal_default : Normal newUrl Filters.default where
  app _ h := by cases h
  title _ h := by cases h
  host _ h := by cases h
  mode := .inl rfl
  context := .inl rfl
  unknown _ := ⟨rfl, rfl, rfl⟩

-- What the checks of the mode and the context leave.
theorem normal_of_checked {app title host : Option String} {mode context : String}
    (happ : ∀ text ∈ app, NormalText 256 text) (htitle : ∀ text ∈ title, NormalText 1024 text)
    (hhost : ∀ text ∈ host, NormalHost newUrl text)
    (hmode : (!(["exact", "prefix"].contains mode) || !(["all", "known", "unknown"].contains context)) ≠ true)
    (hchosen : (app.isNone && decide (mode ≠ "exact")) ≠ true)
    (hunknown : (decide (context = "unknown") && (app.isSome || title.isSome || host.isSome)) ≠ true)
    : Normal newUrl {
      app := app.map Text.toAsciiLowercase, appMode := mode, title, urlHost := host, context
    } where
  app := by
    intro text htext
    rcases Option.map_eq_some_iff.mp htext with ⟨raw, hraw, rfl⟩
    exact ⟨(happ raw hraw).lower, Text.toAsciiLowercase_idem raw⟩
  title := htitle
  host := hhost
  mode := by
    simp only [ne_eq, Bool.or_eq_true, Bool.not_eq_true', not_or, Bool.not_eq_false] at hmode
    have hvalue : mode = "exact" ∨ mode = "prefix" := by simpa using hmode.1
    rcases hvalue with rfl | rfl
    . exact .inl rfl
    . right
      refine ⟨rfl, ?_⟩
      cases app with
      | none => exact absurd rfl hchosen
      | some text => rfl
  context := by
    simp only [ne_eq, Bool.or_eq_true, Bool.not_eq_true', not_or, Bool.not_eq_false] at hmode
    simpa using hmode.2
  unknown := by
    intro hcontext
    dsimp only at hcontext
    rw [hcontext] at hunknown
    cases app with
    | some text => exact absurd rfl hunknown
    | none =>
      cases title with
      | some text => exact absurd rfl hunknown
      | none =>
        cases host with
        | some text => exact absurd rfl hunknown
        | none => exact ⟨rfl, rfl, rfl⟩

theorem parseRecallFilters_normal (hurl : Whatwg newUrl) {raw : JsValue} {f : Filters}
    (h : parseRecallFilters newUrl raw = .ok f) : Normal newUrl f := by
  unfold parseRecallFilters at h
  simp only [bind, Except.bind, pure, Except.pure, throw, throwThe, MonadExceptOf.throw] at h
  split at h
  . cases h
    exact normal_default
  . cases h
    exact normal_default
  . next raw =>
    split at h
    . cases h
    . split at h
      . cases h
      . next app happ =>
        split at h
        . cases h
        . next title htitle =>
          split at h
          . cases h
          . next host hhost =>
            have happ : ∀ text ∈ app, NormalText 256 text := by
              intro text htext
              rw [Option.mem_def.mp htext] at happ
              exact textFilter_normal happ
            have htitle : ∀ text ∈ title, NormalText 1024 text := by
              intro text htext
              rw [Option.mem_def.mp htext] at htitle
              exact textFilter_normal htitle
            split at h
            . split at h
              . cases h
              . next hmode =>
                split at h
                . cases h
                . next hchosen =>
                  split at h
                  . cases h
                  . next hunknown =>
                    split at h
                    . cases h
                      have hstored : ∀ text ∈ none, NormalHost newUrl text := fun _ hnone => by cases hnone
                      exact normal_of_checked happ htitle hstored hmode hchosen hunknown
                    . split at h
                      . cases h
                      . next normal hnormal =>
                        cases h
                        have hstored : ∀ text ∈ some normal, NormalHost newUrl text := by
                          intro text htext
                          cases htext
                          exact normalizeRecallHost_normal hurl hnormal
                        exact normal_of_checked happ htitle hstored hmode hchosen hunknown
            . cases h
  . cases h

-- What a filter is restored from.
def Stands (value : JsValue) : Option String → Prop
  | some text => value = .string text
  | none => value = .undefined ∨ value = .null

theorem textFilter_of_stands {raw : List (String × JsValue)} {key : String} {max : Nat} {text : Option String}
    (hstands : Stands (JsValue.field raw key) text) (h : ∀ t ∈ text, NormalText max t)
    : textFilter raw key max = .ok text := by
  unfold textFilter
  cases text with
  | none =>
    rcases hstands with hvalue | hvalue
    . rw [hvalue]
    . rw [hvalue]
  | some t =>
    have hnormal := h t rfl
    rw [show JsValue.field raw key = .string t from hstands]
    simp [hnormal.size, hnormal.clear, hnormal.trimmed, truthy, hnormal.nonempty]

theorem NormalHost.text {host : String} (h : NormalHost newUrl host) : NormalText 253 host where
  nonempty := h.nonempty
  size := h.size
  clear := hasControls_plain h.plain
  trimmed := trim_eq_self h.plain

/-!
The checks that both sides make of the mode and the context.
-/

section

variable {f : Filters}

theorem mode_known (h : f.appMode = "exact" ∨ f.appMode = "prefix" ∧ f.app.isSome = true)
    : ["exact", "prefix"].contains f.appMode = true := by
  rcases h with h | ⟨h, _⟩
  . simp [h]
  . simp [h]

theorem context_known (h : f.context = "all" ∨ f.context = "known" ∨ f.context = "unknown")
    : ["all", "known", "unknown"].contains f.context = true := by
  simpa using h

theorem mode_chosen (h : f.appMode = "exact" ∨ f.appMode = "prefix" ∧ f.app.isSome = true)
    : (f.app.isNone && decide (f.appMode ≠ "exact")) = false := by
  rcases h with h | ⟨_, happ⟩
  . simp [h]
  . rcases Option.isSome_iff_exists.mp happ with ⟨app, hf⟩
    simp [hf]

theorem unknown_alone (h : f.context = "unknown" → f.app = none ∧ f.title = none ∧ f.urlHost = none)
    : (decide (f.context = "unknown") && (f.app.isSome || f.title.isSome || f.urlHost.isSome)) = false := by
  by_cases hcontext : f.context = "unknown"
  . rcases h hcontext with ⟨happ, htitle, hhost⟩
    simp [happ, htitle, hhost]
  . simp [hcontext]

end

-- Fields are restored to the filters that they stand for. Defaults may be left out.
theorem parseRecallFilters_of_normal {f : Filters} (h : Normal newUrl f) {raw : List (String × JsValue)}
    (hkeys : ∀ field ∈ raw, field.1 ∈ filterKeys) (happ : Stands (JsValue.field raw "app") f.app)
    (htitle : Stands (JsValue.field raw "title") f.title)
    (hhost : Stands (JsValue.field raw "url_host") f.urlHost)
    (hmode : (JsValue.field raw "app_mode").orString "exact" = .string f.appMode)
    (hcontext : (JsValue.field raw "context").orString "all" = .string f.context)
    : parseRecallFilters newUrl (.object raw) = .ok f := by
  have hallowed : raw.any (fun field => !(filterKeys.contains field.1)) = false := by
    rw [List.any_eq_false]
    intro field hfield
    rw [List.contains_iff_mem.mpr (hkeys field hfield)]
    exact Bool.false_ne_true
  have hmodes : (!(["exact", "prefix"].contains f.appMode)
      || !(["all", "known", "unknown"].contains f.context)) = false := by
    rw [mode_known h.mode, context_known h.context]
    rfl
  have hlower : f.app.map Text.toAsciiLowercase = f.app := by
    cases hf : f.app with
    | none => rfl
    | some app => rw [Option.map_some, (h.app app hf).2]
  unfold parseRecallFilters
  simp only [bind, Except.bind, pure, Except.pure, throw, throwThe, MonadExceptOf.throw]
  rw [hallowed, if_neg Bool.false_ne_true, textFilter_of_stands happ (fun t ht => (h.app t ht).1),
    textFilter_of_stands htitle h.title, textFilter_of_stands hhost (fun t ht => (h.host t ht).text), hmode,
    hcontext]
  dsimp only
  rw [hmodes, if_neg Bool.false_ne_true, mode_chosen h.mode, if_neg Bool.false_ne_true,
    unknown_alone h.unknown, if_neg Bool.false_ne_true, hlower]
  cases hf : f.urlHost with
  | none =>
    dsimp only
    rw [← hf]
  | some host =>
    dsimp only
    rw [(h.host host hf).again]
    dsimp only
    rw [← hf]

-- Restored filters are restored from themselves.
theorem parseRecallFilters_toValue {f : Filters} (h : Normal newUrl f)
    : parseRecallFilters newUrl (toValue f) = .ok f := by
  have hstands : ∀ text : Option String, Stands (JsValue.ofOption text) text := by
    intro text
    cases text with
    | none => exact .inr rfl
    | some t => rfl
  apply parseRecallFilters_of_normal h
  . simp [filterKeys]
  . exact hstands f.app
  . exact hstands f.title
  . exact hstands f.urlHost
  . rfl
  . rfl

end RecallFilters

end Vantyr
