import Vantyr.Data.JsonText
import Vantyr.Server.Recall.Pages

/-!
This module contains the cursors by which a client asks for the next page of frames. A cursor carries
the whole context of the first page, and a request with a cursor has to agree with it.
-/

namespace Vantyr

namespace Recall

-- A floating point number with 32 bits, by its bits.
structure F32 where
  bits : BitVec 32
  deriving DecidableEq, Repr

namespace F32

def isZero (x : F32) : Bool :=
  x.bits.toNat % 2 ^ 31 = 0

def isFinite (x : F32) : Bool :=
  x.bits.toNat / 2 ^ 23 % 2 ^ 8 ≠ 255

-- `x >= 0.0` for a number that is finite; there is a negative zero.
def isNonneg (x : F32) : Bool :=
  x.bits.toNat < 2 ^ 31 || x.isZero

end F32

-- Times are counted in nanoseconds here. `toRfc3339` and `serialize` differ in how they write the zone.
structure Chrono where
  parseFromRfc3339 : String → Option Int
  toRfc3339 : Int → String
  serialize : Int → String
  deserialize : String → Option Int

structure HistoryCursor where
  version : Nat
  agentId : Uuid
  query : Option String
  start : Option Int
  stop : Int
  monitor : Option Int
  scope : String
  sort : String
  position : ScreenFramePosition F32
  filters : Filters

/-!
The text of a cursor.
-/

/--
The crates `serde_json` and `base64`: JSON texts and their URL-safe form.
-/
structure CursorText where
  toVec : Json → List UInt8
  fromSlice : List UInt8 → Option Json
  encode : List UInt8 → String
  decode : String → Option (List UInt8)

namespace Filters

def toJson (f : Filters) : Json :=
  .object [
    ("app", f.app.elim .null .string),
    ("app_mode", .string f.appMode),
    ("title", f.title.elim .null .string),
    ("url_host", f.urlHost.elim .null .string),
    ("context", .string f.context)
  ]

end Filters

def positionToJson (chrono : Chrono) (p : ScreenFramePosition F32) : Json :=
  .object [
    ("captured_at", .string (chrono.serialize p.capturedAt)),
    ("id", .ofInt p.id),
    ("rank", p.rank.elim .null (fun r => .number (.float r.bits.toNat)))
  ]

def HistoryCursor.toJson (chrono : Chrono) (c : HistoryCursor) : Json :=
  .object [
    ("version", .ofNat c.version),
    ("agent_id", .string c.agentId.text),
    ("query", c.query.elim .null .string),
    ("from", c.start.elim .null (fun t => .string (chrono.serialize t))),
    ("to", .string (chrono.serialize c.stop)),
    ("monitor", c.monitor.elim .null .ofInt),
    ("scope", .string c.scope),
    ("sort", .string c.sort),
    ("position", positionToJson chrono c.position),
    ("filters", c.filters.toJson)
  ]

/--
The fields of a struct that denies unknown fields, in the order of `names`, as a derived `Deserialize`
finds them. The last `defaults` of them may be missing from an array.
-/
def fieldsOf (names : List String) (defaults : Nat) : Json → Option (List (Option Json))
  | .object fields =>
    if fields.any (fun field => !names.contains field.1) then
      none
    else
      some (names.map (Fields.get? · fields))
  | .array items =>
    if items.length ≤ names.length ∧ names.length ≤ items.length + defaults then
      some (items.map some ++ List.replicate (names.length - items.length) none)
    else
      none
  | _ => none

def readTime (chrono : Chrono) (value : Json) : Option Int :=
  value.asStr.bind chrono.deserialize

def readI32 (value : Json) : Option Int :=
  value.asI64.filter (fun n => -2 ^ 31 ≤ n ∧ n < 2 ^ 31)

-- A number without a fraction is read as well.
def readF32 (ofInt : Int → F32) : Json → Option F32
  | .number (.float bits) => some ⟨BitVec.ofNat 32 bits⟩
  | .number (.posInt n) => some (ofInt n)
  | .number (.negInt n) => some (ofInt (-(n + 1)))
  | _ => none

def Filters.ofJson (value : Json) : Option Filters := do
  match ← fieldsOf ["app", "app_mode", "title", "url_host", "context"] 0 value with
  | [app, appMode, title, urlHost, context] =>
    return {
      app := ← Json.readOption Json.asStr app
      appMode := ← appMode.bind Json.asStr
      title := ← Json.readOption Json.asStr title
      urlHost := ← Json.readOption Json.asStr urlHost
      context := ← context.bind Json.asStr
    }
  | _ => none

def positionOfJson (chrono : Chrono) (ofInt : Int → F32) (value : Json)
    : Option (ScreenFramePosition F32) := do
  match ← fieldsOf ["captured_at", "id", "rank"] 0 value with
  | [capturedAt, id, rank] =>
    return {
      capturedAt := ← capturedAt.bind (readTime chrono)
      id := ← id.bind Json.asI64
      rank := ← Json.readOption (readF32 ofInt) rank
    }
  | _ => none

def HistoryCursor.ofJson (chrono : Chrono) (ofInt : Int → F32) (value : Json)
    : Option HistoryCursor := do
  let names := ["version", "agent_id", "query", "from", "to", "monitor", "scope", "sort", "position",
    "filters"]
  match ← fieldsOf names 1 value with
  | [version, agentId, query, start, stop, monitor, scope, sort, position, filters] =>
    return {
      version := ← (version.bind Json.asU64).filter (· < 2 ^ 8)
      agentId := ← (agentId.bind Json.asStr).bind Uuid.parse
      query := ← Json.readOption Json.asStr query
      start := ← Json.readOption (readTime chrono) start
      stop := ← stop.bind (readTime chrono)
      monitor := ← Json.readOption readI32 monitor
      scope := ← scope.bind Json.asStr
      sort := ← sort.bind Json.asStr
      position := ← position.bind (positionOfJson chrono ofInt)
      filters := ← filters.elim (some Filters.default) Filters.ofJson
    }
  | _ => none

/-!
The cursor of a request.
-/

-- The libraries a request is read with.
structure Formats where
  hosts : HostSyntax
  chrono : Chrono
  text : CursorText
  ofInt : Int → F32

def HistoryCursor.valid (hosts : HostSyntax) (c : HistoryCursor) : Bool :=
  (c.version = 1 || c.version = 2)
    && (c.filters.validate hosts).toBool
    && !(c.version = 1 && c.filters.active)
    && c.position.id > 0
    && c.start.all (fun start => start ≤ c.stop && start ≤ c.position.capturedAt)
    && c.position.capturedAt ≤ c.stop
    && c.monitor.all (0 ≤ ·)
    && (c.scope = "range" || c.scope = "retained")
    && decide (c.scope = "range") = c.start.isSome
    && match c.query with
      | none =>
        c.sort = "oldest" && c.scope = "range" && c.position.rank.isNone && !c.filters.active
      | some q =>
        q.utf8ByteSize ≤ 4096
          && (q ≠ ""
            || c.version = 2
              && c.filters.active
              && c.sort = "newest"
              && c.position.rank.any F32.isZero)
          && Text.trim q = q
          && (c.sort = "ranked" || c.sort = "newest")
          && c.position.rank.any (fun r => r.isFinite && r.isNonneg)

def decodeCursor (fmt : Formats) (raw : Option String) : Except String (Option HistoryCursor) :=
  match raw with
  | none => .ok none
  | some raw =>
    if 65536 < raw.utf8ByteSize then
      .error "invalid cursor"
    else
      match (fmt.text.decode raw).bind fmt.text.fromSlice |>.bind
          (HistoryCursor.ofJson fmt.chrono fmt.ofInt) with
      | none => .error "invalid cursor"
      | some c => if c.valid fmt.hosts then .ok (some c) else .error "invalid cursor"

structure ContextFilterQuery where
  app : Option String
  appMode : Option String
  title : Option String
  urlHost : Option String
  context : Option String

def normalApp (app : String) : Option String :=
  if Text.trim app = "" then none else some (Text.toAsciiLowercase (Text.trim app))

def normalTitle (title : String) : Option String :=
  if Text.trim title = "" then none else some (Text.trim title)

def normalHost (hosts : HostSyntax) (host : String) : Except String (Option String) :=
  if Text.trim host = "" then .ok none else (normalizeHost hosts (Text.trim host)).map some

def ContextFilterQuery.resolve (hosts : HostSyntax) (q : ContextFilterQuery)
    (previous : Option Filters) : Except String Filters :=
  let old := previous.getD Filters.default
  match q.urlHost.elim (.ok old.urlHost) (normalHost hosts) with
  | .error e => .error e
  | .ok urlHost =>
    let f : Filters := {
      app := q.app.elim old.app normalApp
      appMode := q.appMode.getD old.appMode
      title := q.title.elim old.title normalTitle
      urlHost
      context := q.context.getD old.context
    }
    if q.appMode.isSome && f.app.isNone then
      .error "app_mode requires app"
    else
      match f.validate hosts with
      | .error e => .error e
      | .ok () =>
        if previous.any (· ≠ f) then
          .error "cursor does not match context filters"
        else
          .ok f

def nanosPerDay : Int := 86400 * 10 ^ 9

def parseRange (chrono : Chrono) (now : Int) (start stop : Option String)
    : Except String (Int × Int) :=
  match stop.elim (some now) (fun s => chrono.parseFromRfc3339 (Text.trim s)) with
  | none => .error "invalid 'to' (expected RFC3339)"
  | some finish =>
    match start.elim (some (finish - nanosPerDay))
        (fun s => chrono.parseFromRfc3339 (Text.trim s)) with
    | none => .error "invalid 'from' (expected RFC3339)"
    | some begin =>
      if finish < begin then .error "'from' must be <= 'to'" else .ok (begin, finish)

-- The parameters of a request, apart from its cursor.
structure PageRequest where
  agentId : Uuid
  query : Option String
  start : Option String
  stop : Option String
  monitor : Option Int
  scope : Option String
  sort : Option String
  filters : ContextFilterQuery

def defaultSort (query : Option String) : String :=
  if query = some "" then "newest" else if query.isSome then "ranked" else "oldest"

def validSort (query : Option String) (sort : String) : Bool :=
  match query with
  | none => sort = "oldest"
  | some q => if q = "" then sort = "newest" else sort = "ranked" || sort = "newest"

def lowerBound (scope : String) (begin : Int) : Option Int :=
  if scope = "retained" then none else some begin

def filteredPageContext (fmt : Formats) (now : Int) (request : PageRequest) (raw : Option String)
    : Except String HistoryCursor :=
  match decodeCursor fmt raw with
  | .error e => .error e
  | .ok cursor =>
    match request.filters.resolve fmt.hosts (cursor.map (·.filters)) with
    | .error e => .error e
    | .ok filters =>
      let scope := (request.scope.or (cursor.map (·.scope))).getD "range"
      let sort := (request.sort.or (cursor.map (·.sort))).getD (defaultSort request.query)
      if request.query = some "" && !filters.active then
        .error "missing search query or context filters"
      else if !(scope = "range" || scope = "retained")
          || request.query.isNone && scope ≠ "range" then
        .error "invalid 'scope' (expected range or retained)"
      else if !validSort request.query sort then
        .error "invalid 'sort' (expected ranked or newest)"
      else if request.monitor.any (· < 0) then
        .error "invalid 'monitor' (must be non-negative)"
      else if scope = "retained" && request.start.isSome then
        .error "'from' is incompatible with scope=retained"
      else
        let start := request.start.or
          ((cursor.bind (·.start)).map fmt.chrono.toRfc3339)
        let stop := request.stop.or (cursor.map (fun c => fmt.chrono.toRfc3339 c.stop))
        match parseRange fmt.chrono now start stop with
        | .error e => .error e
        | .ok (begin, finish) =>
          let from? := lowerBound scope begin
          let monitor := request.monitor.or (cursor.bind (·.monitor))
          match cursor with
          | some c =>
            if c.agentId ≠ request.agentId
                || c.query ≠ request.query
                || c.start ≠ from?
                || c.stop ≠ finish
                || c.monitor ≠ monitor
                || c.scope ≠ scope
                || c.sort ≠ sort then
              .error "cursor does not match request filters"
            else
              .ok c
          | none =>
            .ok {
              version := 2
              agentId := request.agentId
              query := request.query
              start := from?
              stop := finish
              monitor
              scope
              sort
              position := { capturedAt := begin, id := 0, rank := none }
              filters
            }

def nextCursor (fmt : Formats) (context : HistoryCursor)
    (position : Option (ScreenFramePosition F32)) : Option String :=
  position.map (fun position =>
    fmt.text.encode (fmt.text.toVec ({ context with position }.toJson fmt.chrono)))

/-!
What the first page promises about its context.
-/

structure FirstPage (hosts : HostSyntax) (c : HistoryCursor) : Prop where
  version : c.version = 2
  filters : c.filters.validate hosts = .ok ()
  active : c.query = some "" → c.filters.active = true
  scope : c.scope = "range" ∧ (∃ begin, c.start = some begin ∧ begin ≤ c.stop)
    ∨ c.scope = "retained" ∧ c.start = none ∧ c.query ≠ none
  sort : validSort c.query c.sort = true
  monitor : ∀ m ∈ c.monitor, 0 ≤ m

theorem ok_of_guard {ε α : Type} {p : Prop} [Decidable p] {e : ε} {r : Except ε α} {x : α}
    (h : (if p then .error e else r) = .ok x) : ¬p ∧ r = .ok x := by
  split at h
  . contradiction
  . next hp => exact ⟨hp, h⟩

theorem parseRange_ok {chrono : Chrono} {now : Int} {start stop : Option String} {begin finish : Int}
    (h : parseRange chrono now start stop = .ok (begin, finish))
    : stop.elim (some now) (fun s => chrono.parseFromRfc3339 (Text.trim s)) = some finish
      ∧ start.elim (some (finish - nanosPerDay)) (fun s => chrono.parseFromRfc3339 (Text.trim s))
        = some begin
      ∧ begin ≤ finish := by
  unfold parseRange at h
  split at h
  . contradiction
  . next hstop =>
    split at h
    . contradiction
    . next hstart =>
      rcases ok_of_guard h with ⟨hle, hrange⟩
      cases hrange
      exact ⟨hstop, hstart, Int.not_lt.mp hle⟩

theorem resolve_ok {hosts : HostSyntax} {q : ContextFilterQuery} {previous : Option Filters}
    {f : Filters} (h : q.resolve hosts previous = .ok f)
    : f.validate hosts = .ok ()
      ∧ (∀ old, previous = some old → old = f)
      ∧ f.app = q.app.elim (previous.getD Filters.default).app normalApp
      ∧ f.appMode = q.appMode.getD (previous.getD Filters.default).appMode
      ∧ f.title = q.title.elim (previous.getD Filters.default).title normalTitle
      ∧ q.urlHost.elim (.ok (previous.getD Filters.default).urlHost) (normalHost hosts)
          = .ok f.urlHost
      ∧ f.context = q.context.getD (previous.getD Filters.default).context := by
  unfold ContextFilterQuery.resolve at h
  simp only at h
  split at h
  . contradiction
  . next urlHost hhost =>
    split at h
    . contradiction
    . split at h
      . contradiction
      . next hvalid =>
        split at h
        . contradiction
        . next hprevious =>
          cases h
          refine ⟨hvalid, ?_, rfl, rfl, rfl, hhost, rfl⟩
          intro old hold
          subst hold
          simpa using hprevious

theorem normalApp_idem {raw app : String} (h : normalApp raw = some app)
    : normalApp app = some app := by
  unfold normalApp at h
  split at h
  . contradiction
  . next hne =>
    rw [Option.some.injEq] at h
    subst h
    unfold normalApp
    rw [Text.trim_toAsciiLowercase, Text.trim_trim, if_neg, Text.toAsciiLowercase_idem]
    rw [Text.toAsciiLowercase_eq_empty]
    exact hne

theorem normalTitle_idem {raw title : String} (h : normalTitle raw = some title)
    : normalTitle title = some title := by
  unfold normalTitle at h
  split at h
  . contradiction
  . next hne =>
    rw [Option.some.injEq] at h
    subst h
    unfold normalTitle
    rw [Text.trim_trim, if_neg hne]

theorem normalHost_idem {hosts : HostSyntax} {host : String}
    (h : normalizeHost hosts host = .ok host) : normalHost hosts host = .ok (some host) := by
  rcases normalizeHost_ok h with ⟨hne, _, htrim⟩
  unfold normalHost
  rw [htrim, if_neg hne, h]
  rfl

/--
All that a page checks, with or without a cursor.
-/
structure PageChecks (fmt : Formats) (now : Int) (request : PageRequest) (cursor : Option HistoryCursor)
    (x : HistoryCursor) : Prop where
  agent : x.agentId = request.agentId
  query : x.query = request.query
  filters : request.filters.resolve fmt.hosts (cursor.map (·.filters)) = .ok x.filters
  active : x.query = some "" → x.filters.active = true
  scope : x.scope = (request.scope.or (cursor.map (·.scope))).getD "range"
  validScope : x.scope = "range" ∨ x.scope = "retained" ∧ x.query ≠ none
  sort : x.sort = (request.sort.or (cursor.map (·.sort))).getD (defaultSort request.query)
  validSort : validSort x.query x.sort = true
  monitor : x.monitor = request.monitor.or (cursor.bind (·.monitor))
  validMonitor : ∀ m ∈ request.monitor, 0 ≤ m
  retained : x.scope = "retained" → request.start = none
  range : ∃ begin, parseRange fmt.chrono now
      (request.start.or ((cursor.bind (·.start)).map fmt.chrono.toRfc3339))
      (request.stop.or (cursor.map (fun c => fmt.chrono.toRfc3339 c.stop))) = .ok (begin, x.stop)
    ∧ x.start = lowerBound x.scope begin

theorem filteredPageContext_ok {fmt : Formats} {now : Int} {request : PageRequest} {raw : Option String}
    {x : HistoryCursor} (h : filteredPageContext fmt now request raw = .ok x)
    : ∃ cursor, decodeCursor fmt raw = .ok cursor ∧ PageChecks fmt now request cursor x
      ∧ match cursor with
        | some c => c = x
        | none => x.version = 2 := by
  unfold filteredPageContext at h
  split at h
  . contradiction
  . next cursor hdecode =>
    refine ⟨cursor, hdecode, ?_⟩
    split at h
    . contradiction
    . next filters hfilters =>
      rcases ok_of_guard h with ⟨hactive, h⟩
      rcases ok_of_guard h with ⟨hscope, h⟩
      rcases ok_of_guard h with ⟨hsort, h⟩
      rcases ok_of_guard h with ⟨hmonitor, h⟩
      rcases ok_of_guard h with ⟨hretained, h⟩
      have hactive' : request.query = some "" → filters.active = true := by
        intro hquery
        simpa [hquery] using hactive
      have hvalid : validSort request.query
          ((request.sort.or (cursor.map (·.sort))).getD (defaultSort request.query)) = true := by
        simpa using hsort
      have hmonitor' : ∀ m ∈ request.monitor, 0 ≤ m := by
        intro m hm
        rw [Option.mem_def] at hm
        simpa [hm] using hmonitor
      have hscope' : (request.scope.or (cursor.map (·.scope))).getD "range" = "range"
          ∨ (request.scope.or (cursor.map (·.scope))).getD "range" = "retained"
            ∧ request.query ≠ none := by
        simp only [Bool.or_eq_true, Bool.not_eq_true', Bool.and_eq_true, not_or, not_and,
          Bool.not_eq_false, decide_eq_true_eq, Option.isNone_iff_eq_none] at hscope
        rcases hscope with ⟨hrange | hretained, hquery⟩
        . exact .inl hrange
        . refine .inr ⟨hretained, ?_⟩
          intro hnone
          have := hquery hnone
          simp [hretained] at this
      have hretained' : (request.scope.or (cursor.map (·.scope))).getD "range" = "retained"
          → request.start = none := by
        intro heq
        simpa [heq] using hretained
      dsimp only at h
      cases hrange : parseRange fmt.chrono now
          (request.start.or ((cursor.bind (·.start)).map fmt.chrono.toRfc3339))
          (request.stop.or (cursor.map (fun c => fmt.chrono.toRfc3339 c.stop))) with
      | error e =>
        rw [hrange] at h
        contradiction
      | ok range =>
        rw [hrange] at h
        cases cursor with
        | none =>
          cases h
          exact ⟨⟨rfl, rfl, hfilters, hactive', rfl, hscope', rfl, hvalid, rfl, hmonitor', hretained',
            range.1, hrange, rfl⟩, rfl⟩
        | some c =>
          rcases ok_of_guard h with ⟨hmatch, h⟩
          cases h
          simp only [Bool.or_eq_true, decide_eq_true_eq, not_or, not_not] at hmatch
          rcases hmatch with ⟨⟨⟨⟨⟨⟨hagent, hquery⟩, hstart⟩, hstop⟩, hmonitors⟩, hscopes⟩, hsorts⟩
          have hsame := (resolve_ok hfilters).2.1 x.filters rfl
          subst hsame
          rw [← hquery] at hactive' hscope'
          rw [← hsorts, ← hquery] at hvalid
          rw [← hscopes] at hscope' hretained'
          refine ⟨⟨hagent, hquery, hfilters, hactive', hscopes, hscope', hsorts, hvalid, hmonitors,
            hmonitor', hretained', range.1, ?_, ?_⟩, rfl⟩
          . rw [hstop]
            exact hrange
          . rw [hscopes]
            exact hstart

theorem first_page {fmt : Formats} {now : Int} {request : PageRequest} {c : HistoryCursor}
    (h : filteredPageContext fmt now request none = .ok c)
    : FirstPage fmt.hosts c
      ∧ c.query = request.query
      ∧ c.monitor = request.monitor
      ∧ request.filters.resolve fmt.hosts none = .ok c.filters := by
  rcases filteredPageContext_ok h with ⟨cursor, hdecode, hchecks, hversion⟩
  cases hdecode
  have hmonitor : c.monitor = request.monitor := by
    rw [hchecks.monitor]
    simp
  refine ⟨?_, hchecks.query, hmonitor, hchecks.filters⟩
  rcases hchecks.range with ⟨begin, hrange, hstart⟩
  exact {
    version := hversion
    filters := (resolve_ok hchecks.filters).1
    active := hchecks.active
    scope := by
      rcases hchecks.validScope with hscope | ⟨hscope, hquery⟩
      . refine .inl ⟨hscope, begin, ?_, (parseRange_ok hrange).2.2⟩
        simp [hstart, lowerBound, hscope]
      . refine .inr ⟨hscope, ?_, hquery⟩
        simp [hstart, lowerBound, hscope]
    sort := hchecks.validSort
    monitor := by
      rw [hmonitor]
      exact hchecks.validMonitor
  }

/-!
The text of a cursor is read back as the cursor.
-/

-- A time that is printed and read back exactly, in either of the two forms.
structure ExactTime (chrono : Chrono) (time : Int) : Prop where
  serialized : chrono.deserialize (chrono.serialize time) = some time
  size : (chrono.serialize time).utf8ByteSize ≤ 40
  printed : chrono.parseFromRfc3339 (Text.trim (chrono.toRfc3339 time)) = some time

/--
The round trips that are assumed of the libraries: of the times in the cursor, of its JSON text, and of
the form that the text has in a URL.
-/
structure ExactText (fmt : Formats) (c : HistoryCursor) : Prop where
  stop : ExactTime fmt.chrono c.stop
  start : ∀ time ∈ c.start, ExactTime fmt.chrono time
  capturedAt : ExactTime fmt.chrono c.position.capturedAt
  json : fmt.text.fromSlice (fmt.text.toVec (c.toJson fmt.chrono)) = some (c.toJson fmt.chrono)
  size : (fmt.text.toVec (c.toJson fmt.chrono)).length ≤ Json.renderedSize (c.toJson fmt.chrono)
  base64 : fmt.text.decode (fmt.text.encode (fmt.text.toVec (c.toJson fmt.chrono)))
    = some (fmt.text.toVec (c.toJson fmt.chrono))
  base64Size : (fmt.text.encode (fmt.text.toVec (c.toJson fmt.chrono))).utf8ByteSize
    ≤ 4 * (((fmt.text.toVec (c.toJson fmt.chrono)).length + 2) / 3)

theorem Filters.ofJson_toJson (f : Filters) : Filters.ofJson f.toJson = some f := by
  rcases f with ⟨app, appMode, title, urlHost, context⟩
  cases app <;> cases title <;> cases urlHost <;> rfl

theorem readF32_toJson (ofInt : Int → F32) (r : F32)
    : readF32 ofInt (.number (.float r.bits.toNat)) = some r := by
  simp [readF32]

theorem positionOfJson_toJson {chrono : Chrono} {ofInt : Int → F32} {p : ScreenFramePosition F32}
    (htime : chrono.deserialize (chrono.serialize p.capturedAt) = some p.capturedAt)
    (hid : p.id < 2 ^ 63) : positionOfJson chrono ofInt (positionToJson chrono p) = some p := by
  rcases p with ⟨capturedAt, id, rank⟩
  have hread : readTime chrono (.string (chrono.serialize capturedAt)) = some capturedAt := htime
  have hi64 : (Json.ofInt id).asI64 = some id := Json.asI64_ofInt hid
  have hfields : fieldsOf ["captured_at", "id", "rank"] 0
      (positionToJson chrono { capturedAt, id, rank })
        = some [some (.string (chrono.serialize capturedAt)), some (.ofInt id),
          some (rank.elim .null (fun r => .number (.float r.bits.toNat)))] := rfl
  unfold positionOfJson
  rw [hfields]
  cases rank with
  | none => simp [hread, hi64, Json.readOption]
  | some r => simp [hread, hi64, Json.readOption, readF32_toJson]

theorem readI32_ofInt {m : Int} (hlow : 0 ≤ m) (hhigh : m < 2 ^ 31)
    : readI32 (.ofInt m) = some m := by
  unfold readI32
  rw [Json.asI64_ofInt (by omega), Option.filter_some, if_pos]
  simp only [decide_eq_true_eq]
  omega

theorem HistoryCursor.ofJson_toJson {fmt : Formats} {c : HistoryCursor} (htext : ExactText fmt c)
    (hversion : c.version = 2) (hmonitor : ∀ m ∈ c.monitor, 0 ≤ m ∧ m < 2 ^ 31)
    (hid : c.position.id < 2 ^ 63)
    : HistoryCursor.ofJson fmt.chrono fmt.ofInt (c.toJson fmt.chrono) = some c := by
  have hposition := @positionOfJson_toJson fmt.chrono fmt.ofInt c.position
    htext.capturedAt.serialized hid
  have hstop : readTime fmt.chrono (.string (fmt.chrono.serialize c.stop)) = some c.stop :=
    htext.stop.serialized
  have hstart : Json.readOption (readTime fmt.chrono)
      (some (c.start.elim .null (fun t => .string (fmt.chrono.serialize t)))) = some c.start := by
    have := htext.start
    cases hstart : c.start with
    | none => rfl
    | some t =>
      have hread : readTime fmt.chrono (.string (fmt.chrono.serialize t)) = some t :=
        (this t hstart).serialized
      simp [Json.readOption, hread]
  have hquery : Json.readOption Json.asStr (some (c.query.elim .null .string)) = some c.query := by
    cases c.query <;> rfl
  have hmonitor' : Json.readOption readI32 (some (c.monitor.elim .null .ofInt)) = some c.monitor := by
    cases hm : c.monitor with
    | none => rfl
    | some m =>
      have hrange := hmonitor m hm
      have hread := readI32_ofInt hrange.1 hrange.2
      have hsome : Json.readOption readI32 (some (.ofInt m)) = (readI32 (.ofInt m)).map some := by
        cases m <;> rfl
      rw [Option.elim_some, hsome, hread]
      rfl
  have hfields : fieldsOf ["version", "agent_id", "query", "from", "to", "monitor", "scope", "sort",
      "position", "filters"] 1 (c.toJson fmt.chrono)
        = some [some (.ofNat c.version), some (.string c.agentId.text),
          some (c.query.elim .null .string),
          some (c.start.elim .null (fun t => .string (fmt.chrono.serialize t))),
          some (.string (fmt.chrono.serialize c.stop)), some (c.monitor.elim .null .ofInt),
          some (.string c.scope), some (.string c.sort),
          some (positionToJson fmt.chrono c.position), some c.filters.toJson] := rfl
  unfold HistoryCursor.ofJson
  simp only [hfields]
  simp only [Option.bind_eq_bind, Option.bind_some, hstart, hquery, hmonitor', hposition, hstop,
    Filters.ofJson_toJson, Option.elim_some, Json.asStr, Uuid.parse_text, Json.asU64_ofNat,
    Option.filter_some, hversion]
  rcases c with ⟨version, agentId, query, start, stop, monitor, scope, sort, position, filters⟩
  simp only at hversion
  subst hversion
  rfl

theorem size_text (id : Uuid) : id.text.utf8ByteSize ≤ 144 := by
  have hlength := Uuid.length_hyphenate (Hex.length_digits 32 id.toNat)
  have := Text.size_ofList_le (Uuid.hyphenate (Hex.digits 32 id.toNat))
  rw [hlength] at this
  exact this

theorem size_option {s : Option String} {n : Nat} (h : ∀ text ∈ s, text.utf8ByteSize ≤ n)
    : Json.renderedSize (s.elim .null .string) ≤ 6 * n + 4 := by
  cases s with
  | none => simp [Json.renderedSize]
  | some text =>
    have := h text rfl
    simp only [Option.elim_some, Json.renderedSize]
    omega

theorem size_validValue {s : Option String} {n : Nat} (h : Filters.validValue s n = true)
    : ∀ text ∈ s, text.utf8ByteSize ≤ n := by
  intro text htext
  rw [Option.mem_def] at htext
  rw [htext] at h
  simp only [Filters.validValue, Option.all_some, Bool.and_eq_true, decide_eq_true_eq] at h
  exact h.1.2

theorem size_filters {hosts : HostSyntax} {f : Filters} (h : f.Valid hosts)
    : Json.renderedSize f.toJson ≤ 14200 := by
  have happ := size_option (size_validValue h.app)
  have htitle := size_option (size_validValue h.title)
  have hhost := size_option (fun host hmem => (normalizeHost_ok (h.host host hmem)).2.1)
  have hmode : f.appMode.utf8ByteSize ≤ 6 := by
    rcases h.appMode with heq | heq <;> rw [heq] <;> decide
  have hcontext : f.context.utf8ByteSize ≤ 7 := by
    rcases h.context with heq | heq | heq <;> rw [heq] <;> decide
  have h1 : "app".utf8ByteSize = 3 := by decide
  have h2 : "app_mode".utf8ByteSize = 8 := by decide
  have h3 : "title".utf8ByteSize = 5 := by decide
  have h4 : "url_host".utf8ByteSize = 8 := by decide
  have h5 : "context".utf8ByteSize = 7 := by decide
  simp only [Filters.toJson, Json.renderedSize, Json.fieldsSize, h1, h2, h3, h4, h5]
  omega

theorem size_position {chrono : Chrono} {p : ScreenFramePosition F32}
    (h : (chrono.serialize p.capturedAt).utf8ByteSize ≤ 40)
    : Json.renderedSize (positionToJson chrono p) ≤ 420 := by
  have hid : Json.renderedSize (.ofInt p.id) = 24 := by
    cases p.id <;> rfl
  have hrank : Json.renderedSize (p.rank.elim .null (fun r => .number (.float r.bits.toNat))) ≤ 24 := by
    cases p.rank <;> simp [Json.renderedSize]
  have h1 : "captured_at".utf8ByteSize = 11 := by decide
  have h2 : "id".utf8ByteSize = 2 := by decide
  have h3 : "rank".utf8ByteSize = 4 := by decide
  simp only [positionToJson, Json.renderedSize, Json.fieldsSize, hid, h1, h2, h3]
  omega

theorem size_cursor {fmt : Formats} {c : HistoryCursor} (h : FirstPage fmt.hosts c)
    (htext : ExactText fmt c) (hquery : ∀ q ∈ c.query, q.utf8ByteSize ≤ 4096)
    : Json.renderedSize (c.toJson fmt.chrono) ≤ 42000 := by
  have hfilters := size_filters (Filters.valid_of_validate h.filters)
  have hposition := size_position htext.capturedAt.size
  have hagent := size_text c.agentId
  have hq := size_option hquery
  have hstart : Json.renderedSize (c.start.elim .null (fun t => .string (fmt.chrono.serialize t)))
      ≤ 242 := by
    have := htext.start
    cases hstart : c.start with
    | none => simp [Json.renderedSize]
    | some t =>
      have := (this t hstart).size
      simp only [Option.elim_some, Json.renderedSize]
      omega
  have hstop := htext.stop.size
  have hmonitor : Json.renderedSize (c.monitor.elim .null .ofInt) ≤ 24 := by
    cases c.monitor with
    | none => simp [Json.renderedSize]
    | some m => cases m <;> simp [Json.ofInt, Json.renderedSize]
  have hscope : c.scope.utf8ByteSize ≤ 8 := by
    rcases h.scope with ⟨heq, _⟩ | ⟨heq, _⟩ <;> rw [heq] <;> decide
  have hsort : c.sort.utf8ByteSize ≤ 6 := by
    have := h.sort
    unfold validSort at this
    split at this
    . rw [decide_eq_true_eq] at this
      rw [this]
      decide
    . split at this
      . rw [decide_eq_true_eq] at this
        rw [this]
        decide
      . rw [Bool.or_eq_true, decide_eq_true_eq, decide_eq_true_eq] at this
        rcases this with heq | heq <;> rw [heq] <;> decide
  have h1 : "version".utf8ByteSize = 7 := by decide
  have h2 : "agent_id".utf8ByteSize = 8 := by decide
  have h3 : "query".utf8ByteSize = 5 := by decide
  have h4 : "from".utf8ByteSize = 4 := by decide
  have h5 : "to".utf8ByteSize = 2 := by decide
  have h6 : "monitor".utf8ByteSize = 7 := by decide
  have h7 : "scope".utf8ByteSize = 5 := by decide
  have h8 : "sort".utf8ByteSize = 4 := by decide
  have h9 : "position".utf8ByteSize = 8 := by decide
  have h10 : "filters".utf8ByteSize = 7 := by decide
  simp only [HistoryCursor.toJson, Json.renderedSize, Json.fieldsSize, Json.ofNat, h1, h2, h3, h4, h5, h6, h7,
    h8, h9, h10]
  omega

/-!
Positions that a page can end with.
-/

structure PagePosition (c : HistoryCursor) (p : ScreenFramePosition F32) : Prop where
  id : 0 < p.id ∧ p.id < 2 ^ 63
  start : ∀ start ∈ c.start, start ≤ p.capturedAt
  stop : p.capturedAt ≤ c.stop
  timeline : c.query = none → p.rank = none
  search : c.query ≠ none → ∃ r, p.rank = some r ∧ r.isFinite = true ∧ r.isNonneg = true
  context : c.query = some "" → ∃ r, p.rank = some r ∧ r.isZero = true

theorem valid_position {hosts : HostSyntax} {c : HistoryCursor} (h : FirstPage hosts c)
    (hquery : ∀ q ∈ c.query, Text.trim q = q ∧ q.utf8ByteSize ≤ 4096)
    (hinactive : c.query = none → c.filters.active = false) {p : ScreenFramePosition F32}
    (hp : PagePosition c p) : ({ c with position := p } : HistoryCursor).valid hosts = true := by
  have hsort := h.sort
  unfold HistoryCursor.valid
  simp only [h.version, h.filters, Except.toBool, Bool.and_eq_true, decide_eq_true_eq,
    Nat.reduceEqDiff, decide_false, decide_true, Bool.false_or, Bool.false_and, Bool.not_false,
    and_true, true_and]
  refine ⟨⟨⟨⟨⟨⟨hp.id.1, ?_⟩, hp.stop⟩, ?_⟩, ?_⟩, ?_⟩, ?_⟩
  . rcases h.scope with ⟨_, begin, hstart, hle⟩ | ⟨_, hstart, _⟩
    . have := hp.start begin hstart
      simp [hstart, hle, this]
    . simp [hstart]
  . rw [Option.all_eq_true]
    intro m hm
    simpa using h.monitor m hm
  . rcases h.scope with ⟨hscope, _⟩ | ⟨hscope, _⟩ <;> simp [hscope]
  . rcases h.scope with ⟨hscope, begin, hstart, _⟩ | ⟨hscope, hstart, _⟩ <;> simp [hscope, hstart]
  . cases hq : c.query with
    | none =>
      rw [hq] at hsort
      have hscope : c.scope = "range" := by
        rcases h.scope with ⟨hscope, _⟩ | ⟨_, _, hsome⟩
        . exact hscope
        . exact absurd hq hsome
      have hsort : c.sort = "oldest" := by simpa [validSort] using hsort
      simp [hsort, hscope, hp.timeline hq, hinactive hq]
    | some q =>
      rw [hq] at hsort
      have htrim := hquery q hq
      rcases hp.search (by rw [hq]; simp) with ⟨r, hrank, hfinite, hnonneg⟩
      by_cases hempty : q = ""
      . subst hempty
        rcases hp.context hq with ⟨r', hrank', hzero⟩
        rw [hrank] at hrank'
        cases hrank'
        have hsort : c.sort = "newest" := by simpa [validSort] using hsort
        simp [hsort, hrank, hfinite, hnonneg, hzero, h.active hq, htrim]
      . have hsort : c.sort = "ranked" ∨ c.sort = "newest" := by
          simpa [validSort, hempty] using hsort
        simp [hsort, hrank, hfinite, hnonneg, hempty, htrim]

theorem FirstPage.setPosition {hosts : HostSyntax} {c : HistoryCursor} (h : FirstPage hosts c)
    (position : ScreenFramePosition F32) : FirstPage hosts { c with position } where
  version := h.version
  filters := h.filters
  active := h.active
  scope := h.scope
  sort := h.sort
  monitor := h.monitor

theorem decodeCursor_encode {fmt : Formats} {c : HistoryCursor} (h : FirstPage fmt.hosts c)
    (htext : ExactText fmt c) (hquery : ∀ q ∈ c.query, q.utf8ByteSize ≤ 4096) (hmonitor : ∀ m ∈ c.monitor, m < 2 ^ 31)
    (hid : c.position.id < 2 ^ 63)
    : decodeCursor fmt (some (fmt.text.encode (fmt.text.toVec (c.toJson fmt.chrono))))
        = if c.valid fmt.hosts then .ok (some c) else .error "invalid cursor" := by
  have hsize := size_cursor h htext hquery
  have hvec := htext.size
  have hraw := htext.base64Size
  have hread := HistoryCursor.ofJson_toJson htext h.version
    (fun m hm => ⟨h.monitor m hm, hmonitor m hm⟩) hid
  unfold decodeCursor
  simp only
  rw [if_neg (by omega), htext.base64, Option.bind_some, htext.json, Option.bind_some, hread]

/-!
The requests that a cursor belongs to.
-/

/--
Every parameter that is present means the same as it does in the context of the cursor.
-/
structure Agrees (fmt : Formats) (c : HistoryCursor) (request : PageRequest) : Prop where
  agent : request.agentId = c.agentId
  query : request.query = c.query
  start : ∀ s ∈ request.start, ∃ time,
    fmt.chrono.parseFromRfc3339 (Text.trim s) = some time ∧ c.start = some time
  stop : ∀ s ∈ request.stop, fmt.chrono.parseFromRfc3339 (Text.trim s) = some c.stop
  monitor : ∀ m ∈ request.monitor, c.monitor = some m
  scope : ∀ s ∈ request.scope, s = c.scope
  sort : ∀ s ∈ request.sort, s = c.sort
  app : ∀ app ∈ request.filters.app, normalApp app = c.filters.app
  appMode : ∀ mode ∈ request.filters.appMode, mode = c.filters.appMode
  title : ∀ title ∈ request.filters.title, normalTitle title = c.filters.title
  urlHost : ∀ host ∈ request.filters.urlHost, normalHost fmt.hosts host = .ok c.filters.urlHost
  context : ∀ context ∈ request.filters.context, context = c.filters.context

theorem elim_eq {α β : Type} {o : Option α} {f : α → β} {b : β} (h : ∀ a ∈ o, f a = b)
    : o.elim b f = b := by
  cases o with
  | none => rfl
  | some a => exact h a rfl

theorem getD_eq {α : Type} {o : Option α} {b : α} (h : ∀ a ∈ o, a = b) : o.getD b = b := by
  cases o with
  | none => rfl
  | some a => exact h a rfl

theorem resolve_agrees {fmt : Formats} {c : HistoryCursor} {request : PageRequest}
    (h : Agrees fmt c request) (hfilters : c.filters.validate fmt.hosts = .ok ())
    (happ : request.filters.appMode ≠ none → c.filters.app ≠ none)
    : request.filters.resolve fmt.hosts (some c.filters) = .ok c.filters := by
  have hold : (some c.filters).getD Filters.default = c.filters := rfl
  have hhost : request.filters.urlHost.elim (.ok c.filters.urlHost) (normalHost fmt.hosts)
      = .ok c.filters.urlHost := elim_eq h.urlHost
  have hmode : (request.filters.appMode.isSome && c.filters.app.isNone) = false := by
    cases hm : request.filters.appMode with
    | none => rfl
    | some mode =>
      have := happ (by rw [hm]; simp)
      simpa [Option.isSome_iff_ne_none] using this
  unfold ContextFilterQuery.resolve
  simp only [hold, hhost, elim_eq h.app, elim_eq h.title, getD_eq h.appMode, getD_eq h.context,
    hmode, hfilters]
  simp

theorem or_eq {α : Type} {o : Option α} {b : α} (h : ∀ a ∈ o, a = b) : o.or (some b) = some b := by
  cases o with
  | none => rfl
  | some a => rw [h a rfl]; rfl

theorem parseRange_agrees {fmt : Formats} {c : HistoryCursor} {request : PageRequest} (now : Int)
    (h : Agrees fmt c request) (hc : FirstPage fmt.hosts c) (htext : ExactText fmt c)
    : ∃ begin, parseRange fmt.chrono now (request.start.or (c.start.map fmt.chrono.toRfc3339))
          (request.stop.or (some (fmt.chrono.toRfc3339 c.stop))) = .ok (begin, c.stop)
        ∧ lowerBound c.scope begin = c.start := by
  have hstop : (request.stop.or (some (fmt.chrono.toRfc3339 c.stop))).elim (some now)
      (fun s => fmt.chrono.parseFromRfc3339 (Text.trim s)) = some c.stop := by
    cases hs : request.stop with
    | none => exact htext.stop.printed
    | some s => exact h.stop s hs
  rcases hc.scope with ⟨hscope, begin, hstart, hle⟩ | ⟨hscope, hstart, _⟩
  . have hbegin : (request.start.or (c.start.map fmt.chrono.toRfc3339)).elim
        (some (c.stop - nanosPerDay)) (fun s => fmt.chrono.parseFromRfc3339 (Text.trim s))
          = some begin := by
      rw [hstart]
      cases hs : request.start with
      | none => exact (htext.start begin hstart).printed
      | some s =>
        rcases h.start s hs with ⟨time, hparse, htime⟩
        rw [hstart] at htime
        cases htime
        exact hparse
    refine ⟨begin, ?_, ?_⟩
    . unfold parseRange
      rw [hstop]
      simp only [hbegin]
      rw [if_neg (by omega)]
    . rw [hscope, hstart]
      rfl
  . have hnone : request.start = none := by
      cases hs : request.start with
      | none => rfl
      | some s =>
        rcases h.start s hs with ⟨time, _, htime⟩
        rw [hstart] at htime
        contradiction
    refine ⟨c.stop - nanosPerDay, ?_, ?_⟩
    . unfold parseRange
      rw [hstop, hnone, hstart]
      simp only [Option.map_none, Option.or_none, Option.elim_none]
      rw [if_neg]
      unfold nanosPerDay
      omega
    . rw [hscope, hstart]
      rfl

theorem filteredPageContext_agrees {fmt : Formats} {c : HistoryCursor} {request : PageRequest}
    {raw : String} (now : Int) (hdecode : decodeCursor fmt (some raw) = .ok (some c))
    (hc : FirstPage fmt.hosts c) (htext : ExactText fmt c) (h : Agrees fmt c request)
    (happ : request.filters.appMode ≠ none → c.filters.app ≠ none)
    : filteredPageContext fmt now request (some raw) = .ok c := by
  rcases parseRange_agrees now h hc htext with ⟨begin, hrange, hstart⟩
  have hscope : (request.scope.or (some c.scope)).getD "range" = c.scope := by
    rw [or_eq h.scope]
    rfl
  have hsort : (request.sort.or (some c.sort)).getD (defaultSort c.query) = c.sort := by
    rw [or_eq h.sort]
    rfl
  have hmonitor : request.monitor.or c.monitor = c.monitor := by
    cases hm : request.monitor with
    | none => rfl
    | some m =>
      rw [h.monitor m hm]
      rfl
  unfold filteredPageContext
  simp only [hdecode, Option.map_some, Option.bind_some, resolve_agrees h hc.filters happ, hscope,
    hsort, hmonitor, hrange, hstart, h.query, h.agent]
  rw [if_neg, if_neg, if_neg, if_neg, if_neg, if_neg]
  . simp
  . -- A lower bound only goes with the scope that has one.
    simp only [Bool.and_eq_true, decide_eq_true_eq, not_and, Bool.not_eq_true,
      Option.isSome_eq_false_iff, Option.isNone_iff_eq_none]
    intro hretained
    cases hs : request.start with
    | none => rfl
    | some s =>
      rcases h.start s hs with ⟨time, _, htime⟩
      rcases hc.scope with ⟨hrange', _⟩ | ⟨_, hnone, _⟩
      . rw [hretained] at hrange'
        contradiction
      . rw [hnone] at htime
        contradiction
  . cases hm : request.monitor with
    | none => simp
    | some m =>
      have := hc.monitor m (h.monitor m hm)
      simp only [Option.any_some, decide_eq_true_eq]
      omega
  . simp [hc.sort]
  . rcases hc.scope with ⟨heq, _⟩ | ⟨heq, _, hsome⟩
    . simp [heq]
    . simp [heq, hsome]
  . simp only [Bool.and_eq_true, decide_eq_true_eq, Bool.not_eq_true', not_and, Bool.not_eq_false]
    exact hc.active

theorem agrees_of_ok {fmt : Formats} {c x : HistoryCursor} {request : PageRequest} {raw : String}
    {now : Int} (hdecode : decodeCursor fmt (some raw) = .ok (some c))
    (h : filteredPageContext fmt now request (some raw) = .ok x) : Agrees fmt c request := by
  rcases filteredPageContext_ok h with ⟨cursor, hcursor, hchecks, hsame⟩
  rw [hdecode] at hcursor
  cases hcursor
  subst hsame
  rcases hchecks.range with ⟨begin, hrange, hstart⟩
  rcases parseRange_ok hrange with ⟨hparseStop, hparseStart, _⟩
  rcases resolve_ok hchecks.filters with ⟨_, _, happ, hmode, htitle, hhost, hcontext⟩
  exact {
    agent := hchecks.agent.symm
    query := hchecks.query.symm
    start := by
      intro s hs
      rw [Option.mem_def] at hs
      rw [hs] at hparseStart
      refine ⟨begin, hparseStart, ?_⟩
      rw [hstart, lowerBound, if_neg]
      intro hretained
      have hnone := hchecks.retained hretained
      rw [hs] at hnone
      cases hnone
    stop := by
      intro s hs
      rw [Option.mem_def] at hs
      rw [hs] at hparseStop
      exact hparseStop
    monitor := by
      intro m hm
      rw [Option.mem_def] at hm
      rw [hchecks.monitor, hm]
      rfl
    scope := by
      intro s hs
      rw [Option.mem_def] at hs
      rw [hchecks.scope, hs]
      rfl
    sort := by
      intro s hs
      rw [Option.mem_def] at hs
      rw [hchecks.sort, hs]
      rfl
    app := by
      intro app hmem
      rw [Option.mem_def] at hmem
      rw [happ, hmem, Option.elim_some]
    appMode := by
      intro mode hmem
      rw [Option.mem_def] at hmem
      rw [hmode, hmem]
      rfl
    title := by
      intro title hmem
      rw [Option.mem_def] at hmem
      rw [htitle, hmem, Option.elim_some]
    urlHost := by
      intro host hmem
      rw [Option.mem_def] at hmem
      rw [hmem, Option.elim_some] at hhost
      exact hhost
    context := by
      intro context hmem
      rw [Option.mem_def] at hmem
      rw [hcontext, hmem]
      rfl
  }

/--
The cursor of a first page decodes, a request that repeats the parameters of the page or leaves them out
continues it, and every request that differs in one of them is rejected.
-/
theorem cursor_bound (fmt : Formats) (now : Int) (first : PageRequest) (c : HistoryCursor)
    (hfirst : filteredPageContext fmt now first none = .ok c)
    (hquery : ∀ q ∈ first.query, Text.trim q = q ∧ q.utf8ByteSize ≤ 4096)
    (hinactive : first.query = none → c.filters.active = false)
    (hmonitor : ∀ m ∈ first.monitor, m < 2 ^ 31)
    (p : ScreenFramePosition F32) (hp : PagePosition c p)
    (htext : ExactText fmt { c with position := p })
    : ∃ raw, nextCursor fmt c (some p) = some raw
        ∧ decodeCursor fmt (some raw) = .ok (some { c with position := p })
        ∧ (∀ later request, Agrees fmt c request →
          (request.filters.appMode ≠ none → c.filters.app ≠ none) →
          filteredPageContext fmt later request (some raw) = .ok { c with position := p })
        ∧ (∀ later request, ¬ Agrees fmt c request →
          ∃ e, filteredPageContext fmt later request (some raw) = .error e)
        ∧ (∀ app ∈ c.filters.app, normalApp app = c.filters.app)
        ∧ (∀ title ∈ c.filters.title, normalTitle title = c.filters.title)
        ∧ ∀ host ∈ c.filters.urlHost, normalHost fmt.hosts host = .ok c.filters.urlHost := by
  rcases first_page hfirst with ⟨hc, hq, hm, hresolve⟩
  rw [← hq] at hquery hinactive
  rw [← hm] at hmonitor
  have hnext := hc.setPosition p
  have hvalid := valid_position hc hquery hinactive hp
  have hdecode := decodeCursor_encode hnext htext (fun q h => (hquery q h).2) hmonitor hp.id.2
  rw [hvalid, if_pos rfl] at hdecode
  have hagrees : ∀ {request}, Agrees fmt c request ↔ Agrees fmt { c with position := p } request := by
    intro request
    constructor
    . intro h
      exact ⟨h.agent, h.query, h.start, h.stop, h.monitor, h.scope, h.sort, h.app, h.appMode, h.title,
        h.urlHost, h.context⟩
    . intro h
      exact ⟨h.agent, h.query, h.start, h.stop, h.monitor, h.scope, h.sort, h.app, h.appMode, h.title,
        h.urlHost, h.context⟩
  rcases resolve_ok hresolve with ⟨_, _, happ, _, htitle, _, _⟩
  refine ⟨_, rfl, hdecode, ?_, ?_, ?_, ?_, ?_⟩
  . intro later request h hmode
    exact filteredPageContext_agrees later hdecode hnext htext (hagrees.mp h) hmode
  . intro later request h
    cases hresult : filteredPageContext fmt later request (some _) with
    | error e => exact ⟨e, rfl⟩
    | ok x => exact absurd (hagrees.mpr (agrees_of_ok hdecode hresult)) h
  . intro app hmem
    rw [Option.mem_def] at hmem
    rw [hmem] at happ ⊢
    cases hraw : first.filters.app with
    | none =>
      rw [hraw] at happ
      contradiction
    | some raw =>
      rw [hraw, Option.elim_some] at happ
      exact normalApp_idem happ.symm
  . intro title hmem
    rw [Option.mem_def] at hmem
    rw [hmem] at htitle ⊢
    cases hraw : first.filters.title with
    | none =>
      rw [hraw] at htitle
      contradiction
    | some raw =>
      rw [hraw, Option.elim_some] at htitle
      exact normalTitle_idem htitle.symm
  . intro host hmem
    have hhost := (Filters.valid_of_validate hc.filters).host host hmem
    rw [Option.mem_def] at hmem
    rw [hmem]
    exact normalHost_idem hhost

namespace Example

def midnight : Int := 1767225600 * 10 ^ 9

def oneOClock : Int := 1767229200 * 10 ^ 9

def nextMidnight : Int := 1767312000 * 10 ^ 9

def printTime (zone : String) (time : Int) : String :=
  if time = midnight then
    "2026-01-01T00:00:00" ++ zone
  else if time = oneOClock then
    "2026-01-01T01:00:00" ++ zone
  else
    "2026-01-02T00:00:00" ++ zone

def readRfc3339 (text : String) : Option Int :=
  [midnight, oneOClock, nextMidnight].find? (fun time =>
    text = printTime "Z" time ∨ text = printTime "+00:00" time)

def chrono : Chrono where
  parseFromRfc3339 := readRfc3339
  toRfc3339 := printTime "+00:00"
  serialize := printTime "Z"
  deserialize := readRfc3339

def joined (parts : List String) : String :=
  parts.foldr (· ++ ·) ""

theorem size_joined (parts : List String)
    : (joined parts).utf8ByteSize = (parts.map String.utf8ByteSize).sum := by
  induction parts with
  | nil => rfl
  | cons part parts ih =>
    simp only [joined, List.foldr_cons, String.utf8ByteSize_append, List.map_cons, List.sum_cons]
    rw [← ih]
    rfl

def bytes (parts : List String) : List UInt8 :=
  parts.flatMap (fun part => part.toList.map (fun ch => UInt8.ofNat ch.toNat))

-- The libraries as far as one cursor needs them, with its JSON text and the form of that in a URL.
def formats (c : HistoryCursor) (json base64 : List String) : Formats where
  hosts := hosts
  chrono := chrono
  text := {
    toVec := fun value => if value = c.toJson chrono then bytes json else []
    fromSlice := fun text => if text = bytes json then some (c.toJson chrono) else none
    encode := fun text => if text = bytes json then joined base64 else ""
    decode := fun raw => if raw = joined base64 then some (bytes json) else none
  }
  ofInt _ := ⟨0⟩

def titled (query : Option String) : PageRequest where
  agentId := 1
  query
  start := some "2026-01-01T00:00:00Z"
  stop := some "2026-01-02T00:00:00Z"
  monitor := none
  scope := none
  sort := none
  filters := { app := none, appMode := none, title := some " notes ", urlHost := none, context := none }

def lastPosition (rank : Option F32) : ScreenFramePosition F32 :=
  { capturedAt := oneOClock, id := 2, rank }

def context (query : Option String) (sort : String) (position : ScreenFramePosition F32)
    : HistoryCursor where
  version := 2
  agentId := 1
  query
  start := some midnight
  stop := nextMidnight
  monitor := none
  scope := "range"
  sort
  position
  filters := { Filters.default with title := some "notes" }

def searchCursor : HistoryCursor :=
  context (some "report") "ranked" (lastPosition (some ⟨0⟩))

def searchFormats : Formats :=
  formats searchCursor
    [
      "\x7b\"version\":2,\"agent_id\":\"00000000-0000-0000-0000-00000000000",
      "1\",\"query\":\"report\",\"from\":\"2026-01-01T00:00:00Z\",\"to\":\"2026",
      "-01-02T00:00:00Z\",\"monitor\":null,\"scope\":\"range\",\"sort\":\"ran",
      "ked\",\"position\":\x7b\"captured_at\":\"2026-01-01T01:00:00Z\",\"id\":2",
      ",\"rank\":0.0\x7d,\"filters\":\x7b\"app\":null,\"app_mode\":\"exact\",\"title",
      "\":\"notes\",\"url_host\":null,\"context\":\"all\"\x7d\x7d"
    ]
    [
      "eyJ2ZXJzaW9uIjoyLCJhZ2VudF9pZCI6IjAwMDAwMDAwLTAwMDAtMDAwMC0w",
      "MDAwLTAwMDAwMDAwMDAwMSIsInF1ZXJ5IjoicmVwb3J0IiwiZnJvbSI6IjIw",
      "MjYtMDEtMDFUMDA6MDA6MDBaIiwidG8iOiIyMDI2LTAxLTAyVDAwOjAwOjAw",
      "WiIsIm1vbml0b3IiOm51bGwsInNjb3BlIjoicmFuZ2UiLCJzb3J0IjoicmFu",
      "a2VkIiwicG9zaXRpb24iOnsiY2FwdHVyZWRfYXQiOiIyMDI2LTAxLTAxVDAx",
      "OjAwOjAwWiIsImlkIjoyLCJyYW5rIjowLjB9LCJmaWx0ZXJzIjp7ImFwcCI6",
      "bnVsbCwiYXBwX21vZGUiOiJleGFjdCIsInRpdGxlIjoibm90ZXMiLCJ1cmxf",
      "aG9zdCI6bnVsbCwiY29udGV4dCI6ImFsbCJ9fQ"
    ]

def listCursor : HistoryCursor :=
  context none "oldest" (lastPosition none)

def listFormats : Formats :=
  formats listCursor
    [
      "\x7b\"version\":2,\"agent_id\":\"00000000-0000-0000-0000-00000000000",
      "1\",\"query\":null,\"from\":\"2026-01-01T00:00:00Z\",\"to\":\"2026-01-",
      "02T00:00:00Z\",\"monitor\":null,\"scope\":\"range\",\"sort\":\"oldest\"",
      ",\"position\":\x7b\"captured_at\":\"2026-01-01T01:00:00Z\",\"id\":2,\"ra",
      "nk\":null\x7d,\"filters\":\x7b\"app\":null,\"app_mode\":\"exact\",\"title\":\"",
      "notes\",\"url_host\":null,\"context\":\"all\"\x7d\x7d"
    ]
    [
      "eyJ2ZXJzaW9uIjoyLCJhZ2VudF9pZCI6IjAwMDAwMDAwLTAwMDAtMDAwMC0w",
      "MDAwLTAwMDAwMDAwMDAwMSIsInF1ZXJ5IjpudWxsLCJmcm9tIjoiMjAyNi0w",
      "MS0wMVQwMDowMDowMFoiLCJ0byI6IjIwMjYtMDEtMDJUMDA6MDA6MDBaIiwi",
      "bW9uaXRvciI6bnVsbCwic2NvcGUiOiJyYW5nZSIsInNvcnQiOiJvbGRlc3Qi",
      "LCJwb3NpdGlvbiI6eyJjYXB0dXJlZF9hdCI6IjIwMjYtMDEtMDFUMDE6MDA6",
      "MDBaIiwiaWQiOjIsInJhbmsiOm51bGx9LCJmaWx0ZXJzIjp7ImFwcCI6bnVs",
      "bCwiYXBwX21vZGUiOiJleGFjdCIsInRpdGxlIjoibm90ZXMiLCJ1cmxfaG9z",
      "dCI6bnVsbCwiY29udGV4dCI6ImFsbCJ9fQ"
    ]

theorem exact_midnight : ExactTime chrono midnight := by
  constructor <;> decide +kernel

theorem exact_oneOClock : ExactTime chrono oneOClock := by
  constructor <;> decide +kernel

theorem exact_nextMidnight : ExactTime chrono nextMidnight := by
  constructor <;> decide +kernel

theorem exact_formats {c : HistoryCursor} {json base64 : List String} (hstop : c.stop = nextMidnight)
    (hstart : c.start = some midnight) (hcaptured : c.position.capturedAt = oneOClock)
    (hsize : (bytes json).length ≤ Json.renderedSize (c.toJson chrono)
      ∧ (base64.map String.utf8ByteSize).sum ≤ 4 * (((bytes json).length + 2) / 3))
    : ExactText (formats c json base64) c where
  stop := by
    rw [hstop]
    exact exact_nextMidnight
  start := by
    intro time htime
    rw [hstart] at htime
    cases htime
    exact exact_midnight
  capturedAt := by
    rw [hcaptured]
    exact exact_oneOClock
  json := by simp [formats]
  size := by
    simp only [formats, ↓reduceIte]
    exact hsize.1
  base64 := by simp [formats]
  base64Size := by
    simp only [formats, ↓reduceIte, size_joined]
    exact hsize.2

theorem exact_search : ExactText searchFormats searchCursor :=
  exact_formats rfl rfl rfl (by decide +kernel)

theorem exact_list : ExactText listFormats listCursor :=
  exact_formats rfl rfl rfl (by decide +kernel)

theorem position_search : PagePosition searchCursor (lastPosition (some ⟨0⟩)) where
  id := by decide
  start := by decide
  stop := by decide
  timeline := by decide
  search := fun _ => ⟨⟨0⟩, rfl, by decide, by decide⟩
  context := fun h => absurd h (by decide)

theorem position_list : PagePosition listCursor (lastPosition none) where
  id := by decide
  start := by decide
  stop := by decide
  timeline := fun _ => rfl
  search := fun h => absurd rfl h
  context := fun h => absurd h (by decide)

end Example

-- The second page of a search, for which the client repeats the query only.
theorem cursor_bound_search
    : ∃ raw, nextCursor Example.searchFormats Example.searchCursor
          (some (Example.lastPosition (some ⟨0⟩))) = some raw
        ∧ decodeCursor Example.searchFormats (some raw) = .ok (some Example.searchCursor) := by
  have hfirst : filteredPageContext Example.searchFormats 0 (Example.titled (some "report")) none
      = .ok (Example.context (some "report") "ranked"
        { capturedAt := Example.midnight, id := 0, rank := none }) := by
    rfl
  have hquery : ∀ q ∈ (Example.titled (some "report")).query,
      Text.trim q = q ∧ q.utf8ByteSize ≤ 4096 := by
    intro q hq
    cases hq
    decide +kernel
  have hposition : PagePosition (Example.context (some "report") "ranked"
      { capturedAt := Example.midnight, id := 0, rank := none })
      (Example.lastPosition (some ⟨0⟩)) :=
    ⟨Example.position_search.id, Example.position_search.start, Example.position_search.stop,
      Example.position_search.timeline, Example.position_search.search,
      Example.position_search.context⟩
  rcases cursor_bound Example.searchFormats 0 (Example.titled (some "report")) _ hfirst hquery
    (fun h => by contradiction) (fun m h => by contradiction) (Example.lastPosition (some ⟨0⟩))
    hposition Example.exact_search with ⟨raw, hraw, hdecode, _⟩
  exact ⟨raw, hraw, hdecode⟩

-- A list of frames with a filter for the title, which the timeline has no parameter for.
theorem cursor_of_filtered_list
    : ∃ c p, filteredPageContext Example.listFormats 0 (Example.titled none) none = .ok c
        ∧ PagePosition c p
        ∧ ExactText Example.listFormats { c with position := p }
        ∧ ∃ raw, nextCursor Example.listFormats c (some p) = some raw
          ∧ decodeCursor Example.listFormats (some raw) = .error "invalid cursor" := by
  have hfirst : filteredPageContext Example.listFormats 0 (Example.titled none) none
      = .ok (Example.context none "oldest"
        { capturedAt := Example.midnight, id := 0, rank := none }) := by
    rfl
  have hnext := (first_page hfirst).1.setPosition (Example.lastPosition none)
  refine ⟨_, Example.lastPosition none, hfirst, ?_, Example.exact_list, _, rfl, ?_⟩
  . exact ⟨Example.position_list.id, Example.position_list.start, Example.position_list.stop,
      Example.position_list.timeline, Example.position_list.search, Example.position_list.context⟩
  . have hdecode := decodeCursor_encode hnext Example.exact_list (fun q h => by contradiction)
      (fun m h => by contradiction) (by decide)
    rw [if_neg] at hdecode
    . exact hdecode
    . decide +kernel

end Recall

end Vantyr
