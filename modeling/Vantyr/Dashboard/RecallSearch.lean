import Vantyr.Dashboard.RecallFilters
import Vantyr.Data.Query
import Vantyr.Server.Recall.Cursor
import Vantyr.Server.Recall.Noninterference

/-!
This module contains the searches of Recall that are saved and linked
(`frontend/src/features/recall/lib/recallRetrieval.ts`, `frontend/src/features/recall/lib/recallUrl.ts`), and
the request in which their filters are sent (`frontend/src/api/endpoints/recall.ts`). The main result is that
a link restores the search that it was made of, whose filters the server accepts. How dates and URLs are
parsed is a parameter.
-/

namespace Vantyr

namespace RecallSearch

open Recall (Filters HostSyntax ContextFilterQuery)
open RecallFilters (Url trim parseRecallFilters)

structure SavedSearch where
  query : String
  scope : String
  sort : String
  start : Option String
  stop : Option String
  monitor : Option Int
  filters : Filters
  deriving DecidableEq, Repr

-- The object that a search is. The bounds are there in a range only.
def SavedSearch.fields (s : SavedSearch) : List (String × JsValue) :=
  [
    ("query", .string s.query),
    ("scope", .string s.scope),
    ("sort", .string s.sort),
    ("monitor", s.monitor.elim .null (fun n => .number (some n)))
  ] ++ s.start.toList.map (fun t => ("from", .string t)) ++ s.stop.toList.map (fun t => ("to", .string t))
    ++ [("filters", RecallFilters.toValue s.filters)]

def SavedSearch.toValue (s : SavedSearch) : JsValue :=
  .object s.fields

-- `Date.parse` has no value for a text that is not a date.
structure Browser where
  newUrl : String → Option Url
  dateParse : String → Option Int

variable (browser : Browser)

-- A display is null or a safe integer below 64.
def monitorOf : JsValue → Option (Option Int)
  | .undefined => some none
  | .null => some none
  | .number (some x) => if x.den = 1 ∧ x.num.natAbs < 2 ^ 53 ∧ 0 ≤ x ∧ x < 64 then some (some x.num) else none
  | _ => none

def rangeOf (scope : String) (start stop : JsValue) : Option (Option String × Option String) :=
  if scope = "range" then
    match start, stop with
    | .string start, .string stop =>
      match browser.dateParse start, browser.dateParse stop with
      | some first, some last => if first < last then some (some start, some stop) else none
      | _, _ => none
    | _, _ => none
  else
    some (none, none)

def parseSavedSearch (raw : JsValue) : Option SavedSearch :=
  match raw with
  | .object s =>
    match JsValue.field s "query", (JsValue.field s "scope").orString "",
        (JsValue.field s "sort").orString "" with
    | .string query, .string scope, .string sort =>
      if 4096 < query.utf8ByteSize
          || !(["range", "retained"].contains scope)
          || !(["ranked", "newest"].contains sort) then
        none
      else
        match monitorOf (JsValue.field s "monitor"),
            rangeOf browser scope (JsValue.field s "from") (JsValue.field s "to"),
            parseRecallFilters browser.newUrl (JsValue.field s "filters") with
        | some monitor, some (start, stop), .ok filters =>
          if trim query = "" && (!filters.active || sort ≠ "newest") then
            none
          else
            some { query := trim query, scope, sort, start, stop, monitor, filters }
        | _, _, _ => none
    | _, _, _ => none
  | _ => none

def searchParams : List String :=
  ["q", "app", "app_mode", "title", "url_host", "context", "search_scope", "search_sort", "search_from",
    "search_to", "search_monitor"]

-- `if (value) params.set(name, value)`
def setIf (name : String) (value : Option String) (params : List (String × String))
    : List (String × String) :=
  match value with
  | some value => if value = "" then params else Query.set name value params
  | none => params

def writeValid (params : List (String × String)) (valid : SavedSearch) : List (String × String) :=
  let filters := valid.filters
  let params := Query.set "q" valid.query params
  let params := Query.set "search_scope" valid.scope params
  let params := Query.set "search_sort" valid.sort params
  let params := Query.set "search_monitor" (valid.monitor.elim "all" (fun n => n.repr)) params
  let params := setIf "search_from" valid.start params
  let params := setIf "search_to" valid.stop params
  let params := setIf "app" filters.app params
  let params := if filters.app.getD "" ≠ "" then Query.set "app_mode" filters.appMode params else params
  let params := setIf "title" filters.title params
  let params := setIf "url_host" filters.urlHost params
  if filters.context ≠ "all" then Query.set "context" filters.context params else params

def writeRecallSearchParams (params : List (String × String)) (search : JsValue)
    : Except String (List (String × String)) :=
  let params := searchParams.foldl Query.delete params
  if !search.isTruthy then
    .ok params
  else
    match parseSavedSearch browser search with
    | none => .error "Invalid Recall search state"
    | some valid => .ok (writeValid params valid)

def isDecimal (text : String) : Bool :=
  !text.toList.isEmpty && text.toList.all (fun c => '0' ≤ c && c ≤ '9')

def number (text : String) : Nat :=
  text.toList.foldl (fun n c => n * 10 + (c.toNat - 48)) 0

-- The monitor of the page is taken if the link names none.
def linkedMonitor (params : List (String × String)) : Option JsValue :=
  match (Query.get params "search_monitor").or (Query.get params "monitor") with
  | none => some .null
  | some raw =>
    if raw = "all" then some .null
    else if isDecimal raw then some (.number (some (number raw)))
    else none

def filterValues (params : List (String × String)) : JsValue :=
  .object (RecallFilters.filterKeys.filterMap
    (fun name => (Query.get params name).map (fun value => (name, .string value))))

structure Linked where
  search : Option SavedSearch
  error : Option String
  deriving DecidableEq, Repr

def parseRecallSearchParams (params : List (String × String)) : Linked :=
  if !searchParams.any (Query.has params) then
    { search := none, error := none }
  else
    let search :=
      match parseRecallFilters browser.newUrl (filterValues params), linkedMonitor params with
      | .ok filters, some monitor =>
        let query := (Query.get params "q").getD ""
        parseSavedSearch browser (.object [
          ("query", .string query),
          ("scope", .string ((Query.get params "search_scope").getD "retained")),
          ("sort", .string ((Query.get params "search_sort").getD
            (if trim query ≠ "" then "ranked" else "newest"))),
          ("monitor", monitor),
          ("from", .ofOption (Query.get params "search_from")),
          ("to", .ofOption (Query.get params "search_to")),
          ("filters", RecallFilters.toValue filters)
        ])
      | _, _ => none
    match search with
    | some search => { search := some search, error := none }
    | none =>
      {
        search := none
        error := some
          "The linked search filters are invalid or too long. Clear filters and start a new search."
      }

-- The filters of a request. A filter that is null is sent as an empty text.
def historySearchQuery (f : Filters) : ContextFilterQuery where
  app := some (f.app.getD "")
  appMode := if f.app.getD "" ≠ "" then some f.appMode else none
  title := some (f.title.getD "")
  urlHost := some (f.urlHost.getD "")
  context := some f.context

/-!
Saved searches.
-/

variable {browser}

structure Normal (browser : Browser) (v : SavedSearch) : Prop where
  query : v.query.utf8ByteSize ≤ 4096
  trimmed : trim v.query = v.query
  scope : v.scope = "range" ∨ v.scope = "retained"
  sort : v.sort = "ranked" ∨ v.sort = "newest"
  monitor : ∀ n ∈ v.monitor, 0 ≤ n ∧ n < 64
  range : rangeOf browser v.scope (.ofOption v.start) (.ofOption v.stop) = some (v.start, v.stop)
  filters : RecallFilters.Normal browser.newUrl v.filters
  wanted : v.query = "" → v.filters.active = true ∧ v.sort = "newest"

theorem monitorOf_some {value : JsValue} {monitor : Option Int} (h : monitorOf value = some monitor)
    : ∀ n ∈ monitor, 0 ≤ n ∧ n < 64 := by
  unfold monitorOf at h
  split at h
  . cases h
    intro n hn
    cases hn
  . cases h
    intro n hn
    cases hn
  . next x =>
    split at h
    . next hx =>
      cases h
      intro n hn
      cases hn
      have hnum : x = x.num := (Rat.den_eq_one_iff x).mp hx.1 |>.symm
      constructor
      . exact Rat.num_nonneg.mpr hx.2.2.1
      . have hlt := hx.2.2.2
        rw [hnum] at hlt
        exact_mod_cast hlt
    . cases h
  . cases h

theorem rangeOf_some {scope : String} {start stop : JsValue} {bounds : Option String × Option String}
    (h : rangeOf browser scope start stop = some bounds)
    : rangeOf browser scope (.ofOption bounds.1) (.ofOption bounds.2) = some bounds := by
  unfold rangeOf at h
  split at h
  . next hscope =>
    split at h
    . split at h
      . next first last hfirst hlast =>
        split at h
        . next hlt =>
          cases h
          unfold rangeOf JsValue.ofOption
          simp only [Option.elim_some, if_pos hscope, hfirst, hlast, if_pos hlt]
        . cases h
      . cases h
    . cases h
  . next hscope =>
    cases h
    unfold rangeOf
    rw [if_neg hscope]

-- An empty text is no date.
theorem bounds_of_range {scope : String} {start stop : Option String} (hdate : browser.dateParse "" = none)
    (h : rangeOf browser scope (.ofOption start) (.ofOption stop) = some (start, stop))
    : start ≠ some "" ∧ stop ≠ some "" := by
  unfold rangeOf at h
  split at h
  . split at h
    . next first last hfirst hlast =>
      split at h
      . next x y hx hy =>
        split at h
        . cases h
          constructor
          . rintro hempty
            cases hempty
            rw [hdate] at hx
            cases hx
          . rintro hempty
            cases hempty
            rw [hdate] at hy
            cases hy
        . cases h
      . cases h
    . cases h
  . cases h
    exact ⟨Option.some_ne_none "" |>.symm, Option.some_ne_none "" |>.symm⟩

theorem parseSavedSearch_normal (hurl : RecallFilters.Whatwg browser.newUrl) {raw : JsValue} {v : SavedSearch}
    (h : parseSavedSearch browser raw = some v) : Normal browser v := by
  unfold parseSavedSearch at h
  split at h
  . split at h
    . next query scope sort _ _ _ =>
      split at h
      . cases h
      . next hchecks =>
        split at h
        . next monitor start stop filters hmonitor hrange hfilters =>
          split at h
          . cases h
          . next hwanted =>
            cases h
            simp only [Bool.or_eq_true, Bool.not_eq_true', decide_eq_true_iff, not_or, not_lt,
              Bool.not_eq_false] at hchecks
            rcases hchecks with ⟨⟨hsize, hscope⟩, hsort⟩
            exact {
              query := Nat.le_trans (RecallFilters.size_trim query) hsize
              trimmed := RecallFilters.trim_trim query
              scope := by simpa using hscope
              sort := by simpa using hsort
              monitor := monitorOf_some hmonitor
              range := rangeOf_some hrange
              filters := RecallFilters.parseRecallFilters_normal hurl hfilters
              wanted := by
                intro hquery
                simp only [Bool.and_eq_true, decide_eq_true_iff, not_and, Bool.or_eq_true, not_or,
                  Bool.not_eq_true', Bool.not_eq_false, not_not] at hwanted
                exact hwanted hquery
            }
        . cases h
    . cases h
  . cases h

theorem parseSavedSearch_of_normal {v : SavedSearch} (h : Normal browser v) {raw : List (String × JsValue)}
    (hquery : JsValue.field raw "query" = .string v.query)
    (hscope : JsValue.field raw "scope" = .string v.scope)
    (hsort : JsValue.field raw "sort" = .string v.sort)
    (hmonitor : monitorOf (JsValue.field raw "monitor") = some v.monitor)
    (hrange : rangeOf browser v.scope (JsValue.field raw "from") (JsValue.field raw "to")
      = some (v.start, v.stop))
    (hfilters : parseRecallFilters browser.newUrl (JsValue.field raw "filters") = .ok v.filters)
    : parseSavedSearch browser (.object raw) = some v := by
  have hchecks : (4096 < v.query.utf8ByteSize || !(["range", "retained"].contains v.scope)
      || !(["ranked", "newest"].contains v.sort)) = false := by
    have hscopes : ["range", "retained"].contains v.scope = true := by simpa using h.scope
    have hsorts : ["ranked", "newest"].contains v.sort = true := by simpa using h.sort
    have hsize := h.query
    rw [hscopes, hsorts]
    simp [hsize]
  have hwanted : (decide (v.query = "") && (!v.filters.active || decide (v.sort ≠ "newest"))) = false := by
    by_cases hq : v.query = ""
    . simp [hq, h.wanted hq]
    . simp [hq]
  unfold parseSavedSearch
  dsimp only
  rw [hquery, hscope, hsort]
  dsimp only [JsValue.orString]
  rw [hchecks, if_neg Bool.false_ne_true, hmonitor, hrange, hfilters]
  dsimp only
  rw [h.trimmed, hwanted, if_neg Bool.false_ne_true]

theorem monitorOf_number {n : Int} (hnonneg : 0 ≤ n) (hlt : n < 64)
    : monitorOf (.number (some (n : ℚ))) = some (some n) := by
  unfold monitorOf
  dsimp only
  rw [if_pos, Rat.num_intCast]
  refine ⟨Rat.den_intCast n, ?_, by exact_mod_cast hnonneg, by exact_mod_cast hlt⟩
  rw [Rat.num_intCast]
  omega

open RecallFilters (Stands)

-- A bound that is missing is like one that is null.
theorem rangeOf_of_stands {scope : String} {start stop : JsValue} {first last : Option String}
    (hstart : Stands start first) (hstop : Stands stop last)
    : rangeOf browser scope start stop = rangeOf browser scope (.ofOption first) (.ofOption last) := by
  have hcases : ∀ {value : JsValue} {text : Option String}, Stands value text
      → value = .ofOption text ∨ value = .undefined ∧ text = none := by
    intro value text h
    cases text with
    | some t => exact .inl h
    | none =>
      rcases h with h | h
      . exact .inr ⟨h, rfl⟩
      . exact .inl h
  unfold rangeOf
  split
  . rcases hcases hstart with rfl | ⟨rfl, rfl⟩
    . rcases hcases hstop with rfl | ⟨rfl, rfl⟩
      . rfl
      . cases first with
        | none => rfl
        | some t => rfl
    . cases last with
      | none => rfl
      | some t => rfl
  . rfl

theorem parseSavedSearch_toValue {v : SavedSearch} (h : Normal browser v)
    : parseSavedSearch browser v.toValue = some v := by
  have hmonitor : monitorOf (v.monitor.elim .null (fun n => .number (some (n : ℚ)))) = some v.monitor := by
    cases hm : v.monitor with
    | none => rfl
    | some n => exact monitorOf_number (h.monitor n hm).1 (h.monitor n hm).2
  have hfrom : Stands (JsValue.field v.fields "from") v.start := by
    unfold SavedSearch.fields JsValue.field Stands
    cases v.start with
    | none =>
      cases v.stop with
      | none => exact .inl rfl
      | some stop => exact .inl rfl
    | some start => rfl
  have hto : Stands (JsValue.field v.fields "to") v.stop := by
    unfold SavedSearch.fields JsValue.field Stands
    cases v.start with
    | none =>
      cases v.stop with
      | none => exact .inl rfl
      | some stop => rfl
    | some start =>
      cases v.stop with
      | none => exact .inl rfl
      | some stop => rfl
  have hfilters : JsValue.field v.fields "filters" = RecallFilters.toValue v.filters := by
    unfold SavedSearch.fields JsValue.field
    cases v.start with
    | none =>
      cases v.stop with
      | none => rfl
      | some stop => rfl
    | some start =>
      cases v.stop with
      | none => rfl
      | some stop => rfl
  apply parseSavedSearch_of_normal h
  . rfl
  . rfl
  . rfl
  . exact hmonitor
  . rw [rangeOf_of_stands hfrom hto, h.range]
  . rw [hfilters, RecallFilters.parseRecallFilters_toValue h.filters]

/-!
Links.
-/

theorem get_setIf (params : List (String × String)) (name other : String) (value : Option String)
    : Query.get (setIf name value params) other
      = if other = name ∧ value.getD "" ≠ "" then value else Query.get params other := by
  unfold setIf
  cases value with
  | none => simp
  | some text =>
    dsimp only
    split
    . next hempty => simp [hempty]
    . next hne =>
      rw [Query.get_set]
      simp [hne]

theorem others_setIf {name : String} (h : name ∈ searchParams) (value : Option String)
    (params : List (String × String))
    : Query.others searchParams (setIf name value params) = Query.others searchParams params := by
  unfold setIf
  split
  . split
    . rfl
    . exact Query.others_set h _ _
  . rfl

theorem others_writeValid (params : List (String × String)) (v : SavedSearch)
    : Query.others searchParams (writeValid params v) = Query.others searchParams params := by
  have hset : ∀ name ∈ searchParams, ∀ (value : String) (params : List (String × String)),
      Query.others searchParams (Query.set name value params) = Query.others searchParams params :=
    fun name hname => Query.others_set hname
  have hif : ∀ (p : Prop) [Decidable p], ∀ name ∈ searchParams,
      ∀ (value : String) (params : List (String × String)),
      Query.others searchParams (if p then Query.set name value params else params)
        = Query.others searchParams params := by
    intro p _ name hname value params
    split
    . exact hset name hname value params
    . rfl
  unfold writeValid
  dsimp only
  rw [hif _ _ (by decide), others_setIf (by decide), others_setIf (by decide), hif _ _ (by decide),
    others_setIf (by decide), others_setIf (by decide), others_setIf (by decide), hset _ (by decide),
    hset _ (by decide), hset _ (by decide), hset _ (by decide)]

theorem get_writeValid (params : List (String × String)) (v : SavedSearch) (other : String)
    : Query.get (writeValid params v) other
      = if other = "context" ∧ v.filters.context ≠ "all" then some v.filters.context
        else if other = "url_host" ∧ v.filters.urlHost.getD "" ≠ "" then v.filters.urlHost
        else if other = "title" ∧ v.filters.title.getD "" ≠ "" then v.filters.title
        else if other = "app_mode" ∧ v.filters.app.getD "" ≠ "" then some v.filters.appMode
        else if other = "app" ∧ v.filters.app.getD "" ≠ "" then v.filters.app
        else if other = "search_to" ∧ v.stop.getD "" ≠ "" then v.stop
        else if other = "search_from" ∧ v.start.getD "" ≠ "" then v.start
        else if other = "search_monitor" then some (v.monitor.elim "all" (fun n => n.repr))
        else if other = "search_sort" then some v.sort
        else if other = "search_scope" then some v.scope
        else if other = "q" then some v.query
        else Query.get params other := by
  have hif : ∀ (p : Prop) [Decidable p] (name value : String) (params : List (String × String)),
      Query.get (if p then Query.set name value params else params) other
        = if other = name ∧ p then some value else Query.get params other := by
    intro p _ name value params
    by_cases hp : p
    . rw [if_pos hp, Query.get_set]
      simp [hp]
    . rw [if_neg hp]
      simp [hp]
  unfold writeValid
  dsimp only
  rw [hif, get_setIf, get_setIf, hif, get_setIf, get_setIf, get_setIf, Query.get_set, Query.get_set,
    Query.get_set, Query.get_set]

-- What is read of a link for the search that it was made of.
structure Reads (params : List (String × String)) (v : SavedSearch) : Prop where
  query : Query.get params "q" = some v.query
  scope : Query.get params "search_scope" = some v.scope
  sort : Query.get params "search_sort" = some v.sort
  monitor : Query.get params "search_monitor" = some (v.monitor.elim "all" (fun n => n.repr))
  start : Query.get params "search_from" = v.start
  stop : Query.get params "search_to" = v.stop
  app : Query.get params "app" = v.filters.app
  appMode : Query.get params "app_mode" = v.filters.app.map (fun _ => v.filters.appMode)
  title : Query.get params "title" = v.filters.title
  urlHost : Query.get params "url_host" = v.filters.urlHost
  context : Query.get params "context" = if v.filters.context ≠ "all" then some v.filters.context else none

theorem writeValid_reads {params : List (String × String)} {v : SavedSearch}
    (hbase : ∀ name ∈ searchParams, Query.get params name = none) (hstart : v.start ≠ some "")
    (hstop : v.stop ≠ some "") (hfilters : RecallFilters.Normal browser.newUrl v.filters)
    : Reads (writeValid params v) v := by
  have hkept : ∀ value : Option String, value ≠ some ""
      → (if value.getD "" ≠ "" then value else none) = value := by
    intro value hne
    cases value with
    | none => rfl
    | some text =>
      rw [Option.getD_some, if_pos]
      rintro rfl
      exact hne rfl
  have happ : v.filters.app ≠ some "" := fun heq => (hfilters.app "" heq).1.nonempty rfl
  have htitle : v.filters.title ≠ some "" := fun heq => (hfilters.title "" heq).nonempty rfl
  have hhost : v.filters.urlHost ≠ some "" := fun heq => (hfilters.host "" heq).nonempty rfl
  have hmode : (if v.filters.app.getD "" ≠ "" then some v.filters.appMode else none)
      = v.filters.app.map (fun _ => v.filters.appMode) := by
    cases hf : v.filters.app with
    | none => rfl
    | some app =>
      rw [hf] at happ
      rw [Option.getD_some, if_pos, Option.map_some]
      rintro rfl
      exact happ rfl
  constructor
  . simp [get_writeValid]
  . simp [get_writeValid]
  . simp [get_writeValid]
  . simp [get_writeValid]
  . rw [get_writeValid, hbase _ (by decide)]
    simpa using hkept v.start hstart
  . rw [get_writeValid, hbase _ (by decide)]
    simpa using hkept v.stop hstop
  . rw [get_writeValid, hbase _ (by decide)]
    simpa using hkept v.filters.app happ
  . rw [get_writeValid, hbase _ (by decide), ← hmode]
    simp
  . rw [get_writeValid, hbase _ (by decide)]
    simpa using hkept v.filters.title htitle
  . rw [get_writeValid, hbase _ (by decide)]
    simpa using hkept v.filters.urlHost hhost
  . rw [get_writeValid, hbase _ (by decide)]
    simp

theorem get?_filterMap (names : List String) (g : String → Option String) (key : String)
    : Fields.get? key (names.filterMap (fun name => (g name).map (fun value => (name, JsValue.string value))))
      = if key ∈ names then (g key).map JsValue.string else none := by
  induction names with
  | nil => rfl
  | cons name names ih =>
    rw [List.filterMap_cons]
    cases hg : g name with
    | none =>
      rw [Option.map_none]
      dsimp only
      rw [ih]
      by_cases hkey : key = name
      . subst hkey
        simp [hg]
      . simp [hkey]
    | some value =>
      rw [Option.map_some]
      dsimp only
      rw [Fields.get?_cons, ih]
      by_cases hkey : name = key
      . subst hkey
        simp [hg]
      . simp [hkey, Ne.symm hkey]

theorem parse_filterValues {params : List (String × String)} {v : SavedSearch} (hreads : Reads params v)
    (h : RecallFilters.Normal browser.newUrl v.filters)
    : parseRecallFilters browser.newUrl (filterValues params) = .ok v.filters := by
  have hfield : ∀ key ∈ RecallFilters.filterKeys, JsValue.field (RecallFilters.filterKeys.filterMap
        (fun name => (Query.get params name).map (fun value => (name, JsValue.string value)))) key
      = ((Query.get params key).map JsValue.string).getD .undefined := by
    intro key hkey
    unfold JsValue.field
    rw [get?_filterMap, if_pos hkey]
  have hstands : ∀ text : Option String, Stands ((text.map JsValue.string).getD .undefined) text := by
    intro text
    cases text with
    | none => exact .inl rfl
    | some t => rfl
  apply RecallFilters.parseRecallFilters_of_normal h
  . intro field hmem
    rcases List.mem_filterMap.mp hmem with ⟨name, hname, heq⟩
    rcases Option.map_eq_some_iff.mp heq with ⟨value, _, rfl⟩
    exact hname
  . rw [hfield _ (by decide), hreads.app]
    exact hstands _
  . rw [hfield _ (by decide), hreads.title]
    exact hstands _
  . rw [hfield _ (by decide), hreads.urlHost]
    exact hstands _
  . rw [hfield _ (by decide), hreads.appMode]
    cases happ : v.filters.app with
    | none =>
      rcases h.mode with hmode | ⟨_, hsome⟩
      . rw [hmode]
        rfl
      . rw [happ] at hsome
        cases hsome
    | some app => rfl
  . rw [hfield _ (by decide), hreads.context]
    by_cases hcontext : v.filters.context = "all"
    . rw [hcontext]
      rfl
    . rw [if_pos hcontext]
      rfl

theorem linkedMonitor_of_reads {params : List (String × String)} {v : SavedSearch} (hreads : Reads params v)
    (h : ∀ n ∈ v.monitor, 0 ≤ n ∧ n < 64)
    : ∃ value, linkedMonitor params = some value ∧ monitorOf value = some v.monitor := by
  unfold linkedMonitor
  rw [hreads.monitor]
  cases hm : v.monitor with
  | none => exact ⟨.null, rfl, rfl⟩
  | some n =>
    rcases h n hm with ⟨hnonneg, hlt⟩
    have htexts : ∀ m : Nat, m < 64 → isDecimal (m : Int).repr = true ∧ number (m : Int).repr = m
        ∧ (m : Int).repr ≠ "all" := by decide
    rcases Int.eq_ofNat_of_zero_le hnonneg with ⟨m, rfl⟩
    rcases htexts m (by omega) with ⟨hdecimal, hnumber, hall⟩
    refine ⟨.number (some (m : ℚ)), ?_, ?_⟩
    . rw [Option.elim_some, Option.some_or]
      dsimp only
      rw [if_neg hall, if_pos hdecimal, hnumber]
    . exact_mod_cast monitorOf_number hnonneg hlt

-- A link restores the search that was written to it.
theorem parseRecallSearchParams_of_reads {params : List (String × String)} {v : SavedSearch}
    (h : Normal browser v) (hreads : Reads params v)
    : parseRecallSearchParams browser params = { search := some v, error := none } := by
  have hhas : searchParams.any (Query.has params) = true := by
    rw [List.any_eq_true]
    refine ⟨"q", by decide, ?_⟩
    rw [Query.has_eq_isSome, hreads.query]
    rfl
  rcases linkedMonitor_of_reads hreads h.monitor with ⟨monitor, hlinked, hmonitor⟩
  have hsearch : parseSavedSearch browser (.object [
        ("query", .string ((Query.get params "q").getD "")),
        ("scope", .string ((Query.get params "search_scope").getD "retained")),
        ("sort", .string ((Query.get params "search_sort").getD
          (if trim ((Query.get params "q").getD "") ≠ "" then "ranked" else "newest"))),
        ("monitor", monitor),
        ("from", .ofOption (Query.get params "search_from")),
        ("to", .ofOption (Query.get params "search_to")),
        ("filters", RecallFilters.toValue v.filters)
      ]) = some v := by
    rw [hreads.query, hreads.scope, hreads.sort, hreads.start, hreads.stop]
    apply parseSavedSearch_of_normal h
    . rfl
    . rfl
    . rfl
    . exact hmonitor
    . exact h.range
    . exact RecallFilters.parseRecallFilters_toValue h.filters
  unfold parseRecallSearchParams
  rw [hhas, Bool.not_true, if_neg Bool.false_ne_true, parse_filterValues hreads h.filters, hlinked]
  dsimp only
  rw [hsearch]

/-!
Requests.
-/

theorem isSpace_of_isWhitespace {c : Char}
    (hcontrol : (c.toNat ≤ 31 || 127 ≤ c.toNat && c.toNat ≤ 159) = false) (h : Text.isWhitespace c = true)
    : Multipart.isSpace c = true := by
  unfold Text.isWhitespace at h
  unfold Multipart.isSpace
  simp only [Bool.or_eq_true, Bool.and_eq_true, decide_eq_true_iff] at h ⊢
  simp only [Bool.or_eq_false_iff, Bool.and_eq_false_iff, decide_eq_false_iff_not] at hcontrol
  omega

-- What is stored is trimmed for the server as well.
theorem serverTrim_of_normal {max : Nat} {text : String} (h : RecallFilters.NormalText max text)
    : Text.trim text = text := by
  have htrimmed : Strip.strip Multipart.isSpace text.toList = text.toList := by
    have := congrArg String.toList h.trimmed
    unfold trim at this
    rwa [String.toList_ofList] at this
  have hclear := List.any_eq_false.mp h.clear
  unfold Text.trim
  rw [show (text.toList.dropWhile Text.isWhitespace).rdropWhile Text.isWhitespace
    = Strip.strip Text.isWhitespace text.toList from rfl, Strip.strip_of_imp htrimmed, String.ofList_toList]
  intro c hc
  exact isSpace_of_isWhitespace (Bool.eq_false_iff.mpr (hclear c hc))

theorem validValue_of_normal {max : Nat} {text : Option String}
    (h : ∀ t ∈ text, RecallFilters.NormalText max t) : Filters.validValue text max = true := by
  cases text with
  | none => rfl
  | some t =>
    have hnormal := h t rfl
    have hcontrol : t.toList.any Text.isControl = false := by
      have hclear := List.any_eq_false.mp hnormal.clear
      rw [List.any_eq_false]
      intro c hc hcontrol
      apply hclear c hc
      unfold Text.isControl at hcontrol
      simp only [Bool.or_eq_true, Bool.and_eq_true, decide_eq_true_iff] at hcontrol ⊢
      omega
    unfold Filters.validValue
    simp [hnormal.nonempty, hnormal.size, hcontrol]

theorem validate_ok {hosts : HostSyntax} {f : Filters}
    (hmode : f.appMode = "exact" ∨ f.appMode = "prefix" ∧ f.app.isSome = true)
    (hcontext : f.context = "all" ∨ f.context = "known" ∨ f.context = "unknown")
    (happ : Filters.validValue f.app 256 = true) (htitle : Filters.validValue f.title 1024 = true)
    (hlower : ∀ app ∈ f.app, Text.toAsciiLowercase app = app)
    (hhost : ∀ host ∈ f.urlHost, Recall.normalizeHost hosts host = .ok host)
    (hunknown : f.context = "unknown" → f.app = none ∧ f.title = none ∧ f.urlHost = none)
    : f.validate hosts = .ok () := by
  have hmodes := RecallFilters.mode_known hmode
  have hcontexts := RecallFilters.context_known hcontext
  have hchosen : (decide (f.app = none) && decide (f.appMode ≠ "exact")) = false := by
    rcases hmode with hm | ⟨_, hsome⟩
    . simp [hm]
    . rcases Option.isSome_iff_exists.mp hsome with ⟨app, hf⟩
      simp [hf]
  have hlowers : f.app.any (fun app => app ≠ Text.toAsciiLowercase app) = false := by
    cases hf : f.app with
    | none => rfl
    | some app => simp [hlower app hf]
  have hunknowns := RecallFilters.unknown_alone hunknown
  unfold Filters.validate
  simp only [bind, Except.bind, pure, Except.pure, throw, throwThe, MonadExceptOf.throw, hmodes, hcontexts,
    hchosen, happ, htitle, hlowers, hunknowns, Bool.not_true, Bool.or_self, Bool.false_eq_true, if_false]
  cases hf : f.urlHost with
  | none => rfl
  | some host => simp only [hhost host hf, ne_eq, not_true, if_false]

/-!
What the server makes of texts that the dashboard has normalized. A missing one is sent as the empty one.
-/

theorem serverTrim_empty : Text.trim "" = "" :=
  Text.trim_eq_self (by simp)

theorem normalApp_of_normal {app : Option String}
    (h : ∀ text ∈ app, RecallFilters.NormalText 256 text ∧ Text.toAsciiLowercase text = text)
    : Recall.normalApp (app.getD "") = app := by
  unfold Recall.normalApp
  cases app with
  | none => rw [Option.getD_none, serverTrim_empty, if_pos rfl]
  | some text =>
    rcases h text rfl with ⟨hnormal, hlower⟩
    rw [Option.getD_some, serverTrim_of_normal hnormal, if_neg hnormal.nonempty, hlower]

theorem normalTitle_of_normal {title : Option String}
    (h : ∀ text ∈ title, RecallFilters.NormalText 1024 text)
    : Recall.normalTitle (title.getD "") = title := by
  unfold Recall.normalTitle
  cases title with
  | none => rw [Option.getD_none, serverTrim_empty, if_pos rfl]
  | some text =>
    have hnormal := h text rfl
    rw [Option.getD_some, serverTrim_of_normal hnormal, if_neg hnormal.nonempty]

theorem normalHost_of_normal {hosts : HostSyntax} (hlaws : hosts.Regular) {host : Option String}
    (h : ∀ text ∈ host, RecallFilters.NormalText 253 text)
    (haccepted : ∀ text ∈ host, ∃ normal, Recall.normalizeHost hosts text = .ok normal)
    : ∃ urlHost, Recall.normalHost hosts (host.getD "") = .ok urlHost ∧ urlHost.isSome = host.isSome
      ∧ ∀ normal ∈ urlHost, Recall.normalizeHost hosts normal = .ok normal := by
  unfold Recall.normalHost
  cases host with
  | none =>
    refine ⟨none, ?_, rfl, fun _ hnone => by cases hnone⟩
    rw [Option.getD_none, serverTrim_empty, if_pos rfl]
  | some text =>
    have hnormal := h text rfl
    rcases haccepted text rfl with ⟨normal, haccepted⟩
    refine ⟨some normal, ?_, rfl, ?_⟩
    . rw [Option.getD_some, serverTrim_of_normal hnormal, if_neg hnormal.nonempty, haccepted]
      rfl
    . intro other hother
      cases hother
      exact Recall.normalizeHost_idem hlaws haccepted

/--
The server accepts the filters. A host is stored in its normal form there.
-/
theorem resolve_of_normal {hosts : HostSyntax} (hlaws : hosts.Regular) {f : Filters}
    (h : RecallFilters.Normal browser.newUrl f)
    (haccepted : ∀ host ∈ f.urlHost, ∃ normal, Recall.normalizeHost hosts host = .ok normal)
    : ∃ resolved, (historySearchQuery f).resolve hosts none = .ok resolved ∧ resolved.app = f.app
      ∧ resolved.appMode = f.appMode ∧ resolved.title = f.title ∧ resolved.context = f.context := by
  have happ := normalApp_of_normal h.app
  have htitle := normalTitle_of_normal h.title
  rcases normalHost_of_normal hlaws (fun host hf => (h.host host hf).text) haccepted
    with ⟨urlHost, hhost, hsome, hagain⟩
  have hmode : (if f.app.getD "" ≠ "" then some f.appMode else none).getD Filters.default.appMode
      = f.appMode := by
    split
    . rfl
    . next hnone =>
      rcases h.mode with hmode | ⟨_, happ⟩
      . exact hmode.symm
      . rcases Option.isSome_iff_exists.mp happ with ⟨app, hf⟩
        rw [hf, Option.getD_some] at hnone
        exact absurd (h.app app hf).1.nonempty hnone
  have hrequires : ((if f.app.getD "" ≠ "" then some f.appMode else none).isSome && f.app.isNone)
      = false := by
    cases f.app with
    | none => rfl
    | some app => rw [Option.isNone_some, Bool.and_false]
  have hvalid : ({ f with urlHost } : Filters).validate hosts = .ok () := by
    refine validate_ok h.mode h.context ?_ ?_ (fun app hf => (h.app app hf).2) hagain ?_
    . exact validValue_of_normal (fun app hf => (h.app app hf).1)
    . exact validValue_of_normal h.title
    . intro hcontext
      rcases h.unknown hcontext with ⟨hnone, hnone', hnone''⟩
      rw [hnone'', Option.isSome_none] at hsome
      exact ⟨hnone, hnone', Option.isSome_eq_false_iff.mp hsome |> Option.isNone_iff_eq_none.mp⟩
  refine ⟨{ f with urlHost }, ?_, rfl, rfl, rfl, rfl⟩
  unfold ContextFilterQuery.resolve historySearchQuery
  dsimp only [Option.elim_some, Option.getD_some, Option.getD_none]
  rw [hhost]
  dsimp only
  rw [happ, htitle]
  rw [hrequires, if_neg Bool.false_ne_true, hmode, hvalid]
  rfl

/--
A link restores the search that it was made of, next to any other parameters, and the server accepts the
filters of the search.
-/
theorem link_restores {hosts : HostSyntax} (hurl : RecallFilters.Whatwg browser.newUrl)
    (hdate : browser.dateParse "" = none) (hlaws : hosts.Regular)
    (haccepted : ∀ raw host, RecallFilters.normalizeRecallHost browser.newUrl raw = .ok host
      → ∃ normal, Recall.normalizeHost hosts host = .ok normal)
    {search : JsValue} {v : SavedSearch} (h : parseSavedSearch browser search = some v)
    (params : List (String × String))
    : parseSavedSearch browser v.toValue = some v
      ∧ (∃ linked, writeRecallSearchParams browser params search = .ok linked
        ∧ parseRecallSearchParams browser linked = { search := some v, error := none }
        ∧ Query.others searchParams linked = Query.others searchParams params)
      ∧ ∃ resolved, (historySearchQuery v.filters).resolve hosts none = .ok resolved
        ∧ resolved.app = v.filters.app ∧ resolved.appMode = v.filters.appMode
        ∧ resolved.title = v.filters.title ∧ resolved.context = v.filters.context := by
  have hnormal := parseSavedSearch_normal hurl h
  refine ⟨parseSavedSearch_toValue hnormal, ?_, ?_⟩
  . have hbase : ∀ name ∈ searchParams, Query.get (searchParams.foldl Query.delete params) name = none := by
      intro name hname
      rw [Query.get_foldl_delete, if_pos hname]
    have htruthy : search.isTruthy = true := by
      unfold parseSavedSearch at h
      split at h
      . rfl
      . cases h
    rcases bounds_of_range hdate hnormal.range with ⟨hstart, hstop⟩
    refine ⟨writeValid (searchParams.foldl Query.delete params) v, ?_, ?_, ?_⟩
    . unfold writeRecallSearchParams
      dsimp only
      rw [htruthy, Bool.not_true, if_neg Bool.false_ne_true, h]
    . exact parseRecallSearchParams_of_reads hnormal (writeValid_reads hbase hstart hstop hnormal.filters)
    . rw [others_writeValid, Query.others_foldl_delete (fun name hname => hname)]
  . apply resolve_of_normal hlaws hnormal.filters
    intro host hhost
    exact haccepted host host (hnormal.filters.host host hhost).again

namespace Example

def site : String := "docs.example.com"

-- One site is known.
def newUrl (text : String) : Option Url :=
  if text = "https://" ++ site ++ "/" then some { hostname := site, port := "" } else none

def siteBrowser : Browser where
  newUrl := newUrl
  dateParse _ := none

theorem newUrl_some {text : String} {url : Url} (h : newUrl text = some url)
    : text = "https://" ++ site ++ "/" ∧ url = { hostname := site, port := "" } := by
  unfold newUrl at h
  split at h
  . next htext =>
    cases h
    exact ⟨htext, rfl⟩
  . cases h

theorem whatwg : RecallFilters.Whatwg newUrl where
  again := by
    intro host url h
    rw [(newUrl_some h).2]
    decide
  lower := by
    intro host url h
    rw [(newUrl_some h).2]
    decide
  address := by
    intro literal url _ h
    have hopen := congrArg (fun text => text.toList[8]?) (newUrl_some h).1
    simp [site] at hopen

theorem accepted (raw host : String) (h : RecallFilters.normalizeRecallHost newUrl raw = .ok host)
    : ∃ normal, Recall.normalizeHost Recall.Example.plainHosts host = .ok normal := by
  have hhost : host = site ∨ host = "ocs.example.co" := by
    unfold RecallFilters.normalizeRecallHost at h
    dsimp only at h
    split at h
    . cases h
    . split at h
      . split at h
        . cases h
        . next url hurl =>
          rw [(newUrl_some hurl).2] at h
          cases h
          right
          decide
      . split at h
        . cases h
        . split at h
          . cases h
          . next url hurl =>
            rw [(newUrl_some hurl).2] at h
            split at h
            . cases h
            . cases h
              left
              decide
  rcases hhost with rfl | rfl
  . exact ⟨site, by decide⟩
  . exact ⟨"ocs.example.co", by decide⟩

def search : JsValue :=
  .object [
    ("query", .string " report "),
    ("scope", .string "retained"),
    ("sort", .string "newest"),
    ("monitor", .number (some 1)),
    ("filters", .object [
      ("app", .string "Mail"),
      ("app_mode", .string "prefix"),
      ("title", .null),
      ("url_host", .string "docs.example.com.")
    ])
  ]

def restored : SavedSearch where
  query := "report"
  scope := "retained"
  sort := "newest"
  start := none
  stop := none
  monitor := some 1
  filters := {
    app := some "mail"
    appMode := "prefix"
    title := none
    urlHost := some site
    context := "all"
  }

theorem parse_search : parseSavedSearch siteBrowser search = some restored := by
  decide

end Example

-- The page of another device keeps its tab, and its old search is replaced.
theorem link_restores_example
    : ∃ linked, writeRecallSearchParams Example.siteBrowser
          [("tab", "recall"), ("q", "mail"), ("monitor", "3")] Example.search = .ok linked
      ∧ parseRecallSearchParams Example.siteBrowser linked
        = { search := some Example.restored, error := none }
      ∧ Query.others searchParams linked
        = Query.others searchParams [("tab", "recall"), ("q", "mail"), ("monitor", "3")] := by
  have hurl : RecallFilters.Whatwg Example.siteBrowser.newUrl := Example.whatwg
  have haccepted : ∀ raw host, RecallFilters.normalizeRecallHost Example.siteBrowser.newUrl raw = .ok host
      → ∃ normal, Recall.normalizeHost Recall.Example.plainHosts host = .ok normal := Example.accepted
  have hparams := link_restores hurl rfl Recall.Example.regular_plainHosts haccepted Example.parse_search
    [("tab", "recall"), ("q", "mail"), ("monitor", "3")]
  exact hparams.2.1

end RecallSearch

end Vantyr
