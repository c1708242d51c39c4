import Mathlib.Order.Basic
import Mathlib.Order.Defs.LinearOrder
import Vantyr.Data.Json
import Vantyr.Data.Keyset
import Vantyr.Data.Uuid
import Vantyr.Server.Recall.Filters

/-!
This module contains the queries that page through the frames of an agent, in each of the three orders,
and proves that following their positions goes through every frame that matches once.
-/

namespace Vantyr

namespace Recall

-- A row of `screen_frames`. Times are counted in microseconds.
structure Frame where
  id : Int
  agentId : Uuid
  capturedAt : Int
  monitor : Int
  w : Int
  h : Int
  phash : Int
  captureContext : Option Json
  captureDurationMs : Option Int
  ocrText : Option String
  contextApp : Option String
  contextTitle : Option String
  contextUrlHost : Option String

structure FrameMeta (ρ : Type) where
  id : Int
  capturedAt : Int
  monitor : Int
  w : Int
  h : Int
  phash : String
  hasOcr : Bool
  context : Option Json
  captureDurationMs : Option Int
  rank : Option ρ
  snippet : Option String

structure ScreenFramePosition (ρ : Type) where
  capturedAt : Int
  id : Int
  rank : Option ρ

abbrev ScreenFramePage (ρ : Type) :=
  Keyset.Page (FrameMeta ρ) (ScreenFramePosition ρ)

def Frame.intoMeta {ρ : Type} (frame : Frame) : FrameMeta ρ where
  id := frame.id
  capturedAt := frame.capturedAt
  monitor := frame.monitor
  w := frame.w
  h := frame.h
  phash := toString (frame.phash % 2 ^ 64)
  hasOcr := frame.ocrText.any (· ≠ "")
  context := frame.captureContext
  captureDurationMs := frame.captureDurationMs
  rank := none
  snippet := none

def clamp (n low high : Int) : Int :=
  max low (min n high)

def framePage {α ρ : Type} (rows : List α) (limit : Int) (position : α → ScreenFramePosition ρ)
    (item : α → FrameMeta ρ) : ScreenFramePage ρ :=
  Keyset.page rows limit.toNat position item

-- `ORDER BY captured_at ASC, id ASC`
def oldestFirst (a b : Frame) : Bool :=
  a.capturedAt < b.capturedAt ∨ a.capturedAt = b.capturedAt ∧ a.id ≤ b.id

-- `ORDER BY captured_at DESC, id DESC`
def newestFirst (a b : Frame) : Bool :=
  a.capturedAt > b.capturedAt ∨ a.capturedAt = b.capturedAt ∧ a.id ≥ b.id

variable {ρ : Type} [LinearOrder ρ]

-- `ORDER BY rank DESC, captured_at DESC, id DESC`
def rankedFirst (rank : Frame → ρ) (a b : Frame) : Bool :=
  rank a > rank b
    ∨ rank a = rank b
      ∧ (a.capturedAt > b.capturedAt ∨ a.capturedAt = b.capturedAt ∧ a.id ≥ b.id)

/-!
The timeline.
-/

def inTimeline (agent : Uuid) (start stop : Int) (monitor : Option Int) (frame : Frame) : Bool :=
  frame.agentId = agent
    ∧ frame.capturedAt ≥ start
    ∧ frame.capturedAt ≤ stop
    ∧ (monitor = none ∨ monitor = some frame.monitor)

-- `(captured_at, id) > ($6, $7)`
def behindFrame (p : ScreenFramePosition ρ) (frame : Frame) : Bool :=
  frame.capturedAt > p.capturedAt ∨ frame.capturedAt = p.capturedAt ∧ frame.id > p.id

def listScreenFramesPage (frames : List Frame) (agent : Uuid) (start stop : Int)
    (monitor : Option Int) (limit : Int) (after : Option (ScreenFramePosition ρ))
    : ScreenFramePage ρ :=
  let limit := clamp limit 1 5000
  let shown := frames.filter (fun frame =>
    inTimeline agent start stop monitor frame && after.all (fun p => behindFrame p frame))
  let rows := (shown.mergeSort oldestFirst).take (limit + 1).toNat
  framePage rows limit
    (fun r => { capturedAt := r.capturedAt, id := r.id, rank := none }) Frame.intoMeta

/-!
The search.
-/

/--
Full text search, which is done by the database: whether the text of a frame matches a query, how well,
and the part of the text that is shown.
-/
structure FullText (ρ : Type) where
  found : String → Frame → Bool
  tsRank : String → Frame → ρ
  tsHeadline : String → Frame → String

-- `LIKE` with backslash as the escape character.
def like : List Char → List Char → Bool
  | [], text => text.isEmpty
  | '\\' :: c :: pattern, text =>
    match text with
    | [] => false
    | d :: text => c = d && like pattern text
  | '%' :: pattern, text => text.tails.any (like pattern)
  | '_' :: pattern, text =>
    match text with
    | [] => false
    | _ :: text => like pattern text
  | c :: pattern, text =>
    match text with
    | [] => false
    | d :: text => c = d && like pattern text

-- With the collation C only ASCII letters have a case.
def ilike (pattern text : String) : Bool :=
  like (pattern.toList.map Text.asciiLower) (text.toList.map Text.asciiLower)

def matchesApp (filters : Filters) (app : Option String) : Bool :=
  match filters.app with
  | none => true
  | some wanted =>
    if filters.appMode = "prefix" then
      app.any (fun app => like (literalLike wanted ++ "%").toList app.toList)
    else
      filters.appMode = "exact" && app = some wanted

def matchesContext (filters : Filters) (frame : Frame) : Bool :=
  let known := frame.contextApp.isSome || frame.contextTitle.isSome || frame.contextUrlHost.isSome
  filters.context = "all"
    || filters.context = "known" && known
    || filters.context = "unknown" && !known

def isHit (text : FullText ρ) (agent : Uuid) (query : String) (start : Option Int) (stop : Int)
    (monitor : Option Int) (filters : Filters) (frame : Frame) : Bool :=
  frame.agentId = agent
    && start.all (frame.capturedAt ≥ ·)
    && frame.capturedAt ≤ stop
    && (monitor = none ∨ monitor = some frame.monitor)
    && (query = "" || text.found query frame)
    && matchesApp filters frame.contextApp
    && filters.title.all (fun title =>
      frame.contextTitle.any (ilike ("%" ++ literalLike title ++ "%")))
    && filters.urlHost.all (frame.contextUrlHost = some ·)
    && matchesContext filters frame

variable [Zero ρ]

def hitRank (text : FullText ρ) (query : String) (frame : Frame) : ρ :=
  if query = "" then 0 else text.tsRank query frame

-- A comparison with a rank that is missing holds for no row.
def behindHit (rank : Frame → ρ) (newest : Bool) (p : ScreenFramePosition ρ) (frame : Frame)
    : Bool :=
  if newest then
    frame.capturedAt < p.capturedAt ∨ frame.capturedAt = p.capturedAt ∧ frame.id < p.id
  else
    p.rank.any (fun r =>
      rank frame < r
        ∨ rank frame = r
          ∧ (frame.capturedAt < p.capturedAt
            ∨ frame.capturedAt = p.capturedAt ∧ frame.id < p.id))

def searchOrder (rank : Frame → ρ) (newest : Bool) : Frame → Frame → Bool :=
  if newest then newestFirst else rankedFirst rank

def searchMeta (text : FullText ρ) (query : String) (frame : Frame) : FrameMeta ρ :=
  {
    (frame.intoMeta : FrameMeta ρ) with
    rank := some (hitRank text query frame)
    snippet := some (if query = "" then "" else text.tsHeadline query frame)
  }

def searchScreenFramesFilteredPage (hosts : HostSyntax) (text : FullText ρ) (frames : List Frame)
    (agent : Uuid) (query : String) (start : Option Int) (stop : Int) (monitor : Option Int)
    (limit : Int) (newest : Bool) (after : Option (ScreenFramePosition ρ)) (filters : Filters)
    : Except String (ScreenFramePage ρ) := do
  filters.validate hosts
  if query = "" && !(filters.active && newest) then
    throw "invalid context-only search"
  let limit := clamp limit 1 500
  let rank := hitRank text query
  let hits := frames.filter (isHit text agent query start stop monitor filters)
  let behind := hits.filter (fun frame =>
    (after.bind (·.rank)).all (0 ≤ ·) && after.all (fun p => behindHit rank newest p frame))
  let rows := (behind.mergeSort (searchOrder rank newest)).take (limit + 1).toNat
  return framePage rows limit
    (fun r => { capturedAt := r.capturedAt, id := r.id, rank := some (rank r) })
    (searchMeta text query)

/-!
The orders have no ties as long as the ids are distinct.
-/

omit [Zero ρ] in
theorem rankedFirst_iff {rank : Frame → ρ} {a b : Frame}
    : rankedFirst rank a b = true
        ↔ rank b < rank a
          ∨ rank a = rank b
            ∧ (b.capturedAt < a.capturedAt ∨ a.capturedAt = b.capturedAt ∧ b.id ≤ a.id) := by
  simp [rankedFirst]

theorem newestFirst_iff {a b : Frame}
    : newestFirst a b = true
        ↔ b.capturedAt < a.capturedAt ∨ a.capturedAt = b.capturedAt ∧ b.id ≤ a.id := by
  simp [newestFirst]

theorem oldestFirst_iff {a b : Frame}
    : oldestFirst a b = true
        ↔ a.capturedAt < b.capturedAt ∨ a.capturedAt = b.capturedAt ∧ a.id ≤ b.id := by
  simp [oldestFirst]

/--
A total order in which only frames with the same id are tied.
-/
structure FrameOrder (le : Frame → Frame → Bool) : Prop where
  trans : ∀ a b c, le a b = true → le b c = true → le a c = true
  total : ∀ a b, (le a b || le b a) = true
  id : ∀ a b, le a b = true → le b a = true → a.id = b.id

theorem oldestFirst_order : FrameOrder oldestFirst where
  trans := by
    intro a b c hab hbc
    rw [oldestFirst_iff] at *
    omega
  total := by
    intro a b
    rw [Bool.or_eq_true, oldestFirst_iff, oldestFirst_iff]
    omega
  id := by
    intro a b hab hba
    rw [oldestFirst_iff] at hab hba
    omega

theorem newestFirst_order : FrameOrder newestFirst where
  trans := by
    intro a b c hab hbc
    rw [newestFirst_iff] at *
    omega
  total := by
    intro a b
    rw [Bool.or_eq_true, newestFirst_iff, newestFirst_iff]
    omega
  id := by
    intro a b hab hba
    rw [newestFirst_iff] at hab hba
    omega

omit [Zero ρ] in
theorem rankedFirst_order (rank : Frame → ρ) : FrameOrder (rankedFirst rank) where
  trans := by
    intro a b c hab hbc
    rw [rankedFirst_iff] at *
    rcases hab with hab | ⟨hab, htime⟩
    . rcases hbc with hbc | ⟨hbc, _⟩
      . exact Or.inl (hbc.trans hab)
      . rw [← hbc]
        exact Or.inl hab
    . rcases hbc with hbc | ⟨hbc, htime'⟩
      . rw [hab]
        exact Or.inl hbc
      . refine Or.inr ⟨hab.trans hbc, ?_⟩
        omega
  total := by
    intro a b
    rw [Bool.or_eq_true, rankedFirst_iff, rankedFirst_iff]
    rcases lt_trichotomy (rank a) (rank b) with h | h | h
    . exact Or.inr (Or.inl h)
    . have : (b.capturedAt < a.capturedAt ∨ a.capturedAt = b.capturedAt ∧ b.id ≤ a.id)
          ∨ (a.capturedAt < b.capturedAt ∨ b.capturedAt = a.capturedAt ∧ a.id ≤ b.id) := by
        omega
      rcases this with hle | hle
      . exact Or.inl (Or.inr ⟨h, hle⟩)
      . exact Or.inr (Or.inr ⟨h.symm, hle⟩)
    . exact Or.inl (Or.inl h)
  id := by
    intro a b hab hba
    rw [rankedFirst_iff] at hab hba
    rcases hab with hab | ⟨_, htime⟩
    . rcases hba with hba | ⟨hba, _⟩
      . exact absurd hab (lt_asymm hba)
      . rw [hba] at hab
        exact absurd hab (lt_irrefl _)
    . rcases hba with hba | ⟨_, htime'⟩
      . next heq =>
        rw [heq] at hba
        exact absurd hba (lt_irrefl _)
      . omega

theorem FrameOrder.untied {le : Frame → Frame → Bool} (h : FrameOrder le) {frames : List Frame}
    (hids : (frames.map Frame.id).Nodup) : Keyset.Untied le frames := by
  rw [List.Nodup, List.pairwise_map] at hids
  apply hids.imp
  intro a b hne hle
  exact hne (h.id a b hle.1 hle.2)

omit [LinearOrder ρ] [Zero ρ] in
/--
Pages that sort what matches and is behind the position, and take one row more than they return.
-/
theorem FrameOrder.follows {le : Frame → Frame → Bool} {ε : Type} (h : FrameOrder le)
    {hits : List Frame} (hids : (hits.map Frame.id).Nodup) {limit : Int} (hlimit : 1 ≤ limit)
    {position : Frame → ScreenFramePosition ρ} {item : Frame → FrameMeta ρ}
    {fetch : Option (ScreenFramePosition ρ) → Except ε (ScreenFramePage ρ)}
    {behind : Option (ScreenFramePosition ρ) → Frame → Bool}
    (hfetch : ∀ after, fetch after = .ok (framePage
      (((hits.filter (behind after)).mergeSort le).take (limit + 1).toNat) limit position item))
    (hnone : ∀ frame, behind none frame = true)
    (hsome : ∀ a frame, behind (some (position a)) frame = !le frame a)
    : Keyset.Follows fetch none ((hits.mergeSort le).map item) := by
  have huntied := h.untied hids
  have hstrict := Keyset.mergeSort_strict h.trans h.total huntied
  have hsucc : (limit + 1).toNat = limit.toNat + 1 := by omega
  refine @Keyset.follows Frame (FrameMeta ρ) (ScreenFramePosition ρ) ε (hits.mergeSort le)
    limit.toNat position item fetch ?_ ?_
  . omega
  . intro xs ys after hrows hafter
    rw [hfetch, hsucc, Keyset.mergeSort_filter h.trans h.total huntied]
    rcases hafter with ⟨hxs, hafter⟩ | ⟨zs, a, hxs, hafter⟩
    . have hall : (hits.mergeSort le).filter (behind after) = ys := by
        rw [hrows, hxs, List.nil_append, List.filter_eq_self]
        intro frame _
        rw [hafter]
        exact hnone frame
      rw [hall]
      rfl
    . rw [hxs, List.append_assoc, List.singleton_append] at hrows
      have hrest : (hits.mergeSort le).filter (behind after) = ys := by
        have hfun : behind after = fun frame => !le frame a := by
          funext frame
          rw [hafter]
          exact hsome a frame
        rw [hfun, hrows]
        rw [hrows] at hstrict
        exact Keyset.filter_after h.total hstrict
      rw [hrest]
      rfl

theorem clamp_pos (n high : Int) : 1 ≤ clamp n 1 high := by
  unfold clamp
  omega

theorem nodup_filter {frames : List Frame} (hids : (frames.map Frame.id).Nodup) (p : Frame → Bool)
    : ((frames.filter p).map Frame.id).Nodup :=
  List.Nodup.sublist (List.filter_sublist.map _) hids

omit [Zero ρ] in
theorem searchOrder_order (rank : Frame → ρ) (newest : Bool)
    : FrameOrder (searchOrder rank newest) := by
  cases newest with
  | true => exact newestFirst_order
  | false => exact rankedFirst_order rank

omit [Zero ρ] in
theorem behindHit_eq (rank : Frame → ρ) (newest : Bool) (a frame : Frame)
    : behindHit rank newest { capturedAt := a.capturedAt, id := a.id, rank := some (rank a) } frame
        = !searchOrder rank newest frame a := by
  rw [Bool.eq_iff_iff, Bool.not_eq_true']
  cases newest with
  | true =>
    rw [← Bool.not_eq_true]
    change _ ↔ ¬ newestFirst frame a = true
    rw [newestFirst_iff]
    simp only [behindHit, ↓reduceIte, decide_eq_true_eq]
    omega
  | false =>
    rw [← Bool.not_eq_true]
    change _ ↔ ¬ rankedFirst rank frame a = true
    rw [rankedFirst_iff]
    simp only [behindHit, Bool.false_eq_true, ↓reduceIte, Option.any_some, decide_eq_true_eq]
    rcases lt_trichotomy (rank frame) (rank a) with h | h | h
    . simp [h, h.ne, not_lt_of_gt h]
    . simp only [h, lt_irrefl, false_or, true_and]
      omega
    . simp [h, h.ne', not_lt_of_gt h]

/--
In each order, following the positions of the pages goes through exactly the frames that match, in that
order.
-/
theorem pages_complete (hosts : HostSyntax) (text : FullText ρ)
    (hrank : ∀ query frame, 0 ≤ text.tsRank query frame) (frames : List Frame)
    (hids : (frames.map Frame.id).Nodup)
    : (∀ agent start stop monitor limit,
        Keyset.Follows
          (fun after => (.ok (listScreenFramesPage frames agent start stop monitor limit after)
            : Except String (ScreenFramePage ρ)))
          none
          (((frames.filter (inTimeline agent start stop monitor)).mergeSort oldestFirst).map
            Frame.intoMeta))
      ∧ ∀ agent query start stop monitor limit newest filters,
        Keyset.Follows
            (fun after => searchScreenFramesFilteredPage hosts text frames agent query start stop
              monitor limit newest after filters)
            none
            (((frames.filter (isHit text agent query start stop monitor filters)).mergeSort
              (searchOrder (hitRank text query) newest)).map (searchMeta text query))
          ∨ (filters.validate hosts ≠ .ok ()
              ∨ query = "" ∧ (filters.active && newest) = false)
            ∧ ∀ after, ∃ e, searchScreenFramesFilteredPage hosts text frames agent query start stop
              monitor limit newest after filters = .error e := by
  constructor
  . intro agent start stop monitor limit
    refine @FrameOrder.follows ρ oldestFirst String oldestFirst_order _ (nodup_filter hids _)
      (clamp limit 1 5000) (clamp_pos limit _)
      (fun r => { capturedAt := r.capturedAt, id := r.id, rank := none }) Frame.intoMeta _
      (fun after frame => after.all (fun p => behindFrame p frame)) ?_ ?_ ?_
    . intro after
      simp only [listScreenFramesPage, List.filter_filter, Bool.and_comm]
    . intro frame
      rfl
    . intro a frame
      rw [Bool.eq_iff_iff, Bool.not_eq_true', ← Bool.not_eq_true, oldestFirst_iff]
      simp only [behindFrame, Option.all_some, decide_eq_true_eq]
      omega
  . intro agent query start stop monitor limit newest filters
    cases hvalid : filters.validate hosts with
    | error e =>
      refine Or.inr ⟨Or.inl (by simp), ?_⟩
      intro after
      refine ⟨e, ?_⟩
      unfold searchScreenFramesFilteredPage
      rw [hvalid]
      rfl
    | ok =>
      cases hquery : decide (query = "") && !(filters.active && newest) with
      | true =>
        simp only [Bool.and_eq_true, decide_eq_true_eq, Bool.not_eq_true'] at hquery
        refine Or.inr ⟨Or.inr hquery, ?_⟩
        intro after
        refine ⟨"invalid context-only search", ?_⟩
        unfold searchScreenFramesFilteredPage
        rw [hvalid]
        simp [hquery]
        rfl
      | false =>
        apply Or.inl
        refine @FrameOrder.follows ρ _ String (searchOrder_order (hitRank text query) newest) _
          (nodup_filter hids _) (clamp limit 1 500) (clamp_pos limit _)
          (fun r => {
            capturedAt := r.capturedAt
            id := r.id
            rank := some (hitRank text query r)
          })
          (searchMeta text query) _
          (fun after frame => (after.bind (·.rank)).all (0 ≤ ·)
            && after.all (fun p => behindHit (hitRank text query) newest p frame)) ?_ ?_ ?_
        . intro after
          unfold searchScreenFramesFilteredPage
          rw [hvalid]
          simp only [hquery]
          rfl
        . intro frame
          rfl
        . intro a frame
          have hpos : 0 ≤ hitRank text query a := by
            unfold hitRank
            split
            . exact le_refl _
            . exact hrank query a
          simp only [Option.bind_some, Option.all_some, hpos, decide_true, Bool.true_and]
          exact behindHit_eq _ newest a frame

namespace Example

def frame (id : Int) : Frame where
  id
  agentId := 1
  capturedAt := 100
  monitor := 0
  w := 800
  h := 600
  phash := -1
  captureContext := none
  captureDurationMs := none
  ocrText := some "quarterly report"
  contextApp := none
  contextTitle := none
  contextUrlHost := none

def hosts : HostSyntax where
  parseIp _ := none
  domainToAscii := some
  urlHost := some

def text : FullText Nat where
  found query frame := frame.ocrText = some query
  tsRank _ _ := 1
  tsHeadline query _ := query

end Example

-- Three frames of one instant, on pages of one frame each.
theorem pages_complete_tied
    : Keyset.Follows
        (fun after => searchScreenFramesFilteredPage Example.hosts Example.text
          [Example.frame 2, Example.frame 3, Example.frame 1] 1 "quarterly report" none 200 none 1
          false after Filters.default)
        none
        ((([Example.frame 2, Example.frame 3, Example.frame 1].filter
          (isHit Example.text 1 "quarterly report" none 200 none Filters.default)).mergeSort
          (searchOrder (hitRank Example.text "quarterly report") false)).map
            (searchMeta Example.text "quarterly report")) := by
  have hpages := pages_complete Example.hosts Example.text (fun _ _ => Nat.zero_le _)
    [Example.frame 2, Example.frame 3, Example.frame 1] (by decide)
  rcases hpages.2 1 "quarterly report" none 200 none 1 false Filters.default with
    hfollows | ⟨hinvalid, _⟩
  . exact hfollows
  . rcases hinvalid with hinvalid | ⟨hquery, _⟩
    . exact absurd rfl hinvalid
    . exact absurd hquery (by decide)

end Recall

end Vantyr
