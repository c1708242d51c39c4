import Mathlib.Data.List.Nodup
import Vantyr.Server.Recall.Cursor
import Vantyr.Server.Recall.Ingest

/-!
This module contains the loading of a replay: the page of the timeline that the server answers with
(`history_frames` of `server/src/recall/api/handlers/frames.rs`), and the loop of the dashboard that asks
for one page after the other (`frontend/src/features/recall/lib/recallPaging.ts`). Each request is answered
at its own time and from the rows that are there then. Times of rows are counted in microseconds from the
epoch of the database, those of a cursor in nanoseconds. Audit rows and the fields that repeat the request
are left out.
-/

namespace Vantyr

namespace RecallPaging

open Recall

/-!
The server.
-/

structure ScreenFramesResponse where
  frames : List (FrameMeta Nat)
  hasMore : Bool
  complete : Option Bool
  nextCursor : Option String

-- The parameters that the dashboard repeats with each request.
structure FramesQuery where
  agentId : Uuid
  start : Option String
  stop : Option String
  monitor : Option Int
  limit : Int

def FramesQuery.request (q : FramesQuery) : PageRequest where
  agentId := q.agentId
  query := none
  start := q.start
  stop := q.stop
  monitor := q.monitor
  scope := none
  sort := none
  filters := { app := none, appMode := none, title := none, urlHost := none, context := none }

def maxFrames : Int := 5000

def ofPgTimestamp (time : Int) : Int :=
  time * 1000 + 946684800 * 10 ^ 9

def historyFrames (fmt : Formats) (now : Int) (frames : List Frame) (q : FramesQuery)
    (cursor : Option String) : Except String ScreenFramesResponse :=
  match filteredPageContext fmt now q.request cursor with
  | .error e => .error e
  | .ok context =>
    match context.start with
    | none => .error "frame range has a lower bound"
    | some start =>
      let after := cursor.map fun _ =>
        { capturedAt := pgTimestamp context.position.capturedAt, id := context.position.id, rank := none }
      let page : ScreenFramePage Nat :=
        listScreenFramesPage frames q.agentId (pgTimestamp start) (pgTimestamp context.stop)
          context.monitor (clamp q.limit 1 maxFrames) after
      let next := nextCursor fmt context <| page.next.map fun p =>
        { capturedAt := ofPgTimestamp p.capturedAt, id := p.id, rank := none }
      .ok {
        frames := page.items
        hasMore := next.isSome
        complete := some next.isNone
        nextCursor := next
      }

/-!
The dashboard.
-/

structure FrameLoadProgress where
  frames : List (FrameMeta Nat)
  complete : Option Bool

-- `Map.set`: a frame that is there keeps its place.
def setFrame (frame : FrameMeta Nat) : List (FrameMeta Nat) → List (FrameMeta Nat)
  | [] => [frame]
  | f :: rest => if f.id = frame.id then frame :: rest else f :: setFrame frame rest

-- `millis` is `Date.parse` of the time of a frame.
def earlier (millis : Int → Int) (a b : FrameMeta Nat) : Bool :=
  millis a.capturedAt < millis b.capturedAt
    ∨ millis a.capturedAt = millis b.capturedAt ∧ a.id ≤ b.id

structure Load where
  byId : List (FrameMeta Nat)
  cursors : List String
  cursor : Option String

def Load.init : Load where
  byId := []
  cursors := []
  cursor := none

inductive Received where
  | failed (message : String)
  | finished (progress : FrameLoadProgress)
  | more (load : Load) (progress : FrameLoadProgress)

def Load.receive (millis : Int → Int) (l : Load) (page : ScreenFramesResponse) : Received :=
  let byId := page.frames.foldl (fun byId frame => setFrame frame byId) l.byId
  let next := page.nextCursor.filter (· ≠ "")
  if page.hasMore && next.isNone then
    .failed "History response is incomplete but has no continuation cursor."
  else if next.any l.cursors.contains then
    .failed "History pagination did not advance. Reload to retry."
  else
    let frames := byId.mergeSort (earlier millis)
    match next with
    | none => .finished { frames, complete := page.complete }
    | some cursor =>
      .more { byId, cursors := l.cursors ++ [cursor], cursor := some cursor }
        { frames, complete := some false }

inductive Status where
  | loading
  | finished
  | failed (message : String)
  deriving DecidableEq, Repr

/--
The progress that is shown and how the loading ends, for the answers to the requests that go out before
the view is left.
-/
def loadFramePages (millis : Int → Int) (l : Load) :
    List (Option String → Except String ScreenFramesResponse) → List FrameLoadProgress × Status
  | [] => ([], .loading)
  | fetchPage :: later =>
    match fetchPage l.cursor with
    | .error e => ([], .failed e)
    | .ok page =>
      match l.receive millis page with
      | .failed message => ([], .failed message)
      | .finished progress => ([progress], .finished)
      | .more l progress =>
        let (rest, status) := loadFramePages millis l later
        (progress :: rest, status)

/-!
A request with the cursor of a frame.
-/

theorem pgTimestamp_ofPgTimestamp (time : Int) : pgTimestamp (ofPgTimestamp time) = time := by
  have h : ofPgTimestamp time - 946684800 * 10 ^ 9 = time * 1000 := by
    unfold ofPgTimestamp
    omega
  rw [pgTimestamp, h]
  exact Int.mul_tdiv_cancel time (by decide)

def positionOf (f : Frame) : ScreenFramePosition F32 where
  capturedAt := ofPgTimestamp f.capturedAt
  id := f.id
  rank := none

def pagePosition (f : Frame) : ScreenFramePosition Nat where
  capturedAt := f.capturedAt
  id := f.id
  rank := none

def cursorOf (fmt : Formats) (c : HistoryCursor) (f : Frame) : String :=
  fmt.text.encode (fmt.text.toVec (({ c with position := positionOf f } : HistoryCursor).toJson fmt.chrono))

/--
A range of the timeline, with bounds that are whole microseconds.
-/
structure Ranged (fmt : Formats) (now : Int) (q : FramesQuery) (c : HistoryCursor) (start stop : Int) :
    Prop where
  first : filteredPageContext fmt now q.request none = .ok c
  start : c.start = some (ofPgTimestamp start)
  stop : c.stop = ofPgTimestamp stop
  monitor : ∀ m ∈ q.monitor, m < 2 ^ 31

-- What the libraries are relied on for the cursor that leads behind a frame.
structure Readable (fmt : Formats) (c : HistoryCursor) (f : Frame) : Prop where
  id : 0 < f.id ∧ f.id < 2 ^ 63
  text : ExactText fmt { c with position := positionOf f }
  nonempty : cursorOf fmt c f ≠ ""

-- The answer once the range is known.
def respond (fmt : Formats) (q : FramesQuery) (c : HistoryCursor) (start stop : Int) (frames : List Frame)
    (after : Option (ScreenFramePosition Nat)) : ScreenFramesResponse :=
  let page := listScreenFramesPage frames q.agentId start stop q.monitor (clamp q.limit 1 maxFrames) after
  let next := nextCursor fmt c <| page.next.map fun p =>
    { capturedAt := ofPgTimestamp p.capturedAt, id := p.id, rank := none }
  {
    frames := page.items
    hasMore := next.isSome
    complete := some next.isNone
    nextCursor := next
  }

theorem historyFrames_ok {fmt : Formats} {now : Int} {q : FramesQuery} {x : HistoryCursor} {start stop : Int}
    {cursor : Option String} (frames : List Frame)
    (hx : filteredPageContext fmt now q.request cursor = .ok x)
    (hstart : x.start = some (ofPgTimestamp start)) (hstop : x.stop = ofPgTimestamp stop)
    (hmonitor : x.monitor = q.monitor) :
    historyFrames fmt now frames q cursor
      = .ok (respond fmt q x start stop frames (cursor.map fun _ =>
          { capturedAt := pgTimestamp x.position.capturedAt, id := x.position.id, rank := none })) := by
  rw [historyFrames, hx]
  simp only [hstart, hstop, pgTimestamp_ofPgTimestamp, hmonitor]
  rfl

namespace Ranged

variable {fmt : Formats} {now : Int} {q : FramesQuery} {c : HistoryCursor} {start stop : Int}

theorem query (h : Ranged fmt now q c start stop) : c.query = none :=
  (first_page h.first).2.1

theorem agrees (h : Ranged fmt now q c start stop) (p : ScreenFramePosition F32) :
    Agrees fmt { c with position := p } q.request := by
  obtain ⟨cursor, hdecode, hchecks, -⟩ := filteredPageContext_ok h.first
  cases hdecode
  obtain ⟨begin, hrange, hstart⟩ := hchecks.range
  obtain ⟨hparseStop, hparseStart, -⟩ := parseRange_ok hrange
  simp only [Option.bind_none, Option.map_none, Option.or_none] at hparseStop hparseStart
  have hscope : c.scope = "range" := hchecks.scope
  exact {
    agent := hchecks.agent.symm
    query := hchecks.query.symm
    start := by
      intro s hs
      rw [Option.mem_def] at hs
      rw [hs] at hparseStart
      exact ⟨begin, hparseStart, by rw [hstart, lowerBound, hscope]; rfl⟩
    stop := by
      intro s hs
      rw [Option.mem_def] at hs
      rw [hs] at hparseStop
      exact hparseStop
    monitor := by
      intro m hm
      rw [Option.mem_def] at hm
      rw [hchecks.monitor, hm]
      rfl
    scope := nofun
    sort := nofun
    app := nofun
    appMode := nofun
    title := nofun
    urlHost := nofun
    context := nofun
  }

theorem inactive (h : Ranged fmt now q c start stop) : c.filters.active = false := by
  obtain ⟨-, -, happ, -, htitle, hhost, hcontext⟩ := resolve_ok (first_page h.first).2.2.2
  have hurl : c.filters.urlHost = none := (Except.ok.inj hhost).symm
  have happ : c.filters.app = none := happ
  have htitle : c.filters.title = none := htitle
  have hcontext : c.filters.context = "all" := hcontext
  simp [Filters.active, happ, htitle, hurl, hcontext]

theorem position (h : Ranged fmt now q c start stop) {f : Frame} (hf : Readable fmt c f)
    (hrange : inTimeline q.agentId start stop q.monitor f = true) : PagePosition c (positionOf f) := by
  simp only [inTimeline, decide_eq_true_eq] at hrange
  obtain ⟨-, hstart, hstop, -⟩ := hrange
  refine ⟨hf.id, ?_, ?_, fun _ => rfl, fun hq => absurd h.query hq, fun hq => ?_⟩
  . intro begin hbegin
    rw [h.start, Option.mem_def, Option.some.injEq] at hbegin
    subst hbegin
    simp only [positionOf, ofPgTimestamp]
    omega
  . rw [h.stop]
    simp only [positionOf, ofPgTimestamp]
    omega
  . exact absurd (h.query.symm.trans hq) nofun

theorem decode (h : Ranged fmt now q c start stop) {f : Frame} (hf : Readable fmt c f)
    (hrange : inTimeline q.agentId start stop q.monitor f = true) :
    decodeCursor fmt (some (cursorOf fmt c f)) = .ok (some { c with position := positionOf f }) := by
  obtain ⟨hfirst, hquery, hmonitor, -⟩ := first_page h.first
  have hnone : ∀ p ∈ c.query, Text.trim p = p ∧ p.utf8ByteSize ≤ 4096 := by
    rw [h.query]
    nofun
  have hvalid := valid_position hfirst hnone (fun _ => h.inactive) (h.position hf hrange)
  have hwide : ∀ m ∈ c.monitor, m < 2 ^ 31 := by
    rw [show c.monitor = q.monitor from hmonitor]
    exact h.monitor
  have hdecode := decodeCursor_encode (hfirst.setPosition (positionOf f)) hf.text
    (fun p hp => (hnone p hp).2) hwide hf.id.2
  rw [hvalid, if_pos rfl] at hdecode
  exact hdecode

theorem cursorOf_inj (h : Ranged fmt now q c start stop) {f g : Frame} (hf : Readable fmt c f)
    (hg : Readable fmt c g) (hfrange : inTimeline q.agentId start stop q.monitor f = true)
    (hgrange : inTimeline q.agentId start stop q.monitor g = true)
    (heq : cursorOf fmt c f = cursorOf fmt c g) : f.capturedAt = g.capturedAt ∧ f.id = g.id := by
  have hdecode := h.decode hf hfrange
  rw [heq, h.decode hg hgrange] at hdecode
  have hpositions : positionOf g = positionOf f := by
    simpa using congrArg (Option.map HistoryCursor.position) (Except.ok.inj hdecode)
  simp only [positionOf, ScreenFramePosition.mk.injEq, ofPgTimestamp] at hpositions
  omega

theorem historyFrames_first (h : Ranged fmt now q c start stop) (frames : List Frame) :
    historyFrames fmt now frames q none = .ok (respond fmt q c start stop frames none) :=
  historyFrames_ok frames h.first h.start h.stop (first_page h.first).2.2.1

theorem historyFrames_next (h : Ranged fmt now q c start stop) (later : Int) (frames : List Frame)
    {f : Frame} (hf : Readable fmt c f) (hrange : inTimeline q.agentId start stop q.monitor f = true) :
    historyFrames fmt later frames q (some (cursorOf fmt c f))
      = .ok (respond fmt q c start stop frames (some (pagePosition f))) := by
  have hcontext : filteredPageContext fmt later q.request (some (cursorOf fmt c f))
      = .ok { c with position := positionOf f } :=
    filteredPageContext_agrees later (h.decode hf hrange)
      ((first_page h.first).1.setPosition (positionOf f)) hf.text (h.agrees _) (fun hmode => absurd rfl hmode)
  rw [historyFrames_ok frames hcontext h.start h.stop (first_page h.first).2.2.1]
  simp only [Option.map_some, positionOf, pgTimestamp_ofPgTimestamp]
  rfl

end Ranged

/-!
One page.
-/

def behind (after : Option Frame) (frame : Frame) : Bool :=
  after.all fun a => !oldestFirst frame a

theorem behind_some {a f : Frame} : behind (some a) f = true
    ↔ a.capturedAt < f.capturedAt ∨ a.capturedAt = f.capturedAt ∧ a.id < f.id := by
  rw [behind, Option.all_some, Bool.not_eq_true', ← Bool.not_eq_true, oldestFirst_iff]
  omega

theorem oldestFirst_of_passed {a f : Frame} (h : behind (some a) f = false) : oldestFirst f a = true := by
  simpa [behind] using h

-- The rows behind a frame in the order of the timeline.
def rowsBehind (q : FramesQuery) (start stop : Int) (frames : List Frame) (after : Option Frame) :
    List Frame :=
  (frames.filter fun frame => inTimeline q.agentId start stop q.monitor frame && behind after frame).mergeSort
    oldestFirst

theorem mem_rowsBehind {q : FramesQuery} {start stop : Int} {frames : List Frame} {after : Option Frame}
    {f : Frame} :
    f ∈ rowsBehind q start stop frames after
      ↔ f ∈ frames ∧ inTimeline q.agentId start stop q.monitor f = true ∧ behind after f = true := by
  rw [rowsBehind, List.mem_mergeSort, List.mem_filter, Bool.and_eq_true]

theorem behindFrame_pagePosition (a frame : Frame) :
    behindFrame (pagePosition a) frame = !oldestFirst frame a := by
  have hiff : behindFrame (pagePosition a) frame = true
      ↔ frame.capturedAt > a.capturedAt ∨ frame.capturedAt = a.capturedAt ∧ frame.id > a.id :=
    decide_eq_true_iff
  rw [Bool.eq_iff_iff, hiff, Bool.not_eq_true', ← Bool.not_eq_true, oldestFirst_iff]
  omega

theorem listScreenFramesPage_eq (q : FramesQuery) (start stop : Int) (frames : List Frame)
    (after : Option Frame) :
    ∃ size, 0 < size
      ∧ listScreenFramesPage frames q.agentId start stop q.monitor (clamp q.limit 1 maxFrames)
          (after.map pagePosition)
        = Keyset.page ((rowsBehind q start stop frames after).take (size + 1)) size pagePosition
            (Frame.intoMeta (ρ := Nat)) := by
  have hlimit : 1 ≤ clamp (clamp q.limit 1 maxFrames) 1 5000 := clamp_pos _ _
  have hbehind (frame : Frame) :
      (after.map pagePosition).all (fun p => behindFrame p frame) = behind after frame := by
    cases after with
    | none => rfl
    | some a => exact behindFrame_pagePosition a frame
  refine ⟨(clamp (clamp q.limit 1 maxFrames) 1 5000).toNat, by omega, ?_⟩
  have hsucc : (clamp (clamp q.limit 1 maxFrames) 1 5000 + 1).toNat
      = (clamp (clamp q.limit 1 maxFrames) 1 5000).toNat + 1 := by omega
  rw [listScreenFramesPage]
  simp only [hbehind, hsucc, framePage]
  rfl

/--
A page is either the last one, with all rows behind the position, or it leads on from its last row.
-/
theorem page_cases (fmt : Formats) (q : FramesQuery) (c : HistoryCursor) (start stop : Int)
    {frames : List Frame} (hids : (frames.map Frame.id).Nodup) (after : Option Frame) :
    let r := respond fmt q c start stop frames (after.map pagePosition)
    let rows := rowsBehind q start stop frames after
    (r.frames = rows.map Frame.intoMeta ∧ r.hasMore = false ∧ r.complete = some true ∧ r.nextCursor = none)
      ∨ ∃ last ∈ rows, ∃ shown,
        r.frames = shown.map Frame.intoMeta
        ∧ r.hasMore = true
        ∧ r.nextCursor = some (cursorOf fmt c last)
        ∧ shown ⊆ rows
        ∧ ∀ f ∈ rows, oldestFirst f last = true → f ∈ shown := by
  intro r rows
  obtain ⟨size, hsize, hpage⟩ := listScreenFramesPage_eq q start stop frames after
  have hstrict : rows.Pairwise fun a b => oldestFirst b a = false :=
    Keyset.mergeSort_strict oldestFirst_order.trans oldestFirst_order.total
      (oldestFirst_order.untied (nodup_filter hids _))
  by_cases hlast : rows.length ≤ size
  . refine .inl ?_
    have hnext : ¬ size < (rows.take (size + 1)).length := by
      rw [List.length_take]
      omega
    have hrows : (rows.take (size + 1)).take size = rows := by
      rw [List.take_take, List.take_of_length_le (by omega)]
    simp only [r, respond, hpage, Keyset.page, if_neg hnext, rows, hrows, nextCursor, Option.map_none]
    exact ⟨trivial, rfl, rfl, trivial⟩
  . refine .inr ?_
    have hnext : size < (rows.take (size + 1)).length := by
      rw [List.length_take]
      omega
    have hshown : (rows.take (size + 1)).take size = rows.take size := by
      rw [List.take_take, Nat.min_eq_left (by omega)]
    have hne : rows.take size ≠ [] := by
      rw [← List.length_pos_iff, List.length_take]
      omega
    refine ⟨(rows.take size).getLast hne, List.mem_of_mem_take (List.getLast_mem hne), rows.take size, ?_⟩
    simp only [r, respond, hpage, Keyset.page, if_pos hnext, rows, hshown, nextCursor, Option.map_some,
      List.getLast?_eq_some_getLast hne]
    refine ⟨trivial, rfl, rfl, List.take_subset _ _, fun f hf hle => ?_⟩
    rw [← List.take_append_drop size (rowsBehind q start stop frames after)] at hf
    rcases List.mem_append.mp hf with hf | hf
    . exact hf
    . have hsplit : (rows.take size ++ rows.drop size).Pairwise fun a b => oldestFirst b a = false := by
        rwa [List.take_append_drop]
      have := (List.pairwise_append.mp hsplit).2.2 _ (List.getLast_mem hne) f hf
      rw [hle] at this
      contradiction

/-!
The frames that are shown.
-/

theorem mem_setFrame {frame m : FrameMeta Nat} {byId : List (FrameMeta Nat)} (h : m ∈ setFrame frame byId) :
    m = frame ∨ m ∈ byId := by
  induction byId with
  | nil => simpa [setFrame] using h
  | cons f rest ih =>
    rw [setFrame] at h
    split at h
    . rcases List.mem_cons.mp h with rfl | h
      . exact .inl rfl
      . exact .inr (List.mem_cons_of_mem f h)
    . rcases List.mem_cons.mp h with rfl | h
      . exact .inr (List.mem_cons_self ..)
      . exact (ih h).imp_right (List.mem_cons_of_mem f)

theorem setFrame_self (frame : FrameMeta Nat) (byId : List (FrameMeta Nat)) :
    frame ∈ setFrame frame byId := by
  induction byId with
  | nil => exact List.mem_singleton_self frame
  | cons f rest ih =>
    rw [setFrame]
    split
    . exact List.mem_cons_self ..
    . exact List.mem_cons_of_mem f ih

-- A frame stays unless it is replaced by another one of its id.
theorem mem_setFrame_of_mem {frame m : FrameMeta Nat} {byId : List (FrameMeta Nat)} (hm : m ∈ byId)
    (hsame : frame.id = m.id → frame = m) : m ∈ setFrame frame byId := by
  induction byId with
  | nil => contradiction
  | cons f rest ih =>
    rw [setFrame]
    split
    . next hid =>
      rcases List.mem_cons.mp hm with rfl | hm
      . rw [hsame hid.symm]
        exact List.mem_cons_self ..
      . exact List.mem_cons_of_mem frame hm
    . rcases List.mem_cons.mp hm with rfl | hm
      . exact List.mem_cons_self ..
      . exact List.mem_cons_of_mem f (ih hm)

theorem ids_setFrame (frame : FrameMeta Nat) (byId : List (FrameMeta Nat)) (i : Int) :
    i ∈ (setFrame frame byId).map FrameMeta.id ↔ i = frame.id ∨ i ∈ byId.map FrameMeta.id := by
  induction byId with
  | nil => simp [setFrame]
  | cons f rest ih =>
    rw [setFrame]
    split
    . next hid => simp [hid]
    . rw [List.map_cons, List.mem_cons, ih, List.map_cons, List.mem_cons]
      tauto

theorem nodup_setFrame (frame : FrameMeta Nat) {byId : List (FrameMeta Nat)}
    (h : (byId.map FrameMeta.id).Nodup) : ((setFrame frame byId).map FrameMeta.id).Nodup := by
  induction byId with
  | nil => simp [setFrame]
  | cons f rest ih =>
    rw [List.map_cons, List.nodup_cons] at h
    rw [setFrame]
    split
    . next hid =>
      rw [List.map_cons, List.nodup_cons, ← hid]
      exact h
    . next hid =>
      rw [List.map_cons, List.nodup_cons, ids_setFrame]
      exact ⟨fun hmem => hmem.elim hid h.1, ih h.2⟩

def collect (byId frames : List (FrameMeta Nat)) : List (FrameMeta Nat) :=
  frames.foldl (fun byId frame => setFrame frame byId) byId

theorem mem_collect {byId frames : List (FrameMeta Nat)} {m : FrameMeta Nat} (h : m ∈ collect byId frames) :
    m ∈ frames ∨ m ∈ byId := by
  induction frames generalizing byId with
  | nil => exact .inr h
  | cons frame frames ih =>
    rcases ih h with h | h
    . exact .inl (List.mem_cons_of_mem frame h)
    . rcases mem_setFrame h with rfl | h
      . exact .inl (List.mem_cons_self ..)
      . exact .inr h

theorem nodup_collect {byId frames : List (FrameMeta Nat)} (h : (byId.map FrameMeta.id).Nodup) :
    ((collect byId frames).map FrameMeta.id).Nodup := by
  induction frames generalizing byId with
  | nil => exact h
  | cons frame frames ih => exact ih (nodup_setFrame frame h)

theorem mem_collect_of_mem {byId frames : List (FrameMeta Nat)} {m : FrameMeta Nat}
    (hm : m ∈ frames ∨ m ∈ byId) (hsame : ∀ frame ∈ frames, frame.id = m.id → frame = m) :
    m ∈ collect byId frames := by
  induction frames generalizing byId with
  | nil => simpa [collect] using hm
  | cons frame frames ih =>
    obtain ⟨hframe, hrest⟩ := List.forall_mem_cons.mp hsame
    refine ih ?_ hrest
    rcases hm with hm | hm
    . rcases List.mem_cons.mp hm with rfl | hm
      . exact .inr (setFrame_self m byId)
      . exact .inl hm
    . exact .inr (mem_setFrame_of_mem hm hframe)

theorem earlier_trans {millis : Int → Int} (a b d : FrameMeta Nat) (hab : earlier millis a b = true)
    (hbd : earlier millis b d = true) : earlier millis a d = true := by
  simp only [earlier, decide_eq_true_eq] at *
  omega

theorem earlier_total {millis : Int → Int} (a b : FrameMeta Nat) :
    (earlier millis a b || earlier millis b a) = true := by
  simp only [earlier, Bool.or_eq_true, decide_eq_true_eq]
  omega

/-!
A whole run.
-/

/--
Rows as they are at one time: their ids are distinct, and those in the range can be in a cursor.
-/
structure Stored (fmt : Formats) (q : FramesQuery) (c : HistoryCursor) (start stop : Int)
    (frames : List Frame) : Prop where
  ids : (frames.map Frame.id).Nodup
  readable : ∀ f ∈ frames, inTimeline q.agentId start stop q.monitor f = true → Readable fmt c f

-- The row is there at each of the times.
def Stays (q : FramesQuery) (start stop : Int) (stores : List (List Frame)) (f : Frame) : Prop :=
  inTimeline q.agentId start stop q.monitor f = true ∧ ∀ frames ∈ stores, f ∈ frames

-- A frame that is shown was in the range when its page was read.
def Sourced (q : FramesQuery) (start stop : Int) (stores : List (List Frame)) (m : FrameMeta Nat) : Prop :=
  ∃ frames ∈ stores, ∃ f ∈ frames, inTimeline q.agentId start stop q.monitor f = true ∧ m = f.intoMeta

/--
What is shown at any time: each frame once, in the order of the replay, and no frame that was not there.
-/
structure Shows (millis : Int → Int) (q : FramesQuery) (start stop : Int) (stores : List (List Frame))
    (p : FrameLoadProgress) : Prop where
  ids : (p.frames.map FrameMeta.id).Nodup
  sorted : p.frames.Pairwise fun a b => earlier millis a b = true
  sourced : ∀ m ∈ p.frames, Sourced q start stop stores m

/--
The invariant: the loader has asked for the rows up to `after`, and has what stays of them.
-/
structure Loaded (fmt : Formats) (q : FramesQuery) (c : HistoryCursor) (start stop : Int)
    (stores : List (List Frame)) (l : Load) (after : Option Frame) : Prop where
  cursor : l.cursor = after.map (cursorOf fmt c)
  reached : ∀ a ∈ after, Readable fmt c a ∧ inTimeline q.agentId start stop q.monitor a = true
  cursors : ∀ s ∈ l.cursors, ∃ g, s = cursorOf fmt c g ∧ Readable fmt c g
    ∧ inTimeline q.agentId start stop q.monitor g = true ∧ ∃ a ∈ after, oldestFirst g a = true
  ids : (l.byId.map FrameMeta.id).Nodup
  sourced : ∀ m ∈ l.byId, Sourced q start stop stores m
  passed : ∀ f, Stays q start stop stores f → behind after f = false → f.intoMeta ∈ l.byId

section run

variable {fmt : Formats} {now : Int} {q : FramesQuery} {c : HistoryCursor} {start stop : Int}
  {stores : List (List Frame)} {millis : Int → Int}

theorem loaded_init : Loaded fmt q c start stop stores .init none where
  cursor := rfl
  reached := fun a ha => absurd ha (Option.not_mem_none a)
  cursors := fun s hs => absurd hs List.not_mem_nil
  ids := List.nodup_nil
  sourced := fun m hm => absurd hm List.not_mem_nil
  passed := fun f _ hbehind => by simp [behind] at hbehind

namespace Loaded

variable {l : Load} {after : Option Frame} {frames : List Frame}

theorem shows (hl : Loaded fmt q c start stop stores l after) (millis : Int → Int) (hmem : frames ∈ stores)
    {shown : List Frame} (hshown : shown ⊆ rowsBehind q start stop frames after)
    (complete : Option Bool) :
    Shows millis q start stop stores
      { frames := (collect l.byId (shown.map Frame.intoMeta)).mergeSort (earlier millis), complete } where
  ids := by
    have hperm := (List.mergeSort_perm (collect l.byId (shown.map Frame.intoMeta)) (earlier millis)).map
      FrameMeta.id
    exact hperm.nodup_iff.mpr (nodup_collect hl.ids)
  sorted := List.pairwise_mergeSort earlier_trans earlier_total _
  sourced := by
    intro m hm
    rw [List.mem_mergeSort] at hm
    rcases mem_collect hm with hm | hm
    . obtain ⟨f, hf, rfl⟩ := List.mem_map.mp hm
      obtain ⟨hrow, hrange, -⟩ := mem_rowsBehind.mp (hshown hf)
      exact ⟨frames, hmem, f, hrow, hrange, rfl⟩
    . exact hl.sourced m hm

/-- A row that stays is collected with the page it is on, and is not replaced by another. -/
theorem collected (hl : Loaded fmt q c start stop stores l after)
    (hstored : Stored fmt q c start stop frames) (hmem : frames ∈ stores) {shown : List Frame}
    (hshown : shown ⊆ rowsBehind q start stop frames after) {f : Frame}
    (hf : Stays q start stop stores f) (hpassed : behind after f = true → f ∈ shown) :
    f.intoMeta ∈ collect l.byId (shown.map Frame.intoMeta) := by
  refine mem_collect_of_mem ?_ ?_
  . cases hbehind : behind after f with
    | true => exact .inl (List.mem_map_of_mem (hpassed hbehind))
    | false => exact .inr (hl.passed f hf hbehind)
  . intro m hm hid
    obtain ⟨g, hg, rfl⟩ := List.mem_map.mp hm
    have hrow := (mem_rowsBehind.mp (hshown hg)).1
    rw [List.inj_on_of_nodup_map hstored.ids hrow (hf.2 frames hmem) hid]

-- A cursor that was used before belongs to a row that is not behind the last position.
theorem unused (hl : Loaded fmt q c start stop stores l after) (h : Ranged fmt now q c start stop)
    (hstored : Stored fmt q c start stop frames) {last : Frame}
    (hlast : last ∈ rowsBehind q start stop frames after) :
    l.cursors.contains (cursorOf fmt c last) = false := by
  obtain ⟨hrow, hrange, hbehind⟩ := mem_rowsBehind.mp hlast
  rw [List.contains_eq_mem, decide_eq_false_iff_not]
  intro hused
  obtain ⟨g, heq, hg, hgrange, a, ha, hle⟩ := hl.cursors _ hused
  obtain ⟨htime, hid⟩ := h.cursorOf_inj (hstored.readable last hrow hrange) hg hrange hgrange heq
  rw [Option.mem_def] at ha
  rw [ha, behind_some] at hbehind
  rw [oldestFirst_iff] at hle
  omega

-- What a page that leads on from its last row leaves.
theorem next (hl : Loaded fmt q c start stop stores l after) (hstored : Stored fmt q c start stop frames)
    (hmem : frames ∈ stores) {last : Frame} (hlast : last ∈ rowsBehind q start stop frames after)
    {shown : List Frame} (hshown : shown ⊆ rowsBehind q start stop frames after)
    (hupTo : ∀ f ∈ rowsBehind q start stop frames after, oldestFirst f last = true → f ∈ shown) :
    Loaded fmt q c start stop stores {
      byId := collect l.byId (shown.map Frame.intoMeta)
      cursors := l.cursors ++ [cursorOf fmt c last]
      cursor := some (cursorOf fmt c last)
    } (some last) := by
  obtain ⟨hrow, hrange, hbehind⟩ := mem_rowsBehind.mp hlast
  have hreadable := hstored.readable last hrow hrange
  refine ⟨rfl, ?_, ?_, nodup_collect hl.ids, ?_, ?_⟩
  . rintro a ⟨⟩
    exact ⟨hreadable, hrange⟩
  . intro s hs
    rcases List.mem_append.mp hs with hs | hs
    . obtain ⟨g, heq, hg, hgrange, a, ha, hle⟩ := hl.cursors s hs
      refine ⟨g, heq, hg, hgrange, last, rfl, ?_⟩
      rw [Option.mem_def] at ha
      rw [ha, behind_some] at hbehind
      rw [oldestFirst_iff] at hle ⊢
      omega
    . refine ⟨last, List.mem_singleton.mp hs, hreadable, hrange, last, rfl, ?_⟩
      rw [oldestFirst_iff]
      omega
  . intro m hm
    exact (hl.shows id hmem hshown none).sourced m (List.mem_mergeSort.mpr hm)
  . intro f hf hpassed
    refine hl.collected hstored hmem hshown hf fun hahead => ?_
    exact hupTo f (mem_rowsBehind.mpr ⟨hf.2 frames hmem, hf.1, hahead⟩) (oldestFirst_of_passed hpassed)

theorem receive (hl : Loaded fmt q c start stop stores l after) (millis : Int → Int)
    (h : Ranged fmt now q c start stop) (hstored : Stored fmt q c start stop frames)
    (hmem : frames ∈ stores) :
    let r := respond fmt q c start stop frames (after.map pagePosition)
    (∃ p, l.receive millis r = .finished p ∧ Shows millis q start stop stores p ∧ p.complete = some true
        ∧ ∀ f, Stays q start stop stores f → f.intoMeta ∈ p.frames)
      ∨ ∃ l' last p, l.receive millis r = .more l' p ∧ Shows millis q start stop stores p
        ∧ p.complete = some false
        ∧ Loaded fmt q c start stop stores l' (some last)
        ∧ last ∈ rowsBehind q start stop frames after := by
  intro r
  rcases page_cases fmt q c start stop hstored.ids after with
    ⟨hframes, hmore, hcomplete, hnext⟩ | ⟨last, hlast, shown, hframes, hmore, hnext, hshown, hupTo⟩
  . refine .inl ⟨_, ?_, hl.shows millis hmem (List.Subset.refl _) (some true), rfl, fun f hf => ?_⟩
    . simp only [Load.receive, r, hframes, hmore, hcomplete, hnext]
      rfl
    . rw [List.mem_mergeSort]
      refine hl.collected hstored hmem (List.Subset.refl _) hf fun hbehind => ?_
      exact mem_rowsBehind.mpr ⟨hf.2 frames hmem, hf.1, hbehind⟩
  . refine .inr ⟨_, last, _, ?_, hl.shows millis hmem hshown (some false), rfl,
      hl.next hstored hmem hlast hshown hupTo, hlast⟩
    obtain ⟨hrow, hrange, -⟩ := mem_rowsBehind.mp hlast
    have hkept : (some (cursorOf fmt c last)).filter (· ≠ "") = some (cursorOf fmt c last) := by
      simp [(hstored.readable last hrow hrange).nonempty]
    simp only [Load.receive, r, hframes, hmore, hnext, hkept, Option.any_some, hl.unused h hstored hlast]
    rfl

end Loaded

/--
How a loading goes for that many answers, where the rows of the range are all in `all`: it does not fail, and
once it is over, what stayed is shown and is said to be complete.
-/
structure Goes (millis : Int → Int) (q : FramesQuery) (start stop : Int) (stores : List (List Frame))
    (all : List Frame) (after : Option Frame) (answers : Nat) (run : List FrameLoadProgress × Status) :
    Prop where
  shows : ∀ p ∈ run.1, Shows millis q start stop stores p
  unfailed : ∀ message, run.2 ≠ .failed message
  finished : run.2 = .finished → ∃ p, run.1.getLast? = some p ∧ p.complete = some true
    ∧ ∀ f, Stays q start stop stores f → f.intoMeta ∈ p.frames
  loading : run.2 = .loading → answers ≤ (all.filter (behind after)).length

theorem Goes.over {all : List Frame} {answers : Nat} {run : List FrameLoadProgress × Status}
    (hgoes : Goes millis q start stop stores all none answers run) (hmany : all.length < answers) :
    run.2 = .finished := by
  match hstatus : run.2 with
  | .finished => rfl
  | .failed message => exact absurd hstatus (hgoes.unfailed message)
  | .loading =>
    have hcount := hgoes.loading hstatus
    have hfilter := List.length_filter_le (behind none) all
    omega

-- The rows that are still ahead get fewer with each page.
theorem behind_last {all : List Frame} {after : Option Frame} {last : Frame} (hall : last ∈ all)
    (hbehind : behind after last = true) :
    (all.filter (behind (some last))).length < (all.filter (behind after)).length := by
  have hstep : ∀ f, behind (some last) f = true → behind after f = true := by
    intro f hf
    cases after with
    | none => rfl
    | some a =>
      rw [behind_some] at *
      omega
  have hself : behind (some last) last = false := by
    rw [← Bool.not_eq_true, behind_some]
    omega
  have hfilter : all.filter (behind (some last))
      = (all.filter (behind after)).filter (behind (some last)) := by
    rw [List.filter_filter]
    refine List.filter_congr fun f _ => ?_
    cases hf : behind (some last) f with
    | false => rfl
    | true => rw [hstep f hf, Bool.and_self]
  rw [hfilter, List.length_filter_lt_length_iff_exists]
  exact ⟨last, List.mem_filter.mpr ⟨hall, hbehind⟩, by simp [hself]⟩

theorem Loaded.answer {l : Load} {after : Option Frame} {frames all : List Frame}
    (hl : Loaded fmt q c start stop stores l after) (h : Ranged fmt now q c start stop)
    (hstored : Stored fmt q c start stop frames) (hmem : frames ∈ stores)
    (hall : ∀ f ∈ frames, inTimeline q.agentId start stop q.monitor f = true → f ∈ all)
    {fetchPage : Option String → Except String ScreenFramesResponse}
    (hanswer : fetchPage l.cursor = .ok (respond fmt q c start stop frames (after.map pagePosition)))
    (later : List (Option String → Except String ScreenFramesResponse))
    (ih : ∀ l' last, Loaded fmt q c start stop stores l' (some last) →
      Goes millis q start stop stores all (some last) later.length (loadFramePages millis l' later)) :
    Goes millis q start stop stores all after (later.length + 1)
      (loadFramePages millis l (fetchPage :: later)) := by
  rw [loadFramePages, hanswer]
  rcases hl.receive millis h hstored hmem with
    ⟨p, heq, hshows, hcomplete, hstays⟩ | ⟨l', last, p, heq, hshows, hcomplete, hnext, hlast⟩
  . simp only [heq]
    exact {
      shows := List.forall_mem_singleton.mpr hshows
      unfailed := nofun
      finished := fun _ => ⟨p, rfl, hcomplete, hstays⟩
      loading := nofun
    }
  . obtain ⟨hrow, hrange, hbehind⟩ := mem_rowsBehind.mp hlast
    have hrest := ih l' last hnext
    simp only [heq]
    exact {
      shows := List.forall_mem_cons.mpr ⟨hshows, hrest.shows⟩
      unfailed := hrest.unfailed
      finished := by
        intro hfinished
        obtain ⟨p', hgetLast, hp'⟩ := hrest.finished hfinished
        exact ⟨p', by rw [List.getLast?_cons, hgetLast]; rfl, hp'⟩
      loading := by
        intro hloading
        have hcount := hrest.loading hloading
        have hless := behind_last (hall last hrow hrange) hbehind
        omega
    }

-- The answers of the server to requests at these times.
def answers (fmt : Formats) (q : FramesQuery) (reads : List (Int × List Frame)) :
    List (Option String → Except String ScreenFramesResponse) :=
  reads.map fun (time, frames) => historyFrames fmt time frames q

theorem Loaded.goes {l : Load} {a : Frame} {all : List Frame} (h : Ranged fmt now q c start stop)
    (hl : Loaded fmt q c start stop stores l (some a)) (reads : List (Int × List Frame))
    (hreads : ∀ read ∈ reads, Stored fmt q c start stop read.2 ∧ read.2 ∈ stores
      ∧ ∀ f ∈ read.2, inTimeline q.agentId start stop q.monitor f = true → f ∈ all) :
    Goes millis q start stop stores all (some a) reads.length
      (loadFramePages millis l (answers fmt q reads)) := by
  induction reads generalizing l a with
  | nil =>
    exact {
      shows := fun p hp => absurd hp List.not_mem_nil
      unfailed := nofun
      finished := nofun
      loading := fun _ => Nat.zero_le _
    }
  | cons read reads ih =>
    obtain ⟨⟨hstored, hmem, hall⟩, hrest⟩ := List.forall_mem_cons.mp hreads
    obtain ⟨hreadable, hrange⟩ := hl.reached a rfl
    have hanswer : historyFrames fmt read.1 read.2 q l.cursor
        = .ok (respond fmt q c start stop read.2 (some (pagePosition a))) := by
      rw [hl.cursor]
      exact h.historyFrames_next read.1 read.2 hreadable hrange
    have hlength : (answers fmt q reads).length = reads.length := List.length_map _
    rw [List.length_cons, ← hlength]
    refine hl.answer h hstored hmem hall hanswer _ fun l' last hnext => ?_
    rw [hlength]
    exact ih hnext hrest

theorem goes_init (millis : Int → Int) (stores : List (List Frame)) (all : List Frame)
    (h : Ranged fmt now q c start stop) (frames : List Frame) (later : List (Int × List Frame))
    (hreads : ∀ read ∈ (now, frames) :: later,
      Stored fmt q c start stop read.2 ∧ read.2 ∈ stores
        ∧ ∀ f ∈ read.2, inTimeline q.agentId start stop q.monitor f = true → f ∈ all) :
    Goes millis q start stop stores all none (later.length + 1)
      (loadFramePages millis .init (answers fmt q ((now, frames) :: later))) := by
  obtain ⟨⟨hstored, hmem, hall⟩, hrest⟩ := List.forall_mem_cons.mp hreads
  have hinit : Loaded fmt q c start stop stores .init none := loaded_init
  have hlength : (answers fmt q later).length = later.length := List.length_map _
  rw [← hlength]
  refine hinit.answer h hstored hmem hall (h.historyFrames_first frames) _ fun l' last hnext => ?_
  rw [hlength]
  exact hnext.goes h later hrest

end run

namespace Example

open Recall.Example (bytes chrono joined midnight nextMidnight oneOClock)

-- The cursor behind the frame of this id, its JSON text, and the form of that in a URL.
def cursor (id : Int) : HistoryCursor where
  version := 2
  agentId := 1
  query := none
  start := some midnight
  stop := nextMidnight
  monitor := none
  scope := "range"
  sort := "oldest"
  position := { capturedAt := oneOClock, id, rank := none }
  filters := Filters.default

def json (id : String) : List String :=
  [
    "\x7b\"version\":2,\"agent_id\":\"00000000-0000-0000-0000-00000000000",
    "1\",\"query\":null,\"from\":\"2026-01-01T00:00:00Z\",\"to\":\"2026-01-",
    "02T00:00:00Z\",\"monitor\":null,\"scope\":\"range\",\"sort\":\"oldest\"",
    ",\"position\":\x7b\"captured_at\":\"2026-01-01T01:00:00Z\",\"id\":",
    id,
    ",\"rank\":null\x7d,\"filters\":\x7b\"app\":null,\"app_mode\":\"exact\",\"titl",
    "e\":null,\"url_host\":null,\"context\":\"all\"\x7d\x7d"
  ]

def base64 (digit : String) : List String :=
  [
    "eyJ2ZXJzaW9uIjoyLCJhZ2VudF9pZCI6IjAwMDAwMDAwLTAwMDAtMDAwMC0w",
    "MDAwLTAwMDAwMDAwMDAwMSIsInF1ZXJ5IjpudWxsLCJmcm9tIjoiMjAyNi0w",
    "MS0wMVQwMDowMDowMFoiLCJ0byI6IjIwMjYtMDEtMDJUMDA6MDA6MDBaIiwi",
    "bW9uaXRvciI6bnVsbCwic2NvcGUiOiJyYW5nZSIsInNvcnQiOiJvbGRlc3Qi",
    "LCJwb3NpdGlvbiI6eyJjYXB0dXJlZF9hdCI6IjIwMjYtMDEtMDFUMDE6MDA6",
    "MDBaIiwiaWQiOj",
    digit,
    "sInJhbmsiOm51bGx9LCJmaWx0ZXJzIjp7ImFwcCI6bnVsbCwiYXBwX21vZGU",
    "iOiJleGFjdCIsInRpdGxlIjpudWxsLCJ1cmxfaG9zdCI6bnVsbCwiY29udGV",
    "4dCI6ImFsbCJ9fQ"
  ]

-- The libraries as far as the cursors behind two frames need them.
def formats : Formats where
  hosts := Recall.Example.hosts
  chrono := chrono
  text := {
    toVec := fun value =>
      if value = (cursor 2).toJson chrono then
        bytes (json "2")
      else if value = (cursor 3).toJson chrono then
        bytes (json "3")
      else
        []
    fromSlice := fun text =>
      if text = bytes (json "2") then
        some ((cursor 2).toJson chrono)
      else if text = bytes (json "3") then
        some ((cursor 3).toJson chrono)
      else
        none
    encode := fun text =>
      if text = bytes (json "2") then
        joined (base64 "I")
      else if text = bytes (json "3") then
        joined (base64 "M")
      else
        ""
    decode := fun raw =>
      if raw = joined (base64 "I") then
        some (bytes (json "2"))
      else if raw = joined (base64 "M") then
        some (bytes (json "3"))
      else
        none
  }
  ofInt _ := ⟨0⟩

def query : FramesQuery where
  agentId := 1
  start := some "2026-01-01T00:00:00Z"
  stop := some "2026-01-02T00:00:00Z"
  monitor := none
  limit := 1

def pgMidnight : Int := 820540800 * 10 ^ 6

def pgOneOClock : Int := 820544400 * 10 ^ 6

def pgNextMidnight : Int := 820627200 * 10 ^ 6

def frame (id : Int) : Frame where
  id
  agentId := 1
  capturedAt := pgOneOClock
  monitor := 0
  w := 1920
  h := 1080
  phash := 0
  captureContext := none
  captureDurationMs := none
  ocrText := none
  contextApp := none
  contextTitle := none
  contextUrlHost := none

def context : HistoryCursor :=
  { cursor 0 with position := { capturedAt := midnight, id := 0, rank := none } }

theorem ranged : Ranged formats 0 query context pgMidnight pgNextMidnight where
  first := rfl
  start := by decide
  stop := by decide
  monitor := nofun

theorem cursor_ne : (cursor 3).toJson chrono ≠ (cursor 2).toJson chrono := by
  decide +kernel

theorem json_ne : bytes (json "3") ≠ bytes (json "2") := by
  decide +kernel

theorem base64_ne : joined (base64 "M") ≠ joined (base64 "I") := by
  decide +kernel

theorem readable (id : Int) (text digit : String) (hid : 0 < id ∧ id < 2 ^ 63)
    (htoVec : formats.text.toVec ((cursor id).toJson chrono) = bytes (json text))
    (hfromSlice : formats.text.fromSlice (bytes (json text)) = some ((cursor id).toJson chrono))
    (hencode : formats.text.encode (bytes (json text)) = joined (base64 digit))
    (hdecode : formats.text.decode (joined (base64 digit)) = some (bytes (json text)))
    (hsize : 0 < ((base64 digit).map String.utf8ByteSize).sum
      ∧ (bytes (json text)).length ≤ Json.renderedSize ((cursor id).toJson chrono)
      ∧ ((base64 digit).map String.utf8ByteSize).sum ≤ 4 * (((bytes (json text)).length + 2) / 3)) :
    Readable formats context (frame id) := by
  have hcursor : { context with position := positionOf (frame id) } = cursor id := by
    rfl
  have hraw : cursorOf formats context (frame id) = joined (base64 digit) := by
    rw [cursorOf, hcursor, ← hencode, ← htoVec]
    rfl
  refine ⟨hid, ?_, fun hempty => ?_⟩
  . rw [hcursor]
    exact {
      stop := Recall.Example.exact_nextMidnight
      start := by
        rintro time ⟨⟩
        exact Recall.Example.exact_midnight
      capturedAt := Recall.Example.exact_oneOClock
      json := (congrArg formats.text.fromSlice htoVec).trans hfromSlice
      size := (congrArg List.length htoVec).trans_le hsize.2.1
      base64 := by
        rw [show formats.chrono = chrono from rfl, htoVec, hencode, hdecode]
      base64Size := by
        rw [show formats.chrono = chrono from rfl, htoVec, hencode, Recall.Example.size_joined]
        exact hsize.2.2
    }
  . have hzero := congrArg String.utf8ByteSize (hraw.symm.trans hempty)
    rw [Recall.Example.size_joined] at hzero
    exact absurd hzero (Nat.ne_of_gt hsize.1)

theorem readable_two : Readable formats context (frame 2) := by
  refine readable 2 "2" "I" (by decide) ?_ ?_ ?_ ?_ (by decide +kernel) <;> simp [formats]

theorem readable_three : Readable formats context (frame 3) := by
  refine readable 3 "3" "M" (by decide) ?_ ?_ ?_ ?_ (by decide +kernel)
    <;> simp [formats, cursor_ne, json_ne, base64_ne]

-- The first frame goes away behind the first page.
theorem stored_two : Stored formats query context pgMidnight pgNextMidnight [frame 2, frame 3] where
  ids := by decide
  readable := by
    simp only [List.forall_mem_cons]
    exact ⟨fun _ => readable_two, fun _ => readable_three, fun f hf => absurd hf List.not_mem_nil⟩

theorem stored_one : Stored formats query context pgMidnight pgNextMidnight [frame 3] where
  ids := by decide
  readable := by
    simp only [List.forall_mem_cons]
    exact ⟨fun _ => readable_three, fun f hf => absurd hf List.not_mem_nil⟩

end Example

/--
The rows may change between the requests. The loading never fails, and all that it shows was there, each
frame once and in order. When it is over, every row that was there at each request is shown and the replay is
said to be complete, and it is over when more pages were answered than there were rows.
-/
theorem load_spec {fmt : Formats} {now : Int} {q : FramesQuery} {c : HistoryCursor} {start stop : Int}
    (millis : Int → Int) (h : Ranged fmt now q c start stop) (frames : List Frame)
    (later : List (Int × List Frame)) (all : List Frame)
    (hstored : ∀ read ∈ (now, frames) :: later, Stored fmt q c start stop read.2
      ∧ ∀ f ∈ read.2, inTimeline q.agentId start stop q.monitor f = true → f ∈ all) :
    let stores := frames :: later.map Prod.snd
    let (shown, status) := loadFramePages millis .init (answers fmt q ((now, frames) :: later))
    (∀ p ∈ shown, Shows millis q start stop stores p)
      ∧ (∀ message, status ≠ .failed message)
      ∧ (all.length ≤ later.length → status = .finished)
      ∧ (status = .finished → ∃ p, shown.getLast? = some p ∧ p.complete = some true
          ∧ ∀ f, Stays q start stop stores f → f.intoMeta ∈ p.frames) := by
  intro stores
  have hgoes := goes_init millis stores all h frames later <| by
    intro read hread
    refine ⟨(hstored read hread).1, ?_, (hstored read hread).2⟩
    exact List.mem_map_of_mem (f := Prod.snd) hread
  exact ⟨hgoes.shows, hgoes.unfailed, fun hlength => hgoes.over (by omega), hgoes.finished⟩

-- Two pages of one frame, and the second is read after the first frame was removed.
theorem load_spec_removed :
    let (shown, status) := loadFramePages id .init
      (answers Example.formats Example.query
        [(0, [Example.frame 2, Example.frame 3]), (5, [Example.frame 3]), (6, [Example.frame 3])])
    status = .finished
      ∧ ∃ p, shown.getLast? = some p ∧ p.complete = some true ∧ (Example.frame 3).intoMeta ∈ p.frames := by
  have hone : Stored Example.formats Example.query Example.context Example.pgMidnight Example.pgNextMidnight
        [Example.frame 3]
      ∧ ∀ f ∈ [Example.frame 3], inTimeline Example.query.agentId Example.pgMidnight Example.pgNextMidnight
          Example.query.monitor f = true → f ∈ [Example.frame 2, Example.frame 3] :=
    ⟨Example.stored_one, fun f hf _ => List.mem_cons_of_mem _ hf⟩
  have hspec := load_spec id Example.ranged [Example.frame 2, Example.frame 3]
    [(5, [Example.frame 3]), (6, [Example.frame 3])] [Example.frame 2, Example.frame 3]
    (List.forall_mem_cons.mpr ⟨⟨Example.stored_two, fun f hf _ => hf⟩,
      List.forall_mem_cons.mpr ⟨hone, List.forall_mem_singleton.mpr hone⟩⟩)
  obtain ⟨-, -, hover, hfinished⟩ := hspec
  obtain ⟨p, hgetLast, hcomplete, hstays⟩ := hfinished (hover (by decide))
  exact ⟨hover (by decide), p, hgetLast, hcomplete, hstays _ ⟨by decide, by simp⟩⟩

/--
As long as the rows stay the same, the replay that is shown in the end is the range, in order, and it takes at
most one page more than there are frames in it.
-/
theorem load_unchanging {fmt : Formats} {now : Int} {q : FramesQuery} {c : HistoryCursor} {start stop : Int}
    (millis : Int → Int) (h : Ranged fmt now q c start stop) {frames : List Frame}
    (hstored : Stored fmt q c start stop frames) (later : List Int)
    (hlater : (frames.filter (inTimeline q.agentId start stop q.monitor)).length ≤ later.length) :
    let (shown, status) := loadFramePages millis .init
      (answers fmt q ((now, frames) :: later.map fun time => (time, frames)))
    status = .finished ∧ ∃ p, shown.getLast? = some p ∧ p.complete = some true
      ∧ p.frames.Perm ((frames.filter (inTimeline q.agentId start stop q.monitor)).map Frame.intoMeta)
      ∧ p.frames.Pairwise (fun a b => earlier millis a b = true) := by
  let range := frames.filter (inTimeline q.agentId start stop q.monitor)
  let reads := later.map fun time => (time, frames)
  have hreads : ∀ read ∈ (now, frames) :: reads, read.2 = frames := by
    intro read hread
    rcases List.mem_cons.mp hread with rfl | hread
    . rfl
    . obtain ⟨time, -, rfl⟩ := List.mem_map.mp hread
      rfl
  have hgoes := goes_init millis [frames] range h frames reads <| by
    intro read hread
    rw [hreads read hread]
    exact ⟨hstored, List.mem_singleton_self frames, fun f hf hrange => List.mem_filter.mpr ⟨hf, hrange⟩⟩
  have hfinished := hgoes.over (Nat.lt_succ_of_le (by simpa [reads, range] using hlater))
  obtain ⟨p, hgetLast, hcomplete, hstays⟩ := hgoes.finished hfinished
  have hshows := hgoes.shows p (List.mem_of_getLast? hgetLast)
  refine ⟨hfinished, p, hgetLast, hcomplete, ?_, hshows.sorted⟩
  have hids : ((range.map (Frame.intoMeta (ρ := Nat))).map FrameMeta.id).Nodup := by
    rw [List.map_map]
    exact nodup_filter hstored.ids _
  refine (List.perm_ext_iff_of_nodup hshows.ids.of_map hids.of_map).mpr fun m => ⟨fun hm => ?_, fun hm => ?_⟩
  . obtain ⟨store, hstore, f, hf, hrange, rfl⟩ := hshows.sourced m hm
    rw [List.mem_singleton.mp hstore] at hf
    exact List.mem_map_of_mem (List.mem_filter.mpr ⟨hf, hrange⟩)
  . obtain ⟨f, hf, rfl⟩ := List.mem_map.mp hm
    obtain ⟨hrow, hrange⟩ := List.mem_filter.mp hf
    refine hstays f ⟨hrange, fun store hstore => ?_⟩
    rw [List.mem_singleton.mp hstore]
    exact hrow

theorem load_unchanging_two :
    let (shown, status) := loadFramePages id .init
      (answers Example.formats Example.query
        [(0, [Example.frame 2, Example.frame 3]), (5, [Example.frame 2, Example.frame 3]),
          (6, [Example.frame 2, Example.frame 3])])
    status = .finished ∧ ∃ p, shown.getLast? = some p
      ∧ p.frames.Perm [(Example.frame 2).intoMeta, (Example.frame 3).intoMeta] := by
  obtain ⟨hfinished, p, hgetLast, -, hperm, -⟩ :=
    load_unchanging id Example.ranged Example.stored_two [5, 6] (by decide)
  exact ⟨hfinished, p, hgetLast, hperm⟩

end RecallPaging

end Vantyr
