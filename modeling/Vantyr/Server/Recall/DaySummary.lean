import Mathlib.Data.List.Dedup
import Vantyr.Data.Ranking
import Vantyr.Server.Recall.Segments

/-!
This module contains the summary of a day of Recall and when it is written: `segments_fingerprint` in
`server/src/recall/narrative/segments.rs`, `server/src/recall/narrative/prose.rs` and `summarize_agent_day`
in `server/src/recall/narrative/mod.rs`. The main result is when a day that is skipped keeps the summary that
would be written.
-/

namespace Vantyr

namespace Narrative

-- What is hashed. The instants are cut to whole seconds.
def hashed (segs : List SegmentInput) : Nat × List (Int × Int × String × Option String) :=
  (segs.length, segs.map (fun s => (s.startTs / 10 ^ 9, s.endTs / 10 ^ 9, s.category, s.app)))

def segmentsFingerprint (hash : Nat × List (Int × Int × String × Option String) → String)
    (segs : List SegmentInput) : String :=
  hash (hashed segs)

-- The object of categories is sorted by its keys.
structure Totals where
  activeSeconds : Int
  segmentCount : Nat
  byCategory : List (String × Int)
  deriving DecidableEq, Repr

def totals (segs : List SegmentInput) : Totals :=
  let c := counts segs
  {
    activeSeconds := c.active
    segmentCount := segs.length
    byCategory :=
      (c.byCategory.entries.map (fun entry => (entry.1, entry.2))).insertionSort (fun a b => a.1 ≤ b.1)
  }

-- The applications come in the order in which their map is iterated.
def IterationOf (segs : List SegmentInput) (order : List (String × Int)) : Prop :=
  order.Perm ((counts segs).byApp.entries.map (fun entry => (entry.1, entry.2)))

def topAppsIn (order : List (String × Int)) : List (String × Int) :=
  (order.insertionSort (fun a b => b.2 ≤ a.2)).take 6

def prettyCategory (cat : String) : String :=
  match cat with
  | "dev" => "development"
  | "terminal" => "terminal work"
  | "browsing" => "browsing"
  | "comms" => "communication"
  | "docs" => "documents"
  | "design" => "design"
  | "media" => "media"
  | _ => "other apps"

def joinAnd (items : List String) : String :=
  match items with
  | [] => ""
  | [item] => item
  | [item, item'] => item ++ " and " ++ item'
  | items => String.intercalate ", " items.dropLast ++ ", and " ++ items.getLast?.getD ""

def ruleBasedNarrative (segs : List SegmentInput) (totals : Totals)
    (topApps : List (String × Int)) : String :=
  let topApp := ((topApps.head?.map Prod.fst).filter (fun app => app ≠ "")).getD "several apps"
  let cats := totals.byCategory.insertionSort (fun a b => b.2 ≤ a.2)
  let catWords := (cats.take 3).map (fun cat => prettyCategory cat.1)
  let distraction := ((segs.filter (fun s => 70 ≤ s.distractionScore)).map (fun s => max s.seconds 0)).sum
  let across := if catWords.isEmpty then "" else ", across " ++ joinAnd catWords
  let focus :=
    if 0 < totals.activeSeconds then
      -- The share is a quarter or more.
      if totals.activeSeconds ≤ 4 * distraction then
        " A fair part of the day drifted into media or social browsing."
      else if 0 < distraction then
        " Focus held up well, with only short breaks."
      else
        " A focused, heads-down day."
    else
      ""
  "Mostly worked in " ++ topApp ++ across ++ "." ++ focus

structure DaySummary where
  totals : Totals
  topApps : List (String × Int)
  highlights : List Highlight
  narrative : String
  deriving DecidableEq, Repr

def daySummary (segs : List SegmentInput) (order : List (String × Int)) : DaySummary :=
  let totals := totals segs
  let topApps := topAppsIn order
  { totals, topApps, highlights := highlights segs, narrative := ruleBasedNarrative segs totals topApps }

structure DaySummaryState where
  contentHash : Option String
  hasNarrative : Bool
  finalized : Bool
  deriving DecidableEq, Repr

structure DayWrite where
  segments : List SegmentInput
  summary : DaySummary
  contentHash : String
  finalized : Bool
  deriving DecidableEq, Repr

-- The state that is read after a write. No narrative is empty.
def DayWrite.state (w : DayWrite) : DaySummaryState where
  contentHash := some w.contentHash
  hasNarrative := true
  finalized := w.finalized

def rebuild (hash : Nat × List (Int × Int × String × Option String) → String) (focus : List FocusRow)
    (upper : Int) (dayIsOver : Bool) (order : List (String × Int)) : DayWrite :=
  let segments := buildSegments focus upper
  {
    segments
    summary := daySummary segments order
    contentHash := segmentsFingerprint hash segments
    finalized := dayIsOver
  }

-- Nothing is written of a day that is skipped.
def summarizeAgentDay (hash : Nat × List (Int × Int × String × Option String) → String)
    (state : Option DaySummaryState) (focus : List FocusRow) (dayEnd now : Int)
    (order : List (String × Int)) : Option DayWrite :=
  let dayIsOver := decide (dayEnd ≤ now)
  if state.any DaySummaryState.finalized then
    none
  else
    let upper := min dayEnd now
    let segments := buildSegments focus upper
    if segments.isEmpty then
      none
    else
      let unchanged := state.any (fun s => s.contentHash = some (segmentsFingerprint hash segments))
      if unchanged && state.any DaySummaryState.hasNarrative && !dayIsOver then
        none
      else
        some (rebuild hash focus upper dayIsOver order)

/-!
Stretches of events on one application.
-/

structure Stretch where
  first : FocusRow
  rest : List FocusRow
  stop : Int
  deriving DecidableEq, Repr

def continues (row next : FocusRow) : Bool :=
  row.app ≠ "" ∧ row.app = next.app ∧ numSeconds (next.ts - focusEnd row next.ts) ≤ mergeGapSecs

def stretches (upper : Int) : List FocusRow → List Stretch
  | [] => []
  | row :: rest =>
    match stretches upper rest with
    | [] => [{ first := row, rest := [], stop := focusEnd row upper }]
    | next :: later =>
      if continues row next.first then
        { first := row, rest := next.first :: next.rest, stop := next.stop } :: later
      else
        { first := row, rest := [], stop := focusEnd row next.first.ts } :: next :: later

def Stretch.seconds (s : Stretch) : Int :=
  numSeconds (s.stop - s.first.ts)

def lastTitle (title : Option String) (row : FocusRow) : Option String :=
  if row.title = "" then title else some row.title

def Stretch.title (s : Stretch) : Option String :=
  s.rest.foldl lastTitle (nonEmpty s.first.title)

def Stretch.segment (s : Stretch) : SegmentInput :=
  { newSegment s.first s.stop with title := s.title }

def keptStretches (focus : List FocusRow) (upper : Int) : List Stretch :=
  (stretches upper focus).filter (fun s => minSegmentSecs ≤ s.seconds)

variable {upper : Int} {segs before : List SegmentInput} {last : SegmentInput} {row next : FocusRow}

theorem nextTs_eq (rows : List FocusRow)
    : nextTs upper rows = ((stretches upper rows).head?.map (fun s => s.first.ts)).getD upper := by
  cases rows with
  | nil => rfl
  | cons row rest =>
    unfold stretches
    split
    . rfl
    . split
      . rfl
      . rfl

theorem merges_eq_continues (happ : last.app = nonEmpty row.app) (hend : last.endTs = focusEnd row next.ts)
    : merges last next = continues row next := by
  unfold merges continues
  rw [happ, hend]
  unfold nonEmpty
  by_cases hempty : row.app = ""
  . simp [hempty]
  . simp [hempty]

-- The first stretch may continue the segment that is open.
def attach (last : SegmentInput) (before : List SegmentInput) : List Stretch → List SegmentInput
  | [] => last :: before
  | s :: later =>
    if merges last s.first then
      (later.map Stretch.segment).reverse
        ++ { last with endTs := s.stop, title := (s.first :: s.rest).foldl lastTitle last.title } :: before
    else
      ((s :: later).map Stretch.segment).reverse ++ last :: before

theorem attach_extend (happ : last.app ≠ some "") (rest : List FocusRow) (hmerges : merges last row = true)
    : attach (extend last row (focusEnd row (nextTs upper rest))) before (stretches upper rest)
      = attach last before (stretches upper (row :: rest)) := by
  have hrow : last.app = nonEmpty row.app := by
    unfold merges at hmerges
    rw [decide_eq_true_iff] at hmerges
    rw [hmerges.1] at happ ⊢
    unfold nonEmpty
    rw [if_neg (fun hempty => happ (congrArg some hempty))]
  rw [nextTs_eq]
  cases hs : stretches upper rest with
  | nil =>
    simp only [stretches, hs, attach, hmerges, if_true]
    rfl
  | cons s later =>
    have hcontinues : merges (extend last row (focusEnd row s.first.ts)) s.first = continues row s.first :=
      merges_eq_continues hrow rfl
    simp only [stretches, hs, List.head?_cons, Option.map_some, Option.getD_some, attach, hcontinues]
    by_cases hc : continues row s.first
    . simp only [hc, if_true, hmerges]
      rfl
    . simp only [hc, if_false, hmerges, if_true, Bool.false_eq_true]
      rfl

theorem stretches_cons (upper : Int) (row : FocusRow) (rest : List FocusRow)
    : ∃ s later, stretches upper (row :: rest) = s :: later ∧ s.first = row := by
  rw [stretches]
  split
  . exact ⟨_, _, rfl, rfl⟩
  . split
    . exact ⟨_, _, rfl, rfl⟩
    . exact ⟨_, _, rfl, rfl⟩

theorem attach_apart (rest : List FocusRow) (hmerges : merges last row = false)
    : attach last before (stretches upper (row :: rest))
      = ((stretches upper (row :: rest)).map Stretch.segment).reverse ++ last :: before := by
  rcases stretches_cons upper row rest with ⟨s, later, hs, hfirst⟩
  rw [hs, attach, hfirst, hmerges, if_neg Bool.false_ne_true]

-- A segment that is opened becomes the first stretch.
theorem attach_new (rest : List FocusRow)
    : attach (newSegment row (focusEnd row (nextTs upper rest))) before (stretches upper rest)
      = ((stretches upper (row :: rest)).map Stretch.segment).reverse ++ before := by
  rw [nextTs_eq]
  cases hs : stretches upper rest with
  | nil => simp [stretches, hs, attach, Stretch.segment, Stretch.title, newSegment]
  | cons s later =>
    have hcontinues : merges (newSegment row (focusEnd row s.first.ts)) s.first = continues row s.first :=
      merges_eq_continues rfl rfl
    simp only [stretches, hs, List.head?_cons, Option.map_some, Option.getD_some, attach, hcontinues]
    by_cases hc : continues row s.first
    . simp [hc, Stretch.segment, Stretch.title, newSegment]
    . simp [hc, Stretch.segment, Stretch.title, newSegment]

theorem newSegment_app (row : FocusRow) (endTs : Int) : (newSegment row endTs).app ≠ some "" := by
  unfold newSegment nonEmpty
  dsimp only
  split
  . exact fun h => by cases h
  . rename_i hne
    exact fun h => hne (Option.some.inj h)

theorem addRows_eq_attach (happ : last.app ≠ some "") (rows : List FocusRow)
    : addRows upper (last :: before) rows = attach last before (stretches upper rows) := by
  induction rows generalizing last before with
  | nil => rfl
  | cons row rest ih =>
    unfold addRows addRow
    dsimp only
    cases hmerges : merges last row with
    | true =>
      have hextend : (extend last row (focusEnd row (nextTs upper rest))).app ≠ some "" := happ
      rw [if_pos rfl, ih hextend, attach_extend happ rest hmerges]
    | false =>
      rw [if_neg Bool.false_ne_true, ih (newSegment_app row _), attach_new, attach_apart rest hmerges]

-- The segments are what is written of the stretches that are kept.
theorem buildSegments_eq (focus : List FocusRow) (upper : Int)
    : buildSegments focus upper
      = ((keptStretches focus upper).map Stretch.segment).map SegmentInput.summarize := by
  have hall : (addRows upper [] focus).reverse = (stretches upper focus).map Stretch.segment := by
    cases focus with
    | nil => rfl
    | cons row rest =>
      change (addRows upper [newSegment row (focusEnd row (nextTs upper rest))] rest).reverse = _
      rw [addRows_eq_attach (newSegment_app row _), attach_new, List.append_nil, List.reverse_reverse]
  unfold buildSegments keptStretches
  rw [hall, List.filter_map]
  rfl

/-!
What is not hashed of a segment.
-/

structure Agrees (s s' : Stretch) : Prop where
  start : s.first.ts % 10 ^ 9 = s'.first.ts % 10 ^ 9
  stop : s.stop % 10 ^ 9 = s'.stop % 10 ^ 9
  title : s.title = s'.title
  score : (classify s.first.app s.first.title).2 = (classify s'.first.app s'.first.title).2

def hashedOf (s : SegmentInput) : Int × Int × String × Option String :=
  (s.startTs / 10 ^ 9, s.endTs / 10 ^ 9, s.category, s.app)

theorem summarize_segment_eq_iff {s s' : Stretch} (h : hashedOf s.segment = hashedOf s'.segment)
    : s.segment.summarize = s'.segment.summarize ↔ Agrees s s' := by
  simp only [hashedOf, Prod.mk.injEq] at h
  rcases h with ⟨hstart, hstop, hcategory, happ⟩
  constructor
  . intro heq
    have hstarts : s.first.ts = s'.first.ts := congrArg SegmentInput.startTs heq
    have hstops : s.stop = s'.stop := congrArg SegmentInput.endTs heq
    have hscores := congrArg SegmentInput.distractionScore heq
    simp only [SegmentInput.summarize, Stretch.segment, newSegment] at hscores
    exact {
      start := by rw [hstarts]
      stop := by rw [hstops]
      title := congrArg SegmentInput.title heq
      score := hscores
    }
  . intro hagrees
    have hstarts : s.segment.startTs = s'.segment.startTs := by
      have := hagrees.start
      unfold Stretch.segment newSegment at hstart ⊢
      dsimp only at hstart ⊢
      omega
    have hstops : s.segment.endTs = s'.segment.endTs := by
      have := hagrees.stop
      unfold Stretch.segment newSegment at hstop ⊢
      dsimp only at hstop ⊢
      omega
    have hsegments : s.segment = s'.segment := by
      unfold Stretch.segment newSegment at hcategory happ hstarts hstops ⊢
      dsimp only at hcategory happ hstarts hstops ⊢
      rw [hcategory, happ, hstarts, hstops, hagrees.title, hagrees.score]
    rw [hsegments]

theorem map_summarize_eq_iff {kept kept' : List Stretch}
    (h : (kept.map Stretch.segment).map hashedOf = (kept'.map Stretch.segment).map hashedOf)
    : (kept.map Stretch.segment).map SegmentInput.summarize
        = (kept'.map Stretch.segment).map SegmentInput.summarize
      ↔ List.Forall₂ Agrees kept kept' := by
  induction kept generalizing kept' with
  | nil =>
    cases kept' with
    | nil => exact iff_of_true rfl List.Forall₂.nil
    | cons s' kept' => cases h
  | cons s kept ih =>
    cases kept' with
    | nil => cases h
    | cons s' kept' =>
      simp only [List.map_cons, List.cons.injEq] at h ⊢
      rw [summarize_segment_eq_iff h.1, ih h.2, List.forall₂_cons]

theorem hashed_buildSegments (focus : List FocusRow) (upper : Int)
    : hashed (buildSegments focus upper)
      = ((keptStretches focus upper).length,
        ((keptStretches focus upper).map Stretch.segment).map hashedOf) := by
  rw [buildSegments_eq]
  unfold hashed
  rw [List.length_map, List.length_map, List.map_map]
  rfl

/-!
The time that is spent in an application.
-/

def appsOf (kept : List Stretch) : List String :=
  ((kept.map (fun s => s.first.app)).filter (fun app => app ≠ "")).dedup

def secondsIn (kept : List Stretch) (app : String) : Int :=
  ((kept.filter (fun s => s.first.app = app)).map Stretch.seconds).sum

-- A tie is only behind six applications with more time.
def Untied (kept : List Stretch) : Prop :=
  ∀ app ∈ appsOf kept, ∀ app' ∈ appsOf kept, app ≠ app' → secondsIn kept app = secondsIn kept app'
    → 6 ≤ (appsOf kept).countP (fun other => secondsIn kept app < secondsIn kept other)

theorem mem_appsOf {kept : List Stretch} {app : String}
    : app ∈ appsOf kept ↔ app ≠ "" ∧ ∃ s ∈ kept, s.first.app = app := by
  unfold appsOf
  rw [List.mem_dedup, List.mem_filter, List.mem_map, decide_eq_true_iff, And.comm]

theorem secondsIn_concat (kept : List Stretch) (s : Stretch) (app : String)
    : secondsIn (kept ++ [s]) app = secondsIn kept app + if s.first.app = app then s.seconds else 0 := by
  unfold secondsIn
  by_cases h : s.first.app = app
  . simp [List.filter_append, h]
  . simp [List.filter_append, h]

theorem secondsIn_of_absent {kept : List Stretch} {app : String} (h : ∀ s ∈ kept, s.first.app ≠ app)
    : secondsIn kept app = 0 := by
  unfold secondsIn
  rw [List.filter_eq_nil_iff.mpr (fun s hs => by simpa using h s hs)]
  rfl

def written (kept : List Stretch) : List SegmentInput :=
  (kept.map Stretch.segment).map SegmentInput.summarize

theorem counts_written (kept : List Stretch) (s : Stretch)
    : counts (written (kept ++ [s])) = (counts (written kept)).add s.segment.summarize := by
  unfold written
  rw [List.map_append, List.map_append]
  exact counts_concat _ _

theorem lookup_byApp {kept : List Stretch} (hkept : ∀ s ∈ kept, 0 ≤ s.seconds) (app : String)
    : (counts (written kept)).byApp.lookup app
      = if app ∈ appsOf kept then some (secondsIn kept app) else none := by
  induction kept using List.reverseRecOn with
  | nil => rfl
  | append_singleton kept s ih =>
    have ih := ih (fun s' hs' => hkept s' (List.mem_append_left _ hs'))
    have hseconds : max s.segment.summarize.seconds 0 = s.seconds :=
      max_eq_left (hkept s (List.mem_append_right _ List.mem_cons_self))
    have hmem : app ∈ appsOf (kept ++ [s]) ↔ app ∈ appsOf kept ∨ app ≠ "" ∧ s.first.app = app := by
      simp only [mem_appsOf, List.mem_append, List.mem_singleton]
      constructor
      . rintro ⟨hne, s', hs' | rfl, heq⟩
        . exact .inl ⟨hne, s', hs', heq⟩
        . exact .inr ⟨hne, heq⟩
      . rintro (⟨hne, s', hs', heq⟩ | ⟨hne, heq⟩)
        . exact ⟨hne, s', .inl hs', heq⟩
        . exact ⟨hne, s, .inr rfl, heq⟩
    have happ : s.segment.summarize.app = nonEmpty s.first.app := rfl
    rw [counts_written, Counts.add, hseconds, secondsIn_concat]
    dsimp only
    rw [happ, nonEmpty]
    by_cases hempty : s.first.app = ""
    . rw [if_pos hempty, Option.elim_none, ih]
      by_cases hlisted : app ∈ appsOf kept
      . have hne : s.first.app ≠ app := by
          rw [hempty]
          exact (mem_appsOf.mp hlisted).1.symm
        rw [if_pos hlisted, if_pos (hmem.mpr (.inl hlisted)), if_neg hne, Int.add_zero]
      . rw [if_neg hlisted, if_neg]
        rw [hmem, not_or]
        exact ⟨hlisted, fun hnew => hnew.1 (hnew.2.symm.trans hempty)⟩
    . rw [if_neg hempty, Option.elim_some, Table.add, Table.lookup_insert_eq]
      by_cases heq : app = s.first.app
      . subst heq
        rw [if_pos rfl, if_pos (hmem.mpr (.inr ⟨hempty, rfl⟩)), if_pos rfl, ih]
        by_cases hlisted : s.first.app ∈ appsOf kept
        . rw [if_pos hlisted, Option.getD_some]
        . have habsent : ∀ s' ∈ kept, s'.first.app ≠ s.first.app :=
            fun s' hs' hsame => hlisted (mem_appsOf.mpr ⟨hempty, s', hs', hsame⟩)
          rw [if_neg hlisted, Option.getD_none, secondsIn_of_absent habsent]
      . rw [if_neg heq, ih, if_neg (Ne.symm heq), Int.add_zero]
        by_cases hlisted : app ∈ appsOf kept
        . rw [if_pos hlisted, if_pos (hmem.mpr (.inl hlisted))]
        . rw [if_neg hlisted, if_neg]
          rw [hmem, not_or]
          exact ⟨hlisted, fun hnew => heq hnew.2.symm⟩

theorem byApp_perm {kept : List Stretch} (hkept : ∀ s ∈ kept, 0 ≤ s.seconds)
    : ((counts (written kept)).byApp.entries.map (fun entry => (entry.1, entry.2))).Perm
      ((appsOf kept).map (fun app => (app, secondsIn kept app))) := by
  rw [List.perm_ext_iff_of_nodup]
  . rintro ⟨app, secs⟩
    have hlookup := lookup_byApp hkept app
    constructor
    . intro h
      rcases List.mem_map.mp h with ⟨entry, hentry, heq⟩
      rw [Prod.mk.injEq] at heq
      rcases heq with ⟨rfl, rfl⟩
      have hsome := AList.mem_lookup_iff.mpr hentry
      rw [Option.mem_def, hlookup] at hsome
      split at hsome
      . rename_i hlisted
        rw [← Option.some.inj hsome]
        exact List.mem_map_of_mem hlisted
      . cases hsome
    . intro h
      rcases List.mem_map.mp h with ⟨app', hlisted, heq⟩
      rw [Prod.mk.injEq] at heq
      rcases heq with ⟨rfl, rfl⟩
      rw [if_pos hlisted] at hlookup
      exact List.mem_map.mpr ⟨⟨_, _⟩, AList.mem_lookup_iff.mp hlookup, rfl⟩
  . have hkeys := (counts (written kept)).byApp.nodupKeys
    apply List.Nodup.of_map Prod.fst
    rw [List.map_map]
    exact hkeys
  . apply List.Nodup.map
    . intro app app' heq
      cases heq
      rfl
    . exact List.nodup_dedup _

theorem untied_iff {kept : List Stretch} (hkept : ∀ s ∈ kept, 0 ≤ s.seconds)
    : (∀ order order', IterationOf (written kept) order → IterationOf (written kept) order'
        → topAppsIn order = topAppsIn order') ↔ Untied kept := by
  have hperm := byApp_perm hkept
  have horder : ∀ order, IterationOf (written kept) order
      ↔ order.Perm ((appsOf kept).map (fun app => (app, secondsIn kept app))) :=
    fun order => ⟨fun h => h.trans hperm, fun h => h.trans hperm.symm⟩
  have hcount : ∀ secs, ((appsOf kept).map (fun app => (app, secondsIn kept app))).countP
        (fun entry => secs < entry.2)
      = (appsOf kept).countP (fun other => secs < secondsIn kept other) := by
    intro secs
    rw [List.countP_map]
    rfl
  simp only [horder]
  refine Iff.trans (Ranking.take_rank_eq_iff Prod.snd) ?_
  unfold Untied
  simp only [hcount]
  constructor
  . intro h app happ app' happ' hne htie
    apply h (app, secondsIn kept app) (List.mem_map_of_mem happ) (app', secondsIn kept app')
      (List.mem_map_of_mem happ')
    . exact fun heq => hne (congrArg Prod.fst heq)
    . exact htie
  . intro h entry hentry entry' hentry' hne htie
    rcases List.mem_map.mp hentry with ⟨app, happ, rfl⟩
    rcases List.mem_map.mp hentry' with ⟨app', happ', rfl⟩
    exact h app happ app' happ' (fun heq => hne (by rw [heq])) htie

-- A tick that hashes what was hashed before skips the day until it is over.
theorem skipped_of_hashed (hash : Nat × List (Int × Int × String × Option String) → String)
    {focus focus' : List FocusRow} {upper dayEnd now : Int}
    (hsame : hashed (buildSegments focus upper) = hashed (buildSegments focus' now)) (hnow : now < dayEnd)
    (order order' : List (String × Int))
    : summarizeAgentDay hash (some (rebuild hash focus upper false order).state) focus' dayEnd now order'
      = none := by
  have hover : decide (dayEnd ≤ now) = false := decide_eq_false (not_le.mpr hnow)
  have hhash : (rebuild hash focus upper false order).state.contentHash
      = some (segmentsFingerprint hash (buildSegments focus' now)) :=
    congrArg (fun input => some (hash input)) hsame
  unfold summarizeAgentDay
  dsimp only
  rw [min_eq_right (le_of_lt hnow), hover]
  split
  . rfl
  . split
    . rfl
    . rw [Option.any_some, Option.any_some, hhash, decide_eq_true rfl]
      rfl

/--
For two lists of events with the same fingerprint, the segments and the summary are the same if and only if
the stretches agree in what is not hashed and no tie decides which applications come first.
-/
theorem unchanged_day_iff {focus focus' : List FocusRow} {upper upper' : Int}
    (hsame : hashed (buildSegments focus upper) = hashed (buildSegments focus' upper'))
    : (buildSegments focus upper = buildSegments focus' upper'
        ∧ ∀ order order', IterationOf (buildSegments focus upper) order
          → IterationOf (buildSegments focus' upper') order'
          → daySummary (buildSegments focus upper) order = daySummary (buildSegments focus' upper') order')
      ↔ List.Forall₂ Agrees (keptStretches focus upper) (keptStretches focus' upper')
        ∧ Untied (keptStretches focus' upper') := by
  have hkept : ∀ s ∈ keptStretches focus' upper', 0 ≤ s.seconds := by
    intro s hs
    have hlong := of_decide_eq_true (List.mem_filter.mp hs).2
    exact Int.le_trans (by decide) hlong
  have hsegments : buildSegments focus upper = buildSegments focus' upper'
      ↔ List.Forall₂ Agrees (keptStretches focus upper) (keptStretches focus' upper') := by
    rw [hashed_buildSegments, hashed_buildSegments, Prod.mk.injEq] at hsame
    rw [buildSegments_eq, buildSegments_eq, map_summarize_eq_iff hsame.2]
  rw [hsegments]
  apply and_congr_right
  intro hagree
  rw [hsegments.mpr hagree, ← untied_iff hkept, written, ← buildSegments_eq]
  constructor
  . intro h order order' horder horder'
    exact congrArg DaySummary.topApps (h order order' horder horder')
  . intro h order order' horder horder'
    unfold daySummary
    rw [h order order' horder horder']

def mainOpen : List FocusRow :=
  [⟨0, "code", "main.rs"⟩]

-- The same file is reported again, without its title.
def mainReopened : List FocusRow :=
  [⟨0, "code", "main.rs"⟩, ⟨30 * 10 ^ 9, "code", ""⟩]

theorem reopened_day_sound
    : buildSegments mainOpen (60 * 10 ^ 9) = buildSegments mainReopened (60 * 10 ^ 9)
      ∧ ∀ order order', IterationOf (buildSegments mainOpen (60 * 10 ^ 9)) order
        → IterationOf (buildSegments mainReopened (60 * 10 ^ 9)) order'
        → daySummary (buildSegments mainOpen (60 * 10 ^ 9)) order
          = daySummary (buildSegments mainReopened (60 * 10 ^ 9)) order' := by
  have hsame : hashed (buildSegments mainOpen (60 * 10 ^ 9))
      = hashed (buildSegments mainReopened (60 * 10 ^ 9)) := by decide
  refine (unchanged_day_iff hsame).mpr ⟨?_, ?_⟩
  . have hkept : keptStretches mainOpen (60 * 10 ^ 9)
        = [⟨⟨0, "code", "main.rs"⟩, [], 60 * 10 ^ 9⟩] := by decide
    have hkept' : keptStretches mainReopened (60 * 10 ^ 9)
        = [⟨⟨0, "code", "main.rs"⟩, [⟨30 * 10 ^ 9, "code", ""⟩], 60 * 10 ^ 9⟩] := by decide
    rw [hkept, hkept']
    exact List.Forall₂.cons ⟨rfl, rfl, by decide, rfl⟩ List.Forall₂.nil
  . have happs : appsOf (keptStretches mainReopened (60 * 10 ^ 9)) = ["code"] := by decide
    intro app happ app' happ' hne
    rw [happs, List.mem_singleton] at happ happ'
    exact absurd (happ.trans happ'.symm) hne

-- Another file is opened in between, and its event arrives after the first tick.
def libOpen : List FocusRow :=
  [⟨0, "code", "main.rs"⟩, ⟨30 * 10 ^ 9, "code", "lib.rs"⟩]

-- The day is skipped, although the highlight would name the other file.
theorem retitled_day_skipped
    : hashed (buildSegments mainOpen (60 * 10 ^ 9)) = hashed (buildSegments libOpen (60 * 10 ^ 9))
      ∧ IterationOf (buildSegments mainOpen (60 * 10 ^ 9)) [("code", 60)]
      ∧ IterationOf (buildSegments libOpen (60 * 10 ^ 9)) [("code", 60)]
      ∧ (∀ hash, summarizeAgentDay hash
          (some (rebuild hash mainOpen (60 * 10 ^ 9) false [("code", 60)]).state) libOpen (3600 * 10 ^ 9)
          (60 * 10 ^ 9) [("code", 60)] = none)
      ∧ buildSegments mainOpen (60 * 10 ^ 9) ≠ buildSegments libOpen (60 * 10 ^ 9)
      ∧ daySummary (buildSegments mainOpen (60 * 10 ^ 9)) [("code", 60)]
        ≠ daySummary (buildSegments libOpen (60 * 10 ^ 9)) [("code", 60)] := by
  have hsame : hashed (buildSegments mainOpen (60 * 10 ^ 9))
      = hashed (buildSegments libOpen (60 * 10 ^ 9)) := by decide
  refine ⟨hsame, ?_, ?_, ?_, ?_, ?_⟩
  . unfold IterationOf
    decide
  . unfold IterationOf
    decide
  . intro hash
    exact skipped_of_hashed hash hsame (by decide) _ _
  . decide
  . decide

end Narrative

end Vantyr
