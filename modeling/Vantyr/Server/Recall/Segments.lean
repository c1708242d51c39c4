import Mathlib.Data.List.Sort
import Vantyr.Data.Table
import Vantyr.Data.Text

/-!
This module contains how the focus events of a day are cut into segments and counted,
`server/src/recall/narrative/segments.rs`. The main result is that the segments lie one after the other
between the first event and the end of the day, and that the totals are those of the segments.
-/

namespace Vantyr

namespace Narrative

-- Instants and durations are counted in nanoseconds.
def maxFocus : Int := 15 * 60 * 10 ^ 9

def mergeGapSecs : Int := 5 * 60

def minSegmentSecs : Int := 20

-- `TimeDelta::num_seconds`
def numSeconds (duration : Int) : Int :=
  duration.tdiv (10 ^ 9)

structure FocusRow where
  ts : Int
  app : String
  title : String
  deriving DecidableEq, Repr

-- The score is counted in hundredths.
structure SegmentInput where
  startTs : Int
  endTs : Int
  category : String
  app : Option String
  title : Option String
  summary : Option String
  distractionScore : Nat
  source : String
  deriving DecidableEq, Repr

def classify (app title : String) : String × Nat :=
  let a := Text.toAsciiLowercase app
  let t := Text.toAsciiLowercase title
  let has (names : List String) := names.any (fun n => Text.contains a n || Text.contains t n)
  if has ["code", "devenv", "idea", "pycharm", "goland", "rider", "sublime", "vim", "nvim"] then
    ("dev", 10)
  else if has ["windowsterminal", "powershell", "cmd", "wt.exe", "conhost", "bash", "wsl"] then
    ("terminal", 10)
  else if has ["slack", "teams", "discord", "zoom", "outlook", "mail", "telegram", "whatsapp"] then
    ("comms", 40)
  else if has ["youtube", "netflix", "spotify", "twitch", "vlc"] then
    ("media", 90)
  else if has ["figma", "photoshop", "illustrator", "blender", "sketch", "affinity"] then
    ("design", 20)
  else if has ["word", "excel", "powerpoint", "acrobat", "notion", "obsidian", "docs", "sheets"] then
    ("docs", 20)
  else if has ["chrome", "firefox", "edge", "msedge", "brave", "opera", "safari"] then
    if has ["facebook", "instagram", "tiktok", "reddit", "twitter", "x.com", "9gag"] then
      ("media", 85)
    else
      ("browsing", 50)
  else
    ("other", 50)

-- The instant up to which a focus is attributed.
def focusEnd (row : FocusRow) (nextTs : Int) : Int :=
  row.ts + max 0 (min (nextTs - row.ts) maxFocus)

def nonEmpty (text : String) : Option String :=
  if text = "" then none else some text

def newSegment (row : FocusRow) (endTs : Int) : SegmentInput where
  startTs := row.ts
  endTs := endTs
  category := (classify row.app row.title).1
  app := nonEmpty row.app
  title := nonEmpty row.title
  summary := none
  distractionScore := (classify row.app row.title).2
  source := "rule"

def merges (last : SegmentInput) (row : FocusRow) : Bool :=
  last.app = some row.app ∧ numSeconds (row.ts - last.endTs) ≤ mergeGapSecs

def extend (last : SegmentInput) (row : FocusRow) (endTs : Int) : SegmentInput :=
  { last with endTs, title := if row.title = "" then last.title else some row.title }

-- The segments come with the last one first.
def addRow (segs : List SegmentInput) (row : FocusRow) (endTs : Int) : List SegmentInput :=
  match segs with
  | [] => [newSegment row endTs]
  | last :: before =>
    if merges last row then extend last row endTs :: before else newSegment row endTs :: segs

def nextTs (upper : Int) (rest : List FocusRow) : Int :=
  (rest.head?.map FocusRow.ts).getD upper

def addRows (upper : Int) (segs : List SegmentInput) : List FocusRow → List SegmentInput
  | [] => segs
  | row :: rest => addRows upper (addRow segs row (focusEnd row (nextTs upper rest))) rest

def SegmentInput.seconds (s : SegmentInput) : Int :=
  numSeconds (s.endTs - s.startTs)

def truncate (text : String) (limit : Nat) : String :=
  if text.length ≤ limit then text else String.ofList (text.toList.take limit ++ ['…'])

def SegmentInput.summarize (s : SegmentInput) : SegmentInput :=
  let app := s.app.getD "app"
  let summary :=
    match s.title with
    | some title => if title = "" then app else app ++ " — " ++ truncate title 80
    | none => app
  { s with summary := some summary }

def buildSegments (focus : List FocusRow) (upper : Int) : List SegmentInput :=
  ((addRows upper [] focus).reverse.filter (fun s => minSegmentSecs ≤ s.seconds)).map
    SegmentInput.summarize

structure Highlight where
  label : String
  category : String
  startTs : Int
  endTs : Int
  deriving DecidableEq, Repr

-- `byApp` is what `topApps` is taken from.
structure Aggregate where
  activeSeconds : Int
  segmentCount : Nat
  byCategory : AList (fun _ : String => Int)
  byApp : AList (fun _ : String => Int)
  topApps : List (String × Int)
  highlights : List Highlight

structure Counts where
  active : Int
  byCategory : AList (fun _ : String => Int)
  byApp : AList (fun _ : String => Int)

def Counts.add (c : Counts) (s : SegmentInput) : Counts :=
  let secs := max s.seconds 0
  {
    active := c.active + secs
    byCategory := Table.add c.byCategory s.category secs
    byApp := s.app.elim c.byApp (fun app => Table.add c.byApp app secs)
  }

def counts (segs : List SegmentInput) : Counts :=
  segs.foldl Counts.add { active := 0, byCategory := ∅, byApp := ∅ }

-- Applications with the same time come in the order of the map, which is not specified.
def topApps (byApp : AList (fun _ : String => Int)) : List (String × Int) :=
  ((byApp.entries.map (fun entry => (entry.1, entry.2))).insertionSort (fun a b => b.2 ≤ a.2)).take 6

def highlights (segs : List SegmentInput) : List Highlight :=
  ((segs.insertionSort (fun a b => b.seconds ≤ a.seconds)).take 3).map (fun s => {
    label := s.summary.getD s.category
    category := s.category
    startTs := s.startTs
    endTs := s.endTs
  })

def aggregate (segs : List SegmentInput) : Aggregate :=
  let c := counts segs
  {
    activeSeconds := c.active
    segmentCount := segs.length
    byCategory := c.byCategory
    byApp := c.byApp
    topApps := topApps c.byApp
    highlights := highlights segs
  }

/-!
The segments lie one after the other.
-/

-- `bound` is where the next segment may begin.
structure Laid (lower bound : Int) (segs : List SegmentInput) : Prop where
  ordered : segs.Pairwise (fun later earlier => earlier.endTs ≤ later.startTs)
  within : ∀ s ∈ segs, lower ≤ s.startTs ∧ s.startTs ≤ s.endTs ∧ s.endTs ≤ bound

variable {lower bound upper : Int} {segs : List SegmentInput} {row : FocusRow}

theorem focusEnd_within {next : Int} (h : row.ts ≤ next)
    : row.ts ≤ focusEnd row next ∧ focusEnd row next ≤ next := by
  unfold focusEnd
  omega

theorem Laid.cons (h : Laid lower row.ts segs) (hlower : lower ≤ row.ts) {next : Int}
    (hnext : row.ts ≤ next) : Laid lower next (newSegment row (focusEnd row next) :: segs) := by
  have hend := focusEnd_within hnext
  constructor
  . apply List.pairwise_cons.mpr
    refine ⟨?_, h.ordered⟩
    intro s hs
    exact (h.within s hs).2.2
  . intro s hs
    rcases List.mem_cons.mp hs with rfl | hs
    . exact ⟨hlower, hend.1, hend.2⟩
    . have := h.within s hs
      exact ⟨this.1, this.2.1, Int.le_trans this.2.2 hnext⟩

theorem Laid.extend {last : SegmentInput} (h : Laid lower row.ts (last :: segs)) {next : Int}
    (hnext : row.ts ≤ next) : Laid lower next (extend last row (focusEnd row next) :: segs) := by
  have hend := focusEnd_within hnext
  rcases List.pairwise_cons.mp h.ordered with ⟨hlast, hordered⟩
  constructor
  . exact List.pairwise_cons.mpr ⟨hlast, hordered⟩
  . intro s hs
    rcases List.mem_cons.mp hs with rfl | hs
    . have := h.within last List.mem_cons_self
      unfold Narrative.extend
      dsimp only
      omega
    . have := h.within s (List.mem_cons_of_mem _ hs)
      exact ⟨this.1, this.2.1, Int.le_trans this.2.2 hnext⟩

theorem Laid.addRow (h : Laid lower row.ts segs) (hlower : lower ≤ row.ts) {next : Int}
    (hnext : row.ts ≤ next) : Laid lower next (addRow segs row (focusEnd row next)) := by
  unfold Narrative.addRow
  split
  . exact h.cons hlower hnext
  . split
    . exact h.extend hnext
    . exact h.cons hlower hnext

-- The induction is on the rows that are left. The next one begins where the last segment may end.
theorem Laid.addRows {rows : List FocusRow} (hsorted : rows.Pairwise (fun r r' => r.ts ≤ r'.ts))
    (hlower : ∀ row ∈ rows, lower ≤ row.ts) (hupper : ∀ row ∈ rows, row.ts ≤ upper)
    (h : Laid lower (nextTs upper rows) segs) : Laid lower upper (addRows upper segs rows) := by
  induction rows generalizing segs with
  | nil => exact h
  | cons row rest ih =>
    rcases List.pairwise_cons.mp hsorted with ⟨hfirst, hrest⟩
    have hnext : row.ts ≤ nextTs upper rest := by
      cases rest with
      | nil => exact hupper row List.mem_cons_self
      | cons next rest => exact hfirst next List.mem_cons_self
    apply ih hrest
    . intro other hother
      exact hlower other (List.mem_cons_of_mem _ hother)
    . intro other hother
      exact hupper other (List.mem_cons_of_mem _ hother)
    . exact Laid.addRow h (hlower row List.mem_cons_self) hnext

/-!
The totals are those of the segments.
-/

theorem counts_concat (segs : List SegmentInput) (s : SegmentInput)
    : counts (segs ++ [s]) = (counts segs).add s := by
  simp [counts]

theorem counts_byCategory (segs : List SegmentInput)
    : (Table.values (counts segs).byCategory).sum = (counts segs).active := by
  induction segs using List.reverseRecOn with
  | nil => rfl
  | append_singleton segs s ih =>
    rw [counts_concat, Counts.add, Table.sum_add, ih]

theorem counts_active (segs : List SegmentInput)
    : (counts segs).active = (segs.map (fun s => max s.seconds 0)).sum := by
  induction segs using List.reverseRecOn with
  | nil => rfl
  | append_singleton segs s ih =>
    rw [counts_concat, Counts.add, ih, List.map_append, List.sum_append, List.map_singleton,
      List.sum_singleton]

-- None of the durations of laid segments is negative.
theorem counts_active_laid {segs : List SegmentInput} (h : ∀ s ∈ segs, s.startTs ≤ s.endTs)
    : (counts segs).active = (segs.map SegmentInput.seconds).sum := by
  rw [counts_active]
  congr 1
  apply List.map_congr_left
  intro s hs
  apply max_eq_left
  have hle := h s hs
  exact Int.tdiv_nonneg (by omega) (by decide)

theorem ts_le_of_getLast {focus : List FocusRow} (hsorted : focus.Pairwise (fun r r' => r.ts ≤ r'.ts))
    (hupper : ∀ last ∈ focus.getLast?, last.ts ≤ upper) : ∀ row ∈ focus, row.ts ≤ upper := by
  induction focus using List.reverseRecOn with
  | nil => simp
  | append_singleton rows last _ =>
    have hlast : last.ts ≤ upper := hupper last (by simp)
    intro row hrow
    rcases List.mem_append.mp hrow with hrow | hrow
    . have hle := (List.pairwise_append.mp hsorted).2.2 row hrow last List.mem_cons_self
      exact Int.le_trans hle hlast
    . rw [List.mem_singleton.mp hrow]
      exact hlast

theorem buildSegments_laid {focus : List FocusRow} (hsorted : focus.Pairwise (fun r r' => r.ts ≤ r'.ts))
    (hlower : ∀ row ∈ focus, lower ≤ row.ts) (hupper : ∀ row ∈ focus, row.ts ≤ upper)
    : (buildSegments focus upper).Pairwise (fun s t => s.endTs ≤ t.startTs)
      ∧ ∀ s ∈ buildSegments focus upper, lower ≤ s.startTs ∧ s.startTs ≤ s.endTs ∧ s.endTs ≤ upper
        ∧ minSegmentSecs ≤ s.seconds := by
  have hempty : Laid lower (nextTs upper focus) [] := ⟨List.Pairwise.nil, by simp⟩
  have hlaid := Laid.addRows hsorted hlower hupper hempty
  unfold buildSegments
  constructor
  . apply List.pairwise_map.mpr
    apply List.Pairwise.filter
    exact List.pairwise_reverse.mpr hlaid.ordered
  . intro s hs
    rcases List.mem_map.mp hs with ⟨raw, hraw, rfl⟩
    rcases List.mem_filter.mp hraw with ⟨hmem, hlong⟩
    have hwithin := hlaid.within raw (List.mem_reverse.mp hmem)
    exact ⟨hwithin.1, hwithin.2.1, hwithin.2.2, of_decide_eq_true hlong⟩

/--
The segments are sorted and disjoint, lie between the first event and the upper bound and have the
minimal length. The active seconds are the sum over the categories, and over the segments.
-/
theorem segmentation_sound {focus : List FocusRow} {upper : Int}
    (hsorted : focus.Pairwise (fun r r' => r.ts ≤ r'.ts))
    (hupper : ∀ last ∈ focus.getLast?, last.ts ≤ upper)
    : let segs := buildSegments focus upper
      segs.Pairwise (fun s t => s.endTs ≤ t.startTs)
      ∧ (∀ s ∈ segs, (∀ first ∈ focus.head?, first.ts ≤ s.startTs) ∧ s.startTs ≤ s.endTs
        ∧ s.endTs ≤ upper ∧ minSegmentSecs ≤ s.seconds)
      ∧ (aggregate segs).activeSeconds = (Table.values (aggregate segs).byCategory).sum
      ∧ (aggregate segs).activeSeconds = (segs.map SegmentInput.seconds).sum := by
  have hlast := ts_le_of_getLast hsorted hupper
  have hlower : ∀ first ∈ focus.head?, ∀ row ∈ focus, first.ts ≤ row.ts := by
    intro first hfirst row hrow
    cases focus with
    | nil => cases hrow
    | cons head rest =>
      cases hfirst
      rcases List.mem_cons.mp hrow with rfl | hrow
      . exact Int.le_refl _
      . exact List.rel_of_pairwise_cons hsorted hrow
  have hsound : ∀ s ∈ buildSegments focus upper, (∀ first ∈ focus.head?, first.ts ≤ s.startTs)
      ∧ s.startTs ≤ s.endTs ∧ s.endTs ≤ upper ∧ minSegmentSecs ≤ s.seconds := by
    intro s hs
    cases hhead : focus.head? with
    | none =>
      rw [List.head?_eq_none_iff] at hhead
      rw [hhead] at hs
      cases hs
    | some first =>
      have hwithin := (buildSegments_laid hsorted (hlower first hhead) hlast).2 s hs
      refine ⟨?_, hwithin.2⟩
      intro other hother
      cases hother
      exact hwithin.1
  refine ⟨?_, hsound, (counts_byCategory _).symm, ?_⟩
  . cases hhead : focus.head? with
    | none =>
      rw [List.head?_eq_none_iff] at hhead
      rw [hhead]
      exact List.Pairwise.nil
    | some first => exact (buildSegments_laid hsorted (hlower first hhead) hlast).1
  . apply counts_active_laid
    intro s hs
    exact (hsound s hs).2.1

def morning : List FocusRow :=
  [⟨0, "code", "main.rs"⟩, ⟨60 * 10 ^ 9, "code", "lib.rs"⟩, ⟨90 * 10 ^ 9, "slack", ""⟩]

-- The two focuses of the editor are one segment, and the chat is the last one.
theorem segmentation_sound_morning
    : (aggregate (buildSegments morning (150 * 10 ^ 9))).activeSeconds
        = ((buildSegments morning (150 * 10 ^ 9)).map SegmentInput.seconds).sum := by
  have hsorted : morning.Pairwise (fun r r' => r.ts ≤ r'.ts) := by decide
  have hupper : ∀ last ∈ morning.getLast?, last.ts ≤ 150 * 10 ^ 9 := by decide
  exact (segmentation_sound hsorted hupper).2.2.2

end Narrative

end Vantyr
