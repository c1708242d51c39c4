import Mathlib.Data.List.Chain
import Mathlib.Data.List.Sort
import Mathlib.Data.Rat.Cast.Order
import Mathlib.Tactic.Linarith
import Vantyr.Dashboard.RemoteFrame

/-!
This module contains the sessions of the activity of an agent (`aggregateSessions` in
`frontend/src/features/activity/sessionAggregator.ts`): how foreground windows become sessions, how these are
made a continuous timeline up to now, and which keystrokes and URLs each of them gets. Times are milliseconds.
The parser of timestamps, the lower case of Unicode text and the name that an application is shown with are
parameters.
-/

namespace Vantyr

namespace Activity

structure WindowEvent where
  id : Int
  windowTitle : String
  exeName : String
  appDisplay : Option String
  timestamp : String
  user : Option String
  deriving DecidableEq, Repr

structure URLEvent where
  id : Int
  url : String
  browser : String
  timestamp : String
  user : Option String
  deriving DecidableEq, Repr

structure KeystrokeEvent where
  id : Int
  windowTitle : String
  exeName : String
  keys : String
  timestamp : String
  user : Option String
  deriving DecidableEq, Repr

structure SessionAlertEvent where
  id : Int
  ruleName : String
  channel : String
  snippet : String
  createdAt : String
  hasScreenshot : Bool
  screenshotRequested : Bool
  deriving DecidableEq, Repr

structure Session where
  id : String
  user : Option String
  appName : String
  appDisplayName : String
  windowTitle : String
  startTime : Int
  endTime : Int
  duration : Int
  keystrokeCount : Nat
  urls : List URLEvent
  keystrokes : List KeystrokeEvent
  windows : List WindowEvent
  hasKeystrokes : Bool
  hasUrls : Bool
  alertEvents : Option (List SessionAlertEvent) := none
  deriving DecidableEq, Repr

structure Platform where
  time : String → Int
  toLowerCase : String → String
  deriveAppDisplayName : WindowEvent → String

-- `replace(/\s+/g, " ")`
def collapseSpace : (afterSpace : Bool) → List Char → List Char
  | _, [] => []
  | afterSpace, c :: cs =>
    if Multipart.isSpace c then
      if afterSpace then collapseSpace true cs else ' ' :: collapseSpace true cs
    else
      c :: collapseSpace false cs

def normalizeSpace (s : String) : String :=
  String.ofList (Multipart.trimSpace (collapseSpace false s.toList))

def isBlankWindowEvent (w : WindowEvent) : Bool :=
  normalizeSpace w.exeName = ""
    && normalizeSpace w.windowTitle = ""
    && normalizeSpace (w.appDisplay.getD "") = ""

def browserExes : List String :=
  ["chrome.exe", "chromium.exe", "firefox.exe", "msedge.exe", "helium.exe", "brave.exe", "opera.exe",
    "vivaldi.exe", "iexplore.exe", "waterfox.exe", "librewolf.exe", "thorium.exe", "arc.exe", "safari.exe",
    "min.exe"]

-- The length of a string in JavaScript.
def utf16Length (s : String) : Nat :=
  (s.toList.map (fun c => if c.toNat < 0x10000 then 1 else 2)).sum

-- A user that is empty counts as none.
def known (user : Option String) : Bool :=
  user.any (· ≠ "")

section Timeline

variable (platform : Platform)

def isTaskSwitchingNoiseEvent (win : WindowEvent) : Bool :=
  let exe := platform.toLowerCase (normalizeSpace win.exeName)
  let title := platform.toLowerCase (normalizeSpace win.windowTitle)
  exe = "explorer.exe"
    && (title = "task switching" || title = "task view" || title = "snap assist"
      || Text.contains title "task switching" || Text.contains title "task view"
      || Text.contains title "snap assist")

-- The window events that make sessions.
def isActivity (w : WindowEvent) : Bool :=
  !isBlankWindowEvent w && !isTaskSwitchingNoiseEvent platform w

def sortedWindows (windows : List WindowEvent) : List WindowEvent :=
  (windows.filter (isActivity platform)).insertionSort
    (fun a b => platform.time a.timestamp ≤ platform.time b.timestamp)

def newSession (window : WindowEvent) : Session :=
  let windowTime := platform.time window.timestamp
  {
    id := "session-" ++ toString window.id ++ "-" ++ toString windowTime
    user := window.user
    appName := window.exeName
    appDisplayName := platform.deriveAppDisplayName window
    windowTitle := window.windowTitle
    startTime := windowTime
    endTime := windowTime
    duration := 0
    keystrokeCount := 0
    urls := []
    keystrokes := []
    windows := [window]
    hasKeystrokes := false
    hasUrls := false
  }

def extend (window : WindowEvent) (current : Session) : Session :=
  {
    current with
    endTime := platform.time window.timestamp
    windowTitle := window.windowTitle
    appDisplayName := platform.deriveAppDisplayName window
    user := if !known current.user && known window.user then window.user else current.user
    windows := current.windows ++ [window]
  }

-- The body of the loop over the sorted windows, with the sessions and the current one.
def addWindow (gapThresholdSeconds : ℚ) (s : List Session × Option Session) (window : WindowEvent)
    : List Session × Option Session :=
  match s.2 with
  | none => (s.1, some (newSession platform window))
  | some current =>
    if current.appName ≠ window.exeName
        ∨ gapThresholdSeconds < ((platform.time window.timestamp - current.endTime : Int) : ℚ) / 1000 then
      (s.1 ++ [current], some (newSession platform window))
    else
      (s.1, some (extend platform window current))

def sessionsOf (gapThresholdSeconds : ℚ) (sorted : List WindowEvent) : List Session :=
  let s := sorted.foldl (addWindow platform gapThresholdSeconds) ([], none)
  s.1 ++ s.2.toList

def idleSession (user : Option String) (startTime endTime : Int) : Session where
  id := "idle-" ++ toString startTime ++ "-" ++ toString endTime
  user := user
  appName := "__idle__"
  appDisplayName := "Idle / Away"
  windowTitle := "No foreground window events"
  startTime := startTime
  endTime := endTime
  duration := 0
  keystrokeCount := 0
  urls := []
  keystrokes := []
  windows := []
  hasKeystrokes := false
  hasUrls := false

-- A session is stretched to the next one, or an idle segment fills the gap between them.
def continuous (idleMs : ℚ) : List Session → List Session
  | [] => []
  | [s] => [s]
  | s :: next :: rest =>
    let gap := next.startTime - s.endTime
    if 0 < gap ∧ (gap : ℚ) ≤ idleMs then
      { s with endTime := next.startTime } :: continuous idleMs (next :: rest)
    else if idleMs < (gap : ℚ) then
      s :: idleSession s.user s.endTime next.startTime :: continuous idleMs (next :: rest)
    else
      s :: continuous idleMs (next :: rest)

def latest (first : Int) (times : List Int) : Int :=
  times.foldl (fun maxEventMs t => if maxEventMs < t then t else maxEventMs) first

-- The last segment is stretched to now, or an idle one follows it.
def extendTail (idleMs : ℚ) (nowMs maxEventMs : Int) (timeline : List Session) : List Session :=
  match timeline.getLast? with
  | none => timeline
  | some last =>
    let quiet := max last.endTime maxEventMs
    if idleMs < ((nowMs - quiet : Int) : ℚ) then
      timeline ++ [idleSession last.user quiet nowMs]
    else if last.endTime < nowMs then
      timeline.dropLast ++ [{ last with endTime := nowMs }]
    else
      timeline

structure Options where
  windows : List WindowEvent
  urls : List URLEvent
  keystrokes : List KeystrokeEvent
  gapThresholdSeconds : ℚ := 300
  idleThresholdSeconds : ℚ := 30

def maxEventMs (o : Options) : Int :=
  let last := ((sortedWindows platform o.windows).getLast?.map (fun w => platform.time w.timestamp)).getD 0
  latest (latest last (o.urls.map (fun u => platform.time u.timestamp)))
    (o.keystrokes.map (fun k => platform.time k.timestamp))

def timelineOf (o : Options) (nowMs : Int) : List Session :=
  let sessions := sessionsOf platform o.gapThresholdSeconds (sortedWindows platform o.windows)
  extendTail (o.idleThresholdSeconds * 1000) nowMs (maxEventMs platform o)
    (continuous (o.idleThresholdSeconds * 1000) sessions)

end Timeline

section Attribution

variable (platform : Platform)

-- What a session shows of the keystrokes.
def showsKeystroke (gapMs : ℚ) (session : Session) (key : KeystrokeEvent) : Bool :=
  Multipart.trimSpace key.keys.toList ≠ []
    && session.startTime ≤ platform.time key.timestamp
    && (platform.time key.timestamp : ℚ) ≤ session.endTime + gapMs
    && key.exeName = session.appName

def attributeKeystrokes (gapMs : ℚ) (keystrokes : List KeystrokeEvent) (session : Session) : Session :=
  let shown := keystrokes.filter (showsKeystroke platform gapMs session)
  let user :=
    if known session.user then
      session.user
    else
      let found :=
        ((shown.find? (fun k => known k.user)).bind KeystrokeEvent.user
          <|> (session.urls.find? (fun u => known u.user)).bind URLEvent.user
          <|> (session.windows.find? (fun w => known w.user)).bind WindowEvent.user)
      if known found then found else session.user
  {
    session with
    keystrokes := shown
    keystrokeCount := (shown.map (fun k => utf16Length k.keys)).sum
    duration := max 0 ((session.endTime - session.startTime) / 1000)
    hasKeystrokes := shown ≠ []
    user
  }

def isBrowser (appName : String) : Bool :=
  browserExes.contains (platform.toLowerCase appName)

def containsUrl (gapMs : ℚ) (urlMs : Int) (s : Session) : Bool :=
  s.startTime ≤ urlMs && (urlMs : ℚ) ≤ s.endTime + gapMs

-- The distance of a time to the interval of a session.
def distance (urlMs : Int) (s : Session) : Int :=
  if urlMs < s.startTime then s.startTime - urlMs else if s.endTime < urlMs then urlMs - s.endTime else 0

-- The first session in which the loop finds the least distance.
def nearest (urlMs : Int) (first : Session × Nat) (rest : List (Session × Nat)) : Session × Nat :=
  rest.foldl (fun best s => if distance urlMs s.1 < distance urlMs best.1 then s else best) first

-- The place of the session that a URL is pushed to.
def target (gapMs : ℚ) (sessions : List Session) (url : URLEvent) : Option Nat :=
  let urlMs := platform.time url.timestamp
  let browserSessions := sessions.zipIdx.filter (fun s => isBrowser platform s.1.appName)
  match browserSessions.find? (fun s => containsUrl gapMs urlMs s.1), browserSessions with
  | some containing, _ => some containing.2
  | none, first :: rest => some (nearest urlMs first rest).2
  | none, [] => none

-- A session gets the URLs that are pushed to it, in their order.
def redistributeUrlsToBrowserSessions (gapMs : ℚ) (allUrls : List URLEvent) (sessions : List Session)
    : List Session :=
  if sessions.any (fun s => isBrowser platform s.appName) then
    sessions.mapIdx fun i s =>
      let urls := allUrls.filter (fun url => target platform gapMs sessions url = some i)
      { s with urls, hasUrls := urls ≠ [] }
  else
    sessions

def attributeEvents (o : Options) (timeline : List Session) : List Session :=
  let gapMs := o.gapThresholdSeconds * 1000
  redistributeUrlsToBrowserSessions platform gapMs o.urls
    (timeline.map (attributeKeystrokes platform gapMs o.keystrokes))

def aggregateSessions (o : Options) (nowMs : Int) : List Session :=
  if o.windows = [] then [] else attributeEvents platform o (timelineOf platform o nowMs)

end Attribution

section

variable {platform : Platform}

/-!
The sessions of the windows.
-/

-- What holds of the sessions of the first windows.
structure Built (platform : Platform) (ws : List WindowEvent) (sessions : List Session) : Prop where
  ordered : ∀ s ∈ sessions, s.startTime ≤ s.endTime
  chain : sessions.IsChain (fun s next => s.endTime ≤ next.startTime)
  windows : sessions.flatMap Session.windows = ws
  last : sessions.getLast?.map Session.endTime = ws.getLast?.map (fun w => platform.time w.timestamp)

-- The current session is the last one, there is none only before the first window.
theorem addWindow_built {gap : ℚ} {ws : List WindowEvent} {s : List Session × Option Session}
    (h : Built platform ws (s.1 ++ s.2.toList)) (hnone : s.2 = none → s.1 = []) {window : WindowEvent}
    (hlater : ∀ w ∈ ws, platform.time w.timestamp ≤ platform.time window.timestamp)
    : let s' := addWindow platform gap s window
      Built platform (ws ++ [window]) (s'.1 ++ s'.2.toList) ∧ (s'.2 = none → s'.1 = []) := by
  rcases s with ⟨sessions, current⟩
  cases current with
  | none =>
    cases hnone rfl
    have hws : ws = [] := h.windows.symm
    subst hws
    refine ⟨⟨?_, List.isChain_singleton _, rfl, rfl⟩, fun h => by cases h⟩
    intro s hs
    rw [List.mem_singleton.mp hs]
    exact Int.le_refl _
  | some current =>
    rcases List.isChain_append.mp h.chain with ⟨hchain, _, hjoin⟩
    have hend : current.endTime ≤ platform.time window.timestamp := by
      have hlast := h.last
      rw [Option.toList_some, List.getLast?_concat] at hlast
      rcases Option.map_eq_some_iff.mp hlast.symm with ⟨w, hw, heq⟩
      rw [← heq]
      exact hlater w (List.mem_of_getLast? hw)
    have hstart := h.ordered current (List.mem_append_right _ List.mem_cons_self)
    have hwindows := h.windows
    rw [Option.toList_some, List.flatMap_append] at hwindows
    unfold addWindow
    dsimp only
    split
    . refine ⟨⟨?_, ?_, ?_, ?_⟩, fun h => by cases h⟩
      . intro s hs
        rcases List.mem_append.mp hs with hs | hs
        . exact h.ordered s hs
        . rw [List.mem_singleton.mp hs]
          exact Int.le_refl _
      . refine List.isChain_append.mpr ⟨h.chain, List.isChain_singleton _, ?_⟩
        intro s hs next hnext
        rw [Option.mem_def, List.getLast?_concat] at hs
        cases hs
        cases hnext
        exact hend
      . rw [List.flatMap_append, List.flatMap_append, hwindows]
        rfl
      . rw [Option.toList_some, List.getLast?_concat, List.getLast?_concat]
        rfl
    . refine ⟨⟨?_, ?_, ?_, ?_⟩, fun h => by cases h⟩
      . intro s hs
        rcases List.mem_append.mp hs with hs | hs
        . exact h.ordered s (List.mem_append_left _ hs)
        . rw [List.mem_singleton.mp hs]
          exact hstart.trans hend
      . refine List.isChain_append.mpr ⟨hchain, List.isChain_singleton _, ?_⟩
        intro s hs next hnext
        cases hnext
        exact hjoin s hs current rfl
      . rw [← hwindows, List.flatMap_append, List.append_assoc]
        congr 1
        show (current.windows ++ [window]) ++ [] = (current.windows ++ []) ++ [window]
        rw [List.append_nil, List.append_nil]
      . rw [Option.toList_some, List.getLast?_concat, List.getLast?_concat]
        rfl

theorem sessionsOf_built (gap : ℚ) {sorted : List WindowEvent}
    (h : sorted.Pairwise (fun a b => platform.time a.timestamp ≤ platform.time b.timestamp))
    : Built platform sorted (sessionsOf platform gap sorted) := by
  suffices hboth : Built platform sorted (sessionsOf platform gap sorted)
      ∧ ((sorted.foldl (addWindow platform gap) ([], none)).2 = none
        → (sorted.foldl (addWindow platform gap) ([], none)).1 = []) from hboth.1
  induction sorted using List.reverseRecOn with
  | nil =>
    exact ⟨⟨(fun _ hs => by cases hs), List.isChain_nil, rfl, rfl⟩, fun _ => rfl⟩
  | append_singleton ws window ih =>
    rcases List.pairwise_append.mp h with ⟨hws, _, hlater⟩
    rcases ih hws with ⟨hbuilt, hnone⟩
    unfold sessionsOf
    rw [List.foldl_append]
    exact addWindow_built hbuilt hnone (fun w hw => hlater w hw window List.mem_cons_self)

/-!
The timeline.
-/

theorem continuous_cons_cons (idleMs : ℚ) (s next : Session) (rest : List Session)
    : continuous idleMs (s :: next :: rest)
      = if 0 < next.startTime - s.endTime ∧ ((next.startTime - s.endTime : Int) : ℚ) ≤ idleMs then
          { s with endTime := next.startTime } :: continuous idleMs (next :: rest)
        else if idleMs < ((next.startTime - s.endTime : Int) : ℚ) then
          s :: idleSession s.user s.endTime next.startTime :: continuous idleMs (next :: rest)
        else
          s :: continuous idleMs (next :: rest) := rfl

theorem continuous_cons (idleMs : ℚ) (s : Session) (rest : List Session)
    : ∃ first more, continuous idleMs (s :: rest) = first :: more ∧ first.startTime = s.startTime := by
  cases rest with
  | nil => exact ⟨s, [], rfl, rfl⟩
  | cons next rest =>
    rw [continuous_cons_cons]
    split
    . exact ⟨_, _, rfl, rfl⟩
    . split
      . exact ⟨_, _, rfl, rfl⟩
      . exact ⟨_, _, rfl, rfl⟩

-- The segments are adjacent, and the last one is the last session.
theorem continuous_spec (idleMs : ℚ)
    : (sessions : List Session) → (∀ s ∈ sessions, s.startTime ≤ s.endTime)
      → sessions.IsChain (fun s next => s.endTime ≤ next.startTime)
      → (∀ s ∈ continuous idleMs sessions, s.startTime ≤ s.endTime)
        ∧ (continuous idleMs sessions).IsChain (fun s next => s.endTime = next.startTime)
        ∧ (continuous idleMs sessions).flatMap Session.windows = sessions.flatMap Session.windows
        ∧ (continuous idleMs sessions).getLast? = sessions.getLast?
  | [], _, _ => ⟨(fun _ hs => by cases hs), List.isChain_nil, rfl, rfl⟩
  | [s], hordered, _ => ⟨hordered, List.isChain_singleton s, rfl, rfl⟩
  | s :: next :: rest, hordered, hchain => by
    rw [List.isChain_cons_cons] at hchain
    rw [List.forall_mem_cons] at hordered
    rcases continuous_spec idleMs (next :: rest) hordered.2 hchain.2
      with ⟨hordered', hchain', hwindows, hlast⟩
    rcases continuous_cons idleMs next rest with ⟨first, more, hcons, hfirst⟩
    have hstretch : s.startTime ≤ next.startTime := hordered.1.trans hchain.1
    rw [hcons] at hordered' hchain' hwindows hlast
    rw [continuous_cons_cons, hcons, List.flatMap_cons, List.getLast?_cons_cons, ← hwindows, ← hlast]
    split
    . refine ⟨?_, ?_, rfl, List.getLast?_cons_cons⟩
      . rw [List.forall_mem_cons]
        exact ⟨hstretch, hordered'⟩
      . rw [List.isChain_cons_cons]
        exact ⟨hfirst.symm, hchain'⟩
    . split
      . refine ⟨?_, ?_, rfl, ?_⟩
        . rw [List.forall_mem_cons, List.forall_mem_cons]
          exact ⟨hordered.1, hchain.1, hordered'⟩
        . rw [List.isChain_cons_cons, List.isChain_cons_cons]
          exact ⟨rfl, hfirst.symm, hchain'⟩
        . rw [List.getLast?_cons_cons, List.getLast?_cons_cons]
      . next hshort hlong =>
        have hzero : s.endTime = next.startTime := by
          rw [not_and, not_le] at hshort
          by_contra hne
          have hpos : 0 < next.startTime - s.endTime := by
            have := hchain.1
            omega
          exact hlong (hshort hpos)
        refine ⟨?_, ?_, rfl, List.getLast?_cons_cons⟩
        . rw [List.forall_mem_cons]
          exact ⟨hordered.1, hordered'⟩
        . rw [List.isChain_cons_cons]
          exact ⟨hzero.trans hfirst.symm, hchain'⟩

theorem latest_spec (first : Int) (times : List Int)
    : first ≤ latest first times ∧ (∀ t ∈ times, t ≤ latest first times)
      ∧ (latest first times = first ∨ latest first times ∈ times) := by
  induction times generalizing first with
  | nil => exact ⟨Int.le_refl _, (fun _ ht => by cases ht), .inl rfl⟩
  | cons t times ih =>
    rcases ih (if first < t then t else first) with ⟨hfirst, htimes, hmem⟩
    change _ ≤ latest first (t :: times) at hfirst
    have hle : first ≤ latest first (t :: times) ∧ t ≤ latest first (t :: times) := by
      split at hfirst
      . exact ⟨by omega, hfirst⟩
      . exact ⟨hfirst, by omega⟩
    refine ⟨hle.1, List.forall_mem_cons.mpr ⟨hle.2, htimes⟩, ?_⟩
    rcases hmem with hmem | hmem
    . change latest first (t :: times) = _ at hmem
      split at hmem
      . rw [hmem]
        exact .inr List.mem_cons_self
      . exact .inl hmem
    . exact .inr (List.mem_cons_of_mem _ hmem)

-- Segments in time order, each up to the next one and the last one up to now.
structure Tiles (nowMs : Int) (segments : List Session) : Prop where
  ordered : ∀ s ∈ segments, s.startTime ≤ s.endTime
  adjacent : segments.IsChain (fun s next => s.endTime = next.startTime)
  endsNow : segments.getLast?.map Session.endTime = some nowMs

-- The tail leaves a gap only when an idle segment begins after the last one.
theorem extendTail_tiles_iff {idleMs : ℚ} {nowMs maxEvent : Int} {front : List Session} {last : Session}
    (hordered : ∀ s ∈ front ++ [last], s.startTime ≤ s.endTime)
    (hchain : (front ++ [last]).IsChain (fun s next => s.endTime = next.startTime))
    (hnow : last.endTime ≤ nowMs)
    : Tiles nowMs (extendTail idleMs nowMs maxEvent (front ++ [last]))
      ↔ maxEvent ≤ last.endTime ∨ ((nowMs - max last.endTime maxEvent : Int) : ℚ) ≤ idleMs := by
  have hlast := hordered last (List.mem_append_right _ List.mem_cons_self)
  unfold extendTail
  rw [List.getLast?_concat]
  dsimp only
  split
  . next hquiet =>
    rw [or_iff_left (not_le.mpr hquiet)]
    constructor
    . intro h
      have hjoin : last.endTime = max last.endTime maxEvent :=
        (List.isChain_append.mp h.adjacent).2.2 last (List.getLast?_concat) _ rfl
      rw [hjoin]
      exact le_max_right _ _
    . intro hmax
      rw [max_eq_left hmax]
      refine ⟨?_, ?_, ?_⟩
      . intro s hs
        rcases List.mem_append.mp hs with hs | hs
        . exact hordered s hs
        . rw [List.mem_singleton.mp hs]
          exact hnow
      . refine List.isChain_append.mpr ⟨hchain, List.isChain_singleton _, ?_⟩
        intro s hs next hnext
        rw [Option.mem_def, List.getLast?_concat] at hs
        cases hs
        cases hnext
        rfl
      . rw [List.getLast?_concat]
        rfl
  . next hcurrent =>
    refine iff_of_true ?_ (.inr (not_lt.mp hcurrent))
    split
    . rw [List.dropLast_concat]
      refine ⟨?_, ?_, ?_⟩
      . intro s hs
        rcases List.mem_append.mp hs with hs | hs
        . exact hordered s (List.mem_append_left _ hs)
        . rw [List.mem_singleton.mp hs]
          exact hlast.trans hnow
      . rcases List.isChain_append.mp hchain with ⟨hfront, _, hjoin⟩
        refine List.isChain_append.mpr ⟨hfront, List.isChain_singleton _, ?_⟩
        intro s hs next hnext
        cases hnext
        exact hjoin s hs last rfl
      . rw [List.getLast?_concat]
        rfl
    . next hend =>
      refine ⟨hordered, hchain, ?_⟩
      rw [List.getLast?_concat]
      exact congrArg some (Int.le_antisymm hnow (Int.not_lt.mp hend))

theorem extendTail_windows (idleMs : ℚ) (nowMs maxEvent : Int) (timeline : List Session)
    : (extendTail idleMs nowMs maxEvent timeline).flatMap Session.windows
      = timeline.flatMap Session.windows := by
  rcases timeline.eq_nil_or_concat with rfl | ⟨front, last, rfl⟩
  . rfl
  . unfold extendTail
    rw [List.concat_eq_append, List.getLast?_concat]
    dsimp only
    split
    . rw [List.flatMap_append]
      exact List.append_nil _
    . split
      . rw [List.dropLast_concat, List.flatMap_append, List.flatMap_append]
        rfl
      . rfl

/-!
Attribution leaves the segments as they are.
-/

def Session.span (s : Session) : Int × Int × List WindowEvent :=
  (s.startTime, s.endTime, s.windows)

theorem map_span_redistribute (gapMs : ℚ) (allUrls : List URLEvent) (sessions : List Session)
    : (redistributeUrlsToBrowserSessions platform gapMs allUrls sessions).map Session.span
      = sessions.map Session.span := by
  unfold redistributeUrlsToBrowserSessions
  split
  . apply List.ext_getElem
    . rw [List.length_map, List.length_map, List.length_mapIdx]
    . intro i _ _
      rw [List.getElem_map, List.getElem_map, List.getElem_mapIdx]
      rfl
  . rfl

theorem map_span_attributeEvents (o : Options) (timeline : List Session)
    : (attributeEvents platform o timeline).map Session.span = timeline.map Session.span := by
  unfold attributeEvents
  rw [map_span_redistribute, List.map_map]
  rfl

theorem tiles_iff_span {nowMs : Int} {segments : List Session}
    : Tiles nowMs segments
      ↔ (∀ span ∈ segments.map Session.span, span.1 ≤ span.2.1)
        ∧ (segments.map Session.span).IsChain (fun span next => span.2.1 = next.1)
        ∧ (segments.map Session.span).getLast?.map (fun span => span.2.1) = some nowMs := by
  rw [List.forall_mem_map, List.isChain_map, List.getLast?_map, Option.map_map]
  exact ⟨fun h => ⟨h.ordered, h.adjacent, h.endsNow⟩, fun h => ⟨h.1, h.2.1, h.2.2⟩⟩

theorem flatMap_windows_eq (segments : List Session)
    : segments.flatMap Session.windows = (segments.map Session.span).flatMap (fun span => span.2.2) := by
  rw [List.flatMap_map]
  rfl

theorem pairwise_sortedWindows (platform : Platform) (windows : List WindowEvent)
    : (sortedWindows platform windows).Pairwise
      (fun a b => platform.time a.timestamp ≤ platform.time b.timestamp) := by
  let earlier (a b : WindowEvent) := platform.time a.timestamp ≤ platform.time b.timestamp
  have htotal : Std.Total earlier := ⟨fun a b => Int.le_total _ _⟩
  have htrans : IsTrans WindowEvent earlier := ⟨fun _ _ _ => Int.le_trans⟩
  exact List.pairwise_insertionSort earlier _

-- The latest window is the last one, and the latest event that or one of the others.
theorem maxEventMs_spec {o : Options} {front : List WindowEvent} {w : WindowEvent}
    (h : sortedWindows platform o.windows = front ++ [w])
    : let others := o.urls.map (fun u => platform.time u.timestamp)
        ++ o.keystrokes.map (fun k => platform.time k.timestamp)
      platform.time w.timestamp ≤ maxEventMs platform o
      ∧ (∀ t ∈ others, t ≤ maxEventMs platform o)
      ∧ (maxEventMs platform o = platform.time w.timestamp ∨ maxEventMs platform o ∈ others) := by
  intro others
  have hmax : maxEventMs platform o = latest (platform.time w.timestamp) others := by
    unfold maxEventMs
    rw [h, List.getLast?_concat]
    exact (List.foldl_append).symm
  rw [hmax]
  exact latest_spec _ _

end

/--
Every window event belongs to one segment, and the segments are adjacent up to now if and only if no URL or
keystroke is later than the windows, or some event is not longer ago than the idle threshold.
-/
theorem timeline_tiles_iff (platform : Platform) (o : Options) (nowMs : Int)
    (hactivity : ∃ w ∈ o.windows, isActivity platform w = true)
    (hnow : ∀ w ∈ o.windows, isActivity platform w = true → platform.time w.timestamp ≤ nowMs)
    : let segments := aggregateSessions platform o nowMs
      let others := o.urls.map (fun u => platform.time u.timestamp)
        ++ o.keystrokes.map (fun k => platform.time k.timestamp)
      (segments.flatMap Session.windows).Perm (o.windows.filter (isActivity platform))
      ∧ (Tiles nowMs segments
        ↔ (∀ t ∈ others, ∃ w ∈ o.windows, isActivity platform w = true ∧ t ≤ platform.time w.timestamp)
          ∨ ∃ t ∈ (o.windows.filter (isActivity platform)).map (fun w => platform.time w.timestamp) ++ others,
            ((nowMs - t : Int) : ℚ) ≤ o.idleThresholdSeconds * 1000) := by
  intro segments others
  have hwindows : o.windows ≠ [] := by
    rcases hactivity with ⟨w, hw, _⟩
    exact List.ne_nil_of_mem hw
  have hsegments : segments = attributeEvents platform o (timelineOf platform o nowMs) := if_neg hwindows
  have hperm : (sortedWindows platform o.windows).Perm (o.windows.filter (isActivity platform)) :=
    List.perm_insertionSort _ _
  have hsorted := pairwise_sortedWindows platform o.windows
  have hbuilt := sessionsOf_built o.gapThresholdSeconds hsorted
  rcases continuous_spec (o.idleThresholdSeconds * 1000) _ hbuilt.ordered hbuilt.chain
    with ⟨hordered, hchain, hsame, hlast⟩
  constructor
  . rw [hsegments, flatMap_windows_eq, map_span_attributeEvents, ← flatMap_windows_eq]
    unfold timelineOf
    dsimp only
    rw [extendTail_windows, hsame, hbuilt.windows]
    exact hperm
  . rw [hsegments, tiles_iff_span, map_span_attributeEvents, ← tiles_iff_span]
    -- The last session ends with the last window.
    rcases (sortedWindows platform o.windows).eq_nil_or_concat with hnil | ⟨front, w, hconcat⟩
    . rcases hactivity with ⟨w, hw, hproper⟩
      rw [hnil] at hperm
      have hmem := hperm.mem_iff.mpr (List.mem_filter.mpr ⟨hw, hproper⟩)
      cases hmem
    rw [List.concat_eq_append] at hconcat
    have hw := List.mem_filter.mp (hperm.mem_iff.mp (hconcat ▸ List.mem_append_right _ List.mem_cons_self))
    have hlatest : ∀ w' ∈ o.windows, isActivity platform w' = true
        → platform.time w'.timestamp ≤ platform.time w.timestamp := by
      intro w' hw' hproper
      have hmem := hperm.mem_iff.mpr (List.mem_filter.mpr ⟨hw', hproper⟩)
      rw [hconcat] at hmem hsorted
      rcases List.mem_append.mp hmem with hmem | hmem
      . exact (List.pairwise_append.mp hsorted).2.2 w' hmem w List.mem_cons_self
      . rw [List.mem_singleton.mp hmem]
    have hend := hbuilt.last
    rw [hconcat, List.getLast?_concat, ← hconcat, ← hlast] at hend
    rcases Option.map_eq_some_iff.mp hend with ⟨last, hgetLast, hlastEnd⟩
    rcases List.getLast?_eq_some_iff.mp hgetLast with ⟨segments', hcontinuous⟩
    rw [hcontinuous] at hordered hchain
    rcases maxEventMs_spec hconcat with ⟨hle, hothers, hmax⟩
    unfold timelineOf
    dsimp only
    rw [hcontinuous, extendTail_tiles_iff hordered hchain (hlastEnd.trans_le (hnow w hw.1 hw.2)), hlastEnd,
      max_eq_right hle]
    apply or_congr
    . constructor
      . exact fun h t ht => ⟨w, hw.1, hw.2, (hothers t ht).trans h⟩
      . intro h
        rcases hmax with hmax | hmax
        . exact hmax.le
        . rcases h _ hmax with ⟨w', hw', hproper, hle'⟩
          exact hle'.trans (hlatest w' hw' hproper)
    . constructor
      . intro h
        refine ⟨maxEventMs platform o, ?_, h⟩
        rcases hmax with hmax | hmax
        . rw [hmax]
          exact List.mem_append_left _ (List.mem_map.mpr ⟨w, List.mem_filter.mpr hw, rfl⟩)
        . exact List.mem_append_right _ hmax
      . rintro ⟨t, ht, hrecent⟩
        have htle : t ≤ maxEventMs platform o := by
          rcases List.mem_append.mp ht with ht | ht
          . rcases List.mem_map.mp ht with ⟨w', hw', rfl⟩
            rw [List.mem_filter] at hw'
            exact (hlatest w' hw'.1 hw'.2).trans hle
          . exact hothers t ht
        refine le_trans ?_ hrecent
        exact_mod_cast Int.sub_le_sub_left htle nowMs

namespace Example

def platform : Platform where
  time s :=
    if s = "2026-01-01T00:00:00Z" then 1767225600000
    else if s = "2026-01-01T00:01:40Z" then 1767225700000
    else 0
  toLowerCase := id
  deriveAppDisplayName w := w.exeName

def window : WindowEvent where
  id := 1
  windowTitle := "notes"
  exeName := "notepad.exe"
  appDisplay := none
  timestamp := "2026-01-01T00:00:00Z"
  user := none

def keystroke : KeystrokeEvent where
  id := 1
  windowTitle := "notes"
  exeName := "notepad.exe"
  keys := "abc"
  timestamp := "2026-01-01T00:01:40Z"
  user := none

def typing : Options where
  windows := [window]
  urls := []
  keystrokes := [keystroke]

end Example

theorem timeline_tiles_example
    : ((aggregateSessions Example.platform Example.typing 1767225800000).flatMap Session.windows).Perm
      (Example.typing.windows.filter (isActivity Example.platform)) :=
  (timeline_tiles_iff Example.platform Example.typing 1767225800000 (by decide +kernel) (by decide +kernel)).1

-- The session of the window ends at its only event, and the idle segment begins at the keystroke.
theorem gap_after_last_window
    : (aggregateSessions Example.platform Example.typing 1767225800000).map
        (fun s => (s.startTime, s.endTime))
      = [(1767225600000, 1767225600000), (1767225700000, 1767225800000)]
      ∧ ¬Tiles 1767225800000 (aggregateSessions Example.platform Example.typing 1767225800000) := by
  have hgap : ¬(aggregateSessions Example.platform Example.typing 1767225800000).IsChain
      (fun s next => s.endTime = next.startTime) := by
    decide +kernel
  exact ⟨by decide +kernel, fun h => hgap h.adjacent⟩

end Activity

end Vantyr
