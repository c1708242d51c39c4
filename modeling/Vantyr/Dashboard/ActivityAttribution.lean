import Vantyr.Data.Unique
import Vantyr.Dashboard.ActivitySessions

/-!
This module contains what the sessions of the activity show of the keystrokes and URLs (the end of
`aggregateSessions` and `redistributeUrlsToBrowserSessions` in
`frontend/src/features/activity/sessionAggregator.ts`): when a keystroke is shown once, and when a URL is
given to the closest browser session.
-/

namespace Vantyr

namespace Activity

section

variable {platform : Platform}

theorem nearest_spec (urlMs : Int) (first : Session × Nat) (rest : List (Session × Nat))
    : nearest urlMs first rest ∈ first :: rest
      ∧ ∀ s ∈ first :: rest, distance urlMs (nearest urlMs first rest).1 ≤ distance urlMs s.1 := by
  induction rest generalizing first with
  | nil =>
    refine ⟨List.mem_cons_self, ?_⟩
    intro s hs
    rw [List.mem_singleton.mp hs]
    exact Int.le_refl _
  | cons s rest ih =>
    rcases ih (if distance urlMs s.1 < distance urlMs first.1 then s else first) with ⟨hmem, hle⟩
    rw [List.forall_mem_cons] at hle
    change nearest urlMs first (s :: rest) ∈ _ at hmem
    change distance urlMs (nearest urlMs first (s :: rest)).1 ≤ _
      ∧ ∀ s' ∈ rest, distance urlMs (nearest urlMs first (s :: rest)).1 ≤ _ at hle
    split at hmem
    . next hcloser =>
      rw [if_pos hcloser] at hle
      refine ⟨List.mem_cons_of_mem _ hmem, ?_⟩
      rw [List.forall_mem_cons, List.forall_mem_cons]
      exact ⟨hle.1.trans hcloser.le, hle.1, hle.2⟩
    . next hcloser =>
      rw [if_neg hcloser] at hle
      refine ⟨?_, ?_⟩
      . rcases List.mem_cons.mp hmem with h | h
        . rw [h]
          exact List.mem_cons_self
        . exact List.mem_cons_of_mem _ (List.mem_cons_of_mem _ h)
      . rw [List.forall_mem_cons, List.forall_mem_cons]
        exact ⟨hle.1, hle.1.trans (Int.not_lt.mp hcloser), hle.2⟩

-- The browser session in whose range the loop finds the URL first.
def containing (platform : Platform) (gapMs : ℚ) (sessions : List Session) (url : URLEvent)
    : Option Session :=
  sessions.find? (fun s => isBrowser platform s.appName
    && containsUrl gapMs (platform.time url.timestamp) s)

-- No browser session is closer to the URL.
def Closest (platform : Platform) (sessions : List Session) (url : URLEvent) (s : Session) : Prop :=
  ∀ other ∈ sessions, isBrowser platform other.appName = true
    → distance (platform.time url.timestamp) s ≤ distance (platform.time url.timestamp) other

theorem find?_browsers (platform : Platform) (p : Session → Bool) (sessions : List Session)
    : ((sessions.zipIdx.filter (fun s => isBrowser platform s.1.appName)).find? (fun s => p s.1)).map Prod.fst
      = sessions.find? (fun s => isBrowser platform s.appName && p s) := by
  have hsessions : sessions = sessions.zipIdx.map Prod.fst := (List.zipIdx_map_fst 0 sessions).symm
  conv_rhs => rw [hsessions, List.find?_map]
  rw [List.find?_filter]
  congr 2
  funext s
  rw [Bool.eq_iff_iff, decide_eq_true_eq]
  exact (Bool.and_eq_true _ _ ▸ Iff.rfl)

theorem mem_browsers {sessions : List Session} {s : Session × Nat}
    : s ∈ sessions.zipIdx.filter (fun s => isBrowser platform s.1.appName)
      ↔ sessions[s.2]? = some s.1 ∧ isBrowser platform s.1.appName = true := by
  rw [List.mem_filter, List.mem_zipIdx_iff_getElem?]

-- A URL is pushed to the session that contains it, or to the closest one.
theorem target_spec (gapMs : ℚ) {sessions : List Session} (url : URLEvent)
    (hbrowser : ∃ s ∈ sessions, isBrowser platform s.appName = true)
    : ∃ i s, target platform gapMs sessions url = some i ∧ sessions[i]? = some s
      ∧ isBrowser platform s.appName = true
      ∧ (containing platform gapMs sessions url = some s
        ∨ containing platform gapMs sessions url = none ∧ Closest platform sessions url s) := by
  have hfind := find?_browsers platform
    (containsUrl gapMs (platform.time url.timestamp)) sessions
  have hmem := @mem_browsers platform sessions
  unfold target
  dsimp only
  generalize sessions.zipIdx.filter (fun s => isBrowser platform s.1.appName) = browsers at hfind hmem ⊢
  cases hfound : browsers.find? (fun s => containsUrl gapMs (platform.time url.timestamp) s.1) with
  | some found =>
    rw [hfound] at hfind
    have hat := hmem.mp (List.mem_of_find?_eq_some hfound)
    exact ⟨found.2, found.1, rfl, hat.1, hat.2, .inl hfind.symm⟩
  | none =>
    rw [hfound] at hfind
    cases browsers with
    | nil =>
      rcases hbrowser with ⟨s, hs, hbrowser⟩
      rcases List.getElem?_of_mem hs with ⟨i, hi⟩
      have hnone := (@hmem (s, i)).mpr ⟨hi, hbrowser⟩
      cases hnone
    | cons first rest =>
      rcases nearest_spec (platform.time url.timestamp) first rest with ⟨hnearest, hclosest⟩
      have hat := hmem.mp hnearest
      refine ⟨_, _, rfl, hat.1, hat.2, .inr ⟨hfind.symm, ?_⟩⟩
      intro other hother hbrowser
      rcases List.getElem?_of_mem hother with ⟨i, hi⟩
      exact hclosest (other, i) ((@hmem (other, i)).mpr ⟨hi, hbrowser⟩)

-- What the session at a place gets, apart from which it stays the same.
def given (platform : Platform) (gapMs : ℚ) (allUrls : List URLEvent) (sessions : List Session) (i : Nat)
    (s : Session) : Session :=
  let urls := allUrls.filter (fun url => target platform gapMs sessions url = some i)
  { s with urls, hasUrls := urls ≠ [] }

theorem mem_redistribute (gapMs : ℚ) (allUrls : List URLEvent) {sessions : List Session}
    (hbrowser : ∃ s ∈ sessions, isBrowser platform s.appName = true) {r : Session}
    : r ∈ redistributeUrlsToBrowserSessions platform gapMs allUrls sessions
      ↔ ∃ i s, sessions[i]? = some s ∧ r = given platform gapMs allUrls sessions i s := by
  unfold redistributeUrlsToBrowserSessions
  rw [if_pos (List.any_eq_true.mpr hbrowser), List.mem_mapIdx]
  constructor
  . rintro ⟨i, hi, rfl⟩
    exact ⟨i, sessions[i], List.getElem?_eq_getElem hi, rfl⟩
  . rintro ⟨i, s, hs, rfl⟩
    rcases List.getElem?_eq_some_iff.mp hs with ⟨hi, rfl⟩
    exact ⟨i, hi, rfl⟩

theorem closest_redistribute {gapMs : ℚ} {allUrls : List URLEvent} {sessions : List Session}
    (hbrowser : ∃ s ∈ sessions, isBrowser platform s.appName = true) {url : URLEvent} {s : Session}
    : Closest platform (redistributeUrlsToBrowserSessions platform gapMs allUrls sessions) url s
      ↔ Closest platform sessions url s := by
  constructor
  . intro h other hother hother'
    rcases List.getElem?_of_mem hother with ⟨i, hi⟩
    exact h (given platform gapMs allUrls sessions i other)
      ((mem_redistribute gapMs allUrls hbrowser).mpr ⟨i, other, hi, rfl⟩) hother'
  . intro h r hr hr'
    rcases (mem_redistribute gapMs allUrls hbrowser).mp hr with ⟨i, s', hs', rfl⟩
    exact h s' (List.mem_of_getElem? hs') hr'

theorem urls_redistribute_perm {gapMs : ℚ} {allUrls : List URLEvent} {sessions : List Session}
    (hbrowser : ∃ s ∈ sessions, isBrowser platform s.appName = true)
    : ((redistributeUrlsToBrowserSessions platform gapMs allUrls sessions).flatMap Session.urls).Perm
      allUrls := by
  have hmap : (redistributeUrlsToBrowserSessions platform gapMs allUrls sessions).map Session.urls
      = (List.range sessions.length).map
        (fun i => allUrls.filter (fun url => target platform gapMs sessions url = some i)) := by
    unfold redistributeUrlsToBrowserSessions
    rw [if_pos (List.any_eq_true.mpr hbrowser)]
    apply List.ext_getElem
    . rw [List.length_map, List.length_mapIdx, List.length_map, List.length_range]
    . intro i _ _
      rw [List.getElem_map, List.getElem_mapIdx, List.getElem_map, List.getElem_range]
  rw [List.flatMap_def, hmap, ← List.flatMap_def]
  apply Unique.flatMap_places_perm
  intro url _
  rcases target_spec gapMs url hbrowser with ⟨i, s, htarget, hs, _⟩
  exact ⟨i, (List.getElem?_eq_some_iff.mp hs).1, htarget⟩

-- Every URL is shown by a browser session that no other one is closer than, when the first session that
-- contains it is such a one.
theorem closest_iff (gapMs : ℚ) (allUrls : List URLEvent) {sessions : List Session}
    (hbrowser : ∃ s ∈ sessions, isBrowser platform s.appName = true)
    : (∀ r ∈ redistributeUrlsToBrowserSessions platform gapMs allUrls sessions, ∀ url ∈ r.urls,
        isBrowser platform r.appName = true ∧ Closest platform sessions url r)
      ↔ ∀ url ∈ allUrls, ∀ s, containing platform gapMs sessions url = some s
        → Closest platform sessions url s := by
  constructor
  . intro h url hurl s hcontaining
    rcases target_spec gapMs url hbrowser with ⟨i, s', htarget, hs', _, hspec⟩
    rw [hcontaining] at hspec
    rcases hspec with hsame | ⟨hnone, _⟩
    . cases hsame
      have hshown := (mem_redistribute gapMs allUrls hbrowser).mpr ⟨i, s, hs', rfl⟩
      exact (h _ hshown url (List.mem_filter.mpr ⟨hurl, decide_eq_true htarget⟩)).2
    . cases hnone
  . intro h r hr url hurl
    rcases (mem_redistribute gapMs allUrls hbrowser).mp hr with ⟨i, s, hs, rfl⟩
    rcases List.mem_filter.mp hurl with ⟨hmem, htarget⟩
    rcases target_spec gapMs url hbrowser with ⟨i', s', htarget', hs', hs'browser, hspec⟩
    rw [htarget', decide_eq_true_eq, Option.some.injEq] at htarget
    subst htarget
    rw [hs] at hs'
    cases hs'
    refine ⟨hs'browser, ?_⟩
    rcases hspec with hcontaining | ⟨_, hclosest⟩
    . exact h url hmem s hcontaining
    . exact hclosest

/-!
The whole attribution.
-/

theorem keystrokes_attributeEvents (o : Options) (timeline : List Session)
    : (attributeEvents platform o timeline).flatMap Session.keystrokes
      = timeline.flatMap
        (fun s => o.keystrokes.filter (showsKeystroke platform (o.gapThresholdSeconds * 1000) s)) := by
  have hmap : ∀ (gapMs : ℚ) (sessions : List Session),
      (redistributeUrlsToBrowserSessions platform gapMs o.urls sessions).map Session.keystrokes
        = sessions.map Session.keystrokes := by
    intro gapMs sessions
    unfold redistributeUrlsToBrowserSessions
    split
    . apply List.ext_getElem
      . rw [List.length_map, List.length_map, List.length_mapIdx]
      . intro i _ _
        rw [List.getElem_map, List.getElem_map, List.getElem_mapIdx]
    . rfl
  unfold attributeEvents
  rw [List.flatMap_def, hmap, List.map_map, ← List.flatMap_def]
  rfl

theorem containing_map (gapMs : ℚ) (keystrokes : List KeystrokeEvent) (timeline : List Session)
    (url : URLEvent)
    : containing platform gapMs (timeline.map (attributeKeystrokes platform gapMs keystrokes)) url
      = (containing platform gapMs timeline url).map (attributeKeystrokes platform gapMs keystrokes) := by
  unfold containing
  rw [List.find?_map]
  rfl

theorem closest_map (gapMs : ℚ) (keystrokes : List KeystrokeEvent) (timeline : List Session) (url : URLEvent)
    (s : Session)
    : Closest platform (timeline.map (attributeKeystrokes platform gapMs keystrokes)) url s
      ↔ Closest platform timeline url s := by
  unfold Closest
  rw [List.forall_mem_map]
  rfl

theorem aggregateSessions_eq (o : Options) (nowMs : Int)
    : aggregateSessions platform o nowMs = attributeEvents platform o (timelineOf platform o nowMs) := by
  unfold aggregateSessions
  split
  . next hnone =>
    unfold timelineOf
    rw [hnone]
    rfl
  . rfl

-- The condition is about the sessions before the keystrokes are attributed.
theorem forall_containing_iff (platform : Platform) (gapMs : ℚ) (keystrokes : List KeystrokeEvent)
    (timeline : List Session) (allUrls : List URLEvent)
    : let sessions := timeline.map (attributeKeystrokes platform gapMs keystrokes)
      (∀ url ∈ allUrls, ∀ s, containing platform gapMs sessions url = some s
        → Closest platform sessions url s)
      ↔ ∀ url ∈ allUrls, ∀ s, containing platform gapMs timeline url = some s
        → Closest platform timeline url s := by
  intro sessions
  have hclosest : ∀ url s, Closest platform sessions url (attributeKeystrokes platform gapMs keystrokes s)
      ↔ Closest platform timeline url s := fun url s => closest_map gapMs keystrokes timeline url _
  constructor
  . intro h url hurl s hs
    rw [← hclosest]
    apply h url hurl
    rw [containing_map, hs]
    rfl
  . intro h url hurl s' hs'
    rw [containing_map] at hs'
    rcases Option.map_eq_some_iff.mp hs' with ⟨s, hs, rfl⟩
    exact (hclosest url s).mpr (h url hurl s hs)

theorem containing_eq_none {gapMs : ℚ} {sessions : List Session}
    (h : ¬∃ s ∈ sessions, isBrowser platform s.appName = true) (url : URLEvent)
    : containing platform gapMs sessions url = none := by
  unfold containing
  rw [List.find?_eq_none]
  intro s hs hcontains
  rw [Bool.and_eq_true] at hcontains
  exact h ⟨s, hs, hcontains.1⟩

-- No keystroke is shown twice, and every URL is shown by a browser session that is closest to it.
structure AttributedOnce (platform : Platform) (o : Options) (sessions : List Session) : Prop where
  keystrokes : (sessions.flatMap Session.keystrokes).Subperm o.keystrokes
  urls : (∃ s ∈ sessions, isBrowser platform s.appName = true)
    → (sessions.flatMap Session.urls).Perm o.urls
      ∧ ∀ s ∈ sessions, ∀ url ∈ s.urls,
        isBrowser platform s.appName = true ∧ Closest platform sessions url s

end

/--
Events are attributed once and to the closest session if and only if no keystroke is in the range of two
sessions of its application, and no browser session is closer to a URL than the first one in whose range it
is.
-/
theorem attributedOnce_iff (platform : Platform) (o : Options)
    : let gapMs := o.gapThresholdSeconds * 1000
      (∀ timeline, AttributedOnce platform o (attributeEvents platform o timeline)
        ↔ (∀ key ∈ o.keystrokes, (timeline.filter (fun s => showsKeystroke platform gapMs s key)).length ≤ 1)
          ∧ ∀ url ∈ o.urls, ∀ s, containing platform gapMs timeline url = some s
            → Closest platform timeline url s)
      ∧ ∀ nowMs, aggregateSessions platform o nowMs
        = attributeEvents platform o (timelineOf platform o nowMs) := by
  intro gapMs
  refine ⟨?_, aggregateSessions_eq o⟩
  intro timeline
  have hkeystrokes : ((attributeEvents platform o timeline).flatMap Session.keystrokes).Subperm o.keystrokes
      ↔ ∀ key ∈ o.keystrokes,
        (timeline.filter (fun s => showsKeystroke platform gapMs s key)).length ≤ 1 := by
    rw [keystrokes_attributeEvents]
    exact Unique.flatMap_filter_subperm_iff _ _ _
  have hcondition := forall_containing_iff platform gapMs o.keystrokes timeline o.urls
  by_cases hbrowser : ∃ s ∈ timeline.map (attributeKeystrokes platform gapMs o.keystrokes),
      isBrowser platform s.appName = true
  . have hclosest := closest_iff gapMs o.urls hbrowser
    constructor
    . intro h
      refine ⟨hkeystrokes.mp h.keystrokes, hcondition.mp (hclosest.mp ?_)⟩
      have hshown : ∃ s ∈ attributeEvents platform o timeline, isBrowser platform s.appName = true := by
        rcases hbrowser with ⟨s, hs, hsbrowser⟩
        rcases List.getElem?_of_mem hs with ⟨i, hi⟩
        exact ⟨_, (mem_redistribute gapMs o.urls ⟨s, hs, hsbrowser⟩).mpr ⟨i, s, hi, rfl⟩, hsbrowser⟩
      intro r hr url hurl
      rcases (h.urls hshown).2 r hr url hurl with ⟨hrbrowser, hrclosest⟩
      exact ⟨hrbrowser, (closest_redistribute hbrowser).mp hrclosest⟩
    . rintro ⟨hkeys, hurls⟩
      refine ⟨hkeystrokes.mpr hkeys, fun _ => ⟨urls_redistribute_perm hbrowser, ?_⟩⟩
      intro r hr url hurl
      rcases hclosest.mpr (hcondition.mpr hurls) r hr url hurl with ⟨hrbrowser, hrclosest⟩
      exact ⟨hrbrowser, (closest_redistribute hbrowser).mpr hrclosest⟩
  . have hnone : ∀ url ∈ o.urls, ∀ s, containing platform gapMs timeline url = some s
        → Closest platform timeline url s := by
      refine hcondition.mp fun url _ s hs => ?_
      rw [containing_eq_none hbrowser] at hs
      cases hs
    have hsame : attributeEvents platform o timeline
        = timeline.map (attributeKeystrokes platform gapMs o.keystrokes) := by
      unfold attributeEvents redistributeUrlsToBrowserSessions
      exact if_neg (fun h => hbrowser (List.any_eq_true.mp h))
    constructor
    . exact fun h => ⟨hkeystrokes.mp h.keystrokes, hnone⟩
    . rintro ⟨hkeys, _⟩
      refine ⟨hkeystrokes.mpr hkeys, fun hshown => ?_⟩
      rw [hsame] at hshown
      exact absurd hshown hbrowser

namespace Example

def switching : Platform where
  time s :=
    if s = "2026-01-01T00:00:10Z" then 1767225610000
    else if s = "2026-01-01T00:00:20Z" then 1767225620000
    else 1767225600000
  toLowerCase := id
  deriveAppDisplayName w := w.exeName

def focus (exeName timestamp : String) : WindowEvent where
  id := 1
  windowTitle := "title"
  exeName := exeName
  appDisplay := none
  timestamp := timestamp
  user := none

-- From a browser to an editor and back, where a URL is visited and a key is typed.
def back : Options where
  windows := [
    focus "chrome.exe" "2026-01-01T00:00:00Z", focus "notepad.exe" "2026-01-01T00:00:10Z",
    focus "chrome.exe" "2026-01-01T00:00:20Z"
  ]
  urls := [⟨1, "https://example.com/", "chrome.exe", "2026-01-01T00:00:20Z", none⟩]
  keystrokes := [⟨1, "title", "chrome.exe", "a", "2026-01-01T00:00:20Z", none⟩]

end Example

-- Both sessions of the browser show the keystroke, and the URL goes to the one that ended ten seconds before.
theorem attributed_twice
    : let sessions := aggregateSessions Example.switching Example.back 1767225625000
      sessions.map (fun s => (s.appName, s.keystrokes.length, s.urls.length))
        = [("chrome.exe", 1, 1), ("notepad.exe", 0, 0), ("chrome.exe", 1, 0)]
      ∧ sessions.map (distance 1767225620000) = [10000, 0, 0] := by
  decide +kernel

end Activity

end Vantyr
