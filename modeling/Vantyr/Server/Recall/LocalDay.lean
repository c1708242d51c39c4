import Mathlib.Data.Int.LeastGreatest
import Mathlib.Data.List.Dedup
import Mathlib.Data.List.Sort
import Vantyr.Data.Text

/-!
This module contains the local days of Recall: the instants between which a date lies
(`server/src/recall/local_day.rs`, `parse_day_in_tz` in `server/src/recall/api/handlers/day.rs` and
`summarize_agent_day` in `server/src/recall/narrative/mod.rs`), and the dates by which frames are counted
(`screen_frame_days` in `server/src/recall/db/timeline.rs`). Instants and local times are counted in
nanoseconds, dates in days. The conversion of local times to instants is that of a library, a parameter.
-/

namespace Vantyr

namespace LocalDay

def minutes (n : Int) : Int :=
  n * (60 * 10 ^ 9)

def day : Int :=
  minutes (24 * 60)

/--
The offset of local time at every instant. It is less than a day, no change of it is longer than two hours,
and the clock is changed at a quarter of an hour, to a quarter of an hour.
-/
structure TimeZone where
  offset : Int → Int
  bounded : ∀ t, -day < offset t ∧ offset t < day
  short : ∀ t, offset t - offset (t - 1) ≤ minutes 120 ∧ offset (t - 1) - offset t ≤ minutes 120
  aligned : ∀ t, offset t ≠ offset (t - 1)
    → minutes 15 ∣ t + offset (t - 1) ∧ minutes 15 ∣ t + offset t

-- `chrono::LocalResult`
inductive LocalResult where
  | none
  | single (t : Int)
  | ambiguous (earliest latest : Int)
  deriving DecidableEq, Repr

def LocalResult.earliest : LocalResult → Option Int
  | .none => Option.none
  | .single t => some t
  | .ambiguous earliest _ => some earliest

namespace TimeZone

variable (tz : TimeZone)

-- What a clock shows.
def toLocal (t : Int) : Int :=
  t + tz.offset t

def localDate (t : Int) : Int :=
  tz.toLocal t / day

-- `TimeZone::from_local_datetime`
structure Resolves (fromLocal : Int → LocalResult) : Prop where
  missing : ∀ {x}, fromLocal x = .none → ∀ t, tz.toLocal t ≠ x
  single : ∀ {x t}, fromLocal x = .single t → tz.toLocal t = x ∧ ∀ t', tz.toLocal t' = x → t' = t
  ambiguous : ∀ {x t u}, fromLocal x = .ambiguous t u
    → tz.toLocal t = x ∧ tz.toLocal u = x ∧ t < u ∧ ∀ t', tz.toLocal t' = x → t ≤ t' ∧ t' ≤ u

end TimeZone

section

variable (fromLocal : Int → LocalResult)

def localMidnight (d : Int) : Option Int :=
  let naive := d * day
  match fromLocal naive with
  | .single t => some t
  | .ambiguous earlier _ => some earlier
  -- Local midnight does not exist.
  | .none => (List.range' 1 8).findSome? (fun i : Nat => (fromLocal (naive + minutes (15 * i))).earliest)

-- The date that is asked for, or the current one, and its first instant and that of the next date.
def parseDayInTz (parseDate : String → Option Int) (today : Int) (asked : Option String)
    : Except String (Int × Int × Int) := do
  let d ←
    match asked with
    | none => pure today
    | some s =>
      match parseDate (Text.trim s) with
      | none => throw "invalid 'day' (expected YYYY-MM-DD)"
      | some d => pure d
  match localMidnight fromLocal d with
  | none => throw "invalid day"
  | some start =>
    match localMidnight fromLocal (d + 1) with
    | none => throw "invalid day"
    | some stop => pure (d, start, stop)

-- The range that the worker summarizes.
def summarizedRange (localDay : Int) : Option (Int × Int) :=
  (localMidnight fromLocal localDay).map fun start =>
    (start, (localMidnight fromLocal (localDay + 1)).getD (start + day))

end

structure CoverageDay where
  day : Int
  frameCount : Nat
  firstTs : Option Int
  lastTs : Option Int
  deriving DecidableEq, Repr

-- The frames are given by the instants at which they were captured.
def screenFrameDays (tz : TimeZone) (frames : List Int) (start stop : Int) : List CoverageDay :=
  let shown := frames.filter (fun t => start ≤ t ∧ t ≤ stop)
  ((shown.map tz.localDate).dedup.insertionSort (· ≤ ·)).map fun d =>
    let group := shown.filter (fun t => tz.localDate t = d)
    { day := d, frameCount := group.length, firstTs := group.min?, lastTs := group.max? }

/-!
The conversion of local times.
-/

section

variable {tz : TimeZone} {fromLocal : Int → LocalResult}

namespace TimeZone

theorem Resolves.earliest_eq_none (h : tz.Resolves fromLocal) {x : Int}
    : (fromLocal x).earliest = none ↔ ∀ t, tz.toLocal t ≠ x := by
  cases heq : fromLocal x with
  | none => exact iff_of_true rfl (h.missing heq)
  | single t => exact iff_of_false (fun h => by cases h) (fun hnone => hnone t (h.single heq).1)
  | ambiguous t u => exact iff_of_false (fun h => by cases h) (fun hnone => hnone t (h.ambiguous heq).1)

theorem Resolves.earliest_spec (h : tz.Resolves fromLocal) {x t : Int} (ht : (fromLocal x).earliest = some t)
    : tz.toLocal t = x ∧ ∀ t', tz.toLocal t' = x → t ≤ t' := by
  cases heq : fromLocal x with
  | none =>
    rw [heq] at ht
    cases ht
  | single first =>
    rw [heq] at ht
    cases ht
    have hsingle := h.single heq
    exact ⟨hsingle.1, fun t' ht' => (hsingle.2 t' ht').ge⟩
  | ambiguous first last =>
    rw [heq] at ht
    cases ht
    have hambiguous := h.ambiguous heq
    exact ⟨hambiguous.1, fun t' ht' => (hambiguous.2.2.2 t' ht').1⟩

theorem Resolves.earliest_of (h : tz.Resolves fromLocal) {x t : Int} (ht : tz.toLocal t = x)
    (hfirst : ∀ t', tz.toLocal t' = x → t ≤ t') : (fromLocal x).earliest = some t := by
  cases hearliest : (fromLocal x).earliest with
  | none => exact absurd ht (h.earliest_eq_none.mp hearliest t)
  | some first =>
    have hspec := h.earliest_spec hearliest
    rw [Int.le_antisymm (hspec.2 t ht) (hfirst first hspec.1)]

-- Without a change the clock goes on.
theorem toLocal_step (tz : TimeZone) (t : Int)
    : tz.toLocal t = tz.toLocal (t - 1) + 1 ∨ minutes 15 ∣ tz.toLocal t := by
  by_cases hsame : tz.offset t = tz.offset (t - 1)
  . left
    unfold toLocal
    omega
  . exact .inr (tz.aligned t hsame).2

theorem toLocal_near (tz : TimeZone) (t : Int)
    : tz.toLocal t ≤ tz.toLocal (t - 1) + 1 + minutes 120
      ∧ tz.toLocal (t - 1) + 1 - minutes 120 ≤ tz.toLocal t := by
  have := tz.short t
  unfold toLocal
  omega

theorem localDate_eq_iff {t d : Int}
    : tz.localDate t = d ↔ d * day ≤ tz.toLocal t ∧ tz.toLocal t < (d + 1) * day := by
  unfold localDate day minutes
  omega

-- The first instant at which the clock has reached a local time.
theorem exists_first (tz : TimeZone) (x : Int) : ∃ c, x ≤ tz.toLocal c ∧ ∀ t < c, tz.toLocal t < x := by
  have hbelow : ∀ t, x ≤ tz.toLocal t → x - day ≤ t := by
    intro t ht
    have := tz.bounded t
    unfold toLocal at ht
    omega
  have hreached : x ≤ tz.toLocal (x + day) := by
    have := tz.bounded (x + day)
    unfold toLocal
    omega
  rcases Int.exists_least_of_bdd ⟨x - day, hbelow⟩ ⟨x + day, hreached⟩ with ⟨c, hc, hleast⟩
  refine ⟨c, hc, ?_⟩
  intro t ht
  by_contra hnot
  exact absurd (hleast t (not_lt.mp hnot)) (not_le.mpr ht)

-- It shows this time or, after a gap, one of the quarters of an hour that follow.
theorem first_lands (tz : TimeZone) {d c : Int} (hc : d * day ≤ tz.toLocal c)
    (hfirst : ∀ t < c, tz.toLocal t < d * day)
    : ∃ k : Nat, k ≤ 8 ∧ tz.toLocal c = d * day + minutes (15 * k) := by
  have hbefore := hfirst (c - 1) (by omega)
  rcases tz.toLocal_step c with hstep | ⟨quarters, hquarters⟩
  . refine ⟨0, Nat.zero_le _, ?_⟩
    unfold minutes
    omega
  . have hnear := (tz.toLocal_near c).1
    unfold minutes at hnear hquarters ⊢
    unfold day minutes at hc hbefore ⊢
    refine ⟨(quarters - d * 96).toNat, ?_, ?_⟩
    . omega
    . omega

-- The date is shown at the first instant at which it is reached.
theorem exists_first_inside (tz : TimeZone) (d : Int)
    : ∃ c, (∀ t < c, tz.toLocal t < d * day) ∧ d * day ≤ tz.toLocal c ∧ tz.toLocal c < (d + 1) * day := by
  rcases tz.exists_first (d * day) with ⟨c, hc, hfirst⟩
  rcases tz.first_lands hc hfirst with ⟨k, hk, hlands⟩
  refine ⟨c, hfirst, hc, ?_⟩
  rw [hlands]
  unfold day minutes
  omega

-- The first instant at which a clock is set back to before a local time.
theorem exists_fall (tz : TimeZone) {x m t : Int} (hm : x ≤ tz.toLocal m) (hle : m ≤ t)
    (ht : tz.toLocal t < x)
    : ∃ u, m < u ∧ x ≤ tz.toLocal (u - 1) ∧ tz.toLocal u < x := by
  have hbelow : ∀ u, m ≤ u ∧ tz.toLocal u < x → m ≤ u := fun u hu => hu.1
  rcases Int.exists_least_of_bdd ⟨m, hbelow⟩ ⟨t, hle, ht⟩ with ⟨u, ⟨hmu, hu⟩, hleast⟩
  have hlt : m < u := by
    apply lt_of_le_of_ne hmu
    rintro rfl
    exact absurd hm (not_le.mpr hu)
  refine ⟨u, hlt, ?_, hu⟩
  by_contra hnot
  have := hleast (u - 1) ⟨by omega, not_le.mp hnot⟩
  omega

-- A clock that is set back shows a quarter of an hour.
theorem exists_quarter_of_set_back (tz : TimeZone) {m t : Int} (hle : m ≤ t)
    (hback : tz.toLocal t < tz.toLocal m)
    : ∃ u, m ≤ u ∧ tz.toLocal u < tz.toLocal m ∧ minutes 15 ∣ tz.toLocal u := by
  rcases tz.exists_fall (Int.le_refl _) hle hback with ⟨u, hmu, hbefore, hu⟩
  refine ⟨u, hmu.le, hu, ?_⟩
  rcases tz.toLocal_step u with hstep | hquarter
  . omega
  . exact hquarter

end TimeZone

-- The step forward begins with local midnight itself.
theorem localMidnight_eq (fromLocal : Int → LocalResult) (d : Int)
    : localMidnight fromLocal d
      = (List.range' 0 9).findSome? (fun i : Nat => (fromLocal (d * day + minutes (15 * i))).earliest) := by
  have hzero : d * day + minutes (15 * (0 : Nat)) = d * day := by
    unfold minutes
    omega
  rw [List.range'_succ, List.findSome?_cons, hzero]
  unfold localMidnight
  dsimp only
  cases fromLocal (d * day) with
  | none => rfl
  | single t => rfl
  | ambiguous t u => rfl

theorem findSome?_range' {f : Nat → Option Int} {t : Int} {start len k : Nat} (hstart : start ≤ k)
    (hk : k < start + len) (hnone : ∀ i, start ≤ i → i < k → f i = none) (hsome : f k = some t)
    : (List.range' start len).findSome? f = some t := by
  induction len generalizing start with
  | zero => omega
  | succ len ih =>
    rw [List.range'_succ, List.findSome?_cons]
    rcases Nat.lt_or_eq_of_le hstart with hlt | rfl
    . rw [hnone start (Nat.le_refl _) hlt]
      exact ih hlt (by omega) (fun i hi => hnone i (by omega))
    . rw [hsome]

theorem exists_of_findSome?_range' {f : Nat → Option Int} {t : Int} {start len : Nat}
    (h : (List.range' start len).findSome? f = some t)
    : ∃ k, k < start + len ∧ f k = some t ∧ ∀ i, start ≤ i → i < k → f i = none := by
  induction len generalizing start with
  | zero => cases h
  | succ len ih =>
    rw [List.range'_succ, List.findSome?_cons] at h
    cases hstart : f start with
    | some first =>
      rw [hstart] at h
      cases h
      exact ⟨start, by omega, hstart, fun i hi hlt => absurd hi (by omega)⟩
    | none =>
      rw [hstart] at h
      rcases ih h with ⟨k, hk, hsome, hnone⟩
      refine ⟨k, by omega, hsome, ?_⟩
      intro i hi hlt
      rcases Nat.lt_or_eq_of_le hi with hlater | rfl
      . exact hnone i hlater hlt
      . exact hstart

/-!
Where a date begins.
-/

-- The clock reaches the date once, and is never set back before the time that it showed then.
def CrossedOnce (tz : TimeZone) (d : Int) : Prop :=
  ∃ c, (∀ t < c, tz.toLocal t < d * day) ∧ d * day ≤ tz.toLocal c
    ∧ ∀ t, c ≤ t → tz.toLocal c ≤ tz.toLocal t

-- An instant that separates the earlier dates from the others.
def Begins (tz : TimeZone) (d m : Int) : Prop :=
  ∀ t, m ≤ t ↔ d * day ≤ tz.toLocal t

theorem localMidnight_isSome (h : tz.Resolves fromLocal) (d : Int)
    : ∃ m, localMidnight fromLocal d = some m := by
  rcases tz.exists_first (d * day) with ⟨c, hc, hfirst⟩
  rcases tz.first_lands hc hfirst with ⟨k, hk, hlands⟩
  rw [localMidnight_eq]
  cases hfound : (List.range' 0 9).findSome?
      (fun i : Nat => (fromLocal (d * day + minutes (15 * i))).earliest) with
  | some m => exact ⟨m, rfl⟩
  | none =>
    have hnone := List.findSome?_eq_none_iff.mp hfound k (List.mem_range'_1.mpr ⟨Nat.zero_le _, by omega⟩)
    exact absurd hlands (h.earliest_eq_none.mp hnone c)

theorem CrossedOnce.begins (h : tz.Resolves fromLocal) {d : Int} (hcrossed : CrossedOnce tz d)
    : ∃ m, localMidnight fromLocal d = some m ∧ Begins tz d m := by
  rcases hcrossed with ⟨c, hbefore, hc, hafter⟩
  rcases tz.first_lands hc hbefore with ⟨k, hk, hlands⟩
  refine ⟨c, ?_, ?_⟩
  . rw [localMidnight_eq]
    refine findSome?_range' (Nat.zero_le k) (by omega) ?_ ?_
    . intro i _ hi
      rw [h.earliest_eq_none]
      intro t ht
      rcases Int.lt_or_le t c with hlt | hle
      . have := hbefore t hlt
        unfold minutes at ht
        omega
      . have := hafter t hle
        unfold minutes at ht hlands
        omega
    . refine h.earliest_of hlands ?_
      intro t ht
      by_contra hnot
      have hlt := hbefore t (not_le.mp hnot)
      rw [ht, ← hlands] at hlt
      exact absurd hc (not_le.mpr hlt)
  . intro t
    constructor
    . exact fun hle => hc.trans (hafter t hle)
    . intro hle
      by_contra hnot
      exact absurd hle (not_le.mpr (hbefore t (not_le.mp hnot)))

theorem Begins.crossedOnce (h : tz.Resolves fromLocal) {d m : Int} (hm : localMidnight fromLocal d = some m)
    (hbegins : Begins tz d m) : CrossedOnce tz d := by
  rw [localMidnight_eq] at hm
  rcases exists_of_findSome?_range' hm with ⟨k, _, hk, hnone⟩
  have hshown := (h.earliest_spec hk).1
  refine ⟨m, ?_, (hbegins m).mp (Int.le_refl _), ?_⟩
  . intro t ht
    by_contra hnot
    exact absurd ((hbegins t).mpr (not_lt.mp hnot)) (not_le.mpr ht)
  . -- The clock shows none of the quarters of an hour that were tried before.
    intro t hle
    by_contra hback
    rcases tz.exists_quarter_of_set_back hle (not_le.mp hback) with ⟨u, hmu, hu, quarters, hquarter⟩
    have hafter := (hbegins u).mp hmu
    rw [hshown] at hu
    unfold minutes at hu hquarter
    unfold day minutes at hafter hu
    have htried := hnone (quarters - d * 96).toNat (Nat.zero_le _) (by omega)
    refine h.earliest_eq_none.mp htried u ?_
    unfold day minutes
    omega

/-!
The days.
-/

-- The range of a date: both the reader and the worker use it, it is not empty, the next date follows it, and
-- it is made of the instants of the date.
structure IsLocalDay (tz : TimeZone) (fromLocal : Int → LocalResult) (d start stop : Int) : Prop where
  parsed : ∀ parseDate today asked, (asked.elim (some today) (fun s => parseDate (Text.trim s))) = some d
    → parseDayInTz fromLocal parseDate today asked = .ok (d, start, stop)
  summarized : summarizedRange fromLocal d = some (start, stop)
  nonempty : start < stop
  next : ∃ later, summarizedRange fromLocal (d + 1) = some (stop, later)
  contains : ∀ t, start ≤ t ∧ t < stop ↔ tz.localDate t = d

-- The calendar counts the frames that lie in the range.
theorem IsLocalDay.frameCount {d start stop : Int} (h : IsLocalDay tz fromLocal d start stop)
    (frames : List Int) (first last : Int) {row : CoverageDay}
    (hrow : row ∈ screenFrameDays tz frames first last) (hd : row.day = d)
    : row.frameCount
      = ((frames.filter (fun t => first ≤ t ∧ t ≤ last)).filter (fun t => start ≤ t ∧ t < stop)).length := by
  rcases List.mem_map.mp hrow with ⟨day, _, rfl⟩
  change day = d at hd
  subst hd
  refine congrArg List.length (List.filter_congr ?_)
  intro t _
  rw [decide_eq_decide]
  exact (h.contains t).symm

theorem parseDayInTz_eq {d start stop : Int} (hstart : localMidnight fromLocal d = some start)
    (hstop : localMidnight fromLocal (d + 1) = some stop) (parseDate : String → Option Int) (today : Int)
    (asked : Option String) (hd : (asked.elim (some today) (fun s => parseDate (Text.trim s))) = some d)
    : parseDayInTz fromLocal parseDate today asked = .ok (d, start, stop) := by
  unfold parseDayInTz
  cases asked with
  | none =>
    cases hd
    dsimp only
    rw [pure_bind, hstart]
    dsimp only
    rw [hstop]
    rfl
  | some s =>
    change parseDate (Text.trim s) = some d at hd
    dsimp only
    rw [hd]
    dsimp only
    rw [pure_bind, hstart]
    dsimp only
    rw [hstop]
    rfl

theorem localMidnight_shown (h : tz.Resolves fromLocal) {d m : Int} (hm : localMidnight fromLocal d = some m)
    : d * day ≤ tz.toLocal m := by
  rw [localMidnight_eq] at hm
  rcases exists_of_findSome?_range' hm with ⟨k, _, hk, _⟩
  rw [(h.earliest_spec hk).1]
  unfold minutes
  omega

section

variable {d start stop : Int}

theorem begins_of_contains (hshown : (d + 1) * day ≤ tz.toLocal stop)
    (hcontains : ∀ t, start ≤ t ∧ t < stop ↔ d * day ≤ tz.toLocal t ∧ tz.toLocal t < (d + 1) * day)
    : Begins tz d start := by
  have hday : (d + 1) * day = d * day + day := by
    unfold day minutes
    omega
  intro t
  constructor
  . intro hle
    by_contra hbefore
    rw [not_le] at hbefore
    -- After the range the clock is set back through the whole date.
    have hpast : stop ≤ t := by
      by_contra hinside
      have := ((hcontains t).mp ⟨hle, not_le.mp hinside⟩).1
      omega
    have hback : tz.toLocal t < (d + 1) * day := by
      unfold day minutes at hday hbefore ⊢
      omega
    rcases tz.exists_fall hshown hpast hback with ⟨u, hu, hprevious, hubefore⟩
    have hnear := (tz.toLocal_near u).2
    have hdate : d * day ≤ tz.toLocal u := by
      unfold day minutes at *
      omega
    have := ((hcontains u).mpr ⟨hdate, hubefore⟩).2
    omega
  . intro hreached
    by_contra hbefore
    rw [not_le] at hbefore
    rcases tz.exists_first_inside d with ⟨c, hfirst, hc, hdate⟩
    have hle : c ≤ t := by
      by_contra hnot
      exact absurd hreached (not_le.mpr (hfirst t (not_le.mp hnot)))
    have := ((hcontains c).mpr ⟨hc, hdate⟩).1
    omega

theorem Begins.next (hbegins : Begins tz d start) (hlt : start < stop)
    (hcontains : ∀ t, start ≤ t ∧ t < stop ↔ d * day ≤ tz.toLocal t ∧ tz.toLocal t < (d + 1) * day)
    : Begins tz (d + 1) stop := by
  intro t
  constructor
  . intro hle
    by_contra hbefore
    have hdate := (hbegins t).mp (hlt.le.trans hle)
    have := ((hcontains t).mpr ⟨hdate, not_le.mp hbefore⟩).2
    omega
  . intro hreached
    by_contra hbefore
    rw [not_le] at hbefore
    have hstarted : start ≤ t := by
      rw [hbegins t]
      unfold day minutes at *
      omega
    have := ((hcontains t).mp ⟨hstarted, hbefore⟩).2
    omega

theorem Begins.lt (hbegins : Begins tz d start) (hends : Begins tz (d + 1) stop) : start < stop := by
  by_contra hnot
  rcases tz.exists_first_inside d with ⟨c, _, hc, hdate⟩
  have hreached := (hends c).mp ((not_lt.mp hnot).trans ((hbegins c).mpr hc))
  exact absurd hdate (not_lt.mpr hreached)

end

-- The range is made of the instants of the date when it separates them from the others at both ends.
theorem contains_iff (h : tz.Resolves fromLocal) {d start stop : Int}
    (hstop : localMidnight fromLocal (d + 1) = some stop)
    : (start < stop ∧ ∀ t, start ≤ t ∧ t < stop ↔ tz.localDate t = d)
      ↔ Begins tz d start ∧ Begins tz (d + 1) stop := by
  simp only [TimeZone.localDate_eq_iff]
  constructor
  . rintro ⟨hlt, hcontains⟩
    have hbegins := begins_of_contains (localMidnight_shown h hstop) hcontains
    exact ⟨hbegins, hbegins.next hlt hcontains⟩
  . rintro ⟨hbegins, hends⟩
    refine ⟨hbegins.lt hends, ?_⟩
    intro t
    rw [hbegins t, ← not_le, hends t, not_le]

end

/--
The range of a date is made of the instants of this date if and only if the clock reaches the date and the
next one once each, and is never set back before the time that it showed then.
-/
theorem range_is_local_day_iff (tz : TimeZone) (fromLocal : Int → LocalResult) (h : tz.Resolves fromLocal)
    (d : Int)
    : (∃ start stop, IsLocalDay tz fromLocal d start stop)
      ↔ CrossedOnce tz d ∧ CrossedOnce tz (d + 1) := by
  rcases localMidnight_isSome h d with ⟨start, hstart⟩
  rcases localMidnight_isSome h (d + 1) with ⟨stop, hstop⟩
  rcases localMidnight_isSome h (d + 1 + 1) with ⟨later, hlater⟩
  have hsummarized : summarizedRange fromLocal d = some (start, stop) := by
    unfold summarizedRange
    rw [hstart, hstop]
    rfl
  have hnext : summarizedRange fromLocal (d + 1) = some (stop, later) := by
    unfold summarizedRange
    rw [hstop, hlater]
    rfl
  constructor
  . rintro ⟨start', stop', hday⟩
    have hsame := hday.summarized
    rw [hsummarized, Option.some_inj, Prod.mk.injEq] at hsame
    rcases hsame with ⟨rfl, rfl⟩
    rcases (contains_iff h hstop).mp ⟨hday.nonempty, hday.contains⟩ with ⟨hbegins, hends⟩
    exact ⟨hbegins.crossedOnce h hstart, hends.crossedOnce h hstop⟩
  . rintro ⟨hcrossed, hcrossed'⟩
    rcases hcrossed.begins h with ⟨m, hm, hbegins⟩
    rcases hcrossed'.begins h with ⟨m', hm', hends⟩
    rw [hstart, Option.some_inj] at hm
    rw [hstop, Option.some_inj] at hm'
    subst hm hm'
    rcases (contains_iff h hstop).mpr ⟨hbegins, hends⟩ with ⟨hlt, hcontains⟩
    exact ⟨start, stop, parseDayInTz_eq hstart hstop, hsummarized, hlt, ⟨later, hnext⟩, hcontains⟩

namespace Example

-- At half past midnight of the date 0 the clock is set back by an hour.
def setBack : TimeZone where
  offset t := if t < -minutes 30 then minutes 60 else 0
  bounded t := by
    unfold day minutes
    split <;> omega
  short t := by
    unfold minutes
    split <;> split <;> omega
  aligned t h := by
    unfold minutes at *
    split at h <;> split at h <;> split <;> omega

def fromLocal (x : Int) : LocalResult :=
  if x < -minutes 30 then .single (x - minutes 60)
  else if x < minutes 30 then .ambiguous (x - minutes 60) x
  else .single x

theorem resolves : setBack.Resolves fromLocal := by
  constructor
  . intro x h
    unfold fromLocal at h
    split at h
    . cases h
    . split at h <;> cases h
  . intro x t h
    unfold fromLocal at h
    unfold TimeZone.toLocal setBack
    dsimp only
    split at h
    . cases h
      unfold minutes at *
      refine ⟨?_, fun t' => ?_⟩
      . split <;> omega
      . split <;> omega
    . split at h
      . cases h
      . cases h
        unfold minutes at *
        refine ⟨?_, fun t' => ?_⟩
        . split <;> omega
        . split <;> omega
  . intro x t u h
    unfold fromLocal at h
    unfold TimeZone.toLocal setBack
    dsimp only
    split at h
    . cases h
    . split at h
      . cases h
        unfold minutes at *
        refine ⟨?_, ?_, ?_, fun t' => ?_⟩
        . split <;> omega
        . split <;> omega
        . omega
        . split <;> omega
      . cases h

end Example

theorem range_is_local_day_example
    : ∃ start stop, IsLocalDay Example.setBack Example.fromLocal 3 start stop := by
  refine (range_is_local_day_iff Example.setBack Example.fromLocal Example.resolves 3).mpr ⟨?_, ?_⟩
  . refine ⟨3 * day, fun t => ?_, ?_, fun t => ?_⟩ <;>
      unfold TimeZone.toLocal Example.setBack day minutes <;> dsimp only <;> split <;> omega
  . refine ⟨4 * day, fun t => ?_, ?_, fun t => ?_⟩ <;>
      unfold TimeZone.toLocal Example.setBack day minutes <;> dsimp only <;> split <;> omega

-- The range of the date 0 holds the instant at which the clock is set back to the date before.
theorem midnight_left_again
    : summarizedRange Example.fromLocal 0 = some (-minutes 60, day)
      ∧ -minutes 60 ≤ -minutes 30 ∧ -minutes 30 < day
      ∧ Example.setBack.localDate (-minutes 30) = -1 := by
  decide +kernel

end LocalDay

end Vantyr
