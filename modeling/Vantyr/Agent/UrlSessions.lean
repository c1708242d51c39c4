import Mathlib.Algebra.Ring.Nat
import Vantyr.Agent.Fence
import Vantyr.Data.Runs
import Vantyr.Data.Text

/-!
This module contains the time that the agent reports for the site in the active tab, `UrlTracker` in
`agent/src/connection/agent_loop/url_session.rs` and its callers in `session.rs`. The main results are that
the time reported for a site is never more than the time it was shown, and that nothing but the fractions of
milliseconds is missing as long as the grant stays.
-/

namespace Vantyr

namespace UrlSessions

open Permissions

structure ActiveUrl where
  url : String
  title : String
  browserName : String
  deriving DecidableEq, Repr

-- Instants are in nanoseconds of the monotonic clock, stamps in seconds of the other one.
structure UrlSession where
  url : String
  title : Option String
  browser : Option String
  user : Option String
  startedAtInstant : Nat
  startedAtTs : Int
  generation : Option Generation
  deriving DecidableEq, Repr

inductive Event where
  | urlSession (url : String) (title browser user : Option String) (startedAtTs endedAtTs : Int)
    (durationMs : Nat) (generation : Option Generation)
  | url (url title browser : String) (ts : Int) (user : Option String) (generation : Option Generation)
  deriving DecidableEq, Repr

def nanosPerMilli : Nat := 10 ^ 6

def maxDurationMs : Nat := 2 ^ 64 - 1

@[irreducible]
def elapsedMs (started now : Nat) : Nat :=
  min ((now - started) / nanosPerMilli) maxDurationMs

def urlSessionEventValue (sess : UrlSession) (now : Nat) (endedAtTs : Int) : Event :=
  .urlSession sess.url sess.title sess.browser sess.user sess.startedAtTs endedAtTs
    (elapsedMs sess.startedAtInstant now) sess.generation

structure UrlTracker where
  session : Option UrlSession := none
  blockedByAfk : Bool := false
  lastLiveKey : Option String := none
  deriving DecidableEq, Repr

-- What a poll gets to see. The grants are looked up again for each check.
structure Poll where
  store : Option State
  sessionGrants : State
  moduleGrants : State
  liveGrants : State
  activeUrl : Option ActiveUrl
  activeUser : Option String
  ts : Int

namespace Poll

variable (p : Poll)

def generation : Option Generation :=
  p.store.bind (fun s => Generation.fromState s .browserUrls)

def allowed : Bool :=
  p.moduleGrants.enabled .browserUrls

def openSession (now : Nat) (info : ActiveUrl) : UrlSession where
  url := info.url
  title := if Text.trim info.title = "" then none else some info.title
  browser := some info.browserName
  user := p.activeUser
  startedAtInstant := now
  startedAtTs := p.ts
  generation := p.generation

end Poll

namespace UrlTracker

def reset (t : UrlTracker) : UrlTracker :=
  { t with session := none, lastLiveKey := none }

def endSession (t : UrlTracker) (now : Nat) (ts : Int) : UrlTracker × List Event :=
  ({ t with session := none }, (t.session.map (fun sess => urlSessionEventValue sess now ts)).toList)

-- A session whose grant is gone is dropped.
def checkGrant (t : UrlTracker) (p : Poll) : UrlTracker :=
  if t.session.any (fun sess => !sess.generation.any (fun g => g.matches p.sessionGrants)) then
    t.reset
  else
    t

def active (t : UrlTracker) (p : Poll) : Option ActiveUrl :=
  if t.blockedByAfk || !p.allowed then none else p.activeUrl

def transition (t : UrlTracker) (now : Nat) (p : Poll) : UrlTracker × List Event :=
  match t.session, t.active p with
  | none, some info => ({ t with session := some (p.openSession now info) }, [])
  | some sess, some info =>
    if sess.url ≠ info.url then
      ({ t with session := some (p.openSession now info) }, [urlSessionEventValue sess now p.ts])
    else
      (t, [])
  | some sess, none => ({ t with session := none }, [urlSessionEventValue sess now p.ts])
  | none, none => (t, [])

def sampleLive (t : UrlTracker) (p : Poll) (active : Option ActiveUrl) : UrlTracker × List Event :=
  match active.filter (fun _ => p.generation.any (fun g => g.matches p.liveGrants)) with
  | some info =>
    let key := info.url ++ "\n" ++ info.title ++ "\n" ++ info.browserName
    if t.lastLiveKey ≠ some key then
      ({ t with lastLiveKey := some key },
        [.url info.url info.title info.browserName p.ts p.activeUser p.generation])
    else
      (t, [])
  | none => ({ t with lastLiveKey := none }, [])

def poll (t : UrlTracker) (now : Nat) (p : Poll) : UrlTracker × List Event :=
  let t := t.checkGrant p
  let active := t.active p
  let (t, ended) := t.transition now p
  let (t, live) := t.sampleLive p active
  (t, ended ++ live)

end UrlTracker

-- What the session of the agent does with the tracker. A flush tells whether the grant for idle times is new.
inductive Op where
  | poll (p : Poll)
  | enterAfk (ts : Int)
  | leaveAfk
  | flushTick (idleChanged : Bool) (grants : State)
  | shutdown (ts : Int)

def UrlTracker.apply (t : UrlTracker) (now : Nat) : Op → UrlTracker × List Event
  | .poll p => t.poll now p
  | .enterAfk ts => { t with blockedByAfk := true }.endSession now ts
  | .leaveAfk => ({ t with blockedByAfk := false }, [])
  | .flushTick idleChanged grants =>
    let t := if idleChanged then { t with blockedByAfk := false } else t
    (if grants.enabled .browserUrls then t else t.reset, [])
  | .shutdown ts => t.endSession now ts

-- The events of a run. Each operation comes some time after the one before.
def events (t : UrlTracker) (now : Nat) : List (Nat × Op) → List Event
  | [] => []
  | (elapsed, op) :: ops =>
    (t.apply (now + elapsed) op).2 ++ events (t.apply (now + elapsed) op).1 (now + elapsed) ops

def final (t : UrlTracker) (now : Nat) : List (Nat × Op) → UrlTracker
  | [] => t
  | (elapsed, op) :: ops => final (t.apply (now + elapsed) op).1 (now + elapsed) ops

def Event.durationOn (url : String) : Event → Nat
  | .urlSession url' _ _ _ _ _ durationMs _ => if url' = url then durationMs else 0
  | .url .. => 0

def reportedMs (url : String) (log : List Event) : Nat :=
  (log.map (Event.durationOn url)).sum

/-!
The site that is shown: the one that the last poll saw, while the person is active and the grant is there.
-/

structure Watch where
  away : Bool := false
  shown : Option String := none
  deriving DecidableEq, Repr

def Watch.step (w : Watch) : Op → Watch
  | .poll p => { w with shown := if w.away || !p.allowed then none else p.activeUrl.map ActiveUrl.url }
  | .enterAfk _ => { away := true, shown := none }
  | .leaveAfk => { w with away := false }
  | .flushTick idleChanged grants => {
      away := w.away && !idleChanged
      shown := if grants.enabled .browserUrls then w.shown else none
    }
  | .shutdown _ => { w with shown := none }

-- In nanoseconds.
def timeShown (url : String) (w : Watch) : List (Nat × Op) → Nat
  | [] => 0
  | (elapsed, op) :: ops => (if w.shown = some url then elapsed else 0) + timeShown url (w.step op) ops

/-!
What an operation does to the session.
-/

-- The time that the open session has not reported yet.
def pendingOn (url : String) (now : Nat) (session : Option UrlSession) : Nat :=
  session.elim 0 (fun sess => if sess.url = url then now - sess.startedAtInstant else 0)

/--
The tracker is blocked while the person is away, and an open session is one of the site that is shown.
-/
structure Follows (now : Nat) (t : UrlTracker) (w : Watch) : Prop where
  away : t.blockedByAfk = w.away
  shown : ∀ sess, t.session = some sess → w.shown = some sess.url ∧ sess.startedAtInstant ≤ now

variable {t : UrlTracker} {w : Watch} {now : Nat} {url : String}

theorem elapsedMs_le (started now : Nat) : nanosPerMilli * elapsedMs started now ≤ now - started := by
  unfold elapsedMs
  calc
    nanosPerMilli * min ((now - started) / nanosPerMilli) maxDurationMs
        ≤ nanosPerMilli * ((now - started) / nanosPerMilli) := Nat.mul_le_mul_left _ (Nat.min_le_left _ _)
    _ ≤ now - started := Nat.mul_div_le _ _

theorem reportedMs_append (url : String) (log log' : List Event)
    : reportedMs url (log ++ log') = reportedMs url log + reportedMs url log' := by
  simp [reportedMs]

theorem reportedMs_session (url : String) (sess : UrlSession) (now : Nat) (ts : Int)
    : reportedMs url [urlSessionEventValue sess now ts]
        = if sess.url = url then elapsedMs sess.startedAtInstant now else 0 := by
  simp [reportedMs, urlSessionEventValue, Event.durationOn]

theorem reported_le_pending (url : String) (sess : UrlSession) (now : Nat) (ts : Int)
    : nanosPerMilli * reportedMs url [urlSessionEventValue sess now ts] ≤ pendingOn url now (some sess) := by
  rw [reportedMs_session]
  change _ ≤ if sess.url = url then now - sess.startedAtInstant else 0
  split
  . exact elapsedMs_le _ _
  . exact Nat.le_refl _

theorem sampleLive_session (url : String) (t : UrlTracker) (p : Poll) (active : Option ActiveUrl)
    : (t.sampleLive p active).1.session = t.session
      ∧ (t.sampleLive p active).1.blockedByAfk = t.blockedByAfk
      ∧ reportedMs url (t.sampleLive p active).2 = 0 := by
  unfold UrlTracker.sampleLive
  split
  . dsimp only
    split
    . exact ⟨rfl, rfl, rfl⟩
    . exact ⟨rfl, rfl, rfl⟩
  . exact ⟨rfl, rfl, rfl⟩

theorem active_shown (h : t.blockedByAfk = w.away) (p : Poll)
    : { w with shown := (t.active p).map ActiveUrl.url } = w.step (.poll p) := by
  unfold UrlTracker.active
  rw [h, apply_ite (Option.map ActiveUrl.url)]
  rfl

theorem checkGrant_cases (t : UrlTracker) (p : Poll) : t.checkGrant p = t ∨ t.checkGrant p = t.reset := by
  unfold UrlTracker.checkGrant
  split
  . exact Or.inr rfl
  . exact Or.inl rfl

/--
What an operation reports was pending, and the session that is open then is one of the site that is shown.
-/
structure Accounts (url : String) (now : Nat) (t : UrlTracker) (result : UrlTracker × List Event) (w' : Watch)
    : Prop where
  reported : nanosPerMilli * reportedMs url result.2 + pendingOn url now result.1.session
    ≤ pendingOn url now t.session
  follows : Follows now result.1 w'

theorem Accounts.endSession (url : String) (now : Nat) (ts : Int) {w' : Watch}
    (haway : t.blockedByAfk = w'.away)
    : Accounts url now t (t.endSession now ts) w' where
  reported := by
    unfold UrlTracker.endSession
    cases t.session with
    | none => exact Nat.le_refl _
    | some sess => exact reported_le_pending url sess now ts
  follows := by
    constructor
    . exact haway
    . intro sess hsess
      cases hsess

theorem Accounts.transition (h : Follows now t w) (url : String) (p : Poll)
    : Accounts url now t (t.transition now p) { w with shown := (t.active p).map ActiveUrl.url } := by
  unfold UrlTracker.transition
  cases hsession : t.session with
  | none =>
    cases hactive : t.active p with
    | none =>
      refine ⟨?_, h.away, ?_⟩
      . rw [hsession]
        exact Nat.le_refl _
      . intro sess hsess
        rw [hsession] at hsess
        cases hsess
    | some info =>
      refine ⟨?_, h.away, ?_⟩
      . simp [pendingOn, reportedMs, Poll.openSession]
      . intro sess hsess
        cases hsess
        exact ⟨rfl, Nat.le_refl _⟩
  | some sess =>
    cases hactive : t.active p with
    | none =>
      refine ⟨?_, h.away, ?_⟩
      . rw [hsession]
        exact reported_le_pending url sess now p.ts
      . intro other hother
        cases hother
    | some info =>
      dsimp only
      split
      . refine ⟨?_, h.away, ?_⟩
        . rw [hsession]
          have hnew : pendingOn url now (some (p.openSession now info)) = 0 := by
            simp [pendingOn, Poll.openSession]
          dsimp only
          rw [hnew]
          exact reported_le_pending url sess now p.ts
        . intro other hother
          cases hother
          exact ⟨rfl, Nat.le_refl _⟩
      . next hsame =>
        refine ⟨?_, h.away, ?_⟩
        . exact Nat.le_of_eq (Nat.zero_add _)
        . intro other hother
          rw [hsession, Option.some.injEq] at hother
          subst hother
          refine ⟨?_, (h.shown sess hsession).2⟩
          rw [Option.map_some, not_not.mp hsame]

theorem Follows.checkGrant (h : Follows now t w) (url : String) (p : Poll)
    : Follows now (t.checkGrant p) w ∧ (t.checkGrant p).blockedByAfk = t.blockedByAfk
      ∧ pendingOn url now (t.checkGrant p).session ≤ pendingOn url now t.session := by
  rcases checkGrant_cases t p with hsame | hreset
  . rw [hsame]
    exact ⟨h, rfl, Nat.le_refl _⟩
  . rw [hreset]
    refine ⟨⟨h.away, ?_⟩, rfl, Nat.zero_le _⟩
    intro sess hsess
    cases hsess

theorem Accounts.poll (h : Follows now t w) (url : String) (p : Poll)
    : Accounts url now t (t.poll now p) (w.step (.poll p)) := by
  rcases h.checkGrant url p with ⟨hchecked, hblocked, hpending⟩
  have hshown := active_shown hchecked.away p
  have htransition := Accounts.transition hchecked url p
  rw [hshown] at htransition
  rcases sampleLive_session url ((t.checkGrant p).transition now p).1 p ((t.checkGrant p).active p) with
    ⟨hsession, haway, hlive⟩
  have hreported := htransition.reported
  unfold UrlTracker.poll
  refine ⟨?_, haway.trans htransition.follows.away, ?_⟩
  . dsimp only
    rw [reportedMs_append, hlive, hsession, Nat.add_zero]
    exact Nat.le_trans hreported hpending
  . intro sess hsess
    exact htransition.follows.shown sess (hsession ▸ hsess)

theorem Accounts.apply (h : Follows now t w) (url : String) (op : Op)
    : Accounts url now t (t.apply now op) (w.step op) := by
  cases op with
  | poll p => exact Accounts.poll h url p
  | enterAfk ts =>
    have hend : Accounts url now { t with blockedByAfk := true } _ (w.step (.enterAfk ts)) :=
      Accounts.endSession url now ts rfl
    exact ⟨hend.reported, hend.follows⟩
  | leaveAfk => exact ⟨Nat.le_of_eq (Nat.zero_add _), rfl, h.shown⟩
  | flushTick idleChanged grants =>
    have haway : (if idleChanged then { t with blockedByAfk := false } else t).blockedByAfk
        = (w.away && !idleChanged) := by
      cases idleChanged with
      | true => simp
      | false => simpa using h.away
    have hsession : (if idleChanged then { t with blockedByAfk := false } else t).session = t.session := by
      split <;> rfl
    unfold UrlTracker.apply Watch.step
    dsimp only
    split
    . refine ⟨?_, haway, ?_⟩
      . rw [hsession]
        exact Nat.le_of_eq (Nat.zero_add _)
      . intro sess hsess
        exact h.shown sess (hsession ▸ hsess)
    . exact ⟨Nat.zero_le _, haway, fun sess hsess => by cases hsess⟩
  | shutdown ts => exact Accounts.endSession url now ts h.away

theorem Follows.later (h : Follows now t w) (elapsed : Nat) : Follows (now + elapsed) t w where
  away := h.away
  shown := by
    intro sess hsess
    rcases h.shown sess hsess with ⟨hshown, hstarted⟩
    exact ⟨hshown, Nat.le_trans hstarted (Nat.le_add_right _ _)⟩

theorem Follows.pending_later (h : Follows now t w) (url : String) (elapsed : Nat)
    : pendingOn url (now + elapsed) t.session
        ≤ pendingOn url now t.session + if w.shown = some url then elapsed else 0 := by
  cases hsession : t.session with
  | none => exact Nat.zero_le _
  | some sess =>
    rcases h.shown sess hsession with ⟨hshown, hstarted⟩
    rw [hshown]
    simp only [pendingOn, Option.elim_some, Option.some.injEq]
    split <;> omega

/-!
The time that is reported.
-/

theorem reported_le (h : Follows now t w) (url : String) (ops : List (Nat × Op))
    : nanosPerMilli * reportedMs url (events t now ops)
        ≤ timeShown url w ops + pendingOn url now t.session := by
  induction ops generalizing t w now with
  | nil => exact Nat.zero_le _
  | cons op ops ih =>
    rcases op with ⟨elapsed, op⟩
    have hlater := h.pending_later url elapsed
    have hstep := Accounts.apply (h.later elapsed) url op
    have hrest := ih hstep.follows
    have hreported := hstep.reported
    unfold events timeShown
    rw [reportedMs_append, Nat.mul_add]
    omega

/--
The time reported for a site is never more than the time it was shown while the person was active, however the
grants change and whatever is polled.
-/
theorem reported_le_timeShown (url : String) (ops : List (Nat × Op))
    : nanosPerMilli * reportedMs url (events {} 0 ops) ≤ timeShown url {} ops := by
  have hstart : Follows 0 {} {} := ⟨rfl, fun sess hsess => by cases hsess⟩
  exact reported_le hstart url ops

/-!
The time that is missing.
-/

def Event.isSessionOn (url : String) : Event → Bool
  | .urlSession url' _ _ _ _ _ _ _ => url' = url
  | .url .. => false

def sessionsOn (url : String) (log : List Event) : Nat :=
  log.countP (Event.isSessionOn url)

-- The duration is not the largest one that fits.
def Event.Exact : Event → Prop
  | .urlSession _ _ _ _ _ _ durationMs _ => durationMs < maxDurationMs
  | .url .. => True

instance : (event : Event) → Decidable event.Exact
  | .urlSession _ _ _ _ _ _ durationMs _ => inferInstanceAs (Decidable (durationMs < maxDurationMs))
  | .url .. => inferInstanceAs (Decidable True)

def advance (s : UrlTracker × Nat) (e : Nat × Op) : UrlTracker × Nat :=
  ((s.1.apply (s.2 + e.1) e.2).1, s.2 + e.1)

-- The grant stays: no poll drops the session, and no flush resets the tracker.
def Kept (s : UrlTracker × Nat) (e : Nat × Op) : Prop :=
  match e.2 with
  | .poll p => s.1.checkGrant p = s.1
  | .flushTick _ grants => grants.enabled .browserUrls = true
  | _ => True

structure Tight (now : Nat) (t : UrlTracker) (w : Watch) : Prop where
  away : t.blockedByAfk = w.away
  shown : w.shown = t.session.map UrlSession.url
  started : ∀ sess, t.session = some sess → sess.startedAtInstant ≤ now

-- What was pending was reported, but for less than a millisecond for each session, or is still pending.
structure Settles (url : String) (now : Nat) (t : UrlTracker) (result : UrlTracker × List Event) (w' : Watch)
    : Prop where
  pending : (∀ event ∈ result.2, event.Exact) → pendingOn url now t.session
    ≤ nanosPerMilli * (reportedMs url result.2 + sessionsOn url result.2) + pendingOn url now result.1.session
  tight : Tight now result.1 w'

theorem sessionsOn_append (url : String) (log log' : List Event)
    : sessionsOn url (log ++ log') = sessionsOn url log + sessionsOn url log' :=
  List.countP_append

theorem lt_elapsedMs {started now : Nat} (h : elapsedMs started now < maxDurationMs)
    : now - started ≤ nanosPerMilli * (elapsedMs started now + 1) := by
  have hsame : elapsedMs started now = (now - started) / nanosPerMilli := by
    unfold elapsedMs at h ⊢
    exact Nat.min_eq_left (Nat.le_of_lt (by omega))
  rw [hsame]
  exact Nat.le_of_lt (Nat.lt_mul_div_succ _ (by decide))

theorem pending_le_reported (url : String) (sess : UrlSession) (now : Nat) (ts : Int)
    (h : (urlSessionEventValue sess now ts).Exact)
    : pendingOn url now (some sess) ≤ nanosPerMilli
        * (reportedMs url [urlSessionEventValue sess now ts]
          + sessionsOn url [urlSessionEventValue sess now ts]) := by
  rw [reportedMs_session]
  have hcount : sessionsOn url [urlSessionEventValue sess now ts] = if sess.url = url then 1 else 0 := by
    simp [sessionsOn, urlSessionEventValue, Event.isSessionOn, List.countP_cons]
  rw [hcount]
  change (if sess.url = url then now - sess.startedAtInstant else 0) ≤ _
  split
  . exact lt_elapsedMs h
  . exact Nat.zero_le _

theorem Settles.endSession (url : String) (now : Nat) (ts : Int) {w' : Watch}
    (haway : t.blockedByAfk = w'.away) (hshown : w'.shown = none)
    : Settles url now t (t.endSession now ts) w' where
  pending := by
    unfold UrlTracker.endSession
    intro hexact
    cases hsession : t.session with
    | none => exact Nat.zero_le _
    | some sess =>
      rw [hsession] at hexact
      exact pending_le_reported url sess now ts (hexact _ (List.mem_singleton.mpr rfl))
  tight := ⟨haway, hshown, fun sess hsess => by cases hsess⟩

theorem Settles.transition (h : Tight now t w) (url : String) (p : Poll)
    : Settles url now t (t.transition now p) { w with shown := (t.active p).map ActiveUrl.url } := by
  unfold UrlTracker.transition
  cases hsession : t.session with
  | none =>
    cases hactive : t.active p with
    | none =>
      refine ⟨fun _ => ?_, h.away, ?_, ?_⟩
      . rw [hsession]
        exact Nat.zero_le _
      . rw [hsession]
        rfl
      . intro sess hsess
        rw [hsession] at hsess
        cases hsess
    | some info =>
      refine ⟨fun _ => ?_, h.away, rfl, ?_⟩
      . rw [hsession]
        exact Nat.zero_le _
      . intro sess hsess
        cases hsess
        exact Nat.le_refl _
  | some sess =>
    cases hactive : t.active p with
    | none =>
      refine ⟨fun hexact => ?_, h.away, rfl, ?_⟩
      . rw [hsession]
        exact pending_le_reported url sess now p.ts (hexact _ (List.mem_singleton.mpr rfl))
      . intro other hother
        cases hother
    | some info =>
      dsimp only
      split
      . refine ⟨fun hexact => ?_, h.away, rfl, ?_⟩
        . rw [hsession]
          exact Nat.le_trans (pending_le_reported url sess now p.ts (hexact _ (List.mem_singleton.mpr rfl)))
            (Nat.le_add_right _ _)
        . intro other hother
          cases hother
          exact Nat.le_refl _
      . next hsame =>
        refine ⟨fun _ => Nat.le_add_left _ _, h.away, ?_, h.started⟩
        rw [hsession, Option.map_some, Option.map_some, not_not.mp hsame]

theorem sampleLive_sessionsOn (url : String) (t : UrlTracker) (p : Poll) (active : Option ActiveUrl)
    : sessionsOn url (t.sampleLive p active).2 = 0 := by
  unfold UrlTracker.sampleLive
  split
  . dsimp only
    split
    . rfl
    . rfl
  . rfl

theorem Settles.poll (h : Tight now t w) (url : String) {p : Poll} (hkept : t.checkGrant p = t)
    : Settles url now t (t.poll now p) (w.step (.poll p)) := by
  have hshown := active_shown h.away p
  have htransition := Settles.transition h url p
  rw [hshown] at htransition
  rcases sampleLive_session url (t.transition now p).1 p (t.active p) with ⟨hsession, haway, hlive⟩
  have hcount := sampleLive_sessionsOn url (t.transition now p).1 p (t.active p)
  unfold UrlTracker.poll
  rw [hkept]
  refine ⟨fun hexact => ?_, haway.trans htransition.tight.away, ?_, ?_⟩
  . have hpending := htransition.pending (fun event hevent => hexact event (List.mem_append_left _ hevent))
    dsimp only
    rw [reportedMs_append, sessionsOn_append, hlive, hcount, hsession, Nat.add_zero, Nat.add_zero]
    exact hpending
  . rw [hsession]
    exact htransition.tight.shown
  . rw [hsession]
    exact htransition.tight.started

theorem Settles.apply (h : Tight now t w) (url : String) {elapsed : Nat} {op : Op}
    (hkept : Kept (t, now) (elapsed, op))
    : Settles url now t (t.apply now op) (w.step op) := by
  cases op with
  | poll p => exact Settles.poll h url hkept
  | enterAfk ts =>
    have hend : Settles url now { t with blockedByAfk := true } _ (w.step (.enterAfk ts)) :=
      Settles.endSession url now ts rfl rfl
    exact ⟨hend.pending, hend.tight⟩
  | leaveAfk => exact ⟨fun _ => Nat.le_add_left _ _, rfl, h.shown, h.started⟩
  | flushTick idleChanged grants =>
    have haway : (if idleChanged then { t with blockedByAfk := false } else t).blockedByAfk
        = (w.away && !idleChanged) := by
      cases idleChanged with
      | true => simp
      | false => simpa using h.away
    have hsession : (if idleChanged then { t with blockedByAfk := false } else t).session = t.session := by
      split <;> rfl
    unfold UrlTracker.apply Watch.step
    dsimp only
    have henabled : grants.enabled .browserUrls = true := hkept
    rw [if_pos henabled, if_pos henabled]
    refine ⟨fun _ => ?_, haway, ?_, ?_⟩
    . rw [hsession]
      exact Nat.le_add_left _ _
    . rw [hsession]
      exact h.shown
    . rw [hsession]
      exact h.started
  | shutdown ts => exact Settles.endSession url now ts h.away rfl

theorem Tight.pending_later (h : Tight now t w) (url : String) (elapsed : Nat)
    : pendingOn url (now + elapsed) t.session
        = pendingOn url now t.session + if w.shown = some url then elapsed else 0 := by
  rw [h.shown]
  cases hsession : t.session with
  | none => rfl
  | some sess =>
    have hstarted := h.started sess hsession
    simp only [pendingOn, Option.elim_some, Option.map_some, Option.some.injEq]
    split <;> omega

theorem Tight.later (h : Tight now t w) (elapsed : Nat) : Tight (now + elapsed) t w :=
  ⟨h.away, h.shown, fun sess hsess => Nat.le_trans (h.started sess hsess) (Nat.le_add_right _ _)⟩

theorem timeShown_le (h : Tight now t w) (url : String) {ops : List (Nat × Op)}
    (hkept : Runs.Admits advance Kept (t, now) ops) (hexact : ∀ event ∈ events t now ops, event.Exact)
    : timeShown url w ops + pendingOn url now t.session
        ≤ nanosPerMilli * (reportedMs url (events t now ops) + sessionsOn url (events t now ops))
          + pendingOn url (Runs.exec advance (t, now) ops).2 (Runs.exec advance (t, now) ops).1.session := by
  induction ops generalizing t w now with
  | nil => exact Nat.le_of_eq (by simp [timeShown, events, reportedMs, sessionsOn, Runs.exec])
  | cons op ops ih =>
    rcases op with ⟨elapsed, op⟩
    have hlater := h.pending_later url elapsed
    have hkeptLater : Kept (t, now + elapsed) (elapsed, op) := hkept.1
    have hstep := Settles.apply (h.later elapsed) url hkeptLater
    unfold events at hexact
    have hrest := ih hstep.tight hkept.2 (fun event hevent => hexact event (List.mem_append_right _ hevent))
    have hpending := hstep.pending (fun event hevent => hexact event (List.mem_append_left _ hevent))
    unfold events timeShown
    rw [reportedMs_append, sessionsOn_append]
    change _ ≤ _ + pendingOn url (Runs.exec advance (advance (t, now) (elapsed, op)) ops).2
      (Runs.exec advance (advance (t, now) (elapsed, op)) ops).1.session
    unfold advance at hrest ⊢
    rw [Nat.mul_add] at hpending hrest ⊢
    rw [Nat.mul_add, Nat.mul_add]
    dsimp only at hrest ⊢
    omega

/--
As long as the grant stays, the time a site was shown is reported but for less than a millisecond for each of
its sessions and for the session that is still open.
-/
theorem timeShown_le_reported (url : String) {ops : List (Nat × Op)}
    (hkept : Runs.Admits advance Kept ({}, 0) ops) (hexact : ∀ event ∈ events {} 0 ops, event.Exact)
    : timeShown url {} ops
        ≤ nanosPerMilli * (reportedMs url (events {} 0 ops) + sessionsOn url (events {} 0 ops))
          + pendingOn url (Runs.exec advance ({}, 0) ops).2 (Runs.exec advance ({}, 0) ops).1.session := by
  have hstart : Tight 0 {} {} := ⟨rfl, rfl, fun sess hsess => by cases hsess⟩
  exact timeShown_le hstart url hkept hexact

def granted : State :=
  State.default.setGrant .browserUrls true

def pollOf (url : Option String) : Poll where
  store := some granted
  sessionGrants := granted
  moduleGrants := granted
  liveGrants := granted
  activeUrl := url.map (fun url => { url, title := "", browserName := "firefox" })
  activeUser := none
  ts := 0

-- Two seconds on one site, then the tab is closed.
def visit : List (Nat × Op) :=
  [(0, .poll (pollOf (some "a"))), (2 * 10 ^ 9, .poll (pollOf none))]

theorem timeShown_le_reported_visit
    : timeShown "a" {} visit ≤ nanosPerMilli * (reportedMs "a" (events {} 0 visit) + 1) := by
  have hkept : Runs.Admits advance Kept ({}, 0) visit := by
    refine ⟨?_, ?_, trivial⟩
    . change UrlTracker.checkGrant _ _ = _
      decide +kernel
    . change UrlTracker.checkGrant _ _ = _
      decide +kernel
  have hexact : ∀ event ∈ events {} 0 visit, event.Exact := by decide +kernel
  have hall := timeShown_le_reported "a" hkept hexact
  have hcount : sessionsOn "a" (events {} 0 visit) = 1 := by decide +kernel
  have hpending : pendingOn "a" (Runs.exec advance ({}, 0) visit).2
      (Runs.exec advance ({}, 0) visit).1.session = 0 := by decide +kernel
  rwa [hcount, hpending, Nat.add_zero] at hall

end UrlSessions

end Vantyr
