import Vantyr.Data.Runs
import Vantyr.Data.Unique
import Vantyr.Data.Uuid

/-!
This module contains the sessions that the typed text of the agents is kept in (`upsert_keys` in
`server/src/agents/telemetry/db/events.rs`). The text of an event is appended to the open session of its
window by one statement, and if there is none, another statement creates a session. The events of an agent
are handled one after the other, those of different agents are not.
-/

namespace Vantyr

namespace KeySessions

structure KeysEvent where
  app : String
  appDisplay : String
  window : String
  text : String
  ts : Nat
  user : Option String
  deriving DecidableEq, Repr

-- A row of `key_sessions`. Times are counted in microseconds.
structure KeySession where
  agentId : Uuid
  app : String
  appDisplay : String
  windowTitle : String
  text : String
  startedAt : Nat
  updatedAt : Nat
  userName : Option String
  deriving DecidableEq, Repr

abbrev Key := Uuid × String × String

def KeysEvent.key (agent : Uuid) (ev : KeysEvent) : Key :=
  (agent, ev.app, ev.window)

namespace KeySession

def key (row : KeySession) : Key :=
  (row.agentId, row.app, row.windowTitle)

-- `updated_at > NOW() - INTERVAL '30 seconds'`
def isOpen (row : KeySession) (now : Nat) : Bool :=
  now < row.updatedAt + 30 * 10 ^ 6

end KeySession

variable (lower : String → String)

def extend (ev : KeysEvent) (now : Nat) (row : KeySession) : KeySession :=
  {
    row with
    text := row.text ++ ev.text
    appDisplay :=
      if ev.appDisplay ≠ "" ∧ lower ev.appDisplay ≠ lower row.app then ev.appDisplay
      else row.appDisplay
    userName := ev.user.or row.userName
    updatedAt := now
  }

def create (agent : Uuid) (ev : KeysEvent) (now : Nat) : KeySession where
  agentId := agent
  app := ev.app
  appDisplay := ev.appDisplay
  windowTitle := ev.window
  text := ev.text
  startedAt := ev.ts
  updatedAt := now
  userName := ev.user

def matched (key : Key) (now : Nat) (row : KeySession) : Bool :=
  row.key = key && row.isOpen now

-- `waiting` are the events whose first statement found no open session. `log` is history: the events
-- that are done.
structure Database where
  now : Nat
  rows : List KeySession
  waiting : Uuid → Option KeysEvent
  log : List (Uuid × KeysEvent)

inductive Statement where
  | update (agent : Uuid) (ev : KeysEvent) (elapsed : Nat)
  | insert (agent : Uuid) (elapsed : Nat)

namespace Database

def init : Database where
  now := 0
  rows := []
  waiting _ := none
  log := []

def update (db : Database) (agent : Uuid) (ev : KeysEvent) (now : Nat) : Database :=
  if db.rows.any (matched (ev.key agent) now) then
    {
      db with
      now
      rows := db.rows.map
        (fun row => if matched (ev.key agent) now row then extend lower ev now row else row)
      log := db.log ++ [(agent, ev)]
    }
  else
    { db with now, waiting := Function.update db.waiting agent (some ev) }

def insert (db : Database) (agent : Uuid) (ev : KeysEvent) (now : Nat) : Database :=
  {
    now
    rows := db.rows ++ [create agent ev now]
    waiting := Function.update db.waiting agent none
    log := db.log ++ [(agent, ev)]
  }

-- An agent whose event is not done has no next event.
def step (db : Database) : Statement → Database
  | .update agent ev elapsed =>
    match db.waiting agent with
    | some _ => db
    | none => db.update lower agent ev (db.now + elapsed)
  | .insert agent elapsed =>
    match db.waiting agent with
    | some ev => db.insert agent ev (db.now + elapsed)
    | none => db

end Database

/-!
Of the sessions of a window only the last one can be open.
-/

def textOf (key : Key) (rows : List KeySession) : List Char :=
  (rows.filter (fun row => row.key = key)).flatMap (fun row => row.text.toList)

def typed (key : Key) (log : List (Uuid × KeysEvent)) : List Char :=
  (log.filter (fun e => e.2.key e.1 = key)).flatMap (fun e => e.2.text.toList)

def LastOpen (now : Nat) (rows : List KeySession) : Prop :=
  rows.Pairwise (fun row later => row.key = later.key → row.isOpen now = false)

structure Database.Kept (db : Database) : Prop where
  lastOpen : LastOpen db.now db.rows
  waiting : ∀ agent ev, db.waiting agent = some ev →
    ∀ row ∈ db.rows, row.key = ev.key agent → row.isOpen db.now = false
  text : ∀ key, textOf key db.rows = typed key db.log

theorem isOpen_mono {row : KeySession} {now later : Nat} (h : now ≤ later)
    (hclosed : row.isOpen now = false) : row.isOpen later = false := by
  simp only [KeySession.isOpen, decide_eq_false_iff_not] at *
  omega

theorem LastOpen.mono {now later : Nat} {rows : List KeySession} (h : LastOpen now rows)
    (hle : now ≤ later) : LastOpen later rows :=
  List.Pairwise.imp (fun hclosed hkey => isOpen_mono hle (hclosed hkey)) h

theorem textOf_append (key : Key) (rows more : List KeySession)
    : textOf key (rows ++ more) = textOf key rows ++ textOf key more := by
  simp [textOf]

theorem typed_append (key : Key) (log more : List (Uuid × KeysEvent))
    : typed key (log ++ more) = typed key log ++ typed key more := by
  simp [typed]

theorem textOf_cons (key : Key) (row : KeySession) (rows : List KeySession)
    : textOf key (row :: rows) = (if row.key = key then row.text.toList else []) ++ textOf key rows := by
  unfold textOf
  rw [List.filter_cons]
  split
  . next h => simp [of_decide_eq_true h]
  . next h => simp [of_decide_eq_false (Bool.eq_false_iff.mpr h)]

theorem typed_singleton (key : Key) (agent : Uuid) (ev : KeysEvent)
    : typed key [(agent, ev)] = if ev.key agent = key then ev.text.toList else [] := by
  unfold typed
  rw [List.filter_cons]
  split
  . next h => simp [of_decide_eq_true h]
  . next h => simp [of_decide_eq_false (Bool.eq_false_iff.mpr h)]

theorem textOf_eq_nil {key : Key} {rows : List KeySession} (h : ∀ row ∈ rows, row.key ≠ key)
    : textOf key rows = [] := by
  unfold textOf
  rw [List.filter_eq_nil_iff.mpr (by simpa using h)]
  rfl

variable {lower}

theorem matched_iff {key : Key} {now : Nat} {row : KeySession}
    : matched key now row = true ↔ row.key = key ∧ row.isOpen now = true := by
  simp [matched]

theorem map_unmatched {key : Key} {now : Nat} {rows : List KeySession} (f : KeySession → KeySession)
    (h : ∀ row ∈ rows, matched key now row = false)
    : rows.map (fun row => if matched key now row then f row else row) = rows := by
  have hid : ∀ row ∈ rows, (if matched key now row then f row else row) = id row := by
    intro row hrow
    rw [h row hrow]
    rfl
  rw [List.map_congr_left hid, List.map_id]

-- The statement finds one session, the last one of its window.
theorem LastOpen.split {key : Key} {now : Nat} {rows : List KeySession} (h : LastOpen now rows)
    (hany : rows.any (matched key now) = true) (f : KeySession → KeySession)
    : ∃ before row after, rows = before ++ row :: after ∧ row.key = key
        ∧ (∀ other ∈ after, other.key ≠ key)
        ∧ rows.map (fun row => if matched key now row then f row else row) = before ++ f row :: after := by
  rcases List.any_eq_true.mp hany with ⟨row, hrow, hmatched⟩
  rcases List.append_of_mem hrow with ⟨before, after, rfl⟩
  rcases matched_iff.mp hmatched with ⟨hkey, hopen⟩
  rcases List.pairwise_append.mp h with ⟨_, hlater, hacross⟩
  have hafter : ∀ other ∈ after, other.key ≠ key := by
    intro other hother heq
    have hclosed := (List.pairwise_cons.mp hlater).1 other hother (hkey.trans heq.symm)
    rw [hopen] at hclosed
    cases hclosed
  refine ⟨before, row, after, rfl, hkey, hafter, ?_⟩
  rw [List.map_append, List.map_cons, if_pos hmatched, map_unmatched, map_unmatched]
  . intro other hother
    rw [Bool.eq_false_iff, ne_eq, matched_iff]
    exact fun h => hafter other hother h.1
  . intro other hother
    rw [Bool.eq_false_iff, ne_eq, matched_iff]
    rintro ⟨heq, hother'⟩
    have hclosed := hacross other hother row List.mem_cons_self (heq.trans hkey.symm)
    rw [hother'] at hclosed
    cases hclosed

-- The text of an event has been appended to one session, or is that of a new one.
def AppendedOnce (key : Key) (text : String) (rows rows' : List KeySession) : Prop :=
  (∃ before row row' after, rows = before ++ row :: after ∧ rows' = before ++ row' :: after
    ∧ row.key = key ∧ row'.key = key ∧ row'.text = row.text ++ text)
  ∨ ∃ row, rows' = rows ++ [row] ∧ row.key = key ∧ row.text = text

namespace Database

variable {db : Database}

theorem init_kept : Kept init where
  lastOpen := List.Pairwise.nil
  waiting _ _ h := by cases h
  text _ := rfl

theorem Kept.lastOpen_later (h : db.Kept) (elapsed : Nat) : LastOpen (db.now + elapsed) db.rows :=
  h.lastOpen.mono (Nat.le_add_right _ _)

theorem Kept.extended (h : db.Kept) {agent : Uuid} (hfree : db.waiting agent = none) (ev : KeysEvent)
    (elapsed : Nat) (hany : db.rows.any (matched (ev.key agent) (db.now + elapsed)) = true)
    : (db.update lower agent ev (db.now + elapsed)).Kept
      ∧ AppendedOnce (ev.key agent) ev.text db.rows
        (db.update lower agent ev (db.now + elapsed)).rows := by
  have hlast := h.lastOpen_later elapsed
  rcases hlast.split hany (extend lower ev (db.now + elapsed))
    with ⟨before, row, after, hrows, hkey, hafter, hmap⟩
  have hextended : (extend lower ev (db.now + elapsed) row).key = ev.key agent := hkey
  have htextOf : textOf (ev.key agent) after = [] := textOf_eq_nil hafter
  unfold update
  rw [if_pos hany]
  constructor
  . refine ⟨?_, ?_, ?_⟩
    . change LastOpen _ (db.rows.map _)
      rw [hmap]
      rw [hrows] at hlast
      rcases List.pairwise_append.mp hlast with ⟨hbefore, hlater, hacross⟩
      apply List.pairwise_append.mpr
      refine ⟨hbefore, ?_, ?_⟩
      . apply List.pairwise_cons.mpr
        refine ⟨?_, (List.pairwise_cons.mp hlater).2⟩
        intro other hother heq
        exact absurd (heq.symm.trans hextended) (hafter other hother)
      . intro other hother later hlater' heq
        rcases List.mem_cons.mp hlater' with rfl | hlater'
        . exact hacross other hother row List.mem_cons_self (heq.trans (hextended.trans hkey.symm))
        . exact hacross other hother later (List.mem_cons_of_mem _ hlater') heq
    . intro other ev' hwaiting later hlater heq
      change later ∈ db.rows.map _ at hlater
      rw [hmap, List.mem_append, List.mem_cons] at hlater
      have hold : later ∈ db.rows → later.isOpen (db.now + elapsed) = false := fun hmem =>
        isOpen_mono (Nat.le_add_right _ _) (h.waiting other ev' hwaiting later hmem heq)
      rcases hlater with hmem | rfl | hmem
      . exact hold (by rw [hrows]; exact List.mem_append_left _ hmem)
      . -- The session of another agent.
        have hsame : agent = other := congrArg Prod.fst (hextended.symm.trans heq)
        rw [← hsame, hfree] at hwaiting
        cases hwaiting
      . exact hold (by rw [hrows]; exact List.mem_append_right _ (List.mem_cons_of_mem _ hmem))
    . intro key
      change textOf key (db.rows.map _) = typed key (db.log ++ [(agent, ev)])
      rw [hmap, typed_append, typed_singleton, ← h.text, hrows, textOf_append, textOf_append, textOf_cons,
        textOf_cons, hextended, hkey]
      by_cases heq : ev.key agent = key
      . subst heq
        rw [if_pos rfl, if_pos rfl, if_pos rfl, htextOf, List.append_nil, List.append_nil,
          List.append_assoc, ← String.toList_append]
        rfl
      . rw [if_neg heq, if_neg heq, if_neg heq, List.append_nil]
  . left
    exact ⟨before, row, _, after, hrows, hmap, hkey, hextended, rfl⟩

theorem Kept.postponed (h : db.Kept) (agent : Uuid) (ev : KeysEvent) (elapsed : Nat)
    (hany : db.rows.any (matched (ev.key agent) (db.now + elapsed)) = false)
    : (db.update lower agent ev (db.now + elapsed)).Kept := by
  unfold update
  rw [if_neg (by rw [hany]; exact Bool.false_ne_true)]
  refine ⟨h.lastOpen_later elapsed, ?_, h.text⟩
  intro other ev' hwaiting row hrow hkey
  change Function.update db.waiting agent (some ev) other = some ev' at hwaiting
  rw [Function.update_apply] at hwaiting
  split at hwaiting
  . next hother =>
    rw [Option.some.injEq] at hwaiting
    subst hother hwaiting
    have hmatched := List.any_eq_false.mp hany row hrow
    rw [matched_iff] at hmatched
    rw [Bool.eq_false_iff]
    exact fun hopen => hmatched ⟨hkey, hopen⟩
  . exact isOpen_mono (Nat.le_add_right _ _) (h.waiting other ev' hwaiting row hrow hkey)

theorem Kept.insert (h : db.Kept) {agent : Uuid} {ev : KeysEvent} (hwaiting : db.waiting agent = some ev)
    (elapsed : Nat)
    : (db.insert agent ev (db.now + elapsed)).Kept
      ∧ AppendedOnce (ev.key agent) ev.text db.rows (db.insert agent ev (db.now + elapsed)).rows := by
  constructor
  . refine ⟨?_, ?_, ?_⟩
    . apply List.pairwise_append.mpr
      refine ⟨h.lastOpen_later elapsed, List.pairwise_singleton _ _, ?_⟩
      intro row hrow later hlater hkey
      rw [List.mem_singleton.mp hlater] at hkey
      exact isOpen_mono (Nat.le_add_right _ _) (h.waiting agent ev hwaiting row hrow hkey)
    . intro other ev' hother row hrow hkey
      change Function.update db.waiting agent none other = some ev' at hother
      rw [Function.update_apply] at hother
      split at hother
      . cases hother
      . next hne =>
        rcases List.mem_append.mp hrow with hrow | hrow
        . exact isOpen_mono (Nat.le_add_right _ _) (h.waiting other ev' hother row hrow hkey)
        . rw [List.mem_singleton.mp hrow] at hkey
          exact absurd (congrArg Prod.fst hkey).symm hne
    . intro key
      change textOf key (db.rows ++ [create agent ev (db.now + elapsed)])
        = typed key (db.log ++ [(agent, ev)])
      rw [textOf_append, typed_append, typed_singleton, h.text, textOf_cons]
      have hnil : textOf key [] = [] := rfl
      rw [hnil, List.append_nil]
      rfl
  . right
    exact ⟨_, rfl, rfl, rfl⟩

-- All that a statement does: nothing to the sessions, or it handles an event.
theorem Kept.step (h : db.Kept) (statement : Statement)
    : (db.step lower statement).Kept
      ∧ ((db.step lower statement).log = db.log ∧ (db.step lower statement).rows = db.rows
        ∨ ∃ agent ev, (db.step lower statement).log = db.log ++ [(agent, ev)]
          ∧ AppendedOnce (ev.key agent) ev.text db.rows (db.step lower statement).rows) := by
  cases statement with
  | update agent ev elapsed =>
    unfold Database.step
    dsimp only
    split
    . exact ⟨h, .inl ⟨rfl, rfl⟩⟩
    . next hfree =>
      cases hany : db.rows.any (matched (ev.key agent) (db.now + elapsed)) with
      | true =>
        have hextended : (db.update lower agent ev (db.now + elapsed)).Kept ∧ _ :=
          h.extended hfree ev elapsed hany
        rcases hextended with ⟨hkept, honce⟩
        refine ⟨hkept, .inr ⟨agent, ev, ?_, honce⟩⟩
        unfold update
        rw [if_pos hany]
      | false =>
        refine ⟨h.postponed agent ev elapsed hany, .inl ?_⟩
        unfold update
        rw [if_neg (by rw [hany]; exact Bool.false_ne_true)]
        exact ⟨rfl, rfl⟩
  | insert agent elapsed =>
    unfold Database.step
    dsimp only
    split
    . next ev hwaiting =>
      rcases h.insert hwaiting elapsed with ⟨hkept, honce⟩
      exact ⟨hkept, .inr ⟨agent, ev, rfl, honce⟩⟩
    . exact ⟨h, .inl ⟨rfl, rfl⟩⟩

theorem exec_kept (statements : List Statement)
    : (Runs.exec (Database.step lower) init statements).Kept :=
  Runs.exec_inv (fun h => (h.step _).1) init_kept statements

end Database

-- The first two events are of one session, the third one comes a minute later.
example
    : let ev text := { app := "a.exe", appDisplay := "A", window := "w", text, ts := 0, user := none }
      (Runs.exec (Database.step id) .init [
        .update 1 (ev "ab") 0, .insert 1 0,
        .update 1 (ev "c") 5,
        .update 1 (ev "d") (60 * 10 ^ 6), .insert 1 0
      ]).rows.map KeySession.text = ["abc", "d"] := by
  decide +kernel

end KeySessions

end Vantyr
