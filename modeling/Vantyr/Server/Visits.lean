import Vantyr.Server.Categorization

/-!
This module contains what the counts of the categories are worth. A visit that was counted is not in the
queue any more, unless the worker is about to take it out. As long as nothing comes between these two
statements, the counts are those of the visits that were assigned a category.
-/

namespace Vantyr

namespace Categorization

-- The visit that was counted and is still in the queue.
def Worker.bumped : Worker → Option Nat
  | .dequeue r (some _) _ => some r.urlVisitId
  | _ => none

def Worker.rows : Worker → List QueuedVisit
  | .idle => []
  | .categorize rows => rows
  | .assign r _ rows | .bump r _ rows | .dequeue r _ rows => r :: rows

-- What the worker has written for the visit it is at.
def Worker.Assigned (db : Database) : Worker → Prop
  | .bump r category _ | .dequeue r (some category) _ => db.visitCategory r.urlVisitId = some (some category)
  | .dequeue r none _ => db.visitCategory r.urlVisitId = some none
  | _ => True

namespace State

/--
Nothing comes between the count of a visit and its removal from the queue: this statement does not fail,
and the server does not stop before it.
-/
def Uninterrupted (s : State) : Event → Prop
  | .work a => a.fails = true → s.worker.bumped = none
  | .interrupt => s.worker.bumped = none
  | _ => True

instance (s : State) (e : Event) : Decidable (s.Uninterrupted e) :=
  match e with
  | .work a => inferInstanceAs (Decidable (a.fails = true → s.worker.bumped = none))
  | .interrupt => inferInstanceAs (Decidable (s.worker.bumped = none))
  | .insertUrl _ _ _ _ | .enqueueBackfill _ _ => inferInstanceAs (Decidable True)

def Admits (s : State) : List Event → Prop
  | [] => True
  | e :: events => s.Uninterrupted e ∧ (s.step e).Admits events

instance decidableAdmits (s : State) : (events : List Event) → Decidable (s.Admits events)
  | [] => inferInstanceAs (Decidable True)
  | e :: events =>
    have := decidableAdmits (s.step e) events
    inferInstanceAs (Decidable (_ ∧ _))

end State

-- The visits that are counted for an agent and a category.
def Counts (db : Database) (worker : Worker) (agent : Uuid) (category : Nat) (r : QueuedVisit) : Prop :=
  r.agentId = agent ∧ db.visitCategory r.urlVisitId = some (some category)
    ∧ (db.queued r.urlVisitId = false ∨ worker.bumped = some r.urlVisitId)

instance (db : Database) (worker : Worker) (agent : Uuid) (category : Nat) (r : QueuedVisit)
    : Decidable (Counts db worker agent category r) :=
  inferInstanceAs (Decidable (_ ∧ _))

structure Tables (db : Database) : Prop where
  visits : db.visits.Pairwise (fun r r' => r.urlVisitId ≠ r'.urlVisitId)
  fresh : ∀ {r}, r ∈ db.visits → r.urlVisitId < db.nextId
  unassigned : ∀ {id}, db.nextId ≤ id → db.visitCategory id = none
  queue : ∀ {r}, r ∈ db.queue → r ∈ db.visits
  queueNodup : db.queue.Pairwise (fun r r' => r.urlVisitId ≠ r'.urlVisitId)

structure Exact (s : State) : Prop where
  tables : Tables s.db
  rows : ∀ {r}, r ∈ s.worker.rows → r ∈ s.db.queue
  rowsNodup : s.worker.rows.Pairwise (fun r r' => r.urlVisitId ≠ r'.urlVisitId)
  assigned : s.worker.Assigned s.db
  counted : ∀ agent category, s.db.visitCount agent category
    = s.db.visits.countP (fun r => Counts s.db s.worker agent category r)

/-!
A table with one row for each visit.
-/

theorem eq_of_id {rows : List QueuedVisit} (h : rows.Pairwise (fun r r' => r.urlVisitId ≠ r'.urlVisitId))
    {r r' : QueuedVisit} (hr : r ∈ rows) (hr' : r' ∈ rows) (hid : r.urlVisitId = r'.urlVisitId) : r = r' := by
  have hnodup : (rows.map QueuedVisit.urlVisitId).Nodup := List.pairwise_map.mpr h
  exact List.inj_on_of_nodup_map hnodup hr hr' hid

theorem countP_succ {rows : List QueuedVisit}
    (h : rows.Pairwise (fun r r' => r.urlVisitId ≠ r'.urlVisitId)) {r : QueuedVisit} (hr : r ∈ rows)
    {p q : QueuedVisit → Bool} (hp : p r = false) (hq : q r = true)
    (hother : ∀ r' ∈ rows, r'.urlVisitId ≠ r.urlVisitId → q r' = p r')
    : rows.countP q = rows.countP p + 1 := by
  have hperm := List.perm_cons_erase hr
  rw [hperm.countP_eq, hperm.countP_eq, List.countP_cons_of_pos hq, List.countP_cons_of_neg (by simp [hp])]
  congr 1
  apply List.countP_congr
  intro r' hr'
  have hne := (hperm.pairwise_iff (fun hne => hne.symm)).mp h
  have := List.rel_of_pairwise_cons hne hr'
  rw [hother r' (List.mem_of_mem_erase hr') this.symm]

theorem queued_iff {db : Database} {id : Nat}
    : db.queued id = true ↔ ∃ r ∈ db.queue, r.urlVisitId = id := by
  simp [Database.queued]

namespace Tables

variable {db : Database} {r : QueuedVisit}

theorem enqueue (h : Tables db) (hr : r ∈ db.visits) : Tables (db.enqueue r) := by
  unfold Database.enqueue
  split
  . exact h
  . next hnot =>
    refine ⟨h.visits, h.fresh, h.unassigned, ?_, ?_⟩
    . intro r' hr'
      rcases List.mem_append.mp hr' with hr' | hr'
      . exact h.queue hr'
      . rw [List.mem_singleton] at hr'
        rw [hr']
        exact hr
    . rw [List.pairwise_append]
      refine ⟨h.queueNodup, List.pairwise_singleton _ _, ?_⟩
      intro r' hr' last hlast hid
      rw [List.mem_singleton] at hlast
      rw [hlast] at hid
      exact hnot (queued_iff.mpr ⟨r', hr', hid⟩)

theorem insert (h : Tables db) (agent : Uuid) (ts : Nat) (url : String)
    : Tables {
        db with
        visits := db.visits ++ [{ urlVisitId := db.nextId, agentId := agent, ts, url }]
        nextId := db.nextId + 1
      } where
  visits := by
    rw [List.pairwise_append]
    refine ⟨h.visits, List.pairwise_singleton _ _, ?_⟩
    intro r hr last hlast hid
    rw [List.mem_singleton] at hlast
    rw [hlast] at hid
    exact Nat.lt_irrefl _ (hid ▸ h.fresh hr)
  fresh := by
    intro r hr
    rcases List.mem_append.mp hr with hr | hr
    . exact Nat.lt_succ_of_lt (h.fresh hr)
    . rw [List.mem_singleton] at hr
      rw [hr]
      exact Nat.lt_succ_self _
  unassigned := fun hid => h.unassigned (Nat.le_of_succ_le hid)
  queue := fun hr => List.mem_append_left _ (h.queue hr)
  queueNodup := h.queueNodup

theorem assign (h : Tables db) (hr : r ∈ db.queue) (category : Option Nat)
    : Tables (db.setVisitCategory r.urlVisitId category) where
  visits := h.visits
  fresh := h.fresh
  unassigned := by
    intro id hid
    have hlt := h.fresh (h.queue hr)
    have hne : id ≠ r.urlVisitId := by
      change db.nextId ≤ id at hid
      omega
    exact (Function.update_of_ne hne _ _).trans (h.unassigned hid)
  queue := h.queue
  queueNodup := h.queueNodup

theorem dequeue (h : Tables db) (id : Nat) : Tables (db.dequeue id) where
  visits := h.visits
  fresh := h.fresh
  unassigned := h.unassigned
  queue := fun hr => h.queue (List.mem_of_mem_filter hr)
  queueNodup := h.queueNodup.filter _

theorem batch (h : Tables db) (limit offset : Nat)
    : (∀ r ∈ db.queueBatch limit offset, r ∈ db.queue)
      ∧ (db.queueBatch limit offset).Pairwise (fun r r' => r.urlVisitId ≠ r'.urlVisitId) := by
  have hperm : ((db.queue.rotate offset).insertionSort (fun r r' => r.ts ≤ r'.ts)).Perm db.queue :=
    (List.perm_insertionSort _ _).trans (List.rotate_perm _ _)
  constructor
  . intro r hr
    exact hperm.mem_iff.mp (List.mem_of_mem_take hr)
  . apply List.Pairwise.sublist (List.take_sublist _ _)
    exact (hperm.pairwise_iff (fun hne => hne.symm)).mpr h.queueNodup

end Tables

/-!
The steps of the tables and of the worker.
-/

namespace Exact

variable {s : State} {r : QueuedVisit}

theorem init : Exact State.init where
  tables := by constructor <;> simp [State.init]
  rows := by simp [State.init, Worker.rows]
  rowsNodup := List.Pairwise.nil
  assigned := trivial
  counted := by
    intro agent category
    rfl

theorem queued_of_row (h : Exact s) (hr : r ∈ s.worker.rows) : s.db.queued r.urlVisitId = true :=
  queued_iff.mpr ⟨r, h.rows hr, rfl⟩

-- A visit without a category may be put into the queue.
theorem enqueue (h : Exact s) (hr : r ∈ s.db.visits) (hnone : s.db.visitCategory r.urlVisitId = none)
    : Exact { s with db := s.db.enqueue r } := by
  have htables := h.tables.enqueue hr
  unfold Database.enqueue at htables ⊢
  split
  . exact h
  . next hnot =>
    rw [if_neg hnot] at htables
    refine ⟨htables, ?_, h.rowsNodup, ?_, ?_⟩
    . exact fun hr => List.mem_append_left _ (h.rows hr)
    . have hassigned := h.assigned
      exact hassigned
    . intro agent category
      rw [h.counted agent category]
      apply List.countP_congr
      intro r' _
      simp only [decide_eq_true_eq, Counts, Database.queued, List.any_append]
      by_cases hid : r'.urlVisitId = r.urlVisitId
      . simp [hid, hnone]
      . have hid' : r.urlVisitId ≠ r'.urlVisitId := fun heq => hid heq.symm
        simp [hid']

theorem insertUrl (h : Exact s) (agent : Uuid) (ts : Nat) (url : String) (enqueues : Bool)
    : Exact { s with db := s.db.insertUrl agent ts url enqueues } := by
  have hnone : s.db.visitCategory s.db.nextId = none := h.tables.unassigned (Nat.le_refl _)
  have hinserted : Exact {
      s with
      db := {
        s.db with
        visits := s.db.visits ++ [{ urlVisitId := s.db.nextId, agentId := agent, ts, url }]
        nextId := s.db.nextId + 1
      }
    } := by
    refine ⟨h.tables.insert agent ts url, h.rows, h.rowsNodup, ?_, ?_⟩
    . have hassigned := h.assigned
      exact hassigned
    . intro other category
      rw [List.countP_append]
      have hzero : [({ urlVisitId := s.db.nextId, agentId := agent, ts, url } : QueuedVisit)].countP
          (fun r => Counts s.db s.worker other category r) = 0 := by
        simp [Counts, hnone]
      have hcounted := h.counted other category
      exact hcounted.trans ((congrArg _ hzero).trans (Nat.add_zero _)).symm
  unfold Database.insertUrl
  dsimp only
  split
  . exact hinserted.enqueue (List.mem_append_right _ (List.mem_singleton_self _)) hnone
  . exact hinserted

theorem enqueueAll (rows : List QueuedVisit) (h : Exact s)
    (hrows : ∀ r ∈ rows, r ∈ s.db.visits ∧ s.db.visitCategory r.urlVisitId = none)
    : Exact { s with db := rows.foldl Database.enqueue s.db } := by
  induction rows generalizing s with
  | nil => exact h
  | cons r rows ih =>
    have hr := hrows r List.mem_cons_self
    have hsame : (s.db.enqueue r).visits = s.db.visits
        ∧ (s.db.enqueue r).visitCategory = s.db.visitCategory := by
      unfold Database.enqueue
      split
      . exact ⟨rfl, rfl⟩
      . exact ⟨rfl, rfl⟩
    apply ih (h.enqueue hr.1 hr.2)
    intro r' hr'
    change r' ∈ (s.db.enqueue r).visits ∧ (s.db.enqueue r).visitCategory r'.urlVisitId = none
    rw [hsame.1, hsame.2]
    exact hrows r' (List.mem_cons_of_mem _ hr')

theorem enqueueBackfill (h : Exact s) (agent : Option Uuid) (limit : Nat)
    : Exact { s with db := s.db.enqueueBackfill agent limit } := by
  apply h.enqueueAll
  intro r hr
  have hmem := List.mem_of_mem_take hr
  rw [List.mem_insertionSort, List.mem_filter, Bool.and_eq_true, Option.isNone_iff_eq_none] at hmem
  exact ⟨hmem.1, hmem.2.1⟩

-- The worker may stop where it has not counted a visit.
theorem stop (h : Exact s) (hbumped : s.worker.bumped = none) : Exact { s with worker := .idle } where
  tables := h.tables
  rows := by simp [Worker.rows]
  rowsNodup := List.Pairwise.nil
  assigned := trivial
  counted := by
    intro agent category
    rw [h.counted agent category]
    apply List.countP_congr
    intro r _
    have hidle : Worker.idle.bumped = none := rfl
    simp only [Counts, hbumped, hidle]

theorem start (h : Exact s) (hworker : s.worker = .idle) (limit offset : Nat)
    : Exact { s with worker := .categorize (s.db.queueBatch limit offset) } where
  tables := h.tables
  rows := fun {r} hr => (h.tables.batch limit offset).1 r hr
  rowsNodup := (h.tables.batch limit offset).2
  assigned := trivial
  counted := by
    intro agent category
    rw [h.counted agent category, hworker]
    rfl

theorem categorize {rows : List QueuedVisit} (h : Exact s) (hworker : s.worker = .categorize (r :: rows))
    (category : Option Nat) : Exact { s with worker := .assign r category rows } where
  tables := h.tables
  rows := by
    intro q hq
    exact h.rows (by rw [hworker]; exact hq)
  rowsNodup := by
    have hnodup := h.rowsNodup
    rw [hworker] at hnodup
    exact hnodup
  assigned := trivial
  counted := by
    intro agent category
    rw [h.counted agent category, hworker]
    rfl

-- The visit is in the queue, so its category is not counted yet.
theorem assign {category : Option Nat} {rows : List QueuedVisit} (h : Exact s)
    (hworker : s.worker = .assign r category rows) (worker : Worker) (hrows : worker.rows = r :: rows)
    (hbumped : worker.bumped = none)
    (hassigned : worker.Assigned (s.db.setVisitCategory r.urlVisitId category))
    : Exact { db := s.db.setVisitCategory r.urlVisitId category, worker } := by
  have hr : r ∈ s.worker.rows := by
    rw [hworker]
    exact List.mem_cons_self
  have hold : s.worker.rows = r :: rows := by rw [hworker]; rfl
  refine ⟨h.tables.assign (h.rows hr) category, ?_, ?_, hassigned, ?_⟩
  . intro r' hr'
    change r' ∈ worker.rows at hr'
    rw [hrows, ← hold] at hr'
    exact h.rows hr'
  . change worker.rows.Pairwise _
    rw [hrows, ← hold]
    exact h.rowsNodup
  . intro agent other
    have hbefore : s.worker.bumped = none := by rw [hworker]; rfl
    have hqueued : s.db.queued r.urlVisitId = true := h.queued_of_row hr
    refine (h.counted agent other).trans (List.countP_congr ?_)
    intro r' _
    simp only [decide_eq_true_eq, Counts, hbefore, hbumped]
    change _ ↔ _ ∧ Function.update s.db.visitCategory r.urlVisitId (some category) r'.urlVisitId = _
      ∧ (s.db.queued r'.urlVisitId = false ∨ _)
    by_cases hid : r'.urlVisitId = r.urlVisitId
    . simp [hid, hqueued]
    . rw [Function.update_of_ne hid]

theorem bump {category : Nat} {rows : List QueuedVisit} (h : Exact s)
    (hworker : s.worker = .bump r category rows)
    : Exact { db := s.db.bumpCategoryStats r.agentId category, worker := .dequeue r (some category) rows } := by
  have hr : r ∈ s.worker.rows := by
    rw [hworker]
    exact List.mem_cons_self
  have hqueued : s.db.queued r.urlVisitId = true := h.queued_of_row hr
  have hbefore : s.worker.bumped = none := by rw [hworker]; rfl
  have hcategory : s.db.visitCategory r.urlVisitId = some (some category) := by
    have hassigned := h.assigned
    rw [hworker] at hassigned
    exact hassigned
  refine ⟨⟨h.tables.visits, h.tables.fresh, h.tables.unassigned, h.tables.queue, h.tables.queueNodup⟩,
    ?_, ?_, hcategory, ?_⟩
  . intro q hq
    exact h.rows (by rw [hworker]; exact hq)
  . have hnodup := h.rowsNodup
    rw [hworker] at hnodup
    exact hnodup
  . intro agent other
    have hcounted := h.counted agent other
    change Function.update s.db.visitCount r.agentId _ agent other
      = s.db.visits.countP (fun r' => r'.agentId = agent
          ∧ s.db.visitCategory r'.urlVisitId = some (some other)
          ∧ (s.db.queued r'.urlVisitId = false ∨ some r.urlVisitId = some r'.urlVisitId))
    have hsame : ∀ r' : QueuedVisit, r'.urlVisitId ≠ r.urlVisitId →
        ((r'.agentId = agent ∧ s.db.visitCategory r'.urlVisitId = some (some other)
          ∧ (s.db.queued r'.urlVisitId = false ∨ some r.urlVisitId = some r'.urlVisitId))
        ↔ Counts s.db s.worker agent other r') := by
      intro r' hne
      have hne' : r.urlVisitId ≠ r'.urlVisitId := fun heq => hne heq.symm
      simp [Counts, hbefore, hne']
    by_cases hkey : agent = r.agentId ∧ other = category
    . rcases hkey with ⟨rfl, rfl⟩
      rw [Function.update_self, Function.update_self, hcounted]
      symm
      apply countP_succ h.tables.visits (h.tables.queue (h.rows hr))
      . simp [Counts, hqueued, hbefore]
      . simp [hcategory]
      . intro r' _ hne
        simp only [hsame r' hne]
    . have hcount : Function.update s.db.visitCount r.agentId
          (Function.update (s.db.visitCount r.agentId) category
            (s.db.visitCount r.agentId category + 1)) agent other
          = s.db.visitCount agent other := by
        by_cases hagent : agent = r.agentId
        . subst hagent
          rw [Function.update_self, Function.update_of_ne (fun heq => hkey ⟨rfl, heq⟩)]
        . rw [Function.update_of_ne hagent]
      rw [hcount, hcounted]
      apply List.countP_congr
      intro r' hr'
      simp only [decide_eq_true_eq]
      by_cases hid : r'.urlVisitId = r.urlVisitId
      . have heq := eq_of_id h.tables.visits hr' (h.tables.queue (h.rows hr)) hid
        subst heq
        simp only [Counts, hcategory, Option.some.injEq]
        constructor
        . intro ⟨hagent, hother, _⟩
          exact absurd ⟨hagent.symm, hother.symm⟩ hkey
        . intro ⟨hagent, hother, _⟩
          exact absurd ⟨hagent.symm, hother.symm⟩ hkey
      . exact (hsame r' hid).symm

theorem dequeue {bumped : Option Nat} {rows : List QueuedVisit} (h : Exact s)
    (hworker : s.worker = .dequeue r bumped rows)
    : Exact { db := s.db.dequeue r.urlVisitId, worker := .categorize rows } := by
  have hold : s.worker.rows = r :: rows := by rw [hworker]; rfl
  have hnodup := h.rowsNodup
  rw [hold] at hnodup
  refine ⟨h.tables.dequeue _, ?_, hnodup.of_cons, trivial, ?_⟩
  . intro r' hr'
    change r' ∈ rows at hr'
    have hne := List.rel_of_pairwise_cons hnodup hr'
    have hmem : r' ∈ s.db.queue := h.rows (by rw [hold]; exact List.mem_cons_of_mem _ hr')
    exact List.mem_filter.mpr ⟨hmem, by simpa using fun heq => hne heq.symm⟩
  . intro agent other
    refine (h.counted agent other).trans (List.countP_congr ?_)
    intro r' _
    have hassigned := h.assigned
    have hqueued : (s.db.dequeue r.urlVisitId).queued r'.urlVisitId
        = (s.db.queued r'.urlVisitId && r'.urlVisitId ≠ r.urlVisitId) := by
      rw [Bool.eq_iff_iff, Bool.and_eq_true, queued_iff, queued_iff, decide_eq_true_eq]
      constructor
      . intro ⟨q, hq, hid⟩
        rcases List.mem_filter.mp hq with ⟨hq, hne⟩
        exact ⟨⟨q, hq, hid⟩, by rw [← hid]; simpa using hne⟩
      . intro ⟨⟨q, hq, hid⟩, hne⟩
        exact ⟨q, List.mem_filter.mpr ⟨hq, by rw [hid]; simpa using hne⟩, hid⟩
    simp only [decide_eq_true_eq, Counts, hqueued]
    change _ ↔ _ ∧ s.db.visitCategory r'.urlVisitId = _ ∧ (_ ∨ none = some r'.urlVisitId)
    rw [hworker] at hassigned ⊢
    by_cases hid : r'.urlVisitId = r.urlVisitId
    . cases bumped with
      | none =>
        have hnone : s.db.visitCategory r.urlVisitId = some none := hassigned
        simp [hid, hnone]
      | some category => simp [hid, Worker.bumped]
    . have hid' : r.urlVisitId ≠ r'.urlVisitId := fun heq => hid heq.symm
      cases bumped with
      | none => simp [hid, Worker.bumped]
      | some category => simp [hid, hid', Worker.bumped]

theorem work (h : Exact s) (a : Answer) (huninterrupted : s.Uninterrupted (.work a))
    : Exact (s.work a) := by
  unfold State.work
  split
  . next hfails => exact h.stop (huninterrupted hfails)
  . split
    . next hworker => exact h.start hworker _ _
    . next hworker => exact h.stop (by rw [hworker]; rfl)
    . next r rows hworker => exact h.categorize hworker _
    . next r category rows hworker =>
      cases category with
      | none => exact h.assign hworker (.dequeue r none rows) rfl rfl (Function.update_self _ _ _)
      | some category =>
        exact h.assign hworker (.bump r category rows) rfl rfl (Function.update_self _ _ _)
    . next r category rows hworker => exact h.bump hworker
    . next r bumped rows hworker => exact h.dequeue hworker

theorem step (h : Exact s) {e : Event} (huninterrupted : s.Uninterrupted e) : Exact (s.step e) := by
  cases e with
  | insertUrl agent ts url enqueues => exact h.insertUrl agent ts url enqueues
  | enqueueBackfill agent limit => exact h.enqueueBackfill agent limit
  | work a => exact h.work a huninterrupted
  | interrupt => exact h.stop huninterrupted

theorem run (h : Exact s) {events : List Event} (hadmits : s.Admits events) : Exact (s.run events) := by
  induction events generalizing s with
  | nil => exact h
  | cons e events ih => exact ih (h.step hadmits.1) hadmits.2

end Exact

namespace State

/--
As long as nothing comes between the count of a visit and its removal from the queue, the counts are those
of the visits that were assigned a category once the queue is empty.
-/
theorem visitCount_eq_assigned {events : List Event} (hrun : init.Admits events)
    (hdrained : (init.run events).db.queue = []) (agent : Uuid) (category : Nat)
    : (init.run events).db.visitCount agent category = (init.run events).assigned agent category := by
  have hexact := Exact.init.run hrun
  rw [hexact.counted agent category]
  apply List.countP_congr
  intro r _
  have hqueued : (init.run events).db.queued r.urlVisitId = false := by
    rw [Database.queued, hdrained]
    rfl
  simp [Counts, hqueued]

def answer : Answer :=
  { fails := false, category := some 3, offset := 0 }

-- A visit is enqueued, categorized and counted.
def counting : List Event :=
  [.insertUrl 1 0 "https://example.org/" true, .work answer, .work answer, .work answer, .work answer]

theorem visitCount_eq_assigned_counting
    : (init.run (counting ++ [.work answer])).db.visitCount 1 3
        = (init.run (counting ++ [.work answer])).assigned 1 3 :=
  visitCount_eq_assigned (by decide) (by decide) 1 3

-- The server stops before the visit is taken out of the queue, and counts it again.
def countingTwice : List Event :=
  counting ++ [.interrupt, .work answer, .work answer, .work answer, .work answer, .work answer]

theorem countingTwice_drifts
    : ¬∀ events : List Event, (init.run events).db.queue = [] → ∀ agent category,
        (init.run events).db.visitCount agent category = (init.run events).assigned agent category := by
  intro h
  exact absurd (h countingTwice (by decide) 1 3) (by decide)

end State

end Categorization

end Vantyr
