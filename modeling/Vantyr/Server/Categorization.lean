import Mathlib.Data.List.Rotate
import Mathlib.Data.List.Sort
import Mathlib.Data.List.Nodup
import Mathlib.Logic.Function.Basic
import Vantyr.Data.Uuid

/-!
This module contains the categorization of URL visits: how they get into the queue
(`server/src/web_activity/db.rs`, `server/src/web_activity/url_categorization/db/queue.rs`), and the worker
that categorizes, counts and dequeues them in statements of their own (`worker_tick` in
`server/src/web_activity/url_categorization/engine.rs`).
-/

namespace Vantyr

namespace Categorization

structure QueuedVisit where
  urlVisitId : Nat
  agentId : Uuid
  ts : Nat
  url : String
  deriving DecidableEq, Repr

-- The tables `url_visits` with the serial number of the next row, `url_categorization_queue`,
-- `url_visit_category` and the counts of `url_category_stats`.
structure Database where
  visits : List QueuedVisit
  nextId : Nat
  queue : List QueuedVisit
  visitCategory : Nat → Option (Option Nat)
  visitCount : Uuid → Nat → Nat

namespace Database

def queued (db : Database) (id : Nat) : Bool :=
  db.queue.any (fun r => r.urlVisitId = id)

-- `ON CONFLICT (url_visit_id) DO NOTHING`
def enqueue (db : Database) (r : QueuedVisit) : Database :=
  if db.queued r.urlVisitId then db else { db with queue := db.queue ++ [r] }

-- A visit that is no exact duplicate of the latest one. It is enqueued only when the feature is enabled,
-- and a failure to do so is ignored.
def insertUrl (db : Database) (agent : Uuid) (ts : Nat) (url : String) (enqueues : Bool) : Database :=
  let r := { urlVisitId := db.nextId, agentId := agent, ts, url }
  let db := { db with visits := db.visits ++ [r], nextId := db.nextId + 1 }
  if enqueues then db.enqueue r else db

-- The first visits without a category, of one agent or of all of them.
def enqueueBackfill (db : Database) (agent : Option Uuid) (limit : Nat) : Database :=
  let rows := db.visits.filter
    (fun r => (db.visitCategory r.urlVisitId).isNone && agent.all (fun agent => r.agentId = agent))
  ((rows.insertionSort (fun r r' => r.ts ≤ r'.ts)).take limit).foldl enqueue db

-- The order of rows of the same time is up to the database.
def queueBatch (db : Database) (limit offset : Nat) : List QueuedVisit :=
  ((db.queue.rotate offset).insertionSort (fun r r' => r.ts ≤ r'.ts)).take limit

def setVisitCategory (db : Database) (id : Nat) (category : Option Nat) : Database :=
  { db with visitCategory := Function.update db.visitCategory id (some category) }

def bumpCategoryStats (db : Database) (agent : Uuid) (category : Nat) : Database :=
  {
    db with
    visitCount := Function.update db.visitCount agent
      (Function.update (db.visitCount agent) category (db.visitCount agent category + 1))
  }

def dequeue (db : Database) (id : Nat) : Database :=
  { db with queue := db.queue.filter (fun r => r.urlVisitId ≠ id) }

end Database

def workerBatch : Nat := 250

-- What is left of a tick: the rows of the batch, with the statement that is next for the first one.
inductive Worker where
  | idle
  | categorize (rows : List QueuedVisit)
  | assign (r : QueuedVisit) (category : Option Nat) (rows : List QueuedVisit)
  | bump (r : QueuedVisit) (category : Nat) (rows : List QueuedVisit)
  | dequeue (r : QueuedVisit) (bumped : Option Nat) (rows : List QueuedVisit)
  deriving DecidableEq, Repr

-- Whether a statement fails, the outcome of the categorization, which depends on lists that may change,
-- and where in the table the query of the batch starts.
structure Answer where
  fails : Bool
  category : Option Nat
  offset : Nat

inductive Event where
  | insertUrl (agent : Uuid) (ts : Nat) (url : String) (enqueues : Bool)
  | enqueueBackfill (agent : Option Uuid) (limit : Nat)
  | work (a : Answer)
  -- The server stops, and starts again.
  | interrupt

structure State where
  db : Database
  worker : Worker

namespace State

def init : State :=
  {
    db := {
      visits := []
      nextId := 0
      queue := []
      visitCategory := fun _ => none
      visitCount := fun _ _ => 0
    }
    worker := .idle
  }

-- A statement that fails ends the tick.
def work (s : State) (a : Answer) : State :=
  if a.fails then
    { s with worker := .idle }
  else
    match s.worker with
    | .idle => { s with worker := .categorize (s.db.queueBatch workerBatch a.offset) }
    | .categorize [] => { s with worker := .idle }
    | .categorize (r :: rows) => { s with worker := .assign r a.category rows }
    | .assign r category rows => {
        db := s.db.setVisitCategory r.urlVisitId category
        worker :=
          match category with
          | some category => .bump r category rows
          | none => .dequeue r none rows
      }
    | .bump r category rows => {
        db := s.db.bumpCategoryStats r.agentId category
        worker := .dequeue r (some category) rows
      }
    | .dequeue r _ rows => { db := s.db.dequeue r.urlVisitId, worker := .categorize rows }

def step (s : State) : Event → State
  | .insertUrl agent ts url enqueues => { s with db := s.db.insertUrl agent ts url enqueues }
  | .enqueueBackfill agent limit => { s with db := s.db.enqueueBackfill agent limit }
  | .work a => s.work a
  | .interrupt => { s with worker := .idle }

def run (s : State) (events : List Event) : State :=
  events.foldl step s

-- The visits of an agent that were assigned a category.
def assigned (s : State) (agent : Uuid) (category : Nat) : Nat :=
  s.db.visits.countP
    (fun r => r.agentId = agent ∧ s.db.visitCategory r.urlVisitId = some (some category))

end State

end Categorization

end Vantyr
