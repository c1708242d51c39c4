import Mathlib.Data.List.Infix
import Mathlib.Logic.Relation
import Vantyr.Server.Recall.Pages

/-!
This module contains the retention of frames: the scan for day directories, the check that no row refers
to one, and its removal from the store, together with the ingest of frames that goes on meanwhile. Both
hold the gate of the device, the ingest for reading and the retention for writing.
-/

namespace Vantyr

namespace Recall

/-!
Paths. A path is the list of its components.
-/

inductive Component where
  | rootDir
  | curDir
  | parentDir
  | normal (name : String)
  deriving DecidableEq, Repr

abbrev Path := List Component

-- The calendar: days are counted from the epoch, and are written as `%Y%m%d`.
structure Calendar where
  parse : String → Option Int
  format : Int → String

def dayName (cal : Calendar) (value : String) : Option Int :=
  if value.utf8ByteSize ≠ 8 || !value.toList.all (fun c => '0' ≤ c ∧ c ≤ '9') then
    none
  else
    (cal.parse value).filter (fun day => cal.format day = value)

-- `real` tells which paths are directories and not links.
def checkedFrom (real : Path → Bool) : Path → Path → Except String Unit
  | _, [] => .ok ()
  | current, .curDir :: rest => checkedFrom real current rest
  | _, .parentDir :: _ => .error "Recall path has parent traversal"
  | current, component :: rest =>
    if real (current ++ [component]) then
      checkedFrom real (current ++ [component]) rest
    else
      .error "unsafe Recall directory"

def checkedDirectory (real : Path → Bool) (path : Path) : Except String Unit :=
  checkedFrom real [] path

def trashDir : String :=
  ".retention-trash"

-- `Ok` stands for the rename into the trash, which is the last thing that is done.
def detachDay (cal : Calendar) (real : Path → Bool) (root path : Path)
    : Except String (String × String) :=
  match checkedDirectory real root with
  | .error e => .error e
  | .ok () =>
    if !root.isPrefixOf path then
      .error "invalid Recall day path"
    else
      match path.drop root.length with
      | [.normal owner, .normal day] =>
        match Uuid.parse owner with
        | none => .error "invalid device"
        | some agent =>
          if owner ≠ agent.text || (dayName cal day).isNone then
            .error "invalid Recall day path"
          else
            match checkedDirectory real path with
            | .error e => .error e
            | .ok () =>
              match checkedDirectory real (root ++ [.normal trashDir]) with
              | .error e => .error e
              | .ok () => .ok (owner, day)
      | _ => .error "invalid Recall day path"

structure Candidate where
  agent : Uuid
  day : Int
  path : Path

-- One entry of a directory of the root, as the scan looks at it.
def scanEntry (cal : Calendar) (real : Path → Bool) (root : Path) (cutoff : Int)
    (owner name : String) : Option Candidate :=
  match Uuid.parse owner with
  | none => none
  | some agent =>
    if agent.text ≠ owner then
      none
    else
      match dayName cal name with
      | none => none
      | some day =>
        let path := root ++ [.normal owner, .normal name]
        if cutoff ≤ day then
          none
        else
          match checkedDirectory real path with
          | .error _ => none
          | .ok () => some { agent, day, path }

/-!
Rows and blobs.
-/

structure BlobRef where
  owner : String
  day : String
  file : String
  deriving DecidableEq

def BlobRef.text (ref : BlobRef) : String :=
  ref.owner ++ "/" ++ ref.day ++ "/" ++ ref.file

-- `capturedAt` is counted in microseconds, as the database stores it.
structure FrameRow where
  agentId : Uuid
  capturedAt : Int
  blobRef : BlobRef

def microsPerDay : Int := 86400 * 10 ^ 6

def screenHistoryDayIsIndexed (cal : Calendar) (rows : List FrameRow) (agent : Uuid) (day : Int)
    : Bool :=
  let pattern := (agent.text ++ "/" ++ cal.format day ++ "/%").toList
  rows.any (fun row =>
    row.agentId = agent
      && (day - 1) * microsPerDay ≤ row.capturedAt
      && row.capturedAt < (day + 2) * microsPerDay
      && like pattern row.blobRef.text.toList)

/-!
The store, with the tasks that are under way.
-/

inductive IngestPhase where
  | leased
  | written
  deriving DecidableEq

-- A frame that is being stored. Its task holds the read lease of the device. Times of frames are in
-- nanoseconds.
structure Ingest where
  agent : Uuid
  capturedAt : Int
  file : Uuid
  phase : IngestPhase

def nanosPerMicro : Int := 1000

def Ingest.row (cal : Calendar) (task : Ingest) : FrameRow where
  agentId := task.agent
  capturedAt := task.capturedAt / nanosPerMicro
  blobRef := {
    owner := task.agent.text
    day := cal.format (task.capturedAt / nanosPerMicro / microsPerDay)
    file := task.file.text ++ ".jpg"
  }

inductive RemovalPhase where
  | locked
  | unreferenced
  deriving DecidableEq

-- A candidate whose device is locked for it.
structure Removal where
  candidate : Candidate
  phase : RemovalPhase

/--
`blobs` are the files below the root, `removed` those that were in a directory when it was detached.
-/
structure Store where
  rows : List FrameRow
  blobs : List BlobRef
  ingests : List Ingest
  candidates : List Candidate
  writer : Uuid → Option Removal
  detached : List Path
  removed : List BlobRef
  minted : List Uuid

inductive StoreOp where
  | startIngest (agent : Uuid) (capturedAt : Int) (file : Uuid)
  | writeBlob (index : Nat)
  | insertRow (index : Nat)
  | dropBlob (index : Nat)
  | leaveIngest (index : Nat)
  | scan (real : Path → Bool) (cutoff : Int) (owner name : String)
  | lock (index : Nat)
  | check (agent : Uuid) (failed : Bool)
  | detach (agent : Uuid) (real : Path → Bool) (failed : Bool)
  | dropRows (keep : FrameRow → Bool)

namespace Store

def init : Store where
  rows := []
  blobs := []
  ingests := []
  candidates := []
  writer _ := none
  detached := []
  removed := []
  minted := []

def unlock (s : Store) (agent : Uuid) : Store :=
  { s with writer := Function.update s.writer agent none }

-- The read lease waits for the writer of the device.
def startIngest (s : Store) (agent : Uuid) (capturedAt : Int) (file : Uuid) : Store :=
  match s.writer agent with
  | some _ => s
  | none =>
    {
      s with
      ingests := { agent, capturedAt, file, phase := .leased } :: s.ingests
      minted := file :: s.minted
    }

-- The directory of the day is created anew if it is gone.
def writeBlob (cal : Calendar) (s : Store) (index : Nat) : Store :=
  match s.ingests[index]? with
  | none => s
  | some task =>
    match task.phase with
    | .written => s
    | .leased =>
      {
        s with
        ingests := s.ingests.set index { task with phase := .written }
        blobs := (task.row cal).blobRef :: s.blobs
      }

def insertRow (cal : Calendar) (s : Store) (index : Nat) : Store :=
  match s.ingests[index]? with
  | none => s
  | some task =>
    match task.phase with
    | .leased => s
    | .written =>
      { s with ingests := s.ingests.eraseIdx index, rows := task.row cal :: s.rows }

-- The row exists already, or the grants are gone: the blob that was just written is deleted.
def dropBlob (cal : Calendar) (s : Store) (index : Nat) : Store :=
  match s.ingests[index]? with
  | none => s
  | some task =>
    match task.phase with
    | .leased => s
    | .written =>
      {
        s with
        ingests := s.ingests.eraseIdx index
        blobs := s.blobs.erase (task.row cal).blobRef
      }

-- The blob could not be written, or the row not be inserted.
def leaveIngest (s : Store) (index : Nat) : Store :=
  { s with ingests := s.ingests.eraseIdx index }

def scan (cal : Calendar) (root : Path) (s : Store) (real : Path → Bool) (cutoff : Int)
    (owner name : String) : Store :=
  match scanEntry cal real root cutoff owner name with
  | none => s
  | some candidate => { s with candidates := candidate :: s.candidates }

-- The write lease waits for every reader and for another writer; a wait that takes too long gives up.
def lock (s : Store) (index : Nat) : Store :=
  match s.candidates[index]? with
  | none => s
  | some candidate =>
    let s := { s with candidates := s.candidates.eraseIdx index }
    if (s.writer candidate.agent).isSome
        || s.ingests.any (fun task => task.agent = candidate.agent) then
      s
    else
      {
        s with
        writer := Function.update s.writer candidate.agent
          (some { candidate, phase := .locked })
      }

def check (cal : Calendar) (s : Store) (agent : Uuid) (failed : Bool) : Store :=
  match s.writer agent with
  | some { candidate, phase := .locked } =>
    if failed || screenHistoryDayIsIndexed cal s.rows candidate.agent candidate.day then
      s.unlock agent
    else
      {
        s with
        writer := Function.update s.writer agent (some { candidate, phase := .unreferenced })
      }
  | _ => s

def BlobRef.within (owner day : String) (ref : BlobRef) : Bool :=
  ref.owner = owner ∧ ref.day = day

def detach (cal : Calendar) (root : Path) (s : Store) (agent : Uuid) (real : Path → Bool)
    (failed : Bool) : Store :=
  match s.writer agent with
  | some { candidate, phase := .unreferenced } =>
    match detachDay cal real root candidate.path with
    | .error _ => s.unlock agent
    | .ok (owner, day) =>
      if failed then
        s.unlock agent
      else
        {
          s.unlock agent with
          blobs := s.blobs.filter (fun ref => !BlobRef.within owner day ref)
          detached := s.detached ++ [candidate.path]
          removed := s.removed ++ s.blobs.filter (BlobRef.within owner day)
        }
  | _ => s

def exec (cal : Calendar) (root : Path) (s : Store) : StoreOp → Store
  | .startIngest agent capturedAt file => s.startIngest agent capturedAt file
  | .writeBlob index => s.writeBlob cal index
  | .insertRow index => s.insertRow cal index
  | .dropBlob index => s.dropBlob cal index
  | .leaveIngest index => s.leaveIngest index
  | .scan real cutoff owner name => s.scan cal root real cutoff owner name
  | .lock index => s.lock index
  | .check agent failed => s.check cal agent failed
  | .detach agent real failed => s.detach cal root agent real failed
  | .dropRows keep => { s with rows := s.rows.filter keep }

-- The names of the files are random.
def Fresh (s : Store) (op : StoreOp) : Prop :=
  ∀ agent capturedAt file, op = .startIngest agent capturedAt file → file ∉ s.minted

def isFresh (s : Store) : StoreOp → Bool
  | .startIngest _ _ file => !s.minted.contains file
  | _ => true

theorem fresh_of_isFresh {s : Store} {op : StoreOp} (h : s.isFresh op = true) : s.Fresh op := by
  intro agent capturedAt file heq
  rw [heq] at h
  simpa [isFresh] using h

def Step (cal : Calendar) (root : Path) (s t : Store) : Prop :=
  ∃ op, s.Fresh op ∧ t = s.exec cal root op

def Runs (cal : Calendar) (root : Path) : Store → Store → Prop :=
  Relation.ReflTransGen (Step cal root)

def freshRun (cal : Calendar) (root : Path) (s : Store) : List StoreOp → Bool
  | [] => true
  | op :: ops => s.isFresh op && freshRun cal root (s.exec cal root op) ops

theorem runs_foldl {cal : Calendar} {root : Path} {s : Store} {ops : List StoreOp}
    (h : s.freshRun cal root ops = true) : Runs cal root s (ops.foldl (exec cal root) s) := by
  induction ops generalizing s with
  | nil => exact Relation.ReflTransGen.refl
  | cons op ops ih =>
    rw [freshRun, Bool.and_eq_true] at h
    exact Relation.ReflTransGen.head ⟨op, fresh_of_isFresh h.1, rfl⟩ (ih h.2)

end Store

/-!
The check finds every row that refers to a blob of the day.
-/

def isPlain (c : Char) : Bool :=
  c ≠ '\\' ∧ c ≠ '%' ∧ c ≠ '_'

theorem like_prefix {xs : List Char} (h : ∀ c ∈ xs, isPlain c = true) (ys : List Char)
    : like (xs ++ ['%']) (xs ++ ys) = true := by
  induction xs with
  | nil =>
    simp only [List.nil_append, like, List.any_eq_true, List.mem_tails]
    exact ⟨[], List.nil_suffix, rfl⟩
  | cons c xs ih =>
    have hc := h c List.mem_cons_self
    simp only [isPlain, decide_eq_true_eq] at hc
    have hrest := ih (fun d hd => h d (List.mem_cons_of_mem _ hd))
    simp only [List.cons_append]
    unfold like
    split
    . contradiction
    . next heq => exact absurd (List.cons.inj heq).1.symm (fun heq => hc.1 heq.symm)
    . next heq => exact absurd (List.cons.inj heq).1 hc.2.1
    . next heq => exact absurd (List.cons.inj heq).1 hc.2.2
    . next heq =>
      cases heq
      simp [hrest]

theorem plain_text (id : Uuid) : ∀ c ∈ id.text.toList, isPlain c = true :=
  Uuid.forall_text (by decide) (by decide) id

theorem plain_slash : ∀ c ∈ "/".toList, isPlain c = true := by
  intro c hc
  have hslash : "/".toList = ['/'] := rfl
  rw [hslash, List.mem_singleton] at hc
  rw [hc]
  decide

theorem dayName_some {cal : Calendar} {value : String} {day : Int}
    (h : dayName cal value = some day)
    : cal.format day = value ∧ ∀ c ∈ value.toList, isPlain c = true := by
  unfold dayName at h
  split at h
  . contradiction
  . next hdigits =>
    rw [Option.filter_eq_some_iff, decide_eq_true_eq] at h
    refine ⟨h.2, ?_⟩
    intro c hc
    simp only [Bool.or_eq_true, Bool.not_eq_true', not_or, Bool.not_eq_false, List.all_eq_true,
      decide_eq_true_eq] at hdigits
    have hdigit := hdigits.2 c hc
    simp only [isPlain, decide_eq_true_eq]
    refine ⟨?_, ?_, ?_⟩
    . intro heq
      rw [heq] at hdigit
      revert hdigit
      decide
    . intro heq
      rw [heq] at hdigit
      revert hdigit
      decide
    . intro heq
      rw [heq] at hdigit
      revert hdigit
      decide

theorem isIndexed_of_row {cal : Calendar} (hcal : Function.Injective cal.format)
    {rows : List FrameRow} {task : Ingest} {agent : Uuid} {name : String} {day : Int}
    (hrow : task.row cal ∈ rows) (hday : dayName cal name = some day)
    (howner : (task.row cal).blobRef.owner = agent.text)
    (hname : (task.row cal).blobRef.day = name)
    : screenHistoryDayIsIndexed cal rows agent day = true := by
  rcases dayName_some hday with ⟨hformat, hplain⟩
  have hagent : task.agent = agent := Uuid.text_injective howner
  have hsame : task.capturedAt / nanosPerMicro / microsPerDay = day := by
    apply hcal
    rw [hformat]
    exact hname
  unfold screenHistoryDayIsIndexed
  rw [List.any_eq_true]
  refine ⟨task.row cal, hrow, ?_⟩
  have hmicros : microsPerDay = 86400000000 := by decide
  simp only [Bool.and_eq_true, decide_eq_true_eq]
  refine ⟨⟨⟨hagent, ?_⟩, ?_⟩, ?_⟩
  . simp only [Ingest.row, ← hsame, hmicros]
    omega
  . simp only [Ingest.row, ← hsame, hmicros]
    omega
  . have htext : (task.row cal).blobRef.text.toList
        = (agent.text ++ "/" ++ cal.format day ++ "/").toList
          ++ (task.row cal).blobRef.file.toList := by
      rw [BlobRef.text, howner, hname, ← hformat]
      simp [String.toList_append]
    have hpattern : (agent.text ++ "/" ++ cal.format day ++ "/%").toList
        = (agent.text ++ "/" ++ cal.format day ++ "/").toList ++ ['%'] := by
      simp [String.toList_append]
    rw [htext, hpattern]
    apply like_prefix
    intro c hc
    simp only [String.toList_append, List.mem_append] at hc
    rcases hc with ((hc | hc) | hc) | hc
    . exact plain_text agent c hc
    . exact plain_slash c hc
    . rw [hformat] at hc
      exact hplain c hc
    . exact plain_slash c hc

/-!
The invariant. Nothing that a row refers to, or that a row may still be inserted for, was removed.
-/

def Canonical (cal : Calendar) (root : Path) (c : Candidate) : Prop :=
  ∃ name, c.path = root ++ [.normal c.agent.text, .normal name] ∧ dayName cal name = some c.day

structure Guarded (cal : Calendar) (root : Path) (s : Store) : Prop where
  rows : ∀ row ∈ s.rows, ∃ task : Ingest, row = task.row cal ∧ row.blobRef ∉ s.removed
  ingests : ∀ task ∈ s.ingests, task.file ∈ s.minted ∧ (task.row cal).blobRef ∉ s.removed
  blobs : ∀ ref ∈ s.blobs ++ s.removed, ∃ file ∈ s.minted, ref.file = file.text ++ ".jpg"
  candidates : ∀ c ∈ s.candidates, Canonical cal root c
  locked : ∀ agent removal, s.writer agent = some removal →
    removal.candidate.agent = agent
      ∧ Canonical cal root removal.candidate
      ∧ ∀ task ∈ s.ingests, task.agent ≠ agent
  unreferenced : ∀ agent removal, s.writer agent = some removal →
    removal.phase = .unreferenced →
    screenHistoryDayIsIndexed cal s.rows agent removal.candidate.day = false
  detached : ∀ path ∈ s.detached, ∃ agent : Uuid, ∃ name,
    path = root ++ [.normal agent.text, .normal name] ∧ (dayName cal name).isSome

theorem scanEntry_canonical {cal : Calendar} {real : Path → Bool} {root : Path} {cutoff : Int}
    {owner name : String} {c : Candidate} (h : scanEntry cal real root cutoff owner name = some c)
    : Canonical cal root c := by
  unfold scanEntry at h
  split at h
  . cases h
  . split at h
    . cases h
    . next howner =>
      rw [not_not] at howner
      split at h
      . cases h
      . next day hday =>
        simp only at h
        split at h
        . cases h
        . split at h
          . cases h
          . cases h
            rw [← howner]
            exact ⟨name, rfl, hday⟩

theorem detachDay_canonical {cal : Calendar} {real : Path → Bool} {root : Path} {c : Candidate}
    {owner day : String} (hc : Canonical cal root c)
    (h : detachDay cal real root c.path = .ok (owner, day))
    : owner = c.agent.text ∧ dayName cal day = some c.day
      ∧ c.path = root ++ [.normal c.agent.text, .normal day] := by
  rcases hc with ⟨name, hpath, hname⟩
  have hdrop : c.path.drop root.length = [.normal c.agent.text, .normal name] := by
    rw [hpath]
    simp
  unfold detachDay at h
  simp only [hdrop] at h
  split at h
  . cases h
  . split at h
    . cases h
    . split at h
      . cases h
      . split at h
        . cases h
        . split at h
          . cases h
          . split at h
            . cases h
            . rw [Except.ok.injEq, Prod.mk.injEq] at h
              rw [← h.1, ← h.2]
              exact ⟨rfl, hname, hpath⟩

theorem file_injective {a b : Uuid} (h : a.text ++ ".jpg" = b.text ++ ".jpg") : a = b := by
  apply Uuid.text_injective
  exact String.append_left_inj _ |>.mp h

theorem Store.detached_exec (s : Store) (cal : Calendar) (root : Path) (op : StoreOp)
    : (s.exec cal root op).detached = s.detached
      ∨ ∃ agent real failed, op = .detach agent real failed := by
  cases op with
  | detach agent real failed => exact Or.inr ⟨agent, real, failed, rfl⟩
  | startIngest agent capturedAt file =>
    apply Or.inl
    simp only [exec, startIngest]
    split <;> rfl
  | writeBlob index =>
    apply Or.inl
    simp only [exec, writeBlob]
    split
    . rfl
    . split <;> rfl
  | insertRow index =>
    apply Or.inl
    simp only [exec, insertRow]
    split
    . rfl
    . split <;> rfl
  | dropBlob index =>
    apply Or.inl
    simp only [exec, dropBlob]
    split
    . rfl
    . split <;> rfl
  | scan real cutoff owner name =>
    apply Or.inl
    simp only [exec, scan]
    split <;> rfl
  | lock index =>
    apply Or.inl
    simp only [exec, lock]
    split
    . rfl
    . split <;> rfl
  | check agent failed =>
    apply Or.inl
    simp only [exec, check]
    split
    . split <;> rfl
    . rfl
  | leaveIngest index => exact Or.inl rfl
  | dropRows keep => exact Or.inl rfl

namespace Guarded

variable {cal : Calendar} {root : Path} {s : Store}

theorem unlock (h : Guarded cal root s) (agent : Uuid) : Guarded cal root (s.unlock agent) where
  rows := h.rows
  ingests := h.ingests
  blobs := h.blobs
  candidates := h.candidates
  locked := by
    intro other removal hwriter
    simp only [Store.unlock, Function.update_apply] at hwriter
    split at hwriter
    . contradiction
    . exact h.locked other removal hwriter
  unreferenced := by
    intro other removal hwriter
    simp only [Store.unlock, Function.update_apply] at hwriter
    split at hwriter
    . contradiction
    . exact h.unreferenced other removal hwriter
  detached := h.detached

theorem startIngest (h : Guarded cal root s) (agent : Uuid) (capturedAt : Int) {file : Uuid}
    (hfresh : file ∉ s.minted) : Guarded cal root (s.startIngest agent capturedAt file) := by
  unfold Store.startIngest
  split
  . exact h
  . next hwriter =>
    exact {
      rows := h.rows
      ingests := by
        intro task htask
        rw [List.mem_cons] at htask
        rcases htask with htask | htask
        . subst htask
          refine ⟨List.mem_cons_self, ?_⟩
          intro hremoved
          rcases h.blobs _ (List.mem_append_right _ hremoved) with ⟨other, hother, heq⟩
          have hsame : file = other := file_injective heq
          rw [hsame] at hfresh
          exact hfresh hother
        . exact ⟨List.mem_cons_of_mem _ (h.ingests task htask).1, (h.ingests task htask).2⟩
      blobs := by
        intro ref href
        rcases h.blobs ref href with ⟨other, hother, heq⟩
        exact ⟨other, List.mem_cons_of_mem _ hother, heq⟩
      candidates := h.candidates
      locked := by
        intro other removal hlocked
        rcases h.locked other removal hlocked with ⟨hagent, hcanonical, hnone⟩
        refine ⟨hagent, hcanonical, ?_⟩
        intro task htask
        rw [List.mem_cons] at htask
        rcases htask with htask | htask
        . subst htask
          intro heq
          simp only at heq
          rw [← heq, hwriter] at hlocked
          contradiction
        . exact hnone task htask
      unreferenced := h.unreferenced
      detached := h.detached
    }

-- The end of a task.
theorem eraseIngest (h : Guarded cal root s) (index : Nat)
    : Guarded cal root { s with ingests := s.ingests.eraseIdx index } where
  rows := h.rows
  ingests := fun task htask => h.ingests task (List.mem_of_mem_eraseIdx htask)
  blobs := h.blobs
  candidates := h.candidates
  locked := by
    intro agent removal hlocked
    rcases h.locked agent removal hlocked with ⟨hagent, hcanonical, hnone⟩
    exact ⟨hagent, hcanonical, fun task htask => hnone task (List.mem_of_mem_eraseIdx htask)⟩
  unreferenced := h.unreferenced
  detached := h.detached

theorem writeBlob (h : Guarded cal root s) (index : Nat)
    : Guarded cal root (s.writeBlob cal index) := by
  unfold Store.writeBlob
  split
  . exact h
  . next task htask =>
    have hmem := List.mem_of_getElem? htask
    split
    . exact h
    . exact {
        rows := h.rows
        ingests := by
          intro other hother
          rcases List.mem_or_eq_of_mem_set hother with hold | hnew
          . exact h.ingests other hold
          . rw [hnew]
            exact h.ingests task hmem
        blobs := by
          intro ref href
          rw [List.cons_append, List.mem_cons] at href
          rcases href with href | href
          . rw [href]
            exact ⟨task.file, (h.ingests task hmem).1, rfl⟩
          . exact h.blobs ref href
        candidates := h.candidates
        locked := by
          intro agent removal hlocked
          rcases h.locked agent removal hlocked with ⟨hagent, hcanonical, hnone⟩
          refine ⟨hagent, hcanonical, ?_⟩
          intro other hother
          rcases List.mem_or_eq_of_mem_set hother with hold | hnew
          . exact hnone other hold
          . rw [hnew]
            exact hnone task hmem
        unreferenced := h.unreferenced
        detached := h.detached
      }

-- A row is inserted under the read lease, so no check is under way for its device.
theorem insertRow (h : Guarded cal root s) (index : Nat)
    : Guarded cal root (s.insertRow cal index) := by
  unfold Store.insertRow
  split
  . exact h
  . next task htask =>
    have hmem := List.mem_of_getElem? htask
    split
    . exact h
    . have herased := h.eraseIngest index
      exact {
        rows := by
          intro row hrow
          rw [List.mem_cons] at hrow
          rcases hrow with hrow | hrow
          . rw [hrow]
            exact ⟨task, rfl, (h.ingests task hmem).2⟩
          . exact h.rows row hrow
        ingests := herased.ingests
        blobs := herased.blobs
        candidates := herased.candidates
        locked := herased.locked
        unreferenced := by
          intro agent removal hlocked hphase
          have hother := (h.locked agent removal hlocked).2.2 task hmem
          have hold := h.unreferenced agent removal hlocked hphase
          unfold screenHistoryDayIsIndexed at hold ⊢
          rw [List.any_cons, hold, Bool.or_false]
          simp [Ingest.row, hother]
        detached := herased.detached
      }

theorem dropBlob (h : Guarded cal root s) (index : Nat)
    : Guarded cal root (s.dropBlob cal index) := by
  unfold Store.dropBlob
  split
  . exact h
  . split
    . exact h
    . have herased := h.eraseIngest index
      exact {
        rows := herased.rows
        ingests := herased.ingests
        blobs := by
          intro ref href
          apply h.blobs ref
          rw [List.mem_append] at href ⊢
          exact href.imp List.mem_of_mem_erase id
        candidates := herased.candidates
        locked := herased.locked
        unreferenced := herased.unreferenced
        detached := herased.detached
      }

theorem scan (h : Guarded cal root s) (real : Path → Bool) (cutoff : Int) (owner name : String)
    : Guarded cal root (s.scan cal root real cutoff owner name) := by
  unfold Store.scan
  split
  . exact h
  . next c hc =>
    exact {
      rows := h.rows
      ingests := h.ingests
      blobs := h.blobs
      candidates := by
        intro other hother
        rw [List.mem_cons] at hother
        rcases hother with hother | hother
        . rw [hother]
          exact scanEntry_canonical hc
        . exact h.candidates other hother
      locked := h.locked
      unreferenced := h.unreferenced
      detached := h.detached
    }

theorem lock (h : Guarded cal root s) (index : Nat) : Guarded cal root (s.lock index) := by
  unfold Store.lock
  split
  . exact h
  . next c hc =>
    have hcandidates : Guarded cal root { s with candidates := s.candidates.eraseIdx index } := {
      rows := h.rows
      ingests := h.ingests
      blobs := h.blobs
      candidates := fun other hother => h.candidates other (List.mem_of_mem_eraseIdx hother)
      locked := h.locked
      unreferenced := h.unreferenced
      detached := h.detached
    }
    simp only
    split
    . exact hcandidates
    . next hfree =>
      simp only [Bool.or_eq_true, not_or, List.any_eq_true, decide_eq_true_eq, not_exists, not_and]
        at hfree
      exact {
        rows := h.rows
        ingests := h.ingests
        blobs := h.blobs
        candidates := hcandidates.candidates
        locked := by
          intro agent removal hlocked
          simp only [Function.update_apply] at hlocked
          split at hlocked
          . next heq =>
            cases hlocked
            refine ⟨heq.symm, h.candidates c (List.mem_of_getElem? hc), ?_⟩
            intro task htask
            rw [heq]
            exact hfree.2 task htask
          . exact h.locked agent removal hlocked
        unreferenced := by
          intro agent removal hlocked hphase
          simp only [Function.update_apply] at hlocked
          split at hlocked
          . cases hlocked
            contradiction
          . exact h.unreferenced agent removal hlocked hphase
        detached := h.detached
      }

theorem check (h : Guarded cal root s) (agent : Uuid) (failed : Bool)
    : Guarded cal root (s.check cal agent failed) := by
  unfold Store.check
  split
  . next c hwriter =>
    split
    . exact h.unlock agent
    . next hindexed =>
      simp only [Bool.or_eq_true, not_or, Bool.not_eq_true] at hindexed
      have hlocked := h.locked agent _ hwriter
      simp only at hlocked
      exact {
        rows := h.rows
        ingests := h.ingests
        blobs := h.blobs
        candidates := h.candidates
        locked := by
          intro other removal hother
          simp only [Function.update_apply] at hother
          split at hother
          . next heq =>
            cases hother
            rw [heq]
            exact hlocked
          . exact h.locked other removal hother
        unreferenced := by
          intro other removal hother hphase
          simp only [Function.update_apply] at hother
          split at hother
          . next heq =>
            cases hother
            rw [heq, ← hlocked.1]
            exact hindexed.2
          . exact h.unreferenced other removal hother hphase
        detached := h.detached
      }
  . exact h

-- What is removed lies in the directory that was checked.
theorem not_within (hcal : Function.Injective cal.format) (h : Guarded cal root s) {agent : Uuid}
    {removal : Removal} (hwriter : s.writer agent = some removal)
    (hphase : removal.phase = .unreferenced) {day : String}
    (hday : dayName cal day = some removal.candidate.day) {row : FrameRow} (hrow : row ∈ s.rows)
    : Store.BlobRef.within agent.text day row.blobRef = false := by
  rcases h.rows row hrow with ⟨task, htask, _⟩
  have hnot := h.unreferenced agent removal hwriter hphase
  by_contra hwithin
  simp only [Bool.not_eq_false, Store.BlobRef.within, decide_eq_true_eq] at hwithin
  rw [htask] at hrow hwithin
  rw [isIndexed_of_row hcal hrow hday hwithin.1 hwithin.2] at hnot
  contradiction

theorem detach (hcal : Function.Injective cal.format) (h : Guarded cal root s) (agent : Uuid)
    (real : Path → Bool) (failed : Bool)
    : Guarded cal root (s.detach cal root agent real failed) := by
  unfold Store.detach
  split
  . next c hwriter =>
    have hlocked := h.locked agent _ hwriter
    simp only at hlocked
    split
    . exact h.unlock agent
    . next owner day hdetach =>
      rcases detachDay_canonical hlocked.2.1 hdetach with ⟨howner, hday, hpath⟩
      rw [hlocked.1] at howner hpath
      split
      . exact h.unlock agent
      . have hfree := h.unlock agent
        exact {
          rows := by
            intro row hrow
            rcases h.rows row hrow with ⟨task, htask, hsafe⟩
            refine ⟨task, htask, ?_⟩
            rw [List.mem_append, not_or, List.mem_filter, not_and]
            refine ⟨hsafe, ?_⟩
            intro _
            rw [howner, h.not_within hcal hwriter rfl hday hrow]
            simp
          ingests := by
            intro task htask
            refine ⟨(h.ingests task htask).1, ?_⟩
            rw [List.mem_append, not_or, List.mem_filter, not_and]
            refine ⟨(h.ingests task htask).2, ?_⟩
            intro _ hwithin
            simp only [Store.BlobRef.within, decide_eq_true_eq] at hwithin
            apply hlocked.2.2 task htask
            apply Uuid.text_injective
            rw [← howner]
            exact hwithin.1
          blobs := by
            intro ref href
            apply h.blobs ref
            simp only [List.mem_append, List.mem_filter] at href ⊢
            rcases href with href | href | href
            . exact Or.inl href.1
            . exact Or.inr href
            . exact Or.inl href.1
          candidates := hfree.candidates
          locked := hfree.locked
          unreferenced := hfree.unreferenced
          detached := by
            intro path hmem
            rw [List.mem_append, List.mem_singleton] at hmem
            rcases hmem with hmem | hmem
            . exact h.detached path hmem
            . refine ⟨agent, day, ?_, ?_⟩
              . rw [hmem, hpath]
              . rw [hday]
                rfl
        }
  . exact h

theorem dropRows (h : Guarded cal root s) (keep : FrameRow → Bool)
    : Guarded cal root { s with rows := s.rows.filter keep } where
  rows := fun row hrow => h.rows row (List.mem_of_mem_filter hrow)
  ingests := h.ingests
  blobs := h.blobs
  candidates := h.candidates
  locked := h.locked
  unreferenced := by
    intro agent removal hlocked hphase
    have hold := h.unreferenced agent removal hlocked hphase
    unfold screenHistoryDayIsIndexed at hold ⊢
    rw [List.any_eq_false] at hold ⊢
    intro row hrow
    exact hold row (List.mem_of_mem_filter hrow)
  detached := h.detached

theorem exec (hcal : Function.Injective cal.format) (h : Guarded cal root s) {op : StoreOp}
    (hfresh : s.Fresh op) : Guarded cal root (s.exec cal root op) := by
  cases op with
  | startIngest agent capturedAt file =>
    exact h.startIngest agent capturedAt (hfresh agent capturedAt file rfl)
  | writeBlob index => exact h.writeBlob index
  | insertRow index => exact h.insertRow index
  | dropBlob index => exact h.dropBlob index
  | leaveIngest index => exact h.eraseIngest index
  | scan real cutoff owner name => exact h.scan real cutoff owner name
  | lock index => exact h.lock index
  | check agent failed => exact h.check agent failed
  | detach agent real failed => exact h.detach hcal agent real failed
  | dropRows keep => exact h.dropRows keep

theorem runs (hcal : Function.Injective cal.format) {t : Store} (h : Guarded cal root s)
    (hruns : Store.Runs cal root s t) : Guarded cal root t := by
  induction hruns with
  | refl => exact h
  | tail _ hstep ih =>
    rcases hstep with ⟨op, hfresh, heq⟩
    rw [heq]
    exact ih.exec hcal hfresh

theorem init : Guarded cal root Store.init := by
  constructor <;> simp [Store.init]

theorem detach_grows (h : Guarded cal root s) {agent : Uuid} {real : Path → Bool} {failed : Bool}
    {path : Path} (hdetached : (s.detach cal root agent real failed).detached = s.detached ++ [path])
    : ∃ removal day, s.writer agent = some removal
        ∧ removal.phase = .unreferenced
        ∧ dayName cal day = some removal.candidate.day
        ∧ path = root ++ [.normal agent.text, .normal day] := by
  have hne : s.detached ≠ s.detached ++ [path] := by simp
  unfold Store.detach at hdetached
  split at hdetached
  . next c hwriter =>
    have hlocked := h.locked agent _ hwriter
    simp only at hlocked
    split at hdetached
    . exact absurd hdetached hne
    . next owner day hdetach =>
      rcases detachDay_canonical hlocked.2.1 hdetach with ⟨_, hday, hpath⟩
      split at hdetached
      . exact absurd hdetached hne
      . simp only [List.append_cancel_left_eq, List.cons.injEq, and_true] at hdetached
        rw [hlocked.1] at hpath
        exact ⟨_, day, hwriter, rfl, hday, by rw [← hdetached, hpath]⟩
  . exact absurd hdetached hne

end Guarded

/--
Only directories of the form `<agent>/<YYYYMMDD>` are ever detached, each of them when no row refers to
a blob in it, and no row refers to a blob that was removed.
-/
theorem retention_keeps_indexed {cal : Calendar} (hcal : Function.Injective cal.format) (root : Path)
    {s : Store} (h : Store.Runs cal root Store.init s)
    : (∀ row ∈ s.rows, row.blobRef ∉ s.removed)
      ∧ (∀ path ∈ s.detached, ∃ agent : Uuid, ∃ name,
        path = root ++ [.normal agent.text, .normal name] ∧ (dayName cal name).isSome)
      ∧ ∀ op path, (s.exec cal root op).detached = s.detached ++ [path] →
        ∃ agent : Uuid, ∃ day, path = root ++ [.normal agent.text, .normal day]
          ∧ ∀ row ∈ s.rows, ¬ (row.blobRef.owner = agent.text ∧ row.blobRef.day = day) := by
  have hs := Guarded.init.runs hcal h
  refine ⟨?_, hs.detached, ?_⟩
  . intro row hrow
    rcases hs.rows row hrow with ⟨_, _, hsafe⟩
    exact hsafe
  . intro op path hdetached
    rcases s.detached_exec cal root op with hsame | ⟨agent, real, failed, hop⟩
    . rw [hsame] at hdetached
      simp at hdetached
    subst hop
    rcases hs.detach_grows hdetached with ⟨removal, day, hwriter, hphase, hday, hpath⟩
    refine ⟨agent, day, hpath, ?_⟩
    intro row hrow hwithin
    have := hs.not_within hcal hwriter hphase hday hrow
    simp only [Store.BlobRef.within, hwithin, and_self, decide_true] at this
    contradiction

namespace Example

-- Two days, and names for all others.
def calendar : Calendar where
  parse value :=
    if value = "20240101" then some 19723 else if value = "20240102" then some 19724 else none
  format day :=
    if day = 19723 then
      "20240101"
    else if day = 19724 then
      "20240102"
    else if 0 ≤ day then
      String.ofList ('p' :: List.replicate day.toNat '0')
    else
      String.ofList ('n' :: List.replicate (-day).toNat '0')

def dayOf (name : String) : Int :=
  if name = "20240101" then
    19723
  else if name = "20240102" then
    19724
  else
    match name.toList with
    | 'p' :: rest => rest.length
    | rest => 1 - rest.length

theorem ofList_ne {c : Char} {rest : List Char} {text : String} (h : text.toList.head? ≠ some c)
    : String.ofList (c :: rest) ≠ text := by
  intro heq
  rw [← heq, String.toList_ofList] at h
  exact h rfl

theorem dayOf_format (day : Int) : dayOf (calendar.format day) = day := by
  simp only [calendar]
  by_cases hfirst : day = 19723
  . subst hfirst
    decide
  . by_cases hsecond : day = 19724
    . subst hsecond
      decide
    . rw [if_neg hfirst, if_neg hsecond]
      unfold dayOf
      split
      . rw [if_neg (ofList_ne (by decide)), if_neg (ofList_ne (by decide)), String.toList_ofList]
        simp only [List.length_replicate]
        omega
      . rw [if_neg (ofList_ne (by decide)), if_neg (ofList_ne (by decide)), String.toList_ofList]
        change 1 - (('n' :: List.replicate (-day).toNat '0').length : Int) = day
        rw [List.length_cons, List.length_replicate]
        omega

theorem calendar_injective : Function.Injective calendar.format :=
  Function.LeftInverse.injective dayOf_format

-- A frame is stored on the second of the days. What is left of one from the day before is removed.
def retained : List StoreOp := [
  .startIngest 1 (19724 * 86400 * 10 ^ 9) 2,
  .writeBlob 0,
  .insertRow 0,
  .startIngest 1 (19723 * 86400 * 10 ^ 9) 3,
  .writeBlob 0,
  .leaveIngest 0,
  .scan (fun _ => true) 19730 (Uuid.text 1) "20240101",
  .scan (fun _ => true) 19730 (Uuid.text 1) "20240102",
  .lock 0,
  .check 1 false,
  .lock 0,
  .check 1 false,
  .detach 1 (fun _ => true) false
]

def stored : Store :=
  retained.foldl (Store.exec calendar [.rootDir]) Store.init

end Example

theorem retention_keeps_indexed_retained
    : Example.stored.rows.length = 1
      ∧ Example.stored.removed.length = 1
      ∧ ∀ row ∈ Example.stored.rows, row.blobRef ∉ Example.stored.removed := by
  have hrun : Store.init.freshRun Example.calendar [.rootDir] Example.retained = true
      ∧ Example.stored.rows.length = 1 ∧ Example.stored.removed.length = 1 := by
    decide +kernel
  rcases hrun with ⟨hfresh, hrows, hremoved⟩
  have hruns : Store.Runs Example.calendar [.rootDir] Store.init Example.stored := Store.runs_foldl hfresh
  have hkept := retention_keeps_indexed Example.calendar_injective [.rootDir] hruns
  exact ⟨hrows, hremoved, hkept.1⟩

end Recall

end Vantyr
