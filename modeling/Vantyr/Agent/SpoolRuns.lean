import Vantyr.Agent.SpoolBudget
import Vantyr.Agent.SpoolFile
import Vantyr.Data.Runs
import Vantyr.Recall.Upload

/-!
This module contains the spool over any run of pushes, acknowledgements and loads. What is pending is in
the order of capture, a push evicts the oldest frames only, and a load gives back what was pushed with the
context as it was checked at the time of the push.
-/

namespace Vantyr

namespace Spool

open Permissions RecallContext

/--
The libraries and the settings of a spool.
-/
structure Setting where
  text : JsonText
  floatSize : Nat → Nat
  writer : Writer
  maxBytes : Nat

-- A frame that was pushed, with the grants that its context was checked against.
structure Pushed where
  uid : Uuid
  frame : HistoryFrame
  grants : State

namespace Pushed

def capturedMs (p : Pushed) : Int :=
  p.frame.capturedAt / 10 ^ 6

def path (p : Pushed) : String :=
  fileName p.capturedMs p.uid.text

def context (p : Pushed) : Option Context :=
  p.frame.context.map (·.sanitizeIn p.grants p.frame.contextGenerations)

def header (setting : Setting) (p : Pushed) : FrameHeader :=
  pushedHeader setting.writer p.uid p.frame p.grants

def bytes (setting : Setting) (p : Pushed) : List UInt8 :=
  fileBytes setting.text (p.header setting) p.frame.jpeg

end Pushed

structure Spooled where
  dir : Dir
  pushed : List Pushed

def Spooled.init : Spooled := { dir := ∅, pushed := [] }

def writeBytes (setting : Setting) (dir : Dir) (p : Pushed) : Dir :=
  dir.insert p.path (.ofBytes setting.floatSize setting.text (p.bytes setting))

-- The grants are only read for a frame with a context or a generation.
def grantsFor (frame : HistoryFrame) (store : Option State) : State :=
  if frame.context.isSome ∨ frame.generation.isSome then store.getD .default else .default

namespace Spooled

-- The outcome is what `push` returns, with the last push in front.
def push (setting : Setting) (disk : Disk) (s : Spooled) (uid : Uuid) (frame : HistoryFrame)
    (store : Option State) : Except String Spooled :=
  let grants := grantsFor frame store
  if frame.generation.any (fun g => ¬(g.module = .recall ∧ g.matches grants)) then
    .error "Recall generation revoked before spool write"
  else
    let p := { uid, frame, grants }
    .ok {
      dir := enforceBudget disk setting.maxBytes (writeBytes setting s.dir p)
      pushed := p :: s.pushed
    }

end Spooled

inductive Op where
  | push (disk : Disk) (uid : Uuid) (frame : HistoryFrame) (store : Option State)
  | acknowledge (disk : Disk) (path : String)
  | load (disk : Disk) (path : String)

def Spooled.step (setting : Setting) (s : Spooled) : Op → Spooled
  | .push disk uid frame store =>
    match s.push setting disk uid frame store with
    | .error _ => s
    | .ok s => s
  | .acknowledge disk path => { s with dir := remove disk s.dir path }
  | .load _ _ => s

/-!
The files of bytes are those of the spool that sessions are proved about.
-/

theorem push_eq {setting : Setting} {disk : Disk} {s : Spooled} {uid : Uuid} {frame : HistoryFrame}
    {store : Option State}
    (hread : let p : Pushed := { uid, frame, grants := grantsFor frame store }
      readBytes setting.floatSize setting.text (p.bytes setting)
        = some { header := p.header setting, jpeg := frame.jpeg })
    (hlength : ∀ header, setting.writer.headerLen header = (setting.text.toVec header.toJson).length)
    : (s.push setting disk uid frame store).map Spooled.dir
        = Spool.push setting.writer disk setting.maxBytes s.dir uid frame store := by
  have hfile : writeBytes setting s.dir { uid, frame, grants := grantsFor frame store }
      = writeFrame setting.writer s.dir
        (pushedHeader setting.writer uid frame (grantsFor frame store)) frame.jpeg := by
    unfold writeBytes writeFrame File.ofBytes
    rw [hread, Pushed.bytes, fileBytes, Bytes.length_frame rfl, hlength]
    rfl
  have hpush : Spool.push setting.writer disk setting.maxBytes s.dir uid frame store
      = pushIn setting.writer disk setting.maxBytes s.dir uid frame (grantsFor frame store) := by
    unfold Spool.push grantsFor
    split
    . rfl
    . rfl
  rw [hpush]
  unfold Spooled.push pushIn
  dsimp only
  split
  . rfl
  . rw [hfile]
    rfl

/-!
The invariant of a run.
-/

section Invariant

variable {setting : Setting}

/--
A frame whose time of capture has a place in its name, with what the types of the source and the JSON
library say of its header, which is shorter than its length field can count.
-/
structure Pushed.Valid (setting : Setting) (p : Pushed) : Prop where
  inNames : InNames p.capturedMs
  typed : (p.header setting).Typed
  writes : setting.text.Writes (p.header setting).toJson
  length : (setting.text.toVec (p.header setting).toJson).length < 2 ^ 32

def Op.Valid (setting : Setting) : Op → Prop
  | .push _ uid frame store => Pushed.Valid setting { uid, frame, grants := grantsFor frame store }
  | .acknowledge _ _ => True
  | .load _ _ => True

-- A file has the bytes that were written the last time a frame of its name was pushed.
def Written (setting : Setting) (pushed : List Pushed) (dir : Dir) : Prop :=
  ∀ path file, dir.lookup path = some file → ∃ p, pushed.find? (fun p => p.path = path) = some p
    ∧ file = .ofBytes setting.floatSize setting.text (p.bytes setting)

structure Kept (setting : Setting) (s : Spooled) : Prop where
  written : Written setting s.pushed s.dir
  valid : ∀ p ∈ s.pushed, p.Valid setting

theorem Written.within {pushed : List Pushed} {dir dir' : Dir} (h : Written setting pushed dir')
    (hwithin : Upload.Within dir dir') : Written setting pushed dir :=
  fun path file hfile => h path file (hwithin path file hfile)

theorem Written.writeBytes {pushed : List Pushed} {dir : Dir} (h : Written setting pushed dir) (p : Pushed)
    : Written setting (p :: pushed) (writeBytes setting dir p) := by
  intro path file hfile
  unfold Spool.writeBytes at hfile
  rw [Table.lookup_insert_eq] at hfile
  split at hfile
  . next hpath =>
    rw [Option.some.injEq] at hfile
    exact ⟨p, List.find?_cons_of_pos (by simp [hpath]), hfile.symm⟩
  . next hpath =>
    rcases h path file hfile with ⟨other, hother, heq⟩
    refine ⟨other, ?_, heq⟩
    rw [List.find?_cons_of_neg (by simpa using Ne.symm hpath)]
    exact hother

-- All that a push that succeeds does.
theorem push_ok {disk : Disk} {s after : Spooled} {uid : Uuid} {frame : HistoryFrame}
    {store : Option State} (h : s.push setting disk uid frame store = .ok after)
    : after = {
        dir := enforceBudget disk setting.maxBytes
          (writeBytes setting s.dir { uid, frame, grants := grantsFor frame store })
        pushed := { uid, frame, grants := grantsFor frame store } :: s.pushed
      } := by
  unfold Spooled.push at h
  dsimp only at h
  split at h
  . cases h
  . rw [Except.ok.injEq] at h
    exact h.symm

theorem Kept.step {s : Spooled} (h : Kept setting s) {op : Op} (hop : op.Valid setting)
    : Kept setting (s.step setting op) := by
  cases op with
  | push disk uid frame store =>
    unfold Spooled.step
    dsimp only
    split
    . exact h
    . next after hpush =>
      rw [push_ok hpush]
      refine ⟨(h.written.writeBytes _).within (Upload.enforceBudget_within disk _ _), ?_⟩
      intro p hp
      rcases List.mem_cons.mp hp with rfl | hp
      . exact hop
      . exact h.valid p hp
  | acknowledge disk path =>
    exact ⟨h.written.within (Upload.remove_within disk s.dir path), h.valid⟩
  | load disk path => exact h

theorem run_kept {run : List Op} (hrun : ∀ op ∈ run, op.Valid setting)
    : Kept setting (Runs.exec (Spooled.step setting) .init run) := by
  have hadmits : Runs.Admits (Spooled.step setting) (fun _ op => op.Valid setting) .init run :=
    Runs.Admits.of_forall (fun op hop _ => hrun op hop)
  apply hadmits.exec (fun h hop => h.step hop)
  refine ⟨?_, by simp [Spooled.init]⟩
  intro path file hfile
  rw [Spooled.init, AList.lookup_empty] at hfile
  cases hfile

end Invariant

/-!
What the spool promises.
-/

def Spooled.Chronological (s : Spooled) : Prop :=
  ∀ disk limit, (pending disk s.dir limit).Pairwise (fun path path' =>
    ∀ p ∈ s.pushed, ∀ q ∈ s.pushed, p.path = path → q.path = path' → p.capturedMs ≤ q.capturedMs)

/--
Every file can be loaded. What is loaded has the bytes of the image that was pushed under its name, and
the context as it was checked by the push.
-/
def Spooled.Faithful (s : Spooled) : Prop :=
  ∀ path ∈ s.dir, ∃ p, s.pushed.find? (fun p => p.path = path) = some p
    ∧ ∀ disk : Disk, disk.readable path = true → ∃ frame, load disk s.dir path = some frame
      ∧ frame.jpeg = p.frame.jpeg
      ∧ frame.header.context = p.context.filter Context.isSupported
      ∧ frame.header.uid = p.uid.text

theorem Kept.chronological {setting : Setting} {s : Spooled} (h : Kept setting s) : s.Chronological := by
  intro disk limit
  have hsorted := (sorted_entries disk s.dir).sublist (List.take_sublist limit _)
  apply List.pairwise_map.mpr
  apply hsorted.imp
  intro entry entry' hle p hp q hq hpath hpath'
  rw [← hpath, ← hpath'] at hle
  exact fileName_le hle (h.valid p hp).inNames (h.valid q hq).inNames

theorem Kept.faithful {setting : Setting} {s : Spooled} (h : Kept setting s) : s.Faithful := by
  intro path hpath
  rcases Option.isSome_iff_exists.mp (AList.lookup_isSome.mpr hpath) with ⟨file, hfile⟩
  rcases h.written path file hfile with ⟨p, hfind, hbytes⟩
  have hvalid := h.valid p (List.mem_of_find?_eq_some hfind)
  refine ⟨p, hfind, ?_⟩
  intro disk hreadable
  have hcontext : (p.header setting).context
      = p.frame.context.map (·.sanitizeIn p.grants (p.header setting).contextGenerations) :=
    rfl
  rcases readBytes_fileBytes setting.floatSize hvalid.typed hcontext hvalid.writes hvalid.length
    p.frame.jpeg with ⟨words, hread⟩
  have hframe : file.frame = readBytes setting.floatSize setting.text (p.bytes setting) := by
    rw [hbytes]
    rfl
  refine ⟨{
    header := {
      p.header setting with
      context := (p.header setting).context.filter Context.isSupported
      ocrWords := words
    }
    jpeg := p.frame.jpeg
  }, ?_, rfl, rfl, rfl⟩
  rw [load, if_pos hreadable, hfile, Option.bind_some, hframe]
  exact hread

/--
In every run of pushes, acknowledgements and loads, what is pending is in the order of capture, and what
is loaded is what was pushed. A push that succeeds evicts the oldest frames until the others fit, and the
spool is within its budget if the operating system removes what it is told to.
-/
theorem spool_keeps {setting : Setting} {run : List Op} (hrun : ∀ op ∈ run, op.Valid setting)
    : let s := Runs.exec (Spooled.step setting) .init run
      s.Chronological ∧ s.Faithful ∧ ∀ disk uid frame store after,
        s.push setting disk uid frame store = .ok after →
        (∃ evicted, Evicts disk setting.maxBytes
          (writeBytes setting s.dir { uid, frame, grants := grantsFor frame store }) after.dir evicted)
        ∧ ((∀ path, disk.removable path = true)
          → total (entries disk after.dir) ≤ setting.maxBytes) := by
  have hkept := run_kept hrun
  refine ⟨hkept.chronological, hkept.faithful, ?_⟩
  intro disk uid frame store after hpush
  rw [push_ok hpush]
  rcases enforceBudget_evicts disk setting.maxBytes
    (writeBytes setting (Runs.exec (Spooled.step setting) .init run).dir
      { uid, frame, grants := grantsFor frame store }) with ⟨evicted, hevicts⟩
  exact ⟨⟨evicted, hevicts⟩, hevicts.total_le⟩

namespace Example

def generation : Generation := { module := .windowActivity, revision := 1 }

-- A context that was observed while the grant was there.
def observed : Context where
  version := contextVersion
  scope := contextScope
  bracketMs := 12
  monitorRelation := "unknown"
  window := {
    status := .observed
    reason := none
    source := .win32
    app := some "editor"
    title := some "Notes"
    titleTruncated := false
  }
  browser := {
    status := .notCollected
    reason := some .moduleDisabled
    source := .none
    url := none
    urlHost := none
  }
  grantRevisions := windowRevision (some 1)

def keyframe : HistoryFrame where
  generation := none
  captureDurationMs := none
  context := some observed
  contextGenerations := { windowGeneration := some generation, browserGeneration := none }
  capturedAt := 1767225600 * 10 ^ 9
  capturedAt_le := by decide
  capturedAt_lt := by decide
  monitor := 0
  width := 4
  height := 3
  phash := 0
  ocrText := none
  ocrWords := []
  jpeg := [0xff, 0xd8, 0xff, 0xd9]

def uid : Uuid := 0x3f1a9c62000040008000000000000001#128

-- The grant is gone when the frame is pushed.
def pushed : Pushed := { uid, frame := keyframe, grants := .default }

def writer : Writer where
  toRfc3339 _ := "2026-01-01T00:00:00+00:00"
  headerLen _ := 0

def header : FrameHeader := pushedHeader writer uid keyframe .default

def headerText : List String :=
  [ "\x7b\"generation\":null,\"context\":\x7b\"version\":1,\"scope\":\"session_foreground\",",
    "\"bracket_ms\":12,\"monitor_relation\":\"unknown\",\"window\":\x7b",
    "\"status\":\"not_collected\",\"reason\":\"revoked\",\"source\":\"none\",\"app\":null,",
    "\"title\":null\x7d,\"browser\":\x7b\"status\":\"not_collected\",",
    "\"reason\":\"module_disabled\",\"source\":\"none\",\"url\":null,\"url_host\":null\x7d,",
    "\"grant_revisions\":\x7b\x7d\x7d,\"context_generations\":\x7b\"window_generation\":\x7b",
    "\"module\":\"window_activity\",\"revision\":1\x7d\x7d,",
    "\"uid\":\"3f1a9c62-0000-4000-8000-000000000001\",",
    "\"captured_at\":\"2026-01-01T00:00:00+00:00\",\"captured_ms\":1767225600000,\"monitor\":0,",
    "\"w\":4,\"h\":3,\"phash\":\"0\",\"ocr_text\":null,\"ocr_words\":[]\x7d" ]

def headerBytes : List UInt8 :=
  (headerText.flatMap String.toList).map (fun c => UInt8.ofNat c.toNat)

-- The text of the one header of the example.
def text : JsonText where
  toVec value := if value = header.toJson then headerBytes else []
  fromSlice bytes := if bytes = headerBytes then some header.toJson else none

def setting : Setting where
  text := text
  floatSize _ := 24
  writer := writer
  maxBytes := 512 * 1024 * 1024

def disk : Disk where
  listed _ := true
  readable _ := true
  removable _ := true

def run : List Op := [.push disk uid keyframe none]

theorem typed_header : header.Typed where
  captureDurationMs ms hms := by cases hms
  capturedMs := by decide +kernel
  width := by decide +kernel
  height := by decide +kernel
  windowRevision g hg := by
    cases hg
    decide +kernel

theorem toVec_header : text.toVec header.toJson = headerBytes := by
  simp only [text, if_true]

theorem fromSlice_header : text.fromSlice headerBytes = some header.toJson := by
  simp only [text, if_true]

theorem mapFloats_header : header.toJson.mapFloats id = header.toJson := by
  rfl

theorem length_headerBytes : headerBytes.length = 608 := by
  decide +kernel

theorem writes_header : text.Writes header.toJson where
  size := by
    rw [toVec_header, length_headerBytes]
    decide +kernel
  readBack := ⟨id, by rw [toVec_header, fromSlice_header, mapFloats_header]⟩

theorem length_header : (text.toVec header.toJson).length < 2 ^ 32 := by
  rw [toVec_header, length_headerBytes]
  decide +kernel

theorem inNames_pushed : InNames pushed.capturedMs :=
  ⟨by decide +kernel, by decide +kernel⟩

theorem valid_pushed : pushed.Valid setting where
  inNames := inNames_pushed
  typed := typed_header
  writes := writes_header
  length := length_header

def after : Spooled where
  dir := enforceBudget disk setting.maxBytes (writeBytes setting ∅ pushed)
  pushed := [pushed]

theorem exec_run : Runs.exec (Spooled.step setting) .init run = after := by
  rfl

theorem valid_run : ∀ op ∈ run, op.Valid setting := by
  intro op hop
  rcases List.mem_singleton.mp hop with rfl
  exact valid_pushed

theorem total_file (file : File)
    : total (entries disk ((∅ : Dir).insert pushed.path file)) = file.len := by
  rfl

theorem mem_after : pushed.path ∈ after.dir := by
  have hfits : total (entries disk (writeBytes setting ∅ pushed)) ≤ setting.maxBytes := by
    have hlength := Bytes.length_frame (show magic.length = 4 from rfl) (text.toVec header.toJson)
      keyframe.jpeg
    rw [toVec_header, length_headerBytes] at hlength
    rw [writeBytes, total_file]
    change (Bytes.frame magic (text.toVec header.toJson) keyframe.jpeg).length ≤ _
    rw [toVec_header, hlength]
    decide
  rw [after, Upload.enforceBudget_eq_self hfits, writeBytes, AList.mem_insert]
  exact .inl rfl

end Example

theorem spool_keeps_keyframe : (Runs.exec (Spooled.step Example.setting) .init Example.run).Faithful :=
  (spool_keeps Example.valid_run).2.1

-- The title of the window was pushed, and is gone when the frame is loaded.
theorem revoked_context_not_loaded
    : ¬∀ (setting : Setting) (run : List Op), (∀ op ∈ run, op.Valid setting) →
        let s := Runs.exec (Spooled.step setting) .init run
        ∀ p ∈ s.pushed, ∀ disk frame, load disk s.dir p.path = some frame →
          frame.header.context = p.frame.context := by
  intro h
  have hall := h Example.setting Example.run Example.valid_run
  dsimp only at hall
  rw [Example.exec_run] at hall
  have hcontext := hall Example.pushed List.mem_cons_self Example.disk
  have hfaithful := (run_kept Example.valid_run).faithful
  rw [Example.exec_run] at hfaithful
  rcases hfaithful Example.pushed.path Example.mem_after with ⟨p, hfind, hload⟩
  have hp : p = Example.pushed := List.mem_singleton.mp (List.mem_of_find?_eq_some hfind)
  rcases hload Example.disk rfl with ⟨frame, hframe, _, hchecked, _⟩
  have htitle := congrArg (fun c => c.bind (fun c : Context => c.window.title))
    ((hcontext frame hframe).symm.trans hchecked)
  rw [hp] at htitle
  revert htitle
  decide +kernel

end Spool

end Vantyr
