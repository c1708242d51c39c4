import Mathlib.Data.List.Sort
import Vantyr.Agent.Fence
import Vantyr.Agent.RecallContext
import Vantyr.Data.Table
import Vantyr.Data.Uuid

/-!
This module contains the spool of Recall keyframes on the disk of the agent
(`agent/src/capture/history/spool.rs`), and how a session ships them and handles the answers
(`agent/src/connection/agent_loop/history.rs`).
-/

namespace Vantyr

namespace Spool

open Permissions RecallContext

/--
A keyframe as it is captured. Its time is counted in nanoseconds, in the years 0 to 9999.
-/
structure HistoryFrame where
  generation : Option Generation
  captureDurationMs : Option Nat
  context : Option Context
  contextGenerations : Generations
  capturedAt : Int
  capturedAt_le : -62167219200 * 10 ^ 9 ≤ capturedAt
  capturedAt_lt : capturedAt < 253402300800 * 10 ^ 9
  monitor : Nat
  width : Nat
  height : Nat
  phash : Nat
  ocrText : Option String
  ocrWords : List Json
  jpeg : List UInt8

structure FrameHeader where
  generation : Option Generation
  captureDurationMs : Option Nat
  context : Option Context
  contextGenerations : Generations
  uid : String
  capturedAt : String
  capturedMs : Int
  monitor : Nat
  w : Nat
  h : Nat
  phash : String
  ocrText : Option String
  ocrWords : List Json

structure SpooledFrame where
  header : FrameHeader
  jpeg : List UInt8

/--
A file with its length and what `Spool::load` reads from its bytes.
-/
structure File where
  len : Nat
  frame : Option SpooledFrame

abbrev Dir := AList (fun _ : String => File)

/--
What the operating system lets an operation do: which files a listing shows, which it can read and
which it can remove.
-/
structure Disk where
  listed : String → Bool
  readable : String → Bool
  removable : String → Bool

def pad (width : Nat) (digits : List Char) : List Char :=
  List.replicate (width - digits.length) '0' ++ digits

def fileName (capturedMs : Int) (uid : String) : String :=
  String.ofList (pad 13 (toString capturedMs.toNat).toList ++ '-' :: (uid.toList ++ ".vrf".toList))

def load (disk : Disk) (dir : Dir) (path : String) : Option SpooledFrame :=
  if disk.readable path then
    (dir.lookup path).bind File.frame
  else
    none

-- A file that is missing is no error, and neither is one that cannot be removed.
def remove (disk : Disk) (dir : Dir) (path : String) : Dir :=
  if disk.removable path then dir.erase path else dir

def entries (disk : Disk) (dir : Dir) : List (String × Nat) :=
  ((dir.entries.filter (fun entry => disk.listed entry.1)).map
    (fun entry => (entry.1, entry.2.len))).insertionSort (fun a b => a.1 ≤ b.1)

def pending (disk : Disk) (dir : Dir) (limit : Nat) : List String :=
  ((entries disk dir).take limit).map Prod.fst

def total (files : List (String × Nat)) : Nat :=
  (files.map Prod.snd).sum

-- The files come with their lengths, the oldest first.
def evict (disk : Disk) (maxBytes : Nat) (dir : Dir) : (total : Nat) → List (String × Nat) → Dir
  | _, [] => dir
  | total, (path, len) :: files =>
    if total ≤ maxBytes then
      dir
    else
      evict disk maxBytes (remove disk dir path) (total - len) files

def enforceBudget (disk : Disk) (maxBytes : Nat) (dir : Dir) : Dir :=
  evict disk maxBytes dir (total (entries disk dir)) (entries disk dir)

/--
The libraries of a push: how times are written, and how long the header of a file is.
-/
structure Writer where
  toRfc3339 : Int → String
  headerLen : FrameHeader → Nat

def pushedHeader (writer : Writer) (uid : Uuid) (frame : HistoryFrame) (s : State) : FrameHeader where
  generation := frame.generation
  captureDurationMs := frame.captureDurationMs
  context := frame.context.map (·.sanitizeIn s frame.contextGenerations)
  contextGenerations := frame.contextGenerations
  uid := uid.text
  capturedAt := writer.toRfc3339 frame.capturedAt
  capturedMs := frame.capturedAt / 10 ^ 6
  monitor := frame.monitor
  w := frame.width
  h := frame.height
  phash := toString frame.phash
  ocrText := frame.ocrText
  ocrWords := frame.ocrWords

-- The magic and the length of the header take four bytes each.
def writeFrame (writer : Writer) (dir : Dir) (header : FrameHeader) (jpeg : List UInt8) : Dir :=
  dir.insert (fileName header.capturedMs header.uid) {
    len := 8 + writer.headerLen header + jpeg.length
    frame := some { header, jpeg }
  }

def pushIn (writer : Writer) (disk : Disk) (maxBytes : Nat) (dir : Dir) (uid : Uuid)
    (frame : HistoryFrame) (s : State) : Except String Dir :=
  if frame.generation.any (fun g => ¬(g.module = .recall ∧ g.matches s)) then
    .error "Recall generation revoked before spool write"
  else
    .ok (enforceBudget disk maxBytes
      (writeFrame writer dir (pushedHeader writer uid frame s) frame.jpeg))

def push (writer : Writer) (disk : Disk) (maxBytes : Nat) (dir : Dir) (uid : Uuid)
    (frame : HistoryFrame) (store : Option State) : Except String Dir :=
  if frame.context.isSome ∨ frame.generation.isSome then
    pushIn writer disk maxBytes dir uid frame (store.getD .default)
  else
    pushIn writer disk maxBytes dir uid frame .default

def historyMaxInFlight : Nat := 4

-- In milliseconds.
def historyAckTimeout : Nat := 90000

structure InFlightFrame where
  path : String
  sentAt : Nat
  deriving DecidableEq, Repr

abbrev InFlight := AList (fun _ : String => InFlightFrame)

-- What the writer of the session is handed for a keyframe.
structure Sent where
  generation : Option Generation
  contextGenerations : Generations
  header : Json
  jpeg : List UInt8

def uploadHeader (h : FrameHeader) : Json :=
  .object [
    ("capture_duration_ms", h.captureDurationMs.elim .null .ofNat),
    ("captured_at", .string h.capturedAt),
    ("context", h.context.elim .null Context.toJson),
    ("h", .ofNat h.h),
    ("monitor", .ofNat h.monitor),
    ("ocr_text", h.ocrText.elim .null .string),
    ("ocr_words", if h.ocrWords.isEmpty then .null else .array h.ocrWords),
    ("phash", .string h.phash),
    ("uid", .string h.uid),
    ("w", .ofNat h.w)
  ]

def FrameHeader.sanitize (h : FrameHeader) (store : Option State) : FrameHeader :=
  { h with context := h.context.map (·.sanitizeIn (store.getD .default) h.contextGenerations) }

def SpooledFrame.toSend (frame : SpooledFrame) (store : Option State) : Sent where
  generation := frame.header.generation
  contextGenerations := frame.header.contextGenerations
  header := uploadHeader (frame.header.sanitize store)
  jpeg := frame.jpeg

def FrameHeader.valid (h : FrameHeader) (store : Option State) : Bool :=
  h.generation.any (·.validFresh store)

/--
A sweep of the spool that is under way: the files that were on the wire when it began, and those it
still has to look at.
-/
structure Sweep where
  busy : List String
  rest : List String

/--
A session of the agent with what outlives it: the spool and the grants. `sweep` stands for where the
session is in `pump_history_spool`, which waits for its turn to send while captures go on.
-/
structure Session where
  dir : Dir
  store : Option State
  inFlight : InFlight
  sweep : Option Sweep

namespace Session

def beginPump (a : Session) (disk : Disk) (now : Nat) (allowed : Bool) : Session :=
  if !allowed then
    a
  else
    let inFlight := Table.retain (fun _ f => now - f.sentAt < historyAckTimeout) a.inFlight
    if historyMaxInFlight ≤ inFlight.entries.length then
      { a with inFlight }
    else
      let sweep := {
        busy := (Table.values inFlight).map InFlightFrame.path
        rest := pending disk a.dir (historyMaxInFlight * 8)
      }
      { a with inFlight, sweep := some sweep }

-- One round of the loop over the files, and what it sends.
def pumpNext (a : Session) (disk : Disk) (now : Nat) (sweep : Sweep) : Session × Option Sent :=
  match sweep.rest with
  | [] => ({ a with sweep := none }, none)
  | path :: rest =>
    if historyMaxInFlight ≤ a.inFlight.entries.length then
      ({ a with sweep := none }, none)
    else
      let a := { a with sweep := some { sweep with rest } }
      if path ∈ sweep.busy then
        (a, none)
      else
        match load disk a.dir path with
        | none => ({ a with dir := remove disk a.dir path }, none)
        | some frame =>
          if !frame.header.valid a.store then
            ({ a with dir := remove disk a.dir path }, none)
          else
            let inFlight := a.inFlight.insert frame.header.uid { path, sentAt := now }
            ({ a with inFlight }, some (frame.toSend a.store))

def handleHistoryAck (a : Session) (disk : Disk) (val : Json) : Session × Bool :=
  if val.kind ≠ "history_frame_ack" then
    (a, false)
  else
    match (val.field "uid").asStr with
    | none => (a, true)
    | some uid =>
      match a.inFlight.lookup uid with
      | none => (a, true)
      | some f =>
        ({ a with inFlight := a.inFlight.erase uid, dir := remove disk a.dir f.path }, true)

-- A new session knows nothing of what an earlier one has sent.
def restart (a : Session) : Session :=
  { a with inFlight := ∅, sweep := none }

end Session

end Spool

end Vantyr
