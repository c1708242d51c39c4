import Vantyr.Data.Bytes
import Vantyr.Data.Text
import Vantyr.Data.Uuid
import Vantyr.Protocol.Commands

/-!
This module contains how the server takes in the keyframes of an agent
(`server/src/agent_ws/history_ingest.rs`): the binary frame, the row that it becomes
(`server/src/recall/db/frames.rs`) and the answer to the agent.
-/

namespace Vantyr

namespace Recall

-- `HST\0`.
def historyFrameMagic : List UInt8 := [72, 83, 84, 0]

def maxHistoryJpegBytes : Nat := 2 * 1024 * 1024

-- Reading a number of four bytes out of eight or more cannot fail.
def parseHistoryFrameBinary (fromSlice : List UInt8 → Option Json) (frame : List UInt8)
    : Except String (Json × List UInt8) :=
  if frame.length < 8 then
    .error "truncated header"
  else if frame.take 4 ≠ historyFrameMagic then
    .error "bad magic"
  else
    match Bytes.readU32le ((frame.take 8).drop 4) with
    | none => .error "truncated header"
    | some hlen =>
      match Bytes.slice? frame 8 (8 + hlen) with
      | none => .error "bad header length"
      | some header =>
        match fromSlice header with
        | none => .error "bad header JSON"
        | some val => .ok (val, frame.drop (8 + hlen))

namespace HistoryFrameAck

def accepted (uid : String) : Json :=
  .object [("type", .string "history_frame_ack"), ("uid", .string uid)]

def rejected (uid reason : String) : Json :=
  .object [
    ("reason", .string reason),
    ("rejected", .bool true),
    ("type", .string "history_frame_ack"),
    ("uid", .string uid)
  ]

end HistoryFrameAck

def ackHistoryFrame (val : Json) (reason : Option String) : Option Json :=
  match (val.field "uid").asStr with
  | none => none
  | some uid =>
    if uid.isEmpty then
      none
    else
      some (reason.elim (HistoryFrameAck.accepted uid) (HistoryFrameAck.rejected uid))

/--
A row of `screen_frames` by its key, with the bytes that its blob holds. The database counts time in
microseconds from the year 2000 on.
-/
structure ScreenFrame where
  agentId : Uuid
  capturedAt : Int
  clientUid : Option Uuid
  jpeg : List UInt8
  deriving DecidableEq, Repr

def pgTimestamp (time : Int) : Int :=
  (time - 946684800 * 10 ^ 9).tdiv 1000

-- Two rows without a client id never conflict.
def ScreenFrame.conflicts (a b : ScreenFrame) : Bool :=
  a.agentId = b.agentId ∧ a.capturedAt = b.capturedAt ∧ a.clientUid = b.clientUid
    ∧ a.clientUid.isSome

def insertScreenFrame (rows : List ScreenFrame) (row : ScreenFrame) : List ScreenFrame :=
  if rows.any (·.conflicts row) then rows else rows ++ [row]

inductive BlobWrite where
  | ok
  | failed
  | panicked
  deriving DecidableEq, Repr

/--
What the rest of the server does while a keyframe is stored: the clock, the file system, whether the
connection is still the agent's, and whether the database answers.
-/
structure Ingestion where
  now : Int
  blob : BlobWrite
  granted : Bool
  database : Bool

def storeHistoryFrame (parseFromRfc3339 : String → Option Int) (agentId : Uuid) (i : Ingestion)
    (rows : List ScreenFrame) (val : Json) (jpeg : List UInt8) : List ScreenFrame × Option Json :=
  let parsedAt := (val.field "captured_at").asStr.bind parseFromRfc3339
  let clientUid := (val.field "uid").asStr.bind (fun s => Uuid.parse (Text.trim s))
  if !(val.field "context").isNull ∧ (parsedAt.isNone ∨ clientUid.isNone) then
    (rows, ackHistoryFrame val (some "invalid frame identity"))
  else
    match i.blob with
    | .failed => (rows, ackHistoryFrame val (some "blob write failed"))
    | .panicked => (rows, ackHistoryFrame val (some "blob write panicked"))
    | .ok =>
      if !i.granted ∨ !i.database then
        (rows, none)
      else
        let row := { agentId, capturedAt := pgTimestamp (parsedAt.getD i.now), clientUid, jpeg }
        (insertScreenFrame rows row, ackHistoryFrame val none)

def ingestHistoryFrame (parseFromRfc3339 : String → Option Int) (agentId : Uuid) (i : Ingestion)
    (rows : List ScreenFrame) (val : Json) (jpeg : List UInt8) : List ScreenFrame × Option Json :=
  if jpeg.isEmpty then
    (rows, ackHistoryFrame val (some "empty jpeg"))
  else if maxHistoryJpegBytes < jpeg.length then
    (rows, ackHistoryFrame val (some "jpeg too large"))
  else
    storeHistoryFrame parseFromRfc3339 agentId i rows val jpeg

end Recall

end Vantyr
