import Mathlib.Logic.Function.Basic
import Vantyr.Agent.Permissions
import Vantyr.Data.Base64
import Vantyr.Data.Table
import Vantyr.Data.Text

/-!
This module contains the two file transfers of the agent, `read_file` and `write_file_chunk` in
`agent/src/commands/files/transfer.rs`.
-/

namespace Vantyr

namespace FileTransfer

open Permissions

def remoteFileChunkBytes : Nat := 3 * 1024 * 1024

def maxFilePathChars : Nat := 2048

@[irreducible]
def clip (text : String) (limit : Nat) : String :=
  String.ofList ((Text.trim text).toList.take limit)

/-!
Downloads.
-/

structure FileChunk where
  path : String
  data : String
  chunkIndex : Nat
  totalChunks : Nat
  isError : Bool
  deriving DecidableEq, Repr

def sendChunk (path : String) (chunkIndex totalChunks : Nat) : Except String String → FileChunk
  | .ok data => { path, data, chunkIndex, totalChunks, isError := false }
  | .error message => { path, data := message, chunkIndex, totalChunks, isError := true }

def totalChunks (fileLen : Nat) : Nat :=
  if fileLen = 0 then 1 else (fileLen + remoteFileChunkBytes - 1) / remoteFileChunkBytes

-- What each call of `read` gives. No bytes are the end of the file.
def readLoop (path : String) (total : Nat) : (idx : Nat) → List (Except String (List UInt8)) → List FileChunk
  | _, [] => []
  | idx, .error e :: _ => [sendChunk path idx total (.error e)]
  | _, .ok [] :: _ => []
  | idx, .ok (b :: bytes) :: reads =>
    sendChunk path idx total (.ok (Base64.encode (b :: bytes))) :: readLoop path total (idx + 1) reads

-- The chunks that are sent. `fileLen` and `opened` are what the operating system answers.
def readFile (cmdPath : String) (fileLen : Except String Nat) (opened : Except String Unit)
    (reads : List (Except String (List UInt8))) : List FileChunk :=
  let path := clip cmdPath maxFilePathChars
  match fileLen, opened with
  | .error e, _ => [sendChunk path 0 1 (.error e)]
  | .ok _, .error e => [sendChunk path 0 1 (.error e)]
  | .ok fileLen, .ok _ =>
    if fileLen = 0 then
      [sendChunk path 0 1 (.ok "")]
    else
      readLoop path (totalChunks fileLen) 0 reads

/-!
Uploads.
-/

structure WriteFileChunk where
  path : String
  totalChunks : Option Nat
  chunkIndex : Option Nat
  data : String
  deriving DecidableEq, Repr

structure FileUploadSession where
  nextExpectedChunk : Nat
  totalChunks : Nat
  bytesWritten : Nat
  generation : Option Generation
  deriving DecidableEq, Repr

-- How the write of a chunk ends. If writing fails, a part of the bytes may have been written.
inductive Write where
  | openFails (error : String)
  | writeFails (written : Nat) (error : String)
  | syncFails (error : String)
  | succeeds
  deriving DecidableEq, Repr

structure Device where
  sessions : AList (fun _ : String => FileUploadSession)
  files : String → Option (List UInt8)

-- A chunk that was written.
structure Accepted where
  path : String
  index : Nat
  total : Nat
  generation : Option Generation
  bytes : List UInt8
  deriving DecidableEq, Repr

-- `done` tells that it was the last one.
inductive Outcome where
  | refused (path : String) (error : String)
  | accepted (chunk : Accepted) (done : Bool)
  deriving DecidableEq, Repr

structure FileUploadResult where
  path : String
  ok : Bool
  error : String
  deriving DecidableEq, Repr

def Outcome.result : Outcome → Option FileUploadResult
  | .refused path error => some { path, ok := false, error }
  | .accepted chunk true => some { path := chunk.path, ok := true, error := "" }
  | .accepted _ false => none

def Outcome.chunk : Outcome → Option Accepted
  | .refused _ _ => none
  | .accepted chunk _ => some chunk

namespace Device

def removeSession (d : Device) (path : String) : Device :=
  { d with sessions := d.sessions.erase path }

def writeFile (d : Device) (path : String) (content : List UInt8) : Device :=
  { d with files := Function.update d.files path (some content) }

-- What a write does to the file that had the content `base`.
def performWrite (d : Device) (path : String) (base bytes : List UInt8) : Write → Except String Unit × Device
  | .openFails error => (.error error, d)
  | .writeFails written error => (.error error, d.writeFile path (base ++ bytes.take written))
  | .syncFails error => (.error error, d.writeFile path (base ++ bytes))
  | .succeeds => (.ok (), d.writeFile path (base ++ bytes))

-- The first chunk truncates the file, the others are appended to it.
def writeChunk (d : Device) (path : String) (index : Nat) (bytes : List UInt8) (fresh : Bool)
    (write : Write) : Except String Unit × Device :=
  if !fresh then
    (.error "stale file generation", d)
  else if index = 0 then
    d.performWrite path [] bytes write
  else
    match d.files path with
    | none => (.error "No such file or directory", d)
    | some content => d.performWrite path content bytes write

def continueUpload (d : Device) (path : String) (session : FileUploadSession) (index : Nat)
    (bytes : List UInt8) (fresh : Bool) (write : Write) : Outcome × Device :=
  match d.writeChunk path index bytes fresh write with
  | (.error error, d) => (.refused path error, d.removeSession path)
  | (.ok _, d) =>
    let chunk := {
      path, index, total := session.totalChunks, generation := session.generation, bytes
    }
    let bytesWritten := min (session.bytesWritten + bytes.length) (2 ^ 64 - 1)
    if index + 1 = session.totalChunks then
      (.accepted chunk true, d.removeSession path)
    else
      let next := { session with bytesWritten, nextExpectedChunk := index + 1 }
      (.accepted chunk false, { d with sessions := d.sessions.insert path next })

end Device

-- `STANDARD.decode` of the library.
variable (decode : String → Except String (List UInt8))

namespace Device

def openSession (d : Device) (path : String) (index total : Nat) (generation : Option Generation) : Device :=
  if index = 0 then
    { d with sessions := d.sessions.insert path ⟨0, total, 0, generation⟩ }
  else
    d

-- `fresh` tells whether the generation is still valid at the time of the write.
def writeFileChunk (d : Device) (cmd : WriteFileChunk) (generation : Option Generation) (fresh : Bool)
    (write : Write) : Outcome × Device :=
  let path := clip cmd.path maxFilePathChars
  let total := cmd.totalChunks.getD 0
  let index := cmd.chunkIndex.getD 0
  if path = "" ∨ total = 0 ∨ total ≤ index then
    (.refused path "invalid upload parameters", d)
  else
    match decode cmd.data with
    | .error e => (.refused path ("base64 decode: " ++ e), d.removeSession path)
    | .ok bytes =>
      let d := d.openSession path index total generation
      match d.sessions.lookup path with
      | none => (.refused path "missing upload session; send chunk 0 first", d)
      | some session =>
        if session.nextExpectedChunk = index ∧ session.totalChunks = total
            ∧ session.generation = generation then
          d.continueUpload path session index bytes (generation.isSome && fresh) write
        else
          (.refused path "upload chunk out of sequence or total mismatch", d.removeSession path)

end Device

end FileTransfer

end Vantyr
