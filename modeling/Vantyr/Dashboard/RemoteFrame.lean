import Vantyr.Data.Text

/-!
This module contains the live stream of a screen: the parts of a multipart response as the server writes
them (`server/src/control/live_media.rs`), and the parser of the dashboard that takes them apart again
(`frontend/src/features/remote/lib/remoteFrame.ts`) as its reader feeds it (`useMjpegFrames.ts`). What the
parser reads from the metadata of a frame is a parameter.
-/

namespace Vantyr

def Text.utf8 (text : String) : List UInt8 :=
  text.toUTF8.data.toList

open Text (utf8)

/-!
The server.
-/

namespace LiveMedia

def boundary : String := "mjpegframe"

def contentType : String := "multipart/x-mixed-replace; boundary=" ++ boundary

def partHeader (length : Nat) : String :=
  "--" ++ boundary ++ "\r\nContent-Type: image/jpeg\r\nContent-Length: " ++ length.repr ++ "\r\n\r\n"

def part (jpeg : List UInt8) : List UInt8 :=
  utf8 (partHeader jpeg.length) ++ jpeg ++ utf8 "\r\n"

end LiveMedia

/-!
The scanner for the end of a JPEG.
-/

inductive ScanPhase where
  | soiFF
  | soiD8
  | markerFF
  | marker
  | lengthHi
  | lengthLo
  | segment
  | entropy
  | entropyFF
  deriving DecidableEq, Repr

structure JpegScanner where
  phase : ScanPhase := .soiFF
  marker : UInt8 := 0
  remaining : Nat := 0
  done : Bool := false
  hasSof : Bool := false
  hasScan : Bool := false
  deriving DecidableEq, Repr

namespace JpegScanner

def sofMarkers : List UInt8 :=
  [0xc0, 0xc1, 0xc2, 0xc3, 0xc5, 0xc6, 0xc7, 0xc9, 0xca, 0xcb, 0xcd, 0xce, 0xcf]

def readMarker (s : JpegScanner) (b : UInt8) : Except String JpegScanner :=
  if b = 0xd9 then
    .ok { s with done := true }
  else if b = 0 ∨ b = 0xd8 ∨ b < 0xc0 ∧ b ≠ 1 then
    .error "Invalid JPEG marker"
  else if b = 1 ∨ 0xd0 ≤ b ∧ b ≤ 0xd7 then
    .ok { s with phase := .markerFF }
  else
    .ok { s with
      hasSof := s.hasSof || sofMarkers.contains b
      hasScan := s.hasScan || b == 0xda
      marker := b
      phase := .lengthHi
    }

def afterSegment (s : JpegScanner) : ScanPhase :=
  if s.marker = 0xda then .entropy else .markerFF

def byte (s : JpegScanner) (b : UInt8) : Except String JpegScanner :=
  if s.done then
    .error "Bytes after JPEG EOI"
  else
    match s.phase with
    | .soiFF => if b ≠ 0xff then .error "Missing JPEG SOI" else .ok { s with phase := .soiD8 }
    | .soiD8 => if b ≠ 0xd8 then .error "Missing JPEG SOI" else .ok { s with phase := .markerFF }
    | .markerFF => if b ≠ 0xff then .error "Invalid JPEG marker" else .ok { s with phase := .marker }
    | .entropy => .ok (if b = 0xff then { s with phase := .entropyFF } else s)
    | .entropyFF =>
      if b = 0 ∨ 0xd0 ≤ b ∧ b ≤ 0xd7 then
        .ok { s with phase := .entropy }
      else if b = 0xff then
        .ok s
      else
        s.readMarker b
    | .marker => if b ≠ 0xff then s.readMarker b else .ok s
    | .lengthHi => .ok { s with remaining := b.toNat * 256, phase := .lengthLo }
    | .lengthLo =>
      let remaining := s.remaining + b.toNat
      if remaining < 2 then
        .error "Invalid JPEG segment length"
      else
        .ok { s with
          remaining := remaining - 2
          phase := if remaining - 2 ≠ 0 then .segment else s.afterSegment
        }
    | .segment =>
      .ok { s with
        remaining := s.remaining - 1
        phase := if s.remaining - 1 = 0 then s.afterSegment else .segment
      }

def scan (jpeg : List UInt8) : Except String JpegScanner :=
  jpeg.foldlM byte {}

def complete (s : JpegScanner) : Bool :=
  s.done && s.hasSof && s.hasScan

-- The bytes are read to the end, which is the end of the JPEG.
def Accepts (jpeg : List UInt8) : Prop :=
  ∃ s, scan jpeg = .ok s ∧ s.complete

end JpegScanner

/-!
The boundary in the content type.
-/

namespace Multipart

-- The characters that `\s` matches, which are those that `trim` removes.
def isSpace (c : Char) : Bool :=
  0x09 ≤ c.toNat && c.toNat ≤ 0x0d
    || c.toNat = 0x20
    || c.toNat = 0xa0
    || c.toNat = 0x1680
    || 0x2000 ≤ c.toNat && c.toNat ≤ 0x200a
    || c.toNat = 0x2028
    || c.toNat = 0x2029
    || c.toNat = 0x202f
    || c.toNat = 0x205f
    || c.toNat = 0x3000
    || c.toNat = 0xfeff

def trimSpace (text : List Char) : List Char :=
  (text.dropWhile isSpace).rdropWhile isSpace

-- Beside the capital letters only the sign for kelvin has a lower case among `a` to `z`, which is a `k`.
def lower (text : List Char) : List Char :=
  text.map Text.asciiLower

/--
The parts between the semicolons that are not quoted. The expression of the source matches what is
between two gaps, and a gap that is not one semicolon makes the joined parts differ.
-/
def parameterParts : (quoted : Bool) → (part : List Char) → List Char → Option (List (List Char))
  | quoted, part, [] =>
    if quoted ∨ part = [] then none else some [part]
  | true, part, c :: cs =>
    if c = '\r' ∨ c = '\n' then none
    else parameterParts (c ≠ '"') (part ++ [c]) cs
  | false, part, c :: cs =>
    if c = '\r' ∨ c = '\n' then none
    else if c = ';' then
      if part = [] then none else (parameterParts false [] cs).map (fun parts => part :: parts)
    else parameterParts (c = '"') (part ++ [c]) cs

-- The name and the value of a parameter.
def parameter (part : List Char) : Option (List Char × List Char) :=
  let text := trimSpace part
  let name := text.takeWhile (fun c => c ≠ '=' && !isSpace c)
  match (text.drop name.length).dropWhile isSpace with
  | '=' :: rest =>
    let value := rest.dropWhile isSpace
    if name = [] then
      none
    else if value.head? = some '"' then
      if 2 ≤ value.length ∧ value.getLast? = some '"' ∧ '"' ∉ value.tail.dropLast then
        some (name, value.tail.dropLast)
      else
        none
    else if value = [] ∨ value.any (fun c => c = '"' || isSpace c) then
      none
    else
      some (name, value)
  | _ => none

def isBoundaryCharacter (c : Char) : Bool :=
  Text.isAsciiAlphanumeric c || ("'()+_,-./:=? ".toList.contains c)

def boundaryOf : Option (List Char) → List (List Char) → Except String (Option (List Char))
  | found, [] => .ok found
  | found, part :: parts =>
    match parameter part with
    | none => .error "Invalid multipart parameter"
    | some (name, value) =>
      if lower name ≠ "boundary".toList then
        boundaryOf found parts
      else if found.isSome then
        .error "Duplicate boundary"
      else
        boundaryOf (some value) parts

def multipartBoundary (contentType : String) : Except String (List Char) :=
  if 1024 < contentType.length then
    .error "Content-Type too long"
  else
    match parameterParts false [] contentType.toList with
    | some (kind :: parts) =>
      if lower (trimSpace kind) ≠ "multipart/x-mixed-replace".toList then
        .error "Invalid MJPEG Content-Type"
      else
        match boundaryOf none parts with
        | .error e => .error e
        | .ok none => .error "Invalid multipart boundary"
        | .ok (some boundary) =>
          if boundary = [] ∨ 70 < boundary.length ∨ !boundary.all isBoundaryCharacter
              ∨ boundary.getLast? = some ' ' then
            .error "Invalid multipart boundary"
          else
            .ok boundary
    | _ => .error "Invalid MJPEG Content-Type"

end Multipart

/-!
The parser.
-/

structure MultipartOptions where
  maxHeaderBytes : Option Nat := none
  maxFrameBytes : Option Nat := none
  maxQueuedFrames : Option Nat := none
  maxQueuedBytes : Option Nat := none
  allowEofAfterPart : Bool := false

inductive ParserState where
  | first
  | suffix
  | headers
  | body
  | delimiter
  | closing
  | closed
  | failed
  | cancelled
  deriving DecidableEq, Repr

structure RemoteFrame (γ : Type) where
  jpeg : List UInt8
  geometry : Option γ

/--
`headers` and `body` are the bytes that were written to the buffers of these names, without the room
that is left in them.
-/
structure MultipartJpegParser (γ : Type) where
  first : List UInt8
  delimiter : List UInt8
  maxHeader : Nat
  maxFrame : Nat
  maxQueue : Nat
  maxQueueBytes : Nat
  allowEofAfterPart : Bool
  state : ParserState := .first
  pos : Nat := 0
  suffix : List UInt8 := []
  headers : List UInt8 := []
  body : List UInt8 := []
  length : Option Nat := none
  scanner : JpegScanner := {}
  queue : List (RemoteFrame γ) := []
  queueBytes : Nat := 0

-- What one part of the headers says.
structure PartHeaders where
  seen : List (List Char) := []
  length : Option Nat := none

namespace MultipartJpegParser

open Multipart

variable {γ : Type}

def limit (v : Option Nat) (fallback : Nat) : Except String Nat :=
  let n := v.getD fallback
  if n < 1 ∨ 0x40000000 < n then .error "Invalid parser limit" else .ok n

def create (contentType : String) (options : MultipartOptions)
    : Except String (MultipartJpegParser γ) := do
  let boundary ← multipartBoundary contentType
  let b := String.ofList boundary
  let maxHeader ← limit options.maxHeaderBytes 8192
  if 65536 < maxHeader then
    .error "Header limit exceeds 64 KiB"
  else
    let maxFrame ← limit options.maxFrameBytes (8 * 1024 * 1024)
    let maxQueue ← limit options.maxQueuedFrames 4
    let maxQueueBytes ← limit options.maxQueuedBytes (16 * 1024 * 1024)
    .ok {
      first := utf8 ("--" ++ b)
      delimiter := utf8 ("\r\n--" ++ b)
      maxHeader, maxFrame, maxQueue, maxQueueBytes
      allowEofAfterPart := options.allowEofAfterPart
    }

def clear (p : MultipartJpegParser γ) : MultipartJpegParser γ :=
  { p with queue := [], queueBytes := 0, body := [], headers := [] }

-- A failure throws, and `push` clears the buffers as well.
def fail (p : MultipartJpegParser γ) : MultipartJpegParser γ :=
  { p.clear with state := .failed }

def cancel (p : MultipartJpegParser γ) : MultipartJpegParser γ :=
  { p.clear with state := .cancelled }

def takeFrame (p : MultipartJpegParser γ) : Option (RemoteFrame γ × MultipartJpegParser γ) :=
  match p.queue with
  | [] => none
  | frame :: queue =>
    some (frame, { p with queue, queueBytes := p.queueBytes - frame.jpeg.length })

/-!
The headers of a part.
-/

-- The decoder drops a byte order mark.
def decode (bytes : List UInt8) : Except String (List Char) :=
  match String.fromUTF8? ⟨bytes.toArray⟩ with
  | none => .error "The encoded data was not valid"
  | some text => .ok (if text.toList.head? = some '\ufeff' then text.toList.tail else text.toList)

def splitLines : List Char → List (List Char)
  | [] => [[]]
  | c :: cs =>
    if c = '\r' ∧ cs.head? = some '\n' then
      [] :: (splitLines cs).modifyHead List.tail
    else
      (splitLines cs).modifyHead (fun line => c :: line)

def isNameCharacter (c : Char) : Bool :=
  Text.isAsciiAlphanumeric c || c = '-'

def isBlank (c : Char) : Bool :=
  c = ' ' || c = '\t'

def isForbidden (c : Char) : Bool :=
  c.toNat = 127 || c.toNat < 32 && c ≠ '\t'

-- The name and the value of a header.
def headerOf (line : List Char) : Option (List Char × List Char) :=
  let name := line.takeWhile isNameCharacter
  match line.drop name.length with
  | ':' :: rest =>
    let value := rest.dropWhile isBlank
    if name = [] ∨ '\r' ∈ value ∨ '\n' ∈ value ∨ line.any isForbidden then none else some (name, value)
  | _ => none

def header (maxFrame : Nat) (found : PartHeaders) (line : List Char) : Except String PartHeaders :=
  match headerOf line with
  | none => .error "Invalid multipart header"
  | some (name, text) =>
    let key := lower name
    let value := trimSpace text
    if found.seen.contains key then
      .error "Duplicate multipart header"
    else if key = "content-type".toList ∧ lower value ≠ "image/jpeg".toList then
      .error "Unsupported part type"
    else if key = "content-length".toList then
      if value = [] ∨ !value.all Char.isDigit then
        .error "Invalid Content-Length"
      else
        let length := Nat.ofDigitChars 10 value 0
        if length < 4 ∨ maxFrame < length then
          .error "Content-Length exceeds frame limit"
        else
          .ok { seen := key :: found.seen, length := some length }
    else if key = "transfer-encoding".toList then
      .error "Unsupported part transfer encoding"
    else
      .ok { found with seen := key :: found.seen }

def startBody (p : MultipartJpegParser γ) : Except String (MultipartJpegParser γ) := do
  let text ← decode p.headers
  let content := if text = ['\r', '\n'] then [] else text.take (text.length - 4)
  let found ← (if content = [] then [] else splitLines content).foldlM (header p.maxFrame) {}
  .ok { p with length := found.length, headers := [], body := [], scanner := {}, state := .body }

/-!
The parser reads one byte after the other.
-/

section

variable (parseJpegGeometry : List UInt8 → Option γ)

def endBody (p : MultipartJpegParser γ) : Except String (MultipartJpegParser γ) :=
  if !p.scanner.complete then
    .error "Truncated or invalid JPEG body"
  else if p.maxQueue ≤ p.queue.length ∨ p.maxQueueBytes < p.queueBytes + p.body.length then
    .error "Frame queue limit exceeded; drain between chunks"
  else
    .ok { p with
      queue := p.queue ++ [{ jpeg := p.body, geometry := parseJpegGeometry p.body }]
      queueBytes := p.queueBytes + p.body.length
      body := []
      state := .delimiter
      pos := 0
    }

def readToken (p : MultipartJpegParser γ) (token : List UInt8) (b : UInt8)
    : Except String (MultipartJpegParser γ) :=
  if token[p.pos]? ≠ some b then
    .error "Invalid multipart delimiter"
  else if p.pos + 1 = token.length then
    .ok { p with pos := 0, suffix := [], state := .suffix }
  else
    .ok { p with pos := p.pos + 1 }

-- The headers end with an empty line.
def headersEnd (headers : List UInt8) : Bool :=
  headers = [13, 10] || [13, 10, 13, 10].isSuffixOf headers

def bodyEnds (p : MultipartJpegParser γ) : Bool :=
  match p.length with
  | some length => p.body.length = length
  | none => p.scanner.done

def byte (p : MultipartJpegParser γ) (b : UInt8) : Except String (MultipartJpegParser γ) :=
  match p.state with
  | .first => p.readToken p.first b
  | .delimiter => p.readToken p.delimiter b
  | .suffix =>
    let suffix := p.suffix ++ [b]
    if suffix.length = 1 ∧ b ≠ 13 ∧ b ≠ 45 then
      .error "Invalid boundary suffix"
    else if suffix.length = 2 then
      if suffix = [13, 10] then
        .ok { p with suffix, state := .headers, headers := [] }
      else if suffix = [45, 45] then
        .ok { p with suffix, state := .closing, pos := 0 }
      else
        .error "Invalid boundary suffix"
    else
      .ok { p with suffix }
  | .closing =>
    if [13, 10][p.pos]? ≠ some b then
      .error "Invalid closing boundary"
    else if p.pos + 1 = 2 then
      .ok { p with pos := 2, state := .closed, body := [], headers := [] }
    else
      .ok { p with pos := p.pos + 1 }
  | .closed => .error "Bytes after closing boundary"
  | .headers =>
    if p.maxHeader ≤ p.headers.length then
      .error "Multipart headers too large"
    else
      let headers := p.headers ++ [b]
      if headersEnd headers then
        startBody { p with headers }
      else
        .ok { p with headers }
  | .body =>
    if p.maxFrame ≤ p.body.length then
      .error "JPEG frame too large"
    else do
      let scanner ← p.scanner.byte b
      let read := { p with body := p.body ++ [b], scanner }
      if read.bodyEnds then
        read.endBody parseJpegGeometry
      else
        .ok read
  | .failed | .cancelled => .error "Parser is inactive"

-- The parser after the call, and the error that it throws.
def push (p : MultipartJpegParser γ) (chunk : List UInt8)
    : MultipartJpegParser γ × Option String :=
  if p.state = .failed ∨ p.state = .cancelled then
    (p, some "Parser is inactive")
  else
    match chunk.foldlM (byte parseJpegGeometry) p with
    | .ok p' => (p', none)
    | .error e => (p.fail, some e)

end

def finish (p : MultipartJpegParser γ) : MultipartJpegParser γ × Option String :=
  if p.state = .closed then
    (p, none)
  else if p.state = .closing ∧ p.pos = 0
      ∨ p.allowEofAfterPart ∧ p.state = .delimiter ∧ p.pos = 2 then
    ({ p with state := .closed, body := [], headers := [] }, none)
  else
    (p.fail, some "Truncated multipart stream")

end MultipartJpegParser

/-!
The reader of the dashboard hands the parser at most 256 bytes at once, and takes every frame that is
queued before it goes on.
-/

def readerOptions : MultipartOptions :=
  { allowEofAfterPart := true, maxQueuedFrames := some 16 }

structure StreamReader (γ : Type) where
  parser : MultipartJpegParser γ
  frames : List (RemoteFrame γ) := []
  error : Option String := none

namespace StreamReader

variable {γ : Type}

open MultipartJpegParser

-- The loop over `takeFrame`.
def drain : List (RemoteFrame γ) → MultipartJpegParser γ
    → List (RemoteFrame γ) × MultipartJpegParser γ
  | [], p => ([], p)
  | _ :: rest, p =>
    match p.takeFrame with
    | none => ([], p)
    | some (frame, p) => ((frame :: (drain rest p).1), (drain rest p).2)

variable (parseJpegGeometry : List UInt8 → Option γ)

-- The reader stops at an error and at the closing boundary.
def slice (r : StreamReader γ) (bytes : List UInt8) : StreamReader γ :=
  if r.error.isSome ∨ r.parser.state = .closed then
    r
  else
    match r.parser.push parseJpegGeometry bytes with
    | (p, some e) => { r with parser := p, error := some e }
    | (p, none) =>
      { r with frames := r.frames ++ (drain p.queue p).1, parser := (drain p.queue p).2 }

def slices : Nat → List UInt8 → List (List UInt8)
  | 0, _ => []
  | count + 1, value => value.take 256 :: slices count (value.drop 256)

def chunk (r : StreamReader γ) (value : List UInt8) : StreamReader γ :=
  (slices ((value.length + 255) / 256) value).foldl (slice parseJpegGeometry) r

def run (r : StreamReader γ) (chunks : List (List UInt8)) : StreamReader γ :=
  chunks.foldl (chunk parseJpegGeometry) r

end StreamReader

end Vantyr
