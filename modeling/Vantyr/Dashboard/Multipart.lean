import Vantyr.Dashboard.RemoteFrame

/-!
This module contains the way of one part of the live stream through the parser of the dashboard: what the
server writes for a JPEG is read back as this JPEG, from the boundary before it to the line after it.
-/

namespace Vantyr

open Text (utf8)

namespace Text

theorem utf8_append (a b : String) : utf8 (a ++ b) = utf8 a ++ utf8 b := by
  simp [utf8, String.toByteArray_append]

theorem utf8_ofList (cs : List Char) : utf8 (String.ofList cs) = cs.flatMap String.utf8EncodeChar := by
  simp [utf8, List.utf8Encode]

theorem utf8_ascii {cs : List Char} (h : ∀ c ∈ cs, c.toNat < 128)
    : utf8 (String.ofList cs) = cs.map (fun c => c.toNat.toUInt8) := by
  rw [utf8_ofList]
  induction cs with
  | nil => rfl
  | cons c cs ih =>
    have hsize : c.utf8Size = 1 := by
      have := h c List.mem_cons_self
      rw [Char.utf8Size_eq_one_iff]
      exact UInt32.le_iff_toNat_le.mpr (by change c.toNat ≤ 127; omega)
    rw [List.flatMap_cons, ih (fun d hd => h d (List.mem_cons_of_mem _ hd)), String.utf8EncodeChar_eq_singleton hsize]
    rfl

end Text

open Multipart

namespace MultipartJpegParser

theorem decode_utf8 (text : String) (h : text.toList.head? ≠ some '\ufeff')
    : decode (utf8 text) = .ok text.toList := by
  have hbytes : (⟨(utf8 text).toArray⟩ : ByteArray) = text.toByteArray := by
    simp [utf8]
  unfold decode
  rw [hbytes, String.fromUTF8?, dif_pos text.isValidUTF8]
  change Except.ok (if text.toList.head? = some '\ufeff' then _ else text.toList) = _
  rw [if_neg h]

theorem splitLines_of_not_mem {line : List Char} (h : '\r' ∉ line) : splitLines line = [line] := by
  induction line with
  | nil => rfl
  | cons c cs ih =>
    rw [List.mem_cons, not_or] at h
    rw [splitLines, if_neg (fun hc => h.1 hc.1.symm), ih h.2]
    rfl

theorem splitLines_append {line : List Char} (h : '\r' ∉ line) (rest : List Char)
    : splitLines (line ++ '\r' :: '\n' :: rest) = line :: splitLines rest := by
  induction line with
  | nil =>
    simp [splitLines]
    cases splitLines rest <;> rfl
  | cons c cs ih =>
    rw [List.mem_cons, not_or] at h
    rw [List.cons_append, splitLines, if_neg (fun hc => h.1 hc.1.symm), ih h.2]
    rfl

theorem toNat_digit {n : Nat} {c : Char} (h : c ∈ Nat.toDigits 10 n)
    : 48 ≤ c.toNat ∧ c.toNat ≤ 57 := by
  have hdigit := Nat.isDigit_of_mem_toDigits (by decide) (by decide) h
  simp [Char.isDigit, UInt32.le_iff_toNat_le] at hdigit
  exact hdigit

theorem isSpace_digit {c : Char} (h : 48 ≤ c.toNat ∧ c.toNat ≤ 57) : isSpace c = false := by
  simp [isSpace]
  omega

theorem trimSpace_eq_self {text : List Char} (h : ∀ c ∈ text, isSpace c = false)
    : trimSpace text = text :=
  Strip.strip_eq_self h

-- The headers that the server writes.
def headerText (length : Nat) : List Char :=
  "Content-Type: image/jpeg\r\nContent-Length: ".toList ++ Nat.toDigits 10 length
    ++ ['\r', '\n', '\r', '\n']

theorem headerOf_length (n : Nat)
    : headerOf ("Content-Length: ".toList ++ Nat.toDigits 10 n)
      = some ("Content-Length".toList, Nat.toDigits 10 n) := by
  have hdigits : ∀ c ∈ Nat.toDigits 10 n, 48 ≤ c.toNat ∧ c.toNat ≤ 57 := fun c hc => toNat_digit hc
  have hblank : (Nat.toDigits 10 n).dropWhile isBlank = Nat.toDigits 10 n := by
    generalize Nat.toDigits 10 n = ds at hdigits ⊢
    cases ds with
    | nil => rfl
    | cons c cs =>
      have := hdigits c List.mem_cons_self
      have hblank : isBlank c = false := by
        rw [isBlank, Bool.or_eq_false_iff, decide_eq_false_iff_not, decide_eq_false_iff_not]
        constructor <;> (rintro rfl; revert this; decide)
      rw [List.dropWhile_cons_of_neg (by simp [hblank])]
  have hr : '\r' ∉ Nat.toDigits 10 n := fun hmem => absurd (hdigits _ hmem) (by decide)
  have hn : '\n' ∉ Nat.toDigits 10 n := fun hmem => absurd (hdigits _ hmem) (by decide)
  have hforbidden : (Nat.toDigits 10 n).any isForbidden = false := by
    rw [List.any_eq_false]
    intro c hc
    have := hdigits c hc
    simp [isForbidden]
    omega
  have htake : ("Content-Length: ".toList ++ Nat.toDigits 10 n).takeWhile isNameCharacter
      = "Content-Length".toList := by
    rfl
  unfold headerOf
  rw [htake]
  simp [hblank, hr, hn, hforbidden, isBlank, isForbidden]

theorem header_type (maxFrame : Nat)
    : header maxFrame {} "Content-Type: image/jpeg".toList
      = .ok { seen := ["content-type".toList], length := none } := by
  rfl

theorem header_length {maxFrame n : Nat} (hmin : 4 ≤ n) (hmax : n ≤ maxFrame)
    : header maxFrame { seen := ["content-type".toList], length := none }
        ("Content-Length: ".toList ++ Nat.toDigits 10 n)
      = .ok { seen := ["content-length".toList, "content-type".toList], length := some n } := by
  have hspace : ∀ c ∈ Nat.toDigits 10 n, isSpace c = false :=
    fun c hc => isSpace_digit (toNat_digit hc)
  have hall : (Nat.toDigits 10 n).all Char.isDigit = true := by
    rw [List.all_eq_true]
    exact fun c hc => Nat.isDigit_of_mem_toDigits (by decide) (by decide) hc
  have hkey : lower "Content-Length".toList = "content-length".toList := by decide
  unfold header
  rw [headerOf_length]
  dsimp only
  rw [hkey, trimSpace_eq_self hspace, hall, Nat.ofDigitChars_ten_toDigits]
  have h4 : ¬ n < 4 := by omega
  have hn : ¬ maxFrame < n := by omega
  simp [Nat.toDigits_ne_nil, h4, hn]

variable {γ : Type}

theorem head?_headerText (n : Nat) : (headerText n).head? = some 'C' :=
  rfl

theorem startBody_headerText (p : MultipartJpegParser γ) {n : Nat}
    (hheaders : p.headers = utf8 (String.ofList (headerText n))) (hmin : 4 ≤ n) (hmax : n ≤ p.maxFrame)
    : startBody p
      = .ok { p with
          length := some n, headers := [], body := [], scanner := {}, state := .body } := by
  have hdecode : decode p.headers = .ok (headerText n) := by
    rw [hheaders, decode_utf8, String.toList_ofList]
    rw [String.toList_ofList, head?_headerText]
    decide
  have hne : headerText n ≠ ['\r', '\n'] := by
    intro heq
    have hhead := head?_headerText n
    rw [heq] at hhead
    cases hhead
  have htake : (headerText n).take ((headerText n).length - 4)
      = "Content-Type: image/jpeg".toList ++ '\r' :: '\n'
        :: ("Content-Length: ".toList ++ Nat.toDigits 10 n) := by
    unfold headerText
    rw [List.length_append, Nat.add_sub_assoc (by decide)]
    simp
  have hr : '\r' ∉ "Content-Length: ".toList ++ Nat.toDigits 10 n := by
    rw [List.mem_append, not_or]
    exact ⟨by decide, fun hmem => absurd (toNat_digit hmem) (by decide)⟩
  have hlines : splitLines ("Content-Type: image/jpeg".toList ++ '\r' :: '\n'
        :: ("Content-Length: ".toList ++ Nat.toDigits 10 n))
      = ["Content-Type: image/jpeg".toList, "Content-Length: ".toList ++ Nat.toDigits 10 n] := by
    rw [splitLines_append (by decide), splitLines_of_not_mem hr]
  unfold startBody
  rw [hdecode]
  simp only [bind, Except.bind, if_neg hne, htake, hlines]
  rw [if_neg (by simp), List.foldlM_cons, header_type]
  simp only [bind, Except.bind, List.foldlM_cons, header_length hmin hmax, List.foldlM_nil, pure,
    Except.pure]


theorem partHeader_eq (n : Nat)
    : LiveMedia.partHeader n = "--mjpegframe" ++ "\r\n" ++ String.ofList (headerText n) := by
  have htext : "\r\nContent-Type: image/jpeg\r\nContent-Length: "
      = "\r\n" ++ "Content-Type: image/jpeg\r\nContent-Length: " := by
    decide
  have hboundary : "--mjpegframe" = "--" ++ LiveMedia.boundary := by
    decide
  unfold LiveMedia.partHeader headerText
  rw [htext, hboundary, String.ofList_append, String.ofList_append, String.ofList_toList,
    ← Nat.repr_eq_ofList_toDigits]
  simp only [String.append_assoc]

theorem part_eq (jpeg : List UInt8)
    : LiveMedia.part jpeg = utf8 "--mjpegframe" ++ ([13, 10]
        ++ (utf8 (String.ofList (headerText jpeg.length)) ++ (jpeg ++ [13, 10]))) := by
  have hcrlf : utf8 "\r\n" = [13, 10] := by
    decide
  unfold LiveMedia.part
  rw [partHeader_eq, Text.utf8_append, Text.utf8_append, List.append_assoc, List.append_assoc,
    List.append_assoc, hcrlf]

/-!
The parser whose frames are taken after each byte.
-/

section

variable (g : List UInt8 → Option γ)

structure Drained (p : MultipartJpegParser γ) : Prop where
  queue : p.queue = []
  queueBytes : p.queueBytes = 0

def drained (p : MultipartJpegParser γ) : MultipartJpegParser γ :=
  { p with queue := [], queueBytes := 0 }

def advance (acc : MultipartJpegParser γ × List (RemoteFrame γ)) (b : UInt8)
    : Except String (MultipartJpegParser γ × List (RemoteFrame γ)) :=
  match acc.1.byte g b with
  | .error e => .error e
  | .ok p => .ok (p.drained, acc.2 ++ p.queue)

def Runs (p : MultipartJpegParser γ) (bytes : List UInt8) (p' : MultipartJpegParser γ)
    (frames : List (RemoteFrame γ)) : Prop :=
  ∀ out, bytes.foldlM (advance g) (p, out) = .ok (p', out ++ frames)

variable {g} {p p' p'' : MultipartJpegParser γ} {bytes bytes' : List UInt8}
  {frames frames' : List (RemoteFrame γ)}

theorem Runs.nil (p : MultipartJpegParser γ) : Runs g p [] p [] := by
  intro out
  rw [List.append_nil]
  rfl

theorem Runs.append (h : Runs g p bytes p' frames)
    (h' : Runs g p' bytes' p'' frames')
    : Runs g p (bytes ++ bytes') p'' (frames ++ frames') := by
  intro out
  rw [List.foldlM_append, h out]
  simp only [bind, Except.bind]
  rw [h' (out ++ frames), List.append_assoc]

theorem Runs.byte {b : UInt8} (h : p.byte g b = .ok p') (hp : Drained p')
    : Runs g p [b] p' [] := by
  intro out
  have hdrained : p'.drained = p' := by
    unfold drained
    rw [← hp.queue, ← hp.queueBytes]
  rw [List.foldlM_cons, advance, h]
  simp only [bind, Except.bind, List.foldlM_nil, pure, Except.pure]
  rw [hdrained, hp.queue]

theorem Runs.emit {b : UInt8} (h : p.byte g b = .ok p')
    : Runs g p [b] p'.drained p'.queue := by
  intro out
  rw [List.foldlM_cons, advance, h]
  rfl

theorem Runs.cons {b : UInt8} (h : p.byte g b = .ok p') (hp : Drained p')
    (h' : Runs g p' bytes p'' frames)
    : Runs g p (b :: bytes) p'' frames :=
  (Runs.byte h hp).append h'


/-!
One part.
-/

-- The bytes that come before the suffix of a boundary.
inductive Reads (p : MultipartJpegParser γ) : List UInt8 → Prop where
  | first : p.state = .first → Reads p p.first
  | delimiter : p.state = .delimiter → Reads p p.delimiter

theorem Reads.byte_eq {token : List UInt8} (h : Reads p token) (b : UInt8)
    : p.byte g b = p.readToken token b := by
  cases h with
  | first h => unfold MultipartJpegParser.byte; rw [h]
  | delimiter h => unfold MultipartJpegParser.byte; rw [h]

theorem Reads.move {token : List UInt8} (h : Reads p token) (pos : Nat)
    : Reads { p with pos } token := by
  cases h with
  | first h => exact .first h
  | delimiter h => exact .delimiter h

theorem Drained.of_eq (h : Drained p) (hq : p'.queue = p.queue) (hb : p'.queueBytes = p.queueBytes)
    : Drained p' :=
  ⟨hq.trans h.queue, hb.trans h.queueBytes⟩

theorem runs_token {token : List UInt8} (hreads : Reads p token) (hp : Drained p)
    (hrest : token.drop p.pos = bytes) (hne : bytes ≠ [])
    : Runs g p bytes { p with pos := 0, suffix := [], state := .suffix } [] := by
  induction bytes generalizing p with
  | nil => exact absurd rfl hne
  | cons b rest ih =>
    have hget : token[p.pos]? = some b := by
      rw [← List.head?_drop, hrest]
      rfl
    have hlt := (List.getElem?_eq_some_iff.mp hget).1
    have hdrop : token.drop (p.pos + 1) = rest := by
      rw [← List.drop_drop, hrest]
      rfl
    have hbyte := hreads.byte_eq (g := g) b
    rw [readToken, if_neg (not_not.mpr hget)] at hbyte
    by_cases hend : rest = []
    . rw [if_pos (by rw [hend, List.drop_eq_nil_iff] at hdrop; omega)] at hbyte
      rw [hend]
      exact Runs.byte hbyte (hp.of_eq rfl rfl)
    . rw [if_neg (fun heq => hend (by rw [← hdrop, heq, List.drop_length]))] at hbyte
      have hp' : Drained { p with pos := p.pos + 1 } := hp.of_eq rfl rfl
      exact Runs.cons hbyte hp' (ih (hreads.move _) hp' hdrop hend)

theorem runs_suffix (hstate : p.state = .suffix) (hsuffix : p.suffix = []) (hp : Drained p)
    : Runs g p [13, 10]
        { p with suffix := [13, 10], state := .headers, headers := [] } [] := by
  have h1 : p.byte g 13 = .ok { p with suffix := [13] } := by
    unfold MultipartJpegParser.byte
    rw [hstate]
    simp [hsuffix]
  have h2 : MultipartJpegParser.byte g { p with suffix := [13] } 10
      = .ok { p with suffix := [13, 10], state := .headers, headers := [] } := by
    unfold MultipartJpegParser.byte
    rw [hstate]
    simp
  exact Runs.cons h1 (hp.of_eq rfl rfl) (Runs.byte h2 (hp.of_eq rfl rfl))

-- Bytes of the headers after which these do not end yet.
theorem runs_headers (bytes : List UInt8) (hstate : p.state = .headers) (hp : Drained p)
    (hroom : p.headers.length + bytes.length ≤ p.maxHeader)
    (hopen : ∀ k < bytes.length, headersEnd (p.headers ++ bytes.take (k + 1)) = false)
    : Runs g p bytes { p with headers := p.headers ++ bytes } [] := by
  induction bytes generalizing p with
  | nil =>
    rw [List.append_nil]
    exact Runs.nil p
  | cons b rest ih =>
    rw [List.length_cons] at hroom
    have hbyte : p.byte g b = .ok { p with headers := p.headers ++ [b] } := by
      have hend := hopen 0 (by simp)
      rw [List.take_succ_cons, List.take_zero] at hend
      unfold MultipartJpegParser.byte
      rw [hstate]
      dsimp only
      rw [if_neg (by omega), hend]
      rfl
    have hp' : Drained { p with headers := p.headers ++ [b] } := hp.of_eq rfl rfl
    have hrun := ih (p := { p with headers := p.headers ++ [b] }) hstate hp'
      (by simp only [List.length_append, List.length_singleton]; omega)
      (by
        intro k hk
        have := hopen (k + 1) (by rw [List.length_cons]; omega)
        rwa [List.take_succ_cons, ← List.singleton_append, ← List.append_assoc] at this)
    have happend : p.headers ++ [b] ++ rest = p.headers ++ b :: rest := by
      simp
    rw [← happend]
    exact Runs.cons hbyte hp' hrun

theorem runs_headersEnd (hstate : p.state = .headers) {b : UInt8}
    (hroom : p.headers.length < p.maxHeader) (hend : headersEnd (p.headers ++ [b]) = true)
    (hstart : startBody { p with headers := p.headers ++ [b] } = .ok p') (hp' : Drained p')
    : Runs g p [b] p' [] := by
  refine Runs.byte ?_ hp'
  unfold MultipartJpegParser.byte
  rw [hstate]
  dsimp only
  rw [if_neg (by omega), if_pos hend, ← hstart, hstate]

-- The body but for its last byte.
theorem runs_body {n : Nat} {s : JpegScanner} (hstate : p.state = .body) (hp : Drained p)
    (hlength : p.length = some n) (hmax : n ≤ p.maxFrame) (hroom : p.body.length + bytes.length < n)
    (hscan : bytes.foldlM JpegScanner.byte p.scanner = .ok s)
    : Runs g p bytes { p with body := p.body ++ bytes, scanner := s } [] := by
  induction bytes generalizing p with
  | nil =>
    cases hscan
    rw [List.append_nil]
    exact Runs.nil p
  | cons b rest ih =>
    rw [List.length_cons] at hroom
    rw [List.foldlM_cons] at hscan
    cases hb : p.scanner.byte b with
    | error e =>
      rw [hb] at hscan
      cases hscan
    | ok s' =>
      rw [hb] at hscan
      have hbyte : p.byte g b
          = .ok { p with body := p.body ++ [b], scanner := s' } := by
        unfold MultipartJpegParser.byte
        rw [hstate]
        dsimp only
        rw [if_neg (by omega), hb]
        simp only [bind, Except.bind, bodyEnds, hlength]
        rw [if_neg]
        simp
        omega
      have hp' : Drained { p with body := p.body ++ [b], scanner := s' } := hp.of_eq rfl rfl
      have hrun := ih (p := { p with body := p.body ++ [b], scanner := s' }) hstate hp' hlength hmax
        (by simp only [List.length_append, List.length_singleton]; omega) hscan
      have happend : p.body ++ [b] ++ rest = p.body ++ b :: rest := by
        simp
      rw [← happend]
      exact Runs.cons hbyte hp' hrun

-- The parser of the live stream.
structure Live (p : MultipartJpegParser γ) : Prop where
  first : p.first = utf8 "--mjpegframe"
  delimiter : p.delimiter = utf8 "\r\n--mjpegframe"
  maxHeader : p.maxHeader = 8192
  maxFrame : p.maxFrame = 8 * 1024 * 1024
  maxQueue : p.maxQueue = 16
  maxQueueBytes : p.maxQueueBytes = 16 * 1024 * 1024
  allowEofAfterPart : p.allowEofAfterPart = true

theorem runs_lastByte {jpeg : List UInt8} {b : UInt8} {s : JpegScanner} (hlive : Live p)
    (hstate : p.state = .body) (hp : Drained p) (hlength : p.length = some jpeg.length)
    (hmax : jpeg.length ≤ p.maxFrame) (hbody : p.body ++ [b] = jpeg) (hscan : p.scanner.byte b = .ok s)
    (hcomplete : s.complete = true)
    : Runs g p [b]
        { p with scanner := s, body := [], state := .delimiter, pos := 0 }
        [{ jpeg, geometry := g jpeg }] := by
  have hlt : p.body.length < jpeg.length := by
    rw [← hbody]
    simp
  have hbytes : jpeg.length ≤ p.maxQueueBytes := by
    rw [hlive.maxFrame] at hmax
    rw [hlive.maxQueueBytes]
    omega
  have hbyte : p.byte g b
      = .ok { p with
          scanner := s
          queue := [{ jpeg, geometry := g jpeg }]
          queueBytes := jpeg.length
          body := []
          state := .delimiter
          pos := 0
        } := by
    unfold MultipartJpegParser.byte
    rw [hstate]
    dsimp only
    rw [if_neg (by omega), hscan]
    simp only [bind, Except.bind, bodyEnds, hlength, hbody]
    rw [if_pos (by simp), endBody]
    simp only [hcomplete, hp.queue, hp.queueBytes, hlive.maxQueue]
    rw [if_neg (by simp), if_neg (by simp; omega)]
    simp
  have hemit := Runs.emit hbyte
  have hdrained : ({ p with scanner := s, body := [], state := .delimiter, pos := 0 })
      = MultipartJpegParser.drained { p with
          scanner := s
          queue := [{ jpeg, geometry := g jpeg }]
          queueBytes := jpeg.length
          body := []
          state := .delimiter
          pos := 0
        } := by
    unfold drained
    rw [← hp.queue, ← hp.queueBytes]
  rw [hdrained]
  exact hemit

theorem runs_afterPart (hlive : Live p) (hstate : p.state = .delimiter) (hpos : p.pos = 0)
    (hp : Drained p) : Runs g p [13, 10] { p with pos := 2 } [] := by
  have hreads := Reads.delimiter hstate
  have h1 : p.byte g 13 = .ok { p with pos := 1 } := by
    rw [hreads.byte_eq, readToken, hpos, hlive.delimiter]
    rfl
  have h2 : MultipartJpegParser.byte g { p with pos := 1 } 10
      = .ok { p with pos := 2 } := by
    rw [(hreads.move 1).byte_eq, readToken, hlive.delimiter]
    rfl
  exact Runs.cons h1 (hp.of_eq rfl rfl) (Runs.byte h2 (hp.of_eq rfl rfl))

-- What comes next is the boundary of a part.
structure Ready (p : MultipartJpegParser γ) : Prop where
  live : Live p
  drained : Drained p
  boundary : ∃ token, Reads p token ∧ token.drop p.pos = utf8 "--mjpegframe"

theorem Ready.ofDelimiter (hlive : Live p) (hp : Drained p) (hstate : p.state = .delimiter)
    (hpos : p.pos = 2) : Ready p where
  live := hlive
  drained := hp
  boundary := ⟨p.delimiter, .delimiter hstate, by rw [hlive.delimiter, hpos]; decide⟩

theorem headersEnd_append_of_ne (headers : List UInt8) {b : UInt8} (h : b ≠ 10)
    : headersEnd (headers ++ [b]) = false := by
  have hsuffix : [13, 10, 13, 10].isSuffixOf (headers ++ [b]) = false := by
    rw [List.isSuffixOf, List.reverse_append]
    simp [List.isPrefixOf, Ne.symm h]
  have hne : headers ++ [b] ≠ [13, 10] := by
    intro heq
    have := congrArg List.getLast? heq
    rw [List.getLast?_append_of_ne_nil _ (by simp)] at this
    simp at this
    exact h this
  rw [headersEnd, hsuffix, Bool.or_false, decide_eq_false_iff_not]
  exact hne

theorem headersEnd_line (headers : List UInt8) {b : UInt8} (h : b ≠ 10)
    : headersEnd (headers ++ [b] ++ [13, 10]) = false := by
  have hsuffix : [13, 10, 13, 10].isSuffixOf (headers ++ [b] ++ [13, 10]) = false := by
    rw [List.isSuffixOf, List.reverse_append, List.reverse_append]
    simp [List.isPrefixOf, Ne.symm h]
  have hne : headers ++ [b] ++ [13, 10] ≠ [13, 10] := by
    intro heq
    have := congrArg List.length heq
    simp at this
  rw [headersEnd, hsuffix, Bool.or_false, decide_eq_false_iff_not]
  exact hne

def headerStart : List UInt8 :=
  utf8 "Content-Type: image/jpeg\r\nContent-Length: "

def digitBytes (n : Nat) : List UInt8 :=
  (Nat.toDigits 10 n).map (fun c => c.toNat.toUInt8)

theorem utf8_headerText (n : Nat)
    : utf8 (String.ofList (headerText n)) = headerStart ++ digitBytes n ++ [13, 10, 13] ++ [10] := by
  have hdigits : utf8 (String.ofList (Nat.toDigits 10 n)) = digitBytes n :=
    Text.utf8_ascii (fun c hc => Nat.lt_of_le_of_lt (toNat_digit hc).2 (by decide))
  have hend : utf8 (String.ofList ['\r', '\n', '\r', '\n']) = [13, 10, 13] ++ [10] := by
    decide
  unfold headerText
  rw [String.ofList_append, String.ofList_append, String.ofList_toList, Text.utf8_append,
    Text.utf8_append, hdigits, hend, ← List.append_assoc]
  rfl

theorem ne_of_mem_digitBytes {n : Nat} {b : UInt8} (h : b ∈ digitBytes n) : b ≠ 10 := by
  rcases List.mem_map.mp h with ⟨c, hc, rfl⟩
  have hdigit := toNat_digit hc
  intro heq
  have := congrArg UInt8.toNat heq
  simp at this
  omega

theorem digitBytes_eq_append (n : Nat) : ∃ ds b, digitBytes n = ds ++ [b] ∧ b ≠ 10 := by
  have hne : digitBytes n ≠ [] := by
    simp [digitBytes, Nat.toDigits_ne_nil]
  refine ⟨(digitBytes n).dropLast, (digitBytes n).getLast hne, ?_, ?_⟩
  . exact (List.dropLast_append_getLast hne).symm
  . exact ne_of_mem_digitBytes (List.getLast_mem hne)

theorem length_digitBytes {n : Nat} (h : n ≤ 8 * 1024 * 1024) : (digitBytes n).length ≤ 7 := by
  rw [digitBytes, List.length_map, Nat.length_toDigits_le_iff (by decide) (by decide)]
  omega

-- No prefix of the headers that the server writes ends with an empty line.
theorem runs_openHeaders (hlive : Live p) (hstate : p.state = .headers) (hheaders : p.headers = [])
    (hp : Drained p) {n : Nat} (hn : n ≤ 8 * 1024 * 1024)
    : Runs g p (headerStart ++ digitBytes n ++ [13, 10, 13])
        { p with headers := headerStart ++ digitBytes n ++ [13, 10, 13] } [] := by
  have hstart : headerStart.length = 42 := by
    decide
  have hlength := length_digitBytes hn
  have h1 : Runs g p headerStart { p with headers := headerStart } [] := by
    have := runs_headers (g := g) headerStart hstate hp
      (by rw [hheaders, hlive.maxHeader, hstart]; decide)
      (by rw [hheaders, hstart]; decide +kernel)
    rwa [hheaders, List.nil_append] at this
  have h2 := runs_headers (g := g) (digitBytes n)
    (p := { p with headers := headerStart }) hstate (hp.of_eq rfl rfl)
    (by dsimp only; rw [hlive.maxHeader, hstart]; omega)
    (by
      intro k hk
      dsimp only
      rw [List.take_succ_eq_append_getElem hk, ← List.append_assoc]
      exact headersEnd_append_of_ne _ (ne_of_mem_digitBytes (List.getElem_mem hk)))
  have h3 := runs_headers (g := g) [13, 10, 13]
    (p := { p with headers := headerStart ++ digitBytes n }) hstate (hp.of_eq rfl rfl)
    (by
      dsimp only
      rw [hlive.maxHeader, List.length_append, hstart]
      simp only [List.length_cons, List.length_nil]
      omega)
    (by
      rcases digitBytes_eq_append n with ⟨ds, b, heq, hb⟩
      intro k hk
      dsimp only
      match k, hk with
      | 0, _ => exact headersEnd_append_of_ne _ (by decide)
      | 1, _ =>
        rw [heq, ← List.append_assoc]
        exact headersEnd_line _ hb
      | 2, _ =>
        have hlast : ([13, 10, 13] : List UInt8) = [13, 10] ++ [13] := rfl
        rw [List.take_of_length_le (by simp), hlast, ← List.append_assoc]
        exact headersEnd_append_of_ne _ (by decide))
  exact (h1.append h2).append h3

/-!
A part, from the boundary before it to the end of the line after it.
-/

def config (p : MultipartJpegParser γ) : MultipartJpegParser γ :=
  { first := p.first
    delimiter := p.delimiter
    maxHeader := p.maxHeader
    maxFrame := p.maxFrame
    maxQueue := p.maxQueue
    maxQueueBytes := p.maxQueueBytes
    allowEofAfterPart := p.allowEofAfterPart }

theorem Live.of_config (h : Live p) (hconfig : p'.config = p.config) : Live p' where
  first := (congrArg (fun q => q.first) hconfig).trans h.first
  delimiter := (congrArg (fun q => q.delimiter) hconfig).trans h.delimiter
  maxHeader := (congrArg (fun q => q.maxHeader) hconfig).trans h.maxHeader
  maxFrame := (congrArg (fun q => q.maxFrame) hconfig).trans h.maxFrame
  maxQueue := (congrArg (fun q => q.maxQueue) hconfig).trans h.maxQueue
  maxQueueBytes := (congrArg (fun q => q.maxQueueBytes) hconfig).trans h.maxQueueBytes
  allowEofAfterPart := (congrArg (fun q => q.allowEofAfterPart) hconfig).trans h.allowEofAfterPart

-- The parser that begins to read a body of this length.
structure AtBody (n : Nat) (p : MultipartJpegParser γ) : Prop where
  live : Live p
  drained : Drained p
  state : p.state = .body
  length : p.length = some n
  body : p.body = []
  scanner : p.scanner = {}

theorem runs_partHeaders (hready : Ready p) {n : Nat} (hmin : 4 ≤ n) (hmax : n ≤ 8 * 1024 * 1024)
    : ∃ p', Runs g p
        (utf8 "--mjpegframe" ++ ([13, 10] ++ utf8 (String.ofList (headerText n)))) p' []
      ∧ AtBody n p' := by
  rcases hready.boundary with ⟨token, hreads, hdrop⟩
  have hlive := hready.live
  have hp := hready.drained
  let atHeaders := { p with pos := 0, suffix := [13, 10], state := .headers, headers := [] }
  have htoken := runs_token (g := g) hreads hp hdrop (by decide)
  have hsuffix : Runs g { p with pos := 0, suffix := [], state := .suffix } [13, 10]
      atHeaders [] :=
    runs_suffix rfl rfl (hp.of_eq rfl rfl)
  have hopen : Runs g atHeaders (headerStart ++ digitBytes n ++ [13, 10, 13])
      { atHeaders with headers := headerStart ++ digitBytes n ++ [13, 10, 13] } [] :=
    runs_openHeaders (p := atHeaders) (hlive.of_config rfl) rfl rfl (hp.of_eq rfl rfl) hmax
  have hstart := startBody_headerText
    { atHeaders with headers := headerStart ++ digitBytes n ++ [13, 10, 13] ++ [10] }
    (utf8_headerText n).symm hmin (hmax.trans_eq hlive.maxFrame.symm)
  have hempty := runs_headersEnd (g := g)
    (p := { atHeaders with headers := headerStart ++ digitBytes n ++ [13, 10, 13] }) (b := 10) rfl
    (by
      have hlength := length_digitBytes hmax
      have hheader : headerStart.length = 42 := by decide
      have hroom : p.maxHeader = 8192 := hlive.maxHeader
      simp only [atHeaders, List.length_append, List.length_cons, List.length_nil]
      omega)
    (by simp [headersEnd, List.isSuffixOf, List.isPrefixOf]) hstart (hp.of_eq rfl rfl)
  have hrun := htoken.append (hsuffix.append (hopen.append hempty))
  rw [← utf8_headerText] at hrun
  exact ⟨_, hrun, ⟨hlive.of_config rfl, hp.of_eq rfl rfl, rfl, rfl, rfl, rfl⟩⟩

theorem runs_jpeg {jpeg : List UInt8} (hat : AtBody jpeg.length p)
    (haccepts : JpegScanner.Accepts jpeg) (hne : jpeg ≠ []) (hmax : jpeg.length ≤ 8 * 1024 * 1024)
    : ∃ p', Runs g p jpeg p' [{ jpeg, geometry := g jpeg }]
      ∧ Live p' ∧ Drained p' ∧ p'.state = .delimiter ∧ p'.pos = 0 := by
  rcases haccepts with ⟨s, hscan, hcomplete⟩
  have hsplit := List.dropLast_append_getLast hne
  have hlast : ∃ s', jpeg.dropLast.foldlM JpegScanner.byte {} = .ok s'
      ∧ s'.byte (jpeg.getLast hne) = .ok s := by
    rw [JpegScanner.scan, ← hsplit, List.foldlM_append] at hscan
    cases hs' : jpeg.dropLast.foldlM JpegScanner.byte {} with
    | error e =>
      rw [hs'] at hscan
      cases hscan
    | ok s' =>
      refine ⟨s', rfl, ?_⟩
      rw [hs'] at hscan
      cases hb : s'.byte (jpeg.getLast hne) with
      | error e =>
        simp [bind, Except.bind, hb] at hscan
      | ok s'' =>
        simp [bind, Except.bind, pure, Except.pure, hb] at hscan
        rw [hscan]
  rcases hlast with ⟨s', hscan', hbyte⟩
  have hframe : jpeg.length ≤ p.maxFrame := hmax.trans_eq hat.live.maxFrame.symm
  have hlength : jpeg.dropLast.length < jpeg.length := by
    have := List.length_pos_iff.mpr hne
    rw [List.length_dropLast]
    omega
  have hroom : p.body.length + jpeg.dropLast.length < jpeg.length := by
    rw [hat.body, List.length_nil, Nat.zero_add]
    exact hlength
  rw [← hat.scanner] at hscan'
  have hbody := runs_body (g := g) hat.state hat.drained hat.length
    hframe hroom hscan'
  have hend := runs_lastByte (g := g)
    (p := { p with body := p.body ++ jpeg.dropLast, scanner := s' }) (hat.live.of_config rfl)
    hat.state (hat.drained.of_eq rfl rfl) hat.length hframe
    (by rw [hat.body, List.nil_append]; exact hsplit) hbyte hcomplete
  have hrun := hbody.append hend
  rw [hsplit, List.nil_append] at hrun
  exact ⟨_, hrun, hat.live.of_config rfl, hat.drained.of_eq rfl rfl, rfl, rfl⟩

theorem runs_part (hready : Ready p) {jpeg : List UInt8} (haccepts : JpegScanner.Accepts jpeg)
    (hmin : 4 ≤ jpeg.length) (hmax : jpeg.length ≤ 8 * 1024 * 1024)
    : ∃ p', Runs g p (LiveMedia.part jpeg) p'
        [{ jpeg, geometry := g jpeg }]
      ∧ Ready p' ∧ p'.state = .delimiter ∧ p'.pos = 2 := by
  have hne : jpeg ≠ [] := by
    intro heq
    rw [heq] at hmin
    simp at hmin
  rcases runs_partHeaders (g := g) hready hmin hmax
    with ⟨p1, hheaders, hat⟩
  rcases runs_jpeg (g := g) hat haccepts hne hmax
    with ⟨p2, hjpeg, hlive, hp, hstate, hpos⟩
  have hafter := runs_afterPart (g := g) hlive hstate hpos hp
  refine ⟨{ p2 with pos := 2 }, ?_,
    Ready.ofDelimiter (hlive.of_config rfl) (hp.of_eq rfl rfl) hstate rfl, hstate, rfl⟩
  have hrun := hheaders.append (hjpeg.append hafter)
  rw [part_eq]
  simpa only [List.append_assoc, List.nil_append, List.append_nil] using hrun

theorem runs_parts (hready : Ready p) (jpegs : List (List UInt8))
    (hjpegs : ∀ jpeg ∈ jpegs, JpegScanner.Accepts jpeg ∧ 4 ≤ jpeg.length
      ∧ jpeg.length ≤ 8 * 1024 * 1024)
    : ∃ p', Runs g p (jpegs.flatMap LiveMedia.part) p'
        (jpegs.map (fun jpeg => { jpeg, geometry := g jpeg }))
      ∧ Ready p' ∧ (jpegs ≠ [] → p'.state = .delimiter ∧ p'.pos = 2) := by
  induction jpegs generalizing p with
  | nil => exact ⟨p, Runs.nil p, hready, fun h => absurd rfl h⟩
  | cons jpeg rest ih =>
    rw [List.forall_mem_cons] at hjpegs
    rcases hjpegs with ⟨⟨haccepts, hmin, hmax⟩, hrest⟩
    rcases runs_part (g := g) hready haccepts hmin hmax
      with ⟨p1, hpart, hready1, hend⟩
    rcases ih hready1 hrest with ⟨p2, hparts, hready2, hend2⟩
    refine ⟨p2, hpart.append hparts, hready2, fun _ => ?_⟩
    cases rest with
    | nil =>
      have heq := hparts []
      cases heq
      exact hend
    | cons other rest => exact hend2 (List.cons_ne_nil _ _)

end

end MultipartJpegParser

end Vantyr
