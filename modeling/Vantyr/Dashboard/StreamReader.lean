import Mathlib.Algebra.Ring.Nat
import Vantyr.Dashboard.Multipart

/-!
This module contains the reader of the live stream: what one byte can do to the parser, why the queue
never overflows in a slice of 256 bytes, and what the reader gets from the stream of the server and from
any other.
-/

namespace Vantyr

open Text (utf8)

open Multipart

namespace MultipartJpegParser

variable {γ : Type}

section

variable {g : List UInt8 → Option γ} {p p' p'' : MultipartJpegParser γ} {bytes bytes' : List UInt8}
  {frames frames' : List (RemoteFrame γ)}

/-!
What one byte can do.
-/

-- How far the parser has come since the last frame; it takes at least 17 bytes to the next one.
def progress (p : MultipartJpegParser γ) : Nat :=
  match p.state with
  | .first => 13
  | .delimiter => min p.pos 13
  | .suffix => 14 + min p.suffix.length 1
  | .body => 17
  | _ => 16

structure Quiet (p : MultipartJpegParser γ) (b : UInt8) (p' : MultipartJpegParser γ) : Prop where
  config : p'.config = p.config
  queue : p'.queue = p.queue
  queueBytes : p'.queueBytes = p.queueBytes
  active : p'.state ≠ .failed ∧ p'.state ≠ .cancelled
  body : p'.state = .body → p'.body = [] ∧ p'.scanner = {}
    ∨ p.state = .body ∧ p'.body = p.body ++ [b] ∧ p.scanner.byte b = .ok p'.scanner
  length : p'.body.length ≤ p.body.length + 1
  progress : p.delimiter.length = 14 → p'.progress ≤ p.progress + 1

-- The parser after the last byte of a body.
def emitted (g : List UInt8 → Option γ) (p : MultipartJpegParser γ) (b : UInt8)
    (s : JpegScanner) : MultipartJpegParser γ :=
  { p with
    scanner := s
    queue := p.queue
      ++ [{ jpeg := p.body ++ [b], geometry := g (p.body ++ [b]) }]
    queueBytes := p.queueBytes + (p.body ++ [b]).length
    body := []
    state := .delimiter
    pos := 0 }

theorem readToken_quiet {token : List UInt8} {b : UInt8} (hreads : Reads p token)
    (h : p.readToken token b = .ok p') : Quiet p b p' := by
  unfold readToken at h
  split at h
  . cases h
  . split at h
    . next hend =>
      cases h
      refine ⟨rfl, rfl, rfl, ⟨by simp, by simp⟩, fun hbody => (by cases hbody), by simp, ?_⟩
      intro hlength
      cases hreads with
      | first hstate => simp [progress, hstate]
      | delimiter hstate =>
        simp [progress, hstate]
        omega
    . cases h
      have hstate : p.state ≠ .failed ∧ p.state ≠ .cancelled ∧ p.state ≠ .body := by
        cases hreads with
        | first hstate => simp [hstate]
        | delimiter hstate => simp [hstate]
      refine ⟨rfl, rfl, rfl, ⟨hstate.1, hstate.2.1⟩, fun hbody => absurd hbody hstate.2.2,
        by simp, ?_⟩
      intro hlength
      cases hreads with
      | first hstate => simp [progress, hstate]
      | delimiter hstate =>
        simp [progress, hstate]
        omega

theorem startBody_ok (h : startBody p = .ok p')
    : ∃ length, p' = { p with length, headers := [], body := [], scanner := {}, state := .body } := by
  unfold startBody at h
  cases hdecode : decode p.headers with
  | error e =>
    rw [hdecode] at h
    cases h
  | ok text =>
    rw [hdecode] at h
    simp only [bind, Except.bind] at h
    split at h
    . cases h
    . cases h
      exact ⟨_, rfl⟩

/--
A byte is read without a frame, or it is the last byte of a frame.
-/
theorem byte_cases {b : UInt8} (h : p.byte g b = .ok p')
    : Quiet p b p'
      ∨ p.state = .body ∧ ∃ s, p.scanner.byte b = .ok s ∧ s.complete ∧ p.body.length < p.maxFrame
        ∧ p' = p.emitted g b s := by
  unfold MultipartJpegParser.byte at h
  split at h
  . next hstate => exact .inl (readToken_quiet (.first hstate) h)
  . next hstate => exact .inl (readToken_quiet (.delimiter hstate) h)
  . next hstate =>
    left
    dsimp only at h
    split at h
    . cases h
    . split at h
      . next hlength =>
        have hone : p.suffix.length = 1 := by
          rw [List.length_append, List.length_singleton] at hlength
          omega
        split at h
        . cases h
          exact ⟨rfl, rfl, rfl, ⟨by simp, by simp⟩, fun hbody => (by cases hbody), by simp,
            fun _ => by simp [progress, hstate, hone]⟩
        . split at h
          . cases h
            exact ⟨rfl, rfl, rfl, ⟨by simp, by simp⟩, fun hbody => (by cases hbody), by simp,
              fun _ => by simp [progress, hstate, hone]⟩
          . cases h
      . cases h
        refine ⟨rfl, rfl, rfl, ⟨by simp [hstate], by simp [hstate]⟩,
          fun hbody => (by rw [hstate] at hbody; cases hbody), by simp, fun _ => ?_⟩
        simp [progress, hstate]
  . next hstate =>
    left
    split at h
    . cases h
    . split at h
      . cases h
        exact ⟨rfl, rfl, rfl, ⟨by simp, by simp⟩, fun hbody => (by cases hbody), by simp,
          fun _ => by simp [progress, hstate]⟩
      . cases h
        exact ⟨rfl, rfl, rfl, ⟨by simp [hstate], by simp [hstate]⟩,
          fun hbody => (by rw [hstate] at hbody; cases hbody), by simp,
          fun _ => by simp [progress, hstate]⟩
  . cases h
  . next hstate =>
    left
    split at h
    . cases h
    . dsimp only at h
      split at h
      . rcases startBody_ok h with ⟨length, rfl⟩
        exact ⟨rfl, rfl, rfl, ⟨by simp, by simp⟩, fun _ => .inl ⟨rfl, rfl⟩, by simp,
          fun _ => by simp [progress, hstate]⟩
      . cases h
        exact ⟨rfl, rfl, rfl, ⟨by simp [hstate], by simp [hstate]⟩,
          fun hbody => (by rw [hstate] at hbody; cases hbody), by simp,
          fun _ => by simp [progress, hstate]⟩
  . next hstate =>
    split at h
    . cases h
    . next hroom =>
      cases hs : p.scanner.byte b with
      | error e => simp [bind, Except.bind, hs] at h
      | ok s =>
        rw [hs] at h
        simp only [bind, Except.bind] at h
        split at h
        . unfold endBody at h
          split at h
          . cases h
          . next hcomplete =>
            split at h
            . cases h
            . cases h
              exact .inr ⟨hstate, s, rfl, by simpa using hcomplete, by omega, rfl⟩
        . cases h
          exact .inl ⟨rfl, rfl, rfl, ⟨by simp [hstate], by simp [hstate]⟩,
            fun _ => .inr ⟨hstate, rfl, hs⟩, by simp, fun _ => by simp [progress, hstate]⟩
  . cases h
  . cases h

/-!
Frames that wait in the queue until the end of a slice.
-/

def size (frames : List (RemoteFrame γ)) : Nat :=
  (frames.map (fun frame => frame.jpeg.length)).sum

def withQueue (p : MultipartJpegParser γ) (out : List (RemoteFrame γ)) : MultipartJpegParser γ :=
  { p with queue := out, queueBytes := size out }

-- After `n` bytes of a slice there is room for another frame.
structure Room (p : MultipartJpegParser γ) (out : List (RemoteFrame γ)) (n : Nat) : Prop where
  count : 17 * out.length + p.progress ≤ n + 17
  bytes : out ≠ [] → size out + p.body.length ≤ p.maxFrame + n

theorem size_append (out : List (RemoteFrame γ)) (frame : RemoteFrame γ)
    : size (out ++ [frame]) = size out + frame.jpeg.length := by
  simp [size]

theorem progress_le (p : MultipartJpegParser γ) : p.progress ≤ 17 := by
  unfold progress
  split <;> omega

theorem Room.start (p : MultipartJpegParser γ) : Room p [] 0 where
  count := by simpa using p.progress_le
  bytes := fun h => absurd rfl h

theorem readToken_withQueue (hp : Drained p) (out : List (RemoteFrame γ)) (token : List UInt8)
    (b : UInt8)
    : (p.withQueue out).readToken token b
      = (p.readToken token b).map (fun q => q.drained.withQueue (out ++ q.queue)) := by
  unfold readToken
  change (if token[p.pos]? ≠ some b then _ else if p.pos + 1 = token.length then _ else _) = _
  split
  . rfl
  . split <;> simp [Except.map, hp.queue, withQueue, drained]

theorem startBody_withQueue (hp : Drained p) (out : List (RemoteFrame γ))
    : startBody (p.withQueue out)
      = (startBody p).map (fun q => q.drained.withQueue (out ++ q.queue)) := by
  unfold startBody
  change (do
    let text ← decode p.headers
    _) = _
  cases decode p.headers with
  | error e => rfl
  | ok text =>
    simp only [bind, Except.bind]
    rw [show (p.withQueue out).maxFrame = p.maxFrame from rfl]
    split
    . rfl
    . simp [Except.map, hp.queue, withQueue, drained]

theorem endBody_withQueue (hp : Drained p) (out : List (RemoteFrame γ))
    (hcount : out.length < p.maxQueue) (hbytes : size out + p.body.length ≤ p.maxQueueBytes)
    : (p.withQueue out).endBody g
      = (p.endBody g).map (fun q => q.drained.withQueue (out ++ q.queue)) := by
  have hfull : ¬ (p.maxQueue ≤ out.length ∨ p.maxQueueBytes < size out + p.body.length) := by
    omega
  have hempty : ¬ (p.maxQueue ≤ p.queue.length ∨ p.maxQueueBytes < p.queueBytes + p.body.length) := by
    rw [hp.queue, hp.queueBytes, List.length_nil]
    omega
  unfold endBody
  change (if !p.scanner.complete then _
    else if p.maxQueue ≤ out.length ∨ p.maxQueueBytes < size out + p.body.length then _ else _) = _
  rw [if_neg hfull, if_neg hempty]
  split
  . rfl
  . simp [Except.map, hp.queue, withQueue, drained, size_append]

/--
In a slice the frames that were not taken yet change nothing but the queue.
-/
theorem byte_withQueue (hp : Drained p) {out : List (RemoteFrame γ)}
    (hroom : p.state = .body → p.body.length < p.maxFrame
      → out.length < p.maxQueue ∧ size out + (p.body.length + 1) ≤ p.maxQueueBytes) (b : UInt8)
    : (p.withQueue out).byte g b
      = (p.byte g b).map (fun q => q.drained.withQueue (out ++ q.queue)) := by
  cases hstate : p.state with
  | first =>
    rw [(Reads.first (p := p.withQueue out) hstate).byte_eq, (Reads.first hstate).byte_eq]
    exact readToken_withQueue hp out _ b
  | delimiter =>
    rw [(Reads.delimiter (p := p.withQueue out) hstate).byte_eq, (Reads.delimiter hstate).byte_eq]
    exact readToken_withQueue hp out _ b
  | suffix =>
    unfold MultipartJpegParser.byte
    rw [show (p.withQueue out).state = .suffix from hstate, hstate]
    dsimp only
    change (if (p.suffix ++ [b]).length = 1 ∧ b ≠ 13 ∧ b ≠ 45 then _
      else if (p.suffix ++ [b]).length = 2 then
        if p.suffix ++ [b] = [13, 10] then _ else if p.suffix ++ [b] = [45, 45] then _ else _
      else _) = _
    by_cases h1 : (p.suffix ++ [b]).length = 1 ∧ b ≠ 13 ∧ b ≠ 45
    . rw [if_pos h1, if_pos h1]
      rfl
    . rw [if_neg h1, if_neg h1]
      by_cases h2 : (p.suffix ++ [b]).length = 2
      . rw [if_pos h2, if_pos h2]
        by_cases h3 : p.suffix ++ [b] = [13, 10]
        . rw [if_pos h3, if_pos h3]
          simp [Except.map, hp.queue, withQueue, drained]
        . rw [if_neg h3, if_neg h3]
          by_cases h4 : p.suffix ++ [b] = [45, 45]
          . rw [if_pos h4, if_pos h4]
            simp [Except.map, hp.queue, withQueue, drained]
          . rw [if_neg h4, if_neg h4]
            rfl
      . rw [if_neg h2, if_neg h2]
        simp [Except.map, hp.queue, withQueue, drained]
  | closing =>
    unfold MultipartJpegParser.byte
    rw [show (p.withQueue out).state = .closing from hstate, hstate]
    dsimp only
    change (if [13, 10][p.pos]? ≠ some b then _ else if p.pos + 1 = 2 then _ else _) = _
    split
    . rfl
    . split
      . simp [Except.map, hp.queue, withQueue, drained]
      . simp [Except.map, hp.queue, withQueue, drained]
  | headers =>
    unfold MultipartJpegParser.byte
    rw [show (p.withQueue out).state = .headers from hstate, hstate]
    dsimp only
    change (if p.maxHeader ≤ p.headers.length then _
      else if headersEnd (p.headers ++ [b]) then _ else _) = _
    split
    . rfl
    . split
      . exact startBody_withQueue (p := { p with headers := p.headers ++ [b] }) (hp.of_eq rfl rfl) out
      . simp [Except.map, hp.queue, withQueue, drained]
  | body =>
    unfold MultipartJpegParser.byte
    rw [show (p.withQueue out).state = .body from hstate, hstate]
    dsimp only
    change (if p.maxFrame ≤ p.body.length then _ else _) = _
    split
    . rfl
    . next hframe =>
      rcases hroom hstate (by omega) with ⟨hcount, hbytes⟩
      cases hs : p.scanner.byte b with
      | error e =>
        rw [show (p.withQueue out).scanner.byte b = .error e from hs]
        rfl
      | ok s =>
        rw [show (p.withQueue out).scanner.byte b = .ok s from hs]
        simp only [bind, Except.bind]
        change (if bodyEnds { p with state := .body, body := p.body ++ [b], scanner := s } then _
          else _) = _
        by_cases hends : bodyEnds { p with state := .body, body := p.body ++ [b], scanner := s } = true
        . rw [if_pos hends, if_pos hends]
          exact endBody_withQueue
            (p := { p with state := .body, body := p.body ++ [b], scanner := s })
            (hp.of_eq rfl rfl) out hcount (by simpa using hbytes)
        . rw [if_neg hends, if_neg hends]
          simp [Except.map, hp.queue, withQueue, drained]
  | closed | failed | cancelled =>
    unfold MultipartJpegParser.byte
    rw [show (p.withQueue out).state = _ from hstate, hstate]
    rfl

theorem Live.drained (h : Live p) : Live p.drained :=
  h.of_config rfl

theorem advance_ok {out frames : List (RemoteFrame γ)} {b : UInt8}
    (h : advance g (p, out) b = .ok (p', frames))
    : ∃ q, p.byte g b = .ok q ∧ p' = q.drained ∧ frames = out ++ q.queue := by
  unfold advance at h
  split at h
  . cases h
  . next q hbyte =>
    cases h
    exact ⟨q, hbyte, rfl, rfl⟩

-- Room for another frame, from one byte of the slice to the next.
theorem Room.advance (hlive : Live p) (hp : Drained p) {out frames : List (RemoteFrame γ)} {n : Nat}
    (hroom : Room p out n) {b : UInt8}
    (h : advance g (p, out) b = .ok (p', frames))
    : Live p' ∧ Drained p' ∧ Room p' frames (n + 1) := by
  rcases advance_ok h with ⟨q, hbyte, rfl, rfl⟩
  have hdelimiter : p.delimiter.length = 14 := by
    rw [hlive.delimiter]
    decide
  rcases byte_cases hbyte with hquiet | ⟨hstate, s, hs, hcomplete, hmax, rfl⟩
  . have hqueue : q.queue = [] := hquiet.queue.trans hp.queue
    have hframe : q.maxFrame = p.maxFrame := congrArg (fun q => q.maxFrame) hquiet.config
    refine ⟨(hlive.of_config hquiet.config).drained, ⟨rfl, rfl⟩, ⟨?_, ?_⟩⟩
    . have hcount := hroom.count
      have hprogress := hquiet.progress hdelimiter
      rw [hqueue, List.append_nil]
      change 17 * out.length + q.progress ≤ n + 1 + 17
      omega
    . intro hne
      rw [hqueue, List.append_nil] at hne ⊢
      have hbytes := hroom.bytes hne
      have hlength := hquiet.length
      change size out + q.body.length ≤ q.maxFrame + (n + 1)
      omega
  . refine ⟨hlive.of_config rfl, ⟨rfl, rfl⟩, ⟨?_, fun _ => ?_⟩⟩
    . have hcount := hroom.count
      have hprogress : p.progress = 17 := by
        rw [progress, hstate]
      have hlength : (emitted g p b s).queue.length = 1 := by
        simp [emitted, hp.queue]
      have hnext : (emitted g p b s).drained.progress = 0 := rfl
      rw [hnext, List.length_append, hlength]
      omega
    . have hqueue : (emitted g p b s).queue
          = [{ jpeg := p.body ++ [b], geometry := g (p.body ++ [b]) }] := by
        simp [emitted, hp.queue]
      rw [hqueue, size_append]
      change size out + (p.body ++ [b]).length + 0 ≤ p.maxFrame + (n + 1)
      rw [List.length_append, List.length_singleton]
      by_cases hout : out = []
      . rw [hout]
        simp only [size, List.map_nil, List.sum_nil]
        omega
      . have := hroom.bytes hout
        omega

theorem byte_eq_advance (hlive : Live p) (hp : Drained p) {out : List (RemoteFrame γ)} {n : Nat}
    (hroom : Room p out n) (hn : n < 256) (b : UInt8)
    : (p.withQueue out).byte g b
      = (advance g (p, out) b).map (fun acc => acc.1.withQueue acc.2) := by
  have hspace : p.state = .body → p.body.length < p.maxFrame
      → out.length < p.maxQueue ∧ size out + (p.body.length + 1) ≤ p.maxQueueBytes := by
    intro hstate hframe
    have hcount := hroom.count
    have hprogress : p.progress = 17 := by
      rw [progress, hstate]
    rw [hlive.maxFrame] at hframe
    rw [hlive.maxQueue, hlive.maxQueueBytes]
    refine ⟨by omega, ?_⟩
    by_cases hout : out = []
    . rw [hout]
      simp only [size, List.map_nil, List.sum_nil]
      omega
    . have hbytes := hroom.bytes hout
      rw [hlive.maxFrame] at hbytes
      omega
  rw [byte_withQueue hp hspace, advance]
  cases p.byte g b with
  | error e => rfl
  | ok q => rfl

theorem foldlM_byte (bytes : List UInt8) (hlive : Live p) (hp : Drained p) {out : List (RemoteFrame γ)} {n : Nat}
    (hroom : Room p out n) (hn : n + bytes.length ≤ 256)
    : bytes.foldlM (MultipartJpegParser.byte g) (p.withQueue out)
      = (bytes.foldlM (advance g) (p, out)).map
        (fun acc => acc.1.withQueue acc.2) := by
  induction bytes generalizing p out n with
  | nil => rfl
  | cons b rest ih =>
    rw [List.length_cons] at hn
    rw [List.foldlM_cons, List.foldlM_cons, byte_eq_advance hlive hp hroom (by omega)]
    cases hstep : advance g (p, out) b with
    | error e => rfl
    | ok acc =>
      rcases acc with ⟨q, frames⟩
      have hnext := hroom.advance hlive hp hstep
      exact ih hnext.1 hnext.2.1 hnext.2.2 (by omega)

/-!
Runs of the parser, cut anywhere.
-/

-- The parser can read on.
def Active (p : MultipartJpegParser γ) : Prop :=
  p.state ≠ .failed ∧ p.state ≠ .cancelled

theorem foldlM_advance (bytes : List UInt8) (out out' : List (RemoteFrame γ))
    : bytes.foldlM (advance g) (p, out ++ out')
      = (bytes.foldlM (advance g) (p, out')).map
        (fun acc => (acc.1, out ++ acc.2)) := by
  induction bytes generalizing p out' with
  | nil => rfl
  | cons b rest ih =>
    rw [List.foldlM_cons, List.foldlM_cons, advance, advance]
    cases p.byte g b with
    | error e => rfl
    | ok q =>
      simp only [bind, Except.bind]
      rw [List.append_assoc]
      exact ih _

theorem runs_iff : Runs g p bytes p' frames
    ↔ bytes.foldlM (advance g) (p, []) = .ok (p', frames) := by
  constructor
  . intro h
    exact h []
  . intro h out
    have := foldlM_advance (g := g) (p := p) bytes out []
    rw [List.append_nil] at this
    rw [this, h]
    rfl

theorem Runs.split (h : Runs g p (bytes ++ bytes') p' frames)
    : ∃ q before after, Runs g p bytes q before
      ∧ Runs g q bytes' p' after ∧ frames = before ++ after := by
  have hall := runs_iff.mp h
  rw [List.foldlM_append] at hall
  cases hfirst : bytes.foldlM (advance g) (p, []) with
  | error e =>
    rw [hfirst] at hall
    cases hall
  | ok acc =>
    rcases acc with ⟨q, before⟩
    rw [hfirst] at hall
    simp only [bind, Except.bind] at hall
    have hrest := foldlM_advance (g := g) (p := q) bytes' before []
    rw [List.append_nil, hall] at hrest
    cases hsecond : bytes'.foldlM (advance g) (q, []) with
    | error e =>
      rw [hsecond] at hrest
      cases hrest
    | ok acc =>
      rcases acc with ⟨q', after⟩
      rw [hsecond] at hrest
      cases hrest
      exact ⟨q, before, after, runs_iff.mpr hfirst, runs_iff.mpr hsecond, rfl⟩

theorem active_of_byte {b : UInt8} (h : p.byte g b = .ok p') : Active p' := by
  rcases byte_cases h with hquiet | ⟨_, s, _, _, _, rfl⟩
  . exact hquiet.active
  . exact ⟨by simp [emitted], by simp [emitted]⟩

theorem Runs.live (h : Runs g p bytes p' frames) (hlive : Live p) (hp : Drained p)
    (hactive : Active p) : Live p' ∧ Drained p' ∧ Active p' := by
  have hfold := runs_iff.mp h
  clear h
  generalize ([] : List (RemoteFrame γ)) = out at hfold
  induction bytes generalizing p out with
  | nil =>
    cases hfold
    exact ⟨hlive, hp, hactive⟩
  | cons b rest ih =>
    rw [List.foldlM_cons] at hfold
    cases hstep : advance g (p, out) b with
    | error e =>
      rw [hstep] at hfold
      cases hfold
    | ok acc =>
      rcases acc with ⟨q, before⟩
      rw [hstep] at hfold
      rcases advance_ok hstep with ⟨q', hbyte, rfl, _⟩
      have hlive' : Live q' := by
        rcases byte_cases hbyte with hquiet | ⟨_, s, _, _, _, rfl⟩
        . exact hlive.of_config hquiet.config
        . exact hlive.of_config rfl
      exact ih hlive'.drained ⟨rfl, rfl⟩ (show Active q' from active_of_byte hbyte) _ hfold

theorem Runs.closed (h : Runs g p bytes p' frames) (hclosed : p.state = .closed)
    : p' = p ∧ frames = [] := by
  have hfold := runs_iff.mp h
  cases bytes with
  | nil =>
    cases hfold
    exact ⟨rfl, rfl⟩
  | cons b rest =>
    have hbyte : p.byte g b = .error "Bytes after closing boundary" := by
      unfold MultipartJpegParser.byte
      rw [hclosed]
    rw [List.foldlM_cons, advance, hbyte] at hfold
    cases hfold

end

end MultipartJpegParser

/-!
The reader.
-/

namespace StreamReader

open MultipartJpegParser

variable {γ : Type} {g : List UInt8 → Option γ}

theorem drain_eq (frames : List (RemoteFrame γ)) (p : MultipartJpegParser γ)
    (h : p.queue = frames)
    : drain frames p
      = (frames, { p with queue := [], queueBytes := p.queueBytes - size frames }) := by
  induction frames generalizing p with
  | nil =>
    rw [drain, size, List.map_nil, List.sum_nil, Nat.sub_zero, ← h]
  | cons frame rest ih =>
    have htake : p.takeFrame
        = some (frame, { p with queue := rest, queueBytes := p.queueBytes - frame.jpeg.length }) := by
      unfold takeFrame
      rw [h]
    rw [drain, htake]
    dsimp only
    rw [ih _ rfl]
    simp [size, Nat.sub_sub]

theorem slice_runs {r : StreamReader γ} (hlive : Live r.parser) (hp : Drained r.parser)
    (hactive : Active r.parser) (herror : r.error = none) {bytes : List UInt8}
    (hlength : bytes.length ≤ 256) {p' : MultipartJpegParser γ} {frames : List (RemoteFrame γ)}
    (h : Runs g r.parser bytes p' frames)
    : r.slice g bytes
      = { parser := p', frames := r.frames ++ frames, error := none } := by
  unfold slice
  by_cases hclosed : r.parser.state = .closed
  . rcases h.closed hclosed with ⟨rfl, rfl⟩
    rw [if_pos (.inr hclosed), List.append_nil, ← herror]
  . have hstopped : ¬ (r.error.isSome ∨ r.parser.state = .closed) := by
      simp [herror, hclosed]
    have hqueue : r.parser.withQueue [] = r.parser := by
      have hsize : size ([] : List (RemoteFrame γ)) = r.parser.queueBytes := hp.queueBytes.symm
      unfold withQueue
      rw [hsize, ← hp.queue]
    have hfold := foldlM_byte (g := g) bytes hlive hp
      (Room.start r.parser) (by omega)
    rw [runs_iff.mp h, hqueue] at hfold
    have hpush : r.parser.push g bytes = (p'.withQueue frames, none) := by
      unfold push
      rw [if_neg (not_or.mpr hactive), hfold]
      rfl
    have hdrained := (h.live hlive hp hactive).2.1
    rw [if_neg hstopped, hpush]
    dsimp only
    rw [drain_eq _ _ rfl]
    have hnext : ({ p'.withQueue frames with
        queue := [], queueBytes := (p'.withQueue frames).queueBytes - size (p'.withQueue frames).queue })
        = p' := by
      unfold withQueue
      dsimp only
      rw [Nat.sub_self, ← hdrained.queue, ← hdrained.queueBytes]
    rw [hnext, herror]
    rfl

theorem foldl_slice_runs {r : StreamReader γ} (hlive : Live r.parser) (hp : Drained r.parser)
    (hactive : Active r.parser) (herror : r.error = none) {cuts : List (List UInt8)}
    (hlength : ∀ bytes ∈ cuts, bytes.length ≤ 256) {p' : MultipartJpegParser γ}
    {frames : List (RemoteFrame γ)} (h : Runs g r.parser cuts.flatten p' frames)
    : cuts.foldl (slice g) r
      = { parser := p', frames := r.frames ++ frames, error := none } := by
  induction cuts generalizing r frames with
  | nil =>
    have hfold := runs_iff.mp h
    cases hfold
    rw [List.foldl_nil, List.append_nil, ← herror]
  | cons bytes rest ih =>
    rw [List.forall_mem_cons] at hlength
    rw [List.flatten_cons] at h
    rcases h.split with ⟨q, before, after, hfirst, hrest, rfl⟩
    rcases hfirst.live hlive hp hactive with ⟨hlive', hp', hactive'⟩
    rw [List.foldl_cons, slice_runs hlive hp hactive herror hlength.1 hfirst]
    rw [ih (r := { parser := q, frames := r.frames ++ before, error := none }) hlive' hp' hactive' rfl
      hlength.2 hrest, List.append_assoc]

theorem flatten_slices (count : Nat) (value : List UInt8) (h : value.length ≤ 256 * count)
    : (slices count value).flatten = value := by
  induction count generalizing value with
  | zero =>
    have hnil : value = [] := List.length_eq_zero_iff.mp (by omega)
    rw [hnil]
    rfl
  | succ count ih =>
    rw [slices, List.flatten_cons, ih _ (by rw [List.length_drop]; omega), List.take_append_drop]

theorem length_of_mem_slices (count : Nat) (value : List UInt8)
    : ∀ bytes ∈ slices count value, bytes.length ≤ 256 := by
  induction count generalizing value with
  | zero => simp [slices]
  | succ count ih =>
    rw [slices, List.forall_mem_cons]
    exact ⟨List.length_take_le _ _, ih _⟩

-- The slices of all chunks.
def cuts (chunks : List (List UInt8)) : List (List UInt8) :=
  chunks.flatMap (fun value => slices ((value.length + 255) / 256) value)

theorem run_eq (r : StreamReader γ) (chunks : List (List UInt8))
    : r.run g chunks = (cuts chunks).foldl (slice g) r := by
  unfold run cuts
  rw [List.foldl_flatMap]
  rfl

theorem flatten_cuts (chunks : List (List UInt8)) : (cuts chunks).flatten = chunks.flatten := by
  induction chunks with
  | nil => rfl
  | cons value rest ih =>
    rw [cuts, List.flatMap_cons, List.flatten_append, flatten_slices _ _ (by omega), List.flatten_cons]
    exact congrArg (value ++ ·) ih

theorem length_of_mem_cuts (chunks : List (List UInt8)) : ∀ bytes ∈ cuts chunks, bytes.length ≤ 256 := by
  intro bytes hmem
  rcases List.mem_flatMap.mp hmem with ⟨value, _, hmem⟩
  exact length_of_mem_slices _ _ bytes hmem

/-!
Any stream of bytes.
-/

-- The parser after an error.
structure Failed (p : MultipartJpegParser γ) : Prop where
  state : p.state = .failed
  queue : p.queue = []
  queueBytes : p.queueBytes = 0
  headers : p.headers = []
  body : p.body = []

theorem failed_fail (p : MultipartJpegParser γ) : Failed p.fail :=
  ⟨rfl, rfl, rfl, rfl, rfl⟩

theorem Failed.push {p : MultipartJpegParser γ} (h : Failed p) (bytes : List UInt8)
    : p.push g bytes = (p, some "Parser is inactive") := by
  unfold MultipartJpegParser.push
  rw [if_pos (.inl h.state)]

theorem Failed.takeFrame {p : MultipartJpegParser γ} (h : Failed p) : p.takeFrame = none := by
  unfold MultipartJpegParser.takeFrame
  rw [h.queue]

-- Only JPEGs that the scanner accepts wait in the queue.
structure Sound (p : MultipartJpegParser γ) : Prop where
  active : Active p
  queue : ∀ frame ∈ p.queue, JpegScanner.Accepts frame.jpeg
  body : p.state = .body → JpegScanner.scan p.body = .ok p.scanner

theorem scan_append {body : List UInt8} {b : UInt8} {s s' : JpegScanner}
    (h : JpegScanner.scan body = .ok s) (hb : s.byte b = .ok s')
    : JpegScanner.scan (body ++ [b]) = .ok s' := by
  unfold JpegScanner.scan at *
  rw [List.foldlM_append, h]
  simp [bind, Except.bind, pure, Except.pure, hb]

theorem Sound.byte {p p' : MultipartJpegParser γ} (hs : Sound p) {b : UInt8}
    (h : p.byte g b = .ok p') : Sound p' := by
  rcases byte_cases h with hquiet | ⟨hstate, s, hbyte, hcomplete, _, rfl⟩
  . refine ⟨hquiet.active, ?_, ?_⟩
    . rw [hquiet.queue]
      exact hs.queue
    . intro hbody
      rcases hquiet.body hbody with ⟨hnil, hscanner⟩ | ⟨hstate, happend, hscanner⟩
      . rw [hnil, hscanner]
        rfl
      . rw [happend]
        exact scan_append (hs.body hstate) hscanner
  . refine ⟨active_of_byte h, ?_, fun hbody => (by cases hbody)⟩
    intro frame hmem
    rcases List.mem_append.mp hmem with hmem | hmem
    . exact hs.queue frame hmem
    . rw [List.mem_singleton] at hmem
      rw [hmem]
      exact ⟨s, scan_append (hs.body hstate) hbyte, hcomplete⟩

theorem Sound.foldlM {p p' : MultipartJpegParser γ} {bytes : List UInt8} (hs : Sound p)
    (h : bytes.foldlM (MultipartJpegParser.byte g) p = .ok p') : Sound p' := by
  induction bytes generalizing p with
  | nil =>
    cases h
    exact hs
  | cons b rest ih =>
    rw [List.foldlM_cons] at h
    cases hbyte : p.byte g b with
    | error e =>
      rw [hbyte] at h
      cases h
    | ok q =>
      rw [hbyte] at h
      exact ih (hs.byte hbyte) h

-- What the reader has got, and the parser that it goes on with or has given up.
structure Reads (r : StreamReader γ) : Prop where
  frames : ∀ frame ∈ r.frames, JpegScanner.Accepts frame.jpeg
  parser : r.error = none → Sound r.parser
  failed : r.error.isSome → Failed r.parser

theorem Reads.slice {r : StreamReader γ} (hr : Reads r) (bytes : List UInt8)
    : Reads (r.slice g bytes) := by
  unfold StreamReader.slice
  split
  . exact hr
  . next hstopped =>
    have herror : r.error = none := by
      rw [not_or, Option.not_isSome_iff_eq_none] at hstopped
      exact hstopped.1
    have hs := hr.parser herror
    have hactive : ¬ (r.parser.state = .failed ∨ r.parser.state = .cancelled) :=
      not_or.mpr hs.active
    cases hfold : bytes.foldlM (MultipartJpegParser.byte g) r.parser with
    | error e =>
      have hpush : r.parser.push g bytes = (r.parser.fail, some e) := by
        rw [push, if_neg hactive, hfold]
      rw [hpush]
      exact ⟨hr.frames, fun h => (by cases h), fun _ => failed_fail _⟩
    | ok p' =>
      have hpush : r.parser.push g bytes = (p', none) := by
        rw [push, if_neg hactive, hfold]
      have hs' := hs.foldlM hfold
      rw [hpush]
      dsimp only
      rw [drain_eq _ _ rfl]
      refine ⟨?_, fun _ => ⟨hs'.active, by simp, hs'.body⟩, fun h => ?_⟩
      . intro frame hmem
        rcases List.mem_append.mp hmem with hmem | hmem
        . exact hr.frames frame hmem
        . exact hs'.queue frame hmem
      . rw [herror] at h
        cases h

theorem Reads.run {r : StreamReader γ} (hr : Reads r) (chunks : List (List UInt8))
    : Reads (r.run g chunks) := by
  rw [run_eq]
  generalize cuts chunks = slices
  induction slices generalizing r with
  | nil => exact hr
  | cons bytes rest ih => exact ih (hr.slice bytes)

theorem run_of_error {r : StreamReader γ} (h : r.error.isSome) (chunks : List (List UInt8))
    : r.run g chunks = r := by
  rw [run_eq]
  generalize cuts chunks = slices
  induction slices with
  | nil => rfl
  | cons bytes rest ih =>
    rw [List.foldl_cons, slice, if_pos (.inl h)]
    exact ih

end StreamReader

theorem create_eq {γ : Type}
    : (MultipartJpegParser.create LiveMedia.contentType readerOptions
      : Except String (MultipartJpegParser γ))
      = .ok {
        first := utf8 "--mjpegframe"
        delimiter := utf8 "\r\n--mjpegframe"
        maxHeader := 8192
        maxFrame := 8 * 1024 * 1024
        maxQueue := 16
        maxQueueBytes := 16 * 1024 * 1024
        allowEofAfterPart := true
      } :=
  rfl

theorem create_live {γ : Type} {p : MultipartJpegParser γ}
    (hp : MultipartJpegParser.create LiveMedia.contentType readerOptions = .ok p)
    : p.Ready ∧ p.Active ∧ p.state = .first ∧ p.queue = [] := by
  rw [create_eq] at hp
  cases hp
  exact ⟨⟨⟨rfl, rfl, rfl, rfl, rfl, rfl, rfl⟩, ⟨rfl, rfl⟩, _, .first rfl, rfl⟩,
    ⟨by simp, by simp⟩, rfl, rfl⟩

/--
However the network cuts the stream of the server, the reader of the dashboard gets its JPEGs in order,
without an error and to the end. From any other stream it gets only JPEGs that the scanner accepts, and
after an error nothing is left in the parser and nothing more comes out of it.
-/
theorem multipart_round_trip {γ : Type} (parseJpegGeometry : List UInt8 → Option γ)
    {p : MultipartJpegParser γ}
    (hp : MultipartJpegParser.create LiveMedia.contentType readerOptions = .ok p)
    : (∀ jpegs : List (List UInt8), jpegs ≠ [] →
        (∀ jpeg ∈ jpegs, JpegScanner.Accepts jpeg ∧ 4 ≤ jpeg.length
          ∧ jpeg.length ≤ 8 * 1024 * 1024) →
        ∀ chunks : List (List UInt8), chunks.flatten = jpegs.flatMap LiveMedia.part →
          let r := StreamReader.run parseJpegGeometry { parser := p } chunks
          r.frames.map RemoteFrame.jpeg = jpegs ∧ r.error = none
            ∧ r.parser.finish.2 = none ∧ r.parser.finish.1.state = .closed)
      ∧ ∀ chunks : List (List UInt8),
          let r := StreamReader.run parseJpegGeometry { parser := p } chunks
          (∀ frame ∈ r.frames, JpegScanner.Accepts frame.jpeg)
            ∧ (r.error.isSome → StreamReader.Failed r.parser
              ∧ (∀ bytes, (r.parser.push parseJpegGeometry bytes).1 = r.parser)
              ∧ r.parser.takeFrame = none
              ∧ ∀ more, r.run parseJpegGeometry more = r)
            ∧ (r.parser.finish.2.isSome → StreamReader.Failed r.parser.finish.1) := by
  rcases create_live hp with ⟨hready, hactive, hfirst, hqueue⟩
  refine ⟨?_, ?_⟩
  . intro jpegs hne hjpegs chunks hchunks r
    rcases MultipartJpegParser.runs_parts (g := parseJpegGeometry) hready jpegs hjpegs
      with ⟨p', hruns, hready', hend⟩
    rcases hend hne with ⟨hstate, hpos⟩
    have hrun : r = { parser := p', frames := jpegs.map (fun jpeg =>
        { jpeg, geometry := parseJpegGeometry jpeg }), error := none } := by
      have hcuts : MultipartJpegParser.Runs parseJpegGeometry p
          (StreamReader.cuts chunks).flatten p' (jpegs.map (fun jpeg =>
            { jpeg, geometry := parseJpegGeometry jpeg })) := by
        rw [StreamReader.flatten_cuts, hchunks]
        exact hruns
      change StreamReader.run parseJpegGeometry { parser := p } chunks = _
      rw [StreamReader.run_eq]
      exact StreamReader.foldl_slice_runs (r := { parser := p }) hready.live hready.drained hactive rfl
        (StreamReader.length_of_mem_cuts chunks) hcuts
    have hfinish : p'.finish = ({ p' with state := .closed, body := [], headers := [] }, none) := by
      unfold MultipartJpegParser.finish
      rw [hstate, if_neg (by decide), if_pos (.inr ⟨hready'.live.allowEofAfterPart, rfl, hpos⟩)]
    rw [hrun, hfinish]
    refine ⟨?_, rfl, rfl, rfl⟩
    rw [List.map_map]
    exact List.map_id jpegs
  . intro chunks r
    have hreads : StreamReader.Reads r := by
      refine StreamReader.Reads.run (r := { parser := p }) ⟨?_, fun _ => ⟨hactive, ?_, ?_⟩, ?_⟩ chunks
      . intro frame hmem
        cases hmem
      . rw [hqueue]
        intro frame hmem
        cases hmem
      . rw [hfirst]
        intro h
        cases h
      . intro h
        cases h
    refine ⟨hreads.frames, ?_, ?_⟩
    . intro herror
      have hfailed := hreads.failed herror
      refine ⟨hfailed, ?_, hfailed.takeFrame, fun more => StreamReader.run_of_error herror more⟩
      intro bytes
      rw [hfailed.push]
    . intro h
      unfold MultipartJpegParser.finish at h ⊢
      split
      . next hclosed =>
        rw [if_pos hclosed] at h
        cases h
      . next hclosed =>
        rw [if_neg hclosed] at h
        split
        . next hend =>
          rw [if_pos hend] at h
          cases h
        . exact StreamReader.failed_fail _

namespace Example

def jpeg : List UInt8 :=
  [0xff, 0xd8, 0xff, 0xc0, 0, 2, 0xff, 0xda, 0, 2, 1, 0xff, 0xd9]

end Example

theorem multipart_round_trip_twice
    : ∃ p : MultipartJpegParser Unit,
      MultipartJpegParser.create LiveMedia.contentType readerOptions = .ok p
      ∧ (StreamReader.run (fun _ => none) { parser := p }
        [(LiveMedia.part Example.jpeg).take 70,
          (LiveMedia.part Example.jpeg).drop 70 ++ LiveMedia.part Example.jpeg]).frames.map
            RemoteFrame.jpeg = [Example.jpeg, Example.jpeg] := by
  have haccepts : JpegScanner.Accepts Example.jpeg :=
    ⟨⟨.entropyFF, 0xda, 0, true, true, true⟩, by decide +kernel, rfl⟩
  have hjpegs : ∀ jpeg ∈ [Example.jpeg, Example.jpeg], JpegScanner.Accepts jpeg ∧ 4 ≤ jpeg.length
      ∧ jpeg.length ≤ 8 * 1024 * 1024 := by
    have hone : JpegScanner.Accepts Example.jpeg ∧ 4 ≤ Example.jpeg.length
        ∧ Example.jpeg.length ≤ 8 * 1024 * 1024 :=
      ⟨haccepts, by decide, by decide⟩
    intro jpeg hmem
    rw [List.mem_pair, or_self] at hmem
    rw [hmem]
    exact hone
  have hchunks : [(LiveMedia.part Example.jpeg).take 70,
      (LiveMedia.part Example.jpeg).drop 70 ++ LiveMedia.part Example.jpeg].flatten
      = [Example.jpeg, Example.jpeg].flatMap LiveMedia.part := by
    simp [← List.append_assoc]
  exact ⟨_, create_eq, ((multipart_round_trip (fun _ => none) create_eq).1 _ (by simp) hjpegs _
    hchunks).1⟩

end Vantyr
