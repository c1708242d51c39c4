import Mathlib.Data.List.Basic
import Vantyr.Dashboard.RemoteFrame

/-!
This module contains the two walks over the markers of a JPEG that check no bounds: the one that looks for
the geometry and the dimensions of a frame (`parseJpegGeometry` in
`frontend/src/features/remote/lib/remoteFrame.ts`) and the one that looks for its dimensions only
(`jpegDecodeSize` in `useMjpegFrames.ts`). The array is given by what is left of it from an index on, and a
read outside of it ends the walk. How metadata is read is a parameter.
-/

namespace Vantyr

namespace JpegWalk

-- A marker with a length, the index after its length and the bytes from there to its end.
structure Segment where
  marker : UInt8
  start : Nat
  payload : List UInt8
  deriving DecidableEq, Repr

def isRestart (m : UInt8) : Bool :=
  0xd0 ≤ m && m ≤ 0xd7

def isSof (m : UInt8) : Bool :=
  JpegScanner.sofMarkers.contains m

/-!
What the scanner visits.
-/

-- The scanner enters a segment when it has read the length.
def scannedSegments (s : JpegScanner) (i : Nat) : List UInt8 → List Segment
  | [] => []
  | b :: rest =>
    match s.byte b with
    | .error _ => []
    | .ok s' =>
      let entered :=
        if s.phase = .lengthLo then
          [{ marker := s.marker, start := i + 1, payload := rest.take (s.remaining + b.toNat - 2) }]
        else
          []
      entered ++ scannedSegments s' (i + 1) rest

/-!
The walks.
-/

-- The first byte that is no fill byte, with its index and what follows it.
def skipFill (p : Nat)
    : (rest : List UInt8) → Option { r : Nat × UInt8 × List UInt8 // r.2.2.length < rest.length }
  | [] => none
  | b :: rest =>
    if b = 0xff then
      (skipFill (p + 1) rest).map (fun r => ⟨r.1, Nat.lt_succ_of_lt r.2⟩)
    else
      some ⟨(p, b, rest), Nat.lt_succ_self _⟩

-- Height and width in a frame header, of which the precision is the first byte.
def frameDimensions : List UInt8 → Option (Nat × Nat)
  | _ :: h :: h' :: w :: w' :: _ => some (w.toNat * 256 + w'.toNat, h.toNat * 256 + h'.toNat)
  | _ => none

inductive WalkEnd where
  | finished
  | returnedNull
  | outside
  deriving DecidableEq, Repr

-- `visited` is history.
structure Walk (γ : Type) where
  found : Nat := 0
  geometry : Option γ := none
  dimensions : Option (Nat × Nat) := none
  visited : List Segment := []

def signature : List UInt8 :=
  Text.utf8 "VantyrGeometry" ++ [0]

section Geometry

variable {γ : Type} (readMetadata : List UInt8 → Option γ) (maxMetadataBytes : Nat)

def Walk.enter (w : Walk γ) (seg : Segment) : Walk γ :=
  let w := { w with visited := w.visited ++ [seg] }
  if seg.marker = 0xef ∧ signature.isPrefixOf seg.payload then
    {
      w with
      found := w.found + 1
      geometry :=
        if seg.payload.length - signature.length ≤ maxMetadataBytes then
          readMetadata (seg.payload.drop signature.length)
        else
          none
    }
  else
    w

def walk (entropy : Bool) (p : Nat) (rest : List UInt8) (w : Walk γ) : Walk γ × WalkEnd :=
  match rest with
  | [] => (w, .finished)
  | b :: rest =>
    if entropy ∧ b ≠ 0xff then
      walk entropy (p + 1) rest w
    else
      match skipFill (p + 1) rest with
      | none => (w, .outside)
      | some ⟨(p, marker, rest), _⟩ =>
        if entropy ∧ (marker = 0 ∨ isRestart marker) then
          walk entropy (p + 1) rest w
        else if marker = 0xd9 then
          (w, .finished)
        else if marker = 1 ∨ isRestart marker then
          walk entropy (p + 1) rest w
        else
          match rest with
          | hi :: lo :: body =>
            let length := hi.toNat * 256 + lo.toNat
            -- The signature is compared when the segment has room for it.
            if marker = 0xef ∧ signature.length ≤ length - 2 ∧ body.length < signature.length then
              (w, .outside)
            else
              let w := w.enter readMetadata maxMetadataBytes ⟨marker, p + 3, body.take (length - 2)⟩
              if isSof marker then
                if length < 8 ∨ w.dimensions.isSome then
                  (w, .returnedNull)
                else
                  match frameDimensions body with
                  | none => (w, .outside)
                  | some dimensions =>
                    walk (marker = 0xda) (p + 1 + length) ((hi :: lo :: body).drop length)
                      { w with dimensions := some dimensions }
              else
                walk (marker = 0xda) (p + 1 + length) ((hi :: lo :: body).drop length) w
          | _ => (w, .outside)
termination_by rest.length
decreasing_by all_goals simp only [List.length_cons, List.length_drop] at *; omega

-- The walk starts after the SOI.
def walkFrom (jpeg : List UInt8) : Walk γ × WalkEnd :=
  walk readMetadata maxMetadataBytes false 2 (jpeg.drop 2) {}

def parseJpegGeometry (frameSize : γ → Nat × Nat) (jpeg : List UInt8) : Option γ :=
  match JpegScanner.scan jpeg with
  | .error _ => none
  | .ok s =>
    if !s.complete then
      none
    else
      match walkFrom readMetadata maxMetadataBytes jpeg with
      | (w, .finished) =>
        if w.found ≠ 1 then none
        else w.geometry.filter (fun g => w.dimensions.all (fun dimensions => dimensions = frameSize g))
      | _ => none

end Geometry

inductive DecodeSize where
  | size (dimensions : Nat × Nat)
  | noDimensions
  | tooLarge
  | outside
  deriving DecidableEq, Repr

def decodeWalk (rest : List UInt8) : DecodeSize :=
  match rest with
  | b :: rest =>
    if rest.length < 3 ∨ b ≠ 0xff then
      .noDimensions
    else
      match skipFill 0 rest with
      | none => .outside
      | some ⟨(_, marker, rest), _⟩ =>
        if marker = 0xda ∨ marker = 0xd9 then
          .noDimensions
        else if marker = 1 ∨ isRestart marker then
          decodeWalk rest
        else
          match rest with
          | hi :: lo :: body =>
            let n := hi.toNat * 256 + lo.toNat
            if n < 2 ∨ (hi :: lo :: body).length < n then
              .noDimensions
            else if isSof marker ∧ 8 ≤ n then
              match frameDimensions body with
              | none => .outside
              | some (width, height) =>
                if 0 < width ∧ 0 < height ∧ width ≤ 16384 ∧ height ≤ 16384 ∧ width * height ≤ 33554432 then
                  .size (width, height)
                else
                  .tooLarge
            else
              decodeWalk ((hi :: lo :: body).drop n)
          | _ => .outside
  | [] => .noDimensions
termination_by rest.length
decreasing_by all_goals simp only [List.length_cons, List.length_drop] at *; omega

def jpegDecodeSize (jpeg : List UInt8) : DecodeSize :=
  decodeWalk (jpeg.drop 2)

theorem isRestart_iff {m : UInt8} : isRestart m = true ↔ 0xd0 ≤ m ∧ m ≤ 0xd7 := by
  unfold isRestart
  rw [Bool.and_eq_true, decide_eq_true_eq, decide_eq_true_eq]

-- A marker without a length is none of the others.
theorem ne_of_short {c m b : UInt8} (hm : m = c ∨ isRestart m = true) (hc : b ≠ c)
    (hrestart : isRestart b = false) : m ≠ b := by
  rintro rfl
  rcases hm with hm | hm
  . exact hc hm
  . exact absurd (hrestart.symm.trans hm) Bool.false_ne_true

theorem not_short {c m : UInt8} (hc : c < 0xc0) (hm : 0xc0 ≤ m) (hrestart : isRestart m = false)
    : ¬(m = c ∨ isRestart m = true) := by
  rintro (rfl | h)
  . exact absurd hm (UInt8.not_le.mpr hc)
  . exact absurd (hrestart.symm.trans h) Bool.false_ne_true

theorem drop_segment (hi lo : UInt8) (payload rest : List UInt8)
    : (hi :: lo :: (payload ++ rest)).drop (payload.length + 2) = rest := by
  rw [List.drop_succ_cons, List.drop_succ_cons, List.drop_left]

/-!
The structure of what the scanner accepts.
-/

-- What can stand after the SOI, or in the entropy-coded data, from an index on, with its segments.
inductive Tail : Bool → Nat → List UInt8 → List Segment → Prop where
  | data {b : UInt8} {p : Nat} {rest : List UInt8} {segs : List Segment} (hb : b ≠ 0xff)
      (h : Tail true (p + 1) rest segs) : Tail true p (b :: rest) segs
  | stuffed {m : UInt8} {k p : Nat} {rest : List UInt8} {segs : List Segment}
      (hm : m = 0 ∨ isRestart m = true) (h : Tail true (p + k + 2) rest segs)
      : Tail true p (0xff :: (List.replicate k 0xff ++ m :: rest)) segs
  | eoi {entropy : Bool} {k p : Nat} : Tail entropy p (0xff :: (List.replicate k 0xff ++ [0xd9])) []
  | standalone {entropy : Bool} {m : UInt8} {k p : Nat} {rest : List UInt8} {segs : List Segment}
      (hm : m = 1 ∨ isRestart m = true) (h : Tail false (p + k + 2) rest segs)
      : Tail entropy p (0xff :: (List.replicate k 0xff ++ m :: rest)) segs
  | segment {entropy : Bool} {m hi lo : UInt8} {k p : Nat} {payload rest : List UInt8} {segs : List Segment}
      (hm : 0xc0 ≤ m) (hrestart : isRestart m = false) (hsoi : m ≠ 0xd8) (heoi : m ≠ 0xd9) (hfill : m ≠ 0xff)
      (hlength : hi.toNat * 256 + lo.toNat = payload.length + 2)
      (h : Tail (m = 0xda) (p + k + 4 + payload.length) rest segs)
      : Tail entropy p (0xff :: (List.replicate k 0xff ++ m :: hi :: lo :: (payload ++ rest)))
        (⟨m, p + k + 4, payload⟩ :: segs)

-- The bytes are read to the end, where the scanner is done.
def Ends (s : JpegScanner) (rest : List UInt8) : Prop :=
  ∃ t, rest.foldlM JpegScanner.byte s = .ok t ∧ t.done = true

section Scanner

variable {s : JpegScanner} {rest : List UInt8}

theorem Ends.nil (h : Ends s []) : s.done = true := by
  rcases h with ⟨t, ⟨⟩, hdone⟩
  exact hdone

theorem Ends.cons {b : UInt8} (h : Ends s (b :: rest)) : ∃ s', s.byte b = .ok s' ∧ Ends s' rest := by
  rcases h with ⟨t, ht, hdone⟩
  rw [List.foldlM_cons] at ht
  cases hb : s.byte b with
  | error e =>
    rw [hb] at ht
    cases ht
  | ok s' =>
    rw [hb] at ht
    exact ⟨s', rfl, t, ht, hdone⟩

theorem Ends.eq_nil (h : Ends s rest) (hdone : s.done = true) : rest = [] := by
  cases rest with
  | nil => rfl
  | cons b rest =>
    rcases h.cons with ⟨s', hb, _⟩
    unfold JpegScanner.byte at hb
    rw [if_pos hdone] at hb
    cases hb

theorem scannedSegments_cons {s' : JpegScanner} {b : UInt8} (h : s.byte b = .ok s') (i : Nat)
    (hphase : s.phase ≠ .lengthLo) (rest : List UInt8)
    : scannedSegments s i (b :: rest) = scannedSegments s' (i + 1) rest := by
  rw [scannedSegments, h]
  dsimp only
  rw [if_neg hphase, List.nil_append]

-- Fill bytes change nothing.
theorem Ends.fill (h : Ends s rest) (hdone : s.done = false)
    (hphase : s.phase = .marker ∨ s.phase = .entropyFF) (i : Nat)
    : ∃ k m rest' s', rest = List.replicate k 0xff ++ m :: rest' ∧ m ≠ 0xff ∧ s.byte m = .ok s'
      ∧ Ends s' rest' ∧ scannedSegments s i rest = scannedSegments s' (i + k + 1) rest' := by
  have hother : s.phase ≠ .lengthLo := by
    rcases hphase with hphase | hphase <;> rw [hphase] <;> exact fun h => by cases h
  induction rest generalizing i with
  | nil =>
    rw [h.nil] at hdone
    cases hdone
  | cons b rest ih =>
    rcases h.cons with ⟨s', hb, hrest⟩
    by_cases hfill : b = 0xff
    . subst hfill
      have hsame : s.byte 0xff = .ok s := by
        unfold JpegScanner.byte
        rw [hdone, if_neg Bool.false_ne_true]
        rcases hphase with hphase | hphase <;> rw [hphase] <;> rfl
      rw [hsame] at hb
      cases hb
      rcases ih hrest (i + 1) with ⟨k, m, rest', s', hrest', hm, hbyte, hends, hsegments⟩
      refine ⟨k + 1, m, rest', s', ?_, hm, hbyte, hends, ?_⟩
      . rw [hrest']
        rfl
      . rw [scannedSegments_cons hsame i hother rest, hsegments]
        congr 1
        omega
    . exact ⟨0, b, rest, s', rfl, hfill, hb, hrest, scannedSegments_cons hb i hother rest⟩

theorem readMarker_cases {s' : JpegScanner} {m : UInt8} (h : s.readMarker m = .ok s')
    : m = 0xd9 ∧ s'.done = true
      ∨ (m = 1 ∨ isRestart m = true) ∧ s'.phase = .markerFF ∧ s'.done = s.done
      ∨ (0xc0 ≤ m ∧ isRestart m = false ∧ m ≠ 0xd8 ∧ m ≠ 0xd9)
        ∧ s'.phase = .lengthHi ∧ s'.marker = m ∧ s'.done = s.done := by
  unfold JpegScanner.readMarker at h
  split at h
  . next heoi =>
    cases h
    exact .inl ⟨heoi, rfl⟩
  . next heoi =>
    split at h
    . cases h
    . next hvalid =>
      rw [not_or, not_or, not_and, not_not] at hvalid
      split at h
      . next hstandalone =>
        cases h
        exact .inr (.inl ⟨hstandalone.imp_right isRestart_iff.mpr, rfl, rfl⟩)
      . next hstandalone =>
        cases h
        rw [not_or] at hstandalone
        refine .inr (.inr ⟨⟨?_, ?_, hvalid.2.1, heoi⟩, rfl, rfl, rfl⟩)
        . by_contra hlow
          exact hstandalone.1 (hvalid.2.2 (UInt8.not_le.mp hlow))
        . rw [Bool.eq_false_iff, ne_eq, isRestart_iff]
          exact hstandalone.2

theorem Ends.payload {s : JpegScanner} {rest : List UInt8} {n : Nat} (h : Ends s rest)
    (hdone : s.done = false) (hphase : s.phase = .segment) (hremaining : s.remaining = n + 1) (i : Nat)
    : ∃ payload rest', ∃ s' : JpegScanner, rest = payload ++ rest' ∧ payload.length = n + 1 ∧ s'.done = false
      ∧ s'.phase = s.afterSegment ∧ Ends s' rest'
      ∧ scannedSegments s i rest = scannedSegments s' (i + payload.length) rest' := by
  have hbyte : ∀ b, s.byte b = .ok {
      s with
      remaining := s.remaining - 1
      phase := if s.remaining - 1 = 0 then s.afterSegment else .segment
    } := by
    intro b
    unfold JpegScanner.byte
    rw [hdone, if_neg Bool.false_ne_true, hphase]
  have hother : s.phase ≠ .lengthLo := by
    rw [hphase]
    exact fun h => by cases h
  cases rest with
  | nil =>
    rw [h.nil] at hdone
    cases hdone
  | cons b rest =>
    rcases h.cons with ⟨s', hb, hrest⟩
    have hsegments := scannedSegments_cons hb i hother rest
    rw [hbyte b] at hb
    cases hb
    cases n with
    | zero =>
      refine ⟨[b], rest, {
        s with
        remaining := s.remaining - 1
        phase := if s.remaining - 1 = 0 then s.afterSegment else .segment
      }, rfl, rfl, hdone, ?_, hrest, hsegments⟩
      show (if s.remaining - 1 = 0 then s.afterSegment else .segment) = s.afterSegment
      rw [if_pos (by omega)]
    | succ n =>
      have hmore : s.remaining - 1 = n + 1 := by omega
      have hsegment : (if s.remaining - 1 = 0 then s.afterSegment else .segment) = ScanPhase.segment := by
        rw [if_neg (by omega)]
      rcases hrest.payload hdone hsegment hmore (i + 1)
        with ⟨payload, rest', s', hrest', hlength, hdone', hphase', hends, hsegments'⟩
      refine ⟨b :: payload, rest', s', ?_, ?_, hdone', hphase', hends, ?_⟩
      . rw [hrest']
        rfl
      . rw [List.length_cons, hlength]
      . rw [hsegments, hsegments', List.length_cons]
        congr 1
        omega

theorem Ends.segment (h : Ends s rest) (hdone : s.done = false) (hphase : s.phase = .lengthHi) (i : Nat)
    : ∃ hi lo payload rest' s', rest = hi :: lo :: (payload ++ rest')
      ∧ hi.toNat * 256 + lo.toNat = payload.length + 2 ∧ s'.done = false ∧ s'.phase = s.afterSegment
      ∧ Ends s' rest'
      ∧ scannedSegments s i rest
        = ⟨s.marker, i + 2, payload⟩ :: scannedSegments s' (i + 2 + payload.length) rest' := by
  cases rest with
  | nil =>
    rw [h.nil] at hdone
    cases hdone
  | cons hi rest =>
    rcases h.cons with ⟨s', hb, hrest⟩
    have hhi : s.byte hi = .ok { s with remaining := hi.toNat * 256, phase := .lengthLo } := by
      unfold JpegScanner.byte
      rw [hdone, if_neg Bool.false_ne_true, hphase]
    have hsegments := scannedSegments_cons hhi i (by rw [hphase]; exact fun h => by cases h) rest
    rw [hhi] at hb
    cases hb
    cases rest with
    | nil => exact absurd (hrest.nil.symm.trans hdone) (by decide)
    | cons lo rest =>
      rcases hrest.cons with ⟨s', hb, hrest'⟩
      have hlo : JpegScanner.byte { s with remaining := hi.toNat * 256, phase := .lengthLo } lo
          = if hi.toNat * 256 + lo.toNat < 2 then
              .error "Invalid JPEG segment length"
            else
              .ok {
                s with
                remaining := hi.toNat * 256 + lo.toNat - 2
                phase := if hi.toNat * 256 + lo.toNat - 2 ≠ 0 then .segment else s.afterSegment
              } := by
        unfold JpegScanner.byte
        dsimp only
        rw [hdone, if_neg Bool.false_ne_true]
        rfl
      rw [hsegments]
      rw [hlo] at hb
      split at hb
      . cases hb
      . next hlong =>
        cases hb
        have hentered : scannedSegments { s with remaining := hi.toNat * 256, phase := .lengthLo } (i + 1)
              (lo :: rest)
            = ⟨s.marker, i + 2, rest.take (hi.toNat * 256 + lo.toNat - 2)⟩
              :: scannedSegments {
                s with
                remaining := hi.toNat * 256 + lo.toNat - 2
                phase := if hi.toNat * 256 + lo.toNat - 2 ≠ 0 then .segment else s.afterSegment
              } (i + 2) rest := by
          rw [scannedSegments, hlo, if_neg hlong]
          rfl
        rw [hentered]
        generalize hremaining : hi.toNat * 256 + lo.toNat - 2 = n at hrest' ⊢
        cases n with
        | zero =>
          refine ⟨hi, lo, [], rest, { s with remaining := 0, phase := s.afterSegment }, rfl, ?_, hdone, rfl,
            hrest', rfl⟩
          rw [List.length_nil]
          omega
        | succ n =>
          rcases hrest'.payload hdone rfl rfl (i + 2)
            with ⟨payload, rest', s', rfl, hlength, hdone', hphase', hends, hsegments'⟩
          refine ⟨hi, lo, payload, rest', s', rfl, by omega, hdone', hphase', hends, ?_⟩
          have htake : (payload ++ rest').take (n + 1) = payload := by rw [← hlength, List.take_left]
          rw [htake, hsegments']

-- What is read after a fill is the end, a marker without a length or a segment.
theorem Ends.marker {s' : JpegScanner} {m : UInt8} (hm : m ≠ 0xff) (hmarker : s.readMarker m = .ok s')
    (hdone : s.done = false) (h : Ends s' rest) (e : Bool) (p k : Nat)
    (ih : ∀ {s : JpegScanner} {p : Nat} {rest' : List UInt8}, rest'.length ≤ rest.length → Ends s rest'
      → s.done = false
      → (s.phase = .markerFF → Tail false p rest' (scannedSegments s p rest'))
        ∧ (s.phase = .entropy → Tail true p rest' (scannedSegments s p rest')))
    : Tail e p (0xff :: (List.replicate k 0xff ++ m :: rest)) (scannedSegments s' (p + k + 2) rest) := by
  rcases readMarker_cases hmarker with ⟨rfl, hend⟩ | ⟨hstandalone, hphase, hsame⟩
    | ⟨⟨hlow, hrestart, hsoi, heoi⟩, hphase, hname, hsame⟩
  . rw [h.eq_nil hend]
    exact .eoi
  . exact .standalone hstandalone ((ih (Nat.le_refl _) h (hsame.trans hdone)).1 hphase)
  . rcases h.segment (hsame.trans hdone) hphase (p + k + 2)
      with ⟨hi, lo, payload, rest', t, rfl, hlength, hdone', hafter, hends, hsegments⟩
    have hshort : rest'.length ≤ (hi :: lo :: (payload ++ rest')).length := by
      simp only [List.length_cons, List.length_append]
      omega
    have htail := @ih t (p + k + 4 + payload.length) rest' hshort hends hdone'
    rw [hsegments, hname]
    refine .segment hlow hrestart hsoi heoi hm hlength ?_
    unfold JpegScanner.afterSegment at hafter
    rw [hname] at hafter
    by_cases hscan : m = 0xda
    . rw [if_pos hscan] at hafter
      rw [decide_eq_true hscan]
      exact htail.2 hafter
    . rw [if_neg hscan] at hafter
      rw [decide_eq_false hscan]
      exact htail.1 hafter

-- After the first byte of a marker.
theorem Ends.afterFF {s : JpegScanner} {rest : List UInt8} (h : Ends s rest) (hdone : s.done = false)
    {e : Bool} (hphase : s.phase = .marker ∨ s.phase = .entropyFF ∧ e = true) {p : Nat}
    (ih : ∀ {s : JpegScanner} {p : Nat} {rest' : List UInt8}, rest'.length ≤ rest.length → Ends s rest'
      → s.done = false
      → (s.phase = .markerFF → Tail false p rest' (scannedSegments s p rest'))
        ∧ (s.phase = .entropy → Tail true p rest' (scannedSegments s p rest')))
    : Tail e p (0xff :: rest) (scannedSegments s (p + 1) rest) := by
  rcases h.fill hdone (hphase.imp id And.left) (p + 1)
    with ⟨k, m, rest', s', rfl, hm, hbyte, hends, hsegments⟩
  have hshort : rest'.length ≤ (List.replicate k 0xff ++ m :: rest').length := by
    simp only [List.length_append, List.length_cons]
    omega
  have hindex : p + 1 + k + 1 = p + k + 2 := by omega
  rw [hsegments, hindex]
  unfold JpegScanner.byte at hbyte
  rw [hdone, if_neg Bool.false_ne_true] at hbyte
  rcases hphase with hphase | ⟨hphase, rfl⟩
  . rw [hphase] at hbyte
    dsimp only at hbyte
    rw [if_pos hm] at hbyte
    exact hends.marker hm hbyte hdone e p k (fun hle => ih (hle.trans hshort))
  . rw [hphase] at hbyte
    dsimp only at hbyte
    split at hbyte
    . next hstuffed =>
      cases hbyte
      exact .stuffed (hstuffed.imp_right isRestart_iff.mpr) ((ih hshort hends rfl).2 rfl)
    . exact hends.marker hm hbyte hdone true p k (fun hle => ih (hle.trans hshort))

theorem Ends.tail {s : JpegScanner} {p : Nat} {rest : List UInt8} (h : Ends s rest) (hdone : s.done = false)
    : (s.phase = .markerFF → Tail false p rest (scannedSegments s p rest))
      ∧ (s.phase = .entropy → Tail true p rest (scannedSegments s p rest)) := by
  induction hlength : rest.length using Nat.strong_induction_on generalizing s p rest with
  | _ n ih =>
    cases rest with
    | nil => exact absurd (h.nil.symm.trans hdone) (by decide)
    | cons b rest =>
      have hshorter : ∀ {s : JpegScanner} {p : Nat} {rest' : List UInt8}, rest'.length ≤ rest.length
          → Ends s rest' → s.done = false
          → (s.phase = .markerFF → Tail false p rest' (scannedSegments s p rest'))
            ∧ (s.phase = .entropy → Tail true p rest' (scannedSegments s p rest')) := by
        intro s p rest' hle h hdone
        refine ih rest'.length ?_ h hdone rfl
        rw [List.length_cons] at hlength
        omega
      rcases h.cons with ⟨s', hb, hrest⟩
      constructor
      . intro hphase
        have hsegments := scannedSegments_cons hb p (by rw [hphase]; exact fun h => by cases h) rest
        unfold JpegScanner.byte at hb
        rw [hdone, if_neg Bool.false_ne_true, hphase] at hb
        dsimp only at hb
        split at hb
        . cases hb
        . next hff =>
          rw [not_not] at hff
          cases hb
          rw [hff, hsegments] at *
          exact hrest.afterFF rfl (.inl rfl) hshorter
      . intro hphase
        have hsegments := scannedSegments_cons hb p (by rw [hphase]; exact fun h => by cases h) rest
        unfold JpegScanner.byte at hb
        rw [hdone, if_neg Bool.false_ne_true, hphase] at hb
        dsimp only at hb
        cases hb
        split at hrest
        . next hff =>
          rw [if_pos hff] at hsegments
          rw [hsegments, hff]
          exact hrest.afterFF rfl (.inr ⟨rfl, rfl⟩) hshorter
        . next hff =>
          rw [if_neg hff] at hsegments
          rw [hsegments]
          exact .data hff ((hshorter (Nat.le_refl _) hrest hdone).2 hphase)

end Scanner

theorem skipFill_replicate (p k : Nat) {m : UInt8} (hm : m ≠ 0xff) (rest : List UInt8)
    : ∃ h, skipFill p (List.replicate k 0xff ++ m :: rest) = some ⟨(p + k, m, rest), h⟩ := by
  induction k generalizing p with
  | zero => exact ⟨Nat.lt_succ_self _, if_neg hm⟩
  | succ k ih =>
    rcases ih (p + 1) with ⟨h, heq⟩
    have hindex : p + 1 + k = p + (k + 1) := by omega
    rw [hindex] at heq
    show ∃ h, skipFill p (0xff :: (List.replicate k 0xff ++ m :: rest)) = some ⟨(p + (k + 1), m, rest), h⟩
    refine ⟨Nat.lt_succ_of_lt h, ?_⟩
    rw [skipFill, if_pos rfl, heq]
    rfl

theorem frameDimensions_append {payload : List UInt8} (h : 5 ≤ payload.length) (rest : List UInt8)
    : frameDimensions (payload ++ rest) = frameDimensions payload
      ∧ ∃ dimensions, frameDimensions payload = some dimensions := by
  match payload with
  | _ :: _ :: _ :: _ :: _ :: _ => exact ⟨rfl, _, rfl⟩

section Geometry

variable {γ : Type} (readMetadata : List UInt8 → Option γ) (maxMetadataBytes : Nat)

-- What the walk does with the segments, without reading the array.
def follow (w : Walk γ) : List Segment → Walk γ × WalkEnd
  | [] => (w, .finished)
  | seg :: segs =>
    let w := w.enter readMetadata maxMetadataBytes seg
    if isSof seg.marker then
      if seg.payload.length < 6 ∨ w.dimensions.isSome then
        (w, .returnedNull)
      else
        follow { w with dimensions := frameDimensions seg.payload } segs
    else
      follow w segs

theorem walk_tail {e : Bool} {p : Nat} {rest : List UInt8} {segs : List Segment} (h : Tail e p rest segs)
    : ∀ entropy w, (e = true → entropy = true)
      → walk readMetadata maxMetadataBytes entropy p rest w
        = follow readMetadata maxMetadataBytes w segs := by
  induction h with
  | data hb h ih =>
    intro entropy w hentropy
    rw [walk, if_pos ⟨hentropy rfl, hb⟩]
    exact ih entropy w hentropy
  | @stuffed m k p rest segs hm h ih =>
    intro entropy w hentropy
    have hfill : m ≠ 0xff := ne_of_short hm (by decide) rfl
    rcases skipFill_replicate (p + 1) k hfill rest with ⟨_, heq⟩
    rw [walk, if_neg (fun h => h.2 rfl), heq]
    dsimp only
    rw [if_pos ⟨hentropy rfl, hm⟩]
    have hindex : p + 1 + k + 1 = p + k + 2 := by omega
    rw [hindex]
    exact ih entropy w hentropy
  | @eoi e k p =>
    intro entropy w _
    rcases skipFill_replicate (p + 1) k (show (0xd9 : UInt8) ≠ 0xff by decide) [] with ⟨_, heq⟩
    rw [walk, if_neg (fun h => h.2 rfl), heq]
    dsimp only
    rw [if_neg (by rintro ⟨_, h | h⟩ <;> revert h <;> decide), if_pos rfl]
    rfl
  | @standalone e m k p rest segs hm h ih =>
    intro entropy w _
    have hfill : m ≠ 0xff := ne_of_short hm (by decide) rfl
    have heoi : m ≠ 0xd9 := ne_of_short hm (by decide) rfl
    have hindex : p + 1 + k + 1 = p + k + 2 := by omega
    rcases skipFill_replicate (p + 1) k hfill rest with ⟨_, heq⟩
    rw [walk, if_neg (fun h => h.2 rfl), heq]
    dsimp only
    rw [hindex, ih entropy w (fun h => by cases h), if_neg heoi, if_pos hm, ite_self]
  | @segment e m hi lo k p payload rest segs hm hrestart hsoi heoi hfill hlength h ih =>
    intro entropy w _
    rcases skipFill_replicate (p + 1) k hfill (hi :: lo :: (payload ++ rest)) with ⟨_, heq⟩
    rw [walk, if_neg (fun h => h.2 rfl), heq]
    have hplain : ¬(m = 0 ∨ isRestart m = true) := not_short (by decide) hm hrestart
    have hlonger : ¬(m = 1 ∨ isRestart m = true) := not_short (by decide) hm hrestart
    have hroom : ¬(m = 0xef ∧ signature.length ≤ payload.length + 2 - 2
        ∧ (payload ++ rest).length < signature.length) := by
      rintro ⟨_, hle, hlt⟩
      rw [List.length_append] at hlt
      omega
    have htake : (payload ++ rest).take (payload.length + 2 - 2) = payload := List.take_left
    have hstart : p + 1 + k + 3 = p + k + 4 := by omega
    have hend : p + 1 + k + 1 + (payload.length + 2) = p + k + 4 + payload.length := by omega
    dsimp only
    rw [if_neg (fun h => hplain h.2), if_neg heoi, if_neg hlonger, hlength, if_neg hroom]
    rw [htake, drop_segment, hstart, hend]
    unfold follow
    dsimp only
    by_cases hsof : isSof m = true
    . rw [if_pos hsof, if_pos hsof]
      by_cases hnull : payload.length < 6
          ∨ (w.enter readMetadata maxMetadataBytes ⟨m, p + k + 4, payload⟩).dimensions.isSome = true
      . rw [if_pos hnull, if_pos (hnull.imp (fun h => by omega) id)]
      . rw [if_neg hnull, if_neg (fun h => hnull (h.imp (fun h => by omega) id))]
        rw [not_or] at hnull
        rcases frameDimensions_append (show 5 ≤ payload.length by omega) rest
          with ⟨happend, dimensions, hsome⟩
        rw [happend, hsome]
        exact ih _ _ id
    . rw [if_neg hsof, if_neg hsof]
      exact ih _ _ id

-- The segments up to the first frame header that is too short or not the first one.
def upToNull : Bool → List Segment → List Segment
  | _, [] => []
  | seen, seg :: segs =>
    if isSof seg.marker then
      if seg.payload.length < 6 ∨ seen then [seg] else seg :: upToNull true segs
    else
      seg :: upToNull seen segs

-- A frame header with room for the dimensions.
def isSized (seg : Segment) : Bool :=
  isSof seg.marker && 6 ≤ seg.payload.length

@[simp]
theorem visited_enter (w : Walk γ) (seg : Segment)
    : (w.enter readMetadata maxMetadataBytes seg).visited = w.visited ++ [seg] := by
  unfold Walk.enter
  split <;> rfl

@[simp]
theorem dimensions_enter (w : Walk γ) (seg : Segment)
    : (w.enter readMetadata maxMetadataBytes seg).dimensions = w.dimensions := by
  unfold Walk.enter
  split <;> rfl

theorem follow_visited (w : Walk γ) (segs : List Segment)
    : (follow readMetadata maxMetadataBytes w segs).1.visited
        = w.visited ++ upToNull w.dimensions.isSome segs
      ∧ (follow readMetadata maxMetadataBytes w segs).2 ≠ .outside
      ∧ ((follow readMetadata maxMetadataBytes w segs).2 = .finished
        → upToNull w.dimensions.isSome segs = segs) := by
  induction segs generalizing w with
  | nil => exact ⟨(List.append_nil _).symm, (fun h => by cases h), fun _ => rfl⟩
  | cons seg segs ih =>
    unfold follow upToNull
    dsimp only
    rw [dimensions_enter]
    by_cases hsof : isSof seg.marker = true
    . rw [if_pos hsof, if_pos hsof]
      by_cases hnull : seg.payload.length < 6 ∨ w.dimensions.isSome = true
      . rw [if_pos hnull, if_pos hnull]
        exact ⟨visited_enter _ _ _ _, (fun h => by cases h), (fun h => by cases h)⟩
      . rw [if_neg hnull, if_neg hnull]
        rw [not_or] at hnull
        rcases frameDimensions_append (show 5 ≤ seg.payload.length by omega) [] with ⟨_, dimensions, hsome⟩
        rw [hsome]
        rcases ih { w.enter readMetadata maxMetadataBytes seg with dimensions := some dimensions }
          with ⟨hvisited, houtside, hfinished⟩
        refine ⟨?_, houtside, fun h => congrArg (seg :: ·) (hfinished h)⟩
        rw [hvisited]
        show (w.enter readMetadata maxMetadataBytes seg).visited ++ _ = _
        rw [visited_enter, List.append_assoc]
        rfl
    . rw [if_neg hsof, if_neg hsof]
      rcases ih (w.enter readMetadata maxMetadataBytes seg) with ⟨hvisited, houtside, hfinished⟩
      rw [dimensions_enter] at hvisited hfinished
      refine ⟨?_, houtside, fun h => congrArg (seg :: ·) (hfinished h)⟩
      rw [hvisited, visited_enter, List.append_assoc]
      rfl

theorem follow_keeps {w : Walk γ} {dimensions : Nat × Nat} (h : w.dimensions = some dimensions)
    (segs : List Segment) : (follow readMetadata maxMetadataBytes w segs).1.dimensions = some dimensions := by
  induction segs generalizing w with
  | nil => exact h
  | cons seg segs ih =>
    have henter := (dimensions_enter readMetadata maxMetadataBytes w seg).trans h
    unfold follow
    dsimp only
    split
    . rw [henter, if_pos (.inr rfl)]
      exact henter
    . exact ih henter

theorem follow_dimensions {w : Walk γ} (hnone : w.dimensions = none) {segs : List Segment}
    {dimensions : Nat × Nat}
    (h : (follow readMetadata maxMetadataBytes w segs).1.dimensions = some dimensions)
    : ∃ seg, segs.find? isSized = some seg ∧ frameDimensions seg.payload = some dimensions := by
  induction segs generalizing w with
  | nil => exact absurd (hnone.symm.trans h) (fun h => by cases h)
  | cons seg segs ih =>
    have henter := (dimensions_enter readMetadata maxMetadataBytes w seg).trans hnone
    unfold follow at h
    dsimp only at h
    split at h
    . next hsof =>
      rw [henter] at h
      split at h
      . exact absurd (henter.symm.trans h) (fun h => by cases h)
      . next hnull =>
        rw [not_or] at hnull
        have hsized : isSized seg = true := by
          unfold isSized
          rw [hsof, Bool.true_and, decide_eq_true_eq]
          omega
        rcases frameDimensions_append (show 5 ≤ seg.payload.length by omega) [] with ⟨_, first, hfirst⟩
        rw [follow_keeps readMetadata maxMetadataBytes hfirst segs] at h
        exact ⟨seg, List.find?_cons_of_pos hsized, hfirst.trans h⟩
    . next hsof =>
      have hsized : ¬isSized seg = true := by
        unfold isSized
        rw [Bool.and_eq_true]
        exact fun h => hsof h.1
      rw [List.find?_cons_of_neg hsized]
      exact ih henter h

end Geometry

theorem decodeWalk_tail {e : Bool} {p : Nat} {rest : List UInt8} {segs : List Segment}
    (h : Tail e p rest segs)
    : e = false → decodeWalk rest ≠ .outside
      ∧ ∀ dimensions, decodeWalk rest = .size dimensions
        → ∃ seg, segs.find? isSized = some seg ∧ frameDimensions seg.payload = some dimensions := by
  induction h with
  | data hb h ih =>
    intro he
    cases he
  | stuffed hm h ih =>
    intro he
    cases he
  | @eoi e k p =>
    intro _
    rcases skipFill_replicate 0 k (show (0xd9 : UInt8) ≠ 0xff by decide) [] with ⟨_, heq⟩
    have hnone : decodeWalk (0xff :: (List.replicate k 0xff ++ [0xd9])) = .noDimensions := by
      rw [decodeWalk]
      split
      . rfl
      . rw [heq]
        rfl
    rw [hnone]
    exact ⟨(fun h => by cases h), (fun _ h => by cases h)⟩
  | @standalone e m k p rest segs hm h ih =>
    intro _
    have hfill : m ≠ 0xff := ne_of_short hm (by decide) rfl
    have hend : ¬(m = 0xda ∨ m = 0xd9) :=
      not_or.mpr ⟨ne_of_short hm (by decide) rfl, ne_of_short hm (by decide) rfl⟩
    rcases skipFill_replicate 0 k hfill rest with ⟨_, heq⟩
    rw [decodeWalk]
    split
    . exact ⟨(fun h => by cases h), (fun _ h => by cases h)⟩
    . rw [heq]
      dsimp only
      rw [if_neg hend, if_pos hm]
      exact ih rfl
  | @segment e m hi lo k p payload rest segs hm hrestart hsoi heoi hfill hlength h ih =>
    intro _
    rcases skipFill_replicate 0 k hfill (hi :: lo :: (payload ++ rest)) with ⟨_, heq⟩
    rw [decodeWalk]
    split
    . exact ⟨(fun h => by cases h), (fun _ h => by cases h)⟩
    . rw [heq]
      dsimp only
      have hstandalone : ¬(m = 1 ∨ isRestart m = true) := not_short (by decide) hm hrestart
      by_cases hscan : m = 0xda
      . rw [if_pos (.inl hscan)]
        exact ⟨(fun h => by cases h), (fun _ h => by cases h)⟩
      . have hend : ¬(m = 0xda ∨ m = 0xd9) := by
          rintro (h | h)
          . exact hscan h
          . exact heoi h
        have hfits : ¬(payload.length + 2 < 2
            ∨ (hi :: lo :: (payload ++ rest)).length < payload.length + 2) := by
          simp only [List.length_cons, List.length_append]
          omega
        rw [if_neg hend, if_neg hstandalone, hlength, if_neg hfits, drop_segment]
        by_cases hsized : isSized ⟨m, p + k + 4, payload⟩ = true
        . rw [List.find?_cons_of_pos hsized]
          unfold isSized at hsized
          rw [Bool.and_eq_true, decide_eq_true_eq] at hsized
          have hlong : 6 ≤ payload.length := hsized.2
          rcases frameDimensions_append (show 5 ≤ payload.length by omega) rest
            with ⟨happend, dimensions, hsome⟩
          rw [if_pos ⟨hsized.1, Nat.add_le_add_right hlong 2⟩, happend, hsome]
          dsimp only
          split
          . refine ⟨(fun h => by cases h), ?_⟩
            rintro _ ⟨⟩
            exact ⟨_, rfl, hsome⟩
          . exact ⟨(fun h => by cases h), (fun _ h => by cases h)⟩
        . rw [List.find?_cons_of_neg hsized, if_neg]
          . exact ih (decide_eq_false hscan)
          . rintro ⟨hsof, hlong⟩
            apply hsized
            unfold isSized
            rw [Bool.and_eq_true, decide_eq_true_eq]
            refine ⟨hsof, ?_⟩
            show 6 ≤ payload.length
            omega

theorem byte_soiFF {s : JpegScanner} {b : UInt8} (h : JpegScanner.byte {} b = .ok s)
    : s = { phase := .soiD8 } := by
  unfold JpegScanner.byte at h
  rw [if_neg Bool.false_ne_true] at h
  dsimp only at h
  split at h
  . cases h
  . cases h
    rfl

theorem byte_soiD8 {s : JpegScanner} {b : UInt8} (h : JpegScanner.byte { phase := .soiD8 } b = .ok s)
    : s = { phase := .markerFF } := by
  unfold JpegScanner.byte at h
  rw [if_neg Bool.false_ne_true] at h
  dsimp only at h
  split at h
  . cases h
  . cases h
    rfl

theorem tail_of_accepts {jpeg : List UInt8} (h : JpegScanner.Accepts jpeg)
    : Tail false 2 (jpeg.drop 2) (scannedSegments {} 0 jpeg) := by
  rcases h with ⟨t, hscan, hcomplete⟩
  have hdone : t.done = true := by
    unfold JpegScanner.complete at hcomplete
    rw [Bool.and_eq_true, Bool.and_eq_true] at hcomplete
    exact hcomplete.1.1
  have hends : Ends {} jpeg := ⟨t, hscan, hdone⟩
  match jpeg with
  | [] => exact absurd hends.nil (by decide)
  | [b] =>
    rcases hends.cons with ⟨s, hb, hrest⟩
    rw [byte_soiFF hb] at hrest
    exact absurd hrest.nil (by decide)
  | b :: b' :: rest =>
    rcases hends.cons with ⟨s, hb, hrest⟩
    cases byte_soiFF hb
    rcases hrest.cons with ⟨s', hb', hrest'⟩
    cases byte_soiD8 hb'
    rw [scannedSegments_cons hb 0 (fun h => by cases h), scannedSegments_cons hb' 1 (fun h => by cases h)]
    exact (hrest'.tail rfl).1 rfl

/--
The walks over the markers of what the scanner accepts stay inside the array. The first one visits the
segments of the scanner up to the frame header at which it returns null, and all of them when it does not.
When both walks find dimensions, they are the same.
-/
theorem walkers_agree {γ : Type} (readMetadata : List UInt8 → Option γ) (maxMetadataBytes : Nat)
    (jpeg : List UInt8) (h : JpegScanner.Accepts jpeg)
    : let walk := walkFrom readMetadata maxMetadataBytes jpeg
      walk.2 ≠ .outside
      ∧ jpegDecodeSize jpeg ≠ .outside
      ∧ walk.1.visited = upToNull false (scannedSegments {} 0 jpeg)
      ∧ (walk.2 = .finished → walk.1.visited = scannedSegments {} 0 jpeg)
      ∧ ∀ decoded dimensions, jpegDecodeSize jpeg = .size decoded → walk.1.dimensions = some dimensions
        → decoded = dimensions := by
  have htail := tail_of_accepts h
  have hdecode := decodeWalk_tail htail rfl
  have hwalk : walkFrom readMetadata maxMetadataBytes jpeg
      = follow readMetadata maxMetadataBytes {} (scannedSegments {} 0 jpeg) :=
    walk_tail readMetadata maxMetadataBytes htail false {} id
  rcases follow_visited readMetadata maxMetadataBytes {} (scannedSegments {} 0 jpeg)
    with ⟨hvisited, houtside, hfinished⟩
  intro walk
  have hwalk : walk = follow readMetadata maxMetadataBytes {} (scannedSegments {} 0 jpeg) := hwalk
  rw [hwalk]
  refine ⟨houtside, hdecode.1, hvisited, ?_, ?_⟩
  . intro hend
    rw [hvisited]
    exact hfinished hend
  . intro decoded dimensions hdecoded hdimensions
    rcases hdecode.2 decoded hdecoded with ⟨seg, hseg, hsize⟩
    rcases follow_dimensions readMetadata maxMetadataBytes rfl hdimensions with ⟨seg', hseg', hsize'⟩
    rw [hseg] at hseg'
    cases hseg'
    rw [hsize] at hsize'
    exact Option.some.inj hsize'

namespace Example

def frameHeader : List UInt8 :=
  [0xff, 0xc0, 0, 8, 8, 0, 1, 0, 1, 0]

def scanHeader : List UInt8 :=
  [0xff, 0xda, 0, 2, 0x12, 0xff, 0, 0xff, 0xd0, 0x34]

def jpeg : List UInt8 :=
  [0xff, 0xd8] ++ frameHeader ++ scanHeader ++ [0xff, 0xd9]

def twoHeaders : List UInt8 :=
  [0xff, 0xd8] ++ frameHeader ++ frameHeader ++ scanHeader ++ [0xff, 0xd9]

theorem accepts : JpegScanner.Accepts jpeg :=
  ⟨⟨.entropyFF, 0xda, 0, true, true, true⟩, by decide +kernel, rfl⟩

theorem accepts_twoHeaders : JpegScanner.Accepts twoHeaders :=
  ⟨⟨.entropyFF, 0xda, 0, true, true, true⟩, by decide +kernel, rfl⟩

end Example

theorem walkers_agree_example
    : (walkFrom (fun _ => some ()) 4096 Example.jpeg).1.visited
      = upToNull false (scannedSegments {} 0 Example.jpeg) :=
  (walkers_agree (fun _ => some ()) 4096 Example.jpeg Example.accepts).2.2.1

-- The walk returns null at a second frame header and does not visit the scan.
theorem second_header_returns_null
    : JpegScanner.Accepts Example.twoHeaders
      ∧ (walkFrom (fun _ => some ()) 4096 Example.twoHeaders).2 = .returnedNull
      ∧ (walkFrom (fun _ => some ()) 4096 Example.twoHeaders).1.visited.length = 2
      ∧ (scannedSegments {} 0 Example.twoHeaders).length = 3 := by
  have htail := walk_tail (fun _ => some ()) 4096 (tail_of_accepts Example.accepts_twoHeaders) false {} id
  unfold walkFrom
  rw [htail]
  exact ⟨Example.accepts_twoHeaders, by decide +kernel, by decide +kernel, by decide +kernel⟩

end JpegWalk

end Vantyr
