import Mathlib.Tactic.Ring
import Vantyr.Agent.Input

/-!
This module contains how the agent maps a pixel of a frame to a pixel of the desktop,
`DesktopRect::map` in `agent/src/capture/geometry.rs`, on the machine integers of the source. The
computation is done on `i64`, where an operation that leaves the range panics. The main result is that
none does, and that the corners of the frame are mapped to the corners of the rectangle. It follows that
the input controller, which maps with unbounded integers, computes the same.
-/

namespace Vantyr

namespace FixedWidth

inductive Panic where
  | overflow
  deriving DecidableEq, Repr

-- The result of an operation on `i64`.
def checkedI64 (n : Int) : Except Panic Int :=
  if -2 ^ 63 ≤ n ∧ n < 2 ^ 63 then .ok n else .error .overflow

theorem checkedI64_bind {α : Type} {n : Int} (h : -2 ^ 63 ≤ n ∧ n < 2 ^ 63) (f : Int → Except Panic α)
    : (checkedI64 n >>= f) = f n := by
  unfold checkedI64
  rw [if_pos h]
  rfl

structure DesktopRect where
  x : Int32
  y : Int32
  physicalWidth : UInt32
  physicalHeight : UInt32
  deriving DecidableEq

namespace DesktopRect

def valid (r : DesktopRect) : Bool :=
  0 < r.physicalWidth.toNat
    && 0 < r.physicalHeight.toNat
    && r.x.toInt + r.physicalWidth.toNat - 1 ≤ 2 ^ 31 - 1
    && r.y.toInt + r.physicalHeight.toNat - 1 ≤ 2 ^ 31 - 1

-- The division is within `i64` as soon as its operands are.
def spread (size : UInt32) (last p : Int) : Except Panic Int := do
  let range ← checkedI64 ((size.toNat : Int) - 1)
  let product ← checkedI64 (p * range)
  let sum ← checkedI64 (product + last.tdiv 2)
  return sum.tdiv last

def offset (size frame : UInt32) (last p : Int) : Except Panic Int :=
  if frame.toNat = 1 then .ok 0 else spread size last p

def axis (origin : Int32) (size frame : UInt32) (p : Int32) : Except Panic Int32 := do
  let last ← checkedI64 ((frame.toNat : Int) - 1)
  let p := max 0 (min p.toInt last)
  let offset ← offset size frame last p
  let result ← checkedI64 (origin.toInt + offset)
  return Int32.ofInt result

def map (r : DesktopRect) (frameWidth frameHeight : UInt32) (x y : Int32)
    : Except Panic (Option (Int32 × Int32)) :=
  if !r.valid ∨ frameWidth.toNat = 0 ∨ frameHeight.toNat = 0 then
    .ok none
  else do
    let x ← axis r.x r.physicalWidth frameWidth x
    let y ← axis r.y r.physicalHeight frameHeight y
    return some (x, y)

/-!
What an axis is to do: the pixels of a frame are spread evenly over those of the desktop.
-/

def clamped (frame : Nat) (p : Int) : Int :=
  max 0 (min p (frame - 1))

-- The nearest pixel to `p / (frame - 1)` of the way from the first to the last one.
def scaled (size frame : Nat) (p : Int) : Int :=
  if frame = 1 then 0 else (clamped frame p * (size - 1) + (frame - 1) / 2) / (frame - 1)

variable {size frame : Nat}

theorem clamped_nonneg (frame : Nat) (p : Int) : 0 ≤ clamped frame p :=
  le_max_left _ _

theorem clamped_le (hframe : 0 < frame) (p : Int) : clamped frame p ≤ frame - 1 := by
  unfold clamped
  omega

theorem clamped_mono (frame : Nat) {p q : Int} (h : p ≤ q) : clamped frame p ≤ clamped frame q := by
  unfold clamped
  omega

theorem scaled_nonneg (hsize : 0 < size) (hframe : 0 < frame) (p : Int) : 0 ≤ scaled size frame p := by
  unfold scaled
  split
  . exact le_refl 0
  . have hproduct : 0 ≤ clamped frame p * ((size : Int) - 1) :=
      Int.mul_nonneg (clamped_nonneg frame p) (by omega)
    apply Int.ediv_nonneg
    . omega
    . omega

theorem scaled_le (hsize : 0 < size) (hframe : 0 < frame) (p : Int)
    : scaled size frame p ≤ size - 1 := by
  unfold scaled
  split
  . omega
  . next hne =>
    have hproduct : clamped frame p * ((size : Int) - 1) ≤ (frame - 1) * (size - 1) :=
      Int.mul_le_mul_of_nonneg_right (clamped_le hframe p) (by omega)
    -- Less than a pixel is added before the division.
    have hlast : (size : Int) * (frame - 1) = (frame - 1) * (size - 1) + (frame - 1) := by ring
    apply Int.le_sub_one_of_lt
    rw [Int.ediv_lt_iff_lt_mul (by omega), hlast]
    omega

theorem scaled_mono (hsize : 0 < size) (hframe : 0 < frame) {p q : Int} (h : p ≤ q)
    : scaled size frame p ≤ scaled size frame q := by
  unfold scaled
  split
  . exact le_refl 0
  . apply Int.ediv_le_ediv (by omega)
    have hproduct : clamped frame p * ((size : Int) - 1) ≤ clamped frame q * (size - 1) :=
      Int.mul_le_mul_of_nonneg_right (clamped_mono frame h) (by omega)
    omega

theorem scaled_first (hframe : 2 ≤ frame) : scaled size frame 0 = 0 := by
  have hzero : clamped frame 0 = 0 := by
    unfold clamped
    omega
  rw [scaled, if_neg (by omega), hzero, Int.zero_mul, Int.zero_add]
  apply Int.ediv_eq_zero_of_lt
  . omega
  . omega

theorem scaled_last (hframe : 2 ≤ frame) : scaled size frame (frame - 1) = size - 1 := by
  have hlast : clamped frame (frame - 1) = frame - 1 := by
    unfold clamped
    omega
  rw [scaled, if_neg (by omega), hlast, Int.add_comm, Int.add_mul_ediv_left _ _ (by omega),
    Int.ediv_eq_zero_of_lt (by omega) (by omega), Int.zero_add]

/-!
The computation stays in range, and computes this.
-/

theorem product_range {p range : Int} (hp : 0 ≤ p ∧ p < 2 ^ 31) (hrange : 0 ≤ range ∧ range < 2 ^ 32 - 1)
    : 0 ≤ p * range ∧ p * range ≤ (2 ^ 31 - 1) * (2 ^ 32 - 2) := by
  constructor
  . exact Int.mul_nonneg hp.1 hrange.1
  . apply Int.mul_le_mul
    . omega
    . omega
    . exact hrange.1
    . decide

theorem spread_eq {size : UInt32} {frame : Nat} (hframe : 2 ≤ frame) (hsize : 0 < size.toNat) {p : Int}
    (hp : clamped frame p < 2 ^ 31) (hlast : frame < 2 ^ 32)
    : spread size (frame - 1) (clamped frame p) = .ok (scaled size.toNat frame p) := by
  have hsize' := size.toNat_lt
  have hproduct := @product_range _ ((size.toNat : Int) - 1) ⟨clamped_nonneg frame p, hp⟩ (by omega)
  have hhalf : Int.tdiv ((frame : Int) - 1) 2 = (frame - 1) / 2 :=
    Int.tdiv_eq_ediv_of_nonneg (by omega)
  have hscaled : Int.tdiv (clamped frame p * ((size.toNat : Int) - 1) + ((frame : Int) - 1) / 2)
      (frame - 1) = scaled size.toNat frame p := by
    rw [scaled, if_neg (by omega)]
    exact Int.tdiv_eq_ediv_of_nonneg (by omega)
  unfold spread
  rw [checkedI64_bind (by omega), checkedI64_bind (by omega), hhalf, checkedI64_bind (by omega), hscaled]
  rfl

theorem axis_eq {origin : Int32} {size frame : UInt32} (hsize : 0 < size.toNat)
    (hfits : origin.toInt + size.toNat - 1 ≤ 2 ^ 31 - 1) (hframe : 0 < frame.toNat) (p : Int32)
    : ∃ q, axis origin size frame p = .ok q
      ∧ q.toInt = origin.toInt + scaled size.toNat frame.toNat p.toInt := by
  have horigin := origin.le_toInt
  have hnonneg := scaled_nonneg hsize hframe p.toInt
  have hle := scaled_le hsize hframe p.toInt
  have hframe' := frame.toNat_lt
  have hp := p.toInt_lt
  have hclamped : clamped frame.toNat p.toInt < 2 ^ 31 := by
    unfold clamped
    omega
  have hoffset : offset size frame ((frame.toNat : Int) - 1) (clamped frame.toNat p.toInt)
      = .ok (scaled size.toNat frame.toNat p.toInt) := by
    unfold offset
    split
    . next hone => rw [scaled, if_pos hone]
    . exact spread_eq (by omega) hsize hclamped hframe'
  refine ⟨Int32.ofInt (origin.toInt + scaled size.toNat frame.toNat p.toInt), ?_, ?_⟩
  . unfold axis
    rw [checkedI64_bind (by omega)]
    change (offset size frame ((frame.toNat : Int) - 1) (clamped frame.toNat p.toInt) >>= _) = _
    rw [hoffset]
    exact checkedI64_bind (by omega) _
  . exact Int32.toInt_ofInt_of_le (by omega) (by omega)

-- The first and the last pixel of the rectangle along both axes.
def Contains (r : DesktopRect) (point : Int32 × Int32) : Prop :=
  (r.x.toInt ≤ point.1.toInt ∧ point.1.toInt ≤ r.x.toInt + r.physicalWidth.toNat - 1)
    ∧ r.y.toInt ≤ point.2.toInt ∧ point.2.toInt ≤ r.y.toInt + r.physicalHeight.toNat - 1

theorem valid_iff (r : DesktopRect)
    : r.valid = true ↔ (0 < r.physicalWidth.toNat ∧ r.x.toInt + r.physicalWidth.toNat - 1 ≤ 2 ^ 31 - 1)
      ∧ 0 < r.physicalHeight.toNat ∧ r.y.toInt + r.physicalHeight.toNat - 1 ≤ 2 ^ 31 - 1 := by
  simp only [valid, Bool.and_eq_true, decide_eq_true_eq]
  tauto

theorem map_eq {r : DesktopRect} (hvalid : r.valid = true) {frameWidth frameHeight : UInt32}
    (hwidth : 0 < frameWidth.toNat) (hheight : 0 < frameHeight.toNat) (x y : Int32)
    : ∃ point, r.map frameWidth frameHeight x y = .ok (some point)
      ∧ point.1.toInt = r.x.toInt + scaled r.physicalWidth.toNat frameWidth.toNat x.toInt
      ∧ point.2.toInt = r.y.toInt + scaled r.physicalHeight.toNat frameHeight.toNat y.toInt := by
  have hparts := r.valid_iff.mp hvalid
  rcases axis_eq hparts.1.1 hparts.1.2 hwidth x with ⟨px, hx, hpx⟩
  rcases axis_eq hparts.2.1 hparts.2.2 hheight y with ⟨py, hy, hpy⟩
  refine ⟨(px, py), ?_, hpx, hpy⟩
  unfold map
  rw [if_neg, hx, hy]
  . rfl
  . simp only [hvalid, Bool.not_true, Bool.false_eq_true, false_or]
    omega

/--
For a valid rectangle and a frame that is not empty nothing overflows. The result lies in the rectangle
and is what it was before it was narrowed, the mapping is monotone along both axes, and the first and
the last pixel of a side of the frame are mapped to those of the rectangle.
-/
theorem map_exact {r : DesktopRect} (hvalid : r.valid = true) {frameWidth frameHeight : UInt32}
    (hwidth : 0 < frameWidth.toNat) (hheight : 0 < frameHeight.toNat)
    : (∀ x y, ∃ point, r.map frameWidth frameHeight x y = .ok (some point)
        ∧ r.Contains point
        ∧ point.1.toInt = r.x.toInt + scaled r.physicalWidth.toNat frameWidth.toNat x.toInt
        ∧ point.2.toInt = r.y.toInt + scaled r.physicalHeight.toNat frameHeight.toNat y.toInt)
      ∧ (∀ x x' y y' point point', r.map frameWidth frameHeight x y = .ok (some point) →
        r.map frameWidth frameHeight x' y' = .ok (some point') →
        (x ≤ x' → point.1 ≤ point'.1) ∧ (y ≤ y' → point.2 ≤ point'.2))
      ∧ ∀ x y point, r.map frameWidth frameHeight x y = .ok (some point) →
        (2 ≤ frameWidth.toNat ∧ frameWidth.toNat ≤ 2 ^ 31 →
          (x.toInt = 0 → point.1 = r.x)
            ∧ (x.toInt = frameWidth.toNat - 1 → point.1.toInt = r.x.toInt + r.physicalWidth.toNat - 1))
        ∧ (2 ≤ frameHeight.toNat ∧ frameHeight.toNat ≤ 2 ^ 31 →
          (y.toInt = 0 → point.2 = r.y)
            ∧ (y.toInt = frameHeight.toNat - 1
              → point.2.toInt = r.y.toInt + r.physicalHeight.toNat - 1)) := by
  have hparts := r.valid_iff.mp hvalid
  have hmap : ∀ {x y point}, r.map frameWidth frameHeight x y = .ok (some point) →
      point.1.toInt = r.x.toInt + scaled r.physicalWidth.toNat frameWidth.toNat x.toInt
        ∧ point.2.toInt = r.y.toInt + scaled r.physicalHeight.toNat frameHeight.toNat y.toInt := by
    intro x y point h
    rcases map_eq hvalid hwidth hheight x y with ⟨point', h', hpoint⟩
    rw [h] at h'
    cases h'
    exact hpoint
  refine ⟨?_, ?_, ?_⟩
  . intro x y
    rcases map_eq hvalid hwidth hheight x y with ⟨point, h, hx, hy⟩
    refine ⟨point, h, ⟨⟨?_, ?_⟩, ?_, ?_⟩, hx, hy⟩
    . have := scaled_nonneg hparts.1.1 hwidth x.toInt
      omega
    . have := scaled_le hparts.1.1 hwidth x.toInt
      omega
    . have := scaled_nonneg hparts.2.1 hheight y.toInt
      omega
    . have := scaled_le hparts.2.1 hheight y.toInt
      omega
  . intro x x' y y' point point' h h'
    have hpoint := hmap h
    have hpoint' := hmap h'
    constructor
    . intro hle
      rw [Int32.le_iff_toInt_le] at hle ⊢
      have := scaled_mono hparts.1.1 hwidth hle
      omega
    . intro hle
      rw [Int32.le_iff_toInt_le] at hle ⊢
      have := scaled_mono hparts.2.1 hheight hle
      omega
  . intro x y point h
    have hpoint := hmap h
    constructor
    . intro hframe
      constructor
      . intro hx
        rw [← Int32.toInt_inj, hpoint.1, hx, scaled_first hframe.1, Int.add_zero]
      . intro hx
        rw [hpoint.1, hx, scaled_last hframe.1]
        omega
    . intro hframe
      constructor
      . intro hy
        rw [← Int32.toInt_inj, hpoint.2, hy, scaled_first hframe.1, Int.add_zero]
      . intro hy
        rw [hpoint.2, hy, scaled_last hframe.1]
        omega

-- The rectangle as the input controller has it.
def toRect (r : DesktopRect) : Input.DesktopRect :=
  {
    x := r.x.toInt
    y := r.y.toInt
    physicalWidth := r.physicalWidth.toNat
    physicalHeight := r.physicalHeight.toNat
  }

theorem toRect_valid (r : DesktopRect) : r.toRect.valid = r.valid := by
  unfold valid Input.DesktopRect.valid toRect
  simp only [Bool.decide_and, Bool.and_assoc]

theorem toRect_axis {origin : Int32} (hsize : 0 < size) (hframe : 0 < frame) (p : Int)
    (hfits : origin.toInt + size - 1 ≤ 2 ^ 31 - 1)
    : Input.DesktopRect.axis origin.toInt size frame p = origin.toInt + scaled size frame p := by
  have horigin := origin.le_toInt
  have hnonneg := scaled_nonneg hsize hframe p
  have hle := scaled_le hsize hframe p
  change Int.bmod (origin.toInt + scaled size frame p) (2 ^ 32) = _
  apply Int.bmod_eq_of_le
  . omega
  . omega

theorem map_refines (r : DesktopRect) (frameWidth frameHeight : UInt32) (x y : Int32)
    : ∃ point, r.map frameWidth frameHeight x y = .ok point
      ∧ r.toRect.map frameWidth.toNat frameHeight.toNat x.toInt y.toInt
        = point.map (fun point => (point.1.toInt, point.2.toInt)) := by
  by_cases hmapped : r.valid = true ∧ 0 < frameWidth.toNat ∧ 0 < frameHeight.toNat
  . have hparts := r.valid_iff.mp hmapped.1
    rcases map_eq hmapped.1 hmapped.2.1 hmapped.2.2 x y with ⟨point, h, hx, hy⟩
    refine ⟨some point, h, ?_⟩
    unfold Input.DesktopRect.map
    rw [toRect_valid, if_neg]
    . rw [Option.map_some, hx, hy, ← toRect_axis hparts.1.1 hmapped.2.1 _ hparts.1.2,
        ← toRect_axis hparts.2.1 hmapped.2.2 _ hparts.2.2]
      rfl
    . simp only [hmapped.1, Bool.not_true, Bool.false_eq_true, false_or]
      omega
  . have hnone : !r.valid ∨ frameWidth.toNat = 0 ∨ frameHeight.toNat = 0 := by
      simp only [Bool.not_eq_true']
      cases hvalid : r.valid
      . exact Or.inl rfl
      . simp only [hvalid, true_and] at hmapped
        omega
    refine ⟨none, ?_, ?_⟩
    . unfold map
      rw [if_pos hnone]
    . unfold Input.DesktopRect.map
      rw [toRect_valid, if_pos hnone]
      rfl

-- A portrait monitor on the left of the primary one.
def leftOfPrimary : DesktopRect :=
  { x := -1080, y := -200, physicalWidth := 1080, physicalHeight := 1920 }

example : leftOfPrimary.map 540 960 539 959 = .ok (some (-1, 1719)) := by decide

theorem map_exact_corner
    : ∃ point, leftOfPrimary.map 540 960 539 0 = .ok (some point)
      ∧ point.1.toInt = -1 ∧ point.2 = -200 := by
  have hexact := @map_exact leftOfPrimary (by decide) 540 960 (by decide) (by decide)
  rcases hexact.1 539 0 with ⟨point, h, _⟩
  have hcorners := hexact.2.2 539 0 point h
  have hlast := (hcorners.1 ⟨by decide, by decide +kernel⟩).2 (by decide)
  exact ⟨point, h, hlast.trans (by decide), (hcorners.2 ⟨by decide, by decide +kernel⟩).1 (by decide)⟩

end DesktopRect

end FixedWidth

end Vantyr
