import Mathlib.Algebra.Order.Archimedean.Basic
import Mathlib.Data.Rat.Cast.Order
import Mathlib.Data.Rat.Floor
import Mathlib.Tactic.Linarith
import Mathlib.Tactic.Push

/-!
This module contains the playhead of the Recall player
(`frontend/src/features/recall/lib/recallPlayback.ts`): the search for the frame of a moment, and how a tick
moves the playhead and skips the gaps between frames. Times are milliseconds, a tick may be a fraction of one.
-/

namespace Vantyr

namespace RecallPlayback

structure AdvanceArgs where
  times : List Int
  playheadMs : ℚ
  perTickMs : ℚ
  holdMs : ℚ
  toMs : ℚ

section

variable {times : List Int} {ms : ℚ}

-- The frames up to an index are not later than a moment, those after it are.
structure Splits (times : List Int) (ms : ℚ) (i : Nat) : Prop where
  exists_le : ∃ t, times[i]? = some t ∧ (t : ℚ) ≤ ms
  lt_of_lt : ∀ j t, i < j → times[j]? = some t → ms < t

theorem getElem?_le_getElem? (hsorted : times.Pairwise (· ≤ ·)) {i j : Nat} {t t' : Int} (h : i ≤ j)
    (hi : times[i]? = some t) (hj : times[j]? = some t') : t ≤ t' := by
  rcases List.getElem?_eq_some_iff.mp hi with ⟨hilt, rfl⟩
  rcases List.getElem?_eq_some_iff.mp hj with ⟨hjlt, rfl⟩
  rcases Nat.lt_or_eq_of_le h with hlt | rfl
  . exact List.pairwise_iff_getElem.mp hsorted i j hilt hjlt hlt
  . exact Int.le_refl _

-- A frame that is the latest one up to a moment.
def Latest (times : List Int) (ms : ℚ) (t : Int) : Prop :=
  t ∈ times ∧ (t : ℚ) ≤ ms ∧ ∀ t' ∈ times, (t' : ℚ) ≤ ms → t' ≤ t

theorem Splits.latest (hsorted : times.Pairwise (· ≤ ·)) {i : Nat} (h : Splits times ms i) {t : Int}
    (ht : times[i]? = some t) : Latest times ms t := by
  rcases h.exists_le with ⟨found, hfound, hle⟩
  rw [ht, Option.some_inj] at hfound
  subst hfound
  refine ⟨List.mem_of_getElem? ht, hle, ?_⟩
  intro t' hmem hle'
  rcases List.mem_iff_getElem?.mp hmem with ⟨j, hj⟩
  by_cases hij : i < j
  . exact absurd hle' (not_le.mpr (h.lt_of_lt j t' hij hj))
  . exact getElem?_le_getElem? hsorted (Nat.le_of_not_lt hij) hj ht

end

section

variable {args : AdvanceArgs} {first : Int}

-- Where a tick that does not end playback lands: at the next moment, or at the first frame after a gap.
inductive Lands (args : AdvanceArgs) (ms : ℚ) : Prop where
  | ticked (t : Int) (hms : ms = args.playheadMs + args.perTickMs) (hlatest : Latest args.times ms t)
      (hhold : ms - t ≤ args.holdMs)
  | skipped (t : Int) (hms : ms = t) (hmem : t ∈ args.times) (hlater : args.playheadMs + args.perTickMs < ms)
      (hgap : ∀ t' ∈ args.times, ¬(args.playheadMs + args.perTickMs < t' ∧ (t' : ℚ) < ms))

theorem Lands.lt {ms : ℚ} (h : Lands args ms) (htick : 0 < args.perTickMs)
    : args.playheadMs + args.perTickMs ≤ ms ∧ args.playheadMs < ms := by
  cases h with
  | ticked t hms hlatest hhold =>
    rw [hms]
    exact ⟨le_refl _, lt_add_of_pos_right _ htick⟩
  | skipped t hms hmem hlater hgap => exact ⟨hlater.le, (lt_add_of_pos_right _ htick).trans hlater⟩

end

end RecallPlayback

end Vantyr
