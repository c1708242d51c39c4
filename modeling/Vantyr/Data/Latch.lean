import Mathlib.Data.List.Basic

/-!
This module contains latches: a sequence of events each of which sets a latch, resets it or leaves it
as it is.
-/

namespace Vantyr

namespace Latch

variable {α : Type} (sets resets : α → Bool)

def step (on : Bool) (event : α) : Bool :=
  if sets event then true else if resets event then false else on

-- Whether the latch, which is off at first, is on after the events.
def isOn (events : List α) : Bool :=
  events.foldl (step sets resets) false

variable {sets resets}

theorem isOn_append (xs ys : List α)
    : isOn sets resets (xs ++ ys) = ys.foldl (step sets resets) (isOn sets resets xs) := by
  unfold isOn
  rw [List.foldl_append]

theorem isOn_concat (events : List α) (event : α)
    : isOn sets resets (events ++ [event]) = step sets resets (isOn sets resets events) event := by
  rw [isOn_append]
  rfl

theorem foldl_mono (events : List α) (h : events.foldl (step sets resets) false = true)
    : events.foldl (step sets resets) true = true := by
  induction events with
  | nil => rfl
  | cons event events ih =>
    rw [List.foldl_cons] at h ⊢
    unfold step at h ⊢
    split at h
    . next hset =>
      rw [if_pos hset]
      exact h
    . next hset =>
      rw [if_neg hset]
      split at h
      . next hreset =>
        rw [if_pos hreset]
        exact h
      . next hreset =>
        rw [if_neg hreset]
        exact ih h

theorem isOn_append_neutral {xs ys : List α}
    (h : ∀ event ∈ ys, sets event = false ∧ resets event = false)
    : isOn sets resets (xs ++ ys) = isOn sets resets xs := by
  rw [isOn_append]
  generalize isOn sets resets xs = on
  induction ys with
  | nil => rfl
  | cons event ys ih =>
    have hevent := h event List.mem_cons_self
    rw [List.foldl_cons, step, hevent.1, hevent.2]
    apply ih
    intro other hother
    exact h other (List.mem_cons_of_mem _ hother)

-- Without an event the latch can be on only if it was on before, unless the event has reset it.
theorem isOn_of_erased {xs ys : List α} {event : α}
    (h : isOn sets resets (xs ++ ys) = true)
    (hreset : resets event = true → isOn sets resets xs = false)
    : isOn sets resets (xs ++ event :: ys) = true := by
  rw [isOn_append] at h ⊢
  rw [List.foldl_cons]
  unfold step
  split
  . cases hon : isOn sets resets xs with
    | true =>
      rw [hon] at h
      exact h
    | false =>
      rw [hon] at h
      exact foldl_mono ys h
  . split
    . next hevent =>
      rw [hreset hevent] at h
      exact h
    . exact h

theorem foldl_reset {events : List α} (hsets : ∀ event ∈ events, sets event = false) (on : Bool)
    (h : on = true → ∃ event ∈ events, resets event = true)
    : events.foldl (step sets resets) on = false := by
  induction events generalizing on with
  | nil =>
    cases on with
    | false => rfl
    | true =>
      rcases h rfl with ⟨event, hmem, _⟩
      cases hmem
  | cons event events ih =>
    rw [List.foldl_cons]
    apply ih
    . intro other hother
      exact hsets other (List.mem_cons_of_mem _ hother)
    . intro hon
      unfold step at hon
      rw [hsets event List.mem_cons_self] at hon
      simp only [Bool.false_eq_true, ↓reduceIte] at hon
      split at hon
      . cases hon
      . next hreset =>
        rcases h hon with ⟨other, hmem, hother⟩
        rcases List.mem_cons.mp hmem with heq | hmem
        . rw [heq] at hother
          exact absurd hother hreset
        . exact ⟨other, hmem, hother⟩

theorem isOn_append_reset {xs ys : List α} (hsets : ∀ event ∈ ys, sets event = false)
    (h : isOn sets resets xs = true → ∃ event ∈ ys, resets event = true)
    : isOn sets resets (xs ++ ys) = false := by
  rw [isOn_append]
  exact foldl_reset hsets _ h

/--
If the latch is off in the end, every event that sets it is followed by one that resets it.
-/
theorem resets_after {xs ys : List α} {event : α}
    (h : isOn sets resets (xs ++ event :: ys) = false) (hset : sets event = true)
    : ∃ other ∈ ys, resets other = true := by
  rw [isOn_append, List.foldl_cons, step, if_pos hset] at h
  by_contra hnone
  simp only [not_exists, not_and, Bool.not_eq_true] at hnone
  have hon : ys.foldl (step sets resets) true = true := by
    clear h
    induction ys with
    | nil => rfl
    | cons other ys ih =>
      have hstep : step sets resets true other = true := by
        unfold step
        rw [hnone other List.mem_cons_self]
        simp
      rw [List.foldl_cons, hstep]
      apply ih
      intro later hlater
      exact hnone later (List.mem_cons_of_mem _ hlater)
  rw [hon] at h
  cases h

end Latch

end Vantyr
