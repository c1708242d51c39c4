import Mathlib.Data.List.Induction

/-!
This module contains the runs of a machine that handles one request after the other, the rule for its
invariants, and when a promise is kept all along a run.
-/

namespace Vantyr

namespace Runs

variable {σ ε : Type} (step : σ → ε → σ) (guard : σ → ε → Prop)

def exec (s : σ) (events : List ε) : σ :=
  events.foldl step s

-- Every step is guarded in the state it is made in.
def Admits (s : σ) : List ε → Prop
  | [] => True
  | event :: events => guard s event ∧ Admits (step s event) events

variable {step guard} {s : σ}

theorem exec_append (s : σ) (events more : List ε)
    : exec step s (events ++ more) = exec step (exec step s events) more :=
  List.foldl_append

theorem Admits.append_iff {events more : List ε}
    : Admits step guard s (events ++ more)
      ↔ Admits step guard s events ∧ Admits step guard (exec step s events) more := by
  induction events generalizing s with
  | nil =>
    change _ ↔ True ∧ _
    rw [true_and]
    rfl
  | cons event events ih =>
    change _ ∧ Admits step guard (step s event) (events ++ more) ↔ (_ ∧ _) ∧ _
    rw [ih, and_assoc]
    rfl

theorem Admits.of_forall {events : List ε} (h : ∀ event ∈ events, ∀ s, guard s event)
    : Admits step guard s events := by
  induction events generalizing s with
  | nil => trivial
  | cons event events ih =>
    exact ⟨h event List.mem_cons_self s, ih (fun other hother => h other (List.mem_cons_of_mem _ hother))⟩

theorem Admits.and {guard' : σ → ε → Prop} {events : List ε} (h : Admits step guard s events)
    (h' : Admits step guard' s events)
    : Admits step (fun s event => guard s event ∧ guard' s event) s events := by
  induction events generalizing s with
  | nil => trivial
  | cons event events ih => exact ⟨⟨h.1, h'.1⟩, ih h.2 h'.2⟩

/--
What a guarded step preserves holds after a run of guarded steps.
-/
theorem Admits.exec {I : σ → Prop} (hstep : ∀ {s event}, I s → guard s event → I (step s event))
    (hs : I s) {events : List ε} (h : Admits step guard s events) : I (Runs.exec step s events) := by
  induction events generalizing s with
  | nil => exact hs
  | cons event events ih => exact ih (hstep hs h.1) h.2

theorem exec_inv {I : σ → Prop} (hstep : ∀ {s event}, I s → I (step s event)) (hs : I s)
    (events : List ε) : I (exec step s events) := by
  have hall : Admits step (fun _ _ => True) s events := Admits.of_forall (fun _ _ _ => trivial)
  exact hall.exec (fun h _ => hstep h) hs

/--
Where a step that is not guarded breaks what the invariant promises, the runs that keep the promise all
along are those of guarded steps.
-/
theorem always_iff {I Q : σ → Prop} (hstep : ∀ {s event}, I s → guard s event → I (step s event))
    (hpromise : ∀ {s}, I s → Q s)
    (hbreaks : ∀ {s event}, I s → ¬guard s event → ¬Q (step s event)) (hs : I s) (events : List ε)
    : (∀ n, Q (exec step s (events.take n))) ↔ Admits step guard s events := by
  constructor
  . intro halways
    induction events generalizing s with
    | nil => trivial
    | cons event events ih =>
      have hguard : guard s event := by
        by_contra hnot
        exact hbreaks hs hnot (halways 1)
      exact ⟨hguard, ih (hstep hs hguard) (fun n => halways (n + 1))⟩
  . intro hadmits n
    rw [← List.take_append_drop n events, Admits.append_iff] at hadmits
    exact hpromise (hadmits.1.exec hstep hs)

end Runs

end Vantyr
