import Mathlib.Data.List.Basic

/-!
This module contains threads that share a state: in any order, one of them does its next atomic step, or
a new one starts. An invariant of the shared state is proved together with an assertion about every
thread that no step of another thread invalidates.
-/

namespace Vantyr

namespace Interleaving

-- What a thread in state `t` does next, given what its environment answers.
structure Program (σ τ ε : Type) where
  starts : σ → τ → Prop
  act : σ → τ → ε → σ × τ

inductive Event (τ ε : Type) where
  | start (t : τ)
  | move (i : Nat) (e : ε)

structure Config (σ τ : Type) where
  shared : σ
  threads : List τ

variable {σ τ ε : Type}

namespace Program

def step (p : Program σ τ ε) (c : Config σ τ) : Event τ ε → Config σ τ
  | .start t => { c with threads := c.threads ++ [t] }
  | .move i e =>
    match c.threads[i]? with
    | none => c
    | some t => { shared := (p.act c.shared t e).1, threads := c.threads.set i (p.act c.shared t e).2 }

def exec (p : Program σ τ ε) (c : Config σ τ) (events : List (Event τ ε)) : Config σ τ :=
  events.foldl p.step c

variable (p : Program σ τ ε) (allowed : σ → τ → ε → Prop)

-- A thread may start where it does, and the steps of the threads are allowed where they are made.
def Allows (c : Config σ τ) : Event τ ε → Prop
  | .start t => p.starts c.shared t
  | .move i e => ∀ t ∈ c.threads[i]?, allowed c.shared t e

def Admits (c : Config σ τ) : List (Event τ ε) → Prop
  | [] => True
  | event :: events => p.Allows allowed c event ∧ Admits (p.step c event) events

instance [∀ s t, Decidable (p.starts s t)] [∀ s t e, Decidable (allowed s t e)] (c : Config σ τ)
    (event : Event τ ε) : Decidable (p.Allows allowed c event) :=
  match event with
  | .start t => inferInstanceAs (Decidable (p.starts c.shared t))
  | .move i e => inferInstanceAs (Decidable (∀ t ∈ c.threads[i]?, allowed c.shared t e))

instance decidableAdmits [∀ s t, Decidable (p.starts s t)] [∀ s t e, Decidable (allowed s t e)]
    (c : Config σ τ) : (events : List (Event τ ε)) → Decidable (p.Admits allowed c events)
  | [] => inferInstanceAs (Decidable True)
  | event :: events =>
    have := decidableAdmits (p.step c event) events
    inferInstanceAs (Decidable (_ ∧ _))

variable {p allowed} {c : Config σ τ}

theorem exec_append (c : Config σ τ) (events more : List (Event τ ε))
    : p.exec c (events ++ more) = p.exec (p.exec c events) more :=
  List.foldl_append

theorem Admits.append_iff {events more : List (Event τ ε)}
    : p.Admits allowed c (events ++ more)
      ↔ p.Admits allowed c events ∧ p.Admits allowed (p.exec c events) more := by
  induction events generalizing c with
  | nil =>
    change _ ↔ True ∧ _
    rw [true_and]
    rfl
  | cons event events ih =>
    change _ ∧ p.Admits allowed (p.step c event) (events ++ more) ↔ (_ ∧ _) ∧ _
    rw [ih, and_assoc]
    rfl

theorem Admits.weaken {other : σ → τ → ε → Prop} (himp : ∀ {s t e}, allowed s t e → other s t e)
    {events : List (Event τ ε)} (h : p.Admits allowed c events) : p.Admits other c events := by
  induction events generalizing c with
  | nil => trivial
  | cons event events ih =>
    refine ⟨?_, ih h.2⟩
    cases event with
    | start t => exact h.1
    | move i e => exact fun t ht => himp (h.1 t ht)

end Program

/-!
The rule for invariants.
-/

structure Stable (p : Program σ τ ε) (allowed : σ → τ → ε → Prop) (I : σ → Prop) (J : σ → τ → Prop)
    : Prop where
  starts : ∀ {s t}, I s → p.starts s t → J s t
  own : ∀ {s t e}, I s → J s t → allowed s t e → I (p.act s t e).1 ∧ J (p.act s t e).1 (p.act s t e).2
  others : ∀ {s t u e}, I s → J s t → J s u → allowed s u e → J (p.act s u e).1 t

structure Holds (I : σ → Prop) (J : σ → τ → Prop) (c : Config σ τ) : Prop where
  shared : I c.shared
  threads : ∀ {t}, t ∈ c.threads → J c.shared t

variable {p : Program σ τ ε} {allowed : σ → τ → ε → Prop} {I : σ → Prop} {J : σ → τ → Prop}
  {c : Config σ τ}

theorem Holds.init {s : σ} (h : I s) : Holds I J { shared := s, threads := [] } where
  shared := h
  threads := by simp

namespace Stable

theorem step (h : Stable p allowed I J) (hc : Holds I J c) {event : Event τ ε}
    (hallows : p.Allows allowed c event) : Holds I J (p.step c event) := by
  cases event with
  | start t =>
    refine ⟨hc.shared, ?_⟩
    intro u hu
    rcases List.mem_append.mp hu with hu | hu
    . exact hc.threads hu
    . rw [List.mem_singleton] at hu
      rw [hu]
      exact h.starts hc.shared hallows
  | move i e =>
    unfold Program.step
    dsimp only
    cases ht : c.threads[i]? with
    | none => exact hc
    | some t =>
      have hallowed := hallows t ht
      have hthread := hc.threads (List.mem_of_getElem? ht)
      have hown := h.own hc.shared hthread hallowed
      refine ⟨hown.1, ?_⟩
      intro u hu
      rcases List.mem_or_eq_of_mem_set hu with hu | rfl
      . exact h.others hc.shared (hc.threads hu) hthread hallowed
      . exact hown.2

theorem exec (h : Stable p allowed I J) (hc : Holds I J c) {events : List (Event τ ε)}
    (hadmits : p.Admits allowed c events) : Holds I J (p.exec c events) := by
  induction events generalizing c with
  | nil => exact hc
  | cons event events ih => exact ih (h.step hc hadmits.1) hadmits.2

end Stable

/--
Where a step that is not allowed breaks what the invariant promises, the runs that keep it all along are
those of allowed steps.
-/
theorem Stable.always_iff {any : σ → τ → ε → Prop} {Q : σ → Prop} (h : Stable p allowed I J)
    (hpromise : ∀ {s}, I s → Q s)
    (hbreaks : ∀ {s t e}, I s → J s t → any s t e → ¬allowed s t e → ¬Q (p.act s t e).1)
    (hc : Holds I J c) {events : List (Event τ ε)} (hany : p.Admits any c events)
    : (∀ n, Q (p.exec c (events.take n)).shared) ↔ p.Admits allowed c events := by
  constructor
  . intro halways
    induction events generalizing c with
    | nil => trivial
    | cons event events ih =>
      have hallows : p.Allows allowed c event := by
        cases event with
        | start t => exact hany.1
        | move i e =>
          intro t ht
          by_contra hnot
          have hfirst := halways 1
          have hact : p.exec c ((Event.move i e :: events).take 1)
              = { shared := (p.act c.shared t e).1, threads := c.threads.set i (p.act c.shared t e).2 } := by
            change p.step c (.move i e) = _
            unfold Program.step
            rw [Option.mem_def] at ht
            simp only [ht]
          rw [hact] at hfirst
          exact hbreaks hc.shared (hc.threads (List.mem_of_getElem? ht)) (hany.1 t ht) hnot hfirst
      exact ⟨hallows, ih (h.step hc hallows) hany.2 (fun n => halways (n + 1))⟩
  . intro hadmits n
    rw [← List.take_append_drop n events, Program.Admits.append_iff] at hadmits
    exact hpromise (h.exec hc hadmits.1).shared

end Interleaving

end Vantyr
