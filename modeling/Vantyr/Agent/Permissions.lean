import Mathlib.Data.List.AList
import Vantyr.Protocol.Modules

/-!
This module contains the device-owned grants of `agent/src/permissions/store.rs` and the grant
generations of `workers.rs`: the state with its local and remote mutations, the transaction that
persists one, and the report of the state on the wire.
-/

namespace Vantyr

namespace Permissions

structure Grant where
  enabled : Bool
  revision : Nat
  deriving DecidableEq, Repr

structure Receipt where
  module : Module
  expectedRevision : Nat
  revision : Nat
  deriving DecidableEq, Repr

structure State where
  revision : Nat
  modules : Module → Option Grant
  receipts : AList (fun _ : String => Receipt)

inductive DisableResult where
  | disabled
  | duplicate
  | stale
  | conflict
  deriving DecidableEq, Repr

structure Generation where
  module : Module
  revision : Nat
  deriving DecidableEq, Repr

namespace State

def default : State := { revision := 0, modules := fun _ => none, receipts := ∅ }

def enabled (s : State) (m : Module) : Bool :=
  (s.modules m).any Grant.enabled

-- The revision of a grant that was never made is zero.
def grantRevision (s : State) (m : Module) : Nat :=
  (s.modules m).elim 0 Grant.revision

def setGrant (s : State) (m : Module) (enabled : Bool) : State :=
  {
    s with
    revision := s.revision + 1
    modules := Function.update s.modules m (some { enabled, revision := s.revision + 1 })
  }

def insertReceipt (s : State) (id : String) (receipt : Receipt) : State :=
  { s with receipts := s.receipts.insert id receipt }

-- A mutation returns its result next to the state it leaves behind, also when it fails.
def localSet (s : State) (m : Module) (enabled : Bool) : Except String Unit × State :=
  if s.revision + 1 < 2 ^ 64 then
    (.ok (), s.setGrant m enabled)
  else
    (.error "revision exhausted", s)

def disable (s : State) (m : Module) (expected : Nat) (id : String)
    : Except String DisableResult × State :=
  if id.utf8ByteSize = 0 ∨ 128 < id.utf8ByteSize then
    (.error "invalid command_id", s)
  else
    match s.receipts.lookup id with
    | some r =>
      if r.module = m ∧ r.expectedRevision = expected then
        (.ok .duplicate, s)
      else
        (.ok .conflict, s)
    | none =>
      if s.grantRevision m ≠ expected then
        (.ok .stale, s)
      else if 100000 ≤ s.receipts.entries.length then
        (.error "receipt capacity reached", s)
      else
        match s.localSet m false with
        | (.error e, s) => (.error e, s)
        | (.ok (), s) =>
          let receipt := { module := m, expectedRevision := expected, revision := s.revision }
          (.ok .disabled, s.insertReceipt id receipt)

-- Whether a module is available is up to the desktop the agent runs on.
def wireModule (s : State) (available : Module → Bool) (m : Module) : Json :=
  .object [
    ("authorization_required", .bool (!s.enabled m)),
    ("available", .bool (available m)),
    ("enabled", .bool (s.enabled m && available m)),
    ("module", m.toJson),
    ("revision", .ofNat (s.grantRevision m))
  ]

def wire (s : State) (available : Module → Bool) : Json :=
  .object [
    ("modules", .array (Module.all.map (s.wireModule available))),
    ("revision", .ofNat s.revision),
    ("schema_version", .ofNat 1),
    ("type", .string "module_states")
  ]

end State

namespace Generation

def fromState (s : State) (m : Module) : Option Generation :=
  ((s.modules m).filter Grant.enabled).map (fun g => { module := m, revision := g.revision })

def «matches» (g : Generation) (s : State) : Bool :=
  fromState s g.module == some g

end Generation

inductive Operation where
  | localSet (m : Module) (enabled : Bool)
  | disable (m : Module) (expected : Nat) (id : String)
  deriving DecidableEq, Repr

namespace State

def apply (s : State) : Operation → Except String (Option DisableResult) × State
  | .localSet m enabled => ((s.localSet m enabled).1.map (fun _ => none), (s.localSet m enabled).2)
  | .disable m expected id =>
    ((s.disable m expected id).1.map some, (s.disable m expected id).2)

def exec (s : State) (op : Operation) : State :=
  (s.apply op).2

def run (s : State) (ops : List Operation) : State :=
  ops.foldl exec s

theorem run_append (s : State) (xs ys : List Operation) : s.run (xs ++ ys) = (s.run xs).run ys := by
  simp [run]

/-!
What a mutation does is one of two things: it leaves the state alone, or it makes a grant at the
next revision. The invariants below are derived from this description only.
-/

theorem localSet_cases (s : State) (m : Module) (enabled : Bool)
    : s.localSet m enabled = (.error "revision exhausted", s)
        ∨ s.localSet m enabled = (.ok (), s.setGrant m enabled) := by
  unfold localSet
  split
  . apply Or.inr
    rfl
  . apply Or.inl
    rfl

-- The state after a disable that took effect.
def disabled (s : State) (m : Module) (id : String) : State :=
  (s.setGrant m false).insertReceipt id
    { module := m, expectedRevision := s.grantRevision m, revision := s.revision + 1 }

theorem disable_cases (s : State) (m : Module) (expected : Nat) (id : String)
    : (∃ res, res ≠ .ok .disabled ∧ s.disable m expected id = (res, s))
        ∨ (s.receipts.lookup id = none
          ∧ s.grantRevision m = expected
          ∧ s.disable m expected id = (.ok .disabled, s.disabled m id)) := by
  unfold disable
  split
  . exact Or.inl ⟨_, by simp, rfl⟩
  . split
    . split
      . exact Or.inl ⟨_, by simp, rfl⟩
      . exact Or.inl ⟨_, by simp, rfl⟩
    . next hlookup =>
      split
      . exact Or.inl ⟨_, by simp, rfl⟩
      . next hrevision =>
        split
        . exact Or.inl ⟨_, by simp, rfl⟩
        . cases s.localSet_cases m false with
          | inl h =>
            rw [h]
            exact Or.inl ⟨_, by simp, rfl⟩
          | inr h =>
            rw [h]
            have hexpected : s.grantRevision m = expected := by simpa using hrevision
            refine Or.inr ⟨hlookup, hexpected, ?_⟩
            simp [disabled, hexpected, setGrant]

/--
`t` is a later state than `s`: a grant is either still the one of `s`, or was made at a revision `s`
had not reached.
-/
structure Extends (s t : State) : Prop where
  revision : s.revision ≤ t.revision
  modules : ∀ m, t.modules m = s.modules m ∨ s.revision < t.grantRevision m
  receipts : ∀ id r, s.receipts.lookup id = some r → t.receipts.lookup id = some r

def Bounded (s : State) : Prop :=
  ∀ m, s.grantRevision m ≤ s.revision

-- A receipt is only written together with a newer revision of the module it names.
def Receipted (s : State) : Prop :=
  ∀ id r, s.receipts.lookup id = some r → r.expectedRevision < s.grantRevision r.module

theorem Extends.refl (s : State) : s.Extends s where
  revision := Nat.le_refl _
  modules := fun _ => Or.inl rfl
  receipts := fun _ _ h => h

theorem Extends.trans {s t u : State} (hst : s.Extends t) (htu : t.Extends u) : s.Extends u where
  revision := Nat.le_trans hst.revision htu.revision
  modules := by
    intro m
    cases htu.modules m with
    | inl htu =>
      rw [htu]
      simp only [grantRevision, htu]
      exact hst.modules m
    | inr htu =>
      apply Or.inr
      exact Nat.lt_of_le_of_lt hst.revision htu
  receipts := fun id r h => htu.receipts id r (hst.receipts id r h)

theorem grantRevision_setGrant (s : State) (m other : Module) (enabled : Bool)
    : (s.setGrant m enabled).grantRevision other
        = if other = m then s.revision + 1 else s.grantRevision other := by
  unfold grantRevision setGrant
  by_cases h : other = m
  . subst h
    simp
  . simp [h]

theorem extends_setGrant (s : State) (m : Module) (enabled : Bool)
    : s.Extends (s.setGrant m enabled) where
  revision := Nat.le_succ _
  modules := by
    intro other
    by_cases h : other = m
    . apply Or.inr
      rw [grantRevision_setGrant, if_pos h]
      omega
    . apply Or.inl
      simp [setGrant, h]
  receipts := fun _ _ h => h

theorem extends_disabled {s : State} {id : String} (h : s.receipts.lookup id = none) (m : Module)
    : s.Extends (s.disabled m id) where
  revision := Nat.le_succ _
  modules := (s.extends_setGrant m false).modules
  receipts := by
    intro other r hr
    have hne : other ≠ id := by
      intro heq
      subst heq
      rw [h] at hr
      contradiction
    simpa [disabled, insertReceipt, setGrant, AList.lookup_insert_ne hne] using hr

theorem exec_cases (s : State) (op : Operation)
    : s.exec op = s
        ∨ (∃ m enabled, s.exec op = s.setGrant m enabled)
        ∨ (∃ m id, s.receipts.lookup id = none ∧ s.exec op = s.disabled m id) := by
  cases op with
  | localSet m enabled =>
    simp only [exec, apply]
    cases s.localSet_cases m enabled with
    | inl h => simp [h]
    | inr h => exact Or.inr (Or.inl ⟨m, enabled, by rw [h]⟩)
  | disable m expected id =>
    simp only [exec, apply]
    cases s.disable_cases m expected id with
    | inl h =>
      rcases h with ⟨res, _, h⟩
      simp [h]
    | inr h =>
      rcases h with ⟨hlookup, _, h⟩
      exact Or.inr (Or.inr ⟨m, id, hlookup, by rw [h]⟩)

theorem extends_exec (s : State) (op : Operation) : s.Extends (s.exec op) := by
  rcases s.exec_cases op with h | ⟨m, enabled, h⟩ | ⟨m, id, hlookup, h⟩
  . rw [h]
    exact Extends.refl s
  . rw [h]
    exact s.extends_setGrant m enabled
  . rw [h]
    exact extends_disabled hlookup m

theorem extends_run (s : State) (ops : List Operation) : s.Extends (s.run ops) := by
  induction ops generalizing s with
  | nil => exact Extends.refl s
  | cons op ops ih => exact (s.extends_exec op).trans (ih (s.exec op))

theorem bounded_default : default.Bounded := by
  intro m
  exact Nat.le_refl _

theorem bounded_setGrant {s : State} (h : s.Bounded) (m : Module) (enabled : Bool)
    : (s.setGrant m enabled).Bounded := by
  intro other
  rw [grantRevision_setGrant]
  have := h other
  simp only [setGrant]
  split <;> omega

theorem bounded_exec {s : State} (h : s.Bounded) (op : Operation) : (s.exec op).Bounded := by
  rcases s.exec_cases op with hop | ⟨m, enabled, hop⟩ | ⟨m, id, _, hop⟩
  . rw [hop]
    exact h
  . rw [hop]
    exact bounded_setGrant h m enabled
  . rw [hop]
    exact bounded_setGrant h m false

theorem bounded_run {s : State} (h : s.Bounded) (ops : List Operation) : (s.run ops).Bounded := by
  induction ops generalizing s with
  | nil => exact h
  | cons op ops ih => exact ih (bounded_exec h op)

theorem Extends.grantRevision_le {s t : State} (hs : s.Bounded) (h : s.Extends t) (m : Module)
    : s.grantRevision m ≤ t.grantRevision m := by
  cases h.modules m with
  | inl h => simp [grantRevision, h]
  | inr h => exact Nat.le_trans (hs m) (Nat.le_of_lt h)

theorem receipted_default : default.Receipted := by
  intro id r h
  simp [default] at h

theorem receipted_setGrant {s : State} (hb : s.Bounded) (h : s.Receipted) (m : Module)
    (enabled : Bool) : (s.setGrant m enabled).Receipted := by
  intro id r hr
  have := h id r hr
  have := (s.extends_setGrant m enabled).grantRevision_le hb r.module
  omega

theorem receipted_disabled {s : State} (hb : s.Bounded) (h : s.Receipted) (m : Module) (id : String)
    : (s.disabled m id).Receipted := by
  intro other r hr
  have hgrants (m' : Module)
      : (s.disabled m id).grantRevision m' = (s.setGrant m false).grantRevision m' := rfl
  rw [hgrants]
  by_cases heq : other = id
  . subst heq
    simp only [disabled, insertReceipt, AList.lookup_insert, Option.some.injEq] at hr
    subst hr
    have := hb m
    simp only [grantRevision_setGrant, if_true]
    omega
  . apply receipted_setGrant hb h m false other
    simpa [disabled, insertReceipt, AList.lookup_insert_ne heq] using hr

theorem receipted_exec {s : State} (hb : s.Bounded) (h : s.Receipted) (op : Operation)
    : (s.exec op).Receipted := by
  rcases s.exec_cases op with hop | ⟨m, enabled, hop⟩ | ⟨m, id, _, hop⟩
  . rw [hop]
    exact h
  . rw [hop]
    exact receipted_setGrant hb h m enabled
  . rw [hop]
    exact receipted_disabled hb h m id

theorem receipted_run {s : State} (hb : s.Bounded) (h : s.Receipted) (ops : List Operation)
    : (s.run ops).Receipted := by
  induction ops generalizing s with
  | nil => exact h
  | cons op ops ih => exact ih (bounded_exec hb op) (receipted_exec hb h op)

theorem apply_error {s : State} {op : Operation} {e : String} (h : (s.apply op).1 = .error e)
    : s.exec op = s := by
  cases op with
  | localSet m enabled =>
    cases s.localSet_cases m enabled with
    | inl hcase => simp [exec, apply, hcase]
    | inr hcase => simp [apply, hcase, Except.map] at h
  | disable m expected id =>
    cases s.disable_cases m expected id with
    | inl hcase =>
      rcases hcase with ⟨res, _, hcase⟩
      simp [exec, apply, hcase]
    | inr hcase => simp [apply, hcase.2.2, Except.map] at h

theorem disable_of_receipt {s : State} {id : String} {r : Receipt}
    (h : s.receipts.lookup id = some r) (m : Module) (expected : Nat)
    : (s.disable m expected id).1 ≠ .ok .disabled ∧ (s.disable m expected id).2 = s := by
  cases s.disable_cases m expected id with
  | inl hcase =>
    rcases hcase with ⟨res, hres, hcase⟩
    rw [hcase]
    exact ⟨hres, rfl⟩
  | inr hcase => simp [h] at hcase

-- An effective disable leaves a receipt behind, which outlives every later operation.
theorem disable_once {s : State} {m : Module} {expected : Nat} {id : String}
    (h : (s.disable m expected id).2 ≠ s) (later : List Operation)
    : s.grantRevision m = expected
        ∧ ∃ r, (((s.disable m expected id).2.run later).receipts.lookup id = some r) := by
  cases s.disable_cases m expected id with
  | inl hcase =>
    rcases hcase with ⟨res, _, hcase⟩
    rw [hcase] at h
    contradiction
  | inr hcase =>
    rcases hcase with ⟨_, hrevision, hcase⟩
    refine ⟨hrevision, ?_⟩
    have hreceipt : ∃ r, (s.disabled m id).receipts.lookup id = some r := by
      simp [disabled, insertReceipt]
    rw [hcase]
    rcases hreceipt with ⟨r, hr⟩
    exact ⟨r, ((s.disabled m id).extends_run later).receipts id r hr⟩

end State

namespace Generation

theorem matches_iff (g : Generation) (s : State)
    : g.matches s = true ↔ s.modules g.module = some { enabled := true, revision := g.revision } := by
  rcases g with ⟨m, revision⟩
  simp only [«matches», fromState, beq_iff_eq]
  cases s.modules m with
  | none => simp
  | some grant =>
    rcases grant with ⟨enabled, r⟩
    cases enabled <;> simp [Option.filter]

-- A token that no longer matches has been overtaken by a newer revision of its module.
theorem not_matches_of_extends {g : Generation} {s t u : State} (hs : s.Bounded) (hst : s.Extends t)
    (htu : t.Extends u) (hb : t.Bounded) (h : g.matches s = true) (hstop : g.matches t = false)
    : g.matches u = false := by
  have hrevision : s.grantRevision g.module = g.revision := by
    simp [State.grantRevision, (g.matches_iff s).mp h]
  have hlt : g.revision < t.grantRevision g.module := by
    cases hst.modules g.module with
    | inl heq =>
      have : g.matches t = true := by
        rw [matches_iff, heq, ← matches_iff]
        exact h
      simp [this] at hstop
    | inr hlt =>
      have := hs g.module
      omega
  have hle := htu.grantRevision_le hb g.module
  rw [Bool.eq_false_iff]
  intro hu
  have : u.grantRevision g.module = g.revision := by
    simp [State.grantRevision, (g.matches_iff u).mp hu]
  omega

end Generation

theorem grants_never_revive (ops : List Operation)
    : let s := State.default.run ops
      (∀ m, s.grantRevision m ≤ s.revision)
        ∧ (∀ later m, s.grantRevision m ≤ (s.run later).grantRevision m)
        ∧ (∀ (g : Generation) later rest,
          g.matches s = true →
          g.matches (s.run later) = false →
          g.matches ((s.run later).run rest) = false)
        ∧ (∀ m expected id,
          (s.disable m expected id).2 ≠ s →
          s.grantRevision m = expected
            ∧ ∀ later m' expected',
              let t := (s.disable m expected id).2.run later
              (t.disable m' expected' id).1 ≠ .ok .disabled ∧ (t.disable m' expected' id).2 = t)
        ∧ (∀ op e, (s.apply op).1 = .error e → (s.apply op).2 = s) := by
  intro s
  have hb : s.Bounded := State.bounded_run State.bounded_default ops
  refine ⟨hb, ?_, ?_, ?_, ?_⟩
  . intro later m
    exact (s.extends_run later).grantRevision_le hb m
  . intro g later rest h hstop
    apply Generation.not_matches_of_extends hb _ _ (State.bounded_run hb later) h hstop
    . exact s.extends_run later
    . exact (s.run later).extends_run rest
  . intro m expected id h
    refine ⟨(State.disable_once h []).1, ?_⟩
    intro later m' expected' t
    rcases (State.disable_once h later).2 with ⟨r, hr⟩
    exact State.disable_of_receipt hr m' expected'
  . intro op e h
    exact State.apply_error h

end Permissions

end Vantyr
