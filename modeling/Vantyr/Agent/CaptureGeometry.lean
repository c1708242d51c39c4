import Vantyr.Agent.Input
import Vantyr.Data.Runs

/-!
This module contains the capture sessions of the agent and the geometry they select for input,
`agent/src/capture/geometry.rs`. The main result is that a stamp, which is a capture id with a revision,
stands for one geometry, that stamped commands are mapped with this geometry only, and that a session
which was replaced cannot change what its successor has selected.
-/

namespace Vantyr

namespace Input

namespace Selection

-- `begin`
def open_ (id : String) (legacyPrimary : Bool) : Selection where
  id := some id
  revision := 0
  frame := none
  legacyPrimary := legacyPrimary

def changed (s : Selection) (monitorIndex : Option Nat) (desktop : Option DesktopRect) (w h : Nat) : Bool :=
  s.frame.all (fun f =>
    f.monitorIndex ≠ monitorIndex || f.desktop ≠ desktop || f.frameWidth ≠ w || f.frameHeight ≠ h)

-- The revision is a `u64`.
def publish (s : Selection) (id : String) (monitorIndex : Option Nat) (desktop : Option DesktopRect)
    (w h : Nat) : Option FrameGeometry × Selection :=
  if s.id ≠ some id ∨ w = 0 ∨ h = 0 then
    (none, s)
  else
    let desktop := desktop.filter DesktopRect.valid
    let revision := if s.changed monitorIndex desktop w h then s.revision + 1 else s.revision
    if revision < 2 ^ 64 then
      let f := {
        captureId := id
        geometryRevision := revision
        monitorIndex
        desktop
        frameWidth := w
        frameHeight := h
      }
      (some f, { s with revision, frame := some f })
    else
      (none, s)

def invalidate (s : Selection) (id : String) : Selection :=
  if s.id = some id then { s with frame := none } else s

-- `CaptureSession::drop`
def drop (s : Selection) (id : String) : Selection :=
  if s.id = some id then default else s

end Selection

/--
What the sessions have selected. `opened` and `published` are history: the ids of the sessions and the
geometries of their frames, the latest first.
-/
structure Captures where
  selection : Selection
  opened : List String
  published : List FrameGeometry

inductive CaptureEvent where
  | begin_ (id : String) (legacyPrimary : Bool)
  | frame (id : String) (monitorIndex : Option Nat) (desktop : Option DesktopRect) (w h : Nat)
  | invalidate (id : String)
  | drop (id : String)

namespace Captures

def init : Captures where
  selection := .default
  opened := []
  published := []

def frame (c : Captures) (id : String) (monitorIndex : Option Nat) (desktop : Option DesktopRect)
    (w h : Nat) : Captures :=
  let (f, selection) := c.selection.publish id monitorIndex desktop w h
  { c with selection, published := f.toList ++ c.published }

def step (c : Captures) : CaptureEvent → Captures
  | .begin_ id legacyPrimary =>
    { c with selection := .open_ id legacyPrimary, opened := id :: c.opened }
  | .frame id monitorIndex desktop w h => c.frame id monitorIndex desktop w h
  | .invalidate id => { c with selection := c.selection.invalidate id }
  | .drop id => { c with selection := c.selection.drop id }

-- A session gets an id that none had before. The other events may name any id.
def Fresh (c : Captures) : CaptureEvent → Prop
  | .begin_ id _ => id ∉ c.opened
  | _ => True

instance (c : Captures) (e : CaptureEvent) : Decidable (c.Fresh e) :=
  match e with
  | .begin_ id _ => inferInstanceAs (Decidable (id ∉ c.opened))
  | .frame _ _ _ _ _ | .invalidate _ | .drop _ => inferInstanceAs (Decidable True)

end Captures

-- The command carries the stamp of the geometry.
def Stamps (v : Json) (f : FrameGeometry) : Prop :=
  (v.get? "capture_id").bind Json.asStr = some f.captureId
    ∧ (v.get? "geometry_revision").bind Json.asU64 = some f.geometryRevision

-- What becomes of a command that is mapped with a geometry: commands without a position stay as they are.
def MapsWith (f : FrameGeometry) (v v' : Json) : Prop :=
  if Selection.isPointer v.kind then
    ∃ x y q, (v.field "x").asI32 = some x ∧ (v.field "y").asI32 = some y
      ∧ f.desktop.bind (fun desktop => desktop.map f.frameWidth f.frameHeight x y) = some q
      ∧ v' = (v.setField "x" (.ofInt q.1)).setField "y" (.ofInt q.2)
  else
    v' = v

namespace Selection

variable {s : Selection}

theorem current_iff {v : Json} : s.current v = true ↔ ∃ f, s.frame = some f ∧ Stamps v f := by
  rw [current, Option.any_eq_true]
  simp only [decide_eq_true_eq]
  rfl

theorem mapCommand_stamped {v v' : Json} (hstamped : stamped v = true) (h : s.mapCommand v = .ok v')
    : ∃ f, s.frame = some f ∧ Stamps v f ∧ MapsWith f v v' := by
  unfold mapCommand at h
  split at h
  . cases h
  . next hcurrent =>
    have hcurrent : s.current v = true := by
      by_contra hnot
      exact hcurrent ⟨hstamped, by simpa using hnot⟩
    rcases current_iff.mp hcurrent with ⟨f, hf, hstamp⟩
    refine ⟨f, hf, hstamp, ?_⟩
    unfold MapsWith
    split at h
    . next hpointer =>
      rw [if_neg (by simpa using hpointer)]
      exact (Except.ok.inj h).symm
    . next hpointer =>
      rw [if_pos (by simpa using hpointer)]
      split at h
      . cases h
      . cases h
      . next x y hx hy =>
        split at h
        . next x' y' hpoint =>
          refine ⟨x, y, (x', y'), hx, hy, ?_, (Except.ok.inj h).symm⟩
          rw [point, hf, Option.bind_some] at hpoint
          exact hpoint
        . split at h
          . next hlegacy =>
            rw [hstamped] at hlegacy
            exact absurd hlegacy.1 (by decide)
          . cases h

theorem mapCommand_stale {v : Json} (hstamped : stamped v = true)
    (hnone : ∀ f, s.frame = some f → ¬Stamps v f) : s.mapCommand v = .error "stale capture geometry" := by
  have hcurrent : s.current v = false := by
    rw [← Bool.not_eq_true, current_iff]
    rintro ⟨f, hf, hstamp⟩
    exact hnone f hf hstamp
  unfold mapCommand
  rw [if_pos ⟨hstamped, by rw [hcurrent]; rfl⟩]

-- A frame of the current session is published with the next revision, or it is the one that is selected.
theorem publish_cases (s : Selection) (id : String) (monitorIndex : Option Nat)
    (desktop : Option DesktopRect) (w h : Nat)
    : s.publish id monitorIndex desktop w h = (none, s)
      ∨ s.id = some id ∧ ∃ f, f.captureId = id
        ∧ s.publish id monitorIndex desktop w h
            = (some f, { s with revision := f.geometryRevision, frame := some f })
        ∧ (f.geometryRevision = s.revision + 1
          ∨ ∃ g, s.frame = some g ∧ f = { g with captureId := id, geometryRevision := s.revision }) := by
  unfold publish
  split
  . exact Or.inl rfl
  . next hcurrent =>
    simp only [not_or, not_not] at hcurrent
    dsimp only
    by_cases hbound : (if s.changed monitorIndex (desktop.filter DesktopRect.valid) w h then
        s.revision + 1 else s.revision) < 2 ^ 64
    . right
      rw [if_pos hbound]
      refine ⟨hcurrent.1, _, rfl, rfl, ?_⟩
      dsimp only
      split
      . exact Or.inl rfl
      . next hchanged =>
        right
        cases hframe : s.frame with
        | none => simp [changed, hframe] at hchanged
        | some g =>
          simp only [changed, hframe, Option.all_some, Bool.or_eq_true, decide_eq_true_eq, not_or, not_not]
            at hchanged
          rcases hchanged with ⟨⟨⟨hmonitor, hdesktop⟩, hwidth⟩, hheight⟩
          refine ⟨g, rfl, ?_⟩
          rw [← hmonitor, ← hdesktop, ← hwidth, ← hheight]
    . left
      rw [if_neg hbound]

theorem publish_other {id : String} (hid : s.id ≠ some id) (monitorIndex : Option Nat)
    (desktop : Option DesktopRect) (w h : Nat) : s.publish id monitorIndex desktop w h = (none, s) := by
  rcases publish_cases s id monitorIndex desktop w h with hnone | hsome
  . exact hnone
  . exact absurd hsome.1 hid

end Selection

/-!
What the sessions know of the stamps that were given out.
-/

namespace Captures

structure Stamped (c : Captures) : Prop where
  nodup : c.opened.Nodup
  newest : ∀ {id}, c.selection.id = some id → c.opened.head? = some id
  opened : ∀ f ∈ c.published, f.captureId ∈ c.opened
  selected : ∀ {f}, c.selection.frame = some f → f ∈ c.published ∧ c.selection.id = some f.captureId
    ∧ f.geometryRevision = c.selection.revision
  bounded : ∀ f ∈ c.published, c.selection.id = some f.captureId
    → f.geometryRevision ≤ c.selection.revision
  unique : ∀ f ∈ c.published, ∀ g ∈ c.published, f.captureId = g.captureId
    → f.geometryRevision = g.geometryRevision → f = g

variable {c : Captures}

theorem init_stamped : init.Stamped where
  nodup := List.nodup_nil
  newest := by simp [init, Selection.default]
  opened := by simp [init]
  selected := by simp [init, Selection.default]
  bounded := by simp [init]
  unique := by simp [init]

theorem Stamped.begin_ (h : c.Stamped) {id : String} (hfresh : id ∉ c.opened) (legacyPrimary : Bool)
    : (c.step (.begin_ id legacyPrimary)).Stamped where
  nodup := List.nodup_cons.mpr ⟨hfresh, h.nodup⟩
  newest hid := hid
  opened f hf := List.mem_cons_of_mem _ (h.opened f hf)
  selected hf := by cases hf
  bounded f hf hid := by
    cases hid
    exact absurd (h.opened f hf) hfresh
  unique := h.unique

theorem Stamped.publish (h : c.Stamped) {f : FrameGeometry} (hid : c.selection.id = some f.captureId)
    (hnext : f.geometryRevision = c.selection.revision + 1)
    : Stamped {
        c with
        selection := { c.selection with revision := f.geometryRevision, frame := some f }
        published := f :: c.published
      } where
  nodup := h.nodup
  newest := h.newest
  opened g hg := by
    rcases List.mem_cons.mp hg with rfl | hg
    . exact List.mem_of_mem_head? (h.newest hid)
    . exact h.opened g hg
  selected hg := by
    cases hg
    exact ⟨List.mem_cons_self, hid, rfl⟩
  bounded g hg hgid := by
    rcases List.mem_cons.mp hg with rfl | hg
    . exact Nat.le_refl _
    . have := h.bounded g hg hgid
      dsimp only
      omega
  unique := by
    have hnew : ∀ g ∈ c.published, f.captureId = g.captureId
        → f.geometryRevision ≠ g.geometryRevision := by
      intro g hg hsame
      have := h.bounded g hg (hid.trans (congrArg some hsame))
      omega
    intro a ha b hb hsame hrevision
    rcases List.mem_cons.mp ha with hfa | ha'
    . rcases List.mem_cons.mp hb with hfb | hb'
      . rw [hfa, hfb]
      . rw [hfa] at hsame hrevision
        exact absurd hrevision (hnew b hb' hsame)
    . rcases List.mem_cons.mp hb with hfb | hb'
      . rw [hfb] at hsame hrevision
        exact absurd hrevision.symm (hnew a ha' hsame.symm)
      . exact h.unique a ha' b hb' hsame hrevision

theorem Stamped.frame (h : c.Stamped) (id : String) (monitorIndex : Option Nat)
    (desktop : Option DesktopRect) (w h' : Nat) : (c.frame id monitorIndex desktop w h').Stamped := by
  unfold Captures.frame
  rcases c.selection.publish_cases id monitorIndex desktop w h' with hnone | ⟨hid, f, rfl, hsome, hcase⟩
  . rw [hnone]
    exact h
  . rw [hsome]
    rcases hcase with hnext | ⟨g, hg, hsame⟩
    . exact h.publish hid hnext
    . -- The geometry is the one that is selected.
      rcases h.selected hg with ⟨hmem, hgid, hrevision⟩
      have heq : f = g := by
        rw [hid] at hgid
        rw [hsame, Option.some.inj hgid, ← hrevision]
      subst heq
      have hselection : { c.selection with revision := f.geometryRevision, frame := some f }
          = c.selection := by
        rw [hrevision, ← hg]
      dsimp only
      rw [hselection]
      refine ⟨h.nodup, h.newest, ?_, ?_, ?_, ?_⟩
      . intro a ha
        rcases List.mem_cons.mp ha with rfl | ha
        . exact h.opened a hmem
        . exact h.opened a ha
      . intro a ha
        rcases h.selected ha with ⟨hpublished, hrest⟩
        exact ⟨List.mem_cons_of_mem _ hpublished, hrest⟩
      . intro a ha
        rcases List.mem_cons.mp ha with rfl | ha
        . exact h.bounded a hmem
        . exact h.bounded a ha
      . intro a ha b hb
        have hold : ∀ a ∈ f :: c.published, a ∈ c.published := by
          intro a ha
          rcases List.mem_cons.mp ha with rfl | ha
          . exact hmem
          . exact ha
        exact h.unique a (hold a ha) b (hold b hb)

theorem Stamped.invalidate (h : c.Stamped) (id : String) : (c.step (.invalidate id)).Stamped := by
  change Stamped { c with selection := c.selection.invalidate id }
  unfold Selection.invalidate
  split
  . exact ⟨h.nodup, h.newest, h.opened, by simp, h.bounded, h.unique⟩
  . exact h

theorem Stamped.drop (h : c.Stamped) (id : String) : (c.step (.drop id)).Stamped := by
  change Stamped { c with selection := c.selection.drop id }
  unfold Selection.drop
  split
  . exact ⟨h.nodup, by simp [Selection.default], h.opened, by simp [Selection.default],
      by simp [Selection.default], h.unique⟩
  . exact h

theorem Stamped.step (h : c.Stamped) {e : CaptureEvent} (hfresh : c.Fresh e) : (c.step e).Stamped := by
  cases e with
  | begin_ id legacyPrimary => exact h.begin_ hfresh legacyPrimary
  | frame id monitorIndex desktop w h' => exact h.frame id monitorIndex desktop w h'
  | invalidate id => exact h.invalidate id
  | drop id => exact h.drop id

-- A session that was replaced.
theorem Stamped.replaced (h : c.Stamped) {old : String} (hold : old ∈ c.opened.tail)
    : c.selection.id ≠ some old := by
  intro hid
  have hhead := h.newest hid
  cases hopened : c.opened with
  | nil =>
    rw [hopened] at hhead
    cases hhead
  | cons id rest =>
    have hnodup := h.nodup
    rw [hopened] at hhead hold hnodup
    cases hhead
    exact (List.nodup_cons.mp hnodup).1 hold

/--
Two published frames with one stamp have one geometry. A stamped command is mapped with the selected
geometry, which is published under this stamp, or rejected. A session that was replaced leaves the
selection as it is.
-/
theorem geometry_stamps {events : List CaptureEvent} (hfresh : Runs.Admits step Fresh init events)
    : let c := Runs.exec step init events
      (∀ f ∈ c.published, ∀ g ∈ c.published, f.captureId = g.captureId →
        f.geometryRevision = g.geometryRevision → f = g)
      ∧ (∀ v, Selection.stamped v = true →
        (∀ v', c.selection.mapCommand v = .ok v' →
          ∃ f ∈ c.published, c.selection.frame = some f ∧ Stamps v f ∧ MapsWith f v v')
        ∧ ((∀ f, c.selection.frame = some f → ¬Stamps v f) →
          c.selection.mapCommand v = .error "stale capture geometry"))
      ∧ ∀ old ∈ c.opened.tail,
        (∀ monitorIndex desktop w h,
          (c.step (.frame old monitorIndex desktop w h)).selection = c.selection)
        ∧ (c.step (.invalidate old)).selection = c.selection
        ∧ (c.step (.drop old)).selection = c.selection := by
  have h : (Runs.exec step init events).Stamped :=
    hfresh.exec (fun hstamped hfresh => hstamped.step hfresh) init_stamped
  refine ⟨h.unique, ?_, ?_⟩
  . intro v hstamped
    constructor
    . intro v' hv'
      rcases Selection.mapCommand_stamped hstamped hv' with ⟨f, hf, hmapped⟩
      exact ⟨f, (h.selected hf).1, hf, hmapped⟩
    . exact Selection.mapCommand_stale hstamped
  . intro old hold
    have hid := h.replaced hold
    refine ⟨?_, if_neg hid, if_neg hid⟩
    intro monitorIndex desktop w h
    change (Captures.frame _ old monitorIndex desktop w h).selection = _
    rw [Captures.frame, Selection.publish_other hid]

def replacement : List CaptureEvent :=
  [
    .begin_ "first" false,
    .frame "first" (some 1) (some ⟨-100, 0, 100, 100⟩) 50 50,
    .begin_ "second" false,
    .frame "first" (some 1) (some ⟨-100, 0, 100, 100⟩) 100 100,
    .frame "second" (some 1) (some ⟨0, 0, 100, 100⟩) 50 50,
    .drop "first"
  ]

theorem replacement_fresh : Runs.Admits step Fresh init replacement := by
  refine ⟨?_, trivial, ?_, trivial, trivial, trivial, trivial⟩
  . decide
  . decide

-- The second session goes on with what it has selected.
theorem geometry_stamps_replacement
    : ((Runs.exec step init replacement).step (.drop "first")).selection
        = (Runs.exec step init replacement).selection :=
  ((geometry_stamps replacement_fresh).2.2 "first" (by decide)).2.2

end Captures

end Input

end Vantyr
