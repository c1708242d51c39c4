import Vantyr.Agent.Permissions
import Vantyr.Protocol.RecallContext

/-!
This module contains how the agent checks the context of a keyframe against its current grants
(`agent/src/capture/recall_context/mod.rs`).
-/

namespace Vantyr

namespace RecallContext

open Permissions

structure Generations where
  windowGeneration : Option Generation
  browserGeneration : Option Generation
  deriving DecidableEq, Repr

namespace Generations

def default : Generations := { windowGeneration := none, browserGeneration := none }

def fromState (s : State) : Generations where
  windowGeneration := Generation.fromState s .windowActivity
  browserGeneration := Generation.fromState s .browserUrls

end Generations

def bounded (raw : String) (cap : Nat) : Option String × Bool :=
  let (text, truncated) := boundedClean raw cap
  (if text.isEmpty then none else some text, truncated)

theorem size_bounded {raw text : String} {cap : Nat} (h : (bounded raw cap).1 = some text)
    : text.utf8ByteSize ≤ cap := by
  have hsize := size_boundedClean raw cap
  unfold bounded at h
  dsimp only at h
  split at h
  . cases h
  . rw [Option.some.injEq] at h
    rw [← h]
    exact hsize

namespace Context

def setRevision (c : Context) (m : Module) (revision : Option Nat) : Context :=
  { c with grantRevisions := Function.update c.grantRevisions m revision }

def sanitizeWindow (c : Context) (s : State) (generations : Generations) : Context :=
  match generations.windowGeneration.filter (fun g => g.module = .windowActivity ∧ g.matches s) with
  | none =>
    let reason := if generations.windowGeneration.isSome then .revoked else .moduleDisabled
    { c with window := .empty .notCollected reason }.setRevision .windowActivity none
  | some valid =>
    if c.window.status = .observed then
      let (app, long) := bounded (c.window.app.getD "") maxAppBytes
      let (title, truncated) := bounded (c.window.title.getD "") maxTitleBytes
      let window := {
        c.window with
        app := if long then none else app
        title
        titleTruncated := c.window.titleTruncated || truncated
      }
      { c with window }.setRevision .windowActivity (some valid.revision)
    else
      { c with window := { c.window with app := none, title := none } }.setRevision
        .windowActivity none

-- No value of a browser is sent.
def sanitizeBrowser (s : State) (generations : Generations) : BrowserContext :=
  let valid := generations.browserGeneration.any (fun g => g.module = .browserUrls ∧ g.matches s)
  {
    status := if valid then .unknown else .notCollected
    reason := some (
      if valid then .unsupported
      else if generations.browserGeneration.isSome then .revoked
      else .moduleDisabled)
    source := .none
    url := none
    urlHost := none
  }

def sanitizeIn (c : Context) (s : State) (generations : Generations) : Context :=
  let c := { c with monitorRelation := "unknown" }.sanitizeWindow s generations
  {
    c with
    browser := sanitizeBrowser s generations
    grantRevisions := fun m => if m = .windowActivity then c.grantRevisions m else none
  }

theorem window_sanitizeIn (c : Context) (s : State) (generations : Generations)
    : (c.sanitizeIn s generations).window = (c.sanitizeWindow s generations).window := by
  unfold sanitizeIn sanitizeWindow
  split
  . rfl
  . split
    . rfl
    . rfl

/--
Without a window generation that the grants still match, neither the app nor the title is kept.
-/
theorem sanitizeIn_window_values {c : Context} {s : State} {generations : Generations}
    (h : (c.sanitizeIn s generations).window.app ≠ none
      ∨ (c.sanitizeIn s generations).window.title ≠ none)
    : ∃ g, generations.windowGeneration = some g ∧ g.module = .windowActivity
        ∧ g.matches s = true := by
  rw [window_sanitizeIn] at h
  unfold sanitizeWindow at h
  split at h
  . simp [setRevision, WindowContext.empty] at h
  . next valid hvalid =>
    rw [Option.filter_eq_some_iff] at hvalid
    refine ⟨valid, hvalid.1, ?_⟩
    simpa using hvalid.2

-- What is kept of a window was bounded.
theorem sanitizeIn_window_bounded (c : Context) (s : State) (generations : Generations)
    : (∀ app ∈ (c.sanitizeIn s generations).window.app, ∃ raw, (bounded raw maxAppBytes).1 = some app)
      ∧ ∀ title ∈ (c.sanitizeIn s generations).window.title,
        ∃ raw, (bounded raw maxTitleBytes).1 = some title := by
  rw [window_sanitizeIn]
  unfold sanitizeWindow
  split
  . simp [setRevision, WindowContext.empty]
  . split
    . simp only [setRevision]
      constructor
      . intro app happ
        split at happ
        . cases happ
        . exact ⟨_, happ⟩
      . intro title htitle
        exact ⟨_, htitle⟩
    . simp [setRevision]

theorem size_sanitizeIn_window (c : Context) (s : State) (generations : Generations)
    : (∀ app ∈ (c.sanitizeIn s generations).window.app, app.utf8ByteSize ≤ maxAppBytes)
      ∧ ∀ title ∈ (c.sanitizeIn s generations).window.title,
        title.utf8ByteSize ≤ maxTitleBytes := by
  have hbounded := c.sanitizeIn_window_bounded s generations
  constructor
  . intro app happ
    rcases hbounded.1 app happ with ⟨raw, hraw⟩
    exact size_bounded hraw
  . intro title htitle
    rcases hbounded.2 title htitle with ⟨raw, hraw⟩
    exact size_bounded hraw

/-!
The check leaves the version, the scope and the bracket.
-/

structure SameEnvelope (c c' : Context) : Prop where
  version : c.version = c'.version
  scope : c.scope = c'.scope
  bracketMs : c.bracketMs = c'.bracketMs

theorem SameEnvelope.setRevision {c c' : Context} (h : SameEnvelope c c') (m : Module)
    (revision : Option Nat) : SameEnvelope (c.setRevision m revision) c' :=
  ⟨h.version, h.scope, h.bracketMs⟩

theorem envelope_sanitizeWindow (c : Context) (s : State) (generations : Generations)
    : SameEnvelope (c.sanitizeWindow s generations) c := by
  unfold sanitizeWindow
  split
  . apply SameEnvelope.setRevision
    exact ⟨rfl, rfl, rfl⟩
  . split
    . dsimp only
      apply SameEnvelope.setRevision
      exact ⟨rfl, rfl, rfl⟩
    . apply SameEnvelope.setRevision
      exact ⟨rfl, rfl, rfl⟩

theorem envelope_sanitizeIn (c : Context) (s : State) (generations : Generations)
    : SameEnvelope (c.sanitizeIn s generations) c := by
  have h := { c with monitorRelation := "unknown" }.envelope_sanitizeWindow s generations
  exact ⟨h.version, h.scope, h.bracketMs⟩

theorem monitorRelation_sanitizeIn (c : Context) (s : State) (generations : Generations)
    : (c.sanitizeIn s generations).monitorRelation = "unknown" := by
  unfold sanitizeIn sanitizeWindow
  split
  . rfl
  . split
    . rfl
    . rfl

-- The revisions that are kept are those of the window.
theorem grantRevisions_sanitizeIn (c : Context) (s : State) (generations : Generations)
    : (c.sanitizeIn s generations).grantRevisions
        = fun m =>
          if m = .windowActivity then
            (c.sanitizeIn s generations).grantRevisions .windowActivity
          else
            none := by
  funext m
  split
  . next h => rw [h]
  . next h => simp [sanitizeIn, h]

end Context

end RecallContext

end Vantyr
