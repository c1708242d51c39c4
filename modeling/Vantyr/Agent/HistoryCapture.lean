import Vantyr.Agent.Fence
import Vantyr.Agent.RecallContext
import Vantyr.Data.Runs

/-!
This module contains the loop of the agent that captures keyframes, `start_history_capture` in
`agent/src/capture/history/mod.rs`, and the context that is put together around a capture
(`agent/src/capture/recall_context/mod.rs`). What one round of the loop can do is `round_spec`.
-/

namespace Vantyr

namespace HistoryCapture

open Permissions RecallContext

structure HistorySettings where
  enabled : Bool := true
  intervalMs : Nat := 20000
  hotIntervalMs : Nat := 6000
  hotIdleMs : Nat := 20000
  jpegQuality : Nat := 45
  maxDim : Nat := 1600
  dedupHamming : Nat := 4
  keyframeMaxGapMs : Nat := 300000
  monitor : Option Nat := none
  ocr : Bool := true
  deriving DecidableEq, Repr

/-!
The context around a capture.
-/

structure Snapshot where
  identity : String
  app : String
  title : String
  source : Source
  titleTruncated : Bool
  deriving DecidableEq, Repr

-- `provider` is what the desktop tells at that moment.
def snapshot (generation : Option Generation) (store : Option State) (provider : Except Reason Snapshot)
    : Except Reason Snapshot :=
  if generation.any (fun g => g.module = .windowActivity && g.validFresh store) then
    provider
  else
    .error .moduleDisabled

-- In nanoseconds.
def bracketBudget : Nat := 250 * 10 ^ 6

def windowAround (before after : Except Reason Snapshot) (elapsed : Nat) (generations : Generations)
    : WindowContext :=
  if generations.windowGeneration.isNone then
    .empty .notCollected .moduleDisabled
  else if bracketBudget < elapsed then
    .empty .unknown .sampleTimeout
  else
    match before, after with
    | .ok a, .ok b =>
      if a = b ∧ a.identity ≠ "" then
        let (app, appTruncated) := bounded a.app maxAppBytes
        let (title, titleTruncated) := bounded a.title maxTitleBytes
        {
          status := .observed
          reason := none
          source := a.source
          app := if appTruncated then none else app
          title
          titleTruncated := a.titleTruncated || titleTruncated
        }
      else
        .empty .uncertain .changed
    | .error .changed, _ => .empty .uncertain .changed
    | _, .error .changed => .empty .uncertain .changed
    | .error e, _ => .empty .unknown e
    | _, .error e => .empty .unknown e

def around (before after : Except Reason Snapshot) (elapsed : Nat) (generations : Generations) : Context :=
  let window := windowAround before after elapsed generations
  let browserGranted := generations.browserGeneration.isSome
  {
    version := contextVersion
    scope := contextScope
    bracketMs := min (elapsed / 10 ^ 6) maxBracketMs
    monitorRelation := "unknown"
    window
    browser := {
      status := if browserGranted then .unknown else .notCollected
      reason := some (if browserGranted then .unsupported else .moduleDisabled)
      source := .none
      url := none
      urlHost := none
    }
    grantRevisions := fun m =>
      if m = .windowActivity ∧ window.status = .observed then
        generations.windowGeneration.map Generation.revision
      else
        none
  }

abbrev Signature := Option String × Option String

def signature (c : Context) : Option Signature :=
  if c.window.status = .observed then some (c.window.app, c.window.title) else none

/-!
One monitor.
-/

-- The operations on images. The hash has 64 bits.
structure Imaging (Image Jpeg Word : Type) where
  width : Image → Nat
  height : Image → Nat
  downscale : Image → (maxDim : Nat) → Image
  averageHash : Image → BitVec 64
  ocrRgba : Image → Except String (String × List Word)
  encodeJpeg : Image → (quality : Nat) → Except String Jpeg

structure HistoryFrame (Jpeg Word : Type) where
  generation : Option Generation
  capturedAt : Int
  captureDurationMs : Option Nat
  context : Option Context
  contextGenerations : Generations
  monitor : Nat
  width : Nat
  height : Nat
  jpeg : Jpeg
  phash : BitVec 64
  ocrText : Option String
  ocrWords : List Word

inductive TrySend where
  | ok
  | full
  | closed
  deriving DecidableEq, Repr

-- What the loop gets to see while it captures a monitor, in this order.
structure Shot (Image : Type) where
  contextStore : Option State
  beforeStore : Option State
  before : Except Reason Snapshot
  captureStore : Option State
  capture : Except String (Image × Int × Nat)
  afterStore : Option State
  after : Except Reason Snapshot
  bracket : Nat
  checkStore : Option State
  sendStore : Option State
  frameStore : Option State
  trySend : TrySend

structure Slot where
  lastHash : Option (BitVec 64) := none
  lastContext : Option Signature := none
  lastContextGeneration : Option Generation := none
  deriving DecidableEq, Repr

def hamming (a b : BitVec 64) : Nat :=
  (List.range 64).countP (fun i => (a ^^^ b).getLsbD i)

-- `signature` is history: the context that the frame was compared by.
structure Stored (Jpeg Word : Type) where
  frame : HistoryFrame Jpeg Word
  signature : Option Signature

inductive Shipped (Jpeg Word : Type) where
  | dropped
  | stored (entry : Stored Jpeg Word)
  | closed

variable {Image Jpeg Word : Type} (imaging : Imaging Image Jpeg Word)

namespace Shot

variable (shot : Shot Image)

def generations : Generations :=
  .fromState (shot.contextStore.getD .default)

-- The context after its first check.
def context : Context :=
  let generations := shot.generations
  let before := snapshot generations.windowGeneration shot.beforeStore shot.before
  let after := snapshot generations.windowGeneration shot.afterStore shot.after
  (around before after shot.bracket generations).sanitizeIn (shot.checkStore.getD .default) generations

def signature : Option Signature :=
  HistoryCapture.signature shot.context

end Shot

def Slot.refresh (slot : Slot) (window : Option Generation) : Slot :=
  if slot.lastContextGeneration ≠ window then
    { slot with lastContext := none, lastContextGeneration := window }
  else
    slot

def Slot.unchanged (slot : Slot) (cfg : HistorySettings) (hash : BitVec 64) (signature : Option Signature)
    : Bool :=
  slot.lastHash.any (fun prev => hamming prev hash ≤ cfg.dedupHamming)
    && !(signature.isSome && slot.lastContext != signature)

def ocr (cfg : HistorySettings) (image : Image) : Option String × List Word :=
  if cfg.ocr then
    match imaging.ocrRgba image with
    | .ok (text, words) => if Text.trim text ≠ "" then (some text, words) else (none, [])
    | .error _ => (none, [])
  else
    (none, [])

def captureMonitor (cfg : HistorySettings) (generation : Option Generation) (forceKeyframe : Bool)
    (monitor : Nat) (slot : Slot) (shot : Shot Image) : Slot × Shipped Jpeg Word :=
  let slot := slot.refresh shot.generations.windowGeneration
  if !generation.any (fun g => g.validFresh shot.captureStore) then
    (slot, .dropped)
  else
    match shot.capture with
    | .error _ => (slot, .dropped)
    | .ok (rgba, capturedAt, elapsedMs) =>
      let small := imaging.downscale rgba cfg.maxDim
      let hash := imaging.averageHash small
      if !forceKeyframe && slot.unchanged cfg hash shot.signature then
        (slot, .dropped)
      else
        let (ocrText, ocrWords) := ocr imaging cfg small
        match imaging.encodeJpeg small (min (max cfg.jpegQuality 1) 100) with
        | .error _ => (slot, .dropped)
        | .ok jpeg =>
          if !generation.any (fun g => g.validFresh shot.sendStore) then
            (slot, .dropped)
          else
            match shot.trySend with
            | .full => (slot, .dropped)
            | .closed => (slot, .closed)
            | .ok =>
              let frame := {
                generation
                capturedAt
                captureDurationMs := if elapsedMs ≤ 1000 then some elapsedMs else none
                context := some (shot.context.sanitizeIn (shot.frameStore.getD .default) shot.generations)
                contextGenerations := shot.generations
                monitor
                width := imaging.width small
                height := imaging.height small
                jpeg
                phash := hash
                ocrText
                ocrWords
              }
              let lastContext := shot.signature.or slot.lastContext
              let entry := { frame, signature := shot.signature }
              ({ slot with lastHash := some hash, lastContext }, .stored entry)

-- The monitors are captured in order, until the receiver is gone.
def captureAll (cfg : HistorySettings) (generation : Option Generation) (forceKeyframe : Bool)
    (shots : Nat → Shot Image) : List Nat → (Nat → Slot) → (Nat → Slot) × List (Stored Jpeg Word) × Bool
  | [], slots => (slots, [], false)
  | monitor :: targets, slots =>
    match captureMonitor imaging cfg generation forceKeyframe monitor (slots monitor) (shots monitor) with
    | (slot, .closed) => (Function.update slots monitor slot, [], true)
    | (slot, .dropped) =>
      captureAll cfg generation forceKeyframe shots targets (Function.update slots monitor slot)
    | (slot, .stored entry) =>
      let (slots, stored, closed) :=
        captureAll cfg generation forceKeyframe shots targets (Function.update slots monitor slot)
      (slots, entry :: stored, closed)

/-!
The loop.
-/

def quantumMs : Nat := 1000

@[irreducible]
def saturatingAdd (a b : Nat) : Nat :=
  min (a + b) (2 ^ 64 - 1)

theorem saturatingAdd_le (a b : Nat) : saturatingAdd a b ≤ a + b := by
  unfold saturatingAdd
  exact Nat.min_le_left _ _

structure Loop where
  targets : List Nat
  slots : Nat → Slot
  sinceStoredMs : Nat
  waitedMs : Nat
  generation : Option Generation
  running : Bool

structure Tick (Image : Type) where
  cached : State
  store : Option State
  stop : Bool
  cfg : HistorySettings
  active : Bool
  nowMs : Nat
  lastInputMs : Nat
  shots : Nat → Shot Image

def targets (monitors : Nat) (monitor : Option Nat) : List Nat :=
  match monitor.filter (· < monitors) with
  | some i => [i]
  | none => List.range monitors

def start (monitors : Nat) (initial : HistorySettings) (store : Option State) : Loop where
  targets := targets monitors initial.monitor
  slots := fun _ => {}
  sinceStoredMs := initial.keyframeMaxGapMs
  waitedMs := 0
  generation := store.bind (fun s => Generation.fromState s .recall)
  running := monitors ≠ 0

namespace Loop

def forget (l : Loop) : Loop :=
  {
    l with
    generation := none
    slots := fun i => { l.slots i with lastHash := none, lastContext := none }
    waitedMs := 0
  }

def refresh (l : Loop) (t : Tick Image) : Loop :=
  let l := if l.generation.any (fun g => !g.matches t.cached) then l.forget else l
  if l.generation.isNone then
    { l with generation := t.store.bind (fun s => Generation.fromState s .recall) }
  else
    l

def sleep (l : Loop) : Loop :=
  {
    l with
    sinceStoredMs := saturatingAdd l.sinceStoredMs quantumMs
    waitedMs := saturatingAdd l.waitedMs quantumMs
  }

-- The state of the loop after it slept.
def awake (l : Loop) (t : Tick Image) : Loop :=
  (l.refresh t).sleep

end Loop

def Tick.desiredMs (t : Tick Image) : Nat :=
  if t.nowMs - t.lastInputMs ≤ t.cfg.hotIdleMs then t.cfg.hotIntervalMs else t.cfg.intervalMs

def Loop.captures (l : Loop) (t : Tick Image) : Loop × List (Stored Jpeg Word) :=
  let forceKeyframe := t.cfg.keyframeMaxGapMs ≤ l.sinceStoredMs
  if l.waitedMs < max t.desiredMs quantumMs ∧ ¬forceKeyframe then
    (l, [])
  else
    let (slots, stored, closed) :=
      captureAll imaging t.cfg l.generation forceKeyframe t.shots l.targets l.slots
    let l := { l with slots, waitedMs := 0 }
    if closed then
      ({ l with running := false }, stored)
    else if stored.isEmpty then
      (l, stored)
    else
      ({ l with sinceStoredMs := 0 }, stored)

-- One round of the loop, and the frames it handed on.
def Loop.round (l : Loop) (t : Tick Image) : Loop × List (Stored Jpeg Word) :=
  if !l.running then
    (l, [])
  else if t.stop then
    ({ l.refresh t with running := false }, [])
  else
    let l := l.awake t
    if !t.cfg.enabled || l.generation.isNone || !t.active then
      ({ l with waitedMs := 0 }, [])
    else
      l.captures imaging t

def Loop.step (l : Loop) (t : Tick Image) : Loop :=
  (l.round imaging t).1

def Loop.stored (l : Loop) (t : Tick Image) : List (Stored Jpeg Word) :=
  (l.round imaging t).2

/-!
What is handed on for a monitor.
-/

variable {imaging} {cfg : HistorySettings} {generation : Option Generation} {forceKeyframe : Bool}

-- The slot after a frame was handed on.
def Slot.store (slot : Slot) (window : Option Generation) (entry : Stored Jpeg Word) : Slot :=
  let slot := slot.refresh window
  { slot with lastHash := some entry.frame.phash, lastContext := entry.signature.or slot.lastContext }

structure Admitted (cfg : HistorySettings) (generation : Option Generation) (forceKeyframe : Bool)
    (monitor : Nat) (slot : Slot) (shot : Shot Image) (entry : Stored Jpeg Word) : Prop where
  granted : entry.frame.generation = generation
  fresh : ∃ g, generation = some g ∧ g.validFresh shot.captureStore = true
    ∧ g.validFresh shot.sendStore = true
  place : entry.frame.monitor = monitor
  signature : entry.signature = shot.signature
  generations : entry.frame.contextGenerations = shot.generations
  context : entry.frame.context
    = some (shot.context.sanitizeIn (shot.frameStore.getD .default) shot.generations)
  changed : forceKeyframe = true ∨ (slot.refresh shot.generations.windowGeneration).unchanged cfg
    entry.frame.phash shot.signature = false

theorem any_fresh {store : Option State} (h : ¬(!generation.any (fun g => g.validFresh store)) = true)
    : ∃ g, generation = some g ∧ g.validFresh store = true := by
  rw [Bool.not_eq_true', Bool.not_eq_false, Option.any_eq_true] at h
  exact h

theorem captureMonitor_cases (imaging : Imaging Image Jpeg Word) (cfg : HistorySettings)
    (generation : Option Generation) (forceKeyframe : Bool) (monitor : Nat) (slot : Slot) (shot : Shot Image)
    : (∃ outcome, (outcome = .dropped ∨ outcome = .closed ∧ shot.trySend = .closed)
        ∧ captureMonitor imaging cfg generation forceKeyframe monitor slot shot
          = (slot.refresh shot.generations.windowGeneration, outcome))
      ∨ ∃ entry, captureMonitor imaging cfg generation forceKeyframe monitor slot shot
          = (slot.store shot.generations.windowGeneration entry, .stored entry)
        ∧ Admitted cfg generation forceKeyframe monitor slot shot entry := by
  unfold captureMonitor
  dsimp only
  split
  . exact Or.inl ⟨_, Or.inl rfl, rfl⟩
  . next hcapture =>
    split
    . exact Or.inl ⟨_, Or.inl rfl, rfl⟩
    . split
      . exact Or.inl ⟨_, Or.inl rfl, rfl⟩
      . next hchanged =>
        split
        . exact Or.inl ⟨_, Or.inl rfl, rfl⟩
        . split
          . exact Or.inl ⟨_, Or.inl rfl, rfl⟩
          . next hsend =>
            split
            . exact Or.inl ⟨_, Or.inl rfl, rfl⟩
            . next hclosed => exact Or.inl ⟨_, Or.inr ⟨rfl, hclosed⟩, rfl⟩
            . right
              rcases any_fresh hcapture with ⟨g, hg, hfresh⟩
              rcases any_fresh hsend with ⟨g', hg', hfresh'⟩
              rw [hg, Option.some.injEq] at hg'
              subst hg'
              rw [Bool.and_eq_true, not_and_or, Bool.not_eq_true', Bool.not_eq_false, Bool.not_eq_true]
                at hchanged
              refine ⟨_, Prod.ext ?_ rfl, ?_⟩
              . rfl
              constructor
              . rfl
              . exact ⟨g, hg, hfresh, hfresh'⟩
              . rfl
              . rfl
              . rfl
              . rfl
              . exact hchanged

section

variable {shots : Nat → Shot Image} {monitors : List Nat} {slots : Nat → Slot}

-- What a round makes of the slot of a monitor.
inductive Visited (cfg : HistorySettings) (generation : Option Generation) (forceKeyframe : Bool)
    (shots : Nat → Shot Image) (slots : Nat → Slot) (stored : List (Stored Jpeg Word)) (monitor : Nat)
    : Slot → Prop where
  | left (h : ∀ entry ∈ stored, entry.frame.monitor ≠ monitor)
    : Visited cfg generation forceKeyframe shots slots stored monitor (slots monitor)
  | dropped (h : ∀ entry ∈ stored, entry.frame.monitor ≠ monitor)
    : Visited cfg generation forceKeyframe shots slots stored monitor
        ((slots monitor).refresh (shots monitor).generations.windowGeneration)
  | stored (entry : Stored Jpeg Word) (hmem : entry ∈ stored)
    (hadmitted : Admitted cfg generation forceKeyframe monitor (slots monitor) (shots monitor) entry)
    (hunique : ∀ other ∈ stored, other.frame.monitor = monitor → other = entry)
    : Visited cfg generation forceKeyframe shots slots stored monitor
        ((slots monitor).store (shots monitor).generations.windowGeneration entry)

theorem captureAll_monitor
    : ∀ entry ∈ (captureAll imaging cfg generation forceKeyframe shots monitors slots).2.1,
        entry.frame.monitor ∈ monitors := by
  induction monitors generalizing slots with
  | nil =>
    intro entry hentry
    cases hentry
  | cons monitor monitors ih =>
    unfold captureAll
    rcases captureMonitor_cases imaging cfg generation forceKeyframe monitor (slots monitor)
        (shots monitor) with
      ⟨outcome, hdropped | ⟨hclosed, _⟩, heq⟩ | ⟨entry, heq, hadmitted⟩
    . rw [heq, hdropped]
      intro entry hentry
      exact List.mem_cons_of_mem _ (ih entry hentry)
    . rw [heq, hclosed]
      intro entry hentry
      cases hentry
    . rw [heq]
      intro other hother
      rcases List.mem_cons.mp hother with rfl | hother
      . rw [hadmitted.place]
        exact List.mem_cons_self
      . exact List.mem_cons_of_mem _ (ih other hother)

theorem captureAll_other {monitor : Nat} (h : monitor ∉ monitors)
    : (captureAll imaging cfg generation forceKeyframe shots monitors slots).1 monitor = slots monitor := by
  induction monitors generalizing slots with
  | nil => rfl
  | cons first monitors ih =>
    rw [List.mem_cons, not_or] at h
    have hupdate (slot : Slot) : Function.update slots first slot monitor = slots monitor :=
      Function.update_of_ne h.1 _ _
    unfold captureAll
    split
    . exact hupdate _
    . rw [ih h.2]
      exact hupdate _
    . dsimp only
      rw [ih h.2]
      exact hupdate _

theorem Visited.congr {slots' : Nat → Slot} {stored stored' : List (Stored Jpeg Word)} {monitor : Nat}
    {slot : Slot} (h : Visited cfg generation forceKeyframe shots slots stored monitor slot)
    (hslots : slots monitor = slots' monitor)
    (hstored : ∀ entry : Stored Jpeg Word, entry.frame.monitor = monitor → (entry ∈ stored ↔ entry ∈ stored'))
    : Visited cfg generation forceKeyframe shots slots' stored' monitor slot := by
  cases h with
  | left hnone =>
    rw [hslots]
    exact .left (fun entry hentry heq => hnone entry ((hstored entry heq).mpr hentry) heq)
  | dropped hnone =>
    rw [hslots]
    exact .dropped (fun entry hentry heq => hnone entry ((hstored entry heq).mpr hentry) heq)
  | stored entry hmem hadmitted hunique =>
    rw [hslots] at hadmitted ⊢
    refine .stored entry ((hstored entry hadmitted.place).mp hmem) hadmitted ?_
    intro other hother heq
    exact hunique other ((hstored other heq).mpr hother) heq

theorem captureAll_visited (hnodup : monitors.Nodup) (monitor : Nat)
    : Visited cfg generation forceKeyframe shots slots
        (captureAll imaging cfg generation forceKeyframe shots monitors slots).2.1 monitor
        ((captureAll imaging cfg generation forceKeyframe shots monitors slots).1 monitor) := by
  by_cases hmonitor : monitor ∈ monitors
  . induction monitors generalizing slots with
    | nil => cases hmonitor
    | cons first monitors ih =>
      rw [List.nodup_cons] at hnodup
      by_cases hfirst : monitor = first
      . -- The monitor is captured first, and the others leave its slot as it is.
        subst hfirst
        have hrest := @captureAll_monitor _ _ _ imaging cfg generation forceKeyframe shots monitors
        have hother := @captureAll_other _ _ _ imaging cfg generation forceKeyframe shots monitors
        unfold captureAll
        rcases captureMonitor_cases imaging cfg generation forceKeyframe monitor (slots monitor)
            (shots monitor) with
          ⟨outcome, hdropped | ⟨hclosed, _⟩, heq⟩ | ⟨entry, heq, hadmitted⟩
        . rw [heq, hdropped]
          dsimp only
          rw [hother hnodup.1, Function.update_self]
          exact .dropped (fun entry hentry heq => hnodup.1 (heq ▸ hrest entry hentry))
        . rw [heq, hclosed]
          dsimp only
          rw [Function.update_self]
          exact .dropped (fun entry hentry => by cases hentry)
        . rw [heq]
          dsimp only
          rw [hother hnodup.1, Function.update_self]
          refine .stored entry List.mem_cons_self hadmitted ?_
          intro other hmem heq'
          rcases List.mem_cons.mp hmem with hsame | hmem
          . exact hsame
          . exact absurd (heq' ▸ hrest other hmem) hnodup.1
      . have hmem : monitor ∈ monitors := (List.mem_cons.mp hmonitor).resolve_left hfirst
        have hslots (slot : Slot) : Function.update slots first slot monitor = slots monitor :=
          Function.update_of_ne hfirst _ _
        unfold captureAll
        rcases captureMonitor_cases imaging cfg generation forceKeyframe first (slots first)
            (shots first) with
          ⟨outcome, hdropped | ⟨hclosed, _⟩, heq⟩ | ⟨entry, heq, hadmitted⟩
        . rw [heq, hdropped]
          exact (ih hnodup.2 hmem).congr (hslots _) (fun _ _ => Iff.rfl)
        . rw [heq, hclosed]
          dsimp only
          rw [hslots]
          exact .left (fun entry hentry => by cases hentry)
        . rw [heq]
          refine (ih hnodup.2 hmem).congr (hslots _) ?_
          intro other hother
          dsimp only
          rw [List.mem_cons]
          constructor
          . exact Or.inr
          . rintro (rfl | hin)
            . exact absurd (hother.symm.trans hadmitted.place) hfirst
            . exact hin
  . rw [captureAll_other hmonitor]
    exact .left (fun entry hentry heq => hmonitor (heq ▸ captureAll_monitor entry hentry))

end

/-!
What a round can do.
-/

section

variable {l l' : Loop} {t : Tick Image} {stored : List (Stored Jpeg Word)}

inductive Round (imaging : Imaging Image Jpeg Word) (l : Loop) (t : Tick Image)
    : Loop → List (Stored Jpeg Word) → Prop where
  | ended (hrunning : l.running = false) : Round imaging l t l []
  | stopped (hrunning : l.running = true) (hstop : t.stop = true)
    : Round imaging l t { l.refresh t with running := false } []
  | paused (hrunning : l.running = true) (hstop : t.stop = false)
    (hpaused : t.cfg.enabled = false ∨ (l.awake t).generation = none ∨ t.active = false)
    : Round imaging l t { l.awake t with waitedMs := 0 } []
  | waiting (hrunning : l.running = true) (hstop : t.stop = false)
    (hearly : (l.awake t).sinceStoredMs < t.cfg.keyframeMaxGapMs)
    : Round imaging l t (l.awake t) []
  | captured (hrunning : l.running = true) (hstop : t.stop = false) (henabled : t.cfg.enabled = true)
    (hactive : t.active = true)
    (hdue : t.cfg.keyframeMaxGapMs ≤ (l.awake t).sinceStoredMs
      ∨ max t.desiredMs quantumMs ≤ (l.awake t).waitedMs)
    (slots : Nat → Slot) (stored : List (Stored Jpeg Word)) (closed : Bool)
    (hall : captureAll imaging t.cfg (l.awake t).generation
      (t.cfg.keyframeMaxGapMs ≤ (l.awake t).sinceStoredMs) t.shots (l.awake t).targets (l.awake t).slots
        = (slots, stored, closed))
    : Round imaging l t {
        l.awake t with
        slots
        waitedMs := 0
        sinceStoredMs := if closed || stored.isEmpty then (l.awake t).sinceStoredMs else 0
        running := !closed && (l.awake t).running
      } stored

theorem refresh_targets (l : Loop) (t : Tick Image) : (l.refresh t).targets = l.targets := by
  unfold Loop.refresh
  dsimp only
  split <;> split <;> rfl

theorem refresh_sinceStoredMs (l : Loop) (t : Tick Image)
    : (l.refresh t).sinceStoredMs = l.sinceStoredMs := by
  unfold Loop.refresh
  dsimp only
  split <;> split <;> rfl

theorem refresh_waitedMs_le (l : Loop) (t : Tick Image) : (l.refresh t).waitedMs ≤ l.waitedMs := by
  unfold Loop.refresh
  dsimp only
  split <;> split <;> simp [Loop.forget]

theorem refresh_running (l : Loop) (t : Tick Image) : (l.refresh t).running = l.running := by
  unfold Loop.refresh
  dsimp only
  split <;> split <;> rfl

theorem awake_targets (l : Loop) (t : Tick Image) : (l.awake t).targets = l.targets :=
  refresh_targets l t

theorem round_spec (imaging : Imaging Image Jpeg Word) (l : Loop) (t : Tick Image)
    : Round imaging l t (l.step imaging t) (l.stored imaging t) := by
  unfold Loop.step Loop.stored Loop.round
  split
  . next hrunning => exact .ended ((Bool.not_eq_true' _).mp hrunning)
  . next hrunning =>
    rw [Bool.not_eq_true', Bool.not_eq_false] at hrunning
    split
    . next hstop => exact .stopped hrunning hstop
    . next hstop =>
      rw [Bool.not_eq_true] at hstop
      dsimp only
      split
      . next hpaused =>
        rw [Bool.or_eq_true, Bool.or_eq_true, Bool.not_eq_true', Bool.not_eq_true', Option.isNone_iff_eq_none,
          or_assoc] at hpaused
        exact .paused hrunning hstop hpaused
      . next hpaused =>
        rw [Bool.or_eq_true, Bool.or_eq_true, not_or, not_or, Bool.not_eq_true', Bool.not_eq_false,
          Bool.not_eq_true', Bool.not_eq_false] at hpaused
        rcases hpaused with ⟨⟨henabled, _⟩, hactive⟩
        unfold Loop.captures
        dsimp only
        split
        . next hearly =>
          exact .waiting hrunning hstop (Nat.lt_of_not_le hearly.2)
        . next hdue =>
          rw [not_and_or, not_not, Nat.not_lt] at hdue
          rcases hall : captureAll imaging t.cfg (l.awake t).generation
            (t.cfg.keyframeMaxGapMs ≤ (l.awake t).sinceStoredMs) t.shots (l.awake t).targets
            (l.awake t).slots with ⟨slots, stored, closed⟩
          have hround := Round.captured hrunning hstop henabled hactive hdue.symm slots stored closed hall
          dsimp only
          cases closed with
          | true => exact hround
          | false =>
            rw [if_neg Bool.false_ne_true]
            cases stored with
            | nil =>
              rw [if_pos List.isEmpty_nil]
              exact hround
            | cons entry stored =>
              rw [if_neg (by simp)]
              exact hround

theorem Round.running_of (h : Round imaging l t l' stored) (hrunning : l'.running = true)
    : l.running = true := by
  cases h with
  | ended => exact hrunning
  | stopped => cases hrunning
  | paused hrun => exact hrun
  | waiting hrun => exact hrun
  | captured hrun => exact hrun

theorem Round.targets (h : Round imaging l t l' stored) : l'.targets = l.targets := by
  cases h with
  | ended => rfl
  | stopped => exact refresh_targets l t
  | paused => exact awake_targets l t
  | waiting => exact awake_targets l t
  | captured => exact awake_targets l t

theorem awake_sinceStoredMs (l : Loop) (t : Tick Image)
    : (l.awake t).sinceStoredMs = saturatingAdd l.sinceStoredMs quantumMs := by
  change saturatingAdd (l.refresh t).sinceStoredMs quantumMs = _
  rw [refresh_sinceStoredMs]

theorem awake_sinceStoredMs_le (l : Loop) (t : Tick Image)
    : (l.awake t).sinceStoredMs ≤ l.sinceStoredMs + quantumMs := by
  rw [awake_sinceStoredMs]
  exact saturatingAdd_le _ _

theorem awake_waitedMs_le (l : Loop) (t : Tick Image) : (l.awake t).waitedMs ≤ l.waitedMs + quantumMs :=
  Nat.le_trans (saturatingAdd_le _ _) (Nat.add_le_add_right (refresh_waitedMs_le l t) _)

-- Time passes by one quantum a round.
theorem Round.clocks_le (h : Round imaging l t l' stored)
    : l'.sinceStoredMs ≤ l.sinceStoredMs + quantumMs ∧ l'.waitedMs ≤ l.waitedMs + quantumMs := by
  have hsince := awake_sinceStoredMs_le l t
  have hwaited := awake_waitedMs_le l t
  cases h with
  | ended => exact ⟨Nat.le_add_right _ _, Nat.le_add_right _ _⟩
  | stopped =>
    refine ⟨?_, Nat.le_trans (refresh_waitedMs_le l t) (Nat.le_add_right _ _)⟩
    change (l.refresh t).sinceStoredMs ≤ _
    rw [refresh_sinceStoredMs]
    exact Nat.le_add_right _ _
  | paused => exact ⟨hsince, Nat.zero_le _⟩
  | waiting => exact ⟨hsince, hwaited⟩
  | captured _ _ _ _ _ slots stored closed =>
    refine ⟨?_, Nat.zero_le _⟩
    change (if _ then _ else _) ≤ _
    split
    . exact hsince
    . exact Nat.zero_le _

-- A round that hands on a frame starts the clocks anew, and was due.
theorem Round.due (h : Round imaging l t l' stored) (hstored : stored ≠ [])
    : l'.waitedMs = 0 ∧ (l'.running = true → l'.sinceStoredMs = 0)
      ∧ (t.cfg.keyframeMaxGapMs ≤ l.sinceStoredMs + quantumMs
        ∨ max t.desiredMs quantumMs ≤ l.waitedMs + quantumMs) := by
  cases h with
  | ended => exact absurd rfl hstored
  | stopped => exact absurd rfl hstored
  | paused => exact absurd rfl hstored
  | waiting => exact absurd rfl hstored
  | captured _ _ _ _ hdue slots stored closed =>
    refine ⟨rfl, ?_, ?_⟩
    . intro hrunning
      have hopen : closed = false := (Bool.not_eq_true' _).mp ((Bool.and_eq_true _ _).mp hrunning).1
      change (if _ then _ else _) = 0
      rw [hopen, Bool.false_or, if_neg]
      rw [List.isEmpty_iff]
      exact hstored
    . rcases hdue with hgap | hwaited
      . exact Or.inl (Nat.le_trans hgap (awake_sinceStoredMs_le l t))
      . exact Or.inr (Nat.le_trans hwaited (awake_waitedMs_le l t))

end

end HistoryCapture

end Vantyr
