import Vantyr.Agent.HistoryCapture

/-!
This module contains what a run of the loop that captures keyframes guarantees. The main results are what a
frame that is handed on was checked for, how far apart such frames are, when one is left out, and that the
loop never falls silent.
-/

namespace Vantyr

namespace HistoryCapture

open Permissions RecallContext

variable {Image Jpeg Word : Type} {imaging : Imaging Image Jpeg Word} {generation : Option Generation}

/-!
What a frame that is handed on was checked for.
-/

section

variable {l l' : Loop} {t : Tick Image} {stored : List (Stored Jpeg Word)}

/--
The loop was enabled and the person active. The grant for captures was valid before and after the monitor was
captured, and an app or a title is only there under a grant for windows that was still valid in the end.
-/
structure Fenced (t : Tick Image) (entry : Stored Jpeg Word) : Prop where
  enabled : t.cfg.enabled = true
  active : t.active = true
  running : t.stop = false
  grant : ∃ g, entry.frame.generation = some g ∧ g.module = .recall
    ∧ g.validFresh (t.shots entry.frame.monitor).captureStore = true
    ∧ g.validFresh (t.shots entry.frame.monitor).sendStore = true
  window : ∀ c ∈ entry.frame.context, c.window.app ≠ none ∨ c.window.title ≠ none →
    ∃ w, entry.frame.contextGenerations.windowGeneration = some w ∧ w.module = .windowActivity
      ∧ w.matches ((t.shots entry.frame.monitor).frameStore.getD .default) = true

theorem fromState_module {s : State} {m : Module} {g : Generation} (h : Generation.fromState s m = some g)
    : g.module = m := by
  unfold Generation.fromState at h
  rcases Option.map_eq_some_iff.mp h with ⟨_, _, rfl⟩
  rfl

-- The monitors are different, and the grant is one for captures.
structure Sound (l : Loop) : Prop where
  targets : l.targets.Nodup
  grant : ∀ g ∈ l.generation, g.module = .recall

theorem sound_start (monitors : Nat) (initial : HistorySettings) (store : Option State)
    : Sound (start monitors initial store) where
  targets := by
    change (targets monitors initial.monitor).Nodup
    unfold targets
    split
    . exact List.nodup_singleton _
    . exact List.nodup_range
  grant := by
    intro g hg
    rcases Option.bind_eq_some_iff.mp hg with ⟨s, _, hs⟩
    exact fromState_module hs

theorem refresh_recall (h : Sound l) (t : Tick Image)
    : ∀ g ∈ (l.refresh t).generation, g.module = .recall := by
  unfold Loop.refresh
  dsimp only
  intro g hg
  split at hg
  . split at hg
    . rcases Option.bind_eq_some_iff.mp hg with ⟨s, _, hs⟩
      exact fromState_module hs
    . cases hg
  . split at hg
    . rcases Option.bind_eq_some_iff.mp hg with ⟨s, _, hs⟩
      exact fromState_module hs
    . exact h.grant g hg

theorem Round.sound (h : Round imaging l t l' stored) (hl : Sound l) : Sound l' where
  targets := by
    rw [h.targets]
    exact hl.targets
  grant := by
    cases h with
    | ended => exact hl.grant
    | stopped => exact refresh_recall hl t
    | paused => exact refresh_recall hl t
    | waiting => exact refresh_recall hl t
    | captured => exact refresh_recall hl t

theorem Admitted.fenced {slot : Slot} {entry : Stored Jpeg Word} {force : Bool}
    (h : Admitted t.cfg generation force entry.frame.monitor slot (t.shots entry.frame.monitor) entry)
    (henabled : t.cfg.enabled = true) (hactive : t.active = true) (hstop : t.stop = false)
    (hrecall : ∀ g ∈ generation, g.module = .recall) : Fenced t entry where
  enabled := henabled
  active := hactive
  running := hstop
  grant := by
    rcases h.fresh with ⟨g, hg, hcapture, hsend⟩
    exact ⟨g, h.granted.trans hg, hrecall g hg, hcapture, hsend⟩
  window := by
    intro c hc hvalues
    rw [h.context, Option.mem_some_iff] at hc
    rw [← hc] at hvalues
    rw [h.generations]
    exact Context.sanitizeIn_window_values hvalues

theorem Round.fenced (h : Round imaging l t l' stored) (hl : Sound l)
    : ∀ entry ∈ stored, Fenced t entry ∧ entry.frame.monitor ∈ l.targets := by
  intro entry hentry
  cases h with
  | ended => cases hentry
  | stopped => cases hentry
  | paused => cases hentry
  | waiting => cases hentry
  | captured _ hstop henabled hactive _ slots stored closed hall =>
    have hnodup : (l.awake t).targets.Nodup := by
      rw [awake_targets]
      exact hl.targets
    have hmonitor := @captureAll_monitor _ _ _ imaging t.cfg (l.awake t).generation
      (t.cfg.keyframeMaxGapMs ≤ (l.awake t).sinceStoredMs) t.shots (l.awake t).targets (l.awake t).slots
    have hvisited := @captureAll_visited _ _ _ imaging t.cfg (l.awake t).generation
      (t.cfg.keyframeMaxGapMs ≤ (l.awake t).sinceStoredMs) t.shots (l.awake t).targets (l.awake t).slots
      hnodup entry.frame.monitor
    rw [hall] at hmonitor hvisited
    dsimp only at hvisited
    have htarget : entry.frame.monitor ∈ l.targets := by
      rw [← awake_targets l t]
      exact hmonitor entry hentry
    refine ⟨?_, htarget⟩
    generalize hslot : slots entry.frame.monitor = slot at hvisited
    cases hvisited with
    | left hnone => exact absurd rfl (hnone entry hentry)
    | dropped hnone => exact absurd rfl (hnone entry hentry)
    | stored other hmem hadmitted hunique =>
      rw [← hunique entry hentry rfl] at hadmitted
      exact hadmitted.fenced henabled hactive hstop (refresh_recall hl t)

theorem sound_exec (imaging : Imaging Image Jpeg Word) (hl : Sound l) (ticks : List (Tick Image))
    : Sound (Runs.exec (Loop.step imaging) l ticks) := by
  apply Runs.exec_inv (I := Sound) _ hl
  intro l t h
  exact (round_spec imaging l t).sound h

/--
In every run of the loop, a frame is only handed on for one of its monitors, while it is enabled, under grants
that were checked around the capture.
-/
theorem handed_on_fenced (imaging : Imaging Image Jpeg Word) (monitors : Nat) (initial : HistorySettings)
    (store : Option State) (ticks : List (Tick Image)) (t : Tick Image)
    : ∀ entry ∈ (Runs.exec (Loop.step imaging) (start monitors initial store) ticks).stored imaging t,
        Fenced t entry ∧ entry.frame.monitor ∈ targets monitors initial.monitor := by
  have hsound := sound_exec imaging (sound_start monitors initial store) ticks
  have htargets : (Runs.exec (Loop.step imaging) (start monitors initial store) ticks).targets
      = targets monitors initial.monitor := by
    apply Runs.exec_inv (I := fun l : Loop => l.targets = targets monitors initial.monitor)
    . intro l t h
      exact (round_spec imaging l t).targets.trans h
    . rfl
  intro entry hentry
  rw [← htargets]
  exact (round_spec imaging _ t).fenced hsound entry hentry

-- Images that are their own hash.
def plain : Imaging Nat Nat Unit where
  width := id
  height := id
  downscale := fun image _ => image
  averageHash := BitVec.ofNat 64
  ocrRgba := fun _ => .error "no OCR"
  encodeJpeg := fun image _ => .ok image

def granted : State :=
  State.default.setGrant .recall true

def shotOf (image : Nat) : Shot Nat where
  contextStore := some granted
  beforeStore := some granted
  before := .error .moduleDisabled
  captureStore := some granted
  capture := .ok (image, 0, 5)
  afterStore := some granted
  after := .error .moduleDisabled
  bracket := 0
  checkStore := some granted
  sendStore := some granted
  frameStore := some granted
  trySend := .ok

def tickOf (cfg : HistorySettings) (image : Nat) : Tick Nat where
  cached := granted
  store := some granted
  stop := false
  cfg
  active := true
  nowMs := 0
  lastInputMs := 0
  shots := fun _ => shotOf image

def oneMonitor : Loop :=
  start 1 {} (some granted)

theorem firstFrame_ne_nil : oneMonitor.stored plain (tickOf {} 0) ≠ [] :=
  List.isEmpty_eq_false_iff.mp (by decide +kernel)

theorem handed_on_fenced_first
    : Fenced (tickOf {} 0) ((oneMonitor.stored plain (tickOf {} 0)).head firstFrame_ne_nil) :=
  (handed_on_fenced plain 1 {} (some granted) [] (tickOf {} 0) _ (List.head_mem firstFrame_ne_nil)).1

end

/-!
How far apart frames are.
-/

section

variable {l : Loop} {t t' : Tick Image} {between : List (Tick Image)}

theorem exec_running (imaging : Imaging Image Jpeg Word) {l : Loop} (ticks : List (Tick Image))
    (h : (Runs.exec (Loop.step imaging) l ticks).running = true) : l.running = true := by
  induction ticks generalizing l with
  | nil => exact h
  | cons t ticks ih => exact (round_spec imaging l t).running_of (ih h)

theorem exec_clocks_le (imaging : Imaging Image Jpeg Word) {l : Loop} (ticks : List (Tick Image))
    : (Runs.exec (Loop.step imaging) l ticks).sinceStoredMs ≤ l.sinceStoredMs + quantumMs * ticks.length
      ∧ (Runs.exec (Loop.step imaging) l ticks).waitedMs ≤ l.waitedMs + quantumMs * ticks.length := by
  induction ticks generalizing l with
  | nil => exact ⟨Nat.le_refl _, Nat.le_refl _⟩
  | cons t ticks ih =>
    have hstep := (round_spec imaging l t).clocks_le
    have hrest := @ih (l.step imaging t)
    rw [List.length_cons, Nat.mul_succ]
    change (Runs.exec (Loop.step imaging) (l.step imaging t) ticks).sinceStoredMs ≤ _
      ∧ (Runs.exec (Loop.step imaging) (l.step imaging t) ticks).waitedMs ≤ _
    omega

theorem running_of_stored (h : l.stored imaging t ≠ []) : l.running = true := by
  have hround := round_spec imaging l t
  generalize l.stored imaging t = stored at hround h
  generalize l.step imaging t = l' at hround
  cases hround with
  | ended => exact absurd rfl h
  | stopped hrunning => exact hrunning
  | paused hrunning => exact hrunning
  | waiting hrunning => exact hrunning
  | captured hrunning => exact hrunning

/--
Between two rounds that hand on frames there is at least the interval that is desired at the second one, or
the gap after which a frame is forced.
-/
theorem stored_spacing (hfirst : l.stored imaging t ≠ [])
    (hsecond : (Runs.exec (Loop.step imaging) (l.step imaging t) between).stored imaging t' ≠ [])
    : min t'.cfg.keyframeMaxGapMs (max t'.desiredMs quantumMs) ≤ quantumMs * (between.length + 1) := by
  have hrunning : (l.step imaging t).running = true :=
    exec_running imaging between (running_of_stored hsecond)
  rcases (round_spec imaging l t).due hfirst with ⟨hwaited, hsince, _⟩
  rcases (round_spec imaging _ t').due hsecond with ⟨_, _, hdue⟩
  have hclocks := @exec_clocks_le _ _ _ imaging (l.step imaging t) between
  rw [hwaited, hsince hrunning] at hclocks
  rw [Nat.mul_succ]
  omega

-- While the person is active, the next frame is captured six seconds later.
theorem stored_spacing_hot : min 300000 (max 6000 1000) ≤ 1000 * (5 + 1) := by
  have hnext : (Runs.exec (Loop.step plain) (oneMonitor.step plain (tickOf {} 0))
      (List.replicate 5 (tickOf {} 0))).stored plain (tickOf {} 255) ≠ [] :=
    List.isEmpty_eq_false_iff.mp (by decide +kernel)
  exact stored_spacing firstFrame_ne_nil hnext

end

/-!
When a frame of a monitor is left out.
-/

section

variable {l l' : Loop} {t t' : Tick Image} {stored : List (Stored Jpeg Word)} {g : Generation}
  {window : Option Generation} {entry entry' : Stored Jpeg Word} {monitor : Nat}

-- The grants are those that the last frame of the monitor was captured under.
structure Granted (g : Generation) (window : Option Generation) (monitor : Nat) (t : Tick Image) : Prop where
  grant : g.matches t.cached = true
  window : (t.shots monitor).generations.windowGeneration = window

-- What the loop remembers about the last frame of a monitor.
structure Remembers (g : Generation) (window : Option Generation) (entry : Stored Jpeg Word) (l : Loop)
    : Prop where
  generation : l.generation = some g
  lastHash : (l.slots entry.frame.monitor).lastHash = some entry.frame.phash
  lastContextGeneration : (l.slots entry.frame.monitor).lastContextGeneration = window
  lastContext : entry.signature.isSome = true →
    (l.slots entry.frame.monitor).lastContext = entry.signature

theorem refresh_same (h : l.generation = some g) (hmatches : g.matches t.cached = true)
    : l.refresh t = l := by
  unfold Loop.refresh
  dsimp only
  rw [h, Option.any_some, hmatches, Bool.not_true, if_neg Bool.false_ne_true, h, Option.isNone_some,
    if_neg Bool.false_ne_true]

theorem Slot.refresh_same {slot : Slot} (h : slot.lastContextGeneration = window)
    : slot.refresh window = slot := by
  unfold Slot.refresh
  rw [if_neg (by simpa using h)]

theorem Slot.refresh_window (slot : Slot) (window : Option Generation)
    : (slot.refresh window).lastContextGeneration = window := by
  unfold Slot.refresh
  split
  . rfl
  . next h => exact not_not.mp h

theorem Remembers.step (h : Remembers g window entry l) (hl : Sound l)
    (hgranted : Granted g window entry.frame.monitor t)
    (hnone : ∀ other ∈ l.stored imaging t, other.frame.monitor ≠ entry.frame.monitor)
    : Remembers g window entry (l.step imaging t) := by
  have hsame : l.refresh t = l := refresh_same h.generation hgranted.grant
  have hround := round_spec imaging l t
  generalize l.stored imaging t = stored at hround hnone
  generalize l.step imaging t = l' at hround
  cases hround with
  | ended => exact h
  | stopped =>
    rw [hsame]
    exact ⟨h.generation, h.lastHash, h.lastContextGeneration, h.lastContext⟩
  | paused =>
    unfold Loop.awake
    rw [hsame]
    exact ⟨h.generation, h.lastHash, h.lastContextGeneration, h.lastContext⟩
  | waiting =>
    unfold Loop.awake
    rw [hsame]
    exact ⟨h.generation, h.lastHash, h.lastContextGeneration, h.lastContext⟩
  | captured _ _ _ _ _ slots stored closed hall =>
    unfold Loop.awake at hall ⊢
    rw [hsame] at hall ⊢
    have hvisited := @captureAll_visited _ _ _ imaging t.cfg l.sleep.generation
      (t.cfg.keyframeMaxGapMs ≤ l.sleep.sinceStoredMs) t.shots l.sleep.targets l.sleep.slots hl.targets
      entry.frame.monitor
    rw [hall] at hvisited
    dsimp only at hvisited
    have hslot : slots entry.frame.monitor = l.slots entry.frame.monitor := by
      generalize slots entry.frame.monitor = slot at hvisited
      cases hvisited with
      | left => rfl
      | dropped =>
        rw [hgranted.window]
        exact Slot.refresh_same h.lastContextGeneration
      | stored other hmem hadmitted => exact absurd hadmitted.place (hnone other hmem)
    constructor
    . exact h.generation
    . exact (congrArg Slot.lastHash hslot).trans h.lastHash
    . exact (congrArg Slot.lastContextGeneration hslot).trans h.lastContextGeneration
    . intro hsignature
      exact (congrArg Slot.lastContext hslot).trans (h.lastContext hsignature)

-- The monitor of a frame in the round that handed it on.
theorem Round.of_stored (h : Round imaging l t l' stored) (hl : Sound l) (hentry : entry ∈ stored)
    : entry.frame.generation = (l.awake t).generation ∧ l'.generation = (l.awake t).generation
      ∧ Admitted t.cfg (l.awake t).generation (t.cfg.keyframeMaxGapMs ≤ (l.awake t).sinceStoredMs)
        entry.frame.monitor ((l.awake t).slots entry.frame.monitor) (t.shots entry.frame.monitor) entry
      ∧ l'.slots entry.frame.monitor = ((l.awake t).slots entry.frame.monitor).store
        (t.shots entry.frame.monitor).generations.windowGeneration entry := by
  cases h with
  | ended => cases hentry
  | stopped => cases hentry
  | paused => cases hentry
  | waiting => cases hentry
  | captured _ _ _ _ _ slots stored closed hall =>
    have hnodup : (l.awake t).targets.Nodup := by
      rw [show (l.awake t).targets = l.targets from refresh_targets l t]
      exact hl.targets
    have hvisited := @captureAll_visited _ _ _ imaging t.cfg (l.awake t).generation
      (t.cfg.keyframeMaxGapMs ≤ (l.awake t).sinceStoredMs) t.shots (l.awake t).targets (l.awake t).slots
      hnodup entry.frame.monitor
    rw [hall] at hvisited
    dsimp only at hvisited
    change _ ∧ _ ∧ _ ∧ slots entry.frame.monitor = _
    generalize slots entry.frame.monitor = slot at hvisited ⊢
    cases hvisited with
    | left hnone => exact absurd rfl (hnone entry hentry)
    | dropped hnone => exact absurd rfl (hnone entry hentry)
    | stored other hmem hadmitted hunique =>
      rw [← hunique entry hentry rfl] at hadmitted ⊢
      exact ⟨hadmitted.granted, rfl, hadmitted, rfl⟩

theorem Remembers.first (hl : Sound l) (hentry : entry ∈ l.stored imaging t)
    (hgeneration : entry.frame.generation = some g)
    : Remembers g entry.frame.contextGenerations.windowGeneration entry (l.step imaging t) := by
  rcases (round_spec imaging l t).of_stored hl hentry with ⟨hsame, hafter, hadmitted, hslot⟩
  rw [hadmitted.generations]
  constructor
  . rw [hafter, ← hsame, hgeneration]
  . rw [hslot]
    rfl
  . rw [hslot]
    exact Slot.refresh_window _ _
  . intro hsignature
    rw [hslot]
    change entry.signature.or _ = _
    rcases Option.isSome_iff_exists.mp hsignature with ⟨signature, hsome⟩
    rw [hsome, Option.some_or]

theorem Remembers.exec (hl : Sound l) (h : Remembers g window entry l)
    (hnone : ∀ before t after, between = before ++ t :: after →
      ∀ other ∈ (Runs.exec (Loop.step imaging) l before).stored imaging t,
        other.frame.monitor ≠ entry.frame.monitor)
    (hgranted : ∀ t ∈ between, Granted g window entry.frame.monitor t)
    : Remembers g window entry (Runs.exec (Loop.step imaging) l between) := by
  induction between generalizing l with
  | nil => exact h
  | cons t between ih =>
    have hstep : Remembers g window entry (l.step imaging t) :=
      h.step hl (hgranted t List.mem_cons_self) (hnone [] t between rfl)
    apply ih ((round_spec imaging l t).sound hl) hstep
    . intro before other after heq
      rw [heq] at hnone
      exact hnone (t :: before) other after rfl
    . exact fun other hother => hgranted other (List.mem_cons_of_mem _ hother)

theorem Slot.not_unchanged {slot : Slot} {cfg : HistorySettings} {hash prev : BitVec 64}
    {signature : Option Signature} (hlast : slot.lastHash = some prev)
    (h : slot.unchanged cfg hash signature = false)
    : cfg.dedupHamming < hamming prev hash ∨ signature.isSome = true ∧ slot.lastContext ≠ signature := by
  unfold Slot.unchanged at h
  rw [hlast, Option.any_some, Bool.and_eq_false_iff, decide_eq_false_iff_not, Nat.not_le,
    Bool.not_eq_false', Bool.and_eq_true, bne_iff_ne] at h
  exact h

/--
As long as the grants stay as they are, the next frame of a monitor was captured at least the gap later after
which a frame is forced, or its image is different, or another app or title was observed.
-/
theorem next_frame_differs (monitors : Nat) (initial : HistorySettings) (store : Option State)
    (ticks : List (Tick Image)) (hgeneration : entry.frame.generation = some g)
    (hmonitor : entry'.frame.monitor = entry.frame.monitor)
    : let l := Runs.exec (Loop.step imaging) (start monitors initial store) ticks
      entry ∈ l.stored imaging t →
      (∀ before tick after, between = before ++ tick :: after →
        ∀ other ∈ (Runs.exec (Loop.step imaging) (l.step imaging t) before).stored imaging tick,
          other.frame.monitor ≠ entry.frame.monitor) →
      (∀ tick ∈ between ++ [t'], Granted g entry.frame.contextGenerations.windowGeneration
        entry.frame.monitor tick) →
      entry' ∈ (Runs.exec (Loop.step imaging) (l.step imaging t) between).stored imaging t' →
        t'.cfg.keyframeMaxGapMs ≤ quantumMs * (between.length + 1)
          ∨ t'.cfg.dedupHamming < hamming entry.frame.phash entry'.frame.phash
          ∨ entry'.signature.isSome = true ∧ entry'.signature ≠ entry.signature := by
  intro l hentry hnone hgranted hentry'
  have hl : Sound l := sound_exec imaging (sound_start monitors initial store) ticks
  have hnext : Sound (l.step imaging t) := (round_spec imaging l t).sound hl
  have hgrantedLast := hgranted t' (List.mem_append_right _ (List.mem_singleton.mpr rfl))
  have hremembers := (Remembers.first hl hentry hgeneration).exec hnext hnone
    (fun tick htick => hgranted tick (List.mem_append_left _ htick))
  have hlast := sound_exec imaging hnext between
  rcases (round_spec imaging _ t').of_stored hlast hentry' with ⟨_, _, hadmitted, _⟩
  have hrunning : (l.step imaging t).running = true :=
    exec_running imaging between (running_of_stored (List.ne_nil_of_mem hentry'))
  rcases (round_spec imaging l t).due (List.ne_nil_of_mem hentry) with ⟨_, hsince, _⟩
  have hclocks := (@exec_clocks_le _ _ _ imaging (l.step imaging t) between).1
  rw [hsince hrunning] at hclocks
  generalize Runs.exec (Loop.step imaging) (l.step imaging t) between = last at *
  rcases hadmitted.changed with hforced | hchanged
  . left
    have hgap := of_decide_eq_true hforced
    have hawake := awake_sinceStoredMs_le last t'
    rw [Nat.mul_succ]
    omega
  . right
    have hsame : last.refresh t' = last := refresh_same hremembers.generation hgrantedLast.grant
    unfold Loop.awake at hchanged
    rw [hsame, hmonitor, hgrantedLast.window] at hchanged
    change ((last.slots entry.frame.monitor).refresh _).unchanged _ _ _ = false at hchanged
    rw [Slot.refresh_same hremembers.lastContextGeneration] at hchanged
    rcases Slot.not_unchanged hremembers.lastHash hchanged with hdiffers | ⟨hobserved, hcontext⟩
    . exact Or.inl hdiffers
    . right
      rw [hadmitted.signature, hmonitor]
      refine ⟨hobserved, ?_⟩
      intro heq
      exact hcontext ((hremembers.lastContext (heq ▸ hobserved)).trans heq.symm)

theorem nextFrame_ne_nil
    : (oneMonitor.step plain (tickOf {} 0)).stored plain (tickOf { hotIntervalMs := 1000 } 255) ≠ [] :=
  List.isEmpty_eq_false_iff.mp (by decide +kernel)

-- A second later the image is another one.
theorem next_frame_differs_hot
    : ∃ entry ∈ oneMonitor.stored plain (tickOf {} 0),
        ∃ entry' ∈ (oneMonitor.step plain (tickOf {} 0)).stored plain (tickOf { hotIntervalMs := 1000 } 255),
          4 < hamming entry.frame.phash entry'.frame.phash
            ∨ entry'.signature.isSome = true ∧ entry'.signature ≠ entry.signature := by
  refine ⟨_, List.head_mem firstFrame_ne_nil, _, List.head_mem nextFrame_ne_nil, ?_⟩
  have hgeneration : ((oneMonitor.stored plain (tickOf {} 0)).head firstFrame_ne_nil).frame.generation
      = some ⟨.recall, 1⟩ := by decide +kernel
  have hmonitor : (((oneMonitor.step plain (tickOf {} 0)).stored plain
      (tickOf { hotIntervalMs := 1000 } 255)).head nextFrame_ne_nil).frame.monitor
      = ((oneMonitor.stored plain (tickOf {} 0)).head firstFrame_ne_nil).frame.monitor := by decide +kernel
  have hgranted : ∀ tick ∈ [] ++ [tickOf { hotIntervalMs := 1000 } 255],
      Granted ⟨.recall, 1⟩ ((oneMonitor.stored plain (tickOf {} 0)).head
        firstFrame_ne_nil).frame.contextGenerations.windowGeneration
        ((oneMonitor.stored plain (tickOf {} 0)).head firstFrame_ne_nil).frame.monitor tick := by
    intro tick htick
    rw [List.nil_append, List.mem_singleton] at htick
    subst htick
    exact ⟨by decide +kernel, by decide +kernel⟩
  have hdiffers := next_frame_differs 1 {} (some granted) [] hgeneration hmonitor
    (List.head_mem firstFrame_ne_nil)
    (fun before tick after heq =>
      absurd heq.symm (List.append_ne_nil_of_right_ne_nil _ (List.cons_ne_nil _ _)))
    hgranted (List.head_mem nextFrame_ne_nil)
  exact hdiffers.resolve_left (by decide)

end

/-!
The loop never falls silent.
-/

section

variable {l : Loop} {g : Generation}

def outputs (imaging : Imaging Image Jpeg Word) (l : Loop) : List (Tick Image) → List (Stored Jpeg Word)
  | [] => []
  | t :: ticks => l.stored imaging t ++ outputs imaging (l.step imaging t) ticks

-- The monitor can be captured under the grant, and the frame is taken.
structure Healthy (imaging : Imaging Image Jpeg Word) (cfg : HistorySettings) (g : Generation)
    (shot : Shot Image) : Prop where
  captureStore : g.validFresh shot.captureStore = true
  image : ∃ rgba capturedAt elapsedMs jpeg, shot.capture = .ok (rgba, capturedAt, elapsedMs)
    ∧ imaging.encodeJpeg (imaging.downscale rgba cfg.maxDim) (min (max cfg.jpegQuality 1) 100) = .ok jpeg
  sendStore : g.validFresh shot.sendStore = true
  trySend : shot.trySend = .ok

/--
The loop is enabled with the gap at most `gap`, the person is active, the grant stays, and one of the monitors
can be captured.
-/
structure Served (imaging : Imaging Image Jpeg Word) (monitors : List Nat) (g : Generation) (gap : Nat)
    (t : Tick Image) : Prop where
  running : t.stop = false
  enabled : t.cfg.enabled = true
  active : t.active = true
  gap : t.cfg.keyframeMaxGapMs ≤ gap
  grant : g.module = .recall
  cached : g.matches t.cached = true
  store : g.validFresh t.store = true
  healthy : ∃ monitor ∈ monitors, Healthy imaging t.cfg g (t.shots monitor)
  consumed : ∀ monitor ∈ monitors, (t.shots monitor).trySend ≠ .closed

theorem Healthy.captured {cfg : HistorySettings} {shot : Shot Image} (h : Healthy imaging cfg g shot)
    (monitor : Nat) (slot : Slot)
    : ∃ slot' entry, captureMonitor imaging cfg (some g) true monitor slot shot = (slot', .stored entry) := by
  rcases h.image with ⟨rgba, capturedAt, elapsedMs, jpeg, hcapture, hjpeg⟩
  unfold captureMonitor
  dsimp only
  rw [Option.any_some, Option.any_some, h.captureStore, h.sendStore, hcapture, h.trySend]
  dsimp only
  rw [hjpeg]
  exact ⟨_, _, rfl⟩

theorem captureAll_healthy {cfg : HistorySettings} {shots : Nat → Shot Image} {monitors : List Nat}
    {slots : Nat → Slot} (hopen : ∀ monitor ∈ monitors, (shots monitor).trySend ≠ .closed)
    (hhealthy : ∃ monitor ∈ monitors, Healthy imaging cfg g (shots monitor))
    : (captureAll imaging cfg (some g) true shots monitors slots).2.1 ≠ [] := by
  induction monitors generalizing slots with
  | nil =>
    rcases hhealthy with ⟨monitor, hmem, _⟩
    cases hmem
  | cons first monitors ih =>
    have hrest : ∀ monitor ∈ monitors, (shots monitor).trySend ≠ .closed :=
      fun monitor hmem => hopen monitor (List.mem_cons_of_mem _ hmem)
    rcases hhealthy with ⟨monitor, hmem, hmonitor⟩
    unfold captureAll
    rcases List.mem_cons.mp hmem with rfl | hmem
    . rcases hmonitor.captured monitor (slots monitor) with ⟨slot', entry, heq⟩
      rw [heq]
      exact List.cons_ne_nil _ _
    . rcases captureMonitor_cases imaging cfg (some g) true first (slots first) (shots first) with
        ⟨outcome, hdropped | ⟨_, hclosed⟩, heq⟩ | ⟨entry, heq, _⟩
      . rw [heq, hdropped]
        exact ih hrest ⟨monitor, hmem, hmonitor⟩
      . exact absurd hclosed (hopen first List.mem_cons_self)
      . rw [heq]
        exact List.cons_ne_nil _ _

theorem captureAll_open {cfg : HistorySettings} {generation : Option Generation} {force : Bool}
    {shots : Nat → Shot Image} {monitors : List Nat} {slots : Nat → Slot}
    (hopen : ∀ monitor ∈ monitors, (shots monitor).trySend ≠ .closed)
    : (captureAll imaging cfg generation force shots monitors slots).2.2 = false := by
  induction monitors generalizing slots with
  | nil => rfl
  | cons first monitors ih =>
    have hrest : ∀ monitor ∈ monitors, (shots monitor).trySend ≠ .closed :=
      fun monitor hmem => hopen monitor (List.mem_cons_of_mem _ hmem)
    unfold captureAll
    rcases captureMonitor_cases imaging cfg generation force first (slots first) (shots first) with
      ⟨outcome, hdropped | ⟨_, hclosed⟩, heq⟩ | ⟨entry, heq, _⟩
    . rw [heq, hdropped]
      exact ih hrest
    . exact absurd hclosed (hopen first List.mem_cons_self)
    . rw [heq]
      exact ih hrest

theorem refresh_served {t : Tick Image} (hl : Sound l) (hrecall : g.module = .recall)
    (hcached : g.matches t.cached = true) (hstore : g.validFresh t.store = true)
    : (l.refresh t).generation = some g := by
  have hcapture : t.store.bind (fun s => Generation.fromState s .recall) = some g := by
    unfold Generation.validFresh at hstore
    rw [Option.any_eq_true] at hstore
    rcases hstore with ⟨s, hs, hmatches⟩
    rw [hs, Option.bind_some, ← hrecall]
    exact eq_of_beq hmatches
  unfold Loop.refresh
  cases hgeneration : l.generation with
  | none =>
    rw [Option.any_none]
    dsimp only
    rw [if_neg Bool.false_ne_true, hgeneration, Option.isNone_none, if_pos rfl]
    exact hcapture
  | some g' =>
    rw [Option.any_some]
    dsimp only
    by_cases hmatches : g'.matches t.cached = true
    . rw [hmatches, Bool.not_true, if_neg Bool.false_ne_true, hgeneration, Option.isNone_some,
        if_neg Bool.false_ne_true]
      have hsame : some g' = some g := by
        rw [← eq_of_beq hmatches, ← eq_of_beq hcached, hrecall, hl.grant g' hgeneration]
      exact hgeneration.trans hsame
    . rw [Bool.not_eq_true] at hmatches
      rw [hmatches, Bool.not_false, if_pos rfl]
      unfold Loop.forget
      dsimp only
      rw [Option.isNone_none, if_pos rfl]
      exact hcapture

theorem outputs_ne_nil (imaging : Imaging Image Jpeg Word) {gap : Nat} (hgap : gap < 2 ^ 64)
    {ticks : List (Tick Image)} (hl : Sound l) (hrunning : l.running = true) (hticks : ticks ≠ [])
    (hserved : ∀ t ∈ ticks, Served imaging l.targets g gap t)
    (hlong : gap ≤ l.sinceStoredMs + quantumMs * ticks.length) : outputs imaging l ticks ≠ [] := by
  induction ticks generalizing l with
  | nil => exact absurd rfl hticks
  | cons t ticks ih =>
    have ht := hserved t List.mem_cons_self
    have hgeneration : (l.awake t).generation = some g := refresh_served hl ht.grant ht.cached ht.store
    have hsince := awake_sinceStoredMs l t
    have hsound := (round_spec imaging l t).sound hl
    have htargets := (round_spec imaging l t).targets
    have hround := round_spec imaging l t
    unfold outputs
    intro hnone
    rw [List.append_eq_nil_iff] at hnone
    rw [hnone.1] at hround
    -- The round did not force a frame, so time passed and the rest of the run is due.
    have hpassed : (l.awake t).sinceStoredMs < t.cfg.keyframeMaxGapMs
        ∧ (l.step imaging t).sinceStoredMs = (l.awake t).sinceStoredMs
        ∧ (l.step imaging t).running = true := by
      generalize l.step imaging t = l' at hround
      cases hround with
      | ended hended =>
        rw [hrunning] at hended
        cases hended
      | stopped _ hstop =>
        rw [ht.running] at hstop
        cases hstop
      | paused _ _ hpaused =>
        rw [ht.enabled, hgeneration, ht.active] at hpaused
        simp at hpaused
      | waiting _ _ hearly => exact ⟨hearly, rfl, (refresh_running l t).trans hrunning⟩
      | captured _ _ _ _ _ slots _ closed hall =>
        have hopen : closed = false := by
          have hfalse := @captureAll_open _ _ _ imaging t.cfg (l.awake t).generation
            (t.cfg.keyframeMaxGapMs ≤ (l.awake t).sinceStoredMs) t.shots (l.awake t).targets
            (l.awake t).slots (by rw [awake_targets]; exact ht.consumed)
          rwa [hall] at hfalse
        subst hopen
        refine ⟨?_, rfl, (refresh_running l t).trans hrunning⟩
        by_contra hforce
        rw [Nat.not_lt] at hforce
        rw [hgeneration, decide_eq_true hforce] at hall
        have hhealthy := @captureAll_healthy _ _ _ imaging g t.cfg t.shots (l.awake t).targets
          (l.awake t).slots (by rw [awake_targets]; exact ht.consumed)
          (by rw [awake_targets]; exact ht.healthy)
        rw [hall] at hhealthy
        exact hhealthy rfl
    rcases hpassed with ⟨hearly, hstep, hrun⟩
    have hbound := ht.gap
    have hadd : (l.awake t).sinceStoredMs = l.sinceStoredMs + quantumMs := by
      rw [hsince] at hearly ⊢
      unfold saturatingAdd at hearly ⊢
      omega
    rw [List.length_cons, Nat.mul_succ] at hlong
    have hrest : ticks ≠ [] := by
      rintro rfl
      rw [List.length_nil] at hlong
      omega
    refine ih hsound hrun hrest ?_ (by rw [hstep, hadd]; omega) hnone.2
    intro other hother
    rw [htargets]
    exact hserved other (List.mem_cons_of_mem _ hother)

/--
Whatever the loop did before, it hands on a frame within any time of the length of the gap during which it is
enabled, the person is active, the grant stays and a monitor can be captured.
-/
theorem never_silent (imaging : Imaging Image Jpeg Word) (monitors : Nat) (initial : HistorySettings)
    (store : Option State) (earlier ticks : List (Tick Image)) {gap : Nat} (hgap : gap < 2 ^ 64)
    : let l := Runs.exec (Loop.step imaging) (start monitors initial store) earlier
      l.running = true → ticks ≠ [] → (∀ t ∈ ticks, Served imaging l.targets g gap t) →
        gap ≤ quantumMs * ticks.length → outputs imaging l ticks ≠ [] := by
  intro l hrunning hticks hserved hlong
  exact outputs_ne_nil imaging hgap (sound_exec imaging (sound_start monitors initial store) earlier)
    hrunning hticks hserved (Nat.le_trans hlong (Nat.le_add_left _ _))

theorem never_silent_once : outputs plain oneMonitor [tickOf { keyframeMaxGapMs := 1000 } 0] ≠ [] := by
  have hserved : ∀ t ∈ [tickOf { keyframeMaxGapMs := 1000 } 0],
      Served plain oneMonitor.targets ⟨.recall, 1⟩ 1000 t := by
    intro t ht
    rw [List.mem_singleton] at ht
    subst ht
    constructor
    . rfl
    . rfl
    . rfl
    . exact Nat.le_refl _
    . rfl
    . decide +kernel
    . decide +kernel
    . exact ⟨0, by decide +kernel, by decide +kernel, ⟨0, 0, 5, 0, rfl, rfl⟩, by decide +kernel, rfl⟩
    . intro monitor _ hclosed
      cases hclosed
  exact never_silent plain 1 {} (some granted) [] [tickOf { keyframeMaxGapMs := 1000 } 0] (by decide) rfl
    (List.cons_ne_nil _ _) hserved (by decide)

end

end HistoryCapture

end Vantyr
