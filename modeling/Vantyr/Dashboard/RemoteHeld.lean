import Vantyr.Dashboard.RemoteInput

/-!
This module contains what the device is left with by the input of the live screen: what a message presses
and lifts, the invariant of every run of the hook, and that nothing stays pressed once the held input is
released.
-/

namespace Vantyr

namespace RemoteInput

-- What can be held down on the device.
inductive Pressable where
  | key (name : String)
  | button (button : Button)
  deriving DecidableEq, Repr

namespace Command

def presses : Command → Option Pressable
  | .keyDown key => some (.key key)
  | .mouseDown _ button => some (.button button)
  | _ => none

def lifts : Command → Option Pressable
  | .keyUp key => some (.key key)
  | .mouseUp _ button => some (.button button)
  | _ => none

theorem presses_of_lifts {cmd : Command} {x : Pressable} (h : cmd.lifts = some x) : cmd.presses = none := by
  cases cmd <;> simp_all [lifts, presses]

theorem presses_of_isRelease {cmd : Command} (h : cmd.isRelease) : cmd.presses = none := by
  cases cmd <;> simp_all [isRelease, presses]

end Command

/--
The context of the message that pressed `x` and was not followed by one that lifts it.
-/
def pressedBy (x : Pressable) (sent : List Message) : Option InputContext :=
  sent.foldl
    (fun held m =>
      if m.cmd.presses = some x then some m.context else if m.cmd.lifts = some x then none else held)
    none

theorem pressedBy_concat (x : Pressable) (sent : List Message) (m : Message) :
    pressedBy x (sent ++ [m])
      = if m.cmd.presses = some x then some m.context
        else if m.cmd.lifts = some x then none else pressedBy x sent := by
  simp [pressedBy]

theorem pressedBy_lifted {x : Pressable} {m : Message} (sent : List Message) (h : m.cmd.lifts = some x) :
    pressedBy x (sent ++ [m]) = none := by
  rw [pressedBy_concat, Command.presses_of_lifts h]
  simp [h]

theorem pressedBy_untouched {x : Pressable} {between : List Message} (sent : List Message)
    (h : ∀ m ∈ between, m.cmd.presses ≠ some x ∧ m.cmd.lifts ≠ some x) :
    pressedBy x (sent ++ between) = pressedBy x sent := by
  induction between generalizing sent with
  | nil => rw [List.append_nil]
  | cons m between ih =>
    obtain ⟨⟨hp, hl⟩, hrest⟩ := List.forall_mem_cons.mp h
    rw [List.append_cons, ih _ hrest, pressedBy_concat, if_neg hp, if_neg hl]

theorem of_pressedBy_concat {x : Pressable} {sent : List Message} {m : Message} {c : InputContext}
    (h : pressedBy x (sent ++ [m]) = some c) :
    m.cmd.presses = some x ∧ m.context = c ∨ pressedBy x sent = some c := by
  rw [pressedBy_concat] at h
  split at h
  . next hp => exact .inl ⟨hp, by simpa using h⟩
  . split at h
    . simp at h
    . exact .inr h

/--
Whatever is lifted is lifted in the name of the agent, under the lease and with the stamp of its press.
-/
def Matched (sent : List Message) : Prop :=
  ∀ before m after x c,
    sent = before ++ m :: after → m.cmd.lifts = some x → pressedBy x before = some c → m.context = c

namespace Matched

theorem concat {sent : List Message} {m : Message} (h : Matched sent)
    (hm : ∀ x c, m.cmd.lifts = some x → pressedBy x sent = some c → m.context = c) :
    Matched (sent ++ [m]) := by
  intro before m' after x c heq hl hp
  rcases List.eq_nil_or_concat after with rfl | ⟨front, last, rfl⟩
  . obtain ⟨rfl, hlast⟩ := List.append_inj' heq rfl
    simp only [List.cons.injEq, and_true] at hlast
    subst hlast
    exact hm x c hl hp
  . have hsplit : sent ++ [m] = (before ++ m' :: front) ++ [last] := by simpa using heq
    obtain ⟨hfront, -⟩ := List.append_inj' hsplit rfl
    exact h before m' front x c hfront hl hp

end Matched

namespace RemoteHeldInput

def Holds (h : RemoteHeldInput) : Pressable → Prop
  | .key name => name ∈ h.keys
  | .button button => button ∈ h.buttons.map Prod.fst

theorem mem_setButton (button : Button) (point : Point) (buttons : List (Button × Point)) (b : Button) :
    b ∈ (setButton button point buttons).map Prod.fst ↔ b = button ∨ b ∈ buttons.map Prod.fst := by
  induction buttons with
  | nil => simp [setButton]
  | cons held rest ih =>
    rw [setButton]
    split
    . next h => subst h; simp
    . rw [List.map_cons, List.mem_cons, ih, List.map_cons, List.mem_cons]
      tauto

theorem holds_buttonDown {h : RemoteHeldInput} {x : Pressable} (button : Button) (point : Point)
    (hx : x = .button button ∨ h.Holds x) : (h.buttonDown button point).Holds x := by
  cases x with
  | key name => simpa [Holds, buttonDown] using hx
  | button b => simpa [Holds, buttonDown, mem_setButton] using hx

theorem holds_buttonUp {h : RemoteHeldInput} {x : Pressable} {button : Button} (hne : x ≠ .button button)
    (hx : h.Holds x) : (h.buttonUp button).2.Holds x := by
  cases x with
  | key name => exact hx
  | button b =>
    simp only [ne_eq, Pressable.button.injEq] at hne
    simp only [Holds, buttonUp, List.mem_map, List.mem_filter] at hx ⊢
    obtain ⟨held, hmem, rfl⟩ := hx
    exact ⟨held, ⟨hmem, by simpa using hne⟩, rfl⟩

theorem holds_move {h : RemoteHeldInput} {x : Pressable} (point : Point) (hx : h.Holds x) :
    (h.move point).Holds x := by
  cases x with
  | key name => exact hx
  | button b => simpa [Holds, move, Function.comp_def] using hx

theorem holds_keyDown {h : RemoteHeldInput} {x : Pressable} (key : String)
    (hx : x = .key key ∨ h.Holds x) : (h.keyDown key).2.Holds x := by
  rw [keyDown]
  split
  . next hmem =>
    rcases hx with rfl | hx
    . exact hmem
    . exact hx
  . cases x with
    | key name =>
      rcases hx with h | h
      . simp_all [Holds]
      . exact List.mem_append_left _ h
    | button b => simpa [Holds] using hx

theorem holds_keyUp {h : RemoteHeldInput} {x : Pressable} {key : String} (hne : x ≠ .key key)
    (hx : h.Holds x) : (h.keyUp key).2.Holds x := by
  cases x with
  | key name =>
    simp only [ne_eq, Pressable.key.injEq] at hne
    exact List.mem_filter.mpr ⟨hx, by simpa using hne⟩
  | button b => exact hx

theorem releaseButtons_isRelease {h : RemoteHeldInput} {cmd : Command} (hm : cmd ∈ h.releaseButtons.1) :
    cmd.isRelease := by
  simp only [releaseButtons, List.mem_map] at hm
  obtain ⟨held, -, rfl⟩ := hm
  rfl

theorem releaseButtons_lifts {h : RemoteHeldInput} {b : Button} (hb : h.Holds (.button b)) :
    ∃ cmd ∈ h.releaseButtons.1, cmd.lifts = some (.button b) := by
  simp only [Holds, List.mem_map] at hb
  obtain ⟨held, hmem, rfl⟩ := hb
  exact ⟨.mouseUp held.2 held.1, List.mem_map.mpr ⟨held, hmem, rfl⟩, rfl⟩

theorem releaseAll_isRelease {h : RemoteHeldInput} {cmd : Command} (hm : cmd ∈ h.releaseAll.1) :
    cmd.isRelease := by
  simp only [releaseAll, List.mem_append, List.mem_map] at hm
  rcases hm with ⟨key, -, rfl⟩ | hm
  . rfl
  . exact releaseButtons_isRelease hm

theorem releaseAll_lifts {h : RemoteHeldInput} {x : Pressable} (hx : h.Holds x) :
    ∃ cmd ∈ h.releaseAll.1, cmd.lifts = some x := by
  cases x with
  | key name =>
    exact ⟨.keyUp name, List.mem_append_left _ (List.mem_map.mpr ⟨name, hx, rfl⟩), rfl⟩
  | button b =>
    obtain ⟨cmd, hmem, hl⟩ := releaseButtons_lifts hx
    exact ⟨cmd, List.mem_append_right _ hmem, hl⟩

end RemoteHeldInput

namespace Hook

-- What a command that is sent now carries.
def scope (h : Hook) : Option InputContext :=
  h.inputStamp.map fun stamp => ⟨h.props.agentId, h.props.leaseToken, stamp⟩

structure Traced (h : Hook) : Prop where
  current : ∀ x c, pressedBy x h.sent = some c → h.inputContext = some c
  matched : Matched h.sent

def Backed (h : Hook) : Prop :=
  ∀ x c, pressedBy x h.sent = some c → h.heldInput.Holds x

/--
The messages agree with the context, and that context is still the one a command would be sent in.
-/
structure Scoped (h : Hook) : Prop where
  traced : h.Traced
  context : ∀ c, h.inputContext = some c → h.scope = some c
  off : h.props.inputEnabled = false → h.inputEnabled = false ∧ h.inputContext = none
  presented : h.lastPresentedIdentity = h.geometry.map identity

/--
The invariant: besides, whatever is pressed on the device is in the held input.
-/
structure Kept (h : Hook) : Prop where
  inScope : h.Scoped
  backed : h.Backed

theorem kept_mount (props : Props) : (mount props).Kept := by
  refine ⟨⟨⟨?_, ?_⟩, ?_, ?_, rfl⟩, ?_⟩
  . intro x c h
    simp [mount, pressedBy] at h
  . intro before m after x c h
    simp [mount] at h
  . intro c h
    simp [mount] at h
  . intro h
    exact ⟨h, rfl⟩
  . intro x c h
    simp [mount, pressedBy] at h

/-- The invariant does not depend on the view or on the gesture. -/
theorem Scoped.frame {h : Hook} (hs : h.Scoped) (rafMove : Bool) (pendingMove : Option Point)
    (heldInput : RemoteHeldInput) (touchMode : TouchMode) (touchAction : TouchAction)
    (gesture : Option Gesture) :
    Scoped { h with rafMove := rafMove, pendingMove := pendingMove, heldInput := heldInput,
                    touchMode := touchMode, touchAction := touchAction, gesture := gesture } :=
  ⟨⟨hs.traced.current, hs.traced.matched⟩, hs.context, hs.off, hs.presented⟩

theorem Kept.frame {h : Hook} (hk : h.Kept) (rafMove : Bool) (pendingMove : Option Point)
    (touchMode : TouchMode) (touchAction : TouchAction) (gesture : Option Gesture) :
    Kept { h with rafMove := rafMove, pendingMove := pendingMove,
                  touchMode := touchMode, touchAction := touchAction, gesture := gesture } :=
  ⟨hk.inScope.frame rafMove pendingMove h.heldInput touchMode touchAction gesture, hk.backed⟩

theorem Kept.move {h : Hook} (hk : h.Kept) (point : Point) :
    Kept { h with heldInput := h.heldInput.move point } :=
  ⟨hk.inScope.frame _ _ _ _ _ _, fun x c hx => RemoteHeldInput.holds_move point (hk.backed x c hx)⟩

/-!
One command.
-/

section ctrl

variable {h : Hook} {cmd : Command} {release : Bool} {x : Pressable}

/--
A command is either dropped, for one of two reasons, or sent in a context that is remembered.
-/
theorem ctrl_cases (h : Hook) (cmd : Command) (release : Bool) :
    (h.ctrl cmd release = h
      ∧ ((release && cmd.isRelease) = true ∧ h.inputContext = none
        ∨ (release && cmd.isRelease) = false ∧ (h.inputEnabled = false ∨ h.scope = none)))
    ∨ ∃ c, h.ctrl cmd release = { h with inputContext := some c, sent := h.sent ++ [⟨c, cmd⟩] }
      ∧ ((release && cmd.isRelease) = true ∧ h.inputContext = some c
        ∨ (release && cmd.isRelease) = false ∧ h.inputEnabled = true ∧ h.scope = some c) := by
  rw [ctrl]
  split
  . next hr =>
    cases hc : h.inputContext with
    | none => exact .inl ⟨rfl, .inl ⟨hr, rfl⟩⟩
    | some c => exact .inr ⟨c, by simp only [send, ← hc], .inl ⟨hr, rfl⟩⟩
  . next hr =>
    have hr' : (release && cmd.isRelease) = false := by simpa using hr
    split
    . next he => exact .inl ⟨rfl, .inr ⟨hr', .inl (by simpa using he)⟩⟩
    . next he =>
      cases hs : h.inputStamp with
      | none => exact .inl ⟨rfl, .inr ⟨hr', .inr (by simp [scope, hs])⟩⟩
      | some stamp => exact .inr ⟨_, rfl, .inr ⟨hr', by simpa using he, by simp [scope, hs]⟩⟩

theorem Traced.send {c : InputContext} (ht : h.Traced) (hc : ∀ c', h.inputContext = some c' → c' = c) :
    Traced { h with inputContext := some c, sent := h.sent ++ [⟨c, cmd⟩] } := by
  constructor
  . intro x c' hx
    rcases of_pressedBy_concat hx with ⟨-, heq⟩ | hx
    . exact congrArg some heq
    . exact congrArg some (hc c' (ht.current x c' hx)).symm
  . refine ht.matched.concat fun x c' _ hx => ?_
    exact (hc c' (ht.current x c' hx)).symm

theorem Scoped.ctrl (hs : h.Scoped) : (h.ctrl cmd release).Scoped := by
  rcases ctrl_cases h cmd release with ⟨heq, -⟩ | ⟨c, heq, hc⟩
  . rwa [heq]
  . rw [heq]
    have hscope : h.scope = some c := by
      rcases hc with ⟨-, hc⟩ | ⟨-, -, hc⟩
      . exact hs.context c hc
      . exact hc
    refine ⟨hs.traced.send ?_, ?_, ?_, hs.presented⟩
    . intro c' hc'
      exact Option.some.inj ((hs.context c' hc').symm.trans hscope)
    . intro c' hc'
      obtain rfl := Option.some.inj hc'
      exact hscope
    . intro hoff
      obtain ⟨hdisabled, hnone⟩ := hs.off hoff
      rcases hc with ⟨-, hc⟩ | ⟨-, hc, -⟩
      . exact absurd (hnone.symm.trans hc) nofun
      . exact absurd (hdisabled.symm.trans hc) nofun

@[simp]
theorem ctrl_heldInput : (h.ctrl cmd release).heldInput = h.heldInput := by
  rcases ctrl_cases h cmd release with ⟨heq, -⟩ | ⟨c, heq, -⟩ <;> rw [heq]

@[simp]
theorem ctrl_inputEnabled : (h.ctrl cmd release).inputEnabled = h.inputEnabled := by
  rcases ctrl_cases h cmd release with ⟨heq, -⟩ | ⟨c, heq, -⟩ <;> rw [heq]

theorem of_pressedBy_ctrl {c : InputContext} (hx : pressedBy x (h.ctrl cmd release).sent = some c) :
    cmd.presses = some x ∨ pressedBy x h.sent = some c := by
  rcases ctrl_cases h cmd release with ⟨heq, -⟩ | ⟨c', heq, -⟩
  . rw [heq] at hx
    exact .inr hx
  . rw [heq] at hx
    exact (of_pressedBy_concat hx).imp_left And.left

/-- What is lifted while input is enabled, or with the release of what is held, is not pressed after. -/
theorem pressedBy_ctrl_lifts (hs : h.Scoped) (hl : cmd.lifts = some x)
    (hsent : release = true ∨ h.inputEnabled = true) : pressedBy x (h.ctrl cmd release).sent = none := by
  have hr : cmd.isRelease := by cases cmd <;> simp_all [Command.lifts, Command.isRelease]
  rcases ctrl_cases h cmd release with ⟨heq, hdropped⟩ | ⟨c, heq, -⟩
  . rw [heq]
    cases hx : pressedBy x h.sent with
    | none => rfl
    | some c =>
      have hc := hs.traced.current x c hx
      have hscope := hs.context c hc
      simp_all
  . rw [heq]
    exact pressedBy_lifted h.sent hl

theorem Kept.ctrl (hk : h.Kept) (hp : cmd.presses = none) : (h.ctrl cmd release).Kept := by
  refine ⟨hk.inScope.ctrl, ?_⟩
  intro x c hx
  rw [ctrl_heldInput]
  rcases of_pressedBy_ctrl hx with h | h
  . simp [hp] at h
  . exact hk.backed x c h

end ctrl

/-!
The releases.
-/

theorem releases {cmds : List Command} (hr : ∀ cmd ∈ cmds, cmd.isRelease = true) (h : Hook)
    (ht : h.Traced) :
    (cmds.foldl (fun h cmd => h.ctrl cmd true) h).Traced
      ∧ (∃ sent, cmds.foldl (fun h cmd => h.ctrl cmd true) h = { h with sent := sent })
      ∧ ∀ x c, pressedBy x (cmds.foldl (fun h cmd => h.ctrl cmd true) h).sent = some c →
        pressedBy x h.sent = some c ∧ ∀ cmd ∈ cmds, cmd.lifts ≠ some x := by
  induction cmds generalizing h with
  | nil => exact ⟨ht, ⟨h.sent, rfl⟩, fun x c hx => ⟨hx, by simp⟩⟩
  | cons cmd cmds ih =>
    have hcmd := hr cmd (List.mem_cons_self ..)
    have hrest := fun c hc => hr c (List.mem_cons_of_mem cmd hc)
    rw [List.foldl_cons]
    rcases ctrl_cases h cmd true with ⟨heq, hnone⟩ | ⟨c, heq, hc⟩
    . rw [heq]
      obtain ⟨ht', hframe, hpressed⟩ := ih hrest h ht
      refine ⟨ht', hframe, fun x c hx => ?_⟩
      obtain ⟨hx, -⟩ := hpressed x c hx
      have hctx := ht.current x c hx
      simp [hcmd, hctx] at hnone
    . have hctx : h.inputContext = some c := by simpa [hcmd] using hc
      have hsend : h.ctrl cmd true = { h with sent := h.sent ++ [⟨c, cmd⟩] } := by rw [heq, ← hctx]
      have ht' : (h.ctrl cmd true).Traced := by
        rw [heq]
        exact ht.send fun c' hc' => Option.some.inj (hc'.symm.trans hctx)
      obtain ⟨htraced, ⟨sent, hframe⟩, hpressed⟩ := ih hrest _ ht'
      refine ⟨htraced, ⟨sent, by rw [hframe, hsend]⟩, fun x c' hx => ?_⟩
      obtain ⟨hx, hlifts⟩ := hpressed x c' hx
      rw [hsend] at hx
      rcases of_pressedBy_concat hx with ⟨hp, -⟩ | hold
      . simp [Command.presses_of_isRelease hcmd] at hp
      . refine ⟨hold, List.forall_mem_cons.mpr ⟨fun hl => ?_, hlifts⟩⟩
        simp [pressedBy_lifted (m := ⟨c, cmd⟩) h.sent hl] at hx

/--
Nothing is pressed after the held input is released, and nothing else about the hook is known to change.
-/
theorem releaseHeldInput_spec {h : Hook} (ht : h.Traced) (hb : h.Backed) :
    (∀ x, pressedBy x h.releaseHeldInput.sent = none)
      ∧ Matched h.releaseHeldInput.sent
      ∧ ∃ sent, h.releaseHeldInput =
        { h with gesture := none, rafMove := false, pendingMove := none, heldInput := .empty,
                 inputContext := none, sent := sent } := by
  obtain ⟨htraced, ⟨sent, hframe⟩, hpressed⟩ :=
    releases (fun _ => RemoteHeldInput.releaseAll_isRelease)
      { h with gesture := none, rafMove := false, pendingMove := none,
               heldInput := h.heldInput.releaseAll.2 } ⟨ht.current, ht.matched⟩
  refine ⟨fun x => ?_, htraced.matched, sent, ?_⟩
  . cases hx : pressedBy x h.releaseHeldInput.sent with
    | none => rfl
    | some c =>
      obtain ⟨hold, hlifts⟩ := hpressed x c hx
      obtain ⟨cmd, hmem, hl⟩ := RemoteHeldInput.releaseAll_lifts (hb x c hold)
      exact absurd hl (hlifts cmd hmem)
  . exact congrArg (fun h : Hook => { h with inputContext := none }) hframe

theorem Kept.releaseHeldInput {h : Hook} (hk : h.Kept) : h.releaseHeldInput.Kept := by
  obtain ⟨hnone, hmatched, sent, heq⟩ := releaseHeldInput_spec hk.inScope.traced hk.backed
  rw [heq] at hnone hmatched ⊢
  refine ⟨⟨⟨?_, hmatched⟩, nofun, ?_, hk.inScope.presented⟩, ?_⟩
  . intro x c hx
    exact absurd ((hnone x).symm.trans hx) nofun
  . intro hoff
    exact ⟨(hk.inScope.off hoff).1, rfl⟩
  . intro x c hx
    exact absurd ((hnone x).symm.trans hx) nofun

theorem Kept.releasePointer {h : Hook} (hk : h.Kept) : h.releasePointer.Kept := by
  have hs := hk.inScope
  obtain ⟨htraced, ⟨sent, hframe⟩, hpressed⟩ :=
    releases (fun _ => RemoteHeldInput.releaseButtons_isRelease)
      { h with gesture := none, rafMove := false, pendingMove := none,
               heldInput := h.heldInput.releaseButtons.2 } ⟨hs.traced.current, hs.traced.matched⟩
  have heq : h.releasePointer =
      { h with gesture := none, rafMove := false, pendingMove := none,
               heldInput := h.heldInput.releaseButtons.2, sent := sent } := hframe
  rw [hframe] at htraced hpressed
  rw [heq]
  refine ⟨⟨⟨htraced.current, htraced.matched⟩, hs.context, hs.off, hs.presented⟩, ?_⟩
  intro x c hx
  obtain ⟨hold, hlifts⟩ := hpressed x c hx
  have hheld := hk.backed x c hold
  cases x with
  | key name => exact hheld
  | button b =>
    obtain ⟨cmd, hmem, hl⟩ := RemoteHeldInput.releaseButtons_lifts hheld
    exact absurd hl (hlifts cmd hmem)

/-!
The frame on display.
-/

theorem append_colon_inj {a b c d : List Char} (hc : ':' ∉ c) (hd : ':' ∉ d)
    (h : a ++ ':' :: c = b ++ ':' :: d) : a = b ∧ c = d := by
  induction a generalizing b with
  | nil =>
    cases b with
    | nil => simpa using h
    | cons x b =>
      simp only [List.nil_append, List.cons_append, List.cons.injEq] at h
      exact absurd (h.2 ▸ List.mem_append_right b (List.mem_cons_self ..)) hc
  | cons y a ih =>
    cases b with
    | nil =>
      simp only [List.nil_append, List.cons_append, List.cons.injEq] at h
      exact absurd (h.2 ▸ List.mem_append_right a (List.mem_cons_self ..)) hd
    | cons x b =>
      simp only [List.cons_append, List.cons.injEq] at h
      obtain ⟨rfl, rfl⟩ := ih h.2
      exact ⟨by rw [h.1], rfl⟩

theorem toList_toString (n : Nat) : (toString n).toList = Nat.toDigits 10 n :=
  Nat.toList_repr

theorem colon_not_mem_toString (n : Nat) : ':' ∉ (toString n).toList := by
  rw [toList_toString]
  intro h
  exact absurd (Nat.isDigit_of_mem_toDigits (by decide) (by decide) h) (by decide)

theorem toString_toList_inj {n m : Nat} (h : (toString n).toList = (toString m).toList) : n = m := by
  rw [toList_toString, toList_toString] at h
  calc n = Nat.ofDigitChars 10 (Nat.toDigits 10 n) 0 :=
        (Nat.ofDigitChars_toDigits (by decide) (by decide)).symm
    _ = Nat.ofDigitChars 10 (Nat.toDigits 10 m) 0 := by rw [h]
    _ = m := Nat.ofDigitChars_toDigits (by decide) (by decide)

/-- Frames of one identity have one stamp. -/
theorem stampOf_eq_of_identity {g g' : Option CaptureGeometry} {s s' : CaptureStamp}
    (hs : stampOf g = some s) (hs' : stampOf g' = some s') (hid : g.map identity = g'.map identity) :
    s = s' := by
  cases g with
  | none => simp [stampOf] at hs
  | some g =>
    cases g' with
    | none => simp [stampOf] at hs'
    | some g' =>
      simp only [stampOf, Option.ite_none_right_eq_some, Option.some.injEq] at hs hs'
      obtain ⟨-, rfl⟩ := hs
      obtain ⟨-, rfl⟩ := hs'
      have htext : g.captureId.toList ++ ':' :: (toString g.geometryRevision).toList
          = g'.captureId.toList ++ ':' :: (toString g'.geometryRevision).toList := by
        simpa [identity] using congrArg String.toList (Option.some.inj hid)
      obtain ⟨hcapture, hrevision⟩ :=
        append_colon_inj (colon_not_mem_toString _) (colon_not_mem_toString _) htext
      rw [CaptureStamp.mk.injEq]
      exact ⟨String.toList_inj.mp hcapture, toString_toList_inj hrevision⟩

theorem exists_stampOf {g : Option CaptureGeometry} (h : g.any controlGeometryAvailable = true) :
    ∃ s, stampOf g = some s := by
  cases g with
  | none => cases h
  | some g => exact ⟨_, if_pos h⟩

/--
The frame changes hands: either everything is released, or the frame has the identity of the last one
and can be controlled as well.
-/
theorem beforeDisplay_cases (h : Hook) (frame : Option DisplayedRemoteFrame) :
    let g := frame.bind DisplayedRemoteFrame.geometry
    (h.beforeDisplay frame =
        { h.releaseHeldInput with
          inputEnabled := h.releaseHeldInput.inputEnabled && g.any controlGeometryAvailable,
          lastPresentedIdentity := g.map identity })
      ∨ (g.any controlGeometryAvailable = true
        ∧ h.lastPresentedIdentity = g.map identity
        ∧ h.beforeDisplay frame = { h with lastPresentedIdentity := g.map identity }) := by
  intro g
  by_cases hsame : h.lastPresentedIdentity ≠ g.map identity ∨ frame = none ∨ !g.any controlGeometryAvailable
  . refine .inl ?_
    rw [beforeDisplay]
    simp only [g] at hsame
    simp only [if_pos hsame, g]
  . refine .inr ?_
    have hsame' := hsame
    simp only [not_or, ne_eq, not_not, Bool.not_eq_true', Bool.not_eq_false] at hsame
    obtain ⟨hid, -, havailable⟩ := hsame
    refine ⟨havailable, hid, ?_⟩
    rw [beforeDisplay]
    simp only [g] at hsame' havailable
    simp only [if_neg hsame', g]
    rw [havailable, Bool.and_true]

theorem Kept.shown {h : Hook} (hk : h.Kept) (frame : Option DisplayedRemoteFrame) :
    Kept { h.beforeDisplay frame with displayed := frame } := by
  have hs := hk.inScope
  rcases beforeDisplay_cases h frame with heq | ⟨havailable, hid, heq⟩
  . obtain ⟨hnone, hmatched, sent, hreleased⟩ := releaseHeldInput_spec hs.traced hk.backed
    rw [heq]
    rw [hreleased] at hnone hmatched ⊢
    refine ⟨⟨⟨?_, hmatched⟩, nofun, ?_, rfl⟩, ?_⟩
    . intro x c hx
      exact absurd ((hnone x).symm.trans hx) nofun
    . intro hoff
      refine ⟨?_, rfl⟩
      have := (hs.off hoff).1
      simp [this]
    . intro x c hx
      exact absurd ((hnone x).symm.trans hx) nofun
  . rw [heq]
    refine ⟨⟨⟨hs.traced.current, hs.traced.matched⟩, ?_, hs.off, rfl⟩, hk.backed⟩
    intro c hc
    have hscope := hs.context c hc
    obtain ⟨s, hstamp, rfl⟩ := Option.map_eq_some_iff.mp hscope
    obtain ⟨s', hnew⟩ := exists_stampOf havailable
    obtain rfl := stampOf_eq_of_identity hstamp hnew (hs.presented.symm.trans hid)
    simp [scope, inputStamp, geometry, hnew]

theorem Kept.clear {h : Hook} (ht : h.Traced) (hb : h.Backed) : h.clear.Kept := by
  obtain ⟨hnone, hmatched, sent, hreleased⟩ := releaseHeldInput_spec ht hb
  have heq : h.clear =
      { h.releaseHeldInput with
        inputEnabled := false, lastPresentedIdentity := none, displayed := none } := by
    simp [Hook.clear, beforeDisplay]
  rw [heq]
  rw [hreleased] at hnone hmatched ⊢
  refine ⟨⟨⟨?_, hmatched⟩, nofun, fun _ => ⟨rfl, rfl⟩, rfl⟩, ?_⟩
  . intro x c hx
    exact absurd ((hnone x).symm.trans hx) nofun
  . intro x c hx
    exact absurd ((hnone x).symm.trans hx) nofun

theorem Kept.present {h : Hook} (hk : h.Kept) (frame : DisplayedRemoteFrame) (drawn : Bool) :
    (h.present frame drawn).Kept := by
  have hshown := hk.shown (some frame)
  rw [Hook.present]
  cases drawn with
  | true => exact hshown
  | false =>
    exact Kept.clear ⟨hshown.inScope.traced.current, hshown.inScope.traced.matched⟩ hshown.backed

theorem Kept.disable {h : Hook} (hk : h.Kept) : h.disable.Kept := by
  have hs := hk.inScope
  have hoff : Kept { h with inputEnabled := false } :=
    ⟨⟨⟨hs.traced.current, hs.traced.matched⟩, hs.context, fun h => ⟨rfl, (hs.off h).2⟩, hs.presented⟩,
      hk.backed⟩
  exact hoff.releaseHeldInput

theorem Kept.renewed {h : Hook} (hk : h.Kept) (hnone : h.inputContext = none) (props : Props) :
    Kept { h with props := props, inputEnabled := props.inputEnabled } := by
  have hs := hk.inScope
  refine ⟨⟨⟨hs.traced.current, hs.traced.matched⟩, ?_, fun hoff => ⟨hoff, hnone⟩, hs.presented⟩, hk.backed⟩
  intro c hc
  exact absurd (hnone.symm.trans hc) nofun

theorem releaseHeldInput_inputContext (h : Hook) : h.releaseHeldInput.inputContext = none := rfl

theorem Kept.commit {h : Hook} (hk : h.Kept) (props : Props) : (h.commit props).Kept := by
  have hs := hk.inScope
  rw [Hook.commit]
  by_cases hsame : h.props = props
  . subst hsame
    simp only [ne_eq, not_true_eq_false, decide_false, Bool.false_and, Bool.false_eq_true, if_false]
    exact ⟨⟨⟨hs.traced.current, hs.traced.matched⟩, hs.context, fun hoff => ⟨hoff, (hs.off hoff).2⟩,
      hs.presented⟩, hk.backed⟩
  . simp only [ne_eq, hsame, not_false_eq_true, decide_true, Bool.true_and]
    -- Either the cleanup of the effect releases everything, or nothing was sent since it last did.
    have hrenewed : Kept
        { (if h.props.inputEnabled = true then h.releaseHeldInput else h) with
          props := props, inputEnabled := props.inputEnabled } := by
      split
      . exact hk.releaseHeldInput.renewed (releaseHeldInput_inputContext h) props
      . next hoff => exact hk.renewed (hs.off (by simpa using hoff)).2 props
    split
    . exact hrenewed.releaseHeldInput
    . exact hrenewed

/-!
The handlers.
-/

theorem Kept.pressButton {h : Hook} (hk : h.Kept) (button : Button) (point : Point) :
    (h.pressButton button point).Kept := by
  have hdown : Scoped { h with heldInput := h.heldInput.buttonDown button point } :=
    hk.inScope.frame _ _ _ _ _ _
  refine ⟨hdown.ctrl, fun x c hx => ?_⟩
  rw [Hook.pressButton, ctrl_heldInput]
  refine RemoteHeldInput.holds_buttonDown button point ?_
  rcases of_pressedBy_ctrl hx with hp | hold
  . exact .inl (Option.some.inj hp).symm
  . exact .inr (hk.backed x c hold)

theorem Kept.liftButton {h : Hook} (hk : h.Kept) (button : Button) (point : Point) {release : Bool}
    (hsent : release = true ∨ h.inputEnabled = true) : (h.liftButton button point release).Kept := by
  have hup : Scoped { h with heldInput := (h.heldInput.buttonUp button).2 } :=
    hk.inScope.frame _ _ _ _ _ _
  rw [Hook.liftButton]
  dsimp only
  split
  . next hheld =>
    refine ⟨hup.ctrl, fun x c hx => ?_⟩
    rw [ctrl_heldInput]
    refine RemoteHeldInput.holds_buttonUp ?_ ?_
    . rintro rfl
      exact absurd ((pressedBy_ctrl_lifts hup rfl hsent).symm.trans hx) nofun
    . rcases of_pressedBy_ctrl hx with hp | hold
      . cases hp
      . exact hk.backed x c hold
  . next hheld =>
    refine ⟨hup, fun x c hx => RemoteHeldInput.holds_buttonUp ?_ (hk.backed x c hx)⟩
    rintro rfl
    exact hheld (decide_eq_true (hk.backed _ c hx))

theorem Kept.pressKey {h : Hook} (hk : h.Kept) (key : String) : (h.pressKey key).Kept := by
  have hdown : Scoped { h with heldInput := (h.heldInput.keyDown key).2 } :=
    hk.inScope.frame _ _ _ _ _ _
  rw [Hook.pressKey]
  dsimp only
  split
  . refine ⟨hdown.ctrl, fun x c hx => ?_⟩
    rw [ctrl_heldInput]
    refine RemoteHeldInput.holds_keyDown key ?_
    rcases of_pressedBy_ctrl hx with hp | hold
    . exact .inl (Option.some.inj hp).symm
    . exact .inr (hk.backed x c hold)
  . exact ⟨hdown, fun x c hx => RemoteHeldInput.holds_keyDown key (.inr (hk.backed x c hx))⟩

theorem Kept.liftKey {h : Hook} (hk : h.Kept) (key : String) (hsent : h.inputEnabled = true) :
    (h.liftKey key).Kept := by
  have hup : Scoped { h with heldInput := (h.heldInput.keyUp key).2 } :=
    hk.inScope.frame _ _ _ _ _ _
  rw [Hook.liftKey]
  dsimp only
  split
  . next hheld =>
    refine ⟨hup.ctrl, fun x c hx => ?_⟩
    rw [ctrl_heldInput]
    refine RemoteHeldInput.holds_keyUp ?_ ?_
    . rintro rfl
      exact absurd ((pressedBy_ctrl_lifts hup rfl (.inr hsent)).symm.trans hx) nofun
    . rcases of_pressedBy_ctrl hx with hp | hold
      . cases hp
      . exact hk.backed x c hold
  . next hheld =>
    refine ⟨hup, fun x c hx => RemoteHeldInput.holds_keyUp ?_ (hk.backed x c hx)⟩
    rintro rfl
    exact hheld (decide_eq_true (hk.backed _ c hx))

theorem Kept.tapButton {h : Hook} (hk : h.Kept) (button : Button) (point : Point)
    (hsent : h.inputEnabled = true) : (h.tapButton button point).Kept := by
  have hdown : (h.ctrl (.mouseDown point button) false).Scoped := hk.inScope.ctrl
  refine ⟨hdown.ctrl, fun x c hx => ?_⟩
  have hne : x ≠ .button button := by
    rintro rfl
    exact absurd ((pressedBy_ctrl_lifts hdown rfl (.inr (by simpa using hsent))).symm.trans hx) nofun
  rw [Hook.tapButton, ctrl_heldInput, ctrl_heldInput]
  rcases of_pressedBy_ctrl hx with hp | hx
  . cases hp
  . rcases of_pressedBy_ctrl hx with hp | hold
    . exact absurd (Option.some.inj hp).symm hne
    . exact hk.backed x c hold

theorem Kept.typed {h : Hook} (hk : h.Kept) (chunks : List String) :
    (chunks.foldl (fun h chunk => h.ctrl (.typeText chunk) false) h).Kept := by
  induction chunks generalizing h with
  | nil => exact hk
  | cons chunk chunks ih => exact ih (hk.ctrl rfl)

theorem Kept.sendText {h : Hook} (hk : h.Kept) (text : String) : (h.sendText text).Kept := by
  rw [Hook.sendText]
  split
  . exact hk
  . split
    . exact hk.typed _
    . exact hk

theorem Kept.beginTouch {h : Hook} (hk : h.Kept) (e : PointerEvent) : (h.beginTouch e).Kept := by
  rw [Hook.beginTouch]
  dsimp only
  split
  . exact hk
  . split
    . exact hk
    . split
      . exact hk
      . next point _ =>
        have hbegun := hk.frame h.rafMove h.pendingMove h.touchMode h.touchAction
          (some ⟨e.pointerId, e.client, e.client, point, false, ⟨0, 0⟩, h.touchAction⟩)
        split
        . exact hbegun.pressButton .left point
        . exact hbegun

theorem Kept.scrollTouch {h : Hook} (hk : h.Kept) (state : Gesture) (delta : Point) :
    (h.scrollTouch state delta).Kept := by
  rw [Hook.scrollTouch]
  dsimp only
  split
  . exact (hk.frame _ _ _ _ _).ctrl rfl
  . exact hk.frame _ _ _ _ _

theorem Kept.moveTouch {h : Hook} (hk : h.Kept) (e : PointerEvent) : (h.moveTouch e).Kept := by
  rw [Hook.moveTouch]
  split
  . exact hk
  . next state _ =>
    split
    . exact hk
    . have hmoved := hk.frame h.rafMove h.pendingMove h.touchMode h.touchAction
        (some { state with last := e.client, moved := state.moved || farther e.client state.start })
      dsimp only
      split
      . exact hmoved
      . split
        . exact hmoved
        . split
          . exact hmoved.scrollTouch _ _
          . split
            . exact hmoved
            . split
              . exact hmoved
              . next point _ =>
                split
                . exact ((hk.move point).frame _ _ _ _ _).ctrl rfl
                . exact (hk.move point).frame _ _ _ _ _

theorem Kept.finishTouch {h : Hook} (hk : h.Kept) (e : PointerEvent) : (h.finishTouch e).Kept := by
  rw [Hook.finishTouch]
  split
  . exact hk
  . next state _ =>
    have hended := hk.frame h.rafMove h.pendingMove h.touchMode h.touchAction none
    dsimp only
    split
    . exact hended.liftButton .left state.point (.inl rfl)
    . split
      . next htap =>
        simp only [Bool.and_eq_true] at htap
        exact hended.tapButton _ state.point htap.1.1
      . exact hended

theorem Kept.endTouch {h : Hook} (hk : h.Kept) (e : PointerEvent) : (h.endTouch e).Kept := by
  rw [Hook.endTouch]
  split
  . exact hk
  . split
    . exact hk
    . refine Kept.finishTouch ?_ e
      split
      . exact hk.moveTouch e
      . exact hk

theorem Kept.flushMouseMove {h : Hook} (hk : h.Kept) : h.flushMouseMove.Kept := by
  rw [Hook.flushMouseMove]
  dsimp only
  split
  . exact hk.frame _ _ _ _ _
  . exact (hk.frame _ _ _ _ _).ctrl rfl

theorem Kept.handlePointerMove {h : Hook} (hk : h.Kept) (e : PointerEvent) :
    (h.handlePointerMove e).Kept := by
  rw [Hook.handlePointerMove]
  split
  . exact hk.moveTouch e
  . split
    . exact hk
    . split
      . exact hk
      . next point _ => exact (hk.move point).frame _ _ _ _ _

theorem Kept.handlePointerDown {h : Hook} (hk : h.Kept) (e : PointerEvent) :
    (h.handlePointerDown e).Kept := by
  rw [Hook.handlePointerDown]
  split
  . exact hk.beginTouch e
  . split
    . exact hk
    . split
      . exact hk
      . next point _ => exact hk.pressButton _ point

theorem Kept.handlePointerUp {h : Hook} (hk : h.Kept) (e : PointerEvent) : (h.handlePointerUp e).Kept := by
  rw [Hook.handlePointerUp]
  split
  . exact hk.endTouch e
  . split
    . exact hk
    . next hallowed =>
      split
      . exact hk
      . next point _ =>
        refine hk.liftButton _ point (.inr ?_)
        simp only [pointerAllowedNow] at hallowed
        grind

theorem Kept.handleKeyDown {h : Hook} (hk : h.Kept) (e : KeyEvent) : (h.handleKeyDown e).Kept := by
  rw [Hook.handleKeyDown]
  split
  . exact hk
  . split
    . exact hk
    . exact hk.pressKey _
    . exact hk.ctrl rfl
    . exact hk.ctrl rfl
    . exact hk.sendText _

theorem Kept.handleKeyUp {h : Hook} (hk : h.Kept) (key : String) : (h.handleKeyUp key).Kept := by
  rw [Hook.handleKeyUp]
  split
  . exact hk
  . next henabled =>
    split
    . exact hk.liftKey _ (by simpa using henabled)
    . exact hk

/-!
Runs.
-/

theorem Kept.step {h : Hook} (hk : h.Kept) (event : Event) : (h.step event).Kept := by
  cases event with
  | keyDown e => exact hk.handleKeyDown e
  | keyUp key => exact hk.handleKeyUp key
  | pointerDown e => exact hk.handlePointerDown e
  | pointerMove e => exact hk.handlePointerMove e
  | pointerUp e => exact hk.handlePointerUp e
  | animationFrame =>
    rw [Hook.step]
    split
    . exact hk.flushMouseMove
    . exact hk
  | wheel dx dy =>
    rw [Hook.step, handleWheel]
    split
    . exact hk.ctrl rfl
    . exact hk
  | text text => exact hk.sendText text
  | toolKey key => exact hk.ctrl rfl
  | notify title message =>
    rw [Hook.step]
    split
    . exact hk.ctrl rfl
    . exact hk
  | leave => exact hk.releaseHeldInput
  | lose => exact hk.releasePointer
  | mode mode => exact hk.releaseHeldInput.frame _ _ mode _ _
  | action action => exact hk.releaseHeldInput.frame _ _ _ action _
  | disable => exact hk.disable
  | present frame drawn => exact hk.present frame drawn
  | clear => exact Kept.clear hk.inScope.traced hk.backed
  | commit props => exact hk.commit props

theorem kept_run (props : Props) (events : List Event) : ((mount props).run events).Kept := by
  suffices h : ∀ h : Hook, h.Kept → (h.run events).Kept from h _ (kept_mount props)
  induction events with
  | nil => exact fun h hk => hk
  | cons event events ih => exact fun h hk => ih _ (hk.step event)

/--
Whatever a viewer did, once the held input is released no key and no button is pressed on the device, and
none is while input is off or while the frame on display cannot be controlled.
-/
theorem nothing_pressed (props : Props) (events : List Event) (x : Pressable) :
    let h := (mount props).run events
    pressedBy x h.releaseHeldInput.sent = none
      ∧ (h.props.inputEnabled = false ∨ h.inputStamp = none → pressedBy x h.sent = none) := by
  intro h
  have hk : h.Kept := kept_run props events
  refine ⟨(releaseHeldInput_spec hk.inScope.traced hk.backed).1 x, fun hidle => ?_⟩
  cases hx : pressedBy x h.sent with
  | none => rfl
  | some c =>
    have hc := hk.inScope.traced.current x c hx
    rcases hidle with hoff | hstamp
    . exact absurd ((hk.inScope.off hoff).2.symm.trans hc) nofun
    . have hscope := hk.inScope.context c hc
      simp [scope, hstamp] at hscope

theorem nothing_pressed_drag :
    let frame : DisplayedRemoteFrame := ⟨some ⟨"capture", 1, some 0, true⟩⟩
    let down : PointerEvent := ⟨1, false, true, 0, ⟨0, 0⟩, true, some ⟨5, 6⟩, ⟨0, 0⟩⟩
    let props : Props := ⟨1, some 2, true, some 0⟩
    let h := (mount props).run [.present frame true, .pointerDown down]
    let idle := (mount props).run [.present frame true, .pointerDown down, .clear]
    (pressedBy (.button .left) h.sent).isSome
      ∧ pressedBy (.button .left) h.releaseHeldInput.sent = none
      ∧ pressedBy (.button .left) idle.sent = none :=
  ⟨by decide, (nothing_pressed _ _ _).1, (nothing_pressed _ _ _).2 (.inr (by decide))⟩

/--
Whatever is lifted on the device is lifted in the name of the agent, under the lease and with the capture
stamp that it was pressed with.
-/
theorem lifted_as_pressed (props : Props) (events : List Event) (before between after : List Message)
    (press lift : Message) (x : Pressable)
    (hsent : ((mount props).run events).sent = before ++ press :: between ++ lift :: after)
    (hpress : press.cmd.presses = some x) (hlift : lift.cmd.lifts = some x)
    (hbetween : ∀ m ∈ between, m.cmd.presses ≠ some x ∧ m.cmd.lifts ≠ some x) :
    lift.context = press.context := by
  have hk := kept_run props events
  refine hk.inScope.traced.matched (before ++ press :: between) lift after x press.context hsent hlift ?_
  have happend : before ++ press :: between = (before ++ [press]) ++ between := by simp
  rw [happend, pressedBy_untouched _ hbetween, pressedBy_concat, if_pos hpress]

theorem lifted_as_pressed_drag :
    let frame : DisplayedRemoteFrame := ⟨some ⟨"capture", 1, some 0, true⟩⟩
    let down : PointerEvent := ⟨1, false, true, 0, ⟨0, 0⟩, true, some ⟨5, 6⟩, ⟨0, 0⟩⟩
    let context : InputContext := ⟨1, some 2, ⟨"capture", 1⟩⟩
    let press : Message := ⟨context, .mouseDown ⟨5, 6⟩ .left⟩
    let lift : Message := ⟨context, .mouseUp ⟨5, 6⟩ .left⟩
    ((mount ⟨1, some 2, true, some 0⟩).run [.present frame true, .pointerDown down, .leave]).sent
        = [] ++ press :: [] ++ lift :: []
      ∧ lift.context = press.context :=
  ⟨by decide,
    lifted_as_pressed ⟨1, some 2, true, some 0⟩
      [.present ⟨some ⟨"capture", 1, some 0, true⟩⟩ true,
        .pointerDown ⟨1, false, true, 0, ⟨0, 0⟩, true, some ⟨5, 6⟩, ⟨0, 0⟩⟩, .leave]
      [] [] [] ⟨⟨1, some 2, ⟨"capture", 1⟩⟩, .mouseDown ⟨5, 6⟩ .left⟩
      ⟨⟨1, some 2, ⟨"capture", 1⟩⟩, .mouseUp ⟨5, 6⟩ .left⟩ (.button .left)
      (by decide) (by decide) (by decide) (by decide)⟩

/-!
Typed text.
-/

theorem flatten_chunks {α : Type} (chars : List α) (size k : Nat) :
    ((List.range k).map fun i => (chars.drop (size * i)).take size).flatten = chars.take (size * k) := by
  induction k with
  | zero => simp
  | succ k ih =>
    rw [List.range_succ, List.map_append, List.flatten_append, ih, Nat.mul_succ, List.take_add]
    simp

theorem remoteTextChunks_spec {text : String} {chunks : List String}
    (h : remoteTextChunks text = some chunks) :
    (chunks.map String.toList).flatten = text.toList ∧ ∀ chunk ∈ chunks, chunk.length ≤ 512 := by
  simp only [remoteTextChunks, Option.ite_none_left_eq_some, Option.some.injEq] at h
  obtain ⟨-, rfl⟩ := h
  constructor
  . have hall : text.toList.length ≤ 512 * ((text.toList.length + 511) / 512) := by omega
    simp only [List.map_map, Function.comp_def, String.toList_ofList]
    rw [flatten_chunks, List.take_of_length_le hall]
  . intro chunk hmem
    obtain ⟨k, -, rfl⟩ := List.mem_map.mp hmem
    rw [String.length_ofList]
    exact List.length_take_le ..

theorem sent_typed (chunks : List String) {h : Hook} {c : InputContext} (he : h.inputEnabled = true)
    (hc : h.scope = some c) :
    (chunks.foldl (fun h chunk => h.ctrl (.typeText chunk) false) h).sent
      = h.sent ++ chunks.map fun chunk => ⟨c, .typeText chunk⟩ := by
  induction chunks generalizing h with
  | nil => simp
  | cons chunk chunks ih =>
    rw [List.foldl_cons]
    rcases ctrl_cases h (.typeText chunk) false with ⟨-, hdropped⟩ | ⟨c', heq, hsent⟩
    . simp [he, hc] at hdropped
    . rcases hsent with ⟨hrelease, -⟩ | ⟨-, -, hc'⟩
      . simp at hrelease
      . obtain rfl := Option.some.inj (hc'.symm.trans hc)
        have hrest := ih (h := h.ctrl (.typeText chunk) false) (by simpa using he) (by rw [heq]; exact hc)
        rw [hrest, heq, List.map_cons, List.append_assoc]
        rfl

theorem dropped_typed (chunks : List String) {h : Hook} (hc : h.scope = none) :
    chunks.foldl (fun h chunk => h.ctrl (.typeText chunk) false) h = h := by
  induction chunks with
  | nil => rfl
  | cons chunk chunks ih =>
    rw [List.foldl_cons]
    rcases ctrl_cases h (.typeText chunk) false with ⟨heq, -⟩ | ⟨c, -, hsent⟩
    . rw [heq, ih]
    . simp [hc] at hsent

/--
A text reaches the device whole, in order and in one context, in pieces of at most 512 characters, or no
part of it does.
-/
theorem sendText_spec (h : Hook) (text : String) :
    (h.sendText text = h ∧ (h.inputEnabled = false ∨ h.scope = none ∨ 8000 < text.length))
      ∨ ∃ (c : InputContext) (chunks : List String),
        h.scope = some c
        ∧ (h.sendText text).sent = h.sent ++ chunks.map (fun chunk => ⟨c, .typeText chunk⟩)
        ∧ (chunks.map String.toList).flatten = text.toList
        ∧ ∀ chunk ∈ chunks, chunk.length ≤ 512 := by
  rw [sendText]
  split
  . next he => exact .inl ⟨rfl, .inl (by simpa using he)⟩
  . next he =>
    have he : h.inputEnabled = true := by simpa using he
    split
    . next chunks hchunks =>
      cases hc : h.scope with
      | none => exact .inl ⟨dropped_typed chunks hc, .inr (.inl rfl)⟩
      | some c =>
        obtain ⟨hjoin, hsize⟩ := remoteTextChunks_spec hchunks
        exact .inr ⟨c, chunks, rfl, sent_typed chunks he hc, hjoin, hsize⟩
    . next hlong =>
      refine .inl ⟨rfl, .inr (.inr ?_)⟩
      rw [← String.length_toList]
      simpa [remoteTextChunks] using hlong

end Hook

end RemoteInput

end Vantyr
