import Vantyr.Agent.Fence
import Vantyr.Server.Sessions

/-!
This module contains the input controller of the agent, `agent/src/input/remote/mod.rs`, with the
commands it reads (`command.rs`) and the capture geometry that maps their coordinates
(`agent/src/capture/geometry.rs`).
-/

namespace Vantyr

namespace Input

inductive SpecialKey where
  | enter | backspace | tab | escape | delete | insert | space
  | home | endKey | pageUp | pageDown
  | arrowUp | arrowDown | arrowLeft | arrowRight
  | f1 | f2 | f3 | f4 | f5 | f6 | f7 | f8 | f9 | f10 | f11 | f12
  | control | alt | shift | metaKey
  | capsLock
  deriving DecidableEq, Repr

namespace SpecialKey

def all : List SpecialKey :=
  [ .enter, .backspace, .tab, .escape, .delete, .insert, .space, .home, .endKey, .pageUp, .pageDown,
    .arrowUp, .arrowDown, .arrowLeft, .arrowRight, .f1, .f2, .f3, .f4, .f5, .f6, .f7, .f8, .f9, .f10,
    .f11, .f12, .control, .alt, .shift, .metaKey, .capsLock ]

def name : SpecialKey → String
  | .enter => "enter"
  | .backspace => "backspace"
  | .tab => "tab"
  | .escape => "escape"
  | .delete => "delete"
  | .insert => "insert"
  | .space => "space"
  | .home => "home"
  | .endKey => "end"
  | .pageUp => "pageup"
  | .pageDown => "pagedown"
  | .arrowUp => "arrowup"
  | .arrowDown => "arrowdown"
  | .arrowLeft => "arrowleft"
  | .arrowRight => "arrowright"
  | .f1 => "f1"
  | .f2 => "f2"
  | .f3 => "f3"
  | .f4 => "f4"
  | .f5 => "f5"
  | .f6 => "f6"
  | .f7 => "f7"
  | .f8 => "f8"
  | .f9 => "f9"
  | .f10 => "f10"
  | .f11 => "f11"
  | .f12 => "f12"
  | .control => "control"
  | .alt => "alt"
  | .shift => "shift"
  | .metaKey => "meta"
  | .capsLock => "capslock"

def ofName (name : String) : Option SpecialKey :=
  all.find? (fun key => key.name = name)

end SpecialKey

-- The keys of the `enigo` library that a command can name.
inductive Key where
  | ret | backspace | tab | escape | delete | insert | space
  | home | endKey | pageUp | pageDown
  | upArrow | downArrow | leftArrow | rightArrow
  | f1 | f2 | f3 | f4 | f5 | f6 | f7 | f8 | f9 | f10 | f11 | f12
  | control | alt | shift | metaKey
  | capsLock
  | unicode (c : Char)
  deriving DecidableEq, Repr

def specialKeyToEnigo : SpecialKey → Key
  | .enter => .ret
  | .backspace => .backspace
  | .tab => .tab
  | .escape => .escape
  | .delete => .delete
  | .insert => .insert
  | .space => .space
  | .home => .home
  | .endKey => .endKey
  | .pageUp => .pageUp
  | .pageDown => .pageDown
  | .arrowUp => .upArrow
  | .arrowDown => .downArrow
  | .arrowLeft => .leftArrow
  | .arrowRight => .rightArrow
  | .f1 => .f1
  | .f2 => .f2
  | .f3 => .f3
  | .f4 => .f4
  | .f5 => .f5
  | .f6 => .f6
  | .f7 => .f7
  | .f8 => .f8
  | .f9 => .f9
  | .f10 => .f10
  | .f11 => .f11
  | .f12 => .f12
  | .control => .control
  | .alt => .alt
  | .shift => .shift
  | .metaKey => .metaKey
  | .capsLock => .capsLock

inductive ControlCommand where
  | mouseMove (x y : Int)
  | mouseClick (x y : Int) (button : Button)
  | mouseDoubleClick (x y : Int) (button : Button)
  | mouseDown (x y : Int) (button : Button)
  | mouseUp (x y : Int) (button : Button)
  | mouseScroll (deltaX deltaY : Int)
  | typeText (text : String)
  | keyPress (key : SpecialKey)
  | keyDown (key : SpecialKey)
  | keyUp (key : SpecialKey)
  | keyChar (character : Char)
  | notify (title message : String)
  deriving DecidableEq, Repr

namespace ControlCommand

def i32 (v : Json) (key : String) : Option Int :=
  (v.get? key).bind Json.asI32

def button (v : Json) : Option Button :=
  (v.get? "button").elim (some .left) (fun value => value.asStr.bind Button.ofName)

def key (v : Json) : Option SpecialKey :=
  ((v.get? "key").bind Json.asStr).bind SpecialKey.ofName

def char (v : Json) : Option Char :=
  match ((v.get? "char").bind Json.asStr).map String.toList with
  | some [c] => some c
  | _ => none

def ofJson (v : Json) : Option ControlCommand := do
  match v.kind with
  | "MouseMove" => return .mouseMove (← i32 v "x") (← i32 v "y")
  | "MouseClick" => return .mouseClick (← i32 v "x") (← i32 v "y") (← button v)
  | "MouseDoubleClick" => return .mouseDoubleClick (← i32 v "x") (← i32 v "y") (← button v)
  | "MouseDown" => return .mouseDown (← i32 v "x") (← i32 v "y") (← button v)
  | "MouseUp" => return .mouseUp (← i32 v "x") (← i32 v "y") (← button v)
  | "MouseScroll" => return .mouseScroll (← i32 v "delta_x") (← i32 v "delta_y")
  | "TypeText" => return .typeText (← (v.get? "text").bind Json.asStr)
  | "KeyPress" => return .keyPress (← key v)
  | "KeyDown" => return .keyDown (← key v)
  | "KeyUp" => return .keyUp (← key v)
  | "KeyChar" => return .keyChar (← char v)
  | "Notify" =>
    return .notify (← (v.get? "title").bind Json.asStr) (← (v.get? "message").bind Json.asStr)
  | _ => none

end ControlCommand

structure DesktopRect where
  x : Int
  y : Int
  physicalWidth : Nat
  physicalHeight : Nat
  deriving DecidableEq, Repr

namespace DesktopRect

def valid (r : DesktopRect) : Bool :=
  0 < r.physicalWidth ∧ 0 < r.physicalHeight
    ∧ r.x + r.physicalWidth - 1 ≤ 2 ^ 31 - 1 ∧ r.y + r.physicalHeight - 1 ≤ 2 ^ 31 - 1

-- The cast of an `i64` to an `i32`.
def axis (origin : Int) (size frame : Nat) (p : Int) : Int :=
  let p := max 0 (min p (frame - 1))
  let offset :=
    if frame = 1 then 0 else (p * (size - 1) + (frame - 1 : Int) / 2) / (frame - 1)
  Int.bmod (origin + offset) (2 ^ 32)

def map (r : DesktopRect) (frameWidth frameHeight : Nat) (x y : Int) : Option (Int × Int) :=
  if !r.valid ∨ frameWidth = 0 ∨ frameHeight = 0 then
    none
  else
    some (axis r.x r.physicalWidth frameWidth x, axis r.y r.physicalHeight frameHeight y)

end DesktopRect

structure FrameGeometry where
  captureId : String
  geometryRevision : Nat
  monitorIndex : Option Nat
  desktop : Option DesktopRect
  frameWidth : Nat
  frameHeight : Nat
  deriving DecidableEq, Repr

structure Selection where
  id : Option String
  revision : Nat
  frame : Option FrameGeometry
  legacyPrimary : Bool
  deriving DecidableEq, Repr

namespace Selection

def default : Selection where
  id := none
  revision := 0
  frame := none
  legacyPrimary := false

def stamped (v : Json) : Bool :=
  (v.get? "capture_id").isSome || (v.get? "geometry_revision").isSome

def current (s : Selection) (v : Json) : Bool :=
  s.frame.any (fun f =>
    (v.get? "capture_id").bind Json.asStr = some f.captureId
      ∧ (v.get? "geometry_revision").bind Json.asU64 = some f.geometryRevision)

def isPointer (kind : String) : Bool :=
  ["MouseMove", "MouseClick", "MouseDoubleClick", "MouseDown", "MouseUp"].contains kind

def point (s : Selection) (x y : Int) : Option (Int × Int) :=
  s.frame.bind (fun f =>
    f.desktop.bind (fun desktop => desktop.map f.frameWidth f.frameHeight x y))

def mapCommand (s : Selection) (v : Json) : Except String Json :=
  if stamped v ∧ !s.current v then
    .error "stale capture geometry"
  else if !isPointer v.kind then
    .ok v
  else
    match (v.field "x").asI32, (v.field "y").asI32 with
    | none, _ => .error "invalid x"
    | some _, none => .error "invalid y"
    | some x, some y =>
      match s.point x y with
      | some (x, y) => .ok ((v.setField "x" (.ofInt x)).setField "y" (.ofInt y))
      | none =>
        if !stamped v ∧ (s.id.isNone ∨ s.legacyPrimary ∧ s.frame.isSome) then
          .ok v
        else
          .error "capture geometry unavailable"

end Selection

def maxTypeTextChars : Nat := 2000

/--
The controller, and what is pressed and not released on its host. Pressing and releasing succeeds.
-/
structure InputController where
  heldKeys : List Key
  heldButtons : List Button
  generation : Option Permissions.Generation
  lease : Option Permissions.Generation
  down : Key ⊕ Button → Bool

-- How the other calls of the operating system end: the cursor movement, and all that is left.
structure Outcome where
  moved : Bool
  done : Bool
  deriving DecidableEq, Repr

namespace InputController

def init : InputController where
  heldKeys := []
  heldButtons := []
  generation := none
  lease := none
  down := fun _ => false

def press (c : InputController) (contact : Key ⊕ Button) : InputController :=
  { c with down := Function.update c.down contact true }

def release (c : InputController) (contact : Key ⊕ Button) : InputController :=
  { c with down := Function.update c.down contact false }

def click (c : InputController) (contact : Key ⊕ Button) : InputController :=
  (c.press contact).release contact

def releaseAll (c : InputController) : InputController :=
  let released := (c.heldKeys.map Sum.inl ++ c.heldButtons.map Sum.inr).foldl release c
  { released with heldKeys := [], heldButtons := [], generation := none, lease := none }

def adopt (c : InputController) (generation : Option Permissions.Generation) : InputController :=
  if c.generation ≠ generation then
    { c.releaseAll with generation, lease := generation }
  else
    c

def execute (c : InputController) (outcome : Outcome)
    : ControlCommand → Except String Unit × InputController
  | .mouseMove _ _ => (if outcome.moved then .ok () else .error "move_mouse failed", c)
  | .mouseClick _ _ button =>
    if outcome.moved then
      (.ok (), c.click (.inr button))
    else
      (.error "move_mouse (pre-click) failed", c)
  | .mouseDoubleClick _ _ button =>
    if outcome.moved then
      (.ok (), (c.click (.inr button)).click (.inr button))
    else
      (.error "move_mouse (pre-dblclick) failed", c)
  | .mouseDown _ _ button =>
    if outcome.moved then
      let heldButtons :=
        if c.heldButtons.contains button then c.heldButtons else c.heldButtons ++ [button]
      (.ok (), { c.press (.inr button) with heldButtons })
    else
      (.error "move_mouse (pre-down) failed", c)
  | .mouseUp _ _ button =>
    if outcome.moved then
      let heldButtons := c.heldButtons.filter (fun b => b ≠ button)
      (.ok (), { c.release (.inr button) with heldButtons })
    else
      (.error "move_mouse (pre-up) failed", c)
  | .mouseScroll deltaX deltaY =>
    let still := deltaX = 0 ∧ deltaY = 0
    (if still ∨ outcome.done then .ok () else .error "scroll failed", c)
  | .typeText text =>
    let ignored := text.isEmpty ∨ maxTypeTextChars < text.length
    (if ignored ∨ outcome.done then .ok () else .error "text injection failed", c)
  | .keyPress key => (.ok (), c.click (.inl (specialKeyToEnigo key)))
  | .keyDown key =>
    let key := specialKeyToEnigo key
    let heldKeys := if c.heldKeys.contains key then c.heldKeys else c.heldKeys ++ [key]
    (.ok (), { c.press (.inl key) with heldKeys })
  | .keyUp key =>
    let key := specialKeyToEnigo key
    let heldKeys := c.heldKeys.filter (fun k => k ≠ key)
    (.ok (), { c.release (.inl key) with heldKeys })
  | .keyChar character => (.ok (), c.click (.inl (.unicode character)))
  | .notify _ _ => (.ok (), c)

end InputController

end Input

end Vantyr
