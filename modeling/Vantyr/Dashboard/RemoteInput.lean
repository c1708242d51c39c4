import Vantyr.Data.Uuid
import Vantyr.Server.Sessions

/-!
This module contains the input of the live screen: the keys and buttons a viewer holds
(`frontend/src/features/remote/lib/remoteHeldInput.ts`), what a key means (`lib/remoteKeys.ts`), the pieces
a text is typed in (`remoteTextChunks` of `lib/remoteTouch.ts`), the frame on display as the stream shows
it (`hooks/mjpegStreamSource.tsx`, `hooks/useMjpegFrames.ts`) and the hook between them
(`hooks/useRemoteInput.ts`). Where a pointer falls into the picture is an input of each event, and so are
the notches of the wheel. Coordinates are whole numbers. The effects of a rendering run with it.
-/

namespace Vantyr

namespace RemoteInput

structure Point where
  x : Int
  y : Int
  deriving DecidableEq, Repr

inductive Command where
  | keyDown (key : String)
  | keyUp (key : String)
  | keyPress (key : String)
  | keyChar (char : String)
  | typeText (text : String)
  | mouseDown (point : Point) (button : Button)
  | mouseUp (point : Point) (button : Button)
  | mouseMove (point : Point)
  | mouseScroll (deltaX deltaY : Int)
  | notify (title message : String)
  deriving DecidableEq, Repr

namespace Command

def isRelease : Command → Bool
  | .keyUp _ => true
  | .mouseUp _ _ => true
  | _ => false

end Command

structure RemoteHeldInput where
  keys : List String
  buttons : List (Button × Point)
  deriving DecidableEq, Repr

namespace RemoteHeldInput

def empty : RemoteHeldInput where
  keys := []
  buttons := []

def keyDown (h : RemoteHeldInput) (key : String) : Bool × RemoteHeldInput :=
  if key ∈ h.keys then (false, h) else (true, { h with keys := h.keys ++ [key] })

def keyUp (h : RemoteHeldInput) (key : String) : Bool × RemoteHeldInput :=
  (key ∈ h.keys, { h with keys := h.keys.filter (· ≠ key) })

-- `Map.set`: a button that is there keeps its place.
def setButton (button : Button) (point : Point) : List (Button × Point) → List (Button × Point)
  | [] => [(button, point)]
  | (b, p) :: rest =>
    if b = button then (button, point) :: rest else (b, p) :: setButton button point rest

def buttonDown (h : RemoteHeldInput) (button : Button) (point : Point) : RemoteHeldInput :=
  { h with buttons := setButton button point h.buttons }

def buttonUp (h : RemoteHeldInput) (button : Button) : Bool × RemoteHeldInput :=
  (button ∈ h.buttons.map Prod.fst, { h with buttons := h.buttons.filter (fun held => held.1 ≠ button) })

def move (h : RemoteHeldInput) (point : Point) : RemoteHeldInput :=
  { h with buttons := h.buttons.map fun held => (held.1, point) }

def releaseButtons (h : RemoteHeldInput) : List Command × RemoteHeldInput :=
  (h.buttons.map fun held => .mouseUp held.2 held.1, { h with buttons := [] })

def releaseAll (h : RemoteHeldInput) : List Command × RemoteHeldInput :=
  let commands := h.keys.map Command.keyUp
  let (buttons, h) := { h with keys := [] }.releaseButtons
  (commands ++ buttons, h)

end RemoteHeldInput

def specialKeyMap : List (String × String) :=
  [ ("Enter", "enter"), ("Backspace", "backspace"), ("Tab", "tab"), ("Escape", "escape"),
    ("Delete", "delete"), ("Insert", "insert"), (" ", "space"), ("Home", "home"), ("End", "end"),
    ("PageUp", "pageup"), ("PageDown", "pagedown"), ("ArrowUp", "arrowup"), ("ArrowDown", "arrowdown"),
    ("ArrowLeft", "arrowleft"), ("ArrowRight", "arrowright"), ("F1", "f1"), ("F2", "f2"), ("F3", "f3"),
    ("F4", "f4"), ("F5", "f5"), ("F6", "f6"), ("F7", "f7"), ("F8", "f8"), ("F9", "f9"), ("F10", "f10"),
    ("F11", "f11"), ("F12", "f12"), ("CapsLock", "capslock") ]

def modifierKeys : List String := ["Control", "Alt", "Shift", "Meta"]

def isModifierKey (key : String) : Bool :=
  modifierKeys.contains key

def isPrintable (key : String) : Bool :=
  key.length = 1 && !modifierKeys.contains key

inductive KeyDownAction where
  | modifier (key : String)
  | special (key : String)
  | char (char : String)
  | text (text : String)
  deriving DecidableEq, Repr

structure KeyEvent where
  key : String
  ctrlKey : Bool
  altKey : Bool
  metaKey : Bool
  isComposing : Bool
  deriving DecidableEq, Repr

def keyDownAction (e : KeyEvent) : Option KeyDownAction :=
  if modifierKeys.contains e.key then
    some (.modifier e.key.toLower)
  else
    match specialKeyMap.lookup e.key with
    | some special => some (.special special)
    | none =>
      if isPrintable e.key then
        if e.ctrlKey || e.altKey || e.metaKey then some (.char e.key) else some (.text e.key)
      else
        none

def buttonName (btn : Nat) : Button :=
  if btn = 2 then .right else if btn = 1 then .middle else .left

/--
The pieces a text is typed in. `none` is the error for a text of more than 8,000 characters.
-/
def remoteTextChunks (text : String) : Option (List String) :=
  let chars := text.toList
  if chars.length > 8000 then
    none
  else
    some <| (List.range ((chars.length + 511) / 512)).map fun k =>
      String.ofList ((chars.drop (512 * k)).take 512)

-- `desktop` says whether there is a physical desktop rectangle.
structure CaptureGeometry where
  captureId : String
  geometryRevision : Nat
  monitorIndex : Option Int
  desktop : Bool
  deriving DecidableEq, Repr

def controlGeometryAvailable (geometry : CaptureGeometry) : Bool :=
  geometry.desktop && geometry.monitorIndex.any fun index => decide (0 ≤ index ∧ index < 64)

structure DisplayedRemoteFrame where
  geometry : Option CaptureGeometry
  deriving DecidableEq, Repr

structure CaptureStamp where
  captureId : String
  geometryRevision : Nat
  deriving DecidableEq, Repr

structure InputContext where
  agentId : Uuid
  token : Option Uuid
  stamp : CaptureStamp
  deriving DecidableEq, Repr

-- A message `control`: the agent, the token of the lease, the command and the stamp merged into it.
structure Message where
  context : InputContext
  cmd : Command
  deriving DecidableEq, Repr

inductive TouchMode where
  | direct
  | trackpad
  deriving DecidableEq, Repr

inductive TouchAction where
  | tap
  | right
  | drag
  | scroll
  | pan
  deriving DecidableEq, Repr

structure Gesture where
  id : Nat
  start : Point
  last : Point
  point : Point
  moved : Bool
  scroll : Point
  action : TouchAction
  deriving DecidableEq, Repr

/--
An event of a pointer. `canvas` says whether the picture is mounted, `image` is where the handler maps the
pointer into it, and `current` is the place of the cursor marker.
-/
structure PointerEvent where
  pointerId : Nat
  touch : Bool
  isPrimary : Bool
  button : Nat
  client : Point
  canvas : Bool
  image : Option Point
  current : Point
  deriving DecidableEq, Repr

structure Props where
  agentId : Uuid
  leaseToken : Option Uuid
  inputEnabled : Bool
  monitorIndex : Option Nat
  deriving DecidableEq, Repr

/--
The refs of the hook, the frame on display, and the messages that were sent.
-/
structure Hook where
  props : Props
  displayed : Option DisplayedRemoteFrame
  lastPresentedIdentity : Option String
  inputContext : Option InputContext
  rafMove : Bool
  pendingMove : Option Point
  heldInput : RemoteHeldInput
  inputEnabled : Bool
  touchMode : TouchMode
  touchAction : TouchAction
  gesture : Option Gesture
  sent : List Message
  deriving DecidableEq, Repr

def farther (a b : Point) : Bool :=
  decide (64 < (a.x - b.x) ^ 2 + (a.y - b.y) ^ 2)

-- The notches of a scrolled distance, at most ten of them either way.
def notches (distance : Int) : Int :=
  max (-10) (min 10 (distance.tdiv 40))

namespace Hook

def mount (props : Props) : Hook where
  props := props
  displayed := none
  lastPresentedIdentity := none
  inputContext := none
  rafMove := false
  pendingMove := none
  heldInput := .empty
  inputEnabled := props.inputEnabled
  touchMode := .direct
  touchAction := .tap
  gesture := none
  sent := []

def geometry (h : Hook) : Option CaptureGeometry :=
  h.displayed.bind DisplayedRemoteFrame.geometry

def stampOf (geometry : Option CaptureGeometry) : Option CaptureStamp :=
  match geometry with
  | some g => if controlGeometryAvailable g then some ⟨g.captureId, g.geometryRevision⟩ else none
  | none => none

def inputStamp (h : Hook) : Option CaptureStamp :=
  stampOf h.geometry

def verifiedNow (h : Hook) : Bool :=
  h.geometry.any CaptureGeometry.desktop

def surface (h : Hook) (e : PointerEvent) : Bool :=
  e.canvas && h.displayed.isSome

def pointerAllowedNow (h : Hook) : Bool :=
  h.inputEnabled && h.verifiedNow

def send (h : Hook) (context : InputContext) (cmd : Command) : Hook :=
  { h with sent := h.sent ++ [⟨context, cmd⟩] }

def ctrl (h : Hook) (cmd : Command) (release : Bool) : Hook :=
  if release && cmd.isRelease then
    match h.inputContext with
    | some context => h.send context cmd
    | none => h
  else if !h.inputEnabled then
    h
  else
    match h.inputStamp with
    | none => h
    | some stamp =>
      let context := ⟨h.props.agentId, h.props.leaseToken, stamp⟩
      { h with inputContext := some context }.send context cmd

def releaseHeldInput (h : Hook) : Hook :=
  let (commands, held) := h.heldInput.releaseAll
  let h := { h with gesture := none, rafMove := false, pendingMove := none, heldInput := held }
  { commands.foldl (fun h cmd => h.ctrl cmd true) h with inputContext := none }

def releasePointer (h : Hook) : Hook :=
  let (commands, held) := h.heldInput.releaseButtons
  let h := { h with gesture := none, rafMove := false, pendingMove := none, heldInput := held }
  commands.foldl (fun h cmd => h.ctrl cmd true) h

def identity (g : CaptureGeometry) : String :=
  g.captureId ++ ":" ++ toString g.geometryRevision

def beforeDisplay (h : Hook) (frame : Option DisplayedRemoteFrame) : Hook :=
  let g := frame.bind DisplayedRemoteFrame.geometry
  let shown := g.map identity
  let available := g.any controlGeometryAvailable
  let h :=
    if h.lastPresentedIdentity ≠ shown ∨ frame = none ∨ !available then h.releaseHeldInput else h
  { h with inputEnabled := h.inputEnabled && available, lastPresentedIdentity := shown }

-- `clear` of the stream: no frame is on display any more.
def clear (h : Hook) : Hook :=
  { h.beforeDisplay none with displayed := none }

/--
A frame is decoded. If it cannot be drawn, the stream stops at once.
-/
def present (h : Hook) (frame : DisplayedRemoteFrame) (drawn : Bool) : Hook :=
  let h := h.beforeDisplay (some frame)
  if drawn then { h with displayed := some frame } else h.clear

def disable (h : Hook) : Hook :=
  { h with inputEnabled := false }.releaseHeldInput

/--
A rendering with new properties. If one of those changed that the effect of the held input depends on, the
cleanup of its last run comes first and the effect runs again.
-/
def commit (h : Hook) (props : Props) : Hook :=
  let changed := decide (h.props ≠ props)
  let h := if changed && h.props.inputEnabled then h.releaseHeldInput else h
  let h := { h with props := props, inputEnabled := props.inputEnabled }
  if changed && !props.inputEnabled then h.releaseHeldInput else h

def sendText (h : Hook) (text : String) : Hook :=
  if !h.inputEnabled then
    h
  else
    match remoteTextChunks text with
    | some chunks => chunks.foldl (fun h chunk => h.ctrl (.typeText chunk) false) h
    | none => h

def pressButton (h : Hook) (button : Button) (point : Point) : Hook :=
  { h with heldInput := h.heldInput.buttonDown button point }.ctrl (.mouseDown point button) false

def liftButton (h : Hook) (button : Button) (point : Point) (release : Bool) : Hook :=
  let (held, heldInput) := h.heldInput.buttonUp button
  let h := { h with heldInput := heldInput }
  if held then h.ctrl (.mouseUp point button) release else h

def beginTouch (h : Hook) (e : PointerEvent) : Hook :=
  let action := h.touchAction
  if h.gesture.isSome || (!h.inputEnabled && action ≠ .pan)
      || ([.tap, .right, .drag].contains action && !h.pointerAllowedNow) then
    h
  else if !h.surface e && action ≠ .pan then
    h
  else
    match (if action = .pan then some e.current else e.image) with
    | none => h
    | some point =>
      let h := { h with gesture := some ⟨e.pointerId, e.client, e.client, point, false, ⟨0, 0⟩, action⟩ }
      if action = .drag then h.pressButton .left point else h

def scrollTouch (h : Hook) (state : Gesture) (delta : Point) : Hook :=
  let scroll : Point := ⟨state.scroll.x - delta.x, state.scroll.y - delta.y⟩
  let dx := notches scroll.x
  let dy := notches scroll.y
  if dx ≠ 0 ∨ dy ≠ 0 then
    { h with gesture := some { state with scroll := ⟨scroll.x - dx * 40, scroll.y - dy * 40⟩ } }.ctrl
      (.mouseScroll dx dy) false
  else
    { h with gesture := some { state with scroll } }

def moveTouch (h : Hook) (e : PointerEvent) : Hook :=
  match h.gesture with
  | none => h
  | some state =>
    if state.id ≠ e.pointerId then
      h
    else
      let delta : Point := ⟨e.client.x - state.last.x, e.client.y - state.last.y⟩
      let state := { state with last := e.client, moved := state.moved || farther e.client state.start }
      let h := { h with gesture := some state }
      if state.action = .pan then
        h
      else if !h.inputEnabled then
        h
      else if state.action = .scroll then
        h.scrollTouch state delta
      else if !h.surface e then
        h
      else
        match e.image with
        | none => h
        | some point =>
          let h :=
            { h with gesture := some { state with point }, heldInput := h.heldInput.move point }
          if h.touchMode = .trackpad ∨ state.action = .drag then h.ctrl (.mouseMove point) false else h

def tapButton (h : Hook) (button : Button) (point : Point) : Hook :=
  (h.ctrl (.mouseDown point button) false).ctrl (.mouseUp point button) false

-- What `endTouch` does once the last movement is taken in.
def finishTouch (h : Hook) (e : PointerEvent) : Hook :=
  match h.gesture with
  | none => h
  | some state =>
    let moved := state.moved || farther e.client state.start
    let h := { h with gesture := none }
    if state.action = .drag then
      h.liftButton .left state.point true
    else if h.inputEnabled && !moved && (state.action = .tap || state.action = .right) then
      h.tapButton (if state.action = .right then .right else .left) state.point
    else
      h

def endTouch (h : Hook) (e : PointerEvent) : Hook :=
  match h.gesture with
  | none => h
  | some state =>
    if state.id ≠ e.pointerId then
      h
    else
      (if e.client ≠ state.last then h.moveTouch e else h).finishTouch e

def flushMouseMove (h : Hook) : Hook :=
  let h' := { h with rafMove := false }
  match h.pendingMove with
  | none => h'
  | some point => { h' with pendingMove := none }.ctrl (.mouseMove point) false

def touches (h : Hook) (e : PointerEvent) : Bool :=
  e.touch || h.touchAction = .pan

def handlePointerMove (h : Hook) (e : PointerEvent) : Hook :=
  if h.touches e then
    h.moveTouch e
  else if !h.pointerAllowedNow || !e.isPrimary || !h.surface e then
    h
  else
    match e.image with
    | none => h
    | some point =>
      { h with heldInput := h.heldInput.move point, pendingMove := some point, rafMove := true }

def handlePointerDown (h : Hook) (e : PointerEvent) : Hook :=
  if h.touches e then
    h.beginTouch e
  else if !h.pointerAllowedNow || !h.surface e then
    h
  else
    match e.image with
    | none => h
    | some point => h.pressButton (buttonName e.button) point

def handlePointerUp (h : Hook) (e : PointerEvent) : Hook :=
  if h.touches e then
    h.endTouch e
  else if !h.pointerAllowedNow || !h.surface e then
    h
  else
    match e.image with
    | none => h
    | some point => h.liftButton (buttonName e.button) point false

def handleWheel (h : Hook) (dx dy : Int) : Hook :=
  if h.props.inputEnabled && h.touchAction ≠ .pan then h.ctrl (.mouseScroll dx dy) false else h

def pressKey (h : Hook) (key : String) : Hook :=
  let (fresh, held) := h.heldInput.keyDown key
  let h := { h with heldInput := held }
  if fresh then h.ctrl (.keyDown key) false else h

def liftKey (h : Hook) (key : String) : Hook :=
  let (held, heldInput) := h.heldInput.keyUp key
  let h := { h with heldInput := heldInput }
  if held then h.ctrl (.keyUp key) false else h

def handleKeyDown (h : Hook) (e : KeyEvent) : Hook :=
  if !h.inputEnabled || e.isComposing then
    h
  else
    match keyDownAction e with
    | none => h
    | some (.modifier key) => h.pressKey key
    | some (.special key) => h.ctrl (.keyPress key) false
    | some (.char char) => h.ctrl (.keyChar char) false
    | some (.text text) => h.sendText text

def handleKeyUp (h : Hook) (key : String) : Hook :=
  if !h.inputEnabled then
    h
  else if isModifierKey key then
    h.liftKey key.toLower
  else
    h

end Hook

/--
What happens to the live screen. `leave` is whatever calls `releaseHeldInput` by itself: the focus leaves,
the page is hidden, a pointer is cancelled, a sheet opens. `lose` is a lost pointer capture or a new size.
-/
inductive Event where
  | keyDown (e : KeyEvent)
  | keyUp (key : String)
  | pointerDown (e : PointerEvent)
  | pointerMove (e : PointerEvent)
  | pointerUp (e : PointerEvent)
  | animationFrame
  | wheel (dx dy : Int)
  | text (text : String)
  | toolKey (key : String)
  | notify (title message : String)
  | leave
  | lose
  | mode (mode : TouchMode)
  | action (action : TouchAction)
  | disable
  | present (frame : DisplayedRemoteFrame) (drawn : Bool)
  | clear
  | commit (props : Props)
  deriving DecidableEq, Repr

namespace Hook

def step (h : Hook) : Event → Hook
  | .keyDown e => h.handleKeyDown e
  | .keyUp key => h.handleKeyUp key
  | .pointerDown e => h.handlePointerDown e
  | .pointerMove e => h.handlePointerMove e
  | .pointerUp e => h.handlePointerUp e
  | .animationFrame => if h.rafMove then h.flushMouseMove else h
  | .wheel dx dy => h.handleWheel dx dy
  | .text text => h.sendText text
  | .toolKey key => h.ctrl (.keyPress key) false
  | .notify title message => if h.inputEnabled then h.ctrl (.notify title message) false else h
  | .leave => h.releaseHeldInput
  | .lose => h.releasePointer
  | .mode mode => { h.releaseHeldInput with touchMode := mode }
  | .action action => { h.releaseHeldInput with touchAction := action }
  | .disable => h.disable
  | .present frame drawn => h.present frame drawn
  | .clear => h.clear
  | .commit props => h.commit props

def run (h : Hook) (events : List Event) : Hook :=
  events.foldl step h

end Hook

end RemoteInput

end Vantyr
