import KnobPanel.Input.Acceleration
import KnobPanel.Lighting.Replay
import KnobPanel.Screens.Screen

/-!
# Controller

The board with its active screen, driven by the host: a tick for every frame,
key events, encoder detents, and a poll from the scan loop. `step` carries out
one call in the surroundings of one moment.
-/

namespace KnobPanel

structure Controller where
  board : Board
  screen : Screen
  listener : Option Listener := none
  acceleration : Acceleration := {}
  /-- LED of the last key press that was not reported yet. -/
  stagedLed : Option UInt8 := none
  replay : ReplayStep := .first

structure TickReport where
  /-- The tick went back to the dashboard and did nothing else. -/
  returned : Bool := false
  autoOff : Option AutoOffAction := none
  replayed : Option Command := none
  deriving DecidableEq

namespace Controller

def meet (moment : Moment) (controller : Controller) : Controller :=
  { controller with board := controller.board.meet moment }

def draw (ops : List DrawOp) (controller : Controller) : Controller :=
  { controller with board := controller.board.draw ops }

def now (controller : Controller) : Millis × Controller :=
  let time := controller.board.now
  (time.1, { controller with board := time.2 })

/-! ## Changing screens -/

/-- Replaces the active screen. The listener, the acceleration and the
auto-return are those of a plain screen afterwards. -/
def switchTo (screen : Screen) (controller : Controller) : Controller :=
  let board := controller.board.draw [.clear]
  { controller with
    screen
    listener := none
    acceleration := {}
    board := { board with firstFrame := true, idle := board.idle.disarm } }

def listen (listener : Listener) (controller : Controller) : Controller :=
  { controller with listener := some listener }

def armReturn (secs : Nat) (controller : Controller) : Controller :=
  let time := controller.now
  let board := time.2.board
  { time.2 with board := { board with idle := board.idle.arm secs time.1 } }

def accelerate (ceiling : Nat) (controller : Controller) : Controller :=
  { controller with acceleration := controller.acceleration.enable ceiling }

def go (route : Route) (controller : Controller) : Controller :=
  match route with
  | .dashboard =>
    let time := controller.now
    let art := time.2.board.settings.homeArt
    (time.2.switchTo (.dashboard (.ofArt art (time.1 ||| 1)))).listen .dashboard
  | .menu kind =>
    let board :=
      if kind.savesOnEntry then controller.board.saveSettings else controller.board
    let menu := kind.load board.settings
    ({ controller with board }.switchTo (.menu kind menu)).armReturn kind.autoReturnSecs
  | .slider kind => (controller.switchTo (.slider kind)).accelerate kind.fastRotation
  | .pomodoro => (controller.switchTo .pomodoro).listen .pomodoro
  | .help => controller.switchTo .help

/-- Loads the settings, hands them to the display and opens the dashboard. -/
def start (moment : Moment) (store : FlatStore) (trig : Trigonometry := .fast) : Controller :=
  let loaded := Record.loadOrInit { store with faulty := moment.storeFaulty, turn := 0 }
  let settings := loaded.1
  let board : Board :=
    { channel := { link := { busy := moment.busy, delivers := moment.delivers } }
      store := loaded.2
      sensor := { starts := moment.sensorStarts, climate := moment.climate }
      clock := { readings := moment.clock, turn := 1 }
      trig
      settings
      idle := { lastActivity := moment.clock 0 } }
  let board := board.draw
    [.brightness settings.oled.brightness, .invert (.ofBool settings.oled.inverted)]
  { board, screen := .dashboard (.ofArt settings.homeArt (moment.clock 0)) : Controller }.go
    .dashboard

/-- Carries out a reaction; answers whether the event goes on to the host. -/
def react (reaction : Reaction) (controller : Controller) : Bool × Controller :=
  let controller :=
    if reaction.redraw then
      { controller with board := { controller.board with firstFrame := true } }
    else
      controller
  (reaction.propagate,
    match reaction.route with
    | some route => controller.go route
    | none => controller)

/-! ## Ticks -/

/-- Wakes what the idle timers switched off, then reports the staged key; one
command per call. -/
def notifyLed (controller : Controller) : Controller :=
  match controller.stagedLed with
  | none => controller
  | some led =>
    let board :=
      if controller.board.displayOn then controller.board
      else controller.board.draw [.power true]
    if board.idle.rgbOff then
      let board := { board with idle := { board.idle with rgbOff := false } }
      { controller with board := board.applyRgbEffect }
    else if board.idle.sideOff then
      let board := { board with idle := { board.idle with sideOff := false } }
      { controller with board := board.applySideEffect }
    else
      let sent := board.send (.byte .rgbKeypress led)
      { controller with
        board := sent.2
        stagedLed := if sent.1.isOk then none else some led }

/-- One step of the replay; waits while the line is busy. A failed transfer is
not repeated. -/
def replayNext (controller : Controller) : Option Command × Controller :=
  match controller.replay.command? controller.board.settings with
  | none => (none, { controller with replay := .done })
  | some command =>
    let answer := controller.board.channel.isBusy
    let board := { controller.board with channel := answer.2 }
    if answer.1 then
      (none, { controller with board })
    else
      (some command,
        { controller with board := (board.send command).2, replay := controller.replay.next })

/-- The auto-off of a tick. Lights that just went off take no key report. -/
def autoOff (now : Millis) (controller : Controller) : Option AutoOffAction × Controller :=
  let done := controller.board.autoOff now
  (done.1,
    { controller with
      board := done.2
      stagedLed :=
        if done.1 = some .rgbOff ∨ done.1 = some .sideOff then none else controller.stagedLed })

def serveLights (controller : Controller) : Option Command × Controller :=
  if controller.replay = .done then
    (none, { controller with board := controller.board.drain.2 })
  else
    controller.replayNext

def drawScreen (controller : Controller) : Controller :=
  let drawn := controller.screen.draw controller.board
  { controller with
    screen := drawn.2.1
    board := { drawn.2.2 with firstFrame := drawn.1 }.draw [.flush] }

def tick (controller : Controller) : TickReport × Controller :=
  let time := controller.now
  if time.2.board.idle.returnDue time.1 then
    ({ returned := true }, time.2.go .dashboard)
  else
    let off := time.2.autoOff time.1
    let served := off.2.notifyLed.serveLights
    ({ autoOff := off.1, replayed := served.1 }, served.2.drawScreen)

/-! ## Inputs -/

/-- A key event; answers whether the key should still reach the host. -/
def handleKey (event : KeyEvent) (controller : Controller) : Bool × Controller :=
  let time := controller.now
  let board := time.2.board
  let board := { board with
    idle := board.idle.activity time.1
    keyRate := if event.pressed then board.keyRate.press time.1 else board.keyRate }
  let controller := { time.2 with board }
  if event.key = .activate then
    if event.pressed then
      let reacted := controller.screen.onActivate board
      { controller with board := reacted.2 }.react reacted.1
    else
      (true, controller)
  else
    let controller :=
      if event.pressed then { controller with stagedLed := event.key.led? } else controller
    match controller.listener with
    | none => (true, controller)
    | some listener =>
      let reacted := controller.screen.onKey listener event controller.board
      { controller with screen := reacted.2.1, board := reacted.2.2 }.react reacted.1

def turnScreen (clockwise : Bool) : Nat → Reaction → Controller → Reaction × Controller
  | 0, reaction, controller => (reaction, controller)
  | steps + 1, _, controller =>
    let turned := controller.screen.onRotate clockwise controller.board
    let controller := { controller with screen := turned.2.1, board := turned.2.2 }
    if turned.1.route.isSome then
      (turned.1, controller)
    else
      turnScreen clockwise steps turned.1 controller

/-- A detent of the encoder; answers whether it should still produce its
fallback keystroke. -/
def handleRotate (clockwise : Bool) (controller : Controller) : Bool × Controller :=
  let time := controller.now
  let board := { time.2.board with idle := time.2.board.idle.activity time.1 }
  let steps := controller.acceleration.steps time.1
  let turned :=
    { time.2 with board, acceleration := steps.2 }.turnScreen clockwise steps.1 .pass
  turned.2.react turned.1

def poll (controller : Controller) : Controller :=
  let time := controller.now
  let board := time.2.board
  { time.2 with board := { board with keyRate := board.keyRate.decay time.1 } }

def setLockLeds (leds : LockLeds) (controller : Controller) : Controller :=
  { controller with board := { controller.board with lockLeds := leds } }

end Controller

/-! ## Runs -/

inductive HostEvent where
  | tick
  | key (event : KeyEvent)
  | rotate (clockwise : Bool)
  | poll
  | lockLeds (leds : LockLeds)
  deriving DecidableEq

namespace Controller

def handle (event : HostEvent) (controller : Controller) : Option Bool × Controller :=
  match event with
  | .tick => (none, controller.tick.2)
  | .key event =>
    let handled := controller.handleKey event
    (some handled.1, handled.2)
  | .rotate clockwise =>
    let handled := controller.handleRotate clockwise
    (some handled.1, handled.2)
  | .poll => (none, controller.poll)
  | .lockLeds leds => (none, controller.setLockLeds leds)

def step (moment : Moment) (event : HostEvent) (controller : Controller) :
    Option Bool × Controller :=
  (controller.meet moment).handle event

def run : List (Moment × HostEvent) → Controller → List (Option Bool) × Controller
  | [], controller => ([], controller)
  | (moment, event) :: rest, controller =>
    let first := controller.step moment event
    let others := run rest first.2
    (first.1 :: others.1, others.2)

inductive Reachable : Controller → Prop where
  | start (moment : Moment) (store : FlatStore) : Reachable (start moment store)
  | step {controller : Controller} (moment : Moment) (event : HostEvent) :
      Reachable controller → Reachable (controller.step moment event).2

theorem Reachable.run {controller : Controller} (reachable : Reachable controller)
    (calls : List (Moment × HostEvent)) : Reachable (controller.run calls).2 := by
  induction calls generalizing controller with
  | nil => exact reachable
  | cons call calls ih => exact ih (reachable.step call.1 call.2)

end Controller

end KnobPanel
