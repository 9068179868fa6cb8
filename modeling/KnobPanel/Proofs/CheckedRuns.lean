import KnobPanel.Proofs.CheckedScreens

/-!
# Every run in machine words

The controller with every sum, difference, quotient and position of its calls
checked. No run meets a check that fails, as long as the projected corners of the
cube are on the screen. The star field is why a change of the screen asks for a first
frame: only a first frame places the stars.
-/

namespace KnobPanel.Controller

-- ---------------------------------------------------------------------------
-- Calls with checks
-- ---------------------------------------------------------------------------

def go? (route : Route) (controller : Controller) : Option Controller :=
  match route with
  | .menu kind => do
    let board ← (if kind.savesOnEntry then controller.board.saveSettings?
      else some controller.board)
    let menu ← kind.load? board.settings
    some (({ controller with board }.switchTo (.menu kind menu)).armReturn kind.autoReturnSecs)
  | .dashboard | .slider _ | .pomodoro | .help => some (controller.go route)

def start? (moment : Moment) (store : FlatStore) (trig : Trigonometry) : Option Controller := do
  let loaded ← Record.loadOrInit? { store with faulty := moment.storeFaulty, turn := 0 }
  let settings := loaded.1
  let board : Board :=
    { channel := { link := { busy := moment.busy, delivers := moment.delivers } }
      store := loaded.2
      sensor := { starts := moment.sensorStarts, climate := moment.climate }
      clock := { readings := moment.clock, turn := 1 }
      trig
      settings
      idle := { lastActivity := moment.clock 0 } }
  let board := board.draw
    [.brightness settings.oled.brightness, .invert (.ofBool settings.oled.inverted)]
  { board, screen := .dashboard (.ofArt settings.homeArt (moment.clock 0)) : Controller }.go?
    .dashboard

def react? (reaction : Reaction) (controller : Controller) : Option (Bool × Controller) := do
  let controller :=
    if reaction.redraw then
      { controller with board := { controller.board with firstFrame := true } }
    else
      controller
  let routed ←
    match reaction.route with
    | some route => controller.go? route
    | none => some controller
  some (reaction.propagate, routed)

def notifyLed? (controller : Controller) : Option Controller :=
  match controller.stagedLed with
  | none => some controller
  | some led =>
    let board :=
      if controller.board.displayOn then controller.board
      else controller.board.draw [.power true]
    if board.idle.rgbOff then do
      let board ← { board with idle := { board.idle with rgbOff := false } }.applyRgbEffect?
      some { controller with board }
    else if board.idle.sideOff then do
      let board ← { board with idle := { board.idle with sideOff := false } }.applySideEffect?
      some { controller with board }
    else do
      let sent ← board.send? (.byte .rgbKeypress led)
      some { controller with
        board := sent.2
        stagedLed := if sent.1.isOk then none else some led }

def replayNext? (controller : Controller) : Option (Option Command × Controller) := do
  match ← controller.replay.replayed? controller.board.settings with
  | none => some (none, { controller with replay := .done })
  | some command =>
    let answer := controller.board.channel.isBusy
    let board := { controller.board with channel := answer.2 }
    if answer.1 then
      some (none, { controller with board })
    else
      let sent ← board.send? command
      some (some command, { controller with board := sent.2, replay := controller.replay.next })

def autoOff? (now : Millis) (controller : Controller) :
    Option (Option AutoOffAction × Controller) := do
  let done ← controller.board.autoOff? now
  some (done.1,
    { controller with
      board := done.2
      stagedLed :=
        if done.1 = some .rgbOff ∨ done.1 = some .sideOff then none else controller.stagedLed })

def serveLights? (controller : Controller) : Option (Option Command × Controller) :=
  if controller.replay = .done then do
    let drained ← controller.board.drain?
    some (none, { controller with board := drained.2 })
  else
    controller.replayNext?

def drawScreen? (controller : Controller) : Option Controller := do
  let drawn ← controller.screen.draw? controller.board
  some { controller with
    screen := drawn.2.1
    board := { drawn.2.2 with firstFrame := drawn.1 }.draw [.flush] }

def tick? (controller : Controller) : Option (TickReport × Controller) := do
  let time := controller.now
  if time.2.board.idle.returnDue time.1 then
    let returned ← time.2.go? .dashboard
    some ({ returned := true }, returned)
  else
    let off ← time.2.autoOff? time.1
    let woken ← off.2.notifyLed?
    let served ← woken.serveLights?
    let drawn ← served.2.drawScreen?
    some ({ autoOff := off.1, replayed := served.1 }, drawn)

def activate? (controller : Controller) : Option (Bool × Controller) := do
  let reacted ← controller.screen.onActivate? controller.board
  { controller with board := reacted.2 }.react? reacted.1

def hear? (event : KeyEvent) (listener : Listener) (controller : Controller) :
    Option (Bool × Controller) := do
  let reacted ← controller.screen.onKey? listener event controller.board
  { controller with screen := reacted.2.1, board := reacted.2.2 }.react? reacted.1

def handleKey? (event : KeyEvent) (controller : Controller) : Option (Bool × Controller) := do
  let time := controller.now
  let board := time.2.board
  let keyRate ← (if event.pressed then board.keyRate.press? time.1 else some board.keyRate)
  let board := { board with idle := board.idle.activity time.1, keyRate }
  let controller := { time.2 with board }
  if event.key = .activate then
    if event.pressed then controller.activate? else some (true, controller)
  else
    let controller :=
      if event.pressed then { controller with stagedLed := event.key.led? } else controller
    match controller.listener with
    | none => some (true, controller)
    | some listener => controller.hear? event listener

def turnScreen? (clockwise : Bool) : Nat → Reaction → Controller → Option (Reaction × Controller)
  | 0, reaction, controller => some (reaction, controller)
  | steps + 1, _, controller => do
    let turned ← controller.screen.onRotate? clockwise controller.board
    let controller := { controller with screen := turned.2.1, board := turned.2.2 }
    if turned.1.route.isSome then
      some (turned.1, controller)
    else
      turnScreen? clockwise steps turned.1 controller

def handleRotate? (clockwise : Bool) (controller : Controller) : Option (Bool × Controller) := do
  let time := controller.now
  let board := { time.2.board with idle := time.2.board.idle.activity time.1 }
  let steps := controller.acceleration.steps time.1
  let turned ←
    { time.2 with board, acceleration := steps.2 }.turnScreen? clockwise steps.1 .pass
  turned.2.react? turned.1

def poll? (controller : Controller) : Option Controller := do
  let time := controller.now
  let board := time.2.board
  let keyRate ← board.keyRate.decay? time.1
  some { time.2 with board := { board with keyRate } }

def handle? (event : HostEvent) (controller : Controller) : Option (Option Bool × Controller) :=
  match event with
  | .tick => do
    let ticked ← controller.tick?
    some (none, ticked.2)
  | .key event => do
    let handled ← controller.handleKey? event
    some (some handled.1, handled.2)
  | .rotate clockwise => do
    let handled ← controller.handleRotate? clockwise
    some (some handled.1, handled.2)
  | .poll => do
    let polled ← controller.poll?
    some (none, polled)
  | .lockLeds leds => some (none, controller.setLockLeds leds)

def step? (moment : Moment) (event : HostEvent) (controller : Controller) :
    Option (Option Bool × Controller) :=
  (controller.meet moment).handle? event

/-- A run of calls; it has no result once a check of one of them fails. -/
def run? : List (Moment × HostEvent) → Controller → Option (List (Option Bool) × Controller)
  | [], controller => some ([], controller)
  | (moment, event) :: rest, controller => do
    let first ← controller.step? moment event
    let others ← run? rest first.2
    some (first.1 :: others.1, others.2)

-- ---------------------------------------------------------------------------
-- Checks that hold anywhere
-- ---------------------------------------------------------------------------

@[simp] theorem go?_eq (route : Route) (controller : Controller) :
    controller.go? route = some (controller.go route) := by
  cases route with
  | menu kind =>
    simp only [go?, go, Board.saveSettings?_eq, MenuKind.load?_eq, Option.bind_eq_bind]
    split <;> rfl
  | _ => rfl

theorem start?_eq (moment : Moment) (store : FlatStore) (trig : Trigonometry) :
    start? moment store trig = some (start moment store trig) := by
  simp only [start?, start, Record.loadOrInit?_eq, go?_eq, Option.bind_eq_bind, Option.bind_some]

@[simp] theorem react?_eq (reaction : Reaction) (controller : Controller) :
    controller.react? reaction = some (controller.react reaction) := by
  simp only [react?, react, go?_eq, Option.bind_eq_bind]
  cases reaction.route <;> rfl

@[simp] theorem notifyLed?_eq (controller : Controller) :
    controller.notifyLed? = some controller.notifyLed := by
  rw [notifyLed?, notifyLed]
  cases controller.stagedLed with
  | none => rfl
  | some led =>
    simp only [Board.applyRgbEffect?_eq, Board.applySideEffect?_eq, Board.send?_eq,
      Option.bind_eq_bind, Option.bind_some]
    generalize (if controller.board.displayOn then _ else _) = powered
    split
    · rfl
    · split <;> rfl

@[simp] theorem replayNext?_eq (controller : Controller) :
    controller.replayNext? = some controller.replayNext := by
  simp only [replayNext?, replayNext, ReplayStep.replayed?_eq, Board.send?_eq,
    Option.bind_eq_bind, Option.bind_some]
  cases controller.replay.command? controller.board.settings with
  | none => rfl
  | some command =>
    simp only
    split <;> rfl

@[simp] theorem autoOff?_eq (now : Millis) (controller : Controller) :
    controller.autoOff? now = some (controller.autoOff now) := by
  simp only [autoOff?, autoOff, Board.autoOff?_eq, Option.bind_eq_bind, Option.bind_some]

@[simp] theorem serveLights?_eq (controller : Controller) :
    controller.serveLights? = some controller.serveLights := by
  simp only [serveLights?, serveLights, Board.drain?_eq, replayNext?_eq, Option.bind_eq_bind,
    Option.bind_some]
  split <;> rfl

-- ---------------------------------------------------------------------------
-- What the other checks rely on
-- ---------------------------------------------------------------------------

/-- After at most so many ticks: an open menu is in order, the artwork is ready for
its next frame, and the numbers on the board are in their ranges. -/
structure Intact (trig : Trigonometry) (frames : Nat) (controller : Controller) : Prop where
  opened : controller.screen.Opened
  ready : controller.screen.Ready frames controller.board.firstFrame
  bounded : controller.board.Bounded trig

variable {trig : Trigonometry} {drawn : Nat} {controller : Controller}

theorem trig_switchTo (controller : Controller) (screen : Screen) :
    (controller.switchTo screen).board.trig = controller.board.trig := by
  unfold switchTo Board.draw
  rfl

theorem trig_armReturn (controller : Controller) (secs : Nat) :
    (controller.armReturn secs).board.trig = controller.board.trig := by
  unfold armReturn now Board.now
  rfl

theorem trig_go (controller : Controller) (route : Route) :
    (controller.go route).board.trig = controller.board.trig := by
  cases route with
  | menu kind =>
    simp only [go, trig_armReturn, trig_switchTo]
    split
    · unfold Board.saveSettings
      rfl
    · rfl
  | dashboard =>
    simp only [go, listen, trig_switchTo]
    unfold now Board.now
    rfl
  | _ => simp only [go, listen, accelerate, trig_switchTo]

/-- A change of the screen asks for a first frame, so every screen starts ready. -/
theorem intact_go (drawn : Nat) (bounded : controller.board.Bounded trig) (route : Route) :
    (controller.go route).Intact trig drawn := by
  have kept : (controller.go route).board.trig = trig :=
    (controller.trig_go route).trans bounded.trig
  cases route with
  | dashboard => exact ⟨trivial, ArtState.ready_ofArt _ _ _, ⟨bounded.rate, bounded.minutes, kept⟩⟩
  | menu kind =>
    refine ⟨Screen.opened_load _ kind, trivial, ?_, ?_, kept⟩
    · simp only [go]
      split <;> exact bounded.rate
    · simp only [go]
      split <;> exact bounded.minutes
  | _ => exact ⟨trivial, trivial, ⟨bounded.rate, bounded.minutes, kept⟩⟩

theorem intact_react (intact : controller.Intact trig drawn) (reaction : Reaction) :
    (controller.react reaction).2.Intact trig drawn := by
  obtain ⟨opened, ready, bounded⟩ := intact
  unfold react
  cases reaction.route with
  | some route =>
    refine intact_go drawn ?_ route
    split <;> exact ⟨bounded.rate, bounded.minutes, bounded.trig⟩
  | none =>
    simp only
    split
    · -- the stars of a first frame are placed anew
      exact ⟨opened, ready.redraw, ⟨bounded.rate, bounded.minutes, bounded.trig⟩⟩
    · exact ⟨opened, ready, bounded⟩

theorem intact_start (moment : Moment) (store : FlatStore) (trig : Trigonometry) :
    (start moment store trig).Intact trig 0 := by
  unfold start
  refine intact_go 0 ⟨Nat.zero_le _, Nat.zero_le _, ?_⟩ .dashboard
  unfold Board.draw
  rfl

-- ---------------------------------------------------------------------------
-- Ticks
-- ---------------------------------------------------------------------------

section
variable (intact : controller.Intact trig drawn)
  (inView : ∀ n ≤ drawn + 1, (CubeSpin.after n).angles.InView trig)
include intact

theorem intact_awake : controller.awake.serveLights.2.Intact trig drawn := by
  obtain ⟨_, _, _, _, _, _, woken⟩ := controller.awake_frame
  obtain ⟨_, _, served⟩ := controller.awake.serveLights_frame
  rw [served, woken]
  exact ⟨intact.opened, intact.ready, intact.bounded.rate, intact.bounded.minutes,
    intact.bounded.trig⟩

theorem intact_drawScreen : controller.drawScreen.Intact trig (drawn + 1) := by
  obtain ⟨rate, minutes, trig⟩ := controller.screen.bounded_draw intact.bounded
  exact ⟨Screen.opened_draw intact.opened _, intact.ready.draw, rate, minutes, trig⟩

theorem intact_tick : controller.tick.2.Intact trig (drawn + 1) := by
  cases returned : controller.tick.1.returned with
  | true =>
    rw [(controller.tick_go returned).2]
    have bounded : controller.now.2.board.Bounded trig :=
      ⟨intact.bounded.rate, intact.bounded.minutes, intact.bounded.trig⟩
    exact intact_go _ bounded _
  | false =>
    rw [controller.tick_draw returned]
    exact intact_drawScreen (intact_awake intact)

include inView

theorem drawScreen?_eq : controller.drawScreen? = some controller.drawScreen := by
  rw [← intact.bounded.trig] at inView
  rw [drawScreen?, Screen.draw?_eq intact.opened intact.ready intact.bounded.minutes inView]
  rfl

theorem tick?_eq : controller.tick? = some controller.tick := by
  have drawn := drawScreen?_eq (intact_awake intact) inView
  rw [awake] at drawn
  simp only [tick?, tick, go?_eq, autoOff?_eq, notifyLed?_eq, serveLights?_eq, drawn,
    Option.bind_eq_bind, Option.bind_some]
  split <;> rfl

end

-- ---------------------------------------------------------------------------
-- Inputs
-- ---------------------------------------------------------------------------

theorem activate?_eq (opened : controller.screen.Opened) :
    controller.activate? =
      some ({ controller with board := (controller.screen.onActivate controller.board).2 }.react
        (controller.screen.onActivate controller.board).1) := by
  rw [activate?, Screen.onActivate?_eq opened]
  exact react?_eq _ _

theorem hear?_eq (short : controller.board.pomodoro.minutes ≤ Pomodoro.maxMinutes)
    (event : KeyEvent) (listener : Listener) :
    controller.hear? event listener =
      some ({ controller with
          screen := (controller.screen.onKey listener event controller.board).2.1
          board := (controller.screen.onKey listener event controller.board).2.2 }.react
        (controller.screen.onKey listener event controller.board).1) := by
  rw [hear?, Screen.onKey?_eq short]
  exact react?_eq _ _

section
variable (intact : controller.Intact trig drawn)
include intact

theorem intact_noted (event : KeyEvent) : (controller.noted event).Intact trig drawn := by
  refine ⟨intact.opened, intact.ready, ?_, intact.bounded.minutes, intact.bounded.trig⟩
  simp only [noted]
  split
  · exact KeyRate.rate_press_le intact.bounded.rate _
  · exact intact.bounded.rate

theorem handleKey?_eq (event : KeyEvent) :
    controller.handleKey? event = some (controller.handleKey event) := by
  obtain ⟨opened, -, ⟨rate, minutes, -⟩⟩ := intact
  have press : controller.now.2.board.keyRate.press? controller.now.1 =
      some (controller.now.2.board.keyRate.press controller.now.1) := KeyRate.press?_eq rate _
  rw [handleKey?, handleKey]
  cases event.pressed with
  | true =>
    simp only [press, ↓reduceIte, Option.bind_eq_bind, Option.bind_some]
    split
    · refine activate?_eq ?_
      exact opened
    · cases controller.now.2.listener with
      | none => rfl
      | some listener =>
        refine hear?_eq ?_ event listener
        exact minutes
  | false =>
    simp only [Bool.false_eq_true, ↓reduceIte, Option.bind_eq_bind, Option.bind_some]
    split
    · rfl
    · cases controller.now.2.listener with
      | none => rfl
      | some listener =>
        refine hear?_eq ?_ event listener
        exact minutes

theorem intact_handleKey (event : KeyEvent) : (controller.handleKey event).2.Intact trig drawn := by
  have noted := intact_noted intact event
  have step := controller.handleKey_step event
  generalize controller.handleKey event = outcome at step
  cases step with
  | unheard => exact noted
  | activated =>
    have bounded := (controller.noted event).screen.bounded_onActivate noted.bounded
    obtain ⟨_, _, _, _, _, acted⟩ :=
      (controller.noted event).screen.onActivate_frame (controller.noted event).board
    rw [acted] at bounded ⊢
    refine intact_react ?_ _
    exact ⟨noted.opened, noted.ready, bounded⟩
  | heard listener =>
    have opened := Screen.opened_onKey noted.opened listener event (controller.noted event).board
    have ready := Screen.ready_onKey noted.ready listener event (controller.noted event).board
    have bounded := (controller.noted event).screen.bounded_onKey noted.bounded listener event
    obtain ⟨_, _, _, _, acted⟩ :=
      (controller.noted event).screen.onKey_frame (controller.noted event).board listener event
    rw [acted] at bounded ⊢
    refine intact_react ?_ _
    exact ⟨opened, ready, bounded⟩

theorem intact_turned (clockwise : Bool) :
    Intact trig drawn
      { controller with
        screen := (controller.screen.onRotate clockwise controller.board).2.1
        board := (controller.screen.onRotate clockwise controller.board).2.2 } := by
  refine ⟨Screen.opened_onRotate intact.opened clockwise _, ?_,
    controller.screen.bounded_onRotate intact.bounded clockwise⟩
  obtain ⟨_, _, _, _, turned⟩ := controller.screen.onRotate_frame controller.board clockwise
  rw [turned]
  exact Screen.ready_onRotate intact.ready clockwise _

theorem intact_turnScreen (clockwise : Bool) (steps : Nat) (reaction : Reaction) :
    (controller.turnScreen clockwise steps reaction).2.Intact trig drawn :=
  turnScreen_induct (motive := fun _ controller => controller.Intact trig drawn)
    (fun _ _ before => intact_turned before clockwise) steps intact

theorem turnScreen?_eq (clockwise : Bool) (steps : Nat) (reaction : Reaction) :
    controller.turnScreen? clockwise steps reaction =
      some (controller.turnScreen clockwise steps reaction) := by
  induction steps generalizing controller reaction with
  | zero => rfl
  | succ steps ih =>
    simp only [turnScreen?, turnScreen, Screen.onRotate?_eq intact.opened, Option.bind_eq_bind,
      Option.bind_some, ih (intact_turned intact clockwise)]
    split <;> rfl

theorem intact_counted : controller.counted.Intact trig drawn :=
  ⟨intact.opened, intact.ready, intact.bounded.rate, intact.bounded.minutes, intact.bounded.trig⟩

theorem intact_handleRotate (clockwise : Bool) :
    (controller.handleRotate clockwise).2.Intact trig drawn :=
  intact_react (intact_turnScreen (intact_counted intact) _ _ _) _

theorem handleRotate?_eq (clockwise : Bool) :
    controller.handleRotate? clockwise = some (controller.handleRotate clockwise) := by
  have turned := turnScreen?_eq (intact_counted intact) clockwise
    (controller.acceleration.steps controller.now.1).1 .pass
  rw [counted] at turned
  simp only [handleRotate?, handleRotate, turned, react?_eq, Option.bind_eq_bind,
    Option.bind_some]

theorem poll?_eq : controller.poll? = some controller.poll := by
  have decayed : controller.now.2.board.keyRate.decay? controller.now.1 =
      some (controller.now.2.board.keyRate.decay controller.now.1) :=
    KeyRate.decay?_eq intact.bounded.rate _
  rw [poll?, decayed]
  rfl

theorem intact_poll : controller.poll.Intact trig drawn :=
  ⟨intact.opened, intact.ready,
    ⟨KeyRate.rate_decay_le intact.bounded.rate _, intact.bounded.minutes, intact.bounded.trig⟩⟩

end

-- ---------------------------------------------------------------------------
-- Runs
-- ---------------------------------------------------------------------------

def frames (calls : List (Moment × HostEvent)) : Nat := calls.countP (·.2 = .tick)

theorem Intact.meet (intact : controller.Intact trig drawn) (moment : Moment) :
    (controller.meet moment).Intact trig drawn :=
  ⟨intact.opened, intact.ready, intact.bounded.rate, intact.bounded.minutes, intact.bounded.trig⟩

theorem intact_step (intact : controller.Intact trig drawn) (moment : Moment)
    (event : HostEvent) :
    (controller.step moment event).2.Intact trig (drawn + frames [(moment, event)]) := by
  have met := intact.meet moment
  cases event with
  | tick => exact intact_tick met
  | key event => exact intact_handleKey met event
  | rotate clockwise => exact intact_handleRotate met clockwise
  | poll => exact intact_poll met
  | lockLeds leds =>
    exact ⟨met.opened, met.ready, met.bounded.rate, met.bounded.minutes, met.bounded.trig⟩

theorem step?_eq (intact : controller.Intact trig drawn) {moment : Moment} {event : HostEvent}
    (inView : ∀ n ≤ drawn + frames [(moment, event)], (CubeSpin.after n).angles.InView trig) :
    controller.step? moment event = some (controller.step moment event) := by
  have met := intact.meet moment
  cases event with
  | tick => simp [step?, step, handle?, handle, tick?_eq met inView]
  | key event => simp [step?, step, handle?, handle, handleKey?_eq met]
  | rotate clockwise => simp [step?, step, handle?, handle, handleRotate?_eq met]
  | poll => simp [step?, step, handle?, handle, poll?_eq met]
  | lockLeds leds => rfl

theorem frames_cons (call : Moment × HostEvent) (calls : List (Moment × HostEvent)) :
    frames (call :: calls) = frames [call] + frames calls := by
  simp [frames, List.countP_cons, Nat.add_comm]

theorem intact_run (intact : controller.Intact trig drawn) (calls : List (Moment × HostEvent)) :
    (controller.run calls).2.Intact trig (drawn + frames calls) := by
  induction calls generalizing drawn controller with
  | nil => exact intact
  | cons call calls ih =>
    rw [frames_cons, ← Nat.add_assoc]
    exact ih (intact_step intact call.1 call.2)

theorem run?_eq (intact : controller.Intact trig drawn) {calls : List (Moment × HostEvent)}
    (inView : ∀ n ≤ drawn + frames calls, (CubeSpin.after n).angles.InView trig) :
    controller.run? calls = some (controller.run calls) := by
  induction calls generalizing drawn controller with
  | nil => rfl
  | cons call calls ih =>
    rw [frames_cons, ← Nat.add_assoc] at inView
    have first := step?_eq intact fun n le => inView n (Nat.le_add_right_of_le le)
    have rest := ih (intact_step intact call.1 call.2) inView
    simp [run?, run, first, rest]

/-- From the start, whatever the store holds, no check of any call fails, as long as
the trigonometry keeps the cube's corners on the screen in the frames that can have come.
In particular a dashboard whose stars are not placed yet waits for its first frame. -/
theorem run_checked (moment : Moment) (store : FlatStore) {trig : Trigonometry}
    (calls : List (Moment × HostEvent))
    (inView : ∀ n ≤ frames calls, (CubeSpin.after n).angles.InView trig) :
    (start? moment store trig).bind (run? calls) = some ((start moment store trig).run calls) ∧
      ∀ dashboard field,
        ((start moment store trig).run calls).2.screen = .dashboard dashboard →
        dashboard.art = .space field →
        ((start moment store trig).run calls).2.board.firstFrame = true ∨
          ∀ star ∈ field.stars, star.edge ≠ 0 := by
  have started := intact_start moment store trig
  have ran := intact_run started calls
  rw [Nat.zero_add] at ran
  constructor
  · rw [start?_eq, Option.bind_some]
    exact run?_eq started (by rwa [Nat.zero_add])
  · intro dashboard field shown space
    have ready := ran.ready
    simp only [shown, Screen.Ready, space, ArtState.Ready] at ready
    cases first : ((start moment store trig).run calls).2.board.firstFrame with
    | true => exact .inl rfl
    | false => exact .inr fun star found => Nat.ne_of_gt (ready.placed first star found).edge_pos

def cubeStored : FlatStore where
  memory :=
    .putAll (Record.image { Settings.factory with homeArt := .cube }) ⟨.replicate 65536 0xFF⟩

/-- Two frames with the cube; then the function key is held, the encoder turned, and
the stars have their first frame. -/
def cubeCalls : List (Moment × HostEvent) :=
  calmly [(0, .tick), (50, .tick), (60, .key ⟨0, .function, true⟩), (70, .rotate true),
    (100, .tick)]

theorem run_checked_cube :
    (∀ n ≤ frames cubeCalls, (CubeSpin.after n).angles.InView .fast) ∧
      (start? (.still 0 false) cubeStored .fast).bind (run? cubeCalls) =
        some ((start (.still 0 false) cubeStored).run cubeCalls) := by
  have count : frames cubeCalls = 3 := rfl
  have inView : ∀ n ≤ frames cubeCalls, (CubeSpin.after n).angles.InView .fast := by
    rw [count]
    decide +kernel
  exact ⟨inView, (run_checked (.still 0 false) cubeStored cubeCalls inView).1⟩

end KnobPanel.Controller
