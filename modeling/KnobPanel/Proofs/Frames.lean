import KnobPanel.Proofs.DashboardDraws
import KnobPanel.Proofs.Ticks

/-!
# What an input may change

Frames, drawing and inputs of every screen, and the ticks of the controller:
each leaves the board as it was except for the parts that are named. A screen
keeps its place; only a route leads to another one, and with it come its listener
and its return.
-/

namespace KnobPanel

-- ---------------------------------------------------------------------------
-- Screens
-- ---------------------------------------------------------------------------

theorem Dashboard.draw_frame (dashboard : Dashboard) (board : Board) :
    ∃ display sensor, (dashboard.draw board).2 = { board with display, sensor } := by
  obtain ⟨ops, sensor, -, drawn⟩ := dashboard.exists_draw_eq board
  exact ⟨_, sensor, drawn⟩

theorem Dashboard.art_draw (dashboard : Dashboard) (board : Board) :
    (dashboard.draw board).1.art = (dashboard.art.draw board.trig board.firstFrame).2 := by
  cases first : board.firstFrame with
  | true => rw [draw_first _ first]
  | false => rw [draw_eq _ first]

theorem PomodoroScreen.leave_frame (board : Board) :
    ∃ display clock pomodoro, leave board = { board with display, clock, pomodoro } := by
  unfold leave
  simp only
  split <;> exact ⟨_, _, _, rfl⟩

namespace Screen

def place : Screen → Route
  | dashboard _ => .dashboard
  | menu kind _ => .menu kind
  | slider kind => .slider kind
  | pomodoro => .pomodoro
  | help => .help

variable (screen : Screen) (board : Board)

@[simp] theorem place_draw : (screen.draw board).2.1.place = screen.place := by
  cases screen <;> rfl

@[simp] theorem place_onRotate (clockwise : Bool) :
    (screen.onRotate clockwise board).2.1.place = screen.place := by
  cases screen <;> rfl

@[simp] theorem place_onKey (listener : Listener) (event : KeyEvent) :
    (screen.onKey listener event board).2.1.place = screen.place := by
  cases listener <;> cases screen <;> rfl

theorem draw_frame :
    ∃ display sensor clock pomodoro,
      (screen.draw board).2.2 = { board with display, sensor, clock, pomodoro } := by
  cases screen with
  | dashboard state =>
    obtain ⟨display, sensor, drawn⟩ := state.draw_frame board
    exact ⟨display, sensor, board.clock, board.pomodoro, drawn⟩
  | help =>
    simp only [draw]
    split <;> exact ⟨_, _, _, _, rfl⟩
  | _ => exact ⟨_, _, _, _, rfl⟩

theorem onActivate_frame :
    ∃ display store clock settings pomodoro,
      (screen.onActivate board).2 = { board with display, store, clock, settings, pomodoro } := by
  cases screen with
  | menu kind state =>
    cases kind with
    | oled =>
      simp only [onActivate, MenuKind.onActivate]
      split <;> exact ⟨_, _, _, _, _, rfl⟩
    | rgbAutoOff | oledAutoOff | sideAutoOff =>
      simp only [onActivate, MenuKind.onActivate, MenuKind.chooseTier]
      split <;> exact ⟨_, _, _, _, _, rfl⟩
    | artwork =>
      simp only [onActivate, MenuKind.onActivate, MenuKind.chooseArt]
      split <;> exact ⟨_, _, _, _, _, rfl⟩
    | _ => exact ⟨_, _, _, _, _, rfl⟩
  | pomodoro =>
    obtain ⟨display, clock, pomodoro, left⟩ := PomodoroScreen.leave_frame board
    exact ⟨display, board.store, clock, board.settings, pomodoro, left⟩
  | _ => exact ⟨_, _, _, _, _, rfl⟩

theorem onRotate_frame (clockwise : Bool) :
    ∃ display channel settings pomodoro,
      (screen.onRotate clockwise board).2.2 =
        { board with display, channel, settings, pomodoro } := by
  cases screen with
  | dashboard state =>
    simp only [onRotate, Dashboard.onRotate]
    split <;> exact ⟨_, _, _, _, rfl⟩
  | menu kind state =>
    simp only [onRotate, MenuKind.onRotate]
    split
    · exact ⟨_, _, _, _, rfl⟩
    · cases kind with
      | rgbEffect | sideEffect =>
        simp only [MenuKind.preview]
        split <;> exact ⟨_, _, _, _, rfl⟩
      | _ => exact ⟨_, _, _, _, rfl⟩
  | slider kind =>
    simp only [onRotate, SliderKind.onRotate]
    split <;> exact ⟨_, _, _, _, rfl⟩
  | _ => exact ⟨_, _, _, _, rfl⟩

theorem onKey_frame (listener : Listener) (event : KeyEvent) :
    ∃ display clock pomodoro fnHeld,
      (screen.onKey listener event board).2.2 = { board with display, clock, pomodoro, fnHeld } := by
  cases listener with
  | dashboard =>
    cases screen with
    | dashboard state =>
      simp only [onKey, Dashboard.onKey]
      split <;> split <;> exact ⟨_, _, _, _, rfl⟩
    | _ => exact ⟨_, _, _, _, rfl⟩
  | pomodoro =>
    simp only [onKey, PomodoroScreen.onKey]
    split
    · exact ⟨_, _, _, _, rfl⟩
    · split
      · obtain ⟨display, clock, pomodoro, left⟩ := PomodoroScreen.leave_frame board
        exact ⟨display, clock, pomodoro, board.fnHeld, left⟩
      · split <;> exact ⟨_, _, _, _, rfl⟩

section
variable {screen board}

theorem pomodoro_draw (other : screen.place ≠ .pomodoro) :
    (screen.draw board).2.2.pomodoro = board.pomodoro := by
  cases screen with
  | dashboard state =>
    obtain ⟨display, sensor, drawn⟩ := state.draw_frame board
    simp only [draw, drawn]
  | help =>
    simp only [draw]
    split <;> rfl
  | pomodoro => exact absurd rfl other
  | _ => rfl

theorem pomodoro_onRotate (other : screen.place ≠ .pomodoro) (clockwise : Bool) :
    (screen.onRotate clockwise board).2.2.pomodoro = board.pomodoro := by
  cases screen with
  | dashboard state =>
    simp only [onRotate, Dashboard.onRotate]
    split <;> rfl
  | menu kind state =>
    simp only [onRotate, MenuKind.onRotate]
    split
    · rfl
    · cases kind with
      | rgbEffect | sideEffect =>
        simp only [MenuKind.preview]
        split <;> rfl
      | _ => rfl
  | slider kind =>
    simp only [onRotate, SliderKind.onRotate]
    split <;> rfl
  | pomodoro => exact absurd rfl other
  | help => rfl

theorem pomodoro_onActivate (other : screen.place ≠ .pomodoro) :
    (screen.onActivate board).2.pomodoro = board.pomodoro := by
  cases screen with
  | menu kind state =>
    cases kind with
    | oled =>
      simp only [onActivate, MenuKind.onActivate]
      split <;> rfl
    | rgbAutoOff | oledAutoOff | sideAutoOff =>
      simp only [onActivate, MenuKind.onActivate, MenuKind.chooseTier]
      split <;> rfl
    | artwork =>
      simp only [onActivate, MenuKind.onActivate, MenuKind.chooseArt]
      split
      · rfl
      · simp only [Board.saveSettings]
    | _ => rfl
  | pomodoro => exact absurd rfl other
  | _ => rfl

theorem pomodoro_onKey_dashboard (event : KeyEvent) :
    (screen.onKey .dashboard event board).2.2.pomodoro = board.pomodoro := by
  cases screen with
  | dashboard state =>
    simp only [onKey, Dashboard.onKey]
    split <;> split <;> rfl
  | _ => rfl

end

end Screen

-- ---------------------------------------------------------------------------
-- Ticks
-- ---------------------------------------------------------------------------

theorem Board.autoOff_frame (now : Millis) (board : Board) :
    ∃ display channel rgbOff sideOff,
      (board.autoOff now).2 =
        { board with display, channel, idle := { board.idle with rgbOff, sideOff } } := by
  simp only [autoOff, AutoOff.run]
  split
  · exact ⟨_, _, _, _, rfl⟩
  · split
    · exact ⟨_, _, _, _, rfl⟩
    · split <;> exact ⟨_, _, _, _, rfl⟩

namespace Controller

variable (controller : Controller)

@[simp] theorem place_go (route : Route) : (controller.go route).screen.place = route := by
  cases route <;> rfl

theorem awake_frame :
    ∃ stagedLed display channel clock rgbOff sideOff,
      controller.awake =
        { controller with
          stagedLed
          board :=
            { controller.board with
              display, channel, clock, idle := { controller.board.idle with rgbOff, sideOff } } } := by
  obtain ⟨_, _, _, _, off⟩ := controller.now.2.board.autoOff_frame controller.now.1
  obtain ⟨_, _, _, _, _, woken⟩ := (controller.now.2.autoOff controller.now.1).2.notifyLed_frame
  rw [awake, woken]
  simp only [autoOff, off]
  exact ⟨_, _, _, _, _, _, rfl⟩

theorem drawScreen_frame :
    ∃ screen display sensor clock pomodoro firstFrame,
      screen.place = controller.screen.place ∧
      controller.drawScreen =
        { controller with
          screen
          board := { controller.board with display, sensor, clock, pomodoro, firstFrame } } := by
  obtain ⟨display, sensor, clock, pomodoro, drawn⟩ := controller.screen.draw_frame controller.board
  unfold drawScreen
  simp only [drawn]
  exact ⟨_, _, _, _, _, _, controller.screen.place_draw controller.board, rfl⟩

theorem tick_draw (working : controller.tick.1.returned = false) :
    controller.tick.2 = controller.awake.serveLights.2.drawScreen := by
  unfold tick at working ⊢
  simp only at working ⊢
  split
  case isTrue due =>
    rw [if_pos due] at working
    cases working
  case isFalse => rfl

theorem tick_frame (working : controller.tick.1.returned = false) :
    ∃ screen stagedLed replay display channel sensor clock pomodoro firstFrame rgbOff sideOff,
      screen.place = controller.screen.place ∧
      controller.tick.2 =
        { controller with
          screen, stagedLed, replay
          board :=
            { controller.board with
              display, channel, sensor, clock, pomodoro, firstFrame
              idle := { controller.board.idle with rgbOff, sideOff } } } := by
  obtain ⟨_, _, _, _, _, _, woken⟩ := controller.awake_frame
  obtain ⟨_, _, served⟩ := controller.awake.serveLights_frame
  obtain ⟨_, _, _, _, _, _, kept, drawn⟩ := controller.awake.serveLights.2.drawScreen_frame
  rw [controller.tick_draw working, drawn]
  rw [served, woken] at kept ⊢
  exact ⟨_, _, _, _, _, _, _, _, _, _, _, kept, rfl⟩

theorem tick_go (returned : controller.tick.1.returned = true) :
    controller.board.idle.returnDue controller.now.1 = true ∧
      controller.tick.2 = controller.now.2.go .dashboard := by
  unfold tick at returned ⊢
  simp only at returned ⊢
  split
  case isTrue due => exact ⟨due, rfl⟩
  case isFalse working =>
    rw [if_neg working] at returned
    cases returned

-- ---------------------------------------------------------------------------
-- Inputs
-- ---------------------------------------------------------------------------

/-- What holds before a detent and after every turn of it holds after the
detent. -/
theorem turnScreen_induct {motive : Reaction → Controller → Prop} {clockwise : Bool}
    (turn : ∀ reaction controller, motive reaction controller →
      motive (controller.screen.onRotate clockwise controller.board).1
        { controller with
          screen := (controller.screen.onRotate clockwise controller.board).2.1
          board := (controller.screen.onRotate clockwise controller.board).2.2 })
    (steps : Nat) {reaction : Reaction} {controller : Controller}
    (before : motive reaction controller) :
    motive (controller.turnScreen clockwise steps reaction).1
      (controller.turnScreen clockwise steps reaction).2 := by
  induction steps generalizing reaction controller with
  | zero => exact before
  | succ steps ih =>
    have turned := turn reaction controller before
    unfold turnScreen
    simp only
    split
    · exact turned
    · exact ih turned

theorem turnScreen_frame (clockwise : Bool) (steps : Nat) (reaction : Reaction)
    (controller : Controller) :
    ∃ screen display channel settings pomodoro,
      screen.place = controller.screen.place ∧
      (controller.turnScreen clockwise steps reaction).2 =
        { controller with
          screen, board := { controller.board with display, channel, settings, pomodoro } } := by
  induction steps generalizing reaction controller with
  | zero => exact ⟨_, _, _, _, _, rfl, rfl⟩
  | succ steps ih =>
    obtain ⟨_, _, _, _, acted⟩ := controller.screen.onRotate_frame controller.board clockwise
    have kept := controller.screen.place_onRotate controller.board clockwise
    unfold turnScreen
    simp only [acted]
    split
    · exact ⟨_, _, _, _, _, kept, rfl⟩
    · obtain ⟨_, _, _, _, _, kept', turned⟩ := ih _ _
      rw [turned]
      exact ⟨_, _, _, _, _, kept'.trans kept, rfl⟩

/-- The controller once a detent is counted, before its screen has seen it. -/
def counted : Controller :=
  let time := controller.now
  { time.2 with
    board := { time.2.board with idle := time.2.board.idle.activity time.1 }
    acceleration := (controller.acceleration.steps time.1).2 }

theorem handleRotate_eq (clockwise : Bool) :
    controller.handleRotate clockwise =
      (controller.counted.turnScreen clockwise
          (controller.acceleration.steps controller.now.1).1 .pass).2.react
        (controller.counted.turnScreen clockwise
          (controller.acceleration.steps controller.now.1).1 .pass).1 := rfl

theorem handleRotate_of_one (single : (controller.acceleration.steps controller.now.1).1 = 1)
    (clockwise : Bool) :
    controller.handleRotate clockwise =
      Controller.react (controller.screen.onRotate clockwise controller.counted.board).1
        { controller.counted with
          screen := (controller.screen.onRotate clockwise controller.counted.board).2.1
          board := (controller.screen.onRotate clockwise controller.counted.board).2.2 } := by
  rw [handleRotate_eq, single]
  unfold turnScreen
  simp only
  split <;> rfl

/-- The controller once a key event is counted and staged, before its screen has
seen it. -/
def noted (event : KeyEvent) : Controller :=
  let time := controller.now
  { time.2 with
    board :=
      { time.2.board with
        idle := time.2.board.idle.activity time.1
        keyRate :=
          if event.pressed then time.2.board.keyRate.press time.1 else time.2.board.keyRate }
    stagedLed :=
      if event.key ≠ .activate ∧ event.pressed then event.key.led? else controller.stagedLed }

/-- All that becomes of a key event: it passes unheard, the screen is activated,
or its listener hears the key. -/
inductive KeyStep (event : KeyEvent) (noted : Controller) : Bool × Controller → Prop
  | unheard :
      (event.key = .activate → event.pressed = false) →
      (event.key ≠ .activate → noted.listener = none) → KeyStep event noted (true, noted)
  | activated :
      event.key = .activate → event.pressed = true →
      KeyStep event noted
        ({ noted with board := (noted.screen.onActivate noted.board).2 }.react
          (noted.screen.onActivate noted.board).1)
  | heard (listener : Listener) :
      event.key ≠ .activate → noted.listener = some listener →
      KeyStep event noted
        ({ noted with
            screen := (noted.screen.onKey listener event noted.board).2.1
            board := (noted.screen.onKey listener event noted.board).2.2 }.react
          (noted.screen.onKey listener event noted.board).1)

theorem handleKey_step (event : KeyEvent) :
    KeyStep event (controller.noted event) (controller.handleKey event) := by
  unfold handleKey noted
  by_cases key : event.key = .activate
  · cases pressed : event.pressed with
    | true =>
      simp only [key, ne_eq, not_true_eq_false, false_and, ↓reduceIte]
      exact .activated key pressed
    | false =>
      simp only [key, ne_eq, not_true_eq_false, Bool.false_eq_true, false_and, ↓reduceIte]
      exact .unheard (fun _ => pressed) fun other => absurd key other
  · have unnoticed (released : event.key = .activate) : event.pressed = false := absurd released key
    cases pressed : event.pressed with
    | true =>
      simp only [key, ne_eq, not_false_eq_true, true_and, ↓reduceIte]
      split
      · rename_i deaf
        exact .unheard unnoticed fun _ => deaf
      · rename_i listener heard
        exact .heard listener key heard
    | false =>
      simp only [key, ne_eq, Bool.false_eq_true, and_false, ↓reduceIte]
      split
      · rename_i deaf
        exact .unheard unnoticed fun _ => deaf
      · rename_i listener heard
        exact .heard listener key heard

theorem stagedLed_handleKey (event : KeyEvent) :
    (controller.handleKey event).2.stagedLed =
      if event.key ≠ .activate ∧ event.pressed then event.key.led? else controller.stagedLed := by
  have step := controller.handleKey_step event
  generalize controller.handleKey event = outcome at step
  cases step with
  | unheard => rfl
  | activated => exact stagedLed_react _ _
  | heard => exact stagedLed_react _ _

theorem KeyStep.unique {event : KeyEvent} {noted : Controller} {outcome other : Bool × Controller}
    (h : KeyStep event noted outcome) (h' : KeyStep event noted other) : outcome = other := by
  cases h with
  | unheard released deaf =>
    cases h' with
    | unheard => rfl
    | activated key pressed => cases pressed.symm.trans (released key)
    | heard _ key heard => cases heard.symm.trans (deaf key)
  | activated key pressed =>
    cases h' with
    | unheard released => cases pressed.symm.trans (released key)
    | activated => rfl
    | heard _ other => exact absurd key other
  | heard listener key heard =>
    cases h' with
    | unheard _ deaf => cases heard.symm.trans (deaf key)
    | activated activate => exact absurd activate key
    | heard _ _ heard' =>
      cases heard.symm.trans heard'
      rfl

end Controller

-- ---------------------------------------------------------------------------
-- Listeners and returns
-- ---------------------------------------------------------------------------

namespace Route

def listener? : Route → Option Listener
  | dashboard => some .dashboard
  | pomodoro => some .pomodoro
  | menu _ | slider _ | help => none

def autoReturn? : Route → Option Nat
  | menu kind => if kind.autoReturnSecs = 0 then none else some kind.autoReturnSecs
  | dashboard | slider _ | pomodoro | help => none

end Route

namespace Controller

structure Placed (controller : Controller) : Prop where
  listener : controller.listener = controller.screen.place.listener?
  autoReturn : controller.board.idle.autoReturn = controller.screen.place.autoReturn?

variable {controller : Controller}

theorem placed_go (route : Route) (controller : Controller) : (controller.go route).Placed := by
  cases route <;> exact ⟨rfl, rfl⟩

theorem placed_react (placed : controller.Placed) (reaction : Reaction) :
    (controller.react reaction).2.Placed := by
  unfold react
  cases reaction.route with
  | some route => exact placed_go route _
  | none =>
    simp only
    split <;> exact ⟨placed.listener, placed.autoReturn⟩

theorem placed_tick (placed : controller.Placed) : controller.tick.2.Placed := by
  cases returned : controller.tick.1.returned with
  | true =>
    rw [(controller.tick_go returned).2]
    exact placed_go _ _
  | false =>
    obtain ⟨_, _, _, _, _, _, _, _, _, _, _, kept, ticked⟩ := controller.tick_frame returned
    obtain ⟨listener, autoReturn⟩ := placed
    rw [← kept] at listener autoReturn
    rw [ticked]
    exact ⟨listener, autoReturn⟩

theorem KeyStep.placed {event : KeyEvent} {met : Controller} {outcome : Bool × Controller}
    (step : KeyStep event met outcome) (placed : met.Placed) : outcome.2.Placed := by
  obtain ⟨listening, returning⟩ := placed
  cases step with
  | unheard => exact ⟨listening, returning⟩
  | activated =>
    obtain ⟨_, _, _, _, _, acted⟩ := met.screen.onActivate_frame met.board
    rw [acted]
    refine placed_react ?_ _
    exact ⟨listening, returning⟩
  | heard listener =>
    obtain ⟨_, _, _, _, acted⟩ := met.screen.onKey_frame met.board listener event
    rw [← met.screen.place_onKey met.board listener event] at listening returning
    rw [acted]
    refine placed_react ?_ _
    exact ⟨listening, returning⟩

theorem placed_handleKey (placed : controller.Placed) (event : KeyEvent) :
    (controller.handleKey event).2.Placed := by
  have noted : (controller.noted event).Placed := ⟨placed.listener, placed.autoReturn⟩
  exact (controller.handleKey_step event).placed noted

theorem placed_turnScreen (placed : controller.Placed) (clockwise : Bool) (steps : Nat)
    (reaction : Reaction) : (controller.turnScreen clockwise steps reaction).2.Placed := by
  obtain ⟨_, _, _, _, _, kept, turned⟩ := turnScreen_frame clockwise steps reaction controller
  obtain ⟨listening, returning⟩ := placed
  rw [← kept] at listening returning
  rw [turned]
  exact ⟨listening, returning⟩

theorem placed_handleRotate (placed : controller.Placed) (clockwise : Bool) :
    (controller.handleRotate clockwise).2.Placed := by
  refine placed_react (placed_turnScreen ?_ _ _ _) _
  exact ⟨placed.listener, placed.autoReturn⟩

theorem placed_handle (placed : controller.Placed) (event : HostEvent) :
    (controller.handle event).2.Placed := by
  cases event with
  | tick => exact placed_tick placed
  | key event => exact placed_handleKey placed event
  | rotate clockwise => exact placed_handleRotate placed clockwise
  | poll => exact ⟨placed.listener, placed.autoReturn⟩
  | lockLeds leds => exact ⟨placed.listener, placed.autoReturn⟩

theorem Placed.meet (placed : controller.Placed) (moment : Moment) :
    (controller.meet moment).Placed :=
  ⟨placed.listener, placed.autoReturn⟩

theorem Reachable.placed {controller : Controller} (reachable : Reachable controller) :
    controller.Placed := by
  induction reachable with
  | start => exact placed_go .dashboard _
  | step moment event _ placed => exact placed_handle (placed.meet moment) event

end Controller

end KnobPanel
