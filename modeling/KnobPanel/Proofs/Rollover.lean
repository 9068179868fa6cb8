import KnobPanel.Proofs.ClockShift

/-!
# Runs across a rollover

Two runs get the same calls, one of them on a clock that is ahead by a constant.
Every call keeps the two controllers equal but for the times in them, so the
rollover of either clock goes unnoticed.
-/

namespace KnobPanel.Controller

def ahead (k : Millis) (field : StarField) (timer : Pomodoro) (controller : Controller) :
    Controller :=
  { controller with
    board := controller.board.ahead k timer
    screen := controller.screen.withStars field
    acceleration := controller.acceleration.shift k }

/-- The controller on a clock that is ahead by `k`. Only times differ, and the
places of the stars on a dashboard that has not been drawn. -/
def Shifted (k : Millis) (controller shifted : Controller) : Prop :=
  ∃ field timer,
    controller.board.pomodoro.Shifted k timer ∧ shifted = controller.ahead k field timer

section
variable {k : Millis} {field : StarField} {timer : Pomodoro} {controller : Controller}

@[simp] theorem board_ahead :
    (controller.ahead k field timer).board = controller.board.ahead k timer := rfl

@[simp] theorem screen_ahead :
    (controller.ahead k field timer).screen = controller.screen.withStars field := rfl

@[simp] theorem acceleration_ahead :
    (controller.ahead k field timer).acceleration = controller.acceleration.shift k := rfl

@[simp] theorem stagedLed_ahead :
    (controller.ahead k field timer).stagedLed = controller.stagedLed := rfl

@[simp] theorem replay_ahead : (controller.ahead k field timer).replay = controller.replay := rfl

theorem now_ahead :
    (controller.ahead k field timer).now =
      (controller.now.1 + k, controller.now.2.ahead k field timer) := rfl

end

-- ---------------------------------------------------------------------------
-- Changing screens
-- ---------------------------------------------------------------------------

variable {k : Millis} {field : StarField} {timer : Pomodoro} {controller shifted : Controller}

theorem Shifted.go (h : controller.Shifted k shifted) (route : Route) :
    (controller.go route).Shifted k (shifted.go route) := by
  obtain ⟨field, timer, timers, rfl⟩ := h
  cases route with
  | dashboard =>
    -- the one place where the time of the clock itself is used
    refine ⟨.ofSeed (controller.now.1 + k ||| 1), timer, timers, ?_⟩
    have screen := Screen.withStars_ofArt controller.board.settings.homeArt
      (controller.now.1 ||| 1) (controller.now.1 + k ||| 1)
    simp only [Controller.go, now_ahead]
    refine Eq.trans ?_ (congrArg (fun screen =>
      ((controller.now.2.ahead k field timer).switchTo screen).listen .dashboard) screen)
    rfl
  | menu kind =>
    have saved :
        (if kind.savesOnEntry then (controller.board.ahead k timer).saveSettings
          else controller.board.ahead k timer) =
          (if kind.savesOnEntry then controller.board.saveSettings
            else controller.board).ahead k timer := by
      split
      · exact Board.saveSettings_ahead
      · rfl
    have kept : (if kind.savesOnEntry then controller.board.saveSettings
        else controller.board).pomodoro = controller.board.pomodoro := by
      split
      · unfold Board.saveSettings
        rfl
      · rfl
    rw [← kept] at timers
    simp only [Controller.go, board_ahead, saved]
    generalize (if kind.savesOnEntry then controller.board.saveSettings
      else controller.board) = board at timers ⊢
    exact ⟨field, timer, timers, rfl⟩
  | _ => exact ⟨field, timer, timers, rfl⟩

theorem Shifted.react (h : controller.Shifted k shifted) (reaction : Reaction) :
    (controller.react reaction).2.Shifted k (shifted.react reaction).2 := by
  obtain ⟨propagate, route, redraw⟩ := reaction
  have redrawn : Shifted k
      (if redraw then { controller with board := { controller.board with firstFrame := true } }
        else controller)
      (if redraw then { shifted with board := { shifted.board with firstFrame := true } }
        else shifted) := by
    obtain ⟨field, timer, timers, rfl⟩ := h
    cases redraw <;> exact ⟨field, timer, timers, rfl⟩
  cases route with
  | none => exact redrawn
  | some route => exact redrawn.go route

theorem shifted_start (moment : Moment) (store : FlatStore) :
    (start moment store).Shifted k (start (moment.shift k) store) := by
  refine Shifted.go ⟨.ofSeed (moment.clock 0 + k), {}, .refl_of_idle rfl, ?_⟩ .dashboard
  simp only [ahead]
  rw [← Screen.withStars_ofArt]
  rfl

-- ---------------------------------------------------------------------------
-- Ticks
-- ---------------------------------------------------------------------------

theorem notifyLed_ahead :
    (controller.ahead k field timer).notifyLed = controller.notifyLed.ahead k field timer := by
  cases staged : controller.stagedLed with
  | none => simp only [notifyLed, stagedLed_ahead, staged]
  | some led =>
    have powered :
        (if (controller.ahead k field timer).board.displayOn then
            (controller.ahead k field timer).board
          else (controller.ahead k field timer).board.draw [.power true]) =
          (if controller.board.displayOn then controller.board
            else controller.board.draw [.power true]).ahead k timer := by
      rw [board_ahead, Board.displayOn_ahead]
      split <;> rfl
    simp only [notifyLed, stagedLed_ahead, staged, powered]
    generalize (if controller.board.displayOn then controller.board
      else controller.board.draw [.power true]) = board
    rw [Board.idle_ahead, IdleTimers.rgbOff_shift, IdleTimers.sideOff_shift]
    split
    · rfl
    · split <;> rfl

theorem autoOff_ahead (now : Millis) :
    (controller.ahead k field timer).autoOff (now + k) =
      ((controller.autoOff now).1, (controller.autoOff now).2.ahead k field timer) := by
  simp only [autoOff, board_ahead, Board.autoOff_ahead]
  rfl

theorem serveLights_ahead :
    (controller.ahead k field timer).serveLights =
      (controller.serveLights.1, controller.serveLights.2.ahead k field timer) := by
  simp only [serveLights, replayNext]
  rw [replay_ahead, board_ahead, Board.settings_ahead, Board.channel_ahead]
  split
  · rfl
  · split
    · rfl
    · split <;> rfl

theorem Shifted.drawScreen (h : controller.Shifted k shifted)
    (starless : controller.screen.showsStars = false) :
    controller.drawScreen.Shifted k shifted.drawScreen := by
  obtain ⟨field, timer, timers, rfl⟩ := h
  obtain ⟨later, moved, drawn⟩ := controller.screen.draw_ahead timers
  have still := (Screen.showsStars_draw controller.board).trans starless
  refine ⟨field, later, moved, ?_⟩
  simp only [Controller.drawScreen, ahead, Screen.withStars_of_not_showsStars starless, drawn,
    Screen.withStars_of_not_showsStars still]
  rfl

theorem Shifted.tick (h : controller.Shifted k shifted)
    (starless : controller.screen.showsStars = false) :
    controller.tick.2.Shifted k shifted.tick.2 := by
  obtain ⟨field, timer, timers, rfl⟩ := h
  have due := controller.now.2.board.idle.returnDue_shift k controller.now.1
  simp only [Controller.tick, now_ahead, board_ahead, Board.idle_ahead, due, autoOff_ahead,
    notifyLed_ahead, serveLights_ahead]
  split
  · have gone : controller.now.2.Shifted k (controller.now.2.ahead k field timer) :=
      ⟨field, timer, timers, rfl⟩
    exact gone.go .dashboard
  · obtain ⟨_, _, _, _, _, _, woken⟩ := controller.awake_frame
    obtain ⟨_, _, served⟩ := controller.awake.serveLights_frame
    have lit : Shifted k controller.awake.serveLights.2
        (controller.awake.serveLights.2.ahead k field timer) := by
      refine ⟨field, timer, ?_, rfl⟩
      rw [served, woken]
      exact timers
    refine lit.drawScreen ?_
    rw [served, woken]
    exact starless

-- ---------------------------------------------------------------------------
-- Inputs
-- ---------------------------------------------------------------------------

theorem Shifted.noted (h : controller.Shifted k shifted) (event : KeyEvent) :
    (controller.noted event).Shifted k (shifted.noted event) := by
  obtain ⟨field, timer, timers, rfl⟩ := h
  have pressed := KeyRate.press_shift k controller.now.1 controller.now.2.board.keyRate
  refine ⟨field, timer, timers, ?_⟩
  simp only [Controller.noted, now_ahead, board_ahead, stagedLed_ahead]
  cases event.pressed with
  | true =>
    simp only [↓reduceIte, Board.keyRate_ahead, pressed]
    rfl
  | false => rfl

theorem KeyStep.ahead {event : KeyEvent} {met noted : Controller} {outcome : Bool × Controller}
    (step : KeyStep event met outcome) (h : met.Shifted k noted) :
    ∃ other, KeyStep event noted (outcome.1, other) ∧ outcome.2.Shifted k other := by
  obtain ⟨field, timer, timers, rfl⟩ := h
  cases step with
  | unheard released deaf => exact ⟨_, .unheard released deaf, field, timer, timers, rfl⟩
  | activated key pressed =>
    obtain ⟨later, moved, acted⟩ := met.screen.onActivate_ahead field timers
    have step : KeyStep event (met.ahead k field timer) _ := .activated key pressed
    simp only [screen_ahead, board_ahead, acted] at step
    have shifted : Shifted k { met with board := (met.screen.onActivate met.board).2 }
        { met.ahead k field timer with
          board := (met.screen.onActivate met.board).2.ahead k later } :=
      ⟨field, later, moved, rfl⟩
    exact ⟨_, step, shifted.react _⟩
  | heard listener key heard =>
    obtain ⟨later, moved, acted⟩ := met.screen.onKey_ahead field timers listener event
    have step : KeyStep event (met.ahead k field timer) _ := .heard listener key heard
    simp only [screen_ahead, board_ahead, acted] at step
    have shifted : Shifted k
        { met with
          screen := (met.screen.onKey listener event met.board).2.1
          board := (met.screen.onKey listener event met.board).2.2 }
        { met.ahead k field timer with
          screen := (met.screen.onKey listener event met.board).2.1.withStars field
          board := (met.screen.onKey listener event met.board).2.2.ahead k later } :=
      ⟨field, later, moved, rfl⟩
    exact ⟨_, step, shifted.react _⟩

theorem Shifted.handleKey (h : controller.Shifted k shifted) (event : KeyEvent) :
    (shifted.handleKey event).1 = (controller.handleKey event).1 ∧
      (controller.handleKey event).2.Shifted k (shifted.handleKey event).2 := by
  obtain ⟨other, step, moved⟩ := (controller.handleKey_step event).ahead (h.noted event)
  rw [(shifted.handleKey_step event).unique step]
  exact ⟨rfl, moved⟩

theorem Shifted.turnScreen (h : controller.Shifted k shifted) (clockwise : Bool) (steps : Nat)
    (reaction : Reaction) :
    (shifted.turnScreen clockwise steps reaction).1 =
        (controller.turnScreen clockwise steps reaction).1 ∧
      (controller.turnScreen clockwise steps reaction).2.Shifted k
        (shifted.turnScreen clockwise steps reaction).2 := by
  induction steps generalizing reaction controller shifted with
  | zero => exact ⟨rfl, h⟩
  | succ steps ih =>
    obtain ⟨field, timer, timers, rfl⟩ := h
    obtain ⟨later, moved, turned⟩ := controller.screen.onRotate_ahead field timers clockwise
    have met : Shifted k
        { controller with
          screen := (controller.screen.onRotate clockwise controller.board).2.1
          board := (controller.screen.onRotate clockwise controller.board).2.2 }
        { controller.ahead k field timer with
          screen := (controller.screen.onRotate clockwise controller.board).2.1.withStars field
          board := (controller.screen.onRotate clockwise controller.board).2.2.ahead k later } :=
      ⟨field, later, moved, rfl⟩
    unfold Controller.turnScreen
    simp only [screen_ahead, board_ahead, turned]
    cases routed : (controller.screen.onRotate clockwise controller.board).1.route.isSome with
    | true => exact ⟨rfl, met⟩
    | false => exact ih met _

theorem Shifted.handleRotate (h : controller.Shifted k shifted) (clockwise : Bool) :
    (shifted.handleRotate clockwise).1 = (controller.handleRotate clockwise).1 ∧
      (controller.handleRotate clockwise).2.Shifted k (shifted.handleRotate clockwise).2 := by
  obtain ⟨field, timer, timers, rfl⟩ := h
  have steps := controller.acceleration.steps_shift k controller.now.1
  have same : ((controller.ahead k field timer).acceleration.steps
      (controller.ahead k field timer).now.1).1 =
        (controller.acceleration.steps controller.now.1).1 := by
    rw [now_ahead, acceleration_ahead, steps]
  have counted : controller.counted.Shifted k (controller.ahead k field timer).counted := by
    refine ⟨field, timer, timers, ?_⟩
    simp only [Controller.counted, now_ahead, acceleration_ahead, steps]
    rfl
  rw [Controller.handleRotate_eq, Controller.handleRotate_eq, same]
  obtain ⟨reaction, turned⟩ :=
    counted.turnScreen clockwise (controller.acceleration.steps controller.now.1).1 .pass
  rw [reaction]
  exact ⟨rfl, turned.react _⟩

theorem Shifted.poll (h : controller.Shifted k shifted) :
    controller.poll.Shifted k shifted.poll := by
  obtain ⟨field, timer, timers, rfl⟩ := h
  have decayed := KeyRate.decay_shift k controller.now.1 controller.now.2.board.keyRate
  refine ⟨field, timer, timers, ?_⟩
  simp only [Controller.poll, now_ahead, board_ahead, Board.keyRate_ahead, decayed]
  rfl

theorem Shifted.meet (h : controller.Shifted k shifted) (moment : Moment) :
    (controller.meet moment).Shifted k (shifted.meet (moment.shift k)) := by
  obtain ⟨field, timer, timers, rfl⟩ := h
  exact ⟨field, timer, timers, rfl⟩

theorem Shifted.step (h : controller.Shifted k shifted) (moment : Moment) (event : HostEvent)
    (unseen : event = .tick → controller.screen.showsStars = false) :
    (shifted.step (moment.shift k) event).1 = (controller.step moment event).1 ∧
      (controller.step moment event).2.Shifted k (shifted.step (moment.shift k) event).2 := by
  have met := h.meet moment
  cases event with
  | tick => exact ⟨rfl, met.tick (unseen rfl)⟩
  | key event =>
    obtain ⟨answer, handled⟩ := met.handleKey event
    exact ⟨congrArg some answer, handled⟩
  | rotate clockwise =>
    obtain ⟨answer, handled⟩ := met.handleRotate clockwise
    exact ⟨congrArg some answer, handled⟩
  | poll => exact ⟨rfl, met.poll⟩
  | lockLeds leds =>
    obtain ⟨field, timer, timers, rfl⟩ := h
    exact ⟨rfl, field, timer, timers, rfl⟩

-- ---------------------------------------------------------------------------
-- Runs
-- ---------------------------------------------------------------------------

def callsAhead (k : Millis) (calls : List (Moment × HostEvent)) : List (Moment × HostEvent) :=
  calls.map fun call => (call.1.shift k, call.2)

/-- No tick of the run meets the star field. -/
def Starless (calls : List (Moment × HostEvent)) (controller : Controller) : Prop :=
  ∀ n (h : n < calls.length), calls[n].2 = .tick →
    (controller.run (calls.take n)).2.screen.showsStars = false

instance (calls : List (Moment × HostEvent)) (controller : Controller) :
    Decidable (controller.Starless calls) :=
  inferInstanceAs (Decidable (∀ n, (_ : n < calls.length) → _))

theorem Starless.tail {call : Moment × HostEvent} {calls : List (Moment × HostEvent)}
    (starless : controller.Starless (call :: calls)) :
    (controller.step call.1 call.2).2.Starless calls :=
  fun n h ticks => starless (n + 1) (Nat.succ_lt_succ h) ticks

theorem Shifted.run (h : controller.Shifted k shifted) {calls : List (Moment × HostEvent)}
    (starless : controller.Starless calls) (n : Nat) :
    (shifted.run ((callsAhead k calls).take n)).1 = (controller.run (calls.take n)).1 ∧
      (controller.run (calls.take n)).2.Shifted k
        (shifted.run ((callsAhead k calls).take n)).2 := by
  induction calls generalizing n controller shifted with
  | nil =>
    simp only [callsAhead, List.map_nil, List.take_nil]
    exact ⟨rfl, h⟩
  | cons call calls ih =>
    cases n with
    | zero => exact ⟨rfl, h⟩
    | succ n =>
      obtain ⟨answer, stepped⟩ :=
        h.step call.1 call.2 fun ticks => starless 0 (Nat.zero_lt_succ _) ticks
      obtain ⟨answers, ran⟩ := ih stepped starless.tail n
      exact ⟨List.cons_eq_cons.mpr ⟨answer, answers⟩, ran⟩

/-- Shifting every reading of the clock by one constant shifts the times in the
state, call after call, and changes nothing else. -/
theorem run_callsAhead (k : Millis) (moment : Moment) (store : FlatStore)
    (calls : List (Moment × HostEvent)) (starless : (start moment store).Starless calls)
    (n : Nat) :
    ((start (moment.shift k) store).run ((callsAhead k calls).take n)).1 =
        ((start moment store).run (calls.take n)).1 ∧
      ((start moment store).run (calls.take n)).2.Shifted k
        ((start (moment.shift k) store).run ((callsAhead k calls).take n)).2 :=
  (shifted_start moment store).run starless n

/-- A work period is opened, started and shown within two seconds. -/
def workStarted : List (Moment × HostEvent) :=
  let press : Millis × HostEvent := (200, .key ⟨0, .activate, true⟩)
  calmly ([(0, .tick), press] ++ .replicate 5 (400, .rotate true) ++
    [press, (600, .tick), (1200, .key ⟨spaceKeycode, ⟨5, 2⟩, true⟩), (1400, .tick)])

theorem run_callsAhead_workStarted :
    (start (.still 0 false) erased).Starless workStarted ∧
      ∀ n, ((start ((Moment.still 0 false).shift 0xFFFFFC18) erased).run
            ((callsAhead 0xFFFFFC18 workStarted).take n)).1 =
          ((start (.still 0 false) erased).run (workStarted.take n)).1 ∧
        ((start (.still 0 false) erased).run (workStarted.take n)).2.Shifted 0xFFFFFC18
          ((start ((Moment.still 0 false).shift 0xFFFFFC18) erased).run
            ((callsAhead 0xFFFFFC18 workStarted).take n)).2 := by
  have starless : (start (.still 0 false) erased).Starless workStarted := by decide +kernel
  exact ⟨starless, fun n =>
    run_callsAhead 0xFFFFFC18 (.still 0 false) erased workStarted starless n⟩

end KnobPanel.Controller
