import KnobPanel.Proofs.Frames

/-!
# Waking the display

It is not the press of a key that wakes the display but the LED that is staged
when the next tick comes. A key that has none unstages what was there, and the
activation key leaves it as it is; after these the display may well stay dark.
-/

namespace KnobPanel

-- ---------------------------------------------------------------------------
-- Right after an activity
-- ---------------------------------------------------------------------------

theorem AutoOffTier.not_expired_zero (tier : AutoOffTier) : tier.expired 0 = false := by
  simp only [expired, Nat.not_lt_zero, decide_false, Bool.and_false]

section
variable {now : Millis} {idle : IdleTimers}

theorem IdleTimers.idleSecs_active (active : idle.lastActivity = now) : idle.idleSecs now = 0 := by
  rw [idleSecs, idleMs, Clock.elapsed, active, UInt32.sub_self]
  rfl

theorem IdleTimers.not_returnDue (active : idle.lastActivity = now) :
    idle.returnDue now = false := by
  simp only [returnDue, idleSecs_active active, Nat.not_lt_zero, decide_false]
  cases idle.autoReturn <;> rfl

theorem Board.autoOff_active {board : Board} (active : board.idle.lastActivity = now) :
    board.autoOff now = (none, board) := by
  simp only [autoOff, AutoOff.run, AutoOff.tryOff, IdleTimers.idleSecs_active active,
    AutoOffTier.not_expired_zero, Bool.and_false]
  rfl

end

namespace Controller

/-- The clock stands still all through the call, and the last activity was at its
reading. -/
structure Attended (time : Millis) (controller : Controller) : Prop where
  clock : controller.board.clock.readings = fun _ => time
  activity : controller.board.idle.lastActivity = time

variable {controller : Controller} {time : Millis}

theorem now_eq (still : controller.board.clock.readings = fun _ => time) :
    controller.now.1 = time :=
  congrFun still _

theorem tick_attended (attended : controller.Attended time) :
    controller.tick.1.returned = false ∧ controller.awake = controller.now.2.notifyLed := by
  have active : controller.now.2.board.idle.lastActivity = controller.now.1 :=
    attended.activity.trans (now_eq attended.clock).symm
  constructor
  · simp only [tick, IdleTimers.not_returnDue active]
    rfl
  · simp only [awake, autoOff, Board.autoOff_active active]
    rfl

theorem displayOn_tick_attended (attended : controller.Attended time) :
    controller.tick.2.board.displayOn =
      (controller.board.displayOn || controller.stagedLed.isSome) := by
  obtain ⟨working, awake⟩ := tick_attended attended
  obtain ⟨-, -, lights, -, -⟩ := tick_working working
  rw [lights_serveLights, awake] at lights
  refine (congrArg Lights.displayOn lights).trans ?_
  cases staged : controller.stagedLed with
  | none =>
    have asleep : controller.now.2.notifyLed = controller.now.2 := notifyLed_of_none staged
    rw [asleep, Option.isSome_none, Bool.or_false]
    rfl
  | some led =>
    have met : controller.now.2.stagedLed = some led := staged
    rw [(notifyLed_ok met).1, Option.isSome_some, Bool.or_true]
    rfl

end Controller

-- ---------------------------------------------------------------------------
-- A press on a clock that stands still
-- ---------------------------------------------------------------------------

theorem Screen.readings_onActivate (screen : Screen) (board : Board) :
    (screen.onActivate board).2.clock.readings = board.clock.readings := by
  cases screen with
  | menu kind state =>
    cases kind with
    | oled =>
      simp only [onActivate, MenuKind.onActivate]
      split <;> rfl
    | rgbAutoOff | oledAutoOff | sideAutoOff =>
      simp only [onActivate, MenuKind.onActivate, MenuKind.chooseTier]
      split <;> rfl
    | artwork =>
      simp only [onActivate, MenuKind.onActivate, MenuKind.chooseArt]
      split <;> rfl
    | _ => rfl
  | pomodoro =>
    simp only [onActivate, PomodoroScreen.leave]
    split <;> rfl
  | _ => rfl

theorem Screen.readings_onKey (listener : Listener) (event : KeyEvent) (screen : Screen)
    (board : Board) : (screen.onKey listener event board).2.2.clock.readings = board.clock.readings := by
  cases listener with
  | dashboard =>
    cases screen with
    | dashboard state =>
      simp only [onKey, Dashboard.onKey]
      split <;> split <;> rfl
    | _ => rfl
  | pomodoro =>
    simp only [onKey, PomodoroScreen.onKey, PomodoroScreen.leave]
    split
    · rfl
    · split
      · split <;> rfl
      · split <;> rfl

namespace Controller

variable {controller : Controller} {time : Millis}

theorem attended_go (attended : controller.Attended time) (route : Route) :
    (controller.go route).Attended time := by
  cases route with
  | menu kind =>
    have clock : (controller.go (.menu kind)).board.clock.readings =
        controller.board.clock.readings := by
      simp only [go]
      split <;> rfl
    -- arming the return reads the clock once more
    have armed : (controller.go (.menu kind)).board.idle.lastActivity =
        controller.board.clock.readings controller.board.clock.turn := by
      simp only [go]
      split <;> rfl
    exact ⟨clock.trans attended.clock, armed.trans (congrFun attended.clock _)⟩
  | _ => exact ⟨attended.clock, attended.activity⟩

theorem attended_react (attended : controller.Attended time) (reaction : Reaction) :
    (controller.react reaction).2.Attended time := by
  unfold react
  cases reaction.route with
  | some route =>
    refine attended_go ?_ route
    split <;> exact ⟨attended.clock, attended.activity⟩
  | none =>
    simp only
    split <;> exact ⟨attended.clock, attended.activity⟩

theorem KeyStep.attended {event : KeyEvent} {met : Controller} {outcome : Bool × Controller}
    (step : KeyStep event met outcome) (attended : met.Attended time) :
    outcome.2.Attended time := by
  cases step with
  | unheard => exact attended
  | activated =>
    have clock := met.screen.readings_onActivate met.board
    obtain ⟨_, _, _, _, _, acted⟩ := met.screen.onActivate_frame met.board
    refine attended_react ⟨clock.trans attended.clock, ?_⟩ _
    rw [acted]
    exact attended.activity
  | heard listener =>
    have clock := met.screen.readings_onKey listener event met.board
    obtain ⟨_, _, _, _, acted⟩ := met.screen.onKey_frame met.board listener event
    refine attended_react ⟨clock.trans attended.clock, ?_⟩ _
    rw [acted]
    exact attended.activity

theorem attended_handleKey (still : controller.board.clock.readings = fun _ => time)
    (event : KeyEvent) : (controller.handleKey event).2.Attended time := by
  have noted : (controller.noted event).Attended time := ⟨still, now_eq still⟩
  exact (controller.handleKey_step event).attended noted

theorem attended_handleRotate (still : controller.board.clock.readings = fun _ => time)
    (clockwise : Bool) : (controller.handleRotate clockwise).2.Attended time := by
  have counted : controller.counted.Attended time := ⟨still, now_eq still⟩
  obtain ⟨_, _, _, _, _, -, turned⟩ :=
    turnScreen_frame clockwise (controller.acceleration.steps controller.now.1).1 .pass
      controller.counted
  rw [handleRotate_eq]
  refine attended_react ?_ _
  rw [turned]
  exact ⟨counted.clock, counted.activity⟩

theorem staged_press (keycode : UInt16) (key : Key) (controller : Controller) :
    (controller.handleKey ⟨keycode, key, true⟩).2.stagedLed.isSome = true ↔
      key.led?.isSome = true ∨ key = .activate ∧ controller.stagedLed.isSome = true := by
  rw [stagedLed_handleKey]
  by_cases activate : key = .activate
  case pos =>
    have dark : Key.led? .activate = none := rfl
    simp [activate, dark]
  case neg => simp [activate]

end Controller

def Moment.stopped (time : Millis) (moment : Moment) : Moment :=
  { moment with clock := fun _ => time }

namespace Controller

/-- After a press and a tick at one reading of the clock the display is on if it was
on before, if the key has an LED, or if the activation key found an LED still
staged; whatever the line answers. -/
theorem displayOn_press_tick (press tick : Moment) (time : Millis) (keycode : UInt16) (key : Key)
    (controller : Controller) :
    ((controller.step (press.stopped time) (.key ⟨keycode, key, true⟩)).2.step
        (tick.stopped time) .tick).2.board.displayOn = true ↔
      controller.board.displayOn = true ∨ key.led?.isSome = true ∨
        key = .activate ∧ controller.stagedLed.isSome = true := by
  generalize left : (controller.step (press.stopped time) (.key ⟨keycode, key, true⟩)).2 = pressed
  have attended : pressed.Attended time := left ▸ attended_handleKey rfl _
  obtain ⟨_, lights⟩ :=
    (controller.meet (press.stopped time)).lights_handleKey ⟨keycode, key, true⟩
  have on : pressed.board.displayOn = controller.board.displayOn :=
    left ▸ congrArg Lights.displayOn lights
  have staged : pressed.stagedLed.isSome = true ↔
      key.led?.isSome = true ∨ key = .activate ∧ controller.stagedLed.isSome = true :=
    left ▸ staged_press keycode key (controller.meet (press.stopped time))
  have met : (pressed.meet (tick.stopped time)).Attended time := ⟨rfl, attended.activity⟩
  have lit := displayOn_tick_attended met
  rw [← on, ← staged, ← Bool.or_eq_true]
  exact Bool.eq_iff_iff.mp lit

/-- The display goes off ten seconds after the last key, and has done so. -/
def darkened : Controller :=
  let settings := { Settings.factory with oled := { Settings.factory.oled with autoOff := .secs10 } }
  ((started settings).step (.still 11000 false) .tick).2

/-- Neither the activation key nor a position without an LED wakes it. -/
theorem not_displayOn_darkened :
    Reachable darkened ∧ darkened.board.displayOn = false ∧
      ∀ key ∈ [Key.activate, ⟨0, 16⟩],
        ((darkened.step (.still 11000 false) (.key ⟨0, key, true⟩)).2.step
          (.still 11000 false) .tick).2.board.displayOn = false := by
  refine ⟨(reachable_started _).step _ _, ?_⟩
  decide +kernel

end Controller

end KnobPanel
