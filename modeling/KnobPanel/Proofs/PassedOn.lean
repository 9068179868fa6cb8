import KnobPanel.Proofs.Coherence
import KnobPanel.Proofs.PlainScreens
import KnobPanel.Proofs.SliderBursts

/-!
# What goes on to the host

A key is kept from the host where it does something on the board: the activation
key when it is pressed, and the space that starts the timer. A detent is kept
where the active screen turns by it.
-/

namespace KnobPanel

-- ---------------------------------------------------------------------------
-- Screens
-- ---------------------------------------------------------------------------

theorem Pomodoro.start_eq_true_iff {now : Millis} {timer : Pomodoro} :
    (timer.start now).1 = true ↔ timer.phase = .setTime := by
  unfold start
  split <;> simp_all

theorem Pomodoro.adjust_eq_true_iff {clockwise : Bool} {timer : Pomodoro} :
    (timer.adjust clockwise).1 = true ↔ timer.phase = .setTime := by
  unfold adjust
  split <;> simp_all

namespace Screen

variable {screen : Screen} {board : Board}

theorem propagate_onActivate : (screen.onActivate board).1.propagate = false := by
  cases screen with
  | menu kind state =>
    cases kind with
    | oled =>
      simp only [onActivate, MenuKind.onActivate]
      split <;> rfl
    | _ => rfl
  | _ => rfl

theorem propagate_onKey_dashboard (event : KeyEvent) :
    (screen.onKey .dashboard event board).1.propagate = true := by
  cases screen with
  | dashboard state =>
    simp only [onKey, Dashboard.onKey]
    split <;> rfl
  | _ => rfl

theorem propagate_onKey_pomodoro (event : KeyEvent) :
    (screen.onKey .pomodoro event board).1.propagate = false ↔
      event.pressed = true ∧ event.keycode = spaceKeycode ∧ board.pomodoro.phase = .setTime := by
  have other : escapeKeycode ≠ spaceKeycode := by decide
  simp only [onKey, PomodoroScreen.onKey]
  cases event.pressed with
  | false => simp [Reaction.pass]
  | true =>
    by_cases escape : event.keycode = escapeKeycode
    · simp [escape, other]
    · by_cases space : event.keycode = spaceKeycode
      · simp only [space, other.symm, Bool.not_true, Bool.false_eq_true, ↓reduceIte, true_and]
        have starts : (board.now.2.pomodoro.start board.now.1).1 = true ↔
            board.pomodoro.phase = .setTime := Pomodoro.start_eq_true_iff
        rw [← starts]
        split <;> simp_all [Reaction.pass]
      · simp [escape, space, Reaction.pass]

theorem propagate_onRotate (clockwise : Bool) :
    (screen.onRotate clockwise board).1.propagate = true ↔
      screen.place = .help ∨ screen.place = .dashboard ∧ board.fnHeld = false ∨
        screen.place = .pomodoro ∧ board.pomodoro.phase ≠ .setTime := by
  cases screen with
  | dashboard state =>
    simp only [onRotate, Dashboard.onRotate, place]
    split <;> simp_all [Reaction.go, Reaction.pass]
  | menu kind state => simp [onRotate, MenuKind.onRotate, place, Reaction.stop]
  | slider kind => simp [onRotate, SliderKind.onRotate, place, Reaction.stop]
  | pomodoro =>
    simp only [onRotate, PomodoroScreen.onRotate, place]
    have adjusts : (board.pomodoro.adjust clockwise).1 = true ↔ board.pomodoro.phase = .setTime :=
      Pomodoro.adjust_eq_true_iff
    split <;> simp_all [Reaction.stop, Reaction.pass]
  | help => simp [onRotate, place, Reaction.pass]

end Screen

-- ---------------------------------------------------------------------------
-- Inputs
-- ---------------------------------------------------------------------------

theorem Route.listener?_eq_pomodoro_iff {route : Route} :
    route.listener? = some .pomodoro ↔ route = .pomodoro := by
  cases route <;> simp [listener?]

namespace Controller

variable {controller : Controller}

theorem handleKey_activate {event : KeyEvent} (activate : event.key = .activate) :
    (controller.handleKey event).1 = false ↔ event.pressed = true := by
  have step := controller.handleKey_step event
  generalize controller.handleKey event = outcome at step
  cases step with
  | unheard released => simp [released activate]
  | activated _ pressed => exact iff_of_true Screen.propagate_onActivate pressed
  | heard _ other => exact absurd activate other

theorem handleKey_other (placed : controller.Placed) {event : KeyEvent}
    (other : event.key ≠ .activate) :
    (controller.handleKey event).1 = false ↔
      event.pressed = true ∧ event.keycode = spaceKeycode ∧
        controller.screen.place = .pomodoro ∧ controller.board.pomodoro.phase = .setTime := by
  have listening : controller.listener = some .pomodoro ↔ controller.screen.place = .pomodoro := by
    rw [placed.listener, Route.listener?_eq_pomodoro_iff]
  have step := controller.handleKey_step event
  generalize controller.handleKey event = outcome at step
  cases step with
  | unheard _ deaf =>
    have silent : controller.listener = none := deaf other
    rw [← listening, silent]
    simp
  | activated activate => exact absurd activate other
  | heard listener _ heard =>
    have hears : controller.listener = some listener := heard
    rw [← listening, hears]
    cases listener with
    | dashboard => exact iff_of_false (by simp [react, Screen.propagate_onKey_dashboard]) (by simp)
    | pomodoro =>
      refine (Screen.propagate_onKey_pomodoro event).trans ?_
      simp [noted, now, Board.now]

theorem handleRotate_eq_true_iff (plain : controller.Plain) (clockwise : Bool) :
    (controller.handleRotate clockwise).1 = true ↔
      controller.screen.place = .help ∨
        controller.screen.place = .dashboard ∧ controller.board.fnHeld = false ∨
        controller.screen.place = .pomodoro ∧ controller.board.pomodoro.phase ≠ .setTime := by
  by_cases slides : ∃ kind, controller.screen = .slider kind
  · obtain ⟨kind, slider⟩ := slides
    have turns := (controller.acceleration.steps_pos controller.now.1).ne'
    have same : controller.counted.screen = .slider kind := slider
    rw [handleRotate_eq, turnScreen_slider same, if_neg turns]
    simp [react, Reaction.stop, slider, Screen.place]
  · have one := plain.steps_eq_one (fun kind slider => slides ⟨kind, slider⟩) controller.now.1
    rw [handleRotate_of_one _ one]
    exact Screen.propagate_onRotate clockwise

/-- What a call answers on every screen: the space that starts the timer and the
press of the activation key are kept from the host and no other key event is, and
a detent is kept where the screen turns by it. -/
theorem input_answers {controller : Controller} (reachable : Reachable controller)
    (moment : Moment) :
    let met := controller.meet moment
    (∀ event : KeyEvent, event.key ≠ .activate →
      ((met.handleKey event).1 = false ↔
        event.pressed = true ∧ event.keycode = spaceKeycode ∧
          controller.screen.place = .pomodoro ∧ controller.board.pomodoro.phase = .setTime)) ∧
    (∀ event : KeyEvent, event.key = .activate →
      ((met.handleKey event).1 = false ↔ event.pressed = true)) ∧
    ∀ clockwise,
      ((met.handleRotate clockwise).1 = true ↔
        controller.screen.place = .help ∨
          controller.screen.place = .dashboard ∧ controller.board.fnHeld = false ∨
          controller.screen.place = .pomodoro ∧ controller.board.pomodoro.phase ≠ .setTime) := by
  intro met
  refine ⟨fun event other => ?_, fun event activate => ?_, fun clockwise => ?_⟩
  · exact handleKey_other (reachable.placed.meet moment) other
  · exact handleKey_activate activate
  · have plain : met.Plain := reachable.plain
    exact handleRotate_eq_true_iff plain clockwise

def timerOpened : Controller :=
  let press : Millis × HostEvent := (0, .key ⟨0, .activate, true⟩)
  ((start (.still 0 false) erased).run
    (calmly ([press] ++ .replicate 5 (0, .rotate true) ++ [press, (0, .tick)]))).2

/-- There the space is kept, the escape key is not, and the encoder sets the
time. -/
theorem input_answers_timerOpened :
    timerOpened.screen.place = .pomodoro ∧ timerOpened.board.pomodoro.phase = .setTime ∧
      let met := timerOpened.meet (.still 0 false)
      (met.handleKey ⟨spaceKeycode, ⟨5, 2⟩, true⟩).1 = false ∧
        (met.handleKey ⟨escapeKeycode, ⟨0, 1⟩, true⟩).1 ≠ false ∧
        (met.handleKey ⟨0, .activate, true⟩).1 = false ∧
        (met.handleRotate true).1 ≠ true := by
  have place : timerOpened.screen.place = .pomodoro := by decide +kernel
  have setting : timerOpened.board.pomodoro.phase = .setTime := by decide +kernel
  have reachable : Reachable timerOpened := (Reachable.start _ _).run _
  obtain ⟨other, activate, turned⟩ := input_answers reachable (.still 0 false)
  refine ⟨place, setting, ?_, ?_, ?_, ?_⟩
  · exact (other ⟨spaceKeycode, ⟨5, 2⟩, true⟩ (by decide)).mpr ⟨rfl, rfl, place, setting⟩
  · exact (other ⟨escapeKeycode, ⟨0, 1⟩, true⟩ (by decide)).not.mpr fun kept =>
      absurd kept.2.1 (by decide)
  · exact (activate ⟨0, .activate, true⟩ rfl).mpr rfl
  · exact (turned true).not.mpr (by simp [place, setting])

end Controller

end KnobPanel
