import KnobPanel.Proofs.Frames
import KnobPanel.Proofs.MenuWindow

/-!
# What goes with the active screen

Changing the screen wipes the listener, the return and the acceleration and sets
up those of the new one. Nothing else touches them, and an open menu keeps its
items and its window, so that in every run they belong to the active screen. The
pomodoro timer flashes on its own screen only.
-/

namespace KnobPanel

-- ---------------------------------------------------------------------------
-- Screens
-- ---------------------------------------------------------------------------

theorem MenuKind.length_items_pos (kind : MenuKind) : 0 < kind.items.length := by
  cases kind <;> decide

namespace Screen

def Opened : Screen → Prop
  | menu kind state => state.items = kind.items ∧ state.Windowed
  | dashboard _ | slider _ | pomodoro | help => True

def FlashSeen (screen : Screen) (board : Board) : Prop :=
  board.pomodoro.phase = .flash → screen.place = .pomodoro

variable {screen : Screen} {board : Board}

theorem opened_load (values : Settings) (kind : MenuKind) : (menu kind (kind.load values)).Opened :=
  ⟨rfl, Menu.windowed_load kind.length_items_pos _⟩

theorem opened_draw (opened : screen.Opened) (board : Board) : (screen.draw board).2.1.Opened := by
  cases screen <;> exact opened

theorem opened_onRotate (opened : screen.Opened) (clockwise : Bool) (board : Board) :
    (screen.onRotate clockwise board).2.1.Opened := by
  cases screen with
  | menu kind state =>
    exact ⟨(state.items_navigate clockwise).trans opened.1, opened.2.navigate clockwise⟩
  | _ => exact opened

theorem opened_onKey (opened : screen.Opened) (listener : Listener) (event : KeyEvent)
    (board : Board) : (screen.onKey listener event board).2.1.Opened := by
  cases listener <;> cases screen <;> exact opened

theorem FlashSeen.of_pomodoro {screen' : Screen} {board' : Board} (seen : screen.FlashSeen board)
    (place : screen'.place = screen.place)
    (kept : screen.place ≠ .pomodoro → board'.pomodoro = board.pomodoro) :
    screen'.FlashSeen board' := by
  intro flash
  by_cases other : screen.place = .pomodoro
  · exact place.trans other
  · rw [kept other] at flash
    exact absurd (seen flash) other

theorem phase_leave (board : Board) : (PomodoroScreen.leave board).pomodoro.phase ≠ .flash := by
  unfold PomodoroScreen.leave Pomodoro.leave
  simp only
  by_cases flash : board.now.2.pomodoro.phase = .flash
  · simp only [flash, ↓reduceIte]
    nofun
  · simp only [flash, ↓reduceIte]
    exact flash

theorem phase_onActivate (seen : screen.FlashSeen board) :
    (screen.onActivate board).2.pomodoro.phase ≠ .flash := by
  by_cases other : screen.place = .pomodoro
  · cases screen with
    | pomodoro => exact phase_leave board
    | _ => cases other
  · rw [pomodoro_onActivate other]
    exact fun flash => other (seen flash)

theorem phase_onKey {listener : Listener} {event : KeyEvent}
    (routed : (screen.onKey listener event board).1.route.isSome) :
    (screen.onKey listener event board).2.2.pomodoro.phase ≠ .flash := by
  cases listener with
  | dashboard =>
    cases screen with
    | dashboard state =>
      simp only [onKey, Dashboard.onKey] at routed
      split at routed <;> cases routed
    | _ => cases routed
  | pomodoro =>
    simp only [onKey, PomodoroScreen.onKey] at routed ⊢
    split at routed
    · cases routed
    · split at routed
      · rename_i pressed escape
        simp only [pressed, escape, ↓reduceIte]
        exact phase_leave board
      · split at routed
        · simp only at routed
          split at routed <;> cases routed
        · cases routed

theorem place_of_onRotate_route {clockwise : Bool}
    (routed : (screen.onRotate clockwise board).1.route.isSome) : screen.place = .dashboard := by
  cases screen with
  | dashboard => rfl
  | pomodoro =>
    simp only [onRotate, PomodoroScreen.onRotate] at routed
    split at routed <;> cases routed
  | _ => cases routed

end Screen

-- ---------------------------------------------------------------------------
-- Controller
-- ---------------------------------------------------------------------------

def Route.ceiling : Route → Nat
  | slider kind => kind.fastRotation
  | dashboard | menu _ | pomodoro | help => 0

namespace Controller

structure Fitted (controller : Controller) : Prop where
  ceiling : controller.acceleration.ceiling = controller.screen.place.ceiling
  opened : controller.screen.Opened
  flash : controller.screen.FlashSeen controller.board

variable {controller : Controller}

@[simp] theorem pomodoro_go (route : Route) (controller : Controller) :
    (controller.go route).board.pomodoro = controller.board.pomodoro := by
  cases route with
  | menu kind =>
    simp only [go]
    split
    · simp only [Board.saveSettings]
      rfl
    · rfl
  | _ => rfl

theorem fitted_go {route : Route}
    (calm : controller.board.pomodoro.phase = .flash → route = .pomodoro) :
    (controller.go route).Fitted where
  ceiling := by cases route <;> rfl
  opened := by
    cases route with
    | menu kind => exact Screen.opened_load _ kind
    | _ => trivial
  flash flash := by
    rw [pomodoro_go] at flash
    rw [place_go, calm flash]

theorem fitted_react (fitted : controller.Fitted) {reaction : Reaction}
    (calm : reaction.route.isSome → controller.board.pomodoro.phase ≠ .flash) :
    (controller.react reaction).2.Fitted := by
  obtain ⟨propagate, route, redraw⟩ := reaction
  cases route with
  | none => cases redraw <;> exact ⟨fitted.ceiling, fitted.opened, fitted.flash⟩
  | some route =>
    refine fitted_go fun flash => absurd ?_ (calm rfl)
    cases redraw <;> exact flash

theorem fitted_start (moment : Moment) (store : FlatStore) : (start moment store).Fitted := by
  simp only [start]
  exact fitted_go fun flash => nomatch flash

theorem fitted_drawScreen (fitted : controller.Fitted) : controller.drawScreen.Fitted where
  ceiling := by
    refine fitted.ceiling.trans ?_
    rw [← controller.screen.place_draw controller.board]
    rfl
  opened := Screen.opened_draw fitted.opened controller.board
  flash := fitted.flash.of_pomodoro (controller.screen.place_draw controller.board)
    Screen.pomodoro_draw

theorem fitted_tick (placed : controller.Placed) (fitted : controller.Fitted) :
    controller.tick.2.Fitted := by
  cases returned : controller.tick.1.returned with
  | true =>
    obtain ⟨due, gone⟩ := controller.tick_go returned
    rw [gone]
    refine fitted_go fun flash => ?_
    -- no return is armed on the screen that flashes
    have unarmed : controller.board.idle.autoReturn = none := by
      rw [placed.autoReturn, fitted.flash flash]
      rfl
    simp only [IdleTimers.returnDue, unarmed] at due
    cases due
  | false =>
    obtain ⟨_, _, _, _, _, _, woken⟩ := controller.awake_frame
    obtain ⟨_, _, served⟩ := controller.awake.serveLights_frame
    rw [controller.tick_draw returned]
    refine fitted_drawScreen ?_
    rw [served, woken]
    exact ⟨fitted.ceiling, fitted.opened, fitted.flash⟩

theorem KeyStep.fitted {event : KeyEvent} {met : Controller} {outcome : Bool × Controller}
    (step : KeyStep event met outcome) (placed : met.Placed) (fitted : met.Fitted) :
    outcome.2.Fitted := by
  cases step with
  | unheard => exact fitted
  | activated =>
    have calm := Screen.phase_onActivate fitted.flash
    have acted : Fitted { met with board := (met.screen.onActivate met.board).2 } :=
      ⟨fitted.ceiling, fitted.opened, fun flash => absurd flash calm⟩
    exact fitted_react acted fun _ => calm
  | heard listener other heard =>
    have place := met.screen.place_onKey met.board listener event
    have acted : Fitted
        { met with
          screen := (met.screen.onKey listener event met.board).2.1
          board := (met.screen.onKey listener event met.board).2.2 } := by
      refine ⟨?_, Screen.opened_onKey fitted.opened listener event met.board, ?_⟩
      · rw [place]
        exact fitted.ceiling
      · refine fitted.flash.of_pomodoro place fun away => ?_
        cases listener with
        | dashboard => exact Screen.pomodoro_onKey_dashboard event
        | pomodoro =>
          have listening := heard.symm.trans placed.listener
          cases there : met.screen.place <;> rw [there] at listening <;>
            first | exact absurd there away | cases listening
    exact fitted_react acted Screen.phase_onKey

theorem fitted_handleKey (placed : controller.Placed) (fitted : controller.Fitted)
    (event : KeyEvent) : (controller.handleKey event).2.Fitted :=
  (controller.handleKey_step event).fitted ⟨placed.listener, placed.autoReturn⟩
    ⟨fitted.ceiling, fitted.opened, fitted.flash⟩

theorem fitted_turnScreen (fitted : controller.Fitted) (clockwise : Bool) (steps : Nat)
    (reaction : Reaction) (unrouted : reaction.route.isSome = false) :
    (controller.turnScreen clockwise steps reaction).2.Fitted ∧
      ((controller.turnScreen clockwise steps reaction).1.route.isSome →
        (controller.turnScreen clockwise steps reaction).2.screen.place = .dashboard) := by
  refine turnScreen_induct
    (motive := fun reaction controller =>
      controller.Fitted ∧ (reaction.route.isSome → controller.screen.place = .dashboard))
    (fun _ controller before => ?_) steps ⟨fitted, fun routed => by cases unrouted.symm.trans routed⟩
  have fitted := before.1
  have place := controller.screen.place_onRotate controller.board clockwise
  refine ⟨⟨?_, Screen.opened_onRotate fitted.opened clockwise controller.board, ?_⟩, ?_⟩
  · rw [place]
    exact fitted.ceiling
  · exact fitted.flash.of_pomodoro place fun away => Screen.pomodoro_onRotate away clockwise
  · exact fun routed => place.trans (Screen.place_of_onRotate_route routed)

theorem fitted_handleRotate (fitted : controller.Fitted) (clockwise : Bool) :
    (controller.handleRotate clockwise).2.Fitted := by
  have noted : Fitted
      { controller.now.2 with
        board :=
          { controller.now.2.board with
            idle := controller.now.2.board.idle.activity controller.now.1 }
        acceleration := (controller.acceleration.steps controller.now.1).2 } := by
    refine ⟨?_, fitted.opened, fitted.flash⟩
    refine Eq.trans ?_ fitted.ceiling
    simp only [Acceleration.steps]
    split <;> rfl
  obtain ⟨turned, leaving⟩ :=
    fitted_turnScreen noted clockwise (controller.acceleration.steps controller.now.1).1 .pass rfl
  refine fitted_react turned fun routed flash => ?_
  cases (turned.flash flash).symm.trans (leaving routed)

theorem fitted_handle (placed : controller.Placed) (fitted : controller.Fitted)
    (event : HostEvent) : (controller.handle event).2.Fitted := by
  cases event with
  | tick => exact fitted_tick placed fitted
  | key event => exact fitted_handleKey placed fitted event
  | rotate clockwise => exact fitted_handleRotate fitted clockwise
  | poll => exact ⟨fitted.ceiling, fitted.opened, fitted.flash⟩
  | lockLeds leds => exact ⟨fitted.ceiling, fitted.opened, fitted.flash⟩

theorem Fitted.meet (fitted : controller.Fitted) (moment : Moment) :
    (controller.meet moment).Fitted :=
  ⟨fitted.ceiling, fitted.opened, fitted.flash⟩

theorem Reachable.fitted {controller : Controller} (reachable : Reachable controller) :
    controller.Fitted := by
  induction reachable with
  | start moment store => exact fitted_start moment store
  | step moment event before fitted =>
    exact fitted_handle (before.placed.meet moment) (fitted.meet moment) event

/-- What belongs to the active screen, and to no other. -/
structure Coherent (controller : Controller) : Prop where
  listener : controller.listener = controller.screen.place.listener?
  autoReturn : controller.board.idle.autoReturn =
    if controller.screen.place = .menu .settings then some 4 else none
  ceiling : controller.acceleration.ceiling = controller.screen.place.ceiling
  menu : ∀ kind menu, controller.screen = .menu kind menu →
    menu.items = kind.items ∧ menu.Windowed
  flash : controller.board.pomodoro.phase = .flash → controller.screen.place = .pomodoro

theorem coherent_run (moment : Moment) (store : FlatStore) (calls : List (Moment × HostEvent)) :
    ((start moment store).run calls).2.Coherent := by
  have reachable : Reachable ((start moment store).run calls).2 := (Reachable.start _ _).run calls
  obtain ⟨listener, autoReturn⟩ := reachable.placed
  obtain ⟨ceiling, opened, flash⟩ := reachable.fitted
  refine ⟨listener, autoReturn.trans ?_, ceiling, fun kind menu active => ?_, flash⟩
  · cases ((start moment store).run calls).2.screen.place with
    | menu kind => cases kind <;> rfl
    | _ => rfl
  · rw [active] at opened
    exact opened

end Controller

end KnobPanel
