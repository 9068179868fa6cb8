import KnobPanel.Proofs.Coherence
import KnobPanel.Proofs.TruthfulMarks

/-!
# The function key and the artwork

A detent on the dashboard cycles the artwork while the board takes the function key
to be held. The board learns of the key from the dashboard's listener alone: what
happens to the key while another screen is active goes unheard, and the board keeps
to what the dashboard heard last.
-/

namespace KnobPanel

-- ---------------------------------------------------------------------------
-- What the dashboard hears of the key
-- ---------------------------------------------------------------------------

def HostEvent.function? : HostEvent → Option Bool
  | .key event => if event.key = .function then some event.pressed else none
  | .tick | .rotate _ | .poll | .lockLeds _ => none

namespace Controller

/-- The latest event of the function key, wherever it came. -/
def lastFunction (calls : List (Moment × HostEvent)) : Option Bool :=
  (calls.filterMap (·.2.function?)).getLast?

/-- The events of the function key that found the dashboard active, in order. -/
def functionHeard : List (Moment × HostEvent) → Controller → List Bool
  | [], _ => []
  | (moment, event) :: calls, controller =>
    let heard := if controller.screen.place = .dashboard then event.function?.toList else []
    heard ++ functionHeard calls (controller.step moment event).2

@[simp] theorem fnHeld_go (route : Route) (controller : Controller) :
    (controller.go route).board.fnHeld = controller.board.fnHeld := by
  cases route with
  | menu kind =>
    simp only [go]
    split
    · simp only [Board.saveSettings]
      rfl
    · rfl
  | _ => rfl

@[simp] theorem fnHeld_react (controller : Controller) (reaction : Reaction) :
    (controller.react reaction).2.board.fnHeld = controller.board.fnHeld := by
  obtain ⟨propagate, route, redraw⟩ := reaction
  cases route with
  | none => cases redraw <;> rfl
  | some route => cases redraw <;> exact fnHeld_go route _

theorem fnHeld_tick (controller : Controller) :
    controller.tick.2.board.fnHeld = controller.board.fnHeld := by
  cases returned : controller.tick.1.returned with
  | true =>
    rw [(controller.tick_go returned).2, fnHeld_go]
    rfl
  | false =>
    obtain ⟨_, _, _, _, _, _, _, _, _, _, _, _, ticked⟩ := controller.tick_frame returned
    rw [ticked]

theorem fnHeld_handleRotate (clockwise : Bool) (controller : Controller) :
    (controller.handleRotate clockwise).2.board.fnHeld = controller.board.fnHeld := by
  rw [handleRotate, fnHeld_react]
  obtain ⟨_, _, _, _, _, _, turned⟩ := turnScreen_frame clockwise
    (controller.acceleration.steps controller.now.1).1 .pass _
  rw [turned]
  rfl

theorem KeyStep.fnHeld {event : KeyEvent} {met : Controller} {outcome : Bool × Controller}
    (step : KeyStep event met outcome) (placed : met.Placed) :
    outcome.2.board.fnHeld =
      if event.key = .function ∧ met.screen.place = .dashboard then event.pressed
      else met.board.fnHeld := by
  cases step with
  | unheard _ deaf =>
    refine (if_neg ?_).symm
    rintro ⟨function, home⟩
    -- the dashboard has a listener, so its key is heard
    have silent := deaf (by rw [function]; decide)
    rw [placed.listener, home] at silent
    cases silent
  | activated key =>
    obtain ⟨_, _, _, _, _, acted⟩ := met.screen.onActivate_frame met.board
    rw [fnHeld_react, acted, if_neg]
    rintro ⟨function, -⟩
    cases key.symm.trans function
  | heard listener _ listening =>
    rw [fnHeld_react]
    rw [placed.listener] at listening
    cases screen : met.screen with
    | dashboard state =>
      rw [screen] at listening
      cases listening
      simp only [Screen.onKey, Dashboard.onKey, Screen.place, and_true]
      split <;> split <;> rfl
    | pomodoro =>
      rw [screen] at listening
      cases listening
      obtain ⟨_, _, _, left⟩ := PomodoroScreen.leave_frame met.board
      refine Eq.trans ?_ (if_neg (by simp [Screen.place])).symm
      simp only [Screen.onKey, PomodoroScreen.onKey]
      split
      · rfl
      · split
        · rw [left]
        · split <;> rfl
    | _ =>
      rw [screen] at listening
      cases listening

theorem fnHeld_step {controller : Controller} (placed : controller.Placed) (moment : Moment)
    (event : HostEvent) :
    (controller.step moment event).2.board.fnHeld =
      if controller.screen.place = .dashboard then
        event.function?.getD controller.board.fnHeld
      else controller.board.fnHeld := by
  have met := placed.meet moment
  cases event with
  | tick => exact (fnHeld_tick _).trans (ite_self _).symm
  | key event =>
    have heard := (handleKey_step (controller.meet moment) event).fnHeld
      ⟨met.listener, met.autoReturn⟩
    refine heard.trans ?_
    change (if _ ∧ controller.screen.place = .dashboard then _ else controller.board.fnHeld) = _
    by_cases function : event.key = .function <;> simp [HostEvent.function?, function]
  | rotate clockwise => exact (fnHeld_handleRotate clockwise _).trans (ite_self _).symm
  | poll => exact (ite_self _).symm
  | lockLeds leds => exact (ite_self _).symm

theorem fnHeld_run {controller : Controller} (reachable : Reachable controller)
    (calls : List (Moment × HostEvent)) :
    (controller.run calls).2.board.fnHeld =
      (functionHeard calls controller).getLast?.getD controller.board.fnHeld := by
  induction calls generalizing controller with
  | nil => rfl
  | cons call calls ih =>
    obtain ⟨moment, event⟩ := call
    rw [run, ih (reachable.step moment event), functionHeard, List.getLast?_append,
      fnHeld_step reachable.placed]
    cases (functionHeard calls (controller.step moment event).2).getLast? with
    | some pressed => rfl
    | none =>
      split
      · cases event.function? <;> rfl
      · rfl

end Controller

-- ---------------------------------------------------------------------------
-- Artwork
-- ---------------------------------------------------------------------------

theorem HomeArt.cycle_ne (art : HomeArt) (forward : Bool) : art.cycle forward ≠ art := by
  cases art <;> cases forward <;> decide

namespace Controller

/-- A detent on the dashboard is one step, and one step never comes back to the
artwork it started from. -/
theorem homeArt_rotate_iff {controller : Controller} (fitted : controller.Fitted)
    (home : controller.screen.place = .dashboard) (clockwise : Bool) :
    (controller.handleRotate clockwise).2.board.settings.homeArt ≠
        controller.board.settings.homeArt ↔
      controller.board.fnHeld = true := by
  have slow : controller.acceleration.ceiling = 0 := by
    rw [fitted.ceiling, home]
    rfl
  have one : (controller.acceleration.steps controller.now.1).1 = 1 := by
    rw [Acceleration.steps, if_pos slow]
  rw [handleRotate_of_one _ one, settings_react]
  cases screen : controller.screen with
  | dashboard state =>
    have same : controller.counted.board.fnHeld = controller.board.fnHeld := rfl
    simp only [Screen.onRotate, Dashboard.onRotate, same]
    cases controller.board.fnHeld with
    | true => exact iff_of_true (HomeArt.cycle_ne _ _) rfl
    | false => exact iff_of_false (fun turned => turned rfl) Bool.false_ne_true
  | _ =>
    rw [screen] at home
    cases home

/-- A detent on the dashboard changes the artwork only while the function key is held
exactly if the dashboard has not missed that the key was let go. -/
theorem turned_held_iff (moment last : Moment) (store : FlatStore)
    (calls : List (Moment × HostEvent)) (clockwise : Bool) :
    let controller := ((start moment store).run calls).2
    (controller.screen.place = .dashboard →
        (controller.step last (.rotate clockwise)).2.board.settings.homeArt ≠
          controller.board.settings.homeArt →
        lastFunction calls = some true) ↔
      (controller.screen.place = .dashboard →
        (functionHeard calls (start moment store)).getLast? = some true →
        lastFunction calls = some true) := by
  intro controller
  have reachable : Reachable controller := (Reachable.start moment store).run calls
  have heard : controller.board.fnHeld = true ↔
      (functionHeard calls (start moment store)).getLast? = some true := by
    rw [show controller.board.fnHeld = _ from fnHeld_run (.start moment store) calls,
      show (start moment store).board.fnHeld = false from fnHeld_go .dashboard _]
    cases (functionHeard calls (start moment store)).getLast? <;> simp
  refine forall_congr' fun home => imp_congr_left ?_
  rw [← heard]
  exact homeArt_rotate_iff (reachable.fitted.meet last) home clockwise

/-- The function key goes down on the dashboard and up in the settings. -/
def heldUnheard : List (Moment × HostEvent) :=
  calmly [(0, .key ⟨0, .function, true⟩), (0, .key ⟨0, .activate, true⟩),
    (0, .key ⟨0, .function, false⟩), (0, .key ⟨0, .activate, true⟩)]

theorem turned_without_function :
    let controller := ((start (.still 0 false) erased).run heldUnheard).2
    controller.screen.place = .dashboard ∧
      (controller.step (.still 0 false) (.rotate true)).2.board.settings.homeArt ≠
        controller.board.settings.homeArt ∧
      lastFunction heldUnheard = some false := by
  decide +kernel

end Controller

end KnobPanel
