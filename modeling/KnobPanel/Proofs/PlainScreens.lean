import KnobPanel.Proofs.Lights

/-!
# Which screens accelerate the encoder

Every change of the screen sets the acceleration anew, and only a slider asks
for one. On any other screen a detent is one step.
-/

namespace KnobPanel.Controller

variable {controller : Controller}

/-- Only sliders accelerate the encoder. -/
def Plain (controller : Controller) : Prop :=
  (∃ kind, controller.screen = .slider kind) ∨ controller.acceleration.ceiling = 0

theorem Plain.steps_eq_one (plain : controller.Plain)
    (other : ∀ kind, controller.screen ≠ .slider kind) (now : Millis) :
    (controller.acceleration.steps now).1 = 1 := by
  rcases plain with ⟨kind, slider⟩ | still
  · exact absurd slider (other kind)
  · rw [Acceleration.steps, if_pos still]

theorem plain_go (route : Route) (controller : Controller) : (controller.go route).Plain := by
  cases route with
  | slider kind => exact .inl ⟨kind, rfl⟩
  | _ => exact .inr rfl

theorem plain_react (reaction : Reaction) (plain : controller.Plain) :
    (controller.react reaction).2.Plain := by
  unfold react
  cases reaction.route with
  | some route => exact plain_go route _
  | none =>
    simp only
    split <;> exact plain

theorem plain_notifyLed (plain : controller.Plain) : controller.notifyLed.Plain := by
  obtain ⟨_, _, _, _, _, woken⟩ := controller.notifyLed_frame
  rw [woken]
  exact plain

theorem plain_serveLights (plain : controller.Plain) : controller.serveLights.2.Plain := by
  obtain ⟨channel, replay, served⟩ := controller.serveLights_frame
  rw [served]
  exact plain

theorem plain_drawScreen (plain : controller.Plain) : controller.drawScreen.Plain := by
  rcases plain with ⟨kind, slider⟩ | still
  · exact .inl ⟨kind, by simp only [drawScreen, slider, Screen.draw]⟩
  · exact .inr still

theorem plain_tick (plain : controller.Plain) : controller.tick.2.Plain := by
  unfold tick
  simp only
  split
  · exact plain_go _ _
  · have off : (controller.now.2.autoOff controller.now.1).2.Plain := plain
    exact plain_drawScreen (plain_serveLights (plain_notifyLed off))

theorem plain_handleKey (event : KeyEvent) (plain : controller.Plain) :
    (controller.handleKey event).2.Plain := by
  unfold handleKey
  simp only
  split
  · split
    · exact plain_react _ plain
    · exact plain
  · generalize staged : (if event.pressed = true then _ else _) = pressed
    have kept : pressed.Plain := by
      rw [← staged]
      split <;> exact plain
    split
    · exact kept
    · refine plain_react _ ?_
      rcases kept with ⟨kind, slider⟩ | still
      · rename_i listener _
        exact .inl ⟨kind, by cases listener <;> simp only [slider, Screen.onKey]⟩
      · exact .inr still

theorem plain_turnScreen (clockwise : Bool) (steps : Nat) (reaction : Reaction)
    (controller : Controller) (plain : controller.Plain) :
    (controller.turnScreen clockwise steps reaction).2.Plain := by
  induction steps generalizing reaction controller with
  | zero => exact plain
  | succ steps ih =>
    have turned : Plain
        { controller with
          screen := (controller.screen.onRotate clockwise controller.board).2.1
          board := (controller.screen.onRotate clockwise controller.board).2.2 } := by
      rcases plain with ⟨kind, slider⟩ | still
      · exact .inl ⟨kind, by simp only [slider, Screen.onRotate]⟩
      · exact .inr still
    unfold turnScreen
    simp only
    split
    · exact turned
    · exact ih _ _ turned

theorem plain_handleRotate (clockwise : Bool) (plain : controller.Plain) :
    (controller.handleRotate clockwise).2.Plain := by
  refine plain_react _ (plain_turnScreen _ _ _ _ ?_)
  rcases plain with slider | still
  · exact .inl slider
  · refine .inr ?_
    simp only [Acceleration.steps]
    split <;> exact still

theorem Reachable.plain {controller : Controller} (reachable : Reachable controller) :
    controller.Plain := by
  induction reachable with
  | start => exact plain_go _ _
  | @step controller moment event _ plain =>
    have met : (controller.meet moment).Plain := plain
    cases event with
    | tick => exact plain_tick met
    | key event => exact plain_handleKey event met
    | rotate clockwise => exact plain_handleRotate clockwise met
    | poll => exact met
    | lockLeds => exact met

end KnobPanel.Controller
