import KnobPanel.Controller
import KnobPanel.Proofs.DashboardDraws

/-!
# What moves the lights

The lighting line, the marks of the lights that are off, the power of the
display, and the settings. Drawing, changing the screen and raw key events leave
them alone, and activating a row changes the settings only: what is lit is up to
the ticks and to the turning of a slider or an effect list.
-/

namespace KnobPanel

/-- The part of the board that decides what is lit. -/
structure Lights where
  channel : Channel ScriptedLine
  rgbOff : Bool
  sideOff : Bool
  displayOn : Bool
  settings : Settings

namespace Board

def lights (board : Board) : Lights where
  channel := board.channel
  rgbOff := board.idle.rgbOff
  sideOff := board.idle.sideOff
  displayOn := board.displayOn
  settings := board.settings

theorem lights_draw {ops : List DrawOp} (h : KeepsPower ops) (board : Board) :
    (board.draw ops).lights = board.lights := by
  simp only [lights, displayOn_draw h]
  rfl

theorem lights_saveSettings (board : Board) : board.saveSettings.lights = board.lights := by
  simp only [lights, saveSettings, displayOn]

end Board

-- ---------------------------------------------------------------------------
-- Screens
-- ---------------------------------------------------------------------------

theorem Dashboard.lights_draw (dashboard : Dashboard) (board : Board) :
    (dashboard.draw board).2.lights = board.lights := by
  obtain ⟨ops, sensor, pictures, drawn⟩ := dashboard.exists_draw_eq board
  rw [drawn]
  exact Board.lights_draw pictures.keepsPower board

theorem PomodoroScreen.lights_draw (board : Board) :
    (PomodoroScreen.draw board).2.lights = board.lights := by
  unfold draw
  refine Board.lights_draw (.append (.append ?_ ?_) ?_) _
  · split
    · exact (pictures_drawFirst _).keepsPower
    · rfl
  · exact keepsPower_drawEffects ..
  · exact (pictures_drawTimer ..).keepsPower

theorem PomodoroScreen.lights_leave (board : Board) : (leave board).lights = board.lights := by
  unfold leave
  simp only
  split <;> rfl

namespace MenuKind

theorem lights_chooseTier (row : Nat) (kind : MenuKind) (board : Board) :
    (kind.chooseTier row board).lights =
      { board.lights with settings := (kind.chooseTier row board).settings } := by
  unfold chooseTier
  split <;> rfl

theorem lights_chooseArt (row : Nat) (board : Board) :
    (chooseArt row board).lights =
      { board.lights with settings := (chooseArt row board).settings } := by
  unfold chooseArt
  split <;> rfl

theorem lights_onActivate (row : Nat) (kind : MenuKind) (board : Board) :
    (kind.onActivate row board).2.lights =
      { board.lights with settings := (kind.onActivate row board).2.settings } := by
  cases kind with
  | oled =>
    unfold onActivate
    simp only
    split <;> rfl
  | rgbAutoOff | oledAutoOff | sideAutoOff => exact lights_chooseTier ..
  | artwork => exact lights_chooseArt ..
  | _ => rfl

end MenuKind

namespace Screen

theorem lights_draw (screen : Screen) (board : Board) :
    (screen.draw board).2.2.lights = board.lights := by
  cases screen with
  | dashboard state => exact state.lights_draw board
  | menu kind state => exact Board.lights_draw state.pictures_draw.keepsPower board
  | slider kind => exact Board.lights_draw (kind.pictures_draw _).keepsPower board
  | pomodoro => exact PomodoroScreen.lights_draw board
  | help =>
    simp only [draw]
    split
    · exact Board.lights_draw pictures_helpText.keepsPower board
    · rfl

theorem lights_onKey (listener : Listener) (event : KeyEvent) (screen : Screen) (board : Board) :
    (screen.onKey listener event board).2.2.lights = board.lights := by
  cases listener with
  | dashboard =>
    cases screen with
    | dashboard state =>
      simp only [onKey, Dashboard.onKey]
      split
      · refine (Board.lights_draw (BongoCat.pictures_onKey ..).keepsPower _).trans ?_
        split <;> rfl
      · split <;> rfl
    | _ => rfl
  | pomodoro =>
    simp only [onKey, PomodoroScreen.onKey]
    split
    · rfl
    · split
      · exact PomodoroScreen.lights_leave board
      · split <;> rfl

theorem lights_onActivate (screen : Screen) (board : Board) :
    (screen.onActivate board).2.lights =
      { board.lights with settings := (screen.onActivate board).2.settings } := by
  cases screen with
  | menu kind state => exact kind.lights_onActivate state.cursor board
  | pomodoro =>
    simp only [onActivate, PomodoroScreen.leave]
    split <;> rfl
  | _ => rfl

end Screen

-- ---------------------------------------------------------------------------
-- Controller
-- ---------------------------------------------------------------------------

namespace Controller

variable (controller : Controller)

@[simp] theorem lights_switchTo (screen : Screen) :
    (controller.switchTo screen).board.lights = controller.board.lights := rfl

@[simp] theorem lights_armReturn (secs : Nat) :
    (controller.armReturn secs).board.lights = controller.board.lights := rfl

@[simp] theorem lights_go (route : Route) :
    (controller.go route).board.lights = controller.board.lights := by
  cases route with
  | menu kind =>
    simp only [go, lights_armReturn, lights_switchTo]
    split
    · exact controller.board.lights_saveSettings
    · rfl
  | _ => rfl

@[simp] theorem stagedLed_go (route : Route) :
    (controller.go route).stagedLed = controller.stagedLed := by
  cases route <;> rfl

@[simp] theorem replay_go (route : Route) : (controller.go route).replay = controller.replay := by
  cases route <;> rfl

variable (reaction : Reaction)

@[simp] theorem lights_react :
    (controller.react reaction).2.board.lights = controller.board.lights := by
  unfold react
  cases reaction.route <;> simp only [lights_go] <;> split <;> rfl

theorem settings_react :
    (controller.react reaction).2.board.settings = controller.board.settings :=
  congrArg Lights.settings (controller.lights_react reaction)

@[simp] theorem stagedLed_react :
    (controller.react reaction).2.stagedLed = controller.stagedLed := by
  unfold react
  cases reaction.route <;> simp only [stagedLed_go] <;> split <;> rfl

@[simp] theorem replay_react : (controller.react reaction).2.replay = controller.replay := by
  unfold react
  cases reaction.route <;> simp only [replay_go] <;> split <;> rfl

@[simp] theorem lights_drawScreen :
    controller.drawScreen.board.lights = controller.board.lights := by
  have flush : KeepsPower [.flush] := rfl
  exact (Board.lights_draw flush _).trans (controller.screen.lights_draw controller.board)

theorem notifyLed_frame :
    ∃ stagedLed display channel rgbOff sideOff,
      controller.notifyLed =
        { controller with
          stagedLed
          board :=
            { controller.board with
              display, channel, idle := { controller.board.idle with rgbOff, sideOff } } } := by
  unfold notifyLed
  split
  · exact ⟨_, _, _, _, _, rfl⟩
  · simp only
    obtain ⟨display, powered⟩ : ∃ display,
        (if controller.board.displayOn then controller.board
          else controller.board.draw [.power true]) = { controller.board with display } := by
      split <;> exact ⟨_, rfl⟩
    rw [powered]
    cases controller.board.idle.rgbOff <;> cases controller.board.idle.sideOff <;>
      exact ⟨_, _, _, _, _, rfl⟩

theorem serveLights_frame :
    ∃ channel replay,
      controller.serveLights.2 =
        { controller with board := { controller.board with channel }, replay } := by
  unfold serveLights replayNext
  split
  · exact ⟨_, _, rfl⟩
  · split
    · exact ⟨_, _, rfl⟩
    · simp only
      split <;> exact ⟨_, _, rfl⟩

theorem lights_handleKey (event : KeyEvent) :
    ∃ settings,
      (controller.handleKey event).2.board.lights = { controller.board.lights with settings } := by
  unfold handleKey
  simp only
  split
  · split
    · exact ⟨_, (lights_react _ _).trans (Screen.lights_onActivate _ _)⟩
    · exact ⟨_, rfl⟩
  · split
    · split <;> exact ⟨_, rfl⟩
    · refine ⟨controller.board.settings, ?_⟩
      simp only [lights_react, Screen.lights_onKey]
      split <;> rfl

theorem handleKey_staged {event : KeyEvent} {led : UInt8} (pressed : event.pressed = true)
    (lit : event.key.led? = some led) :
    (controller.handleKey event).2.board.lights = controller.board.lights ∧
      (controller.handleKey event).2.stagedLed = some led ∧
      (controller.handleKey event).2.replay = controller.replay := by
  have other : event.key ≠ .activate := by
    intro same
    rw [same] at lit
    cases lit
  unfold handleKey
  simp only [other, pressed, lit, ↓reduceIte]
  split
  · exact ⟨rfl, rfl, rfl⟩
  · simp only [lights_react, stagedLed_react, replay_react, Screen.lights_onKey]
    exact ⟨rfl, trivial, rfl⟩

end Controller

end KnobPanel
