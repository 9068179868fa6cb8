import KnobPanel.Proofs.Coherence

/-!
# The display shows what is configured

Brightness and inversion are set when the keypad starts and whenever their
settings change; all other drawing leaves them alone. Only the flash of the
pomodoro timer inverts the display by itself, and it is paid back however the
flash ends.
-/

namespace KnobPanel

-- ---------------------------------------------------------------------------
-- Modes of the display
-- ---------------------------------------------------------------------------

structure DisplayModes where
  brightness : UInt8
  inverted : Bool

def CellDisplay.modes (display : CellDisplay) : DisplayModes where
  brightness := display.brightness
  inverted := display.inverted

def OledSettings.modes (settings : OledSettings) : DisplayModes where
  brightness := settings.brightness
  inverted := settings.inverted

def DrawOp.keepsModes : DrawOp → Bool
  | brightness _ | invert _ => false
  | _ => true

def KeepsModes (ops : List DrawOp) : Prop := ops.all DrawOp.keepsModes

theorem DrawOp.keepsModes_of_isPicture {op : DrawOp} (h : op.isPicture) : op.keepsModes := by
  cases op <;> first | rfl | cases h

theorem Pictures.keepsModes {ops : List DrawOp} (h : Pictures ops) : KeepsModes ops :=
  h.all fun _ => DrawOp.keepsModes_of_isPicture

namespace CellDisplay

theorem modes_apply (op : DrawOp) (h : op.keepsModes) (display : CellDisplay) :
    (display.apply op).modes = display.modes := by
  cases op with
  | text text _ =>
    obtain ⟨_, _, _, typed⟩ := display.typeAll_frame (codes text)
    simp only [apply, typed]
    rfl
  | brightness level => cases h
  | invert mode => cases h
  | _ => rfl

theorem modes_run {ops : List DrawOp} (h : KeepsModes ops) (display : CellDisplay) :
    (display.run ops).modes = display.modes :=
  run_keeps modes_apply h display

end CellDisplay

-- ---------------------------------------------------------------------------
-- The flash
-- ---------------------------------------------------------------------------

namespace Pomodoro

/-- The inversion of the display while it is configured so: a flash flips it on
every eighth tick, the first time on the seventh. -/
def inversion (timer : Pomodoro) (configured : Bool) : Bool :=
  if timer.phase = .flash then Nat.repeat not ((timer.flashed + 1) / 8) configured else configured

def Effects.apply (configured : Bool) (effects : Effects) (inverted : Bool) : Bool :=
  if effects.restoreInvert then configured
  else if effects.toggleInvert then !inverted
  else inverted

theorem inversion_of_ne_flash {timer : Pomodoro} (calm : timer.phase ≠ .flash) (configured : Bool) :
    timer.inversion configured = configured :=
  if_neg calm

theorem inversion_transition (now : Millis) (timer : Pomodoro) (configured : Bool) :
    (timer.transition now).effects.apply configured (timer.inversion configured) =
      (timer.transition now).timer.inversion configured := by
  obtain ⟨phase, deadline, minutes, flashed⟩ := timer
  cases phase with
  | flash =>
    simp only [transition]
    split
    case isTrue finished => rfl
    case isFalse going =>
      -- the counter is far from its end while the flash goes on
      have counted : min (flashed + 1) 255 = flashed + 1 := by
        simp only [flashFrames, Clock.frames, Clock.frameRate] at going
        omega
      have flips : (flashed + 1 + 1) / 8 =
          if (flashed + 1) % 8 = 7 then (flashed + 1) / 8 + 1 else (flashed + 1) / 8 := by
        split <;> omega
      simp only [counted, inversion, flips, Effects.apply, Bool.false_eq_true, ↓reduceIte,
        decide_eq_true_eq]
      split <;> rfl
  | work =>
    simp only [transition]
    split
    · have fresh : Nat.repeat not ((0 + 1) / 8) configured = configured := rfl
      simp only [inversion, ↓reduceIte, fresh]
      rfl
    · rfl
  | rest =>
    simp only [transition]
    split <;> rfl
  | idle | setTime => rfl

theorem effects_of_not_settled {now : Millis} {timer : Pomodoro}
    (unsettled : (timer.transition now).settled = false) :
    (timer.transition now).effects = {} := by
  obtain ⟨phase, deadline, minutes, flashed⟩ := timer
  cases phase with
  | idle | setTime => rfl
  | work | flash | rest =>
    simp only [transition] at unsettled
    split at unsettled <;> cases unsettled

theorem inversion_settle (now : Millis) (n : Nat) (timer : Pomodoro) (configured : Bool) :
    (settle now n timer).1.apply configured (timer.inversion configured) =
      (settle now n timer).2.inversion configured := by
  induction n generalizing timer with
  | zero => rfl
  | succ n ih =>
    have moved := timer.inversion_transition now configured
    simp only [settle]
    cases settled : (timer.transition now).settled with
    | true => exact moved
    | false =>
      -- an unsettled transition asks for nothing
      rw [effects_of_not_settled settled] at moved
      have same : timer.inversion configured = (timer.transition now).timer.inversion configured :=
        moved
      rw [same]
      exact ih _

theorem inversion_adjust (clockwise : Bool) (timer : Pomodoro) (configured : Bool) :
    (timer.adjust clockwise).2.inversion configured = timer.inversion configured := by
  unfold adjust
  split <;> rfl

theorem inversion_start (now : Millis) (timer : Pomodoro) (configured : Bool) :
    (timer.start now).2.inversion configured = timer.inversion configured := by
  unfold start
  split
  · rename_i setting
    rw [inversion_of_ne_flash (by nofun), inversion_of_ne_flash (by rw [setting]; nofun)]
  · rfl

theorem inversion_leave (now : Millis) (timer : Pomodoro) (configured : Bool) :
    (timer.leave now).2.inversion configured = configured := by
  unfold leave
  split
  · rfl
  · rename_i calm
    exact inversion_of_ne_flash calm configured

end Pomodoro

-- ---------------------------------------------------------------------------
-- Boards
-- ---------------------------------------------------------------------------

/-- The modes as they are, as they are configured, and the timer that tells them
apart. -/
structure Face where
  shown : DisplayModes
  configured : DisplayModes
  timer : Pomodoro

namespace Board

def face (board : Board) : Face where
  shown := board.display.cells.modes
  configured := board.settings.oled.modes
  timer := board.pomodoro

/-- The display shows the configured modes, up to the flips of a flash. -/
structure Mirrored (board : Board) : Prop where
  brightness : board.display.cells.brightness = board.settings.oled.brightness
  inverted :
    board.display.cells.inverted = board.pomodoro.inversion board.settings.oled.inverted

theorem Mirrored.of_face {board other : Board} (mirrored : board.Mirrored)
    (same : other.face = board.face) : other.Mirrored := by
  obtain ⟨shown, configured, timer⟩ := (Face.mk.injEq ..).mp same
  obtain ⟨brightness, inverted⟩ := (DisplayModes.mk.injEq ..).mp shown
  obtain ⟨configuredBrightness, configuredInversion⟩ := (DisplayModes.mk.injEq ..).mp configured
  constructor
  · rw [brightness, configuredBrightness, mirrored.brightness]
  · rw [inverted, configuredInversion, timer, mirrored.inverted]

theorem face_draw {ops : List DrawOp} (h : KeepsModes ops) (board : Board) :
    (board.draw ops).face = board.face := by
  simp only [face, draw, DisplayLog.run_cells, CellDisplay.modes_run h]

theorem face_saveSettings (board : Board) : board.saveSettings.face = board.face := by
  simp only [face, saveSettings]

end Board

-- ---------------------------------------------------------------------------
-- Screens
-- ---------------------------------------------------------------------------

theorem Dashboard.face_draw (dashboard : Dashboard) (board : Board) :
    (dashboard.draw board).2.face = board.face := by
  obtain ⟨ops, sensor, pictures, drawn⟩ := dashboard.exists_draw_eq board
  rw [drawn]
  exact Board.face_draw pictures.keepsModes board

namespace PomodoroScreen

variable {board : Board}

theorem modes_run_drawEffects (configured : Bool) (effects : Pomodoro.Effects)
    (display : CellDisplay) :
    (display.run (drawEffects configured effects)).modes =
      { display.modes with inverted := effects.apply configured display.inverted } := by
  obtain ⟨toggle, restore, redraw⟩ := effects
  cases toggle <;> cases restore <;> cases configured <;> rfl

theorem modes_draw (board : Board) :
    (draw board).2.display.cells.modes =
      { board.display.cells.modes with
        inverted :=
          (board.pomodoro.advance board.now.1).1.apply board.settings.oled.inverted
            board.display.cells.inverted } := by
  have first : KeepsModes (if board.firstFrame then drawFirst board.pomodoro.phase else []) := by
    split
    · exact (pictures_drawFirst _).keepsModes
    · rfl
  simp only [draw, Board.draw, DisplayLog.run_cells, CellDisplay.run_append]
  rw [CellDisplay.modes_run (pictures_drawTimer ..).keepsModes]
  rw [modes_run_drawEffects]
  have before := CellDisplay.modes_run first board.display.cells
  exact congrArg (fun modes : DisplayModes =>
    { modes with
      inverted :=
        (board.pomodoro.advance board.now.1).1.apply board.settings.oled.inverted
          modes.inverted }) before

theorem mirrored_draw (mirrored : board.Mirrored) : (draw board).2.Mirrored := by
  obtain ⟨brightness, inverted⟩ := (DisplayModes.mk.injEq ..).mp (modes_draw board)
  have moved :=
    board.pomodoro.inversion_settle board.now.1 2 board.settings.oled.inverted
  constructor
  · exact brightness.trans mirrored.brightness
  · rw [inverted, mirrored.inverted]
    exact moved

theorem mirrored_leave (mirrored : board.Mirrored) : (leave board).Mirrored := by
  have left := board.pomodoro.inversion_leave board.now.1 board.settings.oled.inverted
  unfold leave
  simp only
  split
  case isTrue => exact ⟨mirrored.brightness, (InvertMode.apply_ofBool _ _).trans left.symm⟩
  case isFalse calm =>
    refine ⟨mirrored.brightness, mirrored.inverted.trans ?_⟩
    simp only [Pomodoro.leave] at calm ⊢
    split at calm
    · exact absurd rfl calm
    · rename_i working
      rw [if_neg working]
      rfl

theorem mirrored_onRotate (mirrored : board.Mirrored) (clockwise : Bool) :
    (onRotate clockwise board).2.Mirrored :=
  ⟨mirrored.brightness, mirrored.inverted.trans (Pomodoro.inversion_adjust ..).symm⟩

theorem mirrored_onKey (mirrored : board.Mirrored) (event : KeyEvent) :
    (onKey event board).2.Mirrored := by
  unfold onKey
  split
  · exact mirrored
  · split
    · exact mirrored_leave mirrored
    · split
      · exact ⟨mirrored.brightness, mirrored.inverted.trans (Pomodoro.inversion_start ..).symm⟩
      · exact mirrored

end PomodoroScreen

namespace MenuKind

theorem face_preview (row : Nat) (kind : MenuKind) (board : Board) :
    (kind.preview row board).face = board.face := by
  cases kind with
  | rgbEffect | sideEffect =>
    simp only [preview]
    split <;> rfl
  | _ => rfl

theorem face_chooseTier (row : Nat) (kind : MenuKind) (board : Board) :
    (kind.chooseTier row board).face = board.face := by
  unfold chooseTier
  split
  · rfl
  · cases kind <;> rfl

theorem face_chooseArt (row : Nat) (board : Board) : (chooseArt row board).face = board.face := by
  unfold chooseArt
  split
  · rfl
  · exact Board.face_saveSettings _

theorem mirrored_toggleInversion {board : Board} (mirrored : board.Mirrored)
    (calm : board.pomodoro.phase ≠ .flash) : (toggleInversion board).Mirrored where
  brightness := mirrored.brightness
  inverted := by
    refine Eq.trans ?_ (Pomodoro.inversion_of_ne_flash calm _).symm
    exact InvertMode.apply_ofBool _ _

theorem mirrored_onActivate {board : Board} (mirrored : board.Mirrored)
    (calm : board.pomodoro.phase ≠ .flash) (row : Nat) (kind : MenuKind) :
    (kind.onActivate row board).2.Mirrored := by
  cases kind with
  | oled =>
    unfold onActivate
    simp only
    split
    · exact mirrored
    · exact mirrored_toggleInversion mirrored calm
    · exact mirrored
    · exact mirrored
  | rgbAutoOff | oledAutoOff | sideAutoOff => exact mirrored.of_face (face_chooseTier ..)
  | artwork => exact mirrored.of_face (face_chooseArt ..)
  | _ => exact mirrored

end MenuKind

theorem SliderKind.mirrored_onRotate {board : Board} (mirrored : board.Mirrored)
    (clockwise : Bool) (kind : SliderKind) : (kind.onRotate clockwise board).2.Mirrored := by
  cases kind with
  | oledBrightness => exact ⟨rfl, mirrored.inverted⟩
  | _ => exact mirrored.of_face rfl

namespace Screen

variable {screen : Screen} {board : Board}

theorem mirrored_draw (mirrored : board.Mirrored) : (screen.draw board).2.2.Mirrored := by
  cases screen with
  | dashboard state => exact mirrored.of_face (state.face_draw board)
  | menu kind state => exact mirrored.of_face (Board.face_draw state.pictures_draw.keepsModes board)
  | slider kind =>
    exact mirrored.of_face (Board.face_draw (kind.pictures_draw board.settings).keepsModes board)
  | pomodoro => exact PomodoroScreen.mirrored_draw mirrored
  | help =>
    simp only [draw]
    split
    · exact mirrored.of_face (Board.face_draw pictures_helpText.keepsModes board)
    · exact mirrored

theorem mirrored_onRotate (mirrored : board.Mirrored) (clockwise : Bool) :
    (screen.onRotate clockwise board).2.2.Mirrored := by
  cases screen with
  | dashboard state =>
    simp only [onRotate, Dashboard.onRotate]
    split <;> exact mirrored.of_face rfl
  | menu kind state =>
    simp only [onRotate, MenuKind.onRotate]
    split
    · exact mirrored
    · exact mirrored.of_face (kind.face_preview _ board)
  | slider kind => exact kind.mirrored_onRotate mirrored clockwise
  | pomodoro => exact PomodoroScreen.mirrored_onRotate mirrored clockwise
  | help => exact mirrored

/-- No menu is open during a flash, so that the configured inversion does not
change under it. -/
theorem mirrored_onActivate (mirrored : board.Mirrored) (seen : screen.FlashSeen board) :
    (screen.onActivate board).2.Mirrored := by
  cases screen with
  | menu kind state =>
    have calm : board.pomodoro.phase ≠ .flash := fun flash => nomatch seen flash
    exact kind.mirrored_onActivate mirrored calm state.cursor
  | pomodoro => exact PomodoroScreen.mirrored_leave mirrored
  | _ => exact mirrored

theorem mirrored_onKey (mirrored : board.Mirrored) (listener : Listener) (event : KeyEvent) :
    (screen.onKey listener event board).2.2.Mirrored := by
  cases listener with
  | dashboard =>
    cases screen with
    | dashboard state =>
      simp only [onKey, Dashboard.onKey]
      split
      · refine mirrored.of_face ((Board.face_draw (BongoCat.pictures_onKey ..).keepsModes _).trans ?_)
        split <;> rfl
      · refine mirrored.of_face ?_
        split <;> rfl
    | _ => exact mirrored
  | pomodoro => exact PomodoroScreen.mirrored_onKey mirrored event

end Screen

-- ---------------------------------------------------------------------------
-- Controller
-- ---------------------------------------------------------------------------

namespace Controller

variable {controller : Controller}

theorem face_switchTo (screen : Screen) (controller : Controller) :
    (controller.switchTo screen).board.face = controller.board.face := rfl

theorem face_armReturn (secs : Nat) (controller : Controller) :
    (controller.armReturn secs).board.face = controller.board.face := rfl

theorem face_go (route : Route) (controller : Controller) :
    (controller.go route).board.face = controller.board.face := by
  cases route with
  | menu kind =>
    simp only [go, face_armReturn, face_switchTo]
    split
    · exact controller.board.face_saveSettings
    · rfl
  | _ => rfl

theorem mirrored_react (mirrored : controller.board.Mirrored) (reaction : Reaction) :
    (controller.react reaction).2.board.Mirrored := by
  obtain ⟨propagate, route, redraw⟩ := reaction
  cases route with
  | none => cases redraw <;> exact mirrored.of_face rfl
  | some route =>
    refine mirrored.of_face ((face_go route _).trans ?_)
    cases redraw <;> rfl

theorem mirrored_start (moment : Moment) (store : FlatStore) :
    (start moment store).board.Mirrored := by
  refine Board.Mirrored.of_face ?_ (face_go .dashboard _)
  exact ⟨rfl, InvertMode.apply_ofBool _ _⟩

theorem face_autoOff (now : Millis) (board : Board) : (board.autoOff now).2.face = board.face := by
  have power : KeepsModes [.power false] := rfl
  simp only [Board.autoOff]
  split
  · exact Board.face_draw power _
  · rfl

theorem face_notifyLed (controller : Controller) :
    controller.notifyLed.board.face = controller.board.face := by
  unfold notifyLed
  split
  · rfl
  · have power : KeepsModes [.power true] := rfl
    have powered : (if controller.board.displayOn then controller.board
        else controller.board.draw [.power true]).face = controller.board.face := by
      split
      · rfl
      · exact Board.face_draw power _
    generalize (if controller.board.displayOn then controller.board
      else controller.board.draw [.power true]) = board at powered ⊢
    simp only
    cases board.idle.rgbOff <;> cases board.idle.sideOff <;> exact powered

theorem face_awake (controller : Controller) :
    controller.awake.board.face = controller.board.face :=
  (face_notifyLed _).trans (face_autoOff controller.now.1 controller.now.2.board)

theorem face_serveLights (controller : Controller) :
    controller.serveLights.2.board.face = controller.board.face := by
  obtain ⟨channel, replay, served⟩ := controller.serveLights_frame
  rw [served]
  rfl

theorem mirrored_drawScreen (mirrored : controller.board.Mirrored) :
    controller.drawScreen.board.Mirrored := by
  have flush : KeepsModes [.flush] := rfl
  have drawn : (controller.screen.draw controller.board).2.2.Mirrored :=
    Screen.mirrored_draw mirrored
  exact drawn.of_face (Board.face_draw flush _)

theorem mirrored_tick (mirrored : controller.board.Mirrored) :
    controller.tick.2.board.Mirrored := by
  cases returned : controller.tick.1.returned with
  | true =>
    rw [(controller.tick_go returned).2]
    exact mirrored.of_face (face_go .dashboard _)
  | false =>
    rw [controller.tick_draw returned]
    exact mirrored_drawScreen
      (mirrored.of_face ((face_serveLights _).trans (face_awake controller)))

theorem KeyStep.mirrored {event : KeyEvent} {met : Controller} {outcome : Bool × Controller}
    (step : KeyStep event met outcome) (fitted : met.Fitted) (mirrored : met.board.Mirrored) :
    outcome.2.board.Mirrored := by
  cases step with
  | unheard => exact mirrored
  | activated =>
    refine mirrored_react ?_ _
    exact Screen.mirrored_onActivate mirrored fitted.flash
  | heard listener =>
    refine mirrored_react ?_ _
    exact Screen.mirrored_onKey mirrored listener event

theorem mirrored_turnScreen (mirrored : controller.board.Mirrored) (clockwise : Bool) (steps : Nat)
    (reaction : Reaction) : (controller.turnScreen clockwise steps reaction).2.board.Mirrored :=
  turnScreen_induct (motive := fun _ controller => controller.board.Mirrored)
    (fun _ _ mirrored => Screen.mirrored_onRotate mirrored clockwise) steps mirrored

theorem mirrored_handle (fitted : controller.Fitted) (mirrored : controller.board.Mirrored)
    (event : HostEvent) : (controller.handle event).2.board.Mirrored := by
  cases event with
  | tick => exact mirrored_tick mirrored
  | key event =>
    have noted : (controller.noted event).Fitted := ⟨fitted.ceiling, fitted.opened, fitted.flash⟩
    exact (controller.handleKey_step event).mirrored noted (mirrored.of_face rfl)
  | rotate clockwise =>
    refine mirrored_react (mirrored_turnScreen ?_ _ _ _) _
    exact mirrored.of_face rfl
  | poll => exact mirrored.of_face rfl
  | lockLeds leds => exact mirrored.of_face rfl

theorem Reachable.mirrored {controller : Controller} (reachable : Reachable controller) :
    controller.board.Mirrored := by
  induction reachable with
  | start moment store => exact mirrored_start moment store
  | step moment event before mirrored =>
    exact mirrored_handle (before.fitted.meet moment) (mirrored.of_face rfl) event

-- ---------------------------------------------------------------------------
-- Leaving the timer
-- ---------------------------------------------------------------------------

def LeavesPomodoro (event : KeyEvent) : Prop :=
  event.pressed = true ∧ (event.key = .activate ∨ event.keycode = escapeKeycode)

theorem onKey_escape {event : KeyEvent} (pressed : event.pressed = true)
    (escape : event.keycode = escapeKeycode) (board : Board) :
    PomodoroScreen.onKey event board =
      ({ propagate := true, route := some .dashboard }, PomodoroScreen.leave board) := by
  simp only [PomodoroScreen.onKey, pressed, escape, Bool.not_true, Bool.false_eq_true, ↓reduceIte]

theorem eq_pomodoro_of_place {screen : Screen} (active : screen.place = .pomodoro) :
    screen = .pomodoro := by
  cases screen with
  | pomodoro => rfl
  | _ => cases active

theorem settings_leave (board : Board) : (PomodoroScreen.leave board).settings = board.settings :=
  congrArg Lights.settings (PomodoroScreen.lights_leave board)

theorem KeyStep.left {event : KeyEvent} {met : Controller} {outcome : Bool × Controller}
    (step : KeyStep event met outcome) (placed : met.Placed)
    (active : met.screen.place = .pomodoro) (leaves : LeavesPomodoro event) :
    outcome.2.screen.place = .dashboard ∧ outcome.2.board.settings = met.board.settings := by
  obtain ⟨pressed, key⟩ := leaves
  have listening : met.listener = some .pomodoro := by
    rw [placed.listener, active]
    rfl
  have shown : met.screen = .pomodoro := eq_pomodoro_of_place active
  cases step with
  | unheard released deaf =>
    by_cases activate : event.key = .activate
    · cases pressed.symm.trans (released activate)
    · cases listening.symm.trans (deaf activate)
  | activated =>
    rw [shown]
    exact ⟨rfl, (settings_react _ _).trans (settings_leave met.board)⟩
  | heard listener other heard =>
    cases listening.symm.trans heard
    simp only [Screen.onKey, onKey_escape pressed (key.resolve_left other)]
    exact ⟨rfl, (settings_react _ _).trans (settings_leave met.board)⟩

/-- In every run the display shows the configured modes, up to the flips of a
flash; and a key that leaves the timer, at whatever tick of the flash, hands the
configured inversion back. -/
theorem mirrored_run (moment : Moment) (store : FlatStore) (calls : List (Moment × HostEvent)) :
    ((start moment store).run calls).2.board.Mirrored ∧
      ∀ (leaving : Moment) (event : KeyEvent), LeavesPomodoro event →
        ((start moment store).run calls).2.screen.place = .pomodoro →
          let left := (((start moment store).run calls).2.step leaving (.key event)).2
          left.screen.place = .dashboard ∧ left.board.pomodoro.phase ≠ .flash ∧
            left.board.display.cells.inverted =
              ((start moment store).run calls).2.board.settings.oled.inverted := by
  have reachable : Reachable ((start moment store).run calls).2 := (Reachable.start _ _).run calls
  refine ⟨reachable.mirrored, fun leaving event leaves active => ?_⟩
  generalize ((start moment store).run calls).2 = controller at reachable active ⊢
  have later := reachable.step leaving (.key event)
  have met : ((controller.meet leaving).noted event).Placed :=
    ⟨reachable.placed.listener, reachable.placed.autoReturn⟩
  obtain ⟨place, settings⟩ :=
    ((controller.meet leaving).handleKey_step event).left met active leaves
  have calm : (controller.step leaving (.key event)).2.board.pomodoro.phase ≠ .flash := fun flash =>
    nomatch (later.fitted.flash flash).symm.trans place
  refine ⟨place, calm, later.mirrored.inverted.trans ?_⟩
  rw [Pomodoro.inversion_of_ne_flash calm]
  exact congrArg (fun settings : Settings => settings.oled.inverted) settings

/-- A work period of 25 minutes runs out, and seven ticks of the flash flip the
display once. -/
def flippedOnce : List (Moment × HostEvent) :=
  let press : Millis × HostEvent := (0, .key ⟨0, .activate, true⟩)
  calmly ([(0, .tick), press] ++ .replicate 5 (0, .rotate true) ++
    [press, (0, .tick), (0, .key ⟨spaceKeycode, ⟨5, 2⟩, true⟩), (1500001, .tick)] ++
    .replicate 7 (1500051, .tick))

theorem mirrored_run_flippedOnce :
    ((start (.still 0 false) erased).run flippedOnce).2.board.display.cells.inverted = true ∧
      ((start (.still 0 false) erased).run flippedOnce).2.board.settings.oled.inverted = false ∧
      (((start (.still 0 false) erased).run flippedOnce).2.step (.still 1500101 false)
        (.key ⟨escapeKeycode, ⟨0, 1⟩, true⟩)).2.board.display.cells.inverted = false := by
  have active :
      ((start (.still 0 false) erased).run flippedOnce).2.screen.place = .pomodoro := by
    decide +kernel
  have configured :
      ((start (.still 0 false) erased).run flippedOnce).2.board.settings.oled.inverted = false := by
    decide +kernel
  have left := (mirrored_run (.still 0 false) erased flippedOnce).2 (.still 1500101 false)
    ⟨escapeKeycode, ⟨0, 1⟩, true⟩ ⟨rfl, .inr rfl⟩ active
  exact ⟨by decide +kernel, configured, left.2.2.trans configured⟩

end Controller

end KnobPanel
