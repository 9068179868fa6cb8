import KnobPanel.Proofs.SettingsSaved

/-!
# What goes over the lighting line

Settings in range make commands that the lighting controller accepts, and the
slot holds such commands only. The channel asks before it writes, so that every
write on the line follows a query that found it free, whatever the store held and
whatever the line answers.
-/

namespace KnobPanel

-- ---------------------------------------------------------------------------
-- Commands
-- ---------------------------------------------------------------------------

/-- The lowest and the highest value that the lighting controller takes. -/
def Opcode.range : Opcode → Nat × Nat
  | rgbEffect => (0, 14)
  | rgbBrightness => (0, 50)
  | rgbSpeed => (10, 60)
  | sideEffect => (0, 3)
  | sideBrightness => (0, 127)
  | sideSpeed => (0, 10)
  | rgbHue | rgbHue2 | rgbSaturation | rgbKeypress | ping => (0, 255)

def Opcode.Accepts (opcode : Opcode) (value : UInt8) : Prop :=
  opcode.range.1 ≤ value.toNat ∧ value.toNat ≤ opcode.range.2

instance (opcode : Opcode) (value : UInt8) : Decidable (opcode.Accepts value) :=
  inferInstanceAs (Decidable (_ ∧ _))

def Command.Legal (command : Command) : Prop :=
  ∃ value, command = .byte command.opcode value ∧ command.opcode.Accepts value

namespace Command

theorem legal_byte {opcode : Opcode} {value : UInt8} (accepts : opcode.Accepts value) :
    (byte opcode value).Legal :=
  ⟨value, rfl, accepts⟩

theorem legal_le {opcode : Opcode} {value limit : UInt8} (range : opcode.range = (0, limit.toNat))
    (le : value ≤ limit) : (byte opcode value).Legal := by
  refine legal_byte ⟨?_, ?_⟩
  · rw [range]
    exact Nat.zero_le _
  · rw [range]
    exact UInt8.le_iff_toNat_le.mp le

theorem legal_off (light : Light) : (byte light.effect 0).Legal := by
  cases light <;> exact legal_byte (by decide)

theorem legal_rgbSpeed {speed : UInt8} (le : speed ≤ maxRgbSpeed) :
    (byte .rgbSpeed (rgbSpeedWire speed)).Legal := by
  have slow : speed.toNat ≤ 50 := UInt8.le_iff_toNat_le.mp le
  have least : min speed maxRgbSpeed = speed := if_pos le
  have wire : (rgbSpeedWire speed).toNat = 60 - speed.toNat := by
    rw [rgbSpeedWire, least, UInt8.toNat_sub]
    simp only [maxRgbSpeed, UInt8.toNat_add, UInt8.toNat_ofNat]
    omega
  refine legal_byte ⟨?_, ?_⟩
  · simp only [Opcode.range, wire]
    omega
  · simp only [Opcode.range, wire]
    omega

end Command

theorem RgbMode.legal (mode : RgbMode) : (Command.byte .rgbEffect mode.index).Legal := by
  cases mode <;> exact Command.legal_byte (by decide)

theorem SideMode.legal (mode : SideMode) : (Command.byte .sideEffect mode.index).Legal := by
  cases mode <;> exact Command.legal_byte (by decide)

theorem SliderKind.legal_command? {kind : SliderKind} {value : UInt8} (le : value ≤ kind.limit)
    {command : Command} (sent : kind.command? value = some command) : command.Legal := by
  cases kind <;> cases sent
  case rgbSpeed => exact Command.legal_rgbSpeed le
  case rgbBrightness => exact Command.legal_le rfl le
  case rgbHue1 => exact Command.legal_le rfl (byte_le value)
  case rgbHue2 => exact Command.legal_le rfl (byte_le value)
  case rgbSaturation => exact Command.legal_le rfl (byte_le value)
  case sideBrightness => exact Command.legal_le rfl le
  case sideSpeed => exact Command.legal_le rfl le

theorem ReplayStep.legal_command? {settings : Settings} (inRange : settings.InRange)
    {step : ReplayStep} {command : Command} (sent : step.command? settings = some command) :
    command.Legal := by
  cases step <;> cases sent
  case rgbEffect => exact settings.rgb.mode.legal
  case rgbSaturation => exact Command.legal_le rfl (byte_le _)
  case rgbBrightness => exact Command.legal_le rfl inRange.rgbBrightness
  case rgbHue => exact Command.legal_le rfl (byte_le _)
  case rgbHue2 => exact Command.legal_le rfl (byte_le _)
  case rgbSpeed => exact Command.legal_rgbSpeed inRange.rgbSpeed
  case sideEffect => exact settings.side.mode.legal
  case sideBrightness => exact Command.legal_le rfl inRange.sideBrightness
  case sideSpeed => exact Command.legal_le rfl inRange.sideSpeed

-- ---------------------------------------------------------------------------
-- The line
-- ---------------------------------------------------------------------------

/-- A log, newest exchange first, in which every write is a legal command and
follows a query that found the line free. -/
inductive Lawful : List Exchange → Prop
  | nil : Lawful []
  | query (busy : Bool) {log : List Exchange} : Lawful log → Lawful (.query busy :: log)
  | transmit {command : Command} (delivered : Bool) {log : List Exchange} :
      command.Legal → Lawful log →
      Lawful (.transmit command.wire delivered :: .query false :: log)

theorem Lawful.transmit_at {log later earlier : List Exchange} {bytes : List UInt8}
    {delivered : Bool} (lawful : Lawful log)
    (parts : log = later ++ .transmit bytes delivered :: earlier) :
    (∃ (opcode : Opcode) (value : UInt8), bytes = [opcode.code, value] ∧ opcode.Accepts value) ∧
      ∃ before, earlier = .query false :: before := by
  induction lawful generalizing later with
  | nil => cases later <;> cases parts
  | query busy _ ih =>
    cases later with
    | nil => cases parts
    | cons _ later => exact ih (List.cons.inj parts).2
  | @transmit command delivered log legal _ ih =>
    obtain ⟨value, sent, accepts⟩ := legal
    cases later with
    | nil =>
      cases parts
      exact ⟨⟨command.opcode, value, by rw [sent]; rfl, accepts⟩, log, rfl⟩
    | cons _ later =>
      cases later with
      | nil => cases parts
      | cons _ later => exact ih (List.cons.inj (List.cons.inj parts).2).2

namespace Channel

/-- Nothing but legal commands is parked, and the line was used lawfully. -/
structure Legal (channel : Channel ScriptedLine) : Prop where
  log : Lawful channel.link.log
  parked : ∀ command, channel.parked = some command → command.Legal

variable {channel : Channel ScriptedLine}

theorem Legal.isBusy (legal : channel.Legal) : channel.isBusy.2.Legal :=
  ⟨.query _ legal.log, legal.parked⟩

theorem Legal.transmit (legal : channel.Legal) {command : Command} (taken : command.Legal)
    (free : channel.isBusy.1 = false) :
    Lawful (Link.transmit command.wire channel.isBusy.2.link).2.log := by
  have asked : channel.isBusy.2.link.log = .query false :: channel.link.log :=
    congrArg (fun busy => Exchange.query busy :: channel.link.log) free
  simp only [Link.transmit, asked]
  exact .transmit _ taken legal.log

theorem Legal.send (legal : channel.Legal) {command : Command} (taken : command.Legal) :
    (channel.send command).2.Legal := by
  rcases send_cases command channel with ⟨-, sent⟩ | ⟨free, -, sent⟩ | ⟨free, -, sent⟩
  · rw [sent]
    exact ⟨legal.isBusy.log, fun parked same => Option.some.inj same ▸ taken⟩
  · rw [sent]
    refine ⟨legal.transmit taken free, fun parked same => legal.parked parked ?_⟩
    exact (Option.filter_eq_some_iff.mp same).1
  · rw [sent]
    exact ⟨legal.transmit taken free, legal.parked⟩

theorem Legal.drain (legal : channel.Legal) : channel.drain.2.Legal := by
  cases found : channel.parked with
  | none =>
    simp only [Channel.drain, found]
    exact legal
  | some command =>
    have taken := legal.parked command found
    rcases drain_cases found with ⟨-, drained⟩ | ⟨free, -, drained⟩ | ⟨free, -, drained⟩
    · rw [drained]
      exact legal.isBusy
    · rw [drained]
      exact ⟨legal.transmit taken free, fun _ empty => by cases empty⟩
    · rw [drained]
      exact ⟨legal.transmit taken free, legal.parked⟩

theorem Legal.sendOff (legal : channel.Legal) (light : Light) :
    (AutoOff.sendOff light.effect channel).2.Legal := by
  simp only [AutoOff.sendOff]
  split
  · exact legal.isBusy
  · exact legal.isBusy.send (Command.legal_off light)

theorem Legal.tryOff (legal : channel.Legal) (light : Light) (isOff : Bool) (tier : AutoOffTier)
    (idleSecs : Nat) : (AutoOff.tryOff light.effect isOff tier idleSecs channel).2.Legal := by
  simp only [AutoOff.tryOff]
  split
  · exact legal.sendOff light
  · exact legal

end Channel

-- ---------------------------------------------------------------------------
-- Boards
-- ---------------------------------------------------------------------------

namespace Board

structure Legal (board : Board) : Prop where
  settings : board.settings.InRange
  channel : board.channel.Legal

variable {board : Board}

theorem Legal.of_lights {other : Board} (legal : board.Legal) (same : other.lights = board.lights) :
    other.Legal := by
  obtain ⟨channel, -, -, -, settings⟩ := (Lights.mk.injEq ..).mp same
  constructor
  · rw [settings]
    exact legal.settings
  · rw [channel]
    exact legal.channel

theorem Legal.autoOff (legal : board.Legal) (now : Millis) : (board.autoOff now).2.Legal := by
  have keys := legal.channel.tryOff .keys board.idle.rgbOff board.settings.rgb.autoOff
    (board.idle.idleSecs now)
  have side := keys.tryOff .side board.idle.sideOff board.settings.side.autoOff
    (board.idle.idleSecs now)
  simp only [Board.autoOff, AutoOff.run]
  split
  · exact ⟨legal.settings, legal.channel⟩
  · split
    · exact ⟨legal.settings, keys⟩
    · split <;> exact ⟨legal.settings, side⟩

end Board

-- ---------------------------------------------------------------------------
-- Screens
-- ---------------------------------------------------------------------------

theorem MenuKind.legal_preview {board : Board} (legal : board.Legal) (row : Nat) (kind : MenuKind) :
    (kind.preview row board).Legal := by
  refine ⟨inRange_preview legal.settings row kind, ?_⟩
  cases kind with
  | rgbEffect =>
    simp only [preview]
    split
    · exact legal.channel
    · exact legal.channel.send (RgbMode.legal _)
  | sideEffect =>
    simp only [preview]
    split
    · exact legal.channel
    · exact legal.channel.send (SideMode.legal _)
  | _ => exact legal.channel

theorem MenuKind.inRange_onActivate {board : Board} (inRange : board.settings.InRange) (row : Nat)
    (kind : MenuKind) : (kind.onActivate row board).2.settings.InRange := by
  cases kind with
  | oled =>
    simp only [onActivate]
    split
    · exact inRange
    · exact inRange.of_value_eq fun kind => by cases kind <;> rfl
    · exact inRange
    · exact inRange
  | rgbAutoOff | oledAutoOff | sideAutoOff => exact inRange_chooseTier inRange row _
  | artwork =>
    simp only [onActivate, chooseArt]
    split
    · exact inRange
    · rw [Board.settings_saveSettings]
      exact inRange.of_value_eq fun kind => by cases kind <;> rfl
  | _ => exact inRange

namespace Screen

variable {board : Board}

theorem legal_onRotate (legal : board.Legal) (clockwise : Bool) (screen : Screen) :
    (screen.onRotate clockwise board).2.2.Legal := by
  refine ⟨inRange_onRotate legal.settings clockwise screen, ?_⟩
  cases screen with
  | dashboard state =>
    simp only [onRotate, Dashboard.onRotate]
    split <;> exact legal.channel
  | menu kind state =>
    simp only [onRotate, MenuKind.onRotate]
    split
    · exact legal.channel
    · exact (kind.legal_preview legal _).channel
  | slider kind =>
    have le := Settings.inRange_iff.mp legal.settings kind
    simp only [onRotate, SliderKind.onRotate]
    split
    · rename_i command sent
      exact legal.channel.send (SliderKind.legal_command? (SliderKind.step_le le clockwise) sent)
    · exact legal.channel
  | pomodoro => exact legal.channel
  | help => exact legal.channel

theorem legal_onActivate (legal : board.Legal) (screen : Screen) :
    (screen.onActivate board).2.Legal := by
  constructor
  · cases screen with
    | menu kind state => exact kind.inRange_onActivate legal.settings state.cursor
    | pomodoro =>
      obtain ⟨_, _, _, left⟩ := PomodoroScreen.leave_frame board
      simp only [onActivate, left]
      exact legal.settings
    | _ => exact legal.settings
  · obtain ⟨_, _, _, _, _, acted⟩ := screen.onActivate_frame board
    rw [acted]
    exact legal.channel

end Screen

-- ---------------------------------------------------------------------------
-- Controller
-- ---------------------------------------------------------------------------

namespace Controller

variable {controller : Controller}

theorem legal_start (moment : Moment) (store : FlatStore) : (start moment store).board.Legal := by
  refine Board.Legal.of_lights ?_ (lights_go _ .dashboard)
  exact ⟨Record.inRange_loadOrInit _, .nil, nofun⟩

theorem legal_notifyLed (legal : controller.board.Legal) : controller.notifyLed.board.Legal := by
  unfold notifyLed
  split
  · exact legal
  · rename_i led _
    have powered : (if controller.board.displayOn then controller.board
        else controller.board.draw [.power true]).Legal := by
      split <;> exact ⟨legal.settings, legal.channel⟩
    generalize (if controller.board.displayOn then controller.board
      else controller.board.draw [.power true]) = board at powered ⊢
    simp only
    split
    · exact ⟨powered.settings, powered.channel.send board.settings.rgb.mode.legal⟩
    · split
      · exact ⟨powered.settings, powered.channel.send board.settings.side.mode.legal⟩
      · exact ⟨powered.settings,
          powered.channel.send (Command.legal_le rfl (byte_le led))⟩

theorem legal_serveLights (legal : controller.board.Legal) :
    controller.serveLights.2.board.Legal := by
  unfold serveLights replayNext
  split
  · exact ⟨legal.settings, legal.channel.drain⟩
  · split
    · exact legal
    · rename_i command sent
      simp only
      split
      · exact ⟨legal.settings, legal.channel.isBusy⟩
      · exact ⟨legal.settings,
          legal.channel.isBusy.send (ReplayStep.legal_command? legal.settings sent)⟩

theorem legal_tick (legal : controller.board.Legal) : controller.tick.2.board.Legal := by
  cases returned : controller.tick.1.returned with
  | true =>
    rw [(controller.tick_go returned).2]
    exact legal.of_lights (lights_go controller.now.2 .dashboard)
  | false =>
    have met : controller.now.2.board.Legal := ⟨legal.settings, legal.channel⟩
    have off : (controller.now.2.board.autoOff controller.now.1).2.Legal :=
      met.autoOff controller.now.1
    have awake : controller.awake.board.Legal := legal_notifyLed off
    rw [controller.tick_draw returned]
    exact (legal_serveLights awake).of_lights (lights_drawScreen _)

theorem KeyStep.legal {event : KeyEvent} {met : Controller} {outcome : Bool × Controller}
    (step : KeyStep event met outcome) (legal : met.board.Legal) : outcome.2.board.Legal := by
  cases step with
  | unheard => exact legal
  | activated => exact (Screen.legal_onActivate legal met.screen).of_lights (lights_react _ _)
  | heard listener =>
    exact legal.of_lights
      ((lights_react _ _).trans (met.screen.lights_onKey listener event met.board))

theorem legal_turnScreen (legal : controller.board.Legal) (clockwise : Bool) (steps : Nat)
    (reaction : Reaction) : (controller.turnScreen clockwise steps reaction).2.board.Legal :=
  turnScreen_induct (motive := fun _ controller => controller.board.Legal)
    (fun _ controller legal => Screen.legal_onRotate legal clockwise controller.screen) steps legal

theorem legal_handle (legal : controller.board.Legal) (event : HostEvent) :
    (controller.handle event).2.board.Legal := by
  cases event with
  | tick => exact legal_tick legal
  | key event =>
    have noted : (controller.noted event).board.Legal := ⟨legal.settings, legal.channel⟩
    exact (controller.handleKey_step event).legal noted
  | rotate clockwise =>
    refine (legal_turnScreen ?_ clockwise _ .pass).of_lights (lights_react _ _)
    exact ⟨legal.settings, legal.channel⟩
  | poll => exact ⟨legal.settings, legal.channel⟩
  | lockLeds leds => exact ⟨legal.settings, legal.channel⟩

theorem Reachable.legal {controller : Controller} (reachable : Reachable controller) :
    controller.board.Legal := by
  induction reachable with
  | start moment store => exact legal_start moment store
  | @step controller moment event _ legal =>
    have met : (controller.meet moment).board.Legal :=
      ⟨legal.settings, legal.channel.log, legal.channel.parked⟩
    exact legal_handle met event

/-- In every run the settings stay in range, and whatever was written to the
line was one opcode with a value it takes, right after the line was found
free. -/
theorem legal_run (moment : Moment) (store : FlatStore) (calls : List (Moment × HostEvent)) :
    ((start moment store).run calls).2.board.settings.InRange ∧
      ∀ (later earlier : List Exchange) (bytes : List UInt8) (delivered : Bool),
        ((start moment store).run calls).2.board.channel.link.log =
            later ++ .transmit bytes delivered :: earlier →
          (∃ (opcode : Opcode) (value : UInt8),
              bytes = [opcode.code, value] ∧ opcode.Accepts value) ∧
            ∃ before, earlier = .query false :: before := by
  have legal := ((Reachable.start moment store).run calls).legal
  exact ⟨legal.settings, fun _ _ _ _ parts => legal.channel.log.transmit_at parts⟩

end Controller

end KnobPanel
