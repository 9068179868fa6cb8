import KnobPanel.Proofs.Frames
import KnobPanel.Proofs.TruthfulMarks
import KnobPanel.Proofs.Waking

/-!
# The lights show the settings

On a line that is never busy and loses nothing, a change of a setting goes out
at once. Together with the replay this keeps what the lights were last told and
the settings in step, apart from a light that an auto-off has darkened.
-/

namespace KnobPanel

-- ---------------------------------------------------------------------------
-- Commands and settings
-- ---------------------------------------------------------------------------

namespace ReplayStep

def Before (step later : ReplayStep) : Prop := step.ctorIdx < later.ctorIdx

instance (step later : ReplayStep) : Decidable (step.Before later) :=
  inferInstanceAs (Decidable (_ < _))

theorem before_next {step current : ReplayStep} :
    step.Before current.next → step.Before current ∨ step = current := by
  cases current <;> cases step <;> decide

theorem not_before_first (step : ReplayStep) : ¬step.Before .first := Nat.not_lt_zero _

theorem opcode_inj {step other : ReplayStep} {settings settings' : Settings}
    {command command' : Command} (sends : step.command? settings = some command)
    (sends' : other.command? settings' = some command') (same : command.opcode = command'.opcode) :
    step = other := by
  cases step <;> cases sends <;> cases other <;> cases sends' <;> first | rfl | cases same

end ReplayStep

def Command.Tells (command : Command) (before after : Settings) : Prop :=
  ∀ (step : ReplayStep) (wanted : Command), step.command? after = some wanted →
    wanted = command ∨ wanted.opcode ≠ command.opcode ∧ step.command? before = some wanted

namespace Command

theorem tells_replayed (step : ReplayStep) {settings : Settings} {command : Command}
    (sends : step.command? settings = some command) : command.Tells settings settings := by
  intro other wanted sends'
  by_cases same : wanted.opcode = command.opcode
  · obtain rfl := ReplayStep.opcode_inj sends' sends same
    exact .inl (Option.some.inj (sends'.symm.trans sends))
  · exact .inr ⟨same, sends'⟩

theorem tells_keypress (led : UInt8) (settings : Settings) :
    (byte .rgbKeypress led).Tells settings settings := by
  intro step wanted sends
  refine .inr ⟨?_, sends⟩
  cases step <;> cases sends <;> simp

theorem tells_slider {kind : SliderKind} {value : UInt8} {command : Command} (settings : Settings)
    (sends : kind.command? value = some command) : command.Tells settings (kind.put value settings) := by
  intro step wanted sends'
  cases kind <;> cases sends <;> cases step <;> cases sends' <;>
    first
      | exact .inl rfl
      | exact .inr ⟨by simp, rfl⟩

theorem tells_rgbMode (mode : RgbMode) (settings : Settings) :
    (byte .rgbEffect mode.index).Tells settings
      { settings with rgb := { settings.rgb with mode } } := by
  intro step wanted sends
  cases step <;> cases sends <;>
    first
      | exact .inl rfl
      | exact .inr ⟨by simp, rfl⟩

theorem tells_sideMode (mode : SideMode) (settings : Settings) :
    (byte .sideEffect mode.index).Tells settings
      { settings with side := { settings.side with mode } } := by
  intro step wanted sends
  cases step <;> cases sends <;>
    first
      | exact .inl rfl
      | exact .inr ⟨by simp, rfl⟩

end Command

-- ---------------------------------------------------------------------------
-- A free line
-- ---------------------------------------------------------------------------

structure Channel.Free (channel : Channel ScriptedLine) : Prop where
  steady : channel.link.Steady false
  unparked : channel.parked = none

namespace Channel

variable {channel : Channel ScriptedLine}

theorem Free.isBusy (free : channel.Free) : channel.isBusy.1 = false ∧ channel.isBusy.2.Free :=
  ⟨isBusy_of_steady free.steady, steady_isBusy free.steady, free.unparked⟩

theorem Free.send (free : channel.Free) (command : Command) : (channel.send command).2.Free := by
  refine ⟨steady_send command free.steady, ?_⟩
  rw [parked_send command free.steady, free.unparked]
  rfl

theorem Free.drain (free : channel.Free) : channel.drain.2 = channel := by
  simp only [Channel.drain, free.unparked]

theorem Free.lastSent_send (free : channel.Free) (command : Command) (opcode : Opcode) :
    (channel.send command).2.lastSent opcode =
      if command.opcode = opcode then some command.payload else channel.lastSent opcode := by
  rw [Channel.lastSent_send, isOk_send command free.steady]
  simp

end Channel

theorem AutoOff.free_tryOff {channel : Channel ScriptedLine} (free : channel.Free)
    (opcode : Opcode) (isOff : Bool) (tier : AutoOffTier) (idleSecs : Nat) :
    (tryOff opcode isOff tier idleSecs channel).2.Free := by
  obtain ⟨idle, asked⟩ := free.isBusy
  unfold tryOff
  split
  · simp only [sendOff, idle]
    exact asked.send _
  · exact free

theorem Board.free_autoOff {board : Board} (free : board.channel.Free) (now : Millis) :
    (board.autoOff now).2.channel.Free := by
  have keys := AutoOff.free_tryOff free .rgbEffect board.idle.rgbOff board.settings.rgb.autoOff
    (board.idle.idleSecs now)
  simp only [autoOff, AutoOff.run]
  split
  · exact free
  · split
    · exact keys
    · have side := AutoOff.free_tryOff keys .sideEffect board.idle.sideOff
        board.settings.side.autoOff (board.idle.idleSecs now)
      split <;> exact side

-- ---------------------------------------------------------------------------
-- What the lights show
-- ---------------------------------------------------------------------------

/-- The lights were last told what the step replays. Of a light that is marked
as off the effect does not count. -/
def ReplayStep.Shown (lights : Lights) (step : ReplayStep) : Prop :=
  ∀ wanted, step.command? lights.settings = some wanted →
    (∀ light : Light, light.effect = wanted.opcode → light.isOff lights = false) →
    lights.channel.lastSent wanted.opcode = some wanted.payload

namespace ReplayStep

variable {step : ReplayStep} {before after : Lights}

theorem Shown.congr (shown : step.Shown before)
    (settings : step.command? after.settings = step.command? before.settings)
    (isOff : ∀ light : Light, light.isOff after = light.isOff before)
    (lastSent : ∀ opcode, after.channel.lastSent opcode = before.channel.lastSent opcode) :
    step.Shown after := by
  intro wanted sends on
  rw [lastSent]
  refine shown wanted (settings ▸ sends) fun light own => ?_
  rw [← isOff light]
  exact on light own

section
variable {command : Command} (free : before.channel.Free)
  (sent : after.channel = (before.channel.send command).2)
include free sent

theorem shown_of_sent (sends : step.command? after.settings = some command) : step.Shown after := by
  intro wanted sends' _
  obtain rfl := Option.some.inj (sends.symm.trans sends')
  rw [sent, free.lastSent_send, if_pos rfl]

theorem Shown.send (shown : step.Shown before)
    (tells : command.Tells before.settings after.settings)
    (marks : ∀ light : Light, light.effect ≠ command.opcode →
      light.isOff after = light.isOff before) : step.Shown after := by
  intro wanted sends on
  rcases tells step wanted sends with rfl | ⟨other, sends'⟩
  · exact shown_of_sent free sent sends wanted sends on
  · rw [sent, free.lastSent_send, if_neg (Ne.symm other)]
    refine shown wanted sends' fun light own => ?_
    rw [← marks light fun same => other (own.symm.trans same)]
    exact on light own

end

end ReplayStep

/-- Nothing waits for the line, and what has been replayed so far is shown. -/
structure Lights.ShownUntil (replay : ReplayStep) (lights : Lights) : Prop where
  free : lights.channel.Free
  steps : ∀ step : ReplayStep, step.Before replay → step.Shown lights

namespace Lights.ShownUntil

variable {replay : ReplayStep} {before after : Lights}

theorem congr (shown : before.ShownUntil replay) (free : after.channel.Free)
    (settings : ∀ step : ReplayStep, step.command? after.settings = step.command? before.settings)
    (isOff : ∀ light : Light, light.isOff after = light.isOff before)
    (lastSent : ∀ opcode, after.channel.lastSent opcode = before.channel.lastSent opcode) :
    after.ShownUntil replay :=
  ⟨free, fun step earlier => (shown.steps step earlier).congr (settings step) isOff lastSent⟩

theorem send {command : Command} (shown : before.ShownUntil replay)
    (sent : after.channel = (before.channel.send command).2)
    (tells : command.Tells before.settings after.settings)
    (marks : ∀ light : Light, light.effect ≠ command.opcode →
      light.isOff after = light.isOff before) : after.ShownUntil replay :=
  ⟨sent ▸ shown.free.send command,
    fun step earlier => (shown.steps step earlier).send shown.free sent tells marks⟩

theorem autoOff {idleSecs : Nat} {report : Option AutoOffAction} (shown : before.ShownUntil replay)
    (free : after.channel.Free) (step : AutoOffStep idleSecs before report after) :
    after.ShownUntil replay := by
  cases step with
  | displayOff =>
    exact shown.congr free (fun _ => rfl) (fun light => by cases light <;> rfl) fun _ => rfl
  | lightOff gone _ _ told =>
    refine ⟨free, fun step earlier wanted sends on => ?_⟩
    have marks (light : Light) := @Light.isOff_with_channel (gone.mark true before) light
    simp only [marks, Light.isOff_mark] at on
    have other : gone.effect ≠ wanted.opcode := by
      intro own
      have lit := on gone own
      rw [if_pos rfl] at lit
      cases lit
    rw [told, if_neg other]
    refine shown.steps step earlier wanted (Light.settings_mark true before gone ▸ sends) ?_
    intro light own
    have apart : gone ≠ light := fun same => other (same ▸ own)
    have lit := on light own
    rwa [if_neg apart] at lit
  | nothing silent =>
    exact shown.congr free (fun _ => rfl) (fun _ => Light.isOff_with_channel _) silent.lastSent

end Lights.ShownUntil

namespace Lights

theorem tells_wakeCommand (led : UInt8) (lights : Lights) :
    (lights.wakeCommand led).Tells lights.settings lights.settings := by
  unfold wakeCommand
  cases lights.nextOff with
  | none => exact Command.tells_keypress led lights.settings
  | some light =>
    cases light with
    | keys => exact Command.tells_replayed .rgbEffect rfl
    | side => exact Command.tells_replayed .sideEffect rfl

theorem ShownUntil.wake {replay : ReplayStep} {lights : Lights} (shown : lights.ShownUntil replay)
    (led : UInt8) : (lights.wake led).ShownUntil replay := by
  refine shown.send rfl ?_ fun light other => ?_
  · rw [settings_wake]
    exact lights.tells_wakeCommand led
  · rw [isOff_wake, if_neg]
    intro next
    rw [opcode_wakeCommand, next] at other
    exact other rfl

end Lights

-- ---------------------------------------------------------------------------
-- Ticks
-- ---------------------------------------------------------------------------

namespace Controller

def Shown (controller : Controller) : Prop :=
  controller.board.lights.ShownUntil controller.replay

variable {controller : Controller}

theorem shown_awake (shown : controller.Shown) : controller.awake.Shown := by
  have met : controller.now.2.board.channel.Free := shown.free
  have free := Board.free_autoOff met controller.now.1
  have off := Lights.ShownUntil.autoOff shown free
    (Board.autoOff_step controller.now.1 controller.now.2.board)
  unfold awake
  generalize staged : (controller.now.2.autoOff controller.now.1).2.stagedLed = led
  cases led with
  | none =>
    rw [notifyLed_of_none staged]
    exact off
  | some led =>
    rw [Shown, (notifyLed_ok staged).1, replay_notifyLed]
    exact Lights.ShownUntil.wake off led

theorem shown_serveLights (shown : controller.Shown) : controller.serveLights.2.Shown := by
  have free : controller.board.channel.Free := shown.free
  cases sends : controller.replay.command? controller.board.settings with
  | none =>
    have done := (ReplayStep.command?_eq_none_iff _ _).mp sends
    obtain ⟨drained, finished⟩ := serveLights_of_done controller done
    have same : controller.serveLights.2.board.lights = controller.board.lights := by
      rw [lights_serveLights, drained, free.drain]
      rfl
    rw [Shown, same, finished, ← done]
    exact shown
  | some command =>
    have pending : controller.replay ≠ .done := by
      intro done
      rw [done] at sends
      cases sends
    obtain ⟨idle, asked⟩ := free.isBusy
    let before : Lights :=
      { controller.board.lights with channel := controller.board.channel.isBusy.2 }
    have waited : before.ShownUntil controller.replay :=
      Lights.ShownUntil.congr shown asked (fun _ => rfl) (fun _ => Light.isOff_with_channel _)
        fun _ => rfl
    simp only [serveLights, pending, replayNext, sends, idle, ↓reduceIte]
    have sent : Lights.ShownUntil controller.replay
        { before with channel := (before.channel.send command).2 } :=
      waited.send rfl (Command.tells_replayed _ sends) fun _ _ => Light.isOff_with_channel _
    refine ⟨sent.free, fun step earlier => ?_⟩
    rcases ReplayStep.before_next earlier with earlier | rfl
    · exact sent.steps step earlier
    · have met : before.channel.Free := asked
      exact ReplayStep.shown_of_sent met rfl sends

theorem shown_tick (shown : controller.Shown) : controller.tick.2.Shown := by
  cases returned : controller.tick.1.returned with
  | true =>
    obtain ⟨-, -, lights, -, replay⟩ := tick_returned returned
    rw [Shown, lights, replay]
    exact shown
  | false =>
    obtain ⟨-, -, lights, -, replay⟩ := tick_working returned
    rw [Shown, lights, replay]
    exact shown_serveLights (shown_awake shown)

end Controller

-- ---------------------------------------------------------------------------
-- Inputs
-- ---------------------------------------------------------------------------

namespace ReplayStep

variable (step : ReplayStep) (settings : Settings)

theorem command?_oled (oled : OledSettings) :
    step.command? { settings with oled } = step.command? settings := by
  cases step <;> rfl

theorem command?_homeArt (homeArt : HomeArt) :
    step.command? { settings with homeArt } = step.command? settings := by
  cases step <;> rfl

theorem command?_putTier (tier : AutoOffTier) (kind : MenuKind) :
    step.command? (kind.putTier tier settings) = step.command? settings := by
  cases kind <;> cases step <;> rfl

end ReplayStep

theorem MenuKind.command?_onActivate (row : Nat) (kind : MenuKind) (board : Board)
    (step : ReplayStep) :
    step.command? (kind.onActivate row board).2.settings = step.command? board.settings := by
  cases kind with
  | oled =>
    simp only [onActivate]
    split
    case h_2 => exact step.command?_oled board.settings _
    all_goals rfl
  | rgbAutoOff | oledAutoOff | sideAutoOff =>
    simp only [onActivate, chooseTier]
    split
    · rfl
    · exact step.command?_putTier board.settings _ _
  | artwork =>
    simp only [onActivate, chooseArt]
    split
    · rfl
    · exact step.command?_homeArt board.settings _
  | _ => rfl

theorem Screen.command?_onActivate (screen : Screen) (board : Board) (step : ReplayStep) :
    step.command? (screen.onActivate board).2.settings = step.command? board.settings := by
  cases screen with
  | menu kind state => exact kind.command?_onActivate state.cursor board step
  | pomodoro =>
    exact congrArg step.command? (congrArg Lights.settings (PomodoroScreen.lights_leave board))
  | _ => rfl

namespace Lights.ShownUntil

variable {replay : ReplayStep} {board : Board}

theorem preview (shown : board.lights.ShownUntil replay) (row : Nat) (kind : MenuKind) :
    (kind.preview row board).lights.ShownUntil replay := by
  cases kind with
  | rgbEffect =>
    simp only [MenuKind.preview]
    split
    · exact shown
    · rename_i mode _
      refine shown.send rfl (Command.tells_rgbMode mode board.settings) fun light _ => ?_
      cases light <;> rfl
  | sideEffect =>
    simp only [MenuKind.preview]
    split
    · exact shown
    · rename_i mode _
      refine shown.send rfl (Command.tells_sideMode mode board.settings) fun light _ => ?_
      cases light <;> rfl
  | _ => exact shown

theorem slider (shown : board.lights.ShownUntil replay) (clockwise : Bool) (kind : SliderKind) :
    (kind.onRotate clockwise board).2.lights.ShownUntil replay := by
  unfold SliderKind.onRotate
  generalize kind.step clockwise (kind.value board.settings) = value
  simp only
  split
  · rename_i command sends
    refine shown.send rfl (Command.tells_slider board.settings sends) fun light _ => ?_
    cases light <;> rfl
  · rename_i silent
    have quiet (level : UInt8) : KeepsPower [.brightness level] := rfl
    rw [Board.lights_draw (quiet _)]
    refine shown.congr shown.free (fun step => ?_) (fun light => by cases light <;> rfl) fun _ => rfl
    -- the brightness of the display is the only value without a command
    cases kind <;> cases silent
    exact step.command?_oled board.settings _

theorem onRotate (shown : board.lights.ShownUntil replay) (clockwise : Bool) (screen : Screen) :
    (screen.onRotate clockwise board).2.2.lights.ShownUntil replay := by
  cases screen with
  | dashboard state =>
    simp only [Screen.onRotate, Dashboard.onRotate]
    split
    · exact shown.congr shown.free (fun step => step.command?_homeArt board.settings _)
        (fun light => by cases light <;> rfl) fun _ => rfl
    · exact shown
  | menu kind state =>
    simp only [Screen.onRotate, MenuKind.onRotate]
    split
    · exact shown
    · exact shown.preview _ kind
  | slider kind => exact shown.slider clockwise kind
  | pomodoro => exact shown
  | help => exact shown

end Lights.ShownUntil

namespace Controller

variable {controller : Controller}

theorem KeyStep.replay {event : KeyEvent} {met : Controller} {outcome : Bool × Controller}
    (step : KeyStep event met outcome) : outcome.2.replay = met.replay := by
  cases step with
  | unheard => rfl
  | activated => exact replay_react _ _
  | heard => exact replay_react _ _

theorem replay_handleKey (event : KeyEvent) (controller : Controller) :
    (controller.handleKey event).2.replay = controller.replay :=
  (controller.handleKey_step event).replay

theorem KeyStep.command? {event : KeyEvent} {met : Controller} {outcome : Bool × Controller}
    (step : KeyStep event met outcome) (replayed : ReplayStep) :
    replayed.command? outcome.2.board.settings = replayed.command? met.board.settings := by
  cases step with
  | unheard => rfl
  | activated =>
    refine (congrArg replayed.command? (congrArg Lights.settings (lights_react _ _))).trans ?_
    exact Screen.command?_onActivate _ _ replayed
  | heard =>
    refine congrArg replayed.command? ((congrArg Lights.settings (lights_react _ _)).trans ?_)
    exact congrArg Lights.settings (Screen.lights_onKey ..)

theorem command?_handleKey (event : KeyEvent) (controller : Controller) (step : ReplayStep) :
    step.command? (controller.handleKey event).2.board.settings =
      step.command? controller.board.settings :=
  (controller.handleKey_step event).command? step

theorem shown_handleKey (shown : controller.Shown) (event : KeyEvent) :
    (controller.handleKey event).2.Shown := by
  obtain ⟨settings, lights⟩ := controller.lights_handleKey event
  have stored : (controller.handleKey event).2.board.settings = settings :=
    congrArg Lights.settings lights
  have same (step : ReplayStep) : step.command? settings = step.command? controller.board.settings :=
    stored ▸ command?_handleKey event controller step
  rw [Shown, lights, replay_handleKey]
  exact Lights.ShownUntil.congr shown shown.free same (fun light => by cases light <;> rfl)
    fun _ => rfl

theorem replay_turnScreen (clockwise : Bool) (steps : Nat) (reaction : Reaction)
    (controller : Controller) :
    (controller.turnScreen clockwise steps reaction).2.replay = controller.replay := by
  obtain ⟨_, _, _, _, _, -, turned⟩ := turnScreen_frame clockwise steps reaction controller
  rw [turned]

theorem shown_turnScreen {replay : ReplayStep} (clockwise : Bool) (steps : Nat)
    (reaction : Reaction) (controller : Controller)
    (shown : controller.board.lights.ShownUntil replay) :
    (controller.turnScreen clockwise steps reaction).2.board.lights.ShownUntil replay :=
  turnScreen_induct (motive := fun _ controller => controller.board.lights.ShownUntil replay)
    (fun _ controller shown => shown.onRotate clockwise controller.screen) steps shown

theorem shown_handleRotate (shown : controller.Shown) (clockwise : Bool) :
    (controller.handleRotate clockwise).2.Shown := by
  have counted : controller.counted.board.lights.ShownUntil controller.replay := shown
  have replay : (controller.handleRotate clockwise).2.replay = controller.replay :=
    (replay_react _ _).trans (replay_turnScreen _ _ _ _)
  rw [Shown, replay, handleRotate_eq, lights_react]
  exact shown_turnScreen clockwise _ _ _ counted

theorem shown_handle (shown : controller.Shown) (event : HostEvent) :
    (controller.handle event).2.Shown := by
  cases event with
  | tick => exact shown_tick shown
  | key event => exact shown_handleKey shown event
  | rotate clockwise => exact shown_handleRotate shown clockwise
  | poll => exact shown
  | lockLeds => exact shown

end Controller

-- ---------------------------------------------------------------------------
-- Runs
-- ---------------------------------------------------------------------------

/-- Nothing waits for the line, and every lighting setting is what the lights
were last told, the effect of a light as long as the light is not marked as
off. -/
structure Lights.Synced (lights : Lights) : Prop where
  unparked : lights.channel.parked = none
  rgbSaturation : lights.channel.lastSent .rgbSaturation = some [lights.settings.rgb.saturation]
  rgbBrightness : lights.channel.lastSent .rgbBrightness = some [lights.settings.rgb.brightness]
  rgbHue : lights.channel.lastSent .rgbHue = some [lights.settings.rgb.hue]
  rgbHue2 : lights.channel.lastSent .rgbHue2 = some [lights.settings.rgb.hue2]
  rgbSpeed : lights.channel.lastSent .rgbSpeed = some [rgbSpeedWire lights.settings.rgb.speed]
  sideBrightness : lights.channel.lastSent .sideBrightness = some [lights.settings.side.brightness]
  sideSpeed : lights.channel.lastSent .sideSpeed = some [lights.settings.side.speed]
  rgbEffect : lights.rgbOff = false →
    lights.channel.lastSent .rgbEffect = some [lights.settings.rgb.mode.index]
  sideEffect : lights.sideOff = false →
    lights.channel.lastSent .sideEffect = some [lights.settings.side.mode.index]

namespace Lights.ShownUntil

variable {lights : Lights} {opcode : Opcode} {value : UInt8}

theorem lastSent_of_on (shown : lights.ShownUntil .done) (step : ReplayStep)
    (sends : step.command? lights.settings = some (.byte opcode value))
    (on : ∀ light : Light, light.effect = opcode → light.isOff lights = false) :
    lights.channel.lastSent opcode = some [value] := by
  have earlier : step.Before .done := by
    cases step <;> first | decide | cases sends
  exact shown.steps step earlier _ sends on

theorem lastSent_effect (shown : lights.ShownUntil .done) (light : Light) (step : ReplayStep)
    (sends : step.command? lights.settings = some (.byte light.effect value))
    (on : light.isOff lights = false) : lights.channel.lastSent light.effect = some [value] :=
  shown.lastSent_of_on step sends fun _ same => Light.effect_inj same ▸ on

theorem synced (shown : lights.ShownUntil .done) : lights.Synced where
  unparked := shown.free.unparked
  rgbSaturation := shown.lastSent_of_on .rgbSaturation rfl (by rintro (_ | _) ⟨⟩)
  rgbBrightness := shown.lastSent_of_on .rgbBrightness rfl (by rintro (_ | _) ⟨⟩)
  rgbHue := shown.lastSent_of_on .rgbHue rfl (by rintro (_ | _) ⟨⟩)
  rgbHue2 := shown.lastSent_of_on .rgbHue2 rfl (by rintro (_ | _) ⟨⟩)
  rgbSpeed := shown.lastSent_of_on .rgbSpeed rfl (by rintro (_ | _) ⟨⟩)
  sideBrightness := shown.lastSent_of_on .sideBrightness rfl (by rintro (_ | _) ⟨⟩)
  sideSpeed := shown.lastSent_of_on .sideSpeed rfl (by rintro (_ | _) ⟨⟩)
  rgbEffect := shown.lastSent_effect .keys .rgbEffect rfl
  sideEffect := shown.lastSent_effect .side .sideEffect rfl

end Lights.ShownUntil

namespace Controller

theorem shown_start {moment : Moment} (steady : moment.Steady false) (store : FlatStore) :
    (start moment store).Shown := by
  have free : (start moment store).board.channel.Free := ⟨⟨steady.busy_eq, steady.delivers_eq⟩, rfl⟩
  refine ⟨free, fun step earlier => ?_⟩
  exact absurd earlier (ReplayStep.not_before_first step)

theorem shown_run {controller : Controller} {calls : List (Moment × HostEvent)}
    (steady : ∀ call ∈ calls, call.1.Steady false) (shown : controller.Shown) :
    (controller.run calls).2.Shown := by
  induction calls generalizing controller with
  | nil => exact shown
  | cons call calls ih =>
    obtain ⟨first, rest⟩ := List.forall_mem_cons.mp steady
    have met : (controller.meet call.1).Shown :=
      Lights.ShownUntil.congr shown ⟨steady_meet first, shown.free.unparked⟩ (fun _ => rfl)
        (fun light => by cases light <;> rfl) fun _ => rfl
    exact ih rest (shown_handle met call.2)

/-- Once the replay is over, the lights follow the settings all through a run on
a line that is never busy and loses nothing. -/
theorem synced_run {moment : Moment} (store : FlatStore) {calls : List (Moment × HostEvent)}
    (steady : moment.Steady false) (steadyCalls : ∀ call ∈ calls, call.1.Steady false)
    (booted : ((start moment store).run calls).2.replay = .done) :
    ((start moment store).run calls).2.board.lights.Synced := by
  have shown := shown_run steadyCalls (shown_start steady store)
  rw [Shown, booted] at shown
  exact shown.synced

theorem steady_calmly (calls : List (Millis × HostEvent)) :
    ∀ call ∈ calmly calls, call.1.Steady false := by
  intro call found
  obtain ⟨timed, -, rfl⟩ := List.mem_map.mp found
  exact steady_still _ _

def previewedEarly : List (Moment × HostEvent) :=
  let press : Millis × HostEvent := (0, .key ⟨0, .activate, true⟩)
  calmly ([(0, .tick), press, (0, .rotate true), press, press, (0, .rotate true)] ++
    .replicate 9 (50, .tick))

theorem synced_run_previewedEarly :
    (Moment.still 0 false).Steady false ∧ (∀ call ∈ previewedEarly, call.1.Steady false) ∧
      ((start (.still 0 false) erased).run previewedEarly).2.replay = .done ∧
      ((start (.still 0 false) erased).run previewedEarly).2.board.lights.Synced := by
  have booted : ((start (.still 0 false) erased).run previewedEarly).2.replay = .done := by
    decide +kernel
  exact ⟨steady_still _ _, steady_calmly _, booted,
    synced_run erased (steady_still _ _) (steady_calmly _) booted⟩

end Controller

end KnobPanel
