import KnobPanel.Proofs.FlatRecord
import KnobPanel.Proofs.Traffic

/-!
# What a tick does to the lights

A tick evaluates the auto-off, then wakes or reports for the staged key, then
serves the replay or the slot. Each part has one lemma that says all it may do;
the runs of ticks at the end record what each tick met, reported and left.
-/

namespace KnobPanel

-- ---------------------------------------------------------------------------
-- The two lights
-- ---------------------------------------------------------------------------

/-- The lights that an auto-off switches off and a key press brings back. -/
inductive Light where
  | keys
  | side
  deriving DecidableEq

namespace Light

def effect : Light → Opcode
  | keys => .rgbEffect
  | side => .sideEffect

def offAction : Light → AutoOffAction
  | keys => .rgbOff
  | side => .sideOff

def tier (settings : Settings) : Light → AutoOffTier
  | keys => settings.rgb.autoOff
  | side => settings.side.autoOff

def mode (settings : Settings) : Light → UInt8
  | keys => settings.rgb.mode.index
  | side => settings.side.mode.index

def restore (settings : Settings) (light : Light) : Command :=
  .byte light.effect (light.mode settings)

def isOff (lights : Lights) : Light → Bool
  | keys => lights.rgbOff
  | side => lights.sideOff

def mark (off : Bool) (lights : Lights) : Light → Lights
  | keys => { lights with rgbOff := off }
  | side => { lights with sideOff := off }

variable (off : Bool) (lights : Lights) (light other : Light)

theorem effect_inj {light other : Light} (h : light.effect = other.effect) : light = other := by
  cases light <;> cases other <;> first | rfl | cases h

@[simp] theorem isOff_mark :
    other.isOff (light.mark off lights) = if light = other then off else other.isOff lights := by
  cases light <;> cases other <;> rfl

theorem isOff_with_channel {lights : Lights} {light : Light} (channel : Channel ScriptedLine) :
    light.isOff { lights with channel } = light.isOff lights := by
  cases light <;> rfl

@[simp] theorem settings_mark : (light.mark off lights).settings = lights.settings := by
  cases light <;> rfl

end Light

-- ---------------------------------------------------------------------------
-- Auto-off
-- ---------------------------------------------------------------------------

/-- Nothing was told to the lights; a steady line has parked nothing either. -/
structure Channel.Silent (before after : Channel ScriptedLine) : Prop where
  lastSent : ∀ opcode, after.lastSent opcode = before.lastSent opcode
  steady : ∀ busy, before.link.Steady busy →
    after.link.Steady busy ∧ after.parked = before.parked

theorem Channel.Silent.refl (channel : Channel ScriptedLine) : channel.Silent channel :=
  ⟨fun _ => rfl, fun _ steady => ⟨steady, rfl⟩⟩

theorem Channel.Silent.trans {first second third : Channel ScriptedLine}
    (h : first.Silent second) (h' : second.Silent third) : first.Silent third where
  lastSent opcode := (h'.lastSent opcode).trans (h.lastSent opcode)
  steady busy steady :=
    have met := h.steady busy steady
    have left := h'.steady busy met.1
    ⟨left.1, left.2.trans met.2⟩

def Channel.ToldOff (light : Light) (before after : Channel ScriptedLine) : Prop :=
  ∀ opcode, after.lastSent opcode =
    if light.effect = opcode then some [0] else before.lastSent opcode

theorem Channel.Silent.toldOff {light : Light} {first second third : Channel ScriptedLine}
    (h : first.Silent second) (told : second.ToldOff light third) : first.ToldOff light third := by
  intro opcode
  rw [told opcode, h.lastSent opcode]

theorem AutoOff.sendOff_ok (light : Light) (channel : Channel ScriptedLine) :
    if (sendOff light.effect channel).1 then
      channel.ToldOff light (sendOff light.effect channel).2
    else
      channel.Silent (sendOff light.effect channel).2 := by
  unfold sendOff
  simp only
  cases answer : channel.isBusy.1 with
  | true => exact ⟨fun _ => rfl, fun _ steady => ⟨Channel.steady_isBusy steady, rfl⟩⟩
  | false =>
    have told := Channel.lastSent_send (.byte light.effect 0) channel.isBusy.2
    cases ok : (channel.isBusy.2.send (.byte light.effect 0)).1.isOk with
    | true =>
      intro opcode
      simpa [ok] using told opcode
    | false =>
      refine ⟨fun opcode => ?_, fun busy steady => ?_⟩
      · simpa [ok] using told opcode
      · -- a steady line that answered "free" takes the command
        have free := Channel.isBusy_of_steady steady
        have taken : (channel.isBusy.2.send (.byte light.effect 0)).1.isOk = !busy :=
          Channel.isOk_send _ (Channel.steady_isBusy steady)
        rw [ok, ← free, answer] at taken
        cases taken

theorem AutoOff.tryOff_ok (light : Light) (isOff : Bool) (tier : AutoOffTier) (idleSecs : Nat)
    (channel : Channel ScriptedLine) :
    if (tryOff light.effect isOff tier idleSecs channel).1 then
      isOff = false ∧ tier.expired idleSecs = true ∧
        channel.ToldOff light (tryOff light.effect isOff tier idleSecs channel).2
    else
      channel.Silent (tryOff light.effect isOff tier idleSecs channel).2 := by
  have ends := sendOff_ok light channel
  unfold tryOff
  cases due : !isOff && tier.expired idleSecs with
  | false => exact .refl channel
  | true =>
    simp only [Bool.and_eq_true, Bool.not_eq_true'] at due
    cases sent : (sendOff light.effect channel).1 with
    | false => simpa [sent] using ends
    | true => simpa [sent, due] using ends

/-- All that one auto-off evaluation may do, so many seconds after the last
activity. -/
inductive AutoOffStep (idleSecs : Nat) (lights : Lights) : Option AutoOffAction → Lights → Prop
  | displayOff :
      lights.displayOn = true → lights.settings.oled.autoOff.expired idleSecs = true →
      AutoOffStep idleSecs lights (some .displayOff) { lights with displayOn := false }
  | lightOff (light : Light) {channel : Channel ScriptedLine} :
      light.isOff lights = false → (light.tier lights.settings).expired idleSecs = true →
      lights.channel.ToldOff light channel →
      AutoOffStep idleSecs lights (some light.offAction)
        { light.mark true lights with channel }
  | nothing {channel : Channel ScriptedLine} :
      lights.channel.Silent channel → AutoOffStep idleSecs lights none { lights with channel }

theorem Board.autoOff_step (now : Millis) (board : Board) :
    AutoOffStep (board.idle.idleSecs now) board.lights (board.autoOff now).1
      (board.autoOff now).2.lights := by
  have keys := AutoOff.tryOff_ok .keys board.idle.rgbOff board.settings.rgb.autoOff
    (board.idle.idleSecs now) board.channel
  simp only [autoOff, AutoOff.run]
  split
  case isTrue due =>
    simp only [Bool.and_eq_true] at due
    have power : (board.draw [.power false]).lights = { board.lights with displayOn := false } := by
      simp only [lights, displayOn_draw_power]
      rfl
    exact power ▸ .displayOff due.1 due.2
  case isFalse =>
    split
    case isTrue sent =>
      simp only [Light.effect, sent, ↓reduceIte] at keys
      exact .lightOff .keys keys.1 keys.2.1 keys.2.2
    case isFalse unsent =>
      simp only [Light.effect, unsent] at keys
      have side := AutoOff.tryOff_ok .side board.idle.sideOff board.settings.side.autoOff
        (board.idle.idleSecs now)
        (AutoOff.tryOff .rgbEffect board.idle.rgbOff board.settings.rgb.autoOff
          (board.idle.idleSecs now) board.channel).2
      split
      case isTrue sent =>
        simp only [Light.effect, sent, ↓reduceIte] at side
        exact .lightOff .side side.1 side.2.1 (keys.toldOff side.2.2)
      case isFalse unsent =>
        simp only [Light.effect, unsent] at side
        exact .nothing (keys.trans side)

-- ---------------------------------------------------------------------------
-- Waking
-- ---------------------------------------------------------------------------

namespace Lights

variable (led : UInt8) (lights : Lights)

/-- The light that is brought back next, the key lights before the side
light. -/
def nextOff : Option Light :=
  if lights.rgbOff then some .keys else if lights.sideOff then some .side else none

/-- What is sent for a staged key: the next restore, or the report of the key
once nothing is left to bring back. -/
def wakeCommand : Command :=
  match lights.nextOff with
  | some light => light.restore lights.settings
  | none => .byte .rgbKeypress led

def wake : Lights :=
  { match lights.nextOff with
    | some light => light.mark false lights
    | none => lights with
    displayOn := true
    channel := (lights.channel.send (lights.wakeCommand led)).2 }

theorem isOff_of_nextOff {lights : Lights} {light : Light} (next : lights.nextOff = some light) :
    light.isOff lights = true := by
  unfold nextOff at next
  split at next
  case isTrue off =>
    cases next
    exact off
  case isFalse =>
    split at next
    case isTrue off =>
      cases next
      exact off
    case isFalse => cases next

theorem opcode_wakeCommand :
    (lights.wakeCommand led).opcode =
      match lights.nextOff with
      | some light => light.effect
      | none => .rgbKeypress := by
  unfold wakeCommand
  cases lights.nextOff <;> rfl

theorem opcode_wakeCommand_ne {light : Light} (other : lights.nextOff ≠ some light) :
    (lights.wakeCommand led).opcode ≠ light.effect := by
  rw [opcode_wakeCommand]
  cases next : lights.nextOff with
  | none => cases light <;> simp [Light.effect]
  | some woken => exact fun same => other (by rw [next, Light.effect_inj same])

@[simp] theorem settings_wake : (lights.wake led).settings = lights.settings := by
  unfold wake
  cases lights.nextOff with
  | none => rfl
  | some light => exact light.settings_mark false lights

theorem isOff_wake (light : Light) :
    light.isOff (lights.wake led) =
      if lights.nextOff = some light then false else light.isOff lights := by
  unfold wake
  cases lights.nextOff with
  | none => cases light <;> rfl
  | some woken => cases woken <;> cases light <;> rfl

end Lights

namespace Controller

variable {controller : Controller} {led : UInt8}

theorem notifyLed_of_none (staged : controller.stagedLed = none) :
    controller.notifyLed = controller := by
  simp only [notifyLed, staged]

theorem lights_powered (board : Board) :
    (if board.displayOn then board else board.draw [.power true]).lights =
      { board.lights with displayOn := true } := by
  split
  case isTrue on =>
    simp only [Board.lights, on]
  case isFalse =>
    simp only [Board.lights, Board.displayOn_draw_power]
    rfl

theorem notifyLed_ok (staged : controller.stagedLed = some led) :
    controller.notifyLed.board.lights = controller.board.lights.wake led ∧
      controller.notifyLed.stagedLed =
        if controller.board.lights.nextOff = none ∧
            (controller.board.channel.send (.byte .rgbKeypress led)).1.isOk then
          none
        else
          some led := by
  have powered := lights_powered controller.board
  simp only [notifyLed, staged]
  -- of the board with the display on only its lights matter
  generalize (if controller.board.displayOn then controller.board
    else controller.board.draw [.power true]) = board at powered
  simp only [Board.lights, Board.displayOn, Lights.mk.injEq] at powered
  obtain ⟨channel, rgbOff, sideOff, on, settings⟩ := powered
  cases keys : controller.board.idle.rgbOff with
  | true =>
    simp [Board.applyRgbEffect, Board.send, Board.lights, Board.displayOn, Lights.wake,
      Lights.nextOff, Lights.wakeCommand, Light.restore, Light.effect, Light.mode, Light.mark, *]
  | false =>
    cases side : controller.board.idle.sideOff with
    | true =>
      simp [Board.applySideEffect, Board.send, Board.lights, Board.displayOn, Lights.wake,
        Lights.nextOff, Lights.wakeCommand, Light.restore, Light.effect, Light.mode, Light.mark, *]
    | false =>
      simp [Board.send, Board.lights, Board.displayOn, Lights.wake, Lights.nextOff,
        Lights.wakeCommand, *]

@[simp] theorem replay_notifyLed (controller : Controller) :
    controller.notifyLed.replay = controller.replay := by
  obtain ⟨_, _, _, _, _, woken⟩ := controller.notifyLed_frame
  rw [woken]

-- ---------------------------------------------------------------------------
-- The whole tick
-- ---------------------------------------------------------------------------

variable (controller)

/-- The controller of a tick between waking and serving the lights. -/
def awake : Controller := (controller.now.2.autoOff controller.now.1).2.notifyLed

theorem lights_serveLights :
    controller.serveLights.2.board.lights =
      { controller.board.lights with channel := controller.serveLights.2.board.channel } := by
  obtain ⟨channel, replay, served⟩ := controller.serveLights_frame
  rw [served]
  rfl

@[simp] theorem stagedLed_serveLights :
    controller.serveLights.2.stagedLed = controller.stagedLed := by
  obtain ⟨channel, replay, served⟩ := controller.serveLights_frame
  rw [served]

theorem serveLights_of_done (done : controller.replay = .done) :
    controller.serveLights.2.board.channel = controller.board.channel.drain.2 ∧
      controller.serveLights.2.replay = .done := by
  simp only [serveLights, done, ↓reduceIte]
  exact ⟨rfl, trivial⟩

variable {controller}

theorem tick_returned (returned : controller.tick.1.returned = true) :
    controller.tick.1.autoOff = none ∧ controller.tick.1.replayed = none ∧
      controller.tick.2.board.lights = controller.board.lights ∧
      controller.tick.2.stagedLed = controller.stagedLed ∧
      controller.tick.2.replay = controller.replay := by
  unfold tick at returned ⊢
  simp only at returned ⊢
  split
  case isTrue =>
    exact ⟨rfl, rfl, lights_go controller.now.2 .dashboard, stagedLed_go controller.now.2 .dashboard,
      replay_go controller.now.2 .dashboard⟩
  case isFalse busy =>
    rw [if_neg busy] at returned
    cases returned

theorem tick_working (working : controller.tick.1.returned = false) :
    controller.tick.1.autoOff = (controller.now.2.board.autoOff controller.now.1).1 ∧
      controller.tick.1.replayed = controller.awake.serveLights.1 ∧
      controller.tick.2.board.lights = controller.awake.serveLights.2.board.lights ∧
      controller.tick.2.stagedLed = controller.awake.stagedLed ∧
      controller.tick.2.replay = controller.awake.serveLights.2.replay := by
  unfold tick at working ⊢
  simp only at working ⊢
  split
  case isTrue due =>
    rw [if_pos due] at working
    cases working
  case isFalse =>
    exact ⟨rfl, rfl, lights_drawScreen _, stagedLed_serveLights _, rfl⟩

theorem settings_autoOff (now : Millis) (board : Board) :
    (board.autoOff now).2.settings = board.settings := by
  simp only [Board.autoOff]
  split <;> rfl

theorem settings_tick (controller : Controller) :
    controller.tick.2.board.settings = controller.board.settings := by
  cases returned : controller.tick.1.returned with
  | true => exact congrArg Lights.settings (tick_returned returned).2.2.1
  | false =>
    obtain ⟨-, -, lights, -, -⟩ := tick_working returned
    rw [lights_serveLights] at lights
    have off := settings_autoOff controller.now.1 controller.now.2.board
    refine (congrArg Lights.settings lights).trans ?_
    unfold awake
    cases staged : (controller.now.2.autoOff controller.now.1).2.stagedLed with
    | none =>
      rw [notifyLed_of_none staged]
      exact off
    | some led =>
      have woken := congrArg Lights.settings (notifyLed_ok staged).1
      exact (woken.trans (Lights.settings_wake led _)).trans off

theorem tick_step (controller : Controller) :
    AutoOffStep (controller.board.idle.idleSecs controller.now.1) controller.board.lights
      controller.tick.1.autoOff
      (if controller.tick.1.returned then controller.board.lights
        else (controller.now.2.board.autoOff controller.now.1).2.lights) := by
  cases returned : controller.tick.1.returned with
  | true =>
    rw [(tick_returned returned).1]
    exact .nothing (.refl _)
  | false =>
    rw [(tick_working returned).1]
    exact Board.autoOff_step controller.now.1 controller.now.2.board

/-- A tick that wakes nothing leaves the marks and the display as its auto-off
left them. A light that just went off is not woken by the same tick. -/
theorem tick_asleep
    (asleep : controller.stagedLed = none ∨
      ∃ light : Light, controller.tick.1.autoOff = some light.offAction) :
    controller.tick.2.stagedLed = none ∧
      ∃ channel lights,
        AutoOffStep (controller.board.idle.idleSecs controller.now.1) controller.board.lights
          controller.tick.1.autoOff lights ∧
        controller.tick.2.board.lights = { lights with channel } := by
  have step := tick_step controller
  cases returned : controller.tick.1.returned with
  | true =>
    obtain ⟨none, -, lights, staged, -⟩ := tick_returned returned
    have unstaged : controller.stagedLed = .none := by
      rcases asleep with unstaged | ⟨light, acted⟩
      · exact unstaged
      · rw [none] at acted
        cases acted
    rw [returned, if_pos rfl] at step
    exact ⟨staged.trans unstaged, controller.board.channel, _, step, lights⟩
  | false =>
    obtain ⟨acted, -, lights, staged, -⟩ := tick_working returned
    -- a light that goes off takes the staged key with it
    have unstaged : (controller.now.2.autoOff controller.now.1).2.stagedLed = none := by
      simp only [autoOff]
      split
      case isTrue => rfl
      case isFalse kept =>
        rcases asleep with unstaged | ⟨light, off⟩
        · exact unstaged
        · rw [acted] at off
          cases light with
          | keys => exact absurd (.inl off) kept
          | side => exact absurd (.inr off) kept
    have awake : controller.awake = (controller.now.2.autoOff controller.now.1).2 :=
      notifyLed_of_none unstaged
    rw [returned, if_neg Bool.false_ne_true] at step
    rw [awake] at lights staged
    rw [lights_serveLights] at lights
    exact ⟨staged.trans unstaged, _, _, step, lights⟩

theorem tick_displayOn {led : UInt8} (staged : controller.stagedLed = some led)
    (dark : controller.tick.1.autoOff = some .displayOff) :
    controller.tick.2.board.displayOn = true := by
  cases returned : controller.tick.1.returned with
  | true =>
    rw [(tick_returned returned).1] at dark
    cases dark
  | false =>
    obtain ⟨acted, -, lights, -, -⟩ := tick_working returned
    have kept : (controller.now.2.autoOff controller.now.1).2.stagedLed = some led := by
      rw [acted] at dark
      simp only [autoOff]
      split
      case isTrue off =>
        rcases off with off | off <;> cases dark.symm.trans off
      case isFalse => exact staged
    have woken := (notifyLed_ok kept).1
    rw [lights_serveLights, awake, woken] at lights
    exact congrArg Lights.displayOn lights

-- ---------------------------------------------------------------------------
-- Runs of ticks
-- ---------------------------------------------------------------------------

structure TickRecord where
  met : Controller
  report : TickReport
  left : Controller

def ticks : List Moment → Controller → List TickRecord
  | [], _ => []
  | moment :: moments, controller =>
    let met := controller.meet moment
    { met, report := met.tick.1, left := met.tick.2 } :: met.tick.2.ticks moments

end Controller

-- ---------------------------------------------------------------------------
-- Concrete runs
-- ---------------------------------------------------------------------------

/-- One clock reading and one answer of the line all through a call. -/
def Moment.still (time : Millis) (busy : Bool) : Moment where
  clock _ := time
  busy _ := busy

namespace Controller

def erased : FlatStore where
  memory := ⟨.replicate 65536 0xFF⟩

def calmly (calls : List (Millis × HostEvent)) : List (Moment × HostEvent) :=
  calls.map fun call => (.still call.1 false, call.2)

/-- Started at time zero from a store that holds the settings, with the replay
done. -/
def started (settings : Settings) : Controller :=
  let store : FlatStore :=
    { memory := Memory.putAll (Record.image settings) ⟨.replicate 65536 0xFF⟩ }
  ((start (.still 0 false) store).run (.replicate 9 (.still 0 false, .tick))).2

theorem reachable_started (settings : Settings) : Reachable (started settings) :=
  (Reachable.start _ _).run _

end Controller

end KnobPanel
