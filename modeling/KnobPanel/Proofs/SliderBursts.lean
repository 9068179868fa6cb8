import KnobPanel.Proofs.ChannelHistory
import KnobPanel.Proofs.SettingsSaved
import Mathlib.Data.List.Iterate

/-!
# Bursts of slider steps

A fast detent turns a slider several steps at once, and every step passes its
own value on. The value ends where single steps would lead it; the line gets all
the values in between, the slot keeps the last one only.
-/

namespace KnobPanel

-- ---------------------------------------------------------------------------
-- Dials
-- ---------------------------------------------------------------------------

/-- What a slider stands for: a field of the settings with its greatest value, and the
opcode under which the lights are told of it. -/
structure Dial where
  read : Settings → UInt8
  write : UInt8 → Settings → Settings
  wheel : Bool := false
  top : Nat := 255
  told : Option Opcode
  onWire : UInt8 → UInt8 := id

namespace Dial

/-- Where so many steps lead, counted at once: around the wheel, or to an end of the range
at most. -/
def destination (clockwise : Bool) (steps : Nat) (dial : Dial) (value : UInt8) : Int :=
  let aim : Int := if clockwise then value.toNat + steps else value.toNat - steps
  if dial.wheel then aim % 256 else max 0 (min aim dial.top)

def command? (dial : Dial) (value : UInt8) : Option Command :=
  dial.told.map fun opcode => .byte opcode (dial.onWire value)

end Dial

namespace SliderKind

/-- The speed goes over the wire as a delay of 10 to 60. -/
def dial : SliderKind → Dial
  | rgbSpeed =>
    { read := (·.rgb.speed)
      write := fun speed settings => { settings with rgb := { settings.rgb with speed } }
      top := 50
      told := some .rgbSpeed
      onWire := (60 - ·) }
  | rgbBrightness =>
    { read := (·.rgb.brightness)
      write := fun brightness settings =>
        { settings with rgb := { settings.rgb with brightness } }
      top := 50
      told := some .rgbBrightness }
  | rgbHue1 =>
    { read := (·.rgb.hue)
      write := fun hue settings => { settings with rgb := { settings.rgb with hue } }
      wheel := true
      told := some .rgbHue }
  | rgbHue2 =>
    { read := (·.rgb.hue2)
      write := fun hue2 settings => { settings with rgb := { settings.rgb with hue2 } }
      wheel := true
      told := some .rgbHue2 }
  | rgbSaturation =>
    { read := (·.rgb.saturation)
      write := fun saturation settings =>
        { settings with rgb := { settings.rgb with saturation } }
      told := some .rgbSaturation }
  | oledBrightness =>
    { read := (·.oled.brightness)
      write := fun brightness settings =>
        { settings with oled := { settings.oled with brightness } }
      told := none }
  | sideBrightness =>
    { read := (·.side.brightness)
      write := fun brightness settings =>
        { settings with side := { settings.side with brightness } }
      top := 127
      told := some .sideBrightness }
  | sideSpeed =>
    { read := (·.side.speed)
      write := fun speed settings => { settings with side := { settings.side with speed } }
      top := 10
      told := some .sideSpeed }

section
variable (kind : SliderKind)

theorem read_dial (settings : Settings) : kind.dial.read settings = kind.value settings := by
  cases kind <;> rfl

theorem write_dial (value : UInt8) (settings : Settings) :
    kind.dial.write value settings = kind.put value settings := by
  cases kind <;> rfl

theorem wheel_dial : kind.dial.wheel = kind.wraps := by
  cases kind <;> rfl

theorem top_dial : kind.dial.top = kind.limit.toNat := by
  cases kind <;> rfl

theorem command?_dial {value : UInt8} (le : value ≤ kind.limit) :
    kind.dial.command? value = kind.command? value := by
  cases kind with
  | rgbSpeed =>
    have delay : rgbSpeedWire value = 60 - value := by
      have least : min value maxRgbSpeed = value := if_pos le
      rw [rgbSpeedWire, least]
      rfl
    rw [command?, delay]
    rfl
  | _ => rfl

end

-- ---------------------------------------------------------------------------
-- Values
-- ---------------------------------------------------------------------------

def passed (clockwise : Bool) (steps : Nat) (kind : SliderKind) (value : UInt8) : List UInt8 :=
  .iterate (kind.step clockwise) (kind.step clockwise value) steps

section
variable {kind : SliderKind} {value : UInt8}

theorem toNat_step (le : value ≤ kind.limit) (clockwise : Bool) :
    ((kind.step clockwise value).toNat : Int) = kind.dial.destination clockwise 1 value := by
  have byte := UInt8.toNat_lt value
  rw [UInt8.le_iff_toNat_le] at le
  rw [step, Dial.destination, wheel_dial, top_dial]
  cases kind.wraps with
  | true =>
    cases clockwise with
    | true => simp [UInt8.toNat_add]
    | false =>
      simp [UInt8.toNat_sub]
      omega
  | false =>
    cases clockwise with
    | true =>
      have limit := UInt8.toNat_lt kind.limit
      by_cases below : value < kind.limit
      · rw [UInt8.lt_iff_toNat_lt] at below
        simp [UInt8.lt_iff_toNat_lt, below, UInt8.toNat_add]
        omega
      · rw [UInt8.lt_iff_toNat_lt] at below
        simp [UInt8.lt_iff_toNat_lt, below]
        omega
    | false =>
      by_cases zero : value = 0
      · simp [zero]
      · have pos : value.toNat ≠ 0 := fun same => zero (UInt8.toNat_inj.mp same)
        simp [zero, UInt8.toNat_sub]
        omega

theorem destination_zero (le : value ≤ kind.limit) (clockwise : Bool) :
    kind.dial.destination clockwise 0 value = value.toNat := by
  have byte := UInt8.toNat_lt value
  rw [UInt8.le_iff_toNat_le, ← top_dial] at le
  cases clockwise <;> simp [Dial.destination] <;> split <;> omega

/-- The first step leaves the destination where it is, also if it stops at the
end of the range. -/
theorem destination_succ (le : value ≤ kind.limit) (clockwise : Bool) (steps : Nat) :
    kind.dial.destination clockwise (steps + 1) value =
      kind.dial.destination clockwise steps (kind.step clockwise value) := by
  have first := toNat_step le clockwise
  have byte := UInt8.toNat_lt value
  rw [UInt8.le_iff_toNat_le, ← top_dial] at le
  unfold Dial.destination at first ⊢
  cases wheel : kind.dial.wheel <;> cases clockwise <;> simp [wheel] at first ⊢ <;> omega

theorem toNat_iterate_step (le : value ≤ kind.limit) (clockwise : Bool) (steps : Nat) :
    (((kind.step clockwise)^[steps] value).toNat : Int) =
      kind.dial.destination clockwise steps value := by
  induction steps generalizing value with
  | zero => exact (destination_zero le clockwise).symm
  | succ steps ih =>
    rw [Function.iterate_succ_apply, ih (step_le le clockwise), ← destination_succ le]

end

theorem iterate_step_le {kind : SliderKind} {value : UInt8} (le : value ≤ kind.limit)
    (clockwise : Bool) (steps : Nat) : (kind.step clockwise)^[steps] value ≤ kind.limit := by
  induction steps generalizing value with
  | zero => exact le
  | succ steps ih => exact ih (step_le le clockwise)

theorem getLast?_passed (clockwise : Bool) (steps : Nat) (kind : SliderKind) (value : UInt8) :
    (kind.passed clockwise (steps + 1) value).getLast? =
      some ((kind.step clockwise)^[steps + 1] value) := by
  rw [passed, List.getLast?_eq_getElem?, List.length_iterate,
    List.getElem?_iterate _ _ _ _ (by omega), Function.iterate_succ_apply]
  rfl

theorem exists_tell {kind : SliderKind} (lights : kind ≠ .oledBrightness) :
    ∃ tell : UInt8 → Command, (∀ value, kind.command? value = some (tell value)) ∧
      ∀ value other, (tell value).opcode = (tell other).opcode := by
  cases kind with
  | oledBrightness => exact absurd rfl lights
  | _ => exact ⟨_, fun _ => rfl, fun _ _ => rfl⟩

end SliderKind

-- ---------------------------------------------------------------------------
-- Commands in a row
-- ---------------------------------------------------------------------------

namespace ScriptedLine

/-- The line takes so many sends in a row. A send asks it once and then brings
the command. -/
def FreeFor (sends : Nat) (line : ScriptedLine) : Prop :=
  ∀ i < sends, line.busy (line.turn + 2 * i) = false ∧
    line.delivers (line.turn + 2 * i + 1) = true

def BusyFor (sends : Nat) (line : ScriptedLine) : Prop :=
  ∀ i < sends, line.busy (line.turn + i) = true

end ScriptedLine

namespace Channel

open ScriptedLine (sent)

def sendAll (commands : List Command) (channel : Channel ScriptedLine) : Channel ScriptedLine :=
  commands.foldl (fun channel command => (channel.send command).2) channel

@[simp] theorem sendAll_cons (command : Command) (commands : List Command)
    (channel : Channel ScriptedLine) :
    channel.sendAll (command :: commands) = (channel.send command).2.sendAll commands := rfl

variable {channel : Channel ScriptedLine} {sends : Nat}

theorem send_of_free (free : channel.link.FreeFor (sends + 1)) (command : Command) :
    (channel.send command).2.link.FreeFor sends ∧
      sent (channel.send command).2.link.log = sent channel.link.log ++ [command.wire] ∧
      (channel.send command).2.parked = settled command channel.parked := by
  obtain ⟨idle, taken⟩ := free 0 (by omega)
  rcases send_cases command channel with ⟨busy, -⟩ | ⟨-, -, delivered⟩ | ⟨-, lost, -⟩
  · exact absurd (busy.symm.trans idle) (by decide)
  · rw [delivered]
    refine ⟨?_, ?_, rfl⟩
    · intro i lt
      have later := free (i + 1) (by omega)
      rwa [show channel.link.turn + 2 * (i + 1) = channel.link.turn + 1 + 1 + 2 * i by omega]
        at later
    · simp_all [isBusy, Link.isBusy, Link.transmit]
  · exact absurd (lost.symm.trans taken) (by decide)

theorem send_of_busy (busy : channel.link.BusyFor (sends + 1)) (command : Command) :
    (channel.send command).2.link.BusyFor sends ∧
      sent (channel.send command).2.link.log = sent channel.link.log ∧
      (channel.send command).2.parked = some command := by
  have asked := busy 0 (by omega)
  rcases send_cases command channel with ⟨-, parked⟩ | ⟨idle, -⟩ | ⟨idle, -⟩
  · rw [parked]
    refine ⟨?_, by simp [isBusy, Link.isBusy], rfl⟩
    intro i lt
    have later := busy (i + 1) (by omega)
    rwa [show channel.link.turn + (i + 1) = channel.link.turn + 1 + i by omega] at later
  · exact absurd (idle.symm.trans asked) (by decide)
  · exact absurd (idle.symm.trans asked) (by decide)

theorem sendAll_of_free {commands : List Command} (free : channel.link.FreeFor commands.length) :
    sent (channel.sendAll commands).link.log =
        sent channel.link.log ++ commands.map Command.wire ∧
      (channel.sendAll commands).parked =
        channel.parked.filter fun waiting => commands.all (waiting.opcode != ·.opcode) := by
  induction commands generalizing channel with
  | nil =>
    obtain ⟨link, parked⟩ := channel
    cases parked <;> simp [sendAll, Option.filter]
  | cons command commands ih =>
    obtain ⟨free, delivered, slot⟩ := send_of_free free command
    obtain ⟨delivered', slot'⟩ := ih free
    rw [sendAll_cons, delivered', delivered, slot', slot, settled, Option.filter_filter]
    simp

theorem sendAll_of_busy {commands : List Command} (busy : channel.link.BusyFor commands.length) :
    sent (channel.sendAll commands).link.log = sent channel.link.log ∧
      (channel.sendAll commands).parked = commands.getLast?.or channel.parked := by
  induction commands generalizing channel with
  | nil => simp [sendAll]
  | cons command commands ih =>
    obtain ⟨busy, silent, slot⟩ := send_of_busy busy command
    obtain ⟨silent', slot'⟩ := ih busy
    rw [sendAll_cons, silent', silent, slot', slot, List.getLast?_cons]
    cases commands.getLast? <;> simp

/-- What so many commands of one opcode make of the line and the slot, the last
of them being the given one. -/
structure Told (sends : Nat) (command : Command) (met left : Channel ScriptedLine) : Prop where
  free : met.link.FreeFor sends →
    ∃ commands : List Command, commands.length = sends ∧
      (∀ earlier ∈ commands, earlier.opcode = command.opcode) ∧
      commands.getLast? = some command ∧
      sent left.link.log = sent met.link.log ++ commands.map Command.wire ∧
      left.parked = met.parked.filter (·.opcode != command.opcode)
  busy : met.link.BusyFor sends →
    sent left.link.log = sent met.link.log ∧ left.parked = some command

theorem told_sendAll {commands : List Command} {command : Command}
    (last : commands.getLast? = some command)
    (same : ∀ earlier ∈ commands, earlier.opcode = command.opcode)
    (channel : Channel ScriptedLine) :
    Told commands.length command channel (channel.sendAll commands) where
  free free := by
    obtain ⟨delivered, slot⟩ := sendAll_of_free free
    refine ⟨commands, rfl, same, last, delivered, ?_⟩
    rw [slot]
    congr 1
    funext waiting
    -- the row is not empty, so no command of it differs from the last one
    have found := List.mem_of_getLast? last
    grind
  busy busy := by
    obtain ⟨silent, slot⟩ := sendAll_of_busy busy
    exact ⟨silent, by rw [slot, last, Option.some_or]⟩

end Channel

-- ---------------------------------------------------------------------------
-- Steps of a slider
-- ---------------------------------------------------------------------------

namespace SliderKind

def turn (clockwise : Bool) (kind : SliderKind) (board : Board) : Board :=
  (kind.onRotate clockwise board).2

variable (clockwise : Bool) (steps : Nat) (kind : SliderKind) (board : Board)

theorem settings_turn : (kind.turn clockwise board).settings =
    kind.put (kind.step clockwise (kind.value board.settings)) board.settings := by
  simp only [turn, onRotate]
  split <;> rfl

theorem channel_turn : (kind.turn clockwise board).channel =
    board.channel.sendAll
      (kind.command? (kind.step clockwise (kind.value board.settings))).toList := by
  simp only [turn, onRotate]
  split
  case h_1 command sends => simp [sends, Board.send, Channel.sendAll]
  case h_2 quiet => simp [quiet, Board.draw, Channel.sendAll]

theorem settings_iterate_turn : ((kind.turn clockwise)^[steps] board).settings =
    kind.put ((kind.step clockwise)^[steps] (kind.value board.settings)) board.settings := by
  induction steps generalizing board with
  | zero => exact (kind.put_value board.settings).symm
  | succ steps ih =>
    rw [Function.iterate_succ_apply, ih, settings_turn, value_put, put_put,
      Function.iterate_succ_apply]

theorem channel_iterate_turn : ((kind.turn clockwise)^[steps] board).channel =
    board.channel.sendAll ((kind.passed clockwise steps (kind.value board.settings)).filterMap
      fun value => kind.command? value) := by
  induction steps generalizing board with
  | zero => rfl
  | succ steps ih =>
    rw [Function.iterate_succ_apply, ih, settings_turn, value_put, channel_turn]
    simp only [passed, List.iterate, List.filterMap_cons]
    cases kind.command? (kind.step clockwise (kind.value board.settings)) <;> rfl

/-- What a burst of so many steps makes of a board. -/
structure Burst (met left : Board) : Prop where
  single : kind.dial.read left.settings =
    (kind.step clockwise)^[steps] (kind.dial.read met.settings)
  value : ((kind.dial.read left.settings).toNat : Int) =
    kind.dial.destination clockwise steps (kind.dial.read met.settings)
  settings : left.settings = kind.dial.write (kind.dial.read left.settings) met.settings
  display : kind = .oledBrightness →
    left.display.cells.brightness = left.settings.oled.brightness ∧ left.channel = met.channel
  lights : kind ≠ .oledBrightness →
    ∃ command, kind.dial.command? (kind.dial.read left.settings) = some command ∧
      Channel.Told steps command met.channel left.channel

variable {kind board}

theorem told_iterate_turn (lights : kind ≠ .oledBrightness) :
    ∃ command,
      kind.command? ((kind.step clockwise)^[steps + 1] (kind.value board.settings)) =
        some command ∧
      Channel.Told (steps + 1) command board.channel
        ((kind.turn clockwise)^[steps + 1] board).channel := by
  obtain ⟨tell, tells, same⟩ := exists_tell lights
  have commands (values : List UInt8) :
      values.filterMap (fun value => kind.command? value) = values.map tell := by
    simp only [tells]
    exact congrFun List.filterMap_eq_map values
  have last : ((kind.passed clockwise (steps + 1) (kind.value board.settings)).map tell).getLast? =
      some (tell ((kind.step clockwise)^[steps + 1] (kind.value board.settings))) := by
    rw [List.getLast?_map, getLast?_passed, Option.map_some]
  have told := Channel.told_sendAll last (List.forall_mem_map.mpr fun _ _ => same _ _) board.channel
  rw [List.length_map, passed, List.length_iterate] at told
  rw [channel_iterate_turn, commands]
  exact ⟨_, tells _, told⟩

theorem burst_iterate_turn (inRange : kind.value board.settings ≤ kind.limit) (pos : 0 < steps) :
    kind.Burst clockwise steps board ((kind.turn clockwise)^[steps] board) := by
  obtain ⟨steps, rfl⟩ := Nat.exists_eq_add_of_lt pos
  have single : kind.value ((kind.turn clockwise)^[0 + steps + 1] board).settings =
      (kind.step clockwise)^[0 + steps + 1] (kind.value board.settings) := by
    rw [settings_iterate_turn, value_put]
  constructor
  case single => rw [read_dial, read_dial, single]
  case value =>
    rw [read_dial, read_dial, single]
    exact toNat_iterate_step inRange clockwise _
  case settings =>
    rw [read_dial, write_dial, single]
    exact settings_iterate_turn ..
  case display =>
    rintro rfl
    constructor
    · rw [Function.iterate_succ_apply']
      rfl
    · have quiet (values : List UInt8) :
          values.filterMap (fun value => command? value .oledBrightness) = [] := by
        simp [command?]
      rw [channel_iterate_turn, quiet]
      rfl
  case lights =>
    intro lights
    rw [read_dial, single, command?_dial _ (iterate_step_le inRange clockwise _)]
    exact told_iterate_turn clockwise _ lights

end SliderKind

-- ---------------------------------------------------------------------------
-- Detents
-- ---------------------------------------------------------------------------

theorem Acceleration.steps_pos (now : Millis) (acceleration : Acceleration) :
    0 < (acceleration.steps now).1 := by
  unfold steps
  split
  case isTrue => exact Nat.one_pos
  case isFalse accelerated =>
    simp only
    split <;> omega

theorem Screen.eq_slider_of_place {screen : Screen} {kind : SliderKind}
    (place : screen.place = .slider kind) : screen = .slider kind := by
  cases screen <;> cases place
  rfl

namespace Controller

variable {controller : Controller} {kind : SliderKind}

theorem turnScreen_slider (slider : controller.screen = .slider kind) (clockwise : Bool)
    (steps : Nat) (reaction : Reaction) :
    controller.turnScreen clockwise steps reaction =
      (if steps = 0 then reaction else .stop,
        { controller with board := (kind.turn clockwise)^[steps] controller.board }) := by
  induction steps generalizing controller reaction with
  | zero => rfl
  | succ steps ih =>
    obtain ⟨board, screen, listener, acceleration, stagedLed, replay⟩ := controller
    subst slider
    have stops : (kind.onRotate clockwise board).1 = .stop := rfl
    simp only [turnScreen, Screen.onRotate, stops]
    rw [if_neg (by decide), ih rfl, ite_self]
    rfl

/-- A detent on a slider carries out its whole burst and is not passed on. -/
theorem handleRotate_slider (slider : controller.screen = .slider kind)
    (inRange : (kind.dial.read controller.board.settings).toNat ≤ kind.dial.top)
    (clockwise : Bool) :
    (controller.handleRotate clockwise).1 = false ∧
      (controller.handleRotate clockwise).2.screen = .slider kind ∧
      kind.Burst clockwise (controller.acceleration.steps controller.now.1).1 controller.board
        (controller.handleRotate clockwise).2.board := by
  have pos := controller.acceleration.steps_pos controller.now.1
  have same : controller.counted.screen = .slider kind := slider
  have turned : controller.handleRotate clockwise =
      (false,
        { controller.counted with
          board := (kind.turn clockwise)^[(controller.acceleration.steps controller.now.1).1]
            controller.counted.board }) := by
    rw [handleRotate_eq, turnScreen_slider same, if_neg (by omega)]
    rfl
  rw [SliderKind.read_dial, SliderKind.top_dial] at inRange
  have burst : kind.Burst clockwise _ controller.counted.board _ :=
    SliderKind.burst_iterate_turn clockwise _ (UInt8.le_iff_toNat_le.mpr inRange) pos
  rw [turned]
  exact ⟨rfl, slider, burst.single, burst.value, burst.settings, burst.display, burst.lights⟩

/-- The saturation is lowered by a slow detent and then by a fast one. -/
def desaturated : List (Moment × HostEvent) :=
  let press : Millis × HostEvent := (0, .key ⟨0, .activate, true⟩)
  let next : Millis × HostEvent := (0, .rotate true)
  calmly ([press, next, press] ++ .replicate 5 next ++
    [press, (100, .rotate false), (150, .rotate false)])

theorem handleRotate_slider_desaturated :
    let controller :=
      ((start (.still 0 false) erased).run desaturated).2.meet (.still 200 false)
    controller.screen = .slider .rgbSaturation ∧
      controller.board.settings.rgb.saturation = 251 ∧
      (controller.acceleration.steps controller.now.1).1 = 5 ∧
      (controller.handleRotate true).1 = false ∧
      (controller.handleRotate true).2.screen = .slider .rgbSaturation ∧
      (controller.handleRotate true).2.board.settings.rgb.saturation = 255 ∧
      SliderKind.rgbSaturation.Burst true 5 controller.board
        (controller.handleRotate true).2.board := by
  intro controller
  have place : controller.screen.place = .slider .rgbSaturation := by decide +kernel
  have saturation : controller.board.settings.rgb.saturation = 251 := by decide +kernel
  have steps : (controller.acceleration.steps controller.now.1).1 = 5 := by decide +kernel
  have whole : (controller.handleRotate true).2.board.settings.rgb.saturation = 255 := by
    decide +kernel
  have slider := Screen.eq_slider_of_place place
  have byte := Nat.le_of_lt_succ controller.board.settings.rgb.saturation.toNat_lt
  obtain ⟨answer, stays, burst⟩ := handleRotate_slider slider byte true
  exact ⟨slider, saturation, steps, answer, stays, whole, steps ▸ burst⟩

end Controller

end KnobPanel
