import KnobPanel.Board
import KnobPanel.Display.Bar
import KnobPanel.Screens.Route

/-!
# Value sliders

Each slider is a field of the settings with a limit. Turning it changes the
settings and passes the new value on at once.
-/

namespace KnobPanel.SliderKind

def parent : SliderKind → MenuKind
  | oledBrightness => .oled
  | sideBrightness | sideSpeed => .side
  | rgbSpeed | rgbBrightness | rgbHue1 | rgbHue2 | rgbSaturation => .rgb

/-- The ceiling of the encoder acceleration, 0 for one step per detent. -/
def fastRotation : SliderKind → Nat
  | rgbSpeed => 1
  | rgbHue1 | rgbHue2 => 4
  | rgbSaturation | oledBrightness | sideBrightness => 10
  | rgbBrightness | sideSpeed => 0

def title : SliderKind → String
  | rgbSpeed | sideSpeed => "Speed"
  | rgbBrightness | sideBrightness => "Bright"
  | rgbHue1 | rgbHue2 => "Color"
  | rgbSaturation => "Saturation"
  | oledBrightness => "OLED Bright"

def limit : SliderKind → UInt8
  | rgbSpeed => maxRgbSpeed
  | rgbBrightness => maxRgbBrightness
  | sideBrightness => maxSideBrightness
  | sideSpeed => maxSideSpeed
  | rgbHue1 | rgbHue2 | rgbSaturation | oledBrightness => 255

def value (settings : Settings) : SliderKind → UInt8
  | rgbSpeed => settings.rgb.speed
  | rgbBrightness => settings.rgb.brightness
  | rgbHue1 => settings.rgb.hue
  | rgbHue2 => settings.rgb.hue2
  | rgbSaturation => settings.rgb.saturation
  | oledBrightness => settings.oled.brightness
  | sideBrightness => settings.side.brightness
  | sideSpeed => settings.side.speed

def put (value : UInt8) (settings : Settings) : SliderKind → Settings
  | rgbSpeed => { settings with rgb := { settings.rgb with speed := value } }
  | rgbBrightness => { settings with rgb := { settings.rgb with brightness := value } }
  | rgbHue1 => { settings with rgb := { settings.rgb with hue := value } }
  | rgbHue2 => { settings with rgb := { settings.rgb with hue2 := value } }
  | rgbSaturation => { settings with rgb := { settings.rgb with saturation := value } }
  | oledBrightness => { settings with oled := { settings.oled with brightness := value } }
  | sideBrightness => { settings with side := { settings.side with brightness := value } }
  | sideSpeed => { settings with side := { settings.side with speed := value } }

theorem value_put (kind : SliderKind) (value : UInt8) (settings : Settings) :
    kind.value (kind.put value settings) = value := by
  cases kind <;> rfl

theorem put_value (kind : SliderKind) (settings : Settings) :
    kind.put (kind.value settings) settings = settings := by
  cases kind <;> rfl

theorem put_put (kind : SliderKind) (value later : UInt8) (settings : Settings) :
    kind.put later (kind.put value settings) = kind.put later settings := by
  cases kind <;> rfl

/-- Hues lie on a wheel; every other value stops at the ends of its range. -/
def wraps : SliderKind → Bool
  | rgbHue1 | rgbHue2 => true
  | _ => false

def step (clockwise : Bool) (kind : SliderKind) (value : UInt8) : UInt8 :=
  if kind.wraps then
    if clockwise then value + 1 else value - 1
  else if clockwise then
    if value < kind.limit then value + 1 else kind.limit
  else
    if value = 0 then 0 else value - 1

def command? (value : UInt8) : SliderKind → Option Command
  | rgbSpeed => some (.byte .rgbSpeed (rgbSpeedWire value))
  | rgbBrightness => some (.byte .rgbBrightness value)
  | rgbHue1 => some (.byte .rgbHue value)
  | rgbHue2 => some (.byte .rgbHue2 value)
  | rgbSaturation => some (.byte .rgbSaturation value)
  | oledBrightness => none
  | sideBrightness => some (.byte .sideBrightness value)
  | sideSpeed => some (.byte .sideSpeed value)

def draw (settings : Settings) (kind : SliderKind) : List DrawOp :=
  let value := (kind.value settings).toNat
  let limit := kind.limit.toNat
  [.cursor 0 0, .text kind.title false, .advance true, .advance true] ++
    if kind.wraps then Bar.draw value limit else Bar.drawWithValue value limit

/-- One step of the slider. A value the lighting controller is too busy for is
parked, so the newest one reaches it later. -/
def onRotate (clockwise : Bool) (kind : SliderKind) (board : Board) : Reaction × Board :=
  let value := kind.step clockwise (kind.value board.settings)
  let board := { board with settings := kind.put value board.settings }
  (.stop,
    match kind.command? value with
    | some command => (board.send command).2
    | none => board.draw [.brightness board.settings.oled.brightness])

end KnobPanel.SliderKind
