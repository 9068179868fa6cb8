import KnobPanel.Settings.Basic

/-!
# Replay of the lighting settings

The lighting controller starts with defaults of its own. After power-up the
stored values are sent to it, one command per tick.
-/

namespace KnobPanel

inductive ReplayStep where
  | rgbEffect
  | rgbSaturation
  | rgbBrightness
  | rgbHue
  | rgbHue2
  | rgbSpeed
  | sideEffect
  | sideBrightness
  | sideSpeed
  | done
  deriving DecidableEq

namespace ReplayStep

def first : ReplayStep := rgbEffect

def next : ReplayStep → ReplayStep
  | rgbEffect => rgbSaturation
  | rgbSaturation => rgbBrightness
  | rgbBrightness => rgbHue
  | rgbHue => rgbHue2
  | rgbHue2 => rgbSpeed
  | rgbSpeed => sideEffect
  | sideEffect => sideBrightness
  | sideBrightness => sideSpeed
  | sideSpeed | done => done

def command? (settings : Settings) : ReplayStep → Option Command
  | rgbEffect => some (.byte .rgbEffect settings.rgb.mode.index)
  | rgbSaturation => some (.byte .rgbSaturation settings.rgb.saturation)
  | rgbBrightness => some (.byte .rgbBrightness settings.rgb.brightness)
  | rgbHue => some (.byte .rgbHue settings.rgb.hue)
  | rgbHue2 => some (.byte .rgbHue2 settings.rgb.hue2)
  | rgbSpeed => some (.byte .rgbSpeed (rgbSpeedWire settings.rgb.speed))
  | sideEffect => some (.byte .sideEffect settings.side.mode.index)
  | sideBrightness => some (.byte .sideBrightness settings.side.brightness)
  | sideSpeed => some (.byte .sideSpeed settings.side.speed)
  | done => none

theorem command?_eq_none_iff (settings : Settings) (step : ReplayStep) :
    step.command? settings = none ↔ step = done := by
  cases step <;> simp [command?]

end ReplayStep

end KnobPanel
