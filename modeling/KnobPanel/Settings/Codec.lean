import KnobPanel.Settings.Basic

/-!
# Stored form of the settings

Fifteen bytes, one per field. Decoding accepts any bytes: every field that is
out of range is clamped or falls back.
-/

namespace KnobPanel

abbrev Payload := Vector UInt8 15

namespace Settings

def encode (settings : Settings) : Payload :=
  #v[settings.oled.brightness, settings.oled.inverted.toUInt8, settings.oled.autoOff.index,
    settings.rgb.mode.index, settings.rgb.brightness, settings.rgb.saturation, settings.rgb.hue,
    settings.rgb.hue2, settings.rgb.speed, settings.rgb.autoOff.index,
    settings.side.mode.index, settings.side.brightness, settings.side.speed,
    settings.side.autoOff.index, settings.homeArt.index]

/-- Limited values are clamped, unknown tiers mean `never`, unknown effects
and artworks the factory ones; only the low bit of the inversion counts. -/
def decode (bytes : Payload) : Settings where
  oled :=
    { brightness := bytes[0]
      inverted := bytes[1] &&& 1 != 0
      autoOff := .ofIndex bytes[2] }
  rgb :=
    { mode := (RgbMode.ofIndex? bytes[3]).getD factory.rgb.mode
      brightness := min bytes[4] maxRgbBrightness
      saturation := bytes[5]
      hue := bytes[6]
      hue2 := bytes[7]
      speed := min bytes[8] maxRgbSpeed
      autoOff := .ofIndex bytes[9] }
  side :=
    { mode := (SideMode.ofIndex? bytes[10]).getD factory.side.mode
      brightness := min bytes[11] maxSideBrightness
      speed := min bytes[12] maxSideSpeed
      autoOff := .ofIndex bytes[13] }
  homeArt := .ofIndex bytes[14]

theorem decode_inRange (bytes : Payload) : (decode bytes).InRange where
  rgbBrightness := Std.min_le_right
  rgbSpeed := Std.min_le_right
  sideBrightness := Std.min_le_right
  sideSpeed := Std.min_le_right

end Settings

end KnobPanel
