import KnobPanel.Lighting.Command
import KnobPanel.Settings.Tier

/-!
# Settings

Everything the user can change in the menus. `Settings.InRange` is what the
codec and the sliders keep.
-/

namespace KnobPanel

inductive HomeArt where
  | logo
  | bongoCat
  | cube
  | space
  deriving DecidableEq

namespace HomeArt

def index (art : HomeArt) : UInt8 := art.ctorIdx.toUInt8

/-- An index beyond the last artwork counts as the logo. -/
def ofIndex (index : UInt8) : HomeArt := [logo, bongoCat, cube, space].getD index.toNat logo

theorem ofIndex_index (art : HomeArt) : ofIndex art.index = art := by
  cases art <;> rfl

def cycle (forward : Bool) : HomeArt → HomeArt
  | logo => if forward then bongoCat else space
  | bongoCat => if forward then cube else logo
  | cube => if forward then space else bongoCat
  | space => if forward then logo else cube

end HomeArt

structure OledSettings where
  brightness : UInt8
  inverted : Bool
  autoOff : AutoOffTier
  deriving DecidableEq

structure RgbSettings where
  mode : RgbMode
  brightness : UInt8
  saturation : UInt8
  hue : UInt8
  hue2 : UInt8
  /-- Higher is faster. -/
  speed : UInt8
  autoOff : AutoOffTier
  deriving DecidableEq

structure SideSettings where
  mode : SideMode
  brightness : UInt8
  speed : UInt8
  autoOff : AutoOffTier
  deriving DecidableEq

structure Settings where
  oled : OledSettings
  rgb : RgbSettings
  side : SideSettings
  homeArt : HomeArt
  deriving DecidableEq

namespace Settings

def factory : Settings where
  oled := { brightness := 180, inverted := false, autoOff := .never }
  rgb :=
    { mode := .ripple, brightness := 25, saturation := 255, hue := 60, hue2 := 200,
      speed := maxRgbSpeed, autoOff := .never }
  side := { mode := .keyFlash, brightness := maxSideBrightness, speed := maxSideSpeed,
            autoOff := .never }
  homeArt := .logo

structure InRange (settings : Settings) : Prop where
  rgbBrightness : settings.rgb.brightness ≤ maxRgbBrightness
  rgbSpeed : settings.rgb.speed ≤ maxRgbSpeed
  sideBrightness : settings.side.brightness ≤ maxSideBrightness
  sideSpeed : settings.side.speed ≤ maxSideSpeed

theorem factory_inRange : factory.InRange := by
  constructor <;> decide

end Settings

end KnobPanel
