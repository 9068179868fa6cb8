/-!
# Lighting effects

The effects of the per-key lights and of the side light, numbered as they are
sent and stored.
-/

namespace KnobPanel

/-- Effects of the per-key lights, in wire order. -/
inductive RgbMode where
  | off
  | solid
  | breath
  | rainbow
  | rainbowHorizontal
  | rainbowVertical
  | gradientHorizontal
  | gradientVertical
  | raindrops
  | track
  | trackRgb
  | ripple
  | rippleRgb
  | noise
  | test
  deriving DecidableEq

namespace RgbMode

def all : List RgbMode :=
  [off, solid, breath, rainbow, rainbowHorizontal, rainbowVertical, gradientHorizontal,
    gradientVertical, raindrops, track, trackRgb, ripple, rippleRgb, noise, test]

def index (mode : RgbMode) : UInt8 := mode.ctorIdx.toUInt8

def ofIndex? (index : UInt8) : Option RgbMode := all[index.toNat]?

theorem ofIndex?_index (mode : RgbMode) : ofIndex? mode.index = some mode := by
  cases mode <;> rfl

theorem index_lt (mode : RgbMode) : mode.index < 15 := by
  cases mode <;> decide

end RgbMode

inductive SideMode where
  | off
  | breath
  | keyFlash
  | solid
  deriving DecidableEq

namespace SideMode

def all : List SideMode := [off, breath, keyFlash, solid]

def index (mode : SideMode) : UInt8 := mode.ctorIdx.toUInt8

def ofIndex? (index : UInt8) : Option SideMode := all[index.toNat]?

theorem ofIndex?_index (mode : SideMode) : ofIndex? mode.index = some mode := by
  cases mode <;> rfl

theorem index_lt (mode : SideMode) : mode.index < 4 := by
  cases mode <;> decide

end SideMode

end KnobPanel
