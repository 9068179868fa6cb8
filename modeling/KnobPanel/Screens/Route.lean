/-!
# Screens and routes

The screens by name, and what an input makes of the active one.
-/

namespace KnobPanel

inductive MenuKind where
  | settings
  | rgb
  | rgbEffect
  | rgbAutoOff
  | oled
  | oledAutoOff
  | side
  | sideEffect
  | sideAutoOff
  | artwork
  deriving DecidableEq

inductive SliderKind where
  | rgbSpeed
  | rgbBrightness
  | rgbHue1
  | rgbHue2
  | rgbSaturation
  | oledBrightness
  | sideBrightness
  | sideSpeed
  deriving DecidableEq

inductive Route where
  | dashboard
  | menu (kind : MenuKind)
  | slider (kind : SliderKind)
  | pomodoro
  | help
  deriving DecidableEq

inductive Listener where
  | dashboard
  | pomodoro
  deriving DecidableEq

structure Reaction where
  propagate : Bool
  route : Option Route := none
  redraw : Bool := false
  deriving DecidableEq

namespace Reaction

def pass : Reaction where
  propagate := true

def stop : Reaction where
  propagate := false

def go (route : Route) : Reaction where
  propagate := false
  route := some route

end Reaction

end KnobPanel
