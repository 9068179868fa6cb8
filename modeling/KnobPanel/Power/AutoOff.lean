import KnobPanel.Lighting.Channel
import KnobPanel.Power.Idle
import KnobPanel.Settings.Basic

/-!
# Auto-off

Switches the display or a light off after its idle tier, at most one per call:
the display first, then the key lights, then the side light. A light counts as
switched off only once its command went out; a busy line is asked again on the
next call.
-/

namespace KnobPanel

inductive AutoOffAction where
  | displayOff
  | rgbOff
  | sideOff
  deriving DecidableEq

namespace AutoOff

variable {L : Type} [Link L]

def sendOff (opcode : Opcode) (channel : Channel L) : Bool × Channel L :=
  let answer := channel.isBusy
  if answer.1 then
    (false, answer.2)
  else
    let sent := answer.2.send (.byte opcode 0)
    (sent.1.isOk, sent.2)

def tryOff (opcode : Opcode) (isOff : Bool) (tier : AutoOffTier) (idleSecs : Nat)
    (channel : Channel L) : Bool × Channel L :=
  if !isOff && tier.expired idleSecs then sendOff opcode channel else (false, channel)

/-- `displayOn` tells whether the display is on; switching it off is left to
the caller. -/
def run (now : Millis) (settings : Settings) (displayOn : Bool) (idle : IdleTimers)
    (channel : Channel L) : Option AutoOffAction × IdleTimers × Channel L :=
  let idleSecs := idle.idleSecs now
  if displayOn && settings.oled.autoOff.expired idleSecs then
    (some .displayOff, idle, channel)
  else
    let rgb := tryOff .rgbEffect idle.rgbOff settings.rgb.autoOff idleSecs channel
    if rgb.1 then
      (some .rgbOff, { idle with rgbOff := true }, rgb.2)
    else
      let side := tryOff .sideEffect idle.sideOff settings.side.autoOff idleSecs rgb.2
      if side.1 then
        (some .sideOff, { idle with sideOff := true }, side.2)
      else
        (none, idle, side.2)

end AutoOff

end KnobPanel
