import KnobPanel.Lighting.Effect

/-!
# Lighting commands

A command is one write to the lighting controller: an opcode byte and up to
four payload bytes. The controller never answers.
-/

namespace KnobPanel

inductive Opcode where
  | rgbEffect
  | rgbHue
  | rgbHue2
  | rgbBrightness
  | rgbSaturation
  | rgbSpeed
  /-- Reports the LED index of a pressed key. -/
  | rgbKeypress
  | sideEffect
  | sideBrightness
  | sideSpeed
  | ping
  deriving DecidableEq

namespace Opcode

def code : Opcode → UInt8
  | rgbEffect => 3
  | rgbHue => 4
  | rgbHue2 => 5
  | rgbBrightness => 6
  | rgbSaturation => 7
  | rgbSpeed => 8
  | rgbKeypress => 9
  | sideEffect => 20
  | sideBrightness => 21
  | sideSpeed => 22
  | ping => 50

theorem code_inj {a b : Opcode} (h : a.code = b.code) : a = b := by
  revert h
  cases a <;> cases b <;> decide

end Opcode

def maxRgbBrightness : UInt8 := 50

def maxRgbSpeed : UInt8 := 50

def maxSideBrightness : UInt8 := 127

def maxSideSpeed : UInt8 := 10

/-- Users set speeds where higher is faster; the controller counts a frame
delay, where higher is slower. -/
def rgbSpeedWire (speed : UInt8) : UInt8 := 10 + maxRgbSpeed - min speed maxRgbSpeed

structure Command where
  opcode : Opcode
  payload : List UInt8
  payload_le : payload.length ≤ 4 := by simp
  deriving DecidableEq

namespace Command

def truncated (opcode : Opcode) (payload : List UInt8) : Command where
  opcode
  payload := payload.take 4
  payload_le := List.length_take_le 4 payload

def byte (opcode : Opcode) (value : UInt8) : Command where
  opcode
  payload := [value]

def wire (command : Command) : List UInt8 := command.opcode.code :: command.payload

theorem wire_byte (opcode : Opcode) (value : UInt8) :
    (byte opcode value).wire = [opcode.code, value] := rfl

theorem wire_inj {a b : Command} (h : a.wire = b.wire) : a = b := by
  obtain ⟨opcode, payload, _⟩ := a
  obtain ⟨opcode', payload', _⟩ := b
  simp only [wire, List.cons.injEq] at h
  obtain rfl := Opcode.code_inj h.1
  obtain rfl := h.2
  rfl

end Command

end KnobPanel
