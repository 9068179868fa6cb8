import KnobPanel.Hardware.Bus
import KnobPanel.Lighting.Channel

/-!
# Lighting controller on the bus

The link over two wires and a pin for the busy line. A pin that cannot be read
counts as busy, so nothing is written blind.
-/

namespace KnobPanel

structure LightingChip where

instance : Device LightingChip where
  write _ chip := chip
  read _ chip := ([], chip)

/-- `pin` is the level of the busy line, absent when it cannot be read. -/
structure LightingBus where
  bus : Bus LightingChip
  pin : Option Bool := some false

namespace LightingBus

def busAddress : UInt8 := 0x5C

instance : Link LightingBus where
  isBusy lights := (lights.pin.getD true, lights)
  transmit bytes lights :=
    let answer := lights.bus.transact busAddress [.write bytes]
    (if answer.1.isSome then .ok () else .error .bus, { lights with bus := answer.2 })

end LightingBus

end KnobPanel
