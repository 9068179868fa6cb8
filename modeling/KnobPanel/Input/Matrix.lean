/-!
# Key matrix

Key positions, the events at them, and the chain of per-key LEDs.
-/

namespace KnobPanel

structure Key where
  row : UInt8
  col : UInt8
  deriving DecidableEq

namespace Key

def activate : Key := ⟨0, 0⟩

def function : Key := ⟨4, 1⟩

/-- Index of the key's LED on the serpentine chain: even rows run right to
left, odd rows left to right, and column 0 belongs to the end of the row above.
The encoder switch and positions outside the chain have none. -/
def led? (key : Key) : Option UInt8 :=
  if key = activate then
    none
  else
    let row := if key.col = 0 then key.row.toNat - 1 else key.row.toNat
    let col := key.col.toNat
    if row % 2 = 0 ∧ 15 < col then
      none
    else
      let index := 16 * row + if row % 2 = 0 then 15 - col else col
      if index < 256 then some (.ofNat index) else none

end Key

structure KeyEvent where
  keycode : UInt16
  key : Key
  pressed : Bool
  deriving DecidableEq

def escapeKeycode : UInt16 := 0x29

def spaceKeycode : UInt16 := 0x2C

structure LockLeds where
  num : Bool := false
  caps : Bool := false
  scroll : Bool := false
  deriving DecidableEq

/-- The host's report: bit 0 num, bit 1 caps, bit 2 scroll. -/
def LockLeds.ofBits (bits : UInt8) : LockLeds where
  num := bits &&& 1 != 0
  caps := bits &&& 2 != 0
  scroll := bits &&& 4 != 0

end KnobPanel
