import KnobPanel.Hardware.Bus
import KnobPanel.Store.Memory

/-!
# EEPROM chip

A 64 KiB memory behind a two-wire bus. A write starts with a two-byte address;
its data goes on at a pointer that wraps inside the page of 128 bytes. Reads go
on from the pointer and wrap at the end of the memory.
-/

namespace KnobPanel

structure EepromChip where
  memory : Memory
  pointer : UInt16 := 0

namespace EepromChip

def pageSize : Nat := 128

def addressBytes (address : UInt16) : List UInt8 :=
  [.ofNat (address.toNat / 256), .ofNat address.toNat]

def addressOf (high low : UInt8) : UInt16 := .ofNat (256 * high.toNat + low.toNat)

theorem addressOf_addressBytes (address : UInt16) :
    addressOf (.ofNat (address.toNat / 256)) (.ofNat address.toNat) = address := by
  have := address.toNat_lt
  rw [← UInt16.toNat_inj]
  simp only [addressOf, UInt16.toNat_ofNat', UInt8.toNat_ofNat']
  omega

def nextInPage (address : UInt16) : UInt16 :=
  .ofNat (address.toNat / pageSize * pageSize + (address.toNat + 1) % pageSize)

def store (chip : EepromChip) (value : UInt8) : EepromChip where
  memory := chip.memory.set chip.pointer value
  pointer := nextInPage chip.pointer

def fetch : Nat → EepromChip → List UInt8 × EepromChip
  | 0, chip => ([], chip)
  | n + 1, chip =>
    let rest := fetch n { chip with pointer := chip.pointer + 1 }
    (chip.memory.get chip.pointer :: rest.1, rest.2)

instance : Device EepromChip where
  write
    | high :: low :: data, chip => data.foldl store { chip with pointer := addressOf high low }
    | _, chip => chip
  read := fetch

end EepromChip

end KnobPanel
