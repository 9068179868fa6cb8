import KnobPanel.Hardware.EepromChip
import KnobPanel.Store.Basic

/-!
# EEPROM access

Reads and writes of any length over the bus. A write is cut at page
boundaries, so that the chip's pointer never wraps inside a page, and waits for
the chip's write cycle after every page.
-/

namespace KnobPanel

inductive EepromEvent where
  | transaction (transaction : Transaction)
  | wait (ns : Nat)
  deriving DecidableEq

/-- `waitedNs` is the time spent waiting for write cycles, `events` all that was done, newest
first. -/
structure Eeprom where
  bus : Bus EepromChip
  waitedNs : Nat := 0
  events : List EepromEvent := []

namespace Eeprom

def busAddress : UInt8 := 0x57

def writeCycleNs : Nat := 3000000

def room (address : UInt16) : Nat := EepromChip.pageSize - address.toNat % EepromChip.pageSize

theorem room_pos (address : UInt16) : 0 < room address :=
  Nat.sub_pos_of_lt (Nat.mod_lt _ (by decide))

/-- The data cut into pieces that stay inside their pages, each with its
start address. -/
def pages (address : UInt16) (data : List UInt8) : List (UInt16 × List UInt8) :=
  match data with
  | [] => []
  | byte :: rest =>
    let piece := (byte :: rest).take (room address)
    (address, piece) ::
      pages (address + .ofNat piece.length) ((byte :: rest).drop (room address))
termination_by data.length
decreasing_by
  have := room_pos address
  simp only [List.length_drop, List.length_cons]
  omega

def transact (ops : List BusOp) : StoreM Eeprom (List UInt8) := do
  let eeprom ← get
  let answer := eeprom.bus.transact busAddress ops
  let seen : Transaction := ⟨busAddress, answer.1.map fun _ => ops⟩
  set { eeprom with bus := answer.2, events := .transaction seen :: eeprom.events }
  match answer.1 with
  | some bytes => return bytes
  | none => throw .storage

def read (address : UInt16) (length : Nat) : StoreM Eeprom (List UInt8) :=
  transact [.write (EepromChip.addressBytes address), .read length]

def wait (ns : Nat) (eeprom : Eeprom) : Eeprom :=
  { eeprom with waitedNs := eeprom.waitedNs + ns, events := .wait ns :: eeprom.events }

def writePages : List (UInt16 × List UInt8) → StoreM Eeprom Unit
  | [] => return ()
  | (address, piece) :: rest => do
    let _ ← transact [.write (EepromChip.addressBytes address ++ piece)]
    modify (wait writeCycleNs)
    writePages rest

def write (address : UInt16) (data : List UInt8) : StoreM Eeprom Unit :=
  writePages (pages address data)

instance : ByteStore Eeprom where
  readByte address := return (← read address 1).headD 0
  writeByte address value := write address [value]

end Eeprom

end KnobPanel
