import KnobPanel.Settings.Codec
import KnobPanel.Store.Basic

/-!
# Stored settings record

A validity marker and the payload behind it. The payload counts only while the
marker is right. Saving touches only the bytes that differ, payload first and
marker last.
-/

namespace KnobPanel.Record

/-- Changes with the layout of the payload. -/
def marker : UInt8 := 6

def markerAddress : UInt16 := 5

def payloadAddress : UInt16 := 6

/-- The bytes of a record with their addresses, in the order they are saved. -/
def image (settings : Settings) : List (UInt16 × UInt8) :=
  (settings.encode.toList.mapIdx fun i byte => (payloadAddress + .ofNat i, byte)) ++
    [(markerAddress, marker)]

variable {S : Type} [ByteStore S]

def readBytes (start : UInt16) : (n : Nat) → StoreM S (Vector UInt8 n)
  | 0 => return #v[]
  | n + 1 => do
    let front ← readBytes start n
    let last ← readByte (start + .ofNat n)
    return front.push last

def load : StoreM S (Option Settings) := do
  let found ← readByte markerAddress
  if found != marker then
    return none
  let bytes ← readBytes payloadAddress 15
  return some (.decode bytes)

/-- Writes the byte only where it differs; answers whether it did. -/
def updateByte (address : UInt16) (value : UInt8) : StoreM S Bool := do
  let old ← readByte address
  if old == value then
    return false
  writeByte address value
  return true

def updateBytes : List (UInt16 × UInt8) → StoreM S Nat
  | [] => return 0
  | (address, value) :: rest => do
    let written ← updateByte address value
    let others ← updateBytes rest
    return written.toNat + others

def save (settings : Settings) : StoreM S Nat := updateBytes (image settings)

/-- The stored settings; without a readable record, the factory settings,
which are then saved as far as the store permits. -/
def loadOrInit (store : S) : Settings × S :=
  match load.run store with
  | (.ok (some settings), store) => (settings, store)
  | (_, store) => (.factory, ((save .factory).run store).2)

end KnobPanel.Record
