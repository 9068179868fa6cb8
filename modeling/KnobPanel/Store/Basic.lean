import KnobPanel.Fault
import KnobPanel.Store.Memory

/-!
# Byte stores

Byte-addressed non-volatile storage. Every access may fail; a program over a
store stops at its first fault. `FlatStore` is the plain store: a memory, a
schedule of failing accesses and a record of what was attempted.
-/

namespace KnobPanel

abbrev StoreM (S : Type) := ExceptT Fault (StateM S)

class ByteStore (S : Type) where
  readByte : UInt16 → StoreM S UInt8
  writeByte : UInt16 → UInt8 → StoreM S Unit

export ByteStore (readByte writeByte)

inductive Access where
  | read (address : UInt16)
  | write (address : UInt16) (value : UInt8)
  deriving DecidableEq

/-- `faulty` tells which accesses fail, by their number; `log` holds the
attempts so far, newest first. -/
structure FlatStore where
  memory : Memory
  faulty : Nat → Access → Bool := fun _ _ => false
  turn : Nat := 0
  log : List Access := []

namespace FlatStore

def attempt (access : Access) : StoreM FlatStore Unit := do
  let store ← get
  set { store with turn := store.turn + 1, log := access :: store.log }
  if store.faulty store.turn access then throw .storage

instance : ByteStore FlatStore where
  readByte address := do
    attempt (.read address)
    return (← get).memory.get address
  writeByte address value := do
    attempt (.write address value)
    modify fun store => { store with memory := store.memory.set address value }

end FlatStore

end KnobPanel
