/-!
# Two-wire bus

A bus with one device behind it. A transaction is a list of writes and reads;
it either takes place whole or fails without effect.
-/

namespace KnobPanel

class Device (D : Type) where
  write : List UInt8 → D → D
  read : Nat → D → List UInt8 × D

inductive BusOp where
  | write (bytes : List UInt8)
  | read (length : Nat)
  deriving DecidableEq

/-- What was seen on the bus; `ops` is absent when the transaction failed. -/
structure Transaction where
  address : UInt8
  ops : Option (List BusOp)
  deriving DecidableEq

/-- `fails` tells which transactions fail, by their number; `log` holds them
all, newest first. -/
structure Bus (D : Type) where
  device : D
  fails : Nat → Bool := fun _ => false
  turn : Nat := 0
  log : List Transaction := []

namespace Bus

variable {D : Type} [Device D]

def perform : List BusOp → D → List UInt8 × D
  | [], device => ([], device)
  | .write bytes :: rest, device => perform rest (Device.write bytes device)
  | .read length :: rest, device =>
    let answer := Device.read length device
    let others := perform rest answer.2
    (answer.1 ++ others.1, others.2)

def transact (address : UInt8) (ops : List BusOp) (bus : Bus D) : Option (List UInt8) × Bus D :=
  if bus.fails bus.turn then
    (none, { bus with turn := bus.turn + 1, log := ⟨address, none⟩ :: bus.log })
  else
    let answer := perform ops bus.device
    (some answer.1,
      { bus with device := answer.2, turn := bus.turn + 1, log := ⟨address, some ops⟩ :: bus.log })

end Bus

end KnobPanel
