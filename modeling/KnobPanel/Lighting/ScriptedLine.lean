import KnobPanel.Lighting.Channel

/-!
# Scripted lighting line

A link whose answers are given from outside, by the number of the exchange, and
which remembers what happened on it.
-/

namespace KnobPanel

inductive Exchange where
  | query (busy : Bool)
  | transmit (bytes : List UInt8) (delivered : Bool)
  deriving DecidableEq

/-- `busy` and `delivers` answer the exchange with the given number; `log`
holds the exchanges so far, newest first. -/
structure ScriptedLine where
  busy : Nat → Bool := fun _ => false
  delivers : Nat → Bool := fun _ => true
  turn : Nat := 0
  log : List Exchange := []

namespace ScriptedLine

instance : Link ScriptedLine where
  isBusy line :=
    let answer := line.busy line.turn
    (answer, { line with turn := line.turn + 1, log := .query answer :: line.log })
  transmit bytes line :=
    let delivered := line.delivers line.turn
    (if delivered then .ok () else .error .bus,
      { line with turn := line.turn + 1, log := .transmit bytes delivered :: line.log })

def sent (log : List Exchange) : List (List UInt8) :=
  (log.filterMap fun
    | .transmit bytes true => some bytes
    | _ => none).reverse

end ScriptedLine

end KnobPanel
