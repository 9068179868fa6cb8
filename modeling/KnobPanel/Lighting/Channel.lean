import KnobPanel.Fault
import KnobPanel.Lighting.Command

/-!
# Lighting channel

The lighting controller may be busy at any time. A command issued while it is
busy is parked in a single slot and retried later; the slot holds absolute
values, so the newest parked command replaces the older one.
-/

namespace KnobPanel

/-- A way to the lighting controller: a busy line and a write. Both are
exchanges, so the answer may differ from one call to the next. -/
class Link (L : Type) where
  isBusy : L → Bool × L
  transmit : List UInt8 → L → Except Fault Unit × L

structure Channel (L : Type) where
  link : L
  parked : Option Command := none

namespace Channel

variable {L : Type} [Link L]

def isBusy (channel : Channel L) : Bool × Channel L :=
  let answer := Link.isBusy channel.link
  (answer.1, { channel with link := answer.2 })

/-- The slot after `command` went out: an older parked value of the same
opcode is stale. -/
def settled (command : Command) (parked : Option Command) : Option Command :=
  parked.filter (·.opcode != command.opcode)

/-- Sends now, or parks the command while the line is busy. A failed transfer
is reported and leaves the slot alone. -/
def send (command : Command) (channel : Channel L) : Except Fault Unit × Channel L :=
  let answer := Link.isBusy channel.link
  if answer.1 then
    (.error .lightingBusy, { link := answer.2, parked := some command })
  else
    let sent := Link.transmit command.wire answer.2
    match sent.1 with
    | .ok () => (.ok (), { link := sent.2, parked := settled command channel.parked })
    | .error fault => (.error fault, { link := sent.2, parked := channel.parked })

/-- Retries the parked command while the line is free; answers whether
anything was put on the line. Only a completed transfer empties the slot. -/
def drain (channel : Channel L) : Bool × Channel L :=
  match channel.parked with
  | none => (false, channel)
  | some command =>
    let answer := Link.isBusy channel.link
    if answer.1 then
      (false, { channel with link := answer.2 })
    else
      let sent := Link.transmit command.wire answer.2
      match sent.1 with
      | .ok () => (true, { link := sent.2, parked := none })
      | .error _ => (true, { channel with link := sent.2 })

end Channel

end KnobPanel
