import KnobPanel.Clock

/-!
# Typing rate

Keys per minute as a moving average: every press folds in the rate of the last
interval with weight 1 against 12. Without presses the estimate decays.
-/

namespace KnobPanel

structure KeyRate where
  total : UInt32 := 0
  /-- Keys per minute. -/
  rate : Nat := 0
  last : Option Millis := none
  deriving DecidableEq

namespace KeyRate

def maxRate : Nat := 65535

def decayMs : UInt32 := 500

def instantaneous (elapsed : UInt32) : Nat := 60000 / max elapsed.toNat 1

def blend (instant rate : Nat) : Nat := min ((instant + 12 * rate) / 13) maxRate

def press (now : Millis) (counter : KeyRate) : KeyRate where
  total := counter.total + 1
  rate :=
    match counter.last with
    | none => counter.rate
    | some last => blend (instantaneous (Clock.elapsed now last)) counter.rate
  last := some now

def decay (now : Millis) (counter : KeyRate) : KeyRate :=
  match counter.last with
  | none => counter
  | some last =>
    if decayMs < Clock.elapsed now last then
      { counter with rate := counter.rate * 12 / 13, last := some now }
    else
      counter

end KeyRate

end KnobPanel
