import KnobPanel.Clock

/-!
# Encoder acceleration

While detents arrive in quick succession, each one counts for two steps more
than the one before, up to a ceiling. A slow detent counts once again.
-/

namespace KnobPanel

/-- A ceiling of 0 switches the acceleration off. -/
structure Acceleration where
  ceiling : Nat := 0
  multiplier : Nat := 1
  last : Option Millis := none
  deriving DecidableEq

namespace Acceleration

def windowMs : UInt32 := 200

def enable (ceiling : Nat) (acceleration : Acceleration) : Acceleration :=
  { acceleration with ceiling }

def isFast (now : Millis) (acceleration : Acceleration) : Bool :=
  acceleration.last.any fun last => Clock.elapsed now last < windowMs

def steps (now : Millis) (acceleration : Acceleration) : Nat × Acceleration :=
  if acceleration.ceiling = 0 then
    (1, acceleration)
  else
    let multiplier :=
      if acceleration.isFast now then min (acceleration.multiplier + 2) acceleration.ceiling else 1
    (multiplier, { acceleration with multiplier, last := some now })

end Acceleration

end KnobPanel
