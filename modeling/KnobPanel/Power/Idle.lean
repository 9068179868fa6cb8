import KnobPanel.Clock

/-!
# Idle timers

When the user was last active, which lights an auto-off has switched off, and
after how long a menu falls back to the dashboard.
-/

namespace KnobPanel

structure IdleTimers where
  lastActivity : Millis
  rgbOff : Bool := false
  sideOff : Bool := false
  autoReturn : Option Nat := none
  deriving DecidableEq

namespace IdleTimers

def activity (now : Millis) (idle : IdleTimers) : IdleTimers := { idle with lastActivity := now }

def idleMs (now : Millis) (idle : IdleTimers) : UInt32 := Clock.elapsed now idle.lastActivity

def idleSecs (now : Millis) (idle : IdleTimers) : Nat := (idle.idleMs now).toNat / 1000

/-- Arms the return; 0 seconds disarm it. Either way this counts as activity. -/
def arm (secs : Nat) (now : Millis) (idle : IdleTimers) : IdleTimers :=
  { idle with autoReturn := if secs = 0 then none else some secs, lastActivity := now }

def disarm (idle : IdleTimers) : IdleTimers := { idle with autoReturn := none }

def returnDue (now : Millis) (idle : IdleTimers) : Bool :=
  idle.autoReturn.any fun secs => secs < idle.idleSecs now

end IdleTimers

end KnobPanel
