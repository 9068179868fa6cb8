import KnobPanel.Clock

/-!
# Pomodoro timer

Set a time, work, be called back by a flashing display, rest. The timer runs on
while its screen is not shown.
-/

namespace KnobPanel

namespace Pomodoro

inductive Phase where
  | idle
  | setTime
  | work
  | flash
  | rest
  deriving DecidableEq

structure Effects where
  toggleInvert : Bool := false
  restoreInvert : Bool := false
  redraw : Bool := false
  deriving DecidableEq

def defaultMinutes : Nat := 25

def minMinutes : Nat := 1

def maxMinutes : Nat := 60

def restMs : UInt32 := 5 * 60000

def flashFrames : Nat := Clock.frames 3000

end Pomodoro

structure Pomodoro where
  phase : Pomodoro.Phase := .idle
  deadline : Millis := 0
  /-- Length of the work period, 0 until it is first needed. -/
  minutes : Nat := 0
  flashed : Nat := 0
  deriving DecidableEq

namespace Pomodoro

/-- The outcome of one transition. A transition that is not `settled` is
followed by another one in the same tick. -/
structure Transition where
  timer : Pomodoro
  effects : Effects := {}
  settled : Bool := true
  deriving DecidableEq

def rested (now : Millis) (timer : Pomodoro) : Pomodoro :=
  { timer with phase := .rest, deadline := now + restMs }

def transition (now : Millis) (timer : Pomodoro) : Transition :=
  match timer.phase with
  | .idle =>
    let minutes := if timer.minutes = 0 then defaultMinutes else timer.minutes
    { timer := { timer with phase := .setTime, minutes }, settled := false }
  | .setTime => { timer }
  | .work =>
    if Clock.passed now timer.deadline then
      { timer := { timer with phase := .flash, flashed := 0 } }
    else
      { timer }
  | .flash =>
    let flashed := min (timer.flashed + 1) 255
    let timer := { timer with flashed }
    let toggleInvert := flashed % 8 = 7
    if flashFrames < flashed then
      { timer := timer.rested now
        effects := { toggleInvert, restoreInvert := true, redraw := true } }
    else
      { timer, effects := { toggleInvert } }
  | .rest =>
    if Clock.reached now timer.deadline then
      { timer := { timer with phase := .idle }, effects := { redraw := true } }
    else
      { timer }

/-- Transitions until one settles, at most `n` of them; the effects are those
of the last one. -/
def settle (now : Millis) : Nat → Pomodoro → Effects × Pomodoro
  | 0, timer => ({}, timer)
  | n + 1, timer =>
    let next := timer.transition now
    if next.settled then (next.effects, next.timer) else settle now n next.timer

/-- One tick. Only leaving `idle` takes a second transition. -/
def advance (now : Millis) (timer : Pomodoro) : Effects × Pomodoro := settle now 2 timer

def adjust (clockwise : Bool) (timer : Pomodoro) : Bool × Pomodoro :=
  if timer.phase = .setTime then
    let minutes := if clockwise then timer.minutes - 1 else timer.minutes + 1
    (true, { timer with minutes := max minMinutes (min minutes maxMinutes) })
  else
    (false, timer)

def start (now : Millis) (timer : Pomodoro) : Bool × Pomodoro :=
  if timer.phase = .setTime then
    (true, { timer with phase := .work, deadline := now + .ofNat (timer.minutes * 60000) })
  else
    (false, timer)

/-- The timer's screen is left. A flash is cut short and the rest begins; the
answer tells whether the display's inversion has to be handed back. -/
def leave (now : Millis) (timer : Pomodoro) : Bool × Pomodoro :=
  if timer.phase = .flash then (true, timer.rested now) else (false, timer)

def remainingSecs (now : Millis) (timer : Pomodoro) : Nat :=
  match timer.phase with
  | .setTime => timer.minutes * 60
  | .work | .rest =>
    if Clock.reached now timer.deadline then 0
    else (Clock.elapsed timer.deadline now).toNat / 1000
  | .idle | .flash => 0

end Pomodoro

end KnobPanel
