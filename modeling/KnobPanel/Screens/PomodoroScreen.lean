import KnobPanel.Board
import KnobPanel.Screens.Route

/-!
# Pomodoro screen

The timer itself lives on the board; this screen shows it and hands inputs on
to it.
-/

namespace KnobPanel.PomodoroScreen

def twoDigits (fill : Char) (n : Nat) : String :=
  (if n < 10 then fill.toString else "") ++ toString n

def drawClock (seconds : Nat) : List DrawOp :=
  if 3600 < seconds then
    []
  else
    [.text (twoDigits ' ' (seconds / 60) ++ " : " ++ twoDigits '0' (seconds % 60)) false]

/-- The first frame, by the phase before the tick. -/
def drawFirst (phase : Pomodoro.Phase) : List DrawOp :=
  [.clear, .cursor 0 2, .image .tomato] ++
    match phase with
    | .work => [.cursor 42 2, .text "Tomato Timer" false]
    | .rest =>
      [.cursor 45 2, .text "Have a rest!" false, .cursor 45 7, .text "Press: exit" false]
    | .idle | .setTime | .flash => []

def drawEffects (inverted : Bool) (effects : Pomodoro.Effects) : List DrawOp :=
  (if effects.toggleInvert then [.invert .toggle] else []) ++
    if effects.restoreInvert then [.invert (.ofBool inverted)] else []

/-- Every frame, by the timer after the tick; a countdown that only just began
waits for the next frame. -/
def drawTimer (now : Millis) (before : Pomodoro.Phase) (timer : Pomodoro) : List DrawOp :=
  let clock := drawClock (timer.remainingSecs now)
  match timer.phase with
  | .setTime =>
    [.cursor 47 1, .text "Tomato Timer" false, .cursor 45 5, .text "Space:start" false,
      .cursor 45 6, .text "Rotate:adjust" false, .cursor 45 7, .text "Press:exit" false,
      .cursor 54 3] ++ clock
  | .work | .rest => if before = timer.phase then .cursor 54 5 :: clock else []
  | .idle | .flash => []

/-- One frame; answers whether the next one has to draw the screen afresh. -/
def draw (board : Board) : Bool × Board :=
  let time := board.now
  let board := time.2
  let before := board.pomodoro.phase
  let ticked := board.pomodoro.advance time.1
  let first := if board.firstFrame then drawFirst before else []
  (ticked.1.redraw,
    { board with pomodoro := ticked.2 }.draw
      (first ++ drawEffects board.settings.oled.inverted ticked.1 ++
        drawTimer time.1 before ticked.2))

def leave (board : Board) : Board :=
  let time := board.now
  let left := time.2.pomodoro.leave time.1
  let board := { time.2 with pomodoro := left.2 }
  if left.1 then board.draw [.invert (.ofBool board.settings.oled.inverted)] else board

def onRotate (clockwise : Bool) (board : Board) : Reaction × Board :=
  let adjusted := board.pomodoro.adjust clockwise
  (if adjusted.1 then .stop else .pass, { board with pomodoro := adjusted.2 })

/-- Escape leaves, and the key still reaches the host; space starts the work
period and is kept from it. -/
def onKey (event : KeyEvent) (board : Board) : Reaction × Board :=
  if !event.pressed then
    (.pass, board)
  else if event.keycode = escapeKeycode then
    ({ propagate := true, route := some .dashboard }, leave board)
  else if event.keycode = spaceKeycode then
    let time := board.now
    let started := time.2.pomodoro.start time.1
    (if started.1 then { propagate := false, redraw := true } else .pass,
      { time.2 with pomodoro := started.2 })
  else
    (.pass, board)

end KnobPanel.PomodoroScreen
