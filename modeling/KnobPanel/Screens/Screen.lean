import KnobPanel.Screens.Dashboard
import KnobPanel.Screens.PomodoroScreen
import KnobPanel.Screens.SettingsMenu
import KnobPanel.Screens.Slider

/-!
# Active screen

Exactly one screen is active. Inputs go to it and come back as a reaction;
screens never switch by themselves.
-/

namespace KnobPanel

inductive Screen where
  | dashboard (dashboard : Dashboard)
  | menu (kind : MenuKind) (menu : Menu)
  | slider (kind : SliderKind)
  | pomodoro
  | help

namespace Screen

def helpText : List DrawOp :=
  [.text "-- Help --\n\nrotate: move\npress: select\n\n" false, .text "keypanel\n" false]

def draw (screen : Screen) (board : Board) : Bool × Screen × Board :=
  match screen with
  | dashboard state =>
    let drawn := state.draw board
    (false, dashboard drawn.1, drawn.2)
  | menu kind state => (false, menu kind state, board.draw state.draw)
  | slider kind => (false, slider kind, board.draw (kind.draw board.settings))
  | pomodoro =>
    let drawn := PomodoroScreen.draw board
    (drawn.1, pomodoro, drawn.2)
  | help => (false, help, if board.firstFrame then board.draw helpText else board)

def onRotate (clockwise : Bool) (screen : Screen) (board : Board) : Reaction × Screen × Board :=
  match screen with
  | dashboard state =>
    let turned := Dashboard.onRotate clockwise board
    (turned.1, dashboard state, turned.2)
  | menu kind state =>
    let turned := kind.onRotate clockwise state board
    (turned.1, menu kind turned.2.1, turned.2.2)
  | slider kind =>
    let turned := kind.onRotate clockwise board
    (turned.1, slider kind, turned.2)
  | pomodoro =>
    let turned := PomodoroScreen.onRotate clockwise board
    (turned.1, pomodoro, turned.2)
  | help => (.pass, help, board)

def onActivate (screen : Screen) (board : Board) : Reaction × Board :=
  match screen with
  | dashboard _ => (.go (.menu .settings), board)
  | menu kind state => kind.onActivate state.cursor board
  | slider kind => (.go (.menu kind.parent), board)
  | pomodoro => (.go .dashboard, PomodoroScreen.leave board)
  | help => (.go .dashboard, board)

def onKey (listener : Listener) (event : KeyEvent) (screen : Screen) (board : Board) :
    Reaction × Screen × Board :=
  match listener, screen with
  | .dashboard, dashboard state =>
    let reacted := state.onKey event board
    (reacted.1, dashboard reacted.2.1, reacted.2.2)
  | .dashboard, _ => (.pass, screen, board)
  | .pomodoro, _ =>
    let reacted := PomodoroScreen.onKey event board
    (reacted.1, screen, reacted.2)

end Screen

end KnobPanel
