import KnobPanel.Art.Cube
import KnobPanel.Display.Cells
import KnobPanel.Input.KeyRate
import KnobPanel.Input.Matrix
import KnobPanel.Moment
import KnobPanel.Pomodoro
import KnobPanel.Power.AutoOff
import KnobPanel.Store.Record

/-!
# Board

The collaborators of the controller, the settings, and the state that outlives
a change of screen.
-/

namespace KnobPanel

structure Board where
  display : DisplayLog := {}
  channel : Channel ScriptedLine
  store : FlatStore
  sensor : ScriptedSensor
  clock : ScriptedClock
  trig : Trigonometry := .fast
  settings : Settings
  idle : IdleTimers
  keyRate : KeyRate := {}
  pomodoro : Pomodoro := {}
  lockLeds : LockLeds := {}
  fnHeld : Bool := false
  firstFrame : Bool := true

namespace Board

def meet (moment : Moment) (board : Board) : Board :=
  { board with
    clock := { readings := moment.clock }
    channel :=
      { board.channel with
        link :=
          { board.channel.link with
            busy := moment.busy, delivers := moment.delivers, turn := 0 } }
    store := { board.store with faulty := moment.storeFaulty, turn := 0 }
    sensor := { board.sensor with starts := moment.sensorStarts, climate := moment.climate } }

def now (board : Board) : Millis × Board :=
  (board.clock.readings board.clock.turn,
    { board with clock := { board.clock with turn := board.clock.turn + 1 } })

def draw (ops : List DrawOp) (board : Board) : Board :=
  { board with display := board.display.run ops }

def displayOn (board : Board) : Bool := board.display.cells.on

def send (command : Command) (board : Board) : Except Fault Unit × Board :=
  let sent := board.channel.send command
  (sent.1, { board with channel := sent.2 })

def drain (board : Board) : Bool × Board :=
  let drained := board.channel.drain
  (drained.1, { board with channel := drained.2 })

/-- Saves the settings; a fault leaves them in memory for the next time. -/
def saveSettings (board : Board) : Board :=
  { board with store := ((Record.save board.settings).run board.store).2 }

def applyRgbEffect (board : Board) : Board :=
  (board.send (.byte .rgbEffect board.settings.rgb.mode.index)).2

def applySideEffect (board : Board) : Board :=
  (board.send (.byte .sideEffect board.settings.side.mode.index)).2

def autoOff (now : Millis) (board : Board) : Option AutoOffAction × Board :=
  let done := AutoOff.run now board.settings board.displayOn board.idle board.channel
  let board := { board with idle := done.2.1, channel := done.2.2 }
  (done.1, if done.1 = some .displayOff then board.draw [.power false] else board)

end Board

end KnobPanel
