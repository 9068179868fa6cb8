import KnobPanel.Clock
import KnobPanel.Hardware.ClimateSensor
import KnobPanel.Lighting.ScriptedLine
import KnobPanel.Store.Basic

/-!
# Surroundings of the controller

A moment holds what the surroundings answer during one call of the host: the
clock by the number of the reading, the lighting line by the number of the
exchange, the store by the number of the access.
-/

namespace KnobPanel

structure Moment where
  clock : Nat → Millis
  busy : Nat → Bool := fun _ => false
  delivers : Nat → Bool := fun _ => true
  storeFaulty : Nat → Access → Bool := fun _ _ => false
  sensorStarts : Bool := true
  climate : Option Climate := none

namespace Moment

def shift (k : Millis) (moment : Moment) : Moment :=
  { moment with clock := fun n => moment.clock n + k }

end Moment

structure ScriptedClock where
  readings : Nat → Millis
  turn : Nat := 0

structure ScriptedSensor where
  starts : Bool := true
  climate : Option Climate := none
  triggered : Nat := 0
  fetched : Nat := 0

namespace ScriptedSensor

def trigger (sensor : ScriptedSensor) : Except Fault Unit × ScriptedSensor :=
  (if sensor.starts then .ok () else .error .sensor,
    { sensor with triggered := sensor.triggered + 1 })

def read (sensor : ScriptedSensor) : Except Fault Climate × ScriptedSensor :=
  (match sensor.climate with
    | some climate => .ok climate
    | none => .error .sensor,
    { sensor with fetched := sensor.fetched + 1 })

end ScriptedSensor

end KnobPanel
