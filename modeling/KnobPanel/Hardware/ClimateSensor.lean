import KnobPanel.Fault
import KnobPanel.Hardware.Bus

/-!
# Climate sensor

A measurement is started first and fetched on a later tick. A frame holds a
status byte, 20 bits of humidity, 20 bits of temperature and a checksum; the
upper 16 bits of either value are used.
-/

namespace KnobPanel

/-- One reading, in tenths of a degree Celsius and of a percent. -/
structure Climate where
  temperature : Int
  humidity : Nat
  deriving DecidableEq

abbrev ClimateFrame := Vector UInt8 7

namespace Climate

/-- The reading in a frame, or `none` while the busy bit, the highest of the
status byte, is set. -/
def ofFrame? (frame : ClimateFrame) : Option Climate :=
  if 0x80 ≤ frame[0].toNat then
    none
  else
    let humidity := frame[1].toNat * 256 + frame[2].toNat
    let temperature := frame[3].toNat % 16 * 4096 + frame[4].toNat * 16 + frame[5].toNat / 16
    some
      { temperature := (temperature * 2000 / 65536 : Nat) - 500
        humidity := humidity * 1000 / 65536 }

end Climate

/-! The bytes of a frame by what they hold. -/

namespace ClimateFrame

def status (frame : ClimateFrame) : UInt8 := frame[0]

def humidityHigh (frame : ClimateFrame) : UInt8 := frame[1]

def humidityMiddle (frame : ClimateFrame) : UInt8 := frame[2]

/-- The last four bits of the humidity and the first four of the temperature. -/
def shared (frame : ClimateFrame) : UInt8 := frame[3]

def temperatureMiddle (frame : ClimateFrame) : UInt8 := frame[4]

def temperatureLow (frame : ClimateFrame) : UInt8 := frame[5]

end ClimateFrame

structure ClimateProbe where
  frame : List UInt8 := []

instance : Device ClimateProbe where
  write _ probe := probe
  read length probe := (probe.frame.take length, probe)

structure ClimateSensor where
  bus : Bus ClimateProbe

namespace ClimateSensor

def busAddress : UInt8 := 0x38

def triggerCommand : List UInt8 := [0xAC, 0x33, 0x00]

def trigger (sensor : ClimateSensor) : Except Fault Unit × ClimateSensor :=
  let answer := sensor.bus.transact busAddress [.write triggerCommand]
  (if answer.1.isSome then .ok () else .error .sensor, ⟨answer.2⟩)

/-- Fetches the measurement; bytes the sensor leaves out count as zero. -/
def read (sensor : ClimateSensor) : Except Fault Climate × ClimateSensor :=
  let answer := sensor.bus.transact busAddress [.read 7]
  let reading := answer.1.bind fun bytes => Climate.ofFrame? (.ofFn fun i => bytes.getD i 0)
  (match reading with
    | some climate => .ok climate
    | none => .error .sensor,
    ⟨answer.2⟩)

end ClimateSensor

end KnobPanel
