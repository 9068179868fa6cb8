import KnobPanel.Hardware.ClimateSensor
import KnobPanel.Proofs.MachineWords
import Mathlib.Data.Nat.Bitwise

/-!
# Frames of the climate sensor

A frame holds two values of 20 bits that share a byte. A reading scales the upper 16
bits of each, which makes at most one tenth of a difference, keeps the order of the
values, and fits the words it is worked out in.
-/

namespace KnobPanel

open Word (fit fitSigned shifted_or toNat_append)

-- ---------------------------------------------------------------------------
-- The two values
-- ---------------------------------------------------------------------------

namespace ClimateFrame

def humidity (frame : ClimateFrame) : BitVec 20 :=
  frame.humidityHigh.toBitVec ++ frame.humidityMiddle.toBitVec ++
    frame.shared.toBitVec.extractLsb' 4 4

def temperature (frame : ClimateFrame) : BitVec 20 :=
  frame.shared.toBitVec.extractLsb' 0 4 ++ frame.temperatureMiddle.toBitVec ++
    frame.temperatureLow.toBitVec

theorem toNat_humidity (frame : ClimateFrame) :
    frame.humidity.toNat =
      (frame.humidityHigh.toNat * 256 + frame.humidityMiddle.toNat) * 16 +
        frame.shared.toNat / 16 := by
  have := frame.shared.toNat_lt
  have high : (frame.shared.toBitVec.extractLsb' 4 4).toNat = frame.shared.toNat / 16 := by
    rw [BitVec.extractLsb'_toNat, Nat.shiftRight_eq_div_pow, UInt8.toNat_toBitVec]
    omega
  rw [humidity, toNat_append, toNat_append, high]
  rfl

theorem toNat_temperature (frame : ClimateFrame) :
    frame.temperature.toNat =
      (frame.shared.toNat % 16 * 256 + frame.temperatureMiddle.toNat) * 256 +
        frame.temperatureLow.toNat := by
  rw [temperature, toNat_append, toNat_append, BitVec.extractLsb'_toNat]
  rfl

theorem toNat_humidity_div (frame : ClimateFrame) :
    frame.humidity.toNat / 16 = frame.humidityHigh.toNat * 256 + frame.humidityMiddle.toNat := by
  have := frame.shared.toNat_lt
  rw [toNat_humidity]
  omega

theorem toNat_temperature_div (frame : ClimateFrame) :
    frame.temperature.toNat / 16 =
      frame.shared.toNat % 16 * 4096 + frame.temperatureMiddle.toNat * 16 +
        frame.temperatureLow.toNat / 16 := by
  rw [toNat_temperature]
  omega

end ClimateFrame

-- ---------------------------------------------------------------------------
-- Scaling
-- ---------------------------------------------------------------------------

namespace Climate

/-- A value of 20 bits in tenths of a range, from its upper 16 bits. -/
def tenths (range raw : Nat) : Nat := raw / 16 * range / 65536

section
variable {range raw : Nat}

theorem tenths_floor (small : range ≤ 65536) (raw : Nat) :
    tenths range raw = raw * range / 2 ^ 20 ∨ tenths range raw + 1 = raw * range / 2 ^ 20 := by
  have low : raw % 16 * range ≤ 15 * 65536 :=
    Nat.mul_le_mul (Nat.le_of_lt_succ (Nat.mod_lt _ (by decide))) small
  have parts : raw * range = 16 * (raw / 16 * range) + raw % 16 * range := by
    rw [← Nat.mul_assoc, ← Nat.add_mul, Nat.div_add_mod]
  rw [tenths, parts]
  omega

theorem tenths_lt (pos : 0 < range) (bits : raw < 2 ^ 20) : tenths range raw < range := by
  have upper : raw / 16 < 65536 := by omega
  rw [tenths, Nat.div_lt_iff_lt_mul (by decide), Nat.mul_comm range]
  exact Nat.mul_lt_mul_of_pos_right upper pos

theorem tenths_le_tenths {other : Nat} (le : raw ≤ other) :
    tenths range raw ≤ tenths range other :=
  Nat.div_le_div_right (Nat.mul_le_mul_right range (Nat.div_le_div_right le))

end

theorem testBit_seven_iff (status : UInt8) :
    status.toNat.testBit 7 = true ↔ 0x80 ≤ status.toNat := by
  have := status.toNat_lt
  rw [Nat.testBit_eq_decide_div_mod_eq, decide_eq_true_iff]
  omega

theorem ofFrame?_eq (frame : ClimateFrame) :
    ofFrame? frame =
      if frame.status.toNat.testBit 7 then none
      else some
        { temperature := (tenths 2000 frame.temperature.toNat : Nat) - 500
          humidity := tenths 1000 frame.humidity.toNat } := by
  simp only [tenths, frame.toNat_humidity_div, frame.toNat_temperature_div, testBit_seven_iff]
  rfl

-- ---------------------------------------------------------------------------
-- Words
-- ---------------------------------------------------------------------------

def humidityWord? (frame : ClimateFrame) : Option Nat :=
  fit UInt16.size (frame.humidityHigh.toNat <<< 8 ||| frame.humidityMiddle.toNat)

def temperatureWord? (frame : ClimateFrame) : Option Nat := do
  let top ← fit UInt32.size ((frame.shared &&& 0x0F).toNat <<< 12)
  let middle ← fit UInt32.size (frame.temperatureMiddle.toNat <<< 4)
  some (top ||| middle ||| (frame.temperatureLow >>> 4).toNat)

def tenths? (range upper : Nat) : Option Nat := do
  let product ← fit UInt32.size (upper * range)
  some (product >>> 16)

/-- The reading worked out bit by bit in machine words; absent where a word does not hold
its number. -/
def ofFrameInWords (frame : ClimateFrame) : Option (Option Climate) :=
  if frame.status &&& 0x80 ≠ 0 then
    some none
  else do
    let humidity ← humidityWord? frame
    let temperature ← temperatureWord? frame
    let steps ← tenths? 2000 temperature
    let signed ← fitSigned Int16.size steps
    let degrees ← fitSigned Int16.size (signed - 500)
    let percent ← tenths? 1000 humidity
    let percent ← fit UInt16.size percent
    some (some ⟨degrees, percent⟩)

theorem and_ne_zero_iff (status : UInt8) :
    status &&& 0x80 ≠ 0 ↔ status.toNat.testBit 7 = true := by
  rw [ne_eq, ← UInt8.toNat_inj, UInt8.toNat_and, Nat.and_comm]
  change ¬2 ^ 7 &&& status.toNat = 0 ↔ _
  rw [Nat.two_pow_and]
  cases status.toNat.testBit 7 <;> simp

theorem humidityWord?_eq (frame : ClimateFrame) :
    humidityWord? frame = some (frame.humidity.toNat / 16) := by
  have bits := frame.humidity.isLt
  have joined : frame.humidityHigh.toNat <<< 8 ||| frame.humidityMiddle.toNat =
      frame.humidity.toNat / 16 := by
    rw [frame.toNat_humidity_div]
    exact shifted_or frame.humidityMiddle.toNat_lt _
  rw [humidityWord?, joined]
  exact Word.fit_short (by omega)

theorem temperatureWord?_eq (frame : ClimateFrame) :
    temperatureWord? frame = some (frame.temperature.toNat / 16) := by
  have := frame.shared.toNat_lt
  have := frame.temperatureMiddle.toNat_lt
  have := frame.temperatureLow.toNat_lt
  have top : (frame.shared &&& 0x0F).toNat = frame.shared.toNat % 16 := by
    rw [UInt8.toNat_and]
    exact Nat.and_two_pow_sub_one_eq_mod _ 4
  have bottom : (frame.temperatureLow >>> 4).toNat = frame.temperatureLow.toNat / 16 := by
    rw [UInt8.toNat_shiftRight]
    exact Nat.shiftRight_eq_div_pow _ 4
  -- the three parts have no bit in common
  have middle : frame.temperatureMiddle.toNat <<< 4 < 2 ^ 12 := by
    rw [Nat.shiftLeft_eq]
    omega
  have joined : frame.shared.toNat % 16 * 2 ^ 12 + frame.temperatureMiddle.toNat <<< 4 =
      (frame.shared.toNat % 16 * 256 + frame.temperatureMiddle.toNat) <<< 4 := by
    rw [Nat.shiftLeft_eq, Nat.shiftLeft_eq]
    omega
  rw [temperatureWord?, top, bottom]
  refine Option.bind_eq_some_iff.mpr ⟨_, Word.fit_long ?_, ?_⟩
  · rw [Nat.shiftLeft_eq]
    omega
  refine Option.bind_eq_some_iff.mpr ⟨_, Word.fit_long (by omega), congrArg some ?_⟩
  rw [shifted_or middle, joined, shifted_or (by omega), frame.toNat_temperature_div]
  omega

theorem tenths?_eq {range raw : Nat} (small : range ≤ 65536) (bits : raw < 2 ^ 20) :
    tenths? range (raw / 16) = some (tenths range raw) := by
  have upper : raw / 16 ≤ 65535 := by omega
  have product : raw / 16 * range < 4294967296 :=
    Nat.lt_of_le_of_lt (Nat.mul_le_mul upper small) (by decide)
  exact Option.bind_eq_some_iff.mpr
    ⟨_, Word.fit_long product, congrArg some (Nat.shiftRight_eq_div_pow _ 16)⟩

theorem ofFrameInWords_eq (frame : ClimateFrame) :
    ofFrameInWords frame = some (ofFrame? frame) := by
  have damp := frame.humidity.isLt
  have warm := frame.temperature.isLt
  have steps : tenths 2000 _ < 2000 := tenths_lt (by decide) warm
  have percent : tenths 1000 _ < 1000 := tenths_lt (by decide) damp
  rw [ofFrame?_eq, ofFrameInWords]
  simp only [and_ne_zero_iff]
  split
  case isTrue busy => rfl
  case isFalse idle =>
    refine Option.bind_eq_some_iff.mpr ⟨_, humidityWord?_eq frame, ?_⟩
    refine Option.bind_eq_some_iff.mpr ⟨_, temperatureWord?_eq frame, ?_⟩
    refine Option.bind_eq_some_iff.mpr ⟨_, tenths?_eq (by decide) warm, ?_⟩
    refine Option.bind_eq_some_iff.mpr ⟨_, Word.fitSigned_short (by omega) (by omega), ?_⟩
    refine Option.bind_eq_some_iff.mpr ⟨_, Word.fitSigned_short (by omega) (by omega), ?_⟩
    refine Option.bind_eq_some_iff.mpr ⟨_, tenths?_eq (by decide) damp, ?_⟩
    exact Option.bind_eq_some_iff.mpr ⟨_, Word.fit_short (by omega), rfl⟩

-- ---------------------------------------------------------------------------
-- Readings
-- ---------------------------------------------------------------------------

/-- A reading of two values: each is scaled to its range and rounded down, or one
tenth less. -/
structure Measures (humidity temperature : BitVec 20) (reading : Climate) : Prop where
  humidity_floor : reading.humidity = humidity.toNat * 1000 / 2 ^ 20 ∨
    reading.humidity + 1 = humidity.toNat * 1000 / 2 ^ 20
  humidity_le : reading.humidity ≤ 999
  temperature_floor : reading.temperature = (temperature.toNat * 2000 / 2 ^ 20 : Nat) - 500 ∨
    reading.temperature + 1 = (temperature.toNat * 2000 / 2 ^ 20 : Nat) - 500
  le_temperature : -500 ≤ reading.temperature
  temperature_le : reading.temperature ≤ 1499

section
variable {frame : ClimateFrame} {reading : Climate}

theorem ofFrame?_eq_none_iff : ofFrame? frame = none ↔ frame.status.toNat.testBit 7 = true := by
  rw [ofFrame?_eq]
  simp

theorem scaled_of_ofFrame? (read : ofFrame? frame = some reading) :
    reading.temperature = (tenths 2000 frame.temperature.toNat : Nat) - 500 ∧
      reading.humidity = tenths 1000 frame.humidity.toNat := by
  rw [ofFrame?_eq] at read
  obtain ⟨-, found⟩ := Option.ite_none_left_eq_some.mp read
  cases found
  exact ⟨rfl, rfl⟩

theorem measures_of_ofFrame? (read : ofFrame? frame = some reading) :
    Measures frame.humidity frame.temperature reading := by
  obtain ⟨temperature, humidity⟩ := scaled_of_ofFrame? read
  have percent : tenths 1000 _ < 1000 := tenths_lt (by decide) frame.humidity.isLt
  have steps : tenths 2000 _ < 2000 := tenths_lt (by decide) frame.temperature.isLt
  have floor : tenths 2000 _ = _ ∨ _ :=
    tenths_floor (by decide : 2000 ≤ 65536) frame.temperature.toNat
  constructor
  · rw [humidity]
    exact tenths_floor (by decide) _
  all_goals omega

end

/-- A frame gives a reading unless its busy bit is set, and no word overflows on the way.
The reading measures the two values of the frame; it rises with each of them and
depends on nothing else in the frame. -/
theorem ofFrame_measures (frame : ClimateFrame) :
    (ofFrame? frame = none ↔ frame.status.toNat.testBit 7 = true) ∧
      ofFrameInWords frame = some (ofFrame? frame) ∧
      ∀ reading, ofFrame? frame = some reading →
        Measures frame.humidity frame.temperature reading ∧
        ∀ (other : ClimateFrame) (later : Climate), ofFrame? other = some later →
          (frame.humidity ≤ other.humidity → reading.humidity ≤ later.humidity) ∧
          (frame.temperature ≤ other.temperature → reading.temperature ≤ later.temperature) ∧
          (frame.humidity = other.humidity → frame.temperature = other.temperature →
            reading = later) := by
  refine ⟨ofFrame?_eq_none_iff, ofFrameInWords_eq frame, fun reading read =>
    ⟨measures_of_ofFrame? read, fun other later read' => ?_⟩⟩
  obtain ⟨temperature, humidity⟩ := scaled_of_ofFrame? read
  obtain ⟨temperature', humidity'⟩ := scaled_of_ofFrame? read'
  refine ⟨fun le => ?_, fun le => ?_, fun damp warm => ?_⟩
  · rw [humidity, humidity']
    exact tenths_le_tenths le
  · rw [temperature, temperature']
    exact Int.sub_le_sub_right (Int.ofNat_le.mpr (tenths_le_tenths le)) 500
  · rw [damp] at humidity
    rw [warm] at temperature
    cases reading
    cases later
    simp_all

end Climate

end KnobPanel
