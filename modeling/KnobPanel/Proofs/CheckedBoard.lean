import KnobPanel.Board
import KnobPanel.Lighting.Replay
import KnobPanel.Proofs.FlatRecord
import KnobPanel.Proofs.InterruptedSave
import KnobPanel.Proofs.MachineWords
import KnobPanel.Proofs.TypingRate

/-!
# The board in machine words

The record, the lighting line, the idle timers and the typing rate, once more with
every sum, difference, quotient and position checked. Whatever they are given, no
check fails; the typing rate has to be one that its word holds.
-/

namespace KnobPanel

-- ---------------------------------------------------------------------------
-- Record
-- ---------------------------------------------------------------------------

namespace Record

open StoreM (exec)

def image? (settings : Settings) : Option (List (UInt16 × UInt8)) := do
  let payload ← Word.each (fun (byte, i) => do
    let address ← Word.fit UInt16.size (payloadAddress.toNat + i)
    some (UInt16.ofNat address, byte)) settings.encode.toList.zipIdx
  some (payload ++ [(markerAddress, marker)])

theorem image?_eq (settings : Settings) : image? settings = some (image settings) := by
  have payload : Word.each (fun (byte, i) => do
      let address ← Word.fit UInt16.size (payloadAddress.toNat + i)
      some (UInt16.ofNat address, byte)) settings.encode.toList.zipIdx =
        some (settings.encode.toList.zipIdx.map fun (byte, i) =>
          (payloadAddress + .ofNat i, byte)) := by
    refine Word.each_eq_map ?_
    rintro ⟨byte, i⟩ found
    have bound : i < 15 := by
      have := List.snd_lt_of_mem_zipIdx found
      rwa [Vector.length_toList, Nat.add_zero] at this
    have address : payloadAddress.toNat + i < 65536 :=
      Nat.lt_of_lt_of_le (Nat.add_lt_add_left bound _) (by decide)
    simp only [Word.fit_short address, Option.bind_eq_bind, Option.bind_some, UInt16.ofNat_add,
      UInt16.ofNat_toNat]
  rw [image?, payload, image, List.mapIdx_eq_zipIdx_map]
  rfl

variable {S : Type} [ByteStore S]

def updateBytes? : List (UInt16 × UInt8) → Nat → S → Option (Except Fault Nat × S)
  | [], written, store => some (.ok written, store)
  | (address, value) :: rest, written, store =>
    match exec (updateByte address value) store with
    | (.error fault, after) => some (.error fault, after)
    | (.ok wrote, after) => do
      let written ← Word.fit Word.addressSize (written + wrote.toNat)
      updateBytes? rest written after

theorem updateBytes?_eq {writes : List (UInt16 × UInt8)} {written : Nat} (store : S)
    (few : written + writes.length < 4294967296) :
    updateBytes? writes written store =
      some ((exec (updateBytes writes) store).1.map (written + ·),
        (exec (updateBytes writes) store).2) := by
  induction writes generalizing written store with
  | nil => rfl
  | cons write writes ih =>
    simp only [List.length_cons] at few
    rw [updateBytes?, updateBytes, StoreM.exec_bind]
    rcases exec (updateByte write.1 write.2) store with ⟨fault | wrote, after⟩
    · rfl
    · have bit := wrote.toNat_le
      have counted : written + wrote.toNat < 4294967296 := by omega
      simp only [Word.fit_long counted, Option.bind_eq_bind, Option.bind_some]
      rw [ih after (by omega), StoreM.exec_bind]
      rcases exec (updateBytes writes) after with ⟨fault | others, last⟩
      · rfl
      · simp [Except.map, StoreM.exec_pure, Nat.add_assoc]

def save? (settings : Settings) (store : S) : Option (Except Fault Nat × S) := do
  let writes ← image? settings
  updateBytes? writes 0 store

theorem save?_eq (settings : Settings) (store : S) :
    save? settings store = some (exec (save settings) store) := by
  have few : 0 + (image settings).length < 4294967296 := by
    rw [length_image]
    decide
  rw [save?, image?_eq, Option.bind_eq_bind, Option.bind_some, updateBytes?_eq store few, save]
  cases exec (updateBytes (image settings)) store with
  | mk answer after => cases answer <;> simp [Except.map]

def readBytes? (start : UInt16) : (n : Nat) → S → Option (Except Fault (Vector UInt8 n) × S)
  | 0, store => some (exec (readBytes start 0) store)
  | n + 1, store => do
    match ← readBytes? start n store with
    | (.error fault, after) => some (.error fault, after)
    | (.ok front, between) =>
      let address ← Word.fit UInt16.size (start.toNat + n)
      let last := exec (readByte (UInt16.ofNat address)) between
      some (last.1.map front.push, last.2)

theorem readBytes?_eq {start : UInt16} {n : Nat} (room : start.toNat + n ≤ 65536) (store : S) :
    readBytes? start n store = some (exec (readBytes start n) store) := by
  induction n with
  | zero => rfl
  | succ n ih =>
    have address : UInt16.ofNat (start.toNat + n) = start + .ofNat n := by
      rw [UInt16.ofNat_add, UInt16.ofNat_toNat]
    rw [readBytes?, ih (by omega), readBytes, StoreM.exec_bind]
    simp only [Option.bind_eq_bind, Option.bind_some]
    rcases exec (readBytes start n) store with ⟨fault | front, between⟩
    · rfl
    · simp only [Word.fit_short (by omega : start.toNat + n < 65536), Option.bind_some, address,
        StoreM.exec_bind]
      cases exec (readByte (start + .ofNat n)) between with
      | mk answer after => cases answer <;> rfl

def load? (store : S) : Option (Except Fault (Option Settings) × S) :=
  match exec (readByte markerAddress) store with
  | (.error fault, after) => some (.error fault, after)
  | (.ok found, after) =>
    if found != marker then
      some (.ok none, after)
    else do
      let bytes ← readBytes? payloadAddress 15 after
      some (bytes.1.map fun bytes => some (.decode bytes), bytes.2)

theorem load?_eq (store : S) : load? store = some (exec load store) := by
  rw [load?, load, StoreM.exec_bind]
  rcases exec (readByte markerAddress) store with ⟨fault | found, after⟩
  · rfl
  · simp only
    split
    · rfl
    · rw [readBytes?_eq (by decide), StoreM.exec_bind]
      simp only [Option.bind_eq_bind, Option.bind_some]
      rcases exec (readBytes payloadAddress 15) after with ⟨fault | bytes, last⟩ <;> rfl

def loadOrInit? (store : S) : Option (Settings × S) := do
  match ← load? store with
  | (.ok (some settings), after) => some (settings, after)
  | (_, after) =>
    let saved ← save? .factory after
    some (.factory, saved.2)

theorem loadOrInit?_eq (store : S) : loadOrInit? store = some (loadOrInit store) := by
  have loaded : load.run store = exec load store := rfl
  rw [loadOrInit?, load?_eq, loadOrInit, loaded]
  simp only [Option.bind_eq_bind, Option.bind_some]
  rcases exec load store with ⟨fault | none | settings, after⟩
  · simp only [save?_eq, Option.bind_some]
    rfl
  · simp only [save?_eq, Option.bind_some]
    rfl
  · rfl

end Record

-- ---------------------------------------------------------------------------
-- Lighting line
-- ---------------------------------------------------------------------------

def rgbSpeedWire? (speed : UInt8) : Option UInt8 := do
  let slowest ← Word.fit UInt8.size (10 + maxRgbSpeed.toNat)
  let delay ← Word.minus slowest (min speed maxRgbSpeed).toNat
  some (.ofNat delay)

@[simp] theorem rgbSpeedWire?_eq (speed : UInt8) :
    rgbSpeedWire? speed = some (rgbSpeedWire speed) := by
  have slowest : Word.fit UInt8.size (10 + maxRgbSpeed.toNat) = some (10 + maxRgbSpeed).toNat := rfl
  have le : min speed maxRgbSpeed ≤ 10 + maxRgbSpeed :=
    Std.le_trans Std.min_le_right (by decide)
  rw [rgbSpeedWire?, slowest, Option.bind_eq_bind, Option.bind_some,
    Word.minus_of_le (UInt8.le_iff_toNat_le.mp le), Option.bind_some, rgbSpeedWire,
    UInt8.ofNat_sub (UInt8.le_iff_toNat_le.mp le), UInt8.ofNat_toNat, UInt8.ofNat_toNat]

/-- The bytes on the wire, out of a buffer of five. -/
def Command.wire? (command : Command) : Option (List UInt8) := do
  let payload ← Word.slice 0 (min command.payload.length 4) command.payload
  let rest ← Word.slice (1 + payload.length) 5 (.replicate 5 0)
  Word.slice 0 (1 + payload.length) (command.opcode.code :: payload ++ rest)

@[simp] theorem Command.wire?_eq (command : Command) : command.wire? = some command.wire := by
  have few := command.payload_le
  have payload : Word.slice 0 (min command.payload.length 4) command.payload =
      some command.payload := by
    rw [Word.slice_of_le (Nat.zero_le _) (Nat.min_le_left _ _), Nat.min_eq_left few,
      List.take_length, List.drop_zero]
  rw [wire?, payload, Option.bind_eq_bind, Option.bind_some,
    Word.slice_of_le (by omega) (Nat.le_refl 5), Option.bind_some,
    Word.slice_of_le (Nat.zero_le _) (by simp; omega), Nat.add_comm, wire]
  simp

namespace Channel

variable {L : Type} [Link L]

def send? (command : Command) (channel : Channel L) : Option (Except Fault Unit × Channel L) := do
  let answer := Link.isBusy channel.link
  if answer.1 then
    some (.error .lightingBusy, { link := answer.2, parked := some command })
  else
    let wire ← command.wire?
    let sent := Link.transmit wire answer.2
    match sent.1 with
    | .ok () => some (.ok (), { link := sent.2, parked := settled command channel.parked })
    | .error fault => some (.error fault, { link := sent.2, parked := channel.parked })

@[simp] theorem send?_eq (command : Command) (channel : Channel L) :
    channel.send? command = some (channel.send command) := by
  simp only [send?, send, Command.wire?_eq, Option.bind_eq_bind, Option.bind_some]
  split
  · rfl
  · cases (Link.transmit command.wire (Link.isBusy channel.link).2).1 <;> rfl

def drain? (channel : Channel L) : Option (Bool × Channel L) :=
  match channel.parked with
  | none => some (false, channel)
  | some command => do
    let answer := Link.isBusy channel.link
    if answer.1 then
      some (false, { channel with link := answer.2 })
    else
      let wire ← command.wire?
      let sent := Link.transmit wire answer.2
      match sent.1 with
      | .ok () => some (true, { link := sent.2, parked := none })
      | .error _ => some (true, { channel with link := sent.2 })

@[simp] theorem drain?_eq (channel : Channel L) : channel.drain? = some channel.drain := by
  rw [drain?, drain]
  cases channel.parked with
  | none => rfl
  | some command =>
    simp only [Command.wire?_eq, Option.bind_eq_bind, Option.bind_some]
    split
    · rfl
    · cases (Link.transmit command.wire (Link.isBusy channel.link).2).1 <;> rfl

end Channel

namespace ReplayStep

def replayed? (settings : Settings) : ReplayStep → Option (Option Command)
  | rgbSpeed => do
    let delay ← rgbSpeedWire? settings.rgb.speed
    some (some (.byte .rgbSpeed delay))
  | step => some (step.command? settings)

@[simp] theorem replayed?_eq (settings : Settings) (step : ReplayStep) :
    step.replayed? settings = some (step.command? settings) := by
  cases step <;> simp [replayed?, command?]

end ReplayStep

-- ---------------------------------------------------------------------------
-- Auto-off
-- ---------------------------------------------------------------------------

namespace AutoOffTier

def thresholdSecs? (tier : AutoOffTier) : Option Nat :=
  [0, 10, 60, 300, 600, 1800, 3600][tier.index.toNat]?

def expired? (tier : AutoOffTier) (idleSecs : Nat) : Option Bool :=
  if tier = never then
    some false
  else do
    let threshold ← tier.thresholdSecs?
    some (threshold < idleSecs)

@[simp] theorem expired?_eq (tier : AutoOffTier) (idleSecs : Nat) :
    tier.expired? idleSecs = some (tier.expired idleSecs) := by
  cases tier <;> rfl

def expiredIf? (asked : Bool) (tier : AutoOffTier) (idleSecs : Nat) : Option Bool :=
  if asked then tier.expired? idleSecs else some false

@[simp] theorem expiredIf?_eq (asked : Bool) (tier : AutoOffTier) (idleSecs : Nat) :
    tier.expiredIf? asked idleSecs = some (asked && tier.expired idleSecs) := by
  cases asked <;> simp [expiredIf?]

end AutoOffTier

namespace AutoOff

variable {L : Type} [Link L]

def sendOff? (opcode : Opcode) (channel : Channel L) : Option (Bool × Channel L) :=
  let answer := channel.isBusy
  if answer.1 then
    some (false, answer.2)
  else do
    let sent ← answer.2.send? (.byte opcode 0)
    some (sent.1.isOk, sent.2)

@[simp] theorem sendOff?_eq (opcode : Opcode) (channel : Channel L) :
    sendOff? opcode channel = some (sendOff opcode channel) := by
  simp only [sendOff?, sendOff]
  split <;> simp

def tryOff? (opcode : Opcode) (isOff : Bool) (tier : AutoOffTier) (idleSecs : Nat)
    (channel : Channel L) : Option (Bool × Channel L) := do
  let due ← tier.expiredIf? (!isOff) idleSecs
  if due then sendOff? opcode channel else some (false, channel)

@[simp] theorem tryOff?_eq (opcode : Opcode) (isOff : Bool) (tier : AutoOffTier) (idleSecs : Nat)
    (channel : Channel L) :
    tryOff? opcode isOff tier idleSecs channel =
      some (tryOff opcode isOff tier idleSecs channel) := by
  simp only [tryOff?, tryOff, AutoOffTier.expiredIf?_eq, sendOff?_eq, Option.bind_eq_bind,
    Option.bind_some]
  split <;> rfl

def run? (now : Millis) (settings : Settings) (displayOn : Bool) (idle : IdleTimers)
    (channel : Channel L) : Option (Option AutoOffAction × IdleTimers × Channel L) := do
  let idleSecs := idle.idleSecs now
  let due ← settings.oled.autoOff.expiredIf? displayOn idleSecs
  if due then
    some (some .displayOff, idle, channel)
  else
    let rgb ← tryOff? .rgbEffect idle.rgbOff settings.rgb.autoOff idleSecs channel
    if rgb.1 then
      some (some .rgbOff, { idle with rgbOff := true }, rgb.2)
    else
      let side ← tryOff? .sideEffect idle.sideOff settings.side.autoOff idleSecs rgb.2
      if side.1 then
        some (some .sideOff, { idle with sideOff := true }, side.2)
      else
        some (none, idle, side.2)

@[simp] theorem run?_eq (now : Millis) (settings : Settings) (displayOn : Bool) (idle : IdleTimers)
    (channel : Channel L) :
    run? now settings displayOn idle channel =
      some (run now settings displayOn idle channel) := by
  simp only [run?, run, AutoOffTier.expiredIf?_eq, tryOff?_eq, Option.bind_eq_bind,
    Option.bind_some]
  split
  · rfl
  · split
    · rfl
    · split <;> rfl

end AutoOff

-- ---------------------------------------------------------------------------
-- Typing rate
-- ---------------------------------------------------------------------------

namespace KeyRate

def press? (now : Millis) (counter : KeyRate) : Option KeyRate := do
  let rate ←
    match counter.last with
    | none => some counter.rate
    | some last =>
      let instant ← Word.divide 60000 (max (Clock.elapsed now last).toNat 1)
      let weighed ← Word.fit UInt32.size (12 * counter.rate)
      let sum ← Word.fit UInt32.size (instant + weighed)
      some (min (sum / 13) maxRate)
  some { total := counter.total + 1, rate, last := some now }

def decay? (now : Millis) (counter : KeyRate) : Option KeyRate :=
  match counter.last with
  | none => some counter
  | some last =>
    if decayMs < Clock.elapsed now last then do
      let weighed ← Word.fit UInt32.size (counter.rate * 12)
      some { counter with rate := weighed / 13, last := some now }
    else
      some counter

variable {counter : KeyRate} (holds : counter.rate ≤ maxRate) (now : Millis)
include holds

theorem press?_eq : counter.press? now = some (counter.press now) := by
  obtain ⟨total, rate, last⟩ := counter
  simp only [maxRate] at holds
  cases last with
  | none => rfl
  | some last =>
    have instant : instantaneous (Clock.elapsed now last) ≤ 60000 := instantaneous_le _
    -- the pause counts as one millisecond at least
    have quotient : Word.divide 60000 (max (Clock.elapsed now last).toNat 1) =
        some (instantaneous (Clock.elapsed now last)) :=
      Word.divide_of_pos (by omega)
    have weighed : 12 * rate < 4294967296 := by omega
    have sum : instantaneous (Clock.elapsed now last) + 12 * rate < 4294967296 := by omega
    simp only [press?, press, blend, quotient, Word.fit_long weighed, Word.fit_long sum,
      Option.bind_eq_bind, Option.bind_some]

theorem decay?_eq : counter.decay? now = some (counter.decay now) := by
  have weighed : counter.rate * 12 < 4294967296 := by
    simp only [maxRate] at holds
    omega
  rw [decay?, decay]
  cases counter.last with
  | none => rfl
  | some last =>
    simp only [Word.fit_long weighed, Option.bind_eq_bind, Option.bind_some]
    split <;> rfl

theorem rate_press_le : (counter.press now).rate ≤ maxRate := by
  rw [press]
  cases counter.last with
  | none => exact holds
  | some last => exact Nat.min_le_right _ _

theorem rate_decay_le : (counter.decay now).rate ≤ maxRate :=
  Nat.le_trans (rate_decay_le_rate now counter) holds

end KeyRate

-- ---------------------------------------------------------------------------
-- Board
-- ---------------------------------------------------------------------------

namespace Board

def send? (command : Command) (board : Board) : Option (Except Fault Unit × Board) := do
  let sent ← board.channel.send? command
  some (sent.1, { board with channel := sent.2 })

@[simp] theorem send?_eq (command : Command) (board : Board) :
    board.send? command = some (board.send command) := by
  simp [send?, send]

def drain? (board : Board) : Option (Bool × Board) := do
  let drained ← board.channel.drain?
  some (drained.1, { board with channel := drained.2 })

@[simp] theorem drain?_eq (board : Board) : board.drain? = some board.drain := by
  simp [drain?, drain]

def saveSettings? (board : Board) : Option Board := do
  let saved ← Record.save? board.settings board.store
  some { board with store := saved.2 }

@[simp] theorem saveSettings?_eq (board : Board) :
    board.saveSettings? = some board.saveSettings := by
  simp [saveSettings?, saveSettings, Record.save?_eq]
  rfl

def applyRgbEffect? (board : Board) : Option Board := do
  let sent ← board.send? (.byte .rgbEffect board.settings.rgb.mode.index)
  some sent.2

@[simp] theorem applyRgbEffect?_eq (board : Board) :
    board.applyRgbEffect? = some board.applyRgbEffect := by
  simp [applyRgbEffect?, applyRgbEffect]

def applySideEffect? (board : Board) : Option Board := do
  let sent ← board.send? (.byte .sideEffect board.settings.side.mode.index)
  some sent.2

@[simp] theorem applySideEffect?_eq (board : Board) :
    board.applySideEffect? = some board.applySideEffect := by
  simp [applySideEffect?, applySideEffect]

def autoOff? (now : Millis) (board : Board) : Option (Option AutoOffAction × Board) := do
  let done ← AutoOff.run? now board.settings board.displayOn board.idle board.channel
  let board := { board with idle := done.2.1, channel := done.2.2 }
  some (done.1, if done.1 = some .displayOff then board.draw [.power false] else board)

@[simp] theorem autoOff?_eq (now : Millis) (board : Board) :
    board.autoOff? now = some (board.autoOff now) := by
  simp [autoOff?, autoOff]

end Board

end KnobPanel
