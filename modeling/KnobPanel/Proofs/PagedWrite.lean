import KnobPanel.Hardware.Eeprom
import KnobPanel.Proofs.FlatRecord

/-!
# Writing across pages

The chip's pointer goes round inside its page, and a write is cut so that no piece
reaches the point where it does. What arrives in the memory is the data from the
start address on, past the end of the memory too, and nothing else.
-/

namespace KnobPanel

-- ---------------------------------------------------------------------------
-- Memory
-- ---------------------------------------------------------------------------

theorem UInt16.add_ofNat_add (address : UInt16) (m n : Nat) :
    address + .ofNat m + .ofNat n = address + .ofNat (m + n) := by
  rw [UInt16.ofNat_add, UInt16.add_assoc]

namespace Memory

/-- Bytes stored one after the other; the first address follows the last one. -/
def fill (address : UInt16) : List UInt8 → Memory → Memory
  | [], memory => memory
  | byte :: rest, memory => fill (address + 1) rest (memory.set address byte)

theorem fill_append (address : UInt16) (front back : List UInt8) (memory : Memory) :
    memory.fill address (front ++ back) =
      (memory.fill address front).fill (address + .ofNat front.length) back := by
  induction front generalizing address memory with
  | nil => simp [fill]
  | cons byte front ih =>
    have next : address + 1 + .ofNat front.length = address + .ofNat (front.length + 1) := by
      rw [Nat.add_comm front.length, ← UInt16.add_ofNat_add]
      rfl
    rw [List.cons_append, fill, fill, ih, next, List.length_cons]

theorem get_fill {data : List UInt8} (fits : data.length ≤ 65536) (address : UInt16)
    (memory : Memory) (other : UInt16) :
    (memory.fill address data).get other =
      data[(other - address).toNat]?.getD (memory.get other) := by
  induction data generalizing address memory with
  | nil => rfl
  | cons byte data ih =>
    have short : data.length ≤ 65535 := Nat.le_of_succ_le_succ fits
    rw [fill, ih (Nat.le_succ_of_le short), get_set]
    by_cases here : other = address
    case pos =>
      -- the bytes that follow end before they come round to the first one
      have round : address - (address + 1) = 65535 := by grind
      have outside : data[(address - (address + 1)).toNat]? = none := by
        rw [round]
        exact List.getElem?_eq_none short
      rw [here, if_pos rfl, outside, UInt16.sub_self]
      rfl
    case neg =>
      have later : (other - address).toNat = (other - (address + 1)).toNat + 1 := by
        have apart : other.toNat ≠ address.toNat := fun same => here (UInt16.toNat_inj.mp same)
        have := other.toNat_lt
        have := address.toNat_lt
        simp only [UInt16.toNat_sub, UInt16.toNat_add, UInt16.reduceToNat]
        omega
      rw [if_neg here, later, List.getElem?_cons_succ]

theorem get_fill_inside {data : List UInt8} (fits : data.length ≤ 65536) (address : UInt16)
    (memory : Memory) {i : Nat} (hi : i < data.length) :
    (memory.fill address data).get (address + .ofNat i) = data[i] := by
  have offset : (address + .ofNat i - address).toNat = i := by
    rw [UInt16.add_comm, UInt16.add_sub_cancel]
    exact UInt16.toNat_ofNat_of_lt' (Nat.lt_of_lt_of_le hi fits)
  rw [get_fill fits, offset, List.getElem?_eq_getElem hi]
  rfl

theorem get_fill_outside {data : List UInt8} (fits : data.length ≤ 65536) {address other : UInt16}
    (memory : Memory) (outside : ∀ i < data.length, other ≠ address + .ofNat i) :
    (memory.fill address data).get other = memory.get other := by
  have beyond : data.length ≤ (other - address).toNat := by
    refine Nat.le_of_not_lt fun inside => outside _ inside ?_
    rw [UInt16.ofNat_toNat, UInt16.add_comm, UInt16.sub_add_cancel]
  rw [get_fill fits, List.getElem?_eq_none beyond]
  rfl

end Memory

-- ---------------------------------------------------------------------------
-- The chip
-- ---------------------------------------------------------------------------

namespace EepromChip

theorem nextInPage_of_lt {address : UInt16} (room : address.toNat % pageSize + 1 < pageSize) :
    nextInPage address = address + 1 := by
  have := address.toNat_lt
  rw [← UInt16.toNat_inj]
  simp only [nextInPage, pageSize, UInt16.toNat_add, UInt16.toNat_ofNat', UInt16.reduceToNat] at *
  omega

theorem mod_pageSize_succ {address : UInt16} (room : address.toNat % pageSize + 1 < pageSize) :
    (address + 1).toNat % pageSize = address.toNat % pageSize + 1 := by
  simp only [pageSize, UInt16.toNat_add, UInt16.reduceToNat] at *
  omega

theorem memory_store {piece : List UInt8} (chip : EepromChip)
    (inPage : chip.pointer.toNat % pageSize + piece.length ≤ pageSize) :
    (piece.foldl store chip).memory = chip.memory.fill chip.pointer piece := by
  induction piece generalizing chip with
  | nil => rfl
  | cons byte piece ih =>
    cases piece with
    | nil => rfl
    | cons next piece =>
      have room : chip.pointer.toNat % pageSize + 1 < pageSize := by
        simp only [List.length_cons] at inPage
        omega
      have moved : (chip.store byte).pointer = chip.pointer + 1 := nextInPage_of_lt room
      rw [List.foldl_cons, ih (chip.store byte), moved]
      · rfl
      · rw [moved, mod_pageSize_succ room]
        simp only [List.length_cons] at inPage ⊢
        omega

theorem write_addressed (address : UInt16) (data : List UInt8) (chip : EepromChip) :
    Device.write (addressBytes address ++ data) chip =
      data.foldl store { chip with pointer := address } := by
  change data.foldl store { chip with pointer := addressOf _ _ } = _
  rw [addressOf_addressBytes]

theorem memory_write (address : UInt16) {piece : List UInt8} (chip : EepromChip)
    (inPage : address.toNat % pageSize + piece.length ≤ pageSize) :
    (Device.write (addressBytes address ++ piece) chip).memory =
      chip.memory.fill address piece := by
  rw [write_addressed, memory_store _ inPage]

theorem fetch_eq (n : Nat) (chip : EepromChip) :
    fetch n chip =
      ((List.range n).map fun i => chip.memory.get (chip.pointer + .ofNat i),
        { chip with pointer := chip.pointer + .ofNat n }) := by
  induction n generalizing chip with
  | zero => simp [fetch]
  | succ n ih =>
    have step (i : Nat) : chip.pointer + 1 + .ofNat i = chip.pointer + .ofNat (i + 1) := by
      rw [Nat.add_comm i, ← UInt16.add_ofNat_add]
      rfl
    simp only [fetch, ih, step, List.range_succ_eq_map, List.map_cons, List.map_map]
    congr 2
    simp

theorem perform_read (address : UInt16) (n : Nat) (chip : EepromChip) :
    Bus.perform [.write (addressBytes address), .read n] chip =
      ((List.range n).map fun i => chip.memory.get (address + .ofNat i),
        { chip with pointer := address + .ofNat n }) := by
  have placed : Device.write (addressBytes address) chip = { chip with pointer := address } :=
    write_addressed address [] chip
  rw [Bus.perform, placed]
  change ((fetch n _).1 ++ [], (fetch n _).2) = _
  rw [fetch_eq, List.append_nil]

end EepromChip

-- ---------------------------------------------------------------------------
-- Pieces
-- ---------------------------------------------------------------------------

namespace Eeprom

open EepromChip (pageSize addressBytes)
open StoreM (exec)

/-- Data cut up for the chip. -/
structure Paged (address : UInt16) (data : List UInt8) (pieces : List (UInt16 × List UInt8)) :
    Prop where
  sized : ∀ piece ∈ pieces, 1 ≤ piece.2.length ∧ piece.2.length ≤ pageSize
  inPage : ∀ piece ∈ pieces, ∀ i < piece.2.length,
    (piece.1 + .ofNat i).toNat / pageSize = piece.1.toNat / pageSize
  whole : (pieces.map Prod.snd).flatten = data
  joined : ∀ before piece later, pieces = before ++ piece :: later →
    piece.1 = address + .ofNat (before.map Prod.snd).flatten.length

theorem length_take_room (address : UInt16) (byte : UInt8) (rest : List UInt8) :
    1 ≤ ((byte :: rest).take (room address)).length ∧
      address.toNat % pageSize + ((byte :: rest).take (room address)).length ≤ pageSize := by
  have := room_pos address
  have := Nat.mod_lt address.toNat (show 0 < pageSize by decide)
  simp only [room, List.length_take, List.length_cons] at *
  omega

theorem pages_roomy (address : UInt16) (data : List UInt8) :
    ∀ piece ∈ pages address data,
      1 ≤ piece.2.length ∧ piece.1.toNat % pageSize + piece.2.length ≤ pageSize := by
  induction address, data using pages.induct with
  | case1 address => simp [pages]
  | case2 address byte rest piece ih =>
    rw [pages]
    rintro found (_ | ⟨_, later⟩)
    · exact length_take_room address byte rest
    · exact ih found later

theorem paged_pages (address : UInt16) (data : List UInt8) :
    Paged address data (pages address data) := by
  have roomy := pages_roomy address data
  refine ⟨fun piece found => ?_, fun piece found i inside => ?_, ?_, ?_⟩
  · have := roomy piece found
    omega
  · have room := (roomy piece found).2
    have := piece.1.toNat_lt
    simp only [pageSize, UInt16.toNat_add, UInt16.toNat_ofNat'] at room ⊢
    omega
  · clear roomy
    induction address, data using pages.induct with
    | case1 address => simp [pages]
    | case2 address byte rest piece ih =>
      rw [pages, List.map_cons, List.flatten_cons, ih]
      exact List.take_append_drop ..
  · clear roomy
    induction address, data using pages.induct with
    | case1 address => simp [pages]
    | case2 address byte rest piece ih =>
      rintro (_ | ⟨first, before⟩) found later parts
      · rw [pages] at parts
        cases parts
        simp
      · rw [pages, List.cons_append] at parts
        obtain rfl := (List.cons.inj parts).1
        have start := ih before found later (List.cons.inj parts).2
        rw [start, UInt16.add_ofNat_add, List.map_cons, List.flatten_cons, List.length_append]

-- ---------------------------------------------------------------------------
-- Writing
-- ---------------------------------------------------------------------------

def memory (eeprom : Eeprom) : Memory := eeprom.bus.device.memory

def request (piece : UInt16 × List UInt8) : Transaction :=
  ⟨busAddress, some [.write (addressBytes piece.1 ++ piece.2)]⟩

/-- What is done for a piece: it goes over the bus, and a write cycle is waited for. -/
def steps (piece : UInt16 × List UInt8) : List EepromEvent :=
  [.transaction (request piece), .wait writeCycleNs]

def sendPage (eeprom : Eeprom) (piece : UInt16 × List UInt8) : Eeprom where
  bus := { eeprom.bus with
    device := Device.write (addressBytes piece.1 ++ piece.2) eeprom.bus.device
    turn := eeprom.bus.turn + 1
    log := request piece :: eeprom.bus.log }
  waitedNs := eeprom.waitedNs + writeCycleNs
  events := .wait writeCycleNs :: .transaction (request piece) :: eeprom.events

/-- The eeprom after a transaction that failed: the bus has seen it, nothing is waited for. -/
def refused (eeprom : Eeprom) : Eeprom where
  bus := { eeprom.bus with
    turn := eeprom.bus.turn + 1
    log := ⟨busAddress, none⟩ :: eeprom.bus.log }
  waitedNs := eeprom.waitedNs
  events := .transaction ⟨busAddress, none⟩ :: eeprom.events

theorem exec_transact (ops : List BusOp) (eeprom : Eeprom) :
    exec (transact ops) eeprom =
      if eeprom.bus.fails eeprom.bus.turn then
        (.error .storage,
          { eeprom with
            bus := (eeprom.bus.transact busAddress ops).2
            events := .transaction ⟨busAddress, none⟩ :: eeprom.events })
      else
        (.ok (Bus.perform ops eeprom.bus.device).1,
          { eeprom with
            bus := (eeprom.bus.transact busAddress ops).2
            events := .transaction ⟨busAddress, some ops⟩ :: eeprom.events }) := by
  have state : exec get eeprom = (.ok eeprom, eeprom) := rfl
  unfold transact Bus.transact
  rw [StoreM.exec_bind]
  cases refused : eeprom.bus.fails eeprom.bus.turn
  · simp only [state, refused, Bool.false_eq_true, if_false]
    rfl
  · simp only [state, refused, if_true]
    rfl

theorem fails_sendPages (pieces : List (UInt16 × List UInt8)) (eeprom : Eeprom) :
    (pieces.foldl sendPage eeprom).bus.fails = eeprom.bus.fails := by
  induction pieces generalizing eeprom with
  | nil => rfl
  | cons piece pieces ih => exact ih _

theorem turn_sendPages (pieces : List (UInt16 × List UInt8)) (eeprom : Eeprom) :
    (pieces.foldl sendPage eeprom).bus.turn = eeprom.bus.turn + pieces.length := by
  induction pieces generalizing eeprom with
  | nil => rfl
  | cons piece pieces ih =>
    rw [List.foldl_cons, ih, List.length_cons, Nat.add_comm pieces.length, ← Nat.add_assoc]
    rfl

theorem log_sendPages (pieces : List (UInt16 × List UInt8)) (eeprom : Eeprom) :
    (pieces.foldl sendPage eeprom).bus.log =
      (pieces.map request).reverse ++ eeprom.bus.log := by
  induction pieces generalizing eeprom with
  | nil => rfl
  | cons piece pieces ih =>
    rw [List.foldl_cons, ih, List.map_cons, List.reverse_cons, List.append_assoc]
    rfl

theorem waitedNs_sendPages (pieces : List (UInt16 × List UInt8)) (eeprom : Eeprom) :
    (pieces.foldl sendPage eeprom).waitedNs =
      eeprom.waitedNs + pieces.length * writeCycleNs := by
  induction pieces generalizing eeprom with
  | nil => simp
  | cons piece pieces ih =>
    rw [List.foldl_cons, ih, List.length_cons, Nat.succ_mul, Nat.add_comm (pieces.length * _),
      ← Nat.add_assoc]
    rfl

theorem events_sendPages (pieces : List (UInt16 × List UInt8)) (eeprom : Eeprom) :
    (pieces.foldl sendPage eeprom).events =
      (pieces.flatMap steps).reverse ++ eeprom.events := by
  induction pieces generalizing eeprom with
  | nil => rfl
  | cons piece pieces ih =>
    rw [List.foldl_cons, ih, List.flatMap_cons, List.reverse_append, List.append_assoc]
    rfl

theorem memory_sendPages (address : UInt16) (data : List UInt8) (eeprom : Eeprom) :
    ((pages address data).foldl sendPage eeprom).memory = eeprom.memory.fill address data := by
  induction address, data using pages.induct generalizing eeprom with
  | case1 address =>
    rw [pages]
    rfl
  | case2 address byte rest piece ih =>
    have first : (eeprom.sendPage (address, piece)).memory = eeprom.memory.fill address piece :=
      EepromChip.memory_write address _ (length_take_room address byte rest).2
    rw [pages, List.foldl_cons, ih, first, ← Memory.fill_append]
    exact congrArg (Memory.fill address · eeprom.memory) (List.take_append_drop ..)

section Calm

variable {eeprom : Eeprom}

theorem exec_writePages_refused (fault : eeprom.bus.fails eeprom.bus.turn = true)
    (piece : UInt16 × List UInt8) (others : List (UInt16 × List UInt8)) :
    exec (writePages (piece :: others)) eeprom = (.error .storage, eeprom.refused) := by
  rw [writePages, StoreM.exec_bind, exec_transact, Bus.transact, fault, if_pos rfl, if_pos rfl]
  rfl

theorem exec_writePages_sent (free : eeprom.bus.fails eeprom.bus.turn = false)
    (piece : UInt16 × List UInt8) (others : List (UInt16 × List UInt8)) :
    exec (writePages (piece :: others)) eeprom =
      exec (writePages others) (eeprom.sendPage piece) := by
  rw [writePages, StoreM.exec_bind, exec_transact, Bus.transact, free,
    if_neg Bool.false_ne_true, if_neg Bool.false_ne_true]
  rfl

theorem exec_writePages_append {front : List (UInt16 × List UInt8)}
    (granted : ∀ i < front.length, eeprom.bus.fails (eeprom.bus.turn + i) = false)
    (back : List (UInt16 × List UInt8)) :
    exec (writePages (front ++ back)) eeprom =
      exec (writePages back) (front.foldl sendPage eeprom) := by
  induction front generalizing eeprom with
  | nil => rfl
  | cons piece front ih =>
    have first : eeprom.bus.fails eeprom.bus.turn = false := granted 0 (Nat.zero_lt_succ _)
    have later : ∀ i < front.length,
        (eeprom.sendPage piece).bus.fails ((eeprom.sendPage piece).bus.turn + i) = false := by
      intro i hi
      have next := granted (i + 1) (Nat.succ_lt_succ hi)
      rwa [Nat.add_comm i, ← Nat.add_assoc] at next
    rw [List.cons_append, exec_writePages_sent first]
    exact ih later

theorem exec_writePages_granted {pieces : List (UInt16 × List UInt8)}
    (granted : ∀ i < pieces.length, eeprom.bus.fails (eeprom.bus.turn + i) = false) :
    exec (writePages pieces) eeprom = (.ok (), pieces.foldl sendPage eeprom) := by
  have sent := exec_writePages_append granted []
  rwa [List.append_nil] at sent

theorem exec_writePages (calm : ∀ n, eeprom.bus.fails n = false)
    (pieces : List (UInt16 × List UInt8)) :
    exec (writePages pieces) eeprom = (.ok (), pieces.foldl sendPage eeprom) :=
  exec_writePages_granted fun _ _ => calm _

theorem exec_read (calm : ∀ n, eeprom.bus.fails n = false) (address : UInt16) (length : Nat) :
    (exec (read address length) eeprom).1 =
      .ok ((List.range length).map fun i => eeprom.memory.get (address + .ofNat i)) := by
  rw [read, exec_transact, calm, if_neg Bool.false_ne_true, EepromChip.perform_read]
  rfl

/-- Without faults a write sends the pieces, waits once after each, and leaves the data
behind: from the start address on, round the end of the memory, and nowhere else. -/
theorem write_paged {data : List UInt8} (fits : data.length ≤ 65536)
    (calm : ∀ n, eeprom.bus.fails n = false) (address : UInt16) :
    ∃ pieces after,
      exec (write address data) eeprom = (.ok (), after) ∧
      Paged address data pieces ∧
      after.bus.log = (pieces.map request).reverse ++ eeprom.bus.log ∧
      after.waitedNs = eeprom.waitedNs + pieces.length * writeCycleNs ∧
      after.events = (pieces.flatMap steps).reverse ++ eeprom.events ∧
      (∀ i (hi : i < data.length), after.memory.get (address + .ofNat i) = data[i]) ∧
      (∀ other, (∀ i < data.length, other ≠ address + .ofNat i) →
        after.memory.get other = eeprom.memory.get other) ∧
      (exec (read address data.length) after).1 = .ok data := by
  have left := memory_sendPages address data eeprom
  have inside : ∀ i (hi : i < data.length),
      ((pages address data).foldl sendPage eeprom).memory.get (address + .ofNat i) = data[i] :=
    fun i hi => by rw [left, Memory.get_fill_inside fits]
  refine ⟨pages address data, _, exec_writePages calm _, paged_pages address data,
    log_sendPages .., waitedNs_sendPages .., events_sendPages .., inside, fun other outside => ?_,
    ?_⟩
  · rw [left, Memory.get_fill_outside fits _ outside]
  · rw [exec_read (by simpa only [fails_sendPages] using calm)]
    refine congrArg Except.ok (List.ext_getElem (by simp) fun i _ hi => ?_)
    simpa using inside i hi

def unwritten : Eeprom where
  bus := { device := { memory := .tabulate fun _ => 255 } }

/-- A write over the last two addresses of the memory and the first two. -/
theorem write_paged_round_end :
    [1, 2, 3, 4].length ≤ 65536 ∧ (∀ n, unwritten.bus.fails n = false) ∧
      ∃ pieces after,
        exec (write 65534 [1, 2, 3, 4]) unwritten = (.ok (), after) ∧
        Paged 65534 [1, 2, 3, 4] pieces ∧
        after.bus.log = (pieces.map request).reverse ++ unwritten.bus.log ∧
        after.waitedNs = unwritten.waitedNs + pieces.length * writeCycleNs ∧
        after.events = (pieces.flatMap steps).reverse ++ unwritten.events ∧
        (∀ i (hi : i < [1, 2, 3, 4].length),
          after.memory.get (65534 + .ofNat i) = ([1, 2, 3, 4] : List UInt8)[i]) ∧
        (∀ other, (∀ i < [1, 2, 3, 4].length, other ≠ 65534 + .ofNat i) →
          after.memory.get other = unwritten.memory.get other) ∧
        (exec (read 65534 [1, 2, 3, 4].length) after).1 = .ok [1, 2, 3, 4] :=
  ⟨by decide, fun _ => rfl, write_paged (by decide) (fun _ => rfl) 65534⟩

end Calm

end Eeprom

end KnobPanel
