import KnobPanel.Proofs.PagedWrite

/-!
# Writes that meet a fault

A write ends at the first transaction that fails. What it has stored by then is the
data up to a page boundary, or nothing, and the same write made again stores the whole.
-/

namespace KnobPanel

-- ---------------------------------------------------------------------------
-- Memory
-- ---------------------------------------------------------------------------

namespace Memory

/-- The bytes are stored one after the other from the address on, round the end of
the memory, and nothing else changed. Of several bytes for one place the last one stays. -/
structure Stored (address : UInt16) (bytes : List UInt8) (before after : Memory) : Prop where
  inside : ∀ i (hi : i < bytes.length), bytes.length ≤ i + 65536 →
    after.get (address + .ofNat i) = bytes[i]
  outside : ∀ other, (∀ i < bytes.length, other ≠ address + .ofNat i) →
    after.get other = before.get other

theorem stored_fill (address : UInt16) (bytes : List UInt8) (memory : Memory) :
    Stored address bytes memory (memory.fill address bytes) := by
  constructor
  · intro i hi last
    have fits : (bytes.drop i).length ≤ 65536 := by
      rw [List.length_drop]
      omega
    have nonempty : 0 < (bytes.drop i).length := by
      rw [List.length_drop]
      omega
    have front : (bytes.take i).length = i := List.length_take_of_le (Nat.le_of_lt hi)
    have read := get_fill_inside fits (address + .ofNat i) (memory.fill address (bytes.take i))
      nonempty
    calc (memory.fill address bytes).get (address + .ofNat i)
        = (memory.fill address (bytes.take i ++ bytes.drop i)).get (address + .ofNat i) := by
          rw [List.take_append_drop]
      _ = bytes[i] := by
          rw [fill_append, front]
          simpa using read
  · intro other apart
    refine get_fill_outside (Nat.le_of_not_lt fun long => ?_) memory apart
    -- so many bytes would not leave the place out
    have here : address + (other - address) = other := by
      rw [UInt16.add_comm, UInt16.sub_add_cancel]
    refine apart (other - address).toNat (Nat.lt_trans (other - address).toNat_lt long) ?_
    rw [UInt16.ofNat_toNat, here]

theorem get_fill_congr {address other : UInt16} {bytes : List UInt8} {first second : Memory}
    (same : first.get other = second.get other ∨ ∃ i < bytes.length, other = address + .ofNat i) :
    (first.fill address bytes).get other = (second.fill address bytes).get other := by
  induction bytes generalizing address first second with
  | nil =>
    obtain same | ⟨i, hi, -⟩ := same
    · exact same
    · exact absurd hi (Nat.not_lt_zero i)
  | cons byte bytes ih =>
    refine ih ?_
    rw [get_set, get_set]
    obtain same | ⟨i, hi, rfl⟩ := same
    · exact .inl (by rw [same])
    · cases i with
      | zero => exact .inl (by simp)
      | succ i =>
        refine .inr ⟨i, Nat.lt_of_succ_lt_succ hi, ?_⟩
        rw [Nat.add_comm i, ← UInt16.add_ofNat_add]
        rfl

theorem fill_fill_take (address : UInt16) (bytes : List UInt8) (n : Nat) (memory : Memory) :
    (memory.fill address (bytes.take n)).fill address bytes = memory.fill address bytes := by
  refine Memory.ext fun other => get_fill_congr ?_
  by_cases reached : ∃ i < bytes.length, other = address + .ofNat i
  · exact .inr reached
  · refine .inl ((stored_fill ..).outside other fun i hi same => reached ⟨i, ?_, same⟩)
    exact Nat.lt_of_lt_of_le hi (List.length_take_le' ..)

end Memory

-- ---------------------------------------------------------------------------
-- The first pieces
-- ---------------------------------------------------------------------------

namespace Eeprom

open EepromChip (pageSize addressBytes)
open StoreM (exec)

/-- Bytes from the address up to the `n`-th page boundary after it. -/
def reach (address : UInt16) : Nat → Nat
  | 0 => 0
  | n + 1 => room address + n * pageSize

theorem reach_of_aligned {address : UInt16} (aligned : address.toNat % pageSize = 0) (n : Nat) :
    reach address n = n * pageSize := by
  cases n with
  | zero => simp [reach]
  | succ n => rw [reach, room, aligned, Nat.sub_zero, Nat.succ_mul, Nat.add_comm]

theorem add_reach_aligned (address : UInt16) (n : Nat) :
    (address + .ofNat (reach address (n + 1))).toNat % pageSize = 0 := by
  have := Nat.mod_lt address.toNat (show 0 < pageSize by decide)
  simp only [reach, room, pageSize, UInt16.toNat_add, UInt16.toNat_ofNat'] at *
  omega

theorem pages_of_ne_nil (address : UInt16) {data : List UInt8} (nonempty : data ≠ []) :
    pages address data =
      (address, data.take (room address)) ::
        pages (address + .ofNat (data.take (room address)).length) (data.drop (room address)) := by
  obtain ⟨byte, rest, rfl⟩ := List.exists_cons_of_ne_nil nonempty
  exact pages.eq_2 ..

theorem take_drop_room (address : UInt16) (data : List UInt8) (n : Nat) :
    (data.drop (room address)).take
        (reach (address + .ofNat (data.take (room address)).length) n) =
      (data.drop (room address)).take (n * pageSize) := by
  by_cases long : room address ≤ data.length
  case pos =>
    have aligned : (address + .ofNat (room address)).toNat % pageSize = 0 :=
      add_reach_aligned address 0
    rw [List.length_take_of_le long, reach_of_aligned aligned]
  case neg => simp [List.drop_of_length_le (Nat.le_of_not_le long)]

theorem take_pages (address : UInt16) (data : List UInt8) (n : Nat) :
    (pages address data).take n = pages address (data.take (reach address n)) := by
  induction address, data using pages.induct generalizing n with
  | case1 address => simp [pages]
  | case2 address byte rest piece ih =>
    cases n with
    | zero => simp [reach, pages]
    | succ n =>
      have pos := room_pos address
      have goesOn : (byte :: rest).take (room address + n * pageSize) ≠ [] := by
        simp only [ne_eq, List.take_eq_nil_iff, reduceCtorEq, or_false]
        omega
      have first : ((byte :: rest).take (room address + n * pageSize)).take (room address) =
          piece := by
        rw [List.take_take, Nat.min_eq_left (Nat.le_add_right ..)]
      have others : ((byte :: rest).take (room address + n * pageSize)).drop (room address) =
          ((byte :: rest).drop (room address)).take (n * pageSize) := by
        rw [List.drop_take, Nat.add_sub_cancel_left]
      rw [pages, List.take_succ_cons, ih, take_drop_room, reach, pages_of_ne_nil address goesOn,
        first, others]

theorem flatten_take_pages (address : UInt16) (data : List UInt8) (n : Nat) :
    (((pages address data).take n).map Prod.snd).flatten = data.take (reach address n) := by
  rw [take_pages, (paged_pages ..).whole]

theorem lt_length_pages_iff (address : UInt16) (data : List UInt8) (n : Nat) :
    n < (pages address data).length ↔ reach address n < data.length := by
  constructor
  · intro more
    refine Nat.lt_of_not_le fun short => ?_
    have all : (pages address data).take n = pages address data := by
      rw [take_pages, List.take_of_length_le short]
    have count := congrArg List.length all
    rw [List.length_take] at count
    omega
  · intro more
    refine Nat.lt_of_not_le fun few => ?_
    have all := flatten_take_pages address data n
    rw [List.take_of_length_le few, (paged_pages ..).whole] at all
    have count := congrArg List.length all
    rw [List.length_take] at count
    omega

-- ---------------------------------------------------------------------------
-- Writing
-- ---------------------------------------------------------------------------

/-- The pieces arrived: each was sent and waited for, in order, and their bytes are
stored from the address on. -/
structure Arrived (address : UInt16) (pieces : List (UInt16 × List UInt8))
    (before after : Eeprom) : Prop where
  log : after.bus.log = (pieces.map request).reverse ++ before.bus.log
  waited : after.waitedNs = before.waitedNs + pieces.length * writeCycleNs
  events : after.events = (pieces.flatMap steps).reverse ++ before.events
  stored : Memory.Stored address (pieces.map Prod.snd).flatten before.memory after.memory

theorem arrived_pages (address : UInt16) (data : List UInt8) (eeprom : Eeprom) :
    Arrived address (pages address data) eeprom ((pages address data).foldl sendPage eeprom) where
  log := log_sendPages ..
  waited := waitedNs_sendPages ..
  events := events_sendPages ..
  stored := by
    rw [memory_sendPages, (paged_pages ..).whole]
    exact Memory.stored_fill ..

section Faulted

variable {eeprom : Eeprom} {j : Nat}

theorem exec_writePages_fault {pieces : List (UInt16 × List UInt8)} (within : j < pieces.length)
    (granted : ∀ i < j, eeprom.bus.fails (eeprom.bus.turn + i) = false)
    (fault : eeprom.bus.fails (eeprom.bus.turn + j) = true) :
    exec (writePages pieces) eeprom =
      (.error .storage, ((pieces.take j).foldl sendPage eeprom).refused) := by
  have count : (pieces.take j).length = j := List.length_take_of_le (Nat.le_of_lt within)
  have split : pieces.take j ++ pieces[j] :: pieces.drop (j + 1) = pieces := by
    rw [List.getElem_cons_drop, List.take_append_drop]
  have sent : ∀ i < (pieces.take j).length,
      eeprom.bus.fails (eeprom.bus.turn + i) = false := by rwa [count]
  have reached := exec_writePages_append sent (pieces[j] :: pieces.drop (j + 1))
  rw [split] at reached
  rw [reached]
  refine exec_writePages_refused ?_ ..
  rwa [fails_sendPages, turn_sendPages, count]

/-- The second write goes over all that the first one stored. -/
theorem stored_again (address : UInt16) (data : List UInt8) (n : Nat) (eeprom : Eeprom) :
    Memory.Stored address data eeprom.memory
      ((pages address data).foldl sendPage
        (((pages address data).take n).foldl sendPage eeprom).refused).memory := by
  have partway : (((pages address data).take n).foldl sendPage eeprom).refused.memory =
      eeprom.memory.fill address (data.take (reach address n)) := by
    rw [take_pages]
    exact memory_sendPages ..
  rw [memory_sendPages, partway, Memory.fill_fill_take]
  exact Memory.stored_fill ..

theorem calm_refused (once : ∀ i, eeprom.bus.fails (eeprom.bus.turn + i) = decide (i = j))
    {pieces : List (UInt16 × List UInt8)} (count : pieces.length = j) (i : Nat) :
    (pieces.foldl sendPage eeprom).refused.bus.fails
      ((pieces.foldl sendPage eeprom).refused.bus.turn + i) = false := by
  have later : j + 1 + i ≠ j := by omega
  simp only [refused, fails_sendPages, turn_sendPages, count, Nat.add_assoc]
  rw [once, ← Nat.add_assoc, decide_eq_false later]

/-- One transaction of a write fails. If the write comes to it, it reports the fault and stops
there; the pieces before it have arrived, which is the data up to a page boundary, and
the same write made again, with no fault left, stores the whole data. -/
theorem write_faulted (once : ∀ i, eeprom.bus.fails (eeprom.bus.turn + i) = decide (i = j))
    (address : UInt16) (data : List UInt8) :
    ∃ pieces, Paged address data pieces ∧
      (∀ n, ((pieces.take n).map Prod.snd).flatten = data.take (reach address n)) ∧
      (∀ n, n < pieces.length ↔ reach address n < data.length) ∧
      (j < pieces.length →
        (j = 0 ∨ (address + .ofNat (reach address j)).toNat % pageSize = 0) ∧
        ∃ sent done,
          exec (write address data) eeprom = (.error .storage, sent.refused) ∧
          Arrived address (pieces.take j) eeprom sent ∧
          exec (write address data) sent.refused = (.ok (), done) ∧
          Arrived address pieces sent.refused done ∧
          Memory.Stored address data eeprom.memory done.memory) ∧
      (pieces.length ≤ j →
        ∃ done,
          exec (write address data) eeprom = (.ok (), done) ∧
          Arrived address pieces eeprom done) := by
  have granted : ∀ i < j, eeprom.bus.fails (eeprom.bus.turn + i) = false := fun i before => by
    rw [once, decide_eq_false (Nat.ne_of_lt before)]
  refine ⟨pages address data, paged_pages address data, flatten_take_pages address data,
    lt_length_pages_iff address data, fun within => ⟨?_, ?_⟩, fun beyond => ?_⟩
  · cases j with
    | zero => exact .inl rfl
    | succ j => exact .inr (add_reach_aligned address j)
  · have fault : eeprom.bus.fails (eeprom.bus.turn + j) = true := by rw [once, decide_eq_true rfl]
    have count : ((pages address data).take j).length = j :=
      List.length_take_of_le (Nat.le_of_lt within)
    have arrived := arrived_pages address (data.take (reach address j)) eeprom
    rw [← take_pages] at arrived
    exact ⟨_, _, exec_writePages_fault within granted fault, arrived,
      exec_writePages_granted fun i _ => calm_refused once count i, arrived_pages ..,
      stored_again address data j eeprom⟩
  · refine ⟨_, exec_writePages_granted fun i hi => ?_, arrived_pages ..⟩
    exact granted i (Nat.lt_of_lt_of_le hi beyond)

def refusesSecond : Eeprom where
  bus := { unwritten.bus with fails := fun n => decide (n = 1) }

/-- Four bytes from two places before the end of the memory: the first two are stored when
the fault comes, and all four after the second write. -/
theorem write_faulted_round_end :
    (∀ i, refusesSecond.bus.fails (refusesSecond.bus.turn + i) = decide (i = 1)) ∧
      ∃ sent done : Eeprom,
        exec (write 65534 [1, 2, 3, 4]) refusesSecond = (.error .storage, sent.refused) ∧
        sent.memory.get 65535 = 2 ∧ sent.memory.get 0 = 255 ∧
        exec (write 65534 [1, 2, 3, 4]) sent.refused = (.ok (), done) ∧
        done.memory.get 65535 = 2 ∧ done.memory.get 0 = 3 := by
  have once : ∀ i, refusesSecond.bus.fails (refusesSecond.bus.turn + i) = decide (i = 1) :=
    fun i => by rw [show refusesSecond.bus.turn = 0 from rfl, Nat.zero_add]; rfl
  obtain ⟨pieces, -, taken, reached, faulted, -⟩ := write_faulted once 65534 [1, 2, 3, 4]
  obtain ⟨-, sent, done, stopped, arrived, again, -, whole⟩ := faulted ((reached 1).mpr (by decide))
  have partway := arrived.stored
  rw [taken] at partway
  have erased : refusesSecond.memory.get 0 = 255 := Memory.get_tabulate (fun _ => 255) 0
  refine ⟨once, sent, done, stopped, partway.inside 1 (by decide) (by decide), ?_, again,
    whole.inside 1 (by decide) (by decide), whole.inside 2 (by decide) (by decide)⟩
  rw [← erased]
  exact partway.outside 0 (by decide)

end Faulted

end Eeprom

end KnobPanel
