import KnobPanel.Proofs.Codec
import KnobPanel.Store.Record

/-!
# The record on a plain store

What reading, loading and updating do to a store whose accesses may fail: how
far a stopped update got, and that the memory holds exactly its first bytes.
-/

namespace KnobPanel

def Access.address : Access → UInt16
  | .read address => address
  | .write address _ => address

-- ---------------------------------------------------------------------------
-- Single accesses
-- ---------------------------------------------------------------------------

namespace StoreM

variable {S α β : Type} {x : StoreM S α} {f : α → StoreM S β} {store after : S}

def exec (x : StoreM S α) (store : S) : Except Fault α × S := x.run store

theorem exec_pure (a : α) (store : S) : exec (pure a) store = (.ok a, store) := rfl

theorem exec_bind (x : StoreM S α) (f : α → StoreM S β) (store : S) :
    exec (x >>= f) store =
      match exec x store with
      | (.ok a, between) => exec (f a) between
      | (.error fault, between) => (.error fault, between) := by
  unfold exec ExceptT.run
  simp only [bind, ExceptT.bind, ExceptT.mk, StateT.bind, ExceptT.bindCont]
  rcases x store with ⟨fault | a, between⟩ <;> rfl

theorem bind_ok {b : β} :
    exec (x >>= f) store = (.ok b, after) ↔
      ∃ a between, exec x store = (.ok a, between) ∧ exec (f a) between = (.ok b, after) := by
  rw [exec_bind]
  rcases exec x store with ⟨fault | a, between⟩ <;> simp [and_assoc]

theorem bind_error {fault : Fault} :
    exec (x >>= f) store = (.error fault, after) ↔
      exec x store = (.error fault, after) ∨
      ∃ a between, exec x store = (.ok a, between) ∧ exec (f a) between = (.error fault, after) := by
  rw [exec_bind]
  rcases exec x store with ⟨fault | a, between⟩ <;> simp [and_assoc]

end StoreM

namespace FlatStore

open StoreM (exec)

/-- The store after an attempt, apart from what the access itself changes. -/
def noted (access : Access) (store : FlatStore) : FlatStore :=
  { store with turn := store.turn + 1, log := access :: store.log }

def refuses (access : Access) (store : FlatStore) : Bool := store.faulty store.turn access

theorem exec_attempt (access : Access) (store : FlatStore) :
    exec (attempt access) store =
      (if store.refuses access then .error .storage else .ok (), store.noted access) := by
  change exec (if store.refuses access then throw .storage else pure ()) (store.noted access) = _
  split <;> rfl

theorem exec_readByte (address : UInt16) (store : FlatStore) :
    exec (readByte address) store =
      (if store.refuses (.read address) then .error .storage else .ok (store.memory.get address),
        store.noted (.read address)) := by
  simp only [readByte, StoreM.exec_bind, exec_attempt]
  cases store.refuses (.read address) <;> rfl

theorem exec_writeByte (address : UInt16) (value : UInt8) (store : FlatStore) :
    exec (writeByte address value) store =
      if store.refuses (.write address value) then
        (.error .storage, store.noted (.write address value))
      else
        (.ok (), { store.noted (.write address value) with
          memory := store.memory.set address value }) := by
  simp only [writeByte, StoreM.exec_bind, exec_attempt]
  cases store.refuses (.write address value) <;> rfl

end FlatStore

-- ---------------------------------------------------------------------------
-- Trails of accesses
-- ---------------------------------------------------------------------------

def Access.written? : Access → Option (UInt16 × UInt8)
  | .read _ => none
  | .write address value => some (address, value)

namespace FlatStore

open StoreM (exec)

/-- The accesses attempted from one store to a later one, oldest first. -/
def accessesTo (before after : FlatStore) : List Access :=
  (after.log.take (after.log.length - before.log.length)).reverse

def writesTo (before after : FlatStore) : List (UInt16 × UInt8) :=
  (before.accessesTo after).filterMap Access.written?

def MetFault (before after : FlatStore) : Prop :=
  ∃ i access, (before.accessesTo after)[i]? = some access ∧
    before.faulty (before.turn + i) access = true

/-- The accesses lead from one store to the other, whatever they did to the memory. -/
structure Trail (accesses : List Access) (before after : FlatStore) : Prop where
  log : after.log = accesses.reverse ++ before.log
  turn : after.turn = before.turn + accesses.length
  faulty : after.faulty = before.faulty

section
variable {accesses first rest : List Access} {before between after : FlatStore}

theorem Trail.refl (store : FlatStore) : Trail [] store store := ⟨rfl, rfl, rfl⟩

theorem Trail.trans (way : Trail first before between) (way' : Trail rest between after) :
    Trail (first ++ rest) before after where
  log := by rw [way'.log, way.log, List.reverse_append, List.append_assoc]
  turn := by rw [way'.turn, way.turn, List.length_append, Nat.add_assoc]
  faulty := way'.faulty.trans way.faulty

theorem Trail.noted (access : Access) (store : FlatStore) (memory : Memory) :
    Trail [access] store { store.noted access with memory } := ⟨rfl, rfl, rfl⟩

theorem Trail.accessesTo_eq (way : Trail accesses before after) :
    before.accessesTo after = accesses := by
  have taken : after.log.length - before.log.length = accesses.reverse.length := by
    rw [way.log, List.length_append, Nat.add_sub_cancel]
  rw [accessesTo, taken, way.log, List.take_left', List.reverse_reverse]
  rfl

theorem Trail.metFault_iff (way : Trail accesses before after) :
    before.MetFault after ↔ ∃ i access, accesses[i]? = some access ∧
      before.faulty (before.turn + i) access = true := by
  rw [MetFault, way.accessesTo_eq]

theorem not_metFault_self (store : FlatStore) : ¬store.MetFault store := by
  rw [(Trail.refl store).metFault_iff]
  simp

theorem metFault_noted (access : Access) (store : FlatStore) (memory : Memory) :
    store.MetFault { store.noted access with memory } ↔ store.refuses access = true := by
  rw [(Trail.noted access store memory).metFault_iff]
  constructor
  · rintro ⟨i, other, found, failed⟩
    obtain ⟨inside, rfl⟩ := List.getElem?_eq_some_iff.mp found
    obtain rfl : i = 0 := Nat.lt_one_iff.mp inside
    exact failed
  · intro failed
    exact ⟨0, access, rfl, failed⟩

theorem Trail.metFault_trans (way : Trail first before between)
    (way' : Trail rest between after) :
    before.MetFault after ↔ before.MetFault between ∨ between.MetFault after := by
  rw [(way.trans way').metFault_iff, way.metFault_iff, way'.metFault_iff, way.turn, way.faulty]
  constructor
  · rintro ⟨i, access, found, failed⟩
    by_cases early : i < first.length
    case pos =>
      rw [List.getElem?_append_left early] at found
      exact .inl ⟨i, access, found, failed⟩
    case neg =>
      have late := Nat.not_lt.mp early
      rw [List.getElem?_append_right late] at found
      refine .inr ⟨i - first.length, access, found, ?_⟩
      rwa [Nat.add_assoc, Nat.add_sub_cancel' late]
  · rintro (⟨i, access, found, failed⟩ | ⟨i, access, found, failed⟩)
    · have early := (List.getElem?_eq_some_iff.mp found).1
      exact ⟨i, access, by rw [List.getElem?_append_left early, found], failed⟩
    · refine ⟨first.length + i, access, ?_, by rwa [← Nat.add_assoc]⟩
      rw [List.getElem?_append_right (Nat.le_add_right ..), Nat.add_sub_cancel_left, found]

end

inductive Writing (allowed : UInt16 → UInt8 → Prop) : {α : Type} → StoreM FlatStore α → Prop
  | pure {α : Type} (a : α) : Writing allowed (pure a)
  | bind {α β : Type} {x : StoreM FlatStore α} {f : α → StoreM FlatStore β} :
      Writing allowed x → (∀ a, Writing allowed (f a)) → Writing allowed (x >>= f)
  | readByte (address : UInt16) : Writing allowed (readByte address)
  | writeByte {address : UInt16} {value : UInt8} :
      allowed address value → Writing allowed (writeByte address value)

namespace Writing

variable {allowed : UInt16 → UInt8 → Prop} {α : Type} {x : StoreM FlatStore α}

theorem trail (writing : Writing allowed x) (store : FlatStore) :
    ∃ accesses, Trail accesses store (exec x store).2 ∧
      ∀ address value, .write address value ∈ accesses → allowed address value := by
  induction writing generalizing store with
  | pure a => exact ⟨[], .refl store, fun _ _ written => nomatch written⟩
  | @bind α β x f _ _ ih ihf =>
    obtain ⟨first, way, within⟩ := ih store
    rw [StoreM.exec_bind]
    generalize exec x store = met at way ⊢
    rcases met with ⟨fault | a, between⟩
    · exact ⟨first, way, within⟩
    · obtain ⟨rest, way', within'⟩ := ihf a between
      refine ⟨first ++ rest, way.trans way', fun address value written => ?_⟩
      exact (List.mem_append.mp written).elim (within address value) (within' address value)
  | readByte place =>
    rw [exec_readByte]
    refine ⟨[.read place], .noted _ store store.memory, fun address value written => ?_⟩
    cases List.mem_singleton.mp written
  | @writeByte place new fits =>
    refine ⟨[.write place new], ?_, fun address value written => ?_⟩
    · rw [exec_writeByte]
      split <;> exact .noted _ store _
    · cases List.mem_singleton.mp written
      exact fits

theorem ends (writing : Writing allowed x) (store : FlatStore) :
    (¬store.MetFault (exec x store).2 ∧ ∃ a, (exec x store).1 = .ok a) ∨
      store.MetFault (exec x store).2 ∧ (exec x store).1 = .error .storage := by
  induction writing generalizing store with
  | pure a => exact .inl ⟨not_metFault_self store, a, rfl⟩
  | @bind α β x f first next ih ihf =>
    have ended := ih store
    obtain ⟨accesses, way, -⟩ := first.trail store
    rw [StoreM.exec_bind]
    generalize exec x store = met at ended way ⊢
    rcases met with ⟨fault | a, between⟩
    · rcases ended with ⟨-, a, answered⟩ | ⟨failed, stopped⟩
      · cases answered
      · cases stopped
        exact .inr ⟨failed, rfl⟩
    · rcases ended with ⟨granted, -⟩ | ⟨-, stopped⟩
      · obtain ⟨others, way', -⟩ := (next a).trail between
        simp only [way.metFault_trans way', granted, false_or]
        exact ihf a between
      · cases stopped
  | readByte address =>
    rw [exec_readByte]
    have met : store.MetFault (store.noted (.read address)) ↔ _ :=
      metFault_noted _ store store.memory
    cases refused : store.refuses (.read address) with
    | true => exact .inr ⟨met.mpr refused, rfl⟩
    | false => exact .inl ⟨by simp [met, refused], _, rfl⟩
  | @writeByte address value _ =>
    rw [exec_writeByte]
    cases refused : store.refuses (.write address value) with
    | true => exact .inr ⟨(metFault_noted _ store store.memory).mpr refused, rfl⟩
    | false => exact .inl ⟨by simp [metFault_noted, refused], (), rfl⟩

end Writing

end FlatStore

namespace Record

open FlatStore (Writing)

variable {allowed : UInt16 → UInt8 → Prop}

theorem writing_readBytes (start : UInt16) (n : Nat) : Writing allowed (readBytes start n) := by
  induction n with
  | zero => exact .pure _
  | succ n ih => exact ih.bind fun front => (Writing.readByte _).bind fun last => .pure _

theorem writing_load : Writing (fun _ _ => False) load := by
  refine (Writing.readByte markerAddress).bind fun found => ?_
  split
  · exact .pure none
  · exact (writing_readBytes payloadAddress 15).bind fun bytes => .pure _

theorem writing_updateByte {address : UInt16} {value : UInt8} (fits : allowed address value) :
    Writing allowed (updateByte address value) := by
  refine (Writing.readByte address).bind fun old => ?_
  split
  · exact .pure false
  · exact (Writing.writeByte fits).bind fun _ => .pure true

theorem writing_updateBytes {writes : List (UInt16 × UInt8)}
    (fit : ∀ write ∈ writes, allowed write.1 write.2) : Writing allowed (updateBytes writes) := by
  induction writes with
  | nil => exact .pure 0
  | cons write writes ih =>
    obtain ⟨fits, fit⟩ := List.forall_mem_cons.mp fit
    exact (writing_updateByte fits).bind fun written => (ih fit).bind fun others => .pure _

theorem writing_save (settings : Settings) :
    Writing (fun address value => (address, value) ∈ image settings) (save settings) :=
  writing_updateBytes fun _ listed => listed

end Record

-- ---------------------------------------------------------------------------
-- Batches of bytes
-- ---------------------------------------------------------------------------

namespace Memory

def putAll (writes : List (UInt16 × UInt8)) (memory : Memory) : Memory :=
  writes.foldl (fun memory write => memory.set write.1 write.2) memory

theorem set_get (memory : Memory) (address : UInt16) :
    memory.set address (memory.get address) = memory := by
  refine Memory.ext fun other => ?_
  rw [get_set]
  split
  · rename_i h; rw [h]
  · rfl

theorem get_putAll_of_notMem {writes : List (UInt16 × UInt8)} {address : UInt16}
    (h : address ∉ writes.map Prod.fst) (memory : Memory) :
    (memory.putAll writes).get address = memory.get address := by
  induction writes generalizing memory with
  | nil => rfl
  | cons write writes ih =>
    simp only [List.map_cons, List.mem_cons, not_or] at h
    exact (ih h.2 _).trans (by rw [get_set, if_neg h.1])

theorem get_putAll_of_mem {writes : List (UInt16 × UInt8)} {write : UInt16 × UInt8}
    (hd : (writes.map Prod.fst).Nodup) (h : write ∈ writes) (memory : Memory) :
    (memory.putAll writes).get write.1 = write.2 := by
  induction writes generalizing memory with
  | nil => cases h
  | cons first writes ih =>
    obtain ⟨hn, hd⟩ := List.nodup_cons.mp hd
    rcases List.mem_cons.mp h with rfl | h
    · exact (get_putAll_of_notMem hn _).trans (by rw [get_set, if_pos rfl])
    · exact ih hd h _

theorem get_putAll_take {writes : List (UInt16 × UInt8)} {write : UInt16 × UInt8} {i : Nat}
    (hn : (writes.map Prod.fst).Nodup) (hi : writes[i]? = some write) (done : Nat)
    (memory : Memory) :
    (memory.putAll (writes.take done)).get write.1 =
      if i < done then write.2 else memory.get write.1 := by
  split
  · rename_i hd
    apply get_putAll_of_mem
    · rw [List.map_take]
      exact hn.sublist (List.take_sublist ..)
    · exact List.mem_of_getElem? (by rw [List.getElem?_take_of_lt hd, hi])
  · rename_i hd
    apply get_putAll_of_notMem
    intro hm
    obtain ⟨j, hj⟩ := List.mem_iff_getElem?.mp hm
    rw [List.map_take, List.getElem?_take] at hj
    split at hj
    · have hl : j < (writes.map Prod.fst).length := (List.getElem?_eq_some_iff.mp hj).1
      have : j = i := (List.getElem?_inj hl hn).mp (by rw [hj, List.getElem?_map, hi]; rfl)
      omega
    · cases hj

end Memory

namespace Record

open StoreM (exec)
open FlatStore

theorem readByte_ok {address : UInt16} {value : UInt8} {store after : FlatStore}
    (h : exec (readByte address) store = (.ok value, after)) :
    value = store.memory.get address ∧ after = store.noted (.read address) := by
  rw [exec_readByte] at h
  cases hr : store.refuses (.read address) <;> simp [hr] at h
  exact ⟨h.1.symm, h.2.symm⟩

theorem readByte_error {address : UInt16} {fault : Fault} {store after : FlatStore}
    (h : exec (readByte address) store = (.error fault, after)) :
    fault = .storage ∧ store.faulty store.turn (.read address) = true ∧
      after = store.noted (.read address) := by
  rw [exec_readByte] at h
  cases hr : store.refuses (.read address) <;> simp [hr] at h
  exact ⟨h.1.symm, hr, h.2.symm⟩

/-- A completed update leaves its value behind, whether it wrote or not. -/
theorem updateByte_ok {address : UInt16} {value : UInt8} {store after : FlatStore} {written : Bool}
    (h : exec (updateByte address value) store = (.ok written, after)) :
    after.memory = store.memory.set address value := by
  simp only [updateByte, StoreM.bind_ok] at h
  obtain ⟨old, between, hr, h⟩ := h
  obtain ⟨rfl, rfl⟩ := readByte_ok hr
  split at h
  · rename_i he
    obtain rfl : store.memory.get address = value := by simpa using he
    cases h
    exact (Memory.set_get ..).symm
  · rw [StoreM.bind_ok] at h
    obtain ⟨_, between, hw, h⟩ := h
    rw [exec_writeByte] at hw
    split at hw
    · cases hw
    · cases hw; cases h; rfl

theorem updateByte_error {address : UInt16} {value : UInt8} {store after : FlatStore}
    {fault : Fault} (h : exec (updateByte address value) store = (.error fault, after)) :
    fault = .storage ∧ after.memory = store.memory ∧
      after.log.head?.map Access.address = some address := by
  simp only [updateByte, StoreM.bind_error] at h
  obtain h | ⟨old, between, hr, h⟩ := h
  · obtain ⟨rfl, -, rfl⟩ := readByte_error h
    exact ⟨rfl, rfl, rfl⟩
  · obtain ⟨rfl, rfl⟩ := readByte_ok hr
    split at h
    · cases h
    · rw [StoreM.bind_error] at h
      obtain h | ⟨_, _, _, h⟩ := h
      · rw [exec_writeByte] at h
        split at h
        · cases h; exact ⟨rfl, rfl, rfl⟩
        · cases h
      · cases h

theorem updateBytes_ok {writes : List (UInt16 × UInt8)} {store after : FlatStore} {n : Nat}
    (h : exec (updateBytes writes) store = (.ok n, after)) :
    after.memory = store.memory.putAll writes := by
  induction writes generalizing store n with
  | nil => cases h; rfl
  | cons write writes ih =>
    simp only [updateBytes, StoreM.bind_ok] at h
    obtain ⟨_, between, hw, _, last, hr, h⟩ := h
    cases h
    rw [ih hr, updateByte_ok hw]
    rfl

/-- A stopped batch has dealt with the bytes before the one whose access failed,
and with no other. -/
theorem updateBytes_error {writes : List (UInt16 × UInt8)} {store after : FlatStore}
    {fault : Fault} (h : exec (updateBytes writes) store = (.error fault, after)) :
    fault = .storage ∧ ∃ done < writes.length,
      after.memory = store.memory.putAll (writes.take done) ∧
        after.log.head?.map Access.address = writes[done]?.map Prod.fst := by
  induction writes generalizing store with
  | nil => cases h
  | cons write writes ih =>
    simp only [updateBytes, StoreM.bind_error] at h
    obtain h | ⟨_, between, hw, h⟩ := h
    · obtain ⟨hf, hm, hl⟩ := updateByte_error h
      exact ⟨hf, 0, by simp, hm, hl⟩
    · obtain h | ⟨_, _, _, h⟩ := h
      · obtain ⟨hf, done, hd, hm, hl⟩ := ih h
        refine ⟨hf, done + 1, by simpa using hd, ?_, by simpa using hl⟩
        rw [hm, updateByte_ok hw]
        rfl
      · cases h

-- ---------------------------------------------------------------------------
-- Loading
-- ---------------------------------------------------------------------------

theorem readBytes_ok {start : UInt16} {n : Nat} {bytes : Vector UInt8 n} {store after : FlatStore}
    (h : exec (readBytes start n) store = (.ok bytes, after)) :
    bytes = .ofFn (fun i => store.memory.get (start + .ofNat i)) ∧
      after.memory = store.memory ∧ after.faulty = store.faulty := by
  induction n generalizing after with
  | zero => cases h; exact ⟨by simp, rfl, rfl⟩
  | succ n ih =>
    simp only [readBytes, StoreM.bind_ok] at h
    obtain ⟨front, between, hf, last, _, hl, h⟩ := h
    obtain ⟨rfl, hm, hs⟩ := ih hf
    obtain ⟨rfl, rfl⟩ := readByte_ok hl
    cases h
    rw [Vector.ofFn_succ]
    exact ⟨by simp [hm], hm, hs⟩

def payload (memory : Memory) : Payload :=
  .ofFn fun i => memory.get (payloadAddress + .ofNat i)

theorem getElem_payload (memory : Memory) {i : Nat} (hi : i < 15) :
    (payload memory)[i] = memory.get (payloadAddress + .ofNat i) := by
  simp [payload]

def held (memory : Memory) : Option Settings :=
  if memory.get markerAddress = marker then some (.decode (payload memory)) else none

theorem load_ok {found : Option Settings} {store after : FlatStore}
    (h : exec load store = (.ok found, after)) :
    found = held store.memory ∧ after.memory = store.memory ∧ after.faulty = store.faulty := by
  simp only [load, StoreM.bind_ok] at h
  obtain ⟨byte, between, hr, h⟩ := h
  obtain ⟨rfl, rfl⟩ := readByte_ok hr
  split at h
  · rename_i hm
    cases h
    exact ⟨(if_neg (by simpa using hm)).symm, rfl, rfl⟩
  · rename_i hm
    obtain ⟨bytes, between, hb, h⟩ := StoreM.bind_ok.mp h
    cases h
    obtain ⟨rfl, hb, hs⟩ := readBytes_ok hb
    exact ⟨(if_pos (by simpa using hm)).symm, hb, hs⟩

/-- A load from the memory answers so, unless one of its accesses fails. -/
def Loads (memory : Memory) (found : Option Settings) : Prop :=
  ∀ store : FlatStore, store.memory = memory → ¬store.MetFault (exec load store).2 →
    (exec load store).1 = .ok found

theorem loads_held (memory : Memory) : Loads memory (held memory) := by
  rintro store rfl granted
  rcases writing_load.ends store with
    ⟨-, found, answered⟩ | ⟨failed, -⟩
  · rw [answered, (load_ok (Prod.ext answered rfl)).1]
  · exact absurd failed granted

theorem loadOrInit_eq {S : Type} [ByteStore S] (store : S) :
    loadOrInit store =
      match exec load store with
      | (.ok (some settings), after) => (settings, after)
      | (_, after) => (.factory, (exec (save .factory) after).2) := rfl

theorem loadOrInit_cases {S : Type} [ByteStore S] (store : S) :
    (∃ settings after, exec load store = (.ok (some settings), after) ∧
        loadOrInit store = (settings, after)) ∨
      ∃ answer after, exec load store = (answer, after) ∧
        (∀ settings, answer ≠ .ok (some settings)) ∧
        loadOrInit store = (.factory, (exec (save .factory) after).2) := by
  rcases loads : exec load store with ⟨fault | none | settings, after⟩
  · exact .inr ⟨.error fault, after, rfl, by simp, by rw [loadOrInit_eq, loads]⟩
  · exact .inr ⟨.ok none, after, rfl, by simp, by rw [loadOrInit_eq, loads]⟩
  · exact .inl ⟨settings, after, rfl, by rw [loadOrInit_eq, loads]⟩

def reload (memory : Memory) : Except Fault (Option Settings) := (exec load ({ memory } : FlatStore)).1

theorem reload_eq (memory : Memory) : reload memory = .ok (held memory) :=
  loads_held memory { memory } rfl fun ⟨_, _, _, failed⟩ => nomatch failed

end Record

end KnobPanel
