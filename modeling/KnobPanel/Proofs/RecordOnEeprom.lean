import KnobPanel.Proofs.InterruptedSave
import KnobPanel.Proofs.PagedWrite

/-!
# The record on the chip

One byte read or written is one transaction, and a transaction that fails has no
effect. Over the bus the record is therefore loaded and saved as over a plain store
whose accesses fail in the same turns. Either way no byte outside the record changes.
-/

namespace KnobPanel

inductive RecordCall where
  | load
  | save (settings : Settings)
  | loadOrInit

inductive RecordAnswer where
  | loaded (result : Except Fault (Option Settings))
  /-- With the number of bytes written. -/
  | saved (result : Except Fault Nat)
  | started (settings : Settings)

namespace Record

open StoreM (exec)

variable {S : Type} [ByteStore S]

def answer (store : S) : RecordCall → RecordAnswer × S
  | .load =>
    let result := exec load store
    (.loaded result.1, result.2)
  | .save settings =>
    let result := exec (save settings) store
    (.saved result.1, result.2)
  | .loadOrInit =>
    let result := loadOrInit store
    (.started result.1, result.2)

def answers (store : S) : List RecordCall → List RecordAnswer × S
  | [] => ([], store)
  | call :: calls =>
    let first := answer store call
    let others := answers first.2 calls
    (first.1 :: others.1, others.2)

end Record

-- ---------------------------------------------------------------------------
-- One transaction for each access
-- ---------------------------------------------------------------------------

namespace Eeprom

open StoreM (exec)

/-- The plain store with the chip's memory, whose accesses fail when the bus does. -/
def flat (eeprom : Eeprom) : FlatStore where
  memory := eeprom.memory
  faulty turn _ := eeprom.bus.fails turn
  turn := eeprom.bus.turn

/-- A chip and a plain store of which a program cannot tell one from the other. -/
structure Matches (eeprom : Eeprom) (store : FlatStore) : Prop where
  memory : store.memory = eeprom.memory
  turn : store.turn = eeprom.bus.turn
  faults : ∀ turn access, store.faulty turn access = eeprom.bus.fails turn

theorem matches_flat (eeprom : Eeprom) : eeprom.Matches eeprom.flat := ⟨rfl, rfl, fun _ _ => rfl⟩

theorem Matches.refuses {eeprom : Eeprom} {store : FlatStore} (same : eeprom.Matches store)
    (access : Access) : store.refuses access = eeprom.bus.fails eeprom.bus.turn := by
  rw [FlatStore.refuses, same.faults, same.turn]

theorem pages_singleton (address : UInt16) (value : UInt8) :
    pages address [value] = [(address, [value])] := by
  obtain ⟨n, one⟩ := Nat.exists_eq_add_of_lt (room_pos address)
  rw [pages, one]
  simp [pages]

def Alike {α : Type} (onChip : StoreM Eeprom α) (onFlat : StoreM FlatStore α) : Prop :=
  ∀ eeprom store, Matches eeprom store →
    (exec onChip eeprom).1 = (exec onFlat store).1 ∧
      Matches (exec onChip eeprom).2 (exec onFlat store).2

namespace Alike

variable {α β : Type}

theorem pure (a : α) : Alike (pure a) (pure a) := fun _ _ same => ⟨rfl, same⟩

theorem bind {x : StoreM Eeprom α} {y : StoreM FlatStore α} {f : α → StoreM Eeprom β}
    {g : α → StoreM FlatStore β} (first : Alike x y) (next : ∀ a, Alike (f a) (g a)) :
    Alike (x >>= f) (y >>= g) := by
  intro eeprom store same
  obtain ⟨agree, same⟩ := first eeprom store same
  rw [StoreM.exec_bind, StoreM.exec_bind]
  revert agree same
  rcases exec x eeprom with ⟨fault | a, chip⟩ <;>
    rcases exec y store with ⟨fault' | a', plain⟩ <;> rintro ⟨⟩ same
  · exact ⟨rfl, same⟩
  · exact next a chip plain same

theorem readByte (address : UInt16) : Alike (readByte address) (readByte address) := by
  intro eeprom store same
  have onChip : exec (KnobPanel.readByte (S := Eeprom) address) eeprom = _ :=
    StoreM.exec_bind (read address 1) _ eeprom
  rw [onChip, FlatStore.exec_readByte, same.refuses, same.memory, read, exec_transact]
  unfold Bus.transact
  rw [EepromChip.perform_read]
  cases eeprom.bus.fails eeprom.bus.turn with
  | true => exact ⟨rfl, same.memory, congrArg (· + 1) same.turn, same.faults⟩
  | false =>
    have here : address + .ofNat 0 = address := UInt16.add_zero address
    exact ⟨congrArg (fun place => Except.ok (eeprom.memory.get place)) here, same.memory,
      congrArg (· + 1) same.turn, same.faults⟩

theorem writeByte (address : UInt16) (value : UInt8) :
    Alike (writeByte address value) (writeByte address value) := by
  intro eeprom store same
  have onChip : exec (KnobPanel.writeByte (S := Eeprom) address value) eeprom =
      exec (writePages [(address, [value])]) eeprom :=
    congrArg (fun pieces => exec (writePages pieces) eeprom) (pages_singleton address value)
  have stored : (Device.write (EepromChip.addressBytes address ++ [value])
      eeprom.bus.device).memory = eeprom.memory.set address value := by
    rw [EepromChip.write_addressed]
    rfl
  rw [onChip, FlatStore.exec_writeByte, same.refuses, same.memory]
  cases free : eeprom.bus.fails eeprom.bus.turn with
  | true =>
    rw [exec_writePages_refused free]
    exact ⟨rfl, same.memory, congrArg (· + 1) same.turn, same.faults⟩
  | false =>
    rw [exec_writePages_sent free]
    exact ⟨rfl, stored.symm, congrArg (· + 1) same.turn, same.faults⟩

open Record

theorem readBytes (start : UInt16) (n : Nat) : Alike (readBytes start n) (readBytes start n) := by
  induction n with
  | zero => exact pure _
  | succ n ih =>
    exact ih.bind fun front => (readByte _).bind fun last => pure _

theorem load : Alike load load := by
  refine (readByte markerAddress).bind fun found => ?_
  by_cases valid : found = marker
  case pos =>
    subst valid
    exact (readBytes payloadAddress 15).bind fun bytes => pure _
  case neg =>
    have other : (found != marker) = true := by simpa using valid
    simp only [other]
    exact pure none

theorem updateByte (address : UInt16) (value : UInt8) :
    Alike (updateByte address value) (updateByte address value) := by
  refine (readByte address).bind fun old => ?_
  cases old == value with
  | true => exact pure false
  | false => exact (writeByte address value).bind fun _ => pure true

theorem updateBytes (writes : List (UInt16 × UInt8)) :
    Alike (updateBytes writes) (updateBytes writes) := by
  induction writes with
  | nil => exact pure 0
  | cons write writes ih =>
    exact (updateByte _ _).bind fun written => ih.bind fun others => pure _

theorem save (settings : Settings) : Alike (save settings) (save settings) :=
  updateBytes (image settings)

end Alike

open Record

theorem Matches.loadOrInit {eeprom : Eeprom} {store : FlatStore} (same : eeprom.Matches store) :
    (loadOrInit eeprom).1 = (loadOrInit store).1 ∧
      Matches (loadOrInit eeprom).2 (loadOrInit store).2 := by
  obtain ⟨agree, same⟩ := Alike.load eeprom store same
  rw [loadOrInit_eq, loadOrInit_eq]
  revert agree same
  rcases exec load eeprom with ⟨fault | found, chip⟩ <;>
    rcases exec load store with ⟨fault' | found', plain⟩ <;> rintro ⟨⟩ same
  · exact ⟨rfl, (Alike.save .factory chip plain same).2⟩
  · cases found with
    | none => exact ⟨rfl, (Alike.save .factory chip plain same).2⟩
    | some settings => exact ⟨rfl, same⟩

theorem Matches.answer {eeprom : Eeprom} {store : FlatStore} (same : eeprom.Matches store)
    (call : RecordCall) :
    (answer eeprom call).1 = (answer store call).1 ∧
      Matches (answer eeprom call).2 (answer store call).2 := by
  cases call with
  | load =>
    obtain ⟨agree, same⟩ := Alike.load eeprom store same
    exact ⟨congrArg RecordAnswer.loaded agree, same⟩
  | save settings =>
    obtain ⟨agree, same⟩ := Alike.save settings eeprom store same
    simp only [Record.answer]
    exact ⟨congrArg RecordAnswer.saved agree, same⟩
  | loadOrInit =>
    obtain ⟨agree, same⟩ := same.loadOrInit
    exact ⟨congrArg RecordAnswer.started agree, same⟩

theorem Matches.answers {eeprom : Eeprom} {store : FlatStore} (same : eeprom.Matches store)
    (calls : List RecordCall) :
    (answers eeprom calls).1 = (answers store calls).1 ∧
      Matches (answers eeprom calls).2 (answers store calls).2 := by
  induction calls generalizing eeprom store with
  | nil => exact ⟨rfl, same⟩
  | cons call calls ih =>
    obtain ⟨agree, same⟩ := same.answer call
    obtain ⟨others, same⟩ := ih same
    exact ⟨congr (congrArg List.cons agree) others, same⟩

end Eeprom

-- ---------------------------------------------------------------------------
-- Bytes outside the record
-- ---------------------------------------------------------------------------

namespace FlatStore

open StoreM (exec)

def Spares {α : Type} (address : UInt16) (x : StoreM FlatStore α) : Prop :=
  ∀ store, (exec x store).2.memory.get address = store.memory.get address

theorem Writing.spares {allowed : UInt16 → UInt8 → Prop} {α : Type} {x : StoreM FlatStore α}
    (writing : Writing allowed x) {address : UInt16} (apart : ∀ value, ¬allowed address value) :
    Spares address x := by
  induction writing with
  | pure a => exact fun _ => rfl
  | @bind α β x f _ _ ih ihf =>
    intro store
    have same := ih store
    rw [StoreM.exec_bind]
    generalize exec x store = met at same ⊢
    rcases met with ⟨fault | a, between⟩
    · exact same
    · exact (ihf a between).trans same
  | readByte place =>
    intro store
    rw [exec_readByte]
    rfl
  | @writeByte place value fits =>
    intro store
    have other : address ≠ place := fun same => apart value (same ▸ fits)
    rw [exec_writeByte]
    cases store.refuses (.write place value) with
    | true => rfl
    | false => exact (Memory.get_set ..).trans (if_neg other)

open Record

variable {address : UInt16}

theorem spares_load (address : UInt16) : Spares address load :=
  writing_load.spares fun _ => id

theorem spares_save (outside : address < 5 ∨ 20 < address) (settings : Settings) :
    Spares address (save settings) := by
  have inside : ∀ place ∈ (image settings).map Prod.fst, ¬(place < 5 ∨ 20 < place) := by
    rw [image_addresses]
    simp
  refine (writing_save settings).spares fun value listed => ?_
  exact inside address (List.mem_map_of_mem listed) outside

theorem spares_loadOrInit (outside : address < 5 ∨ 20 < address) (store : FlatStore) :
    (loadOrInit store).2.memory.get address = store.memory.get address := by
  have loaded : (exec load store).2.memory.get address = _ := spares_load address store
  rw [loadOrInit_eq]
  revert loaded
  rcases exec load store with ⟨fault | none | settings, after⟩ <;> intro loaded
  · exact (spares_save outside .factory after).trans loaded
  · exact (spares_save outside .factory after).trans loaded
  · exact loaded

theorem spares_answers (outside : address < 5 ∨ 20 < address) (calls : List RecordCall)
    (store : FlatStore) :
    (answers store calls).2.memory.get address = store.memory.get address := by
  induction calls generalizing store with
  | nil => rfl
  | cons call calls ih =>
    refine (ih (answer store call).2).trans ?_
    cases call with
    | load => exact spares_load address store
    | save settings => simpa only [answer] using spares_save outside settings store
    | loadOrInit => exact spares_loadOrInit outside store

end FlatStore

namespace Record

/-- Over the chip all calls answer as over the plain store with the same faults, in as many
accesses as transactions, and leave the same memory, changed nowhere but in the record. -/
theorem answers_on_eeprom (eeprom : Eeprom) (calls : List RecordCall) :
    (answers eeprom calls).1 = (answers eeprom.flat calls).1 ∧
      (answers eeprom calls).2.memory = (answers eeprom.flat calls).2.memory ∧
      (answers eeprom calls).2.bus.turn = (answers eeprom.flat calls).2.turn ∧
      ∀ address, address < 5 ∨ 20 < address →
        (answers eeprom calls).2.memory.get address = eeprom.memory.get address := by
  obtain ⟨agree, same⟩ := eeprom.matches_flat.answers calls
  refine ⟨agree, same.memory.symm, same.turn.symm, fun address outside => ?_⟩
  rw [← same.memory]
  exact FlatStore.spares_answers outside calls eeprom.flat

end Record

end KnobPanel
