import KnobPanel.Proofs.InterruptedSave
import Mathlib.Data.List.Basic

/-!
# How a save ends

A save goes through the record byte by byte and writes those that the memory holds
otherwise. One that meets no fault ends with the settings stored; saving them again
has nothing to write. One that meets a fault has stored the fields before it, and a
later save makes up for it.
-/

namespace KnobPanel

def Memory.lacks (memory : Memory) (byte : UInt16 × UInt8) : Bool := memory.get byte.1 != byte.2

theorem FlatStore.Trail.writesTo_eq {accesses : List Access} {before after : FlatStore}
    (way : Trail accesses before after) :
    before.writesTo after = accesses.filterMap Access.written? := by
  rw [writesTo, way.accessesTo_eq]

namespace Record

open StoreM (exec)
open FlatStore

variable {settings : Settings} {store after : FlatStore} {answer : Except Fault Nat}

-- ---------------------------------------------------------------------------
-- Updates without a fault
-- ---------------------------------------------------------------------------

/-- The accesses of an update: the byte is read, and written if it is another one. -/
def updating (memory : Memory) (byte : UInt16 × UInt8) : List Access :=
  .read byte.1 :: if memory.lacks byte then [.write byte.1 byte.2] else []

theorem trail_updateByte (byte : UInt16 × UInt8) {written : Bool}
    (h : exec (updateByte byte.1 byte.2) store = (.ok written, after)) :
    Trail (updating store.memory byte) store after ∧ written = store.memory.lacks byte := by
  simp only [updateByte, StoreM.bind_ok] at h
  obtain ⟨old, between, hr, h⟩ := h
  obtain ⟨rfl, rfl⟩ := readByte_ok hr
  have first : Trail [.read byte.1] store (store.noted (.read byte.1)) :=
    .noted _ store store.memory
  split at h
  case isTrue same =>
    have held : store.memory.lacks byte = false := by simpa [Memory.lacks] using same
    cases h
    rw [updating, held]
    exact ⟨first, rfl⟩
  case isFalse other =>
    have lacks : store.memory.lacks byte = true := by simpa [Memory.lacks] using other
    rw [StoreM.bind_ok] at h
    obtain ⟨_, between, hw, h⟩ := h
    rw [exec_writeByte] at hw
    split at hw
    · cases hw
    · cases hw
      cases h
      rw [updating, lacks]
      exact ⟨first.trans (.noted _ _ _), rfl⟩

/-- Bytes at different addresses do not get into each other's way. -/
theorem trail_updateBytes {writes : List (UInt16 × UInt8)} {n : Nat}
    (apart : (writes.map Prod.fst).Nodup)
    (h : exec (updateBytes writes) store = (.ok n, after)) :
    Trail (writes.flatMap (updating store.memory)) store after ∧
      n = (writes.filter store.memory.lacks).length := by
  induction writes generalizing store n with
  | nil =>
    cases h
    exact ⟨.refl _, rfl⟩
  | cons write writes ih =>
    obtain ⟨alone, apart⟩ := List.nodup_cons.mp apart
    simp only [updateBytes, StoreM.bind_ok] at h
    obtain ⟨written, between, hw, others, last, hr, h⟩ := h
    cases h
    obtain ⟨first, rfl⟩ := trail_updateByte write hw
    obtain ⟨rest, rfl⟩ := ih apart hr
    -- the bytes that are still to come were not touched
    have same : ∀ byte ∈ writes, between.memory.get byte.1 = store.memory.get byte.1 := by
      intro byte later
      rw [updateByte_ok hw, Memory.get_set, if_neg]
      intro here
      exact alone (here ▸ List.mem_map_of_mem later)
    have lacks : ∀ byte ∈ writes, between.memory.lacks byte = store.memory.lacks byte := by
      intro byte later
      rw [Memory.lacks, Memory.lacks, same byte later]
    have plan : writes.flatMap (updating between.memory) = writes.flatMap (updating store.memory) :=
      List.flatMap_congr fun byte later => by rw [updating, updating, lacks byte later]
    refine ⟨?_, ?_⟩
    · rw [List.flatMap_cons, ← plan]
      exact first.trans rest
    · rw [List.filter_cons, List.filter_congr lacks]
      cases store.memory.lacks write with
      | true => exact Nat.add_comm 1 _
      | false => exact Nat.zero_add _

theorem written_updating (memory : Memory) (writes : List (UInt16 × UInt8)) :
    (writes.flatMap (updating memory)).filterMap Access.written? =
      writes.filter memory.lacks := by
  induction writes with
  | nil => rfl
  | cons write writes ih =>
    rw [List.flatMap_cons, List.filterMap_append, ih, List.filter_cons, updating]
    cases memory.lacks write <;> rfl

-- ---------------------------------------------------------------------------
-- Complete saves
-- ---------------------------------------------------------------------------

/-- The addresses of the record in the order of a save, the marker's last. -/
def places : List UInt16 := [6, 7, 8, 9, 10, 11, 12, 13, 14, 15, 16, 17, 18, 19, 20, 5]

theorem get_putAll_image {byte : UInt16 × UInt8} (listed : byte ∈ image settings)
    (memory : Memory) : (memory.putAll (image settings)).get byte.1 = byte.2 :=
  Memory.get_putAll_of_mem (nodup_image_addresses settings) listed memory

theorem payload_stored (settings : Settings) (memory : Memory) :
    payload (memory.putAll (image settings)) = settings.encode := by
  refine Vector.ext fun i hi => ?_
  rw [getElem_payload _ hi]
  exact get_putAll_image (List.mem_of_getElem? (getElem?_image_payload settings hi)) memory

theorem marker_stored (settings : Settings) (memory : Memory) :
    (memory.putAll (image settings)).get markerAddress = marker :=
  get_putAll_image (List.mem_of_getElem? (getElem?_image_marker settings)) memory

theorem held_stored (inRange : settings.InRange) (memory : Memory) :
    held (memory.putAll (image settings)) = some settings := by
  rw [held, if_pos (marker_stored settings memory), payload_stored, Settings.decode_encode inRange]

theorem save_granted (saves : exec (save settings) store = (answer, after))
    (granted : ¬store.MetFault after) :
    after.memory = store.memory.putAll (image settings) ∧
      store.writesTo after = (image settings).filter store.memory.lacks ∧
      answer = .ok (store.writesTo after).length := by
  have ended := (writing_save settings).ends store
  rw [saves] at ended
  obtain ⟨-, n, rfl⟩ := ended.resolve_right fun failed => granted failed.1
  obtain ⟨way, counted⟩ := trail_updateBytes (nodup_image_addresses settings) saves
  have written : store.writesTo after = (image settings).filter store.memory.lacks := by
    rw [way.writesTo_eq, written_updating]
  exact ⟨updateBytes_ok saves, written, by rw [written, counted]⟩

/-- The settings are stored from one store to the other, with no write too many. -/
structure Saved (settings : Settings) (before after : FlatStore) : Prop where
  payload : payload after.memory = settings.encode
  marker : after.memory.get markerAddress = marker
  others : ∀ address ∉ places, after.memory.get address = before.memory.get address
  /-- Every byte of the record that changes is written once, and no other. -/
  writes : before.writesTo after =
    (places.filter fun address => before.memory.get address != after.memory.get address).map
      fun address => (address, after.memory.get address)

theorem saved_of_granted (saves : exec (save settings) store = (answer, after))
    (granted : ¬store.MetFault after) : Saved settings store after := by
  obtain ⟨stored, written, -⟩ := save_granted saves granted
  have places_eq : places = (image settings).map Prod.fst := (image_addresses settings).symm
  have target : ∀ byte ∈ image settings, after.memory.get byte.1 = byte.2 := by
    intro byte listed
    rw [stored, get_putAll_image listed]
  have lacks : ∀ byte ∈ image settings, store.memory.lacks byte =
      (store.memory.get byte.1 != after.memory.get byte.1) := by
    intro byte listed
    rw [Memory.lacks, target byte listed]
  refine ⟨by rw [stored, payload_stored], by rw [stored, marker_stored], ?_, ?_⟩
  · intro address outside
    rw [places_eq] at outside
    rw [stored, Memory.get_putAll_of_notMem outside]
  · rw [written, places_eq, List.filter_map, List.map_map, List.filter_congr lacks]
    refine (List.map_id _).symm.trans (List.map_congr_left fun byte listed => ?_)
    exact Prod.ext rfl (target byte (List.mem_of_mem_filter listed)).symm

theorem save_again (saves : exec (save settings) store = (answer, after))
    (stored : ∀ byte ∈ image settings, store.memory.get byte.1 = byte.2)
    (granted : ¬store.MetFault after) : store.writesTo after = [] ∧ answer = .ok 0 := by
  obtain ⟨-, written, counts⟩ := save_granted saves granted
  have nothing : store.writesTo after = [] := by
    rw [written, List.filter_eq_nil_iff]
    intro byte listed
    simp [Memory.lacks, stored byte listed]
  exact ⟨nothing, by rw [counts, nothing, List.length_nil]⟩

-- ---------------------------------------------------------------------------
-- The first load
-- ---------------------------------------------------------------------------

theorem loads_stored (inRange : settings.InRange) (memory : Memory) :
    Loads (memory.putAll (image settings)) (some settings) := by
  rw [← held_stored inRange memory]
  exact loads_held _

theorem trail_loadOrInit (store : FlatStore) :
    ∃ accesses, Trail accesses store (loadOrInit store).2 := by
  obtain ⟨first, way, -⟩ := writing_load.trail store
  rcases loadOrInit_cases store with ⟨found, between, met, started⟩ | ⟨_, between, met, -, started⟩
  · rw [met] at way
    rw [started]
    exact ⟨first, way⟩
  · obtain ⟨rest, way', -⟩ := (writing_save .factory).trail between
    rw [met] at way
    rw [started]
    exact ⟨first ++ rest, way.trans way'⟩

theorem loadOrInit_found (loads : (exec load store).1 = .ok (some settings)) :
    (loadOrInit store).1 = settings ∧ store.writesTo (loadOrInit store).2 = [] := by
  obtain ⟨accesses, way, within⟩ := writing_load.trail store
  rcases loadOrInit_cases store with ⟨found, between, met, started⟩ | ⟨_, between, met, other, -⟩
  · rw [met] at loads way
    cases loads
    rw [started]
    refine ⟨rfl, ?_⟩
    rw [way.writesTo_eq, List.filterMap_eq_nil_iff]
    intro access attempted
    cases access with
    | read address => rfl
    | write address value => exact (within address value attempted).elim
  · rw [met] at loads
    exact absurd loads (other settings)

theorem loadOrInit_granted (granted : ¬store.MetFault (loadOrInit store).2) :
    Loads (loadOrInit store).2.memory (some (loadOrInit store).1) := by
  obtain ⟨accesses, way, -⟩ := writing_load.trail store
  rcases loadOrInit_cases store with ⟨found, between, met, started⟩ | ⟨_, between, met, -, started⟩
  · obtain ⟨here, kept, -⟩ := load_ok met
    rw [started, here, ← kept]
    exact loads_held between.memory
  · rw [met] at way
    obtain ⟨writes, way', -⟩ := (writing_save .factory).trail between
    rcases saves : exec (save .factory) between with ⟨answer, last⟩
    rw [saves] at started way'
    rw [started] at granted ⊢
    obtain ⟨stored, -⟩ := save_granted saves fun failed =>
      granted ((way.metFault_trans way').mpr (.inr failed))
    rw [stored]
    exact loads_stored Settings.factory_inRange between.memory

/-- A save that meets no fault stores the settings with the fewest writes: they load again, and
to save them again is to write nothing. The first load gives settings in range, writes nothing if
it finds some, and if it meets no fault they load again. -/
theorem save_and_load :
    (∀ (settings : Settings) (store after : FlatStore) (answer : Except Fault Nat),
      exec (save settings) store = (answer, after) → ¬store.MetFault after →
        Saved settings store after ∧ answer = .ok (store.writesTo after).length ∧
          (settings.InRange → Loads after.memory (some settings)) ∧
          ∀ (later last : FlatStore) (repeated : Except Fault Nat), later.memory = after.memory →
            exec (save settings) later = (repeated, last) → ¬later.MetFault last →
              later.writesTo last = [] ∧ repeated = .ok 0) ∧
    ∀ store : FlatStore, (loadOrInit store).1.InRange ∧
      (∀ found, (exec load store).1 = .ok (some found) →
        (loadOrInit store).1 = found ∧ store.writesTo (loadOrInit store).2 = []) ∧
      (¬store.MetFault (loadOrInit store).2 →
        Loads (loadOrInit store).2.memory (some (loadOrInit store).1)) := by
  refine ⟨fun settings store after answer saves granted => ?_, fun store => ?_⟩
  · obtain ⟨stored, -, counts⟩ := save_granted saves granted
    refine ⟨saved_of_granted saves granted, counts, fun inRange => ?_, ?_⟩
    · rw [stored]
      exact loads_stored inRange store.memory
    · intro later last repeated same saves' granted'
      refine save_again saves' (fun byte listed => ?_) granted'
      rw [same, stored, get_putAll_image listed]
  · exact ⟨inRange_loadOrInit store, fun found => loadOrInit_found, loadOrInit_granted⟩

def mended : FlatStore where
  memory := halfSaved.memory

theorem not_metFault_mended (after : FlatStore) : ¬mended.MetFault after := by
  rintro ⟨i, access, -, failed⟩
  exact Bool.false_ne_true failed

theorem save_and_load_mended :
    ∃ after answer, exec (save .factory) mended = (answer, after) ∧ ¬mended.MetFault after ∧
      Settings.factory.InRange ∧ Saved .factory mended after ∧
      answer = .ok (mended.writesTo after).length ∧ Loads after.memory (some .factory) := by
  rcases saves : exec (save .factory) mended with ⟨answer, after⟩
  have granted := not_metFault_mended after
  obtain ⟨saved, counts, loads, -⟩ := save_and_load.1 .factory mended after answer saves granted
  exact ⟨after, answer, rfl, granted, Settings.factory_inRange, saved, counts,
    loads Settings.factory_inRange⟩

-- ---------------------------------------------------------------------------
-- Failed saves
-- ---------------------------------------------------------------------------

/-- A save that meets a fault says so. It has stored the bytes before the one whose access failed
and changed nothing else, so without a marker nothing loads, and a save without a fault makes up
for it. -/
theorem failed_save (saves : exec (save settings) store = (answer, after))
    (failed : store.MetFault after) :
    answer = .error .storage ∧
      (∃ done ≤ 15, after.log.head?.map Access.address = places[done]? ∧
        (∀ i, (field : i < 15) → (payload after.memory)[i] =
          if i < done then settings.encode[i] else (payload store.memory)[i]) ∧
        after.memory.get markerAddress = store.memory.get markerAddress ∧
        ∀ address ∉ places, after.memory.get address = store.memory.get address) ∧
      (store.memory.get markerAddress ≠ marker → Loads after.memory none) ∧
      ∀ (other : Settings) (later last : FlatStore) (repeated : Except Fault Nat),
        later.memory = after.memory → other.InRange →
        exec (save other) later = (repeated, last) → ¬later.MetFault last →
          repeated = .ok (later.writesTo last).length ∧ Loads last.memory (some other) := by
  have ended := (writing_save settings).ends store
  rw [saves] at ended
  obtain ⟨-, rfl⟩ := ended.resolve_left fun granted => granted.1 failed
  obtain ⟨-, done, inside, stored, stopped⟩ := updateBytes_error saves
  rw [length_image] at inside
  have marked := marker_putAll_image settings inside store.memory
  refine ⟨rfl, ⟨done, Nat.le_of_lt_succ inside, ?_, fun i field => ?_, ?_,
    fun address outside => ?_⟩, ?_, ?_⟩
  · rw [stopped, ← List.getElem?_map, image_addresses, places]
  · simp only [stored, payload_putAll_image, Vector.getElem_ofFn, Fin.getElem_fin]
  · rw [stored, marked]
  · rw [stored, Memory.get_putAll_of_notMem]
    intro listed
    rw [List.map_take, image_addresses] at listed
    exact outside (List.mem_of_mem_take listed)
  · intro unmarked
    have nothing : held after.memory = none := by rw [held, stored, marked, if_neg unmarked]
    rw [← nothing]
    exact loads_held after.memory
  · intro other later last repeated same inRange saves' granted
    obtain ⟨stored', -, counts⟩ := save_granted saves' granted
    rw [stored']
    exact ⟨counts, loads_stored inRange later.memory⟩

theorem metFault_zeros : zeros.MetFault halfSaved :=
  ⟨2, .read 7, rfl, by simp [zeros]⟩

theorem failed_save_zeros :
    exec (save .factory) zeros = (.error .storage, halfSaved) ∧ zeros.MetFault halfSaved ∧
      (∃ done ≤ 15, some 7 = places[done]? ∧
        (∀ i, (field : i < 15) → (payload halfSaved.memory)[i] =
          if i < done then Settings.factory.encode[i] else (payload zeros.memory)[i]) ∧
        halfSaved.memory.get markerAddress = zeros.memory.get markerAddress ∧
        ∀ address ∉ places, halfSaved.memory.get address = zeros.memory.get address) ∧
      ∃ last, exec (save .factory) mended = (.ok (mended.writesTo last).length, last) ∧
        Loads last.memory (some .factory) := by
  obtain ⟨-, stored, -, recovers⟩ := failed_save save_zeros metFault_zeros
  refine ⟨save_zeros, metFault_zeros, stored, ?_⟩
  rcases saves : exec (save .factory) mended with ⟨answer, last⟩
  obtain ⟨rfl, loads⟩ := recovers .factory mended last answer rfl Settings.factory_inRange saves
    (not_metFault_mended last)
  exact ⟨last, rfl, loads⟩

end Record

end KnobPanel
