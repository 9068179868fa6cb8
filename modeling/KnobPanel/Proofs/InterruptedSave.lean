import KnobPanel.Proofs.FlatRecord

/-!
# Saves that stop half way

A save goes through the payload in order and ends with the marker, so a stopped
save leaves the first fields of the new settings in front of the others. Without
a valid marker nothing is loaded from that. Over a valid record the marker keeps
vouching for the mixture: it is one of the two configurations only if they agree
on every field before the stop, or on every field from it on.
-/

namespace KnobPanel

namespace Settings

/-- The first `done` fields of `new` and the others of `old`. -/
def splice (done : Nat) (new old : Settings) : Settings :=
  decode (.ofFn fun i => if i.val < done then new.encode[i] else old.encode[i])

theorem getElem_encode_splice {new old : Settings} (hn : new.InRange) (ho : old.InRange)
    (done : Nat) {i : Nat} (hi : i < 15) :
    (splice done new old).encode[i] = if i < done then new.encode[i] else old.encode[i] := by
  split
  · rename_i hd
    exact (getElem_encode_decode (b := new.encode) i hi (by simp [hd])).trans
      (by rw [decode_encode hn])
  · rename_i hd
    exact (getElem_encode_decode (b := old.encode) i hi (by simp [hd])).trans
      (by rw [decode_encode ho])

theorem splice_inRange (done : Nat) (new old : Settings) : (splice done new old).InRange :=
  decode_inRange _

theorem splice_eq_old_iff {new old : Settings} (hn : new.InRange) (ho : old.InRange)
    (done : Nat) :
    splice done new old = old ↔
      ∀ i, (hi : i < 15) → i < done → old.encode[i] = new.encode[i] := by
  rw [← encode_inj (splice_inRange ..) ho]
  constructor
  · intro h i hi hd
    rw [← h, getElem_encode_splice hn ho done hi, if_pos hd]
  · intro h
    refine Vector.ext fun i hi => ?_
    rw [getElem_encode_splice hn ho done hi]
    split
    · rename_i hd; exact (h i hi hd).symm
    · rfl

theorem splice_eq_new_iff {new old : Settings} (hn : new.InRange) (ho : old.InRange)
    (done : Nat) :
    splice done new old = new ↔
      ∀ i, (hi : i < 15) → done ≤ i → old.encode[i] = new.encode[i] := by
  rw [← encode_inj (splice_inRange ..) hn]
  constructor
  · intro h i hi hd
    rw [← h, getElem_encode_splice hn ho done hi, if_neg (Nat.not_lt.mpr hd)]
  · intro h
    refine Vector.ext fun i hi => ?_
    rw [getElem_encode_splice hn ho done hi]
    split
    · rfl
    · rename_i hd; exact h i hi (Nat.not_lt.mp hd)

theorem splice_decode {new : Settings} (hn : new.InRange) (done : Nat) (bytes : Payload) :
    splice done new (decode bytes) =
      decode (.ofFn fun i => if i.val < done then new.encode[i] else bytes[i]) := by
  rw [← encode_inj (splice_inRange ..) (decode_inRange _)]
  refine Vector.ext fun i hi => ?_
  rw [getElem_encode_splice hn (decode_inRange _) done hi]
  split
  · rename_i hd
    rw [getElem_encode_decode (b := new.encode) i hi (by simp [hd]), decode_encode hn]
  · rename_i hd
    exact getElem_encode_decode i hi (by simp [hd])

end Settings

namespace Record

open StoreM (exec)

theorem length_image (settings : Settings) : (image settings).length = 16 := by
  simp [image]

theorem getElem?_image_payload (settings : Settings) {i : Nat} (hi : i < 15) :
    (image settings)[i]? = some (payloadAddress + .ofNat i, settings.encode[i]) := by
  simp [image, List.getElem?_append, hi]

theorem getElem?_image_marker (settings : Settings) :
    (image settings)[15]? = some (markerAddress, marker) := by
  simp [image]

theorem image_addresses (settings : Settings) :
    (image settings).map Prod.fst =
      [6, 7, 8, 9, 10, 11, 12, 13, 14, 15, 16, 17, 18, 19, 20, 5] := by
  simp [image, Settings.encode, payloadAddress, markerAddress]

theorem nodup_image_addresses (settings : Settings) : ((image settings).map Prod.fst).Nodup := by
  rw [image_addresses]
  decide

theorem payload_putAll_image (new : Settings) (done : Nat) (memory : Memory) :
    payload (memory.putAll ((image new).take done)) =
      .ofFn fun i => if i.val < done then new.encode[i] else (payload memory)[i] := by
  refine Vector.ext fun i hi => ?_
  rw [getElem_payload _ hi, Vector.getElem_ofFn]
  simp only [Fin.getElem_fin, getElem_payload memory hi]
  exact Memory.get_putAll_take (nodup_image_addresses new) (getElem?_image_payload new hi) done
    memory

/-- The marker is the last byte of the record, so it is not among the first 15. -/
theorem marker_putAll_image (new : Settings) {done : Nat} (hd : done < 16) (memory : Memory) :
    (memory.putAll ((image new).take done)).get markerAddress = memory.get markerAddress :=
  (Memory.get_putAll_take (nodup_image_addresses new) (getElem?_image_marker new) done memory).trans
    (if_neg (by omega))

theorem held_putAll_image {new : Settings} (hn : new.InRange) {done : Nat} (hd : done < 16)
    (memory : Memory) :
    held (memory.putAll ((image new).take done)) =
      (held memory).map (Settings.splice done new) := by
  rw [held, held, marker_putAll_image new hd, payload_putAll_image]
  split
  · rw [Option.map_some, Settings.splice_decode hn]
  · rfl

/-- A stopped save has put the fields before the failed byte in front of the
others, and nothing else changed. -/
theorem stopped_save {new : Settings} (hn : new.InRange) {store after : FlatStore} {fault : Fault}
    (h : exec (save new) store = (.error fault, after)) :
    ∃ done < 16,
      after.log.head?.map Access.address = (image new)[done]?.map Prod.fst ∧
        held after.memory = (held store.memory).map (Settings.splice done new) := by
  rw [save] at h
  obtain ⟨-, done, hd, hm, hl⟩ := updateBytes_error h
  rw [length_image] at hd
  have hs := held_putAll_image hn hd store.memory
  rw [← hm] at hs
  exact ⟨done, hd, hl, hs⟩

theorem held_inRange {memory : Memory} {settings : Settings} (h : held memory = some settings) :
    settings.InRange := by
  unfold held at h
  split at h
  · rw [← Option.some.inj h]
    exact Settings.decode_inRange _
  · cases h

theorem inRange_loadOrInit (store : FlatStore) : (loadOrInit store).1.InRange := by
  unfold loadOrInit
  split
  case h_1 settings after loads =>
    obtain ⟨found, -, -⟩ := load_ok loads
    exact held_inRange found.symm
  case h_2 => exact Settings.factory_inRange

/-- After a stopped save a load gives nothing, the old settings or the new ones
exactly if, over a valid record, the old and the new settings agree on all
fields before the byte whose access failed, or on all from it on. -/
theorem reload_stopped_save_iff {new : Settings} (hn : new.InRange) {store after : FlatStore}
    {fault : Fault} (h : exec (save new) store = (.error fault, after)) :
    ∃ done < 16,
      after.log.head?.map Access.address = (image new)[done]?.map Prod.fst ∧
      ((reload after.memory = .ok none ∨ reload after.memory = reload store.memory ∨
          reload after.memory = .ok (some new)) ↔
        ∀ old, reload store.memory = .ok (some old) →
          (∀ i, (hi : i < 15) → i < done → old.encode[i] = new.encode[i]) ∨
          (∀ i, (hi : i < 15) → done ≤ i → old.encode[i] = new.encode[i])) := by
  obtain ⟨done, hd, hl, hs⟩ := stopped_save hn h
  refine ⟨done, hd, hl, ?_⟩
  simp only [reload_eq, hs, Except.ok.injEq]
  cases ho : held store.memory with
  | none => simp
  | some old =>
    have hr := held_inRange ho
    simp only [Option.map_some, reduceCtorEq, false_or, Option.some.injEq,
      Settings.splice_eq_old_iff hn hr, Settings.splice_eq_new_iff hn hr, forall_eq']

/-- A valid record of zero bytes, whose second payload byte cannot be read. -/
def zeros : FlatStore where
  memory := .tabulate fun address => if address = markerAddress then marker else 0
  faulty _ access := access = .read 7

def halfSaved : FlatStore :=
  { zeros with
    memory := zeros.memory.putAll ((image .factory).take 1)
    turn := 3
    log := [.read 7, .write 6 180, .read 6] }

theorem payload_zeros : payload zeros.memory = .replicate 15 0 := by
  refine Vector.ext fun i hi => ?_
  rw [getElem_payload _ hi, zeros, Memory.get_tabulate, Vector.getElem_replicate, if_neg]
  intro h
  have := congrArg UInt16.toNat h
  simp [payloadAddress, markerAddress] at this
  omega

theorem held_zeros : held zeros.memory = some (.decode (.replicate 15 0)) := by
  rw [held, payload_zeros, if_pos]
  rw [zeros, Memory.get_tabulate, if_pos rfl]

theorem save_zeros : exec (save .factory) zeros = (.error .storage, halfSaved) := by
  simp [save, image, Settings.encode, updateBytes, updateByte, StoreM.exec_bind,
    FlatStore.exec_readByte, FlatStore.exec_writeByte, FlatStore.refuses, FlatStore.noted,
    halfSaved, zeros, Settings.factory, Memory.putAll, Memory.get_tabulate, payloadAddress,
    markerAddress]

theorem reload_stopped_save_iff_zeros :
    Settings.factory.InRange ∧ exec (save .factory) zeros = (.error .storage, halfSaved) ∧
    ∃ done < 16,
      halfSaved.log.head?.map Access.address = (image .factory)[done]?.map Prod.fst ∧
      ((reload halfSaved.memory = .ok none ∨ reload halfSaved.memory = reload zeros.memory ∨
          reload halfSaved.memory = .ok (some .factory)) ↔
        ∀ old, reload zeros.memory = .ok (some old) →
          (∀ i, (hi : i < 15) → i < done → old.encode[i] = Settings.factory.encode[i]) ∨
          (∀ i, (hi : i < 15) → done ≤ i → old.encode[i] = Settings.factory.encode[i])) :=
  ⟨Settings.factory_inRange, save_zeros,
    reload_stopped_save_iff Settings.factory_inRange save_zeros⟩

theorem reload_halfSaved_mixed :
    Settings.factory.InRange ∧ exec (save .factory) zeros = (.error .storage, halfSaved) ∧
      ¬(reload halfSaved.memory = .ok none ∨ reload halfSaved.memory = reload zeros.memory ∨
        reload halfSaved.memory = .ok (some .factory)) := by
  refine ⟨Settings.factory_inRange, save_zeros, ?_⟩
  have hr : (Settings.decode (.replicate 15 0)).InRange := Settings.decode_inRange _
  have hs : held halfSaved.memory =
      some (Settings.splice 1 .factory (.decode (.replicate 15 0))) := by
    rw [halfSaved, held_putAll_image Settings.factory_inRange (by omega), held_zeros]
    rfl
  simp only [reload_eq, hs, held_zeros, Except.ok.injEq, Option.some.injEq, reduceCtorEq, false_or,
    Settings.splice_eq_old_iff Settings.factory_inRange hr,
    Settings.splice_eq_new_iff Settings.factory_inRange hr, not_or]
  exact ⟨fun h => absurd (h 0 (by omega) (by omega)) (by decide),
    fun h => absurd (h 3 (by omega) (by omega)) (by decide)⟩

end Record

end KnobPanel
