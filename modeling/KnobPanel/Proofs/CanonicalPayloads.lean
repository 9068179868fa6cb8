import KnobPanel.Proofs.Codec
import Mathlib.Data.Set.Function

/-!
# Canonical payloads

Every byte of a payload has a ceiling, the largest value that encoding gives it. Decoding
and encoding again keeps exactly the bytes up to their ceilings, so the payloads without
a byte above it are the stored forms of the settings in range, one for each.
-/

namespace KnobPanel

-- ---------------------------------------------------------------------------
-- Single bytes
-- ---------------------------------------------------------------------------

theorem index_lookup_iff {α : Type} {all : List α} {index : α → UInt8} {fallback : α}
    (numbered : ∀ i, (h : i < all.length) → (index all[i]).toNat = i)
    (listed : (index fallback).toNat < all.length) (byte : UInt8) :
    index (all[byte.toNat]?.getD fallback) = byte ↔ byte.toNat < all.length := by
  rw [← UInt8.toNat_inj]
  by_cases known : byte.toNat < all.length
  · rw [List.getElem?_eq_getElem known, Option.getD_some, numbered]
    exact iff_of_true rfl known
  · rw [List.getElem?_eq_none (Nat.not_lt.mp known), Option.getD_none]
    exact iff_of_false (fun same => known (same ▸ listed)) known

theorem AutoOffTier.index_ofIndex_iff (byte : UInt8) : (ofIndex byte).index = byte ↔ byte ≤ 6 := by
  rw [ofIndex, List.getD_eq_getElem?_getD, index_lookup_iff (by decide) (by decide),
    UInt8.le_iff_toNat_le]
  exact Nat.lt_succ_iff

theorem HomeArt.index_ofIndex_iff (byte : UInt8) : (ofIndex byte).index = byte ↔ byte ≤ 3 := by
  rw [ofIndex, List.getD_eq_getElem?_getD, index_lookup_iff (by decide) (by decide),
    UInt8.le_iff_toNat_le]
  exact Nat.lt_succ_iff

theorem RgbMode.index_ofIndex?_iff (byte : UInt8) :
    ((ofIndex? byte).getD Settings.factory.rgb.mode).index = byte ↔ byte ≤ 14 := by
  rw [ofIndex?, index_lookup_iff (by decide) (by decide), UInt8.le_iff_toNat_le]
  exact Nat.lt_succ_iff

theorem SideMode.index_ofIndex?_iff (byte : UInt8) :
    ((ofIndex? byte).getD Settings.factory.side.mode).index = byte ↔ byte ≤ 3 := by
  rw [ofIndex?, index_lookup_iff (by decide) (by decide), UInt8.le_iff_toNat_le]
  exact Nat.lt_succ_iff

namespace Settings

theorem lowBit_eq_iff (byte : UInt8) : (byte &&& 1 != 0).toUInt8 = byte ↔ byte ≤ 1 := by
  constructor
  · intro same
    rw [← same]
    cases byte &&& 1 != 0 <;> decide
  · intro le
    have bit : byte = 0 ∨ byte = 1 := by
      rw [UInt8.le_iff_toNat_le] at le
      rw [← UInt8.toNat_inj, ← UInt8.toNat_inj]
      exact Nat.le_one_iff_eq_zero_or_eq_one.mp le
    rcases bit with rfl | rfl <;> rfl

theorem clamped_eq_iff (byte limit : UInt8) : min byte limit = byte ↔ byte ≤ limit := by
  rw [Std.min_eq_if]
  split
  case isTrue below => exact iff_of_true rfl below
  case isFalse above => exact iff_of_false (fun same => above (same ▸ UInt8.le_refl limit)) above

-- ---------------------------------------------------------------------------
-- Payloads
-- ---------------------------------------------------------------------------

/-- The largest value that each byte of an encoding can have. -/
def ceilings : Payload := #v[255, 1, 6, 14, 50, 255, 255, 255, 50, 6, 3, 127, 10, 6, 3]

def Canonical (bytes : Payload) : Prop := ∀ i, (hi : i < 15) → bytes[i] ≤ ceilings[i]

instance : DecidablePred Canonical := fun _ => inferInstanceAs (Decidable (∀ _, _))

theorem getElem_encode_decode_iff (bytes : Payload) {i : Nat} (hi : i < 15) :
    (decode bytes).encode[i] = bytes[i] ↔ bytes[i] ≤ ceilings[i] := by
  match i with
  | 0 | 5 | 6 | 7 => exact iff_of_true rfl (byte_le _)
  | 1 => exact lowBit_eq_iff _
  | 2 | 9 | 13 => exact AutoOffTier.index_ofIndex_iff _
  | 3 => exact RgbMode.index_ofIndex?_iff _
  | 4 | 8 | 11 | 12 => exact clamped_eq_iff _ _
  | 10 => exact SideMode.index_ofIndex?_iff _
  | 14 => exact HomeArt.index_ofIndex_iff _

theorem encode_decode_iff (bytes : Payload) :
    (decode bytes).encode = bytes ↔ Canonical bytes := by
  rw [Vector.ext_iff]
  exact forall₂_congr fun i hi => getElem_encode_decode_iff bytes hi

example : Canonical factory.encode := by decide

theorem canonical_encode {settings : Settings} (inRange : settings.InRange) :
    Canonical settings.encode := by
  rw [← encode_decode_iff, decode_encode inRange]

/-- Decoding gives settings in range, and the same ones again from their stored form. Settings
come back exactly if they are in range, payloads exactly if they are canonical, and the two
belong to each other one to one. -/
theorem stored_forms :
    (∀ bytes, (decode bytes).InRange ∧ decode (decode bytes).encode = decode bytes) ∧
      (∀ settings : Settings, decode settings.encode = settings ↔ settings.InRange) ∧
      (∀ bytes, (decode bytes).encode = bytes ↔ Canonical bytes) ∧
      Set.BijOn encode {settings | settings.InRange} {bytes | Canonical bytes} := by
  refine ⟨fun bytes => ?_, fun settings => ?_, encode_decode_iff, ?_, ?_, ?_⟩
  · exact ⟨decode_inRange bytes, decode_encode (decode_inRange bytes)⟩
  · exact ⟨fun same => same ▸ decode_inRange _, decode_encode⟩
  · exact fun settings inRange => canonical_encode inRange
  · exact fun settings inRange other inRange' same => (encode_inj inRange inRange').mp same
  · exact fun bytes canonical =>
      ⟨decode bytes, decode_inRange bytes, (encode_decode_iff bytes).mpr canonical⟩

end Settings

end KnobPanel
