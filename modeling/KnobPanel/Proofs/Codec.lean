import KnobPanel.Settings.Codec

/-!
# Laws of the stored form

Settings in range survive their stored form. Every field has a byte of its
own, so a payload put together from two others decodes field by field.
-/

namespace KnobPanel

theorem byte_le (byte : UInt8) : byte ≤ 255 :=
  UInt8.le_iff_toNat_le.mpr (Nat.le_of_lt_succ byte.toNat_lt)

namespace Settings

theorem decode_encode {settings : Settings} (h : settings.InRange) :
    decode settings.encode = settings := by
  obtain ⟨oled, rgb, side, homeArt⟩ := settings
  obtain ⟨rgbBrightness, rgbSpeed, sideBrightness, sideSpeed⟩ := h
  simp only at rgbBrightness rgbSpeed sideBrightness sideSpeed
  have inverted : (oled.inverted.toUInt8 &&& 1 != 0) = oled.inverted := by
    cases oled.inverted <;> rfl
  simp only [decode, encode, Vector.getElem_mk, List.getElem_toArray, List.getElem_cons_zero,
    List.getElem_cons_succ, AutoOffTier.ofIndex_index, RgbMode.ofIndex?_index,
    SideMode.ofIndex?_index, HomeArt.ofIndex_index, Option.getD_some, inverted,
    Std.min_eq_if, rgbBrightness, rgbSpeed, sideBrightness, sideSpeed, ↓reduceIte]

theorem encode_inj {a b : Settings} (ha : a.InRange) (hb : b.InRange) :
    a.encode = b.encode ↔ a = b := by
  constructor
  · intro h
    rw [← decode_encode ha, h, decode_encode hb]
  · rintro rfl
    rfl

theorem getElem_encode_decode {a b : Payload} (i : Nat) (hi : i < 15) (h : a[i] = b[i]) :
    (decode a).encode[i] = (decode b).encode[i] := by
  match i with
  | 0 | 1 | 2 | 3 | 4 | 5 | 6 | 7 | 8 | 9 | 10 | 11 | 12 | 13 | 14 => simp [decode, encode, h]

end Settings

end KnobPanel
