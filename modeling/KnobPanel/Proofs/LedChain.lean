import KnobPanel.Input.Matrix

/-!
# The chain of key LEDs

The chain has one LED for each key in the columns 0 to 15, and each of its 256 indices
is that of one such key. On odd rows columns past the matrix get an index too, one
that belongs to a key of a later row.
-/

namespace KnobPanel.Key

def chainRow (key : Key) : Nat := if key.col = 0 then key.row.toNat - 1 else key.row.toNat

def chainSlot (key : Key) : Nat :=
  if key.chainRow % 2 = 0 then 15 - key.col.toNat else key.col.toNat

theorem led?_eq_some_iff {key : Key} {index : UInt8} :
    key.led? = some index ↔
      key ≠ activate ∧ ¬(key.chainRow % 2 = 0 ∧ 15 < key.col.toNat) ∧
        16 * key.chainRow + key.chainSlot = index.toNat := by
  have opened : key.led? =
      if key = activate then none
      else if key.chainRow % 2 = 0 ∧ 15 < key.col.toNat then none
      else if 16 * key.chainRow + key.chainSlot < 256 then
        some (.ofNat (16 * key.chainRow + key.chainSlot))
      else none := rfl
  have byte := index.toNat_lt
  rw [opened]
  split
  case isTrue encoder => simp [encoder]
  case isFalse other =>
    split
    case isTrue outside => simp [outside]
    case isFalse inside =>
      simp only [Option.ite_none_right_eq_some, Option.some.injEq, other, inside, ne_eq,
        not_false_eq_true, true_and, ← UInt8.toNat_inj, UInt8.toNat_ofNat']
      omega

def ofLed (index : UInt8) : Key :=
  let row := index.toNat / 16
  let col := if row % 2 = 0 then 15 - index.toNat % 16 else index.toNat % 16
  ⟨.ofNat (if col = 0 then row + 1 else row), .ofNat col⟩

theorem chainRow_ofLed (index : UInt8) : (ofLed index).chainRow = index.toNat / 16 := by
  have := index.toNat_lt
  simp only [ofLed, chainRow, ← UInt8.toNat_inj, UInt8.toNat_ofNat', UInt8.reduceToNat]
  grind

theorem chainSlot_ofLed (index : UInt8) : (ofLed index).chainSlot = index.toNat % 16 := by
  have := index.toNat_lt
  rw [chainSlot, chainRow_ofLed]
  simp only [ofLed, UInt8.toNat_ofNat']
  grind

theorem col_ofLed_le (index : UInt8) : (ofLed index).col.toNat ≤ 15 := by
  simp only [ofLed, UInt8.toNat_ofNat']
  grind

theorem ofLed_ne_activate (index : UInt8) : ofLed index ≠ activate := by
  have := index.toNat_lt
  simp only [ofLed, activate, ne_eq, mk.injEq, ← UInt8.toNat_inj, UInt8.toNat_ofNat',
    UInt8.reduceToNat]
  grind

theorem led?_ofLed (index : UInt8) : (ofLed index).led? = some index := by
  refine led?_eq_some_iff.mpr ⟨ofLed_ne_activate index, fun outside => ?_, ?_⟩
  · exact Nat.not_lt.mpr (col_ofLed_le index) outside.2
  · rw [chainRow_ofLed, chainSlot_ofLed]
    exact Nat.div_add_mod index.toNat 16

theorem eq_of_chain {a b : Key} (inMatrix : a.col.toNat ≤ 15 ∧ b.col.toNat ≤ 15)
    (keys : a ≠ activate ∧ b ≠ activate) (row : a.chainRow = b.chainRow)
    (slot : a.chainSlot = b.chainSlot) : a = b := by
  obtain ⟨ra, ca⟩ := a
  obtain ⟨rb, cb⟩ := b
  simp only [chainSlot, row] at slot
  have col : ca = cb := by
    rw [← UInt8.toNat_inj]
    grind
  subst col
  simp only [chainRow, activate, ne_eq, mk.injEq, ← UInt8.toNat_inj, UInt8.reduceToNat] at *
  grind

theorem eq_ofLed_of_led? {key : Key} {index : UInt8} (inMatrix : key.col.toNat ≤ 15)
    (lit : key.led? = some index) : key = ofLed index := by
  obtain ⟨other, -, found⟩ := led?_eq_some_iff.mp lit
  have slot : key.chainSlot < 16 := by
    rw [chainSlot]
    grind
  refine eq_of_chain ⟨inMatrix, col_ofLed_le index⟩ ⟨other, ofLed_ne_activate index⟩ ?_ ?_
  · rw [chainRow_ofLed]
    omega
  · rw [chainSlot_ofLed]
    omega

theorem led?_beyond_iff {key : Key} {index : UInt8} (beyond : 15 < key.col.toNat) :
    key.led? = some index ↔
      key.row.toNat % 2 = 1 ∧ 16 * key.row.toNat + key.col.toNat = index.toNat := by
  have turned : key.col ≠ 0 := by
    rintro first
    simp [first] at beyond
  have row : key.chainRow = key.row.toNat := if_neg turned
  have other : key ≠ activate := by
    rintro rfl
    exact turned rfl
  rw [led?_eq_some_iff, chainSlot, row]
  grind

/-- An LED that the chain gives to one key alone, and to a key of the matrix. -/
structure Owned (index : UInt8) : Prop where
  inMatrix : ∀ key : Key, key.led? = some index → key.col.toNat ≤ 15
  alone : ∀ a b : Key, a.led? = some index → b.led? = some index → a = b

theorem owned_of_lt {index : UInt8} (low : index.toNat < 32) : Owned index := by
  -- the first row that lets a column past the matrix in is row 1
  have inMatrix : ∀ key : Key, key.led? = some index → key.col.toNat ≤ 15 := fun key lit => by
    refine Nat.le_of_not_lt fun beyond => ?_
    obtain ⟨odd, sum⟩ := (led?_beyond_iff beyond).mp lit
    omega
  refine ⟨inMatrix, fun a b first second => ?_⟩
  rw [eq_ofLed_of_led? (inMatrix a first) first, eq_ofLed_of_led? (inMatrix b second) second]

theorem not_owned_of_le {index : UInt8} (high : 32 ≤ index.toNat) : ¬Owned index := by
  intro owned
  have byte := index.toNat_lt
  let past : Key := ⟨1, .ofNat (index.toNat - 16)⟩
  have col : past.col.toNat = index.toNat - 16 := by
    simp only [past, UInt8.toNat_ofNat']
    omega
  have beyond : 15 < past.col.toNat := by omega
  have sum : 16 * past.row.toNat + past.col.toNat = index.toNat := by
    rw [show past.row.toNat = 1 from rfl]
    omega
  have lit : past.led? = some index := (led?_beyond_iff beyond).mpr ⟨rfl, sum⟩
  exact Nat.not_lt.mpr (owned.inMatrix past lit) beyond

/-- In the matrix every index is that of one key. Past the matrix the keys of odd rows have
indices as well, so that an LED has one key alone exactly on the first two rows. -/
theorem owned_iff (index : UInt8) :
    (∀ key : Key, key.col.toNat ≤ 15 → (key.led? = some index ↔ key = ofLed index)) ∧
      (∀ key : Key, 15 < key.col.toNat →
        (key.led? = some index ↔
          key.row.toNat % 2 = 1 ∧ 16 * key.row.toNat + key.col.toNat = index.toNat)) ∧
      (Owned index ↔ index.toNat < 32) := by
  refine ⟨fun key inMatrix => ⟨eq_ofLed_of_led? inMatrix, ?_⟩,
    fun key => led?_beyond_iff, fun owned => ?_, owned_of_lt⟩
  · rintro rfl
    exact led?_ofLed index
  · exact Nat.lt_of_not_le fun high => not_owned_of_le high owned

theorem not_owned_pastRow :
    (⟨1, 16⟩ : Key).led? = some 32 ∧ (⟨2, 15⟩ : Key).led? = some 32 ∧ ¬Owned 32 := by
  have past : (⟨1, 16⟩ : Key).led? = some 32 := by decide
  exact ⟨past, by decide, fun owned => absurd (owned.inMatrix _ past) (by decide)⟩

end KnobPanel.Key
