import KnobPanel.Display.Font
import KnobPanel.Display.Raster

/-!
# Shapes in their boxes

What the panel relies on in a drawing library: a shape keeps to its box, a rectangle and
an upright line fill theirs, and a text is a row of characters of the font. The rasters
of the program are such a library.
-/

namespace KnobPanel

structure Area where
  left : Int
  top : Int
  width : Nat
  height : Nat
  deriving DecidableEq

namespace Area

def Has (area : Area) (x y : Int) : Prop :=
  (area.left ≤ x ∧ x < area.left + area.width) ∧ area.top ≤ y ∧ y < area.top + area.height

instance (area : Area) (x y : Int) : Decidable (area.Has x y) :=
  inferInstanceAs (Decidable (_ ∧ _))

def shift (dx dy : Int) (area : Area) : Area :=
  { area with left := dx + area.left, top := dy + area.top }

theorem has_shift_iff {dx dy x y : Int} {area : Area} :
    (area.shift dx dy).Has x y ↔ area.Has (x - dx) (y - dy) := by
  simp only [shift, Has]
  omega

def Within (inner outer : Area) : Prop :=
  outer.left ≤ inner.left ∧ inner.left + inner.width ≤ outer.left + outer.width ∧
    outer.top ≤ inner.top ∧ inner.top + inner.height ≤ outer.top + outer.height

instance (inner outer : Area) : Decidable (inner.Within outer) :=
  inferInstanceAs (Decidable (_ ∧ _))

theorem Within.has {inner outer : Area} (within : inner.Within outer) {x y : Int}
    (has : inner.Has x y) : outer.Has x y := by
  simp only [Within, Has] at *
  omega

end Area

def Shape.box : Shape → Area
  | rectangle width height | roundedFrame width height _ => ⟨0, 0, width, height⟩
  | disc diameter | ring diameter => ⟨0, 0, diameter, diameter⟩
  | line dx dy => ⟨min 0 dx, min 0 dy, dx.natAbs + 1, dy.natAbs + 1⟩
  | triangle dx dy dx' dy' =>
    { left := min 0 (min dx dx')
      top := min 0 (min dy dy')
      width := (max 0 (max dx dx') - min 0 (min dx dx')).toNat + 1
      height := (max 0 (max dy dy') - min 0 (min dy dy')).toNat + 1 }

structure Graphics.Lawful (graphics : Graphics) : Prop where
  within {shape : Shape} {x y : Int} : (x, y) ∈ graphics.points shape → shape.box.Has x y
  filled {width height : Nat} {x y : Int} : (Shape.rectangle width height).box.Has x y →
    (x, y) ∈ graphics.points (.rectangle width height)
  upright (down : Nat) {x y : Int} : (Shape.line 0 down).box.Has x y →
    (x, y) ∈ graphics.points (.line 0 down)
  /-- Printable characters stand side by side, each with its background. -/
  text {codes : List UInt8} (printable : ∀ code ∈ codes, Font.isPrintable code) (x y : Int)
    (ink : Bool) :
    (x, y, ink) ∈ graphics.text codes ↔
      ∃ (i : Nat) (hi : i < codes.length),
        Area.Has ⟨(fontWidth * i : Nat), 0, fontWidth, pageHeight⟩ x y ∧
          ink = graphics.font codes[i] (x - (fontWidth * i : Nat)).toNat y.toNat
  blank (col row : Nat) : graphics.font 32 col row = false

-- ---------------------------------------------------------------------------
-- The rasters of the program
-- ---------------------------------------------------------------------------

namespace Raster

theorem mem_box_iff {width height : Nat} {x y : Int} :
    (x, y) ∈ box width height ↔ Area.Has ⟨0, 0, width, height⟩ x y := by
  simp only [box, List.mem_flatMap, List.mem_map, List.mem_range, Prod.mk.injEq, Area.Has]
  constructor
  · rintro ⟨col, across, row, down, rfl, rfl⟩
    omega
  · intro has
    exact ⟨x.toNat, by omega, y.toNat, by omega, by omega, by omega⟩

theorem nearest_between {k n : Nat} (le : k ≤ n) (d : Int) :
    min 0 d ≤ nearest (d * k) n ∧ nearest (d * k) n ≤ max 0 d := by
  rcases Nat.eq_zero_or_pos n with rfl | pos
  · have zero : nearest (d * k) (0 : Nat) = 0 := by simp [nearest]
    rw [zero]
    omega
  have twice : (0 : Int) < 2 * (n : Int) := by omega
  have below : nearest (d * k) n ≤ max 0 d := by
    refine Int.le_of_lt_add_one (Int.ediv_lt_of_lt_mul twice ?_)
    have share : d * k ≤ max 0 d * n :=
      Int.le_trans (Int.mul_le_mul_of_nonneg_right (Int.le_max_right 0 d) (Int.natCast_nonneg k))
        (Int.mul_le_mul_of_nonneg_left (Int.ofNat_le.mpr le) (Int.le_max_left 0 d))
    have product : (max 0 d + 1) * (2 * (n : Int)) = 2 * (max 0 d * n) + 2 * n := by
      rw [Int.add_mul, Int.one_mul, Int.mul_left_comm]
    omega
  have above : min 0 d ≤ nearest (d * k) n := by
    refine Int.le_ediv_of_mul_le twice ?_
    have share : min 0 d * n ≤ d * k :=
      Int.le_trans (Int.mul_le_mul_of_nonpos_left (Int.min_le_left 0 d) (Int.ofNat_le.mpr le))
        (Int.mul_le_mul_of_nonneg_right (Int.min_le_right 0 d) (Int.natCast_nonneg k))
    have product : min 0 d * (2 * (n : Int)) = 2 * (min 0 d * n) := Int.mul_left_comm ..
    omega
  exact ⟨above, below⟩

theorem nearest_whole {n : Nat} (pos : 0 < n) (k : Nat) :
    nearest (n * k) n = k := by
  have half : (n : Int) / (2 * n) = 0 := Int.ediv_eq_zero_of_lt (by omega) (by omega)
  have split : 2 * ((n : Int) * k) + n = n + 2 * n * k := by
    rw [Int.add_comm, Int.mul_assoc]
  rw [nearest, split, Int.add_mul_ediv_left _ _ (by omega), half, Int.zero_add]

theorem mem_line {dx dy x y : Int} (found : (x, y) ∈ line dx dy) :
    (min 0 dx ≤ x ∧ x ≤ max 0 dx) ∧ min 0 dy ≤ y ∧ y ≤ max 0 dy := by
  obtain ⟨k, among, same⟩ := List.mem_map.mp found
  have le := Nat.le_of_lt_succ (List.mem_range.mp among)
  cases same
  exact ⟨nearest_between le dx, nearest_between le dy⟩

theorem mem_line_upright {down : Nat} {x y : Int} (has : (Shape.line 0 down).box.Has x y) :
    (x, y) ∈ line 0 down := by
  simp only [Shape.box, Area.Has] at has
  have column : x = 0 := by omega
  obtain ⟨k, rfl⟩ := Int.eq_ofNat_of_zero_le (show 0 ≤ y by omega)
  have steps : max (0 : Int).natAbs (down : Int).natAbs = down := by omega
  refine List.mem_map.mpr ⟨k, List.mem_range.mpr (by omega), ?_⟩
  rcases Nat.eq_zero_or_pos down with rfl | pos
  · have start : k = 0 := by omega
    rw [column, start]
    rfl
  · have still : nearest 0 down = 0 := by
      have whole := nearest_whole pos 0
      rwa [Int.ofNat_zero, Int.mul_zero] at whole
    rw [steps, Int.zero_mul, still, nearest_whole pos, column]

theorem points_within {shape : Shape} {x y : Int} (found : (x, y) ∈ points shape) :
    shape.box.Has x y := by
  cases shape with
  | rectangle width height => exact mem_box_iff.mp found
  | disc diameter | ring diameter | roundedFrame width height radius =>
    exact mem_box_iff.mp (List.mem_filter.mp found).1
  | line dx dy =>
    have ends := mem_line found
    simp only [Shape.box, Area.Has]
    omega
  | triangle dx dy dx' dy' =>
    simp only [Shape.box, Area.Has]
    rcases List.mem_append.mp found with found | last
    · rcases List.mem_append.mp found with first | middle
      · have ends := mem_line first
        omega
      · obtain ⟨⟨px, py⟩, along, same⟩ := List.mem_map.mp middle
        have ends := mem_line along
        cases same
        omega
    · have ends := mem_line last
      omega

theorem mem_text_iff (codes : List UInt8) (x y : Int) (ink : Bool) :
    (x, y, ink) ∈ text codes ↔
      ∃ (i : Nat) (hi : i < codes.length),
        Area.Has ⟨(fontWidth * i : Nat), 0, fontWidth, pageHeight⟩ x y ∧
          ink = dot codes[i] (x - (fontWidth * i : Nat)).toNat y.toNat := by
  simp only [text, List.mem_flatMap, List.mem_map, List.mem_range, Prod.mk.injEq, Area.Has,
    fontWidth]
  constructor
  · rintro ⟨⟨code, i⟩, placed, col, across, row, down, rfl, rfl, rfl⟩
    obtain ⟨hi, same⟩ := List.mem_zipIdx' placed
    have column : ((i * 5 + col : Nat) - (5 * i : Nat) : Int).toNat = col := by omega
    exact ⟨i, hi, by omega, by rw [column, Int.toNat_natCast, same]⟩
  · rintro ⟨i, hi, has, rfl⟩
    have column : ((i * 5 + (x - (5 * i : Nat)).toNat : Nat) : Int) = x := by omega
    exact ⟨(codes[i], i), List.mem_zipIdx_iff_getElem?.mpr (List.getElem?_eq_getElem hi),
      (x - (5 * i : Nat)).toNat, by omega, y.toNat, by omega, column, by omega, rfl⟩

end Raster

theorem Graphics.lawful_standard : Graphics.standard.Lawful where
  within := Raster.points_within
  filled := Raster.mem_box_iff.mpr
  upright _ := Raster.mem_line_upright
  text _ := Raster.mem_text_iff _
  blank _ _ := Nat.zero_testBit _

end KnobPanel
