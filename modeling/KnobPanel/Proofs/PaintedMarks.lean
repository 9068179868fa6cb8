import KnobPanel.Display.Frame
import KnobPanel.Proofs.Shapes

/-!
# Painted marks

What the marks of a drawing library make of single pixels: a painted list of pixels
decides those that it names, a filled rectangle covers its area, and the strokes of a
character ink its cell.
-/

namespace KnobPanel

-- ---------------------------------------------------------------------------
-- Painted lists
-- ---------------------------------------------------------------------------

namespace Frame

variable {pixels : List (Int × Int × Bool)} {x y : Int}

theorem lit_of_not_inside (outside : ¬Inside x y) (frame : Frame) : frame.lit x y = false :=
  dif_neg outside

theorem lit_paint_of_notMem (untouched : ∀ value, (x, y, value) ∉ pixels) (frame : Frame) :
    (frame.paint pixels).lit x y = frame.lit x y := by
  induction pixels generalizing frame with
  | nil => rfl
  | cons pixel pixels ih =>
    obtain ⟨px, py, value⟩ := pixel
    have others : ∀ value, (x, y, value) ∉ pixels := fun value found =>
      untouched value (List.mem_cons_of_mem _ found)
    refine (ih others (frame.put px py value)).trans ?_
    rw [lit_put, if_neg]
    rintro ⟨-, rfl, rfl⟩
    exact untouched value List.mem_cons_self

/-- A pixel that is painted in one colour only has it afterwards. -/
theorem lit_paint_of_mem {value : Bool} (inside : Inside x y) (painted : (x, y, value) ∈ pixels)
    (once : ∀ other, (x, y, other) ∈ pixels → other = value) (frame : Frame) :
    (frame.paint pixels).lit x y = value := by
  induction pixels generalizing frame with
  | nil => cases painted
  | cons pixel pixels ih =>
    obtain ⟨px, py, first⟩ := pixel
    have rest : ∀ other, (x, y, other) ∈ pixels → other = value := fun other found =>
      once other (List.mem_cons_of_mem _ found)
    by_cases again : (x, y, value) ∈ pixels
    · exact ih again rest _
    · have untouched : ∀ other, (x, y, other) ∉ pixels := fun other found =>
        again (rest other found ▸ found)
      rcases List.mem_cons.mp painted with same | found
      · cases same
        refine (lit_paint_of_notMem untouched (frame.put x y value)).trans ?_
        rw [lit_put, if_pos ⟨inside, rfl, rfl⟩]
      · exact absurd found again

theorem lit_paint_of_iff {has : Int → Int → Prop} [∀ x y, Decidable (has x y)]
    {colour : Int → Int → Bool}
    (painted : ∀ x y value, (x, y, value) ∈ pixels ↔ has x y ∧ value = colour x y)
    (frame : Frame) :
    (frame.paint pixels).lit x y =
      if Inside x y ∧ has x y then colour x y else frame.lit x y := by
  by_cases inside : Inside x y
  · by_cases here : has x y
    · rw [if_pos ⟨inside, here⟩]
      exact lit_paint_of_mem inside ((painted ..).mpr ⟨here, rfl⟩)
        (fun other found => ((painted ..).mp found).2) frame
    · rw [if_neg fun both => here both.2]
      exact lit_paint_of_notMem (fun value found => here ((painted ..).mp found).1) frame
  · rw [if_neg fun both => inside both.1, lit_of_not_inside inside, lit_of_not_inside inside]

theorem paint_append (first second : List (Int × Int × Bool)) (frame : Frame) :
    frame.paint (first ++ second) = (frame.paint first).paint second :=
  List.foldl_append

end Frame

-- ---------------------------------------------------------------------------
-- Marks
-- ---------------------------------------------------------------------------

namespace Mark

def box : Mark → Area
  | shape dx dy figure _ => figure.box.shift dx dy
  | text dx dy codes _ => ⟨dx, dy, fontWidth * codes.length, pageHeight⟩

def Readable : Mark → Prop
  | shape .. => True
  | text _ _ codes _ => ∀ code ∈ codes, Font.isPrintable code

instance (mark : Mark) : Decidable mark.Readable :=
  match mark with
  | .shape .. => isTrue trivial
  | .text _ _ codes _ => inferInstanceAs (Decidable (∀ code ∈ codes, _))

end Mark

namespace Graphics

variable {graphics : Graphics} {x y px py : Int}

theorem mem_pixels_shape_iff {dx dy : Int} {shape : Shape} {value ink : Bool} :
    (px, py, ink) ∈ graphics.pixels x y (.shape dx dy shape value) ↔
      (px - x - dx, py - y - dy) ∈ graphics.points shape ∧ ink = value := by
  simp only [pixels, List.mem_map, Prod.mk.injEq, Prod.exists]
  constructor
  · rintro ⟨a, b, among, rfl, rfl, rfl⟩
    have across : x + dx + a - x - dx = a := by omega
    have down : y + dy + b - y - dy = b := by omega
    rw [across, down]
    exact ⟨among, rfl⟩
  · rintro ⟨among, rfl⟩
    exact ⟨_, _, among, by omega, by omega, rfl⟩

theorem mem_pixels_text_iff {dx dy : Int} {codes : List UInt8} {inverted ink : Bool} :
    (px, py, ink) ∈ graphics.pixels x y (.text dx dy codes inverted) ↔
      (px - x - dx, py - y - dy, ink != inverted) ∈ graphics.text codes := by
  simp only [pixels, List.mem_map, Prod.mk.injEq, Prod.exists]
  constructor
  · rintro ⟨a, b, dot, among, rfl, rfl, rfl⟩
    have across : x + dx + a - x - dx = a := by omega
    have down : y + dy + b - y - dy = b := by omega
    have colour : ((dot != inverted) != inverted) = dot := by cases dot <;> cases inverted <;> rfl
    rw [across, down, colour]
    exact among
  · intro among
    have colour : ((ink != inverted) != inverted) = ink := by cases ink <;> cases inverted <;> rfl
    exact ⟨_, _, _, among, by omega, by omega, colour⟩

/-- The inked pixels of a character, by column and row of its cell. -/
def ink (graphics : Graphics) (code : UInt8) (col row : Nat) : Bool :=
  if code = 0 then decide (((col : Int) - 1, (row : Int)) ∈ graphics.points (.ring 4))
  else if code = 128 then decide (col = 0 ∧ 5 ≤ row ∧ row < 8)
  else if 128 < code ∧ code < 134 then
    decide (col < code.toNat - 128 ∧ 1 ≤ row ∧ row < 7)
  else if 32 ≤ code ∧ code < 127 then decide (col < 5 ∧ row < 8) && graphics.font code col row
  else false

section
variable (lawful : graphics.Lawful)
include lawful

theorem Lawful.within_of_mem_pixels {mark : Mark} {ink : Bool} (readable : mark.Readable)
    (found : (px, py, ink) ∈ graphics.pixels x y mark) : (mark.box.shift x y).Has px py := by
  rw [Area.has_shift_iff]
  cases mark with
  | shape dx dy shape value =>
    obtain ⟨among, -⟩ := mem_pixels_shape_iff.mp found
    exact Area.has_shift_iff.mpr (lawful.within among)
  | text dx dy codes inverted =>
    obtain ⟨i, hi, has, -⟩ := (lawful.text readable ..).mp (mem_pixels_text_iff.mp found)
    have last : fontWidth * (i + 1) ≤ fontWidth * codes.length := Nat.mul_le_mul_left _ hi
    rw [Nat.mul_succ] at last
    simp only [Mark.box, Area.Has] at *
    omega

theorem Lawful.ink_blank (col row : Nat) : graphics.ink 32 col row = false := by
  simp [ink, lawful.blank]

theorem Lawful.lit_paint_rectangle (width height : Nat) (value : Bool) (frame : Frame) :
    (frame.paint (graphics.pixels x y (.shape 0 0 (.rectangle width height) value))).lit px py =
      if Frame.Inside px py ∧ Area.Has ⟨x, y, width, height⟩ px py then value
      else frame.lit px py := by
  have painted (px py : Int) (ink : Bool) :
      (px, py, ink) ∈ graphics.pixels x y (.shape 0 0 (.rectangle width height) value) ↔
        Area.Has ⟨x, y, width, height⟩ px py ∧ ink = value := by
    rw [mem_pixels_shape_iff]
    refine and_congr_left fun _ => ⟨fun among => ?_, fun has => lawful.filled ?_⟩
    · have has := lawful.within among
      simp only [Shape.box, Area.Has] at *
      omega
    · simp only [Shape.box, Area.Has] at *
      omega
  exact Frame.lit_paint_of_iff painted frame

end

end Graphics

-- ---------------------------------------------------------------------------
-- Characters
-- ---------------------------------------------------------------------------

namespace Font

theorem isPrintable_iff {code : UInt8} : isPrintable code ↔ 32 ≤ code ∧ code < 127 := by
  simp only [isPrintable, Bool.and_eq_true, Bool.not_eq_true', Bool.or_eq_false_iff,
    decide_eq_true_eq, decide_eq_false_iff_not, UInt8.lt_iff_toNat_lt, UInt8.le_iff_toNat_le,
    ← UInt8.toNat_inj, UInt8.reduceToNat]
  omega

inductive Drawn (inverted : Bool) : UInt8 → List Mark → Prop
  | degree : Drawn inverted 0 [.shape 1 0 (.ring 4) (!inverted)]
  | tick : Drawn inverted 128 [.shape 0 5 (.line 0 2) (!inverted)]
  | bar (code : UInt8) : 128 < code → code < 134 →
      Drawn inverted code [.shape 0 1 (.rectangle (code.toNat - 128) 6) (!inverted)]
  | printable (code : UInt8) : isPrintable code → Drawn inverted code [.text 0 0 [code] inverted]
  | empty (code : UInt8) : code ≠ 0 → code ≠ 128 → ¬(128 < code ∧ code < 134) →
      ¬isPrintable code → Drawn inverted code []

theorem drawn_strokes (code : UInt8) (inverted : Bool) :
    Drawn inverted code (strokes code inverted) := by
  unfold strokes
  split
  case isTrue degree => exact degree ▸ .degree
  case isFalse notDegree =>
  split
  case isTrue tick => exact tick ▸ .tick
  case isFalse notTick =>
  split
  case isTrue partly =>
    have width : (code - bar).toNat = code.toNat - 128 :=
      UInt8.toNat_sub_of_le _ _ (UInt8.le_of_lt partly.1)
    rw [width]
    exact .bar code partly.1 partly.2
  case isFalse notBar =>
  split
  case isTrue printable => exact .printable code printable
  case isFalse unprintable => exact .empty code notDegree notTick notBar unprintable

theorem strokes_within {code : UInt8} {inverted : Bool} {mark : Mark}
    (found : mark ∈ strokes code inverted) :
    mark.Readable ∧ mark.box.Within ⟨0, 0, cellWidth, pageHeight⟩ := by
  have drawn := drawn_strokes code inverted
  generalize strokes code inverted = marks at *
  cases drawn with
  | degree | tick =>
    cases List.mem_singleton.mp found
    exact ⟨trivial, by simp only [Mark.box]; decide⟩
  | bar _ above below =>
    cases List.mem_singleton.mp found
    refine ⟨trivial, ?_⟩
    simp only [UInt8.lt_iff_toNat_lt, UInt8.reduceToNat] at below
    simp only [Mark.box, Shape.box, Area.shift, Area.Within, cellWidth, pageHeight]
    omega
  | printable _ printable =>
    cases List.mem_singleton.mp found
    refine ⟨?_, by simp only [Mark.box, List.length_singleton]; decide⟩
    simpa [Mark.Readable] using printable
  | empty => cases found

end Font

namespace Graphics

variable {graphics : Graphics} {x y px py : Int}

theorem lit_paint_stroke {dx dy : Int} {shape : Shape} {inverted : Bool} {frame : Frame}
    (inside : Frame.Inside px py) (bare : frame.lit px py = inverted) :
    (frame.paint (graphics.pixels x y (.shape dx dy shape (!inverted)))).lit px py =
      (decide ((px - x - dx, py - y - dy) ∈ graphics.points shape) != inverted) := by
  have painted (px py : Int) (ink : Bool) :
      (px, py, ink) ∈ graphics.pixels x y (.shape dx dy shape (!inverted)) ↔
        (px - x - dx, py - y - dy) ∈ graphics.points shape ∧ ink = !inverted :=
    mem_pixels_shape_iff
  rw [Frame.lit_paint_of_iff painted, bare]
  by_cases among : (px - x - dx, py - y - dy) ∈ graphics.points shape
  · simp [inside, among]
  · simp [among]

theorem Lawful.mem_pixels_char_iff (lawful : graphics.Lawful) {code : UInt8}
    (printable : Font.isPrintable code) {inverted value : Bool} :
    (px, py, value) ∈ graphics.pixels x y (.text 0 0 [code] inverted) ↔
      Area.Has ⟨x, y, fontWidth, pageHeight⟩ px py ∧
        value = (graphics.font code (px - x).toNat (py - y).toNat != inverted) := by
  have known : ∀ other ∈ [code], Font.isPrintable other := by simpa using printable
  have undone (first : Bool) : (value != inverted) = first ↔ value = (first != inverted) := by
    cases value <;> cases inverted <;> cases first <;> decide
  rw [mem_pixels_text_iff, lawful.text known]
  simp only [Int.sub_zero]
  constructor
  · rintro ⟨i, hi, has, same⟩
    obtain rfl : i = 0 := Nat.lt_one_iff.mp hi
    refine ⟨?_, (undone _).mp (same.trans ?_)⟩
    · simp only [Area.Has, fontWidth] at *
      omega
    · simp
  · rintro ⟨has, same⟩
    refine ⟨0, Nat.one_pos, ?_, ((undone _).mpr same).trans (by simp)⟩
    simp only [Area.Has, fontWidth] at *
    omega

theorem Lawful.lit_paint_char (lawful : graphics.Lawful) {code : UInt8}
    (printable : Font.isPrintable code) {inverted : Bool} {frame : Frame} {col row : Nat}
    (inside : Frame.Inside (x + col) (y + row))
    (bare : frame.lit (x + col) (y + row) = inverted) :
    (frame.paint (graphics.pixels x y (.text 0 0 [code] inverted))).lit (x + col) (y + row) =
      ((decide (col < fontWidth ∧ row < pageHeight) && graphics.font code col row) !=
        inverted) := by
  have painted (px py : Int) (ink : Bool) :
      (px, py, ink) ∈ graphics.pixels x y (.text 0 0 [code] inverted) ↔
        Area.Has ⟨x, y, fontWidth, pageHeight⟩ px py ∧
          ink = (graphics.font code (px - x).toNat (py - y).toNat != inverted) :=
    lawful.mem_pixels_char_iff printable
  have across : x + col - x = (col : Int) := by omega
  have down : y + row - y = (row : Int) := by omega
  have here : Area.Has ⟨x, y, fontWidth, pageHeight⟩ (x + col) (y + row) ↔
      col < fontWidth ∧ row < pageHeight := by
    simp only [Area.Has]
    omega
  rw [Frame.lit_paint_of_iff painted, across, down, bare]
  by_cases narrow : col < fontWidth ∧ row < pageHeight
  · simp [inside, here, narrow]
  · simp [here, narrow]

theorem Lawful.lit_paint_strokes (lawful : graphics.Lawful) {code : UInt8} {inverted : Bool}
    {frame : Frame} (inside : Frame.Inside px py)
    (has : Area.Has ⟨x, y, cellWidth, pageHeight⟩ px py) (bare : frame.lit px py = inverted) :
    (frame.paint ((Font.strokes code inverted).flatMap fun mark => graphics.pixels x y mark)).lit
        px py =
      (graphics.ink code (px - x).toNat (py - y).toNat != inverted) := by
  simp only [Area.Has, cellWidth, pageHeight] at has
  obtain ⟨col, rfl⟩ : ∃ col : Nat, px = x + col := ⟨(px - x).toNat, by omega⟩
  obtain ⟨row, rfl⟩ : ∃ row : Nat, py = y + row := ⟨(py - y).toNat, by omega⟩
  have across : x + col - x = (col : Int) := by omega
  have down : y + row - y = (row : Int) := by omega
  have drawn := Font.drawn_strokes code inverted
  generalize Font.strokes code inverted = marks at *
  cases drawn with
  | degree =>
    rw [List.flatMap_singleton, lit_paint_stroke inside bare, across, down, Int.sub_zero]
    rfl
  | tick =>
    have line : (((col : Int) - 0, (row : Int) - 5) ∈ graphics.points (.line 0 2)) ↔
        col = 0 ∧ 5 ≤ row ∧ row < 8 := by
      refine ⟨fun among => ?_, fun here => lawful.upright 2 ?_⟩
      · have box := lawful.within among
        simp only [Shape.box, Area.Has] at box
        omega
      · simp only [Shape.box, Area.Has]
        omega
    rw [List.flatMap_singleton, lit_paint_stroke inside bare, across, down]
    simp only [line]
    rfl
  | bar code above below =>
    have filled : (((col : Int) - 0, (row : Int) - 1) ∈
        graphics.points (.rectangle (code.toNat - 128) 6)) ↔
          col < code.toNat - 128 ∧ 1 ≤ row ∧ row < 7 := by
      refine ⟨fun among => ?_, fun here => lawful.filled ?_⟩
      · have box := lawful.within among
        simp only [Shape.box, Area.Has] at box
        omega
      · simp only [Shape.box, Area.Has]
        omega
    have notDegree : code ≠ 0 := by rintro rfl; exact absurd above (by decide)
    have notTick : code ≠ 128 := by rintro rfl; exact absurd above (by decide)
    rw [List.flatMap_singleton, lit_paint_stroke inside bare, across, down]
    simp only [filled, ink, if_neg notDegree, if_neg notTick, if_pos (And.intro above below),
      Int.toNat_natCast]
  | printable code printable =>
    have notDegree : code ≠ 0 := by rintro rfl; exact absurd printable (by decide)
    have notTick : code ≠ 128 := by rintro rfl; exact absurd printable (by decide)
    have known := Font.isPrintable_iff.mp printable
    have notBar : ¬(128 < code ∧ code < 134) := fun both =>
      absurd (UInt8.lt_trans both.1 known.2) (by decide)
    rw [List.flatMap_singleton, lawful.lit_paint_char printable inside bare, across, down]
    simp only [ink, if_neg notDegree, if_neg notTick, if_neg notBar, if_pos known,
      Int.toNat_natCast]
    rfl
  | empty code notDegree notTick notBar unprintable =>
    rw [Font.isPrintable_iff] at unprintable
    simp only [ink, if_neg notDegree, if_neg notTick, if_neg notBar, if_neg unprintable]
    simpa [Frame.paint] using bare

end Graphics

end KnobPanel
