import KnobPanel.Proofs.CheckedMenus
import KnobPanel.Proofs.PanelPixels

/-!
# Proportional bars

A bar is one line of characters: full cells, at most one that is partly filled, and the
grid. It ends on the page where it starts, and the columns that it fills grow with the
value.
-/

namespace KnobPanel

-- ---------------------------------------------------------------------------
-- Characters side by side
-- ---------------------------------------------------------------------------

namespace Panel

structure Lined (codes : List UInt8) (before after : Panel) : Prop where
  x : after.x = before.x + cellWidth * codes.length
  page : after.page = before.page
  lit (x y : Int) : after.frame.lit x y =
    if Area.Has ⟨before.x, before.top, cellWidth * codes.length, pageHeight⟩ x y then
      before.graphics.ink (codes.getD ((x - before.x).toNat / cellWidth) CellGrid.blank)
        ((x - before.x).toNat % cellWidth) (y - before.top).toNat
    else before.frame.lit x y

theorem has_line_succ_iff {left top count : Nat} {x y : Int} :
    Area.Has ⟨left, top, cellWidth * (count + 1), pageHeight⟩ x y ↔
      Area.Has ⟨left, top, cellWidth, pageHeight⟩ x y ∨
        Area.Has ⟨(left + cellWidth : Nat), top, cellWidth * count, pageHeight⟩ x y := by
  simp only [Area.Has, cellWidth]
  omega

theorem Lined.cons {code : UInt8} {codes : List UInt8} {before after : Panel}
    (lawful : before.graphics.Lawful) (room : before.x ≤ screenWidth - cellWidth)
    (lined : Lined codes (before.put code false) after) :
    Lined (code :: codes) before after := by
  have fits := wrapped_of_le room
  have start : (before.put code false).x = before.x + cellWidth := by rw [x_put, fits]
  have page : (before.put code false).page = before.page := by rw [page_put, fits]
  have top : (before.put code false).top = before.top := by rw [Panel.top, page, Panel.top]
  obtain ⟨x, samePage, lit⟩ := lined
  refine ⟨?_, samePage.trans page, fun x y => ?_⟩
  · rw [x, start, List.length_cons, Nat.mul_succ]
    omega
  rw [lit, lit_put lawful, graphics_put, nextCell_eq, fits, start, top, List.length_cons]
  by_cases later : Area.Has
      ⟨(before.x + cellWidth : Nat), before.top, cellWidth * codes.length, pageHeight⟩ x y
  · have column :
        (x - before.x).toNat = (x - (before.x + cellWidth : Nat)).toNat + cellWidth := by
      simp only [Area.Has] at later
      omega
    rw [if_pos later, if_pos (has_line_succ_iff.mpr (.inr later)), column,
      Nat.add_div_right _ (by decide), Nat.add_mod_right, List.getD_cons_succ]
  · rw [if_neg later]
    by_cases first : Area.Has ⟨before.x, before.top, cellWidth, pageHeight⟩ x y
    · have column : (x - before.x).toNat < cellWidth := by
        simp only [Area.Has] at first
        omega
      rw [if_pos first, if_pos (has_line_succ_iff.mpr (.inl first)), Nat.div_eq_of_lt column,
        Nat.mod_eq_of_lt column, List.getD_cons_zero, Area.glyph, Bool.bne_false]
    · rw [if_neg first, if_neg fun has => (has_line_succ_iff.mp has).elim first later]

theorem lined_glyphs {codes : List UInt8} {panel : Panel} (lawful : panel.graphics.Lawful)
    (fits : panel.x + cellWidth * codes.length ≤ screenWidth) :
    Lined codes panel (panel.run (codes.map fun code => .glyph code false)) := by
  induction codes generalizing panel with
  | nil =>
    refine ⟨rfl, rfl, fun x y => ?_⟩
    have outside : ¬Area.Has ⟨panel.x, panel.top, 0, pageHeight⟩ x y := by
      simp only [Area.Has]
      omega
    exact (if_neg outside).symm
  | cons code codes ih =>
    rw [List.length_cons, Nat.mul_succ] at fits
    have room : panel.x ≤ screenWidth - cellWidth := Nat.le_sub_of_add_le (by omega)
    have others : (panel.put code false).x + cellWidth * codes.length ≤ screenWidth := by
      rw [x_put, wrapped_of_le room]
      omega
    have step : panel.run ((code :: codes).map fun code => .glyph code false) =
        (panel.put code false).run (codes.map fun code => .glyph code false) :=
      List.foldl_cons ..
    rw [step]
    exact Lined.cons lawful room (ih (panel.graphics_put code false ▸ lawful) others)

end Panel

-- ---------------------------------------------------------------------------
-- Filled columns
-- ---------------------------------------------------------------------------

namespace Graphics

variable {graphics : Graphics}

/-- The columns of a character that are inked from the second row to the last but one. The
tick of the grid stays below the middle. -/
def filledColumns (code : UInt8) (graphics : Graphics) : Nat :=
  (List.range cellWidth).countP fun col =>
    (List.range' 1 6).all fun row => graphics.ink code col row

theorem filledColumns_bar {n : Nat} (le : n ≤ 5) :
    graphics.filledColumns (Font.bar + .ofNat n) = n := by
  obtain rfl | rfl | rfl | rfl | rfl | rfl :
    n = 0 ∨ n = 1 ∨ n = 2 ∨ n = 3 ∨ n = 4 ∨ n = 5 := by omega
  all_goals rfl

theorem Lawful.filledColumns_blank (lawful : graphics.Lawful) :
    graphics.filledColumns CellGrid.blank = 0 := by
  refine List.countP_eq_zero.mpr fun col _ => ?_
  have bare : graphics.ink CellGrid.blank col 1 = false := lawful.ink_blank col 1
  simp [List.range', bare]

end Graphics

def DrawOp.filledColumns (graphics : Graphics) : DrawOp → Nat
  | glyph code _ => graphics.filledColumns code
  | _ => 0

namespace Bar

section
variable {graphics : Graphics}

def columns (graphics : Graphics) (ops : List DrawOp) : Nat :=
  (ops.map (DrawOp.filledColumns graphics)).sum

theorem filledColumns_blankCell (lawful : graphics.Lawful) (cell : Nat) :
    (blankCell cell).filledColumns graphics = 0 := by
  unfold blankCell
  split
  · exact Graphics.filledColumns_bar (Nat.zero_le 5)
  · exact lawful.filledColumns_blank

theorem columns_blankCells (lawful : graphics.Lawful) (cells : List Nat) :
    columns graphics (cells.map blankCell) = 0 := by
  rw [columns, List.map_map, List.sum_eq_zero_iff_forall_eq_nat]
  intro column found
  obtain ⟨cell, -, rfl⟩ := List.mem_map.mp found
  exact filledColumns_blankCell lawful cell

theorem columns_fullCells (n : Nat) : columns graphics (.replicate n fullCell) = 5 * n := by
  have full : fullCell.filledColumns graphics = 5 :=
    Graphics.filledColumns_bar (Nat.le_refl 5)
  rw [columns, List.map_replicate, full, List.sum_replicate_nat, Nat.mul_comm]

theorem columns_partCell (filled : Nat) :
    columns graphics (partCell filled) =
      if 0 < filled % cellWidth ∧ filled / cellWidth < cells then filled % cellWidth else 0 := by
  have below : filled % cellWidth < cellWidth := Nat.mod_lt _ (by decide)
  unfold partCell
  split
  · exact Graphics.filledColumns_bar (Nat.le_of_lt_succ below)
  · rfl

theorem columns_row (lawful : graphics.Lawful) (filled : Nat) :
    columns graphics (row filled) = 5 * min cells (filled / cellWidth) +
      if 0 < filled % cellWidth ∧ filled / cellWidth < cells then filled % cellWidth else 0 := by
  have append (first second : List DrawOp) :
      columns graphics (first ++ second) = columns graphics first + columns graphics second := by
    rw [columns, List.map_append, List.sum_append]
    rfl
  rw [row, append, append, columns_fullCells, columns_partCell, columns_blankCells lawful,
    Nat.add_zero]

theorem columns_row_le (lawful : graphics.Lawful) {filled more : Nat} (le : filled ≤ more) :
    columns graphics (row filled) ≤ columns graphics (row more) := by
  rw [columns_row lawful, columns_row lawful]
  split <;> split <;> simp only [cellWidth, cells] at * <;> omega

theorem length_row (filled : Nat) : (row filled).length = cells := by
  have used : min cells (filled / cellWidth) + (partCell filled).length ≤ cells := by
    unfold partCell
    split
    case isTrue part =>
      rw [List.length_singleton]
      omega
    case isFalse => exact Nat.min_le_left ..
  rw [row, List.length_append, List.length_append, List.length_replicate, List.length_map,
    List.length_range', Nat.add_sub_cancel' used]

-- ---------------------------------------------------------------------------
-- Values
-- ---------------------------------------------------------------------------

theorem draw_eq_row (value limit : Nat) : draw value limit = row (pixels value limit) :=
  (row_eq (pixels_le value limit)).symm

theorem pixels_le_pixels {value more : Nat} (le : value ≤ more) (limit : Nat) :
    pixels value limit ≤ pixels more limit :=
  Nat.div_le_div_right (Nat.mul_le_mul_left _ (by omega))

theorem pixels_of_le {value limit : Nat} (pos : 1 ≤ limit) (reached : limit ≤ value) :
    pixels value limit = screenWidth := by
  rw [pixels, Nat.max_eq_left pos, Nat.min_eq_right reached, Nat.mul_div_cancel _ pos]

theorem row_screenWidth : row screenWidth = .replicate cells fullCell := rfl

/-- What the bar of so many filled pixels draws. -/
structure Drawn (graphics : Graphics) (filled : Nat) (ops : List DrawOp) : Prop where
  row_eq : ops = row filled
  length_eq : ops.length = cells
  characters : ∀ op ∈ ops, ∃ code, op = .glyph code false
  columns_eq : columns graphics ops = 5 * min cells (filled / cellWidth) +
    if 0 < filled % cellWidth ∧ filled / cellWidth < cells then filled % cellWidth else 0
  /-- From the start of a page no character goes to the next one. -/
  lined (panel : Panel) : panel.graphics = graphics → panel.x = 0 →
    Panel.Lined ((List.range cells).map (code filled)) panel (panel.run ops)

theorem drawn (lawful : graphics.Lawful) (value limit : Nat) :
    Drawn graphics (pixels value limit) (draw value limit) where
  row_eq := draw_eq_row value limit
  length_eq := by rw [draw_eq_row, length_row]
  characters op found := by
    obtain ⟨cell, -, rfl⟩ := List.mem_map.mp found
    exact ⟨_, rfl⟩
  columns_eq := by rw [draw_eq_row, columns_row lawful]
  lined panel library start := by
    have line : draw value limit =
        ((List.range cells).map (code (pixels value limit))).map fun code => .glyph code false := by
      rw [List.map_map]
      rfl
    rw [line]
    refine Panel.lined_glyphs (library ▸ lawful) ?_
    rw [start, List.length_map, List.length_range]
    decide

/-- Every bar is a line of 21 characters in proportion to its value; at the limit all of
its cells are full. -/
theorem draw_proportional (lawful : graphics.Lawful) (value limit : UInt16) :
    draw? value.toNat limit.toNat = some (draw value.toNat limit.toNat) ∧
      Drawn graphics (pixels value.toNat limit.toNat) (draw value.toNat limit.toNat) ∧
      (∀ more : UInt16, value ≤ more →
        columns graphics (draw value.toNat limit.toNat) ≤
          columns graphics (draw more.toNat limit.toNat)) ∧
      (1 ≤ limit → limit ≤ value →
        draw value.toNat limit.toNat = .replicate cells fullCell) := by
  refine ⟨draw?_eq limit.toNat_lt, drawn lawful .., fun more le => ?_, fun pos reached => ?_⟩
  · have le : value.toNat ≤ more.toNat := le
    rw [draw_eq_row, draw_eq_row]
    exact columns_row_le lawful (pixels_le_pixels le _)
  · have pos : 1 ≤ limit.toNat := pos
    have reached : limit.toNat ≤ value.toNat := reached
    rw [draw_eq_row, pixels_of_le pos reached, row_screenWidth]

/-- One pixel is left over and has no cell; above the limit nothing more is drawn. -/
theorem draw_proportional_leftOver :
    Graphics.standard.Lawful ∧ pixels 254 255 = 127 ∧ Drawn .standard 127 (draw 254 255) ∧
      columns .standard (draw 254 255) ≤ columns .standard (draw 300 255) ∧
      draw 300 255 = .replicate cells fullCell := by
  have lawful := Graphics.lawful_standard
  obtain ⟨-, below, grows, -⟩ := draw_proportional lawful 254 255
  obtain ⟨-, -, -, full⟩ := draw_proportional lawful 300 255
  exact ⟨lawful, by decide, below, grows 300 (by decide), full (by decide) (by decide)⟩

end

end Bar

end KnobPanel
