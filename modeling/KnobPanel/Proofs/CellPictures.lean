import KnobPanel.Proofs.PanelPixels
import KnobPanel.Proofs.TypedRows

/-!
# Pictures of the cells

The panel and the cell display carry out the same drawing. As long as it keeps to the
columns of the cells and starts no character beyond the last full one, the frame of the
panel is the picture of the cells, and the cursors agree.
-/

namespace KnobPanel

-- ---------------------------------------------------------------------------
-- The picture of a grid
-- ---------------------------------------------------------------------------

namespace CellGrid

variable {graphics : Graphics}

def ink (graphics : Graphics) (grid : CellGrid) (x y : Nat) : Bool :=
  let page : Page := ⟨y / pageHeight % 8, Nat.mod_lt _ (by decide)⟩
  graphics.ink ((grid.get page).toList.getD (x / cellWidth) blank) (x % cellWidth)
    (y % pageHeight)

/-- The last column is cut at the edge of the frame. -/
def picture (graphics : Graphics) (grid : CellGrid) : Frame :=
  ⟨.ofFn fun i => grid.ink graphics (i.val % screenWidth) (i.val / screenWidth)⟩

def Shows (graphics : Graphics) (grid : CellGrid) (frame : Frame) : Prop :=
  ∀ (p : Page) (c : Nat) (hc : c < 22) (col row : Nat), col < cellWidth → row < pageHeight →
    c * cellWidth + col < screenWidth →
      frame.lit (c * cellWidth + col : Nat) (p.val * pageHeight + row : Nat) =
        graphics.ink ((grid.get p)[c]) col row

theorem lit_picture {x y : Nat} (hx : x < screenWidth) (hy : y < screenHeight) (grid : CellGrid) :
    (grid.picture graphics).lit x y = grid.ink graphics x y := by
  simp only [screenWidth, screenHeight] at hx hy
  have inside : Frame.Inside x y := ⟨by omega, by omega, by omega, by omega⟩
  have across : (x + 128 * y) % 128 = x := by omega
  have down : (x + 128 * y) / 128 = y := by omega
  simp only [Frame.lit, inside, ↓reduceDIte, picture, Int.toNat_natCast, Vector.getElem_ofFn,
    screenWidth, across, down]

theorem ink_cell {p : Page} {c : Nat} (hc : c < 22) {col row : Nat} (hcol : col < cellWidth)
    (hrow : row < pageHeight) (grid : CellGrid) :
    grid.ink graphics (c * cellWidth + col) (p.val * pageHeight + row) =
      graphics.ink ((grid.get p)[c]) col row := by
  simp only [cellWidth, pageHeight] at hcol hrow
  have page : (p.val * 8 + row) / 8 = p.val := by omega
  have column : (c * 6 + col) / 6 = c := by omega
  have across : (c * 6 + col) % 6 = col := by omega
  have down : (p.val * 8 + row) % 8 = row := by omega
  have code : (grid.get p).toList.getD c blank = (grid.get p)[c] := by
    simp [List.getD_eq_getElem?_getD, hc]
  have number : p.val % 8 = p.val := Nat.mod_eq_of_lt p.isLt
  simp only [ink, cellWidth, pageHeight, page, column, across, down, number, Fin.eta, code]

theorem exists_cell {x y : Nat} (hx : x < screenWidth) (hy : y < screenHeight) :
    ∃ (p : Page) (c col row : Nat), c < 22 ∧ col < cellWidth ∧ row < pageHeight ∧
      x = c * cellWidth + col ∧ y = p.val * pageHeight + row := by
  simp only [screenWidth, screenHeight] at hx hy
  simp only [cellWidth, pageHeight]
  exact ⟨⟨y / 8, by omega⟩, x / 6, x % 6, y % 8, by omega, by omega, by omega, by omega,
    by simp only; omega⟩

theorem shows_iff {grid : CellGrid} {frame : Frame} :
    grid.Shows graphics frame ↔ frame = grid.picture graphics := by
  constructor
  · intro shows
    refine Frame.ext fun x y inside => ?_
    obtain ⟨left, right, top, bottom⟩ := inside
    obtain ⟨x, rfl⟩ := Int.eq_ofNat_of_zero_le left
    obtain ⟨y, rfl⟩ := Int.eq_ofNat_of_zero_le top
    have hx : x < screenWidth := Int.ofNat_lt.mp right
    have hy : y < screenHeight := Int.ofNat_lt.mp bottom
    rw [lit_picture hx hy]
    obtain ⟨p, c, col, row, hc, hcol, hrow, rfl, rfl⟩ := exists_cell hx hy
    rw [shows p c hc col row hcol hrow hx, ink_cell hc hcol hrow]
  · rintro rfl p c hc col row hcol hrow fits
    have page := p.isLt
    have hy : p.val * pageHeight + row < screenHeight := by
      simp only [pageHeight, screenHeight] at *
      omega
    rw [lit_picture fits hy, ink_cell hc hcol hrow]

theorem shows_empty (lawful : graphics.Lawful) : empty.Shows graphics .dark := by
  intro p c hc col row _ _ _
  rw [get_empty, getElem_lineOf, List.getD_nil, Frame.lit_dark]
  exact (lawful.ink_blank col row).symm

end CellGrid

theorem has_cell_iff {p q : Page} {c k col row : Nat} (hcol : col < cellWidth)
    (hrow : row < pageHeight) :
    Area.Has ⟨(k * cellWidth : Nat), (q.val * pageHeight : Nat), cellWidth, pageHeight⟩
        (c * cellWidth + col : Nat) (p.val * pageHeight + row : Nat) ↔
      p = q ∧ c = k := by
  rw [Fin.ext_iff]
  simp only [Area.Has, cellWidth, pageHeight] at *
  omega

theorem glyph_cell (graphics : Graphics) (page : Page) (k : Nat) (code : UInt8)
    (col row : Nat) :
    Area.glyph graphics
        ⟨(k * cellWidth : Nat), (page.val * pageHeight : Nat), cellWidth, pageHeight⟩ code false
        (k * cellWidth + col : Nat) (page.val * pageHeight + row : Nat) =
      graphics.ink code col row := by
  have across : ((k * cellWidth + col : Nat) - (k * cellWidth : Nat) : Int).toNat = col := by omega
  have down : ((page.val * pageHeight + row : Nat) - (page.val * pageHeight : Nat) : Int).toNat =
      row := by
    omega
  simp only [Area.glyph, across, down, Bool.bne_false]

-- ---------------------------------------------------------------------------
-- Drawing on the grid
-- ---------------------------------------------------------------------------

/-- Light characters on dark, from cell to cell. -/
def DrawOp.OnGrid : DrawOp → Prop
  | .clear => True
  | .cursor x _ => cellWidth ∣ x.toNat
  | .text _ inverted | .glyph _ inverted => inverted = false
  | .advance wiping => wiping = true
  | _ => False

instance (op : DrawOp) : Decidable op.OnGrid :=
  match op with
  | .clear => isTrue trivial
  | .cursor x _ => inferInstanceAs (Decidable (cellWidth ∣ x.toNat))
  | .text _ inverted | .glyph _ inverted => inferInstanceAs (Decidable (inverted = false))
  | .advance wiping => inferInstanceAs (Decidable (wiping = true))
  | .pixel _ _ _ | .wipe _ _ | .image _ | .brightness _ | .invert _ | .power _ | .flush =>
    isFalse id

namespace CellDisplay

def FitsText : List UInt8 → CellDisplay → Prop
  | [], _ => True
  | code :: text, display =>
    (code ≠ newline → display.x ≤ 120) ∧ FitsText text (display.type code)

def FitsOp (op : DrawOp) (display : CellDisplay) : Prop :=
  match op with
  | .text text _ => display.FitsText (codes text)
  | .glyph _ _ => display.x ≤ 120
  | _ => True

/-- No character of the drawing starts beyond the last full column. -/
def Fits : List DrawOp → CellDisplay → Prop
  | [], _ => True
  | op :: ops, display => display.FitsOp op ∧ Fits ops (display.apply op)

instance decidableFitsText :
    (text : List UInt8) → (display : CellDisplay) → Decidable (display.FitsText text)
  | [], _ => isTrue trivial
  | code :: text, display =>
    have := decidableFitsText text (display.type code)
    inferInstanceAs (Decidable (_ ∧ _))

instance (op : DrawOp) (display : CellDisplay) : Decidable (display.FitsOp op) :=
  match op with
  | .text text _ => decidableFitsText (codes text) display
  | .glyph _ _ => inferInstanceAs (Decidable (display.x ≤ 120))
  | .clear | .cursor _ _ | .pixel _ _ _ | .advance _ | .wipe _ _ | .image _ | .brightness _
  | .invert _ | .power _ | .flush => isTrue trivial

instance decidableFits :
    (ops : List DrawOp) → (display : CellDisplay) → Decidable (display.Fits ops)
  | [], _ => isTrue trivial
  | op :: ops, display =>
    have := decidableFits ops (display.apply op)
    inferInstanceAs (Decidable (_ ∧ _))

end CellDisplay

structure Pictured (graphics : Graphics) (cells : CellDisplay) (panel : Panel) : Prop where
  library : panel.graphics = graphics
  x : panel.x = cells.x
  page : panel.page = cells.page
  aligned : cellWidth ∣ cells.x
  shows : cells.grid.Shows graphics panel.frame

namespace Pictured

variable {graphics : Graphics} (lawful : graphics.Lawful) {cells : CellDisplay} {panel : Panel}
include lawful

theorem put (pictured : Pictured graphics cells panel) (room : cells.x ≤ 120) (code : UInt8) :
    Pictured graphics (cells.put code) (panel.put code false) := by
  obtain ⟨rfl, x, page, ⟨k, column⟩, shows⟩ := pictured
  have start : panel.x = k * cellWidth := by rw [x, column, Nat.mul_comm]
  have fits : panel.wrapped = panel := Panel.wrapped_of_le (x ▸ Nat.le_trans room (by decide))
  have moved : min (cells.x + cellWidth) 255 = cells.x + cellWidth := by
    simp only [cellWidth]
    omega
  refine ⟨panel.graphics_put code false, ?_, ?_, ?_, ?_⟩
  · rw [Panel.x_put, fits, x]
    exact moved.symm
  · rw [Panel.page_put, fits, page]
    rfl
  · refine ⟨k + 1, moved.trans ?_⟩
    rw [column, Nat.mul_succ]
  · intro p c hc col row hcol hrow inFrame
    have cell : panel.nextCell =
        ⟨(k * cellWidth : Nat), (panel.page.val * pageHeight : Nat), cellWidth, pageHeight⟩ := by
      rw [Panel.nextCell_eq, fits, start]
      rfl
    have here : p = cells.page ∧ c = cells.x / cellWidth ↔ p = panel.page ∧ c = k := by
      rw [page, column, Nat.mul_div_cancel_left k (by decide)]
    have written : ((cells.put code).grid.get p)[c] =
        if p = cells.page ∧ c = cells.x / cellWidth then code else (cells.grid.get p)[c] :=
      CellGrid.getElem_put ..
    rw [Panel.lit_put lawful, cell, written]
    simp only [has_cell_iff hcol hrow, here]
    split
    case isTrue same =>
      obtain ⟨rfl, rfl⟩ := same
      exact glyph_cell ..
    case isFalse => exact shows p c hc col row hcol hrow inFrame

theorem advance (pictured : Pictured graphics cells panel) :
    Pictured graphics (cells.advance true) (panel.advance true) := by
  obtain ⟨rfl, x, page, ⟨k, column⟩, shows⟩ := pictured
  refine ⟨rfl, rfl, congrArg Page.next page, Nat.dvd_zero _, ?_⟩
  intro p c hc col row hcol hrow fits
  have has : panel.rest.Has (c * cellWidth + col : Nat) (p.val * pageHeight + row : Nat) ↔
      p = cells.page ∧ cells.x / cellWidth ≤ c := by
    rw [← page, Fin.ext_iff]
    simp only [Panel.rest, Panel.top, Area.Has, x, column, cellWidth, pageHeight, screenWidth] at *
    omega
  have code : ((cells.advance true).grid.get p)[c] =
      if p = cells.page ∧ cells.x / cellWidth ≤ c then CellGrid.blank else (cells.grid.get p)[c] :=
    CellGrid.getElem_blankFrom ..
  rw [Panel.lit_advance lawful, code, shows p c hc col row hcol hrow fits]
  simp only [true_and, has]
  split
  · exact (lawful.ink_blank col row).symm
  · rfl

theorem type (pictured : Pictured graphics cells panel) {code : UInt8}
    (room : code ≠ newline → cells.x ≤ 120) :
    Pictured graphics (cells.type code) (panel.type false code) := by
  unfold CellDisplay.type Panel.type
  split
  · exact pictured.advance lawful
  case isFalse plain => exact pictured.put lawful (room plain) code

theorem typeAll (pictured : Pictured graphics cells panel) {text : List UInt8}
    (fits : cells.FitsText text) :
    Pictured graphics (cells.typeAll text) (panel.typeAll text false) := by
  induction text generalizing cells panel with
  | nil => exact pictured
  | cons code text ih => exact ih (pictured.type lawful fits.1) fits.2

theorem run {ops : List DrawOp} (pictured : Pictured graphics cells panel)
    (onGrid : ∀ op ∈ ops, op.OnGrid) (fits : cells.Fits ops) :
    Pictured graphics (cells.run ops) (panel.run ops) := by
  induction ops generalizing cells panel with
  | nil => exact pictured
  | cons op ops ih =>
    obtain ⟨first, others⟩ := List.forall_mem_cons.mp onGrid
    obtain ⟨room, fits⟩ := fits
    refine ih ?_ others fits
    cases op with
    | clear =>
      exact ⟨pictured.library, rfl, rfl, Nat.dvd_zero _, CellGrid.shows_empty lawful⟩
    | cursor x page =>
      have aligned : cellWidth ∣ x.toNat := first
      exact ⟨pictured.library, rfl, rfl, aligned, pictured.shows⟩
    | text text inverted =>
      obtain rfl : inverted = false := first
      exact pictured.typeAll lawful room
    | glyph code inverted =>
      obtain rfl : inverted = false := first
      exact pictured.put lawful room code
    | advance wipe =>
      obtain rfl : wipe = true := first
      exact pictured.advance lawful
    | _ => exact first.elim

theorem start (driver : PanelDriver) (powered : PanelController) :
    Pictured graphics {} (.new graphics driver powered) :=
  ⟨rfl, rfl, rfl, Nat.dvd_zero _, CellGrid.shows_empty lawful⟩

end Pictured

/-- The frame of a new panel is the picture of the cells, for every drawing on the grid,
with any library that keeps to its shapes and whatever the bus loses. -/
theorem picture_run {graphics : Graphics} (lawful : graphics.Lawful) (driver : PanelDriver)
    (powered : PanelController) {ops : List DrawOp} (onGrid : ∀ op ∈ ops, op.OnGrid)
    (fits : CellDisplay.Fits ops {}) :
    let panel := Panel.new graphics driver powered
    (panel.run ops).frame = (({} : CellDisplay).run ops).grid.picture graphics ∧
      (panel.run ops).x = (({} : CellDisplay).run ops).x ∧
      (panel.run ops).page = (({} : CellDisplay).run ops).page := by
  intro panel
  have pictured := (Pictured.start lawful driver powered).run lawful onGrid fits
  exact ⟨CellGrid.shows_iff.mp pictured.shows, pictured.x, pictured.page⟩

/-- An overwritten line with a break, a bar at the end of the last page, and a wipe from
beyond the last full column. -/
def sampleDrawing : List DrawOp :=
  [.text "first
line" false, .cursor 12 0, .text "ve° 5
" false, .cursor 120 7, .glyph 133 false,
    .advance true, .cursor 126 0, .advance true, .glyph 0 false]

theorem picture_run_sample :
    Graphics.standard.Lawful ∧ (∀ op ∈ sampleDrawing, op.OnGrid) ∧
      CellDisplay.Fits sampleDrawing {} ∧
      let panel := Panel.new .standard .prompt {}
      (panel.run sampleDrawing).frame =
          (({} : CellDisplay).run sampleDrawing).grid.picture .standard ∧
        (panel.run sampleDrawing).x = (({} : CellDisplay).run sampleDrawing).x ∧
        (panel.run sampleDrawing).page = (({} : CellDisplay).run sampleDrawing).page := by
  have onGrid : ∀ op ∈ sampleDrawing, op.OnGrid := by decide
  have fits : CellDisplay.Fits sampleDrawing {} := by decide +kernel
  exact ⟨Graphics.lawful_standard, onGrid, fits,
    picture_run Graphics.lawful_standard .prompt {} onGrid fits⟩

end KnobPanel
