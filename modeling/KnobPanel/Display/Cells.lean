import KnobPanel.Display.DrawOp

/-!
# Character cells

A display that keeps the character codes written to it: eight pages of 22
cells. Pixels, regions and images leave no trace. `DisplayLog` also keeps the
operations themselves.
-/

namespace KnobPanel

abbrev CellGrid := Vector (Vector UInt8 22) 8

namespace CellGrid

def blank : UInt8 := 32

def empty : CellGrid := .replicate 8 (.replicate 22 blank)

/-- Columns beyond the last one take nothing. -/
def put (page : Page) (col : Nat) (code : UInt8) (grid : CellGrid) : CellGrid :=
  if h : col < 22 then grid.set page (grid[page].set col code) else grid

def blankFrom (page : Page) (col : Nat) (grid : CellGrid) : CellGrid :=
  grid.set page (grid[page].mapIdx fun i code => if col ≤ i then blank else code)

theorem getElem_put (page : Page) (col : Nat) (code : UInt8) (grid : CellGrid)
    (p : Page) (c : Nat) (hc : c < 22) :
    (grid.put page col code)[p][c] = if p = page ∧ c = col then code else grid[p][c] := by
  unfold put
  split
  · simp only [Fin.getElem_fin, Vector.getElem_set]
    by_cases hp : page.val = p.val
    · obtain rfl : page = p := Fin.ext hp
      simp only [↓reduceIte, Vector.getElem_set, true_and, eq_comm]
    · have : p ≠ page := fun h => hp (congrArg Fin.val h.symm)
      simp [hp, this]
  · have : ¬(p = page ∧ c = col) := by omega
    simp [this]

theorem getElem_blankFrom (page : Page) (col : Nat) (grid : CellGrid)
    (p : Page) (c : Nat) (hc : c < 22) :
    (grid.blankFrom page col)[p][c] = if p = page ∧ col ≤ c then blank else grid[p][c] := by
  simp only [blankFrom, Fin.getElem_fin, Vector.getElem_set]
  by_cases hp : page.val = p.val
  · obtain rfl : page = p := Fin.ext hp
    simp
  · have : p ≠ page := fun h => hp (congrArg Fin.val h.symm)
    simp [hp, this]

end CellGrid

structure CellDisplay where
  grid : CellGrid := .empty
  /-- The cursor, in pixels and pages. -/
  x : Nat := 0
  page : Page := .first
  brightness : UInt8 := 0
  inverted : Bool := false
  on : Bool := true

namespace CellDisplay

def put (code : UInt8) (display : CellDisplay) : CellDisplay :=
  { display with
    grid := display.grid.put display.page (display.x / cellWidth) code
    x := min (display.x + cellWidth) 255 }

def advance (wipe : Bool) (display : CellDisplay) : CellDisplay :=
  { display with
    grid :=
      if wipe then display.grid.blankFrom display.page (display.x / cellWidth) else display.grid
    x := 0
    page := display.page.next }

def type (code : UInt8) (display : CellDisplay) : CellDisplay :=
  if code = newline then display.advance true else display.put code

def typeAll (text : List UInt8) (display : CellDisplay) : CellDisplay :=
  text.foldl (fun display code => display.type code) display

def apply (op : DrawOp) (display : CellDisplay) : CellDisplay :=
  match op with
  | .clear => { display with grid := .empty, x := 0, page := .first }
  | .cursor x page => { display with x := x.toNat, page := .ofByte page }
  | .text text _ => display.typeAll (codes text)
  | .glyph code _ => display.put code
  | .advance wipe => display.advance wipe
  | .brightness level => { display with brightness := level }
  | .invert mode => { display with inverted := mode.apply display.inverted }
  | .power on => { display with on }
  | .pixel _ _ _ | .wipe _ _ | .image _ | .flush => display

def run (ops : List DrawOp) (display : CellDisplay) : CellDisplay :=
  ops.foldl (fun display op => display.apply op) display

def line (page : Page) (display : CellDisplay) : List UInt8 :=
  (display.grid[page].toList.reverse.dropWhile (· == CellGrid.blank)).reverse

end CellDisplay

/-- A cell display with the operations carried out on it, newest first. -/
structure DisplayLog where
  cells : CellDisplay := {}
  log : List DrawOp := []

namespace DisplayLog

def apply (op : DrawOp) (display : DisplayLog) : DisplayLog where
  cells := display.cells.apply op
  log := op :: display.log

def run (ops : List DrawOp) (display : DisplayLog) : DisplayLog :=
  ops.foldl (fun display op => display.apply op) display

theorem run_cells (ops : List DrawOp) (display : DisplayLog) :
    (display.run ops).cells = display.cells.run ops := by
  induction ops generalizing display with
  | nil => rfl
  | cons op ops ih => exact ih _

end DisplayLog

end KnobPanel
