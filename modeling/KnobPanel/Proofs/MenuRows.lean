import KnobPanel.Proofs.CheckedMenus
import KnobPanel.Proofs.TypedRows

/-!
# The rows of a list menu

A menu draws its window from the first page on, one item a page, and marks the row of the
cursor. What the cells held before does not matter.
-/

namespace KnobPanel

namespace CellDisplay

theorem run_of_pixels {ops : List DrawOp} (pixels : ∀ op ∈ ops, ∃ x y lit, op = .pixel x y lit)
    (display : CellDisplay) : display.run ops = display := by
  induction ops with
  | nil => rfl
  | cons op ops ih =>
    obtain ⟨⟨x, y, lit, rfl⟩, others⟩ := List.forall_mem_cons.mp pixels
    exact ih others

end CellDisplay

namespace Menu

/-- The line of an item: a marker if it is the cursor's, a blank, and the item. -/
def lineAt (cursor : Nat) (row : Nat × String) : List UInt8 :=
  (if row.1 = cursor then '>' else ' ').toUInt8 :: CellGrid.blank :: codes row.2

theorem newline_notMem_lineAt {cursor : Nat} {row : Nat × String} (plain : '\n' ∉ row.2.toList) :
    newline ∉ lineAt cursor row := by
  have item : newline ∉ codes row.2 := mt newline_mem_codes_iff.mp plain
  simp only [lineAt, List.mem_cons, not_or]
  refine ⟨?_, by decide, item⟩
  split <;> decide

theorem run_drawRow (cursor : Nat) (row : Nat × String) (display : CellDisplay) :
    display.run (drawRow cursor row) = display.typeLine (lineAt cursor row) := by
  simp only [drawRow, lineAt]
  split <;> rfl

theorem run_drawScrollBar (menu : Menu) (display : CellDisplay) :
    display.run menu.drawScrollBar = display := by
  refine CellDisplay.run_of_pixels (fun op found => ?_) display
  unfold drawScrollBar at found
  split at found
  · cases found
  · obtain ⟨x, -, column⟩ := List.mem_flatMap.mp found
    obtain ⟨y, -, rfl⟩ := List.mem_map.mp column
    exact ⟨_, _, _, rfl⟩

def lines (menu : Menu) : List (List UInt8) := menu.window.map (lineAt menu.cursor)

theorem run_rows (cursor : Nat) (rows : List (Nat × String)) (display : CellDisplay) :
    display.run (rows.flatMap (drawRow cursor)) = display.typeLines (rows.map (lineAt cursor)) := by
  induction rows generalizing display with
  | nil => rfl
  | cons row rows ih =>
    rw [List.flatMap_cons, CellDisplay.run_append, run_drawRow, ih]
    rfl

theorem run_draw (menu : Menu) (display : CellDisplay) :
    display.run menu.draw = { display with x := 0, page := .first }.typeLines menu.lines := by
  rw [draw, CellDisplay.run_append, run_drawScrollBar]
  exact run_rows ..

-- ---------------------------------------------------------------------------
-- The window
-- ---------------------------------------------------------------------------

theorem length_window (menu : Menu) : menu.window.length = min rows (menu.count - menu.offset) := by
  simp [window, count]

theorem getElem?_window (menu : Menu) {row : Nat} (inside : row < rows) :
    menu.window[row]? =
      menu.items[menu.offset + row]?.map fun item => (menu.offset + row, item) := by
  simp only [window, List.getElem?_map, List.getElem?_take_of_lt inside, List.getElem?_drop,
    List.getElem?_zipIdx, Option.map_map, Nat.zero_add]
  rfl

theorem mem_items_of_mem_window {menu : Menu} {row : Nat × String} (found : row ∈ menu.window) :
    row.2 ∈ menu.items := by
  obtain ⟨i, lt, rfl⟩ := List.mem_iff_getElem.mp found
  have inside : i < rows := by
    rw [length_window] at lt
    omega
  have there := menu.getElem?_window inside
  rw [List.getElem?_eq_getElem lt] at there
  obtain ⟨item, among, row⟩ := Option.map_eq_some_iff.mp there.symm
  rw [← row]
  exact List.mem_of_getElem? among

namespace Windowed

variable {menu : Menu} (windowed : menu.Windowed)
include windowed

theorem length_lines : menu.lines.length = min rows menu.count := by
  have last := windowed.offset_le_last
  rw [lines, List.length_map, length_window]
  simp only [rows] at *
  omega

theorem getD_lines {row : Nat} (inside : row < min rows menu.count) :
    ∃ item, menu.items[menu.offset + row]? = some item ∧
      menu.lines.getD row [] = lineAt menu.cursor (menu.offset + row, item) := by
  have last := windowed.offset_le_last
  have lt : menu.offset + row < menu.items.length := by
    simp only [rows, count] at *
    omega
  have item := List.getElem?_eq_getElem lt
  refine ⟨_, item, ?_⟩
  rw [lines, List.getD_eq_getElem?_getD, List.getElem?_map,
    menu.getElem?_window (by omega), item]
  rfl

theorem get_run_draw (plain : ∀ item ∈ menu.items, '\n' ∉ item.toList)
    (display : CellDisplay) (p : Page) :
    (display.run menu.draw).grid.get p =
      if p.val < min rows menu.count then CellGrid.lineOf (menu.lines.getD p.val [])
      else display.grid.get p := by
  have plain : ∀ text ∈ menu.lines, newline ∉ text := by
    intro text found
    obtain ⟨row, among, rfl⟩ := List.mem_map.mp found
    exact newline_notMem_lineAt (plain _ (mem_items_of_mem_window among))
  have length := windowed.length_lines
  have zero : (Page.first : Page).val = 0 := rfl
  rw [run_draw, CellDisplay.get_typeLines plain rfl (by simp only [zero, rows] at *; omega)]
  simp only [zero, length, Nat.zero_le, true_and, Nat.zero_add, Nat.sub_zero]

end Windowed

/-- What drawing a menu makes of the cells. -/
structure Rendered (menu : Menu) (before after : CellDisplay) : Prop where
  row (p : Page) : p.val < min rows menu.count →
    ∃ item, menu.items[menu.offset + p.val]? = some item ∧
      after.grid.get p = CellGrid.lineOf (lineAt menu.cursor (menu.offset + p.val, item))
  marked (p : Page) : p.val < min rows menu.count →
    ((after.grid.get p).get 0 = '>'.toUInt8 ↔ p.val = menu.cursor - menu.offset)
  inView : menu.cursor - menu.offset < min rows menu.count
  others (p : Page) : min rows menu.count ≤ p.val → after.grid.get p = before.grid.get p

theorem Windowed.rendered {menu : Menu} (windowed : menu.Windowed)
    (plain : ∀ item ∈ menu.items, '\n' ∉ item.toList) (display : CellDisplay) :
    menu.Rendered display (display.run menu.draw) := by
  have shown := windowed.get_run_draw plain display
  have row (p : Page) (inside : p.val < min rows menu.count) :
      ∃ item, menu.items[menu.offset + p.val]? = some item ∧
        (display.run menu.draw).grid.get p =
          CellGrid.lineOf (lineAt menu.cursor (menu.offset + p.val, item)) := by
    obtain ⟨item, among, line⟩ := windowed.getD_lines inside
    exact ⟨item, among, by rw [shown, if_pos inside, line]⟩
  obtain ⟨cursor_lt, above, cursor_lt_end, -⟩ := windowed
  refine ⟨row, fun p inside => ?_, ?_, fun p outside => ?_⟩
  · obtain ⟨item, -, line⟩ := row p inside
    rw [line, CellGrid.get_zero_lineOf, lineAt, List.getD_cons_zero]
    split
    case isTrue here => exact iff_of_true rfl (by simp only at here; omega)
    case isFalse away => exact iff_of_false (by decide) (by simp only at away; omega)
  · simp only [rows] at *
    omega
  · rw [shown, if_neg (Nat.not_lt.mpr outside)]

-- ---------------------------------------------------------------------------
-- Walks
-- ---------------------------------------------------------------------------

/-- Where moves lead after a list was opened. No step takes the window above the list. -/
structure Walked (items : List String) (start : Nat) (moves : List Bool) (menu : Menu) : Prop where
  items_eq : menu.items = items
  windowed : menu.Windowed
  cursor_eq : menu.cursor =
    moves.foldl (clampedMove items.length) (if start < items.length then start else 0)
  opened : load? items start = some (load items start)
  scrolls : menu.cursor - 1 < menu.offset → Word.minus menu.offset 1 = some (menu.offset - 1)
  moved : items.length + rows ≤ Word.addressSize →
    ∀ forward, menu.navigate? forward = some (menu.navigate forward)

theorem walked_load {items : List String} (filled : items ≠ []) (start : Nat) (moves : List Bool) :
    Walked items start moves ((load items start).walked moves) := by
  have opened := windowed_load (List.length_pos_iff.mpr filled) start
  have windowed := opened.walked moves
  have same : ((load items start).walked moves).items = items := items_walked moves _
  refine ⟨same, windowed, opened.cursor_walked moves, load?_eq items start, fun above => ?_,
    fun fits => navigate?_eq_of_le windowed ?_⟩
  · exact Word.minus_of_le (by omega)
  · rwa [count, same]

/-- Whatever list is opened where, and however its cursor is moved: it stays in the window,
and drawing shows the window with a marker in the row of the cursor. -/
theorem walked_rendered {items : List String} (filled : items ≠ [])
    (plain : ∀ item ∈ items, '\n' ∉ item.toList) (start : Nat) (moves : List Bool)
    (display : CellDisplay) :
    Walked items start moves ((load items start).walked moves) ∧
      ((load items start).walked moves).Rendered display
        (display.run ((load items start).walked moves).draw) := by
  have walked := walked_load filled start moves
  exact ⟨walked, walked.windowed.rendered (by rwa [walked.items_eq]) display⟩

/-- Longer than the screen and, in one row, than a line. -/
def sampleItems : List String :=
  ["-- Sample", "a", "b", "c", "d", "e", "f", "g", "h", "from end to end and beyond", "j", "k"]

def sampleMoves : List Bool := [true, false, false, false, false]

def sampleCells : CellDisplay := ({} : CellDisplay).run [.text "dashboard" false]

theorem walked_rendered_overwritten :
    sampleItems ≠ [] ∧ (∀ item ∈ sampleItems, '\n' ∉ item.toList) ∧
      ((load sampleItems 9).walked sampleMoves).cursor = 6 ∧
      ((load sampleItems 9).walked sampleMoves).offset = 4 ∧
      Walked sampleItems 9 sampleMoves ((load sampleItems 9).walked sampleMoves) ∧
      ((load sampleItems 9).walked sampleMoves).Rendered sampleCells
        (sampleCells.run ((load sampleItems 9).walked sampleMoves).draw) := by
  have plain : ∀ item ∈ sampleItems, '\n' ∉ item.toList := by decide
  exact ⟨by decide, plain, by decide, by decide,
    walked_rendered (by decide) plain 9 sampleMoves sampleCells⟩

end Menu

end KnobPanel
