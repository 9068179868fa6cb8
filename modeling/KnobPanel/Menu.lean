import KnobPanel.Display.DrawOp

/-!
# List menu

A list with a cursor and a window of eight rows. The first item is the title;
it is drawn and selected like any other row.
-/

namespace KnobPanel

/-- `offset` is the first item in the window. -/
structure Menu where
  items : List String
  cursor : Nat := 0
  offset : Nat := 0

namespace Menu

def rows : Nat := 8

def count (menu : Menu) : Nat := menu.items.length

/-- Opens a list on the given item, or on the title when there is no such item.
A long list opened below the first screen shows the cursor on its fourth row,
as far as the end of the list permits. -/
def load (items : List String) (cursor : Nat) : Menu :=
  let cursor := if cursor < items.length then cursor else 0
  let offset :=
    if rows < items.length ∧ rows ≤ cursor then min (cursor - 3) (items.length - rows) else 0
  { items, cursor, offset }

def navigate (forward : Bool) (menu : Menu) : Menu :=
  if forward then
    let cursor := if menu.cursor + 1 < menu.count then menu.cursor + 1 else menu.cursor
    { menu with
      cursor
      offset := if menu.offset + rows ≤ cursor then menu.offset + 1 else menu.offset }
  else
    let cursor := menu.cursor - 1
    { menu with cursor, offset := if cursor < menu.offset then menu.offset - 1 else menu.offset }

def window (menu : Menu) : List (Nat × String) :=
  ((menu.items.zipIdx.drop menu.offset).take rows).map fun (item, i) => (i, item)

def drawRow (cursor : Nat) (row : Nat × String) : List DrawOp :=
  [.glyph (if row.1 = cursor then '>' else ' ').toUInt8 false, .glyph 32 false,
    .text row.2 false, .advance true]

/-- The scroll bar's thumb: its first lit row and the first row below it. -/
def thumb (count offset : Nat) : Nat × Nat :=
  let length := max (screenHeight * rows / count) 4
  let top := screenHeight * offset / count
  (top, min (top + length) screenHeight)

/-- Two columns of pixels at the right edge, only for lists longer than the
screen. -/
def drawScrollBar (menu : Menu) : List DrawOp :=
  if menu.count ≤ rows then
    []
  else
    let span := thumb menu.count menu.offset
    [127, 126].flatMap fun (x : Int) =>
      (List.range screenHeight).map fun (y : Nat) =>
        .pixel x y (span.1 ≤ y && y < span.2)

def draw (menu : Menu) : List DrawOp :=
  .cursor 0 0 :: menu.window.flatMap (drawRow menu.cursor) ++ menu.drawScrollBar

end Menu

end KnobPanel
