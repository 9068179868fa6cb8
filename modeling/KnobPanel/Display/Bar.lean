import KnobPanel.Display.DrawOp
import KnobPanel.Display.Font

/-!
# Proportional bar

A bar over one line of 21 cells: full cells, at most one partly filled cell,
then empty cells with a grid tick in every fifth.
-/

namespace KnobPanel.Bar

def cells : Nat := 21

def pixels (value limit : Nat) : Nat :=
  let limit := max limit 1
  screenWidth * min value limit / limit

def code (filled cell : Nat) : UInt8 :=
  let rest := filled - cell * cellWidth
  if cellWidth ≤ rest then Font.bar + 5
  else if 0 < rest then Font.bar + .ofNat rest
  else if cell % 5 = 0 then Font.bar
  else 32

def draw (value limit : Nat) : List DrawOp :=
  (List.range cells).map fun cell => .glyph (code (pixels value limit) cell) false

def drawWithValue (value limit : Nat) : List DrawOp :=
  .text (toString value) false :: .advance true :: draw value limit

end KnobPanel.Bar
