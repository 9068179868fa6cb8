import KnobPanel.Display.Graphics

/-!
# Characters of the panel

A character has a cell of six columns and eight rows. The degree sign and the bar are
drawn as shapes, the printable characters with the font of the library.
-/

namespace KnobPanel.Font

def degree : UInt8 := 0

/-- The empty bar cell with a grid tick; the code `n` further on fills `n` of
the six columns. -/
def bar : UInt8 := 128

def isPrintable (code : UInt8) : Bool := code < 128 && !(code < 32 || code = 127)

def strokes (code : UInt8) (inverted : Bool) : List Mark :=
  if code = degree then
    [.shape 1 0 (.ring 4) (!inverted)]
  else if code = bar then
    [.shape 0 5 (.line 0 2) (!inverted)]
  else if bar < code ∧ code < bar + .ofNat cellWidth then
    [.shape 0 1 (.rectangle (code - bar).toNat 6) (!inverted)]
  else if isPrintable code then
    [.text 0 0 [code] inverted]
  else
    []

def marks (code : UInt8) (inverted : Bool) : List Mark :=
  .shape 0 0 (.rectangle cellWidth pageHeight) inverted :: strokes code inverted

end KnobPanel.Font
