import KnobPanel.Display.Graphics

/-!
# Images

Images are drawn with the shapes and the font of the library.
-/

namespace KnobPanel.Image

def ears : List Mark :=
  [8, 28].map fun left => .shape left 13 (.triangle 5 (-7) 10 0) true

/-- The idle cat wipes its square first; a paw lies over whatever is there. -/
def marks : Image → List Mark
  | logo =>
    [.shape 0 0 (.roundedFrame 40 40 8) true, .text 11 10 (codes "key") false,
      .text 6 22 (codes "panel") false]
  | tomato => [.shape 2 8 (.disc 36) true, .shape 14 2 (.triangle 12 0 6 8) true]
  | bongoUp =>
    [.shape 0 0 (.rectangle 48 48) false, .shape 8 12 (.roundedFrame 30 22 6) true] ++ ears ++
      [.shape 0 38 (.line 47 0) true]
  | bongoLeft | bongoRight => [.shape 0 22 (.disc 7) true]
  | bongoBoth => [-10, 11].map fun left => .shape left 22 (.disc 7) true

end KnobPanel.Image
