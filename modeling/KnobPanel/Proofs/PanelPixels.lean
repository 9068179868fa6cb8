import KnobPanel.Display.Panel
import KnobPanel.Proofs.PaintedMarks

/-!
# Pixels of the panel

What the operations of the panel make of single pixels: marks change no pixel outside
their boxes, and a character or a wiped rectangle covers a whole area.
-/

namespace KnobPanel

namespace Area

def glyph (graphics : Graphics) (cell : Area) (code : UInt8) (inverted : Bool) (x y : Int) : Bool :=
  graphics.ink code (x - cell.left).toNat (y - cell.top).toNat != inverted

end Area

namespace Panel

theorem run_append (first second : List DrawOp) (panel : Panel) :
    panel.run (first ++ second) = (panel.run first).run second :=
  List.foldl_append

theorem frame_run_pixels (pixels : List (Int × Int × Bool)) (panel : Panel) :
    (panel.run (pixels.map fun pixel => .pixel pixel.1 pixel.2.1 pixel.2.2)).frame =
      panel.frame.paint pixels := by
  induction pixels generalizing panel with
  | nil => rfl
  | cons pixel pixels ih => exact ih _

variable {x y : Int}

def rest (panel : Panel) : Area := ⟨panel.x, panel.top, screenWidth - panel.x, pageHeight⟩

/-- The cell of the next character: at the cursor, or at the start of the next page where
the cursor is too far to the right. -/
def nextCell (panel : Panel) : Area :=
  if screenWidth - cellWidth < panel.x then
    ⟨0, panel.page.next.val * pageHeight, cellWidth, pageHeight⟩
  else
    ⟨panel.x, panel.top, cellWidth, pageHeight⟩

def wrapped (panel : Panel) : Panel :=
  if screenWidth - cellWidth < panel.x then panel.advance false else panel

theorem nextCell_eq (panel : Panel) :
    panel.nextCell = ⟨panel.wrapped.x, panel.wrapped.top, cellWidth, pageHeight⟩ := by
  unfold nextCell wrapped
  split <;> rfl

theorem wrapped_of_le {panel : Panel} (fits : panel.x ≤ screenWidth - cellWidth) :
    panel.wrapped = panel :=
  if_neg (Nat.not_lt.mpr fits)

theorem frame_wrapped (panel : Panel) : panel.wrapped.frame = panel.frame := by
  unfold wrapped
  split <;> rfl

theorem x_wrapped_le (panel : Panel) : panel.wrapped.x ≤ screenWidth - cellWidth := by
  unfold wrapped
  split
  · exact Nat.zero_le _
  case isFalse fits => exact Nat.le_of_not_lt fits

theorem inside_nextCell {panel : Panel} (has : panel.nextCell.Has x y) : Frame.Inside x y := by
  have page := panel.wrapped.page.isLt
  have fits := panel.x_wrapped_le
  rw [nextCell_eq] at has
  simp only [Area.Has, top, pageHeight, screenWidth, cellWidth] at has fits
  refine ⟨?_, ?_, ?_, ?_⟩ <;> omega

theorem graphics_wrapped (panel : Panel) : panel.wrapped.graphics = panel.graphics := by
  unfold wrapped
  split <;> rfl

theorem graphics_put (code : UInt8) (inverted : Bool) (panel : Panel) :
    (panel.put code inverted).graphics = panel.graphics :=
  panel.graphics_wrapped

theorem x_put (code : UInt8) (inverted : Bool) (panel : Panel) :
    (panel.put code inverted).x = panel.wrapped.x + cellWidth := by
  simp only [put, wrapped]

theorem page_put (code : UInt8) (inverted : Bool) (panel : Panel) :
    (panel.put code inverted).page = panel.wrapped.page := by
  simp only [put, wrapped]
  rfl

theorem frame_put (code : UInt8) (inverted : Bool) (panel : Panel) :
    (panel.put code inverted).frame = (panel.wrapped.draw (Font.marks code inverted)).frame := by
  simp only [put, wrapped]

section
variable {panel : Panel} (lawful : panel.graphics.Lawful)
include lawful

theorem lit_fill (width height : Nat) (value : Bool) :
    (panel.fill width height value).frame.lit x y =
      if Frame.Inside x y ∧ Area.Has ⟨panel.x, panel.top, width, height⟩ x y then value
      else panel.frame.lit x y := by
  have one : ([.shape 0 0 (.rectangle width height) value] : List Mark).flatMap
      (fun mark => panel.graphics.pixels panel.x panel.top mark) =
        panel.graphics.pixels panel.x panel.top (.shape 0 0 (.rectangle width height) value) :=
    List.flatMap_singleton ..
  rw [fill, draw, one]
  exact lawful.lit_paint_rectangle ..

theorem lit_wipe (width height : Nat) :
    (panel.fill width height false).frame.lit x y =
      if Area.Has ⟨panel.x, panel.top, width, height⟩ x y then false
      else panel.frame.lit x y := by
  rw [lit_fill lawful]
  by_cases inside : Frame.Inside x y
  · simp only [inside, true_and]
  · simp only [Frame.lit_of_not_inside inside, ite_self]

theorem lit_advance (wipe : Bool) :
    (panel.advance wipe).frame.lit x y =
      if wipe ∧ panel.rest.Has x y then false else panel.frame.lit x y := by
  have nothing (full : ¬panel.x < screenWidth) : ¬panel.rest.Has x y := by
    simp only [rest, Area.Has, screenWidth] at *
    omega
  simp only [advance]
  split
  case isTrue wipes =>
    simp only [wipes.1, true_and]
    exact lit_wipe lawful ..
  case isFalse keeps =>
    rw [if_neg fun both => nothing (fun room => keeps ⟨both.1, room⟩) both.2]

theorem lit_put (code : UInt8) (inverted : Bool) :
    (panel.put code inverted).frame.lit x y =
      if panel.nextCell.Has x y then panel.nextCell.glyph panel.graphics code inverted x y
      else panel.frame.lit x y := by
  rw [frame_put, ← frame_wrapped panel]
  have cell := panel.nextCell_eq
  have inside : panel.nextCell.Has x y → Frame.Inside x y := inside_nextCell
  rw [← graphics_wrapped] at lawful ⊢
  generalize panel.wrapped = start at *
  -- the cell is filled, and then the strokes ink it
  have filled := lit_fill (x := x) (y := y) lawful cellWidth pageHeight inverted
  have inked : (start.draw (Font.marks code inverted)).frame =
      (start.fill cellWidth pageHeight inverted).frame.paint
        ((Font.strokes code inverted).flatMap fun mark =>
          start.graphics.pixels start.x start.top mark) := by
    rw [draw, Font.marks, List.flatMap_cons, Frame.paint_append, fill, draw, List.flatMap_singleton]
  rw [inked]
  by_cases has : panel.nextCell.Has x y
  case pos =>
    rw [cell] at has
    rw [if_pos ⟨inside (cell ▸ has), has⟩] at filled
    rw [if_pos (cell ▸ has), cell]
    exact lawful.lit_paint_strokes (inside (cell ▸ has)) has filled
  case neg =>
    have outside := has
    rw [cell] at outside
    rw [if_neg fun both => outside both.2] at filled
    rw [if_neg has, ← filled]
    refine Frame.lit_paint_of_notMem (fun value found => ?_) _
    obtain ⟨mark, among, painted⟩ := List.mem_flatMap.mp found
    obtain ⟨readable, within⟩ := Font.strokes_within among
    have box := Area.has_shift_iff.mp (lawful.within_of_mem_pixels readable painted)
    have near := within.has box
    simp only [Area.Has] at near outside
    omega

end

end Panel

end KnobPanel
