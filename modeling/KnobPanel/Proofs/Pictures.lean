import KnobPanel.Screens.Screen

/-!
# Pictures

Most drawing only changes what is shown: brightness, inversion and power stay
as they are. Every screen draws pictures, apart from the inversions by which
the pomodoro timer flashes.
-/

namespace KnobPanel

namespace DrawOp

def isPicture : DrawOp → Bool
  | brightness _ | invert _ | power _ => false
  | _ => true

def keepsPower : DrawOp → Bool
  | power _ => false
  | _ => true

/-- The operation moves the cursor or colours pixels; cells show nothing of it. -/
def isSketch : DrawOp → Bool
  | cursor _ _ | pixel _ _ _ | wipe _ _ | image _ => true
  | _ => false

theorem isPicture_of_isSketch {op : DrawOp} (h : op.isSketch) : op.isPicture := by
  cases op <;> first | rfl | cases h

theorem keepsPower_of_isPicture {op : DrawOp} (h : op.isPicture) : op.keepsPower := by
  cases op <;> first | rfl | cases h

end DrawOp

def Pictures (ops : List DrawOp) : Prop := ops.all DrawOp.isPicture

def Sketch (ops : List DrawOp) : Prop := ops.all DrawOp.isSketch

def KeepsPower (ops : List DrawOp) : Prop := ops.all DrawOp.keepsPower

theorem Pictures.all {ops : List DrawOp} (h : Pictures ops) {keeps : DrawOp → Bool}
    (imp : ∀ op, op.isPicture → keeps op) : ops.all keeps :=
  List.all_eq_true.mpr fun op ho => imp op (List.all_eq_true.mp h op ho)

theorem Sketch.pictures {ops : List DrawOp} (h : Sketch ops) : Pictures ops :=
  List.all_eq_true.mpr fun op ho => DrawOp.isPicture_of_isSketch (List.all_eq_true.mp h op ho)

theorem Pictures.keepsPower {ops : List DrawOp} (h : Pictures ops) : KeepsPower ops :=
  h.all fun _ => DrawOp.keepsPower_of_isPicture

theorem Pictures.append {first second : List DrawOp} (hf : Pictures first) (hs : Pictures second) :
    Pictures (first ++ second) := by
  simp_all [Pictures]

theorem KeepsPower.append {first second : List DrawOp} (hf : KeepsPower first)
    (hs : KeepsPower second) : KeepsPower (first ++ second) := by
  simp_all [KeepsPower]

-- ---------------------------------------------------------------------------
-- Displays
-- ---------------------------------------------------------------------------

namespace CellDisplay

theorem typeAll_frame (text : List UInt8) (display : CellDisplay) :
    ∃ grid x page, display.typeAll text = { display with grid, x, page } := by
  induction text generalizing display with
  | nil => exact ⟨_, _, _, rfl⟩
  | cons code text ih =>
    obtain ⟨grid, x, page, typed⟩ := ih (display.type code)
    refine ⟨grid, x, page, typed.trans ?_⟩
    unfold type
    split <;> rfl

theorem run_append (first second : List DrawOp) (display : CellDisplay) :
    display.run (first ++ second) = (display.run first).run second :=
  List.foldl_append

theorem run_keeps {α : Type} {part : CellDisplay → α} {keeps : DrawOp → Bool}
    (apply : ∀ op, keeps op → ∀ display : CellDisplay, part (display.apply op) = part display)
    {ops : List DrawOp} (h : ops.all keeps) (display : CellDisplay) :
    part (display.run ops) = part display := by
  induction ops generalizing display with
  | nil => rfl
  | cons op ops ih =>
    obtain ⟨ho, h⟩ := by simpa using h
    exact (ih (List.all_eq_true.mpr h) _).trans (apply op ho display)

theorem on_apply (op : DrawOp) (h : op.keepsPower) (display : CellDisplay) :
    (display.apply op).on = display.on := by
  cases op with
  | text text _ =>
    obtain ⟨_, _, _, typed⟩ := display.typeAll_frame (codes text)
    simp only [apply, typed]
  | power on => cases h
  | _ => rfl

theorem on_run {ops : List DrawOp} (h : KeepsPower ops) (display : CellDisplay) :
    (display.run ops).on = display.on :=
  run_keeps on_apply h display

theorem grid_run {ops : List DrawOp} (h : Sketch ops) (display : CellDisplay) :
    (display.run ops).grid = display.grid := by
  refine run_keeps (fun op ho display => ?_) h display
  cases op <;> first | rfl | cases ho

end CellDisplay

theorem Board.displayOn_draw {ops : List DrawOp} (h : KeepsPower ops) (board : Board) :
    (board.draw ops).displayOn = board.displayOn := by
  simp only [displayOn, draw, DisplayLog.run_cells, CellDisplay.on_run h]

theorem Board.displayOn_draw_power (on : Bool) (board : Board) :
    (board.draw [.power on]).displayOn = on := rfl

-- ---------------------------------------------------------------------------
-- What the screens draw
-- ---------------------------------------------------------------------------

section
open DrawOp (isPicture isSketch)

theorem BongoCat.sketch_strike (pose : Pose) (cat : BongoCat) : Sketch (cat.strike pose).1 := by
  unfold strike
  split
  · rfl
  · cases pose <;> simp only <;> split <;> rfl

theorem BongoCat.sketch_onKey (event : KeyEvent) (cat : BongoCat) : Sketch (cat.onKey event).1 :=
  sketch_strike ..

theorem BongoCat.pictures_onKey (event : KeyEvent) (cat : BongoCat) :
    Pictures (cat.onKey event).1 :=
  (cat.sketch_onKey event).pictures

theorem Segment.sketch_draw (segment : Segment) : Sketch segment.draw := by
  simp [Sketch, draw, isSketch]

theorem CubeSpin.sketch_draw (trig : Trigonometry) (first : Bool) (cube : CubeSpin) :
    Sketch (cube.draw first trig).1 := by
  unfold draw
  split
  · rfl
  · have h (segment : Segment) : segment.draw.all isSketch = true := segment.sketch_draw
    simp [Sketch, drawEdges, isSketch, h]

theorem Star.sketch_plot (lit : Bool) (star : Star) : Sketch (star.plot lit) := by
  unfold plot
  split <;> rfl

theorem StarField.sketch_draw (first : Bool) (field : StarField) :
    Sketch (field.draw first).1 := by
  have h (lit : Bool) (star : Star) : (star.plot lit).all isSketch = true := star.sketch_plot lit
  unfold draw
  cases first <;> simp [Sketch, h]

theorem ArtState.sketch_draw (trig : Trigonometry) (first : Bool) (art : ArtState) :
    Sketch (art.draw trig first).1 := by
  cases art with
  | logo => rfl
  | bongo cat =>
    simp only [draw, BongoCat.draw]
    split
    · exact BongoCat.sketch_strike ..
    · rfl
  | cube spin => exact spin.sketch_draw trig first
  | space field => exact field.sketch_draw first

theorem ArtState.pictures_draw (trig : Trigonometry) (first : Bool) (art : ArtState) :
    Pictures (art.draw trig first).1 :=
  (art.sketch_draw trig first).pictures

theorem Dashboard.pictures_drawFirst (dashboard : Dashboard) : Pictures dashboard.drawFirst := by
  unfold drawFirst
  split <;> rfl

theorem Dashboard.pictures_drawLeds (leds : LockLeds) : Pictures (drawLeds leds) := by
  unfold drawLeds
  split <;> split <;> rfl

theorem Menu.pictures_draw (menu : Menu) : Pictures menu.draw := by
  unfold draw drawScrollBar drawRow
  split <;> simp [Pictures, isPicture]

theorem Bar.pictures_draw (value limit : Nat) : Pictures (Bar.draw value limit) := by
  simp [Pictures, Bar.draw, isPicture]

theorem Bar.pictures_drawWithValue (value limit : Nat) :
    Pictures (Bar.drawWithValue value limit) := by
  simp [Pictures, Bar.drawWithValue, Bar.draw, isPicture]

theorem SliderKind.pictures_draw (settings : Settings) (kind : SliderKind) :
    Pictures (kind.draw settings) := by
  refine .append rfl ?_
  split
  · exact Bar.pictures_draw ..
  · exact Bar.pictures_drawWithValue ..

namespace PomodoroScreen

theorem pictures_drawFirst (phase : Pomodoro.Phase) : Pictures (drawFirst phase) := by
  cases phase <;> rfl

theorem pictures_drawTimer (now : Millis) (before : Pomodoro.Phase) (timer : Pomodoro) :
    Pictures (drawTimer now before timer) := by
  have h (seconds : Nat) : (drawClock seconds).all isPicture = true := by
    unfold drawClock
    split <;> rfl
  unfold drawTimer
  cases timer.phase <;> simp only <;> (try split) <;> simp [Pictures, isPicture, h]

theorem keepsPower_drawEffects (inverted : Bool) (effects : Pomodoro.Effects) :
    KeepsPower (drawEffects inverted effects) := by
  unfold drawEffects
  split <;> split <;> rfl

end PomodoroScreen

theorem Screen.pictures_helpText : Pictures helpText := rfl

end

end KnobPanel
