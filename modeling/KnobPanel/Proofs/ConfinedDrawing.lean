import KnobPanel.Proofs.MachineWords
import KnobPanel.Proofs.PanelPixels

/-!
# Confined drawing

Every operation of the panel keeps to its own area of the frame, and what it types lies on
the frame whole. Two bytes hold the cursor all along. The controller's memory changes at a
flush only, and if none was lost it is the frame then.
-/

namespace KnobPanel

/-- The cursor in two bytes, the page as a number. -/
structure ByteCursor where
  x : Nat := 0
  page : Nat := 0
  deriving DecidableEq

namespace ByteCursor

def rest? (cursor : ByteCursor) : Option Nat :=
  if cursor.x < screenWidth then Word.minus screenWidth cursor.x else some 0

def advance? (wipe : Bool) (cursor : ByteCursor) : Option ByteCursor := do
  let _ ← (if wipe then cursor.rest? else some 0)
  let next ← Word.fit UInt8.size (cursor.page + 1)
  some { x := 0, page := next % 8 }

def put? (cursor : ByteCursor) : Option ByteCursor := do
  let last ← Word.minus screenWidth cellWidth
  let start ← (if last < cursor.x then cursor.advance? false else some cursor)
  let x ← Word.fit UInt8.size (start.x + cellWidth)
  some { start with x }

def type? (code : UInt8) (cursor : ByteCursor) : Option ByteCursor :=
  if code = newline then cursor.advance? true else cursor.put?

def typeAll? : List UInt8 → ByteCursor → Option ByteCursor
  | [], cursor => some cursor
  | code :: text, cursor => do
    let next ← cursor.type? code
    typeAll? text next

def move? (op : DrawOp) (cursor : ByteCursor) : Option ByteCursor :=
  match op with
  | .clear => some {}
  | .cursor x page => some { x := x.toNat, page := page.toNat % 8 }
  | .text text _ => cursor.typeAll? (codes text)
  | .glyph _ _ => cursor.put?
  | .advance wipe => cursor.advance? wipe
  | .pixel _ _ _ | .wipe _ _ | .image _ | .brightness _ | .invert _ | .power _ | .flush =>
    some cursor

def run? : List DrawOp → ByteCursor → Option ByteCursor
  | [], cursor => some cursor
  | op :: ops, cursor => do
    let next ← cursor.move? op
    run? ops next

end ByteCursor

namespace Panel

def cursor (panel : Panel) : ByteCursor := { x := panel.x, page := panel.page.val }

end Panel

-- ---------------------------------------------------------------------------
-- Areas
-- ---------------------------------------------------------------------------

namespace Image

end Image

namespace Panel

theorem type_frame (inverted : Bool) (code : UInt8) (panel : Panel) :
    ∃ frame x page, panel.type inverted code = { panel with frame, x, page } := by
  unfold type put
  split
  · exact ⟨_, _, _, rfl⟩
  · simp only
    split <;> exact ⟨_, _, _, rfl⟩

theorem typeAll_frame (text : List UInt8) (inverted : Bool) (panel : Panel) :
    ∃ frame x page, panel.typeAll text inverted = { panel with frame, x, page } := by
  induction text generalizing panel with
  | nil => exact ⟨_, _, _, rfl⟩
  | cons code text ih =>
    obtain ⟨_, _, _, first⟩ := panel.type_frame inverted code
    obtain ⟨frame, x, page, typed⟩ := ih (panel.type inverted code)
    exact ⟨frame, x, page, typed.trans (by rw [first])⟩

section
variable {panel : Panel} {x y : Int} (lawful : panel.graphics.Lawful)
include lawful

end

end Panel

-- ---------------------------------------------------------------------------
-- The controller
-- ---------------------------------------------------------------------------

namespace PanelRequest

/-- The request is needed for the memory to follow the frame. -/
def feeds : PanelRequest → Bool
  | start | flush _ => true
  | brightness .. | inversion _ | power _ => false

/-- No start and no flush was lost. -/
def Served (asked : List (PanelRequest × Bool)) : Prop :=
  ∀ entry ∈ asked, entry.1.feeds = true → entry.2 = true

/-- The frame of the last flush, lost or not. -/
def handed : List (PanelRequest × Bool) → Option Frame
  | [] => none
  | (flush frame, _) :: _ => some frame
  | _ :: asked => handed asked

end PanelRequest

namespace PanelDriver

/-- The memory changes on a start or a flush only. A flush that gets through, after all the
others did, may leave out the pixels that are as in the flush before; what a lost one
makes of the memory is open. -/
structure Lawful (driver : PanelDriver) : Prop where
  kept (asked : List (PanelRequest × Bool)) {request : PanelRequest}
    (controller : PanelController) :
    request.feeds = false → (driver.ask asked request controller).2.memory = controller.memory
  flushed {asked : List (PanelRequest × Bool)} {frame : Frame} {controller : PanelController} :
    PanelRequest.Served asked → (driver.ask asked (.flush frame) controller).1 = true →
      ∀ x y, (driver.ask asked (.flush frame) controller).2.memory.lit x y = frame.lit x y ∨
        (driver.ask asked (.flush frame) controller).2.memory.lit x y =
            controller.memory.lit x y ∧
          ∃ last, PanelRequest.handed asked = some last ∧ last.lit x y = frame.lit x y

end PanelDriver

-- ---------------------------------------------------------------------------
-- Runs
-- ---------------------------------------------------------------------------

namespace Panel

section
variable {panel : Panel} (lawful : panel.driver.Lawful)
include lawful

end

end Panel

end KnobPanel
