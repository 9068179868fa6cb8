import KnobPanel.Art.BongoCat
import KnobPanel.Proofs.PanelPixels
import Mathlib.Data.List.DropRight

/-!
# Paws over the idle cat

Since the last idle picture nothing was drawn of the cat but the paw of the shown pose.
So the pose alone tells what is to be seen, whatever was drawn before.
-/

namespace KnobPanel

-- ---------------------------------------------------------------------------
-- Images
-- ---------------------------------------------------------------------------

structure ImageAt where
  x : Nat
  page : Nat
  image : Image
  deriving DecidableEq

namespace Panel

def imageAt? (panel : Panel) : DrawOp → Option ImageAt
  | .image image => some ⟨panel.x, panel.page.val, image⟩
  | _ => none

def images (panel : Panel) : List DrawOp → List ImageAt
  | [] => []
  | op :: ops => (panel.imageAt? op).toList ++ (panel.apply op).images ops

theorem images_append (first second : List DrawOp) (panel : Panel) :
    panel.images (first ++ second) = panel.images first ++ (panel.run first).images second := by
  induction first generalizing panel with
  | nil => rfl
  | cons op first ih =>
    rw [List.cons_append, images, images, ih, List.append_assoc]
    rfl

end Panel

-- ---------------------------------------------------------------------------
-- One call
-- ---------------------------------------------------------------------------

/-- What a pose lays over the idle cat. -/
def Pose.overlay : Pose → List ImageAt
  | up => []
  | left => [⟨68, 2, .bongoLeft⟩]
  | right => [⟨89, 3, .bongoRight⟩]
  | both => [⟨78, 3, .bongoBoth⟩]

def KeyEvent.pose (event : KeyEvent) : Pose := if event.pressed then .ofKey event.key else .up

namespace BongoCat

def idleAt : ImageAt := ⟨64, 2, .bongoUp⟩

theorem images_drawIdle (panel : Panel) : panel.images drawIdle = [idleAt] := rfl

theorem images_drawPaw (pose : Pose) (panel : Panel) :
    panel.images (drawPaw pose) = pose.overlay := by
  cases pose <;> rfl

def isOverlay (drawn : ImageAt) : Bool := drawn.image != .bongoUp

theorem isOverlay_idleAt : isOverlay idleAt = false := rfl

def overlay (cat : BongoCat) : List ImageAt :=
  match cat.shown with
  | none => []
  | some pose => pose.overlay

/-- The images drawn so far make up the cat: they begin with an idle picture, and over
the last one lies what the pose asks for. -/
structure Overlaid (images : List ImageAt) (cat : BongoCat) : Prop where
  first : (images = [] ∧ cat.shown = none) ∨ ∃ later, images = idleAt :: later
  atop : images.rtakeWhile isOverlay = cat.overlay

variable {images : List ImageAt} {cat : BongoCat}

theorem overlaid_start : Overlaid [] {} := ⟨.inl ⟨rfl, rfl⟩, rfl⟩

theorem rtakeWhile_idle (images : List ImageAt) :
    (images ++ [idleAt]).rtakeWhile isOverlay = [] :=
  List.rtakeWhile_concat_neg _ _ _ (by simp [isOverlay_idleAt])

theorem rtakeWhile_paw (bare : images.rtakeWhile isOverlay = []) (pose : Pose) :
    (images ++ pose.overlay).rtakeWhile isOverlay = pose.overlay := by
  cases pose with
  | up => simpa only [Pose.overlay, List.append_nil] using bare
  | _ => exact (List.rtakeWhile_concat_pos _ _ _ rfl).trans (congrArg (· ++ _) bare)

theorem Overlaid.redraw (overlaid : Overlaid images cat) (pose : Pose) :
    Overlaid (images ++ [idleAt] ++ pose.overlay) { shown := some pose } where
  first := by
    obtain ⟨rfl, -⟩ | ⟨later, rfl⟩ := overlaid.first
    · exact .inr ⟨_, rfl⟩
    · exact .inr ⟨_, rfl⟩
  atop := rtakeWhile_paw (rtakeWhile_idle images) pose

theorem Overlaid.addPaw (overlaid : Overlaid images cat) (idle : cat.shown = some .up)
    (pose : Pose) :
    Overlaid (images ++ pose.overlay) { shown := some pose } where
  first := by
    obtain ⟨-, absent⟩ | ⟨later, rfl⟩ := overlaid.first
    · cases absent.symm.trans idle
    · exact .inr ⟨_, rfl⟩
  atop := by
    have bare : cat.overlay = [] := by
      rw [overlay, idle]
      rfl
    exact rtakeWhile_paw (overlaid.atop.trans bare) pose

theorem strike_of_shown {pose : Pose} (shown : cat.shown = some pose) :
    cat.strike pose = ([], cat) :=
  if_pos shown

theorem shown_strike (pose : Pose) (cat : BongoCat) : (cat.strike pose).2.shown = some pose := by
  by_cases shown : cat.shown = some pose
  · rwa [strike_of_shown shown]
  · rw [strike, if_neg shown]

theorem Overlaid.strike (overlaid : Overlaid images cat) (pose : Pose) (panel : Panel) :
    Overlaid (images ++ panel.images (cat.strike pose).1) (cat.strike pose).2 := by
  by_cases shown : cat.shown = some pose
  case pos =>
    rw [strike_of_shown shown]
    simpa only [Panel.images, List.append_nil] using overlaid
  case neg =>
    rw [BongoCat.strike, if_neg shown]
    by_cases through : pose = .up ∨ cat.shown ≠ some .up
    case pos =>
      simp only [if_pos through, Panel.images_append, images_drawIdle, images_drawPaw,
        ← List.append_assoc]
      exact overlaid.redraw pose
    case neg =>
      obtain ⟨-, idle⟩ := not_or.mp through
      simp only [if_neg through, List.nil_append, images_drawPaw]
      exact overlaid.addPaw (not_not.mp idle) pose

-- ---------------------------------------------------------------------------
-- Many calls
-- ---------------------------------------------------------------------------

inductive Call where
  | draw (first : Bool)
  | key (event : KeyEvent)

def call (cat : BongoCat) : Call → List DrawOp × BongoCat
  | .draw first => cat.draw first
  | .key event => cat.onKey event

def run (cat : BongoCat) : List Call → List DrawOp × BongoCat
  | [] => ([], cat)
  | first :: calls =>
    let others := (cat.call first).2.run calls
    ((cat.call first).1 ++ others.1, others.2)

theorem Overlaid.call (overlaid : Overlaid images cat) (call : Call) (panel : Panel) :
    Overlaid (images ++ panel.images (cat.call call).1) (cat.call call).2 := by
  cases call with
  | key event => exact overlaid.strike _ panel
  | draw first =>
    cases first with
    | false =>
      have nothing : images ++ panel.images (cat.call (.draw false)).1 = images :=
        List.append_nil images
      rw [nothing]
      exact overlaid
    | true =>
      have redrawn := overlaid.redraw .up
      rwa [List.append_assoc] at redrawn

theorem Overlaid.run (overlaid : Overlaid images cat) (calls : List Call) (panel : Panel) :
    Overlaid (images ++ panel.images (cat.run calls).1) (cat.run calls).2 := by
  induction calls generalizing images cat panel with
  | nil => simpa only [BongoCat.run, Panel.images, List.append_nil] using overlaid
  | cons call calls ih =>
    have rest := ih (overlaid.call call panel) (panel.run (cat.call call).1)
    rwa [List.append_assoc, ← Panel.images_append] at rest

theorem Overlaid.takeWhile_eq_nil (overlaid : Overlaid images cat) :
    images.takeWhile isOverlay = [] := by
  obtain ⟨rfl, -⟩ | ⟨later, rfl⟩ := overlaid.first
  · rfl
  · exact List.takeWhile_cons_of_neg (by simp [isOverlay_idleAt])

/-- Whatever is asked of the cat from the start, nothing lies under its first idle picture,
and over its last one lies the paw of the shown pose and nothing else. A key event leads
to its pose, and draws nothing if that is shown; nor does a frame that is not the first. -/
theorem overlaid_run (calls : List Call) (panel : Panel) :
    (panel.images (run {} calls).1).takeWhile isOverlay = [] ∧
      (panel.images (run {} calls).1).rtakeWhile isOverlay = (run {} calls).2.overlay ∧
      ∀ cat : BongoCat, (cat.draw false).1 = [] ∧
        ∀ event : KeyEvent,
          (cat.onKey event).2.shown = some event.pose ∧
            (cat.shown = some event.pose → (cat.onKey event).1 = []) := by
  have overlaid := overlaid_start.run calls panel
  refine ⟨overlaid.takeWhile_eq_nil, overlaid.atop, fun cat => ⟨rfl, fun event => ?_⟩⟩
  exact ⟨shown_strike event.pose cat, fun shown => congrArg Prod.fst (strike_of_shown shown)⟩

end BongoCat

end KnobPanel
