import KnobPanel.Proofs.CheckedArt
import KnobPanel.Proofs.PanelPixels

/-!
# Frames of the star field

A frame first takes away what the one before it drew. So no star leaves a trace: on a
panel that was dark, the lit pixels are those of the stars where they are now.
-/

namespace KnobPanel

-- ---------------------------------------------------------------------------
-- Pixels on the panel
-- ---------------------------------------------------------------------------

def pixels (lit : Bool) (points : List Point) : List DrawOp :=
  points.map fun point => .pixel point.x point.y lit

def DrawOp.InPanel (op : DrawOp) : Prop :=
  ∃ x y lit, op = .pixel x y lit ∧ Frame.Inside x y

theorem inPanel_pixels {lit : Bool} {points : List Point}
    (inside : ∀ point ∈ points, Frame.Inside point.x point.y) :
    ∀ op ∈ pixels lit points, op.InPanel := by
  intro op found
  obtain ⟨point, among, rfl⟩ := List.mem_map.mp found
  exact ⟨_, _, _, rfl, inside point among⟩

namespace Panel

def Dark (panel : Panel) : Prop := ∀ x y, panel.frame.lit x y = false

theorem lit_run_pixels (lit : Bool) (points : List Point) (panel : Panel) (x y : Int) :
    (panel.run (pixels lit points)).frame.lit x y =
      if Frame.Inside x y ∧ ⟨x, y⟩ ∈ points then lit else panel.frame.lit x y := by
  have drawn : pixels lit points =
      (points.map fun point => (point.x, point.y, lit)).map
        fun pixel => .pixel pixel.1 pixel.2.1 pixel.2.2 := by
    rw [List.map_map]
    rfl
  have painted (x y : Int) (value : Bool) :
      (x, y, value) ∈ points.map (fun point => (point.x, point.y, lit)) ↔
        (⟨x, y⟩ : Point) ∈ points ∧ value = lit := by
    simp only [List.mem_map, Prod.mk.injEq]
    constructor
    · rintro ⟨point, among, rfl, rfl, rfl⟩
      exact ⟨among, rfl⟩
    · rintro ⟨among, rfl⟩
      exact ⟨_, among, rfl, rfl, rfl⟩
  rw [drawn, frame_run_pixels]
  exact Frame.lit_paint_of_iff painted _

end Panel

-- ---------------------------------------------------------------------------
-- Stars
-- ---------------------------------------------------------------------------

namespace Star

def places (star : Star) : List Point :=
  let x := 64 + star.dx
  let y := 32 + star.dy
  if star.isNear then [⟨x, y⟩]
  else [⟨x - 1, y⟩, ⟨x, y⟩, ⟨x + 1, y⟩, ⟨x, y - 1⟩, ⟨x, y + 1⟩]

theorem plot_eq (lit : Bool) (star : Star) : star.plot lit = pixels lit star.places := by
  simp only [plot, places]
  split <;> rfl

/-- A star in its field, on its way outwards. -/
structure Flying (star : Star) : Prop extends star.Placed where
  speed_pos : 1 ≤ star.speed

theorem flying_random (seed : StarSeed) : (random seed).1.Flying :=
  ⟨placed_random seed, Nat.le_max_right ..⟩

theorem Flying.advance {star : Star} (flying : star.Flying) (seed : StarSeed) :
    (star.advance seed).1.Flying := by
  refine ⟨flying.toPlaced.advance seed, ?_⟩
  rw [advance_eq]
  split
  · exact (flying_random seed).speed_pos
  · exact flying.speed_pos

theorem Placed.inside {star : Star} (placed : star.Placed) :
    ∀ point ∈ star.places, Frame.Inside point.x point.y := by
  obtain ⟨-, -, -, across, down⟩ := placed
  simp only [farX, farY] at across down
  intro point found
  simp only [places] at found
  split at found
  · obtain rfl := List.mem_singleton.mp found
    refine ⟨?_, ?_, ?_, ?_⟩ <;> simp only <;> omega
  · simp only [List.mem_cons, List.not_mem_nil, or_false] at found
    rcases found with rfl | rfl | rfl | rfl | rfl <;> refine ⟨?_, ?_, ?_, ?_⟩ <;> simp only <;>
      omega

end Star

-- ---------------------------------------------------------------------------
-- Fields
-- ---------------------------------------------------------------------------

namespace StarField

def places (field : StarField) : List Point := field.stars.flatMap Star.places

theorem flatMap_plot (lit : Bool) (field : StarField) :
    field.stars.flatMap (Star.plot lit) = pixels lit field.places := by
  rw [pixels, places, List.map_flatMap]
  exact congrArg field.stars.flatMap (funext (Star.plot_eq lit))

theorem draw_first (field : StarField) :
    (field.draw true).1 = pixels true (field.draw true).2.places :=
  flatMap_plot true (field.draw true).2

theorem draw_other (field : StarField) :
    (field.draw false).1 =
      pixels false field.places ++ pixels true (field.draw false).2.places := by
  rw [← flatMap_plot, ← flatMap_plot]
  rfl

variable {field : StarField} {panel : Panel}

def Flying (field : StarField) : Prop := ∀ star ∈ field.stars, star.Flying

theorem flying_first (field : StarField) : (field.draw true).2.Flying :=
  forall_advance (fun _ seed flying => flying.advance seed)
    (forall_respawn Star.flying_random _ _) _

theorem Flying.draw (flying : field.Flying) : (field.draw false).2.Flying :=
  forall_advance (fun _ seed flying => flying.advance seed) flying _

theorem Flying.inside (flying : field.Flying) :
    ∀ point ∈ field.places, Frame.Inside point.x point.y := by
  intro point found
  obtain ⟨star, among, shown⟩ := List.mem_flatMap.mp found
  exact (flying star among).inside point shown

def ShownOn (panel : Panel) (field : StarField) : Prop :=
  ∀ x y, panel.frame.lit x y = true ↔ ∃ star ∈ field.stars, ⟨x, y⟩ ∈ star.places

theorem shownOn_iff :
    field.ShownOn panel ↔ ∀ x y, panel.frame.lit x y = true ↔ ⟨x, y⟩ ∈ field.places := by
  simp only [ShownOn, places, List.mem_flatMap]

theorem Flying.shownOn (flying : field.Flying) (dark : panel.Dark) :
    field.ShownOn (panel.run (pixels true field.places)) := by
  rw [shownOn_iff]
  intro x y
  rw [Panel.lit_run_pixels, dark x y]
  have inside := flying.inside ⟨x, y⟩
  constructor
  · intro lit
    split at lit
    case isTrue both => exact both.2
    case isFalse => cases lit
  · intro shown
    exact if_pos ⟨inside shown, shown⟩

theorem ShownOn.erase (shown : field.ShownOn panel) (flying : field.Flying) :
    (panel.run (pixels false field.places)).Dark := by
  rw [shownOn_iff] at shown
  intro x y
  rw [Panel.lit_run_pixels]
  by_cases among : ⟨x, y⟩ ∈ field.places
  · exact if_pos ⟨flying.inside ⟨x, y⟩ among, among⟩
  · rw [if_neg fun both => among both.2, ← Bool.not_eq_true, shown]
    exact among

-- ---------------------------------------------------------------------------
-- Films
-- ---------------------------------------------------------------------------

/-- All that a fresh field draws in its first frame and in so many others, and the field
after that. -/
def film (seed : UInt32) : Nat → List DrawOp × StarField
  | 0 => (ofSeed seed).draw true
  | frames + 1 =>
    let before := film seed frames
    let next := before.2.draw false
    (before.1 ++ next.1, next.2)

def film? (seed : UInt32) : Nat → Option (List DrawOp × StarField)
  | 0 => (ofSeed seed).draw? true
  | frames + 1 => do
    let before ← film? seed frames
    let next ← before.2.draw? false
    some (before.1 ++ next.1, next.2)

theorem ready_film (seed : UInt32) (frames : Nat) : (film seed frames).2.Ready false := by
  induction frames with
  | zero => exact (ready_ofSeed seed).draw
  | succ frames ih => exact ih.draw

theorem film?_eq (seed : UInt32) (frames : Nat) : film? seed frames = some (film seed frames) := by
  induction frames with
  | zero => exact draw?_eq (ready_ofSeed seed)
  | succ frames ih => simp [film?, film, ih, draw?_eq (ready_film seed frames)]

/-- A film up to some frame: where its stars are, and what it has drawn. -/
structure Clean (panel : Panel) (drawn : List DrawOp) (field : StarField) : Prop where
  flying : field.Flying
  inPanel : ∀ op ∈ drawn, op.InPanel
  shown : field.ShownOn (panel.run drawn)
  /-- The pixels that the last frame ends with are those that the next one takes off first. -/
  drew : pixels true field.places <:+ drawn
  erases : pixels false field.places <+: (field.draw false).1
  erased : (panel.run (drawn ++ pixels false field.places)).Dark

theorem clean_of_shown {drawn : List DrawOp} (flying : field.Flying)
    (inPanel : ∀ op ∈ drawn, op.InPanel) (shown : field.ShownOn (panel.run drawn))
    (drew : pixels true field.places <:+ drawn) : Clean panel drawn field where
  flying := flying
  inPanel := inPanel
  shown := shown
  drew := drew
  erases := draw_other _ ▸ List.prefix_append ..
  erased := Panel.run_append .. ▸ shown.erase flying

theorem clean_first (dark : panel.Dark) (field : StarField) :
    Clean panel (field.draw true).1 (field.draw true).2 := by
  have flying := field.flying_first
  rw [draw_first]
  exact clean_of_shown flying (inPanel_pixels flying.inside) (flying.shownOn dark)
    (List.suffix_refl _)

theorem Clean.draw {drawn : List DrawOp} (clean : Clean panel drawn field) :
    Clean panel (drawn ++ (field.draw false).1) (field.draw false).2 := by
  have flying := clean.flying.draw
  rw [draw_other, ← List.append_assoc]
  refine clean_of_shown flying ?_ ?_ (List.suffix_append ..)
  · simp only [List.forall_mem_append]
    exact ⟨⟨clean.inPanel, inPanel_pixels clean.flying.inside⟩, inPanel_pixels flying.inside⟩
  · rw [Panel.run_append]
    exact flying.shownOn clean.erased

/-- On a dark panel every frame shows the stars where they are, and nothing else; bytes
hold their places. -/
theorem film_clean (dark : panel.Dark) (seed : UInt32) (frames : Nat) :
    film? seed frames = some (film seed frames) ∧
      Clean panel (film seed frames).1 (film seed frames).2 := by
  refine ⟨film?_eq seed frames, ?_⟩
  induction frames with
  | zero => exact clean_first dark _
  | succ frames ih => exact ih.draw

theorem film_clean_fresh :
    ({} : Panel).Dark ∧ film? 7 500 = some (film 7 500) ∧
      Clean {} (film 7 500).1 (film 7 500).2 := by
  have dark : ({} : Panel).Dark := Frame.lit_dark
  exact ⟨dark, film_clean dark 7 500⟩

end StarField

end KnobPanel
