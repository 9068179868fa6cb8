import KnobPanel.Art.Segment
import KnobPanel.Proofs.MachineWords

/-!
# Lines in 16-bit words

A line is walked in as many steps as its longer axis has. Every step stays between the
ends, and as long as the line is no longer than `reach`, a word of 16 bits holds the error
at all times.
-/

namespace KnobPanel

structure Point.Short (point : Point) : Prop where
  left : -32768 ≤ point.x
  right : point.x < 32768
  top : -32768 ≤ point.y
  bottom : point.y < 32768

structure Point.OnScreen (point : Point) : Prop where
  left : 0 ≤ point.x
  right : point.x < screenWidth
  top : 0 ≤ point.y
  bottom : point.y < screenHeight

instance (point : Point) : Decidable point.OnScreen :=
  decidable_of_iff
    (0 ≤ point.x ∧ point.x < screenWidth ∧ 0 ≤ point.y ∧ point.y < screenHeight)
    ⟨fun ⟨left, right, top, bottom⟩ => ⟨left, right, top, bottom⟩,
      fun ⟨left, right, top, bottom⟩ => ⟨left, right, top, bottom⟩⟩

namespace Segment

/-- Extents up to this one leave room for the doubled error in 16 bits. -/
def reach : Nat := 8191

structure Fits (segment : Segment) : Prop where
  start : segment.start.Short
  stop : segment.stop.Short
  width_le : segment.width ≤ reach
  height_le : segment.height ≤ reach

theorem fits_of_onScreen {segment : Segment} (start : segment.start.OnScreen)
    (stop : segment.stop.OnScreen) : segment.Fits := by
  obtain ⟨_, right, _, bottom⟩ := start
  obtain ⟨_, right', _, bottom'⟩ := stop
  simp only [screenWidth, screenHeight] at right bottom right' bottom'
  have widthLe : segment.width ≤ reach := by
    simp only [width, reach]
    omega
  have heightLe : segment.height ≤ reach := by
    simp only [height, reach]
    omega
  exact ⟨⟨by omega, by omega, by omega, by omega⟩, ⟨by omega, by omega, by omega, by omega⟩,
    widthLe, heightLe⟩

structure Boxed (segment : Segment) (point : Point) : Prop where
  left : min segment.start.x segment.stop.x ≤ point.x
  right : point.x ≤ max segment.start.x segment.stop.x
  top : min segment.start.y segment.stop.y ≤ point.y
  bottom : point.y ≤ max segment.start.y segment.stop.y

open Word (fitSigned fitSigned_short)

-- ---------------------------------------------------------------------------
-- Walking with 16-bit words
-- ---------------------------------------------------------------------------

def next? (segment : Segment) (point : Point) (error : Int) : Option (Point × Int) := do
  let twice ← fitSigned Int16.size (2 * error)
  let across := -(segment.height : Int) ≤ twice
  let down := twice ≤ (segment.width : Int)
  let error ← if across then fitSigned Int16.size (error - segment.height) else some error
  let x ←
    if across then fitSigned Int16.size (point.x + direction segment.start.x segment.stop.x)
    else some point.x
  let error ← if down then fitSigned Int16.size (error + segment.width) else some error
  let y ←
    if down then fitSigned Int16.size (point.y + direction segment.start.y segment.stop.y)
    else some point.y
  some (⟨x, y⟩, error)

/-- The walk to the end; a walk that has not come there after so many steps has no
result. -/
def walk? (segment : Segment) : Nat → Point → Int → Option (List Point)
  | 0, point, _ => if point = segment.stop then some [point] else none
  | steps + 1, point, error =>
    if point = segment.stop then
      some [point]
    else do
      let after ← segment.next? point error
      let others ← segment.walk? steps after.1 after.2
      some (point :: others)

def points? (segment : Segment) : Option (List Point) := do
  let _ ← fitSigned Int16.size (segment.stop.x - segment.start.x)
  let width ← fitSigned Int16.size segment.width
  let _ ← fitSigned Int16.size (segment.stop.y - segment.start.y)
  let height ← fitSigned Int16.size segment.height
  let lowered ← fitSigned Int16.size (-height)
  let error ← fitSigned Int16.size (width + lowered)
  segment.walk? (max segment.width segment.height) segment.start error

def draw? (segment : Segment) : Option (List DrawOp) := do
  let points ← segment.points?
  some (points.map fun point => .pixel point.x point.y true)

-- ---------------------------------------------------------------------------
-- The error
-- ---------------------------------------------------------------------------

/-- Where a walk is after `across` steps along one axis and `down` steps along the
other. The error weighs the two against each other, and stays in bounds that the
longer axis sets. -/
structure Along (segment : Segment) (across down : Nat) (point : Point) (error : Int) : Prop where
  x : point.x = segment.start.x + across * direction segment.start.x segment.stop.x
  y : point.y = segment.start.y + down * direction segment.start.y segment.stop.y
  weight : error = (segment.width : Int) + segment.width * down -
    (segment.height + segment.height * across)
  low : min (-segment.height : Int) (2 * segment.width - 3 * segment.height) ≤ 2 * error
  high : 2 * error ≤ max (segment.width : Int) (3 * segment.width - 2 * segment.height)

def After (segment : Segment) (steps : Nat) (point : Point) (error : Int) : Prop :=
  ∃ across down, segment.Along across down point error ∧
    (segment.height ≤ segment.width → across = steps) ∧
    (segment.width ≤ segment.height → down = steps)

variable {segment : Segment} {steps across down : Nat} {point : Point} {error : Int}

theorem after_start (segment : Segment) :
    segment.After 0 segment.start ((segment.width : Int) - segment.height) := by
  refine ⟨0, 0, ⟨by simp, by simp, by simp, ?_, ?_⟩, fun _ => rfl, fun _ => rfl⟩ <;> omega

theorem Along.next (along : segment.Along across down point error) :
    (-(segment.height : Int) ≤ 2 * error ∨ 2 * error ≤ segment.width) ∧
      segment.Along
        (if -(segment.height : Int) ≤ 2 * error then across + 1 else across)
        (if 2 * error ≤ (segment.width : Int) then down + 1 else down)
        (segment.next point error).1 (segment.next point error).2 := by
  obtain ⟨x, y, weight, low, high⟩ := along
  refine ⟨by omega, ?_, ?_, ?_, ?_, ?_⟩
  · simp only [Segment.next]
    split <;> simp only [x, Int.natCast_add, Int.add_mul]
    omega
  · simp only [Segment.next]
    split <;> simp only [y, Int.natCast_add, Int.add_mul]
    omega
  · simp only [Segment.next]
    split <;> split <;> simp only [weight, Int.natCast_add, Int.mul_add] <;> omega
  · simp only [Segment.next]
    split <;> split <;> omega
  · simp only [Segment.next]
    split <;> split <;> omega

theorem After.next (after : segment.After steps point error) :
    segment.After (steps + 1) (segment.next point error).1 (segment.next point error).2 := by
  obtain ⟨across, down, along, wide, high⟩ := after
  refine ⟨_, _, along.next.2, fun wider => ?_, fun higher => ?_⟩
  · rw [if_pos, wide wider]
    have := along.low
    omega
  · rw [if_pos, high higher]
    have := along.high
    omega

theorem Along.within (along : segment.Along across down point error)
    (wide : segment.height ≤ segment.width → across ≤ segment.width)
    (high : segment.width ≤ segment.height → down ≤ segment.height) :
    across ≤ segment.width ∧ down ≤ segment.height := by
  obtain ⟨-, -, weight, lower, upper⟩ := along
  have area := Int.mul_comm segment.width segment.height
  by_cases wider : segment.height ≤ segment.width
  case pos =>
    -- a step too many down would leave the error above its bound
    refine ⟨wide wider, Nat.le_of_not_lt fun beyond => ?_⟩
    have far : (segment.width : Int) * (segment.height + 1) ≤ segment.width * down :=
      Int.mul_le_mul_of_nonneg_left (by omega) (by omega)
    have near : (segment.height : Int) * across ≤ segment.height * segment.width :=
      Int.mul_le_mul_of_nonneg_left (by have := wide wider; omega) (by omega)
    simp only [Int.mul_add] at far
    omega
  case neg =>
    -- a step too many across would leave it below
    refine ⟨Nat.le_of_not_lt fun beyond => ?_, high (by omega)⟩
    have far : (segment.height : Int) * (segment.width + 1) ≤ segment.height * across :=
      Int.mul_le_mul_of_nonneg_left (by omega) (by omega)
    have near : (segment.width : Int) * down ≤ segment.width * segment.height :=
      Int.mul_le_mul_of_nonneg_left (by have := high (by omega); omega) (by omega)
    simp only [Int.mul_add] at far
    omega

theorem Along.ended (along : segment.Along across down point error)
    (wide : segment.height ≤ segment.width → across = segment.width)
    (high : segment.width ≤ segment.height → down = segment.height) :
    across = segment.width ∧ down = segment.height := by
  obtain ⟨acrossLe, downLe⟩ :=
    along.within (fun wider => Nat.le_of_eq (wide wider)) fun higher => Nat.le_of_eq (high higher)
  obtain ⟨-, -, weight, lower, upper⟩ := along
  have area := Int.mul_comm segment.width segment.height
  by_cases wider : segment.height ≤ segment.width
  case pos =>
    refine ⟨wide wider, Nat.le_antisymm downLe (Nat.le_of_not_lt fun short => ?_)⟩
    have near : (segment.width : Int) * (down + 1) ≤ segment.width * segment.height :=
      Int.mul_le_mul_of_nonneg_left (by omega) (by omega)
    rw [wide wider] at weight
    simp only [Int.mul_add] at near
    omega
  case neg =>
    refine ⟨Nat.le_antisymm acrossLe (Nat.le_of_not_lt fun short => ?_), high (by omega)⟩
    have near : (segment.height : Int) * (across + 1) ≤ segment.height * segment.width :=
      Int.mul_le_mul_of_nonneg_left (by omega) (by omega)
    rw [high (by omega)] at weight
    simp only [Int.mul_add] at near
    omega

-- ---------------------------------------------------------------------------
-- The walk
-- ---------------------------------------------------------------------------

theorem direction_cases (start stop : Int) :
    direction start stop = 1 ∨ direction start stop = -1 := by
  unfold direction
  split <;> simp

theorem start_add_width (segment : Segment) :
    segment.start.x + segment.width * direction segment.start.x segment.stop.x =
      segment.stop.x := by
  simp only [width, direction]
  split <;> omega

theorem start_add_height (segment : Segment) :
    segment.start.y + segment.height * direction segment.start.y segment.stop.y =
      segment.stop.y := by
  simp only [height, direction]
  split <;> omega

theorem After.eq_stop_iff (after : segment.After steps point error)
    (le : steps ≤ max segment.width segment.height) :
    point = segment.stop ↔ steps = max segment.width segment.height := by
  obtain ⟨across, down, along, wide, high⟩ := after
  constructor
  · rintro rfl
    have x := along.x.symm.trans segment.start_add_width.symm
    have y := along.y.symm.trans segment.start_add_height.symm
    have acrossEq : across = segment.width := by
      rcases direction_cases segment.start.x segment.stop.x with dir | dir <;> rw [dir] at x <;>
        omega
    have downEq : down = segment.height := by
      rcases direction_cases segment.start.y segment.stop.y with dir | dir <;> rw [dir] at y <;>
        omega
    omega
  · intro last
    obtain ⟨acrossEq, downEq⟩ := along.ended (by omega) (by omega)
    have x := along.x
    have y := along.y
    rw [acrossEq, start_add_width] at x
    rw [downEq, start_add_height] at y
    cases point
    exact congr (congrArg Point.mk x) y

theorem After.boxed (after : segment.After steps point error)
    (le : steps ≤ max segment.width segment.height) : segment.Boxed point := by
  obtain ⟨across, down, along, wide, high⟩ := after
  obtain ⟨acrossLe, downLe⟩ := along.within (by omega) (by omega)
  have stopX := segment.start_add_width
  have stopY := segment.start_add_height
  have x := along.x
  have y := along.y
  rcases direction_cases segment.start.x segment.stop.x with dirX | dirX <;>
    rcases direction_cases segment.start.y segment.stop.y with dirY | dirY <;>
    rw [dirX] at x stopX <;> rw [dirY] at y stopY <;> constructor <;> omega

-- ---------------------------------------------------------------------------
-- Words suffice
-- ---------------------------------------------------------------------------

variable (fits : segment.Fits)
include fits

theorem Boxed.short (boxed : segment.Boxed point) : point.Short := by
  obtain ⟨left, right, top, bottom⟩ := boxed
  obtain ⟨⟨_, _, _, _⟩, ⟨_, _, _, _⟩, -, -⟩ := fits
  exact ⟨by omega, by omega, by omega, by omega⟩

theorem After.next?_eq (after : segment.After steps point error)
    (lt : steps < max segment.width segment.height) :
    segment.next? point error = some (segment.next point error) := by
  -- the pixel that the step goes to lies between the ends, too
  obtain ⟨left, right, top, bottom⟩ := (after.next.boxed lt).short fits
  obtain ⟨across, down, along, -, -⟩ := after
  have low := along.low
  have high := along.high
  have widthLe := fits.width_le
  have heightLe := fits.height_le
  simp only [reach] at widthLe heightLe
  have twice : fitSigned Int16.size (2 * error) = some (2 * error) :=
    fitSigned_short (by omega) (by omega)
  have lowered : fitSigned Int16.size (error - segment.height) = some (error - segment.height) :=
    fitSigned_short (by omega) (by omega)
  have raised : fitSigned Int16.size (error + segment.width) = some (error + segment.width) :=
    fitSigned_short (by omega) (by omega)
  have both : fitSigned Int16.size (error - segment.height + segment.width) =
      some (error - segment.height + segment.width) :=
    fitSigned_short (by omega) (by omega)
  by_cases across : -(segment.height : Int) ≤ 2 * error <;>
    by_cases down : 2 * error ≤ (segment.width : Int) <;>
    simp only [Segment.next, across, down, ↓reduceIte] at left right top bottom <;>
    simp [next?, Segment.next, twice, lowered, raised, both, fitSigned_short left right,
      fitSigned_short top bottom, across, down]

theorem After.walk?_eq (after : segment.After steps point error) {rest : Nat}
    (sum : steps + rest = max segment.width segment.height) :
    segment.walk? rest point error = some (segment.walk rest point error) := by
  induction rest generalizing steps point error with
  | zero =>
    -- all steps are made, so the walk has to be at its end
    have ended := (after.eq_stop_iff (Nat.le_of_eq sum)).mpr sum
    exact if_pos ended
  | succ rest ih =>
    by_cases ended : point = segment.stop
    case pos => rw [walk?, walk, if_pos ended, if_pos ended]
    case neg =>
      have others := ih after.next (by omega)
      rw [walk?, walk, if_neg ended, if_neg ended, after.next?_eq fits (by omega)]
      exact congrArg (Option.bind · fun others => some (point :: others)) others

theorem points?_eq : segment.points? = some segment.points := by
  have walked := segment.after_start.walk?_eq fits (Nat.zero_add _)
  have widthLe := fits.width_le
  have heightLe := fits.height_le
  simp only [reach] at widthLe heightLe
  have across : fitSigned Int16.size (segment.stop.x - segment.start.x) =
      some (segment.stop.x - segment.start.x) := by
    simp only [width] at widthLe
    exact fitSigned_short (by omega) (by omega)
  have down : fitSigned Int16.size (segment.stop.y - segment.start.y) =
      some (segment.stop.y - segment.start.y) := by
    simp only [height] at heightLe
    exact fitSigned_short (by omega) (by omega)
  have width : fitSigned Int16.size (segment.width : Int) = some (segment.width : Int) :=
    fitSigned_short (by omega) (by omega)
  have height : fitSigned Int16.size (segment.height : Int) = some (segment.height : Int) :=
    fitSigned_short (by omega) (by omega)
  have lowered : fitSigned Int16.size (-(segment.height : Int)) = some (-(segment.height : Int)) :=
    fitSigned_short (by omega) (by omega)
  have error : fitSigned Int16.size ((segment.width : Int) + -segment.height) =
      some ((segment.width : Int) + -segment.height) := fitSigned_short (by omega) (by omega)
  rw [Int.sub_eq_add_neg] at walked
  simp only [points?, across, down, width, height, lowered, error, Option.bind_eq_bind,
    Option.bind_some]
  exact walked

theorem draw?_eq : segment.draw? = some segment.draw := by
  rw [draw?, points?_eq fits]
  rfl

end Segment

end KnobPanel
