import KnobPanel.Proofs.LineWalk
import Mathlib.Algebra.Order.Field.Rat
import Mathlib.Algebra.Order.Field.Basic
import Mathlib.Tactic.FieldSimp
import Mathlib.Tactic.Ring
import Mathlib.Tactic.Linarith

/-!
# The shape of lines

The pixels of a line lead from end to end without a gap or a turn, and none of them is
more than half a pixel off the straight line.
-/

namespace KnobPanel.Segment

-- ---------------------------------------------------------------------------
-- The loop
-- ---------------------------------------------------------------------------

/-- The loop in 16-bit words, with no bound on its steps: it writes a pixel, and goes on
unless that was the end. A step without a result ends in nothing. -/
inductive Loops (segment : Segment) : Point → Int → List Point → Prop where
  | stop (error : Int) : Loops segment segment.stop error [segment.stop]
  | step {point : Point} {error : Int} {after : Point × Int} {others : List Point} :
      point ≠ segment.stop → segment.next? point error = some after →
      Loops segment after.1 after.2 others → Loops segment point error (point :: others)

variable {segment : Segment} {steps across down rest : Nat} {point : Point} {error : Int}

theorem After.ne_stop (after : segment.After steps point error)
    (lt : steps < max segment.width segment.height) : point ≠ segment.stop :=
  mt (after.eq_stop_iff (Nat.le_of_lt lt)).mp (Nat.ne_of_lt lt)

theorem walk_of_ne (going : point ≠ segment.stop) :
    segment.walk (rest + 1) point error =
      point :: segment.walk rest (segment.next point error).1 (segment.next point error).2 :=
  if_neg going

theorem After.loops (fits : segment.Fits) (after : segment.After steps point error)
    (sum : steps + rest = max segment.width segment.height) :
    segment.Loops point error (segment.walk rest point error) := by
  induction rest generalizing steps point error with
  | zero =>
    obtain rfl := (after.eq_stop_iff (Nat.le_of_eq sum)).mpr sum
    exact .stop error
  | succ rest ih =>
    have going := after.ne_stop (by omega)
    rw [walk_of_ne going]
    exact .step going (after.next?_eq fits (by omega)) (ih after.next (by omega))

theorem Loops.unique {points points' : List Point} (loops : segment.Loops point error points)
    (loops' : segment.Loops point error points') : points = points' := by
  induction loops generalizing points' with
  | stop error =>
    cases loops' with
    | stop => rfl
    | step going => exact absurd rfl going
  | step going next _ ih =>
    cases loops' with
    | stop => exact absurd rfl going
    | step _ next' others' =>
      obtain rfl := Option.some.inj (next.symm.trans next')
      exact congrArg _ (ih others')

-- ---------------------------------------------------------------------------
-- Steps
-- ---------------------------------------------------------------------------

structure Onward (segment : Segment) (point next : Point) : Prop where
  x : (next.x - point.x).natAbs ≤ 1
  y : (next.y - point.y).natAbs ≤ 1
  wide : segment.height ≤ segment.width →
    (segment.stop.x - next.x).natAbs + 1 = (segment.stop.x - point.x).natAbs
  high : segment.width ≤ segment.height →
    (segment.stop.y - next.y).natAbs + 1 = (segment.stop.y - point.y).natAbs

theorem After.onward (after : segment.After steps point error)
    (lt : steps < max segment.width segment.height) :
    segment.Onward point (segment.next point error).1 := by
  obtain ⟨across, down, along, wide, high⟩ := after
  have stopX := segment.start_add_width
  have stopY := segment.start_add_height
  have x := along.x
  have y := along.y
  have low := along.low
  have up := along.high
  rcases direction_cases segment.start.x segment.stop.x with dirX | dirX <;>
    rcases direction_cases segment.start.y segment.stop.y with dirY | dirY <;>
    rw [dirX] at x stopX <;> rw [dirY] at y stopY <;> constructor <;>
    simp only [Segment.next, dirX, dirY] <;> split <;> omega

-- ---------------------------------------------------------------------------
-- Distance
-- ---------------------------------------------------------------------------

/-- The value at `t` on the straight line from `(a, low)` to `(b, high)`. -/
def between (a b low high t : Int) : ℚ := low + (high - low) * ((t - a) / (b - a))

/-- At most half a pixel off the straight line, along the shorter axis. -/
structure Near (segment : Segment) (point : Point) : Prop where
  wide : segment.height ≤ segment.width →
    |point.y - between segment.start.x segment.stop.x segment.start.y segment.stop.y point.x| ≤
      1 / 2
  high : segment.width ≤ segment.height →
    |point.x - between segment.start.y segment.stop.y segment.start.x segment.stop.x point.y| ≤
      1 / 2

theorem between_start (a b low high : Int) : between a b low high a = low := by
  simp [between]

/-- After some of the steps of both axes, the distance from the straight line in parts of
the longer axis. -/
theorem sub_between {long short along down a low dirA dirB : Int} (dir : dirA ≠ 0)
    (proper : long ≠ 0) :
    ((low + down * dirB : Int) : ℚ) -
        between a (a + long * dirA) low (low + short * dirB) (a + along * dirA) =
      dirB * (((long * down - short * along : Int) : ℚ) / long) := by
  have dir : (dirA : ℚ) ≠ 0 := by exact_mod_cast dir
  have proper : (long : ℚ) ≠ 0 := by exact_mod_cast proper
  simp only [between]
  push_cast
  field_simp
  ring

theorem abs_sub_between_le (a low : Int) {long short along down dirA dirB : Int}
    (dir : dirA = 1 ∨ dirA = -1) (dir' : dirB = 1 ∨ dirB = -1) (proper : 0 < long)
    (near : |2 * (long * down - short * along)| ≤ long) :
    |((low + down * dirB : Int) : ℚ) -
        between a (a + long * dirA) low (low + short * dirB) (a + along * dirA)| ≤ 1 / 2 := by
  have positive : (0 : ℚ) < long := by exact_mod_cast proper
  have near : 2 * |((long * down - short * along : Int) : ℚ)| ≤ long := by
    rw [abs_mul] at near
    exact_mod_cast near
  have unit : |(dirB : ℚ)| = 1 := by rcases dir' with rfl | rfl <;> norm_num
  rw [sub_between (by omega) (by omega), abs_mul, unit, one_mul, abs_div, abs_of_pos positive,
    div_le_iff₀ positive]
  linarith

theorem near_start (segment : Segment) : segment.Near segment.start := by
  constructor <;> intro _ <;> rw [between_start, sub_self, abs_zero] <;> norm_num

theorem Along.near (along : segment.Along across down point error)
    (proper : 0 < max segment.width segment.height)
    (centred : |2 * ((segment.width : Int) * down - segment.height * across)| ≤
      (max segment.width segment.height : Nat)) : segment.Near point := by
  have dirX := direction_cases segment.start.x segment.stop.x
  have dirY := direction_cases segment.start.y segment.stop.y
  constructor
  · intro wide
    have near := abs_sub_between_le segment.start.x segment.start.y dirX dirY
      (show 0 < (segment.width : Int) by omega) (centred.trans (by omega))
    rwa [start_add_width, start_add_height, ← along.x, ← along.y] at near
  · intro high
    have turned : 2 * ((segment.height : Int) * across - segment.width * down) =
        -(2 * (segment.width * down - segment.height * across)) := by
      ring
    have near := abs_sub_between_le segment.start.y segment.start.x dirY dirX
      (show 0 < (segment.height : Int) by omega)
      (by rw [turned, abs_neg]; exact centred.trans (by omega))
    rwa [start_add_width, start_add_height, ← along.x, ← along.y] at near

theorem Along.centred_next (along : segment.Along across down point error) :
    -(max segment.width segment.height : Nat) ≤
        2 * ((segment.next point error).2 - segment.width + segment.height) ∧
      2 * ((segment.next point error).2 - segment.width + segment.height) ≤
        (max segment.width segment.height : Nat) := by
  obtain ⟨-, -, -, low, high⟩ := along
  simp only [Segment.next]
  split <;> split <;> omega

theorem After.near_next (after : segment.After steps point error)
    (lt : steps < max segment.width segment.height) :
    segment.Near (segment.next point error).1 := by
  obtain ⟨_, _, next, -, -⟩ := after.next
  obtain ⟨_, _, along, -, -⟩ := after
  have weight := next.weight
  have centred := along.centred_next
  exact next.near (by omega) (abs_le.mpr ⟨by omega, by omega⟩)

-- ---------------------------------------------------------------------------
-- All pixels
-- ---------------------------------------------------------------------------

/-- The pixels of the rest of a walk. -/
structure Path (segment : Segment) (rest : Nat) (point : Point) (points : List Point) : Prop where
  length_eq : points.length = rest + 1
  first : points.head? = some point
  last : points.getLast? = some segment.stop
  onward : points.IsChain segment.Onward
  boxed : ∀ pixel ∈ points, segment.Boxed pixel
  near : ∀ pixel ∈ points, segment.Near pixel

theorem After.path (after : segment.After steps point error)
    (sum : steps + rest = max segment.width segment.height) (near : segment.Near point) :
    segment.Path rest point (segment.walk rest point error) := by
  induction rest generalizing steps point error with
  | zero =>
    obtain rfl := (after.eq_stop_iff (Nat.le_of_eq sum)).mpr sum
    have boxed := after.boxed (Nat.le_of_eq sum)
    exact ⟨rfl, rfl, rfl, .singleton _, by simpa [walk] using boxed, by simpa [walk] using near⟩
  | succ rest ih =>
    have others := ih after.next (by omega) (after.near_next (by omega))
    rw [walk_of_ne (after.ne_stop (by omega))]
    refine ⟨congrArg (· + 1) others.length_eq, rfl, ?_, ?_, ?_, ?_⟩
    · rw [List.getLast?_cons, others.last, Option.getD_some]
    · obtain ⟨later, pixels⟩ := List.head?_eq_some_iff.mp others.first
      have onward := others.onward
      rw [pixels] at onward ⊢
      exact .cons_cons (after.onward (by omega)) onward
    · exact List.forall_mem_cons.mpr ⟨after.boxed (by omega), others.boxed⟩
    · exact List.forall_mem_cons.mpr ⟨near, others.near⟩

/-- Drawing comes to an end without leaving 16 bits, and the pixels that it lights make up
the line. -/
theorem draw_path (fits : segment.Fits) :
    segment.draw? = some (segment.points.map fun point => .pixel point.x point.y true) ∧
      (∀ points, segment.Loops segment.start ((segment.width : Int) - segment.height) points ↔
        points = segment.points) ∧
      segment.Path (max segment.width segment.height) segment.start segment.points := by
  have looped := segment.after_start.loops fits (Nat.zero_add _)
  refine ⟨draw?_eq fits, fun points => ⟨fun loops => loops.unique looped, ?_⟩,
    segment.after_start.path (Nat.zero_add _) segment.near_start⟩
  rintro rfl
  exact looped

def steep : Segment := ⟨⟨32767, -32768⟩, ⟨32760, -24577⟩⟩

theorem draw_path_steep :
    steep.Fits ∧ steep.Path 8191 ⟨32767, -32768⟩ steep.points ∧
      steep.draw? = some (steep.points.map fun point => .pixel point.x point.y true) := by
  have fits : steep.Fits :=
    ⟨⟨by decide, by decide, by decide, by decide⟩, ⟨by decide, by decide, by decide, by decide⟩,
      by decide, by decide⟩
  obtain ⟨drawn, -, path⟩ := draw_path fits
  exact ⟨fits, path, drawn⟩

end KnobPanel.Segment
