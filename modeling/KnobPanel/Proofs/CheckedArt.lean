import KnobPanel.Art.BongoCat
import KnobPanel.Art.Cube
import KnobPanel.Art.Stars
import KnobPanel.Proofs.LineWalk

/-!
# The artwork in machine words

The cat, the cube and the star field, once more with every step checked. The cat can
always be drawn, the cube as long as its corners are on the screen, and the stars as
long as they are placed: a star that never was has no border to head for.
-/

namespace KnobPanel

open Word (fitSigned fitSigned_short)

-- ---------------------------------------------------------------------------
-- Cat
-- ---------------------------------------------------------------------------

namespace BongoCat

def drawPaw? (pose : Pose) : Option (List DrawOp) :=
  match pose.paw? with
  | none => some []
  | some (dx, dpage, image) => do
    let x ← Word.fit UInt8.size (left.toNat + dx.toNat)
    let page ← Word.fit UInt8.size (page.toNat + dpage.toNat)
    some [.cursor (.ofNat x) (.ofNat page), .image image]

@[simp] theorem drawPaw?_eq (pose : Pose) : drawPaw? pose = some (drawPaw pose) := by
  cases pose <;> rfl

def strike? (pose : Pose) (cat : BongoCat) : Option (List DrawOp × BongoCat) :=
  if cat.shown = some pose then
    some ([], cat)
  else do
    let idle := if pose = .up ∨ cat.shown ≠ some .up then drawIdle else []
    let paw ← drawPaw? pose
    some (idle ++ paw, { shown := some pose })

@[simp] theorem strike?_eq (pose : Pose) (cat : BongoCat) :
    cat.strike? pose = some (cat.strike pose) := by
  simp only [strike?, strike, drawPaw?_eq, Option.bind_eq_bind, Option.bind_some]
  split <;> rfl

def draw? (first : Bool) (cat : BongoCat) : Option (List DrawOp × BongoCat) :=
  if first then strike? .up {} else some ([], cat)

@[simp] theorem draw?_eq (first : Bool) (cat : BongoCat) :
    cat.draw? first = some (cat.draw first) := by
  cases first with
  | false => rfl
  | true => exact strike?_eq .up {}

def onKey? (event : KeyEvent) (cat : BongoCat) : Option (List DrawOp × BongoCat) :=
  cat.strike? (if event.pressed then .ofKey event.key else .up)

@[simp] theorem onKey?_eq (event : KeyEvent) (cat : BongoCat) :
    cat.onKey? event = some (cat.onKey event) :=
  strike?_eq _ _

end BongoCat

-- ---------------------------------------------------------------------------
-- Cube
-- ---------------------------------------------------------------------------

structure Angles.Reduced (angles : Angles) : Prop where
  x : angles.x ≤ 359
  y : angles.y ≤ 359
  z : angles.z ≤ 359

/-- All corners of the cube are on the screen. -/
def Angles.InView (trig : Trigonometry) (angles : Angles) : Prop :=
  ∀ corner ∈ CubeSpin.corners, (CubeSpin.project trig angles corner).OnScreen

instance (trig : Trigonometry) (angles : Angles) : Decidable (angles.InView trig) :=
  inferInstanceAs (Decidable (∀ corner ∈ CubeSpin.corners, _))

namespace CubeSpin

def turn? (angle speed : Nat) : Option Nat := do
  let turned ← Word.fit UInt16.size (angle + speed)
  some (if 359 < turned then 0 else turned)

theorem turn?_eq {angle speed : Nat} (holds : angle + speed < 65536) :
    turn? angle speed = some (turn angle speed) := by
  rw [turn?, Word.fit_short holds]
  rfl

theorem turn_le (angle speed : Nat) : turn angle speed ≤ 359 := by
  unfold turn
  split <;> omega

def advance? (cube : CubeSpin) : Option CubeSpin := do
  let x ← turn? cube.angles.x 4
  let y ← turn? cube.angles.y 3
  let z ← turn? cube.angles.z 1
  some ⟨x, y, z⟩

theorem advance?_eq {cube : CubeSpin} (reduced : cube.angles.Reduced) :
    cube.advance? = some cube.advance := by
  obtain ⟨x, y, z⟩ := reduced
  simp only [advance?, advance, turn?_eq (show cube.angles.x + 4 < 65536 by omega),
    turn?_eq (show cube.angles.y + 3 < 65536 by omega),
    turn?_eq (show cube.angles.z + 1 < 65536 by omega), Option.bind_eq_bind, Option.bind_some]

def after : Nat → CubeSpin
  | 0 => start
  | frames + 1 => (after frames).advance

theorem reduced_after (frames : Nat) : (after frames).angles.Reduced := by
  cases frames with
  | zero => constructor <;> decide
  | succ frames => exact ⟨turn_le _ _, turn_le _ _, turn_le _ _⟩

def project? (trig : Trigonometry) (angles : Angles) (corner : Float32 × Float32 × Float32) :
    Option Point := do
  let point := project trig angles corner
  let x ← fitSigned Int16.size point.x
  let y ← fitSigned Int16.size point.y
  some ⟨x, y⟩

def drawEdges? (trig : Trigonometry) (angles : Angles) : Option (List DrawOp) := do
  let points ← Word.each (project? trig angles) corners
  let lines ← Word.each (fun (a, b) => do
    let start ← points[a]?
    let stop ← points[b]?
    Segment.draw? ⟨start, stop⟩) edges
  some lines.flatten

theorem mem_edges_lt {edge : Nat × Nat} (found : edge ∈ edges) :
    edge.1 < corners.length ∧ edge.2 < corners.length := by
  have all : edges.all (fun edge => edge.1 < corners.length ∧ edge.2 < corners.length) = true := rfl
  simpa using List.all_eq_true.mp all edge found

theorem drawEdges?_eq {trig : Trigonometry} {angles : Angles} (inView : angles.InView trig) :
    drawEdges? trig angles = some (drawEdges trig angles) := by
  have points : Word.each (project? trig angles) corners =
      some (corners.map (project trig angles)) := by
    refine Word.each_eq_map fun corner found => ?_
    obtain ⟨left, right, top, bottom⟩ := inView corner found
    simp only [screenWidth, screenHeight] at right bottom
    simp only [project?, fitSigned_short (show -32768 ≤ (project trig angles corner).x by omega)
      (by omega), fitSigned_short (show -32768 ≤ (project trig angles corner).y by omega) (by omega),
      Option.bind_eq_bind, Option.bind_some]
  have lines : Word.each (fun (a, b) => do
      let start ← (corners.map (project trig angles))[a]?
      let stop ← (corners.map (project trig angles))[b]?
      Segment.draw? ⟨start, stop⟩) edges =
        some (edges.map fun (a, b) =>
          Segment.draw ⟨(corners.map (project trig angles)).getD a ⟨0, 0⟩,
            (corners.map (project trig angles)).getD b ⟨0, 0⟩⟩) := by
    refine Word.each_eq_map ?_
    rintro ⟨a, b⟩ found
    obtain ⟨ltA, ltB⟩ := mem_edges_lt found
    simp only [List.getElem?_map, List.getElem?_eq_getElem ltA, List.getElem?_eq_getElem ltB,
      Option.map_some, Option.bind_eq_bind, Option.bind_some, List.getD_eq_getElem?_getD,
      Option.getD_some]
    exact Segment.draw?_eq
      (Segment.fits_of_onScreen (inView _ (List.getElem_mem ltA)) (inView _ (List.getElem_mem ltB)))
  rw [drawEdges?, points, Option.bind_eq_bind, Option.bind_some, lines, Option.bind_eq_bind,
    Option.bind_some, drawEdges, List.flatMap_def]

def draw? (trig : Trigonometry) (first : Bool) (cube : CubeSpin) :
    Option (List DrawOp × CubeSpin) :=
  if first then
    some ([], start)
  else do
    let cube ← cube.advance?
    let edges ← drawEdges? trig cube.angles
    some (.cursor 80 2 :: .wipe 33 5 :: edges, cube)

theorem draw?_eq {trig : Trigonometry} {first : Bool} {cube : CubeSpin}
    (reduced : cube.angles.Reduced) (inView : cube.advance.angles.InView trig) :
    cube.draw? trig first = some (cube.draw first trig) := by
  cases first with
  | true => rfl
  | false =>
    simp only [draw?, draw, advance?_eq reduced, drawEdges?_eq inView, Option.bind_eq_bind,
      Option.bind_some]
    rfl

end CubeSpin

-- ---------------------------------------------------------------------------
-- Stars
-- ---------------------------------------------------------------------------

namespace Star

/-- What the generator makes of a star, and moving keeps. -/
structure Placed (star : Star) : Prop where
  speed_le : star.speed ≤ 3
  edge_pos : 0 < star.edge
  edge_le : star.edge ≤ 94
  dx_le : star.dx.natAbs ≤ farX
  dy_le : star.dy.natAbs ≤ farY

def random? (seed : StarSeed) : Option (Star × StarSeed) := do
  let speed := seed.next
  let bits := speed.2.next
  let edge := bits.2.next
  let dx ← Word.negated Int8.size (bits.1.testBit 9) ((bits.1 >>> 4) % 32 : Nat)
  let dy ← Word.negated Int8.size (bits.1.testBit 10) (bits.1 % 16 : Nat)
  some ({ speed := max (speed.1 % 4) 1, dx, dy, edge := max (edge.1 % 95) 1 }, edge.2)

theorem random?_eq (seed : StarSeed) : random? seed = some (random seed) := by
  simp only [random?, random, Option.bind_eq_bind]
  generalize seed.next.2.next.1 = bits
  rw [Word.negated_byte (by omega), Option.bind_some, Word.negated_byte (by omega),
    Option.bind_some]

theorem placed_random (seed : StarSeed) : (random seed).1.Placed := by
  unfold random
  constructor <;> simp only [farX, farY] <;> omega

/-- The distance from the middle row at the distance `x` from the middle column. -/
def height? (edge : Nat) (x : Int) : Option Int :=
  if edge < 64 then do
    let product ← fitSigned Int16.size (32 * x)
    Word.divideSigned Int16.size product edge
  else do
    let rest ← fitSigned Int16.size (95 - edge)
    let product ← fitSigned Int16.size (x * rest)
    Word.divideSigned Int16.size product 64

def toByte (n : Int) : Int := n.bmod 256

def advance? (star : Star) (seed : StarSeed) : Option (Star × StarSeed) := do
  let x ← fitSigned Int16.size (star.dx.natAbs + star.speed)
  let y ← height? star.edge x
  if farX < x ∨ farY < y then
    random? seed
  else
    let dx ← Word.negated Int16.size (star.dx < 0) x
    let dy ← Word.negated Int16.size (star.dy < 0) y
    some ({ star with dx := toByte dx, dy := toByte dy }, seed)

def height (edge x : Nat) : Nat := if edge < 64 then 32 * x / edge else x * (95 - edge) / 64

theorem height?_eq {edge x : Nat} (pos : 0 < edge) (le : edge ≤ 94) (near : x ≤ 64) :
    height? edge x = some (height edge x : Int) := by
  unfold height? height
  split
  · have product : fitSigned Int16.size (32 * (x : Int)) = some ((32 * x : Nat) : Int) :=
      fitSigned_short (by omega) (by omega)
    rw [product, Option.bind_eq_bind, Option.bind_some]
    exact Word.divideSigned_natCast pos (by omega)
  · have rest : fitSigned Int16.size (95 - (edge : Int)) = some ((95 - edge : Nat) : Int) := by
      rw [fitSigned_short (by omega) (by omega)]
      congr
      omega
    have le : x * (95 - edge) ≤ 64 * 94 := Nat.mul_le_mul near (by omega)
    have product : fitSigned Int16.size ((x : Int) * ((95 - edge : Nat) : Int)) =
        some ((x * (95 - edge) : Nat) : Int) :=
      fitSigned_short (by omega) (by omega)
    rw [rest, Option.bind_eq_bind, Option.bind_some, product, Option.bind_some]
    exact Word.divideSigned_natCast (by decide) (by omega)

theorem toByte_of_le {n : Int} (low : -128 ≤ n) (high : n < 128) : toByte n = n :=
  Int.bmod_eq_of_le (by omega) (by omega)

theorem advance_eq (star : Star) (seed : StarSeed) :
    star.advance seed =
      if farX < star.dx.natAbs + star.speed ∨
          farY < height star.edge (star.dx.natAbs + star.speed) then
        random seed
      else
        ({ star with
            dx :=
              if star.dx < 0 then -(star.dx.natAbs + star.speed : Nat)
              else (star.dx.natAbs + star.speed : Nat)
            dy :=
              if star.dy < 0 then -(height star.edge (star.dx.natAbs + star.speed) : Int)
              else height star.edge (star.dx.natAbs + star.speed) }, seed) :=
  rfl

theorem advance?_eq {star : Star} (placed : star.Placed) (seed : StarSeed) :
    star.advance? seed = some (star.advance seed) := by
  obtain ⟨slow, pos, le, across, down⟩ := placed
  simp only [farX, farY] at across down
  have x : fitSigned Int16.size (star.dx.natAbs + star.speed) =
      some ((star.dx.natAbs + star.speed : Nat) : Int) :=
    fitSigned_short (by omega) (by omega)
  rw [advance?, x, advance_eq, Option.bind_eq_bind, Option.bind_some,
    height?_eq pos le (by omega), Option.bind_some]
  generalize star.dx.natAbs + star.speed = x
  generalize height star.edge x = y
  simp only [Int.ofNat_lt]
  split
  · exact random?_eq seed
  case isFalse inside =>
    simp only [farX, farY, not_or, Nat.not_lt] at inside
    -- a place inside the field is one that a byte holds
    have dx : toByte (if star.dx < 0 then -(x : Int) else x) =
        if star.dx < 0 then -(x : Int) else x :=
      toByte_of_le (by split <;> omega) (by split <;> omega)
    have dy : toByte (if star.dy < 0 then -(y : Int) else y) =
        if star.dy < 0 then -(y : Int) else y :=
      toByte_of_le (by split <;> omega) (by split <;> omega)
    rw [Word.negated_short (by omega), Option.bind_some, Word.negated_short (by omega),
      Option.bind_some]
    simp only [decide_eq_true_eq, dx, dy]

theorem Placed.advance {star : Star} (placed : star.Placed) (seed : StarSeed) :
    (star.advance seed).1.Placed := by
  rw [advance_eq]
  split
  · exact placed_random seed
  case isFalse inside =>
    rw [not_or, Nat.not_lt, Nat.not_lt] at inside
    refine ⟨placed.speed_le, placed.edge_pos, placed.edge_le, ?_, ?_⟩
    · simp only
      split <;> omega
    · simp only
      split <;> omega

def plot? (lit : Bool) (star : Star) : Option (List DrawOp) := do
  let x ← fitSigned Int16.size (64 + star.dx)
  let y ← fitSigned Int16.size (32 + star.dy)
  if star.isNear then
    some [.pixel x y lit]
  else
    let left ← fitSigned Int16.size (x - 1)
    let right ← fitSigned Int16.size (x + 1)
    let above ← fitSigned Int16.size (y - 1)
    let below ← fitSigned Int16.size (y + 1)
    some [.pixel left y lit, .pixel x y lit, .pixel right y lit, .pixel x above lit,
      .pixel x below lit]

theorem plot?_eq {star : Star} (placed : star.Placed) (lit : Bool) :
    star.plot? lit = some (star.plot lit) := by
  obtain ⟨-, -, -, across, down⟩ := placed
  simp only [farX, farY] at across down
  have holds {n : Int} (low : -100 ≤ n) (high : n ≤ 200) : fitSigned Int16.size n = some n :=
    fitSigned_short (by omega) (by omega)
  have x := holds (show -100 ≤ 64 + star.dx by omega) (by omega)
  have y := holds (show -100 ≤ 32 + star.dy by omega) (by omega)
  have left := holds (show -100 ≤ 64 + star.dx - 1 by omega) (by omega)
  have right := holds (show -100 ≤ 64 + star.dx + 1 by omega) (by omega)
  have above := holds (show -100 ≤ 32 + star.dy - 1 by omega) (by omega)
  have below := holds (show -100 ≤ 32 + star.dy + 1 by omega) (by omega)
  simp only [plot?, plot, x, y, left, right, above, below, Option.bind_eq_bind, Option.bind_some]
  split <;> rfl

end Star

namespace StarField

def respawn? : List Star → StarSeed → Option (List Star × StarSeed)
  | [], seed => some ([], seed)
  | _ :: rest, seed => do
    let star ← Star.random? seed
    let others ← respawn? rest star.2
    some (star.1 :: others.1, others.2)

@[simp] theorem respawn?_eq (stars : List Star) (seed : StarSeed) :
    respawn? stars seed = some (respawn stars seed) := by
  induction stars generalizing seed with
  | nil => rfl
  | cons star rest ih => simp [respawn?, respawn, Star.random?_eq, ih]

theorem forall_respawn {P : Star → Prop} (random : ∀ seed, P (Star.random seed).1)
    (stars : List Star) (seed : StarSeed) : ∀ star ∈ (respawn stars seed).1, P star := by
  induction stars generalizing seed with
  | nil => nofun
  | cons star rest ih => exact List.forall_mem_cons.mpr ⟨random seed, ih _⟩

theorem placed_respawn (stars : List Star) (seed : StarSeed) :
    ∀ star ∈ (respawn stars seed).1, star.Placed :=
  forall_respawn Star.placed_random stars seed

@[simp] theorem length_respawn (stars : List Star) (seed : StarSeed) :
    (respawn stars seed).1.length = stars.length := by
  induction stars generalizing seed with
  | nil => rfl
  | cons star rest ih => exact congrArg (· + 1) (ih _)

def advance? : List Star → StarSeed → Option (List Star × StarSeed)
  | [], seed => some ([], seed)
  | star :: rest, seed => do
    let moved ← star.advance? seed
    let others ← advance? rest moved.2
    some (moved.1 :: others.1, others.2)

theorem advance?_eq {stars : List Star} (placed : ∀ star ∈ stars, star.Placed) (seed : StarSeed) :
    advance? stars seed = some (advance stars seed) := by
  induction stars generalizing seed with
  | nil => rfl
  | cons star rest ih =>
    obtain ⟨first, others⟩ := List.forall_mem_cons.mp placed
    simp [advance?, advance, Star.advance?_eq first, ih others]

theorem forall_advance {P : Star → Prop}
    (keeps : ∀ star seed, P star → P (star.advance seed).1) {stars : List Star}
    (before : ∀ star ∈ stars, P star) (seed : StarSeed) :
    ∀ star ∈ (advance stars seed).1, P star := by
  induction stars generalizing seed with
  | nil => nofun
  | cons star rest ih =>
    obtain ⟨first, others⟩ := List.forall_mem_cons.mp before
    exact List.forall_mem_cons.mpr ⟨keeps star seed first, ih others _⟩

theorem placed_advance {stars : List Star} (placed : ∀ star ∈ stars, star.Placed)
    (seed : StarSeed) : ∀ star ∈ (advance stars seed).1, star.Placed :=
  forall_advance (fun _ seed placed => placed.advance seed) placed seed

@[simp] theorem length_advance (stars : List Star) (seed : StarSeed) :
    (advance stars seed).1.length = stars.length := by
  induction stars generalizing seed with
  | nil => rfl
  | cons star rest ih => exact congrArg (· + 1) (ih _)

def read? (field : StarField) : Option (List Star) :=
  Word.each (fun i => field.stars[i]?) (List.range size)

theorem read?_eq {field : StarField} (full : field.stars.length = size) :
    field.read? = some field.stars := by
  have found : ∀ i ∈ List.range size, field.stars[i]? = some (field.stars.getD i {}) := by
    intro i lt
    rw [List.mem_range, ← full] at lt
    rw [List.getD_eq_getElem?_getD, List.getElem?_eq_getElem lt, Option.getD_some]
  have same : (List.range size).map (field.stars.getD · {}) = field.stars := by
    refine List.ext_getElem (by simp [full]) fun i _ lt => ?_
    simp [lt]
  rw [read?, Word.each_eq_map found, same]

def plotAll? (lit : Bool) (stars : List Star) : Option (List DrawOp) := do
  let plots ← Word.each (Star.plot? lit) stars
  some plots.flatten

theorem plotAll?_eq {stars : List Star} (placed : ∀ star ∈ stars, star.Placed) (lit : Bool) :
    plotAll? lit stars = some (stars.flatMap (Star.plot lit)) := by
  rw [plotAll?, Word.each_eq_map fun star found => Star.plot?_eq (placed star found) lit,
    List.flatMap_def]
  rfl

def draw? (first : Bool) (field : StarField) : Option (List DrawOp × StarField) := do
  let stars ← field.read?
  let placed ← (if first then respawn? stars field.seed else some (stars, field.seed))
  let erased ← (if first then some [] else plotAll? false stars)
  let moved ← advance? placed.1 placed.2
  let drawn ← plotAll? true moved.1
  some (erased ++ drawn, { stars := moved.1, seed := moved.2 })

/-- A field of eight stars, which are placed unless the next frame places them. -/
structure Ready (first : Bool) (field : StarField) : Prop where
  full : field.stars.length = size
  placed : first = false → ∀ star ∈ field.stars, star.Placed

variable {first : Bool} {field : StarField}

theorem draw?_eq (ready : field.Ready first) : field.draw? first = some (field.draw first) := by
  have read := read?_eq ready.full
  cases first with
  | true =>
    have placed := placed_respawn field.stars field.seed
    simp [draw?, draw, read, advance?_eq placed, plotAll?_eq (placed_advance placed _)]
  | false =>
    have placed := ready.placed rfl
    simp [draw?, draw, read, plotAll?_eq placed, advance?_eq placed,
      plotAll?_eq (placed_advance placed _)]

theorem Ready.draw (ready : field.Ready first) : (field.draw first).2.Ready false := by
  cases first with
  | true =>
    exact ⟨by simpa [StarField.draw] using ready.full,
      fun _ => placed_advance (placed_respawn _ _) _⟩
  | false =>
    exact ⟨by simpa [StarField.draw] using ready.full,
      fun _ => placed_advance (ready.placed rfl) _⟩

theorem ready_ofSeed (seed : UInt32) : (ofSeed seed).Ready true := ⟨rfl, nofun⟩

end StarField

end KnobPanel
