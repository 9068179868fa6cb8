import KnobPanel.Display.DrawOp

/-!
# Star field

Stars that fly outwards from the centre of the screen and respawn near it once
they leave the field. Their places come from a shift-register generator.
-/

namespace KnobPanel

/-- A 32-bit xorshift generator. -/
structure StarSeed where
  state : UInt32
  deriving DecidableEq

namespace StarSeed

def ofSeed (seed : UInt32) : StarSeed := ⟨seed ||| 1⟩

def next (seed : StarSeed) : Nat × StarSeed :=
  let x := seed.state
  let x := x ^^^ x <<< 13
  let x := x ^^^ x >>> 17
  let x := x ^^^ x <<< 5
  (x.toNat % 65536, ⟨x⟩)

end StarSeed

structure Star where
  speed : Nat := 0
  /-- Offset from the centre of the screen. -/
  dx : Int := 0
  dy : Int := 0
  /-- The point on the border the star heads for: below 64 along the top, above
  that down the side. -/
  edge : Nat := 0
  deriving DecidableEq

namespace Star

def random (seed : StarSeed) : Star × StarSeed :=
  let speed := seed.next
  let bits := speed.2.next
  let edge := bits.2.next
  let dx : Int := ((bits.1 >>> 4) % 32 : Nat)
  let dy : Int := (bits.1 % 16 : Nat)
  ({ speed := max (speed.1 % 4) 1
     dx := if bits.1.testBit 9 then -dx else dx
     dy := if bits.1.testBit 10 then -dy else dy
     edge := max (edge.1 % 95) 1 }, edge.2)

/-- A star leaves the field past these distances. -/
def farX : Nat := 61

def farY : Nat := 29

def advance (star : Star) (seed : StarSeed) : Star × StarSeed :=
  let x := star.dx.natAbs + star.speed
  let y := if star.edge < 64 then 32 * x / star.edge else x * (95 - star.edge) / 64
  if farX < x ∨ farY < y then
    random seed
  else
    ({ star with
        dx := if star.dx < 0 then -x else x
        dy := if star.dy < 0 then -y else y }, seed)

def isNear (star : Star) : Bool := star.dx.natAbs ≤ 16 && star.dy.natAbs ≤ 10

def plot (lit : Bool) (star : Star) : List DrawOp :=
  let x := 64 + star.dx
  let y := 32 + star.dy
  if star.isNear then
    [.pixel x y lit]
  else
    [.pixel (x - 1) y lit, .pixel x y lit, .pixel (x + 1) y lit, .pixel x (y - 1) lit,
      .pixel x (y + 1) lit]

end Star

structure StarField where
  stars : List Star
  seed : StarSeed
  deriving DecidableEq

namespace StarField

def size : Nat := 8

def ofSeed (seed : UInt32) : StarField where
  stars := .replicate size {}
  seed := .ofSeed seed

def respawn : List Star → StarSeed → List Star × StarSeed
  | [], seed => ([], seed)
  | _ :: rest, seed =>
    let star := Star.random seed
    let others := respawn rest star.2
    (star.1 :: others.1, others.2)

def advance : List Star → StarSeed → List Star × StarSeed
  | [], seed => ([], seed)
  | star :: rest, seed =>
    let moved := star.advance seed
    let others := advance rest moved.2
    (moved.1 :: others.1, others.2)

/-- The first frame places the stars, every other one erases them; then they
move and are drawn. -/
def draw (first : Bool) (field : StarField) : List DrawOp × StarField :=
  let placed := if first then respawn field.stars field.seed else (field.stars, field.seed)
  let erased := if first then [] else field.stars.flatMap (Star.plot false)
  let moved := advance placed.1 placed.2
  (erased ++ moved.1.flatMap (Star.plot true), { stars := moved.1, seed := moved.2 })

end StarField

end KnobPanel
