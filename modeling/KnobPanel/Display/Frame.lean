/-!
# Frame

A picture of 128 by 64 pixels. Pixels off the picture are dark and take
nothing.
-/

namespace KnobPanel

structure Frame where
  bits : Vector Bool 8192

namespace Frame

def dark : Frame := ⟨.replicate 8192 false⟩

def Inside (x y : Int) : Prop := 0 ≤ x ∧ x < 128 ∧ 0 ≤ y ∧ y < 64

instance (x y : Int) : Decidable (Inside x y) :=
  inferInstanceAs (Decidable (_ ∧ _))

theorem Inside.index_lt {x y : Int} (h : Inside x y) : x.toNat + 128 * y.toNat < 8192 := by
  obtain ⟨_, _, _, _⟩ := h
  omega

def lit (x y : Int) (frame : Frame) : Bool :=
  if h : Inside x y then getElem frame.bits (x.toNat + 128 * y.toNat) h.index_lt else false

def put (x y : Int) (value : Bool) (frame : Frame) : Frame :=
  if h : Inside x y then ⟨frame.bits.set (x.toNat + 128 * y.toNat) value h.index_lt⟩ else frame

theorem lit_dark (x y : Int) : dark.lit x y = false := by
  simp [dark, lit]

theorem lit_put (x y : Int) (value : Bool) (frame : Frame) (x' y' : Int) :
    (frame.put x y value).lit x' y' =
      if Inside x y ∧ x' = x ∧ y' = y then value else frame.lit x' y' := by
  by_cases h : Inside x y
  · by_cases h' : Inside x' y'
    · have : x.toNat + 128 * y.toNat = x'.toNat + 128 * y'.toNat ↔ x' = x ∧ y' = y := by
        obtain ⟨_, _, _, _⟩ := h
        obtain ⟨_, _, _, _⟩ := h'
        omega
      simp only [put, lit, h, h', ↓reduceDIte, Vector.getElem_set, this, true_and]
    · have : ¬(x' = x ∧ y' = y) := fun e => h' (e.1 ▸ e.2 ▸ h)
      simp [lit, h, h', this]
  · simp [put, h]

theorem ext {a b : Frame} (h : ∀ x y, Inside x y → a.lit x y = b.lit x y) : a = b := by
  obtain ⟨a⟩ := a
  obtain ⟨b⟩ := b
  refine congrArg Frame.mk (Vector.ext fun i hi => ?_)
  have inside : Inside ((i % 128 : Nat) : Int) ((i / 128 : Nat) : Int) := by
    refine ⟨?_, ?_, ?_, ?_⟩ <;> omega
  have index : i % 128 + 128 * (i / 128) = i := Nat.mod_add_div i 128
  have same := h _ _ inside
  simp only [lit, inside, ↓reduceDIte, Int.toNat_natCast, index] at same
  exact same

def paint (pixels : List (Int × Int × Bool)) (frame : Frame) : Frame :=
  pixels.foldl (fun frame (x, y, value) => frame.put x y value) frame

def litCount (frame : Frame) : Nat := frame.bits.toList.count true

end Frame

end KnobPanel
