/-!
# Millisecond clock

A free-running 32-bit counter. Times are compared through wrapping differences
only, so shifting every reading by one constant changes no answer.
-/

namespace KnobPanel

abbrev Millis := UInt32

namespace Clock

/-- Milliseconds from `since` to `now`, across a rollover too. -/
def elapsed (now since : Millis) : UInt32 := now - since

/-- `now` is at or past `deadline`: their difference lies in the lower half of
the counter's range. -/
def reached (now deadline : Millis) : Bool := now - deadline < 0x80000000

def passed (now deadline : Millis) : Bool := now != deadline && reached now deadline

theorem sub_shift (k now since : Millis) : now + k - (since + k) = now - since := by
  grind

theorem elapsed_shift (k now since : Millis) :
    elapsed (now + k) (since + k) = elapsed now since :=
  sub_shift k now since

theorem reached_shift (k now deadline : Millis) :
    reached (now + k) (deadline + k) = reached now deadline := by
  simp only [reached, sub_shift]

theorem passed_shift (k now deadline : Millis) :
    passed (now + k) (deadline + k) = passed now deadline := by
  have h : (now + k == deadline + k) = (now == deadline) := by
    rw [Bool.eq_iff_iff, beq_iff_eq, beq_iff_eq, UInt32.add_left_inj]
  simp only [passed, reached_shift, bne, h]

theorem elapsed_ofNat {since now : Nat} (le : since ≤ now) (lt : now < since + UInt32.size) :
    (elapsed (.ofNat now) (.ofNat since)).toNat = now - since := by
  simp only [UInt32.size] at lt
  rw [elapsed, UInt32.toNat_sub, UInt32.toNat_ofNat', UInt32.toNat_ofNat']
  omega

theorem reached_ofNat (start : Millis) {now deadline : Nat} (late : now < deadline + 0x80000000)
    (early : deadline ≤ now + 0x80000000) :
    reached (start + .ofNat now) (start + .ofNat deadline) = decide (deadline ≤ now) := by
  rw [UInt32.add_comm start, UInt32.add_comm start, reached_shift]
  simp only [reached, UInt32.lt_iff_toNat_lt, UInt32.toNat_sub, UInt32.toNat_ofNat',
    UInt32.reduceToNat]
  congr 1
  rw [eq_iff_iff]
  omega

theorem passed_ofNat (start : Millis) {now deadline : Nat} (late : now < deadline + 0x80000000)
    (early : deadline ≤ now + 0x80000000) :
    passed (start + .ofNat now) (start + .ofNat deadline) = decide (deadline < now) := by
  have same : start + .ofNat now = start + .ofNat deadline ↔ now = deadline := by
    rw [UInt32.add_right_inj, ← UInt32.toNat_inj, UInt32.toNat_ofNat', UInt32.toNat_ofNat']
    omega
  rw [passed, reached_ofNat start late early, Bool.eq_iff_iff]
  simp only [Bool.and_eq_true, bne_iff_ne, ne_eq, same, decide_eq_true_eq]
  omega

def frameRate : Nat := 20

def frames (ms : Nat) : Nat := ms * frameRate / 1000

end Clock

end KnobPanel
