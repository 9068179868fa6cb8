/-!
# Byte memory

A flat memory of 64 KiB with two laws: a written byte reads back, and no other
address changes.
-/

namespace KnobPanel

structure Memory where
  bytes : Vector UInt8 65536

namespace Memory

def tabulate (f : UInt16 → UInt8) : Memory := ⟨.ofFn fun i => f (.ofNat i)⟩

def get (memory : Memory) (address : UInt16) : UInt8 :=
  getElem memory.bytes address.toNat address.toNat_lt

def set (memory : Memory) (address : UInt16) (value : UInt8) : Memory :=
  ⟨memory.bytes.set address.toNat value address.toNat_lt⟩

theorem get_tabulate (f : UInt16 → UInt8) (address : UInt16) :
    (tabulate f).get address = f address := by
  simp [tabulate, get]

theorem get_set (memory : Memory) (address : UInt16) (value : UInt8) (other : UInt16) :
    (memory.set address value).get other =
      if other = address then value else memory.get other := by
  simp only [get, set, Vector.getElem_set, ← UInt16.toNat_inj, eq_comm]

theorem ext {a b : Memory} (h : ∀ address, a.get address = b.get address) : a = b := by
  obtain ⟨a⟩ := a
  obtain ⟨b⟩ := b
  refine congrArg Memory.mk (Vector.ext fun i hi => ?_)
  have same := h (.ofNat i)
  simp only [get, UInt16.toNat_ofNat', Nat.mod_eq_of_lt hi] at same
  exact same

end Memory

end KnobPanel
