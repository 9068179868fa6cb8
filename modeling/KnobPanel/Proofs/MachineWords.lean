import Mathlib.Data.Nat.Bitwise

/-!
# Machine words

Steps of a calculation that have no result where a machine has none: a sum or a
product that the word does not hold, a difference below zero, a quotient by zero, a
part of a list that is not there.
-/

namespace KnobPanel.Word

-- ---------------------------------------------------------------------------
-- Unsigned words
-- ---------------------------------------------------------------------------

/-- The number, if an unsigned word with so many values holds it. -/
def fit (size n : Nat) : Option Nat := if n < size then some n else none

theorem fit_byte {n : Nat} (holds : n < 256) : fit UInt8.size n = some n := if_pos holds

theorem fit_short {n : Nat} (holds : n < 65536) : fit UInt16.size n = some n := if_pos holds

theorem fit_long {n : Nat} (holds : n < 4294967296) : fit UInt32.size n = some n := if_pos holds

def minus (m n : Nat) : Option Nat := if n ≤ m then some (m - n) else none

theorem minus_of_le {m n : Nat} (le : n ≤ m) : minus m n = some (m - n) := if_pos le

def divide (m n : Nat) : Option Nat := if n = 0 then none else some (m / n)

theorem divide_of_pos {m n : Nat} (pos : 0 < n) : divide m n = some (m / n) :=
  if_neg (Nat.ne_of_gt pos)

theorem shifted_or {low n : Nat} (fits : low < 2 ^ n) (high : Nat) :
    high <<< n ||| low = high * 2 ^ n + low := by
  rw [← Nat.shiftLeft_add_eq_or_of_lt fits, Nat.shiftLeft_eq]

theorem toNat_append {m n : Nat} (high : BitVec m) (low : BitVec n) :
    (high ++ low).toNat = high.toNat * 2 ^ n + low.toNat := by
  rw [BitVec.toNat_append, shifted_or low.isLt]

abbrev addressSize : Nat := UInt32.size

-- ---------------------------------------------------------------------------
-- Signed words
-- ---------------------------------------------------------------------------

def fitSigned (size : Nat) (n : Int) : Option Int :=
  if -(size / 2 : Nat) ≤ n ∧ n < (size / 2 : Nat) then some n else none

theorem fitSigned_byte {n : Int} (low : -128 ≤ n) (high : n < 128) :
    fitSigned Int8.size n = some n :=
  if_pos ⟨low, high⟩

theorem fitSigned_short {n : Int} (low : -32768 ≤ n) (high : n < 32768) :
    fitSigned Int16.size n = some n :=
  if_pos ⟨low, high⟩

def divideSigned (size : Nat) (m n : Int) : Option Int :=
  if n = 0 then none else fitSigned size (m.tdiv n)

theorem divideSigned_natCast {m n : Nat} (pos : 0 < n) (holds : m < 32768) :
    divideSigned Int16.size m n = some ((m / n : Nat) : Int) := by
  have quotient : (m : Int).tdiv n = ((m / n : Nat) : Int) := (Int.ofNat_tdiv m n).symm
  have lt : m / n < 32768 := Nat.lt_of_le_of_lt (Nat.div_le_self m n) holds
  rw [divideSigned, if_neg (Int.natCast_ne_zero.mpr (Nat.ne_of_gt pos)), quotient]
  exact fitSigned_short (Int.le_trans (by decide) (Int.natCast_nonneg _)) (Int.ofNat_lt.mpr lt)

/-- The number with its sign turned, where `turned` says so. -/
def negated (size : Nat) (turned : Bool) (n : Int) : Option Int :=
  if turned then fitSigned size (-n) else some n

theorem negated_byte {n : Nat} {turned : Bool} (holds : n < 128) :
    negated Int8.size turned n = some (if turned then -(n : Int) else n) := by
  cases turned with
  | false => rfl
  | true => exact fitSigned_byte (by omega) (by omega)

theorem negated_short {n : Nat} {turned : Bool} (holds : n < 32768) :
    negated Int16.size turned n = some (if turned then -(n : Int) else n) := by
  cases turned with
  | false => rfl
  | true => exact fitSigned_short (by omega) (by omega)

-- ---------------------------------------------------------------------------
-- Lists
-- ---------------------------------------------------------------------------

variable {α β : Type}

def slice (start stop : Nat) (list : List α) : Option (List α) :=
  if start ≤ stop ∧ stop ≤ list.length then some ((list.take stop).drop start) else none

theorem slice_of_le {start stop : Nat} {list : List α} (ordered : start ≤ stop)
    (inside : stop ≤ list.length) : slice start stop list = some ((list.take stop).drop start) :=
  if_pos ⟨ordered, inside⟩

def each (f : α → Option β) : List α → Option (List β)
  | [] => some []
  | item :: items => do
    let first ← f item
    let others ← each f items
    some (first :: others)

theorem each_eq_map {f : α → Option β} {g : α → β} {list : List α}
    (all : ∀ item ∈ list, f item = some (g item)) : each f list = some (list.map g) := by
  induction list with
  | nil => rfl
  | cons item items ih =>
    obtain ⟨first, others⟩ := List.forall_mem_cons.mp all
    rw [each, first, ih others]
    rfl

end KnobPanel.Word
