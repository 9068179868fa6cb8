import KnobPanel.Input.Acceleration
import Mathlib.Data.List.Induction

/-!
# Runs of fast detents

The steps that a detent counts for follow from the fast detents right before it and from
the ceiling alone: each of them adds two, and a slow one starts anew.
-/

namespace KnobPanel.Acceleration

-- ---------------------------------------------------------------------------
-- Gaps
-- ---------------------------------------------------------------------------

def gaps (times : List Millis) : List UInt32 :=
  times.zipWith (fun since now => Clock.elapsed now since) times.tail

/-- The number of fast gaps in a row that detents at the given times end with. -/
def fastRun (times : List Millis) : Nat :=
  ((gaps times).reverse.takeWhile fun gap => gap < windowMs).length

section
variable {ceiling : Nat} {times : List Millis} {since now : Millis} {acceleration : Acceleration}

theorem gaps_concat :
    gaps (times ++ [since] ++ [now]) = gaps (times ++ [since]) ++ [Clock.elapsed now since] := by
  induction times with
  | nil => rfl
  | cons first times ih =>
    cases times with
    | nil => rfl
    | cons second times => exact congrArg (Clock.elapsed second first :: ·) ih

theorem fastRun_concat :
    fastRun (times ++ [since] ++ [now]) =
      if Clock.elapsed now since < windowMs then fastRun (times ++ [since]) + 1 else 0 := by
  rw [fastRun, gaps_concat, List.reverse_append, List.reverse_singleton, List.singleton_append,
    List.takeWhile_cons]
  simp only [decide_eq_true_eq]
  split <;> rfl

-- ---------------------------------------------------------------------------
-- Steps
-- ---------------------------------------------------------------------------

theorem steps_of_last (on : acceleration.ceiling ≠ 0) (last : acceleration.last = some since) :
    acceleration.steps now =
      let multiplier :=
        if Clock.elapsed now since < windowMs then
          min (acceleration.multiplier + 2) acceleration.ceiling
        else 1
      (multiplier, { acceleration with multiplier, last := some now }) := by
  simp [steps, isFast, on, last]

theorem steps_of_none (on : acceleration.ceiling ≠ 0) (last : acceleration.last = none) :
    acceleration.steps now = (1, { acceleration with multiplier := 1, last := some now }) := by
  simp [steps, isFast, on, last]

/-- The steps of a detent as a byte counts them: a sum that does not fit stops at the
highest value. -/
def byteSteps (now : Millis) (acceleration : Acceleration) : Nat × Acceleration :=
  if acceleration.ceiling = 0 then
    (1, acceleration)
  else
    let multiplier :=
      if acceleration.isFast now then
        min (min (acceleration.multiplier + 2) (UInt8.size - 1)) acceleration.ceiling
      else 1
    (multiplier, { acceleration with multiplier, last := some now })

theorem byteSteps_eq (fits : acceleration.ceiling < UInt8.size) :
    acceleration.byteSteps now = acceleration.steps now := by
  have cut : min (min (acceleration.multiplier + 2) (UInt8.size - 1)) acceleration.ceiling =
      min (acceleration.multiplier + 2) acceleration.ceiling := by
    omega
  rw [byteSteps, steps, cut]

-- ---------------------------------------------------------------------------
-- Detents in a row
-- ---------------------------------------------------------------------------

def turned (times : List Millis) (acceleration : Acceleration) : Acceleration :=
  times.foldl (fun acceleration now => (acceleration.steps now).2) acceleration

theorem turned_concat :
    acceleration.turned (times ++ [now]) = ((acceleration.turned times).steps now).2 :=
  List.foldl_append

structure Wound (ceiling : Nat) (times : List Millis) (acceleration : Acceleration) : Prop where
  ceiling_eq : acceleration.ceiling = ceiling
  last_eq : acceleration.last = times.getLast?
  multiplier_eq : times ≠ [] → acceleration.multiplier = min (1 + 2 * fastRun times) ceiling

theorem Wound.steps (wound : Wound ceiling times acceleration) (positive : 0 < ceiling)
    (now : Millis) :
    (acceleration.steps now).1 = min (1 + 2 * fastRun (times ++ [now])) ceiling ∧
      Wound ceiling (times ++ [now]) (acceleration.steps now).2 := by
  have on : acceleration.ceiling ≠ 0 := wound.ceiling_eq ▸ Nat.ne_of_gt positive
  cases last : times.getLast? with
  | none =>
    obtain rfl := List.getLast?_eq_none_iff.mp last
    have one : 1 = min (1 + 2 * fastRun ([] ++ [now])) ceiling := (Nat.min_eq_left positive).symm
    rw [steps_of_none on wound.last_eq]
    exact ⟨one, wound.ceiling_eq, rfl, fun _ => one⟩
  | some since =>
    obtain ⟨before, rfl⟩ := List.getLast?_eq_some_iff.mp last
    have next : (if Clock.elapsed now since < windowMs then
          min (acceleration.multiplier + 2) acceleration.ceiling else 1) =
        min (1 + 2 * fastRun (before ++ [since] ++ [now])) ceiling := by
      rw [fastRun_concat, wound.ceiling_eq, wound.multiplier_eq (by simp)]
      split <;> omega
    rw [steps_of_last on (wound.last_eq.trans last)]
    exact ⟨next, wound.ceiling_eq, List.getLast?_concat.symm, fun _ => next⟩

theorem wound_turned (positive : 0 < ceiling) (times : List Millis) :
    Wound ceiling times (turned times (enable ceiling {})) := by
  induction times using List.reverseRecOn with
  | nil => exact ⟨rfl, rfl, nofun⟩
  | append_singleton times now ih =>
    rw [turned_concat]
    exact (ih.steps positive now).2

/-- The steps that a detent counts for after others. -/
structure Stepped (ceiling : Nat) (before : List Millis) (now : Millis) (steps : Nat) : Prop where
  closed : steps = min (1 + 2 * fastRun (before ++ [now])) ceiling
  least : 1 ≤ steps
  most : steps ≤ ceiling
  first : before = [] → steps = 1
  slow (since : Millis) : before.getLast? = some since → windowMs ≤ Clock.elapsed now since →
    steps = 1

theorem Wound.stepped {before : List Millis} (wound : Wound ceiling before acceleration)
    (positive : 0 < ceiling) (now : Millis) :
    Stepped ceiling before now (acceleration.steps now).1 := by
  obtain ⟨closed, -⟩ := wound.steps positive now
  refine ⟨closed, by omega, by omega, ?_, ?_⟩
  · rintro rfl
    exact closed.trans (Nat.min_eq_left positive)
  · intro since last slow
    obtain ⟨earlier, rfl⟩ := List.getLast?_eq_some_iff.mp last
    rw [closed, fastRun_concat, if_neg (UInt32.not_lt.mpr slow)]
    exact Nat.min_eq_left positive

/-- Detents from a fresh start: their steps in closed form, and in a byte, too. -/
theorem steps_turned (positive : 0 < ceiling) (before : List Millis) (now : Millis) :
    Stepped ceiling before now ((turned before (enable ceiling {})).steps now).1 ∧
      (ceiling < UInt8.size →
        (turned before (enable ceiling {})).byteSteps now =
          (turned before (enable ceiling {})).steps now) := by
  have wound := wound_turned positive before
  refine ⟨wound.stepped positive now, fun fits => byteSteps_eq ?_⟩
  rwa [wound.ceiling_eq]

/-- Three fast detents in a row, the clock rolling over between them, at a ceiling that
cuts the last step. -/
theorem steps_turned_rollover :
    0 < 6 ∧ fastRun [4294967200, 4294967290, 60, 120] = 3 ∧
      ((turned [4294967200, 4294967290, 60] (enable 6 {})).steps 120).1 = 6 ∧
      Stepped 6 [4294967200, 4294967290, 60] 120
        ((turned [4294967200, 4294967290, 60] (enable 6 {})).steps 120).1 :=
  ⟨by decide, by decide, by decide, (steps_turned (by decide) _ _).1⟩

end

end KnobPanel.Acceleration
