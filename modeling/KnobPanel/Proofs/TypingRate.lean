import KnobPanel.Input.KeyRate
import Mathlib.Data.List.Induction

/-!
# Bounds of the typing rate

A press moves the estimate towards the rate of its own interval, and no interval has
a rate above one key a millisecond. Silence takes the estimate down to zero, since
every decay that acts takes something.
-/

namespace KnobPanel.KeyRate

-- ---------------------------------------------------------------------------
-- Presses
-- ---------------------------------------------------------------------------

def fastest : Nat := 60000

theorem instantaneous_le (elapsed : UInt32) : instantaneous elapsed ≤ fastest :=
  Nat.div_le_self _ _

theorem average_le {instant rate : Nat} (le : instant ≤ fastest) (le' : rate ≤ fastest) :
    (instant + 12 * rate) / 13 ≤ fastest := by
  omega

/-- The average of rates in bounds is in bounds, so the saturation has nothing to do. -/
theorem blend_eq {instant rate : Nat} (le : instant ≤ fastest) (le' : rate ≤ fastest) :
    blend instant rate = (instant + 12 * rate) / 13 := by
  have average := average_le le le'
  exact Nat.min_eq_left (Nat.le_trans average (by decide))

theorem min_le_average (instant rate : Nat) : min rate instant ≤ (instant + 12 * rate) / 13 := by
  omega

theorem average_le_max (instant rate : Nat) : (instant + 12 * rate) / 13 ≤ max rate instant := by
  omega

theorem toNat_ofNat_of_le {rate : Nat} (le : rate ≤ fastest) : (UInt16.ofNat rate).toNat = rate :=
  UInt16.toNat_ofNat_of_lt (Nat.lt_of_le_of_lt le (by decide))

section
variable {counter : KeyRate} {now since : Millis}

/-- A press after the first: neither the saturation nor sixteen bits cut the average
off, and it lies between the old rate and the rate of the interval. -/
structure Averaged (since now : Millis) (counter : KeyRate) : Prop where
  rate_eq : (counter.press now).rate =
    (instantaneous (Clock.elapsed now since) + 12 * counter.rate) / 13
  uncut : (UInt16.ofNat (counter.press now).rate).toNat = (counter.press now).rate
  least : min counter.rate (instantaneous (Clock.elapsed now since)) ≤ (counter.press now).rate
  most : (counter.press now).rate ≤ max counter.rate (instantaneous (Clock.elapsed now since))

theorem averaged_press (le : counter.rate ≤ fastest) (timed : counter.last = some since) :
    Averaged since now counter := by
  have average : (counter.press now).rate =
      (instantaneous (Clock.elapsed now since) + 12 * counter.rate) / 13 := by
    simp only [press, timed]
    exact blend_eq (instantaneous_le _) le
  refine ⟨average, ?_, ?_, ?_⟩ <;> rw [average]
  · exact toNat_ofNat_of_le (average_le (instantaneous_le _) le)
  · exact min_le_average _ _
  · exact average_le_max _ _

theorem rate_press_le_fastest (le : counter.rate ≤ fastest) :
    (counter.press now).rate ≤ fastest := by
  cases timed : counter.last with
  | none => rwa [press, timed]
  | some since =>
    rw [(averaged_press le timed).rate_eq]
    exact average_le (instantaneous_le _) le

-- ---------------------------------------------------------------------------
-- Decays
-- ---------------------------------------------------------------------------

def acts (now : Millis) (counter : KeyRate) : Bool :=
  counter.last.any fun since => decayMs < Clock.elapsed now since

theorem decay_of_acts (acts : counter.acts now = true) :
    counter.decay now = { counter with rate := counter.rate * 12 / 13, last := some now } := by
  obtain ⟨total, rate, last⟩ := counter
  cases last with
  | none => cases acts
  | some since => exact if_pos (of_decide_eq_true acts)

theorem decay_of_not_acts (rests : counter.acts now = false) : counter.decay now = counter := by
  obtain ⟨total, rate, last⟩ := counter
  cases last with
  | none => rfl
  | some since => exact if_neg (of_decide_eq_false rests)

theorem total_decay (now : Millis) (counter : KeyRate) :
    (counter.decay now).total = counter.total := by
  cases acts : counter.acts now with
  | true => rw [decay_of_acts acts]
  | false => rw [decay_of_not_acts acts]

theorem last_decay (now : Millis) (counter : KeyRate) :
    (counter.decay now).last = if counter.acts now then some now else counter.last := by
  cases acts : counter.acts now with
  | true => rw [decay_of_acts acts, if_pos rfl]
  | false => rw [decay_of_not_acts acts, if_neg Bool.false_ne_true]

theorem isSome_last_decay (now : Millis) (counter : KeyRate) :
    (counter.decay now).last.isSome = counter.last.isSome := by
  rw [last_decay]
  split
  · next acts => cases timed : counter.last <;> simp_all [KeyRate.acts]
  · rfl

theorem rate_decay_le_rate (now : Millis) (counter : KeyRate) :
    (counter.decay now).rate ≤ counter.rate := by
  cases acts : counter.acts now with
  | true =>
    rw [decay_of_acts acts]
    simp only
    omega
  | false => exact Nat.le_of_eq (congrArg rate (decay_of_not_acts acts))

theorem rate_decay_lt (acts : counter.acts now = true) (pos : 0 < counter.rate) :
    (counter.decay now).rate < counter.rate := by
  rw [decay_of_acts acts]
  simp only
  omega

end

def decayAll (times : List Millis) (counter : KeyRate) : KeyRate :=
  times.foldl (fun counter now => counter.decay now) counter

theorem decayAll_append (times later : List Millis) (counter : KeyRate) :
    counter.decayAll (times ++ later) = (counter.decayAll times).decayAll later :=
  List.foldl_append

/-- The number of decays that act, of those called at the given times. -/
def acting : List Millis → KeyRate → Nat
  | [], _ => 0
  | now :: times, counter => (counter.acts now).toNat + acting times (counter.decay now)

theorem rate_decayAll_le (times : List Millis) (counter : KeyRate) :
    (counter.decayAll times).rate ≤ counter.rate - acting times counter := by
  induction times generalizing counter with
  | nil => exact Nat.le_refl _
  | cons now times ih =>
    have later : (counter.decayAll (now :: times)).rate ≤
        (counter.decay now).rate - acting times (counter.decay now) := ih _
    cases acts : counter.acts now with
    | true =>
      have took : (counter.decay now).rate ≤ counter.rate - 1 := by
        rcases Nat.eq_zero_or_pos counter.rate with zero | pos
        · have le := rate_decay_le_rate now counter
          omega
        · exact Nat.le_sub_one_of_lt (rate_decay_lt acts pos)
      simp only [acting, acts, Bool.toNat_true]
      omega
    | false =>
      have kept := rate_decay_le_rate now counter
      simp only [acting, acts, Bool.toNat_false]
      omega

-- ---------------------------------------------------------------------------
-- Runs
-- ---------------------------------------------------------------------------

inductive Call where
  | press (now : Millis)
  | decay (now : Millis)
  deriving DecidableEq

namespace Call

def isPress : Call → Bool
  | press _ => true
  | decay _ => false

def time : Call → Millis
  | press now | decay now => now

end Call

def perform (call : Call) (counter : KeyRate) : KeyRate :=
  match call with
  | .press now => counter.press now
  | .decay now => counter.decay now

def run (calls : List Call) (counter : KeyRate) : KeyRate :=
  calls.foldl (fun counter call => counter.perform call) counter

theorem run_concat (calls : List Call) (call : Call) (counter : KeyRate) :
    counter.run (calls ++ [call]) = (counter.run calls).perform call := by
  simp [run, List.foldl_append]

structure Counted (calls : List Call) (counter : KeyRate) : Prop where
  rate_le : counter.rate ≤ fastest
  total_eq : counter.total.toNat = calls.countP Call.isPress % UInt32.size
  timed : counter.last.isSome = calls.any Call.isPress

theorem Counted.perform {calls : List Call} {counter : KeyRate} (counted : Counted calls counter)
    (call : Call) : Counted (calls ++ [call]) (counter.perform call) := by
  have total := counted.total_eq
  cases call with
  | press now =>
    refine ⟨rate_press_le_fastest counted.rate_le, ?_, ?_⟩
    · simp only [KeyRate.perform, KeyRate.press, UInt32.toNat_add, UInt32.toNat_one, total,
        List.countP_append, List.countP_singleton, Call.isPress, ↓reduceIte]
      exact Nat.mod_add_mod _ _ _
    · simp [KeyRate.perform, KeyRate.press, Call.isPress]
  | decay now =>
    refine ⟨Nat.le_trans (rate_decay_le_rate now counter) counted.rate_le, ?_, ?_⟩
    · simpa [KeyRate.perform, total_decay, Call.isPress] using total
    · simp [KeyRate.perform, isSome_last_decay, counted.timed, Call.isPress]

theorem counted_run (calls : List Call) : Counted calls (run calls {}) := by
  induction calls using List.reverseRecOn with
  | nil => exact ⟨Nat.zero_le _, rfl, rfl⟩
  | append_singleton calls call ih =>
    rw [run_concat]
    exact ih.perform call

/-- A counter after some calls, and what the next ones may do to it. -/
structure Bounded (calls : List Call) (counter : KeyRate) : Prop extends
    Counted calls counter where
  press (since now : Millis) : counter.last = some since → Averaged since now counter
  decay (now : Millis) : (counter.decay now).rate ≤ counter.rate
  acts (since now : Millis) : counter.last = some since → decayMs < Clock.elapsed now since →
    0 < counter.rate → (counter.decay now).rate < counter.rate
  uncut : (UInt16.ofNat (counter.rate * 12 / 13)).toNat = counter.rate * 12 / 13
  /-- As many decays as the estimate is high end it, and later ones change nothing. -/
  silence (times later : List Millis) : counter.rate ≤ acting times counter →
    (counter.decayAll (times ++ later)).rate = 0

theorem bounded_run (calls : List Call) : Bounded calls (run calls {}) := by
  have counted := counted_run calls
  constructor
  case toCounted => exact counted
  case press => exact fun since now timed => averaged_press counted.rate_le timed
  case decay => exact fun now => rate_decay_le_rate now _
  case acts =>
    intro since now timed silent
    exact rate_decay_lt (by simp [KeyRate.acts, timed, silent])
  case uncut =>
    have le := counted.rate_le
    exact toNat_ofNat_of_le (by omega)
  case silence =>
    intro times later silent
    have gone := rate_decayAll_le times (run calls {})
    have kept := rate_decayAll_le later ((run calls {}).decayAll times)
    rw [decayAll_append]
    omega

end KnobPanel.KeyRate
