import KnobPanel.Proofs.TypingRate
import Mathlib.Data.List.Forall2

/-!
# Polled typing rates

A decay that acts leaves its own time behind, so that the next press measures from
the decay and not from the press before it: polling shortens intervals, and a shorter
interval has a higher rate. Whether a pause may be polled without raising the
estimate depends on the times in that pause alone.
-/

namespace KnobPanel.KeyRate

def pressRates : List Call → KeyRate → List Nat
  | [], _ => []
  | .press now :: calls, counter =>
    (counter.press now).rate :: pressRates calls (counter.press now)
  | .decay now :: calls, counter => pressRates calls (counter.decay now)

/-- The presses alone give no lower estimates. -/
def NeverRaised (calls : List Call) : Prop :=
  List.Forall₂ (· ≤ ·) (pressRates calls {}) (pressRates (calls.filter Call.isPress) {})

-- ---------------------------------------------------------------------------
-- Gaps
-- ---------------------------------------------------------------------------

/-- Two presses and the decays between them. -/
structure Gap where
  since : Millis
  polls : List Millis
  press : Millis
  deriving DecidableEq

namespace Gap

/-- The time that decays leave behind. -/
def measured (since : Millis) (polls : List Millis) : Millis :=
  polls.foldl (fun since now => if decayMs < Clock.elapsed now since then now else since) since

/-- What the rate of an interval alone adds to the estimate. -/
def share (gap : Gap) (since : Millis) : Nat := instantaneous (Clock.elapsed gap.press since) / 13

/-- The interval that the press measures adds no more than the whole gap. -/
def Unraised (gap : Gap) : Prop :=
  gap.share (measured gap.since gap.polls) ≤ gap.share gap.since

def calls (gap : Gap) : List Call := .press gap.since :: gap.polls.map .decay ++ [.press gap.press]

end Gap

def gapsFrom (since : Millis) (polls : List Millis) : List Call → List Gap
  | [] => []
  | .press now :: calls => ⟨since, polls, now⟩ :: gapsFrom now [] calls
  | .decay now :: calls => gapsFrom since (polls ++ [now]) calls

def gaps : List Call → List Gap
  | [] => []
  | .press now :: calls => gapsFrom now [] calls
  | .decay _ :: calls => gaps calls

section
variable {counter polled plain : KeyRate} {since now : Millis} {gap : Gap}

theorem last_decayAll (polls : List Millis) (timed : counter.last = some since) :
    (counter.decayAll polls).last = some (Gap.measured since polls) := by
  induction polls generalizing counter since with
  | nil => exact timed
  | cons now polls ih =>
    refine ih ?_
    rw [last_decay, acts, timed]
    simp only [Option.any_some, decide_eq_true_eq]
    split <;> rfl

theorem decayAll_of_acting_eq_zero {polls : List Millis} (rests : acting polls counter = 0) :
    counter.decayAll polls = counter := by
  induction polls generalizing counter with
  | nil => rfl
  | cons now polls ih =>
    obtain ⟨first, later⟩ := Nat.add_eq_zero_iff.mp rests
    have same : counter.decay now = counter := decay_of_not_acts (Bool.toNat_eq_zero.mp first)
    rw [same] at later
    rw [decayAll, List.foldl_cons, same]
    exact ih later

theorem blend_le_blend {instant rate rate' : Nat} (le : rate ≤ rate') :
    blend instant rate ≤ blend instant rate' := by
  simp only [blend]
  omega

/-- One key of the estimate outweighs what a press can win by rounding. -/
theorem blend_le_of_decayed {instant instant' rate rate' : Nat} (le : rate ≤ rate' - 1)
    (share : instant / 13 ≤ instant' / 13) : blend instant rate ≤ blend instant' rate' := by
  simp only [blend]
  omega

theorem rate_press (timed : counter.last = some since) :
    (counter.press now).rate =
      blend (instantaneous (Clock.elapsed now since)) counter.rate := by
  simp only [press, timed]

theorem Gap.Unraised.rate_press_le (unraised : gap.Unraised) (timed : polled.last = some gap.since)
    (timed' : plain.last = some gap.since) (le : polled.rate ≤ plain.rate) :
    ((polled.decayAll gap.polls).press gap.press).rate ≤ (plain.press gap.press).rate := by
  rw [rate_press timed']
  rcases Nat.eq_zero_or_pos (acting gap.polls polled) with rests | acted
  · rw [decayAll_of_acting_eq_zero rests, rate_press timed]
    exact blend_le_blend le
  · rw [rate_press (last_decayAll gap.polls timed)]
    have decayed := rate_decayAll_le gap.polls polled
    exact blend_le_of_decayed (by omega) unraised

theorem pressRates_gapsFrom {calls : List Call} {polls : List Millis}
    (unraised : ∀ gap ∈ gapsFrom since polls calls, gap.Unraised)
    (timed : polled.last = some since) (timed' : plain.last = some since)
    (le : polled.rate ≤ plain.rate) :
    List.Forall₂ (· ≤ ·) (pressRates calls (polled.decayAll polls))
      (pressRates (calls.filter Call.isPress) plain) := by
  induction calls generalizing since polls polled plain with
  | nil => exact .nil
  | cons call calls ih =>
    cases call with
    | press now =>
      obtain ⟨first, later⟩ := List.forall_mem_cons.mp unraised
      have lower := first.rate_press_le timed timed' le
      exact .cons lower (ih later rfl rfl lower)
    | decay now =>
      have next := ih unraised timed timed' le
      rwa [decayAll_append] at next

theorem neverRaised_of_gaps {calls : List Call} (unraised : ∀ gap ∈ gaps calls, gap.Unraised) :
    NeverRaised calls := by
  induction calls with
  | nil => exact .nil
  | cons call calls ih =>
    cases call with
    | press now =>
      have same := Nat.le_refl (press now {}).rate
      exact .cons same (pressRates_gapsFrom unraised rfl rfl same)
    | decay now => exact ih unraised

-- ---------------------------------------------------------------------------
-- One gap on its own
-- ---------------------------------------------------------------------------

theorem gapsFrom_map_decay (polls later : List Millis) (calls : List Call) :
    gapsFrom since polls (later.map .decay ++ calls) = gapsFrom since (polls ++ later) calls := by
  induction later generalizing polls with
  | nil => rw [List.append_nil]; rfl
  | cons now later ih => rw [List.append_cons]; exact ih _

theorem pressRates_map_decay (polls : List Millis) (calls : List Call) (counter : KeyRate) :
    pressRates (polls.map .decay ++ calls) counter = pressRates calls (counter.decayAll polls) := by
  induction polls generalizing counter with
  | nil => rfl
  | cons now polls ih => exact ih _

theorem Gap.gaps_calls (gap : Gap) : gaps gap.calls = [gap] :=
  gapsFrom_map_decay [] gap.polls [.press gap.press]

theorem Gap.filter_calls (gap : Gap) :
    gap.calls.filter Call.isPress = [.press gap.since, .press gap.press] := by
  have none : (gap.polls.map Call.decay).filter Call.isPress = [] := by
    simp [Call.isPress]
  rw [calls, List.cons_append, List.filter_cons_of_pos rfl, List.filter_append, none]
  rfl

theorem rate_press_of_rate_eq_zero (now : Millis) (zero : counter.rate = 0)
    (timed : counter.last = some since) :
    (counter.press now).rate = instantaneous (Clock.elapsed now since) / 13 := by
  rw [rate_press timed, zero, blend_eq (instantaneous_le _) (Nat.zero_le _)]
  rfl

theorem Gap.pressRates_calls (gap : Gap) :
    pressRates gap.calls {} = [0, gap.share (measured gap.since gap.polls)] := by
  have decayed := rate_decayAll_le gap.polls (KeyRate.press gap.since {})
  have zero : ((KeyRate.press gap.since {}).decayAll gap.polls).rate = 0 :=
    Nat.eq_zero_of_le_zero (Nat.le_trans decayed (Nat.sub_le 0 _))
  have last := rate_press_of_rate_eq_zero gap.press zero (last_decayAll gap.polls rfl)
  rw [calls, List.cons_append, pressRates, pressRates_map_decay, pressRates, last]
  rfl

theorem Gap.neverRaised_calls (gap : Gap) : NeverRaised gap.calls ↔ gap.Unraised := by
  have alone := Gap.pressRates_calls ⟨gap.since, [], gap.press⟩
  have plain : pressRates [.press gap.since, .press gap.press] {} = [0, gap.share gap.since] :=
    alone
  rw [NeverRaised, filter_calls, pressRates_calls, plain]
  simp [Unraised]

end

/-- Polls that may stand in some gaps raise no estimate, in a run of any number of these
gaps, exactly when in each of them the press does not measure too short an interval. -/
theorem neverRaised_iff (allowed : Gap → Prop) :
    (∀ calls, (∀ gap ∈ gaps calls, allowed gap) → NeverRaised calls) ↔
      ∀ gap, allowed gap → gap.Unraised := by
  constructor
  · intro never gap allows
    refine gap.neverRaised_calls.mp (never gap.calls ?_)
    rw [gap.gaps_calls]
    simpa using allows
  · intro unraised calls allows
    exact neverRaised_of_gaps fun gap found => unraised gap (allows gap found)

def polledOnce : List Call := [.press 0, .decay 501, .press 502]

theorem not_neverRaised_polledOnce :
    (polledOnce.map Call.time).Pairwise (· ≤ ·) ∧
    pressRates polledOnce {} = [0, 4615] ∧
    pressRates (polledOnce.filter Call.isPress) {} = [0, 9] ∧ ¬NeverRaised polledOnce := by
  have polled : pressRates polledOnce {} = [0, 4615] := by decide
  have plain : pressRates (polledOnce.filter Call.isPress) {} = [0, 9] := by decide
  refine ⟨by decide, polled, plain, ?_⟩
  rw [NeverRaised, polled, plain]
  simp

end KnobPanel.KeyRate
