import KnobPanel.Pomodoro
import Mathlib.Data.List.Induction

/-!
# Phases of the pomodoro timer

The timer goes round a circle of five phases, one phase a call at most. Whatever the
clock says, the work period keeps to its range once it is chosen, and a tick is done
after two transitions.
-/

namespace KnobPanel.Pomodoro

-- ---------------------------------------------------------------------------
-- One tick
-- ---------------------------------------------------------------------------

section
variable {timer : Pomodoro} (now : Millis)

theorem advance_idle (idle : timer.phase = .idle) :
    timer.advance now = ({}, { timer with
      phase := .setTime
      minutes := if timer.minutes = 0 then defaultMinutes else timer.minutes }) := by
  simp [advance, settle, transition, idle]

theorem advance_setTime (setting : timer.phase = .setTime) : timer.advance now = ({}, timer) := by
  simp [advance, settle, transition, setting]

theorem advance_work (working : timer.phase = .work) :
    timer.advance now =
      ({}, if Clock.passed now timer.deadline then { timer with phase := .flash, flashed := 0 }
        else timer) := by
  simp only [advance, settle, transition, working]
  split <;> rfl

/-- The counter of the flash ends far below the number it saturates at. -/
theorem advance_flash (flash : timer.phase = .flash) (going : timer.flashed < flashFrames) :
    timer.advance now =
      ({ toggleInvert := (timer.flashed + 1) % 8 = 7 },
        { timer with flashed := timer.flashed + 1 }) := by
  have short : flashFrames ≤ 255 := by decide
  have counted : min (timer.flashed + 1) 255 = timer.flashed + 1 := by omega
  have unfinished : ¬flashFrames < timer.flashed + 1 := by omega
  simp [advance, settle, transition, flash, counted, unfinished]

theorem advance_flash_last (flash : timer.phase = .flash) (last : timer.flashed = flashFrames) :
    timer.advance now =
      ({ restoreInvert := true, redraw := true },
        { timer.rested now with flashed := flashFrames + 1 }) := by
  have counted : min (flashFrames + 1) 255 = flashFrames + 1 := by decide
  have even : ¬(flashFrames + 1) % 8 = 7 := by decide
  simp [advance, settle, transition, rested, flash, last, counted, even]

theorem advance_rest (resting : timer.phase = .rest) :
    timer.advance now =
      if Clock.reached now timer.deadline then ({ redraw := true }, { timer with phase := .idle })
      else ({}, timer) := by
  simp only [advance, settle, transition, resting]
  split <;> rfl

theorem minutes_advance (timer : Pomodoro) :
    (timer.advance now).2.minutes =
      if timer.phase = .idle ∧ timer.minutes = 0 then defaultMinutes else timer.minutes := by
  cases phase : timer.phase with
  | idle => simp only [advance_idle now phase, true_and]
  | setTime => simp [advance_setTime now phase]
  | work | flash | rest =>
    simp only [advance, settle, transition, phase, reduceCtorEq, false_and, ↓reduceIte]
    split <;> rfl

end

/-- The transitions of a tick, so many of them, up to the first that settles. -/
inductive Settles (now : Millis) : Nat → Pomodoro → Effects × Pomodoro → Prop
  | last {timer : Pomodoro} : (timer.transition now).settled = true →
      Settles now 1 timer ((timer.transition now).effects, (timer.transition now).timer)
  | next {timer : Pomodoro} {n : Nat} {outcome : Effects × Pomodoro} :
      (timer.transition now).settled = false →
      Settles now n (timer.transition now).timer outcome → Settles now (n + 1) timer outcome

section
variable {now : Millis} {timer : Pomodoro} {n m : Nat} {outcome outcome' : Effects × Pomodoro}

theorem Settles.unique (settles : Settles now n timer outcome)
    (settles' : Settles now m timer outcome') : n = m ∧ outcome = outcome' := by
  induction settles generalizing m with
  | last settled =>
    cases settles' with
    | last => exact ⟨rfl, rfl⟩
    | next unsettled => rw [settled] at unsettled; cases unsettled
  | next unsettled _ ih =>
    cases settles' with
    | last settled => rw [settled] at unsettled; cases unsettled
    | next _ later =>
      obtain ⟨rfl, rfl⟩ := ih later
      exact ⟨rfl, rfl⟩

theorem settled_of_ne_idle (awake : timer.phase ≠ .idle) :
    (timer.transition now).settled = true := by
  obtain ⟨phase, deadline, minutes, flashed⟩ := timer
  cases phase with
  | idle => exact absurd rfl awake
  | setTime => rfl
  | work | flash | rest =>
    simp only [transition]
    split <;> rfl

/-- The loop ends after one transition or two, and then with the outcome of the tick. -/
theorem settles_advance (now : Millis) (timer : Pomodoro) :
    ∃ n ≤ 2, Settles now n timer (timer.advance now) := by
  cases settled : (timer.transition now).settled with
  | true =>
    have same : timer.advance now =
        ((timer.transition now).effects, (timer.transition now).timer) := by
      simp only [advance, settle, settled, ↓reduceIte]
    rw [same]
    exact ⟨1, by decide, .last settled⟩
  | false =>
    have idle : timer.phase = .idle := by
      by_contra awake
      rw [settled_of_ne_idle awake] at settled
      cases settled
    have awake : (timer.transition now).timer.phase ≠ .idle := by simp [transition, idle]
    have settled' : ((timer.transition now).timer.transition now).settled = true :=
      settled_of_ne_idle awake
    have same : timer.advance now =
        (((timer.transition now).timer.transition now).effects,
          ((timer.transition now).timer.transition now).timer) := by
      simp only [advance, settle, settled, settled', Bool.false_eq_true, ↓reduceIte]
    rw [same]
    exact ⟨2, by decide, .next settled (.last settled')⟩

end

-- ---------------------------------------------------------------------------
-- One call
-- ---------------------------------------------------------------------------

inductive Call where
  | advance (now : Millis)
  | adjust (clockwise : Bool)
  | start (now : Millis)
  | leave (now : Millis)
  deriving DecidableEq

def Call.isAdvance : Call → Bool
  | advance _ => true
  | adjust _ | start _ | leave _ => false

def perform (call : Call) (timer : Pomodoro) : Pomodoro :=
  match call with
  | .advance now => (timer.advance now).2
  | .adjust clockwise => (timer.adjust clockwise).2
  | .start now => (timer.start now).2
  | .leave now => (timer.leave now).2

def Phase.next : Phase → Phase
  | idle => setTime
  | setTime => work
  | work => flash
  | flash => rest
  | rest => idle

def moves (call : Call) (timer : Pomodoro) : Bool :=
  match call, timer.phase with
  | .advance _, .idle => true
  | .advance now, .work => Clock.passed now timer.deadline
  | .advance _, .flash => timer.flashed = flashFrames
  | .advance now, .rest => Clock.reached now timer.deadline
  | .start _, .setTime => true
  | .leave _, .flash => true
  | _, _ => false

structure Ranged (timer : Pomodoro) : Prop where
  minutes : timer.minutes = 0 ∨ minMinutes ≤ timer.minutes ∧ timer.minutes ≤ maxMinutes
  chosen : timer.phase ≠ .idle → timer.minutes ≠ 0
  flashed : timer.flashed ≤ flashFrames + 1
  flashing : timer.phase = .flash → timer.flashed ≤ flashFrames

/-- All that a call can make of a timer in its ranges. -/
inductive Move (met : Pomodoro) : Call → Pomodoro → Prop
  | nothing (call : Call) : Move met call met
  | opened (now : Millis) : met.phase = .idle →
      Move met (.advance now) { met with
        phase := .setTime
        minutes := if met.minutes = 0 then defaultMinutes else met.minutes }
  | adjusted (clockwise : Bool) (minutes : Nat) : met.phase = .setTime →
      minMinutes ≤ minutes → minutes ≤ maxMinutes →
      Move met (.adjust clockwise) { met with minutes }
  | started (now deadline : Millis) : met.phase = .setTime →
      Move met (.start now) { met with phase := .work, deadline }
  | expired (now : Millis) : met.phase = .work →
      Move met (.advance now) { met with phase := .flash, flashed := 0 }
  | flashed (now : Millis) : met.phase = .flash → met.flashed < flashFrames →
      Move met (.advance now) { met with flashed := met.flashed + 1 }
  | finished (now : Millis) : met.phase = .flash →
      Move met (.advance now) { met.rested now with flashed := flashFrames + 1 }
  | cutShort (now : Millis) : met.phase = .flash → Move met (.leave now) (met.rested now)
  | recovered (now : Millis) : met.phase = .rest →
      Move met (.advance now) { met with phase := .idle }

section
variable {met left timer : Pomodoro} {call : Call}

theorem Ranged.move (ranged : timer.Ranged) (call : Call) :
    timer.Move call (timer.perform call) := by
  cases call with
  | advance now =>
    simp only [perform]
    cases phase : timer.phase with
    | idle => rw [advance_idle now phase]; exact .opened now phase
    | setTime => rw [advance_setTime now phase]; exact .nothing _
    | work =>
      rw [advance_work now phase]
      simp only
      split
      · exact .expired now phase
      · exact .nothing _
    | flash =>
      rcases Nat.lt_or_eq_of_le (ranged.flashing phase) with going | last
      · rw [advance_flash now phase going]; exact .flashed now phase going
      · rw [advance_flash_last now phase last]; exact .finished now phase
    | rest =>
      rw [advance_rest now phase]
      split
      · exact .recovered now phase
      · exact .nothing _
  | adjust clockwise =>
    simp only [perform, adjust]
    split
    case isTrue setting =>
      exact .adjusted clockwise _ setting (Nat.le_max_left _ _)
        (Nat.max_le.mpr ⟨by decide, Nat.min_le_right _ _⟩)
    case isFalse => exact .nothing _
  | start now =>
    simp only [perform, start]
    split
    case isTrue setting => exact .started now _ setting
    case isFalse => exact .nothing _
  | leave now =>
    simp only [perform, leave]
    split
    case isTrue flash => exact .cutShort now flash
    case isFalse => exact .nothing _

theorem Ranged.phase_perform (ranged : timer.Ranged) (call : Call) :
    (timer.perform call).phase = if timer.moves call then timer.phase.next else timer.phase := by
  cases call with
  | advance now =>
    cases phase : timer.phase with
    | idle => simp [perform, moves, phase, advance_idle, Phase.next]
    | setTime => simp [perform, moves, phase, advance_setTime]
    | work =>
      simp only [perform, moves, phase, advance_work now phase]
      split <;> simp [Phase.next, phase]
    | flash =>
      rcases Nat.lt_or_eq_of_le (ranged.flashing phase) with going | last
      · simp [perform, moves, phase, advance_flash now phase going, Nat.ne_of_lt going]
      · simp [perform, moves, phase, advance_flash_last now phase last, last, rested, Phase.next]
    | rest =>
      simp only [perform, moves, phase, advance_rest now phase]
      split <;> simp [Phase.next, phase]
  | adjust clockwise =>
    simp only [perform, adjust, moves]
    split <;> rfl
  | start now =>
    cases phase : timer.phase <;> simp [perform, start, moves, phase, Phase.next]
  | leave now =>
    cases phase : timer.phase <;> simp [perform, leave, rested, moves, phase, Phase.next]

theorem Move.minutes (move : met.Move call left) (changes : left.minutes ≠ met.minutes) :
    (∃ clockwise, call = .adjust clockwise) ∨
      call.isAdvance = true ∧ met.minutes = 0 ∧ left.minutes = defaultMinutes := by
  cases move with
  | opened now idle =>
    by_cases unset : met.minutes = 0
    · exact .inr ⟨rfl, unset, if_pos unset⟩
    · exact absurd (if_neg unset) changes
  | adjusted clockwise => exact .inl ⟨clockwise, rfl⟩
  | nothing | started | expired | flashed | finished | cutShort | recovered =>
    exact absurd rfl changes

theorem Move.ranged (move : met.Move call left) (ranged : met.Ranged) : left.Ranged := by
  obtain ⟨minutes, chosen, flashed, flashing⟩ := ranged
  cases move with
  | nothing => exact ⟨minutes, chosen, flashed, flashing⟩
  | opened now idle =>
    have inside : minMinutes ≤ defaultMinutes ∧ defaultMinutes ≤ maxMinutes := by decide
    by_cases unset : met.minutes = 0
    · simp only [unset, ↓reduceIte]
      exact ⟨.inr inside, fun _ => Nat.ne_of_gt inside.1, flashed, nofun⟩
    · simp only [unset, ↓reduceIte]
      exact ⟨minutes, fun _ => unset, flashed, nofun⟩
  | adjusted clockwise minutes setting low high =>
    exact ⟨.inr ⟨low, high⟩, fun _ => Nat.ne_of_gt low, flashed, flashing⟩
  | started now deadline setting =>
    exact ⟨minutes, fun _ => chosen (by simp [setting]), flashed, nofun⟩
  | expired now working =>
    exact ⟨minutes, fun _ => chosen (by simp [working]), Nat.zero_le _, fun _ => Nat.zero_le _⟩
  | flashed now flash going => exact ⟨minutes, chosen, Nat.le_succ_of_le going, fun _ => going⟩
  | finished now flash =>
    exact ⟨minutes, fun _ => chosen (by simp [flash]), Nat.le_refl _, nofun⟩
  | cutShort now flash => exact ⟨minutes, fun _ => chosen (by simp [flash]), flashed, nofun⟩
  | recovered now resting => exact ⟨minutes, fun awake => absurd rfl awake, flashed, nofun⟩

theorem Move.minutes_ne_zero (move : met.Move call left) (chosen : met.minutes ≠ 0) :
    left.minutes ≠ 0 := by
  cases move with
  | opened now idle => rwa [if_neg chosen]
  | adjusted clockwise minutes setting low => exact Nat.ne_of_gt low
  | nothing | started | expired | flashed | finished | cutShort | recovered => exact chosen

theorem minutes_advance_ne_zero (ranged : timer.Ranged) (now : Millis) :
    (timer.advance now).2.minutes ≠ 0 := by
  rw [minutes_advance]
  split
  case isTrue => decide
  case isFalse chosen =>
    intro unset
    have idle : timer.phase = .idle := by
      by_contra awake
      exact ranged.chosen awake unset
    exact chosen ⟨idle, unset⟩

theorem adjust_eq_iff {clockwise : Bool} :
    timer.adjust clockwise = (false, timer) ↔ timer.phase ≠ .setTime := by
  unfold adjust
  split <;> simp_all

theorem start_eq_iff {now : Millis} :
    timer.start now = (false, timer) ↔ timer.phase ≠ .setTime := by
  unfold start
  split <;> simp_all

theorem leave_eq_iff {now : Millis} :
    timer.leave now = (false, timer) ↔ timer.phase ≠ .flash := by
  unfold leave
  split <;> simp_all

theorem perform_of_idle (idle : timer.phase = .idle) (other : call.isAdvance = false) :
    timer.perform call = timer := by
  cases call with
  | advance now => cases other
  | adjust clockwise => rw [perform, adjust_eq_iff.mpr (by simp [idle])]
  | start now => rw [perform, start_eq_iff.mpr (by simp [idle])]
  | leave now => rw [perform, leave_eq_iff.mpr (by simp [idle])]

end

-- ---------------------------------------------------------------------------
-- Runs
-- ---------------------------------------------------------------------------

def run (calls : List Call) (timer : Pomodoro) : Pomodoro :=
  calls.foldl (fun timer call => timer.perform call) timer

theorem run_concat (calls : List Call) (call : Call) (timer : Pomodoro) :
    timer.run (calls ++ [call]) = (timer.run calls).perform call := by
  simp [run, List.foldl_append]

theorem ranged_run (calls : List Call) : (run calls {}).Ranged := by
  induction calls using List.reverseRecOn with
  | nil => exact ⟨.inl rfl, fun awake => absurd rfl awake, Nat.zero_le _, nofun⟩
  | append_singleton calls call ih =>
    rw [run_concat]
    exact (ih.move call).ranged ih

theorem run_of_no_advance {calls : List Call} (other : ∀ call ∈ calls, call.isAdvance = false)
    {timer : Pomodoro} (idle : timer.phase = .idle) : timer.run calls = timer := by
  induction calls with
  | nil => rfl
  | cons call calls ih =>
    obtain ⟨first, later⟩ := List.forall_mem_cons.mp other
    rw [run, List.foldl_cons, perform_of_idle idle first]
    exact ih later

theorem minutes_run_eq_zero_iff (calls : List Call) :
    (run calls {}).minutes = 0 ↔ ∀ call ∈ calls, call.isAdvance = false := by
  constructor
  · induction calls using List.reverseRecOn with
    | nil => exact fun _ => nofun
    | append_singleton calls call ih =>
      intro unset
      have ranged := ranged_run calls
      rw [run_concat] at unset
      have before : (run calls {}).minutes = 0 := by
        by_contra chosen
        exact (ranged.move call).minutes_ne_zero chosen unset
      have other : call.isAdvance = false := by
        cases call with
        | advance now => exact absurd unset (minutes_advance_ne_zero ranged now)
        | adjust | start | leave => rfl
      intro earlier found
      rcases List.mem_append.mp found with found | found
      · exact ih before earlier found
      · rw [List.mem_singleton.mp found, other]
  · intro other
    rw [run_of_no_advance other rfl]

/-- A timer after some calls, and what any call may do to it. -/
structure Orderly (calls : List Call) (timer : Pomodoro) : Prop where
  chosen : timer.phase ≠ .idle → minMinutes ≤ timer.minutes ∧ timer.minutes ≤ maxMinutes
  idle : timer.phase = .idle →
    timer.minutes = 0 ∨ minMinutes ≤ timer.minutes ∧ timer.minutes ≤ maxMinutes
  flashed : timer.flashed ≤ 61
  circle (call : Call) :
    (timer.perform call).phase = if timer.moves call then timer.phase.next else timer.phase
  transitions (now : Millis) : ∃ n ≤ 2, ∀ m outcome,
    Settles now m timer outcome ↔ m = n ∧ outcome = timer.advance now
  adjust (clockwise : Bool) : timer.adjust clockwise = (false, timer) ↔ timer.phase ≠ .setTime
  start (now : Millis) : timer.start now = (false, timer) ↔ timer.phase ≠ .setTime
  leave (now : Millis) : timer.leave now = (false, timer) ↔ timer.phase ≠ .flash
  /-- The first tick of all chooses the length, and after that only `adjust` does. -/
  minutes (call : Call) : (timer.perform call).minutes ≠ timer.minutes →
    (∃ clockwise, call = .adjust clockwise) ∨
      call.isAdvance = true ∧ (∀ earlier ∈ calls, earlier.isAdvance = false) ∧
        (timer.perform call).minutes = defaultMinutes

theorem orderly_run (calls : List Call) : Orderly calls (run calls {}) := by
  have ranged := ranged_run calls
  refine ⟨fun awake => ?_, fun _ => ranged.minutes, ranged.flashed, ranged.phase_perform,
    fun now => ?_, fun _ => adjust_eq_iff, fun _ => start_eq_iff, fun _ => leave_eq_iff,
    fun call changes => ?_⟩
  · exact ranged.minutes.resolve_left (ranged.chosen awake)
  · obtain ⟨n, le, settles⟩ := settles_advance now (run calls {})
    refine ⟨n, le, fun m outcome => ⟨fun settles' => settles'.unique settles, ?_⟩⟩
    rintro ⟨rfl, rfl⟩
    exact settles
  · rcases (ranged.move call).minutes changes with adjusts | ⟨advances, unset, chosen⟩
    · exact .inl adjusts
    · exact .inr ⟨advances, (minutes_run_eq_zero_iff calls).mp unset, chosen⟩

end KnobPanel.Pomodoro
