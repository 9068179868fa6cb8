import KnobPanel.Proofs.PomodoroPhases

/-!
# Timeline of the pomodoro timer

A round of the timer tick by tick: the work period counts down to its deadline,
sixty-one ticks flash, five minutes of rest count down, and the time can be set
again. The ticks come at any spacing, and the clock may roll over on the way.
-/

namespace KnobPanel.Pomodoro

-- ---------------------------------------------------------------------------
-- The round
-- ---------------------------------------------------------------------------

structure Sight where
  effects : Effects := {}
  phase : Phase
  minutes : Nat
  secs : Nat := 0
  deriving DecidableEq

/-- The rest begun at `since`, and the time set again. Times count from the start of
the work period. -/
def restSights (minutes since : Nat) (offsets : List Nat) : List Sight :=
  (offsets.takeWhile (· < since + 300000)).map
      (fun offset => { phase := .rest, minutes, secs := (since + 300000 - offset) / 1000 }) ++
    match offsets.dropWhile (· < since + 300000) with
    | [] => []
    | _ :: later =>
      { effects := { redraw := true }, phase := .idle, minutes } ::
        later.map fun _ => { phase := .setTime, minutes, secs := minutes * 60 }

theorem restSights_cons_of_lt {since offset : Nat} (lt : offset < since + 300000) (minutes : Nat)
    (offsets : List Nat) :
    restSights minutes since (offset :: offsets) =
      { phase := .rest, minutes, secs := (since + 300000 - offset) / 1000 } ::
        restSights minutes since offsets := by
  simp [restSights, lt]

theorem restSights_cons_of_le {since offset : Nat} (le : since + 300000 ≤ offset) (minutes : Nat)
    (offsets : List Nat) :
    restSights minutes since (offset :: offsets) =
      { effects := { redraw := true }, phase := .idle, minutes } ::
        offsets.map fun _ => { phase := .setTime, minutes, secs := minutes * 60 } := by
  simp [restSights, Nat.not_lt.mpr le]

def flashSight (minutes tick : Nat) : Sight :=
  if tick = 61 then
    { effects := { restoreInvert := true, redraw := true }, phase := .rest, minutes, secs := 300 }
  else
    { effects := { toggleInvert := tick ∈ [7, 15, 23, 31, 39, 47, 55] }, phase := .flash, minutes }

def flashSights (minutes flashed : Nat) (offsets : List Nat) : List Sight :=
  (offsets.take (61 - flashed)).mapIdx (fun i _ => flashSight minutes (flashed + 1 + i)) ++
    match offsets.drop (60 - flashed) with
    | [] => []
    | since :: later => restSights minutes since later

theorem flashSights_cons_of_lt {flashed : Nat} (lt : flashed < 60) (minutes offset : Nat)
    (offsets : List Nat) :
    flashSights minutes flashed (offset :: offsets) =
      flashSight minutes (flashed + 1) :: flashSights minutes (flashed + 1) offsets := by
  have taken : 61 - flashed = 61 - (flashed + 1) + 1 := by omega
  have dropped : 60 - flashed = 60 - (flashed + 1) + 1 := by omega
  rw [flashSights, flashSights, taken, dropped, List.take_succ_cons, List.drop_succ_cons,
    List.mapIdx_cons]
  simp only [Nat.add_zero, List.cons_append, Nat.add_assoc, Nat.add_comm 1]

theorem flashSights_cons_last (minutes offset : Nat) (offsets : List Nat) :
    flashSights minutes 60 (offset :: offsets) =
      flashSight minutes 61 :: restSights minutes offset offsets := by
  simp [flashSights]

def timeline (minutes : Nat) (offsets : List Nat) : List Sight :=
  (offsets.takeWhile (· ≤ minutes * 60000)).map
      (fun offset => { phase := .work, minutes, secs := (minutes * 60000 - offset) / 1000 }) ++
    match offsets.dropWhile (· ≤ minutes * 60000) with
    | [] => []
    | _ :: later => { phase := .flash, minutes } :: flashSights minutes 0 later

theorem timeline_cons_of_le {minutes offset : Nat} (le : offset ≤ minutes * 60000)
    (offsets : List Nat) :
    timeline minutes (offset :: offsets) =
      { phase := .work, minutes, secs := (minutes * 60000 - offset) / 1000 } ::
        timeline minutes offsets := by
  simp [timeline, le]

theorem timeline_cons_of_lt {minutes offset : Nat} (lt : minutes * 60000 < offset)
    (offsets : List Nat) :
    timeline minutes (offset :: offsets) =
      { phase := .flash, minutes } :: flashSights minutes 0 offsets := by
  simp [timeline, Nat.not_le.mpr lt]

-- ---------------------------------------------------------------------------
-- Ticks
-- ---------------------------------------------------------------------------

/-- Ticks so many milliseconds after the start, and what each one shows. -/
def watch (start : Millis) : List Nat → Pomodoro → List Sight
  | [], _ => []
  | offset :: offsets, timer =>
    let now := start + .ofNat offset
    let ticked := timer.advance now
    { effects := ticked.1
      phase := ticked.2.phase
      minutes := ticked.2.minutes
      secs := ticked.2.remainingSecs now } :: watch start offsets ticked.2

def ticked (start : Millis) (offsets : List Nat) (timer : Pomodoro) : Pomodoro :=
  offsets.foldl (fun timer offset => (timer.advance (start + .ofNat offset)).2) timer

section
variable {timer : Pomodoro} {start : Millis} {offsets : List Nat}

theorem minutes_ticked (chosen : timer.minutes ≠ 0) :
    (timer.ticked start offsets).minutes = timer.minutes := by
  induction offsets generalizing timer with
  | nil => rfl
  | cons offset offsets ih =>
    have same : (timer.advance (start + .ofNat offset)).2.minutes = timer.minutes :=
      (minutes_advance _ timer).trans (if_neg fun unset => chosen unset.2)
    exact (ih (by rwa [same])).trans same

theorem remainingSecs_of_deadline {now deadline : Nat}
    (counting : timer.phase = .work ∨ timer.phase = .rest)
    (due : timer.deadline = start + .ofNat deadline) (late : now < deadline + 0x80000000)
    (early : deadline ≤ now + 0x80000000) :
    timer.remainingSecs (start + .ofNat now) = (deadline - now) / 1000 := by
  have counts : timer.remainingSecs (start + .ofNat now) =
      if Clock.reached (start + .ofNat now) timer.deadline then 0
      else (Clock.elapsed timer.deadline (start + .ofNat now)).toNat / 1000 := by
    rcases counting with phase | phase <;> rw [remainingSecs, phase]
  rw [counts, due, Clock.reached_ofNat start late early]
  by_cases past : deadline ≤ now
  · simp [past]
  · rw [UInt32.add_comm start, UInt32.add_comm start, Clock.elapsed_shift,
      Clock.elapsed_ofNat (by omega) (by simp only [UInt32.size]; omega)]
    simp [past]

end

-- ---------------------------------------------------------------------------
-- The phases of a round
-- ---------------------------------------------------------------------------

section
variable {timer : Pomodoro} {start : Millis} {offsets : List Nat}

theorem watch_setTime (setting : timer.phase = .setTime) :
    timer.watch start offsets =
      offsets.map fun _ =>
        { phase := .setTime, minutes := timer.minutes, secs := timer.minutes * 60 } := by
  induction offsets with
  | nil => rfl
  | cons offset offsets ih =>
    rw [watch, advance_setTime _ setting]
    simp only [setting, remainingSecs, ih, List.map_cons]

theorem watch_idle (idle : timer.phase = .idle) (chosen : timer.minutes ≠ 0) :
    timer.watch start offsets =
      offsets.map fun _ =>
        { phase := .setTime, minutes := timer.minutes, secs := timer.minutes * 60 } := by
  cases offsets with
  | nil => rfl
  | cons offset offsets =>
    rw [watch, advance_idle _ idle]
    simp only [chosen, ↓reduceIte, remainingSecs, List.map_cons]
    rw [watch_setTime rfl]

/-- Times and deadlines of a round lie less than half a round of the clock apart. -/
theorem watch_rest {since : Nat} (resting : timer.phase = .rest)
    (due : timer.deadline = start + .ofNat (since + 300000)) (chosen : timer.minutes ≠ 0)
    (near : ∀ offset ∈ offsets, since ≤ offset ∧ offset < 0x80000000) :
    timer.watch start offsets = restSights timer.minutes since offsets := by
  induction offsets with
  | nil => rfl
  | cons offset offsets ih =>
    obtain ⟨⟨low, high⟩, later⟩ := List.forall_mem_cons.mp near
    have reached : Clock.reached (start + .ofNat offset) timer.deadline =
        decide (since + 300000 ≤ offset) := by
      rw [due]
      exact Clock.reached_ofNat start (by omega) (by omega)
    rw [watch, advance_rest _ resting, reached]
    by_cases past : since + 300000 ≤ offset
    · rw [restSights_cons_of_le past]
      simp only [past, decide_true, ↓reduceIte]
      exact congrArg (List.cons _) (watch_idle rfl chosen)
    · have left : timer.remainingSecs (start + .ofNat offset) =
          (since + 300000 - offset) / 1000 :=
        remainingSecs_of_deadline (.inr resting) due (by omega) (by omega)
      rw [restSights_cons_of_lt (Nat.lt_of_not_le past), ← ih later]
      simp only [past, decide_false, Bool.false_eq_true, ↓reduceIte, resting, left]

theorem toggles_iff {flashed : Nat} (lt : flashed < 60) :
    (flashed + 1) % 8 = 7 ↔ flashed + 1 ∈ [7, 15, 23, 31, 39, 47, 55] := by
  have all : ∀ flashed < 60,
      ((flashed + 1) % 8 = 7 ↔ flashed + 1 ∈ [7, 15, 23, 31, 39, 47, 55]) := by decide
  exact all flashed lt

theorem watch_rested {since : Nat} (resting : timer.phase = .rest)
    (due : timer.deadline = start + .ofNat since + restMs) (chosen : timer.minutes ≠ 0)
    (after : ∀ offset ∈ offsets, since ≤ offset) (near : ∀ offset ∈ offsets, offset < 0x80000000) :
    timer.remainingSecs (start + .ofNat since) = 300 ∧
      timer.watch start offsets = restSights timer.minutes since offsets := by
  have due' : timer.deadline = start + .ofNat (since + 300000) := by
    rw [due, UInt32.ofNat_add, ← UInt32.add_assoc]
    rfl
  constructor
  · rw [remainingSecs_of_deadline (.inr resting) due' (by omega) (by omega)]
    omega
  · exact watch_rest resting due' chosen fun offset found => ⟨after offset found, near offset found⟩

theorem watch_flash (flash : timer.phase = .flash) (le : timer.flashed ≤ 60)
    (chosen : timer.minutes ≠ 0) (ordered : offsets.Pairwise (· ≤ ·))
    (near : ∀ offset ∈ offsets, offset < 0x80000000) :
    timer.watch start offsets = flashSights timer.minutes timer.flashed offsets := by
  induction offsets generalizing timer with
  | nil => simp [watch, flashSights]
  | cons offset offsets ih =>
    obtain ⟨after, ordered⟩ := List.pairwise_cons.mp ordered
    obtain ⟨high, later⟩ := List.forall_mem_cons.mp near
    rcases Nat.lt_or_eq_of_le le with going | last
    · rw [watch, advance_flash _ flash going, flashSights_cons_of_lt going]
      have tick : flashSight timer.minutes (timer.flashed + 1) =
          { effects := { toggleInvert := (timer.flashed + 1) % 8 = 7 }, phase := .flash
            minutes := timer.minutes } := by
        rw [flashSight, if_neg (by omega), decide_eq_decide.mpr (toggles_iff going)]
      rw [tick]
      simp only [remainingSecs, flash]
      exact congrArg (List.cons _) (ih rfl going chosen ordered later)
    · rw [watch, advance_flash_last _ flash last, last, flashSights_cons_last]
      generalize begun : { timer.rested (start + .ofNat offset) with flashed := flashFrames + 1 } =
        rest
      have resting : rest.phase = .rest := by rw [← begun]; rfl
      have minutes : rest.minutes = timer.minutes := by rw [← begun]; rfl
      have due : rest.deadline = start + .ofNat offset + restMs := by rw [← begun]; rfl
      obtain ⟨left, rests⟩ := watch_rested resting due (by rwa [minutes]) after later
      simp only [resting, minutes, left, rests]
      rfl

theorem watch_work (working : timer.phase = .work)
    (due : timer.deadline = start + .ofNat (timer.minutes * 60000)) (chosen : timer.minutes ≠ 0)
    (short : timer.minutes ≤ maxMinutes) (ordered : offsets.Pairwise (· ≤ ·))
    (near : ∀ offset ∈ offsets, offset < 0x80000000) :
    timer.watch start offsets = timeline timer.minutes offsets := by
  simp only [maxMinutes] at short
  induction offsets with
  | nil => rfl
  | cons offset offsets ih =>
    obtain ⟨-, ordered⟩ := List.pairwise_cons.mp ordered
    obtain ⟨high, later⟩ := List.forall_mem_cons.mp near
    have passed : Clock.passed (start + .ofNat offset) timer.deadline =
        decide (timer.minutes * 60000 < offset) := by
      rw [due]
      exact Clock.passed_ofNat start (by omega) (by omega)
    rw [watch, advance_work _ working, passed]
    by_cases past : timer.minutes * 60000 < offset
    · rw [timeline_cons_of_lt past]
      simp only [past, decide_true, ↓reduceIte]
      exact congrArg (List.cons _) (watch_flash rfl (Nat.zero_le _) chosen ordered later)
    · have left : timer.remainingSecs (start + .ofNat offset) =
          (timer.minutes * 60000 - offset) / 1000 :=
        remainingSecs_of_deadline (.inl working) due (by omega) (by omega)
      rw [timeline_cons_of_le (Nat.le_of_not_lt past), ← ih ordered later]
      simp only [past, decide_false, Bool.false_eq_true, ↓reduceIte, working, left]

end

-- ---------------------------------------------------------------------------
-- A round
-- ---------------------------------------------------------------------------

section
variable {timer : Pomodoro} {offsets : List Nat}

/-- A round of the timer shows its timeline. A flash that is cut short, at whatever
time, is followed by the same rest. -/
theorem watch_start (setting : timer.phase = .setTime) (chosen : minMinutes ≤ timer.minutes)
    (short : timer.minutes ≤ maxMinutes) (start : Millis) (ordered : offsets.Pairwise (· ≤ ·))
    (near : ∀ offset ∈ offsets, offset < 0x80000000) :
    let started := (timer.start start).2
    (timer.start start).1 = true ∧
      started.watch start offsets = timeline timer.minutes offsets ∧
      ∀ before, (started.ticked start before).phase = .flash →
        ∀ (leaving : Millis) (later : List Nat), (∀ offset ∈ later, offset < 0x80000000) →
          let left := (started.ticked start before).leave leaving
          left.1 = true ∧ left.2.phase = .rest ∧ left.2.remainingSecs leaving = 300 ∧
            left.2.watch leaving later = restSights timer.minutes 0 later := by
  have begun : timer.start start =
      (true, { timer with phase := .work, deadline := start + .ofNat (timer.minutes * 60000) }) :=
    if_pos setting
  rw [begun]
  refine ⟨rfl, watch_work rfl rfl (Nat.ne_of_gt chosen) short ordered near, ?_⟩
  intro before flash leaving later near
  generalize cut : ticked start before _ = flashing at flash ⊢
  have minutes : flashing.minutes = timer.minutes := by
    rw [← cut]
    exact minutes_ticked (Nat.ne_of_gt chosen)
  have resting : (flashing.rested leaving).minutes ≠ 0 := by
    rw [rested, minutes]
    exact Nat.ne_of_gt chosen
  have now : leaving + .ofNat 0 = leaving := UInt32.add_zero leaving
  have due : (flashing.rested leaving).deadline = leaving + .ofNat 0 + restMs := by
    rw [now]
    rfl
  obtain ⟨left, rests⟩ := watch_rested rfl due resting (fun _ _ => Nat.zero_le _) near
  rw [now] at left
  rw [leave, if_pos flash, ← minutes]
  exact ⟨rfl, rfl, left, rests⟩

/-- A minute of work that begins half a minute before the clock rolls over. The flash
runs at its frame rate, and the rest is watched at its end. -/
def rolloverTicks : List Nat :=
  [0, 1500, 59999, 60000, 60001] ++ .range' 60051 61 50 ++ [200000, 363050, 363051, 363101]

theorem watch_start_rollover :
    let start : Millis := .ofNat (UInt32.size - 30000)
    let started := (Pomodoro.start start { phase := .setTime, minutes := 1 }).2
    let cut := (started.ticked start (rolloverTicks.take 13)).leave 30451
    started.watch start rolloverTicks = timeline 1 rolloverTicks ∧
      (timeline 1 rolloverTicks).drop 65 =
        [{ effects := { restoreInvert := true, redraw := true }, phase := .rest, minutes := 1,
            secs := 300 },
          { phase := .rest, minutes := 1, secs := 163 },
          { phase := .rest, minutes := 1, secs := 0 },
          { effects := { redraw := true }, phase := .idle, minutes := 1 },
          { phase := .setTime, minutes := 1, secs := 60 }] ∧
      cut.1 = true ∧ cut.2.remainingSecs 30451 = 300 ∧
      cut.2.watch 30451 [299999, 300000, 300001] =
        [{ phase := .rest, minutes := 1, secs := 0 },
          { effects := { redraw := true }, phase := .idle, minutes := 1 },
          { phase := .setTime, minutes := 1, secs := 60 }] := by
  intro start started cut
  have setting : ({ phase := .setTime, minutes := 1 } : Pomodoro).phase = .setTime := rfl
  have ordered : rolloverTicks.Pairwise (· ≤ ·) := by decide +kernel
  have near : ∀ offset ∈ rolloverTicks, offset < 0x80000000 := by decide +kernel
  obtain ⟨-, watched, leaves⟩ :=
    watch_start setting (by decide) (by decide) start ordered near
  have flash : (started.ticked start (rolloverTicks.take 13)).phase = .flash := by decide +kernel
  obtain ⟨answer, -, left, rests⟩ :=
    leaves (rolloverTicks.take 13) flash 30451 [299999, 300000, 300001] (by decide)
  exact ⟨watched, by decide +kernel, answer, left, rests.trans (by decide)⟩

end

end KnobPanel.Pomodoro
