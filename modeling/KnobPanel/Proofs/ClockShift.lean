import KnobPanel.Proofs.Frames

/-!
# A clock that is ahead

Times are compared through their differences only. A run whose clock is ahead by
a constant therefore answers, draws, sends and stores the same, call by call,
across a rollover of either clock; its state is the same apart from the times in
it. The star field is the exception, because its places start from the clock.
-/

namespace KnobPanel

-- ---------------------------------------------------------------------------
-- Times
-- ---------------------------------------------------------------------------

theorem Clock.add_shift (k now span : Millis) : now + k + span = now + span + k := by
  grind

def IdleTimers.shift (k : Millis) (idle : IdleTimers) : IdleTimers :=
  { idle with lastActivity := idle.lastActivity + k }

def KeyRate.shift (k : Millis) (counter : KeyRate) : KeyRate :=
  { counter with last := counter.last.map (· + k) }

def Acceleration.shift (k : Millis) (acceleration : Acceleration) : Acceleration :=
  { acceleration with last := acceleration.last.map (· + k) }

def ScriptedClock.shift (k : Millis) (clock : ScriptedClock) : ScriptedClock :=
  { clock with readings := fun n => clock.readings n + k }

section
variable (k now : Millis)

@[simp] theorem IdleTimers.rgbOff_shift (idle : IdleTimers) :
    (idle.shift k).rgbOff = idle.rgbOff := rfl

@[simp] theorem IdleTimers.sideOff_shift (idle : IdleTimers) :
    (idle.shift k).sideOff = idle.sideOff := rfl

theorem IdleTimers.idleSecs_shift (idle : IdleTimers) :
    (idle.shift k).idleSecs (now + k) = idle.idleSecs now := by
  simp only [idleSecs, idleMs, shift, Clock.elapsed_shift]

theorem IdleTimers.returnDue_shift (idle : IdleTimers) :
    (idle.shift k).returnDue (now + k) = idle.returnDue now := by
  simp only [returnDue, idleSecs_shift]
  rfl

theorem AutoOff.run_shift {L : Type} [Link L] (settings : Settings) (displayOn : Bool)
    (idle : IdleTimers) (channel : Channel L) :
    run (now + k) settings displayOn (idle.shift k) channel =
      ((run now settings displayOn idle channel).1,
        (run now settings displayOn idle channel).2.1.shift k,
        (run now settings displayOn idle channel).2.2) := by
  simp only [run, IdleTimers.idleSecs_shift, IdleTimers.rgbOff_shift, IdleTimers.sideOff_shift]
  split
  · rfl
  · split
    · rfl
    · split <;> rfl

theorem KeyRate.press_shift (counter : KeyRate) :
    (counter.shift k).press (now + k) = (counter.press now).shift k := by
  obtain ⟨total, rate, last⟩ := counter
  cases last with
  | none => rfl
  | some last => simp only [press, shift, Option.map_some, Clock.elapsed_shift]

theorem KeyRate.decay_shift (counter : KeyRate) :
    (counter.shift k).decay (now + k) = (counter.decay now).shift k := by
  obtain ⟨total, rate, last⟩ := counter
  cases last with
  | none => rfl
  | some last =>
    simp only [decay, shift, Option.map_some, Clock.elapsed_shift]
    split <;> rfl

theorem Acceleration.steps_shift (acceleration : Acceleration) :
    (acceleration.shift k).steps (now + k) =
      ((acceleration.steps now).1, (acceleration.steps now).2.shift k) := by
  obtain ⟨ceiling, multiplier, last⟩ := acceleration
  have fast : (last.map (· + k)).any (fun last => Clock.elapsed (now + k) last < windowMs) =
      last.any fun last => Clock.elapsed now last < windowMs := by
    cases last with
    | none => rfl
    | some last => simp only [Option.map_some, Option.any_some, Clock.elapsed_shift]
  simp only [steps, shift, isFast, fast]
  split <;> rfl

end

-- ---------------------------------------------------------------------------
-- The pomodoro timer
-- ---------------------------------------------------------------------------

namespace Pomodoro

/-- The timer on a clock that is ahead by `k`. A deadline that nothing waits for
may be any. -/
structure Shifted (k : Millis) (timer ahead : Pomodoro) : Prop where
  phase : ahead.phase = timer.phase
  minutes : ahead.minutes = timer.minutes
  flashed : ahead.flashed = timer.flashed
  deadline : timer.phase = .work ∨ timer.phase = .rest → ahead.deadline = timer.deadline + k

variable {k : Millis} {timer ahead : Pomodoro}

theorem Shifted.refl_of_idle (idle : timer.phase = .idle) : timer.Shifted k timer where
  phase := rfl
  minutes := rfl
  flashed := rfl
  deadline waits := by simp [idle] at waits

section
variable (shifted : timer.Shifted k ahead) (now : Millis)
include shifted

theorem Shifted.rested : (timer.rested now).Shifted k (ahead.rested (now + k)) where
  phase := rfl
  minutes := shifted.minutes
  flashed := shifted.flashed
  deadline _ := Clock.add_shift k now restMs

theorem Shifted.transition :
    (ahead.transition (now + k)).effects = (timer.transition now).effects ∧
      (ahead.transition (now + k)).settled = (timer.transition now).settled ∧
      (timer.transition now).timer.Shifted k (ahead.transition (now + k)).timer := by
  obtain ⟨phase, deadline, minutes, flashed⟩ := timer
  obtain ⟨phase', deadline', minutes', flashed'⟩ := ahead
  obtain ⟨rfl, rfl, rfl, waits⟩ := shifted
  simp only at waits
  cases phase' with
  | idle => exact ⟨rfl, rfl, rfl, rfl, rfl, by rintro (_ | _) <;> contradiction⟩
  | setTime => exact ⟨rfl, rfl, rfl, rfl, rfl, waits⟩
  | work =>
    obtain rfl := waits (.inl rfl)
    simp only [Pomodoro.transition, Clock.passed_shift]
    split
    · exact ⟨rfl, rfl, rfl, rfl, rfl, by rintro (_ | _) <;> contradiction⟩
    · exact ⟨rfl, rfl, rfl, rfl, rfl, waits⟩
  | flash =>
    simp only [Pomodoro.transition]
    split
    · exact ⟨rfl, rfl, rfl, rfl, rfl, fun _ => Clock.add_shift k now restMs⟩
    · exact ⟨rfl, rfl, rfl, rfl, rfl, waits⟩
  | rest =>
    obtain rfl := waits (.inr rfl)
    simp only [Pomodoro.transition, Clock.reached_shift]
    split
    · exact ⟨rfl, rfl, rfl, rfl, rfl, by rintro (_ | _) <;> contradiction⟩
    · exact ⟨rfl, rfl, rfl, rfl, rfl, waits⟩

theorem Shifted.settle (n : Nat) :
    (Pomodoro.settle (now + k) n ahead).1 = (Pomodoro.settle now n timer).1 ∧
      (Pomodoro.settle now n timer).2.Shifted k (Pomodoro.settle (now + k) n ahead).2 := by
  induction n generalizing timer ahead with
  | zero => exact ⟨rfl, shifted⟩
  | succ n ih =>
    obtain ⟨effects, settled, moved⟩ := shifted.transition now
    simp only [Pomodoro.settle, settled]
    split
    · exact ⟨effects, moved⟩
    · exact ih moved

theorem Shifted.advance :
    (ahead.advance (now + k)).1 = (timer.advance now).1 ∧
      (timer.advance now).2.Shifted k (ahead.advance (now + k)).2 :=
  shifted.settle now 2

theorem Shifted.adjust (clockwise : Bool) :
    (ahead.adjust clockwise).1 = (timer.adjust clockwise).1 ∧
      (timer.adjust clockwise).2.Shifted k (ahead.adjust clockwise).2 := by
  obtain ⟨phase, minutes, flashed, deadline⟩ := shifted
  simp only [Pomodoro.adjust, phase, minutes]
  split
  · exact ⟨rfl, rfl, rfl, flashed, deadline⟩
  · exact ⟨rfl, phase, minutes, flashed, deadline⟩

theorem Shifted.start :
    (ahead.start (now + k)).1 = (timer.start now).1 ∧
      (timer.start now).2.Shifted k (ahead.start (now + k)).2 := by
  obtain ⟨phase, minutes, flashed, deadline⟩ := shifted
  simp only [Pomodoro.start, phase, minutes]
  split
  · exact ⟨rfl, rfl, rfl, flashed, fun _ => Clock.add_shift k now _⟩
  · exact ⟨rfl, phase, minutes, flashed, deadline⟩

theorem Shifted.leave :
    (ahead.leave (now + k)).1 = (timer.leave now).1 ∧
      (timer.leave now).2.Shifted k (ahead.leave (now + k)).2 := by
  have rested := shifted.rested now
  simp only [Pomodoro.leave, shifted.phase]
  split
  · exact ⟨rfl, rested⟩
  · exact ⟨rfl, shifted⟩

theorem Shifted.remainingSecs : ahead.remainingSecs (now + k) = timer.remainingSecs now := by
  obtain ⟨phase, deadline, minutes, flashed⟩ := timer
  obtain ⟨phase', deadline', minutes', flashed'⟩ := ahead
  obtain ⟨rfl, rfl, rfl, waits⟩ := shifted
  simp only at waits
  cases phase' with
  | work | rest =>
    obtain rfl := waits (by simp)
    simp only [Pomodoro.remainingSecs, Clock.reached_shift, Clock.elapsed_shift]
  | _ => rfl

end

end Pomodoro

-- ---------------------------------------------------------------------------
-- The board
-- ---------------------------------------------------------------------------

namespace Board

def ahead (k : Millis) (timer : Pomodoro) (board : Board) : Board :=
  { board with
    clock := board.clock.shift k
    idle := board.idle.shift k
    keyRate := board.keyRate.shift k
    pomodoro := timer }

variable {k : Millis} {timer : Pomodoro} {board : Board}

@[simp] theorem channel_ahead : (board.ahead k timer).channel = board.channel := rfl

@[simp] theorem store_ahead : (board.ahead k timer).store = board.store := rfl

@[simp] theorem trig_ahead : (board.ahead k timer).trig = board.trig := rfl

@[simp] theorem settings_ahead : (board.ahead k timer).settings = board.settings := rfl

@[simp] theorem pomodoro_ahead : (board.ahead k timer).pomodoro = timer := rfl

@[simp] theorem keyRate_ahead : (board.ahead k timer).keyRate = board.keyRate.shift k := rfl

@[simp] theorem lockLeds_ahead : (board.ahead k timer).lockLeds = board.lockLeds := rfl

@[simp] theorem fnHeld_ahead : (board.ahead k timer).fnHeld = board.fnHeld := rfl

@[simp] theorem firstFrame_ahead : (board.ahead k timer).firstFrame = board.firstFrame := rfl

@[simp] theorem idle_ahead : (board.ahead k timer).idle = board.idle.shift k := rfl

@[simp] theorem displayOn_ahead : (board.ahead k timer).displayOn = board.displayOn := rfl

theorem now_ahead :
    (board.ahead k timer).now = (board.now.1 + k, board.now.2.ahead k timer) := rfl

theorem draw_ahead (ops : List DrawOp) :
    (board.ahead k timer).draw ops = (board.draw ops).ahead k timer := rfl

theorem saveSettings_ahead :
    (board.ahead k timer).saveSettings = board.saveSettings.ahead k timer := by
  simp only [saveSettings, settings_ahead, store_ahead]
  generalize ((Record.save board.settings).run board.store).2 = store
  rfl

theorem autoOff_ahead (now : Millis) :
    (board.ahead k timer).autoOff (now + k) =
      ((board.autoOff now).1, (board.autoOff now).2.ahead k timer) := by
  simp only [autoOff, settings_ahead, displayOn_ahead, idle_ahead, channel_ahead, AutoOff.run_shift]
  generalize AutoOff.run now board.settings board.displayOn board.idle board.channel = done
  split <;> rfl

end Board

-- ---------------------------------------------------------------------------
-- Screens without a clock
-- ---------------------------------------------------------------------------

section
variable {k : Millis} {timer : Pomodoro} {board : Board}

theorem Dashboard.pollSensor_ahead (dashboard : Dashboard) :
    dashboard.pollSensor (board.ahead k timer) =
      ((dashboard.pollSensor board).1, (dashboard.pollSensor board).2.ahead k timer) := by
  have polling : dashboard.polling (board.ahead k timer) = dashboard.polling board := rfl
  rw [pollSensor_eq, pollSensor_eq, polling]
  rfl

theorem Dashboard.draw_ahead (dashboard : Dashboard) :
    dashboard.draw (board.ahead k timer) =
      ((dashboard.draw board).1, (dashboard.draw board).2.ahead k timer) := by
  have counters : drawCounters (board.keyRate.shift k) = drawCounters board.keyRate := rfl
  simp only [draw]
  rw [Board.firstFrame_ahead, Board.lockLeds_ahead, Board.keyRate_ahead, Board.trig_ahead, counters]
  split
  · rfl
  · simp only [Board.draw_ahead, pollSensor_ahead]

theorem Dashboard.onRotate_ahead (clockwise : Bool) :
    Dashboard.onRotate clockwise (board.ahead k timer) =
      ((Dashboard.onRotate clockwise board).1,
        (Dashboard.onRotate clockwise board).2.ahead k timer) := by
  simp only [onRotate]
  rw [Board.fnHeld_ahead]
  split <;> rfl

theorem Dashboard.onKey_ahead (event : KeyEvent) (dashboard : Dashboard) :
    dashboard.onKey event (board.ahead k timer) =
      ((dashboard.onKey event board).1, (dashboard.onKey event board).2.1,
        (dashboard.onKey event board).2.2.ahead k timer) := by
  simp only [onKey]
  split <;> split <;> rfl

namespace MenuKind

theorem preview_ahead (row : Nat) (kind : MenuKind) :
    kind.preview row (board.ahead k timer) = (kind.preview row board).ahead k timer := by
  cases kind with
  | rgbEffect | sideEffect =>
    simp only [preview]
    split <;> rfl
  | _ => rfl

theorem onRotate_ahead (clockwise : Bool) (kind : MenuKind) (menu : Menu) :
    kind.onRotate clockwise menu (board.ahead k timer) =
      ((kind.onRotate clockwise menu board).1, (kind.onRotate clockwise menu board).2.1,
        (kind.onRotate clockwise menu board).2.2.ahead k timer) := by
  simp only [onRotate, preview_ahead]
  split <;> rfl

theorem chooseTier_ahead (row : Nat) (kind : MenuKind) :
    kind.chooseTier row (board.ahead k timer) = (kind.chooseTier row board).ahead k timer := by
  unfold chooseTier
  split <;> rfl

theorem chooseArt_ahead (row : Nat) :
    chooseArt row (board.ahead k timer) = (chooseArt row board).ahead k timer := by
  unfold chooseArt
  split
  · rfl
  · let art : HomeArt := .ofIndex (.ofNat (row - 1))
    change (Board.ahead k timer
      { board with settings := { board.settings with homeArt := art } }).saveSettings = _
    rw [Board.saveSettings_ahead]

theorem onActivate_ahead (row : Nat) (kind : MenuKind) :
    kind.onActivate row (board.ahead k timer) =
      ((kind.onActivate row board).1, (kind.onActivate row board).2.ahead k timer) := by
  cases kind with
  | oled =>
    simp only [onActivate]
    split <;> rfl
  | rgbAutoOff | oledAutoOff | sideAutoOff => simp only [onActivate, chooseTier_ahead]
  | artwork => simp only [onActivate, chooseArt_ahead]
  | _ => rfl

end MenuKind

theorem SliderKind.onRotate_ahead (clockwise : Bool) (kind : SliderKind) :
    kind.onRotate clockwise (board.ahead k timer) =
      ((kind.onRotate clockwise board).1, (kind.onRotate clockwise board).2.ahead k timer) := by
  simp only [onRotate]
  rw [Board.settings_ahead]
  split <;> rfl

end

-- ---------------------------------------------------------------------------
-- The screen of the timer
-- ---------------------------------------------------------------------------

namespace PomodoroScreen

variable {k : Millis} {timer : Pomodoro} {board : Board}

theorem drawTimer_shifted {ahead : Pomodoro} (shifted : timer.Shifted k ahead) (now : Millis)
    (before : Pomodoro.Phase) :
    drawTimer (now + k) before ahead = drawTimer now before timer := by
  simp only [drawTimer, shifted.remainingSecs now, shifted.phase]

theorem draw_ahead (shifted : board.pomodoro.Shifted k timer) :
    ∃ later, (draw board).2.pomodoro.Shifted k later ∧
      draw (board.ahead k timer) = ((draw board).1, (draw board).2.ahead k later) := by
  obtain ⟨effects, ticked⟩ := shifted.advance board.now.1
  refine ⟨_, ticked, ?_⟩
  simp only [draw, Board.now_ahead, Board.pomodoro_ahead, effects, drawTimer_shifted ticked,
    shifted.phase]
  rfl

theorem leave_ahead (shifted : board.pomodoro.Shifted k timer) :
    ∃ later, (leave board).pomodoro.Shifted k later ∧
      leave (board.ahead k timer) = (leave board).ahead k later := by
  obtain ⟨flashing, left⟩ := shifted.leave board.now.1
  refine ⟨(timer.leave (board.now.1 + k)).2, ?_, ?_⟩
  · unfold leave
    simp only
    split <;> exact left
  · have timer_now : board.now.2.pomodoro = board.pomodoro := rfl
    cases flash : (board.pomodoro.leave board.now.1).1 <;>
      rw [flash] at flashing <;>
      simp only [leave, Board.now_ahead, Board.pomodoro_ahead, timer_now, flash, flashing,
        Bool.false_eq_true, ↓reduceIte] <;>
      rfl

theorem onRotate_ahead (shifted : board.pomodoro.Shifted k timer) (clockwise : Bool) :
    ∃ later, (onRotate clockwise board).2.pomodoro.Shifted k later ∧
      onRotate clockwise (board.ahead k timer) =
        ((onRotate clockwise board).1, (onRotate clockwise board).2.ahead k later) := by
  obtain ⟨adjustable, adjusted⟩ := shifted.adjust clockwise
  refine ⟨_, adjusted, ?_⟩
  simp only [onRotate, Board.pomodoro_ahead, adjustable]
  rfl

theorem onKey_ahead (shifted : board.pomodoro.Shifted k timer) (event : KeyEvent) :
    ∃ later, (onKey event board).2.pomodoro.Shifted k later ∧
      onKey event (board.ahead k timer) =
        ((onKey event board).1, (onKey event board).2.ahead k later) := by
  simp only [onKey]
  split
  · exact ⟨timer, shifted, rfl⟩
  · split
    · obtain ⟨later, moved, left⟩ := leave_ahead shifted
      exact ⟨later, moved, by rw [left]⟩
    · split
      · obtain ⟨startable, started⟩ := shifted.start board.now.1
        refine ⟨_, started, ?_⟩
        simp only [Board.now_ahead, Board.pomodoro_ahead, startable]
        rfl
      · exact ⟨timer, shifted, rfl⟩

end PomodoroScreen

-- ---------------------------------------------------------------------------
-- Screens
-- ---------------------------------------------------------------------------

namespace ArtState

def isStars : ArtState → Bool
  | space _ => true
  | logo | bongo _ | cube _ => false

def withStars (field : StarField) : ArtState → ArtState
  | space _ => space field
  | art => art

theorem withStars_of_not_isStars {art : ArtState} (starless : art.isStars = false)
    (field : StarField) : art.withStars field = art := by
  cases art with
  | space => cases starless
  | _ => rfl

theorem isStars_draw (trig : Trigonometry) (first : Bool) (art : ArtState) :
    (art.draw trig first).2.isStars = art.isStars := by
  cases art <;> rfl

end ArtState

namespace Screen

def showsStars : Screen → Bool
  | dashboard state => state.art.isStars
  | menu .. | slider _ | pomodoro | help => false

def withStars (field : StarField) : Screen → Screen
  | dashboard state => dashboard { state with art := state.art.withStars field }
  | screen => screen

variable {k : Millis} {timer : Pomodoro} {board : Board} {field : StarField} {screen : Screen}

theorem withStars_of_not_showsStars (starless : screen.showsStars = false) :
    screen.withStars field = screen := by
  cases screen with
  | dashboard state =>
    simp only [withStars, ArtState.withStars_of_not_isStars starless]
  | _ => rfl

theorem showsStars_draw (board : Board) :
    (screen.draw board).2.1.showsStars = screen.showsStars := by
  cases screen with
  | dashboard state => simp only [draw, showsStars, state.art_draw, ArtState.isStars_draw]
  | _ => rfl

theorem withStars_ofArt (art : HomeArt) (seed seed' : UInt32) :
    dashboard (.ofArt art seed') =
      (dashboard (.ofArt art seed)).withStars (.ofSeed seed') := by
  cases art <;> rfl

/-- Only the star field would draw anything else. -/
theorem draw_ahead (shifted : board.pomodoro.Shifted k timer) :
    ∃ later, (screen.draw board).2.2.pomodoro.Shifted k later ∧
      screen.draw (board.ahead k timer) =
        ((screen.draw board).1, (screen.draw board).2.1, (screen.draw board).2.2.ahead k later) := by
  by_cases other : screen.place = .pomodoro
  case neg =>
    refine ⟨timer, by rwa [pomodoro_draw other], ?_⟩
    cases screen with
    | dashboard state => simp only [draw, Dashboard.draw_ahead]
    | help =>
      simp only [draw]
      rw [Board.firstFrame_ahead]
      split <;> rfl
    | pomodoro => exact absurd rfl other
    | _ => rfl
  case pos =>
    cases screen with
    | pomodoro =>
      obtain ⟨later, moved, drawn⟩ := PomodoroScreen.draw_ahead shifted
      exact ⟨later, moved, by simp only [draw, drawn]⟩
    | _ => cases other

theorem onRotate_ahead (field : StarField) (shifted : board.pomodoro.Shifted k timer)
    (clockwise : Bool) :
    ∃ later, (screen.onRotate clockwise board).2.2.pomodoro.Shifted k later ∧
      (screen.withStars field).onRotate clockwise (board.ahead k timer) =
        ((screen.onRotate clockwise board).1, (screen.onRotate clockwise board).2.1.withStars field,
          (screen.onRotate clockwise board).2.2.ahead k later) := by
  cases screen with
  | pomodoro =>
    obtain ⟨later, moved, turned⟩ := PomodoroScreen.onRotate_ahead shifted clockwise
    exact ⟨later, moved, by simp only [withStars, onRotate, turned]⟩
  | dashboard state =>
    refine ⟨timer, by rwa [pomodoro_onRotate fun same => by cases same], ?_⟩
    simp only [withStars, onRotate, Dashboard.onRotate_ahead]
  | menu kind state =>
    refine ⟨timer, by rwa [pomodoro_onRotate fun same => by cases same], ?_⟩
    simp only [withStars, onRotate, MenuKind.onRotate_ahead]
  | slider kind =>
    refine ⟨timer, by rwa [pomodoro_onRotate fun same => by cases same], ?_⟩
    simp only [withStars, onRotate, SliderKind.onRotate_ahead]
  | help => exact ⟨timer, shifted, rfl⟩

theorem onActivate_ahead (field : StarField) (shifted : board.pomodoro.Shifted k timer) :
    ∃ later, (screen.onActivate board).2.pomodoro.Shifted k later ∧
      (screen.withStars field).onActivate (board.ahead k timer) =
        ((screen.onActivate board).1, (screen.onActivate board).2.ahead k later) := by
  cases screen with
  | pomodoro =>
    obtain ⟨later, moved, left⟩ := PomodoroScreen.leave_ahead shifted
    exact ⟨later, moved, by simp only [withStars, onActivate, left]⟩
  | menu kind state =>
    refine ⟨timer, by rwa [pomodoro_onActivate fun same => by cases same], ?_⟩
    simp only [withStars, onActivate, MenuKind.onActivate_ahead]
  | _ => exact ⟨timer, shifted, rfl⟩

theorem onKey_ahead (field : StarField) (shifted : board.pomodoro.Shifted k timer)
    (listener : Listener) (event : KeyEvent) :
    ∃ later, (screen.onKey listener event board).2.2.pomodoro.Shifted k later ∧
      (screen.withStars field).onKey listener event (board.ahead k timer) =
        ((screen.onKey listener event board).1,
          (screen.onKey listener event board).2.1.withStars field,
          (screen.onKey listener event board).2.2.ahead k later) := by
  cases listener with
  | dashboard =>
    refine ⟨timer, by rwa [pomodoro_onKey_dashboard], ?_⟩
    cases screen with
    | dashboard state =>
      obtain ⟨sensorFrame, climate, shownLeds, art⟩ := state
      cases art <;> simp only [withStars, onKey, Dashboard.onKey_ahead] <;> rfl
    | _ => rfl
  | pomodoro =>
    obtain ⟨later, moved, heard⟩ := PomodoroScreen.onKey_ahead shifted event
    exact ⟨later, moved, by simp only [onKey, heard]⟩

end Screen

end KnobPanel
