import KnobPanel.Proofs.DarkDisplay
import KnobPanel.Proofs.TruthfulMarks
import Mathlib.Data.List.Induction

/-!
# The return to the dashboard

The settings menu is left by a tick once nothing was pressed, released or turned
for five seconds. Opening a menu counts as activity as well, but it takes an
input to open one: as long as the clock does not move during a call, the last
activity is the last input.
-/

namespace KnobPanel

-- ---------------------------------------------------------------------------
-- Times
-- ---------------------------------------------------------------------------

/-- The clock stands still all through the call, so many milliseconds into the
run. -/
def Moment.StoppedAt (time : Nat) (moment : Moment) : Prop :=
  moment.clock = fun _ => .ofNat time

theorem IdleTimers.idleSecs_ofNat {idle : IdleTimers} {since now : Nat}
    (active : idle.lastActivity = .ofNat since) (le : since ≤ now)
    (lt : now < since + UInt32.size) : idle.idleSecs (.ofNat now) = (now - since) / 1000 := by
  rw [idleSecs, idleMs, active, Clock.elapsed_ofNat le lt]

-- ---------------------------------------------------------------------------
-- Calls of the host
-- ---------------------------------------------------------------------------

def HostEvent.isInput : HostEvent → Bool
  | key _ | rotate _ => true
  | tick | poll | lockLeds _ => false

def lastInput (calls : List (Moment × HostEvent)) : Option (Moment × HostEvent) :=
  (calls.filter (·.2.isInput)).getLast?

theorem lastInput_concat (calls : List (Moment × HostEvent)) (call : Moment × HostEvent) :
    lastInput (calls ++ [call]) = if call.2.isInput then some call else lastInput calls := by
  unfold lastInput
  cases input : call.2.isInput <;> simp [List.filter_append, input]

namespace Controller

variable {controller : Controller}

theorem returned_tick (controller : Controller) :
    controller.tick.1.returned = controller.board.idle.returnDue controller.now.1 := by
  cases returned : controller.tick.1.returned with
  | true => exact (controller.tick_go returned).1.symm
  | false =>
    cases due : controller.board.idle.returnDue controller.now.1 with
    | false => rfl
    | true =>
      have met : controller.now.2.board.idle.returnDue controller.now.1 = true := due
      simp [tick, met] at returned

theorem place_tick (controller : Controller) :
    controller.tick.2.screen.place =
      if controller.board.idle.returnDue controller.now.1 then .dashboard
      else controller.screen.place := by
  rw [← returned_tick]
  cases returned : controller.tick.1.returned with
  | true =>
    rw [(controller.tick_go returned).2]
    exact place_go _ _
  | false =>
    obtain ⟨_, _, _, _, _, _, _, _, _, _, _, kept, ticked⟩ := controller.tick_frame returned
    rw [ticked]
    exact kept

theorem lastActivity_quiet {event : HostEvent} (quiet : event.isInput = false) :
    (controller.handle event).2.board.idle.lastActivity = controller.board.idle.lastActivity := by
  cases event with
  | tick =>
    cases returned : controller.tick.1.returned with
    | true =>
      rw [handle, (controller.tick_go returned).2]
      rfl
    | false =>
      obtain ⟨_, _, _, _, _, _, _, _, _, _, _, -, ticked⟩ := controller.tick_frame returned
      rw [handle, ticked]
  | key event => cases quiet
  | rotate clockwise => cases quiet
  | poll => rfl
  | lockLeds leds => rfl

theorem lastActivity_input {event : HostEvent} {time : Millis} (input : event.isInput = true)
    (still : controller.board.clock.readings = fun _ => time) :
    (controller.handle event).2.board.idle.lastActivity = time := by
  cases event with
  | key event => exact (attended_handleKey still event).activity
  | rotate clockwise => exact (attended_handleRotate still clockwise).activity
  | tick | poll | lockLeds leds => cases input

theorem place_quiet {event : HostEvent} (quiet : event.isInput = false)
    (home : controller.screen.place = .dashboard) :
    (controller.handle event).2.screen.place = .dashboard := by
  cases event with
  | tick =>
    rw [handle, place_tick, home]
    exact ite_self _
  | key event => cases quiet
  | rotate clockwise => cases quiet
  | poll => exact home
  | lockLeds leds => exact home

-- ---------------------------------------------------------------------------
-- Runs
-- ---------------------------------------------------------------------------

theorem lastActivity_run {calls : List (Moment × HostEvent)} {call : Moment × HostEvent}
    {time : Millis} (last : lastInput calls = some call) (still : call.1.clock = fun _ => time)
    (controller : Controller) :
    (controller.run calls).2.board.idle.lastActivity = time := by
  induction calls using List.reverseRecOn with
  | nil => cases last
  | append_singleton calls latest ih =>
    rw [lastInput_concat] at last
    rw [run_concat]
    cases input : latest.2.isInput with
    | true =>
      rw [input, if_pos rfl] at last
      obtain rfl := Option.some.inj last
      exact lastActivity_input input still
    | false =>
      rw [input, if_neg Bool.false_ne_true] at last
      exact (lastActivity_quiet input).trans (ih last)

theorem exists_lastInput {calls : List (Moment × HostEvent)}
    (home : controller.screen.place = .dashboard)
    (left : (controller.run calls).2.screen.place ≠ .dashboard) :
    ∃ call, lastInput calls = some call := by
  induction calls using List.reverseRecOn with
  | nil => exact absurd home left
  | append_singleton calls latest ih =>
    rw [lastInput_concat]
    rw [run_concat] at left
    cases input : latest.2.isInput with
    | true => exact ⟨latest, if_pos rfl⟩
    | false =>
      rw [if_neg Bool.false_ne_true]
      exact ih fun stayed => left (place_quiet input stayed)

-- ---------------------------------------------------------------------------
-- The return
-- ---------------------------------------------------------------------------

theorem Placed.returnDue_iff (placed : controller.Placed) (now : Millis) :
    controller.board.idle.returnDue now = true ↔
      controller.screen.place = .menu .settings ∧ 4 < controller.board.idle.idleSecs now := by
  rw [IdleTimers.returnDue, placed.autoReturn]
  cases controller.screen.place with
  | menu kind => cases kind <;> simp [Route.autoReturn?, MenuKind.autoReturnSecs]
  | _ => simp [Route.autoReturn?]

/-- The dashboard is back, and neither the lighting line was used nor anything lost
that outlives a change of screen. -/
structure Returned (met left : Controller) : Prop where
  place : left.screen.place = .dashboard
  settings : left.board.settings = met.board.settings
  store : left.board.store = met.board.store
  channel : left.board.channel = met.board.channel
  stagedLed : left.stagedLed = met.stagedLed
  replay : left.replay = met.replay
  pomodoro : left.board.pomodoro = met.board.pomodoro
  keyRate : left.board.keyRate = met.board.keyRate
  rgbOff : left.board.idle.rgbOff = met.board.idle.rgbOff
  sideOff : left.board.idle.sideOff = met.board.idle.sideOff

theorem returned_go (controller : Controller) :
    controller.Returned (controller.now.2.go .dashboard) := by
  constructor <;> rfl

/-- A tick changes the screen exactly if the settings menu is open and the last
input is five seconds old, less than a round of the clock; and then it returns to
the dashboard. -/
theorem tick_returns_iff (moment : Moment) (store : FlatStore)
    (calls : List (Moment × HostEvent)) {tick : Moment} {since now : Nat}
    (still : tick.StoppedAt now)
    (recent : ∀ call, lastInput calls = some call →
      call.1.StoppedAt since ∧ since ≤ now ∧ now < since + UInt32.size) :
    let met := ((start moment store).run calls).2.meet tick
    (met.tick.2.screen.place ≠ met.screen.place ↔
      met.screen.place = .menu .settings ∧ since + 5000 ≤ now) ∧
    (met.tick.2.screen.place ≠ met.screen.place → met.Returned met.tick.2) := by
  intro met
  have reading : met.now.1 = .ofNat now := now_eq still
  have placed : met.Placed := ((Reachable.start moment store).run calls).placed.meet tick
  have due_iff : met.board.idle.returnDue met.now.1 = true ↔
      met.screen.place = .menu .settings ∧ since + 5000 ≤ now := by
    rw [placed.returnDue_iff, reading]
    refine and_congr_right fun opened => ?_
    have left : met.screen.place ≠ .dashboard := by simp [opened]
    have home : (start moment store).screen.place = .dashboard := place_go _ _
    obtain ⟨call, last⟩ := exists_lastInput home left
    obtain ⟨stopped, le, lt⟩ := recent call last
    have active : met.board.idle.lastActivity = .ofNat since := lastActivity_run last stopped _
    rw [IdleTimers.idleSecs_ofNat active le lt]
    omega
  have changes_iff : met.tick.2.screen.place ≠ met.screen.place ↔
      met.board.idle.returnDue met.now.1 = true := by
    rw [place_tick]
    cases due : met.board.idle.returnDue met.now.1 with
    | true => simp [(due_iff.mp due).1]
    | false => simp
  refine ⟨changes_iff.trans due_iff, fun changes => ?_⟩
  have returned := (returned_tick met).trans (changes_iff.mp changes)
  rw [(met.tick_go returned).2]
  exact returned_go met

/-- The settings menu is opened one second before the clock rolls over. -/
def openedLate : List (Moment × HostEvent) :=
  [(.still 0 false, .tick),
    (.still (.ofNat (UInt32.size - 1000)) false, .key ⟨0, .activate, true⟩)]

theorem tick_returns_iff_openedLate :
    let met (now : Nat) :=
      ((start (.still 0 false) erased).run openedLate).2.meet (.still (.ofNat now) true)
    (met (UInt32.size + 4000)).Returned (met (UInt32.size + 4000)).tick.2 ∧
      (met (UInt32.size + 3999)).tick.2.screen.place = .menu .settings := by
  intro met
  have opened : ((start (.still 0 false) erased).run openedLate).2.screen.place =
      .menu .settings := by
    decide +kernel
  have ticked (now : Nat) (le : UInt32.size - 1000 ≤ now)
      (lt : now < UInt32.size - 1000 + UInt32.size) :
      ((met now).tick.2.screen.place ≠ (met now).screen.place ↔
        (met now).screen.place = .menu .settings ∧ UInt32.size - 1000 + 5000 ≤ now) ∧
      ((met now).tick.2.screen.place ≠ (met now).screen.place →
        (met now).Returned (met now).tick.2) := by
    have stopped : (Moment.still (.ofNat now) true).StoppedAt now := rfl
    refine tick_returns_iff (.still 0 false) erased openedLate stopped ?_
    rintro call ⟨⟩
    exact ⟨rfl, le, lt⟩
  obtain ⟨due, returned⟩ := ticked (UInt32.size + 4000) (by decide) (by decide)
  obtain ⟨early, -⟩ := ticked (UInt32.size + 3999) (by decide) (by decide)
  refine ⟨returned (due.mpr ⟨opened, by decide⟩), ?_⟩
  have stays := not_ne_iff.mp (early.not.mpr fun wait => absurd wait.2 (by decide))
  exact stays.trans opened

end Controller

end KnobPanel
