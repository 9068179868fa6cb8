import KnobPanel.Proofs.SettingsShown
import KnobPanel.Proofs.TickLog

/-!
# The replay in order

However the inputs fall between the ticks, and whatever is lost on the line, the
replay hands over its nine commands one by one and once each, with the values that
are configured at their ticks. A tick advances it by one step if the line is free
and by none if it is busy; until the last step nothing is retried from the slot.
-/

namespace KnobPanel

def Settings.lighting (settings : Settings) : List Command :=
  [.byte .rgbEffect settings.rgb.mode.index,
    .byte .rgbSaturation settings.rgb.saturation,
    .byte .rgbBrightness settings.rgb.brightness,
    .byte .rgbHue settings.rgb.hue,
    .byte .rgbHue2 settings.rgb.hue2,
    .byte .rgbSpeed (rgbSpeedWire settings.rgb.speed),
    .byte .sideEffect settings.side.mode.index,
    .byte .sideBrightness settings.side.brightness,
    .byte .sideSpeed settings.side.speed]

namespace ReplayStep

def passed (step : ReplayStep) : Nat := step.ctorIdx

theorem command?_eq_getElem? (settings : Settings) (step : ReplayStep) :
    step.command? settings = settings.lighting[step.passed]? := by
  cases step <;> rfl

theorem passed_le (step : ReplayStep) : step.passed ≤ 9 := by
  cases step <;> decide

theorem passed_eq_nine_iff (step : ReplayStep) : step.passed = 9 ↔ step = done := by
  cases step <;> decide

theorem passed_next (step : ReplayStep) : step.next.passed = min 9 (step.passed + 1) := by
  cases step <;> rfl

theorem passed_next_eq (settings : Settings) (step : ReplayStep) :
    step.next.passed = step.passed + if (step.command? settings).isSome then 1 else 0 := by
  cases step <;> rfl

end ReplayStep

-- ---------------------------------------------------------------------------
-- What is handed to the channel
-- ---------------------------------------------------------------------------

/-- What was written to the line, delivered or not, newest first. -/
def ScriptedLine.written (log : List Exchange) : List (List UInt8) :=
  log.filterMap fun
    | .transmit bytes _ => some bytes
    | .query _ => none

namespace Channel

def handed (channel : Channel ScriptedLine) : Option Command → Channel ScriptedLine
  | none => channel.isBusy.2
  | some command => (channel.isBusy.2.send command).2

variable {channel : Channel ScriptedLine}

/-- A command that is handed over on a free line is written and nothing else is;
the slot is left alone, unless the command makes it stale. -/
theorem handed_free (even : channel.Even false) (command : Command) :
    ScriptedLine.written (channel.handed (some command)).link.log =
        command.wire :: ScriptedLine.written channel.link.log ∧
      ((channel.handed (some command)).parked = channel.parked ∨
        (channel.handed (some command)).parked = settled command channel.parked) := by
  have free : channel.isBusy.2.isBusy.1 = false := isBusy_of_even even
  simp only [handed]
  rcases send_cases command channel.isBusy.2 with ⟨busy, -⟩ | ⟨-, -, sent⟩ | ⟨-, -, sent⟩
  · rw [free] at busy
    cases busy
  · rw [sent]
    exact ⟨rfl, .inr rfl⟩
  · rw [sent]
    exact ⟨rfl, .inl rfl⟩

end Channel

-- ---------------------------------------------------------------------------
-- One tick
-- ---------------------------------------------------------------------------

namespace Controller

variable {controller : Controller} {busy : Bool}

def findsFree (controller : Controller) : Bool :=
  !controller.tick.1.returned && !controller.board.channel.isBusy.1

theorem serveLights_replaying (even : controller.board.channel.Even busy)
    (pending : controller.replay ≠ .done) :
    let command := if busy then none else controller.replay.command? controller.board.settings
    controller.serveLights.1 = command ∧
      controller.serveLights.2.replay =
        (if busy then controller.replay else controller.replay.next) ∧
      controller.serveLights.2.board.channel = controller.board.channel.handed command := by
  obtain ⟨command, sends⟩ := Option.ne_none_iff_exists'.mp fun none =>
    pending ((ReplayStep.command?_eq_none_iff controller.board.settings _).mp none)
  simp only [serveLights, pending, ↓reduceIte, replayNext, sends, Channel.isBusy_of_even even]
  cases busy <;> exact ⟨rfl, rfl, rfl⟩

theorem even_awake (even : controller.board.channel.Even busy) :
    controller.awake.board.channel.Even busy := by
  rw [Channel.Even, answers_awake]
  exact even

theorem tick_replay (even : controller.board.channel.Even busy) :
    controller.tick.1.replayed =
        (if controller.findsFree then controller.replay.command? controller.board.settings
          else none) ∧
      controller.tick.2.replay =
        if controller.findsFree then controller.replay.next else controller.replay := by
  have free : controller.findsFree = (!controller.tick.1.returned && !busy) := by
    rw [findsFree, Channel.isBusy_of_even even]
  cases returned : controller.tick.1.returned with
  | true =>
    obtain ⟨-, unserved, -, -, replay⟩ := tick_returned returned
    simp [free, returned, unserved, replay]
  | false =>
    obtain ⟨-, served, -, -, replay⟩ := tick_working returned
    have same := replay_awake controller
    rw [served, replay, free, returned]
    by_cases done : controller.replay = .done
    case pos =>
      rw [(serveLights_of_done _ (same.trans done)).2, serveLights, if_pos (same.trans done), done]
      cases busy <;> exact ⟨rfl, rfl⟩
    case neg =>
      obtain ⟨handed, advanced, -⟩ := serveLights_replaying (even_awake even) (same ▸ done)
      rw [handed, advanced, same, settings_awake]
      cases busy <;> exact ⟨rfl, rfl⟩

theorem tick_handed (even : controller.board.channel.Even busy)
    (working : controller.tick.1.returned = false) (pending : controller.replay ≠ .done) :
    controller.tick.2.board.channel =
      controller.awake.board.channel.handed controller.tick.1.replayed := by
  obtain ⟨-, served, lights, -, -⟩ := tick_working working
  have waiting : controller.awake.replay ≠ .done := replay_awake controller ▸ pending
  obtain ⟨handed, -, channel⟩ := serveLights_replaying (even_awake even) waiting
  rw [served, handed, ← channel]
  exact congrArg Lights.channel lights

/-- Before the end of the replay nothing but the command of the step is written,
and the slot is left alone unless that command makes it stale. -/
theorem tick_undrained (even : controller.board.channel.Even busy)
    (working : controller.tick.1.returned = false) (pending : controller.replay ≠ .done) :
    ScriptedLine.written controller.tick.2.board.channel.link.log =
        (controller.tick.1.replayed.map Command.wire).toList ++
          ScriptedLine.written controller.awake.board.channel.link.log ∧
      (controller.tick.2.board.channel.parked = controller.awake.board.channel.parked ∨
        ∃ command, controller.tick.1.replayed = some command ∧
          controller.tick.2.board.channel.parked =
            Channel.settled command controller.awake.board.channel.parked) := by
  rw [tick_handed even working pending]
  cases replayed : controller.tick.1.replayed with
  | none => exact ⟨rfl, .inl rfl⟩
  | some command =>
    -- a command is handed over on a free line only
    have free : busy = false := by
      rw [(tick_replay even).1, findsFree, Channel.isBusy_of_even even] at replayed
      cases busy with
      | false => rfl
      | true => simp at replayed
    obtain ⟨written, parked⟩ := Channel.handed_free (free ▸ even_awake even) command
    refine ⟨written, parked.imp_right fun stale => ⟨command, rfl, stale⟩⟩

theorem replayed_eq_lighting (even : controller.board.channel.Even busy)
    (hands : controller.tick.1.replayed.isSome = true) :
    controller.tick.1.replayed = controller.board.settings.lighting[controller.replay.passed]? := by
  have replayed := (tick_replay even).1
  cases free : controller.findsFree with
  | true => rw [replayed, free, if_pos rfl, ReplayStep.command?_eq_getElem?]
  | false =>
    rw [replayed, free] at hands
    cases hands

theorem tick_done (done : controller.replay = .done) :
    controller.tick.1.replayed = none ∧ controller.tick.2.replay = .done := by
  cases returned : controller.tick.1.returned with
  | true =>
    obtain ⟨-, unserved, -, -, replay⟩ := tick_returned returned
    exact ⟨unserved, replay.trans done⟩
  | false =>
    obtain ⟨-, served, -, -, replay⟩ := tick_working returned
    have finished := (replay_awake controller).trans done
    refine ⟨served.trans ?_, replay.trans (serveLights_of_done _ finished).2⟩
    rw [serveLights, if_pos finished]

-- ---------------------------------------------------------------------------
-- Inputs
-- ---------------------------------------------------------------------------

theorem replay_step_of_ne {event : HostEvent} (input : event ≠ .tick) (moment : Moment)
    (controller : Controller) : (controller.step moment event).2.replay = controller.replay := by
  cases event with
  | tick => exact absurd rfl input
  | key event => exact replay_handleKey event (controller.meet moment)
  | rotate clockwise => exact (replay_react _ _).trans (replay_turnScreen ..)
  | poll => rfl
  | lockLeds => rfl

-- ---------------------------------------------------------------------------
-- Runs
-- ---------------------------------------------------------------------------

def TickRecord.hands (tick : TickRecord) : Bool := tick.report.replayed.isSome

/-- In every tick the line is busy all through or free all through. -/
def EvenTicks (calls : List (Moment × HostEvent)) : Prop :=
  ∀ call ∈ calls, call.2 = .tick → ∃ busy, call.1.busy = fun _ => busy

theorem EvenTicks.tail {call : Moment × HostEvent} {calls : List (Moment × HostEvent)}
    (even : EvenTicks (call :: calls)) : EvenTicks calls :=
  fun later mem => even later (List.mem_cons_of_mem _ mem)

theorem EvenTicks.tick {moment : Moment} {calls : List (Moment × HostEvent)}
    (even : EvenTicks ((moment, .tick) :: calls)) (controller : Controller) :
    (∃ busy, (controller.meet moment).board.channel.Even busy) ∧ EvenTicks calls :=
  ⟨even _ List.mem_cons_self rfl, even.tail⟩

theorem tick_passed (even : controller.board.channel.Even busy) :
    controller.tick.2.replay.passed =
        controller.replay.passed + (if controller.tick.1.replayed.isSome then 1 else 0) ∧
      controller.tick.2.replay.passed =
        min 9 (controller.replay.passed + if controller.findsFree then 1 else 0) := by
  obtain ⟨replayed, replay⟩ := tick_replay even
  rw [replayed, replay]
  cases controller.findsFree with
  | true =>
    simp only [↓reduceIte]
    exact ⟨ReplayStep.passed_next_eq .., ReplayStep.passed_next _⟩
  | false => simp [controller.replay.passed_le]

variable {calls : List (Moment × HostEvent)}

/-- The replay has come as far as it has handed over commands, which is as far as
free ticks have taken it. -/
theorem passed_run (even : EvenTicks calls) (controller : Controller) :
    (controller.run calls).2.replay.passed =
        controller.replay.passed + (controller.tickLog calls).countP (·.hands) ∧
      (controller.run calls).2.replay.passed =
        min 9 (controller.replay.passed + (controller.tickLog calls).countP (·.met.findsFree)) := by
  induction calls, controller using run_induct with
  | nil controller => exact ⟨rfl, (Nat.min_eq_right controller.replay.passed_le).symm⟩
  | tick moment calls controller ih =>
    obtain ⟨⟨busy, met⟩, rest⟩ := even.tick controller
    obtain ⟨handed, free⟩ := ih rest
    obtain ⟨handed', free'⟩ := tick_passed met
    have same : (controller.meet moment).replay = controller.replay := rfl
    rw [same] at handed' free'
    simp only [run, tickLog, ticked, step, handle, List.countP_cons, TickRecord.hands]
      at handed free ⊢
    omega
  | input moment event calls controller input ih =>
    rw [tickLog_input input, ← replay_step_of_ne input moment controller]
    exact ih even.tail

theorem passed_of_hands (even : EvenTicks calls) {controller : Controller} {k : Nat}
    {tick : TickRecord}
    (found : ((controller.tickLog calls).filter (·.hands))[k]? = some tick) :
    tick.met.replay.passed = controller.replay.passed + k := by
  induction calls, controller using run_induct generalizing k with
  | nil => cases found
  | tick moment calls controller ih =>
    obtain ⟨⟨busy, met⟩, rest⟩ := even.tick controller
    have passed := (tick_passed met).1
    cases hands : (controller.meet moment).tick.1.replayed.isSome with
    | false =>
      rw [hands] at passed
      simp only [tickLog, ticked, List.filter_cons, TickRecord.hands, hands] at found
      exact (ih rest found).trans (congrArg (· + k) passed)
    | true =>
      rw [hands, if_pos rfl] at passed
      simp only [tickLog, ticked, List.filter_cons, TickRecord.hands, hands, ↓reduceIte] at found
      cases k with
      | zero =>
        cases found
        rfl
      | succ k =>
        rw [ih rest found, passed, Nat.add_assoc, Nat.add_comm 1 k]
        rfl
  | input moment event calls controller input ih =>
    rw [tickLog_input input] at found
    rw [← replay_step_of_ne input moment controller]
    exact ih even.tail found

theorem run_done {controller : Controller} (done : controller.replay = .done)
    (later : List (Moment × HostEvent)) :
    (controller.run later).2.replay = .done ∧
      ∀ tick ∈ controller.tickLog later, tick.report.replayed = none := by
  induction later, controller using run_induct with
  | nil => exact ⟨done, by simp [tickLog]⟩
  | tick moment later controller ih =>
    have met : (controller.meet moment).replay = .done := done
    obtain ⟨unserved, still⟩ := tick_done met
    obtain ⟨final, rest⟩ := ih still
    refine ⟨final, fun tick found => ?_⟩
    rcases List.mem_cons.mp found with rfl | found
    · exact unserved
    · exact rest tick found
  | input moment event later controller input ih =>
    rw [tickLog_input input]
    exact ih ((replay_step_of_ne input moment controller).trans done)

/-- The replay as the ticks of a run have carried it out. -/
structure InOrder (ticks : List TickRecord) (left : Controller) : Prop where
  /-- What is handed over next is next in the list of the settings of that tick. -/
  order : ∀ (k : Nat) (tick : TickRecord), (ticks.filter (·.hands))[k]? = some tick →
    tick.report.replayed = tick.met.board.settings.lighting[k]?
  count : ticks.countP (·.hands) = min 9 (ticks.countP (·.met.findsFree))
  done_iff : left.replay = .done ↔ ticks.countP (·.hands) = 9
  step : ∀ tick ∈ ticks, tick.left.replay =
    if tick.met.findsFree then tick.met.replay.next else tick.met.replay
  handed : ∀ tick ∈ ticks, tick.report.returned = false → tick.met.replay ≠ .done →
    tick.left.board.channel = tick.met.awake.board.channel.handed tick.report.replayed
  /-- Before the end of the replay nothing is retried from the slot. -/
  undrained : ∀ tick ∈ ticks, tick.report.returned = false → tick.met.replay ≠ .done →
    ScriptedLine.written tick.left.board.channel.link.log =
        (tick.report.replayed.map Command.wire).toList ++
          ScriptedLine.written tick.met.awake.board.channel.link.log ∧
      (tick.left.board.channel.parked = tick.met.awake.board.channel.parked ∨
        ∃ command, tick.report.replayed = some command ∧
          tick.left.board.channel.parked =
            Channel.settled command tick.met.awake.board.channel.parked)
  returned : ∀ tick ∈ ticks, tick.report.returned = true →
    tick.report.replayed = none ∧ tick.left.board.channel = tick.met.board.channel

theorem TickRecord.Of.even {tick : TickRecord} (h : tick.Of calls) (even : EvenTicks calls) :
    ∃ busy, tick.met.board.channel.Even busy := by
  obtain ⟨call, mem, ticks, answers⟩ := h.answers
  obtain ⟨busy, same⟩ := even call mem ticks
  exact ⟨busy, (congrArg Prod.fst answers).trans same⟩

/-- In every run on a line that does not change its mind within a tick, the
replay hands over its commands in order, and once it is over it stays over. -/
theorem replay_run (moment : Moment) (store : FlatStore) (even : EvenTicks calls) :
    InOrder ((start moment store).tickLog calls) ((start moment store).run calls).2 ∧
      (((start moment store).run calls).2.replay = .done →
        ∀ later, (((start moment store).run calls).2.run later).2.replay = .done ∧
          ∀ tick ∈ ((start moment store).run calls).2.tickLog later,
            tick.report.replayed = none) := by
  have fresh : (start moment store).replay.passed = 0 := rfl
  obtain ⟨handed, free⟩ := passed_run even (start moment store)
  rw [fresh, Nat.zero_add] at handed free
  refine ⟨{ order := ?_, count := handed.symm.trans free, done_iff := ?_, step := ?_,
            handed := ?_, undrained := ?_, returned := ?_ }, run_done⟩
  · intro k tick found
    have passed := passed_of_hands even found
    rw [fresh, Nat.zero_add] at passed
    obtain ⟨mem, hands⟩ := List.mem_filter.mp (List.mem_of_getElem? found)
    have of := mem_tickLog mem
    obtain ⟨busy, even⟩ := of.even even
    rw [TickRecord.hands, of.report] at hands
    rw [of.report, ← passed]
    exact replayed_eq_lighting even hands
  · rw [← ReplayStep.passed_eq_nine_iff, handed]
  all_goals
    intro tick found
    have of := mem_tickLog found
    obtain ⟨busy, even⟩ := of.even even
    simp only [of.report, of.left]
  · exact (tick_replay even).2
  · exact tick_handed even
  · exact tick_undrained even
  · intro returned
    obtain ⟨-, unserved, lights, -, -⟩ := tick_returned returned
    exact ⟨unserved, congrArg Lights.channel lights⟩

/-- While the replay is at it the settings menu is left to return by itself, the
key lights are dimmed, and the line is busy for a tick and loses a command. -/
def dimmedMeanwhile : List (Moment × HostEvent) :=
  let press : Moment × HostEvent := (.still 0 false, .key ⟨0, .activate, true⟩)
  let turn (clockwise : Bool) : Moment × HostEvent := (.still 6000 false, .rotate clockwise)
  let select : Moment × HostEvent := (.still 6000 false, .key ⟨0, .activate, true⟩)
  [(.still 0 false, .tick), press, (.still 6000 false, .tick), (.still 6000 true, .tick),
    select, turn true, select, turn true, turn true, select, turn false,
    ({ Moment.still 6000 false with delivers := fun _ => false }, .tick)] ++
    .replicate 8 (.still 6000 false, .tick)

theorem evenTicks_dimmedMeanwhile : EvenTicks dimmedMeanwhile := by
  have even : ∀ call ∈ dimmedMeanwhile, ∃ busy, call.1.busy = fun _ => busy := by
    simp only [dimmedMeanwhile, List.forall_mem_append, List.forall_mem_cons, List.mem_replicate]
    refine ⟨⟨⟨_, rfl⟩, ⟨_, rfl⟩, ⟨_, rfl⟩, ⟨_, rfl⟩, ⟨_, rfl⟩, ⟨_, rfl⟩, ⟨_, rfl⟩, ⟨_, rfl⟩,
      ⟨_, rfl⟩, ⟨_, rfl⟩, ⟨_, rfl⟩, ⟨_, rfl⟩, by simp⟩, ?_⟩
    rintro _ ⟨-, rfl⟩
    exact ⟨_, rfl⟩
  exact fun call mem _ => even call mem

theorem replay_run_dimmedMeanwhile :
    EvenTicks dimmedMeanwhile ∧
      ((start (.still 0 false) erased).run dimmedMeanwhile).2.replay = .done ∧
      ((start (.still 0 false) erased).run dimmedMeanwhile).2.board.settings.rgb.brightness = 24 ∧
      InOrder ((start (.still 0 false) erased).tickLog dimmedMeanwhile)
        ((start (.still 0 false) erased).run dimmedMeanwhile).2 := by
  obtain ⟨finished, dimmed⟩ : ((start (.still 0 false) erased).run dimmedMeanwhile).2.replay = .done ∧
      ((start (.still 0 false) erased).run dimmedMeanwhile).2.board.settings.rgb.brightness =
        24 := by
    decide +kernel
  exact ⟨evenTicks_dimmedMeanwhile, finished, dimmed,
    (replay_run (.still 0 false) erased evenTicks_dimmedMeanwhile).1⟩

end Controller

end KnobPanel
