import KnobPanel.Proofs.DarkDisplay
import KnobPanel.Proofs.Reports

/-!
# How often a key is reported

A press that meets a busy line is in two places, staged and in the slot, and each
of them may bring its report to the controller. What is reported or waits in the
slot, together with what is staged and does not wait there, grows by one with each
press. Ticks do not add to it, unless the line changes its mind in the middle of
one: then the report may go out from the slot with the key still staged.
-/

namespace KnobPanel

-- ---------------------------------------------------------------------------
-- Reports out, waiting and staged
-- ---------------------------------------------------------------------------

namespace Lights

/-- The report of the staged key waits in the slot, since nothing was to be
brought back before it. -/
def Covers (led : UInt8) (lights : Lights) : Prop :=
  lights.nextOff = none ∧ lights.channel.parked = some (.byte .rgbKeypress led)

instance (led : UInt8) (lights : Lights) : Decidable (lights.Covers led) :=
  inferInstanceAs (Decidable (_ ∧ _))

/-- How many reports went out, wait in the slot, or are staged and not in the
slot. -/
def accounted (staged : Option UInt8) (lights : Lights) : Nat :=
  lights.channel.reports +
    match staged with
    | none => 0
    | some led => if lights.Covers led then 0 else 1

variable {lights before after : Lights} {led : UInt8}

theorem accounted_none : lights.accounted none = lights.channel.reports := rfl

theorem accounted_of_not_covers (apart : ¬lights.Covers led) :
    lights.accounted (some led) = lights.channel.reports + 1 := by
  simp only [accounted, apart, ↓reduceIte]

theorem accounted_of_covers (covers : lights.Covers led) :
    lights.accounted (some led) = lights.channel.reported.length + 1 := by
  simp only [accounted, covers, ↓reduceIte, Channel.reports, Channel.holdsReport, covers.2]
  rfl

theorem accounted_bounds (staged : Option UInt8) (lights : Lights) :
    lights.channel.reports ≤ lights.accounted staged ∧
      lights.accounted staged ≤ lights.channel.reports + 1 := by
  unfold accounted
  split
  · omega
  · split <;> omega

theorem reported_lt_accounted (led : UInt8) (lights : Lights) :
    lights.channel.reported.length < lights.accounted (some led) := by
  by_cases covers : lights.Covers led
  · rw [accounted_of_covers covers]
    omega
  · rw [accounted_of_not_covers covers, Channel.reports]
    omega

theorem accounted_mute (mute : before.channel.Mute after.channel)
    (next : after.nextOff = before.nextOff) (staged : Option UInt8) :
    after.accounted staged ≤ before.accounted staged := by
  have le := mute.reports_le
  cases staged with
  | none => exact le
  | some led =>
    by_cases covers : after.Covers led
    case pos =>
      have lt := reported_lt_accounted led before
      rw [accounted_of_covers covers, mute.reported]
      exact lt
    case neg =>
      rw [accounted_of_not_covers covers]
      by_cases covered : before.Covers led
      case neg =>
        rw [accounted_of_not_covers covered]
        omega
      case pos =>
        -- another command has taken the slot
        have gone : after.channel.holdsReport = false := by
          cases holds : after.channel.holdsReport with
          | false => rfl
          | true => exact absurd ⟨next.trans covered.1, (mute.parked holds).trans covered.2⟩ covers
        rw [accounted_of_covers covered, Channel.reports, gone, mute.reported]
        exact Nat.le_refl _

end Lights

-- ---------------------------------------------------------------------------
-- The parts of a tick
-- ---------------------------------------------------------------------------

namespace Controller

def accounted (controller : Controller) : Nat :=
  controller.board.lights.accounted controller.stagedLed

variable {controller : Controller} {led : UInt8}

theorem accounted_le_of_mute {before after : Controller}
    (mute : before.board.channel.Mute after.board.channel)
    (next : after.board.lights.nextOff = before.board.lights.nextOff)
    (staged : after.stagedLed = before.stagedLed) : after.accounted ≤ before.accounted := by
  rw [accounted, accounted, staged]
  exact Lights.accounted_mute mute next _

/-- The controller of a tick between its auto-off and waking. -/
def dimmed (controller : Controller) : Controller := (controller.now.2.autoOff controller.now.1).2

theorem awake_eq (controller : Controller) : controller.awake = controller.dimmed.notifyLed := rfl

theorem mute_dimmed (controller : Controller) :
    controller.board.channel.Mute controller.dimmed.board.channel :=
  controller.now.2.board.mute_autoOff controller.now.1

theorem dimmed_staged (controller : Controller) :
    controller.dimmed.stagedLed = none ∨
      controller.dimmed.stagedLed = controller.stagedLed ∧
        controller.dimmed.board.lights.nextOff = controller.board.lights.nextOff := by
  have step := Board.autoOff_step controller.now.1 controller.now.2.board
  simp only [dimmed, autoOff]
  generalize (controller.now.2.board.autoOff controller.now.1).2.lights = lights,
    (controller.now.2.board.autoOff controller.now.1).1 = report at step
  cases step with
  | displayOff => exact .inr ⟨rfl, rfl⟩
  | lightOff light => cases light <;> exact .inl rfl
  | nothing => exact .inr ⟨rfl, rfl⟩

theorem accounted_dimmed (controller : Controller) :
    controller.dimmed.accounted ≤ controller.accounted := by
  rcases controller.dimmed_staged with unstaged | ⟨staged, next⟩
  · have least := Lights.accounted_bounds controller.stagedLed controller.board.lights
    rw [accounted, unstaged]
    exact Nat.le_trans controller.mute_dimmed.reports_le least.1
  · exact accounted_le_of_mute controller.mute_dimmed next staged

theorem accounted_restoring (staged : controller.stagedLed = some led)
    (next : controller.board.lights.nextOff ≠ none) :
    controller.notifyLed.serveLights.2.accounted ≤ controller.accounted := by
  obtain ⟨woken, -⟩ := notifyLed_ok staged
  have other : (controller.board.lights.wakeCommand led).opcode ≠ .rgbKeypress := by
    rw [Lights.opcode_wakeCommand]
    cases restored : controller.board.lights.nextOff with
    | none => exact absurd restored next
    | some light => exact light.effect_ne_rgbKeypress
  have mute : controller.board.channel.Mute controller.notifyLed.board.channel := by
    have sent : controller.notifyLed.board.channel = _ := congrArg Lights.channel woken
    exact sent ▸ Channel.mute_send other
  have most := (Lights.accounted_bounds controller.notifyLed.serveLights.2.stagedLed
    controller.notifyLed.serveLights.2.board.lights).2
  have served := controller.notifyLed.reports_serveLights
  have apart : ¬controller.board.lights.Covers led := fun covers => next covers.1
  have before := Lights.accounted_of_not_covers apart
  have le := mute.reports_le
  rw [accounted, accounted, staged, before]
  simp only [Board.lights] at most ⊢
  omega

/-- With nothing to bring back, a staged key is reported, or its report waits, or
it is lost and all is as before. -/
theorem accounted_reporting (staged : controller.stagedLed = some led)
    (next : controller.board.lights.nextOff = none) :
    controller.notifyLed.accounted ≤ controller.accounted ∧
      (controller.notifyLed.stagedLed = none ∨
        controller.notifyLed.stagedLed = some led ∧
          controller.notifyLed.board.lights.nextOff = none ∧
          controller.notifyLed.board.channel.reported = controller.board.channel.reported) := by
  obtain ⟨woken, left⟩ := notifyLed_ok staged
  have command : controller.board.lights.wakeCommand led = .byte .rgbKeypress led := by
    rw [Lights.wakeCommand, next]
  have channel : controller.notifyLed.board.channel =
      (controller.board.channel.send (.byte .rgbKeypress led)).2 := by
    refine (congrArg Lights.channel woken).trans ?_
    rw [← command]
    rfl
  have still : controller.notifyLed.board.lights.nextOff = none := by
    rw [woken, Lights.wake, next]
    exact next
  have least := Lights.reported_lt_accounted led controller.board.lights
  rw [accounted, accounted, staged]
  rcases controller.board.channel.send_report led with
    ⟨ok, reported, empty⟩ | ⟨failed, reported, slot⟩
  · rw [left, if_pos ⟨next, ok⟩]
    refine ⟨?_, .inl rfl⟩
    rw [← channel] at reported empty
    have reports : controller.notifyLed.board.channel.reports =
        controller.board.channel.reported.length + 1 := by
      rw [Channel.reports, reported, empty]
      rfl
    rw [Lights.accounted_none]
    exact Nat.le_trans (Nat.le_of_eq reports) least
  · rw [left, if_neg (by simp [failed])]
    rw [← channel] at reported slot
    refine ⟨?_, .inr ⟨rfl, still, reported⟩⟩
    rcases slot with parked | parked
    · have covers : controller.notifyLed.board.lights.Covers led := ⟨still, parked⟩
      rw [Lights.accounted_of_covers covers]
      exact reported ▸ least
    · have mute : controller.board.channel.Mute controller.notifyLed.board.channel :=
        ⟨reported, fun _ => parked⟩
      exact Lights.accounted_mute mute (still.trans next.symm) _

theorem accounted_serveLights (controller : Controller) :
    controller.serveLights.2.accounted ≤ controller.accounted ∨
      ∃ led, controller.stagedLed = some led ∧
        controller.serveLights.2.board.channel.reported =
          [led] :: controller.board.channel.reported ∧
        controller.serveLights.2.accounted ≤ controller.accounted + 1 := by
  have lights := lights_serveLights controller
  have next : controller.serveLights.2.board.lights.nextOff = controller.board.lights.nextOff := by
    rw [lights]
    rfl
  have kept (mute : controller.board.channel.Mute controller.serveLights.2.board.channel) :
      controller.serveLights.2.accounted ≤ controller.accounted :=
    accounted_le_of_mute mute next (stagedLed_serveLights _)
  rcases controller.serveLights_channel with mute | drained
  · exact .inl (kept mute)
  rcases controller.board.channel.drain_report with ⟨reported, parked⟩ | ⟨command, parked, -, brought⟩
  · refine .inl (kept ⟨drained ▸ reported, fun _ => drained ▸ parked⟩)
  have served := controller.reports_serveLights
  cases staged : controller.stagedLed with
  | none =>
    rw [accounted, accounted, stagedLed_serveLights, staged]
    exact .inl served
  | some led =>
    have most := (Lights.accounted_bounds (some led) controller.serveLights.2.board.lights).2
    have least := (Lights.accounted_bounds (some led) controller.board.lights).1
    rw [accounted, accounted, stagedLed_serveLights, staged]
    simp only [Board.lights] at most least ⊢
    by_cases covers : controller.board.lights.Covers led
    case pos =>
      refine .inr ⟨led, rfl, ?_, ?_⟩
      · rw [drained, brought]
        cases parked.symm.trans covers.2
        rfl
      · omega
    case neg =>
      have apart := Lights.accounted_of_not_covers covers
      simp only [Board.lights] at apart
      omega

theorem staged_of_awake (kept : controller.awake.stagedLed = some led) :
    controller.dimmed.stagedLed = some led ∧
      controller.dimmed.board.lights.nextOff = controller.board.lights.nextOff := by
  rw [awake_eq] at kept
  rcases controller.dimmed_staged with unstaged | ⟨-, next⟩
  · rw [notifyLed_of_none unstaged, unstaged] at kept
    cases kept
  · cases staged : controller.dimmed.stagedLed with
    | none =>
      rw [notifyLed_of_none staged, staged] at kept
      cases kept
    | some met =>
      rw [(notifyLed_ok staged).2] at kept
      split at kept
      · cases kept
      · exact ⟨kept, next⟩

theorem reported_awake (kept : controller.awake.stagedLed = some led)
    (next : controller.board.lights.nextOff = none) :
    controller.awake.board.channel.reported = controller.board.channel.reported := by
  obtain ⟨staged, same⟩ := staged_of_awake kept
  obtain ⟨-, taken | ⟨-, -, reported⟩⟩ := accounted_reporting staged (same.trans next)
  · cases taken.symm.trans kept
  · exact reported.trans controller.mute_dimmed.reported

theorem accounted_awake
    (next : ∀ led, controller.dimmed.stagedLed = some led →
      controller.dimmed.board.lights.nextOff = none) :
    controller.awake.accounted ≤ controller.accounted := by
  refine Nat.le_trans ?_ controller.accounted_dimmed
  rw [awake_eq]
  cases staged : controller.dimmed.stagedLed with
  | none => exact Nat.le_of_eq (by rw [notifyLed_of_none staged])
  | some led => exact (accounted_reporting staged (next led staged)).1

-- ---------------------------------------------------------------------------
-- The whole tick
-- ---------------------------------------------------------------------------

/-- With nothing to bring back, the tick brought the report of the staged key to the
controller and left the key staged. -/
def TickRecord.repeats (tick : TickRecord) : Bool :=
  tick.met.board.lights.nextOff.isNone &&
    tick.left.stagedLed.any fun led =>
      tick.left.board.channel.reported == [led] :: tick.met.board.channel.reported

theorem accounted_tick (controller : Controller) :
    controller.tick.2.accounted ≤
      controller.accounted + if controller.ticked.repeats then 1 else 0 := by
  cases returned : controller.tick.1.returned with
  | true =>
    obtain ⟨-, -, lights, staged, -⟩ := tick_returned returned
    rw [accounted, lights, staged]
    exact Nat.le_add_right ..
  | false =>
    obtain ⟨-, -, lights, stagedLeft, -⟩ := tick_working returned
    have served : controller.tick.2.accounted = controller.awake.serveLights.2.accounted := by
      rw [accounted, accounted, lights, stagedLeft, stagedLed_serveLights]
    rw [served]
    by_cases restoring : ∃ led, controller.dimmed.stagedLed = some led ∧
        controller.dimmed.board.lights.nextOff ≠ none
    case pos =>
      obtain ⟨led, staged, next⟩ := restoring
      have restored := Nat.le_trans (accounted_restoring staged next) controller.accounted_dimmed
      exact Nat.le_trans restored (Nat.le_add_right ..)
    case neg =>
      have next (led : UInt8) (staged : controller.dimmed.stagedLed = some led) :
          controller.dimmed.board.lights.nextOff = none :=
        Decidable.byContradiction fun other => restoring ⟨led, staged, other⟩
      have woken := accounted_awake next
      rcases controller.awake.accounted_serveLights with kept | ⟨led, kept, brought, more⟩
      · exact Nat.le_trans (Nat.le_trans kept woken) (Nat.le_add_right ..)
      · -- the key is still staged, with its report out
        obtain ⟨staged, same⟩ := staged_of_awake kept
        have nothing : controller.board.lights.nextOff = none := same.symm.trans (next led staged)
        have left : controller.tick.2.board.channel = _ := congrArg Lights.channel lights
        have once : controller.tick.2.board.channel.reported =
            [led] :: controller.board.channel.reported := by
          rw [left, ← reported_awake kept nothing]
          exact brought
        have repeats : controller.ticked.repeats = true := by
          simp only [TickRecord.repeats, ticked, nothing, stagedLeft, kept, once,
            Option.isNone_none, Option.any_some, beq_self_eq_true, Bool.and_self]
        rw [if_pos repeats]
        exact Nat.le_trans more (Nat.succ_le_succ woken)

theorem not_repeats_of_even {busy delivers : Bool}
    (even : controller.board.channel.answers = (fun _ => busy, fun _ => delivers)) :
    controller.ticked.repeats = false := by
  refine Bool.eq_false_iff.mpr fun repeats => ?_
  simp only [TickRecord.repeats, ticked, Bool.and_eq_true, Option.isNone_iff_eq_none,
    Option.any_eq_true, beq_iff_eq] at repeats
  obtain ⟨next, led, staged, reported⟩ := repeats
  have more : controller.tick.2.board.channel.reported ≠ controller.board.channel.reported :=
    fun same => List.cons_ne_self _ _ (reported.symm.trans same)
  cases returned : controller.tick.1.returned with
  | true =>
    obtain ⟨-, -, lights, -, -⟩ := tick_returned returned
    exact more (congrArg Channel.reported (congrArg Lights.channel lights))
  | false =>
    obtain ⟨-, -, lights, stagedLeft, -⟩ := tick_working returned
    have kept : controller.awake.stagedLed = some led := stagedLeft.symm.trans staged
    obtain ⟨met, same⟩ := staged_of_awake kept
    have answers : controller.dimmed.board.channel.answers = (fun _ => busy, fun _ => delivers) :=
      (controller.now.2.board.answers_autoOff controller.now.1).trans even
    -- the key is still staged, so the line has refused its report, and goes on refusing
    have refuses : (!busy && delivers) = false := by
      rw [← Channel.isOk_send_of_answers answers (.byte .rgbKeypress led)]
      refine Bool.eq_false_iff.mpr fun taken => ?_
      rw [awake_eq, (notifyLed_ok met).2, if_pos ⟨same.trans next, taken⟩] at kept
      cases kept
    have served : controller.awake.serveLights.2.board.channel.reported =
        controller.awake.board.channel.reported := by
      rcases controller.awake.serveLights_channel with mute | drained
      · exact mute.reported
      · rw [drained]
        exact Channel.reported_drain_of_answers ((answers_awake controller).trans even) refuses
    have left : controller.tick.2.board.channel = _ := congrArg Lights.channel lights
    refine more ?_
    rw [left]
    exact served.trans (reported_awake kept next)

-- ---------------------------------------------------------------------------
-- Inputs
-- ---------------------------------------------------------------------------

end Controller

def HostEvent.stages : HostEvent → Bool
  | .key event => event.pressed && event.key.led?.isSome
  | _ => false

namespace Controller

theorem accounted_handleKey (event : KeyEvent) (controller : Controller) :
    (controller.handleKey event).2.accounted ≤
      controller.accounted + if HostEvent.stages (.key event) then 1 else 0 := by
  obtain ⟨settings, lights⟩ := controller.lights_handleKey event
  have bounds (staged : Option UInt8) :=
    Lights.accounted_bounds staged { controller.board.lights with settings }
  have least := (Lights.accounted_bounds controller.stagedLed controller.board.lights).1
  rw [accounted, lights, stagedLed_handleKey]
  split
  case isFalse => exact Nat.le_add_right ..
  case isTrue pressed =>
    rw [HostEvent.stages, pressed.2, Bool.true_and]
    cases event.key.led? with
    | none => exact Nat.le_trans least (Nat.le_add_right ..)
    | some led => exact Nat.le_trans (bounds (some led)).2 (Nat.succ_le_succ least)

theorem accounted_handleRotate (clockwise : Bool) (controller : Controller) :
    (controller.handleRotate clockwise).2.accounted ≤ controller.accounted := by
  -- what the detent counts as activity is nothing to the lights
  have same : controller.counted.accounted = controller.accounted := rfl
  rw [handleRotate_eq, ← same, accounted, lights_react, stagedLed_react]
  generalize (controller.acceleration.steps controller.now.1).1 = steps
  have mute := controller.counted.mute_turnScreen clockwise steps .pass
  obtain ⟨_, _, _, _, _, -, turned⟩ := turnScreen_frame clockwise steps .pass controller.counted
  exact accounted_le_of_mute mute (by rw [turned]; rfl) (by rw [turned])

theorem accounted_handle (event : HostEvent) (controller : Controller) (input : event ≠ .tick) :
    (controller.handle event).2.accounted ≤
      controller.accounted + if event.stages then 1 else 0 := by
  cases event with
  | tick => exact absurd rfl input
  | key event => exact accounted_handleKey event controller
  | rotate clockwise => exact accounted_handleRotate clockwise controller
  | poll => exact Nat.le_refl _
  | lockLeds leds => exact Nat.le_refl _

-- ---------------------------------------------------------------------------
-- Runs
-- ---------------------------------------------------------------------------

def presses (calls : List (Moment × HostEvent)) : Nat := calls.countP (·.2.stages)

theorem accounted_run (calls : List (Moment × HostEvent)) (controller : Controller) :
    (controller.run calls).2.accounted ≤
      controller.accounted + presses calls + (controller.tickLog calls).countP (·.repeats) := by
  induction calls, controller using run_induct with
  | nil => exact Nat.le_refl _
  | tick moment calls controller ih =>
    have met : (controller.meet moment).accounted = controller.accounted := rfl
    have first := accounted_tick (controller.meet moment)
    simp only [run, tickLog, step, handle, presses, List.countP_cons] at ih ⊢
    omega
  | input moment event calls controller input ih =>
    have met : (controller.meet moment).accounted = controller.accounted := rfl
    have first := accounted_handle event (controller.meet moment) input
    rw [tickLog_input input]
    simp only [run, step, presses, List.countP_cons] at ih ⊢
    omega

theorem accounted_start (moment : Moment) (store : FlatStore) :
    (start moment store).accounted = 0 := by
  rw [accounted, start, lights_go, stagedLed_go]
  rfl

/-- In every run, whatever the line answers, no more reports reach the controller
than keys with an LED were pressed and ticks repeated a report; and these are ticks
in which the line changed its mind. -/
theorem reported_run (moment : Moment) (store : FlatStore) (calls : List (Moment × HostEvent)) :
    ((start moment store).run calls).2.board.channel.reported.length ≤
        presses calls + ((start moment store).tickLog calls).countP (·.repeats) ∧
      ∀ tick ∈ (start moment store).tickLog calls, tick.repeats = true →
        ¬∃ busy delivers, tick.met.board.channel.answers = (fun _ => busy, fun _ => delivers) := by
  constructor
  · have run := accounted_run calls (start moment store)
    rw [accounted_start, Nat.zero_add] at run
    have least := (Lights.accounted_bounds ((start moment store).run calls).2.stagedLed
      ((start moment store).run calls).2.board.lights).1
    have sum := Nat.le_add_right ((start moment store).run calls).2.board.channel.reported.length
      ((start moment store).run calls).2.board.channel.holdsReport.toNat
    exact Nat.le_trans sum (Nat.le_trans least run)
  · rintro tick found repeats ⟨busy, delivers, even⟩
    rw [(mem_tickLog found).ticked, not_repeats_of_even even] at repeats
    cases repeats

end Controller

-- ---------------------------------------------------------------------------
-- One press, many reports
-- ---------------------------------------------------------------------------

def Moment.falling (time : Millis) : Moment :=
  { Moment.still time false with busy := fun turn => turn == 0 }

theorem Channel.reported_falling (led : UInt8) {channel : Channel ScriptedLine}
    (busy : channel.link.busy = fun turn => turn == 0)
    (delivers : channel.link.delivers = fun _ => true) (turn : channel.link.turn = 0) :
    (channel.send (.byte .rgbKeypress led)).1.isOk = false ∧
      (channel.send (.byte .rgbKeypress led)).2.drain.2.reported = [led] :: channel.reported := by
  constructor <;>
    simp [send, drain, Link.isBusy, Link.transmit, busy, delivers, turn, reported,
      Exchange.delivery, Command.wire_byte, Except.isOk, Except.toBool]

namespace Controller

/-- A key is staged, there is nothing to bring back before it, and the user was
active at the time. -/
structure Waits (led : UInt8) (time : Millis) (controller : Controller) : Prop where
  replay : controller.replay = .done
  staged : controller.stagedLed = some led
  next : controller.board.lights.nextOff = none
  activity : controller.board.idle.lastActivity = time

theorem waits_tick_falling {led : UInt8} {time : Millis} {controller : Controller}
    (waits : controller.Waits led time) :
    (controller.step (.falling time) .tick).2.Waits led time ∧
      (controller.step (.falling time) .tick).2.board.channel.reported =
        [led] :: controller.board.channel.reported := by
  generalize found : controller.meet (.falling time) = met
  have attended : met.Attended time := found ▸ ⟨rfl, waits.activity⟩
  have staged : met.now.2.stagedLed = some led := found ▸ waits.staged
  have next : met.now.2.board.lights.nextOff = none := found ▸ waits.next
  have replay : met.replay = .done := found ▸ waits.replay
  obtain ⟨refused, brought⟩ : (met.now.2.board.channel.send (.byte .rgbKeypress led)).1.isOk = false ∧
      (met.now.2.board.channel.send (.byte .rgbKeypress led)).2.drain.2.reported =
        [led] :: controller.board.channel.reported := by
    rw [← found]
    exact Channel.reported_falling led rfl rfl rfl
  obtain ⟨working, awake⟩ := tick_attended attended
  obtain ⟨woken, kept⟩ := notifyLed_ok staged
  rw [← awake] at woken kept
  rw [refused, if_neg (by simp)] at kept
  simp only [Lights.wake, Lights.wakeCommand, next] at woken
  obtain ⟨channel, done⟩ := serveLights_of_done met.awake ((replay_awake met).trans replay)
  obtain ⟨-, -, lights, stagedLeft, replayLeft⟩ := tick_working working
  rw [lights_serveLights, channel] at lights
  have ticked : (controller.step (.falling time) .tick).2 = met.tick.2 := by
    rw [← found]
    rfl
  rw [ticked]
  refine ⟨{ replay := replayLeft.trans done, staged := stagedLeft.trans kept, next := ?_,
            activity := ?_ }, ?_⟩
  · rw [lights, woken]
    exact next
  · obtain ⟨_, _, _, _, _, _, _, _, _, _, _, -, frame⟩ := met.tick_frame working
    rw [frame]
    exact attended.activity
  · have sent : met.awake.board.channel = _ := congrArg Lights.channel woken
    have left : met.tick.2.board.channel = _ := congrArg Lights.channel lights
    rw [left, sent]
    exact brought

/-- Every tick on a falling line reports the staged key once more. -/
theorem reported_falling {led : UInt8} {time : Millis} {controller : Controller}
    (waits : controller.Waits led time) (n : Nat) :
    (controller.run (.replicate n (.falling time, .tick))).2.board.channel.reported =
      .replicate n [led] ++ controller.board.channel.reported := by
  induction n generalizing controller with
  | zero => rfl
  | succ n ih =>
    obtain ⟨still, once⟩ := waits_tick_falling waits
    have all : List.replicate (n + 1) [led] ++ controller.board.channel.reported =
        .replicate n [led] ++ [led] :: controller.board.channel.reported := by
      rw [List.replicate_succ', List.append_assoc, List.singleton_append]
    rw [all, ← once]
    exact ih still

/-- One key is pressed after the replay, and the line is busy at the first question
of each of the two ticks that follow. -/
def pressedOnce : List (Moment × HostEvent) :=
  .replicate 9 (.still 0 false, .tick) ++
    [(.still 0 false, .key ⟨4, ⟨2, 3⟩, true⟩), (.falling 0, .tick), (.falling 0, .tick)]

theorem reported_twice_pressedOnce :
    presses pressedOnce = 1 ∧
      ((start (.still 0 false) erased).run pressedOnce).2.board.channel.reported = [[44], [44]] := by
  decide +kernel

end Controller

end KnobPanel
