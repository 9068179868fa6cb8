import KnobPanel.Proofs.Frames

/-!
# Ticks among the inputs

The ticks of a run as they went, with the inputs between them passed over. What
the line is going to answer in a call is up to the surroundings: nothing that the
call does changes it, so a line that answers alike does so for every part of a
tick.
-/

namespace KnobPanel

-- ---------------------------------------------------------------------------
-- What the line is going to answer
-- ---------------------------------------------------------------------------

def Channel.answers (channel : Channel ScriptedLine) : (Nat → Bool) × (Nat → Bool) :=
  (channel.link.busy, channel.link.delivers)

namespace Channel

variable (channel : Channel ScriptedLine)

@[simp] theorem answers_isBusy : channel.isBusy.2.answers = channel.answers := rfl

@[simp] theorem answers_send (command : Command) :
    (channel.send command).2.answers = channel.answers := by
  rcases send_cases command channel with ⟨-, sent⟩ | ⟨-, -, sent⟩ | ⟨-, -, sent⟩ <;>
    rw [sent] <;> rfl

/-- The line says the same to every question of a call. -/
def Even (busy : Bool) (channel : Channel ScriptedLine) : Prop :=
  channel.answers.1 = fun _ => busy

theorem isBusy_of_even {channel : Channel ScriptedLine} {busy : Bool} (even : channel.Even busy) :
    channel.isBusy.1 = busy :=
  congrFun even _

end Channel

theorem AutoOff.answers_tryOff (opcode : Opcode) (isOff : Bool) (tier : AutoOffTier)
    (idleSecs : Nat) (channel : Channel ScriptedLine) :
    (tryOff opcode isOff tier idleSecs channel).2.answers = channel.answers := by
  simp only [tryOff, sendOff]
  split
  · split
    · rfl
    · simp
  · rfl

theorem Board.answers_autoOff (now : Millis) (board : Board) :
    (board.autoOff now).2.channel.answers = board.channel.answers := by
  simp only [autoOff, AutoOff.run]
  split
  · rfl
  · split
    · exact AutoOff.answers_tryOff ..
    · split <;> exact (AutoOff.answers_tryOff ..).trans (AutoOff.answers_tryOff ..)

namespace Controller

theorem answers_notifyLed (controller : Controller) :
    controller.notifyLed.board.channel.answers = controller.board.channel.answers := by
  cases staged : controller.stagedLed with
  | none => rw [notifyLed_of_none staged]
  | some led =>
    have woken := congrArg Lights.channel (notifyLed_ok staged).1
    exact (congrArg Channel.answers woken).trans (Channel.answers_send ..)

@[simp] theorem answers_awake (controller : Controller) :
    controller.awake.board.channel.answers = controller.board.channel.answers :=
  (answers_notifyLed _).trans (Board.answers_autoOff controller.now.1 controller.now.2.board)

theorem replay_awake (controller : Controller) : controller.awake.replay = controller.replay := by
  rw [awake, replay_notifyLed]
  rfl

theorem settings_awake (controller : Controller) :
    controller.awake.board.settings = controller.board.settings := by
  obtain ⟨_, _, _, _, _, _, woken⟩ := controller.awake_frame
  rw [woken]

-- ---------------------------------------------------------------------------
-- Ticks of a run
-- ---------------------------------------------------------------------------

def ticked (controller : Controller) : TickRecord where
  met := controller
  report := controller.tick.1
  left := controller.tick.2

def tickLog : List (Moment × HostEvent) → Controller → List TickRecord
  | [], _ => []
  | (moment, event) :: calls, controller =>
    let later := tickLog calls (controller.step moment event).2
    match event with
    | .tick => (controller.meet moment).ticked :: later
    | _ => later

theorem tickLog_input {event : HostEvent} (input : event ≠ .tick) (moment : Moment)
    (calls : List (Moment × HostEvent)) (controller : Controller) :
    controller.tickLog ((moment, event) :: calls) =
      (controller.step moment event).2.tickLog calls := by
  cases event with
  | tick => exact absurd rfl input
  | _ => rfl

structure TickRecord.Of (calls : List (Moment × HostEvent)) (tick : TickRecord) : Prop where
  ticked : tick = tick.met.ticked
  answers : ∃ call ∈ calls, call.2 = .tick ∧
    tick.met.board.channel.answers = (call.1.busy, call.1.delivers)

namespace TickRecord.Of

variable {calls : List (Moment × HostEvent)} {tick : TickRecord}

theorem report (h : tick.Of calls) : tick.report = tick.met.tick.1 :=
  congrArg TickRecord.report h.ticked

theorem left (h : tick.Of calls) : tick.left = tick.met.tick.2 :=
  congrArg TickRecord.left h.ticked

theorem cons (h : tick.Of calls) (first : Moment × HostEvent) : tick.Of (first :: calls) where
  ticked := h.ticked
  answers :=
    let ⟨call, mem, answers⟩ := h.answers
    ⟨call, List.mem_cons_of_mem _ mem, answers⟩

end TickRecord.Of

/-- Induction over the calls of a run, with ticks and inputs apart. -/
@[elab_as_elim]
theorem run_induct {motive : List (Moment × HostEvent) → Controller → Prop}
    (nil : ∀ controller, motive [] controller)
    (tick : ∀ moment calls controller, motive calls (controller.meet moment).tick.2 →
      motive ((moment, .tick) :: calls) controller)
    (input : ∀ moment event calls controller, event ≠ .tick →
      motive calls (controller.step moment event).2 → motive ((moment, event) :: calls) controller)
    (calls : List (Moment × HostEvent)) (controller : Controller) : motive calls controller := by
  induction calls generalizing controller with
  | nil => exact nil controller
  | cons call calls ih =>
    obtain ⟨moment, event⟩ := call
    by_cases ticks : event = .tick
    · exact ticks ▸ tick moment calls controller (ih _)
    · exact input moment event calls controller ticks (ih _)

theorem mem_tickLog {calls : List (Moment × HostEvent)} {controller : Controller}
    {tick : TickRecord} (found : tick ∈ controller.tickLog calls) : tick.Of calls := by
  induction calls, controller using run_induct with
  | nil => cases found
  | tick moment calls controller ih =>
    rcases List.mem_cons.mp found with rfl | found
    · exact ⟨rfl, _, List.mem_cons_self, rfl, rfl⟩
    · exact (ih found).cons _
  | input moment event calls controller input ih =>
    rw [tickLog_input input] at found
    exact (ih found).cons _

end Controller

end KnobPanel
