import KnobPanel.Proofs.Ticks

/-!
# Waking

A key press brings the lights back one per tick, and the key itself is reported
after them. All of these commands share one slot: a restore that is issued to a
busy line waits there for the next tick, which replaces it if the line is still
busy.
-/

namespace KnobPanel

/-- The line is busy or free all through the call, and nothing is lost on it. -/
structure Moment.Steady (busy : Bool) (moment : Moment) : Prop where
  busy_eq : moment.busy = fun _ => busy
  delivers_eq : moment.delivers = fun _ => true

/-- How many lights are brought back before this one. -/
def Light.turn (lights : Lights) : Light → Nat
  | keys => 0
  | side => if lights.rgbOff then 1 else 0

namespace Controller

variable {controller : Controller} {busy : Bool} {led : UInt8}

theorem steady_meet {moment : Moment} (steady : moment.Steady busy) :
    (controller.meet moment).board.channel.link.Steady busy :=
  ⟨steady.busy_eq, steady.delivers_eq⟩

-- ---------------------------------------------------------------------------
-- One tick
-- ---------------------------------------------------------------------------

theorem autoOff_quiet (working : controller.tick.1.returned = false)
    (quiet : controller.tick.1.autoOff = none) :
    ∃ channel, controller.board.channel.Silent channel ∧
      (controller.now.2.autoOff controller.now.1).2.board.lights =
        { controller.board.lights with channel } ∧
      (controller.now.2.autoOff controller.now.1).2.stagedLed = controller.stagedLed := by
  have step := tick_step controller
  rw [quiet, working, if_neg Bool.false_ne_true] at step
  have acted := (tick_working working).1
  rw [quiet] at acted
  generalize left : (controller.now.2.board.autoOff controller.now.1).2.lights = lights at step
  cases step with
  | nothing silent =>
    refine ⟨_, silent, left, ?_⟩
    simp only [autoOff, ← acted]
    rfl

theorem lastSent_drain_silent {before after : Channel ScriptedLine} (silent : before.Silent after)
    (steady : before.link.Steady busy) (opcode : Opcode) :
    after.drain.2.lastSent opcode = before.drain.2.lastSent opcode := by
  obtain ⟨steady', parked⟩ := silent.steady busy steady
  rw [Channel.lastSent_drain, Channel.lastSent_drain, Channel.parked_drain steady,
    Channel.parked_drain steady', parked, silent.lastSent]

/-- What a working tick with a staged key does on a steady line: the next
command is sent or parked, and a free line then takes what was parked
before. -/
structure Waking (busy : Bool) (led : UInt8) (before after : Controller) : Prop where
  replay : after.replay = .done
  settings : after.board.settings = before.board.settings
  isOff : ∀ light : Light, light.isOff after.board.lights =
    if before.board.lights.nextOff = some light then false else light.isOff before.board.lights
  stagedLed : after.stagedLed =
    if before.board.lights.nextOff = none ∧ busy = false then none else some led
  parked : after.board.channel.parked =
    if busy then some (before.board.lights.wakeCommand led) else none
  lastSent : ∀ opcode, after.board.channel.lastSent opcode =
    if busy then before.board.channel.lastSent opcode
    else if (before.board.lights.wakeCommand led).opcode = opcode then
      some (before.board.lights.wakeCommand led).payload
    else before.board.channel.drain.2.lastSent opcode

theorem tick_waking (done : controller.replay = .done)
    (steady : controller.board.channel.link.Steady busy)
    (working : controller.tick.1.returned = false) (quiet : controller.tick.1.autoOff = none)
    (staged : controller.stagedLed = some led) : Waking busy led controller controller.tick.2 := by
  obtain ⟨channel, silent, lights, kept⟩ := autoOff_quiet working quiet
  obtain ⟨steady', parked⟩ := silent.steady busy steady
  obtain ⟨woken, unreported⟩ := notifyLed_ok (kept.trans staged)
  rw [lights] at woken
  have finished : controller.awake.replay = .done := by
    rw [awake, replay_notifyLed]
    exact done
  obtain ⟨-, -, left, stagedLeft, replayLeft⟩ := tick_working working
  rw [lights_serveLights, (serveLights_of_done _ finished).1] at left
  have sent : controller.awake.board.channel =
      (channel.send (controller.board.lights.wakeCommand led)).2 :=
    congrArg Lights.channel woken
  have drained : controller.tick.2.board.channel =
      (channel.send (controller.board.lights.wakeCommand led)).2.drain.2 :=
    sent ▸ congrArg Lights.channel left
  have met : (controller.now.2.autoOff controller.now.1).2.board.channel = channel :=
    congrArg Lights.channel lights
  refine ⟨replayLeft.trans (serveLights_of_done _ finished).2, ?_, fun light => ?_, ?_, ?_,
    fun opcode => ?_⟩
  · refine (congrArg Lights.settings left).trans ((congrArg Lights.settings woken).trans ?_)
    exact Lights.settings_wake ..
  · rw [left, Light.isOff_with_channel, awake, woken, Lights.isOff_wake, Light.isOff_with_channel]
    rfl
  · rw [stagedLeft, awake, unreported, met, Channel.isOk_send _ steady', lights]
    cases busy <;> simp [Lights.nextOff]
  · rw [drained, Channel.parked_drain (Channel.steady_send _ steady'),
      Channel.parked_send _ steady']
    cases busy <;> rfl
  · rw [drained, Channel.lastSent_send_drain _ steady', silent.lastSent,
      lastSent_drain_silent silent steady]

theorem tick_resting (done : controller.replay = .done)
    (steady : controller.board.channel.link.Steady busy)
    (working : controller.tick.1.returned = false) (quiet : controller.tick.1.autoOff = none)
    (unstaged : controller.stagedLed = none) :
    controller.tick.2.replay = .done ∧
      (∀ light : Light,
        light.isOff controller.tick.2.board.lights = light.isOff controller.board.lights) ∧
      controller.tick.2.board.channel.parked =
        (if busy then controller.board.channel.parked else none) ∧
      ∀ opcode, controller.tick.2.board.channel.lastSent opcode =
        controller.board.channel.drain.2.lastSent opcode := by
  obtain ⟨channel, silent, lights, kept⟩ := autoOff_quiet working quiet
  obtain ⟨steady', parked⟩ := silent.steady busy steady
  have awake : controller.awake = (controller.now.2.autoOff controller.now.1).2 :=
    notifyLed_of_none (kept.trans unstaged)
  have finished : controller.awake.replay = .done := by
    rw [awake]
    exact done
  obtain ⟨-, -, left, -, replayLeft⟩ := tick_working working
  rw [lights_serveLights, (serveLights_of_done _ finished).1, awake] at left
  have met : (controller.now.2.autoOff controller.now.1).2.board.channel = channel :=
    congrArg Lights.channel lights
  have drained : controller.tick.2.board.channel = channel.drain.2 :=
    met ▸ congrArg Lights.channel left
  refine ⟨replayLeft.trans (serveLights_of_done _ finished).2, fun light => ?_, ?_, fun opcode => ?_⟩
  · rw [left, Light.isOff_with_channel, lights, Light.isOff_with_channel]
  · rw [drained, Channel.parked_drain steady', parked]
  · rw [drained, lastSent_drain_silent silent steady]

-- ---------------------------------------------------------------------------
-- Runs of ticks
-- ---------------------------------------------------------------------------

def afterTicks (moments : List Moment) (controller : Controller) : Controller :=
  (controller.run (moments.map (·, .tick))).2

structure Quiet (moments : List Moment) (controller : Controller) : Prop where
  steady : ∀ moment ∈ moments, ∃ busy, moment.Steady busy
  quiet : ∀ tick ∈ controller.ticks moments, tick.report.autoOff = none

theorem Quiet.cons {moment : Moment} {moments : List Moment}
    (h : Quiet (moment :: moments) controller) :
    (∃ busy, moment.Steady busy) ∧ (controller.meet moment).tick.1.autoOff = none ∧
      Quiet moments (controller.meet moment).tick.2 :=
  ⟨h.steady _ List.mem_cons_self, h.quiet _ List.mem_cons_self,
    fun moment mem => h.steady moment (List.mem_cons_of_mem _ mem),
    fun tick mem => h.quiet tick (List.mem_cons_of_mem _ mem)⟩

def working (moments : List Moment) (controller : Controller) : List TickRecord :=
  (controller.ticks moments).filter fun tick => !tick.report.returned

def TickRecord.foundBusy (tick : TickRecord) : Bool := tick.met.board.channel.isBusy.1

structure Alike (first second : Controller) : Prop where
  stagedLed : second.stagedLed = first.stagedLed
  replay : second.replay = first.replay
  settings : second.board.settings = first.board.settings
  isOff : ∀ light : Light, light.isOff second.board.lights = light.isOff first.board.lights
  parked : second.board.channel.parked = first.board.channel.parked
  lastSent : ∀ opcode,
    second.board.channel.lastSent opcode = first.board.channel.lastSent opcode

theorem Alike.trans {first second third : Controller} (h : Alike first second)
    (h' : Alike second third) : Alike first third where
  stagedLed := h'.stagedLed.trans h.stagedLed
  replay := h'.replay.trans h.replay
  settings := h'.settings.trans h.settings
  isOff light := (h'.isOff light).trans (h.isOff light)
  parked := h'.parked.trans h.parked
  lastSent opcode := (h'.lastSent opcode).trans (h.lastSent opcode)

theorem Alike.nextOff {first second : Controller} (h : Alike first second) :
    second.board.lights.nextOff = first.board.lights.nextOff := by
  have keys : second.board.lights.rgbOff = first.board.lights.rgbOff := h.isOff .keys
  have side : second.board.lights.sideOff = first.board.lights.sideOff := h.isOff .side
  rw [Lights.nextOff, Lights.nextOff, keys, side]

theorem alike_meet (moment : Moment) (controller : Controller) :
    Alike controller (controller.meet moment) := by
  refine ⟨rfl, rfl, rfl, fun light => ?_, rfl, fun opcode => rfl⟩
  cases light <;> rfl

theorem alike_tick (returned : controller.tick.1.returned = true) :
    Alike controller controller.tick.2 := by
  obtain ⟨-, -, lights, staged, replay⟩ := tick_returned returned
  have channel : controller.tick.2.board.channel = controller.board.channel :=
    congrArg Lights.channel lights
  exact ⟨staged, replay, congrArg Lights.settings lights, fun light => by rw [lights],
    by rw [channel], fun opcode => by rw [channel]⟩

/-- While a key is staged a waking tick is to come, and until then nothing
happens to the lights. -/
theorem exists_waking {moments : List Moment} (quiet : Quiet moments controller)
    (done : controller.replay = .done) (staged : controller.stagedLed = some led)
    (taken : (controller.afterTicks moments).stagedLed = none) :
    ∃ (met : Controller) (busy : Bool) (rest : List Moment),
      Alike controller met ∧ met.board.channel.link.Steady busy ∧
        Waking busy led met met.tick.2 ∧ Quiet rest met.tick.2 ∧
        controller.afterTicks moments = met.tick.2.afterTicks rest ∧
        controller.working moments =
          { met, report := met.tick.1, left := met.tick.2 } :: met.tick.2.working rest := by
  induction moments generalizing controller with
  | nil =>
    rw [show controller.afterTicks [] = controller from rfl, staged] at taken
    cases taken
  | cons moment moments ih =>
    obtain ⟨⟨busy, steady⟩, none, rest⟩ := quiet.cons
    have alike := alike_meet moment controller
    cases returned : (controller.meet moment).tick.1.returned with
    | false =>
      have met : (controller.meet moment).board.channel.link.Steady busy := steady_meet steady
      refine ⟨controller.meet moment, busy, moments, alike, met, ?_, rest, rfl, ?_⟩
      · exact tick_waking done met returned none staged
      · simp [working, ticks, returned]
    | true =>
      -- a tick that only goes back to the dashboard is passed over
      have skipped := alike.trans (alike_tick returned)
      obtain ⟨met, busy, later, alike', now⟩ :=
        ih rest (skipped.replay.trans done) (skipped.stagedLed.trans staged) taken
      refine ⟨met, busy, later, skipped.trans alike', ?_⟩
      have same : controller.working (moment :: moments) =
          (controller.meet moment).tick.2.working moments := by
        simp [working, ticks, returned]
      rw [same]
      exact now

-- ---------------------------------------------------------------------------
-- What becomes of a restore
-- ---------------------------------------------------------------------------

structure Settled (light : Light) (controller : Controller) : Prop where
  replay : controller.replay = .done
  on : light.isOff controller.board.lights = false
  slot : ∀ command, controller.board.channel.parked = some command →
    command.opcode ≠ light.effect

theorem Settled.alike {light : Light} {first second : Controller} (h : Settled light first)
    (alike : Alike first second) : Settled light second where
  replay := alike.replay.trans h.replay
  on := (alike.isOff light).trans h.on
  slot command parked := h.slot command (alike.parked.symm.trans parked)

theorem nextOff_ne {light : Light} (on : light.isOff controller.board.lights = false) :
    controller.board.lights.nextOff ≠ some light := by
  intro next
  rw [Lights.isOff_of_nextOff next] at on
  cases on

theorem Waking.settled {light : Light} {after : Controller}
    (waking : Waking busy led controller after)
    (on : light.isOff controller.board.lights = false) :
    Settled light after ∧
      after.board.channel.lastSent light.effect =
        if busy then controller.board.channel.lastSent light.effect
        else controller.board.channel.drain.2.lastSent light.effect := by
  have other := Lights.opcode_wakeCommand_ne led _ (nextOff_ne on)
  refine ⟨⟨waking.replay, ?_, fun command found => ?_⟩, ?_⟩
  · rw [waking.isOff, on]
    split <;> rfl
  · rw [waking.parked] at found
    cases busy
    · cases found
    · cases found
      exact other
  · rw [waking.lastSent, if_neg other]

theorem settled_tick {light : Light} (settled : Settled light controller)
    (steady : controller.board.channel.link.Steady busy)
    (quiet : controller.tick.1.autoOff = none) :
    Settled light controller.tick.2 ∧
      controller.tick.2.board.channel.lastSent light.effect =
        controller.board.channel.lastSent light.effect := by
  have kept := Channel.lastSent_drain_of_ne settled.slot
  cases returned : controller.tick.1.returned with
  | true =>
    have alike := alike_tick returned
    exact ⟨settled.alike alike, alike.lastSent _⟩
  | false =>
    cases staged : controller.stagedLed with
    | none =>
      obtain ⟨done, isOff, parked, lastSent⟩ :=
        tick_resting settled.replay steady returned quiet staged
      refine ⟨⟨done, (isOff light).trans settled.on, fun command found => ?_⟩,
        (lastSent _).trans kept⟩
      rw [parked] at found
      cases busy
      · cases found
      · exact settled.slot command found
    | some led =>
      have waking := tick_waking settled.replay steady returned quiet staged
      obtain ⟨left, lastSent⟩ := waking.settled settled.on
      refine ⟨left, lastSent.trans ?_⟩
      rw [kept]
      split <;> rfl

theorem lastSent_settled {moments : List Moment} (quiet : Quiet moments controller) {light : Light}
    (settled : Settled light controller) :
    (controller.afterTicks moments).board.channel.lastSent light.effect =
      controller.board.channel.lastSent light.effect := by
  induction moments generalizing controller with
  | nil => rfl
  | cons moment moments ih =>
    obtain ⟨⟨busy, steady⟩, none, rest⟩ := quiet.cons
    have alike := alike_meet moment controller
    obtain ⟨left, same⟩ := settled_tick (settled.alike alike) (steady_meet steady) none
    exact (ih rest left).trans (same.trans (alike.lastSent _))

/-- A parked restore goes out with the next command, or is replaced by it. -/
theorem lastSent_parked {moments : List Moment} (quiet : Quiet moments controller)
    (done : controller.replay = .done) (staged : controller.stagedLed = some led)
    (taken : (controller.afterTicks moments).stagedLed = none) {light : Light}
    (on : light.isOff controller.board.lights = false) {restore : Command}
    (parked : controller.board.channel.parked = some restore)
    (own : restore.opcode = light.effect) :
    ∃ next, (controller.working moments)[0]? = some next ∧
      (controller.afterTicks moments).board.channel.lastSent light.effect =
        if next.foundBusy then controller.board.channel.lastSent light.effect
        else some restore.payload := by
  obtain ⟨met, busy, rest, alike, steady, waking, later, final, ticks⟩ :=
    exists_waking quiet done staged taken
  obtain ⟨settled, lastSent⟩ := waking.settled ((alike.isOff light).trans on)
  refine ⟨_, by rw [ticks]; rfl, ?_⟩
  rw [final, lastSent_settled later settled, lastSent, TickRecord.foundBusy,
    Channel.isBusy_of_steady steady, alike.lastSent]
  cases busy with
  | true => rfl
  | false =>
    exact own ▸ Channel.lastSent_drain_of_parked steady (alike.parked.trans parked)

/-- A restore is lost exactly to a line that is busy at the tick that issues it
and still busy at the next one. -/
theorem lastSent_restored {moments : List Moment} (quiet : Quiet moments controller)
    (done : controller.replay = .done) (staged : controller.stagedLed = some led)
    (taken : (controller.afterTicks moments).stagedLed = none) {light : Light}
    (next : controller.board.lights.nextOff = some light) :
    ∃ restore next,
      (controller.working moments)[0]? = some restore ∧
        (controller.working moments)[1]? = some next ∧
        (controller.afterTicks moments).board.channel.lastSent light.effect =
          if restore.foundBusy && next.foundBusy then
            restore.met.board.channel.lastSent light.effect
          else
            some [light.mode controller.board.settings] := by
  obtain ⟨met, busy, rest, alike, steady, waking, later, final, ticks⟩ :=
    exists_waking quiet done staged taken
  have own := alike.nextOff.trans next
  have command : met.board.lights.wakeCommand led = light.restore controller.board.settings := by
    rw [← alike.settings, Lights.wakeCommand, own]
    rfl
  have on : light.isOff met.tick.2.board.lights = false := by
    rw [waking.isOff, if_pos own]
  have kept : met.tick.2.stagedLed = some led := by
    rw [waking.stagedLed, own, if_neg (by simp)]
  rw [final] at taken ⊢
  have found : TickRecord.foundBusy { met, report := met.tick.1, left := met.tick.2 } = busy :=
    Channel.isBusy_of_steady steady
  cases busy with
  | true =>
    -- the restore waits in the slot, and the next waking tick decides
    have parked : met.tick.2.board.channel.parked =
        some (light.restore controller.board.settings) := by
      rw [waking.parked, command]
      rfl
    obtain ⟨next, second, ends⟩ := lastSent_parked later waking.replay kept taken on parked rfl
    refine ⟨_, next, by rw [ticks]; rfl, by rw [ticks]; exact second, ?_⟩
    rw [ends, found, waking.lastSent]
    rfl
  | false =>
    -- the restore is out, and whatever was parked before it too
    have settled : Settled light met.tick.2 :=
      ⟨waking.replay, on, fun command found => by rw [waking.parked] at found; cases found⟩
    obtain ⟨met', _, rest', -, -, -, -, -, ticks'⟩ :=
      exists_waking later waking.replay kept taken
    refine ⟨_, _, by rw [ticks]; rfl, by rw [ticks, ticks']; rfl, ?_⟩
    rw [lastSent_settled later settled, found, waking.lastSent, command]
    simp [Light.restore]

theorem lastSent_turn {moments : List Moment} (quiet : Quiet moments controller)
    (done : controller.replay = .done) (staged : controller.stagedLed = some led)
    (taken : (controller.afterTicks moments).stagedLed = none) {light : Light}
    (off : light.isOff controller.board.lights = true) :
    ∃ restore next,
      (controller.working moments)[light.turn controller.board.lights]? = some restore ∧
        (controller.working moments)[light.turn controller.board.lights + 1]? = some next ∧
        (controller.afterTicks moments).board.channel.lastSent light.effect =
          if restore.foundBusy && next.foundBusy then
            restore.met.board.channel.lastSent light.effect
          else
            some [light.mode controller.board.settings] := by
  cases light with
  | keys =>
    have next : controller.board.lights.nextOff = some .keys := if_pos off
    exact lastSent_restored quiet done staged taken next
  | side =>
    cases keys : controller.board.lights.rgbOff with
    | false =>
      have next : controller.board.lights.nextOff = some .side := by
        rw [Lights.nextOff, keys, if_neg Bool.false_ne_true]
        exact if_pos off
      simp only [Light.turn, keys, Bool.false_eq_true, ↓reduceIte]
      exact lastSent_restored quiet done staged taken next
    | true =>
      -- the key lights come first, one working tick earlier
      obtain ⟨met, busy, rest, alike, -, waking, later, final, ticks⟩ :=
        exists_waking quiet done staged taken
      have first : met.board.lights.nextOff = some .keys :=
        alike.nextOff.trans (if_pos keys)
      have kept : met.tick.2.stagedLed = some led := by
        rw [waking.stagedLed, first, if_neg (by simp)]
      have next : met.tick.2.board.lights.nextOff = some .side := by
        have on : met.tick.2.board.lights.rgbOff = false :=
          (waking.isOff .keys).trans (if_pos first)
        have still : met.tick.2.board.lights.sideOff = true := by
          refine (waking.isOff .side).trans ?_
          rw [first, if_neg (by simp), alike.isOff, off]
        rw [Lights.nextOff, on, still]
        rfl
      rw [final] at taken ⊢
      obtain ⟨restore, second, found, found', ends⟩ :=
        lastSent_restored later waking.replay kept taken next
      simp only [Light.turn, keys, ↓reduceIte, ticks]
      refine ⟨restore, second, found, found', ?_⟩
      rw [ends, waking.settings, alike.settings]

theorem settings_afterTicks (moments : List Moment) (controller : Controller) :
    (controller.afterTicks moments).board.settings = controller.board.settings := by
  induction moments generalizing controller with
  | nil => rfl
  | cons moment moments ih => exact (ih _).trans (settings_tick _)

/-- After a key press has brought the lights back, a light shows its configured
effect, unless the line was busy both at the tick that issued the restore and
at the working tick after it; then it shows what it showed before. -/
theorem restored_iff {press : Moment} {event : KeyEvent} {woken : Controller}
    {moments : List Moment} (booted : controller.replay = .done) (pressed : event.pressed = true)
    (lit : event.key.led? = some led) (wakes : (controller.step press (.key event)).2 = woken)
    (quiet : Quiet moments woken) (taken : (woken.afterTicks moments).stagedLed = none)
    {light : Light} (off : light.isOff controller.board.lights = true) :
    ∃ restore next,
      (woken.working moments)[light.turn controller.board.lights]? = some restore ∧
        (woken.working moments)[light.turn controller.board.lights + 1]? = some next ∧
        ((woken.afterTicks moments).board.channel.lastSent light.effect =
            some [light.mode (woken.afterTicks moments).board.settings] ↔
          ¬(restore.foundBusy = true ∧ next.foundBusy = true) ∨
            restore.met.board.channel.lastSent light.effect =
              some [light.mode (woken.afterTicks moments).board.settings]) := by
  obtain ⟨lights, staged, replay⟩ := handleKey_staged (controller.meet press) pressed lit
  have met := alike_meet press controller
  have same : ((controller.meet press).handleKey event).2 = woken := wakes
  rw [same] at lights staged replay
  have marks (light : Light) :
      light.isOff woken.board.lights = light.isOff controller.board.lights :=
    (congrArg (Light.isOff · light) lights).trans (met.isOff light)
  have turn : light.turn woken.board.lights = light.turn controller.board.lights := by
    cases light with
    | keys => rfl
    | side => rw [Light.turn, Light.turn, show woken.board.lights.rgbOff = _ from marks .keys]; rfl
  obtain ⟨restore, next, found, found', ends⟩ :=
    lastSent_turn quiet (replay.trans booted) staged taken ((marks light).trans off)
  rw [turn] at found found'
  refine ⟨restore, next, found, found', ?_⟩
  rw [settings_afterTicks, ends]
  cases restore.foundBusy <;> cases next.foundBusy <;> simp

-- ---------------------------------------------------------------------------
-- One light, two lines
-- ---------------------------------------------------------------------------

def keysAsleep : Controller :=
  let settings := { Settings.factory with rgb := { Settings.factory.rgb with autoOff := .secs10 } }
  ((started settings).step (.still 11000 false) .tick).2

def keysWoken : Controller :=
  (keysAsleep.step (.still 11000 true) (.key ⟨4, ⟨2, 3⟩, true⟩)).2

theorem steady_still (time : Millis) (busy : Bool) : (Moment.still time busy).Steady busy :=
  ⟨rfl, rfl⟩

def shortlyBusy : List Moment := [.still 11000 true, .still 11000 false]

def longBusy : List Moment := [.still 11000 true, .still 11000 true, .still 11000 false]

theorem quiet_shortlyBusy : Quiet shortlyBusy keysWoken where
  steady := by
    simp only [shortlyBusy, List.forall_mem_cons]
    exact ⟨⟨_, steady_still _ _⟩, ⟨_, steady_still _ _⟩, by simp⟩
  quiet := by decide +kernel

theorem quiet_longBusy : Quiet longBusy keysWoken where
  steady := by
    simp only [longBusy, List.forall_mem_cons]
    exact ⟨⟨_, steady_still _ _⟩, ⟨_, steady_still _ _⟩, ⟨_, steady_still _ _⟩, by simp⟩
  quiet := by decide +kernel

theorem restored_iff_shortlyBusy :
    keysAsleep.replay = .done ∧ (⟨2, 3⟩ : Key).led? = some 44 ∧ Quiet shortlyBusy keysWoken ∧
      (keysWoken.afterTicks shortlyBusy).stagedLed = none ∧
      Light.isOff keysAsleep.board.lights .keys = true ∧
      ∃ restore next,
        (keysWoken.working shortlyBusy)[Light.turn keysAsleep.board.lights .keys]? = some restore ∧
          (keysWoken.working shortlyBusy)[Light.turn keysAsleep.board.lights .keys + 1]? =
            some next ∧
          ((keysWoken.afterTicks shortlyBusy).board.channel.lastSent (Light.effect .keys) =
              some [Light.mode (keysWoken.afterTicks shortlyBusy).board.settings .keys] ↔
            ¬(restore.foundBusy = true ∧ next.foundBusy = true) ∨
              restore.met.board.channel.lastSent (Light.effect .keys) =
                some [Light.mode (keysWoken.afterTicks shortlyBusy).board.settings .keys]) := by
  have lit : (⟨2, 3⟩ : Key).led? = some 44 := rfl
  obtain ⟨booted, off, taken⟩ : keysAsleep.replay = .done ∧
      Light.isOff keysAsleep.board.lights .keys = true ∧
      (keysWoken.afterTicks shortlyBusy).stagedLed = none := by
    decide +kernel
  have wakes : (keysAsleep.step (.still 11000 true) (.key ⟨4, ⟨2, 3⟩, true⟩)).2 = keysWoken := rfl
  exact ⟨booted, lit, quiet_shortlyBusy, taken, off,
    restored_iff booted rfl lit wakes quiet_shortlyBusy taken off⟩

/-- The restore is gone, although nothing waits any more and the key lights
count as on. -/
theorem not_restored_longBusy :
    Reachable keysAsleep ∧ Quiet longBusy keysWoken ∧
      keysAsleep.replay = .done ∧ Light.isOff keysAsleep.board.lights .keys = true ∧
      (keysWoken.afterTicks longBusy).stagedLed = none ∧
      Light.isOff (keysWoken.afterTicks longBusy).board.lights .keys = false ∧
      (keysWoken.afterTicks longBusy).board.channel.parked = none ∧
      (keysWoken.afterTicks longBusy).board.channel.lastSent (Light.effect .keys) ≠
        some [Light.mode (keysWoken.afterTicks longBusy).board.settings .keys] := by
  refine ⟨(reachable_started _).step _ _, quiet_longBusy, ?_⟩
  decide +kernel

end Controller

end KnobPanel
