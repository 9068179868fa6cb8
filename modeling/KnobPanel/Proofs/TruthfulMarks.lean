import KnobPanel.Proofs.Frames
import KnobPanel.Proofs.PlainScreens

/-!
# When the marks tell the truth

A light that is marked as off was told to go off and has not been told anything
else since. Auto-off and waking keep this. A preview in an effect list, the
replay and the slot do not look at the marks: they break it exactly when they
deliver a lit effect to a light that is marked as off.
-/

namespace KnobPanel

namespace Light

variable {light : Light} {before after lights : Lights} {command : Command}

def Truthful (light : Light) (lights : Lights) : Prop :=
  light.isOff lights = true → lights.channel.lastSent light.effect = some [0]

def LitBy (light : Light) (command : Command) : Prop :=
  command.opcode = light.effect ∧ command.payload ≠ [0]

/-- Neither the mark of the light nor what it was last told has changed. -/
structure Kept (light : Light) (before after : Lights) : Prop where
  isOff : light.isOff after = light.isOff before
  lastSent : after.channel.lastSent light.effect = before.channel.lastSent light.effect

theorem Kept.refl (lights : Lights) : light.Kept lights lights := ⟨rfl, rfl⟩

theorem Kept.trans {third : Lights} (h : light.Kept before after) (h' : light.Kept after third) :
    light.Kept before third :=
  ⟨h'.isOff.trans h.isOff, h'.lastSent.trans h.lastSent⟩

theorem Kept.truthful_iff (h : light.Kept before after) :
    light.Truthful after ↔ light.Truthful before := by
  rw [Truthful, Truthful, h.isOff, h.lastSent]

-- ---------------------------------------------------------------------------
-- Sending and draining
-- ---------------------------------------------------------------------------

theorem truthful_send (truthful : light.Truthful lights) :
    light.Truthful { lights with channel := (lights.channel.send command).2 } ↔
      ¬(light.isOff lights = true ∧ light.LitBy command ∧
        (lights.channel.send command).1.isOk = true) := by
  rw [Truthful, isOff_with_channel, Channel.lastSent_send]
  split
  case isTrue sent =>
    simp [LitBy, sent]
  case isFalse unsent =>
    refine iff_of_true truthful fun lit => unsent ⟨lit.2.2, lit.2.1.1⟩

theorem truthful_drain (truthful : light.Truthful lights) :
    light.Truthful { lights with channel := lights.channel.drain.2 } ↔
      ¬(light.isOff lights = true ∧ ∃ command, lights.channel.parked = some command ∧
        light.LitBy command ∧ lights.channel.drain.2.parked = none) := by
  rw [Truthful, isOff_with_channel, Channel.lastSent_drain]
  cases parked : lights.channel.parked with
  | none => simpa [Truthful] using truthful
  | some command =>
    simp only
    split
    case isTrue sent =>
      simp [LitBy, sent]
    case isFalse unsent =>
      refine iff_of_true truthful ?_
      rintro ⟨-, _, same, lit, empty⟩
      cases same
      exact unsent ⟨empty, lit.1⟩

theorem kept_send (other : command.opcode ≠ light.effect) :
    light.Kept lights { lights with channel := (lights.channel.send command).2 } where
  isOff := isOff_with_channel _
  lastSent := by
    rw [Channel.lastSent_send, if_neg fun sent => other sent.2]

-- ---------------------------------------------------------------------------
-- Auto-off and waking
-- ---------------------------------------------------------------------------

theorem truthful_autoOff {idleSecs : Nat} {report : Option AutoOffAction}
    (step : AutoOffStep idleSecs before report after) (truthful : light.Truthful before) :
    light.Truthful after := by
  cases step with
  | displayOff =>
    have kept : light.Kept before { before with displayOn := false } := by
      cases light <;> exact ⟨rfl, rfl⟩
    exact kept.truthful_iff.mpr truthful
  | lightOff gone _ _ told =>
    intro off
    have sent := told light.effect
    by_cases same : gone = light
    case pos => rw [sent, if_pos (by rw [same])]
    case neg =>
      rw [isOff_with_channel, isOff_mark, if_neg same] at off
      rw [sent, if_neg fun h => same (effect_inj h), truthful off]
  | nothing silent =>
    intro off
    rw [isOff_with_channel] at off
    exact (silent.lastSent _).trans (truthful off)

theorem truthful_wake (led : UInt8) (truthful : light.Truthful lights) :
    light.Truthful (lights.wake led) := by
  intro off
  rw [Lights.isOff_wake] at off
  split at off
  case isTrue => cases off
  case isFalse notWoken =>
    have other := lights.opcode_wakeCommand_ne led notWoken
    exact (kept_send other).lastSent.trans (truthful off)

-- ---------------------------------------------------------------------------
-- Effect lists
-- ---------------------------------------------------------------------------

def list : Light → MenuKind
  | keys => .rgbEffect
  | side => .sideEffect

def preview? (row : Nat) : Light → Option Command
  | keys => (RgbMode.ofIndex? (.ofNat row)).map fun mode => .byte .rgbEffect mode.index
  | side => (SideMode.ofIndex? (.ofNat row)).map fun mode => .byte .sideEffect mode.index

end Light

theorem MenuKind.lights_preview (row : Nat) (light : Light) (board : Board) :
    ∃ settings,
      (light.list.preview row board).lights =
        { board.lights with
          settings
          channel :=
            match light.preview? row with
            | none => board.channel
            | some command => (board.channel.send command).2 } := by
  cases light with
  | keys =>
    simp only [Light.list, preview, Light.preview?]
    cases RgbMode.ofIndex? (.ofNat row) <;> exact ⟨_, rfl⟩
  | side =>
    simp only [Light.list, preview, Light.preview?]
    cases SideMode.ofIndex? (.ofNat row) <;> exact ⟨_, rfl⟩

theorem MenuKind.preview_of_ne {kind : MenuKind} (other : ∀ light : Light, kind ≠ light.list)
    (row : Nat) (board : Board) : kind.preview row board = board := by
  cases kind with
  | rgbEffect => exact absurd rfl (other .keys)
  | sideEffect => exact absurd rfl (other .side)
  | _ => rfl

-- ---------------------------------------------------------------------------
-- Detents
-- ---------------------------------------------------------------------------

namespace Light

variable (light : Light)

theorem opcode_preview? {light : Light} {row : Nat} {command : Command}
    (h : light.preview? row = some command) : command.opcode = light.effect := by
  cases light <;>
  · simp only [preview?, Option.map_eq_some_iff] at h
    obtain ⟨mode, -, rfl⟩ := h
    rfl

theorem opcode_slider {kind : SliderKind} {value : UInt8} {command : Command}
    (h : kind.command? value = some command) : command.opcode ≠ light.effect := by
  cases kind <;> cases h <;> cases light <;> simp [effect]

theorem kept_slider (clockwise : Bool) (kind : SliderKind) (board : Board) :
    light.Kept board.lights (kind.onRotate clockwise board).2.lights := by
  unfold SliderKind.onRotate
  generalize kind.step clockwise (kind.value board.settings) = value
  have stored : light.Kept board.lights
      { board with settings := kind.put value board.settings : Board }.lights := by
    cases light <;> exact ⟨rfl, rfl⟩
  simp only
  split
  case h_1 command sends =>
    exact stored.trans (kept_send (light.opcode_slider sends))
  case h_2 =>
    have quiet (level : UInt8) : KeepsPower [.brightness level] := rfl
    rw [Board.lights_draw (quiet _)]
    exact stored

theorem kept_turnScreen {kind : SliderKind} (clockwise : Bool) (steps : Nat) (reaction : Reaction)
    (controller : Controller) (slider : controller.screen = .slider kind) :
    light.Kept controller.board.lights
      (controller.turnScreen clockwise steps reaction).2.board.lights := by
  induction steps generalizing reaction controller with
  | zero => exact .refl _
  | succ steps ih =>
    have kept := light.kept_slider clockwise kind controller.board
    simp only [Controller.turnScreen, slider, Screen.onRotate]
    split
    · exact kept
    · have later := ih (kind.onRotate clockwise controller.board).1
        { controller with
          screen := .slider kind, board := (kind.onRotate clockwise controller.board).2 } rfl
      exact kept.trans later

theorem kept_onRotate (clockwise : Bool) {screen : Screen}
    (other : ∀ kind menu, screen ≠ .menu kind menu) (board : Board) :
    light.Kept board.lights (screen.onRotate clockwise board).2.2.lights := by
  cases screen with
  | dashboard state =>
    simp only [Screen.onRotate, Dashboard.onRotate]
    split
    · cases light <;> exact ⟨rfl, rfl⟩
    · exact .refl _
  | menu kind menu => exact absurd rfl (other kind menu)
  | slider kind => exact light.kept_slider clockwise kind board
  | pomodoro => exact .refl _
  | help => exact .refl _

theorem truthful_preview_iff {light : Light} {board : Board}
    (truthful : light.Truthful board.lights) (row : Nat) (shown : Light) :
    light.Truthful (shown.list.preview row board).lights ↔
      ¬(shown = light ∧ light.isOff board.lights = true ∧
        ∃ command, shown.preview? row = some command ∧ light.LitBy command ∧
          (board.channel.send command).1.isOk = true) := by
  obtain ⟨settings, lights⟩ := MenuKind.lights_preview row shown board
  rw [lights]
  have stored (channel : Channel ScriptedLine) :
      light.Kept { board.lights with channel } { board.lights with settings, channel } := by
    cases light <;> exact ⟨rfl, rfl⟩
  -- the previewed effect is stored as well, which the light does not see
  refine (stored _).truthful_iff.trans ?_
  cases sends : shown.preview? row with
  | none => exact iff_of_true truthful (by simp)
  | some command =>
    by_cases own : shown = light
    case pos =>
      refine (truthful_send truthful).trans (not_congr ?_)
      simp [own, Board.lights]
    case neg =>
      have other : command.opcode ≠ light.effect :=
        fun same => own (effect_inj ((opcode_preview? sends).symm.trans same))
      have kept : light.Kept board.lights
          { board.lights with channel := (board.channel.send command).2 } := kept_send other
      exact iff_of_true (kept.truthful_iff.mpr truthful) fun lit => own lit.1

/-- A detent on a menu tells the light something only if it previews a row of
the light's own list. -/
theorem truthful_menu_iff {light : Light} {board : Board} (truthful : light.Truthful board.lights)
    (clockwise : Bool) (kind : MenuKind) (menu : Menu) :
    light.Truthful (kind.onRotate clockwise menu board).2.2.lights ↔
      ¬(kind = light.list ∧ light.isOff board.lights = true ∧
        ∃ row command, (menu.navigate clockwise).cursor = row + 1 ∧
          light.preview? row = some command ∧ light.LitBy command ∧
          (board.channel.send command).1.isOk = true) := by
  unfold MenuKind.onRotate
  generalize menu.navigate clockwise = menu
  simp only
  split
  case isTrue title =>
    refine iff_of_true truthful ?_
    rintro ⟨-, -, row, command, next, -⟩
    rw [title] at next
    cases next
  case isFalse below =>
    obtain ⟨row, next⟩ := Nat.exists_eq_succ_of_ne_zero below
    by_cases live : ∃ shown : Light, kind = shown.list
    case pos =>
      obtain ⟨shown, rfl⟩ := live
      rw [next]
      refine (truthful_preview_iff truthful row shown).trans (not_congr ?_)
      cases shown <;> cases light <;> simp [list]
    case neg =>
      rw [MenuKind.preview_of_ne fun shown same => live ⟨shown, same⟩]
      exact iff_of_true truthful fun own => live ⟨light, own.1⟩

-- ---------------------------------------------------------------------------
-- Ticks
-- ---------------------------------------------------------------------------

variable {light} {controller : Controller}

theorem truthful_replay_iff (truthful : light.Truthful controller.board.lights)
    (pending : controller.replay ≠ .done) :
    light.Truthful controller.serveLights.2.board.lights ↔
      ¬(light.isOff controller.board.lights = true ∧
        ∃ command, controller.serveLights.1 = some command ∧ light.LitBy command ∧
          (controller.board.channel.isBusy.2.send command).1.isOk = true) := by
  obtain ⟨command, sends⟩ := Option.ne_none_iff_exists'.mp fun none =>
    pending ((ReplayStep.command?_eq_none_iff controller.board.settings _).mp none)
  simp only [Controller.serveLights, pending, ↓reduceIte, Controller.replayNext, sends]
  have asked : light.Kept controller.board.lights
      { controller.board.lights with channel := controller.board.channel.isBusy.2 } :=
    ⟨isOff_with_channel _, rfl⟩
  split
  case isTrue => exact iff_of_true (asked.truthful_iff.mpr truthful) (by simp)
  case isFalse =>
    refine (truthful_send (asked.truthful_iff.mpr truthful)).trans (not_congr ?_)
    rw [asked.isOff]
    simp

theorem truthful_slot_iff (truthful : light.Truthful controller.board.lights)
    (done : controller.replay = .done) :
    light.Truthful controller.serveLights.2.board.lights ↔
      ¬(light.isOff controller.board.lights = true ∧
        ∃ command, controller.board.channel.parked = some command ∧ light.LitBy command ∧
          controller.board.channel.drain.2.parked = none) := by
  rw [Controller.lights_serveLights, (Controller.serveLights_of_done controller done).1]
  exact truthful_drain truthful

theorem truthful_awake (truthful : light.Truthful controller.board.lights) :
    light.Truthful controller.awake.board.lights := by
  have off := truthful_autoOff (Board.autoOff_step controller.now.1 controller.now.2.board) truthful
  unfold Controller.awake
  generalize staged : (controller.now.2.autoOff controller.now.1).2.stagedLed = led
  cases led with
  | none =>
    rw [Controller.notifyLed_of_none staged]
    exact off
  | some led =>
    rw [(Controller.notifyLed_ok staged).1]
    exact truthful_wake led off

end Light

-- ---------------------------------------------------------------------------
-- Calls of the host
-- ---------------------------------------------------------------------------

namespace Controller

/-- The call delivers a lit effect to the light although it is marked as
off. -/
inductive Relights (light : Light) (controller : Controller) : HostEvent → Prop
  | preview {menu : Menu} {clockwise : Bool} {row : Nat} {command : Command} :
      controller.screen = .menu light.list menu →
      light.isOff controller.board.lights = true →
      (menu.navigate clockwise).cursor = row + 1 → light.preview? row = some command →
      light.LitBy command → (controller.board.channel.send command).1.isOk = true →
      Relights light controller (.rotate clockwise)
  | replay {command : Command} :
      light.isOff controller.awake.board.lights = true →
      controller.tick.1.replayed = some command → light.LitBy command →
      (controller.awake.board.channel.isBusy.2.send command).1.isOk = true →
      Relights light controller .tick
  | slot {command : Command} :
      controller.tick.1.returned = false → controller.awake.replay = .done →
      light.isOff controller.awake.board.lights = true →
      controller.awake.board.channel.parked = some command → light.LitBy command →
      controller.awake.board.channel.drain.2.parked = none →
      Relights light controller .tick

variable {light : Light} {controller : Controller}

theorem truthful_tick_iff (truthful : light.Truthful controller.board.lights) :
    light.Truthful controller.tick.2.board.lights ↔ ¬Relights light controller .tick := by
  cases returned : controller.tick.1.returned with
  | true =>
    obtain ⟨-, unserved, lights, -⟩ := tick_returned returned
    rw [lights]
    refine iff_of_true truthful ?_
    rintro (_ | ⟨-, served⟩ | ⟨worked⟩)
    · rw [unserved] at served
      cases served
    · rw [returned] at worked
      cases worked
  | false =>
    obtain ⟨-, served, lights, -⟩ := tick_working returned
    rw [lights]
    have awake := Light.truthful_awake truthful
    by_cases done : controller.awake.replay = .done
    case pos =>
      refine (Light.truthful_slot_iff awake done).trans (not_congr ⟨?_, ?_⟩)
      · rintro ⟨off, command, parked, lit, empty⟩
        exact .slot returned done off parked lit empty
      · rintro (_ | ⟨-, replayed⟩ | ⟨-, -, off, parked, lit, empty⟩)
        · rw [served, serveLights, if_pos done] at replayed
          cases replayed
        · exact ⟨off, _, parked, lit, empty⟩
    case neg =>
      refine (Light.truthful_replay_iff awake done).trans (not_congr ⟨?_, ?_⟩)
      · rintro ⟨off, command, replayed, lit, sent⟩
        exact .replay off (served.trans replayed) lit sent
      · rintro (_ | ⟨off, replayed, lit, sent⟩ | ⟨-, finished⟩)
        · exact ⟨off, _, served.symm.trans replayed, lit, sent⟩
        · exact absurd finished done

theorem truthful_rotate_iff (truthful : light.Truthful controller.board.lights)
    (plain : controller.Plain) (clockwise : Bool) :
    light.Truthful (controller.handleRotate clockwise).2.board.lights ↔
      ¬Relights light controller (.rotate clockwise) := by
  have counted : light.Truthful controller.counted.board.lights := truthful
  cases screen : controller.screen with
  | menu kind menu =>
    have one := plain.steps_eq_one (by simp [screen]) controller.now.1
    rw [handleRotate_of_one _ one, lights_react, screen]
    refine (Light.truthful_menu_iff counted clockwise kind menu).trans (not_congr ?_)
    constructor
    · rintro ⟨rfl, off, row, command, next, sends, lit, sent⟩
      exact .preview screen off next sends lit sent
    · rintro (⟨found, off, next, sends, lit, sent⟩ | _ | _)
      obtain ⟨rfl, rfl⟩ := Screen.menu.inj (screen.symm.trans found)
      exact ⟨rfl, off, _, _, next, sends, lit, sent⟩
  | slider kind =>
    have kept := light.kept_turnScreen clockwise (controller.acceleration.steps controller.now.1).1
      .pass controller.counted screen
    rw [handleRotate_eq, lights_react]
    refine iff_of_true (kept.truthful_iff.mpr counted) ?_
    rintro (⟨found⟩ | _ | _)
    cases screen.symm.trans found
  | _ =>
    have one := plain.steps_eq_one (by simp [screen]) controller.now.1
    have other : ∀ kind menu, controller.screen ≠ .menu kind menu := by simp [screen]
    rw [handleRotate_of_one _ one, lights_react]
    refine iff_of_true ((light.kept_onRotate clockwise other _).truthful_iff.mpr counted) ?_
    rintro (⟨found⟩ | _ | _)
    cases screen.symm.trans found

theorem truthful_handle_iff (truthful : light.Truthful controller.board.lights)
    (plain : controller.Plain) (event : HostEvent) :
    light.Truthful (controller.handle event).2.board.lights ↔ ¬Relights light controller event := by
  cases event with
  | tick => exact truthful_tick_iff truthful
  | rotate clockwise => exact truthful_rotate_iff truthful plain clockwise
  | key event =>
    obtain ⟨settings, lights⟩ := controller.lights_handleKey event
    have kept : light.Kept controller.board.lights { controller.board.lights with settings } := by
      cases light <;> exact ⟨rfl, rfl⟩
    refine iff_of_true ?_ (by rintro ⟨⟩)
    exact lights ▸ kept.truthful_iff.mpr truthful
  | poll => exact iff_of_true truthful (by rintro ⟨⟩)
  | lockLeds => exact iff_of_true truthful (by rintro ⟨⟩)

-- ---------------------------------------------------------------------------
-- Runs
-- ---------------------------------------------------------------------------

theorem run_concat (calls : List (Moment × HostEvent)) (call : Moment × HostEvent)
    (controller : Controller) :
    (controller.run (calls ++ [call])).2 =
      (((controller.run calls).2.meet call.1).handle call.2).2 := by
  induction calls generalizing controller with
  | nil => rfl
  | cons first calls ih => exact ih _

theorem truthful_start (light : Light) (moment : Moment) (store : FlatStore) :
    light.Truthful (start moment store).board.lights := by
  have on : light.isOff (start moment store).board.lights = false := by
    rw [start, lights_go]
    cases light <;> rfl
  intro off
  rw [on] at off
  cases off

/-- Both marks tell the truth all through a run from the start exactly when no
call of the run relights a light behind its mark. -/
theorem truthful_run_iff (moment : Moment) (store : FlatStore)
    (calls : List (Moment × HostEvent)) :
    (∀ n, ∀ light : Light,
        light.Truthful ((start moment store).run (calls.take n)).2.board.lights) ↔
      ∀ n call, calls[n]? = some call → ∀ light : Light,
        ¬Relights light (((start moment store).run (calls.take n)).2.meet call.1) call.2 := by
  -- from the first `n` calls to one call more
  have step (n : Nat) {call : Moment × HostEvent} (found : calls[n]? = some call) (light : Light)
      (truthful : light.Truthful ((start moment store).run (calls.take n)).2.board.lights) :
      light.Truthful ((start moment store).run (calls.take (n + 1))).2.board.lights ↔
        ¬Relights light (((start moment store).run (calls.take n)).2.meet call.1) call.2 := by
    have plain := ((Reachable.start moment store).run (calls.take n)).plain
    have met : light.Truthful
        (((start moment store).run (calls.take n)).2.meet call.1).board.lights := by
      cases light <;> exact truthful
    rw [List.take_add_one, found, Option.toList_some, run_concat]
    exact truthful_handle_iff met plain call.2
  constructor
  · intro truthful n call found light
    exact (step n found light (truthful n light)).mp (truthful (n + 1) light)
  · intro kept n light
    induction n with
    | zero => exact truthful_start light moment store
    | succ n ih =>
      cases found : calls[n]? with
      | none => rwa [List.take_add_one, found, Option.toList_none, List.append_nil]
      | some call => exact (step n found light ih).mpr (kept n call found light)

/-- The effect list is open for so long that the key lights go off; the next
detent previews an effect on them and leaves them marked as off. -/
def previewedDark : Controller :=
  let settings := { Settings.factory with rgb := { Settings.factory.rgb with autoOff := .secs10 } }
  let press : Moment × HostEvent := (.still 0 false, .key ⟨0, .activate, true⟩)
  ((started settings).run
    [press, (.still 0 false, .rotate true), press, press, (.still 11000 false, .tick),
      (.still 11000 false, .rotate true)]).2

theorem not_truthful_previewedDark :
    Reachable previewedDark ∧ ¬Light.Truthful .keys previewedDark.board.lights := by
  refine ⟨(reachable_started _).run _, fun truthful => ?_⟩
  obtain ⟨off, lit⟩ : Light.isOff previewedDark.board.lights .keys = true ∧
      previewedDark.board.lights.channel.lastSent (Light.effect .keys) ≠ some [0] := by
    decide +kernel
  exact lit (truthful off)

end Controller

end KnobPanel
