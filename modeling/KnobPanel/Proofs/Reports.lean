import KnobPanel.Proofs.TickLog
import KnobPanel.Proofs.TruthfulMarks

/-!
# Reports of keys

A key is reported when its command reaches the controller, by a send or from the
slot. Only the call for a staged key issues such commands. Whatever else uses the
channel is mute about keys: it reports none, and no report comes into the slot by
it.
-/

namespace KnobPanel

-- ---------------------------------------------------------------------------
-- Reports on the line
-- ---------------------------------------------------------------------------

namespace Channel

def reported (channel : Channel ScriptedLine) : List (List UInt8) :=
  channel.link.log.filterMap (·.delivery .rgbKeypress)

def holdsReport (channel : Channel ScriptedLine) : Bool :=
  channel.parked.any (·.opcode == .rgbKeypress)

def reports (channel : Channel ScriptedLine) : Nat :=
  channel.reported.length + channel.holdsReport.toNat

structure Mute (before after : Channel ScriptedLine) : Prop where
  reported : after.reported = before.reported
  parked : after.holdsReport = true → after.parked = before.parked

theorem Mute.refl (channel : Channel ScriptedLine) : channel.Mute channel :=
  ⟨rfl, fun _ => rfl⟩

theorem Mute.holdsReport {before after : Channel ScriptedLine} (h : before.Mute after)
    (holds : after.holdsReport = true) : before.holdsReport = true := by
  rw [Channel.holdsReport, ← h.parked holds]
  exact holds

theorem Mute.trans {first second third : Channel ScriptedLine} (h : first.Mute second)
    (h' : second.Mute third) : first.Mute third where
  reported := h'.reported.trans h.reported
  parked holds := (h'.parked holds).trans (h.parked (h'.holdsReport holds))

theorem Mute.reports_le {before after : Channel ScriptedLine} (h : before.Mute after) :
    after.reports ≤ before.reports := by
  rw [reports, reports, h.reported]
  cases holds : after.holdsReport with
  | false => exact Nat.le_add_right ..
  | true => exact Nat.le_of_eq (by rw [h.holdsReport holds])

theorem mute_isBusy (channel : Channel ScriptedLine) : channel.Mute channel.isBusy.2 :=
  ⟨rfl, fun _ => rfl⟩

theorem reported_transmit (command : Command) (line : ScriptedLine) (parked : Option Command) :
    reported { link := (Link.transmit command.wire line).2, parked } =
      if line.delivers line.turn ∧ command.opcode = .rgbKeypress then
        command.payload :: reported { link := line }
      else
        reported { link := line } := by
  simp only [reported, Link.transmit, List.filterMap_cons]
  cases line.delivers line.turn with
  | true =>
    rw [Exchange.delivery_wire]
    split <;> simp_all
  | false => simp [Exchange.delivery]

variable {channel : Channel ScriptedLine} {command : Command}

theorem mute_send (other : command.opcode ≠ .rgbKeypress) :
    channel.Mute (channel.send command).2 := by
  rcases send_cases command channel with ⟨-, sent⟩ | ⟨-, -, sent⟩ | ⟨-, -, sent⟩
  · rw [sent]
    refine ⟨rfl, fun holds => ?_⟩
    simp [holdsReport, other] at holds
  · rw [sent]
    refine ⟨?_, fun holds => ?_⟩
    · rw [reported_transmit, if_neg fun own => other own.2]
      rfl
    · rcases settled_cases command channel.parked with same | empty
      · exact same
      · simp [holdsReport, empty] at holds
  · rw [sent]
    refine ⟨?_, fun _ => rfl⟩
    rw [reported_transmit, if_neg fun own => other own.2]
    rfl

/-- A report that is sent goes out and leaves none in the slot, or it fails and
at most waits there. -/
theorem send_report (led : UInt8) (channel : Channel ScriptedLine) :
    let sent := channel.send (.byte .rgbKeypress led)
    (sent.1.isOk = true ∧ sent.2.reported = [led] :: channel.reported ∧
        sent.2.holdsReport = false) ∨
      sent.1.isOk = false ∧ sent.2.reported = channel.reported ∧
        (sent.2.parked = some (.byte .rgbKeypress led) ∨ sent.2.parked = channel.parked) := by
  simp only
  rcases send_cases (.byte .rgbKeypress led) channel with
    ⟨-, sent⟩ | ⟨-, delivers, sent⟩ | ⟨-, lost, sent⟩
  · rw [sent]
    exact .inr ⟨rfl, rfl, .inl rfl⟩
  · rw [sent]
    refine .inl ⟨rfl, ?_, ?_⟩
    · rw [reported_transmit, if_pos ⟨delivers, rfl⟩]
      rfl
    · rw [holdsReport]
      cases channel.parked with
      | none => rfl
      | some older =>
        rw [settled_some]
        split
        case isTrue => rfl
        case isFalse other => simpa using other
  · rw [sent]
    refine .inr ⟨rfl, ?_, .inr rfl⟩
    rw [reported_transmit, if_neg (by simp [lost])]
    rfl

theorem drain_report (channel : Channel ScriptedLine) :
    (channel.drain.2.reported = channel.reported ∧ channel.drain.2.parked = channel.parked) ∨
      ∃ command, channel.parked = some command ∧ channel.drain.2.parked = none ∧
        channel.drain.2.reported =
          if command.opcode = .rgbKeypress then command.payload :: channel.reported
          else channel.reported := by
  cases parked : channel.parked with
  | none => simp [drain, parked]
  | some command =>
    rcases drain_cases parked with ⟨-, drained⟩ | ⟨-, delivers, drained⟩ | ⟨-, lost, drained⟩
    · rw [drained]
      exact .inl ⟨rfl, parked⟩
    · rw [drained]
      refine .inr ⟨command, rfl, rfl, ?_⟩
      rw [reported_transmit]
      simp only [delivers, true_and]
      rfl
    · rw [drained]
      refine .inl ⟨?_, parked⟩
      rw [reported_transmit, if_neg (by simp [lost])]
      rfl

section
variable {busy delivers : Bool}

theorem isOk_send_of_answers (answers : channel.answers = (fun _ => busy, fun _ => delivers))
    (command : Command) : (channel.send command).1.isOk = (!busy && delivers) := by
  obtain ⟨asked, taken⟩ := Prod.mk.injEq .. ▸ answers
  have busyAt : channel.isBusy.1 = busy := congrFun asked _
  have deliversAt : channel.isBusy.2.link.delivers channel.isBusy.2.link.turn = delivers :=
    congrFun taken _
  rcases send_cases command channel with ⟨met, sent⟩ | ⟨met, met', sent⟩ | ⟨met, met', sent⟩
  · rw [sent, ← busyAt, met]
    rfl
  · rw [sent, ← busyAt, met, ← deliversAt, met']
    rfl
  · rw [sent, ← busyAt, met, ← deliversAt, met']
    rfl

theorem reported_drain_of_answers
    (answers : channel.answers = (fun _ => busy, fun _ => delivers))
    (refuses : (!busy && delivers) = false) : channel.drain.2.reported = channel.reported := by
  obtain ⟨asked, taken⟩ := Prod.mk.injEq .. ▸ answers
  have busyAt : channel.isBusy.1 = busy := congrFun asked _
  have deliversAt : channel.isBusy.2.link.delivers channel.isBusy.2.link.turn = delivers :=
    congrFun taken _
  cases parked : channel.parked with
  | none => simp only [drain, parked]
  | some command =>
    rcases drain_cases parked with ⟨-, drained⟩ | ⟨met, met', -⟩ | ⟨-, lost, drained⟩
    · rw [drained]
      rfl
    · rw [← busyAt, met, ← deliversAt, met'] at refuses
      cases refuses
    · rw [drained, reported_transmit, if_neg (by simp [lost])]
      rfl

end

theorem reports_drain (channel : Channel ScriptedLine) :
    channel.drain.2.reports = channel.reports := by
  rcases channel.drain_report with ⟨reported, parked⟩ | ⟨command, parked, empty, reported⟩
  · rw [reports, reports, reported, holdsReport, parked]
    rfl
  · rw [reports, reports, reported, holdsReport, holdsReport, parked, empty]
    by_cases own : command.opcode = .rgbKeypress <;> simp [own]

end Channel

-- ---------------------------------------------------------------------------
-- Who is mute
-- ---------------------------------------------------------------------------

theorem Light.effect_ne_rgbKeypress (light : Light) : light.effect ≠ .rgbKeypress := by
  cases light <;> simp [effect]

theorem AutoOff.mute_tryOff (light : Light) (isOff : Bool) (tier : AutoOffTier) (idleSecs : Nat)
    (channel : Channel ScriptedLine) :
    channel.Mute (tryOff light.effect isOff tier idleSecs channel).2 := by
  simp only [tryOff, sendOff]
  split
  · split
    · exact channel.mute_isBusy
    · exact channel.mute_isBusy.trans (Channel.mute_send light.effect_ne_rgbKeypress)
  · exact .refl channel

theorem Board.mute_autoOff (now : Millis) (board : Board) :
    board.channel.Mute (board.autoOff now).2.channel := by
  have keys := AutoOff.mute_tryOff .keys board.idle.rgbOff board.settings.rgb.autoOff
    (board.idle.idleSecs now) board.channel
  simp only [autoOff, AutoOff.run]
  split
  · exact .refl _
  · split
    · exact keys
    · split <;> exact keys.trans (AutoOff.mute_tryOff .side ..)

theorem MenuKind.mute_preview (row : Nat) (kind : MenuKind) (board : Board) :
    board.channel.Mute (kind.preview row board).channel := by
  by_cases list : ∃ light : Light, kind = light.list
  case neg =>
    rw [preview_of_ne (fun light same => list ⟨light, same⟩)]
    exact .refl _
  case pos =>
    obtain ⟨light, rfl⟩ := list
    obtain ⟨_, lights⟩ := lights_preview row light board
    have channel : (light.list.preview row board).channel = _ := congrArg Lights.channel lights
    rw [channel]
    split
    · exact .refl _
    · rename_i command sends
      exact Channel.mute_send (Light.opcode_preview? sends ▸ light.effect_ne_rgbKeypress)

theorem Screen.mute_onRotate (clockwise : Bool) (screen : Screen) (board : Board) :
    board.channel.Mute (screen.onRotate clockwise board).2.2.channel := by
  cases screen with
  | dashboard state =>
    simp only [onRotate, Dashboard.onRotate]
    split <;> exact .refl _
  | menu kind state =>
    simp only [onRotate, MenuKind.onRotate]
    split
    · exact .refl _
    · exact kind.mute_preview _ board
  | slider kind =>
    simp only [onRotate, SliderKind.onRotate]
    split
    · rename_i command sends
      refine Channel.mute_send ?_
      cases kind <;> cases sends <;> simp
    · exact .refl _
  | pomodoro => exact .refl _
  | help => exact .refl _

namespace Controller

theorem mute_turnScreen (clockwise : Bool) (steps : Nat) (reaction : Reaction)
    (controller : Controller) :
    controller.board.channel.Mute
      (controller.turnScreen clockwise steps reaction).2.board.channel :=
  turnScreen_induct (motive := fun _ turned => controller.board.channel.Mute turned.board.channel)
    (fun _ turned mute => mute.trans (turned.screen.mute_onRotate clockwise turned.board))
    steps (.refl _)

theorem serveLights_channel (controller : Controller) :
    controller.board.channel.Mute controller.serveLights.2.board.channel ∨
      controller.serveLights.2.board.channel = controller.board.channel.drain.2 := by
  by_cases done : controller.replay = .done
  case pos => exact .inr (serveLights_of_done _ done).1
  case neg =>
    left
    simp only [serveLights, done, ↓reduceIte, replayNext]
    split
    · exact .refl _
    · rename_i command sends
      have other : command.opcode ≠ .rgbKeypress := by
        intro same
        cases step : controller.replay <;> rw [step] at sends <;> cases sends <;> cases same
      split
      · exact Channel.mute_isBusy _
      · exact (Channel.mute_isBusy _).trans (Channel.mute_send other)

theorem reports_serveLights (controller : Controller) :
    controller.serveLights.2.board.channel.reports ≤ controller.board.channel.reports := by
  rcases controller.serveLights_channel with mute | drained
  · exact mute.reports_le
  · exact Nat.le_of_eq (drained ▸ Channel.reports_drain _)

end Controller

end KnobPanel
