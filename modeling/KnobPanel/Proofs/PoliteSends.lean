import KnobPanel.Proofs.TickLog

/-!
# Asking before sending

The auto-off and the replay ask for a free line before they send, so as to leave
the slot to others. The send asks once more, and what the line says to that
decides: a line that turns busy in between has the command parked after all.
-/

namespace KnobPanel

-- ---------------------------------------------------------------------------
-- One offer
-- ---------------------------------------------------------------------------

namespace Channel

/-- The slot is as it was before, or empty. -/
def Polite {L : Type} (before after : Channel L) : Prop :=
  after.parked = before.parked ∨ after.parked = none

theorem Polite.trans {L : Type} {first second third : Channel L} (h : first.Polite second)
    (h' : second.Polite third) : first.Polite third := by
  rcases h' with same | empty
  · rw [Polite, same]
    exact h
  · exact .inr empty

/-- To leave a command in the slot is polite only if it was there before. -/
theorem polite_iff_of_parked {L : Type} {before after : Channel L} {command : Command}
    (parked : after.parked = some command) : before.Polite after ↔ before.parked = some command := by
  rw [Polite, parked]
  constructor
  · rintro (same | empty)
    · exact same.symm
    · cases empty
  · exact fun same => .inl same.symm

variable {L : Type} [Link L]

/-- The line is free at the next question and busy at the one after it. -/
def rises (channel : Channel L) : Bool := !channel.isBusy.1 && channel.isBusy.2.isBusy.1

/-- The channel once it was asked, and given the command if the line was free. -/
def offered (command : Command) (channel : Channel L) : Channel L :=
  if channel.isBusy.1 then channel.isBusy.2 else (channel.isBusy.2.send command).2

variable {channel : Channel L} {command : Command}

theorem parked_send_busy (busy : channel.isBusy.1 = true) :
    (channel.send command).2.parked = some command := by
  have answer : (Link.isBusy channel.link).1 = true := busy
  simp only [send, answer, ↓reduceIte]

theorem parked_send_free (free : channel.isBusy.1 = false) :
    (channel.send command).2.parked = channel.parked ∨
      (channel.send command).2.parked = settled command channel.parked := by
  have answer : (Link.isBusy channel.link).1 = false := free
  simp only [send, answer, Bool.false_eq_true, ↓reduceIte]
  split
  · exact .inr rfl
  · exact .inl rfl

theorem parked_offered_rising (rises : channel.rises = true) :
    (channel.offered command).parked = some command := by
  simp only [Channel.rises, Bool.and_eq_true, Bool.not_eq_true'] at rises
  rw [offered, rises.1, if_neg Bool.false_ne_true, parked_send_busy rises.2]

theorem parked_offered (command : Command) (calm : channel.rises = false) :
    (channel.offered command).parked = channel.parked ∨
      (channel.offered command).parked = settled command channel.parked := by
  rw [offered]
  cases busy : channel.isBusy.1 with
  | true => exact .inl rfl
  | false =>
    simp only [Channel.rises, busy, Bool.not_false, Bool.true_and] at calm
    exact parked_send_free calm

theorem polite_offered (command : Command) (calm : channel.rises = false) :
    channel.Polite (channel.offered command) := by
  rcases parked_offered command calm with same | stale
  · exact .inl same
  · rw [Polite, stale]
    exact settled_cases command channel.parked

theorem polite_offered_iff : channel.Polite (channel.offered command) ↔
    (channel.rises = true → channel.parked = some command) := by
  cases rises : channel.rises with
  | false => exact iff_of_true (polite_offered command rises) nofun
  | true =>
    rw [polite_iff_of_parked (parked_offered_rising rises)]
    exact ⟨fun same _ => same, fun same => same rfl⟩

theorem parked_offered_of_ne {older : Command} (calm : channel.rises = false)
    (parked : channel.parked = some older) (other : older.opcode ≠ command.opcode) :
    (channel.offered command).parked = some older := by
  rcases parked_offered command calm with same | stale
  · exact same.trans parked
  · rw [stale, parked, settled_some, if_neg other]

end Channel

-- ---------------------------------------------------------------------------
-- Auto-off
-- ---------------------------------------------------------------------------

namespace AutoOff

variable {L : Type} [Link L]

theorem sendOff_eq_offered (opcode : Opcode) (channel : Channel L) :
    (sendOff opcode channel).2 = channel.offered (.byte opcode 0) := by
  simp only [sendOff, Channel.offered]
  split <;> rfl

theorem not_rises_of_sendOff {opcode : Opcode} {channel : Channel L}
    (sent : (sendOff opcode channel).1 = true) : channel.rises = false := by
  simp only [sendOff] at sent
  split at sent
  case isTrue => cases sent
  case isFalse free =>
    cases again : channel.isBusy.2.isBusy.1 with
    | false => simp only [Channel.rises, again, Bool.and_false]
    | true =>
      have answer : (Link.isBusy channel.isBusy.2.link).1 = true := again
      simp only [Channel.send, answer, ↓reduceIte] at sent
      cases sent

section
variable (opcode : Opcode) (isOff : Bool) (tier : AutoOffTier) (idleSecs : Nat)

def crowds (channel : Channel L) : Bool := (!isOff && tier.expired idleSecs) && channel.rises

variable {opcode isOff tier idleSecs} {channel : Channel L}

theorem parked_tryOff_crowding (opcode : Opcode)
    (crowds : crowds isOff tier idleSecs channel = true) :
    (tryOff opcode isOff tier idleSecs channel).1 = false ∧
      (tryOff opcode isOff tier idleSecs channel).2.parked = some (.byte opcode 0) := by
  simp only [AutoOff.crowds, Bool.and_eq_true] at crowds
  obtain ⟨due, rises⟩ := crowds
  simp only [tryOff, Bool.and_eq_true, due, and_self, ↓reduceIte, sendOff_eq_offered]
  refine ⟨?_, Channel.parked_offered_rising rises⟩
  cases sent : (sendOff opcode channel).1 with
  | false => rfl
  | true => exact absurd rises (by simp [not_rises_of_sendOff sent])

theorem tryOff_calm (opcode : Opcode) (calm : crowds isOff tier idleSecs channel = false) :
    (tryOff opcode isOff tier idleSecs channel).2 = channel ∨
      channel.rises = false ∧
        (tryOff opcode isOff tier idleSecs channel).2 = channel.offered (.byte opcode 0) := by
  simp only [tryOff]
  split
  case isFalse => exact .inl rfl
  case isTrue due =>
    rw [AutoOff.crowds, due, Bool.true_and] at calm
    exact .inr ⟨calm, sendOff_eq_offered opcode channel⟩

theorem polite_tryOff (opcode : Opcode) (calm : crowds isOff tier idleSecs channel = false) :
    channel.Polite (tryOff opcode isOff tier idleSecs channel).2 := by
  rcases tryOff_calm opcode calm with same | ⟨calm, offered⟩
  · rw [same]
    exact .inl rfl
  · rw [offered]
    exact Channel.polite_offered _ calm

theorem parked_tryOff_of_ne (calm : crowds isOff tier idleSecs channel = false)
    {older : Command} (parked : channel.parked = some older) (other : older.opcode ≠ opcode) :
    (tryOff opcode isOff tier idleSecs channel).2.parked = some older := by
  rcases tryOff_calm opcode calm with same | ⟨calm, offered⟩
  · rw [same]
    exact parked
  · rw [offered]
    exact Channel.parked_offered_of_ne calm parked other

end

variable (now : Millis) (settings : Settings) (displayOn : Bool) (idle : IdleTimers)

/-- The light whose off command an evaluation leaves in the slot. The side light
comes last and replaces the key lights there. -/
def stranded (channel : Channel L) : Option Light :=
  let idleSecs := idle.idleSecs now
  let rgb := tryOff .rgbEffect idle.rgbOff settings.rgb.autoOff idleSecs channel
  if displayOn && settings.oled.autoOff.expired idleSecs || rgb.1 then none
  else if crowds idle.sideOff settings.side.autoOff idleSecs rgb.2 then some .side
  else if crowds idle.rgbOff settings.rgb.autoOff idleSecs channel then some .keys
  else none

variable {now settings displayOn idle} {channel : Channel L}

theorem parked_run {light : Light} (left : stranded now settings displayOn idle channel = some light) :
    (run now settings displayOn idle channel).2.2.parked = some (.byte light.effect 0) := by
  simp only [stranded, Bool.or_eq_true] at left
  split at left
  case isTrue => cases left
  case isFalse unsent =>
    obtain ⟨on, unsent⟩ := not_or.mp unsent
    simp only [run, on, unsent, Bool.false_eq_true, ↓reduceIte]
    split at left
    case isTrue side =>
      cases left
      obtain ⟨refused, parked⟩ := parked_tryOff_crowding .sideEffect side
      rw [refused, if_neg Bool.false_ne_true]
      exact parked
    case isFalse side =>
      split at left
      case isTrue keys =>
        cases left
        rw [Bool.not_eq_true] at side
        have parked := (parked_tryOff_crowding .rgbEffect keys).2
        have other : (Command.byte .rgbEffect 0).opcode ≠ .sideEffect := by simp
        have kept := parked_tryOff_of_ne side parked other
        split <;> exact kept
      case isFalse => cases left

theorem polite_run (left : stranded now settings displayOn idle channel = none) :
    channel.Polite (run now settings displayOn idle channel).2.2 := by
  simp only [stranded, Bool.or_eq_true] at left
  simp only [run]
  split
  case isTrue => exact .inl rfl
  case isFalse on =>
    split
    case isTrue sent =>
      refine polite_tryOff _ ?_
      -- what went out was not parked
      cases keys : crowds idle.rgbOff settings.rgb.autoOff (idle.idleSecs now) channel with
      | false => rfl
      | true =>
        rw [(parked_tryOff_crowding _ keys).1] at sent
        cases sent
    case isFalse unsent =>
      rw [if_neg (not_or.mpr ⟨on, unsent⟩)] at left
      split at left
      case isTrue => cases left
      case isFalse side =>
        split at left
        case isTrue => cases left
        case isFalse keys =>
          rw [Bool.not_eq_true] at side keys
          have polite := (polite_tryOff .rgbEffect keys).trans (polite_tryOff .sideEffect side)
          split <;> exact polite

theorem polite_run_iff : channel.Polite (run now settings displayOn idle channel).2.2 ↔
    ∀ light, stranded now settings displayOn idle channel = some light →
      channel.parked = some (.byte light.effect 0) := by
  cases left : stranded now settings displayOn idle channel with
  | none => exact iff_of_true (polite_run left) nofun
  | some light =>
    rw [Channel.polite_iff_of_parked (parked_run left)]
    exact ⟨fun same _ found => Option.some.inj found ▸ same, fun same => same light rfl⟩

end AutoOff

-- ---------------------------------------------------------------------------
-- Replay
-- ---------------------------------------------------------------------------

namespace Controller

theorem channel_replayNext (controller : Controller) :
    controller.replayNext.2.board.channel =
      match controller.replay.command? controller.board.settings with
      | none => controller.board.channel
      | some command => controller.board.channel.offered command := by
  cases next : controller.replay.command? controller.board.settings with
  | none => simp only [replayNext, next]
  | some command =>
    simp only [replayNext, next, Channel.offered]
    split <;> rfl

theorem polite_replayNext_iff (controller : Controller) :
    controller.board.channel.Polite controller.replayNext.2.board.channel ↔
      ∀ command, controller.replay.command? controller.board.settings = some command →
        controller.board.channel.rises = true → controller.board.channel.parked = some command := by
  rw [channel_replayNext]
  cases controller.replay.command? controller.board.settings with
  | none => exact iff_of_true (.inl rfl) nofun
  | some command =>
    simp only [Option.some.injEq, forall_eq']
    exact Channel.polite_offered_iff

end Controller

/-- Whatever the line answers, the auto-off and the replay leave the slot as it
was or empty, unless the line turns busy between the question and the send. -/
theorem polite_iff {L : Type} [Link L] (now : Millis) (settings : Settings) (displayOn : Bool)
    (idle : IdleTimers) (channel : Channel L) (controller : Controller) :
    (channel.Polite (AutoOff.run now settings displayOn idle channel).2.2 ↔
        ∀ light, AutoOff.stranded now settings displayOn idle channel = some light →
          channel.parked = some (.byte light.effect 0)) ∧
      (controller.board.channel.Polite controller.replayNext.2.board.channel ↔
        ∀ command, controller.replay.command? controller.board.settings = some command →
          controller.board.channel.rises = true →
          controller.board.channel.parked = some command) :=
  ⟨AutoOff.polite_run_iff, controller.polite_replayNext_iff⟩

def Moment.rising (time : Millis) : Moment :=
  { Moment.still time false with busy := fun turn => turn != 0 }

namespace Controller

def risingReplay : Controller := (start (.still 0 false) erased).meet (.rising 0)

def keysTimed : Controller :=
  started { Settings.factory with rgb := { Settings.factory.rgb with autoOff := .secs10 } }

def risingAutoOff : Controller := keysTimed.meet (.rising 11000)

/-- Both have their command put into an empty slot. -/
theorem not_polite_rising :
    Reachable (start (.still 0 false) erased) ∧ Reachable keysTimed ∧
      ¬risingReplay.board.channel.Polite risingReplay.replayNext.2.board.channel ∧
      ¬risingAutoOff.board.channel.Polite
        (AutoOff.run 11000 risingAutoOff.board.settings risingAutoOff.board.displayOn
          risingAutoOff.board.idle risingAutoOff.board.channel).2.2 := by
  refine ⟨.start _ _, reachable_started _, ?_⟩
  simp only [Channel.Polite]
  decide +kernel

end Controller

end KnobPanel
