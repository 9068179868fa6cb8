import KnobPanel.Proofs.ChannelHistory
import KnobPanel.Proofs.TickLog

/-!
# One auto-off evaluation

An evaluation tries the display, the key lights and the side light in turn and
stops at the first success. An attempt that fails on the line leaves a trace on
the link and nothing else, so that the next one starts from the same board.
-/

namespace KnobPanel

-- ---------------------------------------------------------------------------
-- The line
-- ---------------------------------------------------------------------------

namespace Channel

open ScriptedLine (sent)

structure Untouched (before after : Channel ScriptedLine) : Prop where
  sent : sent after.link.log = sent before.link.log
  parked : after.parked = before.parked

/-- One command reached the lights. What was parked stays, unless it is an older
command of the same opcode. -/
structure Delivered (command : Command) (before after : Channel ScriptedLine) : Prop where
  sent : sent after.link.log = sent before.link.log ++ [command.wire]
  parked : after.parked = before.parked.filter (·.opcode != command.opcode)

variable {first second third : Channel ScriptedLine} {command : Command}

theorem Untouched.refl (channel : Channel ScriptedLine) : channel.Untouched channel := ⟨rfl, rfl⟩

theorem Untouched.trans (h : first.Untouched second) (h' : second.Untouched third) :
    first.Untouched third :=
  ⟨h'.sent.trans h.sent, h'.parked.trans h.parked⟩

theorem Untouched.delivered (h : first.Untouched second) (h' : second.Delivered command third) :
    first.Delivered command third := by
  obtain ⟨sent, parked⟩ := h'
  rw [h.sent] at sent
  rw [h.parked] at parked
  exact ⟨sent, parked⟩

end Channel

-- ---------------------------------------------------------------------------
-- One attempt
-- ---------------------------------------------------------------------------

namespace AutoOff

/-- An attempt on a line that answers every question alike. It asks twice before
it sends. -/
structure Attempt (busy due : Bool) (opcode : Opcode) (met : Channel ScriptedLine)
    (outcome : Bool × Channel ScriptedLine) : Prop where
  success : outcome.1 = (due && !busy && met.link.delivers (met.link.turn + 2))
  delivered : outcome.1 = true → met.Delivered (.byte opcode 0) outcome.2
  untouched : outcome.1 = false → met.Untouched outcome.2
  turn : busy = false → outcome.2.link.turn = if due then met.link.turn + 3 else met.link.turn
  answers : outcome.2.answers = met.answers

variable {channel : Channel ScriptedLine} {busy : Bool}

theorem attempt_sendOff (even : channel.Even busy) (opcode : Opcode) :
    Attempt busy true opcode channel (sendOff opcode channel) := by
  have asked := Channel.isBusy_of_even even
  have again : channel.isBusy.2.isBusy.1 = busy := Channel.isBusy_of_even even
  simp only [sendOff, asked]
  cases busy with
  | true =>
    refine ⟨rfl, fun never => ?_, fun _ => ⟨rfl, rfl⟩, fun never => ?_, rfl⟩ <;> cases never
  | false =>
    simp only [Bool.false_eq_true, ↓reduceIte]
    rcases Channel.send_cases (.byte opcode 0) channel.isBusy.2 with
      ⟨late, -⟩ | ⟨-, taken, sent⟩ | ⟨-, lost, sent⟩
    · cases again.symm.trans late
    · have delivers : channel.link.delivers (channel.link.turn + 2) = true := taken
      rw [sent]
      refine ⟨delivers.symm, fun _ => ⟨?_, rfl⟩, fun never => ?_, fun _ => rfl, rfl⟩
      · simp [Link.transmit, Channel.isBusy, Link.isBusy, delivers]
      · cases never
    · have loses : channel.link.delivers (channel.link.turn + 2) = false := lost
      rw [sent]
      refine ⟨loses.symm, fun never => ?_, fun _ => ⟨?_, rfl⟩, fun _ => rfl, rfl⟩
      · cases never
      · simp [Link.transmit, Channel.isBusy, Link.isBusy, loses]

theorem attempt_tryOff (even : channel.Even busy) (opcode : Opcode) (isOff : Bool)
    (tier : AutoOffTier) (idleSecs : Nat) :
    Attempt busy (!isOff && tier.expired idleSecs) opcode channel
      (tryOff opcode isOff tier idleSecs channel) := by
  unfold tryOff
  cases !isOff && tier.expired idleSecs with
  | true => exact attempt_sendOff even opcode
  | false =>
    refine ⟨rfl, fun never => ?_, fun _ => .refl channel, fun _ => rfl, rfl⟩
    cases never

theorem Attempt.success_after {due due' : Bool} {opcode opcode' : Opcode}
    {first second : Bool × Channel ScriptedLine} (h : Attempt busy due opcode channel first)
    (h' : Attempt busy due' opcode' first.2 second) :
    second.1 = (due' && !busy &&
      channel.link.delivers ((if due then channel.link.turn + 3 else channel.link.turn) + 2)) := by
  have delivers : first.2.link.delivers = channel.link.delivers := congrArg Prod.snd h.answers
  rw [h'.success, delivers]
  cases busy with
  | true => simp
  | false => rw [h.turn rfl]

end AutoOff

-- ---------------------------------------------------------------------------
-- The verdict
-- ---------------------------------------------------------------------------

def Light.engage (idle : IdleTimers) : Light → IdleTimers
  | keys => { idle with rgbOff := true }
  | side => { idle with sideOff := true }

namespace Board

variable (busy : Bool) (now : Millis) (board : Board)

def displayDue : Bool :=
  board.displayOn && decide (board.settings.oled.autoOff.Exceeded (board.idle.idleSecs now))

def lightDue (light : Light) : Bool :=
  !light.isOff board.lights &&
    decide ((light.tier board.settings).Exceeded (board.idle.idleSecs now))

/-- The number of the exchange that carries the off command. Three exchanges were
spent on the key lights before, if they were due. -/
def offTurn : Light → Nat
  | .keys => board.channel.link.turn + 2
  | .side => (if board.lightDue now .keys then board.channel.link.turn + 3
      else board.channel.link.turn) + 2

def goesOff (light : Light) : Bool :=
  board.lightDue now light && !busy && board.channel.link.delivers (board.offTurn now light)

/-- All that an evaluation with the verdict changes. -/
inductive Carried (met left : Board) : Option AutoOffAction → Prop
  | displayOff :
      left = { met with display := left.display } →
      left.display.cells = { met.display.cells with on := false } →
      Carried met left (some .displayOff)
  | lightOff (light : Light) :
      left = { met with channel := left.channel, idle := light.engage met.idle } →
      met.channel.Delivered (.byte light.effect 0) left.channel →
      Carried met left (some light.offAction)
  | nothing :
      left = { met with channel := left.channel } → met.channel.Untouched left.channel →
      Carried met left none

variable {busy board}

/-- On a line that answers every question of the call alike, an evaluation does
the first thing that is due and comes through, and nothing halfway. -/
theorem autoOff_verdict (even : board.channel.Even busy) (now : Millis) :
    (board.autoOff now).1 =
        (if board.displayDue now then some .displayOff
        else if board.goesOff busy now .keys then some .rgbOff
        else if board.goesOff busy now .side then some .sideOff
        else none) ∧
      board.Carried (board.autoOff now).2 (board.autoOff now).1 := by
  have keys := AutoOff.attempt_tryOff even .rgbEffect board.idle.rgbOff board.settings.rgb.autoOff
    (board.idle.idleSecs now)
  simp only [autoOff, AutoOff.run, AutoOffTier.expired_eq] at keys ⊢
  generalize AutoOff.tryOff .rgbEffect board.idle.rgbOff board.settings.rgb.autoOff
    (board.idle.idleSecs now) board.channel = tried at *
  have even' : tried.2.Even busy := (congrArg Prod.fst keys.answers).trans even
  have side := AutoOff.attempt_tryOff even' .sideEffect board.idle.sideOff
    board.settings.side.autoOff (board.idle.idleSecs now)
  simp only [AutoOffTier.expired_eq] at side
  generalize AutoOff.tryOff .sideEffect board.idle.sideOff board.settings.side.autoOff
    (board.idle.idleSecs now) tried.2 = tried' at *
  have keysOff : board.goesOff busy now .keys = tried.1 := keys.success.symm
  have sideOff : board.goesOff busy now .side = tried'.1 := (keys.success_after side).symm
  rw [keysOff, sideOff]
  cases display : board.displayDue now with
  | true =>
    rw [displayDue] at display
    simp only [display, ↓reduceIte]
    exact ⟨trivial, .displayOff rfl rfl⟩
  | false =>
    rw [displayDue] at display
    simp only [display, Bool.false_eq_true, ↓reduceIte]
    cases keysOut : tried.1 with
    | true => exact ⟨rfl, .lightOff .keys rfl (keys.delivered keysOut)⟩
    | false =>
      have waited := keys.untouched keysOut
      cases sideOut : tried'.1 with
      | true => exact ⟨rfl, .lightOff .side rfl (waited.delivered (side.delivered sideOut))⟩
      | false => exact ⟨rfl, .nothing rfl (waited.trans (side.untouched sideOut))⟩

/-- Both lights are due, the line loses the first command, and a hue is parked. -/
def keysLost : Board where
  channel :=
    { link := { delivers := fun exchange => exchange != 2 }, parked := some (.byte .rgbHue 7) }
  store := Controller.erased
  sensor := {}
  clock := { readings := fun _ => 11000 }
  settings :=
    { Settings.factory with
      rgb := { Settings.factory.rgb with autoOff := .secs10 }
      side := { Settings.factory.side with autoOff := .secs10 } }
  idle := { lastActivity := 0 }

theorem autoOff_verdict_keysLost :
    keysLost.channel.Even false ∧ (keysLost.autoOff 11000).1 = some .sideOff ∧
      keysLost.Carried (keysLost.autoOff 11000).2 (some .sideOff) ∧
      (keysLost.autoOff 11000).2.idle.rgbOff = false ∧
      ScriptedLine.sent (keysLost.autoOff 11000).2.channel.link.log = [[20, 0]] ∧
      (keysLost.autoOff 11000).2.channel.parked = some (.byte .rgbHue 7) := by
  have even : keysLost.channel.Even false := rfl
  obtain ⟨verdict, carried⟩ := autoOff_verdict even 11000
  have side : (keysLost.autoOff 11000).1 = some .sideOff := verdict.trans (by decide +kernel)
  rw [side] at carried
  exact ⟨even, side, carried, by decide +kernel⟩

end Board

end KnobPanel
