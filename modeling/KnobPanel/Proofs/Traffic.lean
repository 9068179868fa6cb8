import KnobPanel.Proofs.Lights

/-!
# What the lights were last told

The lighting controller never answers, so what a light shows is what the line
last delivered to it. Each operation of the channel is described by that and by
the slot it leaves.
-/

namespace KnobPanel

@[simp] theorem Command.opcode_byte (opcode : Opcode) (value : UInt8) :
    (byte opcode value).opcode = opcode := rfl

@[simp] theorem Command.payload_byte (opcode : Opcode) (value : UInt8) :
    (byte opcode value).payload = [value] := rfl

def Exchange.delivery (opcode : Opcode) : Exchange → Option (List UInt8)
  | .transmit (code :: payload) true => if code = opcode.code then some payload else none
  | _ => none

theorem Exchange.delivery_wire (opcode : Opcode) (command : Command) :
    (transmit command.wire true).delivery opcode =
      if command.opcode = opcode then some command.payload else none := by
  simp only [delivery, Command.wire]
  by_cases h : command.opcode = opcode
  · rw [if_pos h, if_pos (by rw [h])]
  · rw [if_neg h, if_neg fun code => h (Opcode.code_inj code)]

/-- The line gives one answer to every query of a call and delivers whatever it
takes. -/
structure ScriptedLine.Steady (busy : Bool) (line : ScriptedLine) : Prop where
  busy_eq : line.busy = fun _ => busy
  delivers_eq : line.delivers = fun _ => true

namespace Channel

variable (command : Command) (channel : Channel ScriptedLine)

def lastSent (opcode : Opcode) (channel : Channel ScriptedLine) : Option (List UInt8) :=
  channel.link.log.findSome? (·.delivery opcode)

-- ---------------------------------------------------------------------------
-- Queries
-- ---------------------------------------------------------------------------

@[simp] theorem lastSent_isBusy (opcode : Opcode) :
    channel.isBusy.2.lastSent opcode = channel.lastSent opcode := rfl

@[simp] theorem parked_isBusy : channel.isBusy.2.parked = channel.parked := rfl

-- ---------------------------------------------------------------------------
-- Sending
-- ---------------------------------------------------------------------------

theorem settled_some (older : Command) :
    settled command (some older) = if older.opcode = command.opcode then none else some older := by
  simp only [settled, Option.filter, bne_iff_ne, ne_eq, ite_not]

theorem settled_cases (parked : Option Command) :
    settled command parked = parked ∨ settled command parked = none := by
  cases parked with
  | none => exact .inl rfl
  | some older =>
    rw [settled_some]
    split
    · exact .inr rfl
    · exact .inl rfl

theorem send_cases :
    channel.isBusy.1 = true ∧
        channel.send command =
          (.error .lightingBusy, { channel.isBusy.2 with parked := some command }) ∨
      channel.isBusy.1 = false ∧
        channel.isBusy.2.link.delivers channel.isBusy.2.link.turn = true ∧
        channel.send command =
          (.ok (),
            { link := (Link.transmit command.wire channel.isBusy.2.link).2
              parked := settled command channel.parked }) ∨
      channel.isBusy.1 = false ∧
        channel.isBusy.2.link.delivers channel.isBusy.2.link.turn = false ∧
        channel.send command =
          (.error .bus,
            { channel.isBusy.2 with
              link := (Link.transmit command.wire channel.isBusy.2.link).2 }) := by
  cases busy : channel.link.busy channel.link.turn with
  | true => simp [send, isBusy, Link.isBusy, busy]
  | false =>
    cases delivers : channel.link.delivers (channel.link.turn + 1) <;>
      simp [send, isBusy, Link.isBusy, Link.transmit, busy, delivers]

theorem lastSent_transmit (opcode : Opcode) (line : ScriptedLine) (parked : Option Command) :
    lastSent opcode { link := (Link.transmit command.wire line).2, parked } =
      if line.delivers line.turn ∧ command.opcode = opcode then
        some command.payload
      else
        lastSent opcode { link := line } := by
  simp only [lastSent, Link.transmit, List.findSome?_cons]
  cases line.delivers line.turn with
  | true =>
    rw [Exchange.delivery_wire]
    split <;> simp_all
  | false => simp [Exchange.delivery]

theorem lastSent_send (opcode : Opcode) :
    (channel.send command).2.lastSent opcode =
      if (channel.send command).1.isOk ∧ command.opcode = opcode then
        some command.payload
      else
        channel.lastSent opcode := by
  rcases send_cases command channel with ⟨-, sent⟩ | ⟨-, delivers, sent⟩ | ⟨-, delivers, sent⟩
  · rw [sent]
    rfl
  · rw [sent, lastSent_transmit, delivers]
    rfl
  · rw [sent, lastSent_transmit, delivers]
    simp [Except.isOk, Except.toBool]
    rfl

-- ---------------------------------------------------------------------------
-- Draining
-- ---------------------------------------------------------------------------

theorem drain_cases {command : Command} {channel : Channel ScriptedLine}
    (parked : channel.parked = some command) :
    channel.isBusy.1 = true ∧ channel.drain = (false, channel.isBusy.2) ∨
      channel.isBusy.1 = false ∧
        channel.isBusy.2.link.delivers channel.isBusy.2.link.turn = true ∧
        channel.drain =
          (true, { link := (Link.transmit command.wire channel.isBusy.2.link).2 }) ∨
      channel.isBusy.1 = false ∧
        channel.isBusy.2.link.delivers channel.isBusy.2.link.turn = false ∧
        channel.drain =
          (true,
            { channel.isBusy.2 with
              link := (Link.transmit command.wire channel.isBusy.2.link).2 }) := by
  cases busy : channel.link.busy channel.link.turn with
  | true => simp [drain, isBusy, Link.isBusy, busy, parked]
  | false =>
    cases delivers : channel.link.delivers (channel.link.turn + 1) <;>
      simp [drain, isBusy, Link.isBusy, Link.transmit, busy, delivers, parked]

theorem lastSent_drain (opcode : Opcode) :
    channel.drain.2.lastSent opcode =
      match channel.parked with
      | none => channel.lastSent opcode
      | some command =>
        if channel.drain.2.parked = none ∧ command.opcode = opcode then
          some command.payload
        else
          channel.lastSent opcode := by
  cases parked : channel.parked with
  | none => simp only [drain, parked]
  | some command =>
    -- only the delivering end leaves the slot empty
    rcases drain_cases parked with ⟨-, drained⟩ | ⟨-, delivers, drained⟩ | ⟨-, delivers, drained⟩
    · simp [drained, parked]
    · rw [drained, lastSent_transmit, delivers]
      simp
      rfl
    · rw [drained, lastSent_transmit, delivers]
      simp [parked]
      rfl

-- ---------------------------------------------------------------------------
-- A steady line
-- ---------------------------------------------------------------------------

variable {channel} {busy : Bool}

theorem isBusy_of_steady (steady : channel.link.Steady busy) : channel.isBusy.1 = busy := by
  simp only [isBusy, Link.isBusy, steady.busy_eq]

theorem steady_isBusy (steady : channel.link.Steady busy) : channel.isBusy.2.link.Steady busy :=
  ⟨steady.busy_eq, steady.delivers_eq⟩

theorem steady_send (steady : channel.link.Steady busy) :
    (channel.send command).2.link.Steady busy := by
  rcases send_cases command channel with ⟨-, sent⟩ | ⟨-, -, sent⟩ | ⟨-, -, sent⟩ <;>
    exact sent ▸ ⟨steady.busy_eq, steady.delivers_eq⟩

theorem isOk_send (steady : channel.link.Steady busy) :
    (channel.send command).1.isOk = !busy := by
  have answer := isBusy_of_steady steady
  rcases send_cases command channel with ⟨met, sent⟩ | ⟨met, -, sent⟩ | ⟨-, lost, -⟩
  · rw [sent, ← answer, met]
    rfl
  · rw [sent, ← answer, met]
    rfl
  · simp [isBusy, Link.isBusy, steady.delivers_eq] at lost

theorem parked_send (steady : channel.link.Steady busy) :
    (channel.send command).2.parked =
      if busy then some command else settled command channel.parked := by
  have answer := isBusy_of_steady steady
  rcases send_cases command channel with ⟨met, sent⟩ | ⟨met, -, sent⟩ | ⟨-, lost, -⟩
  · rw [sent, ← answer, met]
    rfl
  · rw [sent, ← answer, met]
    rfl
  · simp [isBusy, Link.isBusy, steady.delivers_eq] at lost

theorem parked_drain (steady : channel.link.Steady busy) :
    channel.drain.2.parked = if busy then channel.parked else none := by
  have answer := isBusy_of_steady steady
  cases parked : channel.parked with
  | none => simp [drain, parked]
  | some command =>
    rcases drain_cases parked with ⟨met, drained⟩ | ⟨met, -, drained⟩ | ⟨-, lost, -⟩
    · rw [drained, ← answer, met]
      exact parked
    · rw [drained, ← answer, met]
      rfl
    · simp [isBusy, Link.isBusy, steady.delivers_eq] at lost

theorem lastSent_drain_of_ne {opcode : Opcode}
    (other : ∀ command, channel.parked = some command → command.opcode ≠ opcode) :
    channel.drain.2.lastSent opcode = channel.lastSent opcode := by
  rw [lastSent_drain]
  split
  case h_1 => rfl
  case h_2 command parked => exact if_neg fun sent => other command parked sent.2

theorem lastSent_drain_of_parked (steady : channel.link.Steady busy)
    {command : Command} (parked : channel.parked = some command) :
    channel.drain.2.lastSent command.opcode =
      if busy then channel.lastSent command.opcode else some command.payload := by
  rw [lastSent_drain, parked_drain steady, parked]
  cases busy <;> simp

/-- A send and then a drain. A busy line keeps the new command only; a free one
takes it, and the parked one after it unless that is stale. -/
theorem lastSent_send_drain (steady : channel.link.Steady busy) (opcode : Opcode) :
    (channel.send command).2.drain.2.lastSent opcode =
      if busy then channel.lastSent opcode
      else if command.opcode = opcode then some command.payload
      else channel.drain.2.lastSent opcode := by
  have ok := isOk_send command steady
  have sent := lastSent_send command channel opcode
  rw [lastSent_drain, parked_drain (steady_send command steady), parked_send command steady]
  cases busy with
  | true => simp [sent, ok]
  | false =>
    rw [lastSent_drain, parked_drain steady]
    cases parked : channel.parked with
    | none => simp [sent, ok, settled]
    | some older =>
      -- a stale command leaves the slot before the drain could send it
      simp only [settled_some, sent, ok]
      by_cases stale : older.opcode = command.opcode
      case pos => by_cases own : command.opcode = opcode <;> simp [stale, own]
      case neg =>
        by_cases own : command.opcode = opcode
        case pos => simp [own ▸ stale, own]
        case neg => simp [stale, own]

end Channel

end KnobPanel
