import KnobPanel.Proofs.Traffic

/-!
# History of a channel

A run of sends and drains, call by call. The line decides how a call ends; from
that alone follows what the slot holds, which command a drain brings to the
controller, and when that command is out of date.
-/

namespace KnobPanel

namespace ScriptedLine

variable (log : List Exchange) (bytes : List UInt8)

@[simp] theorem sent_query (busy : Bool) : sent (.query busy :: log) = sent log := rfl

@[simp] theorem sent_lost : sent (.transmit bytes false :: log) = sent log := rfl

@[simp] theorem sent_delivered : sent (.transmit bytes true :: log) = sent log ++ [bytes] := by
  simp [sent]

end ScriptedLine

namespace Channel

inductive Call where
  | send (command : Command)
  | drain
  deriving DecidableEq

def perform (call : Call) (channel : Channel ScriptedLine) : Channel ScriptedLine :=
  match call with
  | .send command => (channel.send command).2
  | .drain => channel.drain.2

structure CallRecord where
  call : Call
  met : Channel ScriptedLine
  left : Channel ScriptedLine

def history : List Call → Channel ScriptedLine → List CallRecord
  | [], _ => []
  | call :: calls, channel =>
    { call, met := channel, left := channel.perform call } :: history calls (channel.perform call)

-- ---------------------------------------------------------------------------
-- One call
-- ---------------------------------------------------------------------------

namespace CallRecord

variable (command : Command) (record : CallRecord)

def delivered : List (List UInt8) :=
  (ScriptedLine.sent record.left.link.log).drop (ScriptedLine.sent record.met.link.log).length

def Sends (answer : Except Fault Unit) : Prop :=
  record.call = .send command ∧ (record.met.send command).1 = answer

def Parks : Prop := record.Sends command (.error .lightingBusy)

def Drains : Prop := record.call = .drain ∧ record.delivered = [command.wire]

/-- The command went out, or a later one of its opcode did. -/
def Settles : Prop :=
  record.Drains command ∨
    ∃ newer : Command, newer.opcode = command.opcode ∧ record.Sends newer (.ok ())

inductive Ends : Prop
  | parked (command : Command) :
      record.Parks command → record.left.parked = some command → record.delivered = [] → Ends
  | sent (command : Command) :
      record.Sends command (.ok ()) → record.left.parked = settled command record.met.parked →
      record.delivered = [command.wire] → Ends
  | lost (command : Command) :
      record.Sends command (.error .bus) → record.left.parked = record.met.parked →
      record.delivered = [] → Ends
  | idle :
      record.call = .drain → record.left.parked = record.met.parked → record.delivered = [] → Ends
  | drained (command : Command) :
      record.call = .drain → record.met.parked = some command → record.left.parked = none →
      record.delivered = [command.wire] → Ends

variable {command record} {newer : Command} {answer other : Except Fault Unit}

theorem Sends.command_eq (sends : record.Sends command answer)
    (sends' : record.Sends newer other) : command = newer :=
  Call.send.inj (sends.1.symm.trans sends'.1)

theorem Sends.answer_eq (sends : record.Sends command answer)
    (sends' : record.Sends newer other) : answer = other := by
  obtain rfl := sends.command_eq sends'
  exact sends.2.symm.trans sends'.2

theorem Sends.not_drain (sends : record.Sends command answer) : record.call ≠ .drain := by
  intro drain
  rw [sends.1] at drain
  cases drain

theorem ends_perform (call : Call) (channel : Channel ScriptedLine) :
    Ends { call, met := channel, left := channel.perform call } := by
  cases call with
  | send command =>
    rcases send_cases command channel with ⟨-, sent⟩ | ⟨-, taken, sent⟩ | ⟨-, taken, sent⟩
    · refine .parked command ⟨rfl, by rw [sent]⟩ ?_ ?_ <;>
        simp [delivered, perform, sent, isBusy, Link.isBusy]
    · refine .sent command ⟨rfl, by rw [sent]⟩ ?_ ?_ <;>
        simp_all [delivered, perform, isBusy, Link.isBusy, Link.transmit]
    · refine .lost command ⟨rfl, by rw [sent]⟩ ?_ ?_ <;>
        simp_all [delivered, perform, isBusy, Link.isBusy, Link.transmit]
  | drain =>
    cases parked : channel.parked with
    | none => refine .idle rfl ?_ ?_ <;> simp [delivered, perform, drain, parked]
    | some command =>
      rcases drain_cases parked with ⟨-, sent⟩ | ⟨-, taken, sent⟩ | ⟨-, taken, sent⟩
      · refine .idle rfl ?_ ?_ <;> simp [delivered, perform, sent, isBusy, Link.isBusy]
      · refine .drained command rfl parked ?_ ?_ <;>
          simp_all [delivered, perform, isBusy, Link.isBusy, Link.transmit]
      · refine .idle rfl ?_ ?_ <;>
          simp_all [delivered, perform, isBusy, Link.isBusy, Link.transmit]

theorem Ends.parked_left_iff (ends : record.Ends) :
    record.left.parked = some command ↔
      record.Parks command ∨
        record.met.parked = some command ∧ (∀ newer, ¬record.Parks newer) ∧
          ¬record.Settles command := by
  cases ends with
  | parked newer parks slot _ =>
    constructor
    · intro waits
      obtain rfl := Option.some.inj (slot.symm.trans waits)
      exact .inl parks
    · rintro (parks' | ⟨-, unparked, -⟩)
      · rw [slot, parks.command_eq parks']
      · exact absurd parks (unparked newer)
  | sent newer sends slot _ =>
    have unparked (newer' : Command) : ¬record.Parks newer' := by
      intro parks
      cases parks.answer_eq sends
    have settles : record.Settles command ↔ command.opcode = newer.opcode := by
      constructor
      · rintro (⟨drain, -⟩ | ⟨newer', same, sends'⟩)
        · exact absurd drain sends.not_drain
        · rw [sends.command_eq sends', same]
      · intro same
        exact .inr ⟨newer, same.symm, sends⟩
    rw [slot, settles, settled, Option.filter_eq_some_iff]
    simp [unparked]
  | lost newer sends slot _ =>
    have unparked (newer' : Command) : ¬record.Parks newer' := by
      intro parks
      cases parks.answer_eq sends
    have unsettled : ¬record.Settles command := by
      rintro (⟨drain, -⟩ | ⟨newer', -, sends'⟩)
      · exact sends.not_drain drain
      · cases sends.answer_eq sends'
    simp [slot, unparked, unsettled]
  | idle drain slot nothing =>
    have unparked (newer' : Command) : ¬record.Parks newer' := fun parks => parks.not_drain drain
    have unsettled : ¬record.Settles command := by
      rintro (⟨-, brought⟩ | ⟨newer', -, sends'⟩)
      · rw [nothing] at brought
        cases brought
      · exact sends'.not_drain drain
    simp [slot, unparked, unsettled]
  | drained waiting drain found slot brought =>
    have unparked (newer' : Command) : ¬record.Parks newer' := fun parks => parks.not_drain drain
    constructor
    · intro waits
      rw [slot] at waits
      cases waits
    · rintro (parks | ⟨waited, -, unsettled⟩)
      · exact absurd parks (unparked command)
      · obtain rfl := Option.some.inj (found.symm.trans waited)
        exact absurd (.inl ⟨drain, brought⟩) unsettled

theorem Ends.parked_met (ends : record.Ends) (drains : record.Drains command) :
    record.met.parked = some command := by
  obtain ⟨drain, brought⟩ := drains
  cases ends with
  | parked _ parks => exact absurd drain parks.not_drain
  | sent _ sends => exact absurd drain sends.not_drain
  | lost _ sends => exact absurd drain sends.not_drain
  | idle _ _ nothing =>
    rw [nothing] at brought
    cases brought
  | drained waiting _ found _ brought' =>
    rw [brought', List.singleton_inj] at brought
    rw [found, Command.wire_inj brought]

end CallRecord

-- ---------------------------------------------------------------------------
-- Runs of calls
-- ---------------------------------------------------------------------------

section
variable {calls : List Call} {channel : Channel ScriptedLine} {record next : CallRecord}

theorem history_ends (found : record ∈ history calls channel) : record.Ends := by
  induction calls generalizing channel with
  | nil => cases found
  | cons call calls ih =>
    rcases List.mem_cons.mp found with rfl | found
    · exact CallRecord.ends_perform call channel
    · exact ih found

theorem met_history_zero (found : (history calls channel)[0]? = some record) :
    record.met = channel := by
  cases calls with
  | nil => cases found
  | cons call calls =>
    cases found
    rfl

theorem met_history_succ {n : Nat} (found : (history calls channel)[n]? = some record)
    (after : (history calls channel)[n + 1]? = some next) : next.met = record.left := by
  induction calls generalizing channel n with
  | nil => cases found
  | cons call calls ih =>
    cases n with
    | zero =>
      cases found
      exact met_history_zero after
    | succ n => exact ih found after

end

/-- Of the first `n` calls, `i` is the last one whose send was answered busy. -/
structure LastParked (records : List CallRecord) (n i : Nat) (command : Command) : Prop where
  lt : i < n
  parks : ∃ record, records[i]? = some record ∧ record.Parks command
  last : ∀ k record newer, i < k → k < n → records[k]? = some record → ¬record.Parks newer

def Unsettled (records : List CallRecord) (n i : Nat) (command : Command) : Prop :=
  ∀ k record, i < k → k < n → records[k]? = some record → ¬record.Settles command

/-- Call `j` brings the command that call `i` issued to the controller. What a
drain brings counts for the send that was parked last. -/
inductive Transmits (records : List CallRecord) : Nat → Nat → Command → Prop
  | sent {i : Nat} {record : CallRecord} {command : Command} :
      records[i]? = some record → record.call = .send command →
      record.delivered = [command.wire] → Transmits records i i command
  | drained {i j : Nat} {record : CallRecord} {command : Command} :
      LastParked records j i command → records[j]? = some record → record.Drains command →
      Transmits records i j command

section
variable {records : List CallRecord} {n i j i' j' : Nat} {command newer : Command}

theorem LastParked.unique (parked : LastParked records n i command)
    (parked' : LastParked records n i' newer) : i = i' ∧ command = newer := by
  obtain ⟨record, found, parks⟩ := parked.parks
  obtain ⟨record', found', parks'⟩ := parked'.parks
  rcases Nat.lt_trichotomy i i' with before | rfl | after
  · exact absurd parks' (parked.last i' record' newer before parked'.lt found')
  · obtain rfl := Option.some.inj (found.symm.trans found')
    exact ⟨rfl, parks.command_eq parks'⟩
  · exact absurd parks (parked'.last i record command after parked.lt found)

theorem waits_succ_iff {record : CallRecord} (found : records[n]? = some record) :
    (∃ i, LastParked records (n + 1) i command ∧ Unsettled records (n + 1) i command) ↔
      record.Parks command ∨
        (∃ i, LastParked records n i command ∧ Unsettled records n i command) ∧
          (∀ newer, ¬record.Parks newer) ∧ ¬record.Settles command := by
  constructor
  · rintro ⟨i, ⟨lt, ⟨first, found', parks⟩, last⟩, unsettled⟩
    rcases Nat.lt_succ_iff_lt_or_eq.mp lt with before | rfl
    · refine .inr ⟨⟨i, ⟨before, ⟨first, found', parks⟩, ?_⟩, ?_⟩, ?_, ?_⟩
      · intro k later newer after earlier
        exact last k later newer after (by omega)
      · intro k later after earlier
        exact unsettled k later after (by omega)
      · exact fun newer => last n record newer before (by omega) found
      · exact unsettled n record before (by omega) found
    · obtain rfl := Option.some.inj (found.symm.trans found')
      exact .inl parks
  · rintro (parks | ⟨⟨i, ⟨lt, parks, last⟩, unsettled⟩, unparked, kept⟩)
    · refine ⟨n, ⟨by omega, ⟨record, found, parks⟩, ?_⟩, ?_⟩
      · intro k later newer after earlier
        omega
      · intro k later after earlier
        omega
    · refine ⟨i, ⟨by omega, parks, ?_⟩, ?_⟩
      · intro k later newer after earlier found'
        rcases Nat.lt_succ_iff_lt_or_eq.mp earlier with earlier | rfl
        · exact last k later newer after earlier found'
        · obtain rfl := Option.some.inj (found.symm.trans found')
          exact unparked newer
      · intro k later after earlier found'
        rcases Nat.lt_succ_iff_lt_or_eq.mp earlier with earlier | rfl
        · exact unsettled k later after earlier found'
        · obtain rfl := Option.some.inj (found.symm.trans found')
          exact kept

end

variable {line : ScriptedLine} {calls : List Call}

theorem parked_met_iff {n : Nat} {record : CallRecord} {command : Command}
    (found : (history calls { link := line })[n]? = some record) :
    record.met.parked = some command ↔
      ∃ i, LastParked (history calls { link := line }) n i command ∧
        Unsettled (history calls { link := line }) n i command := by
  induction n generalizing record with
  | zero =>
    rw [met_history_zero found]
    refine iff_of_false (by simp) ?_
    rintro ⟨i, parked, -⟩
    exact absurd parked.lt (Nat.not_lt_zero i)
  | succ n ih =>
    have lt := (List.getElem?_eq_some_iff.mp found).1
    obtain ⟨earlier, found'⟩ : ∃ earlier, (history calls { link := line })[n]? = some earlier :=
      ⟨_, List.getElem?_eq_getElem (by omega)⟩
    have ends := history_ends (List.mem_of_getElem? found')
    rw [met_history_succ found' found, ends.parked_left_iff, ih found', waits_succ_iff found']

theorem unsettled_of_drains {i j : Nat} {record : CallRecord} {command : Command}
    (parked : LastParked (history calls { link := line }) j i command)
    (found : (history calls { link := line })[j]? = some record) (drains : record.Drains command) :
    Unsettled (history calls { link := line }) j i command := by
  have slot := (history_ends (List.mem_of_getElem? found)).parked_met drains
  obtain ⟨i', parked', unsettled⟩ := (parked_met_iff found).mp slot
  obtain ⟨rfl, -⟩ := parked.unique parked'
  exact unsettled

-- ---------------------------------------------------------------------------
-- Order of what is brought
-- ---------------------------------------------------------------------------

theorem CallRecord.Ends.sends_of_delivered {record : CallRecord} {command : Command}
    (ends : record.Ends) (sends : record.call = .send command)
    (brought : record.delivered ≠ []) : record.Sends command (.ok ()) := by
  cases ends with
  | parked _ _ _ nothing => exact absurd nothing brought
  | sent newer sends' =>
    obtain rfl := Call.send.inj (sends.symm.trans sends'.1)
    exact sends'
  | lost _ _ _ nothing => exact absurd nothing brought
  | idle drain =>
    rw [sends] at drain
    cases drain
  | drained _ drain =>
    rw [sends] at drain
    cases drain

section
variable {i j i' j' : Nat} {command command' : Command}

theorem Transmits.le {records : List CallRecord} (sent : Transmits records i j command) :
    i ≤ j := by
  cases sent with
  | sent => exact Nat.le_refl _
  | drained parked => exact Nat.le_of_lt parked.lt

theorem not_transmits_later
    (sent : Transmits (history calls { link := line }) i j command)
    (again : Transmits (history calls { link := line }) i j' command') : ¬j < j' := by
  intro later
  have le := sent.le
  cases again with
  | sent => omega
  | drained parked found drains =>
    obtain ⟨first, found', parks⟩ := parked.parks
    cases sent with
    | sent found₁ sends brought =>
      -- what went out at once was not parked
      obtain rfl := Option.some.inj (found₁.symm.trans found')
      have taken := (history_ends (List.mem_of_getElem? found₁)).sends_of_delivered sends
        (by simp [brought])
      cases taken.answer_eq parks
    | drained parked₁ found₁ drains₁ =>
      -- the first drain has settled it
      obtain ⟨first₁, found₁', parks₁⟩ := parked₁.parks
      obtain rfl := Option.some.inj (found₁'.symm.trans found')
      obtain rfl := parks₁.command_eq parks
      exact unsettled_of_drains parked found drains j _ parked₁.lt later found₁ (.inl drains₁)

theorem transmits_once (sent : Transmits (history calls { link := line }) i j command)
    (again : Transmits (history calls { link := line }) i j' command') : j = j' := by
  have first := not_transmits_later sent again
  have second := not_transmits_later again sent
  omega

theorem transmits_inOrder (sent : Transmits (history calls { link := line }) i j command)
    (newer : Transmits (history calls { link := line }) i' j' command')
    (same : command.opcode = command'.opcode) (issued : i < i') : j < j' := by
  have le := newer.le
  cases sent with
  | sent => omega
  | drained parked found drains =>
    have unsettled := unsettled_of_drains parked found drains
    refine Nat.not_le.mp fun late => ?_
    cases newer with
    | sent found' sends brought =>
      -- the newer one went out while the older one waited, which settles that
      have taken := (history_ends (List.mem_of_getElem? found')).sends_of_delivered sends
        (by simp [brought])
      have before : i' ≠ j := by
        rintro rfl
        obtain rfl := Option.some.inj (found.symm.trans found')
        exact taken.not_drain drains.1
      exact unsettled i' _ issued (by omega) found' (.inr ⟨_, same.symm, taken⟩)
    | drained parked' =>
      obtain ⟨record, found', parks⟩ := parked'.parks
      have lt := parked'.lt
      exact parked.last i' record _ issued (by omega) found' parks

end

theorem transmits_of_delivered {j : Nat} {record : CallRecord}
    (found : (history calls { link := line })[j]? = some record) :
    record.delivered = [] ∨ ∃ i command, Transmits (history calls { link := line }) i j command := by
  cases history_ends (List.mem_of_getElem? found) with
  | parked _ _ _ nothing => exact .inl nothing
  | sent command sends _ brought => exact .inr ⟨j, command, .sent found sends.1 brought⟩
  | lost _ _ _ nothing => exact .inl nothing
  | idle _ _ nothing => exact .inl nothing
  | drained command drain waiting _ brought =>
    obtain ⟨i, parked, -⟩ := (parked_met_iff found).mp waiting
    exact .inr ⟨i, command, .drained parked found ⟨drain, brought⟩⟩

theorem parked_left_iff {n : Nat} {record : CallRecord} {command : Command}
    (found : (history calls { link := line })[n]? = some record) :
    record.left.parked = some command ↔
      ∃ i, LastParked (history calls { link := line }) (n + 1) i command ∧
        Unsettled (history calls { link := line }) (n + 1) i command := by
  have ends := history_ends (List.mem_of_getElem? found)
  rw [ends.parked_left_iff, parked_met_iff found, waits_succ_iff found]

/-- What becomes of the commands of a run. -/
structure HistoryLaw (records : List CallRecord) : Prop where
  issued : ∀ j record, records[j]? = some record →
    record.delivered = [] ∨ ∃ i command, Transmits records i j command
  once : ∀ i j j' command command',
    Transmits records i j command → Transmits records i j' command' → j = j'
  inOrder : ∀ i j i' j' command command',
    Transmits records i j command → Transmits records i' j' command' →
    command.opcode = command'.opcode → i < i' → j < j'
  slot : ∀ n record command, records[n]? = some record →
    (record.left.parked = some command ↔
      ∃ i, LastParked records (n + 1) i command ∧ Unsettled records (n + 1) i command)

/-- Every issued command reaches the controller at most once, those of one
opcode in the order they were issued, and the slot holds the command parked last
until it is settled. -/
theorem history_law (line : ScriptedLine) (calls : List Call) :
    HistoryLaw (history calls { link := line }) where
  issued _ _ := transmits_of_delivered
  once _ _ _ _ _ := transmits_once
  inOrder _ _ _ _ _ _ := transmits_inOrder
  slot _ _ _ := parked_left_iff

-- ---------------------------------------------------------------------------
-- Commands out of date
-- ---------------------------------------------------------------------------

/-- No call from `i` to `j` issued a newer command of the opcode. -/
def Newest (records : List CallRecord) (i j : Nat) (command : Command) : Prop :=
  ∀ k record newer, i < k → k < j → records[k]? = some record → record.call = .send newer →
    newer.opcode ≠ command.opcode

/-- What a drain brings to the controller is the newest command of its opcode. -/
def DrainsNewest (records : List CallRecord) : Prop :=
  ∀ i j record command, LastParked records j i command → records[j]? = some record →
    record.Drains command → Newest records i j command

theorem sends_lost_of_drains {i j k : Nat} {record between : CallRecord} {command newer : Command}
    (parked : LastParked (history calls { link := line }) j i command)
    (found : (history calls { link := line })[j]? = some record) (drains : record.Drains command)
    (after : i < k) (before : k < j)
    (found' : (history calls { link := line })[k]? = some between)
    (sends : between.call = .send newer) (same : newer.opcode = command.opcode) :
    between.Sends newer (.error .bus) := by
  have unsettled := unsettled_of_drains parked found drains k between after before found'
  cases history_ends (List.mem_of_getElem? found') with
  | parked other parks => exact absurd parks (parked.last k between other after before found')
  | sent other sends' =>
    obtain rfl := Call.send.inj (sends.symm.trans sends'.1)
    exact absurd (.inr ⟨newer, same, sends'⟩) unsettled
  | lost other sends' =>
    obtain rfl := Call.send.inj (sends.symm.trans sends'.1)
    exact sends'
  | idle drain =>
    rw [sends] at drain
    cases drain
  | drained _ drain =>
    rw [sends] at drain
    cases drain

/-- Drains bring the newest commands exactly when, while a command waits, no
send of its opcode is lost on the line. -/
theorem drainsNewest_iff (line : ScriptedLine) (calls : List Call) :
    DrainsNewest (history calls { link := line }) ↔
      ∀ i j record command, LastParked (history calls { link := line }) j i command →
        (history calls { link := line })[j]? = some record → record.Drains command →
        ∀ k between newer, i < k → k < j →
          (history calls { link := line })[k]? = some between →
          between.Sends newer (.error .bus) → newer.opcode ≠ command.opcode := by
  constructor
  · intro newest i j record command parked found drains k between newer after before found' sends
    exact newest i j record command parked found drains k between newer after before found' sends.1
  · intro kept i j record command parked found drains k between newer after before found' sends same
    have lost := sends_lost_of_drains parked found drains after before found' sends same
    exact kept i j record command parked found drains k between newer after before found' lost same

/-- A hue waits, the next one is lost on the line, and the drain after that
brings the first one. -/
def lostHue : List CallRecord :=
  history [.send (.byte .rgbHue 1), .send (.byte .rgbHue 2), .drain]
    { link := { busy := fun turn => turn == 0, delivers := fun turn => turn != 2 } }

theorem not_drainsNewest_lostHue : ¬DrainsNewest lostHue := by
  intro newest
  have parked : LastParked lostHue 2 0 (.byte .rgbHue 1) := by
    refine ⟨by omega, ⟨_, rfl, rfl, rfl⟩, ?_⟩
    intro k record newer after before found parks
    obtain rfl : k = 1 := by omega
    cases found
    cases parks.2
  exact newest 0 2 _ _ parked rfl ⟨rfl, by decide⟩ 1 _ _ (by omega) (by omega) rfl rfl rfl

end Channel

end KnobPanel
