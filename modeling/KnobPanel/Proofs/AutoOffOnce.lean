import KnobPanel.Proofs.Ticks

/-!
# The auto-off acts once

Between two inputs each light is switched off at most once, whatever the line
does. The display is the exception: a key that is still staged powers it on
again in the tick that switched it off, so the next tick switches it off anew.
-/

namespace KnobPanel

namespace AutoOffAction

def tier (settings : Settings) : AutoOffAction → AutoOffTier
  | displayOff => settings.oled.autoOff
  | rgbOff => settings.rgb.autoOff
  | sideOff => settings.side.autoOff

def isDone (lights : Lights) : AutoOffAction → Bool
  | displayOff => !lights.displayOn
  | rgbOff => lights.rgbOff
  | sideOff => lights.sideOff

end AutoOffAction

-- ---------------------------------------------------------------------------
-- One tick
-- ---------------------------------------------------------------------------

section
variable {idleSecs : Nat} {before after : Lights} {report : Option AutoOffAction}

theorem AutoOffStep.isDone (step : AutoOffStep idleSecs before report after)
    (action : AutoOffAction) :
    action.isDone after = (action.isDone before || report == some action) := by
  cases step with
  | displayOff on =>
    cases action <;> simp [AutoOffAction.isDone, on]
  | lightOff light off =>
    cases light <;> cases action <;> simp [AutoOffAction.isDone, Light.mark, Light.offAction]
  | nothing =>
    cases action <;> simp [AutoOffAction.isDone]

theorem AutoOffStep.due (step : AutoOffStep idleSecs before report after) {action : AutoOffAction}
    (acted : report = some action) :
    action.isDone before = false ∧ (action.tier before.settings).expired idleSecs = true := by
  cases step with
  | displayOff on due =>
    cases acted
    exact ⟨by simp [AutoOffAction.isDone, on], due⟩
  | lightOff light off due =>
    cases acted
    cases light <;> exact ⟨off, due⟩
  | nothing => cases acted

end

namespace Controller

theorem isDone_tick {controller : Controller}
    (asleep : controller.stagedLed = none ∨
      ∃ light : Light, controller.tick.1.autoOff = some light.offAction)
    (action : AutoOffAction) :
    action.isDone controller.tick.2.board.lights =
      (action.isDone controller.board.lights || controller.tick.1.autoOff == some action) := by
  obtain ⟨-, channel, lights, step, left⟩ := tick_asleep asleep
  rw [left, ← step.isDone action]
  cases action <;> rfl

theorem displayOn_tick {controller : Controller} (unstaged : controller.stagedLed = none) :
    controller.tick.2.board.displayOn =
      (controller.board.displayOn && controller.tick.1.autoOff != some .displayOff) := by
  have done := isDone_tick (.inl unstaged) .displayOff
  simp only [AutoOffAction.isDone, Board.lights] at done
  rw [← Bool.not_inj_iff, done]
  simp [bne]

/-- How often the action can still be performed: once it is done, only a key
that is still staged can undo it. -/
def credit (action : AutoOffAction) (controller : Controller) : Nat :=
  if controller.stagedLed = none ∧ action.isDone controller.board.lights = true then 0 else 1

def TickRecord.acts (action : AutoOffAction) (tick : TickRecord) : Bool :=
  tick.report.autoOff == some action

def TickRecord.DarkensUnstaged (tick : TickRecord) : Prop :=
  tick.acts .displayOff = true → tick.met.stagedLed = none

theorem credit_tick (action : AutoOffAction) (controller : Controller)
    (unstaged : action = .displayOff → controller.tick.1.autoOff = some .displayOff →
      controller.stagedLed = none) :
    credit action controller.tick.2 + (if controller.tick.1.autoOff = some action then 1 else 0) ≤
      credit action controller := by
  by_cases acted : controller.tick.1.autoOff = some action
  case pos =>
    -- the action was open before the tick and is done after it
    have asleep : controller.stagedLed = none ∨
        ∃ light : Light, controller.tick.1.autoOff = some light.offAction := by
      cases action with
      | displayOff => exact .inl (unstaged rfl acted)
      | rgbOff => exact .inr ⟨.keys, acted⟩
      | sideOff => exact .inr ⟨.side, acted⟩
    have done : action.isDone controller.tick.2.board.lights = true := by
      simp [isDone_tick asleep, acted]
    have undone := ((tick_step controller).due acted).1
    simp [credit, (tick_asleep asleep).1, done, undone, acted]
  case neg =>
    rw [if_neg acted, Nat.add_zero]
    -- a spent credit does not come back, because nothing is staged by a tick
    by_cases spent : controller.stagedLed = none ∧ action.isDone controller.board.lights = true
    case pos =>
      have done : action.isDone controller.tick.2.board.lights = true := by
        simp [isDone_tick (.inl spent.1), spent.2]
      simp [credit, (tick_asleep (.inl spent.1)).1, done]
    case neg =>
      rw [show credit action controller = 1 from if_neg spent, credit]
      split <;> omega

-- ---------------------------------------------------------------------------
-- Runs of ticks
-- ---------------------------------------------------------------------------

variable {moments : List Moment} {controller : Controller}

theorem mem_ticks {tick : TickRecord} (h : tick ∈ controller.ticks moments) :
    tick.report = tick.met.tick.1 ∧ tick.left = tick.met.tick.2 := by
  induction moments generalizing controller with
  | nil => cases h
  | cons moment moments ih =>
    rcases List.mem_cons.mp h with rfl | h
    · exact ⟨rfl, rfl⟩
    · exact ih h

theorem count_acts_le (action : AutoOffAction)
    (unstaged : action = .displayOff → ∀ tick ∈ controller.ticks moments, tick.DarkensUnstaged) :
    (controller.ticks moments).countP (·.acts action) ≤ credit action controller := by
  induction moments generalizing controller with
  | nil => exact Nat.zero_le _
  | cons moment moments ih =>
    have step := credit_tick action (controller.meet moment) fun h acted =>
      unstaged h _ List.mem_cons_self (by simpa [TickRecord.acts] using acted)
    have rest := ih fun h tick later => unstaged h tick (List.mem_cons_of_mem _ later)
    simp only [ticks, List.countP_cons, TickRecord.acts, beq_iff_eq] at rest ⊢
    have met : credit action (controller.meet moment) = credit action controller := rfl
    omega

theorem credit_le_one (action : AutoOffAction) (controller : Controller) :
    credit action controller ≤ 1 := by
  unfold credit
  split <;> omega

theorem count_lightOff_le_one (light : Light) (moments : List Moment) (controller : Controller) :
    (controller.ticks moments).countP (·.acts light.offAction) ≤ 1 := by
  refine Nat.le_trans (count_acts_le _ fun h => ?_) (credit_le_one _ controller)
  cases light <;> cases h

theorem autoOff_due {tick : TickRecord} (h : tick ∈ controller.ticks moments)
    {action : AutoOffAction} (acted : tick.acts action = true) :
    (action.tier tick.met.board.settings).Exceeded
      (tick.met.board.idle.idleSecs tick.met.now.1) := by
  simp only [TickRecord.acts, (mem_ticks h).1, beq_iff_eq] at acted
  exact AutoOffTier.expired_iff.mp ((tick_step tick.met).due acted).2

theorem stays_dark (unstaged : controller.stagedLed = none)
    (dark : controller.board.displayOn = false) :
    ∀ tick ∈ controller.ticks moments, tick.left.board.displayOn = false := by
  induction moments generalizing controller with
  | nil => simp [ticks]
  | cons moment moments ih =>
    have asleep : (controller.meet moment).stagedLed = none := unstaged
    have met : (controller.meet moment).board.displayOn = false := dark
    have left : (controller.meet moment).tick.2.board.displayOn = false := by
      rw [displayOn_tick asleep, met, Bool.false_and]
    intro tick h
    rcases List.mem_cons.mp h with rfl | h
    · exact left
    · exact ih (tick_asleep (.inl asleep)).1 left tick h

/-- The auto-off keeps its promise over a run of ticks. -/
structure ActsOnce (ticks : List TickRecord) : Prop where
  once : ∀ action : AutoOffAction, ticks.countP (·.acts action) ≤ 1
  due : ∀ tick ∈ ticks, ∀ action : AutoOffAction, tick.acts action = true →
    (action.tier tick.met.board.settings).Exceeded
      (tick.met.board.idle.idleSecs tick.met.now.1)
  /-- A display that was switched off stays off until the end. -/
  dark : ∀ tick rest, tick :: rest <:+ ticks → tick.acts .displayOff = true →
    ∀ later ∈ tick :: rest, later.left.board.displayOn = false

theorem darkened_dark (unstaged : ∀ tick ∈ controller.ticks moments, tick.DarkensUnstaged)
    {tick : TickRecord} {rest : List TickRecord} (h : tick :: rest <:+ controller.ticks moments)
    (acted : tick.acts .displayOff = true) :
    ∀ later ∈ tick :: rest, later.left.board.displayOn = false := by
  induction moments generalizing controller with
  | nil => simp [ticks] at h
  | cons moment moments ih =>
    rcases List.suffix_cons_iff.mp h with h | h
    · cases h
      simp only [TickRecord.acts, beq_iff_eq] at acted
      have asleep : (controller.meet moment).stagedLed = none :=
        unstaged _ List.mem_cons_self (by simpa [TickRecord.acts] using acted)
      have dark : (controller.meet moment).tick.2.board.displayOn = false := by
        simp [displayOn_tick asleep, acted]
      intro later mem
      rcases List.mem_cons.mp mem with rfl | mem
      · exact dark
      · exact stays_dark (tick_asleep (.inl asleep)).1 dark later mem
    · exact ih (fun tick mem => unstaged tick (List.mem_cons_of_mem _ mem)) h

/-- A run of ticks keeps the promise exactly when no key was staged at the
ticks that switched the display off. The lights go off once in any case. -/
theorem actsOnce_iff (moments : List Moment) (controller : Controller) :
    (ActsOnce (controller.ticks moments) ↔
        ∀ tick ∈ controller.ticks moments, tick.DarkensUnstaged) ∧
      ∀ light : Light, (controller.ticks moments).countP (·.acts light.offAction) ≤ 1 := by
  refine ⟨?_, fun light => count_lightOff_le_one light moments controller⟩
  constructor
  · intro kept tick mem acted
    obtain ⟨earlier, rest, run⟩ := List.append_of_mem mem
    have dark := kept.dark tick rest ⟨earlier, run.symm⟩ acted tick List.mem_cons_self
    obtain ⟨report, left⟩ := mem_ticks mem
    rw [TickRecord.acts, report, beq_iff_eq] at acted
    cases staged : tick.met.stagedLed with
    | none => rfl
    | some led =>
      rw [left, tick_displayOn staged acted] at dark
      cases dark
  · intro unstaged
    refine ⟨fun action => ?_, fun tick mem action => autoOff_due mem,
      fun tick rest => darkened_dark unstaged⟩
    exact Nat.le_trans (count_acts_le action fun _ => unstaged) (credit_le_one action controller)

/-- A key that the busy line does not take lights the display in every tick,
and every tick switches it off again. -/
def stuckKey : Controller :=
  let settings := { Settings.factory with oled := { Settings.factory.oled with autoOff := .secs10 } }
  ((started settings).step (.still 0 true) (.key ⟨4, ⟨2, 3⟩, true⟩)).2

theorem not_actsOnce_stuckKey :
    Reachable stuckKey ∧ ¬ActsOnce (stuckKey.ticks [.still 11000 true, .still 11000 true]) := by
  refine ⟨(reachable_started _).step _ _, fun kept => ?_⟩
  have twice : (stuckKey.ticks [.still 11000 true, .still 11000 true]).countP
      (·.acts .displayOff) = 2 := by decide +kernel
  have once := kept.once .displayOff
  omega

end Controller

end KnobPanel
