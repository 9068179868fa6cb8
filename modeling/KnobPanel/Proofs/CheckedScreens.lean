import KnobPanel.Proofs.CheckedArt
import KnobPanel.Proofs.CheckedMenus
import KnobPanel.Proofs.Coherence
import KnobPanel.Proofs.PomodoroPhases

/-!
# The screens in machine words

The dashboard and the pomodoro timer with their checks, and with the settings tree
every screen. A screen answers when an open menu is in order, the artwork is ready
for its next frame, and the timer keeps its range of minutes.
-/

namespace KnobPanel

-- ---------------------------------------------------------------------------
-- Pomodoro timer
-- ---------------------------------------------------------------------------

namespace Pomodoro

def start? (now : Millis) (timer : Pomodoro) : Option (Bool × Pomodoro) :=
  if timer.phase = .setTime then do
    let span ← Word.fit UInt32.size (timer.minutes * 60000)
    some (true, { timer with phase := .work, deadline := now + .ofNat span })
  else
    some (false, timer)

def remainingSecs? (now : Millis) (timer : Pomodoro) : Option Nat :=
  if timer.phase = .setTime then Word.fit UInt32.size (timer.minutes * 60)
  else some (timer.remainingSecs now)

section
variable {timer : Pomodoro} (short : timer.minutes ≤ maxMinutes) (now : Millis)
include short

theorem start?_eq : timer.start? now = some (timer.start now) := by
  simp only [maxMinutes] at short
  rw [start?, start, Word.fit_long (by omega)]
  split <;> rfl

theorem remainingSecs?_eq : timer.remainingSecs? now = some (timer.remainingSecs now) := by
  simp only [maxMinutes] at short
  rw [remainingSecs?, Word.fit_long (by omega)]
  split
  case isTrue setTime => rw [remainingSecs, setTime]
  case isFalse => rfl

theorem minutes_advance_le : (timer.advance now).2.minutes ≤ maxMinutes := by
  rw [minutes_advance]
  split
  · decide
  · exact short

theorem minutes_adjust_le (clockwise : Bool) : (timer.adjust clockwise).2.minutes ≤ maxMinutes := by
  unfold adjust
  split
  · exact Nat.max_le.mpr ⟨by decide, Nat.min_le_right _ _⟩
  · exact short

theorem minutes_start_le : (timer.start now).2.minutes ≤ maxMinutes := by
  unfold start
  split <;> exact short

theorem minutes_leave_le : (timer.leave now).2.minutes ≤ maxMinutes := by
  unfold leave
  split <;> exact short

end

end Pomodoro

namespace PomodoroScreen

def drawTimer? (now : Millis) (before : Pomodoro.Phase) (timer : Pomodoro) :
    Option (List DrawOp) := do
  let seconds ← timer.remainingSecs? now
  let clock := drawClock seconds
  some <|
    match timer.phase with
    | .setTime =>
      [.cursor 47 1, .text "Tomato Timer" false, .cursor 45 5, .text "Space:start" false,
        .cursor 45 6, .text "Rotate:adjust" false, .cursor 45 7, .text "Press:exit" false,
        .cursor 54 3] ++ clock
    | .work | .rest => if before = timer.phase then .cursor 54 5 :: clock else []
    | .idle | .flash => []

theorem drawTimer?_eq {timer : Pomodoro} (short : timer.minutes ≤ Pomodoro.maxMinutes)
    (now : Millis) (before : Pomodoro.Phase) :
    drawTimer? now before timer = some (drawTimer now before timer) := by
  rw [drawTimer?, Pomodoro.remainingSecs?_eq short]
  rfl

def draw? (board : Board) : Option (Bool × Board) := do
  let time := board.now
  let board := time.2
  let before := board.pomodoro.phase
  let ticked := board.pomodoro.advance time.1
  let first := if board.firstFrame then drawFirst before else []
  let timer ← drawTimer? time.1 before ticked.2
  some (ticked.1.redraw,
    { board with pomodoro := ticked.2 }.draw
      (first ++ drawEffects board.settings.oled.inverted ticked.1 ++ timer))

def onKey? (event : KeyEvent) (board : Board) : Option (Reaction × Board) :=
  if !event.pressed then
    some (.pass, board)
  else if event.keycode = escapeKeycode then
    some ({ propagate := true, route := some .dashboard }, leave board)
  else if event.keycode = spaceKeycode then do
    let time := board.now
    let started ← time.2.pomodoro.start? time.1
    some (if started.1 then { propagate := false, redraw := true } else .pass,
      { time.2 with pomodoro := started.2 })
  else
    some (.pass, board)

variable {board : Board} (short : board.pomodoro.minutes ≤ Pomodoro.maxMinutes)
include short

theorem draw?_eq : draw? board = some (draw board) := by
  have ticked : (board.now.2.pomodoro.advance board.now.1).2.minutes ≤ Pomodoro.maxMinutes :=
    Pomodoro.minutes_advance_le short _
  rw [draw?, drawTimer?_eq ticked]
  rfl

theorem onKey?_eq (event : KeyEvent) : onKey? event board = some (onKey event board) := by
  have started : board.now.2.pomodoro.start? board.now.1 =
      some (board.now.2.pomodoro.start board.now.1) := Pomodoro.start?_eq short _
  simp only [onKey?, onKey, started, Option.bind_eq_bind, Option.bind_some]
  split
  · rfl
  · split
    · rfl
    · split <;> rfl

theorem minutes_leave_le : (leave board).pomodoro.minutes ≤ Pomodoro.maxMinutes := by
  have left : (board.now.2.pomodoro.leave board.now.1).2.minutes ≤ Pomodoro.maxMinutes :=
    Pomodoro.minutes_leave_le short _
  simp only [leave]
  split <;> exact left

end PomodoroScreen

-- ---------------------------------------------------------------------------
-- Dashboard
-- ---------------------------------------------------------------------------

namespace HomeArt

def cycle? (forward : Bool) (art : HomeArt) : Option HomeArt := do
  let sum ← Word.fit UInt8.size (art.index.toNat + if forward then 1 else 3)
  some (.ofIndex (.ofNat (sum % 4)))

@[simp] theorem cycle?_eq (forward : Bool) (art : HomeArt) :
    art.cycle? forward = some (art.cycle forward) := by
  cases art <;> cases forward <;> rfl

end HomeArt

namespace ArtState

def draw? (trig : Trigonometry) (first : Bool) : ArtState → Option (List DrawOp × ArtState)
  | logo => some ([], logo)
  | bongo cat => do
    let drawn ← cat.draw? first
    some (drawn.1, bongo drawn.2)
  | cube spin => do
    let drawn ← spin.draw? trig first
    some (drawn.1, cube drawn.2)
  | space field => do
    let drawn ← field.draw? first
    some (drawn.1, space drawn.2)

/-- After at most so many frames, the cube has turned frame by frame; the stars are
placed, or the next frame is the first one and places them. -/
def Ready (frames : Nat) (first : Bool) : ArtState → Prop
  | logo | bongo _ => True
  | cube spin => ∃ n ≤ frames, spin = .after n
  | space field => field.Ready first

variable {trig : Trigonometry} {frames : Nat} {first : Bool} {art : ArtState}

theorem ready_ofArt (frames : Nat) (art : HomeArt) (seed : UInt32) :
    (ofArt art seed).Ready frames true := by
  cases art with
  | logo | bongoCat => trivial
  | cube => exact ⟨0, Nat.zero_le _, rfl⟩
  | space => exact StarField.ready_ofSeed seed

theorem draw?_eq (ready : art.Ready frames first)
    (inView : ∀ n ≤ frames + 1, (CubeSpin.after n).angles.InView trig) :
    art.draw? trig first = some (art.draw trig first) := by
  cases art with
  | logo => rfl
  | bongo cat => simp [draw?, draw]
  | cube spin =>
    obtain ⟨n, le, rfl⟩ := ready
    simp [draw?, draw, CubeSpin.draw?_eq (CubeSpin.reduced_after n)
      (inView (n + 1) (Nat.succ_le_succ le))]
  | space field =>
    have ready : field.Ready first := ready
    simp [draw?, draw, StarField.draw?_eq ready]

theorem Ready.draw (ready : art.Ready frames first) :
    (art.draw trig first).2.Ready (frames + 1) false := by
  cases art with
  | logo | bongo => trivial
  | cube spin =>
    obtain ⟨n, le, rfl⟩ := ready
    cases first with
    | true => exact ⟨0, Nat.zero_le _, rfl⟩
    | false => exact ⟨n + 1, Nat.succ_le_succ le, rfl⟩
  | space field => exact StarField.Ready.draw ready

end ArtState

namespace Dashboard

def pollSensor? (dashboard : Dashboard) (board : Board) : Option (Dashboard × Board) := do
  let frame := dashboard.sensorFrame
  let polled := dashboard.pollSensor board
  let sensorFrame ← (if lastFrame ≤ frame then some 0 else Word.fit UInt16.size (frame + 1))
  some ({ polled.1 with sensorFrame }, polled.2)

@[simp] theorem pollSensor?_eq (dashboard : Dashboard) (board : Board) :
    dashboard.pollSensor? board = some (dashboard.pollSensor board) := by
  have next : (if lastFrame ≤ dashboard.sensorFrame then some 0
      else Word.fit UInt16.size (dashboard.sensorFrame + 1)) =
        some (dashboard.pollSensor board).1.sensorFrame := by
    have cycle : lastFrame = 1100 := rfl
    rw [pollSensor_eq]
    simp only [polled, nextFrame]
    split
    case isTrue => rfl
    case isFalse early => exact Word.fit_short (by omega)
  simp only [pollSensor?, next, Option.bind_eq_bind, Option.bind_some]

def draw? (dashboard : Dashboard) (board : Board) : Option (Dashboard × Board) := do
  let first := board.firstFrame
  let art ← dashboard.art.draw? board.trig first
  if first then
    some ({ dashboard with sensorFrame := 0, shownLeds := none, art := art.2 },
      board.draw (dashboard.drawFirst ++ art.1))
  else
    let leds := board.lockLeds
    let drawn := if dashboard.shownLeds = some leds then [] else drawLeds leds
    let polled ←
      { dashboard with shownLeds := some leds, art := art.2 }.pollSensor?
        (board.draw (drawn ++ drawCounters board.keyRate))
    some (polled.1, polled.2.draw art.1)

theorem draw?_eq {frames : Nat} {dashboard : Dashboard} {board : Board}
    (ready : dashboard.art.Ready frames board.firstFrame)
    (inView : ∀ n ≤ frames + 1, (CubeSpin.after n).angles.InView board.trig) :
    dashboard.draw? board = some (dashboard.draw board) := by
  simp only [draw?, draw, ArtState.draw?_eq ready inView, pollSensor?_eq, Option.bind_eq_bind,
    Option.bind_some]
  split <;> rfl

def onRotate? (clockwise : Bool) (board : Board) : Option (Reaction × Board) :=
  if board.fnHeld then do
    let settings := board.settings
    let homeArt ← settings.homeArt.cycle? clockwise
    some (.go .dashboard, { board with settings := { settings with homeArt } })
  else
    some (.pass, board)

@[simp] theorem onRotate?_eq (clockwise : Bool) (board : Board) :
    onRotate? clockwise board = some (onRotate clockwise board) := by
  simp only [onRotate?, onRotate, HomeArt.cycle?_eq, Option.bind_eq_bind, Option.bind_some]
  split <;> rfl

def onKey? (event : KeyEvent) (dashboard : Dashboard) (board : Board) :
    Option (Reaction × Dashboard × Board) :=
  let board := if event.key = .function then { board with fnHeld := event.pressed } else board
  match dashboard.art with
  | .bongo cat => do
    let shown ← cat.onKey? event
    some (.pass, { dashboard with art := .bongo shown.2 }, board.draw shown.1)
  | _ => some (.pass, dashboard, board)

@[simp] theorem onKey?_eq (event : KeyEvent) (dashboard : Dashboard) (board : Board) :
    dashboard.onKey? event board = some (dashboard.onKey event board) := by
  obtain ⟨frame, climate, leds, art⟩ := dashboard
  cases art <;> simp [onKey?, onKey]

theorem ready_onKey {frames : Nat} {first : Bool} {dashboard : Dashboard}
    (ready : dashboard.art.Ready frames first) (event : KeyEvent) (board : Board) :
    (dashboard.onKey event board).2.1.art.Ready frames first := by
  obtain ⟨frame, climate, leds, art⟩ := dashboard
  cases art with
  | bongo cat => trivial
  | _ => exact ready

end Dashboard

-- ---------------------------------------------------------------------------
-- Screens
-- ---------------------------------------------------------------------------

structure Board.Bounded (trig : Trigonometry) (board : Board) : Prop where
  rate : board.keyRate.rate ≤ KeyRate.maxRate
  minutes : board.pomodoro.minutes ≤ Pomodoro.maxMinutes
  trig : board.trig = trig

namespace Screen

def Ready (frames : Nat) (first : Bool) : Screen → Prop
  | dashboard state => state.art.Ready frames first
  | menu _ _ | slider _ | pomodoro | help => True

def draw? (screen : Screen) (board : Board) : Option (Bool × Screen × Board) :=
  match screen with
  | dashboard state => do
    let drawn ← state.draw? board
    some (false, dashboard drawn.1, drawn.2)
  | menu kind state => do
    let ops ← state.draw?
    some (false, menu kind state, board.draw ops)
  | slider kind => do
    let ops ← kind.draw? board.settings
    some (false, slider kind, board.draw ops)
  | pomodoro => do
    let drawn ← PomodoroScreen.draw? board
    some (drawn.1, pomodoro, drawn.2)
  | help => some (help.draw board)

def onRotate? (clockwise : Bool) (screen : Screen) (board : Board) :
    Option (Reaction × Screen × Board) :=
  match screen with
  | dashboard state => do
    let turned ← Dashboard.onRotate? clockwise board
    some (turned.1, dashboard state, turned.2)
  | menu kind state => do
    let turned ← kind.onRotate? clockwise state board
    some (turned.1, menu kind turned.2.1, turned.2.2)
  | slider kind => do
    let turned ← kind.onRotate? clockwise board
    some (turned.1, slider kind, turned.2)
  | pomodoro | help => some (screen.onRotate clockwise board)

def onActivate? (screen : Screen) (board : Board) : Option (Reaction × Board) :=
  match screen with
  | menu kind state => kind.onActivate? state.cursor board
  | dashboard _ | slider _ | pomodoro | help => some (screen.onActivate board)

def onKey? (listener : Listener) (event : KeyEvent) (screen : Screen) (board : Board) :
    Option (Reaction × Screen × Board) :=
  match listener, screen with
  | .dashboard, dashboard state => do
    let reacted ← state.onKey? event board
    some (reacted.1, dashboard reacted.2.1, reacted.2.2)
  | .dashboard, _ => some (.pass, screen, board)
  | .pomodoro, _ => do
    let reacted ← PomodoroScreen.onKey? event board
    some (reacted.1, screen, reacted.2)

variable {screen : Screen} {board : Board}

theorem length_items_of_opened {kind : MenuKind} {state : Menu} (opened : (menu kind state).Opened) :
    state.count ≤ 16 := by
  rw [Menu.count, opened.1]
  exact kind.length_items_le

section
variable (opened : screen.Opened)
include opened

theorem draw?_eq {frames : Nat} (ready : screen.Ready frames board.firstFrame)
    (short : board.pomodoro.minutes ≤ Pomodoro.maxMinutes)
    (inView : ∀ n ≤ frames + 1, (CubeSpin.after n).angles.InView board.trig) :
    screen.draw? board = some (screen.draw board) := by
  cases screen with
  | dashboard state => simp [draw?, draw, Dashboard.draw?_eq ready inView]
  | menu kind state =>
    simp [draw?, draw, Menu.draw?_eq opened.2 (length_items_of_opened opened)]
  | slider kind => simp [draw?, draw]
  | pomodoro => simp [draw?, draw, PomodoroScreen.draw?_eq short]
  | help => rfl

theorem onRotate?_eq (clockwise : Bool) :
    screen.onRotate? clockwise board = some (screen.onRotate clockwise board) := by
  cases screen with
  | dashboard state => simp [onRotate?, onRotate]
  | menu kind state =>
    simp [onRotate?, onRotate, MenuKind.onRotate?_eq opened.2 (length_items_of_opened opened)]
  | slider kind => simp [onRotate?, onRotate]
  | pomodoro | help => rfl

theorem onActivate?_eq : screen.onActivate? board = some (screen.onActivate board) := by
  cases screen with
  | menu kind state =>
    have inside := opened.2.cursor_lt
    have short := length_items_of_opened opened
    exact MenuKind.onActivate?_eq (by omega) kind board
  | _ => rfl

end

theorem onKey?_eq (short : board.pomodoro.minutes ≤ Pomodoro.maxMinutes) (listener : Listener)
    (event : KeyEvent) :
    screen.onKey? listener event board = some (screen.onKey listener event board) := by
  cases listener with
  | dashboard => cases screen <;> simp [onKey?, onKey]
  | pomodoro => simp [onKey?, onKey, PomodoroScreen.onKey?_eq short]

theorem Ready.draw {frames : Nat} (ready : screen.Ready frames board.firstFrame) :
    (screen.draw board).2.1.Ready (frames + 1) (screen.draw board).1 := by
  cases screen with
  | dashboard state =>
    have art : (state.art.draw board.trig board.firstFrame).2.Ready (frames + 1) false :=
      ArtState.Ready.draw ready
    rw [← Dashboard.art_draw] at art
    exact art
  | _ => trivial

section
variable {frames : Nat} {first : Bool} (ready : screen.Ready frames first)
include ready

theorem Ready.redraw : screen.Ready frames true := by
  cases screen with
  | dashboard state =>
    obtain ⟨frame, climate, leds, art⟩ := state
    cases art with
    | space field => exact ⟨ready.full, nofun⟩
    | _ => exact ready
  | _ => trivial

theorem ready_onRotate (clockwise : Bool) (board : Board) :
    (screen.onRotate clockwise board).2.1.Ready frames first := by
  cases screen <;> exact ready

theorem ready_onKey (listener : Listener) (event : KeyEvent) (board : Board) :
    (screen.onKey listener event board).2.1.Ready frames first := by
  cases listener with
  | dashboard =>
    cases screen with
    | dashboard state => exact Dashboard.ready_onKey ready event board
    | _ => exact ready
  | pomodoro => exact ready

end

section
variable {trig : Trigonometry} (screen) (bounded : board.Bounded trig)
include bounded

theorem bounded_draw : (screen.draw board).2.2.Bounded trig := by
  obtain ⟨_, _, _, _, drawn⟩ := screen.draw_frame board
  have minutes : (screen.draw board).2.2.pomodoro.minutes ≤ Pomodoro.maxMinutes := by
    cases screen with
    | pomodoro => exact Pomodoro.minutes_advance_le bounded.minutes _
    | _ => rw [pomodoro_draw (by simp [place])]; exact bounded.minutes
  rw [drawn] at minutes ⊢
  exact ⟨bounded.rate, minutes, bounded.trig⟩

theorem bounded_onRotate (clockwise : Bool) :
    (screen.onRotate clockwise board).2.2.Bounded trig := by
  obtain ⟨_, _, _, _, turned⟩ := screen.onRotate_frame board clockwise
  have minutes : (screen.onRotate clockwise board).2.2.pomodoro.minutes ≤ Pomodoro.maxMinutes := by
    cases screen with
    | pomodoro => exact Pomodoro.minutes_adjust_le bounded.minutes clockwise
    | _ => rw [pomodoro_onRotate (by simp [place])]; exact bounded.minutes
  rw [turned] at minutes ⊢
  exact ⟨bounded.rate, minutes, bounded.trig⟩

theorem bounded_onActivate : (screen.onActivate board).2.Bounded trig := by
  obtain ⟨_, _, _, _, _, acted⟩ := screen.onActivate_frame board
  have minutes : (screen.onActivate board).2.pomodoro.minutes ≤ Pomodoro.maxMinutes := by
    cases screen with
    | pomodoro => exact PomodoroScreen.minutes_leave_le bounded.minutes
    | _ => rw [pomodoro_onActivate (by simp [place])]; exact bounded.minutes
  rw [acted] at minutes ⊢
  exact ⟨bounded.rate, minutes, bounded.trig⟩

theorem bounded_onKey (listener : Listener) (event : KeyEvent) :
    (screen.onKey listener event board).2.2.Bounded trig := by
  obtain ⟨_, _, _, _, acted⟩ := screen.onKey_frame board listener event
  have minutes : (screen.onKey listener event board).2.2.pomodoro.minutes ≤
      Pomodoro.maxMinutes := by
    cases listener with
    | dashboard => rw [pomodoro_onKey_dashboard]; exact bounded.minutes
    | pomodoro =>
      simp only [onKey, PomodoroScreen.onKey]
      split
      · exact bounded.minutes
      · split
        · exact PomodoroScreen.minutes_leave_le bounded.minutes
        · split
          · exact Pomodoro.minutes_start_le bounded.minutes _
          · exact bounded.minutes
  rw [acted] at minutes ⊢
  exact ⟨bounded.rate, minutes, bounded.trig⟩

end

end Screen

end KnobPanel
