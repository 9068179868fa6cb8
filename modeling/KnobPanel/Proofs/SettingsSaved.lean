import KnobPanel.Proofs.Frames
import KnobPanel.Proofs.SaveOutcomes

/-!
# The settings are saved on the way out

Values change on the sliders and lists of the settings tree and are saved on the
way back through it: on entering the settings and the lighting menu, and with
the choice of an artwork. On a store without faults no way leads past that to
the screens outside, so there the store holds the settings, on the dashboard all
of them but the artwork, which turning with the function key held changes
without saving.
-/

namespace KnobPanel

-- ---------------------------------------------------------------------------
-- A store without faults
-- ---------------------------------------------------------------------------

def FlatStore.Faultless (store : FlatStore) : Prop :=
  ∀ turn access, store.faulty turn access = false

theorem FlatStore.Trail.faultless {accesses : List Access} {before after : FlatStore}
    (way : Trail accesses before after) (faultless : before.Faultless) :
    ¬before.MetFault after ∧ after.Faultless := by
  constructor
  · rintro ⟨i, access, -, failed⟩
    exact Bool.noConfusion ((faultless _ access).symm.trans failed)
  · intro turn access
    rw [way.faulty]
    exact faultless turn access

namespace Record

open StoreM (exec)
open FlatStore

variable {store : FlatStore}

def loaded (store : FlatStore) : Except Fault (Option Settings) := (exec load store).1

theorem loaded_of_loads {found : Option Settings} (faultless : store.Faultless)
    (loads : Loads store.memory found) : loaded store = .ok found := by
  obtain ⟨accesses, way, -⟩ := writing_load.trail store
  exact loads store rfl (way.faultless faultless).1

theorem loaded_eq (faultless : store.Faultless) : loaded store = .ok (held store.memory) :=
  loaded_of_loads faultless (loads_held store.memory)

theorem save_ok (faultless : store.Faultless) {settings : Settings} (inRange : settings.InRange) :
    (exec (save settings) store).2.Faultless ∧
      loaded (exec (save settings) store).2 = .ok (some settings) := by
  obtain ⟨accesses, way, -⟩ := (writing_save settings).trail store
  rcases saves : exec (save settings) store with ⟨answer, after⟩
  rw [saves] at way
  obtain ⟨granted, faultless⟩ := way.faultless faultless
  obtain ⟨stored, -⟩ := save_granted saves granted
  refine ⟨faultless, loaded_of_loads faultless ?_⟩
  rw [stored]
  exact loads_stored inRange store.memory

theorem loadOrInit_ok (faultless : store.Faultless) :
    (loadOrInit store).1.InRange ∧ (loadOrInit store).2.Faultless ∧
      loaded (loadOrInit store).2 = .ok (some (loadOrInit store).1) := by
  obtain ⟨accesses, way⟩ := trail_loadOrInit store
  obtain ⟨granted, faultless⟩ := way.faultless faultless
  exact ⟨inRange_loadOrInit store, faultless,
    loaded_of_loads faultless (loadOrInit_granted granted)⟩

end Record

-- ---------------------------------------------------------------------------
-- Values in range
-- ---------------------------------------------------------------------------

namespace SliderKind

theorem step_le {kind : SliderKind} {value : UInt8} (le : value ≤ kind.limit) (clockwise : Bool) :
    kind.step clockwise value ≤ kind.limit := by
  unfold step
  split
  case isTrue wraps =>
    have whole : kind.limit = 255 := by
      cases kind <;> first | rfl | cases wraps
    rw [whole]
    exact byte_le _
  case isFalse =>
    cases clockwise with
    | true =>
      simp only [↓reduceIte]
      split
      case isTrue below =>
        rw [UInt8.lt_iff_toNat_lt] at below
        have := UInt8.toNat_lt kind.limit
        rw [UInt8.le_iff_toNat_le, UInt8.toNat_add, UInt8.toNat_one]
        omega
      case isFalse => exact UInt8.le_refl _
    | false =>
      simp only [Bool.false_eq_true, ↓reduceIte]
      split
      case isTrue zero => rwa [zero] at le
      case isFalse nonzero =>
        rw [UInt8.le_iff_toNat_le] at le ⊢
        have pos : value.toNat ≠ 0 := fun zero => nonzero (UInt8.toNat_inj.mp zero)
        have := UInt8.toNat_lt value
        rw [UInt8.toNat_sub, UInt8.toNat_one]
        omega

theorem value_put_of_ne {kind other : SliderKind} (ne : kind ≠ other) (value : UInt8)
    (settings : Settings) : kind.value (other.put value settings) = kind.value settings := by
  cases kind <;> cases other <;> first | rfl | exact absurd rfl ne

end SliderKind

namespace Settings

variable {settings : Settings}

theorem inRange_iff : settings.InRange ↔ ∀ kind : SliderKind, kind.value settings ≤ kind.limit := by
  constructor
  · intro inRange kind
    cases kind with
    | rgbSpeed => exact inRange.rgbSpeed
    | rgbBrightness => exact inRange.rgbBrightness
    | sideBrightness => exact inRange.sideBrightness
    | sideSpeed => exact inRange.sideSpeed
    | rgbHue1 | rgbHue2 | rgbSaturation | oledBrightness => exact byte_le _
  · intro le
    exact ⟨le .rgbBrightness, le .rgbSpeed, le .sideBrightness, le .sideSpeed⟩

/-- Only the sliders can leave the range. -/
theorem InRange.of_value_eq {other : Settings} (inRange : settings.InRange)
    (same : ∀ kind : SliderKind, kind.value other = kind.value settings) : other.InRange := by
  rw [inRange_iff] at inRange ⊢
  intro kind
  rw [same kind]
  exact inRange kind

theorem InRange.slider (inRange : settings.InRange) (clockwise : Bool) (kind : SliderKind) :
    (kind.put (kind.step clockwise (kind.value settings)) settings).InRange := by
  rw [inRange_iff] at inRange ⊢
  intro other
  by_cases same : other = kind
  · obtain rfl := same
    rw [SliderKind.value_put]
    exact SliderKind.step_le (inRange other) clockwise
  · rw [SliderKind.value_put_of_ne same]
    exact inRange other

end Settings

namespace MenuKind

variable {board : Board}

theorem inRange_chooseTier (inRange : board.settings.InRange) (row : Nat) (kind : MenuKind) :
    (kind.chooseTier row board).settings.InRange := by
  unfold chooseTier
  split
  · exact inRange
  · refine inRange.of_value_eq fun slider => ?_
    cases kind <;> cases slider <;> rfl

theorem inRange_preview (inRange : board.settings.InRange) (row : Nat) (kind : MenuKind) :
    (kind.preview row board).settings.InRange := by
  cases kind with
  | rgbEffect | sideEffect =>
    simp only [preview]
    split
    · exact inRange
    · exact inRange.of_value_eq fun kind => by cases kind <;> rfl
  | _ => exact inRange

end MenuKind

theorem Screen.inRange_onRotate {board : Board} (inRange : board.settings.InRange)
    (clockwise : Bool) (screen : Screen) :
    (screen.onRotate clockwise board).2.2.settings.InRange := by
  cases screen with
  | dashboard state =>
    simp only [onRotate, Dashboard.onRotate]
    split
    · exact inRange.of_value_eq fun kind => by cases kind <;> rfl
    · exact inRange
  | menu kind state =>
    simp only [onRotate, MenuKind.onRotate]
    split
    · exact inRange
    · exact MenuKind.inRange_preview inRange _ kind
  | slider kind =>
    have turned := inRange.slider clockwise kind
    simp only [onRotate, SliderKind.onRotate]
    split <;> exact turned
  | pomodoro => exact inRange
  | help => exact inRange

-- ---------------------------------------------------------------------------
-- What is saved where
-- ---------------------------------------------------------------------------

def Route.saves : Route → Bool
  | .menu kind => kind.savesOnEntry
  | _ => false

namespace Board

/-- What a load gives while the screen of a route is shown. Nothing is promised
on the screens that change values. -/
def SavedAt (board : Board) : Route → Prop
  | .menu .settings | .menu .rgb | .menu .artwork | .pomodoro | .help =>
    Record.loaded board.store = .ok (some board.settings)
  | .dashboard =>
    ∃ homeArt, Record.loaded board.store = .ok (some { board.settings with homeArt })
  | _ => True

/-- A save loses nothing, and what has to be saved at the place is. -/
structure Safe (board : Board) (place : Route) : Prop where
  inRange : board.settings.InRange
  faultless : board.store.Faultless
  saved : board.SavedAt place

structure SafeAfter (board : Board) (place : Route) (reaction : Reaction) : Prop where
  inRange : board.settings.InRange
  faultless : board.store.Faultless
  stays : reaction.route = none → board.SavedAt place
  leaves : ∀ route, reaction.route = some route → route.saves = true ∨ board.SavedAt route

variable {board : Board} {place route : Route}

theorem savedAt_of_loaded (loaded : Record.loaded board.store = .ok (some board.settings))
    (place : Route) : board.SavedAt place := by
  cases place with
  | menu kind => cases kind <;> first | exact loaded | trivial
  | slider kind => trivial
  | dashboard => exact ⟨board.settings.homeArt, loaded⟩
  | pomodoro => exact loaded
  | help => exact loaded

theorem Safe.stay (safe : board.Safe place) {reaction : Reaction} (stays : reaction.route = none) :
    board.SafeAfter place reaction where
  inRange := safe.inRange
  faultless := safe.faultless
  stays _ := safe.saved
  leaves route leaves := by
    rw [stays] at leaves
    cases leaves

theorem SafeAfter.go (inRange : board.settings.InRange) (faultless : board.store.Faultless)
    (saved : route.saves = true ∨ board.SavedAt route) : board.SafeAfter place (.go route) where
  inRange := inRange
  faultless := faultless
  stays stays := by cases stays
  leaves route' leaves := by
    cases leaves
    exact saved

-- unfolded by simp, since comparing the boards by evaluation would run the save
theorem settings_saveSettings (board : Board) : board.saveSettings.settings = board.settings := by
  simp only [saveSettings]

theorem store_saveSettings (board : Board) :
    board.saveSettings.store = (StoreM.exec (Record.save board.settings) board.store).2 := by
  simp only [saveSettings, StoreM.exec]

theorem safe_saveSettings (inRange : board.settings.InRange) (faultless : board.store.Faultless)
    (place : Route) : board.saveSettings.Safe place := by
  obtain ⟨faultless, loaded⟩ := Record.save_ok faultless inRange
  rw [← store_saveSettings] at faultless loaded
  rw [← settings_saveSettings] at inRange loaded
  exact ⟨inRange, faultless, savedAt_of_loaded loaded place⟩

theorem Safe.chooseArt (safe : board.Safe (.menu .artwork)) (row : Nat) (place : Route) :
    (MenuKind.chooseArt row board).Safe place := by
  obtain ⟨inRange, faultless, loaded⟩ := safe
  unfold MenuKind.chooseArt
  split
  · exact ⟨inRange, faultless, savedAt_of_loaded loaded place⟩
  · apply safe_saveSettings
    · exact inRange.of_value_eq fun kind => by cases kind <;> rfl
    · exact faultless

theorem SafeAfter.chooseTier (inRange : board.settings.InRange) (faultless : board.store.Faultless)
    (row : Nat) (kind : MenuKind) (saved : (Route.menu kind.parent).saves = true ∨
      ∀ board : Board, board.SavedAt (.menu kind.parent)) :
    (kind.chooseTier row board).SafeAfter place (.go (.menu kind.parent)) := by
  have stored : (kind.chooseTier row board).store = board.store := by
    unfold MenuKind.chooseTier
    split <;> rfl
  refine .go (MenuKind.inRange_chooseTier inRange row kind) ?_ ?_
  · rw [stored]
    exact faultless
  · rcases saved with saves | always
    · exact .inl saves
    · exact .inr (always _)

theorem Safe.onActivateMenu {kind : MenuKind} (safe : board.Safe (.menu kind)) (row : Nat) :
    (kind.onActivate row board).2.SafeAfter (.menu kind) (kind.onActivate row board).1 := by
  obtain ⟨inRange, faultless, saved⟩ := safe
  cases kind with
  | settings | rgb => exact .go inRange faultless (.inr (savedAt_of_loaded saved _))
  | oled =>
    simp only [MenuKind.onActivate]
    split
    · exact .go inRange faultless (.inr trivial)
    · have toggled : (MenuKind.toggleInversion board).settings.InRange :=
        inRange.of_value_eq fun kind => by cases kind <;> rfl
      apply Safe.stay
      · exact ⟨toggled, faultless, trivial⟩
      · rfl
    · exact .go inRange faultless (.inr trivial)
    · exact .go inRange faultless (.inl rfl)
  | side =>
    refine .go inRange faultless ?_
    split <;> first | exact .inl rfl | exact .inr trivial
  | rgbEffect => exact .go inRange faultless (.inl rfl)
  | sideEffect => exact .go inRange faultless (.inr trivial)
  | rgbAutoOff => exact .chooseTier inRange faultless row .rgbAutoOff (.inl rfl)
  | oledAutoOff => exact .chooseTier inRange faultless row .oledAutoOff (.inr fun _ => trivial)
  | sideAutoOff => exact .chooseTier inRange faultless row .sideAutoOff (.inr fun _ => trivial)
  | artwork =>
    obtain ⟨chosen, faultless, saved⟩ := Safe.chooseArt ⟨inRange, faultless, saved⟩ row .dashboard
    exact .go chosen faultless (.inr saved)

theorem Safe.onActivate {screen : Screen} (safe : board.Safe screen.place) :
    (screen.onActivate board).2.SafeAfter screen.place (screen.onActivate board).1 := by
  cases screen with
  | dashboard state => exact .go safe.inRange safe.faultless (.inl rfl)
  | menu kind state => exact safe.onActivateMenu state.cursor
  | slider kind =>
    refine .go safe.inRange safe.faultless ?_
    cases kind <;> first | exact .inl rfl | exact .inr trivial
  | pomodoro =>
    obtain ⟨inRange, faultless, loaded⟩ := safe
    obtain ⟨_, _, _, left⟩ := PomodoroScreen.leave_frame board
    simp only [Screen.onActivate, left]
    exact .go inRange faultless (.inr ⟨board.settings.homeArt, loaded⟩)
  | help => exact .go safe.inRange safe.faultless (.inr (savedAt_of_loaded safe.saved _))

theorem Safe.onRotate {screen : Screen} (safe : board.Safe screen.place) (clockwise : Bool) :
    (screen.onRotate clockwise board).2.2.SafeAfter screen.place
      (screen.onRotate clockwise board).1 := by
  have inRange := Screen.inRange_onRotate safe.inRange clockwise screen
  have faultless : (screen.onRotate clockwise board).2.2.store.Faultless := by
    obtain ⟨_, _, _, _, turned⟩ := screen.onRotate_frame board clockwise
    rw [turned]
    exact safe.faultless
  cases screen with
  | dashboard state =>
    obtain ⟨homeArt, loaded⟩ := safe.saved
    simp only [Screen.onRotate, Dashboard.onRotate] at inRange faultless ⊢
    split
    case isTrue held =>
      rw [if_pos held] at inRange
      exact .go inRange safe.faultless (.inr ⟨homeArt, loaded⟩)
    case isFalse => exact safe.stay rfl
  | menu kind state =>
    refine Safe.stay ⟨inRange, faultless, ?_⟩ rfl
    -- only the effect lists change a value, and they promise nothing
    cases kind with
    | rgbEffect | sideEffect => trivial
    | _ =>
      simp only [Screen.onRotate, MenuKind.onRotate, MenuKind.preview, ite_self]
      exact safe.saved
  | slider kind =>
    apply Safe.stay
    · exact ⟨inRange, faultless, trivial⟩
    · rfl
  | pomodoro =>
    apply Safe.stay
    · exact ⟨inRange, faultless, safe.saved⟩
    · simp only [Screen.onRotate, PomodoroScreen.onRotate]
      split <;> rfl
  | help => exact safe.stay rfl

theorem Safe.onKey {screen : Screen} {listener : Listener} (safe : board.Safe screen.place)
    (heard : screen.place.listener? = some listener) (event : KeyEvent) :
    (screen.onKey listener event board).2.2.SafeAfter screen.place
      (screen.onKey listener event board).1 := by
  obtain ⟨inRange, faultless, saved⟩ := safe
  obtain ⟨_, _, _, _, reacted⟩ := screen.onKey_frame board listener event
  rw [reacted]
  cases screen with
  | dashboard state =>
    cases heard
    apply Safe.stay
    · exact ⟨inRange, faultless, saved⟩
    · simp only [Screen.onKey, Dashboard.onKey]
      split <;> rfl
  | pomodoro =>
    cases heard
    refine ⟨inRange, faultless, fun _ => saved, ?_⟩
    intro route leaves
    have loaded := savedAt_of_loaded saved route
    exact .inr loaded
  | _ => cases heard

end Board

-- ---------------------------------------------------------------------------
-- Runs
-- ---------------------------------------------------------------------------

def Moment.Faultless (moment : Moment) : Prop :=
  ∀ turn access, moment.storeFaulty turn access = false

namespace Route

theorem eq_settings_of_autoReturn? {place : Route} {secs : Nat}
    (returns : place.autoReturn? = some secs) : place = .menu .settings := by
  cases place with
  | menu kind => cases kind <;> first | rfl | cases returns
  | _ => cases returns

end Route

namespace Controller

def Safe (controller : Controller) : Prop := controller.board.Safe controller.screen.place

variable {controller : Controller}

theorem safe_go {route : Route} (inRange : controller.board.settings.InRange)
    (faultless : controller.board.store.Faultless)
    (saved : route.saves = true ∨ controller.board.SavedAt route) :
    (controller.go route).Safe := by
  cases route with
  | menu kind =>
    simp only [go]
    cases saves : kind.savesOnEntry with
    | true =>
      have safe := Board.safe_saveSettings inRange faultless (.menu kind)
      simp only [↓reduceIte]
      generalize controller.board.saveSettings = board at safe ⊢
      exact ⟨safe.inRange, safe.faultless, safe.saved⟩
    | false =>
      rcases saved with saves' | saved
      · cases saves.symm.trans saves'
      · exact ⟨inRange, faultless, saved⟩
  | dashboard | slider _ | pomodoro | help =>
    rcases saved with saves | saved
    · cases saves
    · exact ⟨inRange, faultless, saved⟩

theorem safe_react {reaction : Reaction}
    (after : controller.board.SafeAfter controller.screen.place reaction) :
    (controller.react reaction).2.Safe := by
  obtain ⟨inRange, faultless, stays, leaves⟩ := after
  unfold react
  cases route : reaction.route with
  | none =>
    simp only
    split <;> exact ⟨inRange, faultless, stays route⟩
  | some route' =>
    have saved := leaves route' route
    simp only
    split <;> exact safe_go inRange faultless saved

theorem safe_tick (safe : controller.Safe) (placed : controller.Placed) :
    controller.tick.2.Safe := by
  obtain ⟨inRange, faultless, saved⟩ := safe
  cases returned : controller.tick.1.returned with
  | true =>
    obtain ⟨due, went⟩ := controller.tick_go returned
    rw [went]
    cases armed : controller.board.idle.autoReturn with
    | none =>
      rw [IdleTimers.returnDue, armed] at due
      cases due
    | some secs =>
      -- the return is armed in the settings menu only, where all is saved
      have place := Route.eq_settings_of_autoReturn? (placed.autoReturn.symm.trans armed)
      rw [place] at saved
      exact safe_go inRange faultless (.inr ⟨controller.board.settings.homeArt, saved⟩)
  | false =>
    obtain ⟨_, _, _, _, _, _, _, _, _, _, _, kept, ticked⟩ := controller.tick_frame returned
    rw [← kept] at saved
    rw [ticked]
    exact ⟨inRange, faultless, saved⟩

theorem KeyStep.safe {event : KeyEvent} {met : Controller} {outcome : Bool × Controller}
    (step : KeyStep event met outcome) (safe : met.Safe) (placed : met.Placed) :
    outcome.2.Safe := by
  cases step with
  | unheard => exact safe
  | activated => exact safe_react (Board.Safe.onActivate safe)
  | heard listener _ heard =>
    have acted := Board.Safe.onKey safe (placed.listener.symm.trans heard) event
    rw [← met.screen.place_onKey met.board listener event] at acted
    exact safe_react acted

theorem safe_handleKey (safe : controller.Safe) (placed : controller.Placed) (event : KeyEvent) :
    (controller.handleKey event).2.Safe := by
  have noted : (controller.noted event).Safe := ⟨safe.inRange, safe.faultless, safe.saved⟩
  have placed : (controller.noted event).Placed := ⟨placed.listener, placed.autoReturn⟩
  exact (controller.handleKey_step event).safe noted placed

theorem safe_turnScreen {reaction : Reaction} (safe : controller.Safe)
    (stays : reaction.route = none) (clockwise : Bool) (steps : Nat) :
    (controller.turnScreen clockwise steps reaction).2.board.SafeAfter
      (controller.turnScreen clockwise steps reaction).2.screen.place
      (controller.turnScreen clockwise steps reaction).1 := by
  induction steps generalizing reaction controller with
  | zero => exact Board.Safe.stay safe stays
  | succ steps ih =>
    have turned := Board.Safe.onRotate safe clockwise
    rw [← controller.screen.place_onRotate controller.board clockwise] at turned
    unfold turnScreen
    simp only
    split
    · exact turned
    · rename_i stays'
      have stays' := Option.not_isSome_iff_eq_none.mp stays'
      exact ih ⟨turned.inRange, turned.faultless, turned.stays stays'⟩ stays'

theorem safe_handleRotate (safe : controller.Safe) (clockwise : Bool) :
    (controller.handleRotate clockwise).2.Safe := by
  refine safe_react (safe_turnScreen ?_ rfl _ _)
  exact ⟨safe.inRange, safe.faultless, safe.saved⟩

theorem safe_handle (safe : controller.Safe) (placed : controller.Placed) (event : HostEvent) :
    (controller.handle event).2.Safe := by
  cases event with
  | tick => exact safe_tick safe placed
  | key event => exact safe_handleKey safe placed event
  | rotate clockwise => exact safe_handleRotate safe clockwise
  | poll => exact ⟨safe.inRange, safe.faultless, safe.saved⟩
  | lockLeds leds => exact ⟨safe.inRange, safe.faultless, safe.saved⟩

theorem safe_meet {moment : Moment} (safe : controller.Safe) (faultless : moment.Faultless) :
    (controller.meet moment).Safe := by
  obtain ⟨inRange, answered, saved⟩ := safe
  have answers : (controller.meet moment).board.store.Faultless := faultless
  have stored : Record.loaded (controller.meet moment).board.store =
      Record.loaded controller.board.store := by
    rw [Record.loaded_eq answered, Record.loaded_eq answers]
    rfl
  refine ⟨inRange, answers, ?_⟩
  change (controller.meet moment).board.SavedAt controller.screen.place
  unfold Board.SavedAt at saved ⊢
  rw [stored]
  exact saved

theorem safe_start {moment : Moment} (faultless : moment.Faultless) (store : FlatStore) :
    (start moment store).Safe := by
  have answering : { store with faulty := moment.storeFaulty, turn := 0 }.Faultless := faultless
  obtain ⟨inRange, faultless, loaded⟩ := Record.loadOrInit_ok answering
  unfold start
  simp only
  generalize Record.loadOrInit { store with faulty := moment.storeFaulty, turn := 0 } = found
    at inRange faultless loaded ⊢
  exact safe_go inRange faultless (.inr ⟨found.1.homeArt, loaded⟩)

theorem safe_run {calls : List (Moment × HostEvent)} (safe : controller.Safe)
    (placed : controller.Placed) (faultless : ∀ call ∈ calls, call.1.Faultless) :
    (controller.run calls).2.Safe := by
  induction calls generalizing controller with
  | nil => exact safe
  | cons call calls ih =>
    obtain ⟨first, rest⟩ := List.forall_mem_cons.mp faultless
    have met : (controller.meet call.1).Placed := ⟨placed.listener, placed.autoReturn⟩
    exact ih (safe_handle (safe_meet safe first) met call.2) (placed_handle met call.2) rest

/-- On a store without faults a load gives the settings on every screen that
changes none, on the dashboard all of them but the artwork. -/
theorem savedAt_run {moment : Moment} (store : FlatStore) {calls : List (Moment × HostEvent)}
    (faultless : moment.Faultless) (faultlessCalls : ∀ call ∈ calls, call.1.Faultless) :
    ((start moment store).run calls).2.board.SavedAt
      ((start moment store).run calls).2.screen.place := by
  have placed := (Reachable.start moment store).placed
  exact (safe_run (safe_start faultless store) placed faultlessCalls).saved

theorem faultless_still (time : Millis) (busy : Bool) : (Moment.still time busy).Faultless :=
  fun _ _ => rfl

theorem faultless_calmly (calls : List (Millis × HostEvent)) :
    ∀ call ∈ calmly calls, call.1.Faultless := by
  intro call found
  obtain ⟨timed, -, rfl⟩ := List.mem_map.mp found
  exact faultless_still _ _

def brightened : List (Moment × HostEvent) :=
  let press : Millis × HostEvent := (0, .key ⟨0, .activate, true⟩)
  let turn : Millis × HostEvent := (0, .rotate true)
  calmly [press, turn, press, turn, turn, press, turn, press, (0, .rotate false), press]

theorem savedAt_run_brightened :
    (Moment.still 0 false).Faultless ∧ (∀ call ∈ brightened, call.1.Faultless) ∧
      ((start (.still 0 false) erased).run brightened).2.screen.place = .dashboard ∧
      ((start (.still 0 false) erased).run brightened).2.board.settings.rgb.brightness = 26 ∧
      ((start (.still 0 false) erased).run brightened).2.board.SavedAt
        ((start (.still 0 false) erased).run brightened).2.screen.place := by
  have ends : ((start (.still 0 false) erased).run brightened).2.screen.place = .dashboard ∧
      ((start (.still 0 false) erased).run brightened).2.board.settings.rgb.brightness = 26 := by
    decide +kernel
  exact ⟨faultless_still _ _, faultless_calmly _, ends.1, ends.2,
    savedAt_run erased (faultless_still _ _) (faultless_calmly _)⟩

end Controller

end KnobPanel
