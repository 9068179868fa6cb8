import KnobPanel.Proofs.Coherence
import KnobPanel.Proofs.SettingsShown

/-!
# Live lists

An effect list opens on the configured effect, and every row that its cursor
comes to is configured and sent. The title row is no effect; it is only reached
from the first one, which stays configured.
-/

namespace KnobPanel

-- ---------------------------------------------------------------------------
-- Rows and effects
-- ---------------------------------------------------------------------------

theorem Menu.cursor_le_one {menu : Menu} {forward : Bool}
    (title : (menu.navigate forward).cursor = 0) : menu.cursor ≤ 1 := by
  cases forward with
  | true =>
    simp only [navigate, ↓reduceIte] at title
    split at title
    · cases title
    · exact title ▸ Nat.zero_le 1
  | false => exact Nat.sub_eq_zero_iff_le.mp title

theorem RgbMode.index_of_row : ∀ row < 15,
    (ofIndex? (.ofNat row)).map (·.index.toNat) = some row := by
  decide

theorem SideMode.index_of_row : ∀ row < 4,
    (ofIndex? (.ofNat row)).map (·.index.toNat) = some row := by
  decide

namespace Light

variable (light : Light)

theorem mode_lt (settings : Settings) :
    (light.mode settings).toNat + 1 < light.list.items.length := by
  cases light with
  | keys => exact Nat.succ_lt_succ (UInt8.lt_iff_toNat_lt.mp settings.rgb.mode.index_lt)
  | side => exact Nat.succ_lt_succ (UInt8.lt_iff_toNat_lt.mp settings.side.mode.index_lt)

theorem cursor_load (settings : Settings) :
    (light.list.load settings).cursor = (light.mode settings).toNat + 1 := by
  have lt := light.mode_lt settings
  have initial : light.list.initialCursor settings = (light.mode settings).toNat + 1 := by
    cases light <;> exact Nat.add_comm ..
  simp only [MenuKind.load, Menu.load, initial, lt, ↓reduceIte]

theorem preview_row {row : Nat} (below : row + 1 < light.list.items.length) (board : Board) :
    (light.mode (light.list.preview row board).settings).toNat = row ∧
      (light.list.preview row board).channel =
        (board.channel.send (light.restore (light.list.preview row board).settings)).2 := by
  cases light with
  | keys =>
    obtain ⟨mode, found, index⟩ :=
      Option.map_eq_some_iff.mp (RgbMode.index_of_row row (Nat.lt_of_succ_lt_succ below))
    simp only [list, MenuKind.preview, found]
    exact ⟨index, rfl⟩
  | side =>
    obtain ⟨mode, found, index⟩ :=
      Option.map_eq_some_iff.mp (SideMode.index_of_row row (Nat.lt_of_succ_lt_succ below))
    simp only [list, MenuKind.preview, found]
    exact ⟨index, rfl⟩

/-- The cursor of the light's list is on the configured effect. On the title it
counts as being on the first one. -/
def ShownBy (settings : Settings) (menu : Menu) : Prop :=
  (light.mode settings).toNat = max menu.cursor 1 - 1

theorem shownBy_load (settings : Settings) :
    light.ShownBy settings (light.list.load settings) := by
  rw [ShownBy, cursor_load, Nat.max_eq_left (Nat.succ_pos _), Nat.succ_sub_one]

theorem shownBy_onRotate {menu : Menu} {board : Board}
    (shown : light.ShownBy board.settings menu) (opened : (Screen.menu light.list menu).Opened)
    (clockwise : Bool) :
    light.ShownBy (light.list.onRotate clockwise menu board).2.2.settings
      (menu.navigate clockwise) := by
  unfold ShownBy MenuKind.onRotate at *
  simp only
  split
  case isTrue title =>
    have first := Menu.cursor_le_one title
    rw [shown, title, Nat.max_eq_right first]
    rfl
  case isFalse below =>
    obtain ⟨row, next⟩ := Nat.exists_eq_succ_of_ne_zero below
    have fits := (opened.2.navigate clockwise).cursor_lt
    rw [Menu.count, Menu.items_navigate, opened.1, next] at fits
    rw [next, Nat.succ_sub_one, (light.preview_row fits board).1,
      Nat.max_eq_left (Nat.succ_pos row), Nat.succ_sub_one]

end Light

-- ---------------------------------------------------------------------------
-- Calls of the host
-- ---------------------------------------------------------------------------

theorem Screen.eq_menu_of_draw {screen : Screen} {board : Board} {kind : MenuKind} {menu : Menu}
    (drawn : (screen.draw board).2.1 = .menu kind menu) : screen = .menu kind menu := by
  cases screen <;> first | exact drawn | cases drawn

theorem Screen.eq_menu_of_onKey {screen : Screen} {board : Board} {listener : Listener}
    {event : KeyEvent} {kind : MenuKind} {menu : Menu}
    (heard : (screen.onKey listener event board).2.1 = .menu kind menu) :
    screen = .menu kind menu := by
  cases listener <;> cases screen <;> first | exact heard | cases heard

theorem Screen.mode_onActivate (screen : Screen) (board : Board) (light : Light) :
    light.mode (screen.onActivate board).2.settings = light.mode board.settings := by
  cases light with
  | keys =>
    simpa [Light.mode, ReplayStep.command?, Command.byte] using
      screen.command?_onActivate board .rgbEffect
  | side =>
    simpa [Light.mode, ReplayStep.command?, Command.byte] using
      screen.command?_onActivate board .sideEffect

namespace Controller

/-- An effect list that is open shows what is configured. -/
def Live (controller : Controller) : Prop :=
  ∀ (light : Light) (menu : Menu), controller.screen = .menu light.list menu →
    light.ShownBy controller.board.settings menu

variable {before controller : Controller}

theorem Live.congr (live : before.Live)
    (screen : ∀ kind menu, controller.screen = .menu kind menu → before.screen = .menu kind menu)
    (mode : ∀ light : Light,
      light.mode controller.board.settings = light.mode before.board.settings) :
    controller.Live := by
  intro light menu active
  rw [Light.ShownBy, mode light]
  exact live light menu (screen _ _ active)

theorem live_go (route : Route) (controller : Controller) : (controller.go route).Live := by
  intro light menu active
  cases route with
  | menu kind =>
    obtain ⟨rfl, rfl⟩ := Screen.menu.inj active
    simp only [go]
    exact light.shownBy_load _
  | _ => cases active

theorem live_react (live : controller.Live) (reaction : Reaction) :
    (controller.react reaction).2.Live := by
  unfold react
  cases reaction.route with
  | some route => exact live_go route _
  | none =>
    simp only
    split <;> exact live

theorem live_tick (live : controller.Live) : controller.tick.2.Live := by
  cases returned : controller.tick.1.returned with
  | true =>
    rw [(controller.tick_go returned).2]
    exact live_go _ _
  | false =>
    refine live.congr (fun kind menu active => ?_) fun _ => by rw [settings_tick]
    obtain ⟨_, _, _, _, _, _, woken⟩ := controller.awake_frame
    obtain ⟨_, _, served⟩ := controller.awake.serveLights_frame
    rw [controller.tick_draw returned] at active
    have drawn := Screen.eq_menu_of_draw active
    rwa [served, woken] at drawn

theorem KeyStep.live {event : KeyEvent} {met : Controller} {outcome : Bool × Controller}
    (step : KeyStep event met outcome) (live : met.Live) : outcome.2.Live := by
  cases step with
  | unheard => exact live
  | activated =>
    have acted : Live { met with board := (met.screen.onActivate met.board).2 } :=
      live.congr (fun _ _ active => active) (met.screen.mode_onActivate met.board)
    exact live_react acted _
  | heard listener =>
    have kept := congrArg Lights.settings (Screen.lights_onKey listener event met.screen met.board)
    have acted : Live
        { met with
          screen := (met.screen.onKey listener event met.board).2.1
          board := (met.screen.onKey listener event met.board).2.2 } :=
      live.congr (fun _ _ active => Screen.eq_menu_of_onKey active)
        fun light => congrArg light.mode kept
    exact live_react acted _

theorem live_onRotate (live : controller.Live) (opened : controller.screen.Opened)
    (clockwise : Bool) :
    Live
      { controller with
        screen := (controller.screen.onRotate clockwise controller.board).2.1
        board := (controller.screen.onRotate clockwise controller.board).2.2 } := by
  intro light menu active
  cases screen : controller.screen with
  | menu kind shown =>
    simp only [screen] at active opened ⊢
    obtain ⟨rfl, rfl⟩ := Screen.menu.inj active
    exact light.shownBy_onRotate (live light shown screen) opened clockwise
  | _ =>
    simp only [screen] at active
    cases active

theorem live_turnScreen (live : controller.Live) (opened : controller.screen.Opened)
    (clockwise : Bool) (steps : Nat) (reaction : Reaction) :
    (controller.turnScreen clockwise steps reaction).2.Live := by
  refine (turnScreen_induct (motive := fun _ turned => turned.Live ∧ turned.screen.Opened)
    (fun _ met before => ?_) steps ⟨live, opened⟩).1
  exact ⟨live_onRotate before.1 before.2 clockwise,
    Screen.opened_onRotate before.2 clockwise met.board⟩

theorem live_handle (live : controller.Live) (opened : controller.screen.Opened)
    (event : HostEvent) : (controller.handle event).2.Live := by
  cases event with
  | tick => exact live_tick live
  | key event => exact (controller.handleKey_step event).live live
  | rotate clockwise =>
    have counted : controller.counted.Live := live
    exact live_react (live_turnScreen counted opened _ _ _) _
  | poll => exact live
  | lockLeds leds => exact live

theorem Reachable.live {controller : Controller} (reachable : Reachable controller) :
    controller.Live := by
  induction reachable with
  | start => exact live_go .dashboard _
  | @step controller moment event before live =>
    have met : (controller.meet moment).Live := live
    exact live_handle met (before.fitted.meet moment).opened event

-- ---------------------------------------------------------------------------
-- Detents on a live list
-- ---------------------------------------------------------------------------

theorem handleRotate_menu (plain : controller.Plain) {kind : MenuKind} {menu : Menu}
    (active : controller.screen = .menu kind menu) (clockwise : Bool) :
    (controller.handleRotate clockwise).2.screen = .menu kind (menu.navigate clockwise) ∧
      (controller.handleRotate clockwise).2.board =
        (kind.onRotate clockwise menu controller.counted.board).2.2 := by
  have one := plain.steps_eq_one (by simp [active]) controller.now.1
  rw [handleRotate_of_one _ one, active]
  exact ⟨rfl, rfl⟩

/-- While an effect list is open, the effect that its cursor is on is configured,
and a detent sends the effect that the cursor comes to. -/
theorem live_list {controller : Controller} (reachable : Reachable controller) {light : Light}
    {menu : Menu} (active : controller.screen = .menu light.list menu) :
    (light.mode controller.board.settings).toNat = max menu.cursor 1 - 1 ∧
      ∀ (moment : Moment) (clockwise : Bool),
        let met := controller.meet moment
        let left := (met.handleRotate clockwise).2
        left.screen = .menu light.list (menu.navigate clockwise) ∧
          ((menu.navigate clockwise).cursor = 0 → left.board.channel = met.board.channel) ∧
          ∀ row, (menu.navigate clockwise).cursor = row + 1 →
            (light.mode left.board.settings).toNat = row ∧
              left.board.channel =
                (met.board.channel.send
                  (.byte light.effect (light.mode left.board.settings))).2 := by
  refine ⟨reachable.live light menu active, fun moment clockwise => ?_⟩
  intro met left
  have opened : (Screen.menu light.list menu).Opened := active ▸ reachable.fitted.opened
  have plain : met.Plain := reachable.plain
  obtain ⟨screen, board⟩ := handleRotate_menu plain active clockwise
  refine ⟨screen, fun title => ?_, fun row next => ?_⟩
  · have untouched : left.board = met.counted.board := by
      rw [board, MenuKind.onRotate, if_pos title]
    rw [untouched]
    rfl
  · have previewed : left.board = light.list.preview row met.counted.board := by
      rw [board, MenuKind.onRotate, next]
      rfl
    have fits := (opened.2.navigate clockwise).cursor_lt
    rw [Menu.count, Menu.items_navigate, opened.1, next] at fits
    rw [previewed]
    exact light.preview_row fits met.counted.board

def listOpened : Controller :=
  let press : Millis × HostEvent := (0, .key ⟨0, .activate, true⟩)
  ((start (.still 0 false) erased).run (calmly [press, (0, .rotate true), press, press])).2

/-- The next detent comes to the effect below; on a busy line it waits in the
slot. -/
theorem live_list_listOpened :
    let met := listOpened.meet (.still 0 true)
    let left := (met.handleRotate true).2
    ∃ menu, listOpened.screen = .menu (Light.list .keys) menu ∧ menu.cursor = 12 ∧
      (Light.mode listOpened.board.settings .keys).toNat = max menu.cursor 1 - 1 ∧
      left.screen = .menu (Light.list .keys) (menu.navigate true) ∧
      (Light.mode left.board.settings .keys).toNat = 12 ∧
      left.board.channel =
        (met.board.channel.send (.byte .rgbEffect (Light.mode left.board.settings .keys))).2 ∧
      left.board.channel.parked = some (.byte .rgbEffect 12) := by
  intro met left
  have shown : (match listOpened.screen with
    | .menu .rgbEffect menu => (menu.cursor, (menu.navigate true).cursor)
    | _ => (0, 0)) = (12, 13) := by decide +kernel
  split at shown
  case h_1 menu active =>
    obtain ⟨cursor, next⟩ := Prod.mk.inj shown
    have reachable : Reachable listOpened := (Reachable.start _ _).run _
    have live : listOpened.screen = .menu (Light.list .keys) menu := active
    obtain ⟨mode, turned⟩ := live_list reachable live
    obtain ⟨screen, -, lit⟩ := turned (.still 0 true) true
    obtain ⟨effect, sent⟩ := lit 12 next
    have parked : left.board.channel.parked = some (.byte .rgbEffect 12) := by decide +kernel
    exact ⟨menu, active, cursor, mode, screen, effect, sent, parked⟩
  case h_2 => cases shown

end Controller

end KnobPanel
