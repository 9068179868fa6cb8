import KnobPanel.Board
import KnobPanel.Menu
import KnobPanel.Screens.Route

/-!
# Settings menus

The list menus of the settings tree. Effect lists preview the highlighted
effect; the other lists act when a row is activated.
-/

namespace KnobPanel.MenuKind

def autoOffItems : List String :=
  ["-- Auto-off Timer", "never", "10s", "60s", "300s", "600s", "1800s", "3600s"]

def items : MenuKind → List String
  | settings =>
    ["-- Settings --", "RGB Lighting", "OLED Screen", "Side light", "Home Artwork",
      "Tomato timer", "Help"]
  | rgb =>
    ["-- RGB Light --", "Effect", "Speed", "Bright", "Color 1", "Color 2", "Saturation",
      "Auto Off"]
  | rgbEffect =>
    ["-- Effect --", "Off", "Solid", "Breath", "Rainbow", "Rainbow H.", "Rainbow V.", "Grad H.",
      "Grad V.", "Raindrops", "Track", "Track RGB", "Ripple", "Ripple RGB", "Noise", "Test"]
  | oled => ["-- OLED Settings", "Bright", "Invert display", "Auto Off"]
  | side => ["-- Side Led --", "Mode", "Bright", "Speed", "Auto Off"]
  | sideEffect => ["-- side LED Mode", "Off", "Breath", "Flash on Type", "Static"]
  | artwork => ["-- Select Artwork", "Logo", "BongoCat", "Cube", "Logo in Space"]
  | rgbAutoOff | oledAutoOff | sideAutoOff => autoOffItems

def parent : MenuKind → MenuKind
  | rgbEffect | rgbAutoOff => rgb
  | oledAutoOff => oled
  | sideEffect | sideAutoOff => side
  | settings | rgb | oled | side | artwork => settings

def savesOnEntry : MenuKind → Bool
  | settings | rgb => true
  | _ => false

def autoReturnSecs : MenuKind → Nat
  | settings => 4
  | _ => 0

/-- Choice lists open on the current value, menus of screens on their first
entry. -/
def initialCursor (values : Settings) : MenuKind → Nat
  | settings => 0
  | rgb | oled | side => 1
  | rgbEffect => 1 + values.rgb.mode.index.toNat
  | rgbAutoOff => 1 + values.rgb.autoOff.index.toNat
  | oledAutoOff => 1 + values.oled.autoOff.index.toNat
  | sideEffect => 1 + values.side.mode.index.toNat
  | sideAutoOff => 1 + values.side.autoOff.index.toNat
  | artwork => 1 + values.homeArt.index.toNat

def load (values : Settings) (kind : MenuKind) : Menu :=
  .load kind.items (kind.initialCursor values)

def preview (row : Nat) (kind : MenuKind) (board : Board) : Board :=
  match kind with
  | rgbEffect =>
    match RgbMode.ofIndex? (.ofNat row) with
    | none => board
    | some mode =>
      let values := board.settings
      { board with settings := { values with rgb := { values.rgb with mode } } }.applyRgbEffect
  | sideEffect =>
    match SideMode.ofIndex? (.ofNat row) with
    | none => board
    | some mode =>
      let values := board.settings
      { board with settings := { values with side := { values.side with mode } } }.applySideEffect
  | _ => board

/-- Moves the cursor and previews the row it is on; the title previews
nothing. -/
def onRotate (clockwise : Bool) (kind : MenuKind) (menu : Menu) (board : Board) :
    Reaction × Menu × Board :=
  let menu := menu.navigate clockwise
  (.stop, menu, if menu.cursor = 0 then board else kind.preview (menu.cursor - 1) board)

def toggleInversion (board : Board) : Board :=
  let inverted := !board.settings.oled.inverted
  { board with
      settings := { board.settings with oled := { board.settings.oled with inverted } } }.draw
    [.invert (.ofBool inverted)]

def putTier (tier : AutoOffTier) (values : Settings) : MenuKind → Settings
  | rgbAutoOff => { values with rgb := { values.rgb with autoOff := tier } }
  | oledAutoOff => { values with oled := { values.oled with autoOff := tier } }
  | sideAutoOff => { values with side := { values.side with autoOff := tier } }
  | _ => values

/-- Stores the tier in the given row; the title row changes nothing. -/
def chooseTier (row : Nat) (kind : MenuKind) (board : Board) : Board :=
  if row = 0 then
    board
  else
    { board with settings := kind.putTier (.ofIndex (.ofNat (row - 1))) board.settings }

def chooseArt (row : Nat) (board : Board) : Board :=
  if row = 0 then
    board
  else
    { board with
      settings := { board.settings with homeArt := .ofIndex (.ofNat (row - 1)) } }.saveSettings

def onActivate (row : Nat) (kind : MenuKind) (board : Board) : Reaction × Board :=
  match kind with
  | settings =>
    (.go <|
      match row with
      | 1 => .menu rgb
      | 2 => .menu oled
      | 3 => .menu side
      | 4 => .menu artwork
      | 5 => .pomodoro
      | 6 => .help
      | _ => .dashboard, board)
  | rgb =>
    (.go <|
      match row with
      | 1 => .menu rgbEffect
      | 2 => .slider .rgbSpeed
      | 3 => .slider .rgbBrightness
      | 4 => .slider .rgbHue1
      | 5 => .slider .rgbHue2
      | 6 => .slider .rgbSaturation
      | 7 => .menu rgbAutoOff
      | _ => .dashboard, board)
  | oled =>
    match row with
    | 1 => (.go (.slider .oledBrightness), board)
    | 2 => (.stop, toggleInversion board)
    | 3 => (.go (.menu oledAutoOff), board)
    | _ => (.go (.menu settings), board)
  | side =>
    (.go <|
      match row with
      | 1 => .menu sideEffect
      | 2 => .slider .sideBrightness
      | 3 => .slider .sideSpeed
      | 4 => .menu sideAutoOff
      | _ => .menu settings, board)
  | rgbEffect | sideEffect => (.go (.menu kind.parent), board)
  | rgbAutoOff | oledAutoOff | sideAutoOff =>
    (.go (.menu kind.parent), kind.chooseTier row board)
  | artwork => (.go .dashboard, chooseArt row board)

end KnobPanel.MenuKind
