import KnobPanel.Proofs.CheckedBoard
import KnobPanel.Proofs.MenuWindow
import KnobPanel.Screens.SettingsMenu
import KnobPanel.Screens.Slider

/-!
# The settings tree in machine words

List menus, bars and sliders, once more with every step checked. A list needs rows
and a window in order; the bar of a slider is drawn cell by cell, as long as its
pixels last.
-/

namespace KnobPanel

-- ---------------------------------------------------------------------------
-- Lists
-- ---------------------------------------------------------------------------

namespace Menu

open Word (addressSize)

def load? (items : List String) (cursor : Nat) : Option Menu := do
  let cursor := if cursor < items.length then cursor else 0
  if rows < items.length ∧ rows ≤ cursor then
    let above ← Word.minus cursor 3
    let last ← Word.minus items.length rows
    some { items, cursor, offset := min above last }
  else
    some { items, cursor, offset := 0 }

@[simp] theorem load?_eq (items : List String) (cursor : Nat) :
    load? items cursor = some (load items cursor) := by
  simp only [load?, load]
  generalize (if cursor < items.length then cursor else 0) = cursor
  split
  case isTrue deep =>
    simp only [rows] at deep ⊢
    rw [Word.minus_of_le (by omega), Word.minus_of_le (by omega)]
    rfl
  case isFalse => rfl

def navigate? (forward : Bool) (menu : Menu) : Option Menu :=
  if forward then do
    let below ← Word.fit addressSize (menu.cursor + 1)
    let cursor := if below < menu.count then below else menu.cursor
    let bottom ← Word.fit addressSize (menu.offset + rows)
    let offset ← (if bottom ≤ cursor then Word.fit addressSize (menu.offset + 1)
      else some menu.offset)
    some { menu with cursor, offset }
  else do
    let cursor := menu.cursor - 1
    let offset ← (if cursor < menu.offset then Word.minus menu.offset 1 else some menu.offset)
    some { menu with cursor, offset }

def thumb? (count offset : Nat) : Option (Nat × Nat) := do
  let area ← Word.fit addressSize (screenHeight * rows)
  let share ← Word.divide area count
  let above ← Word.fit addressSize (screenHeight * offset)
  let top ← Word.divide above count
  let bottom ← Word.fit addressSize (top + max share 4)
  some (top, min bottom screenHeight)

def drawScrollBar? (menu : Menu) : Option (List DrawOp) :=
  if menu.count ≤ rows then
    some []
  else do
    let span ← thumb? menu.count menu.offset
    let columns ← Word.each (fun i => Word.fitSigned Int16.size (screenWidth - i)) [1, 2]
    some (columns.flatMap fun x =>
      (List.range screenHeight).map fun (y : Nat) => .pixel x y (span.1 ≤ y && y < span.2))

def draw? (menu : Menu) : Option (List DrawOp) := do
  let bar ← menu.drawScrollBar?
  some (.cursor 0 0 :: menu.window.flatMap (drawRow menu.cursor) ++ bar)

theorem navigate?_eq_of_le {menu : Menu} (windowed : menu.Windowed)
    (fits : menu.count + rows ≤ addressSize) (forward : Bool) :
    menu.navigate? forward = some (menu.navigate forward) := by
  obtain ⟨inside, above, -, -⟩ := windowed
  have holds {n : Nat} (lt : n < menu.count + rows) : Word.fit addressSize n = some n :=
    if_pos (Nat.lt_of_lt_of_le lt fits)
  simp only [rows] at holds
  cases forward with
  | true =>
    have below := holds (show menu.cursor + 1 < menu.count + 8 by omega)
    have bottom := holds (show menu.offset + 8 < menu.count + 8 by omega)
    have next := holds (show menu.offset + 1 < menu.count + 8 by omega)
    simp only [navigate?, navigate, rows, below, bottom, next, ↓reduceIte, Option.bind_eq_bind,
      Option.bind_some]
    split <;> split <;> rfl
  | false =>
    simp only [navigate?, navigate, Bool.false_eq_true, ↓reduceIte, Option.bind_eq_bind]
    split
    case isTrue passed => rw [Word.minus_of_le (by omega), Option.bind_some]
    case isFalse => rfl

section
variable {menu : Menu} (windowed : menu.Windowed) (fits : screenHeight * menu.count ≤ addressSize)
include windowed fits

theorem thumb?_eq : thumb? menu.count menu.offset = some (thumb menu.count menu.offset) := by
  have top : screenHeight * menu.offset / menu.count < 64 := windowed.thumb_fst_lt
  obtain ⟨inside, above, -, -⟩ := windowed
  have holds {n : Nat} (lt : n < addressSize) : Word.fit addressSize n = some n := if_pos lt
  have rowed : 0 < menu.count := by omega
  have share : screenHeight * rows / menu.count ≤ 512 := Nat.div_le_self _ _
  have span : screenHeight * menu.offset < addressSize :=
    Nat.lt_of_lt_of_le (Nat.mul_lt_mul_of_pos_left (by omega) (by decide)) fits
  have bottom : screenHeight * menu.offset / menu.count + max (screenHeight * rows / menu.count) 4 <
      addressSize :=
    Nat.lt_of_lt_of_le (show _ < 1000 by omega) (by decide)
  simp only [thumb?, thumb, holds (show screenHeight * rows < addressSize by decide), holds span,
    holds bottom, Word.divide_of_pos rowed, Option.bind_eq_bind, Option.bind_some]

theorem draw?_eq_of_le : menu.draw? = some menu.draw := by
  have bar : menu.drawScrollBar? = some menu.drawScrollBar := by
    have columns : Word.each (fun i => Word.fitSigned Int16.size (screenWidth - i)) [1, 2] =
        some [127, 126] := rfl
    simp only [drawScrollBar?, drawScrollBar, thumb?_eq windowed fits, columns,
      Option.bind_eq_bind, Option.bind_some]
    split <;> rfl
  rw [draw?, bar]
  rfl

end

variable {menu : Menu} (windowed : menu.Windowed) (short : menu.count ≤ 16)
include windowed short

theorem navigate?_eq (forward : Bool) : menu.navigate? forward = some (menu.navigate forward) :=
  navigate?_eq_of_le windowed (Nat.le_trans (Nat.add_le_add_right short _) (by decide)) forward

theorem draw?_eq : menu.draw? = some menu.draw :=
  draw?_eq_of_le windowed (Nat.le_trans (Nat.mul_le_mul_left _ short) (by decide))

end Menu

-- ---------------------------------------------------------------------------
-- Bars
-- ---------------------------------------------------------------------------

namespace Bar

/-- Full cells while the pixels last: the cells, the pixels left, and the number of
cells used. -/
def fill? (pixels used : Nat) : Option (List DrawOp × Nat × Nat) :=
  if cellWidth ≤ pixels then do
    let counted ← Word.fit UInt8.size (used + 1)
    let others ← fill? (pixels - cellWidth) counted
    some (.glyph (Font.bar + 5) false :: others.1, others.2)
  else
    some ([], pixels, used)
termination_by pixels
decreasing_by simp only [cellWidth] at *; omega

def blanks? (used : Nat) : Option (List DrawOp) :=
  if used < cells then do
    let _ ← Word.fit UInt8.size (used + 1)
    let others ← blanks? (used + 1)
    some (.glyph (if used % 5 = 0 then Font.bar else 32) false :: others)
  else
    some []
termination_by cells - used

def drawCells? (filled : Nat) : Option (List DrawOp) := do
  let (full, pixels, used) ← fill? filled 0
  if 0 < pixels ∧ used < cells then
    let code ← Word.fit UInt8.size (Font.bar.toNat + pixels)
    let counted ← Word.fit UInt8.size (used + 1)
    let blanks ← blanks? counted
    some (full ++ .glyph (.ofNat code) false :: blanks)
  else
    let blanks ← blanks? used
    some (full ++ blanks)

def draw? (value limit : Nat) : Option (List DrawOp) := do
  let limit := max limit 1
  let area ← Word.fit UInt32.size (screenWidth * min value limit)
  let filled ← Word.divide area limit
  drawCells? filled

def drawWithValue? (value limit : Nat) : Option (List DrawOp) := do
  let bar ← draw? value limit
  some (.text (toString value) false :: .advance true :: bar)

def fullCell : DrawOp := .glyph (Font.bar + 5) false

def blankCell (cell : Nat) : DrawOp := .glyph (if cell % 5 = 0 then Font.bar else 32) false

def partCell (filled : Nat) : List DrawOp :=
  if 0 < filled % cellWidth ∧ filled / cellWidth < cells then
    [.glyph (Font.bar + .ofNat (filled % cellWidth)) false]
  else
    []

def row (filled : Nat) : List DrawOp :=
  let full := min cells (filled / cellWidth)
  let used := full + (partCell filled).length
  .replicate full fullCell ++ partCell filled ++ (List.range' used (cells - used)).map blankCell

theorem fill?_eq {pixels used : Nat} (room : used + pixels / cellWidth < 256) :
    fill? pixels used =
      some (.replicate (pixels / cellWidth) fullCell, pixels % cellWidth,
        used + pixels / cellWidth) := by
  induction pixels, used using fill?.induct with
  | case1 pixels used full ih =>
    have div : pixels / cellWidth = (pixels - cellWidth) / cellWidth + 1 :=
      Nat.div_eq_sub_div (by decide) full
    have mod : pixels % cellWidth = (pixels - cellWidth) % cellWidth :=
      Nat.mod_eq_sub_mod full
    generalize (pixels - cellWidth) / cellWidth = others at div ih
    have rest := ih (used + 1) (by omega)
    rw [fill?, if_pos full, Word.fit_byte (by omega), Option.bind_eq_bind, Option.bind_some, rest,
      div, mod, Option.bind_eq_bind, Option.bind_some, List.replicate_succ, Nat.add_right_comm]
    rfl
  | case2 pixels used partly =>
    rw [Nat.not_le] at partly
    rw [fill?, if_neg (Nat.not_le.mpr partly), Nat.div_eq_of_lt partly, Nat.mod_eq_of_lt partly]
    rfl

theorem blanks?_eq {used : Nat} (le : used ≤ cells) :
    blanks? used = some ((List.range' used (cells - used)).map blankCell) := by
  induction used using blanks?.induct with
  | case1 used more ih =>
    have more' : used + 1 ≤ cells := more
    have count : cells - used = cells - (used + 1) + 1 := by omega
    rw [blanks?, if_pos more, Word.fit_byte (Nat.lt_of_le_of_lt more' (by decide)),
      Option.bind_eq_bind, Option.bind_some, ih more', count, List.range'_succ]
    rfl
  | case2 used full =>
    have none : cells - used = 0 := by omega
    rw [blanks?, if_neg full, none]
    rfl

theorem code_of_lt {filled cell : Nat} (lt : cell < filled / cellWidth) :
    code filled cell = Font.bar + 5 := by
  simp only [cellWidth] at lt
  simp only [code, cellWidth, show 6 ≤ filled - cell * 6 by omega, ↓reduceIte]

theorem code_of_eq {filled cell : Nat} (eq : cell = filled / cellWidth)
    (part : 0 < filled % cellWidth) :
    code filled cell = Font.bar + .ofNat (filled % cellWidth) := by
  simp only [cellWidth] at eq part
  have rest : filled - cell * 6 = filled % 6 := by omega
  have few : ¬6 ≤ filled % 6 := by omega
  simp only [code, cellWidth, rest, few, part, ↓reduceIte]

theorem code_of_le {filled cell : Nat} (le : filled ≤ cell * cellWidth) :
    code filled cell = if cell % 5 = 0 then Font.bar else 32 := by
  have none : filled - cell * cellWidth = 0 := Nat.sub_eq_zero_of_le le
  simp only [code, none]
  rfl

theorem map_full {filled n : Nat} (le : n ≤ filled / cellWidth) :
    (List.range n).map (fun cell => .glyph (code filled cell) false) = .replicate n fullCell := by
  have full : ∀ cell ∈ List.range n, DrawOp.glyph (code filled cell) false = fullCell := by
    intro cell lt
    rw [code_of_lt (Nat.lt_of_lt_of_le (List.mem_range.mp lt) le)]
    rfl
  rw [List.map_congr_left full, List.map_const', List.length_range]

theorem map_blank {filled start : Nat} (le : filled ≤ start * cellWidth) (n : Nat) :
    (List.range' start n).map (fun cell => .glyph (code filled cell) false) =
      (List.range' start n).map blankCell := by
  refine List.map_congr_left fun cell found => ?_
  have beyond : start * cellWidth ≤ cell * cellWidth :=
    Nat.mul_le_mul_right _ (List.mem_range'_1.mp found).1
  rw [code_of_le (Nat.le_trans le beyond)]
  rfl

theorem full_le {filled : Nat} (le : filled ≤ screenWidth) : filled / cellWidth ≤ cells := by
  simp only [screenWidth] at le
  simp only [cellWidth, cells]
  omega

theorem drawCells?_eq_row {filled : Nat} (le : filled ≤ screenWidth) :
    drawCells? filled = some (row filled) := by
  have fullLe := full_le le
  have room : 0 + filled / cellWidth < 256 := by
    simp only [cells] at fullLe
    omega
  rw [drawCells?, fill?_eq room]
  simp only [row, partCell, Nat.min_eq_right fullLe, Nat.zero_add, Option.bind_eq_bind,
    Option.bind_some]
  split
  case isTrue part =>
    obtain ⟨part, next⟩ := part
    have code : Font.bar.toNat + filled % cellWidth < 256 :=
      Nat.lt_trans (Nat.add_lt_add_left (Nat.mod_lt _ (by decide)) _) (by decide)
    rw [Word.fit_byte code, Option.bind_some,
      Word.fit_byte (Nat.lt_of_le_of_lt next (by decide)), Option.bind_some, blanks?_eq next,
      Option.bind_some, UInt8.ofNat_add, UInt8.ofNat_toNat, List.append_assoc]
    rfl
  case isFalse =>
    rw [blanks?_eq fullLe, Option.bind_some, List.append_nil]
    rfl

theorem row_eq {filled : Nat} (le : filled ≤ screenWidth) :
    row filled = (List.range cells).map fun cell => .glyph (code filled cell) false := by
  have fullLe := full_le le
  have line : List.range cells =
      List.range (filled / cellWidth) ++
        List.range' (filled / cellWidth) (cells - filled / cellWidth) := by
    have joined := List.range'_append_1 (s := 0) (m := filled / cellWidth)
      (n := cells - filled / cellWidth)
    rw [Nat.zero_add, Nat.add_sub_cancel' fullLe] at joined
    rw [List.range_eq_range', List.range_eq_range', joined]
  rw [line, List.map_append, map_full (Nat.le_refl _)]
  simp only [row, partCell, Nat.min_eq_right fullLe]
  split
  case isTrue part =>
    have next := part.2
    have count : cells - filled / cellWidth = cells - (filled / cellWidth + 1) + 1 := by omega
    have beyond : filled ≤ (filled / cellWidth + 1) * cellWidth := by
      simp only [cellWidth]
      omega
    rw [count, List.range'_succ, List.map_cons, code_of_eq rfl part.1, map_blank beyond,
      List.append_assoc]
    rfl
  case isFalse whole =>
    -- no pixel is left, or no cell to show it in
    have beyond : filled ≤ filled / cellWidth * cellWidth ∨ filled / cellWidth = cells := by
      simp only [cellWidth] at whole fullLe ⊢
      omega
    rw [List.append_nil, List.length_nil, Nat.add_zero]
    rcases beyond with beyond | last
    · rw [map_blank beyond]
    · rw [last, Nat.sub_self]
      rfl

theorem drawCells?_eq {filled : Nat} (le : filled ≤ screenWidth) :
    drawCells? filled = some ((List.range cells).map fun cell => .glyph (code filled cell) false) := by
  rw [drawCells?_eq_row le, row_eq le]

theorem pixels_le (value limit : Nat) : pixels value limit ≤ screenWidth := by
  refine Nat.div_le_of_le_mul ?_
  rw [Nat.mul_comm]
  exact Nat.mul_le_mul_right _ (Nat.min_le_right _ _)

theorem draw?_eq {value limit : Nat} (small : limit < 65536) :
    draw? value limit = some (draw value limit) := by
  have area : screenWidth * min value (max limit 1) < 4294967296 := by
    simp only [screenWidth]
    omega
  rw [draw?, Word.fit_long area, Option.bind_eq_bind, Option.bind_some,
    Word.divide_of_pos (by omega), Option.bind_some]
  exact drawCells?_eq (pixels_le value limit)

@[simp] theorem drawWithValue?_eq {value limit : Nat} (small : limit < 65536) :
    drawWithValue? value limit = some (drawWithValue value limit) := by
  rw [drawWithValue?, draw?_eq small]
  rfl

end Bar

-- ---------------------------------------------------------------------------
-- Sliders
-- ---------------------------------------------------------------------------

namespace SliderKind

def draw? (settings : Settings) (kind : SliderKind) : Option (List DrawOp) := do
  let value := (kind.value settings).toNat
  let limit := kind.limit.toNat
  let bar ← (if kind.wraps then Bar.draw? value limit else Bar.drawWithValue? value limit)
  some ([.cursor 0 0, .text kind.title false, .advance true, .advance true] ++ bar)

@[simp] theorem draw?_eq (settings : Settings) (kind : SliderKind) :
    kind.draw? settings = some (kind.draw settings) := by
  have small : kind.limit.toNat < 65536 := Nat.lt_trans kind.limit.toNat_lt (by decide)
  simp only [draw?, draw, Bar.draw?_eq small, Bar.drawWithValue?_eq small, Option.bind_eq_bind]
  split <;> rfl

def told? (value : UInt8) : SliderKind → Option (Option Command)
  | rgbSpeed => do
    let delay ← rgbSpeedWire? value
    some (some (.byte .rgbSpeed delay))
  | kind => some (kind.command? value)

@[simp] theorem told?_eq (value : UInt8) (kind : SliderKind) :
    kind.told? value = some (kind.command? value) := by
  cases kind <;> simp [told?, command?]

def onRotate? (clockwise : Bool) (kind : SliderKind) (board : Board) :
    Option (Reaction × Board) := do
  let value := kind.step clockwise (kind.value board.settings)
  let board := { board with settings := kind.put value board.settings }
  match ← kind.told? value with
  | some command =>
    let sent ← board.send? command
    some (.stop, sent.2)
  | none => some (.stop, board.draw [.brightness board.settings.oled.brightness])

@[simp] theorem onRotate?_eq (clockwise : Bool) (kind : SliderKind) (board : Board) :
    kind.onRotate? clockwise board = some (kind.onRotate clockwise board) := by
  simp only [onRotate?, onRotate, told?_eq, Board.send?_eq, Option.bind_eq_bind, Option.bind_some]
  cases kind.command? (kind.step clockwise (kind.value board.settings)) <;> rfl

end SliderKind

-- ---------------------------------------------------------------------------
-- Settings menus
-- ---------------------------------------------------------------------------

namespace MenuKind

theorem length_items_le (kind : MenuKind) : kind.items.length ≤ 16 := by
  cases kind <;> decide

def load? (values : Settings) (kind : MenuKind) : Option Menu := do
  let cursor ← Word.fit Word.addressSize (kind.initialCursor values)
  Menu.load? kind.items cursor

@[simp] theorem load?_eq (values : Settings) (kind : MenuKind) :
    kind.load? values = some (kind.load values) := by
  have holds (value : UInt8) : 1 + value.toNat ≤ 256 := by
    have := value.toNat_lt
    omega
  have cursor : kind.initialCursor values ≤ 256 := by
    cases kind with
    | settings => exact Nat.zero_le _
    | rgb | oled | side => exact (by decide : 1 ≤ 256)
    | _ => exact holds _
  rw [load?, Word.fit_long (Nat.lt_of_le_of_lt cursor (by decide))]
  exact Menu.load?_eq _ _

def preview? (row : Nat) (kind : MenuKind) (board : Board) : Option Board :=
  match kind with
  | rgbEffect =>
    match RgbMode.ofIndex? (.ofNat row) with
    | none => some board
    | some mode =>
      let values := board.settings
      { board with settings := { values with rgb := { values.rgb with mode } } }.applyRgbEffect?
  | sideEffect =>
    match SideMode.ofIndex? (.ofNat row) with
    | none => some board
    | some mode =>
      let values := board.settings
      { board with settings := { values with side := { values.side with mode } } }.applySideEffect?
  | _ => some board

@[simp] theorem preview?_eq (row : Nat) (kind : MenuKind) (board : Board) :
    kind.preview? row board = some (kind.preview row board) := by
  cases kind with
  | rgbEffect =>
    simp only [preview?, preview]
    cases RgbMode.ofIndex? (.ofNat row) with
    | none => rfl
    | some mode => exact Board.applyRgbEffect?_eq _
  | sideEffect =>
    simp only [preview?, preview]
    cases SideMode.ofIndex? (.ofNat row) with
    | none => rfl
    | some mode => exact Board.applySideEffect?_eq _
  | _ => rfl

def onRotate? (clockwise : Bool) (kind : MenuKind) (menu : Menu) (board : Board) :
    Option (Reaction × Menu × Board) := do
  let menu ← menu.navigate? clockwise
  let board ← (if menu.cursor = 0 then some board else kind.preview? (menu.cursor - 1) board)
  some (.stop, menu, board)

theorem onRotate?_eq {menu : Menu} (windowed : menu.Windowed) (short : menu.count ≤ 16)
    (clockwise : Bool) (kind : MenuKind) (board : Board) :
    kind.onRotate? clockwise menu board = some (kind.onRotate clockwise menu board) := by
  simp only [onRotate?, onRotate, Menu.navigate?_eq windowed short, preview?_eq,
    Option.bind_eq_bind, Option.bind_some]
  split <;> rfl

def choice? (row : Nat) : Option UInt8 := do
  let choice ← Word.minus (row % 256) 1
  some (.ofNat choice)

theorem choice?_eq {row : Nat} (pos : row ≠ 0) (small : row < 256) :
    choice? row = some (.ofNat (row - 1)) := by
  rw [choice?, Nat.mod_eq_of_lt small, Word.minus_of_le (Nat.pos_of_ne_zero pos)]
  rfl

def chooseTier? (row : Nat) (kind : MenuKind) (board : Board) : Option Board :=
  if row = 0 then
    some board
  else do
    let choice ← choice? row
    some { board with settings := kind.putTier (.ofIndex choice) board.settings }

def chooseArt? (row : Nat) (board : Board) : Option Board :=
  if row = 0 then
    some board
  else do
    let choice ← choice? row
    { board with settings := { board.settings with homeArt := .ofIndex choice } }.saveSettings?

def onActivate? (row : Nat) (kind : MenuKind) (board : Board) : Option (Reaction × Board) :=
  match kind with
  | rgbAutoOff | oledAutoOff | sideAutoOff => do
    let board ← kind.chooseTier? row board
    some (.go (.menu kind.parent), board)
  | artwork => do
    let board ← chooseArt? row board
    some (.go .dashboard, board)
  | _ => some (kind.onActivate row board)

theorem onActivate?_eq {row : Nat} (small : row < 256) (kind : MenuKind) (board : Board) :
    kind.onActivate? row board = some (kind.onActivate row board) := by
  have tier (kind : MenuKind) : kind.chooseTier? row board = some (kind.chooseTier row board) := by
    unfold chooseTier? chooseTier
    split
    · rfl
    case isFalse pos => rw [choice?_eq pos small]; rfl
  have art : chooseArt? row board = some (chooseArt row board) := by
    unfold chooseArt? chooseArt
    split
    · rfl
    case isFalse pos =>
      rw [choice?_eq pos small]
      exact Board.saveSettings?_eq _
  cases kind <;> simp only [onActivate?, onActivate, tier, art, Option.bind_eq_bind,
    Option.bind_some]

end MenuKind

end KnobPanel
