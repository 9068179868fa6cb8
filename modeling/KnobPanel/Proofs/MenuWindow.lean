import KnobPanel.Menu

/-!
# The window of a list menu

The cursor stays on an item, and the window holds the cursor and does not run
past the end of the list. The window never leads the cursor: its moves are those of a
cursor without a window, which stops at the ends of the list.
-/

namespace KnobPanel.Menu

structure Windowed (menu : Menu) : Prop where
  cursor_lt : menu.cursor < menu.count
  offset_le_cursor : menu.offset ≤ menu.cursor
  cursor_lt_end : menu.cursor < menu.offset + rows
  offset_le_last : menu.offset ≤ menu.count - rows

@[simp] theorem items_navigate (forward : Bool) (menu : Menu) :
    (menu.navigate forward).items = menu.items := by
  unfold navigate
  split <;> rfl

theorem windowed_load {items : List String} (filled : 0 < items.length) (cursor : Nat) :
    (load items cursor).Windowed := by
  simp only [load]
  split <;> constructor <;> simp only [count, rows] <;> grind

theorem Windowed.navigate {menu : Menu} (windowed : menu.Windowed) (forward : Bool) :
    (menu.navigate forward).Windowed := by
  obtain ⟨cursor_lt, offset_le_cursor, cursor_lt_end, offset_le_last⟩ := windowed
  simp only [count, rows] at *
  cases forward <;> constructor <;> simp only [Menu.navigate, count, rows] <;> grind

theorem Windowed.thumb_fst_lt {menu : Menu} (windowed : menu.Windowed) :
    (thumb menu.count menu.offset).1 < screenHeight := by
  obtain ⟨inside, above, -, -⟩ := windowed
  refine Nat.div_lt_of_lt_mul ?_
  rw [Nat.mul_comm]
  exact Nat.mul_lt_mul_of_pos_right (Nat.lt_of_le_of_lt above inside) (by decide)

-- ---------------------------------------------------------------------------
-- Walks
-- ---------------------------------------------------------------------------

def clampedMove (count cursor : Nat) (forward : Bool) : Nat :=
  if forward then min (cursor + 1) (count - 1) else cursor - 1

theorem Windowed.cursor_navigate {menu : Menu} (windowed : menu.Windowed) (forward : Bool) :
    (menu.navigate forward).cursor = clampedMove menu.count menu.cursor forward := by
  have inside := windowed.cursor_lt
  cases forward with
  | true =>
    simp only [Menu.navigate, clampedMove, ↓reduceIte]
    split <;> omega
  | false => rfl

def walked (moves : List Bool) (menu : Menu) : Menu :=
  moves.foldl (fun menu forward => menu.navigate forward) menu

theorem items_walked (moves : List Bool) (menu : Menu) :
    (menu.walked moves).items = menu.items := by
  induction moves generalizing menu with
  | nil => rfl
  | cons forward moves ih => exact (ih _).trans (items_navigate forward menu)

theorem Windowed.walked {menu : Menu} (windowed : menu.Windowed) (moves : List Bool) :
    (menu.walked moves).Windowed := by
  induction moves generalizing menu with
  | nil => exact windowed
  | cons forward moves ih => exact ih (windowed.navigate forward)

theorem Windowed.cursor_walked {menu : Menu} (windowed : menu.Windowed) (moves : List Bool) :
    (menu.walked moves).cursor = moves.foldl (clampedMove menu.count) menu.cursor := by
  induction moves generalizing menu with
  | nil => rfl
  | cons forward moves ih =>
    have later := ih (windowed.navigate forward)
    rwa [count, items_navigate, windowed.cursor_navigate] at later

end KnobPanel.Menu
