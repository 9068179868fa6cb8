import KnobPanel.Proofs.CheckedMenus
import KnobPanel.Proofs.PanelPixels

/-!
# The thumb of a scroll bar

A list longer than the screen has a scroll bar, with a thumb that follows the window. The
thumb begins where the window does and has a least length, but not a least distance from
the end of its track: in a very long list the track cuts it.
-/

namespace KnobPanel.Menu

-- ---------------------------------------------------------------------------
-- Where the window can be
-- ---------------------------------------------------------------------------

def Reached (items : List String) (menu : Menu) : Prop :=
  ∃ start moves, menu = (load items start).walked moves

section
variable {items : List String} {menu : Menu}

theorem Reached.count_eq (reached : Reached items menu) : menu.count = items.length := by
  obtain ⟨start, moves, rfl⟩ := reached
  rw [count, items_walked]
  rfl

theorem Reached.windowed (reached : Reached items menu) (filled : 0 < items.length) :
    menu.Windowed := by
  obtain ⟨start, moves, rfl⟩ := reached
  exact (windowed_load filled start).walked moves

/-- From the title forwards, the window starts to move when the cursor is on its last row. -/
theorem walked_forwards {steps : Nat} (inside : steps < items.length) :
    (load items 0).walked (.replicate steps true) =
      { items, cursor := steps, offset := steps + 1 - rows } := by
  induction steps with
  | zero => simp [walked, load, rows]
  | succ steps ih =>
    have before : (load items 0).walked (.replicate (steps + 1) true) =
        ((load items 0).walked (.replicate steps true)).navigate true := by
      rw [List.replicate_succ', walked, List.foldl_append]
      rfl
    rw [before, ih (Nat.lt_of_succ_lt inside)]
    simp only [navigate, count, ↓reduceIte, inside, mk.injEq, true_and, rows]
    split <;> omega

theorem reached_offset_iff (long : rows < items.length) {offset : Nat} :
    (∃ menu, Reached items menu ∧ menu.offset = offset) ↔ offset ≤ items.length - rows := by
  constructor
  · rintro ⟨menu, reached, rfl⟩
    have last := (reached.windowed (Nat.zero_lt_of_lt long)).offset_le_last
    rwa [reached.count_eq] at last
  · intro le
    have inside : offset + (rows - 1) < items.length := by
      simp only [rows] at *
      omega
    refine ⟨_, ⟨0, .replicate (offset + (rows - 1)) true, rfl⟩, ?_⟩
    rw [walked_forwards inside]
    exact Nat.add_sub_cancel offset rows

end

-- ---------------------------------------------------------------------------
-- Rows of the thumb
-- ---------------------------------------------------------------------------

def thumbTop (menu : Menu) : Nat := (thumb menu.count menu.offset).1

def thumbLength (menu : Menu) : Nat :=
  (thumb menu.count menu.offset).2 - (thumb menu.count menu.offset).1

/-- The length of the thumb as long as the track has room for it. -/
def wholeLength (count : Nat) : Nat := max (screenHeight * rows / count) 4

theorem thumbLength_eq (menu : Menu) :
    menu.thumbLength = min (wholeLength menu.count) (screenHeight - menu.thumbTop) := by
  simp only [thumbLength, thumbTop, thumb, wholeLength]
  omega

theorem thumbTop_le_thumbTop {a b : Menu} (same : a.count = b.count) (le : a.offset ≤ b.offset) :
    a.thumbTop ≤ b.thumbTop := by
  simp only [thumbTop, thumb, same]
  exact Nat.div_le_div_right (Nat.mul_le_mul_left _ le)

theorem thumbTop_eq_zero_iff {menu : Menu} (filled : 0 < menu.count) :
    menu.thumbTop = 0 ↔ screenHeight * menu.offset < menu.count := by
  simp only [thumbTop, thumb, Nat.div_eq_zero_iff, Nat.ne_of_gt filled, false_or]

/-- Up to 170 items the track has room for the thumb, wherever the window is. -/
theorem thumbTop_add_wholeLength_le {menu : Menu} (window : menu.offset + rows ≤ menu.count)
    (short : menu.count ≤ 170) : menu.thumbTop + wholeLength menu.count ≤ screenHeight := by
  have filled : 0 < menu.count := Nat.lt_of_lt_of_le (Nat.succ_pos _) window
  simp only [thumbTop, thumb, wholeLength]
  rcases Nat.le_total 4 (screenHeight * rows / menu.count) with far | near
  · rw [Nat.max_eq_left far]
    calc screenHeight * menu.offset / menu.count + screenHeight * rows / menu.count
      _ ≤ (screenHeight * menu.offset + screenHeight * rows) / menu.count :=
        Nat.div_add_div_le_add_div
      _ ≤ screenHeight := by
        refine Nat.div_le_of_le_mul ?_
        rw [← Nat.mul_add, Nat.mul_comm]
        exact Nat.mul_le_mul_right _ window
  · rw [Nat.max_eq_right near]
    have top : screenHeight * menu.offset / menu.count < 61 := by
      refine Nat.div_lt_of_lt_mul ?_
      simp only [screenHeight, rows] at *
      omega
    simp only [screenHeight] at *
    omega

/-- From 171 items on, the last window leaves less than four rows. -/
theorem thumbTop_gt {menu : Menu} (last : menu.offset + rows = menu.count)
    (long : 171 ≤ menu.count) : 60 < menu.thumbTop := by
  refine (Nat.le_div_iff_mul_le (by omega)).mpr ?_
  simp only [screenHeight, rows] at *
  omega

-- ---------------------------------------------------------------------------
-- The bar on the panel
-- ---------------------------------------------------------------------------

def columnPixels (x : Int) (lit : Nat → Bool) : List (Int × Int × Bool) :=
  (List.range screenHeight).map fun (y : Nat) => (x, (y : Int), lit y)

theorem mem_columnPixels_iff {x : Int} {lit : Nat → Bool} (x' y' : Int) (value : Bool) :
    (x', y', value) ∈ columnPixels x lit ↔
      Area.Has ⟨x, 0, 1, screenHeight⟩ x' y' ∧ value = lit y'.toNat := by
  simp only [columnPixels, List.mem_map, List.mem_range, Prod.mk.injEq, Area.Has]
  constructor
  · rintro ⟨y, below, rfl, rfl, rfl⟩
    exact ⟨by omega, rfl⟩
  · rintro ⟨has, rfl⟩
    exact ⟨y'.toNat, by omega, by omega, by omega, rfl⟩

def column (x : Int) (top length : Nat) : List DrawOp :=
  (List.range screenHeight).map fun (y : Nat) => .pixel x y (top ≤ y && y < top + length)

theorem lit_run_column (x : Int) (top length : Nat) (panel : Panel) (x' : Int) {y : Nat}
    (inside : Frame.Inside x' y) :
    (panel.run (column x top length)).frame.lit x' y =
      if x' = x then (top ≤ y && y < top + length) else panel.frame.lit x' y := by
  have drawn : column x top length =
      (columnPixels x fun y => top ≤ y && y < top + length).map
        fun pixel => .pixel pixel.1 pixel.2.1 pixel.2.2 := by
    rw [columnPixels, List.map_map]
    rfl
  have has : Frame.Inside x' y ∧ Area.Has ⟨x, 0, 1, screenHeight⟩ x' y ↔ x' = x := by
    simp only [Frame.Inside, Area.Has, screenHeight] at *
    omega
  rw [drawn, Panel.frame_run_pixels, Frame.lit_paint_of_iff mem_columnPixels_iff]
  simp only [has, Int.toNat_natCast]

/-- The pixels of a drawn menu at the right edge: two equal columns, and one lit run within
the height of the screen. -/
structure ScrollBar (menu : Menu) (top length : Nat) : Prop where
  drawn : menu.drawScrollBar = column 127 top length ++ column 126 top length
  shown (panel : Panel) {x : Int} {y : Nat} : x = 126 ∨ x = 127 → y < screenHeight →
    (panel.run menu.draw).frame.lit x y = (top ≤ y && y < top + length)
  lit : 0 < length
  inTrack : top + length ≤ screenHeight

theorem Windowed.scrollBar {menu : Menu} (windowed : menu.Windowed) (long : rows < menu.count) :
    menu.ScrollBar menu.thumbTop menu.thumbLength := by
  have top : menu.thumbTop < screenHeight := windowed.thumb_fst_lt
  have length := menu.thumbLength_eq
  have whole : 4 ≤ wholeLength menu.count := Nat.le_max_right ..
  have drawn : menu.drawScrollBar =
      column 127 menu.thumbTop menu.thumbLength ++ column 126 menu.thumbTop menu.thumbLength := by
    have bottom : (thumb menu.count menu.offset).2 = menu.thumbTop + menu.thumbLength := by
      simp only [thumbTop, thumbLength, thumb] at *
      omega
    rw [drawScrollBar, if_neg (Nat.not_le.mpr long)]
    simp only [bottom, List.flatMap_cons, List.flatMap_nil, List.append_nil]
    rfl
  refine ⟨drawn, fun panel {x y} edge below => ?_, by omega, by omega⟩
  have inside : Frame.Inside x y := by
    simp only [Frame.Inside, screenHeight] at *
    omega
  rw [draw, Panel.run_append, drawn, Panel.run_append, lit_run_column _ _ _ _ _ inside,
    lit_run_column _ _ _ _ _ inside]
  rcases edge with rfl | rfl <;> rfl

-- ---------------------------------------------------------------------------
-- Lists
-- ---------------------------------------------------------------------------

/-- The scroll bar over all windows of a list. -/
structure Scrolling (items : List String) : Prop where
  offsets {offset : Nat} :
    (∃ menu, Reached items menu ∧ menu.offset = offset) ↔ offset ≤ items.length - rows
  bar {menu : Menu} : Reached items menu → menu.ScrollBar menu.thumbTop menu.thumbLength
  length_eq {menu : Menu} : Reached items menu →
    menu.thumbLength = min (wholeLength items.length) (screenHeight - menu.thumbTop)
  atTop {menu : Menu} : Reached items menu → items.length ≤ 64 →
    (menu.thumbTop = 0 ↔ menu.offset = 0)
  follows {a b : Menu} : Reached items a → Reached items b → a.offset ≤ b.offset →
    a.thumbTop ≤ b.thumbTop
  checked {menu : Menu} : Reached items menu → screenHeight * items.length ≤ Word.addressSize →
    menu.draw? = some menu.draw

theorem scrolling {items : List String} (long : rows < items.length) : Scrolling items := by
  have filled : 0 < items.length := Nat.zero_lt_of_lt long
  refine ⟨reached_offset_iff long, fun reached => ?_, fun {menu} reached => ?_,
    fun reached short => ?_, fun first second => ?_, fun reached fits => ?_⟩
  · exact (reached.windowed filled).scrollBar (by rwa [reached.count_eq])
  · rw [thumbLength_eq, reached.count_eq]
  · rw [thumbTop_eq_zero_iff (by rwa [reached.count_eq]), reached.count_eq]
    simp only [screenHeight, rows] at *
    omega
  · exact thumbTop_le_thumbTop (first.count_eq.trans second.count_eq.symm)
  · exact draw?_eq_of_le (reached.windowed filled) (by rwa [reached.count_eq])

/-- The end of the track never cuts the thumb: it has its least length, and the same length
in all windows. -/
structure Uncut (items : List String) : Prop where
  least {menu : Menu} : Reached items menu → 4 ≤ menu.thumbLength
  same {a b : Menu} : Reached items a → Reached items b → a.thumbLength = b.thumbLength

theorem uncut_of_le {items : List String} (long : rows < items.length)
    (short : items.length ≤ 170) : Uncut items := by
  have whole {menu : Menu} (reached : Reached items menu) :
      menu.thumbLength = wholeLength items.length := by
    have count := reached.count_eq
    have last := (reached.windowed (Nat.zero_lt_of_lt long)).offset_le_last
    have room := menu.thumbTop_add_wholeLength_le (by omega) (by omega)
    rw [thumbLength_eq, count]
    rw [count] at room
    omega
  exact ⟨fun reached => whole reached ▸ Nat.le_max_right .., fun first second =>
    (whole first).trans (whole second).symm⟩

theorem length_le_of_uncut {items : List String} (long : rows < items.length)
    (uncut : Uncut items) : items.length ≤ 170 := by
  refine Nat.le_of_not_lt fun many => ?_
  obtain ⟨menu, reached, last⟩ := (reached_offset_iff long).mpr (Nat.le_refl _)
  have count := reached.count_eq
  have least := uncut.least reached
  have top := menu.thumbTop_gt (by omega) (by omega)
  rw [thumbLength_eq] at least
  simp only [screenHeight] at least
  omega

/-- Every list longer than the screen has a scroll bar that follows its windows. The thumb
is whole in all of them exactly up to 170 items. -/
theorem thumb_uncut_iff {items : List String} (long : rows < items.length) :
    Scrolling items ∧ (Uncut items ↔ items.length ≤ 170) :=
  ⟨scrolling long, length_le_of_uncut long, uncut_of_le long⟩

def longList (count : Nat) : List String := .replicate count "a"

theorem length_longList (count : Nat) : (longList count).length = count := List.length_replicate

theorem thumb_uncut_iff_longest :
    rows < (longList 170).length ∧ Scrolling (longList 170) ∧ Uncut (longList 170) := by
  have length := length_longList 170
  have long : rows < (longList 170).length := by
    rw [length]
    decide
  obtain ⟨scrolling, uncut⟩ := thumb_uncut_iff long
  exact ⟨long, scrolling, uncut.mpr (Nat.le_of_eq length)⟩

theorem not_uncut_oneMore :
    (load (longList 171) 0).drawScrollBar = column 127 0 4 ++ column 126 0 4 ∧
      (load (longList 171) 170).drawScrollBar = column 127 61 3 ++ column 126 61 3 ∧
      ¬Uncut (longList 171) := by
  refine ⟨by decide +kernel, by decide +kernel, fun uncut => ?_⟩
  have cut : (load (longList 171) 170).thumbLength = 3 := by decide +kernel
  have least : 4 ≤ (load (longList 171) 170).thumbLength := uncut.least ⟨170, [], rfl⟩
  rw [cut] at least
  exact absurd least (by decide)

end KnobPanel.Menu
