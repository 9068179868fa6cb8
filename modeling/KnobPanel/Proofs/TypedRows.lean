import KnobPanel.Proofs.Pictures

/-!
# Lines typed on cells

A text without a line break, typed from the start of a page and wiped behind, is what that
page shows, whatever was there before: blanks follow it, and the end of the line cuts it.
-/

namespace KnobPanel

-- ---------------------------------------------------------------------------
-- Codes of a text
-- ---------------------------------------------------------------------------

theorem toList_loop (bytes : ByteArray) (i : Nat) (done : List UInt8) :
    ByteArray.toList.loop bytes i done = done.reverse ++ bytes.data.toList.drop i := by
  fun_induction ByteArray.toList.loop bytes i done with
  | case1 i done inside ih =>
    have lt : i < bytes.data.toList.length := inside
    rw [ih, List.drop_eq_getElem_cons lt]
    simp [ByteArray.get!, inside]
  | case2 i done outside =>
    have le : bytes.data.toList.length ≤ i := Nat.le_of_not_lt outside
    rw [List.drop_eq_nil_of_le le, List.append_nil]

theorem codes_eq (text : String) : codes text = text.toList.flatMap String.utf8EncodeChar := by
  have encoded : text.toUTF8 = (text.toList.flatMap String.utf8EncodeChar).toByteArray := by
    rw [← List.utf8Encode, ← String.toByteArray_ofList, String.ofList_toList]
    rfl
  rw [codes, ByteArray.toList, toList_loop, encoded, List.toList_data_toByteArray]
  rfl

/-- A line break is a code of its own; all bytes of a longer code have their highest bit
set. -/
theorem newline_mem_utf8EncodeChar_iff {char : Char} :
    newline ∈ String.utf8EncodeChar char ↔ char = '\n' := by
  have same : char = '\n' ↔ char.val.toNat = 10 := by
    rw [← Char.val_inj, ← UInt32.toNat_inj]
    rfl
  rw [same]
  simp only [String.utf8EncodeChar]
  generalize char.val.toNat = n
  have byte (k : Nat) : newline = UInt8.ofNat k ↔ k % 256 = 10 := by
    rw [← UInt8.toNat_inj, UInt8.toNat_ofNat', eq_comm]
    rfl
  split
  case isTrue =>
    rw [List.mem_singleton, byte]
    omega
  case isFalse =>
    split
    case isTrue =>
      simp only [List.mem_cons, List.not_mem_nil, or_false, byte]
      omega
    case isFalse =>
      split <;> simp only [List.mem_cons, List.not_mem_nil, or_false, byte] <;> omega

theorem newline_mem_codes_iff {text : String} : newline ∈ codes text ↔ '\n' ∈ text.toList := by
  simp [codes_eq, newline_mem_utf8EncodeChar_iff]

-- ---------------------------------------------------------------------------
-- Cells of a page
-- ---------------------------------------------------------------------------

namespace CellGrid

theorem ext {a b : CellGrid} (h : ∀ (p : Page) (c : Nat) (hc : c < 22), (a.get p)[c] = (b.get p)[c]) :
    a = b :=
  Vector.ext fun p hp => Vector.ext fun c hc => h ⟨p, hp⟩ c hc

def lineOf (text : List UInt8) : Vector UInt8 22 := .ofFn fun c => text.getD c blank

theorem getElem_lineOf (text : List UInt8) (c : Nat) (hc : c < 22) :
    (lineOf text)[c] = text.getD c blank :=
  Vector.getElem_ofFn hc

theorem get_zero_lineOf (text : List UInt8) : (lineOf text).get 0 = text.getD 0 blank :=
  getElem_lineOf text 0 (by decide)

theorem get_empty (p : Page) : empty.get p = lineOf [] := by
  refine Vector.ext fun c hc => ?_
  rw [getElem_lineOf]
  simp [empty, Vector.get]

def setPage (page : Page) (row : Vector UInt8 22) (grid : CellGrid) : CellGrid :=
  .ofFn fun p => if p = page then row else grid.get p

theorem get_setPage (page : Page) (row : Vector UInt8 22) (grid : CellGrid) (p : Page) :
    (grid.setPage page row).get p = if p = page then row else grid.get p :=
  Vector.getElem_ofFn p.isLt

theorem get_blankFrom (page : Page) (col : Nat) (grid : CellGrid) (p : Page) (c : Nat)
    (hc : c < 22) :
    ((grid.blankFrom page col).get p)[c] =
      if p = page ∧ col ≤ c then blank else (grid.get p)[c] :=
  getElem_blankFrom page col grid p c hc

end CellGrid

namespace CellDisplay

variable {text : List UInt8} {display : CellDisplay}

theorem typeAll_cons {code : UInt8} (plain : code ≠ newline) :
    display.typeAll (code :: text) = (display.put code).typeAll text := by
  rw [typeAll, List.foldl_cons, type, if_neg plain]
  rfl

theorem getElem_typeAll (plain : newline ∉ text) (p : Page) (c : Nat) (hc : c < 22) :
    ((display.typeAll text).grid.get p)[c] =
      if p = display.page ∧ display.x / cellWidth ≤ c ∧ c < display.x / cellWidth + text.length then
        text.getD (c - display.x / cellWidth) CellGrid.blank
      else (display.grid.get p)[c] := by
  induction text generalizing display with
  | nil =>
    rw [if_neg fun ⟨_, le, lt⟩ => Nat.not_lt.mpr le lt]
    rfl
  | cons code text ih =>
    obtain ⟨first, others⟩ := List.ne_and_not_mem_of_not_mem_cons plain
    rw [typeAll_cons first.symm, ih others]
    have written : ((display.put code).grid.get p)[c] =
        if p = display.page ∧ c = display.x / cellWidth then code else (display.grid.get p)[c] :=
      CellGrid.getElem_put ..
    -- on the page, the cursor counts up to the highest byte
    have column : (display.put code).x / cellWidth = min (display.x / cellWidth + 1) 42 := by
      simp only [put, cellWidth]
      omega
    have page : (display.put code).page = display.page := rfl
    rw [written, column, page]
    rcases Nat.lt_trichotomy c (display.x / cellWidth) with before | rfl | behind
    · rw [if_neg (by omega), if_neg (by omega), if_neg (by omega)]
    · rw [if_neg (by omega), Nat.sub_self, List.getD_cons_zero, List.length_cons]
      by_cases on : p = display.page
      · rw [if_pos ⟨on, rfl⟩, if_pos ⟨on, by omega, by omega⟩]
      · rw [if_neg fun both => on both.1, if_neg fun all => on all.1]
    · have next : min (display.x / cellWidth + 1) 42 = display.x / cellWidth + 1 := by omega
      have back : c - display.x / cellWidth = c - (display.x / cellWidth + 1) + 1 := by omega
      rw [next, back, List.getD_cons_succ, List.length_cons]
      by_cases on : p = display.page ∧ c < display.x / cellWidth + 1 + text.length
      · rw [if_pos ⟨on.1, by omega, on.2⟩, if_pos ⟨on.1, by omega, by omega⟩]
      · rw [if_neg fun all => on ⟨all.1, all.2.2⟩, if_neg (by omega),
          if_neg fun all => on ⟨all.1, by omega⟩]

theorem column_typeAll_le_iff (plain : newline ∉ text) {c : Nat} (hc : c < 22) :
    (display.typeAll text).x / cellWidth ≤ c ↔ display.x / cellWidth + text.length ≤ c := by
  induction text generalizing display with
  | nil => rfl
  | cons code text ih =>
    obtain ⟨first, others⟩ := List.ne_and_not_mem_of_not_mem_cons plain
    rw [typeAll_cons first.symm, ih others, List.length_cons]
    simp only [put, cellWidth]
    omega

theorem page_typeAll (plain : newline ∉ text) :
    (display.typeAll text).page = display.page := by
  induction text generalizing display with
  | nil => rfl
  | cons code text ih =>
    obtain ⟨first, others⟩ := List.ne_and_not_mem_of_not_mem_cons plain
    rw [typeAll_cons first.symm, ih others]
    rfl

/-- A line typed from the start of a page, the rest of which is wiped. -/
def typeLine (text : List UInt8) (display : CellDisplay) : CellDisplay :=
  (display.typeAll text).advance true

theorem typeLine_eq (plain : newline ∉ text) (start : display.x = 0) :
    display.typeLine text =
      { display with
        grid := display.grid.setPage display.page (CellGrid.lineOf text)
        x := 0
        page := display.page.next } := by
  have page : (display.typeAll text).page = display.page := page_typeAll plain
  have grid : (display.typeAll text).grid.blankFrom display.page
      ((display.typeAll text).x / cellWidth) =
        display.grid.setPage display.page (CellGrid.lineOf text) := by
    refine CellGrid.ext fun p c hc => ?_
    simp only [CellGrid.get_blankFrom, getElem_typeAll plain, column_typeAll_le_iff plain hc,
      CellGrid.get_setPage, start, Nat.zero_div, Nat.zero_add, Nat.zero_le, true_and,
      Nat.sub_zero]
    by_cases on : p = display.page
    · by_cases inside : c < text.length
      · simp only [on, inside, Nat.not_le.mpr inside, ↓reduceIte, and_false, and_true,
          CellGrid.getElem_lineOf]
      · have behind := Nat.le_of_not_lt inside
        simp only [on, behind, ↓reduceIte, and_self, CellGrid.getElem_lineOf,
          List.getD_eq_getElem?_getD, List.getElem?_eq_none behind, Option.getD_none]
    · simp only [on, false_and, ↓reduceIte]
  obtain ⟨_, _, _, typed⟩ := display.typeAll_frame text
  rw [typeLine, advance, if_pos rfl, page, grid]
  rw [typed]

def typeLines (lines : List (List UInt8)) (display : CellDisplay) : CellDisplay :=
  lines.foldl (fun display text => display.typeLine text) display

/-- Lines that do not run past the last page are what their pages show; the other pages
stay as they are. -/
theorem get_typeLines {lines : List (List UInt8)} (plain : ∀ text ∈ lines, newline ∉ text)
    (start : display.x = 0) (room : display.page.val + lines.length ≤ 8) (p : Page) :
    (display.typeLines lines).grid.get p =
      if display.page.val ≤ p.val ∧ p.val < display.page.val + lines.length then
        CellGrid.lineOf (lines.getD (p.val - display.page.val) [])
      else display.grid.get p := by
  induction lines generalizing display with
  | nil =>
    rw [if_neg fun ⟨le, lt⟩ => Nat.not_lt.mpr le lt]
    rfl
  | cons text lines ih =>
    obtain ⟨first, others⟩ := List.forall_mem_cons.mp plain
    rw [List.length_cons] at room ⊢
    have next := display.page.next_val
    have typed :
        display.typeLines (text :: lines) = (display.typeLine text).typeLines lines := rfl
    rw [typed, typeLine_eq first start, ih others rfl (by simp only; split at next <;> omega)]
    simp only [CellGrid.get_setPage]
    rcases Nat.lt_trichotomy p.val display.page.val with above | here | below
    · have away : p ≠ display.page := fun same => Nat.ne_of_lt above (congrArg Fin.val same)
      rw [if_neg (by split at next <;> omega), if_neg away, if_neg (by omega)]
    · obtain rfl : p = display.page := Fin.ext here
      rw [if_neg (by split at next <;> omega), if_pos rfl, if_pos (by omega), Nat.sub_self,
        List.getD_cons_zero]
    · have away : p ≠ display.page := fun same => Nat.ne_of_gt below (congrArg Fin.val same)
      have following : display.page.next.val = display.page.val + 1 := by split at next <;> omega
      have back : p.val - display.page.val = p.val - (display.page.val + 1) + 1 := by omega
      rw [if_neg away, following, back, List.getD_cons_succ]
      exact ite_congr (propext (by omega)) (fun _ => rfl) fun _ => rfl

end CellDisplay

end KnobPanel
