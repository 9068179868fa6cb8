import Mathlib.Data.List.GetD
import KnobPanel.Proofs.TypedRows

/-!
# Lines typed over longer ones

A text typed from the start of a page, with nothing wiped behind it, leaves standing what it
does not reach. Blanks at its end cover that many columns of an older text, and no more.
-/

namespace KnobPanel

namespace CellGrid

variable {text old : List UInt8} {row : Vector UInt8 22}

/-- A text that fits on a page and ends where it can be seen. -/
structure IsLine (text : List UInt8) : Prop where
  fits : text.length ≤ 22
  ends : text.getLast? ≠ some blank

theorem isLine_nil : IsLine [] := ⟨by decide, by decide⟩

theorem isLine_append {unit : List UInt8} (fits : text.length + unit.length ≤ 22)
    (ends : unit.getLast?.any (· != blank)) : IsLine (text ++ unit) := by
  refine ⟨by rwa [List.length_append], ?_⟩
  rw [List.getLast?_append]
  cases last : unit.getLast? with
  | none => simp [last] at ends
  | some code => simpa [last] using ends

-- ---------------------------------------------------------------------------
-- Trailing blanks
-- ---------------------------------------------------------------------------

def trimmed (row : Vector UInt8 22) : List UInt8 :=
  (row.toList.reverse.dropWhile (· == blank)).reverse

theorem getD_append_blanks (text : List UInt8) (blanks c : Nat) :
    (text ++ .replicate blanks blank).getD c blank = text.getD c blank := by
  rcases Nat.lt_or_ge c text.length with inside | behind
  · exact List.getD_append _ _ _ _ inside
  · rw [List.getD_append_right _ _ _ _ behind, List.getD_eq_default _ _ behind,
      List.getD_eq_getElem?_getD, List.getElem?_getD_replicate_default_eq]

theorem getD_dropWhile_blank (back : List UInt8) (c : Nat) :
    (back.dropWhile (· == blank)).reverse.getD c blank = back.reverse.getD c blank := by
  induction back with
  | nil => rfl
  | cons code back ih =>
    by_cases empty : code = blank
    · rw [List.dropWhile_cons_of_pos (by simpa using empty), ih, List.reverse_cons, empty]
      exact (getD_append_blanks back.reverse 1 c).symm
    · rw [List.dropWhile_cons_of_neg (by simpa using empty)]

theorem lineOf_trimmed (row : Vector UInt8 22) : lineOf (trimmed row) = row := by
  refine Vector.ext fun c hc => ?_
  rw [getElem_lineOf, trimmed, getD_dropWhile_blank, List.reverse_reverse,
    List.getD_eq_getElem _ _ (by simpa), Vector.getElem_toList]

theorem toList_lineOf (fits : text.length ≤ 22) :
    (lineOf text).toList = text ++ .replicate (22 - text.length) blank := by
  refine List.ext_getElem (by simp [fits]) fun c hc hc' => ?_
  rw [Vector.getElem_toList, getElem_lineOf, ← getD_append_blanks text (22 - text.length),
    List.getD_eq_getElem _ _ hc']

theorem trimmed_lineOf (line : IsLine text) : trimmed (lineOf text) = text := by
  have blanks : ∀ code ∈ List.replicate (22 - text.length) blank, (code == blank) = true :=
    fun code found => beq_iff_eq.mpr (List.eq_of_mem_replicate found)
  have ends : text.reverse.dropWhile (· == blank) = text.reverse := by
    have last := line.ends
    rw [← List.head?_reverse] at last
    cases back : text.reverse with
    | nil => rfl
    | cons code rest =>
      rw [back] at last
      exact List.dropWhile_cons_of_neg (by simpa using last)
  rw [trimmed, toList_lineOf line.fits, List.reverse_append, List.reverse_replicate,
    List.dropWhile_append_of_pos blanks, ends, List.reverse_reverse]

theorem trimmed_eq_iff (line : IsLine text) : trimmed row = text ↔ row = lineOf text :=
  ⟨fun reads => reads ▸ (lineOf_trimmed row).symm, fun shows => shows ▸ trimmed_lineOf line⟩

-- ---------------------------------------------------------------------------
-- One text over another
-- ---------------------------------------------------------------------------

def overlay (text : List UInt8) (row : Vector UInt8 22) : Vector UInt8 22 :=
  .ofFn fun c => text.getD c row[c]

theorem getElem_overlay (text : List UInt8) (row : Vector UInt8 22) (c : Nat) (hc : c < 22) :
    (overlay text row)[c] = text.getD c row[c] :=
  Vector.getElem_ofFn hc

/-- Nothing of the older text is left exactly if the blanks make up for what it is longer. -/
theorem overlay_lineOf_eq_iff (line : IsLine old) {blanks : Nat} :
    overlay (text ++ .replicate blanks blank) (lineOf old) = lineOf text ↔
      old.length ≤ text.length + blanks := by
  have width : (text ++ List.replicate blanks blank).length = text.length + blanks := by simp
  have typed (c : Nat) (hc : c < 22) (inside : c < text.length + blanks) :
      (overlay (text ++ .replicate blanks blank) (lineOf old))[c] = text.getD c blank := by
    rw [getElem_overlay, ← getD_append_blanks text blanks,
      List.getD_eq_getElem _ _ (width ▸ inside), List.getD_eq_getElem _ _ (width ▸ inside)]
  have standing (c : Nat) (hc : c < 22) (behind : text.length + blanks ≤ c) :
      (overlay (text ++ .replicate blanks blank) (lineOf old))[c] = old.getD c blank := by
    rw [getElem_overlay, List.getD_eq_default _ _ (width ▸ behind), getElem_lineOf]
  constructor
  · intro same
    refine Nat.le_of_not_lt fun longer => line.ends ?_
    -- the last code of the older text is behind the newer one and its blanks
    have hc : old.length - 1 < 22 := by have := line.fits; omega
    have last := standing (old.length - 1) hc (by omega)
    rw [same, getElem_lineOf, List.getD_eq_default _ _ (by omega),
      List.getD_eq_getElem _ _ (by omega)] at last
    rw [List.getLast?_eq_getElem?, List.getElem?_eq_getElem (by omega), last]
  · intro covered
    refine Vector.ext fun c hc => ?_
    rw [getElem_lineOf]
    rcases Nat.lt_or_ge c (text.length + blanks) with inside | behind
    · exact typed c hc inside
    · rw [standing c hc behind, List.getD_eq_default _ _ (by omega),
        List.getD_eq_default _ _ (by omega)]

end CellGrid

-- ---------------------------------------------------------------------------
-- Numbers
-- ---------------------------------------------------------------------------

theorem codes_append (first second : String) :
    codes (first ++ second) = codes first ++ codes second := by
  simp only [codes_eq, String.toList_append, List.flatMap_append]

theorem toList_toString (n : Nat) : (toString n).toList = Nat.toDigits 10 n := by
  rw [Nat.toString_eq_repr, Nat.toList_repr]

theorem length_codes_toString (n : Nat) :
    (codes (toString n)).length = (Nat.toDigits 10 n).length := by
  have digit : ∀ char ∈ Nat.toDigits 10 n, (String.utf8EncodeChar char).length = 1 := by
    intro char found
    have range := Char.isDigit_iff_toNat.mp
      (Nat.isDigit_of_mem_toDigits (by decide) (by decide) found)
    rw [String.length_utf8EncodeChar, Char.utf8Size_eq_one_iff, UInt32.le_iff_toNat_le]
    exact Nat.le_trans range.2 (by decide)
  rw [codes_eq, toList_toString, List.length_flatMap, List.map_congr_left digit, List.map_const',
    List.sum_replicate_nat, Nat.mul_one]

theorem length_codes_toString_le {n m : Nat} (le : n ≤ m) :
    (codes (toString n)).length ≤ (codes (toString m)).length := by
  have pos : 0 < (Nat.toDigits 10 m).length := Nat.length_toDigits_pos
  rw [length_codes_toString, length_codes_toString, Nat.length_toDigits_le_iff (by decide) pos]
  exact Nat.lt_of_le_of_lt le ((Nat.length_toDigits_le_iff (by decide) pos).mp (Nat.le_refl _))

theorem newline_notMem_codes_toString (n : Nat) : newline ∉ codes (toString n) := by
  rw [newline_mem_codes_iff, toList_toString]
  exact fun found => absurd (Nat.isDigit_of_mem_toDigits (by decide) (by decide) found) (by decide)

-- ---------------------------------------------------------------------------
-- Displays
-- ---------------------------------------------------------------------------

def DrawOp.typed : DrawOp → List UInt8
  | text string _ => codes string
  | glyph code _ => [code]
  | _ => []

def DrawOp.isTyping : DrawOp → Bool
  | text _ _ | glyph _ _ => true
  | _ => false

namespace CellDisplay

variable {ops : List DrawOp} (typing : ops.all DrawOp.isTyping)
  (plain : newline ∉ ops.flatMap DrawOp.typed)
include typing plain

theorem run_typing (display : CellDisplay) :
    display.run ops = display.typeAll (ops.flatMap DrawOp.typed) := by
  induction ops generalizing display with
  | nil => rfl
  | cons op ops ih =>
    rw [List.all_cons, Bool.and_eq_true] at typing
    rw [List.flatMap_cons, List.mem_append, not_or] at plain
    have here : display.apply op = display.typeAll op.typed := by
      cases op with
      | text => rfl
      | glyph code =>
        have other : code ≠ newline := fun same => plain.1 (List.mem_singleton.mpr same.symm)
        have put : display.typeAll [code] = (display.put code).typeAll [] := typeAll_cons other
        exact put.symm
      | _ => cases typing.1
    calc display.run (op :: ops)
      _ = (display.apply op).typeAll (ops.flatMap DrawOp.typed) := ih typing.2 plain.2 _
      _ = display.typeAll (op.typed ++ ops.flatMap DrawOp.typed) := by
        rw [here, typeAll, typeAll, typeAll, List.foldl_append]

/-- What is typed from the start of a page covers the page as far as it reaches. -/
theorem get_run_line (page : UInt8) (display : CellDisplay) (p : Page) :
    (display.run (.cursor 0 page :: ops)).grid.get p =
      if p = .ofByte page then CellGrid.overlay (ops.flatMap DrawOp.typed) (display.grid.get p)
      else display.grid.get p := by
  have start : display.run (.cursor 0 page :: ops) =
      ({ display with x := 0, page := .ofByte page } : CellDisplay).typeAll
        (ops.flatMap DrawOp.typed) :=
    run_typing typing plain _
  refine Vector.ext fun c hc => ?_
  rw [start, getElem_typeAll plain p c hc]
  simp only [Nat.zero_div, Nat.zero_le, Nat.zero_add, Nat.sub_zero, true_and]
  by_cases on : p = .ofByte page
  · rw [if_pos on, CellGrid.getElem_overlay]
    split
    case isTrue inside =>
      rw [List.getD_eq_getElem _ _ inside.2, List.getD_eq_getElem _ _ inside.2]
    case isFalse outside =>
      rw [List.getD_eq_default _ _ (Nat.le_of_not_lt fun inside => outside ⟨on, inside⟩)]
  · rw [if_neg on, if_neg fun both => on both.1]

theorem get_run_wiped {page : UInt8} {p : Page} (away : p ≠ .ofByte page) (display : CellDisplay) :
    (display.run (.cursor 0 page :: ops ++ [.advance true])).grid.get p = display.grid.get p := by
  have start : display.run (.cursor 0 page :: ops) =
      ({ display with x := 0, page := .ofByte page } : CellDisplay).typeAll
        (ops.flatMap DrawOp.typed) :=
    run_typing typing plain _
  have stays : (display.run (.cursor 0 page :: ops)).page = .ofByte page := by
    rw [start, page_typeAll plain]
  have line := get_run_line typing plain page display p
  rw [if_neg away] at line
  rw [run_append, ← line]
  refine Vector.ext fun c hc => (CellGrid.get_blankFrom _ _ _ _ _ hc).trans (if_neg ?_)
  exact fun both => away (both.1.trans stays)

end CellDisplay

end KnobPanel
