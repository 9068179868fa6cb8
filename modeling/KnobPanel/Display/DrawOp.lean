/-!
# Drawing

Drawing is data: screens produce lists of operations, and displays carry them
out. The cursor is measured in pixels across and in pages of eight pixel rows
down.
-/

namespace KnobPanel

inductive InvertMode where
  | off
  | on
  | toggle
  deriving DecidableEq

namespace InvertMode

def ofBool (inverted : Bool) : InvertMode := if inverted then on else off

def apply : InvertMode → Bool → Bool
  | off, _ => false
  | on, _ => true
  | toggle, inverted => !inverted

theorem apply_ofBool (inverted before : Bool) : (ofBool inverted).apply before = inverted := by
  cases inverted <;> rfl

end InvertMode

inductive Image where
  | logo
  | tomato
  | bongoUp
  | bongoLeft
  | bongoRight
  | bongoBoth
  deriving DecidableEq

inductive DrawOp where
  | clear
  | cursor (x page : UInt8)
  /-- Text at the cursor; a newline wipes the rest of the page and goes on to
  the next one. -/
  | text (text : String) (inverted : Bool)
  | glyph (code : UInt8) (inverted : Bool)
  | pixel (x y : Int) (lit : Bool)
  /-- Go to the start of the next page; `wipe` blanks the rest of this one. -/
  | advance (wipe : Bool)
  /-- Darken so many pixels and pages from the cursor. -/
  | wipe (width pages : UInt8)
  | image (image : Image)
  | brightness (level : UInt8)
  | invert (mode : InvertMode)
  | power (on : Bool)
  | flush
  deriving DecidableEq

def codes (text : String) : List UInt8 := text.toUTF8.toList

def newline : UInt8 := 10

def screenWidth : Nat := 128

def screenHeight : Nat := 64

def pageHeight : Nat := 8

def cellWidth : Nat := 6

abbrev Page := Fin 8

namespace Page

def first : Page := 0

def ofByte (number : UInt8) : Page := .ofNat 8 number.toNat

def next (page : Page) : Page := page + 1

theorem next_val (page : Page) : page.next.val = if page.val = 7 then 0 else page.val + 1 := by
  simp only [next, Fin.val_add]
  split <;> omega

end Page

end KnobPanel
