import Mathlib.Data.List.Chain
import KnobPanel.Proofs.OverwrittenLines
import KnobPanel.Proofs.SensorCycle

/-!
# Lines that show the current values

The dashboard types its values over the older ones, with blanks behind them. A line reads the
current value as long as no value is shorter than the one before it by more than the blanks.
-/

namespace KnobPanel

structure Climate.InWords (climate : Climate) : Prop where
  temperature : climate.temperature.natAbs ≤ 32768
  humidity : climate.humidity < UInt16.size

namespace Dashboard

inductive Gauge where
  | rate
  | count
  | climate
  deriving DecidableEq

def rateText (counter : KeyRate) : List UInt8 := codes (toString counter.rate ++ " KPM")

def countText (counter : KeyRate) : List UInt8 := codes (toString counter.total.toNat ++ " keys")

def climateText (climate : Climate) : List UInt8 :=
  codes (tenths climate.temperature) ++ [Font.degree] ++
    codes ("C " ++ toString (climate.humidity / 10) ++ "%")

namespace Gauge

def page : Gauge → Page
  | rate => .ofByte 3
  | count => .ofByte 4
  | climate => .ofByte 6

def blanks : Gauge → Nat
  | rate | count => 3
  | climate => 1

/-- What the line has to read after a draw that shows a value on it. -/
def text? : Gauge → Live → Option (List UInt8)
  | rate, live => some (rateText live.2.keyRate)
  | count, live => some (countText live.2.keyRate)
  | climate, live => (live.1.polling live.2).shows.map climateText

end Gauge

-- ---------------------------------------------------------------------------
-- What the draws type
-- ---------------------------------------------------------------------------

theorem newline_notMem_tenths (value : Int) : newline ∉ codes (tenths value) := by
  have sign : newline ∉ codes (if value < 0 then "-" else "") := by
    split <;> decide +kernel
  have point : newline ∉ codes "." := by decide +kernel
  simp only [tenths, codes_append, List.mem_append, not_or]
  exact ⟨⟨⟨sign, newline_notMem_codes_toString _⟩, point⟩, newline_notMem_codes_toString _⟩

def typedOver (blanks : Nat) (text? : Option (List UInt8)) (row : Vector UInt8 22) :
    Vector UInt8 22 :=
  match text? with
  | some text => CellGrid.overlay (text ++ .replicate blanks CellGrid.blank) row
  | none => row

section
variable (display : CellDisplay) (p : Page)

theorem get_run_drawFirst (dashboard : Dashboard) (above : p ≠ 7) :
    (display.run dashboard.drawFirst).grid.get p = CellGrid.lineOf [] := by
  have logo : Sketch (if dashboard.art.hasLogo then [.cursor 80 2, .image .logo] else []) := by
    split <;> rfl
  have label : newline ∉ [DrawOp.text firmwareLabel false].flatMap DrawOp.typed := by
    decide +kernel
  have line := CellDisplay.get_run_line rfl label 7 (display.apply .clear) p
  rw [drawFirst, CellDisplay.run_append, CellDisplay.grid_run logo]
  exact line.trans ((if_neg above).trans (CellGrid.get_empty p))

theorem get_run_ledOps (dashboard : Dashboard) (board : Board) (below : p ≠ 0) :
    (display.run (dashboard.ledOps board)).grid.get p = display.grid.get p := by
  unfold ledOps drawLeds
  split
  · rfl
  · split <;> split <;> exact CellDisplay.get_run_wiped rfl (by decide +kernel) below display

theorem get_run_number (page : UInt8) (number : Nat) {unit padded : String} {blanks : Nat}
    (pads : codes padded = codes unit ++ .replicate blanks CellGrid.blank)
    (plain : newline ∉ codes padded) :
    (display.run [.cursor 0 page, .text (toString number ++ padded) false]).grid.get p =
      if p = .ofByte page then
        typedOver blanks (some (codes (toString number ++ unit))) (display.grid.get p)
      else display.grid.get p := by
  have typed : [DrawOp.text (toString number ++ padded) false].flatMap DrawOp.typed =
      codes (toString number) ++ codes padded := by
    rw [List.flatMap_singleton, DrawOp.typed, codes_append]
  have plain' : newline ∉ [DrawOp.text (toString number ++ padded) false].flatMap DrawOp.typed := by
    rw [typed, List.mem_append, not_or]
    exact ⟨newline_notMem_codes_toString number, plain⟩
  have line := CellDisplay.get_run_line rfl plain' page display p
  rwa [typed, pads, ← List.append_assoc, ← codes_append] at line

theorem get_run_drawCounters (counter : KeyRate) :
    (display.run (drawCounters counter)).grid.get p =
      if p = 3 then typedOver 3 (some (rateText counter)) (display.grid.get p)
      else if p = 4 then typedOver 3 (some (countText counter)) (display.grid.get p)
      else display.grid.get p := by
  have lines : drawCounters counter =
      [.cursor 0 3, .text (toString counter.rate ++ " KPM   ") false] ++
        [.cursor 0 4, .text (toString counter.total.toNat ++ " keys   ") false] := rfl
  have rate (display : CellDisplay) :=
    get_run_number display p 3 counter.rate
      (by decide +kernel : codes " KPM   " = codes " KPM" ++ .replicate 3 CellGrid.blank)
      (by decide +kernel)
  have count (display : CellDisplay) :=
    get_run_number display p 4 counter.total.toNat
      (by decide +kernel : codes " keys   " = codes " keys" ++ .replicate 3 CellGrid.blank)
      (by decide +kernel)
  have three : Page.ofByte 3 = 3 := rfl
  have four : Page.ofByte 4 = 4 := rfl
  rw [lines, CellDisplay.run_append, count, rate, three, four]
  by_cases on : p = 3
  · rw [if_pos on, if_pos on, if_neg (by rw [on]; decide)]
    rfl
  · rw [if_neg on, if_neg on]
    rfl

theorem get_run_climateOps (shown : Option Climate) :
    (display.run (climateOps shown)).grid.get p =
      if p = 6 then typedOver 1 (shown.map climateText) (display.grid.get p)
      else display.grid.get p := by
  cases shown with
  | none => exact (ite_self _).symm
  | some climate =>
    let ops : List DrawOp :=
      [.text (tenths climate.temperature) false, .glyph Font.degree false,
        .text ("C " ++ toString (climate.humidity / 10) ++ "% ") false]
    have typed : ops.flatMap DrawOp.typed = climateText climate ++ [CellGrid.blank] := by
      have blank : codes "% " = codes "%" ++ [CellGrid.blank] := by decide +kernel
      simp [ops, DrawOp.typed, climateText, codes_append, blank]
    have plain : newline ∉ ops.flatMap DrawOp.typed := by
      have others : newline ∉ [Font.degree] ∧ newline ∉ codes "C " ∧ newline ∉ codes "%" ∧
          newline ∉ [CellGrid.blank] := by decide +kernel
      simp only [typed, climateText, codes_append, List.mem_append, not_or]
      exact ⟨⟨⟨newline_notMem_tenths _, others.1⟩,
        ⟨others.2.1, newline_notMem_codes_toString _⟩, others.2.2.1⟩, others.2.2.2⟩
    have line := CellDisplay.get_run_line rfl plain 6 display p
    rwa [typed] at line

end

theorem Gauge.get_draw (gauge : Gauge) {live : Live} (later : live.2.firstFrame = false) :
    live.draw.2.display.cells.grid.get gauge.page =
      typedOver gauge.blanks (gauge.text? live) (live.2.display.cells.grid.get gauge.page) := by
  have drawn : live.draw.2.display =
      live.2.display.run (live.1.drawOps (live.1.polling live.2).shows live.2) := by
    rw [Live.draw, draw_eq _ later]
    rfl
  have art := ArtState.sketch_draw live.2.trig false live.1.art
  rw [drawn, DisplayLog.run_cells, drawOps, CellDisplay.run_append, CellDisplay.grid_run art,
    CellDisplay.run_append, get_run_climateOps, CellDisplay.run_append, get_run_drawCounters]
  cases gauge <;> rw [get_run_ledOps _ _ _ _ (by decide)] <;> rfl

-- ---------------------------------------------------------------------------
-- Values on a line
-- ---------------------------------------------------------------------------

structure Scene.InWords (scene : Scene) : Prop where
  rate : scene.counter.rate ≤ KeyRate.maxRate
  answer : ∀ climate, scene.answer = some climate → climate.InWords

theorem isLine_rateText {counter : KeyRate} (word : counter.rate ≤ KeyRate.maxRate) :
    CellGrid.IsLine (rateText counter) := by
  have digits : (codes (toString counter.rate)).length ≤ 5 :=
    Nat.le_trans (length_codes_toString_le word) (by decide +kernel)
  have unit : (codes " KPM").length = 4 := by decide +kernel
  rw [rateText, codes_append]
  exact CellGrid.isLine_append (by omega) (by decide +kernel)

theorem isLine_countText (counter : KeyRate) : CellGrid.IsLine (countText counter) := by
  have digits : (codes (toString counter.total.toNat)).length ≤ 10 :=
    Nat.le_trans (length_codes_toString_le (Nat.le_of_lt counter.total.toNat_lt))
      (by decide +kernel)
  have unit : (codes " keys").length = 5 := by decide +kernel
  rw [countText, codes_append]
  exact CellGrid.isLine_append (by omega) (by decide +kernel)

theorem length_tenths_le {value : Int} (word : value.natAbs ≤ 32768) :
    (codes (tenths value)).length ≤ 7 := by
  have sign : (codes (if value < 0 then "-" else "")).length ≤ 1 := by
    split <;> decide +kernel
  have whole : (codes (toString (value.natAbs / 10))).length ≤ 4 :=
    Nat.le_trans (length_codes_toString_le (Nat.div_le_div_right word)) (by decide +kernel)
  have point : (codes ".").length = 1 := by decide +kernel
  have tenth : (codes (toString (value.natAbs % 10))).length ≤ 1 :=
    Nat.le_trans (length_codes_toString_le (Nat.le_of_lt_succ (Nat.mod_lt _ (by decide))))
      (by decide +kernel)
  simp only [tenths, codes_append, List.length_append]
  omega

theorem isLine_climateText {climate : Climate} (words : climate.InWords) :
    CellGrid.IsLine (climateText climate) := by
  have temperature := length_tenths_le words.temperature
  have humidity : (codes (toString (climate.humidity / 10))).length ≤ 4 :=
    Nat.le_trans (length_codes_toString_le (Nat.div_le_div_right (Nat.le_of_lt words.humidity)))
      (by decide +kernel)
  have unit : (codes "C ").length = 2 ∧ (codes "%").length = 1 := by decide +kernel
  rw [climateText, codes_append, ← List.append_assoc]
  refine CellGrid.isLine_append ?_ (by decide +kernel)
  simp only [codes_append, List.length_append, List.length_singleton]
  omega

theorem Gauge.isLine_text {scenes : List Scene} (words : ∀ scene ∈ scenes, scene.InWords)
    (gauge : Gauge) (dashboard : Dashboard) (board : Board) :
    ∀ met ∈ (Live.opened dashboard board).drawn scenes, ∀ text, gauge.text? met = some text →
      CellGrid.IsLine text := by
  intro met found text shown
  cases gauge with
  | rate =>
    obtain ⟨scene, among, before, rfl⟩ := Live.exists_meet_of_mem_drawn found
    exact Option.some.inj shown ▸ isLine_rateText (words scene among).rate
  | count => exact Option.some.inj shown ▸ isLine_countText _
  | climate =>
    obtain ⟨climate, shows, rfl⟩ := Option.map_eq_some_iff.mp shown
    obtain ⟨n, there⟩ := List.getElem?_of_mem found
    rw [(Live.inCycle_opened dashboard board).polling_drawn there] at shows
    obtain ⟨scene, among, answer⟩ := exists_scene_of_shows shows
    exact isLine_climateText ((words scene among).answer climate answer)

-- ---------------------------------------------------------------------------
-- Runs
-- ---------------------------------------------------------------------------

namespace Gauge

/-- After the draw the line reads the value that the draw shows on it, if it shows one. -/
def Reads (gauge : Gauge) (met : Live) : Prop :=
  ∀ text, gauge.text? met = some text → met.draw.2.display.cells.line gauge.page = text

/-- The newer text with its blanks reaches as far as the older one. -/
def Covers (gauge : Gauge) (old new : List UInt8) : Prop :=
  old.length ≤ new.length + gauge.blanks

instance (gauge : Gauge) : DecidableRel gauge.Covers :=
  fun old new => inferInstanceAs (Decidable (old.length ≤ new.length + gauge.blanks))

variable {gauge : Gauge} {old text : List UInt8} {met : Live}

def Shows (gauge : Gauge) (text : List UInt8) (live : Live) : Prop :=
  live.2.display.cells.grid.get gauge.page = CellGrid.lineOf text

theorem line_eq_iff (line : CellGrid.IsLine text) :
    met.2.display.cells.line gauge.page = text ↔ gauge.Shows text met :=
  CellGrid.trimmed_eq_iff line

theorem Shows.draw_iff (shows : gauge.Shows old met) (line : CellGrid.IsLine old)
    (later : met.2.firstFrame = false) (shown : gauge.text? met = some text) :
    gauge.Shows text met.draw ↔ gauge.Covers old text := by
  rw [Shows, gauge.get_draw later, shown, shows]
  exact CellGrid.overlay_lineOf_eq_iff line

theorem Shows.draw_none (shows : gauge.Shows old met) (later : met.2.firstFrame = false)
    (shown : gauge.text? met = none) : gauge.Shows old met.draw := by
  rw [Shows, gauge.get_draw later, shown]
  exact shows

theorem Shows.reads_iff {scenes : List Scene} {live : Live} (shows : gauge.Shows old live)
    (line : CellGrid.IsLine old)
    (lines : ∀ met ∈ live.drawn scenes, ∀ text, gauge.text? met = some text →
      CellGrid.IsLine text) :
    (∀ met ∈ live.drawn scenes, gauge.Reads met) ↔
      (old :: (live.drawn scenes).filterMap gauge.text?).IsChain gauge.Covers := by
  induction scenes generalizing live old with
  | nil => exact iff_of_true (fun met found => nomatch found) (.singleton old)
  | cons scene scenes ih =>
    have drawn : live.drawn (scene :: scenes) =
        live.meet scene :: (live.meet scene).draw.drawn scenes := rfl
    rw [drawn, List.forall_mem_cons] at lines
    obtain ⟨here, later⟩ := lines
    have met : gauge.Shows old (live.meet scene) :=
      congrArg (Vector.get · gauge.page) (Live.kept_meet scene live).grid |>.trans shows
    rw [drawn, List.forall_mem_cons]
    cases shown : gauge.text? (live.meet scene) with
    | none =>
      have silent : gauge.Reads (live.meet scene) := fun text some => by simp [shown] at some
      rw [List.filterMap_cons_none shown, ← ih (met.draw_none rfl shown) line later]
      exact and_iff_right silent
    | some text =>
      have line' := here text shown
      have reads : gauge.Reads (live.meet scene) ↔ gauge.Covers old text := by
        simp only [Reads, shown, Option.some.injEq, forall_eq', line_eq_iff line',
          met.draw_iff line rfl shown]
      rw [List.filterMap_cons_some shown, List.isChain_cons_cons, reads]
      refine and_congr_right fun covers => ?_
      exact ih ((met.draw_iff line rfl shown).mpr covers) line' later

theorem shows_opened (gauge : Gauge) (dashboard : Dashboard) (board : Board) :
    gauge.Shows [] (Live.opened dashboard board) := by
  have art := ArtState.sketch_draw board.trig true dashboard.art
  have drawn : (Live.opened dashboard board).2.display =
      board.display.run (dashboard.drawFirst ++ (dashboard.art.draw board.trig true).1) := rfl
  rw [Shows, drawn, DisplayLog.run_cells, CellDisplay.run_append, CellDisplay.grid_run art]
  exact get_run_drawFirst _ _ dashboard (by cases gauge <;> decide)

theorem filterMap_climate (dashboard : Dashboard) (board : Board) (scenes : List Scene) :
    ((Live.opened dashboard board).drawn scenes).filterMap Gauge.climate.text? =
      (((List.range scenes.length).map (plan (lastFrame + 1) scenes)).filterMap
        Polling.shows).map climateText := by
  rw [← Live.map_polling_drawn dashboard board, List.filterMap_map, List.map_filterMap]
  rfl

/-- The lines read the current values after every draw exactly if every value that is shown
covers the one before it. -/
theorem lines_current_iff {scenes : List Scene} (words : ∀ scene ∈ scenes, scene.InWords)
    (gauge : Gauge) (dashboard : Dashboard) (board : Board) :
    (∀ met ∈ (Live.opened dashboard board).drawn scenes, gauge.Reads met) ↔
      (((Live.opened dashboard board).drawn scenes).filterMap gauge.text?).IsChain
        gauge.Covers := by
  have lines := gauge.isLine_text words dashboard board
  rw [(gauge.shows_opened dashboard board).reads_iff CellGrid.isLine_nil lines, List.isChain_cons]
  exact and_iff_right fun text _ => Nat.zero_le _

/-- A rate of five digits, and then one of a single digit. -/
def slowed : List Scene := [{ counter := { rate := 12807 } }, { counter := { rate := 9 } }]

theorem lines_current_iff_slowed :
    (∀ scene ∈ slowed, scene.InWords) ∧
      (¬∀ met ∈ Live.factory.drawn slowed, Gauge.rate.Reads met) ∧
      (Live.factory.drawn slowed).map
          (fun met => met.draw.2.display.cells.line Gauge.rate.page) =
        [codes "12807 KPM", codes "9 KPM   M"] := by
  have words : ∀ scene ∈ slowed, scene.InWords := by
    intro scene among
    simp only [slowed, List.mem_cons, List.not_mem_nil, or_false] at among
    rcases among with rfl | rfl <;> exact ⟨by decide, fun _ answer => by cases answer⟩
  refine ⟨words, fun reads => ?_, by decide +kernel⟩
  have covers := (lines_current_iff words .rate _ _).mp reads
  revert covers
  decide +kernel

/-- The room gets a tenth of a degree cooler, and the air a tenth of a percent drier. -/
def cooling : List Scene :=
  .replicate 100 { answer := some ⟨100, 100⟩ } ++ .replicate 1102 { answer := some ⟨99, 99⟩ }

/-- Both values lose a digit, and only one blank follows them. -/
theorem not_reads_cooling : ¬∀ met ∈ Live.factory.drawn cooling, Gauge.climate.Reads met := by
  have words : ∀ scene ∈ cooling, scene.InWords := by
    have answers (tenths : Nat) (word : tenths ≤ 100) :
        Scene.InWords { answer := some ⟨tenths, tenths⟩ } :=
      ⟨Nat.zero_le _, fun _ answer => Option.some.inj answer ▸
        ⟨Nat.le_trans word (by decide), Nat.lt_of_le_of_lt word (by decide)⟩⟩
    intro scene among
    rcases List.mem_append.mp among with warm | cool
    · exact List.eq_of_mem_replicate warm ▸ answers 100 (by decide)
    · exact List.eq_of_mem_replicate cool ▸ answers 99 (by decide)
  have lines := Gauge.climate.isLine_text words (.ofArt Settings.factory.homeArt 0) factoryBoard
  have empty := Gauge.climate.shows_opened (.ofArt Settings.factory.homeArt 0) factoryBoard
  intro reads
  have covers := (empty.reads_iff CellGrid.isLine_nil lines).mp reads
  rw [filterMap_climate] at covers
  revert covers
  decide +kernel

end Gauge

end Dashboard

end KnobPanel
