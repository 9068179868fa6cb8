import KnobPanel.Proofs.Pictures

/-!
# Draws of a dashboard

A dashboard that stays on is drawn again and again. Between two draws keys are struck, the
counter and the lock lights change, the display is switched, and the sensor gets another
answer ready.
-/

namespace KnobPanel

-- ---------------------------------------------------------------------------
-- One draw
-- ---------------------------------------------------------------------------

structure Polling where
  starts : Bool := false
  fetches : Bool := false
  shows : Option Climate := none
  deriving DecidableEq

def Board.polled (polling : Polling) (board : Board) : Board :=
  let sensor := board.sensor
  { board with
    sensor :=
      { sensor with
        triggered := sensor.triggered + polling.starts.toNat
        fetched := sensor.fetched + polling.fetches.toNat } }

theorem Board.draw_draw (first second : List DrawOp) (board : Board) :
    (board.draw first).draw second = board.draw (first ++ second) := by
  simp only [draw, DisplayLog.run, List.foldl_append]

theorem Board.draw_polled (ops : List DrawOp) (polling : Polling) (board : Board) :
    (board.polled polling).draw ops = (board.draw ops).polled polling := rfl

namespace Dashboard

def polling (dashboard : Dashboard) (board : Board) : Polling where
  starts := dashboard.sensorFrame = 0
  fetches := dashboard.sensorFrame = fetchFrame
  shows := if dashboard.sensorFrame = showFrame && board.displayOn then dashboard.climate else none

theorem polling_draw {ops : List DrawOp} (h : KeepsPower ops) (dashboard : Dashboard)
    (board : Board) : dashboard.polling (board.draw ops) = dashboard.polling board := by
  simp only [polling, Board.displayOn_draw h]

def nextFrame (frame : Nat) : Nat := if lastFrame ≤ frame then 0 else frame + 1

def polled (polling : Polling) (answer : Option Climate) (dashboard : Dashboard) : Dashboard :=
  { dashboard with
    sensorFrame := nextFrame dashboard.sensorFrame
    climate := if polling.fetches then answer else dashboard.climate }

def climateOps (shown : Option Climate) : List DrawOp := (shown.map drawClimate).getD []

theorem pollSensor_eq (dashboard : Dashboard) (board : Board) :
    dashboard.pollSensor board =
      let polling := dashboard.polling board
      (dashboard.polled polling board.sensor.climate,
        (board.draw (climateOps polling.shows)).polled polling) := by
  obtain ⟨frame, climate, leds, art⟩ := dashboard
  have fetched : board.sensor.read.1.toOption = board.sensor.climate := by
    unfold ScriptedSensor.read
    cases board.sensor.climate <;> rfl
  rw [pollSensor, polling]
  by_cases start : frame = 0
  · subst start
    rfl
  · by_cases fetch : frame = fetchFrame
    · subst fetch
      simp only [fetched]
      rfl
    · simp only [polled, start, fetch, decide_false, ↓reduceIte]
      split <;> rfl

def ledOps (dashboard : Dashboard) (board : Board) : List DrawOp :=
  if dashboard.shownLeds = some board.lockLeds then [] else drawLeds board.lockLeds

theorem pictures_ledOps (dashboard : Dashboard) (board : Board) :
    Pictures (dashboard.ledOps board) := by
  unfold ledOps
  split
  · rfl
  · exact pictures_drawLeds _

theorem pictures_drawCounters (counter : KeyRate) : Pictures (drawCounters counter) := rfl

theorem pictures_climateOps (shown : Option Climate) : Pictures (climateOps shown) := by
  cases shown <;> rfl

def drawOps (shown : Option Climate) (dashboard : Dashboard) (board : Board) : List DrawOp :=
  dashboard.ledOps board ++ drawCounters board.keyRate ++ climateOps shown ++
    (dashboard.art.draw board.trig false).1

theorem pictures_drawOps (shown : Option Climate) (dashboard : Dashboard) (board : Board) :
    Pictures (dashboard.drawOps shown board) :=
  (((dashboard.pictures_ledOps board).append (pictures_drawCounters _)).append
    (pictures_climateOps shown)).append (dashboard.art.pictures_draw board.trig false)

theorem draw_first (dashboard : Dashboard) {board : Board} (first : board.firstFrame = true) :
    dashboard.draw board =
      ({ dashboard with
          sensorFrame := 0, shownLeds := none, art := (dashboard.art.draw board.trig true).2 },
        board.draw (dashboard.drawFirst ++ (dashboard.art.draw board.trig true).1)) := by
  rw [draw, first]
  rfl

theorem draw_eq (dashboard : Dashboard) {board : Board} (later : board.firstFrame = false) :
    dashboard.draw board =
      let polling := dashboard.polling board
      ({ dashboard.polled polling board.sensor.climate with
          shownLeds := some board.lockLeds
          art := (dashboard.art.draw board.trig false).2 },
        (board.draw (dashboard.drawOps polling.shows board)).polled polling) := by
  have lines : KeepsPower (dashboard.ledOps board ++ drawCounters board.keyRate) :=
    ((dashboard.pictures_ledOps board).append (pictures_drawCounters _)).keepsPower
  have told : (if dashboard.shownLeds = some board.lockLeds then [] else drawLeds board.lockLeds) =
      dashboard.ledOps board := rfl
  rw [draw, later, if_neg Bool.false_ne_true]
  simp only [told, pollSensor_eq, polling_draw lines, Board.draw_polled, Board.draw_draw]
  rfl

theorem exists_draw_eq (dashboard : Dashboard) (board : Board) :
    ∃ ops sensor, Pictures ops ∧ (dashboard.draw board).2 = { board.draw ops with sensor } := by
  cases first : board.firstFrame with
  | true =>
    rw [draw_first _ first]
    exact ⟨_, _, (pictures_drawFirst _).append (dashboard.art.pictures_draw board.trig true), rfl⟩
  | false =>
    rw [draw_eq _ first]
    exact ⟨_, _, pictures_drawOps .., rfl⟩

-- ---------------------------------------------------------------------------
-- One draw after another
-- ---------------------------------------------------------------------------

/-- What a dashboard meets between two draws: keys are struck, then these values stand. -/
structure Scene where
  keys : List KeyEvent := []
  counter : KeyRate := {}
  lockLeds : LockLeds := {}
  powered : Bool := true
  sensorStarts : Bool := true
  answer : Option Climate := none

abbrev Live := Dashboard × Board

namespace Live

def opened (dashboard : Dashboard) (board : Board) : Live :=
  dashboard.draw { board with firstFrame := true }

def strike (live : Live) (event : KeyEvent) : Live := (live.1.onKey event live.2).2

def meet (scene : Scene) (live : Live) : Live :=
  let struck := scene.keys.foldl strike live
  let sensor := struck.2.sensor
  (struck.1,
    { struck.2.draw [.power scene.powered] with
      keyRate := scene.counter
      lockLeds := scene.lockLeds
      sensor := { sensor with starts := scene.sensorStarts, climate := scene.answer }
      firstFrame := false })

def draw (live : Live) : Live := live.1.draw live.2

/-- The dashboard as it is when each of the draws begins. -/
def drawn : List Scene → Live → List Live
  | [], _ => []
  | scene :: scenes, live => live.meet scene :: drawn scenes (live.meet scene).draw

theorem length_drawn (scenes : List Scene) (live : Live) :
    (drawn scenes live).length = scenes.length := by
  induction scenes generalizing live with
  | nil => rfl
  | cons scene scenes ih => exact congrArg Nat.succ (ih _)

theorem exists_meet_of_mem_drawn {scenes : List Scene} {live met : Live}
    (found : met ∈ live.drawn scenes) :
    ∃ scene ∈ scenes, ∃ before : Live, met = before.meet scene := by
  induction scenes generalizing live with
  | nil => cases found
  | cons scene scenes ih =>
    cases found with
    | head => exact ⟨scene, .head _, live, rfl⟩
    | tail _ found =>
      obtain ⟨other, among, before, same⟩ := ih found
      exact ⟨other, .tail _ among, before, same⟩

theorem later_of_mem_drawn {scenes : List Scene} {live met : Live}
    (found : met ∈ live.drawn scenes) : met.2.firstFrame = false := by
  obtain ⟨scene, -, before, rfl⟩ := exists_meet_of_mem_drawn found
  rfl

structure Kept (before after : Live) : Prop where
  sensorFrame : after.1.sensorFrame = before.1.sensorFrame
  climate : after.1.climate = before.1.climate
  grid : after.2.display.cells.grid = before.2.display.cells.grid

theorem Kept.trans {first second third : Live} (early : Kept first second)
    (late : Kept second third) : Kept first third where
  sensorFrame := late.sensorFrame.trans early.sensorFrame
  climate := late.climate.trans early.climate
  grid := late.grid.trans early.grid

theorem kept_strike (event : KeyEvent) (live : Live) : Kept live (live.strike event) := by
  obtain ⟨⟨frame, climate, leds, art⟩, board⟩ := live
  cases art with
  | bongo cat =>
    refine ⟨rfl, rfl, ?_⟩
    simp only [strike, onKey, Board.draw, DisplayLog.run_cells,
      CellDisplay.grid_run (cat.sketch_onKey event)]
    split <;> rfl
  | _ =>
    refine ⟨rfl, rfl, ?_⟩
    simp only [strike, onKey]
    split <;> rfl

theorem kept_meet (scene : Scene) (live : Live) : Kept live (live.meet scene) := by
  have struck (keys : List KeyEvent) (live : Live) : Kept live (keys.foldl strike live) := by
    induction keys generalizing live with
    | nil => exact ⟨rfl, rfl, rfl⟩
    | cons event keys ih => exact (kept_strike event live).trans (ih _)
  exact (struck scene.keys live).trans ⟨rfl, rfl, rfl⟩

end Live

def factoryBoard : Board where
  channel := { link := {} }
  store := { memory := ⟨.replicate 65536 0xFF⟩ }
  sensor := {}
  clock := { readings := fun _ => 0 }
  settings := .factory
  idle := { lastActivity := 0 }

def Live.factory : Live := opened (.ofArt Settings.factory.homeArt 0) factoryBoard

end Dashboard

end KnobPanel
