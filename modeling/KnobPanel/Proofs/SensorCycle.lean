import KnobPanel.Proofs.DashboardDraws

/-!
# The sensor's cycle

The counter of frames takes the values from 0 to `lastFrame` and starts again, so that one
measurement follows the other after `lastFrame + 1` draws.
-/

namespace KnobPanel.Dashboard

/-- What the draw of a number has to do with the sensor if a measurement is started every
`period` draws: it shows what was answered to the fetch of the same cycle. -/
def plan (period : Nat) (scenes : List Scene) (draw : Nat) : Polling where
  starts := draw % period = 0
  fetches := draw % period = fetchFrame
  shows :=
    if draw % period = showFrame && scenes[draw]?.any Scene.powered then
      scenes[draw - (showFrame - fetchFrame)]?.bind Scene.answer
    else none

theorem exists_scene_of_shows {period : Nat} {scenes : List Scene} {draw : Nat} {shown : Climate}
    (shows : (plan period scenes draw).shows = some shown) :
    ∃ scene ∈ scenes, scene.answer = some shown := by
  simp only [plan] at shows
  split at shows
  · obtain ⟨scene, there, answer⟩ := Option.bind_eq_some_iff.mp shows
    exact ⟨scene, List.mem_of_getElem? there, answer⟩
  · cases shows

namespace Live

/-- The draw does this with the sensor, and no more; the reading is what it draws between
the counters and the artwork. -/
structure Polls (polling : Polling) (live : Live) : Prop where
  triggered :
    live.draw.2.sensor.triggered = live.2.sensor.triggered + polling.starts.toNat
  fetched : live.draw.2.sensor.fetched = live.2.sensor.fetched + polling.fetches.toNat
  display : live.draw.2.display = live.2.display.run (live.1.drawOps polling.shows live.2)

theorem polls_polling {live : Live} (later : live.2.firstFrame = false) :
    Polls (live.1.polling live.2) live := by
  constructor <;> rw [draw, draw_eq _ later] <;> rfl

theorem Polls.starts_eq {polling other : Polling} {live : Live} (polls : Polls polling live)
    (polls' : Polls other live) : polling.starts = other.starts := by
  have same := Nat.add_left_cancel (polls.triggered.symm.trans polls'.triggered)
  revert same
  cases polling.starts <;> cases other.starts <;> decide

/-- The draws do with the sensor what is planned, from the first one on. -/
def Cyclic (period : Nat) (scenes : List Scene) (live : Live) : Prop :=
  ∀ (n : Nat) (met : Live), (drawn scenes live)[n]? = some met →
    Polls (plan period scenes n) met

theorem nextFrame_mod (n : Nat) :
    nextFrame (n % (lastFrame + 1)) = (n + 1) % (lastFrame + 1) := by
  have frames : lastFrame = 1100 := rfl
  simp only [nextFrame, frames]
  split <;> omega

structure InCycle (scenes : List Scene) (live : Live) : Prop where
  sensorFrame : live.1.sensorFrame = scenes.length % (lastFrame + 1)
  climate : fetchFrame < live.1.sensorFrame →
    live.1.climate =
      scenes[scenes.length - live.1.sensorFrame + fetchFrame]?.bind Scene.answer

section
variable {past later : List Scene} {live : Live} (cycle : InCycle past live) (scene : Scene)
include cycle

theorem InCycle.polling : (live.meet scene).1.polling (live.meet scene).2 =
    plan (lastFrame + 1) (past ++ scene :: later) past.length := by
  have kept := kept_meet scene live
  have power : (live.meet scene).2.displayOn = scene.powered := rfl
  have here : (past ++ scene :: later)[past.length]? = some scene := by simp
  simp only [Dashboard.polling, plan, kept.sensorFrame, kept.climate, cycle.sensorFrame, power,
    here, Option.any_some, Polling.mk.injEq, true_and]
  split
  case isFalse => rfl
  case isTrue showing =>
    simp only [Bool.and_eq_true, decide_eq_true_eq] at showing
    have reach := Nat.mod_le past.length (lastFrame + 1)
    have frames : fetchFrame = 50 ∧ showFrame = 100 := ⟨rfl, rfl⟩
    have fetched : fetchFrame < live.1.sensorFrame := by
      rw [cycle.sensorFrame]
      omega
    rw [cycle.climate fetched, cycle.sensorFrame, List.getElem?_append_left (by omega)]
    congr 2
    omega

theorem InCycle.draw : InCycle (past ++ [scene]) (live.meet scene).draw := by
  have kept := kept_meet scene live
  have drawn : (live.meet scene).draw = _ := draw_eq _ rfl
  have sensorFrame : (live.meet scene).draw.1.sensorFrame = nextFrame live.1.sensorFrame := by
    rw [drawn, ← kept.sensorFrame]
    rfl
  have climate : (live.meet scene).draw.1.climate =
      if live.1.sensorFrame = fetchFrame then scene.answer else live.1.climate := by
    rw [drawn, ← kept.sensorFrame, ← kept.climate]
    simp only [polled, Dashboard.polling, decide_eq_true_eq]
    rfl
  constructor
  case sensorFrame =>
    rw [sensorFrame, cycle.sensorFrame, nextFrame_mod, List.length_append, List.length_singleton]
  case climate =>
    intro fetched
    rw [sensorFrame] at fetched
    -- a cycle that has come this far does not start again
    have next : nextFrame live.1.sensorFrame = live.1.sensorFrame + 1 := by
      rw [nextFrame] at fetched ⊢
      split at fetched
      · exact absurd fetched (Nat.not_lt_zero _)
      · exact if_neg ‹_›
    have reach : live.1.sensorFrame ≤ past.length := cycle.sensorFrame ▸ Nat.mod_le _ _
    rw [climate, sensorFrame, next, List.length_append, List.length_singleton,
      Nat.add_sub_add_right]
    split
    case isTrue fetch =>
      rw [← fetch, Nat.sub_add_cancel reach]
      simp
    case isFalse other =>
      rw [cycle.climate (by omega), List.getElem?_append_left (by omega)]

end

theorem InCycle.polling_drawn {past later : List Scene} {live : Live} (cycle : InCycle past live)
    {n : Nat} {met : Live} (drawn : (live.drawn later)[n]? = some met) :
    met.1.polling met.2 = plan (lastFrame + 1) (past ++ later) (past.length + n) := by
  induction later generalizing past live n with
  | nil => cases drawn
  | cons scene later ih =>
    cases n with
    | zero =>
      obtain rfl : live.meet scene = met := Option.some.inj drawn
      exact cycle.polling scene
    | succ n =>
      have rest := ih (cycle.draw scene) drawn
      rwa [List.append_assoc, List.singleton_append, List.length_append, List.length_singleton,
        Nat.add_assoc, Nat.add_comm 1] at rest

theorem inCycle_opened (dashboard : Dashboard) (board : Board) :
    InCycle [] (opened dashboard board) where
  sensorFrame := rfl
  climate := fun fetched => absurd fetched (Nat.not_lt_zero fetchFrame)

section
variable (dashboard : Dashboard) (board : Board) (scenes : List Scene)

theorem map_polling_drawn :
    ((opened dashboard board).drawn scenes).map (fun met => met.1.polling met.2) =
      (List.range scenes.length).map (plan (lastFrame + 1) scenes) := by
  refine List.ext_getElem (by simp [length_drawn]) fun n hn hn' => ?_
  rw [List.length_map] at hn
  have same := (inCycle_opened dashboard board).polling_drawn (List.getElem?_eq_getElem hn)
  rw [List.getElem_map, List.getElem_map, List.getElem_range, same, List.nil_append,
    List.length_nil, Nat.zero_add]

theorem cyclic_drawn : (opened dashboard board).Cyclic (lastFrame + 1) scenes := by
  intro n met drawn
  have same := (inCycle_opened dashboard board).polling_drawn drawn
  rw [List.nil_append, List.length_nil, Nat.zero_add] at same
  exact same ▸ polls_polling (later_of_mem_drawn (List.mem_of_getElem? drawn))

theorem plan_eq {draw : Nat} (early : draw < lastFrame) :
    plan lastFrame scenes draw = plan (lastFrame + 1) scenes draw := by
  simp only [plan, Nat.mod_eq_of_lt early, Nat.mod_eq_of_lt (Nat.lt_succ_of_lt early)]

/-- The draw of number `lastFrame` still belongs to the first cycle. -/
theorem not_cyclic {live : Live} (cyclic : live.Cyclic (lastFrame + 1) scenes)
    (long : lastFrame < scenes.length) : ¬live.Cyclic lastFrame scenes := by
  intro documented
  have inside : lastFrame < (live.drawn scenes).length := by rwa [length_drawn]
  have there := List.getElem?_eq_getElem inside
  have same := (cyclic _ _ there).starts_eq (documented _ _ there)
  exact absurd same (by simp only [plan]; decide)

/-- A measurement follows the other after `lastFrame + 1` draws; a plan with `lastFrame` draws
in a cycle is right for the first cycle only. -/
theorem sensor_cycle :
    (opened dashboard board).Cyclic (lastFrame + 1) scenes ∧
      ((opened dashboard board).Cyclic lastFrame scenes ↔ scenes.length ≤ lastFrame) := by
  have cyclic := cyclic_drawn dashboard board scenes
  refine ⟨cyclic, fun documented => ?_, fun short n met drawn => ?_⟩
  · exact Nat.le_of_not_lt fun long => not_cyclic scenes cyclic long documented
  · obtain ⟨inside, -⟩ := List.getElem?_eq_some_iff.mp drawn
    rw [length_drawn] at inside
    exact plan_eq scenes (Nat.lt_of_lt_of_le inside short) ▸ cyclic n met drawn

end

theorem not_cyclic_factory :
    ¬factory.Cyclic lastFrame (.replicate 1101 {}) :=
  not_cyclic _ (cyclic_drawn _ _ _) (by rw [List.length_replicate]; decide)

end Live

end KnobPanel.Dashboard
