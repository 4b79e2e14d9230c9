-- The temperatures that `v3` derates on: `lowTemp` and `highTemp` against the
-- last reports of the two packs.
import SuperCharger.History
import SuperCharger.V3Frames

namespace super_charger.v3

open zero runs history

/-! ## The reports on the bike bus -/

def fromMonolith (f : Frame) : Bool := f.id = BMS_PACK_ACTIVE_DATA
def fromPowerTank (f : Frame) : Bool := f.id = BMS1_PACK_ACTIVE_DATA

/-- An active-data frame of either pack. -/
def reports (f : Frame) : Bool := fromMonolith f || fromPowerTank f

/-- The frames that the calls of a run found on the bike bus. -/
def framesOf (is : List Input) : List Frame := is.flatMap Input.bike

/-- The two temperatures that the cutback loops read. -/
def State.temps (s : State) : Int16 × Int16 := (s.lowTemp, s.highTemp)

def temps (f : Frame) : Int16 × Int16 := (f.lowestTemp, f.highestTemp)

theorem onPowerTankVoltage_temps (s : State) (f : Frame) :
    (onPowerTankVoltage s f).temps = s.temps := by
  obtain ⟨_, _, h⟩ := onPowerTankVoltage_frame s f
  rw [h]
  rfl

theorem onMonolithPackActiveData_temps (s : State) (f : Frame) :
    (onMonolithPackActiveData s f).temps = temps f := by
  unfold onMonolithPackActiveData State.temps temps
  simp only [Int16.toInt16_toInt32]

theorem onPowerTankPackActiveData_temps (s : State) (f : Frame) :
    (onPowerTankPackActiveData s f).temps = temps f := by
  unfold onPowerTankPackActiveData State.temps temps
  simp only [Int16.toInt16_toInt32]

/-- A report of either pack sets both temperatures, whatever the other pack reported. -/
theorem receive_of_report (s : State) (f : Frame) (h : reports f = true) :
    (blocks.receive s f).temps = temps f := by
  unfold reports fromMonolith fromPowerTank at h
  rcases blocks.receive_cases s f with
    ⟨hid, e⟩ | ⟨hid, e⟩ | ⟨_, e⟩ | ⟨_, e⟩ | ⟨hid, e⟩ | ⟨hid, e⟩ | ⟨hid, e⟩ | ⟨hid, e⟩
  · simp +decide [hid] at h
  · simp +decide [hid] at h
  · rw [e]
    exact onMonolithPackActiveData_temps _ f
  · rw [e]
    exact onPowerTankPackActiveData_temps _ f
  · simp +decide [hid] at h
  · simp +decide [hid] at h
  · simp +decide [hid] at h
  · unfold blockIds at hid
    simp only [List.mem_cons, not_or] at hid
    simp [hid] at h

theorem receive_of_other (s : State) (f : Frame) (h : reports f = false) :
    (blocks.receive s f).temps = s.temps := by
  unfold reports fromMonolith fromPowerTank at h
  rcases blocks.receive_cases s f with
    ⟨_, e⟩ | ⟨_, e⟩ | ⟨hid, _⟩ | ⟨hid, _⟩ | ⟨_, e⟩ | ⟨_, e⟩ | ⟨_, e⟩ | ⟨_, e⟩
  · rw [e]
    rfl
  · rw [e]
    exact onPowerTankVoltage_temps s f
  · simp [hid] at h
  · simp [hid] at h
  · rw [e]
    rfl
  · rw [e]
    rfl
  · rw [e]
    rfl
  · rw [e]

theorem bikeLoop_temps (s : State) (frames : List Frame) :
    (bikeLoop s frames).temps = ((lastOf reports frames).map temps).getD s.temps :=
  register_of_history receive_of_report receive_of_other s frames

theorem written_temps (s : State) (writes : List Write) : (written s writes).temps = s.temps := by
  have h := written_bike s writes
  exact Prod.ext (congrArg Bike.lowTemp h) (congrArg Bike.highTemp h)

theorem loop_temps (s : State) (i : Input) :
    (loop s i).temps = ((lastOf reports i.bike).map temps).getD s.temps := by
  have h := loop_bike s i
  have hloop : (loop s i).temps = (bikeLoop (written s i.central) i.bike).temps :=
    Prod.ext (congrArg Bike.lowTemp h) (congrArg Bike.highTemp h)
  rw [hloop, bikeLoop_temps, written_temps]

/-- After a run the temperatures are those of the last report, of whichever pack. -/
theorem run_temps (s : State) (is : List Input) :
    (run loop s is).temps = ((lastOf reports (framesOf is)).map temps).getD s.temps := by
  induction is using List.reverseRecOn with
  | nil => rfl
  | append_singleton is i ih =>
    rw [run_snoc, loop_temps, ih]
    unfold framesOf
    rw [List.flatMap_append, List.flatMap_singleton, lastOf_append]
    cases lastOf reports i.bike with
    | none => simp
    | some f => simp

/-! ## The worst pack -/

/-- The state derates on the coldest and on the hottest of the two reports. -/
def State.OnWorst (s : State) (m q : Frame) : Prop :=
  s.lowTemp.toInt = min m.lowestTemp.toInt q.lowestTemp.toInt ∧
    s.highTemp.toInt = max m.highestTemp.toInt q.highestTemp.toInt

/-- The report `f` is as cold and as hot as both `m` and `q`. -/
def Worst (f m q : Frame) : Prop :=
  (f.lowestTemp.toInt ≤ m.lowestTemp.toInt ∧ f.lowestTemp.toInt ≤ q.lowestTemp.toInt) ∧
    m.highestTemp.toInt ≤ f.highestTemp.toInt ∧ q.highestTemp.toInt ≤ f.highestTemp.toInt

/-- In every run in which both packs have reported, once the bus is drained the temperatures
are the worst of the two latest reports exactly when the last frame that arrived is the worst. -/
theorem v3_derates_on_the_worst_pack_iff_it_reported_last (is : List Input)
    (writes : List Write) (frames : List Frame) (m q : Frame)
    (hm : lastOf fromMonolith (framesOf is ++ frames) = some m)
    (hq : lastOf fromPowerTank (framesOf is ++ frames) = some q) :
    (bikeLoop (written (run loop setup is) writes) frames).OnWorst m q ↔
      ∀ f, lastOf reports (framesOf is ++ frames) = some f → Worst f m q := by
  have htemps : (bikeLoop (written (run loop setup is) writes) frames).temps =
      ((lastOf reports (framesOf is ++ frames)).map temps).getD setup.temps := by
    rw [bikeLoop_temps, written_temps, run_temps, lastOf_append]
    cases lastOf reports frames with
    | none => simp
    | some f => simp
  have hlast : lastOf reports (framesOf is ++ frames) = some m ∨
      lastOf reports (framesOf is ++ frames) = some q := by
    rw [← hm, ← hq]
    exact lastOf_or _
  generalize bikeLoop (written (run loop setup is) writes) frames = s at *
  unfold State.OnWorst Worst
  rcases hlast with h | h
  · rw [h] at htemps ⊢
    obtain ⟨hlow, hhigh⟩ := Prod.mk.inj htemps
    rw [hlow, hhigh]
    simp only [Option.some.injEq, forall_eq']
    omega
  · rw [h] at htemps ⊢
    obtain ⟨hlow, hhigh⟩ := Prod.mk.inj htemps
    rw [hlow, hhigh]
    simp only [Option.some.injEq, forall_eq']
    omega

/-- A monolith at 5 to 10 degrees and a power tank at 25 to 30. When the power tank reports
last, `v3` takes the pack to be at 25 degrees. -/
theorem a_cold_monolith_is_forgotten :
    let m := activeFrame BMS_PACK_ACTIVE_DATA 10 5 0
    let q := activeFrame BMS1_PACK_ACTIVE_DATA 30 25 0
    lastOf fromMonolith [m, q] = some m ∧ lastOf fromPowerTank [m, q] = some q ∧
      (bikeLoop setup [m, q]).lowTemp = 25 ∧ ¬ (bikeLoop setup [m, q]).OnWorst m q := by
  refine ⟨rfl, rfl, by decide, ?_⟩
  intro h
  exact absurd h.1 (by decide)

/-- The other order. -/
theorem a_cold_monolith_that_reports_last_is_seen :
    (bikeLoop setup [activeFrame BMS1_PACK_ACTIVE_DATA 30 25 0,
      activeFrame BMS_PACK_ACTIVE_DATA 30 5 0]).OnWorst
        (activeFrame BMS_PACK_ACTIVE_DATA 30 5 0) (activeFrame BMS1_PACK_ACTIVE_DATA 30 25 0) :=
  (v3_derates_on_the_worst_pack_iff_it_reported_last [] []
    [activeFrame BMS1_PACK_ACTIVE_DATA 30 25 0, activeFrame BMS_PACK_ACTIVE_DATA 30 5 0] _ _
    rfl rfl).mpr (by
      intro f hf
      cases hf
      unfold Worst
      decide)

end super_charger.v3
