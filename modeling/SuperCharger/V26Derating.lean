-- The derating of `v2.6.ino`: the power that a call leaves is within the station limit, one
-- ramp above the power before it, and within every row of the tables that applies.
import SuperCharger.V26Current

namespace super_charger.v26

open machine_int derating

/-! ## The parts only lower the power -/

theorem rampUp_le (s : State) : (rampUp s).watts.toNat ≤ s.watts.toNat + s.RAMP_RATE.toNat := by
  unfold rampUp
  split
  · exact toNat_add_le _ _
  · exact Nat.le_add_right _ _

theorem tempCutback_le (p : Platform) (s : State) : (tempCutback p s).watts ≤ s.watts :=
  cutbackLoop_le _ _ _ _

theorem voltageCutback_le (t : VoltageTable) (p : Platform) (s : State) :
    (voltageCutback t p s).watts ≤ s.watts := cutbackLoop_le _ _ _ _

theorem overTempCutback_le (p : Platform) (s : State) : (overTempCutback p s).watts ≤ s.watts :=
  cutbackLoop_le _ _ _ _

/-! ## What a call leaves -/

/-- The power after the ramp and the voltage loop, which do not look at the temperatures. -/
def afterVolts (p : Platform) (s : State) : UInt32 := (voltageCutback table p (rampUp s)).watts

/-- The power after the three loops. -/
def afterLoops (p : Platform) (s : State) : UInt32 :=
  cutbackLoop OVER_TEMP_CUTBACK_COUNT (hotApplies p s)
    (fun i => s.cap (derating.read OUTPUT_OVER_TEMP_C_RATE_CUTBACK p.pastOverTempRate i))
    (cutbackLoop TEMP_CUTBACK_COUNT (coldApplies p s)
      (fun i => s.cap (derating.read OUTPUT_TEMP_C_RATE_CUTBACK p.pastTempRate i))
      (afterVolts p s))

theorem loops_eq (p : Platform) (s : State) :
    overTempCutback p (tempCutback p (voltageCutback table p (rampUp s))) =
      { s with watts := afterLoops p s } := by
  obtain ⟨w, hvolts⟩ := (rampUp_onlyWatts s).trans (voltageCutback_onlyWatts table p (rampUp s))
  unfold afterLoops afterVolts overTempCutback tempCutback
  rw [hvolts]
  rfl

/-- The loops are left at most one ramp above the power before it. -/
theorem afterLoops_le (p : Platform) (s : State) :
    (afterLoops p s).toNat ≤ s.watts.toNat + s.RAMP_RATE.toNat := by
  have hramp := rampUp_le s
  have hvolts := UInt32.le_iff_toNat_le.mp (voltageCutback_le table p (rampUp s))
  have htemps : afterLoops p s ≤ afterVolts p s :=
    UInt32.le_trans (cutbackLoop_le _ _ _ _) (cutbackLoop_le _ _ _ _)
  have hloops := UInt32.le_iff_toNat_le.mp htemps
  unfold afterVolts at hloops
  omega

/-- What the step at the end voltage takes off. -/
def State.taken (s : State) : Nat :=
  if s.volts.toInt32.toUInt32 > s.OUTPUT_VOLTS_END ∨ s.volts.toInt32 > OUTPUT_VOLTS_MAX then
    (s.RAMP_RATE * 3).toNat
  else 0

theorem endStep_watts (s : State) : (endStep s).watts.toNat = s.watts.toNat - s.taken := by
  have hstep := endStep_toNat
    (s.volts.toInt32.toUInt32 > s.OUTPUT_VOLTS_END ∨ s.volts.toInt32 > OUTPUT_VOLTS_MAX)
    s.watts s.RAMP_RATE
  unfold State.taken
  rw [← hstep]
  unfold endStep
  split
  · split <;> rfl
  · rfl

theorem minStop_watts (s : State) :
    (minStop s).watts.toNat = if s.volts.toInt32 ≤ OUTPUT_VOLTS_MIN then 0 else s.watts.toNat := by
  unfold minStop
  split <;> rfl

theorem stationClamp_watts (s : State) :
    (stationClamp s).watts.toNat = min s.MAX_STATION_WATTS.toNat s.watts.toNat := by
  unfold stationClamp
  split
  · rename_i habove
    have hlt := UInt32.lt_iff_toNat_lt.mp habove
    exact (Nat.min_eq_left (Nat.le_of_lt hlt)).symm
  · rename_i hbelow
    have hle := UInt32.le_iff_toNat_le.mp (UInt32.not_lt.mp hbelow)
    exact (Nat.min_eq_right hle).symm

/-- The power of a call, from the power after the loops. -/
theorem chooseWatts_toNat (p : Platform) (s : State) :
    (chooseWatts p s).watts.toNat =
      min s.MAX_STATION_WATTS.toNat
        (if s.volts.toInt32 ≤ OUTPUT_VOLTS_MIN then 0 else (afterLoops p s).toNat - s.taken) := by
  have hend := endStep_watts { s with watts := afterLoops p s }
  obtain ⟨w, hw⟩ := endStep_onlyWatts { s with watts := afterLoops p s }
  have hmin := minStop_watts { s with watts := w }
  obtain ⟨w', hw'⟩ := minStop_onlyWatts { s with watts := w }
  have hclamp := stationClamp_watts { s with watts := w' }
  rw [hw] at hend
  rw [hw'] at hmin
  simp only at hend hmin hclamp
  unfold chooseWatts
  rw [loops_eq, hw]
  simp only
  rw [hw', hclamp, hmin, hend]
  rfl

/-- After the three loops the power is only lowered. -/
theorem chooseWatts_le_hot (p : Platform) (s : State) :
    (chooseWatts p s).watts ≤
      (overTempCutback p (tempCutback p (voltageCutback table p (rampUp s)))).watts := by
  rw [UInt32.le_iff_toNat_le, chooseWatts_toNat, loops_eq]
  simp only
  split <;> omega

theorem chooseWatts_le_cold (p : Platform) (s : State) :
    (chooseWatts p s).watts ≤ (tempCutback p (voltageCutback table p (rampUp s))).watts :=
  UInt32.le_trans (chooseWatts_le_hot p s) (overTempCutback_le p _)

theorem chooseWatts_le_volts (p : Platform) (s : State) :
    (chooseWatts p s).watts ≤ (voltageCutback table p (rampUp s)).watts :=
  UInt32.le_trans (chooseWatts_le_cold p s) (tempCutback_le p _)

/-- The power goes up by one ramp at most. -/
theorem chooseWatts_le_ramp (p : Platform) (s : State) :
    (chooseWatts p s).watts.toNat ≤ s.watts.toNat + s.RAMP_RATE.toNat := by
  have hloops := afterLoops_le p s
  rw [chooseWatts_toNat]
  split <;> omega

/-! ## The rows that apply -/

theorem cap_of_onlyWatts {s u : State} (h : OnlyWatts s u) : u.cap = s.cap := by
  obtain ⟨_, rfl⟩ := h
  rfl

theorem applies_of_onlyWatts {s u : State} (h : OnlyWatts s u) (p : Platform) :
    voltsApply table p u = voltsApply table p s ∧ coldApplies p u = coldApplies p s ∧
      hotApplies p u = hotApplies p s := by
  obtain ⟨_, rfl⟩ := h
  exact ⟨rfl, rfl, rfl⟩

/-- A row of the voltage table whose voltage is exceeded caps the power. -/
theorem chooseWatts_le_voltsRow {p : Platform} {s : State} {i : Nat} {rate : UInt32}
    (hrate : table.OUTPUT_C_RATE_CUTBACK[i]? = some rate) (happlies : voltsApply table p s i = true) :
    (chooseWatts p s).watts ≤ (s.cap rate).toUInt32 := by
  have hsame := rampUp_onlyWatts s
  have hcount : table.OUTPUT_C_RATE_CUTBACK.length ≤ table.CUTBACK_COUNT := by decide
  have hvolts := chooseWatts_le_volts p s
  rw [← (applies_of_onlyWatts hsame p).1] at happlies
  rw [← cap_of_onlyWatts hsame]
  generalize rampUp s = u at *
  exact UInt32.le_trans hvolts (cutbackLoop_le_row hrate hcount happlies u.watts)

/-- A row of the cold table that one of the packs is below caps the power. -/
theorem chooseWatts_le_coldRow {p : Platform} {s : State} {i : Nat} {rate : UInt32}
    (hrate : OUTPUT_TEMP_C_RATE_CUTBACK[i]? = some rate) (happlies : coldApplies p s i = true) :
    (chooseWatts p s).watts ≤ (s.cap rate).toUInt32 := by
  have hsame : OnlyWatts s (voltageCutback table p (rampUp s)) :=
    (rampUp_onlyWatts s).trans (voltageCutback_onlyWatts table p _)
  have hcount : OUTPUT_TEMP_C_RATE_CUTBACK.length ≤ TEMP_CUTBACK_COUNT := by decide
  have hcold := chooseWatts_le_cold p s
  rw [← (applies_of_onlyWatts hsame p).2.1] at happlies
  rw [← cap_of_onlyWatts hsame]
  generalize voltageCutback table p (rampUp s) = u at *
  exact UInt32.le_trans hcold (cutbackLoop_le_row hrate hcount happlies u.watts)

/-- A row of the hot table that one of the packs is above caps the power. -/
theorem chooseWatts_le_hotRow {p : Platform} {s : State} {i : Nat} {rate : UInt32}
    (hrate : OUTPUT_OVER_TEMP_C_RATE_CUTBACK[i]? = some rate) (happlies : hotApplies p s i = true) :
    (chooseWatts p s).watts ≤ (s.cap rate).toUInt32 := by
  have hsame : OnlyWatts s (tempCutback p (voltageCutback table p (rampUp s))) :=
    ((rampUp_onlyWatts s).trans (voltageCutback_onlyWatts table p _)).trans
      (tempCutback_onlyWatts p _)
  have hcount : OUTPUT_OVER_TEMP_C_RATE_CUTBACK.length ≤ OVER_TEMP_CUTBACK_COUNT := by decide
  have hhot := chooseWatts_le_hot p s
  rw [← (applies_of_onlyWatts hsame p).2.2] at happlies
  rw [← cap_of_onlyWatts hsame]
  generalize tempCutback p (voltageCutback table p (rampUp s)) = u at *
  exact UInt32.le_trans hhot (cutbackLoop_le_row hrate hcount happlies u.watts)

/-! ## The bound -/

/-- The power is within a row with this rate, in the state of the call. -/
def State.WithinRow (s : State) (rate watts : UInt32) : Prop :=
  (watts.toNat : Int) ≤ rowAmps rate s.C_RATE s.CPlus * s.volts.toInt

/-- A voltage and a C-rate with which no product of the three loops wraps. -/
structure State.Fits (s : State) : Prop where
  volts : 0 < s.volts.toInt
  c_rate : 0 ≤ s.C_RATE.toInt
  amps : 30 * s.C_RATE.toInt < 2 ^ 31
  watts : 3 * s.C_RATE.toInt * s.volts.toInt < 2 ^ 31

/-- No rate of the three tables is above 3C, so no cap wraps. -/
theorem withinRow_of_cap {s : State} {rate watts : UInt32} (h : s.Fits) (hrate : rate.toNat ≤ 30)
    (hcap : watts ≤ (s.cap rate).toUInt32) : s.WithinRow rate watts := by
  obtain ⟨hv, h0, h30, h3⟩ := h
  have hprod : rate.toNat * s.C_RATE.toInt ≤ 30 * s.C_RATE.toInt :=
    Int.mul_le_mul_of_nonneg_right (by omega) h0
  have hshare : rate.toNat * s.C_RATE.toInt / 10 ≤ 3 * s.C_RATE.toInt := by omega
  have hwatts : rate.toNat * s.C_RATE.toInt / 10 * s.volts.toInt ≤
      3 * s.C_RATE.toInt * s.volts.toInt := Int.mul_le_mul_of_nonneg_right hshare (by omega)
  have hrow := @maxWatts_toNat_le_row rate _ s.volts s.CPlus s.MAX_STATION_WATTS h0 (by omega)
    (Int.le_of_lt hv) (by omega)
  have hle := UInt32.le_iff_toNat_le.mp hcap
  unfold State.WithinRow
  unfold State.cap at hle
  omega

/-- The voltage is above that of the row. -/
def State.Above (s : State) (volts : UInt16) : Prop := s.volts.toInt32 > promote volts

/-- A pack is colder than the row. -/
def State.Colder (s : State) (temp : UInt16) : Prop :=
  s.monolithMinTemp < temp.toInt16.toInt32 ∨
    s.powerTankAH > 0 ∧ s.powerTankMinTemp < temp.toInt16.toInt32

/-- A pack is hotter than the row. -/
def State.Hotter (s : State) (temp : UInt16) : Prop :=
  s.monolithMaxTemp > temp.toInt16.toInt32 ∨
    s.powerTankAH > 0 ∧ s.powerTankMaxTemp > temp.toInt16.toInt32

/-- No rate of a table is above 3C. -/
def ratesFit (rates : List UInt32) : Bool := rates.all fun rate => rate.toNat ≤ 30

theorem rate_le_of_row {rates : List UInt32} (h : ratesFit rates = true) {i : Nat} {rate : UInt32}
    (hrow : rates[i]? = some rate) : rate.toNat ≤ 30 :=
  of_decide_eq_true (List.all_eq_true.mp h rate (List.mem_of_getElem? hrow))

theorem chooseWatts_within_volts {p : Platform} {s : State} (h : s.Fits) {i : Nat}
    {volts : UInt16} {rate : UInt32} (hrow : table.OUTPUT_VOLTS_CUTBACK[i]? = some volts)
    (hrate : table.OUTPUT_C_RATE_CUTBACK[i]? = some rate) (happlies : s.Above volts) :
    s.WithinRow rate (chooseWatts p s).watts := by
  apply withinRow_of_cap h (rate_le_of_row (by decide) hrate)
  apply chooseWatts_le_voltsRow hrate
  unfold voltsApply
  rw [read_of_row hrow]
  exact decide_eq_true happlies

theorem chooseWatts_within_cold {p : Platform} {s : State} (h : s.Fits) {i : Nat}
    {temp : UInt16} {rate : UInt32} (hrow : OUTPUT_TEMP_CUTBACK[i]? = some temp)
    (hrate : OUTPUT_TEMP_C_RATE_CUTBACK[i]? = some rate) (happlies : s.Colder temp) :
    s.WithinRow rate (chooseWatts p s).watts := by
  apply withinRow_of_cap h (rate_le_of_row (by decide) hrate)
  apply chooseWatts_le_coldRow hrate
  unfold coldApplies
  rw [read_of_row hrow]
  exact decide_eq_true happlies

theorem chooseWatts_within_hot {p : Platform} {s : State} (h : s.Fits) {i : Nat}
    {temp : UInt16} {rate : UInt32} (hrow : OUTPUT_OVER_TEMP_CUTBACK[i]? = some temp)
    (hrate : OUTPUT_OVER_TEMP_C_RATE_CUTBACK[i]? = some rate) (happlies : s.Hotter temp) :
    s.WithinRow rate (chooseWatts p s).watts := by
  apply withinRow_of_cap h (rate_le_of_row (by decide) hrate)
  apply chooseWatts_le_hotRow hrate
  unfold hotApplies
  rw [read_of_row hrow]
  exact decide_eq_true happlies

theorem refresh_kept (s : State) : (refresh s).MAX_STATION_WATTS = s.MAX_STATION_WATTS ∧
    (refresh s).watts = s.watts ∧ (refresh s).RAMP_RATE = s.RAMP_RATE := by
  rw [refresh_frame]
  exact ⟨rfl, rfl, rfl⟩

/-- A call leaves no more power than the station limit, than one ramp above the power before it,
and than every row of the three tables that applies, whatever lies past the tables. -/
theorem the_power_is_within_every_row_that_applies (p : Platform) (s : State)
    (h : (refresh s).Fits) :
    (setChargingAmps p s).watts ≤ s.MAX_STATION_WATTS ∧
      (setChargingAmps p s).watts.toNat ≤ s.watts.toNat + s.RAMP_RATE.toNat ∧
      (∀ (i : Nat) volts rate, table.OUTPUT_VOLTS_CUTBACK[i]? = some volts →
        table.OUTPUT_C_RATE_CUTBACK[i]? = some rate → (refresh s).Above volts →
        (refresh s).WithinRow rate (setChargingAmps p s).watts) ∧
      (∀ (i : Nat) temp rate, OUTPUT_TEMP_CUTBACK[i]? = some temp →
        OUTPUT_TEMP_C_RATE_CUTBACK[i]? = some rate → (refresh s).Colder temp →
        (refresh s).WithinRow rate (setChargingAmps p s).watts) ∧
      ∀ (i : Nat) temp rate, OUTPUT_OVER_TEMP_CUTBACK[i]? = some temp →
        OUTPUT_OVER_TEMP_C_RATE_CUTBACK[i]? = some rate → (refresh s).Hotter temp →
        (refresh s).WithinRow rate (setChargingAmps p s).watts := by
  have hwatts : (setChargingAmps p s).watts = (chooseWatts p (refresh s)).watts := by
    rw [setChargingAmps_eq]
  have hstation := chooseWatts_le_station p (refresh s)
  have hramp := chooseWatts_le_ramp p (refresh s)
  obtain ⟨hmax, hbefore, hrate⟩ := refresh_kept s
  rw [hmax] at hstation
  rw [hbefore, hrate] at hramp
  rw [hwatts]
  refine ⟨hstation, hramp, ?_, ?_, ?_⟩
  · intro i volts rate hrow hrate happlies
    exact chooseWatts_within_volts h hrow hrate happlies
  · intro i temp rate hrow hrate happlies
    exact chooseWatts_within_cold h hrow hrate happlies
  · intro i temp rate hrow hrate happlies
    exact chooseWatts_within_hot h hrow hrate happlies

/-- A pack of 100 Ah at 100.0 V and 21 degrees: the row of 22 degrees applies. -/
def coolBattery : State :=
  { setup usualSettings with volts := 1000, monolithAH := 100, monolithMinTemp := 21 }

theorem a_cool_battery_is_within_its_row :
    (refresh coolBattery).WithinRow 15 (setChargingAmps zeroPlatform coolBattery).watts :=
  (the_power_is_within_every_row_that_applies zeroPlatform coolBattery
    ⟨by decide, by decide, by decide, by decide⟩).2.2.2.1 13 22 15 rfl rfl (Or.inl (by decide))

end super_charger.v26
