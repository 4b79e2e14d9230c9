-- The current that `v2.6.ino` commands: when it stays within the power that
-- the limits of `setChargingAmps` leave, and within the 1C ceiling.
import SuperCharger.V26

namespace super_charger.v26

open machine_int derating zero runs

/-! ## What each part leaves alone -/

/-- The two states differ in the power at most. -/
def OnlyWatts (s t : State) : Prop := ∃ watts, t = { s with watts := watts }

theorem OnlyWatts.trans {s t u : State} (h1 : OnlyWatts s t) (h2 : OnlyWatts t u) :
    OnlyWatts s u := by
  obtain ⟨_, rfl⟩ := h1
  obtain ⟨w, rfl⟩ := h2
  exact ⟨w, rfl⟩

theorem rampUp_onlyWatts (s : State) : OnlyWatts s (rampUp s) := by
  unfold rampUp
  split
  · exact ⟨_, rfl⟩
  · exact ⟨s.watts, rfl⟩

theorem voltageCutback_onlyWatts (t : VoltageTable) (p : Platform) (s : State) :
    OnlyWatts s (voltageCutback t p s) := ⟨_, rfl⟩

theorem tempCutback_onlyWatts (p : Platform) (s : State) :
    OnlyWatts s (tempCutback p s) := ⟨_, rfl⟩

theorem overTempCutback_onlyWatts (p : Platform) (s : State) :
    OnlyWatts s (overTempCutback p s) := ⟨_, rfl⟩

theorem endStep_onlyWatts (s : State) : OnlyWatts s (endStep s) := by
  unfold endStep
  split
  · split <;> exact ⟨_, rfl⟩
  · exact ⟨s.watts, rfl⟩

theorem minStop_onlyWatts (s : State) : OnlyWatts s (minStop s) := by
  unfold minStop
  split
  · exact ⟨0, rfl⟩
  · exact ⟨s.watts, rfl⟩

theorem stationClamp_onlyWatts (s : State) : OnlyWatts s (stationClamp s) := by
  unfold stationClamp
  split
  · exact ⟨s.MAX_STATION_WATTS, rfl⟩
  · exact ⟨s.watts, rfl⟩

theorem beforeClamp_onlyWatts (p : Platform) (s : State) :
    OnlyWatts s
      (minStop (endStep (overTempCutback p (tempCutback p
        (voltageCutback table p (rampUp s)))))) := by
  apply OnlyWatts.trans _ (minStop_onlyWatts _)
  apply OnlyWatts.trans _ (endStep_onlyWatts _)
  apply OnlyWatts.trans _ (overTempCutback_onlyWatts p _)
  apply OnlyWatts.trans _ (tempCutback_onlyWatts p _)
  exact OnlyWatts.trans (rampUp_onlyWatts s) (voltageCutback_onlyWatts table p _)

/-- The limits on the power change the power and nothing else. -/
theorem chooseWatts_onlyWatts (p : Platform) (s : State) : OnlyWatts s (chooseWatts p s) :=
  OnlyWatts.trans (beforeClamp_onlyWatts p s) (stationClamp_onlyWatts _)

theorem stationClamp_le (s : State) : (stationClamp s).watts ≤ s.MAX_STATION_WATTS := by
  unfold stationClamp
  split
  · exact UInt32.le_refl _
  · rename_i h
    exact UInt32.not_lt.mp h

/-- The clamp comes last, so the power ends within the station limit. -/
theorem chooseWatts_le_station (p : Platform) (s : State) :
    (chooseWatts p s).watts ≤ s.MAX_STATION_WATTS := by
  obtain ⟨w, hw⟩ := beforeClamp_onlyWatts p s
  have hlast := stationClamp_le { s with watts := w }
  unfold chooseWatts
  rw [hw]
  exact hlast

theorem clampToC_RATE_eq (s : State) :
    clampToC_RATE s = { s with
      chargingAmps := if promote s.chargingAmps > s.C_RATE then truncate s.C_RATE
        else s.chargingAmps } := by
  unfold clampToC_RATE
  split <;> rfl

theorem limitMonolith_eq (s : State) :
    limitMonolith s = { s with
      chargingAmps := if s.monolithOver then truncate ((s.monolithAH - 2) * 10)
        else s.chargingAmps } := by
  unfold limitMonolith
  split <;> rfl

theorem limitPowerTank_eq (s : State) :
    limitPowerTank s = { s with
      chargingAmps := if s.powerTankOver then truncate ((s.powerTankAH - 2) * 10)
        else s.chargingAmps } := by
  unfold limitPowerTank
  split <;> rfl

/-- The branches after the division, the last one first: each overwrites those before it. -/
theorem limitAmps_eq (s : State) :
    limitAmps s = { s with
      chargingAmps :=
        if s.CPlus < 1 then
          if s.powerTankOver then truncate ((s.powerTankAH - 2) * 10)
          else if s.monolithOver then truncate ((s.monolithAH - 2) * 10)
          else if promote s.chargingAmps > s.C_RATE then truncate s.C_RATE
          else s.chargingAmps
        else s.chargingAmps } := by
  unfold limitAmps
  rw [clampToC_RATE_eq, limitMonolith_eq, limitPowerTank_eq]
  split
  · rfl
  · rfl

theorem refresh_frame (s : State) :
    refresh s = { s with volts := (refresh s).volts, C_RATE := (refresh s).C_RATE } := by
  unfold refresh refreshC_RATE refreshVolts
  simp only
  split <;> split <;> split <;> rfl

/-- The C-rate of a call: from the capacities when one is known, else as it was. -/
theorem refresh_C_RATE (s : State) :
    (refresh s).C_RATE = if s.monolithAH > 0 ∨ s.powerTankAH > 0 then
      (s.monolithAH + s.powerTankAH) * 10 else s.C_RATE := by
  unfold refresh refreshC_RATE refreshVolts
  simp only
  split <;> split <;> split <;> rfl

/-- The same state under another station limit. -/
def State.withLimit (s : State) (limit : UInt32) : State := { s with MAX_STATION_WATTS := limit }

/-- The station limit plays no part in the refresh. -/
theorem refresh_withLimit (s : State) (limit : UInt32) :
    refresh (s.withLimit limit) = (refresh s).withLimit limit := by
  unfold refresh refreshC_RATE refreshVolts State.withLimit
  simp only
  split <;> split <;> split <;> rfl

/-! ## The current of all the chargers -/

/-- `chargingAmps` before it is shared among the chargers. -/
def totalAmps (p : Platform) (s : State) : UInt16 :=
  (limitAmps (wattsToAmps p (chooseWatts p (refresh s)))).chargingAmps

/-- What a call leaves, field by field. -/
theorem setChargingAmps_eq (p : Platform) (s : State) :
    setChargingAmps p s =
      { refresh s with
        watts := (chooseWatts p (refresh s)).watts
        bikeAmps := totalAmps p s
        chargingAmps :=
          truncate (quotientInt p (promote (totalAmps p s)) (refresh s).chargerCount) } := by
  have hlimit := limitAmps_eq (wattsToAmps p (chooseWatts p (refresh s)))
  obtain ⟨w, hw⟩ := chooseWatts_onlyWatts p (refresh s)
  unfold setChargingAmps shareAmps totalAmps
  simp only
  rw [hlimit]
  unfold wattsToAmps
  rw [hw]

theorem refresh_chargerCount (s : State) : (refresh s).chargerCount = s.chargerCount := by
  rw [refresh_frame]

/-- The current of all the chargers together. -/
def State.commanded (s : State) : Int := s.chargingAmps.toNat * s.chargerCount.toInt

/-- All the chargers together get the current rounded down to a multiple of their number. -/
theorem setChargingAmps_commanded (p : Platform) (s : State) (hn : 1 ≤ s.chargerCount.toInt) :
    (setChargingAmps p s).commanded =
      roundDown s.chargerCount.toInt (totalAmps p s).toNat := by
  unfold State.commanded
  rw [setChargingAmps_eq]
  simp only
  rw [refresh_chargerCount]
  exact shares_eq_roundDown p _ hn

/-! ## What the limits on the current leave -/

/-- The current that a branch after the division puts in place, whatever the power allows. The
C-rate clamp lowers the current unless the C-rate is negative. -/
def State.override (s : State) : Option UInt16 :=
  if s.CPlus < 1 then
    if s.powerTankOver then some (truncate ((s.powerTankAH - 2) * 10))
    else if s.monolithOver then some (truncate ((s.monolithAH - 2) * 10))
    else if s.C_RATE < 0 then some (truncate s.C_RATE)
    else none
  else none

theorem limitAmps_of_override {s : State} {a : UInt16} (h : s.override = some a) :
    (limitAmps s).chargingAmps = a := by
  unfold State.override at h
  rw [limitAmps_eq]
  simp only
  split at h
  · rename_i hC
    rw [if_pos hC]
    split at h
    · rename_i hpt
      rw [if_pos hpt]
      exact Option.some.inj h
    · rename_i hpt
      rw [if_neg hpt]
      split at h
      · rename_i hm
        rw [if_pos hm]
        exact Option.some.inj h
      · rename_i hm
        rw [if_neg hm]
        split at h
        · rename_i hneg
          have habove : promote s.chargingAmps > s.C_RATE := by
            rw [gt_iff_lt, Int32.lt_iff_toInt_lt, toInt_promote]
            rw [Int32.lt_iff_toInt_lt] at hneg
            simp only [Int32.reduceToInt] at hneg
            omega
          rw [if_pos habove]
          exact Option.some.inj h
        · cases h
  · cases h

/-- With no branch to put a current in place, the branches after the division only lower it. -/
theorem limitAmps_le {s : State} (h : s.override = none) :
    (limitAmps s).chargingAmps.toNat ≤ s.chargingAmps.toNat := by
  unfold State.override at h
  rw [limitAmps_eq]
  simp only
  split at h
  · rename_i hC
    rw [if_pos hC]
    split at h
    · cases h
    · rename_i hpt
      rw [if_neg hpt]
      split at h
      · cases h
      · rename_i hm
        rw [if_neg hm]
        split at h
        · cases h
        · rename_i hneg
          split
          · rename_i habove
            rw [Int32.lt_iff_toInt_lt] at hneg
            rw [gt_iff_lt, Int32.lt_iff_toInt_lt, toInt_promote] at habove
            simp only [Int32.reduceToInt] at hneg
            have ha := s.chargingAmps.toNat_lt
            have hC := toNat_truncate_of_lt (x := s.C_RATE) (by omega) (by omega)
            omega
          · exact Nat.le_refl _
  · rename_i hC
    rw [if_neg hC]

/-- The branches after the division do not look at the power. -/
theorem override_chooseWatts (p : Platform) (s : State) :
    (wattsToAmps p (chooseWatts p s)).override = s.override := by
  obtain ⟨w, hw⟩ := chooseWatts_onlyWatts p s
  rw [hw]
  rfl

theorem totalAmps_of_override {p : Platform} {s : State} {a : UInt16}
    (h : (refresh s).override = some a) : totalAmps p s = a := by
  unfold totalAmps
  apply limitAmps_of_override
  rw [override_chooseWatts]
  exact h

/-- With no branch to put a current in place, the power covers the current of the pack. -/
theorem totalAmps_le_power {p : Platform} {s : State} (h : (refresh s).override = none)
    (hv : 0 < (refresh s).volts.toInt) :
    (totalAmps p s).toNat * (refresh s).volts.toInt ≤ (chooseWatts p (refresh s)).watts.toNat := by
  have hle := limitAmps_le (s := wattsToAmps p (chooseWatts p (refresh s)))
    (by rw [override_chooseWatts]; exact h)
  obtain ⟨w, hw⟩ := chooseWatts_onlyWatts p (refresh s)
  have hvolts : ((refresh s).volts.toInt32.toUInt32.toNat : Int) = (refresh s).volts.toInt := by
    rw [toNat_toUInt32_of_nonneg (by rw [Int16.toInt_toInt32]; omega), Int16.toInt_toInt32]
  have hpos : 0 < (refresh s).volts.toInt32.toUInt32.toNat := by omega
  have hquot : (wattsToAmps p (chooseWatts p (refresh s))).chargingAmps.toNat ≤
      w.toNat / (refresh s).volts.toInt32.toUInt32.toNat := by
    rw [hw]
    exact quotient_toUInt16_le p hpos
  have hmul := Nat.div_mul_le_self w.toNat (refresh s).volts.toInt32.toUInt32.toNat
  have htotal : (totalAmps p s).toNat * (refresh s).volts.toInt32.toUInt32.toNat ≤ w.toNat :=
    Nat.le_trans (Nat.mul_le_mul_right _ (Nat.le_trans hle hquot)) hmul
  rw [hw, ← hvolts]
  exact_mod_cast htotal

/-! ## The current and the power -/

/-- The current of all the chargers, at the voltage of the battery, is within the power. -/
def State.WithinPower (s : State) : Prop := s.commanded * s.volts.toInt ≤ s.watts.toNat

instance (s : State) : Decidable s.WithinPower := Int.decLe _ _

@[simp] theorem withLimit_override (s : State) (limit : UInt32) :
    (s.withLimit limit).override = s.override := rfl

@[simp] theorem withLimit_volts (s : State) (limit : UInt32) :
    (s.withLimit limit).volts = s.volts := rfl

@[simp] theorem withLimit_chargerCount (s : State) (limit : UInt32) :
    (s.withLimit limit).chargerCount = s.chargerCount := rfl

theorem withinPower_of_no_override {p : Platform} {s : State} (hn : 1 ≤ s.chargerCount.toInt)
    (hv : 0 < (refresh s).volts.toInt) (h : (refresh s).override = none) :
    (setChargingAmps p s).WithinPower := by
  have hpower := totalAmps_le_power (p := p) h hv
  have hround := roundDown_le (a := (totalAmps p s).toNat) hn
  have hcommanded := setChargingAmps_commanded p s hn
  unfold State.WithinPower
  rw [hcommanded, setChargingAmps_eq]
  simp only
  exact Int.le_trans (Int.mul_le_mul_of_nonneg_right hround (by omega)) hpower

/-- A current that the division among the chargers rounds down to 0 needs no power. -/
theorem withinPower_of_override {p : Platform} {s : State} {a : UInt16}
    (hn : 1 ≤ s.chargerCount.toInt) (h : (refresh s).override = some a)
    (hlt : (a.toNat : Int) < s.chargerCount.toInt) : (setChargingAmps p s).WithinPower := by
  have hcommanded := setChargingAmps_commanded p s hn
  rw [totalAmps_of_override h] at hcommanded
  have hle : roundDown s.chargerCount.toInt a.toNat ≤ 0 :=
    (roundDown_le_zero_iff hn (by omega)).mpr hlt
  have hge : 0 ≤ roundDown s.chargerCount.toInt a.toNat := roundDown_nonneg hn (by omega)
  have hzero : roundDown s.chargerCount.toInt a.toNat = 0 := by omega
  unfold State.WithinPower
  rw [hcommanded, hzero, Int.zero_mul]
  exact Int.natCast_nonneg _

/-- Under the limit 0 there is no power, so a current that a branch puts in place shows. -/
theorem override_lt_of_withinPower {p : Platform} {s : State} {a : UInt16}
    (hn : 1 ≤ s.chargerCount.toInt) (hv : 0 < (refresh s).volts.toInt)
    (h : (refresh s).override = some a) (hzero : s.MAX_STATION_WATTS = 0)
    (hpower : (setChargingAmps p s).WithinPower) : (a.toNat : Int) < s.chargerCount.toInt := by
  have hcommanded := setChargingAmps_commanded p s hn
  rw [totalAmps_of_override h] at hcommanded
  have hstation := chooseWatts_le_station p (refresh s)
  have hmax : (refresh s).MAX_STATION_WATTS = 0 := by
    rw [refresh_frame]
    exact hzero
  rw [hmax, UInt32.le_iff_toNat_le, UInt32.toNat_zero] at hstation
  unfold State.WithinPower at hpower
  rw [hcommanded, setChargingAmps_eq] at hpower
  simp only at hpower
  rw [← roundDown_le_zero_iff hn (by omega)]
  by_contra hcurrent
  have := Int.mul_pos (Int.not_le.mp hcurrent) hv
  omega

/-- A call keeps the current within the power, for every station limit, exactly when no branch
after the division puts a current in place, or only one that the division among the chargers
rounds down to 0. -/
theorem the_current_stays_within_the_power_iff_no_branch_replaces_it (p : Platform) (s : State)
    (hn : 1 ≤ s.chargerCount.toInt) (hv : 0 < (refresh s).volts.toInt) :
    (∀ limit, (setChargingAmps p (s.withLimit limit)).WithinPower) ↔
      ∀ a, (refresh s).override = some a → (a.toNat : Int) < s.chargerCount.toInt := by
  have hn' : ∀ limit, 1 ≤ (s.withLimit limit).chargerCount.toInt := by
    intro limit
    rw [withLimit_chargerCount]
    exact hn
  have hv' : ∀ limit, 0 < (refresh (s.withLimit limit)).volts.toInt := by
    intro limit
    rw [refresh_withLimit, withLimit_volts]
    exact hv
  have hsame : ∀ limit, (refresh (s.withLimit limit)).override = (refresh s).override := by
    intro limit
    rw [refresh_withLimit, withLimit_override]
  constructor
  · intro h a ha
    have hzero : (s.withLimit 0).MAX_STATION_WATTS = 0 := rfl
    have hlt := override_lt_of_withinPower (hn' 0) (hv' 0) ((hsame 0).trans ha) hzero (h 0)
    rw [withLimit_chargerCount] at hlt
    exact hlt
  · intro h limit
    cases hover : (refresh s).override with
    | none => exact withinPower_of_no_override (hn' limit) (hv' limit) ((hsame limit).trans hover)
    | some a =>
      apply withinPower_of_override (hn' limit) ((hsame limit).trans hover)
      rw [withLimit_chargerCount]
      exact h a hover

/-- One charger, a limit of 6.6 kW and the other settings at their defaults. -/
def usualSettings : Settings where
  TargetWatts := 660000
  TargetVolts := 1164
  TargetChargerCount := 1
  TargetMAX_AMPS := 960
  Target1CPlus := 0
  TargetRAMP_RATE := 5000

/-- A pack of 10 Ah that takes 20 A at 45.0 V. The minimum voltage brings the power to 0, and
the over-current branch then commands 8.0 A. -/
theorem an_over_current_undoes_the_minimum_stop :
    let s := run loop (setup usualSettings) (upToHeartbeat [voltageFrame BMS_CELL_VOLTAGE 45000,
      configFrame BMS_PACK_CONFIG 10, activeFrame BMS_PACK_ACTIVE_DATA 20 20 20])
    let t := loop s (fromBike [])
    (polled s (fromBike [])).delayItteration < 1 ∧ 0 < t.volts.toInt ∧
      1 ≤ t.chargerCount.toInt ∧ t.watts = 0 ∧ t.chargingAmps = 80 ∧ ¬ t.WithinPower := by
  decide +kernel

theorem a_battery_at_rest_has_no_branch_to_replace_its_current :
    (setChargingAmps zeroPlatform
      (State.withLimit { setup usualSettings with volts := 1000 } 660000)).WithinPower :=
  (the_current_stays_within_the_power_iff_no_branch_replaces_it zeroPlatform
    { setup usualSettings with volts := 1000 } (by decide) (by decide)).mpr (by
      intro a h
      have hnone : (refresh { setup usualSettings with volts := 1000 }).override = none := by decide
      rw [hnone] at h
      cases h) 660000

end super_charger.v26
