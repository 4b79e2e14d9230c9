-- The power that the controllers keep back for the 12 V supplies of the chargers: when what
-- `setChargingAmps` leaves of the station limit covers them.
import SuperCharger.V25Twins
import SuperCharger.V3Taper

namespace super_charger.station_reserve

open machine_int derating

/-- What the supplies of the chargers need, at `MAX_12V_WATTS` each. -/
def reserve (chargerCount : Int) : Nat := 600 * chargerCount.toNat

/-- The power and the reserve are within the limit together, or the reserve alone is above the
limit and there is no power. -/
def LeavesReserve (watts MAX_STATION_WATTS : UInt32) (reserve : Nat) : Prop :=
  watts.toNat + reserve ≤ MAX_STATION_WATTS.toNat ∨
    MAX_STATION_WATTS.toNat < reserve ∧ watts = 0

theorem leavesReserve_iff (watts MAX_STATION_WATTS : UInt32) (reserve : Nat) :
    LeavesReserve watts MAX_STATION_WATTS reserve ↔
      watts.toNat ≤ MAX_STATION_WATTS.toNat - reserve := by
  unfold LeavesReserve
  rw [← UInt32.toNat_inj, UInt32.toNat_zero]
  omega

/-- The clamp to the limit less the supplies, which wraps when the supplies are more. -/
theorem clamp_le_iff {watts MAX_STATION_WATTS : UInt32} (supplies : UInt32) {bound : Nat}
    (hbound : bound ≤ MAX_STATION_WATTS.toNat) :
    (if watts > MAX_STATION_WATTS then MAX_STATION_WATTS - supplies else watts).toNat ≤ bound ↔
      watts.toNat ≤ bound ∨
        ¬ watts.toNat ≤ MAX_STATION_WATTS.toNat ∧ (MAX_STATION_WATTS - supplies).toNat ≤ bound := by
  by_cases habove : watts > MAX_STATION_WATTS
  · have hlt := UInt32.lt_iff_toNat_lt.mp habove
    rw [if_pos habove]
    constructor
    · intro h
      exact Or.inr ⟨by omega, h⟩
    · rintro (h | ⟨_, h⟩)
      · omega
      · exact h
  · have hle := UInt32.le_iff_toNat_le.mp (UInt32.not_lt.mp habove)
    rw [if_neg habove]
    constructor
    · exact Or.inl
    · rintro (h | ⟨h, _⟩)
      · exact h
      · exact absurd hle h

end super_charger.station_reserve

/-! ## `v2.5` -/

namespace super_charger.v25

open machine_int derating station_reserve

/-- The power after the ramp. -/
def State.ramped (s : State) : UInt32 :=
  if s.watts < s.MAX_STATION_WATTS then s.watts + s.RAMP_RATE else s.watts

/-- What the step at the end voltage takes off. -/
def State.taken (s : State) : Nat :=
  if s.volts.toInt32.toUInt32 > s.OUTPUT_VOLTS_END then (s.RAMP_RATE * 3).toNat else 0

/-- The ramped power, or the cap of a row that applies, is within the bound once the end voltage
has taken its part off. -/
def HasRoom (p : Platform) (s : State) (bound : Nat) : Prop :=
  s.ramped.toNat ≤ bound + s.taken ∨
    CapWithin CUTBACK_COUNT (voltsApply p s)
      (fun i => s.cap (derating.read OUTPUT_C_RATE_CUTBACK p.pastVoltsRate i)) (bound + s.taken) ∨
    CapWithin TEMP_CUTBACK_COUNT (coldApplies p s)
      (fun i => s.cap (derating.read OUTPUT_TEMP_C_RATE_CUTBACK p.pastTempRate i))
      (bound + s.taken) ∨
    CapWithin OVER_TEMP_CUTBACK_COUNT (hotApplies p s)
      (fun i => s.cap (derating.read OUTPUT_OVER_TEMP_C_RATE_CUTBACK p.pastOverTempRate i))
      (bound + s.taken)

theorem rampUp_eq (s : State) : rampUp s = { s with watts := s.ramped } := by
  unfold rampUp State.ramped
  split <;> rfl

theorem endStep_watts (s : State) : (endStep s).watts.toNat = s.watts.toNat - s.taken := by
  have hstep := endStep_toNat (s.volts.toInt32.toUInt32 > s.OUTPUT_VOLTS_END) s.watts s.RAMP_RATE
  unfold State.taken
  rw [← hstep]
  unfold endStep
  split
  · split <;> rfl
  · rfl

theorem beforeStop_le_iff (p : Platform) (s : State) (bound : Nat) :
    (beforeStop p s).watts.toNat ≤ bound ↔ HasRoom p s bound := by
  unfold beforeStop HasRoom
  rw [rampUp_eq, endStep_watts, Nat.sub_le_iff_le_add]
  unfold overTempCutback
  simp only
  rw [cutbackLoop_le_iff]
  unfold tempCutback
  simp only
  rw [cutbackLoop_le_iff]
  unfold voltageCutback
  simp only
  rw [cutbackLoop_le_iff, or_assoc, or_assoc]
  rfl

theorem beforeStop_frame (p : Platform) (s : State) :
    ∃ watts, beforeStop p s = { s with watts := watts } := by
  unfold beforeStop overTempCutback tempCutback voltageCutback
  rw [rampUp_eq]
  simp only
  generalize cutbackLoop OVER_TEMP_CUTBACK_COUNT _ _ _ = w
  obtain ⟨_, hend⟩ := endStep_frame { s with watts := w }
  rw [hend]
  exact ⟨_, rfl⟩

theorem stationClamp_le_iff (s : State) {bound : Nat} (hbound : bound ≤ s.MAX_STATION_WATTS.toNat) :
    (stationClamp s).watts.toNat ≤ bound ↔
      s.watts.toNat ≤ bound ∨
        ¬ s.watts.toNat ≤ s.MAX_STATION_WATTS.toNat ∧
          (s.MAX_STATION_WATTS - s.supplies).toNat ≤ bound := by
  have hclamp : (stationClamp s).watts =
      if s.watts > s.MAX_STATION_WATTS then s.MAX_STATION_WATTS - s.supplies else s.watts := by
    unfold stationClamp
    split <;> rfl
  rw [hclamp]
  exact clamp_le_iff s.supplies hbound

/-- What the choice of the power leaves is within a bound below the limit exactly when there is
room, or the clamp with the supplies is taken and ends within the bound. -/
theorem chooseWatts_le_iff (p : Platform) (s : State) {bound : Nat}
    (hbound : bound ≤ s.MAX_STATION_WATTS.toNat) :
    (chooseWatts .v2_5 p s).watts.toNat ≤ bound ↔
      HasRoom p s bound ∨
        ¬ HasRoom p s s.MAX_STATION_WATTS.toNat ∧
          (s.MAX_STATION_WATTS - s.supplies).toNat ≤ bound := by
  obtain ⟨w, hw⟩ := beforeStop_frame p s
  have hclamp := stationClamp_le_iff { s with watts := w } hbound
  have hroom := beforeStop_le_iff p s bound
  have hfits := beforeStop_le_iff p s s.MAX_STATION_WATTS.toNat
  rw [hw] at hroom hfits
  rw [← hroom, ← hfits, chooseWatts_eq, hw]
  exact hclamp

/-- The limit and the count of the chargers are not refreshed. -/
theorem refresh_limits (s : State) :
    (refreshC_RATE (refreshVolts s)).MAX_STATION_WATTS = s.MAX_STATION_WATTS ∧
      (refreshC_RATE (refreshVolts s)).supplies = s.supplies := by
  obtain ⟨_, _, hrefresh⟩ := refresh_frame s
  rw [hrefresh]
  exact ⟨rfl, rfl⟩

end super_charger.v25

/-! ## `SC.h` -/

namespace super_charger.sc

open machine_int derating station_reserve

variable {t : VoltageTable} {p : Platform}

/-- The power after the ramp. -/
def State.ramped (s : State) : UInt32 :=
  if s.watts < s.MAX_STATION_WATTS then s.watts + s.RAMP_RATE else s.watts

/-- The supplies that `stationClamp` takes off the limit. -/
def State.supplies (s : State) : UInt32 := (MAX_12V_WATTS * s.chargerCount).toUInt32

/-- The ramped power, or the cap of a row that applies, is within the bound once the end voltage
has taken its part off. Every row of the voltage table applies. -/
def HasRoom (t : VoltageTable) (p : Platform) (s : State) (bound : Nat) : Prop :=
  s.ramped.toNat ≤ bound + s.taken ∨
    CapWithin t.CUTBACK_COUNT (fun _ => true)
      (fun i => s.cap (derating.read t.OUTPUT_C_RATE_CUTBACK p.pastVoltsRate i))
      (bound + s.taken) ∨
    CapWithin TEMP_CUTBACK_COUNT (coldApplies p s)
      (fun i => s.cap (derating.read OUTPUT_TEMP_C_RATE_CUTBACK p.pastTempRate i))
      (bound + s.taken) ∨
    CapWithin OVER_TEMP_CUTBACK_COUNT (hotApplies p s)
      (fun i => s.cap (derating.read OUTPUT_OVER_TEMP_C_RATE_CUTBACK p.pastOverTempRate i))
      (bound + s.taken)

theorem afterEnd_le_iff (t : VoltageTable) (p : Platform) (s : State) (bound : Nat) :
    (endStep (overTempCutback p (tempCutback p (voltageCutback t p (rampUp s))))).watts.toNat ≤
        bound ↔ HasRoom t p s bound := by
  have hramp : rampUp s = { s with watts := s.ramped } := rampUp_eq s
  unfold HasRoom
  rw [hramp, voltageCutback_eq, endStep_watts, Nat.sub_le_iff_le_add]
  unfold overTempCutback
  simp only
  rw [cutbackLoop_le_iff]
  unfold tempCutback
  simp only
  rw [cutbackLoop_le_iff, cutbackLoop_le_iff, or_assoc, or_assoc]
  rfl

/-- The voltage is outside the range of the table. -/
def OutOfRange (t : VoltageTable) (s : State) : Prop :=
  s.volts.toInt32 > t.OUTPUT_VOLTS_MAX ∨ s.volts.toInt32 < OUTPUT_VOLTS_MIN

/-- Before the clamp with the supplies the power is within a bound exactly when the voltage is out
of range or there is room. -/
theorem beforeClamp_le_iff (t : VoltageTable) (p : Platform) (s : State) (bound : Nat) :
    (rangeStop t (endStep (overTempCutback p (tempCutback p
      (voltageCutback t p (rampUp s)))))).watts.toNat ≤ bound ↔
      OutOfRange t s ∨ HasRoom t p s bound := by
  obtain ⟨w, _, hloops⟩ := loops_frame t p s
  obtain ⟨w', _, hend⟩ := endStep_lowers { s with watts := w }
  have hroom := afterEnd_le_iff t p s bound
  rw [hloops, hend] at hroom ⊢
  by_cases hout : OutOfRange t s
  · have hstop : rangeStop t { s with watts := w' } = { s with watts := 0 } := if_pos hout
    simp only
    rw [hstop]
    exact iff_of_true (Nat.zero_le _) (Or.inl hout)
  · have hstop : rangeStop t { s with watts := w' } = { s with watts := w' } := if_neg hout
    simp only at hroom ⊢
    rw [hstop, or_iff_right hout]
    exact hroom

/-- What the choice of the power leaves is within a bound below the limit exactly when the voltage
is out of range, or there is room, or the clamp with the supplies ends within the bound. -/
theorem chooseWatts_le_iff (t : VoltageTable) (p : Platform) (s : State) {bound : Nat}
    (hbound : bound ≤ s.MAX_STATION_WATTS.toNat) :
    (chooseWatts t p s).watts.toNat ≤ bound ↔
      OutOfRange t s ∨ HasRoom t p s bound ∨
        ¬ HasRoom t p s s.MAX_STATION_WATTS.toNat ∧
          (s.MAX_STATION_WATTS - s.supplies).toNat ≤ bound := by
  obtain ⟨w, hw⟩ := beforeClamp_frame t p s
  have hroom := beforeClamp_le_iff t p s bound
  have hfits := beforeClamp_le_iff t p s s.MAX_STATION_WATTS.toNat
  have hclamp := @clamp_le_iff w s.MAX_STATION_WATTS s.supplies bound hbound
  rw [hw] at hroom hfits
  simp only at hroom hfits
  rw [hroom, hfits] at hclamp
  unfold chooseWatts
  rw [hw, stationClamp_eq]
  refine hclamp.trans ?_
  by_cases hout : OutOfRange t s
  · exact iff_of_true (Or.inl (Or.inl hout)) (Or.inl hout)
  · rw [or_iff_right hout, or_iff_right hout, or_iff_right hout]

end super_charger.sc

/-! ## The law of the reserve -/

namespace super_charger.station_reserve

open machine_int derating

/-- What a call leaves covers the supplies exactly when the ramped power or the cap of a row that
applies does, or the clamp is taken and its wrapped difference does. In `SC.h` a voltage out of
range leaves no power. -/
theorem the_reserve_is_left_iff (p : Platform) :
    (∀ s : v25.State,
      let found := v25.refreshC_RATE (v25.refreshVolts s)
      let room := s.MAX_STATION_WATTS.toNat - reserve s.chargerCount.toInt
      (LeavesReserve (v25.setChargingAmps .v2_5 p s).watts s.MAX_STATION_WATTS
          (reserve s.chargerCount.toInt) ↔
        v25.HasRoom p found room ∨
          ¬ v25.HasRoom p found s.MAX_STATION_WATTS.toNat ∧
            (s.MAX_STATION_WATTS - s.supplies).toNat ≤ room)) ∧
    ∀ (t : VoltageTable) (s : sc.State),
      let room := s.MAX_STATION_WATTS.toNat - reserve s.chargerCount.toInt
      (LeavesReserve (sc.setChargingAmps t p s).watts s.MAX_STATION_WATTS
          (reserve s.chargerCount.toInt) ↔
        sc.OutOfRange t s ∨ sc.HasRoom t p s room ∨
          ¬ sc.HasRoom t p s s.MAX_STATION_WATTS.toNat ∧
            (s.MAX_STATION_WATTS - s.supplies).toNat ≤ room) := by
  constructor
  · intro s found room
    obtain ⟨hlimit, hsupplies⟩ := v25.refresh_limits s
    have hbound : room ≤ found.MAX_STATION_WATTS.toNat := by
      rw [hlimit]
      exact Nat.sub_le _ _
    have hchoice := v25.chooseWatts_le_iff p found hbound
    rw [hlimit, hsupplies] at hchoice
    rw [leavesReserve_iff, v25.setChargingAmps_watts]
    exact hchoice
  · intro t s room
    have hbound : room ≤ s.MAX_STATION_WATTS.toNat := Nat.sub_le _ _
    have hchoice := sc.chooseWatts_le_iff t p s hbound
    rw [leavesReserve_iff, sc.setChargingAmps_eq]
    exact hchoice

/-- A warm pack of 96 Ah at 85.0 V on one charger, with this power and this limit. -/
def warmPack (watts MAX_STATION_WATTS : UInt32) : v25.State :=
  { v25.setup v25.usualEEPROM with
    watts := watts
    MAX_STATION_WATTS := MAX_STATION_WATTS
    volts := 850
    monolithMinTemp := 45
    monolithMaxTemp := 45 }

/-- The same pack at 110.0 V in `SC.h`, one ramp below its limit. -/
def almostAtLimit : sc.State :=
  { sc.globals v3.table 960 with
    watts := 195000
    MAX_STATION_WATTS := 200000
    volts := 1100
    chargerCount := 1
    lowTemp := 25
    highTemp := 25 }

/-- The last ramp to a limit of 6.6 kW ends at the limit, with nothing left for the charger. A
limit of 5 W is less than the reserve of 6 W, and the clamp to it wraps to almost 43 MW. In
`SC.h` the last ramp to 2 kW ends at the limit as well. -/
theorem the_reserve_is_not_left :
    (v25.setChargingAmps .v2_5 zeroPlatform (warmPack 655000 660000)).watts = 660000 ∧
    ¬ LeavesReserve (v25.setChargingAmps .v2_5 zeroPlatform (warmPack 655000 660000)).watts 660000
      (reserve (warmPack 655000 660000).chargerCount.toInt) ∧
    (v25.setChargingAmps .v2_5 zeroPlatform (warmPack 300 500)).watts = 4294967196 ∧
    ¬ LeavesReserve (v25.setChargingAmps .v2_5 zeroPlatform (warmPack 300 500)).watts 500
      (reserve (warmPack 300 500).chargerCount.toInt) ∧
    (sc.setChargingAmps v3.table zeroPlatform almostAtLimit).watts = 200000 ∧
    ¬ LeavesReserve (sc.setChargingAmps v3.table zeroPlatform almostAtLimit).watts 200000
      (reserve almostAtLimit.chargerCount.toInt) := by
  unfold LeavesReserve
  decide +kernel

end super_charger.station_reserve
