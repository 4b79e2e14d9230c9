-- The taper of `v2.6.ino`: the power from call to call while the voltage stays above the end
-- voltage, under the settings of one command.
import SuperCharger.V26Derating

namespace super_charger.v26

open machine_int derating runs

/-! ## Calls at the end of a charge -/

/-- All that a call of `setChargingAmps` finds but the power, and what C leaves open for it. -/
structure Call where
  found : State
  platform : Platform

def Call.start (call : Call) (watts : UInt32) : State := { call.found with watts := watts }

/-- The power after the call, from the power before it. -/
def taper (watts : UInt32) (call : Call) : UInt32 :=
  (setChargingAmps call.platform (call.start watts)).watts

/-- The settings are those of the command, and the voltage is above its end voltage. The C-rate is
left free, because the capacities of the packs replace it. -/
structure Call.AboveEnd (call : Call) (c : Command) : Prop where
  OUTPUT_VOLTS_END : call.found.OUTPUT_VOLTS_END = c.targetVolts
  MAX_STATION_WATTS : call.found.MAX_STATION_WATTS = c.targetWattage * 100
  CPlus : call.found.CPlus = c.target1CPlus
  RAMP_RATE : call.found.RAMP_RATE = c.targetRAMP_RATE * 100
  volts : (refresh call.found).volts.toInt32.toUInt32 > c.targetVolts

/-- Every call that finds some power lowers it, and from some number of calls on none is left. -/
structure Tapers (c : Command) : Prop where
  lowers : ∀ watts call, call.AboveEnd c → 0 < watts → taper watts call < watts
  ends : ∀ watts, ∃ n, ∀ calls, (∀ call ∈ calls, call.AboveEnd c) → n ≤ calls.length →
    run taper watts calls = 0

/-! ## One call -/

/-- The power plays no part in the refresh. -/
theorem refresh_start (call : Call) (watts : UInt32) :
    refresh (call.start watts) = { refresh call.found with watts := watts } := by
  unfold refresh refreshC_RATE refreshVolts Call.start
  simp only
  split <;> split <;> split <;> rfl

theorem taper_eq (watts : UInt32) (call : Call) :
    taper watts call =
      (chooseWatts call.platform { refresh call.found with watts := watts }).watts := by
  unfold taper
  rw [setChargingAmps_eq, refresh_start]

/-- Above the end voltage a call adds one ramp at most, and takes three off. -/
theorem chooseWatts_le_taper {p : Platform} {s : State}
    (h : s.volts.toInt32.toUInt32 > s.OUTPUT_VOLTS_END) :
    (chooseWatts p s).watts.toNat ≤
      s.watts.toNat + s.RAMP_RATE.toNat - (s.RAMP_RATE * 3).toNat := by
  have hloops := afterLoops_le p s
  have htaken : s.taken = (s.RAMP_RATE * 3).toNat := if_pos (Or.inl h)
  rw [chooseWatts_toNat, htaken]
  split <;> omega

/-! ## The ramp -/

/-- Three ramps, in 32 bits, are more than one. -/
def StepsDown (RAMP_RATE : UInt32) : Prop := RAMP_RATE < RAMP_RATE * 3

/-- The product wraps once or not at all, and after two wraps it is too small. -/
theorem stepsDown_iff (RAMP_RATE : UInt32) :
    StepsDown RAMP_RATE ↔
      0 < RAMP_RATE.toNat ∧ 3 * RAMP_RATE.toNat < 2 ^ 32 ∨
        2 ^ 31 < RAMP_RATE.toNat ∧ 3 * RAMP_RATE.toNat < 2 ^ 33 := by
  have hlt := RAMP_RATE.toNat_lt
  have hthree : (3 : UInt32).toNat = 3 := rfl
  have hwraps : RAMP_RATE.toNat * 3 / 2 ^ 32 = 0 ∨ RAMP_RATE.toNat * 3 / 2 ^ 32 = 1 ∨
      RAMP_RATE.toNat * 3 / 2 ^ 32 = 2 := by omega
  unfold StepsDown
  rw [UInt32.lt_iff_toNat_lt, UInt32.toNat_mul, hthree]
  rcases hwraps with hnone | honce | htwice <;> omega

/-- Above the end voltage a call lowers the power by 1 or more when the ramp steps down, or the
station gives nothing. -/
theorem chooseWatts_lowers {p : Platform} {s : State}
    (habove : s.volts.toInt32.toUInt32 > s.OUTPUT_VOLTS_END)
    (h : s.MAX_STATION_WATTS = 0 ∨ StepsDown s.RAMP_RATE) :
    (chooseWatts p s).watts.toNat ≤ s.watts.toNat - 1 := by
  rcases h with hnone | hsteps
  · have hstation := UInt32.le_iff_toNat_le.mp (chooseWatts_le_station p s)
    rw [hnone, UInt32.toNat_zero] at hstation
    omega
  · have hstep := chooseWatts_le_taper (p := p) habove
    have hmore := UInt32.lt_iff_toNat_lt.mp hsteps
    omega

theorem taper_le {c : Command} (h : c.targetWattage * 100 = 0 ∨ StepsDown (c.targetRAMP_RATE * 100))
    (watts : UInt32) (call : Call) (hcall : call.AboveEnd c) :
    (taper watts call).toNat ≤ watts.toNat - 1 := by
  obtain ⟨hmax, _, hrate⟩ := refresh_kept call.found
  have hend : (refresh call.found).OUTPUT_VOLTS_END = c.targetVolts := by
    rw [refresh_frame]
    exact hcall.OUTPUT_VOLTS_END
  have habove := hcall.volts
  rw [← hend] at habove
  rw [← hcall.MAX_STATION_WATTS, ← hcall.RAMP_RATE, ← hmax, ← hrate] at h
  rw [taper_eq]
  exact @chooseWatts_lowers call.platform { refresh call.found with watts := watts } habove h

theorem tapers_of_stepsDown {c : Command}
    (h : c.targetWattage * 100 = 0 ∨ StepsDown (c.targetRAMP_RATE * 100)) : Tapers c where
  lowers watts call hcall hpos := by
    have hstep := taper_le h watts call hcall
    rw [UInt32.lt_iff_toNat_lt] at hpos ⊢
    rw [UInt32.toNat_zero] at hpos
    omega
  ends watts := by
    refine ⟨watts.toNat, ?_⟩
    intro calls hcalls hlen
    have hrun := run_descends (fun watts call => taper_le h watts call) hcalls watts
    rw [← UInt32.toNat_inj, UInt32.toNat_zero]
    omega

/-! ## A ramp that does not step down -/

/-- A battery at 90.0 V and 40 degrees that the bike bus says nothing about. -/
structure State.Warm (s : State) : Prop where
  volts : s.volts = 900
  monolithVolts : s.monolithVolts = 0
  powerTankVolts : s.powerTankVolts = 0
  monolithAH : s.monolithAH = 0
  powerTankAH : s.powerTankAH = 0
  monolithMinTemp : s.monolithMinTemp = 40
  monolithMaxTemp : s.monolithMaxTemp = 40

theorem refresh_of_warm {s : State} (h : s.Warm) : refresh s = s := by
  have hlow : ¬ (0 : Int32) / 100 > (900 : Int16).toInt32 := by decide
  have hnone : ¬ ((0 : Int32) > 0 ∨ (0 : Int32) > 0) := by decide
  have hvolts : refreshVolts s = s := by
    unfold refreshVolts
    simp only [h.volts, h.monolithVolts, h.powerTankVolts, hlow, if_false]
  unfold refresh refreshC_RATE
  rw [hvolts, h.monolithAH, h.powerTankAH, if_neg hnone]

/-- No row of the three tables applies to it. -/
theorem loops_of_warm {s : State} (h : s.Warm) :
    overTempCutback zeroPlatform (tempCutback zeroPlatform (voltageCutback table zeroPlatform s)) =
      s := by
  have hnone : ¬ s.powerTankAH > 0 := by
    rw [h.powerTankAH]
    decide
  have hvolts : ∀ i < table.CUTBACK_COUNT, voltsApply table zeroPlatform s i = false := by
    unfold voltsApply
    rw [h.volts]
    decide
  have hcold : ∀ i < TEMP_CUTBACK_COUNT, coldApplies zeroPlatform s i = false := by
    unfold coldApplies
    simp only [hnone, false_and, or_false, h.monolithMinTemp]
    decide
  have hhot : ∀ i < OVER_TEMP_CUTBACK_COUNT, hotApplies zeroPlatform s i = false := by
    unfold hotApplies
    simp only [hnone, false_and, or_false, h.monolithMaxTemp]
    decide
  have hv : voltageCutback table zeroPlatform s = s := by
    unfold voltageCutback
    simp only [cutbackLoop_of_none hvolts]
  have hc : tempCutback zeroPlatform s = s := by
    unfold tempCutback
    simp only [cutbackLoop_of_none hcold]
  have ho : overTempCutback zeroPlatform s = s := by
    unfold overTempCutback
    simp only [cutbackLoop_of_none hhot]
  rw [hv, hc, ho]

/-- Below the station limit such a battery gets one ramp more and three less. -/
theorem chooseWatts_of_warm {s : State} (h : s.Warm) (hend : s.OUTPUT_VOLTS_END < 900)
    (hlimit : s.watts < s.MAX_STATION_WATTS) :
    (chooseWatts zeroPlatform s).watts.toNat =
      min ((s.watts + s.RAMP_RATE).toNat - (s.RAMP_RATE * 3).toNat) s.MAX_STATION_WATTS.toNat := by
  have hramp : rampUp s = { s with watts := s.watts + s.RAMP_RATE } := if_pos hlimit
  have hwarm : State.Warm { s with watts := s.watts + s.RAMP_RATE } := { h with }
  have habove : s.volts.toInt32.toUInt32 > s.OUTPUT_VOLTS_END := by
    rw [h.volts]
    exact hend
  have htaken : s.taken = (s.RAMP_RATE * 3).toNat := if_pos (Or.inl habove)
  have hloops : afterLoops zeroPlatform s = s.watts + s.RAMP_RATE := by
    have hwalk := loops_eq zeroPlatform s
    rw [hramp, loops_of_warm hwarm] at hwalk
    exact (congrArg State.watts hwalk).symm
  have hmin : ¬ s.volts.toInt32 ≤ OUTPUT_VOLTS_MIN := by
    rw [h.volts]
    decide
  rw [chooseWatts_toNat, hloops, htaken, if_neg hmin, Nat.min_comm]

/-- In 32 bits the multiples of 100 are multiples of 4. -/
theorem four_dvd_hundreds (x : UInt32) : 4 ∣ (x * 100).toNat := by
  have hhundred : (100 : UInt32).toNat = 100 := rfl
  rw [UInt32.toNat_mul, hhundred]
  omega

/-- The last unit of power is not taken when the ramp does not step down. -/
theorem chooseWatts_keeps_one {s : State} (h : s.Warm) (hend : s.OUTPUT_VOLTS_END < 900)
    (hone : s.watts = 1) (hmax : s.MAX_STATION_WATTS ≠ 0) (h4max : 4 ∣ s.MAX_STATION_WATTS.toNat)
    (h4ramp : 4 ∣ s.RAMP_RATE.toNat) (hramp : ¬ StepsDown s.RAMP_RATE) :
    1 ≤ (chooseWatts zeroPlatform s).watts.toNat := by
  have hlt := s.RAMP_RATE.toNat_lt
  have hunit : s.watts.toNat = 1 := by
    rw [hone]
    rfl
  have hpos : s.MAX_STATION_WATTS.toNat ≠ 0 := fun hzero => hmax (UInt32.toNat_inj.mp hzero)
  have hbelow : s.watts < s.MAX_STATION_WATTS := by
    rw [UInt32.lt_iff_toNat_lt]
    omega
  have hsum : (s.watts + s.RAMP_RATE).toNat = 1 + s.RAMP_RATE.toNat := by
    rw [UInt32.toNat_add, hunit, Nat.mod_eq_of_lt (by omega)]
  have hle := UInt32.le_iff_toNat_le.mp (UInt32.not_lt.mp hramp)
  rw [chooseWatts_of_warm h hend hbelow, hsum]
  omega

/-! ## The commands that taper -/

/-- A command with this limit and this ramp, whose end voltage is 80.0 V. -/
def commandOf (targetWattage targetRAMP_RATE : UInt32) : Command where
  targetVolts := 800
  targetMAX_AMPS := 96
  targetChargers := 1
  targetWattage := targetWattage
  target1CPlus := 0
  targetRAMP_RATE := targetRAMP_RATE

/-- A call under its settings, for the battery at 90.0 V. -/
def warmCall (c : Command) : Call where
  found := { setup usualSettings with
    OUTPUT_VOLTS_END := c.targetVolts
    MAX_STATION_WATTS := c.targetWattage * 100
    CPlus := c.target1CPlus
    RAMP_RATE := c.targetRAMP_RATE * 100
    volts := 900
    monolithMinTemp := 40
    monolithMaxTemp := 40 }
  platform := zeroPlatform

theorem warmCall_warm (c : Command) (watts : UInt32) : ((warmCall c).start watts).Warm :=
  ⟨rfl, rfl, rfl, rfl, rfl, rfl, rfl⟩

theorem warmCall_aboveEnd {c : Command} (h : c.targetVolts < 900) : (warmCall c).AboveEnd c := by
  refine ⟨rfl, rfl, rfl, rfl, ?_⟩
  have hwarm : (warmCall c).found.Warm := warmCall_warm c (warmCall c).found.watts
  rw [refresh_of_warm hwarm, hwarm.volts]
  exact h

theorem warmCall_keeps_one {c : Command} (h : c.targetVolts < 900)
    (hlimit : c.targetWattage * 100 ≠ 0) (hramp : ¬ StepsDown (c.targetRAMP_RATE * 100)) :
    ¬ taper 1 (warmCall c) < 1 := by
  have hwarm := warmCall_warm c 1
  have hplatform : (warmCall c).platform = zeroPlatform := rfl
  have hwatts : ((warmCall c).start 1).watts = 1 := rfl
  have hkeeps := chooseWatts_keeps_one hwarm h hwatts hlimit (four_dvd_hundreds c.targetWattage)
    (four_dvd_hundreds c.targetRAMP_RATE) hramp
  have hone : (1 : UInt32).toNat = 1 := rfl
  unfold taper
  rw [setChargingAmps_eq, UInt32.not_lt, UInt32.le_iff_toNat_le, hone]
  simp only
  rw [refresh_of_warm hwarm, hplatform]
  exact hkeeps

/-- For every station limit and every ramp that a command can set: whatever its other settings
are, the power tapers to 0 above the end voltage exactly when the limit is 0, or the ramp is not 0
and its triple wraps not at all, or it is above half the range and its triple wraps once. -/
theorem the_power_tapers_iff_three_ramps_are_more_than_one (targetWattage targetRAMP_RATE : UInt32) :
    (∀ c : Command, c.targetWattage = targetWattage → c.targetRAMP_RATE = targetRAMP_RATE →
      Tapers c) ↔
      targetWattage * 100 = 0 ∨
        0 < (targetRAMP_RATE * 100).toNat ∧ 3 * (targetRAMP_RATE * 100).toNat < 2 ^ 32 ∨
        2 ^ 31 < (targetRAMP_RATE * 100).toNat ∧ 3 * (targetRAMP_RATE * 100).toNat < 2 ^ 33 := by
  rw [← stepsDown_iff]
  constructor
  · intro h
    by_contra hno
    obtain ⟨hlimit, hramp⟩ := not_or.mp hno
    have htapers := h (commandOf targetWattage targetRAMP_RATE) rfl rfl
    have hvolts : (commandOf targetWattage targetRAMP_RATE).targetVolts < 900 :=
      (by decide : (800 : UInt32) < 900)
    exact warmCall_keeps_one hvolts hlimit hramp
      (htapers.lowers 1 _ (warmCall_aboveEnd hvolts) (by decide))
  · rintro h c rfl rfl
    exact tapers_of_stepsDown h

/-- A line for 110.0 V, 96 A, one charger and 6.6 kW with a ramp of 0. -/
def zeroRamp : List Char := "1100,96,1,6600,0,0\n".toList

/-- A call after it, with the battery at 112.0 V and 25 degrees. -/
def fullCall : Call where
  found := { readCommands (setup usualSettings) zeroRamp with
    volts := 1120
    monolithMinTemp := 25
    monolithMaxTemp := 25 }
  platform := zeroPlatform

theorem taper_fullCall : taper 660000 fullCall = 660000 := by decide +kernel

/-- With a ramp of 0 the chargers stay at full power, for any number of calls. -/
theorem a_ramp_of_zero_does_not_taper :
    ∃ c, commandsIn zeroRamp.length zeroRamp = [c] ∧ fullCall.AboveEnd c ∧ ¬ Tapers c ∧
      ∀ n, run taper 660000 (List.replicate n fullCall) = 660000 := by
  have habove : fullCall.AboveEnd
      { targetVolts := 1100, targetMAX_AMPS := 96, targetChargers := 1, targetWattage := 6600,
        target1CPlus := 0, targetRAMP_RATE := 0 } :=
    ⟨by decide +kernel, by decide +kernel, by decide +kernel, by decide +kernel,
      by decide +kernel⟩
  refine ⟨_, by decide +kernel, habove, ?_, ?_⟩
  · intro h
    have hlower := h.lowers 660000 fullCall habove (by decide)
    rw [taper_fullCall] at hlower
    exact absurd hlower (UInt32.lt_irrefl _)
  · intro n
    have hstep : ∀ watts call, call = fullCall → watts = 660000 → taper watts call = 660000 := by
      rintro watts call rfl rfl
      exact taper_fullCall
    exact run_invariant_of_forall hstep rfl (fun call hcall => List.eq_of_mem_replicate hcall)

end super_charger.v26
