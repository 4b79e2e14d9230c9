-- The law of `SC.h`: what its parts leave alone, the caps on the power, and
-- the current that the chargers get together.
import SuperCharger.SC
import Mathlib.Data.List.Induction

namespace super_charger.sc

open machine_int charger_message derating

variable {t : VoltageTable} {p : Platform}

/-! ## What each part leaves alone -/

/-- The second state differs in the power at most, and the power is not higher. -/
def Lowers (s u : State) : Prop := ∃ watts, watts ≤ s.watts ∧ u = { s with watts := watts }

theorem Lowers.trans {s u v : State} (h1 : Lowers s u) (h2 : Lowers u v) : Lowers s v := by
  obtain ⟨w1, hw1, rfl⟩ := h1
  obtain ⟨w2, hw2, rfl⟩ := h2
  exact ⟨w2, UInt32.le_trans hw2 hw1, rfl⟩

theorem Lowers.le {s u : State} (h : Lowers s u) : u.watts ≤ s.watts := by
  obtain ⟨_, hw, rfl⟩ := h
  exact hw

theorem voltageCutback_eq (t : VoltageTable) (p : Platform) (s : State) :
    let cap := fun i => s.cap (derating.read t.OUTPUT_C_RATE_CUTBACK p.pastVoltsRate i)
    voltageCutback t p s =
      { s with watts := cutbackLoop t.CUTBACK_COUNT (fun _ => true) cap s.watts } := by
  unfold voltageCutback cutbackLoop
  simp only [lower_lower]

theorem tempCutback_lowers (p : Platform) (s : State) : Lowers s (tempCutback p s) :=
  ⟨_, cutbackLoop_le _ _ _ _, rfl⟩

theorem overTempCutback_lowers (p : Platform) (s : State) : Lowers s (overTempCutback p s) :=
  ⟨_, cutbackLoop_le _ _ _ _, rfl⟩

theorem endStep_lowers (s : State) : Lowers s (endStep s) := by
  unfold endStep
  split
  · split
    · rename_i h
      have hle : s.RAMP_RATE * 3 ≤ s.watts := UInt32.le_of_lt h
      refine ⟨_, ?_, rfl⟩
      rw [UInt32.le_iff_toNat_le, UInt32.toNat_sub_of_le _ _ hle]
      omega
    · exact ⟨0, UInt32.zero_le, rfl⟩
  · exact ⟨s.watts, UInt32.le_refl _, rfl⟩

theorem rangeStop_lowers (t : VoltageTable) (s : State) : Lowers s (rangeStop t s) := by
  unfold rangeStop
  split
  · exact ⟨0, UInt32.zero_le, rfl⟩
  · exact ⟨s.watts, UInt32.le_refl _, rfl⟩

theorem rampUp_eq (s : State) :
    rampUp s = { s with
      watts := if s.watts < s.MAX_STATION_WATTS then s.watts + s.RAMP_RATE else s.watts } := by
  unfold rampUp
  split <;> rfl

theorem stationClamp_eq (s : State) :
    stationClamp s = { s with
      watts := if s.watts > s.MAX_STATION_WATTS then
          s.MAX_STATION_WATTS - (MAX_12V_WATTS * s.chargerCount).toUInt32
        else s.watts } := by
  unfold stationClamp
  split <;> rfl

/-- After the voltage loop the parts only lower the power, until the station clamp. -/
theorem afterVoltage_lowers (t : VoltageTable) (p : Platform) (s : State) :
    Lowers (voltageCutback t p s) (rangeStop t (endStep (overTempCutback p (tempCutback p
      (voltageCutback t p s))))) := by
  apply Lowers.trans _ (rangeStop_lowers t _)
  apply Lowers.trans _ (endStep_lowers _)
  exact Lowers.trans (tempCutback_lowers p _) (overTempCutback_lowers p _)

/-! ## The power -/

theorem stationClamp_of_le {s : State} (h : s.watts ≤ s.MAX_STATION_WATTS) :
    stationClamp s = s := if_neg (UInt32.not_lt.mpr h)

/-- The parts before the station clamp. -/
theorem beforeClamp_frame (t : VoltageTable) (p : Platform) (s : State) :
    ∃ watts, rangeStop t (endStep (overTempCutback p (tempCutback p
      (voltageCutback t p (rampUp s))))) = { s with watts := watts } := by
  obtain ⟨w, _, hw⟩ := afterVoltage_lowers t p (rampUp s)
  refine ⟨w, ?_⟩
  rw [hw, voltageCutback_eq, rampUp_eq]

/-- The power changes, and nothing else. -/
theorem chooseWatts_frame (t : VoltageTable) (p : Platform) (s : State) :
    ∃ watts, chooseWatts t p s = { s with watts := watts } := by
  obtain ⟨w, hw⟩ := beforeClamp_frame t p s
  unfold chooseWatts
  rw [hw, stationClamp_eq]
  exact ⟨_, rfl⟩

/-- The voltage loop caps the power at every row, whatever the voltage is. -/
theorem voltageCutback_le_cap {i : Nat} (hi : i < t.CUTBACK_COUNT) (s : State) :
    (voltageCutback t p s).watts ≤
      (s.cap (derating.read t.OUTPUT_C_RATE_CUTBACK p.pastVoltsRate i)).toUInt32 := by
  rw [voltageCutback_eq]
  exact cutbackLoop_le_cap hi rfl _

theorem beforeClamp_le_cap {i : Nat} (hi : i < t.CUTBACK_COUNT) (s : State) :
    (rangeStop t (endStep (overTempCutback p (tempCutback p (voltageCutback t p (rampUp s)))))).watts ≤
      (s.cap (derating.read t.OUTPUT_C_RATE_CUTBACK p.pastVoltsRate i)).toUInt32 := by
  have hrow := voltageCutback_le_cap (p := p) hi (rampUp s)
  have hafter := (afterVoltage_lowers t p (rampUp s)).le
  have hcap : (rampUp s).cap = s.cap := by
    rw [rampUp_eq]
    rfl
  rw [hcap] at hrow
  exact UInt32.le_trans hafter hrow

/-- No cap is above the station limit, so on a table with a row the clamp with the supplies is
never taken. -/
theorem chooseWatts_eq_beforeClamp (ht : 0 < t.CUTBACK_COUNT) (s : State) :
    chooseWatts t p s = rangeStop t (endStep (overTempCutback p (tempCutback p
      (voltageCutback t p (rampUp s))))) := by
  have hcap := UInt32.le_trans (beforeClamp_le_cap (p := p) ht s) (maxWatts_le_station _ _ _ _ _)
  obtain ⟨w, hw⟩ := beforeClamp_frame t p s
  unfold chooseWatts
  rw [hw] at hcap ⊢
  exact stationClamp_of_le hcap

/-- Every row caps the power of a call. -/
theorem chooseWatts_le_cap {i : Nat} (hi : i < t.CUTBACK_COUNT) (s : State) :
    (chooseWatts t p s).watts ≤
      (s.cap (derating.read t.OUTPUT_C_RATE_CUTBACK p.pastVoltsRate i)).toUInt32 := by
  rw [chooseWatts_eq_beforeClamp (Nat.zero_lt_of_lt hi)]
  exact beforeClamp_le_cap hi s

theorem chooseWatts_le_station (ht : 0 < t.CUTBACK_COUNT) (s : State) :
    (chooseWatts t p s).watts ≤ s.MAX_STATION_WATTS :=
  UInt32.le_trans (chooseWatts_le_cap ht s) (maxWatts_le_station _ _ _ _ _)

/-- The clamps to the C-rate only lower what they clamp. A negative C-rate is below everything,
and comes back as a large unsigned number. -/
def State.ClampLowers (s : State) : Prop := 1 ≤ s.CPlus ∨ 0 ≤ s.C_RATE.toInt

instance (s : State) : Decidable s.ClampLowers := inferInstanceAs (Decidable (_ ∨ _))

/-- A row with a rate of 0 has a cap of 0. -/
theorem cap_zero {s : State} (h : s.ClampLowers) : s.cap 0 = 0 := by
  unfold State.cap maxWatts
  simp only
  rw [maxAmps_zero h, Int32.zero_mul]
  exact if_neg (UInt32.not_lt.mpr UInt32.zero_le)

/-- The hot loop caps the power at every row that is reached. -/
theorem overTempCutback_le_cap {s : State} {i : Nat} (hi : i < OVER_TEMP_CUTBACK_COUNT)
    (h : hotApplies p s i = true) :
    (overTempCutback p s).watts ≤
      (s.cap (derating.read OUTPUT_OVER_TEMP_C_RATE_CUTBACK p.pastOverTempRate i)).toUInt32 := by
  unfold overTempCutback
  simp only
  exact @cutbackLoop_le_cap _ _ _
    (fun i => s.cap (derating.read OUTPUT_OVER_TEMP_C_RATE_CUTBACK p.pastOverTempRate i))
    hi h s.watts

/-- At 75 degrees the last row stops the charge. -/
theorem chooseWatts_hot {s : State} (hhot : 75 ≤ s.highTemp.toInt) (h : s.ClampLowers) :
    (chooseWatts t p s).watts = 0 := by
  have hframe : ∃ watts, tempCutback p (voltageCutback t p (rampUp s)) = { s with watts := watts } := by
    unfold tempCutback
    rw [voltageCutback_eq, rampUp_eq]
    exact ⟨_, rfl⟩
  obtain ⟨w, hframe⟩ := hframe
  have happlies : hotApplies p { s with watts := w } 3 = true :=
    decide_eq_true (Int16.le_iff_toInt_le.mpr hhot)
  have hrow := overTempCutback_le_cap (by decide) happlies
  have hrate : derating.read OUTPUT_OVER_TEMP_C_RATE_CUTBACK p.pastOverTempRate 3 = 0 := rfl
  have hcap : State.cap { s with watts := w } 0 = 0 := cap_zero h
  rw [hrate, hcap] at hrow
  have hstop := ((endStep_lowers (overTempCutback p { s with watts := w })).trans
    (rangeStop_lowers t _)).le
  have hzero := UInt32.le_zero_iff.mp (UInt32.le_trans hstop hrow)
  unfold chooseWatts
  rw [hframe, stationClamp_of_le (by rw [hzero]; exact UInt32.zero_le)]
  exact hzero

/-- Outside the voltage range there is no power. -/
theorem chooseWatts_outside {s : State}
    (h : s.volts.toInt32 > t.OUTPUT_VOLTS_MAX ∨ s.volts.toInt32 < OUTPUT_VOLTS_MIN) :
    (chooseWatts t p s).watts = 0 := by
  obtain ⟨w, _, hw⟩ := (endStep_lowers (overTempCutback p (tempCutback p
    (voltageCutback t p (rampUp s)))))
  have hvolts : (endStep (overTempCutback p (tempCutback p
      (voltageCutback t p (rampUp s))))).volts = s.volts := by
    rw [hw]
    unfold overTempCutback tempCutback
    rw [voltageCutback_eq, rampUp_eq]
  unfold chooseWatts rangeStop
  rw [hvolts, if_pos h, stationClamp_of_le UInt32.zero_le]

/-! ## The current -/

theorem clampToC_RATE_eq (s : State) :
    clampToC_RATE s = { s with
      chargingAmps := if s.CPlus < 1 ∧ promote s.chargingAmps > s.C_RATE then truncate s.C_RATE
        else s.chargingAmps } := by
  unfold clampToC_RATE
  by_cases hC : s.CPlus < 1
  · by_cases habove : promote s.chargingAmps > s.C_RATE
    · simp [hC, habove]
    · simp [hC, habove]
  · simp [hC]

/-- `chargingAmps` before it is shared among the chargers. -/
def totalAmps (t : VoltageTable) (p : Platform) (s : State) : UInt16 :=
  (clampToC_RATE (wattsToAmps p (chooseWatts t p s))).chargingAmps

/-- What a call leaves, field by field. -/
theorem setChargingAmps_eq (t : VoltageTable) (p : Platform) (s : State) :
    setChargingAmps t p s =
      { s with
        watts := (chooseWatts t p s).watts
        chargingAmps := truncate (quotientInt p (promote (totalAmps t p s)) s.chargerCount) } := by
  obtain ⟨w, hw⟩ := chooseWatts_frame t p s
  unfold setChargingAmps totalAmps shareAmps
  rw [clampToC_RATE_eq]
  unfold wattsToAmps
  rw [hw]

/-- The current of all the chargers together. -/
def State.commanded (s : State) : Int := s.chargingAmps.toNat * s.chargerCount.toInt

/-- The heartbeat leaves the current as it is. -/
theorem superCharge_commanded (s : State) : (superCharge s).commanded = s.commanded := rfl

theorem setChargingAmps_commanded (t : VoltageTable) (p : Platform) (s : State)
    (hn : 1 ≤ s.chargerCount.toInt) :
    (setChargingAmps t p s).commanded = roundDown s.chargerCount.toInt (totalAmps t p s).toNat := by
  unfold State.commanded
  rw [setChargingAmps_eq]
  exact shares_eq_roundDown p _ hn

/-- The clamp lowers the current unless the C-rate is negative. -/
theorem totalAmps_le_quotient {s : State} (hclamp : s.ClampLowers) :
    (totalAmps t p s).toNat ≤
      (quotient p (chooseWatts t p s).watts s.volts.toInt32.toUInt32).toUInt16.toNat := by
  obtain ⟨w, hw⟩ := chooseWatts_frame t p s
  unfold totalAmps wattsToAmps
  rw [hw, clampToC_RATE_eq]
  simp only
  split
  · rename_i h
    have h0 : 0 ≤ s.C_RATE.toInt := hclamp.resolve_left (fun hC => UInt32.not_lt.mpr hC h.1)
    have habove := Int32.lt_iff_toInt_lt.mp h.2
    rw [toInt_promote] at habove
    have hlt := (quotient p w s.volts.toInt32.toUInt32).toUInt16.toNat_lt
    have hC := toNat_truncate_of_lt h0 (by omega)
    omega
  · exact Nat.le_refl _

/-- As unsigned, a voltage that is not 0 is positive. -/
theorem volts_pos {s : State} (hv : s.volts.toInt ≠ 0) : 0 < s.volts.toInt32.toUInt32.toNat := by
  have hnat := toNat_toUInt32 s.volts.toInt32
  have hlow := s.volts.le_toInt
  have hhigh := s.volts.toInt_lt
  rw [Int16.toInt_toInt32] at hnat
  omega

/-- The chargers together stay within the station limit at the voltage of the call. -/
theorem setChargingAmps_within_station {s : State} (ht : 0 < t.CUTBACK_COUNT)
    (hclamp : s.ClampLowers) (hn : 1 ≤ s.chargerCount.toInt) (hv : 0 < s.volts.toInt) :
    (setChargingAmps t p s).commanded * s.volts.toInt ≤ s.MAX_STATION_WATTS.toNat := by
  have hquot := totalAmps_le_quotient (t := t) (p := p) hclamp
  have hnat := toNat_toUInt32 s.volts.toInt32
  rw [Int16.toInt_toInt32] at hnat
  have hhigh := s.volts.toInt_lt
  have hvolts : (s.volts.toInt32.toUInt32.toNat : Int) = s.volts.toInt := by omega
  have hdiv : (quotient p (chooseWatts t p s).watts s.volts.toInt32.toUInt32).toUInt16.toNat ≤
      (chooseWatts t p s).watts.toNat / s.volts.toInt32.toUInt32.toNat :=
    quotient_toUInt16_le p (by omega)
  have hamps : (totalAmps t p s).toNat * s.volts.toInt32.toUInt32.toNat ≤
      (chooseWatts t p s).watts.toNat :=
    (Nat.le_div_iff_mul_le (by omega)).mp (le_trans hquot hdiv)
  have hstation := UInt32.le_iff_toNat_le.mp (chooseWatts_le_station (p := p) ht s)
  have hround := roundDown_le (a := (totalAmps t p s).toNat) hn
  rw [setChargingAmps_commanded _ _ _ hn]
  calc roundDown s.chargerCount.toInt (totalAmps t p s).toNat * s.volts.toInt
      ≤ (totalAmps t p s).toNat * s.volts.toInt := Int.mul_le_mul_of_nonneg_right hround (by omega)
    _ = ((totalAmps t p s).toNat * s.volts.toInt32.toUInt32.toNat : Nat) := by
        rw [Int.natCast_mul, hvolts]
    _ ≤ s.MAX_STATION_WATTS.toNat := by exact_mod_cast le_trans hamps hstation

/-- A charger gets no current exactly when there is less than one unit for each. -/
theorem setChargingAmps_zero_iff {s : State} (hn : 1 ≤ s.chargerCount.toInt) :
    (setChargingAmps t p s).chargingAmps = 0 ↔
      ((totalAmps t p s).toNat : Int) < s.chargerCount.toInt := by
  have hcommanded := setChargingAmps_commanded t p s hn
  have hcount : (setChargingAmps t p s).chargerCount = s.chargerCount := by
    rw [setChargingAmps_eq]
  unfold State.commanded at hcommanded
  rw [hcount] at hcommanded
  rw [← roundDown_le_zero_iff hn (by omega), ← hcommanded, ← UInt16.toNat_inj]
  constructor
  · intro hzero
    rw [hzero]
    simp
  · intro hle
    by_contra hpos
    have hpos : 0 < (setChargingAmps t p s).chargingAmps.toNat := Nat.pos_of_ne_zero hpos
    have := Int.mul_pos (Int.natCast_pos.mpr hpos) (by omega : 0 < s.chargerCount.toInt)
    omega

/-- A negative C-rate that is clamped to is commanded in 16 bits. -/
theorem totalAmps_negative {s : State} (h : ¬ s.ClampLowers) :
    totalAmps t p s = truncate s.C_RATE := by
  obtain ⟨hC, hnegative⟩ := not_or.mp h
  obtain ⟨w, hw⟩ := chooseWatts_frame t p s
  unfold totalAmps wattsToAmps
  rw [hw, clampToC_RATE_eq]
  refine if_pos ⟨UInt32.not_le.mp hC, ?_⟩
  rw [gt_iff_lt, Int32.lt_iff_toInt_lt, toInt_promote]
  simp only
  omega

/-- Without power no charger gets any current. -/
theorem setChargingAmps_of_no_watts {s : State} (hwatts : (chooseWatts t p s).watts = 0)
    (h : s.ClampLowers) (hv : s.volts.toInt ≠ 0) (hn : 1 ≤ s.chargerCount.toInt) :
    (setChargingAmps t p s).chargingAmps = 0 := by
  have hquot := totalAmps_le_quotient (t := t) (p := p) h
  have hdiv : (quotient p (chooseWatts t p s).watts s.volts.toInt32.toUInt32).toUInt16.toNat ≤
      (chooseWatts t p s).watts.toNat / s.volts.toInt32.toUInt32.toNat :=
    quotient_toUInt16_le p (volts_pos hv)
  rw [hwatts, UInt32.toNat_zero, Nat.zero_div] at hdiv
  rw [hwatts] at hquot
  exact (setChargingAmps_zero_iff hn).mpr (by omega)

/-- At 75 degrees no charger gets any current. -/
theorem setChargingAmps_hot {s : State} (hhot : 75 ≤ s.highTemp.toInt) (h : s.ClampLowers)
    (hv : s.volts.toInt ≠ 0) (hn : 1 ≤ s.chargerCount.toInt) :
    (setChargingAmps t p s).watts = 0 ∧ (setChargingAmps t p s).chargingAmps = 0 := by
  have hwatts := chooseWatts_hot (t := t) (p := p) hhot h
  refine ⟨?_, setChargingAmps_of_no_watts hwatts h hv hn⟩
  rw [setChargingAmps_eq]
  exact hwatts

/-- The current before the share is at most that of any row of the table. -/
theorem totalAmps_le_row {s : State} {i : Nat} {rate : UInt32} (hi : i < t.CUTBACK_COUNT)
    (hrate : derating.read t.OUTPUT_C_RATE_CUTBACK p.pastVoltsRate i = rate)
    (h0 : 0 ≤ s.C_RATE.toInt) (h : rate.toNat * s.C_RATE.toInt < 2 ^ 31)
    (hv : s.volts.toInt ≠ 0)
    (hw : s.volts.toInt ≤ t.OUTPUT_VOLTS_MAX.toInt →
      rate.toNat * s.C_RATE.toInt / 10 * s.volts.toInt < 2 ^ 31) :
    ((totalAmps t p s).toNat : Int) ≤ rate.toNat * s.C_RATE.toInt / 10 := by
  have hquot := totalAmps_le_quotient (t := t) (p := p) (Or.inr h0)
  have hnat := toNat_toUInt32 s.volts.toInt32
  rw [Int16.toInt_toInt32] at hnat
  have hlow := s.volts.le_toInt
  have hhigh := s.volts.toInt_lt
  have hdiv : (quotient p (chooseWatts t p s).watts s.volts.toInt32.toUInt32).toUInt16.toNat ≤
      (chooseWatts t p s).watts.toNat / s.volts.toInt32.toUInt32.toNat :=
    quotient_toUInt16_le p (volts_pos hv)
  have hge : 0 ≤ rate.toNat * s.C_RATE.toInt / 10 :=
    Int.ediv_nonneg (Int.mul_nonneg (by omega) h0) (by omega)
  by_cases hout : s.volts.toInt32 > t.OUTPUT_VOLTS_MAX ∨ s.volts.toInt32 < OUTPUT_VOLTS_MIN
  · rw [chooseWatts_outside hout] at hquot hdiv
    rw [UInt32.toNat_zero, Nat.zero_div] at hdiv
    omega
  · rw [not_or, gt_iff_lt, Int32.lt_iff_toInt_lt, Int32.lt_iff_toInt_lt,
      Int16.toInt_toInt32] at hout
    have hmin : OUTPUT_VOLTS_MIN.toInt = 500 := by decide
    have hcap := chooseWatts_le_cap (t := t) (p := p) hi s
    rw [hrate, UInt32.le_iff_toNat_le] at hcap
    have hnonneg : 0 ≤ s.volts.toInt := by omega
    have hrow := maxWatts_toNat_le s.CPlus s.MAX_STATION_WATTS h0 h hnonneg
      (hw (by omega))
    have hwatts : ((chooseWatts t p s).watts.toNat : Int) ≤
        rate.toNat * s.C_RATE.toInt / 10 * s.volts.toInt := by
      unfold State.cap at hcap
      omega
    have hvolts : (s.volts.toInt32.toUInt32.toNat : Int) = s.volts.toInt := by omega
    have hshare : ((chooseWatts t p s).watts.toNat : Int) / s.volts.toInt ≤
        rate.toNat * s.C_RATE.toInt / 10 := Int.ediv_le_of_le_mul (by omega) hwatts
    rw [← hvolts] at hshare
    omega

/-! ## The charger bus -/

/-- The last message of a batch gives the voltage. -/
theorem drain_eq (s : State) (messages : List Message) :
    drain s messages = { s with
      volts := (messages.getLast?.map fun m => (voltageOf m).toInt16).getD s.volts } := by
  unfold drain
  induction messages using List.reverseRecOn with
  | nil => rfl
  | append_singleton messages m ih =>
    rw [List.foldl_append, ih, List.getLast?_concat]
    rfl

end super_charger.sc
