-- The 1C ceiling of `v2.6.ino`: for which capacities and chargers a call of
-- `setChargingAmps` keeps the current of all the chargers below it.
import SuperCharger.V26Current

namespace super_charger.v26

open machine_int derating zero runs

/-! ## The ceiling -/

/-- The current of all the chargers is within the C-rate, and within the ceiling of each pack
that takes more than its capacity. -/
structure State.WithinCeiling (s : State) : Prop where
  c_rate : s.commanded ≤ max s.C_RATE.toInt 0
  monolith : s.monolithOver = true → s.commanded ≤ max 0 ((s.monolithAH.toInt - 2) * 10)
  powerTank : s.powerTankOver = true → s.commanded ≤ max 0 ((s.powerTankAH.toInt - 2) * 10)

instance (s : State) : Decidable s.WithinCeiling :=
  decidable_of_iff
    (s.commanded ≤ max s.C_RATE.toInt 0 ∧
      (s.monolithOver = true → s.commanded ≤ max 0 ((s.monolithAH.toInt - 2) * 10)) ∧
      (s.powerTankOver = true → s.commanded ≤ max 0 ((s.powerTankAH.toInt - 2) * 10)))
    ⟨fun h => ⟨h.1, h.2.1, h.2.2⟩, fun h => ⟨h.1, h.2, h.3⟩⟩

/-- The branch of a pack respects the ceiling of that pack: 2 Ah or more, or so many chargers
that a current of -10, which 16 bits read as 65526, is rounded down to none. -/
def OwnCeilingHolds (n ah : Int) : Prop := 2 ≤ ah ∨ 65526 < n

/-- The branch of a pack, cut to 16 bits and shared, also respects another ceiling. -/
def OtherCeilingHolds (n ah other : Int) : Prop :=
  roundDown n ((ah - 2) * 10 % 2 ^ 16) ≤ max 0 other

/-- When the last branch that is taken respects every ceiling, in the refreshed state. -/
def State.CeilingHolds (s : State) : Prop :=
  let n := s.chargerCount.toInt
  let m := s.monolithAH.toInt
  let q := s.powerTankAH.toInt
  match s.monolithOver, s.powerTankOver with
  | false, false => 0 ≤ s.C_RATE.toInt ∨ s.C_RATE.toInt % 2 ^ 16 < n
  | true, false => OwnCeilingHolds n m ∧ OtherCeilingHolds n m ((m + q) * 10)
  | false, true => OwnCeilingHolds n q ∧ OtherCeilingHolds n q ((m + q) * 10)
  | true, true => OwnCeilingHolds n q ∧ OtherCeilingHolds n q ((m - 2) * 10)

/-! ## The arithmetic of one branch -/

theorem ceiling_toInt {ah : Int32} (h0 : -2 ^ 15 ≤ ah.toInt) (h : ah.toInt < 2 ^ 15) :
    ((ah - 2) * 10).toInt = (ah.toInt - 2) * 10 := by
  rw [Int32.toInt_mul, Int32.toInt_sub]
  simp only [Int32.reduceToInt]
  rw [Int.bmod_def, Int.bmod_def]
  split <;> split <;> omega

/-- A capacity of 1 Ah gives a ceiling below 0, which comes out close to the top of 16 bits. -/
theorem own_ceiling_iff {n ah : Int} (hn : 1 ≤ n) (h1 : 1 ≤ ah) :
    roundDown n ((ah - 2) * 10 % 2 ^ 16) ≤ max 0 ((ah - 2) * 10) ↔ OwnCeilingHolds n ah := by
  have hzero := roundDown_le_zero_iff (a := (ah - 2) * 10 % 2 ^ 16) hn (by omega)
  have hle := roundDown_le (a := (ah - 2) * 10 % 2 ^ 16) hn
  unfold OwnCeilingHolds
  by_cases h2 : 2 ≤ ah
  · omega
  · have hone : ah = 1 := by omega
    subst hone
    omega

/-! ## The branches -/

/-- The result of a call, seen from the refreshed state and the current before the share. -/
theorem withinCeiling_iff (p : Platform) (s : State) (hn : 1 ≤ s.chargerCount.toInt) :
    (setChargingAmps p s).WithinCeiling ↔
      let total := roundDown s.chargerCount.toInt (totalAmps p s).toNat
      let r := refresh s
      total ≤ max r.C_RATE.toInt 0 ∧
        (r.monolithOver = true → total ≤ max 0 ((r.monolithAH.toInt - 2) * 10)) ∧
        (r.powerTankOver = true → total ≤ max 0 ((r.powerTankAH.toInt - 2) * 10)) := by
  have hcommanded := setChargingAmps_commanded p s hn
  have hrate : (setChargingAmps p s).C_RATE = (refresh s).C_RATE := by rw [setChargingAmps_eq]
  have hm : (setChargingAmps p s).monolithAH = (refresh s).monolithAH := by rw [setChargingAmps_eq]
  have hq : (setChargingAmps p s).powerTankAH = (refresh s).powerTankAH := by
    rw [setChargingAmps_eq]
  have hmo : (setChargingAmps p s).monolithOver = (refresh s).monolithOver := by
    unfold State.monolithOver
    rw [setChargingAmps_eq]
  have hqo : (setChargingAmps p s).powerTankOver = (refresh s).powerTankOver := by
    unfold State.powerTankOver
    rw [setChargingAmps_eq]
  constructor
  · rintro ⟨h1, h2, h3⟩
    rw [hcommanded] at h1 h2 h3
    rw [hrate] at h1
    rw [hmo, hm] at h2
    rw [hqo, hq] at h3
    exact ⟨h1, h2, h3⟩
  · rintro ⟨h1, h2, h3⟩
    refine ⟨?_, ?_, ?_⟩
    · rw [hcommanded, hrate]
      exact h1
    · rw [hcommanded, hmo, hm]
      exact h2
    · rw [hcommanded, hqo, hq]
      exact h3

theorem none_over_iff {a : UInt16} {R : Int32} {n : Int} (hn : 1 ≤ n) :
    roundDown n (if promote a > R then truncate R else a).toNat ≤ max R.toInt 0 ↔
      (0 ≤ R.toInt ∨ R.toInt % 2 ^ 16 < n) := by
  have ha := a.toNat_lt
  have hR := toNat_truncate R
  by_cases habove : promote a > R
  · rw [if_pos habove]
    rw [gt_iff_lt, Int32.lt_iff_toInt_lt, toInt_promote] at habove
    have hle := roundDown_le (a := (truncate R).toNat) hn
    have hzero := roundDown_le_zero_iff (a := (truncate R).toNat) hn (by omega)
    omega
  · rw [if_neg habove]
    rw [gt_iff_lt, Int32.lt_iff_toInt_lt, toInt_promote] at habove
    have hle := roundDown_le (a := a.toNat) hn
    omega

/-- With no pack over its capacity only the clamp to the C-rate is left. -/
theorem totalAmps_of_none_over {p : Platform} {s : State} (hC : (refresh s).CPlus < 1)
    (hm : (refresh s).monolithOver = false) (hq : (refresh s).powerTankOver = false) :
    ∃ a, totalAmps p s =
      if promote a > (refresh s).C_RATE then truncate (refresh s).C_RATE else a := by
  obtain ⟨w, hw⟩ := chooseWatts_onlyWatts p (refresh s)
  unfold totalAmps wattsToAmps
  rw [hw, limitAmps_eq]
  unfold State.monolithOver at hm ⊢
  unfold State.powerTankOver at hq ⊢
  simp only [hC, hm, hq, if_true, Bool.false_eq_true, if_false]
  exact ⟨_, rfl⟩

theorem monolithOver_pos {s : State} (h : s.monolithOver = true) : 0 < s.monolithAH := by
  unfold State.monolithOver at h
  exact (of_decide_eq_true h).1

theorem powerTankOver_pos {s : State} (h : s.powerTankOver = true) : 0 < s.powerTankAH := by
  unfold State.powerTankOver at h
  exact (of_decide_eq_true h).1

/-- The current of a branch, for a capacity that fits a `short`. -/
theorem branch_toNat {ah : Int32} (h0 : -2 ^ 15 ≤ ah.toInt) (h : ah.toInt < 2 ^ 15) :
    ((truncate ((ah - 2) * 10)).toNat : Int) = (ah.toInt - 2) * 10 % 2 ^ 16 := by
  rw [toNat_truncate, ceiling_toInt h0 h]

/-- The branch of the power tank comes last, so it decides whatever the monolith takes. -/
theorem totalAmps_of_powerTankOver {p : Platform} {s : State} (hC : (refresh s).CPlus < 1)
    (hq : (refresh s).powerTankOver = true) :
    totalAmps p s = truncate ((s.powerTankAH - 2) * 10) := by
  apply totalAmps_of_override
  unfold State.override
  rw [if_pos hC, if_pos hq, refresh_frame]

theorem totalAmps_of_monolithOver {p : Platform} {s : State} (hC : (refresh s).CPlus < 1)
    (hm : (refresh s).monolithOver = true) (hq : (refresh s).powerTankOver = false) :
    totalAmps p s = truncate ((s.monolithAH - 2) * 10) := by
  apply totalAmps_of_override
  unfold State.override
  rw [if_pos hC, if_neg (by simp [hq]), if_pos hm, refresh_frame]

/-- A call with `CPlus` off keeps the current of all the chargers within the 1C ceiling exactly
when the last branch that is taken does. -/
theorem the_current_stays_within_the_ceiling_iff_the_last_branch_does (p : Platform)
    (s : State) (m q : Int16) (hm : s.monolithAH = m.toInt32) (hq : s.powerTankAH = q.toInt32)
    (hC : s.CPlus < 1) (hn : 1 ≤ s.chargerCount.toInt) :
    (setChargingAmps p s).WithinCeiling ↔ (refresh s).CeilingHolds := by
  have hframe := refresh_frame s
  have hmAH : (refresh s).monolithAH = s.monolithAH := by rw [hframe]
  have hqAH : (refresh s).powerTankAH = s.powerTankAH := by rw [hframe]
  have hC' : (refresh s).CPlus < 1 := by
    rw [hframe]
    exact hC
  have hcount := refresh_chargerCount s
  have hrate := refresh_C_RATE s
  have hm0 : -2 ^ 15 ≤ s.monolithAH.toInt := by rw [hm, Int16.toInt_toInt32]; exact m.le_toInt
  have hm1 : s.monolithAH.toInt < 2 ^ 15 := by rw [hm, Int16.toInt_toInt32]; exact m.toInt_lt
  have hq0 : -2 ^ 15 ≤ s.powerTankAH.toInt := by rw [hq, Int16.toInt_toInt32]; exact q.le_toInt
  have hq1 : s.powerTankAH.toInt < 2 ^ 15 := by rw [hq, Int16.toInt_toInt32]; exact q.toInt_lt
  have hsum := c_rate_toInt hm0 hm1 hq0 hq1
  rw [withinCeiling_iff p s hn]
  unfold State.CeilingHolds
  simp only
  rw [hcount]
  cases hmo : (refresh s).monolithOver with
  | false =>
    cases hqo : (refresh s).powerTankOver with
    | false =>
      obtain ⟨a, ha⟩ := totalAmps_of_none_over (p := p) hC' hmo hqo
      rw [ha]
      simpa using none_over_iff hn
    | true =>
      have hpos := powerTankOver_pos hqo
      rw [hqAH] at hpos
      rw [if_pos (Or.inr hpos)] at hrate
      rw [Int32.lt_iff_toInt_lt] at hpos
      have hown := own_ceiling_iff hn hpos
      rw [totalAmps_of_powerTankOver hC' hqo, branch_toNat hq0 hq1, hrate, hsum, hqAH, hmAH]
      unfold OtherCeilingHolds
      simp only [Bool.false_eq_true, false_implies, true_and, forall_const, hown]
      rw [and_comm, max_comm]
  | true =>
    have hpos := monolithOver_pos hmo
    rw [hmAH] at hpos
    rw [if_pos (Or.inl hpos)] at hrate
    rw [Int32.lt_iff_toInt_lt] at hpos
    cases hqo : (refresh s).powerTankOver with
    | false =>
      have hown := own_ceiling_iff hn hpos
      rw [totalAmps_of_monolithOver hC' hmo hqo, branch_toNat hm0 hm1, hrate, hsum, hqAH, hmAH]
      unfold OtherCeilingHolds
      simp only [Bool.false_eq_true, false_implies, and_true, forall_const, hown]
      rw [and_comm, max_comm]
    | true =>
      have hpos' := powerTankOver_pos hqo
      rw [hqAH, Int32.lt_iff_toInt_lt] at hpos'
      have hown := own_ceiling_iff hn hpos'
      rw [totalAmps_of_powerTankOver hC' hqo, branch_toNat hq0 hq1, hrate, hsum, hqAH, hmAH]
      unfold OtherCeilingHolds
      simp only [forall_const, hown]
      constructor
      · rintro ⟨_, hother, howns⟩
        exact ⟨howns, hother⟩
      · rintro ⟨howns, hother⟩
        have hle := hown.mpr howns
        -- the capacity of a pack that is over is positive, so the C-rate is above its ceiling
        refine ⟨?_, hother, howns⟩
        omega

/-- A pack of 1 Ah that takes 2 A at 100.0 V. Its ceiling of -1.0 A comes out as 6552.6 A. -/
theorem a_ceiling_below_zero_is_read_as_unsigned :
    let s := run loop (setup usualSettings) (upToHeartbeat [voltageFrame BMS_CELL_VOLTAGE 100000,
      configFrame BMS_PACK_CONFIG 1, activeFrame BMS_PACK_ACTIVE_DATA 20 20 2])
    let t := loop s (fromBike [])
    (polled s (fromBike [])).delayItteration < 1 ∧ t.monolithAH = (1 : Int16).toInt32 ∧
      0 < t.volts.toInt ∧ 1 ≤ t.chargerCount.toInt ∧ t.CPlus < 1 ∧ t.commanded = 65526 ∧
      ¬ t.WithinCeiling := by
  decide +kernel

/-- A pack of 100 Ah that takes 50 A has only the clamp to the C-rate. -/
theorem a_pack_below_its_capacity_stays_within_the_ceiling :
    (setChargingAmps zeroPlatform { setup usualSettings with
      volts := 1000, monolithAH := 100, monolithAmps := 50 }).WithinCeiling :=
  (the_current_stays_within_the_ceiling_iff_the_last_branch_does zeroPlatform _ 100 0
    rfl rfl (by decide) (by decide)).mpr (Or.inl (by decide))

end super_charger.v26
