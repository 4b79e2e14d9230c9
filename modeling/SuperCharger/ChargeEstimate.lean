-- The voltage estimate of `Zero_charge_monitoring`: where `setVoltageDiff` brings it while the
-- readings of both buses stay as they are.
import SuperCharger.ChargeRequest
import SuperCharger.Halving

namespace super_charger.charge_monitor

open machine_int arduino charger_message zero runs halving

/-- The most that a message of a charger can say, in millivolts. -/
def READING_MAX : Int := 6553500

theorem holder_value (volts : UInt16) : (holder volts).value.toInt = volts.toNat := by
  have hzero : (word 0 0).toUInt32 <<< 16 = 0 := by decide
  unfold holder ByteToLong.value
  change ((word (highByte volts) (lowByte volts)).toUInt32 |||
    ((word 0 0).toUInt32 <<< 16)).toInt32.toInt = volts.toNat
  rw [hzero, word_highByte_lowByte, UInt32.or_zero]
  exact toInt_promote volts

theorem reading_range (buf : Message) : 0 ≤ (reading buf).toInt ∧ (reading buf).toInt ≤ READING_MAX := by
  have hvalue := holder_value (SCV2.voltage buf).toUInt16
  have hlt := (SCV2.voltage buf).toUInt16.toNat_lt
  have hhundred : (100 : Int32).toInt = 100 := rfl
  unfold reading READING_MAX
  rw [Int32.toInt_mul, hvalue, hhundred]
  generalize (SCV2.voltage buf).toUInt16.toNat = v at *
  have hsmall : (v : Int) * 100 % (2 ^ 32 : Nat) = v * 100 := Int.emod_eq_of_lt (by omega) (by omega)
  rw [Int.bmod_def, hsmall]
  split <;> omega

/-- A message that repeats the reading is a call of `setVoltageDiff`. -/
theorem onCharger_estimate (p : Platform) {s : State} {buf : Message}
    (h : reading buf = s.chargerVoltageHolder) :
    (onCharger p s buf).chargerVoltage = (setVoltageDiff s).chargerVoltage ∧
      (onCharger p s buf).voltageDiff = (setVoltageDiff s).voltageDiff := by
  unfold onCharger setVoltageDiff isReadyToCharge
  unfold reading at h
  simp only [h]
  split <;> exact ⟨rfl, rfl⟩

/-- A frame that repeats the voltage of the bike is one as well. -/
theorem onMonolithVoltage_eq {s : State} {f : Frame} (h : f.voltage = s.bikeVoltage) :
    onMonolithVoltage s f = setVoltageDiff s := by
  unfold onMonolithVoltage
  rw [h]

/-! ## One call -/

/-- The estimate and the reading of the chargers are in the range of their messages, and the
readings of both buses meet the thresholds. -/
structure State.Estimates (s : State) : Prop where
  chargerVoltage : 0 ≤ s.chargerVoltage.toInt ∧ s.chargerVoltage.toInt ≤ READING_MAX
  chargerVoltageHolder :
    0 ≤ s.chargerVoltageHolder.toInt ∧ s.chargerVoltageHolder.toInt ≤ READING_MAX
  ready : isReadyToCharge s = true

/-- Neither the sum nor the difference of a call overflows a `long`. -/
def State.Exact (s : State) : Prop :=
  (s.chargerVoltageHolder + s.chargerVoltage).toInt =
      s.chargerVoltageHolder.toInt + s.chargerVoltage.toInt ∧
    (s.bikeVoltage - s.chargerVoltage).toInt = s.bikeVoltage.toInt - s.chargerVoltage.toInt

theorem bikeVoltage_of_ready {s : State} (h : isReadyToCharge s = true) :
    70000 < s.bikeVoltage.toInt := by
  unfold isReadyToCharge at h
  have hbike := Int32.lt_iff_toInt_lt.mp (of_decide_eq_true h).1
  have hmin : MIN_VOLTS.toInt = 70000 := rfl
  omega

/-- Two voltages of chargers do not overflow a `long` together, and half of their sum is the step. -/
theorem half_of_readings {holder voltage : Int32}
    (hh : 0 ≤ holder.toInt ∧ holder.toInt ≤ READING_MAX)
    (hc : 0 ≤ voltage.toInt ∧ voltage.toInt ≤ READING_MAX) :
    (holder + voltage).toInt = holder.toInt + voltage.toInt ∧
      ((holder + voltage) / 2).toInt = approach holder.toInt voltage.toInt := by
  unfold READING_MAX at hh hc
  have hsum : (holder + voltage).toInt = holder.toInt + voltage.toInt := by
    rw [Int32.toInt_add, Int.bmod_def]
    split <;> omega
  have hhalf := toInt_div_of_nonneg (x := holder + voltage) (d := 2) (by omega) (by decide)
  have htwo : (2 : Int32).toInt = 2 := rfl
  rw [hsum, htwo] at hhalf
  exact ⟨hsum, hhalf⟩

theorem exact_of_estimates {s : State} (h : s.Estimates) : s.Exact := by
  have hbike := bikeVoltage_of_ready h.ready
  have hlt := s.bikeVoltage.toInt_lt
  obtain ⟨hc0, hc⟩ := h.chargerVoltage
  unfold READING_MAX at hc
  constructor
  · exact (half_of_readings h.chargerVoltageHolder h.chargerVoltage).1
  · rw [Int32.toInt_sub, Int.bmod_def]
    split <;> omega

/-- What a call keeps. -/
theorem setVoltageDiff_readings (s : State) :
    (setVoltageDiff s).chargerVoltageHolder = s.chargerVoltageHolder ∧
      (setVoltageDiff s).bikeVoltage = s.bikeVoltage ∧ (setVoltageDiff s).endVolts = s.endVolts := by
  unfold setVoltageDiff
  split <;> exact ⟨rfl, rfl, rfl⟩

theorem setVoltageDiff_ready (s : State) :
    isReadyToCharge (setVoltageDiff s) = isReadyToCharge s := by
  obtain ⟨hholder, hbike, hend⟩ := setVoltageDiff_readings s
  unfold isReadyToCharge
  rw [hholder, hbike, hend]

/-- A call brings the estimate half of the way to the reading of the chargers, and takes the
difference from the estimate before it. -/
theorem setVoltageDiff_estimate {s : State} (h : s.Estimates) :
    (setVoltageDiff s).chargerVoltage.toInt =
        approach s.chargerVoltageHolder.toInt s.chargerVoltage.toInt ∧
      (setVoltageDiff s).voltageDiff.toInt = s.bikeVoltage.toInt - s.chargerVoltage.toInt := by
  have hhalf := (half_of_readings h.chargerVoltageHolder h.chargerVoltage).2
  have hdiff := (exact_of_estimates h).2
  unfold setVoltageDiff
  rw [if_pos h.ready]
  exact ⟨hhalf, hdiff⟩

theorem estimates_setVoltageDiff {s : State} (h : s.Estimates) : (setVoltageDiff s).Estimates := by
  obtain ⟨hholder, _, _⟩ := setVoltageDiff_readings s
  refine ⟨?_, ?_, ?_⟩
  · rw [(setVoltageDiff_estimate h).1]
    exact approach_within h.chargerVoltageHolder h.chargerVoltage
  · rw [hholder]
    exact h.chargerVoltageHolder
  · rw [setVoltageDiff_ready]
    exact h.ready

/-! ## Any number of calls -/

theorem estimates_iterate {s : State} (h : s.Estimates) (n : Nat) :
    (setVoltageDiff^[n] s).Estimates := by
  induction n with
  | zero => exact h
  | succ n ih =>
    rw [Function.iterate_succ_apply']
    exact estimates_setVoltageDiff ih

theorem readings_iterate (s : State) (n : Nat) :
    (setVoltageDiff^[n] s).chargerVoltageHolder = s.chargerVoltageHolder ∧
      (setVoltageDiff^[n] s).bikeVoltage = s.bikeVoltage := by
  induction n with
  | zero => exact ⟨rfl, rfl⟩
  | succ n ih =>
    obtain ⟨hholder, hbike, _⟩ := setVoltageDiff_readings (setVoltageDiff^[n] s)
    rw [Function.iterate_succ_apply', hholder, hbike]
    exact ih

/-- The estimate goes half of the way at every call. -/
theorem chargerVoltage_iterate {s : State} (h : s.Estimates) (n : Nat) :
    (setVoltageDiff^[n] s).chargerVoltage.toInt =
      (approach s.chargerVoltageHolder.toInt)^[n] s.chargerVoltage.toInt := by
  induction n with
  | zero => rfl
  | succ n ih =>
    have hstep := (setVoltageDiff_estimate (estimates_iterate h n)).1
    rw [(readings_iterate s n).1, ih] at hstep
    rw [Function.iterate_succ_apply', Function.iterate_succ_apply', hstep]

/-- The difference is the one to the estimate before the last call. -/
theorem voltageDiff_iterate {s : State} (h : s.Estimates) (n : Nat) :
    (setVoltageDiff^[n + 1] s).voltageDiff.toInt =
      s.bikeVoltage.toInt - (setVoltageDiff^[n] s).chargerVoltage.toInt := by
  have hstep := (setVoltageDiff_estimate (estimates_iterate h n)).2
  rw [Function.iterate_succ_apply', hstep, (readings_iterate s n).2]

/-- While the readings stay, the estimate is between where it started and the reading of the
chargers, and comes as close to it as the start halved once for every call, up to a millivolt. The
difference is one call behind, and no call overflows. -/
theorem the_estimate_converges_to_the_reading (s : State) (h : s.Estimates) (n : Nat) :
    (min s.chargerVoltage.toInt s.chargerVoltageHolder.toInt ≤
          (setVoltageDiff^[n] s).chargerVoltage.toInt ∧
        (setVoltageDiff^[n] s).chargerVoltage.toInt ≤
          max s.chargerVoltage.toInt s.chargerVoltageHolder.toInt) ∧
      (s.chargerVoltageHolder.toInt - (setVoltageDiff^[n] s).chargerVoltage.toInt).natAbs ≤
        (s.chargerVoltageHolder.toInt - s.chargerVoltage.toInt).natAbs / 2 ^ n + 1 ∧
      (1 ≤ n →
        (s.bikeVoltage.toInt - s.chargerVoltageHolder.toInt -
            (setVoltageDiff^[n] s).voltageDiff.toInt).natAbs ≤
          (s.chargerVoltageHolder.toInt - s.chargerVoltage.toInt).natAbs / 2 ^ (n - 1) + 1) ∧
      (setVoltageDiff^[n] s).Exact := by
  have hgap : ∀ k, (s.chargerVoltageHolder.toInt -
      (setVoltageDiff^[k] s).chargerVoltage.toInt).natAbs ≤
        (s.chargerVoltageHolder.toInt - s.chargerVoltage.toInt).natAbs / 2 ^ k + 1 := by
    intro k
    rw [chargerVoltage_iterate h k]
    exact gap_iterate_le _ _ k
  refine ⟨?_, hgap n, ?_, exact_of_estimates (estimates_iterate h n)⟩
  · rw [chargerVoltage_iterate h n]
    exact iterate_within ⟨min_le_right _ _, le_max_right _ _⟩ ⟨min_le_left _ _, le_max_left _ _⟩ n
  · intro hn
    obtain ⟨k, rfl⟩ := Nat.exists_eq_add_of_le' hn
    have hbehind := hgap k
    rw [voltageDiff_iterate h k, Nat.add_sub_cancel]
    have hsame : s.bikeVoltage.toInt - s.chargerVoltageHolder.toInt -
        (s.bikeVoltage.toInt - (setVoltageDiff^[k] s).chargerVoltage.toInt) =
          -(s.chargerVoltageHolder.toInt - (setVoltageDiff^[k] s).chargerVoltage.toInt) := by omega
    rw [hsame, Int.natAbs_neg]
    exact hbehind

/-- Chargers and monolith at 110.0 V, and an estimate that starts at 0: after ten calls it is
within 108 millivolts. -/
theorem an_estimate_from_zero_is_close_after_ten_calls :
    (110000 - (setVoltageDiff^[10] { setup ⟨1500, 116400⟩ with
      bikeVoltage := 110000, chargerVoltageHolder := 110000 }).chargerVoltage.toInt).natAbs ≤
        110000 / 2 ^ 10 + 1 :=
  (the_estimate_converges_to_the_reading { setup ⟨1500, 116400⟩ with
      bikeVoltage := 110000, chargerVoltageHolder := 110000 }
    ⟨by decide, by decide, by decide⟩ 10).2.1

/-! ## In a run -/

/-- What `setVoltageDiff` reads, and what it leaves. -/
structure Estimate where
  chargerVoltage : Int32
  chargerVoltageHolder : Int32
  bikeVoltage : Int32
  voltageDiff : Int32
  endVolts : Int32

def State.estimate (s : State) : Estimate where
  chargerVoltage := s.chargerVoltage
  chargerVoltageHolder := s.chargerVoltageHolder
  bikeVoltage := s.bikeVoltage
  voltageDiff := s.voltageDiff
  endVolts := s.endVolts

def Estimate.endingAt (e : Estimate) (v : Int32) : Estimate := { e with endVolts := v }

/-- The estimate is `n` halves of the way from `c0` to the reading `H` of the chargers, beside the
reading `B` of the bike. -/
structure Approaching (c0 : Int) (H B : Int32) (n : Nat) (s : State) : Prop where
  estimates : s.Estimates
  holder : s.chargerVoltageHolder = H
  bike : s.bikeVoltage = B
  voltage : s.chargerVoltage.toInt = (approach H.toInt)^[n] c0
  diff : ∀ k, n = k + 1 → s.voltageDiff.toInt = B.toInt - (approach H.toInt)^[k] c0

/-- The messages and frames of a call that come to `setVoltageDiff`. -/
def updates (i : Input) : Nat :=
  (if i.charger.isSome then 1 else 0) +
    if i.bike.any fun f => hasMonolithVoltage f.id then 1 else 0

/-- A call repeats the readings of both buses, keeps the end voltage above the chargers, and comes
before either bus is stale. -/
structure Repeats (s : State) (i : Input) : Prop where
  charger : ∀ buf, i.charger = some buf → reading buf = s.chargerVoltageHolder
  bike : ∀ f, i.bike = some f → hasMonolithVoltage f.id = true → f.voltage = s.bikeVoltage
  endVolts : s.chargerVoltageHolder <
    (readCommands i.serial.length (checkWindow i.platform s) i.serial).endVolts
  chargerHeard : i.charger = none → s.scStaleCount + 1 ≤ SC_STALE_THRESHOLD
  bikeHeard : i.bike = none → s.bikeStaleCount + 1 ≤ BIKE_STALE_THRESHOLD

instance (s : State) (i : Input) : Decidable (Repeats s i) :=
  decidable_of_iff
    ((i.charger.all fun buf => reading buf = s.chargerVoltageHolder) = true ∧
      (i.bike.all fun f => hasMonolithVoltage f.id = true → f.voltage = s.bikeVoltage) = true ∧
      s.chargerVoltageHolder <
        (readCommands i.serial.length (checkWindow i.platform s) i.serial).endVolts ∧
      (i.charger.isNone = true → s.scStaleCount + 1 ≤ SC_STALE_THRESHOLD) ∧
      (i.bike.isNone = true → s.bikeStaleCount + 1 ≤ BIKE_STALE_THRESHOLD))
    (by
      simp only [Option.all_eq_true, decide_eq_true_eq, Option.isNone_iff_eq_none]
      exact ⟨fun ⟨hcharger, hbike, hend, hsc, hstale⟩ => ⟨hcharger, hbike, hend, hsc, hstale⟩,
        fun h => ⟨h.charger, h.bike, h.endVolts, h.chargerHeard, h.bikeHeard⟩⟩)

section Run

variable {c0 : Int} {H B : Int32} {n : Nat} {s u : State}

theorem approaching_of_estimate (h : Approaching c0 H B n s) (hsame : u.estimate = s.estimate) :
    Approaching c0 H B n u := by
  have hvoltage : u.chargerVoltage = s.chargerVoltage := congrArg Estimate.chargerVoltage hsame
  have hholder : u.chargerVoltageHolder = s.chargerVoltageHolder :=
    congrArg Estimate.chargerVoltageHolder hsame
  have hbike : u.bikeVoltage = s.bikeVoltage := congrArg Estimate.bikeVoltage hsame
  have hdiff : u.voltageDiff = s.voltageDiff := congrArg Estimate.voltageDiff hsame
  have hend : u.endVolts = s.endVolts := congrArg Estimate.endVolts hsame
  obtain ⟨⟨hc, hh, hready⟩, hH, hB, happroach, hbehind⟩ := h
  refine ⟨⟨?_, ?_, ?_⟩, ?_, ?_, ?_, ?_⟩
  · rw [hvoltage]
    exact hc
  · rw [hholder]
    exact hh
  · unfold isReadyToCharge at hready ⊢
    rw [hbike, hholder, hend]
    exact hready
  · rw [hholder]
    exact hH
  · rw [hbike]
    exact hB
  · rw [hvoltage]
    exact happroach
  · rw [hdiff]
    exact hbehind

/-- A command may move the end voltage, as long as it stays above the chargers. -/
theorem approaching_of_endVolts (h : Approaching c0 H B n s) {v : Int32}
    (hsame : u.estimate = s.estimate.endingAt v) (hv : s.chargerVoltageHolder < v) :
    Approaching c0 H B n u := by
  have hmoved : Approaching c0 H B n { s with endVolts := v } := by
    obtain ⟨⟨hc, hh, hready⟩, hH, hB, happroach, hbehind⟩ := h
    refine ⟨⟨hc, hh, ?_⟩, hH, hB, happroach, hbehind⟩
    unfold isReadyToCharge at hready ⊢
    obtain ⟨hbike, hholder, -⟩ := of_decide_eq_true hready
    exact decide_eq_true ⟨hbike, hholder, hv⟩
  exact approaching_of_estimate hmoved hsame

/-- A call of `setVoltageDiff` goes half of the way that is left. -/
theorem approaching_setVoltageDiff (h : Approaching c0 H B n s) :
    Approaching c0 H B (n + 1) (setVoltageDiff s) := by
  obtain ⟨hvoltage, hdiff⟩ := setVoltageDiff_estimate h.estimates
  obtain ⟨hholder, hbike, _⟩ := setVoltageDiff_readings s
  refine ⟨estimates_setVoltageDiff h.estimates, hholder.trans h.holder, hbike.trans h.bike, ?_, ?_⟩
  · rw [hvoltage, h.holder, h.voltage, Function.iterate_succ_apply']
  · intro k hk
    rw [hdiff, h.bike, h.voltage, Nat.succ.inj hk]

theorem approaching_onCharger (h : Approaching c0 H B n s) (p : Platform) {buf : Message}
    (hbuf : reading buf = s.chargerVoltageHolder) :
    Approaching c0 H B (n + 1) (onCharger p s buf) := by
  obtain ⟨hvoltage, hdiff⟩ := onCharger_estimate p hbuf
  obtain ⟨hholder, hbike, hend⟩ := setVoltageDiff_readings s
  have hvolts := onCharger_volts p s buf
  rw [hbuf] at hvolts
  have hkept : (onCharger p s buf).chargerVoltageHolder = s.chargerVoltageHolder ∧
      (onCharger p s buf).bikeVoltage = s.bikeVoltage ∧
      (onCharger p s buf).endVolts = s.endVolts := by
    unfold Volts.estimate at hvolts
    refine ⟨(congrArg Volts.chargerVoltageHolder hvolts).trans ?_,
      (congrArg Volts.bikeVoltage hvolts).trans ?_, (congrArg Volts.endVolts hvolts).trans ?_⟩
    all_goals split <;> rfl
  refine approaching_of_estimate (approaching_setVoltageDiff h) ?_
  unfold State.estimate
  rw [hvoltage, hdiff, hkept.1, hkept.2.1, hkept.2.2, hholder, hbike, hend]

theorem approaching_onBike (h : Approaching c0 H B n s) {f : Frame}
    (hf : hasMonolithVoltage f.id = true → f.voltage = s.bikeVoltage) :
    Approaching c0 H B (n + if hasMonolithVoltage f.id then 1 else 0) (onBike s f) := by
  have hcounted : Approaching c0 H B n { s with bikeStaleCount := 0 } :=
    approaching_of_estimate h rfl
  by_cases hid : hasMonolithVoltage f.id = true
  · have hvoltage : onMonolithVoltage { s with bikeStaleCount := 0 } f =
        setVoltageDiff { s with bikeStaleCount := 0 } := onMonolithVoltage_eq (hf hid)
    rw [if_pos hid]
    refine approaching_of_estimate (approaching_setVoltageDiff hcounted) ?_
    unfold onBike
    simp only
    rw [if_pos hid, hvoltage, ite_same State.estimate, ite_same State.estimate]
    · rfl
    · rfl
  · rw [if_neg hid]
    refine approaching_of_estimate hcounted ?_
    unfold onBike
    simp only
    rw [if_neg hid, ite_same State.estimate, ite_same State.estimate]
    · rfl
    · rfl

theorem readCommand_estimate (v : Int32) (s : State) (serial : List Char) :
    (readCommand s serial).1.estimate.endingAt v = s.estimate.endingAt v := by
  unfold readCommand
  simp only
  split <;> split <;> rfl

theorem checkWindow_estimate (p : Platform) (s : State) :
    (checkWindow p s).estimate = s.estimate := by
  unfold checkWindow endWindow sendChargeCommand
  split
  · simp only
    split
    · split <;> rfl
    · rfl
  · rfl

/-- The charge command and the commands of the user leave the estimate, and the end voltage may be
another one. -/
theorem approaching_readCommands (h : Approaching c0 H B n s) {i : Input}
    (hend : s.chargerVoltageHolder <
      (readCommands i.serial.length (checkWindow i.platform s) i.serial).endVolts) :
    Approaching c0 H B n (readCommands i.serial.length (checkWindow i.platform s) i.serial) := by
  generalize hv : (readCommands i.serial.length (checkWindow i.platform s) i.serial).endVolts = v at hend
  have hkeep := readCommands_keep (g := fun s => s.estimate.endingAt v) (readCommand_estimate v)
    i.serial.length (checkWindow i.platform s) i.serial
  rw [checkWindow_estimate] at hkeep
  refine approaching_of_endVolts h ?_ hend
  rw [← hkeep, ← hv]
  rfl

theorem approaching_receive (h : Approaching c0 H B n s) {i : Input}
    (hcharger : ∀ buf, i.charger = some buf → reading buf = s.chargerVoltageHolder)
    (hbike : ∀ f, i.bike = some f → hasMonolithVoltage f.id = true → f.voltage = s.bikeVoltage) :
    Approaching c0 H B (n + updates i) (receive s i) := by
  unfold receive updates
  cases hc : i.charger with
  | none =>
    cases hb : i.bike with
    | none => exact h
    | some f =>
      have hone := approaching_onBike h (hbike f hb)
      simp only [Option.isSome_none, Option.any_some, Bool.false_eq_true, if_false, Nat.zero_add]
      exact hone
  | some buf =>
    have hone := approaching_onCharger h i.platform (hcharger buf hc)
    cases hb : i.bike with
    | none => exact hone
    | some f =>
      have hsame : (onCharger i.platform s buf).bikeVoltage = s.bikeVoltage :=
        hone.bike.trans h.bike.symm
      have htwo := approaching_onBike hone (fun hid => (hbike f hb hid).trans hsame.symm)
      rw [Nat.add_assoc] at htwo
      exact htwo

/-- Both buses have been heard often enough. -/
theorem clears_of_repeats {i : Input} (h : Repeats s i) (hu : u.watched = s.watched) :
    clears (receive u i) = false := by
  have hboth := receive_watched u i
  rw [hu] at hboth
  have hcharger : (receive u i).scStaleCount =
      (i.charger.elim s.watched.charger s.watched.charger.onCharger).staleCount :=
    congrArg (fun w => w.charger.staleCount) hboth
  have hbike : (receive u i).bikeStaleCount =
      (i.bike.elim s.watched.bike s.watched.bike.onBike).staleCount :=
    congrArg (fun w => w.bike.staleCount) hboth
  unfold clears
  refine decide_eq_false (not_or.mpr ⟨?_, ?_⟩)
  · rw [hcharger]
    cases hc : i.charger with
    | none => exact Int32.not_lt.mpr (h.chargerHeard hc)
    | some buf =>
      change ¬ (0 + 1 : Int32) > SC_STALE_THRESHOLD
      decide
  · rw [hbike]
    cases hb : i.bike with
    | none => exact Int32.not_lt.mpr (h.bikeHeard hb)
    | some f =>
      change ¬ (0 + 1 : Int32) > BIKE_STALE_THRESHOLD
      decide

theorem checkStale_estimate (h : clears s = false) : (checkStale s).estimate = s.estimate := by
  rw [checkStale_of_not_clears h]
  exact ite_same State.estimate rfl

theorem approaching_loop (h : Approaching c0 H B n s) {i : Input} (hi : Repeats s i) :
    Approaching c0 H B (n + updates i) (loop s i) := by
  have hread := approaching_readCommands h hi.endVolts
  have hwatched := readCommands_watched i.serial.length (checkWindow i.platform s) i.serial
  rw [checkWindow_watched] at hwatched
  unfold loop
  simp only
  generalize readCommands i.serial.length (checkWindow i.platform s) i.serial = u at *
  have hcharger : u.chargerVoltageHolder = s.chargerVoltageHolder :=
    hread.holder.trans h.holder.symm
  have hbike : u.bikeVoltage = s.bikeVoltage := hread.bike.trans h.bike.symm
  refine approaching_of_estimate (approaching_receive hread ?_ ?_)
    (checkStale_estimate (clears_of_repeats hi hwatched))
  · intro buf hbuf
    exact (hi.charger buf hbuf).trans hcharger.symm
  · intro f hf hid
    exact (hi.bike f hf hid).trans hbike.symm

/-- Every message and every frame with a voltage takes half of the way that is left. -/
theorem approaching_run (h : Approaching c0 H B n s) {is : List Input}
    (his : Always loop Repeats s is) :
    Approaching c0 H B (n + (is.map updates).sum) (run loop s is) := by
  induction is generalizing n s with
  | nil => exact h
  | cons i is ih =>
    obtain ⟨hi, hrest⟩ := his
    have hlater := ih (approaching_loop h hi) hrest
    rw [List.map_cons, List.sum_cons, ← Nat.add_assoc]
    exact hlater

end Run

/-! ## From the start -/

/-- The voltages of the chargers are ones that their messages can say. -/
def Volts.Said (v : Volts) : Prop :=
  (0 ≤ v.chargerVoltage.toInt ∧ v.chargerVoltage.toInt ≤ READING_MAX) ∧
    0 ≤ v.chargerVoltageHolder.toInt ∧ v.chargerVoltageHolder.toInt ≤ READING_MAX

theorem Volts.said_estimate {v : Volts} (h : v.Said) : v.estimate.Said := by
  obtain ⟨hvoltage, hholder⟩ := h
  unfold Volts.estimate
  split
  · refine ⟨?_, hholder⟩
    rw [(half_of_readings hholder hvoltage).2]
    exact approach_within hholder hvoltage
  · exact ⟨hvoltage, hholder⟩

theorem Volts.said_receive {v : Volts} (h : v.Said) (charger : Option Message)
    (bike : Option Frame) : (v.receive charger bike).Said := by
  have hcharger : (charger.elim v v.onCharger).Said := by
    cases charger with
    | none => exact h
    | some buf =>
      have hread : Volts.Said { v with scStaleCount := 0, chargerVoltageHolder := reading buf } :=
        ⟨h.1, reading_range buf⟩
      exact Volts.said_estimate hread
  unfold Volts.receive
  cases bike with
  | none => exact hcharger
  | some f =>
    simp only [Option.elim_some]
    generalize charger.elim v v.onCharger = w at *
    unfold Volts.onBike
    split
    · have hread : Volts.Said { w with bikeVoltage := f.voltage } := hcharger
      exact Volts.said_estimate hread
    · exact hcharger

/-- Nothing was heard yet, or no more. -/
theorem zero_said : 0 ≤ (0 : Int32).toInt ∧ (0 : Int32).toInt ≤ READING_MAX := by decide

theorem said_checkCharger {s : State} (h : s.volts.Said) : (checkCharger s).volts.Said := by
  unfold checkCharger
  split
  · exact ⟨zero_said, zero_said⟩
  · exact h

theorem said_checkBike {s : State} (h : s.volts.Said) : (checkBike s).volts.Said := by
  unfold checkBike
  split
  · exact h
  · exact h

theorem said_checkStale {s : State} (h : s.volts.Said) : (checkStale s).volts.Said := by
  have hmessages : ∀ u : State, (checkMessages u).volts = u.volts :=
    fun u => ite_same State.volts rfl
  have hcounted : (countStale s).volts.Said := h
  unfold checkStale
  rw [hmessages]
  exact said_checkBike (said_checkCharger hcounted)

/-- A command of the user moves the end voltage alone. -/
theorem said_readCommands {s : State} (h : s.volts.Said) (turns : Nat) (serial : List Char) :
    (readCommands turns s serial).volts.Said := by
  have hcommand : ∀ u serial, (readCommand u serial).1.volts.Said = u.volts.Said := by
    intro u serial
    rw [readCommand_volts]
    rfl
  rw [readCommands_keep (g := fun u => u.volts.Said) hcommand]
  exact h

theorem said_loop (s : State) (i : Input) (h : s.volts.Said) : (loop s i).volts.Said := by
  have hwindow : (checkWindow i.platform s).volts.Said := by
    rw [checkWindow_volts]
    exact h
  have hread := said_readCommands hwindow i.serial.length i.serial
  unfold loop
  simp only
  apply said_checkStale
  rw [receive_volts]
  exact Volts.said_receive hread i.charger i.bike

/-- In every run a state that is ready to charge is one from which the estimate converges. -/
theorem estimates_of_run (EEPROM : Settings) (is : List Input)
    (hready : isReadyToCharge (run loop (setup EEPROM) is) = true) :
    (run loop (setup EEPROM) is).Estimates := by
  have hstart : (setup EEPROM).volts.Said := ⟨zero_said, zero_said⟩
  have hsaid := run_invariant (I := fun s : State => s.volts.Said) said_loop hstart is
  exact ⟨hsaid.1, hsaid.2, hready⟩

/-- `u` is `n` halves of the way from `s` to the readings of both buses in `s`. -/
structure Converged (s u : State) (n : Nat) : Prop where
  between : min s.chargerVoltage.toInt s.chargerVoltageHolder.toInt ≤ u.chargerVoltage.toInt ∧
    u.chargerVoltage.toInt ≤ max s.chargerVoltage.toInt s.chargerVoltageHolder.toInt
  estimate : (s.chargerVoltageHolder.toInt - u.chargerVoltage.toInt).natAbs ≤
    (s.chargerVoltageHolder.toInt - s.chargerVoltage.toInt).natAbs / 2 ^ n + 1
  behind : ∀ k, n = k + 1 →
    (s.bikeVoltage.toInt - s.chargerVoltageHolder.toInt - u.voltageDiff.toInt).natAbs ≤
      (s.chargerVoltageHolder.toInt - s.chargerVoltage.toInt).natAbs / 2 ^ k + 1

theorem converged_of_approaching {s u : State} {n : Nat}
    (h : Approaching s.chargerVoltage.toInt s.chargerVoltageHolder s.bikeVoltage n u) :
    Converged s u n := by
  refine ⟨?_, ?_, ?_⟩
  · rw [h.voltage]
    exact iterate_within ⟨min_le_right _ _, le_max_right _ _⟩ ⟨min_le_left _ _, le_max_left _ _⟩ n
  · rw [h.voltage]
    exact gap_iterate_le _ _ n
  · intro k hk
    have hgap := gap_iterate_le s.chargerVoltageHolder.toInt s.chargerVoltage.toInt k
    unfold halving.gap at hgap
    rw [h.diff k hk]
    omega

/-- In every run, from a state that is ready to charge and as long as both buses repeat what they
said, every message of the chargers and every voltage of the bike halves the way of the estimate to
the voltage of the chargers. The difference for the request is one of them behind. -/
theorem the_estimate_converges_in_a_run (EEPROM : Settings) (before is : List Input)
    (hready : isReadyToCharge (run loop (setup EEPROM) before) = true)
    (hrepeats : Always loop Repeats (run loop (setup EEPROM) before) is) :
    Converged (run loop (setup EEPROM) before) (run loop (setup EEPROM) (before ++ is))
      (is.map updates).sum := by
  have hstart := estimates_of_run EEPROM before hready
  rw [run_append]
  generalize run loop (setup EEPROM) before = s at *
  have h0 : Approaching s.chargerVoltage.toInt s.chargerVoltageHolder s.bikeVoltage 0 s := by
    refine ⟨hstart, rfl, rfl, rfl, ?_⟩
    intro k hk
    cases hk
  have hrun := approaching_run h0 hrepeats
  rw [Nat.zero_add] at hrun
  exact converged_of_approaching hrun

/-- Both buses at 110.0 V in every call: the three calls after the first are six halves. -/
theorem an_estimate_is_close_after_three_calls_of_both_buses :
    Converged (run loop (setup ⟨1500, 116400⟩) [finds (some chargerHeard) (some monolithHeard)])
      (run loop (setup ⟨1500, 116400⟩) ([finds (some chargerHeard) (some monolithHeard)] ++
        List.replicate 3 (finds (some chargerHeard) (some monolithHeard)))) 6 := by
  have hready : isReadyToCharge (run loop (setup ⟨1500, 116400⟩)
      [finds (some chargerHeard) (some monolithHeard)]) = true := by decide +kernel
  have hrepeats : Always loop Repeats (run loop (setup ⟨1500, 116400⟩)
      [finds (some chargerHeard) (some monolithHeard)])
        (List.replicate 3 (finds (some chargerHeard) (some monolithHeard))) := by decide +kernel
  have hsix : ((List.replicate 3 (finds (some chargerHeard) (some monolithHeard))).map
      updates).sum = 6 := by decide +kernel
  have hconverged := the_estimate_converges_in_a_run ⟨1500, 116400⟩ _ _ hready hrepeats
  rw [hsix] at hconverged
  exact hconverged

end super_charger.charge_monitor
