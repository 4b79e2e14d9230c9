-- The laws of the load-share loop: when the power of a cycle stays within the
-- station limit, and when a stop at the ends of the voltage range reaches the
-- chargers.
import SuperCharger.LoadShare

namespace super_charger.load_share

open machine_int arduino charger_message eeprom runs

/-! ## The cutback loop of `loadShare` -/

theorem cutbackRow_toNat (s : State) (row : UInt16 × UInt32) (h : 5000 ≤ row.2.toNat) :
    (cutbackRow loadShare s row).watts.toNat =
      if row.1 < s.volts ∧ row.2.toNat < s.watts.toNat then s.watts.toNat - 5000
      else s.watts.toNat := by
  unfold cutbackRow loadShare
  simp only [gt_iff_lt, UInt32.lt_iff_toNat_lt]
  split
  · rw [UInt32.toNat_sub_of_le _ _ (by
      rw [UInt32.le_iff_toNat_le]
      simp only [UInt32.reduceToNat]
      omega)]
    simp
  · rfl

theorem cutback_limit (rows : List (UInt16 × UInt32)) (s : State) :
    (rows.foldl (cutbackRow loadShare) s).MAX_STATION_WATTS = s.MAX_STATION_WATTS := by
  induction rows generalizing s with
  | nil => rfl
  | cons row rows ih =>
    rw [List.foldl_cons, ih]
    unfold cutbackRow loadShare
    split <;> rfl

theorem cutback_le (rows : List (UInt16 × UInt32)) (hcap : ∀ row ∈ rows, 5000 ≤ row.2.toNat)
    (s : State) : (rows.foldl (cutbackRow loadShare) s).watts.toNat ≤ s.watts.toNat := by
  induction rows generalizing s with
  | nil => exact Nat.le_refl _
  | cons row rows ih =>
    have hrow := cutbackRow_toNat s row (hcap row (by simp))
    have hrest := ih (fun r hr => hcap r (by simp [hr])) (cutbackRow loadShare s row)
    rw [List.foldl_cons]
    split at hrow <;> omega

/-- The rows of a table that a voltage is above. -/
def rowsAbove (volts : UInt16) (rows : List (UInt16 × UInt32)) : Nat :=
  rows.countP (fun row => row.1 < volts)

/-- Far above every cap, each row that the voltage is above takes one ramp step away. -/
theorem cutback_far (rows : List (UInt16 × UInt32)) (cap : Nat)
    (hcap : ∀ row ∈ rows, 5000 ≤ row.2.toNat ∧ row.2.toNat ≤ cap) (s : State)
    (hs : cap + 5000 * rows.length < s.watts.toNat) :
    (rows.foldl (cutbackRow loadShare) s).watts.toNat + 5000 * rowsAbove s.volts rows =
      s.watts.toNat := by
  induction rows generalizing s with
  | nil => simp [rowsAbove]
  | cons row rows ih =>
    obtain ⟨h5, hle⟩ := hcap row (by simp)
    have hrow := cutbackRow_toNat s row h5
    have hvolts : (cutbackRow loadShare s row).volts = s.volts := by
      unfold cutbackRow
      split <;> rfl
    simp only [List.length_cons] at hs
    rw [if_congr (and_iff_left (by omega)) rfl rfl] at hrow
    have hrest := ih (fun r hr => hcap r (by simp [hr])) (cutbackRow loadShare s row) (by
      split at hrow <;> omega)
    rw [hvolts] at hrest
    rw [List.foldl_cons]
    unfold rowsAbove at hrest ⊢
    rw [List.countP_cons]
    by_cases habove : row.1 < s.volts
    · simp only [habove, decide_true, if_true] at hrow ⊢
      omega
    · simp only [habove, decide_false, if_false, Bool.false_eq_true] at hrow ⊢
      omega

theorem loadShare_caps :
    ∀ row ∈ loadShare.rows, 5000 ≤ row.2.toNat ∧ row.2.toNat ≤ 700000 := by
  have hwords : loadShare.rows.all (fun row => decide (5000 ≤ row.2 ∧ row.2 ≤ 700000)) = true := by
    decide
  intro row hrow
  obtain ⟨hlow, hhigh⟩ := of_decide_eq_true (List.all_eq_true.mp hwords row hrow)
  exact ⟨UInt32.le_iff_toNat_le.mp hlow, UInt32.le_iff_toNat_le.mp hhigh⟩

theorem rowsAbove_le (volts : UInt16) : rowsAbove volts loadShare.rows ≤ 5 :=
  List.countP_le_length

/-! ## The power that a cycle starts from -/

/-- The measured power, or the power of the previous cycle when that is higher. -/
theorem measureWatts_toNat (s : State) :
    (measureWatts s).watts.toNat = max s.lastWatts.toNat (s.amps * s.volts).toNat ∧
      (measureWatts s).stationWatts = (measureWatts s).watts + MAX_12V_WATTS := by
  unfold measureWatts
  simp only [UInt32.lt_iff_toNat_lt, UInt16.toNat_toUInt32, and_true]
  split
  · simp only
    omega
  · simp only [UInt16.toNat_toUInt32]
    omega

/-- The ramp and the clamp, on the power that leads to them. Below the reserve the clamp
wraps, and the ramp wraps at the top of the range. -/
theorem ramped_toNat (sk : Sketch) (s : State) :
    (clampToStation (rampUp sk s)).watts.toNat =
      if s.stationWatts.toNat < s.MAX_STATION_WATTS.toNat then
        (s.watts.toNat + sk.RAMP_RATE.toNat) % 2 ^ 32
      else if s.MAX_STATION_WATTS.toNat < s.stationWatts.toNat then
        (s.MAX_STATION_WATTS.toNat + 2 ^ 32 - 7600) % 2 ^ 32
      else s.watts.toNat := by
  have hr : rampUp sk s =
      if s.stationWatts < s.MAX_STATION_WATTS then { s with watts := s.watts + sk.RAMP_RATE }
      else s := rfl
  unfold clampToStation
  rw [hr]
  simp only [UInt32.lt_iff_toNat_lt, gt_iff_lt]
  by_cases hlt : s.stationWatts.toNat < s.MAX_STATION_WATTS.toNat
  · simp only [hlt, if_true]
    rw [if_neg (by omega)]
    simp
  · simp only [hlt, if_false]
    split
    · simp only [MAX_12V_WATTS, UInt32.toNat_sub, UInt32.reduceToNat]
      omega
    · rfl

/-- The power before the stops, from the larger of the two powers that a cycle knows. -/
theorem powered_toNat (sk : Sketch) (s : State) (batch : List Message) :
    let p := max s.watts.toNat (batchAmps batch * batchVolts batch).toNat
    let sum := (p + 7600) % 2 ^ 32
    (powered sk s batch).watts.toNat =
      if sum < s.MAX_STATION_WATTS.toNat then (p + sk.RAMP_RATE.toNat) % 2 ^ 32
      else if s.MAX_STATION_WATTS.toNat < sum then
        (s.MAX_STATION_WATTS.toNat + 2 ^ 32 - 7600) % 2 ^ 32
      else p := by
  intro p sum
  have hp : (measureWatts (drained s batch)).watts.toNat = p := (measureWatts_toNat _).1
  have hmax : (measureWatts (drained s batch)).MAX_STATION_WATTS = s.MAX_STATION_WATTS := by
    rw [measureWatts_frame]
    rfl
  have hsum : (measureWatts (drained s batch)).stationWatts.toNat = sum := by
    rw [(measureWatts_toNat _).2, UInt32.toNat_add, hp]
    rfl
  unfold powered
  rw [ramped_toNat, hp, hmax, hsum]

theorem loadShare_ramp : loadShare.RAMP_RATE.toNat = 5000 := rfl

/-! ## The station limit -/

/-- When the power of a block stays within the limit: the stop of the minimum or of the
maximum voltage is taken, or the limit covers the 12 V reserve. When the power carried over
wraps with the reserve added, the limit holds only if the wrapped sum is below it and the
ramp wraps as well, or lands within it after the cutback. -/
def LimitFits (watts MAX_STATION_WATTS : UInt32) (volts : UInt16) : Prop :=
  volts < loadShare.OUTPUT_VOLTS_MIN ∨ loadShare.OUTPUT_VOLTS_MAX < volts ∨
    if watts.toNat + 7600 < 2 ^ 32 then 7600 ≤ MAX_STATION_WATTS.toNat
    else watts.toNat + 7600 - 2 ^ 32 < MAX_STATION_WATTS.toNat ∧
      (2 ^ 32 ≤ watts.toNat + 5000 ∨
        watts.toNat + 5000 ≤ MAX_STATION_WATTS.toNat + 5000 * rowsAbove volts loadShare.rows)

theorem chooseWatts_limit (s : State) (batch : List Message) :
    (chooseWatts loadShare s batch).MAX_STATION_WATTS = s.MAX_STATION_WATTS := by
  rw [chooseWatts_eq, stopBelowMin_frame]
  unfold cutbackLoop
  simp only
  rw [cutback_limit, stopAboveMax_frame, powered_frame]
  rfl

/-- The block keeps within the limit exactly when `LimitFits` holds before it. -/
theorem block_within_limit_iff (s : State) (batch : List Message) :
    (chooseWatts loadShare s batch).watts ≤ s.MAX_STATION_WATTS ↔
      LimitFits s.watts s.MAX_STATION_WATTS (batchVolts batch) := by
  unfold LimitFits
  by_cases hmin : batchVolts batch < loadShare.OUTPUT_VOLTS_MIN
  · rw [chooseWatts_stopped _ s batch (Or.inl hmin)]
    simp [hmin]
  by_cases hmax : loadShare.OUTPUT_VOLTS_MAX < batchVolts batch
  · rw [chooseWatts_stopped _ s batch (Or.inr hmax)]
    simp [hmax]
  rw [chooseWatts_running _ s batch hmin hmax]
  simp only [hmin, hmax, false_or, UInt32.le_iff_toNat_le]
  unfold cutbackLoop
  have hvolts : (powered loadShare s batch).volts = batchVolts batch := by
    rw [powered_frame]
    rfl
  have hle := cutback_le loadShare.rows (fun row hr => (loadShare_caps row hr).1)
    (powered loadShare s batch)
  have hfar := cutback_far loadShare.rows 700000 loadShare_caps (powered loadShare s batch)
  have hk := rowsAbove_le (batchVolts batch)
  have hlen : loadShare.rows.length = 5 := rfl
  have hpow := powered_toNat loadShare s batch
  have hmeasured := (batchAmps batch * batchVolts batch).toNat_lt
  have hc := s.watts.toNat_lt
  have hM := s.MAX_STATION_WATTS.toNat_lt
  rw [hvolts, hlen] at hfar
  simp only [loadShare_ramp] at hpow
  generalize (powered loadShare s batch).watts.toNat = w at *
  generalize (batchAmps batch * batchVolts batch).toNat = m at *
  generalize rowsAbove (batchVolts batch) loadShare.rows = k at *
  generalize (loadShare.rows.foldl (cutbackRow loadShare) (powered loadShare s batch)).watts.toNat
    = r at *
  by_cases hfit : s.watts.toNat + 7600 < 2 ^ 32
  · have hsum : (max s.watts.toNat m + 7600) % 2 ^ 32 = max s.watts.toNat m + 7600 := by omega
    rw [if_pos hfit]
    rw [hsum] at hpow
    split at hpow
    · omega
    · split at hpow <;> omega
  · have hmax : max s.watts.toNat m = s.watts.toNat := by omega
    have hsum : (s.watts.toNat + 7600) % 2 ^ 32 = s.watts.toNat + 7600 - 2 ^ 32 := by omega
    rw [if_neg hfit]
    rw [hmax, hsum] at hpow
    split at hpow
    · omega
    · split at hpow <;> omega

/-- In a call of `loop` that runs the block, the power ends within the limit. -/
def WithinLimit (s : State) : Event → Prop
  | .MCP2515_ISR => True
  | .loop commands batch => s.flagRecv ≠ 0 →
      (loop loadShare s commands batch).watts ≤
        (loop loadShare s commands batch).MAX_STATION_WATTS

/-- In a call of `loop` that runs the block, the limit that the commands leave fits the power
carried over and the voltage of the batch. -/
def LimitFitsAt (s : State) : Event → Prop
  | .MCP2515_ISR => True
  | .loop commands batch => s.flagRecv ≠ 0 →
      LimitFits s.watts (readCommands loadShare s commands).MAX_STATION_WATTS (batchVolts batch)

theorem readCommands_frame (sk : Sketch) (s : State) (commands : List (List Char)) :
    readCommands sk s commands =
      { s with
        MAX_STATION_WATTS := (readCommands sk s commands).MAX_STATION_WATTS
        EEPROM := (readCommands sk s commands).EEPROM } := by
  unfold readCommands
  induction commands generalizing s with
  | nil => rfl
  | cons text commands ih =>
    have htext : readCommand sk s text =
        { s with
          MAX_STATION_WATTS := (readCommand sk s text).MAX_STATION_WATTS
          EEPROM := (readCommand sk s text).EEPROM } := by
      unfold readCommand
      simp only
      split <;> split <;> rfl
    rw [List.foldl_cons, ih, htext]

theorem flagRecvBlock_frame (sk : Sketch) (s : State) (batch : List Message) :
    flagRecvBlock sk s batch =
      { chooseWatts sk s batch with
        chargingAmps := (flagRecvBlock sk s batch).chargingAmps
        HeartbeatMessage := (flagRecvBlock sk s batch).HeartbeatMessage } := by
  unfold flagRecvBlock
  simp only
  split <;> rfl

/-- A call of `loop` that runs the block, after its commands. -/
theorem loop_of_flag (sk : Sketch) (s : State) (commands : List (List Char))
    (batch : List Message) (h : s.flagRecv ≠ 0) :
    loop sk s commands batch = flagRecvBlock sk (readCommands sk s commands) batch := by
  unfold loop
  rw [if_pos]
  rw [readCommands_frame]
  exact h

theorem loop_of_no_flag (sk : Sketch) (s : State) (commands : List (List Char))
    (batch : List Message) (h : s.flagRecv = 0) :
    loop sk s commands batch = readCommands sk s commands := by
  unfold loop
  rw [if_neg]
  rw [readCommands_frame]
  simpa using h

theorem withinLimit_iff (s : State) (event : Event) :
    WithinLimit s event ↔ LimitFitsAt s event := by
  cases event with
  | MCP2515_ISR => rfl
  | loop commands batch =>
    unfold WithinLimit LimitFitsAt
    refine imp_congr_right (fun hflag => ?_)
    have hwatts : (readCommands loadShare s commands).watts = s.watts := by
      rw [readCommands_frame]
    rw [loop_of_flag _ _ _ _ hflag, flagRecvBlock_frame]
    simp only
    rw [chooseWatts_limit, block_within_limit_iff, hwatts]

/-- In a run from power-up, every cycle keeps its power within the station limit exactly when
`LimitFits` holds before every cycle. -/
theorem every_cycle_is_within_the_limit_iff_the_limit_fits (e : EEPROM) (events : List Event) :
    Always (step loadShare) WithinLimit (setup loadShare e) events ↔
      Always (step loadShare) LimitFitsAt (setup loadShare e) events :=
  always_congr withinLimit_iff _ _

/-- With the limit 0 the clamp wraps below zero, and the power ends far above the limit. -/
theorem a_limit_of_zero_is_not_kept :
    ¬ Always (step loadShare) WithinLimit (setup loadShare ⟨fun _ => 0, 0⟩)
      [.MCP2515_ISR, .loop [] [message 1000 0]] := by
  intro h
  exact absurd (h.2.1 (by decide)) (by decide)

/-- A limit between the reserve and the top of the range, where no sum of the cycle wraps. -/
def LimitCoversReserve (s : State) : Event → Prop
  | .MCP2515_ISR => True
  | .loop commands _ =>
      7600 ≤ (readCommands loadShare s commands).MAX_STATION_WATTS.toNat ∧
        (readCommands loadShare s commands).MAX_STATION_WATTS.toNat ≤ 2 ^ 32 - 5000

instance (s : State) : (event : Event) → Decidable (LimitCoversReserve s event)
  | .MCP2515_ISR => inferInstanceAs (Decidable True)
  | .loop _ _ => inferInstanceAs (Decidable (_ ∧ _))

/-- A cycle leaves room under the limit for the next ramp, or the power at 0. -/
theorem chooseWatts_headroom (s : State) (batch : List Message)
    (hM : 7600 ≤ s.MAX_STATION_WATTS.toNat) (hc : s.watts.toNat + 7600 < 2 ^ 32) :
    (chooseWatts loadShare s batch).watts.toNat + 2600 < s.MAX_STATION_WATTS.toNat := by
  by_cases hmin : batchVolts batch < loadShare.OUTPUT_VOLTS_MIN
  · rw [chooseWatts_stopped _ s batch (Or.inl hmin)]
    simp only [UInt32.toNat_zero]
    omega
  by_cases hmax : loadShare.OUTPUT_VOLTS_MAX < batchVolts batch
  · rw [chooseWatts_stopped _ s batch (Or.inr hmax)]
    simp only [UInt32.toNat_zero]
    omega
  rw [chooseWatts_running _ s batch hmin hmax]
  unfold cutbackLoop
  have hle := cutback_le loadShare.rows (fun row hr => (loadShare_caps row hr).1)
    (powered loadShare s batch)
  have hpow := powered_toNat loadShare s batch
  have hmeasured := (batchAmps batch * batchVolts batch).toNat_lt
  have hlt := s.MAX_STATION_WATTS.toNat_lt
  simp only [loadShare_ramp] at hpow
  generalize (batchAmps batch * batchVolts batch).toNat = m at *
  have hsum : (max s.watts.toNat m + 7600) % 2 ^ 32 = max s.watts.toNat m + 7600 := by omega
  rw [hsum] at hpow
  split at hpow
  · omega
  · split at hpow <;> omega

/-- While every limit in force covers the reserve, no cycle exceeds it, whatever the chargers
report and however the limit moves. -/
theorem limits_that_cover_the_reserve_are_kept (e : EEPROM) (events : List Event)
    (h : Always (step loadShare) LimitCoversReserve (setup loadShare e) events) :
    Always (step loadShare) WithinLimit (setup loadShare e) events := by
  refine (always_of_invariant (I := fun s => s.watts.toNat + 7600 < 2 ^ 32) ?_ ?_ ?_ h).1
  · intro s event hinv hlimit
    rw [withinLimit_iff]
    cases event with
    | MCP2515_ISR => trivial
    | loop commands batch =>
      intro _
      right
      right
      rw [if_pos hinv]
      exact hlimit.1
  · intro s event hinv hlimit
    cases event with
    | MCP2515_ISR => exact hinv
    | loop commands batch =>
      have hwatts : (readCommands loadShare s commands).watts = s.watts := by
        rw [readCommands_frame]
      obtain ⟨h1, h2⟩ := hlimit
      by_cases hflag : s.flagRecv = 0
      · have hsame : (loop loadShare s commands batch).watts = s.watts := by
          rw [loop_of_no_flag _ _ _ _ hflag, hwatts]
        simpa only [step, hsame] using hinv
      · have hroom := chooseWatts_headroom (readCommands loadShare s commands) batch h1
          (by rw [hwatts]; exact hinv)
        simp only [step]
        rw [loop_of_flag _ _ _ _ hflag, flagRecvBlock_frame]
        simp only
        omega
  · unfold setup globals
    simp only
    split <;> simp

/-- Two cycles under the limit of 6.6 kW, and one under the least limit that covers the reserve. -/
theorem a_limit_that_covers_the_reserve_is_kept :
    Always (step loadShare) WithinLimit (setup loadShare ⟨fun _ => 660000, 0⟩)
      [.MCP2515_ISR, .loop [] [message 1000 5], .MCP2515_ISR, .loop [] [message 1000 60],
        .MCP2515_ISR, .loop [['7', '6', '0', '0']] [message 1000 60]] :=
  limits_that_cover_the_reserve_are_kept ⟨fun _ => 660000, 0⟩ _ (by decide)

/-! ## The voltage stop -/

/-- The stop sets the power to 0, but the heartbeat carries `chargingAmps`, which is computed
only from a power above 0. So a stop asks for no current exactly when the cycle before it had
commanded none. -/
theorem a_voltage_stop_reaches_the_chargers_iff_no_current_was_commanded (sk : Sketch)
    (s : State) (commands : List (List Char)) (batch : List Message) (hflag : s.flagRecv ≠ 0)
    (hstop : batchVolts batch < sk.OUTPUT_VOLTS_MIN ∨ sk.OUTPUT_VOLTS_MAX < batchVolts batch) :
    NoCurrent (loop sk s commands batch).HeartbeatMessage ↔ s.chargingAmps = 0 := by
  have hzero := chooseWatts_stopped sk (readCommands sk s commands) batch hstop
  have hamps : (chooseWatts sk (readCommands sk s commands) batch).chargingAmps =
      s.chargingAmps := by
    rw [chooseWatts_frame, readCommands_frame]
    rfl
  rw [loop_of_flag _ _ _ _ hflag, noCurrent_iff]
  unfold flagRecvBlock
  simp only [hzero]
  rw [if_neg (by decide), currentOf_writeCurrent, hamps]

/-- A first cycle at 100.0 V commands 0.5 A. A second one at 117.0 V stops the charger, and
its heartbeat still asks for 0.5 A. -/
theorem a_stop_above_the_maximum_keeps_the_old_current :
    let s := run (step loadShare) (setup loadShare ⟨fun _ => 660000, 0⟩)
      [.MCP2515_ISR, .loop [] [message 1000 0], .MCP2515_ISR]
    s.flagRecv ≠ 0 ∧ loadShare.OUTPUT_VOLTS_MAX < batchVolts [message 1170 0] ∧
      ¬ NoCurrent (loop loadShare s [] [message 1170 0]).HeartbeatMessage := by
  decide +kernel

theorem a_stop_of_a_charger_that_never_started :
    NoCurrent (loop loadShare13kw (MCP2515_ISR (setup loadShare13kw ⟨fun _ => 0, 0⟩)) []
      [message 600 0]).HeartbeatMessage :=
  (a_voltage_stop_reaches_the_chargers_iff_no_current_was_commanded loadShare13kw _ _ _
    (by decide) (by decide)).mpr rfl

end super_charger.load_share
