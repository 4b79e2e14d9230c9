-- The products and the divisions of the load-share loop: when the measured
-- power is exact, that no divisor is 0, and what the chargers' shares come to.
import SuperCharger.LoadShareLimit
import Mathlib.Algebra.Order.BigOperators.Group.List
import Mathlib.Algebra.Group.Action.Defs
import Mathlib.Algebra.Order.Ring.Nat
import Mathlib.Tactic.Ring

namespace super_charger.load_share

open machine_int arduino charger_message

/-- The `OUTPUT_AMPS_MAX` of both sketches, which no code of theirs reads. -/
def OUTPUT_AMPS_MAX : UInt16 := 320

/-! ## The sums of a batch -/

def totalVolts (batch : List Message) : Nat := (batch.map (fun msg => (voltageOf msg).toNat)).sum

def totalAmps (batch : List Message) : Nat := (batch.map (fun msg => (currentOf msg).toNat)).sum

theorem sum_map_le (f : Message → Nat) {bound : Nat} {batch : List Message}
    (h : ∀ msg ∈ batch, f msg ≤ bound) : (batch.map f).sum ≤ batch.length * bound := by
  have hsum := List.sum_le_card_nsmul (batch.map f) bound (by
    intro x hx
    obtain ⟨msg, hmsg, rfl⟩ := List.mem_map.mp hx
    exact h msg hmsg)
  rwa [List.length_map, smul_eq_mul] at hsum

theorem batchAmps_toNat {batch : List Message} (h : totalAmps batch < 2 ^ 16) :
    (batchAmps batch).toNat = totalAmps batch := by
  unfold totalAmps at h
  unfold batchAmps totalAmps
  rw [toNat_foldl_add currentOf batch 0 (by simpa using h), UInt16.toNat_zero, Nat.zero_add]

/-- The count of a batch, as long as it does not wrap. -/
theorem batchCount_toInt {batch : List Message} (h : batch.length < 32768) :
    (batchCount batch).toInt = batch.length := by
  have hzero : (0 : Int16).toInt = 0 := rfl
  unfold batchCount
  rw [toInt_foldl_succ batch 0 (by omega), hzero, Int.zero_add]

theorem one_lt_batchCount {batch : List Message} (h : batch.length < 32768) :
    1 < batchCount batch ↔ 1 < batch.length := by
  have hcount := batchCount_toInt h
  have hone : (1 : Int16).toInt = 1 := rfl
  rw [Int16.lt_iff_toInt_lt]
  omega

/-- The voltage of a batch whose sum does not wrap is its sum over its length. -/
theorem batchVolts_toNat {batch : List Message} (hlen : batch.length < 32768)
    (h : totalVolts batch < 2 ^ 16) :
    (batchVolts batch).toNat = totalVolts batch / batch.length := by
  have hsum := toNat_foldl_add voltageOf batch 0 (by simpa [totalVolts] using h)
  rw [UInt16.toNat_zero, Nat.zero_add] at hsum
  have hcount := batchCount_toInt hlen
  unfold batchVolts
  simp only [gt_iff_lt, one_lt_batchCount hlen]
  split
  · have hdivisor := toNat_toUInt16_of_nonneg (x := batchCount batch) (by omega)
    have hsame : (batchCount batch).toUInt16.toNat = batch.length := by omega
    rw [UInt16.toNat_div, hsum, hsame]
    rfl
  · rename_i hfew
    rw [hsum]
    unfold totalVolts
    cases batch with
    | nil => rfl
    | cons msg batch =>
      have hone : (msg :: batch).length = 1 := by
        rw [List.length_cons] at hfew ⊢
        omega
      rw [hone, Nat.div_one]

/-! ## The measured power -/

/-- What the block assigns in `watts = (amps * volts)`. -/
def assignedWatts (s : State) : UInt32 := (s.amps * s.volts).toUInt32

theorem measureWatts_assigned (s : State) :
    (measureWatts s).watts =
      if assignedWatts s < s.lastWatts then s.lastWatts else assignedWatts s := by
  unfold measureWatts assignedWatts
  simp only
  split <;> rfl

theorem toNat_assignedWatts (s : State) :
    (assignedWatts s).toNat = s.amps.toNat * s.volts.toNat % 2 ^ 16 := by
  unfold assignedWatts
  rw [UInt16.toNat_toUInt32, UInt16.toNat_mul]

/-- For at most three chargers in their range, the measured power is the product of the summed
amperes and the averaged volts exactly when that product fits 16 bits. -/
theorem the_measured_power_is_exact_iff_it_fits_16_bits (sk : Sketch)
    (hsk : sk ∈ [loadShare, loadShare13kw]) (s : State) (batch : List Message)
    (hlen : batch.length ≤ 3)
    (hread : ∀ msg ∈ batch, voltageOf msg ≤ sk.OUTPUT_VOLTS_MAX ∧ currentOf msg ≤ OUTPUT_AMPS_MAX) :
    (assignedWatts (averageVolts (batch.foldl receive (startCycle s)))).toNat =
        totalAmps batch * (totalVolts batch / batch.length) ↔
      totalAmps batch * (totalVolts batch / batch.length) < 2 ^ 16 := by
  have hmax : sk.OUTPUT_VOLTS_MAX = 1164 := by
    simp only [List.mem_cons, List.not_mem_nil, or_false] at hsk
    rcases hsk with rfl | rfl <;> rfl
  have hvolts : totalVolts batch ≤ batch.length * 1164 := by
    apply sum_map_le
    intro msg hmsg
    have hle := UInt16.le_iff_toNat_le.mp (hread msg hmsg).1
    rw [hmax] at hle
    exact hle
  have hamps : totalAmps batch ≤ batch.length * 320 := by
    apply sum_map_le
    intro msg hmsg
    exact UInt16.le_iff_toNat_le.mp (hread msg hmsg).2
  rw [averageVolts_drain, toNat_assignedWatts]
  change (batchAmps batch).toNat * (batchVolts batch).toNat % 2 ^ 16 = _ ↔ _
  rw [batchAmps_toNat (by omega), batchVolts_toNat (by omega) (by omega)]
  omega

/-- One charger at 100.0 V and 10.0 A: 1000 W are measured as 344.64 W. -/
theorem the_measured_power_wraps :
    let batch := [message 1000 100]
    voltageOf (message 1000 100) ≤ loadShare.OUTPUT_VOLTS_MAX ∧
      currentOf (message 1000 100) ≤ OUTPUT_AMPS_MAX ∧
      totalAmps batch * (totalVolts batch / batch.length) = 100000 ∧
      (assignedWatts (averageVolts (batch.foldl receive
        (startCycle (setup loadShare ⟨fun _ => 660000, 0⟩))))).toNat = 34464 := by
  decide +kernel

/-- Two chargers at 100.0 V and 3.0 A are measured exactly. -/
theorem the_measured_power_of_a_slow_charge :
    (assignedWatts (averageVolts ([message 1000 30, message 1000 30].foldl receive
      (startCycle (setup loadShare ⟨fun _ => 660000, 0⟩))))).toNat =
        totalAmps [message 1000 30, message 1000 30] *
          (totalVolts [message 1000 30, message 1000 30] /
            [message 1000 30, message 1000 30].length) := by
  have hread : ∀ msg ∈ [message 1000 30, message 1000 30],
      voltageOf msg ≤ loadShare.OUTPUT_VOLTS_MAX ∧ currentOf msg ≤ OUTPUT_AMPS_MAX := by
    intro msg hmsg
    simp only [List.mem_cons, List.not_mem_nil, or_false, or_self] at hmsg
    rw [hmsg, voltageOf_message, currentOf_message]
    decide
  exact (the_measured_power_is_exact_iff_it_fits_16_bits loadShare List.mem_cons_self _ _
    (by decide) hread).mpr (by decide)

/-! ## The divisions -/

/-- A division that fails when the divisor is 0. -/
def divide {α : Type} [Div α] [OfNat α 0] [DecidableEq α] (a b : α) : Option α :=
  if b = 0 then none else some (a / b)

theorem divide_of_ne {α : Type} [Div α] [OfNat α 0] [DecidableEq α] {a b : α} (h : b ≠ 0) :
    divide a b = some (a / b) := if_neg h

/-- `averageVolts`, with a division that can fail. -/
def averageVoltsOrFail (s : State) : Option State :=
  if s.chargerCount > 1 then
    (divide s.volts s.chargerCount.toUInt16).map (fun volts => { s with volts := volts })
  else some s

/-- `setChargingAmps`, with divisions that can fail. -/
def setChargingAmpsOrFail (s : State) : Option State := do
  let perVolt ← divide s.watts s.volts.toUInt32
  let share ← divide perVolt s.chargerCount.toInt32.toUInt32
  return { s with chargingAmps := share.toUInt16 }

/-- `loop`, with divisions that can fail. What it prints at its end is left out. -/
def loopOrFail (sk : Sketch) (s : State) (commands : List (List Char)) (batch : List Message) :
    Option State := do
  let s := readCommands sk s commands
  if s.flagRecv = 0 then return s
  let s ← averageVoltsOrFail (batch.foldl receive (startCycle s))
  let s := stopBelowMin sk
    (cutbackLoop sk (stopAboveMax sk (clampToStation (rampUp sk (measureWatts s)))))
  let s ← if s.watts > 0 then setChargingAmpsOrFail s else some s
  return { s with HeartbeatMessage := writeCurrent s.HeartbeatMessage s.chargingAmps }

/-- The average is taken over a count above 1, and so not over 0. -/
theorem averageVoltsOrFail_eq (s : State) : averageVoltsOrFail s = some (averageVolts s) := by
  unfold averageVoltsOrFail averageVolts
  split
  · rename_i hmany
    have hcount := Int16.lt_iff_toInt_lt.mp hmany
    have hone : (1 : Int16).toInt = 1 := rfl
    have hnat := toNat_toUInt16_of_nonneg (x := s.chargerCount) (by omega)
    have hne : s.chargerCount.toUInt16 ≠ 0 := by
      intro h
      rw [h] at hnat
      have hzero : (0 : UInt16).toNat = 0 := rfl
      omega
    rw [divide_of_ne hne]
    rfl
  · rfl

theorem toNat_count {n : Int16} (h : 0 ≤ n.toInt) :
    (n.toInt32.toUInt32.toNat : Int) = n.toInt := by
  have hint : n.toInt32.toInt = n.toInt := Int16.toInt_toInt32 n
  rw [toNat_toUInt32_of_nonneg (by omega), hint]

theorem setChargingAmpsOrFail_eq {s : State} (hvolts : 1 ≤ s.volts) (hcount : 1 ≤ s.chargerCount) :
    setChargingAmpsOrFail s = some (setChargingAmps s) := by
  have hv := UInt16.le_iff_toNat_le.mp hvolts
  have hc := Int16.le_iff_toInt_le.mp hcount
  have hone : (1 : UInt16).toNat = 1 ∧ (1 : Int16).toInt = 1 ∧ (0 : UInt32).toNat = 0 :=
    ⟨rfl, rfl, rfl⟩
  have hnat := toNat_count (n := s.chargerCount) (by omega)
  have hvne : s.volts.toUInt32 ≠ 0 := by
    intro h
    have hnum := congrArg UInt32.toNat h
    rw [UInt16.toNat_toUInt32] at hnum
    omega
  have hcne : s.chargerCount.toInt32.toUInt32 ≠ 0 := by
    intro h
    rw [h] at hnat
    omega
  unfold setChargingAmpsOrFail
  rw [divide_of_ne hvne, Option.bind_eq_bind, Option.bind_some, divide_of_ne hcne]
  rfl

/-- A power above 0 comes from a batch with a voltage in the window, and so with a message. -/
theorem powered_batch {sk : Sketch} (hmin : 0 < sk.OUTPUT_VOLTS_MIN) {s : State}
    {batch : List Message} (hlen : batch.length < 32768)
    (h : 0 < (chooseWatts sk s batch).watts) :
    sk.OUTPUT_VOLTS_MIN ≤ (chooseWatts sk s batch).volts ∧
      1 ≤ (chooseWatts sk s batch).chargerCount := by
  have hvolts : sk.OUTPUT_VOLTS_MIN ≤ batchVolts batch := by
    apply UInt16.not_lt.mp
    intro hlow
    rw [chooseWatts_stopped sk s batch (Or.inl hlow)] at h
    exact absurd h (by decide)
  have hcount := batchCount_toInt hlen
  have hone : (1 : Int16).toInt = 1 := rfl
  rw [chooseWatts_frame]
  refine ⟨hvolts, Int16.le_iff_toInt_le.mpr ?_⟩
  change (1 : Int16).toInt ≤ (batchCount batch).toInt
  cases batch with
  | nil =>
    have hzero : batchVolts [] = 0 := rfl
    rw [hzero] at hvolts
    exact absurd hmin (UInt16.not_lt.mpr hvolts)
  | cons msg batch =>
    rw [List.length_cons] at hcount
    omega

/-- In whatever state, with fewer than 32768 messages, `setChargingAmps` is called with a voltage
of at least the minimum and with a charger, only a count above 1 reaches the average, and `loop`
with divisions that can fail does what `loop` does. -/
theorem loop_never_divides_by_zero (s : State) (commands : List (List Char))
    (batch : List Message) (hlen : batch.length < 32768) :
    (s.flagRecv ≠ 0 →
      0 < (chooseWatts loadShare (readCommands loadShare s commands) batch).watts →
      loadShare.OUTPUT_VOLTS_MIN ≤
          (chooseWatts loadShare (readCommands loadShare s commands) batch).volts ∧
        1 ≤ (chooseWatts loadShare (readCommands loadShare s commands) batch).chargerCount) ∧
    (averageVolts (batch.foldl receive (startCycle s)) ≠ batch.foldl receive (startCycle s) →
      1 < (batch.foldl receive (startCycle s)).chargerCount) ∧
    loopOrFail loadShare s commands batch = some (loop loadShare s commands batch) := by
  have hmin : 0 < loadShare.OUTPUT_VOLTS_MIN := by decide
  refine ⟨fun _ h => powered_batch hmin hlen h, ?_, ?_⟩
  · intro h
    by_contra hfew
    exact h (if_neg hfew)
  · unfold loopOrFail loop
    simp only
    by_cases hflag : (readCommands loadShare s commands).flagRecv = 0
    · rw [if_pos hflag, if_neg (not_not.mpr hflag)]
      rfl
    · rw [if_neg hflag, if_pos hflag, averageVoltsOrFail_eq, Option.bind_eq_bind, Option.bind_some]
      have hblock := powered_batch (s := readCommands loadShare s commands) hmin hlen
      unfold flagRecvBlock
      unfold chooseWatts at hblock ⊢
      simp only at hblock ⊢
      generalize stopBelowMin loadShare (cutbackLoop loadShare (stopAboveMax loadShare
        (clampToStation (rampUp loadShare (measureWatts (averageVolts (batch.foldl receive
          (startCycle (readCommands loadShare s commands)))))))))
        = t at *
      by_cases hpower : t.watts > 0
      · obtain ⟨hvolts, hcount⟩ := hblock hpower
        have hmin : (1 : UInt16) ≤ loadShare.OUTPUT_VOLTS_MIN := by decide
        rw [if_pos hpower, if_pos hpower,
          setChargingAmpsOrFail_eq (UInt16.le_trans hmin hvolts) hcount]
        rfl
      · rw [if_neg hpower, if_neg hpower]
        rfl

/-- A cycle with a power left from the one before it. -/
def powered5000 : State :=
  { setup loadShare ⟨fun _ => 660000, 0⟩ with watts := 5000, flagRecv := 1 }

/-- An empty batch divides by nothing. Two chargers at 100.0 V and 101.0 V are averaged, and share
the ramped power. -/
theorem a_pair_of_chargers_shares_what_an_empty_batch_does_not :
    loopOrFail loadShare powered5000 [] [] = some (loop loadShare powered5000 [] []) ∧
    (loop loadShare powered5000 [] []).watts = 0 ∧
    loopOrFail loadShare powered5000 [] [message 1000 0, message 1010 0] =
      some (loop loadShare powered5000 [] [message 1000 0, message 1010 0]) ∧
    (loop loadShare powered5000 [] [message 1000 0, message 1010 0]).volts = 1005 ∧
    (loop loadShare powered5000 [] [message 1000 0, message 1010 0]).chargingAmps = 4 ∧
    1 ≤ (chooseWatts loadShare (readCommands loadShare powered5000 [])
      [message 1000 0, message 1010 0]).chargerCount := by
  refine ⟨?_, by decide +kernel, ?_, by decide +kernel, by decide +kernel, ?_⟩
  · exact (loop_never_divides_by_zero powered5000 [] [] (by decide)).2.2
  · exact (loop_never_divides_by_zero powered5000 [] _ (by decide)).2.2
  · exact ((loop_never_divides_by_zero powered5000 [] _ (by decide)).1 (by decide +kernel)
      (by decide +kernel)).2

/-! ## The shares -/

/-- What `setChargingAmps` computes: the share of each charger at this voltage, in 16 bits. -/
theorem setChargingAmps_toNat {s : State} (hcount : 1 ≤ s.chargerCount) :
    (setChargingAmps s).chargingAmps.toNat =
      s.watts.toNat / (s.volts.toNat * s.chargerCount.toInt.toNat) % 2 ^ 16 := by
  have hc := Int16.le_iff_toInt_le.mp hcount
  have hone : (1 : Int16).toInt = 1 := rfl
  have hnat := toNat_count (n := s.chargerCount) (by omega)
  have hsame : s.chargerCount.toInt32.toUInt32.toNat = s.chargerCount.toInt.toNat := by omega
  unfold setChargingAmps
  simp only
  rw [UInt32.toNat_toUInt16, UInt32.toNat_div, UInt32.toNat_div, UInt16.toNat_toUInt32, hsame,
    Nat.div_div_eq_div_mul]

/-- The chargers' shares never come to more than the power. When a share fits 16 bits less than
one more ampere step for all of them is left over, and the heartbeat carries the share. -/
theorem the_shares_add_up_to_the_power (s : State) (hvolts : 1 ≤ s.volts)
    (hcount : 1 ≤ s.chargerCount) :
    (setChargingAmps s).chargingAmps.toNat * s.chargerCount.toInt.toNat * s.volts.toNat ≤
        s.watts.toNat ∧
    (s.watts.toNat / (s.volts.toNat * s.chargerCount.toInt.toNat) ≤ 65535 →
      s.watts.toNat -
          (setChargingAmps s).chargingAmps.toNat * s.chargerCount.toInt.toNat * s.volts.toNat <
        s.volts.toNat * s.chargerCount.toInt.toNat) ∧
    currentOf (writeCurrent s.HeartbeatMessage (setChargingAmps s).chargingAmps) =
      (setChargingAmps s).chargingAmps := by
  have hv := UInt16.le_iff_toNat_le.mp hvolts
  have hc := Int16.le_iff_toInt_le.mp hcount
  have hone : (1 : UInt16).toNat = 1 ∧ (1 : Int16).toInt = 1 := ⟨rfl, rfl⟩
  rw [setChargingAmps_toNat hcount]
  have hpos : 0 < s.volts.toNat * s.chargerCount.toInt.toNat := Nat.mul_pos (by omega) (by omega)
  have hdiv := Nat.div_add_mod s.watts.toNat (s.volts.toNat * s.chargerCount.toInt.toNat)
  have hrest := Nat.mod_lt s.watts.toNat hpos
  have hassoc : ∀ share, share * s.chargerCount.toInt.toNat * s.volts.toNat =
      (s.volts.toNat * s.chargerCount.toInt.toNat) * share := by
    intro share
    ring
  rw [hassoc]
  refine ⟨?_, ?_, currentOf_writeCurrent _ _⟩
  · calc s.volts.toNat * s.chargerCount.toInt.toNat *
          (s.watts.toNat / (s.volts.toNat * s.chargerCount.toInt.toNat) % 2 ^ 16)
        ≤ s.volts.toNat * s.chargerCount.toInt.toNat *
          (s.watts.toNat / (s.volts.toNat * s.chargerCount.toInt.toNat)) :=
          Nat.mul_le_mul_left _ (Nat.mod_le _ _)
      _ ≤ s.watts.toNat := Nat.mul_div_le _ _
  · intro hfits
    rw [Nat.mod_eq_of_lt (by omega)]
    omega

/-- 6600 W over three chargers at 110.0 V is 20.0 A each. -/
theorem the_shares_of_three_chargers :
    currentOf (writeCurrent defaultHeartbeat
      (setChargingAmps { globals ⟨fun _ => 0, 0⟩ with
        watts := 660000, volts := 1100, chargerCount := 3 }).chargingAmps) =
      (setChargingAmps { globals ⟨fun _ => 0, 0⟩ with
        watts := 660000, volts := 1100, chargerCount := 3 }).chargingAmps :=
  (the_shares_add_up_to_the_power { globals ⟨fun _ => 0, 0⟩ with
    watts := 660000, volts := 1100, chargerCount := 3 } (by decide) (by decide)).2.2

end super_charger.load_share
