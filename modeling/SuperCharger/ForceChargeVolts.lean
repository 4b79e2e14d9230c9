-- The pack voltage of `basic_force_charge.ino`: what the drain loop makes of the readings of a
-- batch, and where the order of the messages counts.
import SuperCharger.ForceCharge
import Mathlib.Data.List.Induction

namespace super_charger.force_charge

open machine_int arduino charger_message

/-! ## The readings -/

/-- The voltage of a message, in whole volts. -/
def reading (msg : Message) : Nat := (voltageOf msg).toNat / 10

theorem chargerVolts_toNat (msg : Message) : (chargerVolts msg).toNat = reading msg := by
  unfold chargerVolts reading
  rw [UInt16.toNat_div]
  rfl

theorem reading_le (msg : Message) : reading msg ≤ 6553 := by
  have hlt := (voltageOf msg).toNat_lt
  unfold reading
  omega

/-- The readings that are not 0, in the order of their arrival. -/
def nonzero (batch : List Message) : List Nat := (batch.map reading).filter (fun r => r ≠ 0)

theorem nonzero_append (batch : List Message) (msg : Message) :
    nonzero (batch ++ [msg]) = if reading msg = 0 then nonzero batch
      else nonzero batch ++ [reading msg] := by
  unfold nonzero
  rw [List.map_append, List.filter_append]
  by_cases h : reading msg = 0
  · simp [h]
  · simp [h]

/-! ## A running average -/

/-- The first reading, with each later one averaged in. -/
def runningAverage : List Nat → Nat
  | [] => 0
  | first :: later => later.foldl (fun volts r => (volts + r) / 2) first

theorem runningAverage_append {rs : List Nat} (h : rs ≠ []) (r : Nat) :
    runningAverage (rs ++ [r]) = (runningAverage rs + r) / 2 := by
  cases rs with
  | nil => exact absurd rfl h
  | cons first later =>
    unfold runningAverage
    rw [List.cons_append]
    simp only
    rw [List.foldl_append]
    rfl

/-- It is between two of the readings. -/
theorem runningAverage_between {rs : List Nat} (h : rs ≠ []) :
    (∃ r ∈ rs, r ≤ runningAverage rs) ∧ ∃ r ∈ rs, runningAverage rs ≤ r := by
  induction rs using List.reverseRecOn with
  | nil => exact absurd rfl h
  | append_singleton rs last ih =>
    cases rs with
    | nil => exact ⟨⟨last, by simp, Nat.le_refl _⟩, ⟨last, by simp, Nat.le_refl _⟩⟩
    | cons first later =>
      have hne : first :: later ≠ [] := List.cons_ne_nil _ _
      obtain ⟨⟨low, hlow, hbelow⟩, high, hhigh, habove⟩ := ih hne
      have hlast : last ∈ first :: later ++ [last] := by simp
      rw [runningAverage_append hne]
      constructor
      · by_cases hle : low ≤ last
        · exact ⟨low, List.mem_append_left _ hlow, by omega⟩
        · exact ⟨last, hlast, by omega⟩
      · by_cases hle : last ≤ high
        · exact ⟨high, List.mem_append_left _ hhigh, by omega⟩
        · exact ⟨last, hlast, by omega⟩

/-! ## The drain loop -/

theorem drain_append (batch : List Message) (msg : Message) :
    drain (batch ++ [msg]) = receive (drain batch) msg := by
  unfold drain
  rw [List.foldl_append]
  rfl

/-- The count of a batch, as long as it does not wrap. -/
theorem drain_count {batch : List Message} (h : batch.length < 32768) :
    (drain batch).chargerCount.toInt = batch.length := by
  induction batch using List.reverseRecOn with
  | nil => rfl
  | append_singleton batch msg ih =>
    rw [List.length_append, List.length_singleton] at h ⊢
    have hbefore := ih (by omega)
    have hcount : (receive (drain batch) msg).chargerCount = (drain batch).chargerCount + 1 := by
      unfold receive
      simp only
      split
      · split <;> rfl
      · rfl
    rw [drain_append, hcount, toInt16_succ (by omega), hbefore]
    omega

/-- What a turn of the loop makes of the voltage. -/
theorem receive_volts (d : Drained) (msg : Message) :
    (receive d msg).volts =
      if chargerVolts msg > 0 then
        if d.chargerCount + 1 > 1 then (d.volts + chargerVolts msg) / MAX_CHARGERS_PER_STATION
        else d.volts + chargerVolts msg
      else d.volts := by
  unfold receive
  simp only
  split
  · split <;> rfl
  · rfl

/-- A later message averages its reading in, unless it is 0. -/
theorem receive_later {d : Drained} {msg : Message} (hcount : 1 ≤ d.chargerCount.toInt)
    (hroom : d.chargerCount.toInt < 32767) (hvolts : d.volts.toNat ≤ 6553) :
    (receive d msg).volts.toNat =
      if reading msg = 0 then d.volts.toNat else (d.volts.toNat + reading msg) / 2 := by
  have hreading := chargerVolts_toNat msg
  have hle := reading_le msg
  have hnext := toInt16_succ (x := d.chargerCount) (by omega)
  have hmany : d.chargerCount + 1 > 1 := by
    have hone : (1 : Int16).toInt = 1 := rfl
    rw [gt_iff_lt, Int16.lt_iff_toInt_lt]
    omega
  have htwo : MAX_CHARGERS_PER_STATION.toNat = 2 := rfl
  rw [receive_volts, if_pos hmany]
  by_cases hzero : reading msg = 0
  · have hnone : ¬ chargerVolts msg > 0 := by
      rw [gt_iff_lt, UInt16.lt_iff_toNat_lt, hreading, hzero]
      exact Nat.lt_irrefl 0
    rw [if_neg hnone, if_pos hzero]
  · have hsome : chargerVolts msg > 0 := by
      rw [gt_iff_lt, UInt16.lt_iff_toNat_lt, hreading]
      exact Nat.pos_of_ne_zero hzero
    rw [if_pos hsome, if_neg hzero, UInt16.toNat_div, UInt16.toNat_add, hreading, htwo,
      Nat.mod_eq_of_lt (by omega)]

/-- The first message of a batch gives the voltage as it is. -/
theorem drain_first (msg : Message) : (drain [msg]).volts.toNat = reading msg := by
  have hone : ¬ (0 : Int16) + 1 > 1 := by decide
  have hreading := chargerVolts_toNat msg
  change (receive ⟨0, 0, 0⟩ msg).volts.toNat = reading msg
  rw [receive_volts, if_neg hone, UInt16.zero_add]
  split
  · exact hreading
  · rename_i hnone
    rw [gt_iff_lt, UInt16.lt_iff_toNat_lt, hreading] at hnone
    exact (Nat.eq_zero_of_not_pos hnone).symm

/-- When the first reading is not 0, the loop takes the running average of those that are not. -/
theorem drain_volts {first : Message} (hfirst : reading first ≠ 0) {later : List Message}
    (hlen : (first :: later).length < 32768) :
    (drain (first :: later)).volts.toNat = runningAverage (nonzero (first :: later)) := by
  have hsingle : nonzero [first] = [reading first] := by simp [nonzero, hfirst]
  induction later using List.reverseRecOn with
  | nil =>
    rw [drain_first, hsingle]
    rfl
  | append_singleton later msg ih =>
    have hsplit : first :: (later ++ [msg]) = (first :: later) ++ [msg] := rfl
    rw [hsplit, List.length_append, List.length_singleton] at hlen
    have hbefore := ih (by omega)
    have hcount : (drain (first :: later)).chargerCount.toInt = (first :: later).length :=
      drain_count (by omega)
    have hsome : nonzero (first :: later) ≠ [] := by
      unfold nonzero
      simp [hfirst]
    -- the voltage so far is at most one of the readings, so the sum does not wrap
    obtain ⟨_, high, hhigh, habove⟩ := runningAverage_between hsome
    have hbound : high ≤ 6553 := by
      unfold nonzero at hhigh
      obtain ⟨hmem, _⟩ := List.mem_filter.mp hhigh
      obtain ⟨m, _, rfl⟩ := List.mem_map.mp hmem
      exact reading_le m
    rw [List.length_cons] at hcount hlen
    rw [hsplit, drain_append, receive_later (by omega) (by omega) (by omega), hbefore,
      nonzero_append]
    split
    · rfl
    · exact (runningAverage_append hsome _).symm

/-- For fewer than 32768 messages of which the first has a reading that is not 0, the voltage is
that reading with each later one that is not 0 averaged in, in the order of their arrival. It is
between two of them, and for two readings it does not depend on their order. -/
theorem the_pack_voltage_is_a_running_average (first : Message) (later : List Message)
    (hfirst : reading first ≠ 0) (hlen : (first :: later).length < 32768) :
    (drain (first :: later)).volts.toNat = runningAverage (nonzero (first :: later)) ∧
    (∃ r ∈ nonzero (first :: later), r ≤ (drain (first :: later)).volts.toNat) ∧
    (∃ r ∈ nonzero (first :: later), (drain (first :: later)).volts.toNat ≤ r) ∧
    ∀ second, reading second ≠ 0 →
      (drain [first, second]).volts = (drain [second, first]).volts := by
  have hvolts := drain_volts hfirst hlen
  have hsome : nonzero (first :: later) ≠ [] := by
    unfold nonzero
    simp [hfirst]
  obtain ⟨hlow, hhigh⟩ := runningAverage_between hsome
  rw [hvolts]
  refine ⟨rfl, hlow, hhigh, ?_⟩
  intro second hsecond
  have hpair : ∀ a b : Message, reading a ≠ 0 → reading b ≠ 0 →
      (drain [a, b]).volts.toNat = (reading a + reading b) / 2 := by
    intro a b ha hb
    have hboth : nonzero [a, b] = [reading a, reading b] := by simp [nonzero, ha, hb]
    rw [drain_volts ha (by simp), hboth]
    rfl
  apply UInt16.toNat_inj.mp
  rw [hpair first second hfirst hsecond, hpair second first hsecond hfirst, Nat.add_comm]

/-- The same three readings in two orders: 117 V, where the heartbeat stops the charge, and
114 V, where it does not. A first message without a voltage halves the reading of the second. -/
theorem the_order_of_three_readings_counts :
    let batch := [message 1100 0, message 1180 0, message 1200 0]
    (drain batch).volts = 117 ∧ (drain batch.reverse).volts = 114 ∧
      (drain batch).volts > OUTPUT_VOLTAGE_MAX ∧
      ¬ (drain batch.reverse).volts > OUTPUT_VOLTAGE_MAX ∧
      (drain [message 0 0, message 1100 0]).volts = 55 := by
  decide +kernel

/-- A charger that reports no voltage in between. -/
theorem the_pack_voltage_of_three_chargers :
    (drain [message 1100 0, message 0 0, message 1160 0]).volts.toNat =
      runningAverage (nonzero [message 1100 0, message 0 0, message 1160 0]) :=
  (the_pack_voltage_is_a_running_average (message 1100 0) [message 0 0, message 1160 0]
    (by decide) (by decide)).1

end super_charger.force_charge
