-- The taper of `v3` at the end voltage: how far the power comes down from call to call, while
-- everything else that `setChargingAmps` of `SC.h` finds is free.
import SuperCharger.Runs
import SuperCharger.V3Frames

namespace super_charger.sc

open machine_int derating runs

variable {t : VoltageTable} {p : Platform}

/-! ## Calls at the end of a charge -/

/-- All that a call of `setChargingAmps` finds but the power, and what C leaves open for it. -/
structure Call where
  found : State
  platform : Platform

/-- What the call leaves, from the power before it. -/
def Call.leaves (call : Call) (t : VoltageTable) (watts : UInt32) : State :=
  setChargingAmps t call.platform { call.found with watts := watts }

def taper (t : VoltageTable) (watts : UInt32) (call : Call) : UInt32 := (call.leaves t watts).watts

/-- The voltage is known and at or above the end voltage, and there is a charger. -/
structure Call.AtEnd (call : Call) : Prop where
  RAMP_RATE : call.found.RAMP_RATE = 5000
  volts : call.found.volts.toInt32.toUInt32 ≥ call.found.OUTPUT_VOLTS_END
  known : call.found.volts ≠ 0
  chargerCount : 1 ≤ call.found.chargerCount.toInt

/-! ## One call -/

theorem rampUp_le (s : State) : (rampUp s).watts.toNat ≤ s.watts.toNat + s.RAMP_RATE.toNat := by
  unfold rampUp
  split
  · exact toNat_add_le _ _
  · exact Nat.le_add_right _ _

theorem voltageCutback_lowers (t : VoltageTable) (p : Platform) (s : State) :
    Lowers s (voltageCutback t p s) := by
  rw [voltageCutback_eq]
  exact ⟨_, cutbackLoop_le _ _ _ _, rfl⟩

/-- The ramp adds to the power, and the three loops only lower it. -/
theorem loops_frame (t : VoltageTable) (p : Platform) (s : State) :
    ∃ watts, watts.toNat ≤ s.watts.toNat + s.RAMP_RATE.toNat ∧
      overTempCutback p (tempCutback p (voltageCutback t p (rampUp s))) =
        { s with watts := watts } := by
  have hramp := rampUp_le s
  obtain ⟨w, hw, hloops⟩ := ((voltageCutback_lowers t p (rampUp s)).trans
    (tempCutback_lowers p _)).trans (overTempCutback_lowers p _)
  have hle := UInt32.le_iff_toNat_le.mp hw
  refine ⟨w, by omega, ?_⟩
  rw [hloops, rampUp_eq]

/-- What the step at the end voltage takes off. -/
def State.taken (s : State) : Nat :=
  if s.volts.toInt32.toUInt32 ≥ s.OUTPUT_VOLTS_END then (s.RAMP_RATE * 3).toNat else 0

theorem endStep_watts (s : State) : (endStep s).watts.toNat = s.watts.toNat - s.taken := by
  have hstep := endStep_toNat (s.volts.toInt32.toUInt32 ≥ s.OUTPUT_VOLTS_END) s.watts s.RAMP_RATE
  unfold State.taken
  rw [← hstep]
  unfold endStep
  split
  · split <;> rfl
  · rfl

/-- At the end voltage a call adds one ramp at most, and takes three off. The sum may wrap, which
leaves less. -/
theorem chooseWatts_le_taper {s : State} (ht : 0 < t.CUTBACK_COUNT)
    (h : s.volts.toInt32.toUInt32 ≥ s.OUTPUT_VOLTS_END) :
    (chooseWatts t p s).watts.toNat ≤
      s.watts.toNat + s.RAMP_RATE.toNat - (s.RAMP_RATE * 3).toNat := by
  obtain ⟨w, hw, hloops⟩ := loops_frame t p s
  have hend := endStep_watts { s with watts := w }
  have htaken : State.taken { s with watts := w } = (s.RAMP_RATE * 3).toNat := if_pos h
  have hstop := UInt32.le_iff_toNat_le.mp (rangeStop_lowers t (endStep { s with watts := w })).le
  rw [htaken] at hend
  rw [chooseWatts_eq_beforeClamp ht, hloops]
  simp only at hend
  omega

/-- A ramp is 5000, so a call brings the power down by 10000. -/
theorem taper_le (ht : 0 < t.CUTBACK_COUNT) (watts : UInt32) (call : Call) (h : call.AtEnd) :
    (taper t watts call).toNat ≤ watts.toNat - 10000 := by
  have hcall := @chooseWatts_le_taper t call.platform { call.found with watts := watts } ht h.volts
  have hone : call.found.RAMP_RATE.toNat = 5000 := by
    rw [h.RAMP_RATE]
    rfl
  have hthree : (call.found.RAMP_RATE * 3).toNat = 15000 := by
    rw [h.RAMP_RATE]
    rfl
  unfold taper Call.leaves
  rw [setChargingAmps_eq]
  simp only at hcall ⊢
  omega

/-- A call that leaves no power leaves no current. -/
theorem leaves_no_current {t : VoltageTable} {watts : UInt32} {call : Call} (h : call.AtEnd)
    (h0 : 0 ≤ call.found.C_RATE.toInt) (hnone : taper t watts call = 0) :
    (call.leaves t watts).chargingAmps = 0 := by
  have hvolts : call.found.volts.toInt ≠ 0 := by
    intro hzero
    exact h.known (Int16.toInt_inj.mp hzero)
  unfold taper Call.leaves at hnone
  rw [setChargingAmps_eq] at hnone
  exact setChargingAmps_of_no_watts hnone (Or.inr h0) hvolts h.chargerCount

end super_charger.sc

namespace super_charger.v3

open runs

/-- No part of the sketch writes the ramp rate. -/
theorem loop_RAMP_RATE (s : State) (i : Input) : (loop s i).RAMP_RATE = s.RAMP_RATE := by
  have hloop := congrArg Bike.RAMP_RATE (loop_bike s i)
  have hframes := congrArg Kept.RAMP_RATE (bikeLoop_kept (written s i.central) i.bike)
  have hwrites := congrArg Bike.RAMP_RATE (written_bike s i.central)
  exact hloop.trans (hframes.trans hwrites)

theorem run_RAMP_RATE (inputs : List Input) : (run loop setup inputs).RAMP_RATE = 5000 := by
  have hstep : ∀ (s : State) i, s.RAMP_RATE = 5000 → (loop s i).RAMP_RATE = 5000 := by
    intro s i hs
    rw [loop_RAMP_RATE]
    exact hs
  exact run_invariant hstep rfl inputs

/-- No run of the sketch changes the ramp rate from 5000. In every series of calls at the end
voltage each call takes 100 W off, as long as there is so much left; a power of 0 stays, and a call
that leaves none leaves no current, unless the C-rate is negative. -/
theorem the_power_tapers_by_a_hundred_watts_at_every_call (watts : UInt32) (calls : List sc.Call)
    (h : ∀ call ∈ calls, call.AtEnd) :
    (∀ inputs, (run loop setup inputs).RAMP_RATE = 5000) ∧
      (run (sc.taper table) watts calls).toNat ≤ watts.toNat - 10000 * calls.length ∧
      Always (sc.taper table) (fun watts call =>
        (watts = 0 → sc.taper table watts call = 0) ∧
          (sc.taper table watts call = 0 → 0 ≤ call.found.C_RATE.toInt →
            (call.leaves table watts).chargingAmps = 0)) watts calls := by
  have ht : 0 < table.CUTBACK_COUNT := by decide
  have hstep := fun watts call => sc.taper_le ht watts call
  refine ⟨run_RAMP_RATE, run_descends hstep h watts, ?_⟩
  apply always_of_inputs
  intro call hcall watts
  refine ⟨?_, fun hnone h0 => sc.leaves_no_current (h call hcall) h0 hnone⟩
  rintro rfl
  have hle := hstep 0 call (h call hcall)
  rw [UInt32.toNat_zero, Nat.zero_sub] at hle
  exact UInt32.toNat_inj.mp (Nat.le_zero.mp hle)

/-- A pack of 96 Ah at 116.4 V on one charger. -/
def fullPack : sc.Call where
  found := { sc.globals table 960 with volts := 1164, chargerCount := 1 }
  platform := derating.zeroPlatform

theorem a_full_pack_gets_two_hundred_watts_less_after_two_calls :
    (run (sc.taper table) 660000 [fullPack, fullPack]).toNat ≤ 640000 :=
  (the_power_tapers_by_a_hundred_watts_at_every_call 660000 [fullPack, fullPack] (by
    intro call hcall
    have hsame : call = fullPack := by simpa using hcall
    rw [hsame]
    exact ⟨rfl, by decide, by decide, by decide⟩)).2.1

end super_charger.v3
