-- The voltage loop of `SC.h` beside the one of `v2.6` that it was extracted from: on which
-- tables and states the two leave the same power.
import SuperCharger.SCCurrent
import SuperCharger.V26Current

namespace super_charger.cutback_loops

open machine_int derating running_min

/-! ## A loop over all rows -/

/-- A loop in which every row applies leaves what a loop with a condition leaves exactly when each
row that the condition leaves out has a cap at or above the power, or the cap of a row that
applies. -/
theorem cutbackLoop_all_eq_iff (count : Nat) (applies : Nat → Bool) (cap : Nat → Int32)
    (watts : UInt32) :
    cutbackLoop count (fun _ => true) cap watts = cutbackLoop count applies cap watts ↔
      ∀ i < count, applies i = false →
        watts ≤ (cap i).toUInt32 ∨
          ∃ j < count, applies j = true ∧ (cap j).toUInt32 ≤ (cap i).toUInt32 := by
  have hall := @lowered_all_eq_iff Nat Nat _ (fun i => applies i = true) _
    (fun i => (cap i).toUInt32.toNat) (List.range count) watts.toNat
  rw [← UInt32.toNat_inj, cutbackLoop_toNat, cutbackLoop_toNat]
  simp only [List.mem_range, Bool.not_eq_true, UInt32.le_iff_toNat_le] at hall ⊢
  exact hall

/-! ## The two sketches -/

/-- The same power, voltage, rates and limit in a state of `v2.6`. -/
def toV26 (s : sc.State) (u : v26.State) : v26.State :=
  { u with
    watts := s.watts
    volts := s.volts
    C_RATE := s.C_RATE
    CPlus := s.CPlus
    MAX_STATION_WATTS := s.MAX_STATION_WATTS }

/-- The cap of a row, as both loops compute it. -/
def rowCap (t : VoltageTable) (p : Platform) (s : sc.State) (i : Nat) : UInt32 :=
  (s.cap (derating.read t.OUTPUT_C_RATE_CUTBACK p.pastVoltsRate i)).toUInt32

/-- On every table, the loop of `SC.h` leaves the power that the loop of `v2.6` leaves exactly when
each row that the voltage does not reach has a cap at or above the power, or at or above the cap
of a row that it reaches. -/
theorem the_voltage_loops_agree_iff (t : VoltageTable) (p : Platform) (s : sc.State)
    (u : v26.State) :
    (sc.voltageCutback t p s).watts = (v26.voltageCutback t p (toV26 s u)).watts ↔
      ∀ i < t.CUTBACK_COUNT, sc.voltsApply t p s i = false →
        s.watts ≤ rowCap t p s i ∨
          ∃ j < t.CUTBACK_COUNT, sc.voltsApply t p s j = true ∧ rowCap t p s j ≤ rowCap t p s i := by
  rw [sc.voltageCutback_eq]
  exact cutbackLoop_all_eq_iff t.CUTBACK_COUNT (sc.voltsApply t p s)
    (fun i => s.cap (derating.read t.OUTPUT_C_RATE_CUTBACK p.pastVoltsRate i)) s.watts

/-- A pack of 96 Ah on the 6.6 kW of a station that is at full power. -/
def fullPower (volts : Int16) : sc.State :=
  { sc.globals v26.table 960 with watts := 660000, volts := volts }

/-- At 80.0 V no row of the table is reached, and the loop of `SC.h` applies all ten. -/
theorem a_row_that_is_not_reached_lowers_the_power :
    (sc.voltageCutback v26.table zeroPlatform (fullPower 800)).watts = 460800 ∧
      (v26.voltageCutback v26.table zeroPlatform
        (toV26 (fullPower 800) (v26.globals v26.usualSettings))).watts = 660000 := by
  decide +kernel

/-- At 116.1 V all ten rows are reached, and the two loops agree. -/
example : (sc.voltageCutback v26.table zeroPlatform (fullPower 1161)).watts =
    (v26.voltageCutback v26.table zeroPlatform
      (toV26 (fullPower 1161) (v26.globals v26.usualSettings))).watts := by
  decide +kernel

end super_charger.cutback_loops
