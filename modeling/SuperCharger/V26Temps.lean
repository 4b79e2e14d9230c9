-- The derating of `v2.6.ino` as the packs get colder and hotter: a call never leaves more
-- power for temperatures that are further out.
import SuperCharger.V26Derating

namespace super_charger.v26

open machine_int derating

/-! ## Temperatures -/

/-- What the packs report. -/
structure Temps where
  monolithMin : Int32
  powerTankMin : Int32
  monolithMax : Int32
  powerTankMax : Int32

def State.temps (s : State) : Temps where
  monolithMin := s.monolithMinTemp
  powerTankMin := s.powerTankMinTemp
  monolithMax := s.monolithMaxTemp
  powerTankMax := s.powerTankMaxTemp

/-- The same state at other temperatures. -/
def State.withTemps (s : State) (temps : Temps) : State :=
  { s with
    monolithMinTemp := temps.monolithMin
    powerTankMinTemp := temps.powerTankMin
    monolithMaxTemp := temps.monolithMax
    powerTankMaxTemp := temps.powerTankMax }

/-- Each minimum is lower or equal, and each maximum is higher or equal. -/
structure FurtherOut (temps outer : Temps) : Prop where
  monolithMin : outer.monolithMin ≤ temps.monolithMin
  powerTankMin : outer.powerTankMin ≤ temps.powerTankMin
  monolithMax : temps.monolithMax ≤ outer.monolithMax
  powerTankMax : temps.powerTankMax ≤ outer.powerTankMax

/-- The refresh does not look at the temperatures. -/
theorem refresh_withTemps (s : State) (temps : Temps) :
    refresh (s.withTemps temps) = (refresh s).withTemps temps := by
  unfold refresh refreshC_RATE refreshVolts State.withTemps
  simp only
  split <;> split <;> split <;> rfl

/-! ## The rows that apply -/

theorem coldApplies_further {s : State} {outer : Temps} (h : FurtherOut s.temps outer)
    (p : Platform) (i : Nat) (happlies : coldApplies p s i = true) :
    coldApplies p (s.withTemps outer) i = true := by
  unfold coldApplies State.withTemps at *
  simp only [decide_eq_true_eq] at *
  rcases happlies with hmonolith | ⟨hAH, htank⟩
  · exact Or.inl (Int32.lt_of_le_of_lt h.monolithMin hmonolith)
  · exact Or.inr ⟨hAH, Int32.lt_of_le_of_lt h.powerTankMin htank⟩

theorem hotApplies_further {s : State} {outer : Temps} (h : FurtherOut s.temps outer)
    (p : Platform) (i : Nat) (happlies : hotApplies p s i = true) :
    hotApplies p (s.withTemps outer) i = true := by
  unfold hotApplies State.withTemps at *
  simp only [decide_eq_true_eq] at *
  rcases happlies with hmonolith | ⟨hAH, htank⟩
  · exact Or.inl (Int32.lt_of_lt_of_le hmonolith h.monolithMax)
  · exact Or.inr ⟨hAH, Int32.lt_of_lt_of_le htank h.powerTankMax⟩

/-! ## The power -/

theorem afterVolts_withTemps (p : Platform) (s : State) (temps : Temps) :
    afterVolts p (s.withTemps temps) = afterVolts p s := by
  unfold afterVolts rampUp State.withTemps
  simp only
  split <;> rfl

/-- Temperatures that are further out leave no more power after the loops. -/
theorem afterLoops_further {s : State} {outer : Temps} (h : FurtherOut s.temps outer)
    (p : Platform) : afterLoops p (s.withTemps outer) ≤ afterLoops p s := by
  unfold afterLoops
  rw [afterVolts_withTemps]
  apply cutbackLoop_mono (hotApplies_further h p)
  exact cutbackLoop_mono (coldApplies_further h p) _ (UInt32.le_refl _)

/-- A colder or hotter state gets no more power. -/
theorem chooseWatts_further {s : State} {outer : Temps} (h : FurtherOut s.temps outer)
    (p : Platform) : (chooseWatts p (s.withTemps outer)).watts ≤ (chooseWatts p s).watts := by
  have hloops := UInt32.le_iff_toNat_le.mp (afterLoops_further h p)
  have hsame : (s.withTemps outer).MAX_STATION_WATTS = s.MAX_STATION_WATTS ∧
      (s.withTemps outer).volts = s.volts ∧ (s.withTemps outer).taken = s.taken := ⟨rfl, rfl, rfl⟩
  rw [UInt32.le_iff_toNat_le, chooseWatts_toNat, chooseWatts_toNat, hsame.1, hsame.2.1, hsame.2.2]
  split
  · exact Nat.le_refl _
  · omega

/-- On every board and in every state, packs that are colder at their coldest and hotter at their
hottest get no more power. -/
theorem colder_and_hotter_packs_get_no_more_power (p : Platform) (s : State) (outer : Temps)
    (h : FurtherOut s.temps outer) :
    (setChargingAmps p (s.withTemps outer)).watts ≤ (setChargingAmps p s).watts := by
  have hrefresh : (refresh s).temps = s.temps := by
    rw [refresh_frame]
    rfl
  have hle := chooseWatts_further (s := refresh s) (by rw [hrefresh]; exact h) p
  rw [setChargingAmps_eq, setChargingAmps_eq, refresh_withTemps]
  simp only
  exact hle

/-- A warm pack of 96 Ah, and the same pack with a cell at 3 degrees. -/
theorem a_cold_cell_lowers_the_power :
    let s := { setup usualSettings with
      watts := 500000, volts := 1000, monolithMinTemp := 25, monolithMaxTemp := 25 }
    (setChargingAmps zeroPlatform (s.withTemps ⟨3, 0, 25, 0⟩)).watts ≤
      (setChargingAmps zeroPlatform s).watts :=
  colder_and_hotter_packs_get_no_more_power zeroPlatform _ ⟨3, 0, 25, 0⟩
    ⟨by decide, by decide, by decide, by decide⟩

end super_charger.v26
