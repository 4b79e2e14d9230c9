-- The end voltage of `v2.5`: the commands are checked against the range of the battery,
-- what `setup` reads from the EEPROM is not.
import SuperCharger.V25Settings

namespace super_charger.v25

open machine_int eeprom EEPROMClassEx runs

/-! ## The range -/

/-- The range of the battery. -/
structure EndInRange (volts : UInt32) : Prop where
  low : OUTPUT_VOLTS_MIN.toInt32.toUInt32 ≤ volts
  high : volts ≤ OUTPUT_VOLTS_MAX.toInt32.toUInt32

/-- A command in range brings the end voltage into range, and no other command moves it. -/
theorem applyCommand_endInRange (s : State) (c : Command) :
    EndInRange (applyCommand s c).OUTPUT_VOLTS_END ↔
      EndInRange s.OUTPUT_VOLTS_END ∨ c.InRange := by
  rw [applyCommand_eq]
  simp only
  by_cases hrange : c.InRange
  · rw [if_pos hrange]
    exact ⟨fun _ => Or.inr hrange, fun _ => ⟨hrange.1, hrange.2⟩⟩
  · rw [if_neg hrange]
    simp [hrange]

theorem loop_endInRange (sk : Sketch) (s : State) (i : Input) :
    EndInRange (loop sk s i).OUTPUT_VOLTS_END ↔
      EndInRange s.OUTPUT_VOLTS_END ∨ ∃ c ∈ commands i.serial, c.InRange := by
  have hkept : (loop sk s i).OUTPUT_VOLTS_END = (readCommands s i.serial).OUTPUT_VOLTS_END :=
    congrArg Kept.OUTPUT_VOLTS_END (loop_kept sk s i)
  rw [hkept]
  exact run_latch (R := fun u => EndInRange u.OUTPUT_VOLTS_END) applyCommand_endInRange s
    (commands i.serial)

/-! ## The taper -/

/-- The voltage is one at which `endStep` slows the charge. -/
def Tapers (s : State) (volts : Int16) : Prop := volts.toInt32.toUInt32 > s.OUTPUT_VOLTS_END

/-- With an end voltage in range the charge slows at every voltage above the maximum. -/
theorem tapers_of_endInRange {s : State} (h : EndInRange s.OUTPUT_VOLTS_END) {volts : Int16}
    (hv : volts > OUTPUT_VOLTS_MAX) : Tapers s volts := by
  have hmax : OUTPUT_VOLTS_MAX.toInt = 1164 := rfl
  have hend := UInt32.le_iff_toNat_le.mp h.high
  have hword : OUTPUT_VOLTS_MAX.toInt32.toUInt32.toNat = 1164 := by decide
  rw [gt_iff_lt, Int16.lt_iff_toInt_lt, hmax] at hv
  have hnat := toNat_toUInt32_of_nonneg (x := volts.toInt32) (by rw [Int16.toInt_toInt32]; omega)
  rw [Int16.toInt_toInt32] at hnat
  unfold Tapers
  rw [gt_iff_lt, UInt32.lt_iff_toNat_lt]
  omega

/-- In every state of every run the end voltage is in range exactly when the EEPROM held one in
range at boot or a command with one has come. Then the charge slows above the maximum. -/
theorem the_end_voltage_is_in_range_iff (sk : Sketch) (e : EEPROM) (is : List Input) :
    (EndInRange (run (loop sk) (setup e) is).OUTPUT_VOLTS_END ↔
      EndInRange (readLong e TargetVoltsAddress) ∨
        ∃ i ∈ is, ∃ c ∈ commands i.serial, c.InRange) ∧
    (EndInRange (run (loop sk) (setup e) is).OUTPUT_VOLTS_END →
      ∀ volts, volts > OUTPUT_VOLTS_MAX → Tapers (run (loop sk) (setup e) is) volts) := by
  refine ⟨?_, fun h _ hv => tapers_of_endInRange h hv⟩
  exact run_latch (R := fun u => EndInRange u.OUTPUT_VOLTS_END) (loop_endInRange sk) (setup e) is

/-- An EEPROM that was never written. No voltage is above the end voltage that it gives. -/
theorem a_blank_eeprom_gives_no_end_voltage :
    (run (loop .v2_5) (setup ⟨fun _ => 0xffffffff, 0⟩) []).OUTPUT_VOLTS_END = 0xffffffff ∧
      ¬ EndInRange (run (loop .v2_5) (setup ⟨fun _ => 0xffffffff, 0⟩) []).OUTPUT_VOLTS_END := by
  refine ⟨by decide, ?_⟩
  intro h
  exact absurd h.high (by decide)

end super_charger.v25
