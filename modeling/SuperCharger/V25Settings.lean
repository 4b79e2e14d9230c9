-- The settings of `v2.5` across a power cycle: what the commands set, what they store
-- through a library that counts its writes, and what `setup` reads back.
import SuperCharger.V25Frames

namespace super_charger.v25

open machine_int arduino charger_message eeprom EEPROMClassEx zero runs

/-! ## What a command writes -/

/-- The end voltage of the command is taken. -/
def Command.InRange (c : Command) : Prop :=
  c.targetVolts ≥ OUTPUT_VOLTS_MIN.toInt32.toUInt32 ∧
    c.targetVolts ≤ OUTPUT_VOLTS_MAX.toInt32.toUInt32

instance (c : Command) : Decidable c.InRange := inferInstanceAs (Decidable (_ ∧ _))

/-- The writes of a command to the EEPROM, in their order. -/
def Command.writes (c : Command) : List (Nat × UInt32) :=
  (if c.InRange then [(TargetVoltsAddress, c.targetVolts)] else []) ++
    [(TargetMAX_AMPSAddress, (c.targetMAX_AMPS * 10).toInt32.toUInt32),
      (TargetChargerCountAddress, c.targetChargers.toUInt16.toInt16.toInt32.toUInt32),
      (TargetWattsAddress, c.targetWattage * 100),
      (Target1CPlusAddress, c.target1CPlus),
      (TargetRAMP_RATEAddress, c.targetRAMP_RATE * 100)]

theorem writes_addresses (c : Command) :
    c.writes.map Prod.fst = (if c.InRange then [TargetVoltsAddress] else []) ++
      [TargetMAX_AMPSAddress, TargetChargerCountAddress, TargetWattsAddress, Target1CPlusAddress,
        TargetRAMP_RATEAddress] := by
  unfold Command.writes
  split <;> rfl

theorem writes_distinct (c : Command) : (c.writes.map Prod.fst).Nodup := by
  rw [writes_addresses]
  split <;> decide

theorem save_eq (s : State) (address : Nat) (value : UInt32) :
    save s address value = { s with EEPROM := store s.EEPROM (address, value) } := rfl

/-- The other guards hold of every unsigned value. -/
theorem applyCommand_eq (s : State) (c : Command) :
    applyCommand s c = { s with
      OUTPUT_VOLTS_END := if c.InRange then c.targetVolts else s.OUTPUT_VOLTS_END
      C_RATE := (c.targetMAX_AMPS * 10).toInt32
      chargerCount := c.targetChargers.toUInt16.toInt16
      MAX_STATION_WATTS := c.targetWattage * 100
      CPlus := c.target1CPlus
      RAMP_RATE := c.targetRAMP_RATE * 100
      EEPROM := run store s.EEPROM c.writes } := by
  have hnonneg : ∀ v : UInt32, v ≥ 0 := fun _ => UInt32.zero_le
  unfold applyCommand Command.writes
  simp only [hnonneg, if_true, save_eq]
  by_cases hrange : c.InRange
  · have hguard : c.targetVolts ≥ OUTPUT_VOLTS_MIN.toInt32.toUInt32 ∧
        c.targetVolts ≤ OUTPUT_VOLTS_MAX.toInt32.toUInt32 := hrange
    simp only [if_pos hguard, if_pos hrange, List.cons_append, List.nil_append, run_cons, run_nil]
  · have hguard : ¬ (c.targetVolts ≥ OUTPUT_VOLTS_MIN.toInt32.toUInt32 ∧
        c.targetVolts ≤ OUTPUT_VOLTS_MAX.toInt32.toUInt32) := hrange
    simp only [if_neg hguard, if_neg hrange, List.nil_append, run_cons, run_nil]

/-! ## What a power cycle brings back -/

/-- What `setup` reads from the two words is the same. -/
def SameSetting (address : Nat) (stored value : UInt32) : Prop :=
  if address = TargetChargerCountAddress then stored.toUInt16.toInt16 = value.toUInt16.toInt16
  else stored = value

theorem sameSetting_refl (address : Nat) (value : UInt32) : SameSetting address value value := by
  unfold SameSetting
  split <;> rfl

/-- Another `setup` reads the settings that are in force. -/
structure Survives (s : State) : Prop where
  volts : (setup s.EEPROM).OUTPUT_VOLTS_END = s.OUTPUT_VOLTS_END
  count : (setup s.EEPROM).chargerCount = s.chargerCount
  watts : (setup s.EEPROM).MAX_STATION_WATTS = s.MAX_STATION_WATTS
  cplus : (setup s.EEPROM).CPlus = s.CPlus
  ramp : (setup s.EEPROM).RAMP_RATE = s.RAMP_RATE

/-- The settings survive this command, and so does its C-rate. -/
def CommandSurvives (s : State) (c : Command) : Prop :=
  Survives (applyCommand s c) ∧
    (setup (applyCommand s c).EEPROM).C_RATE = (c.targetMAX_AMPS * 10).toInt32

/-- Every write of the command is accepted or repeats what is stored. -/
def AllLand (s : State) (c : Command) : Prop :=
  Always store (Lands SameSetting) s.EEPROM c.writes

/-- A count goes through its word and back. -/
theorem toInt16_of_stored (n : Int16) : n.toInt32.toUInt32.toUInt16.toInt16 = n := by
  have hlow := n.le_toInt
  have hhigh := n.toInt_lt
  have hword := toNat_toUInt32 n.toInt32
  rw [Int16.toInt_toInt32] at hword
  rw [← Int16.toInt_inj, toInt_toInt16, UInt32.toNat_toUInt16, Int.bmod_def]
  split <;> omega

theorem toInt32_eq_iff (v w : UInt32) : v.toInt32 = w.toInt32 ↔ v = w.toInt32.toUInt32 := by
  constructor
  · intro h
    rw [← h]
    simp
  · intro h
    rw [h]
    simp

/-- The words that a command writes, slot by slot. -/
theorem writes_hold_iff (c : Command) (e : EEPROM) :
    (∀ w ∈ c.writes, SameSetting w.1 (e.words w.1) w.2) ↔
      (c.InRange → e.words TargetVoltsAddress = c.targetVolts) ∧
      e.words TargetMAX_AMPSAddress = (c.targetMAX_AMPS * 10).toInt32.toUInt32 ∧
      (e.words TargetChargerCountAddress).toUInt16.toInt16 = c.targetChargers.toUInt16.toInt16 ∧
      e.words TargetWattsAddress = c.targetWattage * 100 ∧
      e.words Target1CPlusAddress = c.target1CPlus ∧
      e.words TargetRAMP_RATEAddress = c.targetRAMP_RATE * 100 := by
  have hcount := toInt16_of_stored c.targetChargers.toUInt16.toInt16
  unfold Command.writes
  rw [List.forall_mem_append]
  refine and_congr ?_ ?_
  · split
    · rename_i hrange
      simp [SameSetting, hrange, TargetVoltsAddress, TargetChargerCountAddress]
    · rename_i hrange
      simp [hrange]
  · simp [SameSetting, hcount, TargetMAX_AMPSAddress, TargetChargerCountAddress,
      TargetWattsAddress, Target1CPlusAddress, TargetRAMP_RATEAddress]

theorem commandSurvives_iff {s : State} (h : Survives s) (c : Command) :
    CommandSurvives s c ↔ AllLand s c := by
  have hvolts : s.EEPROM.words TargetVoltsAddress = s.OUTPUT_VOLTS_END := h.volts
  unfold AllLand
  rw [all_land_iff sameSetting_refl (writes_distinct c)]
  have hkept : ¬ c.InRange →
      (run store s.EEPROM c.writes).words TargetVoltsAddress = s.OUTPUT_VOLTS_END := by
    intro hrange
    rw [← hvolts]
    refine run_store_other ?_
    rw [writes_addresses, if_neg hrange]
    decide
  unfold CommandSurvives
  rw [applyCommand_eq]
  generalize run store s.EEPROM c.writes = e at *
  rw [writes_hold_iff c e]
  constructor
  · rintro ⟨⟨hv, hn, hw, hc, hr⟩, ha⟩
    refine ⟨?_, (toInt32_eq_iff _ _).mp ha, hn, hw, hc, hr⟩
    intro hrange
    exact hv.trans (if_pos hrange)
  · rintro ⟨hv, ha, hn, hw, hc, hr⟩
    refine ⟨⟨?_, hn, hw, hc, hr⟩, (toInt32_eq_iff _ _).mpr ha⟩
    change e.words TargetVoltsAddress = if c.InRange then _ else _
    split
    · rename_i hrange
      exact hv hrange
    · rename_i hrange
      exact hkept hrange

/-! ## Runs -/

/-- `P` holds of every command that a call of `loop` reads, in the state it comes in. -/
def EachCommand (P : State → Command → Prop) (s : State) (i : Input) : Prop :=
  Always applyCommand P s (commands i.serial)

theorem survives_of_kept {s u : State} (h : u.kept = s.kept) (hs : Survives s) : Survives u := by
  have he : u.EEPROM = s.EEPROM := congrArg Kept.EEPROM h
  obtain ⟨hvolts, hcount, hwatts, hcplus, hramp⟩ := hs
  refine ⟨?_, ?_, ?_, ?_, ?_⟩
  · rw [he]
    exact hvolts.trans (congrArg Kept.OUTPUT_VOLTS_END h).symm
  · rw [he]
    exact hcount.trans (congrArg Kept.chargerCount h).symm
  · rw [he]
    exact hwatts.trans (congrArg Kept.MAX_STATION_WATTS h).symm
  · rw [he]
    exact hcplus.trans (congrArg Kept.CPlus h).symm
  · rw [he]
    exact hramp.trans (congrArg Kept.RAMP_RATE h).symm

theorem applyCommand_survives {s : State} (h : Survives s) {c : Command} (hc : AllLand s c) :
    Survives (applyCommand s c) := ((commandSurvives_iff h c).mpr hc).1

theorem eachCommand_iff {s : State} (h : Survives s) (i : Input) :
    EachCommand CommandSurvives s i ↔ EachCommand AllLand s i :=
  always_iff_of_invariant (I := Survives) (fun _ c hs => commandSurvives_iff hs c)
    (fun _ _ hs hc => applyCommand_survives hs hc) h (commands i.serial)

theorem readCommands_survives {s : State} (h : Survives s) {i : Input}
    (hi : EachCommand AllLand s i) : Survives (readCommands s i.serial) :=
  run_of_always (I := Survives) (fun _ _ hs hc => applyCommand_survives hs hc) h hi

theorem loop_survives {sk : Sketch} {s : State} (h : Survives s) {i : Input}
    (hi : EachCommand AllLand s i) : Survives (loop sk s i) :=
  survives_of_kept (loop_kept sk s i) (readCommands_survives h hi)

/-- The C-rate of the last of these commands, or the one before them. -/
def lastC_RATE (start : Int32) (cs : List Command) : Int32 :=
  cs.foldl (fun _ c => (c.targetMAX_AMPS * 10).toInt32) start

theorem readCommands_c_rate {s : State} (h : Survives s) {cs : List Command}
    (hcs : Always applyCommand AllLand s cs) :
    (setup (cs.foldl applyCommand s).EEPROM).C_RATE = lastC_RATE (setup s.EEPROM).C_RATE cs := by
  induction cs generalizing s with
  | nil => rfl
  | cons c cs ih =>
    obtain ⟨hc, hrest⟩ := hcs
    obtain ⟨hnext, hrate⟩ := (commandSurvives_iff h c).mpr hc
    unfold lastC_RATE
    rw [List.foldl_cons, List.foldl_cons, ih hnext hrest, hrate]
    rfl

theorem run_c_rate {sk : Sketch} {s : State} (h : Survives s) {is : List Input}
    (his : Always (loop sk) (EachCommand AllLand) s is) :
    (setup (run (loop sk) s is).EEPROM).C_RATE =
      lastC_RATE (setup s.EEPROM).C_RATE (is.flatMap fun i => commands i.serial) := by
  induction is generalizing s with
  | nil => rfl
  | cons i is ih =>
    obtain ⟨hi, hrest⟩ := his
    have he : (loop sk s i).EEPROM = (readCommands s i.serial).EEPROM :=
      congrArg Kept.EEPROM (loop_kept sk s i)
    have hread := readCommands_c_rate h hi
    rw [run_cons, ih (loop_survives h hi) hrest, he]
    unfold readCommands
    rw [hread, List.flatMap_cons]
    unfold lastC_RATE
    rw [List.foldl_append]

/-- In a run from power-up the settings survive every command exactly when each of its writes is
accepted or repeats what is stored. Then they survive a power cycle at any later time as well. -/
theorem settings_survive_iff_no_write_is_refused (sk : Sketch) (e : EEPROM) (is : List Input) :
    (Always (loop sk) (EachCommand CommandSurvives) (setup e) is ↔
      Always (loop sk) (EachCommand AllLand) (setup e) is) ∧
    (Always (loop sk) (EachCommand AllLand) (setup e) is →
      Survives (run (loop sk) (setup e) is) ∧
      (setup (run (loop sk) (setup e) is).EEPROM).C_RATE =
        lastC_RATE (setup e).C_RATE (is.flatMap fun i => commands i.serial)) := by
  have hsetup : Survives (setup e) := ⟨rfl, rfl, rfl, rfl, rfl⟩
  refine ⟨always_iff_of_invariant (I := Survives) (fun _ i hs => eachCommand_iff hs i)
    (fun _ _ hs hi => loop_survives hs hi) hsetup is, ?_⟩
  intro hlands
  have hend := run_of_always (I := Survives) (fun _ _ hs hi => loop_survives hs hi) hsetup hlands
  exact ⟨hend, run_c_rate hsetup hlands⟩

/-- A line of six fields: 100.0 V, 10 A, one charger, 6.6 kW, no CPlus charger, a ramp of 50 W. -/
def usualLine : List Char := "1000,10,1,6600,0,50\n".toList

/-- The same with a CPlus charger. -/
def cplusLine : List Char := "1000,10,1,6600,1,50\n".toList

/-- Sixteen lines make 96 writes. The next one sets the CPlus charger with the 101st, which the
library refuses, so the power cycle brings back a board without it. -/
theorem the_seventeenth_line_does_not_survive :
    let s := run (loop .v2_5) (setup ⟨fun _ => 0, 0⟩)
      (List.replicate 16 (fromSerial usualLine) ++ [fromSerial cplusLine])
    s.CPlus = 1 ∧ s.EEPROM._writeCounts = 102 ∧ (setup s.EEPROM).CPlus = 0 ∧ ¬ Survives s := by
  refine ⟨by decide +kernel, by decide +kernel, by decide +kernel, ?_⟩
  intro h
  exact absurd h.cplus (by decide +kernel)

end super_charger.v25
