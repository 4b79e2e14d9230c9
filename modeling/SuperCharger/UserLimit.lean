-- The station limit as the setting of the user: the range in which `loadShare`
-- keeps it, and the runs of `13kw_load_share` in which nothing else changes it.
import SuperCharger.LoadShareLimit
import SuperCharger.RunningMin
import Mathlib.Data.List.Induction

namespace super_charger.load_share

open machine_int arduino charger_message eeprom runs running_min

/-! ## Commands -/

/-- The commands that a step of the run finds. -/
def Event.commands : Event → List (List Char)
  | .MCP2515_ISR => []
  | .loop commands _ => commands

/-- The limit that a command asks for: the integer of the text in 32 bits. -/
def target (commandWatts : List Char) : UInt32 := (toIntAvr commandWatts).toUInt32

/-- The guard of a command asks whether an unsigned value is at least 0, so every command sets
the limit, and no command takes the branch for a negative one. -/
theorem readCommand_limit (sk : Sketch) (s : State) (text : List Char) :
    (readCommand sk s text).MAX_STATION_WATTS = target text := by
  have hge : (toIntAvr text).toUInt32 ≥ 0 := UInt32.zero_le
  have hlt : ¬ (toIntAvr text).toUInt32 < 0 := UInt32.not_lt.mpr UInt32.zero_le
  unfold readCommand target
  simp only [hge, hlt, if_true, if_false]

theorem target_toNat (text : List Char) :
    ((target text).toNat : Int) = leadingInt text % 2 ^ 32 := by
  unfold target toIntAvr
  rw [toNat_toUInt32, Int32.toInt_ofInt]
  exact Int.bmod_emod

/-- The limit that the last command asks for, or the limit before it. -/
def commanded (limit : UInt32) (commands : List (List Char)) : UInt32 :=
  (commands.getLast?.map target).getD limit

theorem readCommands_limit (sk : Sketch) (s : State) (commands : List (List Char)) :
    (readCommands sk s commands).MAX_STATION_WATTS = commanded s.MAX_STATION_WATTS commands := by
  unfold readCommands commanded
  induction commands using List.reverseRecOn with
  | nil => rfl
  | append_singleton commands text _ =>
    rw [List.foldl_append, List.getLast?_concat]
    exact readCommand_limit sk _ text

theorem commanded_append (limit : UInt32) (earlier later : List (List Char)) :
    commanded limit (earlier ++ later) = commanded (commanded limit earlier) later := by
  unfold commanded
  rw [List.getLast?_append]
  cases later.getLast? with
  | none => rfl
  | some text => rfl

/-! ## The range of the limit in `loadShare` -/

/-- A command leaves the limit in its range, and a negative one leaves it at 0. -/
def CommandInRange (s : State) (text : List Char) : Prop :=
  (readCommand loadShare s text).MAX_STATION_WATTS ≤ WATTAGE_MAX_UNSET ∧
    (leadingInt text < 0 → (readCommand loadShare s text).MAX_STATION_WATTS = 0)

/-- Every command of a step, and the step itself, leave the limit in its range. -/
def StaysInRange (s : State) (event : Event) : Prop :=
  Always (readCommand loadShare) CommandInRange s event.commands ∧
    (step loadShare s event).MAX_STATION_WATTS ≤ WATTAGE_MAX_UNSET

/-- The integer of the text, modulo 2 ^ 32, is at most 14 kW. A negative one is a multiple of
2 ^ 32. -/
def CommandFits (text : List Char) : Prop :=
  leadingInt text % 2 ^ 32 ≤ 1400000 ∧ (leadingInt text < 0 → leadingInt text % 2 ^ 32 = 0)

theorem commandInRange_iff (s : State) (text : List Char) :
    CommandInRange s text ↔ CommandFits text := by
  have htarget := target_toNat text
  have hmax : WATTAGE_MAX_UNSET.toNat = 1400000 := rfl
  unfold CommandInRange CommandFits
  rw [readCommand_limit, UInt32.le_iff_toNat_le, ← UInt32.toNat_inj, UInt32.toNat_zero, hmax]
  omega

/-- The limit at the end of a step is the one that its commands leave. -/
theorem step_limit (s : State) (event : Event) :
    (step loadShare s event).MAX_STATION_WATTS =
      commanded s.MAX_STATION_WATTS event.commands := by
  cases event with
  | MCP2515_ISR => rfl
  | loop commands batch =>
    have hcommands := readCommands_limit loadShare s commands
    change (loop loadShare s commands batch).MAX_STATION_WATTS = _
    by_cases hflag : s.flagRecv = 0
    · rw [loop_of_no_flag _ _ _ _ hflag]
      exact hcommands
    · rw [loop_of_flag _ _ _ _ hflag, flagRecvBlock_frame]
      simp only
      rw [chooseWatts_limit]
      exact hcommands

theorem commanded_le {limit : UInt32} (h : limit ≤ WATTAGE_MAX_UNSET)
    {commands : List (List Char)} (hfit : ∀ text ∈ commands, CommandFits text) :
    commanded limit commands ≤ WATTAGE_MAX_UNSET := by
  unfold commanded
  cases hlast : commands.getLast? with
  | none => exact h
  | some text =>
    have hle := (hfit text (List.mem_of_getLast? hlast)).1
    have htarget := target_toNat text
    have hmax : WATTAGE_MAX_UNSET.toNat = 1400000 := rfl
    rw [Option.map_some, Option.getD_some, UInt32.le_iff_toNat_le, hmax]
    omega

theorem staysInRange_iff {s : State} (h : s.MAX_STATION_WATTS ≤ WATTAGE_MAX_UNSET)
    (event : Event) : StaysInRange s event ↔ ∀ text ∈ event.commands, CommandFits text := by
  unfold StaysInRange
  rw [always_iff_forall commandInRange_iff, step_limit]
  exact and_iff_left_of_imp (commanded_le h)

theorem setup_limit (e : EEPROM) :
    (setup loadShare e).MAX_STATION_WATTS ≤ WATTAGE_MAX_UNSET := by
  unfold setup
  simp only
  split
  · have hdefault : STATION_WATTS_DEFAULT ≤ WATTAGE_MAX_UNSET := by decide
    exact hdefault
  · rename_i h
    exact UInt32.not_lt.mp h

/-- Whatever the EEPROM holds at boot the limit starts in its range, and it stays there exactly
while every command fits. -/
theorem the_limit_stays_in_range_iff_every_command_fits (e : EEPROM) (events : List Event) :
    (setup loadShare e).MAX_STATION_WATTS ≤ WATTAGE_MAX_UNSET ∧
      (Always (step loadShare) StaysInRange (setup loadShare e) events ↔
        ∀ event ∈ events, ∀ text ∈ event.commands, CommandFits text) := by
  refine ⟨setup_limit e, ?_⟩
  rw [always_iff_of_invariant (I := fun s : State => s.MAX_STATION_WATTS ≤ WATTAGE_MAX_UNSET)
    (C := fun _ event => ∀ text ∈ event.commands, CommandFits text)
    (fun s event h => staysInRange_iff h event) ?_ (setup_limit e)]
  · exact always_iff_forall (P := fun event : Event => ∀ text ∈ event.commands, CommandFits text)
      (fun _ _ => Iff.rfl) _ _
  · intro s event h hfit
    rw [step_limit]
    exact commanded_le h hfit

/-- A command of 20 kW is taken as it is, and a negative one becomes the top of the range. -/
theorem commands_out_of_range_are_taken :
    ¬ StaysInRange (setup loadShare ⟨fun _ => 660000, 0⟩) (.loop ["2000000".toList] []) ∧
      ¬ StaysInRange (setup loadShare ⟨fun _ => 660000, 0⟩) (.loop ["-1".toList] []) := by
  constructor
  · rintro ⟨_, h⟩
    exact absurd h (by decide)
  · rintro ⟨_, h⟩
    exact absurd h (by decide)

/-! ## A cutback loop that writes the limit -/

/-- A row that applies sets the limit and the power to its cap. -/
def SetsLimit (sk : Sketch) : Prop := ∀ cap limit watts, sk.cutback cap limit watts = (cap, cap)

/-- The voltage is above the row's. -/
def isAbove (volts : UInt16) (row : UInt16 × UInt32) : Prop := row.1 < volts

instance (volts : UInt16) : DecidablePred (isAbove volts) :=
  fun row => inferInstanceAs (Decidable (row.1 < volts))

/-- The lowest cap among the rows that the voltage is above, when it is below this power, or the
power itself. -/
def capped (sk : Sketch) (volts : UInt16) (watts : Nat) : Nat :=
  lowered (isAbove volts) (fun row => row.2.toNat) sk.rows watts

/-- A walk that lowers the power leaves the limit at the same value, and one that does not
leaves both alone. -/
theorem cutback_setting {sk : Sketch} (hsk : SetsLimit sk) (rows : List (UInt16 × UInt32))
    (s : State) :
    (rows.foldl (cutbackRow sk) s).watts.toNat =
        lowered (isAbove s.volts) (fun row => row.2.toNat) rows s.watts.toNat ∧
      (rows.foldl (cutbackRow sk) s).MAX_STATION_WATTS =
        if (rows.foldl (cutbackRow sk) s).watts = s.watts then s.MAX_STATION_WATTS
        else (rows.foldl (cutbackRow sk) s).watts := by
  induction rows generalizing s with
  | nil => exact ⟨rfl, (if_pos rfl).symm⟩
  | cons row rows ih =>
    obtain ⟨hwatts, hlimit⟩ := ih (cutbackRow sk s row)
    have hwalk : lowered (isAbove s.volts) (fun row => row.2.toNat) (row :: rows) s.watts.toNat =
        lowered (isAbove s.volts) (fun row => row.2.toNat) rows
          (capTo (isAbove s.volts) (fun row => row.2.toNat) s.watts.toNat row) := rfl
    rw [List.foldl_cons, hwalk]
    by_cases happlies : s.volts > row.1 ∧ s.watts > row.2
    · have hrow : cutbackRow sk s row = { s with MAX_STATION_WATTS := row.2, watts := row.2 } := by
        unfold cutbackRow
        rw [if_pos happlies, hsk]
      have hcap : capTo (isAbove s.volts) (fun row => row.2.toNat) s.watts.toNat row =
          row.2.toNat := if_pos ⟨happlies.1, UInt32.lt_iff_toNat_lt.mp happlies.2⟩
      rw [hrow] at hwatts hlimit ⊢
      rw [hcap]
      generalize rows.foldl (cutbackRow sk)
        { s with MAX_STATION_WATTS := row.2, watts := row.2 } = t at *
      refine ⟨hwatts, ?_⟩
      -- the walk ends at or below the cap of this row, which is below the power it started from
      have hle : t.watts.toNat ≤ row.2.toNat := by
        rw [hwatts]
        exact lowered_le rows _
      have hlt := UInt32.lt_iff_toNat_lt.mp happlies.2
      have hne : t.watts ≠ s.watts := by
        intro h
        rw [h] at hle
        omega
      rw [if_neg hne, hlimit]
      split
      · rename_i h
        exact h.symm
      · rfl
    · have hrow : cutbackRow sk s row = s := if_neg happlies
      have hcap : capTo (isAbove s.volts) (fun row => row.2.toNat) s.watts.toNat row =
          s.watts.toNat :=
        if_neg (fun h => happlies ⟨h.1, UInt32.lt_iff_toNat_lt.mpr h.2⟩)
      rw [hrow] at hwatts hlimit ⊢
      rw [hcap]
      exact ⟨hwatts, hlimit⟩

/-! ## The limit of `13kw_load_share` -/

/-- The power with which the cutback loop starts: the larger of the power carried over and the
measured one, after the ramp, the clamp and the stop of the maximum voltage. -/
def powerAtCutback (sk : Sketch) (watts MAX_STATION_WATTS : UInt32) (batch : List Message) : Nat :=
  let p := max watts.toNat (batchAmps batch * batchVolts batch).toNat
  let sum := (p + 7600) % 2 ^ 32
  if sk.OUTPUT_VOLTS_MAX < batchVolts batch then 0
  else if sum < MAX_STATION_WATTS.toNat then (p + sk.RAMP_RATE.toNat) % 2 ^ 32
  else if MAX_STATION_WATTS.toNat < sum then
    (MAX_STATION_WATTS.toNat + 2 ^ 32 - 7600) % 2 ^ 32
  else p

/-- No row that the voltage is above has a cap below the power, or the lowest such cap is the
limit itself. -/
def LimitStays (sk : Sketch) (watts MAX_STATION_WATTS : UInt32) (batch : List Message) : Prop :=
  let p := powerAtCutback sk watts MAX_STATION_WATTS batch
  (∀ row ∈ sk.rows, row.1 < batchVolts batch → p ≤ row.2.toNat) ∨
    capped sk (batchVolts batch) p = MAX_STATION_WATTS.toNat

theorem powerAtCutback_eq (sk : Sketch) (s : State) (batch : List Message) :
    (stopAboveMax sk (powered sk s batch)).watts.toNat =
      powerAtCutback sk s.watts s.MAX_STATION_WATTS batch := by
  have hvolts : (powered sk s batch).volts = batchVolts batch := by
    rw [powered_frame]
    rfl
  have hpow := powered_toNat sk s batch
  unfold stopAboveMax powerAtCutback
  rw [hvolts]
  by_cases hmax : sk.OUTPUT_VOLTS_MAX < batchVolts batch
  · rw [if_pos hmax]
    simp only [hmax, if_true, UInt32.toNat_zero]
  · rw [if_neg hmax]
    simp only [hmax, if_false]
    exact hpow

/-- The choice of the power leaves the limit alone exactly when no row replaces it. -/
theorem chooseWatts_limit_iff {sk : Sketch} (hsk : SetsLimit sk) (s : State)
    (batch : List Message) :
    (chooseWatts sk s batch).MAX_STATION_WATTS = s.MAX_STATION_WATTS ↔
      LimitStays sk s.watts s.MAX_STATION_WATTS batch := by
  have hpower := powerAtCutback_eq sk s batch
  have hstart : (stopAboveMax sk (powered sk s batch)).MAX_STATION_WATTS = s.MAX_STATION_WATTS ∧
      (stopAboveMax sk (powered sk s batch)).volts = batchVolts batch := by
    rw [stopAboveMax_frame, powered_frame]
    exact ⟨rfl, rfl⟩
  obtain ⟨hwatts, hlimit⟩ := cutback_setting hsk sk.rows (stopAboveMax sk (powered sk s batch))
  have hrows : lowered (isAbove (batchVolts batch)) (fun row => row.2.toNat) sk.rows
        (powerAtCutback sk s.watts s.MAX_STATION_WATTS batch) =
      powerAtCutback sk s.watts s.MAX_STATION_WATTS batch ↔
      ∀ row ∈ sk.rows, row.1 < batchVolts batch →
        powerAtCutback sk s.watts s.MAX_STATION_WATTS batch ≤ row.2.toNat :=
    lowered_eq_start_iff sk.rows _
  rw [hstart.1] at hlimit
  rw [hstart.2, hpower] at hwatts
  rw [chooseWatts_eq, stopBelowMin_frame]
  unfold LimitStays capped cutbackLoop
  simp only
  rw [hlimit, ← hrows, ← hwatts, ← hpower, UInt32.toNat_inj, UInt32.toNat_inj]
  split
  · rename_i hsame
    exact iff_of_true rfl (Or.inl hsame)
  · rename_i hlowered
    exact (or_iff_right hlowered).symm

/-- A call of `loop` leaves the limit as its commands leave it. -/
def KeepsLimit (sk : Sketch) (s : State) : Event → Prop
  | .MCP2515_ISR => True
  | .loop commands batch =>
    (loop sk s commands batch).MAX_STATION_WATTS = (readCommands sk s commands).MAX_STATION_WATTS

/-- In a call that runs the block, no row replaces the limit that the commands leave. -/
def LimitStaysAt (sk : Sketch) (s : State) : Event → Prop
  | .MCP2515_ISR => True
  | .loop commands batch => s.flagRecv ≠ 0 →
      LimitStays sk s.watts (readCommands sk s commands).MAX_STATION_WATTS batch

theorem keepsLimit_iff {sk : Sketch} (hsk : SetsLimit sk) (s : State) (event : Event) :
    KeepsLimit sk s event ↔ LimitStaysAt sk s event := by
  cases event with
  | MCP2515_ISR => rfl
  | loop commands batch =>
    have hsame := readCommands_frame sk s commands
    change (loop sk s commands batch).MAX_STATION_WATTS =
        (readCommands sk s commands).MAX_STATION_WATTS ↔ (s.flagRecv ≠ 0 → _)
    by_cases hflag : s.flagRecv = 0
    · rw [loop_of_no_flag _ _ _ _ hflag]
      exact iff_of_true rfl (fun h => absurd hflag h)
    · have hwatts : (readCommands sk s commands).watts = s.watts := by rw [hsame]
      rw [loop_of_flag _ _ _ _ hflag, flagRecvBlock_frame]
      simp only
      rw [chooseWatts_limit_iff hsk, hwatts]
      exact ⟨fun h _ => h, fun h => h hflag⟩

/-- In a run that keeps the limit, it is the one of the last command, or of the boot. -/
theorem run_limit {sk : Sketch} {s : State} {events : List Event}
    (h : Always (step sk) (KeepsLimit sk) s events) :
    (run (step sk) s events).MAX_STATION_WATTS =
      commanded s.MAX_STATION_WATTS (events.flatMap Event.commands) := by
  induction events generalizing s with
  | nil => rfl
  | cons event events ih =>
    obtain ⟨hkeep, hrest⟩ := h
    rw [run_cons, ih hrest, List.flatMap_cons, commanded_append]
    cases event with
    | MCP2515_ISR => rfl
    | loop commands batch =>
      have hlimit := readCommands_limit sk s commands
      unfold KeepsLimit at hkeep
      change commanded (loop sk s commands batch).MAX_STATION_WATTS _ = _
      rw [hkeep, hlimit]
      rfl

/-- In a run from power-up only the commands change the limit, exactly while no row of the table
replaces it. Then it is always the limit of the last command, or of the boot. -/
theorem only_commands_change_the_limit_iff_no_row_replaces_it (e : EEPROM)
    (events : List Event) :
    let s := setup loadShare13kw e
    (Always (step loadShare13kw) (KeepsLimit loadShare13kw) s events ↔
      Always (step loadShare13kw) (LimitStaysAt loadShare13kw) s events) ∧
    (Always (step loadShare13kw) (LimitStaysAt loadShare13kw) s events →
      (run (step loadShare13kw) s events).MAX_STATION_WATTS =
        commanded s.MAX_STATION_WATTS (events.flatMap Event.commands)) := by
  intro s
  have hsk : SetsLimit loadShare13kw := fun _ _ _ => rfl
  have hiff : Always (step loadShare13kw) (KeepsLimit loadShare13kw) s events ↔
      Always (step loadShare13kw) (LimitStaysAt loadShare13kw) s events :=
    always_congr (keepsLimit_iff hsk) s events
  exact ⟨hiff, fun h => run_limit (hiff.mpr h)⟩

/-- Cycles that each find one message of a charger. -/
def cycles (messages : List Message) : List Event :=
  messages.flatMap (fun m => [.MCP2515_ISR, .loop [] [m]])

/-- With a limit of 0 and a charger at 95.0 V one cycle sets the limit to 22 kW. With one of 13 kW,
a cycle at 116.1 V after ten at 100.0 V sets it to 4 kW, where it stays at 100.0 V. -/
theorem a_cutback_row_replaces_the_limit :
    (run (step loadShare13kw) (setup loadShare13kw ⟨fun _ => 0, 0⟩)
      (cycles [message 950 0])).MAX_STATION_WATTS = 2200000 ∧
    (run (step loadShare13kw) (setup loadShare13kw ⟨fun _ => 1300000, 0⟩)
      (cycles (List.replicate 10 (message 1000 0) ++ [message 1161 0, message 1000 0]))
      ).MAX_STATION_WATTS = 400000 ∧
    ¬ Always (step loadShare13kw) (KeepsLimit loadShare13kw)
      (setup loadShare13kw ⟨fun _ => 0, 0⟩) (cycles [message 950 0]) := by
  refine ⟨by decide +kernel, by decide +kernel, ?_⟩
  intro h
  have hkept : (loop loadShare13kw
      (MCP2515_ISR (setup loadShare13kw ⟨fun _ => 0, 0⟩)) [] [message 950 0]).MAX_STATION_WATTS = 0 :=
    h.2.1
  exact absurd hkept (by decide +kernel)

end super_charger.load_share
