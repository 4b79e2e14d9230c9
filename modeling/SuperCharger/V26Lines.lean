-- The commands of `v2.6` as lines of text: what the turns of `readCommands` take from
-- the stream, against a reading of one line at a time.
import SuperCharger.SerialText
import SuperCharger.V26
import Mathlib.Data.List.Induction

namespace super_charger.v26

open arduino serial_text

/-! ## Settings in force -/

/-- The six settings and their slots. -/
structure InForce where
  OUTPUT_VOLTS_END : UInt32
  C_RATE : Int32
  chargerCount : Int32
  MAX_STATION_WATTS : UInt32
  CPlus : UInt32
  RAMP_RATE : UInt32
  EEPROM : Settings
deriving DecidableEq

def State.inForce (s : State) : InForce where
  OUTPUT_VOLTS_END := s.OUTPUT_VOLTS_END
  C_RATE := s.C_RATE
  chargerCount := s.chargerCount
  MAX_STATION_WATTS := s.MAX_STATION_WATTS
  CPlus := s.CPlus
  RAMP_RATE := s.RAMP_RATE
  EEPROM := s.EEPROM

/-- A command sets all six, whatever was in force. -/
def Command.sets (c : Command) : InForce where
  OUTPUT_VOLTS_END := c.targetVolts
  C_RATE := (c.targetMAX_AMPS * 10).toInt32
  chargerCount := c.targetChargers.toInt32
  MAX_STATION_WATTS := c.targetWattage * 100
  CPlus := c.target1CPlus
  RAMP_RATE := c.targetRAMP_RATE * 100
  EEPROM :=
    { TargetWatts := c.targetWattage * 100
      TargetVolts := c.targetVolts
      TargetChargerCount := c.targetChargers
      TargetMAX_AMPS := c.targetMAX_AMPS * 10
      Target1CPlus := c.target1CPlus
      TargetRAMP_RATE := c.targetRAMP_RATE * 100 }

theorem applyCommand_inForce (s : State) (c : Command) : (applyCommand s c).inForce = c.sets := by
  have hnonneg : ∀ v : UInt32, v ≥ 0 := fun _ => UInt32.zero_le
  unfold applyCommand
  simp only [hnonneg, if_true]
  rfl

theorem foldl_applyCommand_inForce (s : State) (cs : List Command) :
    (cs.foldl applyCommand s).inForce = (cs.getLast?.map Command.sets).getD s.inForce := by
  induction cs using List.reverseRecOn with
  | nil => rfl
  | append_singleton cs c ih =>
    rw [List.foldl_append, List.getLast?_concat]
    exact applyCommand_inForce _ c

/-! ## One line at a time -/

/-- The command that six fields spell. -/
def spelled (field : Nat → List Char) : Command where
  targetVolts := (toIntSamd (field 0)).toUInt32
  targetMAX_AMPS := (toIntSamd (field 1)).toUInt32
  targetChargers := (toIntSamd (field 2)).toUInt32
  targetWattage := (toIntSamd (field 3)).toUInt32
  target1CPlus := (toIntSamd (field 4)).toUInt32
  targetRAMP_RATE := (toIntSamd (field 5)).toUInt32

/-- Six fields of one decimal digit or more. -/
def WellFormed (l : Line) : Prop :=
  (l.chars.splitOn ',').length = 6 ∧
    ∀ piece ∈ l.chars.splitOn ',', piece ≠ [] ∧ piece.all Char.isDigit

instance (l : Line) : Decidable (WellFormed l) := inferInstanceAs (Decidable (_ ∧ _))

/-- The command of a line, if it is one. -/
def lineCommand (l : Line) : Option Command :=
  if WellFormed l then some (spelled (field ',' l.chars)) else none

/-- The lines one at a time: those that are no command change nothing. -/
def oneAtATime (s : State) (lines : List Line) : State :=
  (lines.filterMap lineCommand).foldl applyCommand s

/-! ## What the turns take -/

/-- The command that a group of lines spells, its newlines taken as text. -/
def groupCommand (group : List Line) : Command := spelled (field ',' (text group))

theorem readCommand_eq (serial : List Char) :
    readCommand serial =
      ({ spelled (field ',' serial) with
          targetRAMP_RATE :=
            (toIntSamd (readStringUntil '\n' (after ',' 5 serial)).1).toUInt32 },
        (readStringUntil '\n' (after ',' 5 serial)).2) := by
  unfold readCommand spelled
  simp only [field_succ, field_zero, after_succ, after_zero]

/-- Up to its newline and up to a comma the rest of a line spells the same number. -/
theorem leadingInt_rest {tail : List Char} (h : '\n' ∉ tail) :
    leadingInt (readStringUntil '\n' (tail ++ ['\n'])).1 =
      leadingInt (readStringUntil ',' (tail ++ ['\n'])).1 := by
  rw [readStringUntil_append_sep h]
  by_cases hcomma : ',' ∈ tail
  · obtain ⟨first, others, rfl, hfirst⟩ := List.eq_append_cons_of_mem hcomma
    rw [List.append_assoc, List.cons_append, readStringUntil_append_sep hfirst]
    exact leadingInt_append (ends_comma others) first
  · have hnone : ',' ∉ tail ++ ['\n'] := by simp [hcomma]
    rw [readStringUntil_of_not_mem hnone]
    exact (leadingInt_append ends_newline tail).symm

theorem toIntSamd_congr {cs ds : List Char} (h : leadingInt cs = leadingInt ds) :
    toIntSamd cs = toIntSamd ds := by
  unfold toIntSamd
  rw [h]

/-- A turn takes as many lines as have five commas, and reads them as one command. -/
theorem readCommand_text (lines : List Line) :
    readCommand (text lines) =
      (groupCommand (takeLines ',' 5 lines).1, text (takeLines ',' 5 lines).2) := by
  have hfields : ∀ i < 5, field ',' (text lines) i =
      field ',' (text (takeLines ',' 5 lines).1) i := by
    intro i hi
    have hsplit := takeLines_append ',' 5 lines
    by_cases hrest : (takeLines ',' 5 lines).2 = []
    · rw [hrest, List.append_nil] at hsplit
      rw [hsplit]
    · have hcount := takeLines_count hrest
      conv_lhs => rw [← hsplit, text_append]
      exact field_append (by omega) _
  have hlast : toIntSamd (readStringUntil '\n' (after ',' 5 (text lines))).1 =
      toIntSamd (field ',' (text (takeLines ',' 5 lines).1) 5) ∧
      (readStringUntil '\n' (after ',' 5 (text lines))).2 = text (takeLines ',' 5 lines).2 := by
    rw [field_eq]
    rcases after_takeLines (by decide : ',' ≠ '\n') 5 lines with
      ⟨hgroup, hall, hrest⟩ | ⟨tail, hone, hgroup, hall⟩
    · rw [hgroup, hall, hrest]
      exact ⟨rfl, rfl⟩
    · rw [hgroup, hall, readStringUntil_append_sep hone]
      refine ⟨toIntSamd_congr ?_, rfl⟩
      rw [← leadingInt_rest hone, readStringUntil_append_sep hone]
  rw [readCommand_eq, hlast.1, hlast.2]
  unfold groupCommand spelled
  rw [hfields 0 (by decide), hfields 1 (by decide), hfields 2 (by decide), hfields 3 (by decide),
    hfields 4 (by decide)]

/-- The commands that `readCommands` finds. -/
def commands (serial : List Char) : List Command := commandsIn serial.length serial

theorem commands_cons {serial : List Char} (h : serial ≠ []) :
    commands serial = (readCommand serial).1 :: commands (readCommand serial).2 := by
  cases serial with
  | nil => exact absurd rfl h
  | cons c cs =>
    have hrest := commandsIn_of_le (readCommand_length c cs) (Nat.le_refl _)
    unfold commands
    rw [List.length_cons, commandsIn, hrest]

theorem text_ne_nil {lines : List Line} (h : lines ≠ []) : text lines ≠ [] := by
  obtain ⟨l, others, rfl⟩ := List.exists_cons_of_ne_nil h
  unfold text Line.text
  simp

/-- The last command comes from the last group of lines. -/
theorem commands_getLast (lines : List Line) (h : lines ≠ []) :
    (commands (text lines)).getLast? = some (groupCommand (lastGroup ',' 5 lines)) := by
  induction hn : lines.length using Nat.strongRecOn generalizing lines with
  | ind n ih =>
    have hlength := @takeLines_length ',' 5 lines h
    rw [commands_cons (text_ne_nil h), readCommand_text, lastGroup_takeLines (by decide)]
    simp only
    split
    · rename_i hrest
      rw [hrest]
      rfl
    · rename_i hrest
      have hlast := ih _ (by omega) _ hrest rfl
      rw [List.getLast?_cons, hlast]
      rfl

/-! ## The lines against their groups -/

/-- What the lines should leave in force. -/
def intended (s : State) (lines : List Line) : InForce :=
  ((lines.filterMap lineCommand).getLast?.map Command.sets).getD s.inForce

theorem oneAtATime_inForce (s : State) (lines : List Line) :
    (oneAtATime s lines).inForce = intended s lines := foldl_applyCommand_inForce s _

/-- The last group decides what `readCommands` leaves in force. -/
theorem readCommands_inForce (s : State) {lines : List Line} (h : lines ≠ []) :
    (readCommands s (text lines)).inForce = (groupCommand (lastGroup ',' 5 lines)).sets := by
  have hread : (readCommands s (text lines)).inForce =
      ((commands (text lines)).getLast?.map Command.sets).getD s.inForce :=
    foldl_applyCommand_inForce s _
  rw [hread, commands_getLast lines h]
  rfl

/-- From every state, and for every sequence of lines: `readCommands` leaves what a reading of one
line at a time leaves exactly when there are no lines, or the last group spells what the last
line that is a command spells, or with no such line what was in force and stored. -/
theorem lines_are_read_one_at_a_time_iff (s : State) (lines : List Line) :
    (readCommands s (text lines)).inForce = (oneAtATime s lines).inForce ↔
      lines = [] ∨ (groupCommand (lastGroup ',' 5 lines)).sets = intended s lines := by
  rw [oneAtATime_inForce]
  by_cases h : lines = []
  · subst h
    exact iff_of_true rfl (Or.inl rfl)
  · rw [readCommands_inForce s h]
    exact (or_iff_right h).symm

/-- A line of two fields, and a command after it. -/
def shortThenCommand : List Line :=
  [⟨"1000,320".toList, by decide⟩, ⟨"1100,330,1,66,0,50".toList, by decide⟩]

/-- A line of six fields, one negative and one that is no number. -/
def negativeField : List Line := [⟨"1000,-5,x,66,0,50".toList, by decide⟩]

/-- The short line takes its other fields from the command, which is lost. A negative field is
taken as well. -/
theorem a_short_line_borrows_from_the_next :
    let s := setup ⟨1320000, 1164, 4, 960, 0, 5000⟩
    (readCommands s (text shortThenCommand)).OUTPUT_VOLTS_END = 1000 ∧
    (readCommands s (text shortThenCommand)).chargerCount = 330 ∧
    (oneAtATime s shortThenCommand).OUTPUT_VOLTS_END = 1100 ∧
    (oneAtATime s shortThenCommand).chargerCount = 1 ∧
    (readCommands s (text negativeField)).C_RATE = -50 ∧
    (oneAtATime s negativeField).C_RATE = 960 ∧
    (readCommands s (text shortThenCommand)).inForce ≠ (oneAtATime s shortThenCommand).inForce := by
  decide +kernel

/-! ## Lines that are all commands -/

/-- The newline after a line changes none of its numbers. -/
theorem toIntSamd_field (l : Line) (i : Nat) :
    toIntSamd (field ',' l.text i) = toIntSamd (field ',' l.chars i) := by
  apply toIntSamd_congr
  unfold Line.text
  rw [field_eq, field_eq]
  by_cases hi : i ≤ l.chars.count ','
  · rw [after_append_of_le hi]
    by_cases hcomma : ',' ∈ after ',' i l.chars
    · rw [readStringUntil_append_of_mem hcomma]
    · have hnone : ',' ∉ after ',' i l.chars ++ ['\n'] := by simp [hcomma]
      rw [readStringUntil_of_not_mem hcomma, readStringUntil_of_not_mem hnone]
      exact leadingInt_append ends_newline _
  · have hpast := after_append_of_lt (Nat.lt_of_not_le hi) []
    obtain ⟨k, hk⟩ := Nat.exists_eq_succ_of_ne_zero (Nat.sub_ne_zero_of_lt (Nat.lt_of_not_le hi))
    rw [List.append_nil, after_nil] at hpast
    rw [after_append_of_lt (Nat.lt_of_not_le hi), hpast, hk]
    rfl

theorem groupCommand_singleton (l : Line) : groupCommand [l] = spelled (field ',' l.chars) := by
  unfold groupCommand spelled
  rw [text_cons, text_nil, List.append_nil]
  simp only [toIntSamd_field]

theorem count_of_wellFormed {l : Line} (h : WellFormed l) : 5 ≤ (text [l]).count ',' := by
  have hfields := length_splitOn ',' l.chars
  have hlength := h.1
  rw [text_cons]
  unfold Line.text
  rw [List.count_append, List.count_append]
  omega

/-- A line that is a command is a group of its own if the line before it is one too. -/
theorem lastGroup_of_wellFormed {lines : List Line} (h : ∀ l ∈ lines, WellFormed l) :
    lastGroup ',' 5 lines = lines.getLast?.toList := by
  induction lines using List.reverseRecOn with
  | nil => rfl
  | append_singleton lines l ih =>
    have hbefore := ih (fun k hk => h k (List.mem_append_left _ hk))
    have hsnoc : lastGroup ',' 5 (lines ++ [l]) = addLine ',' 5 (lastGroup ',' 5 lines) l :=
      List.foldl_append
    rw [hsnoc, hbefore, List.getLast?_concat]
    cases hlast : lines.getLast? with
    | none => rfl
    | some k =>
      have hk := h k (List.mem_append_left _ (List.mem_of_getLast? hlast))
      exact if_pos (count_of_wellFormed hk)

/-- When every line is a command they are read one at a time. -/
theorem commands_are_read_one_at_a_time (s : State) {lines : List Line}
    (h : ∀ l ∈ lines, WellFormed l) :
    (readCommands s (text lines)).inForce = (oneAtATime s lines).inForce := by
  rw [oneAtATime_inForce]
  induction lines using List.reverseRecOn with
  | nil => rfl
  | append_singleton lines l _ =>
    have hl := h l (by simp)
    have hcommand : lineCommand l = some (spelled (field ',' l.chars)) := if_pos hl
    have hlast : (lines ++ [l]).filterMap lineCommand =
        lines.filterMap lineCommand ++ [spelled (field ',' l.chars)] := by
      rw [List.filterMap_append]
      simp [hcommand]
    have hgroup : lastGroup ',' 5 (lines ++ [l]) = [l] := by
      rw [lastGroup_of_wellFormed h, List.getLast?_concat]
      rfl
    rw [readCommands_inForce s (by simp), hgroup, groupCommand_singleton]
    unfold intended
    rw [hlast, List.getLast?_concat]
    rfl

/-- Two commands: the second one is in force, and stored. -/
theorem two_commands_are_read_one_at_a_time :
    let s := setup ⟨1320000, 1164, 4, 960, 0, 5000⟩
    let lines : List Line := [⟨"1000,33,2,66,0,50".toList, by decide⟩,
      ⟨"1100,330,1,66,0,50".toList, by decide⟩]
    (readCommands s (text lines)).inForce = (oneAtATime s lines).inForce ∧
      (oneAtATime s lines).inForce = Command.sets ⟨1100, 330, 1, 66, 0, 50⟩ := by
  intro s lines
  refine ⟨commands_are_read_one_at_a_time s ?_, ?_⟩
  · decide
  · decide

end super_charger.v26
