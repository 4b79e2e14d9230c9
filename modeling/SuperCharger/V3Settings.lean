-- The settings of `v3` against the values that the characteristics hold: what each
-- write over BLE puts in force, and the end voltage that the heartbeats ask for.
import SuperCharger.History
import SuperCharger.V3Frames

namespace super_charger.v3

open charger_message derating runs history

/-! ## Settings in force -/

/-- The settings in force are the values that the characteristics hold. -/
structure Synced (s : State) : Prop where
  volts : s.OUTPUT_VOLTS_END = s.chargerTargetVolts
  watts : s.MAX_STATION_WATTS = s.chargerMaxWatts
  count : s.chargerCount = s.chargerCountBLE

/-- The settings are in force after this write. -/
def TakesEffect (s : State) (w : Write) : Prop := Synced (write s w)

/-- A write of the count repeats the one in force. -/
def CountKept (s : State) (w : Write) : Prop :=
  ∀ value, w = .chargerCountBLE value → value = s.chargerCount

/-- `P` holds of every write that a call of `loop` delivers, in the state it comes in: the writes
of `BLE.central`, and when the call is due those of `BLE.poll`. -/
def EachWrite (P : State → Write → Prop) (s : State) (i : Input) : Prop :=
  Always write P s i.central ∧ (Due s i → Always write P (charge (polled s i) i) i.poll)

/-! ## What a write puts in force -/

/-- The handler copies all three values. -/
theorem userUpdate_synced (s : State) : Synced (userUpdate s) := ⟨rfl, rfl, rfl⟩

theorem write_synced_iff {s : State} (h : Synced s) (w : Write) :
    TakesEffect s w ↔ CountKept s w := by
  unfold TakesEffect CountKept
  cases w with
  | chargerTargetVolts value =>
    exact iff_of_true (userUpdate_synced _) (fun _ hw => nomatch hw)
  | chargerMaxWatts value =>
    exact iff_of_true (userUpdate_synced _) (fun _ hw => nomatch hw)
  | bleUnits value =>
    exact iff_of_true (userUpdate_synced _) (fun _ hw => nomatch hw)
  | chargerCountBLE value =>
    -- no handler, so only a count that was in force already is in force after it
    constructor
    · rintro ⟨_, _, hcount⟩ other hw
      injection hw with hvalue
      rw [← hvalue]
      exact hcount.symm
    · intro hkept
      exact ⟨h.volts, h.watts, (hkept value rfl).symm⟩

theorem writes_synced_iff {s : State} (h : Synced s) (writes : List Write) :
    Always write TakesEffect s writes ↔ Always write CountKept s writes :=
  always_iff_of_invariant (I := Synced) (fun _ w hs => write_synced_iff hs w)
    (fun _ w hs hw => (write_synced_iff hs w).mpr hw) h writes

theorem written_synced {s : State} (h : Synced s) {writes : List Write}
    (hw : Always write CountKept s writes) : Synced (written s writes) :=
  run_of_always (I := Synced) (fun _ w hs hw => (write_synced_iff hs w).mpr hw) h hw

/-! ## What a call keeps -/

theorem synced_of_kept {s u : State} (h : u.kept = s.kept) (hs : Synced s) : Synced u := by
  obtain ⟨hvolts, hwatts, hcount⟩ := hs
  refine ⟨?_, ?_, ?_⟩
  · exact (congrArg Kept.OUTPUT_VOLTS_END h).trans
      (hvolts.trans (congrArg Kept.chargerTargetVolts h).symm)
  · exact (congrArg Kept.MAX_STATION_WATTS h).trans
      (hwatts.trans (congrArg Kept.chargerMaxWatts h).symm)
  · exact (congrArg Kept.chargerCount h).trans
      (hcount.trans (congrArg Kept.chargerCountBLE h).symm)

theorem charge_synced {s : State} (h : Synced s) (i : Input) : Synced (charge s i) := by
  obtain ⟨_, _, _, hcharge⟩ := charge_frame s i
  rw [hcharge]
  exact ⟨h.volts, h.watts, h.count⟩

theorem eachWrite_synced_iff {s : State} (h : Synced s) (i : Input) :
    EachWrite TakesEffect s i ↔ EachWrite CountKept s i := by
  unfold EachWrite
  rw [writes_synced_iff h]
  refine and_congr_right (fun hcentral => imp_congr_right (fun _ => ?_))
  have hpolled := synced_of_kept (polled_kept s i) (written_synced h hcentral)
  exact writes_synced_iff (charge_synced hpolled i) i.poll

theorem loop_synced {s : State} (h : Synced s) {i : Input} (hi : EachWrite CountKept s i) :
    Synced (loop s i) := by
  obtain ⟨hcentral, hpoll⟩ := hi
  have hpolled := synced_of_kept (polled_kept s i) (written_synced h hcentral)
  unfold loop
  split
  · rename_i hdue
    have hend := written_synced (charge_synced hpolled i) (hpoll hdue)
    exact ⟨hend.volts, hend.watts, hend.count⟩
  · exact hpolled

theorem setup_synced : Synced setup := ⟨rfl, rfl, rfl⟩

/-- In a run from power-up every write takes effect exactly when no write changes the count. -/
theorem every_write_takes_effect_iff_no_write_changes_the_count (is : List Input) :
    Always loop (EachWrite TakesEffect) setup is ↔ Always loop (EachWrite CountKept) setup is :=
  always_iff_of_invariant (I := Synced) (fun _ i hs => eachWrite_synced_iff hs i)
    (fun _ _ hs hi => loop_synced hs hi) setup_synced is

/-- A call in which the central sends this one write. -/
def fromCentral (w : Write) : Input :=
  { central := [w], bike := [], charger := [], poll := [], platform := zeroPlatform }

/-- Two chargers are set, and the loop goes on with none until another setting is written. -/
theorem a_count_alone_is_not_taken :
    (loop setup (fromCentral (.chargerCountBLE 2))).chargerCountBLE = 2 ∧
    (loop setup (fromCentral (.chargerCountBLE 2))).chargerCount = 0 ∧
    (run loop setup [fromCentral (.chargerCountBLE 2), fromCentral (.bleUnits 0)]
      ).chargerCount = 2 ∧
    ¬ Always loop (EachWrite TakesEffect) setup [fromCentral (.chargerCountBLE 2)] := by
  refine ⟨by decide +kernel, by decide +kernel, by decide +kernel, ?_⟩
  intro h
  have hcount : (write setup (.chargerCountBLE 2)).chargerCount = 2 := h.1.1.1.count
  exact absurd hcount (by decide +kernel)

/-! ## The end voltage -/

def isTargetVolts : Write → Bool
  | .chargerTargetVolts _ => true
  | _ => false

/-- The end voltage that a write asks for. -/
def Write.target : Write → UInt32
  | .chargerTargetVolts value => value
  | _ => 0

/-- The last end voltage that these writes ask for. -/
def lastTarget (writes : List Write) : Option UInt32 :=
  (lastOf isTargetVolts writes).map Write.target

/-- The writes that a call of `loop` delivers. -/
def deliveredIn (s : State) (i : Input) : List Write :=
  i.central ++ if Due s i then i.poll else []

/-- The writes that a run delivers. -/
def delivered : State → List Input → List Write
  | _, [] => []
  | s, i :: is => deliveredIn s i ++ delivered (loop s i) is

/-- The end voltage in force, and the characteristic that it is copied from. -/
def EndVolts (v : UInt32) (s : State) : Prop := s.OUTPUT_VOLTS_END = v ∧ s.chargerTargetVolts = v

theorem written_endVolts {v : UInt32} {s : State} (h : EndVolts v s) (writes : List Write) :
    EndVolts ((lastTarget writes).getD v) (written s writes) := by
  induction writes using List.reverseRecOn with
  | nil => exact h
  | append_singleton writes w ih =>
    have hlast : lastTarget (writes ++ [w]) =
        if isTargetVolts w then some w.target else lastTarget writes := by
      unfold lastTarget
      rw [lastOf_snoc]
      split <;> rfl
    have hsnoc : written s (writes ++ [w]) = write (written s writes) w := List.foldl_append
    rw [hlast, hsnoc]
    cases w with
    | chargerTargetVolts value => exact ⟨rfl, rfl⟩
    | chargerMaxWatts value => exact ⟨ih.2, ih.2⟩
    | chargerCountBLE value => exact ih
    | bleUnits value => exact ⟨ih.2, ih.2⟩

theorem lastTarget_append (earlier later : List Write) (v : UInt32) :
    (lastTarget (earlier ++ later)).getD v = (lastTarget later).getD ((lastTarget earlier).getD v) := by
  unfold lastTarget
  rw [lastOf_append]
  cases lastOf isTargetVolts later <;> rfl

theorem endVolts_of_kept {v : UInt32} {s u : State} (h : u.kept = s.kept) (hs : EndVolts v s) :
    EndVolts v u :=
  ⟨(congrArg Kept.OUTPUT_VOLTS_END h).trans hs.1, (congrArg Kept.chargerTargetVolts h).trans hs.2⟩

/-- The state in which the heartbeat goes out, after these writes of `BLE.poll`. -/
theorem charged_endVolts {v : UInt32} {s : State} (h : EndVolts v s) (i : Input)
    (writes : List Write) :
    EndVolts ((lastTarget (i.central ++ writes)).getD v)
      (written (charge (polled s i) i) writes) := by
  have hpolled := endVolts_of_kept (polled_kept s i) (written_endVolts h i.central)
  rw [lastTarget_append]
  refine written_endVolts ?_ writes
  obtain ⟨_, _, _, hcharge⟩ := charge_frame (polled s i) i
  rw [hcharge]
  exact hpolled

theorem loop_endVolts {v : UInt32} {s : State} (h : EndVolts v s) (i : Input) :
    EndVolts ((lastTarget (deliveredIn s i)).getD v) (loop s i) := by
  unfold deliveredIn loop
  split
  · exact charged_endVolts h i i.poll
  · rw [List.append_nil]
    exact endVolts_of_kept (polled_kept s i) (written_endVolts h i.central)

theorem run_endVolts {v : UInt32} {s : State} (h : EndVolts v s) (is : List Input) :
    EndVolts ((lastTarget (delivered s is)).getD v) (run loop s is) := by
  induction is generalizing v s with
  | nil => exact h
  | cons i is ih =>
    unfold delivered
    rw [lastTarget_append]
    exact ih (loop_endVolts h i)

/-- The last end voltage that these writes ask for is within the table. -/
def TargetWithin (writes : List Write) : Prop :=
  ∃ v, lastTarget writes = some v ∧ v ≤ table.OUTPUT_VOLTS_MAX.toUInt32

/-- At power-up the end voltage is above the table, so it takes a write to bring it within. -/
theorem within_iff {s : State} {writes : List Write}
    (h : EndVolts ((lastTarget writes).getD 1320) s) :
    s.OUTPUT_VOLTS_END ≤ table.OUTPUT_VOLTS_MAX.toUInt32 ↔ TargetWithin writes := by
  have habove : ¬ (1320 : UInt32) ≤ table.OUTPUT_VOLTS_MAX.toUInt32 := by decide
  unfold TargetWithin
  rw [h.1]
  cases lastTarget writes with
  | none => exact iff_of_false habove (fun ⟨_, hv, _⟩ => nomatch hv)
  | some v =>
    constructor
    · intro hv
      exact ⟨v, rfl, hv⟩
    · rintro ⟨u, hu, hle⟩
      rw [Option.some.inj hu]
      exact hle

/-- After every run from power-up, within a call before its bike bus is read and up to its
heartbeat, the end voltage is within the table exactly when a write asked for one and the last
such write did so within the table. -/
theorem the_end_voltage_is_within_the_table_iff_the_last_target_is (is : List Input) (i : Input)
    (writes : List Write) :
    let s := run loop setup is
    ((written s writes).OUTPUT_VOLTS_END ≤ table.OUTPUT_VOLTS_MAX.toUInt32 ↔
      TargetWithin (delivered setup is ++ writes)) ∧
    ((written (charge (polled s i) i) writes).OUTPUT_VOLTS_END ≤ table.OUTPUT_VOLTS_MAX.toUInt32 ↔
      TargetWithin (delivered setup is ++ (i.central ++ writes))) := by
  intro s
  have hs : EndVolts ((lastTarget (delivered setup is)).getD 1320) s :=
    run_endVolts (v := 1320) ⟨rfl, rfl⟩ is
  have hcentral := written_endVolts hs writes
  have hcharged := charged_endVolts hs i writes
  rw [← lastTarget_append] at hcentral hcharged
  exact ⟨within_iff hcentral, within_iff hcharged⟩

/-- At power-up the end voltage is 132.0 V, and the writes of the central go as high as they like. -/
theorem the_end_voltage_starts_above_the_table :
    setup.OUTPUT_VOLTS_END = 1320 ∧
    (loop setup (fromCentral (.chargerTargetVolts 4000000))).OUTPUT_VOLTS_END = 4000000 ∧
    ¬ setup.OUTPUT_VOLTS_END ≤ table.OUTPUT_VOLTS_MAX.toUInt32 := by
  decide +kernel

end super_charger.v3
