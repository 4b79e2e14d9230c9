-- `v2.5` and `DEBUG_2.5` side by side: what a call shows, and when the one block that is
-- active in `DEBUG_2.5` only makes no difference to it.
import SuperCharger.V25Frames

namespace super_charger.v25

open machine_int charger_message derating zero runs

/-! ## What a call shows -/

/-- The call of `loop` reaches the heartbeat. -/
def Due (s : State) (i : Input) : Prop := (polled s i).delayItteration < 1

instance (s : State) (i : Input) : Decidable (Due s i) :=
  inferInstanceAs (Decidable ((polled s i).delayItteration < 1))

theorem loop_of_due {sk : Sketch} {s : State} {i : Input} (h : Due s i) :
    loop sk s i = heartbeat sk i.platform (polled s i) := if_pos h

theorem loop_of_not_due {sk : Sketch} {s : State} {i : Input} (h : ¬ Due s i) :
    loop sk s i = polled s i := if_neg h

/-- The power, the voltage and the current that a call leaves, and the heartbeat that it sends. -/
structure Shown where
  watts : UInt32
  volts : Int16
  chargingAmps : UInt16
  sent : Option Message
deriving DecidableEq

def shown (sk : Sketch) (s : State) (i : Input) : Shown where
  watts := (loop sk s i).watts
  volts := (loop sk s i).volts
  chargingAmps := (loop sk s i).chargingAmps
  sent := if Due s i then some (loop sk s i).HeartbeatMessage else none

/-! ## The block -/

/-- The power up to the block, in the refreshed state. -/
def beforeStop (p : Platform) (s : State) : State :=
  endStep (overTempCutback p (tempCutback p (voltageCutback p (rampUp s))))

theorem chooseWatts_eq (sk : Sketch) (p : Platform) (s : State) :
    chooseWatts sk p s = stationClamp (rangeStop sk (beforeStop p s)) := rfl

/-- The supplies that `stationClamp` takes off the limit. -/
def State.supplies (s : State) : UInt32 := (MAX_12V_WATTS * s.chargerCount).toInt32.toUInt32

/-- The block changes no power: the voltage is in range, or there is no power, or the clamp that
follows leaves none, because the supplies take all of the limit. -/
def StopIdle (s : State) : Prop :=
  ¬ (s.volts > OUTPUT_VOLTS_MAX ∨ s.volts < OUTPUT_VOLTS_MIN) ∨ s.watts = 0 ∨
    s.watts > s.MAX_STATION_WATTS ∧ s.MAX_STATION_WATTS = s.supplies

theorem stationClamp_zero {s : State} (h : s.watts = 0) : stationClamp s = s := by
  unfold stationClamp
  rw [if_neg]
  rw [h]
  exact UInt32.not_lt.mpr UInt32.zero_le

/-- The clamp leaves no power to a state that has some only by taking all of the limit. -/
theorem stationClamp_watts_zero_iff (s : State) :
    (stationClamp s).watts = 0 ↔
      s.watts = 0 ∨ s.watts > s.MAX_STATION_WATTS ∧ s.MAX_STATION_WATTS = s.supplies := by
  unfold stationClamp
  split
  · rename_i habove
    have hpos : s.watts ≠ 0 := by
      intro h
      rw [h] at habove
      exact UInt32.not_lt.mpr UInt32.zero_le habove
    change s.MAX_STATION_WATTS - s.supplies = 0 ↔ _
    rw [UInt32.sub_eq_iff_eq_add, UInt32.zero_add]
    simp [hpos, habove]
  · rename_i hbelow
    simp [hbelow]

/-- After the clamp the two sketches agree on the power exactly when the block is idle. -/
theorem rangeStop_agrees_iff (s : State) :
    (stationClamp (rangeStop .DEBUG_2_5 s)).watts = (stationClamp (rangeStop .v2_5 s)).watts ↔
      StopIdle s := by
  unfold rangeStop StopIdle
  simp only
  by_cases hout : s.volts > OUTPUT_VOLTS_MAX ∨ s.volts < OUTPUT_VOLTS_MIN
  · rw [if_pos hout, stationClamp_zero rfl]
    have hclamp := stationClamp_watts_zero_iff s
    simp only [hout, not_true_eq_false, false_or]
    rw [← hclamp]
    exact eq_comm
  · rw [if_neg hout]
    exact ⟨fun _ => Or.inl hout, fun _ => rfl⟩

/-- Where the block is idle the two sketches choose the same. -/
theorem chooseWatts_agrees {p : Platform} {s : State} (h : StopIdle (beforeStop p s)) :
    chooseWatts .DEBUG_2_5 p s = chooseWatts .v2_5 p s := by
  have hwatts := (rangeStop_agrees_iff (beforeStop p s)).mpr h
  obtain ⟨w, hdebug⟩ := chooseWatts_frame .DEBUG_2_5 p s
  obtain ⟨w', hrelease⟩ := chooseWatts_frame .v2_5 p s
  rw [← chooseWatts_eq, ← chooseWatts_eq, hdebug, hrelease] at hwatts
  have hsame : w = w' := hwatts
  rw [hdebug, hrelease, hsame]

theorem setChargingAmps_watts (sk : Sketch) (p : Platform) (s : State) :
    (setChargingAmps sk p s).watts = (chooseWatts sk p (refreshC_RATE (refreshVolts s))).watts := by
  obtain ⟨_, hlimit⟩ :=
    limitAmps_frame (wattsToAmps p (chooseWatts sk p (refreshC_RATE (refreshVolts s))))
  unfold setChargingAmps shareAmps
  rw [hlimit]
  rfl

/-! ## Runs -/

/-- The state in which a heartbeat calls `setChargingAmps`, with its voltage and its C-rate. -/
def charging (s : State) (i : Input) : State :=
  refreshC_RATE (refreshVolts { polled s i with delayItteration := 22000 })

/-- If the call reaches the heartbeat, the block changes nothing in it. -/
def Agrees (s : State) (i : Input) : Prop :=
  Due s i → StopIdle (beforeStop i.platform (charging s i))

theorem loop_agrees {s : State} {i : Input} (h : Agrees s i) :
    loop .DEBUG_2_5 s i = loop .v2_5 s i := by
  by_cases hdue : Due s i
  · have hchoice := chooseWatts_agrees (h hdue)
    unfold charging at hchoice
    rw [loop_of_due hdue, loop_of_due hdue]
    unfold heartbeat setChargingAmps
    rw [hchoice]
  · rw [loop_of_not_due hdue, loop_of_not_due hdue]

/-- The two sketches show the same at a call exactly when the block changes nothing in it. -/
theorem shown_agrees_iff (s : State) (i : Input) :
    shown .DEBUG_2_5 s i = shown .v2_5 s i ↔ Agrees s i := by
  constructor
  · intro h hdue
    have hwatts := congrArg Shown.watts h
    have hloop : ∀ sk, (loop sk s i).watts =
        (setChargingAmps sk i.platform { polled s i with delayItteration := 22000 }).watts := by
      intro sk
      rw [loop_of_due hdue]
      rfl
    unfold shown at hwatts
    simp only at hwatts
    rw [hloop, hloop, setChargingAmps_watts, setChargingAmps_watts] at hwatts
    exact (rangeStop_agrees_iff _).mp hwatts
  · intro h
    unfold shown
    rw [loop_agrees h]

/-- From every EEPROM the two sketches go through the same power, voltages and currents and send
the same heartbeats exactly when at every heartbeat the block of `DEBUG_2.5` changes nothing. -/
theorem the_debug_build_shows_the_same_iff_its_block_is_idle (e : eeprom.EEPROM)
    (is : List Input) :
    trace (loop .DEBUG_2_5) (shown .DEBUG_2_5) (setup e) is =
        trace (loop .v2_5) (shown .v2_5) (setup e) is ↔
      Always (loop .v2_5) Agrees (setup e) is :=
  trace_eq_iff shown_agrees_iff (fun _ _ h => loop_agrees h) (setup e) is

/-! ## A battery below the range -/

/-- One charger, a limit of 6.6 kW and the other settings at their defaults. -/
def usualEEPROM : eeprom.EEPROM where
  words := fun address =>
    if address = TargetWattsAddress then 660000
    else if address = TargetVoltsAddress then 1164
    else if address = TargetChargerCountAddress then 1
    else if address = TargetMAX_AMPSAddress then 960
    else if address = TargetRAMP_RATEAddress then 5000
    else 0
  _writeCounts := 0

/-- A call that finds these frames on the bike bus and nothing else. -/
def fromBike (bike : List Frame) : Input :=
  { serial := [], charger := [], bike := bike, platform := zeroPlatform }

/-- A pack of 10 Ah at 65.0 V that takes 20 A, which brings the heartbeat forward. -/
def lowBattery : List Input :=
  fromBike [voltageFrame BMS_CELL_VOLTAGE 65000, configFrame BMS_PACK_CONFIG 10,
    activeFrame BMS_PACK_ACTIVE_DATA 20 20 20] :: List.replicate 9 (fromBike [])

/-- `v2.5` charges the battery, and `DEBUG_2.5` does not. -/
theorem the_debug_build_stops_at_a_low_battery :
    (run (loop .v2_5) (setup usualEEPROM) lowBattery).watts = 5000 ∧
      (run (loop .DEBUG_2_5) (setup usualEEPROM) lowBattery).watts = 0 ∧
      trace (loop .DEBUG_2_5) (shown .DEBUG_2_5) (setup usualEEPROM) lowBattery ≠
        trace (loop .v2_5) (shown .v2_5) (setup usualEEPROM) lowBattery := by
  decide +kernel

end super_charger.v25
