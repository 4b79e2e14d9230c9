-- What the parts of the loop of `v2.5` leave alone: the frames of the bike bus, the
-- messages of the chargers, and the charging law.
import SuperCharger.V25

namespace super_charger.v25

open charger_message derating eeprom zero

/-- The part of the state that only the commands change. -/
structure Kept where
  OUTPUT_VOLTS_END : UInt32
  CPlus : UInt32
  RAMP_RATE : UInt32
  MAX_STATION_WATTS : UInt32
  chargerCount : Int16
  EEPROM : EEPROM

def State.kept (s : State) : Kept where
  OUTPUT_VOLTS_END := s.OUTPUT_VOLTS_END
  CPlus := s.CPlus
  RAMP_RATE := s.RAMP_RATE
  MAX_STATION_WATTS := s.MAX_STATION_WATTS
  chargerCount := s.chargerCount
  EEPROM := s.EEPROM

/-! ## The buses -/

theorem hurry_kept (s : State) (isOver : Bool) : (hurry s isOver).kept = s.kept := by
  unfold hurry
  split <;> rfl

theorem blocks_keep_kept : blocks.Keep State.kept where
  monolithVoltage _ _ := rfl
  monolithAmps _ _ := hurry_kept _ _
  powerTankVoltage _ _ := rfl
  powerTankAmps _ _ := hurry_kept _ _
  monolithPackConfig _ _ := rfl
  powerTankPackConfig _ _ := rfl
  monolithPackActiveData _ _ := rfl
  powerTankPackActiveData _ _ := rfl
  throttle _ _ := rfl

theorem foldl_receiveCharger_kept (s : State) (messages : List Message) :
    (messages.foldl receiveCharger s).kept = s.kept := by
  induction messages generalizing s with
  | nil => rfl
  | cons m messages ih => exact ih _

/-- Up to the heartbeat a call leaves this part as its commands leave it. -/
theorem polled_kept (s : State) (i : Input) :
    (polled s i).kept = (readCommands s i.serial).kept := by
  have hbuses := blocks_keep_kept.drain
    (i.charger.foldl receiveCharger (readCommands s i.serial)) i.bike
  rw [foldl_receiveCharger_kept] at hbuses
  rw [← hbuses]
  unfold polled
  simp only
  split <;> rfl

/-! ## The charging law -/

theorem rampUp_frame (s : State) : ∃ watts, rampUp s = { s with watts := watts } := by
  unfold rampUp
  split
  · exact ⟨_, rfl⟩
  · exact ⟨s.watts, rfl⟩

theorem endStep_frame (s : State) : ∃ watts, endStep s = { s with watts := watts } := by
  unfold endStep
  split
  · split <;> exact ⟨_, rfl⟩
  · exact ⟨s.watts, rfl⟩

theorem rangeStop_frame (sk : Sketch) (s : State) :
    ∃ watts, rangeStop sk s = { s with watts := watts } := by
  cases sk with
  | v2_5 => exact ⟨s.watts, rfl⟩
  | DEBUG_2_5 =>
    unfold rangeStop
    simp only
    split
    · exact ⟨0, rfl⟩
    · exact ⟨s.watts, rfl⟩

theorem stationClamp_frame (s : State) : ∃ watts, stationClamp s = { s with watts := watts } := by
  unfold stationClamp
  split
  · exact ⟨_, rfl⟩
  · exact ⟨s.watts, rfl⟩

/-- The power changes, and nothing else. -/
theorem chooseWatts_frame (sk : Sketch) (p : Platform) (s : State) :
    ∃ watts, chooseWatts sk p s = { s with watts := watts } := by
  obtain ⟨_, hramp⟩ := rampUp_frame s
  unfold chooseWatts overTempCutback tempCutback voltageCutback
  rw [hramp]
  simp only
  generalize cutbackLoop OVER_TEMP_CUTBACK_COUNT _ _ _ = w
  obtain ⟨_, hend⟩ := endStep_frame { s with watts := w }
  rw [hend]
  obtain ⟨_, hstop⟩ := rangeStop_frame sk { s with watts := _ }
  rw [hstop]
  obtain ⟨_, hclamp⟩ := stationClamp_frame { s with watts := _ }
  rw [hclamp]
  exact ⟨_, rfl⟩

theorem limitAmps_frame (s : State) : ∃ amps, limitAmps s = { s with chargingAmps := amps } := by
  unfold limitAmps limitPowerTank limitMonolith clampToC_RATE
  split
  · split <;> split <;> split <;> exact ⟨_, rfl⟩
  · exact ⟨s.chargingAmps, rfl⟩

theorem refresh_frame (s : State) :
    ∃ volts c, refreshC_RATE (refreshVolts s) = { s with volts := volts, C_RATE := c } := by
  unfold refreshC_RATE refreshVolts
  simp only
  split <;> split <;> split <;> exact ⟨_, _, rfl⟩

/-- A call of `setChargingAmps` changes the voltage, the C-rate, the power and the currents. -/
theorem setChargingAmps_frame (sk : Sketch) (p : Platform) (s : State) :
    ∃ volts c watts amps bike, setChargingAmps sk p s = { s with
      volts := volts
      C_RATE := c
      watts := watts
      chargingAmps := amps
      bikeAmps := bike } := by
  obtain ⟨_, _, hrefresh⟩ := refresh_frame s
  unfold setChargingAmps shareAmps wattsToAmps
  rw [hrefresh]
  obtain ⟨_, hwatts⟩ := chooseWatts_frame sk p { s with volts := _, C_RATE := _ }
  rw [hwatts]
  obtain ⟨_, hlimit⟩ := limitAmps_frame
    { s with volts := _, C_RATE := _, watts := _, chargingAmps := _ }
  simp only
  rw [hlimit]
  exact ⟨_, _, _, _, _, rfl⟩

theorem heartbeat_kept (sk : Sketch) (p : Platform) (s : State) :
    (heartbeat sk p s).kept = s.kept := by
  obtain ⟨_, _, _, _, _, hset⟩ := setChargingAmps_frame sk p { s with delayItteration := 22000 }
  unfold heartbeat
  rw [hset]
  rfl

theorem loop_kept (sk : Sketch) (s : State) (i : Input) :
    (loop sk s i).kept = (readCommands s i.serial).kept := by
  unfold loop
  split
  · rw [heartbeat_kept, polled_kept]
  · exact polled_kept s i

end super_charger.v25
