-- What the parts of the loop of `v3` leave alone: the frames of the bike bus, the
-- writes of the central, and the calls of `setChargingAmps`.
import SuperCharger.SCCurrent
import SuperCharger.V3

namespace super_charger.v3

open charger_message zero

/-! ## What the bike bus leaves alone -/

/-- The part of the state that no frame changes. -/
structure Kept where
  OUTPUT_VOLTS_END : UInt32
  CPlus : UInt32
  RAMP_RATE : UInt32
  MAX_STATION_WATTS : UInt32
  chargerCount : Int32
  watts : UInt32
  HeartbeatMessage : Message
  chargerTargetVolts : UInt32
  chargerMaxWatts : UInt32
  chargerCountBLE : Int32

def State.kept (s : State) : Kept where
  OUTPUT_VOLTS_END := s.OUTPUT_VOLTS_END
  CPlus := s.CPlus
  RAMP_RATE := s.RAMP_RATE
  MAX_STATION_WATTS := s.MAX_STATION_WATTS
  chargerCount := s.chargerCount
  watts := s.watts
  HeartbeatMessage := s.HeartbeatMessage
  chargerTargetVolts := s.chargerTargetVolts
  chargerMaxWatts := s.chargerMaxWatts
  chargerCountBLE := s.chargerCountBLE

/-- The over-current branch sets the current and the timer at most. -/
theorem throttlePack_frame (s : State) (AH amps : Int32) :
    ∃ chargingAmps delayItteration, throttlePack s AH amps =
      { s with chargingAmps := chargingAmps, delayItteration := delayItteration } := by
  unfold throttlePack
  split
  · exact ⟨_, _, rfl⟩
  · exact ⟨s.chargingAmps, s.delayItteration, rfl⟩

/-- The voltage of the power tank sets its own state and the shared voltage at most. -/
theorem onPowerTankVoltage_frame (s : State) (f : Frame) :
    ∃ bikeVolts volts, onPowerTankVoltage s f =
      { s with powerTankVolts := f.voltage, bikeVolts := bikeVolts, volts := volts } := by
  unfold onPowerTankVoltage
  simp only
  split
  · exact ⟨_, _, rfl⟩
  · exact ⟨s.bikeVolts, s.volts, rfl⟩

theorem throttlePack_kept (s : State) (AH amps : Int32) :
    (throttlePack s AH amps).kept = s.kept := by
  obtain ⟨_, _, h⟩ := throttlePack_frame s AH amps
  rw [h]
  rfl

theorem onPowerTankVoltage_kept (s : State) (f : Frame) :
    (onPowerTankVoltage s f).kept = s.kept := by
  obtain ⟨_, _, h⟩ := onPowerTankVoltage_frame s f
  rw [h]
  rfl

theorem blocks_keep_kept : blocks.Keep State.kept where
  monolithVoltage _ _ := rfl
  monolithAmps _ _ := throttlePack_kept _ _ _
  powerTankVoltage := onPowerTankVoltage_kept
  powerTankAmps _ _ := throttlePack_kept _ _ _
  monolithPackConfig _ _ := rfl
  powerTankPackConfig _ _ := rfl
  monolithPackActiveData _ _ := rfl
  powerTankPackActiveData _ _ := rfl
  throttle _ _ := rfl

theorem bikeLoop_kept (s : State) (frames : List Frame) : (bikeLoop s frames).kept = s.kept :=
  blocks_keep_kept.drain s frames

theorem countDown_kept (s : State) : (countDown s).kept = s.kept := by
  unfold countDown
  split <;> rfl

/-- Up to the heartbeat a call leaves this part as the writes of `BLE.central` leave it. -/
theorem polled_kept (s : State) (i : Input) : (polled s i).kept = (written s i.central).kept := by
  unfold polled
  rw [countDown_kept, bikeLoop_kept]

theorem countDown_timer (s : State) :
    (countDown s).delayItteration =
      if s.delayItteration > 0 then s.delayItteration - 1 else s.delayItteration := by
  unfold countDown
  split <;> rfl

/-! ## What a write leaves alone -/

/-- The second state differs in the settings at most. -/
def OnlySettings (s u : State) : Prop :=
  ∃ volts watts count bleVolts bleWatts bleCount,
    u = { s with
      OUTPUT_VOLTS_END := volts
      MAX_STATION_WATTS := watts
      chargerCount := count
      chargerTargetVolts := bleVolts
      chargerMaxWatts := bleWatts
      chargerCountBLE := bleCount }

theorem OnlySettings.trans {s u v : State} (h1 : OnlySettings s u) (h2 : OnlySettings u v) :
    OnlySettings s v := by
  obtain ⟨_, _, _, _, _, _, rfl⟩ := h1
  obtain ⟨a, b, c, d, e, g, rfl⟩ := h2
  exact ⟨a, b, c, d, e, g, rfl⟩

theorem write_onlySettings (s : State) (w : Write) : OnlySettings s (write s w) := by
  cases w with
  | chargerTargetVolts value => exact ⟨_, _, _, _, _, _, rfl⟩
  | chargerMaxWatts value => exact ⟨_, _, _, _, _, _, rfl⟩
  | chargerCountBLE value => exact ⟨_, _, _, _, _, _, rfl⟩
  | bleUnits value => exact ⟨_, _, _, _, _, _, rfl⟩

theorem written_onlySettings (s : State) (writes : List Write) :
    OnlySettings s (written s writes) := by
  unfold written
  induction writes generalizing s with
  | nil => exact ⟨_, _, _, _, _, _, rfl⟩
  | cons w writes ih => exact (write_onlySettings s w).trans (ih _)

/-! ## What a call leaves alone -/

/-- Before the heartbeat itself, a charging call changes the timer, the voltage, the power and
the current. -/
theorem charge_frame (s : State) (i : Input) :
    ∃ volts watts amps, charge s i = { s with
      delayItteration := sc.DelayItteration / 2
      volts := volts
      watts := watts
      chargingAmps := amps } := by
  unfold charge sc.superChargerLoop
  rw [sc.drain_eq, sc.setChargingAmps_eq]
  exact ⟨_, _, _, rfl⟩

theorem atCharging_C_RATE (s : State) (i : Input) : (atCharging s i).C_RATE = s.C_RATE := by
  unfold atCharging
  rw [sc.drain_eq]
  rfl

theorem atCharging_chargerCount (s : State) (i : Input) :
    (atCharging s i).chargerCount = s.chargerCount := by
  unfold atCharging
  rw [sc.drain_eq]
  rfl

theorem charge_HeartbeatMessage (s : State) (i : Input) :
    (charge s i).HeartbeatMessage = s.HeartbeatMessage := by
  obtain ⟨_, _, _, h⟩ := charge_frame s i
  rw [h]

/-- The part of the state that only the bike bus changes. -/
structure Bike where
  CPlus : UInt32
  RAMP_RATE : UInt32
  lowTemp : Int16
  highTemp : Int16
  C_RATE : Int32
  bikeVolts : Int32
  monolithVolts : Int32
  powerTankVolts : Int32
  monolithAmps : Int32
  powerTankAmps : Int32
  monolithAH : Int32
  powerTankAH : Int32

def State.bike (s : State) : Bike where
  CPlus := s.CPlus
  RAMP_RATE := s.RAMP_RATE
  lowTemp := s.lowTemp
  highTemp := s.highTemp
  C_RATE := s.C_RATE
  bikeVolts := s.bikeVolts
  monolithVolts := s.monolithVolts
  powerTankVolts := s.powerTankVolts
  monolithAmps := s.monolithAmps
  powerTankAmps := s.powerTankAmps
  monolithAH := s.monolithAH
  powerTankAH := s.powerTankAH

theorem written_bike (s : State) (writes : List Write) : (written s writes).bike = s.bike := by
  obtain ⟨_, _, _, _, _, _, hw⟩ := written_onlySettings s writes
  rw [hw]
  rfl

theorem countDown_bike (s : State) : (countDown s).bike = s.bike := by
  unfold countDown
  split <;> rfl

theorem heartbeat_bike (s : State) (i : Input) : (heartbeat s i).bike = s.bike := by
  obtain ⟨_, _, _, hc⟩ := charge_frame s i
  have hpoll := written_bike (charge s i) i.poll
  rw [hc] at hpoll
  unfold heartbeat
  rw [hc]
  exact hpoll

/-- A call of `loop` leaves this part as the frames of the call leave it. -/
theorem loop_bike (s : State) (i : Input) :
    (loop s i).bike = (bikeLoop (written s i.central) i.bike).bike := by
  unfold loop
  split
  · rw [heartbeat_bike]
    exact countDown_bike _
  · exact countDown_bike _

/-- Up to the heartbeat a call of `loop` leaves the message as the last heartbeat left it. -/
theorem polled_HeartbeatMessage (s : State) (i : Input) :
    (polled s i).HeartbeatMessage = s.HeartbeatMessage := by
  obtain ⟨_, _, _, _, _, _, hw⟩ := written_onlySettings s i.central
  have hmsg := congrArg Kept.HeartbeatMessage (polled_kept s i)
  rw [hw] at hmsg
  exact hmsg

end super_charger.v3
