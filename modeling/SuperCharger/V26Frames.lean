-- What the parts of the loop of `v2.6` do to the settings, the divisors and the
-- heartbeat: the commands, the messages of the chargers, and the bike bus.
import SuperCharger.V26Current

namespace super_charger.v26

open machine_int charger_message zero runs

/-! ## Commands -/

/-- Every guard of a command asks whether an unsigned value is at least 0, so every command
sets all six settings. -/
theorem applyCommand_eq (s : State) (c : Command) :
    applyCommand s c = { s with
      OUTPUT_VOLTS_END := c.targetVolts
      HeartbeatMessage := writeVoltage s.HeartbeatMessage c.targetVolts
      C_RATE := (c.targetMAX_AMPS * 10).toInt32
      chargerCount := c.targetChargers.toInt32
      MAX_STATION_WATTS := c.targetWattage * 100
      CPlus := c.target1CPlus
      RAMP_RATE := c.targetRAMP_RATE * 100
      EEPROM := {
        TargetVolts := c.targetVolts
        TargetMAX_AMPS := c.targetMAX_AMPS * 10
        TargetChargerCount := c.targetChargers
        TargetWatts := c.targetWattage * 100
        Target1CPlus := c.target1CPlus
        TargetRAMP_RATE := c.targetRAMP_RATE * 100 } } := by
  have h : ∀ x : UInt32, x ≥ 0 := fun x => UInt32.zero_le
  unfold applyCommand updateHeartbeatVoltage
  simp only [h, if_true]

/-! ## The bike bus and the chargers -/

/-- The part of the state that no frame changes, as far as it matters here. -/
structure Kept where
  HeartbeatMessage : Message
  chargerCount : Int32
  volts : Int16

def State.kept (s : State) : Kept where
  HeartbeatMessage := s.HeartbeatMessage
  chargerCount := s.chargerCount
  volts := s.volts

theorem hurry_kept (s : State) (isOver : Bool) : (hurry s isOver).kept = s.kept := by
  unfold hurry
  split <;> rfl

theorem blocks_keep_kept : blocks.Keep State.kept where
  monolithVoltage _ _ := rfl
  monolithAmps _ _ := hurry_kept _ _
  powerTankVoltage _ _ := rfl
  powerTankAmps _ _ := hurry_kept _ _
  monolithPackConfig _ _ := rfl
  powerTankPackConfig _ _ := rfl
  monolithPackActiveData _ _ := rfl
  powerTankPackActiveData _ _ := rfl
  throttle _ _ := rfl

theorem blocks_keep_HeartbeatMessage (s : State) (frames : List Frame) :
    (blocks.drain s frames).HeartbeatMessage = s.HeartbeatMessage :=
  congrArg Kept.HeartbeatMessage (blocks_keep_kept.drain s frames)

theorem blocks_keep_chargerCount (s : State) (frames : List Frame) :
    (blocks.drain s frames).chargerCount = s.chargerCount :=
  congrArg Kept.chargerCount (blocks_keep_kept.drain s frames)

/-- A message of a charger changes the voltage at most. -/
theorem receiveCharger_frame (s : State) (m : Message) :
    ∃ volts, receiveCharger s m = { s with volts := volts } := by
  unfold receiveCharger
  simp only
  split
  · exact ⟨_, rfl⟩
  · exact ⟨s.volts, rfl⟩

/-- A charger's voltage is used, or it is at most 1.1 V above the one that is kept. -/
theorem receiveCharger_volts_cases (s : State) (m : Message) :
    (receiveCharger s m).volts = (voltageOf m).toInt16 ∨
      (receiveCharger s m).volts = s.volts ∧
        (voltageOf m).toInt16.toInt ≤ s.volts.toInt + 11 := by
  have hlow := s.volts.le_toInt
  have hhigh := s.volts.toInt_lt
  have hsum : (s.volts.toInt32 + 11).toInt = s.volts.toInt + 11 := by
    rw [Int32.toInt_add, Int16.toInt_toInt32]
    simp only [Int32.reduceToInt]
    rw [Int.bmod_def]
    split <;> omega
  unfold receiveCharger
  simp only
  split
  · exact Or.inl rfl
  · rename_i hnot
    have hbelow := (not_or.mp hnot).1
    rw [gt_iff_lt, Int32.lt_iff_toInt_lt, hsum, Int16.toInt_toInt32] at hbelow
    exact Or.inr ⟨rfl, by omega⟩

theorem setChargingAmps_HeartbeatMessage (p : derating.Platform) (s : State) :
    (setChargingAmps p s).HeartbeatMessage = s.HeartbeatMessage := by
  rw [setChargingAmps_eq, refresh_frame]

/-- What every command keeps, reading the commands keeps. -/
theorem readCommands_invariant {I : State → Prop} (h : ∀ s c, I s → I (applyCommand s c))
    {s : State} (h0 : I s) (serial : List Char) : I (readCommands s serial) :=
  run_invariant h h0 (commandsIn serial.length serial)

/-- What a new voltage keeps, the messages of the chargers keep. -/
theorem chargers_invariant {I : State → Prop} (h : ∀ s volts, I s → I { s with volts := volts })
    {s : State} (h0 : I s) (messages : List Message) : I (messages.foldl receiveCharger s) := by
  refine run_invariant ?_ h0 messages
  intro u m hu
  obtain ⟨volts, hm⟩ := receiveCharger_frame u m
  rw [hm]
  exact h u volts hu

/-- A property of the message that a new end voltage keeps, the commands, the chargers and
the bike bus keep. -/
theorem polled_HeartbeatMessage {P : Message → Prop}
    (hwrite : ∀ msg v, P msg → P (writeVoltage msg v)) {s : State} (h : P s.HeartbeatMessage)
    (i : Input) : P (polled s i).HeartbeatMessage := by
  have hcommands : P (readCommands s i.serial).HeartbeatMessage := by
    refine readCommands_invariant (I := fun u => P u.HeartbeatMessage) ?_ h i.serial
    intro u c hu
    rw [applyCommand_eq]
    exact hwrite _ _ hu
  have hbus := chargers_invariant (I := fun u => P u.HeartbeatMessage) (fun _ _ hu => hu)
    hcommands i.charger
  rw [← blocks_keep_HeartbeatMessage _ i.bike] at hbus
  unfold polled
  simp only
  split
  · exact hbus
  · exact hbus

/-! ## The voltages -/

/-- A voltage frame of either pack. -/
def isVoltage (f : Frame) : Prop := f.id = BMS_CELL_VOLTAGE ∨ f.id = BMS1_CELL_VOLTAGE

/-- The three voltages. -/
structure Voltages where
  volts : Int16
  monolithVolts : Int32
  powerTankVolts : Int32

def State.voltages (s : State) : Voltages where
  volts := s.volts
  monolithVolts := s.monolithVolts
  powerTankVolts := s.powerTankVolts

theorem readCommands_voltages (s : State) (serial : List Char) :
    (readCommands s serial).voltages = s.voltages := by
  refine readCommands_invariant (I := fun u => u.voltages = s.voltages) ?_ rfl serial
  intro u c hu
  rw [applyCommand_eq]
  exact hu

theorem hurry_voltages (s : State) (isOver : Bool) : (hurry s isOver).voltages = s.voltages := by
  unfold hurry
  split <;> rfl

theorem receive_voltages (s : State) {f : Frame} (hf : ¬ isVoltage f) :
    (blocks.receive s f).voltages = s.voltages := by
  rcases blocks.receive_cases s f with
    ⟨hid, _⟩ | ⟨hid, _⟩ | ⟨_, e⟩ | ⟨_, e⟩ | ⟨_, e⟩ | ⟨_, e⟩ | ⟨_, e⟩ | ⟨_, e⟩
  · exact absurd (Or.inl hid) hf
  · exact absurd (Or.inr hid) hf
  · rw [e]
    exact hurry_voltages _ _
  · rw [e]
    exact hurry_voltages _ _
  · rw [e]
    rfl
  · rw [e]
    rfl
  · rw [e]
    rfl
  · rw [e]

/-- The voltage, raised to a pack's reading. -/
def raised (volts : Int16) (mV : Int32) : Int16 :=
  if mV / 100 > volts.toInt32 then (mV / 100).toInt16 else volts

theorem refresh_volts (s : State) :
    (refresh s).volts = raised (raised s.volts s.monolithVolts) s.powerTankVolts := by
  unfold refresh refreshC_RATE refreshVolts raised
  simp only
  split <;> split <;> split <;> rfl

theorem toInt_raised {volts : Int16} {mV : Int32} (h : (mV / 100).toInt < 2 ^ 15) :
    (raised volts mV).toInt = max volts.toInt (mV / 100).toInt := by
  have hlow := volts.le_toInt
  unfold raised
  split
  · rename_i habove
    rw [gt_iff_lt, Int32.lt_iff_toInt_lt, Int16.toInt_toInt32] at habove
    rw [toInt_toInt16_of_fits (by omega) h]
    omega
  · rename_i hbelow
    rw [gt_iff_lt, Int32.lt_iff_toInt_lt, Int16.toInt_toInt32] at hbelow
    omega

/-! ## The heartbeat -/

/-- The call of `loop` reaches the heartbeat. -/
def Due (s : State) (i : Input) : Prop := (polled s i).delayItteration < 1

instance (s : State) (i : Input) : Decidable (Due s i) :=
  inferInstanceAs (Decidable ((polled s i).delayItteration < 1))

theorem loop_of_not_due {s : State} {i : Input} (h : ¬ Due s i) : loop s i = polled s i := if_neg h

/-- The message that a call sends to the chargers, once the heartbeat has filled it. -/
def sent (s : State) (i : Input) : Option Message :=
  if Due s i then some (heartbeat i.platform (polled s i)).HeartbeatMessage else none

def Sends (s : State) (i : Input) : Prop := (sent s i).isSome = true

instance (s : State) (i : Input) : Decidable (Sends s i) :=
  inferInstanceAs (Decidable ((sent s i).isSome = true))

theorem sends_iff_due (s : State) (i : Input) : Sends s i ↔ Due s i := by
  unfold Sends sent
  split
  · rename_i h
    exact iff_of_true rfl h
  · rename_i h
    exact iff_of_false Bool.false_ne_true h

/-- What is sent carries the current that the call leaves. -/
theorem currentOf_sent {s : State} {i : Input} {msg : Message} (h : sent s i = some msg) :
    currentOf msg = (loop s i).chargingAmps := by
  have hdue : Due s i := (sends_iff_due s i).mp (by unfold Sends; rw [h]; rfl)
  have hloop : loop s i = heartbeat i.platform (polled s i) := if_pos hdue
  unfold sent at h
  rw [if_pos hdue] at h
  rw [← Option.some.inj h, hloop]
  exact currentOf_writeCurrent _ _

end super_charger.v26
