-- The controller `v2.6.ino`: its state, its charging law, its commands, its
-- frame handlers and its loop. The board is a SAMD, so `int` has 32 bits.
import SuperCharger.ChargerMessage
import SuperCharger.Derating
import SuperCharger.Runs
import SuperCharger.Zero

namespace super_charger.v26

open machine_int arduino charger_message derating zero

/-! ## The state -/

/-- The six `long` slots of the EEPROM. -/
structure Settings where
  TargetWatts : UInt32
  TargetVolts : UInt32
  TargetChargerCount : UInt32
  TargetMAX_AMPS : UInt32
  Target1CPlus : UInt32
  TargetRAMP_RATE : UInt32
deriving DecidableEq

/-- The globals of the sketch. The unions that are only ever used as a `long` are one. -/
structure State where
  OUTPUT_VOLTS_END : UInt32
  CPlus : UInt32
  RAMP_RATE : UInt32
  C_RATE : Int32
  MAX_STATION_WATTS : UInt32
  chargingAmps : UInt16
  chargerCount : Int32
  watts : UInt32
  delayItteration : Int32
  bikeThrottle : Int16
  volts : Int16
  bikeVolts : Int32
  bikeAmps : UInt16
  monolithVolts : Int32
  powerTankVolts : Int32
  monolithAmps : Int32
  powerTankAmps : Int32
  monolithAH : Int32
  powerTankAH : Int32
  monolithMinTemp : Int32
  powerTankMinTemp : Int32
  monolithMaxTemp : Int32
  powerTankMaxTemp : Int32
  HeartbeatMessage : Message
  EEPROM : Settings

def OUTPUT_VOLTS_MAX : Int32 := 1164
def OUTPUT_VOLTS_MIN : Int32 := 500

def table : VoltageTable where
  OUTPUT_VOLTS_MAX := OUTPUT_VOLTS_MAX
  CUTBACK_COUNT := 10
  OUTPUT_VOLTS_CUTBACK := [900, 980, 1000, 1010, 1020, 1060, 1100, 1140, 1150, 1160]
  OUTPUT_C_RATE_CUTBACK := [30, 28, 25, 23, 20, 18, 13, 10, 7, 6]

/-- The tables that it counts have 28 rows. -/
def TEMP_CUTBACK_COUNT : Nat := 32
def OUTPUT_TEMP_CUTBACK : List UInt16 :=
  [0, 1, 5, 6, 8, 9, 10, 12, 14, 16, 18, 20, 21, 22, 23, 24, 25, 26, 27, 28, 29, 30, 31, 33, 34,
    35, 37, 40]
def OUTPUT_TEMP_C_RATE_CUTBACK : List UInt32 :=
  [2, 3, 4, 5, 6, 7, 8, 9, 10, 11, 12, 13, 14, 15, 16, 17, 18, 19, 20, 22, 23, 24, 25, 26, 27,
    28, 29, 30]

def OVER_TEMP_CUTBACK_COUNT : Nat := 4
def OUTPUT_OVER_TEMP_CUTBACK : List UInt16 := [50, 60, 70, 75]
def OUTPUT_OVER_TEMP_C_RATE_CUTBACK : List UInt32 := [25, 10, 3, 0]

/-! ## The parts of `setChargingAmps`, in their order -/

def refreshVolts (s : State) : State :=
  let s := if s.monolithVolts / 100 > s.volts.toInt32 then
    { s with volts := (s.monolithVolts / 100).toInt16 } else s
  if s.powerTankVolts / 100 > s.volts.toInt32 then
    { s with volts := (s.powerTankVolts / 100).toInt16 } else s

def refreshC_RATE (s : State) : State :=
  if s.monolithAH > 0 ∨ s.powerTankAH > 0 then
    { s with C_RATE := (s.monolithAH + s.powerTankAH) * 10 } else s

def refresh (s : State) : State := refreshC_RATE (refreshVolts s)

def rampUp (s : State) : State :=
  if s.watts < s.MAX_STATION_WATTS then { s with watts := s.watts + s.RAMP_RATE } else s

/-- The cap of a row with this rate, in the state of the call. -/
def State.cap (s : State) (rate : UInt32) : Int32 :=
  maxWatts rate s.C_RATE s.CPlus s.volts s.MAX_STATION_WATTS

def voltsApply (t : VoltageTable) (p : Platform) (s : State) (i : Nat) : Bool :=
  s.volts.toInt32 > promote (read t.OUTPUT_VOLTS_CUTBACK p.pastVolts i)

def voltageCutback (t : VoltageTable) (p : Platform) (s : State) : State :=
  let cap := fun i => s.cap (read t.OUTPUT_C_RATE_CUTBACK p.pastVoltsRate i)
  { s with watts := cutbackLoop t.CUTBACK_COUNT (voltsApply t p s) cap s.watts }

/-- The monolith is cold or not detected, or there is a power tank and it is cold. -/
def coldApplies (p : Platform) (s : State) (i : Nat) : Bool :=
  let temp := (read OUTPUT_TEMP_CUTBACK p.pastTemp i).toInt16
  s.monolithMinTemp < temp.toInt32 ∨ s.powerTankAH > 0 ∧ s.powerTankMinTemp < temp.toInt32

def tempCutback (p : Platform) (s : State) : State :=
  let cap := fun i => s.cap (read OUTPUT_TEMP_C_RATE_CUTBACK p.pastTempRate i)
  { s with watts := cutbackLoop TEMP_CUTBACK_COUNT (coldApplies p s) cap s.watts }

def hotApplies (p : Platform) (s : State) (i : Nat) : Bool :=
  let temp := (read OUTPUT_OVER_TEMP_CUTBACK p.pastOverTemp i).toInt16
  s.monolithMaxTemp > temp.toInt32 ∨ s.powerTankAH > 0 ∧ s.powerTankMaxTemp > temp.toInt32

def overTempCutback (p : Platform) (s : State) : State :=
  let cap := fun i => s.cap (read OUTPUT_OVER_TEMP_C_RATE_CUTBACK p.pastOverTempRate i)
  { s with watts := cutbackLoop OVER_TEMP_CUTBACK_COUNT (hotApplies p s) cap s.watts }

/-- `volts` is compared as unsigned with the end voltage, and as signed with the maximum. -/
def endStep (s : State) : State :=
  if s.volts.toInt32.toUInt32 > s.OUTPUT_VOLTS_END ∨ s.volts.toInt32 > OUTPUT_VOLTS_MAX then
    if s.watts > s.RAMP_RATE * 3 then { s with watts := s.watts - s.RAMP_RATE * 3 }
    else { s with watts := 0 }
  else s

def minStop (s : State) : State :=
  if s.volts.toInt32 ≤ OUTPUT_VOLTS_MIN then { s with watts := 0 } else s

def stationClamp (s : State) : State :=
  if s.watts > s.MAX_STATION_WATTS then { s with watts := s.MAX_STATION_WATTS } else s

/-- The power, from the refreshed state. -/
def chooseWatts (p : Platform) (s : State) : State :=
  stationClamp (minStop (endStep (overTempCutback p (tempCutback p
    (voltageCutback table p (rampUp s))))))

def wattsToAmps (p : Platform) (s : State) : State :=
  { s with chargingAmps := (quotient p s.watts s.volts.toInt32.toUInt32).toUInt16 }

/-- The monolith takes more than 1C. -/
def State.monolithOver (s : State) : Bool := s.monolithAH > 0 ∧ s.monolithAmps > s.monolithAH

def State.powerTankOver (s : State) : Bool := s.powerTankAH > 0 ∧ s.powerTankAmps > s.powerTankAH

/-- `chargingAmps` is promoted for the comparison, and cut to 16 bits by the assignment. -/
def clampToC_RATE (s : State) : State :=
  if promote s.chargingAmps > s.C_RATE then { s with chargingAmps := truncate s.C_RATE } else s

def limitMonolith (s : State) : State :=
  if s.monolithOver then { s with chargingAmps := truncate ((s.monolithAH - 2) * 10) } else s

def limitPowerTank (s : State) : State :=
  if s.powerTankOver then { s with chargingAmps := truncate ((s.powerTankAH - 2) * 10) } else s

/-- The limits on the current, after the division. -/
def limitAmps (s : State) : State :=
  if s.CPlus < 1 then limitPowerTank (limitMonolith (clampToC_RATE s)) else s

def shareAmps (p : Platform) (s : State) : State :=
  let s := { s with bikeAmps := s.chargingAmps }
  { s with chargingAmps := truncate (quotientInt p (promote s.chargingAmps) s.chargerCount) }

def setChargingAmps (p : Platform) (s : State) : State :=
  shareAmps p (limitAmps (wattsToAmps p (chooseWatts p (refresh s))))

/-! ## Commands -/

def updateHeartbeatVoltage (s : State) : State :=
  { s with HeartbeatMessage := writeVoltage s.HeartbeatMessage s.OUTPUT_VOLTS_END }

/-- The six fields of a command, once each is converted to `unsigned long`. -/
structure Command where
  targetVolts : UInt32
  targetMAX_AMPS : UInt32
  targetChargers : UInt32
  targetWattage : UInt32
  target1CPlus : UInt32
  targetRAMP_RATE : UInt32
deriving DecidableEq

/-- One turn of the loop of `readCommands`, up to the conversions. -/
def readCommand (serial : List Char) : Command × List Char :=
  let (commandVolts, serial) := readStringUntil ',' serial
  let (commandMAX_AMPS, serial) := readStringUntil ',' serial
  let (commandChargers, serial) := readStringUntil ',' serial
  let (commandWatts, serial) := readStringUntil ',' serial
  let (command1CPlus, serial) := readStringUntil ',' serial
  let (commandRAMP_RATE, serial) := readStringUntil '\n' serial
  ({ targetVolts := (toIntSamd commandVolts).toUInt32
     targetMAX_AMPS := (toIntSamd commandMAX_AMPS).toUInt32
     targetChargers := (toIntSamd commandChargers).toUInt32
     targetWattage := (toIntSamd commandWatts).toUInt32
     target1CPlus := (toIntSamd command1CPlus).toUInt32
     targetRAMP_RATE := (toIntSamd commandRAMP_RATE).toUInt32 }, serial)

/-- The rest of that turn. The six guards ask whether an unsigned value is at least 0. -/
def applyCommand (s : State) (c : Command) : State :=
  let s := if c.targetVolts ≥ 0 then
      updateHeartbeatVoltage { s with
        OUTPUT_VOLTS_END := c.targetVolts
        EEPROM := { s.EEPROM with TargetVolts := c.targetVolts } }
    else s
  let s := if c.targetMAX_AMPS ≥ 0 then
      { s with
        C_RATE := (c.targetMAX_AMPS * 10).toInt32
        EEPROM := { s.EEPROM with TargetMAX_AMPS := c.targetMAX_AMPS * 10 } }
    else s
  let s := if c.targetChargers ≥ 0 then
      { s with
        chargerCount := c.targetChargers.toInt32
        EEPROM := { s.EEPROM with TargetChargerCount := c.targetChargers } }
    else s
  let s := if c.targetWattage ≥ 0 then
      { s with
        MAX_STATION_WATTS := c.targetWattage * 100
        EEPROM := { s.EEPROM with TargetWatts := c.targetWattage * 100 } }
    else s
  let s := if c.target1CPlus ≥ 0 then
      { s with
        CPlus := c.target1CPlus
        EEPROM := { s.EEPROM with Target1CPlus := c.target1CPlus } }
    else s
  if c.targetRAMP_RATE ≥ 0 then
    { s with
      RAMP_RATE := c.targetRAMP_RATE * 100
      EEPROM := { s.EEPROM with TargetRAMP_RATE := c.targetRAMP_RATE * 100 } }
  else s

/-- The commands in the serial data. Every turn of the loop takes a character or more, so as
many turns as characters are enough. -/
def commandsIn : Nat → List Char → List Command
  | 0, _ => []
  | _ + 1, [] => []
  | turns + 1, c :: cs =>
    (readCommand (c :: cs)).1 :: commandsIn turns (readCommand (c :: cs)).2

theorem readCommand_length (c : Char) (cs : List Char) :
    (readCommand (c :: cs)).2.length ≤ cs.length := by
  unfold readCommand
  simp only
  iterate 5 refine le_trans (readStringUntil_length _ _) ?_
  exact readStringUntil_cons_length ',' c cs

/-- More turns find no more commands. -/
theorem commandsIn_of_le {turns more : Nat} {serial : List Char} (h : serial.length ≤ turns)
    (hmore : serial.length ≤ more) : commandsIn turns serial = commandsIn more serial := by
  induction turns generalizing more serial with
  | zero =>
    rw [List.length_eq_zero_iff.mp (Nat.le_zero.mp h)]
    cases more with
    | zero => rfl
    | succ more => rfl
  | succ turns ih =>
    cases serial with
    | nil =>
      cases more with
      | zero => rfl
      | succ more => rfl
    | cons c cs =>
      cases more with
      | zero => simp at hmore
      | succ more =>
        have hrest := readCommand_length c cs
        simp only [List.length_cons] at h hmore
        have htail : commandsIn turns (readCommand (c :: cs)).2 =
            commandsIn more (readCommand (c :: cs)).2 := ih (by omega) (by omega)
        unfold commandsIn
        rw [htail]

def readCommands (s : State) (serial : List Char) : State :=
  (commandsIn serial.length serial).foldl applyCommand s

/-! ## Boot -/

/-- The globals before `setup`. -/
def globals (EEPROM : Settings) : State where
  OUTPUT_VOLTS_END := 1164
  CPlus := 0
  RAMP_RATE := 5000
  C_RATE := 960
  MAX_STATION_WATTS := 0
  chargingAmps := 0
  chargerCount := 0
  watts := 0
  delayItteration := 55000
  bikeThrottle := 0
  volts := 0
  bikeVolts := 0
  bikeAmps := 0
  monolithVolts := 0
  powerTankVolts := 0
  monolithAmps := 0
  powerTankAmps := 0
  monolithAH := 0
  powerTankAH := 0
  monolithMinTemp := 0
  powerTankMinTemp := 0
  monolithMaxTemp := 0
  powerTankMaxTemp := 0
  HeartbeatMessage := defaultHeartbeat
  EEPROM := EEPROM

def setup (EEPROM : Settings) : State :=
  updateHeartbeatVoltage { globals EEPROM with
    OUTPUT_VOLTS_END := EEPROM.TargetVolts
    C_RATE := EEPROM.TargetMAX_AMPS.toInt32
    chargerCount := EEPROM.TargetChargerCount.toInt32
    MAX_STATION_WATTS := EEPROM.TargetWatts
    CPlus := EEPROM.Target1CPlus
    RAMP_RATE := EEPROM.TargetRAMP_RATE }

/-! ## The two buses -/

/-- Charger volts are used if they differ from the battery's by more than 1.1 V. -/
def receiveCharger (s : State) (ReceivedChargerMessage : Message) : State :=
  let chargerVolts := (voltageOf ReceivedChargerMessage).toInt16
  if chargerVolts.toInt32 > s.volts.toInt32 + 11 ∨ chargerVolts.toInt32 < s.volts.toInt32 - 11 then
    { s with volts := chargerVolts }
  else s

def onMonolithVoltage (s : State) (f : Frame) : State :=
  let s := { s with monolithVolts := f.voltage }
  { s with bikeVolts := s.monolithVolts }

/-- A pack that takes more than 1C brings the next heartbeat forward. -/
def hurry (s : State) (isOver : Bool) : State :=
  if isOver ∧ s.CPlus < 1 ∧ s.delayItteration > 10 then { s with delayItteration := 10 } else s

def onMonolithAmps (s : State) (f : Frame) : State :=
  let s := { s with monolithAmps := f.absAmps }
  let s := { s with bikeAmps := truncate (s.monolithAmps + s.powerTankAmps) }
  hurry s s.monolithOver

def onPowerTankVoltage (s : State) (f : Frame) : State := { s with powerTankVolts := f.voltage }

def onPowerTankAmps (s : State) (f : Frame) : State :=
  let s := { s with powerTankAmps := f.absAmps }
  let s := { s with bikeAmps := truncate (s.monolithAmps + s.powerTankAmps) }
  hurry s s.powerTankOver

def onMonolithPackConfig (s : State) (f : Frame) : State := { s with monolithAH := f.AH.toInt32 }

def onPowerTankPackConfig (s : State) (f : Frame) : State :=
  { s with powerTankAH := f.AH.toInt32 }

def onMonolithPackActiveData (s : State) (f : Frame) : State :=
  let s := { s with monolithMaxTemp := f.highestTemp.toInt32 }
  { s with monolithMinTemp := f.lowestTemp.toInt32 }

def onPowerTankPackActiveData (s : State) (f : Frame) : State :=
  let s := { s with powerTankMaxTemp := f.highestTemp.toInt32 }
  { s with powerTankMinTemp := f.lowestTemp.toInt32 }

def onThrottle (s : State) (f : Frame) : State := { s with bikeThrottle := f.throttle }

/-- The loop over the bike bus. The two frames for the dash, which only change the local buffer
before they are sent on, are left out. -/
def blocks : Blocks State where
  monolithVoltage := onMonolithVoltage
  monolithAmps := onMonolithAmps
  powerTankVoltage := onPowerTankVoltage
  powerTankAmps := onPowerTankAmps
  monolithPackConfig := onMonolithPackConfig
  powerTankPackConfig := onPowerTankPackConfig
  monolithPackActiveData := onMonolithPackActiveData
  powerTankPackActiveData := onPowerTankPackActiveData
  throttle := onThrottle

/-! ## The loop -/

/-- What one call of `loop` finds: the serial data, the messages on the two buses, and what C
leaves open for this call. -/
structure Input where
  serial : List Char
  charger : List Message
  bike : List Frame
  platform : Platform

/-- A call that finds these frames on the bike bus and nothing else. -/
def fromBike (bike : List Frame) : Input :=
  { serial := [], charger := [], bike := bike, platform := zeroPlatform }

/-- A call that finds these frames, and eight calls that find nothing. If one of the frames sets
the timer to 10, the call after them reaches the heartbeat. -/
def upToHeartbeat (bike : List Frame) : List Input :=
  fromBike bike :: List.replicate 8 (fromBike [])

/-- The state once the two buses are drained and the timer is counted down. -/
def polled (s : State) (i : Input) : State :=
  let s := blocks.drain (i.charger.foldl receiveCharger (readCommands s i.serial)) i.bike
  if s.delayItteration > 0 then { s with delayItteration := s.delayItteration - 1 } else s

/-- The heartbeat: `HeartbeatMessage` is sent as this leaves it. -/
def heartbeat (p : Platform) (s : State) : State :=
  let s := setChargingAmps p { s with delayItteration := 22000 }
  { s with HeartbeatMessage := writeCurrent s.HeartbeatMessage s.chargingAmps }

def loop (s : State) (i : Input) : State :=
  if (polled s i).delayItteration < 1 then heartbeat i.platform (polled s i) else polled s i

end super_charger.v26
