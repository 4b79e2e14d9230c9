-- The controller `v2.5.ino` and its `DEBUG_2.5.ino`: the state, the charging law, the
-- commands, the frame handlers and the loop. The board is an AVR, so `int` has 16 bits.
import SuperCharger.ChargerMessage
import SuperCharger.Derating
import SuperCharger.EEPROM
import SuperCharger.Runs
import SuperCharger.Zero

namespace super_charger.v25

open machine_int arduino charger_message derating eeprom zero

/-! ## The state -/

/-- The two sketches. They differ in one block of `setChargingAmps`, and in what they print. -/
inductive Sketch where
  | v2_5
  | DEBUG_2_5

/-- The globals of the sketch, and the stored words. The unions that are only ever used as a
`long` are one. -/
structure State where
  OUTPUT_VOLTS_END : UInt32
  CPlus : UInt32
  RAMP_RATE : UInt32
  C_RATE : Int32
  MAX_STATION_WATTS : UInt32
  chargingAmps : UInt16
  chargerCount : Int16
  watts : UInt32
  delayItteration : Int32
  bikeThrottle : Int16
  volts : Int16
  bikeVolts : Int32
  bikeAmps : UInt16
  monolithVolts : Int32
  powerTankVolts : Int32
  monolithAmps : Int32
  powerTankAmps : Int32
  monolithAH : Int32
  powerTankAH : Int32
  monolithMinTemp : Int32
  powerTankMinTemp : Int32
  monolithMaxTemp : Int32
  powerTankMaxTemp : Int32
  HeartbeatMessage : Message
  EEPROM : EEPROM

def TargetWattsAddress : Nat := 0
def TargetVoltsAddress : Nat := 4
def TargetChargerCountAddress : Nat := 8
def TargetMAX_AMPSAddress : Nat := 12
def Target1CPlusAddress : Nat := 16
def TargetRAMP_RATEAddress : Nat := 20

def MAX_12V_WATTS : Int16 := 600
def OUTPUT_VOLTS_MAX : Int16 := 1164
def OUTPUT_VOLTS_MIN : Int16 := 700

def CUTBACK_COUNT : Nat := 10
def OUTPUT_VOLTS_CUTBACK : List UInt16 :=
  [900, 980, 1000, 1010, 1020, 1060, 1100, 1140, 1150, 1160]
def OUTPUT_C_RATE_CUTBACK : List UInt32 := [30, 28, 25, 23, 20, 18, 13, 10, 7, 6]

/-- The tables that it counts have 28 rows. -/
def TEMP_CUTBACK_COUNT : Nat := 32
def OUTPUT_TEMP_CUTBACK : List UInt16 :=
  [0, 1, 5, 6, 8, 9, 10, 12, 14, 16, 18, 20, 21, 22, 23, 24, 25, 26, 27, 28, 29, 30, 31, 33, 34,
    35, 37, 40]
def OUTPUT_TEMP_C_RATE_CUTBACK : List UInt32 :=
  [2, 3, 4, 5, 6, 7, 8, 9, 10, 11, 12, 13, 14, 15, 16, 17, 18, 19, 20, 22, 23, 24, 25, 26, 27,
    28, 29, 30]

def OVER_TEMP_CUTBACK_COUNT : Nat := 4
def OUTPUT_OVER_TEMP_CUTBACK : List UInt16 := [50, 60, 70, 75]
def OUTPUT_OVER_TEMP_C_RATE_CUTBACK : List UInt32 := [25, 10, 3, 0]

/-! ## The parts of `setChargingAmps`, in their order -/

def refreshVolts (s : State) : State :=
  let s := if s.monolithVolts / 100 > s.volts.toInt32 then
    { s with volts := (s.monolithVolts / 100).toInt16 } else s
  if s.powerTankVolts / 100 > s.volts.toInt32 then
    { s with volts := (s.powerTankVolts / 100).toInt16 } else s

def refreshC_RATE (s : State) : State :=
  if s.monolithAH > 0 ∨ s.powerTankAH > 0 then
    { s with C_RATE := (s.monolithAH + s.powerTankAH) * 10 } else s

def rampUp (s : State) : State :=
  if s.watts < s.MAX_STATION_WATTS then { s with watts := s.watts + s.RAMP_RATE } else s

/-- The cap of a row with this rate, in the state of the call. -/
def State.cap (s : State) (rate : UInt32) : Int32 :=
  maxWatts rate s.C_RATE s.CPlus s.volts s.MAX_STATION_WATTS

/-- `unsigned short` is as wide as `int`, so the comparison is unsigned. -/
def voltsApply (p : Platform) (s : State) (i : Nat) : Bool :=
  s.volts.toUInt16 > read OUTPUT_VOLTS_CUTBACK p.pastVolts i

def voltageCutback (p : Platform) (s : State) : State :=
  let cap := fun i => s.cap (read OUTPUT_C_RATE_CUTBACK p.pastVoltsRate i)
  { s with watts := cutbackLoop CUTBACK_COUNT (voltsApply p s) cap s.watts }

/-- The monolith is cold or not detected, or there is a power tank and it is cold. -/
def coldApplies (p : Platform) (s : State) (i : Nat) : Bool :=
  let temp := (read OUTPUT_TEMP_CUTBACK p.pastTemp i).toInt16
  s.monolithMinTemp < temp.toInt32 ∨ s.powerTankAH > 0 ∧ s.powerTankMinTemp < temp.toInt32

def tempCutback (p : Platform) (s : State) : State :=
  let cap := fun i => s.cap (read OUTPUT_TEMP_C_RATE_CUTBACK p.pastTempRate i)
  { s with watts := cutbackLoop TEMP_CUTBACK_COUNT (coldApplies p s) cap s.watts }

def hotApplies (p : Platform) (s : State) (i : Nat) : Bool :=
  let temp := (read OUTPUT_OVER_TEMP_CUTBACK p.pastOverTemp i).toInt16
  s.monolithMaxTemp > temp.toInt32 ∨ s.powerTankAH > 0 ∧ s.powerTankMaxTemp > temp.toInt32

def overTempCutback (p : Platform) (s : State) : State :=
  let cap := fun i => s.cap (read OUTPUT_OVER_TEMP_C_RATE_CUTBACK p.pastOverTempRate i)
  { s with watts := cutbackLoop OVER_TEMP_CUTBACK_COUNT (hotApplies p s) cap s.watts }

/-- `volts` is compared as unsigned with the end voltage. -/
def endStep (s : State) : State :=
  if s.volts.toInt32.toUInt32 > s.OUTPUT_VOLTS_END then
    if s.watts > s.RAMP_RATE * 3 then { s with watts := s.watts - s.RAMP_RATE * 3 }
    else { s with watts := 0 }
  else s

/-- The block is commented out in `v2.5`. -/
def rangeStop (sk : Sketch) (s : State) : State :=
  match sk with
  | .v2_5 => s
  | .DEBUG_2_5 =>
    if s.volts > OUTPUT_VOLTS_MAX ∨ s.volts < OUTPUT_VOLTS_MIN then { s with watts := 0 } else s

/-- The supplies of the chargers, a product of 16 bits, are taken off the station limit. -/
def stationClamp (s : State) : State :=
  if s.watts > s.MAX_STATION_WATTS then
    { s with watts := s.MAX_STATION_WATTS - (MAX_12V_WATTS * s.chargerCount).toInt32.toUInt32 }
  else s

/-- The power, from the refreshed state. -/
def chooseWatts (sk : Sketch) (p : Platform) (s : State) : State :=
  stationClamp (rangeStop sk (endStep (overTempCutback p (tempCutback p
    (voltageCutback p (rampUp s))))))

def wattsToAmps (p : Platform) (s : State) : State :=
  { s with chargingAmps := (quotient p s.watts s.volts.toInt32.toUInt32).toUInt16 }

/-- `chargingAmps` is promoted for the comparison, and cut to 16 bits by the assignment. -/
def clampToC_RATE (s : State) : State :=
  if promote s.chargingAmps > s.C_RATE then { s with chargingAmps := truncate s.C_RATE } else s

/-- The monolith takes more than 1C. -/
def State.monolithOver (s : State) : Bool := s.monolithAH > 0 ∧ s.monolithAmps > s.monolithAH

def State.powerTankOver (s : State) : Bool := s.powerTankAH > 0 ∧ s.powerTankAmps > s.powerTankAH

def limitMonolith (s : State) : State :=
  if s.monolithOver then { s with chargingAmps := truncate ((s.monolithAH - 2) * 10) } else s

def limitPowerTank (s : State) : State :=
  if s.powerTankOver then { s with chargingAmps := truncate ((s.powerTankAH - 2) * 10) } else s

/-- The limits on the current, after the division. -/
def limitAmps (s : State) : State :=
  if s.CPlus < 1 then limitPowerTank (limitMonolith (clampToC_RATE s)) else s

/-- The division of an `unsigned short` by an `int`: unsigned, in 16 bits. -/
def quotient16 (p : Platform) (a : UInt16) (b : Int16) : UInt16 :=
  if b = 0 then p.divZero.toUInt16 else a / b.toUInt16

def shareAmps (p : Platform) (s : State) : State :=
  let s := { s with bikeAmps := s.chargingAmps }
  { s with chargingAmps := quotient16 p s.chargingAmps s.chargerCount }

def setChargingAmps (sk : Sketch) (p : Platform) (s : State) : State :=
  shareAmps p (limitAmps (wattsToAmps p (chooseWatts sk p (refreshC_RATE (refreshVolts s)))))

/-! ## Commands -/

/-- The six fields of a command, once each is converted to `unsigned long`. -/
structure Command where
  targetVolts : UInt32
  targetMAX_AMPS : UInt32
  targetChargers : UInt32
  targetWattage : UInt32
  target1CPlus : UInt32
  targetRAMP_RATE : UInt32
deriving DecidableEq

/-- One turn of the loop of `readCommands`, up to the conversions. -/
def readCommand (serial : List Char) : Command × List Char :=
  let (commandVolts, serial) := readStringUntil ',' serial
  let (commandMAX_AMPS, serial) := readStringUntil ',' serial
  let (commandChargers, serial) := readStringUntil ',' serial
  let (commandWatts, serial) := readStringUntil ',' serial
  let (command1CPlus, serial) := readStringUntil ',' serial
  let (commandRAMP_RATE, serial) := readStringUntil '\n' serial
  ({ targetVolts := (toIntAvr commandVolts).toUInt32
     targetMAX_AMPS := (toIntAvr commandMAX_AMPS).toUInt32
     targetChargers := (toIntAvr commandChargers).toUInt32
     targetWattage := (toIntAvr commandWatts).toUInt32
     target1CPlus := (toIntAvr command1CPlus).toUInt32
     targetRAMP_RATE := (toIntAvr commandRAMP_RATE).toUInt32 }, serial)

/-- `EEPROM.writeLong` as the sketch calls it: what it returns is not looked at. -/
def save (s : State) (address : Nat) (value : UInt32) : State :=
  { s with EEPROM := (EEPROMClassEx.writeLong s.EEPROM address value).2 }

/-- The last five guards ask whether an unsigned value is at least 0. -/
def applyCommand (s : State) (c : Command) : State :=
  let s := if c.targetVolts ≥ OUTPUT_VOLTS_MIN.toInt32.toUInt32 ∧
        c.targetVolts ≤ OUTPUT_VOLTS_MAX.toInt32.toUInt32 then
      let s := { s with OUTPUT_VOLTS_END := c.targetVolts }
      save s TargetVoltsAddress s.OUTPUT_VOLTS_END
    else s
  let s := if c.targetMAX_AMPS ≥ 0 then
      let s := { s with C_RATE := (c.targetMAX_AMPS * 10).toInt32 }
      save s TargetMAX_AMPSAddress s.C_RATE.toUInt32
    else s
  let s := if c.targetChargers ≥ 0 then
      let s := { s with chargerCount := c.targetChargers.toUInt16.toInt16 }
      save s TargetChargerCountAddress s.chargerCount.toInt32.toUInt32
    else s
  let s := if c.targetWattage ≥ 0 then
      let s := { s with MAX_STATION_WATTS := c.targetWattage * 100 }
      save s TargetWattsAddress s.MAX_STATION_WATTS
    else s
  let s := if c.target1CPlus ≥ 0 then
      let s := { s with CPlus := c.target1CPlus }
      save s Target1CPlusAddress s.CPlus
    else s
  if c.targetRAMP_RATE ≥ 0 then
    let s := { s with RAMP_RATE := c.targetRAMP_RATE * 100 }
    save s TargetRAMP_RATEAddress s.RAMP_RATE
  else s

/-- The commands in the serial data. Every turn of the loop takes a character or more, so as
many turns as characters are enough. -/
def commandsIn : Nat → List Char → List Command
  | 0, _ => []
  | _ + 1, [] => []
  | turns + 1, c :: cs =>
    (readCommand (c :: cs)).1 :: commandsIn turns (readCommand (c :: cs)).2

/-- The commands that `readCommands` finds in the serial data. -/
def commands (serial : List Char) : List Command := commandsIn serial.length serial

def readCommands (s : State) (serial : List Char) : State :=
  (commands serial).foldl applyCommand s

/-! ## Boot -/

/-- The globals before `setup`, on a board that powers up with this EEPROM. -/
def globals (e : EEPROM) : State where
  OUTPUT_VOLTS_END := 1164
  CPlus := 0
  RAMP_RATE := 5000
  C_RATE := 960
  MAX_STATION_WATTS := 0
  chargingAmps := 0
  chargerCount := 0
  watts := 0
  delayItteration := 55000
  bikeThrottle := 0
  volts := 0
  bikeVolts := 0
  bikeAmps := 0
  monolithVolts := 0
  powerTankVolts := 0
  monolithAmps := 0
  powerTankAmps := 0
  monolithAH := 0
  powerTankAH := 0
  monolithMinTemp := 0
  powerTankMinTemp := 0
  monolithMaxTemp := 0
  powerTankMaxTemp := 0
  HeartbeatMessage := defaultHeartbeat
  EEPROM := { e with _writeCounts := 0 }

def setup (e : EEPROM) : State :=
  { globals e with
    OUTPUT_VOLTS_END := EEPROMClassEx.readLong e TargetVoltsAddress
    C_RATE := (EEPROMClassEx.readLong e TargetMAX_AMPSAddress).toInt32
    chargerCount := (EEPROMClassEx.readLong e TargetChargerCountAddress).toUInt16.toInt16
    MAX_STATION_WATTS := EEPROMClassEx.readLong e TargetWattsAddress
    CPlus := EEPROMClassEx.readLong e Target1CPlusAddress
    RAMP_RATE := EEPROMClassEx.readLong e TargetRAMP_RATEAddress }

/-! ## The two buses -/

def receiveCharger (s : State) (ReceivedChargerMessage : Message) : State :=
  { s with volts := (voltageOf ReceivedChargerMessage).toInt16 }

def onMonolithVoltage (s : State) (f : Frame) : State :=
  let s := { s with monolithVolts := f.voltage }
  { s with bikeVolts := s.monolithVolts }

/-- `abs(zero.amps(len,buf,canId))`: the macro of the Arduino core, in a 16-bit `int`. -/
def absAmps (f : Frame) : Int32 := (if f.amps > 0 then f.amps else -f.amps).toInt32

/-- A pack that takes more than 1C brings the next heartbeat forward. -/
def hurry (s : State) (isOver : Bool) : State :=
  if isOver ∧ s.CPlus < 1 ∧ s.delayItteration > 10 then { s with delayItteration := 10 } else s

def onMonolithAmps (s : State) (f : Frame) : State :=
  let s := { s with monolithAmps := absAmps f }
  let s := { s with bikeAmps := truncate (s.monolithAmps + s.powerTankAmps) }
  hurry s s.monolithOver

def onPowerTankVoltage (s : State) (f : Frame) : State := { s with powerTankVolts := f.voltage }

def onPowerTankAmps (s : State) (f : Frame) : State :=
  let s := { s with powerTankAmps := absAmps f }
  let s := { s with bikeAmps := truncate (s.monolithAmps + s.powerTankAmps) }
  hurry s s.powerTankOver

def onMonolithPackConfig (s : State) (f : Frame) : State := { s with monolithAH := f.AH.toInt32 }

def onPowerTankPackConfig (s : State) (f : Frame) : State :=
  { s with powerTankAH := f.AH.toInt32 }

def onMonolithPackActiveData (s : State) (f : Frame) : State :=
  let s := { s with monolithMaxTemp := f.highestTemp.toInt32 }
  { s with monolithMinTemp := f.lowestTemp.toInt32 }

def onPowerTankPackActiveData (s : State) (f : Frame) : State :=
  let s := { s with powerTankMaxTemp := f.highestTemp.toInt32 }
  { s with powerTankMinTemp := f.lowestTemp.toInt32 }

def onThrottle (s : State) (f : Frame) : State := { s with bikeThrottle := f.throttle }

/-- The loop over the bike bus. The two frames for the dash, which only change the local buffer
before they are sent on, are left out. -/
def blocks : Blocks State where
  monolithVoltage := onMonolithVoltage
  monolithAmps := onMonolithAmps
  powerTankVoltage := onPowerTankVoltage
  powerTankAmps := onPowerTankAmps
  monolithPackConfig := onMonolithPackConfig
  powerTankPackConfig := onPowerTankPackConfig
  monolithPackActiveData := onMonolithPackActiveData
  powerTankPackActiveData := onPowerTankPackActiveData
  throttle := onThrottle

/-! ## The loop -/

/-- What one call of `loop` finds: the serial data, the messages on the two buses, and what C
leaves open for this call. -/
structure Input where
  serial : List Char
  charger : List Message
  bike : List Frame
  platform : Platform

/-- A call that finds this text in the serial data and nothing else. -/
def fromSerial (serial : List Char) : Input :=
  { serial := serial, charger := [], bike := [], platform := zeroPlatform }

/-- The state once the two buses are drained and the timer is counted down. -/
def polled (s : State) (i : Input) : State :=
  let s := blocks.drain (i.charger.foldl receiveCharger (readCommands s i.serial)) i.bike
  if s.delayItteration > 0 then { s with delayItteration := s.delayItteration - 1 } else s

/-- The heartbeat: `HeartbeatMessage` is sent as this leaves it. -/
def heartbeat (sk : Sketch) (p : Platform) (s : State) : State :=
  let s := setChargingAmps sk p { s with delayItteration := 22000 }
  { s with HeartbeatMessage := writeCurrent s.HeartbeatMessage s.chargingAmps }

def loop (sk : Sketch) (s : State) (i : Input) : State :=
  if (polled s i).delayItteration < 1 then heartbeat sk i.platform (polled s i) else polled s i

end super_charger.v25
