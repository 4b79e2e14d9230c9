-- The controller `v3.ino`: the bike bus of `ZERO_BIKE.h`, the BLE settings of
-- `ZERO_V3_BLE.h`, and the loop around the library of `SC.h`.
import SuperCharger.Runs
import SuperCharger.SC
import SuperCharger.Zero

namespace super_charger.v3

open machine_int arduino charger_message derating zero

/-- `VOLTAGE_TABLE_ZERO.h`. -/
def table : VoltageTable where
  OUTPUT_VOLTS_MAX := 1164
  CUTBACK_COUNT := 10
  OUTPUT_VOLTS_CUTBACK := [900, 980, 1000, 1010, 1020, 1060, 1100, 1140, 1150, 1160]
  OUTPUT_C_RATE_CUTBACK := [30, 28, 25, 23, 20, 18, 13, 7, 4, 2]

/-! ## The state -/

/-- The globals of the library, those of the bike bus, and the values that the writable
characteristics hold. The unions that are only ever used as one number are one. -/
structure State extends sc.State where
  bikeThrottle : Int16
  bikeVolts : Int32
  bikeAmps : UInt16
  monolithVolts : Int32
  powerTankVolts : Int32
  monolithAmps : Int32
  powerTankAmps : Int32
  monolithAH : Int32
  powerTankAH : Int32
  monolithMinTemp : Int32
  powerTankMinTemp : Int32
  monolithMaxTemp : Int32
  powerTankMaxTemp : Int32
  chargerTargetVolts : UInt32
  chargerMaxWatts : UInt32
  chargerCountBLE : Int32

/-! ## The bike bus -/

def onMonolithVoltage (s : State) (f : Frame) : State :=
  let s := { s with monolithVolts := f.voltage }
  let s := { s with bikeVolts := s.monolithVolts }
  { s with volts := (s.bikeVolts / 100).toInt16 }

/-- The over-current branch of a pack, once its amps are stored. -/
def throttlePack (s : State) (AH amps : Int32) : State :=
  if AH > 0 ∧ amps > AH ∧ s.CPlus < 1 ∧ s.delayItteration > 10 then
    { s with chargingAmps := truncate ((AH - 2) * 10), delayItteration := 10 }
  else s

def onMonolithAmps (s : State) (f : Frame) : State :=
  let s := { s with monolithAmps := f.absAmps }
  let s := { s with bikeAmps := truncate (s.monolithAmps + s.powerTankAmps) }
  throttlePack s s.monolithAH s.monolithAmps

def onPowerTankVoltage (s : State) (f : Frame) : State :=
  let s := { s with powerTankVolts := f.voltage }
  if s.powerTankVolts > s.bikeVolts then
    let s := { s with bikeVolts := s.powerTankVolts }
    { s with volts := (s.bikeVolts / 100).toInt16 }
  else s

def onPowerTankAmps (s : State) (f : Frame) : State :=
  let s := { s with powerTankAmps := f.absAmps }
  let s := { s with bikeAmps := truncate (s.monolithAmps + s.powerTankAmps) }
  throttlePack s s.powerTankAH s.powerTankAmps

def onMonolithPackConfig (s : State) (f : Frame) : State :=
  let s := { s with monolithAH := f.AH.toInt32 }
  { s with C_RATE := (s.monolithAH + s.powerTankAH) * 10 }

def onPowerTankPackConfig (s : State) (f : Frame) : State :=
  let s := { s with powerTankAH := f.AH.toInt32 }
  { s with C_RATE := (s.monolithAH + s.powerTankAH) * 10 }

def onMonolithPackActiveData (s : State) (f : Frame) : State :=
  let s := { s with monolithMaxTemp := f.highestTemp.toInt32 }
  let s := { s with monolithMinTemp := f.lowestTemp.toInt32 }
  { s with lowTemp := s.monolithMinTemp.toInt16, highTemp := s.monolithMaxTemp.toInt16 }

def onPowerTankPackActiveData (s : State) (f : Frame) : State :=
  let s := { s with powerTankMaxTemp := f.highestTemp.toInt32 }
  let s := { s with powerTankMinTemp := f.lowestTemp.toInt32 }
  { s with lowTemp := s.powerTankMinTemp.toInt16, highTemp := s.powerTankMaxTemp.toInt16 }

def onThrottle (s : State) (f : Frame) : State :=
  { s with bikeThrottle := f.throttle }

/-- The loop over the bike bus. The two frames for the dash, which only change the local buffer
before they are sent on, are left out. -/
def blocks : Blocks State where
  monolithVoltage := onMonolithVoltage
  monolithAmps := onMonolithAmps
  powerTankVoltage := onPowerTankVoltage
  powerTankAmps := onPowerTankAmps
  monolithPackConfig := onMonolithPackConfig
  powerTankPackConfig := onPowerTankPackConfig
  monolithPackActiveData := onMonolithPackActiveData
  powerTankPackActiveData := onPowerTankPackActiveData
  throttle := onThrottle

def bikeLoop (s : State) (frames : List Frame) : State := blocks.drain s frames

/-! ## BLE -/

/-- A write by the central, with the value that the characteristic then holds. -/
inductive Write where
  | chargerTargetVolts (value : UInt32)
  | chargerMaxWatts (value : UInt32)
  | chargerCountBLE (value : Int32)
  | bleUnits (value : UInt8)
deriving DecidableEq

def userUpdate (s : State) : State :=
  { s with
    OUTPUT_VOLTS_END := s.chargerTargetVolts
    MAX_STATION_WATTS := s.chargerMaxWatts
    chargerCount := s.chargerCountBLE }

/-- The library stores the value and calls the handler of the characteristic, if it has one.
The count has none. -/
def write (s : State) : Write → State
  | .chargerTargetVolts value => userUpdate { s with chargerTargetVolts := value }
  | .chargerMaxWatts value => userUpdate { s with chargerMaxWatts := value }
  | .chargerCountBLE value => { s with chargerCountBLE := value }
  | .bleUnits _ => userUpdate s

def written (s : State) (writes : List Write) : State := writes.foldl write s

/-! ## Boot -/

/-- The globals before `setup`. -/
def globals : State where
  toState := sc.globals table 960
  bikeThrottle := 0
  bikeVolts := 0
  bikeAmps := 0
  monolithVolts := 0
  powerTankVolts := 0
  monolithAmps := 0
  powerTankAmps := 0
  monolithAH := 0
  powerTankAH := 0
  monolithMinTemp := 0
  powerTankMinTemp := 0
  monolithMaxTemp := 0
  powerTankMaxTemp := 0
  chargerTargetVolts := 0
  chargerMaxWatts := 0
  chargerCountBLE := 0

/-- The part of `bleSetup` that the settings depend on. -/
def bleSetup (s : State) : State :=
  { s with
    chargerTargetVolts := s.OUTPUT_VOLTS_END
    chargerMaxWatts := s.MAX_STATION_WATTS
    chargerCountBLE := s.chargerCount }

def setup : State := bleSetup { globals with OUTPUT_VOLTS_END := 1320 }

/-! ## The loop -/

/-- What one call of `loop` finds: the writes that `BLE.central` and `BLE.poll` deliver, the
messages on the two buses, and what C leaves open for this call. -/
structure Input where
  central : List Write
  bike : List Frame
  charger : List Message
  poll : List Write
  platform : Platform

/-- A call that finds these frames on the bike bus and nothing else. -/
def fromBike (bike : List Frame) : Input :=
  { central := [], bike := bike, charger := [], poll := [], platform := zeroPlatform }

/-- A call that finds these frames, and eight calls that find nothing. If one of the frames sets
the timer to 10, the call after them reaches the heartbeat. -/
def upToHeartbeat (bike : List Frame) : List Input :=
  fromBike bike :: List.replicate 8 (fromBike [])

def countDown (s : State) : State :=
  if s.delayItteration > 0 then { s with delayItteration := s.delayItteration - 1 } else s

/-- The state once the settings and the bike bus are read and the timer is counted down. -/
def polled (s : State) (i : Input) : State := countDown (bikeLoop (written s i.central) i.bike)

/-- The timer is set again before the charger bus is read. -/
def rearm (s : State) : State := { s with delayItteration := sc.DelayItteration / 2 }

/-- The state in which `setChargingAmps` runs. -/
def atCharging (s : State) (i : Input) : State :=
  { rearm s with toState := sc.drain (rearm s).toState i.charger }

/-- The power and the current of the next heartbeat. -/
def charge (s : State) (i : Input) : State :=
  { rearm s with toState := sc.superChargerLoop table i.platform (rearm s).toState i.charger }

/-- The heartbeat goes out after the writes that `BLE.poll` delivers. -/
def heartbeat (s : State) (i : Input) : State :=
  let s := written (charge s i) i.poll
  { s with toState := sc.superCharge s.toState }

/-- The call of `loop` reaches the heartbeat. -/
def Due (s : State) (i : Input) : Prop := (polled s i).delayItteration < 1

instance (s : State) (i : Input) : Decidable (Due s i) :=
  inferInstanceAs (Decidable ((polled s i).delayItteration < 1))

def loop (s : State) (i : Input) : State :=
  if Due s i then heartbeat (polled s i) i else polled s i

end super_charger.v3
