-- `SC.h`: the charging law, the charger bus and the heartbeat of the `v3`
-- library, on a SAMD board and over a voltage table that the sketch includes.
import SuperCharger.ChargerMessage
import SuperCharger.Derating

namespace super_charger.sc

open machine_int arduino charger_message derating

/-! ## The state -/

/-- The globals of `SC.h`, and the C-rate of the table header. -/
structure State where
  delayItteration : Int32
  OUTPUT_VOLTS_END : UInt32
  CPlus : UInt32
  lowTemp : Int16
  highTemp : Int16
  RAMP_RATE : UInt32
  MAX_STATION_WATTS : UInt32
  chargingAmps : UInt16
  chargerCount : Int32
  watts : UInt32
  volts : Int16
  HeartbeatMessage : Message
  C_RATE : Int32

def DelayItteration : Int32 := 85000
def OUTPUT_VOLTS_MIN : Int32 := 500
def STATION_WATTS_DEFAULT : UInt32 := 660000
def MAX_12V_WATTS : Int32 := 600

/-- The table that it counts has 28 rows. -/
def TEMP_CUTBACK_COUNT : Nat := 32
def OUTPUT_TEMP_CUTBACK : List UInt16 :=
  [0, 1, 5, 6, 8, 9, 10, 12, 14, 16, 18, 20, 21, 22, 23, 24, 25, 26, 27, 28, 29, 30, 31, 33, 34,
    35, 37, 40]
def OUTPUT_TEMP_C_RATE_CUTBACK : List UInt32 :=
  [1, 2, 3, 4, 5, 6, 7, 8, 10, 11, 12, 13, 14, 15, 16, 17, 18, 19, 20, 22, 23, 24, 25, 26, 27,
    28, 29, 30]

def OVER_TEMP_CUTBACK_COUNT : Nat := 4
def OUTPUT_OVER_TEMP_CUTBACK : List UInt16 := [50, 60, 70, 75]
def OUTPUT_OVER_TEMP_C_RATE_CUTBACK : List UInt32 := [25, 10, 3, 0]

/-- The globals at power-up, on a header with this C-rate. -/
def globals (t : VoltageTable) (C_RATE : Int32) : State where
  delayItteration := DelayItteration
  OUTPUT_VOLTS_END := t.OUTPUT_VOLTS_MAX.toUInt32
  CPlus := 0
  lowTemp := 0
  highTemp := 0
  RAMP_RATE := 5000
  MAX_STATION_WATTS := STATION_WATTS_DEFAULT
  chargingAmps := 0
  chargerCount := 0
  watts := 0
  volts := 0
  HeartbeatMessage := defaultHeartbeat
  C_RATE := C_RATE

/-! ## The parts of `setChargingAmps`, in their order -/

def rampUp (s : State) : State :=
  if s.watts < s.MAX_STATION_WATTS then { s with watts := s.watts + s.RAMP_RATE } else s

/-- The cap of a row with this rate, in the state of the call. -/
def State.cap (s : State) (rate : UInt32) : Int32 :=
  maxWatts rate s.C_RATE s.CPlus s.volts s.MAX_STATION_WATTS

def voltsApply (t : VoltageTable) (p : Platform) (s : State) (i : Nat) : Bool :=
  s.volts.toInt32 > promote (read t.OUTPUT_VOLTS_CUTBACK p.pastVolts i)

/-- A row lowers the power when the voltage is above its own, and then once more whatever the
voltage is. -/
def voltageCutback (t : VoltageTable) (p : Platform) (s : State) : State :=
  let cap := fun i => s.cap (read t.OUTPUT_C_RATE_CUTBACK p.pastVoltsRate i)
  let row := fun watts i => lower true (cap i) (lower (voltsApply t p s i) (cap i) watts)
  { s with watts := (List.range t.CUTBACK_COUNT).foldl row s.watts }

def coldApplies (p : Platform) (s : State) (i : Nat) : Bool :=
  s.lowTemp ≤ (read OUTPUT_TEMP_CUTBACK p.pastTemp i).toInt16

def tempCutback (p : Platform) (s : State) : State :=
  let cap := fun i => s.cap (read OUTPUT_TEMP_C_RATE_CUTBACK p.pastTempRate i)
  { s with watts := cutbackLoop TEMP_CUTBACK_COUNT (coldApplies p s) cap s.watts }

def hotApplies (p : Platform) (s : State) (i : Nat) : Bool :=
  s.highTemp ≥ (read OUTPUT_OVER_TEMP_CUTBACK p.pastOverTemp i).toInt16

def overTempCutback (p : Platform) (s : State) : State :=
  let cap := fun i => s.cap (read OUTPUT_OVER_TEMP_C_RATE_CUTBACK p.pastOverTempRate i)
  { s with watts := cutbackLoop OVER_TEMP_CUTBACK_COUNT (hotApplies p s) cap s.watts }

/-- `volts` is compared as unsigned with the end voltage. -/
def endStep (s : State) : State :=
  if s.volts.toInt32.toUInt32 ≥ s.OUTPUT_VOLTS_END then
    if s.watts > s.RAMP_RATE * 3 then { s with watts := s.watts - s.RAMP_RATE * 3 }
    else { s with watts := 0 }
  else s

def rangeStop (t : VoltageTable) (s : State) : State :=
  if s.volts.toInt32 > t.OUTPUT_VOLTS_MAX ∨ s.volts.toInt32 < OUTPUT_VOLTS_MIN then
    { s with watts := 0 }
  else s

/-- The supplies of the chargers are taken off the station limit. -/
def stationClamp (s : State) : State :=
  if s.watts > s.MAX_STATION_WATTS then
    { s with watts := s.MAX_STATION_WATTS - (MAX_12V_WATTS * s.chargerCount).toUInt32 }
  else s

/-- The power. -/
def chooseWatts (t : VoltageTable) (p : Platform) (s : State) : State :=
  stationClamp (rangeStop t (endStep (overTempCutback p (tempCutback p
    (voltageCutback t p (rampUp s))))))

def wattsToAmps (p : Platform) (s : State) : State :=
  { s with chargingAmps := (quotient p s.watts s.volts.toInt32.toUInt32).toUInt16 }

/-- `chargingAmps` is promoted for the comparison, and cut to 16 bits by the assignment. -/
def clampToC_RATE (s : State) : State :=
  if s.CPlus < 1 then
    if promote s.chargingAmps > s.C_RATE then { s with chargingAmps := truncate s.C_RATE } else s
  else s

def shareAmps (p : Platform) (s : State) : State :=
  { s with chargingAmps := truncate (quotientInt p (promote s.chargingAmps) s.chargerCount) }

def setChargingAmps (t : VoltageTable) (p : Platform) (s : State) : State :=
  shareAmps p (clampToC_RATE (wattsToAmps p (chooseWatts t p s)))

/-! ## The charger bus -/

def receiveCharger (s : State) (ReceivedChargerMessage : Message) : State :=
  { s with volts := (voltageOf ReceivedChargerMessage).toInt16 }

/-- The loop of `superChargerLoop`. -/
def drain (s : State) (messages : List Message) : State := messages.foldl receiveCharger s

def superChargerLoop (t : VoltageTable) (p : Platform) (s : State) (messages : List Message) :
    State := setChargingAmps t p (drain s messages)

/-- The heartbeat is sent as this leaves it. -/
def superCharge (s : State) : State :=
  { s with HeartbeatMessage :=
      writeCurrent (writeVoltage s.HeartbeatMessage s.OUTPUT_VOLTS_END) s.chargingAmps }

end super_charger.sc
