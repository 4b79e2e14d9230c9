-- The load-share sketches. `loadShare.ino` and `13kw_load_share.ino` have the
-- same loop: they differ in their constants, in the body of the cutback loop
-- and in the library that stores the limit.
import SuperCharger.ChargerMessage
import SuperCharger.EEPROM
import SuperCharger.Runs

namespace super_charger.load_share

open machine_int arduino charger_message eeprom

/-- The globals of the sketch. The boards are AVR, so `int` has 16 bits. -/
structure State where
  MAX_STATION_WATTS : UInt32
  chargingAmps : UInt16
  chargerCount : Int16
  volts : UInt16
  amps : UInt16
  lastWatts : UInt32
  watts : UInt32
  stationWatts : UInt32
  HeartbeatMessage : Message
  flagRecv : UInt8
  EEPROM : EEPROM

/-! ## What the sketches share -/

def TargetWattsAddress : Nat := 0
def WATTAGE_MAX_UNSET : UInt32 := 1400000
def STATION_WATTS_DEFAULT : UInt32 := 660000
def MAX_12V_WATTS : UInt32 := 7600

/-- What the sketches differ in. -/
structure Sketch where
  OUTPUT_VOLTS_MAX : UInt16
  OUTPUT_VOLTS_MIN : UInt16
  RAMP_RATE : UInt32
  OUTPUT_VOLTS_CUTBACK : List UInt16
  OUTPUT_WATTS_CUTBACK : List UInt32
  /-- The body of the cutback loop: the new `MAX_STATION_WATTS` and `watts`, from the cap of
  the row and the old two. -/
  cutback : UInt32 → UInt32 → UInt32 → UInt32 × UInt32
  /-- The store to the EEPROM in `readCommands`. -/
  save : EEPROM → UInt32 → EEPROM
  /-- The load from the EEPROM in `setup`. -/
  load : EEPROM → UInt32

def MCP2515_ISR (s : State) : State := { s with flagRecv := 1 }

/-- Lean gives 0 for a division by 0. `loop` calls this only after the test of the minimum
voltage, so `volts` is not 0, and `chargerCount` is 0 only when a batch wraps its 16 bits. -/
def setChargingAmps (s : State) : State :=
  { s with chargingAmps :=
      (s.watts / s.volts.toUInt32 / s.chargerCount.toInt32.toUInt32).toUInt16 }

/-- One turn of the loop in `readCommands`, on the text that `readStringUntil` gives. -/
def readCommand (sk : Sketch) (s : State) (commandWatts : List Char) : State :=
  let targetWattage := (toIntAvr commandWatts).toUInt32
  let s := if targetWattage ≥ 0 then
      { s with MAX_STATION_WATTS := targetWattage, EEPROM := sk.save s.EEPROM targetWattage }
    else s
  if targetWattage < 0 then { s with MAX_STATION_WATTS := 0 } else s

/-- The terminator that the sketches pass is a string where the library wants a character, so
where a text ends is left to the environment: `commands` holds the texts as they come. -/
def readCommands (sk : Sketch) (s : State) (commands : List (List Char)) : State :=
  commands.foldl (readCommand sk) s

/-- The globals before `setup`, on a board that powers up with this EEPROM. -/
def globals (e : EEPROM) : State where
  MAX_STATION_WATTS := 0
  chargingAmps := 0
  chargerCount := 0
  volts := 0
  amps := 0
  lastWatts := 0
  watts := 0
  stationWatts := 0
  HeartbeatMessage := defaultHeartbeat
  flagRecv := 0
  EEPROM := { e with _writeCounts := 0 }

def setup (sk : Sketch) (e : EEPROM) : State :=
  let s := { globals e with MAX_STATION_WATTS := sk.load e }
  if s.MAX_STATION_WATTS > WATTAGE_MAX_UNSET then
    { s with MAX_STATION_WATTS := STATION_WATTS_DEFAULT }
  else s

/-! ## The parts of the `flagRecv` block, in their order -/

def startCycle (s : State) : State :=
  { s with
    flagRecv := 0
    chargerCount := 0
    volts := 0
    amps := 0
    lastWatts := s.watts
    watts := 0 }

/-- One turn of the drain loop, once `readMsgBuf` has filled the buffer. -/
def receive (s : State) (ReceivedChargerMessage : Message) : State :=
  { s with
    chargerCount := s.chargerCount + 1
    volts := s.volts + voltageOf ReceivedChargerMessage
    amps := s.amps + currentOf ReceivedChargerMessage }

/-- `unsigned short` and `int` have the same width here, so the division is unsigned. -/
def averageVolts (s : State) : State :=
  if s.chargerCount > 1 then { s with volts := s.volts / s.chargerCount.toUInt16 } else s

/-- The product is taken in 16 bits. -/
def measureWatts (s : State) : State :=
  let s := { s with watts := (s.amps * s.volts).toUInt32 }
  let s := if s.watts < s.lastWatts then { s with watts := s.lastWatts } else s
  { s with stationWatts := s.watts + MAX_12V_WATTS }

def rampUp (sk : Sketch) (s : State) : State :=
  if s.stationWatts < s.MAX_STATION_WATTS then { s with watts := s.watts + sk.RAMP_RATE } else s

def clampToStation (s : State) : State :=
  if s.stationWatts > s.MAX_STATION_WATTS then
    { s with watts := s.MAX_STATION_WATTS - MAX_12V_WATTS }
  else s

def stopAboveMax (sk : Sketch) (s : State) : State :=
  if s.volts > sk.OUTPUT_VOLTS_MAX then { s with watts := 0 } else s

/-- One turn of the cutback loop. -/
def cutbackRow (sk : Sketch) (s : State) (row : UInt16 × UInt32) : State :=
  if s.volts > row.1 ∧ s.watts > row.2 then
    let after := sk.cutback row.2 s.MAX_STATION_WATTS s.watts
    { s with MAX_STATION_WATTS := after.1, watts := after.2 }
  else s

def Sketch.rows (sk : Sketch) : List (UInt16 × UInt32) :=
  sk.OUTPUT_VOLTS_CUTBACK.zip sk.OUTPUT_WATTS_CUTBACK

def cutbackLoop (sk : Sketch) (s : State) : State := sk.rows.foldl (cutbackRow sk) s

def stopBelowMin (sk : Sketch) (s : State) : State :=
  if s.volts < sk.OUTPUT_VOLTS_MIN then { s with watts := 0 } else s

/-- The power that the block chooses. -/
def chooseWatts (sk : Sketch) (s : State) (batch : List Message) : State :=
  let s := averageVolts (batch.foldl receive (startCycle s))
  stopBelowMin sk (cutbackLoop sk (stopAboveMax sk (clampToStation (rampUp sk (measureWatts s)))))

/-- The `flagRecv` block, on the messages that `checkReceive` finds. -/
def flagRecvBlock (sk : Sketch) (s : State) (batch : List Message) : State :=
  let s := chooseWatts sk s batch
  let s := if s.watts > 0 then setChargingAmps s else s
  { s with HeartbeatMessage := writeCurrent s.HeartbeatMessage s.chargingAmps }

/-- One call of `loop`. The heartbeat that it sends is `HeartbeatMessage` as it leaves it. -/
def loop (sk : Sketch) (s : State) (commands : List (List Char)) (batch : List Message) : State :=
  let s := readCommands sk s commands
  if s.flagRecv ≠ 0 then flagRecvBlock sk s batch else s

/-- The interrupt can come at any time. In the drain loop it has the effect that it has
right after the call, and before the test of `flagRecv` the effect that it has right before. -/
inductive Event where
  | MCP2515_ISR
  | loop (commands : List (List Char)) (batch : List Message)

def step (sk : Sketch) (s : State) : Event → State
  | .MCP2515_ISR => MCP2515_ISR s
  | .loop commands batch => loop sk s commands batch

/-! ## The two sketches -/

/-- `loadShare.ino`. -/
def loadShare : Sketch where
  OUTPUT_VOLTS_MAX := 1164
  OUTPUT_VOLTS_MIN := 500
  RAMP_RATE := 5000
  OUTPUT_VOLTS_CUTBACK := [1130, 1135, 1145, 1155, 1160]
  OUTPUT_WATTS_CUTBACK := [700000, 600000, 500000, 400000, 300000]
  cutback := fun _ MAX_STATION_WATTS watts => (MAX_STATION_WATTS, watts - 5000)
  save := fun e v => put e TargetWattsAddress v
  load := fun e => get e TargetWattsAddress

/-- `13kw_load_share.ino`. Its cutback loop writes the station limit itself. -/
def loadShare13kw : Sketch where
  OUTPUT_VOLTS_MAX := 1164
  OUTPUT_VOLTS_MIN := 700
  RAMP_RATE := 50000
  OUTPUT_VOLTS_CUTBACK := [900, 1040, 1110, 1130, 1140, 1150, 1155, 1160]
  OUTPUT_WATTS_CUTBACK :=
    [2200000, 1600000, 1400000, 1300000, 1000000, 660000, 500000, 400000]
  cutback := fun cap _ _ => (cap, cap)
  save := fun e v => (EEPROMClassEx.writeLong e TargetWattsAddress v).2
  load := fun e => EEPROMClassEx.readLong e TargetWattsAddress

/-! ## What a batch reads -/

def batchCount (batch : List Message) : Int16 := batch.foldl (fun n _ => n + 1) 0

/-- The averaged voltage of a batch: the sum in 16 bits, over the count when it is above 1. -/
def batchVolts (batch : List Message) : UInt16 :=
  let sum := batch.foldl (fun v msg => v + voltageOf msg) 0
  if batchCount batch > 1 then sum / (batchCount batch).toUInt16 else sum

def batchAmps (batch : List Message) : UInt16 :=
  batch.foldl (fun a msg => a + currentOf msg) 0

theorem foldl_receive (batch : List Message) (s : State) :
    batch.foldl receive s =
      { s with
        chargerCount := batch.foldl (fun n _ => n + 1) s.chargerCount
        volts := batch.foldl (fun v msg => v + voltageOf msg) s.volts
        amps := batch.foldl (fun a msg => a + currentOf msg) s.amps } := by
  induction batch generalizing s with
  | nil => rfl
  | cons msg batch ih =>
    rw [List.foldl_cons, ih]
    rfl

/-- The state after the drain loop and the average. -/
def drained (s : State) (batch : List Message) : State :=
  { startCycle s with
    chargerCount := batchCount batch
    volts := batchVolts batch
    amps := batchAmps batch }

theorem averageVolts_drain (s : State) (batch : List Message) :
    averageVolts (batch.foldl receive (startCycle s)) = drained s batch := by
  rw [foldl_receive]
  unfold averageVolts drained batchVolts batchCount batchAmps startCycle
  simp only
  split <;> rfl

/-! ## What each part leaves alone -/

theorem measureWatts_frame (s : State) :
    measureWatts s =
      { s with
        watts := (measureWatts s).watts
        stationWatts := (measureWatts s).stationWatts } := by
  unfold measureWatts
  simp only
  split <;> rfl

/-- The ramp, the clamp and the stops change the power and nothing else. -/
theorem ramped_frame (sk : Sketch) (s : State) :
    clampToStation (rampUp sk s) = { s with watts := (clampToStation (rampUp sk s)).watts } := by
  unfold clampToStation rampUp
  split <;> split <;> rfl

theorem stopAboveMax_frame (sk : Sketch) (s : State) :
    stopAboveMax sk s = { s with watts := (stopAboveMax sk s).watts } := by
  unfold stopAboveMax
  split <;> rfl

theorem stopBelowMin_frame (sk : Sketch) (s : State) :
    stopBelowMin sk s = { s with watts := (stopBelowMin sk s).watts } := by
  unfold stopBelowMin
  split <;> rfl

/-- The cutback loop changes the limit and the power, and nothing else. -/
theorem cutback_frame (sk : Sketch) (rows : List (UInt16 × UInt32)) (s : State) :
    rows.foldl (cutbackRow sk) s =
      { s with
        MAX_STATION_WATTS := (rows.foldl (cutbackRow sk) s).MAX_STATION_WATTS
        watts := (rows.foldl (cutbackRow sk) s).watts } := by
  induction rows generalizing s with
  | nil => rfl
  | cons row rows ih =>
    have hrow : cutbackRow sk s row =
        { s with
          MAX_STATION_WATTS := (cutbackRow sk s row).MAX_STATION_WATTS
          watts := (cutbackRow sk s row).watts } := by
      unfold cutbackRow
      split <;> rfl
    rw [List.foldl_cons, ih, hrow]

/-- The block up to the two stops at the ends of the voltage range. -/
def powered (sk : Sketch) (s : State) (batch : List Message) : State :=
  clampToStation (rampUp sk (measureWatts (drained s batch)))

theorem powered_frame (sk : Sketch) (s : State) (batch : List Message) :
    powered sk s batch =
      { drained s batch with
        watts := (powered sk s batch).watts
        stationWatts := (powered sk s batch).stationWatts } := by
  unfold powered
  rw [ramped_frame, measureWatts_frame]

theorem chooseWatts_eq (sk : Sketch) (s : State) (batch : List Message) :
    chooseWatts sk s batch =
      stopBelowMin sk (cutbackLoop sk (stopAboveMax sk (powered sk s batch))) := by
  unfold chooseWatts powered
  rw [averageVolts_drain]

/-- The choice of the power writes the power, the limit and what the batch reads. -/
theorem chooseWatts_frame (sk : Sketch) (s : State) (batch : List Message) :
    chooseWatts sk s batch =
      { drained s batch with
        MAX_STATION_WATTS := (chooseWatts sk s batch).MAX_STATION_WATTS
        watts := (chooseWatts sk s batch).watts
        stationWatts := (chooseWatts sk s batch).stationWatts } := by
  rw [chooseWatts_eq, stopBelowMin_frame]
  unfold cutbackLoop
  rw [cutback_frame, stopAboveMax_frame, powered_frame]

/-- A cutback row needs a power above its cap, so no row acts on a power of 0. -/
theorem cutback_zero (sk : Sketch) (rows : List (UInt16 × UInt32)) (s : State)
    (h : s.watts = 0) : rows.foldl (cutbackRow sk) s = s := by
  induction rows with
  | nil => rfl
  | cons row rows ih =>
    have hrow : cutbackRow sk s row = s := by
      unfold cutbackRow
      rw [if_neg]
      simp [h]
    rw [List.foldl_cons, hrow, ih]

/-- Outside the voltage window of the sketch the chosen power is 0. -/
theorem chooseWatts_stopped (sk : Sketch) (s : State) (batch : List Message)
    (h : batchVolts batch < sk.OUTPUT_VOLTS_MIN ∨ sk.OUTPUT_VOLTS_MAX < batchVolts batch) :
    (chooseWatts sk s batch).watts = 0 := by
  have hv : (powered sk s batch).volts = batchVolts batch := by
    rw [powered_frame]
    rfl
  rw [chooseWatts_eq]
  rcases h with hmin | hmax
  · have hv' : (cutbackLoop sk (stopAboveMax sk (powered sk s batch))).volts =
        batchVolts batch := by
      unfold cutbackLoop
      rw [cutback_frame, stopAboveMax_frame]
      exact hv
    unfold stopBelowMin
    rw [if_pos (by rw [hv']; exact hmin)]
  · have hstop : (stopAboveMax sk (powered sk s batch)).watts = 0 := by
      unfold stopAboveMax
      rw [if_pos (by rw [hv]; exact hmax)]
    unfold cutbackLoop
    rw [cutback_zero sk _ _ hstop]
    unfold stopBelowMin
    split
    · rfl
    · exact hstop

/-- In the window neither stop acts. -/
theorem chooseWatts_running (sk : Sketch) (s : State) (batch : List Message)
    (hmin : ¬ batchVolts batch < sk.OUTPUT_VOLTS_MIN)
    (hmax : ¬ sk.OUTPUT_VOLTS_MAX < batchVolts batch) :
    chooseWatts sk s batch = cutbackLoop sk (powered sk s batch) := by
  have hv : (powered sk s batch).volts = batchVolts batch := by
    rw [powered_frame]
    rfl
  have hstop : stopAboveMax sk (powered sk s batch) = powered sk s batch := by
    unfold stopAboveMax
    rw [if_neg (by rw [hv]; exact hmax)]
  have hv' : (cutbackLoop sk (powered sk s batch)).volts = batchVolts batch := by
    unfold cutbackLoop
    rw [cutback_frame]
    exact hv
  rw [chooseWatts_eq, hstop]
  unfold stopBelowMin
  rw [if_neg (by rw [hv']; exact hmin)]

end super_charger.load_share
