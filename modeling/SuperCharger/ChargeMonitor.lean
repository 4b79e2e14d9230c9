-- The sketch `Zero_charge_monitoring.ino`: its globals, its three stale counters,
-- its commands and its loop. The board is an AVR, so `int` has 16 bits.
import SuperCharger.ChargerMessage
import SuperCharger.Runs
import SuperCharger.Zero

namespace super_charger.charge_monitor

open machine_int arduino charger_message zero

/-! ## The state -/

def MIN_VOLTS : Int32 := 70000
def DEFAULT_WATTS : Int32 := 1500

def MESSAGE_THRESHOLD : Int32 := 20000
def SC_STALE_THRESHOLD : Int32 := 30000
def BIKE_STALE_THRESHOLD : Int32 := 1000
def COUNT_SCV2_THRESHOLD : Int32 := 22000

/-- The two `long` slots of the EEPROM. -/
structure Settings where
  TargetWatts : Int32
  EndVolts : Int32
deriving DecidableEq

/-- What C leaves open: a quotient by 0, and the words outside `chargerAmpsList`. -/
structure Platform where
  divZero : Int32
  outside : Nat → Int16

/-- The globals of the sketch. The unions that are only ever used as one number are one, and
`sent` is what the current call has sent to the chargers. -/
structure State where
  messageCount : Int32
  scStaleCount : Int32
  bikeStaleCount : Int32
  chargerWaitCount : Int16
  connectedChargers : UInt8
  endVolts : Int32
  throttle : Int16
  bikeVoltage : Int32
  bikeAmps : Int16
  chargerVoltage : Int32
  chargerVoltageHolder : Int32
  chargerAmps : Int16
  chargerAmpsList : Vector Int16 16
  voltageDiff : Int32
  desiredOutputAmps : ByteToShort
  desiredOutputVolts : ByteToShort
  targetWatts : Int32
  chargerMessage : Message
  EEPROM : Settings
  sent : Option Message

/-! ## Charging -/

def isReadyToCharge (s : State) : Bool :=
  s.bikeVoltage > MIN_VOLTS ∧ s.chargerVoltageHolder > MIN_VOLTS ∧
    s.chargerVoltageHolder < s.endVolts

def shouldCharge (s : State) : Bool :=
  s.bikeVoltage > MIN_VOLTS ∧ s.bikeVoltage < s.endVolts ∧ s.chargerVoltage < s.endVolts

/-- The two low bytes of `volts/100`. -/
def setOutputVolts (s : State) (volts : Int32) : State :=
  let voltage := (volts / 100).toUInt32.toUInt16
  { s with desiredOutputVolts := ⟨#v[lowByte voltage, highByte voltage]⟩ }

/-- The message for the dash at its end changes nothing here, and is left out. -/
def setVoltageDiff (s : State) : State :=
  if isReadyToCharge s then
    let s := { s with voltageDiff := s.bikeVoltage - s.chargerVoltage }
    let s := { s with chargerVoltage := (s.chargerVoltageHolder + s.chargerVoltage) / 2 }
    setOutputVolts s (s.endVolts - s.voltageDiff)
  else s

def quotient (p : Platform) (a b : Int32) : Int32 := if b = 0 then p.divZero else a / b

/-- The current of one charger. -/
def perCharger (p : Platform) (s : State) : Int32 :=
  quotient p (quotient p (s.targetWatts * 100) (s.bikeVoltage / 100))
    s.connectedChargers.toUInt32.toInt32

def sendChargeCommand (p : Platform) (s : State) : State :=
  if shouldCharge s then
    let s := { s with desiredOutputAmps := ByteToShort.ofValue (perCharger p s).toInt16 }
    let s := { s with
      chargerMessage := writeUnions s.chargerMessage s.desiredOutputVolts s.desiredOutputAmps }
    { s with sent := some s.chargerMessage }
  else s

def resetCharging (s : State) : State :=
  { s with
    desiredOutputVolts := ByteToShort.ofValue 0
    desiredOutputAmps := ByteToShort.ofValue 0
    voltageDiff := 0 }

/-! ## The window over the chargers -/

/-- A call starts with the count of the window. -/
def await (s : State) : State :=
  { s with chargerWaitCount := s.chargerWaitCount + 1, sent := none }

def windowEnds (s : State) : Bool := s.chargerWaitCount.toInt32 > COUNT_SCV2_THRESHOLD

def endWindow (p : Platform) (s : State) : State :=
  let s := if isReadyToCharge s then sendChargeCommand p s else s
  { s with connectedChargers := 0, chargerWaitCount := 0 }

def checkWindow (p : Platform) (s : State) : State :=
  if windowEnds (await s) then endWindow p (await s) else await s

/-! ## Commands -/

/-- One turn of the loop over the serial data. -/
def readCommand (s : State) (serial : List Char) : State × List Char :=
  let (endVoltsCommand, serial) := readStringUntil ',' serial
  let (wattsCommand, serial) := readStringUntil '\n' serial
  let s : State := { s with
    endVolts := toIntAvr endVoltsCommand * 100
    targetWatts := toIntAvr wattsCommand }
  let s : State := if s.endVolts < MIN_VOLTS then { s with endVolts := MIN_VOLTS } else s
  let s := if s.targetWatts < 0 then { s with targetWatts := DEFAULT_WATTS } else s
  ({ s with EEPROM := { TargetWatts := s.targetWatts, EndVolts := s.endVolts } }, serial)

/-- The loop. Every turn takes a character or more, so as many turns as characters are enough. -/
def readCommands : Nat → State → List Char → State
  | 0, s, _ => s
  | _ + 1, s, [] => s
  | turns + 1, s, c :: cs =>
    readCommands turns (readCommand s (c :: cs)).1 (readCommand s (c :: cs)).2

theorem readCommand_length (s : State) (c : Char) (cs : List Char) :
    (readCommand s (c :: cs)).2.length ≤ cs.length := by
  unfold readCommand
  simp only
  refine le_trans (readStringUntil_length _ _) ?_
  exact readStringUntil_cons_length ',' c cs

/-- More turns read no more commands. -/
theorem readCommands_of_le {turns more : Nat} {s : State} {serial : List Char}
    (h : serial.length ≤ turns) (hmore : serial.length ≤ more) :
    readCommands turns s serial = readCommands more s serial := by
  induction turns generalizing more s serial with
  | zero =>
    rw [List.length_eq_zero_iff.mp (Nat.le_zero.mp h)]
    cases more with
    | zero => rfl
    | succ more => rfl
  | succ turns ih =>
    cases serial with
    | nil =>
      cases more with
      | zero => rfl
      | succ more => rfl
    | cons c cs =>
      cases more with
      | zero => simp at hmore
      | succ more =>
        have hrest := readCommand_length s c cs
        simp only [List.length_cons] at h hmore
        unfold readCommands
        exact ih (by omega) (by omega)

/-- What no command changes, the loop does not change. -/
theorem readCommands_keep {β : Type} {g : State → β}
    (h : ∀ s serial, g (readCommand s serial).1 = g s) (turns : Nat) (s : State)
    (serial : List Char) : g (readCommands turns s serial) = g s := by
  induction turns generalizing s serial with
  | zero => rfl
  | succ turns ih =>
    cases serial with
    | nil => rfl
    | cons c cs =>
      unfold readCommands
      rw [ih, h]

/-! ## The two buses -/

/-- A store to `chargerAmpsList`. What one outside the list overwrites is the linker's choice,
and is kept apart from the other globals. -/
def storeAmps (chargerAmpsList : Vector Int16 16) (index : Int) (amps : Int16) : Vector Int16 16 :=
  if h : 0 ≤ index ∧ index < 16 then chargerAmpsList.set index.toNat amps (by omega)
  else chargerAmpsList

def sumAmps (p : Platform) (chargerAmpsList : Vector Int16 16) (connectedChargers : UInt8) :
    Int16 :=
  (List.range connectedChargers.toNat).foldl
    (fun amps i => amps + chargerAmpsList[i]?.getD (p.outside i)) 0

/-- The four bytes of `chargerVoltageHolder`, before it is scaled to millivolts. -/
def holder (volts : UInt16) : ByteToLong := ⟨#v[lowByte volts, highByte volts, 0, 0]⟩

def onCharger (p : Platform) (s : State) (buf : Message) : State :=
  let s := { s with scStaleCount := 0, connectedChargers := s.connectedChargers + 1 }
  let volts := (SCV2.voltage buf).toUInt16
  let s := { s with chargerVoltageHolder := (holder volts).value * 100 }
  let s := { s with
    chargerAmpsList :=
      storeAmps s.chargerAmpsList (s.connectedChargers.toNat - 1) (SCV2.amps buf) }
  let s := { s with chargerAmps := sumAmps p s.chargerAmpsList s.connectedChargers }
  setVoltageDiff s

def onMonolithVoltage (s : State) (f : Frame) : State :=
  setVoltageDiff { s with bikeVoltage := f.voltage }

/-- The two frames for the dash, which only change the local buffer before they are sent on, are
left out. -/
def onBike (s : State) (f : Frame) : State :=
  let s := { s with bikeStaleCount := 0 }
  let s := if hasMonolithVoltage f.id then onMonolithVoltage s f else s
  let s := if hasMonolithAmps f.id then { s with bikeAmps := f.amps } else s
  if hasThrottle f.id then { s with throttle := f.throttle } else s

/-! ## The stale counters -/

def countStale (s : State) : State :=
  { s with
    bikeStaleCount := s.bikeStaleCount + 1
    scStaleCount := s.scStaleCount + 1
    messageCount := s.messageCount + 1 }

def checkCharger (s : State) : State :=
  if s.scStaleCount > SC_STALE_THRESHOLD then
    resetCharging { s with chargerVoltage := 0, chargerAmps := 0, chargerVoltageHolder := 0 }
  else s

def checkBike (s : State) : State :=
  if s.bikeStaleCount > BIKE_STALE_THRESHOLD then
    resetCharging { s with bikeVoltage := 0, bikeAmps := 0 }
  else s

def checkMessages (s : State) : State :=
  if s.messageCount > MESSAGE_THRESHOLD then { s with messageCount := 0 } else s

def checkStale (s : State) : State := checkMessages (checkBike (checkCharger (countStale s)))

/-! ## The loop -/

/-- What one call of `loop` finds: the serial data, a message on each of the two buses or none,
and what C leaves open for this call. -/
structure Input where
  serial : List Char
  charger : Option Message
  bike : Option Frame
  platform : Platform

/-- The globals before `setup`. -/
def globals (EEPROM : Settings) : State where
  messageCount := 0
  scStaleCount := 0
  bikeStaleCount := 0
  chargerWaitCount := 0
  connectedChargers := 0
  endVolts := 116400
  throttle := 0
  bikeVoltage := 0
  bikeAmps := 0
  chargerVoltage := 0
  chargerVoltageHolder := 0
  chargerAmps := 0
  chargerAmpsList := Vector.replicate 16 0
  voltageDiff := 0
  desiredOutputAmps := ByteToShort.ofValue 0
  desiredOutputVolts := ByteToShort.ofValue 0
  targetWatts := DEFAULT_WATTS
  chargerMessage := Vector.replicate 8 0
  EEPROM := EEPROM
  sent := none

def setup (EEPROM : Settings) : State :=
  let s := { globals EEPROM with targetWatts := EEPROM.TargetWatts, endVolts := EEPROM.EndVolts }
  { setOutputVolts s s.endVolts with bikeVoltage := 0, bikeAmps := 0 }

/-- The two buses, one message of each at most. -/
def receive (s : State) (i : Input) : State :=
  let s := i.charger.elim s (onCharger i.platform s)
  i.bike.elim s (onBike s)

def loop (s : State) (i : Input) : State :=
  let s := checkWindow i.platform s
  let s := readCommands i.serial.length s i.serial
  checkStale (receive s i)

end super_charger.charge_monitor
