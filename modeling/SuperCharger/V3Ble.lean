-- The board of `v3` with its radio: the table that `ZERO_V3_BLE.h` sets up, the
-- handlers that the library calls, and the packets in the place of the writes.
import SuperCharger.AttReads
import SuperCharger.Uuid
import SuperCharger.V3Frames

namespace super_charger.v3

open machine_int arduino ble charger_message derating runs zero

/-! ## The table -/

namespace peripheral

/-- The first two groups of a UUID of the sketch. The others are zero. -/
def uuid (first : UInt32) (second : UInt16) : BLEUuid :=
  .ofBytes (List.replicate 10 (0 : UInt8) ++ bytes16 second ++ bytes16 first.toUInt16 ++
    bytes16 (first >>> 16).toUInt16)

/-- The constructor of a characteristic. -/
def make (uuid : BLEUuid) (properties : UInt8) (valueSize : Nat) (fixedLength : Bool) :
    BLELocalCharacteristic where
  uuid := uuid
  properties := properties
  valueSize := min valueSize 512
  valueSize_le := Nat.min_le_right valueSize 512
  fixedLength := fixedLength
  addedDescriptors := []

/-- A `BLETypedCharacteristic`. -/
def typed (size : Nat) (uuid : BLEUuid) (properties : UInt8) : BLELocalCharacteristic :=
  make uuid properties size true

def long : BLEUuid → UInt8 → BLELocalCharacteristic := typed 4
def short : BLEUuid → UInt8 → BLELocalCharacteristic := typed 2
def int : BLEUuid → UInt8 → BLELocalCharacteristic := typed 4
def byte : BLEUuid → UInt8 → BLELocalCharacteristic := typed 1

/-! The characteristics, by their places in the list below. -/

def deviceName : Nat := 0
def appearance : Nat := 1
def servicesChanged : Nat := 2
def battery1Volts : Nat := 3
def battery2Volts : Nat := 4
def battery1Amps : Nat := 5
def battery2Amps : Nat := 6
def battery1Temp1 : Nat := 7
def battery1Temp2 : Nat := 8
def battery2Temp1 : Nat := 9
def battery2Temp2 : Nat := 10
def battery1AH : Nat := 11
def battery2AH : Nat := 12
def batteryMaxVolts : Nat := 13
def chargerTargetVolts : Nat := 14
def chargerTargetWatts : Nat := 15
def chargerMaxWatts : Nat := 16
def chargerCountBLE : Nat := 17
def bleUnits : Nat := 18

def characteristics : List BLELocalCharacteristic :=
  [make (.ofBytes [0x00, 0x2a]) BLERead 20 false,
    make (.ofBytes [0x01, 0x2a]) BLERead 2 false,
    make (.ofBytes [0x05, 0x2a]) BLEIndicate 4 false,
    long (uuid 0xba770001 0x1010) (BLERead ||| BLENotify),
    long (uuid 0xba770002 0x1010) (BLERead ||| BLENotify),
    short (uuid 0xba770003 0x1010) (BLERead ||| BLENotify),
    short (uuid 0xba770004 0x1010) (BLERead ||| BLENotify),
    short (uuid 0xba770005 0x1010) (BLERead ||| BLENotify),
    short (uuid 0xba770006 0x1010) (BLERead ||| BLENotify),
    short (uuid 0xba770007 0x1010) (BLERead ||| BLENotify),
    short (uuid 0xba770008 0x1010) (BLERead ||| BLENotify),
    short (uuid 0xba770009 0x1010) (BLERead ||| BLENotify),
    short (uuid 0xba770010 0x1010) (BLERead ||| BLENotify),
    short (uuid 0xba779999 0x1110) (BLERead ||| BLEWrite ||| BLENotify),
    long (uuid 0xd1610001 0x1110) (BLERead ||| BLEWrite ||| BLENotify),
    short (uuid 0xd1610002 0x1110) (BLERead ||| BLENotify),
    long (uuid 0xd1610003 0x1110) (BLERead ||| BLEWrite ||| BLENotify),
    int (uuid 0xd1610004 0x1110) (BLERead ||| BLEWrite ||| BLENotify),
    byte (uuid 0xca11ed02 0x1110) (BLERead ||| BLEWrite ||| BLENotify)]

/-- The two services of the library, then those that the sketch adds. -/
def services : List BLELocalService :=
  [{ uuid := .ofBytes [0x00, 0x18], characteristics := [deviceName, appearance] },
    { uuid := .ofBytes [0x01, 0x18], characteristics := [servicesChanged] },
    { uuid := uuid 0xba770000 0
      characteristics :=
        [battery1Volts, battery2Volts, battery1Amps, battery2Amps, battery1Temp1, battery1Temp2,
          battery2Temp1, battery2Temp2, battery1AH, battery2AH, batteryMaxVolts] },
    { uuid := uuid 0xd1610000 0
      characteristics := [chargerTargetVolts, chargerTargetWatts, chargerMaxWatts, chargerCountBLE] },
    { uuid := uuid 0xca11ed00 0, characteristics := [bleUnits] }]

end peripheral

/-- What `bleSetup` hands to the library. -/
def objects : Objects where
  service s := peripheral.services.getD s { uuid := .ofBytes [], characteristics := [] }
  characteristic c := peripheral.characteristics.getD c (peripheral.make (.ofBytes []) 0 0 false)
  descriptor _ := .empty

def gatt : GATTClass := .build objects [0, 1, 2, 3, 4]

example : (BLEUuid.read "d1610001-1110-0000-0000-000000000000").map BLEUuid.data =
    some (objects.characteristic peripheral.chargerTargetVolts).uuid.data := by decide +kernel

/-! ## Values -/

/-- `value` of a characteristic of four bytes, the first of them the lowest. -/
def unsignedLong (value : List UInt8) : UInt32 :=
  UInt32.ofNat ((value.getD 0 0).toNat + 256 * (value.getD 1 0).toNat +
    65536 * (value.getD 2 0).toNat + 16777216 * (value.getD 3 0).toNat)

/-- The bytes of a number that `setValue` is called with. -/
def longBytes (value : UInt32) : List UInt8 :=
  [value.toUInt8, (value >>> 8).toUInt8, (value >>> 16).toUInt8, (value >>> 24).toUInt8]

def shortBytes (value : UInt16) : List UInt8 := bytes16 value

/-- What the sketch reads from the characteristics in `userUpdate`. -/
def view (server : Server) (s : State) : State :=
  { s with
    chargerTargetVolts := unsignedLong (server.values peripheral.chargerTargetVolts).value
    chargerMaxWatts := unsignedLong (server.values peripheral.chargerMaxWatts).value
    chargerCountBLE := (unsignedLong (server.values peripheral.chargerCountBLE).value).toInt32 }

/-! ## The board -/

/-- The sketch and the library. The values of the characteristics are those of the library, and
the sketch has a copy of them. -/
structure Board where
  sketch : State
  server : Server

/-- The characteristics that `setEventHandler` was called for. -/
def handled : List Nat := [peripheral.chargerTargetVolts, peripheral.chargerMaxWatts, peripheral.bleUnits]

def onEvent (s : State) : Effect → State
  | .written c _ => if c ∈ handled then userUpdate s else s
  | _ => s

/-- What the radio has, and what the sketch makes of the events that come of it. -/
def Board.receive (b : Board) (i : ble.Input) : Option Board :=
  (respond objects gatt b.server i).map fun q =>
    { sketch := q.2.foldl onEvent (view q.1 b.sketch), server := q.1 }

/-- A call of `BLE.poll`. -/
def Board.poll : Board → List ble.Input → Option Board
  | b, [] => some b
  | b, i :: is => (b.receive i).bind fun b => b.poll is

/-- What the constructors leave. `malloc` leaves the buffers of the library's own as they are. -/
def constructed (buffer : Nat → List UInt8) : Server where
  att := .constructed
  values c :=
    let x := objects.characteristic c
    { value := if x.fixedLength then List.replicate x.valueSize 0 else buffer c
      valueLength := if x.fixedLength then x.valueSize else 0
      written := false
      cccdValue := 0 }

def setValue (server : Server) (p : Nat × List UInt8) : Server :=
  (server.writeValue objects gatt p.1 p.2).1

/-- What `BLE.begin` and `bleSetup` store, in their order. -/
def initial (s : State) : List (Nat × List UInt8) :=
  [(peripheral.deviceName, [0x41, 0x72, 0x64, 0x75, 0x69, 0x6e, 0x6f]),
    (peripheral.appearance, shortBytes 0),
    (peripheral.battery1Volts, longBytes s.monolithVolts.toUInt32),
    (peripheral.battery2Volts, longBytes s.powerTankVolts.toUInt32),
    (peripheral.battery1Amps, shortBytes s.monolithAmps.toInt16.toUInt16),
    (peripheral.battery2Amps, shortBytes s.powerTankAmps.toInt16.toUInt16),
    (peripheral.battery1Temp1, shortBytes s.monolithMinTemp.toInt16.toUInt16),
    (peripheral.battery1Temp2, shortBytes s.monolithMaxTemp.toInt16.toUInt16),
    (peripheral.battery2Temp1, shortBytes s.powerTankMinTemp.toInt16.toUInt16),
    (peripheral.battery2Temp2, shortBytes s.powerTankMaxTemp.toInt16.toUInt16),
    (peripheral.battery1AH, shortBytes s.monolithAH.toInt16.toUInt16),
    (peripheral.battery2AH, shortBytes s.powerTankAH.toInt16.toUInt16),
    (peripheral.batteryMaxVolts, shortBytes table.OUTPUT_VOLTS_MAX.toInt16.toUInt16),
    (peripheral.chargerTargetVolts, longBytes s.OUTPUT_VOLTS_END),
    (peripheral.chargerTargetWatts, shortBytes s.watts.toUInt16),
    (peripheral.chargerMaxWatts, longBytes s.MAX_STATION_WATTS),
    (peripheral.chargerCountBLE, longBytes s.chargerCount.toUInt32),
    (peripheral.bleUnits, [0])]

/-- The board when `setup` returns. -/
def Board.setup (buffer : Nat → List UInt8) : Board :=
  let s : State := { globals with OUTPUT_VOLTS_END := 1320 }
  let server := (initial s).foldl setValue (constructed buffer)
  { sketch := view server s, server := server }

/-- What one call of `loop` finds, with what the radio has in the place of writes. -/
structure Call where
  central : List ble.Input
  bike : List Frame
  charger : List Message
  poll : List ble.Input
  platform : Platform

/-- The call with these writes. -/
def Call.input (i : Call) (central poll : List Write) : Input :=
  { central, bike := i.bike, charger := i.charger, poll, platform := i.platform }

/-- `loop`. -/
def Board.loop (b : Board) (i : Call) : Option Board :=
  (b.poll i.central).bind fun b =>
    let s := countDown (bikeLoop b.sketch i.bike)
    if s.delayItteration < 1 then
      (({ b with sketch := charge s (i.input [] []) } : Board).poll i.poll).map fun b =>
        { b with sketch := { b.sketch with toState := sc.superCharge b.sketch.toState } }
    else some { b with sketch := s }

def Board.run : Board → List Call → Option Board
  | b, [] => some b
  | b, i :: is => (b.loop i).bind fun b => b.run is

/-! ## The writes of a packet -/

/-- The write that an event tells of, for a characteristic that `write` knows. -/
def writeOf : Effect → Option Write
  | .written c value =>
    if c = peripheral.chargerTargetVolts then some (.chargerTargetVolts (unsignedLong value))
    else if c = peripheral.chargerMaxWatts then some (.chargerMaxWatts (unsignedLong value))
    else if c = peripheral.chargerCountBLE then some (.chargerCountBLE (unsignedLong value).toInt32)
    else if c = peripheral.bleUnits then some (.bleUnits (value.getD 0 0))
    else none
  | _ => none

def writesOf (effects : List Effect) : List Write := effects.filterMap writeOf

section Packets

variable {s : Server} {u : State} {effects : List Effect}

/-- `u'` is what these writes make of `u`, and the sketch has the values that the library has. -/
structure Follows (u u' : State) (writes : List Write) (server : Server) : Prop where
  written : u' = written u writes
  current : view server u' = u'

end Packets

/-! ## Refinement -/

/-- The writes that a call of `BLE.poll` delivers. -/
def Board.writes (b : Board) (is : List ble.Input) : List Write :=
  (play objects gatt b.server is).elim [] fun r => writesOf r.2

/-- The writes that a call of `loop` delivers. -/
def Board.input (b : Board) (i : Call) : Input :=
  i.input (b.writes i.central) ((b.poll i.central).elim [] fun c => c.writes i.poll)

/-- The inputs of the calls. -/
def Board.inputs : Board → List Call → List Input
  | _, [] => []
  | b, i :: is => b.input i :: (b.loop i).elim [] fun c => c.inputs is

end super_charger.v3
