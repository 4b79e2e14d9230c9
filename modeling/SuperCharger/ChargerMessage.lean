-- The eight bytes that go between a controller and its chargers: the layout
-- that every sketch reads, and the two ways in which a heartbeat is written.
import SuperCharger.Arduino

namespace super_charger.charger_message

open machine_int arduino

/-- A charger message: what the buffer holds once the bytes of the bus are in it. -/
abbrev Message := Vector UInt8 8

abbrev VoltageHighByte : Nat := 0
abbrev VoltageLowByte : Nat := 1
abbrev CurrentHighByte : Nat := 2
abbrev CurrentLowByte : Nat := 3

/-! ## Reading a message -/

/-- The voltage of a message, in tenths of a volt. -/
def voltageOf (msg : Message) : UInt16 := word msg[VoltageHighByte] msg[VoltageLowByte]

/-- The current of a message, in tenths of an ampere. -/
def currentOf (msg : Message) : UInt16 := word msg[CurrentHighByte] msg[CurrentLowByte]

namespace SCV2

def amps (buf : Message) : Int16 := (⟨#v[buf[3], buf[2]]⟩ : ByteToShort).value

def voltage (buf : Message) : Int16 := (⟨#v[buf[1], buf[0]]⟩ : ByteToShort).value

theorem amps_eq (buf : Message) : amps buf = (currentOf buf).toInt16 := rfl

theorem voltage_eq (buf : Message) : voltage buf = (voltageOf buf).toInt16 := rfl

end SCV2

/-- A message with this voltage and this current. -/
def message (volts amps : UInt16) : Message :=
  #v[highByte volts, lowByte volts, highByte amps, lowByte amps, 0, 0, 0, 0]

@[simp] theorem voltageOf_message (volts amps : UInt16) :
    voltageOf (message volts amps) = volts := by
  simp [voltageOf, message]

@[simp] theorem currentOf_message (volts amps : UInt16) :
    currentOf (message volts amps) = amps := by
  simp [currentOf, message]

/-! ## Writing a heartbeat -/

/-- The first bytes of every sketch but one: 116.4 V and 32.0 A. -/
def defaultHeartbeat : Message := #v[0x04, 0x8c, 0x01, 0x40, 0x00, 0x00, 0x00, 0x00]

/-- The current bytes, with `highByte` and `lowByte`. -/
def writeCurrent (msg : Message) (chargingAmps : UInt16) : Message :=
  (msg.set CurrentHighByte (highByte chargingAmps)).set CurrentLowByte (lowByte chargingAmps)

/-- The voltage bytes, with a `ByteToShort` that is indexed by their place in the message. -/
def writeVoltage (msg : Message) (OUTPUT_VOLTS_END : UInt32) : Message :=
  let voltage := ByteToShort.ofValue OUTPUT_VOLTS_END.toUInt16.toInt16
  (msg.set VoltageHighByte voltage.bytes[VoltageHighByte]).set VoltageLowByte
    voltage.bytes[VoltageLowByte]

/-- The bytes of two unions, the high one of each first. -/
def writeUnions (msg : Message) (volts amps : ByteToShort) : Message :=
  (((msg.set 0 volts.high).set 1 volts.low).set 2 amps.high).set 3 amps.low

/-- The message asks for no current. -/
def NoCurrent (msg : Message) : Prop := msg[CurrentHighByte] = 0 ∧ msg[CurrentLowByte] = 0

instance (msg : Message) : Decidable (NoCurrent msg) :=
  inferInstanceAs (Decidable (msg[CurrentHighByte] = 0 ∧ msg[CurrentLowByte] = 0))

/-- The bytes past the current are 0. -/
def Reserved (msg : Message) : Prop := ∀ i (h : i < 8), 4 ≤ i → msg[i] = 0

@[simp] theorem currentOf_writeCurrent (msg : Message) (a : UInt16) :
    currentOf (writeCurrent msg a) = a := by
  simp [currentOf, writeCurrent]

@[simp] theorem voltageOf_writeCurrent (msg : Message) (a : UInt16) :
    voltageOf (writeCurrent msg a) = voltageOf msg := by
  unfold voltageOf writeCurrent VoltageHighByte VoltageLowByte CurrentHighByte CurrentLowByte
  simp

/-- The union keeps its low byte first, so the low byte lands in the high place. -/
@[simp] theorem voltageOf_writeVoltage (msg : Message) (v : UInt32) :
    voltageOf (writeVoltage msg v) = word (lowByte v.toUInt16) (highByte v.toUInt16) := by
  simp [voltageOf, writeVoltage, ByteToShort.ofValue]

theorem noCurrent_iff (msg : Message) : NoCurrent msg ↔ currentOf msg = 0 := by
  unfold NoCurrent currentOf
  rw [← UInt16.toNat_inj, toNat_word, ← UInt8.toNat_inj, ← UInt8.toNat_inj]
  simp only [UInt8.toNat_zero, UInt16.toNat_zero]
  omega

theorem reserved_defaultHeartbeat : Reserved defaultHeartbeat := by
  unfold Reserved
  decide

theorem reserved_writeCurrent {msg : Message} (h : Reserved msg) (a : UInt16) :
    Reserved (writeCurrent msg a) := by
  intro i hi h4
  unfold writeCurrent CurrentHighByte CurrentLowByte
  rw [Vector.getElem_set_ne _ _ (by omega), Vector.getElem_set_ne _ _ (by omega)]
  exact h i hi h4

theorem reserved_writeVoltage {msg : Message} (h : Reserved msg) (v : UInt32) :
    Reserved (writeVoltage msg v) := by
  intro i hi h4
  unfold writeVoltage VoltageHighByte VoltageLowByte
  simp only
  rw [Vector.getElem_set_ne _ _ (by omega), Vector.getElem_set_ne _ _ (by omega)]
  exact h i hi h4

/-- A word with its two bytes the other way round is the same word only when they agree. -/
theorem swapped_word_eq_iff (w : UInt16) :
    word (lowByte w) (highByte w) = w ↔ w.toNat % 256 = w.toNat / 256 := by
  rw [← UInt16.toNat_inj, toNat_word, toNat_lowByte, toNat_highByte]
  have := w.toNat_lt
  omega

end super_charger.charger_message
