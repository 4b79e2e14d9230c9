-- The sketch `basic_force_charge.ino`: chargers on a station of one of two sizes, and when the
-- heartbeat keeps to the current of the station. The board is an AVR, so `int` has 16 bits.
import SuperCharger.ChargerMessage

namespace super_charger.force_charge

open arduino charger_message

def STATION_CURRENT_GOOD : UInt16 := 31
def STATION_CURRENT_BAD : UInt16 := 26
def OUTPUT_VOLTAGE_MAX : UInt16 := 116
def OUTPUT_CURRENT_MAX : UInt16 := 94
def STATION_VOLTAGE : UInt16 := 208
def MAX_CHARGERS_PER_STATION : UInt16 := 2

/-- The globals of the sketch. -/
structure State where
  MAX_JAMPS : UInt16
  HeartbeatMessage : Message
  flagRecv : UInt8

/-- The globals at power-up. -/
def globals : State where
  MAX_JAMPS := 0
  HeartbeatMessage := defaultHeartbeat
  flagRecv := 0

def MCP2515_ISR (s : State) : State := { s with flagRecv := 1 }

/-! ## One call of `loop` -/

/-- The locals that the drain loop fills. -/
structure Drained where
  chargerCount : Int16
  volts : UInt16
  amps : UInt16
deriving DecidableEq

def chargerVolts (msg : Message) : UInt16 := voltageOf msg / 10

/-- One turn of the drain loop, once `readMsgBuf` has filled the buffer. -/
def receive (d : Drained) (ReceivedChargerMessage : Message) : Drained :=
  let d := { d with chargerCount := d.chargerCount + 1 }
  let d := if chargerVolts ReceivedChargerMessage > 0 then
      let d := { d with volts := d.volts + chargerVolts ReceivedChargerMessage }
      if d.chargerCount > 1 then { d with volts := d.volts / MAX_CHARGERS_PER_STATION } else d
    else d
  { d with amps := d.amps + currentOf ReceivedChargerMessage / 10 }

def drain (batch : List Message) : Drained := batch.foldl receive ⟨0, 0, 0⟩

/-- The current that the station allows, by the pin of the switch. -/
def stationCurrent (pin : Bool) : UInt16 :=
  if pin then STATION_CURRENT_BAD else STATION_CURRENT_GOOD

/-- `chargingAmps` before the block. Both guards compare `MAX_JAMPS` with the value that it was just
given. -/
def startAmps (pin : Bool) : UInt16 :=
  let MAX_JAMPS := stationCurrent pin
  if MAX_JAMPS < stationCurrent pin then
    MAX_JAMPS * STATION_VOLTAGE / 90 / MAX_CHARGERS_PER_STATION
  else 0

/-- The estimated input current. The product is taken in 16 bits, and the count is compared as
unsigned. -/
def jAmps (d : Drained) : UInt16 :=
  let watts := (d.amps * d.volts).toUInt32
  if d.chargerCount.toUInt16 > MAX_CHARGERS_PER_STATION then
    (watts / 3 * MAX_CHARGERS_PER_STATION.toUInt32 / STATION_VOLTAGE.toUInt32).toUInt16
  else (watts / STATION_VOLTAGE.toUInt32).toUInt16

/-- An unsigned division in 16 bits, where C leaves the quotient by 0 open. -/
def quotient (divZero a b : UInt16) : UInt16 := if b = 0 then divZero else a / b

/-- The share of a charger in the limit of the pack. -/
def packShare (divZero : UInt16) (d : Drained) : UInt16 :=
  quotient divZero OUTPUT_CURRENT_MAX d.chargerCount.toUInt16

/-- `chargingAmpsJ`: the share of a charger in the limit of the station. -/
def stationShare (divZero MAX_JAMPS : UInt16) (d : Drained) : UInt16 :=
  quotient divZero (MAX_JAMPS * STATION_VOLTAGE) d.volts / MAX_CHARGERS_PER_STATION

/-- `chargingAmps` at the end of the block. -/
def chooseAmps (divZero : UInt16) (pin : Bool) (d : Drained) : UInt16 :=
  let chargingAmps := startAmps pin
  let chargingAmps :=
    if d.amps > OUTPUT_CURRENT_MAX then packShare divZero d else chargingAmps
  if jAmps d > stationCurrent pin then
    if stationShare divZero (stationCurrent pin) d < chargingAmps then
      stationShare divZero (stationCurrent pin) d
    else chargingAmps
  else chargingAmps

/-- The bytes of the heartbeat. -/
def writeHeartbeat (msg : Message) (volts chargingAmps : UInt16) : Message :=
  let msg := if chargingAmps > 0 then writeCurrent msg (chargingAmps * 10) else msg
  if volts > OUTPUT_VOLTAGE_MAX then writeCurrent msg 0 else msg

/-- One call of `loop`, with the level of the pin and the messages that `checkReceive` finds. The
heartbeat that it sends is `HeartbeatMessage` as it leaves it. -/
def loop (divZero : UInt16) (s : State) (pin : Bool) (batch : List Message) : State :=
  let s := { s with MAX_JAMPS := stationCurrent pin }
  if s.flagRecv ≠ 0 then
    let d := drain batch
    { s with
      flagRecv := 0
      HeartbeatMessage :=
        writeHeartbeat s.HeartbeatMessage d.volts (chooseAmps divZero pin d) }
  else s

/-! ## The current of a heartbeat -/

/-- Both guards are false. -/
theorem startAmps_eq (pin : Bool) : startAmps pin = 0 := by
  unfold startAmps
  simp only
  exact if_neg (UInt16.lt_irrefl _)

theorem currentOf_writeHeartbeat (msg : Message) (volts chargingAmps : UInt16) :
    currentOf (writeHeartbeat msg volts chargingAmps) =
      if volts > OUTPUT_VOLTAGE_MAX then 0
      else if chargingAmps > 0 then chargingAmps * 10 else currentOf msg := by
  unfold writeHeartbeat
  simp only
  split
  · exact currentOf_writeCurrent _ 0
  · split
    · exact currentOf_writeCurrent msg _
    · rfl

/-- Without a voltage there is no input current, so the limit of the station is not looked at. -/
theorem volts_ne_zero_of_jAmps {d : Drained} {MAX_JAMPS : UInt16} (h : jAmps d > MAX_JAMPS) :
    d.volts ≠ 0 := by
  intro hzero
  unfold jAmps at h
  rw [hzero, UInt16.mul_zero] at h
  have hnone : (0 : UInt16).toUInt32 = 0 := rfl
  simp only [hnone, UInt32.zero_div, UInt32.zero_mul] at h
  split at h
  · exact absurd h (UInt16.not_lt.mpr UInt16.zero_le)
  · exact absurd h (UInt16.not_lt.mpr UInt16.zero_le)

theorem stationCurrent_cases (pin : Bool) :
    (stationCurrent pin).toNat = 26 ∨ (stationCurrent pin).toNat = 31 := by
  cases pin
  · exact Or.inr rfl
  · exact Or.inl rfl

/-- In whole numbers, the share of a charger in the limit of the station. -/
theorem stationShare_toNat (divZero : UInt16) (pin : Bool) {d : Drained} (h : d.volts ≠ 0) :
    (stationShare divZero (stationCurrent pin) d).toNat =
      (stationCurrent pin).toNat * 208 / d.volts.toNat / 2 := by
  have hproduct : (stationCurrent pin * STATION_VOLTAGE).toNat = (stationCurrent pin).toNat * 208 := by
    have hvoltage : STATION_VOLTAGE.toNat = 208 := rfl
    rw [UInt16.toNat_mul, hvoltage]
    exact Nat.mod_eq_of_lt (by rcases stationCurrent_cases pin with hpin | hpin <;> omega)
  have htwo : MAX_CHARGERS_PER_STATION.toNat = 2 := rfl
  unfold stationShare quotient
  rw [if_neg h, UInt16.toNat_div, UInt16.toNat_div, hproduct, htwo]

/-- The most that the station allows each charger, in the units of the heartbeat. -/
def stationLimit (pin : Bool) (volts : UInt16) : Nat :=
  10 * ((stationCurrent pin).toNat * STATION_VOLTAGE.toNat / volts.toNat /
    MAX_CHARGERS_PER_STATION.toNat)

/-- Up to the maximum voltage the share in the limit of the station is not 0. -/
theorem stationShare_pos (pin : Bool) {volts : Nat} (h0 : 0 < volts) (h : volts ≤ 116) :
    0 < (stationCurrent pin).toNat * 208 / volts / 2 := by
  have hfull : 46 ≤ (stationCurrent pin).toNat * 208 / volts := by
    rw [Nat.le_div_iff_mul_le h0]
    rcases stationCurrent_cases pin with hpin | hpin <;> omega
  omega

/-- Above the limit of the station the block asks for the smaller of the two shares, and for none
of them when the chargers are within the limit of the pack. -/
theorem chooseAmps_toNat (divZero : UInt16) {pin : Bool} {d : Drained}
    (hover : jAmps d > stationCurrent pin) :
    (chooseAmps divZero pin d).toNat =
      if d.amps > OUTPUT_CURRENT_MAX then
        min (stationShare divZero (stationCurrent pin) d).toNat (packShare divZero d).toNat
      else 0 := by
  have hnever : ¬ stationShare divZero (stationCurrent pin) d < 0 :=
    UInt16.not_lt.mpr UInt16.zero_le
  unfold chooseAmps
  simp only [startAmps_eq, hover, if_true]
  by_cases hpack : d.amps > OUTPUT_CURRENT_MAX
  · simp only [hpack, if_true]
    split
    · rename_i hlt
      have hle := UInt16.lt_iff_toNat_lt.mp hlt
      omega
    · rename_i hge
      have hle := UInt16.le_iff_toNat_le.mp (UInt16.not_lt.mp hge)
      omega
  · simp only [hpack, if_false, hnever, UInt16.toNat_zero]

/-- Up to the maximum voltage a current is asked for exactly when the chargers are above the limit of
the pack and their share in it is not 0. -/
theorem chooseAmps_pos_iff (divZero : UInt16) {pin : Bool} {d : Drained}
    (hover : jAmps d > stationCurrent pin) (hmax : ¬ d.volts > OUTPUT_VOLTAGE_MAX) :
    chooseAmps divZero pin d > 0 ↔ d.amps > OUTPUT_CURRENT_MAX ∧ packShare divZero d > 0 := by
  have hvolts := volts_ne_zero_of_jAmps hover
  have hpos : 0 < d.volts.toNat := by
    apply Nat.pos_of_ne_zero
    intro hzero
    exact hvolts (UInt16.toNat_inj.mp hzero)
  have hle : d.volts.toNat ≤ 116 := UInt16.le_iff_toNat_le.mp (UInt16.not_lt.mp hmax)
  have hsome := stationShare_pos pin hpos hle
  rw [← stationShare_toNat divZero pin hvolts] at hsome
  simp only [gt_iff_lt, UInt16.lt_iff_toNat_lt (b := packShare divZero d),
    UInt16.lt_iff_toNat_lt (b := chooseAmps divZero pin d), chooseAmps_toNat divZero hover,
    UInt16.toNat_zero]
  split
  · rename_i hpack
    rw [and_iff_right hpack]
    omega
  · rename_i hidle
    exact iff_of_false (Nat.lt_irrefl 0) (fun h => hidle h.1)

/-- In the units of the heartbeat, what the block asks for is within the limit of the station. -/
theorem chooseAmps_le_limit (divZero : UInt16) {pin : Bool} {d : Drained}
    (hover : jAmps d > stationCurrent pin) :
    (chooseAmps divZero pin d * 10).toNat ≤ stationLimit pin d.volts := by
  have hlimit : stationLimit pin d.volts =
      10 * (stationShare divZero (stationCurrent pin) d).toNat := by
    rw [stationShare_toNat divZero pin (volts_ne_zero_of_jAmps hover)]
    rfl
  have htimes : (chooseAmps divZero pin d * 10).toNat ≤ 10 * (chooseAmps divZero pin d).toNat := by
    rw [UInt16.toNat_mul, Nat.mul_comm]
    exact Nat.mod_le _ _
  have hchoice := chooseAmps_toNat divZero hover
  split at hchoice <;> omega

/-- When the input current is above that of the station, the heartbeat keeps to the limit exactly
when the voltage is above the maximum, or the chargers are above the limit of the pack with a
share of at least 1 A, or the heartbeat before it kept to the limit. -/
theorem the_station_limit_is_kept_iff (divZero : UInt16) (s : State) (pin : Bool)
    (batch : List Message) (hflag : s.flagRecv ≠ 0)
    (hover : jAmps (drain batch) > stationCurrent pin) :
    (currentOf (loop divZero s pin batch).HeartbeatMessage).toNat ≤
        stationLimit pin (drain batch).volts ↔
      (drain batch).volts > OUTPUT_VOLTAGE_MAX ∨
        ((drain batch).amps > OUTPUT_CURRENT_MAX ∧ packShare divZero (drain batch) > 0) ∨
        (currentOf s.HeartbeatMessage).toNat ≤ stationLimit pin (drain batch).volts := by
  have hsent : (loop divZero s pin batch).HeartbeatMessage =
      writeHeartbeat s.HeartbeatMessage (drain batch).volts
        (chooseAmps divZero pin (drain batch)) := by
    unfold loop
    simp only
    rw [if_pos hflag]
  rw [hsent, currentOf_writeHeartbeat]
  generalize drain batch = d at *
  by_cases hmax : d.volts > OUTPUT_VOLTAGE_MAX
  · rw [if_pos hmax]
    exact iff_of_true (Nat.zero_le _) (Or.inl hmax)
  · rw [if_neg hmax, or_iff_right hmax, ← chooseAmps_pos_iff divZero hover hmax]
    by_cases hasked : chooseAmps divZero pin d > 0
    · rw [if_pos hasked]
      exact iff_of_true (chooseAmps_le_limit divZero hover) (Or.inl hasked)
    · -- nothing is written, so the heartbeat is the one before
      rw [if_neg hasked, or_iff_right hasked]

/-- After power-up, two chargers at 100 V and 30 A on a station of the smaller size: they draw
28 A from it, and the heartbeat asks for 32.0 A where the station allows 27.0 A. -/
theorem the_station_limit_is_not_enforced :
    let batch := [message 1000 300, message 1000 300]
    jAmps (drain batch) > stationCurrent true ∧
      stationLimit true (drain batch).volts = 270 ∧
      (currentOf (loop 0xffff (MCP2515_ISR globals) true batch).HeartbeatMessage).toNat = 320 := by
  decide +kernel

/-- Two chargers at 100 V and 50 A each are above the limit of the pack, and the station comes
first. -/
theorem the_station_limit_of_two_fast_chargers :
    (currentOf (loop 0xffff (MCP2515_ISR globals) true
      [message 1000 500, message 1000 500]).HeartbeatMessage).toNat ≤
        stationLimit true (drain [message 1000 500, message 1000 500]).volts :=
  (the_station_limit_is_kept_iff 0xffff (MCP2515_ISR globals) true
    [message 1000 500, message 1000 500] (by decide) (by decide)).mpr
      (Or.inr (Or.inl (by decide)))

end super_charger.force_charge
