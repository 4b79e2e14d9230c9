-- What a heartbeat says when it is read the way the sketches read messages:
-- the voltage and the current that the controllers of `v3` and `v2.6` meant.
import SuperCharger.V26Frames
import SuperCharger.V3Frames

namespace super_charger.heartbeat_bytes

open machine_int arduino charger_message runs

/-! ## What a heartbeat should say -/

/-- The message says this voltage and this current, word by word and through the library, and
nothing in the reserved bytes. -/
structure Says (msg : Message) (OUTPUT_VOLTS_END : UInt32) (chargingAmps : UInt16) : Prop where
  volts : (voltageOf msg).toNat = OUTPUT_VOLTS_END.toNat
  amps : currentOf msg = chargingAmps
  scv2Volts : SCV2.voltage msg = OUTPUT_VOLTS_END.toUInt16.toInt16
  scv2Amps : SCV2.amps msg = chargingAmps.toInt16
  reserved : Reserved msg

/-- The two bytes of the voltage are the same. -/
def SameBytes (OUTPUT_VOLTS_END : UInt32) : Prop :=
  OUTPUT_VOLTS_END.toNat % 256 = OUTPUT_VOLTS_END.toNat / 256

/-- The union puts the low byte where the high one belongs, so the voltage survives only when
its two bytes are the same. -/
theorem says_iff {msg : Message} (hmsg : Reserved msg) {v : UInt32} (hv : v.toNat ≤ 65535)
    (a : UInt16) : Says (writeCurrent (writeVoltage msg v) a) v a ↔ SameBytes v := by
  have hword : v.toUInt16.toNat = v.toNat := by
    rw [UInt32.toNat_toUInt16]
    omega
  have hvolts : voltageOf (writeCurrent (writeVoltage msg v) a) =
      word (lowByte v.toUInt16) (highByte v.toUInt16) := by
    rw [voltageOf_writeCurrent, voltageOf_writeVoltage]
  have hswap := swapped_word_eq_iff v.toUInt16
  rw [hword] at hswap
  unfold SameBytes
  constructor
  · intro h
    rw [← hswap, ← UInt16.toNat_inj, hword, ← hvolts]
    exact h.volts
  · intro h
    rw [← hswap] at h
    rw [h] at hvolts
    have hreserved := reserved_writeCurrent (reserved_writeVoltage hmsg v) a
    refine ⟨?_, currentOf_writeCurrent _ a, ?_, ?_, hreserved⟩
    · rw [hvolts, hword]
    · rw [SCV2.voltage_eq, hvolts]
    · rw [SCV2.amps_eq, currentOf_writeCurrent]

/-! ## The reserved bytes of every reachable heartbeat -/

theorem reserved_v3_loop (s : v3.State) (i : v3.Input) (h : Reserved s.HeartbeatMessage) :
    Reserved (v3.loop s i).HeartbeatMessage := by
  have hpolled : Reserved (v3.polled s i).HeartbeatMessage := by
    rw [v3.polled_HeartbeatMessage]
    exact h
  unfold v3.loop
  split
  · have hcharge : (v3.charge (v3.polled s i) i).HeartbeatMessage =
        (v3.polled s i).HeartbeatMessage := v3.charge_HeartbeatMessage _ _
    obtain ⟨_, _, _, _, _, _, hw⟩ :=
      v3.written_onlySettings (v3.charge (v3.polled s i) i) i.poll
    unfold v3.heartbeat
    rw [hw]
    apply reserved_writeCurrent
    apply reserved_writeVoltage
    rw [hcharge]
    exact hpolled
  · exact hpolled

theorem reserved_v26_loop (s : v26.State) (i : v26.Input) (h : Reserved s.HeartbeatMessage) :
    Reserved (v26.loop s i).HeartbeatMessage := by
  have hpolled : Reserved (v26.polled s i).HeartbeatMessage :=
    v26.polled_HeartbeatMessage (P := Reserved) (fun _ v hmsg => reserved_writeVoltage hmsg v) h i
  unfold v26.loop
  split
  · unfold v26.heartbeat
    apply reserved_writeCurrent
    rw [v26.setChargingAmps_HeartbeatMessage]
    exact hpolled
  · exact hpolled

theorem reserved_v3 (is : List v3.Input) :
    Reserved (run v3.loop v3.setup is).HeartbeatMessage :=
  run_invariant (I := fun s : v3.State => Reserved s.HeartbeatMessage) reserved_v3_loop
    reserved_defaultHeartbeat is

theorem reserved_v26 (e : v26.Settings) (is : List v26.Input) :
    Reserved (run v26.loop (v26.setup e) is).HeartbeatMessage :=
  run_invariant (I := fun s : v26.State => Reserved s.HeartbeatMessage) reserved_v26_loop
    (reserved_writeVoltage reserved_defaultHeartbeat _) is

/-! ## The two controllers -/

/-- From every reachable message, and for every end voltage and current, the next heartbeat
says what the controller decided exactly when the two bytes of the end voltage are the same. -/
theorem a_heartbeat_says_its_voltage_iff_the_two_bytes_agree (is : List v3.Input)
    (e : v26.Settings) (js : List v26.Input) (OUTPUT_VOLTS_END : UInt32) (chargingAmps : UInt16)
    (hv : OUTPUT_VOLTS_END.toNat ≤ 65535) :
    (Says (sc.superCharge { (run v3.loop v3.setup is).toState with
        OUTPUT_VOLTS_END := OUTPUT_VOLTS_END
        chargingAmps := chargingAmps }).HeartbeatMessage OUTPUT_VOLTS_END chargingAmps ↔
      SameBytes OUTPUT_VOLTS_END) ∧
    (Says (writeCurrent (v26.updateHeartbeatVoltage { run v26.loop (v26.setup e) js with
        OUTPUT_VOLTS_END := OUTPUT_VOLTS_END }).HeartbeatMessage chargingAmps)
        OUTPUT_VOLTS_END chargingAmps ↔
      SameBytes OUTPUT_VOLTS_END) := by
  constructor
  · exact says_iff (reserved_v3 is) hv chargingAmps
  · exact says_iff (reserved_v26 e js) hv chargingAmps

/-- At power-up `v3` means 132.0 V and says 1024.5 V, and `v2.6` means 116.4 V and says 3584.4 V. -/
theorem the_first_heartbeats_say_other_voltages :
    v3.setup.OUTPUT_VOLTS_END = 1320 ∧
      voltageOf (sc.superCharge v3.setup.toState).HeartbeatMessage = 10245 ∧
      ¬ Says (sc.superCharge v3.setup.toState).HeartbeatMessage 1320 0 ∧
      (v26.setup v26.usualSettings).OUTPUT_VOLTS_END = 1164 ∧
      voltageOf (v26.setup v26.usualSettings).HeartbeatMessage = 35844 ∧
      ¬ Says (writeCurrent (v26.setup v26.usualSettings).HeartbeatMessage 320) 1164 320 := by
  refine ⟨by decide, by decide, ?_, by decide, by decide, ?_⟩
  · intro h
    exact absurd h.volts (by decide)
  · intro h
    exact absurd h.volts (by decide)

/-- An end voltage of 128.5 V is 0x0505. -/
theorem an_end_voltage_with_equal_bytes_is_said :
    Says (sc.superCharge { v3.setup.toState with
      OUTPUT_VOLTS_END := 0x0505, chargingAmps := 320 }).HeartbeatMessage 0x0505 320 :=
  (a_heartbeat_says_its_voltage_iff_the_two_bytes_agree [] v26.usualSettings [] 0x0505 320
    (by decide)).1.mpr (by unfold SameBytes; decide)

end super_charger.heartbeat_bytes
