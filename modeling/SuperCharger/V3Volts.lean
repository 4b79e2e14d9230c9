-- The voltage that `v3` works with, against the latest readings of the two
-- packs, whatever the order in which the two buses bring them.
import SuperCharger.V3Frames

namespace super_charger.v3

open machine_int charger_message zero runs

/-! ## Readings -/

/-- The voltages of the state: the shared one in tenths of a volt, the others in millivolts. -/
structure Voltages where
  volts : Int16
  bikeVolts : Int32
  monolithVolts : Int32
  powerTankVolts : Int32

def State.voltages (s : State) : Voltages where
  volts := s.volts
  bikeVolts := s.bikeVolts
  monolithVolts := s.monolithVolts
  powerTankVolts := s.powerTankVolts

/-- The shared voltage is not below the reading of either pack. -/
structure Voltages.Covers (v : Voltages) : Prop where
  monolith : (v.monolithVolts / 100).toInt ≤ v.volts.toInt
  powerTank : (v.powerTankVolts / 100).toInt ≤ v.volts.toInt

/-- A reading that fits the shared voltage, in millivolts. -/
def Reading (mV : Int32) : Prop := 0 ≤ mV.toInt ∧ mV.toInt ≤ 3276700

theorem tenths_toInt {mV : Int32} (h : Reading mV) : (mV / 100).toInt = mV.toInt / 100 :=
  toInt_div_hundred h.1

theorem tenths_toInt16 {mV : Int32} (h : Reading mV) :
    (mV / 100).toInt16.toInt = mV.toInt / 100 := by
  obtain ⟨h0, h1⟩ := h
  exact toInt16_div_hundred h0 (by omega)

/-- A voltage frame of either pack. -/
def isVoltage (f : Frame) : Prop := f.id = BMS_CELL_VOLTAGE ∨ f.id = BMS1_CELL_VOLTAGE

/-- What a call may find: readings that fit the shared voltage, on both buses. -/
structure InRange (i : Input) : Prop where
  bike : ∀ f ∈ i.bike, isVoltage f → Reading f.voltage
  charger : ∀ m ∈ i.charger, (voltageOf m).toNat ≤ 32767

/-! ## The writers that keep the highest pack -/

/-- A monolith frame is not below the power tank, and a power-tank frame that is not above
`bikeVolts` is not above the shared voltage. -/
structure FrameFits (s : State) (f : Frame) : Prop where
  monolith : f.id = BMS_CELL_VOLTAGE → (s.powerTankVolts / 100).toInt ≤ (f.voltage / 100).toInt
  powerTank : f.id = BMS1_CELL_VOLTAGE →
    s.bikeVolts < f.voltage ∨ (f.voltage / 100).toInt ≤ s.volts.toInt

/-- A charger is not below either pack. -/
structure ChargerFits (s : State) (m : Message) : Prop where
  monolith : (s.monolithVolts / 100).toInt ≤ (voltageOf m).toNat
  powerTank : (s.powerTankVolts / 100).toInt ≤ (voltageOf m).toNat

/-- In a call of `loop` every voltage frame fits, and so does the message of the chargers that
is read last. -/
def VoltsFit (s : State) (i : Input) : Prop :=
  Always blocks.receive FrameFits (written s i.central) i.bike ∧
    (Due s i → ∀ m, i.charger.getLast? = some m → ChargerFits (polled s i) m)

instance (mV : Int32) : Decidable (Reading mV) := inferInstanceAs (Decidable (_ ∧ _))

instance (f : Frame) : Decidable (isVoltage f) := inferInstanceAs (Decidable (_ ∨ _))

instance (i : Input) : Decidable (InRange i) :=
  decidable_of_iff ((i.bike.all fun f => isVoltage f → Reading f.voltage) = true ∧
      (i.charger.all fun m => (voltageOf m).toNat ≤ 32767) = true)
    (by
      simp only [List.all_eq_true, decide_eq_true_eq]
      exact ⟨fun ⟨h1, h2⟩ => ⟨h1, h2⟩, fun h => ⟨h.bike, h.charger⟩⟩)

instance (s : State) (f : Frame) : Decidable (FrameFits s f) :=
  decidable_of_iff ((f.id = BMS_CELL_VOLTAGE →
        (s.powerTankVolts / 100).toInt ≤ (f.voltage / 100).toInt) ∧
      (f.id = BMS1_CELL_VOLTAGE →
        s.bikeVolts < f.voltage ∨ (f.voltage / 100).toInt ≤ s.volts.toInt))
    ⟨fun ⟨h1, h2⟩ => ⟨h1, h2⟩, fun h => ⟨h.monolith, h.powerTank⟩⟩

instance (s : State) (m : Message) : Decidable (ChargerFits s m) :=
  decidable_of_iff ((s.monolithVolts / 100).toInt ≤ (voltageOf m).toNat ∧
      (s.powerTankVolts / 100).toInt ≤ (voltageOf m).toNat)
    ⟨fun ⟨h1, h2⟩ => ⟨h1, h2⟩, fun h => ⟨h.monolith, h.powerTank⟩⟩

instance (s : State) (i : Input) : Decidable (VoltsFit s i) :=
  decidable_of_iff (Always blocks.receive FrameFits (written s i.central) i.bike ∧
      (Due s i → (i.charger.getLast?.all fun m => ChargerFits (polled s i) m) = true))
    (by
      simp only [Option.all_eq_true, decide_eq_true_eq]
      rfl)

/-- If `setChargingAmps` runs in a call of `loop`, it sees the highest pack. -/
def SeesHighest (s : State) (i : Input) : Prop :=
  Due s i → (atCharging (polled s i) i).voltages.Covers

/-! ## What the run keeps -/

/-- `bikeVolts` is not below the monolith, so a power-tank frame above it is above both. -/
structure Voltages.Fused (v : Voltages) : Prop where
  covers : v.Covers
  monolith_le : v.monolithVolts.toInt ≤ v.bikeVolts.toInt
  monolith : Reading v.monolithVolts
  powerTank : Reading v.powerTankVolts

theorem throttlePack_voltages (s : State) (AH amps : Int32) :
    (throttlePack s AH amps).voltages = s.voltages := by
  obtain ⟨_, _, h⟩ := throttlePack_frame s AH amps
  rw [h]
  rfl

/-- No other frame changes a voltage. -/
theorem receive_voltages (s : State) {f : Frame} (hf : ¬ isVoltage f) :
    (blocks.receive s f).voltages = s.voltages := by
  rcases blocks.receive_cases s f with
    ⟨hid, _⟩ | ⟨hid, _⟩ | ⟨_, e⟩ | ⟨_, e⟩ | ⟨_, e⟩ | ⟨_, e⟩ | ⟨_, e⟩ | ⟨_, e⟩
  · exact absurd (Or.inl hid) hf
  · exact absurd (Or.inr hid) hf
  · rw [e]
    exact throttlePack_voltages _ _ _
  · rw [e]
    exact throttlePack_voltages _ _ _
  · rw [e]
    rfl
  · rw [e]
    rfl
  · rw [e]
    rfl
  · rw [e]

theorem monolithVoltage_fused {s : State} {f : Frame} (h : s.voltages.Fused)
    (hr : Reading f.voltage) (hfit : (s.powerTankVolts / 100).toInt ≤ (f.voltage / 100).toInt) :
    (onMonolithVoltage s f).voltages.Fused := by
  have hvolts : (f.voltage / 100).toInt16.toInt = (f.voltage / 100).toInt := by
    rw [tenths_toInt16 hr, tenths_toInt hr]
  refine ⟨⟨?_, ?_⟩, ?_, hr, h.powerTank⟩
  · exact le_of_eq hvolts.symm
  · exact le_trans hfit (le_of_eq hvolts.symm)
  · exact le_refl _

theorem powerTankVoltage_fused {s : State} {f : Frame} (h : s.voltages.Fused)
    (hr : Reading f.voltage)
    (hfit : s.bikeVolts < f.voltage ∨ (f.voltage / 100).toInt ≤ s.volts.toInt) :
    (onPowerTankVoltage s f).voltages.Fused := by
  have hvolts : (f.voltage / 100).toInt16.toInt = (f.voltage / 100).toInt := by
    rw [tenths_toInt16 hr, tenths_toInt hr]
  have hmono := h.monolith_le
  have hm := tenths_toInt h.monolith
  have hf := tenths_toInt hr
  unfold onPowerTankVoltage
  simp only
  split
  · rename_i habove
    rw [gt_iff_lt, Int32.lt_iff_toInt_lt] at habove
    refine ⟨⟨?_, ?_⟩, ?_, h.monolith, hr⟩
    · change (s.monolithVolts / 100).toInt ≤ (f.voltage / 100).toInt16.toInt
      change s.monolithVolts.toInt ≤ s.bikeVolts.toInt at hmono
      change (s.monolithVolts / 100).toInt = s.monolithVolts.toInt / 100 at hm
      omega
    · exact le_of_eq hvolts.symm
    · exact le_of_lt (lt_of_le_of_lt hmono habove)
  · rename_i hbelow
    have hle := hfit.resolve_left hbelow
    exact ⟨⟨h.covers.monolith, hle⟩, h.monolith_le, h.monolith, hr⟩

/-- A frame that fits keeps the shared voltage above both packs. -/
theorem receive_fused {s : State} {f : Frame} (h : s.voltages.Fused)
    (hr : isVoltage f → Reading f.voltage) (hfit : FrameFits s f) :
    (blocks.receive s f).voltages.Fused := by
  by_cases hm : f.id = BMS_CELL_VOLTAGE
  · rw [blocks.receive_monolithVoltage s hm]
    exact monolithVoltage_fused h (hr (Or.inl hm)) (hfit.monolith hm)
  by_cases hq : f.id = BMS1_CELL_VOLTAGE
  · rw [blocks.receive_powerTankVoltage s hq]
    exact powerTankVoltage_fused h (hr (Or.inr hq)) (hfit.powerTank hq)
  · rw [receive_voltages s (not_or.mpr ⟨hm, hq⟩)]
    exact h

theorem bikeLoop_fused {s : State} {frames : List Frame} (h : s.voltages.Fused)
    (hr : ∀ f ∈ frames, isVoltage f → Reading f.voltage)
    (hfit : Always blocks.receive FrameFits s frames) : (bikeLoop s frames).voltages.Fused := by
  have hboth := always_of_forall hr hfit
  exact run_of_always (I := fun s : State => s.voltages.Fused)
    (fun _ _ hs hf => receive_fused hs hf.1 hf.2) h hboth

theorem written_voltages (s : State) (writes : List Write) :
    (written s writes).voltages = s.voltages := by
  obtain ⟨_, _, _, _, _, _, hw⟩ := written_onlySettings s writes
  rw [hw]
  rfl

theorem countDown_voltages (s : State) : (countDown s).voltages = s.voltages := by
  unfold countDown
  split <;> rfl

theorem polled_fused {s : State} {i : Input} (h : s.voltages.Fused) (hr : InRange i)
    (hfit : VoltsFit s i) : (polled s i).voltages.Fused := by
  unfold polled
  rw [countDown_voltages]
  apply bikeLoop_fused
  · rw [written_voltages]
    exact h
  · exact hr.bike
  · exact hfit.1

/-- A last message that fits keeps the shared voltage above both packs. -/
theorem atCharging_fused {s : State} {i : Input} (h : s.voltages.Fused) (hr : InRange i)
    (hfit : ∀ m, i.charger.getLast? = some m → ChargerFits s m) :
    (atCharging s i).voltages.Fused := by
  unfold atCharging
  rw [sc.drain_eq]
  cases hlast : i.charger.getLast? with
  | none => exact h
  | some m =>
    have hword := hr.charger m (List.mem_of_getLast? hlast)
    have hm := hfit m hlast
    have hvolts := toInt_toInt16_of_lt (x := voltageOf m) (by omega)
    refine ⟨⟨?_, ?_⟩, h.monolith_le, h.monolith, h.powerTank⟩
    · exact le_trans hm.monolith (le_of_eq hvolts.symm)
    · exact le_trans hm.powerTank (le_of_eq hvolts.symm)

/-- The heartbeat itself leaves the voltages as `setChargingAmps` found them. -/
theorem heartbeat_voltages (s : State) (i : Input) :
    (heartbeat s i).voltages = (atCharging s i).voltages := by
  have hcharge : (charge s i).voltages = (atCharging s i).voltages := by
    unfold charge sc.superChargerLoop
    rw [sc.setChargingAmps_eq]
    rfl
  have hpoll := written_voltages (charge s i) i.poll
  unfold heartbeat
  exact hpoll.trans hcharge

theorem loop_fused {s : State} {i : Input} (h : s.voltages.Fused) (hr : InRange i)
    (hfit : VoltsFit s i) : (loop s i).voltages.Fused := by
  have hpolled := polled_fused h hr hfit
  unfold loop
  split
  · rename_i hdue
    rw [heartbeat_voltages]
    exact atCharging_fused hpolled hr (hfit.2 hdue)
  · exact hpolled

/-- In every run of readings that fit, if every writer of the shared voltage keeps to the
highest pack, every call of `setChargingAmps` sees the highest pack. -/
theorem every_charge_sees_the_highest_pack_while_every_writer_fits (is : List Input)
    (hrange : ∀ i ∈ is, InRange i) (hfit : Always loop VoltsFit setup is) :
    Always loop SeesHighest setup is := by
  refine (always_of_invariant (I := fun s : State => s.voltages.Fused) ?_ ?_ ?_
    (always_of_forall hrange hfit)).1
  · intro s i hs hi hdue
    exact (atCharging_fused (polled_fused hs hi.1 hi.2) hi.1 (hi.2.2 hdue)).covers
  · intro s i hs hi
    exact loop_fused hs hi.1 hi.2
  · refine ⟨⟨?_, ?_⟩, ?_, ?_, ?_⟩
    · decide
    · decide
    · decide
    · exact ⟨by decide, by decide⟩
    · exact ⟨by decide, by decide⟩

/-- A monolith at 110.0 V and a power tank at 115.0 V. The monolith reports last, and the
voltage that `setChargingAmps` sees is that of the monolith. -/
theorem a_monolith_that_reports_last_hides_the_power_tank :
    let s := run loop setup (upToHeartbeat [voltageFrame BMS_CELL_VOLTAGE 110000,
      voltageFrame BMS1_CELL_VOLTAGE 115000, configFrame BMS_PACK_CONFIG 10,
      activeFrame BMS_PACK_ACTIVE_DATA 20 20 20])
    let i := fromBike [voltageFrame BMS_CELL_VOLTAGE 110000]
    (atCharging (polled s i) i).volts = 1100 ∧
      (atCharging (polled s i) i).powerTankVolts / 100 = 1150 ∧ ¬ SeesHighest s i := by
  intro s i
  have hdue : Due s i := by decide +kernel
  refine ⟨by decide +kernel, by decide +kernel, ?_⟩
  intro h
  exact absurd (h hdue).powerTank (by decide +kernel)

/-- The same two packs in the other order bring the heartbeat, and its call finds them again, with a
charger at 116.0 V: the voltage that `setChargingAmps` sees is that of the charger. -/
theorem a_power_tank_that_reports_last_is_seen :
    let calls := upToHeartbeat [voltageFrame BMS_CELL_VOLTAGE 110000,
      voltageFrame BMS1_CELL_VOLTAGE 115000, configFrame BMS_PACK_CONFIG 10,
      activeFrame BMS_PACK_ACTIVE_DATA 20 20 20]
    let last := { fromBike [voltageFrame BMS_CELL_VOLTAGE 115100,
      voltageFrame BMS1_CELL_VOLTAGE 115200] with charger := [message 1100 0, message 1160 0] }
    Due (run loop setup calls) last ∧
      (atCharging (polled (run loop setup calls) last) last).volts = 1160 ∧
      Always loop SeesHighest setup (calls ++ [last]) := by
  intro calls last
  refine ⟨by decide +kernel, by decide +kernel, ?_⟩
  refine every_charge_sees_the_highest_pack_while_every_writer_fits _ ?_ ?_
  · decide +kernel
  · decide +kernel

end super_charger.v3
