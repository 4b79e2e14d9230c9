-- The two divisors of the charging laws of `v3` and `v2.6`, the voltage and the
-- number of chargers: who writes them, and when no division is by 0.
import SuperCharger.V26Frames
import SuperCharger.V3Volts

namespace super_charger.divisors

open machine_int derating

/-! ## The two divisions -/

/-- With these divisors both divisions of `setChargingAmps` are defined, and the signed one does
not turn a current negative. -/
structure Defined (volts : Int16) (chargerCount : Int32) : Prop where
  volts_ne : volts ≠ 0
  one_le : 1 ≤ chargerCount.toInt
  watts : ∀ p w, quotient p w volts.toInt32.toUInt32 = w / volts.toInt32.toUInt32
  amps : ∀ p a, quotientInt p (promote a) chargerCount = promote a / chargerCount
  sign : ∀ p a, 0 ≤ (quotientInt p (promote a) chargerCount).toInt

theorem defined_of_divisors {volts : Int16} {chargerCount : Int32} (hv : volts ≠ 0)
    (hn : 1 ≤ chargerCount.toInt) : Defined volts chargerCount := by
  refine ⟨hv, hn, ?_, ?_, ?_⟩
  · intro p w
    have hne : volts.toInt32.toUInt32 ≠ 0 := by
      intro h
      apply hv
      have hback := congrArg UInt32.toInt32 h
      rw [Int32.toInt32_toUInt32] at hback
      apply Int16.toInt_inj.mp
      rw [← Int16.toInt_toInt32, hback]
      rfl
    exact if_neg hne
  · intro p a
    have hne : chargerCount ≠ 0 := by
      intro h
      rw [h] at hn
      exact absurd hn (by decide)
    exact if_neg hne
  · intro p a
    rw [quotientInt_promote p a hn]
    exact Int.ediv_nonneg (by omega) (by omega)

end super_charger.divisors

namespace super_charger.v3

open machine_int charger_message zero runs divisors

/-! ## `v3` -/

/-- If `setChargingAmps` runs in a call of `loop`, its two divisions are defined. -/
def Divides (s : State) (i : Input) : Prop :=
  Due s i → Defined (atCharging (polled s i) i).volts (atCharging (polled s i) i).chargerCount

/-- The write calls `userUpdate`. -/
def Write.updates : Write → Bool
  | .chargerCountBLE _ => false
  | _ => true

/-- A write that calls `userUpdate` finds a number of chargers of 1 or more. -/
def WriteFits (s : State) (w : Write) : Prop := w.updates = true → 1 ≤ s.chargerCountBLE.toInt

/-- No reading comes out as 0, and no update finds less than one charger. -/
structure DivisorsFit (s : State) (i : Input) : Prop where
  central : Always write WriteFits s i.central
  bike : ∀ f ∈ i.bike, isVoltage f → (f.voltage / 100).toInt16 ≠ 0
  charger : Due s i → ∀ m, i.charger.getLast? = some m → voltageOf m ≠ 0
  poll : Due s i → Always write WriteFits (charge (polled s i) i) i.poll

/-- A voltage frame that sets the voltage if nothing has set it before. -/
def setsVolts (f : Frame) : Prop :=
  f.id = BMS_CELL_VOLTAGE ∨ f.id = BMS1_CELL_VOLTAGE ∧ 0 < f.voltage.toInt

def Input.setsVolts (i : Input) : Prop := ∃ f ∈ i.bike, v3.setsVolts f

def Input.updates (i : Input) : Prop := ∃ w ∈ i.central, w.updates = true

/-- By the first heartbeat a pack or a charger has been read, and an update has been made. -/
def ReadyAtFirst (is : List Input) : Prop :=
  ∀ before i after, is = before ++ i :: after →
    Always loop (fun s i => ¬ Due s i) setup before → Due (run loop setup before) i →
      ((∃ j ∈ before ++ [i], j.setsVolts) ∨ i.charger ≠ []) ∧ ∃ j ∈ before ++ [i], j.updates

theorem write_chargerCount {s : State} {w : Write} (hfit : WriteFits s w)
    (h : 1 ≤ s.chargerCount.toInt ∨ w.updates = true) : 1 ≤ (write s w).chargerCount.toInt := by
  cases w with
  | chargerCountBLE value =>
    rcases h with h | hup
    · exact h
    · cases hup
  | chargerTargetVolts value => exact hfit rfl
  | chargerMaxWatts value => exact hfit rfl
  | bleUnits value => exact hfit rfl

theorem written_chargerCount {s : State} {writes : List Write}
    (hfit : Always write WriteFits s writes) :
    1 ≤ s.chargerCount.toInt ∨ (∃ w ∈ writes, w.updates = true) →
      1 ≤ (written s writes).chargerCount.toInt := by
  have hrun : True ∧ (1 ≤ s.chargerCount.toInt ∨ (∃ w ∈ writes, w.updates = true) →
      1 ≤ (run write s writes).chargerCount.toInt) :=
    run_sets (I := fun _ => True) (R := fun s : State => 1 ≤ s.chargerCount.toInt)
      (fun _ _ _ hw => ⟨trivial, write_chargerCount hw⟩) trivial hfit
  exact hrun.2

/-- A voltage of 0 means that no frame has set `bikeVolts`. -/
def VoltsKnown (s : State) : Prop := s.volts ≠ 0 ∨ s.bikeVolts = 0

theorem receive_volts {s : State} {f : Frame} (h : VoltsKnown s)
    (hfit : isVoltage f → (f.voltage / 100).toInt16 ≠ 0) :
    VoltsKnown (blocks.receive s f) ∧
      (s.volts ≠ 0 ∨ setsVolts f → (blocks.receive s f).volts ≠ 0) := by
  by_cases hm : f.id = BMS_CELL_VOLTAGE
  · rw [blocks.receive_monolithVoltage s hm]
    have hne := hfit (Or.inl hm)
    exact ⟨Or.inl hne, fun _ => hne⟩
  by_cases hq : f.id = BMS1_CELL_VOLTAGE
  · rw [blocks.receive_powerTankVoltage s hq]
    have hne := hfit (Or.inr hq)
    change VoltsKnown (onPowerTankVoltage s f) ∧
      (s.volts ≠ 0 ∨ setsVolts f → (onPowerTankVoltage s f).volts ≠ 0)
    unfold onPowerTankVoltage
    simp only
    split
    · exact ⟨Or.inl hne, fun _ => hne⟩
    · rename_i hnot
      refine ⟨h, ?_⟩
      rintro (hv | hset)
      · exact hv
      · rcases h with hv | hzero
        · exact hv
        · exfalso
          apply hnot
          rcases hset with hid | ⟨_, hpos⟩
          · exact absurd hid hm
          · change s.bikeVolts < f.voltage
            rw [hzero, Int32.lt_iff_toInt_lt]
            exact hpos
  · have hsame := receive_voltages s (f := f) (not_or.mpr ⟨hm, hq⟩)
    have hvolts : (blocks.receive s f).volts = s.volts := congrArg Voltages.volts hsame
    have hbike : (blocks.receive s f).bikeVolts = s.bikeVolts := congrArg Voltages.bikeVolts hsame
    unfold VoltsKnown
    rw [hvolts, hbike]
    refine ⟨h, ?_⟩
    rintro (hv | hset)
    · exact hv
    · rcases hset with hid | ⟨hid, _⟩
      · exact absurd hid hm
      · exact absurd hid hq

theorem bikeLoop_volts {s : State} {frames : List Frame} (h : VoltsKnown s)
    (hfit : ∀ f ∈ frames, isVoltage f → (f.voltage / 100).toInt16 ≠ 0) :
    VoltsKnown (bikeLoop s frames) ∧
      (s.volts ≠ 0 ∨ (∃ f ∈ frames, setsVolts f) → (bikeLoop s frames).volts ≠ 0) := by
  have hrun : VoltsKnown (run blocks.receive s frames) ∧
      (s.volts ≠ 0 ∨ (∃ f ∈ frames, setsVolts f) → (run blocks.receive s frames).volts ≠ 0) :=
    run_sets (I := VoltsKnown) (R := fun s : State => s.volts ≠ 0) (P := setsVolts)
      (fun _ _ hs hf => receive_volts hs hf) h (always_of_inputs (fun f hf _ => hfit f hf) s)
  exact hrun

theorem toInt16_ne_zero {x : UInt16} (h : x ≠ 0) : x.toInt16 ≠ 0 := by
  intro h0
  have hback := congrArg Int16.toUInt16 h0
  simp at hback
  exact h hback

theorem polled_volts {s : State} {i : Input} (h : VoltsKnown s) (hfit : DivisorsFit s i) :
    VoltsKnown (polled s i) ∧ (s.volts ≠ 0 ∨ i.setsVolts → (polled s i).volts ≠ 0) := by
  have hwritten := written_voltages s i.central
  have hv0 : (written s i.central).volts = s.volts := congrArg Voltages.volts hwritten
  have hb0 : (written s i.central).bikeVolts = s.bikeVolts := congrArg Voltages.bikeVolts hwritten
  have hknown : VoltsKnown (written s i.central) := by
    unfold VoltsKnown
    rw [hv0, hb0]
    exact h
  obtain ⟨hk, hs⟩ := bikeLoop_volts hknown hfit.bike
  have hdown := countDown_voltages (bikeLoop (written s i.central) i.bike)
  have hv1 : (polled s i).volts = (bikeLoop (written s i.central) i.bike).volts :=
    congrArg Voltages.volts hdown
  have hb1 : (polled s i).bikeVolts = (bikeLoop (written s i.central) i.bike).bikeVolts :=
    congrArg Voltages.bikeVolts hdown
  rw [hv0] at hs
  unfold VoltsKnown at hk ⊢
  rw [hv1, hb1]
  exact ⟨hk, hs⟩

theorem polled_counts_chargers {s : State} {i : Input} (hfit : DivisorsFit s i)
    (h : 1 ≤ s.chargerCount.toInt ∨ i.updates) : 1 ≤ (polled s i).chargerCount.toInt := by
  have hsame : (polled s i).chargerCount = (written s i.central).chargerCount :=
    congrArg Kept.chargerCount (polled_kept s i)
  rw [hsame]
  exact written_chargerCount hfit.central h

theorem loop_of_not_due {s : State} {i : Input} (h : ¬ Due s i) : loop s i = polled s i := if_neg h

/-- Calls before the first heartbeat keep both divisors as the buses and the writes set them. -/
theorem quiet_divisors {s : State} {is : List Input}
    (hquiet : Always loop (fun s i => ¬ Due s i) s is) (hfit : Always loop DivisorsFit s is)
    (h : VoltsKnown s) :
    VoltsKnown (run loop s is) ∧
      (s.volts ≠ 0 ∨ (∃ j ∈ is, j.setsVolts) → (run loop s is).volts ≠ 0) ∧
      (1 ≤ s.chargerCount.toInt ∨ (∃ j ∈ is, j.updates) →
        1 ≤ (run loop s is).chargerCount.toInt) := by
  have hboth := always_and hquiet hfit
  obtain ⟨hknown, hvolts⟩ := run_sets (I := VoltsKnown) (R := fun s : State => s.volts ≠ 0)
    (P := Input.setsVolts) (fun s i hs hi => by
      rw [loop_of_not_due hi.1]
      exact polled_volts hs hi.2) h hboth
  obtain ⟨_, hcount⟩ := run_sets (I := fun _ => True) (P := Input.updates)
    (R := fun s : State => 1 ≤ s.chargerCount.toInt)
    (fun s i _ hi => by
      rw [loop_of_not_due hi.1]
      exact ⟨trivial, polled_counts_chargers hi.2⟩) trivial hboth
  exact ⟨hknown, hvolts, hcount⟩

/-- The chargers' last message sets the voltage, and otherwise it stays. -/
theorem atCharging_volts {s : State} {i : Input}
    (hfit : ∀ m, i.charger.getLast? = some m → voltageOf m ≠ 0)
    (h : s.volts ≠ 0 ∨ i.charger ≠ []) : (atCharging s i).volts ≠ 0 := by
  unfold atCharging
  rw [sc.drain_eq]
  cases hlast : i.charger.getLast? with
  | none =>
    have hnil : i.charger = [] := List.getLast?_eq_none_iff.mp hlast
    rcases h with hv | hne
    · exact hv
    · exact absurd hnil hne
  | some m => exact toInt16_ne_zero (hfit m hlast)

/-- Once both divisors are set, the law divides by neither 0. -/
theorem atCharging_defined {s : State} {i : Input} (hfit : DivisorsFit s i) (hdue : Due s i)
    (hv : (polled s i).volts ≠ 0 ∨ i.charger ≠ []) (hn : 1 ≤ (polled s i).chargerCount.toInt) :
    Defined (atCharging (polled s i) i).volts (atCharging (polled s i) i).chargerCount := by
  apply defined_of_divisors
  · exact atCharging_volts (hfit.charger hdue) hv
  · rw [atCharging_chargerCount]
    exact hn

/-- Both divisors are set. -/
def DivisorsSet (s : State) : Prop := s.volts ≠ 0 ∧ 1 ≤ s.chargerCount.toInt

/-- The heartbeat leaves both divisors set, whatever the writes that follow it. -/
theorem heartbeat_set {s : State} {i : Input} (hfit : DivisorsFit s i) (hdue : Due s i)
    (hdefined : Defined (atCharging (polled s i) i).volts
      (atCharging (polled s i) i).chargerCount) :
    DivisorsSet (heartbeat (polled s i) i) := by
  have hvolts : (heartbeat (polled s i) i).volts = (atCharging (polled s i) i).volts :=
    congrArg Voltages.volts (heartbeat_voltages _ _)
  obtain ⟨_, _, _, hframe⟩ := charge_frame (polled s i) i
  have hcount : (charge (polled s i) i).chargerCount = (polled s i).chargerCount := by rw [hframe]
  have hone := hdefined.one_le
  rw [atCharging_chargerCount, ← hcount] at hone
  refine ⟨?_, ?_⟩
  · rw [hvolts]
    exact hdefined.volts_ne
  · exact written_chargerCount (hfit.poll hdue) (Or.inl hone)

theorem loop_set {s : State} {i : Input} (h : DivisorsSet s) (hfit : DivisorsFit s i) :
    DivisorsSet (loop s i) := by
  obtain ⟨_, hvolts⟩ := polled_volts (Or.inl h.1) hfit
  have hv := hvolts (Or.inl h.1)
  have hn := polled_counts_chargers hfit (Or.inl h.2)
  unfold loop
  split
  · rename_i hdue
    exact heartbeat_set hfit hdue (atCharging_defined hfit hdue (Or.inl hv) hn)
  · exact ⟨hv, hn⟩

/-- While the writers of the two divisors fit, and both are set by the first heartbeat, every
division of a run is defined. -/
theorem divides_of_fit (is : List Input) (hfit : Always loop DivisorsFit setup is)
    (hfirst : ReadyAtFirst is) : Always loop Divides setup is := by
  refine always_of_first (A := DivisorsSet) ?_ (fun s i hs hi => loop_set hs hi) hfit ?_
  · intro s i hs hi hdue
    obtain ⟨_, hvolts⟩ := polled_volts (Or.inl hs.1) hi
    exact atCharging_defined hi hdue (Or.inl (hvolts (Or.inl hs.1)))
      (polled_counts_chargers hi (Or.inl hs.2))
  · intro before i after his hquiet hdue
    obtain ⟨hread, hupdate⟩ := hfirst before i after his hquiet hdue
    rw [his, always_append] at hfit
    obtain ⟨hbefore, hi, _⟩ := hfit
    obtain ⟨hknown, hvolts, hcount⟩ := quiet_divisors hquiet hbefore (Or.inr rfl)
    obtain ⟨_, hpolled⟩ := polled_volts hknown hi
    have hv : (polled (run loop setup before) i).volts ≠ 0 ∨ i.charger ≠ [] := by
      rcases hread with ⟨j, hj, hset⟩ | hcharger
      · left
        rcases List.mem_append.mp hj with hj | hj
        · exact hpolled (Or.inl (hvolts (Or.inr ⟨j, hj, hset⟩)))
        · rw [List.mem_singleton.mp hj] at hset
          exact hpolled (Or.inr hset)
      · exact Or.inr hcharger
    have hn : 1 ≤ (polled (run loop setup before) i).chargerCount.toInt := by
      apply polled_counts_chargers hi
      obtain ⟨j, hj, hup⟩ := hupdate
      rcases List.mem_append.mp hj with hj | hj
      · exact Or.inl (hcount (Or.inr ⟨j, hj, hup⟩))
      · rw [List.mem_singleton.mp hj] at hup
        exact Or.inr hup
    have hdefined := atCharging_defined hi hdue hv hn
    refine ⟨hdefined, ?_⟩
    have hloop : loop (run loop setup before) i = heartbeat (polled (run loop setup before) i) i :=
      if_pos hdue
    rw [hloop]
    exact heartbeat_set hi hdue hdefined

end super_charger.v3

namespace super_charger.v26

open machine_int charger_message zero runs divisors

/-! ## `v2.6` -/

/-- If `setChargingAmps` runs in a call of `loop`, its two divisions are defined. They are by
the voltage and the count of the refreshed state. -/
def Divides (s : State) (i : Input) : Prop :=
  Due s i → Defined (refresh (polled s i)).volts (refresh (polled s i)).chargerCount

/-- The reading of a pack, in millivolts: it comes out as 1 to 32767 tenths of a volt. -/
def PackReading (mV : Int32) : Prop := 100 ≤ mV.toInt ∧ mV.toInt < 3276800

/-- A pack has been read. -/
def PackRead (s : State) : Prop := s.monolithVolts ≠ 0 ∨ s.powerTankVolts ≠ 0

/-- A charger's reading is 1 to 32767 tenths of a volt, or it comes after a pack's, which the
refresh prefers when it is higher. -/
def ChargerFits (s : State) (m : Message) : Prop :=
  PackRead s ∨ 0 < (voltageOf m).toNat ∧ (voltageOf m).toNat < 2 ^ 15

def Input.commands (i : Input) : List Command := commandsIn i.serial.length i.serial

/-- Every command names a charger or more, and every reading fits. -/
structure DivisorsFit (s : State) (i : Input) : Prop where
  serial : ∀ c ∈ i.commands, 1 ≤ c.targetChargers.toInt32.toInt
  charger : Always receiveCharger ChargerFits (readCommands s i.serial) i.charger
  bike : ∀ f ∈ i.bike, isVoltage f → PackReading f.voltage

/-- A charger that is more than 1.1 V away from no voltage at all, or a pack. -/
def Input.setsVolts (i : Input) : Prop :=
  (∃ m ∈ i.charger, 11 < (voltageOf m).toNat) ∨ ∃ f ∈ i.bike, isVoltage f

/-- By the first heartbeat a pack or a charger has been read, and the number of chargers is
known from the EEPROM or from a command. -/
def ReadyAtFirst (EEPROM : Settings) (is : List Input) : Prop :=
  ∀ before i after, is = before ++ i :: after →
    Always loop (fun s i => ¬ Due s i) (setup EEPROM) before →
      Due (run loop (setup EEPROM) before) i →
        (∃ j ∈ before ++ [i], j.setsVolts) ∧
          (1 ≤ EEPROM.TargetChargerCount.toInt32.toInt ∨ ∃ j ∈ before ++ [i], j.commands ≠ [])

/-- Without a pack the shared voltage is not negative, and a pack has no reading or one in
range. -/
structure VoltsKnown (s : State) : Prop where
  volts : PackRead s ∨ 0 ≤ s.volts.toInt
  monolith : s.monolithVolts = 0 ∨ PackReading s.monolithVolts
  powerTank : s.powerTankVolts = 0 ∨ PackReading s.powerTankVolts

/-- A pack has been read, or the shared voltage is set. -/
def Read (s : State) : Prop := PackRead s ∨ s.volts.toInt ≠ 0

theorem readCommands_divisors {s : State} {i : Input}
    (hfit : ∀ c ∈ i.commands, 1 ≤ c.targetChargers.toInt32.toInt)
    (h : 1 ≤ s.chargerCount.toInt ∨ i.commands ≠ []) :
    1 ≤ (readCommands s i.serial).chargerCount.toInt := by
  have hrun : True ∧ (1 ≤ s.chargerCount.toInt ∨ (∃ c ∈ i.commands, True) →
      1 ≤ (run applyCommand s i.commands).chargerCount.toInt) :=
    run_sets (I := fun _ => True) (R := fun s : State => 1 ≤ s.chargerCount.toInt)
      (P := fun _ => True) (fun s c _ hc => by
        rw [applyCommand_eq]
        exact ⟨trivial, fun _ => hc⟩) trivial (always_of_inputs (fun c hc _ => hfit c hc) s)
  apply hrun.2
  rcases h with h | h
  · exact Or.inl h
  · obtain ⟨c, hc⟩ := List.exists_mem_of_ne_nil _ h
    exact Or.inr ⟨c, hc, trivial⟩

/-- The voltages decide what is known and what is read. -/
theorem known_of_voltages {s u : State} (hsame : u.voltages = s.voltages) (h : VoltsKnown s) :
    VoltsKnown u := by
  have hv : u.volts = s.volts := congrArg Voltages.volts hsame
  have hm : u.monolithVolts = s.monolithVolts := congrArg Voltages.monolithVolts hsame
  have hq : u.powerTankVolts = s.powerTankVolts := congrArg Voltages.powerTankVolts hsame
  refine ⟨?_, ?_, ?_⟩
  · unfold PackRead
    rw [hv, hm, hq]
    exact h.volts
  · rw [hm]
    exact h.monolith
  · rw [hq]
    exact h.powerTank

theorem read_of_voltages {s u : State} (hsame : u.voltages = s.voltages) (h : Read s) :
    Read u := by
  have hv : u.volts = s.volts := congrArg Voltages.volts hsame
  have hm : u.monolithVolts = s.monolithVolts := congrArg Voltages.monolithVolts hsame
  have hq : u.powerTankVolts = s.powerTankVolts := congrArg Voltages.powerTankVolts hsame
  unfold Read PackRead
  rw [hv, hm, hq]
  exact h

/-- Without a pack, a message in range does not take a voltage away, and one of more than 1.1 V
gives one: it is used, or it is within 1.1 V of the voltage. -/
theorem receiveCharger_volts {s : State} {m : Message} (h : 0 ≤ s.volts.toInt)
    (hpos : 0 < (voltageOf m).toNat) (hm : (voltageOf m).toNat < 2 ^ 15) :
    0 ≤ (receiveCharger s m).volts.toInt ∧
      (s.volts.toInt ≠ 0 ∨ 11 < (voltageOf m).toNat → (receiveCharger s m).volts.toInt ≠ 0) := by
  have hcv := toInt_toInt16_of_lt (x := voltageOf m) hm
  rcases receiveCharger_volts_cases s m with hused | ⟨hkept, hnear⟩
  · rw [hused]
    omega
  · rw [hkept]
    omega

theorem receiveCharger_known {s : State} {m : Message} (h : VoltsKnown s)
    (hm : ChargerFits s m) :
    VoltsKnown (receiveCharger s m) ∧
      (Read s ∨ 11 < (voltageOf m).toNat → Read (receiveCharger s m)) := by
  by_cases hpack : PackRead s
  · obtain ⟨v, hv⟩ := receiveCharger_frame s m
    rw [hv]
    exact ⟨⟨Or.inl hpack, h.monolith, h.powerTank⟩, fun _ => Or.inl hpack⟩
  · obtain ⟨hpos, hlt⟩ := hm.resolve_left hpack
    obtain ⟨hnonneg, hset⟩ := receiveCharger_volts (h.volts.resolve_left hpack) hpos hlt
    obtain ⟨v, hv⟩ := receiveCharger_frame s m
    rw [hv] at hnonneg hset ⊢
    refine ⟨⟨Or.inr hnonneg, h.monolith, h.powerTank⟩, ?_⟩
    intro hr
    exact Or.inr (hset (hr.imp_left (fun hread => hread.resolve_left hpack)))

theorem chargers_known {s : State} {messages : List Message} (h : VoltsKnown s)
    (hfit : Always receiveCharger ChargerFits s messages) :
    VoltsKnown (messages.foldl receiveCharger s) ∧
      (Read s ∨ (∃ m ∈ messages, 11 < (voltageOf m).toNat) →
        Read (messages.foldl receiveCharger s)) := by
  have hrun : VoltsKnown (run receiveCharger s messages) ∧
      (Read s ∨ (∃ m ∈ messages, 11 < (voltageOf m).toNat) →
        Read (run receiveCharger s messages)) :=
    run_sets (I := VoltsKnown) (R := Read) (P := fun m : Message => 11 < (voltageOf m).toNat)
      (fun _ _ hs hm => receiveCharger_known hs hm) h hfit
  exact hrun

theorem chargers_chargerCount (s : State) (messages : List Message) :
    (messages.foldl receiveCharger s).chargerCount = s.chargerCount :=
  chargers_invariant (I := fun u => u.chargerCount = s.chargerCount) (fun _ _ hu => hu) rfl messages

theorem pack_reading_ne_zero {mV : Int32} (h : PackReading mV) : mV ≠ 0 := by
  intro h0
  rw [h0] at h
  exact absurd h.1 (by decide)

theorem receive_known {s : State} {f : Frame} (h : VoltsKnown s)
    (hfit : isVoltage f → PackReading f.voltage) :
    VoltsKnown (blocks.receive s f) ∧ (Read s ∨ isVoltage f → Read (blocks.receive s f)) := by
  by_cases hm : f.id = BMS_CELL_VOLTAGE
  · rw [blocks.receive_monolithVoltage s hm]
    have hr := hfit (Or.inl hm)
    have hpack : PackRead (blocks.monolithVoltage s f) := Or.inl (pack_reading_ne_zero hr)
    exact ⟨⟨Or.inl hpack, Or.inr hr, h.powerTank⟩, fun _ => Or.inl hpack⟩
  by_cases hq : f.id = BMS1_CELL_VOLTAGE
  · rw [blocks.receive_powerTankVoltage s hq]
    have hr := hfit (Or.inr hq)
    have hpack : PackRead (blocks.powerTankVoltage s f) := Or.inr (pack_reading_ne_zero hr)
    exact ⟨⟨Or.inl hpack, h.monolith, Or.inr hr⟩, fun _ => Or.inl hpack⟩
  · have hno : ¬ isVoltage f := not_or.mpr ⟨hm, hq⟩
    have hsame := receive_voltages s hno
    exact ⟨known_of_voltages hsame h, fun hr => read_of_voltages hsame (hr.resolve_right hno)⟩

theorem drain_known {s : State} {frames : List Frame} (h : VoltsKnown s)
    (hfit : ∀ f ∈ frames, isVoltage f → PackReading f.voltage) :
    VoltsKnown (blocks.drain s frames) ∧
      (Read s ∨ (∃ f ∈ frames, isVoltage f) → Read (blocks.drain s frames)) := by
  have hrun : VoltsKnown (run blocks.receive s frames) ∧
      (Read s ∨ (∃ f ∈ frames, isVoltage f) → Read (run blocks.receive s frames)) :=
    run_sets (I := VoltsKnown) (R := Read) (P := isVoltage) (fun _ _ hs hf => receive_known hs hf) h
      (always_of_inputs (fun f hf _ => hfit f hf) s)
  exact hrun

theorem polled_known {s : State} {i : Input} (h : VoltsKnown s) (hfit : DivisorsFit s i) :
    VoltsKnown (polled s i) ∧ (Read s ∨ i.setsVolts → Read (polled s i)) := by
  have hsame := readCommands_voltages s i.serial
  have h0 := known_of_voltages hsame h
  obtain ⟨h1, hread1⟩ := chargers_known h0 hfit.charger
  obtain ⟨h2, hread2⟩ := drain_known h1 hfit.bike
  have hread : Read s ∨ i.setsVolts →
      Read (blocks.drain (i.charger.foldl receiveCharger (readCommands s i.serial)) i.bike) := by
    rintro (hr | hcharger | hframe)
    · exact hread2 (Or.inl (hread1 (Or.inl (read_of_voltages hsame hr))))
    · exact hread2 (Or.inl (hread1 (Or.inr hcharger)))
    · exact hread2 (Or.inr hframe)
  unfold polled
  simp only
  split
  · exact ⟨⟨h2.volts, h2.monolith, h2.powerTank⟩, hread⟩
  · exact ⟨h2, hread⟩

theorem polled_counts_chargers {s : State} {i : Input} (hfit : DivisorsFit s i)
    (h : 1 ≤ s.chargerCount.toInt ∨ i.commands ≠ []) : 1 ≤ (polled s i).chargerCount.toInt := by
  have hcommands := readCommands_divisors hfit.serial h
  rw [← chargers_chargerCount _ i.charger, ← blocks_keep_chargerCount _ i.bike] at hcommands
  unfold polled
  simp only
  split
  · exact hcommands
  · exact hcommands

/-! ### The refreshed voltage -/

theorem toInt_raised_of_reading {volts : Int16} {mV : Int32} (hm : mV = 0 ∨ PackReading mV) :
    (raised volts mV).toInt = max volts.toInt (mV.toInt / 100) := by
  have h0 : 0 ≤ mV.toInt ∧ mV.toInt < 3276800 := by
    rcases hm with rfl | ⟨hlow, hhigh⟩
    · decide
    · exact ⟨by omega, hhigh⟩
  have htenths := toInt_div_hundred h0.1
  rw [toInt_raised (by omega), htenths]

/-- Once something is read, the refreshed voltage is above 0. -/
theorem refresh_volts_pos {s : State} (h : VoltsKnown s) (hr : Read s) :
    0 < (refresh s).volts.toInt := by
  rw [refresh_volts, toInt_raised_of_reading h.powerTank, toInt_raised_of_reading h.monolith]
  by_cases hpack : PackRead s
  · rcases hpack with hne | hne
    · have hm := (h.monolith.resolve_left hne).1
      omega
    · have hq := (h.powerTank.resolve_left hne).1
      omega
  · have hnonneg := h.volts.resolve_left hpack
    have hne := hr.resolve_left hpack
    omega

/-- Once both divisors are set, the law divides by neither 0. -/
theorem refresh_defined {s : State} (h : VoltsKnown s) (hr : Read s)
    (hn : 1 ≤ s.chargerCount.toInt) : Defined (refresh s).volts (refresh s).chargerCount := by
  apply defined_of_divisors
  · intro h0
    have hpos := refresh_volts_pos h hr
    rw [h0] at hpos
    exact absurd hpos (by decide)
  · rw [refresh_chargerCount]
    exact hn

/-- Both divisors are set, and stay so. -/
structure DivisorsSet (s : State) : Prop where
  known : VoltsKnown s
  read : Read s
  chargerCount : 1 ≤ s.chargerCount.toInt

/-- The heartbeat leaves the refreshed voltage and the count. -/
theorem heartbeat_set {p : derating.Platform} {s : State} (h : DivisorsSet s) :
    DivisorsSet (heartbeat p s) := by
  have h' : DivisorsSet { s with delayItteration := 22000 } :=
    ⟨⟨h.known.volts, h.known.monolith, h.known.powerTank⟩, h.read, h.chargerCount⟩
  have hpos := refresh_volts_pos h'.known h'.read
  unfold heartbeat
  simp only
  generalize { s with delayItteration := 22000 } = u at *
  rw [setChargingAmps_eq]
  rw [refresh_frame] at hpos ⊢
  refine ⟨⟨Or.inr (Int.le_of_lt hpos), h'.known.monolith, h'.known.powerTank⟩, ?_,
    h'.chargerCount⟩
  exact Or.inr (Int.ne_of_gt hpos)

theorem polled_set {s : State} {i : Input} (h : DivisorsSet s) (hfit : DivisorsFit s i) :
    DivisorsSet (polled s i) := by
  obtain ⟨hknown, hread⟩ := polled_known h.known hfit
  exact ⟨hknown, hread (Or.inl h.read), polled_counts_chargers hfit (Or.inl h.chargerCount)⟩

theorem loop_set {s : State} {i : Input} (h : DivisorsSet s) (hfit : DivisorsFit s i) :
    DivisorsSet (loop s i) := by
  have hpolled := polled_set h hfit
  unfold loop
  split
  · exact heartbeat_set hpolled
  · exact hpolled

/-- Calls before the first heartbeat keep both divisors as the buses and the commands set
them. -/
theorem quiet_divisors {s : State} {is : List Input}
    (hquiet : Always loop (fun s i => ¬ Due s i) s is) (hfit : Always loop DivisorsFit s is)
    (h : VoltsKnown s) :
    VoltsKnown (run loop s is) ∧
      (Read s ∨ (∃ j ∈ is, j.setsVolts) → Read (run loop s is)) ∧
      (1 ≤ s.chargerCount.toInt ∨ (∃ j ∈ is, j.commands ≠ []) →
        1 ≤ (run loop s is).chargerCount.toInt) := by
  have hboth := always_and hquiet hfit
  obtain ⟨hknown, hread⟩ := run_sets (I := VoltsKnown) (R := Read) (P := Input.setsVolts)
    (fun s i hs hi => by
      rw [loop_of_not_due hi.1]
      exact polled_known hs hi.2) h hboth
  obtain ⟨_, hcount⟩ := run_sets (I := fun _ => True) (P := fun j : Input => j.commands ≠ [])
    (R := fun s : State => 1 ≤ s.chargerCount.toInt)
    (fun s i _ hi => by
      rw [loop_of_not_due hi.1]
      exact ⟨trivial, polled_counts_chargers hi.2⟩) trivial hboth
  exact ⟨hknown, hread, hcount⟩

theorem setup_known (EEPROM : Settings) :
    VoltsKnown (setup EEPROM) ∧
      (setup EEPROM).chargerCount = EEPROM.TargetChargerCount.toInt32 :=
  ⟨⟨Or.inr (Int.le_refl 0), Or.inl rfl, Or.inl rfl⟩, rfl⟩

/-- While the commands and the readings fit, and both divisors are set by the first heartbeat,
every division of a run is defined. -/
theorem divides_of_fit (EEPROM : Settings) (is : List Input)
    (hfit : Always loop DivisorsFit (setup EEPROM) is) (hfirst : ReadyAtFirst EEPROM is) :
    Always loop Divides (setup EEPROM) is := by
  obtain ⟨hsetup, hcount⟩ := setup_known EEPROM
  refine always_of_first (A := DivisorsSet) ?_ (fun s i hs hi => loop_set hs hi) hfit ?_
  · intro s i hs hi _
    have hpolled := polled_set hs hi
    exact refresh_defined hpolled.known hpolled.read hpolled.chargerCount
  · intro before i after his hquiet hdue
    obtain ⟨⟨j, hj, hset⟩, hcounts⟩ := hfirst before i after his hquiet hdue
    rw [his, always_append] at hfit
    obtain ⟨hbefore, hi, _⟩ := hfit
    obtain ⟨hknown, hread, hn⟩ := quiet_divisors hquiet hbefore hsetup
    rw [hcount] at hn
    obtain ⟨hpolled, hpolledRead⟩ := polled_known hknown hi
    have hset' : DivisorsSet (polled (run loop (setup EEPROM) before) i) := by
      refine ⟨hpolled, hpolledRead ?_, polled_counts_chargers hi ?_⟩
      · rcases List.mem_append.mp hj with hj | hj
        · exact Or.inl (hread (Or.inr ⟨j, hj, hset⟩))
        · rw [List.mem_singleton.mp hj] at hset
          exact Or.inr hset
      · rcases hcounts with hone | ⟨k, hk, hc⟩
        · exact Or.inl (hn (Or.inl hone))
        · rcases List.mem_append.mp hk with hk | hk
          · exact Or.inl (hn (Or.inr ⟨k, hk, hc⟩))
          · rw [List.mem_singleton.mp hk] at hc
            exact Or.inr hc
    refine ⟨refresh_defined hset'.known hset'.read hset'.chargerCount, ?_⟩
    have hloop : loop (run loop (setup EEPROM) before) i =
        heartbeat i.platform (polled (run loop (setup EEPROM) before) i) := if_pos hdue
    rw [hloop]
    exact heartbeat_set hset'

end super_charger.v26

namespace super_charger.divisors

open zero runs

/-! ## Both controllers -/

/-- In every run of either controller whose readings, settings and commands fit, and in which
both divisors are set by the first heartbeat, every division of `setChargingAmps` is defined. -/
theorem every_division_is_defined_once_both_divisors_are_set (is : List v3.Input)
    (EEPROM : v26.Settings) (js : List v26.Input) :
    (Always v3.loop v3.DivisorsFit v3.setup is → v3.ReadyAtFirst is →
      Always v3.loop v3.Divides v3.setup is) ∧
    (Always v26.loop v26.DivisorsFit (v26.setup EEPROM) js → v26.ReadyAtFirst EEPROM js →
      Always v26.loop v26.Divides (v26.setup EEPROM) js) := by
  refine ⟨?_, ?_⟩
  · intro hfit hfirst
    exact v3.divides_of_fit is hfit hfirst
  · intro hfit hfirst
    exact v26.divides_of_fit EEPROM js hfit hfirst

/-- A monolith of 10 Ah that takes 20 A, and whose voltage is not reported. -/
def noVoltage : List Frame :=
  [configFrame BMS_PACK_CONFIG 10, activeFrame BMS_PACK_ACTIVE_DATA 20 20 20]

/-- It brings the first heartbeat forward. No central has set the count of `v3`, and the EEPROM
of `v2.6` is empty. -/
theorem the_first_heartbeats_divide_by_zero :
    let s := run v3.loop v3.setup (v3.upToHeartbeat noVoltage)
    let i := v3.fromBike []
    let s' := run v26.loop (v26.setup ⟨0, 0, 0, 0, 0, 0⟩) (v26.upToHeartbeat noVoltage)
    let i' := v26.fromBike []
    ((v3.Due s i ∧ (v3.atCharging (v3.polled s i) i).volts = 0 ∧
      (v3.atCharging (v3.polled s i) i).chargerCount = 0) ∧ ¬ v3.Divides s i) ∧
    (v26.Due s' i' ∧ (v26.refresh (v26.polled s' i')).volts = 0 ∧
      (v26.refresh (v26.polled s' i')).chargerCount = 0) ∧ ¬ v26.Divides s' i' := by
  intro s i s' i'
  have h : v3.Due s i ∧ (v3.atCharging (v3.polled s i) i).volts = 0 ∧
      (v3.atCharging (v3.polled s i) i).chargerCount = 0 := by decide +kernel
  have h' : v26.Due s' i' ∧ (v26.refresh (v26.polled s' i')).volts = 0 ∧
      (v26.refresh (v26.polled s' i')).chargerCount = 0 := by decide +kernel
  refine ⟨⟨h, ?_⟩, h', ?_⟩
  · intro hdivides
    exact (hdivides h.1).volts_ne h.2.1
  · intro hdivides
    exact (hdivides h'.1).volts_ne h'.2.1

/-- The same monolith at 110.0 V. -/
def knownBattery : List Frame := voltageFrame BMS_CELL_VOLTAGE 110000 :: noVoltage

/-- One charger, by the writes of a central, and ten calls that reach the first heartbeat. -/
def knownRun : List v3.Input :=
  { v3.fromBike knownBattery with central := [.chargerCountBLE 1, .chargerTargetVolts 1164] } ::
    List.replicate 9 (v3.fromBike [])

def knownRun' : List v26.Input :=
  v26.fromBike knownBattery :: List.replicate 9 (v26.fromBike [])

theorem knownBattery_voltage {f : Frame} (hf : f ∈ knownBattery)
    (hid : f.id = BMS_CELL_VOLTAGE ∨ f.id = BMS1_CELL_VOLTAGE) :
    f = voltageFrame BMS_CELL_VOLTAGE 110000 := by
  rcases List.mem_cons.mp hf with rfl | hf
  · rfl
  · have hother : f.id ≠ BMS_CELL_VOLTAGE ∧ f.id ≠ BMS1_CELL_VOLTAGE := by
      simp only [noVoltage, List.mem_cons, List.not_mem_nil, or_false] at hf
      rcases hf with rfl | rfl
      · decide
      · decide
    exact absurd hid (not_or.mpr hother)

theorem knownRun_fits : Always v3.loop v3.DivisorsFit v3.setup knownRun := by
  refine ⟨⟨⟨fun h => absurd h (by decide), fun _ => by decide, trivial⟩, ?_,
    fun _ m hm => (nomatch hm), fun _ => trivial⟩, always_of_inputs ?_ _⟩
  · intro f hf hid
    rw [knownBattery_voltage hf hid]
    decide
  · intro i hi s
    rw [List.eq_of_mem_replicate hi]
    exact ⟨trivial, fun f hf => absurd hf List.not_mem_nil, fun _ m hm => (nomatch hm),
      fun _ => trivial⟩

theorem knownRun'_fits (EEPROM : v26.Settings) :
    Always v26.loop v26.DivisorsFit (v26.setup EEPROM) knownRun' := by
  refine ⟨⟨fun c hc => (nomatch hc), trivial, ?_⟩, always_of_inputs ?_ _⟩
  · intro f hf hid
    rw [knownBattery_voltage hf hid]
    exact ⟨by decide, by decide⟩
  · intro i hi s
    rw [List.eq_of_mem_replicate hi]
    exact ⟨fun c hc => (nomatch hc), trivial, fun f hf => absurd hf List.not_mem_nil⟩

/-- Whatever comes after it, the first call is among those so far. -/
theorem mem_of_first {ι : Type} {x i : ι} {xs before after : List ι}
    (h : x :: xs = before ++ i :: after) : x ∈ before ++ [i] := by
  cases before with
  | nil => simp [(List.cons.inj h).1]
  | cons y ys => simp [(List.cons.inj h).1]

/-- Both controllers reach a heartbeat with the monolith at 110.0 V and one charger: `v2.6` knows
it from the EEPROM. -/
theorem the_first_heartbeats_of_a_known_battery_are_defined :
    (Always v3.loop v3.Divides v3.setup knownRun ∧
      ¬ Always v3.loop (fun s i => ¬ v3.Due s i) v3.setup knownRun) ∧
    Always v26.loop v26.Divides (v26.setup ⟨660000, 1164, 1, 960, 0, 5000⟩) knownRun' ∧
      ¬ Always v26.loop (fun s i => ¬ v26.Due s i) (v26.setup ⟨660000, 1164, 1, 960, 0, 5000⟩)
        knownRun' := by
  have hboth := every_division_is_defined_once_both_divisors_are_set knownRun
    ⟨660000, 1164, 1, 960, 0, 5000⟩ knownRun'
  have hvoltage : voltageFrame BMS_CELL_VOLTAGE 110000 ∈ knownBattery := by simp [knownBattery]
  refine ⟨⟨hboth.1 knownRun_fits ?_, by decide +kernel⟩, hboth.2 (knownRun'_fits _) ?_,
    by decide +kernel⟩
  · intro before i after his _ _
    have hmem := mem_of_first his
    exact ⟨Or.inl ⟨_, hmem, _, hvoltage, Or.inl rfl⟩, _, hmem, .chargerTargetVolts 1164,
      List.mem_cons_of_mem _ List.mem_cons_self, rfl⟩
  · intro before i after his _ _
    exact ⟨⟨_, mem_of_first his, Or.inr ⟨_, hvoltage, Or.inl rfl⟩⟩, Or.inl (by decide)⟩

end super_charger.divisors
