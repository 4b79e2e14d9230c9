-- The voltage that `v2.6` works with, against the latest readings of the two packs
-- and of the chargers: the readings come on two buses, and the refresh joins them.
import SuperCharger.History
import SuperCharger.V26Frames

namespace super_charger.v26

open machine_int charger_message zero runs history

/-! ## Readings -/

def isMonolithVoltage (f : Frame) : Bool := f.id = BMS_CELL_VOLTAGE
def isPowerTankVoltage (f : Frame) : Bool := f.id = BMS1_CELL_VOLTAGE

/-- The frames that the calls of a run found on the bike bus. -/
def framesOf (is : List Input) : List Frame := is.flatMap Input.bike

/-- The messages that the calls of a run found on the charger bus. -/
def messagesOf (is : List Input) : List Message := is.flatMap Input.charger

/-- A reading in millivolts that comes out as 0 to 32767 tenths of a volt. -/
def TenthsFit (mV : Int32) : Prop := 0 ≤ (mV / 100).toInt ∧ (mV / 100).toInt ≤ 32767

/-- What a call may find: readings that fit a `short` in tenths of a volt, on both buses. -/
structure InRange (i : Input) : Prop where
  bike : ∀ f ∈ i.bike, isVoltage f → TenthsFit f.voltage
  charger : ∀ m ∈ i.charger, (voltageOf m).toNat ≤ 32767

/-- The latest reading of a pack, or 0 when it has sent none. -/
def latest (p : Frame → Bool) (frames : List Frame) : Int32 :=
  ((lastOf p frames).map Frame.voltage).getD 0

/-- The voltage is not below the latest reading of either pack, nor more than 1.1 V below the
latest reading of a charger. -/
structure Fused (volts : Int16) (frames : List Frame) (messages : List Message) : Prop where
  monolith : (latest isMonolithVoltage frames / 100).toInt ≤ volts.toInt
  powerTank : (latest isPowerTankVoltage frames / 100).toInt ≤ volts.toInt
  charger : ∀ m, messages.getLast? = some m → ((voltageOf m).toNat : Int) - 11 ≤ volts.toInt

/-! ## What a run keeps -/

/-- The state keeps the latest reading of each pack, and the shared voltage is at most 1.1 V
below the latest charger. -/
structure Tracks (v : Voltages) (frames : List Frame) (messages : List Message) : Prop where
  monolith : v.monolithVolts = latest isMonolithVoltage frames
  powerTank : v.powerTankVolts = latest isPowerTankVoltage frames
  monolithFits : TenthsFit v.monolithVolts
  powerTankFits : TenthsFit v.powerTankVolts
  charger : ∀ m, messages.getLast? = some m → ((voltageOf m).toNat : Int) - 11 ≤ v.volts.toInt

theorem latest_snoc (p : Frame → Bool) (frames : List Frame) (f : Frame) :
    latest p (frames ++ [f]) = if p f then f.voltage else latest p frames := by
  unfold latest
  rw [lastOf_snoc]
  split <;> rfl

theorem receive_tracks {s : State} {f : Frame} {frames : List Frame} {messages : List Message}
    (h : Tracks s.voltages frames messages) (hf : isVoltage f → TenthsFit f.voltage) :
    Tracks (blocks.receive s f).voltages (frames ++ [f]) messages := by
  have hmono := latest_snoc isMonolithVoltage frames f
  have htank := latest_snoc isPowerTankVoltage frames f
  unfold isMonolithVoltage at hmono
  unfold isPowerTankVoltage at htank
  by_cases hm : f.id = BMS_CELL_VOLTAGE
  · have hother : f.id ≠ BMS1_CELL_VOLTAGE := by
      rw [hm]
      decide
    simp only [hm, decide_true, if_true] at hmono
    simp only [hother, decide_false, Bool.false_eq_true, if_false] at htank
    rw [blocks.receive_monolithVoltage s hm]
    exact ⟨hmono.symm, h.powerTank.trans htank.symm, hf (Or.inl hm), h.powerTankFits, h.charger⟩
  simp only [hm, decide_false, Bool.false_eq_true, if_false] at hmono
  by_cases hq : f.id = BMS1_CELL_VOLTAGE
  · simp only [hq, decide_true, if_true] at htank
    rw [blocks.receive_powerTankVoltage s hq]
    exact ⟨h.monolith.trans hmono.symm, htank.symm, h.monolithFits, hf (Or.inr hq), h.charger⟩
  · simp only [hq, decide_false, Bool.false_eq_true, if_false] at htank
    rw [receive_voltages s (not_or.mpr ⟨hm, hq⟩)]
    exact ⟨h.monolith.trans hmono.symm, h.powerTank.trans htank.symm, h.monolithFits,
      h.powerTankFits, h.charger⟩

/-- A charger within 1.1 V leaves the voltage, and any other sets it. -/
theorem receiveCharger_near (s : State) {m : Message} (hm : (voltageOf m).toNat ≤ 32767) :
    ((voltageOf m).toNat : Int) - 11 ≤ (receiveCharger s m).volts.toInt := by
  have hword := toInt_toInt16_of_lt (x := voltageOf m) (by omega)
  rcases receiveCharger_volts_cases s m with hused | ⟨hkept, hnear⟩
  · rw [hused]
    omega
  · rw [hkept]
    omega

theorem receiveCharger_tracks {s : State} {m : Message} {frames : List Frame}
    {messages : List Message} (h : Tracks s.voltages frames messages)
    (hm : (voltageOf m).toNat ≤ 32767) :
    Tracks (receiveCharger s m).voltages frames (messages ++ [m]) := by
  have hnear := receiveCharger_near s hm
  obtain ⟨volts, hframe⟩ := receiveCharger_frame s m
  rw [hframe] at hnear ⊢
  refine ⟨h.monolith, h.powerTank, h.monolithFits, h.powerTankFits, ?_⟩
  intro m' hlast
  rw [List.getLast?_concat] at hlast
  rw [← Option.some.inj hlast]
  exact hnear

theorem polled_tracks {s : State} {i : Input} {frames : List Frame} {messages : List Message}
    (h : Tracks s.voltages frames messages) (hi : InRange i) :
    Tracks (polled s i).voltages (frames ++ i.bike) (messages ++ i.charger) := by
  have h0 : Tracks (readCommands s i.serial).voltages frames messages := by
    rw [readCommands_voltages]
    exact h
  have h1 := foldl_tracks (R := fun (u : State) messages => Tracks u.voltages frames messages)
    (fun u earlier m hm hu => receiveCharger_tracks hu (hi.charger m hm)) h0
  have h2 := foldl_tracks (R := fun (u : State) frames => Tracks u.voltages frames _)
    (fun u earlier f hf hu => receive_tracks hu (hi.bike f hf)) h1
  unfold polled
  simp only
  split
  · exact h2
  · exact h2

/-- The voltage, raised to both packs. -/
def Voltages.fused (v : Voltages) : Int16 := raised (raised v.volts v.monolithVolts) v.powerTankVolts

theorem fused_toInt {v : Voltages} (hm : TenthsFit v.monolithVolts)
    (hq : TenthsFit v.powerTankVolts) :
    v.fused.toInt =
      max (max v.volts.toInt (v.monolithVolts / 100).toInt) (v.powerTankVolts / 100).toInt := by
  have hm1 := hm.2
  have hq1 := hq.2
  unfold Voltages.fused
  rw [toInt_raised (by omega), toInt_raised (by omega)]

theorem setChargingAmps_voltages (p : derating.Platform) (s : State) :
    (setChargingAmps p s).voltages = { s.voltages with volts := s.voltages.fused } := by
  have hvolts : (refresh s).volts = s.voltages.fused := refresh_volts s
  rw [setChargingAmps_eq, refresh_frame, hvolts]
  rfl

theorem heartbeat_voltages (p : derating.Platform) (s : State) :
    (heartbeat p s).voltages = { s.voltages with volts := s.voltages.fused } := by
  have h := setChargingAmps_voltages p { s with delayItteration := 22000 }
  unfold heartbeat
  simp only
  generalize setChargingAmps p { s with delayItteration := 22000 } = u at *
  exact h

theorem loop_tracks {s : State} {i : Input} {frames : List Frame} {messages : List Message}
    (h : Tracks s.voltages frames messages) (hi : InRange i) :
    Tracks (loop s i).voltages (frames ++ i.bike) (messages ++ i.charger) := by
  have hpolled := polled_tracks h hi
  by_cases hdue : Due s i
  · have hloop : loop s i = heartbeat i.platform (polled s i) := if_pos hdue
    have hraise := fused_toInt hpolled.monolithFits hpolled.powerTankFits
    rw [hloop, heartbeat_voltages]
    refine ⟨hpolled.monolith, hpolled.powerTank, hpolled.monolithFits, hpolled.powerTankFits, ?_⟩
    intro m hm
    have hnear := hpolled.charger m hm
    simp only
    omega
  · rw [loop_of_not_due hdue]
    exact hpolled

theorem run_tracks (EEPROM : Settings) {is : List Input} (hrange : ∀ i ∈ is, InRange i) :
    Tracks (run loop (setup EEPROM) is).voltages (framesOf is) (messagesOf is) := by
  refine foldl_tracks (e := [])
    (R := fun (u : State) is => Tracks u.voltages (framesOf is) (messagesOf is)) ?_ ?_
  · intro u earlier i hi hu
    unfold framesOf messagesOf
    rw [List.flatMap_append, List.flatMap_append, List.flatMap_singleton, List.flatMap_singleton]
    exact loop_tracks hu (hrange i hi)
  · have hzero : TenthsFit 0 := ⟨by decide, by decide⟩
    exact ⟨rfl, rfl, hzero, hzero, fun m hm => nomatch hm⟩

/-! ## The voltage of a charging call -/

/-- The state in which the cutback loops of a call start. -/
def atCutback (s : State) (i : Input) : State :=
  rampUp (refresh { polled s i with delayItteration := 22000 })

/-- A heartbeat goes on from there: the loops, the stops and the limits, and the current of the
message. -/
theorem loop_from_atCutback {s : State} {i : Input} (h : Due s i) :
    loop s i =
      let p := i.platform
      let u := shareAmps p (limitAmps (wattsToAmps p (stationClamp (minStop (endStep
        (overTempCutback p (tempCutback p (voltageCutback table p (atCutback s i)))))))))
      { u with HeartbeatMessage := writeCurrent u.HeartbeatMessage u.chargingAmps } := by
  have hloop : loop s i = heartbeat i.platform (polled s i) := if_pos h
  rw [hloop]
  rfl

theorem atCutback_volts (s : State) (i : Input) :
    (atCutback s i).volts = (polled s i).voltages.fused := by
  have hvolts := refresh_volts { polled s i with delayItteration := 22000 }
  obtain ⟨w, hw⟩ := rampUp_onlyWatts (refresh { polled s i with delayItteration := 22000 })
  unfold atCutback
  rw [hw]
  exact hvolts

theorem fused_of_tracks {v : Voltages} {frames : List Frame} {messages : List Message}
    (h : Tracks v frames messages) : Fused v.fused frames messages := by
  have hraise := fused_toInt h.monolithFits h.powerTankFits
  refine ⟨?_, ?_, ?_⟩
  · rw [← h.monolith]
    omega
  · rw [← h.powerTank]
    omega
  · intro m hlast
    have hnear := h.charger m hlast
    omega

/-- In every run of readings that fit, when the cutback loops of a call start, the voltage covers
the latest reading of each pack, and the latest charger up to 1.1 V. -/
theorem every_cutback_starts_on_the_safe_side (EEPROM : Settings) (is : List Input) (i : Input)
    (hrange : ∀ j ∈ is ++ [i], InRange j) :
    Fused (atCutback (run loop (setup EEPROM) is) i).volts (framesOf (is ++ [i]))
      (messagesOf (is ++ [i])) := by
  have hrun := run_tracks EEPROM (fun j (hj : j ∈ is) => hrange j (List.mem_append_left _ hj))
  have hpolled := polled_tracks hrun (hrange i (by simp))
  rw [atCutback_volts]
  unfold framesOf messagesOf at hpolled ⊢
  rw [List.flatMap_append, List.flatMap_append, List.flatMap_singleton, List.flatMap_singleton]
  exact fused_of_tracks hpolled

/-- A charger reads 95.0 V beside a monolith of 100.0 V and a power tank of 101.0 V, and then
100.5 V. -/
theorem two_packs_and_a_charger_are_fused :
    let battery : Input := { fromBike [voltageFrame BMS_CELL_VOLTAGE 100000,
      voltageFrame BMS1_CELL_VOLTAGE 101000] with charger := [message 950 0] }
    let later : Input := { fromBike [] with charger := [message 1005 0] }
    Fused (atCutback (run loop (setup usualSettings) [battery]) later).volts battery.bike
      [message 950 0, message 1005 0] := by
  intro battery later
  refine every_cutback_starts_on_the_safe_side usualSettings [battery] later ?_
  intro j hj
  rcases List.mem_cons.mp hj with rfl | hj
  · constructor
    · intro f hf _
      rcases List.mem_cons.mp hf with rfl | hf
      · exact ⟨by decide, by decide⟩
      · rw [List.mem_singleton.mp hf]
        exact ⟨by decide, by decide⟩
    · intro m hm
      rw [List.mem_singleton.mp hm]
      decide
  · rw [List.mem_singleton.mp hj]
    constructor
    · exact fun f hf => absurd hf List.not_mem_nil
    · intro m hm
      rw [List.mem_singleton.mp hm]
      decide

end super_charger.v26
