-- What `v3` asks of the chargers with a heartbeat: the settings in force when it goes
-- out, and the stop of a hot pack. Both rest on the C-rate that the bike reports.
import SuperCharger.V3Frames
import Mathlib.Tactic.Ring

namespace super_charger.v3

open machine_int charger_message derating zero runs

theorem charge_toState (s : State) (i : Input) :
    (charge s i).toState = sc.setChargingAmps table i.platform (atCharging s i).toState := rfl

/-! ## The settings at the moment of sending -/

/-- The state in which the heartbeat of a call goes out. -/
def sending (s : State) (i : Input) : State := written (charge (polled s i) i) i.poll

/-- All the chargers together stay within the station limit. -/
def Obeys (s : State) : Prop :=
  (s.chargingAmps.toNat : Int) * s.chargerCount.toInt * s.volts.toInt ≤ s.MAX_STATION_WATTS.toNat

/-- A heartbeat with a voltage, to one charger or more. -/
def Asks (s : State) (i : Input) : Prop :=
  Due s i ∧ 0 < (sending s i).volts.toInt ∧ 1 ≤ (sending s i).chargerCount.toInt

/-- The current is computed for one charger or more and a C-rate that is not negative, and the
writes of `BLE.poll` do not lower the limit of a charger. -/
structure SettingsHold (s : State) (i : Input) : Prop where
  clamp : (atCharging (polled s i) i).ClampLowers
  count : 1 ≤ (polled s i).chargerCount.toInt
  limit : (polled s i).MAX_STATION_WATTS.toNat * (sending s i).chargerCount.toInt ≤
    (sending s i).MAX_STATION_WATTS.toNat * (polled s i).chargerCount.toInt

instance (s : State) (i : Input) : Decidable (Asks s i) :=
  inferInstanceAs (Decidable (_ ∧ _ ∧ _))

instance (s : State) (i : Input) : Decidable (SettingsHold s i) :=
  decidable_of_iff ((atCharging (polled s i) i).ClampLowers ∧ 1 ≤ (polled s i).chargerCount.toInt ∧
      (polled s i).MAX_STATION_WATTS.toNat * (sending s i).chargerCount.toInt ≤
        (sending s i).MAX_STATION_WATTS.toNat * (polled s i).chargerCount.toInt)
    ⟨fun ⟨h1, h2, h3⟩ => ⟨h1, h2, h3⟩, fun h => ⟨h.clamp, h.count, h.limit⟩⟩

/-- The message that a call sends to the chargers. -/
def sent (s : State) (i : Input) : Option Message :=
  if Due s i then some (sc.superCharge (sending s i).toState).HeartbeatMessage else none

/-- A call that asks for a current sends it, and leaves the message as it was sent. -/
theorem sent_of_asks {s : State} {i : Input} (h : Asks s i) :
    ∃ msg, sent s i = some msg ∧ currentOf msg = (sending s i).chargingAmps ∧
      (loop s i).HeartbeatMessage = msg := by
  refine ⟨_, if_pos h.1, currentOf_writeCurrent _ _, ?_⟩
  have hloop : loop s i = heartbeat (polled s i) i := if_pos h.1
  rw [hloop]
  rfl

theorem written_asks (s : State) (writes : List Write) :
    (written s writes).chargingAmps = s.chargingAmps ∧ (written s writes).volts = s.volts := by
  obtain ⟨_, _, _, _, _, _, hw⟩ := written_onlySettings s writes
  rw [hw]
  exact ⟨rfl, rfl⟩

/-- What is computed is within the limit of the computation. -/
theorem charge_within_limit {s : State} {i : Input} (hclamp : (atCharging s i).ClampLowers)
    (hn : 1 ≤ s.chargerCount.toInt) (hv : 0 < (charge s i).volts.toInt) :
    ((charge s i).chargingAmps.toNat : Int) * s.chargerCount.toInt * (charge s i).volts.toInt ≤
      s.MAX_STATION_WATTS.toNat := by
  have hcount := atCharging_chargerCount s i
  have hstation : (atCharging s i).MAX_STATION_WATTS = s.MAX_STATION_WATTS := by
    unfold atCharging
    rw [sc.drain_eq]
    rfl
  have hcharge := charge_toState s i
  rw [sc.setChargingAmps_eq] at hcharge
  have hvolts : (charge s i).volts = (atCharging s i).volts := by rw [hcharge]
  have hamps := sc.setChargingAmps_within_station (t := table) (p := i.platform)
    (s := (atCharging s i).toState) (by decide) hclamp (by rw [hcount]; exact hn)
    (by rw [← hvolts]; exact hv)
  unfold sc.State.commanded at hamps
  rw [← charge_toState] at hamps
  have hsame : (charge s i).chargerCount = s.chargerCount := by rw [hcharge, hcount]
  rw [hsame, ← hvolts, hstation] at hamps
  exact hamps

/-- A limit for each charger that is not lowered still bounds what was computed before. -/
theorem within_of_share {a v n m n' m' : Int} (hn : 1 ≤ n) (hn' : 1 ≤ n') (h : a * n * v ≤ m)
    (hshare : m * n' ≤ m' * n) : a * n' * v ≤ m' := by
  have hscaled : a * n * v * n' ≤ m * n' := Int.mul_le_mul_of_nonneg_right h (by omega)
  have hle : a * n' * v * n ≤ m' * n := by
    calc a * n' * v * n = a * n * v * n' := by ring
      _ ≤ m * n' := hscaled
      _ ≤ m' * n := hshare
  exact Int.le_of_mul_le_mul_right hle (by omega)

theorem sending_obeys {s : State} {i : Input} (hasks : Asks s i) (h : SettingsHold s i) :
    Obeys (sending s i) := by
  obtain ⟨_, hv, hn'⟩ := hasks
  obtain ⟨hamps, hvolts⟩ := written_asks (charge (polled s i) i) i.poll
  change (sending s i).chargingAmps = _ at hamps
  change (sending s i).volts = _ at hvolts
  have hcomputed := charge_within_limit h.clamp h.count (by rw [← hvolts]; exact hv)
  unfold Obeys
  rw [hvolts] at hv
  rw [hamps, hvolts]
  exact within_of_share h.count hn' hcomputed h.limit

/-- In a run from power-up whose heartbeats all go out under settings that hold, each of them
obeys the settings in force when it is sent. -/
theorem every_heartbeat_obeys_settings_that_hold (is : List Input)
    (h : Always loop (fun s i => Asks s i → SettingsHold s i) setup is) :
    Always loop (fun s i => Asks s i → Obeys (sending s i)) setup is := by
  have hobeys : ∀ s i, (Asks s i → SettingsHold s i) → Asks s i → Obeys (sending s i) :=
    fun _ _ hc hasks => sending_obeys hasks (hc hasks)
  exact always_mono hobeys h

/-- The central sets one charger of 6.6 kW, and the bike sends these frames. -/
def oneCharger (bike : List Frame) : Input :=
  { fromBike bike with central := [.chargerCountBLE 1, .chargerMaxWatts 660000] }

/-- Up to the first heartbeat of a pack of 100 Ah at 100.0 V, which takes 120 A and so brings the
timer down to 10. -/
def upToFirst : List Input :=
  oneCharger [configFrame BMS_PACK_CONFIG 100, voltageFrame BMS_CELL_VOLTAGE 100000,
    activeFrame BMS_PACK_ACTIVE_DATA 20 20 120] :: List.replicate 8 (fromBike [])

/-- The limit comes down to 10 W after the current was computed: the first heartbeat asks for
0.5 A at 100.0 V, which is 50 W. -/
theorem a_limit_lowered_in_the_poll_is_not_obeyed :
    let s := run loop setup upToFirst
    let i := { fromBike [] with poll := [.chargerMaxWatts 1000] }
    (sending s i).chargingAmps = 5 ∧ (sending s i).chargerCount = 1 ∧
    (sending s i).volts = 1000 ∧ (sending s i).MAX_STATION_WATTS = 1000 ∧
    Asks s i ∧ ¬ Obeys (sending s i) := by
  unfold Obeys
  decide +kernel

/-- With nothing in the poll it asks for the same under the limit of 6.6 kW. -/
theorem a_first_heartbeat_obeys :
    Always loop (fun s i => Asks s i → Obeys (sending s i)) setup (upToFirst ++ [fromBike []]) :=
  every_heartbeat_obeys_settings_that_hold _ (by decide +kernel)

/-! ## The stop of a hot pack -/

/-- `setChargingAmps` runs at 75 degrees or above, with a voltage and a charger. -/
def Overheated (s : State) (i : Input) : Prop :=
  let u := atCharging (polled s i) i
  Due s i ∧ 75 ≤ u.highTemp.toInt ∧ u.volts.toInt ≠ 0 ∧ 1 ≤ u.chargerCount.toInt

/-- The call leaves no power and no current. -/
def Stops (s : State) (i : Input) : Prop :=
  (charge (polled s i) i).watts = 0 ∧ (charge (polled s i) i).chargingAmps = 0

/-- The C-rate of the call is not negative, or not clamped to. -/
def Counts (s : State) (i : Input) : Prop := (atCharging (polled s i) i).ClampLowers

/-- A negative C-rate, cut to 16 bits, leaves less than one unit for each charger. -/
def TooSmallToShare (s : State) (i : Input) : Prop :=
  let u := atCharging (polled s i) i
  u.C_RATE.toInt % 2 ^ 16 < u.chargerCount.toInt

theorem hot_stops {s : State} {i : Input} (hhot : Overheated s i) (h : Counts s i) : Stops s i := by
  obtain ⟨_, htemp, hv, hn⟩ := hhot
  have hstop := sc.setChargingAmps_hot (t := table) (p := i.platform) htemp h hv hn
  rw [← charge_toState] at hstop
  exact hstop

theorem hot_current_iff {s : State} {i : Input} (hhot : Overheated s i) :
    (charge (polled s i) i).chargingAmps = 0 ↔ Counts s i ∨ TooSmallToShare s i := by
  obtain ⟨_, _, _, hn⟩ := id hhot
  by_cases h : Counts s i
  · exact iff_of_true (hot_stops hhot h).2 (Or.inl h)
  · have hzero := sc.setChargingAmps_zero_iff (t := table) (p := i.platform) hn
    rw [sc.totalAmps_negative h, toNat_truncate, ← charge_toState] at hzero
    rw [hzero]
    exact (or_iff_right h).symm

/-- In a run from power-up, with whatever a CPlus charger adds: no hot call leaves a current
exactly when at each of them the C-rate counts or is too small to share, and while it counts
they all leave no power either. -/
theorem the_hot_stop_holds_while_no_capacity_is_negative (CPlus : UInt32) (is : List Input) :
    let s := { setup with CPlus := CPlus }
    (Always loop (fun s i => Overheated s i → (charge (polled s i) i).chargingAmps = 0) s is ↔
      Always loop (fun s i => Overheated s i → Counts s i ∨ TooSmallToShare s i) s is) ∧
    (Always loop (fun s i => Overheated s i → Counts s i) s is →
      Always loop (fun s i => Overheated s i → Stops s i) s is) := by
  intro s
  have hstops : ∀ s i, (Overheated s i → Counts s i) → Overheated s i → Stops s i :=
    fun _ _ hc hhot => hot_stops hhot (hc hhot)
  have hcurrent : ∀ s i, (Overheated s i → (charge (polled s i) i).chargingAmps = 0) ↔
      (Overheated s i → Counts s i ∨ TooSmallToShare s i) :=
    fun _ _ => imp_congr_right hot_current_iff
  exact ⟨always_congr hcurrent s is, always_mono hstops⟩

/-- A monolith that reports -100 Ah beside a power tank of 1 Ah, both at 80 degrees. -/
def upToHot : List Input :=
  oneCharger [configFrame BMS_PACK_CONFIG 0xff9c, configFrame BMS1_PACK_CONFIG 1,
    voltageFrame BMS_CELL_VOLTAGE 100000, activeFrame BMS_PACK_ACTIVE_DATA 80 80 0,
    activeFrame BMS1_PACK_ACTIVE_DATA 80 80 20] :: List.replicate 8 (fromBike [])

/-- The C-rate of -99.0 A lifts every cap and comes back as 6454.6 A. -/
theorem a_negative_capacity_lifts_the_hot_stop :
    let s := run loop setup upToHot
    let i := fromBike []
    Overheated s i ∧ (atCharging (polled s i) i).C_RATE = -990 ∧
    (charge (polled s i) i).watts = 5000 ∧ (charge (polled s i) i).chargingAmps = 64546 ∧
    ¬ Stops s i := by
  unfold Overheated Stops
  decide +kernel

end super_charger.v3
