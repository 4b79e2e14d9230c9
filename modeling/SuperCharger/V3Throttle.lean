-- The over-current throttle of `v3`: what is left of it at the heartbeat that
-- it brings forward, after the recomputation of the current.
import SuperCharger.V3Frames

namespace super_charger.v3

open machine_int derating zero runs

/-! ## Packs and their capacities -/

inductive Pack where
  | monolith
  | powerTank
deriving DecidableEq

/-- The active-data frame of a pack. -/
def Pack.activeData : Pack → Int16
  | .monolith => BMS_PACK_ACTIVE_DATA
  | .powerTank => BMS1_PACK_ACTIVE_DATA

def State.AH (s : State) : Pack → Int32
  | .monolith => s.monolithAH
  | .powerTank => s.powerTankAH

structure Capacities where
  C_RATE : Int32
  monolithAH : Int32
  powerTankAH : Int32

def State.capacities (s : State) : Capacities where
  C_RATE := s.C_RATE
  monolithAH := s.monolithAH
  powerTankAH := s.powerTankAH

/-- The capacities fit a `short`, and the C-rate is theirs once one of them is known. -/
structure Capacities.Known (c : Capacities) : Prop where
  monolith : -2 ^ 15 ≤ c.monolithAH.toInt ∧ c.monolithAH.toInt < 2 ^ 15
  powerTank : -2 ^ 15 ≤ c.powerTankAH.toInt ∧ c.powerTankAH.toInt < 2 ^ 15
  c_rate : 0 < c.monolithAH.toInt ∨ 0 < c.powerTankAH.toInt →
    c.C_RATE.toInt = (c.monolithAH.toInt + c.powerTankAH.toInt) * 10

theorem throttlePack_capacities (s : State) (AH amps : Int32) :
    (throttlePack s AH amps).capacities = s.capacities := by
  obtain ⟨_, _, h⟩ := throttlePack_frame s AH amps
  rw [h]
  rfl

theorem onPowerTankVoltage_capacities (s : State) (f : Frame) :
    (onPowerTankVoltage s f).capacities = s.capacities := by
  obtain ⟨_, _, h⟩ := onPowerTankVoltage_frame s f
  rw [h]
  rfl

/-- A configuration frame sets one capacity and the C-rate together, and no other frame sets
any of them. -/
theorem receive_capacities (s : State) (f : Frame) :
    (blocks.receive s f).capacities = s.capacities ∨
    f.id = BMS_PACK_CONFIG ∧ (blocks.receive s f).capacities =
      ⟨(f.AH.toInt32 + s.powerTankAH) * 10, f.AH.toInt32, s.powerTankAH⟩ ∨
    f.id = BMS1_PACK_CONFIG ∧ (blocks.receive s f).capacities =
      ⟨(s.monolithAH + f.AH.toInt32) * 10, s.monolithAH, f.AH.toInt32⟩ := by
  rcases blocks.receive_cases s f with
    ⟨_, e⟩ | ⟨_, e⟩ | ⟨_, e⟩ | ⟨_, e⟩ | ⟨hid, e⟩ | ⟨hid, e⟩ | ⟨_, e⟩ | ⟨_, e⟩
  · rw [e]
    exact Or.inl rfl
  · rw [e]
    exact Or.inl (onPowerTankVoltage_capacities s f)
  · rw [e]
    exact Or.inl (throttlePack_capacities _ _ _)
  · rw [e]
    exact Or.inl (throttlePack_capacities _ _ _)
  · rw [e]
    exact Or.inr (Or.inl ⟨hid, rfl⟩)
  · rw [e]
    exact Or.inr (Or.inr ⟨hid, rfl⟩)
  · rw [e]
    exact Or.inl rfl
  · rw [e]
    exact Or.inl rfl

/-- A frame that brings no capacity. -/
def Quiet (f : Frame) : Prop := f.id ≠ BMS_PACK_CONFIG ∧ f.id ≠ BMS1_PACK_CONFIG

theorem bikeLoop_capacities_of_quiet {s : State} {frames : List Frame}
    (h : ∀ f ∈ frames, Quiet f) : (bikeLoop s frames).capacities = s.capacities := by
  refine run_invariant_of_forall (I := fun u : State => u.capacities = s.capacities) ?_ rfl h
  intro u f hf hu
  rcases receive_capacities u f with e | ⟨hid, _⟩ | ⟨hid, _⟩
  · exact e.trans hu
  · exact absurd hid hf.1
  · exact absurd hid hf.2

theorem fits_short (a : Int16) : -2 ^ 15 ≤ a.toInt32.toInt ∧ a.toInt32.toInt < 2 ^ 15 := by
  rw [Int16.toInt_toInt32]
  exact ⟨a.le_toInt, a.toInt_lt⟩

theorem known_of_config {m q : Int32} (hm : -2 ^ 15 ≤ m.toInt ∧ m.toInt < 2 ^ 15)
    (hq : -2 ^ 15 ≤ q.toInt ∧ q.toInt < 2 ^ 15) : Capacities.Known ⟨(m + q) * 10, m, q⟩ :=
  ⟨hm, hq, fun _ => c_rate_toInt hm.1 hm.2 hq.1 hq.2⟩

theorem bikeLoop_known {s : State} (h : s.capacities.Known) (frames : List Frame) :
    (bikeLoop s frames).capacities.Known := by
  refine Blocks.drain_invariant (P := fun u : State => u.capacities.Known) ?_ h frames
  intro u f hu
  rcases receive_capacities u f with e | ⟨_, e⟩ | ⟨_, e⟩
  · rw [e]
    exact hu
  · rw [e]
    exact known_of_config (fits_short f.AH) hu.powerTank
  · rw [e]
    exact known_of_config hu.monolith (fits_short f.AH)

theorem capacities_of_bike {s u : State} (h : s.bike = u.bike) : s.capacities = u.capacities := by
  have h1 := congrArg Bike.C_RATE h
  have h2 := congrArg Bike.monolithAH h
  have h3 := congrArg Bike.powerTankAH h
  unfold State.capacities
  exact Capacities.mk.injEq _ _ _ _ _ _ ▸ ⟨h1, h2, h3⟩

theorem written_capacities (s : State) (writes : List Write) :
    (written s writes).capacities = s.capacities := capacities_of_bike (written_bike s writes)

theorem loop_capacities (s : State) (i : Input) :
    (loop s i).capacities = (bikeLoop (written s i.central) i.bike).capacities :=
  capacities_of_bike (loop_bike s i)

/-- In every reachable state the capacities are known. -/
theorem run_known (is : List Input) : (run loop setup is).capacities.Known := by
  refine run_invariant (I := fun s : State => s.capacities.Known) ?_ ?_ is
  · intro s i h
    rw [loop_capacities]
    apply bikeLoop_known
    rw [written_capacities]
    exact h
  · exact ⟨by decide, by decide, by decide⟩

/-! ## The over-current branch -/

/-- A frame that meets the guard of the branch of a pack. -/
structure OverCurrent (s : State) (k : Pack) (f : Frame) : Prop where
  id : f.id = k.activeData
  AH : s.AH k > 0
  amps : f.absAmps > s.AH k
  CPlus : s.CPlus < 1
  timer : s.delayItteration > 10

instance (s : State) (k : Pack) (f : Frame) : Decidable (OverCurrent s k f) :=
  decidable_of_iff (f.id = k.activeData ∧ s.AH k > 0 ∧ f.absAmps > s.AH k ∧ s.CPlus < 1 ∧
      s.delayItteration > 10)
    ⟨fun ⟨h1, h2, h3, h4, h5⟩ => ⟨h1, h2, h3, h4, h5⟩, fun h => ⟨h.1, h.2, h.3, h.4, h.5⟩⟩

theorem throttlePack_of_guard {s : State} {AH amps : Int32}
    (h : AH > 0 ∧ amps > AH ∧ s.CPlus < 1 ∧ s.delayItteration > 10) :
    (throttlePack s AH amps).chargingAmps = truncate ((AH - 2) * 10) ∧
      (throttlePack s AH amps).delayItteration = 10 := by
  unfold throttlePack
  rw [if_pos h]
  exact ⟨rfl, rfl⟩

/-- The amps of a pack go through the branch, with the timer and the CPlus charger as they are. -/
theorem monolithAmps_throttles (s : State) (f : Frame) :
    ∃ u, blocks.monolithAmps s f = throttlePack u s.monolithAH f.absAmps ∧
      u.delayItteration = s.delayItteration ∧ u.CPlus = s.CPlus := ⟨_, rfl, rfl, rfl⟩

theorem powerTankAmps_throttles (s : State) (f : Frame) :
    ∃ u, blocks.powerTankAmps s f = throttlePack u s.powerTankAH f.absAmps ∧
      u.delayItteration = s.delayItteration ∧ u.CPlus = s.CPlus := ⟨_, rfl, rfl, rfl⟩

/-- The branch commands the reduced current and sets the timer to 10. -/
theorem receive_of_over_current {s : State} {k : Pack} {f : Frame} (h : OverCurrent s k f) :
    (blocks.receive s f).chargingAmps = truncate ((s.AH k - 2) * 10) ∧
      (blocks.receive s f).delayItteration = 10 := by
  obtain ⟨hid, hAH, hamps, hC, htimer⟩ := h
  cases k with
  | monolith =>
    obtain ⟨u, hblock, hsame, hCPlus⟩ := monolithAmps_throttles s f
    rw [← hsame] at htimer
    rw [← hCPlus] at hC
    rw [blocks.receive_monolithActive s hid, hblock]
    exact throttlePack_of_guard ⟨hAH, hamps, hC, htimer⟩
  | powerTank =>
    obtain ⟨u, hblock, hsame, hCPlus⟩ := powerTankAmps_throttles s f
    rw [← hsame] at htimer
    rw [← hCPlus] at hC
    rw [blocks.receive_powerTankActive s hid, hblock]
    exact throttlePack_of_guard ⟨hAH, hamps, hC, htimer⟩

theorem throttlePack_timer {s : State} (h : ¬ s.delayItteration > 10) (AH amps : Int32) :
    (throttlePack s AH amps).delayItteration = s.delayItteration := by
  unfold throttlePack
  rw [if_neg (fun hg => h hg.2.2.2)]

theorem onPowerTankVoltage_timer (s : State) (f : Frame) :
    (onPowerTankVoltage s f).delayItteration = s.delayItteration := by
  obtain ⟨_, _, h⟩ := onPowerTankVoltage_frame s f
  rw [h]

/-- At 10 or below, no frame changes the timer. -/
theorem receive_timer {s : State} (h : ¬ s.delayItteration > 10) (f : Frame) :
    (blocks.receive s f).delayItteration = s.delayItteration := by
  rcases blocks.receive_cases s f with
    ⟨_, e⟩ | ⟨_, e⟩ | ⟨_, e⟩ | ⟨_, e⟩ | ⟨_, e⟩ | ⟨_, e⟩ | ⟨_, e⟩ | ⟨_, e⟩
  · rw [e]
    rfl
  · rw [e]
    exact onPowerTankVoltage_timer s f
  · obtain ⟨u, hblock, hsame, _⟩ := monolithAmps_throttles s f
    rw [← hsame] at h ⊢
    rw [e, hblock]
    exact throttlePack_timer h _ _
  · obtain ⟨u, hblock, hsame, _⟩ := powerTankAmps_throttles s f
    rw [← hsame] at h ⊢
    rw [e, hblock]
    exact throttlePack_timer h _ _
  · rw [e]
    rfl
  · rw [e]
    rfl
  · rw [e]
    rfl
  · rw [e]

/-- After the branch the timer stands at 10 until the bus is drained. -/
theorem bikeLoop_timer {s : State} (h : s.delayItteration = 10) (frames : List Frame) :
    (bikeLoop s frames).delayItteration = 10 := by
  refine Blocks.drain_invariant (P := fun u : State => u.delayItteration = 10) ?_ h frames
  intro u f hu
  rw [receive_timer (by rw [hu]; decide), hu]

/-! ## Up to the next heartbeat -/

/-- A call with no writes of the central and no capacities on the bike bus. -/
structure QuietInput (i : Input) : Prop where
  central : i.central = []
  poll : i.poll = []
  bike : ∀ f ∈ i.bike, Quiet f

theorem polled_chargerCount {s : State} {i : Input} (h : i.central = []) :
    (polled s i).chargerCount = s.chargerCount := by
  have hkept := congrArg Kept.chargerCount (polled_kept s i)
  rw [h] at hkept
  exact hkept

/-- A quiet call keeps the capacities and the number of chargers. -/
theorem loop_of_quiet {s : State} {i : Input} (h : QuietInput i) :
    (loop s i).capacities = s.capacities ∧ (loop s i).chargerCount = s.chargerCount := by
  have hpolled := polled_chargerCount (s := s) h.central
  refine ⟨?_, ?_⟩
  · rw [loop_capacities, bikeLoop_capacities_of_quiet h.bike, h.central]
    rfl
  · unfold loop
    split
    · obtain ⟨_, _, _, hcharge⟩ := charge_frame (polled s i) i
      unfold heartbeat
      rw [h.poll, hcharge]
      exact hpolled
    · exact hpolled

theorem run_of_quiet {s : State} {is : List Input} (h : ∀ i ∈ is, QuietInput i) :
    (run loop s is).capacities = s.capacities ∧
      (run loop s is).chargerCount = s.chargerCount := by
  refine run_invariant_of_forall
    (I := fun u : State => u.capacities = s.capacities ∧ u.chargerCount = s.chargerCount)
    ?_ ⟨rfl, rfl⟩ h
  rintro u i hi ⟨hcap, hcount⟩
  obtain ⟨h1, h2⟩ := loop_of_quiet (s := u) hi
  exact ⟨h1.trans hcap, h2.trans hcount⟩

/-- After the branch the call does not reach the heartbeat, and ends with the capacities and
the chargers that the branch saw. -/
theorem loop_of_over_current {s : State} {i : Input} {before after : List Frame} {f : Frame}
    {k : Pack} (hbike : i.bike = before ++ f :: after)
    (hover : OverCurrent (bikeLoop (written s i.central) before) k f)
    (hafter : ∀ g ∈ after, Quiet g) :
    (loop s i).capacities = (bikeLoop (written s i.central) before).capacities ∧
      (loop s i).chargerCount = (bikeLoop (written s i.central) before).chargerCount := by
  have hquiet : ∀ g ∈ f :: after, Quiet g := by
    intro g hg
    rcases List.mem_cons.mp hg with rfl | hg
    · have hid := hover.id
      cases k with
      | monolith => exact ⟨by rw [hid]; decide, by rw [hid]; decide⟩
      | powerTank => exact ⟨by rw [hid]; decide, by rw [hid]; decide⟩
    · exact hafter g hg
  have hsplit : bikeLoop (written s i.central) i.bike =
      bikeLoop (bikeLoop (written s i.central) before) (f :: after) := by
    rw [hbike]
    exact List.foldl_append
  have htimer : (bikeLoop (written s i.central) i.bike).delayItteration = 10 := by
    rw [hsplit]
    exact bikeLoop_timer (receive_of_over_current hover).2 after
  have hdue : ¬ Due s i := by
    unfold Due polled
    rw [countDown_timer, htimer]
    decide
  refine ⟨?_, ?_⟩
  · rw [loop_capacities, hsplit]
    exact bikeLoop_capacities_of_quiet hquiet
  · unfold loop
    rw [if_neg hdue]
    unfold polled
    have hkept : (countDown (bikeLoop (written s i.central) i.bike)).kept =
        (bikeLoop (written s i.central) before).kept := by
      rw [countDown_kept, hsplit, bikeLoop_kept]
    exact congrArg Kept.chargerCount hkept

/-- Two tenths of the capacity of both packs, in whole shares, are within the reduced current
of the pack. -/
def TwoTenthsFit (s : State) (k : Pack) : Prop :=
  0 ≤ s.monolithAH.toInt + s.powerTankAH.toInt ∧
    roundDown s.chargerCount.toInt (2 * (s.monolithAH.toInt + s.powerTankAH.toInt)) ≤
      ((s.AH k).toInt - 2) * 10

/-- At any voltage but 0 a call asks for two tenths of the capacity at most: the last row of the
voltage table caps the power whatever the voltage is. -/
theorem setChargingAmps_commanded_le (p : Platform) {u : sc.State} {capacity : Int}
    (hC : u.C_RATE.toInt = capacity * 10) (h0 : 0 ≤ capacity) (h : capacity < 2 ^ 16)
    (hn : 1 ≤ u.chargerCount.toInt) (hv : u.volts.toInt ≠ 0) :
    (sc.setChargingAmps table p u).commanded ≤ roundDown u.chargerCount.toInt (2 * capacity) := by
  have hlast : derating.read table.OUTPUT_C_RATE_CUTBACK p.pastVoltsRate 9 = 2 := rfl
  have htwo : ((2 : UInt32).toNat : Int) = 2 := rfl
  have hmax : table.OUTPUT_VOLTS_MAX.toInt = 1164 := by decide
  have hdiv : 2 * (capacity * 10) / 10 = 2 * capacity := by omega
  have hrow := sc.totalAmps_le_row (t := table) (p := p) (s := u) (i := 9) (by decide) hlast
    (by omega) (by rw [htwo, hC]; omega) hv (by
      intro hle
      have hmul := Int.mul_le_mul_of_nonneg_left hle (show 0 ≤ 2 * capacity by omega)
      rw [hmax] at hmul
      rw [htwo, hC, hdiv]
      omega)
  rw [htwo, hC, hdiv] at hrow
  rw [sc.setChargingAmps_commanded table p u hn]
  exact roundDown_mono hn hrow

/-- With no write of the central after it, a heartbeat asks for what the call computed. -/
theorem heartbeat_commanded {s : State} {i : Input} (hpoll : i.poll = []) :
    (heartbeat s i).commanded =
      (sc.setChargingAmps table i.platform (atCharging s i).toState).commanded := by
  have hbeat : (heartbeat s i).toState = sc.superCharge (charge s i).toState := by
    unfold heartbeat
    rw [hpoll]
    rfl
  have hcharge : (charge s i).toState =
      sc.setChargingAmps table i.platform (atCharging s i).toState := by
    unfold charge atCharging sc.superChargerLoop
    rfl
  rw [hbeat, sc.superCharge_commanded, hcharge]

/-- The throttle at the next heartbeat, and at every later one: `f` meets the guard of the
branch of a pack, after the frames `before` of its call and before the frames `after`, and
`j` is a call that reaches the heartbeat, with only quiet calls in between. The current is
recomputed, and stays within the reduced current of the pack while the voltage is not 0 and
two tenths of the capacity of both packs do. -/
theorem the_throttle_lasts_while_two_tenths_of_the_capacity_fit (is js : List Input)
    (i j : Input) (before after : List Frame) (f : Frame) (k : Pack)
    (hbike : i.bike = before ++ f :: after) :
    let s := bikeLoop (written (run loop setup is) i.central) before
    let u := run loop (loop (run loop setup is) i) js
    OverCurrent s k f → 1 ≤ s.chargerCount.toInt → (∀ g ∈ after, Quiet g) →
      (∀ q ∈ js, QuietInput q) → QuietInput j → Due u j →
      (atCharging (polled u j) j).volts.toInt ≠ 0 → TwoTenthsFit s k →
      (loop u j).commanded ≤ ((s.AH k).toInt - 2) * 10 := by
  intro s u hover hn hafter hjs hj hdue hv hfit
  have hknown : s.capacities.Known := by
    apply bikeLoop_known
    rw [written_capacities]
    exact run_known is
  obtain ⟨hcap0, hcount0⟩ := loop_of_over_current hbike hover hafter
  obtain ⟨hcap1, hcount1⟩ := run_of_quiet (s := loop (run loop setup is) i) hjs
  have hcap : (polled u j).capacities = s.capacities := by
    have hpolled : (polled u j).capacities = u.capacities := by
      have hbike : (polled u j).bike = (bikeLoop (written u j.central) j.bike).bike :=
        countDown_bike _
      rw [capacities_of_bike hbike, bikeLoop_capacities_of_quiet hj.bike, written_capacities]
    rw [hpolled, hcap1, hcap0]
  have hcount : (polled u j).chargerCount = s.chargerCount := by
    rw [polled_chargerCount hj.central, hcount1, hcount0]
  have hAH : 0 < s.monolithAH.toInt ∨ 0 < s.powerTankAH.toInt := by
    have hpos := Int32.lt_iff_toInt_lt.mp hover.AH
    cases k with
    | monolith => exact Or.inl hpos
    | powerTank => exact Or.inr hpos
  have hC : (atCharging (polled u j) j).C_RATE.toInt =
      (s.monolithAH.toInt + s.powerTankAH.toInt) * 10 := by
    have hsame : (polled u j).C_RATE = s.C_RATE := congrArg Capacities.C_RATE hcap
    rw [atCharging_C_RATE, hsame]
    exact hknown.c_rate hAH
  have hn' : (atCharging (polled u j) j).chargerCount = s.chargerCount := by
    rw [atCharging_chargerCount, hcount]
  have hm : s.monolithAH.toInt < 2 ^ 15 := hknown.monolith.2
  have hq : s.powerTankAH.toInt < 2 ^ 15 := hknown.powerTank.2
  have hle := setChargingAmps_commanded_le j.platform hC hfit.1 (by omega)
    (by rw [hn']; exact hn) hv
  have hbeat : loop u j = heartbeat (polled u j) j := if_pos hdue
  rw [hbeat, heartbeat_commanded hj.poll]
  rw [hn'] at hle
  exact le_trans hle hfit.2

/-- The central sets one charger, and the bike reports a monolith and a power tank of these
capacities at 100.0 V and 20 degrees. -/
def twoPacks (monolithAH powerTankAH : UInt16) : Input where
  central := [.chargerCountBLE 1, .chargerMaxWatts 660000]
  bike := [configFrame BMS_PACK_CONFIG monolithAH, configFrame BMS1_PACK_CONFIG powerTankAH,
    voltageFrame BMS_CELL_VOLTAGE 100000, activeFrame BMS_PACK_ACTIVE_DATA 20 20 0]
  charger := []
  poll := []
  platform := zeroPlatform

/-- A monolith of 4 Ah beside a power tank of 96 Ah, after four heartbeats. The monolith takes
20 A and is throttled to 2.0 A, and the next heartbeat asks for 2.5 A. -/
theorem a_throttle_is_lost_to_the_recomputation :
    let f := activeFrame BMS_PACK_ACTIVE_DATA 20 20 20
    let s := run loop setup (twoPacks 4 96 ::
      (List.replicate 4 (upToHeartbeat [f] ++ [fromBike []])).flatten)
    let u := run loop s (upToHeartbeat [f])
    OverCurrent s .monolith f ∧ s.chargerCount.toInt = 1 ∧ s.volts.toInt = 1000 ∧
      Due u (fromBike []) ∧ (loop u (fromBike [])).commanded = 25 ∧
      ((s.AH .monolith).toInt - 2) * 10 = 20 := by
  decide +kernel

/-- One pack of 100 Ah that takes 120 A: two tenths of it are 20.0 A, and the throttle 98.0 A. -/
theorem a_throttle_of_one_large_pack_lasts :
    (loop (run loop (loop (run loop setup [twoPacks 100 0])
        (fromBike [activeFrame BMS_PACK_ACTIVE_DATA 20 20 120])) (List.replicate 8 (fromBike [])))
      (fromBike [])).commanded ≤ (100 - 2) * 10 := by
  have hidle : QuietInput (fromBike []) := ⟨rfl, rfl, fun f hf => absurd hf List.not_mem_nil⟩
  refine the_throttle_lasts_while_two_tenths_of_the_capacity_fit [twoPacks 100 0]
    (List.replicate 8 (fromBike [])) (fromBike [activeFrame BMS_PACK_ACTIVE_DATA 20 20 120])
    (fromBike []) [] [] (activeFrame BMS_PACK_ACTIVE_DATA 20 20 120) .monolith rfl
    ?_ ?_ ?_ ?_ hidle ?_ ?_ ?_
  · decide +kernel
  · decide +kernel
  · exact fun f hf => absurd hf List.not_mem_nil
  · intro q hq
    rw [List.eq_of_mem_replicate hq]
    exact hidle
  · decide +kernel
  · decide +kernel
  · exact ⟨by decide +kernel, by decide +kernel⟩

end super_charger.v3
