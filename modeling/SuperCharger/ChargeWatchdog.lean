-- The two stale counters of `Zero_charge_monitoring` as watchdogs: a bus that is silent
-- for too long stops the charge, and the voltage of the battery may still be an old one.
import SuperCharger.ChargeWindow
import SuperCharger.Watchdog

namespace super_charger.charge_monitor

open machine_int charger_message zero runs watchdog

/-! ## A voltage and the age of its bus -/

/-- A voltage, and the calls since its bus was last heard. -/
structure Watch where
  volts : Int32
  staleCount : Int32

/-- A frame of the bike, of whatever kind, starts the count again. -/
def Watch.onBike (w : Watch) (f : Frame) : Watch where
  volts := if hasMonolithVoltage f.id then f.voltage else w.volts
  staleCount := 0

def Watch.onCharger (_ : Watch) (buf : Message) : Watch where
  volts := reading buf
  staleCount := 0

/-- The end of a call: past the threshold the voltage is dropped. -/
def Watch.age (w : Watch) (threshold : Int32) : Watch where
  volts := if w.staleCount + 1 > threshold then 0 else w.volts
  staleCount := w.staleCount + 1

/-- No charge command is sent with this voltage. -/
def Watch.off (w : Watch) : Prop := w.volts ≤ MIN_VOLTS

/-- The two buses. -/
structure Watched where
  bike : Watch
  charger : Watch

def State.watched (s : State) : Watched where
  bike := ⟨s.bikeVoltage, s.bikeStaleCount⟩
  charger := ⟨s.chargerVoltageHolder, s.scStaleCount⟩

/-! ## What a call does to them -/

theorem setVoltageDiff_watched (s : State) : (setVoltageDiff s).watched = s.watched := by
  unfold setVoltageDiff
  split <;> rfl

theorem sendChargeCommand_watched (p : Platform) (s : State) :
    (sendChargeCommand p s).watched = s.watched := by
  unfold sendChargeCommand
  split <;> rfl

theorem checkWindow_watched (p : Platform) (s : State) :
    (checkWindow p s).watched = s.watched := by
  unfold checkWindow endWindow
  simp only
  split
  · split
    · exact sendChargeCommand_watched p (await s)
    · rfl
  · rfl

theorem readCommand_watched (s : State) (serial : List Char) :
    (readCommand s serial).1.watched = s.watched := by
  unfold readCommand
  simp only
  split <;> split <;> rfl

theorem readCommands_watched (turns : Nat) (s : State) (serial : List Char) :
    (readCommands turns s serial).watched = s.watched :=
  readCommands_keep readCommand_watched turns s serial

theorem onCharger_watched (p : Platform) (s : State) (buf : Message) :
    (onCharger p s buf).watched =
      { s.watched with charger := s.watched.charger.onCharger buf } := by
  unfold onCharger
  rw [setVoltageDiff_watched]
  rfl

theorem onBike_watched (s : State) (f : Frame) :
    (onBike s f).watched = { s.watched with bike := s.watched.bike.onBike f } := by
  unfold onBike Watch.onBike
  simp only
  rw [ite_same State.watched, ite_same State.watched]
  · split
    · exact setVoltageDiff_watched _
    · rfl
  · rfl
  · rfl

theorem checkStale_watched (s : State) :
    (checkStale s).watched =
      ⟨s.watched.bike.age BIKE_STALE_THRESHOLD, s.watched.charger.age SC_STALE_THRESHOLD⟩ := by
  unfold checkStale checkMessages checkBike checkCharger resetCharging countStale Watch.age
  unfold State.watched
  simp only
  split <;> split <;> split <;> rfl

theorem receive_watched (s : State) (i : Input) :
    (receive s i).watched =
      ⟨i.bike.elim s.watched.bike s.watched.bike.onBike,
        i.charger.elim s.watched.charger s.watched.charger.onCharger⟩ := by
  unfold receive
  cases i.charger with
  | none =>
    cases i.bike with
    | none => rfl
    | some f => exact onBike_watched s f
  | some buf =>
    have hcharger := onCharger_watched i.platform s buf
    cases i.bike with
    | none => exact hcharger
    | some f =>
      have hbike := onBike_watched (onCharger i.platform s buf) f
      rw [hcharger] at hbike
      exact hbike

/-- A call does this to the two voltages and their ages, whatever its commands are. -/
theorem loop_watched (s : State) (i : Input) :
    (loop s i).watched =
      ⟨(i.bike.elim s.watched.bike s.watched.bike.onBike).age BIKE_STALE_THRESHOLD,
        (i.charger.elim s.watched.charger s.watched.charger.onCharger).age SC_STALE_THRESHOLD⟩ := by
  have hread := readCommands_watched i.serial.length (checkWindow i.platform s) i.serial
  rw [checkWindow_watched] at hread
  unfold loop
  simp only
  rw [checkStale_watched, receive_watched, hread]

/-! ## The two watchdogs -/

/-- A count within the threshold goes up by one, or the voltage is dropped. -/
theorem age_counts {threshold : Int32} {limit k : Nat} (ht : threshold.toInt = limit)
    (htop : limit < 2 ^ 31 - 1) {w : Watch}
    (h : w.off ∨ k ≤ w.staleCount.toInt ∧ w.staleCount.toInt ≤ limit) :
    (w.age threshold).off ∨ ((k + 1 : Nat) : Int) ≤ (w.age threshold).staleCount.toInt ∧
      (w.age threshold).staleCount.toInt ≤ limit := by
  have hzero : (0 : Int32) ≤ MIN_VOLTS := by decide
  unfold Watch.off Watch.age at *
  simp only at *
  by_cases hstale : w.staleCount + 1 > threshold
  · rw [if_pos hstale]
    exact Or.inl hzero
  · rw [if_neg hstale]
    rcases h with hoff | ⟨hlow, hhigh⟩
    · exact Or.inl hoff
    · have hsucc := toInt32_succ (x := w.staleCount) (by omega)
      rw [gt_iff_lt, Int32.lt_iff_toInt_lt] at hstale
      exact Or.inr ⟨by omega, by omega⟩

/-- A bus that has just been heard is watched from the start. -/
theorem age_starts {threshold : Int32} {limit : Nat} (ht : threshold.toInt = limit)
    (htop : limit < 2 ^ 31 - 1) {w : Watch} (h : w.staleCount = 0) :
    (w.age threshold).off ∨ ((0 : Nat) : Int) ≤ (w.age threshold).staleCount.toInt ∧
      (w.age threshold).staleCount.toInt ≤ limit := by
  have hzero : w.staleCount.toInt = 0 := by
    rw [h]
    rfl
  have hone := age_counts (k := 0) ht htop (w := w) (Or.inr ⟨by omega, by omega⟩)
  exact hone.imp_right (fun hcount => ⟨by omega, hcount.2⟩)

def bikeOff (s : State) : Prop := s.watched.bike.off

def chargerOff (s : State) : Prop := s.watched.charger.off

def bikeStale (s : State) : Int := s.watched.bike.staleCount.toInt

def chargerStale (s : State) : Int := s.watched.charger.staleCount.toInt

theorem loop_bike (s : State) (i : Input) :
    (loop s i).watched.bike =
      (i.bike.elim s.watched.bike s.watched.bike.onBike).age BIKE_STALE_THRESHOLD := by
  rw [loop_watched]

theorem loop_charger (s : State) (i : Input) :
    (loop s i).watched.charger =
      (i.charger.elim s.watched.charger s.watched.charger.onCharger).age SC_STALE_THRESHOLD := by
  rw [loop_watched]

theorem bike_watches : Watches loop (fun i => i.bike = none) bikeOff bikeStale 1000 where
  counts s i k hi h := by
    unfold Counting bikeOff bikeStale
    rw [loop_bike, hi]
    exact age_counts rfl (by decide) h
  starts s i hi := by
    obtain ⟨f, hf⟩ := Option.ne_none_iff_exists'.mp hi
    unfold Counting bikeOff bikeStale
    rw [loop_bike, hf]
    exact age_starts rfl (by decide) rfl

theorem charger_watches :
    Watches loop (fun i => i.charger = none) chargerOff chargerStale 30000 where
  counts s i k hi h := by
    unfold Counting chargerOff chargerStale
    rw [loop_charger, hi]
    exact age_counts rfl (by decide) h
  starts s i hi := by
    obtain ⟨buf, hbuf⟩ := Option.ne_none_iff_exists'.mp hi
    unfold Counting chargerOff chargerStale
    rw [loop_charger, hbuf]
    exact age_starts rfl (by decide) rfl

/-- A voltage that the end of a call leaves on is the one before it. -/
theorem age_off {threshold : Int32} {w : Watch} (h : w.off) : (w.age threshold).off := by
  have hzero : (0 : Int32) ≤ MIN_VOLTS := by decide
  unfold Watch.off Watch.age at *
  simp only
  split
  · exact hzero
  · exact h

/-- A frame of the bike that switches its voltage on. -/
def Input.BikeWakes (i : Input) : Prop :=
  ∃ f, i.bike = some f ∧ hasMonolithVoltage f.id = true ∧ f.voltage > MIN_VOLTS

/-- A message of the chargers that switches their voltage on. -/
def Input.ChargerWakes (i : Input) : Prop :=
  ∃ buf, i.charger = some buf ∧ reading buf > MIN_VOLTS

theorem bike_off_of_not_wakes (s : State) (i : Input) (hi : ¬ i.BikeWakes) (h : bikeOff s) :
    bikeOff (loop s i) := by
  unfold bikeOff at *
  rw [loop_bike]
  apply age_off
  cases hb : i.bike with
  | none => exact h
  | some f =>
    unfold Option.elim Watch.off Watch.onBike
    simp only
    split
    · rename_i hvolts
      exact Int32.not_lt.mp (fun habove => hi ⟨f, hb, hvolts, habove⟩)
    · exact h

theorem charger_off_of_not_wakes (s : State) (i : Input) (hi : ¬ i.ChargerWakes)
    (h : chargerOff s) : chargerOff (loop s i) := by
  unfold chargerOff at *
  rw [loop_charger]
  apply age_off
  cases hc : i.charger with
  | none => exact h
  | some buf => exact Int32.not_lt.mp (fun habove => hi ⟨buf, hc, habove⟩)

theorem setup_counting (EEPROM : Settings) :
    Counting bikeOff bikeStale 1000 0 (setup EEPROM) ∧
      Counting chargerOff chargerStale 30000 0 (setup EEPROM) := by
  have hzero : (0 : Int32) ≤ MIN_VOLTS := by decide
  exact ⟨Or.inl hzero, Or.inl hzero⟩

/-- A command needs both voltages on. -/
theorem on_of_sends {s : State} (h : Sends s) : ¬ bikeOff s ∧ ¬ chargerOff s := by
  have hready := h.2.1
  unfold isReadyToCharge at hready
  obtain ⟨hbike, hcharger, _⟩ := of_decide_eq_true hready
  exact ⟨Int32.not_le.mpr hbike, Int32.not_le.mpr hcharger⟩

/-! ## A silent bus -/

/-- After more silent calls of a bus than its threshold, a command is sent only once a voltage
above the minimum has come on that bus after the silence. -/
theorem a_silent_bus_stops_the_charge (EEPROM : Settings) (before gap after : List Input)
    (i : Input)
    (hsent : (loop (run loop (setup EEPROM) (before ++ gap ++ after)) i).sent.isSome = true) :
    (BIKE_STALE_THRESHOLD.toInt < gap.length → (∀ j ∈ gap, j.bike = none) →
        ∃ j ∈ after, j.BikeWakes) ∧
      (SC_STALE_THRESHOLD.toInt < gap.length → (∀ j ∈ gap, j.charger = none) →
        ∃ j ∈ after, j.ChargerWakes) := by
  obtain ⟨hbike, hcharger⟩ := on_of_sends ((sends_iff _ i).mp hsent)
  obtain ⟨hbike0, hcharger0⟩ := setup_counting EEPROM
  constructor
  · intro hlong hgap
    have hthreshold : BIKE_STALE_THRESHOLD.toInt = 1000 := rfl
    exact bike_watches.woken bike_off_of_not_wakes hbike0 hgap (by omega) hbike
  · intro hlong hgap
    have hthreshold : SC_STALE_THRESHOLD.toInt = 30000 := rfl
    exact charger_watches.woken charger_off_of_not_wakes hcharger0 hgap (by omega) hcharger

/-- 21999 calls of silence, and both buses at 110.0 V in the last call of the window. -/
theorem a_charge_after_silence_was_woken :
    ∃ j ∈ [finds (some chargerHeard) (some monolithHeard)], j.BikeWakes := by
  have hsent := (sends_iff _ (finds none none)).mpr sends_together
  apply (a_silent_bus_stops_the_charge ⟨1500, 116400⟩ [] (silence 21999)
    [finds (some chargerHeard) (some monolithHeard)] (finds none none) hsent).1
  · rw [length_silence]
    decide
  · intro j hj
    rw [List.eq_of_mem_replicate hj]
    rfl

/-! ## An old voltage -/

/-- The last frame with the voltage of the monolith, this one: then these calls. -/
def LastVoltage (is : List Input) (mV : Int32) (after : List Input) : Prop :=
  ∃ before j f, is = before ++ j :: after ∧ j.bike = some f ∧ hasMonolithVoltage f.id = true ∧
    f.voltage = mV ∧ ∀ k ∈ after, ∀ g, k.bike = some g → hasMonolithVoltage g.id = false

theorem lastVoltage_snoc {is after : List Input} {mV : Int32} (h : LastVoltage is mV after)
    {i : Input} (hi : ∀ g, i.bike = some g → hasMonolithVoltage g.id = false) :
    LastVoltage (is ++ [i]) mV (after ++ [i]) := by
  obtain ⟨before, j, f, rfl, hj, hid, hmV, hafter⟩ := h
  refine ⟨before, j, f, by simp, hj, hid, hmV, ?_⟩
  intro k hk g hg
  rcases List.mem_append.mp hk with hold | hnew
  · exact hafter k hold g hg
  · rw [List.mem_singleton.mp hnew] at hg
    exact hi g hg

/-- The voltage of the battery is that of the last frame with it, or it has been dropped. -/
theorem bikeVoltage_of_run (EEPROM : Settings) (is : List Input) :
    (run loop (setup EEPROM) is).watched.bike.volts = 0 ∨
      ∃ after, LastVoltage is (run loop (setup EEPROM) is).watched.bike.volts after := by
  induction is using List.reverseRecOn with
  | nil => exact Or.inl rfl
  | append_singleton is i ih =>
    rw [run_snoc, loop_bike]
    generalize run loop (setup EEPROM) is = s at *
    unfold Watch.age
    simp only
    split
    · exact Or.inl rfl
    · cases hb : i.bike with
      | none =>
        refine ih.imp_right (fun ⟨after, h⟩ => ⟨after ++ [i], lastVoltage_snoc h ?_⟩)
        intro g hg
        rw [hb] at hg
        cases hg
      | some f =>
        unfold Option.elim Watch.onBike
        simp only
        split
        · rename_i hid
          refine Or.inr ⟨[], is, i, f, rfl, hb, hid, rfl, ?_⟩
          intro k hk
          cases hk
        · rename_i hid
          refine ih.imp_right (fun ⟨after, h⟩ => ⟨after ++ [i], lastVoltage_snoc h ?_⟩)
          intro g hg
          rw [hb] at hg
          cases hg
          exact Bool.eq_false_iff.mpr hid

/-- A charge command uses the last voltage of the battery that was received, and since then the
bus of the bike has not been silent for more calls in a row than its threshold. -/
theorem a_charge_command_uses_the_last_voltage_of_a_bus_that_is_heard (EEPROM : Settings)
    (is : List Input) (i : Input)
    (hsent : (loop (run loop (setup EEPROM) is) i).sent.isSome = true) :
    ∃ after, LastVoltage is (run loop (setup EEPROM) is).bikeVoltage after ∧
      ∀ gap, gap <:+: after → (∀ k ∈ gap, k.bike = none) →
        gap.length ≤ BIKE_STALE_THRESHOLD.toInt := by
  obtain ⟨hbike, _⟩ := on_of_sends ((sends_iff _ i).mp hsent)
  obtain ⟨hcounting, _⟩ := setup_counting EEPROM
  rcases bikeVoltage_of_run EEPROM is with hzero | ⟨after, hlast⟩
  · exfalso
    apply hbike
    unfold bikeOff Watch.off
    rw [hzero]
    decide
  · refine ⟨after, hlast, ?_⟩
    intro gap hgap hsilent
    have hthreshold : BIKE_STALE_THRESHOLD.toInt = 1000 := rfl
    by_contra hlong
    obtain ⟨before, j, f, rfl, hj, hid, hmV, hafter⟩ := hlast
    obtain ⟨earlier, later, rfl⟩ := hgap
    have hsplit : before ++ j :: (earlier ++ gap ++ later) =
        (before ++ j :: earlier) ++ gap ++ later := by simp
    rw [hsplit] at hbike
    obtain ⟨k, hk, g, hg, hvolts, _⟩ :=
      bike_watches.woken bike_off_of_not_wakes hcounting hsilent (by omega) hbike
    rw [hafter k (by simp [hk]) g hg] at hvolts
    cases hvolts

theorem a_charge_command_after_one_voltage_uses_it :
    ∃ after, LastVoltage (together 21999)
        (run loop (setup ⟨1500, 116400⟩) (together 21999)).bikeVoltage after ∧
      ∀ gap, gap <:+: after → (∀ k ∈ gap, k.bike = none) →
        gap.length ≤ BIKE_STALE_THRESHOLD.toInt :=
  a_charge_command_uses_the_last_voltage_of_a_bus_that_is_heard _ _ (finds none none)
    ((sends_iff _ _).mpr sends_together)

/-- The voltage came from a frame in the last `BIKE_STALE_THRESHOLD + 1` calls. -/
def FreshVoltage (is : List Input) (mV : Int32) : Prop :=
  ∃ j ∈ is.drop (is.length - (BIKE_STALE_THRESHOLD.toNatClampNeg + 1)), ∃ f,
    j.bike = some f ∧ hasMonolithVoltage f.id = true ∧ f.voltage = mV

/-- The throttle closed. -/
def throttleHeard : Frame := voltageFrame CONTROLLER_RPM_THROTTLE_MOT_TEMP 0

def throttles (calls : Nat) : List Input :=
  List.replicate calls (finds none (some throttleHeard))

theorem throttles_quiet {calls : Nat} (bikeVoltage : Int32) :
    ∀ i ∈ throttles calls, Quiet bikeVoltage i := by
  intro i hi
  rw [List.eq_of_mem_replicate hi]
  refine ⟨rfl, rfl, ?_, Or.inr rfl⟩
  intro f hf
  cases hf
  decide

theorem length_throttles (calls : Nat) : (throttles calls).length = calls :=
  List.length_replicate

/-- Both buses are heard, and then nothing but frames of the throttle. -/
def stuck : List Input := together 19999 ++ throttles 2000

theorem length_stuck : stuck.length = 22000 := by
  have htogether := length_together 19999
  have hthrottles := length_throttles 2000
  unfold stuck
  rw [List.length_append]
  omega

/-- The throttle is no voltage, but the bike is heard. -/
theorem sends_of_throttles {s : State} {calls : Nat}
    (hheard : s.volts = ⟨1, 116400, 110000, 55000, 110000⟩) (hcalls : calls < 30000)
    (hwait : (run loop s (throttles calls)).chargerWaitCount.toInt = 22000) :
    Sends (run loop s (throttles calls)) := by
  have hone : s.scStaleCount.toInt = 1 := by
    have hcount : s.scStaleCount = 1 := congrArg Volts.scStaleCount hheard
    rw [hcount]
    rfl
  have hshort : s.scStaleCount.toInt + (throttles calls).length ≤ 30000 := by
    rw [length_throttles]
    omega
  obtain ⟨count, _, hvolts⟩ := run_quiet (throttles_quiet _) hshort
  rw [hheard] at hvolts
  exact sends_of_counts hwait hvolts (ready_of_heard rfl rfl rfl) (should_of_heard rfl rfl rfl)

theorem sends_stuck : Sends (run loop (setup ⟨1500, 116400⟩) stuck) := by
  obtain ⟨hwait, _⟩ := counter_of_run ⟨1500, 116400⟩ stuck
  have hends : (stuck.length : Int) % windowLength = 22000 := by
    rw [length_stuck]
    unfold windowLength
    omega
  have hheard := volts_of_together 19999 (by omega)
  have hrun := @run_append _ _ loop (setup ⟨1500, 116400⟩) (together 19999) (throttles 2000)
  change run loop (setup ⟨1500, 116400⟩) stuck = _ at hrun
  rw [hends, hrun] at hwait
  rw [hrun]
  exact sends_of_throttles hheard (by omega) hwait

/-- No call of the last 1001 has a voltage of the battery. -/
theorem not_fresh_stuck (mV : Int32) : ¬ FreshVoltage stuck mV := by
  rintro ⟨j, hj, f, hf, hid, _⟩
  have hthreshold : BIKE_STALE_THRESHOLD.toNatClampNeg = 1000 := by decide
  have hdrop : stuck.length - (BIKE_STALE_THRESHOLD.toNatClampNeg + 1) =
      (together 19999).length + 999 := by
    have hlength := length_stuck
    have htogether := length_together 19999
    omega
  rw [hdrop] at hj
  unfold stuck at hj
  rw [List.drop_length_add_append] at hj
  have hquiet := throttles_quiet 0 j (List.mem_of_mem_drop hj)
  rw [hquiet.voltage f hf] at hid
  cases hid

/-- Both buses at 110.0 V, and then nothing but 2000 frames of the throttle: the voltage of the
battery is 2000 calls old when the window ends. -/
theorem the_throttle_keeps_an_old_voltage :
    (loop (run loop (setup ⟨1500, 116400⟩) stuck) (finds none none)).sent.isSome = true ∧
      ¬ FreshVoltage stuck (run loop (setup ⟨1500, 116400⟩) stuck).bikeVoltage :=
  ⟨(sends_iff _ _).mpr sends_stuck, not_fresh_stuck _⟩

end super_charger.charge_monitor
