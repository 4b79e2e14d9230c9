-- The window of `Zero_charge_monitoring` over its chargers: the 22000 calls between
-- two resets of `connectedChargers`, and the division by it at their end.
import SuperCharger.ChargeMonitor
import SuperCharger.Windows
import Mathlib.Data.List.Induction

namespace super_charger.charge_monitor

open machine_int arduino charger_message zero runs windows

/-! ## What a call does to the window -/

/-- The counters that the end of a window resets, and what is sent there. -/
structure Window where
  chargerWaitCount : Int16
  connectedChargers : UInt8
  sent : Option Message

def State.window (s : State) : Window where
  chargerWaitCount := s.chargerWaitCount
  connectedChargers := s.connectedChargers
  sent := s.sent

/-- A branch that leaves `g` of the state as it is. -/
theorem ite_same {α : Type} (g : State → α) {c : Prop} [Decidable c] {s u : State}
    (h : g u = g s) : g (if c then u else s) = g s := by
  split
  · exact h
  · rfl

theorem setVoltageDiff_window (s : State) : (setVoltageDiff s).window = s.window := by
  unfold setVoltageDiff
  split <;> rfl

theorem readCommand_window (s : State) (serial : List Char) :
    (readCommand s serial).1.window = s.window := by
  unfold readCommand
  simp only
  split <;> split <;> rfl

theorem readCommands_window (turns : Nat) (s : State) (serial : List Char) :
    (readCommands turns s serial).window = s.window :=
  readCommands_keep readCommand_window turns s serial

/-- A message of a charger is counted in a byte. -/
theorem onCharger_window (p : Platform) (s : State) (buf : Message) :
    (onCharger p s buf).window =
      { s.window with connectedChargers := s.connectedChargers + 1 } := by
  unfold onCharger
  rw [setVoltageDiff_window]
  rfl

theorem onBike_window (s : State) (f : Frame) : (onBike s f).window = s.window := by
  unfold onBike
  simp only
  rw [ite_same State.window, ite_same State.window, ite_same State.window]
  · rfl
  · exact setVoltageDiff_window _
  · rfl
  · rfl

theorem checkStale_window (s : State) : (checkStale s).window = s.window := by
  unfold checkStale checkMessages checkBike checkCharger resetCharging countStale
  simp only
  split <;> split <;> split <;> rfl

/-- After the check of the window, a call counts the message of a charger and no more. -/
theorem loop_window (s : State) (i : Input) :
    (loop s i).window =
      let w := (checkWindow i.platform s).window
      if i.charger.isSome then { w with connectedChargers := w.connectedChargers + 1 } else w := by
  have hread := readCommands_window i.serial.length (checkWindow i.platform s) i.serial
  unfold loop receive
  simp only
  generalize readCommands i.serial.length (checkWindow i.platform s) i.serial = u at *
  rw [← hread, checkStale_window]
  cases i.charger with
  | none =>
    cases i.bike with
    | none => rfl
    | some f => exact onBike_window _ f
  | some buf =>
    cases i.bike with
    | none => exact onCharger_window _ _ buf
    | some f => exact (onBike_window _ f).trans (onCharger_window _ _ buf)

theorem checkWindow_counters (p : Platform) (s : State) :
    (checkWindow p s).chargerWaitCount =
        (if windowEnds (await s) then 0 else s.chargerWaitCount + 1) ∧
      (checkWindow p s).connectedChargers =
        if windowEnds (await s) then 0 else s.connectedChargers := by
  unfold checkWindow
  split <;> exact ⟨rfl, rfl⟩

theorem loop_chargerWaitCount (s : State) (i : Input) :
    (loop s i).chargerWaitCount = if windowEnds (await s) then 0 else s.chargerWaitCount + 1 := by
  have hloop := loop_window s i
  generalize loop s i = u at *
  refine (congrArg Window.chargerWaitCount hloop).trans ?_
  rw [← (checkWindow_counters i.platform s).1]
  simp only
  split <;> rfl

theorem loop_connectedChargers (s : State) (i : Input) :
    (loop s i).connectedChargers =
      (if windowEnds (await s) then 0 else s.connectedChargers) +
        if i.charger.isSome then 1 else 0 := by
  have hloop := loop_window s i
  generalize loop s i = u at *
  refine (congrArg Window.connectedChargers hloop).trans ?_
  rw [← (checkWindow_counters i.platform s).2]
  simp only
  split
  · rfl
  · exact (UInt8.add_zero _).symm

/-! ## The charge command -/

/-- At the start of a call `sendChargeCommand` is called and passes `shouldCharge`. -/
def Sends (s : State) : Prop :=
  windowEnds (await s) = true ∧ isReadyToCharge (await s) = true ∧ shouldCharge (await s) = true

/-- What a call sends, it sends at the check of the window. -/
theorem loop_sent (s : State) (i : Input) : (loop s i).sent = (checkWindow i.platform s).sent := by
  have hloop := loop_window s i
  generalize loop s i = u at *
  refine (congrArg Window.sent hloop).trans ?_
  simp only
  split <;> rfl

/-- These are the calls that send a command to the chargers. -/
theorem sends_iff (s : State) (i : Input) : (loop s i).sent.isSome = true ↔ Sends s := by
  rw [loop_sent]
  have hnone : (await s).sent = none := rfl
  unfold Sends checkWindow
  by_cases hends : windowEnds (await s)
  · rw [if_pos hends]
    unfold endWindow sendChargeCommand
    by_cases hready : isReadyToCharge (await s)
    · by_cases hshould : shouldCharge (await s)
      · simp [hends, hready, hshould]
      · simp [hready, hshould, hnone]
    · simp [hready, hnone]
  · rw [if_neg hends]
    simp [hends, hnone]

/-! ## The window of a run -/

/-- The calls of a window, the one that resets the counters among them. -/
def windowLength : Nat := 22001

/-- The messages of the chargers that came since the counters were last reset. -/
def messages (is : List Input) : Nat :=
  (sinceReset windowLength is).countP (fun i => i.charger.isSome)

theorem messages_snoc_of_dvd {is : List Input} (i : Input) (h : windowLength ∣ is.length + 1) :
    messages (is ++ [i]) = if i.charger.isSome then 1 else 0 := by
  unfold messages
  rw [sinceReset_snoc_of_dvd i h, List.countP_singleton]

theorem messages_snoc_of_not_dvd {is : List Input} (i : Input)
    (h : ¬ windowLength ∣ is.length + 1) :
    messages (is ++ [i]) = messages is + if i.charger.isSome then 1 else 0 := by
  unfold messages
  rw [sinceReset_snoc_of_not_dvd i h, List.countP_append, List.countP_singleton]

/-- The window ends with the call that counts past the threshold. -/
theorem windowEnds_iff {s : State} (h0 : 0 ≤ s.chargerWaitCount.toInt)
    (h : s.chargerWaitCount.toInt ≤ 22000) :
    windowEnds (await s) = true ↔ s.chargerWaitCount.toInt = 22000 := by
  have hsucc := toInt16_succ (x := s.chargerWaitCount) (by omega)
  have hthreshold : COUNT_SCV2_THRESHOLD.toInt = 22000 := rfl
  unfold windowEnds await
  rw [decide_eq_true_iff, gt_iff_lt, Int32.lt_iff_toInt_lt, Int16.toInt_toInt32, hthreshold]
  simp only
  omega

/-- After every run the window has been counted for `length % 22001` calls, and the chargers are
its messages, counted in a byte. -/
theorem counter_of_run (EEPROM : Settings) (is : List Input) :
    (run loop (setup EEPROM) is).chargerWaitCount.toInt = is.length % windowLength ∧
      (run loop (setup EEPROM) is).connectedChargers.toNat = messages is % 256 := by
  induction is using List.reverseRecOn with
  | nil => exact ⟨rfl, rfl⟩
  | append_singleton is i ih =>
    obtain ⟨hwait, hchargers⟩ := ih
    rw [run_snoc]
    generalize run loop (setup EEPROM) is = s at *
    have hlength : windowLength = 22001 := rfl
    rw [hlength] at hwait ⊢
    have hends := windowEnds_iff (s := s) (by omega) (by omega)
    have hsucc := toInt16_succ (x := s.chargerWaitCount) (by omega)
    rw [loop_chargerWaitCount, loop_connectedChargers, UInt8.toNat_add, List.length_append,
      List.length_singleton]
    by_cases hreset : windowLength ∣ is.length + 1
    · rw [messages_snoc_of_dvd i hreset]
      rw [hlength] at hreset
      have hover : windowEnds (await s) = true := hends.mpr (by omega)
      rw [if_pos hover, if_pos hover]
      refine ⟨?_, ?_⟩
      · simp only [Int16.reduceToInt]
        omega
      · split <;> rfl
    · rw [messages_snoc_of_not_dvd i hreset]
      rw [hlength] at hreset
      have hopen : ¬ windowEnds (await s) = true := fun h => by
        have := hends.mp h
        omega
      rw [if_neg hopen, if_neg hopen, hsucc, hchargers]
      refine ⟨by omega, ?_⟩
      split
      · simp only [UInt8.reduceToNat]
        omega
      · simp only [UInt8.reduceToNat]
        omega

/-! ## The voltages of a call -/

/-- What `isReadyToCharge` and `shouldCharge` depend on, and the age of the chargers' voltage. -/
structure Volts where
  scStaleCount : Int32
  endVolts : Int32
  bikeVoltage : Int32
  chargerVoltage : Int32
  chargerVoltageHolder : Int32
deriving DecidableEq

def State.volts (s : State) : Volts where
  scStaleCount := s.scStaleCount
  endVolts := s.endVolts
  bikeVoltage := s.bikeVoltage
  chargerVoltage := s.chargerVoltage
  chargerVoltageHolder := s.chargerVoltageHolder

def Volts.ready (v : Volts) : Bool :=
  v.bikeVoltage > MIN_VOLTS ∧ v.chargerVoltageHolder > MIN_VOLTS ∧
    v.chargerVoltageHolder < v.endVolts

def Volts.should (v : Volts) : Bool :=
  v.bikeVoltage > MIN_VOLTS ∧ v.bikeVoltage < v.endVolts ∧ v.chargerVoltage < v.endVolts

/-- When both buses are heard, the estimate moves half the way to the chargers' voltage. -/
def Volts.estimate (v : Volts) : Volts :=
  if v.ready then { v with chargerVoltage := (v.chargerVoltageHolder + v.chargerVoltage) / 2 }
  else v

theorem isReadyToCharge_eq (s : State) : isReadyToCharge s = s.volts.ready := rfl

theorem setVoltageDiff_volts (s : State) : (setVoltageDiff s).volts = s.volts.estimate := by
  unfold setVoltageDiff Volts.estimate
  rw [isReadyToCharge_eq]
  split <;> rfl

theorem sendChargeCommand_volts (p : Platform) (s : State) :
    (sendChargeCommand p s).volts = s.volts := by
  unfold sendChargeCommand
  split <;> rfl

theorem checkWindow_volts (p : Platform) (s : State) : (checkWindow p s).volts = s.volts := by
  unfold checkWindow endWindow
  simp only
  split
  · split
    · exact sendChargeCommand_volts p (await s)
    · rfl
  · rfl

/-- The voltage of a message, in millivolts. -/
def reading (buf : Message) : Int32 := (holder (SCV2.voltage buf).toUInt16).value * 100

theorem onCharger_volts (p : Platform) (s : State) (buf : Message) :
    (onCharger p s buf).volts =
      { s.volts with scStaleCount := 0, chargerVoltageHolder := reading buf }.estimate := by
  unfold onCharger
  rw [setVoltageDiff_volts]
  rfl

theorem onBike_volts (s : State) (f : Frame) :
    (onBike s f).volts =
      if hasMonolithVoltage f.id then { s.volts with bikeVoltage := f.voltage }.estimate
      else s.volts := by
  unfold onBike
  simp only
  rw [ite_same State.volts, ite_same State.volts]
  · split
    · exact setVoltageDiff_volts _
    · rfl
  · rfl
  · rfl

def Volts.onCharger (v : Volts) (buf : Message) : Volts :=
  { v with scStaleCount := 0, chargerVoltageHolder := reading buf }.estimate

def Volts.onBike (v : Volts) (f : Frame) : Volts :=
  if hasMonolithVoltage f.id then { v with bikeVoltage := f.voltage }.estimate else v

/-- What the messages of a call do to the voltages. -/
def Volts.receive (v : Volts) (charger : Option Message) (bike : Option Frame) : Volts :=
  let v := charger.elim v v.onCharger
  bike.elim v v.onBike

theorem Volts.receive_charger (v : Volts) (buf : Message) :
    v.receive (some buf) none = v.onCharger buf := rfl

theorem Volts.receive_bike (v : Volts) (f : Frame) : v.receive none (some f) = v.onBike f := rfl

theorem Volts.estimate_of_not_ready {v : Volts} (h : v.ready = false) : v.estimate = v := by
  unfold Volts.estimate
  rw [h]
  rfl

theorem Volts.estimate_of_ready {v : Volts} (h : v.ready = true) :
    v.estimate = { v with chargerVoltage := (v.chargerVoltageHolder + v.chargerVoltage) / 2 } := by
  unfold Volts.estimate
  rw [if_pos h]

theorem Volts.onBike_of_voltage (v : Volts) {f : Frame} (h : hasMonolithVoltage f.id = true) :
    v.onBike f = { v with bikeVoltage := f.voltage }.estimate := by
  unfold Volts.onBike
  rw [if_pos h]

theorem receive_volts (s : State) (i : Input) :
    (receive s i).volts = s.volts.receive i.charger i.bike := by
  unfold receive Volts.receive
  cases i.charger with
  | none =>
    cases i.bike with
    | none => rfl
    | some f => exact onBike_volts s f
  | some buf =>
    have hcharger := onCharger_volts i.platform s buf
    cases i.bike with
    | none => exact hcharger
    | some f =>
      have hbike := onBike_volts (onCharger i.platform s buf) f
      rw [hcharger] at hbike
      exact hbike

theorem setVoltageDiff_bikeStaleCount (s : State) :
    (setVoltageDiff s).bikeStaleCount = s.bikeStaleCount := by
  unfold setVoltageDiff
  split <;> rfl

/-- A frame on the bike bus, of whatever kind, resets its stale counter. -/
theorem onBike_bikeStaleCount (s : State) (f : Frame) : (onBike s f).bikeStaleCount = 0 := by
  unfold onBike
  simp only
  rw [ite_same State.bikeStaleCount, ite_same State.bikeStaleCount,
    ite_same State.bikeStaleCount]
  · exact setVoltageDiff_bikeStaleCount _
  · rfl
  · rfl

/-- While neither bus is stale, the stale checks count the call and leave the voltages. -/
theorem checkStale_volts {s : State} (h : s.scStaleCount.toInt < 30000)
    (hbike : s.bikeVoltage = 0 ∨ s.bikeStaleCount = 0) :
    (checkStale s).volts = { s.volts with scStaleCount := s.scStaleCount + 1 } := by
  have hsucc := toInt32_succ (x := s.scStaleCount) (by omega)
  have hthreshold : SC_STALE_THRESHOLD.toInt = 30000 := rfl
  have hfresh : ¬ s.scStaleCount + 1 > SC_STALE_THRESHOLD := by
    rw [gt_iff_lt, Int32.lt_iff_toInt_lt, hthreshold]
    omega
  have hcharger : checkCharger (countStale s) = countStale s := if_neg hfresh
  have hmessages : ∀ u : State, (checkMessages u).volts = u.volts :=
    fun u => ite_same State.volts rfl
  unfold checkStale
  rw [hmessages, hcharger]
  unfold checkBike
  split
  · rename_i hstale
    rcases hbike with hzero | hcount
    · unfold State.volts resetCharging countStale
      simp only [hzero]
    · exfalso
      change s.bikeStaleCount + 1 > BIKE_STALE_THRESHOLD at hstale
      rw [hcount] at hstale
      exact absurd hstale (by decide)
  · rfl

/-! ## Calls to try the code on -/

/-- A call that finds these messages and nothing else, on a board that has zeros for what C
leaves open. -/
def finds (charger : Option Message) (bike : Option Frame) : Input :=
  { serial := [], charger := charger, bike := bike, platform := ⟨0, fun _ => 0⟩ }

def silence (calls : Nat) : List Input := List.replicate calls (finds none none)

@[simp] theorem length_silence (calls : Nat) : (silence calls).length = calls :=
  List.length_replicate

theorem countP_silence (calls : Nat) :
    (silence calls).countP (fun i => i.charger.isSome) = 0 := by
  unfold silence
  rw [List.countP_replicate]
  rfl

/-- The chargers at 110.0 V, and the monolith at 110.0 V. -/
def chargerHeard : Message := message 1100 0

def monolithHeard : Frame := voltageFrame BMS_CELL_VOLTAGE 110000

/-- Silence, a message of the chargers, silence again, and a frame of the bike. -/
def gap (before between : Nat) : List Input :=
  (silence before ++ [finds (some chargerHeard) none]) ++
    (silence between ++ [finds none (some monolithHeard)])

/-- Silence, and both buses in one call. -/
def together (before : Nat) : List Input :=
  silence before ++ [finds (some chargerHeard) (some monolithHeard)]

theorem length_together (before : Nat) : (together before).length = before + 1 := by
  unfold together
  simp only [List.length_append, length_silence, List.length_singleton]

theorem messages_together {before : Nat} (h : before + 1 < windowLength) :
    messages (together before) = 1 := by
  unfold messages
  rw [sinceReset_of_lt (by rw [length_together]; exact h)]
  unfold together
  rw [List.countP_append, countP_silence]
  rfl

theorem length_gap (before between : Nat) : (gap before between).length = before + between + 2 := by
  unfold gap
  simp only [List.length_append, length_silence, List.length_singleton]
  omega

/-- When a window starts right after the message of the chargers, it counts none. -/
theorem messages_gap {before between : Nat}
    (h : (before + between + 2) / windowLength * windowLength - 1 = before + 1) :
    messages (gap before between) = 0 := by
  have hdrop : sinceReset windowLength (gap before between) =
      silence between ++ [finds none (some monolithHeard)] := by
    unfold sinceReset
    rw [length_gap, h]
    unfold gap
    apply List.drop_left'
    simp only [List.length_append, length_silence, List.length_singleton]
  unfold messages
  rw [hdrop, List.countP_append, countP_silence]
  rfl

theorem loop_of_no_command (s : State) {i : Input} (h : i.serial = []) :
    loop s i = checkStale (receive (checkWindow i.platform s) i) := by
  unfold loop
  rw [h]
  rfl

/-- A call with no command, while neither bus is stale. -/
theorem loop_volts {s : State} {i : Input} {v : Volts} (hserial : i.serial = [])
    (hv : s.volts.receive i.charger i.bike = v) (h : v.scStaleCount.toInt < 30000)
    (hbike : v.bikeVoltage = 0 ∨ i.bike.isSome = true) :
    (loop s i).volts = { v with scStaleCount := v.scStaleCount + 1 } := by
  have hloop := loop_of_no_command s hserial
  have hvolts : (receive (checkWindow i.platform s) i).volts = v := by
    rw [receive_volts, checkWindow_volts, hv]
  have hstale : i.bike.isSome = true →
      (receive (checkWindow i.platform s) i).bikeStaleCount = 0 := by
    intro hsome
    obtain ⟨f, hf⟩ := Option.isSome_iff_exists.mp hsome
    unfold receive
    rw [hf]
    exact onBike_bikeStaleCount _ f
  rw [hloop, ← hvolts]
  rw [← hvolts] at h hbike
  exact checkStale_volts h (hbike.imp_right hstale)

/-- A call without a command, a message of the chargers or a voltage of the bike. The bike is
heard, unless its voltage is 0. -/
structure Quiet (bikeVoltage : Int32) (i : Input) : Prop where
  serial : i.serial = []
  charger : i.charger = none
  voltage : ∀ f, i.bike = some f → hasMonolithVoltage f.id = false
  bike : bikeVoltage = 0 ∨ i.bike.isSome = true

theorem receive_of_quiet {bikeVoltage : Int32} {i : Input} (h : Quiet bikeVoltage i) (v : Volts) :
    v.receive i.charger i.bike = v := by
  rw [h.charger]
  cases hb : i.bike with
  | none => rfl
  | some f =>
    rw [Volts.receive_bike]
    unfold Volts.onBike
    rw [h.voltage f hb]
    exact if_neg Bool.false_ne_true

/-- Quiet calls leave the voltages, as long as the chargers are not stale. -/
theorem run_quiet {s : State} {is : List Input} (hquiet : ∀ i ∈ is, Quiet s.bikeVoltage i)
    (h : s.scStaleCount.toInt + is.length ≤ 30000) :
    ∃ count : Int32, count.toInt = s.scStaleCount.toInt + is.length ∧
      (run loop s is).volts = { s.volts with scStaleCount := count } := by
  induction is using List.reverseRecOn with
  | nil => exact ⟨s.scStaleCount, by simp, rfl⟩
  | append_singleton is i ih =>
    rw [List.length_append, List.length_singleton] at h
    obtain ⟨count, hcount, hvolts⟩ := ih (fun j hj => hquiet j (by simp [hj])) (by omega)
    have hi := hquiet i (by simp)
    rw [run_snoc, List.length_append, List.length_singleton]
    generalize run loop s is = u at *
    have hnothing : u.volts.receive i.charger i.bike = { s.volts with scStaleCount := count } := by
      rw [receive_of_quiet hi, hvolts]
    refine ⟨count + 1, ?_, ?_⟩
    · rw [toInt32_succ (by omega), hcount]
      omega
    · have hfresh : count.toInt < 30000 := by omega
      exact loop_volts hi.serial hnothing hfresh hi.bike

theorem run_silence {s : State} (calls : Nat) (h : s.scStaleCount.toInt + calls ≤ 30000)
    (hbike : s.bikeVoltage = 0) :
    ∃ count : Int32, count.toInt = s.scStaleCount.toInt + calls ∧
      (run loop s (silence calls)).volts = { s.volts with scStaleCount := count } := by
  have hquiet : ∀ i ∈ silence calls, Quiet s.bikeVoltage i := by
    intro i hi
    rw [List.eq_of_mem_replicate hi]
    refine ⟨rfl, rfl, ?_, Or.inl hbike⟩
    intro f hf
    cases hf
  have hrun := run_quiet hquiet (by rw [length_silence]; exact h)
  rw [length_silence] at hrun
  exact hrun

theorem ready_of_heard {v : Volts} (hbike : v.bikeVoltage = 110000)
    (hcharger : v.chargerVoltageHolder = 110000) (hend : v.endVolts = 116400) : v.ready = true := by
  unfold Volts.ready
  rw [hbike, hcharger, hend]
  decide

theorem not_ready_of_silent {v : Volts} (hbike : v.bikeVoltage = 0) : v.ready = false := by
  unfold Volts.ready
  rw [hbike]
  exact decide_eq_false (fun h => absurd h.1 (by decide))

theorem should_of_heard {v : Volts} (hbike : v.bikeVoltage = 110000)
    (hcharger : v.chargerVoltage = 55000) (hend : v.endVolts = 116400) : v.should = true := by
  unfold Volts.should
  rw [hbike, hcharger, hend]
  decide

/-- A message of the chargers while the bike is silent. -/
theorem onCharger_chargerHeard (count : Int32) :
    Volts.onCharger ⟨count, 116400, 0, 0, 0⟩ chargerHeard = ⟨0, 116400, 0, 0, 110000⟩ := by
  have hreads : reading chargerHeard = 110000 := by decide
  unfold Volts.onCharger
  rw [hreads]
  exact Volts.estimate_of_not_ready (not_ready_of_silent rfl)

/-- The first frame of the bike, once the chargers are heard. -/
theorem onBike_monolithHeard (count : Int32) :
    Volts.onBike ⟨count, 116400, 0, 0, 110000⟩ monolithHeard =
      ⟨count, 116400, 110000, 55000, 110000⟩ := by
  have hreads : monolithHeard.voltage = 110000 := by decide
  have hhalf : ((110000 : Int32) + 0) / 2 = 55000 := by decide
  rw [Volts.onBike_of_voltage _ (by decide), hreads,
    Volts.estimate_of_ready (ready_of_heard rfl rfl rfl)]
  simp only [hhalf]

/-- The board boots into silence. -/
theorem volts_of_silence {before : Nat} (h : before ≤ 30000) :
    ∃ count, (run loop (setup ⟨1500, 116400⟩) (silence before)).volts =
      ⟨count, 116400, 0, 0, 0⟩ := by
  have hsetup : (setup ⟨1500, 116400⟩).volts = ⟨0, 116400, 0, 0, 0⟩ := rfl
  generalize setup ⟨1500, 116400⟩ = s at *
  have hzero : s.scStaleCount = 0 := congrArg Volts.scStaleCount hsetup
  obtain ⟨count, _, hvolts⟩ := run_silence before (s := s)
    (by rw [hzero]; simp only [Int32.reduceToInt]; omega) (congrArg Volts.bikeVoltage hsetup)
  rw [hsetup] at hvolts
  exact ⟨count, hvolts⟩

/-- The chargers are heard once, and the bike later, while the chargers are not yet stale. -/
theorem volts_of_gap (before between : Nat) (hbefore : before ≤ 30000)
    (hbetween : between < 29999) :
    ∃ count, (run loop (setup ⟨1500, 116400⟩) (gap before between)).volts =
      ⟨count, 116400, 110000, 55000, 110000⟩ := by
  obtain ⟨_, h1⟩ := volts_of_silence hbefore
  unfold gap
  rw [run_append, run_snoc, run_snoc]
  generalize run loop (setup ⟨1500, 116400⟩) (silence before) = s at *
  have hcharger : s.volts.receive (some chargerHeard) none = ⟨0, 116400, 0, 0, 110000⟩ := by
    rw [h1, Volts.receive_charger, onCharger_chargerHeard]
  have h2 := loop_volts (i := finds (some chargerHeard) none) rfl hcharger (by decide) (Or.inl rfl)
  generalize loop s (finds (some chargerHeard) none) = u at *
  have hone : u.scStaleCount = 1 := congrArg Volts.scStaleCount h2
  obtain ⟨count, hcount, h3⟩ := run_silence between (s := u)
    (by rw [hone]; simp only [Int32.reduceToInt]; omega) (congrArg Volts.bikeVoltage h2)
  rw [h2] at h3
  generalize run loop u (silence between) = w at *
  have hbike : w.volts.receive none (some monolithHeard) =
      ⟨count, 116400, 110000, 55000, 110000⟩ := by
    rw [h3, Volts.receive_bike]
    exact onBike_monolithHeard count
  rw [hone] at hcount
  simp only [Int32.reduceToInt] at hcount
  have hfresh : count.toInt < 30000 := by omega
  have h4 := loop_volts (i := finds none (some monolithHeard)) rfl hbike hfresh (Or.inr rfl)
  exact ⟨count + 1, h4⟩

theorem volts_of_together (before : Nat) (h : before ≤ 30000) :
    (run loop (setup ⟨1500, 116400⟩) (together before)).volts =
      ⟨1, 116400, 110000, 55000, 110000⟩ := by
  obtain ⟨_, h1⟩ := volts_of_silence h
  unfold together
  rw [run_snoc]
  generalize run loop (setup ⟨1500, 116400⟩) (silence before) = s at *
  have hboth : s.volts.receive (some chargerHeard) (some monolithHeard) =
      ⟨0, 116400, 110000, 55000, 110000⟩ := by
    have hstep : s.volts.receive (some chargerHeard) (some monolithHeard) =
        (s.volts.onCharger chargerHeard).onBike monolithHeard := rfl
    rw [hstep, h1, onCharger_chargerHeard, onBike_monolithHeard]
  have h2 := loop_volts (i := finds (some chargerHeard) (some monolithHeard)) rfl hboth (by decide)
    (Or.inr rfl)
  exact h2

/-- A call sends when the window has been counted to its end and the voltages allow it. -/
theorem sends_of_counts {s : State} {v : Volts} (hwait : s.chargerWaitCount.toInt = 22000)
    (hv : s.volts = v) (hready : v.ready = true) (hshould : v.should = true) : Sends s := by
  refine ⟨(windowEnds_iff (by omega) (by omega)).mpr hwait, ?_, ?_⟩
  · rw [← hv] at hready
    exact hready
  · rw [← hv] at hshould
    exact hshould

/-! ## The divisions of the charge command -/

/-- Both divisions of the current of a charger are by numbers other than 0. -/
structure Defined (s : State) : Prop where
  chargers : 1 ≤ s.connectedChargers
  volts : s.bikeVoltage / 100 ≠ 0
  current : ∀ p, perCharger p s =
    s.targetWatts * 100 / (s.bikeVoltage / 100) / s.connectedChargers.toUInt32.toInt32

/-- A voltage that passes `shouldCharge` is 700 tenths of a volt or more. -/
theorem shouldCharge_volts {s : State} (h : shouldCharge s = true) : s.bikeVoltage / 100 ≠ 0 := by
  unfold shouldCharge at h
  have hmin := (decide_eq_true_iff.mp h).1
  have hvolts : MIN_VOLTS.toInt = 70000 := rfl
  rw [gt_iff_lt, Int32.lt_iff_toInt_lt, hvolts] at hmin
  have htenths := toInt_div_hundred (x := s.bikeVoltage) (by omega)
  intro h0
  rw [h0] at htenths
  simp only [Int32.reduceToInt] at htenths
  omega

theorem defined_of_divisors {s : State} (hn : 1 ≤ s.connectedChargers)
    (hv : s.bikeVoltage / 100 ≠ 0) : Defined s := by
  have hne : s.connectedChargers.toUInt32.toInt32 ≠ 0 := by
    intro h
    have hback := congrArg (fun x : Int32 => x.toUInt32.toUInt8) h
    simp only [UInt32.toUInt32_toInt32, UInt8.toUInt8_toUInt32] at hback
    rw [hback] at hn
    exact absurd hn (by decide)
  refine ⟨hn, hv, fun p => ?_⟩
  unfold perCharger quotient
  rw [if_neg hne, if_neg hv]

/-- In every run, the division of a charge command is defined exactly when the chargers have
sent a message in the window that ends with it, up to the 256 that the byte counts as none. -/
theorem a_charge_command_is_defined_iff_the_window_counts_a_charger (EEPROM : Settings)
    (is : List Input) (h : Sends (run loop (setup EEPROM) is)) :
    Defined (await (run loop (setup EEPROM) is)) ↔ messages is % 256 ≠ 0 := by
  obtain ⟨_, hcount⟩ := counter_of_run EEPROM is
  generalize run loop (setup EEPROM) is = s at *
  have hsame : (await s).connectedChargers = s.connectedChargers := rfl
  rw [← hcount, ← hsame]
  constructor
  · intro hdefined h0
    have hone := UInt8.le_iff_toNat_le.mp hdefined.chargers
    rw [h0] at hone
    exact absurd hone (by decide)
  · intro hne
    apply defined_of_divisors
    · rw [UInt8.le_iff_toNat_le]
      exact Nat.one_le_iff_ne_zero.mpr hne
    · exact shouldCharge_volts h.2.2

/-- Chargers and battery at 110.0 V that are both heard one call before the first window ends. -/
theorem sends_together : Sends (run loop (setup ⟨1500, 116400⟩) (together 21999)) := by
  have hends : ((together 21999).length : Int) % windowLength = 22000 := by
    rw [length_together]
    unfold windowLength
    omega
  obtain ⟨hwait, _⟩ := counter_of_run ⟨1500, 116400⟩ (together 21999)
  have hvolts := volts_of_together 21999 (by omega)
  rw [hends] at hwait
  exact sends_of_counts hwait hvolts (ready_of_heard rfl rfl rfl) (should_of_heard rfl rfl rfl)

theorem a_charge_command_after_a_message_is_defined :
    Sends (run loop (setup ⟨1500, 116400⟩) (together 21999)) ∧
      Defined (await (run loop (setup ⟨1500, 116400⟩) (together 21999))) := by
  have hone : messages (together 21999) = 1 := messages_together (by decide)
  refine ⟨sends_together, ?_⟩
  apply (a_charge_command_is_defined_iff_the_window_counts_a_charger _ _ sends_together).mpr
  rw [hone]
  decide

theorem not_defined_of_none {s : State} (h : s.connectedChargers = 0) : ¬ Defined (await s) := by
  intro hdefined
  have hone : 1 ≤ s.connectedChargers := hdefined.chargers
  rw [h] at hone
  exact absurd hone (by decide)

theorem none_of_no_message {EEPROM : Settings} {is : List Input} (h : messages is = 0) :
    (run loop (setup EEPROM) is).connectedChargers = 0 := by
  obtain ⟨_, hcount⟩ := counter_of_run EEPROM is
  rw [h] at hcount
  exact UInt8.toNat_inj.mp hcount

/-- Chargers and battery at 110.0 V. The chargers send their last message one call before a window
starts, and the bike its first one call before the window ends: the chargers are not stale, and
the window has counted none of them. -/
theorem a_silent_window_divides_by_zero :
    Sends (run loop (setup ⟨1500, 116400⟩) (gap 21999 22000)) ∧
      (run loop (setup ⟨1500, 116400⟩) (gap 21999 22000)).connectedChargers = 0 ∧
      ¬ Defined (await (run loop (setup ⟨1500, 116400⟩) (gap 21999 22000))) := by
  have hnone : (run loop (setup ⟨1500, 116400⟩) (gap 21999 22000)).connectedChargers = 0 :=
    none_of_no_message (messages_gap (by decide))
  have hends : ((gap 21999 22000).length : Int) % windowLength = 22000 := by
    rw [length_gap]
    unfold windowLength
    omega
  obtain ⟨hwait, _⟩ := counter_of_run ⟨1500, 116400⟩ (gap 21999 22000)
  obtain ⟨count, hvolts⟩ := volts_of_gap 21999 22000 (by omega) (by omega)
  rw [hends] at hwait
  refine ⟨?_, hnone, not_defined_of_none hnone⟩
  exact sends_of_counts hwait hvolts (ready_of_heard rfl rfl rfl) (should_of_heard rfl rfl rfl)

end super_charger.charge_monitor
