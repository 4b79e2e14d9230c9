-- The voltage that `Zero_charge_monitoring` asks the chargers for: two cached bytes, and
-- the end voltage that they were last computed from.
import SuperCharger.ChargeWatchdog

namespace super_charger.charge_monitor

open machine_int arduino charger_message zero runs

/-! ## The cached request -/

/-- The two bytes that `setOutputVolts` keeps of a voltage. -/
def tenths (volts : Int32) : ByteToShort :=
  ByteToShort.ofValue (volts / 100).toUInt32.toUInt16.toInt16

/-- What a charge command takes its voltage from, and the difference it was computed with. -/
structure Request where
  desiredOutputVolts : ByteToShort
  voltageDiff : Int32

def State.request (s : State) : Request where
  desiredOutputVolts := s.desiredOutputVolts
  voltageDiff := s.voltageDiff

/-- What a request is computed from: the end voltage, and the readings of the two buses. -/
structure Basis where
  endVolts : Int32
  bikeVoltage : Int32
  chargerVoltage : Int32

def Basis.voltageDiff (b : Basis) : Int32 := b.bikeVoltage - b.chargerVoltage

/-- The request is the one for these voltages. -/
def RequestedFor (basis : Basis) (s : State) : Prop :=
  s.desiredOutputVolts = tenths (basis.endVolts - basis.voltageDiff) ∧
    s.voltageDiff = basis.voltageDiff

theorem requestedFor_of_request {basis : Basis} {s u : State} (h : u.request = s.request)
    (hs : RequestedFor basis s) : RequestedFor basis u := by
  have hvolts : u.desiredOutputVolts = s.desiredOutputVolts :=
    congrArg Request.desiredOutputVolts h
  have hdiff : u.voltageDiff = s.voltageDiff := congrArg Request.voltageDiff h
  unfold RequestedFor at *
  rw [hvolts, hdiff]
  exact hs

/-! ## The voltages behind the request -/

/-- `setVoltageDiff` computes the request anew if both buses are ready. -/
def recomputed (basis : Basis) (s : State) : Basis :=
  if isReadyToCharge s then ⟨s.endVolts, s.bikeVoltage, s.chargerVoltage⟩ else basis

/-- A watchdog clears the request. -/
def clears (s : State) : Bool :=
  s.scStaleCount + 1 > SC_STALE_THRESHOLD ∨ s.bikeStaleCount + 1 > BIKE_STALE_THRESHOLD

/-- The voltages of the last request, once a call has been made: 0 if it was cleared. -/
def basisAfter (basis : Basis) (s : State) (i : Input) : Basis :=
  let s := readCommands i.serial.length (checkWindow i.platform s) i.serial
  let basis := i.charger.elim basis fun buf =>
    recomputed basis { s with chargerVoltageHolder := reading buf }
  let s := i.charger.elim s (onCharger i.platform s)
  let basis := i.bike.elim basis fun f =>
    if hasMonolithVoltage f.id then recomputed basis { s with bikeVoltage := f.voltage } else basis
  let s := i.bike.elim s (onBike s)
  if clears s then ⟨0, 0, 0⟩ else basis

/-- The voltages of the last request in a run. -/
def basis (EEPROM : Settings) (is : List Input) : Basis :=
  (is.foldl (fun q i => (loop q.1 i, basisAfter q.2 q.1 i)) (setup EEPROM, ⟨EEPROM.EndVolts, 0, 0⟩)).2

theorem basis_snoc (EEPROM : Settings) (is : List Input) (i : Input) :
    basis EEPROM (is ++ [i]) = basisAfter (basis EEPROM is) (run loop (setup EEPROM) is) i := by
  have hrun := @fst_foldl_beside State Input loop Basis basisAfter (setup EEPROM)
    ⟨EEPROM.EndVolts, 0, 0⟩ is
  unfold basis
  rw [← hrun, List.foldl_append]
  rfl

/-! ## What each part does to it -/

theorem setVoltageDiff_requestedFor {basis : Basis} {s : State} (h : RequestedFor basis s) :
    RequestedFor (recomputed basis s) (setVoltageDiff s) := by
  unfold recomputed setVoltageDiff
  split
  · exact ⟨rfl, rfl⟩
  · exact h

theorem checkWindow_request (p : Platform) (s : State) : (checkWindow p s).request = s.request := by
  unfold checkWindow endWindow sendChargeCommand
  split
  · simp only
    split
    · split <;> rfl
    · rfl
  · rfl

theorem readCommand_request (s : State) (serial : List Char) :
    (readCommand s serial).1.request = s.request := by
  unfold readCommand
  simp only
  split <;> split <;> rfl

theorem readCommands_request (turns : Nat) (s : State) (serial : List Char) :
    (readCommands turns s serial).request = s.request :=
  readCommands_keep readCommand_request turns s serial

theorem onCharger_requestedFor {basis : Basis} {s : State} (h : RequestedFor basis s)
    (p : Platform) (buf : Message) :
    RequestedFor (recomputed basis { s with chargerVoltageHolder := reading buf })
      (onCharger p s buf) := by
  unfold onCharger
  exact setVoltageDiff_requestedFor h

/-- Of a frame of the bike only the voltage matters here. -/
theorem onBike_request (s : State) (f : Frame) :
    (onBike s f).request =
      if hasMonolithVoltage f.id then (setVoltageDiff { s with
        bikeStaleCount := 0
        bikeVoltage := f.voltage }).request
      else s.request := by
  unfold onBike onMonolithVoltage
  simp only
  rw [ite_same State.request, ite_same State.request]
  · split <;> rfl
  · rfl
  · rfl

theorem onBike_requestedFor {basis : Basis} {s : State} (h : RequestedFor basis s) (f : Frame) :
    RequestedFor (if hasMonolithVoltage f.id then
        recomputed basis { s with bikeVoltage := f.voltage } else basis) (onBike s f) := by
  have hrequest := onBike_request s f
  have hcounted : RequestedFor basis { s with bikeStaleCount := 0, bikeVoltage := f.voltage } := h
  by_cases hid : hasMonolithVoltage f.id = true
  · rw [if_pos hid] at hrequest ⊢
    exact requestedFor_of_request hrequest (setVoltageDiff_requestedFor hcounted)
  · rw [if_neg hid] at hrequest ⊢
    exact requestedFor_of_request hrequest h

theorem resetCharging_requestedFor (s : State) : RequestedFor ⟨0, 0, 0⟩ (resetCharging s) := by
  unfold RequestedFor resetCharging
  simp only
  decide

theorem checkCharger_requestedFor {basis : Basis} {s : State} (h : RequestedFor basis s) :
    RequestedFor (if s.scStaleCount > SC_STALE_THRESHOLD then ⟨0, 0, 0⟩ else basis) (checkCharger s) := by
  unfold checkCharger
  split
  · exact resetCharging_requestedFor _
  · exact h

theorem checkBike_requestedFor {basis : Basis} {s : State} (h : RequestedFor basis s) :
    RequestedFor (if s.bikeStaleCount > BIKE_STALE_THRESHOLD then ⟨0, 0, 0⟩ else basis) (checkBike s) := by
  unfold checkBike
  split
  · exact resetCharging_requestedFor _
  · exact h

theorem checkCharger_bikeStaleCount (s : State) :
    (checkCharger s).bikeStaleCount = s.bikeStaleCount := by
  unfold checkCharger
  exact ite_same State.bikeStaleCount rfl

theorem checkStale_requestedFor {basis : Basis} {s : State} (h : RequestedFor basis s) :
    RequestedFor (if clears s then ⟨0, 0, 0⟩ else basis) (checkStale s) := by
  have hmessages : ∀ u : State, (checkMessages u).request = u.request :=
    fun u => ite_same State.request rfl
  have hcounted : RequestedFor basis (countStale s) := h
  have hboth := checkBike_requestedFor (checkCharger_requestedFor hcounted)
  rw [checkCharger_bikeStaleCount] at hboth
  unfold checkStale
  refine requestedFor_of_request (hmessages _) ?_
  have hbasis : (if clears s then ⟨0, 0, 0⟩ else basis) =
      if (countStale s).bikeStaleCount > BIKE_STALE_THRESHOLD then ⟨0, 0, 0⟩
      else if (countStale s).scStaleCount > SC_STALE_THRESHOLD then ⟨0, 0, 0⟩ else basis := by
    unfold clears countStale
    by_cases hcharger : s.scStaleCount + 1 > SC_STALE_THRESHOLD
    · simp [hcharger]
    · simp [hcharger]
  rw [hbasis]
  exact hboth

theorem loop_requestedFor {basis : Basis} {s : State} (h : RequestedFor basis s) (i : Input) :
    RequestedFor (basisAfter basis s i) (loop s i) := by
  have hread := readCommands_request i.serial.length (checkWindow i.platform s) i.serial
  rw [checkWindow_request] at hread
  have hstart := requestedFor_of_request hread h
  unfold basisAfter loop receive
  simp only
  generalize readCommands i.serial.length (checkWindow i.platform s) i.serial = u at *
  apply checkStale_requestedFor
  cases i.charger with
  | none =>
    cases i.bike with
    | none => exact hstart
    | some f => exact onBike_requestedFor hstart f
  | some buf =>
    have hcharger := onCharger_requestedFor hstart i.platform buf
    cases i.bike with
    | none => exact hcharger
    | some f => exact onBike_requestedFor hcharger f

/-- In every run the cached bytes are those of the voltages that they were computed from. -/
theorem request_of_run (EEPROM : Settings) (is : List Input) :
    RequestedFor (basis EEPROM is) (run loop (setup EEPROM) is) := by
  induction is using List.reverseRecOn with
  | nil =>
    have hdiff : Basis.voltageDiff ⟨EEPROM.EndVolts, 0, 0⟩ = 0 := Int32.sub_zero 0
    have hstart : basis EEPROM [] = ⟨EEPROM.EndVolts, 0, 0⟩ := rfl
    rw [hstart]
    unfold RequestedFor
    rw [hdiff, Int32.sub_zero]
    exact ⟨rfl, rfl⟩
  | append_singleton is i ih =>
    rw [run_snoc, basis_snoc]
    exact loop_requestedFor ih i

/-! ## The charge command -/

/-- The voltage that the settings in force ask for, in tenths of a volt. -/
def State.requestedTenths (s : State) : Int32 := (s.endVolts - s.voltageDiff) / 100

/-- The message carries the voltage that the settings in force ask for. -/
structure Follows (s : State) (msg : Message) : Prop where
  carries : ((voltageOf msg).toNat : Int) = s.requestedTenths.toInt
  low : 0 ≤ s.requestedTenths.toInt
  high : s.requestedTenths.toInt ≤ 65535

/-- What an end voltage asks for over the readings behind the request, in tenths of a volt. -/
def Basis.tenthsFor (b : Basis) (endVolts : Int32) : Int32 := (endVolts - b.voltageDiff) / 100

/-- The end voltage in force asks for the same 16 bits as the one behind the request. -/
def SameRequest (b : Basis) (s : State) : Prop :=
  (b.tenthsFor b.endVolts).toInt % 2 ^ 16 = (b.tenthsFor s.endVolts).toInt % 2 ^ 16

/-- The end voltage in force and the estimate of the chargers are together above the battery, to
a tenth of a volt, and by less than 6553.6 V. -/
def InReach (b : Basis) (s : State) : Prop :=
  -100 < (s.endVolts - (b.bikeVoltage - b.chargerVoltage)).toInt ∧
    (s.endVolts - (b.bikeVoltage - b.chargerVoltage)).toInt < 6553600

theorem toNat_tenths (volts : Int32) :
    ((word (tenths volts).high (tenths volts).low).toNat : Int) = (volts / 100).toInt % 2 ^ 16 := by
  have hword : word (tenths volts).high (tenths volts).low = truncate (volts / 100) :=
    word_highByte_lowByte _
  rw [hword, toNat_truncate]

theorem voltageOf_writeUnions (msg : Message) (volts amps : ByteToShort) :
    voltageOf (writeUnions msg volts amps) = word volts.high volts.low := by
  simp [voltageOf, writeUnions]

/-- What a call sends carries the cached bytes, the high one first. -/
theorem voltageOf_sent {s : State} {i : Input} {msg : Message} (h : (loop s i).sent = some msg) :
    voltageOf msg = word s.desiredOutputVolts.high s.desiredOutputVolts.low := by
  have hsome : (loop s i).sent.isSome = true := by
    rw [h]
    rfl
  obtain ⟨hends, hready, hshould⟩ := (sends_iff s i).mp hsome
  rw [loop_sent] at h
  unfold checkWindow endWindow sendChargeCommand at h
  simp only [hends, hready, hshould, if_true] at h
  rw [← Option.some.inj h, voltageOf_writeUnions]
  rfl

/-- The division truncates, so less than a tenth of a volt below 0 is still 0. -/
theorem tenths_in_range_iff (v : Int32) :
    0 ≤ (v / 100).toInt ∧ (v / 100).toInt ≤ 65535 ↔ -100 < v.toInt ∧ v.toInt < 6553600 := by
  have hlow := v.le_toInt
  have hhigh := v.toInt_lt
  have hdiv : (v / 100).toInt = (v.toInt.tdiv 100).bmod (2 ^ 32) := Int32.toInt_div v 100
  rw [hdiv]
  by_cases hpos : 0 ≤ v.toInt
  · rw [Int.tdiv_eq_ediv_of_nonneg hpos, Int.bmod_def]
    split <;> omega
  · have hneg : v.toInt.tdiv 100 = -(-v.toInt / 100) := by
      rw [← Int.tdiv_eq_ediv_of_nonneg (by omega), Int.neg_tdiv, Int.neg_neg]
    rw [hneg, Int.bmod_def]
    split <;> omega

/-- In every run, a charge command carries the voltage that the settings in force ask for exactly
when the end voltage in force is in reach of the readings behind the request, and asks for the same
over them as the end voltage behind it. -/
theorem the_request_follows_the_end_voltage_iff (EEPROM : Settings) (is : List Input) (i : Input)
    (msg : Message) (hsent : (loop (run loop (setup EEPROM) is) i).sent = some msg) :
    Follows (run loop (setup EEPROM) is) msg ↔
      SameRequest (basis EEPROM is) (run loop (setup EEPROM) is) ∧
        InReach (basis EEPROM is) (run loop (setup EEPROM) is) := by
  obtain ⟨hcached, hdiff⟩ := request_of_run EEPROM is
  have hword := voltageOf_sent hsent
  rw [hcached] at hword
  have hnumber := toNat_tenths ((basis EEPROM is).endVolts - (basis EEPROM is).voltageDiff)
  rw [← hword] at hnumber
  generalize run loop (setup EEPROM) is = s at *
  generalize basis EEPROM is = b at *
  have hforce : s.requestedTenths = b.tenthsFor s.endVolts := by
    unfold State.requestedTenths Basis.tenthsFor
    rw [hdiff]
  change ((voltageOf msg).toNat : Int) = (b.tenthsFor b.endVolts).toInt % 2 ^ 16 at hnumber
  unfold SameRequest
  have hreach : InReach b s ↔
      0 ≤ (b.tenthsFor s.endVolts).toInt ∧ (b.tenthsFor s.endVolts).toInt ≤ 65535 :=
    (tenths_in_range_iff (s.endVolts - b.voltageDiff)).symm
  rw [hreach]
  constructor
  · rintro ⟨hcarries, hlow, hhigh⟩
    rw [hforce] at hcarries hlow hhigh
    exact ⟨by omega, hlow, hhigh⟩
  · rintro ⟨hsame, hlow, hhigh⟩
    refine ⟨?_, ?_, ?_⟩
    · rw [hforce]
      omega
    · rw [hforce]
      exact hlow
    · rw [hforce]
      exact hhigh

/-! ## A request in a run -/

/-- The end of a call that clears nothing counts. -/
theorem checkStale_of_not_clears {s : State} (h : clears s = false) :
    checkStale s = checkMessages (countStale s) := by
  unfold clears at h
  obtain ⟨hcharger, hbike⟩ := not_or.mp (of_decide_eq_false h)
  have hfresh : checkCharger (countStale s) = countStale s := if_neg hcharger
  have hheard : checkBike (countStale s) = countStale s := if_neg hbike
  unfold checkStale
  rw [hfresh, hheard]

theorem checkStale_request {s : State} (h : clears s = false) : (checkStale s).request = s.request := by
  rw [checkStale_of_not_clears h]
  exact ite_same State.request rfl

/-- A voltage of the battery that finds both buses ready makes the request. -/
theorem onBike_request_of_ready {s : State} {f : Frame} (hid : hasMonolithVoltage f.id = true)
    (hready : isReadyToCharge { s with bikeVoltage := f.voltage } = true) :
    (onBike s f).request =
      ⟨tenths (s.endVolts - (f.voltage - s.chargerVoltage)), f.voltage - s.chargerVoltage⟩ := by
  have hboth : isReadyToCharge { s with bikeStaleCount := 0, bikeVoltage := f.voltage } = true :=
    hready
  rw [onBike_request, if_pos hid]
  unfold setVoltageDiff
  rw [if_pos hboth]
  rfl

/-- What a command does to the voltages. -/
theorem readCommand_volts (s : State) (serial : List Char) :
    (readCommand s serial).1.volts =
      { s.volts with
        endVolts :=
          if toIntAvr (readStringUntil ',' serial).1 * 100 < MIN_VOLTS then MIN_VOLTS
          else toIntAvr (readStringUntil ',' serial).1 * 100 } := by
  unfold readCommand
  simp only
  split <;> split <;> rfl

/-- A command for 120.0 V, in the call of a frame of the throttle. -/
def retarget : Input :=
  { finds none (some throttleHeard) with
    serial := ['1', '2', '0', '0', ',', '1', '5', '0', '0', '\n'] }

theorem readCommands_retarget (s : State) :
    readCommands retarget.serial.length s retarget.serial = (readCommand s retarget.serial).1 := by
  have hrest : (readCommand s retarget.serial).2 = [] := by
    have hclosed : (readStringUntil '\n' (readStringUntil ',' retarget.serial).2).2 = [] := by
      decide
    exact hclosed
  have hturn : readCommands retarget.serial.length s retarget.serial =
      readCommands 9 (readCommand s retarget.serial).1 (readCommand s retarget.serial).2 := rfl
  rw [hturn, hrest]
  rfl

/-- The call moves the end voltage, and leaves the request. -/
theorem loop_retarget {s : State} (h : s.volts = ⟨1, 116400, 110000, 55000, 110000⟩) :
    (loop s retarget).volts = ⟨2, 120000, 110000, 55000, 110000⟩ ∧
      (loop s retarget).request = s.request := by
  have hid : hasMonolithVoltage throttleHeard.id = false := by decide
  have hloop : loop s retarget = checkStale (onBike
      (readCommand (checkWindow retarget.platform s) retarget.serial).1 throttleHeard) := by
    unfold loop
    simp only
    rw [readCommands_retarget]
    rfl
  have hvolts := readCommand_volts (checkWindow retarget.platform s) retarget.serial
  have hrequest := readCommand_request (checkWindow retarget.platform s) retarget.serial
  have hend : (if toIntAvr (readStringUntil ',' retarget.serial).1 * 100 < MIN_VOLTS then MIN_VOLTS
      else toIntAvr (readStringUntil ',' retarget.serial).1 * 100) = 120000 := by decide
  rw [checkWindow_volts, h, hend] at hvolts
  rw [checkWindow_request] at hrequest
  rw [hloop]
  generalize (readCommand (checkWindow retarget.platform s) retarget.serial).1 = u at *
  have hheard := onBike_volts u throttleHeard
  rw [hid, if_neg Bool.false_ne_true, hvolts] at hheard
  have hcount := onBike_bikeStaleCount u throttleHeard
  have hkept := onBike_request u throttleHeard
  rw [hid, if_neg Bool.false_ne_true] at hkept
  generalize onBike u throttleHeard = w at *
  have hfresh : w.scStaleCount = 1 := congrArg Volts.scStaleCount hheard
  constructor
  · rw [checkStale_volts (by rw [hfresh]; decide) (Or.inr hcount), hheard, hfresh]
    rfl
  · rw [checkStale_request, hkept, hrequest]
    unfold clears
    rw [hfresh, hcount]
    decide

/-- Both buses are heard in one call, which is then ready to make the request. -/
theorem ready_of_both {s : State} {count : Int32} (h : s.volts = ⟨count, 116400, 0, 0, 0⟩) :
    (onCharger p s chargerHeard).volts = ⟨0, 116400, 0, 0, 110000⟩ ∧
      isReadyToCharge { onCharger p s chargerHeard with
        bikeVoltage := monolithHeard.voltage } = true := by
  have hvolts : monolithHeard.voltage = 110000 := by decide
  have hcharger : (onCharger p s chargerHeard).volts = s.volts.onCharger chargerHeard :=
    onCharger_volts p s chargerHeard
  rw [h, onCharger_chargerHeard] at hcharger
  generalize onCharger p s chargerHeard = u at *
  refine ⟨hcharger, ?_⟩
  have hboth : Volts.ready { u.volts with bikeVoltage := monolithHeard.voltage } = true := by
    rw [hcharger, hvolts]
    decide
  exact hboth

/-- The request is made for the end voltage of 116.4 V. -/
theorem request_of_both {s : State} {count : Int32} (h : s.volts = ⟨count, 116400, 0, 0, 0⟩) :
    (onBike (onCharger p s chargerHeard) monolithHeard).request = ⟨tenths 6400, 110000⟩ ∧
      clears (onBike (onCharger p s chargerHeard) monolithHeard) = false := by
  have hvolts : monolithHeard.voltage = 110000 := by decide
  obtain ⟨hcharger, hready⟩ := ready_of_both (p := p) h
  generalize onCharger p s chargerHeard = u at *
  have hrequest := onBike_request_of_ready (by decide) hready
  have hend : u.endVolts = 116400 := congrArg Volts.endVolts hcharger
  have hestimate : u.chargerVoltage = 0 := congrArg Volts.chargerVoltage hcharger
  have hcount := onBike_bikeStaleCount u monolithHeard
  have hheard : (onBike u monolithHeard).volts = u.volts.onBike monolithHeard :=
    onBike_volts u monolithHeard
  rw [hcharger, onBike_monolithHeard] at hheard
  have hfresh : (onBike u monolithHeard).scStaleCount = 0 := congrArg Volts.scStaleCount hheard
  constructor
  · rw [hrequest, hend, hestimate, hvolts]
    rfl
  · unfold clears
    rw [hcount, hfresh]
    decide

theorem request_of_together (before : Nat) (h : before ≤ 30000) :
    (run loop (setup ⟨1500, 116400⟩) (together before)).request = ⟨tenths 6400, 110000⟩ := by
  obtain ⟨_, hsilent⟩ := volts_of_silence h
  unfold together
  rw [run_snoc, loop_of_no_command _ rfl]
  generalize run loop (setup ⟨1500, 116400⟩) (silence before) = s at *
  rw [← checkWindow_volts (finds (some chargerHeard) (some monolithHeard)).platform] at hsilent
  generalize checkWindow _ s = u at *
  have hreceive : receive u (finds (some chargerHeard) (some monolithHeard)) =
      onBike (onCharger ⟨0, fun _ => 0⟩ u chargerHeard) monolithHeard := rfl
  obtain ⟨hrequest, hclears⟩ := request_of_both (p := ⟨0, fun _ => 0⟩) hsilent
  rw [hreceive, checkStale_request hclears, hrequest]

theorem exists_sent {s : State} (h : Sends s) (i : Input) : ∃ msg, (loop s i).sent = some msg :=
  Option.isSome_iff_exists.mp ((sends_iff s i).mpr h)

/-- Both buses at 110.0 V, and then a command for 120.0 V in the last call of the window. -/
def retargeted : List Input := together 21998 ++ [retarget]

theorem state_retargeted :
    (run loop (setup ⟨1500, 116400⟩) retargeted).volts = ⟨2, 120000, 110000, 55000, 110000⟩ ∧
      (run loop (setup ⟨1500, 116400⟩) retargeted).request = ⟨tenths 6400, 110000⟩ := by
  have hvolts := volts_of_together 21998 (by omega)
  have hrequest := request_of_together 21998 (by omega)
  unfold retargeted
  rw [run_snoc]
  generalize run loop (setup ⟨1500, 116400⟩) (together 21998) = s at *
  obtain ⟨hmoved, hkept⟩ := loop_retarget hvolts
  exact ⟨hmoved, hkept.trans hrequest⟩

theorem length_retargeted : retargeted.length = 22000 := by
  have hlength := length_together 21998
  unfold retargeted
  rw [List.length_append, List.length_singleton]
  omega

theorem sends_retargeted : Sends (run loop (setup ⟨1500, 116400⟩) retargeted) := by
  have hends : (retargeted.length : Int) % windowLength = 22000 := by
    rw [length_retargeted]
    unfold windowLength
    omega
  obtain ⟨hwait, _⟩ := counter_of_run ⟨1500, 116400⟩ retargeted
  rw [hends] at hwait
  exact sends_of_counts hwait state_retargeted.1 (by decide) (by decide)

theorem not_follows_of_moved {s : State} {i : Input} {msg : Message} {v : Volts}
    (hvolts : s.volts = v) (hend : v.endVolts = 120000)
    (hrequest : s.request = ⟨tenths 6400, 110000⟩) (hsent : (loop s i).sent = some msg) :
    ¬ Follows s msg := by
  have hendVolts : s.endVolts = 120000 := (congrArg Volts.endVolts hvolts).trans hend
  have hdiff : s.voltageDiff = 110000 := congrArg Request.voltageDiff hrequest
  have hcached : s.desiredOutputVolts = tenths 6400 := congrArg Request.desiredOutputVolts hrequest
  rintro ⟨hcarries, _, _⟩
  rw [voltageOf_sent hsent, hcached] at hcarries
  unfold State.requestedTenths at hcarries
  rw [hendVolts, hdiff] at hcarries
  exact absurd hcarries (by decide)

/-- The command asks for 10.0 V, and the chargers are still asked for 6.4 V: 116.4 V less the
difference of 110.0 V that the first frames make. -/
theorem a_command_before_the_window_ends_is_not_followed :
    ∃ msg, (loop (run loop (setup ⟨1500, 116400⟩) retargeted) (finds none none)).sent = some msg ∧
      ¬ Follows (run loop (setup ⟨1500, 116400⟩) retargeted) msg := by
  obtain ⟨hvolts, hrequest⟩ := state_retargeted
  obtain ⟨msg, hsent⟩ := exists_sent sends_retargeted (finds none none)
  exact ⟨msg, hsent, not_follows_of_moved hvolts rfl hrequest hsent⟩

theorem basisAfter_both (b : Basis) (s : State) :
    basisAfter b s (finds (some chargerHeard) (some monolithHeard)) =
      let u := onCharger ⟨0, fun _ => 0⟩ (checkWindow ⟨0, fun _ => 0⟩ s) chargerHeard
      let c := recomputed b
        { checkWindow ⟨0, fun _ => 0⟩ s with chargerVoltageHolder := reading chargerHeard }
      if clears (onBike u monolithHeard) then ⟨0, 0, 0⟩
      else if hasMonolithVoltage monolithHeard.id then
        recomputed c { u with bikeVoltage := monolithHeard.voltage }
      else c := by
  unfold basisAfter finds
  simp only [List.length_nil, readCommands, Option.elim]

theorem basis_of_together (before : Nat) (h : before ≤ 30000) :
    basis ⟨1500, 116400⟩ (together before) = ⟨116400, 110000, 0⟩ := by
  obtain ⟨_, hsilent⟩ := volts_of_silence h
  have hid : hasMonolithVoltage monolithHeard.id = true := by decide
  unfold together
  rw [basis_snoc, basisAfter_both]
  generalize run loop (setup ⟨1500, 116400⟩) (silence before) = s at *
  rw [← checkWindow_volts ⟨0, fun _ => 0⟩] at hsilent
  generalize checkWindow ⟨0, fun _ => 0⟩ s = u at *
  obtain ⟨hcharger, hready⟩ := ready_of_both (p := ⟨0, fun _ => 0⟩) hsilent
  obtain ⟨_, hclears⟩ := request_of_both (p := ⟨0, fun _ => 0⟩) hsilent
  simp only
  rw [hclears, if_neg Bool.false_ne_true, if_pos hid]
  unfold recomputed
  rw [if_pos hready]
  have hend := congrArg Volts.endVolts hcharger
  have hestimate := congrArg Volts.chargerVoltage hcharger
  exact congrArg₂ (fun v c => Basis.mk v monolithHeard.voltage c) hend hestimate

theorem sameRequest_of_both {s : State} {b : Basis} {v : Volts}
    (hvolts : s.volts = v) (hend : v.endVolts = 116400) (hb : b = ⟨116400, 110000, 0⟩) :
    SameRequest b s ∧ InReach b s := by
  have hendVolts : s.endVolts = 116400 := (congrArg Volts.endVolts hvolts).trans hend
  unfold SameRequest InReach
  rw [hendVolts, hb]
  decide

/-- With no command in between, the first charge command is the one for 116.4 V. -/
theorem the_first_charge_command_follows :
    ∃ msg, (loop (run loop (setup ⟨1500, 116400⟩) (together 21999)) (finds none none)).sent =
        some msg ∧
      Follows (run loop (setup ⟨1500, 116400⟩) (together 21999)) msg := by
  have hvolts := volts_of_together 21999 (by omega)
  have hbasis := basis_of_together 21999 (by omega)
  obtain ⟨msg, hsent⟩ := exists_sent sends_together (finds none none)
  refine ⟨msg, hsent, (the_request_follows_the_end_voltage_iff _ _ _ _ hsent).mpr ?_⟩
  exact sameRequest_of_both hvolts rfl hbasis

end super_charger.charge_monitor
