-- The reads of the cutback tables. `TEMP_CUTBACK_COUNT` is four more than the rows that it counts,
-- so the cold loops of `SC.h` and of `v2.6` read past their tables at every call. When the power
-- and the current depend on what lies there.
import SuperCharger.StationReserve
import SuperCharger.V26Derating

namespace super_charger.derating

open machine_int running_min

/-! ## Reads that are checked -/

/-- A loop over the rows of two tables that fails at a read past the end of one. -/
def checkedLoop (count : Nat) (keys : List UInt16) (rates : List UInt32)
    (row : UInt16 → UInt32 → UInt32 → UInt32) (watts : UInt32) : Option UInt32 :=
  (List.range count).foldlM (fun watts i => do
    let rate ← rates[i]?
    let key ← keys[i]?
    pure (row key rate watts)) watts

theorem checkedLoop_succ (count : Nat) (keys : List UInt16) (rates : List UInt32)
    (row : UInt16 → UInt32 → UInt32 → UInt32) (watts : UInt32) :
    checkedLoop (count + 1) keys rates row watts = (do
      let watts ← checkedLoop count keys rates row watts
      let rate ← rates[count]?
      let key ← keys[count]?
      pure (row key rate watts)) := by
  unfold checkedLoop
  rw [List.range_succ, List.foldlM_append]
  simp

/-- Inside its tables the loop does what the loop without checks does. -/
theorem checkedLoop_of_le {count : Nat} {keys : List UInt16} {rates : List UInt32}
    (hkeys : count ≤ keys.length) (hrates : count ≤ rates.length) (past : Nat → UInt16)
    (pastRate : Nat → UInt32) (row : UInt16 → UInt32 → UInt32 → UInt32) (watts : UInt32) :
    checkedLoop count keys rates row watts = some ((List.range count).foldl
      (fun watts i => row (read keys past i) (read rates pastRate i) watts) watts) := by
  induction count with
  | zero => rfl
  | succ count ih =>
    have hkey := List.getElem?_eq_getElem (Nat.lt_of_succ_le hkeys)
    have hrate := List.getElem?_eq_getElem (Nat.lt_of_succ_le hrates)
    rw [checkedLoop_succ, ih (Nat.le_of_succ_le hkeys) (Nat.le_of_succ_le hrates), hkey, hrate,
      List.range_succ, List.foldl_append]
    simp [read_of_row hkey, read_of_row hrate]

/-- A loop that walks more rows than a table has fails. -/
theorem checkedLoop_of_lt {count : Nat} {keys : List UInt16} {rates : List UInt32}
    (h : keys.length < count) (row : UInt16 → UInt32 → UInt32 → UInt32) (watts : UInt32) :
    checkedLoop count keys rates row watts = none := by
  induction count with
  | zero => exact absurd h (Nat.not_lt_zero _)
  | succ count ih =>
    rw [checkedLoop_succ]
    by_cases hlt : keys.length < count
    · rw [ih hlt]
      rfl
    · rw [List.getElem?_eq_none (by omega : keys.length ≤ count)]
      cases checkedLoop count keys rates row watts with
      | none => rfl
      | some watts => cases rates[count]? <;> rfl

/-! ## Declared rows and the rest -/

/-- A declared row that applies has a cap within the bound. -/
def RowWithin (keys : List UInt16) (rates : List UInt32) (applies : UInt16 → Prop)
    (cap : UInt32 → Int32) (bound : Nat) : Prop :=
  ∃ row ∈ keys.zip rates, applies row.1 ∧ (cap row.2).toUInt32.toNat ≤ bound

/-- A row past the end of the tables applies and has a cap within the bound. -/
def PastWithin (rows count : Nat) (past : Nat → UInt16) (pastRate : Nat → UInt32)
    (applies : UInt16 → Prop) (cap : UInt32 → Int32) (bound : Nat) : Prop :=
  ∃ i, rows ≤ i ∧ i < count ∧ applies (past i) ∧ (cap (pastRate i)).toUInt32.toNat ≤ bound

theorem RowWithin.mono {keys : List UInt16} {rates : List UInt32} {applies : UInt16 → Prop}
    {cap : UInt32 → Int32} {bound more : Nat} (h : RowWithin keys rates applies cap bound)
    (hle : bound ≤ more) : RowWithin keys rates applies cap more := by
  obtain ⟨row, hrow, happlies, hcap⟩ := h
  exact ⟨row, hrow, happlies, Nat.le_trans hcap hle⟩

/-- Past the table the read gives what lies there. -/
theorem read_of_past {α : Type} {table : List α} {i : Nat} (h : table.length ≤ i)
    (past : Nat → α) : read table past i = past i := by
  unfold read
  rw [List.getElem?_eq_none h]
  rfl

/-- The rows of a loop are the declared ones and those past the end. -/
theorem capWithin_read_iff {keys : List UInt16} {rates : List UInt32} {rows count : Nat}
    (hkeys : keys.length = rows) (hrates : rates.length = rows) (hcount : rows ≤ count)
    (past : Nat → UInt16) (pastRate : Nat → UInt32) (applies : UInt16 → Prop)
    [DecidablePred applies] (cap : UInt32 → Int32) (bound : Nat) :
    CapWithin count (fun i => applies (read keys past i)) (fun i => cap (read rates pastRate i))
        bound ↔
      RowWithin keys rates applies cap bound ∨
        PastWithin rows count past pastRate applies cap bound := by
  constructor
  · rintro ⟨i, hi, happlies, hcap⟩
    rw [decide_eq_true_eq] at happlies
    simp only at hcap
    by_cases hrow : i < rows
    · obtain ⟨key, hkey⟩ : ∃ key, keys[i]? = some key := ⟨_, List.getElem?_eq_getElem (hkeys ▸ hrow)⟩
      obtain ⟨rate, hrate⟩ : ∃ rate, rates[i]? = some rate :=
        ⟨_, List.getElem?_eq_getElem (hrates ▸ hrow)⟩
      have hmem : (key, rate) ∈ keys.zip rates :=
        List.mem_of_getElem? (List.getElem?_zip_eq_some.mpr ⟨hkey, hrate⟩)
      rw [read_of_row hkey] at happlies
      rw [read_of_row hrate] at hcap
      exact Or.inl ⟨(key, rate), hmem, happlies, hcap⟩
    · rw [read_of_past (by omega)] at happlies hcap
      exact Or.inr ⟨i, by omega, hi, happlies, hcap⟩
  · rintro (⟨row, hmem, happlies, hcap⟩ | ⟨i, hrow, hi, happlies, hcap⟩)
    · obtain ⟨i, hi⟩ := List.mem_iff_getElem?.mp hmem
      obtain ⟨hkey, hrate⟩ := List.getElem?_zip_eq_some.mp hi
      have hlt := (List.getElem?_eq_some_iff.mp hkey).1
      refine ⟨i, by omega, decide_eq_true ?_, ?_⟩
      · rw [read_of_row hkey]
        exact happlies
      · simp only
        rw [read_of_row hrate]
        exact hcap
    · refine ⟨i, hi, decide_eq_true ?_, ?_⟩
      · rw [read_of_past (by omega)]
        exact happlies
      · simp only
        rw [read_of_past (by omega)]
        exact hcap

/-- On tables that have all the rows that the loop walks only these count. -/
theorem capWithin_read_iff_row {keys : List UInt16} {rates : List UInt32} {count : Nat}
    (hkeys : keys.length = count) (hrates : rates.length = count) (past : Nat → UInt16)
    (pastRate : Nat → UInt32) (applies : UInt16 → Prop) [DecidablePred applies]
    (cap : UInt32 → Int32) (bound : Nat) :
    CapWithin count (fun i => applies (read keys past i)) (fun i => cap (read rates pastRate i))
        bound ↔ RowWithin keys rates applies cap bound := by
  rw [capWithin_read_iff hkeys hrates (Nat.le_refl _)]
  refine or_iff_left ?_
  rintro ⟨i, hrow, hi, -⟩
  omega

/-! ## Memory images -/

/-- Two images of the memory around the tables, on boards with the same quotients by 0. -/
def SameQuotients (p q : Platform) : Prop := p.divZero = q.divZero ∧ p.divZeroInt = q.divZeroInt

/-- Four rows with this temperature and this rate past the cold table. -/
def pastCold (temp : UInt16) (rate : UInt32) : Platform :=
  { zeroPlatform with pastTemp := fun _ => temp, pastTempRate := fun _ => rate }

end super_charger.derating

/-! ## `SC.h` -/

namespace super_charger.sc

open machine_int derating running_min

/-- `VOLTAGE_TABLE_0_BASIC.h`. -/
def basicTable : VoltageTable where
  OUTPUT_VOLTS_MAX := 1400
  CUTBACK_COUNT := 2
  OUTPUT_VOLTS_CUTBACK := [200, 1320]
  OUTPUT_C_RATE_CUTBACK := [30, 1]

/-- The voltage table headers of the library. -/
inductive Header where
  | VOLTAGE_TABLE_ZERO
  | VOLTAGE_TABLE_0_BASIC
deriving DecidableEq

def Header.table : Header → VoltageTable
  | .VOLTAGE_TABLE_ZERO => v3.table
  | .VOLTAGE_TABLE_0_BASIC => basicTable

/-- Their counts are those of their rows. -/
theorem Header.counted (header : Header) :
    0 < header.table.CUTBACK_COUNT ∧
      header.table.OUTPUT_VOLTS_CUTBACK.length = header.table.CUTBACK_COUNT ∧
      header.table.OUTPUT_C_RATE_CUTBACK.length = header.table.CUTBACK_COUNT := by
  cases header <;> decide

/-! ### The loops with checked reads -/

/-- The pack is at the temperature of a row or colder. -/
def State.Colder (s : State) (temp : UInt16) : Prop := s.lowTemp ≤ temp.toInt16

/-- The pack is at the temperature of a row or hotter. -/
def State.Hotter (s : State) (temp : UInt16) : Prop := s.highTemp ≥ temp.toInt16

instance (s : State) : DecidablePred s.Colder := fun temp =>
  inferInstanceAs (Decidable (s.lowTemp ≤ temp.toInt16))

instance (s : State) : DecidablePred s.Hotter := fun temp =>
  inferInstanceAs (Decidable (s.highTemp ≥ temp.toInt16))

def checkedVoltageCutback (t : VoltageTable) (s : State) : Option State := do
  let watts ← checkedLoop t.CUTBACK_COUNT t.OUTPUT_VOLTS_CUTBACK t.OUTPUT_C_RATE_CUTBACK
    (fun volts rate watts => lower true (s.cap rate)
      (lower (s.volts.toInt32 > promote volts) (s.cap rate) watts)) s.watts
  pure { s with watts := watts }

def checkedTempCutback (s : State) : Option State := do
  let watts ← checkedLoop TEMP_CUTBACK_COUNT OUTPUT_TEMP_CUTBACK OUTPUT_TEMP_C_RATE_CUTBACK
    (fun temp rate watts => lower (s.Colder temp) (s.cap rate) watts) s.watts
  pure { s with watts := watts }

def checkedOverTempCutback (s : State) : Option State := do
  let watts ← checkedLoop OVER_TEMP_CUTBACK_COUNT OUTPUT_OVER_TEMP_CUTBACK
    OUTPUT_OVER_TEMP_C_RATE_CUTBACK
    (fun temp rate watts => lower (s.Hotter temp) (s.cap rate) watts) s.watts
  pure { s with watts := watts }

/-- The voltage loop reads no row past its tables. -/
theorem checkedVoltageCutback_eq (header : Header) (p : Platform) (s : State) :
    checkedVoltageCutback header.table s = some (voltageCutback header.table p s) := by
  obtain ⟨-, hkeys, hrates⟩ := header.counted
  unfold checkedVoltageCutback
  rw [checkedLoop_of_le (Nat.le_of_eq hkeys.symm) (Nat.le_of_eq hrates.symm) p.pastVolts
    p.pastVoltsRate]
  rfl

/-- Nor does the hot loop. -/
theorem checkedOverTempCutback_eq (p : Platform) (s : State) :
    checkedOverTempCutback s = some (overTempCutback p s) := by
  unfold checkedOverTempCutback
  rw [checkedLoop_of_le (by decide) (by decide) p.pastOverTemp p.pastOverTempRate]
  rfl

/-- The cold loop does, in every state. -/
theorem checkedTempCutback_eq (s : State) : checkedTempCutback s = none := by
  unfold checkedTempCutback
  rw [checkedLoop_of_lt (by decide)]
  rfl

/-! ### What the power depends on -/

/-- The ramped power, or the cap of a declared row that applies, is within the bound. Every row of
the voltage table applies. -/
def DeclaredWithin (t : VoltageTable) (s : State) (bound : Nat) : Prop :=
  s.ramped.toNat ≤ bound ∨
    RowWithin t.OUTPUT_VOLTS_CUTBACK t.OUTPUT_C_RATE_CUTBACK (fun _ => True) s.cap bound ∨
    RowWithin OUTPUT_TEMP_CUTBACK OUTPUT_TEMP_C_RATE_CUTBACK s.Colder s.cap bound ∨
    RowWithin OUTPUT_OVER_TEMP_CUTBACK OUTPUT_OVER_TEMP_C_RATE_CUTBACK s.Hotter s.cap bound

/-- A row past the cold table applies and has a cap within the bound. -/
def ColdPastWithin (p : Platform) (s : State) (bound : Nat) : Prop :=
  PastWithin OUTPUT_TEMP_CUTBACK.length TEMP_CUTBACK_COUNT p.pastTemp p.pastTempRate s.Colder s.cap
    bound

theorem DeclaredWithin.mono {t : VoltageTable} {s : State} {bound more : Nat}
    (h : DeclaredWithin t s bound) (hle : bound ≤ more) : DeclaredWithin t s more := by
  rcases h with h | h | h | h
  · exact Or.inl (Nat.le_trans h hle)
  · exact Or.inr (Or.inl (h.mono hle))
  · exact Or.inr (Or.inr (Or.inl (h.mono hle)))
  · exact Or.inr (Or.inr (Or.inr (h.mono hle)))

/-- The rows of the cold loop are the declared ones and those past the end. -/
theorem coldWithin_iff (p : Platform) (s : State) (bound : Nat) :
    CapWithin TEMP_CUTBACK_COUNT (coldApplies p s)
        (fun i => s.cap (derating.read OUTPUT_TEMP_C_RATE_CUTBACK p.pastTempRate i)) bound ↔
      RowWithin OUTPUT_TEMP_CUTBACK OUTPUT_TEMP_C_RATE_CUTBACK s.Colder s.cap bound ∨
        ColdPastWithin p s bound :=
  capWithin_read_iff rfl rfl (by decide) p.pastTemp p.pastTempRate s.Colder s.cap bound

theorem hotWithin_iff (p : Platform) (s : State) (bound : Nat) :
    CapWithin OVER_TEMP_CUTBACK_COUNT (hotApplies p s)
        (fun i => s.cap (derating.read OUTPUT_OVER_TEMP_C_RATE_CUTBACK p.pastOverTempRate i))
        bound ↔
      RowWithin OUTPUT_OVER_TEMP_CUTBACK OUTPUT_OVER_TEMP_C_RATE_CUTBACK s.Hotter s.cap bound :=
  capWithin_read_iff_row (by decide) (by decide) p.pastOverTemp p.pastOverTempRate s.Hotter s.cap bound

theorem voltsWithin_iff (header : Header) (p : Platform) (s : State) (bound : Nat) :
    CapWithin header.table.CUTBACK_COUNT (fun _ => true)
        (fun i => s.cap (derating.read header.table.OUTPUT_C_RATE_CUTBACK p.pastVoltsRate i))
        bound ↔
      RowWithin header.table.OUTPUT_VOLTS_CUTBACK header.table.OUTPUT_C_RATE_CUTBACK
        (fun _ => True) s.cap bound := by
  obtain ⟨-, hkeys, hrates⟩ := header.counted
  exact capWithin_read_iff_row hkeys hrates p.pastVolts p.pastVoltsRate (fun _ => True) s.cap bound

theorem hasRoom_iff (header : Header) (p : Platform) (s : State) (bound : Nat) :
    HasRoom header.table p s bound ↔
      DeclaredWithin header.table s (bound + s.taken) ∨ ColdPastWithin p s (bound + s.taken) := by
  unfold HasRoom DeclaredWithin
  rw [voltsWithin_iff, coldWithin_iff, hotWithin_iff]
  tauto

theorem chooseWatts_le_iff_room (header : Header) (p : Platform) (s : State) (bound : Nat) :
    (chooseWatts header.table p s).watts.toNat ≤ bound ↔
      OutOfRange header.table s ∨ HasRoom header.table p s bound := by
  rw [chooseWatts_eq_beforeClamp header.counted.1, beforeClamp_le_iff]

/-- The power of a call, in the past rows that it may find. -/
theorem unknownRows (header : Header) (s : State) :
    UnknownRows (fun p => (chooseWatts header.table p s).watts.toNat)
      (fun _ => OutOfRange header.table s) (DeclaredWithin header.table s)
      (fun p => ColdPastWithin p s) s.taken (s.cap 0).toUInt32.toNat where
  le_iff p b := by rw [chooseWatts_le_iff_room, hasRoom_iff]
  stopped_mono _ _ _ h := h
  known_mono _ _ hle h := h.mono hle
  least_le := by
    rintro p b ⟨i, _, _, _, hcap⟩
    have hleast := maxWatts_zero_le (p.pastTempRate i) s.C_RATE s.CPlus s.volts s.MAX_STATION_WATTS
    exact Nat.le_trans (UInt32.le_iff_toNat_le.mp hleast) hcap

/-- A row of 32767 degrees past the table applies in every state. -/
theorem coldPastWithin_low (s : State) {bound : Nat} (h : (s.cap 0).toUInt32.toNat ≤ bound) :
    ColdPastWithin (pastCold 32767 0) s bound := by
  have hcold : s.Colder 32767 := by
    have hlt := s.lowTemp.toInt_lt
    refine Int16.le_iff_toInt_le.mpr ?_
    have hmax : (32767 : UInt16).toInt16.toInt = 32767 := rfl
    omega
  exact ⟨28, by decide, by decide, hcold, h⟩

/-- Copies of the first row past the table go no lower than the first row. -/
theorem declared_of_copies {t : VoltageTable} {s : State} {bound : Nat}
    (h : ColdPastWithin (pastCold 0 1) s bound) : DeclaredWithin t s bound := by
  obtain ⟨_, _, _, hcold, hcap⟩ := h
  exact Or.inr (Or.inr (Or.inl ⟨(0, 1), by decide, hcold, hcap⟩))

/-- The same power gives the same current. -/
theorem setChargingAmps_congr {t : VoltageTable} {p q : Platform} {s : State}
    (hquotients : SameQuotients p q)
    (h : (chooseWatts t p s).watts = (chooseWatts t q s).watts) :
    setChargingAmps t p s = setChargingAmps t q s := by
  obtain ⟨hdiv, hdivInt⟩ := hquotients
  obtain ⟨w, hw⟩ := chooseWatts_frame t p s
  obtain ⟨w', hw'⟩ := chooseWatts_frame t q s
  rw [hw, hw'] at h
  simp only at h
  unfold setChargingAmps wattsToAmps quotient
  rw [hw, hw', h, hdiv]
  unfold shareAmps quotientInt
  rw [hdivInt]

/-- A call leaves the same power and the same current in every two images of the memory that have
the same declared rows. -/
def FromTables (t : VoltageTable) (s : State) : Prop :=
  ∀ p q, SameQuotients p q →
    (setChargingAmps t p s).watts = (setChargingAmps t q s).watts ∧
      (setChargingAmps t p s).chargingAmps = (setChargingAmps t q s).chargingAmps

/-- The voltage is out of range, or the declared rows go as low as a rate of 0 or as what the end
voltage takes off. -/
def DeclaredDecide (t : VoltageTable) (s : State) : Prop :=
  OutOfRange t s ∨ DeclaredWithin t s (max (s.cap 0).toUInt32.toNat s.taken)

/-- The rows past the cold table do not matter exactly when the declared ones decide. -/
theorem fromTables_iff (header : Header) (s : State) :
    FromTables header.table s ↔ DeclaredDecide header.table s := by
  constructor
  · intro h
    have hwatts := (h (pastCold 0 1) (pastCold 32767 0) ⟨rfl, rfl⟩).1
    rw [setChargingAmps_eq, setChargingAmps_eq] at hwatts
    simp only at hwatts
    exact (unknownRows header s).known_of_eq (coldPastWithin_low s (Nat.le_max_left _ _))
      (fun _ => declared_of_copies) (congrArg UInt32.toNat hwatts)
  · intro h p q hquotients
    have hnat := (unknownRows header s).eq_of_known (Or.inr h) p q
    rw [setChargingAmps_congr hquotients (UInt32.toNat_inj.mp hnat)]
    exact ⟨rfl, rfl⟩

end super_charger.sc

/-! ## `v2.6` -/

namespace super_charger.v26

open machine_int derating running_min

/-! ### The loops with checked reads -/

instance (s : State) : DecidablePred s.Above := fun volts =>
  inferInstanceAs (Decidable (s.volts.toInt32 > promote volts))

instance (s : State) : DecidablePred s.Colder := fun temp =>
  inferInstanceAs (Decidable (s.monolithMinTemp < temp.toInt16.toInt32 ∨
    s.powerTankAH > 0 ∧ s.powerTankMinTemp < temp.toInt16.toInt32))

instance (s : State) : DecidablePred s.Hotter := fun temp =>
  inferInstanceAs (Decidable (s.monolithMaxTemp > temp.toInt16.toInt32 ∨
    s.powerTankAH > 0 ∧ s.powerTankMaxTemp > temp.toInt16.toInt32))

def checkedVoltageCutback (s : State) : Option State := do
  let watts ← checkedLoop table.CUTBACK_COUNT table.OUTPUT_VOLTS_CUTBACK table.OUTPUT_C_RATE_CUTBACK
    (fun volts rate watts => lower (s.Above volts) (s.cap rate) watts) s.watts
  pure { s with watts := watts }

def checkedTempCutback (s : State) : Option State := do
  let watts ← checkedLoop TEMP_CUTBACK_COUNT OUTPUT_TEMP_CUTBACK OUTPUT_TEMP_C_RATE_CUTBACK
    (fun temp rate watts => lower (s.Colder temp) (s.cap rate) watts) s.watts
  pure { s with watts := watts }

def checkedOverTempCutback (s : State) : Option State := do
  let watts ← checkedLoop OVER_TEMP_CUTBACK_COUNT OUTPUT_OVER_TEMP_CUTBACK
    OUTPUT_OVER_TEMP_C_RATE_CUTBACK
    (fun temp rate watts => lower (s.Hotter temp) (s.cap rate) watts) s.watts
  pure { s with watts := watts }

theorem checkedVoltageCutback_eq (p : Platform) (s : State) :
    checkedVoltageCutback s = some (voltageCutback table p s) := by
  unfold checkedVoltageCutback
  rw [checkedLoop_of_le (by decide) (by decide) p.pastVolts p.pastVoltsRate]
  rfl

theorem checkedOverTempCutback_eq (p : Platform) (s : State) :
    checkedOverTempCutback s = some (overTempCutback p s) := by
  unfold checkedOverTempCutback
  rw [checkedLoop_of_le (by decide) (by decide) p.pastOverTemp p.pastOverTempRate]
  rfl

theorem checkedTempCutback_eq (s : State) : checkedTempCutback s = none := by
  unfold checkedTempCutback
  rw [checkedLoop_of_lt (by decide)]
  rfl

/-! ### What the power depends on -/

/-- The power after the ramp. -/
def State.ramped (s : State) : UInt32 :=
  if s.watts < s.MAX_STATION_WATTS then s.watts + s.RAMP_RATE else s.watts

/-- The ramped power, or the cap of a declared row that applies, is within the bound. -/
def DeclaredWithin (s : State) (bound : Nat) : Prop :=
  s.ramped.toNat ≤ bound ∨
    RowWithin table.OUTPUT_VOLTS_CUTBACK table.OUTPUT_C_RATE_CUTBACK s.Above s.cap bound ∨
    RowWithin OUTPUT_TEMP_CUTBACK OUTPUT_TEMP_C_RATE_CUTBACK s.Colder s.cap bound ∨
    RowWithin OUTPUT_OVER_TEMP_CUTBACK OUTPUT_OVER_TEMP_C_RATE_CUTBACK s.Hotter s.cap bound

/-- A row past the cold table applies and has a cap within the bound. -/
def ColdPastWithin (p : Platform) (s : State) (bound : Nat) : Prop :=
  PastWithin OUTPUT_TEMP_CUTBACK.length TEMP_CUTBACK_COUNT p.pastTemp p.pastTempRate s.Colder s.cap
    bound

/-- The choice of the power stops at this bound whatever the rows are. -/
def StopsWithin (s : State) (bound : Nat) : Prop :=
  s.volts.toInt32 ≤ OUTPUT_VOLTS_MIN ∨ s.MAX_STATION_WATTS.toNat ≤ bound

theorem rampUp_eq (s : State) : rampUp s = { s with watts := s.ramped } := by
  unfold rampUp State.ramped
  split <;> rfl

theorem DeclaredWithin.mono {s : State} {bound more : Nat} (h : DeclaredWithin s bound)
    (hle : bound ≤ more) : DeclaredWithin s more := by
  rcases h with h | h | h | h
  · exact Or.inl (Nat.le_trans h hle)
  · exact Or.inr (Or.inl (h.mono hle))
  · exact Or.inr (Or.inr (Or.inl (h.mono hle)))
  · exact Or.inr (Or.inr (Or.inr (h.mono hle)))

theorem coldWithin_iff (p : Platform) (s : State) (bound : Nat) :
    CapWithin TEMP_CUTBACK_COUNT (coldApplies p s)
        (fun i => s.cap (derating.read OUTPUT_TEMP_C_RATE_CUTBACK p.pastTempRate i)) bound ↔
      RowWithin OUTPUT_TEMP_CUTBACK OUTPUT_TEMP_C_RATE_CUTBACK s.Colder s.cap bound ∨
        ColdPastWithin p s bound :=
  capWithin_read_iff rfl rfl (by decide) p.pastTemp p.pastTempRate s.Colder s.cap bound

theorem hotWithin_iff (p : Platform) (s : State) (bound : Nat) :
    CapWithin OVER_TEMP_CUTBACK_COUNT (hotApplies p s)
        (fun i => s.cap (derating.read OUTPUT_OVER_TEMP_C_RATE_CUTBACK p.pastOverTempRate i))
        bound ↔
      RowWithin OUTPUT_OVER_TEMP_CUTBACK OUTPUT_OVER_TEMP_C_RATE_CUTBACK s.Hotter s.cap bound :=
  capWithin_read_iff_row (by decide) (by decide) p.pastOverTemp p.pastOverTempRate s.Hotter s.cap bound

theorem voltsWithin_iff (p : Platform) (s : State) (bound : Nat) :
    CapWithin table.CUTBACK_COUNT (voltsApply table p s)
        (fun i => s.cap (derating.read table.OUTPUT_C_RATE_CUTBACK p.pastVoltsRate i)) bound ↔
      RowWithin table.OUTPUT_VOLTS_CUTBACK table.OUTPUT_C_RATE_CUTBACK s.Above s.cap bound :=
  capWithin_read_iff_row (by decide) (by decide) p.pastVolts p.pastVoltsRate s.Above s.cap bound

theorem afterVolts_le_iff (p : Platform) (s : State) (bound : Nat) :
    (afterVolts p s).toNat ≤ bound ↔
      s.ramped.toNat ≤ bound ∨
        RowWithin table.OUTPUT_VOLTS_CUTBACK table.OUTPUT_C_RATE_CUTBACK s.Above s.cap bound := by
  unfold afterVolts
  rw [rampUp_eq]
  unfold voltageCutback
  simp only
  rw [cutbackLoop_le_iff]
  exact or_congr_right (voltsWithin_iff p s bound)

theorem afterLoops_le_iff (p : Platform) (s : State) (bound : Nat) :
    (afterLoops p s).toNat ≤ bound ↔ DeclaredWithin s bound ∨ ColdPastWithin p s bound := by
  unfold afterLoops DeclaredWithin
  rw [cutbackLoop_le_iff, cutbackLoop_le_iff, afterVolts_le_iff, coldWithin_iff, hotWithin_iff]
  tauto

theorem chooseWatts_le_iff (p : Platform) (s : State) (bound : Nat) :
    (chooseWatts p s).watts.toNat ≤ bound ↔
      StopsWithin s bound ∨ DeclaredWithin s (bound + s.taken) ∨
        ColdPastWithin p s (bound + s.taken) := by
  rw [← afterLoops_le_iff, chooseWatts_toNat]
  unfold StopsWithin
  by_cases hmin : s.volts.toInt32 ≤ OUTPUT_VOLTS_MIN
  · rw [if_pos hmin, Nat.min_zero]
    exact iff_of_true (Nat.zero_le _) (Or.inl (Or.inl hmin))
  · rw [if_neg hmin, or_iff_right hmin]
    omega

/-- The power of a call, in the past rows that it may find. -/
theorem unknownRows (s : State) :
    UnknownRows (fun p => (chooseWatts p s).watts.toNat) (StopsWithin s) (DeclaredWithin s)
      (fun p => ColdPastWithin p s) s.taken (s.cap 0).toUInt32.toNat where
  le_iff p b := chooseWatts_le_iff p s b
  stopped_mono _ _ hle h := h.imp_right fun hlimit => Nat.le_trans hlimit hle
  known_mono _ _ hle h := h.mono hle
  least_le := by
    rintro p b ⟨i, _, _, _, hcap⟩
    have hleast := maxWatts_zero_le (p.pastTempRate i) s.C_RATE s.CPlus s.volts s.MAX_STATION_WATTS
    exact Nat.le_trans (UInt32.le_iff_toNat_le.mp hleast) hcap

/-- No `short` is a higher temperature, so a pack that is colder than a row is colder than this. -/
theorem colder_max {s : State} {temp : UInt16} (h : s.Colder temp) : s.Colder 32767 := by
  have hmax : ∀ {low : Int32}, low < temp.toInt16.toInt32 →
      low < (32767 : UInt16).toInt16.toInt32 := by
    intro low hlow
    have hlt := temp.toInt16.toInt_lt
    have htop : (32767 : UInt16).toInt16.toInt32.toInt = 32767 := rfl
    rw [Int32.lt_iff_toInt_lt, Int16.toInt_toInt32] at hlow
    rw [Int32.lt_iff_toInt_lt, htop]
    omega
  exact h.imp hmax (And.imp_right hmax)

/-- Copies of the first row past the table go no lower than the first row. -/
theorem declared_of_copies {s : State} {bound : Nat} (h : ColdPastWithin (pastCold 0 2) s bound) :
    DeclaredWithin s bound := by
  obtain ⟨_, _, _, hcold, hcap⟩ := h
  exact Or.inr (Or.inr (Or.inl ⟨(0, 2), by decide, hcold, hcap⟩))

/-- The same power gives the same current. -/
theorem setChargingAmps_congr {p q : Platform} {s : State} (hquotients : SameQuotients p q)
    (h : (chooseWatts p (refresh s)).watts = (chooseWatts q (refresh s)).watts) :
    setChargingAmps p s = setChargingAmps q s := by
  obtain ⟨hdiv, hdivInt⟩ := hquotients
  obtain ⟨w, hw⟩ := chooseWatts_onlyWatts p (refresh s)
  obtain ⟨w', hw'⟩ := chooseWatts_onlyWatts q (refresh s)
  rw [hw, hw'] at h
  simp only at h
  unfold setChargingAmps wattsToAmps quotient
  rw [hw, hw', h, hdiv]
  unfold shareAmps quotientInt
  rw [hdivInt]

/-- A call leaves the same power and the same current in every two images of the memory that have
the same declared rows. -/
def FromTables (s : State) : Prop :=
  ∀ p q, SameQuotients p q →
    (setChargingAmps p s).watts = (setChargingAmps q s).watts ∧
      (setChargingAmps p s).chargingAmps = (setChargingAmps q s).chargingAmps

/-- No temperature is above that of the packs, or the power stops within a rate of 0 whatever the
rows are, or the declared rows go as low as a rate of 0 or as what the end voltage takes off. -/
def DeclaredDecide (s : State) : Prop :=
  ¬ s.Colder 32767 ∨ StopsWithin s ((s.cap 0).toUInt32.toNat - s.taken) ∨
    DeclaredWithin s (max (s.cap 0).toUInt32.toNat s.taken)

theorem chooseWatts_of_declared {s : State} (h : DeclaredDecide s) (p q : Platform) :
    (chooseWatts p s).watts = (chooseWatts q s).watts := by
  refine UInt32.toNat_inj.mp ((unknownRows s).eq_of_known (h.imp_left ?_) p q)
  rintro hwarm p b ⟨_, _, _, hcold, _⟩
  exact hwarm (colder_max hcold)

theorem declared_of_same {s : State}
    (h : (chooseWatts (pastCold 0 2) s).watts = (chooseWatts (pastCold 32767 0) s).watts) :
    DeclaredDecide s := by
  by_cases hcold : s.Colder 32767
  · have hlow : ColdPastWithin (pastCold 32767 0) s (max (s.cap 0).toUInt32.toNat s.taken) :=
      ⟨28, by decide, by decide, hcold, Nat.le_max_left _ _⟩
    exact Or.inr ((unknownRows s).known_of_eq hlow (fun _ => declared_of_copies)
      (congrArg UInt32.toNat h))
  · exact Or.inl hcold

/-- The rows past the cold table do not matter exactly when the declared ones decide. -/
theorem fromTables_iff (s : State) : FromTables s ↔ DeclaredDecide (refresh s) := by
  constructor
  · intro h
    have hwatts := (h (pastCold 0 2) (pastCold 32767 0) ⟨rfl, rfl⟩).1
    rw [setChargingAmps_eq, setChargingAmps_eq] at hwatts
    simp only at hwatts
    exact declared_of_same hwatts
  · intro h p q hquotients
    rw [setChargingAmps_congr hquotients (chooseWatts_of_declared h p q)]
    exact ⟨rfl, rfl⟩

end super_charger.v26

/-! ## The law of the reads -/

namespace super_charger.table_reads

open machine_int derating

/-- A call depends on the declared rows only, exactly when these decide in the state of the loops;
the voltage and the hot loops read no other rows, and the cold loops do at every call. -/
theorem the_power_comes_from_the_declared_rows_iff (header : sc.Header) (s : sc.State)
    (u : v26.State) :
    (sc.FromTables header.table s ↔ sc.DeclaredDecide header.table s) ∧
    (v26.FromTables u ↔ v26.DeclaredDecide (v26.refresh u)) ∧
    (∀ p, sc.checkedVoltageCutback header.table s = some (sc.voltageCutback header.table p s) ∧
      sc.checkedOverTempCutback s = some (sc.overTempCutback p s) ∧
      v26.checkedVoltageCutback u = some (v26.voltageCutback v26.table p u) ∧
      v26.checkedOverTempCutback u = some (v26.overTempCutback p u)) ∧
    sc.checkedTempCutback s = none ∧ v26.checkedTempCutback u = none := by
  refine ⟨sc.fromTables_iff header s, v26.fromTables_iff u, fun p => ⟨?_, ?_, ?_, ?_⟩, ?_, ?_⟩
  · exact sc.checkedVoltageCutback_eq header p s
  · exact sc.checkedOverTempCutback_eq p s
  · exact v26.checkedVoltageCutback_eq p u
  · exact v26.checkedOverTempCutback_eq p u
  · exact sc.checkedTempCutback_eq s
  · exact v26.checkedTempCutback_eq u

/-- A pack of 96 Ah at 25 degrees and 100.0 V on one charger. -/
def mildPack : sc.State :=
  { sc.globals v3.table 960 with
    watts := 300000
    volts := 1000
    chargerCount := 1
    lowTemp := 25
    highTemp := 25 }

/-- The same pack under `v2.6`. -/
def mildBattery : v26.State :=
  { v26.setup v26.usualSettings with
    watts := 300000
    volts := 1000
    monolithMinTemp := 25
    monolithMaxTemp := 25 }

/-- A row of 26 degrees and C/10 past the cold table halves the current of the one and takes two
thirds of the current of the other. -/
theorem a_row_past_the_table_lowers_the_current :
    (sc.setChargingAmps v3.table zeroPlatform mildPack).watts = 192000 ∧
    (sc.setChargingAmps v3.table zeroPlatform mildPack).chargingAmps = 192 ∧
    (sc.setChargingAmps v3.table (pastCold 26 1) mildPack).watts = 96000 ∧
    (sc.setChargingAmps v3.table (pastCold 26 1) mildPack).chargingAmps = 96 ∧
    (v26.setChargingAmps zeroPlatform mildBattery).watts = 305000 ∧
    (v26.setChargingAmps zeroPlatform mildBattery).chargingAmps = 305 ∧
    (v26.setChargingAmps (pastCold 26 1) mildBattery).watts = 96000 ∧
    (v26.setChargingAmps (pastCold 26 1) mildBattery).chargingAmps = 96 ∧
    ¬ sc.FromTables v3.table mildPack ∧ ¬ v26.FromTables mildBattery := by
  have hzero : (sc.setChargingAmps v3.table zeroPlatform mildPack).watts = 192000 := by
    decide +kernel
  have hpast : (sc.setChargingAmps v3.table (pastCold 26 1) mildPack).watts = 96000 := by
    decide +kernel
  have hzero26 : (v26.setChargingAmps zeroPlatform mildBattery).watts = 305000 := by
    decide +kernel
  have hpast26 : (v26.setChargingAmps (pastCold 26 1) mildBattery).watts = 96000 := by
    decide +kernel
  refine ⟨hzero, by decide +kernel, hpast, by decide +kernel, hzero26, by decide +kernel, hpast26,
    by decide +kernel, ?_, ?_⟩
  · intro h
    have hsame := (h zeroPlatform (pastCold 26 1) ⟨rfl, rfl⟩).1
    rw [hzero, hpast] at hsame
    exact absurd hsame (by decide)
  · intro h
    have hsame := (h zeroPlatform (pastCold 26 1) ⟨rfl, rfl⟩).1
    rw [hzero26, hpast26] at hsame
    exact absurd hsame (by decide)

end super_charger.table_reads
