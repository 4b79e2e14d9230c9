-- What the cutback loops of the controllers share: the reads of a table, the
-- cap of a row in watts, and the step that brings the power down to it.
import SuperCharger.MachineInt
import SuperCharger.RunningMin
import Mathlib.Order.Nat

namespace super_charger.derating

open machine_int running_min

/-- What C leaves open: the words that lie past the end of each table, and the quotients of
a division by 0. -/
structure Platform where
  pastVolts : Nat → UInt16
  pastVoltsRate : Nat → UInt32
  pastTemp : Nat → UInt16
  pastTempRate : Nat → UInt32
  pastOverTemp : Nat → UInt16
  pastOverTempRate : Nat → UInt32
  divZero : UInt32
  divZeroInt : Int32

/-- A board with zeros past the tables, where a quotient by 0 is 0. -/
def zeroPlatform : Platform where
  pastVolts _ := 0
  pastVoltsRate _ := 0
  pastTemp _ := 0
  pastTempRate _ := 0
  pastOverTemp _ := 0
  pastOverTempRate _ := 0
  divZero := 0
  divZeroInt := 0

/-- A read of a table with no check of the index. -/
def read {α : Type} (table : List α) (past : Nat → α) (i : Nat) : α := (table[i]?).getD (past i)

/-- Inside the table the read gives the row. -/
theorem read_of_row {α : Type} {table : List α} {i : Nat} {x : α} (h : table[i]? = some x)
    (past : Nat → α) : read table past i = x := by
  unfold read
  rw [h]
  rfl

/-- An unsigned division. -/
def quotient (p : Platform) (a b : UInt32) : UInt32 := if b = 0 then p.divZero else a / b

/-- A signed division. -/
def quotientInt (p : Platform) (a b : Int32) : Int32 := if b = 0 then p.divZeroInt else a / b

/-- What a table header gives: the maximum voltage, the number of rows that the loop walks,
and the voltages and C-rates of the rows. -/
structure VoltageTable where
  OUTPUT_VOLTS_MAX : Int32
  CUTBACK_COUNT : Nat
  OUTPUT_VOLTS_CUTBACK : List UInt16
  OUTPUT_C_RATE_CUTBACK : List UInt32

/-! ## The two divisions -/

/-- The quotient in amps, once it is stored in 16 bits. -/
theorem quotient_toUInt16_le (p : Platform) {watts volts : UInt32} (hv : 0 < volts.toNat) :
    (quotient p watts volts).toUInt16.toNat ≤ watts.toNat / volts.toNat := by
  have hne : volts ≠ 0 := by
    intro h
    rw [h] at hv
    exact absurd hv (by decide)
  unfold quotient
  rw [if_neg hne, UInt32.toNat_toUInt16, UInt32.toNat_div]
  exact Nat.mod_le _ _

theorem quotientInt_promote (p : Platform) (a : UInt16) {n : Int32} (hn : 1 ≤ n.toInt) :
    (quotientInt p (promote a) n).toInt = a.toNat / n.toInt := by
  have ha := a.toNat_lt
  have hne : n ≠ 0 := by
    intro h
    rw [h] at hn
    exact absurd hn (by decide)
  have hdiv : (a.toNat : Int).tdiv n.toInt = a.toNat / n.toInt :=
    Int.tdiv_eq_ediv_of_nonneg (by omega)
  have hle : (a.toNat : Int) / n.toInt ≤ a.toNat := Int.ediv_le_self _ (by omega)
  have h0 : 0 ≤ (a.toNat : Int) / n.toInt := Int.ediv_nonneg (by omega) (by omega)
  unfold quotientInt
  rw [if_neg hne, Int32.toInt_div, toInt_promote, hdiv, Int.bmod_def]
  split <;> omega

/-- The currents of the chargers together, once the share of one is stored in 16 bits. -/
theorem shares_eq_roundDown (p : Platform) (a : UInt16) {n : Int32} (hn : 1 ≤ n.toInt) :
    (truncate (quotientInt p (promote a) n)).toNat * n.toInt = roundDown n.toInt a.toNat := by
  have ha := a.toNat_lt
  have hq := quotientInt_promote p a hn
  have hle : (a.toNat : Int) / n.toInt ≤ a.toNat := Int.ediv_le_self _ (by omega)
  have h0 : 0 ≤ (a.toNat : Int) / n.toInt := Int.ediv_nonneg (by omega) (by omega)
  unfold roundDown
  rw [toNat_truncate_of_lt (by omega) (by omega), hq]

/-! ## The step at the end voltage -/

/-- The step takes three ramps off, as far as the power goes. -/
theorem endStep_toNat (atEnd : Prop) [Decidable atEnd] (watts RAMP_RATE : UInt32) :
    (if atEnd then (if watts > RAMP_RATE * 3 then watts - RAMP_RATE * 3 else 0)
      else watts).toNat = watts.toNat - (if atEnd then (RAMP_RATE * 3).toNat else 0) := by
  by_cases h : atEnd
  · rw [if_pos h, if_pos h]
    exact toNat_sub_or_zero _ _
  · rw [if_neg h, if_neg h, Nat.sub_zero]

/-! ## The cap of a row -/

/-- The local `maxAmps` of a loop. `rate` is unsigned, so the product and the division are. -/
def maxAmps (rate : UInt32) (C_RATE : Int32) (CPlus : UInt32) : Int32 :=
  let maxAmps := (rate * C_RATE.toUInt32 / 10).toInt32
  if CPlus < 1 ∧ maxAmps > C_RATE then C_RATE else maxAmps

/-- The local `maxWatts` of a loop. Its comparison with the station limit is unsigned. -/
def maxWatts (rate : UInt32) (C_RATE : Int32) (CPlus : UInt32) (volts : Int16)
    (MAX_STATION_WATTS : UInt32) : Int32 :=
  let maxWatts := maxAmps rate C_RATE CPlus * volts.toInt32
  if maxWatts.toUInt32 > MAX_STATION_WATTS then MAX_STATION_WATTS.toInt32 else maxWatts

/-- `if (applies && watts > maxWatts) watts = maxWatts`, an unsigned comparison. -/
def lower (applies : Bool) (maxWatts : Int32) (watts : UInt32) : UInt32 :=
  if applies ∧ watts > maxWatts.toUInt32 then maxWatts.toUInt32 else watts

/-- A loop over the rows: those that apply bring the power down to their cap. -/
def cutbackLoop (count : Nat) (applies : Nat → Bool) (cap : Nat → Int32) (watts : UInt32) :
    UInt32 :=
  (List.range count).foldl (fun watts i => lower (applies i) (cap i) watts) watts

/-- No cap is above the station limit, read as unsigned. -/
theorem maxWatts_le_station (rate : UInt32) (C_RATE : Int32) (CPlus : UInt32) (volts : Int16)
    (MAX_STATION_WATTS : UInt32) :
    (maxWatts rate C_RATE CPlus volts MAX_STATION_WATTS).toUInt32 ≤ MAX_STATION_WATTS := by
  unfold maxWatts
  simp only
  split
  · simp
  · rename_i h
    exact UInt32.not_lt.mp h

/-- A rate of 0 gives no amps, unless the C-rate is negative and clamps it. -/
theorem maxAmps_zero {C_RATE : Int32} {CPlus : UInt32} (h : 1 ≤ CPlus ∨ 0 ≤ C_RATE.toInt) :
    maxAmps 0 C_RATE CPlus = 0 := by
  have hzero : (0 * C_RATE.toUInt32 / 10).toInt32 = 0 := by
    rw [UInt32.zero_mul, UInt32.zero_div]
    rfl
  unfold maxAmps
  rw [hzero, if_neg]
  rintro ⟨hplus, habove⟩
  rcases h with h | h
  · exact UInt32.not_lt.mpr h hplus
  · rw [gt_iff_lt, Int32.lt_iff_toInt_lt, Int32.toInt_zero] at habove
    omega

/-- A negative C-rate is below every product, so the clamp gives it for every rate. -/
theorem maxAmps_of_neg (rate : UInt32) {C_RATE : Int32} {CPlus : UInt32} (hplus : CPlus < 1)
    (hneg : C_RATE.toInt < 0) : maxAmps rate C_RATE CPlus = C_RATE := by
  have hlt := (rate * C_RATE.toUInt32).toNat_lt
  have hten : (rate * C_RATE.toUInt32 / 10).toNat = (rate * C_RATE.toUInt32).toNat / 10 :=
    UInt32.toNat_div _ _
  have hint := toInt_toInt32_of_lt (x := rate * C_RATE.toUInt32 / 10) (by omega)
  have habove : (rate * C_RATE.toUInt32 / 10).toInt32 > C_RATE := by
    rw [gt_iff_lt, Int32.lt_iff_toInt_lt]
    omega
  exact if_pos ⟨hplus, habove⟩

/-- No rate has a lower cap than a rate of 0. -/
theorem maxWatts_zero_le (rate : UInt32) (C_RATE : Int32) (CPlus : UInt32) (volts : Int16)
    (MAX_STATION_WATTS : UInt32) :
    (maxWatts 0 C_RATE CPlus volts MAX_STATION_WATTS).toUInt32 ≤
      (maxWatts rate C_RATE CPlus volts MAX_STATION_WATTS).toUInt32 := by
  by_cases h : 1 ≤ CPlus ∨ 0 ≤ C_RATE.toInt
  · have hzero : (maxWatts 0 C_RATE CPlus volts MAX_STATION_WATTS).toUInt32 = 0 := by
      unfold maxWatts
      simp only
      rw [maxAmps_zero h, Int32.zero_mul]
      have hnot : ¬ (0 : Int32).toUInt32 > MAX_STATION_WATTS := UInt32.not_lt.mpr UInt32.zero_le
      rw [if_neg hnot]
      rfl
    rw [hzero]
    exact UInt32.zero_le
  · rw [not_or, UInt32.not_le, not_le] at h
    unfold maxWatts
    rw [maxAmps_of_neg 0 h.1 h.2, maxAmps_of_neg rate h.1 h.2]
    exact UInt32.le_refl _

/-- The C-rate of two capacities that fit a `short`, in tenths of an ampere. -/
theorem c_rate_toInt {m q : Int32} (hm0 : -2 ^ 15 ≤ m.toInt) (hm : m.toInt < 2 ^ 15)
    (hq0 : -2 ^ 15 ≤ q.toInt) (hq : q.toInt < 2 ^ 15) :
    ((m + q) * 10).toInt = (m.toInt + q.toInt) * 10 := by
  rw [Int32.toInt_mul, Int32.toInt_add]
  simp only [Int32.reduceToInt]
  rw [Int.bmod_def, Int.bmod_def]
  split <;> split <;> omega

/-- The amps of a row in whole numbers: its share of the C-rate, and without a CPlus charger no
more than the C-rate. -/
def rowAmps (rate : UInt32) (C_RATE : Int32) (CPlus : UInt32) : Int :=
  if CPlus < 1 then min (rate.toNat * C_RATE.toInt / 10) C_RATE.toInt
  else rate.toNat * C_RATE.toInt / 10

/-- Without a wrap the local of the loop is that number. -/
theorem maxAmps_toInt {rate : UInt32} {C_RATE : Int32} (CPlus : UInt32)
    (h0 : 0 ≤ C_RATE.toInt) (h : rate.toNat * C_RATE.toInt < 2 ^ 31) :
    (maxAmps rate C_RATE CPlus).toInt = rowAmps rate C_RATE CPlus := by
  have hC := toNat_toUInt32_of_nonneg h0
  have hprod : ((rate * C_RATE.toUInt32 / 10).toNat : Int) = rate.toNat * C_RATE.toInt / 10 := by
    have hmul : rate.toNat * C_RATE.toUInt32.toNat < 2 ^ 32 := by
      rw [← hC, ← Int.natCast_mul] at h
      omega
    rw [UInt32.toNat_div, UInt32.toNat_mul, Nat.mod_eq_of_lt hmul]
    push_cast
    rw [hC]
  have hamps := toInt_toInt32_of_lt (x := rate * C_RATE.toUInt32 / 10) (by omega)
  unfold maxAmps rowAmps
  simp only [gt_iff_lt, Int32.lt_iff_toInt_lt]
  by_cases hplus : CPlus < 1
  · rw [if_pos hplus]
    split
    · rename_i habove
      omega
    · rename_i hbelow
      have hle := not_lt.mp (fun habove => hbelow ⟨hplus, habove⟩)
      omega
  · rw [if_neg hplus, if_neg (fun hboth => hplus hboth.1)]
    omega

theorem rowAmps_nonneg (rate : UInt32) {C_RATE : Int32} (CPlus : UInt32)
    (h0 : 0 ≤ C_RATE.toInt) : 0 ≤ rowAmps rate C_RATE CPlus := by
  have hprod : 0 ≤ rate.toNat * C_RATE.toInt / 10 :=
    Int.ediv_nonneg (Int.mul_nonneg (by omega) h0) (by omega)
  unfold rowAmps
  split <;> omega

theorem rowAmps_le (rate : UInt32) (C_RATE : Int32) (CPlus : UInt32) :
    rowAmps rate C_RATE CPlus ≤ rate.toNat * C_RATE.toInt / 10 := by
  unfold rowAmps
  split <;> omega

/-- Without a wrap the cap of a row is at most its amps at the voltage. -/
theorem maxWatts_toNat_le_row {rate : UInt32} {C_RATE : Int32} {volts : Int16} (CPlus : UInt32)
    (MAX_STATION_WATTS : UInt32) (h0 : 0 ≤ C_RATE.toInt)
    (h : rate.toNat * C_RATE.toInt < 2 ^ 31) (hv : 0 ≤ volts.toInt)
    (hw : rate.toNat * C_RATE.toInt / 10 * volts.toInt < 2 ^ 31) :
    ((maxWatts rate C_RATE CPlus volts MAX_STATION_WATTS).toUInt32.toNat : Int) ≤
      rowAmps rate C_RATE CPlus * volts.toInt := by
  have hamps := maxAmps_toInt CPlus h0 h
  have hle := Int.mul_le_mul_of_nonneg_right (rowAmps_le rate C_RATE CPlus) hv
  have hge := Int.mul_nonneg (rowAmps_nonneg rate CPlus h0) hv
  have hmul : (maxAmps rate C_RATE CPlus * volts.toInt32).toInt =
      rowAmps rate C_RATE CPlus * volts.toInt := by
    rw [Int32.toInt_mul, Int16.toInt_toInt32, hamps, Int.bmod_def]
    split <;> omega
  have hnat := toNat_toUInt32_of_nonneg (x := maxAmps rate C_RATE CPlus * volts.toInt32)
    (by omega)
  unfold maxWatts
  simp only
  split
  · rename_i habove
    have hlt := UInt32.lt_iff_toNat_lt.mp habove
    have hsame : MAX_STATION_WATTS.toInt32.toUInt32 = MAX_STATION_WATTS := by simp
    rw [hsame]
    omega
  · omega

theorem maxWatts_toNat_le {rate : UInt32} {C_RATE : Int32} {volts : Int16} (CPlus : UInt32)
    (MAX_STATION_WATTS : UInt32) (h0 : 0 ≤ C_RATE.toInt)
    (h : rate.toNat * C_RATE.toInt < 2 ^ 31) (hv : 0 ≤ volts.toInt)
    (hw : rate.toNat * C_RATE.toInt / 10 * volts.toInt < 2 ^ 31) :
    ((maxWatts rate C_RATE CPlus volts MAX_STATION_WATTS).toUInt32.toNat : Int) ≤
      rate.toNat * C_RATE.toInt / 10 * volts.toInt :=
  le_trans (maxWatts_toNat_le_row CPlus MAX_STATION_WATTS h0 h hv hw)
    (Int.mul_le_mul_of_nonneg_right (rowAmps_le rate C_RATE CPlus) hv)

/-! ## The loop as a running minimum -/

theorem lower_toNat (applies : Bool) (cap : Int32) (watts : UInt32) :
    (lower applies cap watts).toNat =
      capTo (fun _ : Unit => applies = true) (fun _ => cap.toUInt32.toNat) watts.toNat () := by
  unfold lower capTo
  simp only [gt_iff_lt, UInt32.lt_iff_toNat_lt]
  split <;> rfl

theorem foldl_lower_toNat (applies : Nat → Bool) (cap : Nat → Int32) (rows : List Nat)
    (watts : UInt32) :
    (rows.foldl (fun watts i => lower (applies i) (cap i) watts) watts).toNat =
      lowered (fun i => applies i = true) (fun i => (cap i).toUInt32.toNat) rows watts.toNat := by
  induction rows generalizing watts with
  | nil => rfl
  | cons row rows ih =>
    rw [List.foldl_cons, ih, lower_toNat]
    rfl

/-- A loop takes the running minimum of the caps of the rows that apply. -/
theorem cutbackLoop_toNat (count : Nat) (applies : Nat → Bool) (cap : Nat → Int32)
    (watts : UInt32) :
    (cutbackLoop count applies cap watts).toNat =
      lowered (fun i => applies i = true) (fun i => (cap i).toUInt32.toNat) (List.range count)
        watts.toNat := foldl_lower_toNat applies cap _ watts

/-- A loop never raises the power. -/
theorem cutbackLoop_le (count : Nat) (applies : Nat → Bool) (cap : Nat → Int32)
    (watts : UInt32) : cutbackLoop count applies cap watts ≤ watts := by
  rw [UInt32.le_iff_toNat_le, cutbackLoop_toNat]
  exact lowered_le _ _

/-- A loop in which no row applies leaves the power alone. -/
theorem cutbackLoop_of_none {count : Nat} {applies : Nat → Bool} (h : ∀ i < count, applies i = false)
    (cap : Nat → Int32) (watts : UInt32) : cutbackLoop count applies cap watts = watts := by
  rw [← UInt32.toNat_inj, cutbackLoop_toNat, lowered_eq_start_iff]
  intro i hi happlies
  rw [h i (List.mem_range.mp hi)] at happlies
  cases happlies

/-- A loop in which more rows apply leaves no more of a power that is not higher. -/
theorem cutbackLoop_mono {count : Nat} {applies more : Nat → Bool}
    (h : ∀ i, applies i = true → more i = true) (cap : Nat → Int32) {watts lower : UInt32}
    (hle : lower ≤ watts) :
    cutbackLoop count more cap lower ≤ cutbackLoop count applies cap watts := by
  rw [UInt32.le_iff_toNat_le, cutbackLoop_toNat, cutbackLoop_toNat]
  exact lowered_mono (fun i _ => h i) (UInt32.le_iff_toNat_le.mp hle)

/-- A row that applies has a cap of at most this many watts. -/
def CapWithin (count : Nat) (applies : Nat → Bool) (cap : Nat → Int32) (bound : Nat) : Prop :=
  ∃ i < count, applies i = true ∧ (cap i).toUInt32.toNat ≤ bound

/-- A loop leaves the power within a bound exactly when it was, or a row that applies has such a
cap. -/
theorem cutbackLoop_le_iff (count : Nat) (applies : Nat → Bool) (cap : Nat → Int32)
    (watts : UInt32) (bound : Nat) :
    (cutbackLoop count applies cap watts).toNat ≤ bound ↔
      watts.toNat ≤ bound ∨ CapWithin count applies cap bound := by
  have hiff := @lowered_le_iff Nat Nat _ (fun i => applies i = true) _
    (fun i => (cap i).toUInt32.toNat) (List.range count) watts.toNat bound
  rw [cutbackLoop_toNat, hiff]
  unfold CapWithin
  simp only [List.mem_range]

/-- A loop leaves the power at or below the cap of every row that applies. -/
theorem cutbackLoop_le_cap {count i : Nat} {applies : Nat → Bool} {cap : Nat → Int32}
    (hi : i < count) (happlies : applies i = true) (watts : UInt32) :
    cutbackLoop count applies cap watts ≤ (cap i).toUInt32 := by
  rw [UInt32.le_iff_toNat_le, cutbackLoop_toNat]
  let c := fun i => (cap i).toUInt32.toNat
  have hcap : lowered (fun i => applies i = true) c (List.range count) watts.toNat ≤ c i :=
    lowered_le_cap (List.mem_range.mpr hi) happlies _
  exact hcap

/-- A row of the table of rates that applies caps the power, for every loop that is long enough. -/
theorem cutbackLoop_le_row {count i : Nat} {applies : Nat → Bool} {cap : UInt32 → Int32}
    {rates : List UInt32} {past : Nat → UInt32} {rate : UInt32} (hrate : rates[i]? = some rate)
    (hcount : rates.length ≤ count) (happlies : applies i = true) (watts : UInt32) :
    cutbackLoop count applies (fun i => cap (read rates past i)) watts ≤ (cap rate).toUInt32 := by
  have hi : i < count := lt_of_lt_of_le (List.getElem?_eq_some_iff.mp hrate).1 hcount
  have hrow := @cutbackLoop_le_cap count i applies (fun i => cap (read rates past i)) hi happlies
    watts
  rw [← read_of_row hrate past]
  exact hrow

/-- A step under a condition adds nothing to the same step without it. -/
theorem lower_lower (applies : Bool) (maxWatts : Int32) (watts : UInt32) :
    lower true maxWatts (lower applies maxWatts watts) = lower true maxWatts watts := by
  unfold lower
  by_cases hw : watts > maxWatts.toUInt32
  · cases applies
    · simp
    · simp [hw]
  · simp [hw]

end super_charger.derating
