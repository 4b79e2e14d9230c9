-- Fixed-width integers as C uses them: the numeric value of each
-- conversion between the widths, of a counter, and of equal shares.
-- Signed overflow wraps, as the compilers of small boards do it.
import Mathlib.Algebra.Order.Ring.Int
import Mathlib.Tactic.Common

namespace machine_int

/-! ## Conversions between signed and unsigned words -/

theorem toInt_toInt32 (x : UInt32) : x.toInt32.toInt = (x.toNat : Int).bmod (2 ^ 32) := by
  rw [← Int32.toInt_toBitVec, BitVec.toInt_eq_toNat_bmod]
  rfl

theorem toNat_toUInt32 (x : Int32) : (x.toUInt32.toNat : Int) = x.toInt % 2 ^ 32 := by
  have h : x.toInt = (x.toUInt32.toNat : Int).bmod (2 ^ 32) := toInt_toInt32 x.toUInt32
  have := x.toUInt32.toNat_lt
  rw [h, Int.bmod_def]
  split <;> omega

theorem toInt_toInt16 (x : UInt16) : x.toInt16.toInt = (x.toNat : Int).bmod (2 ^ 16) := by
  rw [← Int16.toInt_toBitVec, BitVec.toInt_eq_toNat_bmod]
  rfl

/-- A word below the sign bit keeps its value when it is read as signed. -/
theorem toInt_toInt32_of_lt {x : UInt32} (h : x.toNat < 2 ^ 31) : x.toInt32.toInt = x.toNat := by
  rw [toInt_toInt32, Int.bmod_def]
  split <;> omega

theorem toInt_toInt16_of_lt {x : UInt16} (h : x.toNat < 2 ^ 15) : x.toInt16.toInt = x.toNat := by
  rw [toInt_toInt16, Int.bmod_def]
  split <;> omega

/-- A signed word that is not negative keeps its value when it is read as unsigned. -/
theorem toNat_toUInt32_of_nonneg {x : Int32} (h : 0 ≤ x.toInt) :
    (x.toUInt32.toNat : Int) = x.toInt := by
  have := x.toInt_lt
  rw [toNat_toUInt32]
  omega

theorem toNat_toUInt16_of_nonneg {x : Int16} (h : 0 ≤ x.toInt) :
    (x.toUInt16.toNat : Int) = x.toInt := by
  have hbmod : x.toInt = (x.toUInt16.toNat : Int).bmod (2 ^ 16) := toInt_toInt16 x.toUInt16
  have := x.toUInt16.toNat_lt
  rw [Int.bmod_def] at hbmod
  split at hbmod <;> omega

/-! ## Promotions -/

/-- `unsigned short` to a 32-bit `int`. -/
def promote (x : UInt16) : Int32 := x.toUInt32.toInt32

@[simp] theorem toInt_promote (x : UInt16) : (promote x).toInt = x.toNat := by
  have := x.toNat_lt
  unfold promote
  rw [toInt_toInt32_of_lt (by rw [UInt16.toNat_toUInt32]; omega), UInt16.toNat_toUInt32]

/-- `long` or `int` to `unsigned short`: the low 16 bits. -/
def truncate (x : Int32) : UInt16 := x.toUInt32.toUInt16

theorem toNat_truncate (x : Int32) : ((truncate x).toNat : Int) = x.toInt % 2 ^ 16 := by
  unfold truncate
  rw [UInt32.toNat_toUInt16]
  have := toNat_toUInt32 x
  omega

/-- A value that fits 16 bits is kept whole. -/
theorem toNat_truncate_of_lt {x : Int32} (h0 : 0 ≤ x.toInt) (h : x.toInt < 2 ^ 16) :
    ((truncate x).toNat : Int) = x.toInt := by
  rw [toNat_truncate]
  omega

theorem toInt_toInt16_of_fits {x : Int32} (h0 : -2 ^ 15 ≤ x.toInt) (h : x.toInt < 2 ^ 15) :
    x.toInt16.toInt = x.toInt := by
  rw [Int32.toInt_toInt16, Int.bmod_def]
  split <;> omega

/-! ## Divisions -/

/-- A signed division of two numbers that are not negative rounds down. -/
theorem toInt_div_of_nonneg {x d : Int32} (h0 : 0 ≤ x.toInt) (hd : 0 < d.toInt) :
    (x / d).toInt = x.toInt / d.toInt := by
  have hlt := x.toInt_lt
  have hdiv : x.toInt.tdiv d.toInt = x.toInt / d.toInt := Int.tdiv_eq_ediv_of_nonneg h0
  have hle : x.toInt / d.toInt ≤ x.toInt := Int.ediv_le_self _ h0
  have hnonneg : 0 ≤ x.toInt / d.toInt := Int.ediv_nonneg h0 (by omega)
  rw [Int32.toInt_div, hdiv, Int.bmod_def]
  split <;> omega

theorem toInt_div_hundred {x : Int32} (h0 : 0 ≤ x.toInt) : (x / 100).toInt = x.toInt / 100 :=
  toInt_div_of_nonneg h0 (by decide)

/-- The quotient fits a `short`. -/
theorem toInt16_div_hundred {x : Int32} (h0 : 0 ≤ x.toInt) (h : x.toInt < 3276800) :
    (x / 100).toInt16.toInt = x.toInt / 100 := by
  have hdiv := toInt_div_hundred h0
  rw [toInt_toInt16_of_fits (by omega) (by omega), hdiv]

/-! ## Counters -/

/-- A counter below the top of its range counts one up. -/
theorem toInt16_succ {x : Int16} (h : x.toInt < 2 ^ 15 - 1) : (x + 1).toInt = x.toInt + 1 := by
  have := x.le_toInt
  rw [Int16.toInt_add]
  simp only [Int16.reduceToInt]
  rw [Int.bmod_def]
  split <;> omega

theorem toInt32_succ {x : Int32} (h : x.toInt < 2 ^ 31 - 1) : (x + 1).toInt = x.toInt + 1 := by
  have := x.le_toInt
  rw [Int32.toInt_add]
  simp only [Int32.reduceToInt]
  rw [Int.bmod_def]
  split <;> omega

/-- A sum that wraps is only smaller. -/
theorem toNat_add_le (x y : UInt32) : (x + y).toNat ≤ x.toNat + y.toNat := by
  rw [UInt32.toNat_add]
  exact Nat.mod_le _ _

/-- A counter that goes down to 0 and no further. -/
theorem toNat_sub_or_zero (x y : UInt32) :
    (if x > y then x - y else 0).toNat = x.toNat - y.toNat := by
  split
  · rename_i habove
    exact UInt32.toNat_sub_of_le _ _ (UInt32.le_of_lt habove)
  · rename_i hbelow
    have hle := UInt32.le_iff_toNat_le.mp (UInt32.not_lt.mp hbelow)
    rw [UInt32.toNat_zero]
    omega

/-- A list that is shorter than the room of a counter is counted without a wrap. -/
theorem toInt_foldl_succ {α : Type*} (xs : List α) (start : Int16)
    (h : start.toInt + xs.length < 2 ^ 15) :
    (xs.foldl (fun n _ => n + 1) start).toInt = start.toInt + xs.length := by
  induction xs generalizing start with
  | nil => simp
  | cons x xs ih =>
    rw [List.length_cons] at h ⊢
    have hfirst := toInt16_succ (x := start) (by omega)
    rw [List.foldl_cons, ih (start + 1) (by omega)]
    omega

/-- A sum over a list that fits 16 bits is taken without a wrap. -/
theorem toNat_foldl_add {α : Type*} (f : α → UInt16) (xs : List α) (start : UInt16)
    (h : start.toNat + (xs.map (fun x => (f x).toNat)).sum < 2 ^ 16) :
    (xs.foldl (fun sum x => sum + f x) start).toNat =
      start.toNat + (xs.map (fun x => (f x).toNat)).sum := by
  induction xs generalizing start with
  | nil => rfl
  | cons x xs ih =>
    rw [List.map_cons, List.sum_cons] at h ⊢
    have hfirst : (start + f x).toNat = start.toNat + (f x).toNat := by
      rw [UInt16.toNat_add]
      exact Nat.mod_eq_of_lt (by omega)
    have hrest := ih (start + f x) (by omega)
    rw [List.foldl_cons, hrest, hfirst, Nat.add_assoc]

/-! ## Equal shares -/

/-- What `n` equal whole shares of `a` come to. -/
def roundDown (n a : Int) : Int := a / n * n

theorem roundDown_le {n a : Int} (hn : 1 ≤ n) : roundDown n a ≤ a :=
  Int.ediv_mul_le a (by omega)

theorem roundDown_nonneg {n a : Int} (hn : 1 ≤ n) (ha : 0 ≤ a) : 0 ≤ roundDown n a :=
  Int.mul_nonneg (Int.ediv_nonneg ha (by omega)) (by omega)

/-- Nothing is left exactly when there is less than one unit for each share. -/
theorem roundDown_le_zero_iff {n a : Int} (hn : 1 ≤ n) (ha : 0 ≤ a) :
    roundDown n a ≤ 0 ↔ a < n := by
  unfold roundDown
  constructor
  · intro h
    by_contra hge
    have hshare : 1 ≤ a / n := (Int.le_ediv_iff_mul_le (by omega)).mpr (by omega)
    have := Int.mul_pos (a := a / n) (b := n) (by omega) (by omega)
    omega
  · intro hlt
    have hnone : a / n = 0 := Int.ediv_eq_zero_of_lt ha hlt
    simp [hnone]

theorem roundDown_mono {n a b : Int} (hn : 1 ≤ n) (h : a ≤ b) : roundDown n a ≤ roundDown n b :=
  Int.mul_le_mul_of_nonneg_right (Int.ediv_le_ediv (by omega) h) (by omega)

end machine_int
