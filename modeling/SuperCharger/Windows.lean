-- A periodic window over a history: the entries since a counter was last reset,
-- when every `period`-th step resets it before it takes the entry of the step.
import Mathlib.Tactic.Common
import Mathlib.Algebra.Order.Group.Nat

namespace windows

variable {α : Type*}

/-- The entries since the last reset. The entry of the step that resets is among them. -/
def sinceReset (period : Nat) (entries : List α) : List α :=
  entries.drop (entries.length / period * period - 1)

/-- Nothing has been reset in the first window. -/
theorem sinceReset_of_lt {period : Nat} {entries : List α} (h : entries.length < period) :
    sinceReset period entries = entries := by
  unfold sinceReset
  rw [Nat.div_eq_of_lt h]
  simp

theorem sinceReset_snoc_of_dvd {period : Nat} {entries : List α} (x : α)
    (h : period ∣ entries.length + 1) : sinceReset period (entries ++ [x]) = [x] := by
  unfold sinceReset
  rw [List.length_append, List.length_singleton, Nat.div_mul_cancel h]
  simp

theorem sinceReset_snoc_of_not_dvd {period : Nat} {entries : List α} (x : α)
    (h : ¬ period ∣ entries.length + 1) :
    sinceReset period (entries ++ [x]) = sinceReset period entries ++ [x] := by
  have hle := Nat.div_mul_le_self entries.length period
  unfold sinceReset
  rw [List.length_append, List.length_singleton, Nat.succ_div_of_not_dvd h,
    List.drop_append_of_le_length (by omega)]

end windows
