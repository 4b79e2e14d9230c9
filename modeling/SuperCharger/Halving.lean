-- A value that goes half of the way to a target at every step, in whole numbers: what is left of
-- the way after a number of steps, with the rounding of every one of them.
import Mathlib.Algebra.Order.Ring.Int
import Mathlib.Logic.Function.Iterate

namespace halving

/-- One step, rounded down. -/
def approach (target x : Int) : Int := (target + x) / 2

/-- What is left of the way. -/
def gap (target x : Int) : Nat := (target - x).natAbs

/-- From below the rounding leaves the larger half, and from above the smaller one. -/
theorem gap_approach_le (target x : Int) : gap target (approach target x) ≤ (gap target x + 1) / 2 := by
  unfold gap approach
  omega

/-- A step does not overshoot the target. -/
theorem approach_between (target x : Int) :
    min x target ≤ approach target x ∧ approach target x ≤ max x target := by
  unfold approach
  omega

theorem approach_within {low high target x : Int} (ht : low ≤ target ∧ target ≤ high)
    (hx : low ≤ x ∧ x ≤ high) : low ≤ approach target x ∧ approach target x ≤ high := by
  have h := approach_between target x
  omega

/-- The way is halved at every step, up to one unit. -/
theorem gap_iterate_le (target x : Int) (n : Nat) :
    gap target ((approach target)^[n] x) ≤ gap target x / 2 ^ n + 1 := by
  induction n with
  | zero => simp
  | succ n ih =>
    have hstep := gap_approach_le target ((approach target)^[n] x)
    have hhalf : gap target x / 2 ^ (n + 1) = gap target x / 2 ^ n / 2 := by
      rw [Nat.pow_succ, Nat.div_div_eq_div_mul]
    rw [Function.iterate_succ_apply', hhalf]
    omega

/-- What holds the start and the target holds every value on the way. -/
theorem iterate_within {low high target x : Int} (ht : low ≤ target ∧ target ≤ high)
    (hx : low ≤ x ∧ x ≤ high) (n : Nat) :
    low ≤ (approach target)^[n] x ∧ (approach target)^[n] x ≤ high := by
  induction n with
  | zero => exact hx
  | succ n ih =>
    rw [Function.iterate_succ_apply']
    exact approach_within ht ih

end halving
