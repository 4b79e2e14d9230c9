-- A watchdog: a counter of the silent steps in a row, and something that is switched off
-- once the counter is past its limit. Silence switches it off, and only a call wakes it.
import SuperCharger.Runs
import Mathlib.Algebra.Order.Ring.Int

namespace watchdog

open runs

variable {σ ι : Type*} {step : σ → ι → σ} {silent : ι → Prop} {off : σ → Prop} {count : σ → Int}
  {limit : Nat}

/-- It is off, or the counter has counted `k` steps or more and is within the limit. -/
def Counting (off : σ → Prop) (count : σ → Int) (limit k : Nat) (s : σ) : Prop :=
  off s ∨ k ≤ count s ∧ count s ≤ limit

/-- A silent step counts, or switches off. Any other step starts the count again. -/
structure Watches (step : σ → ι → σ) (silent : ι → Prop) (off : σ → Prop) (count : σ → Int)
    (limit : Nat) : Prop where
  counts : ∀ s i k, silent i → Counting off count limit k s →
    Counting off count limit (k + 1) (step s i)
  starts : ∀ s i, ¬ silent i → Counting off count limit 0 (step s i)

theorem Counting.zero {k : Nat} {s : σ} (h : Counting off count limit k s) :
    Counting off count limit 0 s := by
  rcases h with hoff | ⟨hlow, hhigh⟩
  · exact Or.inl hoff
  · exact Or.inr ⟨by omega, hhigh⟩

/-- Whatever a run brings, the watchdog keeps watching. -/
theorem Watches.run (h : Watches step silent off count limit) {s : σ}
    (h0 : Counting off count limit 0 s) (is : List ι) :
    Counting off count limit 0 (runs.run step s is) := by
  refine run_invariant ?_ h0 is
  intro u i hu
  by_cases hi : silent i
  · exact (h.counts u i 0 hi hu).zero
  · exact h.starts u i hi

/-- The steps of a silence are counted one by one. -/
theorem Watches.silence (h : Watches step silent off count limit) {k : Nat} {s : σ}
    (hk : Counting off count limit k s) {gap : List ι} (hgap : ∀ i ∈ gap, silent i) :
    Counting off count limit (k + gap.length) (runs.run step s gap) := by
  induction gap generalizing k s with
  | nil => exact hk
  | cons i gap ih =>
    have hi := h.counts s i k (hgap i (by simp)) hk
    have hrest := ih hi (fun j hj => hgap j (by simp [hj]))
    rw [List.length_cons, Nat.add_comm gap.length 1, ← Nat.add_assoc]
    exact hrest

/-- A silence of more steps than the limit switches off. -/
theorem Watches.off_of_silence (h : Watches step silent off count limit) {s : σ}
    (h0 : Counting off count limit 0 s) {gap : List ι} (hgap : ∀ i ∈ gap, silent i)
    (hlong : limit < gap.length) : off (runs.run step s gap) := by
  rcases h.silence h0 hgap with hoff | ⟨hlow, hhigh⟩
  · exact hoff
  · omega

/-- What is on after a long silence was woken after it. -/
theorem Watches.woken (h : Watches step silent off count limit) {wakes : ι → Prop}
    (hwakes : ∀ s i, ¬ wakes i → off s → off (step s i)) {s : σ}
    (h0 : Counting off count limit 0 s) {before gap after : List ι}
    (hgap : ∀ i ∈ gap, silent i) (hlong : limit < gap.length)
    (hon : ¬ off (runs.run step s (before ++ gap ++ after))) : ∃ i ∈ after, wakes i := by
  by_contra hnone
  apply hon
  have hoff := h.off_of_silence (h.run h0 before) hgap hlong
  rw [run_append, run_append]
  refine run_invariant_of_forall (P := fun i => ¬ wakes i) hwakes hoff ?_
  intro i hi hw
  exact hnone ⟨i, hi, hw⟩

end watchdog
