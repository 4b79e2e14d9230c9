-- A table of caps walked from the first row to the last: a row that applies
-- brings a value down to its cap when the value is above it.
import Mathlib.Order.Lattice

namespace running_min

variable {α ρ : Type*} [LinearOrder α]

/-- One row of the walk. -/
def capTo (applies : ρ → Prop) [DecidablePred applies] (cap : ρ → α) (acc : α) (row : ρ) : α :=
  if applies row ∧ cap row < acc then cap row else acc

/-- The whole walk. -/
def lowered (applies : ρ → Prop) [DecidablePred applies] (cap : ρ → α) (rows : List ρ)
    (start : α) : α := rows.foldl (capTo applies cap) start

variable {applies : ρ → Prop} [DecidablePred applies] {cap : ρ → α}

theorem capTo_le (acc : α) (row : ρ) : capTo applies cap acc row ≤ acc := by
  unfold capTo
  split
  · rename_i h
    exact le_of_lt h.2
  · exact le_refl acc

theorem capTo_le_cap {acc : α} {row : ρ} (h : applies row) :
    capTo applies cap acc row ≤ cap row := by
  unfold capTo
  split
  · exact le_refl _
  · rename_i hn
    exact not_lt.mp (fun hlt => hn ⟨h, hlt⟩)

/-- The walk never raises the value. -/
theorem lowered_le (rows : List ρ) (start : α) : lowered applies cap rows start ≤ start := by
  induction rows generalizing start with
  | nil => exact le_refl start
  | cons row rows ih => exact le_trans (ih _) (capTo_le start row)

/-- The walk leaves the value at or below the cap of every row that applies, whatever
the order of the rows. -/
theorem lowered_le_cap {rows : List ρ} {row : ρ} (hrow : row ∈ rows) (h : applies row)
    (start : α) : lowered applies cap rows start ≤ cap row := by
  induction rows generalizing start with
  | nil => cases hrow
  | cons first rows ih =>
    rcases List.mem_cons.mp hrow with rfl | hin
    · exact le_trans (lowered_le rows _) (capTo_le_cap h)
    · exact ih hin _

/-- The walk ends at its start, or at the cap of a row that applies. -/
theorem lowered_mem (rows : List ρ) (start : α) :
    lowered applies cap rows start = start ∨
      ∃ row ∈ rows, applies row ∧ lowered applies cap rows start = cap row := by
  induction rows generalizing start with
  | nil => exact Or.inl rfl
  | cons first rows ih =>
    change lowered applies cap rows (capTo applies cap start first) = start ∨
      ∃ row ∈ first :: rows, applies row ∧
        lowered applies cap rows (capTo applies cap start first) = cap row
    rcases ih (capTo applies cap start first) with h | ⟨row, hrow, happlies, h⟩
    · rw [h]
      unfold capTo
      split
      · rename_i hfirst
        exact Or.inr ⟨first, List.mem_cons_self, hfirst.1, rfl⟩
      · exact Or.inl rfl
    · exact Or.inr ⟨row, List.mem_cons_of_mem first hrow, happlies, h⟩

/-- The walk leaves the value alone exactly when no row that applies has a cap below it. -/
theorem lowered_eq_start_iff (rows : List ρ) (start : α) :
    lowered applies cap rows start = start ↔ ∀ row ∈ rows, applies row → start ≤ cap row := by
  constructor
  · intro h row hrow happlies
    rw [← h]
    exact lowered_le_cap hrow happlies start
  · intro h
    have hmem : lowered applies cap rows start = start ∨
        ∃ row ∈ rows, applies row ∧ lowered applies cap rows start = cap row :=
      lowered_mem rows start
    rcases hmem with hstart | ⟨row, hrow, happlies, hcap⟩
    · exact hstart
    · apply le_antisymm (lowered_le rows start)
      rw [hcap]
      exact h row hrow happlies

/-- What is at or below the start and the caps of all rows that apply is at or below the end. -/
theorem le_lowered {rows : List ρ} {start bound : α} (hstart : bound ≤ start)
    (hrows : ∀ row ∈ rows, applies row → bound ≤ cap row) :
    bound ≤ lowered applies cap rows start := by
  have hmem : lowered applies cap rows start = start ∨
      ∃ row ∈ rows, applies row ∧ lowered applies cap rows start = cap row :=
    lowered_mem rows start
  rcases hmem with h | ⟨row, hrow, happlies, h⟩
  · rw [h]
    exact hstart
  · rw [h]
    exact hrows row hrow happlies

/-- The end of a walk is at or below a value exactly when the start or the cap of a row that
applies is. -/
theorem lowered_le_iff (rows : List ρ) (start bound : α) :
    lowered applies cap rows start ≤ bound ↔
      start ≤ bound ∨ ∃ row ∈ rows, applies row ∧ cap row ≤ bound := by
  constructor
  · intro h
    have hmem : lowered applies cap rows start = start ∨
        ∃ row ∈ rows, applies row ∧ lowered applies cap rows start = cap row :=
      lowered_mem rows start
    rcases hmem with hstart | ⟨row, hrow, happlies, hcap⟩
    · exact Or.inl (hstart ▸ h)
    · exact Or.inr ⟨row, hrow, happlies, hcap ▸ h⟩
  · rintro (h | ⟨row, hrow, happlies, h⟩)
    · exact le_trans (lowered_le rows start) h
    · exact le_trans (lowered_le_cap hrow happlies start) h

/-- A walk from a start that is not higher, in which more rows apply, ends no higher. -/
theorem lowered_mono {more : ρ → Prop} [DecidablePred more] {rows : List ρ} {start lower : α}
    (h : ∀ row ∈ rows, applies row → more row) (hle : lower ≤ start) :
    lowered more cap rows lower ≤ lowered applies cap rows start := by
  apply le_lowered
  · exact le_trans (lowered_le rows lower) hle
  · intro row hrow happlies
    exact lowered_le_cap hrow (h row hrow happlies) lower

/-- A walk that applies every row ends where the walk of some rows does exactly when each of the
other rows has a cap at or above the start, or the cap of a row that applies. -/
theorem lowered_all_eq_iff (rows : List ρ) (start : α) :
    lowered (fun _ => True) cap rows start = lowered applies cap rows start ↔
      ∀ row ∈ rows, ¬ applies row →
        start ≤ cap row ∨ ∃ r ∈ rows, applies r ∧ cap r ≤ cap row := by
  constructor
  · intro h row hrow _
    rw [← lowered_le_iff, ← h]
    exact lowered_le_cap hrow trivial start
  · intro h
    apply le_antisymm
    · apply le_lowered (lowered_le rows start)
      intro row hrow _
      exact lowered_le_cap hrow trivial start
    · apply le_lowered (lowered_le rows start)
      intro row hrow _
      by_cases happlies : applies row
      · exact lowered_le_cap hrow happlies start
      · exact (lowered_le_iff rows start (cap row)).mpr (h row hrow happlies)

/-! ## Rows that are not known -/

/-- A number that depends on something unknown through the bounds that it is within: those at which
it is stopped, those that a known row brings it to, and those that an unknown row does, where
`taken` comes off after the rows. No unknown row brings it below `least`. -/
structure UnknownRows {ι : Type*} (value : ι → Nat) (stopped known : Nat → Prop)
    (unknown : ι → Nat → Prop) (taken least : Nat) : Prop where
  le_iff : ∀ p b, value p ≤ b ↔ stopped b ∨ known (b + taken) ∨ unknown p (b + taken)
  stopped_mono : ∀ b c, b ≤ c → stopped b → stopped c
  known_mono : ∀ b c, b ≤ c → known b → known c
  least_le : ∀ p b, unknown p b → least ≤ b

variable {ι : Type*} {value : ι → Nat} {stopped known : Nat → Prop} {unknown : ι → Nat → Prop}
  {taken least : Nat}

/-- When the known rows go as low as any row could, the unknown rows do not matter. -/
theorem UnknownRows.eq_of_known (h : UnknownRows value stopped known unknown taken least)
    (hlow : (∀ p b, ¬ unknown p b) ∨ stopped (least - taken) ∨ known (max least taken)) (p q : ι) :
    value p = value q := by
  have hle : ∀ p q, value p ≤ value q := by
    intro p q
    rw [h.le_iff]
    rcases (h.le_iff q _).mp (Nat.le_refl _) with hstop | hknown | hrow
    · exact Or.inl hstop
    · exact Or.inr (Or.inl hknown)
    · have hleast := h.least_le q _ hrow
      rcases hlow with hnone | hstop | hknown
      · exact absurd hrow (hnone q _)
      · exact Or.inl (h.stopped_mono _ _ (by omega) hstop)
      · exact Or.inr (Or.inl (h.known_mono _ _ (by omega) hknown))
  exact Nat.le_antisymm (hle p q) (hle q p)

/-- Unknown rows that go as low as any row could, beside others that go no lower than the known
ones, matter otherwise. -/
theorem UnknownRows.known_of_eq (h : UnknownRows value stopped known unknown taken least) {p q : ι}
    (hlow : unknown q (max least taken)) (hhigh : ∀ b, unknown p b → known b)
    (heq : value p = value q) : stopped (least - taken) ∨ known (max least taken) := by
  have hsum : least - taken + taken = max least taken := by omega
  have hvalue : value q ≤ least - taken := (h.le_iff q _).mpr (Or.inr (Or.inr (hsum ▸ hlow)))
  rw [← heq, h.le_iff, hsum] at hvalue
  rcases hvalue with hstop | hknown | hrow
  · exact Or.inl hstop
  · exact Or.inr hknown
  · exact Or.inr (hhigh _ hrow)

end running_min
