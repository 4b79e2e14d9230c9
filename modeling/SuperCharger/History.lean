-- The last entry of a kind in a history: what a register holds that every
-- entry of the kind overwrites.
import Mathlib.Data.List.Induction

namespace history

variable {α β : Type*}

/-- The last entry that `p` picks. -/
def lastOf (p : α → Bool) (entries : List α) : Option α := (entries.filter p).getLast?

@[simp] theorem lastOf_nil (p : α → Bool) : lastOf p [] = none := rfl

theorem lastOf_snoc (p : α → Bool) (entries : List α) (x : α) :
    lastOf p (entries ++ [x]) = if p x then some x else lastOf p entries := by
  unfold lastOf
  rw [List.filter_append]
  by_cases h : p x
  · simp [h]
  · simp [h]

theorem lastOf_append (p : α → Bool) (earlier later : List α) :
    lastOf p (earlier ++ later) = (lastOf p later).or (lastOf p earlier) := by
  unfold lastOf
  rw [List.filter_append, List.getLast?_append]

/-- The last entry of either kind is the last of one of them. -/
theorem lastOf_or {p q : α → Bool} (entries : List α) :
    lastOf (fun x => p x || q x) entries = lastOf p entries ∨
      lastOf (fun x => p x || q x) entries = lastOf q entries := by
  induction entries using List.reverseRecOn with
  | nil => simp
  | append_singleton entries x ih =>
    rw [lastOf_snoc, lastOf_snoc, lastOf_snoc]
    cases hp : p x with
    | true => simp
    | false =>
      cases hq : q x with
      | true => simp
      | false => simpa using ih

/-- A register that every entry of the kind overwrites holds the last one's value. -/
theorem register_of_history {σ : Type*} {p : α → Bool} {value : α → β} {step : σ → α → σ}
    {register : σ → β} (hhit : ∀ s x, p x = true → register (step s x) = value x)
    (hmiss : ∀ s x, p x = false → register (step s x) = register s) (s : σ) (entries : List α) :
    register (entries.foldl step s) = ((lastOf p entries).map value).getD (register s) := by
  induction entries using List.reverseRecOn with
  | nil => rfl
  | append_singleton entries x ih =>
    rw [List.foldl_append, lastOf_snoc]
    cases h : p x with
    | true => simpa using hhit _ x h
    | false => simpa [hmiss _ x h] using ih

/-- The rule of a relation to the history: what each entry keeps between the state and the
entries so far, all of them keep. -/
theorem foldl_tracks {σ : Type*} {step : σ → α → σ} {R : σ → List α → Prop} {entries : List α}
    (hstep : ∀ s earlier x, x ∈ entries → R s earlier → R (step s x) (earlier ++ [x]))
    {s : σ} {e : List α} (h : R s e) : R (entries.foldl step s) (e ++ entries) := by
  induction entries generalizing s e with
  | nil => simpa using h
  | cons x entries ih =>
    have hx := hstep s e x List.mem_cons_self h
    have hrest := ih (fun u d y hy => hstep u d y (List.mem_cons_of_mem x hy)) hx
    rw [List.append_assoc] at hrest
    exact hrest

end history
