-- A device behind a select line: it answers every byte that it is sent, and what else
-- happens to it in the meantime is its own affair. Asking it again and again until it
-- is ready, with a limit on the number of tries.
import Mathlib.Logic.Function.Iterate
import Mathlib.Tactic.Common

namespace select_line

variable {σ α : Type*}

/-! ## The device -/

/-- What the select line and a byte do to the device, and what may happen while the program
waits. -/
structure Device (σ : Type*) where
  select : σ → σ
  transfer : UInt8 → σ → UInt8 × σ
  unselect : σ → σ
  wait : σ → σ

namespace Device

variable (spi : Device σ)

/-- Bytes that are sent and whose answers nobody keeps. -/
def sends (bytes : List UInt8) (s : σ) : σ := bytes.foldl (fun s b => (spi.transfer b s).2) s

/-- The device after `n` bytes were read from it. -/
def afterReads (n : Nat) (s : σ) : σ := (fun s => (spi.transfer 0 s).2)^[n] s

/-- The `n`-th byte that is read, counted from 0. -/
def reply (n : Nat) (s : σ) : UInt8 := (spi.transfer 0 (spi.afterReads n s)).1

/-- The device is selected for these bytes and no more. -/
def command (bytes : List UInt8) (s : σ) : σ := spi.unselect (spi.sends bytes (spi.select s))

/-- The device is selected, sent these bytes and read once. -/
def ask (bytes : List UInt8) (s : σ) : UInt8 × σ :=
  let r := spi.transfer 0 (spi.sends bytes (spi.select s))
  (r.1, spi.unselect r.2)

/-- A device that answers what it was loaded with, one byte after the other. -/
def playback : Device (List UInt8) where
  select s := s
  transfer _ s := (s.headD 0, s.tail)
  unselect s := s
  wait s := s

theorem reply_playback (k : Nat) (s : List UInt8) : playback.reply k s = s.getD k 0 := by
  have hreads : ∀ n s, playback.afterReads n s = s.drop n := by
    intro n
    induction n with
    | zero => exact fun _ => rfl
    | succ n ih =>
      intro s
      unfold Device.afterReads at ih ⊢
      rw [Function.iterate_succ_apply, ih]
      cases s <;> simp [playback]
  unfold Device.reply
  rw [hreads]
  simp [playback, List.headD_eq_head?_getD, List.head?_drop]

end Device

/-! ## Polling -/

section Polling

variable (ask : σ → Option α × σ) (wait : σ → σ)

/-- `do { … } while (nothing && tries < n)` with a wait before every try but the first: what the
last try gave, the number of tries, and the state after it. -/
def poll : Nat → σ → Option α × Nat × σ
  | 0, s => (none, 0, s)
  | n + 1, s =>
    match ask s with
    | (some a, s') => (some a, 1, s')
    | (none, s') =>
      if n = 0 then (none, 1, s')
      else
        let r := poll n (wait s')
        (r.1, r.2.1 + 1, r.2.2)

/-- The state in which the try after `k` failed ones is made. -/
def tryState (k : Nat) (s : σ) : σ := (fun s => wait (ask s).2)^[k] s

/-- The first try that gives something is the one after `k` others. -/
def FirstSuccess (k : Nat) (a : α) (s : σ) : Prop :=
  (∀ j < k, (ask (tryState ask wait j s)).1 = none) ∧ (ask (tryState ask wait k s)).1 = some a

/-- There is only one first success. -/
theorem firstSuccess_unique {j k : Nat} {a b : α} {s : σ} (hj : FirstSuccess ask wait j a s)
    (hk : FirstSuccess ask wait k b s) : j = k ∧ a = b := by
  obtain hlt | rfl | hlt := Nat.lt_trichotomy j k
  · have := hk.1 j hlt
    rw [hj.2] at this
    cases this
  · have := hj.2.symm.trans hk.2
    exact ⟨rfl, Option.some.inj this⟩
  · have := hj.1 k hlt
    rw [hk.2] at this
    cases this

/-- The tries go on until one gives something. -/
theorem poll_of_firstSuccess {n k : Nat} {a : α} {s : σ} (hk : k < n)
    (h : FirstSuccess ask wait k a s) :
    poll ask wait n s = (some a, k + 1, (ask (tryState ask wait k s)).2) := by
  induction n generalizing k s with
  | zero => omega
  | succ n ih =>
    cases k with
    | zero =>
      have ha : (ask s).1 = some a := h.2
      unfold poll
      split
      · next e => simp_all [tryState]
      · next e => simp_all
    | succ k =>
      have hnone : (ask s).1 = none := h.1 0 (by omega)
      have hrest : FirstSuccess ask wait k a (wait (ask s).2) :=
        ⟨fun j hj => h.1 (j + 1) (by omega), h.2⟩
      unfold poll
      split
      · next e => simp_all
      · next s' e =>
        have hs' : (ask s).2 = s' := by rw [e]
        rw [if_neg (by omega), ← hs', ih (by omega) hrest]
        rfl

/-- When no try gives anything all of them are made. -/
theorem poll_of_none {n : Nat} {s : σ} (h : ∀ j < n + 1, (ask (tryState ask wait j s)).1 = none) :
    poll ask wait (n + 1) s = (none, n + 1, (ask (tryState ask wait n s)).2) := by
  induction n generalizing s with
  | zero =>
    have hnone : (ask s).1 = none := h 0 (by omega)
    unfold poll
    split
    · next e => simp_all
    · next s' e => simp [tryState, e]
  | succ n ih =>
    have hnone : (ask s).1 = none := h 0 (by omega)
    unfold poll
    split
    · next e => simp_all
    · next s' e =>
      have hs' : (ask s).2 = s' := by rw [e]
      rw [if_neg (by omega), ← hs', ih fun j hj => h (j + 1) (by omega)]
      rfl

/-- One of the tries gives something first, or none does. -/
theorem firstSuccess_or_none (n : Nat) (s : σ) :
    (∃ k < n, ∃ a, FirstSuccess ask wait k a s) ∨
      ∀ j < n, (ask (tryState ask wait j s)).1 = none := by
  induction n with
  | zero => exact .inr fun j hj => absurd hj (by omega)
  | succ n ih =>
    obtain ⟨k, hk, a, h⟩ | hnone := ih
    · exact .inl ⟨k, by omega, a, h⟩
    · cases h : (ask (tryState ask wait n s)).1 with
      | some a => exact .inl ⟨n, by omega, a, hnone, h⟩
      | none =>
        refine .inr fun j hj => ?_
        obtain hj | rfl := Nat.lt_succ_iff_lt_or_eq.mp hj
        · exact hnone j hj
        · exact h

/-- The limit is reached exactly when every try before the last fails, whatever the last gives. -/
theorem poll_tries_eq_iff (n : Nat) (s : σ) :
    (poll ask wait (n + 1) s).2.1 = n + 1 ↔ ∀ j < n, (ask (tryState ask wait j s)).1 = none := by
  obtain ⟨k, hk, a, h⟩ | hnone := firstSuccess_or_none ask wait n s
  · rw [poll_of_firstSuccess ask wait (by omega) h]
    constructor
    · intro hlimit
      simp only at hlimit
      omega
    · intro hnone
      have hsome := h.2
      rw [hnone k hk] at hsome
      cases hsome
  · refine ⟨fun _ => hnone, fun _ => ?_⟩
    cases hlast : (ask (tryState ask wait n s)).1 with
    | some a => rw [poll_of_firstSuccess ask wait (by omega) ⟨hnone, hlast⟩]
    | none =>
      rw [poll_of_none]
      intro j hj
      obtain hj | rfl := Nat.lt_succ_iff_lt_or_eq.mp hj
      · exact hnone j hj
      · exact hlast

/-- What every try and every wait keeps, the polling keeps. -/
theorem poll_invariant {P : σ → Prop} (hask : ∀ s, P s → P (ask s).2)
    (hwait : ∀ s, P s → P (wait s)) (n : Nat) {s : σ} (h : P s) : P (poll ask wait n s).2.2 := by
  induction n generalizing s with
  | zero => exact h
  | succ n ih =>
    have hs := hask s h
    unfold poll
    split
    · next e => rwa [e] at hs
    · next s' e =>
      rw [e] at hs
      split
      · exact hs
      · exact ih (hwait _ hs)

end Polling

end select_line
