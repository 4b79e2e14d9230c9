-- Runs of a machine that takes one input at a time. A property of a whole
-- run comes from an invariant: what the start has and every step keeps.
import Mathlib.Tactic.Common

namespace runs

variable {σ ι : Type*} {step : σ → ι → σ}

/-- The state that a run of inputs ends in. -/
def run (step : σ → ι → σ) (s : σ) (is : List ι) : σ := is.foldl step s

/-- `Q` holds at every step of the run: of the state before it and its input. -/
def Always (step : σ → ι → σ) (Q : σ → ι → Prop) : σ → List ι → Prop
  | _, [] => True
  | s, i :: is => Q s i ∧ Always step Q (step s i) is

instance decidableAlways {Q : σ → ι → Prop} [∀ s i, Decidable (Q s i)] :
    ∀ (s : σ) (is : List ι), Decidable (Always step Q s is)
  | _, [] => isTrue trivial
  | s, i :: is =>
    have := decidableAlways (Q := Q) (step s i) is
    inferInstanceAs (Decidable (Q s i ∧ Always step Q (step s i) is))

@[simp] theorem run_nil (s : σ) : run step s [] = s := rfl

@[simp] theorem run_cons (s : σ) (i : ι) (is : List ι) :
    run step s (i :: is) = run step (step s i) is := rfl

theorem run_append (s : σ) (is js : List ι) :
    run step s (is ++ js) = run step (run step s is) js := List.foldl_append

theorem run_snoc (s : σ) (is : List ι) (i : ι) :
    run step s (is ++ [i]) = step (run step s is) i := by
  rw [run_append]
  rfl

/-- A value that is carried along beside the state does not disturb the run. -/
theorem fst_foldl_beside {γ : Type*} (next : γ → σ → ι → γ) (s : σ) (g : γ) (is : List ι) :
    (is.foldl (fun q i => (step q.1 i, next q.2 q.1 i)) (s, g)).1 = run step s is := by
  induction is generalizing s g with
  | nil => rfl
  | cons i is ih => exact ih _ _

theorem always_append (Q : σ → ι → Prop) (s : σ) (is js : List ι) :
    Always step Q s (is ++ js) ↔ Always step Q s is ∧ Always step Q (run step s is) js := by
  induction is generalizing s with
  | nil => simp [Always]
  | cons i is ih => simp [Always, ih, and_assoc]

/-- Two properties that agree at every step agree on every run. -/
theorem always_congr {P Q : σ → ι → Prop} (h : ∀ s i, P s i ↔ Q s i) (s : σ) (is : List ι) :
    Always step P s is ↔ Always step Q s is := by
  induction is generalizing s with
  | nil => rfl
  | cons i is ih => exact and_congr (h s i) (ih _)

theorem always_mono {P Q : σ → ι → Prop} (h : ∀ s i, P s i → Q s i) {s : σ} {is : List ι}
    (hP : Always step P s is) : Always step Q s is := by
  induction is generalizing s with
  | nil => trivial
  | cons i is ih => exact ⟨h s i hP.1, ih hP.2⟩

/-- What holds of every input in whatever state holds at every step. -/
theorem always_of_inputs {Q : σ → ι → Prop} {is : List ι} (h : ∀ i ∈ is, ∀ s, Q s i) (s : σ) :
    Always step Q s is := by
  induction is generalizing s with
  | nil => trivial
  | cons i is ih => exact ⟨h i (by simp) s, ih (fun j hj => h j (by simp [hj])) _⟩

/-- What depends on the inputs alone holds at every step when it holds of every input. -/
theorem always_iff_forall {P : ι → Prop} {Q : σ → ι → Prop} (h : ∀ s i, Q s i ↔ P i) (s : σ)
    (is : List ι) : Always step Q s is ↔ ∀ i ∈ is, P i := by
  induction is generalizing s with
  | nil => simp [Always]
  | cons i is ih => simp [Always, h, ih]

theorem always_and {P Q : σ → ι → Prop} {s : σ} {is : List ι} (hP : Always step P s is)
    (hQ : Always step Q s is) : Always step (fun s i => P s i ∧ Q s i) s is := by
  induction is generalizing s with
  | nil => trivial
  | cons i is ih => exact ⟨⟨hP.1, hQ.1⟩, ih hP.2 hQ.2⟩

/-- What holds of every input, and what holds at every step, hold together at every step. -/
theorem always_of_forall {P : ι → Prop} {Q : σ → ι → Prop} {s : σ} {is : List ι}
    (hP : ∀ i ∈ is, P i) (hQ : Always step Q s is) : Always step (fun s i => P i ∧ Q s i) s is :=
  always_and (always_of_inputs (fun i hi _ => hP i hi) s) hQ

/-- The invariant rule: under the condition `C` every step keeps `I`, so a run whose steps
all meet `C` has `Q` at every step and ends in `I`. -/
theorem always_of_invariant {I : σ → Prop} {C Q : σ → ι → Prop}
    (hQ : ∀ s i, I s → C s i → Q s i) (hstep : ∀ s i, I s → C s i → I (step s i))
    {s : σ} {is : List ι} (h0 : I s) (hC : Always step C s is) :
    Always step Q s is ∧ I (run step s is) := by
  induction is generalizing s with
  | nil => exact ⟨trivial, h0⟩
  | cons i is ih =>
    obtain ⟨hc, hrest⟩ := hC
    obtain ⟨hq, hinv⟩ := ih (hstep s i h0 hc) hrest
    exact ⟨⟨hQ s i h0 hc, hq⟩, hinv⟩

/-- Under the condition a run keeps the invariant. -/
theorem run_of_always {I : σ → Prop} {C : σ → ι → Prop}
    (hstep : ∀ s i, I s → C s i → I (step s i)) {s : σ} {is : List ι} (h0 : I s)
    (hC : Always step C s is) : I (run step s is) := by
  have hboth := always_of_invariant (Q := C) (fun _ _ _ hc => hc) hstep h0 hC
  exact hboth.2

/-- The rule of equal conditions: if `Q` and `C` agree under an invariant that a step with `C`
keeps, they agree on every run that starts in it. -/
theorem always_iff_of_invariant {I : σ → Prop} {C Q : σ → ι → Prop}
    (hiff : ∀ s i, I s → (Q s i ↔ C s i)) (hstep : ∀ s i, I s → C s i → I (step s i))
    {s : σ} (h0 : I s) (is : List ι) : Always step Q s is ↔ Always step C s is := by
  induction is generalizing s with
  | nil => rfl
  | cons i is ih =>
    change Q s i ∧ _ ↔ C s i ∧ _
    rw [hiff s i h0]
    exact and_congr_right (fun hc => ih (hstep s i h0 hc))

/-- The rule of what is set and kept: if every input of kind `P` sets `R`, and every step keeps
it, then a run with such an input ends in `R`. -/
theorem run_sets {I R : σ → Prop} {C : σ → ι → Prop} {P : ι → Prop}
    (hstep : ∀ s i, I s → C s i → I (step s i) ∧ (R s ∨ P i → R (step s i)))
    {s : σ} {is : List ι} (h0 : I s) (hC : Always step C s is) :
    I (run step s is) ∧ (R s ∨ (∃ i ∈ is, P i) → R (run step s is)) := by
  induction is generalizing s with
  | nil =>
    refine ⟨h0, ?_⟩
    rintro (hr | ⟨i, hi, _⟩)
    · exact hr
    · cases hi
  | cons i is ih =>
    obtain ⟨hc, hrest⟩ := hC
    obtain ⟨hi, hset⟩ := hstep s i h0 hc
    obtain ⟨hend, hlater⟩ := ih hi hrest
    refine ⟨hend, ?_⟩
    rintro (hr | ⟨j, hj, hp⟩)
    · exact hlater (Or.inl (hset (Or.inl hr)))
    · rcases List.mem_cons.mp hj with rfl | hj
      · exact hlater (Or.inl (hset (Or.inr hp)))
      · exact hlater (Or.inr ⟨j, hj, hp⟩)

/-- The rule of the first step of a kind: if `Q` holds at the first step of kind `D`, and that
step leads to an invariant under which every later one has `Q`, then all of them have `Q`. -/
theorem always_of_first {A : σ → Prop} {C D Q : σ → ι → Prop}
    (hQ : ∀ s i, A s → C s i → D s i → Q s i) (hstep : ∀ s i, A s → C s i → A (step s i))
    {s : σ} {is : List ι} (hC : Always step C s is)
    (hfirst : ∀ before i after, is = before ++ i :: after →
      Always step (fun s i => ¬ D s i) s before → D (run step s before) i →
        Q (run step s before) i ∧ A (step (run step s before) i)) :
    Always step (fun s i => D s i → Q s i) s is := by
  induction is generalizing s with
  | nil => trivial
  | cons i is ih =>
    obtain ⟨_, hrest⟩ := hC
    by_cases hd : D s i
    · obtain ⟨hq, ha⟩ := hfirst [] i is rfl trivial hd
      exact ⟨fun _ => hq, (always_of_invariant hQ hstep ha hrest).1⟩
    · refine ⟨fun h => absurd h hd, ih hrest ?_⟩
      intro before j after his hquiet hj
      exact hfirst (i :: before) j after (by rw [his]; rfl) ⟨hd, hquiet⟩ hj

/-- What every step with an input of the kind keeps, a run of such inputs keeps. -/
theorem run_invariant_of_forall {I : σ → Prop} {P : ι → Prop}
    (hstep : ∀ s i, P i → I s → I (step s i)) {s : σ} (h0 : I s) {is : List ι}
    (hP : ∀ i ∈ is, P i) : I (run step s is) := by
  induction is generalizing s with
  | nil => exact h0
  | cons i is ih =>
    exact ih (hstep s i (hP i (by simp)) h0) (fun j hj => hP j (by simp [hj]))

/-- A step that always keeps `I` keeps it over every run. -/
theorem run_invariant {I : σ → Prop} (hstep : ∀ s i, I s → I (step s i))
    {s : σ} (h0 : I s) (is : List ι) : I (run step s is) :=
  run_invariant_of_forall (P := fun _ => True) (fun s i _ => hstep s i) h0 (fun _ _ => trivial)

/-- The rule of the latch: what a step has exactly when it had it before or its input sets it,
a run has exactly when the start has it or some input sets it. -/
theorem run_latch {R : σ → Prop} {P : ι → Prop} (hstep : ∀ s i, R (step s i) ↔ R s ∨ P i) (s : σ)
    (is : List ι) : R (run step s is) ↔ R s ∨ ∃ i ∈ is, P i := by
  induction is generalizing s with
  | nil => simp
  | cons i is ih => simp [ih, hstep, or_assoc]

/-- The rule of the descent: what every step brings down by `d`, as long as there is so much left,
a run brings down by `d` for each of its steps. -/
theorem run_descends {m : σ → Nat} {P : ι → Prop} {d : Nat}
    (hstep : ∀ s i, P i → m (step s i) ≤ m s - d) {is : List ι} (hP : ∀ i ∈ is, P i) (s : σ) :
    m (run step s is) ≤ m s - d * is.length := by
  induction is generalizing s with
  | nil => simp
  | cons i is ih =>
    have hfirst := hstep s i (hP i (by simp))
    have hrest := ih (fun j hj => hP j (by simp [hj])) (step s i)
    rw [run_cons, List.length_cons, Nat.mul_succ]
    omega

/-! ## Two machines -/

/-- What a run shows, step by step. -/
def trace {β : Type*} (step : σ → ι → σ) (shown : σ → ι → β) : σ → List ι → List β
  | _, [] => []
  | s, i :: is => shown s i :: trace step shown (step s i) is

/-- The rule of two machines in step: if they show the same at a step exactly when `C` holds of
it, and then also do the same, they show the same over a run exactly when `C` always holds. -/
theorem trace_eq_iff {β : Type*} {other : σ → ι → σ} {shown shown' : σ → ι → β} {C : σ → ι → Prop}
    (hshown : ∀ s i, shown' s i = shown s i ↔ C s i) (hstep : ∀ s i, C s i → other s i = step s i)
    (s : σ) (is : List ι) : trace other shown' s is = trace step shown s is ↔ Always step C s is := by
  induction is generalizing s with
  | nil => exact ⟨fun _ => trivial, fun _ => rfl⟩
  | cons i is ih =>
    unfold trace Always
    rw [List.cons.injEq, hshown]
    refine and_congr_right (fun hc => ?_)
    rw [hstep s i hc]
    exact ih _

/-- The rule of a refinement: a relation that every step keeps, and under which both machines
show the same, makes the runs show the same. -/
theorem trace_of_simulation {σ' β : Type*} {step' : σ' → ι → σ'} {shown : σ → ι → β}
    {shown' : σ' → ι → β} {R : σ → σ' → Prop} (hshown : ∀ s s' i, R s s' → shown s i = shown' s' i)
    (hstep : ∀ s s' i, R s s' → R (step s i) (step' s' i)) {s : σ} {s' : σ'} (h0 : R s s')
    (is : List ι) :
    trace step shown s is = trace step' shown' s' is ∧ R (run step s is) (run step' s' is) := by
  induction is generalizing s s' with
  | nil => exact ⟨rfl, h0⟩
  | cons i is ih =>
    obtain ⟨hrest, hend⟩ := ih (hstep s s' i h0)
    refine ⟨?_, hend⟩
    unfold trace
    rw [hshown s s' i h0, hrest]

/-! ## Events that must come -/

/-- `D` holds at some step of the run. -/
def Occurs (step : σ → ι → σ) (D : σ → ι → Prop) : σ → List ι → Prop
  | _, [] => False
  | s, i :: is => D s i ∨ Occurs step D (step s i) is

/-- The countdown rule: a timer that every step without `D` lowers reaches `D` within as many
steps as it counts. -/
theorem occurs_of_countdown {I : σ → Prop} {D : σ → ι → Prop} (timer : σ → Nat)
    (hpos : ∀ s, I s → 0 < timer s)
    (hstep : ∀ s i, I s → ¬ D s i → I (step s i) ∧ timer (step s i) < timer s)
    {s : σ} {is : List ι} (h0 : I s) (hlen : timer s ≤ is.length) : Occurs step D s is := by
  induction is generalizing s with
  | nil =>
    have := hpos s h0
    simp only [List.length_nil] at hlen
    omega
  | cons i is ih =>
    by_cases hd : D s i
    · exact Or.inl hd
    · obtain ⟨hi, hlt⟩ := hstep s i h0 hd
      simp only [List.length_cons] at hlen
      exact Or.inr (ih hi (by omega))

/-! ## Runs without an end -/

/-- The state before input `n` of an endless run. -/
def stateAt (step : σ → ι → σ) (s : σ) (is : Nat → ι) : Nat → σ
  | 0 => s
  | n + 1 => step (stateAt step s is n) (is n)

/-- What every step keeps holds in every state of an endless run. -/
theorem stateAt_invariant {I : σ → Prop} {s : σ} {is : Nat → ι}
    (hstep : ∀ n s, I s → I (step s (is n))) (h0 : I s) (n : Nat) :
    I (stateAt step s is n) := by
  induction n with
  | zero => exact h0
  | succ n ih => exact hstep n _ ih

/-- The rule of the ratchet: a value that no step above the target raises, and none within it
takes out, is within the target from some state on if there is always a later step that starts
within it or lowers the value. -/
theorem settles_of_lowered {m : Nat → Nat} {target : Nat}
    (hstep : ∀ n, m (n + 1) ≤ max target (m n))
    (hlower : ∀ N, ∃ n, N ≤ n ∧ (m n ≤ target ∨ m (n + 1) < m n)) :
    ∃ N, ∀ n, N ≤ n → m n ≤ target := by
  have hmono : ∀ k n, m (n + k) ≤ max target (m n) := by
    intro k n
    induction k with
    | zero => exact Nat.le_max_right _ _
    | succ k ih =>
      have hnext := hstep (n + k)
      rw [← Nat.add_assoc]
      omega
  -- induction on the value: the next step that lowers it leaves less to bring down
  have hsettle : ∀ v n, m n ≤ v → ∃ N, ∀ k, N ≤ k → m k ≤ target := by
    intro v
    induction v with
    | zero =>
      intro n hn
      refine ⟨n, fun k hk => ?_⟩
      have hlater := hmono (k - n) n
      rw [Nat.add_sub_cancel' hk] at hlater
      omega
    | succ v ih =>
      intro n hn
      obtain ⟨k, hk, hdone⟩ := hlower n
      have hlater := hmono (k - n) n
      rw [Nat.add_sub_cancel' hk] at hlater
      by_cases hwithin : m k ≤ target
      · refine ⟨k, fun j hj => ?_⟩
        have hkept := hmono (j - k) k
        rw [Nat.add_sub_cancel' hj] at hkept
        omega
      · exact ih (k + 1) (by omega)
  exact hsettle (m 0) 0 (Nat.le_refl _)

end runs
