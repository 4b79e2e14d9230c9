-- The taper of `loadShare`: while the voltage stays above a row of the table,
-- when the power comes down to the cap of that row, give or take one ramp.
import SuperCharger.UserLimit

namespace super_charger.load_share

open machine_int arduino charger_message eeprom runs

/-! ## One walk over the table -/

/-- The row takes a ramp step off this power. -/
def Acts (volts : UInt16) (watts : Nat) (row : UInt16 × UInt32) : Prop :=
  row.1 < volts ∧ row.2.toNat < watts

instance (volts : UInt16) (watts : Nat) (row : UInt16 × UInt32) : Decidable (Acts volts watts row) :=
  inferInstanceAs (Decidable (row.1 < volts ∧ row.2.toNat < watts))

theorem cutbackRow_volts (sk : Sketch) (s : State) (row : UInt16 × UInt32) :
    (cutbackRow sk s row).volts = s.volts := by
  unfold cutbackRow
  split <;> rfl

theorem cutback_volts (sk : Sketch) (rows : List (UInt16 × UInt32)) (s : State) :
    (rows.foldl (cutbackRow sk) s).volts = s.volts := by
  rw [cutback_frame]

/-- A row that acts on the power before the walk leaves it a ramp step lower at the end. -/
theorem cutback_acts {rows : List (UInt16 × UInt32)} (hcap : ∀ row ∈ rows, 5000 ≤ row.2.toNat)
    {s : State} (h : ∃ row ∈ rows, Acts s.volts s.watts.toNat row) :
    (rows.foldl (cutbackRow loadShare) s).watts.toNat + 5000 ≤ s.watts.toNat := by
  induction rows generalizing s with
  | nil =>
    obtain ⟨row, hrow, _⟩ := h
    cases hrow
  | cons first rows ih =>
    have hfirst := cutbackRow_toNat s first (hcap first (by simp))
    have hrest := cutback_le rows (fun r hr => hcap r (by simp [hr])) (cutbackRow loadShare s first)
    rw [List.foldl_cons]
    split at hfirst
    · rename_i hacts
      have := hcap first (by simp)
      omega
    · rename_i hidle
      obtain ⟨row, hrow, hacts⟩ := h
      rcases List.mem_cons.mp hrow with rfl | hrow
      · exact absurd hacts hidle
      · have hsame : Acts (cutbackRow loadShare s first).volts
            (cutbackRow loadShare s first).watts.toNat row := by
          rw [cutbackRow_volts, hfirst]
          exact hacts
        have hlow := ih (fun r hr => hcap r (by simp [hr])) ⟨row, hrow, hsame⟩
        omega

/-- Rows that do not act on the power before the walk do not act in it. -/
theorem cutback_idle (sk : Sketch) (rows : List (UInt16 × UInt32)) {s : State}
    (h : ∀ row ∈ rows, ¬ Acts s.volts s.watts.toNat row) :
    rows.foldl (cutbackRow sk) s = s := by
  induction rows with
  | nil => rfl
  | cons first rows ih =>
    have hfirst : cutbackRow sk s first = s := by
      unfold cutbackRow
      rw [if_neg]
      intro hacts
      exact h first (by simp) ⟨hacts.1, UInt32.lt_iff_toNat_lt.mp hacts.2⟩
    rw [List.foldl_cons, hfirst]
    exact ih (fun row hr => h row (by simp [hr]))

/-- A row that the voltage is above brings the power to its cap, or down by a ramp step. -/
theorem cutback_above {rows : List (UInt16 × UInt32)} (hcap : ∀ row ∈ rows, 5000 ≤ row.2.toNat)
    {s : State} {row : UInt16 × UInt32} (hrow : row ∈ rows) (habove : row.1 < s.volts) :
    (rows.foldl (cutbackRow loadShare) s).watts.toNat ≤
      max row.2.toNat (s.watts.toNat - 5000) := by
  by_cases hlow : s.watts.toNat ≤ row.2.toNat
  · have hle := cutback_le rows hcap s
    omega
  · have hacts := cutback_acts (s := s) hcap ⟨row, hrow, habove, by omega⟩
    omega

/-- A row that acts takes a second step off when another row acts as well: one before it on the power
before the walk, or one after it on the power that it leaves. -/
theorem cutback_twice {before after : List (UInt16 × UInt32)} {row : UInt16 × UInt32}
    (hcap : ∀ r ∈ before ++ row :: after, 5000 ≤ r.2.toNat) {s : State}
    (hacts : Acts s.volts s.watts.toNat row)
    (h : (∃ r ∈ before, Acts s.volts s.watts.toNat r) ∨
      ∃ r ∈ after, Acts s.volts (s.watts.toNat - 5000) r) :
    ((before ++ row :: after).foldl (cutbackRow loadShare) s).watts.toNat ≤
      max row.2.toNat (s.watts.toNat - 5000 - 5000) := by
  have hbefore : ∀ r ∈ before, 5000 ≤ r.2.toNat := fun r hr => hcap r (List.mem_append_left _ hr)
  have hfrom : ∀ r ∈ row :: after, 5000 ≤ r.2.toNat := fun r hr => hcap r (List.mem_append_right _ hr)
  rw [List.foldl_append]
  by_cases hfirst : ∃ r ∈ before, Acts s.volts s.watts.toNat r
  · have hone := cutback_acts hbefore hfirst
    have htwo := cutback_above hfrom List.mem_cons_self (s := before.foldl (cutbackRow loadShare) s)
      (by rw [cutback_volts]; exact hacts.1)
    have hless := Nat.sub_le_sub_right (Nat.le_sub_of_add_le hone) 5000
    exact Nat.le_trans htwo (max_le_max_left _ hless)
  · have hlast := h.resolve_left hfirst
    have hidle := cutback_idle loadShare before (s := s)
      (fun r hr hr' => hfirst ⟨r, hr, hr'⟩)
    have hstep : (cutbackRow loadShare s row).watts.toNat = s.watts.toNat - 5000 :=
      (cutbackRow_toNat s row (hfrom row List.mem_cons_self)).trans (if_pos hacts)
    have htwo := cutback_acts (s := cutbackRow loadShare s row)
      (fun r hr => hfrom r (List.mem_cons_of_mem row hr))
      (by rw [cutbackRow_volts, hstep]; exact hlast)
    rw [hidle, List.foldl_cons]
    omega

/-! ## One cycle -/

/-- The ramp and row `i` cancel out: the power goes up by a ramp step without a wrap, no row
before row `i` takes it off again, and no row after it takes off another. -/
def Cancels (i : Nat) (watts MAX_STATION_WATTS : UInt32) (volts : UInt16) : Prop :=
  (watts.toNat + 7600) % 2 ^ 32 < MAX_STATION_WATTS.toNat ∧ watts.toNat + 5000 < 2 ^ 32 ∧
    (∀ row ∈ loadShare.rows.take i, ¬ Acts volts (watts.toNat + 5000) row) ∧
    ∀ row ∈ loadShare.rows.drop (i + 1), ¬ Acts volts watts.toNat row

/-- What a batch has to read: a voltage above the row and within the window, and no more power
than the previous cycle chose. -/
def StaysAbove (row : UInt16 × UInt32) (watts : UInt32) (batch : List Message) : Prop :=
  row.1 < batchVolts batch ∧ batchVolts batch ≤ loadShare.OUTPUT_VOLTS_MAX ∧
    (batchAmps batch * batchVolts batch).toNat ≤ watts.toNat

theorem rows_above_min : ∀ row ∈ loadShare.rows, loadShare.OUTPUT_VOLTS_MIN < row.1 := by
  have hwords : loadShare.rows.all (fun row => decide (loadShare.OUTPUT_VOLTS_MIN < row.1)) =
      true := by
    decide
  intro row hrow
  exact of_decide_eq_true (List.all_eq_true.mp hwords row hrow)

/-- Above a row of the table and within the window, the power is the ramped one after the walk. -/
theorem chooseWatts_above {row : UInt16 × UInt32} (hrow : row ∈ loadShare.rows) {s : State}
    {batch : List Message} (h : StaysAbove row s.watts batch) :
    chooseWatts loadShare s batch =
      loadShare.rows.foldl (cutbackRow loadShare) (powered loadShare s batch) := by
  obtain ⟨habove, hmax, _⟩ := h
  apply chooseWatts_running
  · have hmin := rows_above_min row hrow
    simp only [UInt16.lt_iff_toNat_lt] at hmin habove ⊢
    omega
  · exact UInt16.not_lt.mpr hmax

/-- The power that the walk starts from. -/
theorem powered_above {row : UInt16 × UInt32} {s : State} {batch : List Message}
    (h : StaysAbove row s.watts batch) (hlimit : 7600 ≤ s.MAX_STATION_WATTS.toNat) :
    (powered loadShare s batch).volts = batchVolts batch ∧
      (powered loadShare s batch).watts.toNat =
        if (s.watts.toNat + 7600) % 2 ^ 32 < s.MAX_STATION_WATTS.toNat then
          (s.watts.toNat + 5000) % 2 ^ 32
        else min s.watts.toNat (s.MAX_STATION_WATTS.toNat - 7600) := by
  have hpow := powered_toNat loadShare s batch
  have hw := s.watts.toNat_lt
  have hM := s.MAX_STATION_WATTS.toNat_lt
  have hmeasured := h.2.2
  have hmax : max s.watts.toNat (batchAmps batch * batchVolts batch).toNat = s.watts.toNat := by
    omega
  simp only [hmax, loadShare_ramp] at hpow
  constructor
  · rw [powered_frame]
    rfl
  · rw [hpow]
    split
    · rfl
    · split <;> omega

theorem rows_split {i : Nat} {row : UInt16 × UInt32} (h : loadShare.rows[i]? = some row) :
    loadShare.rows = loadShare.rows.take i ++ row :: loadShare.rows.drop (i + 1) := by
  obtain ⟨hi, hget⟩ := List.getElem?_eq_some_iff.mp h
  rw [← hget, ← List.drop_eq_getElem_cons hi, List.take_append_drop]

/-- A cycle above row `i` leaves the power at most where it was, or within a ramp step of the
cap. -/
theorem cycle_above_le {row : UInt16 × UInt32} (hrow : row ∈ loadShare.rows) {s : State}
    {batch : List Message} (h : StaysAbove row s.watts batch)
    (hlimit : 7600 ≤ s.MAX_STATION_WATTS.toNat) :
    (chooseWatts loadShare s batch).watts.toNat ≤ max (row.2.toNat + 5000) s.watts.toNat := by
  obtain ⟨hvolts, hpow⟩ := powered_above h hlimit
  have hwalk := cutback_above (s := powered loadShare s batch)
    (fun r hr => (loadShare_caps r hr).1) hrow (by rw [hvolts]; exact h.1)
  rw [chooseWatts_above hrow h]
  split at hpow <;> omega

/-- From a power more than a ramp step above the cap, a cycle lowers the power, except where the
ramp and the row cancel out. -/
theorem cycle_above_lt {i : Nat} {row : UInt16 × UInt32} (hi : loadShare.rows[i]? = some row)
    {s : State} {batch : List Message} (h : StaysAbove row s.watts batch)
    (hlimit : 7600 ≤ s.MAX_STATION_WATTS.toNat) (hhigh : row.2.toNat + 5000 < s.watts.toNat)
    (hmoves : ¬ Cancels i s.watts s.MAX_STATION_WATTS (batchVolts batch)) :
    (chooseWatts loadShare s batch).watts.toNat < s.watts.toNat := by
  have hrow : row ∈ loadShare.rows := List.mem_of_getElem? hi
  have hcaps : ∀ r ∈ loadShare.rows, 5000 ≤ r.2.toNat := fun r hr => (loadShare_caps r hr).1
  have hwatts := s.watts.toNat_lt
  obtain ⟨hvolts, hpow⟩ := powered_above h hlimit
  rw [chooseWatts_above hrow h]
  have hwalk := cutback_above (s := powered loadShare s batch) hcaps hrow
    (by rw [hvolts]; exact h.1)
  by_cases hroom : (s.watts.toNat + 7600) % 2 ^ 32 < s.MAX_STATION_WATTS.toNat
  · rw [if_pos hroom] at hpow
    by_cases hwrap : s.watts.toNat + 5000 < 2 ^ 32
    · rw [Nat.mod_eq_of_lt hwrap] at hpow
      have hsplit := rows_split hi
      have hother : (∃ r ∈ loadShare.rows.take i, Acts (batchVolts batch) (s.watts.toNat + 5000) r) ∨
          ∃ r ∈ loadShare.rows.drop (i + 1), Acts (batchVolts batch) s.watts.toNat r := by
        by_contra hnone
        obtain ⟨hfirst, hlast⟩ := not_or.mp hnone
        apply hmoves
        refine ⟨hroom, hwrap, ?_, ?_⟩
        · exact fun r hr hacts => hfirst ⟨r, hr, hacts⟩
        · exact fun r hr hacts => hlast ⟨r, hr, hacts⟩
      have htwice := cutback_twice (s := powered loadShare s batch)
        (by rw [← hsplit]; exact hcaps)
        (by rw [hvolts, hpow]; exact ⟨h.1, by omega⟩)
        (by rw [hvolts, hpow, Nat.add_sub_cancel]; exact hother)
      rw [← hsplit] at htwice
      omega
    · omega
  · rw [if_neg hroom] at hpow
    omega

/-- Where the ramp and row `i` cancel out, the power stays as it is. -/
theorem cycle_above_same {i : Nat} {row : UInt16 × UInt32} (hi : loadShare.rows[i]? = some row)
    {s : State} {batch : List Message} (h : StaysAbove row s.watts batch)
    (hlimit : 7600 ≤ s.MAX_STATION_WATTS.toNat) (hhigh : row.2.toNat + 5000 < s.watts.toNat)
    (hstays : Cancels i s.watts s.MAX_STATION_WATTS (batchVolts batch)) :
    (chooseWatts loadShare s batch).watts = s.watts := by
  obtain ⟨hroom, hwrap, hbefore, hafter⟩ := hstays
  have hrow : row ∈ loadShare.rows := List.mem_of_getElem? hi
  obtain ⟨hvolts, hpow⟩ := powered_above h hlimit
  rw [if_pos hroom, Nat.mod_eq_of_lt hwrap] at hpow
  have hidle := cutback_idle loadShare (loadShare.rows.take i) (s := powered loadShare s batch)
    (by rw [hvolts, hpow]; exact hbefore)
  have hstep := cutbackRow_toNat (powered loadShare s batch) row (loadShare_caps row hrow).1
  rw [hvolts, hpow, if_pos ⟨h.1, by omega⟩, Nat.add_sub_cancel] at hstep
  rw [chooseWatts_above hrow h, rows_split hi, List.foldl_append, hidle, List.foldl_cons,
    cutback_idle loadShare _ (by rw [cutbackRow_volts, hvolts, hstep]; exact hafter)]
  exact UInt32.toNat_inj.mp hstep

/-! ## Endless runs -/

/-- Every cycle reads a voltage above the row, and has a limit that covers the reserve. -/
def TapersAt (row : UInt16 × UInt32) (s : State) : Event → Prop
  | .MCP2515_ISR => True
  | .loop commands batch => s.flagRecv ≠ 0 → StaysAbove row s.watts batch ∧
      7600 ≤ (readCommands loadShare s commands).MAX_STATION_WATTS.toNat

/-- If this is a cycle, its ramp and row `i` cancel out at this power. -/
def CancelsAt (i : Nat) (watts : UInt32) (s : State) : Event → Prop
  | .MCP2515_ISR => True
  | .loop commands batch => s.flagRecv ≠ 0 →
      Cancels i watts (readCommands loadShare s commands).MAX_STATION_WATTS (batchVolts batch)

/-- The power of event `N` is more than a ramp step above the cap of row `i`, and every cycle from
there on has a limit and reads a voltage at which the ramp and the row cancel out at that power. -/
def StuckFrom (i : Nat) (row : UInt16 × UInt32) (s : State) (events : Nat → Event) (N : Nat) :
    Prop :=
  row.2.toNat + 5000 < (stateAt (step loadShare) s events N).watts.toNat ∧
    ∀ n, N ≤ n → CancelsAt i (stateAt (step loadShare) s events N).watts
      (stateAt (step loadShare) s events n) (events n)

/-- The power after a cycle, from the choice of the block. -/
theorem cycle_watts (sk : Sketch) (s : State) (commands : List (List Char)) (batch : List Message)
    (hflag : s.flagRecv ≠ 0) :
    (step sk s (.loop commands batch)).watts =
      (chooseWatts sk (readCommands sk s commands) batch).watts := by
  unfold step
  simp only
  rw [loop_of_flag _ _ _ _ hflag, flagRecvBlock_frame]

theorem idle_watts (sk : Sketch) (s : State) (commands : List (List Char)) (batch : List Message)
    (hflag : s.flagRecv = 0) : (step sk s (.loop commands batch)).watts = s.watts := by
  unfold step
  simp only
  rw [loop_of_no_flag _ _ _ _ hflag, readCommands_frame]

theorem readCommands_watts (sk : Sketch) (s : State) (commands : List (List Char)) :
    (readCommands sk s commands).watts = s.watts := by
  rw [readCommands_frame]

theorem step_above_le {row : UInt16 × UInt32} (hrow : row ∈ loadShare.rows) {s : State}
    {event : Event} (h : TapersAt row s event) :
    (step loadShare s event).watts.toNat ≤ max (row.2.toNat + 5000) s.watts.toNat := by
  cases event with
  | MCP2515_ISR => exact Nat.le_max_right _ _
  | loop commands batch =>
    by_cases hflag : s.flagRecv = 0
    · rw [idle_watts _ _ _ _ hflag]
      exact Nat.le_max_right _ _
    · obtain ⟨habove, hlimit⟩ := h hflag
      have hwatts := readCommands_watts loadShare s commands
      have hle := cycle_above_le (s := readCommands loadShare s commands) hrow
        (by rw [hwatts]; exact habove) hlimit
      rw [cycle_watts _ _ _ _ hflag]
      rw [hwatts] at hle
      exact hle

theorem step_above_lt {i : Nat} {row : UInt16 × UInt32} (hi : loadShare.rows[i]? = some row)
    {s : State} {event : Event} (h : TapersAt row s event)
    (hhigh : row.2.toNat + 5000 < s.watts.toNat) (hmoves : ¬ CancelsAt i s.watts s event) :
    (step loadShare s event).watts.toNat < s.watts.toNat := by
  cases event with
  | MCP2515_ISR => exact absurd trivial hmoves
  | loop commands batch =>
    by_cases hflag : s.flagRecv = 0
    · exact absurd (fun hset => absurd hflag hset) hmoves
    · obtain ⟨habove, hlimit⟩ := h hflag
      have hwatts := readCommands_watts loadShare s commands
      have hlt := cycle_above_lt (s := readCommands loadShare s commands) hi
        (by rw [hwatts]; exact habove) hlimit (by rw [hwatts]; exact hhigh)
        (by
          rw [hwatts]
          exact fun hcancels => hmoves fun _ => hcancels)
      rw [cycle_watts _ _ _ _ hflag]
      rw [hwatts] at hlt
      exact hlt

theorem step_above_same {i : Nat} {row : UInt16 × UInt32} (hi : loadShare.rows[i]? = some row)
    {s : State} {event : Event} (h : TapersAt row s event)
    (hhigh : row.2.toNat + 5000 < s.watts.toNat) (hstays : CancelsAt i s.watts s event) :
    (step loadShare s event).watts = s.watts := by
  cases event with
  | MCP2515_ISR => rfl
  | loop commands batch =>
    by_cases hflag : s.flagRecv = 0
    · exact idle_watts _ _ _ _ hflag
    · obtain ⟨habove, hlimit⟩ := h hflag
      have hwatts := readCommands_watts loadShare s commands
      have hsame := cycle_above_same (s := readCommands loadShare s commands) hi
        (by rw [hwatts]; exact habove) hlimit (by rw [hwatts]; exact hhigh)
        (by
          rw [hwatts]
          exact hstays hflag)
      rw [cycle_watts _ _ _ _ hflag, hsame, hwatts]

section Stuck

variable {i : Nat} {row : UInt16 × UInt32} {s : State} {events : Nat → Event} {N : Nat}

/-- From where it is stuck the power does not move. -/
theorem watts_of_stuck (hi : loadShare.rows[i]? = some row)
    (h : ∀ n, TapersAt row (stateAt (step loadShare) s events n) (events n))
    (hstuck : StuckFrom i row s events N) (k : Nat) :
    (stateAt (step loadShare) s events (N + k)).watts =
      (stateAt (step loadShare) s events N).watts := by
  obtain ⟨hhigh, hcancels⟩ := hstuck
  induction k with
  | zero => rfl
  | succ k ih =>
    have hnow := hcancels (N + k) (Nat.le_add_right N k)
    rw [← ih] at hhigh hnow
    exact (step_above_same hi (h (N + k)) hhigh hnow).trans ih

/-- A power that stays above the cap, and is never lowered, is stuck. -/
theorem stuck_of_not_lowered (hi : loadShare.rows[i]? = some row)
    (h : ∀ n, TapersAt row (stateAt (step loadShare) s events n) (events n))
    (hstays : ∀ n, N ≤ n → row.2.toNat + 5000 < (stateAt (step loadShare) s events n).watts.toNat ∧
      (stateAt (step loadShare) s events n).watts.toNat ≤
        (stateAt (step loadShare) s events (n + 1)).watts.toNat) :
    StuckFrom i row s events N := by
  have hsame : ∀ k, (stateAt (step loadShare) s events (N + k)).watts =
      (stateAt (step loadShare) s events N).watts := by
    intro k
    induction k with
    | zero => rfl
    | succ k ih =>
      obtain ⟨hhigh, hle⟩ := hstays (N + k) (Nat.le_add_right N k)
      have hbound : (stateAt (step loadShare) s events (N + k + 1)).watts.toNat ≤ _ :=
        step_above_le (List.mem_of_getElem? hi) (h (N + k))
      rw [← ih, ← UInt32.toNat_inj]
      change (stateAt (step loadShare) s events (N + k + 1)).watts.toNat = _
      omega
  refine ⟨(hstays N (Nat.le_refl N)).1, fun n hn => ?_⟩
  obtain ⟨k, rfl⟩ := Nat.exists_eq_add_of_le hn
  obtain ⟨hhigh, hle⟩ := hstays (N + k) hn
  by_contra hmoves
  rw [← hsame k] at hmoves
  have hlt := step_above_lt hi (h (N + k)) hhigh hmoves
  exact absurd hle (Nat.not_le.mpr hlt)

end Stuck

/-! ## Chargers at a steady voltage -/

/-- Cycles without an end that each find this one message. -/
def steady (m : Message) (n : Nat) : Event :=
  if n % 2 = 0 then .MCP2515_ISR else .loop [] [m]

theorem batchVolts_single (m : Message) : batchVolts [m] = voltageOf m := UInt16.zero_add _

theorem batchAmps_single (m : Message) : batchAmps [m] = currentOf m := UInt16.zero_add _

/-- A cycle without commands leaves the limit alone. -/
theorem step_limit_quiet (s : State) (batch : List Message) :
    (step loadShare s (.loop [] batch)).MAX_STATION_WATTS = s.MAX_STATION_WATTS := by
  rw [step_limit]
  rfl

theorem steady_limit (m : Message) (s : State) (n : Nat) :
    (stateAt (step loadShare) s (steady m) n).MAX_STATION_WATTS = s.MAX_STATION_WATTS := by
  refine stateAt_invariant (I := fun t : State => t.MAX_STATION_WATTS = s.MAX_STATION_WATTS)
    ?_ rfl n
  intro k t h
  unfold steady
  split
  · exact h
  · rw [step_limit_quiet]
    exact h

theorem steady_tapers {row : UInt16 × UInt32} {m : Message} (habove : row.1 < voltageOf m)
    (hmax : voltageOf m ≤ loadShare.OUTPUT_VOLTS_MAX) (hamps : currentOf m = 0) {s : State}
    (hlimit : 7600 ≤ s.MAX_STATION_WATTS.toNat) (n : Nat) :
    TapersAt row (stateAt (step loadShare) s (steady m) n) (steady m n) := by
  rw [← steady_limit m s n] at hlimit
  generalize stateAt (step loadShare) s (steady m) n = t at *
  unfold steady
  split
  · trivial
  · intro _
    refine ⟨⟨?_, ?_, ?_⟩, hlimit⟩
    · rw [batchVolts_single]
      exact habove
    · rw [batchVolts_single]
      exact hmax
    · rw [batchAmps_single, hamps, UInt16.zero_mul]
      exact Nat.zero_le _

/-- A cycle below every row of the table, with room for the ramp and nothing measured, ramps. -/
theorem cycle_ramps {m : Message} (hmin : loadShare.OUTPUT_VOLTS_MIN ≤ voltageOf m)
    (hlow : voltageOf m ≤ 1130) (hamps : currentOf m = 0) {s : State}
    (hroom : s.watts.toNat + 7600 < s.MAX_STATION_WATTS.toNat) :
    (chooseWatts loadShare s [m]).watts.toNat = s.watts.toNat + 5000 := by
  have hrows : loadShare.rows.all (fun row => decide ((1130 : UInt16) ≤ row.1)) = true := by decide
  have hmax : (1130 : UInt16) ≤ loadShare.OUTPUT_VOLTS_MAX := by decide
  have hM := s.MAX_STATION_WATTS.toNat_lt
  have hpow := powered_toNat loadShare s [m]
  have hvolts : (powered loadShare s [m]).volts = voltageOf m := by
    rw [powered_frame]
    exact batchVolts_single m
  have hsum : (s.watts.toNat + 7600) % 2 ^ 32 = s.watts.toNat + 7600 := Nat.mod_eq_of_lt (by omega)
  have hramp : (s.watts.toNat + 5000) % 2 ^ 32 = s.watts.toNat + 5000 := Nat.mod_eq_of_lt (by omega)
  rw [batchAmps_single, hamps, UInt16.zero_mul, UInt16.toNat_zero, Nat.max_zero] at hpow
  simp only [hsum, hroom, if_true, loadShare_ramp, hramp] at hpow
  rw [chooseWatts_running _ s [m] (by rw [batchVolts_single]; exact UInt16.not_lt.mpr hmin)
    (by rw [batchVolts_single]; exact UInt16.not_lt.mpr (UInt16.le_trans hlow hmax))]
  unfold cutbackLoop
  rw [cutback_idle]
  · exact hpow
  · rintro row hrow ⟨habove, _⟩
    have hle := of_decide_eq_true (List.all_eq_true.mp hrows row hrow)
    rw [hvolts] at habove
    exact absurd habove (UInt16.not_lt.mpr (UInt16.le_trans hlow hle))

/-- Cycles at a voltage below every row ramp the power up, step by step. -/
theorem cycles_ramp {m : Message} (hmin : loadShare.OUTPUT_VOLTS_MIN ≤ voltageOf m)
    (hlow : voltageOf m ≤ 1130) (hamps : currentOf m = 0) (n : Nat) (s : State)
    (hroom : s.watts.toNat + 5000 * n + 7600 < s.MAX_STATION_WATTS.toNat) :
    (run (step loadShare) s (cycles (List.replicate n m))).watts.toNat =
        s.watts.toNat + 5000 * n ∧
      (run (step loadShare) s (cycles (List.replicate n m))).MAX_STATION_WATTS =
        s.MAX_STATION_WATTS := by
  induction n generalizing s with
  | zero => exact ⟨rfl, rfl⟩
  | succ n ih =>
    have hnow : s.watts.toNat + 7600 < s.MAX_STATION_WATTS.toNat := by omega
    have hlater : s.watts.toNat + 5000 + 5000 * n + 7600 < s.MAX_STATION_WATTS.toNat := by omega
    have hsum : s.watts.toNat + 5000 + 5000 * n = s.watts.toNat + 5000 * (n + 1) := by omega
    have hflag : (MCP2515_ISR s).flagRecv ≠ 0 := by
      change (1 : UInt8) ≠ 0
      decide
    have hstart : (MCP2515_ISR s).watts = s.watts ∧
        (MCP2515_ISR s).MAX_STATION_WATTS = s.MAX_STATION_WATTS := ⟨rfl, rfl⟩
    have hnone : readCommands loadShare (MCP2515_ISR s) [] = MCP2515_ISR s := rfl
    have hwatts : (step loadShare (MCP2515_ISR s) (.loop [] [m])).watts.toNat =
        s.watts.toNat + 5000 := by
      rw [cycle_watts _ _ _ _ hflag, hnone, cycle_ramps hmin hlow hamps, hstart.1]
      rw [hstart.1, hstart.2]
      exact hnow
    have hlimit : (step loadShare (MCP2515_ISR s) (.loop [] [m])).MAX_STATION_WATTS =
        s.MAX_STATION_WATTS := by
      rw [step_limit_quiet, hstart.2]
    obtain ⟨hpower, hkept⟩ := ih (step loadShare (MCP2515_ISR s) (.loop [] [m])) (by
      rw [hwatts, hlimit]
      exact hlater)
    have hcycles : cycles (List.replicate (n + 1) m) =
        .MCP2515_ISR :: .loop [] [m] :: cycles (List.replicate n m) := rfl
    have hfirst : step loadShare s .MCP2515_ISR = MCP2515_ISR s := rfl
    rw [hcycles, run_cons, run_cons, hfirst, hpower, hkept, hwatts, hlimit]
    exact ⟨hsum, rfl⟩

/-- A charger at 100.0 V with a limit of 14 kW, over 160 cycles from boot. -/
def rampedTo8kw : State :=
  run (step loadShare) (setup loadShare ⟨fun _ => 1400000, 0⟩)
    (cycles (List.replicate 160 (message 1000 0)))

theorem rampedTo8kw_power :
    rampedTo8kw.watts.toNat = 800000 ∧ rampedTo8kw.MAX_STATION_WATTS = 1400000 := by
  have hramp := cycles_ramp (m := message 1000 0) (by decide) (by decide) (by decide) 160
    (setup loadShare ⟨fun _ => 1400000, 0⟩) (by decide)
  exact ⟨hramp.1, hramp.2⟩

/-- Above row 0 alone, a cycle cuts 8 kW back by what it ramps up. -/
theorem cycle_stuck {m : Message} (habove : 1130 < voltageOf m) (hnext : voltageOf m ≤ 1135)
    (hamps : currentOf m = 0) {s : State} (hwatts : s.watts.toNat = 800000)
    (hlimit : s.MAX_STATION_WATTS = 1400000) :
    (chooseWatts loadShare s [m]).watts = s.watts := by
  have hrows : (loadShare.rows.drop 1).all (fun row => decide ((1135 : UInt16) ≤ row.1)) = true := by
    decide
  have hmax : (1135 : UInt16) ≤ loadShare.OUTPUT_VOLTS_MAX := by decide
  have hread : StaysAbove (1130, 700000) s.watts [m] := by
    unfold StaysAbove
    rw [batchVolts_single, batchAmps_single, hamps, UInt16.zero_mul]
    exact ⟨habove, UInt16.le_trans hnext hmax, Nat.zero_le _⟩
  have hcancels : Cancels 0 s.watts s.MAX_STATION_WATTS (batchVolts [m]) := by
    unfold Cancels
    rw [hwatts, hlimit, batchVolts_single]
    refine ⟨by decide, by decide, ?_, ?_⟩
    · intro row hrow
      cases hrow
    · rintro row hrow ⟨hacts, _⟩
      have hle := of_decide_eq_true (List.all_eq_true.mp hrows row hrow)
      exact absurd hacts (UInt16.not_lt.mpr (UInt16.le_trans hnext hle))
  have hfirst : loadShare.rows[0]? = some (1130, 700000) := rfl
  exact cycle_above_same hfirst hread (by rw [hlimit]; decide) (by rw [hwatts]; decide) hcancels

/-- So the power stays there, in any number of cycles. -/
theorem steady_stuck {m : Message} (habove : 1130 < voltageOf m) (hnext : voltageOf m ≤ 1135)
    (hamps : currentOf m = 0) {s : State}
    (h : s.watts.toNat = 800000 ∧ s.MAX_STATION_WATTS = 1400000) (n : Nat) :
    (stateAt (step loadShare) s (steady m) n).watts.toNat = 800000 := by
  have hkept : ∀ n s, s.watts.toNat = 800000 ∧ s.MAX_STATION_WATTS = 1400000 →
      (step loadShare s (steady m n)).watts.toNat = 800000 ∧
        (step loadShare s (steady m n)).MAX_STATION_WATTS = 1400000 := by
    rintro n s ⟨hwatts, hlimit⟩
    unfold steady
    split
    · exact ⟨hwatts, hlimit⟩
    · refine ⟨?_, by rw [step_limit_quiet]; exact hlimit⟩
      by_cases hflag : s.flagRecv = 0
      · rw [idle_watts _ _ _ _ hflag]
        exact hwatts
      · have hnone : readCommands loadShare s [] = s := rfl
        rw [cycle_watts _ _ _ _ hflag, hnone, cycle_stuck habove hnext hamps hwatts hlimit]
        exact hwatts
  exact (stateAt_invariant (I := fun s : State =>
    s.watts.toNat = 800000 ∧ s.MAX_STATION_WATTS = 1400000) hkept h n).1

/-! ## The law of the taper -/

/-- In an endless run above row `i`, the power comes down to the cap of the row and one ramp step,
and stays there, exactly when there is no event from which on it is stuck. -/
theorem the_taper_settles_iff_it_is_never_stuck_for_good (i : Nat) (row : UInt16 × UInt32)
    (hi : loadShare.rows[i]? = some row) (s : State) (events : Nat → Event)
    (h : ∀ n, TapersAt row (stateAt (step loadShare) s events n) (events n)) :
    (∃ N, ∀ n, N ≤ n →
        (stateAt (step loadShare) s events n).watts.toNat ≤ row.2.toNat + 5000) ↔
      ¬ ∃ N, StuckFrom i row s events N := by
  constructor
  · rintro ⟨M, hsettled⟩ ⟨N, hstuck⟩
    have hlow := hsettled (N + M) (Nat.le_add_left M N)
    rw [watts_of_stuck hi h hstuck M] at hlow
    exact absurd hstuck.1 (Nat.not_lt.mpr hlow)
  · intro hfree
    apply settles_of_lowered (m := fun n => (stateAt (step loadShare) s events n).watts.toNat)
    · intro n
      exact step_above_le (List.mem_of_getElem? hi) (h n)
    · intro N
      by_contra hnone
      refine hfree ⟨N, stuck_of_not_lowered hi h fun n hn => ?_⟩
      have hn := not_or.mp fun hmove => hnone ⟨n, hn, hmove⟩
      exact ⟨Nat.lt_of_not_le hn.1, Nat.le_of_not_lt hn.2⟩

/-- From 8 kW, a charger that stays at 113.2 V is above the first row alone, with its cap of 7 kW.
Every cycle ramps up and cuts back by the same step, so the power stays at 8 kW. -/
theorem the_taper_is_stuck_above_one_row :
    (∀ n, TapersAt (1130, 700000)
      (stateAt (step loadShare) rampedTo8kw (steady (message 1132 0)) n)
      (steady (message 1132 0) n)) ∧
    ¬ ∃ N, ∀ n, N ≤ n →
      (stateAt (step loadShare) rampedTo8kw (steady (message 1132 0)) n).watts.toNat ≤
        700000 + 5000 := by
  constructor
  · refine steady_tapers (by decide) (by decide) (by decide) ?_
    rw [rampedTo8kw_power.2]
    decide
  · rintro ⟨N, hsettled⟩
    have hlow := hsettled N (Nat.le_refl N)
    rw [steady_stuck (by decide) (by decide) (by decide) rampedTo8kw_power N] at hlow
    exact absurd hlow (by decide)

/-- At 113.6 V a second row acts as well, so the power comes down from 8 kW. -/
theorem the_taper_settles_above_two_rows :
    ∃ N, ∀ n, N ≤ n →
      (stateAt (step loadShare) rampedTo8kw (steady (message 1136 0)) n).watts.toNat ≤
        (700000 : UInt32).toNat + 5000 := by
  refine (the_taper_settles_iff_it_is_never_stuck_for_good 0 (1130, 700000) rfl rampedTo8kw
    (steady (message 1136 0)) ?_).mpr ?_
  · refine steady_tapers (by decide) (by decide) (by decide) ?_
    rw [rampedTo8kw_power.2]
    decide
  · rintro ⟨N, hhigh, hcancels⟩
    have hcycle : steady (message 1136 0) (2 * N + 1) = .loop [] [message 1136 0] := by
      unfold steady
      rw [if_neg (by omega)]
    have hflag : (stateAt (step loadShare) rampedTo8kw (steady (message 1136 0))
        (2 * N + 1)).flagRecv ≠ 0 := by
      have hbefore : steady (message 1136 0) (2 * N) = .MCP2515_ISR := by
        unfold steady
        rw [if_pos (by omega)]
      unfold stateAt
      rw [hbefore]
      change (1 : UInt8) ≠ 0
      decide
    have hnow := hcancels (2 * N + 1) (by omega)
    rw [hcycle] at hnow
    obtain ⟨_, _, _, hafter⟩ := hnow hflag
    have hsecond : ((1135, 600000) : UInt16 × UInt32) ∈ loadShare.rows.drop 1 :=
      List.mem_cons_self
    refine hafter _ hsecond ⟨by decide, ?_⟩
    exact Nat.lt_trans (by decide) hhigh

end super_charger.load_share
