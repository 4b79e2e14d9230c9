-- The list of the chargers' currents of `Zero_charge_monitoring`: which of its places a
-- call uses, when a byte counts the messages of a window.
import SuperCharger.ChargeWindow
import Mathlib.Data.List.Basic

namespace super_charger.charge_monitor

open charger_message zero runs windows

/-! ## The places of the list -/

/-- The indices of `chargerAmpsList` that a message uses: of the store, and of the sum. -/
def indices (connectedChargers : UInt8) : List Int :=
  (connectedChargers.toNat - 1) :: (List.range connectedChargers.toNat).map Int.ofNat

/-- The list has 16 places. -/
def Within (connectedChargers : UInt8) : Prop :=
  ∀ k ∈ indices connectedChargers, 0 ≤ k ∧ k ≤ 15

/-- From the first to the sixteenth message everything stays inside the list. -/
theorem within_iff (connectedChargers : UInt8) :
    Within connectedChargers ↔ 1 ≤ connectedChargers.toNat ∧ connectedChargers.toNat ≤ 16 := by
  unfold Within indices
  rw [List.forall_mem_cons]
  constructor
  · rintro ⟨⟨hlow, hhigh⟩, _⟩
    exact ⟨by omega, by omega⟩
  · rintro ⟨hlow, hhigh⟩
    refine ⟨⟨by omega, by omega⟩, ?_⟩
    intro k hk
    obtain ⟨n, hn, rfl⟩ := List.mem_map.mp hk
    rw [List.mem_range] at hn
    rw [Int.ofNat_eq_natCast]
    exact ⟨by omega, by omega⟩

/-- The indices that a call uses. -/
def accesses (s : State) (i : Input) : List Int :=
  let s := readCommands i.serial.length (checkWindow i.platform s) i.serial
  if i.charger.isSome then indices (s.connectedChargers + 1) else []

def InBounds (s : State) (i : Input) : Prop := ∀ k ∈ accesses s i, 0 ≤ k ∧ k ≤ 15

/-- Inside the list the sum is the same, whatever lies around it. -/
theorem sumAmps_of_within {connectedChargers : UInt8} (h : Within connectedChargers)
    (p q : Platform) (chargerAmpsList : Vector Int16 16) :
    sumAmps p chargerAmpsList connectedChargers = sumAmps q chargerAmpsList connectedChargers := by
  obtain ⟨_, hhigh⟩ := (within_iff connectedChargers).mp h
  unfold sumAmps
  apply List.foldl_ext
  intro amps n hn
  have hlt : n < 16 := by
    rw [List.mem_range] at hn
    omega
  rw [getElem?_pos chargerAmpsList n hlt]
  rfl

/-- A sum that goes past the end takes the word there along. -/
theorem sumAmps_of_past {connectedChargers : UInt8} (h : 17 ≤ connectedChargers.toNat) :
    sumAmps ⟨0, fun _ => 0⟩ (Vector.replicate 16 0) connectedChargers = 0 ∧
      sumAmps ⟨0, fun k => if k = 16 then 1 else 0⟩ (Vector.replicate 16 0) connectedChargers = 1 := by
  obtain ⟨more, hmore⟩ := Nat.exists_eq_add_of_le h
  have hzero : ∀ (p : Platform) (amps : Int16) (ks : List Nat), (∀ k ∈ ks, p.outside (17 + k) = 0) →
      (ks.map (17 + ·)).foldl
        (fun amps i => amps + (Vector.replicate 16 (0 : Int16))[i]?.getD (p.outside i)) amps =
          amps := by
    intro p amps ks hks
    induction ks generalizing amps with
    | nil => rfl
    | cons k ks ih =>
      have hnone : (Vector.replicate 16 (0 : Int16))[17 + k]? = none :=
        getElem?_neg _ _ (by omega)
      rw [List.map_cons, List.foldl_cons, hnone, Option.getD_none, hks k (by simp), Int16.add_zero]
      exact ih amps fun j hj => hks j (by simp [hj])
  unfold sumAmps
  rw [hmore, List.range_add, List.foldl_append, List.foldl_append]
  constructor
  · exact hzero _ _ _ fun _ _ => rfl
  · exact hzero _ _ _ fun k _ => if_neg (by omega)

theorem storeAmps_of_within {connectedChargers : UInt8} (h : Within connectedChargers)
    (chargerAmpsList : Vector Int16 16) (amps : Int16) :
    ∃ hlt : connectedChargers.toNat - 1 < 16,
      storeAmps chargerAmpsList (connectedChargers.toNat - 1) amps =
        chargerAmpsList.set (connectedChargers.toNat - 1) amps hlt := by
  obtain ⟨hlow, hhigh⟩ := (within_iff connectedChargers).mp h
  refine ⟨by omega, ?_⟩
  unfold storeAmps
  rw [dif_pos ⟨by omega, by omega⟩]
  congr 1
  omega

/-- The indices are those of the store and of the sum: they are inside the list exactly when the
sum does not depend on what lies around it, and what is stored can be found in it. -/
theorem within_iff_kept (connectedChargers : UInt8) :
    Within connectedChargers ↔
      (∀ p q chargerAmpsList, sumAmps p chargerAmpsList connectedChargers =
        sumAmps q chargerAmpsList connectedChargers) ∧
      ∀ chargerAmpsList amps,
        amps ∈ storeAmps chargerAmpsList (connectedChargers.toNat - 1) amps := by
  constructor
  · intro h
    refine ⟨fun p q => sumAmps_of_within h p q, fun chargerAmpsList amps => ?_⟩
    obtain ⟨hlt, hstore⟩ := storeAmps_of_within h chargerAmpsList amps
    rw [hstore]
    exact Vector.mem_of_getElem (Vector.getElem_set_self hlt)
  · rintro ⟨hsum, hstore⟩
    rw [within_iff]
    constructor
    · by_contra hzero
      have hlost := hstore (Vector.replicate 16 0) 1
      unfold storeAmps at hlost
      rw [dif_neg (by omega), Vector.mem_replicate] at hlost
      exact absurd hlost.2 (by decide)
    · by_contra hmany
      have hpast : 17 ≤ connectedChargers.toNat := by omega
      obtain ⟨hfirst, hsecond⟩ := sumAmps_of_past hpast
      rw [hsum _ ⟨0, fun k => if k = 16 then 1 else 0⟩, hsecond] at hfirst
      exact absurd hfirst (by decide)

/-- A message whose places are inside the list does the same on every board. -/
theorem onCharger_of_within {s : State} (h : Within (s.connectedChargers + 1)) (p q : Platform)
    (buf : Message) : onCharger p s buf = onCharger q s buf := by
  have hsum := ((within_iff_kept _).mp h).1 p q
  unfold onCharger
  simp only
  rw [hsum]

/-! ## The messages of a window -/

/-- A call keeps to the list exactly when the count that it leaves does. -/
theorem inBounds_iff (s : State) (i : Input) :
    InBounds s i ↔ i.charger.isSome = true → Within (loop s i).connectedChargers := by
  have hread := readCommands_window i.serial.length (checkWindow i.platform s) i.serial
  have hcount := congrArg Window.connectedChargers hread
  obtain ⟨_, hwindow⟩ := checkWindow_counters i.platform s
  have hsame : (readCommands i.serial.length (checkWindow i.platform s) i.serial).connectedChargers =
      if windowEnds (await s) then 0 else s.connectedChargers := hcount.trans hwindow
  unfold InBounds accesses
  simp only
  rw [loop_connectedChargers, hsame]
  by_cases hsome : i.charger.isSome = true
  · rw [if_pos hsome, if_pos hsome]
    unfold Within
    exact ⟨fun h _ => h, fun h => h hsome⟩
  · rw [if_neg hsome]
    constructor
    · intro _ h
      exact absurd h hsome
    · intro _ k hk
      cases hk

theorem messages_nil : messages [] = 0 := rfl

/-- A call adds one message at most, and one of its own is counted. -/
theorem messages_snoc_bounds (is : List Input) (i : Input) :
    messages (is ++ [i]) ≤ messages is + 1 ∧
      (i.charger.isSome = true → 1 ≤ messages (is ++ [i])) ∧
      (i.charger.isSome = false → messages (is ++ [i]) ≤ messages is) := by
  by_cases hreset : windowLength ∣ is.length + 1
  · rw [messages_snoc_of_dvd i hreset]
    cases i.charger <;> simp
  · rw [messages_snoc_of_not_dvd i hreset]
    cases i.charger <;> simp

/-- In every run every access to the list of the chargers' currents is inside it exactly when no
window has more than 16 messages of the chargers. -/
theorem the_list_of_the_chargers_holds_iff_no_window_has_17_messages (EEPROM : Settings)
    (is : List Input) :
    Always loop InBounds (setup EEPROM) is ↔ ∀ js, js <+: is → messages js ≤ 16 := by
  induction is using List.reverseRecOn with
  | nil =>
    constructor
    · intro _ js hjs
      rw [List.prefix_nil.mp hjs, messages_nil]
      omega
    · intro _
      trivial
  | append_singleton is i ih =>
    obtain ⟨_, hcount⟩ := counter_of_run EEPROM (is ++ [i])
    obtain ⟨hone, hsome, hnone⟩ := messages_snoc_bounds is i
    have hprefix : (∀ js, js <+: is ++ [i] → messages js ≤ 16) ↔
        (∀ js, js <+: is → messages js ≤ 16) ∧ messages (is ++ [i]) ≤ 16 := by
      constructor
      · intro h
        exact ⟨fun js hjs => h js (hjs.trans (List.prefix_append is [i])),
          h _ (List.prefix_refl _)⟩
      · rintro ⟨hold, hnew⟩ js hjs
        rcases List.prefix_concat_iff.mp hjs with rfl | hjs
        · exact hnew
        · exact hold js hjs
    rw [always_append, ih, hprefix]
    refine and_congr_right (fun hold => ?_)
    have hbefore := hold is (List.prefix_refl is)
    rw [run_snoc] at hcount
    change InBounds _ i ∧ True ↔ _
    rw [and_true, inBounds_iff, within_iff, hcount]
    cases hc : i.charger.isSome with
    | true =>
      have hpos := hsome hc
      -- the count is at most 17, so the byte has not wrapped
      constructor
      · intro h
        have := h rfl
        omega
      · intro h _
        omega
    | false =>
      have hle := hnone hc
      simp only [Bool.false_eq_true, false_implies, true_iff]
      omega

/-- A message of the chargers in each call. -/
def heard (calls : Nat) : List Input := List.replicate calls (finds (some chargerHeard) none)

theorem messages_heard {calls : Nat} (h : calls < windowLength) : messages (heard calls) = calls := by
  unfold messages heard
  rw [sinceReset_of_lt (by rw [List.length_replicate]; exact h), List.countP_replicate]
  rfl

/-- 17 messages in a row: the last one is stored past the end of the list. -/
theorem seventeen_messages_leave_the_list :
    ¬ Always loop InBounds (setup ⟨1500, 116400⟩) (heard 17) := by
  have hsplit : heard 17 = heard 16 ++ [finds (some chargerHeard) none] := List.replicate_succ'
  obtain ⟨_, hcount⟩ := counter_of_run ⟨1500, 116400⟩ (heard 17)
  rw [messages_heard (by decide), hsplit, run_snoc] at hcount
  rw [hsplit, always_append]
  rintro ⟨_, hlast, _⟩
  have hwithin := (inBounds_iff _ _).mp hlast rfl
  obtain ⟨_, hhigh⟩ := (within_iff _).mp hwithin
  omega

/-! ## What lies around the list -/

/-- The same call on a board with these words around the list. -/
def Input.around (outside : Nat → Int16) (i : Input) : Input :=
  { i with platform := { i.platform with outside := outside } }

/-- A call that keeps to the list does the same whatever lies around it. -/
theorem loop_around {s : State} {i : Input}
    (h : i.charger.isSome = true → Within (loop s i).connectedChargers) (outside : Nat → Int16) :
    loop s (i.around outside) = loop s i := by
  have hwindow : checkWindow (i.around outside).platform s = checkWindow i.platform s := rfl
  have hread := readCommands_window i.serial.length (checkWindow i.platform s) i.serial
  have hcount := congrArg Window.connectedChargers hread
  obtain ⟨_, hchecked⟩ := checkWindow_counters i.platform s
  have hsame : (readCommands i.serial.length (checkWindow i.platform s) i.serial).connectedChargers =
      if windowEnds (await s) then 0 else s.connectedChargers := hcount.trans hchecked
  rw [loop_connectedChargers, ← hsame] at h
  unfold loop receive
  rw [hwindow]
  simp only [Input.around]
  generalize readCommands i.serial.length (checkWindow i.platform s) i.serial = u at *
  cases hcharger : i.charger with
  | none => rfl
  | some buf =>
    rw [hcharger] at h
    have hplaces : Within (u.connectedChargers + 1) := h rfl
    simp only [Option.elim]
    rw [onCharger_of_within hplaces { i.platform with outside := outside } i.platform]

/-- While no window has more than 16 messages of the chargers, nothing that a run does depends on
the words around the list, which C leaves open. -/
theorem run_around_the_list (EEPROM : Settings) {is : List Input}
    (h : ∀ js, js <+: is → messages js ≤ 16) (outside : Nat → Int16) :
    run loop (setup EEPROM) (is.map (Input.around outside)) = run loop (setup EEPROM) is := by
  induction is using List.reverseRecOn with
  | nil => rfl
  | append_singleton is i ih =>
    have hbefore := ih fun js hjs => h js (hjs.trans (List.prefix_append is [i]))
    obtain ⟨_, hcount⟩ := counter_of_run EEPROM (is ++ [i])
    obtain ⟨_, hsome, _⟩ := messages_snoc_bounds is i
    have hfew := h _ (List.prefix_refl _)
    rw [run_snoc] at hcount
    rw [List.map_append, List.map_singleton, run_snoc, run_snoc, hbefore]
    apply loop_around
    intro hheard
    have hone := hsome hheard
    rw [within_iff, hcount]
    omega

/-- Sixteen messages in a row are summed the same, with zeros or with ones around the list. -/
theorem run_around_the_list_heard :
    run loop (setup ⟨1500, 116400⟩) ((heard 16).map (Input.around fun _ => 1)) =
      run loop (setup ⟨1500, 116400⟩) (heard 16) := by
  refine run_around_the_list ⟨1500, 116400⟩ ?_ fun _ => 1
  intro js hjs
  unfold heard at hjs
  rw [List.prefix_replicate_iff] at hjs
  obtain ⟨hlen, hjs⟩ := hjs
  rw [hjs]
  exact (messages_heard (lt_of_le_of_lt hlen (by decide))).trans_le hlen

end super_charger.charge_monitor
