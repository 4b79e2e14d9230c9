-- The timer of `v2.6`: how long a heartbeat can take to come, whatever the
-- frames are, and how a pack that takes more than 1C brings it forward.
import SuperCharger.V26Frames

namespace super_charger.v26

open zero runs

/-! ## What a call does to the timer -/

/-- The timer of `u` stands at or below that of `s`, and has not run out before it. -/
structure Earlier (s u : State) : Prop where
  le : u.delayItteration.toInt ≤ s.delayItteration.toInt
  pos : 1 ≤ s.delayItteration.toInt → 1 ≤ u.delayItteration.toInt

theorem earlier_of_same {s u : State} (h : u.delayItteration = s.delayItteration) :
    Earlier s u := by
  constructor
  · rw [h]
  · rw [h]
    exact id

theorem Earlier.trans {s u v : State} (h1 : Earlier s u) (h2 : Earlier u v) : Earlier s v :=
  ⟨Int.le_trans h2.le h1.le, fun h => h2.pos (h1.pos h)⟩

theorem hurry_earlier (s : State) (isOver : Bool) : Earlier s (hurry s isOver) := by
  unfold hurry
  split
  · rename_i h
    have habove := Int32.lt_iff_toInt_lt.mp h.2.2
    simp only [Int32.reduceToInt] at habove
    constructor
    · simp only [Int32.reduceToInt]
      omega
    · intro _
      simp
  · exact earlier_of_same rfl

/-- A pack over its capacity leaves the timer at 10 or below, wherever it stood. -/
theorem hurry_of_over {s : State} {isOver : Bool} (hover : isOver = true) (hC : s.CPlus < 1) :
    (hurry s isOver).delayItteration.toInt ≤ 10 := by
  unfold hurry
  split
  · simp
  · rename_i h
    have hnot : ¬ s.delayItteration > 10 := fun hd => h ⟨hover, hC, hd⟩
    rw [gt_iff_lt, Int32.lt_iff_toInt_lt] at hnot
    simp only [Int32.reduceToInt] at hnot
    omega

/-- The amps of a pack may bring the timer down. -/
theorem monolithAmps_hurries (s : State) (f : Frame) :
    ∃ u, blocks.monolithAmps s f = hurry u u.monolithOver ∧
      u.delayItteration = s.delayItteration := ⟨_, rfl, rfl⟩

theorem powerTankAmps_hurries (s : State) (f : Frame) :
    ∃ u, blocks.powerTankAmps s f = hurry u u.powerTankOver ∧
      u.delayItteration = s.delayItteration := ⟨_, rfl, rfl⟩

theorem receive_earlier (s : State) (f : Frame) : Earlier s (blocks.receive s f) := by
  rcases blocks.receive_cases s f with
    ⟨_, e⟩ | ⟨_, e⟩ | ⟨_, e⟩ | ⟨_, e⟩ | ⟨_, e⟩ | ⟨_, e⟩ | ⟨_, e⟩ | ⟨_, e⟩
  · rw [e]
    exact earlier_of_same rfl
  · rw [e]
    exact earlier_of_same rfl
  · obtain ⟨u, hamps, htimer⟩ := monolithAmps_hurries s f
    rw [e, hamps]
    apply (earlier_of_same htimer).trans
    obtain ⟨hle, hpos⟩ := hurry_earlier u u.monolithOver
    exact ⟨hle, hpos⟩
  · obtain ⟨u, hamps, htimer⟩ := powerTankAmps_hurries s f
    rw [e, hamps]
    apply (earlier_of_same htimer).trans
    obtain ⟨hle, hpos⟩ := hurry_earlier u u.powerTankOver
    exact ⟨hle, hpos⟩
  · rw [e]
    exact earlier_of_same rfl
  · rw [e]
    exact earlier_of_same rfl
  · rw [e]
    exact earlier_of_same rfl
  · rw [e]
    exact earlier_of_same rfl

theorem drain_earlier (s : State) (frames : List Frame) : Earlier s (blocks.drain s frames) :=
  Blocks.drain_invariant (P := Earlier s) (fun u f hu => hu.trans (receive_earlier u f))
    (earlier_of_same rfl) frames

/-- The state in which a call starts to read the bike bus. -/
def atBike (s : State) (i : Input) : State :=
  i.charger.foldl receiveCharger (readCommands s i.serial)

theorem atBike_timer (s : State) (i : Input) :
    (atBike s i).delayItteration = s.delayItteration := by
  unfold atBike
  refine chargers_invariant (I := fun u => u.delayItteration = s.delayItteration)
    (fun _ _ hu => hu) ?_ i.charger
  refine readCommands_invariant (I := fun u => u.delayItteration = s.delayItteration) ?_ rfl
    i.serial
  intro u c hu
  rw [applyCommand_eq]
  exact hu

/-- The timer is counted down once, from where the frames leave it. -/
theorem polled_timer {s : State} {i : Input} (h : 1 ≤ s.delayItteration.toInt) :
    (polled s i).delayItteration.toInt =
      (blocks.drain (atBike s i) i.bike).delayItteration.toInt - 1 := by
  have hpos := (drain_earlier (atBike s i) i.bike).pos
  rw [atBike_timer] at hpos
  have hone := hpos h
  have hlt := (blocks.drain (atBike s i) i.bike).delayItteration.toInt_lt
  have hcount : 0 < (blocks.drain (atBike s i) i.bike).delayItteration := by
    rw [Int32.lt_iff_toInt_lt]
    simp only [Int32.reduceToInt]
    omega
  unfold polled
  change (if 0 < (blocks.drain (atBike s i) i.bike).delayItteration then
    { blocks.drain (atBike s i) i.bike with
      delayItteration := (blocks.drain (atBike s i) i.bike).delayItteration - 1 }
    else blocks.drain (atBike s i) i.bike).delayItteration.toInt = _
  rw [if_pos hcount, Int32.toInt_sub]
  simp only [Int32.reduceToInt]
  rw [Int.bmod_def]
  split <;> omega

theorem heartbeat_timer (p : derating.Platform) (s : State) :
    (heartbeat p s).delayItteration = 22000 := by
  unfold heartbeat
  rw [setChargingAmps_eq, refresh_frame]

theorem loop_of_due {s : State} {i : Input} (h : Due s i) :
    (loop s i).delayItteration = 22000 := by
  have hloop : loop s i = heartbeat i.platform (polled s i) := if_pos h
  rw [hloop]
  exact heartbeat_timer _ _

/-- A call without a heartbeat lowers the timer, and does not run it out. -/
theorem loop_of_quiet {s : State} {i : Input} (h : 1 ≤ s.delayItteration.toInt)
    (hquiet : ¬ Due s i) :
    1 ≤ (loop s i).delayItteration.toInt ∧
      (loop s i).delayItteration.toInt < (blocks.drain (atBike s i) i.bike).delayItteration.toInt := by
  have htimer := polled_timer (i := i) h
  unfold Due at hquiet
  rw [Int32.lt_iff_toInt_lt] at hquiet
  simp only [Int32.reduceToInt] at hquiet
  rw [loop_of_not_due (i := i) (by
    unfold Due
    rw [Int32.lt_iff_toInt_lt]
    simp only [Int32.reduceToInt]
    exact hquiet)]
  omega

/-! ## Runs -/

/-- The timer runs, and stands at `limit` at most. -/
def Within (limit : Int) (s : State) : Prop :=
  1 ≤ s.delayItteration.toInt ∧ s.delayItteration.toInt ≤ limit

theorem loop_within {limit : Int} (hlimit : 22000 ≤ limit) {s : State} {i : Input}
    (h : Within limit s) : Within limit (loop s i) := by
  by_cases hdue : Due s i
  · unfold Within
    rw [loop_of_due hdue]
    simp only [Int32.reduceToInt]
    omega
  · obtain ⟨hpos, hlt⟩ := loop_of_quiet h.1 hdue
    have hle := (drain_earlier (atBike s i) i.bike).le
    rw [atBike_timer] at hle
    have hlim := h.2
    exact ⟨hpos, by omega⟩

theorem run_within {limit : Int} (hlimit : 22000 ≤ limit) {s : State} (h : Within limit s)
    (is : List Input) : Within limit (run loop s is) :=
  run_invariant (I := Within limit) (fun _ _ hs => loop_within hlimit hs) h is

theorem setup_within (EEPROM : Settings) : Within 55000 (setup EEPROM) := by
  have htimer : (setup EEPROM).delayItteration = 55000 := rfl
  unfold Within
  rw [htimer]
  decide

/-- As many calls as the timer counts reach a heartbeat, whatever they find. -/
theorem occurs_of_timer {s : State} {is : List Input} (h : 1 ≤ s.delayItteration.toInt)
    (hlen : s.delayItteration.toInt ≤ is.length) : Occurs loop Due s is := by
  refine occurs_of_countdown (I := fun u : State => 1 ≤ u.delayItteration.toInt)
    (fun u => u.delayItteration.toInt.toNat) ?_ ?_ h (by omega)
  · intro u hu
    omega
  · intro u i hu hquiet
    obtain ⟨hpos, hlt⟩ := loop_of_quiet hu hquiet
    have hle := (drain_earlier (atBike u i) i.bike).le
    rw [atBike_timer] at hle
    exact ⟨hpos, by omega⟩

/-- Once a heartbeat has been sent, the timer never stands above 22000 again. -/
theorem within_of_occurs {s : State} {is : List Input} (h : Occurs loop Due s is) :
    Within 22000 (run loop s is) := by
  induction is generalizing s with
  | nil => exact absurd h id
  | cons i is ih =>
    rcases h with hdue | hlater
    · refine run_within (Int.le_refl _) ?_ is
      unfold Within
      rw [loop_of_due hdue]
      decide
    · exact ih hlater

/-! ## A pack over its capacity -/

/-- `f` is the active-data frame of a pack, and leaves it over its capacity with `CPlus` off. -/
def LeavesOver (u : State) (f : Frame) : Prop :=
  (f.id = BMS_PACK_ACTIVE_DATA ∧ u.monolithOver = true ∨
    f.id = BMS1_PACK_ACTIVE_DATA ∧ u.powerTankOver = true) ∧ u.CPlus < 1

instance (u : State) (f : Frame) : Decidable (LeavesOver u f) :=
  inferInstanceAs (Decidable ((_ ∨ _) ∧ _))

@[simp] theorem hurry_monolithOver (s : State) (isOver : Bool) :
    (hurry s isOver).monolithOver = s.monolithOver := by
  unfold hurry
  split <;> rfl

@[simp] theorem hurry_powerTankOver (s : State) (isOver : Bool) :
    (hurry s isOver).powerTankOver = s.powerTankOver := by
  unfold hurry
  split <;> rfl

@[simp] theorem hurry_CPlus (s : State) (isOver : Bool) :
    (hurry s isOver).CPlus = s.CPlus := by
  unfold hurry
  split <;> rfl

theorem receive_of_over {s : State} {f : Frame} (h : LeavesOver (blocks.receive s f) f) :
    (blocks.receive s f).delayItteration.toInt ≤ 10 := by
  obtain ⟨⟨hid, hover⟩ | ⟨hid, hover⟩, hC⟩ := h
  · obtain ⟨u, hamps, _⟩ := monolithAmps_hurries s f
    rw [blocks.receive_monolithActive s hid, hamps] at hover hC ⊢
    change (hurry u u.monolithOver).monolithOver = true at hover
    change (hurry u u.monolithOver).CPlus < 1 at hC
    rw [hurry_monolithOver] at hover
    rw [hurry_CPlus] at hC
    exact hurry_of_over hover hC
  · obtain ⟨u, hamps, _⟩ := powerTankAmps_hurries s f
    rw [blocks.receive_powerTankActive s hid, hamps] at hover hC ⊢
    change (hurry u u.powerTankOver).powerTankOver = true at hover
    change (hurry u u.powerTankOver).CPlus < 1 at hC
    rw [hurry_powerTankOver] at hover
    rw [hurry_CPlus] at hC
    exact hurry_of_over hover hC

/-- After such a frame the timer stands at 10 or below when the bus is drained, whatever the
frames that follow it. -/
theorem drain_of_over {s : State} {before after : List Frame} {f : Frame}
    (h : LeavesOver (blocks.receive (blocks.drain s before) f) f) :
    (blocks.drain s (before ++ f :: after)).delayItteration.toInt ≤ 10 := by
  have hsplit : blocks.drain s (before ++ f :: after) =
      blocks.drain (blocks.receive (blocks.drain s before) f) after := List.foldl_append
  have hten := receive_of_over h
  have hle := (drain_earlier (blocks.receive (blocks.drain s before) f) after).le
  rw [hsplit]
  omega

/-- The state right after the frame `f` of a call, when the frames `before` came before it. -/
def afterFrame (s : State) (i : Input) (before : List Frame) (f : Frame) : State :=
  blocks.receive (blocks.drain (atBike s i) before) f

theorem occurs_sends_iff (s : State) (is : List Input) :
    Occurs loop Sends s is ↔ Occurs loop Due s is := by
  induction is generalizing s with
  | nil => rfl
  | cons i is ih => exact or_congr (sends_iff_due s i) (ih _)

/-- In every run the timer stays between 1 and 55000, and at 22000 at most once a heartbeat has
been sent. So after a heartbeat the next 22000 calls send another one, and a frame that leaves
its pack over its capacity brings a heartbeat in its call or in one of the next nine. -/
theorem the_heartbeat_never_starves (EEPROM : Settings) (is : List Input) :
    let s := run loop (setup EEPROM) is
    Within 55000 s ∧
    (Occurs loop Sends (setup EEPROM) is → Within 22000 s) ∧
    (∀ i js, Sends s i → js.length = 22000 → Occurs loop Sends (loop s i) js) ∧
    ∀ i before f after js, i.bike = before ++ f :: after →
      LeavesOver (afterFrame s i before f) f → js.length = 9 →
        Sends s i ∨ Occurs loop Sends (loop s i) js := by
  intro s
  have hwithin : Within 55000 s := run_within (by omega) (setup_within EEPROM) is
  simp only [occurs_sends_iff, sends_iff_due]
  refine ⟨hwithin, within_of_occurs, ?_, ?_⟩
  · intro i js hdue hlen
    have hset := loop_of_due hdue
    apply occurs_of_timer
    · rw [hset]
      decide
    · rw [hset, hlen]
      decide
  · intro i before f after js hbike hover hlen
    by_cases hdue : Due s i
    · exact Or.inl hdue
    · right
      have hten : (blocks.drain (atBike s i) i.bike).delayItteration.toInt ≤ 10 := by
        rw [hbike]
        exact drain_of_over hover
      obtain ⟨hpos, hlt⟩ := loop_of_quiet hwithin.1 hdue
      exact occurs_of_timer hpos (by omega)

/-- A pack of 10 Ah that takes 20 A. -/
def packOver : List Frame :=
  [configFrame BMS_PACK_CONFIG 10, activeFrame BMS_PACK_ACTIVE_DATA 20 20 20]

/-- From power-up the pack brings a heartbeat within nine calls, and from that heartbeat the next
is 22000 calls away at most, with nothing on either bus. -/
theorem a_pack_over_its_capacity_brings_a_heartbeat :
    let s := run loop (setup usualSettings) (upToHeartbeat packOver)
    (Sends (setup usualSettings) (fromBike packOver) ∨
      Occurs loop Sends (loop (setup usualSettings) (fromBike packOver))
        (List.replicate 9 (fromBike []))) ∧
    Occurs loop Sends (loop s (fromBike [])) (List.replicate 22000 (fromBike [])) := by
  constructor
  · refine (the_heartbeat_never_starves usualSettings []).2.2.2 (fromBike packOver)
      [configFrame BMS_PACK_CONFIG 10] (activeFrame BMS_PACK_ACTIVE_DATA 20 20 20) [] _ rfl ?_
      List.length_replicate
    decide +kernel
  · refine (the_heartbeat_never_starves usualSettings (upToHeartbeat packOver)).2.2.1 (fromBike [])
      _ ?_ List.length_replicate
    decide +kernel

end super_charger.v26
