-- The three load-share sketches whose cutback loop sets the power to a cap of
-- its table, and what holds of the power after the loop.
import SuperCharger.UserLimit

namespace super_charger.load_share

open machine_int arduino charger_message running_min

/-! ## The other two sketches -/

/-- `5.7kw_load_share.ino`. -/
def loadShare5_7kw : Sketch :=
  { loadShare13kw with
    OUTPUT_WATTS_CUTBACK := [990000, 750000, 660000, 550000, 450000, 330000, 280000, 220000] }

/-- `BAJA-13kw_load_share.ino`. The last two of its voltages are out of order. Its first heartbeat,
which asks for 126.3 V, is not part of a `Sketch`. -/
def bajaLoadShare13kw : Sketch :=
  { loadShare13kw with
    OUTPUT_VOLTS_MAX := 1263
    OUTPUT_VOLTS_CUTBACK := [1000, 1140, 1210, 1230, 1240, 1250, 1255, 1250] }

def tableSketches : List Sketch := [loadShare13kw, loadShare5_7kw, bajaLoadShare13kw]

theorem tableSketches_set {sk : Sketch} (h : sk ∈ tableSketches) : SetsLimit sk := by
  unfold tableSketches at h
  simp only [List.mem_cons, List.not_mem_nil, or_false] at h
  rcases h with rfl | rfl | rfl
  · exact fun _ _ _ => rfl
  · exact fun _ _ _ => rfl
  · exact fun _ _ _ => rfl

/-- The sketch with other tables. -/
def Sketch.withTables (sk : Sketch) (volts : List UInt16) (watts : List UInt32) : Sketch :=
  { sk with OUTPUT_VOLTS_CUTBACK := volts, OUTPUT_WATTS_CUTBACK := watts }

theorem setsLimit_withTables {sk : Sketch} (h : SetsLimit sk) (volts : List UInt16)
    (watts : List UInt32) : SetsLimit (sk.withTables volts watts) := h

/-! ## The power after the loop -/

/-- The power is within the cap of every row that the voltage is above. -/
def WithinCaps (sk : Sketch) (s : State) : Prop :=
  ∀ (i : Nat) (volts : UInt16) (cap : UInt32), sk.OUTPUT_VOLTS_CUTBACK[i]? = some volts →
    sk.OUTPUT_WATTS_CUTBACK[i]? = some cap → volts < s.volts → s.watts ≤ cap

theorem stopBelowMin_le (sk : Sketch) (s : State) : (stopBelowMin sk s).watts ≤ s.watts := by
  unfold stopBelowMin
  split
  · exact UInt32.zero_le
  · exact UInt32.le_refl _

theorem cutbackLoop_within_caps {sk : Sketch} (hsk : SetsLimit sk) (s : State) :
    WithinCaps sk (cutbackLoop sk s) := by
  intro i volts cap hvolts hcap habove
  have hrow : (volts, cap) ∈ sk.rows := by
    unfold Sketch.rows
    apply List.mem_of_getElem? (i := i)
    rw [List.getElem?_zip_eq_some]
    exact ⟨hvolts, hcap⟩
  have hkept : (cutbackLoop sk s).volts = s.volts := by
    unfold cutbackLoop
    rw [cutback_frame]
  have hwalk := (cutback_setting hsk sk.rows s).1
  have hle : lowered (isAbove s.volts) (fun row => row.2.toNat) sk.rows s.watts.toNat ≤ cap.toNat :=
    lowered_le_cap hrow (hkept ▸ habove) _
  rw [UInt32.le_iff_toNat_le]
  unfold cutbackLoop
  rw [hwalk]
  exact hle

/-- The stop that comes after the loop only lowers the power. -/
theorem flagRecvBlock_within_caps {sk : Sketch} (hsk : SetsLimit sk) (s : State)
    (batch : List Message) : WithinCaps sk (flagRecvBlock sk s batch) := by
  intro i volts cap hvolts hcap habove
  rw [flagRecvBlock_frame] at habove ⊢
  simp only at habove ⊢
  rw [chooseWatts_eq] at habove ⊢
  have hstop := stopBelowMin_frame sk (cutbackLoop sk (stopAboveMax sk (powered sk s batch)))
  rw [hstop] at habove
  exact UInt32.le_trans (stopBelowMin_le sk _)
    (cutbackLoop_within_caps hsk _ i volts cap hvolts hcap habove)

/-- After the block the power is within the cap of every row that the voltage is above, with the
tables of each sketch and with any other two of equal length. -/
theorem the_power_is_within_every_cap_that_applies (sk : Sketch) (hsk : sk ∈ tableSketches)
    (s : State) (batch : List Message) :
    WithinCaps sk (flagRecvBlock sk s batch) ∧
      ∀ (volts : List UInt16) (watts : List UInt32), volts.length = watts.length →
        WithinCaps (sk.withTables volts watts)
          (flagRecvBlock (sk.withTables volts watts) s batch) := by
  have hset : SetsLimit sk := tableSketches_set hsk
  exact ⟨flagRecvBlock_within_caps hset s batch,
    fun volts watts _ =>
      flagRecvBlock_within_caps (setsLimit_withTables hset volts watts) s batch⟩

/-- With a limit of 0 the clamp wraps to the top of the range. At 125.2 V the last row of the BAJA
tables applies beside the others, and the power is within 4 kW. -/
theorem the_power_is_within_caps_after_a_wrap :
    (flagRecvBlock bajaLoadShare13kw (setup bajaLoadShare13kw ⟨fun _ => 0, 0⟩)
      [message 1252 0]).watts ≤ 400000 :=
  (the_power_is_within_every_cap_that_applies bajaLoadShare13kw
    (List.mem_cons_of_mem _ (List.mem_cons_of_mem _ List.mem_cons_self)) _ _).1 7 1250 400000
    rfl rfl (by decide)

end super_charger.load_share
