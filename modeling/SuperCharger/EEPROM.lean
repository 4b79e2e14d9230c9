-- The stored settings: the built-in EEPROM library and the bundled EEPROMEx,
-- which counts the writes and refuses those past its limit.
import SuperCharger.MachineInt
import SuperCharger.Runs
import Mathlib.Logic.Function.Basic

namespace super_charger.eeprom

open runs

/-- The 32-bit words of the EEPROM. Every sketch keeps its settings at multiples of 4, so no
two of them share a byte. `_writeCounts` is the counter of EEPROMEx, 0 at power-up. -/
structure EEPROM where
  words : Nat → UInt32
  _writeCounts : Int16

def get (e : EEPROM) (address : Nat) : UInt32 := e.words address

def put (e : EEPROM) (address : Nat) (value : UInt32) : EEPROM :=
  { e with words := Function.update e.words address value }

namespace EEPROMClassEx

def _allowedWrites : Int16 := 100
def _memSize : Int16 := 512

def isWriteOk (e : EEPROM) (address : Int16) : Bool × EEPROM :=
  let e := { e with _writeCounts := e._writeCounts + 1 }
  if _allowedWrites = 0 ∨ e._writeCounts > _allowedWrites then (false, e)
  else if address > _memSize then (false, e)
  else (true, e)

def writeLong (e : EEPROM) (address : Nat) (value : UInt32) : Bool × EEPROM :=
  match isWriteOk e (Int16.ofNat address + 4) with
  | (false, e) => (false, e)
  | (true, e) => (true, put e address value)

def isReadOk (address : Int16) : Bool := !(address > _memSize)

def readLong (e : EEPROM) (address : Nat) : UInt32 :=
  if isReadOk (Int16.ofNat address + 4) then e.words address else 0

/-! ## Writes to several words -/

/-- An address and the value that is written there, with the result of the write ignored. -/
def store (e : EEPROM) (w : Nat × UInt32) : EEPROM := (writeLong e w.1 w.2).2

/-- The library accepts the write. -/
def Accepts (e : EEPROM) (w : Nat × UInt32) : Prop := (writeLong e w.1 w.2).1 = true

instance (e : EEPROM) (w : Nat × UInt32) : Decidable (Accepts e w) :=
  inferInstanceAs (Decidable (_ = true))

theorem isWriteOk_words (e : EEPROM) (address : Int16) :
    (isWriteOk e address).2.words = e.words := by
  unfold isWriteOk
  simp only
  split
  · rfl
  · split <;> rfl

theorem store_of_accepts {e : EEPROM} {w : Nat × UInt32} (h : Accepts e w) :
    (store e w).words = Function.update e.words w.1 w.2 := by
  have hwords := isWriteOk_words e (Int16.ofNat w.1 + 4)
  unfold Accepts at h
  unfold store
  unfold writeLong at h ⊢
  split at h
  · cases h
  · rename_i e' hok
    rw [hok] at hwords
    change Function.update e'.words w.1 w.2 = _
    rw [← hwords]

theorem store_of_refuses {e : EEPROM} {w : Nat × UInt32} (h : ¬ Accepts e w) :
    (store e w).words = e.words := by
  have hwords := isWriteOk_words e (Int16.ofNat w.1 + 4)
  unfold Accepts at h
  unfold store
  unfold writeLong at h ⊢
  split at h
  · rename_i e' hok
    rw [hok] at hwords
    exact hwords
  · exact absurd rfl h

/-- A write changes no word but its own. -/
theorem store_other (e : EEPROM) {w : Nat × UInt32} {address : Nat} (h : address ≠ w.1) :
    (store e w).words address = e.words address := by
  by_cases hw : Accepts e w
  · rw [store_of_accepts hw, Function.update_of_ne h]
  · rw [store_of_refuses hw]

theorem run_store_other {e : EEPROM} {writes : List (Nat × UInt32)} {address : Nat}
    (h : address ∉ writes.map Prod.fst) :
    (run store e writes).words address = e.words address := by
  induction writes generalizing e with
  | nil => rfl
  | cons w writes ih =>
    simp only [List.map_cons, List.mem_cons, not_or] at h
    rw [run_cons, ih h.2, store_other e h.1]

/-- The write is accepted, or refused where the word is as good as the value. -/
def Lands (Same : Nat → UInt32 → UInt32 → Prop) (e : EEPROM) (w : Nat × UInt32) : Prop :=
  Accepts e w ∨ Same w.1 (e.words w.1) w.2

theorem lands_iff {Same : Nat → UInt32 → UInt32 → Prop} (hrefl : ∀ a v, Same a v v) (e : EEPROM)
    (w : Nat × UInt32) : Lands Same e w ↔ Same w.1 ((store e w).words w.1) w.2 := by
  unfold Lands
  by_cases hw : Accepts e w
  · rw [store_of_accepts hw, Function.update_self]
    exact iff_of_true (Or.inl hw) (hrefl _ _)
  · rw [store_of_refuses hw]
    exact or_iff_right hw

/-- After writes to different words each of them is as good as written exactly when every
write lands. -/
theorem all_land_iff {Same : Nat → UInt32 → UInt32 → Prop} (hrefl : ∀ a v, Same a v v)
    {writes : List (Nat × UInt32)} (hdistinct : (writes.map Prod.fst).Nodup) (e : EEPROM) :
    Always store (Lands Same) e writes ↔
      ∀ w ∈ writes, Same w.1 ((run store e writes).words w.1) w.2 := by
  induction writes generalizing e with
  | nil => simp [Always]
  | cons w writes ih =>
    obtain ⟨hnot, hrest⟩ := List.nodup_cons.mp hdistinct
    rw [List.forall_mem_cons, run_cons, run_store_other hnot, ← lands_iff hrefl]
    exact and_congr_right (fun _ => ih hrest _)

end EEPROMClassEx

end super_charger.eeprom
