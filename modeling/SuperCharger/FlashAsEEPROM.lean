-- The EEPROM that is emulated in flash (FlashAsEEPROM.cpp): what the program reads over any calls
-- and restarts, what each commit costs, and what is left when the power fails in a commit.
import SuperCharger.FlashStorage
import Mathlib.Algebra.Order.Ring.Int

namespace super_charger.flash_eeprom

open runs paged_flash flash_storage

variable {σ : Type*} {SIZE : Nat}

/-! ## The class -/

/-- The fields of `EEPROMClass`, with those of its copy of the record: `valid` is the byte that a
`boolean` is. -/
structure EEPROMClass (SIZE : Nat) where
  _initialized : Bool
  data : Vector UInt8 SIZE
  valid : UInt8
  _dirty : Bool

/-- The object when the program starts. -/
def constructed (SIZE : Nat) : EEPROMClass SIZE where
  _initialized := false
  data := Vector.replicate SIZE 0
  valid := 0
  _dirty := false

/-- The reserved flash: a record of the data and the flag, at the start of a row. -/
structure Reserved (SIZE : Nat) extends FlashClass where
  size : flash_size = SIZE + 1
  aligned : flash_address % toFlashClass.ROW_SIZE = 0

section Calls

variable (m : Flash σ) (f : Reserved SIZE)

def init (e : EEPROMClass SIZE) (s : σ) : EEPROMClass SIZE :=
  let valid := m.cell s (f.flash_address + SIZE)
  { e with
    data :=
      if valid = 0 then Vector.replicate SIZE 0xFF
      else Vector.ofFn fun i => m.cell s (f.flash_address + i.val)
    valid
    _initialized := true }

/-- `if (!_initialized) init();` -/
def ready (e : EEPROMClass SIZE) (s : σ) : EEPROMClass SIZE :=
  if e._initialized then e else init m f e s

def update (e : EEPROMClass SIZE) (address : Fin SIZE) (value : UInt8) (s : σ) :
    EEPROMClass SIZE :=
  let e := ready m f e s
  if e.data.get address ≠ value then
    { e with _dirty := true, data := e.data.set address.val value }
  else e

def write (e : EEPROMClass SIZE) (address : Fin SIZE) (value : UInt8) (s : σ) :
    EEPROMClass SIZE :=
  update m f e address value s

/-- The bytes of the record in memory, and those that come after it. -/
def record (e : EEPROMClass SIZE) (past : Nat → UInt8) (i : Nat) : UInt8 :=
  if h : i < SIZE then e.data[i] else if i = SIZE then e.valid else past i

/-- The object after `commit`, and what it has told the flash to do. `_dirty` stays set. -/
def commit (e : EEPROMClass SIZE) (past : Nat → UInt8) (s : σ) :
    EEPROMClass SIZE × List Command :=
  let e := ready m f e s
  if e._dirty then
    let e := { e with valid := 1 }
    (e, f.store (record e past))
  else (e, [])

end Calls

/-! ## Runs -/

/-- A call, or a start of the program. `past` is the memory after the record, which the last word
of a write takes along. -/
inductive Call (SIZE : Nat) where
  | read (address : Fin SIZE)
  | update (address : Fin SIZE) (value : UInt8)
  | write (address : Fin SIZE) (value : UInt8)
  | isValid
  | commit (past : Nat → UInt8)
  | restart

/-- What a call shows: a byte, a flag, or the rows that it erases. -/
inductive Shown where
  | byte (value : UInt8)
  | flag (value : Bool)
  | erased (rows : Nat)
  | nothing
  deriving DecidableEq

def step (m : Flash σ) (f : Reserved SIZE) (q : EEPROMClass SIZE × σ) :
    Call SIZE → EEPROMClass SIZE × σ
  | .read _ | .isValid => (ready m f q.1 q.2, q.2)
  | .update address value => (update m f q.1 address value q.2, q.2)
  | .write address value => (write m f q.1 address value q.2, q.2)
  | .commit past =>
    let r := commit m f q.1 past q.2
    (r.1, run m.exec q.2 r.2)
  | .restart => (constructed SIZE, q.2)

def shown (m : Flash σ) (f : Reserved SIZE) (q : EEPROMClass SIZE × σ) : Call SIZE → Shown
  | .read address => .byte ((ready m f q.1 q.2).data.get address)
  | .isValid => .flag ((ready m f q.1 q.2).valid ≠ 0)
  | .commit past => .erased (FlashClass.erases (commit m f q.1 past q.2).2)
  | .update .. | .write .. | .restart => .nothing

/-! ## The store that it is -/

/-- What survives a restart, what the program works on, and whether a byte has changed since the
program started. -/
structure Store (SIZE : Nat) where
  committed : Option (Vector UInt8 SIZE)
  working : Vector UInt8 SIZE
  changed : Bool

/-- What is committed, or ones. -/
def Store.restored (committed : Option (Vector UInt8 SIZE)) : Vector UInt8 SIZE :=
  committed.getD (Vector.replicate SIZE 0xFF)

def Store.start (committed : Option (Vector UInt8 SIZE)) : Store SIZE where
  committed
  working := restored committed
  changed := false

def Store.set (a : Store SIZE) (address : Fin SIZE) (value : UInt8) : Store SIZE where
  committed := a.committed
  working := a.working.set address.val value
  changed := a.changed || a.working.get address != value

def Store.step (a : Store SIZE) : Call SIZE → Store SIZE
  | .read _ | .isValid => a
  | .update address value | .write address value => a.set address value
  | .commit _ => if a.changed then { a with committed := some a.working } else a
  | .restart => start a.committed

/-- Once a byte has changed every commit until the next start rewrites all rows, whether or not
anything has changed since the last one. -/
def Store.shown (rows : Nat) (a : Store SIZE) : Call SIZE → Shown
  | .read address => .byte (a.working.get address)
  | .isValid => .flag a.committed.isSome
  | .commit _ => .erased (if a.changed then rows else 0)
  | .update .. | .write .. | .restart => .nothing

/-- What the flash holds. -/
def committedIn (m : Flash σ) (f : Reserved SIZE) (s : σ) : Option (Vector UInt8 SIZE) :=
  if m.cell s (f.flash_address + SIZE) = 0 then none
  else some (Vector.ofFn fun i => m.cell s (f.flash_address + i.val))

/-- The object and the flash stand for the store. -/
structure Represents (m : Flash σ) (f : Reserved SIZE) (q : EEPROMClass SIZE × σ)
    (a : Store SIZE) : Prop where
  flash : committedIn m f q.2 = a.committed
  data : (ready m f q.1 q.2).data = a.working
  valid : (ready m f q.1 q.2).valid ≠ 0 ↔ a.committed.isSome
  dirty : q.1._dirty = a.changed

/-! ## The object keeps the store -/

section Refinement

variable {m : Flash σ} {f : Reserved SIZE}

theorem ready_initialized (e : EEPROMClass SIZE) (s : σ) :
    (ready m f e s)._initialized = true := by
  unfold ready
  split
  · assumption
  · rfl

theorem ready_of_initialized {e : EEPROMClass SIZE} (h : e._initialized = true) (s : σ) :
    ready m f e s = e := if_pos h

theorem ready_dirty (e : EEPROMClass SIZE) (s : σ) : (ready m f e s)._dirty = e._dirty := by
  unfold ready
  split <;> rfl

/-- A program that starts works on what the flash holds. -/
theorem represents_constructed (s : σ) :
    Represents m f (constructed SIZE, s) (Store.start (committedIn m f s)) where
  flash := rfl
  data := by
    change (if _ then _ else _) = Store.restored (committedIn m f s)
    unfold committedIn Store.restored
    split <;> rfl
  valid := by
    change m.cell s (f.flash_address + SIZE) ≠ 0 ↔ (committedIn m f s).isSome
    unfold committedIn
    split <;> simp_all
  dirty := rfl

/-- After a write of the record the flash holds it. -/
theorem committedIn_store (h : Lawful m f.PAGE_SIZE f.ROW_SIZE) (e : EEPROMClass SIZE)
    (hvalid : e.valid ≠ 0) (past : Nat → UInt8) (s : σ) :
    committedIn m f (run m.exec s (f.store (record e past))) = some e.data := by
  have hholds := FlashClass.holds_store h f.aligned (record e past) s
  have hsize := f.size_le_written
  rw [f.size] at hsize
  have hcell : ∀ i ≤ SIZE, m.cell (run m.exec s (f.store (record e past))) (f.flash_address + i) =
      record e past i := by
    intro i hi
    rw [hholds, if_pos (by omega), Nat.add_sub_cancel_left]
  have hflag : record e past SIZE = e.valid := by simp [record]
  unfold committedIn
  rw [hcell SIZE (Nat.le_refl _), hflag, if_neg hvalid]
  congr 1
  apply Vector.ext
  intro i hi
  rw [Vector.getElem_ofFn, hcell i (by omega)]
  exact dif_pos hi

theorem represents_of_initialized {e : EEPROMClass SIZE} {s : σ} {a : Store SIZE}
    (hinit : e._initialized = true) (hflash : committedIn m f s = a.committed)
    (hdata : e.data = a.working) (hvalid : e.valid ≠ 0 ↔ a.committed.isSome)
    (hdirty : e._dirty = a.changed) : Represents m f (e, s) a where
  flash := hflash
  data := by rw [ready_of_initialized hinit, hdata]
  valid := by rw [ready_of_initialized hinit, hvalid]
  dirty := hdirty

theorem represents_ready {q : EEPROMClass SIZE × σ} {a : Store SIZE} (h : Represents m f q a) :
    Represents m f (ready m f q.1 q.2, q.2) a :=
  represents_of_initialized (ready_initialized _ _) h.flash h.data h.valid
    ((ready_dirty _ _).trans h.dirty)

theorem represents_update {q : EEPROMClass SIZE × σ} {a : Store SIZE} (h : Represents m f q a)
    (address : Fin SIZE) (value : UInt8) :
    Represents m f (update m f q.1 address value q.2, q.2) (a.set address value) := by
  have hinit := ready_initialized (m := m) (f := f) q.1 q.2
  have hdirty := (ready_dirty (m := m) (f := f) q.1 q.2).trans h.dirty
  have hdata := h.data
  have hvalid := h.valid
  unfold update Store.set
  dsimp only
  generalize ready m f q.1 q.2 = e at *
  split
  · next hne =>
    refine represents_of_initialized hinit h.flash ?_ hvalid ?_
    · simp [hdata]
    · rw [hdata] at hne
      simp [hne]
  · next heq =>
    rw [hdata, not_not] at heq
    refine represents_of_initialized hinit h.flash ?_ hvalid ?_
    · rw [hdata, ← heq]
      exact (Vector.set_getElem_self address.isLt).symm
    · simp [heq, hdirty]

theorem represents_commit (hlawful : Lawful m f.PAGE_SIZE f.ROW_SIZE)
    {q : EEPROMClass SIZE × σ} {a : Store SIZE} (h : Represents m f q a) (past : Nat → UInt8) :
    Represents m f (step m f q (.commit past)) (a.step (.commit past)) := by
  have hinit := ready_initialized (m := m) (f := f) q.1 q.2
  have hdirty := (ready_dirty (m := m) (f := f) q.1 q.2).trans h.dirty
  have hdata := h.data
  have hvalid := h.valid
  have hcommitted := committedIn_store hlawful { ready m f q.1 q.2 with valid := 1 }
    (show (1 : UInt8) ≠ 0 by decide) past q.2
  change Represents m f ((commit m f q.1 past q.2).1, run m.exec q.2 (commit m f q.1 past q.2).2) _
  unfold commit Store.step
  dsimp only
  generalize ready m f q.1 q.2 = e at *
  cases hchanged : a.changed with
  | true =>
    rw [if_pos (hdirty.trans hchanged)]
    exact represents_of_initialized hinit (hcommitted.trans (congrArg some hdata)) hdata (by simp)
      (hdirty.trans hchanged)
  | false =>
    rw [if_neg (by rw [hdirty, hchanged]; decide)]
    exact represents_of_initialized hinit h.flash hdata hvalid hdirty

theorem erases_commit {q : EEPROMClass SIZE × σ} {a : Store SIZE} (h : Represents m f q a)
    (past : Nat → UInt8) :
    FlashClass.erases (commit m f q.1 past q.2).2 =
      if a.changed then f.rows (SIZE + 1) else 0 := by
  have hdirty := (ready_dirty (m := m) (f := f) q.1 q.2).trans h.dirty
  unfold commit
  dsimp only
  rw [hdirty]
  split
  · rw [FlashClass.erases_store, f.size]
  · rfl

theorem represents_step (hlawful : Lawful m f.PAGE_SIZE f.ROW_SIZE) (q : EEPROMClass SIZE × σ)
    (a : Store SIZE) (c : Call SIZE) (h : Represents m f q a) :
    Represents m f (step m f q c) (a.step c) := by
  cases c with
  | read | isValid => exact represents_ready h
  | update address value | write address value => exact represents_update h address value
  | commit past => exact represents_commit hlawful h past
  | restart =>
    have hstart := represents_constructed (m := m) (f := f) q.2
    rwa [h.flash] at hstart

theorem shown_of_represents (q : EEPROMClass SIZE × σ) (a : Store SIZE) (c : Call SIZE)
    (h : Represents m f q a) : shown m f q c = Store.shown (f.rows (SIZE + 1)) a c := by
  cases c with
  | read address => exact congrArg (Shown.byte <| ·.get address) h.data
  | isValid =>
    have hvalid := h.valid
    simp only [shown, Store.shown, Shown.flag.injEq]
    cases hsome : a.committed.isSome <;> simp_all
  | commit past => exact congrArg Shown.erased (erases_commit h past)
  | update | write | restart => rfl

/-- Over any calls, commits and restarts the emulation shows what the store shows that starts with
what the flash holds. -/
theorem emulation_refines_store (hlawful : Lawful m f.PAGE_SIZE f.ROW_SIZE) (s : σ)
    (calls : List (Call SIZE)) :
    trace (step m f) (shown m f) (constructed SIZE, s) calls =
      trace Store.step (Store.shown (f.rows (SIZE + 1))) (Store.start (committedIn m f s)) calls :=
  (trace_of_simulation shown_of_represents (represents_step hlawful) (represents_constructed s)
    calls).1

/-- The object and the flash stand for the store after every run. -/
theorem represents_run (hlawful : Lawful m f.PAGE_SIZE f.ROW_SIZE) (s : σ)
    (calls : List (Call SIZE)) :
    Represents m f (run (step m f) (constructed SIZE, s) calls)
      (run Store.step (Store.start (committedIn m f s)) calls) :=
  (trace_of_simulation shown_of_represents (represents_step hlawful) (represents_constructed s)
    calls).2

/-! ## Power failures -/

/-- What a program that starts on this flash works on. -/
theorem restarted_get (s : σ) (i : Fin SIZE) :
    (ready m f (constructed SIZE) s).data.get i =
      if m.cell s (f.flash_address + SIZE) = 0 then 0xFF else m.cell s (f.flash_address + i.val) := by
  have hdata : (ready m f (constructed SIZE) s).data =
      if m.cell s (f.flash_address + SIZE) = 0 then Vector.replicate SIZE 0xFF
      else Vector.ofFn fun i : Fin SIZE => m.cell s (f.flash_address + i.val) := rfl
  rw [hdata]
  split
  · exact Vector.getElem_replicate i.isLt
  · exact Vector.getElem_ofFn i.isLt

theorem restarted_valid (s : σ) :
    (ready m f (constructed SIZE) s).valid = m.cell s (f.flash_address + SIZE) := rfl

/-- What is committed is what the cells say. -/
theorem restored_get {s : σ} {committed : Option (Vector UInt8 SIZE)}
    (h : committedIn m f s = committed) (i : Fin SIZE) :
    (Store.restored committed).get i =
      if m.cell s (f.flash_address + SIZE) = 0 then 0xFF else m.cell s (f.flash_address + i.val) := by
  rw [← h]
  unfold committedIn Store.restored
  split
  · exact Vector.getElem_replicate i.isLt
  · exact Vector.getElem_ofFn i.isLt

theorem committed_none_iff {s : σ} {committed : Option (Vector UInt8 SIZE)}
    (h : committedIn m f s = committed) :
    committed = none ↔ m.cell s (f.flash_address + SIZE) = 0 := by
  rw [← h]
  unfold committedIn
  split <;> simp_all

/-- The power fails after `k` commands of a commit that has something to write, whatever was
called before. Every byte that is found at the next start is the new one, the one of the commit
before, or `0xFF`; but `isValid` only answers no when nothing was ever committed and the row of
the flag is not erased yet, so it takes a record that is written in part for a valid one. -/
theorem bytes_after_power_failure (hlawful : Lawful m f.PAGE_SIZE f.ROW_SIZE) (s : σ)
    (calls : List (Call SIZE)) (past : Nat → UInt8) (k : Nat)
    (hchanged : (run Store.step (Store.start (committedIn m f s)) calls).changed = true) :
    let q := run (step m f) (constructed SIZE, s) calls
    let a := run Store.step (Store.start (committedIn m f s)) calls
    let e := ready m f (constructed SIZE)
      (run m.exec q.2 ((commit m f q.1 past q.2).2.take k))
    (e.valid = 0 ↔ a.committed = none ∧ k * f.ROW_SIZE ≤ SIZE) ∧
      ∀ i, e.data.get i = a.working.get i ∨ e.data.get i = (Store.restored a.committed).get i ∨
        e.data.get i = 0xFF := by
  have h := represents_run (f := f) hlawful s calls
  dsimp only
  generalize run (step m f) (constructed SIZE, s) calls = q at *
  generalize run Store.step (Store.start (committedIn m f s)) calls = a at *
  have hdirty := (ready_dirty (m := m) (f := f) q.1 q.2).trans (h.dirty.trans hchanged)
  have hcommands : (commit m f q.1 past q.2).2 =
      f.store (record { ready m f q.1 q.2 with valid := 1 } past) := by
    unfold commit
    dsimp only
    rw [if_pos hdirty]
  have hrecord : ∀ i : Fin SIZE,
      record { ready m f q.1 q.2 with valid := 1 } past i.val = a.working.get i := by
    intro i
    rw [← h.data]
    exact dif_pos i.isLt
  have hflag : record { ready m f q.1 q.2 with valid := 1 } past SIZE = 1 := by simp [record]
  have hrows := f.size_le_rows (SIZE + 1)
  rw [hcommands, committed_none_iff h.flash]
  simp only [restored_get h.flash, restarted_get, restarted_valid]
  generalize record { ready m f q.1 q.2 with valid := 1 } past = data at *
  have hcut := FlashClass.holds_take_store hlawful f.aligned data k q.2
  dsimp only at hcut
  generalize run m.exec q.2 ((f.store data).take k) = t at *
  obtain ⟨hk, hcells⟩ | ⟨hk, n, -, -, hcells⟩ := hcut
  · have hvalid := hcells (f.flash_address + SIZE)
    rw [if_neg (by omega)] at hvalid
    by_cases herased : k * f.ROW_SIZE ≤ SIZE
    · rw [if_neg (by omega)] at hvalid
      rw [hvalid]
      refine ⟨by simp [herased], fun i => ?_⟩
      have hcell := hcells (f.flash_address + i.val)
      rw [if_neg (by omega)] at hcell
      split
      · exact .inr (.inr rfl)
      · rw [hcell]
        split
        · exact .inr (.inr rfl)
        · exact .inr (.inl rfl)
    · -- the row of the flag is erased, and with it every row before it
      have hvalid' : m.cell t (f.flash_address + SIZE) = 0xFF := by
        rw [hvalid, if_pos (by omega)]
      rw [hvalid']
      refine ⟨by simp [herased], fun i => .inr (.inr ?_)⟩
      have hi := i.isLt
      rw [if_neg (by decide), hcells, if_neg (by omega), if_pos (by omega)]
  · have hrow : f.rows f.flash_size * f.ROW_SIZE ≤ k * f.ROW_SIZE := Nat.mul_le_mul_right _ hk
    rw [f.size] at hrow
    have hcover : SIZE + 1 ≤ f.erased := by
      unfold FlashClass.erased
      rw [f.size]
      exact hrows
    have hvalid : m.cell t (f.flash_address + SIZE) ≠ 0 := by
      rw [hcells, Nat.add_sub_cancel_left, hflag]
      split
      · decide
      · rw [if_pos (by omega)]
        decide
    refine ⟨iff_of_false hvalid (by omega), fun i => ?_⟩
    have hi := i.isLt
    rw [if_neg hvalid, hcells, Nat.add_sub_cancel_left, hrecord]
    split
    · exact .inl rfl
    · rw [if_pos (by omega)]
      exact .inr (.inr rfl)

end Refinement

/-! ## A small emulation -/

/-- Eight bytes on the same board. -/
def eightBytes : Reserved 8 where
  toFlashClass := { FlashClass.chargeData with flash_size := 9 }
  size := rfl
  aligned := rfl

/-- The flash as the program is loaded. -/
def blank : Cells where
  cell _ := 0
  buffer _ := 0
  page := 0

theorem emulation_refines_store_eightBytes :
    trace (step (cells 64 256) eightBytes) (shown (cells 64 256) eightBytes) (constructed 8, blank)
      [.isValid, .read 3, .update 3 7, .commit fun _ => 0, .write 4 9, .restart, .read 3, .read 4,
        .isValid, .commit fun _ => 0] =
      [.flag false, .byte 0xFF, .nothing, .erased 1, .nothing, .nothing, .byte 7, .byte 0xFF,
        .flag true, .erased 0] :=
  (emulation_refines_store (f := eightBytes) (lawful_cells 64 256) blank _).trans (by decide)

/-- The row is erased and nothing written: what was committed is lost, and counts as valid. -/
theorem bytes_after_power_failure_eightBytes :
    let q := run (step (cells 64 256) eightBytes) (constructed 8, blank)
      [.update 3 7, .commit fun _ => 0, .update 3 9]
    (ready (cells 64 256) eightBytes (constructed 8) (run (cells 64 256).exec q.2
      ((commit (cells 64 256) eightBytes q.1 (fun _ => 0) q.2).2.take 1))).valid ≠ 0 := by
  intro q
  have hcut := bytes_after_power_failure (f := eightBytes) (lawful_cells 64 256) blank
    [.update 3 7, .commit fun _ => 0, .update 3 9] (fun _ => 0) 1 (by decide)
  rw [Ne, hcut.1]
  intro hnone
  exact absurd hnone.1 (by decide)

end super_charger.flash_eeprom
