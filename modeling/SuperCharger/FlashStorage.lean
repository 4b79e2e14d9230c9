-- The flash storage library (FlashStorage.cpp): the loops that erase and write a record, as the
-- commands that they give to the flash controller, and what is in the flash when all of them are
-- done, or when the power fails before that.
import SuperCharger.PagedFlash

namespace super_charger.flash_storage

open runs paged_flash

variable {σ : Type*}

/-! ## The library -/

def pageSizes : List Nat := [8, 16, 32, 64, 128, 256, 512, 1024]

/-- A piece of the flash, with the page size that the controller tells. -/
structure FlashClass where
  PAGE_SIZE : Nat
  page_size : PAGE_SIZE ∈ pageSizes
  flash_address : Nat
  flash_size : Nat

namespace FlashClass

variable (f : FlashClass)

def ROW_SIZE : Nat := f.PAGE_SIZE * 4

theorem page_ge : 8 ≤ f.PAGE_SIZE := by
  have := f.page_size
  simp only [pageSizes, List.mem_cons, List.not_mem_nil, or_false] at this
  omega

theorem page_words : 4 * (f.PAGE_SIZE / 4) = f.PAGE_SIZE := by
  have := f.page_size
  simp only [pageSizes, List.mem_cons, List.not_mem_nil, or_false] at this
  omega

/-- The pages of a write, from the word at `src` on: `size` words are left. -/
def writePages (data : Nat → UInt8) (dst_addr src size : Nat) : List Command :=
  if size = 0 then []
  else
    let i := min (f.PAGE_SIZE / 4) size
    writeWords 4 dst_addr (fun j => data (src + j)) i ++
      writePages data (dst_addr + 4 * i) (src + 4 * i) (size - i)
termination_by size
decreasing_by
  have := f.page_ge
  omega

/-- The size is rounded up to words, so up to three bytes past the data are written too. -/
def write (flash_ptr : Nat) (data : Nat → UInt8) (size : Nat) : List Command :=
  f.writePages data flash_ptr 0 ((size + 3) / 4)

def erase (ptr size : Nat) : List Command :=
  if f.ROW_SIZE < size then .eraseRow ptr :: erase (ptr + f.ROW_SIZE) (size - f.ROW_SIZE)
  else [.eraseRow ptr]
termination_by size
decreasing_by
  have := f.page_ge
  unfold ROW_SIZE
  omega

/-- `FlashStorageClass::write`. -/
def store (data : Nat → UInt8) : List Command :=
  f.erase f.flash_address f.flash_size ++ f.write f.flash_address data f.flash_size

/-! ## Erasing -/

theorem row_pos : 0 < f.ROW_SIZE := by
  have := f.page_ge
  unfold ROW_SIZE
  omega

/-- The rows that an erase of `size` bytes takes: one even when there is nothing to erase. -/
def rows (size : Nat) : Nat := (size - 1) / f.ROW_SIZE + 1

theorem size_le_rows (size : Nat) : size ≤ f.rows size * f.ROW_SIZE := by
  have hrow := f.row_pos
  unfold rows
  have := Nat.div_add_mod (size - 1) f.ROW_SIZE
  have := Nat.mod_lt (size - 1) hrow
  rw [Nat.add_mul, Nat.one_mul, Nat.mul_comm]
  omega

theorem erase_eq (ptr size : Nat) : f.erase ptr size = eraseRows f.ROW_SIZE ptr (f.rows size) := by
  have hrow := f.row_pos
  induction size using Nat.strongRecOn generalizing ptr with
  | _ size ih =>
    unfold erase
    split
    · next hmore =>
      have hrows : f.rows size = f.rows (size - f.ROW_SIZE) + 1 := by
        unfold rows
        rw [show size - 1 = size - f.ROW_SIZE - 1 + f.ROW_SIZE by omega,
          Nat.add_div_right _ hrow]
      rw [ih _ (by omega), hrows]
      unfold eraseRows
      rw [List.range_succ_eq_map, List.map_cons, List.map_map]
      congr 1
      · simp
      · apply List.map_congr_left
        intro i _
        simp only [Function.comp_apply, Nat.succ_eq_add_one, Nat.add_mul, Nat.one_mul]
        congr 1
        omega
    · next hlast =>
      have hone : f.rows size = 1 := by
        unfold rows
        rw [Nat.div_eq_of_lt (by omega)]
      rw [hone]
      simp [eraseRows]

/-! ## Writing -/

/-- The cells of `t` are those of `s`, with the first `n` bytes of the data written to them from
`lo` on. -/
def Written (m : Flash σ) (s t : σ) (lo n : Nat) (data : Nat → UInt8) : Prop :=
  ∀ x, m.cell t x =
    if lo ≤ x ∧ x < lo + n then m.cell s x &&& data (x - lo) else m.cell s x

variable {m : Flash σ} {f : FlashClass}

theorem Written.zero (s : σ) (lo : Nat) (data : Nat → UInt8) : Written m s s lo 0 data := by
  intro x
  rw [if_neg (by omega)]

theorem Written.append {s t u : σ} {lo n k : Nat} {data : Nat → UInt8}
    (h : Written m s t lo n data) (h' : Written m t u (lo + n) k fun j => data (n + j)) :
    Written m s u lo (n + k) data := by
  intro x
  rw [h' x, h x]
  split
  · dsimp only
    rw [if_neg (by omega), if_pos (by omega), show n + (x - (lo + n)) = x - lo by omega]
  · split
    · rw [if_pos (by omega)]
    · rw [if_neg (by omega)]

/-- However early the power fails, the words so far are written and nothing else is. -/
theorem written_take (h : Lawful m f.PAGE_SIZE f.ROW_SIZE) (data : Nat → UInt8) (size : Nat)
    {dst : Nat} (src : Nat) (hdst : size ≠ 0 → dst % f.PAGE_SIZE = 0) (k : Nat) (s : σ) :
    ∃ j ≤ size, ((f.writePages data dst src size).length ≤ k → j = size) ∧
      Written m s (run m.exec s ((f.writePages data dst src size).take k)) dst (4 * j)
        fun i => data (src + i) := by
  have hwords := f.page_words
  have hge := f.page_ge
  induction size using Nat.strongRecOn generalizing dst src k s with
  | _ size ih =>
    unfold writePages
    split
    · next hsize =>
      refine ⟨0, Nat.zero_le _, fun _ => hsize.symm, ?_⟩
      rw [List.take_nil]
      exact Written.zero s dst _
    · next hsize =>
      dsimp only
      generalize hi : min (f.PAGE_SIZE / 4) size = i
      have hlength := length_writeWords 4 dst (fun j => data (src + j)) i
      obtain hk | hk := Nat.lt_or_ge k (i + 2)
      · -- the page is not written yet
        refine ⟨0, Nat.zero_le _, fun hall => ?_, fun x => ?_⟩
        · rw [List.length_append, hlength] at hall
          omega
        · rw [List.take_append_of_le_length (by omega), cell_take_writeWords h hk, if_neg (by omega)]
      · have hpage : Written m s
            (run m.exec s (writeWords 4 dst (fun j => data (src + j)) i)) dst (4 * i)
            fun j => data (src + j) :=
          cell_writeWords h (hdst hsize) (by omega) (by omega) s
        have hnext : size - i ≠ 0 → (dst + 4 * i) % f.PAGE_SIZE = 0 := fun hleft => by
          rw [show 4 * i = f.PAGE_SIZE by omega, Nat.add_mod_right]
          exact hdst hsize
        obtain ⟨j, hj, hall, hrest⟩ := ih (size - i) (by omega) (src + 4 * i) hnext (k - (i + 2))
          (run m.exec s (writeWords 4 dst (fun j => data (src + j)) i))
        refine ⟨i + j, by omega, fun hk' => ?_, ?_⟩
        · rw [List.length_append, hlength] at hk'
          have := hall (by omega)
          omega
        · rw [List.take_append, List.take_of_length_le (by omega), run_append, hlength, Nat.mul_add]
          refine hpage.append ?_
          simpa only [Nat.add_assoc] using hrest

/-! ## A record -/

/-- The cells of `t` are those of `s` up to the rows that are erased, and these hold the first `n`
bytes of the data and ones after them. -/
def Holds (m : Flash σ) (s t : σ) (lo n erased : Nat) (data : Nat → UInt8) : Prop :=
  ∀ x, m.cell t x =
    if lo ≤ x ∧ x < lo + n then data (x - lo)
    else if lo ≤ x ∧ x < lo + erased then 0xFF
    else m.cell s x

/-- The bytes that a write of the record covers. -/
def written (f : FlashClass) : Nat := 4 * ((f.flash_size + 3) / 4)

/-- The bytes that an erase of the record covers. -/
def erased (f : FlashClass) : Nat := f.rows f.flash_size * f.ROW_SIZE

theorem written_le_erased (f : FlashClass) : f.written ≤ f.erased := by
  have hsize := f.size_le_rows f.flash_size
  unfold written erased
  unfold ROW_SIZE at *
  rw [← Nat.mul_assoc] at *
  generalize f.rows f.flash_size * f.PAGE_SIZE = r at *
  omega

theorem size_le_written (f : FlashClass) : f.flash_size ≤ f.written := by
  unfold written
  omega

/-- A power failure leaves the first rows erased, or all of them with the first words of the data
written: all of the data when no command is missing. -/
theorem holds_take_store (h : Lawful m f.PAGE_SIZE f.ROW_SIZE)
    (haddr : f.flash_address % f.ROW_SIZE = 0) (data : Nat → UInt8) (k : Nat) (s : σ) :
    let t := run m.exec s ((f.store data).take k)
    (k < f.rows f.flash_size ∧ Holds m s t f.flash_address 0 (k * f.ROW_SIZE) data) ∨
    f.rows f.flash_size ≤ k ∧ ∃ n ≤ f.written, ((f.store data).length ≤ k → n = f.written) ∧
      Holds m s t f.flash_address n f.erased data := by
  have hcover := f.written_le_erased
  have hpage : f.flash_address % f.PAGE_SIZE = 0 :=
    Nat.mod_eq_zero_of_dvd
      (Nat.dvd_trans (Nat.dvd_mul_right f.PAGE_SIZE 4) (Nat.dvd_of_mod_eq_zero haddr))
  have hlength : (f.erase f.flash_address f.flash_size).length = f.rows f.flash_size := by
    rw [f.erase_eq]
    simp [eraseRows]
  dsimp only
  unfold store
  rw [List.length_append, hlength]
  obtain hk | hk := Nat.lt_or_ge k (f.rows f.flash_size)
  · refine .inl ⟨hk, fun x => ?_⟩
    rw [List.take_append_of_le_length (by omega), f.erase_eq, take_eraseRows,
      Nat.min_eq_left (by omega), cell_eraseRows h f.row_pos haddr]
    rw [if_neg (by omega : ¬ (f.flash_address ≤ x ∧ x < f.flash_address + 0))]
  · obtain ⟨j, hj, hall, hwritten⟩ := written_take h data ((f.flash_size + 3) / 4)
      0 (fun _ => hpage) (k - f.rows f.flash_size)
      (run m.exec s (f.erase f.flash_address f.flash_size))
    unfold written at hcover
    refine .inr ⟨hk, 4 * j, by unfold written; omega, fun hk' => ?_, fun x => ?_⟩
    · have := hall (by unfold write at hk'; omega)
      unfold written
      omega
    · rw [List.take_append, List.take_of_length_le (by omega), run_append, hlength]
      unfold write
      rw [hwritten x, f.erase_eq, cell_eraseRows h f.row_pos haddr]
      unfold erased at *
      split
      · next hx =>
        dsimp only
        rw [if_pos (by omega), Nat.zero_add]
        exact UInt8.neg_one_and
      · rfl

/-- The record is in the flash, the rest of its rows is erased, and the other rows are as they
were. -/
theorem holds_store (h : Lawful m f.PAGE_SIZE f.ROW_SIZE)
    (haddr : f.flash_address % f.ROW_SIZE = 0) (data : Nat → UInt8) (s : σ) :
    Holds m s (run m.exec s (f.store data)) f.flash_address f.written f.erased data := by
  have hcut := holds_take_store h haddr data (f.store data).length s
  rw [List.take_length] at hcut
  obtain ⟨hk, -⟩ | ⟨-, n, -, hall, hholds⟩ := hcut
  · unfold store at hk
    rw [List.length_append, f.erase_eq] at hk
    simp only [eraseRows, List.length_map, List.length_range] at hk
    omega
  · rwa [hall (Nat.le_refl _)] at hholds

/-- The bytes that the macro `FlashStorage` sets aside for a record. -/
def setAside (f : FlashClass) : Nat := (f.flash_size + 255) / 256 * 256

/-- With pages of up to 64 bytes the rows of a record are inside what is set aside for it. -/
theorem erased_le_setAside {f : FlashClass} (hpage : f.PAGE_SIZE ≤ 64) (hsize : 0 < f.flash_size) :
    f.erased ≤ f.setAside := by
  have hmem := f.page_size
  simp only [pageSizes, List.mem_cons, List.not_mem_nil, or_false] at hmem
  have hrow : f.ROW_SIZE = 32 ∨ f.ROW_SIZE = 64 ∨ f.ROW_SIZE = 128 ∨ f.ROW_SIZE = 256 := by
    unfold ROW_SIZE
    omega
  unfold erased rows setAside
  rcases hrow with h | h | h | h
  all_goals
    rw [h]
    omega

/-- A record that is stored is read back. With pages of up to 64 bytes nothing outside what is set
aside for it changes; with larger ones the last row can reach past that. -/
theorem record_round_trip (h : Lawful m f.PAGE_SIZE f.ROW_SIZE)
    (haddr : f.flash_address % f.ROW_SIZE = 0) (hsize : 0 < f.flash_size) (data : Nat → UInt8)
    (s : σ) :
    let t := run m.exec s (f.store data)
    (∀ i < f.flash_size, m.cell t (f.flash_address + i) = data i) ∧
      (f.PAGE_SIZE ≤ 64 →
        ∀ x, x < f.flash_address ∨ f.flash_address + f.setAside ≤ x → m.cell t x = m.cell s x) := by
  have hholds := holds_store h haddr data s
  have hwritten := f.size_le_written
  have hcover := f.written_le_erased
  constructor
  · intro i hi
    rw [hholds, if_pos (by omega), Nat.add_sub_cancel_left]
  · intro hpage x hx
    have hinside := erased_le_setAside hpage hsize
    rw [hholds, if_neg (by omega), if_neg (by omega)]

/-- The charging data of a board with pages of 64 bytes. -/
def chargeData : FlashClass where
  PAGE_SIZE := 64
  page_size := by decide
  flash_address := 0x3F00
  flash_size := 40

/-- Its last byte is read back, and the row before it is left alone. -/
theorem record_round_trip_chargeData :
    let t := run (cells 64 256).exec { cell := fun _ => 0x5A, buffer := fun _ => 0, page := 0 }
      (chargeData.store fun i => i.toUInt8)
    t.cell 0x3F27 = 39 ∧ t.cell 0x3EFF = 0x5A := by
  have hstored := record_round_trip (f := chargeData) (lawful_cells 64 256) (by decide) (by decide)
    (fun i => i.toUInt8) { cell := fun _ => 0x5A, buffer := fun _ => 0, page := 0 }
  exact ⟨hstored.1 39 (by decide), hstored.2 (by decide) 0x3EFF (.inl (by decide))⟩

/-! ## Wear -/

/-- The rows that the commands erase. -/
def erases (commands : List Command) : Nat :=
  commands.countP fun c => match c with
    | .eraseRow _ => true
    | _ => false

theorem erases_writePages (f : FlashClass) (data : Nat → UInt8) (dst src size : Nat) :
    erases (f.writePages data dst src size) = 0 := by
  have hwords : ∀ addr (data : Nat → UInt8) n, erases (writeWords 4 addr data n) = 0 := by
    intro addr data n
    simp [erases, writeWords, storeWords, List.countP_append]
  have hge := f.page_ge
  induction size using Nat.strongRecOn generalizing dst src with
  | _ size ih =>
    unfold writePages
    split
    · rfl
    · dsimp only
      unfold erases at hwords ih ⊢
      rw [List.countP_append, hwords, ih _ (by omega)]

/-- A record costs the rows that it takes. -/
theorem erases_store (f : FlashClass) (data : Nat → UInt8) :
    erases (f.store data) = f.rows f.flash_size := by
  unfold store write
  have hpages := erases_writePages f data f.flash_address 0 ((f.flash_size + 3) / 4)
  unfold erases at hpages ⊢
  rw [List.countP_append, hpages, f.erase_eq]
  simp [eraseRows, List.countP_map, Function.comp_def]

end FlashClass

end super_charger.flash_storage
