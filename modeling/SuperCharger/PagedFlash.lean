-- Flash memory that is erased by rows and written by pages through a buffer: what commands leave
-- in the cells, also when the power fails between two of them.
import SuperCharger.Runs

namespace paged_flash

open runs

variable {σ : Type*}

/-! ## The memory -/

inductive Command where
  | eraseRow (addr : Nat)
  | clearBuffer
  | store (addr : Nat) (bytes : List UInt8)
  | writePage

/-- A memory that takes commands: its cells, its buffer, and the page that the buffer is for. -/
structure Flash (σ : Type*) where
  exec : σ → Command → σ
  cell : σ → Nat → UInt8
  buffer : σ → Nat → UInt8
  page : σ → Nat

/-- Rows are erased to ones, and a page is written by clearing bits of its cells. -/
structure Lawful (m : Flash σ) (PAGE ROW : Nat) : Prop where
  eraseRow : ∀ s a x, m.cell (m.exec s (.eraseRow a)) x =
    if x / ROW = a / ROW then 0xFF else m.cell s x
  clearBuffer : ∀ s, m.cell (m.exec s .clearBuffer) = m.cell s ∧
    ∀ x, m.buffer (m.exec s .clearBuffer) x = 0xFF
  store : ∀ s a bytes, m.cell (m.exec s (.store a bytes)) = m.cell s ∧
    m.page (m.exec s (.store a bytes)) = a / PAGE ∧
    ∀ x, m.buffer (m.exec s (.store a bytes)) x =
      if a % PAGE ≤ x ∧ x < a % PAGE + bytes.length then bytes.getD (x - a % PAGE) 0xFF
      else m.buffer s x
  writePage : ∀ s x, m.cell (m.exec s .writePage) x =
    if x / PAGE = m.page s then m.cell s x &&& m.buffer s (x % PAGE) else m.cell s x

/-! ## Rows -/

section Rows

variable {m : Flash σ} {PAGE ROW : Nat}

theorem div_eq_iff_mem {d a x : Nat} (hd : 0 < d) (ha : a % d = 0) :
    x / d = a / d ↔ a ≤ x ∧ x < a + d := by
  have hmul : d * (a / d) = a := by
    have := Nat.div_add_mod a d
    omega
  rw [Nat.div_eq_iff hd, Nat.mul_comm (a / d) d, hmul]
  omega

/-- Rows that are erased one after the other. -/
def eraseRows (ROW addr n : Nat) : List Command :=
  (List.range n).map fun i => .eraseRow (addr + i * ROW)

theorem take_eraseRows (ROW addr n k : Nat) :
    (eraseRows ROW addr n).take k = eraseRows ROW addr (min k n) := by
  unfold eraseRows
  rw [← List.map_take, List.take_range]

theorem cell_eraseRows (h : Lawful m PAGE ROW) (hrow : 0 < ROW) {addr : Nat}
    (haddr : addr % ROW = 0) (n : Nat) (s : σ) (x : Nat) :
    m.cell (run m.exec s (eraseRows ROW addr n)) x =
      if addr ≤ x ∧ x < addr + n * ROW then 0xFF else m.cell s x := by
  induction n with
  | zero =>
    rw [if_neg (by omega)]
    rfl
  | succ n ih =>
    have hlast : (addr + n * ROW) % ROW = 0 := by simpa using haddr
    unfold eraseRows at ih ⊢
    rw [List.range_succ, List.map_append, List.map_singleton, run_snoc, h.eraseRow, ih]
    simp only [div_eq_iff_mem hrow hlast, Nat.add_mul, Nat.one_mul]
    split
    · rw [if_pos (by omega)]
    · split
      · rw [if_pos (by omega)]
      · rw [if_neg (by omega)]

end Rows

/-! ## Pages -/

section Pages

variable {m : Flash σ} {PAGE ROW : Nat}

/-- The bytes of a word. -/
def wordAt (width : Nat) (data : Nat → UInt8) (i : Nat) : List UInt8 :=
  (List.range width).map fun j => data (width * i + j)

/-- Words that are stored one after the other. -/
def storeWords (width addr : Nat) (data : Nat → UInt8) (n : Nat) : List Command :=
  (List.range n).map fun i => .store (addr + width * i) (wordAt width data i)

/-- The buffer is cleared, filled and written. -/
def writeWords (width addr : Nat) (data : Nat → UInt8) (n : Nat) : List Command :=
  .clearBuffer :: storeWords width addr data n ++ [.writePage]

theorem length_writeWords (width addr : Nat) (data : Nat → UInt8) (n : Nat) :
    (writeWords width addr data n).length = n + 2 := by
  simp [writeWords, storeWords]

theorem getD_wordAt (width : Nat) (data : Nat → UInt8) (i : Nat) {j : Nat} (hj : j < width) :
    (wordAt width data i).getD j 0xFF = data (width * i + j) := by
  unfold wordAt
  rw [List.getD_eq_getElem?_getD, List.getElem?_map, List.getElem?_range hj]
  rfl

/-- What the buffer holds once the words of a page are stored, and what was there before. -/
theorem buffer_storeWords (h : Lawful m PAGE ROW) {width addr : Nat} (haddr : addr % PAGE = 0)
    (data : Nat → UInt8) {n : Nat} (hfits : width * n ≤ PAGE) (s : σ) :
    m.cell (run m.exec s (storeWords width addr data n)) = m.cell s ∧
    (0 < width * n → m.page (run m.exec s (storeWords width addr data n)) = addr / PAGE) ∧
    ∀ x, m.buffer (run m.exec s (storeWords width addr data n)) x =
      if x < width * n then data x else m.buffer s x := by
  induction n with
  | zero => simp [storeWords]
  | succ n ih =>
    rw [Nat.mul_succ] at hfits ⊢
    obtain ⟨hcell, hpage, hbuffer⟩ := ih (by omega)
    unfold storeWords at hcell hpage hbuffer ⊢
    rw [List.range_succ, List.map_append, List.map_singleton, run_snoc]
    obtain ⟨hc, hp, hb⟩ := h.store (run m.exec s (storeWords width addr data n))
      (addr + width * n) (wordAt width data n)
    unfold storeWords at hc hp hb
    have hlength : (wordAt width data n).length = width := by simp [wordAt]
    refine ⟨hc.trans hcell, fun hpos => ?_, fun x => ?_⟩
    · have hwidth : width ≠ 0 := by
        rintro rfl
        simp at hpos
      rw [hp]
      exact (div_eq_iff_mem (by omega) haddr).mpr ⟨by omega, by omega⟩
    · have hmod : width ≠ 0 → (addr + width * n) % PAGE = width * n := fun hwidth => by
        rw [Nat.add_mod, haddr, Nat.zero_add, Nat.mod_mod, Nat.mod_eq_of_lt (by omega)]
      rw [hb, hbuffer, hlength]
      obtain rfl | hwidth := Nat.eq_zero_or_pos width
      · rw [if_neg (by omega)]
        simp
      rw [hmod (by omega)]
      split
      · next hx =>
        rw [getD_wordAt _ _ _ (by omega), if_pos (by omega)]
        congr 1
        omega
      · next hx =>
        split
        · rw [if_pos (by omega)]
        · rw [if_neg (by omega)]

/-- A page that is written keeps no bit that the data lacks, and is otherwise as it was. -/
theorem cell_writeWords (h : Lawful m PAGE ROW) {width addr : Nat} (haddr : addr % PAGE = 0)
    {data : Nat → UInt8} {n : Nat} (hpos : 0 < width * n) (hfits : width * n ≤ PAGE) (s : σ)
    (x : Nat) :
    m.cell (run m.exec s (writeWords width addr data n)) x =
      if addr ≤ x ∧ x < addr + width * n then m.cell s x &&& data (x - addr) else m.cell s x := by
  obtain ⟨hclear, hones⟩ := h.clearBuffer s
  obtain ⟨hcell, hpage, hbuffer⟩ :=
    buffer_storeWords h haddr data hfits (m.exec s .clearBuffer)
  unfold writeWords
  rw [List.cons_append, run_cons, run_snoc, h.writePage, hcell, hclear, hpage hpos, hbuffer, hones]
  simp only [div_eq_iff_mem (Nat.lt_of_lt_of_le hpos hfits) haddr]
  split
  · next hx =>
    have hmod : x % PAGE = x - addr :=
      calc x % PAGE = (addr + (x - addr)) % PAGE := by rw [Nat.add_sub_cancel' hx.1]
        _ = x - addr := by
          rw [Nat.add_mod, haddr, Nat.zero_add, Nat.mod_mod, Nat.mod_eq_of_lt (by omega)]
    rw [hmod]
    split
    · rw [if_pos (by omega)]
    · rw [if_neg (by omega)]
      exact UInt8.and_neg_one
  · next hx => rw [if_neg (by omega)]

/-- Until the last command of a page its cells are as they were. -/
theorem cell_take_writeWords (h : Lawful m PAGE ROW) {width addr : Nat} {data : Nat → UInt8}
    {n k : Nat} (hk : k < n + 2) (s : σ) :
    m.cell (run m.exec s ((writeWords width addr data n).take k)) = m.cell s := by
  -- neither clearing the buffer nor storing to it touches the cells
  have hkeep : ∀ s c, (c = .clearBuffer ∨ ∃ a bytes, c = .store a bytes) →
      m.cell (m.exec s c) = m.cell s := by
    rintro s c (rfl | ⟨a, bytes, rfl⟩)
    · exact (h.clearBuffer s).1
    · exact (h.store s a bytes).1
  refine run_invariant_of_forall (I := fun t => m.cell t = m.cell s)
    (P := fun c => c = .clearBuffer ∨ ∃ a bytes, c = .store a bytes)
    (fun t c hc ht => (hkeep t c hc).trans ht) rfl fun c hc => ?_
  have hlength : (Command.clearBuffer :: storeWords width addr data n).length = n + 1 := by
    simp [storeWords]
  unfold writeWords at hc
  rw [List.take_append_of_le_length (by omega)] at hc
  rcases List.mem_cons.mp (List.mem_of_mem_take hc) with rfl | hc
  · exact .inl rfl
  · obtain ⟨i, -, rfl⟩ := List.mem_map.mp hc
    exact .inr ⟨_, _, rfl⟩

end Pages

/-! ## A memory that obeys -/

/-- Cells, buffer and page as they are. -/
structure Cells where
  cell : Nat → UInt8
  buffer : Nat → UInt8
  page : Nat

def Cells.exec (PAGE ROW : Nat) (s : Cells) : Command → Cells
  | .eraseRow a => { s with cell := fun x => if x / ROW = a / ROW then 0xFF else s.cell x }
  | .clearBuffer => { s with buffer := fun _ => 0xFF }
  | .store a bytes =>
    { s with
      buffer := fun x =>
        if a % PAGE ≤ x ∧ x < a % PAGE + bytes.length then bytes.getD (x - a % PAGE) 0xFF
        else s.buffer x
      page := a / PAGE }
  | .writePage =>
    { s with
      cell := fun x =>
        if x / PAGE = s.page then s.cell x &&& s.buffer (x % PAGE) else s.cell x }

def cells (PAGE ROW : Nat) : Flash Cells where
  exec := Cells.exec PAGE ROW
  cell := Cells.cell
  buffer := Cells.buffer
  page := Cells.page

theorem lawful_cells (PAGE ROW : Nat) : Lawful (cells PAGE ROW) PAGE ROW where
  eraseRow _ _ _ := rfl
  clearBuffer _ := ⟨rfl, fun _ => rfl⟩
  store _ _ _ := ⟨rfl, rfl, fun _ => rfl⟩
  writePage _ _ := rfl

end paged_flash
