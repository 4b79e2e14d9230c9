-- What a CAN message is on the chip: the identifier registers and the bytes of a message, both
-- ways, and what the driver object says about the frames that it has read and sent.
import SuperCharger.McpCan
import SuperCharger.Runs
import SuperCharger.History
import Mathlib.Algebra.Order.Ring.Int

namespace super_charger.mcp_can

open select_line runs history

variable {σ : Type*}

/-! ## Bit fields -/

theorem nat_and_seven (x : Nat) : x &&& 7 = x % 8 := Nat.and_two_pow_sub_one_eq_mod x 3

theorem nat_and_three (x : Nat) : x &&& 3 = x % 4 := Nat.and_two_pow_sub_one_eq_mod x 2

theorem nat_and_fifteen (x : Nat) : x &&& 15 = x % 16 := Nat.and_two_pow_sub_one_eq_mod x 4

/-- Bits 2 to 4, where they stand. -/
theorem nat_and_twentyEight (x : Nat) : x &&& 28 = x / 4 % 8 * 4 := by
  have hsmall : ∀ r < 32, r &&& 28 = r / 4 % 8 * 4 := by decide
  have hmask : x &&& 28 = (x % 32) &&& 28 := by
    rw [← Nat.and_two_pow_sub_one_eq_mod x 5, Nat.and_assoc]
    rfl
  rw [hmask, hsmall _ (Nat.mod_lt _ (by omega))]
  omega

/-- Bit 3 on its own. -/
theorem nat_and_eight (x : Nat) : x &&& 8 = x / 8 % 2 * 8 := by
  have hsmall : ∀ r < 16, r &&& 8 = r / 8 % 2 * 8 := by decide
  have hmask : x &&& 8 = (x % 16) &&& 8 := by
    rw [← Nat.and_two_pow_sub_one_eq_mod x 4, Nat.and_assoc]
    rfl
  rw [hmask, hsmall _ (Nat.mod_lt _ (by omega))]
  omega

theorem and_eight_eq_zero_iff (x : UInt8) : x &&& 0x08 = 0 ↔ x.toNat / 8 % 2 = 0 := by
  rw [← UInt8.toNat_inj, UInt8.toNat_and]
  change x.toNat &&& 8 = 0 ↔ _
  rw [nat_and_eight]
  omega

theorem isExtended_iff (tbufdata : Vector UInt8 4) :
    IsExtended tbufdata ↔ tbufdata[MCP_SIDL].toNat / 8 % 2 = 1 := by
  unfold IsExtended
  rw [← UInt8.toNat_inj, UInt8.toNat_and]
  change tbufdata[MCP_SIDL].toNat &&& 8 = 8 ↔ _
  rw [nat_and_eight]
  omega

/-! ## The halves of an identifier, and their fields -/

theorem toNat_low_half (id : UInt32) : (id &&& 0x0FFFF).toUInt16.toNat = id.toNat % 65536 := by
  rw [UInt32.toNat_toUInt16, UInt32.toNat_and, show UInt32.toNat 0x0FFFF = 2 ^ 16 - 1 from rfl,
    Nat.and_two_pow_sub_one_eq_mod]
  omega

theorem toNat_high_half (id : UInt32) : (id >>> 16).toUInt16.toNat = id.toNat / 65536 := by
  have hid := id.toNat_lt
  rw [UInt32.toNat_toUInt16, UInt32.toNat_shiftRight, show UInt32.toNat 16 % 32 = 16 from rfl,
    Nat.shiftRight_eq_div_pow]
  omega

section Fields

variable (canid : UInt16)

theorem toNat_field_shiftRight (k : UInt16) (hk : k.toNat < 16) :
    (canid >>> k).toUInt8.toNat = canid.toNat / 2 ^ k.toNat % 256 := by
  rw [UInt16.toNat_toUInt8, UInt16.toNat_shiftRight, Nat.mod_eq_of_lt hk, Nat.shiftRight_eq_div_pow]

theorem toNat_field_low : (canid &&& 0xFF).toUInt8.toNat = canid.toNat % 256 := by
  rw [UInt16.toNat_toUInt8, UInt16.toNat_and, show UInt16.toNat 0xFF = 2 ^ 8 - 1 from rfl,
    Nat.and_two_pow_sub_one_eq_mod, Nat.mod_mod]

theorem toNat_field_two : (canid &&& 0x03).toUInt8.toNat = canid.toNat % 4 := by
  rw [UInt16.toNat_toUInt8, UInt16.toNat_and, show UInt16.toNat 0x03 = 3 from rfl, nat_and_three]
  omega

theorem toNat_field_three :
    ((canid &&& 0x1C) <<< 3).toUInt8.toNat = canid.toNat / 4 % 8 * 32 := by
  rw [UInt16.toNat_toUInt8, UInt16.toNat_shiftLeft, UInt16.toNat_and,
    show UInt16.toNat 0x1C = 28 from rfl, show UInt16.toNat 3 % 16 = 3 from rfl,
    nat_and_twentyEight, Nat.shiftLeft_eq]
  omega

theorem toNat_field_standard :
    ((canid &&& 0x07) <<< 5).toUInt8.toNat = canid.toNat % 8 * 32 := by
  rw [UInt16.toNat_toUInt8, UInt16.toNat_shiftLeft, UInt16.toNat_and,
    show UInt16.toNat 0x07 = 7 from rfl, show UInt16.toNat 5 % 16 = 5 from rfl,
    nat_and_seven, Nat.shiftLeft_eq]
  omega

end Fields

theorem toNat_with_exide {a b : UInt8} (ha : a.toNat < 4) (hb : b.toNat % 32 = 0) :
    (a + b ||| MCP_TXB_EXIDE_M).toNat = a.toNat + 8 + b.toNat := by
  have hsmall : ∀ x < 4, ∀ y < 8, (x + y * 32) ||| 8 = x + 8 + y * 32 := by decide
  have hblt := b.toNat_lt
  have hsum : (a + b).toNat = a.toNat + b.toNat / 32 * 32 := by
    rw [UInt8.toNat_add]
    omega
  rw [UInt8.toNat_or, hsum, show UInt8.toNat MCP_TXB_EXIDE_M = 8 from rfl,
    hsmall _ ha _ (by omega)]
  omega

/-! ## Identifiers -/

/-- A byte appended to a word that has room for it. -/
theorem toNat_append_byte {x : UInt32} (b : UInt8) (h : x.toNat < 2 ^ 24) :
    ((x <<< 8) + b.toUInt32).toNat = x.toNat * 256 + b.toNat := by
  have hb := b.toNat_lt
  have hshift : (x <<< 8).toNat = x.toNat * 256 % 2 ^ 32 := by
    rw [UInt32.toNat_shiftLeft, Nat.shiftLeft_eq]
    rfl
  rw [UInt32.toNat_add, hshift, UInt8.toNat_toUInt32]
  omega

/-- The number that the registers stand for. -/
theorem toNat_idOfBuf (tbufdata : Vector UInt8 4) :
    (idOfBuf tbufdata).toNat =
      let sid := tbufdata[MCP_SIDH].toNat * 8 + tbufdata[MCP_SIDL].toNat / 32
      if IsExtended tbufdata then
        ((sid * 4 + tbufdata[MCP_SIDL].toNat % 4) * 256 + tbufdata[MCP_EID8].toNat) * 256 +
          tbufdata[MCP_EID0].toNat
      else sid := by
  have h0 := tbufdata[MCP_SIDH].toNat_lt
  have h1 := tbufdata[MCP_SIDL].toNat_lt
  have h2 := tbufdata[MCP_EID8].toNat_lt
  unfold idOfBuf
  generalize tbufdata[MCP_SIDH] = b0 at *
  generalize tbufdata[MCP_SIDL] = b1 at *
  generalize tbufdata[MCP_EID8] = b2 at *
  have hlow : (b1 &&& 0x03).toNat = b1.toNat % 4 := by
    rw [UInt8.toNat_and]
    exact nat_and_three _
  have hhigh : (b1 >>> 5).toNat = b1.toNat / 32 := by
    rw [UInt8.toNat_shiftRight]
    exact Nat.shiftRight_eq_div_pow _ 5
  have hshift3 : (b0.toUInt32 <<< 3).toNat = b0.toNat * 8 % 2 ^ 32 := by
    rw [UInt32.toNat_shiftLeft, Nat.shiftLeft_eq, UInt8.toNat_toUInt32]
    rfl
  have hsid : ((b0.toUInt32 <<< 3) + (b1 >>> 5).toUInt32).toNat = b0.toNat * 8 + b1.toNat / 32 := by
    rw [UInt32.toNat_add, hshift3, UInt8.toNat_toUInt32, hhigh]
    omega
  dsimp only
  split
  · generalize (b0.toUInt32 <<< 3) + (b1 >>> 5).toUInt32 = sid at *
    have hshift2 : (sid <<< 2).toNat = sid.toNat * 4 % 2 ^ 32 := by
      rw [UInt32.toNat_shiftLeft, Nat.shiftLeft_eq]
      rfl
    have hsid2 : ((sid <<< 2) + (b1 &&& 0x03).toUInt32).toNat = sid.toNat * 4 + b1.toNat % 4 := by
      rw [UInt32.toNat_add, hshift2, UInt8.toNat_toUInt32, hlow]
      omega
    rw [toNat_append_byte, toNat_append_byte, hsid2, hsid]
    · omega
    · rw [toNat_append_byte _ (by omega)]
      omega
  · exact hsid

/-- The registers of an extended identifier. -/
theorem toNat_id_to_buf_ext (id : UInt32) :
    (mcp2515_id_to_buf 1 id)[MCP_SIDH].toNat = id.toNat / 65536 / 32 % 256 ∧
    (mcp2515_id_to_buf 1 id)[MCP_SIDL].toNat =
      id.toNat / 65536 % 4 + 8 + id.toNat / 65536 / 4 % 8 * 32 ∧
    (mcp2515_id_to_buf 1 id)[MCP_EID8].toNat = id.toNat % 65536 / 256 ∧
    (mcp2515_id_to_buf 1 id)[MCP_EID0].toNat = id.toNat % 256 := by
  unfold mcp2515_id_to_buf
  rw [if_pos rfl]
  refine ⟨?_, ?_, ?_, ?_⟩
  · change ((id >>> 16).toUInt16 >>> 5).toUInt8.toNat = _
    rw [toNat_field_shiftRight _ _ (by decide), toNat_high_half]
    rfl
  · change (((id >>> 16).toUInt16 &&& 0x03).toUInt8 +
      (((id >>> 16).toUInt16 &&& 0x1C) <<< 3).toUInt8 ||| MCP_TXB_EXIDE_M).toNat = _
    rw [toNat_with_exide, toNat_field_two, toNat_field_three, toNat_high_half]
    · rw [toNat_field_two]
      omega
    · rw [toNat_field_three]
      omega
  · change ((id &&& 0x0FFFF).toUInt16 >>> 8).toUInt8.toNat = _
    rw [toNat_field_shiftRight _ _ (by decide), toNat_low_half]
    change id.toNat % 65536 / 256 % 256 = _
    omega
  · change ((id &&& 0x0FFFF).toUInt16 &&& 0xFF).toUInt8.toNat = _
    rw [toNat_field_low, toNat_low_half]
    omega

/-- The registers of any other identifier. -/
theorem toNat_id_to_buf_standard {ext : UInt8} (hext : ext ≠ 1) (id : UInt32) :
    (mcp2515_id_to_buf ext id)[MCP_SIDH].toNat = id.toNat % 65536 / 8 % 256 ∧
    (mcp2515_id_to_buf ext id)[MCP_SIDL].toNat = id.toNat % 8 * 32 ∧
    (mcp2515_id_to_buf ext id)[MCP_EID0] = 0 := by
  unfold mcp2515_id_to_buf
  rw [if_neg hext]
  refine ⟨?_, ?_, rfl⟩
  · change ((id &&& 0x0FFFF).toUInt16 >>> 3).toUInt8.toNat = _
    rw [toNat_field_shiftRight _ _ (by decide), toNat_low_half]
    rfl
  · change (((id &&& 0x0FFFF).toUInt16 &&& 0x07) <<< 5).toUInt8.toNat = _
    rw [toNat_field_standard, toNat_low_half]
    omega

theorem isExtended_id_to_buf (ext : UInt8) (id : UInt32) :
    IsExtended (mcp2515_id_to_buf ext id) ↔ ext = 1 := by
  rw [isExtended_iff]
  by_cases hext : ext = 1
  · subst hext
    obtain ⟨-, hsidl, -, -⟩ := toNat_id_to_buf_ext id
    rw [hsidl]
    simp only [iff_true]
    omega
  · obtain ⟨-, hsidl, -⟩ := toNat_id_to_buf_standard hext id
    rw [hsidl]
    simp only [hext, iff_false]
    omega

/-- An extended identifier comes back with its low 29 bits, any other with its low 11. -/
theorem idOfBuf_id_to_buf (ext : UInt8) (id : UInt32) :
    (idOfBuf (mcp2515_id_to_buf ext id)).toNat =
      if ext = 1 then id.toNat % 2 ^ 29 else id.toNat % 2 ^ 11 := by
  have hid := id.toNat_lt
  have hiff := isExtended_id_to_buf ext id
  rw [toNat_idOfBuf]
  dsimp only
  by_cases hext : ext = 1
  · rw [if_pos hext, if_pos (hiff.mpr hext)]
    subst hext
    obtain ⟨hsidh, hsidl, heid8, heid0⟩ := toNat_id_to_buf_ext id
    rw [hsidh, hsidl, heid8, heid0]
    omega
  · rw [if_neg hext, if_neg fun h => hext (hiff.mp h)]
    obtain ⟨hsidh, hsidl, -⟩ := toNat_id_to_buf_standard hext id
    rw [hsidh, hsidl]
    omega

/-- The bit that the reader takes for the remote bit is bit 3 of an extended identifier. -/
theorem rtrOfBuf_id_to_buf (ext : UInt8) (id : UInt32) :
    rtrOfBuf (mcp2515_id_to_buf ext id) = if ext = 1 ∧ id.toNat / 8 % 2 = 1 then 1 else 0 := by
  unfold rtrOfBuf
  congr 1
  rw [Ne, and_eight_eq_zero_iff, eq_iff_iff]
  by_cases hext : ext = 1
  · subst hext
    obtain ⟨-, -, -, heid0⟩ := toNat_id_to_buf_ext id
    rw [heid0]
    simp only [true_and]
    omega
  · obtain ⟨-, -, heid0⟩ := toNat_id_to_buf_standard hext id
    rw [heid0]
    simp [hext]

/-! ## Messages -/

/-- A read of this receive buffer is answered with these bytes, for as many as there are. -/
def Answers (spi : Device σ) (load_addr : UInt8) (s : σ) (bytes : List UInt8) : Prop :=
  ∀ k b, bytes[k]? = some b → spi.reply k (readFrom spi load_addr s) = b

/-- The remote bit is outside the four bits of the length. -/
theorem toNat_dlc (len rtrBit : UInt8) :
    ((len ||| (if rtrBit ≠ 0 then MCP_RTR_MASK else 0)) &&& MCP_DLC_MASK).toNat =
      len.toNat % 16 := by
  have hdlc : (len ||| (if rtrBit ≠ 0 then MCP_RTR_MASK else 0)) &&& MCP_DLC_MASK =
      len &&& MCP_DLC_MASK := by
    rw [← UInt8.toNat_inj]
    split
    · rw [UInt8.toNat_and, UInt8.toNat_or, Nat.and_or_distrib_right, UInt8.toNat_and]
      exact Nat.or_zero _
    · rw [UInt8.or_zero]
  rw [hdlc, UInt8.toNat_and]
  exact nat_and_fifteen _

section RoundTrip

variable {spi : Device σ} {load_addr : UInt8} {s : σ} {id : UInt32} {ext rtrBit len : UInt8}
  {buf : Vector UInt8 8}

/-- The first four bytes are the identifier registers. -/
theorem idRegisters_of_answers
    (h : Answers spi load_addr s (canMsgBytes id ext rtrBit len buf)) :
    idRegisters spi (readFrom spi load_addr s) = mcp2515_id_to_buf ext id := by
  have hbyte : ∀ k (hk : k < 4), spi.reply k (readFrom spi load_addr s) =
      (mcp2515_id_to_buf ext id)[k] := by
    intro k hk
    apply h k
    unfold canMsgBytes
    rw [List.getElem?_append_left (by simpa using hk)]
    simp [hk]
  apply Vector.ext
  intro k hk
  rw [← hbyte k hk]
  unfold idRegisters
  match k, hk with
  | 0, _ | 1, _ | 2, _ | 3, _ => rfl

theorem dlc_of_answers (h : Answers spi load_addr s (canMsgBytes id ext rtrBit len buf)) :
    (spi.reply 4 (readFrom spi load_addr s) &&& MCP_DLC_MASK).toNat = len.toNat % 16 := by
  have hdlc : spi.reply 4 (readFrom spi load_addr s) =
      len ||| (if rtrBit ≠ 0 then MCP_RTR_MASK else 0) := by
    apply h 4
    unfold canMsgBytes
    rw [List.getElem?_append_right (by simp)]
    simp
  rw [hdlc, toNat_dlc]

theorem data_of_answers (h : Answers spi load_addr s (canMsgBytes id ext rtrBit len buf))
    {i : Fin 8} (hi : i.val < len.toNat) :
    spi.reply (5 + i.val) (readFrom spi load_addr s) = buf.get i := by
  apply h (5 + i.val)
  unfold canMsgBytes
  rw [List.getElem?_append_right (by simp; omega), show 5 + i.val -
    (mcp2515_id_to_buf ext id).toList.length = i.val + 1 by simp; omega, List.getElem?_cons_succ,
    List.getElem?_take_of_lt hi]
  simp [Vector.get]

/-- What one node loads another reads: the identifier cut to its width, the length cut to four
bits, and the data; the remote bit that is told is a bit of the identifier. -/
theorem read_of_write (h : Answers spi load_addr s (canMsgBytes id ext rtrBit len buf)) (o : Out) :
    let r := (mcp2515_read_canMsg spi load_addr o s).1
    r.id.toNat = (if ext = 1 then id.toNat % 2 ^ 29 else id.toNat % 2 ^ 11) ∧
      r.ext = (if ext = 1 then 1 else o.ext) ∧
      r.rtrBit = (if ext = 1 ∧ id.toNat / 8 % 2 = 1 then 1 else 0) ∧
      r.len.toNat = len.toNat % 16 ∧
      r.buf = Vector.ofFn fun i =>
        if i.val < len.toNat % 16 then buf.get i else o.buf.get i := by
  have hregs := idRegisters_of_answers h
  have hdlc := dlc_of_answers h
  unfold mcp2515_read_canMsg
  dsimp only
  rw [hregs]
  refine ⟨idOfBuf_id_to_buf ext id, ?_, rtrOfBuf_id_to_buf ext id, hdlc, ?_⟩
  · simp only [isExtended_id_to_buf]
  · congr 1
    funext i
    rw [hdlc]
    have hi := i.isLt
    have hmax : CAN_MAX_CHAR_IN_MESSAGE = 8 := rfl
    by_cases hlen : i.val < len.toNat % 16
    · rw [if_pos (by omega), if_pos hlen, data_of_answers h (by omega)]
    · rw [if_neg (by omega), if_neg hlen]

/-- A heartbeat of 116.4 V and 32.0 A as the charger reads it. -/
theorem read_of_write_heartbeat :
    let msg : Vector UInt8 8 := #v[0x04, 0x8c, 0x01, 0x40, 0, 0, 0, 0]
    let o : Out := { id := 0, ext := 0, rtrBit := 1, len := 0, buf := Vector.replicate 8 0 }
    (mcp2515_read_canMsg Device.playback MCP_READ_RX0 o
      (0 :: canMsgBytes 0x1806E5F4 1 0 8 msg)).1.buf = msg := by
  intro msg o
  have hanswers : Answers Device.playback MCP_READ_RX0 (0 :: canMsgBytes 0x1806E5F4 1 0 8 msg)
      (canMsgBytes 0x1806E5F4 1 0 8 msg) := by
    intro k b hb
    change Device.playback.reply k (canMsgBytes 0x1806E5F4 1 0 8 msg) = b
    rw [Device.reply_playback, List.getD_eq_getElem?_getD, hb, Option.getD_some]
  obtain ⟨-, -, -, -, hbuf⟩ := read_of_write hanswers o
  exact hbuf.trans (by decide)

end RoundTrip

/-! ## What the object says -/

/-- What a call leaves in the object: the fields of a message that was sent, or those that the
registers of a received one give. -/
inductive Seen where
  | sent (id : UInt32) (ext rtr : UInt8)
  | got (tbufdata : Vector UInt8 4)

/-- The fields of the object that a message changes. -/
structure Memory where
  ext_flg : UInt8
  can_id : UInt32
  rtr : UInt8

/-- What the object remembers of a message. -/
def note (m : Memory) : Seen → Memory
  | .sent id ext rtr => ⟨ext, id, rtr⟩
  | .got t => ⟨if IsExtended t then 1 else m.ext_flg, idOfBuf t, rtrOfBuf t⟩

def Seen.id : Seen → UInt32
  | .sent id _ _ => id
  | .got t => idOfBuf t

def Seen.ext : Seen → UInt8
  | .sent _ ext _ => ext
  | .got _ => 1

def Seen.rtr : Seen → UInt8
  | .sent _ _ rtr => rtr
  | .got t => rtrOfBuf t

end super_charger.mcp_can
