-- Frames built from their fields and decoded again: what each decoder of `ZERO.cpp` gives back,
-- whatever its local union held before.
import SuperCharger.Zero

namespace super_charger.zero

open machine_int arduino

/-! ## Fields -/

/-- The fields of a frame that the decoders read, by its kind. -/
inductive Fields where
  | cellVoltage (voltage : Int32)
  | activeData (highestTemp lowestTemp : UInt8) (amps : Int16)
  | packConfig (AH : Int16)
  | controller (throttle : Int16)

/-- Two bytes of a frame, at `i` and `i + 1`. -/
def putBytes (buf : Vector UInt8 8) (i : Fin 7) (first second : UInt8) : Vector UInt8 8 :=
  (buf.set i.castSucc.val first i.castSucc.isLt).set i.succ.val second i.succ.isLt

/-- The frame of the fields, over the bytes of another one. A word has its low byte first. -/
def Fields.build (other : Vector UInt8 8) : Fields → Vector UInt8 8
  | .cellVoltage v =>
    let low := v.toUInt32.toUInt16
    let high := (v.toUInt32 >>> 16).toUInt16
    putBytes (putBytes other 3 (lowByte low) (highByte low)) 5 (lowByte high) (highByte high)
  | .activeData highest lowest a =>
    putBytes (putBytes other 1 highest lowest) 3 (lowByte a.toUInt16) (highByte a.toUInt16)
  | .packConfig ah => putBytes other 5 (lowByte ah.toUInt16) (highByte ah.toUInt16)
  | .controller t => putBytes other 4 (lowByte t.toUInt16) (highByte t.toUInt16)

theorem get_putBytes_first (buf : Vector UInt8 8) (i : Fin 7) (first second : UInt8) :
    (putBytes buf i first second).get i.castSucc = first := by
  have hne : i.succ.val ≠ i.castSucc.val := by
    have hsucc : i.succ.val = i.castSucc.val + 1 := rfl
    omega
  calc (putBytes buf i first second).get i.castSucc
      = (buf.set i.castSucc.val first i.castSucc.isLt).get i.castSucc :=
        Vector.getElem_set_ne i.succ.isLt i.castSucc.isLt hne
    _ = first := Vector.getElem_set_self i.castSucc.isLt

theorem get_putBytes_second (buf : Vector UInt8 8) (i : Fin 7) (first second : UInt8) :
    (putBytes buf i first second).get i.succ = second := Vector.getElem_set_self i.succ.isLt

theorem get_putBytes_ne (buf : Vector UInt8 8) {i : Fin 7} {j : Fin 8} (first second : UInt8)
    (hfirst : i.castSucc ≠ j) (hsecond : i.succ ≠ j) :
    (putBytes buf i first second).get j = buf.get j := by
  calc (putBytes buf i first second).get j
      = (buf.set i.castSucc.val first i.castSucc.isLt).get j :=
        Vector.getElem_set_ne i.succ.isLt j.isLt (Fin.val_ne_of_ne hsecond)
    _ = buf.get j := Vector.getElem_set_ne i.castSucc.isLt j.isLt (Fin.val_ne_of_ne hfirst)

/-- The decoders of the frame give the fields back. A temperature is one byte. -/
def Fields.Decodes (locals : Locals) (buf : Vector UInt8 8) : Fields → Prop
  | .cellVoltage v => voltage locals.voltage buf = v
  | .activeData highest lowest a =>
    highestTemp locals.highestTemp buf = highest.toUInt16.toInt16 ∧
      lowestTemp locals.lowestTemp buf = lowest.toUInt16.toInt16 ∧ amps locals.amps buf = a
  | .packConfig ah => AH locals.AH buf = ah
  | .controller t => throttle locals.throttle buf = t

/-- The byte that the decoders of the temperatures leave in their unions is 0. -/
def Fields.CleanFor (locals : Locals) : Fields → Prop
  | .activeData _ _ _ => locals.highestTemp.high = 0 ∧ locals.lowestTemp.high = 0
  | .cellVoltage _ | .packConfig _ | .controller _ => True

/-! ## The unions -/

/-- Two stores fill the union, whatever it held before. -/
theorem value_of_two_stores (u : ByteToShort) (low high : UInt8) :
    ((u.store 0 low).store 1 high).value = (word high low).toInt16 := by
  unfold ByteToShort.store ByteToShort.value
  simp

/-- One store leaves the high byte as it was. -/
theorem value_of_one_store (u : ByteToShort) (low : UInt8) :
    (u.store 0 low).value = (word u.high low).toInt16 := by
  unfold ByteToShort.store ByteToShort.value ByteToShort.high
  simp

theorem store_self (u : ByteToLong) (i : Fin 4) (b : UInt8) : (u.store i b).bytes[i.val] = b :=
  Vector.getElem_set_self i.isLt

theorem store_ne (u : ByteToLong) (i : Fin 4) (b : UInt8) {j : Nat} (hj : j < 4)
    (hne : i.val ≠ j) : (u.store i b).bytes[j] = u.bytes[j] :=
  Vector.getElem_set_ne i.isLt hj hne

/-- Four stores fill the long union. -/
theorem value_of_four_stores (u : ByteToLong) (b0 b1 b2 b3 : UInt8) :
    ((((u.store 0 b0).store 1 b1).store 2 b2).store 3 b3).value =
      ((word b1 b0).toUInt32 ||| ((word b3 b2).toUInt32 <<< 16)).toInt32 := by
  have h0 : ((((u.store 0 b0).store 1 b1).store 2 b2).store 3 b3).bytes[0] = b0 := by
    rw [store_ne _ 3 _ _ (by decide), store_ne _ 2 _ _ (by decide), store_ne _ 1 _ _ (by decide)]
    exact store_self u 0 b0
  have h1 : ((((u.store 0 b0).store 1 b1).store 2 b2).store 3 b3).bytes[1] = b1 := by
    rw [store_ne _ 3 _ _ (by decide), store_ne _ 2 _ _ (by decide)]
    exact store_self _ 1 b1
  have h2 : ((((u.store 0 b0).store 1 b1).store 2 b2).store 3 b3).bytes[2] = b2 := by
    rw [store_ne _ 3 _ _ (by decide)]
    exact store_self _ 2 b2
  have h3 : ((((u.store 0 b0).store 1 b1).store 2 b2).store 3 b3).bytes[3] = b3 :=
    store_self _ 3 b3
  unfold ByteToLong.value
  rw [h0, h1, h2, h3]

/-- The bytes of a word, put together, are the word. -/
theorem short_of_bytes (v : Int16) :
    (word (highByte v.toUInt16) (lowByte v.toUInt16)).toInt16 = v := by
  rw [word_highByte_lowByte]
  simp

/-- A union that takes the two bytes of a field back holds the field. -/
theorem value_of_putBytes (u : ByteToShort) (buf : Vector UInt8 8) (i : Fin 7) (v : Int16) :
    ((u.store 0 ((putBytes buf i (lowByte v.toUInt16) (highByte v.toUInt16)).get i.castSucc)).store 1
      ((putBytes buf i (lowByte v.toUInt16) (highByte v.toUInt16)).get i.succ)).value = v := by
  rw [value_of_two_stores, get_putBytes_first, get_putBytes_second, short_of_bytes]

/-- A long word from its two halves. -/
theorem toNat_long (low high : UInt16) :
    (low.toUInt32 ||| (high.toUInt32 <<< 16)).toNat = high.toNat * 65536 + low.toNat := by
  have hlow := low.toNat_lt
  have hhigh := high.toNat_lt
  have hshift : (high.toUInt32 <<< 16).toNat = high.toNat * 65536 := by
    rw [UInt32.toNat_shiftLeft, UInt16.toNat_toUInt32]
    simp [Nat.shiftLeft_eq]
    omega
  have hor := Nat.shiftLeft_add_eq_or_of_lt (a := high.toNat) (b := low.toNat) (i := 16) hlow
  rw [Nat.shiftLeft_eq] at hor
  rw [UInt32.toNat_or, hshift, UInt16.toNat_toUInt32, Nat.or_comm]
  exact hor.symm

/-- The two halves of a long word, put together, are the word. -/
theorem long_of_halves (w : UInt32) :
    w.toUInt16.toUInt32 ||| ((w >>> 16).toUInt16.toUInt32 <<< 16) = w := by
  have hlt := w.toNat_lt
  apply UInt32.toNat_inj.mp
  have hhigh : (w >>> 16).toUInt16.toNat = w.toNat / 65536 := by
    simp [Nat.shiftRight_eq_div_pow]
    omega
  rw [toNat_long, hhigh, UInt32.toNat_toUInt16]
  omega

/-- A byte with a byte above it is the byte alone only when that one is 0. -/
theorem byte_of_word_iff (high low : UInt8) :
    (word high low).toInt16 = low.toUInt16.toInt16 ↔ high = 0 := by
  have hlow := low.toNat_lt
  have hinj : (word high low).toInt16 = low.toUInt16.toInt16 ↔ word high low = low.toUInt16 :=
    ⟨fun h => by simpa using congrArg Int16.toUInt16 h, fun h => by rw [h]⟩
  rw [hinj, ← UInt16.toNat_inj, ← UInt8.toNat_inj, toNat_word, UInt8.toNat_toUInt16,
    UInt8.toNat_zero]
  omega

/-! ## Round trips -/

/-- The four bytes of a voltage, over two words, give the voltage back. -/
theorem voltage_of_build (u : ByteToLong) (other : Vector UInt8 8) (v : Int32) :
    voltage u ((Fields.cellVoltage v).build other) = v := by
  unfold Fields.build voltage
  simp only
  generalize hlow : v.toUInt32.toUInt16 = low
  generalize hhigh : (v.toUInt32 >>> 16).toUInt16 = high
  generalize hinner : putBytes other 3 (lowByte low) (highByte low) = inner
  have h3 : inner.get 3 = lowByte low := by
    rw [← hinner]
    exact get_putBytes_first other 3 _ _
  have h4 : inner.get 4 = highByte low := by
    rw [← hinner]
    exact get_putBytes_second other 3 _ _
  have h5 : (putBytes inner 5 (lowByte high) (highByte high)).get 5 = lowByte high :=
    get_putBytes_first inner 5 _ _
  have h6 : (putBytes inner 5 (lowByte high) (highByte high)).get 6 = highByte high :=
    get_putBytes_second inner 5 _ _
  have hkept3 : (putBytes inner 5 (lowByte high) (highByte high)).get 3 = inner.get 3 :=
    get_putBytes_ne inner _ _ (by decide) (by decide)
  have hkept4 : (putBytes inner 5 (lowByte high) (highByte high)).get 4 = inner.get 4 :=
    get_putBytes_ne inner _ _ (by decide) (by decide)
  rw [value_of_four_stores, hkept3, h3, hkept4, h4, h5, h6, word_highByte_lowByte,
    word_highByte_lowByte, ← hlow, ← hhigh, long_of_halves]
  rfl

/-- Every frame of fields decodes to them exactly when it is not one of temperatures, or the
byte that is left alone in both their unions was 0. -/
theorem the_decoders_invert_the_layout_iff (fields : Fields) (other : Vector UInt8 8)
    (locals : Locals) :
    fields.Decodes locals (fields.build other) ↔ fields.CleanFor locals := by
  cases fields with
  | cellVoltage v =>
    exact iff_of_true (voltage_of_build locals.voltage other v) trivial
  | activeData highest lowest a =>
    unfold Fields.Decodes Fields.CleanFor Fields.build highestTemp lowestTemp amps
    simp only
    generalize hinner : putBytes other 1 highest lowest = inner
    have hamps := value_of_putBytes locals.amps inner 3 a
    generalize hbuf : putBytes inner 3 (lowByte a.toUInt16) (highByte a.toUInt16) = buf at hamps ⊢
    have h1 : buf.get 1 = highest := by
      rw [← hbuf, get_putBytes_ne _ _ _ (by decide) (by decide), ← hinner]
      exact get_putBytes_first other 1 _ _
    have h2 : buf.get 2 = lowest := by
      rw [← hbuf, get_putBytes_ne _ _ _ (by decide) (by decide), ← hinner]
      exact get_putBytes_second other 1 _ _
    rw [value_of_one_store, value_of_one_store, h1, h2, byte_of_word_iff, byte_of_word_iff]
    exact ⟨fun h => ⟨h.1, h.2.1⟩, fun h => ⟨h.1, h.2, hamps⟩⟩
  | packConfig ah =>
    refine iff_of_true ?_ trivial
    exact value_of_putBytes locals.AH other 5 ah
  | controller t =>
    refine iff_of_true ?_ trivial
    exact value_of_putBytes locals.throttle other 4 t

/-- Locals on a stack that held a 1 where the high byte of the highest temperature is. -/
def usedLocals : Locals := { cleanLocals with highestTemp := ByteToShort.ofValue 256 }

/-- A highest temperature of 25 degrees is read as 281 there. -/
theorem a_temperature_reads_what_the_stack_held :
    highestTemp usedLocals.highestTemp
        ((Fields.activeData 25 20 0).build (Vector.replicate 8 0)) = 281 ∧
      ¬ (Fields.activeData 25 20 0).Decodes usedLocals
        ((Fields.activeData 25 20 0).build (Vector.replicate 8 0)) := by
  unfold Fields.Decodes
  decide +kernel

end super_charger.zero
