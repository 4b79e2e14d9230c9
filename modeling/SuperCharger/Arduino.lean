-- What the sketches use of the Arduino core: bytes and words, the unions of
-- `unions.h` on a little-endian board, and the text of a serial stream.
import SuperCharger.MachineInt

namespace super_charger.arduino

open machine_int

/-! ## Bytes and words -/

def lowByte (w : UInt16) : UInt8 := (w &&& 0xff).toUInt8

def highByte (w : UInt16) : UInt8 := (w >>> 8).toUInt8

def word (h l : UInt8) : UInt16 := (h.toUInt16 <<< 8) ||| l.toUInt16

theorem toNat_lowByte (w : UInt16) : (lowByte w).toNat = w.toNat % 256 := by
  unfold lowByte
  rw [UInt16.toNat_toUInt8, UInt16.toNat_and]
  have h : w.toNat &&& 255 = w.toNat % 256 := Nat.and_two_pow_sub_one_eq_mod w.toNat 8
  simp only [UInt16.reduceToNat, h]
  omega

theorem toNat_highByte (w : UInt16) : (highByte w).toNat = w.toNat / 256 := by
  have := w.toNat_lt
  unfold highByte
  have hs : (w >>> 8).toNat = w.toNat / 256 := by
    simp [Nat.shiftRight_eq_div_pow]
  rw [UInt16.toNat_toUInt8, hs]
  omega

theorem toNat_word (h l : UInt8) : (word h l).toNat = h.toNat * 256 + l.toNat := by
  have hh := h.toNat_lt
  have hl := l.toNat_lt
  unfold word
  have hs : (h.toUInt16 <<< 8).toNat = h.toNat <<< 8 := by
    simp [Nat.shiftLeft_eq]
    omega
  rw [UInt16.toNat_or, hs, UInt8.toNat_toUInt16, ← Nat.shiftLeft_add_eq_or_of_lt (by omega),
    Nat.shiftLeft_eq]

/-- The two bytes of a word give the word back. -/
@[simp] theorem word_highByte_lowByte (w : UInt16) : word (highByte w) (lowByte w) = w := by
  apply UInt16.toNat_inj.mp
  rw [toNat_word, toNat_highByte, toNat_lowByte]
  omega

/-! ## The unions -/

/-- `union ByteToShort`: two bytes, the low one first, that are also one `short`. -/
structure ByteToShort where
  bytes : Vector UInt8 2
deriving DecidableEq

/-- The byte at 0. -/
def ByteToShort.low (u : ByteToShort) : UInt8 := u.bytes[0]

/-- The byte at 1. -/
def ByteToShort.high (u : ByteToShort) : UInt8 := u.bytes[1]

def ByteToShort.value (u : ByteToShort) : Int16 := (word u.bytes[1] u.bytes[0]).toInt16

/-- A store to one of the bytes. -/
def ByteToShort.store (u : ByteToShort) (i : Fin 2) (b : UInt8) : ByteToShort :=
  ⟨u.bytes.set i.val b i.isLt⟩

/-- The bytes that a store to `value` leaves. -/
def ByteToShort.ofValue (v : Int16) : ByteToShort :=
  ⟨#v[lowByte v.toUInt16, highByte v.toUInt16]⟩

/-- `union ByteToLong`: four bytes, the low one first, that are also one `long`. -/
structure ByteToLong where
  bytes : Vector UInt8 4
deriving DecidableEq

def ByteToLong.value (u : ByteToLong) : Int32 :=
  ((word u.bytes[1] u.bytes[0]).toUInt32 |||
    ((word u.bytes[3] u.bytes[2]).toUInt32 <<< 16)).toInt32

def ByteToLong.store (u : ByteToLong) (i : Fin 4) (b : UInt8) : ByteToLong :=
  ⟨u.bytes.set i.val b i.isLt⟩

/-! ## Text from a serial stream -/

/-- `Stream.readStringUntil`: the text up to the terminator, or up to the end of the data, and
what is left. The terminator is taken from the stream and is not in the text. -/
def readStringUntil (terminator : Char) : List Char → List Char × List Char
  | [] => ([], [])
  | c :: cs =>
    if c = terminator then ([], cs)
    else (c :: (readStringUntil terminator cs).1, (readStringUntil terminator cs).2)

/-- The white space that `strtol` skips. -/
def isSpace (c : Char) : Bool :=
  c = ' ' || c = '\t' || c = '\n' || c = '\x0b' || c = '\x0c' || c = '\r'

/-- The number that a run of digits spells, after the digits read so far. -/
def digits (read : Nat) : List Char → Nat
  | [] => read
  | c :: cs => if c.isDigit then digits (read * 10 + (c.toNat - 48)) cs else read

/-- The integer that a text starts with, of any size, or 0. -/
def leadingInt (text : List Char) : Int :=
  match text.dropWhile isSpace with
  | '-' :: cs => -(digits 0 cs : Int)
  | '+' :: cs => digits 0 cs
  | cs => digits 0 cs

/-- `String.toInt` on an AVR board: `atol` there keeps the low 32 bits. -/
def toIntAvr (text : List Char) : Int32 := Int32.ofInt (leadingInt text)

/-- `String.toInt` on a SAMD board: `atol` there stops at the ends of the range. -/
def toIntSamd (text : List Char) : Int32 :=
  Int32.ofInt (max (-2 ^ 31) (min (2 ^ 31 - 1) (leadingInt text)))

theorem readStringUntil_length (terminator : Char) (cs : List Char) :
    (readStringUntil terminator cs).2.length ≤ cs.length := by
  induction cs with
  | nil => simp [readStringUntil]
  | cons c cs ih =>
    unfold readStringUntil
    split
    · simp
    · simp only [List.length_cons]
      omega

/-- Of a stream that is not empty, a character or more is taken. -/
theorem readStringUntil_cons_length (terminator c : Char) (cs : List Char) :
    (readStringUntil terminator (c :: cs)).2.length ≤ cs.length := by
  unfold readStringUntil
  split
  · exact Nat.le_refl _
  · exact readStringUntil_length terminator cs

example : toIntAvr " -12a3".toList = -12 := by decide

end super_charger.arduino
