-- The text of a UUID, which the BLE library reads from its end: two digits for
-- each byte, with dashes anywhere between them.
import Mathlib.Tactic.Common
import SuperCharger.Gatt

namespace super_charger.ble

/-! ## Reading -/

/-- What `strtoul` makes of a digit. What it makes of a text with other characters is left out. -/
def hexDigit (c : Char) : Option Nat :=
  if '0' ≤ c ∧ c ≤ '9' then some (c.toNat - '0'.toNat)
  else if 'a' ≤ c ∧ c ≤ 'f' then some (c.toNat - 'a'.toNat + 10)
  else if 'A' ≤ c ∧ c ≤ 'F' then some (c.toNat - 'A'.toNat + 10)
  else none

def hexByte (high low : Char) : Option UInt8 :=
  (hexDigit high).bind fun h => (hexDigit low).map fun l => UInt8.ofNat (h * 16 + l)

/-- The loop of the constructor, over the text from its end on. A digit that has none before it is
read together with what lies before the text. -/
def readBytes : List Char → List UInt8 → Option (List UInt8)
  | [], data => some data
  | c :: cs, data =>
    if data.length < 16 then
      if c = '-' then readBytes cs data
      else
        match cs with
        | [] => none
        | high :: cs => (hexByte high c).bind fun b => readBytes cs (data ++ [b])
    else some data

/-- `_data` is cleared before the bytes are read, and `_length` is two or sixteen. -/
def BLEUuid.ofBytes (bytes : List UInt8) : BLEUuid where
  data := (bytes ++ List.replicate 16 0).take (if bytes.length ≤ 2 then 2 else 16)
  length_data := by
    split
    · exact .inl (by simp)
    · exact .inr (by simp)

/-- The constructor. -/
def BLEUuid.read (str : String) : Option BLEUuid :=
  (readBytes str.toList.reverse []).map BLEUuid.ofBytes

/-! ## Texts -/

/-- The text spells these bytes. -/
inductive Spells : List Char → List UInt8 → Prop
  | nil : Spells [] []
  | dash {cs : List Char} {bytes : List UInt8} (h : Spells cs bytes) : Spells ('-' :: cs) bytes
  | byte {high low : Char} {b : UInt8} {cs : List Char} {bytes : List UInt8}
      (hbyte : hexByte high low = some b) (h : Spells cs bytes) :
      Spells (high :: low :: cs) (b :: bytes)

theorem Spells.append {cs cs' : List Char} {bytes bytes' : List UInt8} (h : Spells cs bytes)
    (h' : Spells cs' bytes') : Spells (cs ++ cs') (bytes ++ bytes') := by
  induction h with
  | nil => exact h'
  | dash h ih => exact ih.dash
  | byte hbyte h ih => exact .byte hbyte ih

end super_charger.ble
