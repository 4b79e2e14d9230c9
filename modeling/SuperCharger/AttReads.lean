-- A value that is longer than a packet: what a central puts together that
-- reads it piece by piece.
import SuperCharger.AttTree
import SuperCharger.AttWrites

namespace super_charger.ble

open arduino listing

/-! ## Where a value stands -/

section Places

variable {o : Objects}

end Places

/-! ## Reading on -/

def readRequest (handle : UInt16) : List UInt8 := ATT_OP_READ_REQ :: bytes16 handle

def blobRequest (handle : UInt16) (offset : Nat) : List UInt8 :=
  ATT_OP_READ_BLOB_REQ :: bytes16 handle ++ bytes16 (UInt16.ofNat offset)

/-- What a response says of a value; an error says nothing. -/
def partOf (op : UInt8) : List UInt8 → List UInt8
  | op' :: bytes => if op' = op then bytes else []
  | [] => []

/-- The piece of a value from this byte on. -/
def valuePart (query : List UInt8 → List UInt8) (handle : UInt16) (offset : Nat) : List UInt8 :=
  if offset = 0 then partOf ATT_OP_READ_RESP (query (readRequest handle))
  else partOf ATT_OP_READ_BLOB_RESP (query (blobRequest handle offset))

/-- What a central puts together that asks up to `n` times. -/
def readLong (query : List UInt8 → List UInt8) (handle : UInt16) (n : Nat) : List UInt8 :=
  gather (valuePart query handle) (fun offset part => offset + part.length) n 0

section Reads

variable {o : Objects} {g : GATTClass} {s : Server} {stale : Data} {handle : UInt16} {c : Nat}

/-- The bytes that `valueLength` covers. -/
def Value.shown (v : Value) : List UInt8 := v.value.take v.valueLength

variable {moment : List UInt8 → Server × Data} {mtu : UInt16} {v : Value}

end Reads

/-! ## After any run -/

/-- Every buffer has the size that it was made with. -/
def Server.Sized (o : Objects) (s : Server) : Prop :=
  ∀ c, (s.values c).value.length = (o.characteristic c).valueSize

section Sized

variable {o : Objects} {g : GATTClass} {s : Server}

theorem Server.Sized.congr (h : s.Sized o) {t : Server}
    (hvalue : ∀ c, (t.values c).value = (s.values c).value) : t.Sized o :=
  fun c => (hvalue c).symm ▸ h c

end Sized

end super_charger.ble
