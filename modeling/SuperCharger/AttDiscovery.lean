-- Discovery: what a central learns about the table when it asks for lists of
-- attributes, each time behind the last entry of the response before.
import SuperCharger.Att
import SuperCharger.Listing

namespace super_charger.ble

open arduino listing

/-! ## A central -/

/-- A packet in the receive buffer, over what is left there of the packets before. -/
def received (stale : Data) (pdu : List UInt8) : Data := fun i => pdu.getD i (stale i)

/-- The packet that the server answers with, if it fits into its buffer. -/
def packetOf (mtu : UInt16) : List Effect → List UInt8
  | .sendAclPkt _ packet :: _ => if packet.length ≤ mtu.toNat then packet else []
  | _ :: effects => packetOf mtu effects
  | [] => []

def ask (o : Objects) (g : GATTClass) (s : Server) (stale : Data) (pdu : List UInt8) : List UInt8 :=
  packetOf s.att.mtu
    (((handleData o g s s.att.connectionHandle (UInt8.ofNat pdu.length) (received stale pdu)).map
      Prod.snd).getD [])

/-- How entries are written in a response, and read from it. All entries of a response have the
size that its second byte stands for. -/
structure ListFormat (α : Type) where
  resp : UInt8
  kind : α → UInt8
  size : UInt8 → Nat
  encode : α → List UInt8
  decode : List UInt8 → α
  kind_ne_zero : ∀ x, kind x ≠ 0
  size_pos : ∀ x, 0 < size (kind x)
  length_encode : ∀ x, (encode x).length = size (kind x)
  decode_encode : ∀ x, decode (encode x) = x

/-- The entries of a response. -/
def ListFormat.entries {α : Type} (f : ListFormat α) : List UInt8 → List α
  | op :: kind :: bytes => if op = f.resp then (chunks (f.size kind) bytes).map f.decode else []
  | _ => []

def BLEUuid.ofData (data : List UInt8) : BLEUuid :=
  if h : data.length = 2 ∨ data.length = 16 then ⟨data, h⟩ else ⟨[0, 0], .inl rfl⟩

@[simp] theorem BLEUuid.ofData_data (uuid : BLEUuid) : BLEUuid.ofData uuid.data = uuid := by
  unfold BLEUuid.ofData
  rw [dif_pos uuid.length_data]

section Loops

variable {α : Type} {f : ListFormat α} {g : GATTClass} {mtu endHandle : UInt16}
  {info : Nat → Slot → Option α} {body : UInt16 → BLEAttribute → Response → Turn}

/-- What the loop from an index on has to list. -/
def toList (info : Nat → Slot → Option α) (g : GATTClass) (endHandle : UInt16) (i : Nat)
    (as : List BLEAttribute) : List α :=
  ((g.described i (as.take (endHandle.toNat - i))).zipIdx (i + 1)).filterMap fun p => info p.2 p.1

end Loops

/-! ## Requests -/

section Ask

variable (o : Objects) (g : GATTClass) (s : Server) (stale : Data) (startHandle endHandle : UInt16)

end Ask

section Table

variable {α : Type} {g : GATTClass}

end Table

end super_charger.ble
