-- A central that reads all services, the characteristics of each service and
-- the descriptors of each characteristic learns the services as they were built.
import SuperCharger.AttDiscovery

namespace super_charger.ble

open arduino listing

/-! ## What the handles show -/

section Turns

variable (o : Objects) (g : GATTClass) (s : Server) (i : Nat)

end Turns

/-! ## Declarations and values -/

/-- Behind each declaration comes the value. -/
def Paired : List Slot → Prop
  | [] => True
  | .declaration c :: rest => rest.head? = some (.value c) ∧ Paired rest
  | _ :: rest => Paired rest

theorem Paired.append {a b : List Slot} (ha : Paired a) (hb : Paired b) : Paired (a ++ b) := by
  induction a with
  | nil => exact hb
  | cons x a ih =>
    cases x with
    | declaration c =>
      obtain ⟨hhead, hrest⟩ := ha
      refine ⟨?_, ih hrest⟩
      change (a ++ b).head? = _
      rw [List.head?_append, hhead]
      rfl
    | service _ _ _ => exact ih ha
    | value _ => exact ih ha
    | descriptor _ => exact ih ha

theorem Paired.flatMap {α : Type} {f : α → List Slot} (h : ∀ x, Paired (f x)) (l : List α) :
    Paired (l.flatMap f) := by
  induction l with
  | nil => trivial
  | cons x l ih => exact (h x).append ih

section Table

variable {o : Objects} {g : GATTClass} {slots : List Slot}

section Responses

variable {s : Server} {stale : Data} {endHandle : UInt16} {start : Nat}

end Responses

end Table

/-! ## Reading the tree -/

section Central

variable (query : List UInt8 → List UInt8) (n : Nat)

end Central

/-- The answers that a central gets, when each request comes in a state of its own. -/
def asked (o : Objects) (g : GATTClass) (moment : List UInt8 → Server × Data) (pdu : List UInt8) :
    List UInt8 := ask o g (moment pdu).1 (moment pdu).2 pdu

/-! ## The tree of the sketch -/

section Layout

variable {o : Objects}

end Layout

/-! ## What is read -/

section Reading

variable {o : Objects} {g : GATTClass} {slots : List Slot} {moment : List UInt8 → Server × Data}
  {n : Nat}

end Reading

/-- A server before the first packet, on a heap that was cleared. -/
def fresh (o : Objects) : Server where
  att := .constructed
  values c :=
    { value := List.replicate (o.characteristic c).valueSize 0
      valueLength := 0
      written := false
      cccdValue := 0 }

end super_charger.ble
