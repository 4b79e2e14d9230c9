-- The attribute table of the BLE library: what `addService` lays out for the
-- services of a sketch, and which handle each object of it gets.
import Mathlib.Logic.Function.Basic
import SuperCharger.MachineInt

namespace super_charger.ble

/-! ## The objects -/

def BLERead : UInt8 := 0x02
def BLEWriteWithoutResponse : UInt8 := 0x04
def BLEWrite : UInt8 := 0x08
def BLENotify : UInt8 := 0x10
def BLEIndicate : UInt8 := 0x20

/-- The bytes that `uuidData` and `uuidLength` give: two, or all sixteen. -/
structure BLEUuid where
  data : List UInt8
  length_data : data.length = 2 ∨ data.length = 16
deriving DecidableEq

/-- The objects of the sketch are known by numbers, which stand for their addresses. -/
structure BLELocalService where
  uuid : BLEUuid
  characteristics : List Nat

/-- What stays of a characteristic: the constructor bounds the size. The descriptors are those of
`addDescriptor`; the constructor may put one before them. -/
structure BLELocalCharacteristic where
  uuid : BLEUuid
  properties : UInt8
  valueSize : Nat
  valueSize_le : valueSize ≤ 512
  fixedLength : Bool
  addedDescriptors : List Nat

structure BLELocalDescriptor where
  uuid : BLEUuid
  value : List UInt8
  valueSize_le : value.length ≤ 512

/-- A descriptor of a table: the one that shows the `_cccdValue` of its characteristic, or one
that a sketch added. -/
inductive Descriptor where
  | cccd (c : Nat)
  | added (d : Nat)
deriving DecidableEq

structure Objects where
  service : Nat → BLELocalService
  characteristic : Nat → BLELocalCharacteristic
  descriptor : Nat → BLELocalDescriptor

def Objects.descriptors (o : Objects) (c : Nat) : List Descriptor :=
  (if (o.characteristic c).properties &&& (BLENotify ||| BLEIndicate) ≠ 0 then [.cccd c] else []) ++
    (o.characteristic c).addedDescriptors.map .added

/-! ## The table -/

/-- The table holds pointers; a characteristic stands in it twice. -/
inductive BLEAttribute where
  | service (s : Nat)
  | characteristic (c : Nat)
  | descriptor (d : Descriptor)
deriving DecidableEq

def BLETypeService : UInt16 := 0x2800
def BLETypeCharacteristic : UInt16 := 0x2803
def BLETypeDescriptor : UInt16 := 0x2900

def BLEAttribute.type : BLEAttribute → UInt16
  | .service _ => BLETypeService
  | .characteristic _ => BLETypeCharacteristic
  | .descriptor _ => BLETypeDescriptor

/-- The UUID of the descriptor `2902`. -/
def cccdUuid : BLEUuid := ⟨[0x02, 0x29], .inl rfl⟩

/-- For a sketch that adds no descriptors. -/
def BLELocalDescriptor.empty : BLELocalDescriptor where
  uuid := cccdUuid
  value := []
  valueSize_le := Nat.zero_le 512

def Objects.uuid (o : Objects) : BLEAttribute → BLEUuid
  | .service s => (o.service s).uuid
  | .characteristic c => (o.characteristic c).uuid
  | .descriptor (.cccd _) => cccdUuid
  | .descriptor (.added d) => (o.descriptor d).uuid

/-- The table, and the handles that it gave to the services and characteristics. -/
structure GATTClass where
  attributes : List BLEAttribute
  startHandle : Nat → UInt16
  endHandle : Nat → UInt16
  handle : Nat → UInt16

namespace GATTClass

/-- No attributes, and no object has a handle. -/
def empty : GATTClass where
  attributes := []
  startHandle _ := 0
  endHandle _ := 0
  handle _ := 0

def attributeCount (g : GATTClass) : Nat := g.attributes.length

/-- `_attributes.get`, which has no pointer to give behind the end. -/
def attributeAt (g : GATTClass) (index : Nat) : Option BLEAttribute := g.attributes[index]?

/-- `attribute(handle - k)`, whose index is huge when the handle is smaller. -/
def attributeBefore (g : GATTClass) (handle : UInt16) (k : Nat) : Option BLEAttribute :=
  if k ≤ handle.toNat then g.attributeAt (handle.toNat - k) else none

def valueHandle (g : GATTClass) (c : Nat) : UInt16 := g.handle c + 1

def add (g : GATTClass) (a : BLEAttribute) : GATTClass :=
  { g with attributes := g.attributes ++ [a] }

def setHandle (g : GATTClass) (c : Nat) (handle : UInt16) : GATTClass :=
  { g with handle := Function.update g.handle c handle }

def setHandles (g : GATTClass) (s : Nat) (start last : UInt16) : GATTClass :=
  { g with
    startHandle := Function.update g.startHandle s start
    endHandle := Function.update g.endHandle s last }

def addDescriptor (g : GATTClass) (d : Descriptor) : GATTClass := g.add (.descriptor d)

/-- One turn of the outer loop of `addService`. -/
def addCharacteristic (o : Objects) (g : GATTClass) (c : Nat) : GATTClass :=
  let g := g.add (.characteristic c)
  let g := g.setHandle c (UInt16.ofNat g.attributeCount)
  -- again, to make space for the value handle
  let g := g.add (.characteristic c)
  (o.descriptors c).foldl addDescriptor g

def addService (o : Objects) (g : GATTClass) (s : Nat) : GATTClass :=
  let g := g.add (.service s)
  let startHandle := UInt16.ofNat g.attributeCount
  let g := (o.service s).characteristics.foldl (addCharacteristic o) g
  g.setHandles s startHandle (UInt16.ofNat g.attributeCount)

/-- The table after services were added to an empty one. -/
def build (o : Objects) (services : List Nat) : GATTClass := services.foldl (addService o) empty

end GATTClass

/-! ## The layout -/

/-- What a place of the table is for. -/
inductive Slot where
  | service (startHandle endHandle : UInt16) (s : Nat)
  | declaration (c : Nat)
  | value (c : Nat)
  | descriptor (d : Descriptor)

/-- What the requests take the attribute at this handle for. -/
def GATTClass.describe (g : GATTClass) (handle : UInt16) : BLEAttribute → Slot
  | .service s => .service (g.startHandle s) (g.endHandle s) s
  | .characteristic c => if g.valueHandle c = handle then .value c else .declaration c
  | .descriptor d => .descriptor d

/-- What the attributes behind the first `n` are for. -/
def GATTClass.described (g : GATTClass) : Nat → List BLEAttribute → List Slot
  | _, [] => []
  | n, a :: as => g.describe (UInt16.ofNat (n + 1)) a :: g.described (n + 1) as

def characteristicSlots (o : Objects) (c : Nat) : List Slot :=
  .declaration c :: .value c :: (o.descriptors c).map .descriptor

/-- A service behind the first `n` attributes: it ends where its last characteristic does. -/
def serviceSlots (o : Objects) (n s : Nat) : List Slot :=
  let slots := (o.service s).characteristics.flatMap (characteristicSlots o)
  .service (UInt16.ofNat (n + 1)) (UInt16.ofNat (n + 1 + slots.length)) s :: slots

/-- The attributes that stand for objects with a handle of their own. -/
def BLEAttribute.Handled : BLEAttribute → Prop
  | .descriptor _ => False
  | _ => True

/-- From `g` to `g'` these attributes were put at the end, for these purposes, and no other object
got a handle. -/
structure Appends (g g' : GATTClass) (attributes : List BLEAttribute) (slots : List Slot) : Prop where
  grows : g'.attributes = g.attributes ++ attributes
  described : g'.described g.attributes.length attributes = slots
  handle : ∀ c, .characteristic c ∉ attributes → g'.handle c = g.handle c
  startHandle : ∀ s, .service s ∉ attributes → g'.startHandle s = g.startHandle s
  endHandle : ∀ s, .service s ∉ attributes → g'.endHandle s = g.endHandle s

section Layout

variable {o : Objects} {g g' g'' : GATTClass} {as bs : List BLEAttribute} {ss ts : List Slot}

namespace GATTClass

theorem describe_congr {handle : UInt16} {a : BLEAttribute}
    (hc : ∀ c, a = .characteristic c → g'.handle c = g.handle c)
    (hs : ∀ s, a = .service s → g'.startHandle s = g.startHandle s ∧ g'.endHandle s = g.endHandle s) :
    g'.describe handle a = g.describe handle a := by
  cases a with
  | service s =>
    obtain ⟨hstart, hend⟩ := hs s rfl
    simp only [describe, hstart, hend]
  | characteristic c =>
    have hvalue : g'.valueHandle c = g.valueHandle c := by
      unfold valueHandle
      rw [hc c rfl]
    simp only [describe, hvalue]
  | descriptor d => rfl

theorem described_congr {n : Nat} {as : List BLEAttribute}
    (hc : ∀ c, .characteristic c ∈ as → g'.handle c = g.handle c)
    (hs : ∀ s, .service s ∈ as →
      g'.startHandle s = g.startHandle s ∧ g'.endHandle s = g.endHandle s) :
    g'.described n as = g.described n as := by
  induction as generalizing n with
  | nil => rfl
  | cons a as ih =>
    unfold described
    rw [ih (fun c h => hc c (by simp [h])) (fun s h => hs s (by simp [h]))]
    rw [describe_congr (fun c h => hc c (by simp [h])) (fun s h => hs s (by simp [h]))]

theorem described_append (g : GATTClass) (n : Nat) (as bs : List BLEAttribute) :
    g.described n (as ++ bs) = g.described n as ++ g.described (n + as.length) bs := by
  induction as generalizing n with
  | nil => rfl
  | cons a as ih =>
    have hn : n + (a :: as).length = n + 1 + as.length := by rw [List.length_cons]; omega
    rw [List.cons_append, described, described, ih, hn, List.cons_append]

theorem length_described (g : GATTClass) (n : Nat) (as : List BLEAttribute) :
    (g.described n as).length = as.length := by
  induction as generalizing n with
  | nil => rfl
  | cons a as ih => rw [described, List.length_cons, ih, List.length_cons]

end GATTClass

namespace Appends

theorem refl (g : GATTClass) : Appends g g [] [] where
  grows := (List.append_nil _).symm
  described := rfl
  handle _ _ := rfl
  startHandle _ _ := rfl
  endHandle _ _ := rfl

/-- Of two parts, the second gives no object of the first another handle. -/
theorem trans (h : Appends g g' as ss) (h' : Appends g' g'' bs ts)
    (hnew : ∀ a ∈ as, a.Handled → a ∉ bs) : Appends g g'' (as ++ bs) (ss ++ ts) where
  grows := by rw [h'.grows, h.grows, List.append_assoc]
  described := by
    have hfirst : g''.described g.attributes.length as = g'.described g.attributes.length as :=
      GATTClass.described_congr (fun c hc => h'.handle c (hnew _ hc trivial))
        (fun s hs => ⟨h'.startHandle s (hnew _ hs trivial), h'.endHandle s (hnew _ hs trivial)⟩)
    have hlength : g.attributes.length + as.length = g'.attributes.length := by
      rw [h.grows, List.length_append]
    rw [GATTClass.described_append, hfirst, h.described, hlength, h'.described]
  handle c hc := by
    rw [List.mem_append, not_or] at hc
    rw [h'.handle c hc.2, h.handle c hc.1]
  startHandle s hs := by
    rw [List.mem_append, not_or] at hs
    rw [h'.startHandle s hs.2, h.startHandle s hs.1]
  endHandle s hs := by
    rw [List.mem_append, not_or] at hs
    rw [h'.endHandle s hs.2, h.endHandle s hs.1]

theorem length_slots (h : Appends g g' as ss) : as.length = ss.length := by
  rw [← h.described, GATTClass.length_described]

theorem addDescriptors (g : GATTClass) (ds : List Descriptor) :
    Appends g (ds.foldl GATTClass.addDescriptor g) (ds.map .descriptor) (ds.map .descriptor) := by
  induction ds generalizing g with
  | nil => exact refl g
  | cons d ds ih =>
    have hfirst : Appends g (g.addDescriptor d) [.descriptor d] [.descriptor d] :=
      { grows := rfl
        described := rfl
        handle := fun _ _ => rfl
        startHandle := fun _ _ => rfl
        endHandle := fun _ _ => rfl }
    refine hfirst.trans (ih _) ?_
    intro a ha hhandled
    rw [List.mem_singleton.mp ha] at hhandled
    cases hhandled

end Appends

/-- The attributes of a characteristic, and of a service. -/
def characteristicAttributes (o : Objects) (c : Nat) : List BLEAttribute :=
  .characteristic c :: .characteristic c :: (o.descriptors c).map .descriptor

def serviceAttributes (o : Objects) (s : Nat) : List BLEAttribute :=
  .service s :: (o.service s).characteristics.flatMap (characteristicAttributes o)

@[simp] theorem service_not_mem_characteristicAttributes (o : Objects) (s c : Nat) :
    .service s ∉ characteristicAttributes o c := by simp [characteristicAttributes]

theorem characteristic_mem_characteristicAttributes {o : Objects} {c d : Nat} :
    .characteristic c ∈ characteristicAttributes o d ↔ c = d := by simp [characteristicAttributes]

/-- The declaration comes one handle before the value, whatever the handles wrap around to. -/
theorem succ_ne_self (h : UInt16) : h + 1 ≠ h := by
  intro heq
  have := congrArg UInt16.toNat heq
  rw [UInt16.toNat_add] at this
  have := h.toNat_lt
  simp only [UInt16.toNat_one] at *
  omega

theorem ofNat_succ (n : Nat) : UInt16.ofNat (n + 1) = UInt16.ofNat n + 1 := UInt16.ofNat_add n 1

namespace Appends

theorem addCharacteristic (o : Objects) (g : GATTClass) (c : Nat) :
    Appends g (g.addCharacteristic o c) (characteristicAttributes o c) (characteristicSlots o c) := by
  let placed := ((g.add (.characteristic c)).setHandle c
    (UInt16.ofNat (g.attributes.length + 1))).add (.characteristic c)
  have hhandle : placed.handle c = UInt16.ofNat (g.attributes.length + 1) :=
    Function.update_self ..
  have hpair : Appends g placed [.characteristic c, .characteristic c] [.declaration c, .value c] :=
    { grows := List.append_assoc ..
      described := by
        have hdeclaration : placed.valueHandle c ≠ UInt16.ofNat (g.attributes.length + 1) := by
          unfold GATTClass.valueHandle
          rw [hhandle]
          exact succ_ne_self _
        have hvalue : placed.valueHandle c = UInt16.ofNat (g.attributes.length + 1 + 1) := by
          unfold GATTClass.valueHandle
          rw [hhandle, ofNat_succ (g.attributes.length + 1)]
        simp only [GATTClass.described, GATTClass.describe, if_neg hdeclaration, if_pos hvalue]
      handle := by
        intro d hd
        refine Function.update_of_ne ?_ _ _
        rintro rfl
        simp at hd
      startHandle := fun _ _ => rfl
      endHandle := fun _ _ => rfl }
  have hcount : ((g.add (.characteristic c)).attributeCount) = g.attributes.length + 1 :=
    List.length_append
  unfold GATTClass.addCharacteristic
  dsimp only
  rw [hcount]
  exact hpair.trans (addDescriptors placed (o.descriptors c)) (fun a ha _ => by simp at ha; simp [ha])

theorem addCharacteristics {o : Objects} (g : GATTClass) {cs : List Nat} (hcs : cs.Nodup) :
    Appends g (cs.foldl (GATTClass.addCharacteristic o) g)
      (cs.flatMap (characteristicAttributes o)) (cs.flatMap (characteristicSlots o)) := by
  induction cs generalizing g with
  | nil => exact refl g
  | cons c cs ih =>
    obtain ⟨hc, hcs⟩ := List.nodup_cons.mp hcs
    refine (addCharacteristic o g c).trans (ih _ hcs) ?_
    intro a ha hhandled hmem
    obtain ⟨d, hd, hmem⟩ := List.mem_flatMap.mp hmem
    cases a with
    | service s => simp at ha
    | characteristic e =>
      rw [characteristic_mem_characteristicAttributes] at ha hmem
      exact hc (ha ▸ hmem ▸ hd)
    | descriptor e => exact hhandled

theorem addService {o : Objects} (g : GATTClass) {s : Nat}
    (hs : (o.service s).characteristics.Nodup) :
    Appends g (g.addService o s) (serviceAttributes o s)
      (serviceSlots o g.attributes.length s) := by
  have hcs := addCharacteristics (o := o) (g.add (.service s)) hs
  have hno : ∀ t, BLEAttribute.service t ∉
      (o.service s).characteristics.flatMap (characteristicAttributes o) := by simp
  set added := (o.service s).characteristics.foldl (GATTClass.addCharacteristic o)
    (g.add (.service s)) with hadded
  have hcount : added.attributes.length = g.attributes.length + 1 +
      ((o.service s).characteristics.flatMap (characteristicSlots o)).length := by
    rw [hcs.grows, List.length_append, hcs.length_slots]
    exact congrArg (· + _) List.length_append
  exact
    { grows := hcs.grows.trans (List.append_assoc ..)
      described := by
        have hrest : (g.addService o s).described (g.attributes.length + 1)
            ((o.service s).characteristics.flatMap (characteristicAttributes o)) =
              added.described (g.attributes.length + 1)
                ((o.service s).characteristics.flatMap (characteristicAttributes o)) :=
          GATTClass.described_congr (fun _ _ => rfl) (fun t ht => absurd ht (hno t))
        have hlength : (g.add (.service s)).attributes.length = g.attributes.length + 1 :=
          List.length_append
        have hslots := hcs.described
        rw [hlength] at hslots
        unfold serviceAttributes serviceSlots
        dsimp only
        rw [GATTClass.described, hrest, hslots]
        refine congrArg (· :: _) ?_
        unfold GATTClass.describe GATTClass.addService GATTClass.setHandles
        dsimp only
        rw [Function.update_self, Function.update_self]
        refine congrArg₂ (Slot.service · · s) (congrArg UInt16.ofNat List.length_append) ?_
        exact congrArg UInt16.ofNat hcount
      handle := fun c hc => hcs.handle c (fun hmem => hc (List.mem_cons_of_mem _ hmem))
      startHandle := by
        intro t ht
        have hne : t ≠ s := by
          rintro rfl
          simp [serviceAttributes] at ht
        exact (Function.update_of_ne hne _ _).trans (hcs.startHandle t (hno t))
      endHandle := by
        intro t ht
        have hne : t ≠ s := by
          rintro rfl
          simp [serviceAttributes] at ht
        exact (Function.update_of_ne hne _ _).trans (hcs.endHandle t (hno t)) }

end Appends

end Layout

end super_charger.ble
