-- What runs of the attribute server write: values, long writes, subscriptions,
-- and the one handle whose requests are not defined.
import SuperCharger.AttRuns
import SuperCharger.AttTree

namespace super_charger.ble

open arduino history

variable {o : Objects} {g : GATTClass} {s : Server}

/-! ## Values -/

/-- A run without writes of the sketch tracks the last write of each characteristic. -/
theorem lastWritten_of_play (e : Nat) {is : List Input} (hremote : ∀ i ∈ is, i.Remote)
    {r : Server × List Effect} (hplay : play o g s is = some r) :
    r.2.foldl (lastWritten e) (s.values e).value = (r.1.values e).value :=
  play_tracks (R := fun t v => v = (t.values e).value) (P := Input.Remote)
    (fun t v i q hi hv hdoes => by
      rw [hv]
      exact lastWritten_does hdoes hi e) rfl hremote hplay

theorem writable_of_play {d : UInt16 × List UInt8} (hdraft : Draft o g s d) {is : List Input}
    {r : Server × List Effect} (hplay : play o g s is = some r) {x : Effect} (hx : x ∈ r.2)
    {c : Nat} (hc : writes c x = true) : Writable o c := by
  induction is generalizing s d r with
  | nil =>
    obtain rfl := Option.some.inj hplay
    cases hx
  | cons i is ih =>
    obtain ⟨q, effects, hq, hrest, heffects⟩ := play_cons hplay
    have hdoes := does_of_respond hq
    rw [heffects] at hx
    rcases List.mem_append.mp hx with hx | hx
    · exact writable_of_does hdraft hdoes hx hc
    · exact ih (hdraft.does hdoes) hrest hx

/-- The objects of a sketch that has a name, which a central may change. -/
def nameTag : Objects where
  service _ := { uuid := .ofData [0x00, 0x18], characteristics := [0] }
  characteristic _ :=
    { uuid := .ofData [0x00, 0x2a]
      properties := BLERead ||| BLEWrite
      valueSize := 30
      valueSize_le := Nat.le_add_right 30 482
      fixedLength := false
      addedDescriptors := [] }
  descriptor _ := .empty

def nameTagTable : GATTClass := .build nameTag [0]

/-- A packet from the central that connected. -/
def packet (pdu : List UInt8) : Input :=
  .handleData 0x40 (UInt8.ofNat pdu.length) (received (fun _ => 0) pdu)

/-- A name is written in two parts. -/
def newName : List Input :=
  [.addConnection 0x40 1, packet [0x16, 0x03, 0x00, 0x00, 0x00, 0x53],
    packet [0x16, 0x03, 0x00, 0x01, 0x00, 0x43]]

/-- Over any run of packets, connections and disconnections a characteristic holds what the last
write event of it said, or what it held before; and such events come only for the characteristics
that the sketch made writable. -/
theorem values_of_events (hidle : s.Idle) {is : List Input} (hremote : ∀ i ∈ is, i.Remote)
    {r : Server × List Effect} (hplay : play o g s is = some r) (c : Nat) :
    (r.1.values c).value =
        ((lastOf (writes c) r.2).map writtenValue).getD (s.values c).value ∧
      ((lastOf (writes c) r.2).isSome → Writable o c) := by
  refine ⟨?_, fun hsome => ?_⟩
  · rw [← lastWritten_of_play c hremote hplay]
    have hhit : ∀ v e, writes c e = true → id (lastWritten c v e) = writtenValue e :=
      fun v e he => if_pos he
    have hmiss : ∀ v e, writes c e = false → id (lastWritten c v e) = id v :=
      fun v e he => if_neg (by simp [he])
    exact register_of_history hhit hmiss _ _
  · obtain ⟨x, hx⟩ := Option.isSome_iff_exists.mp hsome
    have hmem := List.mem_filter.mp (List.mem_of_getLast? hx)
    exact writable_of_play hidle.draft hplay hmem.1 hmem.2

theorem values_of_events_newName :
    ∃ r, play nameTag nameTagTable (fresh nameTag) (newName ++ [packet [0x18, 0x01]]) = some r ∧
      (r.1.values 0).value = 0x53 :: 0x43 :: List.replicate 28 0 ∧ Writable nameTag 0 := by
  have hremote : ∀ i ∈ newName ++ [packet [0x18, 0x01]], i.Remote := by
    simp [newName, packet, Input.Remote]
  have h := values_of_events (o := nameTag) (g := nameTagTable) (s := fresh nameTag) ⟨rfl, rfl⟩
    hremote rfl 0
  exact ⟨_, rfl, h.1.trans rfl, h.2 rfl⟩

/-! ## Long writes -/

/-- A table that a handle of 16 bits can name, with more before its first descriptor. -/
structure Table (g : GATTClass) : Prop where
  small : g.attributeCount < 65535
  first : ∀ d, g.attributeAt 0 ≠ some (.descriptor d)

/-- Something stands before each descriptor. -/
theorem Table.before (htable : Table g) {handle : UInt16} {d : Descriptor}
    (h : g.attributeBefore handle 1 = some (.descriptor d)) : g.attributeBefore handle 2 ≠ none := by
  unfold GATTClass.attributeBefore at h ⊢
  split at h
  · rename_i hpos
    by_cases htwo : 2 ≤ handle.toNat
    · rw [if_pos htwo]
      have hin : handle.toNat - 1 < g.attributes.length := (List.getElem?_eq_some_iff.mp h).1
      have hbefore : handle.toNat - 2 < g.attributes.length := by omega
      rw [GATTClass.attributeAt, List.getElem?_eq_getElem hbefore]
      exact Option.some_ne_none _
    · have hone : handle.toNat - 1 = 0 := by omega
      rw [hone] at h
      exact absurd h (htable.first d)
  · cases h

section Behind

variable {handle connectionHandle : UInt16} {dlen : UInt8} {data : Data}

end Behind

end super_charger.ble
