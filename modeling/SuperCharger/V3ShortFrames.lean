-- Frames of any length on the bike bus of `v3`: `readMsgBuf` writes the received bytes only, the
-- decoders never look at the length, and the rest of the local buffer is what the stack held.
import SuperCharger.V3Fields

namespace super_charger.v3

open machine_int arduino zero

/-! ## Arrivals -/

/-- A frame as it arrives: its identifier, the bytes that were received, and the local unions that
the decoders find. -/
structure Arrival where
  canId : UInt32
  data : List UInt8
  len_le : data.length ≤ 8
  locals : Locals

/-- `Bike.readMsgBuf(&len, buf)` writes the `len` bytes that were received. -/
def readMsgBuf (buf : Vector UInt8 8) (data : List UInt8) : Vector UInt8 8 :=
  Vector.ofFn fun i => data.getD i.val (buf.get i)

/-- What the turn of the loop works on when the local buffer held `buf` before it. -/
def Arrival.frame (a : Arrival) (buf : Vector UInt8 8) : Frame where
  canId := a.canId
  buf := readMsgBuf buf a.data
  locals := a.locals

/-- `short canId = Bike.getCanId()`. -/
def Arrival.id (a : Arrival) : Int16 := a.canId.toUInt16.toInt16

/-- The buffer is a local of the loop body without an initializer, so every turn finds in it what
the stack holds there. -/
def drained (s : State) (arrivals : List Arrival) (found : Nat → Vector UInt8 8) : State :=
  bikeLoop s (arrivals.mapIdx fun i a => a.frame (found i))

/-- The frame is taken for one with this field and ends before its last byte. -/
def Arrival.Lacks (a : Arrival) (field : BikeField) : Prop :=
  a.id = field.id ∧ a.data.length ≤ field.lastByte

/-- The frame has every byte of every field that it is taken to have. -/
def Arrival.Complete (a : Arrival) : Prop := ∀ field, ¬ a.Lacks field

theorem readMsgBuf_get {data : List UInt8} {i : Fin 8} (h : i.val < data.length)
    (buf : Vector UInt8 8) : (readMsgBuf buf data).get i = data[i.val] := by
  unfold readMsgBuf
  change (Vector.ofFn fun i : Fin 8 => data.getD i.val (buf.get i))[i.val] = data[i.val]
  rw [Vector.getElem_ofFn, List.getD_eq_getElem?_getD, List.getElem?_eq_getElem h, Option.getD_some]

/-- Past the received bytes the buffer holds what it held. -/
theorem readMsgBuf_get_past {data : List UInt8} {i : Fin 8} (h : data.length ≤ i.val)
    (buf : Vector UInt8 8) : (readMsgBuf buf data).get i = buf.get i := by
  unfold readMsgBuf
  change (Vector.ofFn fun i : Fin 8 => data.getD i.val (buf.get i))[i.val] = buf.get i
  rw [Vector.getElem_ofFn, List.getD_eq_getElem?_getD, List.getElem?_eq_none h, Option.getD_none]

/-! ## Frames that decode alike -/

/-- The decoder of a field reads no byte past the last one. -/
theorem decode_congr {field : BikeField} {f g : Frame} (hlocals : f.locals = g.locals)
    (hbytes : ∀ i : Fin 8, i.val ≤ field.lastByte → f.buf.get i = g.buf.get i) :
    field.decode f = field.decode g := by
  cases field with
  | monolithVoltage | powerTankVoltage =>
    unfold BikeField.decode Frame.voltage voltage
    rw [hlocals, hbytes 3 (by decide), hbytes 4 (by decide), hbytes 5 (by decide),
      hbytes 6 (by decide)]
  | monolithAmps | powerTankAmps =>
    unfold BikeField.decode Frame.absAmps Frame.amps amps
    rw [hlocals, hbytes 3 (by decide), hbytes 4 (by decide)]
  | monolithAH | powerTankAH =>
    unfold BikeField.decode Frame.AH AH
    rw [hlocals, hbytes 5 (by decide), hbytes 6 (by decide)]
  | monolithMaxTemp | powerTankMaxTemp =>
    unfold BikeField.decode Frame.highestTemp highestTemp
    rw [hlocals, hbytes 1 (by decide)]
  | monolithMinTemp | powerTankMinTemp =>
    unfold BikeField.decode Frame.lowestTemp lowestTemp
    rw [hlocals, hbytes 2 (by decide)]
  | throttle =>
    unfold BikeField.decode Frame.throttle throttle
    rw [hlocals, hbytes 4 (by decide), hbytes 5 (by decide)]

/-- What a turn does depends on the identifier and on the fields that it decodes. -/
theorem receive_congr {f g : Frame} (hid : f.id = g.id)
    (hfields : ∀ field : BikeField, f.id = field.id → field.decode f = field.decode g) (s : State) :
    blocks.receive s f = blocks.receive s g := by
  rcases blocks.receive_cases s f with
    ⟨h, e⟩ | ⟨h, e⟩ | ⟨h, e⟩ | ⟨h, e⟩ | ⟨h, e⟩ | ⟨h, e⟩ | ⟨h, e⟩ | ⟨h, e⟩
  · have hvoltage : f.voltage = g.voltage := hfields .monolithVoltage h
    rw [e, blocks.receive_monolithVoltage s (hid ▸ h)]
    change onMonolithVoltage s f = onMonolithVoltage s g
    unfold onMonolithVoltage
    rw [hvoltage]
  · have hvoltage : f.voltage = g.voltage := hfields .powerTankVoltage h
    rw [e, blocks.receive_powerTankVoltage s (hid ▸ h)]
    change onPowerTankVoltage s f = onPowerTankVoltage s g
    unfold onPowerTankVoltage
    rw [hvoltage]
  · have hamps : f.absAmps = g.absAmps := hfields .monolithAmps h
    have hmax : f.highestTemp.toInt32 = g.highestTemp.toInt32 := hfields .monolithMaxTemp h
    have hmin : f.lowestTemp.toInt32 = g.lowestTemp.toInt32 := hfields .monolithMinTemp h
    rw [e, blocks.receive_monolithActive s (hid ▸ h)]
    change onMonolithPackActiveData (onMonolithAmps s f) f =
      onMonolithPackActiveData (onMonolithAmps s g) g
    unfold onMonolithPackActiveData onMonolithAmps
    rw [hamps, hmax, hmin]
  · have hamps : f.absAmps = g.absAmps := hfields .powerTankAmps h
    have hmax : f.highestTemp.toInt32 = g.highestTemp.toInt32 := hfields .powerTankMaxTemp h
    have hmin : f.lowestTemp.toInt32 = g.lowestTemp.toInt32 := hfields .powerTankMinTemp h
    rw [e, blocks.receive_powerTankActive s (hid ▸ h)]
    change onPowerTankPackActiveData (onPowerTankAmps s f) f =
      onPowerTankPackActiveData (onPowerTankAmps s g) g
    unfold onPowerTankPackActiveData onPowerTankAmps
    rw [hamps, hmax, hmin]
  · have hAH : f.AH.toInt32 = g.AH.toInt32 := hfields .monolithAH h
    rw [e, blocks.receive_monolithPackConfig s (hid ▸ h)]
    change onMonolithPackConfig s f = onMonolithPackConfig s g
    unfold onMonolithPackConfig
    rw [hAH]
  · have hAH : f.AH.toInt32 = g.AH.toInt32 := hfields .powerTankAH h
    rw [e, blocks.receive_powerTankPackConfig s (hid ▸ h)]
    change onPowerTankPackConfig s f = onPowerTankPackConfig s g
    unfold onPowerTankPackConfig
    rw [hAH]
  · have hthrottle : f.throttle = g.throttle := by
      by_contra hne
      exact toInt32_ne hne (hfields .throttle h)
    rw [e, blocks.receive_throttle s (hid ▸ h)]
    change onThrottle s f = onThrottle s g
    unfold onThrottle
    rw [hthrottle]
  · rw [e, blocks.receive_other s (hid ▸ h)]

/-! ## Turns of the loop -/

theorem drained_snoc (s : State) (before : List Arrival) (a : Arrival)
    (found : Nat → Vector UInt8 8) :
    drained s (before ++ [a]) found =
      blocks.receive (drained s before found) (a.frame (found before.length)) := by
  unfold drained bikeLoop Blocks.drain
  rw [List.mapIdx_concat, List.foldl_append]
  rfl

theorem drained_congr {found found' : Nat → Vector UInt8 8} {arrivals : List Arrival}
    (h : ∀ i < arrivals.length, found i = found' i) (s : State) :
    drained s arrivals found = drained s arrivals found' := by
  unfold drained
  congr 1
  rw [List.mapIdx_eq_mapIdx_iff]
  intro i hi
  rw [h i hi]

/-- A turn on a complete frame does not read what the buffer held. -/
theorem Arrival.Complete.receive {a : Arrival} (h : a.Complete) (buf buf' : Vector UInt8 8)
    (s : State) : blocks.receive s (a.frame buf) = blocks.receive s (a.frame buf') := by
  have hids : (a.frame buf).id = (a.frame buf').id := rfl
  have hlocals : (a.frame buf).locals = (a.frame buf').locals := rfl
  refine receive_congr hids ?_ s
  intro field hid
  have hlong : field.lastByte < a.data.length := by
    by_contra hshort
    exact h field ⟨hid, Nat.le_of_not_lt hshort⟩
  refine decode_congr hlocals ?_
  intro i hi
  have hreceived : i.val < a.data.length := Nat.lt_of_le_of_lt hi hlong
  exact (readMsgBuf_get hreceived buf).trans (readMsgBuf_get hreceived buf').symm

theorem drained_of_complete {arrivals : List Arrival} (h : ∀ a ∈ arrivals, a.Complete)
    (found found' : Nat → Vector UInt8 8) (s : State) :
    drained s arrivals found = drained s arrivals found' := by
  induction arrivals using List.reverseRecOn with
  | nil => rfl
  | append_singleton before a ih =>
    have hbefore := ih fun b hb => h b (List.mem_append_left [a] hb)
    have ha : a.Complete := h a (List.mem_append_right before (List.mem_singleton_self a))
    rw [drained_snoc, drained_snoc, hbefore]
    exact ha.receive _ _ _

/-! ## What the state depends on -/

/-- The part of the bike state that the charging law and the reports read. -/
structure Observed where
  volts : Int16
  C_RATE : Int32
  lowTemp : Int16
  highTemp : Int16
  monolithAmps : Int32
  powerTankAmps : Int32
  bikeAmps : UInt16
  chargingAmps : UInt16
  delayItteration : Int32
deriving DecidableEq

def State.observed (s : State) : Observed where
  volts := s.volts
  C_RATE := s.C_RATE
  lowTemp := s.lowTemp
  highTemp := s.highTemp
  monolithAmps := s.monolithAmps
  powerTankAmps := s.powerTankAmps
  bikeAmps := s.bikeAmps
  chargingAmps := s.chargingAmps
  delayItteration := s.delayItteration

/-- At every point of the drain the state is the same whatever the buffers held, and a frame too
short to contain a field leaves the state of the field as it was. -/
def ReadsOnlyReceived (arrivals : List Arrival) : Prop :=
  (∀ s before, before <+: arrivals → ∀ found found',
    (drained s before found).observed = (drained s before found').observed) ∧
  (∀ s before a, before ++ [a] <+: arrivals → ∀ found field, a.Lacks field →
    field.value (drained s (before ++ [a]) found) = field.value (drained s before found))

/-- A turn on a frame that ends before the last byte of a field stores what the buffer held. -/
theorem Arrival.Lacks.leaks {a : Arrival} {field : BikeField} (h : a.Lacks field) (s : State) :
    field.value (blocks.receive s (a.frame (Vector.replicate 8 0))) ≠
      field.value (blocks.receive s (a.frame (Vector.replicate 8 1))) := by
  have hstale : ∀ byte, byteAt (a.frame (Vector.replicate 8 byte)) field = byte := by
    intro byte
    have hpast : a.data.length ≤ (⟨field.lastByte, field.lastByte_lt⟩ : Fin 8).val := h.2
    exact (readMsgBuf_get_past hpast _).trans (Vector.getElem_replicate _)
  have hid : ∀ buf, (a.frame buf).id = field.id := fun _ => h.1
  rw [value_of_receive field s (hid _), value_of_receive field s (hid _)]
  exact decode_ne rfl (hstale 0) (hstale 1)

/-- The bike state depends on received bytes only, exactly when every frame that is taken for one
of a pack or of the throttle is long enough for its fields. -/
theorem the_state_depends_on_received_bytes_only_iff (arrivals : List Arrival) :
    ReadsOnlyReceived arrivals ↔ ∀ a ∈ arrivals, a.Complete := by
  constructor
  · rintro ⟨-, hkept⟩ a ha field hlacks
    obtain ⟨before, after, rfl⟩ := List.append_of_mem ha
    have hprefix : before ++ [a] <+: before ++ a :: after := ⟨after, by simp⟩
    -- The same buffers up to the short frame, and then one of two.
    let found (byte : UInt8) (i : Nat) : Vector UInt8 8 :=
      if i < before.length then Vector.replicate 8 0 else Vector.replicate 8 byte
    have hat : ∀ byte, found byte before.length = Vector.replicate 8 byte :=
      fun byte => if_neg (Nat.lt_irrefl _)
    have hbefore : drained setup before (found 0) = drained setup before (found 1) := by
      refine drained_congr ?_ setup
      intro i hi
      exact (if_pos hi).trans (if_pos hi).symm
    have h0 := hkept setup before a hprefix (found 0) field hlacks
    have h1 := hkept setup before a hprefix (found 1) field hlacks
    rw [drained_snoc, hat] at h0 h1
    rw [hbefore] at h0
    exact hlacks.leaks _ (h0.trans h1.symm)
  · intro hcomplete
    constructor
    · intro s before hbefore found found'
      rw [drained_of_complete (fun a ha => hcomplete a (hbefore.subset ha)) found found' s]
    · intro s before a hprefix found field hlacks
      have hmem : a ∈ arrivals :=
        hprefix.subset (List.mem_append_right before (List.mem_singleton_self a))
      exact absurd hlacks (hcomplete a hmem field)

/-- A voltage frame of the monolith without data. -/
def emptyFrame : Arrival where
  canId := 0x388
  data := []
  len_le := by decide
  locals := cleanLocals

/-- Its voltage is what the stack held. -/
theorem an_empty_frame_sets_the_voltage :
    (drained setup [emptyFrame] fun _ => Vector.replicate 8 0).volts = 0 ∧
    (drained setup [emptyFrame] fun _ => #v[0, 0, 0, 0xB0, 0xC6, 0x01, 0, 0]).volts = 1164 ∧
    ¬ ReadsOnlyReceived [emptyFrame] := by
  have hzero : (drained setup [emptyFrame] fun _ => Vector.replicate 8 0).volts = 0 := by decide
  have hstale : (drained setup [emptyFrame] fun _ =>
      #v[0, 0, 0, 0xB0, 0xC6, 0x01, 0, 0]).volts = 1164 := by decide
  refine ⟨hzero, hstale, ?_⟩
  rintro ⟨hsame, -⟩
  have hvolts := congrArg Observed.volts (hsame setup [emptyFrame] (List.prefix_refl _)
    (fun _ => Vector.replicate 8 0) fun _ => #v[0, 0, 0, 0xB0, 0xC6, 0x01, 0, 0])
  unfold State.observed at hvolts
  rw [hzero, hstale] at hvolts
  exact absurd hvolts (by decide)

end super_charger.v3
