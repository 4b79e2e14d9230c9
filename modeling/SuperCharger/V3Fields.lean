-- The fields that `bikeLoop` of `v3` takes from the frames of the bike: the identifier and the
-- bytes of each, the state that it sets, and which identifiers are taken for its own.
import SuperCharger.V3Frames
import SuperCharger.ZeroFrames

namespace super_charger.v3

open machine_int arduino zero

/-! ## Fields -/

/-- A field of a frame that `bikeLoop` stores. -/
inductive BikeField where
  | monolithVoltage
  | powerTankVoltage
  | monolithAmps
  | powerTankAmps
  | monolithAH
  | powerTankAH
  | monolithMaxTemp
  | monolithMinTemp
  | powerTankMaxTemp
  | powerTankMinTemp
  | throttle
deriving DecidableEq

/-- The identifier of `Network.h` that the predicate of the field compares with. -/
def BikeField.id : BikeField → Int16
  | .monolithVoltage => BMS_CELL_VOLTAGE
  | .powerTankVoltage => BMS1_CELL_VOLTAGE
  | .monolithAmps | .monolithMaxTemp | .monolithMinTemp => BMS_PACK_ACTIVE_DATA
  | .powerTankAmps | .powerTankMaxTemp | .powerTankMinTemp => BMS1_PACK_ACTIVE_DATA
  | .monolithAH => BMS_PACK_CONFIG
  | .powerTankAH => BMS1_PACK_CONFIG
  | .throttle => CONTROLLER_RPM_THROTTLE_MOT_TEMP

/-- The same identifier, as `getCanId` gives it. -/
def BikeField.canId (field : BikeField) : UInt32 := field.id.toInt32.toUInt32

/-- The last byte of a frame that the decoder of the field reads. -/
def BikeField.lastByte : BikeField → Nat
  | .monolithVoltage | .powerTankVoltage | .monolithAH | .powerTankAH => 6
  | .monolithAmps | .powerTankAmps => 4
  | .monolithMaxTemp | .powerTankMaxTemp => 1
  | .monolithMinTemp | .powerTankMinTemp => 2
  | .throttle => 5

/-- What the decoder makes of a frame. -/
def BikeField.decode (f : Frame) : BikeField → Int32
  | .monolithVoltage | .powerTankVoltage => f.voltage
  | .monolithAmps | .powerTankAmps => f.absAmps
  | .monolithAH | .powerTankAH => f.AH.toInt32
  | .monolithMaxTemp | .powerTankMaxTemp => f.highestTemp.toInt32
  | .monolithMinTemp | .powerTankMinTemp => f.lowestTemp.toInt32
  | .throttle => f.throttle.toInt32

/-- The state of the field. -/
def BikeField.value (s : State) : BikeField → Int32
  | .monolithVoltage => s.monolithVolts
  | .powerTankVoltage => s.powerTankVolts
  | .monolithAmps => s.monolithAmps
  | .powerTankAmps => s.powerTankAmps
  | .monolithAH => s.monolithAH
  | .powerTankAH => s.powerTankAH
  | .monolithMaxTemp => s.monolithMaxTemp
  | .monolithMinTemp => s.monolithMinTemp
  | .powerTankMaxTemp => s.powerTankMaxTemp
  | .powerTankMinTemp => s.powerTankMinTemp
  | .throttle => s.bikeThrottle.toInt32

theorem BikeField.lastByte_lt (field : BikeField) : field.lastByte < 8 := by
  cases field <;> decide

/-! ## What a frame does to a field -/

theorem throttlePack_value (field : BikeField) (s : State) (AH amps : Int32) :
    field.value (throttlePack s AH amps) = field.value s := by
  obtain ⟨_, _, h⟩ := throttlePack_frame s AH amps
  rw [h]
  cases field <;> rfl

theorem onPowerTankVoltage_value {field : BikeField} (h : field ≠ .powerTankVoltage) (s : State)
    (f : Frame) : field.value (onPowerTankVoltage s f) = field.value s := by
  obtain ⟨_, _, hframe⟩ := onPowerTankVoltage_frame s f
  rw [hframe]
  cases field <;> first | rfl | exact absurd rfl h

theorem onMonolithAmps_value {field : BikeField} (h : field ≠ .monolithAmps) (s : State)
    (f : Frame) : field.value (onMonolithAmps s f) = field.value s := by
  unfold onMonolithAmps
  simp only
  rw [throttlePack_value]
  cases field <;> first | rfl | exact absurd rfl h

theorem onPowerTankAmps_value {field : BikeField} (h : field ≠ .powerTankAmps) (s : State)
    (f : Frame) : field.value (onPowerTankAmps s f) = field.value s := by
  unfold onPowerTankAmps
  simp only
  rw [throttlePack_value]
  cases field <;> first | rfl | exact absurd rfl h

theorem onMonolithPackActiveData_value {field : BikeField} (hmax : field ≠ .monolithMaxTemp)
    (hmin : field ≠ .monolithMinTemp) (s : State) (f : Frame) :
    field.value (onMonolithPackActiveData s f) = field.value s := by
  cases field <;> first | rfl | exact absurd rfl hmax | exact absurd rfl hmin

theorem onPowerTankPackActiveData_value {field : BikeField} (hmax : field ≠ .powerTankMaxTemp)
    (hmin : field ≠ .powerTankMinTemp) (s : State) (f : Frame) :
    field.value (onPowerTankPackActiveData s f) = field.value s := by
  cases field <;> first | rfl | exact absurd rfl hmax | exact absurd rfl hmin

/-- A frame with the identifier of the field stores what the decoder makes of it. -/
theorem value_of_receive (field : BikeField) (s : State) {f : Frame} (h : f.id = field.id) :
    field.value (blocks.receive s f) = field.decode f := by
  cases field with
  | monolithVoltage =>
    rw [blocks.receive_monolithVoltage s h]
    rfl
  | powerTankVoltage =>
    obtain ⟨_, _, hframe⟩ := onPowerTankVoltage_frame s f
    rw [blocks.receive_powerTankVoltage s h]
    exact congrArg State.powerTankVolts hframe
  | monolithAmps =>
    rw [blocks.receive_monolithActive s h]
    exact throttlePack_value .monolithAmps _ _ _
  | powerTankAmps =>
    rw [blocks.receive_powerTankActive s h]
    exact throttlePack_value .powerTankAmps _ _ _
  | monolithAH =>
    rw [blocks.receive_monolithPackConfig s h]
    rfl
  | powerTankAH =>
    rw [blocks.receive_powerTankPackConfig s h]
    rfl
  | monolithMaxTemp =>
    rw [blocks.receive_monolithActive s h]
    rfl
  | monolithMinTemp =>
    rw [blocks.receive_monolithActive s h]
    rfl
  | powerTankMaxTemp =>
    rw [blocks.receive_powerTankActive s h]
    rfl
  | powerTankMinTemp =>
    rw [blocks.receive_powerTankActive s h]
    rfl
  | throttle =>
    rw [blocks.receive_throttle s h]
    rfl

/-- A frame with another identifier leaves the field alone. -/
theorem value_of_other (field : BikeField) (s : State) {f : Frame} (h : f.id ≠ field.id) :
    field.value (blocks.receive s f) = field.value s := by
  have hne : ∀ other : BikeField, f.id = other.id → field ≠ other := by
    rintro other hid rfl
    exact h hid
  rcases blocks.receive_cases s f with
    ⟨hid, e⟩ | ⟨hid, e⟩ | ⟨hid, e⟩ | ⟨hid, e⟩ | ⟨hid, e⟩ | ⟨hid, e⟩ | ⟨hid, e⟩ | ⟨_, e⟩
  · have hvoltage := hne .monolithVoltage hid
    rw [e]
    cases field <;> first | rfl | exact absurd rfl hvoltage
  · rw [e]
    exact onPowerTankVoltage_value (hne .powerTankVoltage hid) s f
  · have hamps := onMonolithAmps_value (hne .monolithAmps hid) s f
    rw [e, ← hamps]
    exact onMonolithPackActiveData_value (hne .monolithMaxTemp hid) (hne .monolithMinTemp hid) _ f
  · have hamps := onPowerTankAmps_value (hne .powerTankAmps hid) s f
    rw [e, ← hamps]
    exact onPowerTankPackActiveData_value (hne .powerTankMaxTemp hid) (hne .powerTankMinTemp hid) _ f
  · have hAH := hne .monolithAH hid
    rw [e]
    cases field <;> first | rfl | exact absurd rfl hAH
  · have hAH := hne .powerTankAH hid
    rw [e]
    cases field <;> first | rfl | exact absurd rfl hAH
  · have hthrottle := hne .throttle hid
    rw [e]
    cases field <;> first | rfl | exact absurd rfl hthrottle
  · rw [e]

/-! ## The bytes of a field -/

/-- The last byte of the field in the local buffer. -/
def byteAt (f : Frame) (field : BikeField) : UInt8 := f.buf.get ⟨field.lastByte, field.lastByte_lt⟩

theorem word_ne {low low' : UInt8} : word 0 low ≠ word 1 low' := by
  intro h
  have hlow := low.toNat_lt
  have hnat := congrArg UInt16.toNat h
  rw [toNat_word, toNat_word, UInt8.toNat_zero] at hnat
  have hone : (1 : UInt8).toNat = 1 := rfl
  omega

theorem toInt16_word_ne {low low' : UInt8} : (word 0 low).toInt16 ≠ (word 1 low').toInt16 := by
  intro h
  refine @word_ne low low' ?_
  simpa using congrArg Int16.toUInt16 h

theorem toInt32_ne {x y : Int16} (h : x ≠ y) : x.toInt32 ≠ y.toInt32 := by
  intro he
  apply h
  have hint := congrArg Int32.toInt he
  rw [Int16.toInt_toInt32, Int16.toInt_toInt32] at hint
  exact Int16.toInt_inj.mp hint

theorem voltage_ne {f g : Frame} (hf : f.buf.get 6 = 0) (hg : g.buf.get 6 = 1) :
    f.voltage ≠ g.voltage := by
  intro h
  unfold Frame.voltage voltage at h
  rw [value_of_four_stores, value_of_four_stores, hf, hg] at h
  have hbits : ∀ {x y : UInt32}, x.toInt32 = y.toInt32 → x = y := by
    intro x y hxy
    simpa using congrArg Int32.toUInt32 hxy
  have hnat := congrArg UInt32.toNat (hbits h)
  have hlow := (word (f.buf.get 4) (f.buf.get 3)).toNat_lt
  have hlow' := (word (g.buf.get 4) (g.buf.get 3)).toNat_lt
  have hbyte := (f.buf.get 5).toNat_lt
  have hone : (1 : UInt8).toNat = 1 := rfl
  rw [toNat_long, toNat_long, toNat_word 0, toNat_word 1, UInt8.toNat_zero, hone] at hnat
  omega

theorem absAmps_ne {f g : Frame} (hf : f.buf.get 4 = 0) (hg : g.buf.get 4 = 1) :
    f.absAmps ≠ g.absAmps := by
  have hwhole : ∀ {f : Frame} {high : UInt8}, f.buf.get 4 = high → high.toNat < 128 →
      f.absAmps.toInt = high.toNat * 256 + (f.buf.get 3).toNat := by
    intro f high hbyte hhigh
    have hlow := (f.buf.get 3).toNat_lt
    have hamps : f.amps.toInt = high.toNat * 256 + (f.buf.get 3).toNat := by
      unfold Frame.amps amps
      rw [value_of_two_stores, hbyte, toInt_toInt16_of_lt (by rw [toNat_word]; omega), toNat_word]
      push_cast
      rfl
    unfold Frame.absAmps
    split
    · rw [Int16.toInt_toInt32, hamps]
    · rename_i hzero
      rw [gt_iff_lt, Int32.lt_iff_toInt_lt, Int16.toInt_toInt32, hamps] at hzero
      have hint : (0 : Int32).toInt = 0 := rfl
      have hneg : (-(0 : Int32)).toInt = 0 := rfl
      have hsame : f.amps.toInt32 = 0 := by
        apply Int32.toInt_inj.mp
        rw [Int16.toInt_toInt32, hamps]
        omega
      rw [hsame, hneg]
      omega
  intro h
  have hint := congrArg Int32.toInt h
  have hlow := (f.buf.get 3).toNat_lt
  have hone : (1 : UInt8).toNat = 1 := rfl
  rw [hwhole hf (by decide), hwhole hg (by decide), UInt8.toNat_zero, hone] at hint
  omega

theorem AH_ne {f g : Frame} (hf : f.buf.get 6 = 0) (hg : g.buf.get 6 = 1) : f.AH ≠ g.AH := by
  unfold Frame.AH AH
  rw [value_of_two_stores, value_of_two_stores, hf, hg]
  exact toInt16_word_ne

theorem throttle_ne {f g : Frame} (hf : f.buf.get 5 = 0) (hg : g.buf.get 5 = 1) :
    f.throttle ≠ g.throttle := by
  unfold Frame.throttle throttle
  rw [value_of_two_stores, value_of_two_stores, hf, hg]
  exact toInt16_word_ne

/-- The one byte of a temperature counts, under whatever byte the union held above it. -/
theorem value_of_one_store_ne (u : ByteToShort) : (u.store 0 0).value ≠ (u.store 0 1).value := by
  intro h
  rw [value_of_one_store, value_of_one_store] at h
  have hwords : word u.high 0 = word u.high 1 := by simpa using congrArg Int16.toUInt16 h
  have hnat := congrArg UInt16.toNat hwords
  have hone : (1 : UInt8).toNat = 1 := rfl
  rw [toNat_word, toNat_word, UInt8.toNat_zero, hone] at hnat
  omega

/-- Two frames that differ in the last byte of a field say two things about it. -/
theorem decode_ne {field : BikeField} {f g : Frame} (hlocals : f.locals = g.locals)
    (hf : byteAt f field = 0) (hg : byteAt g field = 1) : field.decode f ≠ field.decode g := by
  cases field with
  | monolithVoltage | powerTankVoltage => exact voltage_ne hf hg
  | monolithAmps | powerTankAmps => exact absAmps_ne hf hg
  | monolithAH | powerTankAH => exact toInt32_ne (AH_ne hf hg)
  | monolithMaxTemp | powerTankMaxTemp =>
    apply toInt32_ne
    change (f.locals.highestTemp.store 0 (f.buf.get 1)).value ≠
      (g.locals.highestTemp.store 0 (g.buf.get 1)).value
    have hf' : f.buf.get 1 = 0 := hf
    have hg' : g.buf.get 1 = 1 := hg
    rw [hf', hg', hlocals]
    exact value_of_one_store_ne _
  | monolithMinTemp | powerTankMinTemp =>
    apply toInt32_ne
    change (f.locals.lowestTemp.store 0 (f.buf.get 2)).value ≠
      (g.locals.lowestTemp.store 0 (g.buf.get 2)).value
    have hf' : f.buf.get 2 = 0 := hf
    have hg' : g.buf.get 2 = 1 := hg
    rw [hf', hg', hlocals]
    exact value_of_one_store_ne _
  | throttle => exact toInt32_ne (throttle_ne hf hg)

/-! ## Identifiers -/

/-- Frames of which none has the identifier of a field leave it as it is. -/
theorem bikeLoop_value (field : BikeField) (s : State) (frames : List Frame)
    (h : ∀ f ∈ frames, f.id ≠ field.id) : field.value (bikeLoop s frames) = field.value s := by
  unfold bikeLoop Blocks.drain
  induction frames generalizing s with
  | nil => rfl
  | cons f frames ih =>
    rw [List.foldl_cons, ih _ fun g hg => h g (List.mem_cons_of_mem f hg)]
    exact value_of_other field s (h f List.mem_cons_self)

/-- A frame that is not of a pack changes the throttle at most. -/
theorem receive_of_no_pack (s : State) {f : Frame}
    (h : ∀ field : BikeField, field ≠ .throttle → f.id ≠ field.id) :
    ∃ throttle, blocks.receive s f = { s with bikeThrottle := throttle } := by
  by_cases hthrottle : f.id = CONTROLLER_RPM_THROTTLE_MOT_TEMP
  · exact ⟨f.throttle, by rw [blocks.receive_throttle s hthrottle]; rfl⟩
  · refine ⟨s.bikeThrottle, blocks.receive_other s ?_⟩
    have h1 := h .monolithVoltage (by decide)
    have h2 := h .powerTankVoltage (by decide)
    have h3 := h .monolithAmps (by decide)
    have h4 := h .powerTankAmps (by decide)
    have h5 := h .monolithAH (by decide)
    have h6 := h .powerTankAH (by decide)
    unfold BikeField.id at h1 h2 h3 h4 h5 h6
    unfold blockIds
    simp [h1, h2, h3, h4, h5, h6, hthrottle]

theorem bikeLoop_of_no_pack (s : State) (frames : List Frame)
    (h : ∀ f ∈ frames, ∀ field : BikeField, field ≠ .throttle → f.id ≠ field.id) :
    bikeLoop s frames = { s with bikeThrottle := (bikeLoop s frames).bikeThrottle } := by
  have hsome : ∃ throttle, bikeLoop s frames = { s with bikeThrottle := throttle } := by
    unfold bikeLoop Blocks.drain
    induction frames generalizing s with
    | nil => exact ⟨s.bikeThrottle, rfl⟩
    | cons f frames ih =>
      obtain ⟨throttle, hone⟩ := receive_of_no_pack s (h f List.mem_cons_self)
      rw [List.foldl_cons, hone]
      exact ih _ fun g hg => h g (List.mem_cons_of_mem f hg)
  obtain ⟨throttle, hsame⟩ := hsome
  rw [hsame]

/-- An identifier of the bus whose low 16 bits are those of a battery frame that it is not. -/
def Aliased (canId : UInt32) : Prop :=
  ∃ field : BikeField, field ≠ .throttle ∧ canId.toUInt16.toInt16 = field.id ∧
    canId ≠ field.canId

/-- On a bus with these identifiers no other identifier is taken for a battery frame: frames of
which none has the whole identifier of a field leave it as it is, and frames of which none is a
battery frame leave all but the throttle as it is. -/
def RecognisesWhole (bus : UInt32 → Prop) : Prop :=
  ∀ (s : State) (frames : List Frame), (∀ f ∈ frames, bus f.canId) →
    (∀ field : BikeField, field ≠ .throttle → (∀ f ∈ frames, f.canId ≠ field.canId) →
      field.value (bikeLoop s frames) = field.value s) ∧
    ((∀ f ∈ frames, ∀ field : BikeField, field ≠ .throttle → f.canId ≠ field.canId) →
      bikeLoop s frames = { s with bikeThrottle := (bikeLoop s frames).bikeThrottle })

/-- A frame of the bus with this byte wherever a field is looked for. -/
def probe (canId : UInt32) (byte : UInt8) : Frame where
  canId := canId
  buf := Vector.replicate 8 byte
  locals := cleanLocals

theorem probe_byte (canId : UInt32) (byte : UInt8) (field : BikeField) :
    byteAt (probe canId byte) field = byte := by
  unfold byteAt probe
  exact Vector.getElem_replicate _

/-- Frames are recognised by their whole identifier exactly on a bus without an identifier that
`short` turns into the one of a battery frame. -/
theorem frames_are_recognised_by_the_whole_identifier_iff (bus : UInt32 → Prop) :
    RecognisesWhole bus ↔ ∀ canId, bus canId → ¬ Aliased canId := by
  constructor
  · intro hwhole canId hbus ⟨field, hpack, hid, hother⟩
    -- Two frames that differ in the field cannot both leave it as it was.
    have hkept : ∀ byte, field.decode (probe canId byte) = field.value setup := by
      intro byte
      have hprobe : (probe canId byte).id = field.id := hid
      have hkeep := (hwhole setup [probe canId byte] (List.forall_mem_singleton.mpr hbus)).1 field
        hpack (List.forall_mem_singleton.mpr hother)
      rw [← hkeep]
      exact (value_of_receive field setup hprobe).symm
    have hlocals : (probe canId 0).locals = (probe canId 1).locals := rfl
    apply decode_ne hlocals (probe_byte canId 0 field) (probe_byte canId 1 field)
    rw [hkept, hkept]
  · intro halias s frames hbus
    have hids : ∀ f ∈ frames, ∀ field : BikeField, field ≠ .throttle → f.canId ≠ field.canId →
        f.id ≠ field.id := by
      intro f hf field hpack hother hid
      exact halias f.canId (hbus f hf) ⟨field, hpack, hid, hother⟩
    constructor
    · intro field hpack hothers
      exact bikeLoop_value field s frames fun f hf => hids f hf field hpack (hothers f hf)
    · intro hothers
      exact bikeLoop_of_no_pack s frames fun f hf field hpack =>
        hids f hf field hpack (hothers f hf field hpack)

/-- The extended identifier 0x10388 is not the one of a voltage frame of the monolith. -/
def extendedFrame : Frame := { voltageFrame BMS_CELL_VOLTAGE 116400 with canId := 0x10388 }

/-- It sets the voltage of the monolith, and with it the voltage of the charging control. -/
theorem an_extended_identifier_is_taken_for_a_voltage :
    ¬ RecognisesWhole (· < 0x20000000) ∧
    (∀ field : BikeField, extendedFrame.canId ≠ field.canId) ∧
    setup.monolithVolts = 0 ∧ (bikeLoop setup [extendedFrame]).monolithVolts = 116400 ∧
    setup.volts = 0 ∧ (bikeLoop setup [extendedFrame]).volts = 1164 := by
  have hother : ∀ field : BikeField, extendedFrame.canId ≠ field.canId := by
    intro field
    cases field <;> decide
  have hbefore : setup.monolithVolts = 0 := by decide
  have hafter : (bikeLoop setup [extendedFrame]).monolithVolts = 116400 := by decide
  refine ⟨?_, hother, hbefore, hafter, by decide, by decide⟩
  intro hwhole
  have hbus : ∀ f ∈ [extendedFrame], f.canId < 0x20000000 := by decide
  have hkept := (hwhole setup [extendedFrame] hbus).1 .monolithVoltage (by decide)
    (List.forall_mem_singleton.mpr (hother .monolithVoltage))
  unfold BikeField.value at hkept
  rw [hbefore, hafter] at hkept
  exact absurd hkept (by decide)

end super_charger.v3
