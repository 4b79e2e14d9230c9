-- The frames of a Zero motorcycle: the identifiers of `Network.h` and the
-- predicates and decoders of `ZERO.cpp`.
import SuperCharger.Arduino

namespace super_charger.zero

open machine_int arduino

/-! ## Identifiers -/

def CONTROLLER_RPM_THROTTLE_MOT_TEMP : Int16 := 0x281
def BMS_PACK_CONFIG : Int16 := 0x288
def BMS_CELL_VOLTAGE : Int16 := 0x388
def BMS_PACK_ACTIVE_DATA : Int16 := 0x408
def BMS1_PACK_CONFIG : Int16 := 0x289
def BMS1_CELL_VOLTAGE : Int16 := 0x389
def BMS1_PACK_ACTIVE_DATA : Int16 := 0x409

/-- The shape of every predicate: the identifier is the one of a message. -/
def hasId (id canId : Int16) : Bool := decide (canId = id)

def hasMonolithVoltage : Int16 → Bool := hasId BMS_CELL_VOLTAGE
def hasPowerTankVoltage : Int16 → Bool := hasId BMS1_CELL_VOLTAGE
def hasMonolithAmps : Int16 → Bool := hasId BMS_PACK_ACTIVE_DATA
def hasPowerTankAmps : Int16 → Bool := hasId BMS1_PACK_ACTIVE_DATA
def hasMonolithPackConfig : Int16 → Bool := hasId BMS_PACK_CONFIG
def hasPowerTankPackConfig : Int16 → Bool := hasId BMS1_PACK_CONFIG
def hasMonolithPackActiveData : Int16 → Bool := hasId BMS_PACK_ACTIVE_DATA
def hasPowerTankPackActiveData : Int16 → Bool := hasId BMS1_PACK_ACTIVE_DATA
def hasThrottle : Int16 → Bool := hasId CONTROLLER_RPM_THROTTLE_MOT_TEMP

/-! ## Frames -/

/-- What the local union of each decoder holds before the decoder writes it. -/
structure Locals where
  voltage : ByteToLong
  amps : ByteToShort
  throttle : ByteToShort
  AH : ByteToShort
  highestTemp : ByteToShort
  lowestTemp : ByteToShort

/-- Locals on a stack of zeros. -/
def cleanLocals : Locals where
  voltage := ⟨#v[0, 0, 0, 0]⟩
  amps := ⟨#v[0, 0]⟩
  throttle := ⟨#v[0, 0]⟩
  AH := ⟨#v[0, 0]⟩
  highestTemp := ⟨#v[0, 0]⟩
  lowestTemp := ⟨#v[0, 0]⟩

/-- One frame of the bike bus: the identifier that `getCanId` gives, and the local buffer once
`readMsgBuf` has written the bytes of the frame to it. -/
structure Frame where
  canId : UInt32
  buf : Vector UInt8 8
  locals : Locals

/-- `short canId = Bike.getCanId()`. -/
def Frame.id (f : Frame) : Int16 := f.canId.toUInt16.toInt16

/-! ## Decoders -/

def throttle (u : ByteToShort) (buf : Vector UInt8 8) : Int16 :=
  ((u.store 0 (buf.get 4)).store 1 (buf.get 5)).value

def amps (u : ByteToShort) (buf : Vector UInt8 8) : Int16 :=
  ((u.store 0 (buf.get 3)).store 1 (buf.get 4)).value

def voltage (u : ByteToLong) (buf : Vector UInt8 8) : Int32 :=
  ((((u.store 0 (buf.get 3)).store 1 (buf.get 4)).store 2 (buf.get 5)).store 3 (buf.get 6)).value

def AH (u : ByteToShort) (buf : Vector UInt8 8) : Int16 :=
  ((u.store 0 (buf.get 5)).store 1 (buf.get 6)).value

/-- Only one byte of the union is written. -/
def highestTemp (u : ByteToShort) (buf : Vector UInt8 8) : Int16 := (u.store 0 (buf.get 1)).value

def lowestTemp (u : ByteToShort) (buf : Vector UInt8 8) : Int16 := (u.store 0 (buf.get 2)).value

/-! ## What a frame says -/

def Frame.voltage (f : Frame) : Int32 := zero.voltage f.locals.voltage f.buf
def Frame.amps (f : Frame) : Int16 := zero.amps f.locals.amps f.buf
def Frame.throttle (f : Frame) : Int16 := zero.throttle f.locals.throttle f.buf
def Frame.AH (f : Frame) : Int16 := zero.AH f.locals.AH f.buf
def Frame.highestTemp (f : Frame) : Int16 := zero.highestTemp f.locals.highestTemp f.buf
def Frame.lowestTemp (f : Frame) : Int16 := zero.lowestTemp f.locals.lowestTemp f.buf

/-- `abs(zero.amps(len,buf))`: the macro of the Arduino core, in a 32-bit `int`. -/
def Frame.absAmps (f : Frame) : Int32 :=
  if f.amps.toInt32 > 0 then f.amps.toInt32 else -f.amps.toInt32

/-! ## A loop over the bike bus -/

variable {σ : Type}

/-- The blocks of a loop over the bike bus: what it does with a frame of each predicate. -/
structure Blocks (σ : Type) where
  monolithVoltage : σ → Frame → σ
  monolithAmps : σ → Frame → σ
  powerTankVoltage : σ → Frame → σ
  powerTankAmps : σ → Frame → σ
  monolithPackConfig : σ → Frame → σ
  powerTankPackConfig : σ → Frame → σ
  monolithPackActiveData : σ → Frame → σ
  powerTankPackActiveData : σ → Frame → σ
  throttle : σ → Frame → σ

/-- One turn of the loop: a chain of tests, none of which excludes the next. -/
def Blocks.receive (b : Blocks σ) (s : σ) (f : Frame) : σ :=
  let s := if hasMonolithVoltage f.id then b.monolithVoltage s f else s
  let s := if hasMonolithAmps f.id then b.monolithAmps s f else s
  let s := if hasPowerTankVoltage f.id then b.powerTankVoltage s f else s
  let s := if hasPowerTankAmps f.id then b.powerTankAmps s f else s
  let s := if hasMonolithPackConfig f.id then b.monolithPackConfig s f else s
  let s := if hasPowerTankPackConfig f.id then b.powerTankPackConfig s f else s
  let s := if hasMonolithPackActiveData f.id then b.monolithPackActiveData s f else s
  let s := if hasPowerTankPackActiveData f.id then b.powerTankPackActiveData s f else s
  if hasThrottle f.id then b.throttle s f else s

def Blocks.drain (b : Blocks σ) (s : σ) (frames : List Frame) : σ := frames.foldl b.receive s

/-- The identifiers that the blocks look for. -/
def blockIds : List Int16 :=
  [BMS_CELL_VOLTAGE, BMS1_CELL_VOLTAGE, BMS_PACK_ACTIVE_DATA, BMS1_PACK_ACTIVE_DATA,
    BMS_PACK_CONFIG, BMS1_PACK_CONFIG, CONTROLLER_RPM_THROTTLE_MOT_TEMP]

/-- The chain: the identifier of each test, and its block. -/
def Blocks.chain (b : Blocks σ) : List (Int16 × (σ → Frame → σ)) :=
  [(BMS_CELL_VOLTAGE, b.monolithVoltage), (BMS_PACK_ACTIVE_DATA, b.monolithAmps),
    (BMS1_CELL_VOLTAGE, b.powerTankVoltage), (BMS1_PACK_ACTIVE_DATA, b.powerTankAmps),
    (BMS_PACK_CONFIG, b.monolithPackConfig), (BMS1_PACK_CONFIG, b.powerTankPackConfig),
    (BMS_PACK_ACTIVE_DATA, b.monolithPackActiveData),
    (BMS1_PACK_ACTIVE_DATA, b.powerTankPackActiveData),
    (CONTROLLER_RPM_THROTTLE_MOT_TEMP, b.throttle)]

/-- The blocks that act on a frame are those whose test looks for its identifier. -/
theorem Blocks.receive_of_id (b : Blocks σ) (s : σ) {f : Frame} {id : Int16} (h : f.id = id) :
    b.receive s f = (b.chain.filter fun x => hasId x.1 id).foldl (fun s x => x.2 s f) s := by
  rw [← h, List.foldl_filter]
  rfl

theorem Blocks.receive_monolithVoltage (b : Blocks σ) (s : σ) {f : Frame}
    (h : f.id = BMS_CELL_VOLTAGE) : b.receive s f = b.monolithVoltage s f :=
  b.receive_of_id s h

theorem Blocks.receive_powerTankVoltage (b : Blocks σ) (s : σ) {f : Frame}
    (h : f.id = BMS1_CELL_VOLTAGE) : b.receive s f = b.powerTankVoltage s f :=
  b.receive_of_id s h

theorem Blocks.receive_monolithActive (b : Blocks σ) (s : σ) {f : Frame}
    (h : f.id = BMS_PACK_ACTIVE_DATA) :
    b.receive s f = b.monolithPackActiveData (b.monolithAmps s f) f :=
  b.receive_of_id s h

theorem Blocks.receive_powerTankActive (b : Blocks σ) (s : σ) {f : Frame}
    (h : f.id = BMS1_PACK_ACTIVE_DATA) :
    b.receive s f = b.powerTankPackActiveData (b.powerTankAmps s f) f :=
  b.receive_of_id s h

theorem Blocks.receive_monolithPackConfig (b : Blocks σ) (s : σ) {f : Frame}
    (h : f.id = BMS_PACK_CONFIG) : b.receive s f = b.monolithPackConfig s f :=
  b.receive_of_id s h

theorem Blocks.receive_powerTankPackConfig (b : Blocks σ) (s : σ) {f : Frame}
    (h : f.id = BMS1_PACK_CONFIG) : b.receive s f = b.powerTankPackConfig s f :=
  b.receive_of_id s h

theorem Blocks.receive_throttle (b : Blocks σ) (s : σ) {f : Frame}
    (h : f.id = CONTROLLER_RPM_THROTTLE_MOT_TEMP) : b.receive s f = b.throttle s f :=
  b.receive_of_id s h

/-- A frame of another kind changes nothing. -/
theorem Blocks.receive_other (b : Blocks σ) (s : σ) {f : Frame} (h : f.id ∉ blockIds) :
    b.receive s f = s := by
  have hnone : (b.chain.filter fun x => hasId x.1 f.id) = [] := by
    rw [List.filter_eq_nil_iff]
    intro x hx hid
    have hmem : x.1 ∈ b.chain.map Prod.fst := List.mem_map_of_mem hx
    have hsame : f.id = x.1 := of_decide_eq_true hid
    have hids : b.chain.map Prod.fst ⊆ blockIds := by
      simp [Blocks.chain, blockIds]
    rw [hsame] at h
    exact h (hids hmem)
  rw [b.receive_of_id s rfl, hnone]
  rfl

/-- A frame is of one kind at most, and only the blocks of its kind act on it. -/
theorem Blocks.receive_cases (b : Blocks σ) (s : σ) (f : Frame) :
    f.id = BMS_CELL_VOLTAGE ∧ b.receive s f = b.monolithVoltage s f ∨
    f.id = BMS1_CELL_VOLTAGE ∧ b.receive s f = b.powerTankVoltage s f ∨
    f.id = BMS_PACK_ACTIVE_DATA ∧
      b.receive s f = b.monolithPackActiveData (b.monolithAmps s f) f ∨
    f.id = BMS1_PACK_ACTIVE_DATA ∧
      b.receive s f = b.powerTankPackActiveData (b.powerTankAmps s f) f ∨
    f.id = BMS_PACK_CONFIG ∧ b.receive s f = b.monolithPackConfig s f ∨
    f.id = BMS1_PACK_CONFIG ∧ b.receive s f = b.powerTankPackConfig s f ∨
    f.id = CONTROLLER_RPM_THROTTLE_MOT_TEMP ∧ b.receive s f = b.throttle s f ∨
    f.id ∉ blockIds ∧ b.receive s f = s := by
  by_cases h1 : f.id = BMS_CELL_VOLTAGE
  · exact Or.inl ⟨h1, b.receive_monolithVoltage s h1⟩
  by_cases h2 : f.id = BMS1_CELL_VOLTAGE
  · exact Or.inr (Or.inl ⟨h2, b.receive_powerTankVoltage s h2⟩)
  by_cases h3 : f.id = BMS_PACK_ACTIVE_DATA
  · exact Or.inr (Or.inr (Or.inl ⟨h3, b.receive_monolithActive s h3⟩))
  by_cases h4 : f.id = BMS1_PACK_ACTIVE_DATA
  · exact Or.inr (Or.inr (Or.inr (Or.inl ⟨h4, b.receive_powerTankActive s h4⟩)))
  by_cases h5 : f.id = BMS_PACK_CONFIG
  · exact Or.inr (Or.inr (Or.inr (Or.inr (Or.inl ⟨h5, b.receive_monolithPackConfig s h5⟩))))
  by_cases h6 : f.id = BMS1_PACK_CONFIG
  · exact Or.inr (Or.inr (Or.inr (Or.inr (Or.inr (Or.inl ⟨h6, b.receive_powerTankPackConfig s h6⟩)))))
  by_cases h7 : f.id = CONTROLLER_RPM_THROTTLE_MOT_TEMP
  · exact Or.inr (Or.inr (Or.inr (Or.inr (Or.inr (Or.inr (Or.inl ⟨h7, b.receive_throttle s h7⟩))))))
  · have hother : f.id ∉ blockIds := by simp [blockIds, h1, h2, h3, h4, h5, h6, h7]
    exact Or.inr (Or.inr (Or.inr (Or.inr (Or.inr (Or.inr (Or.inr
      ⟨hother, b.receive_other s hother⟩))))))

/-- Every block leaves `g` of the state as it is. -/
structure Blocks.Keep {α : Type} (b : Blocks σ) (g : σ → α) : Prop where
  monolithVoltage : ∀ s f, g (b.monolithVoltage s f) = g s
  monolithAmps : ∀ s f, g (b.monolithAmps s f) = g s
  powerTankVoltage : ∀ s f, g (b.powerTankVoltage s f) = g s
  powerTankAmps : ∀ s f, g (b.powerTankAmps s f) = g s
  monolithPackConfig : ∀ s f, g (b.monolithPackConfig s f) = g s
  powerTankPackConfig : ∀ s f, g (b.powerTankPackConfig s f) = g s
  monolithPackActiveData : ∀ s f, g (b.monolithPackActiveData s f) = g s
  powerTankPackActiveData : ∀ s f, g (b.powerTankPackActiveData s f) = g s
  throttle : ∀ s f, g (b.throttle s f) = g s

theorem Blocks.Keep.receive {α : Type} {b : Blocks σ} {g : σ → α} (h : b.Keep g) (s : σ)
    (f : Frame) : g (b.receive s f) = g s := by
  rcases b.receive_cases s f with
    ⟨_, e⟩ | ⟨_, e⟩ | ⟨_, e⟩ | ⟨_, e⟩ | ⟨_, e⟩ | ⟨_, e⟩ | ⟨_, e⟩ | ⟨_, e⟩
  · rw [e, h.monolithVoltage]
  · rw [e, h.powerTankVoltage]
  · rw [e, h.monolithPackActiveData, h.monolithAmps]
  · rw [e, h.powerTankPackActiveData, h.powerTankAmps]
  · rw [e, h.monolithPackConfig]
  · rw [e, h.powerTankPackConfig]
  · rw [e, h.throttle]
  · rw [e]

theorem Blocks.Keep.drain {α : Type} {b : Blocks σ} {g : σ → α} (h : b.Keep g) (s : σ)
    (frames : List Frame) : g (b.drain s frames) = g s := by
  unfold Blocks.drain
  induction frames generalizing s with
  | nil => rfl
  | cons f frames ih => rw [List.foldl_cons, ih, h.receive]

/-- What every frame keeps, the whole loop keeps. -/
theorem Blocks.drain_invariant {b : Blocks σ} {P : σ → Prop}
    (h : ∀ s f, P s → P (b.receive s f)) {s : σ} (h0 : P s) (frames : List Frame) :
    P (b.drain s frames) := by
  unfold Blocks.drain
  induction frames generalizing s with
  | nil => exact h0
  | cons f frames ih => exact ih (h s f h0)

/-! ## Frames to try the code on -/

/-- A cell-voltage frame: millivolts in bytes 3 to 6, the low byte first. -/
def voltageFrame (id : Int16) (mV : UInt32) : Frame where
  canId := id.toInt32.toUInt32
  buf := #v[0, 0, 0, lowByte mV.toUInt16, highByte mV.toUInt16, lowByte (mV >>> 16).toUInt16,
    highByte (mV >>> 16).toUInt16, 0]
  locals := cleanLocals

/-- A pack-configuration frame: ampere hours in bytes 5 and 6. -/
def configFrame (id : Int16) (ah : UInt16) : Frame where
  canId := id.toInt32.toUInt32
  buf := #v[0, 0, 0, 0, 0, lowByte ah, highByte ah, 0]
  locals := cleanLocals

/-- An active-data frame: the highest and the lowest temperature, and the amps. -/
def activeFrame (id : Int16) (highest lowest : UInt8) (a : UInt16) : Frame where
  canId := id.toInt32.toUInt32
  buf := #v[0, highest, lowest, lowByte a, highByte a, 0, 0, 0]
  locals := cleanLocals

example : (voltageFrame BMS_CELL_VOLTAGE 116400).voltage = 116400 := by decide

end super_charger.zero
