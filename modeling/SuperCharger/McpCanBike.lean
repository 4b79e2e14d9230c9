-- `bikeLoop` of `v3` over the CAN driver: whatever the chip of the bike bus answers, the turns of
-- the loop are those of the model over the frames that the driver hands out.
import SuperCharger.McpCanFrames
import SuperCharger.V3ShortFrames

namespace super_charger.mcp_can

open select_line zero

variable {σ : Type*}

/-- The data that a read of this buffer gives: no more than eight bytes. -/
def dataRead (spi : Device σ) (a : UInt8) (s : σ) : List UInt8 :=
  let s := readFrom spi a s
  (List.range (min (spi.reply 4 s &&& MCP_DLC_MASK).toNat CAN_MAX_CHAR_IN_MESSAGE)).map fun i =>
    spi.reply (5 + i) s

theorem length_dataRead (spi : Device σ) (a : UInt8) (s : σ) : (dataRead spi a s).length ≤ 8 := by
  unfold dataRead
  rw [List.length_map, List.length_range]
  exact Nat.min_le_right _ _

/-- The message that `readMsgBuf` finds. When the flags of the second status byte show none it
writes no byte, and `getCanId` still tells the identifier of the message before. -/
def arrivalRead (spi : Device σ) (q : MCP_CAN × σ) (locals : Locals) : v3.Arrival :=
  let r := readRxTxStatus spi q.2
  match rxLoadAddr r.1 with
  | some a =>
    { canId := idOfBuf (idRegisters spi (readFrom spi a r.2))
      data := dataRead spi a r.2
      len_le := length_dataRead spi a r.2
      locals }
  | none =>
    { canId := q.1.can_id
      data := []
      len_le := Nat.zero_le _
      locals }

/-- The driver writes the received bytes and no others. -/
theorem readMsgBuf_arrival (spi : Device σ) (q : MCP_CAN × σ) (locals : Locals)
    (buf : Vector UInt8 8) :
    let r := readMsgBuf spi q.1 buf q.2
    r.2.1.buf = v3.readMsgBuf buf (arrivalRead spi q locals).data ∧
      r.2.2.1.getCanId = (arrivalRead spi q locals).canId := by
  unfold readMsgBuf readMsgBufID arrivalRead
  dsimp only
  cases rxLoadAddr (readRxTxStatus spi q.2).1 with
  | none =>
    refine ⟨?_, rfl⟩
    apply Vector.ext
    intro i hi
    have hlen : ([] : List UInt8).length ≤ (⟨i, hi⟩ : Fin 8).val := Nat.zero_le i
    exact (v3.readMsgBuf_get_past hlen buf).symm
  | some a =>
    refine ⟨?_, rfl⟩
    unfold v3.readMsgBuf mcp2515_read_canMsg
    dsimp only
    congr 1
    funext i
    unfold dataRead
    dsimp only
    rw [List.getD_eq_getElem?_getD, List.getElem?_map]
    split
    · next hi =>
      rw [List.getElem?_range hi]
      rfl
    · next hi =>
      rw [List.getElem?_eq_none (by rw [List.length_range]; omega)]
      rfl

/-! ## The loop -/

/-- What the stack holds in the turns of a call of `bikeLoop`, and what a turn sends to the dash
after it has decoded its frame. -/
structure Turns where
  found : Nat → Vector UInt8 8
  locals : Nat → Locals
  dash : v3.State → Frame → Option (UInt32 × Vector UInt8 8)

/-- The turns from the second on. -/
def Turns.tail (t : Turns) : Turns :=
  { t with found := fun i => t.found (i + 1), locals := fun i => t.locals (i + 1) }

/-- A turn once a message is there: read, decode, and send to the dash. -/
def turn (spi : Device σ) (t : Turns) (s : v3.State) (q : MCP_CAN × σ) :
    v3.State × (MCP_CAN × σ) :=
  let r := readMsgBuf spi q.1 (t.found 0) q.2
  let f : Frame := { canId := r.2.2.1.getCanId, buf := r.2.1.buf, locals := t.locals 0 }
  let s := v3.blocks.receive s f
  (s, match t.dash s f with
    | some (id, buf) => (sendMsgBuf spi r.2.2.1 id 0 r.2.1.len buf r.2.2.2).2
    | none => r.2.2)

/-- No more than this many turns of `bikeLoop`, which goes on while the chip has messages. -/
def bikeLoop (spi : Device σ) : Nat → Turns → v3.State → MCP_CAN × σ → v3.State × (MCP_CAN × σ)
  | 0, _, s, q => (s, q)
  | n + 1, t, s, q =>
    let r := checkReceive spi q.2
    if r.1 = CAN_MSGAVAIL then
      let u := turn spi t s (q.1, r.2)
      bikeLoop spi n t.tail u.1 u.2
    else (s, (q.1, r.2))

/-- The messages that the turns read. -/
def arrivalsRead (spi : Device σ) : Nat → Turns → v3.State → MCP_CAN × σ → List v3.Arrival
  | 0, _, _, _ => []
  | n + 1, t, s, q =>
    let r := checkReceive spi q.2
    if r.1 = CAN_MSGAVAIL then
      let u := turn spi t s (q.1, r.2)
      arrivalRead spi (q.1, r.2) (t.locals 0) :: arrivalsRead spi n t.tail u.1 u.2
    else []

/-- A turn over the driver is the model's turn over the message that the driver reads. -/
theorem turn_fst (spi : Device σ) (t : Turns) (s : v3.State) (q : MCP_CAN × σ) :
    (turn spi t s q).1 =
      v3.blocks.receive s ((arrivalRead spi q (t.locals 0)).frame (t.found 0)) := by
  obtain ⟨hbuf, hid⟩ := readMsgBuf_arrival spi q (t.locals 0) (t.found 0)
  have hlocals : (arrivalRead spi q (t.locals 0)).locals = t.locals 0 := by
    unfold arrivalRead
    dsimp only
    split <;> rfl
  unfold turn v3.Arrival.frame
  dsimp only
  rw [hbuf, hid, hlocals]

/-- Whatever the chip answers and whatever is sent to the dash in between, the loop over the
driver leaves the state that the model's loop leaves over the messages that were read. -/
theorem bikeLoop_refines (spi : Device σ) (n : Nat) (t : Turns) (s : v3.State) (q : MCP_CAN × σ) :
    (bikeLoop spi n t s q).1 = v3.drained s (arrivalsRead spi n t s q) t.found ∧
      (arrivalsRead spi n t s q).length ≤ n := by
  induction n generalizing t s q with
  | zero => exact ⟨rfl, Nat.le_refl 0⟩
  | succ n ih =>
    unfold bikeLoop arrivalsRead
    dsimp only
    split
    · obtain ⟨hstate, hlength⟩ := ih t.tail (turn spi t s (q.1, (checkReceive spi q.2).2)).1
        (turn spi t s (q.1, (checkReceive spi q.2).2)).2
      refine ⟨?_, Nat.succ_le_succ hlength⟩
      rw [hstate, turn_fst]
      unfold v3.drained v3.bikeLoop Blocks.drain
      rw [List.mapIdx_cons, List.foldl_cons]
      rfl
    · exact ⟨rfl, Nat.zero_le _⟩

end super_charger.mcp_can
