-- The transmit buffers under every order of calls: which buffer a message is given, when a call
-- gives up, and that what the chip is told to send is what the calls say they have sent.
import SuperCharger.McpCanFrames

namespace super_charger.mcp_can

open select_line runs

variable {σ : Type*}

/-! ## The free buffer -/

theorem unreserved_subset (m : MCP_CAN) {i : UInt8} (h : i ∈ m.unreserved) :
    i = 0 ∨ i = 1 ∨ i = 2 := by
  have := List.mem_of_mem_take h
  simpa using this

/-- The pending flags are inside the mask, and not empty. -/
theorem pendingFlag_masked {i : UInt8} (h : i = 0 ∨ i = 1 ∨ i = 2) :
    MCP_STAT_TX_PENDING_MASK &&& txStatusPendingFlag i = txStatusPendingFlag i ∧
      txStatusPendingFlag i ≠ 0 := by
  rcases h with rfl | rfl | rfl <;> decide

/-- A look at the flags through the mask sees what the status byte says. -/
theorem masked_status {i : UInt8} (h : i = 0 ∨ i = 1 ∨ i = 2) (status : UInt8) :
    (status &&& MCP_STAT_TX_PENDING_MASK) &&& txStatusPendingFlag i =
      status &&& txStatusPendingFlag i := by
  rw [UInt8.and_assoc, (pendingFlag_masked h).1]

/-- The first buffer that is neither reserved nor waiting to be sent. -/
def firstFree (m : MCP_CAN) (status : UInt8) : Option UInt8 :=
  m.unreserved.find? fun i => status &&& txStatusPendingFlag i = 0

theorem firstFree_some {m : MCP_CAN} {status i : UInt8} (h : firstFree m status = some i) :
    i ∈ m.unreserved ∧ status &&& txStatusPendingFlag i = 0 :=
  ⟨List.mem_of_find?_eq_some h, by simpa using List.find?_some h⟩

/-- The test for three pending buffers changes nothing: the search finds none then. -/
theorem getNextFreeTXBuf_eq (spi : Device σ) (m : MCP_CAN) (s : σ) :
    mcp2515_getNextFreeTXBuf spi m s =
      let r := mcp2515_readStatus spi s
      match firstFree m r.1 with
      | some i =>
        (some (txCtrlReg i + 1), mcp2515_modifyRegister spi MCP_CANINTF (txIfFlag i) 0 r.2)
      | none => (none, r.2) := by
  unfold mcp2515_getNextFreeTXBuf firstFree
  dsimp only
  generalize mcp2515_readStatus spi s = r
  have hfind : (m.unreserved.find? fun i =>
      (r.1 &&& MCP_STAT_TX_PENDING_MASK) &&& txStatusPendingFlag i = 0) =
      m.unreserved.find? fun i => r.1 &&& txStatusPendingFlag i = 0 := by
    rw [← List.head?_filter, ← List.head?_filter]
    congr 1
    apply List.filter_congr
    intro i hi
    rw [masked_status (unreserved_subset m hi)]
  rw [hfind]
  split
  · next hall =>
    have hnone : (m.unreserved.find? fun i => r.1 &&& txStatusPendingFlag i = 0) = none := by
      rw [List.find?_eq_none]
      intro i hi hfree
      obtain ⟨hmask, hflag⟩ := pendingFlag_masked (unreserved_subset m hi)
      have hzero : r.1 &&& txStatusPendingFlag i = 0 := by simpa using hfree
      rw [← masked_status (unreserved_subset m hi), hall, hmask] at hzero
      exact hflag hzero
    rw [hnone]
  · rfl

/-- Nothing is found exactly when every unreserved buffer waits to be sent. -/
theorem getNextFreeTXBuf_none_iff (spi : Device σ) (m : MCP_CAN) (s : σ) :
    (mcp2515_getNextFreeTXBuf spi m s).1 = none ↔
      ∀ i ∈ m.unreserved, (mcp2515_readStatus spi s).1 &&& txStatusPendingFlag i ≠ 0 := by
  rw [getNextFreeTXBuf_eq]
  unfold firstFree
  dsimp only
  cases h : m.unreserved.find? fun i =>
      (mcp2515_readStatus spi s).1 &&& txStatusPendingFlag i = 0 with
  | none => simpa using h
  | some i =>
    obtain ⟨hi, hfree⟩ := firstFree_some h
    simp only [reduceCtorEq, false_iff]
    intro hall
    exact hall i hi hfree

/-! ## When a call gives up -/

section GivesUp

variable (spi : Device σ) (m : MCP_CAN) (id : UInt32) (ext rtrBit len : UInt8)
  (buf : Vector UInt8 8) (wait_sent : Bool) (s : σ)

/-- The chip when the search for a buffer is made after `k` others. -/
def searchState (k : Nat) : σ := tryState (mcp2515_getNextFreeTXBuf spi m) spi.wait k s

/-- The chip once the message is loaded into the buffer that the search after `k` others finds. -/
def loadedState (k : Nat) (txbuf_n : UInt8) : σ :=
  mcp2515_write_canMsg spi txbuf_n id ext rtrBit len buf
    (mcp2515_getNextFreeTXBuf spi m (searchState spi m s k)).2

/-- The fields that the call sets are not read by the search. -/
theorem getNextFreeTXBuf_fields :
    mcp2515_getNextFreeTXBuf spi { m with can_id := id, ext_flg := ext, rtr := rtrBit } =
      mcp2515_getNextFreeTXBuf spi m := rfl

theorem sendMsg_of_none (h : ∀ j < 49, (mcp2515_getNextFreeTXBuf spi m (searchState spi m s j)).1 =
    none) :
    (sendMsg spi m id ext rtrBit len buf wait_sent s).1 = CAN_GETTXBFTIMEOUT ∧
      (sendMsg spi m id ext rtrBit len buf wait_sent s).2.2 =
        (poll (mcp2515_getNextFreeTXBuf spi m) spi.wait TIMEOUTVALUE s).2.2 := by
  have hlimit : (poll (mcp2515_getNextFreeTXBuf spi m) spi.wait TIMEOUTVALUE s).2.1 =
      TIMEOUTVALUE := (poll_tries_eq_iff _ spi.wait 49 s).mpr h
  unfold sendMsg
  dsimp only
  rw [getNextFreeTXBuf_fields, if_pos hlimit]
  exact ⟨rfl, rfl⟩

theorem sendMsg_of_found {k : Nat} {a : UInt8} (hk : k < 49)
    (h : FirstSuccess (mcp2515_getNextFreeTXBuf spi m) spi.wait k a s) :
    let loaded := loadedState spi m id ext rtrBit len buf s k a
    (sendMsg spi m id ext rtrBit len buf wait_sent s).1 =
        (if wait_sent ∧ (poll (mcp2515_isSent spi a) spi.wait TIMEOUTVALUE loaded).2.1 =
          TIMEOUTVALUE then CAN_SENDMSGTIMEOUT else CAN_OK) ∧
      (sendMsg spi m id ext rtrBit len buf wait_sent s).2.2 =
        if wait_sent then (poll (mcp2515_isSent spi a) spi.wait TIMEOUTVALUE loaded).2.2
        else loaded := by
  have hpoll : poll (mcp2515_getNextFreeTXBuf spi m) spi.wait TIMEOUTVALUE s = _ :=
    poll_of_firstSuccess _ spi.wait (Nat.lt_succ_of_lt hk) h
  have hlimit : k + 1 ≠ TIMEOUTVALUE := Nat.ne_of_lt (Nat.succ_lt_succ hk)
  unfold sendMsg loadedState searchState
  dsimp only
  rw [getNextFreeTXBuf_fields, hpoll, if_neg hlimit]
  dsimp only [Option.getD_some]
  cases wait_sent with
  | false => simp
  | true => simp

theorem isSent_none_iff (txbuf_n : UInt8) :
    (mcp2515_isSent spi txbuf_n s).1 = none ↔
      (mcp2515_readRegister spi (txbuf_n - 1) s).1 &&& 0x08 ≠ 0 := by
  unfold mcp2515_isSent
  simp

/-- A call makes 50 tries and counts 49 of them. It finds no buffer exactly when in the first 49
looks every unreserved buffer was waiting, also when the last look finds one; and the message
counts as not sent exactly when its control register says so in the first 49 looks. -/
theorem sendMsg_gives_up :
    ((sendMsg spi m id ext rtrBit len buf wait_sent s).1 = CAN_GETTXBFTIMEOUT ↔
      ∀ j < 49, ∀ i ∈ m.unreserved,
        (mcp2515_readStatus spi (searchState spi m s j)).1 &&& txStatusPendingFlag i ≠ 0) ∧
    ((sendMsg spi m id ext rtrBit len buf wait_sent s).1 = CAN_SENDMSGTIMEOUT ↔
      wait_sent = true ∧ ∃ k < 49, ∃ a,
        FirstSuccess (mcp2515_getNextFreeTXBuf spi m) spi.wait k a s ∧
        ∀ j < 49, (mcp2515_readRegister spi (a - 1) (tryState (mcp2515_isSent spi a) spi.wait j
          (loadedState spi m id ext rtrBit len buf s k a))).1 &&& 0x08 ≠ 0) := by
  simp only [← getNextFreeTXBuf_none_iff, ← isSent_none_iff]
  obtain ⟨k, hk, a, hfirst⟩ | hnone :=
    firstSuccess_or_none (mcp2515_getNextFreeTXBuf spi m) spi.wait 49 s
  · obtain ⟨hres, -⟩ := sendMsg_of_found spi m id ext rtrBit len buf wait_sent s hk hfirst
    have htries := poll_tries_eq_iff (mcp2515_isSent spi a) spi.wait 49
      (loadedState spi m id ext rtrBit len buf s k a)
    rw [hres]
    constructor
    · constructor
      · intro h
        split at h <;> cases h
      · intro h
        have hsome := hfirst.2
        rw [show (mcp2515_getNextFreeTXBuf spi m
          (tryState (mcp2515_getNextFreeTXBuf spi m) spi.wait k s)).1 = none from h k hk] at hsome
        cases hsome
    · constructor
      · intro h
        split at h
        · next hwait => exact ⟨hwait.1, k, hk, a, hfirst, htries.mp hwait.2⟩
        · cases h
      · rintro ⟨hwait, k', hk', a', hfirst', hall⟩
        -- the first success of a search is the only one
        obtain ⟨rfl, rfl⟩ := firstSuccess_unique _ spi.wait hfirst hfirst'
        exact if_pos ⟨hwait, htries.mpr hall⟩
  · obtain ⟨hres, -⟩ := sendMsg_of_none spi m id ext rtrBit len buf wait_sent s hnone
    rw [hres]
    refine ⟨iff_of_true rfl hnone, ?_⟩
    constructor
    · intro h
      cases h
    · rintro ⟨-, k, hk, a, hfirst, -⟩
      have hsome := hfirst.2
      rw [hnone k hk] at hsome
      cases hsome

end GivesUp

/-! ## What the chip is told -/

/-- A transmit buffer of the chip, with its commands and its bit of the status byte. -/
inductive TxBuffer where
  | tx0 | tx1 | tx2
  deriving DecidableEq

namespace TxBuffer

def index : TxBuffer → UInt8
  | tx0 => 0
  | tx1 => 1
  | tx2 => 2

def load : TxBuffer → UInt8
  | tx0 => MCP_LOAD_TX0
  | tx1 => MCP_LOAD_TX1
  | tx2 => MCP_LOAD_TX2

def requestToSend : TxBuffer → UInt8
  | tx0 => MCP_RTS_TX0
  | tx1 => MCP_RTS_TX1
  | tx2 => MCP_RTS_TX2

def pending : TxBuffer → UInt8
  | tx0 => MCP_STAT_TX0_PENDING
  | tx1 => MCP_STAT_TX1_PENDING
  | tx2 => MCP_STAT_TX2_PENDING

/-- The tables of the driver agree with the chip's. -/
theorem commands (b : TxBuffer) :
    txSidhToTxLoad (txCtrlReg b.index + 1) = b.load ∧
      txSidhToRTS (txCtrlReg b.index + 1) = b.requestToSend ∧
      txStatusPendingFlag b.index = b.pending := by
  cases b <;> decide

theorem exists_index {i : UInt8} (h : i = 0 ∨ i = 1 ∨ i = 2) : ∃ b : TxBuffer, b.index = i := by
  rcases h with rfl | rfl | rfl
  · exact ⟨tx0, rfl⟩
  · exact ⟨tx1, rfl⟩
  · exact ⟨tx2, rfl⟩

end TxBuffer

/-- What can be said of the chip's transmit side: the messages that it has been told to send, in
that order, the buffers that wait for nothing, and what the buffers hold. -/
structure TxView (σ : Type*) where
  told : σ → List (List UInt8)
  Free : σ → TxBuffer → Prop
  loaded : σ → TxBuffer → List UInt8

/-- No message is told and no buffer is written; the chip may send what waits. -/
def TxView.Quiet (v : TxView σ) (s s' : σ) : Prop :=
  v.told s' = v.told s ∧ (∀ b, v.Free s b → v.Free s' b) ∧ ∀ b, v.loaded s' b = v.loaded s b

/-- What the chip does with the commands of the driver. A load or a request to send is spoken of
for a free buffer only. -/
structure Datasheet (spi : Device σ) (v : TxView σ) : Prop where
  wait : ∀ s, v.Quiet s (spi.wait s)
  readStatus : ∀ s, v.Quiet s (mcp2515_readStatus spi s).2
  readRegister : ∀ s address, v.Quiet s (mcp2515_readRegister spi address s).2
  modifyFlags : ∀ s mask data, v.Quiet s (mcp2515_modifyRegister spi MCP_CANINTF mask data s)
  readBuffer : ∀ s, ∀ a ∈ [MCP_READ_RX0, MCP_READ_RX1], ∀ n,
    v.Quiet s (spi.unselect (spi.afterReads n (readFrom spi a s)))
  status : ∀ s (b : TxBuffer), (mcp2515_readStatus spi s).1 &&& b.pending = 0 →
    v.Free (mcp2515_readStatus spi s).2 b
  load : ∀ s (b : TxBuffer) bytes, v.Free s b →
    let s' := spi.command (b.load :: bytes) s
    v.told s' = v.told s ∧ v.Free s' b ∧ v.loaded s' b = bytes ∧
      ∀ c ≠ b, v.loaded s' c = v.loaded s c
  requestToSend : ∀ s (b : TxBuffer), v.Free s b →
    let s' := spi.command [b.requestToSend] s
    v.told s' = v.told s ++ [v.loaded s b] ∧ ∀ c, v.loaded s' c = v.loaded s c

namespace TxView

variable (v : TxView σ)

theorem Quiet.trans {v : TxView σ} {s s' s'' : σ} (h : v.Quiet s s') (h' : v.Quiet s' s'') :
    v.Quiet s s'' :=
  ⟨h'.1.trans h.1, fun b hb => h'.2.1 b (h.2.1 b hb), fun b => (h'.2.2 b).trans (h.2.2 b)⟩

theorem Quiet.refl {v : TxView σ} (s : σ) : v.Quiet s s := ⟨rfl, fun _ h => h, fun _ => rfl⟩

end TxView

section Told

variable {spi : Device σ} {v : TxView σ}

theorem getNextFreeTXBuf_quiet (h : Datasheet spi v) (m : MCP_CAN) (s : σ) :
    v.Quiet s (mcp2515_getNextFreeTXBuf spi m s).2 := by
  rw [getNextFreeTXBuf_eq]
  dsimp only
  split
  · exact (h.readStatus s).trans (h.modifyFlags _ _ _)
  · exact h.readStatus s

/-- The buffer that is found is unreserved and free. -/
theorem getNextFreeTXBuf_free (h : Datasheet spi v) {m : MCP_CAN} {s : σ} {a : UInt8}
    (ha : (mcp2515_getNextFreeTXBuf spi m s).1 = some a) :
    ∃ b : TxBuffer, b.index ∈ m.unreserved ∧ a = txCtrlReg b.index + 1 ∧
      v.Free (mcp2515_getNextFreeTXBuf spi m s).2 b := by
  rw [getNextFreeTXBuf_eq] at ha ⊢
  dsimp only at ha ⊢
  cases hfree : firstFree m (mcp2515_readStatus spi s).1 with
  | none => simp [hfree] at ha
  | some i =>
    obtain ⟨hi, hclear⟩ := firstFree_some hfree
    obtain ⟨b, rfl⟩ := TxBuffer.exists_index (unreserved_subset m hi)
    simp only [hfree, Option.some.injEq] at ha ⊢
    rw [b.commands.2.2] at hclear
    exact ⟨b, hi, ha.symm, (h.modifyFlags _ _ _).2.1 b (h.status s b hclear)⟩

/-- A message that is written to a free buffer is told, once. -/
theorem write_canMsg_told (h : Datasheet spi v) {s : σ} {b : TxBuffer} (hfree : v.Free s b)
    (id : UInt32) (ext rtrBit len : UInt8) (buf : Vector UInt8 8) :
    let s' := mcp2515_write_canMsg spi (txCtrlReg b.index + 1) id ext rtrBit len buf s
    v.told s' = v.told s ++ [canMsgBytes id ext rtrBit len buf] ∧
      ∀ c ≠ b, v.loaded s' c = v.loaded s c := by
  obtain ⟨hload, hrts, -⟩ := b.commands
  unfold mcp2515_write_canMsg mcp2515_start_transmit
  dsimp only
  rw [hload, hrts]
  obtain ⟨htold, hfree', hbytes, hothers⟩ := h.load s b (canMsgBytes id ext rtrBit len buf) hfree
  obtain ⟨hsent, hkept⟩ := h.requestToSend _ b hfree'
  refine ⟨?_, fun c hc => (hkept c).trans (hothers c hc)⟩
  rw [hsent, htold, hbytes]

theorem poll_quiet {α : Type*} (h : Datasheet spi v) {ask : σ → Option α × σ}
    (hask : ∀ s, v.Quiet s (ask s).2) (n : Nat) (s : σ) :
    v.Quiet s (poll ask spi.wait n s).2.2 :=
  poll_invariant ask spi.wait (fun _ hs => hs.trans (hask _)) (fun _ hs => hs.trans (h.wait _)) n
    (TxView.Quiet.refl s)

/-- So does a number of tries. -/
theorem tryState_quiet {α : Type*} (h : Datasheet spi v) {ask : σ → Option α × σ}
    (hask : ∀ s, v.Quiet s (ask s).2) (k : Nat) (s : σ) :
    v.Quiet s (tryState ask spi.wait k s) := by
  unfold tryState
  induction k generalizing s with
  | zero => exact TxView.Quiet.refl s
  | succ k ih => exact ((hask s).trans (h.wait _)).trans (ih _)

/-- The messages that a call says it has sent: all but those for which it found no buffer. -/
def accepted (spi : Device σ) (q : MCP_CAN × σ) : Call → List (List UInt8)
  | .sendMsg id ext rtrBit len buf wait_sent =>
    if (sendMsg spi q.1 id ext rtrBit len buf wait_sent q.2).1 = CAN_GETTXBFTIMEOUT then []
    else [canMsgBytes id ext rtrBit len buf]
  | .trySendMsgBuf id ext rtrBit len buf iTxBuf =>
    if (trySendMsgBuf spi q.1 id ext rtrBit len buf iTxBuf q.2).1 = CAN_OK then
      [canMsgBytes id ext rtrBit len buf]
    else []
  | .readMsgBuf _ | .checkReceive | .reserveTxBuffers _ => []

/-- Those of a run, in the order of the calls. -/
def acceptedIn (spi : Device σ) : MCP_CAN × σ → List Call → List (List UInt8)
  | _, [] => []
  | q, c :: calls => accepted spi q c ++ acceptedIn spi (callStep spi q c) calls

/-- The call asks for this buffer by its number; every other one lets the driver choose. -/
def Call.Names (b : TxBuffer) : Call → Prop
  | .trySendMsgBuf _ _ _ _ _ iTxBuf => iTxBuf = b.index
  | _ => False

/-- What one call tells the chip, and which buffers it leaves as they were. -/
def Tells (v : TxView σ) (Kept : TxBuffer → Prop) (s s' : σ) (bytes : List (List UInt8)) : Prop :=
  v.told s' = v.told s ++ bytes ∧ ∀ b : TxBuffer, Kept b → v.loaded s' b = v.loaded s b

theorem tells_of_quiet {Kept : TxBuffer → Prop} {s s' : σ} (h : v.Quiet s s') :
    Tells v Kept s s' [] :=
  ⟨by rw [h.1, List.append_nil], fun b _ => h.2.2 b⟩

theorem Tells.quiet {Kept : TxBuffer → Prop} {s s' s'' : σ} {bytes : List (List UInt8)}
    (h : Tells v Kept s s' bytes) (hq : v.Quiet s' s'') : Tells v Kept s s'' bytes :=
  ⟨hq.1.trans h.1, fun b hb => (hq.2.2 b).trans (h.2 b hb)⟩

/-- A message for a free buffer is told, and leaves the others. -/
theorem tells_of_write (h : Datasheet spi v) {Kept : TxBuffer → Prop} {s s' : σ} {b : TxBuffer}
    (hquiet : v.Quiet s s') (hfree : v.Free s' b) (hb : ¬ Kept b) (id : UInt32)
    (ext rtrBit len : UInt8) (buf : Vector UInt8 8) :
    Tells v Kept s (mcp2515_write_canMsg spi (txCtrlReg b.index + 1) id ext rtrBit len buf s')
      [canMsgBytes id ext rtrBit len buf] := by
  obtain ⟨htold, hothers⟩ := write_canMsg_told h hfree id ext rtrBit len buf
  refine ⟨htold.trans (congrArg (· ++ _) hquiet.1), ?_⟩
  intro c hc
  have hne : c ≠ b := fun e => hb (e ▸ hc)
  exact (hothers c hne).trans (hquiet.2.2 c)

theorem sendMsg_tells (h : Datasheet spi v) (m : MCP_CAN) (id : UInt32) (ext rtrBit len : UInt8)
    (buf : Vector UInt8 8) (wait_sent : Bool) (s : σ) :
    Tells v (fun b => b.index ∉ m.unreserved) s
      (sendMsg spi m id ext rtrBit len buf wait_sent s).2.2
      (if (sendMsg spi m id ext rtrBit len buf wait_sent s).1 = CAN_GETTXBFTIMEOUT then []
        else [canMsgBytes id ext rtrBit len buf]) := by
  have hsearch := getNextFreeTXBuf_quiet h m
  obtain ⟨k, hk, a, hfirst⟩ | hnone :=
    firstSuccess_or_none (mcp2515_getNextFreeTXBuf spi m) spi.wait 49 s
  · obtain ⟨hres, hstate⟩ := sendMsg_of_found spi m id ext rtrBit len buf wait_sent s hk hfirst
    obtain ⟨b, hb, ha, hfree⟩ := getNextFreeTXBuf_free h hfirst.2
    have hbefore : v.Quiet s (mcp2515_getNextFreeTXBuf spi m (searchState spi m s k)).2 :=
      (tryState_quiet h hsearch k s).trans (hsearch _)
    have hloaded : Tells v (fun b => b.index ∉ m.unreserved) s
        (loadedState spi m id ext rtrBit len buf s k a) [canMsgBytes id ext rtrBit len buf] := by
      unfold loadedState
      rw [ha]
      exact tells_of_write h hbefore hfree (not_not.mpr hb) id ext rtrBit len buf
    have hnotimeout : (sendMsg spi m id ext rtrBit len buf wait_sent s).1 ≠ CAN_GETTXBFTIMEOUT := by
      rw [hres]
      split <;> decide
    have hsent : ∀ s, v.Quiet s (mcp2515_isSent spi a s).2 := fun s => h.readRegister s _
    rw [if_neg hnotimeout, hstate]
    split
    · exact hloaded.quiet (poll_quiet h hsent _ _)
    · exact hloaded
  · obtain ⟨hres, hstate⟩ := sendMsg_of_none spi m id ext rtrBit len buf wait_sent s hnone
    rw [if_pos hres, hstate]
    exact tells_of_quiet (poll_quiet h hsearch _ _)

/-- A buffer that is asked for by its number and granted is free. -/
theorem isTXBufFree_free (h : Datasheet spi v) (iBuf : UInt8) (s : σ) :
    v.Quiet s (mcp2515_isTXBufFree spi iBuf s).2 ∧
      ∀ a, (mcp2515_isTXBufFree spi iBuf s).1 = some a →
        ∃ b : TxBuffer, b.index = iBuf ∧ a = txCtrlReg b.index + 1 ∧
          v.Free (mcp2515_isTXBufFree spi iBuf s).2 b := by
  unfold mcp2515_isTXBufFree
  split
  · refine ⟨TxView.Quiet.refl s, fun a ha => ?_⟩
    cases ha
  · next hlt =>
    dsimp only
    split
    · refine ⟨h.readStatus s, fun a ha => ?_⟩
      cases ha
    · next hclear =>
      refine ⟨(h.readStatus s).trans (h.modifyFlags _ _ _), fun a ha => ?_⟩
      have hindex : iBuf = 0 ∨ iBuf = 1 ∨ iBuf = 2 := by
        have h3 : iBuf.toNat < 3 := Nat.lt_of_not_le hlt
        simp only [← UInt8.toNat_inj]
        have h0 : UInt8.toNat 0 = 0 := rfl
        have h1 : UInt8.toNat 1 = 1 := rfl
        have h2 : UInt8.toNat 2 = 2 := rfl
        omega
      obtain ⟨b, rfl⟩ := TxBuffer.exists_index hindex
      rw [not_not, b.commands.2.2] at hclear
      exact ⟨b, rfl, (Option.some.inj ha).symm, (h.modifyFlags _ _ _).2.1 b (h.status s b hclear)⟩

/-- The buffer that is granted is free. It is the one that was asked for by its number, or the
driver chose it from the unreserved ones. -/
theorem granted_free (h : Datasheet spi v) (m : MCP_CAN) (iTxBuf : UInt8) (s : σ)
    {r : Option UInt8 × σ}
    (hr : r = if iTxBuf.toNat < MCP_N_TXBUFFERS then mcp2515_isTXBufFree spi iTxBuf s
      else mcp2515_getNextFreeTXBuf spi m s) :
    v.Quiet s r.2 ∧ ∀ a, r.1 = some a → ∃ b : TxBuffer,
      (b.index ∈ m.unreserved ∨ iTxBuf = b.index) ∧ a = txCtrlReg b.index + 1 ∧ v.Free r.2 b := by
  subst hr
  split
  · obtain ⟨hquiet, hfree⟩ := isTXBufFree_free h iTxBuf s
    refine ⟨hquiet, ?_⟩
    intro a ha
    obtain ⟨b, hb, hrest⟩ := hfree a ha
    exact ⟨b, Or.inr hb.symm, hrest⟩
  · refine ⟨getNextFreeTXBuf_quiet h m s, ?_⟩
    intro a ha
    obtain ⟨b, hb, hrest⟩ := getNextFreeTXBuf_free h ha
    exact ⟨b, Or.inl hb, hrest⟩

theorem trySendMsgBuf_tells (h : Datasheet spi v) (m : MCP_CAN) (id : UInt32)
    (ext rtrBit len : UInt8) (buf : Vector UInt8 8) (iTxBuf : UInt8) (s : σ) :
    Tells v (fun b => b.index ∉ m.unreserved ∧ iTxBuf ≠ b.index) s
      (trySendMsgBuf spi m id ext rtrBit len buf iTxBuf s).2
      (if (trySendMsgBuf spi m id ext rtrBit len buf iTxBuf s).1 = CAN_OK then
        [canMsgBytes id ext rtrBit len buf] else []) := by
  unfold trySendMsgBuf
  dsimp only
  generalize hr : (if iTxBuf.toNat < MCP_N_TXBUFFERS then mcp2515_isTXBufFree spi iTxBuf s
    else mcp2515_getNextFreeTXBuf spi m s) = r
  obtain ⟨hquiet, hfree⟩ := granted_free h m iTxBuf s hr.symm
  obtain ⟨granted, s'⟩ := r
  cases granted with
  | none => exact tells_of_quiet hquiet
  | some a =>
    obtain ⟨b, hb, rfl, hbfree⟩ := hfree a rfl
    have hwritten : ¬ (b.index ∉ m.unreserved ∧ iTxBuf ≠ b.index) := by
      rintro ⟨hreserved, hother⟩
      rcases hb with hchosen | hnamed
      · exact hreserved hchosen
      · exact hother hnamed
    exact tells_of_write h hquiet hbfree hwritten id ext rtrBit len buf

theorem rxLoadAddr_mem {status a : UInt8} (h : rxLoadAddr status = some a) :
    a ∈ [MCP_READ_RX0, MCP_READ_RX1] := by
  unfold rxLoadAddr at h
  split at h
  · cases h
    simp
  · split at h
    · cases h
      simp
    · cases h

theorem readMsgBuf_quiet (h : Datasheet spi v) (m : MCP_CAN) (buf : Vector UInt8 8) (s : σ) :
    v.Quiet s (readMsgBuf spi m buf s).2.2.2 := by
  have hstatus : v.Quiet s (readRxTxStatus spi s).2 := h.readStatus s
  unfold readMsgBuf readMsgBufID
  dsimp only
  cases ha : rxLoadAddr (readRxTxStatus spi s).1 with
  | none => exact hstatus
  | some a => exact hstatus.trans (h.readBuffer _ a (rxLoadAddr_mem ha) _)

theorem callStep_tells (h : Datasheet spi v) (q : MCP_CAN × σ) (c : Call) :
    Tells v (fun b => b.index ∉ q.1.unreserved ∧ ¬ c.Names b) q.2 (callStep spi q c).2
      (accepted spi q c) := by
  cases c with
  | sendMsg id ext rtrBit len buf wait_sent =>
    obtain ⟨htold, hkept⟩ := sendMsg_tells h q.1 id ext rtrBit len buf wait_sent q.2
    exact ⟨htold, fun b hb => hkept b hb.1⟩
  | trySendMsgBuf id ext rtrBit len buf iTxBuf =>
    exact trySendMsgBuf_tells h q.1 id ext rtrBit len buf iTxBuf q.2
  | readMsgBuf buf => exact tells_of_quiet (readMsgBuf_quiet h q.1 buf q.2)
  | checkReceive => exact tells_of_quiet (h.readStatus q.2)
  | reserveTxBuffers nTxBuf => exact tells_of_quiet (TxView.Quiet.refl q.2)

/-- The call leaves the buffers that are reserved and that it does not name. -/
def Keeps (spi : Device σ) (v : TxView σ) (q : MCP_CAN × σ) (c : Call) : Prop :=
  ∀ b : TxBuffer, b.index ∉ q.1.unreserved → ¬ c.Names b →
    v.loaded (callStep spi q c).2 b = v.loaded q.2 b

/-- Whatever the order of the calls, and whatever the chip sends in between, the chip is told to
send exactly the messages that the calls say they have sent, each once and in that order, and a
reserved buffer keeps what it holds at every call that does not name it. A call that times out on
the way has told its message. -/
theorem told_of_accepted (h : Datasheet spi v) (q : MCP_CAN × σ) (calls : List Call) :
    v.told (run (callStep spi) q calls).2 = v.told q.2 ++ acceptedIn spi q calls ∧
      Always (callStep spi) (Keeps spi v) q calls := by
  induction calls generalizing q with
  | nil => exact ⟨(List.append_nil _).symm, trivial⟩
  | cons c calls ih =>
    obtain ⟨htold, hkept⟩ := callStep_tells h q c
    obtain ⟨hrest, hlater⟩ := ih (callStep spi q c)
    rw [run_cons]
    refine ⟨?_, fun b hb hnamed => hkept b ⟨hb, hnamed⟩, hlater⟩
    rw [hrest, htold, acceptedIn, List.append_assoc]

end Told

/-! ## The reservation -/

section Reserved

variable {spi : Device σ} {v : TxView σ}

end Reserved

/-! ## A chip that does as its datasheet says -/

/-- The transmit side of a chip: the bytes since it was selected, the buffers, those that wait to
be sent, and what it has been told. -/
structure Chip where
  window : List UInt8
  loaded : TxBuffer → List UInt8
  waiting : TxBuffer → Bool
  told : List (List UInt8)

namespace Chip

def status (c : Chip) : UInt8 :=
  (if c.waiting .tx0 then MCP_STAT_TX0_PENDING else 0) |||
    (if c.waiting .tx1 then MCP_STAT_TX1_PENDING else 0) |||
    (if c.waiting .tx2 then MCP_STAT_TX2_PENDING else 0)

/-- The buffer whose command of a kind this byte is. -/
def bufferOf (command : TxBuffer → UInt8) (x : UInt8) : Option TxBuffer :=
  [TxBuffer.tx0, .tx1, .tx2].find? fun b => command b = x

/-- A command takes effect when the chip is no longer selected. -/
def execute (c : Chip) : Chip :=
  match c.window with
  | [] => c
  | x :: bytes =>
    match bufferOf TxBuffer.load x, bufferOf TxBuffer.requestToSend x with
    | some b, _ =>
      if c.waiting b then c
      else { c with loaded := fun d => if d = b then bytes else c.loaded d }
    | none, some b =>
      if c.waiting b then c
      else
        { c with
          waiting := fun d => if d = b then true else c.waiting d
          told := c.told ++ [c.loaded b] }
    | none, none => c

/-- What waits is sent while the program waits. -/
def spi : Device Chip where
  select c := { c with window := [] }
  transfer b c :=
    (if c.window = [MCP_READ_STATUS] then c.status else 0, { c with window := c.window ++ [b] })
  unselect := execute
  wait c := { c with waiting := fun _ => false }

def view : TxView Chip where
  told := told
  Free c b := c.waiting b = false
  loaded := loaded

def idle : Chip where
  window := []
  loaded _ := []
  waiting _ := false
  told := []

theorem sends_eq (bytes : List UInt8) (c : Chip) :
    spi.sends bytes c = { c with window := c.window ++ bytes } := by
  induction bytes generalizing c with
  | nil => simp [Device.sends]
  | cons b bytes ih =>
    unfold Device.sends at ih ⊢
    rw [List.foldl_cons, ih]
    simp [spi]

theorem afterReads_eq (n : Nat) (c : Chip) :
    spi.afterReads n c = { c with window := c.window ++ List.replicate n 0 } := by
  induction n generalizing c with
  | zero => simp [Device.afterReads]
  | succ n ih =>
    unfold Device.afterReads at ih ⊢
    rw [Function.iterate_succ_apply, ih]
    simp [spi, List.replicate_succ]

/-- A command that is neither a load nor a request to send. -/
def Other (x : UInt8) : Prop :=
  bufferOf TxBuffer.load x = none ∧ bufferOf TxBuffer.requestToSend x = none

instance (x : UInt8) : Decidable (Other x) :=
  inferInstanceAs (Decidable (bufferOf TxBuffer.load x = none ∧
    bufferOf TxBuffer.requestToSend x = none))

theorem execute_other {x : UInt8} (hx : Other x) (c : Chip) (bytes : List UInt8) :
    execute { c with window := x :: bytes } = { c with window := x :: bytes } := by
  unfold execute
  simp [hx.1, hx.2]

theorem quiet_other {x : UInt8} (hx : Other x) (c : Chip) (bytes : List UInt8) :
    view.Quiet c (execute { c with window := x :: bytes }) := by
  rw [execute_other hx]
  exact ⟨rfl, fun _ h => h, fun _ => rfl⟩

theorem ask_eq (bytes : List UInt8) (c : Chip) :
    spi.ask bytes c =
      (if bytes = [MCP_READ_STATUS] then c.status else 0,
        execute { c with window := bytes ++ [0] }) := by
  unfold Device.ask
  rw [sends_eq]
  rfl

theorem command_eq (bytes : List UInt8) (c : Chip) :
    spi.command bytes c = execute { c with window := bytes } := by
  unfold Device.command
  rw [sends_eq]
  rfl

theorem status_pending (c : Chip) (b : TxBuffer) (h : c.status &&& b.pending = 0) :
    c.waiting b = false := by
  unfold status at h
  revert h
  cases b <;> cases c.waiting .tx0 <;> cases c.waiting .tx1 <;> cases c.waiting .tx2 <;> decide

theorem datasheet : Datasheet spi view where
  wait c := ⟨rfl, fun _ _ => rfl, fun _ => rfl⟩
  readStatus c := by
    unfold mcp2515_readStatus
    rw [ask_eq]
    exact quiet_other (by decide) c _
  readRegister c address := by
    unfold mcp2515_readRegister
    rw [ask_eq]
    exact quiet_other (by decide) c _
  modifyFlags c mask data := by
    unfold mcp2515_modifyRegister
    rw [command_eq]
    exact quiet_other (by decide) c _
  readBuffer c a ha n := by
    have hother : Other a := by
      simp only [List.mem_cons, List.not_mem_nil, or_false] at ha
      rcases ha with rfl | rfl <;> decide
    rw [afterReads_eq]
    exact quiet_other hother c _
  status c b h := by
    unfold mcp2515_readStatus at h ⊢
    rw [ask_eq] at h ⊢
    rw [List.cons_append, execute_other (by decide)]
    exact status_pending c b h
  load c b bytes hfree := by
    have hb : bufferOf TxBuffer.load b.load = some b := by cases b <;> decide
    have hfree' : c.waiting b = false := hfree
    rw [command_eq]
    unfold execute
    simp only [hb, hfree', Bool.false_eq_true, if_false]
    exact ⟨rfl, hfree, if_pos rfl, fun d hd => if_neg hd⟩
  requestToSend c b hfree := by
    have hload : bufferOf TxBuffer.load b.requestToSend = none := by cases b <;> decide
    have hb : bufferOf TxBuffer.requestToSend b.requestToSend = some b := by cases b <;> decide
    have hfree' : c.waiting b = false := hfree
    rw [command_eq]
    unfold execute
    simp only [hload, hb, hfree', Bool.false_eq_true, if_false]
    exact ⟨rfl, fun _ => rfl⟩

/-- The driver as it is constructed, with one buffer reserved. -/
def driver : MCP_CAN where
  ext_flg := 0
  can_id := 0
  rtr := 0
  nReservedTx := 1
  reserved_lt := by decide

/-- Two messages that are sent without a wait fill the unreserved buffers, so the call that does
not wait is refused; the last one is served, since the chip sends what waits before its second
try. The reserved buffer is left alone by all of them. -/
theorem told_of_accepted_chip :
    let msg : Vector UInt8 8 := #v[0x04, 0x8c, 0x01, 0x40, 0, 0, 0, 0]
    let heartbeat : Call := .sendMsg 0x1806E5F4 1 0 8 msg false
    let calls := [heartbeat, heartbeat, .checkReceive, .readMsgBuf msg,
      .trySendMsgBuf 0x2C0 0 0 2 msg 0xff, heartbeat]
    (run (callStep spi) (driver, idle) calls).2.told =
        List.replicate 3 (canMsgBytes 0x1806E5F4 1 0 8 msg) ∧
      Always (callStep spi) (Keeps spi view) (driver, idle) calls := by
  intro msg heartbeat calls
  obtain ⟨htold, hkept⟩ := told_of_accepted datasheet (driver, idle) calls
  exact ⟨htold.trans (by decide), hkept⟩

end Chip

end super_charger.mcp_can
