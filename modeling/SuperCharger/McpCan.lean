-- The driver of the CAN controller (mcp_can.cpp) that every sketch sends and receives with, over
-- an SPI port with any chip on it: what the chip answers, and what it does on its own between
-- two bytes, is the port's.
import SuperCharger.SelectLine

namespace super_charger.mcp_can

open select_line

variable {σ : Type*}

/-! ## Constants -/

abbrev TIMEOUTVALUE : Nat := 50

abbrev MCP_SIDH : Nat := 0
abbrev MCP_SIDL : Nat := 1
abbrev MCP_EID8 : Nat := 2
abbrev MCP_EID0 : Nat := 3

abbrev MCP_TXB_EXIDE_M : UInt8 := 0x08
abbrev MCP_DLC_MASK : UInt8 := 0x0F
abbrev MCP_RTR_MASK : UInt8 := 0x40

abbrev MCP_STAT_TX_PENDING_MASK : UInt8 := 0x54
abbrev MCP_STAT_TX0_PENDING : UInt8 := 0x04
abbrev MCP_STAT_TX1_PENDING : UInt8 := 0x10
abbrev MCP_STAT_TX2_PENDING : UInt8 := 0x40
abbrev MCP_STAT_TXIF_MASK : UInt8 := 0xA8
abbrev MCP_STAT_TX0IF : UInt8 := 0x08
abbrev MCP_STAT_TX1IF : UInt8 := 0x20
abbrev MCP_STAT_TX2IF : UInt8 := 0x80
abbrev MCP_STAT_RXIF_MASK : UInt8 := 0x03

abbrev MCP_CANINTF : UInt8 := 0x2C
abbrev MCP_TXB0CTRL : UInt8 := 0x30
abbrev MCP_TXB0SIDH : UInt8 := 0x31
abbrev MCP_TXB1CTRL : UInt8 := 0x40
abbrev MCP_TXB1SIDH : UInt8 := 0x41
abbrev MCP_TXB2CTRL : UInt8 := 0x50
abbrev MCP_TXB2SIDH : UInt8 := 0x51

abbrev MCP_READ : UInt8 := 0x03
abbrev MCP_BITMOD : UInt8 := 0x05
abbrev MCP_LOAD_TX0 : UInt8 := 0x40
abbrev MCP_LOAD_TX1 : UInt8 := 0x42
abbrev MCP_LOAD_TX2 : UInt8 := 0x44
abbrev MCP_RTS_TX0 : UInt8 := 0x81
abbrev MCP_RTS_TX1 : UInt8 := 0x82
abbrev MCP_RTS_TX2 : UInt8 := 0x84
abbrev MCP_READ_RX0 : UInt8 := 0x90
abbrev MCP_READ_RX1 : UInt8 := 0x94
abbrev MCP_READ_STATUS : UInt8 := 0xA0

abbrev MCP_RX0IF : UInt8 := 0x01
abbrev MCP_RX1IF : UInt8 := 0x02
abbrev MCP_TX0IF : UInt8 := 0x04
abbrev MCP_TX1IF : UInt8 := 0x08
abbrev MCP_TX2IF : UInt8 := 0x10

abbrev MCP_N_TXBUFFERS : Nat := 3
abbrev CAN_MAX_CHAR_IN_MESSAGE : Nat := 8

abbrev CAN_OK : UInt8 := 0
abbrev CAN_FAILTX : UInt8 := 2
abbrev CAN_MSGAVAIL : UInt8 := 3
abbrev CAN_NOMSG : UInt8 := 4
abbrev CAN_GETTXBFTIMEOUT : UInt8 := 6
abbrev CAN_SENDMSGTIMEOUT : UInt8 := 7

/-! ## The transmit buffers -/

def txCtrlReg (i : UInt8) : UInt8 :=
  match i with
  | 0 => MCP_TXB0CTRL
  | 1 => MCP_TXB1CTRL
  | 2 => MCP_TXB2CTRL
  | _ => MCP_TXB2CTRL

def txSidhToRTS (sidh : UInt8) : UInt8 :=
  if sidh = MCP_TXB0SIDH then MCP_RTS_TX0
  else if sidh = MCP_TXB1SIDH then MCP_RTS_TX1
  else if sidh = MCP_TXB2SIDH then MCP_RTS_TX2
  else 0

def txSidhToTxLoad (sidh : UInt8) : UInt8 :=
  if sidh = MCP_TXB0SIDH then MCP_LOAD_TX0
  else if sidh = MCP_TXB1SIDH then MCP_LOAD_TX1
  else if sidh = MCP_TXB2SIDH then MCP_LOAD_TX2
  else 0

def txIfFlag (i : UInt8) : UInt8 :=
  match i with
  | 0 => MCP_TX0IF
  | 1 => MCP_TX1IF
  | 2 => MCP_TX2IF
  | _ => 0

def txStatusPendingFlag (i : UInt8) : UInt8 :=
  match i with
  | 0 => MCP_STAT_TX0_PENDING
  | 1 => MCP_STAT_TX1_PENDING
  | 2 => MCP_STAT_TX2_PENDING
  | _ => 0xff

/-! ## The commands of the chip -/

section Commands

variable (spi : Device σ)

def mcp2515_readRegister (address : UInt8) (s : σ) : UInt8 × σ := spi.ask [MCP_READ, address] s

def mcp2515_modifyRegister (address mask data : UInt8) (s : σ) : σ :=
  spi.command [MCP_BITMOD, address, mask, data] s

def mcp2515_readStatus (s : σ) : UInt8 × σ := spi.ask [MCP_READ_STATUS] s

def mcp2515_start_transmit (mcp_addr : UInt8) (s : σ) : σ := spi.command [txSidhToRTS mcp_addr] s

end Commands

/-! ## Identifiers -/

/-- The four identifier registers. Only an `ext` of exactly 1 makes an extended identifier. -/
def mcp2515_id_to_buf (ext : UInt8) (id : UInt32) : Vector UInt8 4 :=
  let canid : UInt16 := (id &&& 0x0FFFF).toUInt16
  if ext = 1 then
    let eid0 : UInt8 := (canid &&& 0xFF).toUInt8
    let eid8 : UInt8 := (canid >>> 8).toUInt8
    let canid : UInt16 := (id >>> 16).toUInt16
    let sidl : UInt8 := (canid &&& 0x03).toUInt8
    let sidl : UInt8 := sidl + ((canid &&& 0x1C) <<< 3).toUInt8
    let sidl : UInt8 := sidl ||| MCP_TXB_EXIDE_M
    #v[(canid >>> 5).toUInt8, sidl, eid8, eid0]
  else
    #v[(canid >>> 3).toUInt8, ((canid &&& 0x07) <<< 5).toUInt8, 0, 0]

/-- The registers hold an extended identifier. -/
def IsExtended (tbufdata : Vector UInt8 4) : Prop :=
  tbufdata[MCP_SIDL] &&& MCP_TXB_EXIDE_M = MCP_TXB_EXIDE_M

instance (tbufdata : Vector UInt8 4) : Decidable (IsExtended tbufdata) :=
  inferInstanceAs (Decidable (tbufdata[MCP_SIDL] &&& MCP_TXB_EXIDE_M = MCP_TXB_EXIDE_M))

/-- The identifier that both readers put together from the registers. -/
def idOfBuf (tbufdata : Vector UInt8 4) : UInt32 :=
  let id : UInt32 := (tbufdata[MCP_SIDH].toUInt32 <<< 3) + (tbufdata[MCP_SIDL] >>> 5).toUInt32
  if IsExtended tbufdata then
    let id := (id <<< 2) + (tbufdata[MCP_SIDL] &&& 0x03).toUInt32
    let id := (id <<< 8) + tbufdata[MCP_EID8].toUInt32
    (id <<< 8) + tbufdata[MCP_EID0].toUInt32
  else id

/-- The remote bit that the reader takes, from the last of the registers. -/
def rtrOfBuf (tbufdata : Vector UInt8 4) : UInt8 :=
  if tbufdata[MCP_EID0] &&& 0x08 ≠ 0 then 1 else 0

/-! ## The driver object -/

/-- The fields of `MCP_CAN`; `reserveTxBuffers` is the only writer of the last one, and leaves a
buffer unreserved. -/
structure MCP_CAN where
  ext_flg : UInt8
  can_id : UInt32
  rtr : UInt8
  nReservedTx : UInt8
  reserved_lt : nReservedTx.toNat < MCP_N_TXBUFFERS

def MCP_CAN.reserveTxBuffers (m : MCP_CAN) (nTxBuf : UInt8) : MCP_CAN where
  ext_flg := m.ext_flg
  can_id := m.can_id
  rtr := m.rtr
  nReservedTx := if nTxBuf.toNat < MCP_N_TXBUFFERS then nTxBuf else 2
  reserved_lt := by
    split
    · assumption
    · decide

/-- The buffers that are not reserved, in the order in which they are tried. -/
def MCP_CAN.unreserved (m : MCP_CAN) : List UInt8 :=
  [0, 1, 2].take (MCP_N_TXBUFFERS - m.nReservedTx.toNat)

/-! ## Sending -/

section Sending

variable (spi : Device σ)

/-- The bytes that a message is loaded with: the identifier, the length with the remote bit, and
no more than eight bytes of data. -/
def canMsgBytes (id : UInt32) (ext rtrBit len : UInt8) (buf : Vector UInt8 8) : List UInt8 :=
  let dlc := len ||| (if rtrBit ≠ 0 then MCP_RTR_MASK else 0)
  (mcp2515_id_to_buf ext id).toList ++ dlc :: buf.toList.take len.toNat

def mcp2515_write_canMsg (buffer_sidh_addr : UInt8) (id : UInt32) (ext rtrBit len : UInt8)
    (buf : Vector UInt8 8) (s : σ) : σ :=
  let load_addr := txSidhToTxLoad buffer_sidh_addr
  let s := spi.command (load_addr :: canMsgBytes id ext rtrBit len buf) s
  mcp2515_start_transmit spi buffer_sidh_addr s

/-- `MCP_ALLTXBUSY` is `none`; otherwise the address of the buffer's first register. -/
def mcp2515_isTXBufFree (iBuf : UInt8) (s : σ) : Option UInt8 × σ :=
  if MCP_N_TXBUFFERS ≤ iBuf.toNat then (none, s)
  else
    let r := mcp2515_readStatus spi s
    if r.1 &&& txStatusPendingFlag iBuf ≠ 0 then (none, r.2)
    else (some (txCtrlReg iBuf + 1), mcp2515_modifyRegister spi MCP_CANINTF (txIfFlag iBuf) 0 r.2)

def mcp2515_getNextFreeTXBuf (m : MCP_CAN) (s : σ) : Option UInt8 × σ :=
  let r := mcp2515_readStatus spi s
  let status := r.1 &&& MCP_STAT_TX_PENDING_MASK
  if status = MCP_STAT_TX_PENDING_MASK then (none, r.2)
  else
    match m.unreserved.find? fun i => status &&& txStatusPendingFlag i = 0 with
    | some i =>
      (some (txCtrlReg i + 1), mcp2515_modifyRegister spi MCP_CANINTF (txIfFlag i) 0 r.2)
    | none => (none, r.2)

/-- The control register says that the message is no longer waiting. -/
def mcp2515_isSent (txbuf_n : UInt8) (s : σ) : Option Unit × σ :=
  let r := mcp2515_readRegister spi (txbuf_n - 1) s
  (if r.1 &&& 0x08 = 0 then some () else none, r.2)

/-- Both loops leave with `uiTimeOut` at the limit when the last try is made, whatever it gave. -/
def sendMsg (m : MCP_CAN) (id : UInt32) (ext rtrBit len : UInt8) (buf : Vector UInt8 8)
    (wait_sent : Bool) (s : σ) : UInt8 × MCP_CAN × σ :=
  let m := { m with can_id := id, ext_flg := ext, rtr := rtrBit }
  let r := poll (mcp2515_getNextFreeTXBuf spi m) spi.wait TIMEOUTVALUE s
  if r.2.1 = TIMEOUTVALUE then (CAN_GETTXBFTIMEOUT, m, r.2.2)
  else
    let txbuf_n := r.1.getD 0
    let s := mcp2515_write_canMsg spi txbuf_n id ext rtrBit len buf r.2.2
    if wait_sent then
      let q := poll (mcp2515_isSent spi txbuf_n) spi.wait TIMEOUTVALUE s
      (if q.2.1 = TIMEOUTVALUE then CAN_SENDMSGTIMEOUT else CAN_OK, m, q.2.2)
    else (CAN_OK, m, s)

/-- The form that the sketches call. -/
def sendMsgBuf (m : MCP_CAN) (id : UInt32) (ext len : UInt8) (buf : Vector UInt8 8) (s : σ) :
    UInt8 × MCP_CAN × σ :=
  sendMsg spi m id ext 0 len buf true s

def trySendMsgBuf (m : MCP_CAN) (id : UInt32) (ext rtrBit len : UInt8) (buf : Vector UInt8 8)
    (iTxBuf : UInt8) (s : σ) : UInt8 × σ :=
  let r := if iTxBuf.toNat < MCP_N_TXBUFFERS then mcp2515_isTXBufFree spi iTxBuf s
    else mcp2515_getNextFreeTXBuf spi m s
  match r.1 with
  | none => (CAN_FAILTX, r.2)
  | some txbuf_n => (CAN_OK, mcp2515_write_canMsg spi txbuf_n id ext rtrBit len buf r.2)

end Sending

/-! ## Receiving -/

section Receiving

variable (spi : Device σ)

/-- What the caller's pointers point to. -/
structure Out where
  id : UInt32
  ext : UInt8
  rtrBit : UInt8
  len : UInt8
  buf : Vector UInt8 8
  deriving DecidableEq

/-- The chip once it has been told which receive buffer to read. -/
def readFrom (buffer_load_addr : UInt8) (s : σ) : σ :=
  (spi.transfer buffer_load_addr (spi.select s)).2

/-- The first four bytes of the buffer. -/
def idRegisters (s : σ) : Vector UInt8 4 :=
  #v[spi.reply 0 s, spi.reply 1 s, spi.reply 2 s, spi.reply 3 s]

/-- `ext` is set for an extended identifier and otherwise left as it was. -/
def mcp2515_read_canMsg (buffer_load_addr : UInt8) (o : Out) (s : σ) : Out × σ :=
  let s := readFrom spi buffer_load_addr s
  let tbufdata := idRegisters spi s
  let len := spi.reply 4 s &&& MCP_DLC_MASK
  let n := min len.toNat CAN_MAX_CHAR_IN_MESSAGE
  ({ id := idOfBuf tbufdata
     ext := if IsExtended tbufdata then 1 else o.ext
     rtrBit := rtrOfBuf tbufdata
     len
     buf := Vector.ofFn fun i => if i.val < n then spi.reply (5 + i.val) s else o.buf.get i },
    spi.unselect (spi.afterReads (5 + n) s))

/-- The status byte of the chip, translated to the flags of `CANINTF`. -/
def statusFlags (status : UInt8) : UInt8 :=
  let ret := status &&& (MCP_STAT_TXIF_MASK ||| MCP_STAT_RXIF_MASK)
  (if ret &&& MCP_STAT_TX0IF ≠ 0 then MCP_TX0IF else 0) |||
    (if ret &&& MCP_STAT_TX1IF ≠ 0 then MCP_TX1IF else 0) |||
    (if ret &&& MCP_STAT_TX2IF ≠ 0 then MCP_TX2IF else 0) |||
    (ret &&& MCP_STAT_RXIF_MASK)

def readRxTxStatus (s : σ) : UInt8 × σ :=
  let r := mcp2515_readStatus spi s
  (statusFlags r.1, r.2)

/-- The buffer that is read: the first one when both hold a message. -/
def rxLoadAddr (status : UInt8) : Option UInt8 :=
  if status &&& MCP_RX0IF ≠ 0 then some MCP_READ_RX0
  else if status &&& MCP_RX1IF ≠ 0 then some MCP_READ_RX1
  else none

/-- The object remembers what was read; without a message only the length is written. -/
def readMsgBufID (m : MCP_CAN) (status : UInt8) (o : Out) (s : σ) : UInt8 × Out × MCP_CAN × σ :=
  match rxLoadAddr status with
  | some load_addr =>
    let r := mcp2515_read_canMsg spi load_addr o s
    (CAN_OK, r.1, { m with rtr := r.1.rtrBit, ext_flg := r.1.ext, can_id := r.1.id }, r.2)
  | none => (CAN_NOMSG, { o with len := 0 }, m, s)

/-- The pointers are to the fields of the object itself. -/
def readMsgBuf (m : MCP_CAN) (buf : Vector UInt8 8) (s : σ) : UInt8 × Out × MCP_CAN × σ :=
  let r := readRxTxStatus spi s
  readMsgBufID spi m r.1 { id := m.can_id, ext := m.ext_flg, rtrBit := m.rtr, len := 0, buf } r.2

def checkReceive (s : σ) : UInt8 × σ :=
  let r := mcp2515_readStatus spi s
  (if r.1 &&& MCP_STAT_RXIF_MASK ≠ 0 then CAN_MSGAVAIL else CAN_NOMSG, r.2)

end Receiving

def MCP_CAN.getCanId (m : MCP_CAN) : UInt32 := m.can_id

/-- The calls of the driver that the sketches make, the one that does not wait, and the one that
reserves buffers for it. -/
inductive Call where
  | sendMsg (id : UInt32) (ext rtrBit len : UInt8) (buf : Vector UInt8 8) (wait_sent : Bool)
  | trySendMsgBuf (id : UInt32) (ext rtrBit len : UInt8) (buf : Vector UInt8 8) (iTxBuf : UInt8)
  | readMsgBuf (buf : Vector UInt8 8)
  | checkReceive
  | reserveTxBuffers (nTxBuf : UInt8)

/-- The driver and the chip after one call. -/
def callStep (spi : Device σ) (q : MCP_CAN × σ) : Call → MCP_CAN × σ
  | .sendMsg id ext rtrBit len buf wait_sent =>
    (sendMsg spi q.1 id ext rtrBit len buf wait_sent q.2).2
  | .trySendMsgBuf id ext rtrBit len buf iTxBuf =>
    (q.1, (trySendMsgBuf spi q.1 id ext rtrBit len buf iTxBuf q.2).2)
  | .readMsgBuf buf => (readMsgBuf spi q.1 buf q.2).2.2
  | .checkReceive => (q.1, (checkReceive spi q.2).2)
  | .reserveTxBuffers nTxBuf => (q.1.reserveTxBuffers nTxBuf, q.2)

end super_charger.mcp_can
