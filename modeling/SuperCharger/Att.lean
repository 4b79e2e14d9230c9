-- The attribute server of the BLE library: what it answers to the packets of
-- a central, and what they do to the characteristics of the sketch.
import SuperCharger.Arduino
import SuperCharger.Gatt
import SuperCharger.Runs

namespace super_charger.ble

open arduino runs

/-! ## Packets -/

def ATT_OP_ERROR : UInt8 := 0x01
def ATT_OP_MTU_REQ : UInt8 := 0x02
def ATT_OP_MTU_RESP : UInt8 := 0x03
def ATT_OP_FIND_INFO_REQ : UInt8 := 0x04
def ATT_OP_FIND_INFO_RESP : UInt8 := 0x05
def ATT_OP_FIND_BY_TYPE_REQ : UInt8 := 0x06
def ATT_OP_FIND_BY_TYPE_RESP : UInt8 := 0x07
def ATT_OP_READ_BY_TYPE_REQ : UInt8 := 0x08
def ATT_OP_READ_BY_TYPE_RESP : UInt8 := 0x09
def ATT_OP_READ_REQ : UInt8 := 0x0a
def ATT_OP_READ_RESP : UInt8 := 0x0b
def ATT_OP_READ_BLOB_REQ : UInt8 := 0x0c
def ATT_OP_READ_BLOB_RESP : UInt8 := 0x0d
def ATT_OP_READ_BY_GROUP_REQ : UInt8 := 0x10
def ATT_OP_READ_BY_GROUP_RESP : UInt8 := 0x11
def ATT_OP_WRITE_REQ : UInt8 := 0x12
def ATT_OP_WRITE_RESP : UInt8 := 0x13
def ATT_OP_WRITE_CMD : UInt8 := 0x52
def ATT_OP_PREP_WRITE_REQ : UInt8 := 0x16
def ATT_OP_PREP_WRITE_RESP : UInt8 := 0x17
def ATT_OP_EXEC_WRITE_REQ : UInt8 := 0x18
def ATT_OP_EXEC_WRITE_RESP : UInt8 := 0x19
def ATT_OP_HANDLE_NOTIFY : UInt8 := 0x1b
def ATT_OP_HANDLE_IND : UInt8 := 0x1d
def ATT_OP_HANDLE_CNF : UInt8 := 0x1e

def ATT_ECODE_READ_NOT_PERM : UInt8 := 0x02
def ATT_ECODE_WRITE_NOT_PERM : UInt8 := 0x03
def ATT_ECODE_INVALID_PDU : UInt8 := 0x04
def ATT_ECODE_REQ_NOT_SUPP : UInt8 := 0x06
def ATT_ECODE_INVALID_OFFSET : UInt8 := 0x07
def ATT_ECODE_ATTR_NOT_FOUND : UInt8 := 0x0a
def ATT_ECODE_ATTR_NOT_LONG : UInt8 := 0x0b
def ATT_ECODE_UNLIKELY : UInt8 := 0x0e
def ATT_ECODE_UNSUPP_GRP_TYPE : UInt8 := 0x10

/-- A packet lies in the receive buffer, so the bytes behind its end can be read too. -/
abbrev Data := Nat → UInt8

def bytes16 (v : UInt16) : List UInt8 := [lowByte v, highByte v]

def word16 (data : Data) (i : Nat) : UInt16 := word (data (i + 1)) (data i)

def slice (data : Data) (i n : Nat) : List UInt8 := (List.range n).map fun k => data (i + k)

/-! ## The server -/

/-- What changes of a characteristic. The buffer has the size that was asked of `malloc`. -/
structure Value where
  value : List UInt8
  valueLength : Nat
  written : Bool
  cccdValue : UInt16

structure ATTClass where
  maxMtu : UInt16
  connectionHandle : UInt16
  mtu : UInt16
  longWriteHandle : UInt16
  longWriteValue : List UInt8
  longWriteValueLength : UInt16

/-- The constructor. -/
def ATTClass.constructed : ATTClass where
  maxMtu := 23
  connectionHandle := 0xffff
  mtu := 23
  longWriteHandle := 0x0000
  longWriteValue := []
  longWriteValueLength := 0

structure Server where
  att : ATTClass
  values : Nat → Value

/-- What the outside sees: a packet for the radio, or a call of an event handler of the sketch,
with the buffer of the characteristic where one was written. -/
inductive Effect where
  | sendAclPkt (handle : UInt16) (data : List UInt8)
  | read (c : Nat)
  | written (c : Nat) (value : List UInt8)
  | subscribed (c : Nat)
  | unsubscribed (c : Nat)
  | connected (handle : UInt16)
  | disconnected (handle : UInt16)
deriving DecidableEq

def sendError (connectionHandle : UInt16) (opcode : UInt8) (handle : UInt16) (code : UInt8) :
    List Effect :=
  [.sendAclPkt connectionHandle (ATT_OP_ERROR :: opcode :: bytes16 handle ++ [code])]

/-! ## Characteristics -/

/-- A value sent of its own accord, by `handleNotify` or `handleInd`. -/
def handleValue (op : UInt8) (att : ATTClass) (handle : UInt16) (value : List UInt8) :
    List Effect :=
  if att.connectionHandle ≠ 0xffff then
    [.sendAclPkt att.connectionHandle
      (op :: bytes16 handle ++ value.take (min (att.mtu - 3).toNat value.length))]
  else []

def handleNotify : ATTClass → UInt16 → List UInt8 → List Effect := handleValue ATT_OP_HANDLE_NOTIFY

def handleInd : ATTClass → UInt16 → List UInt8 → List Effect := handleValue ATT_OP_HANDLE_IND

namespace Server

variable (o : Objects) (g : GATTClass)

def setValueOf (s : Server) (c : Nat) (v : Value) : Server :=
  { s with values := Function.update s.values c v }

/-- What a write leaves of a value: a short one covers the front of the buffer only, and a
characteristic of fixed length still counts as full. -/
def store (s : Server) (c : Nat) (value : List UInt8) : Value :=
  let length := min value.length (o.characteristic c).valueSize
  { s.values c with
    value := value.take length ++ (s.values c).value.drop length
    valueLength :=
      if (o.characteristic c).fixedLength then (o.characteristic c).valueSize else length }

/-- `writeValue` of the sketch, which tells a central that subscribed. -/
def writeValue (s : Server) (c : Nat) (value : List UInt8) : Server × List Effect :=
  let v := s.store o c value
  let properties := (o.characteristic c).properties
  let shown := v.value.take v.valueLength
  (s.setValueOf c v,
    if properties &&& BLEIndicate ≠ 0 ∧ v.cccdValue &&& 0x0002 ≠ 0 then
      handleInd s.att (g.valueHandle c) shown
    else if properties &&& BLENotify ≠ 0 ∧ v.cccdValue &&& 0x0001 ≠ 0 then
      handleNotify s.att (g.valueHandle c) shown
    else [])

/-- `writeValue` for a central: the handler of the sketch is called last. -/
def writeFrom (s : Server) (c : Nat) (value : List UInt8) : Server × List Effect :=
  let q := (s.setValueOf c { s.values c with written := true }).writeValue o g c value
  (q.1, q.2 ++ [.written c (q.1.values c).value])

def writeCccdValue (s : Server) (c : Nat) (value : UInt16) : Server × List Effect :=
  let value := value &&& 0x0003
  if (s.values c).cccdValue ≠ value then
    (s.setValueOf c { s.values c with cccdValue := value },
      [if value ≠ 0 then .subscribed c else .unsubscribed c])
  else (s, [])

def descriptorValue (s : Server) : Descriptor → List UInt8
  | .cccd c => bytes16 (s.values c).cccdValue
  | .added d => (o.descriptor d).value

end Server

/-! ## Lists of attributes -/

/-- A response in the making: what its second byte says, and what comes behind it. -/
structure Response where
  kind : UInt8
  bytes : List UInt8

/-- How a turn of one of the loops over the table ends: it goes on, goes on behind the next
attribute, or breaks. -/
inductive Turn where
  | go (r : Response)
  | skip (r : Response)
  | stop (r : Response)

/-- `for (uint16_t i = ...; i < attributeCount() && i <= endHandle - 1; i++)`, with the handle
`i + 1`. -/
def overAttributes (endHandle : UInt16) (body : UInt16 → BLEAttribute → Response → Turn) :
    Nat → List BLEAttribute → Response → Response
  | _, [], r => r
  | i, a :: rest, r =>
    if (i : Int) ≤ endHandle.toNat - 1 then
      match body (UInt16.ofNat (i + 1)) a r with
      | .go r => overAttributes endHandle body (i + 1) rest r
      | .skip r =>
        match rest with
        | [] => r
        | _ :: rest => overAttributes endHandle body (i + 2) rest r
      | .stop r => r
    else r

/-- The loop from the handle that a request names. -/
def GATTClass.overHandles (g : GATTClass) (startHandle endHandle : UInt16)
    (body : UInt16 → BLEAttribute → Response → Turn) : Response :=
  let i := (startHandle - 1).toNat
  overAttributes endHandle body i (g.attributes.drop i) { kind := 0, bytes := [] }

/-- The first entry sets the kind, one of another kind ends the list, and so does the lack of room
for one more. -/
def addEntry (mtu : UInt16) (kind : UInt8) (room : Nat) (entry : List UInt8) (r : Response) : Turn :=
  let kind' := if r.kind = 0 then kind else r.kind
  if kind' ≠ kind then .stop { r with kind := kind' }
  else
    let r := { kind := kind', bytes := r.bytes ++ entry }
    if 2 + r.bytes.length + room > mtu.toNat then .stop r else .go r

/-- The response, or the error when nothing was found. -/
def answer (connectionHandle : UInt16) (req resp : UInt8) (startHandle : UInt16) (r : Response) :
    List Effect :=
  if r.bytes.isEmpty then sendError connectionHandle req startHandle ATT_ECODE_ATTR_NOT_FOUND
  else [.sendAclPkt connectionHandle (resp :: r.kind :: r.bytes)]

section Requests

variable (o : Objects) (g : GATTClass)

def isValueHandle (handle : UInt16) : BLEAttribute → Bool
  | .characteristic c => g.valueHandle c = handle
  | _ => false

/-- A value handle shows two bytes of its UUID, a declaration or a service its type, whatever the
kind of the entry. -/
def findInfoTurn (mtu : UInt16) (handle : UInt16) (a : BLEAttribute) (r : Response) : Turn :=
  let uuidLen := if isValueHandle g handle a then 2 else (o.uuid a).data.length
  let infoType : UInt8 := if uuidLen = 2 then 0x01 else 0x02
  let shown :=
    if isValueHandle g handle a ∨ a.type = BLETypeDescriptor then (o.uuid a).data.take uuidLen
    else bytes16 a.type
  addEntry mtu infoType (2 + uuidLen) (bytes16 handle ++ shown) r

def findInfoReq (s : Server) (connectionHandle : UInt16) (dlen : UInt8) (data : Data) :
    List Effect :=
  let startHandle := word16 data 0
  if dlen ≠ 4 then
    sendError connectionHandle ATT_OP_FIND_INFO_REQ startHandle ATT_ECODE_INVALID_PDU
  else
    answer connectionHandle ATT_OP_FIND_INFO_REQ ATT_OP_FIND_INFO_RESP startHandle
      (g.overHandles startHandle (word16 data 2) (findInfoTurn o g s.att.mtu))

/-- Here the room is looked at in every turn. -/
def findByTypeTurn (mtu : UInt16) (value : List UInt8) (a : BLEAttribute) (r : Response) : Turn :=
  let r :=
    match a with
    | .service s =>
      if (o.service s).uuid.data = value then
        { r with bytes := r.bytes ++ bytes16 (g.startHandle s) ++ bytes16 (g.endHandle s) }
      else r
    | _ => r
  if 1 + r.bytes.length + 4 > mtu.toNat then .stop r else .go r

/-- Only services can be found by their type. -/
def findByTypeLoop (mtu startHandle endHandle type : UInt16) (value : List UInt8) : Response :=
  if type = BLETypeService then
    g.overHandles startHandle endHandle fun _ => findByTypeTurn o g mtu value
  else { kind := 0, bytes := [] }

/-- The errors name the response, not the request. -/
def findByTypeReq (s : Server) (connectionHandle : UInt16) (dlen : UInt8) (data : Data) :
    List Effect :=
  let startHandle := word16 data 0
  if dlen < 6 then
    sendError connectionHandle ATT_OP_FIND_BY_TYPE_RESP startHandle ATT_ECODE_INVALID_PDU
  else
    let r := findByTypeLoop o g s.att.mtu startHandle (word16 data 2) (word16 data 4)
      (slice data 6 (dlen - 6).toNat)
    if r.bytes.isEmpty then
      sendError connectionHandle ATT_OP_FIND_BY_TYPE_RESP startHandle ATT_ECODE_ATTR_NOT_FOUND
    else [.sendAclPkt connectionHandle (ATT_OP_FIND_BY_TYPE_RESP :: r.bytes)]

def readByGroupTurn (mtu uuid : UInt16) (a : BLEAttribute) (r : Response) : Turn :=
  if uuid ≠ a.type then .go r
  else
    match a with
    | .service s =>
      let infoSize := if (o.service s).uuid.data.length = 2 then 6 else 20
      addEntry mtu (UInt8.ofNat infoSize) infoSize
        (bytes16 (g.startHandle s) ++ bytes16 (g.endHandle s) ++ (o.service s).uuid.data) r
    | _ => .go r

def readByGroupReq (s : Server) (connectionHandle : UInt16) (dlen : UInt8) (data : Data) :
    List Effect :=
  let startHandle := word16 data 0
  let uuid := word16 data 4
  if dlen ≠ 6 ∨ (uuid ≠ BLETypeService ∧ uuid ≠ 0x2801) then
    sendError connectionHandle ATT_OP_READ_BY_GROUP_REQ startHandle ATT_ECODE_UNSUPP_GRP_TYPE
  else
    answer connectionHandle ATT_OP_READ_BY_GROUP_REQ ATT_OP_READ_BY_GROUP_RESP startHandle
      (g.overHandles startHandle (word16 data 2) fun _ => readByGroupTurn o g s.att.mtu uuid)

/-- After a declaration the next handle is skipped, for it is the one of the value. -/
def Turn.skipNext : Turn → Turn
  | .go r => .skip r
  | t => t

/-- Declarations by their type, or the value of a characteristic by its UUID. No attribute has the
type `0x2902`, for which the source has a branch. -/
def readByTypeTurn (s : Server) (uuid handle : UInt16) (a : BLEAttribute) (r : Response) : Turn :=
  if a.type = uuid then
    match a with
    | .characteristic c =>
      if g.valueHandle c = handle then .go r
      else
        let typeSize := if (o.characteristic c).uuid.data.length = 2 then 7 else 21
        (addEntry s.att.mtu (UInt8.ofNat typeSize) typeSize
          (bytes16 handle ++ (o.characteristic c).properties :: bytes16 (handle + 1) ++
            (o.characteristic c).uuid.data) r).skipNext
    | _ => .go r
  else
    match a with
    | .characteristic c =>
      if (o.characteristic c).uuid.data = bytes16 uuid then
        let bytes := r.bytes ++ bytes16 handle
        let room := (s.att.mtu - UInt16.ofNat (2 + bytes.length)).toNat
        let valueLength := min room (s.values c).valueLength
        .stop
          { kind := UInt8.ofNat (2 + valueLength)
            bytes := bytes ++ (s.values c).value.take valueLength }
      else .go r
    | _ => .go r

def readByTypeReq (s : Server) (connectionHandle : UInt16) (dlen : UInt8) (data : Data) :
    List Effect :=
  let startHandle := word16 data 0
  if dlen ≠ 6 then
    sendError connectionHandle ATT_OP_READ_BY_TYPE_REQ startHandle ATT_ECODE_INVALID_PDU
  else
    answer connectionHandle ATT_OP_READ_BY_TYPE_REQ ATT_OP_READ_BY_TYPE_RESP startHandle
      (g.overHandles startHandle (word16 data 2) (readByTypeTurn o g s (word16 data 4)))

/-! ## Values

A request for a handle may look behind the end of the table, where there is no attribute: then
what happens is not defined, and there is no result. -/

def mtuReq (s : Server) (connectionHandle : UInt16) (dlen : UInt8) (data : Data) :
    Server × List Effect :=
  if dlen ≠ 2 then (s, sendError connectionHandle ATT_OP_MTU_REQ 0x0000 ATT_ECODE_INVALID_PDU)
  else
    let mtu := if word16 data 0 > s.att.maxMtu then s.att.maxMtu else word16 data 0
    ({ s with att := { s.att with mtu } },
      [.sendAclPkt connectionHandle (ATT_OP_MTU_RESP :: bytes16 mtu)])

/-- What is read from a long value at an offset, in a packet of its own. -/
def valueAt (mtu : UInt16) (value : List UInt8) (offset : Nat) : List UInt8 :=
  (value.drop offset).take (mtu.toNat - 1)

def readOrReadBlobReq (s : Server) (connectionHandle : UInt16) (opcode dlen : UInt8) (data : Data) :
    Option (List Effect) :=
  let isRead := opcode = ATT_OP_READ_REQ
  if dlen ≠ if isRead then 2 else 4 then
    some (sendError connectionHandle opcode 0x0000 ATT_ECODE_INVALID_PDU)
  else
    let handle := word16 data 0
    let offset := if isRead then 0 else word16 data 2
    let op := if isRead then ATT_OP_READ_RESP else ATT_OP_READ_BLOB_RESP
    if (handle - 1).toNat > g.attributeCount then
      some (sendError connectionHandle opcode handle ATT_ECODE_ATTR_NOT_FOUND)
    else
      match g.attributeBefore handle 1 with
      | none => none
      | some (.service sv) =>
        if offset ≠ 0 then
          -- the arguments of `sendError` are in the wrong places
          some (sendError connectionHandle ATT_ECODE_ATTR_NOT_LONG handle ATT_ECODE_INVALID_PDU)
        else some [.sendAclPkt connectionHandle (op :: (o.service sv).uuid.data)]
      | some (.characteristic c) =>
        if g.handle c = handle then
          if offset ≠ 0 then some (sendError connectionHandle opcode handle ATT_ECODE_ATTR_NOT_LONG)
          else
            some [.sendAclPkt connectionHandle
              (op :: (o.characteristic c).properties :: bytes16 (g.valueHandle c) ++
                (o.characteristic c).uuid.data)]
        else if (o.characteristic c).properties &&& BLERead = 0 then
          some (sendError connectionHandle opcode handle ATT_ECODE_READ_NOT_PERM)
        else if offset.toNat ≥ (s.values c).valueLength then
          some (sendError connectionHandle opcode handle ATT_ECODE_INVALID_OFFSET)
        else
          let shown := (s.values c).value.take (s.values c).valueLength
          some [.read c,
            .sendAclPkt connectionHandle (op :: valueAt s.att.mtu shown offset.toNat)]
      | some (.descriptor d) =>
        if offset.toNat ≥ (s.descriptorValue o d).length then
          some (sendError connectionHandle opcode handle ATT_ECODE_INVALID_OFFSET)
        else
          some [.sendAclPkt connectionHandle
            (op :: valueAt s.att.mtu (s.descriptorValue o d) offset.toNat)]

/-- As C++ reads the condition of the source: `(a || b) ? c : d`. -/
def writeDenied (withResponse : Bool) (handle : UInt16) (c : Nat) : Bool :=
  if handle ≠ g.valueHandle c ∨ withResponse then (o.characteristic c).properties &&& BLEWrite = 0
  else (o.characteristic c).properties &&& BLEWriteWithoutResponse = 0

def writeReqOrCmd (s : Server) (connectionHandle : UInt16) (op dlen : UInt8) (data : Data) :
    Option (Server × List Effect) :=
  let withResponse := op = ATT_OP_WRITE_REQ
  let refused (handle : UInt16) (code : UInt8) : Server × List Effect :=
    (s, if withResponse then sendError connectionHandle ATT_OP_WRITE_REQ handle code else [])
  let done (q : Server × List Effect) : Server × List Effect :=
    (q.1, q.2 ++ if withResponse then [.sendAclPkt connectionHandle [ATT_OP_WRITE_RESP]] else [])
  if dlen < 2 then some (refused 0x0000 ATT_ECODE_INVALID_PDU)
  else
    let handle := word16 data 0
    if (handle - 1).toNat > g.attributeCount then some (refused handle ATT_ECODE_ATTR_NOT_FOUND)
    else
      match g.attributeBefore handle 1 with
      | none => none
      | some (.service _) => some (refused handle ATT_ECODE_WRITE_NOT_PERM)
      | some (.characteristic c) =>
        if writeDenied o g withResponse handle c then
          some (refused handle ATT_ECODE_WRITE_NOT_PERM)
        else if connectionHandle = s.att.connectionHandle then
          some (done (s.writeFrom o g c (slice data 2 (dlen - 2).toNat)))
        else some (done (s, []))
      | some (.descriptor d) =>
        -- only CCCDs are writable
        if (o.uuid (.descriptor d)).data ≠ cccdUuid.data then
          some (refused handle ATT_ECODE_WRITE_NOT_PERM)
        else
          match g.attributeBefore handle 2 with
          | none => none
          | some (.characteristic c) =>
            if connectionHandle = s.att.connectionHandle then
              some (done (s.writeCccdValue c (word16 data 2)))
            else some (done (s, []))
          | some _ => some (refused handle ATT_ECODE_WRITE_NOT_PERM)

/-- A long write begins with a cleared buffer of the size of the value. -/
def ATTClass.beginLongWrite (att : ATTClass) (handle : UInt16) (valueSize : Nat) : ATTClass :=
  { att with
    longWriteHandle := handle
    longWriteValue := List.replicate valueSize 0
    longWriteValueLength := 0 }

/-- `memcpy` into the buffer behind what is there. -/
def ATTClass.addLongWrite (att : ATTClass) (offset : Nat) (value : List UInt8) : ATTClass :=
  { att with
    longWriteValue := att.longWriteValue.take offset ++ value ++
      att.longWriteValue.drop (offset + value.length)
    longWriteValueLength := att.longWriteValueLength + UInt16.ofNat value.length }

def prepWriteReq (s : Server) (connectionHandle : UInt16) (dlen : UInt8) (data : Data) :
    Option (Server × List Effect) :=
  let refused (s : Server) (handle : UInt16) (code : UInt8) : Server × List Effect :=
    (s, sendError connectionHandle ATT_OP_PREP_WRITE_REQ handle code)
  if dlen < 4 then some (refused s 0x0000 ATT_ECODE_INVALID_PDU)
  else
    let handle := word16 data 0
    let offset := word16 data 2
    if (handle - 1).toNat > g.attributeCount then some (refused s handle ATT_ECODE_ATTR_NOT_FOUND)
    else
      match g.attributeBefore handle 1 with
      | none => none
      | some (.characteristic c) =>
        if handle ≠ g.valueHandle c then some (refused s handle ATT_ECODE_ATTR_NOT_LONG)
        else if (o.characteristic c).properties &&& BLEWrite = 0 then
          some (refused s handle ATT_ECODE_WRITE_NOT_PERM)
        else if s.att.longWriteHandle ≠ 0 ∧ s.att.longWriteHandle ≠ handle then
          some (refused s handle ATT_ECODE_UNLIKELY)
        else
          let valueSize := (o.characteristic c).valueSize
          let s :=
            if s.att.longWriteHandle = 0 then
              { s with att := s.att.beginLongWrite handle valueSize }
            else s
          let value := slice data 4 (dlen - 4).toNat
          if offset ≠ s.att.longWriteValueLength ∨ offset.toNat + value.length > valueSize then
            -- a long write that was begun above stays begun
            some (refused s handle ATT_ECODE_INVALID_OFFSET)
          else
            some ({ s with att := s.att.addLongWrite offset.toNat value },
              [.sendAclPkt connectionHandle (ATT_OP_PREP_WRITE_RESP :: slice data 0 dlen.toNat)])
      | some _ => some (refused s handle ATT_ECODE_ATTR_NOT_LONG)

def ATTClass.endLongWrite (att : ATTClass) : ATTClass :=
  { att with longWriteHandle := 0x0000, longWriteValueLength := 0 }

def execWriteReq (s : Server) (connectionHandle : UInt16) (dlen : UInt8) (data : Data) :
    Option (Server × List Effect) :=
  let done (q : Server × List Effect) : Server × List Effect :=
    ({ q.1 with att := q.1.att.endLongWrite },
      q.2 ++ [.sendAclPkt connectionHandle [ATT_OP_EXEC_WRITE_RESP]])
  if dlen ≠ 1 then
    some (s, sendError connectionHandle ATT_OP_EXEC_WRITE_REQ 0x0000 ATT_ECODE_INVALID_PDU)
  else if s.att.longWriteHandle ≠ 0 ∧ data 0 &&& 0x01 ≠ 0 then
    match g.attributeBefore s.att.longWriteHandle 1 with
    | some (.characteristic c) =>
      if connectionHandle = s.att.connectionHandle then
        some (done (s.writeFrom o g c
          (s.att.longWriteValue.take s.att.longWriteValueLength.toNat)))
      else some (done (s, []))
    | _ => none
  else some (done (s, []))

/-! ## The system -/

/-- A packet on the channel of the attributes. -/
def handleData (s : Server) (connectionHandle : UInt16) (dlen : UInt8) (data : Data) :
    Option (Server × List Effect) :=
  let opcode := data 0
  let dlen := dlen - 1
  let data : Data := fun i => data (i + 1)
  if opcode = ATT_OP_MTU_REQ then some (mtuReq s connectionHandle dlen data)
  else if opcode = ATT_OP_FIND_INFO_REQ then some (s, findInfoReq o g s connectionHandle dlen data)
  else if opcode = ATT_OP_FIND_BY_TYPE_REQ then
    some (s, findByTypeReq o g s connectionHandle dlen data)
  else if opcode = ATT_OP_READ_BY_TYPE_REQ then
    some (s, readByTypeReq o g s connectionHandle dlen data)
  else if opcode = ATT_OP_READ_BY_GROUP_REQ then
    some (s, readByGroupReq o g s connectionHandle dlen data)
  else if opcode = ATT_OP_READ_REQ ∨ opcode = ATT_OP_READ_BLOB_REQ then
    (readOrReadBlobReq o g s connectionHandle opcode dlen data).map (s, ·)
  else if opcode = ATT_OP_WRITE_REQ ∨ opcode = ATT_OP_WRITE_CMD then
    writeReqOrCmd o g s connectionHandle opcode dlen data
  else if opcode = ATT_OP_PREP_WRITE_REQ then prepWriteReq o g s connectionHandle dlen data
  else if opcode = ATT_OP_EXEC_WRITE_REQ then execWriteReq o g s connectionHandle dlen data
  -- `handleCnf` only ends the wait of `handleInd`
  else if opcode = ATT_OP_HANDLE_CNF then some (s, [])
  else some (s, sendError connectionHandle opcode 0x0000 ATT_ECODE_REQ_NOT_SUPP)

/-- Only a connection in which the board is the peripheral counts. -/
def addConnection (s : Server) (handle : UInt16) (role : UInt8) : Server × List Effect :=
  if role = 1 then
    ({ s with att := { s.att with connectionHandle := handle, mtu := 23 } }, [.connected handle])
  else (s, [])

/-- One turn of the loop that clears the CCCDs. -/
def clearCccd (q : Server × List Effect) (a : BLEAttribute) : Server × List Effect :=
  match a with
  | .characteristic c =>
    let r := q.1.writeCccdValue c 0x0000
    (r.1, q.2 ++ r.2)
  | _ => q

/-- The handle of the event is cut to a byte, that of the connection is not. -/
def removeConnection (s : Server) (handle : UInt8) : Server × List Effect :=
  if s.att.connectionHandle = handle.toUInt16 then
    let q := g.attributes.foldl clearCccd (s, [])
    ({ q.1 with att := { q.1.att.endLongWrite with connectionHandle := 0xffff } },
      q.2 ++ [.disconnected s.att.connectionHandle])
  else (s, [])

/-- `disconnect` of the sketch; `taken` when the radio takes the command. -/
def disconnect (s : Server) (taken : Bool) : Server :=
  if s.att.connectionHandle ≠ 0xffff ∧ taken then
    { s with att := { s.att with connectionHandle := 0xffff } }
  else s

/-- What happens to the server. -/
inductive Input where
  | handleData (connectionHandle : UInt16) (dlen : UInt8) (data : Data)
  | addConnection (handle : UInt16) (role : UInt8)
  | removeConnection (handle : UInt8)
  | disconnect (taken : Bool)
  | writeValue (c : Nat) (value : List UInt8)

def respond (s : Server) : Input → Option (Server × List Effect)
  | .handleData connectionHandle dlen data => handleData o g s connectionHandle dlen data
  | .addConnection handle role => some (addConnection s handle role)
  | .removeConnection handle => some (removeConnection g s handle)
  | .disconnect taken => some (disconnect s taken, [])
  | .writeValue c value => some (s.writeValue o g c value)

end Requests

end super_charger.ble
