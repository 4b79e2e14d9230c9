-- All that can come of one packet, connection or call of the sketch, as one
-- case analysis of the attribute server.
import SuperCharger.Att

namespace super_charger.ble

open arduino

/-! ## What one input can do -/

/-- A central may write the value in one of the two ways. -/
def Writable (o : Objects) (c : Nat) : Prop :=
  (o.characteristic c).properties &&& BLEWrite ≠ 0 ∨
    (o.characteristic c).properties &&& BLEWriteWithoutResponse ≠ 0

/-- The handle of a value that takes long writes. -/
structure WriteTarget (o : Objects) (g : GATTClass) (handle : UInt16) (c : Nat) : Prop where
  stands : g.attributeBefore handle 1 = some (.characteristic c)
  handle : handle = g.valueHandle c
  write : (o.characteristic c).properties &&& BLEWrite ≠ 0

/-- The packets that tell of a long write, and those that nobody asked for. -/
def telling : List UInt8 :=
  [ATT_OP_PREP_WRITE_RESP, ATT_OP_EXEC_WRITE_RESP, ATT_OP_HANDLE_NOTIFY, ATT_OP_HANDLE_IND]

/-- An effect that tells of no value but to one who asks, in no more bytes than agreed. -/
def Effect.Quiet (mtu : UInt16) : Effect → Prop
  | .sendAclPkt _ (op :: rest) => op ∉ telling ∧ (23 ≤ mtu.toNat → rest.length < mtu.toNat)
  | .read _ => True
  | _ => False

def Quiet (mtu : UInt16) (effects : List Effect) : Prop := ∀ e ∈ effects, e.Quiet mtu

/-- The long write that a request for this handle adds to. -/
def ATTClass.draftFor (att : ATTClass) (handle : UInt16) (valueSize : Nat) : ATTClass :=
  if att.longWriteHandle = 0 then att.beginLongWrite handle valueSize else att

/-- All that can come of an input in a state. -/
inductive Does (o : Objects) (g : GATTClass) (s : Server) : Input → Server × List Effect → Prop
  | told {i : Input} {effects : List Effect} (hquiet : Quiet s.att.mtu effects) :
      Does o g s i (s, effects)
  | mtu {connectionHandle : UInt16} {dlen : UInt8} {data : Data} {mtu : UInt16}
      (hop : data 0 = ATT_OP_MTU_REQ)
      (hmtu : mtu = if word16 data 1 > s.att.maxMtu then s.att.maxMtu else word16 data 1) :
      Does o g s (.handleData connectionHandle dlen data)
        ({ s with att := { s.att with mtu } },
          [.sendAclPkt connectionHandle (ATT_OP_MTU_RESP :: bytes16 mtu)])
  | wrote {dlen : UInt8} {data : Data} {c : Nat} {value : List UInt8} {tail : List Effect}
      (hwritable : Writable o c) (hquiet : Quiet s.att.mtu tail) :
      Does o g s (.handleData s.att.connectionHandle dlen data)
        ((s.writeFrom o g c value).1, (s.writeFrom o g c value).2 ++ tail)
  | subscribed {dlen : UInt8} {data : Data} {c : Nat} {value : UInt16} {tail : List Effect}
      (hstands : .characteristic c ∈ g.attributes) (hquiet : Quiet s.att.mtu tail) :
      Does o g s (.handleData s.att.connectionHandle dlen data)
        ((s.writeCccdValue c value).1, (s.writeCccdValue c value).2 ++ tail)
  | began {connectionHandle handle : UInt16} {dlen : UInt8} {data : Data} {c : Nat}
      (htarget : WriteTarget o g handle c) (hfree : s.att.longWriteHandle = 0) :
      Does o g s (.handleData connectionHandle dlen data)
        ({ s with att := s.att.beginLongWrite handle (o.characteristic c).valueSize },
          sendError connectionHandle ATT_OP_PREP_WRITE_REQ handle ATT_ECODE_INVALID_OFFSET)
  | prepared {connectionHandle handle : UInt16} {dlen : UInt8} {data : Data} {c : Nat}
      {att : ATTClass} {value : List UInt8} (htarget : WriteTarget o g handle c)
      (hatt : att = s.att.draftFor handle (o.characteristic c).valueSize)
      (hhandle : s.att.longWriteHandle = 0 ∨ s.att.longWriteHandle = handle)
      (hfits : att.longWriteValueLength.toNat + value.length ≤ (o.characteristic c).valueSize)
      (hop : data 0 = ATT_OP_PREP_WRITE_REQ) (hlength : (dlen - 1).toNat = 4 + value.length) :
      Does o g s (.handleData connectionHandle dlen data)
        ({ s with att := att.addLongWrite att.longWriteValueLength.toNat value },
          [.sendAclPkt connectionHandle (ATT_OP_PREP_WRITE_RESP :: bytes16 handle ++
            bytes16 att.longWriteValueLength ++ value)])
  | executed {dlen : UInt8} {data : Data} {c : Nat} {q : Server × List Effect}
      (hhandle : s.att.longWriteHandle ≠ 0)
      (hattribute : g.attributeBefore s.att.longWriteHandle 1 = some (.characteristic c))
      (hq : q = s.writeFrom o g c (s.att.longWriteValue.take s.att.longWriteValueLength.toNat)) :
      Does o g s (.handleData s.att.connectionHandle dlen data)
        ({ q.1 with att := q.1.att.endLongWrite },
          q.2 ++ [.sendAclPkt s.att.connectionHandle [ATT_OP_EXEC_WRITE_RESP]])
  | dropped {connectionHandle : UInt16} {dlen : UInt8} {data : Data} :
      Does o g s (.handleData connectionHandle dlen data)
        ({ s with att := s.att.endLongWrite },
          [.sendAclPkt connectionHandle [ATT_OP_EXEC_WRITE_RESP]])
  | connected {handle : UInt16} {role : UInt8} :
      Does o g s (.addConnection handle role)
        ({ s with att := { s.att with connectionHandle := handle, mtu := 23 } },
          [.connected handle])
  | removed {handle : UInt8} (h : s.att.connectionHandle = handle.toUInt16) :
      Does o g s (.removeConnection handle) (removeConnection g s handle)
  | left {taken : Bool} : Does o g s (.disconnect taken) (disconnect s taken, [])
  | stored {c : Nat} {value : List UInt8} :
      Does o g s (.writeValue c value) (s.writeValue o g c value)

section Does

variable {o : Objects} {g : GATTClass} {s : Server} {connectionHandle : UInt16} {dlen : UInt8}
  {data : Data}

theorem quiet_send {mtu : UInt16} {op : UInt8} {bytes : List UInt8} (hop : op ∉ telling)
    (hlength : 23 ≤ mtu.toNat → bytes.length < mtu.toNat) :
    Quiet mtu [.sendAclPkt connectionHandle (op :: bytes)] := by
  intro e he
  obtain rfl := List.mem_singleton.mp he
  exact ⟨hop, hlength⟩

theorem quiet_nil {mtu : UInt16} : Quiet mtu [] := fun _ he => absurd he List.not_mem_nil

theorem quiet_sendError {mtu : UInt16} {opcode code : UInt8} {handle : UInt16} :
    Quiet mtu (sendError connectionHandle opcode handle code) :=
  quiet_send (by decide) (fun hmtu => Nat.lt_of_lt_of_le (by decide : 4 < 23) hmtu)

theorem quiet_answer {mtu : UInt16} {req resp : UInt8} {startHandle : UInt16} {r : Response}
    (hop : resp ∉ telling) (hlength : 23 ≤ mtu.toNat → 2 + r.bytes.length ≤ mtu.toNat) :
    Quiet mtu (answer connectionHandle req resp startHandle r) := by
  unfold answer
  split
  · exact quiet_sendError
  · refine quiet_send hop fun hmtu => ?_
    have := hlength hmtu
    rw [List.length_cons]
    omega

/-! ### Room -/

/-- How a turn leaves the list. -/
def Turn.Keeps (I J : Response → Prop) : Turn → Prop
  | .go r => I r
  | .skip r => I r
  | .stop r => J r

/-- What a loop over the table keeps. -/
theorem keeps_overAttributes {I J : Response → Prop} (hstop : ∀ r, I r → J r)
    {endHandle : UInt16} {body : UInt16 → BLEAttribute → Response → Turn}
    (hbody : ∀ handle a r, I r → (body handle a r).Keeps I J)
    {i : Nat} {as : List BLEAttribute} {r : Response} (h : I r) :
    J (overAttributes endHandle body i as r) := by
  fun_induction overAttributes endHandle body i as r with
  | case1 i r => exact hstop r h
  | case2 i a rest r hi r' hgo ih =>
    have hturn := hbody (UInt16.ofNat (i + 1)) a r h
    rw [hgo] at hturn
    exact ih hturn
  | case3 i a r hi r' hskip =>
    have hturn := hbody (UInt16.ofNat (i + 1)) a r h
    rw [hskip] at hturn
    exact hstop r' hturn
  | case4 i a r hi r' hskip b rest ih =>
    have hturn := hbody (UInt16.ofNat (i + 1)) a r h
    rw [hskip] at hturn
    exact ih hturn
  | case5 i a rest r hi r' hstopped =>
    have hturn := hbody (UInt16.ofNat (i + 1)) a r h
    rw [hstopped] at hturn
    exact hturn
  | case6 i a rest r hi => exact hstop r h

/-- There is room for one more entry of the kind that the list has. -/
structure Response.Roomy (size : UInt8 → Nat) (mtu : UInt16) (r : Response) : Prop where
  fits : 2 + r.bytes.length ≤ mtu.toNat
  next : r.kind ≠ 0 → 2 + r.bytes.length + size r.kind ≤ mtu.toNat
  fresh : r.kind = 0 → r.bytes = []

theorem keeps_addEntry {size : UInt8 → Nat} {mtu : UInt16} (hmtu : 23 ≤ mtu.toNat) {kind : UInt8}
    {room : Nat} {entry : List UInt8} {r : Response} (h : r.Roomy size mtu) (hkind : kind ≠ 0)
    (hroom : size kind = room) (hentry : entry.length ≤ room) (hsmall : room ≤ 21) :
    (addEntry mtu kind room entry r).Keeps (Response.Roomy size mtu)
      fun r => 2 + r.bytes.length ≤ mtu.toNat := by
  have hfits : (if r.kind = 0 then kind else r.kind) = kind →
      2 + (r.bytes ++ entry).length ≤ mtu.toNat := by
    intro hsame
    rw [List.length_append]
    by_cases hfirst : r.kind = 0
    · rw [h.fresh hfirst, List.length_nil]
      omega
    · have hnext := h.next hfirst
      rw [if_neg hfirst] at hsame
      rw [hsame, hroom] at hnext
      omega
  unfold addEntry
  dsimp only
  by_cases hsame : (if r.kind = 0 then kind else r.kind) = kind
  · rw [if_neg (not_not.mpr hsame), hsame]
    split
    · exact hfits hsame
    · rename_i hmore
      exact
        { fits := hfits hsame
          next := fun _ => hroom.symm ▸ Nat.not_lt.mp hmore
          fresh := fun hzero => absurd hzero hkind }
  · rw [if_pos hsame]
    exact h.fits

theorem Turn.Keeps.skipNext {I J : Response → Prop} {t : Turn} (h : t.Keeps I J) :
    t.skipNext.Keeps I J := by
  cases t <;> exact h

theorem roomy_empty {size : UInt8 → Nat} {mtu : UInt16} (hmtu : 23 ≤ mtu.toNat) :
    ({ kind := 0, bytes := [] } : Response).Roomy size mtu where
  fits := Nat.le_trans (by decide : 2 ≤ 23) hmtu
  next h := absurd rfl h
  fresh _ := rfl

/-- The bytes that the loop over the table collects fit behind the two of the response. -/
theorem length_overHandles (size : UInt8 → Nat) {mtu : UInt16} (hmtu : 23 ≤ mtu.toNat)
    {startHandle endHandle : UInt16} {body : UInt16 → BLEAttribute → Response → Turn}
    (hbody : ∀ handle a r, r.Roomy size mtu →
      (body handle a r).Keeps (Response.Roomy size mtu) fun r => 2 + r.bytes.length ≤ mtu.toNat) :
    2 + (g.overHandles startHandle endHandle body).bytes.length ≤ mtu.toNat :=
  keeps_overAttributes (fun _ h => h.fits) hbody (roomy_empty hmtu)

theorem length_bytes16 (v : UInt16) : (bytes16 v).length = 2 := rfl

theorem keeps_findInfoTurn {mtu handle : UInt16} {a : BLEAttribute} {r : Response}
    (hmtu : 23 ≤ mtu.toNat) (h : r.Roomy (fun k => if k = 0x01 then 4 else 18) mtu) :
    (findInfoTurn o g mtu handle a r).Keeps (Response.Roomy (fun k => if k = 0x01 then 4 else 18) mtu)
      fun r => 2 + r.bytes.length ≤ mtu.toNat := by
  have hlength := (o.uuid a).length_data
  unfold findInfoTurn
  dsimp only
  by_cases hvalue : isValueHandle g handle a
  · rw [if_pos hvalue]
    refine keeps_addEntry hmtu h (by decide) rfl ?_ (by decide)
    rw [if_pos (.inl hvalue), List.length_append, List.length_take, length_bytes16]
    omega
  · rw [if_neg hvalue]
    have hshown : (if isValueHandle g handle a ∨ a.type = BLETypeDescriptor then
        (o.uuid a).data.take (o.uuid a).data.length else bytes16 a.type).length ≤
          (o.uuid a).data.length := by
      split
      · exact List.length_take_le _ _
      · rw [length_bytes16]
        omega
    rcases hlength with hlength | hlength
    all_goals
      rw [hlength] at hshown ⊢
      refine keeps_addEntry hmtu h (by decide) rfl ?_ (by decide)
      rw [List.length_append, length_bytes16]
      exact Nat.add_le_add_left hshown 2

theorem quiet_findInfoReq : Quiet s.att.mtu (findInfoReq o g s connectionHandle dlen data) := by
  unfold findInfoReq
  dsimp only
  split
  · exact quiet_sendError
  · exact quiet_answer (by decide) fun hmtu =>
      length_overHandles _ hmtu fun _ _ _ h => keeps_findInfoTurn hmtu h

/-- Here there is always room for one more. -/
theorem keeps_findByTypeTurn {mtu : UInt16} {value : List UInt8} {a : BLEAttribute} {r : Response}
    (h : 1 + r.bytes.length + 4 ≤ mtu.toNat) :
    (findByTypeTurn o g mtu value a r).Keeps (fun r => 1 + r.bytes.length + 4 ≤ mtu.toNat)
      fun r => 1 + r.bytes.length ≤ mtu.toNat := by
  have hone : ∀ r' : Response, r'.bytes.length ≤ r.bytes.length + 4 →
      (if 1 + r'.bytes.length + 4 > mtu.toNat then Turn.stop r' else .go r').Keeps
        (fun r => 1 + r.bytes.length + 4 ≤ mtu.toNat) fun r => 1 + r.bytes.length ≤ mtu.toNat := by
    intro r' hr'
    split
    · exact (by omega : 1 + r'.bytes.length ≤ mtu.toNat)
    · exact (by omega : 1 + r'.bytes.length + 4 ≤ mtu.toNat)
  unfold findByTypeTurn
  refine hone _ ?_
  split
  · split
    · simp only [List.length_append, length_bytes16]
      omega
    · exact Nat.le_add_right _ 4
  · exact Nat.le_add_right _ 4

theorem quiet_findByTypeReq : Quiet s.att.mtu (findByTypeReq o g s connectionHandle dlen data) := by
  unfold findByTypeReq
  dsimp only
  split
  · exact quiet_sendError
  split
  · exact quiet_sendError
  refine quiet_send (by decide) fun hmtu => ?_
  unfold findByTypeLoop
  split
  · have hall : 1 + (g.overHandles (word16 data 0) (word16 data 2)
        fun _ => findByTypeTurn o g s.att.mtu (slice data 6 (dlen - 6).toNat)).bytes.length ≤
          s.att.mtu.toNat :=
      keeps_overAttributes (I := fun r => 1 + r.bytes.length + 4 ≤ s.att.mtu.toNat)
        (fun _ h => Nat.le_of_add_right_le h) (fun _ _ _ h => keeps_findByTypeTurn h)
        (Nat.le_trans (by decide : 5 ≤ 23) hmtu)
    omega
  · exact Nat.lt_of_lt_of_le (by decide : 0 < 23) hmtu

theorem keeps_readByTypeTurn {uuid handle : UInt16} {a : BLEAttribute} {r : Response}
    (hmtu : 23 ≤ s.att.mtu.toNat) (h : r.Roomy (fun k => if k = 7 then 7 else 21) s.att.mtu) :
    (readByTypeTurn o g s uuid handle a r).Keeps
      (Response.Roomy (fun k => if k = 7 then 7 else 21) s.att.mtu)
      fun r => 2 + r.bytes.length ≤ s.att.mtu.toNat := by
  unfold readByTypeTurn
  split
  · cases a with
    | characteristic c =>
      dsimp only
      split
      · exact h
      rcases (o.characteristic c).uuid.length_data with hlength | hlength
      · rw [if_pos hlength]
        exact (keeps_addEntry hmtu h (by decide) rfl (by simp [hlength, length_bytes16])
          (by decide)).skipNext
      · rw [if_neg (by omega)]
        exact (keeps_addEntry hmtu h (by decide) rfl (by simp [hlength, length_bytes16])
          (by decide)).skipNext
    | service sv => exact h
    | descriptor d => exact h
  · cases a with
    | characteristic c =>
      dsimp only
      split
      · have hroom : 2 + (r.bytes ++ bytes16 handle).length ≤ s.att.mtu.toNat := by
          rw [List.length_append, length_bytes16]
          by_cases hkind : r.kind = 0
          · rw [h.fresh hkind]
            exact Nat.le_trans (by decide) hmtu
          · have hnext := h.next hkind
            split at hnext <;> omega
        change 2 + List.length (_ ++ List.take _ _) ≤ s.att.mtu.toNat
        generalize r.bytes ++ bytes16 handle = bytes at hroom ⊢
        have hof : (UInt16.ofNat (2 + bytes.length)).toNat = 2 + bytes.length :=
          UInt16.toNat_ofNat_of_lt' (Nat.lt_of_le_of_lt hroom s.att.mtu.toNat_lt)
        have hsub : (s.att.mtu - UInt16.ofNat (2 + bytes.length)).toNat =
            s.att.mtu.toNat - (2 + bytes.length) := by
          rw [UInt16.toNat_sub_of_le, hof]
          rw [UInt16.le_iff_toNat_le, hof]
          exact hroom
        rw [hsub, List.length_append, List.length_take]
        omega
      · exact h
    | service sv => exact h
    | descriptor d => exact h

theorem quiet_readByTypeReq : Quiet s.att.mtu (readByTypeReq o g s connectionHandle dlen data) := by
  unfold readByTypeReq
  dsimp only
  split
  · exact quiet_sendError
  · exact quiet_answer (by decide) fun hmtu =>
      length_overHandles _ hmtu fun _ _ _ h => keeps_readByTypeTurn hmtu h

theorem quiet_readByGroupReq : Quiet s.att.mtu (readByGroupReq o g s connectionHandle dlen data) := by
  unfold readByGroupReq
  dsimp only
  split
  · exact quiet_sendError
  refine quiet_answer (by decide) fun hmtu => ?_
  refine length_overHandles (fun k => if k = 6 then 6 else 20) hmtu fun handle a r h => ?_
  unfold readByGroupTurn
  split
  · exact h
  cases a with
  | service sv =>
    dsimp only
    rcases (o.service sv).uuid.length_data with hlength | hlength
    · rw [if_pos hlength]
      exact keeps_addEntry hmtu h (by decide) rfl (by simp [hlength, length_bytes16]) (by decide)
    · rw [if_neg (by omega)]
      exact keeps_addEntry hmtu h (by decide) rfl (by simp [hlength, length_bytes16]) (by decide)
  | characteristic c => exact h
  | descriptor d => exact h

theorem length_valueAt {mtu : UInt16} (hmtu : 23 ≤ mtu.toNat) (value : List UInt8) (offset : Nat) :
    (valueAt mtu value offset).length < mtu.toNat := by
  unfold valueAt
  rw [List.length_take]
  omega

theorem quiet_readOrReadBlobReq {opcode : UInt8} {effects : List Effect}
    (h : readOrReadBlobReq o g s connectionHandle opcode dlen data = some effects) :
    Quiet s.att.mtu effects := by
  have hread : ∀ (c : Nat) {bytes : List Effect}, Quiet s.att.mtu bytes →
      Quiet s.att.mtu (.read c :: bytes) := by
    intro c bytes hbytes e he
    rcases List.mem_cons.mp he with rfl | he
    · trivial
    · exact hbytes e he
  unfold readOrReadBlobReq at h
  dsimp only at h
  generalize hop : (if opcode = ATT_OP_READ_REQ then ATT_OP_READ_RESP else ATT_OP_READ_BLOB_RESP) =
    op at h
  have htelling : op ∉ telling := by
    rw [← hop]
    split <;> decide
  generalize (if opcode = ATT_OP_READ_REQ then (2 : UInt8) else 4) = length at h
  generalize (if opcode = ATT_OP_READ_REQ then (0 : UInt16) else word16 data 2) = offset at h
  split at h
  · cases h
    exact quiet_sendError
  split at h
  · cases h
    exact quiet_sendError
  split at h
  · cases h
  · rename_i sv hsv
    have huuid := (o.service sv).uuid.length_data
    split at h
    · cases h
      exact quiet_sendError
    · cases h
      exact quiet_send htelling fun hmtu => by omega
  · rename_i c hc
    have huuid := (o.characteristic c).uuid.length_data
    split at h
    · split at h
      · cases h
        exact quiet_sendError
      · cases h
        refine quiet_send htelling fun hmtu => ?_
        change ((o.characteristic c).properties :: bytes16 (g.valueHandle c) ++
          (o.characteristic c).uuid.data).length < s.att.mtu.toNat
        rw [List.length_append, List.length_cons, length_bytes16]
        omega
    split at h
    · cases h
      exact quiet_sendError
    split at h
    · cases h
      exact quiet_sendError
    · cases h
      exact hread c (quiet_send htelling fun hmtu => length_valueAt hmtu _ _)
  · split at h
    · cases h
      exact quiet_sendError
    · cases h
      exact quiet_send htelling fun hmtu => length_valueAt hmtu _ _

theorem mem_of_attributeBefore {handle : UInt16} {k : Nat} {a : BLEAttribute}
    (h : g.attributeBefore handle k = some a) : a ∈ g.attributes := by
  unfold GATTClass.attributeBefore at h
  split at h
  · exact List.mem_of_getElem? h
  · cases h

theorem writable_of_not_denied {withResponse : Bool} {handle : UInt16} {c : Nat}
    (h : ¬ writeDenied o g withResponse handle c) : Writable o c := by
  unfold writeDenied at h
  split at h
  · exact .inl (by simpa using h)
  · exact .inr (by simpa using h)

variable {i : Input} {q : Server × List Effect}

theorem does_writeReqOrCmd {op dlen' : UInt8} {data' : Data}
    (h : writeReqOrCmd o g s connectionHandle op dlen' data' = some q) :
    Does o g s (.handleData connectionHandle dlen data) q := by
  have hrefused : ∀ (b : Prop) [Decidable b] handle code, Quiet s.att.mtu
      (if b then sendError connectionHandle ATT_OP_WRITE_REQ handle code else []) := by
    intro b _ handle code
    split
    · exact quiet_sendError
    · exact quiet_nil
  have hdone : ∀ (b : Prop) [Decidable b], Quiet s.att.mtu
      (if b then [.sendAclPkt connectionHandle [ATT_OP_WRITE_RESP]] else []) := by
    intro b _
    split
    · exact quiet_send (by decide) fun hmtu => Nat.lt_of_lt_of_le (by decide : 0 < 23) hmtu
    · exact quiet_nil
  unfold writeReqOrCmd at h
  dsimp only at h
  by_cases hshort : dlen' < 2
  · rw [if_pos hshort] at h
    obtain rfl := Option.some.inj h
    exact .told (hrefused _ _ _)
  rw [if_neg hshort] at h
  by_cases hbehind : (word16 data' 0 - 1).toNat > g.attributeCount
  · rw [if_pos hbehind] at h
    obtain rfl := Option.some.inj h
    exact .told (hrefused _ _ _)
  rw [if_neg hbehind] at h
  split at h
  · cases h
  · obtain rfl := Option.some.inj h
    exact .told (hrefused _ _ _)
  · rename_i c hc
    by_cases hdenied : writeDenied o g (decide (op = ATT_OP_WRITE_REQ)) (word16 data' 0) c
    · rw [if_pos hdenied] at h
      obtain rfl := Option.some.inj h
      exact .told (hrefused _ _ _)
    · rw [if_neg hdenied] at h
      by_cases hconnected : connectionHandle = s.att.connectionHandle
      · rw [if_pos hconnected] at h
        obtain rfl := Option.some.inj h
        obtain rfl := hconnected
        exact .wrote (writable_of_not_denied hdenied) (hdone _)
      · rw [if_neg hconnected] at h
        obtain rfl := Option.some.inj h
        exact .told (hdone _)
  · rename_i d hd
    by_cases hcccd : (o.uuid (.descriptor d)).data ≠ cccdUuid.data
    · rw [if_pos hcccd] at h
      obtain rfl := Option.some.inj h
      exact .told (hrefused _ _ _)
    · rw [if_neg hcccd] at h
      split at h
      · cases h
      · rename_i c hc
        by_cases hconnected : connectionHandle = s.att.connectionHandle
        · rw [if_pos hconnected] at h
          obtain rfl := Option.some.inj h
          obtain rfl := hconnected
          exact .subscribed (mem_of_attributeBefore hc) (hdone _)
        · rw [if_neg hconnected] at h
          obtain rfl := Option.some.inj h
          exact .told (hdone _)
      · obtain rfl := Option.some.inj h
        exact .told (hrefused _ _ _)

theorem length_slice (data : Data) (i n : Nat) : (slice data i n).length = n := by
  rw [slice, List.length_map, List.length_range]

theorem slice_append (data : Data) (i n m : Nat) :
    slice data i (n + m) = slice data i n ++ slice data (i + n) m := by
  unfold slice
  rw [List.range_add, List.map_append, List.map_map]
  refine congrArg _ (List.map_congr_left fun k _ => ?_)
  rw [Function.comp_apply, Nat.add_assoc]

theorem slice_word16 (data : Data) (i : Nat) : slice data i 2 = bytes16 (word16 data i) := by
  have hlow : lowByte (word16 data i) = data i := by
    rw [← UInt8.toNat_inj, toNat_lowByte, word16, toNat_word]
    have := (data i).toNat_lt
    omega
  have hhigh : highByte (word16 data i) = data (i + 1) := by
    rw [← UInt8.toNat_inj, toNat_highByte, word16, toNat_word]
    have := (data i).toNat_lt
    omega
  rw [bytes16, hlow, hhigh]
  rfl

theorem does_prepWriteReq (hop : data 0 = ATT_OP_PREP_WRITE_REQ)
    (h : prepWriteReq o g s connectionHandle (dlen - 1) (fun i => data (i + 1)) = some q) :
    Does o g s (.handleData connectionHandle dlen data) q := by
  generalize hdlen' : dlen - 1 = dlen' at h
  generalize (fun i => data (i + 1)) = data' at h
  unfold prepWriteReq at h
  dsimp only at h
  by_cases hshort : dlen' < 4
  · rw [if_pos hshort] at h
    obtain rfl := Option.some.inj h
    exact .told quiet_sendError
  rw [if_neg hshort] at h
  by_cases hbehind : (word16 data' 0 - 1).toNat > g.attributeCount
  · rw [if_pos hbehind] at h
    obtain rfl := Option.some.inj h
    exact .told quiet_sendError
  rw [if_neg hbehind] at h
  split at h
  · cases h
  · rename_i c hc
    by_cases hvalue : word16 data' 0 ≠ g.valueHandle c
    · rw [if_pos hvalue] at h
      obtain rfl := Option.some.inj h
      exact .told quiet_sendError
    rw [if_neg hvalue] at h
    by_cases hwrite : (o.characteristic c).properties &&& BLEWrite = 0
    · rw [if_pos hwrite] at h
      obtain rfl := Option.some.inj h
      exact .told quiet_sendError
    rw [if_neg hwrite] at h
    by_cases hother : s.att.longWriteHandle ≠ 0 ∧ s.att.longWriteHandle ≠ word16 data' 0
    · rw [if_pos hother] at h
      obtain rfl := Option.some.inj h
      exact .told quiet_sendError
    rw [if_neg hother] at h
    have htarget : WriteTarget o g (word16 data' 0) c := ⟨hc, not_not.mp hvalue, hwrite⟩
    have hstate : (if s.att.longWriteHandle = 0 then
        { s with att := s.att.beginLongWrite (word16 data' 0) (o.characteristic c).valueSize }
        else s) = { s with
          att := s.att.draftFor (word16 data' 0) (o.characteristic c).valueSize } := by
      unfold ATTClass.draftFor
      split <;> rfl
    rw [hstate] at h
    dsimp only at h
    generalize hatt : s.att.draftFor (word16 data' 0) (o.characteristic c).valueSize = att at h
    by_cases hfits : word16 data' 2 ≠ att.longWriteValueLength ∨ (word16 data' 2).toNat +
        (slice data' 4 (dlen' - 4).toNat).length > (o.characteristic c).valueSize
    · rw [if_pos hfits] at h
      obtain rfl := Option.some.inj h
      by_cases hfree : s.att.longWriteHandle = 0
      · have hbegun : att = s.att.beginLongWrite (word16 data' 0) (o.characteristic c).valueSize := by
          rw [← hatt, ATTClass.draftFor, if_pos hfree]
        rw [hbegun]
        exact .began htarget hfree
      · have hsame : att = s.att := by rw [← hatt, ATTClass.draftFor, if_neg hfree]
        rw [hsame]
        exact .told quiet_sendError
    · rw [if_neg hfits] at h
      obtain rfl := Option.some.inj h
      rw [not_or, not_not, Nat.not_lt] at hfits
      obtain ⟨hoffset, hsize⟩ := hfits
      have hlength : dlen'.toNat = 4 + (dlen' - 4).toNat := by
        have hge : (4 : UInt8) ≤ dlen' := UInt8.not_lt.mp hshort
        have hle : 4 ≤ dlen'.toNat := hge
        rw [UInt8.toNat_sub_of_le _ _ hge]
        change dlen'.toNat = 4 + (dlen'.toNat - 4)
        omega
      have hecho : slice data' 0 dlen'.toNat = bytes16 (word16 data' 0) ++
          bytes16 att.longWriteValueLength ++ slice data' 4 (dlen' - 4).toNat := by
        rw [hlength, slice_append, slice_append data' 0 2 2, slice_word16, slice_word16, ← hoffset]
      rw [hecho, hoffset]
      rw [hoffset] at hsize
      refine .prepared htarget hatt.symm ?_ hsize hop ?_
      · by_contra hnot
        rw [not_or] at hnot
        exact hother hnot
      · rw [hdlen', length_slice]
        exact hlength
  · obtain rfl := Option.some.inj h
    exact .told quiet_sendError

theorem does_execWriteReq {dlen' : UInt8} {data' : Data}
    (h : execWriteReq o g s connectionHandle dlen' data' = some q) :
    Does o g s (.handleData connectionHandle dlen data) q := by
  unfold execWriteReq at h
  dsimp only at h
  by_cases hlong : dlen' ≠ 1
  · rw [if_pos hlong] at h
    obtain rfl := Option.some.inj h
    exact .told quiet_sendError
  rw [if_neg hlong] at h
  by_cases hflag : s.att.longWriteHandle ≠ 0 ∧ data' 0 &&& 0x01 ≠ 0
  · rw [if_pos hflag] at h
    split at h
    · rename_i c hc
      by_cases hconnected : connectionHandle = s.att.connectionHandle
      · rw [if_pos hconnected] at h
        obtain rfl := Option.some.inj h
        obtain rfl := hconnected
        exact .executed hflag.1 hc rfl
      · rw [if_neg hconnected] at h
        obtain rfl := Option.some.inj h
        exact .dropped
    · cases h
  · rw [if_neg hflag] at h
    obtain rfl := Option.some.inj h
    exact .dropped

theorem does_handleData (h : handleData o g s connectionHandle dlen data = some q) :
    Does o g s (.handleData connectionHandle dlen data) q := by
  unfold handleData at h
  dsimp only at h
  split at h
  · rename_i hop
    obtain rfl := Option.some.inj h
    unfold mtuReq
    split
    · exact .told quiet_sendError
    · exact .mtu hop rfl
  split at h
  · obtain rfl := Option.some.inj h
    exact .told quiet_findInfoReq
  split at h
  · obtain rfl := Option.some.inj h
    exact .told quiet_findByTypeReq
  split at h
  · obtain rfl := Option.some.inj h
    exact .told quiet_readByTypeReq
  split at h
  · obtain rfl := Option.some.inj h
    exact .told quiet_readByGroupReq
  split at h
  · obtain ⟨effects, heffects, rfl⟩ := Option.map_eq_some_iff.mp h
    exact .told (quiet_readOrReadBlobReq heffects)
  split at h
  · exact does_writeReqOrCmd h
  split at h
  · rename_i hop
    exact does_prepWriteReq hop h
  split at h
  · exact does_execWriteReq h
  split at h
  · obtain rfl := Option.some.inj h
    exact .told quiet_nil
  · obtain rfl := Option.some.inj h
    exact .told quiet_sendError

theorem does_of_respond (h : respond o g s i = some q) : Does o g s i q := by
  cases i with
  | handleData connectionHandle dlen data => exact does_handleData h
  | addConnection handle role =>
    obtain rfl := Option.some.inj h
    unfold addConnection
    split
    · exact .connected
    · exact .told quiet_nil
  | removeConnection handle =>
    obtain rfl := Option.some.inj h
    by_cases hhandle : s.att.connectionHandle = handle.toUInt16
    · exact .removed hhandle
    · unfold removeConnection
      rw [if_neg hhandle]
      exact .told quiet_nil
  | disconnect taken =>
    obtain rfl := Option.some.inj h
    exact .left
  | writeValue c value =>
    obtain rfl := Option.some.inj h
    exact .stored

/-- What `writeValue` tells of its own accord: nothing, or the value to the central that
subscribed to it. -/
inductive Notice (g : GATTClass) (s : Server) (c : Nat) : List Effect → Prop
  | silent : Notice g s c []
  | sent {op : UInt8} {bytes : List UInt8} (hop : op = ATT_OP_HANDLE_NOTIFY ∨ op = ATT_OP_HANDLE_IND)
      (hsubscribed : (s.values c).cccdValue ≠ 0) (hconnected : s.att.connectionHandle ≠ 0xffff)
      (hfits : bytes.length ≤ (s.att.mtu - 3).toNat) :
      Notice g s c
        [.sendAclPkt s.att.connectionHandle (op :: bytes16 (g.valueHandle c) ++ bytes)]

theorem notice_handleValue {op : UInt8} (hop : op = ATT_OP_HANDLE_NOTIFY ∨ op = ATT_OP_HANDLE_IND)
    {c : Nat} (hsubscribed : (s.values c).cccdValue ≠ 0) (value : List UInt8) :
    Notice g s c (handleValue op s.att (g.valueHandle c) value) := by
  unfold handleValue
  split
  · rename_i hconnected
    refine .sent hop hsubscribed hconnected ?_
    rw [List.length_take]
    omega
  · exact .silent

theorem notice_writeValue (s : Server) (c : Nat) (value : List UInt8) :
    Notice g s c (s.writeValue o g c value).2 := by
  have hne : ∀ {v bits : UInt16}, v &&& bits ≠ 0 → v ≠ 0 := by
    rintro v bits h rfl
    exact h UInt16.zero_and
  unfold Server.writeValue
  dsimp only
  split
  · rename_i h
    exact notice_handleValue (.inr rfl) (hne h.2) _
  · split
    · rename_i h
      exact notice_handleValue (.inl rfl) (hne h.2) _
    · exact .silent

end Does

end super_charger.ble
