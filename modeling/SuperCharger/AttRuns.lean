-- Runs of the attribute server: what any order of packets, connections and
-- calls of the sketch leaves of long writes and of values.
import SuperCharger.AttSteps
import SuperCharger.History

namespace super_charger.ble

open arduino history

/-! ## Runs -/

/-- A run: the state that it ends in, and all that the outside saw. There is none where the server
does something that is not defined. -/
def play (o : Objects) (g : GATTClass) : Server → List Input → Option (Server × List Effect)
  | s, [] => some (s, [])
  | s, i :: is =>
    (respond o g s i).bind fun q => (play o g q.1 is).map fun r => (r.1, q.2 ++ r.2)

theorem play_cons {o : Objects} {g : GATTClass} {s : Server} {i : Input} {is : List Input}
    {r : Server × List Effect} (h : play o g s (i :: is) = some r) :
    ∃ q effects, respond o g s i = some q ∧ play o g q.1 is = some (r.1, effects) ∧
      r.2 = q.2 ++ effects := by
  obtain ⟨q, hq, hrest⟩ := Option.bind_eq_some_iff.mp h
  obtain ⟨r', hr', rfl⟩ := Option.map_eq_some_iff.mp hrest
  exact ⟨q, r'.2, hq, hr', rfl⟩

/-- The rule of the ghost: what every step keeps between the state and a summary of the effects so
far, a run keeps. -/
theorem play_tracks {o : Objects} {g : GATTClass} {γ : Type} {note : γ → Effect → γ}
    {R : Server → γ → Prop} {P : Input → Prop}
    (hstep : ∀ s x i q, P i → R s x → Does o g s i q → R q.1 (q.2.foldl note x))
    {s : Server} {x : γ} (h : R s x) {is : List Input} (hP : ∀ i ∈ is, P i)
    {r : Server × List Effect} (hplay : play o g s is = some r) : R r.1 (r.2.foldl note x) := by
  induction is generalizing s x r with
  | nil =>
    obtain rfl := Option.some.inj hplay
    exact h
  | cons i is ih =>
    obtain ⟨q, effects, hq, hrest, heffects⟩ := play_cons hplay
    have hfirst := hstep s x i q (hP i (by simp)) h (does_of_respond hq)
    rw [heffects, List.foldl_append]
    exact ih hfirst (fun j hj => hP j (by simp [hj])) hrest

theorem play_keeps {o : Objects} {g : GATTClass} {I : Server → Prop} {P : Input → Prop}
    (hstep : ∀ s i q, P i → I s → Does o g s i q → I q.1) {s : Server} (h : I s) {is : List Input}
    (hP : ∀ i ∈ is, P i) {r : Server × List Effect} (hplay : play o g s is = some r) : I r.1 :=
  @play_tracks o g Unit (fun _ _ => ()) (fun t _ => I t) P (fun t _ => hstep t) s () h is hP r hplay

/-! ## Long writes -/

/-- What a central was told that waits to be written, and for which handle: what the responses
repeated of its requests since the last one that ended a long write. -/
def echoed (d : UInt16 × List UInt8) : Effect → UInt16 × List UInt8
  | .sendAclPkt _ (op :: rest) =>
    if op = ATT_OP_EXEC_WRITE_RESP then (0, [])
    else if op = ATT_OP_PREP_WRITE_RESP then
      match rest with
      | low :: high :: _ :: _ :: value => (word high low, d.2 ++ value)
      | _ => d
    else d
  | .disconnected _ => (0, [])
  | _ => d

/-- The buffer holds what the central was told. -/
structure Draft (o : Objects) (g : GATTClass) (s : Server) (d : UInt16 × List UInt8) : Prop where
  told : d.1 ≠ 0 → d.1 = s.att.longWriteHandle
  untold : d.1 = 0 → d.2 = []
  free : s.att.longWriteHandle = 0 → d.2 = []
  target : s.att.longWriteHandle ≠ 0 → ∃ c, WriteTarget o g s.att.longWriteHandle c ∧
    d.2.length ≤ (o.characteristic c).valueSize ∧
      s.att.longWriteValue.length = (o.characteristic c).valueSize
  length : s.att.longWriteValueLength.toNat = d.2.length
  front : s.att.longWriteValue.take d.2.length = d.2

section Drafts

variable {o : Objects} {g : GATTClass} {s : Server} {d : UInt16 × List UInt8}

theorem echoed_of_ops {connectionHandle : UInt16} {op : UInt8} {bytes : List UInt8}
    (hprep : op ≠ ATT_OP_PREP_WRITE_RESP) (hexec : op ≠ ATT_OP_EXEC_WRITE_RESP) :
    echoed d (.sendAclPkt connectionHandle (op :: bytes)) = d :=
  (if_neg hexec).trans (if_neg hprep)

theorem echoed_of_quiet {mtu : UInt16} {effects : List Effect} (h : Quiet mtu effects)
    (d : UInt16 × List UInt8) : effects.foldl echoed d = d := by
  induction effects generalizing d with
  | nil => rfl
  | cons e effects ih =>
    have he : e.Quiet mtu := h e (by simp)
    have hsame : echoed d e = d := by
      cases e with
      | sendAclPkt handle data =>
        cases data with
        | nil => cases he
        | cons op rest =>
          refine echoed_of_ops ?_ ?_
          · rintro rfl
            exact he.1 (by decide)
          · rintro rfl
            exact he.1 (by decide)
      | read c => rfl
      | _ => cases he
    rw [List.foldl_cons, hsame]
    exact ih (fun e' he' => h e' (by simp [he'])) d

theorem echoed_sendError {connectionHandle handle : UInt16} {opcode code : UInt8} :
    (sendError connectionHandle opcode handle code).foldl echoed d = d := rfl

theorem echoed_prepared {connectionHandle handle offset : UInt16} {value : List UInt8} :
    echoed d (.sendAclPkt connectionHandle
      (ATT_OP_PREP_WRITE_RESP :: bytes16 handle ++ bytes16 offset ++ value)) =
        (handle, d.2 ++ value) := by
  have hword : echoed d (.sendAclPkt connectionHandle
      (ATT_OP_PREP_WRITE_RESP :: bytes16 handle ++ bytes16 offset ++ value)) =
        (word (highByte handle) (lowByte handle), d.2 ++ value) := rfl
  rw [hword, word_highByte_lowByte]

theorem echoed_of_notice {c : Nat} {effects : List Effect} (h : Notice g s c effects) :
    effects.foldl echoed d = d := by
  cases h with
  | silent => rfl
  | sent hop hsubscribed hconnected hfits =>
    have hbytes : ∀ op' bytes', op' = ATT_OP_HANDLE_NOTIFY ∨ op' = ATT_OP_HANDLE_IND →
        echoed d (.sendAclPkt s.att.connectionHandle (op' :: bytes')) = d := by
      rintro op' bytes' (rfl | rfl)
      · exact echoed_of_ops (by decide) (by decide)
      · exact echoed_of_ops (by decide) (by decide)
    exact hbytes _ _ hop

theorem echoed_writeFrom (s : Server) (c : Nat) (value : List UInt8) :
    (s.writeFrom o g c value).2.foldl echoed d = d := by
  unfold Server.writeFrom
  dsimp only
  rw [List.foldl_append, echoed_of_notice (notice_writeValue _ c value)]
  rfl

theorem echoed_writeCccdValue (s : Server) (c : Nat) (value : UInt16) :
    (s.writeCccdValue c value).2.foldl echoed d = d := by
  unfold Server.writeCccdValue
  dsimp only
  split
  · split <;> rfl
  · rfl

/-- A draft depends on nothing but the long write. -/
theorem Draft.congr {t : Server} (h : Draft o g s d)
    (hhandle : t.att.longWriteHandle = s.att.longWriteHandle)
    (hvalue : t.att.longWriteValue = s.att.longWriteValue)
    (hlength : t.att.longWriteValueLength = s.att.longWriteValueLength) : Draft o g t d where
  told := by rw [hhandle]; exact h.told
  untold := h.untold
  free := by rw [hhandle]; exact h.free
  target := by rw [hhandle, hvalue]; exact h.target
  length := by rw [hlength]; exact h.length
  front := by rw [hvalue]; exact h.front

theorem draft_none {s : Server} (hhandle : s.att.longWriteHandle = 0)
    (hlength : s.att.longWriteValueLength = 0) : Draft o g s (0, []) where
  told h := absurd rfl h
  untold _ := rfl
  free _ := rfl
  target h := absurd hhandle h
  length := by rw [hlength]; rfl
  front := rfl

theorem WriteTarget.ne_zero {handle : UInt16} {c : Nat} (h : WriteTarget o g handle c) :
    handle ≠ 0 := by
  rintro rfl
  have hnone : g.attributeBefore 0 1 = none := rfl
  rw [h.stands] at hnone
  cases hnone

theorem WriteTarget.unique {handle : UInt16} {c c' : Nat} (h : WriteTarget o g handle c)
    (h' : WriteTarget o g handle c') : c = c' := by
  have heq := h.stands.symm.trans h'.stands
  injection heq with heq
  injection heq

/-- The draft that a request adds to, be it new or old. -/
theorem Draft.draftFor (h : Draft o g s d) {handle : UInt16} {c : Nat}
    (htarget : WriteTarget o g handle c)
    (hhandle : s.att.longWriteHandle = 0 ∨ s.att.longWriteHandle = handle) :
    let att := s.att.draftFor handle (o.characteristic c).valueSize
    att.longWriteHandle = handle ∧ att.longWriteValueLength.toNat = d.2.length ∧
      att.longWriteValue.take d.2.length = d.2 ∧
        att.longWriteValue.length = (o.characteristic c).valueSize := by
  dsimp only
  unfold ATTClass.draftFor
  split
  · rename_i hfree
    rw [h.free hfree]
    exact ⟨rfl, rfl, rfl, List.length_replicate⟩
  · rename_i hbusy
    have hsame := hhandle.resolve_left hbusy
    obtain ⟨c', htarget', -, hsize⟩ := h.target hbusy
    rw [hsame] at htarget'
    rw [htarget.unique htarget']
    exact ⟨hsame, h.length, h.front, hsize⟩

theorem Draft.prepared (h : Draft o g s d) {handle : UInt16} {c : Nat} {value : List UInt8}
    (htarget : WriteTarget o g handle c)
    (hhandle : s.att.longWriteHandle = 0 ∨ s.att.longWriteHandle = handle)
    (hfits : (s.att.draftFor handle (o.characteristic c).valueSize).longWriteValueLength.toNat +
      value.length ≤ (o.characteristic c).valueSize) :
    Draft o g
      { s with
        att := (s.att.draftFor handle (o.characteristic c).valueSize).addLongWrite
          (s.att.draftFor handle (o.characteristic c).valueSize).longWriteValueLength.toNat value }
      (handle, d.2 ++ value) := by
  obtain ⟨hown, hlength, hfront, hsize⟩ := h.draftFor htarget hhandle
  generalize s.att.draftFor handle (o.characteristic c).valueSize = att at *
  have hsmall := (o.characteristic c).valueSize_le
  rw [hlength] at hfits ⊢
  have hvalue : (att.addLongWrite d.2.length value).longWriteValue =
      d.2 ++ value ++ att.longWriteValue.drop (d.2.length + value.length) := by
    unfold ATTClass.addLongWrite
    dsimp only
    rw [hfront]
  exact
    { told := fun _ => hown.symm
      untold := fun hzero => absurd hzero htarget.ne_zero
      free := fun hzero => absurd (hown.symm.trans hzero) htarget.ne_zero
      target := by
        intro _
        refine ⟨c, ?_, ?_, ?_⟩
        · exact hown ▸ htarget
        · rw [List.length_append]
          exact hfits
        · rw [hvalue, List.length_append, List.length_append, List.length_drop, hsize]
          omega
      length := by
        change (att.longWriteValueLength + UInt16.ofNat value.length).toNat = _
        have hof : (UInt16.ofNat value.length).toNat = value.length :=
          UInt16.toNat_ofNat_of_lt' (by have : UInt16.size = 65536 := rfl; omega)
        rw [UInt16.toNat_add, hof, hlength, List.length_append]
        omega
      front := by
        change (att.addLongWrite d.2.length value).longWriteValue.take _ = _
        rw [hvalue, List.take_left] }

theorem Draft.does (h : Draft o g s d) {i : Input} {q : Server × List Effect}
    (hdoes : Does o g s i q) : Draft o g q.1 (q.2.foldl echoed d) := by
  cases hdoes with
  | told hquiet =>
    rw [echoed_of_quiet hquiet]
    exact h
  | mtu hop hmtu =>
    rw [List.foldl_cons, List.foldl_nil, echoed_of_ops (by decide) (by decide)]
    exact h.congr rfl rfl rfl
  | wrote hwritable hquiet =>
    rw [List.foldl_append, echoed_writeFrom, echoed_of_quiet hquiet]
    exact h.congr rfl rfl rfl
  | @subscribed dlen data c value tail hstands hquiet =>
    rw [List.foldl_append, echoed_writeCccdValue, echoed_of_quiet hquiet]
    have hatt : (s.writeCccdValue c value).1.att = s.att := by
      unfold Server.writeCccdValue
      dsimp only
      split <;> rfl
    exact h.congr (by rw [hatt]) (by rw [hatt]) (by rw [hatt])
  | began htarget hfree =>
    rw [echoed_sendError]
    have hempty := h.free hfree
    exact
      { told := fun hne => absurd ((h.told hne).trans hfree) hne
        untold := h.untold
        free := fun _ => hempty
        target := fun _ => ⟨_, htarget, by rw [hempty]; exact Nat.zero_le _, List.length_replicate⟩
        length := by rw [hempty]; rfl
        front := by rw [hempty]; rfl }
  | prepared htarget hatt hhandle hfits hop hlength =>
    subst hatt
    have hall := h.prepared htarget hhandle hfits
    rw [List.foldl_cons, List.foldl_nil, echoed_prepared]
    exact hall
  | executed hhandle hattribute hq =>
    rw [List.foldl_append]
    exact draft_none rfl rfl
  | dropped => exact draft_none rfl rfl
  | connected => exact h.congr rfl rfl rfl
  | removed hhandle =>
    unfold removeConnection
    rw [if_pos hhandle]
    dsimp only
    rw [List.foldl_append]
    exact draft_none rfl rfl
  | left =>
    unfold disconnect
    split
    · exact h.congr rfl rfl rfl
    · exact h
  | @stored c value =>
    rw [echoed_of_notice (notice_writeValue s c value)]
    exact h.congr rfl rfl rfl

/-- No long write is under way. -/
structure Server.Idle (s : Server) : Prop where
  handle : s.att.longWriteHandle = 0
  length : s.att.longWriteValueLength = 0

theorem Server.Idle.draft (h : s.Idle) : Draft o g s (0, []) := draft_none h.handle h.length

theorem values_writeValue_of_ne (s : Server) {c e : Nat} (he : e ≠ c) (value : List UInt8) :
    (s.writeValue o g c value).1.values e = s.values e := Function.update_of_ne he _ _

theorem values_writeFrom_of_ne (s : Server) {c e : Nat} (he : e ≠ c) (value : List UInt8) :
    (s.writeFrom o g c value).1.values e = s.values e :=
  (values_writeValue_of_ne (g := g) _ he value).trans (Function.update_of_ne he _ _)

theorem value_setValueOf (s : Server) {c : Nat} {v : Value} (hv : v.value = (s.values c).value)
    (e : Nat) : ((s.setValueOf c v).values e).value = (s.values e).value := by
  unfold Server.setValueOf
  dsimp only
  by_cases he : e = c
  · subst he
    rw [Function.update_self, hv]
  · rw [Function.update_of_ne he]

theorem value_writeCccdValue (s : Server) (c e : Nat) (value : UInt16) :
    ((s.writeCccdValue c value).1.values e).value = (s.values e).value := by
  unfold Server.writeCccdValue
  dsimp only
  split
  · exact value_setValueOf (v := { s.values c with cccdValue := value &&& 0x0003 }) s rfl e
  · rfl

theorem value_clearCccds (as : List BLEAttribute) (q : Server × List Effect) (e : Nat) :
    ((as.foldl clearCccd q).1.values e).value = (q.1.values e).value := by
  induction as generalizing q with
  | nil => rfl
  | cons a as ih =>
    rw [List.foldl_cons, ih]
    cases a with
    | characteristic c => exact value_writeCccdValue q.1 c e 0
    | service _ => rfl
    | descriptor _ => rfl

/-- A write of this characteristic by a central. -/
def writes (c : Nat) : Effect → Bool
  | .written e _ => e = c
  | _ => false

def writtenValue : Effect → List UInt8
  | .written _ value => value
  | _ => []

/-- What the last write says that the buffer holds. -/
def lastWritten (c : Nat) (value : List UInt8) (e : Effect) : List UInt8 :=
  if writes c e then writtenValue e else value

theorem writes_of_quiet {mtu : UInt16} {effects : List Effect} (h : Quiet mtu effects) (c : Nat) :
    ∀ e ∈ effects, writes c e = false := by
  intro e he
  have hquiet := h e he
  cases e with
  | written d value => cases hquiet
  | _ => rfl

theorem writes_of_notice {c : Nat} {effects : List Effect} (h : Notice g s c effects) (e : Nat) :
    ∀ x ∈ effects, writes e x = false := by
  cases h with
  | silent => exact fun x hx => absurd hx List.not_mem_nil
  | sent hop hsubscribed hconnected hfits =>
    intro x hx
    rw [List.mem_singleton.mp hx]
    rfl

theorem writes_sendError {connectionHandle handle : UInt16} {opcode code : UInt8} (c : Nat) :
    ∀ x ∈ sendError connectionHandle opcode handle code, writes c x = false := by
  intro x hx
  rw [List.mem_singleton.mp hx]
  rfl

theorem lastWritten_of_none {effects : List Effect} {c : Nat} (h : ∀ e ∈ effects, writes c e = false)
    (value : List UInt8) : effects.foldl (lastWritten c) value = value := by
  induction effects generalizing value with
  | nil => rfl
  | cons e effects ih =>
    have hsame : lastWritten c value e = value := by
      unfold lastWritten
      rw [h e (by simp)]
      rfl
    rw [List.foldl_cons, hsame]
    exact ih (fun e' he' => h e' (by simp [he'])) value

theorem lastWritten_writeFrom (s : Server) (c e : Nat) (value : List UInt8) :
    (s.writeFrom o g c value).2.foldl (lastWritten e) (s.values e).value =
      ((s.writeFrom o g c value).1.values e).value := by
  have hquiet := writes_of_notice (notice_writeValue (o := o) (g := g)
    (s.setValueOf c { s.values c with written := true }) c value) e
  have hfold : (s.writeFrom o g c value).2.foldl (lastWritten e) (s.values e).value =
      lastWritten e (s.values e).value (.written c ((s.writeFrom o g c value).1.values c).value) := by
    unfold Server.writeFrom
    dsimp only
    rw [List.foldl_append, lastWritten_of_none hquiet]
    rfl
  rw [hfold]
  by_cases he : e = c
  · subst he
    exact if_pos (by simp [writes])
  · rw [values_writeFrom_of_ne s he]
    exact if_neg (by simpa [writes] using fun h => he h.symm)

theorem writes_writeCccdValue (s : Server) (c e : Nat) (value : UInt16) :
    ∀ x ∈ (s.writeCccdValue c value).2, writes e x = false := by
  unfold Server.writeCccdValue
  dsimp only
  split
  · intro x hx
    rw [List.mem_singleton.mp hx]
    split <;> rfl
  · exact fun x hx => absurd hx List.not_mem_nil

theorem writes_clearCccds (as : List BLEAttribute) (q : Server × List Effect) (e : Nat)
    (hq : ∀ x ∈ q.2, writes e x = false) :
    ∀ x ∈ (as.foldl clearCccd q).2, writes e x = false := by
  induction as generalizing q with
  | nil => exact hq
  | cons a as ih =>
    refine ih (clearCccd q a) ?_
    cases a with
    | characteristic c =>
      intro x hx
      rcases List.mem_append.mp hx with hx | hx
      · exact hq x hx
      · exact writes_writeCccdValue q.1 c e 0 x hx
    | service _ => exact hq
    | descriptor _ => exact hq

/-- The sketch does not write. -/
def Input.Remote : Input → Prop
  | .writeValue _ _ => False
  | _ => True

theorem lastWritten_does {i : Input} {q : Server × List Effect} (hdoes : Does o g s i q)
    (hremote : i.Remote) (e : Nat) :
    q.2.foldl (lastWritten e) (s.values e).value = (q.1.values e).value := by
  cases hdoes with
  | told hquiet => exact lastWritten_of_none (writes_of_quiet hquiet e) _
  | mtu hop hmtu => rfl
  | wrote hwritable hquiet =>
    rw [List.foldl_append, lastWritten_writeFrom]
    exact lastWritten_of_none (writes_of_quiet hquiet e) _
  | subscribed hstands hquiet =>
    rw [List.foldl_append, lastWritten_of_none (writes_writeCccdValue s _ e _),
      lastWritten_of_none (writes_of_quiet hquiet e), value_writeCccdValue]
  | began htarget hfree => exact lastWritten_of_none (writes_sendError e) _
  | prepared htarget hatt hhandle hfits hop hlength => rfl
  | executed hhandle hattribute hq =>
    subst hq
    rw [List.foldl_append, lastWritten_writeFrom]
    rfl
  | dropped => rfl
  | connected => rfl
  | removed hhandle =>
    unfold removeConnection
    rw [if_pos hhandle]
    dsimp only
    rw [List.foldl_append, lastWritten_of_none (writes_clearCccds g.attributes (s, []) e
      (fun x hx => absurd hx List.not_mem_nil))]
    exact (value_clearCccds g.attributes (s, []) e).symm
  | left =>
    unfold disconnect
    split <;> rfl
  | stored => cases hremote

/-- Only a characteristic that a central may write is written. -/
theorem writable_of_does (hdraft : Draft o g s d) {i : Input} {q : Server × List Effect}
    (hdoes : Does o g s i q) {x : Effect} (hx : x ∈ q.2) {c : Nat} (hc : writes c x = true) :
    Writable o c := by
  have hnone : ∀ effects : List Effect, (∀ y ∈ effects, writes c y = false) → x ∈ effects →
      Writable o c := by
    intro effects heffects hmem
    rw [heffects x hmem] at hc
    cases hc
  have hfrom : ∀ e value, x ∈ (s.writeFrom o g e value).2 → e = c := by
    intro e value hmem
    unfold Server.writeFrom at hmem
    dsimp only at hmem
    rcases List.mem_append.mp hmem with hmem | hmem
    · rw [writes_of_notice (notice_writeValue _ e value) c x hmem] at hc
      cases hc
    · rw [List.mem_singleton.mp hmem] at hc
      simpa [writes] using hc
  cases hdoes with
  | told h => exact hnone _ (writes_of_quiet h c) hx
  | mtu hop hmtu =>
    rw [List.mem_singleton.mp hx] at hc
    cases hc
  | wrote hwritable h =>
    rcases List.mem_append.mp hx with hx | hx
    · exact hfrom _ _ hx ▸ hwritable
    · exact hnone _ (writes_of_quiet h c) hx
  | subscribed hstands h =>
    rcases List.mem_append.mp hx with hx | hx
    · exact hnone _ (writes_writeCccdValue s _ c _) hx
    · exact hnone _ (writes_of_quiet h c) hx
  | began htarget hfree =>
    rw [writes_sendError c x hx] at hc
    cases hc
  | prepared htarget hatt hhandle hfits hop hlength =>
    rw [List.mem_singleton.mp hx] at hc
    cases hc
  | @executed dlen data e q hhandle hattribute hq =>
    subst hq
    rcases List.mem_append.mp hx with hx | hx
    · obtain ⟨e', htarget, -⟩ := hdraft.target hhandle
      have heq := htarget.stands.symm.trans hattribute
      injection heq with heq
      injection heq with heq
      have hec := hfrom _ _ hx
      exact .inl (hec ▸ heq ▸ htarget.write)
    · rw [List.mem_singleton.mp hx] at hc
      cases hc
  | dropped =>
    rw [List.mem_singleton.mp hx] at hc
    cases hc
  | connected =>
    rw [List.mem_singleton.mp hx] at hc
    cases hc
  | removed hhandle =>
    unfold removeConnection at hx
    rw [if_pos hhandle] at hx
    dsimp only at hx
    rcases List.mem_append.mp hx with hx | hx
    · rw [writes_clearCccds g.attributes (s, []) c (fun y hy => absurd hy List.not_mem_nil) x hx]
        at hc
      cases hc
    · rw [List.mem_singleton.mp hx] at hc
      cases hc
  | left => cases hx
  | stored => exact hnone _ (writes_of_notice (notice_writeValue s _ _) c) hx

end Drafts

end super_charger.ble
