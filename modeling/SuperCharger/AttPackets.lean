-- What the attribute server sends: packets that fit into their buffers, and a
-- value of its own accord only to a central that asked for it.
import SuperCharger.AttRuns
import SuperCharger.AttWrites

namespace super_charger.ble

open arduino

variable {o : Objects} {g : GATTClass} {s : Server}

/-! ## What stays -/

@[simp] theorem att_writeCccdValue (s : Server) (c : Nat) (value : UInt16) :
    (s.writeCccdValue c value).1.att = s.att := by
  unfold Server.writeCccdValue
  dsimp only
  split <;> rfl

theorem att_clearCccds (as : List BLEAttribute) (q : Server × List Effect) :
    (as.foldl clearCccd q).1.att = q.1.att := by
  induction as generalizing q with
  | nil => rfl
  | cons a as ih =>
    rw [List.foldl_cons, ih]
    cases a with
    | characteristic c => exact att_writeCccdValue q.1 c 0
    | service _ => rfl
    | descriptor _ => rfl

/-- The MTU is what the connection begins with, or more. -/
structure Server.Wide (s : Server) : Prop where
  maxMtu : 23 ≤ s.att.maxMtu.toNat
  mtu : 23 ≤ s.att.mtu.toNat

/-- A central that asks for an MTU asks for no less. -/
def Input.Wide : Input → Prop
  | .handleData _ _ data => data 0 = ATT_OP_MTU_REQ → 23 ≤ (word16 data 1).toNat
  | _ => True

/-- The packet is as long as a prepared write. -/
def Input.Echoes : Input → List UInt8 → Prop
  | .handleData _ dlen data, packet =>
    data 0 = ATT_OP_PREP_WRITE_REQ ∧ packet.length = 1 + (dlen - 1).toNat
  | _, _ => False

theorem Server.Wide.congr (h : s.Wide) {t : Server} (hmaxMtu : t.att.maxMtu = s.att.maxMtu)
    (hmtu : t.att.mtu = s.att.mtu) : t.Wide :=
  ⟨hmaxMtu.symm ▸ h.maxMtu, hmtu.symm ▸ h.mtu⟩

theorem wide_does {i : Input} (hwide : i.Wide) (h : s.Wide) {q : Server × List Effect}
    (hdoes : Does o g s i q) : q.1.Wide := by
  cases hdoes with
  | told hquiet => exact h
  | mtu hop hmtu =>
    refine ⟨h.maxMtu, ?_⟩
    rw [hmtu]
    split
    · exact h.maxMtu
    · exact hwide hop
  | wrote hwritable hquiet => exact h.congr rfl rfl
  | @subscribed dlen data c value tail hstands hquiet =>
    have hatt := att_writeCccdValue s c value
    exact h.congr (by rw [hatt]) (by rw [hatt])
  | began htarget hfree => exact h.congr rfl rfl
  | @prepared connectionHandle handle dlen data c att value htarget hatt =>
    subst hatt
    unfold ATTClass.draftFor
    split <;> exact h.congr rfl rfl
  | executed hhandle hattribute hq =>
    subst hq
    exact h.congr rfl rfl
  | dropped => exact h.congr rfl rfl
  | connected => exact ⟨h.maxMtu, Nat.le_refl 23⟩
  | removed hhandle =>
    have hatt := att_clearCccds g.attributes (s, [])
    unfold removeConnection
    rw [if_pos hhandle]
    have hmaxMtu : (g.attributes.foldl clearCccd (s, [])).1.att.maxMtu = s.att.maxMtu := by rw [hatt]
    have hmtu : (g.attributes.foldl clearCccd (s, [])).1.att.mtu = s.att.mtu := by rw [hatt]
    exact h.congr hmaxMtu hmtu
  | left =>
    unfold disconnect
    split
    · exact h.congr rfl rfl
    · exact h
  | stored => exact h.congr rfl rfl

theorem fits_of_quiet (h : s.Wide) {effects : List Effect} (hquiet : Quiet s.att.mtu effects)
    {connectionHandle : UInt16} {packet : List UInt8}
    (hsent : .sendAclPkt connectionHandle packet ∈ effects) : packet.length ≤ s.att.mtu.toNat := by
  have hone := hquiet _ hsent
  cases packet with
  | nil => exact Nat.zero_le _
  | cons op rest => exact hone.2 h.mtu

theorem fits_of_notice (h : s.Wide) {c : Nat} {effects : List Effect} (hnotice : Notice g s c effects)
    {connectionHandle : UInt16} {packet : List UInt8}
    (hsent : .sendAclPkt connectionHandle packet ∈ effects) : packet.length ≤ s.att.mtu.toNat := by
  cases hnotice with
  | silent => cases hsent
  | sent hop hsubscribed hconnected hfits =>
    have hmtu := h.mtu
    have hsub : (s.att.mtu - 3).toNat = s.att.mtu.toNat - 3 :=
      UInt16.toNat_sub_of_le _ _ (UInt16.le_iff_toNat_le.mpr (Nat.le_trans (by decide : 3 ≤ 23) hmtu))
    obtain ⟨-, rfl⟩ : _ ∧ packet = _ := by simpa using hsent
    rw [hsub] at hfits
    simp only [List.length_append, List.length_cons, length_bytes16]
    omega

theorem fits_of_writeFrom (h : s.Wide) {c : Nat} {value : List UInt8} {connectionHandle : UInt16}
    {packet : List UInt8} (hsent : .sendAclPkt connectionHandle packet ∈ (s.writeFrom o g c value).2) :
    packet.length ≤ s.att.mtu.toNat := by
  unfold Server.writeFrom at hsent
  dsimp only at hsent
  rcases List.mem_append.mp hsent with hsent | hsent
  · have hmarked : (s.setValueOf c { s.values c with written := true }).Wide := h.congr rfl rfl
    exact fits_of_notice hmarked (notice_writeValue _ c value) hsent
  · cases List.mem_singleton.mp hsent

/-- Effects that are no packets. -/
theorem no_packet_writeCccdValue {c : Nat} {value connectionHandle : UInt16} {packet : List UInt8} :
    .sendAclPkt connectionHandle packet ∉ (s.writeCccdValue c value).2 := by
  unfold Server.writeCccdValue
  dsimp only
  split
  · split <;> simp
  · exact List.not_mem_nil

theorem no_packet_clearCccds {connectionHandle : UInt16} {packet : List UInt8}
    (as : List BLEAttribute) {q : Server × List Effect}
    (hq : .sendAclPkt connectionHandle packet ∉ q.2) :
    .sendAclPkt connectionHandle packet ∉ (as.foldl clearCccd q).2 := by
  induction as generalizing q with
  | nil => exact hq
  | cons a as ih =>
    refine ih ?_
    cases a with
    | characteristic c =>
      intro hsent
      rcases List.mem_append.mp hsent with hsent | hsent
      · exact hq hsent
      · exact no_packet_writeCccdValue hsent
    | service _ => exact hq
    | descriptor _ => exact hq

theorem fits_of_does {i : Input} (h : s.Wide) {q : Server × List Effect} (hdoes : Does o g s i q)
    {connectionHandle : UInt16} {packet : List UInt8}
    (hsent : .sendAclPkt connectionHandle packet ∈ q.2) :
    packet.length ≤ s.att.mtu.toNat ∨ i.Echoes packet := by
  have hshort : ∀ {p : List UInt8}, p.length ≤ 23 → p.length ≤ s.att.mtu.toNat :=
    fun hp => Nat.le_trans hp h.mtu
  cases hdoes with
  | told hquiet => exact .inl (fits_of_quiet h hquiet hsent)
  | mtu hop hmtu =>
    obtain ⟨-, rfl⟩ : _ ∧ packet = _ := by simpa using hsent
    exact .inl (hshort (by decide : 3 ≤ 23))
  | wrote hwritable hquiet =>
    rcases List.mem_append.mp hsent with hsent | hsent
    · exact .inl (fits_of_writeFrom h hsent)
    · exact .inl (fits_of_quiet h hquiet hsent)
  | subscribed hstands hquiet =>
    rcases List.mem_append.mp hsent with hsent | hsent
    · exact absurd hsent no_packet_writeCccdValue
    · exact .inl (fits_of_quiet h hquiet hsent)
  | began htarget hfree => exact .inl (fits_of_quiet h quiet_sendError hsent)
  | prepared htarget hatt hhandle hfits hop hlength =>
    obtain ⟨-, rfl⟩ : _ ∧ packet = _ := by simpa using hsent
    refine .inr ⟨hop, ?_⟩
    simp only [List.length_append, List.length_cons, length_bytes16, hlength]
    omega
  | executed hhandle hattribute hq =>
    subst hq
    rcases List.mem_append.mp hsent with hsent | hsent
    · exact .inl (fits_of_writeFrom h hsent)
    · obtain ⟨-, rfl⟩ : _ ∧ packet = _ := by simpa using hsent
      exact .inl (hshort (by decide : 1 ≤ 23))
  | dropped =>
    obtain ⟨-, rfl⟩ : _ ∧ packet = _ := by simpa using hsent
    exact .inl (hshort (by decide : 1 ≤ 23))
  | connected => cases List.mem_singleton.mp hsent
  | removed hhandle =>
    unfold removeConnection at hsent
    rw [if_pos hhandle] at hsent
    rcases List.mem_append.mp hsent with hsent | hsent
    · exact absurd hsent (no_packet_clearCccds g.attributes List.not_mem_nil)
    · cases List.mem_singleton.mp hsent
  | left => cases hsent
  | stored => exact .inl (fits_of_notice h (notice_writeValue s _ _) hsent)

theorem wide_of_play (h : s.Wide) {is : List Input} (hwide : ∀ i ∈ is, i.Wide)
    {r : Server × List Effect} (hplay : play o g s is = some r) : r.1.Wide :=
  play_keeps (I := Server.Wide) (P := Input.Wide) (fun _ _ _ hi ht hdoes => wide_does hi ht hdoes) h
    hwide hplay

/-- Whatever a run led to, what the next input sends fits into the buffer that the source makes for
it, which has the size of the MTU: only the response to a prepared write can be longer, for it
repeats the request. -/
theorem packets_fit (h : s.Wide) {is : List Input} (hwide : ∀ i ∈ is, i.Wide)
    {r : Server × List Effect} (hplay : play o g s is = some r) {i : Input}
    {q : Server × List Effect} (hrespond : respond o g r.1 i = some q) {connectionHandle : UInt16}
    {packet : List UInt8} (hsent : .sendAclPkt connectionHandle packet ∈ q.2) :
    packet.length ≤ r.1.att.mtu.toNat ∨ i.Echoes packet :=
  fits_of_does (wide_of_play h hwide hplay) (does_of_respond hrespond) hsent

/-- A name of 30 bytes is cut to what a packet of 23 bytes holds. -/
theorem packets_fit_nameTag :
    ∃ r, play nameTag nameTagTable (fresh nameTag)
        [.addConnection 0x40 1, .writeValue 0 (List.replicate 30 7)] = some r ∧
      ∃ q, respond nameTag nameTagTable r.1 (packet [0x0a, 0x03, 0x00]) = some q ∧
        .sendAclPkt 0x40 (0x0b :: List.replicate 22 7) ∈ q.2 ∧
          ∀ connectionHandle pdu, .sendAclPkt connectionHandle pdu ∈ q.2 → pdu.length ≤ 23 := by
  have hfirst : (fresh nameTag).Wide := ⟨by decide, by decide⟩
  have hwide : ∀ i ∈ [Input.addConnection 0x40 1, .writeValue 0 (List.replicate 30 7)], i.Wide := by
    simp [Input.Wide]
  have hplay : play nameTag nameTagTable (fresh nameTag)
    [.addConnection 0x40 1, .writeValue 0 (List.replicate 30 7)] = some _ := rfl
  refine ⟨_, hplay, _, rfl, ?_, ?_⟩
  · decide
  · intro connectionHandle pdu hsent
    have hfits := packets_fit (i := packet [0x0a, 0x03, 0x00]) hfirst hwide hplay rfl hsent
    refine hfits.resolve_right ?_
    intro hechoes
    exact absurd hechoes.1 (by decide)

/-! ## Subscriptions -/

/-- The server agrees with the radio about the connection, and with the sketch about the
subscriptions. -/
structure Linked (g : GATTClass) (s : Server) (link : Option UInt8) (asked : Nat → Bool) : Prop where
  handle : s.att.connectionHandle = link.elim 0xffff UInt8.toUInt16
  asked : ∀ c, (s.values c).cccdValue ≠ 0 → asked c = true
  stands : ∀ c, (s.values c).cccdValue ≠ 0 → .characteristic c ∈ g.attributes
  idle : link = none → ∀ c, (s.values c).cccdValue = 0

section Subscriptions

variable {asked : Nat → Bool} {link : Option UInt8} {effects : List Effect}

theorem Linked.congr (h : Linked g s link asked) {t : Server}
    (hhandle : t.att.connectionHandle = s.att.connectionHandle)
    (hcccd : ∀ c, (t.values c).cccdValue = (s.values c).cccdValue) : Linked g t link asked where
  handle := hhandle.trans h.handle
  asked c := by rw [hcccd c]; exact h.asked c
  stands c := by rw [hcccd c]; exact h.stands c
  idle hlink c := (hcccd c).trans (h.idle hlink c)

end Subscriptions

end super_charger.ble
