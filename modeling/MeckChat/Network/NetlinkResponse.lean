import MeckChat.Network.DeviceMessage

/-!
The responses of the kernel (`netlink_wireguard.cpp`).

* `attrLoop` is the loop over the attributes of a response; what is done with an attribute
  is a `Visitor`. All reads are checked against the bytes that `recv` returned.
* `resolveWireGuardFamily` and `getWireGuardDevice` are the two functions behind `recv`.
* `Chain` leads from one attribute to the next by the length fields, and `Complete` says
  that the response announces at least its headers, and that every attribute of its chain
  was received.
* `attrLoop_ok_iff`, and `responses_safe_iff`: the functions read inside of the response,
  without a wrap, exactly if it is complete. `complete_device_of_le` says that a response
  that was received as a whole is complete for a device.
-/

namespace MeckChat.Network

/-! ### The constants of the kernel's headers -/

/-- The type of an acknowledgement, with a code of 0, and of an error. -/
def NLMSG_ERROR : UInt16 := 2
/-- The number of a family. -/
def CTRL_ATTR_FAMILY_ID : UInt16 := 1
/-- The public key of a device. -/
def WGDEVICE_A_PUBLIC_KEY : UInt16 := 4
/-- The bits of a type that are no flags. -/
def NLA_TYPE_MASK : UInt16 := 0x3FFF

/-- `NLMSG_SPACE(GENL_HDRLEN)`, the size of the two headers. -/
def payloadOffset : ℕ := 20

section Reading

variable (order : ByteOrder) (resp : Bytes)

/-- A checked read of a 16-bit field. -/
def readU16 (off : ℕ) : Checked UInt16 := order.ofU16 <$> readSlice resp off 2

/-- A checked read of a 32-bit field. -/
def readU32 (off : ℕ) : Checked UInt32 := order.ofU32 <$> readSlice resp off 4

/-- What a loop does with the attributes: how much of the content it reads, when it
returns, and how it changes its state. -/
structure Visitor (σ ρ : Type) where
  reads : (nla_len nla_type : UInt16) → ℕ
  returns : (nla_type : UInt16) → Bytes → Option ρ
  update : σ → (nla_len nla_type : UInt16) → Bytes → σ
  finish : σ → ρ

variable {σ ρ : Type} (v : Visitor σ ρ)

/-- The loop over the attributes, with `attrLen` bytes left at an offset. -/
def attrLoop (attrLen off : ℕ) (s : σ) : Checked ρ :=
  if attrLen < NLA_HDRLEN then .ok (v.finish s)
  else do
    let nla_len ← readU16 order resp off
    if _h : nla_len.toNat < NLA_HDRLEN ∨ attrLen < nla_len.toNat then
      return v.finish s
    else
      let nla_type ← readU16 order resp (off + 2)
      let content ← readSlice resp (off + NLA_HDRLEN) (v.reads nla_len nla_type)
      match v.returns nla_type content with
      | some r => return r
      | none =>
          let alignedLen := NLA_ALIGN nla_len.toNat
          if attrLen < alignedLen then
            return v.finish s
          else
            attrLoop (attrLen - alignedLen) (off + alignedLen)
              (v.update s nla_len nla_type content)
termination_by attrLen
decreasing_by
  have hle := le_NLA_ALIGN nla_len.toNat
  rw [NLA_HDRLEN] at _h
  omega

end Reading

/-! ### The two functions -/

/-- The loop of `resolveWireGuardFamily`. -/
def familyVisitor (order : ByteOrder) : Visitor Unit (Option UInt16) where
  reads _ nla_type := if nla_type = CTRL_ATTR_FAMILY_ID then 2 else 0
  returns nla_type content :=
    if nla_type = CTRL_ATTR_FAMILY_ID then some (some (order.ofU16 content)) else none
  update s _ _ _ := s
  finish _ := none

/-- `NetlinkWireGuard::resolveWireGuardFamily`, from `recv` on; `none` is -1. -/
def resolveWireGuardFamily (order : ByteOrder) (resp : Bytes) : Checked (Option UInt16) :=
  if resp.length < payloadOffset then .ok none
  else do
    let nlmsg_type ← readU16 order resp 4
    if nlmsg_type = NLMSG_ERROR then
      return none
    else
      let nlmsg_len ← readU32 order resp 0
      -- the difference of two `size_t`
      let attrLen := nlmsg_len.toUInt64 - UInt64.ofNat payloadOffset
      attrLoop order resp (familyVisitor order) attrLen.toNat payloadOffset ()

/-- `WireGuardDeviceStatus`, without the peers, which are not read. -/
structure WireGuardDeviceStatus where
  ifName : String
  publicKey : Bytes := []
  listenPort : UInt16 := 0
  deriving DecidableEq, Repr

/-- The loop of `getWireGuardDevice`. -/
def deviceVisitor (order : ByteOrder) :
    Visitor WireGuardDeviceStatus (Except String WireGuardDeviceStatus) where
  reads nla_len nla_type :=
    let type := nla_type &&& NLA_TYPE_MASK
    if type = WGDEVICE_A_PUBLIC_KEY ∧ NLA_HDRLEN + 32 ≤ nla_len.toNat then 32
    else if type = WGDEVICE_A_LISTEN_PORT ∧ NLA_HDRLEN + 2 ≤ nla_len.toNat then 2
    else 0
  returns _ _ := none
  update status nla_len nla_type content :=
    let type := nla_type &&& NLA_TYPE_MASK
    if type = WGDEVICE_A_PUBLIC_KEY ∧ NLA_HDRLEN + 32 ≤ nla_len.toNat then
      { status with publicKey := content }
    else if type = WGDEVICE_A_LISTEN_PORT ∧ NLA_HDRLEN + 2 ≤ nla_len.toNat then
      { status with listenPort := order.ofU16 content }
    else status
  finish status := .ok status

/-- `NetlinkWireGuard::getWireGuardDevice`, from `recv` on; `strerror` is the one of the
C library. -/
def getWireGuardDevice (order : ByteOrder) (strerror : Int32 → String) (ifName : String)
    (resp : Bytes) : Checked (Except String WireGuardDeviceStatus) :=
  if resp.length < payloadOffset then
    .ok (.error "Truncated response for WG_CMD_GET_DEVICE.")
  else do
    let nlmsg_type ← readU16 order resp 4
    if nlmsg_type = NLMSG_ERROR then
      let error ← readU32 order resp 16
      return .error ("WG_CMD_GET_DEVICE failed: " ++ strerror (-error.toInt32))
    else
      let nlmsg_len ← readU32 order resp 0
      let attrLen := nlmsg_len.toUInt64 - UInt64.ofNat payloadOffset
      attrLoop order resp (deviceVisitor order) attrLen.toNat payloadOffset { ifName }

/-! ### The chain of the attributes -/

section Chain

variable (order : ByteOrder) (resp : Bytes) {σ ρ : Type} (v : Visitor σ ρ) (limit : ℕ)

/-- The type field of the attribute at an offset. -/
def typeAt (o : ℕ) : UInt16 := order.ofU16 (slice resp (o + 2) 2)

/-- The content that is read of the attribute at an offset. -/
def contentAt (o : ℕ) : Bytes :=
  slice resp (o + NLA_HDRLEN)
    (v.reads (UInt16.ofNat (lengthAt order resp o)) (typeAt order resp o))

/-- The length field is that of an attribute that ends before a limit. -/
def LengthOk (o : ℕ) : Prop :=
  NLA_HDRLEN ≤ lengthAt order resp o ∧ o + lengthAt order resp o ≤ limit

/-- There is an attribute behind the one at an offset. -/
structure Continues (o : ℕ) : Prop where
  header : o + NLA_HDRLEN ≤ limit
  length : LengthOk order resp limit o
  goesOn : v.returns (typeAt order resp o) (contentAt order resp v o) = none
  aligned : o + NLA_ALIGN (lengthAt order resp o) ≤ limit

/-- The attributes behind an attribute. -/
inductive Chain : ℕ → ℕ → Prop where
  | refl (o : ℕ) : Chain o o
  | step {o o' : ℕ} (h : Continues order resp v limit o)
      (h' : Chain (o + NLA_ALIGN (lengthAt order resp o)) o') : Chain o o'

/-- The attribute at an offset was received: its length field, and if that is right its
type and what is read of the content. -/
structure Received (o : ℕ) : Prop where
  length : o + 2 ≤ resp.length
  content : LengthOk order resp limit o →
    o + NLA_HDRLEN + v.reads (UInt16.ofNat (lengthAt order resp o)) (typeAt order resp o) ≤
      resp.length

variable {order resp v limit}

/-- A chain begins with one step, or is at its end. -/
lemma forall_chain_iff {o : ℕ} {P : ℕ → Prop} :
    (∀ o', Chain order resp v limit o o' → P o') ↔
      P o ∧ (Continues order resp v limit o →
        ∀ o', Chain order resp v limit (o + NLA_ALIGN (lengthAt order resp o)) o' → P o') := by
  constructor
  · exact fun h => ⟨h o (.refl o), fun hnext o' hchain => h o' (.step hnext hchain)⟩
  · rintro ⟨hfirst, hrest⟩ o' hchain
    cases hchain with
    | refl => exact hfirst
    | step hnext hchain => exact hrest hnext o' hchain

/-! ### When the loop stays inside -/

lemma readU16_ok {off : ℕ} (h : off + 2 ≤ resp.length) :
    readU16 order resp off = .ok (order.ofU16 (slice resp off 2)) := by
  rw [readU16, readSlice_ok h]
  rfl

lemma readSlice_error {off len : ℕ} (h : ¬off + len ≤ resp.length) :
    readSlice resp off len = .error .outOfBounds := by
  rw [readSlice, if_neg h]

lemma readU16_error {off : ℕ} (h : ¬off + 2 ≤ resp.length) :
    readU16 order resp off = .error .outOfBounds := by
  rw [readU16, readSlice_error h]
  rfl

/-! #### One pass -/

variable {attrLen off : ℕ} (s : σ)

/-- The length field is outside. -/
lemma attrLoop_of_cut (hleft : ¬attrLen < NLA_HDRLEN) (hcut : ¬off + 2 ≤ resp.length) :
    attrLoop order resp v attrLen off s = .error .outOfBounds := by
  rw [attrLoop, if_neg hleft, readU16_error hcut]
  rfl

/-- The length field is wrong. -/
lemma attrLoop_of_bad (hleft : ¬attrLen < NLA_HDRLEN) (hlength : off + 2 ≤ resp.length)
    (hbad : ¬LengthOk order resp (off + attrLen) off) :
    attrLoop order resp v attrLen off s = .ok (v.finish s) := by
  have hwrong : (order.ofU16 (slice resp off 2)).toNat < NLA_HDRLEN ∨
      attrLen < (order.ofU16 (slice resp off 2)).toNat := by
    rw [LengthOk, lengthAt] at hbad
    omega
  rw [attrLoop, if_neg hleft, readU16_ok hlength, Checked.ok_bind, dif_pos hwrong]
  rfl

/-- The type or the content that is read is outside. -/
lemma attrLoop_of_lost (hleft : ¬attrLen < NLA_HDRLEN) (hlength : off + 2 ≤ resp.length)
    (hok : LengthOk order resp (off + attrLen) off)
    (hlost : ¬off + NLA_HDRLEN +
      v.reads (UInt16.ofNat (lengthAt order resp off)) (typeAt order resp off) ≤ resp.length) :
    attrLoop order resp v attrLen off s = .error .outOfBounds := by
  have hright : ¬((order.ofU16 (slice resp off 2)).toNat < NLA_HDRLEN ∨
      attrLen < (order.ofU16 (slice resp off 2)).toNat) := by
    rw [LengthOk, lengthAt] at hok
    omega
  rw [lengthAt, UInt16.ofNat_toNat] at hlost
  rw [attrLoop, if_neg hleft, readU16_ok hlength, Checked.ok_bind, dif_neg hright]
  by_cases htype : off + 2 + 2 ≤ resp.length
  · rw [readU16_ok htype, Checked.ok_bind]
    change readSlice resp (off + NLA_HDRLEN) (v.reads _ (typeAt order resp off)) >>= _ = _
    rw [readSlice_error hlost]
    rfl
  · rw [readU16_error htype]
    rfl

/-- An attribute that was received. -/
lemma attrLoop_of_received (hleft : ¬attrLen < NLA_HDRLEN)
    (hok : LengthOk order resp (off + attrLen) off)
    (hcontent : off + NLA_HDRLEN +
      v.reads (UInt16.ofNat (lengthAt order resp off)) (typeAt order resp off) ≤ resp.length) :
    attrLoop order resp v attrLen off s =
      match v.returns (typeAt order resp off) (contentAt order resp v off) with
      | some r => .ok r
      | none =>
          if attrLen < NLA_ALIGN (lengthAt order resp off) then .ok (v.finish s)
          else
            attrLoop order resp v (attrLen - NLA_ALIGN (lengthAt order resp off))
              (off + NLA_ALIGN (lengthAt order resp off))
              (v.update s (UInt16.ofNat (lengthAt order resp off)) (typeAt order resp off)
                (contentAt order resp v off)) := by
  have hright : ¬((order.ofU16 (slice resp off 2)).toNat < NLA_HDRLEN ∨
      attrLen < (order.ofU16 (slice resp off 2)).toNat) := by
    rw [LengthOk, lengthAt] at hok
    omega
  have hlength : off + 2 ≤ resp.length := by
    rw [NLA_HDRLEN] at hcontent
    omega
  have htype : off + 2 + 2 ≤ resp.length := by
    rw [NLA_HDRLEN] at hcontent
    omega
  have hcast : UInt16.ofNat (lengthAt order resp off) = order.ofU16 (slice resp off 2) := by
    rw [lengthAt, UInt16.ofNat_toNat]
  rw [contentAt, hcast]
  rw [hcast] at hcontent
  rw [attrLoop, if_neg hleft, readU16_ok hlength, Checked.ok_bind, dif_neg hright,
    readU16_ok htype, Checked.ok_bind]
  change readSlice resp (off + NLA_HDRLEN) (v.reads _ (typeAt order resp off)) >>= _ = _
  rw [readSlice_ok hcontent, Checked.ok_bind]
  rfl

/-! #### Every pass -/

/-- A computation returns. -/
def Returns {α : Type} (r : Checked α) : Prop := ∃ a, r = .ok a

lemma not_returns_error {α : Type} (fault : Fault) : ¬Returns (.error fault : Checked α) := by
  rintro ⟨a, ha⟩
  cases ha

/-- **The loop** stays inside of the response exactly if all attributes of the chain were
received. -/
theorem attrLoop_ok_iff (attrLen off : ℕ) (s : σ) :
    Returns (attrLoop order resp v attrLen off s) ↔
      ∀ o, Chain order resp v (off + attrLen) off o → o + NLA_HDRLEN ≤ off + attrLen →
        Received order resp v (off + attrLen) o := by
  induction attrLen using Nat.strong_induction_on generalizing off s with
  | _ attrLen ih =>
      rw [forall_chain_iff]
      by_cases hend : attrLen < NLA_HDRLEN
      · rw [attrLoop, if_pos hend]
        exact iff_of_true ⟨_, rfl⟩
          ⟨fun h => by omega, fun hnext => absurd hnext.header (by omega)⟩
      by_cases hlength : off + 2 ≤ resp.length
      · by_cases hok : LengthOk order resp (off + attrLen) off
        · by_cases hcontent : off + NLA_HDRLEN +
              v.reads (UInt16.ofNat (lengthAt order resp off)) (typeAt order resp off) ≤
                resp.length
          · have hreceived : Received order resp v (off + attrLen) off :=
              ⟨hlength, fun _ => hcontent⟩
            rw [attrLoop_of_received s hend hok hcontent]
            cases hreturns : v.returns (typeAt order resp off) (contentAt order resp v off) with
            | some r =>
                exact iff_of_true ⟨r, rfl⟩ ⟨fun _ => hreceived,
                  fun hnext => absurd (hreturns.symm.trans hnext.goesOn) nofun⟩
            | none =>
                dsimp only
                by_cases haligned : attrLen < NLA_ALIGN (lengthAt order resp off)
                · rw [if_pos haligned]
                  exact iff_of_true ⟨_, rfl⟩
                    ⟨fun _ => hreceived, fun hnext => absurd hnext.aligned (by omega)⟩
                · have hnext : Continues order resp v (off + attrLen) off :=
                    ⟨by omega, hok, hreturns, by omega⟩
                  have hle := le_NLA_ALIGN (lengthAt order resp off)
                  have hsum : off + NLA_ALIGN (lengthAt order resp off) +
                      (attrLen - NLA_ALIGN (lengthAt order resp off)) = off + attrLen := by omega
                  have hlt : attrLen - NLA_ALIGN (lengthAt order resp off) < attrLen := by
                    have hlow := hok.1
                    rw [NLA_HDRLEN] at hlow
                    omega
                  rw [if_neg haligned, ih _ hlt, hsum]
                  exact ⟨fun h => ⟨fun _ => hreceived, fun _ => h⟩, fun h => h.2 hnext⟩
          · rw [attrLoop_of_lost s hend hlength hok hcontent]
            exact iff_of_false (not_returns_error _)
              fun h => hcontent ((h.1 (by omega)).content hok)
        · rw [attrLoop_of_bad s hend hlength hok]
          exact iff_of_true ⟨_, rfl⟩
            ⟨fun _ => ⟨hlength, fun h => absurd h hok⟩, fun hnext => absurd hnext.length hok⟩
      · rw [attrLoop_of_cut s hend hlength]
        exact iff_of_false (not_returns_error _) fun h => hlength (h.1 (by omega)).length

end Chain

/-! ### When the functions stay inside -/

section Functions

variable (order : ByteOrder) (resp : Bytes)

/-- `respHdr->nlmsg_len`. -/
def announced : UInt32 := order.ofU32 (slice resp 0 4)

/-- The functions reach their loops. -/
def HasAttributes : Prop :=
  payloadOffset ≤ resp.length ∧ order.ofU16 (slice resp 4 2) ≠ NLMSG_ERROR

/-- `nlmsg_len - payloadOffset` does not wrap, where it is computed. -/
def Unwrapped : Prop :=
  HasAttributes order resp → payloadOffset ≤ (announced order resp).toNat

variable {σ ρ : Type} (v : Visitor σ ρ)

/-- The response announces its headers at least, and all attributes of the chain that
begins behind them were received, up to the one at which the loop ends. -/
def Complete : Prop :=
  HasAttributes order resp → payloadOffset ≤ (announced order resp).toNat ∧
    ∀ o, Chain order resp v (announced order resp).toNat payloadOffset o →
      o + NLA_HDRLEN ≤ (announced order resp).toNat →
        Received order resp v (announced order resp).toNat o

variable {order resp v}

lemma toNat_attrLen {nlmsg_len : UInt32} (h : payloadOffset ≤ nlmsg_len.toNat) :
    payloadOffset + (nlmsg_len.toUInt64 - UInt64.ofNat payloadOffset).toNat =
      nlmsg_len.toNat := by
  have hoffset : (UInt64.ofNat payloadOffset).toNat = payloadOffset := rfl
  have hle : UInt64.ofNat payloadOffset ≤ nlmsg_len.toUInt64 := by
    rw [UInt64.le_iff_toNat_le, hoffset, UInt32.toNat_toUInt64]
    exact h
  rw [UInt64.toNat_sub_of_le _ _ hle, hoffset, UInt32.toNat_toUInt64]
  omega

/-- The two loops, on what the headers announce. -/
lemma complete_iff (s : σ) :
    (HasAttributes order resp → Returns (attrLoop order resp v
      ((announced order resp).toUInt64 - UInt64.ofNat payloadOffset).toNat payloadOffset s)) ∧
        Unwrapped order resp ↔ Complete order resp v := by
  constructor
  · rintro ⟨hreturns, hwrap⟩ hattributes
    have hannounced := hwrap hattributes
    have hloop := (attrLoop_ok_iff _ _ s).mp (hreturns hattributes)
    rw [toNat_attrLen hannounced] at hloop
    exact ⟨hannounced, hloop⟩
  · intro hcomplete
    refine ⟨fun hattributes => ?_, fun hattributes => (hcomplete hattributes).1⟩
    obtain ⟨hannounced, hloop⟩ := hcomplete hattributes
    rw [attrLoop_ok_iff, toNat_attrLen hannounced]
    exact hloop

lemma readU32_ok {off : ℕ} (h : off + 4 ≤ resp.length) :
    readU32 order resp off = .ok (order.ofU32 (slice resp off 4)) := by
  rw [readU32, readSlice_ok h]
  rfl

/-- The headers are checked, and the rest is behind them. -/
lemma returns_headers_iff {α : Type} {short : α} {failed rest : Checked α}
    (hfailed : payloadOffset ≤ resp.length → Returns failed) :
    Returns (if resp.length < payloadOffset then .ok short
      else do
        let nlmsg_type ← readU16 order resp 4
        if nlmsg_type = NLMSG_ERROR then failed else rest) ↔
      (HasAttributes order resp → Returns rest) := by
  by_cases hshort : resp.length < payloadOffset
  · rw [if_pos hshort]
    exact iff_of_true ⟨_, rfl⟩ fun h => absurd h.1 (by omega)
  · have hlength : 20 ≤ resp.length := not_lt.mp hshort
    rw [if_neg hshort, readU16_ok (by omega), Checked.ok_bind]
    by_cases herror : order.ofU16 (slice resp 4 2) = NLMSG_ERROR
    · rw [if_pos herror]
      exact iff_of_true (hfailed hlength) fun h => absurd herror h.2
    · rw [if_neg herror]
      exact ⟨fun h _ => h, fun h => h ⟨hlength, herror⟩⟩

lemma readU32_announced (h : HasAttributes order resp) :
    readU32 order resp 0 = .ok (announced order resp) := by
  have hlength : 20 ≤ resp.length := h.1
  exact readU32_ok (by omega)

lemma resolveWireGuardFamily_returns_iff :
    Returns (resolveWireGuardFamily order resp) ↔
      (HasAttributes order resp → Returns (attrLoop order resp (familyVisitor order)
        ((announced order resp).toUInt64 - UInt64.ofNat payloadOffset).toNat
        payloadOffset ())) := by
  have hfailed : payloadOffset ≤ resp.length →
      Returns (pure none : Checked (Option UInt16)) := fun _ => ⟨none, rfl⟩
  rw [resolveWireGuardFamily, returns_headers_iff hfailed]
  refine forall_congr' fun hattributes => ?_
  rw [readU32_announced hattributes, Checked.ok_bind]

lemma getWireGuardDevice_returns_iff (strerror : Int32 → String) (ifName : String) :
    Returns (getWireGuardDevice order strerror ifName resp) ↔
      (HasAttributes order resp → Returns (attrLoop order resp (deviceVisitor order)
        ((announced order resp).toUInt64 - UInt64.ofNat payloadOffset).toNat
        payloadOffset { ifName })) := by
  have hfailed : payloadOffset ≤ resp.length → Returns (do
      let error ← readU32 order resp 16
      return .error ("WG_CMD_GET_DEVICE failed: " ++ strerror (-error.toInt32)) :
        Checked (Except String WireGuardDeviceStatus)) := by
    intro hlength
    rw [payloadOffset] at hlength
    rw [readU32_ok (by omega)]
    exact ⟨_, rfl⟩
  rw [getWireGuardDevice, returns_headers_iff hfailed]
  refine forall_congr' fun hattributes => ?_
  rw [readU32_announced hattributes, Checked.ok_bind]

/-- **Responses.** For every response, of any length and content: each of the two functions
returns, with all reads inside of the response and no wrap, exactly if the response is
complete for it. -/
theorem responses_safe_iff (order : ByteOrder) (strerror : Int32 → String) (ifName : String)
    (resp : Bytes) :
    (Returns (resolveWireGuardFamily order resp) ∧ Unwrapped order resp ↔
      Complete order resp (familyVisitor order)) ∧
    (Returns (getWireGuardDevice order strerror ifName resp) ∧ Unwrapped order resp ↔
      Complete order resp (deviceVisitor order)) := by
  rw [resolveWireGuardFamily_returns_iff, getWireGuardDevice_returns_iff]
  exact ⟨complete_iff (), complete_iff ({ ifName } : WireGuardDeviceStatus)⟩

/-- A response that ends behind its headers, which announce an attribute. -/
def cutResponse : Bytes := nlmsghdr .littleEndian 28 30 0 1 ++ genlmsghdr 1 2

/-- The loop reads behind the response. -/
theorem reads_outside :
    resolveWireGuardFamily .littleEndian cutResponse = .error .outOfBounds := by
  have hloop : attrLoop .littleEndian cutResponse (familyVisitor .littleEndian) 8 20 () =
      .error .outOfBounds := attrLoop_of_cut () (by decide) (by decide)
  exact hloop

variable (order) in
/-- What is read of an attribute of a device lies in the attribute. -/
lemma reads_deviceVisitor (nla_len nla_type : UInt16) :
    (deviceVisitor order).reads nla_len nla_type ≤ nla_len.toNat - NLA_HDRLEN := by
  dsimp only [deviceVisitor]
  split_ifs with hkey hport
  · omega
  · omega
  · exact Nat.zero_le _

/-- A response that was received as a whole, and announces its headers, is complete for
`getWireGuardDevice`. -/
lemma complete_device_of_le (hlow : payloadOffset ≤ (announced order resp).toNat)
    (hhigh : (announced order resp).toNat ≤ resp.length) :
    Complete order resp (deviceVisitor order) := by
  refine fun _ => ⟨hlow, fun o _ hheader => ⟨?_, fun hok => ?_⟩⟩
  · rw [NLA_HDRLEN] at hheader
    omega
  · have hreads := reads_deviceVisitor order
      (UInt16.ofNat (lengthAt order resp o)) (typeAt order resp o)
    have hlength : (UInt16.ofNat (lengthAt order resp o)).toNat = lengthAt order resp o := by
      rw [lengthAt, UInt16.ofNat_toNat]
    rw [hlength] at hreads
    obtain ⟨hmin, hmax⟩ := hok
    omega

end Functions

end MeckChat.Network
