import MeckChat.Foundation.AttributeTables
import MeckChat.Network.NetlinkResponse

/-!
What is read of a response that is well formed (`netlink_wireguard.cpp`).

* `contents` are the types of the attributes of a list with what they contain, whether it
  is nested or not, and `Visitor.visit` is what a loop makes of them.
* `attrLoop_encode`: over attributes that were written, the loop is that visit.
* `visit_family` and `visit_device` say what the two visits find: the first family id, and
  the last key and port that are long enough.
* `responses_read`: both functions, on every response that announces its own length.
-/

namespace Attributes

/-- The types and what the attributes contain. -/
def contents (order : ByteOrder) : Attributes → List (UInt16 × Bytes)
  | nil => []
  | leaf type data rest => (type, data) :: rest.contents order
  | nest type children rest => (type, children.encode order) :: rest.contents order

end Attributes

namespace MeckChat.Network

section Visit

variable {order : ByteOrder} {σ ρ : Type} (v : Visitor σ ρ)

/-- What is read of an attribute. -/
def Visitor.taken (type : UInt16) (content : Bytes) : Bytes :=
  content.take (v.reads (UInt16.ofNat (NLA_HDRLEN + content.length)) type)

/-- A loop over attributes of which nothing else is known. -/
def Visitor.visit (s : σ) : List (UInt16 × Bytes) → ρ
  | [] => v.finish s
  | (type, content) :: rest =>
      match v.returns type (v.taken type content) with
      | some r => r
      | none =>
          visit (v.update s (UInt16.ofNat (NLA_HDRLEN + content.length)) type
            (v.taken type content)) rest

/-- Of every attribute no more is read than it contains. -/
def Visitor.Contained (cs : List (UInt16 × Bytes)) : Prop :=
  ∀ c ∈ cs, v.reads (UInt16.ofNat (NLA_HDRLEN + c.2.length)) c.1 ≤ c.2.length

variable {v}

variable (order v) in
/-- One attribute. -/
lemma attrLoop_nlattr {type : UInt16} {content : Bytes}
    (hfits : NLA_HDRLEN + content.length ≤ 65535)
    (hreads : v.reads (UInt16.ofNat (NLA_HDRLEN + content.length)) type ≤ content.length)
    (before tail : Bytes) (left : ℕ) (s : σ) :
    attrLoop order (before ++ (nlattr order type content ++ tail)) v
        (NLA_ALIGN (NLA_HDRLEN + content.length) + left) before.length s =
      match v.returns type (v.taken type content) with
      | some r => .ok r
      | none =>
          attrLoop order (before ++ (nlattr order type content ++ tail)) v left
            (before ++ nlattr order type content).length
            (v.update s (UInt16.ofNat (NLA_HDRLEN + content.length)) type
              (v.taken type content)) := by
  obtain ⟨resp, hresp⟩ : ∃ resp, resp = before ++ (nlattr order type content ++ tail) :=
    ⟨_, rfl⟩
  obtain ⟨len, hlen⟩ : ∃ len, len = UInt16.ofNat (NLA_HDRLEN + content.length) := ⟨_, rfl⟩
  have htoNat : len.toNat = NLA_HDRLEN + content.length := by
    rw [hlen, UInt16.toNat_ofNat', Nat.mod_eq_of_lt (by omega)]
  have hbytes : resp = before ++ (order.u16 len ++ (order.u16 type ++ (content ++
      (padding (NLA_HDRLEN + content.length) ++ tail)))) := by
    rw [hresp, nlattr, ← hlen]
    simp only [List.append_assoc]
  have hlength : lengthAt order resp before.length = NLA_HDRLEN + content.length := by
    rw [hbytes, lengthAt_append, htoNat]
  have htype : typeAt order resp before.length = type := by
    have hslice : slice resp (before.length + 2) 2 = order.u16 type := by
      refine slice_eq_of_append (hbytes.trans (List.append_assoc _ _ _).symm) ?_
        (order.length_u16 type)
      rw [List.length_append, ByteOrder.length_u16]
    rw [typeAt, hslice, ByteOrder.ofU16_u16]
  have hcontent : contentAt order resp v before.length = v.taken type content := by
    have hdrop : resp.drop (before.length + NLA_HDRLEN) =
        content ++ (padding (NLA_HDRLEN + content.length) ++ tail) := by
      rw [hbytes, ← List.drop_drop, List.drop_left, ← List.append_assoc]
      refine List.drop_left' ?_
      rw [List.length_append, ByteOrder.length_u16, ByteOrder.length_u16, NLA_HDRLEN]
    rw [contentAt, hlength, htype, slice, hdrop, Visitor.taken,
      List.take_append_of_le_length hreads]
  have hsize : resp.length = before.length + NLA_ALIGN (NLA_HDRLEN + content.length) +
      tail.length := by
    rw [hresp, List.length_append, List.length_append, length_nlattr, Nat.add_assoc]
  have hle := le_NLA_ALIGN (NLA_HDRLEN + content.length)
  have hok : LengthOk order resp
      (before.length + (NLA_ALIGN (NLA_HDRLEN + content.length) + left)) before.length := by
    rw [LengthOk, hlength]
    omega
  have hleft : ¬NLA_ALIGN (NLA_HDRLEN + content.length) + left < NLA_HDRLEN := by omega
  have hinside : before.length + NLA_HDRLEN +
      v.reads (UInt16.ofNat (lengthAt order resp before.length))
        (typeAt order resp before.length) ≤ resp.length := by
    rw [hlength, htype]
    omega
  have hstep := attrLoop_of_received s hleft hok hinside
  rw [hlength, htype, hcontent] at hstep
  rw [← hresp, hstep]
  cases v.returns type (v.taken type content) with
  | some r => rfl
  | none =>
      dsimp only
      rw [if_neg (by omega), Nat.add_sub_cancel_left, List.length_append, length_nlattr]

/-- **The loop** over attributes that were written. -/
theorem attrLoop_encode {ts : Attributes} (hfits : ts.Fits)
    (hreads : v.Contained (ts.contents order)) (before after : Bytes) (s : σ) :
    attrLoop order (before ++ (ts.encode order ++ after)) v ts.size before.length s =
      .ok (v.visit s (ts.contents order)) := by
  induction ts generalizing before s with
  | nil =>
      rw [attrLoop, Attributes.size, if_pos (by rw [NLA_HDRLEN]; omega)]
      rfl
  | leaf type data rest ih =>
      obtain ⟨hlen, hrest⟩ := hfits
      obtain ⟨hread, hreads⟩ := List.forall_mem_cons.mp hreads
      have hone := attrLoop_nlattr order v hlen hread before
        (rest.encode order ++ after) rest.size s
      rw [Attributes.size, Attributes.encode, List.append_assoc, hone, Attributes.contents,
        Visitor.visit]
      cases v.returns type (v.taken type data) with
      | some r => rfl
      | none =>
          dsimp only
          rw [← List.append_assoc before]
          exact ih hrest hreads _ _
  | nest type children rest _ ih =>
      obtain ⟨hlen, -, hrest⟩ := hfits
      rw [← Attributes.length_encode order] at hlen
      obtain ⟨hread, hreads⟩ := List.forall_mem_cons.mp hreads
      have hone := attrLoop_nlattr order v hlen hread before
        (rest.encode order ++ after) rest.size s
      rw [Attributes.length_encode] at hone
      rw [Attributes.size, Attributes.encode, List.append_assoc, hone, Attributes.contents,
        Visitor.visit, Attributes.length_encode]
      cases v.returns type (v.taken type (children.encode order)) with
      | some r => rfl
      | none =>
          dsimp only
          rw [← List.append_assoc before]
          exact ih hrest hreads _ _

end Visit

/-! ### The two functions -/

section Functions

variable (order : ByteOrder)

/-- An attribute that gives the family. -/
def isFamilyId (c : UInt16 × Bytes) : Bool := c.1 = CTRL_ATTR_FAMILY_ID

/-- An attribute that gives the public key of a device. -/
def isPublicKey (c : UInt16 × Bytes) : Bool :=
  c.1 &&& NLA_TYPE_MASK = WGDEVICE_A_PUBLIC_KEY ∧ 32 ≤ c.2.length

/-- An attribute that gives the port of a device. -/
def isListenPort (c : UInt16 × Bytes) : Bool :=
  c.1 &&& NLA_TYPE_MASK = WGDEVICE_A_LISTEN_PORT ∧ 2 ≤ c.2.length

/-- The first family is found. -/
lemma visit_family (cs : List (UInt16 × Bytes)) :
    (familyVisitor order).visit () cs =
      (cs.find? isFamilyId).map fun c => order.ofU16 (c.2.take 2) := by
  induction cs with
  | nil => rfl
  | cons c cs ih =>
      obtain ⟨type, content⟩ := c
      by_cases htype : type = CTRL_ATTR_FAMILY_ID
      · have hfound : isFamilyId (type, content) = true := decide_eq_true htype
        rw [List.find?_cons_of_pos hfound, Visitor.visit]
        simp only [familyVisitor, Visitor.taken, if_pos htype, Option.map_some]
      · have hother : ¬isFamilyId (type, content) = true := by
          rw [isFamilyId, decide_eq_true_iff]
          exact htype
        rw [List.find?_cons_of_neg hother, ← ih, Visitor.visit]
        simp only [familyVisitor, if_neg htype]

/-- What an attribute changes of the status. -/
def statusAfter (status : WireGuardDeviceStatus) (c : UInt16 × Bytes) : WireGuardDeviceStatus :=
  if isPublicKey c then { status with publicKey := c.2.take 32 }
  else if isListenPort c then { status with listenPort := order.ofU16 (c.2.take 2) }
  else status

/-- One attribute of a device. -/
lemma visit_device_cons (type : UInt16) {content : Bytes}
    (hfits : NLA_HDRLEN + content.length ≤ 65535) (status : WireGuardDeviceStatus)
    (cs : List (UInt16 × Bytes)) :
    (deviceVisitor order).visit status ((type, content) :: cs) =
      (deviceVisitor order).visit (statusAfter order status (type, content)) cs := by
  have htoNat : (UInt16.ofNat (NLA_HDRLEN + content.length)).toNat =
      NLA_HDRLEN + content.length := by
    rw [UInt16.toNat_ofNat', Nat.mod_eq_of_lt (by omega)]
  have hkey : (type &&& NLA_TYPE_MASK = WGDEVICE_A_PUBLIC_KEY ∧
      NLA_HDRLEN + 32 ≤ NLA_HDRLEN + content.length) ↔ isPublicKey (type, content) = true := by
    rw [isPublicKey, decide_eq_true_iff, Nat.add_le_add_iff_left]
  have hport : (type &&& NLA_TYPE_MASK = WGDEVICE_A_LISTEN_PORT ∧
      NLA_HDRLEN + 2 ≤ NLA_HDRLEN + content.length) ↔ isListenPort (type, content) = true := by
    rw [isListenPort, decide_eq_true_iff, Nat.add_le_add_iff_left]
  rw [Visitor.visit]
  refine congrArg (fun s => (deviceVisitor order).visit s cs) ?_
  simp only [deviceVisitor, Visitor.taken, htoNat, hkey, hport, statusAfter]
  by_cases hk : isPublicKey (type, content) = true
  · simp only [if_pos hk]
  · by_cases hp : isListenPort (type, content) = true
    · simp only [if_neg hk, if_pos hp]
    · simp only [if_neg hk, if_neg hp]

/-- An attribute does not give both. -/
lemma not_isListenPort {c : UInt16 × Bytes} (h : isPublicKey c = true) :
    isListenPort c = false := by
  rw [isPublicKey, decide_eq_true_iff] at h
  rw [isListenPort, decide_eq_false_iff_not, h.1]
  rintro ⟨hport, -⟩
  cases hport

/-- The last key and the last port are found. -/
lemma visit_device {cs : List (UInt16 × Bytes)}
    (hfits : ∀ c ∈ cs, NLA_HDRLEN + c.2.length ≤ 65535) (status : WireGuardDeviceStatus) :
    (deviceVisitor order).visit status cs = .ok {
      ifName := status.ifName
      publicKey :=
        ((cs.reverse.find? isPublicKey).map fun c => c.2.take 32).getD status.publicKey
      listenPort :=
        ((cs.reverse.find? isListenPort).map fun c => order.ofU16 (c.2.take 2)).getD
          status.listenPort } := by
  induction cs generalizing status with
  | nil => rfl
  | cons c cs ih =>
      obtain ⟨hc, hcs⟩ := List.forall_mem_cons.mp hfits
      have hone := visit_device_cons order c.1 hc status cs
      rw [hone, ih hcs, List.reverse_cons, List.find?_append, List.find?_append,
        List.find?_singleton, List.find?_singleton, statusAfter]
      cases hk : isPublicKey c with
      | true =>
          rw [not_isListenPort hk]
          cases cs.reverse.find? isPublicKey <;> cases cs.reverse.find? isListenPort <;> rfl
      | false =>
          cases isListenPort c with
          | true =>
              cases cs.reverse.find? isPublicKey <;> cases cs.reverse.find? isListenPort <;> rfl
          | false =>
              cases cs.reverse.find? isPublicKey <;> cases cs.reverse.find? isListenPort <;> rfl

variable {order}

variable (order) in
lemma contents_fit {ts : Attributes} (h : ts.Fits) :
    ∀ c ∈ ts.contents order, NLA_HDRLEN + c.2.length ≤ 65535 := by
  induction ts with
  | nil => exact List.forall_mem_nil _
  | leaf type data rest ih => exact List.forall_mem_cons.mpr ⟨h.1, ih h.2⟩
  | nest type children rest _ ih =>
      refine List.forall_mem_cons.mpr ⟨?_, ih h.2.2⟩
      rw [Attributes.length_encode]
      exact h.1

/-- A response: two headers, and attributes behind them. Its length field counts these, and
there may be more behind them. -/
structure IsResponse (order : ByteOrder) (resp : Bytes) (ts : Attributes) : Prop where
  fits : ts.Fits
  attributes : ∃ header trailer, resp = header ++ (ts.encode order ++ trailer) ∧
    header.length = payloadOffset
  length : (announced order resp).toNat = payloadOffset + ts.size
  type : order.ofU16 (slice resp 4 2) ≠ NLMSG_ERROR

/-- The loop behind the headers of a response. -/
lemma attrLoop_response {resp : Bytes} {ts : Attributes} {σ ρ : Type} {v : Visitor σ ρ}
    (h : IsResponse order resp ts) (hreads : v.Contained (ts.contents order)) (s : σ) :
    HasAttributes order resp ∧
      attrLoop order resp v
        ((announced order resp).toUInt64 - UInt64.ofNat payloadOffset).toNat payloadOffset s =
          .ok (v.visit s (ts.contents order)) := by
  obtain ⟨header, trailer, hresp, hheader⟩ := h.attributes
  have hlow : payloadOffset ≤ (announced order resp).toNat := by
    rw [h.length]
    exact Nat.le_add_right _ _
  have hleft : ((announced order resp).toUInt64 - UInt64.ofNat payloadOffset).toNat = ts.size := by
    have hsum := toNat_attrLen hlow
    rw [h.length] at hsum
    exact Nat.add_left_cancel hsum
  refine ⟨⟨?_, h.type⟩, ?_⟩
  · rw [hresp, List.length_append, hheader]
    exact Nat.le_add_right _ _
  · have hloop := attrLoop_encode h.fits hreads header trailer s
    rw [← hresp, hheader] at hloop
    rw [hleft, hloop]

lemma getWireGuardDevice_response (strerror : Int32 → String) (ifName : String) {resp : Bytes}
    {ts : Attributes} (h : IsResponse order resp ts) :
    getWireGuardDevice order strerror ifName resp = .ok (.ok {
      ifName
      publicKey :=
        (((ts.contents order).reverse.find? isPublicKey).map fun c => c.2.take 32).getD []
      listenPort :=
        (((ts.contents order).reverse.find? isListenPort).map
          fun c => order.ofU16 (c.2.take 2)).getD 0 }) := by
  have hfit := contents_fit order h.fits
  have hreads : (deviceVisitor order).Contained (ts.contents order) := by
    intro c hc
    have hle := reads_deviceVisitor order (UInt16.ofNat (NLA_HDRLEN + c.2.length)) c.1
    rw [UInt16.toNat_ofNat', Nat.mod_eq_of_lt (Nat.lt_of_le_of_lt (hfit c hc) (by decide)),
      Nat.add_sub_cancel_left] at hle
    exact hle
  obtain ⟨hattributes, hloop⟩ :=
    attrLoop_response h hreads ({ ifName } : WireGuardDeviceStatus)
  have hlong : ¬resp.length < payloadOffset := not_lt.mpr hattributes.1
  have hlength : 20 ≤ resp.length := hattributes.1
  rw [getWireGuardDevice, if_neg hlong, readU16_ok (by omega), Checked.ok_bind,
    if_neg hattributes.2, readU32_announced hattributes, Checked.ok_bind]
  exact hloop.trans (congrArg _ (visit_device order hfit _))

lemma resolveWireGuardFamily_response {resp : Bytes} {ts : Attributes}
    (h : IsResponse order resp ts)
    (hids : ∀ c ∈ ts.contents order, isFamilyId c = true → 2 ≤ c.2.length) :
    resolveWireGuardFamily order resp =
      .ok (((ts.contents order).find? isFamilyId).map fun c => order.ofU16 (c.2.take 2)) := by
  have hreads : (familyVisitor order).Contained (ts.contents order) := by
    intro c hc
    dsimp only [familyVisitor]
    split_ifs with htype
    · exact hids c hc (decide_eq_true htype)
    · exact Nat.zero_le _
  obtain ⟨hattributes, hloop⟩ := attrLoop_response h hreads ()
  have hlong : ¬resp.length < payloadOffset := not_lt.mpr hattributes.1
  have hlength : 20 ≤ resp.length := hattributes.1
  rw [resolveWireGuardFamily, if_neg hlong, readU16_ok (by omega), Checked.ok_bind,
    if_neg hattributes.2, readU32_announced hattributes, Checked.ok_bind]
  exact hloop.trans (congrArg _ (visit_family order _))

/-- **Reading responses.** On every response that announces its own length, with any
attributes in any order, `getWireGuardDevice` gives the last public key and the last port
among those that are long enough, and `resolveWireGuardFamily` the first family id, as long
as every family id has its two bytes. What follows the response is not looked at. -/
theorem responses_read (strerror : Int32 → String) (ifName : String) {resp : Bytes}
    {ts : Attributes} (h : IsResponse order resp ts) :
    getWireGuardDevice order strerror ifName resp = .ok (.ok {
      ifName
      publicKey :=
        (((ts.contents order).reverse.find? isPublicKey).map fun c => c.2.take 32).getD []
      listenPort :=
        (((ts.contents order).reverse.find? isListenPort).map
          fun c => order.ofU16 (c.2.take 2)).getD 0 }) ∧
    ((∀ c ∈ ts.contents order, isFamilyId c = true → 2 ≤ c.2.length) →
      resolveWireGuardFamily order resp =
        .ok (((ts.contents order).find? isFamilyId).map fun c => order.ofU16 (c.2.take 2))) :=
  ⟨getWireGuardDevice_response strerror ifName h, resolveWireGuardFamily_response h⟩

/-- A response to the question for the family: its name, its id, and operations. -/
def familyAnswer : Attributes :=
  .leaf 2 [119, 105, 114, 101, 103, 117, 97, 114, 100, 0]
    (.leaf 1 [30, 0] (.nest (NLA_F_NESTED ||| 6) (.leaf 1 [0, 0, 0, 0] .nil) .nil))

/-- The family of that response. -/
theorem responses_read_family :
    resolveWireGuardFamily .littleEndian (nlmsghdr .littleEndian 56 16 0 1 ++ genlmsghdr 1 2 ++
      familyAnswer.encode .littleEndian) = .ok (some 30) := by
  have hresponse : IsResponse .littleEndian (nlmsghdr .littleEndian 56 16 0 1 ++
      genlmsghdr 1 2 ++ familyAnswer.encode .littleEndian) familyAnswer :=
    { fits := by decide
      attributes := ⟨_, [], by rw [List.append_nil], by decide⟩
      length := by decide
      type := by decide }
  have hread := (responses_read (fun _ => "") "mc0" hresponse).2 (by decide)
  exact hread.trans (by decide)

end Functions

end MeckChat.Network
