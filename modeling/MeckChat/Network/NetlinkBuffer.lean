import MeckChat.Foundation.Attributes
import MeckChat.Qt.QByteArray

/-!
The buffer in which netlink messages are assembled (`netlink_wireguard.cpp`).

* `NetlinkBuffer` and its operations, on a machine with some `ByteOrder`. The length of a
  nested attribute is written when it ends, at the offset that `startNested` returned.
* `Writes` says of a function that it appends a list of attributes; `writes_putAttr`,
  `Writes.comp`, `writes_nested` and `writes_foldl` are the rules for it.
* `BufferOp` is an operation, `Writer` a buffer with the offsets that its caller keeps, and
  `WellNested` gives the attributes that a well-nested sequence of operations writes.
* `buffer_parses`: the standard walk over the bytes finds these attributes, and the buffer
  is aligned after every operation.
-/

namespace MeckChat.Network

/-- `NetlinkBuffer`. -/
structure NetlinkBuffer where
  m_buf : Bytes := []
  deriving DecidableEq, Repr

namespace NetlinkBuffer

variable (order : ByteOrder) (b : NetlinkBuffer)

/-- `appendRaw`. -/
def appendRaw (data : Bytes) : NetlinkBuffer := ⟨b.m_buf ++ data⟩

/-- `append`, of the header of an attribute. -/
def appendHeader (nla_len nla_type : UInt16) : NetlinkBuffer :=
  b.appendRaw (order.u16 nla_len ++ order.u16 nla_type)

/-- The loops that pad to the next multiple of four. -/
def pad (len : UInt16) : NetlinkBuffer := b.appendRaw (padding len.toNat)

/-- `putAttr`. -/
def putAttr (type : UInt16) (data : Bytes) : NetlinkBuffer :=
  let attrLen := UInt16.ofNat (NLA_HDRLEN + data.length)
  ((b.appendHeader order attrLen type).appendRaw data).pad attrLen

/-- `putAttrU8`. -/
def putAttrU8 (type : UInt16) (val : UInt8) : NetlinkBuffer := b.putAttr order type [val]

/-- `putAttrU16`. -/
def putAttrU16 (type : UInt16) (val : UInt16) : NetlinkBuffer :=
  b.putAttr order type (order.u16 val)

/-- `putAttrU32`. -/
def putAttrU32 (type : UInt16) (val : UInt32) : NetlinkBuffer :=
  b.putAttr order type (order.u32 val)

/-- `putAttrStr`, with the null at the end. -/
def putAttrStr (type : UInt16) (str : String) : NetlinkBuffer :=
  b.putAttr order type (QString.toUtf8 str ++ [0])

/-- `putAttrRaw`. -/
def putAttrRaw (type : UInt16) (data : Bytes) : NetlinkBuffer := b.putAttr order type data

/-- `startNested`: the buffer, and the offset of the attribute. -/
def startNested (type : UInt16) : NetlinkBuffer × ℕ :=
  (b.appendHeader order 0 (NLA_F_NESTED ||| type), b.m_buf.length)

/-- `endNested`. -/
def endNested (offset : ℕ) : NetlinkBuffer :=
  let len := UInt16.ofNat (b.m_buf.length - offset)
  pad ⟨b.m_buf.take offset ++ order.u16 len ++ b.m_buf.drop (offset + 2)⟩ len

/-! ### What the operations write -/

lemma m_buf_pad (n : ℕ) : (b.pad (UInt16.ofNat n)).m_buf = b.m_buf ++ padding n := by
  rw [pad, appendRaw, UInt16.toNat_ofNat']
  exact congrArg (b.m_buf ++ ·) (padding_mod n)

lemma m_buf_putAttr (type : UInt16) (data : Bytes) :
    (b.putAttr order type data).m_buf = b.m_buf ++ nlattr order type data := by
  rw [putAttr, m_buf_pad, appendRaw, appendHeader, appendRaw, nlattr]
  simp only [List.append_assoc]

/-- The end of a nested attribute, with its length put in. -/
lemma m_buf_endNested (before content : Bytes) (type : UInt16) :
    (endNested order ⟨before ++ (order.u16 0 ++ order.u16 type) ++ content⟩ before.length).m_buf =
      before ++ nlattr order type content := by
  have hlen : (before ++ (order.u16 0 ++ order.u16 type) ++ content).length - before.length =
      NLA_HDRLEN + content.length := by
    simp only [List.length_append, ByteOrder.length_u16]
    rw [NLA_HDRLEN]
    omega
  have htake : (before ++ (order.u16 0 ++ order.u16 type) ++ content).take before.length =
      before := by
    rw [List.append_assoc, List.take_left]
  have hdrop : (before ++ (order.u16 0 ++ order.u16 type) ++ content).drop
      (before.length + 2) = order.u16 type ++ content := by
    rw [List.append_assoc, ← List.drop_drop, List.drop_left, List.append_assoc,
      List.drop_left' (order.length_u16 0)]
  rw [endNested, hlen, m_buf_pad, htake, hdrop, nlattr]
  simp only [List.append_assoc]

/-- A function appends attributes to a buffer. -/
def Writes (f : NetlinkBuffer → NetlinkBuffer) (ts : Attributes) : Prop :=
  ∀ b, (f b).m_buf = b.m_buf ++ ts.encode order

lemma writes_nothing : Writes order (fun b => b) .nil := fun _ => (List.append_nil _).symm

lemma writes_putAttr (type : UInt16) (data : Bytes) :
    Writes order (fun b => b.putAttr order type data) (.leaf type data .nil) := by
  intro b
  rw [m_buf_putAttr, Attributes.encode, Attributes.encode, List.append_nil]

lemma writes_putAttrU8 (type : UInt16) (val : UInt8) :
    Writes order (fun b => b.putAttrU8 order type val) (.leaf type [val] .nil) :=
  writes_putAttr order type [val]

lemma writes_putAttrU16 (type val : UInt16) :
    Writes order (fun b => b.putAttrU16 order type val) (.leaf type (order.u16 val) .nil) :=
  writes_putAttr order type (order.u16 val)

lemma writes_putAttrU32 (type : UInt16) (val : UInt32) :
    Writes order (fun b => b.putAttrU32 order type val) (.leaf type (order.u32 val) .nil) :=
  writes_putAttr order type (order.u32 val)

lemma writes_putAttrRaw (type : UInt16) (data : Bytes) :
    Writes order (fun b => b.putAttrRaw order type data) (.leaf type data .nil) :=
  writes_putAttr order type data

variable {order} {f g : NetlinkBuffer → NetlinkBuffer} {ts us : Attributes}

/-- One after the other. -/
lemma Writes.comp (hf : Writes order f ts) (hg : Writes order g us) :
    Writes order (fun b => g (f b)) (ts.append us) := by
  intro b
  rw [hg, hf, Attributes.encode_append, List.append_assoc]

/-- Between `startNested` and `endNested`. -/
lemma writes_nested (type : UInt16) (hf : Writes order f ts) :
    Writes order
      (fun b => endNested order (f (b.startNested order type).1) (b.startNested order type).2)
      (.nest (NLA_F_NESTED ||| type) ts .nil) := by
  intro b
  obtain ⟨u, hu⟩ : ∃ u, u = f (b.startNested order type).1 := ⟨_, rfl⟩
  have hbuf : u = ⟨b.m_buf ++ (order.u16 0 ++ order.u16 (NLA_F_NESTED ||| type)) ++
      ts.encode order⟩ := by
    rw [hu]
    exact congrArg NetlinkBuffer.mk (hf _)
  change (endNested order (f (b.startNested order type).1) b.m_buf.length).m_buf = _
  rw [← hu, hbuf, m_buf_endNested, Attributes.encode, Attributes.encode, List.append_nil]

/-- The attributes of the elements of a list. -/
def attributesOf {α : Type} (ts : α → Attributes) : List α → Attributes
  | [] => .nil
  | a :: as => (ts a).append (attributesOf ts as)

lemma size_attributesOf {α : Type} (ts : α → Attributes) (as : List α) :
    (attributesOf ts as).size = (as.map fun a => (ts a).size).sum := by
  induction as with
  | nil => rfl
  | cons a as ih => rw [attributesOf, Attributes.size_append, ih, List.map_cons, List.sum_cons]

lemma flagged_attributesOf {α : Type} {ts : α → Attributes} (h : ∀ a, (ts a).Flagged)
    (as : List α) : (attributesOf ts as).Flagged := by
  induction as with
  | nil => trivial
  | cons a as ih => exact (Attributes.flagged_append _ _).mpr ⟨h a, ih⟩

/-- A loop over a list. -/
lemma writes_foldl {α : Type} {step : NetlinkBuffer → α → NetlinkBuffer} {ts : α → Attributes}
    (h : ∀ a, Writes order (fun b => step b a) (ts a)) (as : List α) :
    Writes order (fun b => as.foldl step b) (attributesOf ts as) := by
  induction as with
  | nil => exact writes_nothing order
  | cons a as ih => exact (h a).comp ih

end NetlinkBuffer

/-! ### Sequences of operations -/

/-- The operations of a `NetlinkBuffer`. -/
inductive BufferOp where
  | putAttr (type : UInt16) (data : Bytes)
  | putAttrU8 (type : UInt16) (val : UInt8)
  | putAttrU16 (type : UInt16) (val : UInt16)
  | putAttrU32 (type : UInt16) (val : UInt32)
  | putAttrStr (type : UInt16) (str : String)
  | putAttrRaw (type : UInt16) (data : Bytes)
  | startNested (type : UInt16)
  | endNested
  deriving DecidableEq, Repr

/-- The attribute without children that an operation writes. -/
def BufferOp.attr (order : ByteOrder) : BufferOp → Option (UInt16 × Bytes)
  | .putAttr type data => some (type, data)
  | .putAttrU8 type val => some (type, [val])
  | .putAttrU16 type val => some (type, order.u16 val)
  | .putAttrU32 type val => some (type, order.u32 val)
  | .putAttrStr type str => some (type, QString.toUtf8 str ++ [0])
  | .putAttrRaw type data => some (type, data)
  | .startNested _ => none
  | .endNested => none

/-- A well-nested sequence of operations, and the attributes it writes. -/
inductive WellNested (order : ByteOrder) : List BufferOp → Attributes → Prop where
  | nil : WellNested order [] .nil
  | put {op : BufferOp} {ops : List BufferOp} {type : UInt16} {data : Bytes} {ts : Attributes}
      (h : op.attr order = some (type, data)) (hops : WellNested order ops ts) :
      WellNested order (op :: ops) (.leaf type data ts)
  | nest {inner ops : List BufferOp} {children ts : Attributes} (type : UInt16)
      (hinner : WellNested order inner children) (hops : WellNested order ops ts) :
      WellNested order (.startNested type :: (inner ++ .endNested :: ops))
        (.nest (NLA_F_NESTED ||| type) children ts)

/-- A buffer, and the offsets of the nested attributes that are not ended, the last one
first. -/
structure Writer where
  buffer : NetlinkBuffer
  offsets : List ℕ := []
  deriving DecidableEq, Repr

namespace Writer

/-- One operation. `endNested` gets the offset of the attribute begun last. -/
def step (order : ByteOrder) (w : Writer) : BufferOp → Writer
  | .putAttr type data => { w with buffer := w.buffer.putAttr order type data }
  | .putAttrU8 type val => { w with buffer := w.buffer.putAttrU8 order type val }
  | .putAttrU16 type val => { w with buffer := w.buffer.putAttrU16 order type val }
  | .putAttrU32 type val => { w with buffer := w.buffer.putAttrU32 order type val }
  | .putAttrStr type str => { w with buffer := w.buffer.putAttrStr order type str }
  | .putAttrRaw type data => { w with buffer := w.buffer.putAttrRaw order type data }
  | .startNested type =>
      let (buffer, offset) := w.buffer.startNested order type
      ⟨buffer, offset :: w.offsets⟩
  | .endNested =>
      match w.offsets with
      | [] => w
      | offset :: offsets => ⟨w.buffer.endNested order offset, offsets⟩

/-- The operations one after the other. -/
def run (order : ByteOrder) (w : Writer) (ops : List BufferOp) : Writer :=
  ops.foldl (step order) w

variable {order : ByteOrder} {ops : List BufferOp} {ts : Attributes}

/-- The variants of `putAttr`. -/
lemma step_put {op : BufferOp} {type : UInt16} {data : Bytes}
    (h : op.attr order = some (type, data)) (w : Writer) :
    w.step order op = { w with buffer := w.buffer.putAttr order type data } := by
  cases op with
  | startNested type => cases h
  | endNested => cases h
  | _ =>
      obtain ⟨rfl, rfl⟩ := Prod.mk.inj (Option.some.inj h)
      rfl

/-- **A well-nested sequence** appends its attributes, and leaves the offsets alone. -/
theorem run_wellNested (h : WellNested order ops ts) (w : Writer) :
    w.run order ops = ⟨⟨w.buffer.m_buf ++ ts.encode order⟩, w.offsets⟩ := by
  induction h generalizing w with
  | nil => rw [Attributes.encode, List.append_nil]; rfl
  | @put op ops type data ts h _ ih =>
      have hstep : w.step order op =
          ⟨⟨w.buffer.m_buf ++ nlattr order type data⟩, w.offsets⟩ := by
        rw [step_put h, ← NetlinkBuffer.m_buf_putAttr]
      rw [run, List.foldl_cons, hstep]
      refine (ih _).trans ?_
      rw [Attributes.encode, List.append_assoc]
  | @nest inner ops children ts type _ _ ihinner ih =>
      obtain ⟨started, hstarted⟩ : ∃ started : Writer, started =
          ⟨⟨w.buffer.m_buf ++ (order.u16 0 ++ order.u16 (NLA_F_NESTED ||| type))⟩,
            w.buffer.m_buf.length :: w.offsets⟩ := ⟨_, rfl⟩
      have hstart : w.step order (.startNested type) = started := by
        rw [hstarted]
        rfl
      have hinner : started.run order inner =
          ⟨⟨w.buffer.m_buf ++ (order.u16 0 ++ order.u16 (NLA_F_NESTED ||| type)) ++
            children.encode order⟩, w.buffer.m_buf.length :: w.offsets⟩ := by
        rw [ihinner, hstarted]
      have hend : (started.run order inner).step order .endNested =
          ⟨⟨w.buffer.m_buf ++ nlattr order (NLA_F_NESTED ||| type) (children.encode order)⟩,
            w.offsets⟩ := by
        rw [hinner, ← NetlinkBuffer.m_buf_endNested]
        rfl
      rw [run, List.foldl_cons, hstart, List.foldl_append, List.foldl_cons]
      change ((started.run order inner).step order .endNested).run order ops = _
      rw [hend, ih, Attributes.encode, List.append_assoc]

/-! ### Alignment -/

/-- The buffer is aligned, and the nested attributes lie at aligned offsets in it. -/
structure Aligned (w : Writer) : Prop where
  size : 4 ∣ w.buffer.m_buf.length
  offsets : ∀ offset ∈ w.offsets, 4 ∣ offset ∧ offset + 4 ≤ w.buffer.m_buf.length

lemma Aligned.append {w : Writer} (h : w.Aligned) {data : Bytes} (hdata : 4 ∣ data.length)
    {offsets : List ℕ} (hoffsets : ∀ offset ∈ offsets, offset ∈ w.offsets) :
    Aligned ⟨⟨w.buffer.m_buf ++ data⟩, offsets⟩ := by
  constructor
  · rw [List.length_append]
    exact Nat.dvd_add h.size hdata
  · intro offset hoffset
    obtain ⟨hdvd, hle⟩ := h.offsets offset (hoffsets offset hoffset)
    rw [List.length_append]
    exact ⟨hdvd, by omega⟩

variable (order) in
/-- Between aligned offsets there is nothing to pad. -/
lemma length_endNested {b : NetlinkBuffer} {offset : ℕ} (hb : 4 ∣ b.m_buf.length)
    (hdvd : 4 ∣ offset) (hle : offset + 4 ≤ b.m_buf.length) :
    (b.endNested order offset).m_buf.length = b.m_buf.length := by
  have hlen : 4 ∣ b.m_buf.length - offset := Nat.dvd_sub hb hdvd
  rw [NetlinkBuffer.endNested, NetlinkBuffer.m_buf_pad]
  simp only [List.length_append, List.length_take, List.length_drop, ByteOrder.length_u16,
    length_padding, NLA_ALIGN_of_dvd hlen]
  omega

/-- **One operation** keeps the alignment. -/
theorem Aligned.step {w : Writer} (h : w.Aligned) (op : BufferOp) :
    (w.step order op).Aligned := by
  cases hattr : op.attr order with
  | some attr =>
      have hbuf : w.step order op =
          ⟨⟨w.buffer.m_buf ++ nlattr order attr.1 attr.2⟩, w.offsets⟩ := by
        rw [step_put hattr, ← NetlinkBuffer.m_buf_putAttr]
      have hdvd : 4 ∣ (nlattr order attr.1 attr.2).length := by
        rw [length_nlattr]
        exact dvd_NLA_ALIGN _
      rw [hbuf]
      exact h.append hdvd fun _ hoffset => hoffset
  | none =>
      cases op with
      | startNested type =>
          have hdvd : 4 ∣ (order.u16 0 ++ order.u16 (NLA_F_NESTED ||| type)).length := by
            rw [List.length_append, ByteOrder.length_u16, ByteOrder.length_u16]
          have happend := h.append hdvd fun _ hoffset => hoffset
          refine ⟨happend.size, fun offset hoffset => ?_⟩
          rcases List.mem_cons.mp hoffset with rfl | hoffset
          · refine ⟨h.size, le_of_eq ?_⟩
            change _ = (w.buffer.m_buf ++ _).length
            simp only [List.length_append, ByteOrder.length_u16]
          · exact happend.offsets offset hoffset
      | endNested =>
          cases hoffsets : w.offsets with
          | nil =>
              have hstay : w.step order .endNested = w := by rw [Writer.step, hoffsets]
              rw [hstay]
              exact h
          | cons offset offsets =>
              have hend : w.step order .endNested =
                  ⟨w.buffer.endNested order offset, offsets⟩ := by rw [Writer.step, hoffsets]
              obtain ⟨hdvd, hle⟩ := h.offsets offset (by rw [hoffsets]; exact List.mem_cons_self)
              have hlength := length_endNested order h.size hdvd hle
              rw [hend]
              refine ⟨by rw [hlength]; exact h.size, fun o ho => ?_⟩
              rw [hlength]
              exact h.offsets o (by rw [hoffsets]; exact List.mem_cons_of_mem _ ho)
      | _ => cases hattr

lemma Aligned.run {w : Writer} (h : w.Aligned) (ops : List BufferOp) :
    (w.run order ops).Aligned := by
  induction ops generalizing w with
  | nil => exact h
  | cons op ops ih => exact ih (h.step op)

/-! ### The walk over a buffer -/

/-- The flags of a well-nested sequence, whose attributes without children have none. -/
lemma flagged_of_wellNested (h : WellNested order ops ts)
    (hplain : ∀ op ∈ ops, ∀ p, op.attr order = some p → Attributes.isNested p.1 = false) :
    ts.Flagged := by
  induction h with
  | nil => trivial
  | put h _ ih =>
      rw [List.forall_mem_cons] at hplain
      exact ⟨hplain.1 _ h, ih hplain.2⟩
  | nest type _ _ ihinner ih =>
      rw [List.forall_mem_cons, List.forall_mem_append, List.forall_mem_cons] at hplain
      obtain ⟨-, hinner, -, hops⟩ := hplain
      exact ⟨Attributes.isNested_or type, ihinner hinner, ih hops⟩

/-- **The attributes of a buffer.** A well-nested sequence of operations, whose attributes
have at most 65535 bytes each, on an aligned buffer: the walk over the bytes that it appends
finds the attributes that it wrote, by itself where no flag is set on attributes without
children; and the buffer is aligned after every operation. -/
theorem buffer_parses {b : NetlinkBuffer} (hb : 4 ∣ b.m_buf.length)
    (hops : WellNested order ops ts) (hfits : ts.Fits) :
    (∃ bytes, (run order ⟨b, []⟩ ops).buffer.m_buf = b.m_buf ++ bytes ∧
      ts.Reads order bytes ∧
      ((∀ op ∈ ops, ∀ p, op.attr order = some p → Attributes.isNested p.1 = false) →
        Attributes.parse order bytes = some ts)) ∧
    ∀ pre, pre <+: ops → 4 ∣ (run order ⟨b, []⟩ pre).buffer.m_buf.length := by
  have hreads := Attributes.reads_encode order hfits
  refine ⟨⟨ts.encode order, ?_, hreads, fun hplain => ?_⟩, fun pre _ => ?_⟩
  · rw [run_wellNested hops]
  · exact hreads.parse_eq (flagged_of_wellNested hops hplain)
  · have hstart : Aligned ⟨b, []⟩ := ⟨hb, List.forall_mem_nil _⟩
    exact (hstart.run pre).size

/-- A name, and a list of one peer with a key and a flag. -/
def onePeer : List BufferOp :=
  [.putAttrStr 2 "wg0", .startNested 8, .startNested 0, .putAttrRaw 1 (List.replicate 32 7),
    .putAttrU32 3 2, .endNested, .endNested]

/-- The attributes of a message with one peer. -/
theorem buffer_parses_onePeer :
    ∃ bytes, (run .littleEndian ⟨⟨List.replicate 20 0⟩, []⟩ onePeer).buffer.m_buf =
      List.replicate 20 0 ++ bytes ∧
      Attributes.parse .littleEndian bytes =
        some (.leaf 2 [0x77, 0x67, 0x30, 0] (.nest 0x8008 (.nest 0x8000
          (.leaf 1 (List.replicate 32 7) (.leaf 3 [2, 0, 0, 0] .nil)) .nil) .nil)) := by
  have hops : WellNested .littleEndian onePeer
      (.leaf 2 (QString.toUtf8 "wg0" ++ [0]) (.nest (NLA_F_NESTED ||| 8)
        (.nest (NLA_F_NESTED ||| 0) (.leaf 1 (List.replicate 32 7)
          (.leaf 3 (ByteOrder.littleEndian.u32 2) .nil)) .nil) .nil)) :=
    .put rfl (.nest 8 (.nest 0 (.put rfl (.put rfl .nil)) .nil) .nil)
  obtain ⟨⟨bytes, hbytes, -, hparse⟩, -⟩ :=
    buffer_parses (b := ⟨List.replicate 20 0⟩) (by decide) hops (by decide)
  exact ⟨bytes, hbytes, hparse (by decide)⟩

end Writer

end MeckChat.Network
