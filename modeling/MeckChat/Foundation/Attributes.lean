import MeckChat.Foundation.Bytes

/-!
Attributes with 16-bit lengths, the format of netlink messages.

* `ByteOrder` is the byte order of the machine, in which the fields are written.
* `Attributes` is a list of attributes, whose content is data or again a list of
  attributes; `encode` writes it and `size` is the number of bytes.
* `Fits` says that the length of every attribute can be written in 16 bits.
* `readAttr` is one step of the standard walk. `Reads` is the walk with the nested
  attributes known from elsewhere, `parse` the one that goes by the flag in their types;
  `reads_encode` and `Reads.parse_eq` are the two round trips.
* `places` lists where the attributes lie and how long they are;
  `lengths_true_iff`: all the length fields are right exactly if the attributes fit.
-/

/-- The byte order of a machine. -/
inductive ByteOrder where
  | littleEndian
  | bigEndian
  deriving DecidableEq, Repr

namespace ByteOrder

/-- The two bytes of a 16-bit value. -/
def u16 : ByteOrder → UInt16 → Bytes
  | .littleEndian, v => (be16 v).reverse
  | .bigEndian, v => be16 v

/-- The four bytes of a 32-bit value. -/
def u32 : ByteOrder → UInt32 → Bytes
  | .littleEndian, v => (be32 v).reverse
  | .bigEndian, v => be32 v

/-- The 16-bit value of a field. -/
def ofU16 : ByteOrder → Bytes → UInt16
  | .littleEndian, bs => ofBE16 bs.reverse
  | .bigEndian, bs => ofBE16 bs

/-- The 32-bit value of a field. -/
def ofU32 : ByteOrder → Bytes → UInt32
  | .littleEndian, bs => ofBE32 bs.reverse
  | .bigEndian, bs => ofBE32 bs

variable (order : ByteOrder)

@[simp] lemma length_u16 (v : UInt16) : (order.u16 v).length = 2 := by
  cases order
  · rw [u16, List.length_reverse, length_be16]
  · exact length_be16 v

@[simp] lemma length_u32 (v : UInt32) : (order.u32 v).length = 4 := by
  cases order
  · rw [u32, List.length_reverse, length_be32]
  · exact length_be32 v

@[simp] lemma ofU16_u16 (v : UInt16) : order.ofU16 (order.u16 v) = v := by
  cases order
  · rw [u16, ofU16, List.reverse_reverse, ofBE16_be16]
  · exact ofBE16_be16 v

@[simp] lemma ofU32_u32 (v : UInt32) : order.ofU32 (order.u32 v) = v := by
  cases order
  · rw [u32, ofU32, List.reverse_reverse, ofBE32_be32]
  · exact ofBE32_be32 v

end ByteOrder

/-! ### One attribute -/

/-- The size of the header of an attribute. -/
def NLA_HDRLEN : ℕ := 4

/-- A length rounded up to a multiple of four. -/
def NLA_ALIGN (len : ℕ) : ℕ := (len + 3) / 4 * 4

/-- The flag in the type of a nested attribute. -/
def NLA_F_NESTED : UInt16 := 0x8000

lemma le_NLA_ALIGN (len : ℕ) : len ≤ NLA_ALIGN len := by
  rw [NLA_ALIGN]
  omega

lemma dvd_NLA_ALIGN (len : ℕ) : 4 ∣ NLA_ALIGN len := Nat.dvd_mul_left _ _

lemma NLA_ALIGN_of_dvd {len : ℕ} (h : 4 ∣ len) : NLA_ALIGN len = len := by
  rw [NLA_ALIGN]
  omega

/-- The bytes behind an attribute of a length. -/
def padding (len : ℕ) : Bytes := List.replicate (NLA_ALIGN len - len) 0

@[simp] lemma length_padding (len : ℕ) : (padding len).length = NLA_ALIGN len - len :=
  List.length_replicate

/-- The padding does not change if the length is cut to 16 bits. -/
lemma padding_mod (len : ℕ) : padding (len % 65536) = padding len := by
  have heq : NLA_ALIGN (len % 65536) - len % 65536 = NLA_ALIGN len - len := by
    rw [NLA_ALIGN, NLA_ALIGN]
    omega
  rw [padding, padding, heq]

section Format

variable (order : ByteOrder)

/-- The bytes of an attribute. A length of more than 16 bits is cut. -/
def nlattr (type : UInt16) (content : Bytes) : Bytes :=
  order.u16 (UInt16.ofNat (NLA_HDRLEN + content.length)) ++ order.u16 type ++ content ++
    padding (NLA_HDRLEN + content.length)

lemma length_nlattr (type : UInt16) (content : Bytes) :
    (nlattr order type content).length = NLA_ALIGN (NLA_HDRLEN + content.length) := by
  have hle := le_NLA_ALIGN (NLA_HDRLEN + content.length)
  simp only [nlattr, List.length_append, ByteOrder.length_u16, length_padding]
  rw [NLA_HDRLEN] at hle ⊢
  omega

/-- The length field at an offset. -/
def lengthAt (bs : Bytes) (offset : ℕ) : ℕ := (order.ofU16 (slice bs offset 2)).toNat

/-- The length field in front of something written. -/
lemma lengthAt_append (before after : Bytes) (len : UInt16) :
    lengthAt order (before ++ (order.u16 len ++ after)) before.length = len.toNat := by
  rw [lengthAt, slice_eq_of_append rfl rfl (order.length_u16 len), ByteOrder.ofU16_u16]

/-- One step of the standard walk: the type and the content of the first attribute, and
what follows it. -/
def readAttr (bs : Bytes) : Option (UInt16 × Bytes × Bytes) :=
  let nla_len := lengthAt order bs 0
  if bs.length < NLA_HDRLEN ∨ nla_len < NLA_HDRLEN ∨ bs.length < nla_len then none
  else
    some (order.ofU16 (slice bs 2 2), slice bs NLA_HDRLEN (nla_len - NLA_HDRLEN),
      bs.drop (NLA_ALIGN nla_len))

/-- **One step.** An attribute that fits is read back. -/
lemma readAttr_nlattr (type : UInt16) {content : Bytes}
    (h : NLA_HDRLEN + content.length ≤ 65535) (tail : Bytes) :
    readAttr order (nlattr order type content ++ tail) = some (type, content, tail) := by
  obtain ⟨len, hlen⟩ : ∃ len, len = UInt16.ofNat (NLA_HDRLEN + content.length) := ⟨_, rfl⟩
  have htoNat : len.toNat = NLA_HDRLEN + content.length := by
    rw [hlen, UInt16.toNat_ofNat', Nat.mod_eq_of_lt (by omega)]
  have hbytes : nlattr order type content ++ tail = order.u16 len ++ (order.u16 type ++
      (content ++ (padding (NLA_HDRLEN + content.length) ++ tail))) := by
    simp only [nlattr, hlen, List.append_assoc]
  have hlength : lengthAt order (nlattr order type content ++ tail) 0 =
      NLA_HDRLEN + content.length := by
    rw [hbytes, ← htoNat]
    exact lengthAt_append order [] _ len
  have hsize : NLA_HDRLEN + content.length ≤ (nlattr order type content ++ tail).length := by
    have hle := le_NLA_ALIGN (NLA_HDRLEN + content.length)
    rw [List.length_append, length_nlattr]
    omega
  have htype : slice (nlattr order type content ++ tail) 2 2 = order.u16 type :=
    slice_eq_of_append hbytes (order.length_u16 len) (order.length_u16 type)
  have hcontent : slice (nlattr order type content ++ tail) NLA_HDRLEN content.length =
      content := by
    have hparts : nlattr order type content ++ tail = (order.u16 len ++ order.u16 type) ++
        (content ++ (padding (NLA_HDRLEN + content.length) ++ tail)) := by
      rw [hbytes, List.append_assoc]
    refine slice_eq_of_append hparts ?_ rfl
    rw [List.length_append, ByteOrder.length_u16, ByteOrder.length_u16, NLA_HDRLEN]
  have hdrop : (nlattr order type content ++ tail).drop
      (NLA_ALIGN (NLA_HDRLEN + content.length)) = tail := by
    rw [← length_nlattr order type content, List.drop_left]
  rw [readAttr, hlength, if_neg (by omega), htype, ByteOrder.ofU16_u16,
    Nat.add_sub_cancel_left, hcontent, hdrop]

variable {order}

/-- A step takes something off. -/
lemma readAttr_lt {bs content tail : Bytes} {type : UInt16}
    (h : readAttr order bs = some (type, content, tail)) :
    content.length < bs.length ∧ tail.length < bs.length := by
  rw [readAttr] at h
  split_ifs at h with hbad
  obtain ⟨-, rfl, rfl⟩ := by
    rw [Option.some.injEq, Prod.mk.injEq, Prod.mk.injEq] at h
    exact h
  have hle := le_NLA_ALIGN (lengthAt order bs 0)
  simp only [slice, List.length_take, List.length_drop]
  rw [NLA_HDRLEN] at hbad ⊢
  omega

end Format

/-! ### Lists of attributes -/

/-- A list of attributes. Types are those of the header, with its flags. -/
inductive Attributes where
  | nil
  | leaf (type : UInt16) (data : Bytes) (rest : Attributes)
  | nest (type : UInt16) (children rest : Attributes)
  deriving DecidableEq, Repr

namespace Attributes

/-- The number of bytes written. -/
def size : Attributes → ℕ
  | nil => 0
  | leaf _ data rest => NLA_ALIGN (NLA_HDRLEN + data.length) + rest.size
  | nest _ children rest => NLA_ALIGN (NLA_HDRLEN + children.size) + rest.size

/-- The bytes written. -/
def encode (order : ByteOrder) : Attributes → Bytes
  | nil => []
  | leaf type data rest => nlattr order type data ++ rest.encode order
  | nest type children rest =>
      nlattr order type (children.encode order) ++ rest.encode order

/-- The header and the content of each attribute have at most 65535 bytes. -/
def Fits : Attributes → Prop
  | nil => True
  | leaf _ data rest => NLA_HDRLEN + data.length ≤ 65535 ∧ rest.Fits
  | nest _ children rest =>
      NLA_HDRLEN + children.size ≤ 65535 ∧ children.Fits ∧ rest.Fits

instance decidableFits : (ts : Attributes) → Decidable ts.Fits
  | nil => isTrue trivial
  | leaf _ data rest =>
      have := rest.decidableFits
      inferInstanceAs (Decidable (NLA_HDRLEN + data.length ≤ 65535 ∧ rest.Fits))
  | nest _ children rest =>
      have := children.decidableFits
      have := rest.decidableFits
      inferInstanceAs
        (Decidable (NLA_HDRLEN + children.size ≤ 65535 ∧ children.Fits ∧ rest.Fits))

/-- One list behind another. -/
def append : Attributes → Attributes → Attributes
  | nil, us => us
  | leaf type data rest, us => leaf type data (rest.append us)
  | nest type children rest, us => nest type children (rest.append us)

@[simp] lemma length_encode (order : ByteOrder) (ts : Attributes) :
    (ts.encode order).length = ts.size := by
  induction ts with
  | nil => rfl
  | leaf type data rest ih =>
      rw [encode, List.length_append, length_nlattr, ih, size]
  | nest type children rest ihc ih =>
      rw [encode, List.length_append, length_nlattr, ihc, ih, size]

lemma dvd_size (ts : Attributes) : 4 ∣ ts.size := by
  induction ts with
  | nil => exact Nat.dvd_zero 4
  | leaf type data rest ih => exact Nat.dvd_add (dvd_NLA_ALIGN _) ih
  | nest type children rest _ ih => exact Nat.dvd_add (dvd_NLA_ALIGN _) ih

@[simp] lemma append_nil (ts : Attributes) : ts.append nil = ts := by
  induction ts with
  | nil => rfl
  | leaf type data rest ih => rw [append, ih]
  | nest type children rest _ ih => rw [append, ih]

lemma encode_append (order : ByteOrder) (ts us : Attributes) :
    (ts.append us).encode order = ts.encode order ++ us.encode order := by
  induction ts with
  | nil => rfl
  | leaf type data rest ih => rw [append, encode, ih, encode, List.append_assoc]
  | nest type children rest _ ih => rw [append, encode, ih, encode, List.append_assoc]

lemma size_append (ts us : Attributes) : (ts.append us).size = ts.size + us.size := by
  induction ts with
  | nil => rw [append, size, Nat.zero_add]
  | leaf type data rest ih => rw [append, size, ih, size, Nat.add_assoc]
  | nest type children rest _ ih => rw [append, size, ih, size, Nat.add_assoc]

lemma fits_append (ts us : Attributes) : (ts.append us).Fits ↔ ts.Fits ∧ us.Fits := by
  induction ts with
  | nil => rw [append, Fits, true_and]
  | leaf type data rest ih => rw [append, Fits, ih, Fits, and_assoc]
  | nest type children rest _ ih => rw [append, Fits, ih, Fits, and_assoc, and_assoc]

/-- A list that is short enough as a whole fits. -/
lemma fits_of_size_le {ts : Attributes} (h : ts.size ≤ 65535) : ts.Fits := by
  induction ts with
  | nil => trivial
  | leaf type data rest ih =>
      rw [size] at h
      have hle := le_NLA_ALIGN (NLA_HDRLEN + data.length)
      exact ⟨by omega, ih (by omega)⟩
  | nest type children rest ihc ih =>
      rw [size] at h
      have hle := le_NLA_ALIGN (NLA_HDRLEN + children.size)
      exact ⟨by omega, ihc (by omega), ih (by omega)⟩

/-- A nested attribute fits if its own length does. -/
lemma fits_nest {type : UInt16} {children rest : Attributes} :
    (nest type children rest).Fits ↔ NLA_HDRLEN + children.size ≤ 65535 ∧ rest.Fits := by
  constructor
  · rintro ⟨hlen, -, hrest⟩
    exact ⟨hlen, hrest⟩
  · rintro ⟨hlen, hrest⟩
    exact ⟨hlen, fits_of_size_le (by omega), hrest⟩

/-! ### The standard walk -/

/-- The walk over the attributes, that goes into the nested ones. -/
inductive Reads (order : ByteOrder) : Bytes → Attributes → Prop where
  | nil : Reads order [] nil
  | leaf {bs data tail : Bytes} {type : UInt16} {rest : Attributes}
      (h : readAttr order bs = some (type, data, tail)) (hrest : Reads order tail rest) :
      Reads order bs (leaf type data rest)
  | nest {bs content tail : Bytes} {type : UInt16} {children rest : Attributes}
      (h : readAttr order bs = some (type, content, tail))
      (hchildren : Reads order content children) (hrest : Reads order tail rest) :
      Reads order bs (nest type children rest)

/-- **Round trip.** The walk over what was written. -/
theorem reads_encode (order : ByteOrder) {ts : Attributes} (h : ts.Fits) :
    Reads order (ts.encode order) ts := by
  induction ts with
  | nil => exact .nil
  | leaf type data rest ih =>
      obtain ⟨hlen, hrest⟩ := h
      exact .leaf (readAttr_nlattr order type hlen _) (ih hrest)
  | nest type children rest ihc ih =>
      obtain ⟨hlen, hchildren, hrest⟩ := h
      rw [← length_encode order] at hlen
      exact .nest (readAttr_nlattr order type hlen _) (ihc hchildren) (ih hrest)

/-- The type of a nested attribute. -/
def isNested (type : UInt16) : Bool := type &&& NLA_F_NESTED ≠ 0

/-- The flag of a type that was given it. -/
lemma isNested_or (type : UInt16) : isNested (NLA_F_NESTED ||| type) = true := by
  have hflag : (NLA_F_NESTED ||| type) &&& NLA_F_NESTED = NLA_F_NESTED := by
    apply UInt16.toBitVec_inj.mp
    simp only [UInt16.toBitVec_and, UInt16.toBitVec_or]
    ext i hi
    simp only [BitVec.getElem_and, BitVec.getElem_or]
    cases NLA_F_NESTED.toBitVec[i] <;> simp
  rw [isNested, hflag]
  rfl

/-- The walk that goes by the flag in the types. Bytes left over are refused. -/
def parse (order : ByteOrder) (bs : Bytes) : Option Attributes :=
  if bs = [] then some nil
  else
    match h : readAttr order bs with
    | none => none
    | some (type, content, tail) =>
        have := readAttr_lt h
        if isNested type then
          (parse order content).bind fun children =>
            (parse order tail).map fun rest => nest type children rest
        else (parse order tail).map fun rest => leaf type content rest
termination_by bs.length

/-- The flag is set in the types of the nested attributes, and in no other. -/
def Flagged : Attributes → Prop
  | nil => True
  | leaf type _ rest => isNested type = false ∧ rest.Flagged
  | nest type children rest => isNested type = true ∧ children.Flagged ∧ rest.Flagged

lemma flagged_append (ts us : Attributes) :
    (ts.append us).Flagged ↔ ts.Flagged ∧ us.Flagged := by
  induction ts with
  | nil => rw [append, Flagged, true_and]
  | leaf type data rest ih => rw [append, Flagged, ih, Flagged, and_assoc]
  | nest type children rest _ ih => rw [append, Flagged, ih, Flagged, and_assoc, and_assoc]

lemma parse_nil (order : ByteOrder) : parse order [] = some nil := by
  rw [parse, if_pos rfl]

lemma parse_of_readAttr {order : ByteOrder} {bs content tail : Bytes} {type : UInt16}
    (h : readAttr order bs = some (type, content, tail)) :
    parse order bs =
      if isNested type then
        (parse order content).bind fun children =>
          (parse order tail).map fun rest => nest type children rest
      else (parse order tail).map fun rest => leaf type content rest := by
  have hne : bs ≠ [] := by
    rintro rfl
    exact absurd (readAttr_lt h).1 (Nat.not_lt_zero _)
  rw [parse, if_neg hne]
  split
  · rename_i hnone
    exact absurd (hnone.symm.trans h) nofun
  · rename_i type' content' tail' hsome
    obtain ⟨rfl, rfl, rfl⟩ : type' = type ∧ content' = content ∧ tail' = tail := by
      have heq := hsome.symm.trans h
      simpa only [Option.some.injEq, Prod.mk.injEq] using heq
    rfl

/-- **The two walks.** Where the flags are set as they should be, the walk by the flags
finds the nested attributes itself. -/
theorem Reads.parse_eq {order : ByteOrder} {bs : Bytes} {ts : Attributes}
    (h : Reads order bs ts) (hflags : ts.Flagged) : parse order bs = some ts := by
  induction h with
  | nil => exact parse_nil order
  | leaf h _ ih =>
      obtain ⟨htype, hrest⟩ := hflags
      rw [parse_of_readAttr h, if_neg (by rw [htype]; exact Bool.false_ne_true), ih hrest]
      rfl
  | nest h _ _ ihc ih =>
      obtain ⟨htype, hchildren, hrest⟩ := hflags
      rw [parse_of_readAttr h, if_pos htype, ihc hchildren, ih hrest]
      rfl

/-! ### The length fields -/

/-- Where the attributes lie and how long they are, in order. -/
def places (start : ℕ) : Attributes → List (ℕ × ℕ)
  | nil => []
  | leaf _ data rest =>
      (start, NLA_HDRLEN + data.length) ::
        rest.places (start + NLA_ALIGN (NLA_HDRLEN + data.length))
  | nest _ children rest =>
      (start, NLA_HDRLEN + children.size) :: (children.places (start + NLA_HDRLEN) ++
        rest.places (start + NLA_ALIGN (NLA_HDRLEN + children.size)))

lemma fits_iff (start : ℕ) (ts : Attributes) :
    ts.Fits ↔ ∀ p ∈ ts.places start, p.2 ≤ 65535 := by
  induction ts generalizing start with
  | nil => exact iff_of_true trivial (List.forall_mem_nil _)
  | leaf type data rest ih => rw [Fits, places, List.forall_mem_cons, ← ih]
  | nest type children rest ihc ih =>
      rw [Fits, places, List.forall_mem_cons, List.forall_mem_append, ← ihc, ← ih]

/-- A length field holds the length of its attribute, cut to 16 bits. -/
lemma lengthAt_places (order : ByteOrder) (ts : Attributes) (before after : Bytes) {p : ℕ × ℕ}
    (hp : p ∈ ts.places before.length) :
    lengthAt order (before ++ (ts.encode order ++ after)) p.1 = p.2 % 65536 := by
  induction ts generalizing before after with
  | nil => cases hp
  | leaf type data rest ih =>
      rw [places, List.mem_cons] at hp
      rcases hp with rfl | hp
      · rw [encode, nlattr, List.append_assoc, List.append_assoc, List.append_assoc,
          List.append_assoc, lengthAt_append, UInt16.toNat_ofNat']
      · rw [← length_nlattr order type data, ← List.length_append] at hp
        rw [encode, List.append_assoc, ← List.append_assoc, ih _ _ hp]
  | nest type children rest ihc ih =>
      rw [places, List.mem_cons, List.mem_append] at hp
      rcases hp with rfl | hp | hp
      · rw [encode, nlattr, List.append_assoc, List.append_assoc, List.append_assoc,
          List.append_assoc, lengthAt_append, UInt16.toNat_ofNat', length_encode]
      · obtain ⟨header, hheader⟩ : ∃ header, header =
            order.u16 (UInt16.ofNat (NLA_HDRLEN + (children.encode order).length)) ++
              order.u16 type := ⟨_, rfl⟩
        have hlength : header.length = NLA_HDRLEN := by
          rw [hheader, List.length_append, ByteOrder.length_u16, ByteOrder.length_u16,
            NLA_HDRLEN]
        rw [← hlength, ← List.length_append] at hp
        rw [encode, nlattr, ← hheader, List.append_assoc, List.append_assoc,
          List.append_assoc, ← List.append_assoc, ihc _ _ hp]
      · rw [← length_encode order children, ← length_nlattr order type,
          ← List.length_append] at hp
        rw [encode, List.append_assoc, ← List.append_assoc, ih _ _ hp]

/-- **The length fields.** They all hold the true lengths exactly if the attributes fit. -/
theorem lengths_true_iff (order : ByteOrder) (ts : Attributes) (before after : Bytes) :
    (∀ p ∈ ts.places before.length,
      lengthAt order (before ++ (ts.encode order ++ after)) p.1 = p.2) ↔ ts.Fits := by
  rw [fits_iff before.length]
  refine forall₂_congr fun p hp => ?_
  rw [lengthAt_places order ts before after hp]
  omega

end Attributes
