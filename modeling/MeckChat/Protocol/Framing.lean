import MeckChat.Foundation.Bytes

/-!
The binary frame of the peer-to-peer link (`framing.h`, `framing.cpp`).

A frame on the wire is the magic `MC`, a 16-bit type, a 32-bit payload length,
the payload, and a CRC-32 over everything before it, all big endian.

* `P2PFrame.encode` and `P2PFrame.decode` follow the source; `decode` reads
  raw memory, so it lives in `Checked`.
* `decode_eq_ok` is the specification of `decode`: it never faults, and it
  accepts exactly the strings `IsFrame` describes. The length test of the
  source casts a wrapping 32-bit sum to `int`; `length_test_iff` shows that the
  test passes only where the sum does not wrap.
* `decode_eq_some_iff`: `decode` accepts exactly the image of `encode`.
-/

namespace MeckChat.Protocol

/-- `FRAME_MAGIC`, the letters `MC`. -/
def FRAME_MAGIC : UInt16 := 0x4D43

/-- `enum class FrameType : uint16_t`. The enumeration has a fixed underlying
type, and `decode` casts any 16-bit value of the wire to it. -/
structure FrameType where
  raw : UInt16
  deriving DecidableEq, Repr, Inhabited

namespace FrameType

/-- The connection is alive. -/
def Heartbeat : FrameType := ⟨0x0001⟩
/-- A text. -/
def ChatMessage : FrameType := ⟨0x0002⟩
/-- A text was received, or read. -/
def MessageAck : FrameType := ⟨0x0003⟩
/-- The peer begins or stops to type. -/
def TypingIndicator : FrameType := ⟨0x0004⟩
/-- A file is offered. -/
def FileOffer : FrameType := ⟨0x0010⟩
/-- An offer is accepted. -/
def FileAccept : FrameType := ⟨0x0011⟩
/-- An offer is refused. -/
def FileReject : FrameType := ⟨0x0012⟩
/-- A piece of a file. -/
def FileChunk : FrameType := ⟨0x0013⟩
/-- A file is sent as a whole. -/
def FileComplete : FrameType := ⟨0x0014⟩
/-- A transfer is given up. -/
def FileCancel : FrameType := ⟨0x0015⟩

end FrameType

/-- `struct P2PFrame`. -/
structure P2PFrame where
  type : FrameType := FrameType.Heartbeat
  payload : Bytes := []
  deriving DecidableEq, Repr, Inhabited

namespace P2PFrame

/-! ### The checksum -/

/-- One bit of the checksum loop: the mask is all ones where the low bit is
set. -/
def crcBit (crc : UInt32) : UInt32 :=
  let mask : UInt32 := -(crc &&& 1)
  (crc >>> 1) ^^^ (0xEDB88320 &&& mask)

/-- One byte of the checksum loop. -/
def crcByte (crc : UInt32) (byte : UInt8) : UInt32 :=
  (List.range 8).foldl (fun crc _ => crcBit crc) (crc ^^^ byte.toUInt32)

/-- `P2PFrame::calculateCrc32`. -/
def calculateCrc32 (data : Bytes) : UInt32 :=
  ~~~(data.foldl crcByte 0xFFFFFFFF)

/-! ### Encoding -/

/-- What `encode` writes before the checksum. -/
def body (f : P2PFrame) : Bytes :=
  be16 FRAME_MAGIC ++ (be16 f.type.raw ++ (be32 (UInt32.ofNat f.payload.length) ++ f.payload))

/-- `P2PFrame::encode`. -/
def encode (f : P2PFrame) : Bytes :=
  let packet := f.body
  packet ++ be32 (calculateCrc32 packet)

@[simp] lemma length_body (f : P2PFrame) : f.body.length = 8 + f.payload.length := by
  simp only [body, List.length_append, length_be16, length_be32]
  omega

@[simp] lemma length_encode (f : P2PFrame) : f.encode.length = 12 + f.payload.length := by
  simp only [encode, List.length_append, length_body, length_be32]
  omega

/-! ### Decoding -/

/-- `P2PFrame::decode`. -/
def decode (data : Bytes) : Checked (Option P2PFrame) := do
  -- the minimum frame is 12 bytes
  if data.length < 12 then return none
  let magic ← readBE16 data 0
  if magic ≠ FRAME_MAGIC then return none
  let typeVal ← readBE16 data 2
  let payloadLen ← readBE32 data 4
  -- `12 + payloadLen` wraps in 32 bits before the cast to `int`
  if (data.length : ℤ) ≠ (12 + payloadLen).toInt32.toInt then return none
  let expectedCrc ← readBE32 data (8 + payloadLen.toNat)
  let checked ← readSlice data 0 (8 + payloadLen).toNat
  if expectedCrc ≠ calculateCrc32 checked then return none
  return some
    { type := ⟨typeVal⟩
      payload := if 0 < payloadLen then slice data 8 payloadLen.toNat else [] }

/-- The length test of `decode` passes only where nothing wraps: the sum stays
below `2 ^ 31` and is the length of the packet. -/
lemma length_test_iff {n : ℕ} (hn : 12 ≤ n) (payloadLen : UInt32) :
    (n : ℤ) = (12 + payloadLen).toInt32.toInt ↔ n = 12 + payloadLen.toNat ∧ n < 2 ^ 31 := by
  have hlt : payloadLen.toNat < 2 ^ 32 := payloadLen.toNat_lt
  have hsum : (12 + payloadLen).toNat = (12 + payloadLen.toNat) % 2 ^ 32 := UInt32.toNat_add _ _
  rw [toInt_toInt32, hsum]
  split_ifs with h <;> omega

/-- The byte strings `decode` accepts, field by field. -/
structure IsFrame (data : Bytes) : Prop where
  magic : ofBE16 (slice data 0 2) = FRAME_MAGIC
  length : data.length = 12 + (ofBE32 (slice data 4 4)).toNat
  small : data.length < 2 ^ 31
  crc : ofBE32 (slice data (data.length - 4) 4)
    = calculateCrc32 (slice data 0 (data.length - 4))

instance (data : Bytes) : Decidable (IsFrame data) :=
  decidable_of_iff
    (ofBE16 (slice data 0 2) = FRAME_MAGIC ∧ data.length = 12 + (ofBE32 (slice data 4 4)).toNat ∧
      data.length < 2 ^ 31 ∧
      ofBE32 (slice data (data.length - 4) 4) = calculateCrc32 (slice data 0 (data.length - 4)))
    ⟨fun ⟨h1, h2, h3, h4⟩ => ⟨h1, h2, h3, h4⟩, fun ⟨h1, h2, h3, h4⟩ => ⟨h1, h2, h3, h4⟩⟩

/-- The frame read off an accepted byte string. -/
def ofPacket (data : Bytes) : P2PFrame where
  type := ⟨ofBE16 (slice data 2 2)⟩
  payload := slice data 8 (data.length - 12)

/-- What `decode` makes of a packet, as a pure function. -/
def decodePacket (data : Bytes) : Option P2PFrame :=
  if IsFrame data then some (ofPacket data) else none

/-- The specification of `decode`: it never faults, and it accepts exactly the
well-formed strings. -/
theorem decode_eq_ok (data : Bytes) : decode data = .ok (decodePacket data) := by
  rw [decodePacket]
  by_cases h12 : data.length < 12
  · have hno : ¬ IsFrame data := fun h => by have := h.length; omega
    rw [decode, if_pos h12, if_neg hno, Checked.pure_eq]
  rw [decode, if_neg h12, readBE16_ok (by omega), readBE16_ok (by omega), readBE32_ok (by omega)]
  simp only [Checked.ok_bind, Checked.pure_eq]
  by_cases hmagic : ofBE16 (slice data 0 2) = FRAME_MAGIC
  swap
  · have hno : ¬ IsFrame data := fun h => hmagic h.magic
    rw [if_pos hmagic, if_neg hno]
  rw [if_neg (not_not.mpr hmagic)]
  have hiff := length_test_iff (n := data.length) (by omega) (ofBE32 (slice data 4 4))
  by_cases hlen : (data.length : ℤ) = (12 + ofBE32 (slice data 4 4)).toInt32.toInt
  swap
  · have hno : ¬ IsFrame data := fun h => hlen (hiff.mpr ⟨h.length, h.small⟩)
    rw [if_pos hlen, if_neg hno]
  -- past the length test the sum has not wrapped, so both reads are in bounds
  obtain ⟨hL, hsmall⟩ := hiff.mp hlen
  have hcrcLen : (8 + ofBE32 (slice data 4 4)).toNat = data.length - 4 := by
    have h8 : (8 : UInt32).toNat = 8 := rfl
    rw [UInt32.toNat_add, h8]
    omega
  have hcrcOff : 8 + (ofBE32 (slice data 4 4)).toNat = data.length - 4 := by omega
  rw [if_neg (not_not.mpr hlen), hcrcOff, hcrcLen, readBE32_ok (by omega), readSlice_ok (by omega)]
  simp only [Checked.ok_bind]
  by_cases hcrc : ofBE32 (slice data (data.length - 4) 4)
      = calculateCrc32 (slice data 0 (data.length - 4))
  swap
  · have hno : ¬ IsFrame data := fun h => hcrc h.crc
    rw [if_pos hcrc, if_neg hno]
  have hyes : IsFrame data := ⟨hmagic, hL, hsmall, hcrc⟩
  have hpay : (ofBE32 (slice data 4 4)).toNat = data.length - 12 := by omega
  rw [if_neg (not_not.mpr hcrc), if_pos hyes, ofPacket, hpay]
  congr 3
  split_ifs with hpos
  · rfl
  · have h0 : data.length - 12 = 0 := by
      rw [← hpay]
      simpa [UInt32.lt_iff_toNat_lt] using hpos
    simp [h0, slice]

/-- `decode` returns on every input, whatever the length field declares. -/
lemma decode_total (data : Bytes) : ∃ r, decode data = .ok r := ⟨_, decode_eq_ok data⟩

lemma decode_eq_some {data : Bytes} {f : P2PFrame} :
    decode data = .ok (some f) ↔ IsFrame data ∧ ofPacket data = f := by
  rw [decode_eq_ok, decodePacket]
  split_ifs with h <;> simp [h]

/-! ### The image of `encode` -/

/-- The fields of an encoding, in order. -/
lemma encode_eq (f : P2PFrame) : f.encode = be16 FRAME_MAGIC ++ (be16 f.type.raw ++
    (be32 (UInt32.ofNat f.payload.length) ++ (f.payload ++ be32 (calculateCrc32 f.body)))) := by
  simp [encode, body]

/-- An encoding of a payload short enough for its length field is accepted. -/
lemma isFrame_encode {f : P2PFrame} (h : f.payload.length < 2 ^ 31 - 12) : IsFrame f.encode := by
  have hlen : (UInt32.ofNat f.payload.length).toNat = f.payload.length := by
    rw [UInt32.toNat_ofNat']
    omega
  have hmagic : slice f.encode 0 2 = be16 FRAME_MAGIC :=
    slice_eq_of_append (a := []) f.encode_eq rfl (length_be16 _)
  have hfield : slice f.encode 4 4 = be32 (UInt32.ofNat f.payload.length) :=
    slice_eq_of_append (a := be16 FRAME_MAGIC ++ be16 f.type.raw)
      (c := f.payload ++ be32 (calculateCrc32 f.body)) (by rw [encode_eq]; simp)
      (by simp) (length_be32 _)
  have hcut : f.encode.length - 4 = f.body.length := by
    rw [length_encode, length_body]
    omega
  have hcrc : slice f.encode (f.encode.length - 4) 4 = be32 (calculateCrc32 f.body) :=
    slice_eq_of_append (c := []) (by rw [List.append_nil, encode]) hcut.symm (length_be32 _)
  have hchecked : slice f.encode 0 (f.encode.length - 4) = f.body :=
    slice_eq_of_append (a := []) (by rw [encode, List.nil_append]) rfl hcut.symm
  refine ⟨?_, ?_, ?_, ?_⟩
  · rw [hmagic, ofBE16_be16]
  · rw [hfield, ofBE32_be32, hlen, length_encode]
  · rw [length_encode]
    omega
  · rw [hcrc, hchecked, ofBE32_be32]

/-- `ofPacket` reads back the frame that was encoded. -/
lemma ofPacket_encode (f : P2PFrame) : ofPacket f.encode = f := by
  have htype : slice f.encode 2 2 = be16 f.type.raw :=
    slice_eq_of_append f.encode_eq (length_be16 _) (length_be16 _)
  have hpay : slice f.encode 8 f.payload.length = f.payload :=
    slice_eq_of_append
      (a := be16 FRAME_MAGIC ++ (be16 f.type.raw ++ be32 (UInt32.ofNat f.payload.length)))
      (c := be32 (calculateCrc32 f.body)) (by rw [encode_eq]; simp) (by simp) rfl
  have hcut : f.encode.length - 12 = f.payload.length := by simp
  rw [ofPacket, htype, ofBE16_be16, hcut, hpay]

/-- A well-formed string is the encoding of the frame read off it. -/
lemma encode_ofPacket {data : Bytes} (h : IsFrame data) : (ofPacket data).encode = data := by
  have hL := h.length
  have hpayLen : (ofPacket data).payload.length = data.length - 12 := length_slice (by omega)
  have hfield : UInt32.ofNat (ofPacket data).payload.length = ofBE32 (slice data 4 4) := by
    apply UInt32.toNat_inj.mp
    have hsmall := h.small
    rw [hpayLen, UInt32.toNat_ofNat']
    omega
  have hbody : (ofPacket data).body = slice data 0 (data.length - 4) := by
    rw [body, hfield, ← h.magic, be16_ofBE16 (length_slice (by omega)),
      be32_ofBE32 (length_slice (by omega))]
    show slice data 0 2 ++ (be16 (ofBE16 (slice data 2 2)) ++
      (slice data 4 4 ++ slice data 8 (data.length - 12))) = _
    rw [be16_ofBE16 (length_slice (by omega)), slice_append_slice data 4 4,
      slice_append_slice data 2 2, slice_append_slice data 0 2]
    congr 1
    omega
  rw [encode, hbody, ← h.crc, be32_ofBE32 (length_slice (by omega))]
  have hjoin := slice_append_slice data 0 (data.length - 4) 4
  rw [Nat.zero_add] at hjoin
  rw [hjoin, show data.length - 4 + 4 = data.length by omega, slice_self]

/-- `decode` accepts exactly the encodings of frames whose payload stays below
`2 ^ 31 - 12` bytes. -/
theorem decode_eq_some_iff (data : Bytes) (f : P2PFrame) :
    decode data = .ok (some f) ↔ data = f.encode ∧ f.payload.length < 2 ^ 31 - 12 := by
  rw [decode_eq_some]
  constructor
  · rintro ⟨h, rfl⟩
    have hlen := congrArg List.length (encode_ofPacket h)
    rw [length_encode] at hlen
    exact ⟨(encode_ofPacket h).symm, by have := h.small; omega⟩
  · rintro ⟨rfl, h⟩
    exact ⟨isFrame_encode h, ofPacket_encode f⟩

/-- **The frame codec.** `decode` yields `f` on exactly one string, the encoding
of `f`, and only for a payload below `2 ^ 31 - 12` bytes; whatever length a
string declares, `decode` reads nothing outside of it. -/
theorem decode_accepts_exactly_encodings :
    (∀ (d : Bytes) (f : P2PFrame),
      decode d = .ok (some f) ↔ d = f.encode ∧ f.payload.length < 2 ^ 31 - 12) ∧
    ∀ d : Bytes, ∃ r, decode d = .ok r :=
  ⟨decode_eq_some_iff, decode_total⟩

example : decode ({ type := .Heartbeat, payload := [1, 2] } : P2PFrame).encode
    = .ok (some { type := .Heartbeat, payload := [1, 2] }) := by decide +kernel

end P2PFrame

end MeckChat.Protocol
