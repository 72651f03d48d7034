import MeckChat.Network.MqttSignaling
import MeckChat.Network.StreamBuffer
import MeckChat.Protocol.FileMessages

/-!
The `int` arithmetic and the reads of the decoders.

* In the namespace `Raw`: the readers of the signaling client once more, with the types of the
  source: positions are `int` values, sums of them and reads are checked.
* `Raw.decodeVariableLength_eq` and `Raw.decodeUtf8String_eq` say when these readers fault, and
  that they are the functions of `MqttCodec` where they do not. `Raw.incomingPass_eq` and
  `Raw.readPublish_eq` do so for a pass of `processIncomingData` and its handlers, which never
  fault.
* `FileChunk.decode_ok_iff` is the decoder of chunks, whose sum can leave the range of `int`.
* `decoders_safe_iff` puts the six decoders together.
-/

namespace MeckChat.Network

open MeckChat.Protocol StreamDecoder

namespace Raw

/-! ### The readers of the signaling client -/

/-- `buf.at(pos)`. -/
def readByte (buf : Bytes) (pos : ℤ) : Checked UInt8 :=
  if 0 ≤ pos ∧ pos < buf.length then .ok (buf.getD pos.toNat 0) else .error .outOfBounds

/-- The loop of `decodeVariableLength`. -/
def decodeLoop (buf : Bytes) (offset : ℤ) :
    ℕ → UInt32 → UInt32 → ℤ → Checked (Option (UInt32 × ℤ))
  | 0, _, _, _ => .error .outOfFuel
  | fuel + 1, multiplier, value, bytesConsumed => do
      if (buf.length : ℤ) ≤ (← addInt offset bytesConsumed) then
        return none
      let byte ← readByte buf (← addInt offset bytesConsumed)
      let bytesConsumed ← addInt bytesConsumed 1
      let value := value + (byte &&& 127).toUInt32 * multiplier
      if multiplier > 128 * 128 * 128 then
        return none
      let multiplier := multiplier * 128
      if byte &&& 128 = 0 then
        return some (value, bytesConsumed)
      if bytesConsumed ≥ 4 then
        return none
      decodeLoop buf offset fuel multiplier value bytesConsumed

/-- `MqttSignalingClient::decodeVariableLength`; the loop ends after four bytes. -/
def decodeVariableLength (buf : Bytes) (offset : ℤ) : Checked (Option (UInt32 × ℤ)) :=
  decodeLoop buf offset 5 1 0 0

/-- `MqttSignalingClient::decodeUtf8String`: the text, and the offset behind it. -/
def decodeUtf8String (buf : Bytes) (offset : ℤ) : Checked (Option (String × ℤ)) := do
  if (← addInt offset 2) > buf.length then
    return none
  let len ← readBE16 buf offset.toNat
  let offset ← addInt offset 2
  if (← addInt offset len.toNat) > buf.length then
    return none
  let str := QString.fromUtf8 (slice buf offset.toNat len.toNat)
  return some (str, ← addInt offset len.toNat)

/-- The reads of `handlePublish`: topic, packet id and payload. -/
def readPublish (header : UInt8) (data : Bytes) :
    Checked (Option (String × Option UInt16 × Bytes)) := do
  match ← decodeUtf8String data 0 with
  | none => return none
  | some (topic, offset) =>
      if (header >>> 1) &&& 0x03 > 0 then
        if (← addInt offset 2) > data.length then
          return none
        let packetId ← readBE16 data offset.toNat
        let offset ← addInt offset 2
        return some (topic, some packetId, data.drop offset.toNat)
      return some (topic, none, data.drop offset.toNat)

/-- The reads of the `switch` of `processIncomingData`. -/
def readPacket (header : UInt8) (data : Bytes) : Checked Unit := do
  let packetType := header &&& 0xF0
  if packetType = PacketType.CONNACK then
    if data.length < 2 then
      return ()
    let _ ← readByte data 1
    return ()
  if packetType = PacketType.PUBLISH then
    let _ ← readPublish header data
    return ()
  if packetType = PacketType.PUBACK then
    if data.length ≥ 2 then
      let _ ← readBE16 data 0
      return ()
    return ()
  return ()

/-- One pass through the loop of `processIncomingData`: what it makes of the buffer. -/
def incomingPass (buffer : Bytes) : Checked (Verdict (UInt8 × Bytes)) := do
  if buffer.length < 2 then
    return .wait
  let header ← readByte buffer 0
  match ← decodeVariableLength buffer 1 with
  | none => return (if buffer.length > 5 then .flush else .wait)
  | some (remainingLength, bytesConsumed) =>
      let front ← addInt 1 bytesConsumed
      -- the sum with a `quint32` is unsigned, and cast back
      let totalFrameSize := (UInt32.ofNat front.toNat + remainingLength).toInt32.toInt
      if (buffer.length : ℤ) < totalFrameSize then
        return .wait
      let framePayload ← readSlice buffer front.toNat remainingLength.toNat
      let _ ← readPacket header framePayload
      return .drop totalFrameSize.toNat (some (header, framePayload))

/-! ### Remaining lengths -/

lemma readByte_ok {buf : Bytes} {pos : ℕ} (h : pos < buf.length) :
    readByte buf pos = .ok (buf.getD pos 0) := by
  rw [readByte, if_pos (by omega), Int.toNat_natCast]

lemma toUInt32_eq_ofNat (byte : UInt8) : byte.toUInt32 = UInt32.ofNat byte.toNat := by
  apply UInt32.toNat_inj.mp
  have hlt : byte.toNat < 256 := byte.toNat_lt
  rw [UInt8.toNat_toUInt32, UInt32.toNat_ofNat', Nat.mod_eq_of_lt (by omega)]

/-- The `int` sum of the loop leaves its range once `bytesConsumed` bytes are read: the bytes
from there to position `2 ^ 31` exist, and they all have the continuation bit. -/
def OverflowsFrom (buf : Bytes) (offset bytesConsumed : ℕ) : Prop :=
  2 ^ 31 ≤ offset + 3 ∧ 2 ^ 31 ≤ buf.length ∧
    ∀ byte ∈ slice buf (offset + bytesConsumed) (2 ^ 31 - (offset + bytesConsumed)),
      128 ≤ byte.toNat

/-- The `int` sum of the loop leaves its range: a length that starts in the last three bytes
below position `2 ^ 31` goes on beyond it. -/
def LengthOverflows (buf : Bytes) (offset : ℕ) : Prop := OverflowsFrom buf offset 0

/-- The result of the loop over numbers, with the types of the source. -/
def cast (r : Option (ℕ × ℕ)) : Option (UInt32 × ℤ) :=
  r.map fun p => (UInt32.ofNat p.1, (p.2 : ℤ))

/-- The loop at the end of the buffer. -/
lemma decodeLoop_end {buf : Bytes} {offset bytesConsumed fuel : ℕ} (multiplier value : UInt32)
    (hint : offset + bytesConsumed < 2 ^ 31) (hend : buf.length ≤ offset + bytesConsumed) :
    decodeLoop buf offset (fuel + 1) multiplier value bytesConsumed = .ok none := by
  rw [decodeLoop, addInt_ok (by omega), Checked.ok_bind, if_pos (by omega), Checked.pure_eq]

/-- One pass of the loop inside of the buffer. -/
lemma decodeLoop_byte {buf : Bytes} {offset bytesConsumed fuel : ℕ} (multiplier value : UInt32)
    (hint : offset + bytesConsumed < 2 ^ 31) (hin : offset + bytesConsumed < buf.length)
    (hfour : bytesConsumed < 4) (hmult : ¬ multiplier > 128 * 128 * 128) :
    decodeLoop buf offset (fuel + 1) multiplier value bytesConsumed =
      if buf.getD (offset + bytesConsumed) 0 &&& 128 = 0 then
        .ok (some (value + (buf.getD (offset + bytesConsumed) 0 &&& 127).toUInt32 * multiplier,
          (bytesConsumed + 1 : ℕ)))
      else if bytesConsumed + 1 ≥ 4 then .ok none
      else decodeLoop buf offset fuel (multiplier * 128)
        (value + (buf.getD (offset + bytesConsumed) 0 &&& 127).toUInt32 * multiplier)
        (bytesConsumed + 1 : ℕ) := by
  have hsum : addInt (offset : ℤ) bytesConsumed = .ok ((offset + bytesConsumed : ℕ) : ℤ) := by
    rw [addInt_ok (by omega), Nat.cast_add]
  have hnext : addInt (bytesConsumed : ℤ) 1 = .ok ((bytesConsumed + 1 : ℕ) : ℤ) := by
    rw [addInt_ok (by omega), Nat.cast_succ]
  rw [decodeLoop, hsum, Checked.ok_bind, if_neg (by omega), Checked.ok_bind, readByte_ok hin,
    Checked.ok_bind, hnext, Checked.ok_bind]
  simp only [if_neg hmult, Checked.pure_eq]
  by_cases hlast : buf.getD (offset + bytesConsumed) 0 &&& 128 = 0
  · rw [if_pos hlast, if_pos hlast]
  · rw [if_neg hlast, if_neg hlast]
    by_cases hmore : bytesConsumed + 1 ≥ 4
    · rw [if_pos hmore, if_pos (by omega)]
    · rw [if_neg hmore, if_neg (by omega)]

/-- What is left of the string from the byte at an offset on. -/
lemma drop_eq_getD_cons {buf : Bytes} {i : ℕ} (h : i < buf.length) :
    buf.drop i = buf.getD i 0 :: buf.drop (i + 1) := by
  rw [List.drop_eq_getElem_cons h, List.getD_eq_getElem?_getD, List.getElem?_eq_getElem h,
    Option.getD_some]

/-- A slice inside of the string starts with the byte at its offset. -/
lemma slice_succ {buf : Bytes} {i : ℕ} (h : i < buf.length) (n : ℕ) :
    slice buf i (n + 1) = buf.getD i 0 :: slice buf (i + 1) n := by
  rw [slice, slice, drop_eq_getD_cons h, List.take_succ_cons]

/-- One byte with the continuation bit moves the place of the overflow no further. -/
lemma overflowsFrom_succ {buf : Bytes} {offset bytesConsumed : ℕ}
    (hint : offset + bytesConsumed < 2 ^ 31) (hin : offset + bytesConsumed < buf.length) :
    OverflowsFrom buf offset bytesConsumed ↔
      128 ≤ (buf.getD (offset + bytesConsumed) 0).toNat ∧
        OverflowsFrom buf offset (bytesConsumed + 1) := by
  rw [OverflowsFrom, OverflowsFrom, show 2 ^ 31 - (offset + bytesConsumed) =
    2 ^ 31 - (offset + (bytesConsumed + 1)) + 1 by omega, slice_succ hin, List.forall_mem_cons,
    ← Nat.add_assoc]
  tauto

/-- The loop with `bytesConsumed` bytes behind it: it overflows, or it is the loop over
numbers. -/
lemma decodeLoop_eq {buf : Bytes} {offset bytesConsumed fuel : ℕ} (value : ℕ)
    (hfuel : bytesConsumed + fuel = 5) (hfour : bytesConsumed < 4)
    (hint : offset + bytesConsumed ≤ 2 ^ 31) (hin : offset + bytesConsumed ≤ buf.length) :
    (OverflowsFrom buf offset bytesConsumed →
      decodeLoop buf offset fuel (UInt32.ofNat (128 ^ bytesConsumed)) (UInt32.ofNat value)
        bytesConsumed = .error .signedOverflow) ∧
    (¬ OverflowsFrom buf offset bytesConsumed →
      decodeLoop buf offset fuel (UInt32.ofNat (128 ^ bytesConsumed)) (UInt32.ofNat value)
        bytesConsumed = .ok (cast (decodeLength value (128 ^ bytesConsumed) bytesConsumed
          (buf.drop (offset + bytesConsumed))))) := by
  induction fuel generalizing bytesConsumed value with
  | zero => omega
  | succ fuel ih =>
      by_cases hlimit : offset + bytesConsumed = 2 ^ 31
      · have hover : OverflowsFrom buf offset bytesConsumed := by
          refine ⟨by omega, by omega, ?_⟩
          rw [hlimit, Nat.sub_self, slice, List.take_zero]
          simp
        refine ⟨fun _ => ?_, fun hno => absurd hover hno⟩
        rw [decodeLoop, addInt, if_neg (by omega)]
        rfl
      by_cases hend : buf.length ≤ offset + bytesConsumed
      · rw [decodeLoop_end _ _ (by omega) hend, List.drop_eq_nil_of_le hend]
        exact ⟨fun hover => absurd hover.2.1 (by omega), fun _ => rfl⟩
      obtain ⟨byte, hbyte⟩ : ∃ byte, byte = buf.getD (offset + bytesConsumed) 0 := ⟨_, rfl⟩
      have hmult : ¬ UInt32.ofNat (128 ^ bytesConsumed) > 128 * 128 * 128 := by
        interval_cases bytesConsumed <;> decide
      have hpow : 128 ^ bytesConsumed ≤ 128 ^ 3 := Nat.pow_le_pow_right (by omega) (by omega)
      have hdrop : buf.drop (offset + bytesConsumed) =
          byte :: buf.drop (offset + (bytesConsumed + 1)) := by
        rw [hbyte, ← Nat.add_assoc]
        exact drop_eq_getD_cons (by omega)
      have hvalue :
          UInt32.ofNat value + (byte &&& 127).toUInt32 * UInt32.ofNat (128 ^ bytesConsumed) =
          UInt32.ofNat (value + byte.toNat % 128 * 128 ^ bytesConsumed) := by
        rw [toUInt32_eq_ofNat, toNat_and_127, UInt32.ofNat_add, UInt32.ofNat_mul]
      rw [decodeLoop_byte _ _ (by omega) (by omega) hfour hmult, overflowsFrom_succ (by omega)
        (by omega), hdrop, ← hbyte, hvalue]
      by_cases hlast : byte.toNat < 128
      · rw [if_pos ((and_128_eq_zero_iff byte).mpr hlast), decodeLength_last hpow hlast,
          Nat.mod_eq_of_lt hlast]
        exact ⟨fun hover => absurd hover.1 (by omega), fun _ => rfl⟩
      · rw [if_neg fun h => hlast ((and_128_eq_zero_iff byte).mp h),
          decodeLength_continue hpow (by omega)]
        by_cases hmore : bytesConsumed + 1 ≥ 4
        · rw [if_pos hmore, if_pos hmore]
          refine ⟨fun hover => absurd hover.2.1 (by omega), fun _ => rfl⟩
        · have hfuel' : (bytesConsumed + 1) + fuel = 5 := by omega
          obtain ⟨hover, hok⟩ := ih (value + byte.toNat % 128 * 128 ^ bytesConsumed) hfuel'
            (by omega) (by omega) (by omega)
          have hmult' : UInt32.ofNat (128 ^ bytesConsumed) * 128 =
              UInt32.ofNat (128 ^ (bytesConsumed + 1)) := by
            rw [pow_succ, UInt32.ofNat_mul]
            rfl
          rw [if_neg hmore, if_neg hmore, hmult', ← pow_succ]
          exact ⟨fun h => hover h.2, fun h => hok fun h' => h ⟨by omega, h'⟩⟩

/-- **Remaining lengths.** The decoder overflows exactly where `LengthOverflows` says, and is the
decoder over numbers elsewhere. -/
theorem decodeVariableLength_eq {buf : Bytes} {offset : ℕ} (hint : offset < 2 ^ 31)
    (hin : offset ≤ buf.length) :
    (LengthOverflows buf offset →
      decodeVariableLength buf offset = .error .signedOverflow) ∧
    (¬ LengthOverflows buf offset →
      decodeVariableLength buf offset =
        .ok (cast (Network.decodeVariableLength buf offset))) := by
  have hfuel : 0 + 5 = 5 := rfl
  have hstart : offset + 0 ≤ buf.length := hin
  have h := decodeLoop_eq 0 hfuel (by omega) (by omega) hstart
  exact h

/-! ### Texts -/

/-- A sum of `decodeUtf8String` leaves the range of `int`: the end of the length field, or the
end of the text it declares. -/
def TextOverflows (buf : Bytes) (offset : ℕ) : Prop :=
  2 ^ 31 ≤ offset + 2 ∨
    offset + 2 ≤ buf.length ∧ 2 ^ 31 ≤ offset + 2 + (ofBE16 (slice buf offset 2)).toNat

/-- **Texts.** The decoder overflows exactly where `TextOverflows` says, and is the decoder over
numbers elsewhere. -/
theorem decodeUtf8String_eq (buf : Bytes) {offset : ℕ} (hint : offset < 2 ^ 31) :
    (TextOverflows buf offset → decodeUtf8String buf offset = .error .signedOverflow) ∧
    (¬ TextOverflows buf offset →
      decodeUtf8String buf offset = .ok ((Network.decodeUtf8String buf offset).map
        fun p => (p.1, (p.2 : ℤ)))) := by
  rw [TextOverflows]
  by_cases hfield : 2 ^ 31 ≤ offset + 2
  · refine ⟨fun _ => ?_, fun hno => absurd (.inl hfield) hno⟩
    rw [decodeUtf8String, addInt, if_neg (by omega)]
    rfl
  have hadd : addInt (offset : ℤ) 2 = .ok ((offset + 2 : ℕ) : ℤ) := by
    rw [addInt_ok (by omega)]
    rfl
  rw [decodeUtf8String, hadd, Checked.ok_bind, Network.decodeUtf8String]
  by_cases hshort : offset + 2 > buf.length
  · rw [if_pos (by omega), if_pos hshort]
    exact ⟨fun hover => by omega, fun _ => rfl⟩
  rw [if_neg (by omega), if_neg hshort, Int.toNat_natCast, readBE16_ok (by omega),
    Checked.ok_bind, Checked.ok_bind]
  obtain ⟨len, hlen⟩ : ∃ len, len = (ofBE16 (slice buf offset 2)).toNat := ⟨_, rfl⟩
  rw [← hlen]
  by_cases htext : 2 ^ 31 ≤ offset + 2 + len
  · refine ⟨fun _ => ?_, fun hno => absurd (.inr ⟨by omega, htext⟩) hno⟩
    rw [addInt, if_neg (by omega)]
    rfl
  have hsum : addInt ((offset + 2 : ℕ) : ℤ) len = .ok ((offset + 2 + len : ℕ) : ℤ) := by
    rw [addInt_ok (by omega)]
    push_cast
    rfl
  refine ⟨fun hover => by omega, fun _ => ?_⟩
  rw [hsum, Checked.ok_bind]
  by_cases hend : offset + 2 + len > buf.length
  · rw [if_pos (by omega), if_pos hend]
    rfl
  · rw [if_neg (by omega), if_neg hend, Checked.ok_bind, Int.toNat_natCast]
    rfl

/-- The decoder at the start of a packet. -/
lemma decodeUtf8String_zero (data : Bytes) :
    decodeUtf8String data 0 =
      .ok ((Network.decodeUtf8String data 0).map fun p => (p.1, (p.2 : ℤ))) := by
  have hlt : (ofBE16 (slice data 0 2)).toNat < 2 ^ 16 := (ofBE16 (slice data 0 2)).toNat_lt
  refine (decodeUtf8String_eq data (by omega : 0 < 2 ^ 31)).2 ?_
  rw [TextOverflows]
  omega

/-- Where a text ends. -/
lemma offset_le_of_decodeUtf8String {data : Bytes} {p : String × ℕ}
    (h : Network.decodeUtf8String data 0 = some p) : p.2 ≤ 2 + 2 ^ 16 ∧ p.2 ≤ data.length := by
  have hlt : (ofBE16 (slice data 0 2)).toNat < 2 ^ 16 := (ofBE16 (slice data 0 2)).toNat_lt
  rw [Network.decodeUtf8String] at h
  split_ifs at h with hfield
  dsimp only at h
  split_ifs at h with htext
  rw [Option.some.injEq] at h
  rw [← h]
  exact ⟨by show 0 + 2 + _ ≤ _; omega, by show 0 + 2 + _ ≤ _; omega⟩

/-! ### The packets of the broker -/

/-- What `handlePublish` reads, over numbers. -/
def publishParts (header : UInt8) (data : Bytes) : Option (String × Option UInt16 × Bytes) :=
  match Network.decodeUtf8String data 0 with
  | none => none
  | some (topic, offset) =>
      if (header >>> 1) &&& 0x03 > 0 then
        if offset + 2 > data.length then none
        else some (topic, some (ofBE16 (slice data offset 2)), data.drop (offset + 2))
      else some (topic, none, data.drop offset)

/-- The reads of `handlePublish` do not fault. -/
lemma readPublish_eq (header : UInt8) (data : Bytes) :
    readPublish header data = .ok (publishParts header data) := by
  rw [readPublish, decodeUtf8String_zero, Checked.ok_bind, publishParts]
  cases htext : Network.decodeUtf8String data 0 with
  | none => rfl
  | some p =>
      obtain ⟨topic, offset⟩ := p
      obtain ⟨hsmall, hin⟩ := offset_le_of_decodeUtf8String htext
      dsimp only at hsmall hin
      have hadd : addInt (offset : ℤ) 2 = .ok ((offset + 2 : ℕ) : ℤ) := by
        rw [addInt_ok (by omega)]
        rfl
      simp only [Option.map_some, hadd, Checked.ok_bind, Int.toNat_natCast, Checked.pure_eq]
      by_cases hqos : (header >>> 1) &&& 0x03 > 0
      · rw [if_pos hqos, if_pos hqos]
        by_cases hshort : offset + 2 > data.length
        · rw [if_pos (by omega), if_pos hshort]
        · rw [if_neg (by omega), if_neg hshort, readBE16_ok (by omega), Checked.ok_bind]
      · rw [if_neg hqos, if_neg hqos]

/-- `handlePublish` is what it reads, acknowledged and passed on. -/
lemma handlePublish_eq (json : QJson.JsonCodec) (io : MqttIo) (header : UInt8) (data : Bytes)
    (t : MqttTurn) :
    t.handlePublish json io header data =
      match publishParts header data with
      | none => t
      | some (topic, packetId, payload) =>
          let t := packetId.elim t t.sendPuback
          if payload.length > MAX_SIGNALING_PAYLOAD_SIZE then t
          else t.processReceivedPayload json io topic payload := by
  rw [MqttTurn.handlePublish, publishParts]
  cases Network.decodeUtf8String data 0 with
  | none => rfl
  | some p =>
      dsimp only
      split_ifs <;> simp_all

/-- The reads of the handlers do not fault. -/
lemma readPacket_eq (header : UInt8) (data : Bytes) : readPacket header data = .ok () := by
  rw [readPacket]
  split_ifs with hconnack hshort hpublish hpuback hlong
  · rfl
  · rw [readByte, if_pos (by omega)]
    rfl
  · rw [readPublish_eq]
    rfl
  · rw [readBE16_ok (by omega)]
    rfl
  · rfl
  · rfl

/-- **One pass of the reader.** It does not fault, and makes of the buffer what the scanner
does. -/
theorem incomingPass_eq (buffer : Bytes) : incomingPass buffer = .ok (lookPacket buffer) := by
  rw [incomingPass, lookPacket]
  by_cases hshort : buffer.length < 2
  · rw [if_pos hshort, if_pos hshort, Checked.pure_eq]
  have hread : decodeVariableLength buffer 1 =
      .ok (cast (Network.decodeVariableLength buffer 1)) :=
    (decodeVariableLength_eq (by omega : 1 < 2 ^ 31) (by omega)).2 fun h => by
      have := h.1
      omega
  have hheader : readByte buffer 0 = .ok buffer.headI := by
    rw [show (0 : ℤ) = (0 : ℕ) from rfl, readByte_ok (by omega)]
    cases buffer with
    | nil => simp at hshort
    | cons byte rest => rfl
  rw [if_neg hshort, if_neg hshort, hheader, Checked.ok_bind, hread, Checked.ok_bind]
  cases hlength : Network.decodeVariableLength buffer 1 with
  | none => rfl
  | some p =>
      obtain ⟨remainingLength, bytesConsumed⟩ := p
      obtain ⟨-, -, hfour, -, hsmall⟩ := decodeVariableLength_bounds hlength
      have hfront : addInt 1 (bytesConsumed : ℤ) = .ok ((1 + bytesConsumed : ℕ) : ℤ) := by
        rw [addInt_ok (by omega), Nat.cast_add]
        rfl
      have hremaining : (UInt32.ofNat remainingLength).toNat = remainingLength := by
        rw [UInt32.toNat_ofNat']
        omega
      have htotal :
          (UInt32.ofNat (1 + bytesConsumed) + UInt32.ofNat remainingLength).toInt32.toInt =
          ((1 + bytesConsumed + remainingLength : ℕ) : ℤ) := by
        have hsum : (UInt32.ofNat (1 + bytesConsumed + remainingLength)).toNat =
            1 + bytesConsumed + remainingLength := by
          rw [UInt32.toNat_ofNat']
          omega
        rw [← UInt32.ofNat_add, toInt_toInt32, hsum, if_pos (by omega)]
      simp only [cast, Option.map_some, hfront, Checked.ok_bind, Int.toNat_natCast, htotal,
        hremaining, readPacket_eq, Checked.pure_eq]
      by_cases hwait : buffer.length < 1 + bytesConsumed + remainingLength
      · rw [if_pos (by omega), if_pos hwait]
      · rw [if_neg (by omega), if_neg hwait, readSlice_ok (by omega), Checked.ok_bind]

end Raw

/-! ### The six decoders -/

/-- The sum of `FileChunk::decode` leaves the range of `int`: the header is there, the id is not
empty, and the size field leaves no room for the header. -/
def ChunkSizeOverflows (raw : Bytes) : Prop :=
  24 ≤ raw.length ∧ FileChunk.readId (slice raw 0 16) ≠ "" ∧
    2 ^ 31 - 24 ≤ (ofBE32 (slice raw 20 4)).toNat ∧ (ofBE32 (slice raw 20 4)).toNat < 2 ^ 31

/-- The decoder of chunks faults exactly where its sum overflows. -/
theorem FileChunk.decode_ok_iff (raw : Bytes) :
    (∃ r, FileChunk.decode raw = .ok r) ↔ ¬ ChunkSizeOverflows raw := by
  rw [ChunkSizeOverflows]
  by_cases hlen : raw.length < 24
  · rw [FileChunk.decode, if_pos hlen]
    exact ⟨fun _ h => absurd h.1 (by omega), fun _ => ⟨none, rfl⟩⟩
  by_cases hid : FileChunk.readId (slice raw 0 16) = ""
  · rw [FileChunk.decode, if_neg hlen, readSlice_ok (by omega), Checked.ok_bind, if_pos hid]
    exact ⟨fun _ h => h.2.1 hid, fun _ => ⟨none, rfl⟩⟩
  obtain ⟨v, hv⟩ : ∃ v, v = (ofBE32 (slice raw 20 4)).toNat := ⟨_, rfl⟩
  have hlt : v < 2 ^ 32 := by
    rw [hv]
    exact (ofBE32 (slice raw 20 4)).toNat_lt
  rw [FileChunk.decode_eq (by omega) hid, toInt_toInt32, ← hv]
  by_cases hover : 2 ^ 31 - 24 ≤ v ∧ v < 2 ^ 31
  · have hsum : ¬ (-2 ^ 31 ≤ 24 + (if v < 2 ^ 31 then (v : ℤ) else (v : ℤ) - 2 ^ 32) ∧
        24 + (if v < 2 ^ 31 then (v : ℤ) else (v : ℤ) - 2 ^ 32) < 2 ^ 31) := by
      rw [if_pos hover.2]
      omega
    rw [addInt, if_neg hsum]
    constructor
    · rintro ⟨r, hr⟩
      cases hr
    · intro hno
      exact absurd ⟨by omega, hid, hover⟩ hno
  · have hsum : -2 ^ 31 ≤ 24 + (if v < 2 ^ 31 then (v : ℤ) else (v : ℤ) - 2 ^ 32) ∧
        24 + (if v < 2 ^ 31 then (v : ℤ) else (v : ℤ) - 2 ^ 32) < 2 ^ 31 := by
      split_ifs <;> omega
    rw [addInt_ok hsum, Checked.ok_bind]
    refine ⟨fun _ h => hover h.2.2, fun _ => ?_⟩
    split_ifs <;> exact ⟨_, rfl⟩

/-- **Decoder arithmetic.** Frames, passes of the receive loop and passes of the reader of MQTT
packets never leave the range of `int` or the buffer. The decoder of chunks does exactly for a
size field that leaves no room for the header, and the two readers that take an offset do exactly
where the offset is too close to the end of `int` for what they read there. -/
theorem decoders_safe_iff (raw : Bytes) :
    (∃ r, P2PFrame.decode raw = .ok r) ∧
    ((∃ r, FileChunk.decode raw = .ok r) ↔ ¬ ChunkSizeOverflows raw) ∧
    (∀ offset : ℕ, offset < 2 ^ 31 → offset ≤ raw.length →
      ((∃ r, Raw.decodeVariableLength raw offset = .ok r) ↔ ¬ Raw.LengthOverflows raw offset) ∧
      ((∃ r, Raw.decodeUtf8String raw offset = .ok r) ↔ ¬ Raw.TextOverflows raw offset)) ∧
    (∀ (err : String) (maxPayloadSize : UInt32), maxPayloadSize ≤ MAX_FRAME_PAYLOAD_SIZE →
      8 ≤ raw.length → raw.length ≤ MAX_RECEIVE_BUFFER_SIZE →
        (∃ r, streamIteration raw err maxPayloadSize = .ok r) ∧
          indexOfFrom raw magicBytes 1 < 2 ^ 31) ∧
    ∃ r, Raw.incomingPass raw = .ok r := by
  refine ⟨P2PFrame.decode_total raw, FileChunk.decode_ok_iff raw, ?_, ?_, _,
    Raw.incomingPass_eq raw⟩
  · intro offset hint hin
    obtain ⟨hlengthFault, hlengthOk⟩ := Raw.decodeVariableLength_eq hint hin
    obtain ⟨htextFault, htextOk⟩ := Raw.decodeUtf8String_eq raw hint
    refine ⟨⟨?_, fun hno => ⟨_, hlengthOk hno⟩⟩, ⟨?_, fun hno => ⟨_, htextOk hno⟩⟩⟩
    · rintro ⟨r, hr⟩ hover
      rw [hlengthFault hover] at hr
      cases hr
    · rintro ⟨r, hr⟩ hover
      rw [htextFault hover] at hr
      cases hr
  · intro err maxPayloadSize hmax h8 hcap
    have hlimit : maxPayloadSize.toNat ≤ 2 ^ 31 - 13 := by
      have hle := UInt32.le_iff_toNat_le.mp hmax
      rw [show MAX_FRAME_PAYLOAD_SIZE.toNat = 4 * 1024 * 1024 from rfl] at hle
      omega
    obtain ⟨err', hpass⟩ := streamIteration_eq hlimit h8 err
    refine ⟨⟨_, hpass⟩, ?_⟩
    rw [indexOfFrom]
    rw [MAX_RECEIVE_BUFFER_SIZE] at hcap
    cases hidx : indexOf magicBytes (raw.drop 1) with
    | none => exact by decide
    | some i =>
        have hle := indexOf_le hidx
        rw [List.length_drop] at hle
        show ((i + 1 : ℕ) : ℤ) < 2 ^ 31
        omega

/-- The decoders on a ping of the broker. -/
theorem decoders_safe_pingresp :
    (∃ r, Raw.decodeVariableLength [0xD0, 0x00] 1 = .ok r) ∧
      (∃ r, Raw.decodeUtf8String [0xD0, 0x00] 1 = .ok r) := by
  obtain ⟨-, -, hoffset, -⟩ := decoders_safe_iff [0xD0, 0x00]
  obtain ⟨hlength, htext⟩ := hoffset 1 (by omega) (by simp)
  refine ⟨hlength.mpr ?_, htext.mpr ?_⟩
  · rintro ⟨h, -⟩
    omega
  · rintro (h | ⟨h, -⟩)
    · omega
    · simp at h

/-- A chunk whose size field holds `2 ^ 31 - 24`. -/
def chunkOverInt : Bytes :=
  FileChunk.idField "a" ++ (be32 0 ++ be32 0x7FFFFFE8)

/-- **An overflow.** The size field of a chunk is added to the size of the header before anything
bounds it. -/
theorem chunk_size_overflows : ¬ ∀ raw : Bytes, ∃ r, FileChunk.decode raw = .ok r := by
  intro h
  obtain ⟨r, hr⟩ := h chunkOverInt
  have hfault : FileChunk.decode chunkOverInt = .error .signedOverflow := by decide +kernel
  rw [hfault] at hr
  cases hr

end MeckChat.Network
