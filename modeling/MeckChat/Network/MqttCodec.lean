import MeckChat.Foundation.StreamDecoder
import MeckChat.Qt.QString

/-!
The wire format of MQTT (`mqtt_signaling.cpp`).

* `isValidDeviceId` and `isValidTopic`.
* `encodeVariableLength` and `decodeVariableLength`: the remaining length in up to four
  bytes of seven bits; `decodeVariableLength_encode` reads it back,
  `decodeVariableLength_initial` says that nothing shorter is read, and `remaining_lengths`
  that the encoding is the shortest.
* `encodeUtf8String` and `decodeUtf8String`: a text behind its length.
* `controlPacket` is a packet with its header and its body, and `packetScanner` the reader of
  `processIncomingData` as a `Scanner`: `isPacket_controlPacket` recognises every packet,
  and `look_eq_flush_iff` says when it gives up.
-/

namespace MeckChat.Network

open QString

/-! ### Packet types -/

namespace PacketType

/-- The client asks for a session. -/
def CONNECT : UInt8 := 0x10
/-- The broker grants or refuses it. -/
def CONNACK : UInt8 := 0x20
/-- A message, with QoS 0 and not retained. -/
def PUBLISH : UInt8 := 0x30
/-- The receipt of a message with QoS 1. -/
def PUBACK : UInt8 := 0x40
/-- The client asks for topics. -/
def SUBSCRIBE : UInt8 := 0x82
/-- The broker grants or refuses each of them. -/
def SUBACK : UInt8 := 0x90
/-- The client asks whether the broker is there. -/
def PINGREQ : UInt8 := 0xC0
/-- The broker is there. -/
def PINGRESP : UInt8 := 0xD0
/-- The client leaves. -/
def DISCONNECT : UInt8 := 0xE0

end PacketType

/-! ### Device ids and topics -/

/-- The characters of the pattern of `isValidDeviceId`. -/
def isIdChar (c : Char) : Bool := c.isAlphanum || c = '_' || c = '-' || c = '.'

/-- `regex.match(deviceId).hasMatch()`: the dollar sign also stands before a line feed at
the end. -/
def matchesId (cs : List Char) : Bool :=
  let word := if cs.getLast? = some '\n' then cs.dropLast else cs
  !word.isEmpty && word.all isIdChar

/-- `MqttSignalingClient::isValidDeviceId`. -/
def isValidDeviceId (deviceId : String) : Bool :=
  if deviceId.toList.length < 4 ∨ 128 < deviceId.toList.length then false
  else if ¬ "mc_".toList <+: deviceId.toList then false
  else matchesId deviceId.toList

/-- `MqttSignalingClient::isValidTopic`. A character beyond Latin-1 counts as a zero, and
one beyond ASCII as negative. -/
def isValidTopic (topic : String) : Bool :=
  if topic = "" ∨ 256 < topic.toList.length then false
  else topic.toList.all fun ch => 32 ≤ ch.toNat && ch.toNat ≤ 126

/-! ### Remaining lengths -/

/-- The loop of `encodeVariableLength`, for at most `size` bytes. -/
def encodeLength : ℕ → ℕ → Bytes
  | 0, _ => []
  | size + 1, length =>
      let byte := UInt8.ofNat (length % 128)
      let length := length / 128
      if length > 0 then (byte ||| 0x80) :: encodeLength size length else [byte]

/-- `MqttSignalingClient::encodeVariableLength`. -/
def encodeVariableLength (length : ℕ) : Bytes := encodeLength 4 length

/-- The loop of `decodeVariableLength`: the value and the bytes consumed, unless the input
is malformed or ends. -/
def decodeLength (value multiplier bytesConsumed : ℕ) : Bytes → Option (ℕ × ℕ)
  | [] => none
  | byte :: rest =>
      let bytesConsumed := bytesConsumed + 1
      let value := value + (byte &&& 127).toNat * multiplier
      if multiplier > 128 * 128 * 128 then none
      else if byte &&& 128 = 0 then some (value, bytesConsumed)
      else if bytesConsumed ≥ 4 then none
      else decodeLength value (multiplier * 128) bytesConsumed rest

/-- `MqttSignalingClient::decodeVariableLength`. -/
def decodeVariableLength (buf : Bytes) (offset : ℕ) : Option (ℕ × ℕ) :=
  decodeLength 0 1 0 (buf.drop offset)

/-- What holds of the bytes by number holds of all. -/
lemma forall_byte {p : UInt8 → Prop} (h : ∀ n < 256, p (UInt8.ofNat n)) (byte : UInt8) :
    p byte := by
  have hbyte := h byte.toNat byte.toNat_lt
  rwa [UInt8.ofNat_toNat] at hbyte

lemma toNat_and_127 (byte : UInt8) : (byte &&& 127).toNat = byte.toNat % 128 :=
  forall_byte (p := fun byte => (byte &&& 127).toNat = byte.toNat % 128) (by decide +kernel) byte

lemma and_128_eq_zero_iff (byte : UInt8) : byte &&& 128 = 0 ↔ byte.toNat < 128 :=
  forall_byte (p := fun byte => byte &&& 128 = 0 ↔ byte.toNat < 128) (by decide +kernel) byte

lemma toNat_or_128 {byte : UInt8} (h : byte.toNat < 128) :
    (byte ||| 0x80).toNat = byte.toNat + 128 :=
  forall_byte (p := fun byte => byte.toNat < 128 → (byte ||| 0x80).toNat = byte.toNat + 128)
    (by decide +kernel) byte h

lemma length_encodeLength_le (size length : ℕ) : (encodeLength size length).length ≤ size := by
  induction size generalizing length with
  | zero => exact le_rfl
  | succ size ih =>
      rw [encodeLength]
      split_ifs
      · exact Nat.succ_le_succ (ih _)
      · simp

lemma length_encodeVariableLength_le (length : ℕ) : (encodeVariableLength length).length ≤ 4 :=
  length_encodeLength_le 4 length

lemma encodeVariableLength_ne_nil (length : ℕ) : encodeVariableLength length ≠ [] := by
  rw [encodeVariableLength, encodeLength]
  split_ifs <;> exact List.cons_ne_nil _ _

/-- One byte with the continuation bit. -/
lemma decodeLength_continue {value multiplier bytesConsumed : ℕ} {byte : UInt8} {rest : Bytes}
    (hmult : multiplier ≤ 128 ^ 3) (hbyte : 128 ≤ byte.toNat) :
    decodeLength value multiplier bytesConsumed (byte :: rest) =
      if bytesConsumed + 1 ≥ 4 then none
      else decodeLength (value + byte.toNat % 128 * multiplier) (multiplier * 128)
        (bytesConsumed + 1) rest := by
  have hcont : ¬ byte &&& 128 = 0 := by
    rw [and_128_eq_zero_iff]
    omega
  rw [decodeLength, toNat_and_127, if_neg (by omega), if_neg hcont]

/-- The last byte. -/
lemma decodeLength_last {value multiplier bytesConsumed : ℕ} {byte : UInt8} {rest : Bytes}
    (hmult : multiplier ≤ 128 ^ 3) (hbyte : byte.toNat < 128) :
    decodeLength value multiplier bytesConsumed (byte :: rest) =
      some (value + byte.toNat * multiplier, bytesConsumed + 1) := by
  rw [decodeLength, toNat_and_127, if_neg (by omega), if_pos ((and_128_eq_zero_iff _).mpr hbyte),
    Nat.mod_eq_of_lt hbyte]

/-- The induction behind the round trip: with `size` bytes left, and the multiplier at the
place of the first of them. -/
lemma decodeLength_encodeLength {size length value bytesConsumed : ℕ} (hsize : 0 < size)
    (hfour : bytesConsumed + size = 4) (hlength : length < 128 ^ size) (rest : Bytes) :
    decodeLength value (128 ^ bytesConsumed) bytesConsumed (encodeLength size length ++ rest) =
      some (value + length * 128 ^ bytesConsumed,
        bytesConsumed + (encodeLength size length).length) := by
  induction size generalizing length value bytesConsumed with
  | zero => omega
  | succ size ih =>
      have hmult : 128 ^ bytesConsumed ≤ 128 ^ 3 := Nat.pow_le_pow_right (by omega) (by omega)
      have hmod : (UInt8.ofNat (length % 128)).toNat = length % 128 := by
        rw [UInt8.toNat_ofNat']
        omega
      rw [encodeLength]
      split_ifs with hmore
      · have hbyte : (UInt8.ofNat (length % 128) ||| 0x80).toNat = length % 128 + 128 := by
          rw [toNat_or_128 (by omega), hmod]
        have hpos : 0 < size := by
          rcases Nat.eq_zero_or_pos size with rfl | hpos
          · rw [zero_add, pow_one] at hlength
            omega
          · exact hpos
        have hdiv : length / 128 < 128 ^ size := by
          rw [Nat.div_lt_iff_lt_mul (by omega), ← pow_succ]
          exact hlength
        rw [List.cons_append, decodeLength_continue hmult (by omega), if_neg (by omega), hbyte,
          ← pow_succ, ih hpos (by omega) hdiv, List.length_cons]
        have hvalue : (length % 128 + 128) % 128 = length % 128 := by omega
        have hsum : length % 128 * 128 ^ bytesConsumed + length / 128 * 128 ^ (bytesConsumed + 1) =
            length * 128 ^ bytesConsumed := by
          calc length % 128 * 128 ^ bytesConsumed + length / 128 * 128 ^ (bytesConsumed + 1)
              = (length % 128 + 128 * (length / 128)) * 128 ^ bytesConsumed := by ring
            _ = length * 128 ^ bytesConsumed := by rw [Nat.mod_add_div]
        rw [hvalue, Option.some_inj, Prod.mk.injEq]
        constructor
        · omega
        · omega
      · rw [List.singleton_append, decodeLength_last hmult (by omega), hmod]
        have hsmall : length % 128 = length := by omega
        rw [hsmall, List.length_singleton]

/-- **A remaining length is read back.** -/
theorem decodeVariableLength_encode {length : ℕ} (hlength : length < 2 ^ 28) (front rest : Bytes) :
    decodeVariableLength (front ++ (encodeVariableLength length ++ rest)) front.length =
      some (length, (encodeVariableLength length).length) := by
  have h : decodeLength 0 (128 ^ 0) 0 (encodeLength 4 length ++ rest) =
      some (0 + length * 128 ^ 0, 0 + (encodeLength 4 length).length) :=
    decodeLength_encodeLength (by omega) rfl hlength rest
  rw [decodeVariableLength, List.drop_left]
  simpa [encodeVariableLength] using h

/-- Bytes that all have the continuation bit are no length. -/
lemma decodeLength_continuing {value multiplier bytesConsumed : ℕ} {bytes : Bytes}
    (h : ∀ byte ∈ bytes, 128 ≤ byte.toNat) :
    decodeLength value multiplier bytesConsumed bytes = none := by
  induction bytes generalizing value multiplier bytesConsumed with
  | nil => rfl
  | cons byte bytes ih =>
      have hbyte := h byte List.mem_cons_self
      rw [decodeLength]
      split_ifs with hmult hlast hfour
      · rfl
      · rw [and_128_eq_zero_iff] at hlast
        omega
      · rfl
      · exact ih fun b hb => h b (List.mem_cons_of_mem _ hb)

/-- All bytes of a length but the last have the continuation bit. -/
lemma continuing_of_initial {size length : ℕ} {bytes : Bytes}
    (hpre : bytes <+: encodeLength size length) (hne : bytes ≠ encodeLength size length) :
    ∀ byte ∈ bytes, 128 ≤ byte.toNat := by
  induction size generalizing length bytes with
  | zero => exact absurd (List.prefix_nil.mp hpre) hne
  | succ size ih =>
      cases bytes with
      | nil => exact nofun
      | cons byte bytes =>
          rw [encodeLength] at hpre hne
          split_ifs at hpre hne
          · obtain ⟨rfl, hrest⟩ := List.cons_prefix_cons.mp hpre
            have hbyte : (UInt8.ofNat (length % 128) ||| 0x80).toNat = length % 128 + 128 := by
              have hmod : (UInt8.ofNat (length % 128)).toNat = length % 128 := by
                rw [UInt8.toNat_ofNat']
                omega
              rw [toNat_or_128 (by omega), hmod]
            intro b hb
            rcases List.mem_cons.mp hb with rfl | hb
            · omega
            · exact ih hrest (fun heq => hne (by rw [heq])) b hb
          · obtain ⟨rfl, hrest⟩ := List.cons_prefix_cons.mp hpre
            exact absurd (by rw [List.prefix_nil.mp hrest]) hne

/-- Nothing shorter than a length is read. -/
lemma decodeVariableLength_initial {length : ℕ} {header : UInt8} {bytes : Bytes}
    (hpre : bytes <+: encodeVariableLength length) (hne : bytes ≠ encodeVariableLength length) :
    decodeVariableLength (header :: bytes) 1 = none :=
  decodeLength_continuing (continuing_of_initial hpre hne)

/-- What was read stands whatever follows. -/
lemma decodeLength_append {value multiplier bytesConsumed : ℕ} {bytes : Bytes} {r : ℕ × ℕ}
    (h : decodeLength value multiplier bytesConsumed bytes = some r) (rest : Bytes) :
    decodeLength value multiplier bytesConsumed (bytes ++ rest) = some r := by
  induction bytes generalizing value multiplier bytesConsumed with
  | nil => cases h
  | cons byte bytes ih =>
      rw [decodeLength] at h
      rw [List.cons_append, decodeLength]
      split_ifs at h ⊢
      · exact h
      · exact ih h

/-- What is read is small: seven bits for every byte, and four bytes at most. -/
lemma decodeLength_bounds {value bytesConsumed : ℕ} {bytes : Bytes} {r : ℕ × ℕ}
    (hfour : bytesConsumed < 4) (hvalue : value < 128 ^ bytesConsumed)
    (h : decodeLength value (128 ^ bytesConsumed) bytesConsumed bytes = some r) :
    r.1 < 128 ^ r.2 ∧ bytesConsumed < r.2 ∧ r.2 ≤ 4 ∧ r.2 ≤ bytesConsumed + bytes.length := by
  induction bytes generalizing value bytesConsumed with
  | nil => cases h
  | cons byte bytes ih =>
      have hpow : 128 ^ bytesConsumed ≤ 128 ^ 3 := Nat.pow_le_pow_right (by omega) (by omega)
      have hnext : value + byte.toNat % 128 * 128 ^ bytesConsumed < 128 ^ (bytesConsumed + 1) := by
        have hdigit : byte.toNat % 128 * 128 ^ bytesConsumed ≤ 127 * 128 ^ bytesConsumed :=
          Nat.mul_le_mul_right _ (by omega)
        rw [pow_succ]
        omega
      rw [List.length_cons]
      by_cases hlast : byte.toNat < 128
      · rw [decodeLength_last hpow hlast, Option.some.injEq] at h
        rw [Nat.mod_eq_of_lt hlast] at hnext
        rw [← h]
        refine ⟨hnext, ?_, ?_, ?_⟩
        all_goals
          dsimp only
          omega
      · rw [decodeLength_continue hpow (by omega)] at h
        split_ifs at h with hmore
        rw [← pow_succ] at h
        obtain ⟨hbound, hmin, hmax, hlength⟩ := ih (by omega) hnext h
        exact ⟨hbound, by omega, hmax, by omega⟩

lemma decodeVariableLength_bounds {buf : Bytes} {offset length bytesConsumed : ℕ}
    (h : decodeVariableLength buf offset = some (length, bytesConsumed)) :
    length < 128 ^ bytesConsumed ∧ 0 < bytesConsumed ∧ bytesConsumed ≤ 4 ∧
      bytesConsumed ≤ (buf.drop offset).length ∧ length < 2 ^ 28 := by
  have hread : decodeLength 0 (128 ^ 0) 0 (buf.drop offset) = some (length, bytesConsumed) := h
  obtain ⟨hvalue, hpos, hfour, hlength⟩ := decodeLength_bounds (by omega) Nat.one_pos hread
  rw [Nat.zero_add] at hlength
  have hall : 128 ^ bytesConsumed ≤ 128 ^ 4 := Nat.pow_le_pow_right (by omega) hfour
  exact ⟨hvalue, hpos, hfour, hlength, lt_of_lt_of_le hvalue hall⟩

/-- A number of so many digits takes so many bytes. -/
lemma length_encodeLength_of_lt {size length k : ℕ} (hk : 0 < k) (h : length < 128 ^ k) :
    (encodeLength size length).length ≤ k := by
  induction size generalizing length k with
  | zero => exact Nat.zero_le k
  | succ size ih =>
      rw [encodeLength]
      split_ifs with hmore
      · obtain ⟨k, rfl⟩ := Nat.exists_eq_add_one_of_ne_zero hk.ne'
        have hdiv : length / 128 < 128 ^ k := by
          rw [Nat.div_lt_iff_lt_mul (by omega), ← pow_succ]
          exact h
        have hpos : 0 < k := by
          rcases Nat.eq_zero_or_pos k with rfl | hpos
          · rw [pow_zero] at hdiv
            omega
          · exact hpos
        exact Nat.succ_le_succ (ih hpos hdiv)
      · exact hk

/-- **Remaining lengths.** Every one is read back wherever it stands, its encoding is the
shortest, and no part of it is taken for a length; whatever is read takes one to four bytes
and is below `2 ^ 28`. -/
theorem remaining_lengths :
    (∀ length < 2 ^ 28,
      (∀ front rest, decodeVariableLength (front ++ encodeVariableLength length ++ rest)
        front.length = some (length, (encodeVariableLength length).length)) ∧
      (∀ buf offset bytesConsumed, decodeVariableLength buf offset = some (length, bytesConsumed) →
        (encodeVariableLength length).length ≤ bytesConsumed) ∧
      ∀ front bytes, bytes <+: encodeVariableLength length → bytes ≠ encodeVariableLength length →
        decodeVariableLength (front ++ bytes) front.length = none) ∧
    ∀ buf offset length bytesConsumed,
      decodeVariableLength buf offset = some (length, bytesConsumed) →
        1 ≤ bytesConsumed ∧ bytesConsumed ≤ 4 ∧ bytesConsumed ≤ (buf.drop offset).length ∧
          length < 2 ^ 28 := by
  constructor
  · intro length hlength
    refine ⟨fun front rest => ?_, fun buf offset bytesConsumed h => ?_,
      fun front bytes hpre hne => ?_⟩
    · rw [List.append_assoc]
      exact decodeVariableLength_encode hlength front rest
    · obtain ⟨hvalue, hpos, -⟩ := decodeVariableLength_bounds h
      exact length_encodeLength_of_lt hpos hvalue
    · rw [decodeVariableLength, List.drop_left]
      exact decodeLength_continuing (continuing_of_initial hpre hne)
  · intro buf offset length bytesConsumed h
    obtain ⟨-, hpos, hfour, hlength, hsmall⟩ := decodeVariableLength_bounds h
    exact ⟨hpos, hfour, hlength, hsmall⟩

/-! ### Texts -/

/-- `MqttSignalingClient::encodeUtf8String`. -/
def encodeUtf8String (str : String) : Bytes :=
  be16 (UInt16.ofNat (toUtf8 str).length) ++ toUtf8 str

/-- `MqttSignalingClient::decodeUtf8String`: the text, and the offset behind it. -/
def decodeUtf8String (buf : Bytes) (offset : ℕ) : Option (String × ℕ) :=
  if offset + 2 > buf.length then none
  else
    let len := (ofBE16 (slice buf offset 2)).toNat
    if offset + 2 + len > buf.length then none
    else some (fromUtf8 (slice buf (offset + 2) len), offset + 2 + len)

/-- **A text is read back**, unless it is too long or begins with a byte order mark. -/
lemma decodeUtf8String_encode {str : String} (hlength : (toUtf8 str).length < 2 ^ 16)
    (hmark : str.toList.head? ≠ some byteOrderMark) (rest : Bytes) :
    decodeUtf8String (encodeUtf8String str ++ rest) 0 =
      some (str, (encodeUtf8String str).length) := by
  have hsize : (encodeUtf8String str ++ rest).length = 2 + (toUtf8 str).length + rest.length := by
    simp [encodeUtf8String, Nat.add_assoc]
  have hlen : slice (encodeUtf8String str ++ rest) 0 2 =
      be16 (UInt16.ofNat (toUtf8 str).length) :=
    slice_eq_of_append (a := []) (c := toUtf8 str ++ rest)
      (by rw [encodeUtf8String, List.append_assoc, List.nil_append]) rfl (length_be16 _)
  have htext : slice (encodeUtf8String str ++ rest) 2 (toUtf8 str).length = toUtf8 str :=
    slice_eq_of_append (a := be16 (UInt16.ofNat (toUtf8 str).length)) (c := rest)
      (by rw [encodeUtf8String, List.append_assoc]) (length_be16 _) rfl
  have hnum : (ofBE16 (be16 (UInt16.ofNat (toUtf8 str).length))).toNat = (toUtf8 str).length := by
    rw [ofBE16_be16, UInt16.toNat_ofNat', Nat.mod_eq_of_lt hlength]
  rw [decodeUtf8String, Nat.zero_add, if_neg (by omega), hlen]
  simp only [hnum]
  rw [if_neg (by omega), htext, fromUtf8_toUtf8 hmark, encodeUtf8String, List.length_append,
    length_be16]

/-! ### Control packets -/

/-- A control packet: a header, the remaining length and the body. -/
def controlPacket (header : UInt8) (body : Bytes) : Bytes :=
  header :: (encodeVariableLength body.length ++ body)

open StreamDecoder

/-- What `processIncomingData` makes of the front of the buffer: the packet with its header
and its body. It gives up on a buffer of more than five bytes with no length. -/
def lookPacket (b : Bytes) : Verdict (UInt8 × Bytes) :=
  if b.length < 2 then .wait
  else
    match decodeVariableLength b 1 with
    | none => if b.length > 5 then .flush else .wait
    | some (remainingLength, bytesConsumed) =>
        let totalFrameSize := 1 + bytesConsumed + remainingLength
        if b.length < totalFrameSize then .wait
        else .drop totalFrameSize (some (b.headI, slice b (1 + bytesConsumed) remainingLength))

/-- Where a packet is taken, its length was read, and it is there. -/
lemma lookPacket_drop {b : Bytes} {n : ℕ} {item : Option (UInt8 × Bytes)}
    (h : lookPacket b = .drop n item) :
    2 ≤ b.length ∧ ∃ remainingLength bytesConsumed,
      decodeVariableLength b 1 = some (remainingLength, bytesConsumed) ∧
      n = 1 + bytesConsumed + remainingLength ∧ n ≤ b.length ∧
      item = some (b.headI, slice b (1 + bytesConsumed) remainingLength) := by
  rw [lookPacket] at h
  by_cases hshort : b.length < 2
  · rw [if_pos hshort] at h
    cases h
  rw [if_neg hshort] at h
  refine ⟨by omega, ?_⟩
  split at h
  · split_ifs at h
  · rename_i remainingLength bytesConsumed hdecode
    dsimp only at h
    split_ifs at h with htotal
    obtain ⟨rfl, rfl⟩ := Verdict.drop.inj h
    exact ⟨remainingLength, bytesConsumed, hdecode, rfl, by omega, rfl⟩

/-- The reader of packets. -/
def packetScanner : Scanner UInt8 (UInt8 × Bytes) where
  look := lookPacket
  drop_pos h := by
    obtain ⟨_, _, _, _, hn, _⟩ := lookPacket_drop h
    omega
  drop_le h := by
    obtain ⟨_, _, _, _, _, hle, _⟩ := lookPacket_drop h
    exact hle
  look_append {b n item} c h := by
    obtain ⟨hlength, remainingLength, bytesConsumed, hdecode, hn, hle, hitem⟩ := lookPacket_drop h
    have hdecode' : decodeVariableLength (b ++ c) 1 = some (remainingLength, bytesConsumed) := by
      rw [decodeVariableLength, List.drop_append_of_le_length (by omega)]
      exact decodeLength_append hdecode c
    have hhead : (b ++ c).headI = b.headI := by
      cases b with
      | nil => exact absurd hlength (by simp)
      | cons header b => rfl
    rw [lookPacket, if_neg (by rw [List.length_append]; omega), hdecode']
    dsimp only
    rw [if_neg (by rw [List.length_append]; omega), hhead,
      slice_append_of_le (by omega) c, hn, hitem]

/-- **Every packet is recognised**, and waited for while it is incomplete. -/
theorem isPacket_controlPacket (header : UInt8) {body : Bytes} (hbody : body.length < 2 ^ 28) :
    packetScanner.IsPacket (controlPacket header body) (some (header, body)) := by
  have hfour := length_encodeVariableLength_le body.length
  have hpos : 0 < (encodeVariableLength body.length).length :=
    List.length_pos_of_ne_nil (encodeVariableLength_ne_nil _)
  have hdecode : ∀ rest, decodeVariableLength
      (header :: (encodeVariableLength body.length ++ rest)) 1 =
        some (body.length, (encodeVariableLength body.length).length) :=
    fun rest => decodeVariableLength_encode hbody [header] rest
  constructor
  · have hsize : (controlPacket header body).length =
        1 + (encodeVariableLength body.length).length + body.length := by
      rw [controlPacket, List.length_cons, List.length_append]
      omega
    have hslice : slice (controlPacket header body)
        (1 + (encodeVariableLength body.length).length) body.length = body :=
      slice_eq_of_append (a := header :: encodeVariableLength body.length) (c := [])
        (by rw [List.append_nil]; rfl) (by rw [List.length_cons, Nat.add_comm]) rfl
    change lookPacket (controlPacket header body) = _
    rw [lookPacket, if_neg (by omega), controlPacket, hdecode body]
    dsimp only
    rw [← controlPacket, if_neg (by omega), hslice, hsize]
    rfl
  · intro q hq hne
    change lookPacket q = .wait
    cases q with
    | nil => rfl
    | cons byte q =>
        obtain ⟨rfl, hrest⟩ := List.cons_prefix_cons.mp hq
        rw [lookPacket]
        by_cases hshort : (byte :: q).length < 2
        · exact if_pos hshort
        -- the prefix ends inside of the length, or behind it
        · rw [if_neg hshort]
          rcases List.prefix_or_prefix_of_prefix hrest
            (List.prefix_append (encodeVariableLength body.length) body) with hin | ⟨rest, rfl⟩
          · by_cases hwhole : q = encodeVariableLength body.length
            · have hnil := hdecode []
              rw [List.append_nil, ← hwhole] at hnil
              rw [hnil]
              dsimp only
              have hbody' : 0 < body.length := by
                refine List.length_pos_of_ne_nil fun hempty => hne ?_
                rw [controlPacket, hwhole, hempty, List.append_nil]
              rw [if_pos]
              rw [List.length_cons]
              omega
            · rw [decodeVariableLength_initial hin hwhole]
              dsimp only
              rw [if_neg]
              have hle := hin.length_le
              rw [List.length_cons]
              omega
          · rw [hdecode rest]
            dsimp only
            rw [if_pos]
            have hlt : rest.length < body.length := by
              have hpre := (List.prefix_append_right_inj _).mp hrest
              refine lt_of_le_of_ne hpre.length_le fun heq => hne ?_
              rw [controlPacket, hpre.eq_of_length heq]
            rw [List.length_cons, List.length_append]
            omega

/-- **Giving up.** It happens on a header with four bytes that have the continuation bit,
and at least one more. -/
theorem look_eq_flush_iff {b : Bytes} :
    lookPacket b = .flush ↔ ∃ header b₁ b₂ b₃ b₄ b₅ rest,
      b = header :: b₁ :: b₂ :: b₃ :: b₄ :: b₅ :: rest ∧
      128 ≤ b₁.toNat ∧ 128 ≤ b₂.toNat ∧ 128 ≤ b₃.toNat ∧ 128 ≤ b₄.toNat := by
  constructor
  · intro h
    rw [lookPacket] at h
    by_cases hshort : b.length < 2
    · rw [if_pos hshort] at h
      cases h
    rw [if_neg hshort] at h
    split at h
    · rename_i hdecode
      split_ifs at h with hlong
      match b, hlong with
      | header :: b₁ :: b₂ :: b₃ :: b₄ :: b₅ :: rest, _ =>
          refine ⟨header, b₁, b₂, b₃, b₄, b₅, rest, rfl, ?_⟩
          rw [decodeVariableLength, List.drop_one, List.tail_cons] at hdecode
          have hstep : ∀ {value c : ℕ} {byte : UInt8} {bytes : Bytes}, c ≤ 3 →
              decodeLength value (128 ^ c) c (byte :: bytes) = none →
              128 ≤ byte.toNat ∧ (c < 3 →
                decodeLength (value + byte.toNat % 128 * 128 ^ c) (128 ^ (c + 1)) (c + 1) bytes =
                  none) := by
            intro value c byte bytes hc hnone
            have hmult : 128 ^ c ≤ 128 ^ 3 := Nat.pow_le_pow_right (by omega) hc
            by_cases hbyte : byte.toNat < 128
            · rw [decodeLength_last hmult hbyte] at hnone
              cases hnone
            · rw [decodeLength_continue hmult (by omega)] at hnone
              refine ⟨by omega, fun hlt => ?_⟩
              rwa [if_neg (by omega), ← pow_succ] at hnone
          obtain ⟨h₁, hnext₁⟩ := hstep (c := 0) (by omega) hdecode
          obtain ⟨h₂, hnext₂⟩ := hstep (c := 1) (by omega) (hnext₁ (by omega))
          obtain ⟨h₃, hnext₃⟩ := hstep (c := 2) (by omega) (hnext₂ (by omega))
          obtain ⟨h₄, _⟩ := hstep (c := 3) (by omega) (hnext₃ (by omega))
          exact ⟨h₁, h₂, h₃, h₄⟩
    · dsimp only at h
      split_ifs at h
  · rintro ⟨header, b₁, b₂, b₃, b₄, b₅, rest, rfl, h₁, h₂, h₃, h₄⟩
    have hdecode : decodeVariableLength
        (header :: b₁ :: b₂ :: b₃ :: b₄ :: b₅ :: rest) 1 = none := by
      rw [decodeVariableLength, List.drop_one, List.tail_cons,
        decodeLength_continue (by omega) h₁, if_neg (by omega),
        decodeLength_continue (by omega) h₂, if_neg (by omega),
        decodeLength_continue (by omega) h₃, if_neg (by omega),
        decodeLength_continue (by omega) h₄, if_pos (by omega)]
    rw [lookPacket, if_neg (by simp), hdecode]
    exact if_pos (by simp)

end MeckChat.Network
