import MeckChat.Foundation.StreamDecoder
import MeckChat.Protocol.Framing

/-!
Reassembly of frames from the TCP byte stream
(`P2PSocket::processStreamBuffer` in `p2p_socket.cpp`).

* `streamIteration` is one pass through the body of the `while` loop and
  `streamLoop` the loop; both live in `Checked`, since the body reads raw
  memory and adds `int` values, and the loop carries fuel.
* `frameScanner` is what the loop does to a buffer as a `Scanner` of the
  stream decoder library, and `processStreamBuffer_eq` connects the two: below
  a payload limit of `2 ^ 31 - 13` the call returns, without a fault, the
  frames and the rest of draining the scanner.
* `processStreamBuffer_processed`: what a call on arbitrary bytes returns and
  leaves, and how it carries on when more bytes arrive.
* `feedStream` is the receive path: append a chunk, call
  `processStreamBuffer`, keep the rest.
* `packet_stream_reassembled`: a stream of well-delimited packets yields the
  decodable ones in order and leaves an empty buffer, for every cutting.
-/

namespace MeckChat.Network

open MeckChat.Protocol StreamDecoder

/-- `MAX_RECEIVE_BUFFER_SIZE`, 8 MiB. -/
def MAX_RECEIVE_BUFFER_SIZE : ℕ := 8 * 1024 * 1024

/-- `MAX_FRAME_PAYLOAD_SIZE`, 4 MiB. -/
def MAX_FRAME_PAYLOAD_SIZE : UInt32 := 4 * 1024 * 1024

/-- The two bytes of the magic, as `QByteArray::fromHex("4D43")`. -/
def magicBytes : Bytes := [0x4D, 0x43]

/-- `QByteArray::indexOf` from a position on, with `-1` for no occurrence. -/
def indexOfFrom (data pat : Bytes) (start : ℕ) : ℤ :=
  match indexOf pat (data.drop start) with
  | some i => (i + start : ℕ)
  | none => -1

/-- `QString::arg(v, 4, 16, QChar('0'))`. -/
def hex4 (v : UInt16) : String :=
  let digits := Nat.toDigits 16 v.toNat
  String.ofList (List.replicate (4 - digits.length) '0' ++ digits)

/-! ### The loop -/

/-- How one pass through the loop body ends: `stop` leaves the loop, `again`
goes round once more, after a frame was appended or not. -/
inductive Pass where
  | stop (buffer : Bytes) (errorString : String)
  | again (buffer : Bytes) (frame : Option P2PFrame) (errorString : String)
  deriving DecidableEq, Repr

/-- One pass through the body of the `while` loop. -/
def streamIteration (buffer : Bytes) (errorString : String) (maxPayloadSize : UInt32) :
    Checked Pass := do
  let magic ← readBE16 buffer 0
  if magic ≠ FRAME_MAGIC then
    -- scan forward to resynchronise or drop the invalid prefix
    let errorString := "Invalid frame magic: 0x" ++ hex4 magic
    let nextMagicIdx := indexOfFrom buffer magicBytes 1
    if nextMagicIdx > 0 then
      return .again (buffer.drop nextMagicIdx.toNat) none errorString
    else
      return .stop [] errorString
  let payloadLen ← readBE32 buffer 4
  if payloadLen > maxPayloadSize then
    return .stop [] ("Rejected oversized payload length: " ++ toString payloadLen.toNat
      ++ " bytes (max allowed: " ++ toString maxPayloadSize.toNat ++ ")")
  let totalFrameSize ← addInt 12 payloadLen.toInt32.toInt
  if (buffer.length : ℤ) < totalFrameSize then
    return .stop buffer errorString
  let singlePacket := buffer.take totalFrameSize.toNat
  let buffer := buffer.drop totalFrameSize.toNat
  match ← P2PFrame.decode singlePacket with
  | some frame => return .again buffer (some frame) errorString
  | none => return .again buffer none "CRC or Frame validation failed on received packet."

/-- What `processStreamBuffer` returns and leaves in its reference
parameters. -/
structure StreamResult where
  frames : List P2PFrame
  buffer : Bytes
  errorString : String
  deriving DecidableEq, Repr

/-- The `while (buffer.size() >= 8)` loop. -/
def streamLoop (maxPayloadSize : UInt32) :
    ℕ → List P2PFrame → Bytes → String → Checked StreamResult
  | 0, _, _, _ => .error .outOfFuel
  | fuel + 1, frames, buffer, errorString =>
      if buffer.length < 8 then .ok ⟨frames, buffer, errorString⟩
      else do
        match ← streamIteration buffer errorString maxPayloadSize with
        | .stop buffer errorString => .ok ⟨frames, buffer, errorString⟩
        | .again buffer frame errorString =>
            streamLoop maxPayloadSize fuel (frames ++ frame.toList) buffer errorString

/-- `P2PSocket::processStreamBuffer`. -/
def processStreamBuffer (buffer : Bytes) (errorString : String) (maxPayloadSize : UInt32) :
    Checked StreamResult :=
  if buffer.length > MAX_RECEIVE_BUFFER_SIZE then
    .ok ⟨[], [],
      "Receive buffer exceeded maximum size limit without valid frames. Buffer flushed."⟩
  else
    streamLoop maxPayloadSize (buffer.length + 1) [] buffer errorString

/-! ### The scanner behind the loop -/

/-- The payload length a buffer of at least eight bytes declares. -/
def declaredLength (b : Bytes) : ℕ := (ofBE32 (slice b 4 4)).toNat

/-- What one pass decides about a buffer. -/
def frameLook (maxPayloadSize : UInt32) (b : Bytes) : Verdict P2PFrame :=
  if b.length < 8 then .wait
  else if ofBE16 (slice b 0 2) ≠ FRAME_MAGIC then
    match indexOf magicBytes (b.drop 1) with
    | some i => .drop (i + 1) none
    | none => .flush
  else if maxPayloadSize.toNat < declaredLength b then .flush
  else if b.length < 12 + declaredLength b then .wait
  else .drop (12 + declaredLength b) (P2PFrame.decodePacket (b.take (12 + declaredLength b)))

/-- The two ways to drop: the garbage before the next magic, or one packet. -/
lemma frameLook_drop {maxPayloadSize : UInt32} {b : Bytes} {n : ℕ} {item : Option P2PFrame}
    (h : frameLook maxPayloadSize b = .drop n item) :
    8 ≤ b.length ∧
      ((ofBE16 (slice b 0 2) ≠ FRAME_MAGIC ∧ item = none ∧
          ∃ i, indexOf magicBytes (b.drop 1) = some i ∧ n = i + 1) ∨
        (ofBE16 (slice b 0 2) = FRAME_MAGIC ∧ declaredLength b ≤ maxPayloadSize.toNat ∧
          n = 12 + declaredLength b ∧ n ≤ b.length ∧ item = P2PFrame.decodePacket (b.take n))) := by
  rw [frameLook] at h
  split_ifs at h with h8 hmagic hmax hshort
  · cases hidx : indexOf magicBytes (b.drop 1) with
    | none => simp only [hidx, reduceCtorEq] at h
    | some i =>
        simp only [hidx, Verdict.drop.injEq] at h
        exact ⟨by omega, .inl ⟨hmagic, h.2.symm, i, rfl, h.1.symm⟩⟩
  · simp only [Verdict.drop.injEq] at h
    obtain ⟨rfl, rfl⟩ := h
    exact ⟨by omega, .inr ⟨not_not.mp hmagic, by omega, rfl, by omega, rfl⟩⟩

/-- The scanner of the receive loop. -/
def frameScanner (maxPayloadSize : UInt32) : Scanner UInt8 P2PFrame where
  look := frameLook maxPayloadSize
  drop_pos h := by
    obtain ⟨-, ⟨-, -, i, -, rfl⟩ | ⟨-, -, rfl, -, -⟩⟩ := frameLook_drop h <;> omega
  drop_le {b n item} h := by
    obtain ⟨h8, ⟨-, -, i, hi, rfl⟩ | ⟨-, -, -, hle, -⟩⟩ := frameLook_drop h
    · have hle := indexOf_le hi
      rw [List.length_drop] at hle
      omega
    · exact hle
  look_append {b n item} c h := by
    have h8 := (frameLook_drop h).1
    have hmagicField : slice (b ++ c) 0 2 = slice b 0 2 := slice_append_of_le (by omega) c
    have hlengthField : declaredLength (b ++ c) = declaredLength b := by
      rw [declaredLength, slice_append_of_le (by omega), declaredLength]
    have h8' : ¬ (b ++ c).length < 8 := by
      rw [List.length_append]
      omega
    rw [frameLook, if_neg h8', hmagicField, hlengthField]
    obtain ⟨-, ⟨hm, rfl, i, hi, rfl⟩ | ⟨hm, hmax, rfl, hle, rfl⟩⟩ := frameLook_drop h
    · rw [if_pos hm, List.drop_append_of_le_length (by omega), indexOf_append hi]
    · rw [if_neg (not_not.mpr hm), if_neg (by omega),
        if_neg (by rw [List.length_append]; omega), List.take_append_of_le_length hle]

lemma frameScanner_look_nil (maxPayloadSize : UInt32) :
    (frameScanner maxPayloadSize).look [] = .wait := rfl

/-! ### The loop refines the scanner -/

/-- The pass that carries out a verdict. -/
def passOf (b : Bytes) (errorString : String) : Verdict P2PFrame → Pass
  | .wait => .stop b errorString
  | .flush => .stop [] errorString
  | .drop n item => .again (b.drop n) item errorString

/-- A pass over at least eight bytes does not fault and carries out the
scanner's verdict. -/
lemma streamIteration_eq {maxPayloadSize : UInt32} (hmax : maxPayloadSize.toNat ≤ 2 ^ 31 - 13)
    {b : Bytes} (h8 : 8 ≤ b.length) (err : String) :
    ∃ err', streamIteration b err maxPayloadSize
      = .ok (passOf b err' ((frameScanner maxPayloadSize).look b)) := by
  show ∃ err', _ = Except.ok (passOf b err' (frameLook maxPayloadSize b))
  rw [streamIteration, readBE16_ok (by omega), frameLook, if_neg (by omega)]
  simp only [Checked.ok_bind, Checked.pure_eq]
  by_cases hmagic : ofBE16 (slice b 0 2) = FRAME_MAGIC
  swap
  · rw [if_pos hmagic, if_pos hmagic]
    cases hidx : indexOf magicBytes (b.drop 1) with
    | none =>
        have hfrom : indexOfFrom b magicBytes 1 = -1 := by rw [indexOfFrom, hidx]
        rw [hfrom, if_neg (by omega)]
        exact ⟨_, rfl⟩
    | some i =>
        have hfrom : indexOfFrom b magicBytes 1 = (i + 1 : ℕ) := by rw [indexOfFrom, hidx]
        rw [hfrom, if_pos (by omega)]
        exact ⟨_, rfl⟩
  rw [if_neg (not_not.mpr hmagic), if_neg (not_not.mpr hmagic), readBE32_ok (by omega)]
  simp only [Checked.ok_bind]
  by_cases hbig : maxPayloadSize.toNat < declaredLength b
  · have hgt : ofBE32 (slice b 4 4) > maxPayloadSize := UInt32.lt_iff_toNat_lt.mpr hbig
    rw [if_pos hgt, if_pos hbig]
    exact ⟨_, rfl⟩
  have hle : ¬ ofBE32 (slice b 4 4) > maxPayloadSize := fun h =>
    hbig (UInt32.lt_iff_toNat_lt.mp h)
  -- the limit keeps the cast and the sum inside the range of `int`
  have hcast : (ofBE32 (slice b 4 4)).toInt32.toInt = (declaredLength b : ℤ) := by
    rw [toInt_toInt32, ← declaredLength, if_pos (by omega)]
  rw [if_neg hle, if_neg hbig, hcast, addInt_ok (by omega)]
  simp only [Checked.ok_bind]
  by_cases hshort : b.length < 12 + declaredLength b
  · rw [if_pos (by omega), if_pos hshort]
    exact ⟨_, rfl⟩
  have htotal : ((12 : ℤ) + declaredLength b).toNat = 12 + declaredLength b := by omega
  rw [if_neg (by omega), if_neg hshort, htotal, P2PFrame.decode_eq_ok]
  simp only [Checked.ok_bind, passOf]
  cases P2PFrame.decodePacket (b.take (12 + declaredLength b)) with
  | none => exact ⟨_, rfl⟩
  | some f => exact ⟨_, rfl⟩

/-- The loop drains the scanner; the length of the buffer bounds its passes. -/
lemma streamLoop_eq {maxPayloadSize : UInt32} (hmax : maxPayloadSize.toNat ≤ 2 ^ 31 - 13)
    (b : Bytes) : ∀ (fuel : ℕ) (frames : List P2PFrame) (err : String), b.length < fuel →
      ∃ err', streamLoop maxPayloadSize fuel frames b err
        = .ok ⟨frames ++ ((frameScanner maxPayloadSize).drain b).items,
            ((frameScanner maxPayloadSize).drain b).rest, err'⟩ := by
  induction b using (frameScanner maxPayloadSize).drain_induction with
  | wait b h =>
      intro fuel frames err hfuel
      obtain ⟨k, rfl⟩ : ∃ k, fuel = k + 1 := ⟨fuel - 1, by omega⟩
      rw [streamLoop, Scanner.drain_of_wait _ h]
      by_cases h8 : b.length < 8
      · exact ⟨err, by simp [h8]⟩
      · obtain ⟨err', hpass⟩ := streamIteration_eq hmax (b := b) (by omega) err
        rw [h] at hpass
        exact ⟨err', by simp [h8, hpass, passOf]⟩
  | flush b h =>
      intro fuel frames err hfuel
      obtain ⟨k, rfl⟩ : ∃ k, fuel = k + 1 := ⟨fuel - 1, by omega⟩
      have h8 : ¬ b.length < 8 := fun hlt => by
        rw [show (frameScanner maxPayloadSize).look b = .wait from if_pos hlt] at h
        cases h
      obtain ⟨err', hpass⟩ := streamIteration_eq hmax (b := b) (by omega) err
      rw [h] at hpass
      rw [streamLoop, Scanner.drain_of_flush _ h]
      exact ⟨err', by simp [h8, hpass, passOf]⟩
  | drop b n item h ih =>
      intro fuel frames err hfuel
      obtain ⟨k, rfl⟩ : ∃ k, fuel = k + 1 := ⟨fuel - 1, by omega⟩
      have h8 : 8 ≤ b.length := (frameLook_drop h).1
      have hpos := Scanner.drop_pos _ h
      obtain ⟨err', hpass⟩ := streamIteration_eq hmax h8 err
      rw [h] at hpass
      obtain ⟨err'', hrest⟩ := ih k (frames ++ item.toList) err'
        (by rw [List.length_drop]; omega)
      rw [streamLoop, if_neg (by omega), hpass, Scanner.drain_of_drop _ h]
      simp only [Checked.ok_bind, passOf, hrest]
      exact ⟨err'', by simp [Drained.cons?]⟩

/-- `processStreamBuffer` returns, without a fault, what draining the scanner
yields. -/
theorem processStreamBuffer_eq {maxPayloadSize : UInt32}
    (hmax : maxPayloadSize.toNat ≤ 2 ^ 31 - 13) {b : Bytes}
    (hb : b.length ≤ MAX_RECEIVE_BUFFER_SIZE) (err : String) :
    ∃ err', processStreamBuffer b err maxPayloadSize
      = .ok ⟨((frameScanner maxPayloadSize).drain b).items,
          ((frameScanner maxPayloadSize).drain b).rest, err'⟩ := by
  obtain ⟨err', h⟩ := streamLoop_eq hmax b (b.length + 1) [] err (by omega)
  exact ⟨err', by rw [processStreamBuffer, if_neg (by omega), h, List.nil_append]⟩

/-! ### Arbitrary bytes -/

/-- Some pass of the loop takes a branch that clears the whole buffer. -/
def clearsBuffer (maxPayloadSize : UInt32) : ℕ → Bytes → Bool
  | 0, _ => false
  | fuel + 1, buffer =>
      if buffer.length < 8 then false
      else
        match streamIteration buffer "" maxPayloadSize with
        | .ok (.stop buffer _) => buffer.isEmpty
        | .ok (.again buffer _ _) => clearsBuffer maxPayloadSize fuel buffer
        | .error _ => false

/-- The loop clears the buffer where the scanner discards it. -/
lemma clearsBuffer_eq {maxPayloadSize : UInt32} (hmax : maxPayloadSize.toNat ≤ 2 ^ 31 - 13)
    (b : Bytes) : ∀ fuel : ℕ, b.length < fuel →
      clearsBuffer maxPayloadSize fuel b = ((frameScanner maxPayloadSize).drain b).flushed := by
  induction b using (frameScanner maxPayloadSize).drain_induction with
  | wait b h =>
      intro fuel hfuel
      obtain ⟨k, rfl⟩ : ∃ k, fuel = k + 1 := ⟨fuel - 1, by omega⟩
      rw [clearsBuffer, Scanner.drain_of_wait _ h]
      by_cases h8 : b.length < 8
      · rw [if_pos h8]
      · obtain ⟨err', hpass⟩ := streamIteration_eq hmax (b := b) (by omega) ""
        have hne : b ≠ [] := by
          rintro rfl
          simp at h8
        rw [h] at hpass
        simp [h8, hpass, passOf, hne]
  | flush b h =>
      intro fuel hfuel
      obtain ⟨k, rfl⟩ : ∃ k, fuel = k + 1 := ⟨fuel - 1, by omega⟩
      have h8 : ¬ b.length < 8 := fun hlt => by
        rw [show (frameScanner maxPayloadSize).look b = .wait from if_pos hlt] at h
        cases h
      obtain ⟨err', hpass⟩ := streamIteration_eq hmax (b := b) (by omega) ""
      rw [h] at hpass
      rw [clearsBuffer, Scanner.drain_of_flush _ h]
      simp [h8, hpass, passOf]
  | drop b n item h ih =>
      intro fuel hfuel
      obtain ⟨k, rfl⟩ : ∃ k, fuel = k + 1 := ⟨fuel - 1, by omega⟩
      have h8 : 8 ≤ b.length := (frameLook_drop h).1
      have hpos := Scanner.drop_pos _ h
      obtain ⟨err', hpass⟩ := streamIteration_eq hmax h8 ""
      rw [h] at hpass
      rw [clearsBuffer, if_neg (by omega), hpass, Scanner.drain_of_drop _ h]
      exact ih k (by rw [List.length_drop]; omega)

/-- A frame is dropped with its encoding, and its payload is admissible. -/
lemma look_frame {maxPayloadSize : UInt32} {b : Bytes} {n : ℕ} {f : P2PFrame}
    (h : (frameScanner maxPayloadSize).look b = .drop n (some f)) :
    b.take n = f.encode ∧ f.payload.length ≤ maxPayloadSize.toNat := by
  obtain ⟨-, ⟨-, hnone, -⟩ | ⟨-, hmax, hn, hle, hitem⟩⟩ := frameLook_drop h
  · cases hnone
  · have hdecode : P2PFrame.decode (b.take n) = .ok (some f) := by
      rw [P2PFrame.decode_eq_ok, ← hitem]
    have hcode := ((P2PFrame.decode_eq_some_iff _ _).mp hdecode).1
    have hlength := congrArg List.length hcode
    rw [List.length_take, P2PFrame.length_encode] at hlength
    exact ⟨hcode, by omega⟩

/-- A buffer that makes the scanner wait is shorter than the longest packet. -/
lemma length_lt_of_wait {maxPayloadSize : UInt32} {b : Bytes}
    (h : (frameScanner maxPayloadSize).look b = .wait) : b.length < 12 + maxPayloadSize.toNat := by
  have hlook : frameLook maxPayloadSize b = .wait := h
  rw [frameLook] at hlook
  split_ifs at hlook with h8 hmagic hmax hshort
  · omega
  · cases hidx : indexOf magicBytes (b.drop 1) with
    | none => simp only [hidx, reduceCtorEq] at hlook
    | some i => simp only [hidx, reduceCtorEq] at hlook
  · omega

/-- What a call of `processStreamBuffer` on `b` returned: the frames lie in the
buffer one behind the other and the rest follows, everything is within the
limits, a second call on the rest does nothing, and if no pass cleared the
buffer then with more bytes the call would have gone on from the rest. -/
structure Processed (maxPayloadSize : UInt32) (b : Bytes) (r : StreamResult) : Prop where
  found : Scanner.Found (r.frames.map P2PFrame.encode) b r.buffer
  payload : ∀ f ∈ r.frames, f.payload.length ≤ maxPayloadSize.toNat
  small : r.buffer.length < 12 + maxPayloadSize.toNat
  settled (err : String) : ∃ err', processStreamBuffer r.buffer err maxPayloadSize =
    .ok ⟨[], r.buffer, err'⟩
  incremental : clearsBuffer maxPayloadSize (b.length + 1) b = false → ∀ (c : Bytes) (err : String),
    (b ++ c).length ≤ MAX_RECEIVE_BUFFER_SIZE →
      ∃ r' err', processStreamBuffer (r.buffer ++ c) err maxPayloadSize = .ok r' ∧
        processStreamBuffer (b ++ c) err maxPayloadSize =
          .ok ⟨r.frames ++ r'.frames, r'.buffer, err'⟩

/-- **Arbitrary bytes.** `processStreamBuffer` returns for every buffer, with
frames that are in it and a rest it can go on from. -/
theorem processStreamBuffer_processed {maxPayloadSize : UInt32}
    (hmax : maxPayloadSize.toNat ≤ 2 ^ 31 - 13) {b : Bytes}
    (hb : b.length ≤ MAX_RECEIVE_BUFFER_SIZE) (err : String) :
    ∃ r, processStreamBuffer b err maxPayloadSize = .ok r ∧ Processed maxPayloadSize b r := by
  obtain ⟨err', heq⟩ := processStreamBuffer_eq hmax hb err
  have hfound := (frameScanner maxPayloadSize).found_drain P2PFrame.encode
    (fun _ _ _ h => (look_frame h).1) b
  have hrest := hfound.rest_suffix.length_le
  have hagain := (frameScanner maxPayloadSize).drain_rest (frameScanner_look_nil _) b
  refine ⟨_, heq, hfound, ?_, ?_, ?_, ?_⟩
  · exact (frameScanner maxPayloadSize).forall_items_drain (fun _ _ _ h => (look_frame h).2) b
  · by_cases hflush : ((frameScanner maxPayloadSize).drain b).flushed = false
    · exact length_lt_of_wait (Scanner.look_rest _ hflush)
    · have hnil : ((frameScanner maxPayloadSize).drain b).rest = [] :=
        Scanner.rest_of_flushed _ (by simpa using hflush)
      simp [hnil]
  · intro err
    obtain ⟨err', h⟩ := processStreamBuffer_eq hmax
      (b := ((frameScanner maxPayloadSize).drain b).rest)
      (by omega) err
    rw [hagain] at h
    exact ⟨err', h⟩
  · intro hclear c err hlength
    rw [clearsBuffer_eq hmax b _ (Nat.lt_succ_self _)] at hclear
    rw [List.length_append] at hlength
    obtain ⟨err₁, h₁⟩ := processStreamBuffer_eq hmax
      (b := ((frameScanner maxPayloadSize).drain b).rest ++ c)
      (by rw [List.length_append]; omega) err
    obtain ⟨err₂, h₂⟩ := processStreamBuffer_eq hmax (b := b ++ c)
      (by rw [List.length_append]; omega) err
    rw [Scanner.drain_append _ hclear c] at h₂
    exact ⟨_, err₂, h₁, h₂⟩

/-- A heartbeat of one byte. -/
def pingPacket : Bytes := P2PFrame.encode { type := .Heartbeat, payload := [0x70] }

/-- A heartbeat between garbage and the start of another one. -/
theorem processStreamBuffer_processed_ping :
    ∃ r, processStreamBuffer ([0x00, 0x4D] ++ pingPacket ++ pingPacket.take 9) ""
        MAX_FRAME_PAYLOAD_SIZE = .ok r ∧
      Processed MAX_FRAME_PAYLOAD_SIZE ([0x00, 0x4D] ++ pingPacket ++ pingPacket.take 9) r ∧
      r.frames = [⟨.Heartbeat, [0x70]⟩] ∧ r.buffer = pingPacket.take 9 := by
  have hcall : processStreamBuffer ([0x00, 0x4D] ++ pingPacket ++ pingPacket.take 9) ""
      MAX_FRAME_PAYLOAD_SIZE = .ok ⟨[⟨.Heartbeat, [0x70]⟩], pingPacket.take 9,
        "Invalid frame magic: 0x004d"⟩ := by decide +kernel
  have hmax : MAX_FRAME_PAYLOAD_SIZE.toNat ≤ 2 ^ 31 - 13 := by decide
  obtain ⟨r, hr, hprocessed⟩ := processStreamBuffer_processed hmax
    (b := [0x00, 0x4D] ++ pingPacket ++ pingPacket.take 9) (by decide +kernel) ""
  refine ⟨r, hr, hprocessed, ?_⟩
  rw [hcall, Except.ok.injEq] at hr
  rw [← hr]
  exact ⟨rfl, rfl⟩

/-! ### Feeding chunks -/

/-- The receive path: append each chunk to the buffer, process it, and keep
what is left. All frames, and the buffer in the end. -/
def feedStream (maxPayloadSize : UInt32) : Bytes → List Bytes → Checked (List P2PFrame × Bytes)
  | buffer, [] => .ok ([], buffer)
  | buffer, chunk :: chunks => do
      let r ← processStreamBuffer (buffer ++ chunk) "" maxPayloadSize
      let later ← feedStream maxPayloadSize r.buffer chunks
      .ok (r.frames ++ later.1, later.2)

/-- Whenever a chunk arrives, it and what is left over fit into the receive
buffer. -/
def fitsBuffer (maxPayloadSize : UInt32) : Bytes → List Bytes → Bool
  | _, [] => true
  | buffer, chunk :: chunks =>
      decide ((buffer ++ chunk).length ≤ MAX_RECEIVE_BUFFER_SIZE) &&
        match processStreamBuffer (buffer ++ chunk) "" maxPayloadSize with
        | .ok r => fitsBuffer maxPayloadSize r.buffer chunks
        | .error _ => false

/-- Within the receive buffer, feeding chunks is feeding the scanner. -/
lemma feedStream_eq {maxPayloadSize : UInt32} (hmax : maxPayloadSize.toNat ≤ 2 ^ 31 - 13)
    {buffer : Bytes} {chunks : List Bytes} (hfit : fitsBuffer maxPayloadSize buffer chunks) :
    feedStream maxPayloadSize buffer chunks
      = .ok ((frameScanner maxPayloadSize).feed buffer chunks) := by
  induction chunks generalizing buffer with
  | nil => rfl
  | cons chunk chunks ih =>
      rw [fitsBuffer, Bool.and_eq_true, decide_eq_true_eq] at hfit
      obtain ⟨err, hproc⟩ := processStreamBuffer_eq hmax hfit.1 ""
      have hlater := hfit.2
      rw [hproc] at hlater
      rw [feedStream, hproc, Scanner.feed]
      simp only [Checked.ok_bind, ih hlater]

/-! ### Streams of packets -/

/-- A delimited packet: the magic, an admissible length field, and exactly the
bytes it declares; type, payload and checksum are arbitrary. -/
structure IsPacket (maxPayloadSize : UInt32) (p : Bytes) : Prop where
  magic : p.take 2 = magicBytes
  admissible : declaredLength p ≤ maxPayloadSize.toNat
  length : p.length = 12 + declaredLength p

/-- The frame `P2PFrame::decode` yields for a packet, where it succeeds. -/
def decodedFrame (p : Bytes) : Option P2PFrame :=
  match P2PFrame.decode p with
  | .ok r => r
  | .error _ => none

lemma decodedFrame_eq (p : Bytes) : decodedFrame p = P2PFrame.decodePacket p := by
  rw [decodedFrame, P2PFrame.decode_eq_ok]

/-- The scanner recognises a delimited packet, and waits inside of it. -/
lemma IsPacket.scanned {maxPayloadSize : UInt32} {p : Bytes} (hp : IsPacket maxPayloadSize p) :
    (frameScanner maxPayloadSize).IsPacket p (decodedFrame p) := by
  have hlen := hp.length
  have hadm := hp.admissible
  have hmagic : ofBE16 (slice p 0 2) = FRAME_MAGIC := by
    rw [slice, List.drop_zero, hp.magic]
    rfl
  constructor
  · show frameLook maxPayloadSize p = _
    rw [frameLook, if_neg (by omega), if_neg (not_not.mpr hmagic), if_neg (by omega),
      if_neg (by omega), ← hlen, List.take_length, decodedFrame_eq]
  · rintro q ⟨t, rfl⟩ hne
    show frameLook maxPayloadSize q = _
    have ht : 0 < t.length := by
      rw [List.length_pos_iff]
      exact fun h => hne (by rw [h, List.append_nil])
    rw [List.length_append] at hlen
    by_cases h8 : q.length < 8
    · exact if_pos h8
    -- from eight bytes on the prefix shows the fields of the packet
    · have hfield : declaredLength (q ++ t) = declaredLength q := by
        rw [declaredLength, slice_append_of_le (by omega), declaredLength]
      rw [slice_append_of_le (by omega)] at hmagic
      rw [frameLook, if_neg h8, if_neg (not_not.mpr hmagic), if_neg (by omega),
        if_pos (by omega)]

/-- **Stream reassembly with corruption isolation.** Delimited packets, cut
into chunks in any way that fits the receive buffer, yield the frames of the
packets that decode, in order, and leave an empty buffer. -/
theorem packet_stream_reassembled {maxPayloadSize : UInt32}
    (hmax : maxPayloadSize.toNat ≤ 4 * 1024 * 1024) {packets : List Bytes}
    (hpackets : ∀ p ∈ packets, IsPacket maxPayloadSize p) {chunks : List Bytes}
    (hcut : chunks.flatten = packets.flatten) (hfit : fitsBuffer maxPayloadSize [] chunks) :
    feedStream maxPayloadSize [] chunks = .ok (packets.filterMap decodedFrame, []) := by
  rw [feedStream_eq (by omega) hfit]
  congr 1
  exact Scanner.feed_packets (frameScanner_look_nil _) (fun p hp => (hpackets p hp).scanned) hcut

/-- A packet of no payload with a wrong checksum. -/
def badPacket : Bytes := [0x4D, 0x43, 0x00, 0x01, 0, 0, 0, 0, 0, 0, 0, 0]

/-- The bad packet costs the neighbouring heartbeats nothing, though the cuts
fall inside a header and inside a checksum. -/
theorem packet_stream_reassembled_bad_crc :
    feedStream MAX_FRAME_PAYLOAD_SIZE []
        [pingPacket.take 5, pingPacket.drop 5 ++ badPacket.take 10, badPacket.drop 10 ++ pingPacket]
      = .ok ([⟨.Heartbeat, [0x70]⟩, ⟨.Heartbeat, [0x70]⟩], []) := by
  have hpackets : ∀ p ∈ [pingPacket, badPacket, pingPacket],
      IsPacket MAX_FRAME_PAYLOAD_SIZE p := by
    have hping : IsPacket MAX_FRAME_PAYLOAD_SIZE pingPacket :=
      ⟨by decide +kernel, by decide +kernel, by decide +kernel⟩
    have hbad : IsPacket MAX_FRAME_PAYLOAD_SIZE badPacket :=
      ⟨by decide +kernel, by decide +kernel, by decide +kernel⟩
    simp [hping, hbad]
  exact (packet_stream_reassembled (by decide) hpackets (by decide +kernel)
    (by decide +kernel)).trans (by decide +kernel)

end MeckChat.Network
