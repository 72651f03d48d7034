import MeckChat.Network.MqttStream

/-!
What a PUBLISH leads to at its receiver.

* `receiptsOf` is the PUBACK and the call of `processReceivedPayload` that a packet leads
  to, whatever the state of the client (`receipts_dispatch`).
* `receipts_feed`: so the receipts of a stream are those of its packets.
* `publish_round_trip`: what `sendPublish` writes is received once, and acknowledged once
  if its sender asks for that.
-/

namespace MeckChat.Network.MqttTurn

open QJson QString

/-- The calls of `processReceivedPayload`, and the PUBACKs. -/
def receipts (deeds : List MqttDeed) : List MqttDeed := deeds.filter MqttDeed.isReceipt

/-- What a PUBLISH leads to behind its topic and its packet id. -/
def payloadReceipts (topic : String) (payload : Bytes) : List MqttDeed :=
  if payload.length > MAX_SIGNALING_PAYLOAD_SIZE then [] else [.received topic payload]

/-- The PUBACK of a packet id. -/
def puback (packetId : UInt16) : MqttDeed :=
  .write (controlPacket PacketType.PUBACK (be16 packetId))

/-- The receipts of a packet. -/
def receiptsOf (p : UInt8 × Bytes) : List MqttDeed :=
  if p.1 &&& 0xF0 ≠ PacketType.PUBLISH then []
  else
    match decodeUtf8String p.2 0 with
    | none => []
    | some (topic, offset) =>
        if (p.1 >>> 1) &&& 0x03 > 0 then
          if offset + 2 > p.2.length then []
          else
            puback (ofBE16 (slice p.2 offset 2)) :: payloadReceipts topic (p.2.drop (offset + 2))
        else payloadReceipts topic (p.2.drop offset)

variable {t t' : MqttTurn} {json : JsonCodec} {io : MqttIo}

lemma Emits.receipts_eq (h : Emits MqttDeed.IsPlain t t') :
    receipts t'.deeds = receipts t.deeds := by
  obtain ⟨ds, hds, hP⟩ := h
  have hnil : ds.filter MqttDeed.isReceipt = [] :=
    List.filter_eq_nil_iff.mpr fun d hd => by rw [(hP d hd).2]; exact Bool.false_ne_true
  rw [hds, receipts, List.filter_append, hnil, List.append_nil]
  rfl

lemma receipts_log (d : MqttDeed) :
    receipts (t.log d).deeds = receipts t.deeds ++ [d].filter MqttDeed.isReceipt :=
  List.filter_append _ _

lemma receipts_handlePublish {header : UInt8} {data : Bytes}
    (hheader : header &&& 0xF0 = PacketType.PUBLISH) :
    receipts (t.handlePublish json io header data).deeds =
      receipts t.deeds ++ receiptsOf (header, data) := by
  have hpayload : ∀ (t : MqttTurn) topic payload,
      receipts (if payload.length > MAX_SIGNALING_PAYLOAD_SIZE then t
        else t.processReceivedPayload json io topic payload).deeds =
          receipts t.deeds ++ payloadReceipts topic payload := by
    intro t topic payload
    rw [payloadReceipts]
    split_ifs
    · exact (List.append_nil _).symm
    · rw [(emits_processReceivedPayload topic payload).receipts_eq, receipts_log]
      rfl
  rw [handlePublish, receiptsOf, if_neg (not_not.mpr hheader)]
  cases decodeUtf8String data 0 with
  | none => exact (List.append_nil _).symm
  | some r =>
      dsimp only
      by_cases hqos : (header >>> 1) &&& 0x03 > 0
      · rw [if_pos hqos, if_pos hqos]
        by_cases hshort : r.2 + 2 > data.length
        · rw [if_pos hshort, if_pos hshort]
          exact (List.append_nil _).symm
        · rw [if_neg hshort, if_neg hshort, hpayload, sendPuback, write, receipts_log,
            List.append_assoc]
          rfl
      · rw [if_neg hqos, if_neg hqos]
        exact hpayload _ _ _

/-- **The receipts of one packet** do not depend on the client. -/
lemma receipts_dispatch (t : MqttTurn) (header : UInt8) (data : Bytes) :
    receipts (t.dispatch json io header data).deeds =
      receipts t.deeds ++ receiptsOf (header, data) := by
  have hlog : receipts (t.log (.dispatched header data)).deeds = receipts t.deeds := by
    rw [receipts_log]
    exact List.append_nil _
  have hother : header &&& 0xF0 ≠ PacketType.PUBLISH → receiptsOf (header, data) = [] :=
    fun h => if_pos h
  rw [dispatch]
  split_ifs with hconnack hpublish hpuback hsuback hpingresp
  · rw [emits_handleConnack.receipts_eq, hlog, hother (by rw [hconnack]; decide), List.append_nil]
  · rw [receipts_handlePublish hpublish, hlog]
  · rw [hlog, hother hpublish, List.append_nil]
  · rw [emits_handleSuback.receipts_eq, hlog, hother hpublish, List.append_nil]
  · rw [hother hpublish, List.append_nil]
    exact hlog
  · rw [hlog, hother hpublish, List.append_nil]

/-- A part of a call that dispatches some packets has their receipts. -/
def Receives (t t' : MqttTurn) : Prop :=
  ∃ ps, dispatches t'.deeds = dispatches t.deeds ++ ps ∧
    receipts t'.deeds = receipts t.deeds ++ ps.flatMap receiptsOf

lemma Receives.refl (t : MqttTurn) : Receives t t :=
  ⟨[], (List.append_nil _).symm, (List.append_nil _).symm⟩

lemma Receives.trans {t'' : MqttTurn} (h : Receives t t') (h' : Receives t' t'') :
    Receives t t'' := by
  obtain ⟨ps, hps, hreceipts⟩ := h
  obtain ⟨ps', hps', hreceipts'⟩ := h'
  refine ⟨ps ++ ps', by rw [hps', hps, List.append_assoc], ?_⟩
  rw [hreceipts', hreceipts, List.flatMap_append, List.append_assoc]

lemma receives_processLoop {fuel : ℕ} : Receives t (t.processLoop json io fuel) := by
  induction fuel generalizing t with
  | zero => exact Receives.refl t
  | succ fuel ih =>
      rw [processLoop_succ]
      cases hlook : lookPacket t.client.m_receiveBuffer with
      | wait => exact Receives.refl t
      | flush =>
          have hplain : Emits MqttDeed.IsPlain (t.log (.corrupted t.client.m_receiveBuffer))
              ((t.log (.corrupted t.client.m_receiveBuffer)).abort io) := emits_abort
          refine ⟨[], ?_, ?_⟩
          · rw [(hplain.mono untraced_of_plain).dispatches_eq.1, dispatches, log,
              List.filterMap_append]
            rfl
          · rw [hplain.receipts_eq, receipts_log]
            rfl
      | drop n item =>
          obtain ⟨_, _, header, data, rfl⟩ := exists_packet hlook
          have hone : Receives t ((t.setBuffer (t.client.m_receiveBuffer.drop n)).dispatch json io
              header data) :=
            ⟨[(header, data)], (traces_dispatch json io _ header data).1, by
              rw [receipts_dispatch, List.flatMap_singleton]
              rfl⟩
          exact hone.trans ih

/-- **The receipts of a stream** are those of the packets that are dispatched. -/
lemma receives_feed (json : JsonCodec) (chunks : List (MqttIo × Bytes)) :
    Receives t (t.feed json chunks) := by
  induction chunks generalizing t with
  | nil => exact Receives.refl t
  | cons c chunks ih =>
      have hone : Receives t (t.onSocketReadyRead json c.1 c.2) :=
        receives_processLoop (t := t.setBuffer (t.client.m_receiveBuffer ++ c.2))
      exact hone.trans ih

/-! ### The round trip -/

lemma length_toUtf8_of_ascii {cs : List Char} (h : ∀ c ∈ cs, c.toNat ≤ 126) :
    (cs.flatMap String.utf8EncodeChar).length = cs.length := by
  induction cs with
  | nil => rfl
  | cons c cs ih =>
      have hc : c.val ≤ 127 := by
        rw [UInt32.le_iff_toNat_le]
        exact (h c List.mem_cons_self).trans (by decide)
      rw [List.flatMap_cons, List.length_append, String.length_utf8EncodeChar,
        Char.utf8Size_eq_one_iff.mpr hc, ih fun c hc => h c (List.mem_cons_of_mem _ hc),
        List.length_cons, Nat.add_comm]

/-- A valid topic is short, and begins with no byte order mark. -/
lemma length_toUtf8_of_isValidTopic {topic : String} (h : isValidTopic topic = true) :
    (toUtf8 topic).length ≤ 256 ∧ topic.toList.head? ≠ some byteOrderMark := by
  rw [isValidTopic] at h
  split_ifs at h with hlength
  have hascii : ∀ c ∈ topic.toList, c.toNat ≤ 126 := by
    intro c hc
    have hboth := List.all_eq_true.mp h c hc
    simp only [Bool.and_eq_true, decide_eq_true_eq] at hboth
    exact hboth.2
  constructor
  · rw [toUtf8, length_toUtf8_of_ascii hascii]
    omega
  · intro hhead
    have hmark := hascii byteOrderMark (List.mem_of_mem_head? hhead)
    exact absurd hmark (by decide)

/-- The flags of a PUBLISH are read back. -/
lemma publishHeader_type : ∀ qos ∈ [0, 1], ∀ retain,
    publishHeader qos retain &&& 0xF0 = PacketType.PUBLISH ∧
      (publishHeader qos retain >>> 1) &&& 0x03 = qos :=
  List.forall_iff_forall_mem.mp (by decide)

/-- The packet that `sendPublish` writes. -/
def publishPacket (topic : String) (payload : Bytes) (qos : UInt8) (retain : Bool)
    (packetId : UInt16) : UInt8 × Bytes :=
  (publishHeader qos retain,
    encodeUtf8String topic ++ (if qos > 0 then be16 packetId else []) ++ payload)

lemma sendPublish_eq {topic : String} (payload : Bytes) (qos : UInt8) (retain : Bool)
    (htopic : isValidTopic topic = true) (hsocket : t.client.m_socket.state = .ConnectedState) :
    (t.sendPublish topic payload qos retain).deeds = t.deeds ++
      [.write (controlPacket (publishPacket topic payload qos retain t.nextPacketId.2).1
        (publishPacket topic payload qos retain t.nextPacketId.2).2)] := by
  rw [sendPublish, htopic, hsocket, if_neg (by decide), publishPacket]
  split_ifs with hqos
  · rfl
  · rw [List.append_nil]
    rfl

lemma nextPacketId_ne_zero (t : MqttTurn) : t.nextPacketId.2 ≠ 0 := by
  rw [nextPacketId]
  dsimp only
  split_ifs with h
  · decide
  · exact h

/-- **A PUBLISH is read back.** -/
lemma receiptsOf_publishPacket {topic : String} {payload : Bytes} {qos : UInt8} (retain : Bool)
    (packetId : UInt16) (htopic : isValidTopic topic = true)
    (hpayload : payload.length ≤ MAX_SIGNALING_PAYLOAD_SIZE) (hqos : qos ∈ [0, 1]) :
    receiptsOf (publishPacket topic payload qos retain packetId) =
      (if qos = 1 then [puback packetId] else []) ++ [.received topic payload] := by
  obtain ⟨htype, hflags⟩ := publishHeader_type qos hqos retain
  obtain ⟨hlength, hmark⟩ := length_toUtf8_of_isValidTopic htopic
  have hfits : payloadReceipts topic payload = [.received topic payload] := if_neg (by omega)
  rw [receiptsOf, publishPacket, if_neg (not_not.mpr htype), List.append_assoc,
    decodeUtf8String_encode (by omega) hmark]
  simp only [hflags]
  rcases List.mem_pair.mp hqos with rfl | rfl
  · rw [if_neg (by decide), if_neg (by decide), if_neg (by decide), List.nil_append,
      List.drop_left, hfits]
    rfl
  · have hsize : (encodeUtf8String topic ++ (be16 packetId ++ payload)).length =
        (encodeUtf8String topic).length + 2 + payload.length := by
      rw [List.length_append, List.length_append, length_be16]
      omega
    have hid : slice (encodeUtf8String topic ++ (be16 packetId ++ payload))
        (encodeUtf8String topic).length 2 = be16 packetId :=
      slice_eq_of_append rfl rfl (length_be16 _)
    have hdrop : (encodeUtf8String topic ++ (be16 packetId ++ payload)).drop
        ((encodeUtf8String topic).length + 2) = payload := by
      rw [← List.append_assoc]
      exact List.drop_left' (by rw [List.length_append, length_be16])
    have hone : (1 : UInt8) > 0 := by decide
    simp only [hone, if_true]
    rw [hsize, if_neg (by omega), hid, hdrop, hfits, ofBE16_be16]
    rfl

/-- **Publish round trip.** What `sendPublish` writes is, in chunks of any size, handed on
once with its topic and its payload, and acknowledged once with its packet id where its
sender asks for that. -/
theorem publish_round_trip (json : JsonCodec) {sender : MqttTurn} {topic : String}
    {payload : Bytes} {qos : UInt8} (retain : Bool) (htopic : isValidTopic topic = true)
    (hpayload : payload.length ≤ MAX_SIGNALING_PAYLOAD_SIZE) (hqos : qos ∈ [0, 1])
    (hsocket : sender.client.m_socket.state = .ConnectedState) :
    ∃ packetId, packetId ≠ 0 ∧
      (sender.sendPublish topic payload qos retain).deeds = sender.deeds ++
        [.write (packetBytes [publishPacket topic payload qos retain packetId])] ∧
      ∀ (receiver : MqttTurn) (chunks : List (MqttIo × Bytes)),
        receiver.client.m_receiveBuffer = [] →
        bytesOf chunks = packetBytes [publishPacket topic payload qos retain packetId] →
        receipts (receiver.feed json chunks).deeds = receipts receiver.deeds ++
          ((if qos = 1 then [puback packetId] else []) ++ [.received topic payload]) ∧
        (receiver.feed json chunks).client.m_receiveBuffer = [] := by
  obtain ⟨packet, hpacket⟩ : ∃ packet,
      packet = publishPacket topic payload qos retain sender.nextPacketId.2 := ⟨_, rfl⟩
  have hsent : (sender.sendPublish topic payload qos retain).deeds = sender.deeds ++
      [.write (packetBytes [packet])] := by
    rw [sendPublish_eq payload qos retain htopic hsocket, ← hpacket]
    exact congrArg (fun b => sender.deeds ++ [MqttDeed.write b]) (List.append_nil _).symm
  have hsmall : packet.2.length < 2 ^ 28 := by
    obtain ⟨hlength, _⟩ := length_toUtf8_of_isValidTopic htopic
    have hid : (if qos > 0 then be16 sender.nextPacketId.2 else []).length ≤ 2 := by
      split_ifs
      · exact (length_be16 _).le
      · exact Nat.zero_le _
    rw [MAX_SIGNALING_PAYLOAD_SIZE] at hpayload
    rw [hpacket, publishPacket, List.length_append, List.length_append, encodeUtf8String,
      List.length_append, length_be16]
    omega
  have hharmless : ¬ Aborts packet := by
    rintro ⟨hconnack, _⟩
    rw [hpacket, publishPacket, (publishHeader_type qos hqos retain).1] at hconnack
    exact absurd hconnack (by decide)
  refine ⟨sender.nextPacketId.2, nextPacketId_ne_zero sender, by rw [hsent, hpacket], ?_⟩
  intro receiver chunks hempty hbytes
  rw [← hpacket] at hbytes
  have hwhole := feed_stream json hempty (List.forall_mem_singleton.mpr hsmall)
    (List.forall_mem_singleton.mpr hharmless) (by rw [hbytes])
  obtain ⟨hdispatches, hbuffer⟩ := hwhole.2 hbytes
  obtain ⟨ps, hps, hreceipts⟩ := receives_feed (t := receiver) json chunks
  rw [hps, List.append_cancel_left_eq] at hdispatches
  refine ⟨?_, hbuffer⟩
  rw [hreceipts, hdispatches, List.flatMap_singleton, hpacket,
    receiptsOf_publishPacket retain _ htopic hpayload hqos]

/-- A client with a connection. -/
def connectedTurn : MqttTurn where
  client :=
    { config := { deviceId := "mc_0001" }
      m_socket := { state := .ConnectedState, encrypted := true } }

theorem publish_round_trip_discovery :
    ∃ packetId, packetId ≠ 0 ∧
      (connectedTurn.sendPublish "meckchat/v1/discovery" [0x7B, 0x7D] 1 false).deeds =
        [.write (packetBytes
          [publishPacket "meckchat/v1/discovery" [0x7B, 0x7D] 1 false packetId])] ∧
      ∀ (receiver : MqttTurn) (chunks : List (MqttIo × Bytes)),
        receiver.client.m_receiveBuffer = [] →
        bytesOf chunks = packetBytes
          [publishPacket "meckchat/v1/discovery" [0x7B, 0x7D] 1 false packetId] →
        receipts (receiver.feed QJson.compact chunks).deeds = receipts receiver.deeds ++
          ([puback packetId] ++ [.received "meckchat/v1/discovery" [0x7B, 0x7D]]) ∧
        (receiver.feed QJson.compact chunks).client.m_receiveBuffer = [] :=
  publish_round_trip QJson.compact false (by decide) (by decide)
    (by decide) rfl

end MeckChat.Network.MqttTurn
