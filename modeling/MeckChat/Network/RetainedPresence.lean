import MeckChat.Network.MqttPublish

/-!
What a new subscriber learns from the retained presence messages.

* `Announcement` is a call that announces a device, or its last will, and `message` what it
  publishes; `publishOnlinePresence_message`, `publishOfflinePresence_message` and
  `sendConnect_message` say that the calls write just that.
* `retained` is what the broker keeps: the last payload of each topic.
* `deliver` hands retained messages to a client, and `news_deliver` says what it reports.
* `presence_convergence` is the result: when the last report of a device is its last
  announcement.
-/

namespace MeckChat.Network

open MeckChat.Protocol.Presence QJson QString MqttTurn

/-! ### Announcements -/

/-- A call that announces a device, at some time, or the will of its client. -/
inductive Announcement where
  | online (device : Protocol.Presence.Device) (now : ℤ)
  | offline (deviceId : String)
  | will (deviceId : String)

/-- The topic of the presence of a device. -/
def presenceTopic (isOnline : Bool) (deviceId : String) : String :=
  (if isOnline then "meckchat/v1/presence/online/" else "meckchat/v1/presence/offline/") ++ deviceId

namespace Announcement

/-- The device it is about. -/
def deviceId : Announcement → String
  | online device _ => device.deviceId
  | offline deviceId => deviceId
  | will deviceId => deviceId

/-- Whether the device comes online in it. -/
def isOnline : Announcement → Bool
  | online _ _ => true
  | offline _ => false
  | will _ => false

/-- The object that is published. -/
def object : Announcement → JsonObject
  | online device now => device.toPresenceOnlineJson now
  | offline deviceId => presenceOfflineJson deviceId
  | will deviceId => presenceOfflineJson deviceId

/-- The topic it is published under. -/
def topic (a : Announcement) : String := presenceTopic a.isOnline a.deviceId

/-- Whether the checks before it is published pass; `sendPublish` also looks at the topic. -/
def isPublished : Announcement → Bool
  | will deviceId => isValidDeviceId deviceId
  | a => isValidDeviceId a.deviceId && isValidTopic a.topic

/-- The topic and the payload. -/
def message (json : JsonCodec) (a : Announcement) : String × Bytes :=
  (a.topic, json.toJson a.object)

end Announcement

namespace MqttTurn

variable {json : JsonCodec} {t : MqttTurn} {io : MqttIo}

lemma publish_message {a : Announcement} (hsocket : t.client.m_socket.state = .ConnectedState) :
    (if !isValidDeviceId a.deviceId then t
      else t.sendPublish a.topic (json.toJson a.object) 1 true).deeds =
      t.deeds ++
        if isValidDeviceId a.deviceId && isValidTopic a.topic then
          [.write (controlPacket
            (publishPacket (a.message json).1 (a.message json).2 1 true t.nextPacketId.2).1
            (publishPacket (a.message json).1 (a.message json).2 1 true t.nextPacketId.2).2)]
        else [] := by
  cases hid : isValidDeviceId a.deviceId with
  | false => exact (List.append_nil _).symm
  | true =>
      cases htopic : isValidTopic a.topic with
      | false =>
          rw [if_neg (by decide), if_neg (by decide), List.append_nil, sendPublish, htopic,
            if_pos (by rw [Bool.not_false, Bool.true_or])]
      | true =>
          rw [if_neg (by decide), if_pos (by decide)]
          exact sendPublish_eq _ _ _ htopic hsocket

/-- A client that is connected announces itself with the packet of its message. -/
lemma publishOnlinePresence_message (device : Protocol.Presence.Device)
    (hsocket : t.client.m_socket.state = .ConnectedState) :
    (t.publishOnlinePresence json io device).deeds = t.deeds ++
      let a := Announcement.online device io.now
      if a.isPublished then
        [.write (controlPacket
          (publishPacket (a.message json).1 (a.message json).2 1 true t.nextPacketId.2).1
          (publishPacket (a.message json).1 (a.message json).2 1 true t.nextPacketId.2).2)]
      else [] :=
  publish_message (a := .online device io.now) hsocket

lemma publishOfflinePresence_message (deviceId : String)
    (hsocket : t.client.m_socket.state = .ConnectedState) :
    (t.publishOfflinePresence json deviceId).deeds = t.deeds ++
      let a := Announcement.offline deviceId
      if a.isPublished then
        [.write (controlPacket
          (publishPacket (a.message json).1 (a.message json).2 1 true t.nextPacketId.2).1
          (publishPacket (a.message json).1 (a.message json).2 1 true t.nextPacketId.2).2)]
      else [] :=
  publish_message (a := .offline deviceId) hsocket

/-- The will of a client with a valid id ends its CONNECT: the topic, and the payload
behind its length. -/
lemma sendConnect_message (hid : isValidDeviceId t.client.config.deviceId = true) :
    let m := (Announcement.will t.client.config.deviceId).message json
    ∃ front, (t.sendConnect json io).deeds = t.deeds ++
      [.write (controlPacket PacketType.CONNECT
        (front ++ encodeUtf8String m.1 ++ be16 (UInt16.ofNat m.2.length) ++ m.2))] := by
  refine ⟨encodeUtf8String "MQTT" ++ [0x04, 0x02 ||| 0x04 ||| 0x08 ||| 0x20] ++
    be16 DEFAULT_KEEPALIVE_SECONDS ++ encodeUtf8String t.client.config.deviceId, ?_⟩
  rw [sendConnect]
  dsimp only
  rw [if_pos hid]
  simp only [write, log, List.append_assoc]
  rfl

end MqttTurn

/-! ### The broker -/

/-- The last payload of each topic. -/
def retained (json : JsonCodec) (h : List Announcement) : QMap String Bytes :=
  h.foldl (fun m a =>
    if a.isPublished then m.insert (a.message json).1 (a.message json).2 else m) ∅

/-- The last announcement of a device. -/
def lastAnnouncement (h : List Announcement) (deviceId : String) : Option Announcement :=
  (h.filter fun a => a.isPublished && a.deviceId = deviceId).getLast?

variable {json : JsonCodec} {h : List Announcement}

lemma not_prefix_of_offline (deviceId : String) :
    ¬ "meckchat/v1/presence/online/".toList <+: (presenceTopic false deviceId).toList := by
  intro hpre
  have hoffline : "meckchat/v1/presence/offline/".toList <+:
      (presenceTopic false deviceId).toList := by
    rw [presenceTopic, String.toList_append]
    exact List.prefix_append _ _
  exact absurd (List.prefix_of_prefix_length_le hpre hoffline (by decide)) (by decide)

lemma prefix_of_online (deviceId : String) :
    "meckchat/v1/presence/online/".toList <+: (presenceTopic true deviceId).toList := by
  rw [presenceTopic, String.toList_append]
  exact List.prefix_append _ _

/-- A topic tells what it is about. -/
lemma presenceTopic_inj {isOnline isOnline' : Bool} {deviceId deviceId' : String} :
    presenceTopic isOnline deviceId = presenceTopic isOnline' deviceId' ↔
      isOnline = isOnline' ∧ deviceId = deviceId' := by
  constructor
  · intro heq
    have hkind : isOnline = isOnline' := by
      cases isOnline <;> cases isOnline'
      · rfl
      · have hpre := prefix_of_online deviceId'
        rw [← heq] at hpre
        exact absurd hpre (not_prefix_of_offline deviceId)
      · have hpre := prefix_of_online deviceId
        rw [heq] at hpre
        exact absurd hpre (not_prefix_of_offline deviceId')
      · rfl
    subst hkind
    refine ⟨rfl, ?_⟩
    have hlists := congrArg String.toList heq
    rw [presenceTopic, presenceTopic, String.toList_append, String.toList_append] at hlists
    exact String.toList_injective (List.append_cancel_left hlists)
  · rintro ⟨rfl, rfl⟩
    rfl

/-- What is retained was announced. -/
lemma exists_of_retained {topic : String} {payload : Bytes}
    (hvalue : (retained json h).value? topic = some payload) :
    ∃ a ∈ h, a.isPublished = true ∧ a.message json = (topic, payload) := by
  induction h using List.reverseRecOn with
  | nil => simp [retained] at hvalue
  | append_singleton h a ih =>
      rw [retained, List.foldl_append] at hvalue
      by_cases hpublished : a.isPublished = true
      · simp only [List.foldl_cons, List.foldl_nil, if_pos hpublished, QMap.value?_insert] at hvalue
        split_ifs at hvalue with htopic
        · refine ⟨a, by simp, hpublished, ?_⟩
          exact Prod.ext htopic (Option.some_inj.mp hvalue)
        · obtain ⟨b, hb, hrest⟩ := ih hvalue
          exact ⟨b, List.mem_append_left _ hb, hrest⟩
      · simp only [List.foldl_cons, List.foldl_nil, if_neg hpublished] at hvalue
        obtain ⟨b, hb, hrest⟩ := ih hvalue
        exact ⟨b, List.mem_append_left _ hb, hrest⟩

/-- The last announcement of a device is retained. -/
lemma retained_last {a : Announcement} (hlast : lastAnnouncement h a.deviceId = some a) :
    (retained json h).value? a.topic = some (json.toJson a.object) := by
  induction h using List.reverseRecOn with
  | nil => simp [lastAnnouncement] at hlast
  | append_singleton h b ih =>
      rw [lastAnnouncement, List.filter_append] at hlast
      rw [retained, List.foldl_append]
      by_cases hb : (b.isPublished && b.deviceId = a.deviceId) = true
      · rw [List.filter_cons, if_pos hb, List.filter_nil, List.getLast?_append,
          List.getLast?_singleton, Option.some_or, Option.some_inj] at hlast
        rw [hlast, Bool.and_eq_true] at hb
        simp only [List.foldl_cons, List.foldl_nil, hlast, if_pos hb.1]
        exact QMap.value?_insert_self _ _ _
      · rw [List.filter_cons, if_neg hb, List.filter_nil, List.append_nil] at hlast
        have hsame := ih hlast
        by_cases hpublished : b.isPublished = true
        · simp only [List.foldl_cons, List.foldl_nil, if_pos hpublished]
          rw [QMap.value?_insert_of_ne]
          · exact hsame
          · intro htopic
            obtain ⟨_, hid⟩ := presenceTopic_inj.mp htopic
            exact hb (by rw [hpublished, hid, decide_eq_true rfl]; rfl)
        · simp only [List.foldl_cons, List.foldl_nil, if_neg hpublished]
          exact hsame

/-! ### The subscriber -/

/-- What a signal says of a device. -/
def MqttDeed.about? : MqttDeed → Option (String × Bool)
  | .deviceDiscovered device => some (device.deviceId, true)
  | .deviceLeft deviceId => some (deviceId, false)
  | _ => none

/-- The reports about a device: whether it was discovered or left. -/
def reports (deviceId : String) (deeds : List MqttDeed) : List Bool :=
  (deeds.filterMap MqttDeed.about?).filterMap fun r => if r.1 = deviceId then some r.2 else none

/-- A retained message on its way to a subscriber, with the packet id that the broker gives
it. -/
structure Delivery where
  io : MqttIo := {}
  packetId : UInt16 := 1
  message : String × Bytes

/-- The messages are handed to the client. -/
def deliver (json : JsonCodec) (t : MqttTurn) (ds : List Delivery) : MqttTurn :=
  ds.foldl (fun t d =>
    t.dispatch json d.io (publishPacket d.message.1 d.message.2 1 true d.packetId).1
      (publishPacket d.message.1 d.message.2 1 true d.packetId).2) t

/-- What the message says of a device, to a subscriber with an id. -/
def report? (deviceId subscriber : String) (message : String × Bytes) : Option Bool :=
  if deviceId = subscriber ∨ MAX_SIGNALING_PAYLOAD_SIZE < message.2.length then none
  else if message.1 = presenceTopic true deviceId then some true
  else if message.1 = presenceTopic false deviceId then some false
  else none

lemma isIdChar_eq (c : Char) :
    isIdChar c = (decide (c.val ≥ 'A'.val ∧ c.val ≤ 'Z'.val) ||
      c.val ≥ 'a'.val && c.val ≤ 'z'.val || c.val ≥ '0'.val && c.val ≤ '9'.val ||
      c = '_' || c = '-' || c = '.') := rfl

lemma isIdChar_ascii {c : Char} (hc : isIdChar c = true) : c.toNat ≤ 126 := by
  simp only [isIdChar_eq, Bool.or_eq_true, Bool.and_eq_true, decide_eq_true_eq,
    UInt32.le_iff_toNat_le, ge_iff_le] at hc
  have htoNat : c.val.toNat = c.toNat := rfl
  rcases hc with ((((⟨_, h⟩ | ⟨_, h⟩) | ⟨_, h⟩) | rfl) | rfl) | rfl
  · exact (htoNat ▸ h).trans (by decide)
  · exact (htoNat ▸ h).trans (by decide)
  · exact (htoNat ▸ h).trans (by decide)
  · decide
  · decide
  · decide

/-- A device id is short, and ASCII. -/
lemma ascii_of_isValidDeviceId {deviceId : String} (h : isValidDeviceId deviceId = true) :
    deviceId.toList.length ≤ 128 ∧ ∀ c ∈ deviceId.toList, c.toNat ≤ 126 := by
  rw [isValidDeviceId] at h
  split_ifs at h with hlength hpre
  refine ⟨by omega, ?_⟩
  have hall : ∀ c ∈ deviceId.toList, isIdChar c = true ∨ c = '\n' := by
    intro c hc
    rw [matchesId] at h
    split_ifs at h with hlast
    · obtain ⟨word, hword⟩ := List.getLast?_eq_some_iff.mp hlast
      rw [hword, List.dropLast_concat, Bool.and_eq_true] at h
      rw [hword] at hc
      rcases List.mem_append.mp hc with hc | hc
      · exact Or.inl (List.all_eq_true.mp h.2 c hc)
      · exact Or.inr (List.mem_singleton.mp hc)
    · rw [Bool.and_eq_true] at h
      exact Or.inl (List.all_eq_true.mp h.2 c hc)
  intro c hc
  rcases hall c hc with hchar | rfl
  · exact isIdChar_ascii hchar
  · decide

namespace Announcement

variable {a : Announcement}

lemma isValidDeviceId_of_isPublished (h : a.isPublished = true) :
    isValidDeviceId a.deviceId = true := by
  cases a with
  | online device now => exact (Bool.and_eq_true_iff.mp h).1
  | offline deviceId => exact (Bool.and_eq_true_iff.mp h).1
  | will deviceId => exact h

lemma value?_device_id (a : Announcement) :
    QJson.toString (a.object.value? "device_id") = a.deviceId := by
  cases a <;> simp [object, deviceId, Protocol.Presence.Device.toPresenceOnlineJson,
    presenceOfflineJson,
    QMap.value?_insert]

/-- The topic is short, and begins with no byte order mark. -/
lemma length_toUtf8_topic (h : a.isPublished = true) :
    (toUtf8 a.topic).length < 2 ^ 16 ∧ a.topic.toList.head? ≠ some byteOrderMark := by
  obtain ⟨hlength, hascii⟩ := ascii_of_isValidDeviceId (isValidDeviceId_of_isPublished h)
  obtain ⟨front, hfront⟩ : ∃ front, front = if a.isOnline then "meckchat/v1/presence/online/"
      else "meckchat/v1/presence/offline/" := ⟨_, rfl⟩
  have htopic : a.topic.toList = front.toList ++ a.deviceId.toList := by
    rw [topic, presenceTopic, String.toList_append, ← hfront]
  have hascii' : front.toList.length ≤ 29 ∧ (∀ c ∈ front.toList, c.toNat ≤ 126) ∧
      front.toList.head? = some 'm' := by
    rw [hfront]
    split_ifs
    · exact ⟨by decide, List.forall_iff_forall_mem.mp (by decide), rfl⟩
    · exact ⟨by decide, List.forall_iff_forall_mem.mp (by decide), rfl⟩
  constructor
  · rw [toUtf8, length_toUtf8_of_ascii, htopic, List.length_append]
    · omega
    · intro c hc
      rw [htopic] at hc
      rcases List.mem_append.mp hc with hc | hc
      · exact hascii'.2.1 c hc
      · exact hascii c hc
  · rw [htopic, List.head?_append, hascii'.2.2, Option.some_or]
    decide

/-- The signal of a client that receives it. -/
def signal : Announcement → MqttDeed
  | online device now => .deviceDiscovered { device with lastSeen := now, isOnline := true }
  | offline deviceId => .deviceLeft deviceId
  | will deviceId => .deviceLeft deviceId

lemma about?_signal (a : Announcement) : a.signal.about? = some (a.deviceId, a.isOnline) := by
  cases a <;> rfl

end Announcement

namespace MqttTurn

variable {t : MqttTurn} {io : MqttIo} {a : Announcement}

/-- **What a client makes of an announcement.** -/
lemma processReceivedPayload_message (hpublished : a.isPublished = true) :
    t.processReceivedPayload json io a.topic (json.toJson a.object) =
      if a.deviceId = t.client.config.deviceId then
        t.log (.received a.topic (json.toJson a.object))
      else (t.log (.received a.topic (json.toJson a.object))).log a.signal := by
  have hvalid := Announcement.isValidDeviceId_of_isPublished hpublished
  have hconfig : (t.log (.received a.topic (json.toJson a.object))).client.config.deviceId =
      t.client.config.deviceId := rfl
  rw [processReceivedPayload, json.fromJson_toJson]
  dsimp only
  rw [Announcement.value?_device_id, if_neg (by rw [hvalid]; decide), hconfig]
  by_cases hown : a.deviceId = t.client.config.deviceId
  · rw [if_pos hown, if_pos hown]
  · rw [if_neg hown, if_neg hown]
    have hoffline : ∀ deviceId, "meckchat/v1/presence/offline/".toList <+:
        (presenceTopic false deviceId).toList := by
      intro deviceId
      rw [presenceTopic, String.toList_append]
      exact List.prefix_append _ _
    cases a with
    | online device now =>
        have hid : device.deviceId ≠ "" := by
          rintro hempty
          rw [Announcement.deviceId, hempty] at hvalid
          exact absurd hvalid (by decide)
        have hpre : "meckchat/v1/presence/online/".toList <+:
            (Announcement.online device now).topic.toList := prefix_of_online _
        rw [if_pos hpre, Announcement.object,
          Protocol.Presence.Device.fromPresenceJson_online now io.now hid]
        exact if_pos rfl
    | offline deviceId =>
        have hpre : ¬ "meckchat/v1/presence/online/".toList <+:
            (Announcement.offline deviceId).topic.toList := not_prefix_of_offline _
        rw [if_neg hpre]
        exact if_pos (hoffline _)
    | will deviceId =>
        have hpre : ¬ "meckchat/v1/presence/online/".toList <+:
            (Announcement.will deviceId).topic.toList := not_prefix_of_offline _
        rw [if_neg hpre]
        exact if_pos (hoffline _)

/-- A PUBLISH with a packet id is acknowledged, and its payload handed on. -/
lemma dispatch_publishPacket {topic : String} {payload : Bytes} (packetId : UInt16)
    (hlength : (toUtf8 topic).length < 2 ^ 16)
    (hmark : topic.toList.head? ≠ some byteOrderMark) :
    t.dispatch json io (publishPacket topic payload 1 true packetId).1
        (publishPacket topic payload 1 true packetId).2 =
      let t := (t.log (.dispatched (publishPacket topic payload 1 true packetId).1
        (publishPacket topic payload 1 true packetId).2)).sendPuback packetId
      if payload.length > MAX_SIGNALING_PAYLOAD_SIZE then t
      else t.processReceivedPayload json io topic payload := by
  obtain ⟨htype, hflags⟩ := publishHeader_type 1 (by decide) true
  have hbody : (publishPacket topic payload 1 true packetId).2 =
      encodeUtf8String topic ++ (be16 packetId ++ payload) := by
    rw [publishPacket, if_pos (by decide), List.append_assoc]
  have hsize : (encodeUtf8String topic ++ (be16 packetId ++ payload)).length =
      (encodeUtf8String topic).length + 2 + payload.length := by
    rw [List.length_append, List.length_append, length_be16]
    omega
  have hid : slice (encodeUtf8String topic ++ (be16 packetId ++ payload))
      (encodeUtf8String topic).length 2 = be16 packetId :=
    slice_eq_of_append rfl rfl (length_be16 _)
  have hdrop : (encodeUtf8String topic ++ (be16 packetId ++ payload)).drop
      ((encodeUtf8String topic).length + 2) = payload := by
    rw [← List.append_assoc]
    exact List.drop_left' (by rw [List.length_append, length_be16])
  have hheader : (publishPacket topic payload 1 true packetId).1 = publishHeader 1 true := rfl
  rw [hbody, hheader, dispatch, htype, if_neg (by decide), if_pos rfl, handlePublish,
    decodeUtf8String_encode hlength hmark, hflags]
  dsimp only
  rw [if_pos (by decide), if_neg (by rw [hsize]; omega), hid, hdrop, ofBE16_be16]

end MqttTurn

/-! ### Reports -/

variable {t : MqttTurn} {deviceId : String}

lemma reports_log (d : MqttDeed) : reports deviceId (t.log d).deeds =
    reports deviceId t.deeds ++ reports deviceId [d] := by
  rw [reports, reports, reports, log, List.filterMap_append, List.filterMap_append]

/-- What a presence message says of a device, to whom. -/
lemma report?_presenceTopic (isOnline : Bool) (announced subscriber : String) (payload : Bytes) :
    report? deviceId subscriber (presenceTopic isOnline announced, payload) =
      if announced = deviceId ∧ deviceId ≠ subscriber ∧
          payload.length ≤ MAX_SIGNALING_PAYLOAD_SIZE then some isOnline
      else none := by
  rw [report?]
  dsimp only
  by_cases hheard : deviceId ≠ subscriber ∧ payload.length ≤ MAX_SIGNALING_PAYLOAD_SIZE
  · have hlistens : ¬ (deviceId = subscriber ∨ MAX_SIGNALING_PAYLOAD_SIZE < payload.length) := by
      rintro (h | h)
      · exact hheard.1 h
      · exact absurd hheard.2 (not_le.mpr h)
    rw [if_neg hlistens]
    by_cases hsame : announced = deviceId
    · have hboth : announced = deviceId ∧ deviceId ≠ subscriber ∧
          payload.length ≤ MAX_SIGNALING_PAYLOAD_SIZE := ⟨hsame, hheard⟩
      rw [if_pos hboth, hsame]
      cases isOnline with
      | true => exact if_pos rfl
      | false =>
          have hother : presenceTopic false deviceId ≠ presenceTopic true deviceId :=
            fun h => absurd (presenceTopic_inj.mp h).1 nofun
          rw [if_neg hother]
          exact if_pos rfl
    · rw [if_neg fun h => hsame (presenceTopic_inj.mp h).2,
        if_neg fun h => hsame (presenceTopic_inj.mp h).2, if_neg fun h => hsame h.1]
  · have hdeaf : deviceId = subscriber ∨ MAX_SIGNALING_PAYLOAD_SIZE < payload.length := by
      by_cases hsubscriber : deviceId = subscriber
      · exact Or.inl hsubscriber
      · exact Or.inr (not_le.mp fun hsize => hheard ⟨hsubscriber, hsize⟩)
    rw [if_pos hdeaf, if_neg fun h => hheard h.2]

/-- One retained message. -/
lemma reports_dispatch {io : MqttIo} {a : Announcement} (packetId : UInt16)
    (hpublished : a.isPublished = true) :
    reports deviceId (t.dispatch json io
        (publishPacket (a.message json).1 (a.message json).2 1 true packetId).1
        (publishPacket (a.message json).1 (a.message json).2 1 true packetId).2).deeds =
      reports deviceId t.deeds ++
        (report? deviceId t.client.config.deviceId (a.message json)).toList := by
  obtain ⟨hlength, hmark⟩ := Announcement.length_toUtf8_topic hpublished
  obtain ⟨u, hu⟩ : ∃ u, u = (t.log (.dispatched
      (publishPacket a.topic (json.toJson a.object) 1 true packetId).1
      (publishPacket a.topic (json.toJson a.object) 1 true packetId).2)).sendPuback packetId :=
    ⟨_, rfl⟩
  have hconfig : u.client.config = t.client.config := by rw [hu]; rfl
  have hreports : reports deviceId u.deeds = reports deviceId t.deeds := by
    rw [hu, sendPuback, write, reports_log, reports_log]
    exact (List.append_nil _).trans (List.append_nil _)
  have hreceived : reports deviceId [.received a.topic (json.toJson a.object)] = [] := rfl
  have hsignal : reports deviceId [a.signal] =
      if a.deviceId = deviceId then [a.isOnline] else [] := by
    rw [reports, List.filterMap_cons_some (Announcement.about?_signal a)]
    split_ifs with hsame
    · exact List.filterMap_cons_some (if_pos hsame)
    · exact List.filterMap_cons_none (if_neg hsame)
  have hreport : report? deviceId t.client.config.deviceId (a.message json) =
      if a.deviceId = deviceId ∧ deviceId ≠ t.client.config.deviceId ∧
          (json.toJson a.object).length ≤ MAX_SIGNALING_PAYLOAD_SIZE then some a.isOnline
      else none := report?_presenceTopic _ _ _ _
  rw [hreport, Announcement.message]
  dsimp only
  rw [dispatch_publishPacket packetId hlength hmark, ← hu]
  dsimp only
  by_cases hsize : MAX_SIGNALING_PAYLOAD_SIZE < (json.toJson a.object).length
  · rw [if_pos hsize, if_neg (fun h => absurd h.2.2 (by omega)), hreports]
    exact (List.append_nil _).symm
  · rw [if_neg hsize, processReceivedPayload_message hpublished, hconfig]
    by_cases hown : a.deviceId = t.client.config.deviceId
    · rw [if_pos hown, if_neg (fun h => h.2.1 (h.1 ▸ hown)), reports_log, hreports, hreceived]
      rfl
    · rw [if_neg hown, reports_log, reports_log, hreports, hreceived, hsignal, List.append_nil]
      by_cases hsame : a.deviceId = deviceId
      · rw [if_pos hsame, if_pos ⟨hsame, hsame ▸ hown, by omega⟩]
        rfl
      · rw [if_neg hsame, if_neg (fun h => hsame h.1)]
        rfl

/-- **The reports of a subscriber** about a device. -/
lemma reports_deliver {ds : List Delivery}
    (hds : ∀ d ∈ ds, ∃ a : Announcement, a.isPublished = true ∧ a.message json = d.message) :
    reports deviceId (deliver json t ds).deeds = reports deviceId t.deeds ++
      (ds.map Delivery.message).filterMap (report? deviceId t.client.config.deviceId) := by
  induction ds generalizing t with
  | nil => exact (List.append_nil _).symm
  | cons d ds ih =>
      obtain ⟨a, hpublished, hmessage⟩ := hds d List.mem_cons_self
      obtain ⟨u, hu⟩ : ∃ u, u = t.dispatch json d.io
          (publishPacket d.message.1 d.message.2 1 true d.packetId).1
          (publishPacket d.message.1 d.message.2 1 true d.packetId).2 := ⟨_, rfl⟩
      have hdeliver : deliver json t (d :: ds) = deliver json u ds := by
        rw [hu]
        rfl
      have hone : reports deviceId u.deeds = reports deviceId t.deeds ++
          (report? deviceId t.client.config.deviceId d.message).toList := by
        rw [hu, ← hmessage]
        exact reports_dispatch d.packetId hpublished
      have hconfig : u.client.config = t.client.config := by
        obtain ⟨htype, _⟩ := publishHeader_type 1 (by decide) true
        have hheader : (publishPacket d.message.1 d.message.2 1 true d.packetId).1 =
            publishHeader 1 true := rfl
        have hcalm : Calm t u := by
          rw [hu, dispatch, hheader, htype, if_neg (by decide), if_pos rfl]
          exact (calm_log _).trans calm_handlePublish
        rw [Calm] at hcalm
        rw [hcalm]
      rw [hdeliver, ih fun d hd => hds d (List.mem_cons_of_mem _ hd), hone, hconfig,
        List.append_assoc, List.map_cons, List.filterMap_cons]
      cases report? deviceId t.client.config.deviceId d.message with
      | none => rfl
      | some isOnline => rfl

/-! ### Convergence -/

/-- The reports about a device behind the message of one topic, if it is the only one with
that topic. -/
lemma getLast?_reports {subscriber topic : String} {payload : Bytes} {isOnline : Bool}
    {front back : List (String × Bytes)} (htopic : topic = presenceTopic isOnline deviceId)
    (hfront : ∀ m ∈ front, m.1 ≠ topic) (hback : ∀ m ∈ back, m.1 ≠ topic) :
    ((front ++ (topic, payload) :: back).filterMap (report? deviceId subscriber)).getLast? =
        some isOnline ↔
      deviceId ≠ subscriber ∧ payload.length ≤ MAX_SIGNALING_PAYLOAD_SIZE ∧
        ∀ payload', (presenceTopic (!isOnline) deviceId, payload') ∈ back →
          MAX_SIGNALING_PAYLOAD_SIZE < payload'.length := by
  have hother : ∀ m b, m.1 ≠ topic → report? deviceId subscriber m = some b →
      b = !isOnline ∧ m.1 = presenceTopic (!isOnline) deviceId ∧
        m.2.length ≤ MAX_SIGNALING_PAYLOAD_SIZE := by
    intro m b hne hreport
    rw [htopic] at hne
    rw [report?] at hreport
    split_ifs at hreport with hdeaf honline hoffline
    · cases isOnline with
      | true => exact absurd honline hne
      | false =>
          exact ⟨(Option.some_inj.mp hreport).symm, honline, not_lt.mp fun h => hdeaf (Or.inr h)⟩
    · cases isOnline with
      | true =>
          exact ⟨(Option.some_inj.mp hreport).symm, hoffline, not_lt.mp fun h => hdeaf (Or.inr h)⟩
      | false => exact absurd hoffline hne
  -- a report behind those of the topic is of the other kind
  have hlast : ∀ (bs : List Bool) (ms : List (String × Bytes)), (∀ m ∈ ms, m.1 ≠ topic) →
      ms.filterMap (report? deviceId subscriber) ≠ [] →
      (bs ++ ms.filterMap (report? deviceId subscriber)).getLast? ≠ some isOnline := by
    intro bs ms hms hne heq
    rw [List.getLast?_append_of_ne_nil _ hne] at heq
    obtain ⟨m, hm, hreport⟩ := List.mem_filterMap.mp (List.mem_of_getLast? heq)
    have hkind := (hother m isOnline (hms m hm) hreport).1
    cases isOnline <;> cases hkind
  have hhere : report? deviceId subscriber (topic, payload) = _ :=
    htopic ▸ report?_presenceTopic isOnline deviceId subscriber payload
  rw [List.filterMap_append]
  by_cases hheard : deviceId ≠ subscriber ∧ payload.length ≤ MAX_SIGNALING_PAYLOAD_SIZE
  · rw [if_pos ⟨rfl, hheard⟩] at hhere
    rw [List.filterMap_cons_some hhere]
    by_cases hbehind : back.filterMap (report? deviceId subscriber) = []
    · refine iff_of_true (by rw [hbehind, List.getLast?_concat]) ⟨hheard.1, hheard.2, ?_⟩
      intro payload' hpayload'
      have hnone := List.filterMap_eq_nil_iff.mp hbehind _ hpayload'
      rw [report?_presenceTopic] at hnone
      by_contra hsize
      rw [if_pos ⟨rfl, hheard.1, not_lt.mp hsize⟩] at hnone
      cases hnone
    · refine iff_of_false ?_ ?_
      · rw [List.append_cons]
        exact hlast _ back hback hbehind
      · rintro ⟨_, _, hsizes⟩
        obtain ⟨b, hb⟩ := List.exists_mem_of_ne_nil _ hbehind
        obtain ⟨⟨topic', payload'⟩, hm, hreport⟩ := List.mem_filterMap.mp hb
        obtain ⟨_, htopic', hsize⟩ := hother _ b (hback _ hm) hreport
        dsimp only at htopic' hsize
        rw [htopic'] at hm
        exact absurd (hsizes payload' hm) (not_lt.mpr hsize)
  · rw [if_neg fun h => hheard h.2] at hhere
    rw [List.filterMap_cons_none hhere, ← List.filterMap_append]
    refine iff_of_false ?_ fun h => hheard ⟨h.1, h.2.1⟩
    by_cases hnil : (front ++ back).filterMap (report? deviceId subscriber) = []
    · rw [hnil]
      exact nofun
    · refine hlast [] (front ++ back) (fun m hm => ?_) hnil
      rcases List.mem_append.mp hm with hm | hm
      · exact hfront m hm
      · exact hback m hm

/-- **Presence convergence.** The last report of a new subscriber about a device is its last
announcement exactly if the subscriber is another device, the message fits, and the
retained message of the other kind is not delivered behind it, or does not fit. -/
theorem presence_convergence {a : Announcement} {t : MqttTurn} {ds : List Delivery}
    (hlast : lastAnnouncement h a.deviceId = some a) (hnew : t.deeds = [])
    (hds : (ds.map Delivery.message).Perm (retained json h).toList) :
    (reports a.deviceId (deliver json t ds).deeds).getLast? = some a.isOnline ↔
      a.deviceId ≠ t.client.config.deviceId ∧
        (json.toJson a.object).length ≤ MAX_SIGNALING_PAYLOAD_SIZE ∧
        ∀ front back payload, ds.map Delivery.message = front ++ a.message json :: back →
          (presenceTopic (!a.isOnline) a.deviceId, payload) ∈ back →
          MAX_SIGNALING_PAYLOAD_SIZE < payload.length := by
  have hmessages : ∀ m ∈ ds.map Delivery.message, (retained json h).value? m.1 = some m.2 :=
    fun m hm => QMap.mem_toList.mp (hds.mem_iff.mp hm)
  have hpublished : ∀ d ∈ ds, ∃ b : Announcement, b.isPublished = true ∧
      b.message json = d.message := by
    intro d hd
    obtain ⟨b, _, hb⟩ := exists_of_retained (hmessages _ (List.mem_map_of_mem hd))
    exact ⟨b, hb⟩
  have hnone : reports a.deviceId t.deeds = [] := by rw [hnew]; rfl
  have hmem : a.message json ∈ ds.map Delivery.message :=
    hds.mem_iff.mpr (QMap.mem_toList.mpr (retained_last hlast))
  have hpairwise : (ds.map Delivery.message).Pairwise fun m m' => m.1 ≠ m'.1 := by
    refine (hds.pairwise_iff fun h => h.symm).mpr ?_
    refine Std.ExtTreeMap.distinct_keys_toList.imp fun hne heq => hne ?_
    rw [heq]
    exact Std.ReflCmp.compare_self
  have hiff : ∀ front back, ds.map Delivery.message = front ++ a.message json :: back →
      ((reports a.deviceId (deliver json t ds).deeds).getLast? = some a.isOnline ↔
        a.deviceId ≠ t.client.config.deviceId ∧
          (json.toJson a.object).length ≤ MAX_SIGNALING_PAYLOAD_SIZE ∧
          ∀ payload, (presenceTopic (!a.isOnline) a.deviceId, payload) ∈ back →
            MAX_SIGNALING_PAYLOAD_SIZE < payload.length) := by
    intro front back hsplit
    rw [hsplit, List.pairwise_append, List.pairwise_cons] at hpairwise
    obtain ⟨_, ⟨hback, _⟩, hfront⟩ := hpairwise
    rw [reports_deliver hpublished, hnone, List.nil_append, hsplit]
    exact getLast?_reports rfl (fun m hm => hfront m hm _ List.mem_cons_self)
      fun m hm => (hback m hm).symm
  constructor
  · intro hlast
    obtain ⟨front, back, hsplit⟩ := List.append_of_mem hmem
    obtain ⟨hother, hsize, _⟩ := (hiff front back hsplit).mp hlast
    exact ⟨hother, hsize, fun front back payload hsplit =>
      ((hiff front back hsplit).mp hlast).2.2 payload⟩
  · rintro ⟨hother, hsize, horder⟩
    obtain ⟨front, back, hsplit⟩ := List.append_of_mem hmem
    exact (hiff front back hsplit).mpr
      ⟨hother, hsize, fun payload => horder front back payload hsplit⟩

/-! ### A device that comes and goes -/

/-- A device comes online and leaves. -/
def comeAndGo : List Announcement :=
  [.online { deviceId := "mc_alice", displayName := "Alice" } 1760000000, .offline "mc_alice"]

/-- Its retained messages. -/
def comeAndGoMessages : List (String × Bytes) :=
  comeAndGo.map (Announcement.message QJson.compact)

/-- A new client. -/
def subscriberTurn : MqttTurn where
  client := { config := { deviceId := "mc_bob" } }

lemma retained_comeAndGo :
    comeAndGoMessages.Perm (retained QJson.compact comeAndGo).toList := by
  have hlist : (retained QJson.compact comeAndGo).toList = comeAndGoMessages.reverse := by
    decide +kernel
  rw [hlist]
  exact (List.reverse_perm _).symm

lemma lastAnnouncement_comeAndGo :
    lastAnnouncement comeAndGo "mc_alice" = some (.offline "mc_alice") := by
  rfl

theorem presence_convergence_inOrder :
    (reports "mc_alice" (deliver QJson.compact subscriberTurn
      (comeAndGoMessages.map fun m => { message := m })).deeds).getLast? = some false := by
  have hmap : (comeAndGoMessages.map fun m => ({ message := m } : Delivery)).map Delivery.message =
      comeAndGoMessages := rfl
  refine (presence_convergence (a := .offline "mc_alice") lastAnnouncement_comeAndGo rfl
    (hmap ▸ retained_comeAndGo)).mpr ⟨by decide, by decide +kernel, ?_⟩
  intro front back payload hsplit hmem
  match front, hsplit with
  | [], hsplit =>
      have htopic := congrArg Prod.fst (List.cons.inj hsplit).1
      exact absurd (presenceTopic_inj.mp htopic).1 nofun
  | [_], hsplit =>
      have hnil := (List.cons.inj (List.cons.inj hsplit).2).2
      rw [← hnil] at hmem
      exact absurd hmem List.not_mem_nil
  | _ :: _ :: front, hsplit =>
      have hlength := congrArg List.length hsplit
      simp [comeAndGoMessages, comeAndGo] at hlength

theorem presence_diverges :
    lastAnnouncement comeAndGo "mc_alice" = some (.offline "mc_alice") ∧
      comeAndGoMessages.reverse.Perm (retained QJson.compact comeAndGo).toList ∧
      (reports "mc_alice" (deliver QJson.compact subscriberTurn
        (comeAndGoMessages.reverse.map fun m => { message := m })).deeds).getLast? = some true := by
  refine ⟨lastAnnouncement_comeAndGo, (List.reverse_perm _).trans retained_comeAndGo, ?_⟩
  have hmap : (comeAndGoMessages.reverse.map fun m => ({ message := m } : Delivery)).map
      Delivery.message = comeAndGoMessages.reverse := rfl
  rw [reports_deliver, hmap]
  · decide +kernel
  · intro d hd
    obtain ⟨m, hm, rfl⟩ := List.mem_map.mp hd
    obtain ⟨a, ha, rfl⟩ := List.mem_map.mp (List.mem_reverse.mp hm)
    have hpublished : ∀ a ∈ comeAndGo, a.isPublished = true :=
      List.forall_iff_forall_mem.mp ⟨by decide +kernel, by decide +kernel⟩
    exact ⟨a, hpublished a ha, rfl⟩

end MeckChat.Network
