import MeckChat.Network.DeviceIds
import MeckChat.Network.MqttActs

/-!
What a broker reads of the client, over whole runs.

* `ClientPacket` is what a client can send and `readClientPacket` how a broker reads it, by
  the layout of MQTT 3.1.1. One lemma for each packet that the client writes says what is
  read: `read_connect`, `read_subscribe`, `read_publish`, `read_puback`.
* `Talk` is what a broker and an observer of the client remember, and `conversation` the
  monitor that says which packet may come next.
* `Spoken` is the invariant, kept by every step, and `client_speaks_mqtt` the result: on every
  connection the client keeps to the conversation, and the bytes it writes are split into
  its packets again.
-/

namespace MeckChat.Network

open MqttTurn QJson QString StreamDecoder

/-! ### The broker's reader -/

/-- What a client sends. A CONNECT asks for a clean session, with a will that is retained
and delivered at least once. -/
inductive ClientPacket where
  | connect (clientId willTopic : String) (willMessage : Bytes) (keepAlive : UInt16)
  | subscribe (packetId : UInt16) (filters : List (String × UInt8))
  | publish (topic : String) (payload : Bytes) (qos : UInt8) (retain : Bool)
      (packetId : Option UInt16)
  | puback (packetId : UInt16)
  | pingreq
  | disconnect
  deriving DecidableEq

/-- A number of two bytes, and what follows. -/
def readUInt16 : Bytes → Option (UInt16 × Bytes)
  | high :: low :: rest => some (ofBE16 [high, low], rest)
  | _ => none

/-- A byte string behind its length, and what follows. -/
def readBinary (b : Bytes) : Option (Bytes × Bytes) :=
  match readUInt16 b with
  | some (len, rest) =>
      if len.toNat ≤ rest.length then some (rest.take len.toNat, rest.drop len.toNat) else none
  | none => none

/-- A text behind its length, and what follows. -/
def readText (b : Bytes) : Option (String × Bytes) :=
  (readBinary b).map fun r => (fromUtf8 r.1, r.2)

/-- Topic filters, each with its QoS. -/
def readFilters : ℕ → Bytes → Option (List (String × UInt8))
  | _, [] => some []
  | 0, _ => none
  | fuel + 1, b =>
      match readText b with
      | some (topic, qos :: rest) =>
          (readFilters fuel rest).map fun filters => (topic, qos) :: filters
      | _ => none

/-- The body of a CONNECT: clean session, with a retained last will of QoS 1. -/
def readConnect (body : Bytes) : Option ClientPacket := do
  let (name, b) ← readText body
  match b with
  | level :: flags :: b =>
      let (keepAlive, b) ← readUInt16 b
      let (clientId, b) ← readText b
      let (willTopic, b) ← readText b
      let (willMessage, b) ← readBinary b
      if name = "MQTT" ∧ level = 0x04 ∧ flags = 0x2E ∧ b = [] then
        some (.connect clientId willTopic willMessage keepAlive)
      else none
  | _ => none

/-- The body of a SUBSCRIBE, with one filter at least. -/
def readSubscribe (body : Bytes) : Option ClientPacket := do
  let (packetId, b) ← readUInt16 body
  let filters ← readFilters b.length b
  if filters = [] then none else some (.subscribe packetId filters)

/-- Behind the topic there is an id where the QoS asks for one. -/
def readPublish (header : UInt8) (body : Bytes) : Option ClientPacket := do
  let qos := (header >>> 1) &&& 0x03
  let retain : Bool := header &&& 0x01 = 0x01
  let (topic, b) ← readText body
  if qos = 0 then some (.publish topic b qos retain none)
  else
    let (packetId, payload) ← readUInt16 b
    if qos = 3 then none else some (.publish topic payload qos retain (some packetId))

/-- A control packet of a client. -/
def readClientPacket (p : UInt8 × Bytes) : Option ClientPacket :=
  if p.1 = PacketType.CONNECT then readConnect p.2
  else if p.1 = PacketType.SUBSCRIBE then readSubscribe p.2
  else if p.1 &&& 0xF0 = PacketType.PUBLISH then readPublish p.1 p.2
  else if p.1 = PacketType.PUBACK then
    match readUInt16 p.2 with
    | some (packetId, []) => some (.puback packetId)
    | _ => none
  else if p = (PacketType.PINGREQ, []) then some .pingreq
  else if p = (PacketType.DISCONNECT, []) then some .disconnect
  else none

/-! ### What is read -/

lemma readUInt16_be16 (n : UInt16) (rest : Bytes) :
    readUInt16 (be16 n ++ rest) = some (n, rest) := by
  obtain ⟨high, low, hbytes⟩ := List.length_eq_two.mp (length_be16 n)
  have hvalue := ofBE16_be16 n
  rw [hbytes] at hvalue
  rw [hbytes, List.cons_append, List.singleton_append, readUInt16, hvalue]

lemma readBinary_append {content : Bytes} (h : content.length < 2 ^ 16) (rest : Bytes) :
    readBinary (be16 (UInt16.ofNat content.length) ++ (content ++ rest)) =
      some (content, rest) := by
  have hlen : (UInt16.ofNat content.length).toNat = content.length := by
    rw [UInt16.toNat_ofNat', Nat.mod_eq_of_lt h]
  rw [readBinary, readUInt16_be16]
  dsimp only
  rw [hlen, if_pos (by rw [List.length_append]; omega), List.take_left, List.drop_left]

/-- A text is short, and begins with no byte order mark. -/
def IsField (text : String) : Prop :=
  (toUtf8 text).length < 2 ^ 16 ∧ text.toList.head? ≠ some byteOrderMark

lemma readText_encode {text : String} (h : IsField text) (rest : Bytes) :
    readText (encodeUtf8String text ++ rest) = some (text, rest) := by
  rw [readText, encodeUtf8String, List.append_assoc, readBinary_append h.1, Option.map_some,
    fromUtf8_toUtf8 h.2]

/-- A text of printable ASCII characters. -/
lemma isField_of_ascii {text : String} (hlength : text.toList.length < 2 ^ 16)
    (hascii : ∀ c ∈ text.toList, c.toNat ≤ 126) : IsField text := by
  refine ⟨by rwa [toUtf8, length_toUtf8_of_ascii hascii], fun hhead => ?_⟩
  exact absurd (hascii byteOrderMark (List.mem_of_mem_head? hhead)) (by decide)

lemma isField_of_isValidDeviceId {deviceId : String} (h : isValidDeviceId deviceId = true) :
    IsField deviceId := by
  obtain ⟨hlength, hascii⟩ := ascii_of_isValidDeviceId h
  exact isField_of_ascii (by omega) hascii

lemma isField_of_isValidTopic {topic : String} (h : isValidTopic topic = true) : IsField topic := by
  obtain ⟨hlength, hmark⟩ := length_toUtf8_of_isValidTopic h
  exact ⟨by omega, hmark⟩

/-- The topic of the will. -/
lemma isField_willTopic {deviceId : String} (h : isValidDeviceId deviceId = true) :
    IsField ("meckchat/v1/presence/offline/" ++ deviceId) := by
  obtain ⟨hlength, hascii⟩ := ascii_of_isValidDeviceId h
  have hfront : ∀ c ∈ "meckchat/v1/presence/offline/".toList, c.toNat ≤ 126 :=
    List.forall_iff_forall_mem.mp (by decide)
  have hsize : "meckchat/v1/presence/offline/".toList.length = 29 := by decide
  refine isField_of_ascii ?_ fun c hc => ?_
  · rw [String.toList_append, List.length_append, hsize]
    omega
  · rw [String.toList_append] at hc
    rcases List.mem_append.mp hc with hc | hc
    · exact hfront c hc
    · exact hascii c hc

variable {json : JsonCodec}

lemma read_connect {localId : String} (hid : isValidDeviceId localId = true)
    (hwill : (json.toJson (Protocol.Presence.presenceOfflineJson localId)).length < 2 ^ 16) :
    readClientPacket (PacketType.CONNECT, connectBody json localId) =
      some (.connect localId ("meckchat/v1/presence/offline/" ++ localId)
        (json.toJson (Protocol.Presence.presenceOfflineJson localId))
        DEFAULT_KEEPALIVE_SECONDS) := by
  have hname : IsField "MQTT" := ⟨by decide, by decide⟩
  have hmessage := readBinary_append hwill []
  rw [List.append_nil] at hmessage
  rw [readClientPacket, if_pos rfl, readConnect, connectBody]
  simp only [List.append_assoc, readText_encode hname, Option.bind_eq_bind, Option.bind_some,
    List.cons_append, List.nil_append, readUInt16_be16,
    readText_encode (isField_of_isValidDeviceId hid), readText_encode (isField_willTopic hid),
    hmessage]
  rw [if_pos (by decide)]

lemma read_subscribe (packetId : UInt16) :
    readClientPacket (PacketType.SUBSCRIBE, subscribeBody packetId) =
      some (.subscribe packetId subscriptions) := by
  have hfilters : ∀ b, b = subscriptions.flatMap (fun item => encodeUtf8String item.1 ++
      [item.2 &&& 0x03]) → readFilters b.length b = some subscriptions := by
    rintro b rfl
    decide +kernel
  rw [readClientPacket]
  dsimp only
  rw [if_neg (by decide), if_pos rfl, readSubscribe, subscribeBody, readUInt16_be16]
  simp only [Option.bind_eq_bind, Option.bind_some, hfilters _ rfl]
  rfl

lemma read_publish {topic : String} (htopic : isValidTopic topic = true) (payload : Bytes)
    (retain : Bool) (packetId : UInt16) :
    readClientPacket (publishPacket topic payload 1 retain packetId) =
      some (.publish topic payload 1 retain (some packetId)) := by
  obtain ⟨htype, hqos⟩ := publishHeader_type 1 (by decide) retain
  have hheader : publishHeader 1 retain ≠ PacketType.CONNECT ∧
      publishHeader 1 retain ≠ PacketType.SUBSCRIBE ∧
      (publishHeader 1 retain &&& 0x01 = 0x01 ↔ retain = true) := by
    cases retain <;> decide
  obtain ⟨hconnect, hsubscribe, hretain⟩ := hheader
  rw [readClientPacket, publishPacket, if_neg hconnect, if_neg hsubscribe, if_pos htype,
    readPublish]
  dsimp only
  rw [List.append_assoc, readText_encode (isField_of_isValidTopic htopic), if_pos (by decide)]
  simp only [Option.bind_eq_bind, Option.bind_some, readUInt16_be16, hqos, hretain]
  rw [if_neg (by decide), if_neg (by decide), Bool.decide_eq_true]

lemma read_puback (packetId : UInt16) :
    readClientPacket (PacketType.PUBACK, be16 packetId) = some (.puback packetId) := by
  have hread := readUInt16_be16 packetId []
  rw [List.append_nil] at hread
  rw [readClientPacket]
  dsimp only
  rw [if_neg (by decide), if_neg (by decide), if_neg (by decide), if_pos rfl, hread]

/-! ### The conversation -/

/-- What an observer remembers of the current connection, and how many packet ids were used
since the start. -/
structure Talk where
  greeted : Bool := false
  accepted : Bool := false
  granted : Bool := false
  left : Bool := false
  used : ℕ := 0

/-- The packet id behind some others. The ids go round, and leave out zero. -/
def idAfter (used : ℕ) : ℕ := used % 65535 + 1

instance (p : UInt8 × Bytes) : Decidable (Accepting p) := inferInstanceAs (Decidable (_ ∧ _))

instance (p : UInt8 × Bytes) : Decidable (IsSuback p) := inferInstanceAs (Decidable (_ ∧ _))

namespace Talk

/-- Behind a packet of the client. -/
def write (m : Talk) : ClientPacket → Talk
  | .connect _ _ _ _ => { m with greeted := true }
  | .subscribe _ _ => { m with used := m.used + 1 }
  | .publish _ _ _ _ _ => { m with used := m.used + 1 }
  | .puback _ => m
  | .pingreq => m
  | .disconnect => { m with left := true }

/-- Behind a deed. -/
def next (m : Talk) : MqttDeed → Talk
  | .connectToHost _ _ => { used := m.used }
  | .dispatched header data =>
      { m with
        accepted := m.accepted || decide (Accepting (header, data))
        granted := m.granted || decide (IsSuback (header, data)) }
  | .write bytes =>
      match (packetOf bytes).bind readClientPacket with
      | some p => m.write p
      | none => m
  | _ => m

/-- **What may be sent.** CONNECT comes first and once, and names the client and its will.
The subscriptions follow an accepting CONNACK, and PINGREQ and DISCONNECT a SUBACK. Behind
DISCONNECT nothing is subscribed to or published. Only where `early` says so something is
published before CONNECT. -/
def Allows (json : JsonCodec) (early : Prop) (m : Talk) : ClientPacket → Prop
  | .connect clientId willTopic willMessage keepAlive =>
      m.greeted = false ∧ m.left = false ∧ isValidDeviceId clientId = true ∧
        willTopic = "meckchat/v1/presence/offline/" ++ clientId ∧
        willMessage = json.toJson (Protocol.Presence.presenceOfflineJson clientId) ∧
        keepAlive = DEFAULT_KEEPALIVE_SECONDS
  | .subscribe packetId filters =>
      m.greeted = true ∧ m.accepted = true ∧ m.left = false ∧
        packetId.toNat = idAfter m.used ∧ filters = subscriptions
  | .publish topic payload qos retain packetId =>
      (early ∨ m.greeted = true) ∧ m.left = false ∧ isValidTopic topic = true ∧
        (∃ io, IsNotice json io topic payload retain) ∧ qos = 1 ∧
        ∃ n, packetId = some n ∧ n.toNat = idAfter m.used
  | .puback _ => m.greeted = true
  | .pingreq => m.greeted = true ∧ m.granted = true
  | .disconnect => m.greeted = true ∧ m.granted = true

end Talk

/-- The bytes are one control packet, of this content. -/
def IsWritten (bytes : Bytes) (p : ClientPacket) : Prop :=
  ∃ q : UInt8 × Bytes, bytes = controlPacket q.1 q.2 ∧ q.2.length < 2 ^ 28 ∧
    readClientPacket q = some p

/-- **The conversation** of the client with its brokers. What it writes is a packet that may
be sent, it handles packets only behind its CONNECT, and it reports that it is connected
only behind a SUBACK. -/
def conversation (json : JsonCodec) (early : Prop) : Monitor MqttDeed Talk where
  start := {}
  next := Talk.next
  ok m d :=
    match d with
    | .write bytes => ∃ p, IsWritten bytes p ∧ m.Allows json early p
    | .dispatched _ _ => m.greeted = true
    | .connected => m.granted = true
    | _ => True

section Spoken

variable {early : Prop} {io : MqttIo} {log ds : List MqttDeed} {s s' : MqttSignalingClient}

lemma IsWritten.next {bytes : Bytes} {p : ClientPacket} (h : IsWritten bytes p) (m : Talk) :
    m.next (.write bytes) = m.write p := by
  obtain ⟨q, rfl, hsmall, hread⟩ := h
  rw [Talk.next, packetOf_controlPacket hsmall, Option.bind_some, hread]

variable (json early log) in
lemma IsWritten.after {bytes : Bytes} {p : ClientPacket} (h : IsWritten bytes p) :
    (conversation json early).after (log ++ [.write bytes]) =
      ((conversation json early).after log).write p :=
  Monitor.after_append.trans (h.next _)

/-- A packet that is short enough for its length. -/
lemma isWritten_of_lt {q : UInt8 × Bytes} {p : ClientPacket}
    (hsmall : (controlPacket q.1 q.2).length < 2 ^ 28) (hread : readClientPacket q = some p) :
    IsWritten (controlPacket q.1 q.2) p := by
  refine ⟨q, rfl, ?_, hread⟩
  rw [controlPacket, List.length_cons, List.length_append] at hsmall
  omega

lemma ignores_of_isNote {d : MqttDeed} (h : d.IsNote) : (conversation json early).Ignores d := by
  intro m
  cases d <;> first | exact ⟨rfl, trivial⟩ | exact absurd h id

/-- **The invariant.** What is remembered agrees with the client and its socket. -/
structure Spoken (json : JsonCodec) (early : Prop) (log : List MqttDeed)
    (s : MqttSignalingClient) : Prop where
  lawful : (conversation json early).Accepts log
  greeted : s.m_socket.encrypted = true → ((conversation json early).after log).greeted = true
  fresh : s.m_socket.isConnecting = true ∨
      s.m_socket.state = .ConnectedState ∧ s.m_socket.encrypted = false →
    ((conversation json early).after log).greeted = false
  staying : s.m_socket.isConnecting = true ∨ s.m_socket.state = .ConnectedState →
    ((conversation json early).after log).left = false
  accepted : s.m_state = .Subscribing → ((conversation json early).after log).accepted = true
  granted : s.m_state = .Ready → ((conversation json early).after log).granted = true
  used : s.packetId.toNat = idAfter ((conversation json early).after log).used

/-- A step at which nothing has to be remembered. -/
lemma Spoken.of_same (h : Spoken json early log s)
    (hds : (conversation json early).after (log ++ ds) = (conversation json early).after log ∧
      (conversation json early).Accepts (log ++ ds))
    (hgreeted : s'.m_socket.encrypted = true → s.m_socket.encrypted = true)
    (hfresh : s'.m_socket.isConnecting = true ∨
        s'.m_socket.state = .ConnectedState ∧ s'.m_socket.encrypted = false →
      s.m_socket.isConnecting = true ∨
        s.m_socket.state = .ConnectedState ∧ s.m_socket.encrypted = false)
    (hstaying : s'.m_socket.isConnecting = true ∨ s'.m_socket.state = .ConnectedState →
      s.m_socket.isConnecting = true ∨ s.m_socket.state = .ConnectedState)
    (haccepted : s'.m_state = .Subscribing → s.m_state = .Subscribing)
    (hgranted : s'.m_state = .Ready → s.m_state = .Ready) (hused : s'.packetId = s.packetId) :
    Spoken json early (log ++ ds) s' := by
  obtain ⟨hafter, hlawful⟩ := hds
  refine ⟨hlawful, ?_, ?_, ?_, ?_, ?_, ?_⟩
  · rw [hafter]
    exact fun hs => h.greeted (hgreeted hs)
  · rw [hafter]
    exact fun hs => h.fresh (hfresh hs)
  · rw [hafter]
    exact fun hs => h.staying (hstaying hs)
  · rw [hafter]
    exact fun hs => h.accepted (haccepted hs)
  · rw [hafter]
    exact fun hs => h.granted (hgranted hs)
  · rw [hafter, hused]
    exact h.used

/-- One deed that passes, and of which nothing is remembered. -/
lemma Spoken.unchanged (h : Spoken json early log s) {d : MqttDeed}
    (hnext : ((conversation json early).after log).next d = (conversation json early).after log)
    (hok : (conversation json early).ok ((conversation json early).after log) d) :
    (conversation json early).after (log ++ [d]) = (conversation json early).after log ∧
      (conversation json early).Accepts (log ++ [d]) :=
  ⟨Monitor.after_append.trans hnext, Monitor.accepts_append.mpr ⟨h.lawful, hok⟩⟩

/-- The counter goes round. -/
lemma toNat_packetId_add_one {n : UInt16} {used : ℕ} (h : n.toNat = idAfter used) :
    (if n + 1 = 0 then 1 else n + 1 : UInt16).toNat = idAfter (used + 1) := by
  have hsum : (n + 1).toNat = (n.toNat + 1) % 65536 := by
    rw [UInt16.toNat_add]
    rfl
  rw [idAfter] at h ⊢
  split_ifs with hzero
  · rw [hzero] at hsum
    have hnum : (0 : UInt16).toNat = 0 := rfl
    have hone : (1 : UInt16).toNat = 1 := rfl
    omega
  · have hne : (n + 1).toNat ≠ 0 := fun hnum => hzero (UInt16.toNat_inj.mp hnum)
    omega

/-- **One step.** -/
lemma Spoken.act
    (hwill : ∀ deviceId, isValidDeviceId deviceId = true →
      (json.toJson (Protocol.Presence.presenceOfflineJson deviceId)).length < 2 ^ 16)
    (huuid : isValidDeviceId ("mc_" ++ io.uuid) = true) {dials : Prop} (h : Spoken json early log s)
    (hsmall : ∀ bytes, .write bytes ∈ ds → bytes.length < 2 ^ 28)
    (hact : MqttAct json io early dials s ds s') : Spoken json early (log ++ ds) s' := by
  have hnone : (conversation json early).after (log ++ []) = (conversation json early).after log ∧
      (conversation json early).Accepts (log ++ []) := by
    rw [List.append_nil]
    exact ⟨rfl, h.lawful⟩
  cases hact with
  | @note d hd =>
      obtain ⟨hnext, hok⟩ := ignores_of_isNote hd ((conversation json early).after log)
      exact h.of_same (h.unchanged hnext hok) id id id id id rfl
  | buffer => exact h.of_same hnone id id id id id rfl
  | aim => exact h.of_same hnone id id id id id rfl
  | dial =>
      refine ⟨Monitor.accepts_append.mpr ⟨h.lawful, trivial⟩, ?_, ?_, ?_, ?_, ?_, ?_⟩
      · rintro ⟨⟩
      · rw [Monitor.after_append]
        exact fun _ => rfl
      · rw [Monitor.after_append]
        exact fun _ => rfl
      · rintro ⟨⟩
      · rintro ⟨⟩
      · rw [Monitor.after_append]
        exact h.used
  | established hsocket =>
      exact h.of_same hnone (by rintro ⟨⟩) (fun _ => Or.inl hsocket) (fun _ => Or.inl hsocket)
        id id rfl
  | failed =>
      exact h.of_same hnone (by rintro ⟨⟩) (by rintro (⟨⟨⟩⟩ | ⟨⟨⟩, _⟩))
        (by rintro (⟨⟨⟩⟩ | ⟨⟨⟩⟩)) id id rfl
  | postpone => exact h.of_same hnone id id id id id rfl
  | closing =>
      exact h.of_same hnone id (by rintro (⟨⟨⟩⟩ | ⟨⟨⟩, _⟩)) (by rintro (⟨⟨⟩⟩ | ⟨⟨⟩⟩)) id id rfl
  | greet hsocket hplain =>
      have hid : isValidDeviceId (s.localId io) = true := by
        rw [MqttSignalingClient.localId]
        split_ifs with hvalid
        · exact hvalid
        · exact huuid
      have hwritten := isWritten_of_lt (hsmall _ (List.mem_singleton_self _))
        (read_connect hid (hwill _ hid))
      have hafter := hwritten.after json early log
      refine ⟨Monitor.accepts_append.mpr ⟨h.lawful, _, hwritten, ?_⟩, ?_, ?_, ?_, ?_, ?_, ?_⟩
      · exact ⟨h.fresh (Or.inr ⟨hsocket, hplain⟩), h.staying (Or.inr hsocket), hid, rfl, rfl, rfl⟩
      · rw [hafter]
        exact fun _ => rfl
      · rw [QSslSocket.isConnecting, hsocket]
        rintro (⟨⟨⟩⟩ | ⟨-, ⟨⟩⟩)
      · rw [hafter]
        exact fun _ => h.staying (Or.inr hsocket)
      · rintro ⟨⟩
      · rintro ⟨⟩
      · rw [hafter]
        exact h.used
  | @take header data hlive hpassing =>
      refine h.of_same (h.unchanged ?_ (h.greeted hlive.2)) id id id id id rfl
      rw [Talk.next, decide_eq_false hpassing.1, decide_eq_false hpassing.2.1, Bool.or_false,
        Bool.or_false]
  | @accept header data hlive haccepting =>
      have hafter : (conversation json early).after (log ++ [.dispatched header data]) =
          _ := Monitor.after_append
      refine ⟨Monitor.accepts_append.mpr ⟨h.lawful, h.greeted hlive.2⟩, ?_, ?_, ?_, ?_, ?_, ?_⟩
      · rw [hafter]
        exact h.greeted
      · rw [hafter]
        exact h.fresh
      · rw [hafter]
        exact h.staying
      · rw [hafter]
        intro _
        exact (congrArg _ (decide_eq_true haccepting)).trans (Bool.or_true _)
      · rintro ⟨⟩
      · rw [hafter]
        exact h.used
  | subscribe hlive hsocket hstate =>
      have hwritten := isWritten_of_lt (hsmall _ (List.mem_singleton_self _))
        (read_subscribe s.packetId)
      have hafter := hwritten.after json early log
      refine ⟨Monitor.accepts_append.mpr ⟨h.lawful, _, hwritten, ?_⟩, ?_, ?_, ?_, ?_, ?_, ?_⟩
      · exact ⟨h.greeted hlive.2, h.accepted hstate, h.staying (Or.inr hsocket), h.used, rfl⟩
      · rw [hafter]
        exact h.greeted
      · rw [hafter]
        exact h.fresh
      · rw [hafter]
        exact h.staying
      · rw [hafter]
        exact h.accepted
      · rw [hafter]
        exact h.granted
      · rw [hafter]
        exact toNat_packetId_add_one h.used
  | @grant header data hlive hsuback =>
      have hafter : (conversation json early).after (log ++ [.dispatched header data]) =
          _ := Monitor.after_append
      refine ⟨Monitor.accepts_append.mpr ⟨h.lawful, h.greeted hlive.2⟩, ?_, ?_, ?_, ?_, ?_, ?_⟩
      · rw [hafter]
        exact h.greeted
      · rw [hafter]
        exact h.fresh
      · rw [hafter]
        exact h.staying
      · rintro ⟨⟩
      · rw [hafter]
        intro _
        exact (congrArg _ (decide_eq_true hsuback)).trans (Bool.or_true _)
      · rw [hafter]
        exact h.used
  | announce hstate => exact h.of_same (h.unchanged rfl (h.granted hstate)) id id id id id rfl
  | @pong header data hlive hpingresp =>
      have hpassing : ¬ Accepting (header, data) ∧ ¬ IsSuback (header, data) :=
        ⟨fun hp => absurd (hpingresp.symm.trans hp.1) (by decide),
          fun hp => absurd (hpingresp.symm.trans hp.1) (by decide)⟩
      refine h.of_same (h.unchanged ?_ (h.greeted hlive.2)) id id id id id rfl
      rw [Talk.next, decide_eq_false hpassing.1, decide_eq_false hpassing.2, Bool.or_false,
        Bool.or_false]
  | puback packetId hlive =>
      have hwritten := isWritten_of_lt (hsmall _ (List.mem_singleton_self _)) (read_puback packetId)
      exact h.of_same (h.unchanged (hwritten.next _) ⟨_, hwritten, h.greeted hlive.2⟩)
        id id id id id rfl
  | publish hnotice htopic hsocket hlive =>
      have hwritten := isWritten_of_lt (hsmall _ (List.mem_singleton_self _))
        (read_publish htopic _ _ s.packetId)
      have hafter := hwritten.after json early log
      refine ⟨Monitor.accepts_append.mpr ⟨h.lawful, _, hwritten, ?_⟩, ?_, ?_, ?_, ?_, ?_, ?_⟩
      · exact ⟨hlive.imp_right h.greeted, h.staying (Or.inr hsocket), htopic, ⟨io, hnotice⟩, rfl,
          _, rfl, h.used⟩
      · rw [hafter]
        exact h.greeted
      · rw [hafter]
        exact h.fresh
      · rw [hafter]
        exact h.staying
      · rw [hafter]
        exact h.accepted
      · rw [hafter]
        exact h.granted
      · rw [hafter]
        exact toNat_packetId_add_one h.used
  | ping hstate hlive =>
      have hwritten : IsWritten [PacketType.PINGREQ, 0x00] .pingreq :=
        ⟨(PacketType.PINGREQ, []), by decide, by decide, by decide⟩
      exact h.of_same (h.unchanged (hwritten.next _)
        ⟨_, hwritten, h.greeted hlive.2, h.granted hstate⟩) id id id id id rfl
  | farewell hstate hlive =>
      have hwritten : IsWritten [PacketType.DISCONNECT, 0x00] .disconnect :=
        ⟨(PacketType.DISCONNECT, []), by decide, by decide, by decide⟩
      have hafter := hwritten.after json early log
      refine ⟨Monitor.accepts_append.mpr ⟨h.lawful, _, hwritten, ?_⟩, ?_, ?_, ?_, ?_, ?_, ?_⟩
      · exact ⟨h.greeted hlive.2, h.granted hstate⟩
      · rw [hafter]
        exact h.greeted
      · rintro (⟨⟨⟩⟩ | ⟨⟨⟩, _⟩)
      · rintro (⟨⟨⟩⟩ | ⟨⟨⟩⟩)
      · rw [hafter]
        exact h.accepted
      · rw [hafter]
        exact h.granted
      · rw [hafter]
        exact h.used
  | stop => exact h.of_same hnone id id id id id rfl
  | leave => exact h.of_same hnone id id id (by rintro ⟨⟩) (by rintro ⟨⟩) rfl
  | hangUp =>
      exact h.of_same (h.unchanged rfl trivial) (by rintro ⟨⟩) (by rintro (⟨⟨⟩⟩ | ⟨⟨⟩, _⟩))
        (by rintro (⟨⟨⟩⟩ | ⟨⟨⟩⟩)) (by rintro ⟨⟩) (by rintro ⟨⟩) rfl
  | lose =>
      exact h.of_same (h.unchanged rfl trivial) (by rintro ⟨⟩) (by rintro (⟨⟨⟩⟩ | ⟨⟨⟩, _⟩))
        (by rintro (⟨⟨⟩⟩ | ⟨⟨⟩⟩)) (by rintro ⟨⟩) (by rintro ⟨⟩) rfl
  | expire => exact h.of_same hnone id id id id id rfl
  | attempt => exact h.of_same hnone id id id id id rfl

end Spoken

/-! ### The bytes of a connection -/

/-- The bytes that were written. -/
def MqttDeed.written? : MqttDeed → Option Bytes
  | .write bytes => some bytes
  | _ => none

/-- All bytes of a part of a log. -/
def bytesWritten (log : List MqttDeed) : Bytes := (log.filterMap MqttDeed.written?).flatten

lemma exists_packets (log : List MqttDeed)
    (h : ∀ bytes, .write bytes ∈ log → ∃ p, IsWritten bytes p) :
    ∃ packets : List (UInt8 × Bytes), bytesWritten log = packetBytes packets ∧
      ∀ q ∈ packets, q.2.length < 2 ^ 28 ∧ ∃ p, readClientPacket q = some p := by
  induction log with
  | nil => exact ⟨[], rfl, nofun⟩
  | cons d log ih =>
      obtain ⟨packets, hbytes, hpackets⟩ := ih fun bytes hb => h bytes (List.mem_cons_of_mem d hb)
      cases hd : d.written? with
      | none =>
          refine ⟨packets, ?_, hpackets⟩
          rw [bytesWritten, List.filterMap_cons, hd]
          exact hbytes
      | some bytes =>
          obtain rfl : d = .write bytes := by
            cases d <;> first | exact congrArg _ (Option.some_inj.mp hd) | cases hd
          obtain ⟨p, q, rfl, hsmall, hread⟩ := h bytes List.mem_cons_self
          refine ⟨q :: packets, ?_, List.forall_mem_cons.mpr ⟨⟨hsmall, p, hread⟩, hpackets⟩⟩
          rw [bytesWritten, List.filterMap_cons, hd]
          exact congrArg (controlPacket q.1 q.2 ++ ·) hbytes

/-! ### Runs -/

/-- The condition on an event: what is asked of the caller, and what a new UUID looks like. -/
def Speaks (early : Prop) (s : MqttSignalingClient) (e : MqttEvent × MqttIo) : Prop :=
  Permits early True s e.1 ∧ isValidDeviceId ("mc_" ++ e.2.uuid) = true

/-- **The client speaks MQTT.** Whatever the broker sends and in whatever order calls,
timers and events of the socket come, the client keeps to the conversation on every
connection, and a broker that reads any part of what it writes finds just its packets. -/
theorem client_speaks_mqtt {json : JsonCodec} {early : Prop} {config : MqttConfig}
    {es : List (MqttEvent × MqttIo)} {log : List MqttDeed} {s : MqttSignalingClient}
    (hwill : ∀ deviceId, isValidDeviceId deviceId = true →
      (json.toJson (Protocol.Presence.presenceOfflineJson deviceId)).length < 2 ^ 16)
    (hrun : Run (MqttSignalingClient.machine json) (Speaks early) { config } es log s)
    (hsmall : ∀ bytes, .write bytes ∈ log → bytes.length < 2 ^ 28) :
    (conversation json early).Accepts log ∧
      ∀ part, part <:+: log → ∃ packets,
        packetScanner.drain (bytesWritten part) = ⟨packets, [], false⟩ ∧
          bytesWritten part = packetBytes packets ∧
          ∀ q ∈ packets, ∃ p, readClientPacket q = some p := by
  have hspoken : Spoken json early log s := by
    refine (run_acts early True (fun io => isValidDeviceId ("mc_" ++ io.uuid) = true)
      (I := fun log s => (∀ bytes, .write bytes ∈ log → bytes.length < 2 ^ 28) →
        Spoken json early log s) hrun (linked_of_ne nofun) ?_ ?_ ?_).2 hsmall
    · exact fun _ => ⟨Monitor.accepts_nil, nofun, fun _ => rfl, fun _ => rfl, nofun, nofun, rfl⟩
    · exact fun _ s e io _ he => he
    · intro io log s ds s' huuid _ h hact hsmall
      exact (h fun bytes hb => hsmall bytes (List.mem_append_left _ hb)).act hwill huuid
        (fun bytes hb => hsmall bytes (List.mem_append_right _ hb)) hact
  refine ⟨hspoken.lawful, fun part hpart => ?_⟩
  obtain ⟨packets, hbytes, hpackets⟩ := exists_packets part fun bytes hb => by
    obtain ⟨front, back, hlog⟩ := List.append_of_mem (hpart.subset hb)
    obtain ⟨p, hwritten, -⟩ := hspoken.lawful front _ back hlog
    exact ⟨p, hwritten⟩
  refine ⟨packets, ?_, hbytes, fun q hq => (hpackets q hq).2⟩
  rw [hbytes]
  exact drain_packetBytes fun q hq => (hpackets q hq).1

/-! ### A run -/

lemma length_escape_le (c : Char) : (escape c).length ≤ 6 := by
  rw [escape]
  split_ifs <;> simp

lemma length_printString_le (text : String) :
    (printString text).length ≤ 6 * text.toList.length + 2 := by
  have hescaped : (text.toList.flatMap escape).length ≤ 6 * text.toList.length := by
    induction text.toList with
    | nil => exact le_rfl
    | cons c cs ih =>
        have hone := length_escape_le c
        rw [List.flatMap_cons, List.length_append, List.length_cons]
        omega
  rw [printString, List.length_cons, List.length_append, List.length_singleton]
  omega

lemma length_toUtf8_le (cs : List Char) : (toUtf8 (String.ofList cs)).length ≤ 4 * cs.length := by
  rw [toUtf8, String.toList_ofList]
  induction cs with
  | nil => exact le_rfl
  | cons c cs ih =>
      have hone := c.utf8Size_le_four
      rw [List.flatMap_cons, List.length_append, String.length_utf8EncodeChar, List.length_cons]
      omega

lemma toJson_compact (o : JsonObject) :
    compact.toJson o = toUtf8 (String.ofList ('{' :: printMembers o.toList)) := rfl

lemma printMembers_pair (m n : String × JsonValue) :
    printMembers [m, n] = printMember m ++ ',' :: (printMember n ++ ['}']) := by
  rw [printMembers, printMembers]
  rintro ⟨⟩

/-- The compact text of a will is short. -/
lemma length_will_compact {deviceId : String} (h : isValidDeviceId deviceId = true) :
    (compact.toJson (Protocol.Presence.presenceOfflineJson deviceId)).length < 2 ^ 16 := by
  have hmembers : (Protocol.Presence.presenceOfflineJson deviceId).toList =
      [("device_id", .string deviceId), ("type", .string "presence_offline")] := rfl
  obtain ⟨hlength, -⟩ := ascii_of_isValidDeviceId h
  have hid := length_printString_le deviceId
  have hkey : (printString "device_id").length = 11 := by decide
  have htype : (printMember ("type", .string "presence_offline")).length = 25 := by decide
  rw [toJson_compact, hmembers, printMembers_pair, printMember, printValue]
  refine Nat.lt_of_le_of_lt (length_toUtf8_le _) ?_
  simp only [List.length_cons, List.length_append, List.length_nil, hkey, htype]
  omega

/-- A client without an id connects, under a new one. -/
def connectAnew : List (MqttEvent × MqttIo) :=
  (connectAndRead granted).map fun e => (e.1, { uuid := "f47ac10b-58cc-4372-a567-0e02b2c3d479" })

theorem client_speaks_mqtt_granted :
    (conversation compact False).Accepts
      ((MqttSignalingClient.machine compact).exec { config := { deviceId := "" } }
        connectAnew).1 := by
  have hspeaks : (MqttSignalingClient.machine compact).Allows (Speaks False)
      { config := { deviceId := "" } } connectAnew := by
    have huuid : isValidDeviceId ("mc_" ++ "f47ac10b-58cc-4372-a567-0e02b2c3d479") = true := by
      decide
    exact ⟨⟨trivial, huuid⟩, ⟨trivial, huuid⟩, ⟨trivial, huuid⟩, ⟨trivial, huuid⟩, trivial⟩
  refine (client_speaks_mqtt (fun _ => length_will_compact) (Run.exec hspeaks) fun bytes hb => ?_).1
  have hall : ∀ bytes ∈ (((MqttSignalingClient.machine compact).exec
      { config := { deviceId := "" } } connectAnew).1.filterMap MqttDeed.written?),
        bytes.length < 2 ^ 28 := by
    decide +kernel
  exact hall bytes (List.mem_filterMap.mpr ⟨_, hb, rfl⟩)

end MeckChat.Network
