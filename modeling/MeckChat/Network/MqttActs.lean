import MeckChat.Foundation.Trace
import MeckChat.Network.MqttPublish
import MeckChat.Network.MqttReconnect

/-!
The small steps of the client of the broker.

* `MqttAct` lists what the client does at once: one change of its fields, with the deeds
  that belong to it and the condition under which it does so. `IsNotice` says what it
  publishes.
* `Linked` is the invariant that goes with it: a client that is ready has a TLS connection.
* `acts_react`: what an event leads to is a trace of such steps, those that are permitted to
  it (`Permits`).
* `run_acts` is the induction rule that comes of it. An invariant of the log and the client
  has to be kept by each step only, whatever calls the step is a part of.
-/

namespace MeckChat.Network

open MqttTurn QJson StreamDecoder

/-! ### The steps -/

/-- A deed that says nothing about the conversation with the broker. -/
def MqttDeed.IsNote : MqttDeed → Prop
  | .connected => False
  | .disconnected => False
  | .connectToHost _ _ => False
  | .write _ => False
  | .dispatched _ _ => False
  | _ => True

/-- What the client publishes: the topic, the payload and the retain flag. -/
inductive IsNotice (json : JsonCodec) (io : MqttIo) : String → Bytes → Bool → Prop where
  | online (device : Protocol.Presence.Device) (hid : isValidDeviceId device.deviceId = true) :
      IsNotice json io ("meckchat/v1/presence/online/" ++ device.deviceId)
        (json.toJson (device.toPresenceOnlineJson io.now)) true
  | offline (deviceId : String) (hid : isValidDeviceId deviceId = true) :
      IsNotice json io ("meckchat/v1/presence/offline/" ++ deviceId)
        (json.toJson (Protocol.Presence.presenceOfflineJson deviceId)) true
  | discovery (deviceId : String) (hid : isValidDeviceId deviceId = true) :
      IsNotice json io "meckchat/v1/discovery"
        (json.toJson (({ deviceId, timestamp := io.now } :
          Protocol.Presence.DiscoveryRequest).toJson io.now)) false

/-- The id of the next packet that needs one. -/
def MqttSignalingClient.packetId (s : MqttSignalingClient) : UInt16 :=
  if s.m_nextPacketId = 0 then 1 else s.m_nextPacketId

/-- The id under which the client connects. -/
def MqttSignalingClient.localId (io : MqttIo) (s : MqttSignalingClient) : String :=
  if isValidDeviceId s.config.deviceId then s.config.deviceId else "mc_" ++ io.uuid

/-- The body of a CONNECT. -/
def connectBody (json : JsonCodec) (localId : String) : Bytes :=
  let willPayload := json.toJson (Protocol.Presence.presenceOfflineJson localId)
  encodeUtf8String "MQTT" ++ [0x04, 0x02 ||| 0x04 ||| 0x08 ||| 0x20] ++
    be16 DEFAULT_KEEPALIVE_SECONDS ++
      (encodeUtf8String localId ++ encodeUtf8String ("meckchat/v1/presence/offline/" ++ localId) ++
        be16 (UInt16.ofNat willPayload.length) ++ willPayload)

/-- What the client subscribes to. -/
def subscriptions : List (String × UInt8) :=
  [("meckchat/v1/presence/online/+", 1), ("meckchat/v1/presence/offline/+", 1),
    ("meckchat/v1/discovery", 1)]

/-- The body of a SUBSCRIBE. -/
def subscribeBody (packetId : UInt16) : Bytes :=
  be16 packetId ++ subscriptions.flatMap fun item => encodeUtf8String item.1 ++ [item.2 &&& 0x03]

/-- The wait before an attempt, behind some others. -/
def reconnectDelay (attempts : ℕ) (jitter : ℤ) : ℤ :=
  max 1000 (min (INITIAL_RECONNECT_MS * 2 ^ min attempts 6) MAX_RECONNECT_MS + jitter)

/-- The client behind the end of its connection. -/
def MqttSignalingClient.hungUp (s : MqttSignalingClient) : MqttSignalingClient :=
  { s with
    m_socket := {}
    m_pingTimer := false
    m_pingTimeoutTimer := false
    m_pingOutstanding := false
    m_receiveBuffer := []
    m_state := .Disconnected }

/-- TLS is up on a connection that is not gone. -/
def QSslSocket.IsLive (s : QSslSocket) : Prop := s.isOpen = true ∧ s.encrypted = true

/-- A packet whose handler changes nothing but by further steps. -/
def IsPassing (p : UInt8 × Bytes) : Prop :=
  ¬ Accepting p ∧ ¬ IsSuback p ∧ p.1 &&& 0xF0 ≠ PacketType.PINGRESP

/-- **The steps.** `early` says whether something may be published before there is TLS, and
`dials` whether a connection may be begun. -/
inductive MqttAct (json : JsonCodec) (io : MqttIo) (early dials : Prop) :
    MqttSignalingClient → List MqttDeed → MqttSignalingClient → Prop where
  | note {s : MqttSignalingClient} {d : MqttDeed} (hd : d.IsNote) :
      MqttAct json io early dials s [d] s
  | buffer {s : MqttSignalingClient} (b : Bytes) :
      MqttAct json io early dials s [] { s with m_receiveBuffer := b }
  | aim {s : MqttSignalingClient} (host : String) (port : ℤ) :
      MqttAct json io early dials s []
        { s with m_host := host, m_port := port, m_intentionalDisconnect := false }
  | dial {s : MqttSignalingClient} (hdials : dials)
      (hsocket : s.m_socket.state = .UnconnectedState) :
      MqttAct json io early dials s [.connectToHost s.m_host s.m_port]
        { s with
          m_state := .Connecting
          m_receiveBuffer := []
          m_socket := { state := .ConnectingState } }
  | established {s : MqttSignalingClient} (hsocket : s.m_socket.isConnecting = true) :
      MqttAct json io early dials s [] { s with m_socket := { state := .ConnectedState } }
  | failed {s : MqttSignalingClient} (hsocket : s.m_socket.isOpen = false) :
      MqttAct json io early dials s [] { s with m_socket := {} }
  | postpone {s : MqttSignalingClient} (hsocket : s.m_socket.isConnecting = true) :
      MqttAct json io early dials s []
        { s with m_socket := { s.m_socket with pendingClose := true } }
  | closing {s : MqttSignalingClient} (hsocket : s.m_socket.isOpen = true) :
      MqttAct json io early dials s []
        { s with m_socket := { s.m_socket with state := .ClosingState } }
  | greet {s : MqttSignalingClient} (hsocket : s.m_socket.state = .ConnectedState)
      (hplain : s.m_socket.encrypted = false) :
      MqttAct json io early dials s
        [.write (controlPacket PacketType.CONNECT (connectBody json (s.localId io)))]
        { s with
          config.deviceId := s.localId io
          m_state := .Connected
          m_socket := { s.m_socket with encrypted := true } }
  | take {s : MqttSignalingClient} {header : UInt8} {data : Bytes} (hlive : s.m_socket.IsLive)
      (hpassing : IsPassing (header, data)) :
      MqttAct json io early dials s [.dispatched header data] s
  | accept {s : MqttSignalingClient} {header : UInt8} {data : Bytes} (hlive : s.m_socket.IsLive)
      (haccepting : Accepting (header, data)) :
      MqttAct json io early dials s [.dispatched header data]
        { s with m_state := .Subscribing, m_pingTimer := true }
  | subscribe {s : MqttSignalingClient} (hlive : s.m_socket.IsLive)
      (hsocket : s.m_socket.state = .ConnectedState) (hstate : s.m_state = .Subscribing) :
      MqttAct json io early dials s
        [.write (controlPacket PacketType.SUBSCRIBE (subscribeBody s.packetId))]
        { s with m_nextPacketId := s.packetId + 1 }
  | grant {s : MqttSignalingClient} {header : UInt8} {data : Bytes} (hlive : s.m_socket.IsLive)
      (hsuback : IsSuback (header, data)) :
      MqttAct json io early dials s [.dispatched header data]
        { s with m_state := .Ready, m_reconnectAttempts := 0, m_reconnectTimer := none }
  | announce {s : MqttSignalingClient} (hstate : s.m_state = .Ready)
      (hattempts : s.m_reconnectAttempts = 0) :
      MqttAct json io early dials s [.connected] s
  | pong {s : MqttSignalingClient} {header : UInt8} {data : Bytes} (hlive : s.m_socket.IsLive)
      (hpingresp : header &&& 0xF0 = PacketType.PINGRESP) :
      MqttAct json io early dials s [.dispatched header data]
        { s with m_pingTimeoutTimer := false, m_pingOutstanding := false }
  | puback {s : MqttSignalingClient} (packetId : UInt16) (hlive : s.m_socket.IsLive) :
      MqttAct json io early dials s [.write (controlPacket PacketType.PUBACK (be16 packetId))] s
  | publish {s : MqttSignalingClient} {topic : String} {payload : Bytes} {retain : Bool}
      (hnotice : IsNotice json io topic payload retain) (htopic : isValidTopic topic = true)
      (hsocket : s.m_socket.state = .ConnectedState)
      (hlive : early ∨ s.m_socket.encrypted = true) :
      MqttAct json io early dials s
        [.write (controlPacket (publishPacket topic payload 1 retain s.packetId).1
          (publishPacket topic payload 1 retain s.packetId).2)]
        { s with m_nextPacketId := s.packetId + 1 }
  | ping {s : MqttSignalingClient} (hstate : s.m_state = .Ready) (hlive : s.m_socket.IsLive) :
      MqttAct json io early dials s [.write [PacketType.PINGREQ, 0x00]]
        { s with m_pingTimeoutTimer := true, m_pingOutstanding := true }
  | farewell {s : MqttSignalingClient} (hstate : s.m_state = .Ready) (hlive : s.m_socket.IsLive) :
      MqttAct json io early dials s [.write [PacketType.DISCONNECT, 0x00]]
        { s with m_socket := { s.m_socket with state := .ClosingState } }
  | stop {s : MqttSignalingClient} :
      MqttAct json io early dials s []
        { s with
          m_intentionalDisconnect := true
          m_reconnectTimer := none
          m_pingTimer := false
          m_pingTimeoutTimer := false }
  | leave {s : MqttSignalingClient} :
      MqttAct json io early dials s [] { s with m_state := .Disconnected }
  | hangUp {s : MqttSignalingClient} (hsocket : s.m_socket.isOpen = true)
      (hkept : s.m_intentionalDisconnect = true ∨ s.m_reconnectTimer.isSome = true) :
      MqttAct json io early dials s [.disconnected] s.hungUp
  | lose {s : MqttSignalingClient} (hsocket : s.m_socket.isOpen = true)
      (hwanted : s.m_intentionalDisconnect = false) (htimer : s.m_reconnectTimer = none) :
      MqttAct json io early dials s [.disconnected]
        { s.hungUp with
          m_reconnectAttempts := s.m_reconnectAttempts + 1
          m_reconnectTimer := some (reconnectDelay s.m_reconnectAttempts io.jitter) }
  | expire {s : MqttSignalingClient} :
      MqttAct json io early dials s [] { s with m_pingTimeoutTimer := false }
  | attempt {s : MqttSignalingClient} :
      MqttAct json io early dials s [] { s with m_reconnectTimer := none }

/-! ### A client that is ready -/

/-- **The invariant.** A client that is ready has a TLS connection. -/
def Linked (s : MqttSignalingClient) : Prop := s.m_state = .Ready → s.m_socket.IsLive

/-- The condition on an event, for the steps it may lead to. -/
def Permits (early dials : Prop) (s : MqttSignalingClient) : MqttEvent → Prop
  | .connectToBroker _ _ => dials
  | .reconnectTimer => s.m_reconnectTimer.isSome = true → dials
  | .publishOnlinePresence _ => early ∨ s.m_socket.encrypted = true
  | .publishOfflinePresence _ => early ∨ s.m_socket.encrypted = true
  | .broadcastDiscoveryRequest _ => early ∨ s.m_socket.encrypted = true
  | _ => True

lemma permits_true {s : MqttSignalingClient} (e : MqttEvent) : Permits True True s e := by
  cases e <;> first | exact trivial | exact Or.inl trivial | exact fun _ => trivial

lemma QSslSocket.isOpen_of_isConnecting {s : QSslSocket} (h : s.isConnecting = true) :
    s.isOpen = false := by
  rw [isConnecting, Bool.or_eq_true, decide_eq_true_eq, decide_eq_true_eq] at h
  rcases h with h | h
  · rw [isOpen, h]
    rfl
  · rw [isOpen, h]
    rfl

lemma QSslSocket.not_isLive_of_isConnecting {s : QSslSocket} (h : s.isConnecting = true) :
    ¬ s.IsLive := by
  rintro ⟨hopen, -⟩
  rw [isOpen_of_isConnecting h] at hopen
  exact absurd hopen (by decide)

section Linked

variable {json : JsonCodec} {io : MqttIo} {early dials : Prop} {s s' : MqttSignalingClient}
  {ds : List MqttDeed}

lemma linked_of_ne (h : s.m_state ≠ .Ready) : Linked s := fun hready => absurd hready h

/-- **One step.** -/
lemma MqttAct.linked (hact : MqttAct json io early dials s ds s') (h : Linked s) : Linked s' := by
  cases hact with
  | note => exact h
  | buffer => exact h
  | aim => exact h
  | dial => exact linked_of_ne (by simp)
  | established hsocket =>
      exact fun hready => absurd (h hready) (QSslSocket.not_isLive_of_isConnecting hsocket)
  | failed hsocket =>
      intro hready
      exact absurd ((h hready).1.symm.trans hsocket) (by decide)
  | postpone hsocket =>
      exact fun hready => absurd (h hready) (QSslSocket.not_isLive_of_isConnecting hsocket)
  | closing => exact fun hready => ⟨rfl, (h hready).2⟩
  | greet => exact linked_of_ne (by simp)
  | take => exact h
  | accept => exact linked_of_ne (by simp)
  | subscribe => exact h
  | grant hlive => exact fun _ => hlive
  | announce => exact h
  | pong => exact h
  | puback => exact h
  | publish => exact h
  | ping => exact h
  | farewell hstate hlive => exact fun _ => ⟨rfl, hlive.2⟩
  | stop => exact h
  | leave => exact linked_of_ne (by simp)
  | hangUp => exact linked_of_ne (by simp [MqttSignalingClient.hungUp])
  | lose => exact linked_of_ne (by simp [MqttSignalingClient.hungUp])
  | expire => exact h
  | attempt => exact h

end Linked

/-! ### Turns -/

namespace MqttTurn

/-- A part of a call is a trace of steps. -/
def Acts (json : JsonCodec) (io : MqttIo) (early dials : Prop) (t t' : MqttTurn) : Prop :=
  ∃ ds, t'.deeds = t.deeds ++ ds ∧ Trace (MqttAct json io early dials) t.client ds t'.client

variable {json : JsonCodec} {io : MqttIo} {early dials : Prop} {t t' t'' : MqttTurn}

lemma Acts.refl (t : MqttTurn) : Acts json io early dials t t :=
  ⟨[], (List.append_nil _).symm, .nil⟩

lemma Acts.trans (h : Acts json io early dials t t') (h' : Acts json io early dials t' t'') :
    Acts json io early dials t t'' := by
  obtain ⟨ds, hds, hsteps⟩ := h
  obtain ⟨ds', hds', hsteps'⟩ := h'
  exact ⟨ds ++ ds', by rw [hds', hds, List.append_assoc], hsteps.trans hsteps'⟩

/-- One step. -/
lemma acts_single {s' : MqttSignalingClient} {ds : List MqttDeed}
    (hact : MqttAct json io early dials t.client ds s') :
    Acts json io early dials t ⟨s', t.deeds ++ ds⟩ :=
  ⟨ds, rfl, .single hact⟩

/-- One step that does nothing outside. -/
lemma acts_silent {s' : MqttSignalingClient} (hact : MqttAct json io early dials t.client [] s') :
    Acts json io early dials t ⟨s', t.deeds⟩ :=
  ⟨[], (List.append_nil _).symm, .single hact⟩

lemma acts_log {d : MqttDeed} (hd : d.IsNote) : Acts json io early dials t (t.log d) :=
  acts_single (.note hd)

/-- The state changes, with a signal where it does. -/
lemma setState_eq (t : MqttTurn) (state : MqttState) : ∃ notes : List MqttDeed,
    (∀ d ∈ notes, d.IsNote) ∧
      t.setState state = ⟨{ t.client with m_state := state }, t.deeds ++ notes⟩ := by
  rw [setState]
  split_ifs with h
  · exact ⟨[.stateChanged state], List.forall_mem_singleton.mpr trivial, rfl⟩
  · rw [not_not] at h
    exact ⟨[], List.forall_mem_nil _, by rw [← h, List.append_nil]⟩

lemma acts_notes {notes : List MqttDeed} (h : ∀ d ∈ notes, d.IsNote) :
    Acts json io early dials t ⟨t.client, t.deeds ++ notes⟩ := by
  refine ⟨notes, rfl, ?_⟩
  induction notes using List.reverseRecOn with
  | nil => exact .nil
  | append_singleton notes d ih =>
      exact .snoc (ih fun d' hd' => h d' (List.mem_append_left _ hd'))
        (.note (h d (List.mem_append_right _ (List.mem_singleton_self d))))

/-! ### Sending -/

lemma acts_sendPublish {topic : String} {payload : Bytes} {retain : Bool}
    (hnotice : IsNotice json io topic payload retain)
    (hlive : early ∨ t.client.m_socket.encrypted = true) :
    Acts json io early dials t (t.sendPublish topic payload 1 retain) := by
  cases htopic : isValidTopic topic with
  | false =>
      rw [sendPublish, htopic, if_pos (by rw [Bool.not_false, Bool.true_or])]
      exact Acts.refl t
  | true =>
      by_cases hsocket : t.client.m_socket.state = .ConnectedState
      · have hact : MqttAct json io early dials t.client _ _ :=
          .publish hnotice htopic hsocket hlive
        rw [publishPacket, if_pos (by decide)] at hact
        rw [sendPublish, if_neg (by rw [htopic, hsocket]; decide), if_pos (by decide)]
        exact acts_single hact
      · rw [sendPublish, htopic]
        simp only [Bool.not_true, Bool.false_or, decide_not, hsocket, decide_false, Bool.not_false,
          if_true]
        exact Acts.refl t

lemma acts_publishOnlinePresence {device : Protocol.Presence.Device}
    (hlive : early ∨ t.client.m_socket.encrypted = true) :
    Acts json io early dials t (t.publishOnlinePresence json io device) := by
  rw [publishOnlinePresence]
  cases hid : isValidDeviceId device.deviceId with
  | false => exact Acts.refl t
  | true => exact acts_sendPublish (.online device hid) hlive

lemma acts_publishOfflinePresence {deviceId : String}
    (hlive : early ∨ t.client.m_socket.encrypted = true) :
    Acts json io early dials t (t.publishOfflinePresence json deviceId) := by
  rw [publishOfflinePresence]
  cases hid : isValidDeviceId deviceId with
  | false => exact Acts.refl t
  | true => exact acts_sendPublish (.offline deviceId hid) hlive

lemma acts_broadcastDiscoveryRequest {deviceId : String}
    (hlive : early ∨ t.client.m_socket.encrypted = true) :
    Acts json io early dials t (t.broadcastDiscoveryRequest json io deviceId) := by
  rw [broadcastDiscoveryRequest]
  cases hid : isValidDeviceId deviceId with
  | false => exact Acts.refl t
  | true => exact acts_sendPublish (.discovery deviceId hid) hlive

/-! ### The end of a connection -/

/-- An open socket is closed. -/
lemma acts_closed (hopen : t.client.m_socket.isOpen = true) :
    Acts json io early dials t (t.closed io) := by
  obtain ⟨u, hu⟩ : ∃ u, u =
    (((t.setSocket {}).setPingTimer false).setPing false false).setBuffer [] := ⟨_, rfl⟩
  obtain ⟨notes, hnotes, hstate⟩ := setState_eq u .Disconnected
  have hclosed : t.closed io = (t.setSocket {}).onSocketDisconnected io := by
    rw [QSslSocket.isOpen, Bool.or_eq_true, decide_eq_true_eq, decide_eq_true_eq] at hopen
    rcases hopen with h | h
    · rw [closed, h]
    · rw [closed, h]
  have hlogged : ((u.setState .Disconnected).log .disconnected) =
      ⟨t.client.hungUp, t.deeds ++ notes ++ [.disconnected]⟩ := by
    rw [hstate, hu]
    rfl
  rw [hclosed, onSocketDisconnected, ← hu, hlogged]
  refine (acts_notes hnotes).trans ?_
  cases hwanted : t.client.m_intentionalDisconnect with
  | true =>
      rw [if_neg (by rw [MqttSignalingClient.hungUp, hwanted]; decide)]
      exact acts_single (.hangUp hopen (Or.inl hwanted))
  | false =>
      rw [if_pos (by rw [MqttSignalingClient.hungUp, hwanted]; decide), scheduleReconnect]
      cases htimer : t.client.m_reconnectTimer with
      | some delay =>
          rw [if_pos (by rw [MqttSignalingClient.hungUp, htimer]; rfl)]
          exact acts_single (.hangUp hopen (Or.inr (by rw [htimer]; rfl)))
      | none =>
          rw [if_neg (by rw [MqttSignalingClient.hungUp, htimer]; decide)]
          exact acts_single (.lose hopen hwanted htimer)

/-- A socket is closed, whatever its state. -/
lemma acts_abort : Acts json io early dials t (t.abort io) := by
  cases hopen : t.client.m_socket.isOpen with
  | true => exact acts_closed hopen
  | false =>
      have hclosed : t.abort io = t.setSocket {} := by
        rw [abort, closed]
        split
        · rename_i hstate
          rw [QSslSocket.isOpen, hstate] at hopen
          exact absurd hopen (by decide)
        · rename_i hstate
          rw [QSslSocket.isOpen, hstate] at hopen
          exact absurd hopen (by decide)
        · rfl
      rw [hclosed]
      exact acts_silent (.failed hopen)

lemma acts_disconnectFromHost : Acts json io early dials t (t.disconnectFromHost io) := by
  rw [disconnectFromHost]
  cases hstate : t.client.m_socket.state with
  | UnconnectedState => exact Acts.refl t
  | HostLookupState =>
      exact acts_silent (.postpone (by rw [QSslSocket.isConnecting, hstate]; rfl))
  | ConnectingState =>
      exact acts_silent (.postpone (by rw [QSslSocket.isConnecting, hstate]; rfl))
  | ConnectedState =>
      have hopen : t.client.m_socket.isOpen = true := by rw [QSslSocket.isOpen, hstate]; rfl
      dsimp only
      split_ifs
      · exact acts_closed hopen
      · exact acts_silent (.closing hopen)
  | ClosingState =>
      have hopen : t.client.m_socket.isOpen = true := by rw [QSslSocket.isOpen, hstate]; rfl
      dsimp only
      split_ifs
      · exact acts_closed hopen
      · exact acts_silent (.closing hopen)

/-! ### Receiving -/

lemma acts_processReceivedPayload {topic : String} {payload : Bytes}
    (hlive : t.client.m_socket.encrypted = true) :
    Acts json io early dials t (t.processReceivedPayload json io topic payload) := by
  have hreceived : Acts json io early dials t (t.log (.received topic payload)) :=
    acts_log trivial
  rcases processReceivedPayload_cases t json io topic payload with
    h | ⟨device, h⟩ | ⟨deviceId, h⟩ | ⟨deviceId, device, h⟩
  · rw [h]
    exact hreceived
  · rw [h]
    exact hreceived.trans (acts_log (d := .deviceDiscovered device) trivial)
  · rw [h]
    exact hreceived.trans (acts_log (d := .deviceLeft deviceId) trivial)
  · rw [h]
    exact (hreceived.trans (acts_log (d := .discoveryRequested deviceId) trivial)).trans
      (acts_publishOnlinePresence (Or.inr hlive))

lemma acts_handlePublish {header : UInt8} {data : Bytes} (hlive : t.client.m_socket.IsLive) :
    Acts json io early dials t (t.handlePublish json io header data) := by
  have hpayload : ∀ (u : MqttTurn) topic payload, u.client = t.client →
      Acts json io early dials u
        (if payload.length > MAX_SIGNALING_PAYLOAD_SIZE then u
        else u.processReceivedPayload json io topic payload) := by
    intro u topic payload hu
    split_ifs
    · exact Acts.refl u
    · exact acts_processReceivedPayload (by rw [hu]; exact hlive.2)
  rw [handlePublish]
  dsimp only
  split
  · exact Acts.refl t
  · split
    · split
      · exact Acts.refl t
      · exact Acts.trans (acts_single (.puback _ hlive)) (hpayload (t.sendPuback _) _ _ rfl)
    · exact hpayload t _ _ rfl

/-- An accepting CONNACK. -/
lemma acts_accept {header : UInt8} {data : Bytes} (hlive : t.client.m_socket.IsLive)
    (haccepting : Accepting (header, data)) :
    Acts json io early dials t
      ((((t.log (.dispatched header data)).setState .Subscribing).sendSubscribe
        subscriptions).setPingTimer true) := by
  obtain ⟨notes, hnotes, hstate⟩ := setState_eq (t.log (.dispatched header data)) .Subscribing
  obtain ⟨u, hu⟩ : ∃ u : MqttTurn, u = ⟨{ t.client with
      m_state := .Subscribing, m_pingTimer := true },
    t.deeds ++ [.dispatched header data] ++ notes⟩ := ⟨_, rfl⟩
  have haccepted : Acts json io early dials t u := by
    rw [hu]
    exact (acts_single (.accept hlive haccepting)).trans (acts_notes hnotes)
  have hulive : u.client.m_socket.IsLive := by
    rw [hu]
    exact hlive
  have hustate : u.client.m_state = .Subscribing := by rw [hu]
  have hsubscribe : (((t.log (.dispatched header data)).setState .Subscribing).sendSubscribe
      subscriptions).setPingTimer true = u.sendSubscribe subscriptions := by
    rw [hstate, hu, sendSubscribe, sendSubscribe]
    by_cases hsocket : t.client.m_socket.state = .ConnectedState
    · have hgo : ¬ (subscriptions = [] ∨ t.client.m_socket.state ≠ .ConnectedState) := by
        rw [hsocket]
        decide
      rw [log, if_neg hgo, if_neg hgo]
      rfl
    · rw [log, if_pos (Or.inr hsocket), if_pos (Or.inr hsocket)]
      rfl
  rw [hsubscribe]
  refine haccepted.trans ?_
  by_cases hsocket : u.client.m_socket.state = .ConnectedState
  · rw [sendSubscribe, if_neg (by rw [hsocket]; decide)]
    exact acts_single (.subscribe hulive hsocket hustate)
  · rw [sendSubscribe, if_pos (Or.inr hsocket)]
    exact Acts.refl u

/-- A SUBACK. -/
lemma acts_grant {header : UInt8} {data : Bytes} (hlive : t.client.m_socket.IsLive)
    (hsuback : IsSuback (header, data)) :
    Acts json io early dials t ((t.log (.dispatched header data)).handleSuback json io data) := by
  obtain ⟨notes, hnotes, hstate⟩ := setState_eq (t.log (.dispatched header data)) .Ready
  obtain ⟨u, hu⟩ : ∃ u : MqttTurn, u = ⟨{ t.client with
      m_state := .Ready, m_reconnectAttempts := 0, m_reconnectTimer := none },
    t.deeds ++ [.dispatched header data] ++ notes⟩ := ⟨_, rfl⟩
  have hgranted : Acts json io early dials t u := by
    rw [hu]
    exact (acts_single (.grant hlive hsuback)).trans (acts_notes hnotes)
  have hready : u.client.m_state = .Ready ∧ u.client.m_reconnectAttempts = 0 := by
    rw [hu]
    exact ⟨rfl, rfl⟩
  have hreset : ((t.log (.dispatched header data)).setState .Ready).resetReconnect = u := by
    rw [hstate, hu]
    rfl
  have hlong : 3 ≤ data.length := hsuback.2
  rw [handleSuback, if_neg (by omega), hreset]
  refine (hgranted.trans (acts_single (.announce hready.1 hready.2))).trans ?_
  refine acts_publishOnlinePresence (Or.inr ?_)
  rw [hu]
  exact hlive.2

/-- **A packet**, of any kind. -/
lemma acts_dispatch {header : UInt8} {data : Bytes} (hlive : t.client.m_socket.IsLive) :
    Acts json io early dials t (t.dispatch json io header data) := by
  have htake : IsPassing (header, data) →
      Acts json io early dials t (t.log (.dispatched header data)) :=
    fun hpassing => acts_single (.take hlive hpassing)
  have hother : ∀ {type : UInt8}, header &&& 0xF0 = type → type ≠ PacketType.CONNACK →
      type ≠ PacketType.SUBACK → type ≠ PacketType.PINGRESP → IsPassing (header, data) := by
    rintro type rfl hconnack hsuback hpingresp
    exact ⟨fun h => hconnack h.1, fun h => hsuback h.1, hpingresp⟩
  rw [dispatch]
  split_ifs with hconnack hpublish hpuback hsuback hpingresp
  · have hrefused : data[1]? ≠ some 0 → IsPassing (header, data) := fun hcode =>
      ⟨fun h => hcode h.2, fun h => absurd (hconnack.symm.trans h.1) (by decide),
        fun h => absurd (hconnack.symm.trans h) (by decide)⟩
    rcases data with _ | ⟨first, _ | ⟨returnCode, rest⟩⟩
    · exact (htake (hrefused (by rintro ⟨⟩))).trans acts_abort
    · exact (htake (hrefused (by rintro ⟨⟩))).trans acts_abort
    · rw [handleConnack]
      split_ifs with hcode
      · refine ((htake (hrefused ?_)).trans acts_abort).trans (acts_log trivial)
        simpa using hcode
      · rw [not_not] at hcode
        exact acts_accept hlive ⟨hconnack, by rw [hcode]; rfl⟩
  · exact (htake (hother hpublish (by decide) (by decide) (by decide))).trans
      (acts_handlePublish hlive)
  · exact htake (hother hpuback (by decide) (by decide) (by decide))
  · by_cases hlong : 3 ≤ data.length
    · exact acts_grant hlive ⟨hsuback, hlong⟩
    · rw [handleSuback, if_pos (by omega)]
      exact htake ⟨fun h => hconnack h.1, fun h => hlong h.2,
        fun h => absurd (hsuback.symm.trans h) (by decide)⟩
  · exact acts_single (.pong hlive hpingresp)
  · exact htake (hother rfl hconnack hsuback hpingresp)

/-- **One delivery.** Behind a packet that ends the connection nothing is left to read. -/
lemma acts_processLoop {fuel : ℕ} (hlive : t.client.m_socket.IsLive) :
    Acts json io early dials t (t.processLoop json io fuel) := by
  induction fuel generalizing t with
  | zero => exact Acts.refl t
  | succ fuel ih =>
      rw [processLoop_succ]
      cases hlook : lookPacket t.client.m_receiveBuffer with
      | wait => exact Acts.refl t
      | flush =>
          exact (acts_log (d := .corrupted t.client.m_receiveBuffer) trivial).trans acts_abort
      | drop n item =>
          obtain ⟨_, _, header, data, rfl⟩ := exists_packet hlook
          obtain ⟨u, hu⟩ : ∃ u, u = t.setBuffer (t.client.m_receiveBuffer.drop n) := ⟨_, rfl⟩
          have hulive : u.client.m_socket.IsLive := by
            rw [hu]
            exact hlive
          have hbuffer : Acts json io early dials t u := by
            rw [hu]
            exact acts_silent (.buffer _)
          have hdispatch : Acts json io early dials u (u.dispatch json io header data) :=
            acts_dispatch hulive
          dsimp only
          rw [← hu]
          refine hbuffer.trans (hdispatch.trans ?_)
          by_cases haborts : Aborts (header, data)
          · obtain ⟨_, _, hempty⟩ := dispatch_aborts json io (t := u) haborts hulive.1
            rw [processLoop_nil fuel hempty]
            exact Acts.refl _
          · obtain ⟨hsocket, _⟩ := dispatch_fields json io (t := u) haborts
            exact ih (by rw [hsocket]; exact hulive)

/-! ### One event -/

/-- The end of `connectToBroker`. -/
lemma acts_dial (hdials : dials) (hsocket : t.client.m_socket.state = .UnconnectedState) :
    Acts json io early dials t
      ((((t.setBuffer []).setState .Connecting).setSocket { state := .ConnectingState }).log
        (.connectToHost ((t.setBuffer []).setState .Connecting).client.m_host
          ((t.setBuffer []).setState .Connecting).client.m_port)) := by
  obtain ⟨notes, hnotes, hstate⟩ := setState_eq (t.setBuffer []) .Connecting
  rw [hstate]
  exact (acts_notes hnotes).trans (acts_single (.dial hdials hsocket))

lemma acts_connectToBroker {host : String} {port : ℤ} (hdials : dials) :
    Acts json io early dials t (t.connectToBroker io host port) := by
  obtain ⟨u, hu⟩ : ∃ u : MqttTurn, u = ⟨{ t.client with
      m_host := if host = "" then t.client.config.mqttBrokerHost else host
      m_port := if port = 0 then t.client.config.mqttBrokerPort else port
      m_intentionalDisconnect := false }, t.deeds⟩ := ⟨_, rfl⟩
  have haimed : Acts json io early dials t u := by
    rw [hu]
    exact acts_silent (.aim _ _)
  obtain ⟨v, hv⟩ : ∃ v, v = if u.client.m_socket.state ≠ .UnconnectedState then u.abort io else u :=
    ⟨_, rfl⟩
  have hclosed : Acts json io early dials u v ∧ v.client.m_socket.state = .UnconnectedState := by
    rw [hv]
    split_ifs with hsocket
    · exact ⟨acts_abort, by rw [abort, (closed_fields u io).1]⟩
    · exact ⟨Acts.refl u, not_not.mp hsocket⟩
  have hdial : t.connectToBroker io host port =
      (((v.setBuffer []).setState .Connecting).setSocket { state := .ConnectingState }).log
        (.connectToHost ((v.setBuffer []).setState .Connecting).client.m_host
          ((v.setBuffer []).setState .Connecting).client.m_port) := by
    rw [hv, hu]
    rfl
  rw [hdial]
  exact (haimed.trans hclosed.1).trans (acts_dial hdials hclosed.2)

/-- The farewell of a client that is ready, and the end of its connection. -/
lemma acts_farewell (hready : t.client.m_state = .Ready) (hlive : t.client.m_socket.IsLive) :
    Acts json io early dials t (t.sendDisconnect.disconnectFromHost io) := by
  obtain ⟨u, hu⟩ : ∃ u : MqttTurn, u = ⟨{ t.client with
      m_socket := { t.client.m_socket with state := .ClosingState } },
    t.deeds ++ [.write [PacketType.DISCONNECT, 0x00]]⟩ := ⟨_, rfl⟩
  have hsaid : Acts json io early dials t u := by
    rw [hu]
    exact acts_single (.farewell hready hlive)
  have hclosed : t.sendDisconnect.closed io = u.closed io := by
    have hopen := hlive.1
    rw [QSslSocket.isOpen, Bool.or_eq_true, decide_eq_true_eq, decide_eq_true_eq] at hopen
    rw [hu, sendDisconnect, write, log, closed, closed]
    rcases hopen with h | h
    · rw [h]
      rfl
    · rw [h]
      rfl
  have hhost : t.sendDisconnect.disconnectFromHost io =
      if io.closesAtOnce then u.closed io else u := by
    have hopen := hlive.1
    rw [QSslSocket.isOpen, Bool.or_eq_true, decide_eq_true_eq, decide_eq_true_eq] at hopen
    rw [← hclosed, hu, disconnectFromHost]
    rcases hopen with h | h
    · rw [sendDisconnect, write, log, h]
      rfl
    · rw [sendDisconnect, write, log, h]
      rfl
  rw [hhost]
  split_ifs
  · exact hsaid.trans (acts_closed (by rw [hu]; rfl))
  · exact hsaid

/-- The farewell comes before the socket is closed. -/
lemma acts_disconnectFromBroker (hlinked : Linked t.client) :
    Acts json io early dials t (t.disconnectFromBroker json io) := by
  have hend : ∀ u : MqttTurn,
      Acts json io early dials u ((u.setState .Disconnected).setBuffer []) := by
    intro u
    obtain ⟨notes, hnotes, hstate⟩ := setState_eq u .Disconnected
    rw [hstate]
    exact (acts_notes hnotes).trans ((acts_silent .leave).trans (acts_silent (.buffer [])))
  have hstopped : Acts json io early dials t t.stopTimers := acts_silent .stop
  refine hstopped.trans (Acts.trans ?_ (hend _))
  by_cases hready : t.client.m_state = .Ready
  · obtain ⟨u, hu⟩ : ∃ u, u = if isValidDeviceId t.stopTimers.client.config.deviceId then
        t.stopTimers.publishOfflinePresence json t.stopTimers.client.config.deviceId
        else t.stopTimers := ⟨_, rfl⟩
    have hlive : t.client.m_socket.IsLive := hlinked hready
    have hpublished : Acts json io early dials t.stopTimers u ∧ Calm t.stopTimers u := by
      rw [hu]
      split_ifs
      · exact ⟨acts_publishOfflinePresence (Or.inr hlive.2), calm_publishOfflinePresence⟩
      · exact ⟨Acts.refl _, Calm.refl _⟩
    have hsocket : u.client.m_socket = t.client.m_socket := hpublished.2.m_socket
    have hgoodbye : t.stopTimers.sayGoodbye json = u.sendDisconnect := by
      rw [hu]
      exact if_pos hready
    rw [hgoodbye, if_pos]
    · refine hpublished.1.trans (acts_farewell ?_ ?_)
      · rw [hpublished.2.m_state]
        exact hready
      · rw [hsocket]
        exact hlive
    · have hopen := QSslSocket.state_ne_of_isOpen hlive.1
      rw [← hsocket] at hopen
      exact hopen
  · have hstay : t.stopTimers.sayGoodbye json = t.stopTimers := if_neg hready
    rw [hstay]
    split_ifs
    · exact acts_disconnectFromHost
    · exact Acts.refl _

/-- **One event.** -/
lemma acts_react {e : MqttEvent} (hlinked : Linked t.client)
    (hpermits : Permits early dials t.client e) :
    Acts json io early dials t (t.react json io e) := by
  cases e with
  | connectToBroker host port => exact acts_connectToBroker hpermits
  | disconnectFromBroker => exact acts_disconnectFromBroker hlinked
  | publishOnlinePresence device => exact acts_publishOnlinePresence hpermits
  | publishOfflinePresence deviceId => exact acts_publishOfflinePresence hpermits
  | broadcastDiscoveryRequest deviceId => exact acts_broadcastDiscoveryRequest hpermits
  | socketConnected =>
      rw [react]
      split_ifs with hstate
      · exact Acts.trans (acts_silent (.established hstate)) acts_disconnectFromHost
      · exact acts_silent (.established hstate)
      · exact Acts.refl t
  | socketEncrypted =>
      rw [react]
      split_ifs with hstate
      · obtain ⟨notes, hnotes, hset⟩ := setState_eq
          (t.setSocket { t.client.m_socket with encrypted := true }) .Connected
        have hplain : t.client.m_socket.encrypted = false := by simpa using hstate.2
        rw [onSocketEncrypted, hset]
        exact (acts_notes hnotes).trans (acts_single (.greet hstate.1 hplain))
      · exact Acts.refl t
  | readyRead data =>
      rw [react]
      split_ifs with hstate
      · rw [Bool.and_eq_true] at hstate
        exact Acts.trans (acts_silent (.buffer _)) (acts_processLoop hstate)
      · exact Acts.refl t
  | socketError errorMsg => exact acts_log trivial
  | connectionFailed errorMsg =>
      rw [react]
      split_ifs with hstate
      · exact Acts.trans (acts_silent (.failed (QSslSocket.isOpen_of_isConnecting hstate)))
          (acts_log trivial)
      · exact Acts.refl t
  | sslErrors =>
      rw [react]
      split_ifs with hstate
      · exact acts_abort.trans (acts_log trivial)
      · exact Acts.refl t
  | socketDisconnected =>
      rw [react]
      split_ifs with hopen
      · exact acts_closed hopen
      · exact Acts.refl t
  | pingTimer =>
      rw [react, onPingTimer]
      split_ifs with hactive hready
      · exact acts_single (.ping hready (hlinked hready))
      · exact Acts.refl t
      · exact Acts.refl t
  | pingTimeout =>
      rw [react]
      split_ifs
      · have hexpired : Acts json io early dials t (t.setPing false t.client.m_pingOutstanding) :=
          acts_silent .expire
        rw [onPingTimeout]
        split_ifs
        · exact hexpired.trans acts_abort
        · exact hexpired
      · exact Acts.refl t
  | reconnectTimer =>
      rw [react]
      split_ifs with hactive
      · have hattempt : Acts json io early dials t (t.setReconnectTimer none) :=
          acts_silent .attempt
        rw [onReconnectTimer]
        split_ifs
        · exact hattempt
        · exact hattempt.trans (acts_connectToBroker (hpermits hactive))
      · exact Acts.refl t

end MqttTurn

/-! ### Runs -/

/-- **Invariants, step by step.** -/
theorem run_acts {json : JsonCodec} (early dials : Prop) (ok : MqttIo → Prop)
    {guard : MqttSignalingClient → MqttEvent × MqttIo → Prop}
    {I : List MqttDeed → MqttSignalingClient → Prop} {s₀ s : MqttSignalingClient}
    {es : List (MqttEvent × MqttIo)} {log : List MqttDeed}
    (hrun : Run (MqttSignalingClient.machine json) guard s₀ es log s)
    (hlinked : Linked s₀) (h0 : I [] s₀)
    (hguard : ∀ log s e io, I log s → guard s (e, io) → Permits early dials s e ∧ ok io)
    (hact : ∀ {io log s ds s'}, ok io → Linked s → I log s →
      MqttAct json io early dials s ds s' → I (log ++ ds) s') :
    Linked s ∧ I log s := by
  refine hrun.invariant_trace (I := fun log s => Linked s ∧ I log s) ⟨hlinked, h0⟩ ?_
  rintro log s ⟨e, io⟩ ⟨hlinked, hI⟩ he
  obtain ⟨hpermits, hok⟩ := hguard log s e io hI he
  obtain ⟨ds, hds, hsteps⟩ : Acts json io early dials ⟨s, []⟩ (react json io ⟨s, []⟩ e) :=
    acts_react hlinked hpermits
  rw [List.nil_append] at hds
  refine ⟨MqttAct json io early dials, ?_, ?_⟩
  · rw [← hds] at hsteps
    exact hsteps
  · rintro log s ds s' hstep ⟨hlinked, hI⟩
    exact ⟨hstep.linked hlinked, hact hok hlinked hI hstep⟩

end MeckChat.Network
