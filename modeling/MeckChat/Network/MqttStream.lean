import MeckChat.Network.MqttSignaling

/-!
Reassembly of the packets of the broker (`MqttSignalingClient::processIncomingData`).

* `Emits` says what kind of deeds a part of a call adds, and `Calm` that it leaves the
  client alone, but for the next packet id.
* `processLoop_succ` is one pass of the loop in terms of `lookPacket`, and
  `processIncomingData_spec` the whole call as a drain of `packetScanner`, as long as no
  packet makes its handler abort.
* `feed` appends chunk after chunk, and `mqtt_stream_reassembly` is the result: the packets
  are dispatched in order, however the stream is cut.
-/

namespace MeckChat.Network

open MeckChat.Protocol.Presence QJson StreamDecoder

/-! ### Kinds of deeds -/

namespace MqttDeed

/-- The packet that was handed to a handler. -/
def dispatched? : MqttDeed → Option (UInt8 × Bytes)
  | .dispatched header data => some (header, data)
  | _ => none

/-- The buffer that was given up. -/
def corrupted? : MqttDeed → Option Bytes
  | .corrupted buffer => some buffer
  | _ => none

/-- Neither a packet nor a buffer of the reader. -/
def IsUntraced (d : MqttDeed) : Prop := d.dispatched? = none ∧ d.corrupted? = none

/-- A call of `processReceivedPayload`, or a PUBACK. -/
def isReceipt : MqttDeed → Bool
  | .received _ _ => true
  | .write packet => packet.head? = some PacketType.PUBACK
  | _ => false

/-- A deed of a handler that is no receipt. -/
def IsPlain (d : MqttDeed) : Prop := d.IsUntraced ∧ d.isReceipt = false

end MqttDeed

/-- The packets that were handed to handlers, in order. -/
def dispatches (deeds : List MqttDeed) : List (UInt8 × Bytes) :=
  deeds.filterMap MqttDeed.dispatched?

/-- The buffers that were given up. -/
def corruptions (deeds : List MqttDeed) : List Bytes := deeds.filterMap MqttDeed.corrupted?

namespace MqttTurn

/-- What was done since is of one kind. -/
def Emits (P : MqttDeed → Prop) (t t' : MqttTurn) : Prop :=
  ∃ ds, t'.deeds = t.deeds ++ ds ∧ ∀ d ∈ ds, P d

/-- The client is as it was, but for the next packet id. -/
def Calm (t t' : MqttTurn) : Prop :=
  t'.client = { t.client with m_nextPacketId := t'.client.m_nextPacketId }

variable {P Q : MqttDeed → Prop} {t t' t'' : MqttTurn} {json : JsonCodec} {io : MqttIo}

lemma Emits.refl (t : MqttTurn) : Emits P t t := ⟨[], (List.append_nil _).symm, nofun⟩

lemma Emits.trans (h : Emits P t t') (h' : Emits P t' t'') : Emits P t t'' := by
  obtain ⟨ds, hds, hP⟩ := h
  obtain ⟨ds', hds', hP'⟩ := h'
  refine ⟨ds ++ ds', by rw [hds', hds, List.append_assoc], fun d hd => ?_⟩
  rcases List.mem_append.mp hd with hd | hd
  · exact hP d hd
  · exact hP' d hd

lemma Emits.mono (h : Emits P t t') (hPQ : ∀ d, P d → Q d) : Emits Q t t' := by
  obtain ⟨ds, hds, hP⟩ := h
  exact ⟨ds, hds, fun d hd => hPQ d (hP d hd)⟩

lemma emits_log {d : MqttDeed} (h : P d) : Emits P t (t.log d) :=
  ⟨[d], rfl, fun d' hd' => by rwa [List.mem_singleton.mp hd']⟩

lemma Calm.refl (t : MqttTurn) : Calm t t := rfl

lemma Calm.trans (h : Calm t t') (h' : Calm t' t'') : Calm t t'' := by
  rw [Calm] at h h' ⊢
  rw [h', h]

lemma calm_log (d : MqttDeed) : Calm t (t.log d) := rfl

lemma Emits.dispatches_eq (h : Emits MqttDeed.IsUntraced t t') :
    dispatches t'.deeds = dispatches t.deeds ∧ corruptions t'.deeds = corruptions t.deeds := by
  obtain ⟨ds, hds, hP⟩ := h
  have hnone : ds.filterMap MqttDeed.dispatched? = [] :=
    List.filterMap_eq_nil_iff.mpr fun d hd => (hP d hd).1
  have hnone' : ds.filterMap MqttDeed.corrupted? = [] :=
    List.filterMap_eq_nil_iff.mpr fun d hd => (hP d hd).2
  rw [hds, dispatches, corruptions, List.filterMap_append, List.filterMap_append, hnone, hnone',
    List.append_nil, List.append_nil]
  exact ⟨rfl, rfl⟩

/-! ### What the calls emit -/

lemma plain_stateChanged (state : MqttState) : (MqttDeed.stateChanged state).IsPlain :=
  ⟨⟨rfl, rfl⟩, rfl⟩

lemma emits_setState (state : MqttState) : Emits MqttDeed.IsPlain t (t.setState state) := by
  rw [setState]
  split_ifs
  · exact ⟨_, rfl, fun d hd => by rw [List.mem_singleton.mp hd]; exact plain_stateChanged state⟩
  · exact Emits.refl t

/-- A write of a packet that is no PUBACK. -/
lemma emits_write {header : UInt8} {body : Bytes} (h : header ≠ PacketType.PUBACK) :
    Emits MqttDeed.IsPlain t (t.write (controlPacket header body)) := by
  refine emits_log ⟨⟨rfl, rfl⟩, ?_⟩
  rw [MqttDeed.isReceipt, controlPacket, List.head?_cons, decide_eq_false_iff_not, Option.some_inj]
  exact h

lemma emits_nextPacketId : Emits P t t.nextPacketId.1 := Emits.refl t

lemma calm_nextPacketId : Calm t t.nextPacketId.1 := rfl

lemma emits_sendSubscribe {topics : List (String × UInt8)} :
    Emits MqttDeed.IsPlain t (t.sendSubscribe topics) := by
  rw [sendSubscribe]
  split_ifs
  · exact Emits.refl t
  · exact emits_nextPacketId.trans (emits_write (by decide))

lemma calm_sendSubscribe {topics : List (String × UInt8)} : Calm t (t.sendSubscribe topics) := by
  rw [sendSubscribe]
  split_ifs
  · exact Calm.refl t
  · exact calm_nextPacketId.trans (calm_log _)

lemma publishHeader_ne_puback (qos : UInt8) (retain : Bool) :
    publishHeader qos retain ≠ PacketType.PUBACK := by
  have hall := forall_byte (p := fun qos => ∀ retain, publishHeader qos retain ≠ PacketType.PUBACK)
    (by decide +kernel) qos
  exact hall retain

lemma emits_sendPublish {topic : String} {payload : Bytes} {qos : UInt8} {retain : Bool} :
    Emits MqttDeed.IsPlain t (t.sendPublish topic payload qos retain) := by
  rw [sendPublish]
  split_ifs
  · exact Emits.refl t
  · exact emits_nextPacketId.trans (emits_write (publishHeader_ne_puback _ _))
  · exact emits_write (publishHeader_ne_puback _ _)

lemma calm_sendPublish {topic : String} {payload : Bytes} {qos : UInt8} {retain : Bool} :
    Calm t (t.sendPublish topic payload qos retain) := by
  rw [sendPublish]
  split_ifs
  · exact Calm.refl t
  · exact calm_nextPacketId.trans (calm_log _)
  · exact calm_log _

lemma emits_publishOnlinePresence {device : Protocol.Presence.Device} :
    Emits MqttDeed.IsPlain t (t.publishOnlinePresence json io device) := by
  rw [publishOnlinePresence]
  split_ifs
  · exact Emits.refl t
  · exact emits_sendPublish

lemma calm_publishOnlinePresence {device : Protocol.Presence.Device} :
    Calm t (t.publishOnlinePresence json io device) := by
  rw [publishOnlinePresence]
  split_ifs
  · exact Calm.refl t
  · exact calm_sendPublish

lemma emits_publishOfflinePresence {deviceId : String} :
    Emits MqttDeed.IsPlain t (t.publishOfflinePresence json deviceId) := by
  rw [publishOfflinePresence]
  split_ifs
  · exact Emits.refl t
  · exact emits_sendPublish

lemma calm_publishOfflinePresence {deviceId : String} :
    Calm t (t.publishOfflinePresence json deviceId) := by
  rw [publishOfflinePresence]
  split_ifs
  · exact Calm.refl t
  · exact calm_sendPublish

lemma emits_broadcastDiscoveryRequest {deviceId : String} :
    Emits MqttDeed.IsPlain t (t.broadcastDiscoveryRequest json io deviceId) := by
  rw [broadcastDiscoveryRequest]
  split_ifs
  · exact Emits.refl t
  · exact emits_sendPublish

lemma calm_broadcastDiscoveryRequest {deviceId : String} :
    Calm t (t.broadcastDiscoveryRequest json io deviceId) := by
  rw [broadcastDiscoveryRequest]
  split_ifs
  · exact Calm.refl t
  · exact calm_sendPublish

/-- **What is made of a payload**: nothing, one signal, or a signal and an answer. -/
lemma processReceivedPayload_cases (t : MqttTurn) (json : JsonCodec) (io : MqttIo)
    (topic : String) (payload : Bytes) :
    t.processReceivedPayload json io topic payload = t.log (.received topic payload) ∨
      (∃ device, t.processReceivedPayload json io topic payload =
        (t.log (.received topic payload)).log (.deviceDiscovered device)) ∨
      (∃ deviceId, t.processReceivedPayload json io topic payload =
        (t.log (.received topic payload)).log (.deviceLeft deviceId)) ∨
      ∃ deviceId device, t.processReceivedPayload json io topic payload =
        ((t.log (.received topic payload)).log (.discoveryRequested deviceId)).publishOnlinePresence
          json io device := by
  rw [processReceivedPayload]
  dsimp only
  generalize t.log (.received topic payload) = t
  split
  · split
    · exact Or.inl rfl
    · split
      · exact Or.inl rfl
      · split
        · split
          · split
            · exact Or.inr (Or.inl ⟨_, rfl⟩)
            · exact Or.inl rfl
          · exact Or.inl rfl
        · split
          · exact Or.inr (Or.inr (Or.inl ⟨_, rfl⟩))
          · split
            · split
              · split
                · exact Or.inr (Or.inr (Or.inr ⟨_, _, rfl⟩))
                · exact Or.inl rfl
              · exact Or.inl rfl
            · exact Or.inl rfl
  · exact Or.inl rfl

/-- A payload is logged, and what is made of it is plain. -/
lemma emits_processReceivedPayload (topic : String) (payload : Bytes) :
    Emits MqttDeed.IsPlain (t.log (.received topic payload))
      (t.processReceivedPayload json io topic payload) := by
  rcases processReceivedPayload_cases t json io topic payload with
    h | ⟨_, h⟩ | ⟨_, h⟩ | ⟨_, _, h⟩
  · rw [h]
    exact Emits.refl _
  · rw [h]
    exact emits_log ⟨⟨rfl, rfl⟩, rfl⟩
  · rw [h]
    exact emits_log ⟨⟨rfl, rfl⟩, rfl⟩
  · rw [h]
    exact (emits_log ⟨⟨rfl, rfl⟩, rfl⟩).trans emits_publishOnlinePresence

lemma calm_processReceivedPayload (topic : String) (payload : Bytes) :
    Calm t (t.processReceivedPayload json io topic payload) := by
  rcases processReceivedPayload_cases t json io topic payload with
    h | ⟨_, h⟩ | ⟨_, h⟩ | ⟨_, _, h⟩
  · rw [h]
    exact calm_log _
  · rw [h]
    exact (calm_log _).trans (calm_log _)
  · rw [h]
    exact (calm_log _).trans (calm_log _)
  · rw [h]
    exact ((calm_log _).trans (calm_log _)).trans calm_publishOnlinePresence

lemma untraced_of_plain (d : MqttDeed) (h : d.IsPlain) : d.IsUntraced := h.1

lemma emits_handlePublish {header : UInt8} {data : Bytes} :
    Emits MqttDeed.IsUntraced t (t.handlePublish json io header data) := by
  have hpayload : ∀ (t : MqttTurn) topic payload, Emits MqttDeed.IsUntraced t
      (if payload.length > MAX_SIGNALING_PAYLOAD_SIZE then t
      else t.processReceivedPayload json io topic payload) := by
    intro t topic payload
    split_ifs
    · exact Emits.refl t
    · exact (emits_log ⟨rfl, rfl⟩).trans
        ((emits_processReceivedPayload topic payload).mono untraced_of_plain)
  rw [handlePublish]
  dsimp only
  split
  · exact Emits.refl t
  · split
    · split
      · exact Emits.refl t
      · exact (emits_log ⟨rfl, rfl⟩).trans (hpayload _ _ _)
    · exact hpayload _ _ _

lemma calm_handlePublish {header : UInt8} {data : Bytes} :
    Calm t (t.handlePublish json io header data) := by
  have hpayload : ∀ (t : MqttTurn) topic payload, Calm t
      (if payload.length > MAX_SIGNALING_PAYLOAD_SIZE then t
      else t.processReceivedPayload json io topic payload) := by
    intro t topic payload
    split_ifs
    · exact Calm.refl t
    · exact calm_processReceivedPayload topic payload
  rw [handlePublish]
  dsimp only
  split
  · exact Calm.refl t
  · split
    · split
      · exact Calm.refl t
      · exact (calm_log _).trans (hpayload _ _ _)
    · exact hpayload _ _ _

lemma emits_onSocketDisconnected : Emits MqttDeed.IsPlain t (t.onSocketDisconnected io) := by
  have hschedule : ∀ t : MqttTurn, Emits MqttDeed.IsPlain t (t.scheduleReconnect io) := by
    intro t
    rw [scheduleReconnect]
    split_ifs <;> exact Emits.refl t
  obtain ⟨u, hu⟩ : ∃ u, u = ((t.setPingTimer false).setPing false false).setBuffer [] := ⟨_, rfl⟩
  have hstart : Emits MqttDeed.IsPlain t u := by
    rw [hu]
    exact Emits.refl t
  have hlogged : Emits MqttDeed.IsPlain t ((u.setState .Disconnected).log .disconnected) :=
    (hstart.trans (emits_setState _)).trans (emits_log ⟨⟨rfl, rfl⟩, rfl⟩)
  rw [onSocketDisconnected, ← hu]
  split_ifs
  · exact hlogged.trans (hschedule _)
  · exact hlogged

lemma emits_abort : Emits MqttDeed.IsPlain t (t.abort io) := by
  rw [abort, closed]
  split
  · exact (Emits.refl t).trans emits_onSocketDisconnected
  · exact (Emits.refl t).trans emits_onSocketDisconnected
  · exact Emits.refl t

lemma emits_handleConnack {data : Bytes} :
    Emits MqttDeed.IsPlain t (t.handleConnack io data) := by
  match data with
  | [] => exact emits_abort
  | [_] => exact emits_abort
  | _ :: returnCode :: _ =>
      rw [handleConnack]
      split_ifs
      · exact emits_abort.trans (emits_log ⟨⟨rfl, rfl⟩, rfl⟩)
      · exact (emits_setState _).trans (emits_sendSubscribe.trans (Emits.refl _))

lemma emits_handleSuback {data : Bytes} :
    Emits MqttDeed.IsPlain t (t.handleSuback json io data) := by
  rw [handleSuback]
  split_ifs
  · exact Emits.refl t
  · have hreset : ∀ t : MqttTurn, Emits MqttDeed.IsPlain t t.resetReconnect := Emits.refl
    exact ((emits_setState _).trans ((hreset _).trans (emits_log ⟨⟨rfl, rfl⟩, rfl⟩))).trans
      emits_publishOnlinePresence

/-- A dispatch is logged, and its handler leaves no trace of the reader. -/
lemma emits_dispatch {header : UInt8} {data : Bytes} :
    Emits MqttDeed.IsUntraced (t.log (.dispatched header data))
      (t.dispatch json io header data) := by
  rw [dispatch]
  split_ifs
  · exact emits_handleConnack.mono untraced_of_plain
  · exact emits_handlePublish
  · exact Emits.refl _
  · exact emits_handleSuback.mono untraced_of_plain
  · exact Emits.refl _
  · exact Emits.refl _

/-- A dispatch adds its packet to the trace. -/
lemma traces_dispatch (json : JsonCodec) (io : MqttIo) (t : MqttTurn) (header : UInt8)
    (data : Bytes) :
    dispatches (t.dispatch json io header data).deeds = dispatches t.deeds ++ [(header, data)] ∧
      corruptions (t.dispatch json io header data).deeds = corruptions t.deeds := by
  have hemits : Emits MqttDeed.IsUntraced (t.log (.dispatched header data))
      (t.dispatch json io header data) := emits_dispatch
  rw [hemits.dispatches_eq.1, hemits.dispatches_eq.2, dispatches, corruptions, log,
    List.filterMap_append, List.filterMap_append]
  exact ⟨rfl, List.append_nil _⟩

/-! ### Packets that leave the buffer alone -/

/-- A packet at which `handleConnack` aborts the socket. -/
def Aborts (p : UInt8 × Bytes) : Prop :=
  p.1 &&& 0xF0 = PacketType.CONNACK ∧ p.2[1]? ≠ some 0

lemma buffer_setState (state : MqttState) :
    (t.setState state).client.m_receiveBuffer = t.client.m_receiveBuffer := by
  rw [setState]
  split_ifs <;> rfl

lemma Calm.buffer (h : Calm t t') : t'.client.m_receiveBuffer = t.client.m_receiveBuffer := by
  rw [Calm] at h
  rw [h]

lemma buffer_dispatch {header : UInt8} {data : Bytes} (h : ¬ Aborts (header, data)) :
    (t.dispatch json io header data).client.m_receiveBuffer = t.client.m_receiveBuffer := by
  rw [dispatch]
  split_ifs with hconnack
  · have hcode : data[1]? = some 0 := not_not.mp fun hcode => h ⟨hconnack, hcode⟩
    match data, hcode with
    | first :: returnCode :: rest, hcode =>
        have hzero : returnCode = 0 := by simpa using hcode
        rw [handleConnack, if_neg (not_not.mpr hzero)]
        exact calm_sendSubscribe.buffer.trans (buffer_setState _)
  · exact calm_handlePublish.buffer
  · rfl
  · rw [handleSuback]
    split_ifs
    · rfl
    · exact calm_publishOnlinePresence.buffer.trans (buffer_setState _)
  · rfl
  · rfl

/-! ### The loop -/

/-- **One pass of the loop.** -/
lemma processLoop_succ (fuel : ℕ) :
    t.processLoop json io (fuel + 1) =
      match lookPacket t.client.m_receiveBuffer with
      | .wait => t
      | .flush => (t.log (.corrupted t.client.m_receiveBuffer)).abort io
      | .drop n (some (header, data)) =>
          processLoop json io fuel
            ((t.setBuffer (t.client.m_receiveBuffer.drop n)).dispatch json io header data)
      | .drop _ none => t := by
  rw [processLoop, lookPacket]
  dsimp only
  by_cases hshort : t.client.m_receiveBuffer.length < 2
  · rw [if_pos hshort, if_pos hshort]
  · rw [if_neg hshort, if_neg hshort]
    cases decodeVariableLength t.client.m_receiveBuffer 1 with
    | none =>
        dsimp only
        split_ifs <;> rfl
    | some r =>
        dsimp only
        split_ifs <;> rfl

lemma buffer_onSocketDisconnected : (t.onSocketDisconnected io).client.m_receiveBuffer = [] := by
  have hschedule : ∀ t : MqttTurn,
      (t.scheduleReconnect io).client.m_receiveBuffer = t.client.m_receiveBuffer := by
    intro t
    rw [scheduleReconnect]
    split_ifs <;> rfl
  have hstate := buffer_setState (t := ((t.setPingTimer false).setPing false false).setBuffer [])
    .Disconnected
  rw [onSocketDisconnected]
  split_ifs
  · exact (hschedule _).trans hstate
  · exact hstate

lemma buffer_abort_le :
    (t.abort io).client.m_receiveBuffer.length ≤ t.client.m_receiveBuffer.length := by
  rw [abort, closed]
  split
  · rw [buffer_onSocketDisconnected]
    exact Nat.zero_le _
  · rw [buffer_onSocketDisconnected]
    exact Nat.zero_le _
  · exact le_rfl

/-- No handler makes the buffer longer. -/
lemma buffer_dispatch_le {header : UInt8} {data : Bytes} :
    (t.dispatch json io header data).client.m_receiveBuffer.length ≤
      t.client.m_receiveBuffer.length := by
  by_cases haborts : Aborts (header, data)
  · obtain ⟨hconnack, hcode⟩ := haborts
    dsimp only at hconnack hcode
    rw [dispatch, if_pos hconnack]
    match data, hcode with
    | [], _ => exact buffer_abort_le
    | [_], _ => exact buffer_abort_le
    | _ :: returnCode :: _, hcode =>
        have hne : returnCode ≠ 0 := by simpa using hcode
        rw [handleConnack, if_pos hne]
        exact buffer_abort_le
  · rw [buffer_dispatch haborts]

/-- What a pass that takes a packet found in front of the buffer. -/
lemma exists_packet {b : Bytes} {n : ℕ} {item : Option (UInt8 × Bytes)}
    (h : lookPacket b = .drop n item) :
    0 < n ∧ n ≤ b.length ∧ ∃ header data, item = some (header, data) := by
  obtain ⟨_, _, _, _, hn, hle, hitem⟩ := lookPacket_drop h
  exact ⟨by omega, hle, _, _, hitem⟩

lemma processLoop_nil (fuel : ℕ) (h : t.client.m_receiveBuffer = []) :
    t.processLoop json io fuel = t := by
  cases fuel with
  | zero => rfl
  | succ fuel =>
      rw [processLoop, h]
      rfl

/-- **The loop ends**: more fuel than there are bytes changes nothing. -/
lemma processLoop_fuel {fuel fuel' : ℕ} (hfuel : t.client.m_receiveBuffer.length ≤ fuel)
    (hfuel' : t.client.m_receiveBuffer.length ≤ fuel') :
    t.processLoop json io fuel = t.processLoop json io fuel' := by
  induction fuel generalizing fuel' t with
  | zero =>
      have hnil := List.length_eq_zero_iff.mp (Nat.le_zero.mp hfuel)
      rw [processLoop_nil 0 hnil, processLoop_nil fuel' hnil]
  | succ fuel ih =>
      cases fuel' with
      | zero =>
          have hnil := List.length_eq_zero_iff.mp (Nat.le_zero.mp hfuel')
          rw [processLoop_nil 0 hnil, processLoop_nil (fuel + 1) hnil]
      | succ fuel' =>
          rw [processLoop_succ, processLoop_succ]
          cases hlook : lookPacket t.client.m_receiveBuffer with
          | wait => rfl
          | flush => rfl
          | drop n item =>
              obtain ⟨hpos, hle, header, data, rfl⟩ := exists_packet hlook
              have hbuffer : (dispatch json io header data
                  (t.setBuffer (t.client.m_receiveBuffer.drop n))).client.m_receiveBuffer.length ≤
                    t.client.m_receiveBuffer.length - n := by
                refine buffer_dispatch_le.trans ?_
                rw [setBuffer, List.length_drop]
              exact ih (by omega) (by omega)

/-- **The call as a drain**, as long as no packet makes its handler abort. -/
lemma processLoop_spec (json : JsonCodec) (io : MqttIo) {fuel : ℕ}
    (hfuel : t.client.m_receiveBuffer.length ≤ fuel)
    (hharmless : ∀ p ∈ (packetScanner.drain t.client.m_receiveBuffer).items, ¬ Aborts p)
    (hflush : (packetScanner.drain t.client.m_receiveBuffer).flushed = false) :
    dispatches (t.processLoop json io fuel).deeds =
        dispatches t.deeds ++ (packetScanner.drain t.client.m_receiveBuffer).items ∧
      corruptions (t.processLoop json io fuel).deeds = corruptions t.deeds ∧
      (t.processLoop json io fuel).client.m_receiveBuffer =
        (packetScanner.drain t.client.m_receiveBuffer).rest := by
  induction fuel generalizing t with
  | zero =>
      have hnil : t.client.m_receiveBuffer = [] := List.length_eq_zero_iff.mp (by omega)
      rw [hnil, packetScanner.drain_of_wait rfl]
      exact ⟨(List.append_nil _).symm, rfl, hnil⟩
  | succ fuel ih =>
      rw [processLoop_succ]
      cases hlook : lookPacket t.client.m_receiveBuffer with
      | wait =>
          rw [packetScanner.drain_of_wait hlook]
          exact ⟨(List.append_nil _).symm, rfl, rfl⟩
      | flush =>
          rw [packetScanner.drain_of_flush hlook] at hflush
          cases hflush
      | drop n item =>
          obtain ⟨hpos, hle, header, data, rfl⟩ := exists_packet hlook
          rw [packetScanner.drain_of_drop hlook] at hharmless hflush ⊢
          dsimp only
          have hhere : ¬ Aborts (header, data) := hharmless _ (List.mem_append_left _
            (List.mem_singleton_self _))
          obtain ⟨u, hu⟩ : ∃ u, u = t.setBuffer (t.client.m_receiveBuffer.drop n) := ⟨_, rfl⟩
          have hbuffer : (u.dispatch json io header data).client.m_receiveBuffer =
              t.client.m_receiveBuffer.drop n := by
            rw [buffer_dispatch hhere, hu]
            rfl
          obtain ⟨hdispatches, hcorruptions⟩ := traces_dispatch json io u header data
          rw [← hu]
          obtain ⟨h₁, h₂, h₃⟩ := ih (t := u.dispatch json io header data)
            (by rw [hbuffer, List.length_drop]; omega)
            (by rw [hbuffer]; exact fun p hp => hharmless p (List.mem_append_right _ hp))
            (by rw [hbuffer]; exact hflush)
          rw [hbuffer] at h₁ h₃
          refine ⟨?_, ?_, h₃⟩
          · rw [h₁, hdispatches, hu, List.append_assoc]
            rfl
          · rw [h₂, hcorruptions, hu]
            rfl

/-- A buffer is given up only where the scanner gives it up. -/
lemma corruptions_processLoop {fuel : ℕ} :
    ∀ b ∈ corruptions (t.processLoop json io fuel).deeds,
      b ∈ corruptions t.deeds ∨ lookPacket b = .flush := by
  induction fuel generalizing t with
  | zero => exact fun b hb => Or.inl hb
  | succ fuel ih =>
      rw [processLoop_succ]
      cases hlook : lookPacket t.client.m_receiveBuffer with
      | wait => exact fun b hb => Or.inl hb
      | flush =>
          intro b hb
          dsimp only at hb
          rw [(emits_abort.mono untraced_of_plain).dispatches_eq.2] at hb
          simp only [corruptions, log, List.filterMap_append, List.mem_append] at hb
          rcases hb with hb | hb
          · exact Or.inl hb
          · have heq : b = t.client.m_receiveBuffer := by
              simpa [MqttDeed.corrupted?] using hb
            exact Or.inr (heq ▸ hlook)
      | drop n item =>
          obtain ⟨_, _, header, data, rfl⟩ := exists_packet hlook
          intro b hb
          rcases ih b hb with hb | hb
          · rw [(traces_dispatch json io _ header data).2] at hb
            exact Or.inl hb
          · exact Or.inr hb

/-! ### Feeding chunks -/

/-- The chunks arrive one after the other, and the reader is called after each. -/
def feed (json : JsonCodec) (t : MqttTurn) (chunks : List (MqttIo × Bytes)) : MqttTurn :=
  chunks.foldl (fun t c => t.onSocketReadyRead json c.1 c.2) t

/-- The bytes of the chunks. -/
def bytesOf (chunks : List (MqttIo × Bytes)) : Bytes := (chunks.map Prod.snd).flatten

/-- **Feeding is draining** what the chunks make up, once no prefix of it is given up and
no packet makes its handler abort. -/
lemma feed_spec (json : JsonCodec) (chunks : List (MqttIo × Bytes))
    (hwait : lookPacket t.client.m_receiveBuffer = .wait)
    (hflush : ∀ q, q <+: bytesOf chunks →
      (packetScanner.drain (t.client.m_receiveBuffer ++ q)).flushed = false)
    (hharmless : ∀ p ∈ (packetScanner.drain (t.client.m_receiveBuffer ++ bytesOf chunks)).items,
      ¬ Aborts p) :
    dispatches (t.feed json chunks).deeds = dispatches t.deeds ++
        (packetScanner.drain (t.client.m_receiveBuffer ++ bytesOf chunks)).items ∧
      corruptions (t.feed json chunks).deeds = corruptions t.deeds ∧
      (t.feed json chunks).client.m_receiveBuffer =
        (packetScanner.drain (t.client.m_receiveBuffer ++ bytesOf chunks)).rest := by
  induction chunks generalizing t with
  | nil =>
      have hnil : t.client.m_receiveBuffer ++ bytesOf [] = t.client.m_receiveBuffer :=
        List.append_nil _
      rw [hnil, packetScanner.drain_of_wait hwait]
      exact ⟨(List.append_nil _).symm, rfl, rfl⟩
  | cons c chunks ih =>
      have hcons : bytesOf (c :: chunks) = c.2 ++ bytesOf chunks := rfl
      obtain ⟨b, hb⟩ : ∃ b, b = t.client.m_receiveBuffer ++ c.2 := ⟨_, rfl⟩
      have hchunk : (packetScanner.drain b).flushed = false := by
        rw [hb]
        exact hflush c.2 (by rw [hcons]; exact List.prefix_append _ _)
      rw [hcons, ← List.append_assoc, ← hb, packetScanner.drain_append hchunk] at hharmless ⊢
      dsimp only at hharmless ⊢
      obtain ⟨h₁, h₂, h₃⟩ := processLoop_spec (t := t.setBuffer b) json c.1
        le_rfl (fun p hp => hharmless p (List.mem_append_left _ hp)) hchunk
      obtain ⟨u, hu⟩ : ∃ u, u = t.onSocketReadyRead json c.1 c.2 := ⟨_, rfl⟩
      have hu' : (t.setBuffer b).processLoop json c.1 b.length = u := by
        rw [hu, hb]
        rfl
      have hlength : (t.setBuffer b).client.m_receiveBuffer.length = b.length := rfl
      rw [hlength, hu'] at h₁ h₂ h₃
      have hrest : u.client.m_receiveBuffer = (packetScanner.drain b).rest := h₃
      have hfeed : t.feed json (c :: chunks) = u.feed json chunks := by
        rw [hu]
        rfl
      obtain ⟨k₁, k₂, k₃⟩ := ih (t := u)
        (by rw [hrest]; exact packetScanner.look_rest hchunk)
        (by
          intro q hq
          have hpre := hflush (c.2 ++ q) (by
            rw [hcons]
            exact (List.prefix_append_right_inj _).mpr hq)
          rw [← List.append_assoc, ← hb, packetScanner.drain_append hchunk] at hpre
          rw [hrest]
          exact hpre)
        (by
          rw [hrest]
          exact fun p hp => hharmless p (List.mem_append_right _ hp))
      rw [hrest] at k₁ k₃
      rw [hfeed]
      refine ⟨?_, k₂.trans h₂, k₃⟩
      rw [k₁, h₁, List.append_assoc]
      rfl

/-- The bytes of a list of packets. -/
def packetBytes (ps : List (UInt8 × Bytes)) : Bytes :=
  (ps.map fun p => controlPacket p.1 p.2).flatten

/-- The packet that the scanner takes from a text of one. -/
def packetOf (b : Bytes) : Option (UInt8 × Bytes) :=
  match lookPacket b with
  | .drop _ item => item
  | _ => none

lemma packetOf_controlPacket {p : UInt8 × Bytes} (hp : p.2.length < 2 ^ 28) :
    packetOf (controlPacket p.1 p.2) = some p := by
  have hwhole : lookPacket (controlPacket p.1 p.2) = _ := (isPacket_controlPacket p.1 hp).whole
  rw [packetOf, hwhole]

variable {ps : List (UInt8 × Bytes)}

lemma isPacket_of_mem (hps : ∀ p ∈ ps, p.2.length < 2 ^ 28) :
    ∀ b ∈ ps.map fun p => controlPacket p.1 p.2, packetScanner.IsPacket b (packetOf b) := by
  intro b hb
  obtain ⟨p, hp, rfl⟩ := List.mem_map.mp hb
  rw [packetOf_controlPacket (hps p hp)]
  exact isPacket_controlPacket p.1 (hps p hp)

lemma drain_packetBytes (hps : ∀ p ∈ ps, p.2.length < 2 ^ 28) :
    packetScanner.drain (packetBytes ps) = ⟨ps, [], false⟩ := by
  have hitems : (ps.map fun p => controlPacket p.1 p.2).filterMap packetOf = ps := by
    rw [List.filterMap_map, List.filterMap_congr (g := some)]
    · exact List.filterMap_some
    · exact fun p hp => packetOf_controlPacket (hps p hp)
  have hdrain := Scanner.drain_packets rfl (isPacket_of_mem hps)
  rwa [hitems] at hdrain

/-- Chunks that make up a prefix of a stream of packets are never given up, and the whole
stream is dispatched. -/
lemma feed_stream (json : JsonCodec) {chunks : List (MqttIo × Bytes)}
    (hempty : t.client.m_receiveBuffer = []) (hps : ∀ p ∈ ps, p.2.length < 2 ^ 28)
    (hharmless : ∀ p ∈ ps, ¬ Aborts p) (hpre : bytesOf chunks <+: packetBytes ps) :
    corruptions (t.feed json chunks).deeds = corruptions t.deeds ∧
      (bytesOf chunks = packetBytes ps →
        dispatches (t.feed json chunks).deeds = dispatches t.deeds ++ ps ∧
        (t.feed json chunks).client.m_receiveBuffer = []) := by
  have hflush : ∀ q, q <+: packetBytes ps → (packetScanner.drain q).flushed = false :=
    fun q hq => Scanner.flushed_of_prefix_packets rfl (isPacket_of_mem hps) hq
  -- what a prefix of the stream yields is a part of the packets
  have hitems : ∀ p ∈ (packetScanner.drain (bytesOf chunks)).items, p ∈ ps := by
    obtain ⟨rest, hrest⟩ := hpre
    have hdrain := drain_packetBytes hps
    rw [← hrest, packetScanner.drain_append (hflush _ ⟨rest, hrest⟩)] at hdrain
    have hitems : (packetScanner.drain (bytesOf chunks)).items ++
        (packetScanner.drain ((packetScanner.drain (bytesOf chunks)).rest ++ rest)).items = ps :=
      congrArg Drained.items hdrain
    intro p hp
    rw [← hitems]
    exact List.mem_append_left _ hp
  obtain ⟨h₁, h₂, h₃⟩ := feed_spec (t := t) json chunks
    (by rw [hempty]; rfl)
    (fun q hq => by
      rw [hempty]
      exact hflush q (hq.trans hpre))
    (by
      rw [hempty]
      exact fun p hp => hharmless p (hitems p hp))
  refine ⟨h₂, fun hwhole => ?_⟩
  rw [hempty, List.nil_append, hwhole, drain_packetBytes hps] at h₁ h₃
  exact ⟨h₁, h₃⟩

/-- **Reassembly.** Chunks that make up a prefix of a stream of packets are never given up;
if they make up the whole stream, exactly its packets are dispatched, in order, and the
buffer is empty in the end. The loop ends on every buffer, and gives one up only where it
is a header with four bytes that have the continuation bit, and more. -/
theorem mqtt_stream_reassembly (json : JsonCodec) :
    (∀ (t : MqttTurn) (ps : List (UInt8 × Bytes)) (chunks : List (MqttIo × Bytes)),
      t.client.m_receiveBuffer = [] → (∀ p ∈ ps, p.2.length < 2 ^ 28) → (∀ p ∈ ps, ¬ Aborts p) →
      bytesOf chunks <+: packetBytes ps →
        corruptions (t.feed json chunks).deeds = corruptions t.deeds ∧
        (bytesOf chunks = packetBytes ps →
          dispatches (t.feed json chunks).deeds = dispatches t.deeds ++ ps ∧
          (t.feed json chunks).client.m_receiveBuffer = [])) ∧
    ∀ (t : MqttTurn) (io : MqttIo),
      (∀ fuel, t.client.m_receiveBuffer.length ≤ fuel →
        t.processLoop json io fuel = t.processIncomingData json io) ∧
      ∀ b ∈ corruptions (t.processIncomingData json io).deeds, b ∈ corruptions t.deeds ∨
        ∃ header b₁ b₂ b₃ b₄ b₅ rest,
          b = header :: b₁ :: b₂ :: b₃ :: b₄ :: b₅ :: rest ∧
          128 ≤ b₁.toNat ∧ 128 ≤ b₂.toNat ∧ 128 ≤ b₃.toNat ∧ 128 ≤ b₄.toNat := by
  constructor
  · exact fun t ps chunks hempty hps hharmless hpre =>
      feed_stream json hempty hps hharmless hpre
  · intro t io
    refine ⟨fun fuel hfuel => processLoop_fuel hfuel le_rfl, fun b hb => ?_⟩
    rcases corruptions_processLoop b hb with hb | hb
    · exact Or.inl hb
    · exact Or.inr (look_eq_flush_iff.mp hb)

/-- The answer to a PINGREQ and a PUBACK, cut inside of both. -/
theorem mqtt_stream_reassembly_twoPackets :
    dispatches (feed QJson.compact ⟨{ config := { deviceId := "mc_0001" } }, []⟩
        [({}, [0xD0]), ({}, [0x00, 0x40, 0x02, 0x00]), ({}, [0x01])]).deeds =
      [(0xD0, []), (0x40, [0x00, 0x01])] := by
  have hwhole : bytesOf [({}, [0xD0]), ({}, [0x00, 0x40, 0x02, 0x00]), ({}, [0x01])] =
      packetBytes [(0xD0, []), (0x40, [0x00, 0x01])] := by decide
  have hpre : bytesOf [({}, [0xD0]), ({}, [0x00, 0x40, 0x02, 0x00]), ({}, [0x01])] <+:
      packetBytes [(0xD0, []), (0x40, [0x00, 0x01])] := by
    rw [hwhole]
  have h := (mqtt_stream_reassembly QJson.compact).1
    ⟨{ config := { deviceId := "mc_0001" } }, []⟩ [(0xD0, []), (0x40, [0x00, 0x01])]
    [({}, [0xD0]), ({}, [0x00, 0x40, 0x02, 0x00]), ({}, [0x01])] rfl (by simp) (by
      intro p hp
      rcases List.mem_pair.mp hp with rfl | rfl
      · exact fun h => absurd h.1 (by decide)
      · exact fun h => absurd h.1 (by decide)) hpre
  exact (h.2 hwhole).1

end MqttTurn

end MeckChat.Network
