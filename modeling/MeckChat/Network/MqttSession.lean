import MeckChat.Network.MqttStream

/-!
When the client of the broker is ready.

* `MqttSession` is a client with the packets that it has processed on its current TLS
  connection, and `Earned` says of these that there is an accepting CONNACK and a granting
  SUBACK behind it.
* `Answers` is the condition on what the broker sends: a SUBACK follows an accepting
  CONNACK and grants everything.
* `Sound` is the invariant, and `ready_is_earned` the result.
-/

namespace MeckChat.Network

open MqttTurn QJson StreamDecoder

/-! ### Answers of the broker -/

/-- A CONNACK with return code 0. -/
def Accepting (p : UInt8 × Bytes) : Prop :=
  p.1 &&& 0xF0 = PacketType.CONNACK ∧ p.2[1]? = some 0

/-- A SUBACK that `handleSuback` does not take for malformed. -/
def IsSuback (p : UInt8 × Bytes) : Prop := p.1 &&& 0xF0 = PacketType.SUBACK ∧ 3 ≤ p.2.length

/-- A SUBACK all of whose return codes are granted. -/
def Granting (p : UInt8 × Bytes) : Prop := IsSuback p ∧ ∀ code ∈ p.2.drop 2, code ≠ 0x80

/-- There is an accepting CONNACK, and a granting SUBACK behind it. -/
def Earned (packets : List (UInt8 × Bytes)) : Prop :=
  ∃ front connack middle suback back, packets = front ++ connack :: (middle ++ suback :: back) ∧
    Accepting connack ∧ Granting suback

lemma Earned.append {packets : List (UInt8 × Bytes)} (h : Earned packets)
    (more : List (UInt8 × Bytes)) : Earned (packets ++ more) := by
  obtain ⟨front, connack, middle, suback, back, rfl, haccepting, hgranting⟩ := h
  refine ⟨front, connack, middle, suback, back ++ more, ?_, haccepting, hgranting⟩
  simp

lemma earned_concat {packets : List (UInt8 × Bytes)} {p : UInt8 × Bytes}
    (haccepted : ∃ connack ∈ packets, Accepting connack) (hgranting : Granting p) :
    Earned (packets ++ [p]) := by
  obtain ⟨connack, hconnack, haccepting⟩ := haccepted
  obtain ⟨front, middle, rfl⟩ := List.append_of_mem hconnack
  exact ⟨front, connack, middle, p, [], by simp, haccepting, hgranting⟩

/-- Behind some packets of a connection, every SUBACK that comes before a refusal follows
an accepting CONNACK and grants everything, unless that has happened before. -/
def InOrder (packets items : List (UInt8 × Bytes)) : Prop :=
  ∀ front p back, items = front ++ p :: back → (∀ q ∈ front, ¬ Aborts q) → IsSuback p →
    Earned (packets ++ front) ∨
      Granting p ∧ ∃ connack ∈ packets ++ front, Accepting connack

lemma InOrder.tail {packets items : List (UInt8 × Bytes)} {p : UInt8 × Bytes}
    (h : InOrder packets (p :: items)) (hp : ¬ Aborts p) : InOrder (packets ++ [p]) items := by
  rintro front q back rfl hfront hq
  have hhere := h (p :: front) q back rfl (List.forall_mem_cons.mpr ⟨hp, hfront⟩) hq
  rwa [List.append_assoc, List.singleton_append]

/-! ### Sessions -/

/-- A client, with the packets it has processed on its current TLS connection. -/
structure MqttSession where
  client : MqttSignalingClient
  packets : List (UInt8 × Bytes) := []

/-- The events, one after the other. -/
def MqttSession.machine (json : JsonCodec) :
    Machine MqttSession (MqttEvent × MqttIo) MqttDeed where
  step s e :=
    let t := MqttTurn.react json e.2 ⟨s.client, []⟩ e.1
    ({ client := t.client
       packets :=
        if t.client.m_socket.encrypted then s.packets ++ dispatches t.deeds else [] },
      t.deeds)

/-- The condition on what the broker sends. -/
def Answers (s : MqttSession) : MqttEvent × MqttIo → Prop
  | (.readyRead data, _) =>
      InOrder s.packets (packetScanner.drain (s.client.m_receiveBuffer ++ data)).items
  | _ => True

/-! ### What a turn keeps -/

namespace MqttTurn

/-- The invariant of a turn, behind some packets of the connection. -/
structure Sound (packets : List (UInt8 × Bytes)) (t : MqttTurn) : Prop where
  opened : t.client.m_socket.encrypted = true → t.client.m_socket.isOpen = true
  ready : t.client.m_state = .Ready →
    t.client.m_socket.encrypted = true ∧ Earned (packets ++ dispatches t.deeds)

variable {packets : List (UInt8 × Bytes)} {t t' : MqttTurn} {json : JsonCodec} {io : MqttIo}

lemma m_state_setState (state : MqttState) : (t.setState state).client.m_state = state := by
  rw [setState]
  split_ifs with h
  · rfl
  · exact not_not.mp h

lemma m_socket_setState (state : MqttState) :
    (t.setState state).client.m_socket = t.client.m_socket := by
  rw [setState]
  split_ifs <;> rfl

lemma Calm.m_state (h : Calm t t') : t'.client.m_state = t.client.m_state := by
  rw [Calm] at h
  rw [h]

lemma Calm.m_socket (h : Calm t t') : t'.client.m_socket = t.client.m_socket := by
  rw [Calm] at h
  rw [h]

lemma scheduleReconnect_fields : (t.scheduleReconnect io).client.m_state = t.client.m_state ∧
    (t.scheduleReconnect io).client.m_socket = t.client.m_socket := by
  rw [scheduleReconnect]
  split_ifs
  · exact ⟨rfl, rfl⟩
  · exact ⟨rfl, rfl⟩

/-- Behind `onSocketDisconnected` the state is `Disconnected`. -/
lemma onSocketDisconnected_fields :
    (t.onSocketDisconnected io).client.m_state = .Disconnected ∧
      (t.onSocketDisconnected io).client.m_socket = t.client.m_socket := by
  obtain ⟨u, hu⟩ : ∃ u, u = ((t.setPingTimer false).setPing false false).setBuffer [] := ⟨_, rfl⟩
  have hlogged : ((u.setState .Disconnected).log .disconnected).client.m_state = .Disconnected ∧
      ((u.setState .Disconnected).log .disconnected).client.m_socket = t.client.m_socket := by
    refine ⟨m_state_setState _, (m_socket_setState _).trans ?_⟩
    rw [hu]
    rfl
  rw [onSocketDisconnected, ← hu]
  split_ifs
  · exact ⟨scheduleReconnect_fields.1.trans hlogged.1, scheduleReconnect_fields.2.trans hlogged.2⟩
  · exact hlogged

/-- A socket is closed: where it was open, the state is `Disconnected` and the buffer
empty. -/
lemma closed_fields (t : MqttTurn) (io : MqttIo) : (t.closed io).client.m_socket = {} ∧
    (t.client.m_socket.isOpen = true → (t.closed io).client.m_state = .Disconnected ∧
      (t.closed io).client.m_receiveBuffer = []) ∧
    (t.client.m_socket.isOpen = false →
      (t.closed io).client.m_state = t.client.m_state) := by
  rw [closed]
  split
  · rename_i hstate
    refine ⟨onSocketDisconnected_fields.2, fun _ =>
      ⟨onSocketDisconnected_fields.1, buffer_onSocketDisconnected⟩, fun hclosed => ?_⟩
    rw [QSslSocket.isOpen, hstate] at hclosed
    cases hclosed
  · rename_i hstate
    refine ⟨onSocketDisconnected_fields.2, fun _ =>
      ⟨onSocketDisconnected_fields.1, buffer_onSocketDisconnected⟩, fun hclosed => ?_⟩
    rw [QSslSocket.isOpen, hstate] at hclosed
    cases hclosed
  · rename_i hconnected hclosing
    refine ⟨rfl, fun hopen => ?_, fun _ => rfl⟩
    rw [QSslSocket.isOpen, Bool.or_eq_true, decide_eq_true_eq, decide_eq_true_eq] at hopen
    rcases hopen with h | h
    · exact absurd h hconnected
    · exact absurd h hclosing

/-- A turn in a state that is not `Ready`. -/
lemma sound_of_not_ready (hopened : t.client.m_socket.encrypted = true →
      t.client.m_socket.isOpen = true) (hstate : t.client.m_state ≠ .Ready) : Sound packets t :=
  ⟨hopened, fun h => absurd h hstate⟩

/-- A part of a call that keeps socket, state and packets, whatever else it does. -/
lemma Sound.of_same (h : Sound packets t) (hsocket : t'.client.m_socket = t.client.m_socket)
    (hstate : t'.client.m_state = t.client.m_state)
    (hdispatches : dispatches t'.deeds = dispatches t.deeds) : Sound packets t' := by
  refine ⟨?_, ?_⟩
  · rw [hsocket]
    exact h.opened
  · rw [hsocket, hstate, hdispatches]
    exact h.ready

/-- Closing the socket ends the session. -/
lemma sound_closed (h : Sound packets t) : Sound packets (t.closed io) := by
  obtain ⟨hsocket, hopen, hclosed⟩ := closed_fields t io
  have hopened : (t.closed io).client.m_socket.encrypted = true →
      (t.closed io).client.m_socket.isOpen = true := by
    rw [hsocket]
    exact nofun
  refine sound_of_not_ready hopened fun hready => ?_
  cases hcase : t.client.m_socket.isOpen with
  | true => exact absurd ((hopen hcase).1.symm.trans hready) nofun
  | false =>
      have hencrypted := (h.ready ((hclosed hcase).symm.trans hready)).1
      exact absurd ((h.opened hencrypted).symm.trans hcase) nofun

/-- What the handler of a packet that does not abort makes of the state. -/
lemma dispatch_fields (json : JsonCodec) (io : MqttIo) {header : UInt8} {data : Bytes}
    (h : ¬ Aborts (header, data)) :
    (t.dispatch json io header data).client.m_socket = t.client.m_socket ∧
      ((t.dispatch json io header data).client.m_state = t.client.m_state ∨
        (t.dispatch json io header data).client.m_state = .Subscribing ∨
        IsSuback (header, data)) := by
  rw [dispatch]
  split_ifs with hconnack hpublish hpuback hsuback hpingresp
  · have hcode : data[1]? = some 0 := not_not.mp fun hcode => h ⟨hconnack, hcode⟩
    rcases data with _ | ⟨first, _ | ⟨returnCode, rest⟩⟩
    · cases hcode
    · cases hcode
    · have hzero : returnCode = 0 := by simpa using hcode
      rw [handleConnack, if_neg (not_not.mpr hzero)]
      exact ⟨calm_sendSubscribe.m_socket.trans (m_socket_setState _),
        Or.inr (Or.inl (calm_sendSubscribe.m_state.trans (m_state_setState _)))⟩
  · exact ⟨calm_handlePublish.m_socket, Or.inl calm_handlePublish.m_state⟩
  · exact ⟨rfl, Or.inl rfl⟩
  · rw [handleSuback]
    split_ifs with hshort
    · exact ⟨rfl, Or.inl rfl⟩
    · exact ⟨calm_publishOnlinePresence.m_socket.trans (m_socket_setState _),
        Or.inr (Or.inr ⟨hsuback, by dsimp only; omega⟩)⟩
  · exact ⟨rfl, Or.inl rfl⟩
  · exact ⟨rfl, Or.inl rfl⟩

/-- A packet at which the handler aborts ends the session. -/
lemma dispatch_aborts (json : JsonCodec) (io : MqttIo) {header : UInt8} {data : Bytes}
    (h : Aborts (header, data))
    (hopen : t.client.m_socket.isOpen = true) :
    (t.dispatch json io header data).client.m_socket = {} ∧
      (t.dispatch json io header data).client.m_state = .Disconnected ∧
      (t.dispatch json io header data).client.m_receiveBuffer = [] := by
  obtain ⟨hconnack, hcode⟩ := h
  dsimp only at hconnack hcode
  obtain ⟨hsocket, hclosed, _⟩ := closed_fields (t.log (.dispatched header data)) io
  obtain ⟨hstate, hbuffer⟩ := hclosed hopen
  rw [dispatch, if_pos hconnack]
  rcases data with _ | ⟨first, _ | ⟨returnCode, rest⟩⟩
  · exact ⟨hsocket, hstate, hbuffer⟩
  · exact ⟨hsocket, hstate, hbuffer⟩
  · have hne : returnCode ≠ 0 := by simpa using hcode
    rw [handleConnack, if_pos hne]
    exact ⟨hsocket, hstate, hbuffer⟩

/-- **One delivery.** While the packets come in order, `Ready` is earned. -/
lemma sound_processLoop {fuel : ℕ} (h : Sound packets t)
    (hencrypted : t.client.m_socket.encrypted = true)
    (horder : InOrder (packets ++ dispatches t.deeds)
      (packetScanner.drain t.client.m_receiveBuffer).items) :
    Sound packets (t.processLoop json io fuel) := by
  induction fuel generalizing t with
  | zero => exact h
  | succ fuel ih =>
      rw [processLoop_succ]
      cases hlook : lookPacket t.client.m_receiveBuffer with
      | wait => exact h
      | flush =>
          refine sound_closed (h.of_same rfl rfl ?_)
          rw [dispatches, log, List.filterMap_append]
          exact List.append_nil _
      | drop n item =>
          obtain ⟨_, _, header, data, rfl⟩ := exists_packet hlook
          rw [packetScanner.drain_of_drop hlook] at horder
          obtain ⟨u, hu⟩ : ∃ u, u = t.setBuffer (t.client.m_receiveBuffer.drop n) := ⟨_, rfl⟩
          have husocket : u.client.m_socket = t.client.m_socket := by rw [hu]; rfl
          have hustate : u.client.m_state = t.client.m_state := by rw [hu]; rfl
          have hudeeds : u.deeds = t.deeds := by rw [hu]; rfl
          have hubuffer : u.client.m_receiveBuffer = t.client.m_receiveBuffer.drop n := by
            rw [hu]
            rfl
          dsimp only
          rw [← hu]
          by_cases haborts : Aborts (header, data)
          · obtain ⟨hsocket, hstate, hbuffer⟩ := dispatch_aborts json io (t := u)
              haborts (by rw [husocket]; exact h.opened hencrypted)
            rw [processLoop_nil fuel hbuffer]
            refine sound_of_not_ready ?_ ?_
            · rw [hsocket]
              rintro ⟨⟩
            · rw [hstate]
              rintro ⟨⟩
          · obtain ⟨hsocket, hstate⟩ := dispatch_fields json io (t := u) haborts
            have hdispatches := (traces_dispatch json io u header data).1
            rw [hudeeds] at hdispatches
            have hencrypted' :
                (u.dispatch json io header data).client.m_socket.encrypted = true := by
              rw [hsocket, husocket]
              exact hencrypted
            refine ih ⟨?_, fun hready => ⟨hencrypted', ?_⟩⟩ hencrypted' ?_
            · rw [hsocket, husocket]
              exact h.opened
            · rw [hdispatches, ← List.append_assoc]
              rcases hstate with hstate | hstate | hsuback
              · rw [hstate, hustate] at hready
                exact (h.ready hready).2.append _
              · exact absurd (hstate.symm.trans hready) (by simp)
              · rcases horder [] (header, data) _ rfl (by simp) hsuback with
                  hearned | ⟨hgranting, hconnack⟩
                · rw [List.append_nil] at hearned
                  exact hearned.append _
                · rw [List.append_nil] at hconnack
                  exact earned_concat hconnack hgranting
            · rw [hdispatches, ← List.append_assoc, buffer_dispatch haborts, hubuffer]
              exact horder.tail haborts

/-! ### One event -/

lemma connectToBroker_fields (t : MqttTurn) (io : MqttIo) (host : String) (port : ℤ) :
    (t.connectToBroker io host port).client.m_state = .Connecting ∧
      (t.connectToBroker io host port).client.m_socket = { state := .ConnectingState } := by
  rw [connectToBroker]
  exact ⟨m_state_setState _, rfl⟩

/-- A socket stays open, becomes one that is being closed, or is closed. -/
lemma opened_disconnectFromHost
    (h : t.client.m_socket.encrypted = true → t.client.m_socket.isOpen = true) :
    (t.disconnectFromHost io).client.m_socket.encrypted = true →
      (t.disconnectFromHost io).client.m_socket.isOpen = true := by
  rw [disconnectFromHost]
  split
  · exact h
  · exact h
  · exact h
  · split_ifs
    · rw [(closed_fields t io).1]
      exact nofun
    · exact fun _ => rfl

lemma m_state_disconnectFromHost (io : MqttIo) :
    (t.disconnectFromHost io).client.m_state = t.client.m_state ∨
      (t.disconnectFromHost io).client.m_state = .Disconnected := by
  obtain ⟨_, hopen, hclosed⟩ := closed_fields t io
  rw [disconnectFromHost]
  split
  · exact Or.inl rfl
  · exact Or.inl rfl
  · exact Or.inl rfl
  · split_ifs
    · cases hcase : t.client.m_socket.isOpen with
      | true => exact Or.inr (hopen hcase).1
      | false => exact Or.inl (hclosed hcase)
    · exact Or.inl rfl

lemma calm_sayGoodbye : Calm t (t.sayGoodbye json) := by
  rw [sayGoodbye]
  split_ifs
  · exact calm_publishOfflinePresence.trans (calm_log _)
  · exact calm_log _
  · exact Calm.refl t

lemma disconnectFromBroker_fields (json : JsonCodec) (io : MqttIo)
    (h : t.client.m_socket.encrypted = true → t.client.m_socket.isOpen = true) :
    (t.disconnectFromBroker json io).client.m_state = .Disconnected ∧
      ((t.disconnectFromBroker json io).client.m_socket.encrypted = true →
        (t.disconnectFromBroker json io).client.m_socket.isOpen = true) := by
  have hsocket : (t.stopTimers.sayGoodbye json).client.m_socket = t.client.m_socket :=
    calm_sayGoodbye.m_socket
  rw [disconnectFromBroker]
  refine ⟨m_state_setState _, ?_⟩
  have hfinal : ∀ t : MqttTurn, ((t.setState .Disconnected).setBuffer []).client.m_socket =
      t.client.m_socket := fun t => m_socket_setState _
  rw [hfinal]
  split_ifs
  · refine opened_disconnectFromHost ?_
    rw [hsocket]
    exact h
  · rw [hsocket]
    exact h

/-- **One event.** -/
lemma sound_react {e : MqttEvent} {client : MqttSignalingClient}
    (h : Sound packets ⟨client, []⟩) (hanswers : Answers ⟨client, packets⟩ (e, io)) :
    Sound packets (MqttTurn.react json io ⟨client, []⟩ e) := by
  obtain ⟨t, ht⟩ : ∃ t : MqttTurn, t = ⟨client, []⟩ := ⟨_, rfl⟩
  have hclient : client = t.client := by rw [ht]
  have hdeeds : dispatches t.deeds = [] := by rw [ht]; rfl
  rw [hclient] at hanswers
  rw [← ht] at h ⊢
  have hconnecting : t.client.m_socket.isConnecting = true → t.client.m_state ≠ .Ready := by
    intro hstate hready
    have hopen := h.opened (h.ready hready).1
    rw [QSslSocket.isConnecting, Bool.or_eq_true, decide_eq_true_eq, decide_eq_true_eq] at hstate
    rw [QSslSocket.isOpen] at hopen
    rcases hstate with hstate | hstate
    · rw [hstate] at hopen
      exact absurd hopen (by decide)
    · rw [hstate] at hopen
      exact absurd hopen (by decide)
  have hcalm : ∀ t', Calm t t' → Emits MqttDeed.IsPlain t t' → Sound packets t' :=
    fun t' hcalm hemits => h.of_same hcalm.m_socket hcalm.m_state
      (hemits.mono untraced_of_plain).dispatches_eq.1
  have hlog : ∀ (t : MqttTurn) d, Sound packets t → d.IsUntraced → Sound packets (t.log d) :=
    fun t d h hd => h.of_same rfl rfl (emits_log (P := MqttDeed.IsUntraced) hd).dispatches_eq.1
  have hping : ∀ timer outstanding, Sound packets (t.setPing timer outstanding) :=
    fun _ _ => h.of_same rfl rfl rfl
  have hconnect : ∀ (t : MqttTurn) host port, Sound packets (t.connectToBroker io host port) := by
    intro t host port
    obtain ⟨hstate, hsocket⟩ := connectToBroker_fields t io host port
    refine sound_of_not_ready ?_ ?_
    · rw [hsocket]
      exact nofun
    · rw [hstate]
      exact nofun
  cases e with
  | connectToBroker host port => exact hconnect t host port
  | disconnectFromBroker =>
      obtain ⟨hstate, hopened⟩ := disconnectFromBroker_fields json io h.opened
      exact sound_of_not_ready hopened fun hready => absurd (hstate.symm.trans hready) nofun
  | publishOnlinePresence device =>
      exact hcalm _ calm_publishOnlinePresence emits_publishOnlinePresence
  | publishOfflinePresence deviceId =>
      exact hcalm _ calm_publishOfflinePresence emits_publishOfflinePresence
  | broadcastDiscoveryRequest deviceId =>
      exact hcalm _ calm_broadcastDiscoveryRequest emits_broadcastDiscoveryRequest
  | socketConnected =>
      rw [react]
      split_ifs with hstate hpending
      · refine sound_of_not_ready (opened_disconnectFromHost nofun) fun hready => ?_
        rcases m_state_disconnectFromHost io (t := t.setSocket { state := .ConnectedState })
          with hsame | hdisconnected
        · exact hconnecting hstate (hsame.symm.trans hready)
        · exact absurd (hdisconnected.symm.trans hready) nofun
      · exact sound_of_not_ready nofun (hconnecting hstate)
      · exact h
  | socketEncrypted =>
      rw [react]
      split_ifs with hstate
      · obtain ⟨u, hu⟩ : ∃ u, u = t.setSocket { t.client.m_socket with encrypted := true } :=
          ⟨_, rfl⟩
        have hsocket : ((u.setState .Connected).sendConnect json io).client.m_socket =
            u.client.m_socket := m_socket_setState _
        have hconnected : ((u.setState .Connected).sendConnect json io).client.m_state =
            .Connected := m_state_setState _
        rw [← hu, onSocketEncrypted]
        refine sound_of_not_ready (fun _ => ?_) fun hready => ?_
        · rw [hsocket, hu, QSslSocket.isOpen, setSocket, hstate.1]
          rfl
        · exact absurd (hconnected.symm.trans hready) nofun
      · exact h
  | readyRead data =>
      rw [react]
      split_ifs with hstate
      · rw [Bool.and_eq_true] at hstate
        have hbuffered : Sound packets (t.setBuffer (t.client.m_receiveBuffer ++ data)) :=
          h.of_same rfl rfl rfl
        refine sound_processLoop hbuffered hstate.2 ?_
        have hnone : dispatches (t.setBuffer (t.client.m_receiveBuffer ++ data)).deeds = [] :=
          hdeeds
        rw [hnone, List.append_nil]
        exact hanswers
      · exact h
  | socketError errorMsg => exact hlog t _ h ⟨rfl, rfl⟩
  | connectionFailed errorMsg =>
      rw [react]
      split_ifs with hstate
      · exact sound_of_not_ready nofun (hconnecting hstate)
      · exact h
  | sslErrors =>
      rw [react]
      split_ifs with hstate
      · exact hlog _ _ (sound_closed h) ⟨rfl, rfl⟩
      · exact h
  | socketDisconnected =>
      rw [react]
      split_ifs
      · exact sound_closed h
      · exact h
  | pingTimer =>
      rw [react]
      split_ifs
      · rw [onPingTimer]
        split_ifs
        · exact hlog _ _ (hping _ _) ⟨rfl, rfl⟩
        · exact h
      · exact h
  | pingTimeout =>
      rw [react]
      split_ifs
      · rw [onPingTimeout]
        split_ifs
        · exact sound_closed (hping _ _)
        · exact hping _ _
      · exact h
  | reconnectTimer =>
      rw [react]
      split_ifs
      · rw [onReconnectTimer]
        split_ifs
        · exact h.of_same rfl rfl rfl
        · exact hconnect _ _ _
      · exact h

end MqttTurn

/-! ### Runs -/

variable {json : JsonCodec} {config : MqttConfig} {es : List (MqttEvent × MqttIo)}
  {log : List MqttDeed} {s : MqttSession}

lemma sound_of_run
    (hrun : Run (MqttSession.machine json) Answers { client := { config } } es log s) :
    MqttTurn.Sound s.packets ⟨s.client, []⟩ := by
  refine hrun.invariant (I := fun s => MqttTurn.Sound s.packets ⟨s.client, []⟩) ⟨nofun, nofun⟩ ?_
  rintro s ⟨e, io⟩ h hanswers
  have hsound : MqttTurn.Sound s.packets (MqttTurn.react json io ⟨s.client, []⟩ e) :=
    sound_react h hanswers
  refine ⟨hsound.opened, fun hready => ?_⟩
  obtain ⟨hencrypted, hearned⟩ := hsound.ready hready
  refine ⟨hencrypted, ?_⟩
  have hpackets : ((MqttSession.machine json).step s (e, io)).1.packets =
      s.packets ++ dispatches (MqttTurn.react json io ⟨s.client, []⟩ e).deeds := if_pos hencrypted
  rw [hpackets]
  exact hearned.append _

/-- **Ready is earned.** While the broker answers in order, a client that is ready has a
TLS connection on which it has processed an accepting CONNACK and, behind it, a granting
SUBACK. -/
theorem ready_is_earned
    (hrun : Run (MqttSession.machine json) Answers { client := { config } } es log s)
    (hready : s.client.m_state = .Ready) :
    s.client.m_socket.encrypted = true ∧ Earned s.packets := by
  obtain ⟨hencrypted, hearned⟩ := (sound_of_run hrun).ready hready
  exact ⟨hencrypted, by simpa [dispatches] using hearned⟩

/-! ### Two runs -/

/-- A client connects, and the broker answers with some bytes. -/
def connectAndRead (answer : Bytes) : List (MqttEvent × MqttIo) :=
  [(.connectToBroker "" 0, {}), (.socketConnected, {}), (.socketEncrypted, {}),
    (.readyRead answer, {})]

/-- The session behind this. -/
def sessionAfter (answer : Bytes) : MqttSession :=
  ((MqttSession.machine QJson.compact).exec { client := { config := { deviceId := "mc_0001" } } }
    (connectAndRead answer)).2

/-- An accepting CONNACK, and a SUBACK that grants everything. -/
def granted : Bytes := [0x20, 0x02, 0x00, 0x00, 0x90, 0x05, 0x00, 0x01, 0x01, 0x01, 0x01]

lemma inOrder_granted :
    InOrder [] [(0x20, [0x00, 0x00]), (0x90, [0x00, 0x01, 0x01, 0x01, 0x01])] := by
  rintro front p back heq _ hsuback
  match front, heq with
  | [], heq =>
      obtain ⟨rfl, _⟩ := List.cons.inj heq
      exact absurd hsuback.1 (by decide)
  | [connack], heq =>
      obtain ⟨hconnack, heq⟩ := List.cons.inj heq
      obtain ⟨rfl, _⟩ := List.cons.inj heq
      rw [← hconnack]
      have hcodes : ∀ code ∈ ([0x00, 0x01, 0x01, 0x01, 0x01] : Bytes).drop 2, code ≠ 0x80 :=
        List.forall_iff_forall_mem.mp (by decide)
      exact Or.inr ⟨⟨hsuback, hcodes⟩, _, List.mem_singleton_self _, by decide, rfl⟩
  | _ :: _ :: front, heq =>
      have hlength := congrArg List.length heq
      simp at hlength

theorem ready_is_earned_granted :
    (sessionAfter granted).client.m_state = .Ready ∧ Earned (sessionAfter granted).packets := by
  have hready : (sessionAfter granted).client.m_state = .Ready := by decide +kernel
  have hanswers : (MqttSession.machine QJson.compact).Allows Answers
      { client := { config := { deviceId := "mc_0001" } } } (connectAndRead granted) := by
    have hdrain : (packetScanner.drain granted).items =
        [(0x20, [0x00, 0x00]), (0x90, [0x00, 0x01, 0x01, 0x01, 0x01])] := by
      have hgranted : granted =
          packetBytes [(0x20, [0x00, 0x00]), (0x90, [0x00, 0x01, 0x01, 0x01, 0x01])] := by decide
      rw [hgranted, drain_packetBytes (by simp)]
    refine ⟨trivial, trivial, trivial, ?_, trivial⟩
    rw [Answers]
    have hbuffer : ∀ s : MqttSession, s.packets = [] → s.client.m_receiveBuffer = [] →
        InOrder s.packets (packetScanner.drain (s.client.m_receiveBuffer ++ granted)).items := by
      intro s hpackets hempty
      rw [hpackets, hempty, List.nil_append, hdrain]
      exact inOrder_granted
    exact hbuffer _ (by decide +kernel) (by decide +kernel)
  exact ⟨hready, (ready_is_earned (Run.exec hanswers) hready).2⟩

/-- An accepting CONNACK, and a SUBACK that refuses everything. -/
def refused : Bytes := [0x20, 0x02, 0x00, 0x00, 0x90, 0x05, 0x00, 0x01, 0x80, 0x80, 0x80]

theorem ready_without_subscription :
    (sessionAfter refused).client.m_state = .Ready ∧
      ¬ Earned (sessionAfter refused).packets := by
  refine ⟨by decide +kernel, ?_⟩
  have hpackets : (sessionAfter refused).packets =
      [(0x20, [0x00, 0x00]), (0x90, [0x00, 0x01, 0x80, 0x80, 0x80])] := by decide +kernel
  rw [hpackets]
  rintro ⟨front, connack, middle, suback, back, heq, _, hsuback, hcodes⟩
  have hmem : suback ∈ [((0x20 : UInt8), ([0x00, 0x00] : Bytes)),
      (0x90, [0x00, 0x01, 0x80, 0x80, 0x80])] := by
    rw [heq]
    simp
  rcases List.mem_pair.mp hmem with rfl | rfl
  · exact absurd hsuback.1 (by decide)
  · exact hcodes 0x80 (by decide) rfl

end MeckChat.Network
