import MeckChat.Network.MqttSession

/-!
The timer for the next attempt of the client.

* `Considerate` is the condition on the calls of `connectToBroker`: no attempt is scheduled,
  and there is no connection that it would abort.
* `Idle` is the invariant: while the timer is active, the client is disconnected, does not
  want to be, and has no socket that is open or connecting.
* `no_self_inflicted_reconnects` is the result along runs.
-/

namespace MeckChat.Network

open QJson StreamDecoder

/-- The condition on the calls. -/
def Considerate (s : MqttSignalingClient) : MqttEvent × MqttIo → Prop
  | (.connectToBroker _ _, _) => s.m_reconnectTimer = none ∧ s.m_socket.isOpen = false
  | _ => True

/-- **The invariant.** -/
structure Idle (s : MqttSignalingClient) : Prop where
  state : s.m_reconnectTimer.isSome = true → s.m_state = .Disconnected
  wanted : s.m_reconnectTimer.isSome = true → s.m_intentionalDisconnect = false
  socket : s.m_reconnectTimer.isSome = true → s.m_socket.state = .UnconnectedState

lemma idle_of_none {s : MqttSignalingClient} (h : s.m_reconnectTimer = none) : Idle s := by
  have hnone : s.m_reconnectTimer.isSome = false := by rw [h]; rfl
  constructor <;> exact fun hsome => absurd (hsome.symm.trans hnone) nofun

/-- While the socket is open or connecting, no attempt is scheduled. -/
lemma Idle.timer_eq_none {s : MqttSignalingClient} (h : Idle s)
    (hsocket : s.m_socket.state ≠ .UnconnectedState) : s.m_reconnectTimer = none := by
  rw [← Option.not_isSome_iff_eq_none]
  exact fun hsome => hsocket (h.socket hsome)

lemma QSslSocket.state_ne_of_isOpen {s : QSslSocket} (h : s.isOpen = true) :
    s.state ≠ .UnconnectedState := by
  intro hstate
  rw [isOpen, hstate] at h
  exact absurd h (by decide)

lemma QSslSocket.state_ne_of_isConnecting {s : QSslSocket} (h : s.isConnecting = true) :
    s.state ≠ .UnconnectedState := by
  intro hstate
  rw [isConnecting, hstate] at h
  exact absurd h (by decide)

namespace MqttTurn

variable {t t' : MqttTurn} {json : JsonCodec} {io : MqttIo}

lemma Calm.idle (h : Calm t t') (hidle : Idle t.client) : Idle t'.client := by
  rw [Calm] at h
  rw [h]
  exact ⟨hidle.state, hidle.wanted, hidle.socket⟩

lemma Calm.timer (h : Calm t t') : t'.client.m_reconnectTimer = t.client.m_reconnectTimer := by
  rw [Calm] at h
  rw [h]

lemma m_reconnectTimer_setState (state : MqttState) :
    (t.setState state).client.m_reconnectTimer = t.client.m_reconnectTimer ∧
      (t.setState state).client.m_intentionalDisconnect = t.client.m_intentionalDisconnect := by
  rw [setState]
  split_ifs
  · exact ⟨rfl, rfl⟩
  · exact ⟨rfl, rfl⟩

/-- An attempt is scheduled only by `onSocketDisconnected`, and if it is wanted. -/
lemma idle_onSocketDisconnected (hsocket : t.client.m_socket.state = .UnconnectedState)
    (htimer : t.client.m_reconnectTimer = none) : Idle (t.onSocketDisconnected io).client := by
  obtain ⟨hstate, hsame⟩ := onSocketDisconnected_fields (t := t)
  refine ⟨fun _ => hstate, fun hsome => ?_, fun _ => by rw [hsame]; exact hsocket⟩
  obtain ⟨u, hu⟩ : ∃ u, u = ((t.setPingTimer false).setPing false false).setBuffer [] := ⟨_, rfl⟩
  obtain ⟨htimer', hwanted'⟩ := m_reconnectTimer_setState (t := u) .Disconnected
  have hschedule : ∀ t : MqttTurn, (t.scheduleReconnect io).client.m_intentionalDisconnect =
      t.client.m_intentionalDisconnect := by
    intro t
    rw [scheduleReconnect]
    split_ifs <;> rfl
  rw [onSocketDisconnected, ← hu] at hsome ⊢
  split_ifs at hsome ⊢ with hwanted
  · rw [hschedule]
    simpa using hwanted
  · rw [hu] at htimer'
    rw [log, hu, htimer'] at hsome
    exact absurd (hsome.symm.trans (congrArg Option.isSome htimer)) (by simp)

/-- Closing an open socket. -/
lemma idle_closed (h : Idle t.client) : Idle (t.closed io).client := by
  rw [closed]
  split
  · rename_i hstate
    exact idle_onSocketDisconnected rfl (h.timer_eq_none (by simp [hstate]))
  · rename_i hstate
    exact idle_onSocketDisconnected rfl (h.timer_eq_none (by simp [hstate]))
  · exact ⟨h.state, h.wanted, fun _ => rfl⟩

/-- The handler of a packet that does not abort schedules nothing. -/
lemma timer_dispatch {header : UInt8} {data : Bytes} (h : ¬ Aborts (header, data))
    (htimer : t.client.m_reconnectTimer = none) :
    (t.dispatch json io header data).client.m_reconnectTimer = none := by
  rw [dispatch]
  split_ifs with hconnack
  · have hcode : data[1]? = some 0 := not_not.mp fun hcode => h ⟨hconnack, hcode⟩
    rcases data with _ | ⟨first, _ | ⟨returnCode, rest⟩⟩
    · cases hcode
    · cases hcode
    · have hzero : returnCode = 0 := by simpa using hcode
      rw [handleConnack, if_neg (not_not.mpr hzero)]
      exact calm_sendSubscribe.timer.trans ((m_reconnectTimer_setState _).1.trans htimer)
  · exact calm_handlePublish.timer.trans htimer
  · exact htimer
  · rw [handleSuback]
    split_ifs
    · exact htimer
    · exact calm_publishOnlinePresence.timer
  · exact htimer
  · exact htimer

/-- One that aborts closes the socket, and empties the buffer. -/
lemma idle_dispatch_aborts {header : UInt8} {data : Bytes} (h : Aborts (header, data))
    (hidle : Idle t.client) : Idle (t.dispatch json io header data).client := by
  obtain ⟨hconnack, hcode⟩ := h
  dsimp only at hconnack hcode
  have hclosed : Idle ((t.log (.dispatched header data)).closed io).client := idle_closed hidle
  rw [dispatch, if_pos hconnack]
  rcases data with _ | ⟨first, _ | ⟨returnCode, rest⟩⟩
  · exact hclosed
  · exact hclosed
  · have hne : returnCode ≠ 0 := by simpa using hcode
    rw [handleConnack, if_pos hne]
    exact hclosed

/-- **One delivery.** -/
lemma idle_processLoop {fuel : ℕ} (h : Idle t.client) (hopen : t.client.m_socket.isOpen = true) :
    Idle (t.processLoop json io fuel).client := by
  induction fuel generalizing t with
  | zero => exact h
  | succ fuel ih =>
      rw [processLoop_succ]
      cases hlook : lookPacket t.client.m_receiveBuffer with
      | wait => exact h
      | flush =>
          exact idle_closed (t := t.log (.corrupted t.client.m_receiveBuffer)) h
      | drop n item =>
          obtain ⟨_, _, header, data, rfl⟩ := exists_packet hlook
          obtain ⟨u, hu⟩ : ∃ u, u = t.setBuffer (t.client.m_receiveBuffer.drop n) := ⟨_, rfl⟩
          have hidle : Idle u.client := by
            rw [hu]
            exact ⟨h.state, h.wanted, h.socket⟩
          have husocket : u.client.m_socket = t.client.m_socket := by rw [hu]; rfl
          dsimp only
          rw [← hu]
          by_cases haborts : Aborts (header, data)
          · obtain ⟨_, _, hbuffer⟩ := dispatch_aborts json io (t := u) haborts
              (by rw [husocket]; exact hopen)
            rw [processLoop_nil fuel hbuffer]
            exact idle_dispatch_aborts haborts hidle
          · obtain ⟨hsocket, _⟩ := dispatch_fields json io (t := u) haborts
            refine ih (idle_of_none (timer_dispatch haborts ?_)) ?_
            · refine hidle.timer_eq_none ?_
              rw [husocket]
              exact QSslSocket.state_ne_of_isOpen hopen
            · rw [hsocket, husocket]
              exact hopen

/-- Closing a socket that is not open schedules nothing. -/
lemma timer_closed (h : t.client.m_socket.isOpen = false) :
    (t.closed io).client.m_reconnectTimer = t.client.m_reconnectTimer := by
  rw [closed]
  split
  · rename_i hstate
    rw [QSslSocket.isOpen, hstate] at h
    exact absurd h (by decide)
  · rename_i hstate
    rw [QSslSocket.isOpen, hstate] at h
    exact absurd h (by decide)
  · rfl

/-- An attempt that aborts no connection schedules nothing. -/
lemma timer_connectToBroker {host : String} {port : ℤ} (htimer : t.client.m_reconnectTimer = none)
    (hopen : t.client.m_socket.isOpen = false) :
    (t.connectToBroker io host port).client.m_reconnectTimer = none := by
  have hattempt : ∀ u : MqttTurn, u.client.m_reconnectTimer = none →
      u.client.m_socket.isOpen = false →
      (((if u.client.m_socket.state ≠ .UnconnectedState then u.abort io else u).setBuffer
        []).setState .Connecting).client.m_reconnectTimer = none := by
    intro u hutimer huopen
    refine (m_reconnectTimer_setState _).1.trans ?_
    rw [setBuffer]
    split_ifs
    · exact (timer_closed huopen).trans hutimer
    · exact hutimer
  rw [connectToBroker]
  exact hattempt _ htimer hopen

/-- Nor does the end of a client that wants to disconnect. -/
lemma timer_onSocketDisconnected (hwanted : t.client.m_intentionalDisconnect = true) :
    (t.onSocketDisconnected io).client.m_reconnectTimer = t.client.m_reconnectTimer := by
  obtain ⟨u, hu⟩ : ∃ u, u = ((t.setPingTimer false).setPing false false).setBuffer [] := ⟨_, rfl⟩
  obtain ⟨htimer', hwanted'⟩ := m_reconnectTimer_setState (t := u) .Disconnected
  have hintended : ((u.setState .Disconnected).log
      .disconnected).client.m_intentionalDisconnect = true := by
    rw [log, hwanted', hu]
    exact hwanted
  rw [onSocketDisconnected, ← hu]
  rw [if_neg (by rw [hintended]; decide), log, htimer', hu]
  rfl

lemma timer_disconnectFromHost (hwanted : t.client.m_intentionalDisconnect = true) :
    (t.disconnectFromHost io).client.m_reconnectTimer = t.client.m_reconnectTimer := by
  rw [disconnectFromHost]
  split
  · rfl
  · rfl
  · rfl
  · split_ifs
    · rw [closed]
      split
      · exact timer_onSocketDisconnected (t := t.setSocket {}) hwanted
      · exact timer_onSocketDisconnected (t := t.setSocket {}) hwanted
      · rfl
    · rfl

lemma timer_disconnectFromBroker :
    (t.disconnectFromBroker json io).client.m_reconnectTimer = none := by
  have hcalm : Calm t.stopTimers (t.stopTimers.sayGoodbye json) := calm_sayGoodbye
  obtain ⟨u, hu⟩ : ∃ u, u = t.stopTimers.sayGoodbye json := ⟨_, rfl⟩
  rw [← hu] at hcalm
  have hutimer : u.client.m_reconnectTimer = none := hcalm.timer
  have huwanted : u.client.m_intentionalDisconnect = true := by
    rw [Calm] at hcalm
    rw [hcalm]
    rfl
  rw [disconnectFromBroker]
  rw [← hu, setBuffer]
  refine (m_reconnectTimer_setState _).1.trans ?_
  split_ifs
  · exact (timer_disconnectFromHost huwanted).trans hutimer
  · exact hutimer

/-! ### One event -/

/-- A socket that is connecting, or on its way out, has no attempt scheduled behind it. -/
lemma idle_disconnectFromHost (h : Idle t.client) : Idle (t.disconnectFromHost io).client := by
  rw [disconnectFromHost]
  split
  · exact h
  · rename_i hstate
    exact idle_of_none (h.timer_eq_none (by simp [hstate]))
  · rename_i hstate
    exact idle_of_none (h.timer_eq_none (by simp [hstate]))
  · rename_i hunconnected _ _
    split_ifs
    · exact idle_closed h
    · exact idle_of_none (h.timer_eq_none hunconnected)

/-- **One event.** -/
lemma idle_react {e : MqttEvent} (h : Idle t.client) (hconsiderate : Considerate t.client (e, io)) :
    Idle (t.react json io e).client := by
  cases e with
  | connectToBroker host port =>
      exact idle_of_none (timer_connectToBroker hconsiderate.1 hconsiderate.2)
  | disconnectFromBroker => exact idle_of_none timer_disconnectFromBroker
  | publishOnlinePresence device => exact calm_publishOnlinePresence.idle h
  | publishOfflinePresence deviceId => exact calm_publishOfflinePresence.idle h
  | broadcastDiscoveryRequest deviceId => exact calm_broadcastDiscoveryRequest.idle h
  | socketConnected =>
      rw [react]
      split_ifs with hstate hpending
      · refine idle_disconnectFromHost (idle_of_none ?_)
        exact h.timer_eq_none (QSslSocket.state_ne_of_isConnecting hstate)
      · exact idle_of_none (h.timer_eq_none (QSslSocket.state_ne_of_isConnecting hstate))
      · exact h
  | socketEncrypted =>
      rw [react]
      split_ifs with hstate
      · have htimer : t.client.m_reconnectTimer = none :=
          h.timer_eq_none (by simp [hstate.1])
        exact idle_of_none ((m_reconnectTimer_setState _).1.trans htimer)
      · exact h
  | readyRead data =>
      rw [react]
      split_ifs with hstate
      · rw [Bool.and_eq_true] at hstate
        exact idle_processLoop (t := t.setBuffer (t.client.m_receiveBuffer ++ data))
          ⟨h.state, h.wanted, h.socket⟩ hstate.1
      · exact h
  | socketError errorMsg => exact h
  | connectionFailed errorMsg =>
      rw [react]
      split_ifs with hstate
      · exact idle_of_none (h.timer_eq_none (QSslSocket.state_ne_of_isConnecting hstate))
      · exact h
  | sslErrors =>
      rw [react]
      split_ifs with hstate
      · exact idle_closed h
      · exact h
  | socketDisconnected =>
      rw [react]
      split_ifs
      · exact idle_closed h
      · exact h
  | pingTimer =>
      rw [react]
      split_ifs
      · rw [onPingTimer]
        split_ifs
        · exact ⟨h.state, h.wanted, h.socket⟩
        · exact h
      · exact h
  | pingTimeout =>
      rw [react]
      split_ifs
      · have hping : Idle (t.setPing false t.client.m_pingOutstanding).client :=
          ⟨h.state, h.wanted, h.socket⟩
        rw [onPingTimeout]
        split_ifs
        · exact idle_closed hping
        · exact hping
      · exact h
  | reconnectTimer =>
      rw [react]
      split_ifs with hactive
      · have hopen : t.client.m_socket.isOpen = false := by
          rw [QSslSocket.isOpen, h.socket hactive]
          rfl
        rw [onReconnectTimer]
        split_ifs
        · exact idle_of_none rfl
        · exact idle_of_none (timer_connectToBroker rfl hopen)
      · exact h

end MqttTurn

/-! ### Runs -/

variable {json : JsonCodec} {config : MqttConfig} {es : List (MqttEvent × MqttIo)}
  {log : List MqttDeed} {s : MqttSignalingClient}

/-- **No self-inflicted reconnects.** While `connectToBroker` is called with no attempt
scheduled and no connection to abort, the timer is active only in a client that is
disconnected, does not want to be, and has no socket open. -/
theorem no_self_inflicted_reconnects
    (hrun : Run (MqttSignalingClient.machine json) Considerate { config } es log s)
    (hactive : s.m_reconnectTimer.isSome = true) :
    s.m_state = .Disconnected ∧ s.m_intentionalDisconnect = false ∧
      s.m_socket.state = .UnconnectedState := by
  have hidle : Idle s := by
    refine hrun.invariant (idle_of_none rfl) ?_
    rintro s ⟨e, io⟩ h hconsiderate
    exact MqttTurn.idle_react (t := ⟨s, []⟩) h hconsiderate
  exact ⟨hidle.state hactive, hidle.wanted hactive, hidle.socket hactive⟩

/-! ### Two runs -/

/-- A client after some events. -/
def clientAfter (es : List MqttEvent) : MqttSignalingClient :=
  ((MqttSignalingClient.machine QJson.compact).exec { config := { deviceId := "mc_0001" } }
    (es.map fun e => (e, {}))).2

/-- The connection is lost. -/
def connectAndLose : List MqttEvent :=
  [.connectToBroker "" 0, .socketConnected, .socketEncrypted, .socketDisconnected]

theorem no_self_inflicted_reconnects_lost :
    (clientAfter connectAndLose).m_reconnectTimer = some 1000 ∧
      (clientAfter connectAndLose).m_state = .Disconnected := by
  have htimer : (clientAfter connectAndLose).m_reconnectTimer = some 1000 := by decide +kernel
  have hconsiderate : (MqttSignalingClient.machine QJson.compact).Allows Considerate
      { config := { deviceId := "mc_0001" } } (connectAndLose.map fun e => (e, {})) :=
    ⟨⟨rfl, rfl⟩, trivial, trivial, trivial, trivial⟩
  exact ⟨htimer, (no_self_inflicted_reconnects (Run.exec hconsiderate)
    (congrArg Option.isSome htimer)).1⟩

/-- `connectToBroker` is called again while the client is connected. -/
def connectAgain : List MqttEvent :=
  [.connectToBroker "" 0, .socketConnected, .socketEncrypted, .connectToBroker "" 0]

theorem reconnect_into_attempt :
    (clientAfter connectAgain).m_reconnectTimer.isSome = true ∧
      (clientAfter connectAgain).m_state = .Connecting := by
  decide +kernel

end MeckChat.Network
