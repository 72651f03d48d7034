import MeckChat.Network.P2PSocket

/-!
The state of the peer-to-peer socket beside the one of its `QTcpSocket`.

* `ClientLink` adds to the socket what its `QTcpSocket` remembers of a close, and
  `LinkEvent` is a call of the class or an event of the `QTcpSocket`: a change of its
  state together with the signals that come with it.
* `ClientLink.Possible` says which events a `QTcpSocket` can produce in a state.
* `ClientLink.FollowsSocket` is what the state of the class promises about the one of
  the `QTcpSocket`.
* `ClientLink.Completes` is the condition under which a step keeps the promise:
  `followsSocket_step`.
* `state_follows_socket`: a run keeps the promise exactly if all its steps complete.
-/

namespace MeckChat.Network

open MeckChat.Protocol

/-- The connection is not established yet. -/
def SocketState.isAttempt : SocketState → Bool
  | .HostLookupState => true
  | .ConnectingState => true
  | _ => false

/-- The events of the accepted connections. -/
def SocketEvent.isServerSide : SocketEvent → Bool
  | .stopServer => true
  | .newConnection _ _ => true
  | .clientReadyRead _ _ => true
  | .clientDisconnected _ => true
  | .clientIs _ _ => true
  | _ => false

/-- The socket of the class, and whether its `QTcpSocket` is to close as soon as the
connection is established: `disconnectFromHost` waits for that. -/
structure ClientLink where
  p2p : P2PSocket := {}
  pendingClose : Bool := false

/-- The calls of the class and the events of its `QTcpSocket`. An error that
`connectToHost` reports before it returns is an event of its own. -/
inductive LinkEvent where
  | connectToPeer (virtualIp : String)
  | disconnectFromPeer
  | sendFrame (frame : P2PFrame)
  | hostFound
  | connected (peerAddress : String)
  | connectFailed (error : String)
  | disconnected
  | readyRead (data : Bytes)
  | bytesWritten
  | errorOccurred (error : String)
  | server (event : SocketEvent)
  deriving DecidableEq, Repr

/-- What the class sees of an event: changes of the `QTcpSocket` and signals, in order. -/
def LinkEvent.parts : LinkEvent → List SocketEvent
  | .connectToPeer virtualIp => [.connectToPeer virtualIp]
  | .disconnectFromPeer => [.disconnectFromPeer]
  | .sendFrame frame => [.sendFrame frame]
  | .hostFound => [.socketIs ⟨.ConnectingState, ""⟩]
  | .connected peerAddress => [.socketIs ⟨.ConnectedState, peerAddress⟩, .connected]
  -- a failed attempt ends without `disconnected`
  | .connectFailed error => [.socketIs ⟨.UnconnectedState, ""⟩, .errorOccurred error]
  | .disconnected => [.socketIs ⟨.UnconnectedState, ""⟩, .disconnected]
  | .readyRead data => [.readyRead data]
  | .bytesWritten => [.bytesWritten]
  | .errorOccurred error => [.errorOccurred error]
  | .server event => [event]

/-! ### The states after a call -/

namespace SocketTurn

variable (io : SocketIo) (t : SocketTurn)

/-- `m_state` and the state of the `QTcpSocket`. -/
def states : P2PState × SocketState := (t.socket.m_state, t.socket.m_socket.state)

@[simp] lemma states_setState (state : P2PState) :
    (t.setState state).states = (state, t.socket.m_socket.state) := by
  rw [states, m_state_setState, m_socket_setState]

@[simp] lemma states_flushWriteQueue : (t.flushWriteQueue io).states = t.states := by
  rw [states, m_state_flushWriteQueue, m_socket_flushWriteQueue, states]

@[simp] lemma states_onSocketConnected :
    (t.onSocketConnected io).states = (.Connected, t.socket.m_socket.state) := by
  rw [onSocketConnected, states_flushWriteQueue]
  exact states_setState t .Connected

@[simp] lemma states_onSocketDisconnected :
    t.onSocketDisconnected.states = (.Disconnected, t.socket.m_socket.state) :=
  states_setState t .Disconnected

lemma states_disconnectFromHost :
    (t.disconnectFromHost io).states =
      if io.closesAtOnce then (.Disconnected, .UnconnectedState)
      else (t.socket.m_state, io.closing) := by
  rw [disconnectFromHost]
  split_ifs
  · exact states_onSocketDisconnected _
  · rfl

/-- `disconnectFromPeer` on a socket that is connected, or being connected. -/
lemma states_disconnectFromPeer
    (h : t.socket.m_state ≠ .Disconnected ∧ t.socket.m_state ≠ .Closing) :
    (t.disconnectFromPeer io).states =
      if t.socket.m_socket.state = .UnconnectedState then (.Closing, .UnconnectedState)
      else if io.closesAtOnce then (.Disconnected, .UnconnectedState)
      else (.Closing, io.closing) := by
  rw [disconnectFromPeer, if_pos h]
  dsimp only
  rw [m_socket_setState]
  by_cases hidle : t.socket.m_socket.state = .UnconnectedState
  · rw [if_neg (not_not.mpr hidle), if_pos hidle, states_setState, hidle]
  · rw [if_pos hidle, if_neg hidle, states_disconnectFromHost, m_state_setState]

lemma states_connectToHost (virtualIp : String) :
    (t.connectToHost io virtualIp).states =
      if t.socket.m_socket.state ≠ .UnconnectedState then t.states
      else if io.connecting = .ConnectedState then (.Connected, .ConnectedState)
      else (t.socket.m_state, io.connecting) := by
  rw [connectToHost]
  dsimp only
  rw [log]
  split_ifs
  · rfl
  · exact states_onSocketConnected io _
  · rfl

/-- `sendFrame` changes no state. -/
lemma states_sendFrame (frame : P2PFrame) : (t.sendFrame io frame).1.states = t.states := by
  rw [sendFrame]
  split_ifs
  · exact states_flushWriteQueue io (t.enqueue frame)
  · rfl
  · rfl

/-- The accepted connections do not touch the client socket. -/
lemma states_serverSide {event : SocketEvent} (h : event.isServerSide = true) :
    (P2PSocket.react event io t).states = t.states := by
  cases event with
  | stopServer => rfl
  | newConnection client peerIp =>
      rw [P2PSocket.react, onServerNewConnection]
      split_ifs <;> rfl
  | clientReadyRead client data =>
      rw [P2PSocket.react, onClientReadyRead]
      cases t.socket.m_serverClientBuffers.value? client <;> rfl
  | clientDisconnected client =>
      rw [P2PSocket.react, onClientDisconnected]
      cases t.socket.m_serverClientBuffers.value? client <;> rfl
  | clientIs client socket =>
      rw [P2PSocket.react]
      cases t.socket.m_serverClientBuffers.value? client <;> rfl
  | _ => cases h

end SocketTurn

/-! ### Runs -/

namespace ClientLink

open SocketTurn

/-- `m_state`. -/
def state (l : ClientLink) : P2PState := l.p2p.m_state

/-- `m_socket->state()`. -/
def tcp (l : ClientLink) : SocketState := l.p2p.m_socket.state

/-- `disconnectFromPeer` has something to close. -/
def IsOpen (l : ClientLink) : Prop := l.state = .Connected ∨ l.state = .Connecting

instance (l : ClientLink) : Decidable l.IsOpen := inferInstanceAs (Decidable (_ ∨ _))

/-- What an event does to the socket. -/
def react (l : ClientLink) (event : LinkEvent) (io : SocketIo) : SocketTurn :=
  let t := event.parts.foldl (fun t e => P2PSocket.react e io t) { socket := l.p2p }
  match event with
  | .connected _ => if l.pendingClose then t.disconnectFromHost io else t
  | _ => t

/-- Whether the `QTcpSocket` is to close once it is connected, after an event. -/
def pendingCloseAfter (l : ClientLink) : LinkEvent → Bool
  | .connectToPeer _ => l.pendingClose || (l.IsOpen && l.tcp.isAttempt)
  | .disconnectFromPeer => l.pendingClose || (l.IsOpen && l.tcp.isAttempt)
  | .connected _ => false
  | .connectFailed _ => false
  | _ => l.pendingClose

/-- One event. -/
def step (l : ClientLink) (event : LinkEvent) (io : SocketIo) :
    ClientLink × List SocketEffect :=
  let t := l.react event io
  (⟨t.socket, l.pendingCloseAfter event⟩, t.effects)

/-- The socket with its `QTcpSocket` as a machine. -/
def machine : Machine ClientLink (LinkEvent × SocketIo) SocketEffect where
  step l e := l.step e.1 e.2

/-- How `disconnectFromHost` leaves the `QTcpSocket`: while it is being connected the close
waits, else it is closing as long as data is to be written. -/
def Closes (l : ClientLink) (io : SocketIo) : Prop :=
  if l.tcp.isAttempt then io.closesAtOnce = false ∧ io.closing = l.tcp
  else io.closing = .ClosingState

/-- The events that a `QTcpSocket` can produce. -/
def Possible (l : ClientLink) : LinkEvent × SocketIo → Prop
  | (.connectToPeer _, io) => l.Closes io ∧ io.connecting ≠ .ClosingState
  | (.disconnectFromPeer, io) => l.Closes io
  | (.sendFrame _, _) => True
  | (.hostFound, _) => l.tcp = .HostLookupState
  | (.connected _, io) => l.tcp.isAttempt = true ∧ io.closing = .ClosingState
  | (.connectFailed _, _) => l.tcp.isAttempt = true
  | (.disconnected, _) => l.tcp = .ConnectedState ∨ l.tcp = .ClosingState
  | (.readyRead _, _) => l.tcp = .ConnectedState ∨ l.tcp = .ClosingState
  | (.bytesWritten, _) => l.tcp = .ConnectedState ∨ l.tcp = .ClosingState
  | (.errorOccurred _, _) => True
  | (.server event, _) => event.isServerSide = true

/-- `m_state` follows the `QTcpSocket`. -/
structure FollowsSocket (l : ClientLink) : Prop where
  connected : l.state = .Connected → l.tcp = .ConnectedState
  unfinished : l.state = .Connecting ∨ l.state = .Closing → l.tcp ≠ .UnconnectedState

/-- What a socket that is not connected any more ends in. -/
lemma FollowsSocket.ended {l : ClientLink} (h : l.FollowsSocket)
    (htcp : l.tcp = .UnconnectedState) : l.state = .Disconnected := by
  cases hstate : l.state with
  | Disconnected => rfl
  | Connecting => exact absurd htcp (h.unfinished (Or.inl hstate))
  | Connected => exact absurd ((h.connected hstate).symm.trans htcp) nofun
  | Closing => exact absurd htcp (h.unfinished (Or.inr hstate))

/-- `connectToPeer` calls `connectToHost` on a socket that is not unconnected. -/
def Refuses (l : ClientLink) (io : SocketIo) : Prop :=
  l.tcp ≠ .UnconnectedState ∧ ¬(l.IsOpen ∧ io.closesAtOnce = true)

/-- No attempt fails, neither at once nor later, and a connection that was to close before
it was established closes as soon as it is. -/
def Completes (l : ClientLink) : LinkEvent × SocketIo → Prop
  | (.connectToPeer _, io) => io.connecting = .UnconnectedState → l.Refuses io
  | (.connected _, io) => l.pendingClose = true → io.closesAtOnce = true
  | (.connectFailed _, _) => False
  | _ => True

/-! ### What a step does to the states -/

variable {l : ClientLink} {io : SocketIo}

/-- `m_state` and the state of the `QTcpSocket`. -/
def states (l : ClientLink) : P2PState × SocketState := (l.state, l.tcp)

lemma step_fst (l : ClientLink) (event : LinkEvent) (io : SocketIo) :
    (l.step event io).1.states = (l.react event io).states := rfl

lemma isOpen_iff : l.IsOpen ↔ l.state ≠ .Disconnected ∧ l.state ≠ .Closing := by
  rw [IsOpen]
  cases l.state <;> simp

/-- A close does not leave the `QTcpSocket` connected, and only one that is done at once
leaves it unconnected. -/
lemma Closes.closing (h : l.Closes io) :
    io.closing ≠ .UnconnectedState ∧ io.closing ≠ .ConnectedState := by
  rw [Closes] at h
  split_ifs at h with hattempt
  · rw [h.2]
    constructor
    · intro hidle
      rw [hidle] at hattempt
      cases hattempt
    · intro hconnected
      rw [hconnected] at hattempt
      cases hattempt
  · rw [h]
    exact ⟨nofun, nofun⟩

/-- What holds of the two states in every run: a disconnected socket has no connection,
and a `QTcpSocket` that is connected has told so. -/
structure Coherent (l : ClientLink) : Prop where
  idle : l.state = .Disconnected → l.tcp = .UnconnectedState
  established : l.tcp = .ConnectedState → l.state = .Connected

variable (io) in
lemma states_disconnectFromPeer (hopen : l.IsOpen) :
    (l.step .disconnectFromPeer io).1.states =
      if l.tcp = .UnconnectedState then (.Closing, .UnconnectedState)
      else if io.closesAtOnce then (.Disconnected, .UnconnectedState)
      else (.Closing, io.closing) :=
  SocketTurn.states_disconnectFromPeer io { socket := l.p2p } (isOpen_iff.mp hopen)

/-- The state of the `QTcpSocket` when `connectToPeer` calls `connectToHost`. -/
def dialled (l : ClientLink) (io : SocketIo) : SocketState :=
  if l.IsOpen ∧ l.tcp ≠ .UnconnectedState then
    if io.closesAtOnce then .UnconnectedState else io.closing
  else l.tcp

lemma states_connectToPeer (l : ClientLink) (io : SocketIo) (virtualIp : String) :
    (l.step (.connectToPeer virtualIp) io).1.states =
      if l.dialled io ≠ .UnconnectedState then (.Connecting, l.dialled io)
      else if io.connecting = .ConnectedState then (.Connected, .ConnectedState)
      else (.Connecting, io.connecting) := by
  obtain ⟨u, hu, htcp⟩ : ∃ u : SocketTurn, u = (if l.IsOpen then
      disconnectFromPeer io { socket := l.p2p } else { socket := l.p2p }) ∧
      u.socket.m_socket.state = l.dialled io := by
    refine ⟨_, rfl, ?_⟩
    by_cases hopen : l.IsOpen
    · have hstates := states_disconnectFromPeer io hopen
      rw [if_pos hopen, dialled]
      refine (congrArg Prod.snd hstates).trans ?_
      by_cases hidle : l.tcp = .UnconnectedState
      · rw [if_pos hidle, if_neg (fun h => h.2 hidle), hidle]
      · have hcall : l.IsOpen ∧ l.tcp ≠ .UnconnectedState := ⟨hopen, hidle⟩
        rw [if_neg hidle, if_pos hcall]
        split_ifs <;> rfl
    · rw [if_neg hopen, dialled, if_neg (fun h => hopen h.1)]
      rfl
  have hreact : l.react (.connectToPeer virtualIp) io =
      (u.clearBuffers.setState .Connecting).connectToHost io virtualIp := by
    rw [hu]
    rfl
  rw [step_fst, hreact, states_connectToHost, states_setState, m_socket_setState,
    m_state_setState]
  change (if u.socket.m_socket.state ≠ _ then (_, u.socket.m_socket.state) else _) = _
  rw [htcp]

lemma states_disconnectFromPeer_of_not (hopen : ¬l.IsOpen) :
    (l.step .disconnectFromPeer io).1.states = l.states := by
  have hcall : disconnectFromPeer io { socket := l.p2p } = { socket := l.p2p } :=
    if_neg fun h => hopen (isOpen_iff.mpr h)
  exact congrArg SocketTurn.states hcall

lemma states_connected (l : ClientLink) (io : SocketIo) (peerAddress : String) :
    (l.step (.connected peerAddress) io).1.states =
      if l.pendingClose then
        if io.closesAtOnce then (.Disconnected, .UnconnectedState) else (.Connected, io.closing)
      else (.Connected, .ConnectedState) := by
  obtain ⟨u, hu⟩ : ∃ u : SocketTurn, u = onSocketConnected io
      { socket := { l.p2p with m_socket := ⟨.ConnectedState, peerAddress⟩ } } := ⟨_, rfl⟩
  have hstates : u.states = (.Connected, .ConnectedState) := by
    rw [hu]
    exact states_onSocketConnected io _
  have hreact : l.react (.connected peerAddress) io =
      if l.pendingClose then u.disconnectFromHost io else u := by
    rw [hu]
    rfl
  rw [step_fst, hreact]
  split_ifs with hpending hclosed
  · rw [states_disconnectFromHost, if_pos hclosed]
  · rw [states_disconnectFromHost, if_neg hclosed]
    exact congrArg (fun state => (state, io.closing)) (congrArg Prod.fst hstates)
  · exact hstates

/-! ### Every step -/

lemma coherent_of_states {l' : ClientLink} {m : P2PState} {tcp : SocketState}
    (h : l'.states = (m, tcp)) (hidle : m = .Disconnected → tcp = .UnconnectedState)
    (hestablished : tcp = .ConnectedState → m = .Connected) : l'.Coherent := by
  obtain ⟨rfl, rfl⟩ := Prod.mk.inj h
  exact ⟨hidle, hestablished⟩

lemma Coherent.congr {l' : ClientLink} (h : l.Coherent) (hl : l'.states = l.states) :
    l'.Coherent :=
  coherent_of_states hl h.idle h.established

lemma followsSocket_iff_of_states {l' : ClientLink} {m : P2PState} {tcp : SocketState}
    (h : l'.states = (m, tcp)) :
    l'.FollowsSocket ↔ (m = .Connected → tcp = .ConnectedState) ∧
      (m = .Connecting ∨ m = .Closing → tcp ≠ .UnconnectedState) := by
  obtain ⟨rfl, rfl⟩ := Prod.mk.inj h
  exact ⟨fun h => ⟨h.connected, h.unfinished⟩, fun h => ⟨h.1, h.2⟩⟩

lemma FollowsSocket.congr {l' : ClientLink} (h : l.FollowsSocket) (hl : l'.states = l.states) :
    l'.FollowsSocket :=
  (followsSocket_iff_of_states hl).mpr ⟨h.connected, h.unfinished⟩

/-- Whether `connectToHost` is refused can be read off before the call. -/
lemma dialled_ne_iff (hcloses : l.Closes io) :
    l.dialled io ≠ .UnconnectedState ↔ l.Refuses io := by
  rw [dialled, Refuses]
  have hclosing := hcloses.closing.1
  split_ifs with hopen hclosed
  · exact iff_of_false (fun h => h rfl) fun h => h.2 ⟨hopen.1, hclosed⟩
  · exact iff_of_true hclosing ⟨hopen.2, fun h => hclosed h.2⟩
  · constructor
    · exact fun h => ⟨h, fun h' => hopen ⟨h'.1, h⟩⟩
    · exact fun h => h.1

/-- `connectToPeer` does not go on with the old connection. -/
lemma dialled_ne_connected (h : l.Coherent) (hcloses : l.Closes io) :
    l.dialled io ≠ .ConnectedState := by
  rw [dialled]
  split_ifs with hopen hclosed
  · exact nofun
  · exact hcloses.closing.2
  · intro htcp
    exact hopen ⟨Or.inl (h.established htcp), by rw [htcp]; exact nofun⟩

lemma coherent_step (h : l.Coherent) {e : LinkEvent × SocketIo} (hp : l.Possible e) :
    (l.step e.1 e.2).1.Coherent := by
  obtain ⟨event, io⟩ := e
  cases event with
  | connectToPeer virtualIp =>
      have hstates := states_connectToPeer l io virtualIp
      split_ifs at hstates with hrefused hconnected
      · exact coherent_of_states hstates nofun
          fun htcp => absurd htcp (dialled_ne_connected h hp.1)
      · exact coherent_of_states hstates nofun fun _ => rfl
      · exact coherent_of_states hstates nofun fun htcp => absurd htcp hconnected
  | disconnectFromPeer =>
      by_cases hopen : l.IsOpen
      · have hstates := states_disconnectFromPeer io hopen
        split_ifs at hstates
        · exact coherent_of_states hstates nofun nofun
        · exact coherent_of_states hstates (fun _ => rfl) nofun
        · exact coherent_of_states hstates nofun fun htcp => absurd htcp (Closes.closing hp).2
      · exact h.congr (states_disconnectFromPeer_of_not hopen)
  | sendFrame frame => exact h.congr (states_sendFrame io { socket := l.p2p } frame)
  | hostFound =>
      refine coherent_of_states rfl (fun hidle => ?_) nofun
      exact absurd ((h.idle hidle).symm.trans hp) nofun
  | connected peerAddress =>
      have hstates := states_connected l io peerAddress
      split_ifs at hstates
      · exact coherent_of_states hstates (fun _ => rfl) nofun
      · exact coherent_of_states hstates nofun fun _ => rfl
      · exact coherent_of_states hstates nofun fun _ => rfl
  | connectFailed error => exact coherent_of_states rfl (fun _ => rfl) nofun
  | disconnected =>
      exact coherent_of_states (states_onSocketDisconnected _) (fun _ => rfl) nofun
  | readyRead data => exact h.congr rfl
  | bytesWritten => exact h.congr (states_flushWriteQueue io _)
  | errorOccurred error => exact h.congr rfl
  | server event => exact h.congr (states_serverSide io _ hp)

/-- **One step.** -/
theorem followsSocket_step (h : l.Coherent) (hl : l.FollowsSocket) {e : LinkEvent × SocketIo}
    (hp : l.Possible e) : (l.step e.1 e.2).1.FollowsSocket ↔ l.Completes e := by
  obtain ⟨event, io⟩ := e
  cases event with
  | connectToPeer virtualIp =>
      have hstates := states_connectToPeer l io virtualIp
      have hrefuses := dialled_ne_iff hp.1
      split_ifs at hstates with hrefused hconnected
      · rw [followsSocket_iff_of_states hstates]
        exact iff_of_true ⟨nofun, fun _ => hrefused⟩ fun _ => hrefuses.mp hrefused
      · rw [followsSocket_iff_of_states hstates]
        refine iff_of_true ⟨fun _ => rfl, nofun⟩ fun hfails => ?_
        exact absurd (hfails.symm.trans hconnected) nofun
      · rw [followsSocket_iff_of_states hstates]
        constructor
        · exact fun hfollows hfails => absurd hfails (hfollows.2 (Or.inl rfl))
        · exact fun hcomplete =>
            ⟨nofun, fun _ hfails => hrefused (hrefuses.mpr (hcomplete hfails))⟩
  | disconnectFromPeer =>
      refine iff_of_true ?_ trivial
      by_cases hopen : l.IsOpen
      · have hstates := states_disconnectFromPeer io hopen
        split_ifs at hstates with hidle hclosed
        · rcases hopen with hstate | hstate
          · exact absurd (hidle.symm.trans (hl.connected hstate)) nofun
          · exact absurd hidle (hl.unfinished (Or.inl hstate))
        · exact (followsSocket_iff_of_states hstates).mpr ⟨nofun, nofun⟩
        · exact (followsSocket_iff_of_states hstates).mpr
            ⟨nofun, fun _ => (Closes.closing hp).1⟩
      · exact hl.congr (states_disconnectFromPeer_of_not hopen)
  | sendFrame frame =>
      exact iff_of_true (hl.congr (states_sendFrame io { socket := l.p2p } frame)) trivial
  | hostFound =>
      refine iff_of_true ⟨fun hstate => ?_, fun _ => nofun⟩ trivial
      exact absurd ((hl.connected hstate).symm.trans hp) nofun
  | connected peerAddress =>
      have hstates := states_connected l io peerAddress
      have hclosing : io.closing = .ClosingState := hp.2
      split_ifs at hstates with hpending hclosed
      · rw [followsSocket_iff_of_states hstates]
        exact iff_of_true ⟨nofun, nofun⟩ fun _ => hclosed
      · rw [followsSocket_iff_of_states hstates, hclosing]
        exact iff_of_false (fun hfollows => absurd (hfollows.1 rfl) nofun)
          fun hcomplete => hclosed (hcomplete hpending)
      · rw [followsSocket_iff_of_states hstates]
        exact iff_of_true ⟨fun _ => rfl, nofun⟩ fun h => absurd h hpending
  | connectFailed error =>
      -- the attempt was under way, and nothing sets the state
      refine iff_of_false (fun hfollows => ?_) (fun hfalse => hfalse)
      have hdisconnected : l.state = .Disconnected := hfollows.ended rfl
      have hattempt : l.tcp.isAttempt = true := hp
      rw [h.idle hdisconnected] at hattempt
      cases hattempt
  | disconnected =>
      have hstates : (l.step .disconnected io).1.states = (.Disconnected, .UnconnectedState) :=
        states_onSocketDisconnected _
      rw [followsSocket_iff_of_states hstates]
      exact iff_of_true ⟨nofun, nofun⟩ trivial
  | readyRead data => exact iff_of_true (hl.congr rfl) trivial
  | bytesWritten => exact iff_of_true (hl.congr (states_flushWriteQueue io _)) trivial
  | errorOccurred error => exact iff_of_true (hl.congr rfl) trivial
  | server event => exact iff_of_true (hl.congr (states_serverSide io _ hp)) trivial

/-- **`P2PState` follows the socket.** In every run of a new socket, whatever the calls and
the order of the events of its `QTcpSocket`: the state of the class follows the one of the
`QTcpSocket` after every event exactly if all steps complete; and then a socket whose
`QTcpSocket` is unconnected is disconnected. -/
theorem state_follows_socket {es : List (LinkEvent × SocketIo)}
    (hes : machine.Allows Possible {} es) :
    ((∀ pre, pre <+: es → (machine.exec {} pre).2.FollowsSocket) ↔
      machine.Allows Completes {} es) ∧
    (machine.Allows Completes {} es → ∀ pre, pre <+: es →
      (machine.exec {} pre).2.tcp = .UnconnectedState →
        (machine.exec {} pre).2.state = .Disconnected) := by
  have hfollows : (∀ pre, pre <+: es → (machine.exec {} pre).2.FollowsSocket) ↔
      machine.Allows Completes {} es := by
    refine machine.allows_iff (J := Coherent) (fun l e h hp => coherent_step h hp)
      (fun l e h hl hp => followsSocket_step h hl hp) ?_ ?_ hes
    · exact ⟨fun _ => rfl, nofun⟩
    · exact ⟨nofun, nofun⟩
  exact ⟨hfollows, fun hcomplete pre hpre => (hfollows.mpr hcomplete pre hpre).ended⟩

/-- A connection that is closed before it is established. -/
def closedEarly : List (LinkEvent × SocketIo) :=
  [(.connectToPeer "10.77.0.2", {}), (.disconnectFromPeer, { closing := .ConnectingState }),
    (.connected "10.77.0.2", { closesAtOnce := true })]

/-- A connection that is closed before it is established ends disconnected. -/
theorem state_follows_socket_closedEarly :
    (machine.exec {} closedEarly).2.state = .Disconnected := by
  have hpossible : machine.Allows Possible {} closedEarly :=
    ⟨⟨rfl, nofun⟩, ⟨rfl, rfl⟩, ⟨rfl, rfl⟩, trivial⟩
  have hcomplete : machine.Allows Completes {} closedEarly :=
    ⟨nofun, trivial, fun _ => rfl, trivial⟩
  exact (state_follows_socket hpossible).2 hcomplete _ List.prefix_rfl rfl

/-- A connection that is refused by the peer. -/
def refusedByPeer : List (LinkEvent × SocketIo) :=
  [(.connectToPeer "10.77.0.2", {}), (.connectFailed "Connection refused", {})]

/-- After a failed attempt the socket is connecting, with an unconnected `QTcpSocket`. -/
theorem connecting_after_failure :
    machine.Allows Possible {} refusedByPeer ∧
      (machine.exec {} refusedByPeer).2.state = .Connecting ∧
      (machine.exec {} refusedByPeer).2.tcp = .UnconnectedState ∧
      ¬(machine.exec {} refusedByPeer).2.FollowsSocket := by
  have hstate : (machine.exec {} refusedByPeer).2.state = .Connecting := rfl
  have htcp : (machine.exec {} refusedByPeer).2.tcp = .UnconnectedState := rfl
  exact ⟨⟨⟨rfl, nofun⟩, rfl, trivial⟩, hstate, htcp,
    fun hfollows => hfollows.unfinished (Or.inl hstate) htcp⟩

end ClientLink

end MeckChat.Network
