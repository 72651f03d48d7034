import MeckChat.Foundation.Run
import MeckChat.Network.StreamBuffer
import MeckChat.Qt.QMap

/-!
The socket of the peer-to-peer link (`p2p_socket.cpp`).

* `P2PSocket` is the state of the class: the client socket with its buffers, and
  the connections that the server has accepted.
* `SocketIo` is what the operating system decides during one call, and
  `SocketEffect` what a call does that can be seen from outside.
* In the namespace `SocketTurn`: the public calls and slots under the names of
  the source, on a state and what was done so far.
* `SocketEvent` is what can happen to a socket and `P2PSocket.machine` runs it.
-/

namespace MeckChat.Network

open MeckChat.Protocol

/-- `MAX_OUTGOING_QUEUE_SIZE`, 16 MiB. -/
def MAX_OUTGOING_QUEUE_SIZE : ℤ := 16 * 1024 * 1024

/-- `MAX_CONCURRENT_CONNECTIONS`. -/
def MAX_CONCURRENT_CONNECTIONS : ℕ := 32

/-- `P2PState`. -/
inductive P2PState where
  | Disconnected
  | Connecting
  | Connected
  | Closing
  deriving DecidableEq, Repr

/-- `QAbstractSocket::SocketState`, for TCP clients. -/
inductive SocketState where
  | UnconnectedState
  | HostLookupState
  | ConnectingState
  | ConnectedState
  | ClosingState
  deriving DecidableEq, Repr

/-- What is used of a `QTcpSocket`. -/
structure QTcpSocket where
  state : SocketState := .UnconnectedState
  peerAddress : String := ""
  deriving DecidableEq, Repr

/-- A connection that the server has accepted, with its entry in
`m_serverClientBuffers`. -/
structure ServerClient where
  socket : QTcpSocket
  buffer : Bytes := []
  deriving DecidableEq, Repr

/-- `P2PSocket`. Accepted connections are known by the number of their
socket. -/
structure P2PSocket where
  m_socket : QTcpSocket := {}
  m_state : P2PState := .Disconnected
  m_readBuffer : Bytes := []
  m_outgoingQueue : List Bytes := []
  m_queuedBytes : ℤ := 0
  m_serverClientBuffers : QMap ℕ ServerClient := ∅

namespace P2PSocket

/-- `P2PSocket::isConnected`. -/
def isConnected (s : P2PSocket) : Bool :=
  s.m_state = .Connected || !s.m_serverClientBuffers.isEmpty

/-- The condition under which `sendFrame` uses the client socket. -/
def clientReady (s : P2PSocket) : Bool :=
  s.m_state = .Connected && s.m_socket.state = .ConnectedState

/-- The accepted connections that `sendFrame` writes to. -/
def openClients (s : P2PSocket) : List QTcpSocket :=
  (s.m_serverClientBuffers.toList.map fun kc => kc.2.socket).filter (·.state = .ConnectedState)

end P2PSocket

/-- What a call does that can be seen from outside: the signals, and the bytes
handed on. `enqueued` is a frame put into `m_outgoingQueue`, `accepted` are the
bytes that a write to the client socket took, and `written` is a packet written
to an accepted connection, each with the address of the peer. -/
inductive SocketEffect where
  | stateChanged (new : P2PState)
  | connected
  | disconnected
  | frameReceivedFrom (frame : P2PFrame) (senderIp : String)
  | peerConnected (peerIp : String)
  | peerDisconnected (peerIp : String)
  | errorOccurred (error : String)
  | connectToHost (virtualIp : String)
  | enqueued (peerAddress : String) (frame : P2PFrame)
  | accepted (peerAddress : String) (bytes : Bytes)
  | written (peerAddress : String) (packet : Bytes)
  deriving DecidableEq, Repr

/-- What the operating system decides during one call. -/
structure SocketIo where
  /-- The results of the writes to the client socket, in order; `none` is -1, as
  is every write behind the last one. -/
  writes : List (Option ℕ) := []
  /-- Whether `disconnectFromHost` is done, and emits `disconnected`, before it
  returns. -/
  closesAtOnce : Bool := false
  /-- The state in which `disconnectFromHost` leaves the socket otherwise. -/
  closing : SocketState := .ClosingState
  /-- The state in which `connectToHost` leaves an unconnected socket; with
  `ConnectedState` it emits `connected` before it returns. -/
  connecting : SocketState := .ConnectingState
  deriving DecidableEq, Repr

/-- A socket while a call works on it. -/
structure SocketTurn where
  socket : P2PSocket
  effects : List SocketEffect := []

namespace SocketTurn

/-- Append to what was done. -/
def log (t : SocketTurn) (e : SocketEffect) : SocketTurn := { t with effects := t.effects ++ [e] }

/-- `P2PSocket::setState`. -/
def setState (t : SocketTurn) (state : P2PState) : SocketTurn :=
  if t.socket.m_state ≠ state then
    { t with socket.m_state := state, effects := t.effects ++ [.stateChanged state] }
  else t

@[simp] lemma m_state_setState (t : SocketTurn) (state : P2PState) :
    (t.setState state).socket.m_state = state := by
  rw [setState]
  split_ifs with h
  · rfl
  · exact not_not.mp h

@[simp] lemma m_outgoingQueue_setState (t : SocketTurn) (state : P2PState) :
    (t.setState state).socket.m_outgoingQueue = t.socket.m_outgoingQueue := by
  rw [setState]
  split_ifs <;> rfl

@[simp] lemma m_queuedBytes_setState (t : SocketTurn) (state : P2PState) :
    (t.setState state).socket.m_queuedBytes = t.socket.m_queuedBytes := by
  rw [setState]
  split_ifs <;> rfl

@[simp] lemma m_socket_setState (t : SocketTurn) (state : P2PState) :
    (t.setState state).socket.m_socket = t.socket.m_socket := by
  rw [setState]
  split_ifs <;> rfl

@[simp] lemma m_serverClientBuffers_setState (t : SocketTurn) (state : P2PState) :
    (t.setState state).socket.m_serverClientBuffers = t.socket.m_serverClientBuffers := by
  rw [setState]
  split_ifs <;> rfl

/-- `m_readBuffer.clear(); m_outgoingQueue.clear(); m_queuedBytes = 0`. -/
def clearBuffers (t : SocketTurn) : SocketTurn :=
  { t with socket.m_readBuffer := [], socket.m_outgoingQueue := [], socket.m_queuedBytes := 0 }

/-! ### Writing -/

/-- What the loop of `flushWriteQueue` leaves, and the bytes it got rid of. -/
structure Flushed where
  queue : List Bytes
  queuedBytes : ℤ
  accepted : List Bytes := []
  deriving DecidableEq, Repr

/-- The loop of `P2PSocket::flushWriteQueue`, on a connected socket. -/
def flushLoop : List Bytes → ℤ → List (Option ℕ) → Flushed
  | chunk :: queue, queuedBytes, some n :: writes =>
      let written := min n chunk.length
      if written = chunk.length then
        let r := flushLoop queue (queuedBytes - written) writes
        { r with accepted := chunk :: r.accepted }
      else if written > 0 then
        -- wait for `bytesWritten` before continuing
        ⟨chunk.drop written :: queue, queuedBytes - written, [chunk.take written]⟩
      else ⟨chunk :: queue, queuedBytes, []⟩
  | queue, queuedBytes, _ => ⟨queue, queuedBytes, []⟩

/-- `P2PSocket::flushWriteQueue`. -/
def flushWriteQueue (io : SocketIo) (t : SocketTurn) : SocketTurn :=
  if t.socket.m_socket.state = .ConnectedState then
    let r := flushLoop t.socket.m_outgoingQueue t.socket.m_queuedBytes io.writes
    { t with
      socket.m_outgoingQueue := r.queue
      socket.m_queuedBytes := r.queuedBytes
      effects := t.effects ++ r.accepted.map (.accepted t.socket.m_socket.peerAddress) }
  else t

/-- `m_outgoingQueue.enqueue(packet); m_queuedBytes += packet.size()`. -/
def enqueue (t : SocketTurn) (frame : P2PFrame) : SocketTurn :=
  { t with
    socket.m_outgoingQueue := t.socket.m_outgoingQueue ++ [frame.encode]
    socket.m_queuedBytes := t.socket.m_queuedBytes + frame.encode.length
    effects := t.effects ++ [.enqueued t.socket.m_socket.peerAddress frame] }

/-- The loop of `sendFrame` over the accepted connections. -/
def writeToClients (t : SocketTurn) (packet : Bytes) : SocketTurn :=
  { t with
    effects := t.effects ++ t.socket.openClients.map fun c => .written c.peerAddress packet }

/-- `P2PSocket::sendFrame`. -/
def sendFrame (io : SocketIo) (frame : P2PFrame) (t : SocketTurn) : SocketTurn × Bool :=
  if t.socket.clientReady then
    if t.socket.m_queuedBytes + frame.encode.length ≤ MAX_OUTGOING_QUEUE_SIZE then
      (((t.enqueue frame).flushWriteQueue io).writeToClients frame.encode, true)
    else (t.log (.errorOccurred "Outgoing write queue full (backpressure)"), false)
  else (t.writeToClients frame.encode, !t.socket.openClients.isEmpty)

/-! ### The connection -/

/-- `P2PSocket::onSocketConnected`. -/
def onSocketConnected (io : SocketIo) (t : SocketTurn) : SocketTurn :=
  ((t.setState .Connected).log .connected).flushWriteQueue io

/-- `P2PSocket::onSocketDisconnected`. -/
def onSocketDisconnected (t : SocketTurn) : SocketTurn :=
  ((t.setState .Disconnected).clearBuffers).log .disconnected

/-- `m_socket->disconnectFromHost()`. -/
def disconnectFromHost (io : SocketIo) (t : SocketTurn) : SocketTurn :=
  if io.closesAtOnce then
    onSocketDisconnected { t with socket.m_socket.state := .UnconnectedState }
  else { t with socket.m_socket.state := io.closing }

/-- `P2PSocket::disconnectFromPeer`. -/
def disconnectFromPeer (io : SocketIo) (t : SocketTurn) : SocketTurn :=
  if t.socket.m_state ≠ .Disconnected ∧ t.socket.m_state ≠ .Closing then
    let t := t.setState .Closing
    if t.socket.m_socket.state ≠ .UnconnectedState then t.disconnectFromHost io else t
  else t

/-- `m_socket->connectToHost(virtualIp, port)`, which is refused while the socket
is not unconnected. -/
def connectToHost (io : SocketIo) (virtualIp : String) (t : SocketTurn) : SocketTurn :=
  let t := t.log (.connectToHost virtualIp)
  if t.socket.m_socket.state ≠ .UnconnectedState then t
  else if io.connecting = .ConnectedState then
    onSocketConnected io { t with socket.m_socket := ⟨.ConnectedState, virtualIp⟩ }
  else { t with socket.m_socket.state := io.connecting }

/-- `P2PSocket::connectToPeer`. -/
def connectToPeer (io : SocketIo) (virtualIp : String) (t : SocketTurn) : SocketTurn :=
  let t := if t.socket.m_state = .Connected ∨ t.socket.m_state = .Connecting then
    t.disconnectFromPeer io else t
  (t.clearBuffers.setState .Connecting).connectToHost io virtualIp

/-! ### What the client side leaves alone -/

section ClientSide

variable (io : SocketIo) (t : SocketTurn)

@[simp] lemma m_socket_flushWriteQueue :
    (t.flushWriteQueue io).socket.m_socket = t.socket.m_socket := by
  rw [flushWriteQueue]
  split_ifs <;> rfl

@[simp] lemma m_state_flushWriteQueue :
    (t.flushWriteQueue io).socket.m_state = t.socket.m_state := by
  rw [flushWriteQueue]
  split_ifs <;> rfl

@[simp] lemma m_serverClientBuffers_flushWriteQueue :
    (t.flushWriteQueue io).socket.m_serverClientBuffers = t.socket.m_serverClientBuffers := by
  rw [flushWriteQueue]
  split_ifs <;> rfl

@[simp] lemma m_serverClientBuffers_onSocketConnected :
    (t.onSocketConnected io).socket.m_serverClientBuffers = t.socket.m_serverClientBuffers := by
  simp [onSocketConnected, log]

@[simp] lemma m_serverClientBuffers_onSocketDisconnected :
    t.onSocketDisconnected.socket.m_serverClientBuffers = t.socket.m_serverClientBuffers := by
  simp [onSocketDisconnected, log, clearBuffers]

@[simp] lemma m_serverClientBuffers_disconnectFromPeer :
    (t.disconnectFromPeer io).socket.m_serverClientBuffers = t.socket.m_serverClientBuffers := by
  simp only [disconnectFromPeer, disconnectFromHost]
  split_ifs <;> simp

@[simp] lemma m_serverClientBuffers_connectToHost (virtualIp : String) :
    (t.connectToHost io virtualIp).socket.m_serverClientBuffers =
      t.socket.m_serverClientBuffers := by
  simp only [connectToHost]
  split_ifs <;> simp [log]

@[simp] lemma m_serverClientBuffers_connectToPeer (virtualIp : String) :
    (t.connectToPeer io virtualIp).socket.m_serverClientBuffers =
      t.socket.m_serverClientBuffers := by
  simp only [connectToPeer, m_serverClientBuffers_connectToHost, m_serverClientBuffers_setState]
  split_ifs <;> simp [clearBuffers]

end ClientSide

/-! ### Receiving -/

/-- What `processStreamBuffer` makes of a receive buffer. It does not fault. -/
def received (buffer : Bytes) : StreamResult :=
  match processStreamBuffer buffer "" MAX_FRAME_PAYLOAD_SIZE with
  | .ok r => r
  | .error _ => ⟨[], buffer, ""⟩

/-- What `P2PSocket::processIncomingBytes` emits. -/
def processIncomingBytes (senderIp : String) (r : StreamResult) (t : SocketTurn) : SocketTurn :=
  { t with
    effects := t.effects ++
      (if r.errorString ≠ "" then [.errorOccurred r.errorString] else []) ++
      r.frames.map fun frame => .frameReceivedFrom frame senderIp }

/-- `P2PSocket::onSocketReadyRead`. -/
def onSocketReadyRead (data : Bytes) (t : SocketTurn) : SocketTurn :=
  let r := received (t.socket.m_readBuffer ++ data)
  processIncomingBytes t.socket.m_socket.peerAddress r
    { t with socket.m_readBuffer := r.buffer }

/-! ### The server -/

/-- One pass through the loop of `P2PSocket::onServerNewConnection`. -/
def onServerNewConnection (client : ℕ) (peerIp : String) (t : SocketTurn) : SocketTurn :=
  if t.socket.m_serverClientBuffers.size ≥ MAX_CONCURRENT_CONNECTIONS then t
  else
    { t with
      socket.m_serverClientBuffers :=
        t.socket.m_serverClientBuffers.insert client ⟨⟨.ConnectedState, peerIp⟩, []⟩
      effects := t.effects ++ [.peerConnected peerIp] }

/-- The handler of `readyRead` for an accepted connection. -/
def onClientReadyRead (client : ℕ) (data : Bytes) (t : SocketTurn) : SocketTurn :=
  match t.socket.m_serverClientBuffers.value? client with
  | some c =>
      let r := received (c.buffer ++ data)
      processIncomingBytes c.socket.peerAddress r
        { t with
          socket.m_serverClientBuffers :=
            t.socket.m_serverClientBuffers.insert client { c with buffer := r.buffer } }
  | none => t

/-- The handler of `disconnected` for an accepted connection. -/
def onClientDisconnected (client : ℕ) (t : SocketTurn) : SocketTurn :=
  match t.socket.m_serverClientBuffers.value? client with
  | some c =>
      { t with
        socket.m_serverClientBuffers := t.socket.m_serverClientBuffers.erase client
        effects := t.effects ++ [.peerDisconnected c.socket.peerAddress] }
  | none => t

/-- `P2PSocket::stopServer`; the connections are dropped without a signal. -/
def stopServer (t : SocketTurn) : SocketTurn := { t with socket.m_serverClientBuffers := ∅ }

end SocketTurn

/-! ### Runs -/

/-- What can happen to a socket. The last two are changes of a `QTcpSocket` that
come without a signal the class listens to. -/
inductive SocketEvent where
  | connectToPeer (virtualIp : String)
  | disconnectFromPeer
  | sendFrame (frame : P2PFrame)
  | connected
  | disconnected
  | readyRead (data : Bytes)
  | bytesWritten
  | errorOccurred (error : String)
  | stopServer
  | newConnection (client : ℕ) (peerIp : String)
  | clientReadyRead (client : ℕ) (data : Bytes)
  | clientDisconnected (client : ℕ)
  | socketIs (socket : QTcpSocket)
  | clientIs (client : ℕ) (socket : QTcpSocket)
  deriving DecidableEq, Repr

namespace P2PSocket

open SocketTurn

/-- The reaction to an event, under what the operating system decides. -/
def react (event : SocketEvent) (io : SocketIo) (t : SocketTurn) : SocketTurn :=
  match event with
  | .connectToPeer virtualIp => t.connectToPeer io virtualIp
  | .disconnectFromPeer => t.disconnectFromPeer io
  | .sendFrame frame => (t.sendFrame io frame).1
  | .connected => t.onSocketConnected io
  | .disconnected => t.onSocketDisconnected
  | .readyRead data => t.onSocketReadyRead data
  | .bytesWritten => t.flushWriteQueue io
  | .errorOccurred error => t.log (.errorOccurred error)
  | .stopServer => t.stopServer
  | .newConnection client peerIp => t.onServerNewConnection client peerIp
  | .clientReadyRead client data => t.onClientReadyRead client data
  | .clientDisconnected client => t.onClientDisconnected client
  | .socketIs socket => { t with socket.m_socket := socket }
  | .clientIs client socket =>
      match t.socket.m_serverClientBuffers.value? client with
      | some c =>
          { t with
            socket.m_serverClientBuffers :=
              t.socket.m_serverClientBuffers.insert client { c with socket } }
      | none => t

/-- One event on a socket. -/
def step (s : P2PSocket) (event : SocketEvent) (io : SocketIo) : P2PSocket × List SocketEffect :=
  let t := react event io { socket := s }
  (t.socket, t.effects)

/-- The socket as a machine. -/
def machine : Machine P2PSocket (SocketEvent × SocketIo) SocketEffect where
  step s e := s.step e.1 e.2

end P2PSocket

end MeckChat.Network
