import MeckChat.Network.P2PSocket
import MeckChat.Protocol.ChatSteps
import MeckChat.Protocol.FileTransferController

/-!
Where the bytes of a call go.

* `Device` puts the two controllers on their common socket, and `EntryPoint` are
  the four calls that name a peer. `Device.run` carries out on the socket what a
  controller asks of it.
* `Device.calls_eq`: a call asks for at most one frame, and for a connection in
  front of it if there is none.
* `mem_destinations_sendFrame`: a frame goes to the client connection and to every
  accepted one.
* `confined_iff`: so exactly when all of these are connections to the peer that
  was named do the bytes stay with that peer.
-/

namespace MeckChat.Protocol

open Network QJson

/-- What the controllers ask of the socket. -/
inductive SocketCall where
  | connectToPeer (virtualIp : String)
  | sendFrame (frame : P2PFrame)
  deriving DecidableEq, Repr

/-- The call on the socket that a deed is. -/
def ChatDeed.call? : ChatDeed → Option SocketCall
  | .connectToPeer virtualIp => some (.connectToPeer virtualIp)
  | .sendFrame frame => some (.sendFrame frame)
  | .signal _ => none

/-- The call on the socket that a deed is. -/
def Deed.call? : Deed → Option SocketCall
  | .connectToPeer virtualIp => some (.connectToPeer virtualIp)
  | .sendFrame frame => some (.sendFrame frame)
  | _ => none

/-- A chat controller and a file transfer controller on one socket. -/
structure Device where
  chat : ChatController
  file : FileTransferController
  socket : P2PSocket

/-- The calls that take a `peerVirtualIp`. -/
inductive EntryPoint where
  | sendMessage (recipientDeviceId content : String)
  | sendReadReceipt (messageId : String)
  | sendTypingNotification (recipientDeviceId : String) (isTyping : Bool)
  | sendFile (filePath : String)
  deriving DecidableEq, Repr

/-- What the surroundings decide during a call; the state of the socket is not
among it. -/
structure CallIo where
  chat : ChatIo := {}
  file : Io := {}
  socket : SocketCall → SocketIo := fun _ => {}

end MeckChat.Protocol

namespace MeckChat.Network

open MeckChat.Protocol

/-- The address of the peer that an effect hands bytes to. -/
def SocketEffect.destination? : SocketEffect → Option String
  | .enqueued peerAddress _ => some peerAddress
  | .accepted peerAddress _ => some peerAddress
  | .written peerAddress _ => some peerAddress
  | _ => none

/-- The peers that bytes were handed to. -/
def SocketTurn.destinations (t : SocketTurn) : List String :=
  t.effects.filterMap SocketEffect.destination?

/-- Carry out what was asked for, in order. -/
def SocketTurn.perform (io : SocketCall → SocketIo) : List SocketCall → SocketTurn → SocketTurn
  | [], t => t
  | .connectToPeer ip :: calls, t => perform io calls (t.connectToPeer (io (.connectToPeer ip)) ip)
  | .sendFrame f :: calls, t => perform io calls (t.sendFrame (io (.sendFrame f)) f).1

namespace P2PSocket

/-- The peers at the other end of the connections that a frame is sent on. -/
def targets (s : P2PSocket) : List String :=
  (if s.clientReady then [s.m_socket.peerAddress] else []) ++
    s.openClients.map QTcpSocket.peerAddress

/-- The queue of the client connection, if that is in use, has room for a
frame. -/
def Fits (s : P2PSocket) (frame : P2PFrame) : Prop :=
  s.clientReady → s.m_queuedBytes + frame.encode.length ≤ MAX_OUTGOING_QUEUE_SIZE

lemma openClients_eq_nil {s : P2PSocket} (h : s.m_serverClientBuffers = ∅) :
    s.openClients = [] := by
  rw [openClients, h, Std.ExtTreeMap.toList_eq_nil_iff.mpr rfl]
  rfl

lemma isConnected_eq_false {s : P2PSocket} :
    s.isConnected = false ↔ s.m_state ≠ .Connected ∧ s.m_serverClientBuffers = ∅ := by
  simp [isConnected]

end P2PSocket

namespace SocketTurn

variable {io : SocketIo} {t : SocketTurn}

@[simp] lemma destinations_log (e : SocketEffect) :
    (t.log e).destinations = t.destinations ++ e.destination?.toList := by
  rw [destinations, log, List.filterMap_append, destinations]
  cases h : e.destination? <;> simp [h]

@[simp] lemma destinations_setState (state : P2PState) :
    (t.setState state).destinations = t.destinations := by
  rw [setState]
  split_ifs
  · exact (destinations_log (t := t) (.stateChanged state)).trans (List.append_nil _)
  · rfl

/-- What is flushed goes to the peer of the client socket. -/
lemma mem_destinations_flushWriteQueue {a : String} (h : a ∈ (t.flushWriteQueue io).destinations) :
    a ∈ t.destinations ∨ a = t.socket.m_socket.peerAddress := by
  rw [flushWriteQueue] at h
  split_ifs at h
  · rw [destinations, List.filterMap_append, List.mem_append] at h
    rcases h with h | h
    · exact .inl h
    · obtain ⟨e, he, ha⟩ := List.mem_filterMap.mp h
      obtain ⟨bytes, -, rfl⟩ := List.mem_map.mp he
      exact .inr (Option.some.inj ha).symm
  · exact .inl h

lemma destinations_subset_flushWriteQueue : t.destinations ⊆ (t.flushWriteQueue io).destinations := by
  rw [flushWriteQueue]
  split_ifs
  · rw [destinations, destinations, List.filterMap_append]
    exact List.subset_append_left _ _
  · exact List.Subset.refl _

lemma destinations_writeToClients (packet : Bytes) :
    (t.writeToClients packet).destinations =
      t.destinations ++ t.socket.openClients.map QTcpSocket.peerAddress := by
  rw [destinations, writeToClients, List.filterMap_append, List.filterMap_map, destinations]
  congr 1
  exact congrFun (List.filterMap_eq_map (f := QTcpSocket.peerAddress)) _

/-- **Broadcast.** A frame goes to all targets, unless the queue is full. -/
theorem mem_destinations_sendFrame (frame : P2PFrame) {a : String} :
    a ∈ (t.sendFrame io frame).1.destinations ↔
      a ∈ t.destinations ∨ t.socket.Fits frame ∧ a ∈ t.socket.targets := by
  rw [sendFrame, P2PSocket.targets, P2PSocket.Fits]
  by_cases hready : t.socket.clientReady = true
  · simp only [hready, if_true, true_imp_iff]
    split_ifs with hfits
    · rw [destinations_writeToClients]
      have henqueue : (t.enqueue frame).destinations =
          t.destinations ++ [t.socket.m_socket.peerAddress] := by
        rw [destinations, enqueue, List.filterMap_append]
        rfl
      have hold : a ∈ ((t.enqueue frame).flushWriteQueue io).destinations ↔
          a ∈ t.destinations ∨ a = t.socket.m_socket.peerAddress := by
        constructor
        · intro h
          rcases mem_destinations_flushWriteQueue h with h | h
          · simpa [henqueue] using h
          · exact .inr h
        · intro h
          apply destinations_subset_flushWriteQueue
          simpa [henqueue] using h
      have hopen : ((t.enqueue frame).flushWriteQueue io).socket.openClients =
          t.socket.openClients := by
        rw [P2PSocket.openClients, m_serverClientBuffers_flushWriteQueue]
        rfl
      rw [List.mem_append, hold, hopen, and_iff_right hfits, List.mem_append, List.mem_singleton,
        or_assoc]
    · rw [destinations_log]
      simp only [SocketEffect.destination?, Option.toList_none, List.append_nil, hfits, false_and,
        or_false]
  · simp only [hready, if_false, Bool.false_eq_true, false_imp_iff, true_and, List.nil_append]
    rw [destinations_writeToClients, List.mem_append]

/-- With an empty queue nothing goes out. -/
lemma destinations_flushWriteQueue_of_nil (h : t.socket.m_outgoingQueue = []) :
    (t.flushWriteQueue io).destinations = t.destinations := by
  rw [flushWriteQueue]
  split_ifs
  · simp [h, flushLoop, destinations]
  · rfl

@[simp] lemma destinations_disconnectFromPeer :
    (t.disconnectFromPeer io).destinations = t.destinations := by
  have hclosing : ∀ socket, destinations { t.setState .Closing with socket.m_socket := socket } =
      t.destinations := fun _ => destinations_setState .Closing
  simp only [disconnectFromPeer, disconnectFromHost, onSocketDisconnected]
  split_ifs
  · rw [destinations_log]
    exact (List.append_nil _).trans ((destinations_setState _).trans (hclosing _))
  · exact hclosing _
  · exact destinations_setState _
  · rfl

lemma destinations_connectToHost (virtualIp : String) (h : t.socket.m_outgoingQueue = []) :
    (t.connectToHost io virtualIp).destinations = t.destinations := by
  have hlog : (t.log (.connectToHost virtualIp)).destinations = t.destinations :=
    (destinations_log _).trans (List.append_nil _)
  simp only [connectToHost, onSocketConnected]
  split_ifs
  · exact hlog
  · rw [destinations_flushWriteQueue_of_nil (by simpa [log] using h), destinations_log]
    exact (List.append_nil _).trans ((destinations_setState _).trans hlog)
  · exact hlog

@[simp] lemma destinations_connectToPeer (virtualIp : String) :
    (t.connectToPeer io virtualIp).destinations = t.destinations := by
  have hclear : ∀ t : SocketTurn, t.clearBuffers.destinations = t.destinations := fun _ => rfl
  rw [connectToPeer, destinations_connectToHost _ (by simp [clearBuffers]), destinations_setState,
    hclear]
  split_ifs <;> simp

/-- What is connected after `connectToHost` is connected to the peer that was
named. -/
lemma peerAddress_connectToHost {virtualIp : String} (hstate : t.socket.m_state = .Connecting)
    (h : (t.connectToHost io virtualIp).socket.clientReady = true) :
    (t.connectToHost io virtualIp).socket.m_socket.peerAddress = virtualIp := by
  simp only [connectToHost, onSocketConnected] at h ⊢
  split_ifs at h ⊢
  · simp [log, P2PSocket.clientReady, hstate] at h
  · simp [log]
  · simp [log, P2PSocket.clientReady, hstate] at h

lemma peerAddress_connectToPeer {virtualIp : String}
    (h : (t.connectToPeer io virtualIp).socket.clientReady = true) :
    (t.connectToPeer io virtualIp).socket.m_socket.peerAddress = virtualIp :=
  peerAddress_connectToHost (m_state_setState _ _) h

end SocketTurn

end MeckChat.Network

namespace MeckChat.Protocol

open Network QJson FileTransferController

variable (json : JsonCodec) (sha : Sha256)

namespace Device

/-- What a call asks of the socket. -/
def calls (d : Device) (io : CallIo) (call : EntryPoint) (peerVirtualIp : String) :
    List SocketCall :=
  let chatIo := { io.chat with socketConnected := d.socket.isConnected }
  let fileIo := { io.file with socketConnected := d.socket.isConnected }
  match call with
  | .sendMessage recipient content =>
      (d.chat.step json (.sendMessage recipient content peerVirtualIp) chatIo).2.filterMap
        ChatDeed.call?
  | .sendReadReceipt messageId =>
      (d.chat.step json (.sendReadReceipt messageId peerVirtualIp) chatIo).2.filterMap
        ChatDeed.call?
  | .sendTypingNotification recipient isTyping =>
      (d.chat.step json (.sendTypingNotification recipient isTyping peerVirtualIp)
        chatIo).2.filterMap ChatDeed.call?
  | .sendFile filePath =>
      (d.file.sendFile json sha fileIo filePath peerVirtualIp).2.1.filterMap (Deed.call? ·.deed)

/-- A call, carried out on the socket. -/
def run (d : Device) (io : CallIo) (call : EntryPoint) (peerVirtualIp : String) : SocketTurn :=
  SocketTurn.perform io.socket (d.calls json sha io call peerVirtualIp) { socket := d.socket }

/-- The frame that a call sends, if its arguments and the state of the controllers
let it send one. -/
def frame? (d : Device) (io : CallIo) : EntryPoint → Option P2PFrame
  | .sendMessage recipient content =>
      if d.chat.m_socket ∧ (QString.toUtf8 content).length ≤ MAX_CHAT_MESSAGE_CONTENT_SIZE ∧
          recipient ≠ "" then
        some (jsonFrame json .ChatMessage (ChatMessage.toJson io.chat.later
          ⟨generateMessageId io.chat.uuid, d.chat.deviceId, recipient, content, io.chat.now, none⟩))
      else none
  | .sendReadReceipt messageId =>
      if d.chat.m_socket ∧ messageId ≠ "" then some (ackFrame json io.chat messageId "read")
      else none
  | .sendTypingNotification recipient isTyping =>
      if d.chat.m_socket ∧ recipient ≠ "" ∧ d.chat.m_localIsTyping ≠ isTyping then
        some (jsonFrame json .TypingIndicator (TypingIndicator.toJson io.chat.later
          ⟨d.chat.deviceId, recipient, isTyping, io.chat.now⟩))
      else none
  | .sendFile filePath =>
      match d.file.files.contentAt filePath with
      | some content =>
          if d.file.m_socket ∧ io.file.fileReadable ∧ io.file.hashOk then
            some (jsonFrame json .FileOffer (offerOf (outgoingSession d.file.nextObject
              (generateTransferId io.file.uuid) filePath (sha.hex content) content.length)).toJson)
          else none
      | none => none

end Device

/-- Whether a call sees to a connection before it sends. -/
def EntryPoint.connects : EntryPoint → Bool
  | .sendTypingNotification _ isTyping => isTyping
  | _ => true

variable {json sha} {d : Device} {io : CallIo} {call : EntryPoint} {peerVirtualIp : String}

lemma calls_offerDeeds (fileIo : Io) (hip : peerVirtualIp ≠ "") (m_socket : Bool)
    (s : FileTransferSession) :
    (offerDeeds json fileIo m_socket peerVirtualIp s).filterMap Deed.call? =
      if m_socket then
        (if !fileIo.socketConnected then [.connectToPeer peerVirtualIp] else []) ++
          [.sendFrame (jsonFrame json .FileOffer (offerOf s).toJson)]
      else [] := by
  cases m_socket <;> cases h : fileIo.socketConnected <;> simp [offerDeeds, Deed.call?, hip, h]

/-- **What a call asks of the socket.** -/
lemma Device.calls_eq (hip : peerVirtualIp ≠ "") :
    d.calls json sha io call peerVirtualIp =
      match d.frame? json sha io call with
      | some frame =>
          (if call.connects && !d.socket.isConnected then [.connectToPeer peerVirtualIp] else []) ++
            [.sendFrame frame]
      | none => [] := by
  cases call with
  | sendMessage recipient content =>
      simp only [calls, frame?, ChatController.step, ChatController.react]
      by_cases h : ChatTurn.Sendable recipient content
      · rw [ChatTurn.filterMap_sendMessage _ _ _ _ _ _ _ h]
        obtain ⟨hsize, hrecipient⟩ := h
        cases d.chat.m_socket <;> cases d.socket.isConnected <;>
          simp [ChatDeed.call?, hip, hsize, hrecipient, EntryPoint.connects, ChatTurn.newMessage]
      · obtain ⟨error, hrefused⟩ := ChatTurn.sendMessage_refused json
          { io.chat with socketConnected := d.socket.isConnected } { chat := d.chat } recipient content
          peerVirtualIp h
        rw [ChatTurn.Sendable] at h
        simp [hrefused, ChatDeed.call?, h]
  | sendReadReceipt messageId =>
      simp only [calls, frame?, ChatController.step, ChatController.react]
      by_cases h : messageId = ""
      · simp [ChatTurn.sendReadReceipt, h]
      · rw [ChatTurn.filterMap_sendReadReceipt _ _ _ _ _ h]
        cases d.chat.m_socket <;> cases d.socket.isConnected <;>
          simp [ChatDeed.call?, hip, h, EntryPoint.connects, ackFrame]
  | sendTypingNotification recipient isTyping =>
      simp only [calls, frame?, ChatController.step, ChatController.react]
      by_cases h : recipient = ""
      · simp [ChatTurn.sendTypingNotification, h]
      · rw [ChatTurn.filterMap_sendTypingNotification _ _ _ _ _ _ h]
        by_cases hlocal : d.chat.m_localIsTyping = isTyping
        · simp [h, hlocal]
        · cases d.chat.m_socket <;> cases d.socket.isConnected <;> cases isTyping <;>
            simp [ChatDeed.call?, hip, h, hlocal, EntryPoint.connects, typingFrame]
  | sendFile filePath =>
      simp only [calls, frame?, FileTransferController.sendFile, calculateFileSha256]
      cases d.file.files.contentAt filePath with
      | none => rfl
      | some content =>
          have hhex := sha.hex_ne_empty content
          by_cases hread : io.file.fileReadable = true
          · by_cases hhash : io.file.hashOk = true
            · by_cases hsocket : d.file.m_socket = true
              · simp [hhex, calls_offerDeeds _ hip, hread, hhash, hsocket, EntryPoint.connects]
              · simp [hhex, calls_offerDeeds _ hip, hread, hhash, hsocket]
            · simp [hread, hhash]
          · simp [hread]

/-- **Confinement.** A call with a peer hands bytes to that peer alone exactly when
it sends no frame, or there was no connection before, or the queue of the client
connection is full, or every connection that is in use is one to that peer. -/
theorem confined_iff (hip : peerVirtualIp ≠ "") :
    (∀ a ∈ (d.run json sha io call peerVirtualIp).destinations, a = peerVirtualIp) ↔
      ∀ frame, d.frame? json sha io call = some frame → d.socket.isConnected = true →
        d.socket.Fits frame → ∀ a ∈ d.socket.targets, a = peerVirtualIp := by
  rw [Device.run, Device.calls_eq hip]
  cases hframe : d.frame? json sha io call with
  | none => simp [SocketTurn.perform, SocketTurn.destinations]
  | some frame =>
      have hstart : ({ socket := d.socket } : SocketTurn).destinations = [] := rfl
      cases hconnected : d.socket.isConnected with
      | true =>
          simp only [Bool.not_true, Bool.and_false, Bool.false_eq_true, if_false, List.nil_append,
            SocketTurn.perform, SocketTurn.mem_destinations_sendFrame, hstart, List.not_mem_nil,
            false_or, true_imp_iff, Option.some.injEq, forall_eq', and_imp]
          exact forall_comm
      | false =>
          simp only [Bool.false_eq_true, false_imp_iff, implies_true, iff_true]
          obtain ⟨hstate, hclients⟩ := P2PSocket.isConnected_eq_false.mp hconnected
          -- on a new connection there is nobody but the peer, without one nobody at all
          cases call.connects with
          | true =>
              simp only [Bool.not_false, Bool.and_self, if_true, List.singleton_append,
                SocketTurn.perform, SocketTurn.mem_destinations_sendFrame,
                SocketTurn.destinations_connectToPeer, hstart, List.not_mem_nil, false_or]
              rintro a ⟨-, ha⟩
              rw [P2PSocket.targets, P2PSocket.openClients_eq_nil (by simpa using hclients),
                List.map_nil, List.append_nil] at ha
              split_ifs at ha with hready
              · rw [List.mem_singleton.mp ha]
                exact SocketTurn.peerAddress_connectToPeer hready
              · cases ha
          | false =>
              have hready : d.socket.clientReady = false := by
                simp [P2PSocket.clientReady, hstate]
              simp [SocketTurn.perform, SocketTurn.mem_destinations_sendFrame, hstart,
                P2PSocket.targets, P2PSocket.openClients_eq_nil hclients, hready]

/-- A device without connections. -/
def idleDevice : Device where
  chat := { deviceId := "mc_alice" }
  file := FileTransferController.init true .empty
  socket := {}

/-- The client socket is connected to `10.77.0.2`. -/
def connectedEvents : List (SocketEvent × SocketIo) :=
  [(.connectToPeer "10.77.0.2", {}), (.socketIs ⟨.ConnectedState, "10.77.0.2"⟩, {}),
    (.connected, {})]

/-- The device with that connection. -/
def connectedDevice : Device :=
  { idleDevice with socket := (P2PSocket.machine.exec {} connectedEvents).2 }

/-- A message for the peer at the other end goes there, and nowhere else. -/
theorem confined_iff_connected :
    "10.77.0.2" ∈ (connectedDevice.run compact .sample {} (.sendMessage "mc_bob" "hi")
        "10.77.0.2").destinations ∧
      ∀ a ∈ (connectedDevice.run compact .sample {} (.sendMessage "mc_bob" "hi")
        "10.77.0.2").destinations, a = "10.77.0.2" := by
  have htargets : connectedDevice.socket.targets = ["10.77.0.2"] := by decide +kernel
  refine ⟨by decide +kernel, ?_⟩
  rw [confined_iff (by decide), htargets]
  intro _ _ _ _ a ha
  exact List.mem_singleton.mp ha

/-- A message for one peer is queued for another one. -/
theorem message_for_other_peer :
    ¬ ∀ a ∈ (connectedDevice.run compact .sample {} (.sendMessage "mc_carol" "hi")
      "10.77.0.3").destinations, a = "10.77.0.3" := by
  have hother : "10.77.0.2" ∈ (connectedDevice.run compact .sample {}
      (.sendMessage "mc_carol" "hi") "10.77.0.3").destinations := by decide +kernel
  intro h
  exact absurd (h _ hother) (by decide)

end MeckChat.Protocol
