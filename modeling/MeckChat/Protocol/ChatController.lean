import MeckChat.Foundation.Run
import MeckChat.Protocol.ChatMessages
import MeckChat.Protocol.Payload

/-!
The chat controller (`chat_controller.cpp`).

* `ChatController` is the state of the class. Timers are objects with a number;
  `timers` holds those that are running and what their expiry is for.
* `ChatIo` collects what the surroundings decide during one event, `ChatDeed` is
  what a handler does that can be seen from outside.
* In the namespace `ChatTurn`: the public calls and slots under the names of the
  source, on a controller and what was done so far. A handler of frames is split
  behind its parsing: `onChatMessage`, `onMessageAck`, `onTypingIndicator`.
* `ChatEvent` is what can happen to a controller and `ChatController.machine` runs
  it. One handler runs to its end before the next event.
-/

namespace MeckChat.Protocol

open QJson

/-- `DUPLICATE_CACHE_WINDOW_SECS`, five minutes. -/
def DUPLICATE_CACHE_WINDOW_SECS : ℤ := 300

/-- `MessageState`. -/
inductive MessageState where
  | Pending
  | Sent
  | Delivered
  | Read
  | Failed
  deriving DecidableEq, Repr

/-- `TrackedMessage`. -/
structure TrackedMessage where
  message : ChatMessage
  state : MessageState := .Pending
  sendTimestamp : ℤ := 0
  deriving DecidableEq, Repr

/-- What the expiry of a timer is for. -/
inductive TimerTask where
  | ackTimeout (messageId : String)
  | typingExpiry (peerDeviceId : String)
  deriving DecidableEq, Repr

/-- `ChatController`, with the device id of its process and the timers that are
running. -/
structure ChatController where
  deviceId : String
  m_socket : Bool := true
  m_outgoingMessages : QMap String TrackedMessage := ∅
  m_ackTimers : QMap String ℕ := ∅
  m_receivedMessageCache : QMap String ℤ := ∅
  m_peerTypingTimers : QMap String ℕ := ∅
  m_localTypingStopTimer : Bool := false
  m_lastTypingRecipient : String := ""
  m_localIsTyping : Bool := false
  timers : QMap ℕ TimerTask := ∅
  nextTimer : ℕ := 0

/-- The signals of the controller. -/
inductive ChatSignal where
  | messageSent (messageId : String)
  | messageReceived (message : ChatMessage)
  | messageStatusChanged (messageId : String) (state : MessageState)
  | messageAckReceived (ack : MessageAck)
  | peerTypingChanged (peerDeviceId : String) (isTyping : Bool)
  | chatErrorOccurred (error : String)
  deriving DecidableEq, Repr

/-- What a handler does that can be seen from outside. -/
inductive ChatDeed where
  | signal (signal : ChatSignal)
  | connectToPeer (virtualIp : String)
  | sendFrame (frame : P2PFrame)
  deriving DecidableEq, Repr

/-- What the surroundings decide during one event: the readings of the clock, the next
UUID, and the answers of the socket. -/
structure ChatIo where
  now : ℤ := 0
  /-- The reading where the clock is read again. -/
  later : ℤ := now
  /-- The reading for the `timestamp` of an acknowledgement. -/
  acked : ℤ := later
  /-- The reading in `MessageAck::toJson`, which is made where that is not positive. -/
  written : ℤ := acked
  uuid : String := ""
  /-- `m_socket->isConnected()` before the frame is sent. -/
  socketConnected : Bool := true
  /-- What `m_socket->sendFrame(frame)` returns. -/
  sendOk : Bool := true
  /-- `m_socket->isConnected()` after the frame was sent. -/
  connectedAfter : Bool := true
  deriving DecidableEq, Repr

/-- A controller while a handler works on it. -/
structure ChatTurn where
  chat : ChatController
  deeds : List ChatDeed := []

variable (json : JsonCodec)

/-- The frame of an acknowledgement. -/
def ackFrame (io : ChatIo) (messageId status : String) : P2PFrame :=
  jsonFrame json .MessageAck (MessageAck.toJson io.written ⟨messageId, status, io.acked⟩)

/-- The frame of a typing notification. -/
def typingFrame (io : ChatIo) (deviceId recipientDeviceId : String) (isTyping : Bool) : P2PFrame :=
  jsonFrame json .TypingIndicator
    (TypingIndicator.toJson io.later ⟨deviceId, recipientDeviceId, isTyping, io.now⟩)

namespace ChatTurn

/-- Append to the log. -/
def log (t : ChatTurn) (d : ChatDeed) : ChatTurn := { t with deeds := t.deeds ++ [d] }

/-- `emit`. -/
def emit (t : ChatTurn) (s : ChatSignal) : ChatTurn := t.log (.signal s)

/-- `if (m_socket) m_socket->sendFrame(frame)`. -/
def sendFrame (t : ChatTurn) (frame : P2PFrame) : ChatTurn :=
  if t.chat.m_socket then t.log (.sendFrame frame) else t

/-- `if (m_socket && !peerVirtualIp.isEmpty() && !m_socket->isConnected())
m_socket->connectToPeer(peerVirtualIp)`. -/
def connectIfNeeded (io : ChatIo) (peerVirtualIp : String) (t : ChatTurn) : ChatTurn :=
  if t.chat.m_socket && peerVirtualIp ≠ "" && !io.socketConnected then
    t.log (.connectToPeer peerVirtualIp)
  else t

/-! ### Messages and their timers -/

/-- `m_outgoingMessages.insert(messageId, tracked)`. -/
def track (messageId : String) (tracked : TrackedMessage) (t : ChatTurn) : ChatTurn :=
  { t with chat.m_outgoingMessages := t.chat.m_outgoingMessages.insert messageId tracked }

/-- `m_outgoingMessages[messageId].state = state`, for a message that is there. -/
def setMessageState (messageId : String) (state : MessageState) (t : ChatTurn) : ChatTurn :=
  match t.chat.m_outgoingMessages.value? messageId with
  | some tracked => t.track messageId { tracked with state }
  | none => t

/-- A new timer for a message is entered and started. -/
def startAckTimer (messageId : String) (t : ChatTurn) : ChatTurn :=
  { t with
    chat.m_ackTimers := t.chat.m_ackTimers.insert messageId t.chat.nextTimer
    chat.timers := t.chat.timers.insert t.chat.nextTimer (.ackTimeout messageId)
    chat.nextTimer := t.chat.nextTimer + 1 }

/-- `if (m_ackTimers.contains(messageId))` the timer is stopped, deleted and
removed. -/
def stopAckTimer (messageId : String) (t : ChatTurn) : ChatTurn :=
  match t.chat.m_ackTimers.value? messageId with
  | some timer =>
      { t with
        chat.m_ackTimers := t.chat.m_ackTimers.erase messageId
        chat.timers := t.chat.timers.erase timer }
  | none => t

/-- `if (m_peerTypingTimers.contains(peerDeviceId))` the timer is stopped, deleted
and removed, and `peerTypingChanged` emitted. -/
def clearTyping (peerDeviceId : String) (t : ChatTurn) : ChatTurn :=
  match t.chat.m_peerTypingTimers.value? peerDeviceId with
  | some timer =>
      emit
        { t with
          chat.m_peerTypingTimers := t.chat.m_peerTypingTimers.erase peerDeviceId
          chat.timers := t.chat.timers.erase timer }
        (.peerTypingChanged peerDeviceId false)
  | none => t

/-! ### Sending -/

/-- `ChatController::sendMessage`. -/
def sendMessage (io : ChatIo) (recipientDeviceId content peerVirtualIp : String) (t : ChatTurn) :
    ChatTurn × String :=
  if (QString.toUtf8 content).length > MAX_CHAT_MESSAGE_CONTENT_SIZE then
    (t.emit (.chatErrorOccurred "Message size exceeds maximum 64 KiB limit."), "")
  else if recipientDeviceId = "" then
    (t.emit (.chatErrorOccurred "Recipient device ID is empty."), "")
  else
    let msgId := generateMessageId io.uuid
    let msg : ChatMessage := {
      messageId := msgId
      senderDeviceId := t.chat.deviceId
      recipientDeviceId
      content
      timestamp := io.now }
    let frame := jsonFrame json .ChatMessage (msg.toJson io.later)
    let t := t.connectIfNeeded io peerVirtualIp
    let t := (t.track msgId ⟨msg, .Sent, msg.timestamp⟩).startAckTimer msgId
    let t := t.sendFrame frame
    let sent := t.chat.m_socket && io.sendOk
    -- keep pending if disconnected
    let t := if !sent && (!t.chat.m_socket || !io.connectedAfter) then
      t.setMessageState msgId .Pending else t
    (t.emit (.messageSent msgId), msgId)

/-- `ChatController::sendReadReceipt`. -/
def sendReadReceipt (io : ChatIo) (messageId peerVirtualIp : String) (t : ChatTurn) :
    ChatTurn × Bool :=
  if messageId = "" then (t, false)
  else
    ((t.connectIfNeeded io peerVirtualIp).sendFrame (ackFrame json io messageId "read"),
      t.chat.m_socket && io.sendOk)

/-- `ChatController::sendTypingNotification`. -/
def sendTypingNotification (io : ChatIo) (recipientDeviceId : String) (isTyping : Bool)
    (peerVirtualIp : String) (t : ChatTurn) : ChatTurn :=
  if recipientDeviceId = "" then t
  else
    let t := { t with chat.m_lastTypingRecipient := recipientDeviceId }
    if isTyping then
      let t := if !t.chat.m_localIsTyping then
          let t := { t with chat.m_localIsTyping := true }
          (t.connectIfNeeded io peerVirtualIp).sendFrame
            (typingFrame json io t.chat.deviceId recipientDeviceId true)
        else t
      -- restart the timeout
      { t with chat.m_localTypingStopTimer := true }
    else if t.chat.m_localIsTyping then
      let t := { t with chat.m_localIsTyping := false, chat.m_localTypingStopTimer := false }
      t.sendFrame (typingFrame json io t.chat.deviceId recipientDeviceId false)
    else t

/-! ### Receiving -/

/-- `ChatController::cleanExpiredDuplicateCache`. -/
def cleanExpiredDuplicateCache (now : ℤ) (t : ChatTurn) : ChatTurn :=
  { t with
    chat.m_receivedMessageCache := t.chat.m_receivedMessageCache.filter fun _ received =>
      ¬ now - received > DUPLICATE_CACHE_WINDOW_SECS }

/-- A delivery ACK is sent. -/
def acknowledge (io : ChatIo) (messageId : String) (t : ChatTurn) : ChatTurn :=
  t.sendFrame (ackFrame json io messageId "delivered")

/-- `handleInboundChatMessage`, for a message that was read. -/
def onChatMessage (io : ChatIo) (msg : ChatMessage) (t : ChatTurn) : ChatTurn :=
  let t := t.cleanExpiredDuplicateCache io.now
  if (t.chat.m_receivedMessageCache.value? msg.messageId).isSome then
    -- a duplicate: send the ACK again
    t.acknowledge json io msg.messageId
  else
    let t := { t with
      chat.m_receivedMessageCache :=
        t.chat.m_receivedMessageCache.insert msg.messageId io.later }
    ((t.clearTyping msg.senderDeviceId).emit (.messageReceived msg)).acknowledge json io
      msg.messageId

/-- `ChatController::handleInboundChatMessage`. -/
def handleInboundChatMessage (io : ChatIo) (payload : Bytes) (t : ChatTurn) : ChatTurn :=
  match (payloadObject json payload).bind ChatMessage.fromJson with
  | some msg => t.onChatMessage json io msg
  | none => t

/-- The state that an acknowledgement stands for. -/
def ackState (status : String) : MessageState := if status = "read" then .Read else .Delivered

/-- `handleInboundMessageAck`, for an acknowledgement that was read. -/
def onMessageAck (ack : MessageAck) (t : ChatTurn) : ChatTurn :=
  let t := if (t.chat.m_outgoingMessages.value? ack.messageId).isSome then
      ((t.stopAckTimer ack.messageId).setMessageState ack.messageId (ackState ack.status)).emit
        (.messageStatusChanged ack.messageId (ackState ack.status))
    else t
  t.emit (.messageAckReceived ack)

/-- `ChatController::handleInboundMessageAck`. -/
def handleInboundMessageAck (payload : Bytes) (t : ChatTurn) : ChatTurn :=
  match (payloadObject json payload).bind MessageAck.fromJson with
  | some ack => t.onMessageAck ack
  | none => t

/-- `handleInboundTypingIndicator`, for a notification that was read. -/
def onTypingIndicator (typing : TypingIndicator) (t : ChatTurn) : ChatTurn :=
  let peerId := typing.senderDeviceId
  if typing.isTyping then
    match t.chat.m_peerTypingTimers.value? peerId with
    | none =>
        emit
          { t with
            chat.m_peerTypingTimers := t.chat.m_peerTypingTimers.insert peerId t.chat.nextTimer
            chat.timers := t.chat.timers.insert t.chat.nextTimer (.typingExpiry peerId)
            chat.nextTimer := t.chat.nextTimer + 1 }
          (.peerTypingChanged peerId true)
    | some timer =>
        -- restart the expiry timer
        { t with chat.timers := t.chat.timers.insert timer (.typingExpiry peerId) }
  else t.clearTyping peerId

/-- `ChatController::handleInboundTypingIndicator`. -/
def handleInboundTypingIndicator (payload : Bytes) (t : ChatTurn) : ChatTurn :=
  match (payloadObject json payload).bind TypingIndicator.fromJson with
  | some typing => t.onTypingIndicator typing
  | none => t

/-- `ChatController::onFrameReceivedFrom`; the address of the sender is not
used. -/
def onFrameReceivedFrom (io : ChatIo) (frame : P2PFrame) (_senderIp : String) (t : ChatTurn) :
    ChatTurn :=
  if frame.type = .ChatMessage then t.handleInboundChatMessage json io frame.payload
  else if frame.type = .MessageAck then t.handleInboundMessageAck json frame.payload
  else if frame.type = .TypingIndicator then t.handleInboundTypingIndicator json frame.payload
  else t

/-! ### Timeouts and disconnection -/

/-- `if (m_outgoingMessages.contains(messageId))` and nobody answered, the message
has failed. -/
def failUnanswered (messageId : String) (t : ChatTurn) : ChatTurn :=
  match t.chat.m_outgoingMessages.value? messageId with
  | some tracked =>
      if tracked.state = .Sent ∨ tracked.state = .Pending then
        (t.setMessageState messageId .Failed).emit (.messageStatusChanged messageId .Failed)
      else t
  | none => t

/-- The expiry of the timer of a message. -/
def ackTimeout (messageId : String) (t : ChatTurn) : ChatTurn :=
  (t.failUnanswered messageId).stopAckTimer messageId

/-- A running timer expires; it does so once. -/
def timeout (timer : ℕ) (t : ChatTurn) : ChatTurn :=
  match t.chat.timers.value? timer with
  | some task =>
      let t := { t with chat.timers := t.chat.timers.erase timer }
      match task with
      | .ackTimeout messageId => t.ackTimeout messageId
      | .typingExpiry peerId => t.clearTyping peerId
  | none => t

/-- The expiry of `m_localTypingStopTimer`. -/
def typingStopTimeout (io : ChatIo) (t : ChatTurn) : ChatTurn :=
  if t.chat.m_localTypingStopTimer then
    let t := { t with chat.m_localTypingStopTimer := false }
    if t.chat.m_localIsTyping then
      t.sendTypingNotification json io t.chat.m_lastTypingRecipient false ""
    else t
  else t

/-- `ChatController::onSocketDisconnected`. -/
def onSocketDisconnected (t : ChatTurn) : ChatTurn :=
  t.chat.m_peerTypingTimers.keys.foldl (fun t peerId => t.clearTyping peerId) t

/-- `ChatController::onPeerDisconnected`. -/
def onPeerDisconnected (_peerIp : String) (t : ChatTurn) : ChatTurn := t.onSocketDisconnected

end ChatTurn

/-! ### Runs -/

/-- What can happen to a controller. -/
inductive ChatEvent where
  | sendMessage (recipientDeviceId content peerVirtualIp : String)
  | sendReadReceipt (messageId peerVirtualIp : String)
  | sendTypingNotification (recipientDeviceId : String) (isTyping : Bool) (peerVirtualIp : String)
  | frameReceivedFrom (frame : P2PFrame) (senderIp : String)
  | timeout (timer : ℕ)
  | typingStopTimeout
  | peerDisconnected (peerIp : String)
  | disconnected
  deriving DecidableEq, Repr

namespace ChatController

/-- `ChatController::getTrackedMessage`. -/
def getTrackedMessage (c : ChatController) (messageId : String) : Option TrackedMessage :=
  c.m_outgoingMessages.value? messageId

/-- `ChatController::isPeerTyping`. -/
def isPeerTyping (c : ChatController) (peerDeviceId : String) : Bool :=
  (c.m_peerTypingTimers.value? peerDeviceId).isSome

/-- The reaction to an event, under what the surroundings decide. -/
def react (event : ChatEvent) (io : ChatIo) (t : ChatTurn) : ChatTurn :=
  match event with
  | .sendMessage recipientDeviceId content peerVirtualIp =>
      (t.sendMessage json io recipientDeviceId content peerVirtualIp).1
  | .sendReadReceipt messageId peerVirtualIp =>
      (t.sendReadReceipt json io messageId peerVirtualIp).1
  | .sendTypingNotification recipientDeviceId isTyping peerVirtualIp =>
      t.sendTypingNotification json io recipientDeviceId isTyping peerVirtualIp
  | .frameReceivedFrom frame senderIp => t.onFrameReceivedFrom json io frame senderIp
  | .timeout timer => t.timeout timer
  | .typingStopTimeout => t.typingStopTimeout json io
  | .peerDisconnected peerIp => t.onPeerDisconnected peerIp
  | .disconnected => t.onSocketDisconnected

/-- One event on a controller. -/
def step (c : ChatController) (event : ChatEvent) (io : ChatIo) :
    ChatController × List ChatDeed :=
  let t := react json event io { chat := c }
  (t.chat, t.deeds)

/-- The controller as a machine. -/
def machine : Machine ChatController (ChatEvent × ChatIo) ChatDeed where
  step c e := c.step json e.1 e.2

lemma machine_step (c : ChatController) (e : ChatEvent × ChatIo) :
    (machine json).step c e = c.step json e.1 e.2 := rfl

end ChatController

end MeckChat.Protocol
