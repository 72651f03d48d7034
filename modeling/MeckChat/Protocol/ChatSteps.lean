import MeckChat.Protocol.ChatController

/-!
What the handlers of the chat controller do, part by part.

* The lemmas of the first sections say, for each operation, which parts of the
  controller it leaves alone and what it adds to the log.
* `ChatCommand` is an event as its handler sees it, with inbound frames read;
  `react_eq_run` runs events as commands, so that later proofs are case analyses
  over commands.
* `trackedChange_run` says what a command does to the record of a message,
  `does_run` what it may do that can be seen, and `value?_cache_onChatMessage` where
  the entries of the duplicate cache come from.
-/

namespace MeckChat.Protocol

open QJson

variable (json : JsonCodec)

namespace ChatTurn

/-! ### The controller behind an operation -/

section Chat

variable (io : ChatIo) (t : ChatTurn)

@[simp] lemma chat_log (d : ChatDeed) : (t.log d).chat = t.chat := rfl

@[simp] lemma chat_emit (s : ChatSignal) : (t.emit s).chat = t.chat := rfl

@[simp] lemma chat_sendFrame (frame : P2PFrame) : (t.sendFrame frame).chat = t.chat := by
  rw [sendFrame]
  split_ifs <;> rfl

@[simp] lemma chat_connectIfNeeded (ip : String) : (t.connectIfNeeded io ip).chat = t.chat := by
  rw [connectIfNeeded]
  split_ifs <;> rfl

@[simp] lemma chat_acknowledge (id : String) : (t.acknowledge json io id).chat = t.chat :=
  chat_sendFrame t _

@[simp] lemma m_outgoingMessages_track (id : String) (tracked : TrackedMessage) :
    (t.track id tracked).chat.m_outgoingMessages =
      t.chat.m_outgoingMessages.insert id tracked := rfl

@[simp] lemma m_outgoingMessages_startAckTimer (id : String) :
    (t.startAckTimer id).chat.m_outgoingMessages = t.chat.m_outgoingMessages := rfl

@[simp] lemma m_outgoingMessages_stopAckTimer (id : String) :
    (t.stopAckTimer id).chat.m_outgoingMessages = t.chat.m_outgoingMessages := by
  rw [stopAckTimer]
  cases t.chat.m_ackTimers.value? id <;> rfl

@[simp] lemma m_outgoingMessages_clearTyping (peer : String) :
    (t.clearTyping peer).chat.m_outgoingMessages = t.chat.m_outgoingMessages := by
  rw [clearTyping]
  cases t.chat.m_peerTypingTimers.value? peer <;> rfl

@[simp] lemma m_outgoingMessages_cleanExpiredDuplicateCache (now : ℤ) :
    (t.cleanExpiredDuplicateCache now).chat.m_outgoingMessages = t.chat.m_outgoingMessages := rfl

/-- Setting the state of one message leaves the others alone. -/
lemma value?_setMessageState (id a : String) (state : MessageState) :
    QMap.value? (t.setMessageState id state).chat.m_outgoingMessages a =
      if id = a then (t.chat.m_outgoingMessages.value? a).map ({ · with state })
      else t.chat.m_outgoingMessages.value? a := by
  rw [setMessageState]
  cases h : t.chat.m_outgoingMessages.value? id with
  | none =>
      split_ifs with ha
      · rw [← ha, h]
        rfl
      · rfl
  | some tracked =>
      rw [m_outgoingMessages_track, QMap.value?_insert]
      split_ifs with ha
      · rw [← ha, h]
        rfl
      · rfl

@[simp] lemma m_receivedMessageCache_track (id : String) (tracked : TrackedMessage) :
    (t.track id tracked).chat.m_receivedMessageCache = t.chat.m_receivedMessageCache := rfl

@[simp] lemma m_receivedMessageCache_startAckTimer (id : String) :
    (t.startAckTimer id).chat.m_receivedMessageCache = t.chat.m_receivedMessageCache := rfl

@[simp] lemma m_receivedMessageCache_setMessageState (id : String) (state : MessageState) :
    (t.setMessageState id state).chat.m_receivedMessageCache = t.chat.m_receivedMessageCache := by
  rw [setMessageState]
  cases t.chat.m_outgoingMessages.value? id <;> rfl

@[simp] lemma m_receivedMessageCache_stopAckTimer (id : String) :
    (t.stopAckTimer id).chat.m_receivedMessageCache = t.chat.m_receivedMessageCache := by
  rw [stopAckTimer]
  cases t.chat.m_ackTimers.value? id <;> rfl

@[simp] lemma m_receivedMessageCache_clearTyping (peer : String) :
    (t.clearTyping peer).chat.m_receivedMessageCache = t.chat.m_receivedMessageCache := by
  rw [clearTyping]
  cases t.chat.m_peerTypingTimers.value? peer <;> rfl

/-- What is fixed of a controller: its device id, and whether it has a socket. -/
def fixed : String × Bool := (t.chat.deviceId, t.chat.m_socket)

@[simp] lemma fixed_track (id : String) (tracked : TrackedMessage) :
    (t.track id tracked).fixed = t.fixed := rfl

@[simp] lemma fixed_startAckTimer (id : String) : (t.startAckTimer id).fixed = t.fixed := rfl

@[simp] lemma fixed_setMessageState (id : String) (state : MessageState) :
    (t.setMessageState id state).fixed = t.fixed := by
  rw [setMessageState]
  cases t.chat.m_outgoingMessages.value? id <;> rfl

@[simp] lemma fixed_stopAckTimer (id : String) : (t.stopAckTimer id).fixed = t.fixed := by
  rw [stopAckTimer]
  cases t.chat.m_ackTimers.value? id <;> rfl

@[simp] lemma fixed_clearTyping (peer : String) : (t.clearTyping peer).fixed = t.fixed := by
  rw [clearTyping]
  cases t.chat.m_peerTypingTimers.value? peer <;> rfl

end Chat

/-! ### The log behind an operation

For every way `f` to read deeds, what `f` sees behind an operation. -/

section Log

variable {β : Type} (f : ChatDeed → Option β) (io : ChatIo) (t : ChatTurn)

@[simp] lemma filterMap_log (d : ChatDeed) :
    (t.log d).deeds.filterMap f = t.deeds.filterMap f ++ (f d).toList := by
  rw [log, List.filterMap_append]
  cases h : f d <;> simp [h]

@[simp] lemma filterMap_emit (s : ChatSignal) :
    (t.emit s).deeds.filterMap f = t.deeds.filterMap f ++ (f (.signal s)).toList :=
  filterMap_log f t _

@[simp] lemma filterMap_sendFrame (frame : P2PFrame) :
    (t.sendFrame frame).deeds.filterMap f =
      t.deeds.filterMap f ++ bif t.chat.m_socket then (f (.sendFrame frame)).toList else [] := by
  rw [sendFrame]
  cases t.chat.m_socket with
  | false => simp
  | true => exact filterMap_log f t _

@[simp] lemma filterMap_connectIfNeeded (ip : String) :
    (t.connectIfNeeded io ip).deeds.filterMap f =
      t.deeds.filterMap f ++
        bif t.chat.m_socket && ip ≠ "" && !io.socketConnected then
          (f (.connectToPeer ip)).toList
        else [] := by
  rw [connectIfNeeded]
  cases t.chat.m_socket && decide (ip ≠ "") && !io.socketConnected with
  | false => simp
  | true => exact filterMap_log f t _

@[simp] lemma deeds_track (id : String) (tracked : TrackedMessage) :
    (t.track id tracked).deeds = t.deeds := rfl

@[simp] lemma deeds_setMessageState (id : String) (state : MessageState) :
    (t.setMessageState id state).deeds = t.deeds := by
  rw [setMessageState]
  cases t.chat.m_outgoingMessages.value? id <;> rfl

@[simp] lemma deeds_startAckTimer (id : String) : (t.startAckTimer id).deeds = t.deeds := rfl

@[simp] lemma deeds_stopAckTimer (id : String) : (t.stopAckTimer id).deeds = t.deeds := by
  rw [stopAckTimer]
  cases t.chat.m_ackTimers.value? id <;> rfl

@[simp] lemma deeds_cleanExpiredDuplicateCache (now : ℤ) :
    (t.cleanExpiredDuplicateCache now).deeds = t.deeds := rfl

end Log

/-! ### The public calls -/

section Calls

variable {β : Type} (f : ChatDeed → Option β) (io : ChatIo) (t : ChatTurn)
  (recipient content ip : String)

/-- The message that `sendMessage` makes. -/
def newMessage (c : ChatController) (io : ChatIo) (recipient content : String) : ChatMessage where
  messageId := generateMessageId io.uuid
  senderDeviceId := c.deviceId
  recipientDeviceId := recipient
  content := content
  timestamp := io.now

/-- The state in which `sendMessage` leaves the message. -/
def firstState (m_socket : Bool) (io : ChatIo) : MessageState :=
  if !(m_socket && io.sendOk) && (!m_socket || !io.connectedAfter) then .Pending else .Sent

/-- The arguments that `sendMessage` takes. -/
def Sendable (recipient content : String) : Prop :=
  (QString.toUtf8 content).length ≤ MAX_CHAT_MESSAGE_CONTENT_SIZE ∧ recipient ≠ ""

instance : Decidable (Sendable recipient content) := inferInstanceAs (Decidable (_ ∧ _))

lemma sendMessage_refused (h : ¬ Sendable recipient content) :
    ∃ error, t.sendMessage json io recipient content ip =
      (t.emit (.chatErrorOccurred error), "") := by
  rw [Sendable, not_and_or, not_le, not_not] at h
  rw [sendMessage]
  rcases h with h | h
  · exact ⟨_, if_pos h⟩
  · split_ifs
    · exact ⟨_, rfl⟩
    · exact ⟨_, rfl⟩

section Accepted

variable (h : Sendable recipient content)

include h

lemma filterMap_sendMessage :
    (t.sendMessage json io recipient content ip).1.deeds.filterMap f =
      t.deeds.filterMap f ++
        (bif t.chat.m_socket && ip ≠ "" && !io.socketConnected then
          (f (.connectToPeer ip)).toList else []) ++
        (bif t.chat.m_socket then
          (f (.sendFrame (jsonFrame json .ChatMessage
            ((newMessage t.chat io recipient content).toJson io.later)))).toList else []) ++
        (f (.signal (.messageSent (generateMessageId io.uuid)))).toList := by
  simp only [sendMessage, if_neg (not_lt.mpr h.1), if_neg h.2]
  split_ifs <;> simp [newMessage, startAckTimer, track]

lemma value?_sendMessage (a : String) :
    QMap.value? (t.sendMessage json io recipient content ip).1.chat.m_outgoingMessages a =
      if generateMessageId io.uuid = a then
        some ⟨newMessage t.chat io recipient content, firstState t.chat.m_socket io, io.now⟩
      else t.chat.m_outgoingMessages.value? a := by
  simp only [sendMessage, if_neg (not_lt.mpr h.1), if_neg h.2, firstState]
  have hsocket : ∀ (id : String) (tracked : TrackedMessage) (frame : P2PFrame),
      (((((t.connectIfNeeded io ip).track id tracked).startAckTimer id).sendFrame
        frame).chat.m_socket) = t.chat.m_socket := by
    intro id tracked frame
    simp [startAckTimer, track]
  rw [hsocket]
  split_ifs with hpending ha ha
  · rw [chat_emit, value?_setMessageState, if_pos ha]
    simp [ha, newMessage]
  · rw [chat_emit, value?_setMessageState, if_neg ha]
    simp [QMap.value?_insert, ha]
  · simp [ha, newMessage]
  · simp [QMap.value?_insert, ha]

end Accepted

@[simp] lemma m_receivedMessageCache_sendMessage :
    (t.sendMessage json io recipient content ip).1.chat.m_receivedMessageCache =
      t.chat.m_receivedMessageCache := by
  simp only [sendMessage]
  split_ifs <;> simp

lemma filterMap_sendReadReceipt {id : String} (h : id ≠ "") :
    (t.sendReadReceipt json io id ip).1.deeds.filterMap f =
      t.deeds.filterMap f ++
        (bif t.chat.m_socket && ip ≠ "" && !io.socketConnected then
          (f (.connectToPeer ip)).toList else []) ++
        bif t.chat.m_socket then (f (.sendFrame (ackFrame json io id "read"))).toList else [] := by
  rw [sendReadReceipt, if_neg h]
  simp

@[simp] lemma chat_sendReadReceipt (id : String) :
    (t.sendReadReceipt json io id ip).1.chat = t.chat := by
  rw [sendReadReceipt]
  split_ifs <;> simp

/-- A typing notification goes out when the local state changes; only the one that
starts sees to a connection. -/
lemma filterMap_sendTypingNotification {isTyping : Bool} (hrecipient : recipient ≠ "") :
    (t.sendTypingNotification json io recipient isTyping ip).deeds.filterMap f =
      t.deeds.filterMap f ++
        if t.chat.m_localIsTyping ≠ isTyping then
          (bif isTyping && (t.chat.m_socket && ip ≠ "" && !io.socketConnected) then
            (f (.connectToPeer ip)).toList else []) ++
          bif t.chat.m_socket then
            (f (.sendFrame (typingFrame json io t.chat.deviceId recipient isTyping))).toList
          else []
        else [] := by
  rw [sendTypingNotification, if_neg hrecipient]
  cases isTyping with
  | true => cases hlocal : t.chat.m_localIsTyping <;> simp [hlocal]
  | false => cases hlocal : t.chat.m_localIsTyping <;> simp [hlocal]

end Calls

end ChatTurn

/-! ### Events as commands -/

/-- An event as its handler sees it. -/
inductive ChatCommand where
  | sendMessage (recipientDeviceId content peerVirtualIp : String)
  | sendReadReceipt (messageId peerVirtualIp : String)
  | sendTypingNotification (recipientDeviceId : String) (isTyping : Bool) (peerVirtualIp : String)
  | chatMessage (msg : ChatMessage)
  | messageAck (ack : MessageAck)
  | typingIndicator (typing : TypingIndicator)
  | timeout (timer : ℕ)
  | typingStopTimeout
  | disconnected
  | nothing
  deriving DecidableEq, Repr

/-- What an inbound frame asks for. -/
def readChatFrame (frame : P2PFrame) : ChatCommand :=
  if frame.type = .ChatMessage then
    (((payloadObject json frame.payload).bind ChatMessage.fromJson).map .chatMessage).getD .nothing
  else if frame.type = .MessageAck then
    (((payloadObject json frame.payload).bind MessageAck.fromJson).map .messageAck).getD .nothing
  else if frame.type = .TypingIndicator then
    (((payloadObject json frame.payload).bind TypingIndicator.fromJson).map
      .typingIndicator).getD .nothing
  else .nothing

/-- The command of an event. -/
def ChatEvent.command : ChatEvent → ChatCommand
  | .sendMessage recipient content ip => .sendMessage recipient content ip
  | .sendReadReceipt messageId ip => .sendReadReceipt messageId ip
  | .sendTypingNotification recipient isTyping ip => .sendTypingNotification recipient isTyping ip
  | .frameReceivedFrom frame _ => readChatFrame json frame
  | .timeout timer => .timeout timer
  | .typingStopTimeout => .typingStopTimeout
  | .peerDisconnected _ => .disconnected
  | .disconnected => .disconnected

/-- Run a command. -/
def ChatCommand.run (cmd : ChatCommand) (io : ChatIo) (t : ChatTurn) : ChatTurn :=
  match cmd with
  | .sendMessage recipient content ip => (t.sendMessage json io recipient content ip).1
  | .sendReadReceipt messageId ip => (t.sendReadReceipt json io messageId ip).1
  | .sendTypingNotification recipient isTyping ip =>
      t.sendTypingNotification json io recipient isTyping ip
  | .chatMessage msg => t.onChatMessage json io msg
  | .messageAck ack => t.onMessageAck ack
  | .typingIndicator typing => t.onTypingIndicator typing
  | .timeout timer => t.timeout timer
  | .typingStopTimeout => t.typingStopTimeout json io
  | .disconnected => t.onSocketDisconnected
  | .nothing => t

lemma onFrameReceivedFrom_eq_run (io : ChatIo) (frame : P2PFrame) (ip : String) (t : ChatTurn) :
    t.onFrameReceivedFrom json io frame ip = (readChatFrame json frame).run json io t := by
  rw [ChatTurn.onFrameReceivedFrom, readChatFrame]
  split_ifs
  · rw [ChatTurn.handleInboundChatMessage]
    cases (payloadObject json frame.payload).bind ChatMessage.fromJson <;> rfl
  · rw [ChatTurn.handleInboundMessageAck]
    cases (payloadObject json frame.payload).bind MessageAck.fromJson <;> rfl
  · rw [ChatTurn.handleInboundTypingIndicator]
    cases (payloadObject json frame.payload).bind TypingIndicator.fromJson <;> rfl
  · rfl

/-- Events run as commands. -/
lemma react_eq_run (event : ChatEvent) (io : ChatIo) (t : ChatTurn) :
    ChatController.react json event io t = (event.command json).run json io t := by
  cases event with
  | frameReceivedFrom frame ip => exact onFrameReceivedFrom_eq_run json io frame ip t
  | _ => rfl

/-- Whether a frame may ask for a command. -/
def ChatCommand.inbound : ChatCommand → Bool
  | .chatMessage _ => true
  | .messageAck _ => true
  | .typingIndicator _ => true
  | .nothing => true
  | _ => false

lemma inbound_readChatFrame (frame : P2PFrame) : (readChatFrame json frame).inbound = true := by
  rw [readChatFrame]
  split_ifs
  · cases (payloadObject json frame.payload).bind ChatMessage.fromJson <;> rfl
  · cases (payloadObject json frame.payload).bind MessageAck.fromJson <;> rfl
  · cases (payloadObject json frame.payload).bind TypingIndicator.fromJson <;> rfl
  · rfl

section Command

variable {json} {event : ChatEvent} {cmd : ChatCommand}

lemma ChatEvent.exists_frame (h : event.command json = cmd) (hcmd : cmd.inbound = true) :
    ∃ frame ip, event = .frameReceivedFrom frame ip ∧ readChatFrame json frame = cmd := by
  cases event with
  | frameReceivedFrom frame ip => exact ⟨frame, ip, rfl, h⟩
  | _ =>
      rw [← h] at hcmd
      cases hcmd

lemma ChatEvent.command_frame_ne {frame : P2PFrame} {ip : String} (hcmd : cmd.inbound = false) :
    (frameReceivedFrom frame ip).command json ≠ cmd := by
  rintro rfl
  rw [command, inbound_readChatFrame] at hcmd
  cases hcmd

lemma ChatEvent.command_eq_sendMessage {recipient content ip : String}
    (h : event.command json = .sendMessage recipient content ip) :
    event = .sendMessage recipient content ip := by
  cases event with
  | sendMessage r m i =>
      cases h
      rfl
  | frameReceivedFrom frame i => exact absurd h (command_frame_ne rfl)
  | _ => cases h

lemma ChatEvent.command_eq_sendReadReceipt {messageId ip : String}
    (h : event.command json = .sendReadReceipt messageId ip) :
    event = .sendReadReceipt messageId ip := by
  cases event with
  | sendReadReceipt id i =>
      cases h
      rfl
  | frameReceivedFrom frame i => exact absurd h (command_frame_ne rfl)
  | _ => cases h

lemma ChatEvent.command_eq_timeout {timer : ℕ} (h : event.command json = .timeout timer) :
    event = .timeout timer := by
  cases event with
  | timeout i =>
      cases h
      rfl
  | frameReceivedFrom frame i => exact absurd h (command_frame_ne rfl)
  | _ => cases h

end Command

/-! ### What a command does to the tracked messages -/

/-- The ways in which a command changes the record of one message. -/
inductive TrackedChange (c : ChatController) (io : ChatIo) (a : String) :
    ChatCommand → Option TrackedMessage → Option TrackedMessage → Prop where
  | unchanged {cmd old} : TrackedChange c io a cmd old old
  | sent {recipient content ip old} (sendable : ChatTurn.Sendable recipient content)
      (id : generateMessageId io.uuid = a) :
      TrackedChange c io a (.sendMessage recipient content ip) old
        (some ⟨ChatTurn.newMessage c io recipient content, ChatTurn.firstState c.m_socket io,
          io.now⟩)
  | acked {ack tracked} (id : ack.messageId = a) :
      TrackedChange c io a (.messageAck ack) (some tracked)
        (some { tracked with state := ChatTurn.ackState ack.status })
  | failed {timer tracked} (task : c.timers.value? timer = some (.ackTimeout a))
      (state : tracked.state = .Sent ∨ tracked.state = .Pending) :
      TrackedChange c io a (.timeout timer) (some tracked) (some { tracked with state := .Failed })

namespace ChatTurn

variable (io : ChatIo) (t : ChatTurn)

@[simp] lemma m_outgoingMessages_onSocketDisconnected :
    t.onSocketDisconnected.chat.m_outgoingMessages = t.chat.m_outgoingMessages := by
  rw [onSocketDisconnected]
  generalize t.chat.m_peerTypingTimers.keys = peers
  induction peers generalizing t with
  | nil => rfl
  | cons peer peers ih => rw [List.foldl_cons, ih, m_outgoingMessages_clearTyping]

@[simp] lemma m_outgoingMessages_sendTypingNotification (recipient : String) (isTyping : Bool)
    (ip : String) :
    (t.sendTypingNotification json io recipient isTyping ip).chat.m_outgoingMessages =
      t.chat.m_outgoingMessages := by
  simp only [sendTypingNotification]
  split_ifs <;> simp

@[simp] lemma m_outgoingMessages_onChatMessage (msg : ChatMessage) :
    (t.onChatMessage json io msg).chat.m_outgoingMessages = t.chat.m_outgoingMessages := by
  simp only [onChatMessage]
  split_ifs <;> simp

@[simp] lemma m_outgoingMessages_onTypingIndicator (typing : TypingIndicator) :
    (t.onTypingIndicator typing).chat.m_outgoingMessages = t.chat.m_outgoingMessages := by
  simp only [onTypingIndicator]
  cases t.chat.m_peerTypingTimers.value? typing.senderDeviceId <;> split_ifs <;> simp

@[simp] lemma m_outgoingMessages_typingStopTimeout :
    (t.typingStopTimeout json io).chat.m_outgoingMessages = t.chat.m_outgoingMessages := by
  simp only [typingStopTimeout]
  split_ifs <;> simp

end ChatTurn

/-- **Inversion for tracked messages.** What a command does to the record of a
message. -/
theorem trackedChange_run (cmd : ChatCommand) (io : ChatIo) (t : ChatTurn) (a : String) :
    TrackedChange t.chat io a cmd (t.chat.m_outgoingMessages.value? a)
      (QMap.value? (cmd.run json io t).chat.m_outgoingMessages a) := by
  cases cmd with
  | sendMessage recipient content ip =>
      rw [ChatCommand.run]
      by_cases h : ChatTurn.Sendable recipient content
      · rw [ChatTurn.value?_sendMessage json io t recipient content ip h]
        split_ifs with ha
        · exact .sent h ha
        · exact .unchanged
      · obtain ⟨error, hrefused⟩ := t.sendMessage_refused json io recipient content ip h
        rw [hrefused]
        exact .unchanged
  | sendReadReceipt messageId ip =>
      rw [ChatCommand.run, ChatTurn.chat_sendReadReceipt]
      exact .unchanged
  | sendTypingNotification recipient isTyping ip =>
      rw [ChatCommand.run, ChatTurn.m_outgoingMessages_sendTypingNotification]
      exact .unchanged
  | chatMessage msg =>
      rw [ChatCommand.run, ChatTurn.m_outgoingMessages_onChatMessage]
      exact .unchanged
  | messageAck ack =>
      rw [ChatCommand.run, ChatTurn.onMessageAck]
      split_ifs with htracked
      · rw [ChatTurn.chat_emit, ChatTurn.chat_emit, ChatTurn.value?_setMessageState,
          ChatTurn.m_outgoingMessages_stopAckTimer]
        split_ifs with ha
        · obtain ⟨tracked, hold⟩ := Option.isSome_iff_exists.mp htracked
          rw [← ha, hold]
          exact .acked rfl
        · exact .unchanged
      · exact .unchanged
  | typingIndicator typing =>
      rw [ChatCommand.run, ChatTurn.m_outgoingMessages_onTypingIndicator]
      exact .unchanged
  | timeout timer =>
      rw [ChatCommand.run, ChatTurn.timeout]
      cases htask : t.chat.timers.value? timer with
      | none => exact .unchanged
      | some task =>
          cases task with
          | typingExpiry peer =>
              dsimp only
              rw [ChatTurn.m_outgoingMessages_clearTyping]
              exact .unchanged
          | ackTimeout id =>
              dsimp only
              rw [ChatTurn.ackTimeout, ChatTurn.m_outgoingMessages_stopAckTimer,
                ChatTurn.failUnanswered]
              dsimp only
              cases hold : t.chat.m_outgoingMessages.value? id with
              | none => exact .unchanged
              | some tracked =>
                  dsimp only
                  split_ifs with hstate
                  · rw [ChatTurn.chat_emit, ChatTurn.value?_setMessageState]
                    split_ifs with ha
                    · rw [← ha, hold]
                      exact .failed (by rw [htask, ha]) hstate
                    · exact .unchanged
                  · exact .unchanged
  | typingStopTimeout =>
      rw [ChatCommand.run, ChatTurn.m_outgoingMessages_typingStopTimeout]
      exact .unchanged
  | disconnected =>
      rw [ChatCommand.run, ChatTurn.m_outgoingMessages_onSocketDisconnected]
      exact .unchanged
  | nothing => exact .unchanged

/-! ### What a command does that can be seen -/

/-- Whether a message counts as received already. -/
def ChatController.Knows (c : ChatController) (now : ℤ) (messageId : String) : Prop :=
  (c.m_receivedMessageCache.value? messageId).any
    (fun received => now - received ≤ DUPLICATE_CACHE_WINDOW_SECS) = true

instance (c : ChatController) (now : ℤ) (messageId : String) :
    Decidable (c.Knows now messageId) := inferInstanceAs (Decidable (_ = true))

lemma ChatController.knows_iff {c : ChatController} {now : ℤ} {messageId : String} :
    c.Knows now messageId ↔ ∃ received,
      c.m_receivedMessageCache.value? messageId = some received ∧
        now - received ≤ DUPLICATE_CACHE_WINDOW_SECS := by
  rw [Knows]
  cases c.m_receivedMessageCache.value? messageId <;> simp

/-- The deeds of a command. -/
inductive Does (c : ChatController) (io : ChatIo) : ChatCommand → ChatDeed → Prop where
  | connect {cmd ip} : Does c io cmd (.connectToPeer ip)
  | message {recipient content ip} (sendable : ChatTurn.Sendable recipient content) :
      Does c io (.sendMessage recipient content ip) (.sendFrame (jsonFrame json .ChatMessage
        ((ChatTurn.newMessage c io recipient content).toJson io.later)))
  | messageSent {recipient content ip} (sendable : ChatTurn.Sendable recipient content) :
      Does c io (.sendMessage recipient content ip)
        (.signal (.messageSent (generateMessageId io.uuid)))
  | receipt {messageId ip} (id : messageId ≠ "") :
      Does c io (.sendReadReceipt messageId ip) (.sendFrame (ackFrame json io messageId "read"))
  | delivery {msg} :
      Does c io (.chatMessage msg) (.sendFrame (ackFrame json io msg.messageId "delivered"))
  | messageReceived {msg} (new : ¬ c.Knows io.now msg.messageId) :
      Does c io (.chatMessage msg) (.signal (.messageReceived msg))
  | messageAckReceived {ack} : Does c io (.messageAck ack) (.signal (.messageAckReceived ack))
  | typing {cmd recipient isTyping} :
      Does c io cmd (.sendFrame (typingFrame json io c.deviceId recipient isTyping))
  | statusChanged {cmd messageId state} :
      Does c io cmd (.signal (.messageStatusChanged messageId state))
  | typingChanged {cmd peer isTyping} : Does c io cmd (.signal (.peerTypingChanged peer isTyping))
  | error {cmd text} : Does c io cmd (.signal (.chatErrorOccurred text))

namespace ChatTurn

variable (io : ChatIo) (t : ChatTurn) (d : ChatDeed)

@[simp] lemma mem_deeds_log (d' : ChatDeed) : d ∈ (t.log d').deeds ↔ d ∈ t.deeds ∨ d = d' := by
  rw [log, List.mem_append, List.mem_singleton]

@[simp] lemma mem_deeds_emit (s : ChatSignal) :
    d ∈ (t.emit s).deeds ↔ d ∈ t.deeds ∨ d = .signal s := mem_deeds_log t d _

@[simp] lemma mem_deeds_sendFrame (frame : P2PFrame) :
    d ∈ (t.sendFrame frame).deeds ↔
      d ∈ t.deeds ∨ t.chat.m_socket = true ∧ d = .sendFrame frame := by
  rw [sendFrame]
  split_ifs with h <;> simp [h]

@[simp] lemma mem_deeds_connectIfNeeded (ip : String) :
    d ∈ (t.connectIfNeeded io ip).deeds ↔ d ∈ t.deeds ∨
      (t.chat.m_socket && ip ≠ "" && !io.socketConnected) = true ∧ d = .connectToPeer ip := by
  rw [connectIfNeeded]
  split_ifs with h
  · rw [mem_deeds_log, and_iff_right h]
  · rw [iff_false_intro h, false_and, or_false]

@[simp] lemma mem_deeds_clearTyping (peer : String) :
    d ∈ (t.clearTyping peer).deeds ↔ d ∈ t.deeds ∨
      (t.chat.m_peerTypingTimers.value? peer).isSome = true ∧
        d = .signal (.peerTypingChanged peer false) := by
  rw [clearTyping]
  cases t.chat.m_peerTypingTimers.value? peer <;> simp

/-- What `onSocketDisconnected` tells. -/
lemma mem_deeds_onSocketDisconnected (h : d ∈ t.onSocketDisconnected.deeds) :
    d ∈ t.deeds ∨ ∃ peer, d = .signal (.peerTypingChanged peer false) := by
  rw [onSocketDisconnected] at h
  generalize t.chat.m_peerTypingTimers.keys = peers at h
  induction peers generalizing t with
  | nil => exact .inl h
  | cons peer peers ih =>
      rcases ih _ h with h | h
      · rw [mem_deeds_clearTyping] at h
        rcases h with h | ⟨-, h⟩
        · exact .inl h
        · exact .inr ⟨peer, h⟩
      · exact .inr h

/-- What a typing notification sends. -/
lemma mem_deeds_sendTypingNotification {recipient ip : String} {isTyping : Bool}
    (h : d ∈ (t.sendTypingNotification json io recipient isTyping ip).deeds) :
    d ∈ t.deeds ∨ (∃ ip, d = .connectToPeer ip) ∨
      ∃ recipient isTyping, d = .sendFrame (typingFrame json io t.chat.deviceId recipient
        isTyping) := by
  simp only [sendTypingNotification] at h
  split_ifs at h
  · exact .inl h
  · simp only [mem_deeds_sendFrame, mem_deeds_connectIfNeeded] at h
    rcases h with (h | ⟨-, h⟩) | ⟨-, h⟩
    · exact .inl h
    · exact .inr (.inl ⟨ip, h⟩)
    · exact .inr (.inr ⟨_, _, h⟩)
  · exact .inl h
  · rw [mem_deeds_sendFrame] at h
    rcases h with h | ⟨-, h⟩
    · exact .inl h
    · exact .inr (.inr ⟨_, _, h⟩)
  · exact .inl h

lemma isSome_cache_iff (messageId : String) :
    (QMap.value? (t.cleanExpiredDuplicateCache io.now).chat.m_receivedMessageCache
      messageId).isSome = true ↔ t.chat.Knows io.now messageId := by
  rw [cleanExpiredDuplicateCache, ChatController.knows_iff, QMap.value?_filter]
  cases t.chat.m_receivedMessageCache.value? messageId with
  | none => simp
  | some received => simp [Option.filter]

end ChatTurn

variable {json}

lemma does_typing {c : ChatController} {io : ChatIo} {cmd : ChatCommand} {t : ChatTurn}
    {recipient ip : String} {isTyping : Bool} (hid : t.chat.deviceId = c.deviceId)
    (hdeeds : t.deeds = []) {d : ChatDeed}
    (hd : d ∈ (t.sendTypingNotification json io recipient isTyping ip).deeds) :
    Does json c io cmd d := by
  rcases ChatTurn.mem_deeds_sendTypingNotification json io t d hd with
    h | ⟨ip, rfl⟩ | ⟨recipient, isTyping, rfl⟩
  · rw [hdeeds] at h
    cases h
  · exact .connect
  · rw [hid]
    exact .typing

lemma does_onChatMessage {c : ChatController} {io : ChatIo} {msg : ChatMessage} {d : ChatDeed}
    (hd : d ∈ (ChatTurn.onChatMessage json io msg { chat := c }).deeds) :
    Does json c io (.chatMessage msg) d := by
  simp only [ChatTurn.onChatMessage] at hd
  split_ifs at hd with hknown
  · simp only [ChatTurn.acknowledge, ChatTurn.mem_deeds_sendFrame,
      ChatTurn.deeds_cleanExpiredDuplicateCache, List.not_mem_nil, false_or] at hd
    rw [hd.2]
    exact .delivery
  · rw [ChatTurn.isSome_cache_iff] at hknown
    simp only [ChatTurn.acknowledge, ChatTurn.mem_deeds_sendFrame, ChatTurn.mem_deeds_emit,
      ChatTurn.mem_deeds_clearTyping, ChatTurn.deeds_cleanExpiredDuplicateCache,
      List.not_mem_nil, false_or] at hd
    rcases hd with (⟨-, rfl⟩ | rfl) | ⟨-, rfl⟩
    · exact .typingChanged
    · exact .messageReceived hknown
    · exact .delivery

lemma does_onMessageAck {c : ChatController} {io : ChatIo} {ack : MessageAck} {d : ChatDeed}
    (hd : d ∈ (ChatTurn.onMessageAck ack { chat := c }).deeds) :
    Does json c io (.messageAck ack) d := by
  simp only [ChatTurn.onMessageAck] at hd
  split_ifs at hd
  · simp only [ChatTurn.mem_deeds_emit, ChatTurn.deeds_setMessageState,
      ChatTurn.deeds_stopAckTimer, List.not_mem_nil, false_or] at hd
    rcases hd with rfl | rfl
    · exact .statusChanged
    · exact .messageAckReceived
  · simp only [ChatTurn.mem_deeds_emit, List.not_mem_nil, false_or] at hd
    rw [hd]
    exact .messageAckReceived

lemma does_timeout {c : ChatController} {io : ChatIo} {timer : ℕ} {d : ChatDeed}
    (hd : d ∈ (ChatTurn.timeout timer { chat := c }).deeds) :
    Does json c io (.timeout timer) d := by
  rw [ChatTurn.timeout] at hd
  cases htask : c.timers.value? timer with
  | none =>
      rw [htask] at hd
      cases hd
  | some task =>
      rw [htask] at hd
      cases task with
      | typingExpiry peer =>
          simp only [ChatTurn.mem_deeds_clearTyping, List.not_mem_nil, false_or] at hd
          rw [hd.2]
          exact .typingChanged
      | ackTimeout id =>
          simp only [ChatTurn.ackTimeout, ChatTurn.deeds_stopAckTimer,
            ChatTurn.failUnanswered] at hd
          split at hd
          · split_ifs at hd
            · simp only [ChatTurn.mem_deeds_emit, ChatTurn.deeds_setMessageState, List.not_mem_nil,
                false_or] at hd
              rw [hd]
              exact .statusChanged
            · cases hd
          · cases hd

/-- **Inversion for deeds.** What a command does is one of its deeds. -/
theorem does_run {c : ChatController} {cmd : ChatCommand} {io : ChatIo} {d : ChatDeed}
    (hd : d ∈ (cmd.run json io { chat := c }).deeds) : Does json c io cmd d := by
  cases cmd with
  | sendMessage recipient content ip =>
      rw [ChatCommand.run] at hd
      by_cases h : ChatTurn.Sendable recipient content
      · simp only [ChatTurn.sendMessage, if_neg (not_lt.mpr h.1), if_neg h.2] at hd
        rw [ChatTurn.mem_deeds_emit, apply_ite ChatTurn.deeds, ChatTurn.deeds_setMessageState,
          ite_self] at hd
        simp only [ChatTurn.mem_deeds_sendFrame, ChatTurn.deeds_startAckTimer,
          ChatTurn.deeds_track, ChatTurn.mem_deeds_connectIfNeeded, List.not_mem_nil,
          false_or] at hd
        rcases hd with (⟨-, rfl⟩ | ⟨-, rfl⟩) | rfl
        · exact .connect
        · exact .message h
        · exact .messageSent h
      · obtain ⟨error, hrefused⟩ := ChatTurn.sendMessage_refused json io { chat := c } recipient
          content ip h
        rw [hrefused, ChatTurn.mem_deeds_emit] at hd
        rcases hd with hd | rfl
        · cases hd
        · exact .error
  | sendReadReceipt messageId ip =>
      rw [ChatCommand.run, ChatTurn.sendReadReceipt] at hd
      split_ifs at hd with hid
      · cases hd
      · simp only [ChatTurn.mem_deeds_sendFrame, ChatTurn.mem_deeds_connectIfNeeded,
          List.not_mem_nil, false_or] at hd
        rcases hd with ⟨-, rfl⟩ | ⟨-, rfl⟩
        · exact .connect
        · exact .receipt hid
  | sendTypingNotification recipient isTyping ip => exact does_typing rfl rfl hd
  | chatMessage msg => exact does_onChatMessage hd
  | messageAck ack => exact does_onMessageAck hd
  | typingIndicator typing =>
      rw [ChatCommand.run, ChatTurn.onTypingIndicator] at hd
      split_ifs at hd
      · cases htimer : c.m_peerTypingTimers.value? typing.senderDeviceId with
        | none =>
            simp only [htimer, ChatTurn.mem_deeds_emit, List.not_mem_nil, false_or] at hd
            rw [hd]
            exact .typingChanged
        | some timer =>
            simp only [htimer] at hd
            cases hd
      · simp only [ChatTurn.mem_deeds_clearTyping, List.not_mem_nil, false_or] at hd
        rw [hd.2]
        exact .typingChanged
  | timeout timer => exact does_timeout hd
  | typingStopTimeout =>
      simp only [ChatCommand.run, ChatTurn.typingStopTimeout] at hd
      split_ifs at hd
      · exact does_typing (by rfl) (by rfl) hd
      · cases hd
      · cases hd
  | disconnected =>
      rcases ChatTurn.mem_deeds_onSocketDisconnected _ d hd with h | ⟨peer, rfl⟩
      · cases h
      · exact .typingChanged
  | nothing => cases hd

/-! ### What a command does to the duplicate cache -/

namespace ChatTurn

variable (io : ChatIo) (t : ChatTurn)

@[simp] lemma m_receivedMessageCache_onSocketDisconnected :
    t.onSocketDisconnected.chat.m_receivedMessageCache = t.chat.m_receivedMessageCache := by
  rw [onSocketDisconnected]
  generalize t.chat.m_peerTypingTimers.keys = peers
  induction peers generalizing t with
  | nil => rfl
  | cons peer peers ih => rw [List.foldl_cons, ih, m_receivedMessageCache_clearTyping]

@[simp] lemma m_receivedMessageCache_sendTypingNotification (recipient : String)
    (isTyping : Bool) (ip : String) :
    (t.sendTypingNotification json io recipient isTyping ip).chat.m_receivedMessageCache =
      t.chat.m_receivedMessageCache := by
  simp only [sendTypingNotification]
  split_ifs <;> simp

@[simp] lemma m_receivedMessageCache_onMessageAck (ack : MessageAck) :
    (t.onMessageAck ack).chat.m_receivedMessageCache = t.chat.m_receivedMessageCache := by
  simp only [onMessageAck]
  split_ifs <;> simp

@[simp] lemma m_receivedMessageCache_onTypingIndicator (typing : TypingIndicator) :
    (t.onTypingIndicator typing).chat.m_receivedMessageCache = t.chat.m_receivedMessageCache := by
  simp only [onTypingIndicator]
  cases t.chat.m_peerTypingTimers.value? typing.senderDeviceId <;> split_ifs <;> simp

@[simp] lemma m_receivedMessageCache_timeout (timer : ℕ) :
    (t.timeout timer).chat.m_receivedMessageCache = t.chat.m_receivedMessageCache := by
  rw [timeout]
  cases t.chat.timers.value? timer with
  | none => rfl
  | some task =>
      cases task with
      | typingExpiry peer => simp
      | ackTimeout id =>
          simp only [ackTimeout, m_receivedMessageCache_stopAckTimer, failUnanswered]
          split
          · split_ifs <;> simp
          · rfl

@[simp] lemma m_receivedMessageCache_typingStopTimeout :
    (t.typingStopTimeout json io).chat.m_receivedMessageCache = t.chat.m_receivedMessageCache := by
  simp only [typingStopTimeout]
  split_ifs <;> simp

/-- A message is entered when it is new. -/
lemma value?_cache_onChatMessage (msg : ChatMessage) (a : String) :
    QMap.value? (t.onChatMessage json io msg).chat.m_receivedMessageCache a =
      if msg.messageId = a ∧ ¬ t.chat.Knows io.now a then some io.later
      else (t.chat.m_receivedMessageCache.value? a).filter
        fun received => ¬ io.now - received > DUPLICATE_CACHE_WINDOW_SECS := by
  have hclean : QMap.value? (t.cleanExpiredDuplicateCache io.now).chat.m_receivedMessageCache a =
      (t.chat.m_receivedMessageCache.value? a).filter
        fun received => ¬ io.now - received > DUPLICATE_CACHE_WINDOW_SECS :=
    QMap.value?_filter _ _ a
  simp only [onChatMessage, isSome_cache_iff]
  by_cases ha : msg.messageId = a
  · subst ha
    split_ifs with hknown hnew hnew
    · exact absurd hknown hnew.2
    · rw [chat_acknowledge, hclean]
    · simp
    · exact absurd ⟨rfl, hknown⟩ hnew
  · simp only [ha, false_and, if_false]
    split_ifs
    · rw [chat_acknowledge, hclean]
    · rw [chat_acknowledge, chat_emit, m_receivedMessageCache_clearTyping,
        QMap.value?_insert_of_ne _ ha, hclean]

end ChatTurn

/-- The other commands leave the cache alone. -/
lemma m_receivedMessageCache_run {cmd : ChatCommand} (hcmd : ∀ msg, cmd ≠ .chatMessage msg)
    (io : ChatIo) (t : ChatTurn) :
    (cmd.run json io t).chat.m_receivedMessageCache = t.chat.m_receivedMessageCache := by
  cases cmd with
  | chatMessage msg => exact absurd rfl (hcmd msg)
  | sendMessage recipient content ip =>
      exact ChatTurn.m_receivedMessageCache_sendMessage json io t recipient content ip
  | sendReadReceipt messageId ip => rw [ChatCommand.run, ChatTurn.chat_sendReadReceipt]
  | sendTypingNotification recipient isTyping ip =>
      exact ChatTurn.m_receivedMessageCache_sendTypingNotification io t recipient isTyping ip
  | messageAck ack => exact ChatTurn.m_receivedMessageCache_onMessageAck t ack
  | typingIndicator typing => exact ChatTurn.m_receivedMessageCache_onTypingIndicator t typing
  | timeout timer => exact ChatTurn.m_receivedMessageCache_timeout t timer
  | typingStopTimeout => exact ChatTurn.m_receivedMessageCache_typingStopTimeout io t
  | disconnected => exact ChatTurn.m_receivedMessageCache_onSocketDisconnected t
  | nothing => rfl

/-- The log of a message: new ones are shown, and each is acknowledged. -/
lemma filterMap_onChatMessage {β : Type} (f : ChatDeed → Option β) (io : ChatIo)
    (c : ChatController) (msg : ChatMessage)
    (hf : ∀ peer, f (.signal (.peerTypingChanged peer false)) = none) :
    (ChatTurn.onChatMessage json io msg { chat := c }).deeds.filterMap f =
      (if c.Knows io.now msg.messageId then [] else (f (.signal (.messageReceived msg))).toList) ++
        bif c.m_socket then
          (f (.sendFrame (ackFrame json io msg.messageId "delivered"))).toList
        else [] := by
  have hclear : ∀ (t : ChatTurn) peer,
      (t.clearTyping peer).deeds.filterMap f = t.deeds.filterMap f := by
    intro t peer
    rw [ChatTurn.clearTyping]
    cases t.chat.m_peerTypingTimers.value? peer with
    | none => rfl
    | some timer => simp [hf]
  have hsocket : ∀ (t : ChatTurn) peer, (t.clearTyping peer).chat.m_socket = t.chat.m_socket :=
    fun t peer => congrArg Prod.snd (ChatTurn.fixed_clearTyping t peer)
  simp only [ChatTurn.onChatMessage, ChatTurn.isSome_cache_iff]
  split_ifs
  · rw [ChatTurn.acknowledge, ChatTurn.filterMap_sendFrame]
    rfl
  · rw [ChatTurn.acknowledge, ChatTurn.filterMap_sendFrame, ChatTurn.filterMap_emit, hclear,
      ChatTurn.chat_emit, hsocket]
    rfl

/-! ### What no command changes -/

namespace ChatTurn

variable (io : ChatIo) (t : ChatTurn)

@[simp] lemma fixed_emit (s : ChatSignal) : (t.emit s).fixed = t.fixed := rfl

@[simp] lemma fixed_sendFrame (frame : P2PFrame) : (t.sendFrame frame).fixed = t.fixed := by
  rw [fixed, chat_sendFrame, fixed]

@[simp] lemma fixed_connectIfNeeded (ip : String) :
    (t.connectIfNeeded io ip).fixed = t.fixed := by
  rw [fixed, chat_connectIfNeeded, fixed]

@[simp] lemma fixed_onSocketDisconnected : t.onSocketDisconnected.fixed = t.fixed := by
  rw [onSocketDisconnected]
  generalize t.chat.m_peerTypingTimers.keys = peers
  induction peers generalizing t with
  | nil => rfl
  | cons peer peers ih => rw [List.foldl_cons, ih, fixed_clearTyping]

@[simp] lemma fixed_sendTypingNotification (recipient : String) (isTyping : Bool) (ip : String) :
    (t.sendTypingNotification json io recipient isTyping ip).fixed = t.fixed := by
  simp only [sendTypingNotification]
  split_ifs <;> simp [fixed]

@[simp] lemma fixed_sendMessage (recipient content ip : String) :
    (t.sendMessage json io recipient content ip).1.fixed = t.fixed := by
  simp only [sendMessage]
  split_ifs <;> simp

@[simp] lemma fixed_sendReadReceipt (id ip : String) :
    (t.sendReadReceipt json io id ip).1.fixed = t.fixed := by
  rw [fixed, chat_sendReadReceipt, fixed]

@[simp] lemma fixed_onChatMessage (msg : ChatMessage) :
    (t.onChatMessage json io msg).fixed = t.fixed := by
  simp only [onChatMessage, acknowledge]
  split_ifs
  · rw [fixed_sendFrame]
    rfl
  · rw [fixed_sendFrame, fixed_emit, fixed_clearTyping]
    rfl

@[simp] lemma fixed_onMessageAck (ack : MessageAck) : (t.onMessageAck ack).fixed = t.fixed := by
  simp only [onMessageAck]
  split_ifs <;> simp

@[simp] lemma fixed_onTypingIndicator (typing : TypingIndicator) :
    (t.onTypingIndicator typing).fixed = t.fixed := by
  simp only [onTypingIndicator]
  split_ifs
  · cases t.chat.m_peerTypingTimers.value? typing.senderDeviceId <;> rfl
  · exact fixed_clearTyping t _

@[simp] lemma fixed_timeout (timer : ℕ) : (t.timeout timer).fixed = t.fixed := by
  rw [timeout]
  cases t.chat.timers.value? timer with
  | none => rfl
  | some task =>
      cases task with
      | typingExpiry peer => exact fixed_clearTyping _ peer
      | ackTimeout id =>
          simp only [ackTimeout, fixed_stopAckTimer, failUnanswered]
          split
          · split_ifs
            · rw [fixed_emit, fixed_setMessageState]
              rfl
            · rfl
          · rfl

@[simp] lemma fixed_typingStopTimeout : (t.typingStopTimeout json io).fixed = t.fixed := by
  simp only [typingStopTimeout]
  split_ifs
  · rw [fixed_sendTypingNotification]
    rfl
  · rfl
  · rfl

end ChatTurn

lemma fixed_run (cmd : ChatCommand) (io : ChatIo) (t : ChatTurn) :
    (cmd.run json io t).fixed = t.fixed := by
  cases cmd with
  | sendMessage recipient content ip => exact ChatTurn.fixed_sendMessage io t recipient content ip
  | sendReadReceipt messageId ip => exact ChatTurn.fixed_sendReadReceipt io t messageId ip
  | sendTypingNotification recipient isTyping ip =>
      exact ChatTurn.fixed_sendTypingNotification io t recipient isTyping ip
  | chatMessage msg => exact ChatTurn.fixed_onChatMessage io t msg
  | messageAck ack => exact ChatTurn.fixed_onMessageAck t ack
  | typingIndicator typing => exact ChatTurn.fixed_onTypingIndicator t typing
  | timeout timer => exact ChatTurn.fixed_timeout t timer
  | typingStopTimeout => exact ChatTurn.fixed_typingStopTimeout io t
  | disconnected => exact ChatTurn.fixed_onSocketDisconnected t
  | nothing => rfl

lemma deviceId_run (cmd : ChatCommand) (io : ChatIo) (t : ChatTurn) :
    (cmd.run json io t).chat.deviceId = t.chat.deviceId :=
  congrArg Prod.fst (fixed_run cmd io t)

lemma m_socket_run (cmd : ChatCommand) (io : ChatIo) (t : ChatTurn) :
    (cmd.run json io t).chat.m_socket = t.chat.m_socket :=
  congrArg Prod.snd (fixed_run cmd io t)

end MeckChat.Protocol
