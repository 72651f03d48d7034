import MeckChat.Protocol.ChatSteps

/-!
Networks of chat controllers.

* `ChatNet` holds the controllers of any number of nodes and, for each node, all
  frames that were ever sent to it. A frame that arrives is one of these: it may do
  so late, again, before an older one, or never.
* `ChatNet.step` runs one event on one node. The frames that the node sends go to
  the nodes at the other ends of its connections, which the surroundings name anew
  for each event.
* `made`, `shown` and `acked` keep what the nodes told their users: `made_step`,
  `shown_step` and `acked_step` say what a command adds.
* `readChatFrame_chatMessage` and `readChatFrame_messageAck` say where the frames
  come from that read as a message or as an acknowledgement.
-/

namespace MeckChat.Protocol

open QJson ChatController

variable (json : JsonCodec)

/-! ### What frames say -/

/-- What of a message its receiver gets to see as it was sent. -/
def ChatMessage.text (m : ChatMessage) : String × String × String × String :=
  (m.messageId, m.senderDeviceId, m.recipientDeviceId, m.content)

lemma messageId_eq_of_text_eq {m m' : ChatMessage} (h : m.text = m'.text) :
    m.messageId = m'.messageId := congrArg Prod.fst h

lemma text_of_fromJson_toJson {m m' : ChatMessage} {now : ℤ}
    (h : ChatMessage.fromJson (m.toJson now) = some m') : m'.text = m.text := by
  by_cases hids : m.messageId = "" ∨ m.senderDeviceId = "" ∨ m.recipientDeviceId = ""
  · simp [ChatMessage.fromJson, ChatMessage.toJson, QMap.value?_insert, hids] at h
  · by_cases hsize : (QString.toUtf8 m.content).length ≤ MAX_CHAT_MESSAGE_CONTENT_SIZE
    · rw [not_or, not_or] at hids
      rw [ChatMessage.fromJson_toJson now hids.1 hids.2.1 hids.2.2 hsize, Option.some.injEq] at h
      rw [← h]
      rfl
    · rw [not_le] at hsize
      simp [ChatMessage.fromJson, ChatMessage.toJson, QMap.value?_insert, hids, hsize] at h

lemma messageId_of_fromJson_toJson {a a' : MessageAck} {now : ℤ}
    (h : MessageAck.fromJson (a.toJson now) = some a') :
    a'.messageId = a.messageId ∧ a'.status = a.status := by
  by_cases hid : a.messageId = ""
  · simp [MessageAck.fromJson, MessageAck.toJson, QMap.value?_insert, hid] at h
  · rw [MessageAck.fromJson_toJson now hid, Option.some.injEq] at h
    rw [← h]
    exact ⟨rfl, rfl⟩

lemma fromJson_of_readChatFrame {frame : P2PFrame} {m : ChatMessage}
    (h : readChatFrame json frame = .chatMessage m) :
    frame.type = .ChatMessage ∧
      (payloadObject json frame.payload).bind ChatMessage.fromJson = some m := by
  rw [readChatFrame] at h
  split_ifs at h with htype
  · cases hm : (payloadObject json frame.payload).bind ChatMessage.fromJson with
    | none => simp [hm] at h
    | some m' =>
        rw [hm, Option.map_some, Option.getD_some, ChatCommand.chatMessage.injEq] at h
        exact ⟨htype, by rw [h]⟩
  · cases hm : (payloadObject json frame.payload).bind MessageAck.fromJson <;> simp [hm] at h
  · cases hm : (payloadObject json frame.payload).bind TypingIndicator.fromJson <;> simp [hm] at h

lemma ackFromJson_of_readChatFrame {frame : P2PFrame} {ack : MessageAck}
    (h : readChatFrame json frame = .messageAck ack) :
    frame.type = .MessageAck ∧
      (payloadObject json frame.payload).bind MessageAck.fromJson = some ack := by
  rw [readChatFrame] at h
  split_ifs at h with _ htype
  · cases hm : (payloadObject json frame.payload).bind ChatMessage.fromJson <;> simp [hm] at h
  · cases hm : (payloadObject json frame.payload).bind MessageAck.fromJson with
    | none => simp [hm] at h
    | some ack' =>
        rw [hm, Option.map_some, Option.getD_some, ChatCommand.messageAck.injEq] at h
        exact ⟨htype, by rw [h]⟩
  · cases hm : (payloadObject json frame.payload).bind TypingIndicator.fromJson <;> simp [hm] at h

variable {json} {c : ChatController} {io : ChatIo} {cmd : ChatCommand} {frame : P2PFrame}

/-- A frame that reads as a message was sent by `sendMessage`. -/
lemma readChatFrame_chatMessage {m : ChatMessage} (hdoes : Does json c io cmd (.sendFrame frame))
    (hread : readChatFrame json frame = .chatMessage m) :
    ∃ recipient content ip, cmd = .sendMessage recipient content ip ∧
      ChatTurn.Sendable recipient content ∧
      m.text = (ChatTurn.newMessage c io recipient content).text := by
  obtain ⟨htype, hm⟩ := fromJson_of_readChatFrame json hread
  cases hdoes with
  | @message recipient content ip sendable =>
      rw [payloadObject_jsonFrame, Option.bind_some] at hm
      exact ⟨recipient, content, ip, rfl, sendable, text_of_fromJson_toJson hm⟩
  | receipt id => exact absurd htype (show FrameType.MessageAck ≠ .ChatMessage by decide)
  | delivery => exact absurd htype (show FrameType.MessageAck ≠ .ChatMessage by decide)
  | typing => exact absurd htype (show FrameType.TypingIndicator ≠ .ChatMessage by decide)

/-- A frame that reads as an acknowledgement is a read receipt, or the answer to a
message. -/
lemma readChatFrame_messageAck {ack : MessageAck}
    (hdoes : Does json c io cmd (.sendFrame frame))
    (hread : readChatFrame json frame = .messageAck ack) :
    (∃ ip, cmd = .sendReadReceipt ack.messageId ip ∧ ack.status = "read") ∨
      ∃ m, cmd = .chatMessage m ∧ ack.messageId = m.messageId ∧ ack.status = "delivered" := by
  obtain ⟨htype, hack⟩ := ackFromJson_of_readChatFrame json hread
  cases hdoes with
  | message sendable => exact absurd htype (show FrameType.ChatMessage ≠ .MessageAck by decide)
  | @receipt messageId ip id =>
      rw [ackFrame, payloadObject_jsonFrame, Option.bind_some] at hack
      obtain ⟨hid, hstatus⟩ := messageId_of_fromJson_toJson hack
      rw [hid, hstatus]
      exact .inl ⟨ip, rfl, rfl⟩
  | @delivery msg =>
      rw [ackFrame, payloadObject_jsonFrame, Option.bind_some] at hack
      obtain ⟨hid, hstatus⟩ := messageId_of_fromJson_toJson hack
      exact .inr ⟨msg, rfl, hid, hstatus⟩
  | typing => exact absurd htype (show FrameType.TypingIndicator ≠ .MessageAck by decide)

/-! ### The network -/

/-- The frame of a deed. -/
def ChatDeed.frame? : ChatDeed → Option P2PFrame
  | .sendFrame frame => some frame
  | _ => none

/-- The message that a deed shows to the user. -/
def ChatDeed.shown? : ChatDeed → Option ChatMessage
  | .signal (.messageReceived m) => some m
  | _ => none

/-- The acknowledgement that a deed reports. -/
def ChatDeed.acked? : ChatDeed → Option MessageAck
  | .signal (.messageAckReceived ack) => some ack
  | _ => none

/-- The message that a deed reports as sent, as the controller tracks it. -/
def ChatDeed.made? (c : ChatController) : ChatDeed → Option ChatMessage
  | .signal (.messageSent messageId) => (c.getTrackedMessage messageId).map (·.message)
  | _ => none

/-- The controllers of a network, the frames ever sent to each of them, the messages
that each made and showed, and the acknowledgements that it reported, in order. -/
structure ChatNet (ι : Type) where
  nodes : ι → ChatController
  mail : ι → List P2PFrame := fun _ => []
  made : ι → List ChatMessage := fun _ => []
  shown : ι → List ChatMessage := fun _ => []
  acked : ι → List MessageAck := fun _ => []

/-- An event at a node, and the nodes at the other ends of its connections. -/
structure ChatMove (ι : Type) where
  node : ι
  event : ChatEvent
  io : ChatIo := {}
  links : List ι := []

/-- A deed of a node, and the event it belongs to. -/
structure NodeDeed (ι : Type) where
  node : ι
  event : ChatEvent
  deed : ChatDeed

variable {ι : Type} [DecidableEq ι]

/-- One event in the network. -/
def ChatNet.step (json : JsonCodec) (net : ChatNet ι) (e : ChatMove ι) :
    ChatNet ι × List (NodeDeed ι) :=
  let r := (net.nodes e.node).step json e.event e.io
  ({ nodes := Function.update net.nodes e.node r.1
     mail := fun j => net.mail j ++ if j ∈ e.links then r.2.filterMap ChatDeed.frame? else []
     made := fun j =>
       net.made j ++ if j = e.node then r.2.filterMap (ChatDeed.made? r.1) else []
     shown := fun j => net.shown j ++ if j = e.node then r.2.filterMap ChatDeed.shown? else []
     acked := fun j => net.acked j ++ if j = e.node then r.2.filterMap ChatDeed.acked? else [] },
    r.2.map fun d => ⟨e.node, e.event, d⟩)

/-- The network as a machine. -/
def chatNetwork (json : JsonCodec) : Machine (ChatNet ι) (ChatMove ι) (NodeDeed ι) where
  step net e := net.step json e

/-- The network at the start. -/
def ChatNet.start (deviceId : ι → String) (m_socket : ι → Bool) : ChatNet ι where
  nodes i := { deviceId := deviceId i, m_socket := m_socket i }

/-! ### What a step does -/

/-- The messages that a command makes. -/
def ChatCommand.makes (c : ChatController) (io : ChatIo) : ChatCommand → List ChatMessage
  | .sendMessage recipient content _ =>
      if ChatTurn.Sendable recipient content then [ChatTurn.newMessage c io recipient content]
      else []
  | _ => []

/-- The messages that a command shows. -/
def ChatCommand.shows (c : ChatController) (io : ChatIo) : ChatCommand → List ChatMessage
  | .chatMessage m => if c.Knows io.now m.messageId then [] else [m]
  | _ => []

/-- The acknowledgements that a command reports. -/
def ChatCommand.acks : ChatCommand → List MessageAck
  | .messageAck ack => [ack]
  | _ => []

/-- The controller behind a command, and its deeds. -/
lemma ChatController.step_eq_run (c : ChatController) (event : ChatEvent) (io : ChatIo) :
    c.step json event io = (((event.command json).run json io { chat := c }).chat,
      ((event.command json).run json io { chat := c }).deeds) := by
  rw [ChatController.step, react_eq_run]

lemma filterMap_made :
    (cmd.run json io { chat := c }).deeds.filterMap
      (ChatDeed.made? (cmd.run json io { chat := c }).chat) = cmd.makes c io := by
  have hnone : (∀ recipient content ip, ChatTurn.Sendable recipient content →
      cmd ≠ .sendMessage recipient content ip) →
      (cmd.run json io { chat := c }).deeds.filterMap
        (ChatDeed.made? (cmd.run json io { chat := c }).chat) = [] := by
    intro hcmd
    rw [List.filterMap_eq_nil_iff]
    intro d hd
    cases does_run hd with
    | messageSent sendable => exact absurd rfl (hcmd _ _ _ sendable)
    | _ => rfl
  cases cmd with
  | sendMessage recipient content ip =>
      rw [ChatCommand.makes]
      split_ifs with h
      · rw [ChatCommand.run, ChatTurn.filterMap_sendMessage _ _ _ _ _ _ _ h]
        have htracked := ChatTurn.value?_sendMessage json io { chat := c } recipient content ip h
          (generateMessageId io.uuid)
        rw [if_pos rfl] at htracked
        have hmade : ChatDeed.made?
            (ChatTurn.sendMessage json io recipient content ip { chat := c }).1.chat
            (.signal (.messageSent (generateMessageId io.uuid))) =
              some (ChatTurn.newMessage c io recipient content) := by
          rw [ChatDeed.made?, getTrackedMessage, htracked]
          rfl
        rw [hmade]
        cases c.m_socket <;> simp [ChatDeed.made?]
      · exact hnone fun r ct i hs heq => h (by
          rw [ChatCommand.sendMessage.injEq] at heq
          rwa [heq.1, heq.2.1])
  | _ =>
      refine hnone ?_
      intro recipient content ip _ h
      cases h

lemma filterMap_shown :
    (cmd.run json io { chat := c }).deeds.filterMap ChatDeed.shown? = cmd.shows c io := by
  have hnone : (∀ m, cmd ≠ .chatMessage m) →
      (cmd.run json io { chat := c }).deeds.filterMap ChatDeed.shown? = [] := by
    intro hcmd
    rw [List.filterMap_eq_nil_iff]
    intro d hd
    cases does_run hd with
    | messageReceived new => exact absurd rfl (hcmd _)
    | _ => rfl
  cases cmd with
  | chatMessage m =>
      rw [ChatCommand.run, filterMap_onChatMessage _ _ _ _ fun _ => rfl, ChatCommand.shows]
      cases c.m_socket <;> split_ifs <;> rfl
  | _ =>
      refine hnone ?_
      intro m h
      cases h

lemma filterMap_acked :
    (cmd.run json io { chat := c }).deeds.filterMap ChatDeed.acked? = cmd.acks := by
  have hnone : (∀ ack, cmd ≠ .messageAck ack) →
      (cmd.run json io { chat := c }).deeds.filterMap ChatDeed.acked? = [] := by
    intro hcmd
    rw [List.filterMap_eq_nil_iff]
    intro d hd
    cases does_run hd with
    | messageAckReceived => exact absurd rfl (hcmd _)
    | _ => rfl
  cases cmd with
  | messageAck ack =>
      rw [ChatCommand.run, ChatTurn.onMessageAck, ChatTurn.filterMap_emit, ChatCommand.acks]
      split_ifs
      · rw [ChatTurn.filterMap_emit, ChatTurn.deeds_setMessageState, ChatTurn.deeds_stopAckTimer]
        rfl
      · rfl
  | _ =>
      refine hnone ?_
      intro ack h
      cases h

/-- What a step asks of a node: nothing, unless it is the one that moves. -/
def ChatMove.command (json : JsonCodec) (e : ChatMove ι) (j : ι) : ChatCommand :=
  if j = e.node then e.event.command json else .nothing

variable {net : ChatNet ι} {e : ChatMove ι} {j : ι}

lemma command_eq_of_ne_nothing (h : e.command json j = cmd) (hcmd : cmd ≠ .nothing) :
    e.node = j ∧ e.event.command json = cmd := by
  rw [ChatMove.command] at h
  split_ifs at h with hj
  · exact ⟨hj.symm, h⟩
  · exact absurd h.symm hcmd

lemma nodes_step_self :
    (net.step json e).1.nodes e.node = ((net.nodes e.node).step json e.event e.io).1 :=
  Function.update_self _ _ _

lemma nodes_step_of_ne (h : j ≠ e.node) : (net.step json e).1.nodes j = net.nodes j :=
  Function.update_of_ne h _ _

/-- Every node runs its command. -/
lemma nodes_step : (net.step json e).1.nodes j =
    ((e.command json j).run json e.io { chat := net.nodes j }).chat := by
  rw [ChatMove.command]
  split_ifs with hj
  · rw [hj, nodes_step_self, step_eq_run]
  · exact nodes_step_of_ne hj

lemma made_step : (net.step json e).1.made j =
    net.made j ++ (e.command json j).makes (net.nodes j) e.io := by
  simp only [ChatMove.command, ChatNet.step, step_eq_run]
  split_ifs with hj
  · rw [hj, filterMap_made]
  · rfl

lemma shown_step : (net.step json e).1.shown j =
    net.shown j ++ (e.command json j).shows (net.nodes j) e.io := by
  simp only [ChatMove.command, ChatNet.step, step_eq_run]
  split_ifs with hj
  · rw [hj, filterMap_shown]
  · rfl

lemma acked_step : (net.step json e).1.acked j = net.acked j ++ (e.command json j).acks := by
  simp only [ChatMove.command, ChatNet.step, step_eq_run]
  split_ifs with hj
  · rw [filterMap_acked]
  · rfl

/-- The log of a step. -/
lemma mem_log_step {d : ChatDeed}
    (hd : d ∈ ((e.event.command json).run json e.io { chat := net.nodes e.node }).deeds) :
    ⟨e.node, e.event, d⟩ ∈ (net.step json e).2 := by
  rw [ChatNet.step, step_eq_run]
  exact List.mem_map_of_mem hd

lemma mail_step : (net.step json e).1.mail j = net.mail j ++
    if j ∈ e.links then
      ((e.command json e.node).run json e.io { chat := net.nodes e.node }).deeds.filterMap
        ChatDeed.frame?
    else [] := by
  rw [ChatMove.command, if_pos rfl]
  simp only [ChatNet.step, step_eq_run]

lemma mem_filterMap_frame {deeds : List ChatDeed} :
    frame ∈ deeds.filterMap ChatDeed.frame? ↔ .sendFrame frame ∈ deeds := by
  rw [List.mem_filterMap]
  constructor
  · rintro ⟨d, hd, hframe⟩
    cases d with
    | sendFrame f =>
        rw [ChatDeed.frame?, Option.some.injEq] at hframe
        rwa [hframe] at hd
    | connectToPeer ip => cases hframe
    | signal s => cases hframe
  · intro h
    exact ⟨_, h, rfl⟩

lemma mem_filterMap_shown {deeds : List ChatDeed} {m : ChatMessage} :
    m ∈ deeds.filterMap ChatDeed.shown? ↔ .signal (.messageReceived m) ∈ deeds := by
  rw [List.mem_filterMap]
  constructor
  · rintro ⟨d, hd, hshown⟩
    cases d with
    | signal s =>
        cases s with
        | messageReceived m' =>
            rw [ChatDeed.shown?, Option.some.injEq] at hshown
            rwa [hshown] at hd
        | _ => cases hshown
    | connectToPeer ip => cases hshown
    | sendFrame f => cases hshown
  · intro h
    exact ⟨_, h, rfl⟩

/-- A new frame was sent over a link by the node that moved. -/
lemma mem_mail_step (h : frame ∈ (net.step json e).1.mail j) :
    frame ∈ net.mail j ∨ j ∈ e.links ∧
      Does json (net.nodes e.node) e.io (e.command json e.node) (.sendFrame frame) := by
  rw [mail_step] at h
  rcases List.mem_append.mp h with h | h
  · exact .inl h
  · split_ifs at h with hj
    · exact .inr ⟨hj, does_run (mem_filterMap_frame.mp h)⟩
    · cases h

/-- The frames of a message that is made, and of one that is handled. -/
lemma frames_sendMessage {recipient content ip : String}
    (h : ChatTurn.Sendable recipient content) :
    ((ChatCommand.sendMessage recipient content ip).run json io { chat := c }).deeds.filterMap
      ChatDeed.frame? = bif c.m_socket then [jsonFrame json .ChatMessage
        ((ChatTurn.newMessage c io recipient content).toJson io.later)] else [] := by
  rw [ChatCommand.run, ChatTurn.filterMap_sendMessage _ _ _ _ _ _ _ h]
  cases c.m_socket <;> simp [ChatDeed.frame?]

lemma frames_chatMessage {m : ChatMessage} :
    ((ChatCommand.chatMessage m).run json io { chat := c }).deeds.filterMap ChatDeed.frame? =
      bif c.m_socket then [ackFrame json io m.messageId "delivered"] else [] := by
  rw [ChatCommand.run, filterMap_onChatMessage _ _ _ _ fun _ => rfl]
  cases c.m_socket <;> split_ifs <;> rfl

/-- What a step does to the record of a message. -/
lemma trackedChange_step (json : JsonCodec) (net : ChatNet ι) (e : ChatMove ι) (j : ι)
    (a : String) :
    TrackedChange (net.nodes j) e.io a (e.command json j) ((net.nodes j).getTrackedMessage a)
      (((net.step json e).1.nodes j).getTrackedMessage a) := by
  rw [nodes_step]
  exact trackedChange_run json (e.command json j) e.io { chat := net.nodes j } a

/-- Where an entry of the cache comes from. -/
lemma cache_step {a : String} {received : ℤ}
    (h : ((net.step json e).1.nodes j).m_receivedMessageCache.value? a = some received) :
    (net.nodes j).m_receivedMessageCache.value? a = some received ∨
      ∃ m, e.command json j = .chatMessage m ∧ m.messageId = a ∧
        m ∈ (e.command json j).shows (net.nodes j) e.io := by
  rw [nodes_step] at h
  by_cases hcmd : ∀ m, e.command json j ≠ .chatMessage m
  · rw [m_receivedMessageCache_run hcmd] at h
    exact .inl h
  · push Not at hcmd
    obtain ⟨m, hm⟩ := hcmd
    rw [hm, ChatCommand.run, ChatTurn.value?_cache_onChatMessage] at h
    split_ifs at h with hnew
    · refine .inr ⟨m, hm, hnew.1, ?_⟩
      rw [hm, ChatCommand.shows, hnew.1, if_neg hnew.2]
      exact List.mem_singleton_self m
    · exact .inl (Option.filter_eq_some_iff.mp h).1

/-- An inbound frame was sent before. -/
def Genuine (net : ChatNet ι) (e : ChatMove ι) : Prop :=
  ∀ frame ip, e.event = .frameReceivedFrom frame ip → frame ∈ net.mail e.node

/-- What a node reads it was sent. -/
lemma Genuine.exists_mail (hgenuine : Genuine net e) (hcmd : e.command json j = cmd)
    (hinbound : cmd.inbound = true) (hne : cmd ≠ .nothing) :
    ∃ frame ∈ net.mail j, readChatFrame json frame = cmd := by
  obtain ⟨rfl, hevent⟩ := command_eq_of_ne_nothing hcmd hne
  obtain ⟨frame, ip, hframe, hcmd⟩ := ChatEvent.exists_frame hevent hinbound
  exact ⟨frame, hgenuine frame ip hframe, hcmd⟩

end MeckChat.Protocol
