import MeckChat.Protocol.MessageReceipts

/-!
Chat over several connections at once.

* `LinkNet` puts connections under a network: a node has taken a number of frames
  off each of its connections, and the next one on a connection is the next frame
  that was sent to it. So every connection is a queue, and a frame arrives once on
  each.
* `Linked` is a step of two nodes with such connections between them, with clocks
  that do not run backwards and copies that arrive within the window of the
  duplicate cache.
* `messages_run` and `acks_run` say what frames a command sends, as they are read.
* `Delivery` is the invariant, and `front_step` its core: what was shown is what the
  foremost connection has brought.
* `exactly_once`: messages are shown once and in order, every copy is acknowledged,
  and when all is through every message is delivered.
-/

namespace MeckChat.Protocol

open QJson ChatController

variable (json : JsonCodec)

/-! ### Frames as they are read -/

/-- The message of a frame. -/
def message? (frame : P2PFrame) : Option ChatMessage :=
  match readChatFrame json frame with
  | .chatMessage m => some m
  | _ => none

/-- The id and the status of the acknowledgement of a frame. -/
def ack? (frame : P2PFrame) : Option (String × String) :=
  match readChatFrame json frame with
  | .messageAck ack => some (ack.messageId, ack.status)
  | _ => none

/-- The messages among frames. -/
def messagesOf (frames : List P2PFrame) : List ChatMessage := frames.filterMap (message? json)

/-- The acknowledgements among frames. -/
def acksOf (frames : List P2PFrame) : List (String × String) := frames.filterMap (ack? json)

/-- The messages that a command handles. -/
def ChatCommand.handled : ChatCommand → List ChatMessage
  | .chatMessage m => [m]
  | _ => []

variable {json} {c : ChatController} {io : ChatIo} {cmd : ChatCommand} {frame : P2PFrame}

lemma message?_eq_some {m : ChatMessage} :
    message? json frame = some m ↔ readChatFrame json frame = .chatMessage m := by
  rw [message?]
  cases readChatFrame json frame <;> simp

lemma ack?_eq_some {p : String × String} :
    ack? json frame = some p ↔
      ∃ ack, readChatFrame json frame = .messageAck ack ∧ (ack.messageId, ack.status) = p := by
  rw [ack?]
  cases readChatFrame json frame <;> simp

lemma messageId_ne_empty {m : ChatMessage} (h : readChatFrame json frame = .chatMessage m) :
    m.messageId ≠ "" := by
  obtain ⟨-, hm⟩ := fromJson_of_readChatFrame json h
  obtain ⟨o, -, hm⟩ := Option.bind_eq_some_iff.mp hm
  simp only [ChatMessage.fromJson] at hm
  split_ifs at hm with hids <;> cases hm <;> exact (not_or.mp hids).1

/-- The messages that a command sends are those that it makes. -/
lemma messages_run (hid : c.deviceId ≠ "") (hsocket : c.m_socket = true) :
    (messagesOf json ((cmd.run json io { chat := c }).deeds.filterMap ChatDeed.frame?)).map
      ChatMessage.text = (cmd.makes c io).map ChatMessage.text := by
  have hnone : (∀ recipient content ip, ChatTurn.Sendable recipient content →
      cmd ≠ .sendMessage recipient content ip) →
      messagesOf json ((cmd.run json io { chat := c }).deeds.filterMap ChatDeed.frame?) = [] := by
    intro hcmd
    rw [messagesOf, List.filterMap_eq_nil_iff]
    intro frame hframe
    cases hm : message? json frame with
    | none => rfl
    | some m =>
        obtain ⟨recipient, content, ip, heq, hs, -⟩ := readChatFrame_chatMessage
          (does_run (mem_filterMap_frame.mp hframe)) (message?_eq_some.mp hm)
        exact absurd heq (hcmd recipient content ip hs)
  cases cmd with
  | sendMessage recipient content ip =>
      rw [ChatCommand.makes]
      split_ifs with h
      · rw [frames_sendMessage h, hsocket]
        have hread := ChatMessage.fromJson_toJson (m := ChatTurn.newMessage c io recipient content)
          io.later (generateMessageId_ne_empty io.uuid) hid h.2 h.1
        have hm : message? json (jsonFrame json .ChatMessage
            ((ChatTurn.newMessage c io recipient content).toJson io.later)) =
              some { ChatTurn.newMessage c io recipient content with
                timestamp := stamp io.now io.later } := by
          rw [message?_eq_some, readChatFrame, type_jsonFrame, if_pos rfl, payloadObject_jsonFrame,
            Option.bind_some, hread]
          rfl
        rw [messagesOf, cond_true, List.filterMap_cons_some hm]
        rfl
      · rw [hnone fun r ct i hs heq => h (by
          rw [ChatCommand.sendMessage.injEq] at heq
          rwa [heq.1, heq.2.1])]
  | _ =>
      rw [hnone fun _ _ _ _ h => by cases h]
      rfl

/-- The acknowledgements that a command sends, receipts apart, are for what it
handles. -/
lemma acks_run (hsocket : c.m_socket = true) (hreceipt : ∀ id ip, cmd ≠ .sendReadReceipt id ip)
    (hids : ∀ m, cmd = .chatMessage m → m.messageId ≠ "") :
    acksOf json ((cmd.run json io { chat := c }).deeds.filterMap ChatDeed.frame?) =
      cmd.handled.map fun m => (m.messageId, "delivered") := by
  have hnone : (∀ m, cmd ≠ .chatMessage m) →
      acksOf json ((cmd.run json io { chat := c }).deeds.filterMap ChatDeed.frame?) = [] := by
    intro hcmd
    rw [acksOf, List.filterMap_eq_nil_iff]
    intro frame hframe
    cases hack : ack? json frame with
    | none => rfl
    | some p =>
        obtain ⟨ack, hread, -⟩ := ack?_eq_some.mp hack
        rcases readChatFrame_messageAck (does_run (mem_filterMap_frame.mp hframe)) hread with
          ⟨ip, heq, -⟩ | ⟨m, heq, -⟩
        · exact absurd heq (hreceipt _ ip)
        · exact absurd heq (hcmd m)
  cases cmd with
  | chatMessage m =>
      rw [frames_chatMessage, hsocket, acksOf, cond_true]
      have hread := MessageAck.fromJson_toJson (m := ⟨m.messageId, "delivered", io.acked⟩)
        io.written (hids m rfl)
      have hack : ack? json (ackFrame json io m.messageId "delivered") =
          some (m.messageId, "delivered") := by
        rw [ack?_eq_some]
        refine ⟨⟨m.messageId, "delivered", stamp io.acked io.written⟩, ?_, rfl⟩
        rw [ackFrame, readChatFrame, type_jsonFrame, if_neg (by decide), if_pos rfl,
          payloadObject_jsonFrame, Option.bind_some, hread]
        rfl
      rw [List.filterMap_cons_some hack]
      rfl
  | _ =>
      rw [hnone fun _ h => by cases h]
      rfl

/-! ### Connections -/

/-- A network with connections: how many frames each node has taken off each of its
connections, the last reading of its clock, and the ids of the messages that arrived
with their times. -/
structure LinkNet (ι κ : Type) where
  net : ChatNet ι
  taken : ι → κ → ℕ := fun _ _ => 0
  clock : ι → ℤ
  seen : ι → List (String × ℤ) := fun _ => []

/-- A move, and the connection that an inbound frame arrives on. -/
structure LinkMove (ι κ : Type) extends ChatMove ι where
  via : Option κ := none

section Step

variable {ι κ : Type} [DecidableEq ι] [DecidableEq κ]

/-- One event in the network. -/
def LinkNet.step (json : JsonCodec) (s : LinkNet ι κ) (e : LinkMove ι κ) :
    LinkNet ι κ × List (NodeDeed ι) :=
  ({ net := (s.net.step json e.toChatMove).1
     taken := fun j k => s.taken j k + if j = e.node ∧ e.via = some k then 1 else 0
     clock := fun j => if j = e.node then e.io.later else s.clock j
     seen := fun j => s.seen j ++ (e.command json j).handled.map fun m => (m.messageId, e.io.now) },
    (s.net.step json e.toChatMove).2)

/-- The network as a machine. -/
def linkNetwork (json : JsonCodec) : Machine (LinkNet ι κ) (LinkMove ι κ) (NodeDeed ι) where
  step s e := s.step json e

end Step

variable {ι κ : Type}

/-- The network at the start. -/
def LinkNet.start (deviceId : ι → String) (clock : ι → ℤ) : LinkNet ι κ where
  net := .start deviceId fun _ => true
  clock := clock

variable [DecidableEq ι]

variable (json) in
/-- A step of two nodes that are joined by connections. -/
structure Linked (A B : ι) (s : LinkNet ι κ) (e : LinkMove ι κ) : Prop where
  ends : e.node = A ∧ e.links = [B] ∨ e.node = B ∧ e.links = [A]
  arrival : ∀ frame ip, e.event = .frameReceivedFrom frame ip →
    ∃ k, e.via = some k ∧ (s.net.mail e.node)[s.taken e.node k]? = some frame
  call : (∀ frame ip, e.event ≠ .frameReceivedFrom frame ip) → e.via = none
  ids : (s.net.step json e.toChatMove).1.DistinctIds A
  receipt : e.node = B → ∀ messageId ip, e.event ≠ .sendReadReceipt messageId ip
  clock : s.clock e.node ≤ e.io.now ∧ e.io.now ≤ e.io.later
  copies : ∀ m, e.command json B = .chatMessage m → ∀ t, (m.messageId, t) ∈ s.seen B →
    e.io.now - t ≤ DUPLICATE_CACHE_WINDOW_SECS

variable {A B : ι} {s : LinkNet ι κ} {e : LinkMove ι κ}

lemma Linked.genuine (he : Linked json A B s e) : Genuine s.net e.toChatMove := by
  intro frame ip h
  obtain ⟨k, -, hframe⟩ := he.arrival frame ip h
  exact List.mem_of_getElem? hframe

lemma Linked.paired (hAB : A ≠ B) (he : Linked json A B s e) :
    Paired A B s.net e.toChatMove where
  genuine := he.genuine
  toA hlink := by
    rcases he.ends with ⟨-, hlinks⟩ | ⟨hnode, -⟩
    · rw [hlinks, List.mem_singleton] at hlink
      exact absurd hlink hAB
    · exact hnode
  toB hlink := by
    rcases he.ends with ⟨hnode, -⟩ | ⟨-, hlinks⟩
    · exact hnode
    · rw [hlinks, List.mem_singleton] at hlink
      exact absurd hlink.symm hAB
  receipt hnode messageId ip hevent := absurd hevent (he.receipt hnode messageId ip)

/-- The end that does not move is asked for nothing. -/
lemma command_other {j : ι} (h : j ≠ e.node) : e.command json j = .nothing := if_neg h

/-- A node that moves does not write to itself. -/
lemma mail_self (hAB : A ≠ B) (he : Linked json A B s e) :
    (s.net.step json e.toChatMove).1.mail e.node = s.net.mail e.node := by
  rw [mail_step, if_neg, List.append_nil]
  rcases he.ends with ⟨hnode, hlinks⟩ | ⟨hnode, hlinks⟩
  · rw [hlinks, List.mem_singleton, hnode]
    exact hAB
  · rw [hlinks, List.mem_singleton, hnode]
    exact hAB.symm

/-! ### The invariant -/

/-- A message that arrived is in the duplicate cache, or its copies come too late. -/
def LinkNet.Recent (s : LinkNet ι κ) (j : ι) (a : String) : Prop :=
  ∃ t, (a, t) ∈ s.seen j ∧
    ((∃ received, (s.net.nodes j).m_receivedMessageCache.value? a = some received ∧
      t ≤ received) ∨ DUPLICATE_CACHE_WINDOW_SECS < s.clock j - t)

variable (json A B) in
/-- What holds of messages, copies and acknowledgements. -/
structure Delivery (s : LinkNet ι κ) : Prop where
  receipts : Receipts json A B s.net
  ids : s.net.DistinctIds A
  deviceId : (s.net.nodes A).deviceId ≠ ""
  socketA : (s.net.nodes A).m_socket = true
  socketB : (s.net.nodes B).m_socket = true
  messages : (messagesOf json (s.net.mail B)).map ChatMessage.text =
    (s.net.made A).map ChatMessage.text
  front : ∃ n ≤ (s.net.mail B).length, (∀ k, s.taken B k ≤ n) ∧
    s.net.shown B = messagesOf json ((s.net.mail B).take n)
  recent : ∀ m ∈ s.net.shown B, s.Recent B m.messageId
  acks : acksOf json (s.net.mail A) = (s.seen B).map fun p => (p.1, "delivered")
  processed : ∀ k, s.taken A k ≤ (s.net.mail A).length ∧
    ∀ p ∈ acksOf json ((s.net.mail A).take (s.taken A k)), ∃ ack ∈ s.net.acked A,
      ack.messageId = p.1
  unread : ∀ a, (s.net.nodes A).stateOf a ≠ some .Read

/-- What arrives on a connection is the next frame of it. -/
lemma exists_arrival {j : ι} (he : Linked json A B s e) (hcmd : e.command json j = cmd)
    (hinbound : cmd.inbound = true) (hne : cmd ≠ .nothing) :
    e.node = j ∧ ∃ k frame, e.via = some k ∧ (s.net.mail j)[s.taken j k]? = some frame ∧
      readChatFrame json frame = cmd := by
  obtain ⟨rfl, hevent⟩ := command_eq_of_ne_nothing hcmd hne
  obtain ⟨frame, ip, hframe, hread⟩ := ChatEvent.exists_frame hevent hinbound
  obtain ⟨k, hvia, hnext⟩ := he.arrival frame ip hframe
  exact ⟨rfl, k, frame, hvia, hnext, hread⟩

/-- A copy of what was shown is known. -/
lemma knows_of_shown (h : Delivery json A B s) (he : Linked json A B s e) {m : ChatMessage}
    (hcmd : e.command json B = .chatMessage m) (hm : m ∈ s.net.shown B) :
    (s.net.nodes B).Knows e.io.now m.messageId := by
  obtain ⟨hnode, -⟩ := command_eq_of_ne_nothing hcmd ChatCommand.noConfusion
  obtain ⟨t, hseen, hcache⟩ := h.recent m hm
  have hcopy := he.copies m hcmd t hseen
  have hclock := he.clock.1
  rw [hnode] at hclock
  rcases hcache with ⟨received, hreceived, hle⟩ | hold
  · exact knows_iff.mpr ⟨received, hreceived, by omega⟩
  · omega

omit [DecidableEq ι] in
/-- The next message of the foremost connection is new. -/
lemma not_knows_of_next (h : Delivery json A B s) {n : ℕ} {m : ChatMessage} (now : ℤ)
    (hshown : s.net.shown B = messagesOf json ((s.net.mail B).take n))
    (hframe : (s.net.mail B)[n]? = some frame) (hread : readChatFrame json frame = .chatMessage m) :
    ¬ (s.net.nodes B).Knows now m.messageId := by
  intro hknows
  obtain ⟨received, hreceived, -⟩ := knows_iff.mp hknows
  obtain ⟨m', hm', hid⟩ := h.receipts.known _ received hreceived
  rw [hshown] at hm'
  -- the ids of the messages sent are distinct
  have hids : ((messagesOf json (s.net.mail B)).map (·.messageId)).Nodup := by
    have hmap := congrArg (List.map Prod.fst) h.messages
    rw [List.map_map, List.map_map] at hmap
    have hnodup := h.ids
    rw [ChatNet.DistinctIds] at hnodup
    exact hmap ▸ hnodup
  have hn : n < (s.net.mail B).length := (List.getElem?_eq_some_iff.mp hframe).1
  have hsplit : s.net.mail B = (s.net.mail B).take n ++ frame :: (s.net.mail B).drop (n + 1) := by
    rw [← (List.getElem?_eq_some_iff.mp hframe).2, ← List.drop_eq_getElem_cons hn,
      List.take_append_drop]
  rw [hsplit, messagesOf, List.filterMap_append, List.filterMap_cons_some
    (message?_eq_some.mpr hread), List.map_append, List.map_cons] at hids
  exact (List.nodup_append.mp hids).2.2 _ (List.mem_map_of_mem hm') _ (List.mem_cons_self) hid

/-! ### The fields, step by step -/

/-- Without an arrival nothing is handled. -/
lemma handled_eq_nil {j : ι} (he : Linked json A B s e) (hvia : e.via = none ∨ j ≠ e.node) :
    (e.command json j).handled = [] := by
  cases hcmd : e.command json j with
  | chatMessage m =>
      obtain ⟨hnode, k, frame, hk, -⟩ := exists_arrival he hcmd rfl ChatCommand.noConfusion
      rcases hvia with hvia | hvia
      · rw [hvia] at hk
        cases hk
      · exact absurd hnode.symm hvia
  | _ => rfl

omit [DecidableEq ι] in
/-- What is shown was handled. -/
lemma shows_eq (c : ChatController) (io : ChatIo) :
    cmd.shows c io = cmd.handled.filter fun m => ¬ c.Knows io.now m.messageId := by
  cases cmd with
  | chatMessage m =>
      rw [ChatCommand.shows, ChatCommand.handled]
      split_ifs with h
      · simp [h]
      · simp [h]
  | _ => rfl

/-- The frame that a connection brings is the one that is handled. -/
lemma handled_eq_message (he : Linked json A B s e) {k : κ} (hvia : e.via = some k) :
    ∃ frame, (s.net.mail e.node)[s.taken e.node k]? = some frame ∧
      e.command json e.node = readChatFrame json frame ∧
      (e.command json e.node).handled = (message? json frame).toList := by
  by_cases hframe : ∃ frame ip, e.event = .frameReceivedFrom frame ip
  · obtain ⟨frame, ip, hevent⟩ := hframe
    obtain ⟨k', hk', hnext⟩ := he.arrival frame ip hevent
    rw [hvia, Option.some.injEq] at hk'
    subst hk'
    have hcmd : e.command json e.node = readChatFrame json frame := by
      rw [ChatMove.command, if_pos rfl, hevent]
      rfl
    refine ⟨frame, hnext, hcmd, ?_⟩
    rw [hcmd, message?]
    cases readChatFrame json frame <;> rfl
  · push Not at hframe
    rw [he.call hframe] at hvia
    cases hvia

section Step

variable [DecidableEq κ]

lemma net_step : (s.step json e).1.net = (s.net.step json e.toChatMove).1 := rfl

lemma taken_step (j : ι) (k : κ) : (s.step json e).1.taken j k =
    s.taken j k + if j = e.node ∧ e.via = some k then 1 else 0 := rfl

lemma seen_step (j : ι) : (s.step json e).1.seen j =
    s.seen j ++ (e.command json j).handled.map fun m => (m.messageId, e.io.now) := rfl

/-- **The foremost connection.** What was shown is what it has brought. -/
lemma front_step (hAB : A ≠ B) (h : Delivery json A B s) (he : Linked json A B s e) :
    ∃ n ≤ ((s.step json e).1.net.mail B).length, (∀ k, (s.step json e).1.taken B k ≤ n) ∧
      (s.step json e).1.net.shown B = messagesOf json (((s.step json e).1.net.mail B).take n) := by
  obtain ⟨n, hn, htaken, hshown⟩ := h.front
  rw [net_step, shown_step, shows_eq]
  by_cases harrival : B = e.node ∧ ∃ k, e.via = some k
  · obtain ⟨rfl, k, hvia⟩ := harrival
    obtain ⟨frame, hnext, hcmd, hhandled⟩ := handled_eq_message he hvia
    have hother : ∀ k', k' ≠ k → (s.step json e).1.taken e.node k' ≤ n := by
      intro k' hk'
      rw [taken_step, if_neg (by rw [hvia, Option.some.injEq]; exact fun h => hk' h.2.symm)]
      exact htaken k'
    have hself : (s.step json e).1.taken e.node k = s.taken e.node k + 1 := by
      rw [taken_step, if_pos ⟨rfl, hvia⟩]
    rw [mail_self hAB he, hhandled]
    rcases (htaken k).lt_or_eq with hlt | heq
    · -- a copy of what was shown
      refine ⟨n, hn, ?_, ?_⟩
      · intro k'
        by_cases hk' : k' = k
        · rw [hk', hself]
          omega
        · exact hother k' hk'
      · have hcopy : ((message? json frame).toList.filter
            fun m => ¬ (s.net.nodes e.node).Knows e.io.now m.messageId) = [] := by
          rw [List.filter_eq_nil_iff]
          intro m hm
          rw [Option.mem_toList] at hm
          have hread := message?_eq_some.mp hm
          have hmem : m ∈ s.net.shown e.node := by
            rw [hshown]
            refine List.mem_filterMap.mpr ⟨frame, ?_, hm⟩
            rw [List.mem_take_iff_getElem]
            obtain ⟨hlen, hget⟩ := List.getElem?_eq_some_iff.mp hnext
            exact ⟨_, by omega, hget⟩
          simpa using knows_of_shown h he (hcmd.trans hread) hmem
        rw [hcopy, List.append_nil, hshown]
    · -- the next message
      have hlen : n < (s.net.mail e.node).length := by
        rw [← heq]
        exact (List.getElem?_eq_some_iff.mp hnext).1
      refine ⟨n + 1, hlen, ?_, ?_⟩
      · intro k'
        by_cases hk' : k' = k
        · rw [hk', hself]
          omega
        · exact (hother k' hk').trans (Nat.le_succ n)
      · rw [heq] at hnext
        rw [List.take_add_one, hnext, hshown, messagesOf, messagesOf, List.filterMap_append]
        congr 1
        cases hm : message? json frame with
        | none => simp [hm]
        | some m =>
            have hnew := not_knows_of_next h e.io.now hshown hnext
              (message?_eq_some.mp hm)
            simp [hm, hnew]
  · rw [handled_eq_nil he (by
      by_cases hB : B = e.node
      · refine .inl ?_
        cases hvia : e.via with
        | none => rfl
        | some k => exact absurd ⟨hB, k, hvia⟩ harrival
      · exact .inr hB), List.filter_nil, List.append_nil]
    rw [mail_step]
    refine ⟨n, ?_, ?_, ?_⟩
    · rw [List.length_append]
      omega
    · intro k
      rw [taken_step, if_neg fun h => harrival ⟨h.1, k, h.2⟩]
      exact htaken k
    · rw [List.take_append_of_le_length hn, hshown]

lemma messages_step (hAB : A ≠ B) (h : Delivery json A B s) (he : Linked json A B s e) :
    (messagesOf json ((s.step json e).1.net.mail B)).map ChatMessage.text =
      ((s.step json e).1.net.made A).map ChatMessage.text := by
  rw [net_step, mail_step, made_step, messagesOf, List.filterMap_append, List.map_append,
    List.map_append, ← messagesOf, h.messages]
  congr 1
  rcases he.ends with ⟨hnode, hlinks⟩ | ⟨hnode, hlinks⟩
  · rw [hlinks, if_pos (List.mem_singleton_self B), hnode]
    exact messages_run h.deviceId h.socketA
  · have hB : B ∉ e.links := by
      rw [hlinks, List.mem_singleton]
      exact hAB.symm
    rw [if_neg hB, command_other (by rw [hnode]; exact hAB)]
    rfl

lemma acks_step (hAB : A ≠ B) (h : Delivery json A B s) (he : Linked json A B s e) :
    acksOf json ((s.step json e).1.net.mail A) =
      ((s.step json e).1.seen B).map fun p => (p.1, "delivered") := by
  rw [net_step, mail_step, seen_step, acksOf, List.filterMap_append, List.map_append, ← acksOf,
    h.acks, List.map_map]
  congr 1
  rcases he.ends with ⟨hnode, hlinks⟩ | ⟨hnode, hlinks⟩
  · have hA : A ∉ e.links := by
      rw [hlinks, List.mem_singleton]
      exact hAB
    rw [if_neg hA, command_other (by rw [hnode]; exact hAB.symm)]
    rfl
  · rw [hlinks, if_pos (List.mem_singleton_self A), hnode]
    refine acks_run h.socketB ?_ ?_
    · intro messageId ip hcmd
      obtain ⟨-, hevent⟩ := command_eq_of_ne_nothing hcmd ChatCommand.noConfusion
      exact he.receipt hnode messageId ip (ChatEvent.command_eq_sendReadReceipt hevent)
    · intro m hcmd
      obtain ⟨-, k, frame, -, -, hread⟩ := exists_arrival he hcmd rfl ChatCommand.noConfusion
      exact messageId_ne_empty hread

/-- An arrival is recent right away. -/
lemma recent_of_new {m : ChatMessage} (he : Linked json A B s e)
    (hcmd : e.command json B = .chatMessage m)
    (hnew : ¬ (s.net.nodes B).Knows e.io.now m.messageId) :
    (s.step json e).1.Recent B m.messageId := by
  refine ⟨e.io.now, ?_, .inl ⟨e.io.later, ?_, he.clock.2⟩⟩
  · rw [seen_step, hcmd]
    exact List.mem_append_right _ (List.mem_singleton_self _)
  · rw [net_step, nodes_step, hcmd, ChatCommand.run, ChatTurn.value?_cache_onChatMessage,
      if_pos ⟨rfl, hnew⟩]

lemma clock_step (he : Linked json A B s e) (j : ι) :
    s.clock j ≤ (s.step json e).1.clock j := by
  show s.clock j ≤ if j = e.node then e.io.later else s.clock j
  split_ifs with hj
  · rw [hj]
    exact he.clock.1.trans he.clock.2
  · exact le_rfl

/-- What is recent stays recent, or its copies come too late. -/
lemma recent_step {a : String} (he : Linked json A B s e) (h : s.Recent B a) :
    (s.step json e).1.Recent B a := by
  obtain ⟨t, hseen, hcache⟩ := h
  have hclock := clock_step he B
  have hseen' : (a, t) ∈ (s.step json e).1.seen B := List.mem_append_left _ hseen
  by_cases hcmd : ∃ m, e.command json B = .chatMessage m
  · obtain ⟨m, hcmd⟩ := hcmd
    obtain ⟨hnode, -⟩ := command_eq_of_ne_nothing hcmd ChatCommand.noConfusion
    by_cases hnew : m.messageId = a ∧ ¬ (s.net.nodes B).Knows e.io.now a
    · rw [← hnew.1]
      exact recent_of_new he hcmd (hnew.1 ▸ hnew.2)
    · refine ⟨t, hseen', ?_⟩
      rcases hcache with ⟨received, hreceived, hle⟩ | hold
      · rw [net_step, nodes_step, hcmd, ChatCommand.run, ChatTurn.value?_cache_onChatMessage,
          if_neg hnew, hreceived]
        by_cases hexpired : e.io.now - received > DUPLICATE_CACHE_WINDOW_SECS
        · -- the entry is erased
          have hlater : (s.step json e).1.clock B = e.io.later := if_pos hnode.symm
          have hio := he.clock.2
          exact .inr (by omega)
        · exact .inl ⟨received, by simp [Option.filter, hexpired], hle⟩
      · exact .inr (by omega)
  · push Not at hcmd
    refine ⟨t, hseen', ?_⟩
    rcases hcache with hcache | hold
    · refine .inl ?_
      rwa [net_step, nodes_step, m_receivedMessageCache_run hcmd]
    · exact .inr (by omega)

lemma recent_shown_step (h : Delivery json A B s) (he : Linked json A B s e) :
    ∀ m ∈ (s.step json e).1.net.shown B, (s.step json e).1.Recent B m.messageId := by
  intro m hm
  rw [net_step, shown_step] at hm
  rcases List.mem_append.mp hm with hm | hm
  · exact recent_step he (h.recent m hm)
  · cases hcmd : e.command json B with
    | chatMessage m' =>
        rw [hcmd, ChatCommand.shows] at hm
        split_ifs at hm with hknown
        · cases hm
        · obtain rfl := List.mem_singleton.mp hm
          exact recent_of_new he hcmd hknown
    | _ =>
        rw [hcmd] at hm
        cases hm

lemma processed_step (hAB : A ≠ B) (h : Delivery json A B s) (he : Linked json A B s e) :
    ∀ k, (s.step json e).1.taken A k ≤ ((s.step json e).1.net.mail A).length ∧
      ∀ p ∈ acksOf json (((s.step json e).1.net.mail A).take ((s.step json e).1.taken A k)),
        ∃ ack ∈ (s.step json e).1.net.acked A, ack.messageId = p.1 := by
  intro k
  obtain ⟨hlen, hold⟩ := h.processed k
  have hkeep : ∀ p ∈ acksOf json ((s.net.mail A).take (s.taken A k)),
      ∃ ack ∈ (s.step json e).1.net.acked A, ack.messageId = p.1 := by
    intro p hp
    obtain ⟨ack, hack, hid⟩ := hold p hp
    refine ⟨ack, ?_, hid⟩
    rw [net_step, acked_step]
    exact List.mem_append_left _ hack
  by_cases harrival : A = e.node ∧ e.via = some k
  · obtain ⟨rfl, hvia⟩ := harrival
    obtain ⟨frame, hnext, hcmd, -⟩ := handled_eq_message he hvia
    have hlt := (List.getElem?_eq_some_iff.mp hnext).1
    rw [taken_step, if_pos ⟨rfl, hvia⟩, net_step, mail_self hAB he]
    refine ⟨hlt, ?_⟩
    intro p hp
    rw [List.take_add_one, hnext, acksOf, List.filterMap_append, List.mem_append] at hp
    rcases hp with hp | hp
    · exact hkeep p hp
    · obtain ⟨f, hf, hack⟩ := List.mem_filterMap.mp hp
      rw [Option.toList_some, List.mem_singleton] at hf
      subst hf
      obtain ⟨ack, hread, rfl⟩ := ack?_eq_some.mp hack
      refine ⟨ack, ?_, rfl⟩
      rw [acked_step, hcmd, hread]
      exact List.mem_append_right _ (List.mem_singleton_self ack)
  · rw [taken_step, if_neg harrival, Nat.add_zero]
    have hmail : (s.step json e).1.net.mail A = s.net.mail A ++ _ := mail_step
    rw [hmail]
    refine ⟨?_, ?_⟩
    · rw [List.length_append]
      omega
    · rwa [List.take_append_of_le_length hlen]

omit [DecidableEq κ] in
/-- The status of an acknowledgement at `A` is "delivered". -/
lemma status_eq_delivered (h : Delivery json A B s) (he : Linked json A B s e) {ack : MessageAck}
    (hcmd : e.command json A = .messageAck ack) : ack.status = "delivered" := by
  obtain ⟨frame, hframe, hread⟩ := he.genuine.exists_mail hcmd rfl ChatCommand.noConfusion
  have hmem : (ack.messageId, ack.status) ∈ acksOf json (s.net.mail A) :=
    List.mem_filterMap.mpr ⟨frame, hframe, ack?_eq_some.mpr ⟨ack, hread, rfl⟩⟩
  rw [h.acks] at hmem
  obtain ⟨p, -, hp⟩ := List.mem_map.mp hmem
  exact (congrArg Prod.snd hp).symm

lemma unread_step (h : Delivery json A B s) (he : Linked json A B s e) :
    ∀ a, ((s.step json e).1.net.nodes A).stateOf a ≠ some .Read := by
  intro a hread
  have hold := h.unread a
  have hchange := trackedChange_step json s.net e.toChatMove A a
  rw [net_step, stateOf] at hread
  rw [stateOf] at hold
  generalize hcmd : e.command json A = cmd at hchange
  generalize (s.net.nodes A).getTrackedMessage a = old at hchange hold
  generalize ((s.net.step json e.toChatMove).1.nodes A).getTrackedMessage a = new at hchange hread
  cases hchange with
  | unchanged => exact hold hread
  | sent sendable id =>
      rw [Option.map_some, Option.some.injEq] at hread
      exact not_answered_firstState _ _ (.inr hread)
  | acked id =>
      rw [Option.map_some, Option.some.injEq, status_eq_delivered h he hcmd] at hread
      exact absurd hread (show ChatTurn.ackState "delivered" ≠ .Read by decide)
  | failed task state => cases hread

/-! ### Runs -/

/-- The invariant is kept by every step. -/
theorem delivery_step (hAB : A ≠ B) (h : Delivery json A B s) (he : Linked json A B s e) :
    Delivery json A B (s.step json e).1 where
  receipts := receipts_step h.receipts (he.paired hAB)
  ids := he.ids
  deviceId := by
    rw [net_step, nodes_step, deviceId_run]
    exact h.deviceId
  socketA := by
    rw [net_step, nodes_step, m_socket_run]
    exact h.socketA
  socketB := by
    rw [net_step, nodes_step, m_socket_run]
    exact h.socketB
  messages := messages_step hAB h he
  front := front_step hAB h he
  recent := recent_shown_step h he
  acks := acks_step hAB h he
  processed := processed_step hAB h he
  unread := unread_step h he

omit [DecidableEq ι] [DecidableEq κ] in
lemma delivery_start {deviceId : ι → String} (hid : deviceId A ≠ "") (clock : ι → ℤ) :
    Delivery json A B (LinkNet.start deviceId clock : LinkNet ι κ) where
  receipts := receipts_start deviceId _
  ids := List.nodup_nil
  deviceId := hid
  socketA := rfl
  socketB := rfl
  messages := rfl
  front := ⟨0, le_rfl, fun _ => le_rfl, rfl⟩
  recent m h := by cases h
  acks := rfl
  processed k := ⟨le_rfl, fun p h => by cases h⟩
  unread a := by simp [LinkNet.start, ChatNet.start, stateOf, getTrackedMessage]

/-- **Exactly once, in order.** In every run of two nodes that are joined by
connections: `B` shows messages of `A` in the order in which they were made, and
answers every arrival with an acknowledgement. Once a connection has brought
everything to `B`, all are shown, and once one has brought the acknowledgements to
`A` as well, all are delivered. -/
theorem exactly_once {deviceId : ι → String} {clock : ι → ℤ} {es : List (LinkMove ι κ)}
    {log : List (NodeDeed ι)} (hAB : A ≠ B) (hid : deviceId A ≠ "")
    (hrun : Run (linkNetwork json) (Linked json A B) (LinkNet.start deviceId clock) es log s) :
    (s.net.shown B).map ChatMessage.text <+: (s.net.made A).map ChatMessage.text ∧
      acksOf json (s.net.mail A) = (s.seen B).map (fun p => (p.1, "delivered")) ∧
      (∀ k, s.taken B k = (s.net.mail B).length →
        (s.net.shown B).map ChatMessage.text = (s.net.made A).map ChatMessage.text) ∧
      ∀ k k', s.taken B k = (s.net.mail B).length → s.taken A k' = (s.net.mail A).length →
        ∀ m ∈ s.net.made A, (s.net.nodes A).stateOf m.messageId = some .Delivered := by
  have hinv : Delivery json A B s :=
    hrun.invariant (delivery_start hid clock) fun _ _ h he => delivery_step hAB h he
  obtain ⟨n, hn, htaken, hshown⟩ := hinv.front
  have hall : ∀ k, s.taken B k = (s.net.mail B).length →
      (s.net.shown B).map ChatMessage.text = (s.net.made A).map ChatMessage.text := by
    intro k hk
    have hlen : n = (s.net.mail B).length := le_antisymm hn (hk ▸ htaken k)
    rw [hshown, hlen, List.take_length, hinv.messages]
  refine ⟨?_, hinv.acks, hall, ?_⟩
  · rw [hshown, ← hinv.messages]
    exact ((List.take_prefix n _).filterMap _).map _
  · intro k k' hk hk' m hm
    -- it was shown, so it arrived, so it was acknowledged
    have htext : m.text ∈ (s.net.shown B).map ChatMessage.text := by
      rw [hall k hk]
      exact List.mem_map_of_mem hm
    obtain ⟨m', hm', htext⟩ := List.mem_map.mp htext
    obtain ⟨t, hseen, -⟩ := hinv.recent m' hm'
    have hack : (m'.messageId, "delivered") ∈ acksOf json (s.net.mail A) := by
      rw [hinv.acks]
      exact List.mem_map_of_mem hseen
    obtain ⟨-, hprocessed⟩ := hinv.processed k'
    rw [hk', List.take_length] at hprocessed
    obtain ⟨ack, hacked, hackid⟩ := hprocessed _ hack
    obtain ⟨state, hstate, hanswered⟩ := hinv.receipts.settled hinv.ids ack hacked
    rw [hackid, messageId_eq_of_text_eq htext] at hstate
    rcases hanswered with rfl | rfl
    · exact hstate
    · exact absurd hstate (hinv.unread _)

end Step

/-! ### One message over two connections -/

/-- One node. -/
abbrev alice : Fin 2 := ⟨0, Nat.zero_lt_two⟩

/-- The other node. -/
abbrev bob : Fin 2 := ⟨1, Nat.one_lt_two⟩

/-- One connection. -/
abbrev firstLink : Fin 2 := ⟨0, Nat.zero_lt_two⟩

/-- The other connection. -/
abbrev secondLink : Fin 2 := ⟨1, Nat.one_lt_two⟩

/-- The frame of the message. -/
def helloFrame : P2PFrame := jsonFrame compact .ChatMessage (hello.toJson 1700000000)

/-- The message is sent. -/
def helloMove : LinkMove (Fin 2) (Fin 2) :=
  { node := alice, event := sendHello.1, io := sendHello.2, links := [bob] }

/-- It arrives on a connection. -/
def copyMove (k : Fin 2) (now : ℤ) : LinkMove (Fin 2) (Fin 2) where
  node := bob
  event := .frameReceivedFrom helloFrame "10.77.0.2"
  io := { now := now }
  links := [alice]
  via := some k

/-- The two nodes, with two connections. -/
def joined : LinkNet (Fin 2) (Fin 2) :=
  .start (fun i => if i = alice then "mc_alice" else "mc_bob") fun _ => 0

/-- The network with both copies on their way. -/
def joinedSent : LinkNet (Fin 2) (Fin 2) := (joined.step compact helloMove).1

/-- The network after the first copy. -/
def joinedShown : LinkNet (Fin 2) (Fin 2) :=
  (joinedSent.step compact (copyMove firstLink 1700000001)).1

/-- The network after both copies. -/
def joinedCopied : LinkNet (Fin 2) (Fin 2) :=
  (joinedShown.step compact (copyMove secondLink 1700000002)).1

lemma command_copyMove (k : Fin 2) (now : ℤ) :
    (copyMove k now).command compact 1 = .chatMessage hello := by
  have hmessage : ChatMessage.fromJson (hello.toJson 1700000000) = some hello :=
    ChatMessage.fromJson_toJson 1700000000 (by decide) (by decide) (by decide) (by decide)
  simp [copyMove, helloFrame, ChatMove.command, ChatEvent.command, readChatFrame, hmessage]

lemma made_joinedSent : joinedSent.net.made 0 = [hello] := by
  have hsendable : ChatTurn.Sendable "mc_bob" "hello" := by decide
  have hcmd : helloMove.command compact 0 = .sendMessage "mc_bob" "hello" "" := rfl
  rw [joinedSent, net_step, made_step, hcmd, ChatCommand.makes, if_pos hsendable]
  rfl

lemma mail_joinedSent : joinedSent.net.mail 1 = [helloFrame] := by
  have hsendable : ChatTurn.Sendable "mc_bob" "hello" := by decide
  have hlink : (1 : Fin 2) ∈ helloMove.links := List.mem_singleton_self _
  have hcmd : helloMove.command compact helloMove.node = .sendMessage "mc_bob" "hello" "" := rfl
  rw [joinedSent, net_step, mail_step, if_pos hlink, hcmd, frames_sendMessage hsendable]
  rfl

lemma linked_helloMove : Linked compact 0 1 joined helloMove where
  ends := .inl ⟨rfl, rfl⟩
  arrival _ _ h := by cases h
  call _ := rfl
  ids := by
    rw [ChatNet.DistinctIds, ← net_step, ← joinedSent, made_joinedSent]
    exact List.nodup_singleton _
  receipt h := absurd h (by decide)
  clock := by decide
  copies m h := by
    rw [command_other (show (1 : Fin 2) ≠ 0 by decide)] at h
    cases h

/-- A copy may arrive. -/
lemma linked_copyMove {s : LinkNet (Fin 2) (Fin 2)} {k : Fin 2} {now : ℤ}
    (hmade : s.net.made 0 = [hello]) (hmail : s.net.mail 1 = [helloFrame])
    (htaken : s.taken 1 k = 0) (hclock : s.clock 1 ≤ now)
    (hseen : ∀ p ∈ s.seen 1, now - p.2 ≤ DUPLICATE_CACHE_WINDOW_SECS) :
    Linked compact 0 1 s (copyMove k now) where
  ends := .inr ⟨rfl, rfl⟩
  arrival frame ip h := by
    cases h
    refine ⟨k, rfl, ?_⟩
    show (s.net.mail 1)[s.taken 1 k]? = some helloFrame
    rw [hmail, htaken]
    rfl
  call h := absurd rfl (h helloFrame "10.77.0.2")
  ids := by
    rw [ChatNet.DistinctIds, made_step, command_other (show (0 : Fin 2) ≠ 1 by decide), hmade]
    exact List.nodup_singleton _
  receipt _ _ _ h := by cases h
  clock := ⟨hclock, le_rfl⟩
  copies _ _ t h := hseen _ h

/-- The message arrives on both connections, and is shown once. -/
theorem exactly_once_hello : joinedCopied.net.shown 1 ≠ [] ∧
    (joinedCopied.net.shown 1).map ChatMessage.text = [hello.text] := by
  have hmade : joinedShown.net.made 0 = [hello] := by
    rw [joinedShown, net_step, made_step, command_other (show (0 : Fin 2) ≠ 1 by decide),
      made_joinedSent]
    rfl
  have hshown : Linked compact 0 1 joinedSent (copyMove 0 1700000001) :=
    linked_copyMove made_joinedSent mail_joinedSent rfl (by decide) fun p h => by cases h
  have hmail : joinedShown.net.mail 1 = [helloFrame] :=
    (mail_self (by decide) hshown).trans mail_joinedSent
  have hcopied : Linked compact 0 1 joinedShown (copyMove 1 1700000002) := by
    refine linked_copyMove hmade hmail rfl (by decide) ?_
    intro p hp
    rw [joinedShown, seen_step, command_copyMove] at hp
    rw [List.mem_singleton.mp hp]
    decide
  have hrun := ((Run.nil.snoc (M := linkNetwork compact) linked_helloMove).snoc hshown).snoc hcopied
  obtain ⟨-, -, hall, -⟩ := exactly_once (by decide) (by decide) hrun
  have htexts : (joinedCopied.net.shown 1).map ChatMessage.text =
      (joinedCopied.net.made 0).map ChatMessage.text := by
    have hmail' : joinedCopied.net.mail 1 = [helloFrame] :=
      (mail_self (by decide) hcopied).trans hmail
    refine hall 0 ?_
    show joinedCopied.taken 1 0 = (joinedCopied.net.mail 1).length
    rw [hmail']
    rfl
  have hmade' : joinedCopied.net.made 0 = [hello] := by
    rw [joinedCopied, net_step, made_step, command_other (show (0 : Fin 2) ≠ 1 by decide), hmade]
    rfl
  rw [hmade'] at htexts
  refine ⟨?_, htexts⟩
  intro hnil
  rw [hnil] at htexts
  cases htexts

end MeckChat.Protocol
