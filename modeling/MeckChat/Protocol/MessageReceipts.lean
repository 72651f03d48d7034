import MeckChat.Protocol.ChatNetwork
import MeckChat.Protocol.MessageStatus

/-!
What an acknowledgement is worth, over a link that loses, repeats and delays.

* `Paired` is a step in which `A` and `B` are linked to each other only, inbound
  frames are genuine, and `B` reads only what it received.
* `Receipts` is the invariant: frames on their way to `B` are messages of `A`, and
  acknowledgements on their way to `A` are for messages that `B` has shown.
  `receipts_step` keeps it, one lemma for each field.
* `receipt_sound`: a message that counts as delivered was shown, and one that fails
  was never acknowledged.
-/

namespace MeckChat.Protocol

open QJson ChatController

variable {ι : Type} [DecidableEq ι] (json : JsonCodec) (A B : ι)

/-- A step of two nodes that are linked to each other only; the user of `B` reads
messages that `B` received. -/
structure Paired (net : ChatNet ι) (e : ChatMove ι) : Prop where
  genuine : Genuine net e
  toA : A ∈ e.links → e.node = B
  toB : B ∈ e.links → e.node = A
  receipt : e.node = B → ∀ messageId ip, e.event = .sendReadReceipt messageId ip →
    ∃ m ∈ net.shown B, m.messageId = messageId

/-- The ids that a node drew for its messages are distinct. -/
def ChatNet.DistinctIds (net : ChatNet ι) (j : ι) : Prop :=
  ((net.made j).map (·.messageId)).Nodup

/-- A message got an answer. -/
def MessageState.Answered (s : MessageState) : Prop := s = .Delivered ∨ s = .Read

/-- What holds of messages, acknowledgements and the frames that carry them. -/
structure Receipts (net : ChatNet ι) : Prop where
  message : ∀ frame ∈ net.mail B, ∀ m, readChatFrame json frame = .chatMessage m →
    ∃ m' ∈ net.made A, m.text = m'.text
  ack : ∀ frame ∈ net.mail A, ∀ ack, readChatFrame json frame = .messageAck ack →
    ∃ m ∈ net.shown B, m.messageId = ack.messageId
  shown : ∀ m ∈ net.shown B, ∃ m' ∈ net.made A, m.text = m'.text
  known : ∀ a received, (net.nodes B).m_receivedMessageCache.value? a = some received →
    ∃ m ∈ net.shown B, m.messageId = a
  tracked : ∀ a tracked, (net.nodes A).getTrackedMessage a = some tracked →
    tracked.message ∈ net.made A ∧ tracked.message.messageId = a
  made : ∀ m ∈ net.made A, ((net.nodes A).getTrackedMessage m.messageId).isSome
  answered : ∀ a s, (net.nodes A).stateOf a = some s → s.Answered →
    ∃ m ∈ net.shown B, m.messageId = a
  acked : ∀ ack ∈ net.acked A, ∃ m ∈ net.shown B, m.messageId = ack.messageId
  settled : net.DistinctIds A → ∀ ack ∈ net.acked A,
    ∃ s, (net.nodes A).stateOf ack.messageId = some s ∧ s.Answered

variable {json A B} {net : ChatNet ι} {e : ChatMove ι}

/-! ### The fields, step by step -/

lemma mem_made_step {m : ChatMessage} {j : ι} (h : m ∈ net.made j) :
    m ∈ (net.step json e).1.made j := by
  rw [made_step]
  exact List.mem_append_left _ h

lemma mem_shown_step {m : ChatMessage} {j : ι} (h : m ∈ net.shown j) :
    m ∈ (net.step json e).1.shown j := by
  rw [shown_step]
  exact List.mem_append_left _ h

lemma DistinctIds.of_step {j : ι} (h : (net.step json e).1.DistinctIds j) :
    net.DistinctIds j := by
  rw [ChatNet.DistinctIds, made_step, List.map_append] at h
  exact h.of_append_left

/-- An id that is drawn was not drawn before. -/
lemma DistinctIds.fresh {j : ι} {recipient content ip : String} {m : ChatMessage}
    (h : (net.step json e).1.DistinctIds j)
    (hcmd : e.command json j = .sendMessage recipient content ip)
    (hs : ChatTurn.Sendable recipient content) (hm : m ∈ net.made j) :
    m.messageId ≠ generateMessageId e.io.uuid := by
  rw [ChatNet.DistinctIds, made_step, hcmd, ChatCommand.makes, if_pos hs, List.map_append] at h
  exact (List.nodup_append.mp h).2.2 _ (List.mem_map_of_mem hm) _ (List.mem_singleton_self _)

/-- What `B` is asked to show was made by `A`. -/
lemma Receipts.message_read (h : Receipts json A B net) (he : Genuine net e) {m : ChatMessage}
    (hcmd : e.command json B = .chatMessage m) : ∃ m' ∈ net.made A, m.text = m'.text := by
  obtain ⟨frame, hframe, hread⟩ := he.exists_mail hcmd rfl ChatCommand.noConfusion
  exact h.message frame hframe m hread

/-- What `A` is told was shown by `B`. -/
lemma Receipts.ack_read (h : Receipts json A B net) (he : Genuine net e) {ack : MessageAck}
    (hcmd : e.command json A = .messageAck ack) :
    ∃ m ∈ net.shown B, m.messageId = ack.messageId := by
  obtain ⟨frame, hframe, hread⟩ := he.exists_mail hcmd rfl ChatCommand.noConfusion
  exact h.ack frame hframe ack hread

/-- A new message on its way to `B` was made by `A` in this step. -/
lemma message_step (h : Receipts json A B net) (he : Paired A B net e) :
    ∀ frame ∈ (net.step json e).1.mail B, ∀ m, readChatFrame json frame = .chatMessage m →
      ∃ m' ∈ (net.step json e).1.made A, m.text = m'.text := by
  intro frame hframe m hread
  rcases mem_mail_step hframe with hframe | ⟨hlink, hdoes⟩
  · obtain ⟨m', hm', htext⟩ := h.message frame hframe m hread
    exact ⟨m', mem_made_step hm', htext⟩
  · obtain ⟨recipient, content, ip, hcmd, hs, htext⟩ := readChatFrame_chatMessage hdoes hread
    obtain rfl := he.toB hlink
    refine ⟨_, ?_, htext⟩
    rw [made_step, hcmd, ChatCommand.makes, if_pos hs]
    exact List.mem_append_right _ (List.mem_singleton_self _)

/-- A message is known because it was shown, and a new one is shown. -/
lemma exists_shown_step (h : Receipts json A B net) {m : ChatMessage}
    (hcmd : e.command json B = .chatMessage m) :
    ∃ m' ∈ (net.step json e).1.shown B, m'.messageId = m.messageId := by
  by_cases hknown : (net.nodes B).Knows e.io.now m.messageId
  · obtain ⟨received, hreceived, -⟩ := knows_iff.mp hknown
    obtain ⟨m', hm', hid⟩ := h.known _ received hreceived
    exact ⟨m', mem_shown_step hm', hid⟩
  · refine ⟨m, ?_, rfl⟩
    rw [shown_step, hcmd, ChatCommand.shows, if_neg hknown]
    exact List.mem_append_right _ (List.mem_singleton_self m)

lemma ack_step (h : Receipts json A B net) (he : Paired A B net e) :
    ∀ frame ∈ (net.step json e).1.mail A, ∀ ack, readChatFrame json frame = .messageAck ack →
      ∃ m ∈ (net.step json e).1.shown B, m.messageId = ack.messageId := by
  intro frame hframe ack hread
  rcases mem_mail_step hframe with hframe | ⟨hlink, hdoes⟩
  · obtain ⟨m, hm, hid⟩ := h.ack frame hframe ack hread
    exact ⟨m, mem_shown_step hm, hid⟩
  · obtain rfl := he.toA hlink
    rcases readChatFrame_messageAck hdoes hread with ⟨ip, hcmd, -⟩ | ⟨m, hcmd, hid, -⟩
    · obtain ⟨-, hevent⟩ := command_eq_of_ne_nothing hcmd ChatCommand.noConfusion
      obtain ⟨m, hm, hid⟩ := he.receipt rfl _ ip (ChatEvent.command_eq_sendReadReceipt hevent)
      exact ⟨m, mem_shown_step hm, hid⟩
    · rw [hid]
      exact exists_shown_step h hcmd

lemma shown_made_step (h : Receipts json A B net) (he : Paired A B net e) :
    ∀ m ∈ (net.step json e).1.shown B, ∃ m' ∈ (net.step json e).1.made A, m.text = m'.text := by
  intro m hm
  rw [shown_step] at hm
  rcases List.mem_append.mp hm with hm | hm
  · obtain ⟨m', hm', htext⟩ := h.shown m hm
    exact ⟨m', mem_made_step hm', htext⟩
  · cases hcmd : e.command json B with
    | chatMessage m₁ =>
        rw [hcmd, ChatCommand.shows] at hm
        split_ifs at hm
        · cases hm
        · obtain rfl := List.mem_singleton.mp hm
          obtain ⟨m', hm', htext⟩ := h.message_read he.genuine hcmd
          exact ⟨m', mem_made_step hm', htext⟩
    | _ =>
        rw [hcmd] at hm
        cases hm

lemma known_step (h : Receipts json A B net) :
    ∀ a received,
      ((net.step json e).1.nodes B).m_receivedMessageCache.value? a = some received →
      ∃ m ∈ (net.step json e).1.shown B, m.messageId = a := by
  intro a received hcache
  rcases cache_step hcache with hold | ⟨m, hcmd, hid, hshows⟩
  · obtain ⟨m, hm, hid⟩ := h.known a received hold
    exact ⟨m, mem_shown_step hm, hid⟩
  · refine ⟨m, ?_, hid⟩
    rw [shown_step]
    exact List.mem_append_right _ hshows

lemma tracked_step (h : Receipts json A B net) :
    ∀ a tracked, ((net.step json e).1.nodes A).getTrackedMessage a = some tracked →
      tracked.message ∈ (net.step json e).1.made A ∧ tracked.message.messageId = a := by
  intro a tracked htracked
  have hchange := trackedChange_step json net e A a
  rw [htracked] at hchange
  generalize hold : (net.nodes A).getTrackedMessage a = old at hchange
  generalize hcmd : e.command json A = cmd at hchange
  cases hchange with
  | unchanged =>
      obtain ⟨hmade, hid⟩ := h.tracked a tracked hold
      exact ⟨mem_made_step hmade, hid⟩
  | sent sendable id =>
      refine ⟨?_, id⟩
      rw [made_step, hcmd, ChatCommand.makes, if_pos sendable]
      exact List.mem_append_right _ (List.mem_singleton_self _)
  | acked id =>
      obtain ⟨hmade, hid⟩ := h.tracked a _ hold
      exact ⟨mem_made_step hmade, hid⟩
  | failed task state =>
      obtain ⟨hmade, hid⟩ := h.tracked a _ hold
      exact ⟨mem_made_step hmade, hid⟩

/-- Messages stay tracked. -/
lemma isSome_step {a : String} {j : ι} (h : ((net.nodes j).getTrackedMessage a).isSome) :
    (((net.step json e).1.nodes j).getTrackedMessage a).isSome := by
  have hchange := trackedChange_step json net e j a
  generalize (net.nodes j).getTrackedMessage a = old at h hchange
  generalize ((net.step json e).1.nodes j).getTrackedMessage a = new at hchange ⊢
  generalize e.command json j = cmd at hchange
  cases hchange with
  | unchanged => exact h
  | sent sendable id => rfl
  | acked id => rfl
  | failed task state => rfl

lemma made_tracked_step (h : Receipts json A B net) :
    ∀ m ∈ (net.step json e).1.made A,
      (((net.step json e).1.nodes A).getTrackedMessage m.messageId).isSome := by
  intro m hm
  rw [made_step] at hm
  rcases List.mem_append.mp hm with hm | hm
  · exact isSome_step (h.made m hm)
  · cases hcmd : e.command json A with
    | sendMessage recipient content ip =>
        rw [hcmd, ChatCommand.makes] at hm
        split_ifs at hm with hs
        · rw [List.mem_singleton.mp hm, nodes_step, hcmd, getTrackedMessage, ChatCommand.run,
            ChatTurn.value?_sendMessage _ _ _ _ _ _ hs, ChatTurn.newMessage, if_pos rfl]
          rfl
        · cases hm
    | _ =>
        rw [hcmd] at hm
        cases hm

lemma not_answered_firstState (m_socket : Bool) (io : ChatIo) :
    ¬ (ChatTurn.firstState m_socket io).Answered := by
  rw [MessageState.Answered, ChatTurn.firstState]
  split_ifs <;> decide

lemma answered_ackState (status : String) : (ChatTurn.ackState status).Answered := by
  rw [MessageState.Answered, ChatTurn.ackState]
  split_ifs
  · exact .inr rfl
  · exact .inl rfl

lemma answered_step (h : Receipts json A B net) (he : Genuine net e) :
    ∀ a s, ((net.step json e).1.nodes A).stateOf a = some s → s.Answered →
      ∃ m ∈ (net.step json e).1.shown B, m.messageId = a := by
  intro a s hs hanswered
  rw [stateOf, Option.map_eq_some_iff] at hs
  obtain ⟨tracked, htracked, rfl⟩ := hs
  have hchange := trackedChange_step json net e A a
  rw [htracked] at hchange
  generalize hold : (net.nodes A).getTrackedMessage a = old at hchange
  generalize hcmd : e.command json A = cmd at hchange
  cases hchange with
  | unchanged =>
      obtain ⟨m, hm, hid⟩ := h.answered a tracked.state (by rw [stateOf, hold]; rfl) hanswered
      exact ⟨m, mem_shown_step hm, hid⟩
  | sent sendable id => exact absurd hanswered (not_answered_firstState _ _)
  | acked id =>
      obtain ⟨m, hm, hid⟩ := h.ack_read he hcmd
      exact ⟨m, mem_shown_step hm, hid.trans id⟩
  | failed task state =>
      rcases hanswered with hanswered | hanswered
      · cases hanswered
      · cases hanswered

lemma acked_shown_step (h : Receipts json A B net) (he : Genuine net e) :
    ∀ ack ∈ (net.step json e).1.acked A,
      ∃ m ∈ (net.step json e).1.shown B, m.messageId = ack.messageId := by
  intro ack hack
  rw [acked_step] at hack
  rcases List.mem_append.mp hack with hack | hack
  · obtain ⟨m, hm, hid⟩ := h.acked ack hack
    exact ⟨m, mem_shown_step hm, hid⟩
  · cases hcmd : e.command json A with
    | messageAck ack' =>
        rw [hcmd] at hack
        obtain rfl := List.mem_singleton.mp hack
        obtain ⟨m, hm, hid⟩ := h.ack_read he hcmd
        exact ⟨m, mem_shown_step hm, hid⟩
    | _ =>
        rw [hcmd] at hack
        cases hack

/-- An answer stays. -/
lemma settled_of_settled (h : Receipts json A B net) {a : String} {s : MessageState}
    (hids : (net.step json e).1.DistinctIds A) (hs : (net.nodes A).stateOf a = some s)
    (hanswered : s.Answered) :
    ∃ s', ((net.step json e).1.nodes A).stateOf a = some s' ∧ s'.Answered := by
  rw [stateOf, Option.map_eq_some_iff] at hs
  obtain ⟨tracked, htracked, rfl⟩ := hs
  have hchange := trackedChange_step json net e A a
  rw [htracked] at hchange
  generalize hcmd : e.command json A = cmd at hchange
  rw [stateOf]
  generalize ((net.step json e).1.nodes A).getTrackedMessage a = new at hchange ⊢
  cases hchange with
  | unchanged => exact ⟨_, rfl, hanswered⟩
  | sent sendable id =>
      obtain ⟨hmade, hid⟩ := h.tracked a tracked htracked
      exact absurd (hid.trans id.symm) (DistinctIds.fresh hids hcmd sendable hmade)
  | acked id => exact ⟨_, rfl, answered_ackState _⟩
  | failed task state =>
      rcases hanswered with hanswered | hanswered
      · rw [hanswered] at state
        exact absurd state (by decide)
      · rw [hanswered] at state
        exact absurd state (by decide)

lemma settled_step (h : Receipts json A B net) (he : Genuine net e) :
    (net.step json e).1.DistinctIds A → ∀ ack ∈ (net.step json e).1.acked A,
      ∃ s, ((net.step json e).1.nodes A).stateOf ack.messageId = some s ∧ s.Answered := by
  intro hids ack hack
  rw [acked_step] at hack
  rcases List.mem_append.mp hack with hack | hack
  · obtain ⟨s, hs, hanswered⟩ := h.settled (DistinctIds.of_step hids) ack hack
    exact settled_of_settled h hids hs hanswered
  · cases hcmd : e.command json A with
    | messageAck ack' =>
        rw [hcmd] at hack
        obtain rfl := List.mem_singleton.mp hack
        -- the message was shown, so it was made, and is tracked
        obtain ⟨m, hm, hid⟩ := h.ack_read he hcmd
        obtain ⟨m', hm', htext⟩ := h.shown m hm
        have htracked := h.made m' hm'
        rw [← messageId_eq_of_text_eq htext, hid] at htracked
        obtain ⟨tracked, htracked⟩ := Option.isSome_iff_exists.mp htracked
        refine ⟨_, ?_, answered_ackState ack.status⟩
        rw [nodes_step, hcmd, stateOf, getTrackedMessage, ChatCommand.run]
        rw [getTrackedMessage] at htracked
        simp [ChatTurn.onMessageAck, ChatTurn.value?_setMessageState, htracked]
    | _ =>
        rw [hcmd] at hack
        cases hack

/-! ### Runs -/

/-- The invariant is kept by every step. -/
theorem receipts_step (h : Receipts json A B net) (he : Paired A B net e) :
    Receipts json A B (net.step json e).1 where
  message := message_step h he
  ack := ack_step h he
  shown := shown_made_step h he
  known := known_step h
  tracked := tracked_step h
  made := made_tracked_step h
  answered := answered_step h he.genuine
  acked := acked_shown_step h he.genuine
  settled := settled_step h he.genuine

omit [DecidableEq ι] in
lemma receipts_start (deviceId : ι → String) (m_socket : ι → Bool) :
    Receipts json A B (ChatNet.start deviceId m_socket) where
  message _ h := by cases h
  ack _ h := by cases h
  shown _ h := by cases h
  known a received h := by simp [ChatNet.start] at h
  tracked a tracked h := by simp [ChatNet.start, getTrackedMessage] at h
  made _ h := by cases h
  answered a s h := by simp [ChatNet.start, stateOf, getTrackedMessage] at h
  acked _ h := by cases h
  settled _ _ h := by cases h

/-- A message fails in the timeout of its timer. -/
lemma failed_of_step {a : String} (hfailed : ((net.step json e).1.nodes A).stateOf a = some .Failed)
    (hbefore : (net.nodes A).stateOf a ≠ some .Failed) :
    (∃ timer, e.node = A ∧ e.event = .timeout timer ∧
      (net.nodes A).timers.value? timer = some (.ackTimeout a)) ∧
      ∃ s, (net.nodes A).stateOf a = some s ∧ ¬ s.Answered := by
  have hchange := trackedChange_step json net e A a
  generalize hcmd : e.command json A = cmd at hchange
  rw [stateOf] at hfailed hbefore ⊢
  generalize (net.nodes A).getTrackedMessage a = old at hchange hbefore
  generalize ((net.step json e).1.nodes A).getTrackedMessage a = new at hchange hfailed
  cases hchange with
  | unchanged => exact absurd hfailed hbefore
  | sent sendable id =>
      rw [Option.map_some, ChatTurn.firstState] at hfailed
      split_ifs at hfailed <;> cases hfailed
  | @acked ack tracked id =>
      rw [Option.map_some, ChatTurn.ackState] at hfailed
      split_ifs at hfailed <;> cases hfailed
  | @failed timer tracked task state =>
      obtain ⟨hnode, hevent⟩ := command_eq_of_ne_nothing hcmd ChatCommand.noConfusion
      refine ⟨⟨timer, hnode, ChatEvent.command_eq_timeout hevent, task⟩, tracked.state, rfl, ?_⟩
      rcases state with state | state
      · rw [MessageState.Answered, state]
        decide
      · rw [MessageState.Answered, state]
        decide

/-- **Receipts are sound.** In every run of two linked nodes, from their start: a
message that counts as delivered or read at `A` was shown by `B`, and as `A` made it
when ids are distinct. A message fails only in the timeout of its timer, and then no
acknowledgement of it had been processed. -/
theorem receipt_sound {deviceId : ι → String} {m_socket : ι → Bool} {es : List (ChatMove ι)}
    {log : List (NodeDeed ι)}
    (hrun : Run (chatNetwork json) (Paired A B) (ChatNet.start deviceId m_socket) es log net) :
    (∀ a tracked, (net.nodes A).getTrackedMessage a = some tracked → tracked.state.Answered →
      ∃ m ∈ net.shown B, m.messageId = a ∧
        (net.DistinctIds A → m.text = tracked.message.text)) ∧
      ∀ a e, Paired A B net e → (net.nodes A).stateOf a ≠ some .Failed →
        ((net.step json e).1.nodes A).stateOf a = some .Failed →
        (∃ timer, e.node = A ∧ e.event = .timeout timer ∧
          (net.nodes A).timers.value? timer = some (.ackTimeout a)) ∧
          (net.DistinctIds A → ∀ ack ∈ net.acked A, ack.messageId ≠ a) := by
  have hinv : Receipts json A B net :=
    hrun.invariant (receipts_start deviceId m_socket) fun _ _ h he => receipts_step h he
  constructor
  · intro a tracked htracked hanswered
    obtain ⟨m, hm, hid⟩ := hinv.answered a tracked.state (by rw [stateOf, htracked]; rfl) hanswered
    refine ⟨m, hm, hid, ?_⟩
    intro hids
    obtain ⟨m', hm', htext⟩ := hinv.shown m hm
    obtain ⟨hmade, hid'⟩ := hinv.tracked a tracked htracked
    have hsame : m'.messageId = tracked.message.messageId := by
      rw [hid', ← hid, messageId_eq_of_text_eq htext]
    rw [htext, List.inj_on_of_nodup_map hids hm' hmade hsame]
  · intro a e he hbefore hfailed
    obtain ⟨htimeout, s, hs, hnot⟩ := failed_of_step hfailed hbefore
    refine ⟨htimeout, ?_⟩
    rintro hids ack hack rfl
    obtain ⟨s', hs', hanswered⟩ := hinv.settled hids ack hack
    rw [hs, Option.some.injEq] at hs'
    exact hnot (hs' ▸ hanswered)

/-! ### One message and its acknowledgement -/

/-- Two nodes. -/
def helloStart : ChatNet (Fin 2) :=
  .start (fun i => if i = 0 then "mc_alice" else "mc_bob") fun _ => true

/-- The message. -/
def hello : ChatMessage := ⟨"msg_1", "mc_alice", "mc_bob", "hello", 1700000000, none⟩

/-- The message is sent. -/
def helloSent : ChatNet (Fin 2) :=
  (helloStart.step compact ⟨0, sendHello.1, sendHello.2, [1]⟩).1

/-- The message arrives. -/
def helloArrives : ChatMove (Fin 2) where
  node := 1
  event := .frameReceivedFrom (jsonFrame compact .ChatMessage (hello.toJson 1700000000)) "10.77.0.2"
  io := { later := 1700000001 }
  links := [0]

/-- The message is shown. -/
def helloShown : ChatNet (Fin 2) := (helloSent.step compact helloArrives).1

/-- The acknowledgement arrives. -/
def helloAcked : ChatNet (Fin 2) :=
  (helloShown.step compact ⟨0, (ackArrives "delivered").1, {}, [1]⟩).1

lemma mail_helloSent :
    jsonFrame compact .ChatMessage (hello.toJson 1700000000) ∈ helloSent.mail 1 := by
  have hsendable : ChatTurn.Sendable "mc_bob" "hello" := by decide
  rw [helloSent, mail_step, if_pos (List.mem_singleton_self _), List.mem_append]
  refine .inr ?_
  have hcmd : (⟨0, sendHello.1, sendHello.2, [1]⟩ : ChatMove (Fin 2)).command compact 0 =
      .sendMessage "mc_bob" "hello" "" := rfl
  rw [hcmd, frames_sendMessage hsendable]
  exact List.mem_singleton_self _

lemma mail_helloShown :
    ackFrame compact { later := 1700000001 } "msg_1" "delivered" ∈ helloShown.mail 0 := by
  have hmessage : ChatMessage.fromJson (hello.toJson 1700000000) = some hello :=
    ChatMessage.fromJson_toJson 1700000000 (by decide) (by decide) (by decide) (by decide)
  have hcmd : helloArrives.command compact 1 = .chatMessage hello := by
    simp [helloArrives, ChatMove.command, ChatEvent.command, readChatFrame, hmessage]
  have hlink : (0 : Fin 2) ∈ helloArrives.links := List.mem_singleton_self _
  rw [helloShown, mail_step, if_pos hlink, List.mem_append]
  refine .inr ?_
  rw [show helloArrives.node = 1 from rfl, hcmd, frames_chatMessage]
  exact List.mem_singleton_self _

lemma run_hello : ∃ log, Run (chatNetwork compact) (Paired 0 1) helloStart
    [⟨0, sendHello.1, sendHello.2, [1]⟩, helloArrives, ⟨0, (ackArrives "delivered").1, {}, [1]⟩]
    log helloAcked := by
  have hsend : Paired 0 1 helloStart ⟨0, sendHello.1, sendHello.2, [1]⟩ :=
    { genuine := fun _ _ h => by cases h
      toA := fun h => absurd h (by decide)
      toB := fun _ => rfl
      receipt := fun h => absurd h (by decide) }
  have harrives : Paired 0 1 helloSent helloArrives :=
    { genuine := fun frame ip h => by
        cases h
        exact mail_helloSent
      toA := fun _ => rfl
      toB := fun h => absurd h (by decide)
      receipt := fun _ _ _ h => by cases h }
  have hack : Paired 0 1 helloShown ⟨0, (ackArrives "delivered").1, {}, [1]⟩ :=
    { genuine := fun frame ip h => by
        cases h
        exact mail_helloShown
      toA := fun h => absurd h (by decide)
      toB := fun _ => rfl
      receipt := fun h => absurd h (by decide) }
  exact ⟨_, ((Run.nil.snoc hsend).snoc harrives).snoc hack⟩

/-- `mc_alice` reads that her message was delivered, and `mc_bob` was shown it. -/
theorem receipt_sound_hello :
    (helloAcked.nodes 0).stateOf "msg_1" = some .Delivered ∧
      ∃ m ∈ helloAcked.shown 1, m.messageId = "msg_1" := by
  obtain ⟨log, hrun⟩ := run_hello
  have hsent : helloSent.nodes 0 = waitingController := nodes_step_self
  have hshown : helloShown.nodes 0 = waitingController := by
    rw [helloShown, nodes_step_of_ne (show (0 : Fin 2) ≠ 1 by decide), hsent]
  have hstate : (helloAcked.nodes 0).stateOf "msg_1" = some .Delivered := by
    have hacked : helloAcked.nodes 0 =
        ((machine compact).step (helloShown.nodes 0) (ackArrives "delivered")).1 := nodes_step_self
    rw [hacked, hshown]
    exact stateOf_ackArrives stateOf_waitingController (by decide)
  refine ⟨hstate, ?_⟩
  rw [stateOf, Option.map_eq_some_iff] at hstate
  obtain ⟨tracked, htracked, hdelivered⟩ := hstate
  obtain ⟨m, hm, hid, -⟩ := (receipt_sound hrun).1 "msg_1" tracked htracked (.inl hdelivered)
  exact ⟨m, hm, hid⟩

end MeckChat.Protocol
