import MeckChat.Protocol.ChatParts
import MeckChat.Protocol.ChatTimers
import MeckChat.Protocol.MessageStatus

/-!
The timers that wait for acknowledgements.

* `ackChange_run` says at once what a command does to the timer and the state of a
  message, and which of `lifeDeeds` it logs.
* `Waits` is the invariant: a message has a timer exactly when it is unanswered, and
  it failed at most as often as it was sent. `waits_step` keeps it.
* `ack_timers_exact`: over every run, for every message.
-/

namespace MeckChat.Protocol

open QJson ChatController

variable (json : JsonCodec)

/-- A message waits for its acknowledgement. -/
def MessageState.Unanswered (s : MessageState) : Prop := s = .Sent ∨ s = .Pending

instance (s : MessageState) : Decidable s.Unanswered := inferInstanceAs (Decidable (_ ∨ _))

/-- The timer and the state of a message. -/
abbrev AckView := Option ℕ × Option MessageState

/-- What of a message concerns its acknowledgement. -/
def ChatController.ackView (c : ChatController) (a : String) : AckView :=
  (c.m_ackTimers.value? a, c.stateOf a)

/-- It was sent. -/
def sentDeed (a : String) : ChatDeed := .signal (.messageSent a)

/-- It timed out. -/
def failedDeed (a : String) : ChatDeed := .signal (.messageStatusChanged a .Failed)

/-- Where a message begins and where it times out. -/
def lifeDeed? (a : String) (d : ChatDeed) : Option ChatDeed :=
  if d = sentDeed a ∨ d = failedDeed a then some d else none

/-- The ways in which a command changes timer and state of a message, and what it
logs. -/
inductive AckChange (c : ChatController) (io : ChatIo) (a : String) :
    AckView → AckView → List ChatDeed → Prop where
  | unchanged {view} : AckChange c io a view view []
  | sent {view} : AckChange c io a view
      (some c.nextTimer, some (ChatTurn.firstState c.m_socket io)) [sentDeed a]
  | acked {timer s status} :
      AckChange c io a (timer, some s) (none, some (ChatTurn.ackState status)) []
  | settled {timer s} (answered : ∀ s', s = some s' → ¬ s'.Unanswered) :
      AckChange c io a (timer, s) (none, s) []
  | failed {timer s} (unanswered : s.Unanswered) :
      AckChange c io a (timer, some s) (none, some .Failed) [failedDeed a]

variable {a : String}

@[simp] lemma lifeDeed?_sendFrame (frame : P2PFrame) : lifeDeed? a (.sendFrame frame) = none :=
  if_neg (by simp [sentDeed, failedDeed])

@[simp] lemma lifeDeed?_connectToPeer (ip : String) : lifeDeed? a (.connectToPeer ip) = none :=
  if_neg (by simp [sentDeed, failedDeed])

/-- The timer and the record of a message. -/
def ChatController.ackPart (a : String) (c : ChatController) :
    Option ℕ × Option TrackedMessage :=
  (c.m_ackTimers.value? a, c.getTrackedMessage a)

lemma ignoresPeers_life : IgnoresPeers json (lifeDeed? a) (ackPart a) where
  frame _ := lifeDeed?_sendFrame _
  received _ := if_neg (by simp [sentDeed, failedDeed])
  typing _ _ := if_neg (by simp [sentDeed, failedDeed])
  part _ _ _ _ _ := rfl

lemma ignoresTyping_life : IgnoresTyping json (lifeDeed? a) (ackPart a) where
  connect := lifeDeed?_connectToPeer
  frame _ := lifeDeed?_sendFrame _
  part _ _ _ _ := rfl

variable {t : ChatTurn} {c : ChatController} {io : ChatIo}

/-- What concerns neither the timer nor the record of a message. -/
lemma ackChange_of_unseen (h : Unseen (lifeDeed? a) (ackPart a) { chat := c } t) :
    AckChange c io a (c.ackView a) (t.chat.ackView a) (t.deeds.filterMap (lifeDeed? a)) := by
  have hview : t.chat.ackView a = c.ackView a :=
    congrArg (fun part => (part.1, part.2.map (·.state))) h.part
  rw [h.deeds, hview]
  exact .unchanged

/-! ### What concerns them -/

namespace ChatTurn

variable (t)

lemma value?_stopAckTimer (a b : String) :
    QMap.value? (t.stopAckTimer a).chat.m_ackTimers b =
      if a = b then none else t.chat.m_ackTimers.value? b := by
  rw [stopAckTimer]
  cases h : t.chat.m_ackTimers.value? a with
  | none =>
      split_ifs with hb
      · rw [← hb, h]
      · rfl
  | some timer => exact QMap.value?_erase _ _ _

lemma m_ackTimers_setMessageState (a : String) (state : MessageState) :
    (t.setMessageState a state).chat.m_ackTimers = t.chat.m_ackTimers :=
  congrArg (fun clocks => clocks.1) (t.clocks_setMessageState a state)

lemma m_ackTimers_failUnanswered (a : String) :
    (t.failUnanswered a).chat.m_ackTimers = t.chat.m_ackTimers :=
  congrArg (fun clocks => clocks.1) (t.clocks_failUnanswered a)

lemma value?_ackTimers_sendMessage {recipient content ip : String}
    (h : Sendable recipient content) (b : String) :
    QMap.value? (t.sendMessage json io recipient content ip).1.chat.m_ackTimers b =
      if generateMessageId io.uuid = b then some t.chat.nextTimer
      else t.chat.m_ackTimers.value? b := by
  simp only [sendMessage, if_neg (not_lt.mpr h.1), if_neg h.2, chat_emit,
    apply_ite ChatTurn.chat, apply_ite ChatController.m_ackTimers, m_ackTimers_setMessageState,
    ite_self, chat_sendFrame, startAckTimer, track, chat_connectIfNeeded]
  exact QMap.value?_insert _ _ _ _

lemma stateOf_sendMessage {recipient content ip : String} (h : Sendable recipient content)
    (b : String) :
    (t.sendMessage json io recipient content ip).1.chat.stateOf b =
      if generateMessageId io.uuid = b then some (firstState t.chat.m_socket io)
      else t.chat.stateOf b := by
  rw [stateOf, getTrackedMessage, value?_sendMessage _ _ _ _ _ _ h]
  split_ifs <;> rfl

end ChatTurn

lemma ackChange_sendMessage (recipient content ip : String) :
    AckChange c io a (c.ackView a)
      ((ChatTurn.sendMessage json io recipient content ip { chat := c }).1.chat.ackView a)
      ((ChatTurn.sendMessage json io recipient content ip { chat := c }).1.deeds.filterMap
        (lifeDeed? a)) := by
  by_cases h : ChatTurn.Sendable recipient content
  · rw [ChatTurn.filterMap_sendMessage _ _ _ _ _ _ _ h, ackView, ackView,
      ChatTurn.value?_ackTimers_sendMessage _ _ h, ChatTurn.stateOf_sendMessage _ _ h]
    by_cases hid : generateMessageId io.uuid = a
    · rw [if_pos hid, if_pos hid]
      have hsent : lifeDeed? a (.signal (.messageSent (generateMessageId io.uuid))) =
          some (sentDeed a) := by
        rw [hid]
        exact if_pos (.inl rfl)
      rw [hsent]
      simp only [lifeDeed?_connectToPeer, lifeDeed?_sendFrame]
      have hchange : AckChange c io a (c.m_ackTimers.value? a, c.stateOf a) _ _ := .sent
      simpa using hchange
    · rw [if_neg hid, if_neg hid]
      have hother : lifeDeed? a (.signal (.messageSent (generateMessageId io.uuid))) = none :=
        if_neg (by simpa [sentDeed, failedDeed] using hid)
      rw [hother]
      simp only [lifeDeed?_connectToPeer, lifeDeed?_sendFrame]
      have hchange : AckChange c io a (c.m_ackTimers.value? a, c.stateOf a) _ _ := .unchanged
      simpa using hchange
  · obtain ⟨error, hrefused⟩ := ChatTurn.sendMessage_refused json io { chat := c } recipient
      content ip h
    rw [hrefused]
    exact ackChange_of_unseen ⟨by simp [lifeDeed?, sentDeed, failedDeed], rfl⟩

lemma ackState_ne_failed (status : String) : ChatTurn.ackState status ≠ .Failed := by
  rw [ChatTurn.ackState]
  split_ifs <;> decide

lemma ackChange_onMessageAck (ack : MessageAck) :
    AckChange c io a (c.ackView a) ((ChatTurn.onMessageAck ack { chat := c }).chat.ackView a)
      ((ChatTurn.onMessageAck ack { chat := c }).deeds.filterMap (lifeDeed? a)) := by
  simp only [ChatTurn.onMessageAck]
  split_ifs with htracked
  · have hlog : lifeDeed? a (.signal (.messageStatusChanged ack.messageId
        (ChatTurn.ackState ack.status))) = none :=
      if_neg (by simp [sentDeed, failedDeed, ackState_ne_failed])
    simp only [ChatTurn.filterMap_emit, ChatTurn.chat_emit, ChatTurn.deeds_setMessageState,
      ChatTurn.deeds_stopAckTimer, hlog]
    rw [ackView, ackView, ChatTurn.m_ackTimers_setMessageState, ChatTurn.value?_stopAckTimer,
      stateOf, stateOf, getTrackedMessage, getTrackedMessage, ChatTurn.value?_setMessageState,
      ChatTurn.m_outgoingMessages_stopAckTimer]
    by_cases hid : ack.messageId = a
    · obtain ⟨tracked, hold⟩ := Option.isSome_iff_exists.mp htracked
      rw [if_pos hid, if_pos hid, ← hid, hold]
      exact .acked
    · rw [if_neg hid, if_neg hid]
      exact .unchanged
  · exact ackChange_of_unseen ⟨by simp [lifeDeed?, sentDeed, failedDeed], rfl⟩

/-- The timeout of a message, for the message itself and for the others. -/
lemma ackChange_ackTimeout (b : String) (hdeeds : t.deeds = [])
    (hview : t.chat.ackView a = c.ackView a) :
    AckChange c io a (c.ackView a) ((t.ackTimeout b).chat.ackView a)
      ((t.ackTimeout b).deeds.filterMap (lifeDeed? a)) := by
  rw [ackView, ackView, Prod.mk.injEq] at hview
  obtain ⟨htimer, hstate⟩ := hview
  have hother : b ≠ a → lifeDeed? a (.signal (.messageStatusChanged b .Failed)) = none :=
    fun hb => if_neg (by simpa [sentDeed, failedDeed] using hb)
  have hself : lifeDeed? a (.signal (.messageStatusChanged a .Failed)) = some (failedDeed a) :=
    if_pos (.inr rfl)
  rw [ackView, ackView, ChatTurn.ackTimeout, ChatTurn.value?_stopAckTimer,
    ChatTurn.deeds_stopAckTimer, ChatTurn.m_ackTimers_failUnanswered, stateOf, stateOf,
    getTrackedMessage, getTrackedMessage, ChatTurn.m_outgoingMessages_stopAckTimer,
    ChatTurn.failUnanswered]
  rw [stateOf, stateOf, getTrackedMessage, getTrackedMessage] at hstate
  rw [htimer]
  by_cases hb : b = a
  · subst hb
    rw [if_pos rfl]
    cases hold : t.chat.m_outgoingMessages.value? b with
    | none =>
        rw [hold] at hstate
        rw [hdeeds, ← hstate, hold]
        exact .settled fun s' h => by cases h
    | some tracked =>
        rw [hold, Option.map_some] at hstate
        dsimp only
        split_ifs with hwaits
        · rw [ChatTurn.filterMap_emit, ChatTurn.deeds_setMessageState, hdeeds, hself,
            ChatTurn.chat_emit, ChatTurn.value?_setMessageState, if_pos rfl, hold, ← hstate]
          exact .failed hwaits
        · rw [hdeeds, hold, ← hstate]
          refine .settled fun s' h => ?_
          rw [Option.some.injEq] at h
          rwa [← h]
  · rw [if_neg hb, ← hstate]
    split
    · split_ifs
      · rw [ChatTurn.filterMap_emit, ChatTurn.deeds_setMessageState, hdeeds, hother hb,
          ChatTurn.chat_emit, ChatTurn.value?_setMessageState, if_neg hb]
        exact .unchanged
      · rw [hdeeds]
        exact .unchanged
    · rw [hdeeds]
      exact .unchanged

/-- **Inversion for acknowledgements.** What a command does to the timer and the state
of a message, and what it logs of its life. -/
theorem ackChange_run (cmd : ChatCommand) (io : ChatIo) (c : ChatController) (a : String) :
    AckChange c io a (c.ackView a) ((cmd.run json io { chat := c }).chat.ackView a)
      ((cmd.run json io { chat := c }).deeds.filterMap (lifeDeed? a)) := by
  have hpeers : IgnoresPeers json (lifeDeed? a) (ackPart a) := ignoresPeers_life json
  have htyping : IgnoresTyping json (lifeDeed? a) (ackPart a) := ignoresTyping_life json
  cases cmd with
  | sendMessage recipient content ip => exact ackChange_sendMessage json recipient content ip
  | sendReadReceipt messageId ip =>
      exact ackChange_of_unseen (unseen_sendReadReceipt lifeDeed?_connectToPeer
        (fun _ => lifeDeed?_sendFrame _) io messageId ip)
  | sendTypingNotification recipient isTyping ip =>
      exact ackChange_of_unseen (htyping.sendTypingNotification io recipient isTyping ip)
  | chatMessage msg => exact ackChange_of_unseen (hpeers.onChatMessage io msg)
  | messageAck ack => exact ackChange_onMessageAck ack
  | typingIndicator typing => exact ackChange_of_unseen (hpeers.onTypingIndicator typing)
  | timeout timer =>
      rw [ChatCommand.run, ChatTurn.timeout]
      cases c.timers.value? timer with
      | none => exact .unchanged
      | some task =>
          cases task with
          | ackTimeout b => exact ackChange_ackTimeout b rfl rfl
          | typingExpiry peer =>
              refine ackChange_of_unseen (Unseen.trans ?_ (hpeers.clearTyping peer))
              exact ⟨rfl, rfl⟩
  | typingStopTimeout => exact ackChange_of_unseen (htyping.typingStopTimeout io)
  | disconnected => exact ackChange_of_unseen hpeers.onSocketDisconnected
  | nothing => exact .unchanged

/-! ### Over whole runs -/

/-- Reading the life of a message loses none of it. -/
lemma count_lifeDeeds {d : ChatDeed} (hd : d = sentDeed a ∨ d = failedDeed a)
    (deeds : List ChatDeed) : (deeds.filterMap (lifeDeed? a)).count d = deeds.count d := by
  induction deeds with
  | nil => rfl
  | cons d' deeds ih =>
      by_cases hlife : d' = sentDeed a ∨ d' = failedDeed a
      · have hread : lifeDeed? a d' = some d' := if_pos hlife
        rw [List.filterMap_cons_some hread, List.count_cons, List.count_cons, ih]
      · have hne : d' ≠ d := by
          rintro rfl
          exact hlife hd
        have hread : lifeDeed? a d' = none := if_neg hlife
        rw [List.filterMap_cons_none hread, List.count_cons_of_ne hne, ih]

/-- What holds of the timer of a message, its state and its life. -/
structure Waits (a : String) (log : List ChatDeed) (c : ChatController) : Prop where
  timer : (c.ackView a).1.isSome = true ↔ ∃ s, (c.ackView a).2 = some s ∧ s.Unanswered
  life : log.count (failedDeed a) + (if (c.ackView a).1.isSome then 1 else 0) ≤
    log.count (sentDeed a)

variable {log : List ChatDeed}

lemma unanswered_firstState (m_socket : Bool) (io : ChatIo) :
    (ChatTurn.firstState m_socket io).Unanswered := by
  rw [ChatTurn.firstState]
  split_ifs
  · exact .inr rfl
  · exact .inl rfl

lemma not_unanswered_ackState (status : String) :
    ¬ (ChatTurn.ackState status).Unanswered := by
  rw [ChatTurn.ackState]
  split_ifs <;> decide

/-- Every step keeps the invariant. -/
lemma waits_step (h : Waits a log c) (e : ChatEvent × ChatIo) :
    Waits a (log ++ ((machine json).step c e).2) ((machine json).step c e).1 := by
  obtain ⟨htimer, hlife⟩ := h
  have hchange := ackChange_run json (e.1.command json) e.2 c a
  rw [machine_step, step_eq_run]
  generalize (e.1.command json).run json e.2 { chat := c } = t at hchange ⊢
  have hfailed := count_lifeDeeds (a := a) (.inr rfl) t.deeds
  have hsent := count_lifeDeeds (a := a) (.inl rfl) t.deeds
  have hne : sentDeed a ≠ failedDeed a := by simp [sentDeed, failedDeed]
  generalize hold : c.ackView a = old at htimer hlife hchange
  generalize hnew : t.chat.ackView a = new at hchange
  generalize t.deeds.filterMap (lifeDeed? a) = life at hchange hfailed hsent
  cases hchange with
  | unchanged =>
      refine ⟨by rw [hnew]; exact htimer, ?_⟩
      rw [List.count_append, List.count_append, ← hfailed, ← hsent, hnew]
      simpa using hlife
  | sent =>
      refine ⟨?_, ?_⟩
      · rw [hnew]
        exact iff_of_true rfl ⟨_, rfl, unanswered_firstState _ _⟩
      · rw [List.count_append, List.count_append, ← hfailed, ← hsent, hnew,
          List.count_singleton_self, List.count_singleton, if_neg (by simp [hne])]
        exact Nat.add_le_add_right ((Nat.le_add_right _ _).trans hlife) 1
  | acked =>
      refine ⟨?_, ?_⟩
      · rw [hnew]
        refine iff_of_false Bool.false_ne_true ?_
        rintro ⟨s', hs', hwaits⟩
        cases hs'
        exact not_unanswered_ackState _ hwaits
      · rw [List.count_append, List.count_append, ← hfailed, ← hsent, hnew]
        exact (Nat.le_add_right _ _).trans hlife
  | settled answered =>
      refine ⟨?_, ?_⟩
      · rw [hnew]
        exact iff_of_false Bool.false_ne_true fun ⟨s', hs', hwaits⟩ => answered s' hs' hwaits
      · rw [List.count_append, List.count_append, ← hfailed, ← hsent, hnew]
        exact (Nat.le_add_right _ _).trans hlife
  | @failed timer s unanswered =>
      -- the message had a timer, which pays for its timeout
      have hrunning : timer.isSome = true := htimer.mpr ⟨s, rfl, unanswered⟩
      rw [if_pos hrunning] at hlife
      refine ⟨?_, ?_⟩
      · rw [hnew]
        refine iff_of_false Bool.false_ne_true ?_
        rintro ⟨s', hs', hwaits⟩
        cases hs'
        exact absurd hwaits (by decide)
      · rw [List.count_append, List.count_append, ← hfailed, ← hsent, hnew,
          List.count_singleton_self, List.count_singleton, if_neg (by simp)]
        exact hlife

/-- A timeout leaves a message alone that does not wait. -/
lemma stateOf_timeout {s : MessageState} (h : c.stateOf a = some s) (hs : ¬ s.Unanswered)
    (timer : ℕ) (io : ChatIo) : (c.step json (.timeout timer) io).1.stateOf a = some s := by
  rw [step_eq_run]
  have hchange := trackedChange_run json (.timeout timer) io { chat := c } a
  rw [stateOf, getTrackedMessage] at h ⊢
  show (QMap.value? ((ChatCommand.timeout timer).run json io _).chat.m_outgoingMessages a).map _ = _
  change TrackedChange c io a _ (c.m_outgoingMessages.value? a) _ at hchange
  generalize c.m_outgoingMessages.value? a = old at h hchange
  generalize QMap.value? ((ChatCommand.timeout timer).run json io
    { chat := c }).chat.m_outgoingMessages a = new at hchange ⊢
  cases hchange with
  | unchanged => exact h
  | failed task state =>
      rw [Option.map_some, Option.some.injEq] at h
      rw [h] at state
      exact absurd state hs

/-- **Timers of messages.** In every run of a new controller, whatever happens in
whatever order, a message has a timer exactly when it waits for its acknowledgement,
and that timer is running. It timed out at most as often as it was sent, and a timeout
changes no message that does not wait. -/
theorem ack_timers_exact (deviceId : String) (m_socket : Bool) (es : List (ChatEvent × ChatIo))
    (a : String) :
    let (log, c) := (machine json).exec { deviceId, m_socket } es
    ((∃ timer, c.m_ackTimers.value? a = some timer) ↔
        ∃ s, c.stateOf a = some s ∧ (s = .Sent ∨ s = .Pending)) ∧
      (∀ timer, c.m_ackTimers.value? a = some timer →
        c.timers.value? timer = some (.ackTimeout a)) ∧
      log.count (.signal (.messageStatusChanged a .Failed)) ≤
        log.count (.signal (.messageSent a)) ∧
      ∀ s, c.stateOf a = some s → ¬ (s = .Sent ∨ s = .Pending) → ∀ timer io,
        (c.step json (.timeout timer) io).1.stateOf a = some s := by
  generalize hexec : (machine json).exec { deviceId, m_socket } es = r
  obtain ⟨log, c⟩ := r
  have hrun := Run.exec_all (machine json) { deviceId, m_socket } es
  rw [hexec] at hrun
  have hwaits : Waits a log c := by
    refine hrun.invariant_log (I := fun _ log c => Waits a log c) ?_ ?_
    · have hview : ChatController.ackView { deviceId, m_socket } a = (none, none) := by
        simp [ackView, stateOf, getTrackedMessage]
      refine ⟨?_, ?_⟩
      · rw [hview]
        simp
      · rw [hview]
        exact le_rfl
    · exact fun _ log c e h _ => waits_step json h e
  have hown : OwnTimers c := hrun.invariant (ownTimers_start deviceId m_socket)
    fun c e h _ => ownTimers_step json h e
  refine ⟨?_, hown.ack a, (Nat.le_add_right _ _).trans hwaits.life, ?_⟩
  · rw [← Option.isSome_iff_exists]
    exact hwaits.timer
  · exact fun s hs hanswered timer io => stateOf_timeout json hs hanswered timer io

end MeckChat.Protocol
