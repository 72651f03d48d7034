import MeckChat.Protocol.ChatNetwork

/-!
The timers of a chat controller.

* `clocks` is the part of a controller that concerns timers; most operations leave
  it alone.
* `OwnTimers` is the invariant: a timer that is entered for a message or for a peer
  is running, and every running expiry of a typing peer is entered.
* `ownTimers_ack` and `ownTimers_typing` say what may be taken out at once;
  `ownTimers_run` keeps the invariant under every command.
-/

namespace MeckChat.Protocol

open QJson ChatController

variable (json : JsonCodec)

/-- What of a controller concerns timers. -/
def ChatController.clocks (c : ChatController) :
    QMap String ℕ × QMap String ℕ × QMap ℕ TimerTask × ℕ :=
  (c.m_ackTimers, c.m_peerTypingTimers, c.timers, c.nextTimer)

/-- The maps of timers agree with the timers that are running. -/
structure OwnTimers (c : ChatController) : Prop where
  fresh : ∀ n, c.nextTimer ≤ n → c.timers.value? n = none
  ack : ∀ a n, c.m_ackTimers.value? a = some n → c.timers.value? n = some (.ackTimeout a)
  typing : ∀ p n, c.m_peerTypingTimers.value? p = some n ↔
    c.timers.value? n = some (.typingExpiry p)

namespace ChatTurn

variable (io : ChatIo) (t : ChatTurn)

@[simp] lemma clocks_track (a : String) (tracked : TrackedMessage) :
    (t.track a tracked).chat.clocks = t.chat.clocks := rfl

@[simp] lemma clocks_setMessageState (a : String) (state : MessageState) :
    (t.setMessageState a state).chat.clocks = t.chat.clocks := by
  rw [setMessageState]
  cases t.chat.m_outgoingMessages.value? a <;> rfl

@[simp] lemma clocks_sendTypingNotification (recipient : String) (isTyping : Bool) (ip : String) :
    (t.sendTypingNotification json io recipient isTyping ip).chat.clocks = t.chat.clocks := by
  simp only [sendTypingNotification]
  split_ifs <;> simp [clocks]

@[simp] lemma clocks_typingStopTimeout :
    (t.typingStopTimeout json io).chat.clocks = t.chat.clocks := by
  simp only [typingStopTimeout]
  split_ifs
  · rw [clocks_sendTypingNotification]
    rfl
  · rfl
  · rfl

@[simp] lemma clocks_failUnanswered (a : String) :
    (t.failUnanswered a).chat.clocks = t.chat.clocks := by
  rw [failUnanswered]
  split
  · split_ifs
    · rw [chat_emit, clocks_setMessageState]
    · rfl
  · rfl

end ChatTurn

/-! ### What is taken out together -/

variable {c c' : ChatController}

lemma OwnTimers.congr (h : OwnTimers c) (hclocks : c'.clocks = c.clocks) : OwnTimers c' := by
  simp only [clocks, Prod.mk.injEq] at hclocks
  obtain ⟨hack, htyping, htimers, hnext⟩ := hclocks
  constructor
  · rw [hnext, htimers]
    exact h.fresh
  · rw [hack, htimers]
    exact h.ack
  · rw [htyping, htimers]
    exact h.typing

/-- Timers of a message stop when its entry goes. -/
lemma ownTimers_ack (h : OwnTimers c) {a : String}
    (hack : ∀ a', c'.m_ackTimers.value? a' =
      if a = a' then none else c.m_ackTimers.value? a')
    (htyping : c'.m_peerTypingTimers = c.m_peerTypingTimers)
    (htimers : ∀ n, c'.timers.value? n = c.timers.value? n ∨
      c.timers.value? n = some (.ackTimeout a) ∧ c'.timers.value? n = none)
    (hnext : c'.nextTimer = c.nextTimer) : OwnTimers c' := by
  constructor
  · intro n hn
    rw [hnext] at hn
    rcases htimers n with hsame | ⟨-, hgone⟩
    · rw [hsame, h.fresh n hn]
    · exact hgone
  · intro a' n hentry
    rw [hack] at hentry
    split_ifs at hentry with ha
    have htask := h.ack a' n hentry
    rcases htimers n with hsame | ⟨hother, -⟩
    · rw [hsame, htask]
    · rw [htask, Option.some.injEq, TimerTask.ackTimeout.injEq] at hother
      exact absurd hother.symm ha
  · intro p n
    rw [htyping, h.typing]
    rcases htimers n with hsame | ⟨hother, hgone⟩
    · rw [hsame]
    · rw [hother, hgone]
      simp

/-- The timer of a peer stops when its entry goes. -/
lemma ownTimers_typing (h : OwnTimers c) {p : String} {n : ℕ}
    (hp : c.m_peerTypingTimers.value? p = some n) (hack : c'.m_ackTimers = c.m_ackTimers)
    (htyping : c'.m_peerTypingTimers = c.m_peerTypingTimers.erase p)
    (htimers : ∀ k, c'.timers.value? k = if n = k then none else c.timers.value? k)
    (hnext : c'.nextTimer = c.nextTimer) : OwnTimers c' := by
  have htask := (h.typing p n).mp hp
  constructor
  · intro k hk
    rw [hnext] at hk
    rw [htimers, h.fresh k hk, ite_self]
  · intro a k hentry
    rw [hack] at hentry
    have hother := h.ack a k hentry
    rw [htimers, if_neg, hother]
    rintro rfl
    rw [htask] at hother
    cases hother
  · intro q k
    rw [htyping, htimers, QMap.value?_erase]
    by_cases hk : n = k
    · subst hk
      rw [if_pos rfl, iff_false_right (by simp)]
      split_ifs with hq
      · simp
      · rw [h.typing, htask]
        simpa using hq
    · rw [if_neg hk, ← h.typing]
      split_ifs with hq
      · subst hq
        rw [hp]
        simpa using hk
      · rfl

/-! ### A new timer -/

/-- A new timer does not replace one that is running. -/
lemma OwnTimers.value?_start (h : OwnTimers c) {n : ℕ} {task : TimerTask}
    (hn : c.timers.value? n = some task) (new : TimerTask) :
    QMap.value? (c.timers.insert c.nextTimer new) n = some task := by
  rw [QMap.value?_insert_of_ne _ ?_, hn]
  rintro rfl
  rw [h.fresh _ le_rfl] at hn
  cases hn

lemma OwnTimers.fresh_start (h : OwnTimers c) {n : ℕ} (hn : c.nextTimer + 1 ≤ n)
    (new : TimerTask) : QMap.value? (c.timers.insert c.nextTimer new) n = none := by
  rw [QMap.value?_insert_of_ne _ (Nat.ne_of_lt (Nat.lt_of_succ_le hn)),
    h.fresh n (Nat.le_of_succ_le hn)]

/-! ### The operations -/

namespace ChatTurn

variable {t : ChatTurn}

lemma ownTimers_startAckTimer (h : OwnTimers t.chat) (a : String) :
    OwnTimers (t.startAckTimer a).chat := by
  constructor
  · exact fun n hn => h.fresh_start hn _
  · intro a' n hentry
    change QMap.value? (t.chat.m_ackTimers.insert a t.chat.nextTimer) a' = some n at hentry
    rw [QMap.value?_insert] at hentry
    split_ifs at hentry with ha
    · rw [Option.some.injEq] at hentry
      rw [← hentry, ← ha]
      exact QMap.value?_insert_self _ _ _
    · exact h.value?_start (h.ack a' n hentry) _
  · intro p n
    show t.chat.m_peerTypingTimers.value? p = some n ↔
      QMap.value? (t.chat.timers.insert t.chat.nextTimer (.ackTimeout a)) n = _
    rw [h.typing, QMap.value?_insert]
    split_ifs with hn
    · rw [← hn, h.fresh _ le_rfl]
      simp
    · rfl

lemma ownTimers_stopAckTimer (h : OwnTimers t.chat) (a : String) :
    OwnTimers (t.stopAckTimer a).chat := by
  rw [stopAckTimer]
  cases hentry : t.chat.m_ackTimers.value? a with
  | none => exact h
  | some timer =>
      refine ownTimers_ack h (fun a' => QMap.value?_erase _ _ _) rfl ?_ rfl
      intro n
      show QMap.value? (t.chat.timers.erase timer) n = _ ∨ _ ∧
        QMap.value? (t.chat.timers.erase timer) n = none
      rw [QMap.value?_erase]
      split_ifs with hn
      · rw [← hn]
        exact .inr ⟨h.ack a timer hentry, rfl⟩
      · exact .inl rfl

lemma ownTimers_clearTyping (h : OwnTimers t.chat) (p : String) :
    OwnTimers (t.clearTyping p).chat := by
  rw [clearTyping]
  cases hentry : t.chat.m_peerTypingTimers.value? p with
  | none => exact h
  | some timer => exact ownTimers_typing h hentry rfl rfl (fun k => QMap.value?_erase _ _ _) rfl

lemma ownTimers_onSocketDisconnected (h : OwnTimers t.chat) :
    OwnTimers t.onSocketDisconnected.chat := by
  rw [onSocketDisconnected]
  generalize t.chat.m_peerTypingTimers.keys = peers
  induction peers generalizing t with
  | nil => exact h
  | cons peer peers ih => exact ih (ownTimers_clearTyping h peer)

lemma ownTimers_onTypingIndicator (h : OwnTimers t.chat) (typing : TypingIndicator) :
    OwnTimers (t.onTypingIndicator typing).chat := by
  simp only [onTypingIndicator]
  split_ifs
  · cases hentry : t.chat.m_peerTypingTimers.value? typing.senderDeviceId with
    | none =>
        constructor
        · exact fun n hn => h.fresh_start hn _
        · exact fun a n hack => h.value?_start (h.ack a n hack) _
        · intro p n
          show QMap.value? (t.chat.m_peerTypingTimers.insert typing.senderDeviceId
              t.chat.nextTimer) p = some n ↔
            QMap.value? (t.chat.timers.insert t.chat.nextTimer
              (.typingExpiry typing.senderDeviceId)) n = some (.typingExpiry p)
          rw [QMap.value?_insert, QMap.value?_insert]
          by_cases hp : typing.senderDeviceId = p
          · subst hp
            rw [if_pos rfl, Option.some.injEq]
            split_ifs with hn
            · exact iff_of_true hn rfl
            · rw [← h.typing, hentry]
              exact iff_of_false hn (by simp)
          · rw [if_neg hp, h.typing]
            split_ifs with hn
            · rw [← hn, h.fresh _ le_rfl]
              exact iff_of_false (by simp) (by simpa using hp)
            · rfl
    | some timer =>
        -- the timer is running already
        have htask := (h.typing _ _).mp hentry
        have hsame : ∀ n, QMap.value? (t.chat.timers.insert timer
            (.typingExpiry typing.senderDeviceId)) n = t.chat.timers.value? n := by
          intro n
          rw [QMap.value?_insert]
          split_ifs with hn
          · rw [← hn, htask]
          · rfl
        exact ⟨fun n hn => (hsame n).trans (h.fresh n hn),
          fun a n hack => (hsame n).trans (h.ack a n hack),
          fun p n => (h.typing p n).trans (by rw [hsame])⟩
  · exact ownTimers_clearTyping h _

/-- A timer that expires is no longer running, and its entry goes. -/
lemma ownTimers_timeout (h : OwnTimers t.chat) (timer : ℕ) :
    OwnTimers (t.timeout timer).chat := by
  rw [timeout]
  cases htask : t.chat.timers.value? timer with
  | none => exact h
  | some task =>
      cases task with
      | typingExpiry p =>
          have hentry := (h.typing p timer).mpr htask
          dsimp only
          rw [clearTyping, hentry]
          refine ownTimers_typing h hentry rfl rfl (fun k => ?_) rfl
          show QMap.value? ((t.chat.timers.erase timer).erase timer) k = _
          rw [QMap.value?_erase, QMap.value?_erase]
          split_ifs <;> rfl
      | ackTimeout a =>
          dsimp only
          rw [ackTimeout, stopAckTimer]
          have hclocks := clocks_failUnanswered
            { t with chat.timers := t.chat.timers.erase timer } a
          generalize ChatTurn.failUnanswered a _ = failed at hclocks ⊢
          simp only [clocks, Prod.mk.injEq] at hclocks
          obtain ⟨hack, htyping, htimers, hnext⟩ := hclocks
          rw [hack]
          cases hentry : t.chat.m_ackTimers.value? a with
          | none =>
              refine ownTimers_ack (a := a) h (fun a' => ?_) htyping (fun n => ?_) hnext
              · rw [hack]
                split_ifs with ha
                · rw [← ha, hentry]
                · rfl
              · rw [htimers, QMap.value?_erase]
                split_ifs with hn
                · exact .inr ⟨by rw [← hn, htask], rfl⟩
                · exact .inl rfl
          | some timer' =>
              have htask' := h.ack a timer' hentry
              refine ownTimers_ack (a := a) h (fun a' => ?_) htyping (fun n => ?_) hnext
              · exact QMap.value?_erase _ _ _
              · show QMap.value? (failed.chat.timers.erase timer') n = _ ∨ _ ∧
                  QMap.value? (failed.chat.timers.erase timer') n = none
                rw [htimers, QMap.value?_erase, QMap.value?_erase]
                split_ifs with hn' hn
                · exact .inr ⟨by rw [← hn', htask'], rfl⟩
                · exact .inr ⟨by rw [← hn, htask], rfl⟩
                · exact .inl rfl

end ChatTurn

/-- **Ownership of timers.** Every command keeps the maps of timers and the timers
that are running in agreement. -/
theorem ownTimers_run {t : ChatTurn} (h : OwnTimers t.chat) (cmd : ChatCommand) (io : ChatIo) :
    OwnTimers (cmd.run json io t).chat := by
  cases cmd with
  | sendMessage recipient content ip =>
      rw [ChatCommand.run]
      by_cases hs : ChatTurn.Sendable recipient content
      · simp only [ChatTurn.sendMessage, if_neg (not_lt.mpr hs.1), if_neg hs.2]
        rw [ChatTurn.chat_emit]
        have hstart : ∀ a tracked frame, OwnTimers (((((t.connectIfNeeded io ip).track a
            tracked).startAckTimer a).sendFrame frame).chat) := by
          intro a tracked frame
          rw [ChatTurn.chat_sendFrame]
          refine ChatTurn.ownTimers_startAckTimer (h.congr ?_) a
          rw [ChatTurn.clocks_track, ChatTurn.chat_connectIfNeeded]
        split_ifs
        · exact (hstart _ _ _).congr (ChatTurn.clocks_setMessageState _ _ _)
        · exact hstart _ _ _
      · obtain ⟨error, hrefused⟩ := t.sendMessage_refused json io recipient content ip hs
        rw [hrefused]
        exact h
  | sendReadReceipt messageId ip =>
      rw [ChatCommand.run, ChatTurn.chat_sendReadReceipt]
      exact h
  | sendTypingNotification recipient isTyping ip =>
      exact h.congr (ChatTurn.clocks_sendTypingNotification json io t recipient isTyping ip)
  | chatMessage msg =>
      simp only [ChatCommand.run, ChatTurn.onChatMessage]
      split_ifs
      · rw [ChatTurn.chat_acknowledge]
        exact h.congr rfl
      · rw [ChatTurn.chat_acknowledge, ChatTurn.chat_emit]
        refine ChatTurn.ownTimers_clearTyping ?_ _
        exact h.congr rfl
  | messageAck ack =>
      simp only [ChatCommand.run, ChatTurn.onMessageAck]
      split_ifs
      · rw [ChatTurn.chat_emit, ChatTurn.chat_emit]
        exact (ChatTurn.ownTimers_stopAckTimer h _).congr (ChatTurn.clocks_setMessageState _ _ _)
      · exact h
  | typingIndicator typing => exact ChatTurn.ownTimers_onTypingIndicator h typing
  | timeout timer => exact ChatTurn.ownTimers_timeout h timer
  | typingStopTimeout => exact h.congr (ChatTurn.clocks_typingStopTimeout json io t)
  | disconnected => exact ChatTurn.ownTimers_onSocketDisconnected h
  | nothing => exact h

lemma ownTimers_start (deviceId : String) (m_socket : Bool) :
    OwnTimers { deviceId, m_socket } := by
  constructor
  · exact fun n _ => QMap.value?_empty n
  · intro a n h
    rw [QMap.value?_empty] at h
    cases h
  · intro p n
    rw [QMap.value?_empty, QMap.value?_empty]
    simp

lemma ownTimers_step (h : OwnTimers c) (e : ChatEvent × ChatIo) :
    OwnTimers ((machine json).step c e).1 := by
  rw [machine_step, step_eq_run]
  exact ownTimers_run json h (e.1.command json) e.2

end MeckChat.Protocol
