import MeckChat.Protocol.ChatNetwork

/-!
A chat controller has three parts that do not see each other: the messages it sent,
the peers it hears from, and its own typing.

* `Unseen f g t t'` says that neither the reader `f` of deeds nor the part `g` of the
  controller notices what happened between two turns.
* `IgnoresMessages`, `IgnoresPeers` and `IgnoresTyping` say that `f` and `g` have
  nothing to do with a part. Each has a lemma for every operation of that part.
-/

namespace MeckChat.Protocol

open QJson

variable {json : JsonCodec} {β γ : Type} {f : ChatDeed → Option β} {g : ChatController → γ}
  {t t' t'' : ChatTurn}

/-- What `f` reads of the deeds, and `g` of the controller, is the same behind `t'` as
it was behind `t`. -/
structure Unseen (f : ChatDeed → Option β) (g : ChatController → γ) (t t' : ChatTurn) : Prop where
  deeds : t'.deeds.filterMap f = t.deeds.filterMap f
  part : g t'.chat = g t.chat

namespace Unseen

lemma refl : Unseen f g t t := ⟨rfl, rfl⟩

lemma trans (h : Unseen f g t t') (h' : Unseen f g t' t'') : Unseen f g t t'' :=
  ⟨h'.deeds.trans h.deeds, h'.part.trans h.part⟩

lemma emit (h : Unseen f g t t') {s : ChatSignal} (hs : f (.signal s) = none) :
    Unseen f g t (t'.emit s) :=
  h.trans ⟨by rw [ChatTurn.filterMap_emit, hs]; simp, rfl⟩

lemma sendFrame (h : Unseen f g t t') {frame : P2PFrame} (hframe : f (.sendFrame frame) = none) :
    Unseen f g t (t'.sendFrame frame) :=
  h.trans ⟨by rw [ChatTurn.filterMap_sendFrame, hframe]; simp, by rw [ChatTurn.chat_sendFrame]⟩

lemma connectIfNeeded (h : Unseen f g t t') (hconnect : ∀ ip, f (.connectToPeer ip) = none)
    (io : ChatIo) (ip : String) : Unseen f g t (t'.connectIfNeeded io ip) :=
  h.trans ⟨by rw [ChatTurn.filterMap_connectIfNeeded, hconnect]; simp,
    by rw [ChatTurn.chat_connectIfNeeded]⟩

end Unseen

/-- A read receipt concerns none of the parts. -/
lemma unseen_sendReadReceipt (hconnect : ∀ ip, f (.connectToPeer ip) = none)
    (hframe : ∀ o, f (.sendFrame (jsonFrame json .MessageAck o)) = none) (io : ChatIo)
    (messageId ip : String) : Unseen f g t (t.sendReadReceipt json io messageId ip).1 := by
  rw [ChatTurn.sendReadReceipt]
  split_ifs
  · exact .refl
  · exact (Unseen.refl.connectIfNeeded hconnect io ip).sendFrame (hframe _)

/-! ### The messages that were sent -/

variable (json f g) in
/-- `f` and `g` have nothing to do with the messages that were sent. -/
structure IgnoresMessages : Prop where
  connect : ∀ ip, f (.connectToPeer ip) = none
  frame : ∀ o, f (.sendFrame (jsonFrame json .ChatMessage o)) = none
  sent : ∀ a, f (.signal (.messageSent a)) = none
  status : ∀ a s, f (.signal (.messageStatusChanged a s)) = none
  acked : ∀ ack, f (.signal (.messageAckReceived ack)) = none
  error : ∀ text, f (.signal (.chatErrorOccurred text)) = none
  part : ∀ c messages ackTimers timers nextTimer,
    g { c with
      m_outgoingMessages := messages, m_ackTimers := ackTimers, timers, nextTimer } = g c

namespace IgnoresMessages

variable (h : IgnoresMessages json f g)

include h

lemma track (a : String) (tracked : TrackedMessage) : Unseen f g t (t.track a tracked) :=
  ⟨rfl, h.part t.chat _ t.chat.m_ackTimers t.chat.timers t.chat.nextTimer⟩

lemma setMessageState (a : String) (state : MessageState) :
    Unseen f g t (t.setMessageState a state) := by
  rw [ChatTurn.setMessageState]
  cases t.chat.m_outgoingMessages.value? a with
  | none => exact .refl
  | some tracked => exact h.track _ _

lemma startAckTimer (a : String) : Unseen f g t (t.startAckTimer a) :=
  ⟨rfl, h.part t.chat t.chat.m_outgoingMessages _ _ _⟩

lemma stopAckTimer (a : String) : Unseen f g t (t.stopAckTimer a) := by
  rw [ChatTurn.stopAckTimer]
  cases t.chat.m_ackTimers.value? a with
  | none => exact .refl
  | some timer =>
      exact ⟨rfl, h.part t.chat t.chat.m_outgoingMessages _ _ t.chat.nextTimer⟩

lemma sendMessage (io : ChatIo) (recipient content ip : String) :
    Unseen f g t (t.sendMessage json io recipient content ip).1 := by
  simp only [ChatTurn.sendMessage]
  have hsent : ∀ a tracked o, Unseen f g t (((((t.connectIfNeeded io ip).track a
      tracked).startAckTimer a).sendFrame (jsonFrame json .ChatMessage o))) := by
    intro a tracked o
    refine Unseen.sendFrame ?_ (h.frame o)
    exact ((Unseen.refl.connectIfNeeded h.connect io ip).trans (h.track a tracked)).trans
      (h.startAckTimer a)
  split_ifs
  · exact Unseen.refl.emit (h.error _)
  · exact Unseen.refl.emit (h.error _)
  · exact ((hsent _ _ _).trans (h.setMessageState _ _)).emit (h.sent _)
  · exact (hsent _ _ _).emit (h.sent _)

lemma onMessageAck (ack : MessageAck) : Unseen f g t (t.onMessageAck ack) := by
  simp only [ChatTurn.onMessageAck]
  split_ifs
  · refine Unseen.emit (Unseen.emit ?_ (h.status _ _)) (h.acked ack)
    exact (h.stopAckTimer _).trans (h.setMessageState _ _)
  · exact Unseen.refl.emit (h.acked ack)

lemma ackTimeout (a : String) : Unseen f g t (t.ackTimeout a) := by
  rw [ChatTurn.ackTimeout, ChatTurn.failUnanswered]
  split
  · split_ifs
    · exact ((h.setMessageState _ _).emit (h.status _ _)).trans (h.stopAckTimer a)
    · exact h.stopAckTimer a
  · exact h.stopAckTimer a

end IgnoresMessages

/-! ### The peers -/

variable (json f g) in
/-- `f` and `g` have nothing to do with the peers and what they send. -/
structure IgnoresPeers : Prop where
  frame : ∀ o, f (.sendFrame (jsonFrame json .MessageAck o)) = none
  received : ∀ m, f (.signal (.messageReceived m)) = none
  typing : ∀ peer isTyping, f (.signal (.peerTypingChanged peer isTyping)) = none
  part : ∀ c cache peerTimers timers nextTimer,
    g { c with
      m_receivedMessageCache := cache, m_peerTypingTimers := peerTimers, timers, nextTimer } =
        g c

namespace IgnoresPeers

variable (h : IgnoresPeers json f g)

include h

lemma clearTyping (peer : String) : Unseen f g t (t.clearTyping peer) := by
  rw [ChatTurn.clearTyping]
  cases t.chat.m_peerTypingTimers.value? peer with
  | none => exact .refl
  | some timer =>
      refine Unseen.emit ?_ (h.typing peer false)
      exact ⟨rfl, h.part t.chat t.chat.m_receivedMessageCache _ _ t.chat.nextTimer⟩

lemma onSocketDisconnected : Unseen f g t t.onSocketDisconnected := by
  rw [ChatTurn.onSocketDisconnected]
  generalize t.chat.m_peerTypingTimers.keys = peers
  induction peers generalizing t with
  | nil => exact .refl
  | cons peer peers ih => exact (h.clearTyping peer).trans ih

lemma onTypingIndicator (typing : TypingIndicator) : Unseen f g t (t.onTypingIndicator typing) := by
  simp only [ChatTurn.onTypingIndicator]
  split_ifs
  · cases t.chat.m_peerTypingTimers.value? typing.senderDeviceId with
    | none =>
        refine Unseen.emit ?_ (h.typing typing.senderDeviceId true)
        exact ⟨rfl, h.part t.chat t.chat.m_receivedMessageCache _ _ _⟩
    | some timer =>
        exact ⟨rfl, h.part t.chat t.chat.m_receivedMessageCache t.chat.m_peerTypingTimers _
          t.chat.nextTimer⟩
  · exact h.clearTyping _

lemma onChatMessage (io : ChatIo) (msg : ChatMessage) :
    Unseen f g t (t.onChatMessage json io msg) := by
  have hcache : ∀ cache,
      Unseen f g t { t with chat := { t.chat with m_receivedMessageCache := cache } } :=
    fun cache => ⟨rfl, h.part t.chat cache t.chat.m_peerTypingTimers t.chat.timers
      t.chat.nextTimer⟩
  simp only [ChatTurn.onChatMessage, ChatTurn.acknowledge]
  split_ifs
  · exact (hcache _).sendFrame (h.frame _)
  · exact (((hcache _).trans (h.clearTyping _)).emit (h.received _)).sendFrame (h.frame _)

end IgnoresPeers

/-! ### The own typing -/

variable (json f g) in
/-- `f` and `g` have nothing to do with the own typing. -/
structure IgnoresTyping : Prop where
  connect : ∀ ip, f (.connectToPeer ip) = none
  frame : ∀ o, f (.sendFrame (jsonFrame json .TypingIndicator o)) = none
  part : ∀ c stopTimer recipient isTyping,
    g { c with
      m_localTypingStopTimer := stopTimer
      m_lastTypingRecipient := recipient
      m_localIsTyping := isTyping } = g c

namespace IgnoresTyping

variable (h : IgnoresTyping json f g)

include h

lemma sendTypingNotification (io : ChatIo) (recipient : String) (isTyping : Bool) (ip : String) :
    Unseen f g t (t.sendTypingNotification json io recipient isTyping ip) := by
  have hpart : ∀ (t : ChatTurn) stopTimer recipient isTyping, Unseen f g t { t with
      chat := { t.chat with
        m_localTypingStopTimer := stopTimer
        m_lastTypingRecipient := recipient
        m_localIsTyping := isTyping } } := fun t _ _ _ => ⟨rfl, h.part t.chat _ _ _⟩
  simp only [ChatTurn.sendTypingNotification]
  split_ifs
  · exact .refl
  · refine Unseen.trans ?_ (hpart _ true _ _)
    refine Unseen.sendFrame (Unseen.connectIfNeeded ?_ h.connect io ip) (h.frame _)
    exact hpart t t.chat.m_localTypingStopTimer recipient true
  · exact hpart t _ _ t.chat.m_localIsTyping
  · exact (hpart t _ _ _).sendFrame (h.frame _)
  · exact hpart t t.chat.m_localTypingStopTimer _ t.chat.m_localIsTyping

lemma typingStopTimeout (io : ChatIo) : Unseen f g t (t.typingStopTimeout json io) := by
  simp only [ChatTurn.typingStopTimeout]
  have hstop : Unseen f g t { t with chat := { t.chat with m_localTypingStopTimer := false } } :=
    ⟨rfl, h.part t.chat _ t.chat.m_lastTypingRecipient t.chat.m_localIsTyping⟩
  split_ifs
  · exact hstop.trans (h.sendTypingNotification io _ false "")
  · exact hstop
  · exact .refl

end IgnoresTyping

end MeckChat.Protocol
