import MeckChat.Foundation.Alternation
import MeckChat.Protocol.ChatParts
import MeckChat.Protocol.ChatTimers

/-!
What a chat controller tells of the peers that are typing.

* `typing? p` reads what the log tells of one peer.
* `Tells` is the invariant of a turn: what was told of the peer alternates, and the
  peer has a timer exactly when the last word was that it is typing.
  `tells_clearTyping` and `tells_onTypingIndicator` are the operations that speak;
  the parts for messages and for the own typing are silent.
* `peer_typing_consistent`: over every run.
-/

namespace MeckChat.Protocol

open QJson ChatController

variable (json : JsonCodec)

/-- What a deed tells of a peer. -/
def ChatDeed.typing? (p : String) : ChatDeed → Option Bool
  | .signal (.peerTypingChanged peer isTyping) => if peer = p then some isTyping else none
  | _ => none

/-- What the log and the turn tell of a peer alternates, and agrees with its timer. -/
structure Tells (p : String) (log : List ChatDeed) (t : ChatTurn) : Prop where
  alternates : Alternates ((log ++ t.deeds).filterMap (ChatDeed.typing? p))
  last : isOn ((log ++ t.deeds).filterMap (ChatDeed.typing? p)) =
    (t.chat.m_peerTypingTimers.value? p).isSome

/-- The timer of a peer. -/
def ChatController.typingTimer (p : String) (c : ChatController) : Option ℕ :=
  c.m_peerTypingTimers.value? p

variable {p : String} {log : List ChatDeed} {t t' : ChatTurn}

lemma Tells.quiet (h : Tells p log t) (hq : Unseen (ChatDeed.typing? p) (typingTimer p) t t') :
    Tells p log t' := by
  constructor
  · rw [List.filterMap_append, hq.deeds, ← List.filterMap_append]
    exact h.alternates
  · rw [List.filterMap_append, hq.deeds, ← List.filterMap_append, h.last]
    exact congrArg Option.isSome hq.part.symm

/-- The peer is told of when its timer comes or goes. -/
lemma Tells.speak (h : Tells p log t) {b : Bool}
    (hdeeds : t'.deeds.filterMap (ChatDeed.typing? p) =
      t.deeds.filterMap (ChatDeed.typing? p) ++ [b])
    (hold : (t.chat.m_peerTypingTimers.value? p).isSome ≠ b)
    (hnew : (t'.chat.m_peerTypingTimers.value? p).isSome = b) : Tells p log t' := by
  have hlog : (log ++ t'.deeds).filterMap (ChatDeed.typing? p) =
      (log ++ t.deeds).filterMap (ChatDeed.typing? p) ++ [b] := by
    rw [List.filterMap_append, hdeeds, List.filterMap_append, List.append_assoc]
  constructor
  · rw [hlog, alternates_snoc, h.last]
    exact ⟨h.alternates, hold⟩
  · rw [hlog, isOn_snoc, hnew]

/-! ### The operations that speak -/

/-- The timer of a peer goes. -/
lemma tells_clearTyping (h : Tells p log t) (peer : String) :
    Tells p log (t.clearTyping peer) := by
  rw [ChatTurn.clearTyping]
  cases hentry : t.chat.m_peerTypingTimers.value? peer with
  | none => exact h
  | some timer =>
      by_cases hp : peer = p
      · subst hp
        refine h.speak (b := false) ?_ ?_ ?_
        · rw [ChatTurn.filterMap_emit, ChatDeed.typing?, if_pos rfl]
          rfl
        · rw [hentry]
          simp
        · rw [ChatTurn.chat_emit, QMap.value?_erase_self]
          rfl
      · refine h.quiet ⟨?_, ?_⟩
        · rw [ChatTurn.filterMap_emit, ChatDeed.typing?, if_neg hp]
          exact List.append_nil _
        · rw [ChatTurn.chat_emit]
          exact QMap.value?_erase_of_ne _ hp

lemma tells_onSocketDisconnected (h : Tells p log t) : Tells p log t.onSocketDisconnected := by
  rw [ChatTurn.onSocketDisconnected]
  generalize t.chat.m_peerTypingTimers.keys = peers
  induction peers generalizing t with
  | nil => exact h
  | cons peer peers ih => exact ih (tells_clearTyping h peer)

/-- A peer gets a timer, unless it has one. -/
lemma tells_onTypingIndicator (h : Tells p log t) (typing : TypingIndicator) :
    Tells p log (t.onTypingIndicator typing) := by
  simp only [ChatTurn.onTypingIndicator]
  split_ifs
  · cases hentry : t.chat.m_peerTypingTimers.value? typing.senderDeviceId with
    | none =>
        by_cases hp : typing.senderDeviceId = p
        · subst hp
          refine h.speak (b := true) ?_ ?_ ?_
          · rw [ChatTurn.filterMap_emit, ChatDeed.typing?, if_pos rfl]
            rfl
          · rw [hentry]
            simp
          · rw [ChatTurn.chat_emit, QMap.value?_insert_self]
            rfl
        · refine h.quiet ⟨?_, ?_⟩
          · rw [ChatTurn.filterMap_emit, ChatDeed.typing?, if_neg hp]
            exact List.append_nil _
          · rw [ChatTurn.chat_emit]
            exact QMap.value?_insert_of_ne _ hp _
    | some timer => exact h.quiet ⟨rfl, rfl⟩
  · exact tells_clearTyping h _

/-! ### Whole runs -/

lemma ignoresMessages_typing :
    IgnoresMessages json (ChatDeed.typing? p) (typingTimer p) where
  connect _ := rfl
  frame _ := rfl
  sent _ := rfl
  status _ _ := rfl
  acked _ := rfl
  error _ := rfl
  part _ _ _ _ _ := rfl

lemma ignoresTyping_typing : IgnoresTyping json (ChatDeed.typing? p) (typingTimer p) where
  connect _ := rfl
  frame _ := rfl
  part _ _ _ _ := rfl

/-- Every command keeps the invariant. -/
lemma tells_run (h : Tells p log t) (cmd : ChatCommand) (io : ChatIo) :
    Tells p log (cmd.run json io t) := by
  have hmessages : IgnoresMessages json (ChatDeed.typing? p) (typingTimer p) :=
    ignoresMessages_typing json
  have htyping : IgnoresTyping json (ChatDeed.typing? p) (typingTimer p) :=
    ignoresTyping_typing json
  cases cmd with
  | sendMessage recipient content ip => exact h.quiet (hmessages.sendMessage io recipient content ip)
  | sendReadReceipt messageId ip =>
      exact h.quiet (unseen_sendReadReceipt (fun _ => rfl) (fun _ => rfl) io messageId ip)
  | sendTypingNotification recipient isTyping ip =>
      exact h.quiet (htyping.sendTypingNotification io recipient isTyping ip)
  | chatMessage msg =>
      simp only [ChatCommand.run, ChatTurn.onChatMessage, ChatTurn.acknowledge]
      split_ifs
      · refine h.quiet (Unseen.sendFrame ?_ rfl)
        exact ⟨rfl, rfl⟩
      · refine Tells.quiet ?_ ((Unseen.refl.emit rfl).sendFrame rfl)
        refine tells_clearTyping (h.quiet ?_) msg.senderDeviceId
        exact ⟨rfl, rfl⟩
  | messageAck ack => exact h.quiet (hmessages.onMessageAck ack)
  | typingIndicator typing => exact tells_onTypingIndicator h typing
  | timeout timer =>
      have hstopped : ∀ timers, Tells p log { t with chat := { t.chat with timers } } :=
        fun _ => h.quiet ⟨rfl, rfl⟩
      rw [ChatCommand.run, ChatTurn.timeout]
      cases t.chat.timers.value? timer with
      | none => exact h
      | some task =>
          cases task with
          | ackTimeout a => exact (hstopped _).quiet (hmessages.ackTimeout a)
          | typingExpiry peer => exact tells_clearTyping (hstopped _) peer
  | typingStopTimeout => exact h.quiet (htyping.typingStopTimeout io)
  | disconnected => exact tells_onSocketDisconnected h
  | nothing => exact h

/-- **Peers that type.** In every run of a new controller, whatever arrives in
whatever order, what is told of a peer alternates and begins with `true`. A peer
counts as typing exactly when the last word was `true`; then one expiry timer of the
peer is running, and otherwise none. -/
theorem peer_typing_consistent (deviceId : String) (m_socket : Bool)
    (es : List (ChatEvent × ChatIo)) (p : String) :
    let (log, c) := (machine json).exec { deviceId, m_socket } es
    Alternates (log.filterMap (ChatDeed.typing? p)) ∧
      (c.isPeerTyping p = true ↔ (log.filterMap (ChatDeed.typing? p)).getLast? = some true) ∧
      (c.isPeerTyping p = true → ∃! n, c.timers.value? n = some (.typingExpiry p)) ∧
      (c.isPeerTyping p = false → ∀ n, c.timers.value? n ≠ some (.typingExpiry p)) := by
  generalize hexec : (machine json).exec { deviceId, m_socket } es = r
  obtain ⟨log, c⟩ := r
  have hrun := Run.exec_all (machine json) { deviceId, m_socket } es
  rw [hexec] at hrun
  have htells : Tells p log { chat := c } := by
    refine hrun.invariant_log (I := fun _ log c => Tells p log { chat := c }) ?_ ?_
    · exact ⟨alternates_nil, (congrArg Option.isSome (QMap.value?_empty p)).symm⟩
    · intro _ log c e h _
      have hstep := tells_run json h (e.1.command json) e.2
      rw [machine_step, step_eq_run]
      exact ⟨by simpa using hstep.alternates, by simpa using hstep.last⟩
  have hown : OwnTimers c := hrun.invariant (ownTimers_start deviceId m_socket)
    fun c e h _ => ownTimers_step json h e
  have hlast := htells.last
  rw [List.append_nil] at hlast
  refine ⟨by simpa using htells.alternates, ?_, ?_, ?_⟩
  · rw [← isOn_eq_true_iff, hlast]
    rfl
  · intro htyping
    obtain ⟨n, hn⟩ := Option.isSome_iff_exists.mp htyping
    refine ⟨n, (hown.typing p n).mp hn, ?_⟩
    intro k hk
    rw [← hown.typing, hn, Option.some.injEq] at hk
    exact hk.symm
  · intro htyping n hn
    rw [← hown.typing] at hn
    rw [isPeerTyping, hn] at htyping
    cases htyping

end MeckChat.Protocol
