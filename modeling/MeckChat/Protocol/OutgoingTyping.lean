import MeckChat.Foundation.Alternation
import MeckChat.Protocol.ChatParts

/-!
The typing notifications that a chat controller sends.

* `typingTo? r` reads the frames that tell `r` something.
* `SameRecipient` allows a call while the controller counts as typing only for the
  recipient that was told so; `Pairs` is the invariant that it keeps
  (`pairs_sendTypingNotification`).
* `typing_pairs_up`: in runs of such calls every recipient is told by turns, and is
  told to stop.
* `typing_for_two`: with a second recipient one of them is left typing, and the other
  is told to stop what it never began.
-/

namespace MeckChat.Protocol

open QJson ChatController

variable (json : JsonCodec)

/-- What a deed tells the device `r` about the own typing. -/
def ChatDeed.typingTo? (r : String) : ChatDeed → Option Bool
  | .sendFrame frame =>
      if frame.type = .TypingIndicator then
        (payloadObject json frame.payload).bind fun o =>
          if toString (o.value? "recipient_device_id") = r then
            some (QJson.toBool (o.value? "is_typing"))
          else none
      else none
  | _ => none

/-- What of a controller concerns the own typing. -/
def ChatController.ownTyping (c : ChatController) : Bool × String :=
  (c.m_localIsTyping, c.m_lastTypingRecipient)

/-- A call for another recipient comes only when nobody is told that one is typing. -/
def SameRecipient (c : ChatController) (e : ChatEvent × ChatIo) : Prop :=
  ∀ recipient isTyping ip, e.1 = .sendTypingNotification recipient isTyping ip →
    recipient ≠ "" → c.m_localIsTyping = true → recipient = c.m_lastTypingRecipient

/-- What the log and the turn tell a recipient alternates, and it is told that one is
typing exactly while that is so. -/
structure Pairs (r : String) (log : List ChatDeed) (t : ChatTurn) : Prop where
  named : t.chat.m_localIsTyping = true → t.chat.m_lastTypingRecipient ≠ ""
  alternates : Alternates ((log ++ t.deeds).filterMap (ChatDeed.typingTo? json r))
  last : isOn ((log ++ t.deeds).filterMap (ChatDeed.typingTo? json r)) =
    (t.chat.m_localIsTyping && t.chat.m_lastTypingRecipient == r)

variable {r : String} {log : List ChatDeed} {t t' : ChatTurn} {io : ChatIo}

lemma typingTo?_typingFrame (deviceId recipient : String) (isTyping : Bool) :
    ChatDeed.typingTo? json r (.sendFrame (typingFrame json io deviceId recipient isTyping)) =
      if recipient = r then some isTyping else none := by
  rw [ChatDeed.typingTo?, typingFrame, type_jsonFrame, if_pos rfl, payloadObject_jsonFrame,
    Option.bind_some]
  simp [TypingIndicator.toJson, QMap.value?_insert]

/-! ### The other parts of the controller -/

lemma typingTo?_of_ne {type : FrameType} (htype : type ≠ .TypingIndicator) (o : JsonObject) :
    ChatDeed.typingTo? json r (.sendFrame (jsonFrame json type o)) = none := by
  rw [ChatDeed.typingTo?, type_jsonFrame, if_neg htype]

lemma ignoresMessages_typingTo :
    IgnoresMessages json (ChatDeed.typingTo? json r) ownTyping where
  connect _ := rfl
  frame := typingTo?_of_ne json (by decide)
  sent _ := rfl
  status _ _ := rfl
  acked _ := rfl
  error _ := rfl
  part _ _ _ _ _ := rfl

lemma ignoresPeers_typingTo : IgnoresPeers json (ChatDeed.typingTo? json r) ownTyping where
  frame := typingTo?_of_ne json (by decide)
  received _ := rfl
  typing _ _ := rfl
  part _ _ _ _ _ := rfl

variable {json}

lemma Pairs.unseen (h : Pairs json r log t)
    (hq : Unseen (ChatDeed.typingTo? json r) ownTyping t t') : Pairs json r log t' := by
  have hpart := hq.part
  rw [ownTyping, ownTyping, Prod.mk.injEq] at hpart
  obtain ⟨htyping, hrecipient⟩ := hpart
  constructor
  · rw [htyping, hrecipient]
    exact h.named
  · rw [List.filterMap_append, hq.deeds, ← List.filterMap_append]
    exact h.alternates
  · rw [List.filterMap_append, hq.deeds, ← List.filterMap_append, htyping, hrecipient]
    exact h.last

/-! ### A call -/

variable (json t io) in
lemma ownTyping_sendTypingNotification {recipient : String} (hrecipient : recipient ≠ "")
    (isTyping : Bool) (ip : String) :
    (t.sendTypingNotification json io recipient isTyping ip).chat.ownTyping =
      (isTyping, recipient) := by
  rw [ChatTurn.sendTypingNotification, if_neg hrecipient]
  cases isTyping with
  | true => cases hlocal : t.chat.m_localIsTyping <;> simp [ownTyping, hlocal]
  | false => cases hlocal : t.chat.m_localIsTyping <;> simp [ownTyping, hlocal]

variable (json r io) in
/-- A recipient is told when the state changes. -/
lemma filterMap_typingTo {recipient : String} (hrecipient : recipient ≠ "")
    (hsocket : t.chat.m_socket = true) (isTyping : Bool) (ip : String) :
    (t.sendTypingNotification json io recipient isTyping ip).deeds.filterMap
        (ChatDeed.typingTo? json r) =
      t.deeds.filterMap (ChatDeed.typingTo? json r) ++
        if t.chat.m_localIsTyping ≠ isTyping ∧ recipient = r then [isTyping] else [] := by
  rw [ChatTurn.filterMap_sendTypingNotification json _ io t recipient ip hrecipient, hsocket,
    typingTo?_typingFrame]
  by_cases hchange : t.chat.m_localIsTyping ≠ isTyping
  · rw [if_pos hchange]
    by_cases hr : recipient = r
    · rw [if_pos hr, if_pos ⟨hchange, hr⟩]
      simp [ChatDeed.typingTo?]
    · rw [if_neg hr, if_neg fun h => hr h.2]
      simp [ChatDeed.typingTo?]
  · rw [if_neg hchange, if_neg fun h => hchange h.1]

/-- A call for the recipient that counts as told keeps the invariant. -/
lemma pairs_sendTypingNotification (h : Pairs json r log t) (hsocket : t.chat.m_socket = true)
    {recipient : String}
    (hsame : recipient ≠ "" → t.chat.m_localIsTyping = true →
      recipient = t.chat.m_lastTypingRecipient) (isTyping : Bool) (ip : String) :
    Pairs json r log (t.sendTypingNotification json io recipient isTyping ip) := by
  by_cases hrecipient : recipient = ""
  · rw [ChatTurn.sendTypingNotification, if_pos hrecipient]
    exact h
  have hsame := hsame hrecipient
  have hdeeds := filterMap_typingTo json r io hrecipient hsocket
    isTyping ip
  have hpart := ownTyping_sendTypingNotification json t io hrecipient
    isTyping ip
  generalize t.sendTypingNotification json io recipient isTyping ip = t' at hdeeds hpart ⊢
  rw [ownTyping, Prod.mk.injEq] at hpart
  obtain ⟨htyping, hlast⟩ := hpart
  have halternates := h.alternates
  have hon := h.last
  have hlog : (log ++ t'.deeds).filterMap (ChatDeed.typingTo? json r) =
      (log ++ t.deeds).filterMap (ChatDeed.typingTo? json r) ++
        if t.chat.m_localIsTyping ≠ isTyping ∧ recipient = r then [isTyping] else [] := by
    rw [List.filterMap_append, hdeeds, List.filterMap_append, List.append_assoc]
  refine ⟨fun _ => by rwa [hlast], ?_, ?_⟩
  · rw [hlog]
    split_ifs with htold
    · rw [alternates_snoc, hon]
      refine ⟨halternates, ?_⟩
      obtain ⟨hchange, rfl⟩ := htold
      cases hlocal : t.chat.m_localIsTyping with
      | false =>
          rw [hlocal] at hchange
          simpa using hchange
      | true =>
          -- the one that was told is told to stop
          rw [hlocal] at hchange
          rw [hsame hlocal]
          simpa using hchange
    · rw [List.append_nil]
      exact halternates
  · rw [hlog, htyping, hlast]
    split_ifs with htold
    · obtain ⟨-, rfl⟩ := htold
      rw [isOn_snoc]
      simp
    · rw [List.append_nil, hon]
      cases hlocal : t.chat.m_localIsTyping with
      | false =>
          rw [hlocal] at htold
          cases isTyping with
          | false => rfl
          | true => simpa using htold
      | true =>
          rw [hlocal] at htold
          rw [← hsame hlocal]
          cases isTyping with
          | true => rfl
          | false => simpa using htold

variable (json) in
/-- Every command keeps the invariant. -/
lemma pairs_run (h : Pairs json r log t) (hsocket : t.chat.m_socket = true) (cmd : ChatCommand)
    (hsame : ∀ recipient isTyping ip, cmd = .sendTypingNotification recipient isTyping ip →
      recipient ≠ "" → t.chat.m_localIsTyping = true →
        recipient = t.chat.m_lastTypingRecipient) (io : ChatIo) :
    Pairs json r log (cmd.run json io t) := by
  have hmessages : IgnoresMessages json (ChatDeed.typingTo? json r) ownTyping :=
    ignoresMessages_typingTo json
  have hpeers : IgnoresPeers json (ChatDeed.typingTo? json r) ownTyping :=
    ignoresPeers_typingTo json
  cases cmd with
  | sendMessage recipient content ip =>
      exact h.unseen (hmessages.sendMessage io recipient content ip)
  | sendReadReceipt messageId ip =>
      exact h.unseen (unseen_sendReadReceipt hmessages.connect hpeers.frame io messageId ip)
  | sendTypingNotification recipient isTyping ip =>
      exact pairs_sendTypingNotification h hsocket (hsame recipient isTyping ip rfl) isTyping ip
  | chatMessage msg => exact h.unseen (hpeers.onChatMessage io msg)
  | messageAck ack => exact h.unseen (hmessages.onMessageAck ack)
  | typingIndicator typing => exact h.unseen (hpeers.onTypingIndicator typing)
  | timeout timer =>
      have hstopped : ∀ timers, Pairs json r log { t with chat := { t.chat with timers } } :=
        fun _ => h.unseen ⟨rfl, rfl⟩
      rw [ChatCommand.run, ChatTurn.timeout]
      cases t.chat.timers.value? timer with
      | none => exact h
      | some task =>
          cases task with
          | ackTimeout a => exact (hstopped _).unseen (hmessages.ackTimeout a)
          | typingExpiry peer => exact (hstopped _).unseen (hpeers.clearTyping peer)
  | typingStopTimeout =>
      have hstopped : Pairs json r log
          { t with chat := { t.chat with m_localTypingStopTimer := false } } :=
        h.unseen ⟨rfl, rfl⟩
      simp only [ChatCommand.run, ChatTurn.typingStopTimeout]
      split_ifs
      · refine pairs_sendTypingNotification hstopped hsocket ?_ false ""
        exact fun _ _ => rfl
      · exact hstopped
      · exact h
  | disconnected => exact h.unseen hpeers.onSocketDisconnected
  | nothing => exact h

/-! ### Whole runs -/

lemma ChatEvent.command_eq_sendTypingNotification {event : ChatEvent} {recipient ip : String}
    {isTyping : Bool} (h : event.command json = .sendTypingNotification recipient isTyping ip) :
    event = .sendTypingNotification recipient isTyping ip := by
  cases event with
  | sendTypingNotification r b i =>
      cases h
      rfl
  | frameReceivedFrom frame i => exact absurd h (command_frame_ne rfl)
  | _ => cases h

/-- What is told in a step. -/
abbrev told (json : JsonCodec) (r : String) (log : List ChatDeed) : List Bool :=
  log.filterMap (ChatDeed.typingTo? json r)

/-- **Typing notifications pair up.** In every run of a new controller whose calls,
while it counts as typing, are for the recipient that was told so, whatever happens
between them: what a recipient is told alternates and begins with `true`, nobody is
left typing when the controller does not count as typing, and a call with `true` for a
recipient that was not told so tells it. -/
theorem typing_pairs_up {deviceId : String} {es : List (ChatEvent × ChatIo)} {c : ChatController}
    (hrun : Run (machine json) SameRecipient { deviceId } es log c) (r : String) :
    Alternates (told json r log) ∧
      (c.m_localIsTyping = false → (told json r log).getLast? ≠ some true) ∧
      ∀ ip io, r ≠ "" → SameRecipient c (.sendTypingNotification r true ip, io) →
        (told json r log).getLast? ≠ some true →
        told json r (c.step json (.sendTypingNotification r true ip) io).2 = [true] := by
  have hinv : c.m_socket = true ∧ Pairs json r log { chat := c } := by
    refine hrun.invariant_log
      (I := fun _ log c => c.m_socket = true ∧ Pairs json r log { chat := c }) ?_ ?_
    · exact ⟨rfl, fun h => Bool.noConfusion h, alternates_nil, rfl⟩
    · rintro es log c e ⟨hsocket, h⟩ hsame
      rw [machine_step, step_eq_run]
      refine ⟨(m_socket_run _ _ _).trans hsocket, ?_⟩
      have hstep := pairs_run json h hsocket (e.1.command json)
        (fun recipient isTyping ip hcmd => hsame recipient isTyping ip
          (ChatEvent.command_eq_sendTypingNotification hcmd)) e.2
      exact ⟨hstep.named, by simpa using hstep.alternates, by simpa using hstep.last⟩
  obtain ⟨hsocket, hpairs⟩ := hinv
  have hlast := hpairs.last
  rw [List.append_nil] at hlast
  refine ⟨by simpa using hpairs.alternates, ?_, ?_⟩
  · intro hlocal
    rw [ne_eq, ← isOn_eq_true_iff, hlast, hlocal]
    exact Bool.false_ne_true
  · intro ip io hr hsame hoff
    rw [ne_eq, ← isOn_eq_true_iff, hlast] at hoff
    have hlocal : c.m_localIsTyping = false := by
      cases hlocal : c.m_localIsTyping with
      | false => rfl
      | true => exact absurd (by simp [hlocal, hsame r true ip rfl hr hlocal]) hoff
    rw [step_eq_run]
    show ((ChatTurn.sendTypingNotification json io r true ip { chat := c }).deeds.filterMap
      (ChatDeed.typingTo? json r)) = _
    rw [filterMap_typingTo _ _ _ hr hsocket, if_pos ⟨by rw [hlocal]; decide, rfl⟩]
    rfl

/-! ### Two recipients -/

/-- The user types for a device. -/
def typesFor (recipient : String) : ChatEvent × ChatIo :=
  (.sendTypingNotification recipient true "", {})

/-- The user pauses. -/
def pauses : ChatEvent × ChatIo := (.typingStopTimeout, {})

/-- Typing for one device and pausing: it is told both. -/
theorem typing_pairs_up_one :
    let r := (machine compact).exec { deviceId := "mc_alice" } [typesFor "mc_bob", pauses]
    Alternates (told compact "mc_bob" r.1) ∧
      (told compact "mc_bob" r.1).getLast? ≠ some true := by
  have hallows : (machine compact).Allows SameRecipient { deviceId := "mc_alice" }
      [typesFor "mc_bob", pauses] := by
    refine ⟨fun _ _ _ h => ?_, fun _ _ _ h => ?_, trivial⟩
    · intro _ hlocal
      cases hlocal
    · cases h
  obtain ⟨halternates, hstopped, -⟩ := typing_pairs_up (Run.exec hallows) "mc_bob"
  exact ⟨halternates, hstopped rfl⟩

/-- The user goes over to a second device before the pause: the first one is never
told to stop, and the second one is told to stop what it never began. -/
theorem typing_for_two :
    let r := (machine compact).exec { deviceId := "mc_alice" }
      [typesFor "mc_bob", typesFor "mc_carol", pauses]
    told compact "mc_bob" r.1 = [true] ∧ told compact "mc_carol" r.1 = [false] ∧
      ¬ Alternates (told compact "mc_carol" r.1) ∧ r.2.m_localIsTyping = false := by
  have hbob : told compact "mc_bob" ((machine compact).exec { deviceId := "mc_alice" }
      [typesFor "mc_bob", typesFor "mc_carol", pauses]).1 = [true] := by
    simp [told, Machine.exec, machine_step, step, react, typesFor, pauses,
      ChatTurn.sendTypingNotification, ChatTurn.typingStopTimeout, ChatTurn.connectIfNeeded,
      ChatTurn.sendFrame, ChatTurn.log, typingTo?_typingFrame]
  have hcarol : told compact "mc_carol" ((machine compact).exec { deviceId := "mc_alice" }
      [typesFor "mc_bob", typesFor "mc_carol", pauses]).1 = [false] := by
    simp [told, Machine.exec, machine_step, step, react, typesFor, pauses,
      ChatTurn.sendTypingNotification, ChatTurn.typingStopTimeout, ChatTurn.connectIfNeeded,
      ChatTurn.sendFrame, ChatTurn.log, typingTo?_typingFrame]
  refine ⟨hbob, hcarol, ?_, rfl⟩
  rw [hcarol]
  decide

end MeckChat.Protocol
