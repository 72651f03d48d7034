import MeckChat.Network.SteadyConnection
import MeckChat.Protocol.Destinations
import MeckChat.Protocol.MessageStatus

/-!
A chat controller and its socket over whole runs.

* `ChatSession` is the controller with its socket. What the controller asks of the socket
  is carried out, and `ChatSession.answers` is what the socket answers. The session also
  remembers which frames `sendFrame` took, which messages were sent while nobody was
  connected, and what was enqueued on the current connection.
* `Careful` is the condition on the steps, `Truthful` the invariant, and
  `truthful_sending` the result.
-/

namespace MeckChat.Network

open MeckChat.Protocol

/-- The frames that the calls send, with the answers of `sendFrame`. -/
def SocketTurn.sends (io : SocketCall → SocketIo) :
    List SocketCall → SocketTurn → List (P2PFrame × Bool)
  | [], _ => []
  | .connectToPeer ip :: calls, t => sends io calls (t.connectToPeer (io (.connectToPeer ip)) ip)
  | .sendFrame f :: calls, t =>
      (f, (t.sendFrame (io (.sendFrame f)) f).2) ::
        sends io calls (t.sendFrame (io (.sendFrame f)) f).1

/-- Whether `sendFrame` takes a frame: the client connection is in use and its queue has
room, or it is not in use and an accepted connection is open. -/
def P2PSocket.Takes (s : P2PSocket) (frame : P2PFrame) : Prop :=
  s.clientReady = true ∧ s.m_queuedBytes + frame.encode.length ≤ MAX_OUTGOING_QUEUE_SIZE ∨
    s.clientReady = false ∧ s.openClients ≠ []

lemma SocketTurn.sendFrame_snd {t : SocketTurn} (io : SocketIo) {frame : P2PFrame}
    (h : t.socket.Takes frame) : (t.sendFrame io frame).2 = true := by
  rcases h with ⟨hready, hroom⟩ | ⟨hready, hopen⟩
  · rw [sendFrame, if_pos hready, if_pos hroom]
  · rw [sendFrame, if_neg (by rw [hready]; decide)]
    cases hclients : t.socket.openClients with
    | nil => exact absurd hclients hopen
    | cons c cs => rfl

lemma SocketTurn.sendFrame_snd_false {t : SocketTurn} (io : SocketIo) {frame : P2PFrame}
    (h : ¬ t.socket.Takes frame) : (t.sendFrame io frame).2 = false := by
  rw [sendFrame]
  split_ifs with hready hroom
  · exact absurd (Or.inl ⟨hready, hroom⟩) h
  · rfl
  · rw [Bool.not_eq_true] at hready
    have hnone : t.socket.openClients = [] := not_not.mp fun hopen => h (Or.inr ⟨hready, hopen⟩)
    rw [hnone]
    rfl

namespace SocketTurn

variable {t : SocketTurn}

lemma steady_perform (io : SocketCall → SocketIo) (calls : List SocketCall) :
    Steady t (t.perform io calls) := by
  induction calls generalizing t with
  | nil => exact Steady.refl t
  | cons call calls ih =>
      cases call with
      | connectToPeer ip => exact (steady_connectToPeer ip).trans ih
      | sendFrame frame => exact (steady_sendFrame frame).trans ih

/-- Sending leaves the state alone. -/
lemma m_state_sendFrame (io : SocketIo) (frame : P2PFrame) :
    (t.sendFrame io frame).1.socket.m_state = t.socket.m_state ∧
      (t.sendFrame io frame).1.socket.isConnected = t.socket.isConnected := by
  have hflush : ((t.enqueue frame).flushWriteQueue io).socket.isConnected =
      t.socket.isConnected := by
    rw [P2PSocket.isConnected, m_state_flushWriteQueue, m_serverClientBuffers_flushWriteQueue]
    rfl
  rw [sendFrame]
  split_ifs
  · exact ⟨m_state_flushWriteQueue _ _, hflush⟩
  · exact ⟨rfl, rfl⟩
  · exact ⟨rfl, rfl⟩

/-- A connection that is there at once is in use. -/
lemma clientReady_connectToPeer {io : SocketIo} {virtualIp : String}
    (h : (t.connectToPeer io virtualIp).socket.m_state = .Connected) :
    (t.connectToPeer io virtualIp).socket.clientReady = true := by
  rw [connectToPeer] at h ⊢
  obtain ⟨u, hu⟩ : ∃ u, u = (if t.socket.m_state = .Connected ∨ t.socket.m_state = .Connecting then
      t.disconnectFromPeer io else t).clearBuffers.setState .Connecting := ⟨_, rfl⟩
  have hstate : u.socket.m_state = .Connecting := by rw [hu, m_state_setState]
  rw [← hu, connectToHost] at h ⊢
  dsimp only at h ⊢
  split_ifs at h ⊢
  · exact absurd (hstate.symm.trans h) (by simp)
  · rw [P2PSocket.clientReady, h, onSocketConnected, m_socket_flushWriteQueue, log,
      m_socket_setState]
    rfl
  · exact absurd (hstate.symm.trans h) (by simp)

end SocketTurn

end MeckChat.Network

namespace MeckChat.Protocol

open Network QJson

variable (json : JsonCodec)

/-! ### The controller on its socket -/

/-- A chat controller, its socket, and what has happened on the two. -/
structure ChatSession where
  chat : ChatController
  socket : P2PSocket := {}
  /-- The frames that `sendFrame` took. -/
  accepted : List P2PFrame := []
  /-- The messages that were sent to a `peerVirtualIp` while nobody was connected, with their
  frames, since the last connection came to its end. -/
  waiting : List (String × P2PFrame) := []
  /-- What happened on the client connection. -/
  ledger : Ledger := {}

/-- An event of the controller, or one of its socket alone. A frame that the socket hands on
is an event of the controller. -/
inductive LinkEvent where
  | chat (event : ChatEvent) (io : ChatIo) (socketIo : SocketCall → SocketIo)
  | socket (event : SocketEvent) (io : SocketIo)

/-- The frame of a message. -/
def messageFrame (c : ChatController) (io : ChatIo) (recipient content : String) : P2PFrame :=
  jsonFrame json .ChatMessage ((ChatTurn.newMessage c io recipient content).toJson io.later)

namespace ChatSession

/-- What an event of the controller asks of the socket. -/
def calls (s : ChatSession) (event : ChatEvent) (io : ChatIo) : List SocketCall :=
  (s.chat.step json event { io with socketConnected := s.socket.isConnected }).2.filterMap
    ChatDeed.call?

/-- The socket behind these calls. -/
def turn (s : ChatSession) (event : ChatEvent) (io : ChatIo) (socketIo : SocketCall → SocketIo) :
    SocketTurn :=
  SocketTurn.perform socketIo (s.calls json event io) { socket := s.socket }

/-- The frames that were sent, with what `sendFrame` returned. -/
def sends (s : ChatSession) (event : ChatEvent) (io : ChatIo)
    (socketIo : SocketCall → SocketIo) : List (P2PFrame × Bool) :=
  SocketTurn.sends socketIo (s.calls json event io) { socket := s.socket }

/-- What the socket answers to the controller. -/
def answers (s : ChatSession) (event : ChatEvent) (io : ChatIo)
    (socketIo : SocketCall → SocketIo) : ChatIo :=
  { io with
    socketConnected := s.socket.isConnected
    sendOk := (s.sends json event io socketIo).all Prod.snd
    connectedAfter := (s.turn json event io socketIo).socket.isConnected }

/-- A message that is sent to a `peerVirtualIp` while nobody is connected. -/
def sentAlone (s : ChatSession) (event : ChatEvent) (io : ChatIo) : List (String × P2PFrame) :=
  match event with
  | .sendMessage recipient content ip =>
      if ChatTurn.Sendable recipient content ∧ ip ≠ "" ∧ s.chat.m_socket = true ∧
          s.socket.isConnected = false then
        [(generateMessageId io.uuid, messageFrame json s.chat io recipient content)]
      else []
  | _ => []

/-- The session behind a turn of the socket. A connection that comes to its end takes the
messages that waited for it along. -/
def next (s : ChatSession) (chat : ChatController) (accepted : List P2PFrame)
    (alone : List (String × P2PFrame)) (t : SocketTurn) : ChatSession where
  chat := chat
  socket := t.socket
  accepted := s.accepted ++ accepted
  waiting :=
    (if s.socket.m_state = .Connected ∧ t.effects.any SocketEffect.isStateChange = true then []
    else s.waiting) ++ alone
  ledger := s.ledger.after t.effects

/-- One event. -/
def step (s : ChatSession) : LinkEvent → ChatSession × List SocketEffect
  | .chat event io socketIo =>
      let t := s.turn json event io socketIo
      let accepted := ((s.sends json event io socketIo).filter Prod.snd).map Prod.fst
      (s.next (s.chat.step json event (s.answers json event io socketIo)).1 accepted
        (s.sentAlone json event io) t, t.effects)
  | .socket event io =>
      let t := P2PSocket.react event io { socket := s.socket }
      (s.next s.chat [] [] t, t.effects)

/-- The events, one after the other. -/
def machine : Machine ChatSession LinkEvent SocketEffect where
  step s e := s.step json e

/-! ### The invariant, and the condition on a step -/

/-- A message is pending or sent. -/
def Open (c : ChatController) (messageId : String) : Prop :=
  c.stateOf messageId = some .Pending ∨ c.stateOf messageId = some .Sent

instance (c : ChatController) (messageId : String) : Decidable (Open c messageId) :=
  inferInstanceAs (Decidable (_ ∨ _))

/-- **The invariant.** The frame of a message that is sent was taken, and once there is a
connection, the open messages that waited for it are enqueued on it, in order. -/
structure Truthful (s : ChatSession) : Prop where
  sent : ∀ messageId tracked, s.chat.getTrackedMessage messageId = some tracked →
    tracked.state = .Sent → ∃ later,
      jsonFrame json .ChatMessage (tracked.message.toJson later) ∈ s.accepted
  flushed : s.socket.m_state = .Connected →
    ((s.waiting.filter fun w => Open s.chat w.1).map Prod.snd).Sublist s.ledger.enqueued

/-- The socket behind the `connectToPeer` that a message asks for. -/
def connecting (s : ChatSession) (ip : String) (socketIo : SocketCall → SocketIo) : SocketTurn :=
  if ip ≠ "" ∧ s.socket.isConnected = false then
    SocketTurn.connectToPeer (socketIo (.connectToPeer ip)) ip { socket := s.socket }
  else { socket := s.socket }

/-- The condition on the steps. -/
structure Careful (s : ChatSession) (e : LinkEvent) : Prop where
  /-- The id of a message is new. -/
  fresh : ∀ recipient content ip io socketIo,
    e = .chat (.sendMessage recipient content ip) io socketIo →
    ∀ w ∈ s.waiting, w.1 ≠ generateMessageId io.uuid
  /-- Where a peer is connected, there is room for the frame of a message. -/
  room : ∀ recipient content ip io socketIo,
    e = .chat (.sendMessage recipient content ip) io socketIo →
    ChatTurn.Sendable recipient content → s.chat.m_socket = true →
    (s.connecting ip socketIo).socket.isConnected = true →
    (s.connecting ip socketIo).socket.Takes (messageFrame json s.chat io recipient content)
  /-- Where a connection is established, no message that waited is open. -/
  settled : s.socket.m_state ≠ .Connected → (s.step json e).1.socket.m_state = .Connected →
    ∀ w ∈ s.waiting, ¬ Open s.chat w.1

variable {json} {s : ChatSession} {e : LinkEvent} {event : ChatEvent} {io : ChatIo}
  {socketIo : SocketCall → SocketIo}

/-! ### What a step does -/

/-- What a message asks of the socket. -/
lemma calls_sendMessage {recipient content ip : String} (h : ChatTurn.Sendable recipient content)
    (hsocket : s.chat.m_socket = true) :
    s.calls json (.sendMessage recipient content ip) io =
      (if ip ≠ "" ∧ s.socket.isConnected = false then [.connectToPeer ip] else []) ++
        [.sendFrame (messageFrame json s.chat io recipient content)] := by
  rw [calls, ChatController.step, ChatController.react,
    ChatTurn.filterMap_sendMessage _ _ _ _ _ _ _ h]
  cases s.socket.isConnected <;> by_cases hip : ip = "" <;>
    simp [hsocket, hip, ChatDeed.call?, messageFrame, ChatTurn.newMessage]

lemma turn_sendMessage (ip : String) (json : JsonCodec) (io : ChatIo)
    (socketIo : SocketCall → SocketIo) {recipient content : String}
    (h : ChatTurn.Sendable recipient content)
    (hsocket : s.chat.m_socket = true) :
    ∃ sio, s.turn json (.sendMessage recipient content ip) io socketIo =
        (SocketTurn.sendFrame sio (messageFrame json s.chat io recipient content)
          (s.connecting ip socketIo)).1 ∧
      s.sends json (.sendMessage recipient content ip) io socketIo =
        [(messageFrame json s.chat io recipient content,
          (SocketTurn.sendFrame sio (messageFrame json s.chat io recipient content)
            (s.connecting ip socketIo)).2)] := by
  refine ⟨socketIo (.sendFrame (messageFrame json s.chat io recipient content)), ?_⟩
  rw [turn, sends, calls_sendMessage h hsocket, connecting]
  split_ifs
  · exact ⟨rfl, rfl⟩
  · exact ⟨rfl, rfl⟩

/-- A message becomes open only where it is sent. -/
lemma open_step {messageId : String} (h : Open (s.chat.step json event io).1 messageId) :
    Open s.chat messageId ∨ ∃ recipient content ip, event = .sendMessage recipient content ip ∧
      ChatTurn.Sendable recipient content ∧ generateMessageId io.uuid = messageId := by
  have hchange := trackedChange_run json (event.command json) io { chat := s.chat } messageId
  rw [← react_eq_run] at hchange
  change TrackedChange s.chat io messageId _ (s.chat.getTrackedMessage messageId)
    ((s.chat.step json event io).1.getTrackedMessage messageId) at hchange
  generalize hcmd : event.command json = cmd at hchange
  rw [Open, ChatController.stateOf] at h
  rw [Open, ChatController.stateOf]
  generalize s.chat.getTrackedMessage messageId = old at hchange ⊢
  generalize (s.chat.step json event io).1.getTrackedMessage messageId = new at hchange h
  cases hchange with
  | unchanged => exact Or.inl h
  | sent sendable id =>
      exact Or.inr ⟨_, _, _, ChatEvent.command_eq_sendMessage hcmd, sendable, id⟩
  | @acked ack tracked id =>
      rw [Option.map_some, ChatTurn.ackState] at h
      split_ifs at h
      · rcases h with h | h <;> cases h
      · rcases h with h | h <;> cases h
  | @failed timer tracked task state =>
      rcases h with h | h <;> cases h

/-- Where a message is sent in the end, `sendFrame` took its frame. -/
lemma accepted_of_sent {recipient content ip : String}
    (hcareful : Careful json s (.chat (.sendMessage recipient content ip) io socketIo))
    (hsendable : ChatTurn.Sendable recipient content)
    (hstate : ChatTurn.firstState s.chat.m_socket
      (s.answers json (.sendMessage recipient content ip) io socketIo) = .Sent) :
    messageFrame json s.chat io recipient content ∈
      ((s.sends json (.sendMessage recipient content ip) io socketIo).filter Prod.snd).map
        Prod.fst := by
  have hsocket : s.chat.m_socket = true := by
    by_contra hnone
    rw [Bool.not_eq_true] at hnone
    rw [ChatTurn.firstState, hnone] at hstate
    cases hstate
  obtain ⟨sio, hturn, hsends⟩ := turn_sendMessage ip json io socketIo hsendable hsocket
  obtain ⟨frame, hframe⟩ : ∃ frame, frame = messageFrame json s.chat io recipient content :=
    ⟨_, rfl⟩
  obtain ⟨u, hu⟩ : ∃ u, u = s.connecting ip socketIo := ⟨_, rfl⟩
  rw [← hframe, ← hu] at hturn hsends
  have htaken : (u.sendFrame sio frame).2 = true := by
    by_contra hrefused
    rw [Bool.not_eq_true] at hrefused
    have hdisconnected : u.socket.isConnected = false := by
      by_contra hconnected
      rw [Bool.not_eq_false, hu] at hconnected
      have hroom := hcareful.room _ _ _ _ _ rfl hsendable hsocket hconnected
      rw [← hu, ← hframe] at hroom
      exact absurd (hrefused.symm.trans (SocketTurn.sendFrame_snd sio hroom)) (by simp)
    have hok : (s.answers json (.sendMessage recipient content ip) io socketIo).sendOk = false := by
      rw [answers, hsends, hrefused]
      rfl
    have hafter : (s.answers json (.sendMessage recipient content ip) io
        socketIo).connectedAfter = false := by
      rw [answers, hturn]
      exact (SocketTurn.m_state_sendFrame sio frame).2.trans hdisconnected
    rw [ChatTurn.firstState, hsocket, hok, hafter] at hstate
    cases hstate
  rw [hsends, htaken, ← hframe]
  exact List.mem_singleton_self _

/-- Fewer messages are open than were. -/
lemma openFrames_sublist {c c' : ChatController} {waiting : List (String × P2PFrame)}
    (h : ∀ w ∈ waiting, Open c' w.1 → Open c w.1) :
    ((waiting.filter fun w => Open c' w.1).map Prod.snd).Sublist
      ((waiting.filter fun w => Open c w.1).map Prod.snd) := by
  have hfilter : waiting.filter (fun w => Open c' w.1) =
      (waiting.filter fun w => Open c w.1).filter fun w => Open c' w.1 := by
    rw [List.filter_filter]
    refine List.filter_congr fun w hw => ?_
    by_cases hopen : Open c' w.1
    · rw [decide_eq_true hopen, decide_eq_true (h w hw hopen)]
      rfl
    · rw [decide_eq_false hopen, Bool.false_and]
  rw [hfilter]
  exact List.filter_sublist.map _

/-- The second part of the invariant behind a turn of the socket. -/
lemma flushed_next {chat : ChatController} {accepted : List P2PFrame}
    {alone : List (String × P2PFrame)} {t : SocketTurn} (h : Truthful json s)
    (hsteady : SocketTurn.Steady { socket := s.socket } t)
    (hopen : ∀ w ∈ s.waiting, Open chat w.1 → Open s.chat w.1)
    (hsettled : s.socket.m_state ≠ .Connected → t.socket.m_state = .Connected →
      ∀ w ∈ s.waiting, ¬ Open s.chat w.1)
    (hconnected : s.socket.m_state = .Connected → alone = [])
    (halone : s.socket.m_state ≠ .Connected → t.socket.m_state = .Connected →
      (alone.map Prod.snd).Sublist (s.ledger.after t.effects).enqueued)
    (hafter : t.socket.m_state = .Connected) :
    (((s.next chat accepted alone t).waiting.filter fun w => Open chat w.1).map
      Prod.snd).Sublist (s.ledger.after t.effects).enqueued := by
  obtain ⟨ds, hds, hstays⟩ := hsteady
  rw [List.nil_append] at hds
  rw [next]
  dsimp only
  by_cases hbefore : s.socket.m_state = .Connected
  · rw [hconnected hbefore, List.append_nil]
    by_cases hchange : t.effects.any SocketEffect.isStateChange = true
    · rw [if_pos ⟨hbefore, hchange⟩]
      exact List.nil_sublist _
    · rw [if_neg fun h => hchange h.2]
      rcases hstays hbefore with hchange' | ⟨_, hending⟩
      · exact absurd (hds ▸ hchange') hchange
      · rw [hds]
        exact ((openFrames_sublist hopen).trans (h.flushed hbefore)).trans
          (SocketTurn.enqueued_prefix hending).sublist
  · have hnone : s.waiting.filter (fun w => Open chat w.1) = [] := by
      refine List.filter_eq_nil_iff.mpr fun w hw hopen' => ?_
      exact hsettled hbefore hafter w hw (hopen w hw (of_decide_eq_true hopen'))
    rw [if_neg fun h => hbefore h.1, List.filter_append, hnone, List.nil_append]
    exact (List.filter_sublist.map _).trans (halone hbefore hafter)

/-- A message that is sent while nobody is connected, and connects at once, is enqueued. -/
lemma enqueued_sentAlone
    (hcareful : Careful json s (.chat event io socketIo))
    (hafter : (s.turn json event io socketIo).socket.m_state = .Connected) :
    ((s.sentAlone json event io).map Prod.snd).Sublist
      (s.ledger.after (s.turn json event io socketIo).effects).enqueued := by
  cases event with
  | sendMessage recipient content ip =>
      rw [sentAlone]
      split_ifs with halone
      · obtain ⟨hsendable, hip, hsocket, hdisconnected⟩ := halone
        obtain ⟨sio, hturn, _⟩ := turn_sendMessage ip json io socketIo hsendable hsocket
        have hconnecting : s.connecting ip socketIo =
            SocketTurn.connectToPeer (socketIo (.connectToPeer ip)) ip { socket := s.socket } :=
          if_pos ⟨hip, hdisconnected⟩
        rw [hturn, (SocketTurn.m_state_sendFrame _ _).1] at hafter
        have hready : (s.connecting ip socketIo).socket.clientReady = true := by
          rw [hconnecting] at hafter ⊢
          exact SocketTurn.clientReady_connectToPeer hafter
        have hisConnected : (s.connecting ip socketIo).socket.isConnected = true := by
          rw [P2PSocket.isConnected, hafter]
          rfl
        have hroom := hcareful.room _ _ _ _ _ rfl hsendable hsocket hisConnected
        rw [hturn, SocketTurn.enqueued_sendFrame _ _ hready,
          if_pos (SocketTurn.sendFrame_snd _ hroom)]
        exact List.sublist_append_right _ _
      · exact List.nil_sublist _
  | _ => exact List.nil_sublist _

/-- The first part of the invariant behind an event of the controller. -/
lemma sent_step {messageId : String} {tracked : TrackedMessage} (h : Truthful json s)
    (hcareful : Careful json s (.chat event io socketIo))
    (htracked : (s.chat.step json event (s.answers json event io socketIo)).1.getTrackedMessage
      messageId = some tracked)
    (hstate : tracked.state = .Sent) :
    ∃ later, jsonFrame json .ChatMessage (tracked.message.toJson later) ∈
      s.accepted ++ ((s.sends json event io socketIo).filter Prod.snd).map Prod.fst := by
  have hchange := trackedChange_run json (event.command json) (s.answers json event io socketIo)
    { chat := s.chat } messageId
  rw [← react_eq_run] at hchange
  change TrackedChange s.chat _ messageId _ (s.chat.getTrackedMessage messageId)
    ((s.chat.step json event (s.answers json event io socketIo)).1.getTrackedMessage messageId)
      at hchange
  rw [htracked] at hchange
  have hold : s.chat.getTrackedMessage messageId = some tracked → ∃ later,
      jsonFrame json .ChatMessage (tracked.message.toJson later) ∈
        s.accepted ++ ((s.sends json event io socketIo).filter Prod.snd).map Prod.fst := by
    intro hbefore
    obtain ⟨later, hlater⟩ := h.sent messageId tracked hbefore hstate
    exact ⟨later, List.mem_append_left _ hlater⟩
  generalize hcmd : event.command json = cmd at hchange
  generalize hbefore : s.chat.getTrackedMessage messageId = old at hchange
  generalize hnew : some tracked = new at hchange
  cases hchange with
  | unchanged => exact hold (hbefore.trans hnew.symm)
  | sent sendable id =>
      have hevent := ChatEvent.command_eq_sendMessage hcmd
      subst hevent
      obtain rfl := Option.some_inj.mp hnew
      exact ⟨io.later, List.mem_append_right _ (accepted_of_sent hcareful sendable hstate)⟩
  | @acked ack tracked' id =>
      obtain rfl := Option.some_inj.mp hnew
      dsimp only at hstate
      rw [ChatTurn.ackState] at hstate
      split_ifs at hstate
  | @failed timer tracked' task state =>
      obtain rfl := Option.some_inj.mp hnew
      cases hstate

/-- **One step.** -/
lemma truthful_step (h : Truthful json s) (hcareful : Careful json s e) :
    Truthful json (s.step json e).1 := by
  cases e with
  | socket event io =>
      refine ⟨fun messageId tracked htracked hstate => ?_, fun hafter => ?_⟩
      · obtain ⟨later, hlater⟩ := h.sent messageId tracked htracked hstate
        exact ⟨later, List.mem_append_left _ hlater⟩
      · exact flushed_next h (SocketTurn.steady_react event) (fun _ _ hopen => hopen)
          hcareful.settled (fun _ => rfl) (fun _ _ => List.nil_sublist _) hafter
  | chat event io socketIo =>
      have hopen : ∀ w ∈ s.waiting,
          Open (s.chat.step json event (s.answers json event io socketIo)).1 w.1 →
            Open s.chat w.1 := by
        intro w hw hopen
        rcases open_step hopen with hbefore | ⟨recipient, content, ip, rfl, _, hid⟩
        · exact hbefore
        · exact absurd hid.symm (hcareful.fresh _ _ _ _ _ rfl w hw)
      have hconnected : s.socket.m_state = .Connected → s.sentAlone json event io = [] := by
        intro hstate
        have hisConnected : s.socket.isConnected = true := by
          rw [P2PSocket.isConnected, hstate]
          rfl
        cases event with
        | sendMessage recipient content ip =>
            exact if_neg fun h => Bool.false_ne_true (h.2.2.2.symm.trans hisConnected)
        | _ => rfl
      refine ⟨fun messageId tracked htracked hstate => ?_, fun hafter => ?_⟩
      · exact sent_step h hcareful htracked hstate
      · exact flushed_next h (SocketTurn.steady_perform _ _) hopen hcareful.settled hconnected
          (fun _ hafter => enqueued_sentAlone hcareful hafter) hafter

end ChatSession

/-! ### Runs -/

open ChatSession

variable {json} {es : List LinkEvent} {log : List SocketEffect} {s : ChatSession}
  {deviceId : String} {m_socket : Bool}

/-- **Truthful sending.** While there is room for what is sent on a connection, and no
message that waited is open when a connection is established, every message that is sent
has a frame that `sendFrame` took, and all open messages that waited for the connection are
enqueued on it, in the order of the calls. -/
theorem truthful_sending
    (hrun : Run (ChatSession.machine json) (Careful json) { chat := { deviceId, m_socket } }
      es log s) : Truthful json s := by
  refine hrun.invariant ⟨?_, ?_⟩ fun s e h hcareful => truthful_step h hcareful
  · intro messageId tracked htracked
    rw [ChatController.getTrackedMessage, QMap.value?_empty] at htracked
    cases htracked
  · exact fun hstate => absurd hstate (by simp)

/-- A message that `sendFrame` refuses on a connection is sent nonetheless. -/
lemma sent_of_refused (io : ChatIo) (socketIo : SocketCall → SocketIo) (ip : String)
    {recipient content : String} (hsendable : ChatTurn.Sendable recipient content)
    (hsocket : s.chat.m_socket = true) (hconnected : s.socket.isConnected = true)
    (hrefused : ¬ s.socket.Takes (messageFrame json s.chat io recipient content)) :
    let s' := (s.step json (.chat (.sendMessage recipient content ip) io socketIo)).1
    s'.chat.getTrackedMessage (generateMessageId io.uuid) =
        some ⟨ChatTurn.newMessage s.chat io recipient content, .Sent, io.now⟩ ∧
      s'.accepted = s.accepted := by
  obtain ⟨sio, hturn, hsends⟩ := turn_sendMessage ip json io socketIo hsendable hsocket
  have hconnecting : s.connecting ip socketIo = { socket := s.socket } :=
    if_neg fun h => Bool.false_ne_true (h.2.symm.trans hconnected)
  rw [hconnecting] at hturn hsends
  rw [SocketTurn.sendFrame_snd_false sio hrefused] at hsends
  have hok : (s.answers json (.sendMessage recipient content ip) io socketIo).sendOk = false := by
    rw [answers, hsends]
    rfl
  have hafter : (s.answers json (.sendMessage recipient content ip) io
      socketIo).connectedAfter = true := by
    rw [answers, hturn]
    exact (SocketTurn.m_state_sendFrame sio _).2.trans hconnected
  refine ⟨?_, ?_⟩
  · have hvalue := ChatTurn.value?_sendMessage json
      (s.answers json (.sendMessage recipient content ip) io socketIo) { chat := s.chat } recipient
      content ip hsendable (generateMessageId io.uuid)
    rw [ChatTurn.firstState, hsocket, hok, hafter] at hvalue
    exact hvalue.trans (if_pos rfl)
  · rw [step, next, hsends]
    exact List.append_nil _

/-! ### Three runs -/

/-- Alice's controller. -/
def aliceSession : ChatSession where
  chat := { deviceId := "mc_alice" }

/-- A message to Bob. -/
def helloBob : LinkEvent :=
  .chat (.sendMessage "mc_bob" "hello" "10.77.0.2") { now := 1700000000, uuid := "1" } fun _ => {}

/-- Bob is connected. -/
def bobConnects : List LinkEvent :=
  [.socket (.socketIs ⟨.ConnectedState, "10.77.0.2"⟩) {}, .socket .connected {}]

/-- The session after some events. -/
def aliceAfter (es : List LinkEvent) : ChatSession :=
  ((ChatSession.machine compact).exec aliceSession es).2

/-- An event of the socket, while no message waits. -/
lemma careful_socket (hwaiting : s.waiting = []) (event : SocketEvent) (io : SocketIo) :
    Careful json s (.socket event io) := by
  refine ⟨nofun, nofun, fun _ _ w hw => ?_⟩
  rw [hwaiting] at hw
  cases hw

theorem truthful_sending_hello :
    (aliceAfter (bobConnects ++ [helloBob])).chat.stateOf "msg_1" = some .Sent ∧
      Truthful compact (aliceAfter (bobConnects ++ [helloBob])) := by
  refine ⟨by decide +kernel, ?_⟩
  have hroom : (connecting (aliceAfter bobConnects) "10.77.0.2" fun _ => {}).socket.Takes
      (messageFrame compact (aliceAfter bobConnects).chat
        { now := 1700000000, uuid := "1" } "mc_bob" "hello") :=
    Or.inl ⟨by decide +kernel, by decide +kernel⟩
  have hlast : Careful compact (aliceAfter bobConnects) helloBob := by
    refine ⟨fun _ _ _ _ _ _ => nofun, ?_, fun hstate => absurd rfl hstate⟩
    intro recipient content ip io socketIo he _ _ _
    cases he
    exact hroom
  have hcareful : (ChatSession.machine compact).Allows (Careful compact) aliceSession
      (bobConnects ++ [helloBob]) :=
    ⟨careful_socket rfl _ _, careful_socket rfl _ _, hlast, trivial⟩
  exact truthful_sending (Run.exec hcareful)

/-- A frame that fills the queue. -/
def hugeFrame : P2PFrame where
  payload := List.replicate (16 * 1024 * 1024 - 12) 0

/-- The queue of the connection is full. -/
def fullSession : ChatSession :=
  ((ChatSession.machine compact).step (aliceAfter bobConnects) (.socket (.sendFrame hugeFrame) {})).1

lemma length_hugeFrame : hugeFrame.encode.length = 16 * 1024 * 1024 := by
  have hpayload : hugeFrame.payload.length = 16 * 1024 * 1024 - 12 := List.length_replicate
  rw [P2PFrame.length_encode, hpayload]

/-- Nothing of a frame is written. -/
lemma sendFrame_unwritten {t : SocketTurn} {frame : P2PFrame} (hready : t.socket.clientReady = true)
    (hroom : t.socket.m_queuedBytes + frame.encode.length ≤ MAX_OUTGOING_QUEUE_SIZE) :
    (t.sendFrame {} frame).1.socket.clientReady = true ∧
      (t.sendFrame {} frame).1.socket.m_queuedBytes =
        t.socket.m_queuedBytes + frame.encode.length := by
  have hloop : ∀ queue queuedBytes, SocketTurn.flushLoop queue queuedBytes [] =
      ⟨queue, queuedBytes, []⟩ := by
    intro queue queuedBytes
    cases queue <;> rfl
  have hconnected : (t.enqueue frame).socket.m_socket.state = .ConnectedState := by
    rw [P2PSocket.clientReady, Bool.and_eq_true, decide_eq_true_eq, decide_eq_true_eq] at hready
    exact hready.2
  rw [SocketTurn.sendFrame, if_pos hready, if_pos hroom, SocketTurn.flushWriteQueue,
    if_pos hconnected, hloop]
  exact ⟨hready, rfl⟩

lemma step_socket_sendFrame (json : JsonCodec) (s : ChatSession) (frame : P2PFrame)
    (io : SocketIo) :
    (s.step json (.socket (.sendFrame frame) io)).1.socket =
        (SocketTurn.sendFrame io frame { socket := s.socket }).1.socket ∧
      (s.step json (.socket (.sendFrame frame) io)).1.accepted = s.accepted ++ [] := ⟨rfl, rfl⟩

lemma fullSession_socket : fullSession.socket.clientReady = true ∧
    fullSession.socket.m_queuedBytes = MAX_OUTGOING_QUEUE_SIZE := by
  have hready : (aliceAfter bobConnects).socket.clientReady = true := rfl
  have hcount : (aliceAfter bobConnects).socket.m_queuedBytes = 0 := rfl
  obtain ⟨t, ht⟩ : ∃ t : SocketTurn, t = { socket := (aliceAfter bobConnects).socket } := ⟨_, rfl⟩
  have hroom : t.socket.m_queuedBytes + hugeFrame.encode.length = MAX_OUTGOING_QUEUE_SIZE := by
    rw [ht, length_hugeFrame, hcount, MAX_OUTGOING_QUEUE_SIZE]
    norm_num
  obtain ⟨hready', hcount'⟩ := sendFrame_unwritten (t := t) (by rw [ht]; exact hready) hroom.le
  have hsocket : fullSession.socket = (t.sendFrame {} hugeFrame).1.socket := by
    rw [ht]
    exact (step_socket_sendFrame compact _ _ _).1
  rw [hsocket]
  exact ⟨hready', hcount'.trans hroom⟩

/-- A message that is sent before its peer is connected stays behind, and one that does not
fit into the queue of its connection goes nowhere. -/
theorem untruthful_messages :
    ¬ Truthful compact (aliceAfter (helloBob :: bobConnects)) ∧
      ¬ Truthful compact ((ChatSession.machine compact).step fullSession helloBob).1 := by
  constructor
  · intro h
    have hstate : (aliceAfter (helloBob :: bobConnects)).socket.m_state = .Connected := by
      decide +kernel
    have hflushed := (h.flushed hstate).length_le
    revert hflushed
    rw [List.length_map]
    decide +kernel
  · intro h
    obtain ⟨hready, hcount⟩ := fullSession_socket
    have hrefused : ¬ fullSession.socket.Takes (messageFrame compact fullSession.chat
        { now := 1700000000, uuid := "1" } "mc_bob" "hello") := by
      rintro (⟨_, hroom⟩ | ⟨hidle, _⟩)
      · rw [hcount, P2PFrame.length_encode] at hroom
        omega
      · exact Bool.false_ne_true (hidle.symm.trans hready)
    have hconnected : fullSession.socket.isConnected = true := by
      rw [P2PSocket.clientReady, Bool.and_eq_true] at hready
      rw [P2PSocket.isConnected, hready.1, Bool.true_or]
    obtain ⟨htracked, haccepted⟩ := sent_of_refused { now := 1700000000, uuid := "1" }
      (fun _ => {}) "10.77.0.2" (by decide) rfl hconnected hrefused
    obtain ⟨later, hlater⟩ := h.sent _ _ htracked rfl
    have hnone : ((ChatSession.machine compact).step fullSession helloBob).1.accepted = [] :=
      haccepted.trans (step_socket_sendFrame compact _ _ _).2
    rw [hnone] at hlater
    cases hlater

end MeckChat.Protocol
