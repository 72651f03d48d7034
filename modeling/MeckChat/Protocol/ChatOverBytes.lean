import MeckChat.Protocol.ChatDelivery
import MeckChat.Protocol.PeerLink

/-!
Chat over the bytes of its connections.

* `connect_run`: a controller asks for a connection only where its socket has none, and
  `frames_answers`: the frames it sends do not depend on what the socket answers.
* `ChatWire` puts two chat controllers on the sockets of a `PeerLink`. The network of queues of
  frames keeps its history, and `Wired` is the condition on the steps: it says nothing about
  what arrives but that bytes arrive in order.
* `chat_refines_queues`: every run of the bytes is a run of the queues.
-/

namespace MeckChat.Protocol

open Network QJson ChatController

variable (json : JsonCodec)

/-! ### What a controller asks of its socket -/

section Controller

variable {json} {c : ChatController} {io : ChatIo} {cmd : ChatCommand}

lemma connect_sendTypingNotification {t : ChatTurn} {recipient ip : String} {isTyping : Bool}
    (hconnected : io.socketConnected = true) {peer : String}
    (hdeeds : .connectToPeer peer ∉ t.deeds) :
    .connectToPeer peer ∉ (t.sendTypingNotification json io recipient isTyping ip).deeds := by
  simp only [ChatTurn.sendTypingNotification]
  split_ifs <;> simp [hdeeds, hconnected]

/-- **A connection is asked for** only where there is none. -/
lemma connect_run (hconnected : io.socketConnected = true) (ip : String) :
    .connectToPeer ip ∉ (cmd.run json io { chat := c }).deeds := by
  intro hd
  cases cmd with
  | sendMessage recipient content peerIp =>
      rw [ChatCommand.run] at hd
      by_cases h : ChatTurn.Sendable recipient content
      · simp only [ChatTurn.sendMessage, if_neg (not_lt.mpr h.1), if_neg h.2] at hd
        rw [ChatTurn.mem_deeds_emit, apply_ite ChatTurn.deeds, ChatTurn.deeds_setMessageState,
          ite_self] at hd
        simp [hconnected] at hd
      · obtain ⟨error, hrefused⟩ := ChatTurn.sendMessage_refused json io { chat := c } recipient
          content peerIp h
        rw [hrefused, ChatTurn.mem_deeds_emit] at hd
        simp at hd
  | sendReadReceipt messageId peerIp =>
      rw [ChatCommand.run, ChatTurn.sendReadReceipt] at hd
      split_ifs at hd with hid
      · cases hd
      · simp [hconnected] at hd
  | sendTypingNotification recipient isTyping peerIp =>
      exact connect_sendTypingNotification hconnected List.not_mem_nil hd
  | chatMessage msg =>
      simp only [ChatCommand.run, ChatTurn.onChatMessage] at hd
      split_ifs at hd <;> simp [ChatTurn.acknowledge] at hd
  | messageAck ack =>
      simp only [ChatCommand.run, ChatTurn.onMessageAck] at hd
      split_ifs at hd <;> simp at hd
  | typingIndicator typing =>
      rw [ChatCommand.run, ChatTurn.onTypingIndicator] at hd
      split_ifs at hd
      · cases htimer : c.m_peerTypingTimers.value? typing.senderDeviceId with
        | none => simp [htimer] at hd
        | some timer => simp [htimer] at hd
      · simp at hd
  | timeout timer =>
      rw [ChatCommand.run, ChatTurn.timeout] at hd
      cases htask : c.timers.value? timer with
      | none =>
          rw [htask] at hd
          cases hd
      | some task =>
          rw [htask] at hd
          cases task with
          | typingExpiry peer => simp at hd
          | ackTimeout id =>
              simp only [ChatTurn.ackTimeout, ChatTurn.deeds_stopAckTimer,
                ChatTurn.failUnanswered] at hd
              split at hd
              · split_ifs at hd <;> simp at hd
              · cases hd
  | typingStopTimeout =>
      simp only [ChatCommand.run, ChatTurn.typingStopTimeout] at hd
      split_ifs at hd
      · exact connect_sendTypingNotification hconnected List.not_mem_nil hd
      · cases hd
      · cases hd
  | disconnected =>
      rcases ChatTurn.mem_deeds_onSocketDisconnected _ _ hd with h | ⟨peer, h⟩
      · cases h
      · cases h
  | nothing => cases hd

/-- What the socket answers does not change which frames are sent. -/
lemma frames_answers (sendOk connectedAfter : Bool) :
    (cmd.run json { io with sendOk, connectedAfter } { chat := c }).deeds.filterMap
        ChatDeed.frame? =
      (cmd.run json io { chat := c }).deeds.filterMap ChatDeed.frame? := by
  cases cmd with
  | sendMessage recipient content ip =>
      by_cases h : ChatTurn.Sendable recipient content
      · rw [frames_sendMessage h, frames_sendMessage h]
        rfl
      · obtain ⟨error, hrefused⟩ := ChatTurn.sendMessage_refused json
          { io with sendOk, connectedAfter } { chat := c } recipient content ip h
        obtain ⟨error', hrefused'⟩ := ChatTurn.sendMessage_refused json io { chat := c } recipient
          content ip h
        rw [ChatCommand.run, ChatCommand.run, hrefused, hrefused']
        rfl
  | sendReadReceipt messageId ip =>
      simp only [ChatCommand.run, ChatTurn.sendReadReceipt]
      split_ifs <;> rfl
  | _ => rfl

lemma frames_calls (deeds : List ChatDeed) :
    (deeds.filterMap ChatDeed.call?).filterMap SocketCall.frame? =
      deeds.filterMap ChatDeed.frame? := by
  rw [List.filterMap_filterMap]
  congr 1
  funext d
  cases d <;> rfl

end Controller

/-! ### Two controllers on their sockets -/

/-- Two chat controllers on sockets that are joined by TCP, with the history of what they sent,
showed and took off their connections. -/
structure ChatWire where
  net : LinkNet Side Side
  peer : PeerLink

/-- What can happen on a side: the controller is called, or one of its timers expires; it handles
the next frame that was handed on from a connection; the socket may write again; or bytes
arrive. -/
inductive ChatWireEvent where
  | call (event : ChatEvent) (io : ChatIo) (socketIo : SocketCall → SocketIo)
  | handle (dialler : Side) (io : ChatIo) (socketIo : SocketCall → SocketIo)
  | bytesWritten (io : SocketIo)
  | arrive (dialler : Side) (n : ℕ)

/-- An event of a controller, the connection that it comes from, and what the surroundings
decide. -/
structure Handling where
  event : ChatEvent
  via : Option Side := none
  io : ChatIo
  socketIo : SocketCall → SocketIo

namespace ChatWire

/-- The controller of a side on its socket. -/
def session (s : ChatWire) (X : Side) : ChatSession where
  chat := s.net.net.nodes X
  socket := s.peer.sockets X

/-- The event as the network of queues sees it, with what the socket answers. -/
def move (s : ChatWire) (X : Side) (h : Handling) : LinkMove Side Side where
  node := X
  event := h.event
  io := (s.session X).answers json h.event h.io h.socketIo
  links := [X.other]
  via := h.via

/-- What the event asks of the socket. -/
def asks (s : ChatWire) (X : Side) (h : Handling) : WireEvent :=
  .perform ((s.session X).calls json h.event h.io) h.socketIo

/-- A controller handles an event. -/
def react (s : ChatWire) (X : Side) (h : Handling) : ChatWire where
  net := (s.net.step json (s.move json X h)).1
  peer := s.peer.step X (s.asks json X h)

/-- The next frame is taken off a connection. -/
def take (s : ChatWire) (X D : Side) : ChatWire :=
  { s with peer := s.peer.step X (.handle D) }

/-- One event on side `X`. -/
def step (s : ChatWire) (X : Side) : ChatWireEvent → ChatWire × List (LinkMove Side Side)
  | .call event io socketIo =>
      let h : Handling := { event, io, socketIo }
      (s.react json X h, [s.move json X h])
  | .handle D io socketIo =>
      match s.peer.heard X D with
      | p :: _ =>
          let h : Handling := { event := .frameReceivedFrom p.1 p.2, via := some D, io, socketIo }
          ((s.take X D).react json X h, [(s.take X D).move json X h])
      | [] => (s, [])
  | .bytesWritten io => ({ s with peer := s.peer.step X (.bytesWritten io) }, [])
  | .arrive D n => ({ s with peer := s.peer.step X (.arrive D n) }, [])

/-- Two chat controllers once the connections that were dialled are established. -/
def start (dialled : Side → Bool) (ip deviceId : Side → String) (clock : Side → ℤ) : ChatWire where
  net := .start deviceId clock
  peer := .start dialled ip

end ChatWire

/-- The two sides as a machine; it logs the events of the controllers. -/
def chatWire : Machine ChatWire (Side × ChatWireEvent) (LinkMove Side Side) where
  step s e := s.step json e.1 e.2

/-! ### The condition on the steps -/

/-- What is asked of an event that a controller handles: every frame is taken by `sendFrame` and
is admissible for its receiver, the ids of the messages of `A` are distinct, the other side
reports nothing as read, no clock runs backwards, and copies of a message arrive within the
window of the duplicate cache. -/
structure Handles (A : Side) (s : ChatWire) (X : Side) (h : Handling) : Prop where
  sends : ∀ p ∈ (s.session X).sends json h.event h.io h.socketIo,
    p.2 = true ∧ p.1.payload.length ≤ MAX_FRAME_PAYLOAD_SIZE.toNat
  ids : (s.net.net.step json (s.move json X h).toChatMove).1.DistinctIds A
  receipt : X = A.other → ∀ messageId ip, h.event ≠ .sendReadReceipt messageId ip
  clock : s.net.clock X ≤ h.io.now ∧ h.io.now ≤ h.io.later
  copies : ∀ m, (s.move json X h).command json A.other = .chatMessage m →
    ∀ t, (m.messageId, t) ∈ s.net.seen A.other → h.io.now - t ≤ DUPLICATE_CACHE_WINDOW_SECS

/-- The condition on the steps. Frames come from the socket alone, and nothing is said about
them. -/
def Wired (A : Side) (dialled : Side → Bool) (s : ChatWire) : Side × ChatWireEvent → Prop
  | (X, .call event io socketIo) =>
      (∀ frame ip, event ≠ .frameReceivedFrom frame ip) ∧
        Handles json A s X { event, io, socketIo }
  | (X, .handle D io socketIo) =>
      dialled D = true ∧ ∃ p rest, s.peer.heard X D = p :: rest ∧
        Handles json A (s.take X D) X
          { event := .frameReceivedFrom p.1 p.2, via := some D, io, socketIo }
  | (_, .bytesWritten _) => True
  | (X, .arrive D n) => Flows dialled s.peer (X, .arrive D n)

/-! ### The refinement -/

/-- The bytes carry the frames of the queues. -/
structure OverBytes (dialled : Side → Bool) (s : ChatWire) : Prop where
  flowing : Flowing dialled s.peer
  mail : s.peer.mail = s.net.net.mail
  taken : s.peer.taken = s.net.taken

section Refinement

variable {json} {A X : Side} {dialled : Side → Bool} {s : ChatWire} {h : Handling}

/-- The frames that a controller sends, as its socket and as the queues see them. -/
lemma frames_move : ((s.session X).calls json h.event h.io).filterMap SocketCall.frame? =
    ((s.net.net.nodes X).step json h.event (s.move json X h).io).2.filterMap ChatDeed.frame? := by
  obtain ⟨io, hio⟩ : ∃ io : ChatIo,
    io = { h.io with socketConnected := (s.session X).socket.isConnected } := ⟨_, rfl⟩
  have hcalls : (s.session X).calls json h.event h.io =
      ((s.net.net.nodes X).step json h.event io).2.filterMap ChatDeed.call? := by
    rw [hio]
    rfl
  have hmove : (s.move json X h).io = { io with
      sendOk := (s.move json X h).io.sendOk
      connectedAfter := (s.move json X h).io.connectedAfter } := by
    rw [hio]
    rfl
  rw [hcalls, frames_calls, hmove, step_eq_run, step_eq_run]
  exact (frames_answers _ _).symm

/-- Nobody asks for another connection. -/
lemma flows_asks (hflowing : Flowing dialled s.peer) (hsome : ∃ D, dialled D = true)
    (hh : Handles json A s X h) : Flows dialled s.peer (X, s.asks json X h) := by
  have hconnected : (s.session X).socket.isConnected = true := by
    refine (hflowing.joined X).isConnected ?_
    obtain ⟨D, hD⟩ := hsome
    rcases Side.eq_or_eq_other X D with rfl | rfl
    · exact .inl hD
    · exact .inr hD
  refine ⟨fun ip hip => ?_, hh.sends⟩
  obtain ⟨d, hd, hcall⟩ := List.mem_filterMap.mp hip
  rw [ChatController.step, react_eq_run] at hd
  cases d with
  | connectToPeer peer => exact connect_run hconnected peer hd
  | sendFrame frame => cases hcall
  | signal signal => cases hcall

/-- What a reaction does to the queues and to the bytes. -/
lemma overBytes_react (hflowing : Flowing dialled s.peer) (hsome : ∃ D, dialled D = true)
    (hmail : s.peer.mail = s.net.net.mail)
    (htaken : ∀ Y D, s.peer.taken Y D =
      s.net.taken Y D + if Y = X ∧ h.via = some D then 1 else 0)
    (hh : Handles json A s X h) : OverBytes dialled (s.react json X h) := by
  refine ⟨flowing_step hflowing (flows_asks hflowing hsome hh), ?_, ?_⟩
  · funext Y
    have hpeer : (s.react json X h).peer.mail Y = s.peer.mail Y ++ if Y = X.other then
        ((s.session X).calls json h.event h.io).filterMap SocketCall.frame? else [] := rfl
    have hnet : (s.react json X h).net.net.mail Y = s.net.net.mail Y ++ if Y ∈ [X.other] then
        ((s.net.net.nodes X).step json h.event (s.move json X h).io).2.filterMap
          ChatDeed.frame? else [] := rfl
    rw [hpeer, hnet, hmail, frames_move]
    simp only [List.mem_singleton]
  · funext Y D
    exact htaken Y D

/-- What a controller handles is a step of the queues. -/
lemma linked_move (hh : Handles json A s X h)
    (harrival : ∀ frame ip, h.event = .frameReceivedFrom frame ip →
      ∃ D, h.via = some D ∧ (s.net.net.mail X)[s.net.taken X D]? = some frame)
    (hcall : (∀ frame ip, h.event ≠ .frameReceivedFrom frame ip) → h.via = none) :
    Linked json A A.other s.net (s.move json X h) where
  ends := by
    rcases Side.eq_or_eq_other A X with rfl | rfl
    · exact .inl ⟨rfl, rfl⟩
    · exact .inr ⟨rfl, congrArg (fun Y => [Y]) (Side.other_other A)⟩
  arrival := harrival
  call := hcall
  ids := hh.ids
  receipt := hh.receipt
  clock := hh.clock
  copies := hh.copies

/-- **One step.** A controller that handles something makes a step of the queues, and bytes
make none. -/
lemma refines_step (hsome : ∃ D, dialled D = true) (hs : OverBytes dialled s)
    {e : Side × ChatWireEvent} (he : Wired json A dialled s e) :
    OverBytes dialled (s.step json e.1 e.2).1 ∧
      ((s.step json e.1 e.2).2 = [] ∧ (s.step json e.1 e.2).1.net = s.net ∨
        ∃ move, (s.step json e.1 e.2).2 = [move] ∧ Linked json A A.other s.net move ∧
          (s.step json e.1 e.2).1.net = (s.net.step json move).1) := by
  obtain ⟨X, e⟩ := e
  cases e with
  | call event io socketIo =>
      obtain ⟨hevent, hh⟩ := he
      obtain ⟨h, hh'⟩ : ∃ h : Handling, h = { event, io, socketIo } := ⟨_, rfl⟩
      rw [← hh'] at hh
      have hstep : s.step json X (.call event io socketIo) =
          (s.react json X h, [s.move json X h]) := by rw [hh']; rfl
      rw [hstep]
      refine ⟨overBytes_react hs.flowing hsome hs.mail ?_ hh, .inr ⟨_, rfl, linked_move hh ?_ ?_,
        rfl⟩⟩
      · intro Y D
        rw [hh', hs.taken]
        simp
      · rw [hh']
        exact fun frame ip heq => absurd heq (hevent frame ip)
      · rw [hh']
        exact fun _ => rfl
  | handle D io socketIo =>
      obtain ⟨hD, p, rest, hheard, hh⟩ := he
      obtain ⟨h, hh'⟩ : ∃ h : Handling,
        h = { event := .frameReceivedFrom p.1 p.2, via := some D, io, socketIo } := ⟨_, rfl⟩
      rw [← hh'] at hh
      have hstep : s.step json X (.handle D io socketIo) =
          ((s.take X D).react json X h, [(s.take X D).move json X h]) := by
        simp only [ChatWire.step, hheard, hh']
      rw [hstep]
      have hne : s.peer.heard X D ≠ [] := by
        rw [hheard]
        exact List.cons_ne_nil p rest
      have hflowing : Flowing dialled (s.peer.step X (.handle D)) :=
        flowing_step hs.flowing (e := (X, .handle D)) ⟨hD, hne⟩
      obtain ⟨b, -, hcarries⟩ := hs.flowing.carries X D hD
      rw [hheard, List.map_cons] at hcarries
      have hnext := hcarries.handle.1
      rw [hs.mail, hs.taken] at hnext
      have hlinked : Linked json A A.other s.net ((s.take X D).move json X h) := by
        refine linked_move (s := s.take X D) hh ?_ ?_
        · rw [hh']
          rintro frame ip ⟨⟩
          exact ⟨D, rfl, hnext⟩
        · rw [hh']
          exact fun hcall => absurd rfl (hcall p.1 p.2)
      refine ⟨overBytes_react (s := s.take X D) hflowing hsome hs.mail ?_ hh,
        .inr ⟨_, rfl, hlinked, rfl⟩⟩
      intro Y E
      show s.peer.taken Y E + _ = s.net.taken Y E + _
      rw [hs.taken, hh']
      simp [eq_comm]
  | bytesWritten io =>
      refine ⟨⟨flowing_step hs.flowing (e := (X, .bytesWritten io)) trivial, ?_, hs.taken⟩,
        .inl ⟨rfl, rfl⟩⟩
      funext Y
      show s.peer.mail Y ++ (if Y = X.other then [] else []) = s.net.net.mail Y
      rw [ite_self, List.append_nil, hs.mail]
  | arrive D n =>
      exact ⟨⟨flowing_step hs.flowing (e := (X, .arrive D n)) he, hs.mail, hs.taken⟩,
        .inl ⟨rfl, rfl⟩⟩

/-- **Chat over bytes.** Two chat controllers are joined by the bytes of one TCP connection, or
of two, which arrive in order and in chunks cut anywhere, in any interleaving with calls and
timers. Then every run is a run of the network of queues of frames: what a controller handles
is the next frame that the other one sent on that connection, and once a connection has brought
all its bytes and its frames are handled, all frames are taken off it. -/
theorem chat_refines_queues {ip deviceId : Side → String} {clock : Side → ℤ}
    {es : List (Side × ChatWireEvent)} {log : List (LinkMove Side Side)}
    (hsome : ∃ D, dialled D = true)
    (hrun : Run (chatWire json) (Wired json A dialled)
      (ChatWire.start dialled ip deviceId clock) es log s) :
    (∃ deeds, Run (linkNetwork json) (Linked json A A.other) (LinkNet.start deviceId clock) log
      deeds s.net) ∧
      ∀ Y D, dialled D = true → s.peer.wires Y D = [] →
        (D ≠ Y → (s.peer.sockets D).m_outgoingQueue = []) → s.peer.heard Y D = [] →
        s.net.taken Y D = (s.net.net.mail Y).length := by
  obtain ⟨hover, hnet⟩ : OverBytes dialled s ∧ ∃ deeds, Run (linkNetwork json)
      (Linked json A A.other) (LinkNet.start deviceId clock) log deeds s.net := by
    refine hrun.invariant_log (I := fun _ log s => OverBytes dialled s ∧ ∃ deeds,
      Run (linkNetwork json) (Linked json A A.other) (LinkNet.start deviceId clock) log deeds s.net)
      ⟨⟨flowing_start, rfl, rfl⟩, [], .nil⟩ ?_
    rintro _ log s e ⟨hs, deeds, hqueues⟩ he
    obtain ⟨hover, hstep⟩ := refines_step hsome hs he
    refine ⟨hover, ?_⟩
    have hlog : ((chatWire json).step s e).2 = (s.step json e.1 e.2).2 := rfl
    have hnext : ((chatWire json).step s e).1 = (s.step json e.1 e.2).1 := rfl
    rw [hlog, hnext]
    rcases hstep with ⟨hnil, hsame⟩ | ⟨move, hone, hlinked, hmove⟩
    · rw [hnil, hsame, List.append_nil]
      exact ⟨deeds, hqueues⟩
    · rw [hone, hmove]
      exact ⟨_, hqueues.snoc hlinked⟩
  refine ⟨hnet, fun Y D hD hwires hqueue hheard => ?_⟩
  obtain ⟨b, -, hcarries⟩ := hover.flowing.carries Y D hD
  rw [way_eq_nil hwires hqueue, hheard] at hcarries
  have hall := hcarries.all
  rw [List.map_nil, List.append_nil, List.take_eq_self_iff] at hall
  rw [← hover.mail, ← hover.taken]
  exact le_antisymm hcarries.taken_le hall

end Refinement

/-! ### One receipt -/

/-- The frame of a read receipt. -/
def receiptFrame : P2PFrame := ackFrame compact { now := 1 } "m" "read"

/-- The left side reports a message as read. -/
def receiptCall : Side × ChatWireEvent :=
  (.left, .call (.sendReadReceipt "m" "") { now := 1 } fun _ => { writes := [some 60] })

/-- The bytes arrive. -/
def receiptBytes : Side × ChatWireEvent := (.right, .arrive .left 60)

/-- The report is handled. -/
def receiptHandled : Side × ChatWireEvent := (.right, .handle .left { now := 2 } fun _ => {})

/-- The two sides before it. -/
def quietWire : ChatWire :=
  .start leftDialled (fun _ => "10.77.0.1")
    (fun X => if X = .left then "mc_alice" else "mc_bob") fun _ => 0

/-- The two sides with the bytes on their way. -/
def wireSent : ChatWire := ((chatWire compact).step quietWire receiptCall).1

/-- The two sides with the bytes in the buffer of the receiver. -/
def wireArrived : ChatWire := ((chatWire compact).step wireSent receiptBytes).1

/-- The two sides after it. -/
def wireHandled : ChatWire := ((chatWire compact).step wireArrived receiptHandled).1

lemma wired_receiptCall : Wired compact .left leftDialled quietWire receiptCall := by
  refine ⟨?_, by decide +kernel, ?_, fun h => absurd h (by decide), by decide, ?_⟩
  · intro frame ip h
    cases h
  · rw [ChatNet.DistinctIds]
    decide +kernel
  · intro m _ t ht
    cases ht

lemma wired_receiptBytes : Wired compact .left leftDialled wireSent receiptBytes := by
  have hsize : ((((wireSent.peer.sockets .right).bufferOf (.accepted 0)).getD []) ++
      (wireSent.peer.wires .right .left).take 60).length ≤ MAX_RECEIVE_BUFFER_SIZE := by
    decide +kernel
  refine ⟨rfl, fun b hb => ?_⟩
  have hbuffer : (wireSent.peer.sockets .right).bufferOf (.accepted 0) = some b := hb
  rw [hbuffer] at hsize
  exact hsize

lemma wired_receiptHandled : Wired compact .left leftDialled wireArrived receiptHandled := by
  obtain ⟨hheard, hseen⟩ : wireArrived.peer.heard .right .left = [(receiptFrame, "10.77.0.1")] ∧
      wireArrived.net.seen .right = [] := by decide +kernel
  refine ⟨rfl, _, _, hheard, by decide +kernel, ?_, fun _ _ _ h => ?_, by decide +kernel, ?_⟩
  · rw [ChatNet.DistinctIds]
    decide +kernel
  · cases h
  · intro m _ t ht
    have hmem : (m.messageId, t) ∈ wireArrived.net.seen .right := ht
    rw [hseen] at hmem
    cases hmem

theorem chat_refines_queues_receipt :
    (∃ log deeds, Run (linkNetwork compact) (Linked compact .left .right) quietWire.net log deeds
      wireHandled.net) ∧
      wireHandled.net.taken .right .left = (wireHandled.net.net.mail .right).length := by
  obtain ⟨log, hrun⟩ : ∃ log, Run (chatWire compact) (Wired compact .left leftDialled) quietWire
      [receiptCall, receiptBytes, receiptHandled] log wireHandled :=
    ⟨_, ((Run.nil.snoc wired_receiptCall).snoc wired_receiptBytes).snoc wired_receiptHandled⟩
  obtain ⟨⟨deeds, hqueues⟩, hall⟩ := chat_refines_queues ⟨.left, rfl⟩ hrun
  obtain ⟨hwires, hqueue, hheard⟩ : wireHandled.peer.wires .right .left = [] ∧
      (wireHandled.peer.sockets .left).m_outgoingQueue = [] ∧
      wireHandled.peer.heard .right .left = [] := by decide +kernel
  exact ⟨⟨_, deeds, hqueues⟩, hall .right .left rfl hwires (fun _ => hqueue) hheard⟩

end MeckChat.Protocol
