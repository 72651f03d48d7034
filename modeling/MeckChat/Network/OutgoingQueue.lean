import MeckChat.Network.P2PSocket

/-!
The queue of outgoing packets over whole runs of a socket.

* `flushLoop_bytes` and `flushLoop_count`: the loop of `flushWriteQueue` only
  moves bytes from the front of the queue to the connection, and counts them.
* `Ledger` reads off a log what was enqueued, and what the connection took,
  since the last connection came to its end.
* `Sound` is the invariant that ties ledger and state together; each call keeps
  it, and `outgoing_queue` is what follows for every sequence of events.
-/

namespace MeckChat.Network

open MeckChat.Protocol SocketTurn

/-! ### The loop -/

/-- Nothing is lost, doubled or moved by the writes of one loop. -/
lemma flushLoop_bytes (queue : List Bytes) (queuedBytes : ℤ) (writes : List (Option ℕ)) :
    (flushLoop queue queuedBytes writes).accepted.flatten ++
      (flushLoop queue queuedBytes writes).queue.flatten = queue.flatten := by
  induction queue generalizing queuedBytes writes with
  | nil => simp [flushLoop]
  | cons chunk queue ih =>
      cases writes with
      | nil => simp [flushLoop]
      | cons outcome writes =>
          cases outcome with
          | none => simp [flushLoop]
          | some n =>
              rw [flushLoop]
              dsimp only
              split_ifs
              · have hrest := ih (queuedBytes - (min n chunk.length : ℕ)) writes
                simp only [List.flatten_cons, List.append_assoc, hrest]
              · simp [← List.append_assoc]
              · simp

/-- The byte counter goes down by what was taken. -/
lemma flushLoop_count (queue : List Bytes) (queuedBytes : ℤ) (writes : List (Option ℕ)) :
    (flushLoop queue queuedBytes writes).queuedBytes +
      (flushLoop queue queuedBytes writes).accepted.flatten.length = queuedBytes := by
  induction queue generalizing queuedBytes writes with
  | nil => simp [flushLoop]
  | cons chunk queue ih =>
      cases writes with
      | nil => simp [flushLoop]
      | cons outcome writes =>
          cases outcome with
          | none => simp [flushLoop]
          | some n =>
              rw [flushLoop]
              dsimp only
              split_ifs with hall
              · have hrest := ih (queuedBytes - (min n chunk.length : ℕ)) writes
                simp only [List.flatten_cons, List.length_append]
                omega
              · simp only [List.flatten_singleton, List.length_take]
                omega
              · simp

/-! ### The ledger -/

/-- What has happened since the last connection came to its end: whether the
next one was established, the frames enqueued, and the bytes that the socket
took. -/
structure Ledger where
  established : Bool := false
  enqueued : List P2PFrame := []
  accepted : Bytes := []
  deriving DecidableEq, Repr

namespace Ledger

/-- One more effect. A connection ends with `disconnected`, and where a new one is
begun. -/
def note (l : Ledger) : SocketEffect → Ledger
  | .connectToHost _ => {}
  | .disconnected => {}
  | .connected => { l with established := true }
  | .enqueued _ frame => { l with enqueued := l.enqueued ++ [frame] }
  | .accepted _ bytes => { l with accepted := l.accepted ++ bytes }
  | _ => l

/-- The ledger after a log. -/
def after (l : Ledger) (log : List SocketEffect) : Ledger := log.foldl note l

/-- The ledger of a log from the start. -/
def ofLog (log : List SocketEffect) : Ledger := after {} log

@[simp] lemma after_nil (l : Ledger) : l.after [] = l := rfl

@[simp] lemma after_append (l : Ledger) (log log' : List SocketEffect) :
    l.after (log ++ log') = (l.after log).after log' := List.foldl_append

@[simp] lemma after_singleton (l : Ledger) (e : SocketEffect) : l.after [e] = l.note e := rfl

/-- Accepted chunks are booked one behind the other. -/
@[simp] lemma after_accepted (l : Ledger) (peer : String) (chunks : List Bytes) :
    l.after (chunks.map (.accepted peer)) =
      { l with accepted := l.accepted ++ chunks.flatten } := by
  induction chunks generalizing l with
  | nil => simp
  | cons chunk chunks ih =>
      have hcons : l.after ((chunk :: chunks).map (.accepted peer)) =
          (l.note (.accepted peer chunk)).after (chunks.map (.accepted peer)) := rfl
      rw [hcons, ih, note, List.flatten_cons, List.append_assoc]

/-- What is written to accepted connections, received or reported is not
booked. -/
lemma after_of_forall {l : Ledger} {log : List SocketEffect}
    (h : ∀ e ∈ log, ∀ l : Ledger, l.note e = l) :
    l.after log = l := by
  induction log generalizing l with
  | nil => rfl
  | cons e log ih =>
      have hcons : l.after (e :: log) = (l.note e).after log := rfl
      rw [hcons, h e (by simp), ih fun e' he' => h e' (by simp [he'])]

end Ledger

/-! ### The invariant -/

/-- A socket is in line with the ledger of what it did. -/
structure Sound (l : Ledger) (s : P2PSocket) : Prop where
  bytes : l.accepted ++ s.m_outgoingQueue.flatten = l.enqueued.flatMap P2PFrame.encode
  count : s.m_queuedBytes = s.m_outgoingQueue.flatten.length
  limit : s.m_queuedBytes ≤ MAX_OUTGOING_QUEUE_SIZE
  idle : l.established = false → l.enqueued = [] ∧ l.accepted = []
  connected : s.m_state = .Connected → l.established = true

namespace Sound

variable {l : Ledger} {t : SocketTurn} {io : SocketIo}

/-- A new socket, or one whose connection came to its end. -/
lemma fresh {s : P2PSocket} (hqueue : s.m_outgoingQueue = []) (hcount : s.m_queuedBytes = 0)
    (hstate : s.m_state ≠ .Connected) : Sound {} s := by
  refine ⟨?_, ?_, ?_, fun _ => ⟨rfl, rfl⟩, fun h => absurd h hstate⟩
  · simp [hqueue]
  · simp [hqueue, hcount]
  · simp [hcount, MAX_OUTGOING_QUEUE_SIZE]

/-- What books nothing, leaves the queue alone and does not get to `Connected`
keeps the invariant. -/
lemma congr {s s' : P2PSocket} {l' : Ledger} (h : Sound l s) (hl : l' = l)
    (hqueue : s'.m_outgoingQueue = s.m_outgoingQueue) (hcount : s'.m_queuedBytes = s.m_queuedBytes)
    (hstate : s'.m_state = .Connected → s.m_state = .Connected) : Sound l' s' := by
  subst hl
  refine ⟨?_, ?_, ?_, h.idle, fun h' => h.connected (hstate h')⟩
  · rw [hqueue]
    exact h.bytes
  · rw [hqueue, hcount]
    exact h.count
  · rw [hcount]
    exact h.limit

end Sound

/-- The invariant for a socket that a call is working on. -/
def SocketTurn.Sound (l : Ledger) (t : SocketTurn) : Prop :=
  Network.Sound (l.after t.effects) t.socket

namespace SocketTurn

variable {l : Ledger} {t : SocketTurn} {io : SocketIo}

lemma Sound.flushWriteQueue (h : t.Sound l) : (t.flushWriteQueue io).Sound l := by
  rw [SocketTurn.flushWriteQueue]
  split_ifs
  · have hbytes := flushLoop_bytes t.socket.m_outgoingQueue t.socket.m_queuedBytes io.writes
    have hcount := flushLoop_count t.socket.m_outgoingQueue t.socket.m_queuedBytes io.writes
    have hlength := congrArg List.length hbytes
    have hold := h.count
    have hlimit := h.limit
    rw [List.length_append] at hlength
    rw [SocketTurn.Sound, Ledger.after_append, Ledger.after_accepted]
    refine ⟨?_, ?_, ?_, ?_, h.connected⟩
    · rw [List.append_assoc, hbytes]
      exact h.bytes
    · dsimp only
      omega
    · dsimp only
      omega
    · intro hidle
      obtain ⟨henqueued, haccepted⟩ := h.idle hidle
      -- without a connection there is nothing in the queue that could be taken
      have hempty := h.bytes
      rw [henqueued, haccepted, List.nil_append, List.flatMap_nil] at hempty
      rw [hempty, List.append_eq_nil_iff] at hbytes
      simp only [henqueued, haccepted, hbytes.1, List.append_nil, and_self]
  · exact h

/-- A frame that still fits goes to the end of the queue. -/
lemma Sound.enqueue (h : t.Sound l) {frame : P2PFrame}
    (hfits : t.socket.m_queuedBytes + frame.encode.length ≤ MAX_OUTGOING_QUEUE_SIZE)
    (hest : (l.after t.effects).established = true) : (t.enqueue frame).Sound l := by
  have hbytes := h.bytes
  have hcount := h.count
  have hledger : l.after (t.enqueue frame).effects =
      { l.after t.effects with enqueued := (l.after t.effects).enqueued ++ [frame] } := by
    rw [SocketTurn.enqueue, Ledger.after_append, Ledger.after_singleton, Ledger.note]
  rw [SocketTurn.Sound, hledger]
  refine ⟨?_, ?_, hfits, ?_, fun _ => hest⟩
  · simp [SocketTurn.enqueue, ← List.append_assoc, hbytes]
  · simp only [SocketTurn.enqueue, List.flatten_append, List.flatten_singleton, List.length_append]
    omega
  · intro hidle
    rw [hest] at hidle
    cases hidle

/-- Writes to accepted connections are not booked. -/
lemma after_writeToClients (packet : Bytes) :
    l.after (t.writeToClients packet).effects = l.after t.effects := by
  rw [SocketTurn.writeToClients, Ledger.after_append]
  apply Ledger.after_of_forall
  intro e he _
  obtain ⟨c, -, rfl⟩ := List.mem_map.mp he
  rfl

/-- On a connection `sendFrame` enqueues exactly the frames for which it returns `true`. -/
lemma enqueued_sendFrame (io : SocketIo) (frame : P2PFrame)
    (hready : t.socket.clientReady = true) :
    (l.after (t.sendFrame io frame).1.effects).enqueued = (l.after t.effects).enqueued ++
      if (t.sendFrame io frame).2 then [frame] else [] := by
  have hflush : ∀ t : SocketTurn, (l.after (t.flushWriteQueue io).effects).enqueued =
      (l.after t.effects).enqueued := by
    intro t
    rw [SocketTurn.flushWriteQueue]
    split_ifs
    · rw [Ledger.after_append, Ledger.after_accepted]
    · rfl
  rw [SocketTurn.sendFrame, if_pos hready]
  by_cases hfits : t.socket.m_queuedBytes + frame.encode.length ≤ MAX_OUTGOING_QUEUE_SIZE
  · rw [if_pos hfits, if_pos rfl, after_writeToClients, hflush, SocketTurn.enqueue,
      Ledger.after_append]
    rfl
  · rw [if_neg hfits, if_neg Bool.false_ne_true, log, Ledger.after_append, List.append_nil]
    rfl

lemma Sound.writeToClients (h : t.Sound l) (packet : Bytes) : (t.writeToClients packet).Sound l :=
  h.congr (after_writeToClients packet) rfl rfl id

lemma Sound.sendFrame (h : t.Sound l) (frame : P2PFrame) : (t.sendFrame io frame).1.Sound l := by
  rw [SocketTurn.sendFrame]
  split_ifs with hready hfits
  · have hest : (l.after t.effects).established = true := by
      rw [P2PSocket.clientReady, Bool.and_eq_true, decide_eq_true_eq] at hready
      exact h.connected hready.1
    exact (h.enqueue hfits hest).flushWriteQueue.writeToClients _
  · exact h.congr (Ledger.after_append _ _ _) rfl rfl id
  · exact h.writeToClients _

lemma Sound.setState (h : t.Sound l) {state : P2PState} (hstate : state ≠ .Connected) :
    (t.setState state).Sound l := by
  rw [SocketTurn.setState]
  split_ifs
  · exact h.congr (Ledger.after_append _ _ _) rfl rfl fun h' => absurd h' hstate
  · exact h

/-- Changes of the state book nothing. -/
lemma after_setState (state : P2PState) :
    l.after (t.setState state).effects = l.after t.effects := by
  rw [SocketTurn.setState]
  split_ifs
  · exact Ledger.after_append _ _ _
  · rfl

lemma Sound.onSocketConnected (h : t.Sound l) : (t.onSocketConnected io).Sound l := by
  have hledger : l.after ((t.setState .Connected).log .connected).effects =
      { l.after t.effects with established := true } := by
    rw [log, Ledger.after_append, after_setState]
    rfl
  have hsocket : ((t.setState .Connected).log .connected).Sound l := by
    rw [SocketTurn.Sound, hledger]
    refine ⟨?_, ?_, ?_, by simp, fun _ => rfl⟩
    · simpa [log] using h.bytes
    · simpa [log] using h.count
    · simpa [log] using h.limit
  exact hsocket.flushWriteQueue

/-- A connection that ended leaves nothing behind. -/
lemma sound_onSocketDisconnected : t.onSocketDisconnected.Sound l := by
  have hledger : l.after t.onSocketDisconnected.effects = {} := by
    rw [onSocketDisconnected, log, Ledger.after_append]
    rfl
  rw [SocketTurn.Sound, hledger]
  exact .fresh rfl rfl (by simp [onSocketDisconnected, log, clearBuffers])

lemma Sound.disconnectFromPeer (h : t.Sound l) : (t.disconnectFromPeer io).Sound l := by
  have hclosing : (t.setState .Closing).Sound l := h.setState (by decide)
  rw [SocketTurn.disconnectFromPeer]
  dsimp only
  split_ifs
  · rw [disconnectFromHost]
    split_ifs
    · exact sound_onSocketDisconnected
    · exact hclosing.congr rfl rfl rfl id
  · exact hclosing
  · exact h

/-- A new attempt begins with an empty queue. -/
lemma sound_connectToHost (hqueue : t.socket.m_outgoingQueue = [])
    (hcount : t.socket.m_queuedBytes = 0) (hstate : t.socket.m_state ≠ .Connected)
    (virtualIp : String) : (t.connectToHost io virtualIp).Sound l := by
  have hledger : l.after (t.log (.connectToHost virtualIp)).effects = {} := by
    rw [log, Ledger.after_append]
    rfl
  have hnew : ∀ socket, SocketTurn.Sound l
      { t.log (.connectToHost virtualIp) with socket.m_socket := socket } := by
    intro socket
    rw [SocketTurn.Sound, hledger]
    exact .fresh hqueue hcount hstate
  rw [connectToHost]
  dsimp only
  split_ifs
  · exact hnew t.socket.m_socket
  · exact (hnew _).onSocketConnected
  · exact hnew _

lemma sound_connectToPeer (virtualIp : String) : (t.connectToPeer io virtualIp).Sound l := by
  rw [connectToPeer]
  exact sound_connectToHost (by simp [clearBuffers]) (by simp [clearBuffers]) (by simp) virtualIp

lemma Sound.processIncomingBytes (h : t.Sound l) (senderIp : String) (r : StreamResult) :
    (t.processIncomingBytes senderIp r).Sound l := by
  refine h.congr ?_ rfl rfl id
  rw [SocketTurn.processIncomingBytes, List.append_assoc, Ledger.after_append]
  apply Ledger.after_of_forall
  intro e he _
  rcases List.mem_append.mp he with he | he
  · split_ifs at he
    · rw [List.mem_singleton.mp he]
      rfl
    · cases he
  · obtain ⟨f, -, rfl⟩ := List.mem_map.mp he
    rfl

/-- **One event.** Every reaction keeps the socket in line with its ledger. -/
theorem Sound.react (h : t.Sound l) (event : SocketEvent) :
    (P2PSocket.react event io t).Sound l := by
  cases event with
  | connectToPeer virtualIp => exact sound_connectToPeer virtualIp
  | disconnectFromPeer => exact h.disconnectFromPeer
  | sendFrame frame => exact h.sendFrame frame
  | connected => exact h.onSocketConnected
  | disconnected => exact sound_onSocketDisconnected
  | readyRead data =>
      have hread : SocketTurn.Sound l
          { t with socket.m_readBuffer := (received (t.socket.m_readBuffer ++ data)).buffer } :=
        h.congr rfl rfl rfl id
      exact hread.processIncomingBytes _ _
  | bytesWritten => exact h.flushWriteQueue
  | errorOccurred error => exact h.congr (Ledger.after_append _ _ _) rfl rfl id
  | stopServer => exact h.congr rfl rfl rfl id
  | newConnection client peerIp =>
      rw [P2PSocket.react, onServerNewConnection]
      split_ifs
      · exact h
      · exact h.congr (Ledger.after_append _ _ _) rfl rfl id
  | clientReadyRead client data =>
      rw [P2PSocket.react, onClientReadyRead]
      cases hc : t.socket.m_serverClientBuffers.value? client with
      | none => exact h
      | some c =>
          refine Sound.processIncomingBytes ?_ _ _
          exact h.congr rfl rfl rfl id
  | clientDisconnected client =>
      rw [P2PSocket.react, onClientDisconnected]
      cases hc : t.socket.m_serverClientBuffers.value? client with
      | none => exact h
      | some c => exact h.congr (Ledger.after_append _ _ _) rfl rfl id
  | socketIs socket => exact h.congr rfl rfl rfl id
  | clientIs client socket =>
      rw [P2PSocket.react]
      cases hc : t.socket.m_serverClientBuffers.value? client with
      | none => exact h
      | some c => exact h.congr rfl rfl rfl id

end SocketTurn

/-- Every state that is reached is in line with the log. -/
lemma sound_exec (es : List (SocketEvent × SocketIo)) :
    Sound (Ledger.ofLog (P2PSocket.machine.exec {} es).1) (P2PSocket.machine.exec {} es).2 := by
  have hrun : Run P2PSocket.machine (fun _ _ => True) {} es (P2PSocket.machine.exec {} es).1
      (P2PSocket.machine.exec {} es).2 :=
    Run.exec (P2PSocket.machine.allows_of_forall (fun _ _ => trivial) {} es)
  refine hrun.invariant_log (I := fun _ log s => Sound (Ledger.ofLog log) s) ?_ ?_
  · exact .fresh rfl rfl (by decide)
  · intro _ log s e h _
    have hbefore : SocketTurn.Sound (Ledger.ofLog log) { socket := s } := h
    have hstep : SocketTurn.Sound (Ledger.ofLog log) (P2PSocket.react e.1 e.2 { socket := s }) :=
      hbefore.react e.1
    rw [SocketTurn.Sound, Ledger.ofLog, ← Ledger.after_append] at hstep
    exact hstep

/-- **Integrity of the outgoing queue.** After every sequence of events, with
every outcome of every write: what the connection took, followed by what is still
queued, are the encodings of the frames enqueued on it, in order; the counter is
the size of the queue and within its limit; and nothing is enqueued or taken
before the connection is established. -/
theorem outgoing_queue (es : List (SocketEvent × SocketIo)) :
    let ledger := Ledger.ofLog (P2PSocket.machine.exec {} es).1
    let s := (P2PSocket.machine.exec {} es).2
    ledger.accepted ++ s.m_outgoingQueue.flatten = ledger.enqueued.flatMap P2PFrame.encode ∧
      s.m_queuedBytes = (s.m_outgoingQueue.map List.length).sum ∧
      0 ≤ s.m_queuedBytes ∧ s.m_queuedBytes ≤ MAX_OUTGOING_QUEUE_SIZE ∧
      (ledger.established = false → ledger.enqueued = [] ∧ ledger.accepted = []) := by
  intro ledger s
  have hsound : Sound ledger s := sound_exec es
  have hcount := hsound.count
  refine ⟨hsound.bytes, ?_, by omega, hsound.limit, hsound.idle⟩
  rw [hcount, List.length_flatten]

end MeckChat.Network
