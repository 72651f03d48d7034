import MeckChat.Network.Transport

/-!
The streams of bytes that a socket receives, over whole runs.

* `Stream` names the client connection and the accepted ones, and `bufferOf` is the receive
  buffer of a stream. `Resets` are the events at which a stream may end or begin anew.
* `bufferOf_react` and `emitted_react` say what one event does to a stream: nothing, unless it
  brings bytes on that stream.
* `streams_isolated`: until it is reset, what is handed on from a stream is what its own
  chunks make, whatever happens on the socket meanwhile.
* `frames_in_order`: at every moment the frames handed on are the first ones that the sender
  enqueued on the connection, and all of them in the end.
* `BufferChange` and `ClientsChange` are all that an event can do to the buffers, and
  `memory_bounded` is what follows for the bytes that a socket holds.
-/

namespace MeckChat.Network

open MeckChat.Protocol SocketTurn StreamDecoder

/-! ### Streams -/

/-- The client connection, or an accepted one. -/
inductive Stream where
  | client
  | accepted (client : ℕ)
  deriving DecidableEq, Repr

/-- The receive buffer of a stream, if there is one. -/
def P2PSocket.bufferOf (s : P2PSocket) : Stream → Option Bytes
  | .client => some s.m_readBuffer
  | .accepted client => (s.m_serverClientBuffers.value? client).map (·.buffer)

/-- The bytes that an event brings, and the stream they arrive on. -/
def SocketEvent.arrival? : SocketEvent → Option (Stream × Bytes)
  | .readyRead data => some (.client, data)
  | .clientReadyRead client data => some (.accepted client, data)
  | _ => none

/-- The bytes that an event brings on a stream. -/
def SocketEvent.chunk? (i : Stream) (e : SocketEvent) : Option Bytes :=
  match e.arrival? with
  | some (j, data) => if j = i then some data else none
  | none => none

/-- The events at which a stream may end or begin anew. -/
def SocketEvent.Resets : Stream → SocketEvent → Prop
  | .client, .connectToPeer _ => True
  | .client, .disconnectFromPeer => True
  | .client, .disconnected => True
  | .accepted _, .stopServer => True
  | .accepted client, .newConnection other _ => other = client
  | .accepted client, .clientDisconnected other => other = client
  | _, _ => False

/-- The chunks that events bring on a stream. -/
def chunks (i : Stream) (es : List (SocketEvent × SocketIo)) : List Bytes :=
  es.filterMap fun e => e.1.chunk? i

/-- The frames that were handed on from a stream. -/
def heard (i : Stream) (log : List ((SocketEvent × SocketIo) × SocketEffect)) : List P2PFrame :=
  emitted ((log.filter fun x => (x.1.1.chunk? i).isSome).map Prod.snd)

/-! ### One event -/

namespace SocketTurn

variable (io : SocketIo) (t : SocketTurn)

@[simp] lemma m_readBuffer_setState (state : P2PState) :
    (t.setState state).socket.m_readBuffer = t.socket.m_readBuffer := by
  rw [setState]
  split_ifs <;> rfl

@[simp] lemma m_readBuffer_flushWriteQueue :
    (t.flushWriteQueue io).socket.m_readBuffer = t.socket.m_readBuffer := by
  rw [flushWriteQueue]
  split_ifs <;> rfl

@[simp] lemma m_readBuffer_onSocketConnected :
    (t.onSocketConnected io).socket.m_readBuffer = t.socket.m_readBuffer := by
  simp [onSocketConnected, log]

lemma m_readBuffer_sendFrame (frame : P2PFrame) :
    (t.sendFrame io frame).1.socket.m_readBuffer = t.socket.m_readBuffer := by
  rw [sendFrame]
  split_ifs
  · exact m_readBuffer_flushWriteQueue _ _
  · rfl
  · rfl

lemma m_serverClientBuffers_sendFrame (frame : P2PFrame) :
    (t.sendFrame io frame).1.socket.m_serverClientBuffers = t.socket.m_serverClientBuffers := by
  rw [sendFrame]
  split_ifs
  · exact m_serverClientBuffers_flushWriteQueue _ _
  · rfl
  · rfl

/-- The receive buffer is empty behind a new attempt. -/
lemma m_readBuffer_connectToPeer (virtualIp : String) :
    (t.connectToPeer io virtualIp).socket.m_readBuffer = [] := by
  have hconnect : ∀ t : SocketTurn, (t.connectToHost io virtualIp).socket.m_readBuffer =
      t.socket.m_readBuffer := by
    intro t
    simp only [connectToHost]
    split_ifs <;> simp [log]
  rw [connectToPeer, hconnect, m_readBuffer_setState]
  rfl

/-- A disconnect leaves the receive buffer, or empties it. -/
lemma m_readBuffer_disconnectFromPeer :
    (t.disconnectFromPeer io).socket.m_readBuffer = t.socket.m_readBuffer ∨
      (t.disconnectFromPeer io).socket.m_readBuffer = [] := by
  simp only [disconnectFromPeer, disconnectFromHost]
  split_ifs
  · exact .inr rfl
  · exact .inl (m_readBuffer_setState t _)
  · exact .inl (m_readBuffer_setState t _)
  · exact .inl rfl

end SocketTurn

variable {i : Stream} {e : SocketEvent} {io : SocketIo} {t : SocketTurn} {b : Bytes}

lemma bufferOf_congr {s s' : P2PSocket} (hread : s'.m_readBuffer = s.m_readBuffer)
    (hclients : s'.m_serverClientBuffers = s.m_serverClientBuffers) :
    s'.bufferOf i = s.bufferOf i := by
  cases i with
  | client => exact congrArg some hread
  | accepted client => rw [P2PSocket.bufferOf, P2PSocket.bufferOf, hclients]

/-- A client socket changes without its server side. -/
lemma bufferOf_accepted {s s' : P2PSocket} {client : ℕ}
    (hclients : s'.m_serverClientBuffers = s.m_serverClientBuffers) :
    s'.bufferOf (.accepted client) = s.bufferOf (.accepted client) := by
  rw [P2PSocket.bufferOf, P2PSocket.bufferOf, hclients]

variable (io) in
/-- **One event on a stream.** Its buffer changes with the bytes that arrive on it. -/
lemma bufferOf_react (hreset : ¬ e.Resets i) (hb : t.socket.bufferOf i = some b) :
    (P2PSocket.react e io t).socket.bufferOf i =
      match e.chunk? i with
      | some data => some (received (b ++ data)).buffer
      | none => some b := by
  cases e with
  | connectToPeer virtualIp =>
      cases i with
      | client => exact absurd trivial hreset
      | accepted client =>
          exact (bufferOf_accepted (m_serverClientBuffers_connectToPeer io t virtualIp)).trans hb
  | disconnectFromPeer =>
      cases i with
      | client => exact absurd trivial hreset
      | accepted client =>
          exact (bufferOf_accepted (m_serverClientBuffers_disconnectFromPeer io t)).trans hb
  | sendFrame frame =>
      exact (bufferOf_congr (m_readBuffer_sendFrame io t frame)
        (m_serverClientBuffers_sendFrame io t frame)).trans hb
  | connected =>
      exact (bufferOf_congr (m_readBuffer_onSocketConnected io t)
        (m_serverClientBuffers_onSocketConnected io t)).trans hb
  | disconnected =>
      cases i with
      | client => exact absurd trivial hreset
      | accepted client =>
          exact (bufferOf_accepted (m_serverClientBuffers_onSocketDisconnected t)).trans hb
  | readyRead data =>
      cases i with
      | client =>
          have hread : t.socket.m_readBuffer = b := Option.some.inj hb
          show some (received (t.socket.m_readBuffer ++ data)).buffer = _
          rw [hread]
          rfl
      | accepted client => exact hb
  | bytesWritten =>
      exact (bufferOf_congr (m_readBuffer_flushWriteQueue io t)
        (m_serverClientBuffers_flushWriteQueue io t)).trans hb
  | errorOccurred error => exact hb
  | stopServer =>
      cases i with
      | client => exact hb
      | accepted client => exact absurd trivial hreset
  | newConnection other peerIp =>
      rw [P2PSocket.react, onServerNewConnection]
      split_ifs
      · exact hb
      · cases i with
        | client => exact hb
        | accepted client =>
            have hne : other ≠ client := hreset
            rw [P2PSocket.bufferOf, QMap.value?_insert_of_ne _ hne]
            exact hb
  | clientReadyRead other data =>
      rw [P2PSocket.react, onClientReadyRead]
      cases i with
      | client =>
          cases hother : t.socket.m_serverClientBuffers.value? other with
          | none => exact hb
          | some c => exact hb
      | accepted client =>
          by_cases hsame : other = client
          · subst hsame
            obtain ⟨c, hc, rfl⟩ := Option.map_eq_some_iff.mp hb
            have hchunk : (SocketEvent.clientReadyRead other data).chunk? (.accepted other) =
                some data := if_pos rfl
            rw [hc, hchunk]
            show Option.map _
              (QMap.value? (t.socket.m_serverClientBuffers.insert other _) other) = _
            rw [QMap.value?_insert_self]
            rfl
          · have hstream : Stream.accepted other ≠ .accepted client := by
              intro h
              exact hsame (Stream.accepted.inj h)
            have hchunk : (SocketEvent.clientReadyRead other data).chunk? (.accepted client) =
                none := if_neg hstream
            rw [hchunk]
            cases hother : t.socket.m_serverClientBuffers.value? other with
            | none => exact hb
            | some c =>
                show Option.map _
                  (QMap.value? (t.socket.m_serverClientBuffers.insert other _) client) = _
                rw [QMap.value?_insert_of_ne _ hsame]
                exact hb
  | clientDisconnected other =>
      rw [P2PSocket.react, onClientDisconnected]
      cases hother : t.socket.m_serverClientBuffers.value? other with
      | none => exact hb
      | some c =>
          cases i with
          | client => exact hb
          | accepted client =>
              have hne : other ≠ client := hreset
              rw [P2PSocket.bufferOf, QMap.value?_erase_of_ne _ hne]
              exact hb
  | socketIs socket =>
      exact (bufferOf_congr (s := t.socket) rfl rfl).trans hb
  | clientIs other socket =>
      rw [P2PSocket.react]
      cases hother : t.socket.m_serverClientBuffers.value? other with
      | none => exact hb
      | some c =>
          cases i with
          | client => exact hb
          | accepted client =>
              show Option.map _
                (QMap.value? (t.socket.m_serverClientBuffers.insert other _) client) = some b
              by_cases hsame : other = client
              · subst hsame
                obtain ⟨c', hc', hbuffer⟩ := Option.map_eq_some_iff.mp hb
                obtain rfl : c = c' := Option.some.inj (hother.symm.trans hc')
                rw [QMap.value?_insert_self]
                exact congrArg some hbuffer
              · rw [QMap.value?_insert_of_ne _ hsame]
                exact hb

variable (io) in
/-- The frames that an event hands on from the stream it brings bytes on. -/
lemma emitted_react {s : P2PSocket} {data : Bytes} (hb : s.bufferOf i = some b)
    (hchunk : e.chunk? i = some data) :
    emitted (P2PSocket.react e io { socket := s }).effects = (received (b ++ data)).frames := by
  cases e with
  | readyRead bytes =>
      rw [SocketEvent.chunk?] at hchunk
      dsimp only [SocketEvent.arrival?] at hchunk
      split_ifs at hchunk with hi
      subst hi
      obtain rfl := Option.some.inj hchunk
      have hread : s.m_readBuffer = b := Option.some.inj hb
      rw [P2PSocket.react, onSocketReadyRead]
      dsimp only
      rw [emitted_processIncomingBytes, hread]
      rfl
  | clientReadyRead client bytes =>
      rw [SocketEvent.chunk?] at hchunk
      dsimp only [SocketEvent.arrival?] at hchunk
      split_ifs at hchunk with hi
      subst hi
      obtain rfl := Option.some.inj hchunk
      obtain ⟨c, hc, rfl⟩ := Option.map_eq_some_iff.mp hb
      rw [P2PSocket.react, onClientReadyRead]
      dsimp only
      rw [hc]
      dsimp only
      rw [emitted_processIncomingBytes]
      rfl
  | _ => cases hchunk

/-! ### Isolation -/

lemma feedReceived_snoc (b : Bytes) (cs : List Bytes) (c : Bytes) :
    feedReceived b (cs ++ [c]) =
      ((feedReceived b cs).1 ++ (received ((feedReceived b cs).2 ++ c)).frames,
        (received ((feedReceived b cs).2 ++ c)).buffer) := by
  induction cs generalizing b with
  | nil => simp [feedReceived]
  | cons d cs ih =>
      rw [List.cons_append, feedReceived, feedReceived]
      dsimp only
      rw [ih, List.append_assoc]

lemma heard_append (log entries : List ((SocketEvent × SocketIo) × SocketEffect)) :
    heard i (log ++ entries) = heard i log ++ heard i entries := by
  rw [heard, List.filter_append, List.map_append, emitted_append, heard, heard]

/-- What one event adds to what was heard. -/
lemma heard_step (s : P2PSocket) (e : SocketEvent × SocketIo) :
    heard i (P2PSocket.machine.withEvents.step s e).2 =
      if (e.1.chunk? i).isSome then
        emitted (P2PSocket.react e.1 e.2 { socket := s }).effects
      else [] := by
  have hstep : (P2PSocket.machine.withEvents.step s e).2 =
      (P2PSocket.react e.1 e.2 { socket := s }).effects.map fun x => (e, x) := rfl
  have hfilter : ∀ effects : List SocketEffect,
      ((effects.map fun x => (e, x)).filter fun x => (x.1.1.chunk? i).isSome).map Prod.snd =
        if (e.1.chunk? i).isSome then effects else [] := by
    intro effects
    rw [List.filter_map, List.map_map]
    split_ifs with harrival <;> simp [Function.comp_def, harrival]
  rw [heard, hstep, hfilter]
  split_ifs <;> rfl

variable (i b) in
/-- What was heard on a stream, and what is left, are what its chunks make. -/
def Isolated (es : List (SocketEvent × SocketIo))
    (log : List ((SocketEvent × SocketIo) × SocketEffect)) (s : P2PSocket) : Prop :=
  heard i log = (feedReceived b (chunks i es)).1 ∧
    s.bufferOf i = some (feedReceived b (chunks i es)).2

lemma isolated_step {es : List (SocketEvent × SocketIo)}
    {log : List ((SocketEvent × SocketIo) × SocketEffect)} {s : P2PSocket}
    {e : SocketEvent × SocketIo} (h : Isolated i b es log s) (hreset : ¬ e.1.Resets i) :
    Isolated i b (es ++ [e]) (log ++ (P2PSocket.machine.withEvents.step s e).2)
      (P2PSocket.machine.withEvents.step s e).1 := by
  obtain ⟨hheard, hbuffer⟩ := h
  have hafter := bufferOf_react (t := { socket := s }) e.2 hreset hbuffer
  have hnext : (P2PSocket.machine.withEvents.step s e).1.bufferOf i =
      (P2PSocket.react e.1 e.2 { socket := s }).socket.bufferOf i := rfl
  have hchunks : chunks i (es ++ [e]) = chunks i es ++ (e.1.chunk? i).toList := by
    rw [chunks, List.filterMap_append]
    cases hchunk : e.1.chunk? i with
    | none => simp [hchunk, chunks]
    | some data => simp [hchunk, chunks]
  rw [Isolated, heard_append, heard_step, hnext, hafter, hchunks, hheard]
  cases hchunk : e.1.chunk? i with
  | none => exact ⟨by simp, by simp⟩
  | some data =>
      have hframes := emitted_react e.2 hbuffer hchunk
      rw [Option.toList_some, feedReceived_snoc, if_pos (by rfl), hframes]
      exact ⟨rfl, rfl⟩

/-! ### Some first bytes of frames -/

section Admissible

variable {fs : List P2PFrame} (hfs : ∀ f ∈ fs, f.payload.length ≤ MAX_FRAME_PAYLOAD_SIZE.toNat)

include hfs in
/-- The whole frames among some first bytes, and the incomplete one. -/
lemma items_prefix {q : Bytes} (hq : q <+: frameBytes fs) :
    (socketScanner.drain q).items <+: fs ∧
      frameBytes (socketScanner.drain q).items ++ (socketScanner.drain q).rest = q := by
  induction fs generalizing q with
  | nil =>
      rw [List.prefix_nil.mp hq, socketScanner.drain_of_wait rfl]
      exact ⟨List.nil_prefix, rfl⟩
  | cons f fs ih =>
      have hpacket := isPacket_encode (hfs f List.mem_cons_self)
      rw [frameBytes, List.flatMap_cons] at hq
      by_cases hshort : q.length < f.encode.length
      · have hin : q <+: f.encode :=
          List.prefix_of_prefix_length_le hq (List.prefix_append _ _) hshort.le
        have hne : q ≠ f.encode := fun h => absurd (congrArg List.length h) hshort.ne
        rw [socketScanner.drain_of_wait (hpacket.partial_wait q hin hne)]
        exact ⟨List.nil_prefix, rfl⟩
      · obtain ⟨r, rfl⟩ : f.encode <+: q :=
          List.prefix_of_prefix_length_le (List.prefix_append _ _) hq (not_lt.mp hshort)
        obtain ⟨hitems, hbytes⟩ := ih (fun f hf => hfs f (List.mem_cons_of_mem _ hf))
          ((List.prefix_append_right_inj _).mp hq)
        rw [hpacket.drain_append]
        refine ⟨List.cons_prefix_cons.mpr ⟨rfl, hitems⟩, ?_⟩
        show frameBytes (f :: (socketScanner.drain r).items) ++ (socketScanner.drain r).rest = _
        rw [frameBytes, List.flatMap_cons, List.append_assoc]
        exact congrArg (f.encode ++ ·) hbytes

include hfs in
/-- **The next chunk** hands on the frames that it completes. -/
lemma received_next {q chunk : Bytes} (hq : q ++ chunk <+: frameBytes fs)
    (hsize : pending fs q.length + chunk.length ≤ MAX_RECEIVE_BUFFER_SIZE) :
    (socketScanner.drain (q ++ chunk)).items = (socketScanner.drain q).items ++
        (received ((socketScanner.drain q).rest ++ chunk)).frames ∧
      (received ((socketScanner.drain q).rest ++ chunk)).buffer =
        (socketScanner.drain (q ++ chunk)).rest := by
  obtain ⟨hflushed, hpending⟩ := drain_prefix hfs ((List.prefix_append _ _).trans hq)
  have hlength : ((socketScanner.drain q).rest ++ chunk).length ≤ MAX_RECEIVE_BUFFER_SIZE := by
    rw [List.length_append, hpending]
    exact hsize
  obtain ⟨hframes, hbuffer⟩ := received_of_le hlength
  rw [hframes, hbuffer, socketScanner.drain_append hflushed]
  exact ⟨rfl, rfl⟩

include hfs in
/-- Deliveries that fit hand on the whole frames among their bytes. -/
lemma feedReceived_of_fits {q : Bytes} {cs : List Bytes} (hq : q ++ cs.flatten <+: frameBytes fs)
    (hfits : Fits fs q.length cs) :
    (socketScanner.drain (q ++ cs.flatten)).items = (socketScanner.drain q).items ++
        (feedReceived (socketScanner.drain q).rest cs).1 ∧
      (feedReceived (socketScanner.drain q).rest cs).2 =
        (socketScanner.drain (q ++ cs.flatten)).rest := by
  induction cs generalizing q with
  | nil =>
      rw [List.flatten_nil, List.append_nil, feedReceived, List.append_nil]
      exact ⟨rfl, rfl⟩
  | cons c cs ih =>
      obtain ⟨hsize, hlater⟩ := hfits
      rw [List.flatten_cons, ← List.append_assoc] at hq
      obtain ⟨hitems, hrest⟩ := received_next hfs ((List.prefix_append _ _).trans hq) hsize
      rw [← List.length_append] at hlater
      obtain ⟨hitems', hrest'⟩ := ih hq hlater
      rw [List.flatten_cons, ← List.append_assoc, feedReceived, hrest, ← hrest', hitems', hitems,
        List.append_assoc]
      exact ⟨rfl, rfl⟩

end Admissible

/-! ### Runs -/

section Run

variable {s₀ s : P2PSocket} {es : List (SocketEvent × SocketIo)}
  {log : List ((SocketEvent × SocketIo) × SocketEffect)}
  (hrun : Run P2PSocket.machine.withEvents (fun _ e => ¬ e.1.Resets i) s₀ es log s)

include hrun in
/-- **Streams are isolated.** Over every sequence of events that does not reset a stream,
what is handed on from it, and what is left in its buffer, are what its own chunks make of
the buffer it had, whatever arrives, is sent, begins or ends elsewhere on the socket. -/
theorem streams_isolated (hopen : s₀.bufferOf i = some b) :
    heard i log = (feedReceived b (chunks i es)).1 ∧
      s.bufferOf i = some (feedReceived b (chunks i es)).2 :=
  hrun.invariant_log (I := fun es log s => Isolated i b es log s) ⟨rfl, hopen⟩
    fun _ _ _ _ h he => isolated_step h he

include hrun in
/-- **Frames in order.** The bytes that have arrived on a stream are some first ones of those
that the connection took from a sender, whatever the two sockets do besides. Then at every
moment the frames handed on are the first ones that the sender enqueued, none is lost, doubled
or moved, and with the incomplete frame in the buffer they are all that has arrived. Once all
bytes are through, they are all frames. -/
theorem frames_in_order (sent : List (SocketEvent × SocketIo)) (hnew : s₀.bufferOf i = some [])
    (hbytes : (chunks i es).flatten <+:
      (Ledger.ofLog (P2PSocket.machine.exec {} sent).1).accepted) :
    let frames := (Ledger.ofLog (P2PSocket.machine.exec {} sent).1).enqueued
    (∀ f ∈ frames, f.payload.length ≤ MAX_FRAME_PAYLOAD_SIZE.toNat) →
      Fits frames 0 (chunks i es) →
      heard i log <+: frames ∧
        (∃ rest, s.bufferOf i = some rest ∧
          frameBytes (heard i log) ++ rest = (chunks i es).flatten) ∧
        ((P2PSocket.machine.exec {} sent).2.m_outgoingQueue = [] →
          (chunks i es).flatten = (Ledger.ofLog (P2PSocket.machine.exec {} sent).1).accepted →
          heard i log = frames) := by
  intro frames hadmissible hfits
  obtain ⟨hheard, hbuffer⟩ : Isolated i [] es log s :=
    hrun.invariant_log (I := fun es log s => Isolated i [] es log s) ⟨rfl, hnew⟩
      fun _ _ _ _ h he => isolated_step h he
  have hledger := (sound_exec sent).bytes
  have hprefix : (chunks i es).flatten <+: frameBytes frames := by
    rw [frameBytes, ← hledger]
    exact hbytes.trans (List.prefix_append _ _)
  have hnil : socketScanner.drain [] = ⟨[], [], false⟩ := socketScanner.drain_of_wait rfl
  have hfeed := feedReceived_of_fits hadmissible (q := []) hprefix hfits
  rw [hnil, List.nil_append, List.nil_append] at hfeed
  obtain ⟨hitems, hrest⟩ := hfeed
  obtain ⟨hfirst, hall⟩ := items_prefix hadmissible hprefix
  rw [hheard, ← hitems]
  refine ⟨hfirst, ⟨_, hbuffer, by rw [hrest]; exact hall⟩, fun hqueue hthrough => ?_⟩
  rw [hqueue, List.flatten_nil, List.append_nil, ← hthrough] at hledger
  have hbytes' : (chunks i es).flatten = frameBytes frames := hledger
  rw [hbytes', drain_frameBytes hadmissible]

end Run

/-- Both halves of a ping arrive on an accepted connection, and garbage on the client one
between them. -/
def pingAmidGarbage : List (SocketEvent × SocketIo) :=
  [(.clientReadyRead 0 (pingPacket.take 5), {}), (.readyRead [0, 1, 2, 3, 4, 5, 6, 7], {}),
    (.clientReadyRead 0 (pingPacket.drop 5), {})]

lemma run_pingAmidGarbage :
    Run P2PSocket.machine.withEvents (fun _ e => ¬ e.1.Resets (.accepted 0)) acceptingSocket
      pingAmidGarbage (P2PSocket.machine.withEvents.exec acceptingSocket pingAmidGarbage).1
      (P2PSocket.machine.withEvents.exec acceptingSocket pingAmidGarbage).2 :=
  Run.exec ⟨id, id, id, trivial⟩

lemma bufferOf_acceptingSocket : acceptingSocket.bufferOf (.accepted 0) = some [] := by
  rw [P2PSocket.bufferOf, value?_acceptingSocket]
  rfl

theorem streams_isolated_ping :
    heard (.accepted 0)
        (P2PSocket.machine.withEvents.exec acceptingSocket pingAmidGarbage).1 =
      (feedReceived [] [pingPacket.take 5, pingPacket.drop 5]).1 :=
  (streams_isolated run_pingAmidGarbage bufferOf_acceptingSocket).1

theorem frames_in_order_ping :
    heard (.accepted 0)
        (P2PSocket.machine.withEvents.exec acceptingSocket pingAmidGarbage).1 =
      [⟨.Heartbeat, [0x70]⟩] := by
  obtain ⟨hqueue, hledger⟩ := exec_sendOne ⟨.Heartbeat, [0x70]⟩ (by decide)
  have hthrough : (chunks (.accepted 0) pingAmidGarbage).flatten = (Ledger.ofLog
      (P2PSocket.machine.exec {} (sendOne ⟨.Heartbeat, [0x70]⟩)).1).accepted := by
    rw [hledger]
    decide +kernel
  have hall := frames_in_order run_pingAmidGarbage (sendOne ⟨.Heartbeat, [0x70]⟩)
    bufferOf_acceptingSocket (hthrough ▸ List.prefix_rfl)
  rw [hledger] at hall
  refine (hall ?_ ?_).2.2 hqueue (by rw [hthrough, hledger])
  · intro f hf
    rw [List.mem_singleton.mp hf]
    decide
  · have hchunks : chunks (.accepted 0) pingAmidGarbage =
        [pingPacket.take 5, pingPacket.drop 5] := by decide +kernel
    rw [hchunks]
    exact ⟨by decide, by decide, trivial⟩

/-! ### What a socket holds -/

/-- What an event can do to the receive buffer of the client connection. -/
inductive BufferChange (b : Bytes) : Bytes → Prop where
  | unchanged : BufferChange b b
  | emptied : BufferChange b []
  | received (data : Bytes) : BufferChange b (received (b ++ data)).buffer

/-- What an event can do to the accepted connections. -/
inductive ClientsChange (m : QMap ℕ ServerClient) : QMap ℕ ServerClient → Prop where
  | unchanged : ClientsChange m m
  | stopped : ClientsChange m ∅
  | accepted (k : ℕ) (c : ServerClient) (room : m.size < MAX_CONCURRENT_CONNECTIONS)
      (new : c.buffer = []) : ClientsChange m (m.insert k c)
  | updated (k : ℕ) (c c' : ServerClient) (entry : m.value? k = some c)
      (buffer : BufferChange c.buffer c'.buffer) : ClientsChange m (m.insert k c')
  | closed (k : ℕ) : ClientsChange m (m.erase k)

lemma ClientsChange.of_eq {m m' : QMap ℕ ServerClient} (h : m' = m) : ClientsChange m m' :=
  h ▸ .unchanged

lemma BufferChange.of_eq {b b' : Bytes} (h : b' = b) : BufferChange b b' := h ▸ .unchanged

lemma bufferChange_react (e : SocketEvent) :
    BufferChange t.socket.m_readBuffer (P2PSocket.react e io t).socket.m_readBuffer := by
  cases e with
  | connectToPeer virtualIp =>
      rw [P2PSocket.react, m_readBuffer_connectToPeer]
      exact .emptied
  | disconnectFromPeer =>
      rw [P2PSocket.react]
      rcases m_readBuffer_disconnectFromPeer io t with hread | hread
      · rw [hread]
        exact .unchanged
      · rw [hread]
        exact .emptied
  | sendFrame frame => exact .of_eq (m_readBuffer_sendFrame io t frame)
  | connected => exact .of_eq (m_readBuffer_onSocketConnected io t)
  | disconnected => exact .emptied
  | readyRead data => exact .received data
  | bytesWritten => exact .of_eq (m_readBuffer_flushWriteQueue io t)
  | errorOccurred error => exact .unchanged
  | stopServer => exact .unchanged
  | newConnection client peerIp =>
      rw [P2PSocket.react, onServerNewConnection]
      split_ifs <;> exact .unchanged
  | clientReadyRead client data =>
      rw [P2PSocket.react, onClientReadyRead]
      cases t.socket.m_serverClientBuffers.value? client <;> exact .unchanged
  | clientDisconnected client =>
      rw [P2PSocket.react, onClientDisconnected]
      cases t.socket.m_serverClientBuffers.value? client <;> exact .unchanged
  | socketIs socket => exact .unchanged
  | clientIs client socket =>
      rw [P2PSocket.react]
      cases t.socket.m_serverClientBuffers.value? client <;> exact .unchanged

variable (io) in
lemma clientsChange_react (e : SocketEvent) :
    ClientsChange t.socket.m_serverClientBuffers
      (P2PSocket.react e io t).socket.m_serverClientBuffers := by
  cases e with
  | connectToPeer virtualIp => exact .of_eq (m_serverClientBuffers_connectToPeer io t virtualIp)
  | disconnectFromPeer => exact .of_eq (m_serverClientBuffers_disconnectFromPeer io t)
  | sendFrame frame => exact .of_eq (m_serverClientBuffers_sendFrame io t frame)
  | connected => exact .of_eq (m_serverClientBuffers_onSocketConnected io t)
  | disconnected => exact .of_eq (m_serverClientBuffers_onSocketDisconnected t)
  | readyRead data => exact .unchanged
  | bytesWritten => exact .of_eq (m_serverClientBuffers_flushWriteQueue io t)
  | errorOccurred error => exact .unchanged
  | stopServer => exact .stopped
  | newConnection client peerIp =>
      rw [P2PSocket.react, onServerNewConnection]
      split_ifs with hfull
      · exact .unchanged
      · exact .accepted client _ (not_le.mp hfull) rfl
  | clientReadyRead client data =>
      rw [P2PSocket.react, onClientReadyRead]
      cases hclient : t.socket.m_serverClientBuffers.value? client with
      | none => exact .unchanged
      | some c => exact .updated client c { c with buffer := _ } hclient (.received data)
  | clientDisconnected client =>
      rw [P2PSocket.react, onClientDisconnected]
      cases t.socket.m_serverClientBuffers.value? client with
      | none => exact .unchanged
      | some c => exact .closed client
  | socketIs socket => exact .unchanged
  | clientIs client socket =>
      rw [P2PSocket.react]
      cases hclient : t.socket.m_serverClientBuffers.value? client with
      | none => exact .unchanged
      | some c => exact .updated client c { c with socket } hclient .unchanged

/-- A property of all receive buffers of a socket. -/
structure P2PSocket.Buffers (P : Bytes → Prop) (s : P2PSocket) : Prop where
  client : P s.m_readBuffer
  accepted : ∀ k c, s.m_serverClientBuffers.value? k = some c → P c.buffer

/-- **Every buffer.** What holds of the empty buffer, and of what the receive loop leaves, holds
of all buffers after every event. -/
lemma buffers_react {P : Bytes → Prop} (hempty : P []) (hleft : ∀ b, P (received b).buffer)
    (h : t.socket.Buffers P) (e : SocketEvent) :
    (P2PSocket.react e io t).socket.Buffers P := by
  have hchange : ∀ {b b' : Bytes}, BufferChange b b' → P b → P b' := by
    intro b b' hchange hb
    cases hchange with
    | unchanged => exact hb
    | emptied => exact hempty
    | received data => exact hleft _
  refine ⟨hchange (bufferChange_react e) h.client, ?_⟩
  have hclients := clientsChange_react (t := t) io e
  generalize (P2PSocket.react e io t).socket.m_serverClientBuffers = m at hclients
  intro k c hvalue
  cases hclients with
  | unchanged => exact h.accepted k c hvalue
  | stopped =>
      rw [QMap.value?_empty] at hvalue
      cases hvalue
  | accepted k' c' room new =>
      rw [QMap.value?_insert] at hvalue
      split_ifs at hvalue
      · rw [← Option.some.inj hvalue, new]
        exact hempty
      · exact h.accepted k c hvalue
  | updated k' c₀ c' entry buffer =>
      rw [QMap.value?_insert] at hvalue
      split_ifs at hvalue
      · rw [← Option.some.inj hvalue]
        exact hchange buffer (h.accepted k' c₀ entry)
      · exact h.accepted k c hvalue
  | closed k' =>
      rw [QMap.value?_erase] at hvalue
      split_ifs at hvalue
      exact h.accepted k c hvalue

/-- The receive loop leaves less than a frame. -/
lemma length_buffer_received (b : Bytes) :
    (received b).buffer.length < 12 + MAX_FRAME_PAYLOAD_SIZE.toNat := by
  by_cases hsize : b.length ≤ MAX_RECEIVE_BUFFER_SIZE
  · rw [(received_of_le hsize).2]
    cases hflushed : (socketScanner.drain b).flushed with
    | true =>
        rw [socketScanner.rest_of_flushed hflushed]
        exact Nat.lt_add_right _ (by decide)
    | false =>
        have hwait : frameLook MAX_FRAME_PAYLOAD_SIZE (socketScanner.drain b).rest = .wait :=
          socketScanner.look_rest hflushed
        rw [frameLook] at hwait
        split_ifs at hwait with h8 hmagic hmax hshort
        · omega
        · split at hwait <;> cases hwait
        · omega
  · rw [(received_of_gt (not_le.mp hsize)).2]
    exact Nat.lt_add_right _ (by decide)

/-- At most `MAX_CONCURRENT_CONNECTIONS` connections are accepted. -/
lemma size_react (h : t.socket.m_serverClientBuffers.size ≤ MAX_CONCURRENT_CONNECTIONS)
    (e : SocketEvent) :
    (P2PSocket.react e io t).socket.m_serverClientBuffers.size ≤ MAX_CONCURRENT_CONNECTIONS := by
  have hclients := clientsChange_react (t := t) io e
  generalize (P2PSocket.react e io t).socket.m_serverClientBuffers = m at hclients
  cases hclients with
  | unchanged => exact h
  | stopped => exact Nat.zero_le _
  | accepted k c room new => exact Std.ExtTreeMap.size_insert_le.trans room
  | updated k c c' entry buffer =>
      have hmem : k ∈ t.socket.m_serverClientBuffers := by
        rw [← Std.ExtTreeMap.isSome_getElem?_iff_mem]
        exact Option.isSome_iff_exists.mpr ⟨c, entry⟩
      rw [Std.ExtTreeMap.size_insert, if_pos (Std.ExtTreeMap.mem_iff_contains.mp hmem)]
      exact h
  | closed k => exact Std.ExtTreeMap.size_erase_le.trans h

/-- The bytes that a socket holds: received ones without their frame, and queued ones. -/
def P2PSocket.heldBytes (s : P2PSocket) : ℕ :=
  s.m_readBuffer.length +
    (s.m_serverClientBuffers.toList.map fun kc => kc.2.buffer.length).sum +
    s.m_outgoingQueue.flatten.length

/-- **Bounded memory.** After every sequence of events, with whatever bytes the peers send: each
receive buffer is shorter than the longest frame, at most `MAX_CONCURRENT_CONNECTIONS`
connections are accepted, and together with the queue a socket holds less than 33 frames and
16 MiB. -/
theorem memory_bounded (es : List (SocketEvent × SocketIo)) :
    let s := (P2PSocket.machine.exec {} es).2
    s.Buffers (·.length < 12 + MAX_FRAME_PAYLOAD_SIZE.toNat) ∧
      s.m_serverClientBuffers.size ≤ MAX_CONCURRENT_CONNECTIONS ∧
      s.heldBytes < (MAX_CONCURRENT_CONNECTIONS + 1) * (12 + MAX_FRAME_PAYLOAD_SIZE.toNat) +
        MAX_OUTGOING_QUEUE_SIZE.toNat := by
  intro s
  have hrun := Run.exec_all P2PSocket.machine {} es
  have hbuffers : s.Buffers (·.length < 12 + MAX_FRAME_PAYLOAD_SIZE.toNat) := by
    refine hrun.invariant (I := fun s => s.Buffers (·.length < 12 + MAX_FRAME_PAYLOAD_SIZE.toNat))
      ⟨by decide, fun k c hvalue => absurd hvalue (by simp)⟩ ?_
    intro s e h _
    exact buffers_react (t := { socket := s }) (by decide) length_buffer_received h e.1
  have hsize : s.m_serverClientBuffers.size ≤ MAX_CONCURRENT_CONNECTIONS := by
    refine hrun.invariant (I := fun s => s.m_serverClientBuffers.size ≤ MAX_CONCURRENT_CONNECTIONS)
      (Nat.zero_le _) ?_
    intro s e h _
    exact size_react (t := { socket := s }) h e.1
  refine ⟨hbuffers, hsize, ?_⟩
  have hcount : s.m_queuedBytes = s.m_outgoingQueue.flatten.length := (sound_exec es).count
  have hlimit : s.m_queuedBytes ≤ MAX_OUTGOING_QUEUE_SIZE := (sound_exec es).limit
  have hsum : (s.m_serverClientBuffers.toList.map fun kc => kc.2.buffer.length).sum ≤
      s.m_serverClientBuffers.size * (12 + MAX_FRAME_PAYLOAD_SIZE.toNat) := by
    have hle := List.sum_le_card_nsmul
      (s.m_serverClientBuffers.toList.map fun kc => kc.2.buffer.length)
      (12 + MAX_FRAME_PAYLOAD_SIZE.toNat) (by
        intro n hn
        obtain ⟨⟨k, c⟩, hkc, rfl⟩ := List.mem_map.mp hn
        exact (hbuffers.accepted k c (QMap.mem_toList.mp hkc)).le)
    rw [List.length_map, Std.ExtTreeMap.length_toList, smul_eq_mul] at hle
    exact hle
  have hclients := Nat.mul_le_mul_right (12 + MAX_FRAME_PAYLOAD_SIZE.toNat) hsize
  have hclient := hbuffers.client
  rw [P2PSocket.heldBytes, add_mul, one_mul]
  omega

end MeckChat.Network
