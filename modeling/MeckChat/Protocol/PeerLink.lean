import MeckChat.Network.ReceiveStreams
import MeckChat.Protocol.ChatLink
import MeckChat.Protocol.TransferNetwork

/-!
Two sockets joined by TCP, byte by byte.

* `Carries` ties the frames that were sent on a connection to the bytes under way, the
  receive buffer and the frames handed on: some first bytes have arrived, and the whole
  frames among them were handed on.
* `PeerLink` are the sockets of two sides with the bytes between them, on the connection that
  each side has dialled, and `peerLink` is the machine: either side may send at any time, and
  bytes arrive in chunks cut anywhere.
* `Joined` says that a socket is connected, `perform_sendFrames` what sending does to it.
* `Flowing` is the invariant, `flowing_step` keeps it, and `connections_are_queues` is what
  follows: each connection is a queue of frames in each direction.
-/

namespace MeckChat.Protocol

open Network SocketTurn StreamDecoder

/-! ### A stream that carries frames -/

/-- The frames `fs` were sent, `taken` of them were handled and `heard` were handed on behind
these; `buffer` has arrived of the next one, and `way` is still to come. -/
structure Carries (fs : List P2PFrame) (taken : ℕ) (heard : List P2PFrame) (buffer way : Bytes) :
    Prop where
  admissible : ∀ f ∈ fs, f.payload.length ≤ MAX_FRAME_PAYLOAD_SIZE.toNat
  taken_le : taken ≤ fs.length
  arrived : ∃ q, q ++ way = frameBytes fs ∧
    (socketScanner.drain q).items = fs.take taken ++ heard ∧
    (socketScanner.drain q).rest = buffer

namespace Carries

variable {fs fs' heard : List P2PFrame} {f : P2PFrame} {taken : ℕ} {buffer chunk way : Bytes}

lemma start : Carries [] 0 [] [] [] :=
  ⟨fun f hf => absurd hf List.not_mem_nil, le_rfl, [], rfl, by rw [socketScanner.drain_of_wait rfl]; exact ⟨rfl, rfl⟩⟩

/-- More frames are sent. -/
lemma send (h : Carries fs taken heard buffer way)
    (hfs' : ∀ f ∈ fs', f.payload.length ≤ MAX_FRAME_PAYLOAD_SIZE.toNat) :
    Carries (fs ++ fs') taken heard buffer (way ++ frameBytes fs') := by
  obtain ⟨q, hbytes, hitems, hrest⟩ := h.arrived
  refine ⟨?_, ?_, q, ?_, ?_, hrest⟩
  · intro f hf
    rcases List.mem_append.mp hf with hf | hf
    · exact h.admissible f hf
    · exact hfs' f hf
  · rw [List.length_append]
    exact Nat.le_add_right_of_le h.taken_le
  · rw [← List.append_assoc, hbytes, frameBytes, frameBytes, frameBytes, List.flatMap_append]
  · rw [List.take_append_of_le_length h.taken_le]
    exact hitems

/-- A chunk arrives. -/
lemma arrive (h : Carries fs taken heard buffer (chunk ++ way))
    (hsize : (buffer ++ chunk).length ≤ MAX_RECEIVE_BUFFER_SIZE) :
    Carries fs taken (heard ++ (received (buffer ++ chunk)).frames)
      (received (buffer ++ chunk)).buffer way := by
  obtain ⟨q, hbytes, hitems, rfl⟩ := h.arrived
  rw [← List.append_assoc] at hbytes
  have hprefix : q ++ chunk <+: frameBytes fs := ⟨way, hbytes⟩
  have hpending := ( drain_prefix h.admissible ((List.prefix_append q chunk).trans hprefix)).2
  obtain ⟨hitems', hrest⟩ := received_next h.admissible hprefix (by
    rw [← hpending, ← List.length_append]
    exact hsize)
  refine ⟨h.admissible, h.taken_le, q ++ chunk, hbytes, ?_, hrest.symm⟩
  rw [hitems', hitems, List.append_assoc]

/-- What was handed on is what was sent. -/
lemma handed_prefix (h : Carries fs taken heard buffer way) : fs.take taken ++ heard <+: fs := by
  obtain ⟨q, hbytes, hitems, -⟩ := h.arrived
  rw [← hitems]
  exact ( items_prefix h.admissible ⟨way, hbytes⟩).1

/-- The next frame is handled. -/
lemma handle (h : Carries fs taken (f :: heard) buffer way) :
    fs[taken]? = some f ∧ Carries fs (taken + 1) heard buffer way := by
  obtain ⟨rest, hrest⟩ := h.handed_prefix
  have hlength : (fs.take taken).length = taken := List.length_take_of_le h.taken_le
  have hget : fs[taken]? = some f := by
    rw [← hrest, List.append_assoc, List.getElem?_append_right (by rw [hlength]), hlength,
      Nat.sub_self]
    rfl
  obtain ⟨q, hbytes, hitems, hbuffer⟩ := h.arrived
  refine ⟨hget, h.admissible, (List.getElem?_eq_some_iff.mp hget).1, q, hbytes, ?_, hbuffer⟩
  rw [hitems, List.take_add_one, hget]
  exact List.append_cons _ _ _

/-- Once all bytes are there, all frames were handed on. -/
lemma all (h : Carries fs taken heard buffer []) : fs.take taken ++ heard = fs := by
  obtain ⟨q, hbytes, hitems, -⟩ := h.arrived
  rw [List.append_nil] at hbytes
  rw [← hitems, hbytes, drain_frameBytes h.admissible]

end Carries

/-! ### The link -/

/-- The bytes that the client connection took. -/
def clientBytes (effects : List SocketEffect) : Bytes :=
  (effects.filterMap fun e => match e with
    | .accepted _ bytes => some bytes
    | _ => none).flatten

/-- The bytes that were written to accepted connections. -/
def writtenBytes (effects : List SocketEffect) : Bytes :=
  (effects.filterMap fun e => match e with
    | .written _ packet => some packet
    | _ => none).flatten

/-- The frames that were handed on, each with the address of its sender. -/
def handedOn (effects : List SocketEffect) : List (P2PFrame × String) :=
  effects.filterMap fun e => match e with
    | .frameReceivedFrom frame senderIp => some (frame, senderIp)
    | _ => none

/-- The frames that a call sends. -/
def SocketCall.frame? : SocketCall → Option P2PFrame
  | .sendFrame frame => some frame
  | .connectToPeer _ => none

/-- The sockets of two sides. `wires Y D` are the bytes under way to `Y` on the connection that
`D` has dialled, `heard Y D` the frames that were handed on from it and are not handled yet, and
`taken Y D` counts those that are. `mail Y` are all frames ever sent to `Y`. -/
structure PeerLink where
  sockets : Side → P2PSocket
  wires : Side → Side → Bytes := fun _ _ => []
  heard : Side → Side → List (P2PFrame × String) := fun _ _ => []
  mail : Side → List P2PFrame := fun _ => []
  taken : Side → Side → ℕ := fun _ _ => 0

/-- The stream on which a side hears a connection. The number of an accepted connection
is 0. -/
def streamOf (Y dialler : Side) : Stream := if dialler = Y then .client else .accepted 0

/-- The signal that bytes arrive with. -/
def arrivalOf (Y dialler : Side) (data : Bytes) : SocketEvent :=
  if dialler = Y then .readyRead data else .clientReadyRead 0 data

/-- The bytes that a side puts on a connection. -/
def bytesOn (X dialler : Side) (effects : List SocketEffect) : Bytes :=
  if dialler = X then clientBytes effects else writtenBytes effects

/-- What can happen on a side: a controller asks its socket for something, the socket may
write again, the next `n` bytes of a connection arrive, or the next frame that was handed on
is handled. A side handles frames at once; that other things may happen before it does only adds
runs. -/
inductive WireEvent where
  | perform (calls : List SocketCall) (io : SocketCall → SocketIo)
  | bytesWritten (io : SocketIo)
  | arrive (dialler : Side) (n : ℕ)
  | handle (dialler : Side)

namespace PeerLink

/-- The link behind a turn of the socket of `X`. -/
def put (s : PeerLink) (X : Side) (t : SocketTurn) (sent : List P2PFrame) : PeerLink :=
  { s with
    sockets := Function.update s.sockets X t.socket
    wires := fun Y D => s.wires Y D ++ if Y = X.other then bytesOn X D t.effects else []
    mail := fun Y => s.mail Y ++ if Y = X.other then sent else [] }

/-- One event on side `X`. -/
def step (s : PeerLink) (X : Side) : WireEvent → PeerLink
  | .perform calls io =>
      s.put X (SocketTurn.perform io calls { socket := s.sockets X })
        (calls.filterMap SocketCall.frame?)
  | .bytesWritten io => s.put X (P2PSocket.react .bytesWritten io { socket := s.sockets X }) []
  | .arrive D n =>
      let t := P2PSocket.react (arrivalOf X D ((s.wires X D).take n)) {} { socket := s.sockets X }
      { s with
        sockets := Function.update s.sockets X t.socket
        wires := fun Y E => if Y = X ∧ E = D then (s.wires X D).drop n else s.wires Y E
        heard := fun Y E => s.heard Y E ++ if Y = X ∧ E = D then handedOn t.effects else [] }
  | .handle D =>
      { s with
        heard := fun Y E => if Y = X ∧ E = D then (s.heard X D).drop 1 else s.heard Y E
        taken := fun Y E => s.taken Y E + if Y = X ∧ E = D then 1 else 0 }

end PeerLink

/-- The frame that a side handles, with the connection and the address it came from. -/
def PeerLink.next (s : PeerLink) (X : Side) : WireEvent → Option (Side × P2PFrame × String)
  | .handle D => (s.heard X D).head?.map fun p => (D, p)
  | _ => none

/-- The link as a machine; it logs the frames that are handled, and where. -/
def peerLink : Machine PeerLink (Side × WireEvent) (Side × Side × P2PFrame × String) where
  step s e := (s.step e.1 e.2, ((s.next e.1 e.2).map fun p => (e.1, p)).toList)

/-- The frames that `Y` has handled from a connection. -/
def handledOn (Y D : Side) (log : List (Side × Side × P2PFrame × String)) : List P2PFrame :=
  log.filterMap fun p => if p.1 = Y ∧ p.2.1 = D then some p.2.2.1 else none

/-- What a side did to be connected: it has dialled, and accepted the other's connection. -/
def connecting (dialled : Side → Bool) (ip : Side → String) (X : Side) :
    List (SocketEvent × SocketIo) :=
  let dial : List (SocketEvent × SocketIo) :=
    [(.connectToPeer (ip X.other), { connecting := .ConnectedState })]
  let accept : List (SocketEvent × SocketIo) := [(.newConnection 0 (ip X.other), {})]
  (if dialled X then dial else []) ++ if dialled X.other then accept else []

/-- The link once the connections that were dialled are established. -/
def PeerLink.start (dialled : Side → Bool) (ip : Side → String) : PeerLink where
  sockets X := (P2PSocket.machine.exec {} (connecting dialled ip X)).2

/-! ### Sockets that are connected -/

/-- The socket of a side while the connections that were dialled are established. -/
structure Joined (dialled : Side → Bool) (X : Side) (s : P2PSocket) : Prop where
  ready : s.clientReady = dialled X
  accepted : dialled X.other = true → ∃ ip b,
    s.m_serverClientBuffers = (∅ : QMap ℕ ServerClient).insert 0 ⟨⟨.ConnectedState, ip⟩, b⟩
  alone : dialled X.other = false → s.m_serverClientBuffers = ∅

/-- The only entry of a map. -/
lemma toList_single (c : ServerClient) :
    ((∅ : QMap ℕ ServerClient).insert 0 c).toList = [(0, c)] := by
  have hlength : ((∅ : QMap ℕ ServerClient).insert 0 c).toList.length = 1 := by
    rw [Std.ExtTreeMap.length_toList, Std.ExtTreeMap.size_insert]
    rfl
  obtain ⟨⟨k, c'⟩, hlist⟩ := List.length_eq_one_iff.mp hlength
  have hmem : (0, c) ∈ ((∅ : QMap ℕ ServerClient).insert 0 c).toList :=
    QMap.mem_toList.mpr (QMap.value?_insert_self _ _ _)
  rw [hlist, List.mem_singleton] at hmem
  rw [hlist, ← hmem]

namespace Joined

variable {dialled : Side → Bool} {X : Side} {s s' : P2PSocket}

/-- Every open accepted connection is the one to the other side. -/
lemma written (h : Joined dialled X s) (packet : Bytes) :
    writtenBytes (s.openClients.map fun c => .written c.peerAddress packet) =
      if dialled X.other then packet else [] := by
  cases hdialled : dialled X.other with
  | false =>
      rw [P2PSocket.openClients_eq_nil (h.alone hdialled)]
      rfl
  | true =>
      obtain ⟨ip, b, hclients⟩ := h.accepted hdialled
      have hopen : s.openClients = [⟨.ConnectedState, ip⟩] := by
        rw [P2PSocket.openClients, hclients, toList_single]
        rfl
      rw [hopen]
      exact List.append_nil packet

/-- With a connection a socket is connected. -/
lemma isConnected (h : Joined dialled X s) (hsome : dialled X = true ∨ dialled X.other = true) :
    s.isConnected = true := by
  rw [P2PSocket.isConnected, Bool.or_eq_true]
  rcases hsome with hdialled | hdialled
  · have hready := h.ready
    rw [hdialled, P2PSocket.clientReady, Bool.and_eq_true] at hready
    exact .inl hready.1
  · obtain ⟨ip, b, hclients⟩ := h.accepted hdialled
    refine .inr ?_
    rw [hclients]
    rfl

lemma congr (h : Joined dialled X s) (hready : s'.clientReady = s.clientReady)
    (hclients : s'.m_serverClientBuffers = s.m_serverClientBuffers) : Joined dialled X s' := by
  refine ⟨hready.trans h.ready, ?_, ?_⟩
  · rw [hclients]
    exact h.accepted
  · rw [hclients]
    exact h.alone

end Joined

/-! ### Sending -/

lemma clientBytes_append (effects effects' : List SocketEffect) :
    clientBytes (effects ++ effects') = clientBytes effects ++ clientBytes effects' := by
  rw [clientBytes, List.filterMap_append, List.flatten_append, clientBytes, clientBytes]

lemma writtenBytes_append (effects effects' : List SocketEffect) :
    writtenBytes (effects ++ effects') = writtenBytes effects ++ writtenBytes effects' := by
  rw [writtenBytes, List.filterMap_append, List.flatten_append, writtenBytes, writtenBytes]

lemma bytes_accepted (peer : String) (chunks : List Bytes) :
    clientBytes (chunks.map (.accepted peer)) = chunks.flatten ∧
      writtenBytes (chunks.map (.accepted peer)) = [] := by
  rw [clientBytes, writtenBytes, List.filterMap_map, List.filterMap_map]
  have hall : chunks.filterMap some = chunks := List.filterMap_some
  have hnone : chunks.filterMap (fun _ => (none : Option Bytes)) = [] :=
    List.filterMap_eq_nil_iff.mpr fun _ _ => rfl
  exact ⟨congrArg List.flatten hall, congrArg List.flatten hnone⟩

lemma clientBytes_written (clients : List QTcpSocket) (packet : Bytes) :
    clientBytes (clients.map fun c => .written c.peerAddress packet) = [] := by
  rw [clientBytes, List.filterMap_map]
  have hnone : clients.filterMap (fun _ => (none : Option Bytes)) = [] :=
    List.filterMap_eq_nil_iff.mpr fun _ _ => rfl
  exact congrArg List.flatten hnone

/-- A part of a call puts bytes on the connections of a side, and does nothing else to it. -/
structure Puts (dialled : Side → Bool) (X : Side) (t t' : SocketTurn) (bytes : Bytes) : Prop where
  joined : Joined dialled X t'.socket
  buffer : ∀ i, t'.socket.bufferOf i = t.socket.bufferOf i
  queued : dialled X = true →
    clientBytes t'.effects ++ t'.socket.m_outgoingQueue.flatten =
      clientBytes t.effects ++ (t.socket.m_outgoingQueue.flatten ++ bytes)
  written : dialled X.other = true →
    writtenBytes t'.effects = writtenBytes t.effects ++ bytes

namespace Puts

variable {dialled : Side → Bool} {X : Side} {t t' t'' : SocketTurn} {bytes bytes' : Bytes}

lemma trans (h : Puts dialled X t t' bytes) (h' : Puts dialled X t' t'' bytes') :
    Puts dialled X t t'' (bytes ++ bytes') := by
  refine ⟨h'.joined, fun i => (h'.buffer i).trans (h.buffer i), fun hd => ?_, fun hd => ?_⟩
  · rw [h'.queued hd, ← List.append_assoc, h.queued hd]
    simp only [List.append_assoc]
  · rw [h'.written hd, h.written hd, List.append_assoc]

/-- The loop that writes moves bytes from the queue to the connection. -/
lemma flush (h : Joined dialled X t.socket) (io : SocketIo) :
    Puts dialled X t (t.flushWriteQueue io) [] := by
  have hready : (t.flushWriteQueue io).socket.clientReady = t.socket.clientReady := by
    rw [P2PSocket.clientReady, m_state_flushWriteQueue, m_socket_flushWriteQueue,
      P2PSocket.clientReady]
  refine ⟨h.congr hready (m_serverClientBuffers_flushWriteQueue io t),
    fun i => bufferOf_congr (m_readBuffer_flushWriteQueue io t)
      (m_serverClientBuffers_flushWriteQueue io t), fun _ => ?_, fun _ => ?_⟩
  · rw [flushWriteQueue]
    split_ifs
    · dsimp only
      rw [clientBytes_append, (bytes_accepted _ _).1, List.append_assoc, flushLoop_bytes,
        List.append_nil]
    · rw [List.append_nil]
  · rw [flushWriteQueue, List.append_nil]
    split_ifs
    · dsimp only
      rw [writtenBytes_append, (bytes_accepted _ _).2, List.append_nil]
    · rfl

/-- A frame that is taken goes on every connection. -/
lemma sendFrame (h : Joined dialled X t.socket) {io : SocketIo} {frame : P2PFrame}
    (htaken : (t.sendFrame io frame).2 = true) :
    Puts dialled X t (t.sendFrame io frame).1 frame.encode := by
  have hready := h.ready
  rw [SocketTurn.sendFrame] at htaken ⊢
  cases hdialled : dialled X with
  | true =>
      rw [hdialled] at hready
      rw [if_pos hready] at htaken ⊢
      by_cases hroom : t.socket.m_queuedBytes + frame.encode.length ≤ MAX_OUTGOING_QUEUE_SIZE
      · rw [if_pos hroom]
        have henqueued : Joined dialled X (t.enqueue frame).socket := h.congr rfl rfl
        have hflush := flush henqueued io
        have hclients : ((t.enqueue frame).flushWriteQueue io).socket.openClients =
            t.socket.openClients := by
          rw [P2PSocket.openClients, m_serverClientBuffers_flushWriteQueue]
          rfl
        refine ⟨hflush.joined.congr rfl rfl, hflush.buffer, fun hd => ?_, fun hd => ?_⟩
        · have hqueued := hflush.queued hd
          have hbefore : clientBytes (t.enqueue frame).effects = clientBytes t.effects := by
            rw [enqueue, clientBytes_append]
            exact List.append_nil _
          rw [writeToClients, clientBytes_append, clientBytes_written, List.append_nil]
          rw [hbefore, List.append_nil] at hqueued
          refine hqueued.trans ?_
          rw [enqueue, List.flatten_append, List.flatten_singleton]
        · have hwritten := hflush.written hd
          have hbefore : writtenBytes (t.enqueue frame).effects = writtenBytes t.effects := by
            rw [enqueue, writtenBytes_append]
            exact List.append_nil _
          rw [writeToClients, writtenBytes_append, hclients, h.written, if_pos hd, hwritten,
            hbefore, List.append_nil]
      · rw [if_neg hroom] at htaken
        cases htaken
  | false =>
      rw [hdialled] at hready
      rw [if_neg (by rw [hready]; exact Bool.false_ne_true)]
      refine ⟨h.congr rfl rfl, fun _ => rfl, fun hd => ?_, fun hd => ?_⟩
      · rw [hdialled] at hd
        cases hd
      · rw [writeToClients, writtenBytes_append, h.written, if_pos hd]

/-- All frames that a handler sends. -/
lemma perform {io : SocketCall → SocketIo} {frames : List P2PFrame}
    (h : Joined dialled X t.socket)
    (htaken : ∀ p ∈ SocketTurn.sends io (frames.map .sendFrame) t, p.2 = true) :
    Puts dialled X t (t.perform io (frames.map .sendFrame)) (frameBytes frames) := by
  induction frames generalizing t with
  | nil =>
      refine ⟨h, fun _ => rfl, fun _ => ?_, fun _ => ?_⟩
      · exact congrArg (clientBytes t.effects ++ ·) (List.append_nil _).symm
      · exact (List.append_nil _).symm
  | cons f frames ih =>
      rw [List.map_cons, SocketTurn.sends] at htaken
      have hfirst := sendFrame h (htaken _ List.mem_cons_self)
      exact hfirst.trans (ih hfirst.joined fun p hp => htaken p (List.mem_cons_of_mem _ hp))

end Puts

/-! ### Receiving -/

lemma handedOn_fst (effects : List SocketEffect) :
    (handedOn effects).map Prod.fst = emitted effects := by
  rw [handedOn, emitted, List.map_filterMap]
  congr 1
  funext e
  cases e <;> rfl

/-- What arrives changes nothing but the receive buffer of its stream. -/
lemma joined_arrival {dialled : Side → Bool} {X D : Side} {s : P2PSocket} (data : Bytes)
    (h : Joined dialled X s) :
    Joined dialled X (P2PSocket.react (arrivalOf X D data) {} { socket := s }).socket ∧
      (P2PSocket.react (arrivalOf X D data) {} { socket := s }).socket.m_outgoingQueue =
        s.m_outgoingQueue := by
  rw [arrivalOf]
  split_ifs with hclient
  · exact ⟨h.congr rfl rfl, rfl⟩
  · rw [P2PSocket.react, onClientReadyRead]
    dsimp only
    cases hvalue : s.m_serverClientBuffers.value? 0 with
    | none => exact ⟨h, rfl⟩
    | some c =>
        refine ⟨⟨h.ready, fun hd => ?_, fun hd => ?_⟩, rfl⟩
        · obtain ⟨ip, b, hclients⟩ := h.accepted hd
          rw [hclients, QMap.value?_insert_self] at hvalue
          obtain rfl := Option.some.inj hvalue
          refine ⟨ip, (received (b ++ data)).buffer, ?_⟩
          show s.m_serverClientBuffers.insert 0 _ = _
          rw [hclients]
          refine Std.ExtTreeMap.ext_getElem? fun k => ?_
          rw [Std.ExtTreeMap.getElem?_insert, Std.ExtTreeMap.getElem?_insert,
            Std.ExtTreeMap.getElem?_insert]
          split_ifs <;> rfl
        · rw [h.alone hd, QMap.value?_empty] at hvalue
          cases hvalue

lemma resets_arrivalOf (X D E : Side) (data : Bytes) :
    ¬ (arrivalOf X D data).Resets (streamOf X E) := by
  rw [arrivalOf, streamOf]
  split_ifs <;> exact id

lemma chunk?_arrivalOf (X D E : Side) (data : Bytes) :
    (arrivalOf X D data).chunk? (streamOf X E) = if E = D then some data else none := by
  cases X <;> cases D <;> cases E <;> rfl

/-! ### The invariant -/

/-- What is still to come to `Y` on a connection. -/
def PeerLink.way (s : PeerLink) (Y D : Side) : Bytes :=
  s.wires Y D ++ if D = Y then [] else (s.sockets Y.other).m_outgoingQueue.flatten

/-- Every connection carries the frames that were sent. -/
structure Flowing (dialled : Side → Bool) (s : PeerLink) : Prop where
  joined : ∀ X, Joined dialled X (s.sockets X)
  carries : ∀ Y D, dialled D = true → ∃ b, (s.sockets Y).bufferOf (streamOf Y D) = some b ∧
    Carries (s.mail Y) (s.taken Y D) ((s.heard Y D).map Prod.fst) b (s.way Y D)

/-- The condition on the steps. Nobody asks for another connection, and every frame is taken by
`sendFrame` and is admissible for the receiver; bytes arrive on a connection that was dialled,
and fit the receive buffer together with the incomplete frame in it. -/
def Flows (dialled : Side → Bool) (s : PeerLink) : Side × WireEvent → Prop
  | (X, .perform calls io) =>
      (∀ ip, .connectToPeer ip ∉ calls) ∧
        ∀ p ∈ SocketTurn.sends io calls { socket := s.sockets X },
          p.2 = true ∧ p.1.payload.length ≤ MAX_FRAME_PAYLOAD_SIZE.toNat
  | (_, .bytesWritten _) => True
  | (X, .arrive D n) =>
      dialled D = true ∧ ∀ b, (s.sockets X).bufferOf (streamOf X D) = some b →
        (b ++ (s.wires X D).take n).length ≤ MAX_RECEIVE_BUFFER_SIZE
  | (X, .handle D) => dialled D = true ∧ s.heard X D ≠ []

section Step

variable {dialled : Side → Bool} {s : PeerLink} {X : Side}

/-- A side puts frames on its connections. -/
lemma flowing_put {t : SocketTurn} {frames : List P2PFrame} (h : Flowing dialled s)
    (hputs : Puts dialled X { socket := s.sockets X } t (frameBytes frames))
    (hframes : ∀ f ∈ frames, f.payload.length ≤ MAX_FRAME_PAYLOAD_SIZE.toNat) :
    Flowing dialled (s.put X t frames) := by
  refine ⟨fun Y => ?_, fun Y D hD => ?_⟩
  · rcases Side.eq_or_eq_other X Y with rfl | rfl
    · show Joined dialled Y (Function.update s.sockets Y t.socket Y)
      rw [Function.update_self]
      exact hputs.joined
    · show Joined dialled X.other (Function.update s.sockets X t.socket X.other)
      rw [Function.update_of_ne (Side.other_ne X)]
      exact h.joined X.other
  · obtain ⟨b, hbuffer, hcarries⟩ := h.carries Y D hD
    refine ⟨b, ?_, ?_⟩
    · rcases Side.eq_or_eq_other X Y with rfl | rfl
      · show (Function.update s.sockets Y t.socket Y).bufferOf (streamOf Y D) = some b
        rw [Function.update_self, hputs.buffer]
        exact hbuffer
      · show (Function.update s.sockets X t.socket X.other).bufferOf (streamOf X.other D) = some b
        rw [Function.update_of_ne (Side.other_ne X)]
        exact hbuffer
    · rcases Side.eq_or_eq_other X Y with rfl | rfl
      · -- nothing is sent to the side itself
        have hmail : (s.put Y t frames).mail Y = s.mail Y := by
          show s.mail Y ++ (if Y = Y.other then frames else []) = s.mail Y
          rw [if_neg (Side.ne_other Y), List.append_nil]
        have hway : (s.put Y t frames).way Y D = s.way Y D := by
          show (s.wires Y D ++ if Y = Y.other then _ else []) ++ (if D = Y then [] else
            (Function.update s.sockets Y t.socket Y.other).m_outgoingQueue.flatten) = _
          rw [if_neg (Side.ne_other Y), List.append_nil,
            Function.update_of_ne (Side.other_ne Y)]
          rfl
        rw [hmail, hway]
        exact hcarries
      · have hmail : (s.put X t frames).mail X.other = s.mail X.other ++ frames := by
          show s.mail X.other ++ (if X.other = X.other then frames else []) = _
          rw [if_pos rfl]
        have hway : (s.put X t frames).way X.other D = s.way X.other D ++ frameBytes frames := by
          show (s.wires X.other D ++ if X.other = X.other then bytesOn X D t.effects else []) ++
            (if D = X.other then [] else
              (Function.update s.sockets X t.socket X.other.other).m_outgoingQueue.flatten) =
            (s.wires X.other D ++ if D = X.other then [] else
              (s.sockets X.other.other).m_outgoingQueue.flatten) ++ frameBytes frames
          rw [if_pos rfl, Side.other_other, Function.update_self]
          rcases Side.eq_or_eq_other X D with rfl | rfl
          · have hqueued := hputs.queued hD
            rw [if_neg (Side.ne_other D), if_neg (Side.ne_other D), bytesOn, if_pos rfl,
              List.append_assoc, hqueued, List.append_assoc]
            rfl
          · have hwritten := hputs.written hD
            rw [if_pos rfl, if_pos rfl, bytesOn, if_neg (Side.other_ne X), List.append_nil,
              List.append_nil, hwritten]
            rfl
        rw [hmail, hway]
        exact hcarries.send hframes

lemma filterMap_frame?_eq {calls : List SocketCall} (h : ∀ ip, .connectToPeer ip ∉ calls) :
    (calls.filterMap SocketCall.frame?).map .sendFrame = calls := by
  induction calls with
  | nil => rfl
  | cons call calls ih =>
      have hrest := ih fun ip hip => h ip (List.mem_cons_of_mem _ hip)
      cases call with
      | connectToPeer ip => exact absurd List.mem_cons_self (h ip)
      | sendFrame f =>
          rw [List.filterMap_cons_some (f := SocketCall.frame?) rfl, List.map_cons, hrest]

lemma map_fst_sends (io : SocketCall → SocketIo) (frames : List P2PFrame) (t : SocketTurn) :
    (SocketTurn.sends io (frames.map .sendFrame) t).map Prod.fst = frames := by
  induction frames generalizing t with
  | nil => rfl
  | cons f frames ih =>
      rw [List.map_cons, SocketTurn.sends, List.map_cons, ih]

/-- **One step.** -/
lemma flowing_step (h : Flowing dialled s) {e : Side × WireEvent} (he : Flows dialled s e) :
    Flowing dialled (s.step e.1 e.2) := by
  obtain ⟨X, e⟩ := e
  cases e with
  | perform calls io =>
      obtain ⟨hcalls, hsends⟩ := he
      obtain ⟨frames, hframes⟩ : ∃ frames, frames = calls.filterMap SocketCall.frame? := ⟨_, rfl⟩
      have heq : frames.map .sendFrame = calls := by
        rw [hframes]
        exact filterMap_frame?_eq hcalls
      rw [PeerLink.step, ← hframes]
      rw [← heq] at hsends ⊢
      refine flowing_put h (Puts.perform (h.joined X) fun p hp => (hsends p hp).1) ?_
      intro f hf
      rw [← map_fst_sends io frames { socket := s.sockets X }] at hf
      obtain ⟨p, hp, rfl⟩ := List.mem_map.mp hf
      exact (hsends p hp).2
  | bytesWritten io =>
      exact flowing_put h (Puts.flush (h.joined X) io) fun f hf => absurd hf List.not_mem_nil
  | arrive D n =>
      obtain ⟨hD, hsize⟩ := he
      obtain ⟨data, hdata⟩ : ∃ data, data = (s.wires X D).take n := ⟨_, rfl⟩
      obtain ⟨t, ht⟩ : ∃ t, t = P2PSocket.react (arrivalOf X D data) {}
        { socket := s.sockets X } := ⟨_, rfl⟩
      obtain ⟨hjoined, hqueue⟩ := joined_arrival (D := D) data (h.joined X)
      rw [← ht] at hjoined hqueue
      have hbuffers : ∀ E b, (s.sockets X).bufferOf (streamOf X E) = some b →
          t.socket.bufferOf (streamOf X E) =
            if E = D then some (received (b ++ data)).buffer else some b := by
        intro E b hb
        rw [ht, bufferOf_react _ (resets_arrivalOf X D E data) hb, chunk?_arrivalOf]
        split_ifs <;> rfl
      have hframes : ∀ b, (s.sockets X).bufferOf (streamOf X D) = some b →
          (handedOn t.effects).map Prod.fst = (received (b ++ data)).frames := by
        intro b hb
        rw [handedOn_fst, ht]
        exact emitted_react _ hb (by rw [chunk?_arrivalOf, if_pos rfl])
      rw [PeerLink.step, ← hdata, ← ht]
      refine ⟨fun Y => ?_, fun Y E hE => ?_⟩
      · rcases Side.eq_or_eq_other X Y with rfl | rfl
        · show Joined dialled Y (Function.update s.sockets Y t.socket Y)
          rw [Function.update_self]
          exact hjoined
        · show Joined dialled X.other (Function.update s.sockets X t.socket X.other)
          rw [Function.update_of_ne (Side.other_ne X)]
          exact h.joined X.other
      · obtain ⟨b, hbuffer, hcarries⟩ := h.carries Y E hE
        dsimp only [PeerLink.way]
        rw [PeerLink.way] at hcarries
        rcases Side.eq_or_eq_other X Y with rfl | rfl
        · rw [Function.update_self, Function.update_of_ne (Side.other_ne Y), hbuffers E b hbuffer]
          by_cases hED : E = D
          · subst hED
            have hwires : s.wires Y E = data ++ (s.wires Y E).drop n := by
              rw [hdata, List.take_append_drop]
            rw [hwires, List.append_assoc] at hcarries
            have hfit : (b ++ data).length ≤ MAX_RECEIVE_BUFFER_SIZE := by
              rw [hdata]
              exact hsize b hbuffer
            refine ⟨_, if_pos rfl, ?_⟩
            rw [if_pos ⟨rfl, rfl⟩, if_pos ⟨rfl, rfl⟩, List.map_append, hframes b hbuffer]
            exact hcarries.arrive hfit
          · have hne : ¬ (Y = Y ∧ E = D) := fun hsame => hED hsame.2
            refine ⟨b, if_neg hED, ?_⟩
            rw [if_neg hne, if_neg hne, List.append_nil]
            exact hcarries
        · have hne : ¬ (X.other = X ∧ E = D) := fun hsame => Side.other_ne X hsame.1
          rw [Function.update_of_ne (Side.other_ne X), Side.other_other, Function.update_self,
            hqueue, if_neg hne, if_neg hne, List.append_nil]
          rw [Side.other_other] at hcarries
          exact ⟨b, hbuffer, hcarries⟩
  | handle D =>
      obtain ⟨hD, hheard⟩ := he
      refine ⟨h.joined, fun Y E hE => ?_⟩
      obtain ⟨b, hbuffer, hcarries⟩ := h.carries Y E hE
      refine ⟨b, hbuffer, ?_⟩
      dsimp only [PeerLink.step, PeerLink.way]
      by_cases hhere : Y = X ∧ E = D
      · obtain ⟨rfl, rfl⟩ := hhere
        obtain ⟨p, rest, hp⟩ := List.exists_cons_of_ne_nil hheard
        rw [if_pos ⟨rfl, rfl⟩, if_pos ⟨rfl, rfl⟩, hp]
        rw [hp] at hcarries
        exact hcarries.handle.2
      · rw [if_neg hhere, if_neg hhere]
        exact hcarries

end Step

/-! ### Runs -/

section Run

variable {dialled : Side → Bool} {ip : Side → String}

/-- The sockets at the start. -/
lemma sockets_start (X : Side) : (PeerLink.start dialled ip).sockets X =
    { m_socket := if dialled X then ⟨.ConnectedState, ip X.other⟩ else {}
      m_state := if dialled X then .Connected else .Disconnected
      m_serverClientBuffers := if dialled X.other then
        (∅ : QMap ℕ ServerClient).insert 0 ⟨⟨.ConnectedState, ip X.other⟩, []⟩ else ∅ } := by
  show (P2PSocket.machine.exec {} (connecting dialled ip X)).2 = _
  rw [connecting]
  cases dialled X <;> cases dialled X.other <;> rfl

lemma flowing_start : Flowing dialled (PeerLink.start dialled ip) := by
  refine ⟨fun X => ⟨?_, fun hd => ?_, fun hd => ?_⟩, fun Y D hD => ⟨[], ?_, ?_⟩⟩
  · rw [sockets_start, P2PSocket.clientReady]
    cases dialled X <;> rfl
  · rw [sockets_start, hd]
    exact ⟨_, _, rfl⟩
  · rw [sockets_start, hd]
    rfl
  · rw [sockets_start, streamOf]
    rcases Side.eq_or_eq_other Y D with rfl | rfl
    · rw [if_pos rfl]
      rfl
    · rw [if_neg (Side.other_ne Y), hD]
      exact congrArg (Option.map _) (QMap.value?_insert_self ∅ 0 _)
  · have hway : (PeerLink.start dialled ip).way Y D = [] := by
      rw [PeerLink.way, sockets_start]
      exact ite_self _
    rw [hway]
    exact Carries.start

/-- All bytes of a connection have arrived. -/
lemma way_eq_nil {s : PeerLink} {Y D : Side} (hwires : s.wires Y D = [])
    (hqueue : D ≠ Y → (s.sockets D).m_outgoingQueue = []) : s.way Y D = [] := by
  rw [PeerLink.way, hwires, List.nil_append]
  split_ifs with hDY
  · rfl
  · rcases Side.eq_or_eq_other Y D with rfl | rfl
    · exact absurd rfl hDY
    · rw [hqueue hDY]
      rfl

lemma handledOn_append (Y D : Side) (log log' : List (Side × Side × P2PFrame × String)) :
    handledOn Y D (log ++ log') = handledOn Y D log ++ handledOn Y D log' :=
  List.filterMap_append

/-- The frames that are handled are those that are taken off a connection. -/
lemma handledOn_step {s : PeerLink} {e : Side × WireEvent} {Y D : Side}
    {log : List (Side × Side × P2PFrame × String)} (h : Flowing dialled s)
    (hD : dialled D = true) (he : Flows dialled s e)
    (hlog : handledOn Y D log = (s.mail Y).take (s.taken Y D)) :
    handledOn Y D (log ++ (peerLink.step s e).2) =
      ((peerLink.step s e).1.mail Y).take ((peerLink.step s e).1.taken Y D) := by
  obtain ⟨b, -, hcarries⟩ := h.carries Y D hD
  have hput : ∀ (X : Side) (t : SocketTurn) (frames : List P2PFrame),
      ((s.put X t frames).mail Y).take ((s.put X t frames).taken Y D) =
        (s.mail Y).take (s.taken Y D) :=
    fun X t frames => List.take_append_of_le_length hcarries.taken_le
  rw [handledOn_append, hlog]
  obtain ⟨X, e⟩ := e
  cases e with
  | perform calls io => exact (List.append_nil _).trans (hput X _ _).symm
  | bytesWritten io => exact (List.append_nil _).trans (hput X _ _).symm
  | arrive E n => exact List.append_nil _
  | handle E =>
      obtain ⟨-, hheard⟩ := he
      obtain ⟨p, rest, hp⟩ := List.exists_cons_of_ne_nil hheard
      have hnext : (peerLink.step s (X, .handle E)).2 = [(X, E, p)] := by
        show ((((s.heard X E).head?.map _).map _).toList) = _
        rw [hp]
        rfl
      have htaken : (peerLink.step s (X, .handle E)).1.taken Y D =
          s.taken Y D + if Y = X ∧ D = E then 1 else 0 := rfl
      have hmail : (peerLink.step s (X, .handle E)).1.mail Y = s.mail Y := rfl
      rw [hnext, htaken, hmail, handledOn]
      by_cases hhere : Y = X ∧ D = E
      · obtain ⟨rfl, rfl⟩ := hhere
        rw [hp] at hcarries
        rw [if_pos ⟨rfl, rfl⟩, List.take_add_one, hcarries.handle.1]
        simp
      · have hother : ¬ (X = Y ∧ E = D) := fun hsame => hhere ⟨hsame.1.symm, hsame.2.symm⟩
        rw [if_neg hhere]
        simp [hother]

/-- **Each connection is a queue of frames, in each direction.** Two sides are joined by a
connection that one of them has dialled, or by two. Either side may send frames at any time, the
system takes any part of the bytes of a write, and bytes arrive in chunks cut anywhere, in any
interleaving. Then the frames that a side has handled from a connection, followed by those that
were handed on and are not handled yet, are at every moment the first ones that were sent to it,
and once the connection has brought all its bytes they are all. -/
theorem connections_are_queues {es : List (Side × WireEvent)}
    {log : List (Side × Side × P2PFrame × String)} {s : PeerLink}
    (hrun : Run peerLink (Flows dialled) (PeerLink.start dialled ip) es log s) {Y D : Side}
    (hD : dialled D = true) :
    let handed := handledOn Y D log ++ (s.heard Y D).map Prod.fst
    handed <+: s.mail Y ∧
      (s.wires Y D = [] → (D ≠ Y → (s.sockets D).m_outgoingQueue = []) → handed = s.mail Y) := by
  intro handed
  obtain ⟨hflowing, hhandled⟩ : Flowing dialled s ∧
      handledOn Y D log = (s.mail Y).take (s.taken Y D) := by
    refine hrun.invariant_log (I := fun _ log s => Flowing dialled s ∧
      handledOn Y D log = (s.mail Y).take (s.taken Y D)) ⟨flowing_start, rfl⟩ ?_
    rintro _ log s e ⟨h, hlog⟩ he
    exact ⟨flowing_step h he, handledOn_step h hD he hlog⟩
  obtain ⟨b, -, hcarries⟩ := hflowing.carries Y D hD
  have hhanded : handed = (s.mail Y).take (s.taken Y D) ++ (s.heard Y D).map Prod.fst := by
    rw [← hhandled]
  rw [hhanded]
  refine ⟨hcarries.handed_prefix, fun hwires hqueue => ?_⟩
  rw [way_eq_nil hwires hqueue] at hcarries
  exact hcarries.all

end Run

/-! ### One frame -/

/-- The left side has dialled. -/
def leftDialled : Side → Bool
  | .left => true
  | .right => false

/-- The left side sends a ping, which arrives in two chunks and is handled. -/
def pingOverLink : List (Side × WireEvent) :=
  [(.left, .perform [.sendFrame ⟨.Heartbeat, [0x70]⟩] fun _ => { writes := [some 13] }),
    (.right, .arrive .left 5), (.right, .arrive .left 8), (.right, .handle .left)]

/-- The link before the ping. -/
def quietLink : PeerLink := .start leftDialled fun _ => "10.77.0.1"

lemma allows_pingOverLink : peerLink.Allows (Flows leftDialled) quietLink pingOverLink := by
  have harrive : ∀ {s : PeerLink} {n : ℕ},
      ((((s.sockets .right).bufferOf (.accepted 0)).getD []) ++
        (s.wires .right .left).take n).length ≤ MAX_RECEIVE_BUFFER_SIZE →
      Flows leftDialled s (.right, .arrive .left n) := by
    intro s n hsize
    refine ⟨rfl, fun b hb => ?_⟩
    have hbuffer : (s.sockets .right).bufferOf (.accepted 0) = some b := hb
    rw [hbuffer] at hsize
    exact hsize
  refine ⟨⟨fun ip hip => ?_, by decide +kernel⟩, harrive ?_, harrive ?_, ⟨rfl, ?_⟩, trivial⟩
  · cases List.mem_singleton.mp hip
  · decide +kernel
  · decide +kernel
  · decide +kernel

theorem connections_are_queues_ping :
    handledOn .right .left (peerLink.exec quietLink pingOverLink).1 =
      [⟨.Heartbeat, [0x70]⟩] := by
  have hall : handledOn .right .left (peerLink.exec quietLink pingOverLink).1 ++
      ((peerLink.exec quietLink pingOverLink).2.heard .right .left).map Prod.fst =
        (peerLink.exec quietLink pingOverLink).2.mail .right :=
    (connections_are_queues (Run.exec allows_pingOverLink) (Y := .right) (D := .left) rfl).2
      (by decide +kernel) fun _ => by decide +kernel
  have hheard : (peerLink.exec quietLink pingOverLink).2.heard .right .left = [] := by
    decide +kernel
  have hmail : (peerLink.exec quietLink pingOverLink).2.mail .right = [⟨.Heartbeat, [0x70]⟩] := by
    decide +kernel
  rw [hheard, hmail, List.map_nil, List.append_nil] at hall
  exact hall

end MeckChat.Protocol
