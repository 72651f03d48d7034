import MeckChat.Network.OutgoingQueue

/-!
What arrives of the frames of a connection.

* `emitted` are the frames that a receiver hands on, and `deliveries` hands it the bytes in
  chunks.
* `pending` is the part of a frame that has arrived behind the last whole frame, and `Fits`
  says that it and the next chunk are within the receive buffer.
* `length_emitted_le`: what is handed on was in the bytes, so a buffer that is discarded is
  missing in the end.
* `transport_fidelity` is the result: when exactly the frames arrive, in order.
-/

namespace MeckChat.Network

open MeckChat.Protocol SocketTurn StreamDecoder

/-! ### Handing chunks to a receiver -/

/-- The frames that were handed on. -/
def emitted (log : List SocketEffect) : List P2PFrame :=
  log.filterMap fun e => match e with
    | .frameReceivedFrom frame _ => some frame
    | _ => none

/-- Chunk after chunk arrives on an accepted connection. -/
def deliveries (client : ℕ) (chunks : List Bytes) : List (SocketEvent × SocketIo) :=
  chunks.map fun chunk => (.clientReadyRead client chunk, {})

/-- What the chunks make of a receive buffer: the frames, and what is left. -/
def feedReceived : Bytes → List Bytes → List P2PFrame × Bytes
  | buffer, [] => ([], buffer)
  | buffer, chunk :: chunks =>
      let r := received (buffer ++ chunk)
      let later := feedReceived r.buffer chunks
      (r.frames ++ later.1, later.2)

lemma emitted_append (log log' : List SocketEffect) :
    emitted (log ++ log') = emitted log ++ emitted log' := List.filterMap_append

lemma emitted_processIncomingBytes (t : SocketTurn) (senderIp : String) (r : StreamResult) :
    emitted (t.processIncomingBytes senderIp r).effects = emitted t.effects ++ r.frames := by
  have herror :
      emitted (if r.errorString ≠ "" then [.errorOccurred r.errorString] else []) = [] := by
    split_ifs <;> rfl
  have hframes : emitted (r.frames.map fun frame => .frameReceivedFrom frame senderIp) =
      r.frames := by
    rw [emitted, List.filterMap_map]
    exact List.filterMap_some
  rw [processIncomingBytes, emitted_append, emitted_append, herror, hframes, List.append_nil]

/-- The deliveries run `processStreamBuffer` on the buffer of the connection. -/
lemma emitted_deliveries {s : P2PSocket} {client : ℕ} {c : ServerClient} (chunks : List Bytes)
    (hclient : s.m_serverClientBuffers.value? client = some c) :
    emitted (P2PSocket.machine.exec s (deliveries client chunks)).1 =
      (feedReceived c.buffer chunks).1 := by
  induction chunks generalizing s c with
  | nil => rfl
  | cons chunk chunks ih =>
      obtain ⟨r, hr⟩ : ∃ r, r = received (c.buffer ++ chunk) := ⟨_, rfl⟩
      obtain ⟨t, ht⟩ : ∃ t : SocketTurn, t = { socket := s } := ⟨_, rfl⟩
      have hvalue : t.socket.m_serverClientBuffers.value? client = some c := by
        rw [ht]
        exact hclient
      have hreact : t.onClientReadyRead client chunk = processIncomingBytes c.socket.peerAddress r
          { t with
            socket.m_serverClientBuffers :=
              t.socket.m_serverClientBuffers.insert client { c with buffer := r.buffer } } := by
        rw [onClientReadyRead, hvalue, hr]
      have hstep : P2PSocket.machine.step s (.clientReadyRead client chunk, {}) =
          ((t.onClientReadyRead client chunk).socket,
            (t.onClientReadyRead client chunk).effects) := by
        rw [ht]
        rfl
      have hafter : (t.onClientReadyRead client chunk).socket.m_serverClientBuffers.value? client =
          some { c with buffer := r.buffer } := by
        rw [hreact]
        exact QMap.value?_insert_self _ _ _
      have hframes : emitted (t.onClientReadyRead client chunk).effects = r.frames := by
        rw [hreact, emitted_processIncomingBytes, ht]
        rfl
      rw [deliveries, List.map_cons, Machine.exec, hstep]
      dsimp only
      rw [emitted_append, hframes, feedReceived, ← hr]
      exact congrArg (r.frames ++ ·) (ih hafter)

/-! ### One delivery -/

/-- A buffer that is too long is discarded. -/
lemma received_of_gt {b : Bytes} (h : MAX_RECEIVE_BUFFER_SIZE < b.length) :
    (received b).frames = [] ∧ (received b).buffer = [] := by
  rw [received, processStreamBuffer, if_pos h]
  exact ⟨rfl, rfl⟩

/-- The reader of the receive loop. -/
def socketScanner : Scanner UInt8 P2PFrame := frameScanner MAX_FRAME_PAYLOAD_SIZE

/-- A buffer within the limit is drained. -/
lemma received_of_le {b : Bytes} (h : b.length ≤ MAX_RECEIVE_BUFFER_SIZE) :
    (received b).frames = (socketScanner.drain b).items ∧
      (received b).buffer = (socketScanner.drain b).rest := by
  have hmax : MAX_FRAME_PAYLOAD_SIZE.toNat ≤ 2 ^ 31 - 13 := by decide
  obtain ⟨err, heq⟩ := processStreamBuffer_eq hmax h ""
  rw [received, heq]
  exact ⟨rfl, rfl⟩

/-- The bytes of frames. -/
def frameBytes (fs : List P2PFrame) : Bytes := fs.flatMap P2PFrame.encode

/-- What is handed on, and what is left, was in the buffer. -/
lemma length_received_le (b : Bytes) :
    (frameBytes (received b).frames).length + (received b).buffer.length ≤ b.length := by
  by_cases h : b.length ≤ MAX_RECEIVE_BUFFER_SIZE
  · obtain ⟨hframes, hbuffer⟩ := received_of_le h
    have hfound := socketScanner.found_drain P2PFrame.encode (fun _ _ _ h => (look_frame h).1) b
    have hlength := hfound.length_le
    rw [hframes, hbuffer, frameBytes, List.flatMap_def]
    exact hlength
  · obtain ⟨hframes, hbuffer⟩ := received_of_gt (not_le.mp h)
    rw [hframes, hbuffer]
    exact Nat.zero_le _

/-- What is handed on has an admissible payload. -/
lemma payload_received {b : Bytes} :
    ∀ f ∈ (received b).frames, f.payload.length ≤ MAX_FRAME_PAYLOAD_SIZE.toNat := by
  by_cases h : b.length ≤ MAX_RECEIVE_BUFFER_SIZE
  · rw [(received_of_le h).1]
    exact socketScanner.forall_items_drain (fun _ _ _ h => (look_frame h).2) b
  · rw [(received_of_gt (not_le.mp h)).1]
    exact nofun

/-! ### All deliveries -/

/-- The bytes behind the last whole frame, of the first `n` bytes of some frames. -/
def pending : List P2PFrame → ℕ → ℕ
  | [], n => n
  | f :: fs, n => if n < f.encode.length then n else pending fs (n - f.encode.length)

/-- With `n` bytes of the frames there, every chunk that arrives fits the receive buffer
together with the frame that is incomplete before it. -/
def Fits (fs : List P2PFrame) : ℕ → List Bytes → Prop
  | _, [] => True
  | n, chunk :: chunks =>
      pending fs n + chunk.length ≤ MAX_RECEIVE_BUFFER_SIZE ∧ Fits fs (n + chunk.length) chunks

/-- Every delivery fits, judged by the buffer. -/
def Within : Bytes → List Bytes → Prop
  | _, [] => True
  | buffer, chunk :: chunks =>
      (buffer ++ chunk).length ≤ MAX_RECEIVE_BUFFER_SIZE ∧
        Within (received (buffer ++ chunk)).buffer chunks

/-- **Bytes are not made up**, and what was discarded is missing. -/
lemma length_emitted_le (buffer : Bytes) (chunks : List Bytes) :
    (frameBytes (feedReceived buffer chunks).1).length ≤ buffer.length + chunks.flatten.length ∧
      (¬ Within buffer chunks →
        (frameBytes (feedReceived buffer chunks).1).length <
          buffer.length + chunks.flatten.length) := by
  induction chunks generalizing buffer with
  | nil => exact ⟨Nat.zero_le _, fun h => absurd trivial h⟩
  | cons chunk chunks ih =>
      obtain ⟨hall, hmissing⟩ := ih (received (buffer ++ chunk)).buffer
      have hhere := length_received_le (buffer ++ chunk)
      have hbytes : (frameBytes (feedReceived buffer (chunk :: chunks)).1).length =
          (frameBytes (received (buffer ++ chunk)).frames).length +
            (frameBytes (feedReceived (received (buffer ++ chunk)).buffer chunks).1).length := by
        rw [feedReceived, frameBytes, List.flatMap_append, List.length_append]
        rfl
      rw [List.length_append] at hhere
      rw [hbytes, List.flatten_cons, List.length_append]
      refine ⟨by omega, fun hwithin => ?_⟩
      by_cases hsize : (buffer ++ chunk).length ≤ MAX_RECEIVE_BUFFER_SIZE
      · have hlater := hmissing fun h => hwithin ⟨hsize, h⟩
        omega
      · obtain ⟨hframes, hbuffer⟩ := received_of_gt (not_le.mp hsize)
        have hzero : (frameBytes (received (buffer ++ chunk)).frames).length = 0 := by
          rw [hframes]
          rfl
        have hnil : (received (buffer ++ chunk)).buffer.length = 0 := by
          rw [hbuffer]
          rfl
        rw [List.length_append] at hsize
        omega

lemma payload_emitted {buffer : Bytes} {chunks : List Bytes} :
    ∀ f ∈ (feedReceived buffer chunks).1,
      f.payload.length ≤ MAX_FRAME_PAYLOAD_SIZE.toNat := by
  induction chunks generalizing buffer with
  | nil => exact nofun
  | cons chunk chunks ih =>
      intro f hf
      rcases List.mem_append.mp hf with hf | hf
      · exact payload_received f hf
      · exact ih f hf

/-! ### Admissible frames -/

section Admissible

variable {fs : List P2PFrame} (hfs : ∀ f ∈ fs, f.payload.length ≤ MAX_FRAME_PAYLOAD_SIZE.toNat)

/-- The reader recognises an admissible frame. -/
lemma isPacket_encode {f : P2PFrame} (h : f.payload.length ≤ MAX_FRAME_PAYLOAD_SIZE.toNat) :
    socketScanner.IsPacket f.encode (some f) := by
  have hmax : MAX_FRAME_PAYLOAD_SIZE.toNat = 4 * 1024 * 1024 := rfl
  have hframe : P2PFrame.IsFrame f.encode := P2PFrame.isFrame_encode (by omega)
  have hlength := hframe.length
  have hdecoded : decodedFrame f.encode = some f := by
    rw [decodedFrame_eq, P2PFrame.decodePacket, if_pos hframe, P2PFrame.ofPacket_encode]
  rw [P2PFrame.length_encode] at hlength
  rw [← hdecoded]
  refine IsPacket.scanned ⟨?_, ?_, ?_⟩
  · rw [P2PFrame.encode_eq]
    rfl
  · rw [declaredLength]
    omega
  · rw [P2PFrame.length_encode, declaredLength]
    omega

include hfs in
lemma drain_frameBytes : socketScanner.drain (frameBytes fs) = ⟨fs, [], false⟩ := by
  induction fs with
  | nil => exact socketScanner.drain_of_wait rfl
  | cons f fs ih =>
      have hpacket := isPacket_encode (hfs f List.mem_cons_self)
      rw [frameBytes, List.flatMap_cons, hpacket.drain_append]
      have hrest : socketScanner.drain (fs.flatMap P2PFrame.encode) = ⟨fs, [], false⟩ :=
        ih fun f hf => hfs f (List.mem_cons_of_mem _ hf)
      rw [hrest]
      rfl

include hfs in
/-- Some first bytes of the frames leave the incomplete one. -/
lemma drain_prefix {q : Bytes} (hq : q <+: frameBytes fs) :
    (socketScanner.drain q).flushed = false ∧
      (socketScanner.drain q).rest.length = pending fs q.length := by
  induction fs generalizing q with
  | nil =>
      rw [List.prefix_nil.mp hq, socketScanner.drain_of_wait rfl]
      exact ⟨rfl, rfl⟩
  | cons f fs ih =>
      have hpacket := isPacket_encode (hfs f List.mem_cons_self)
      rw [frameBytes, List.flatMap_cons] at hq
      rw [pending]
      by_cases hshort : q.length < f.encode.length
      · have hin : q <+: f.encode :=
          List.prefix_of_prefix_length_le hq (List.prefix_append _ _) hshort.le
        have hne : q ≠ f.encode := fun h => absurd (congrArg List.length h) hshort.ne
        rw [if_pos hshort, socketScanner.drain_of_wait (hpacket.partial_wait q hin hne)]
        exact ⟨rfl, rfl⟩
      · obtain ⟨r, rfl⟩ : f.encode <+: q :=
          List.prefix_of_prefix_length_le (List.prefix_append _ _) hq (not_lt.mp hshort)
        rw [if_neg hshort, hpacket.drain_append, List.length_append, Nat.add_sub_cancel_left]
        exact ih (fun f hf => hfs f (List.mem_cons_of_mem _ hf))
          ((List.prefix_append_right_inj _).mp hq)

include hfs in
/-- The two ways to judge the deliveries agree. -/
lemma within_iff {q : Bytes} {chunks : List Bytes} (hq : q ++ chunks.flatten = frameBytes fs) :
    Within (socketScanner.drain q).rest chunks ↔ Fits fs q.length chunks := by
  induction chunks generalizing q with
  | nil => exact Iff.rfl
  | cons chunk chunks ih =>
      obtain ⟨hflushed, hpending⟩ := drain_prefix hfs ⟨_, hq⟩
      rw [List.flatten_cons, ← List.append_assoc] at hq
      rw [Within, Fits, List.length_append, hpending]
      refine and_congr_right fun hsize => ?_
      have hbuffer : (received ((socketScanner.drain q).rest ++ chunk)).buffer =
          (socketScanner.drain (q ++ chunk)).rest := by
        rw [(received_of_le (by rw [List.length_append, hpending]; exact hsize)).2,
          socketScanner.drain_append hflushed]
      rw [hbuffer, ih hq, List.length_append]

include hfs in
/-- Deliveries that fit hand all frames on. -/
lemma feedReceived_of_within {q : Bytes} {chunks : List Bytes}
    (hq : q ++ chunks.flatten = frameBytes fs)
    (hwithin : Within (socketScanner.drain q).rest chunks) :
    (socketScanner.drain q).items ++ (feedReceived (socketScanner.drain q).rest chunks).1 = fs := by
  induction chunks generalizing q with
  | nil =>
      have hall := drain_frameBytes hfs
      rw [List.flatten_nil, List.append_nil] at hq
      rw [hq, hall]
      exact List.append_nil _
  | cons chunk chunks ih =>
      obtain ⟨hflushed, _⟩ := drain_prefix hfs ⟨_, hq⟩
      obtain ⟨hsize, hlater⟩ := hwithin
      obtain ⟨hframes, hbuffer⟩ := received_of_le hsize
      have hdrain := socketScanner.drain_append hflushed chunk
      have hitems := congrArg Drained.items hdrain
      have hrest := congrArg Drained.rest hdrain
      dsimp only at hitems hrest
      rw [List.flatten_cons, ← List.append_assoc] at hq
      rw [hbuffer, ← hrest] at hlater
      have hfeed := ih hq hlater
      rw [hitems, ← hframes, hrest, ← hbuffer] at hfeed
      rw [feedReceived, ← List.append_assoc]
      exact hfeed

end Admissible

/-! ### Fidelity -/

/-- **What arrives** of the bytes of some frames. -/
lemma feedReceived_iff {fs : List P2PFrame} {chunks : List Bytes}
    (hchunks : chunks.flatten = frameBytes fs) :
    (feedReceived [] chunks).1 = fs ↔
      (∀ f ∈ fs, f.payload.length ≤ MAX_FRAME_PAYLOAD_SIZE.toNat) ∧ Fits fs 0 chunks := by
  have hnil : socketScanner.drain [] = ⟨[], [], false⟩ := socketScanner.drain_of_wait rfl
  constructor
  · intro heq
    have hfs : ∀ f ∈ fs, f.payload.length ≤ MAX_FRAME_PAYLOAD_SIZE.toNat := by
      rw [← heq]
      exact payload_emitted
    refine ⟨hfs, ?_⟩
    have hwithin : Within [] chunks := by
      by_contra hnot
      have hmissing := (length_emitted_le [] chunks).2 hnot
      rw [heq, hchunks, List.length_nil, Nat.zero_add] at hmissing
      exact lt_irrefl _ hmissing
    have hiff := within_iff hfs (q := []) hchunks
    rw [hnil] at hiff
    exact hiff.mp hwithin
  · rintro ⟨hfs, hfits⟩
    have hiff := within_iff hfs (q := []) hchunks
    rw [hnil] at hiff
    have hall := feedReceived_of_within hfs (q := []) hchunks (by rw [hnil]; exact hiff.mpr hfits)
    rw [hnil] at hall
    exact hall

/-- **Transport fidelity.** Once a sender has got rid of all bytes of its connection, the
peer hands on exactly the frames that were enqueued on it (those for which `sendFrame`
returned `true`, by `enqueued_sendFrame`), in order, if and only if all of them are
admissible for the receiver, and every delivery fits its buffer together with the frame that
is incomplete before it. -/
theorem transport_fidelity (es : List (SocketEvent × SocketIo)) {receiver : P2PSocket}
    {client : ℕ} {c : ServerClient} {chunks : List Bytes}
    (hsent : (P2PSocket.machine.exec {} es).2.m_outgoingQueue = [])
    (hclient : receiver.m_serverClientBuffers.value? client = some c) (hnew : c.buffer = [])
    (hchunks : chunks.flatten = (Ledger.ofLog (P2PSocket.machine.exec {} es).1).accepted) :
    let frames := (Ledger.ofLog (P2PSocket.machine.exec {} es).1).enqueued
    emitted (P2PSocket.machine.exec receiver (deliveries client chunks)).1 = frames ↔
      (∀ f ∈ frames, f.payload.length ≤ MAX_FRAME_PAYLOAD_SIZE.toNat) ∧ Fits frames 0 chunks := by
  intro frames
  have hbytes := (sound_exec es).bytes
  rw [hsent, List.flatten_nil, List.append_nil, ← hchunks] at hbytes
  rw [emitted_deliveries chunks hclient, hnew]
  exact feedReceived_iff hbytes

/-! ### One frame -/

/-- A sender connects and sends a frame, which is written at once. -/
def sendOne (frame : P2PFrame) : List (SocketEvent × SocketIo) :=
  [(.connectToPeer "10.77.0.2", { connecting := .ConnectedState }),
    (.sendFrame frame, { writes := [some frame.encode.length] })]

/-- A receiver with an accepted connection. -/
def acceptingSocket : P2PSocket :=
  (P2PSocket.machine.exec {} [(.newConnection 0 "10.77.0.1", {})]).2

lemma value?_acceptingSocket :
    acceptingSocket.m_serverClientBuffers.value? 0 =
      some { socket := ⟨.ConnectedState, "10.77.0.1"⟩ } := by
  decide +kernel

lemma step_sendFrame (s : P2PSocket) (frame : P2PFrame) (io : SocketIo) :
    P2PSocket.machine.step s (.sendFrame frame, io) =
      ((sendFrame io frame { socket := s }).1.socket,
        (sendFrame io frame { socket := s }).1.effects) := rfl

/-- The sender once it is connected. -/
def connectedSocket : P2PSocket where
  m_socket := ⟨.ConnectedState, "10.77.0.2"⟩
  m_state := .Connected

lemma exec_sendOne (frame : P2PFrame)
    (hfits : (frame.encode.length : ℤ) ≤ MAX_OUTGOING_QUEUE_SIZE) :
    (P2PSocket.machine.exec {} (sendOne frame)).2.m_outgoingQueue = [] ∧
      Ledger.ofLog (P2PSocket.machine.exec {} (sendOne frame)).1 =
        { established := true, enqueued := [frame], accepted := frame.encode } := by
  obtain ⟨io, hio⟩ : ∃ io : SocketIo, io = { writes := [some frame.encode.length] } := ⟨_, rfl⟩
  obtain ⟨t, ht⟩ : ∃ t : SocketTurn, t = { socket := connectedSocket } := ⟨_, rfl⟩
  have hconnect : P2PSocket.machine.step {}
      (.connectToPeer "10.77.0.2", { connecting := .ConnectedState }) =
        (connectedSocket, [.stateChanged .Connecting, .connectToHost "10.77.0.2",
          .stateChanged .Connected, .connected]) := rfl
  have hloop : flushLoop [frame.encode] (0 + frame.encode.length) [some frame.encode.length] =
      ⟨[], 0, [frame.encode]⟩ := by
    rw [flushLoop, Nat.min_self, if_pos rfl, flushLoop, zero_add, sub_self]
    rintro _ _ _ _ - ⟨⟩
  have hready : t.socket.clientReady = true := by rw [ht]; rfl
  have hroom : t.socket.m_queuedBytes + frame.encode.length ≤ MAX_OUTGOING_QUEUE_SIZE := by
    rw [ht, connectedSocket, zero_add]
    exact hfits
  have hsend : (t.sendFrame io frame).1 =
      ((t.enqueue frame).flushWriteQueue io).writeToClients frame.encode := by
    rw [sendFrame, if_pos hready, if_pos hroom]
  have hflush : (t.enqueue frame).flushWriteQueue io =
      { t.enqueue frame with
        socket.m_outgoingQueue := []
        socket.m_queuedBytes := 0
        effects := [.enqueued "10.77.0.2" frame, .accepted "10.77.0.2" frame.encode] } := by
    have hqueue : (t.enqueue frame).socket.m_outgoingQueue = [frame.encode] := by rw [ht]; rfl
    have hcount : (t.enqueue frame).socket.m_queuedBytes = 0 + frame.encode.length := by
      rw [ht]
      rfl
    rw [flushWriteQueue, if_pos (by rw [ht]; rfl), hqueue, hcount, hio, hloop, ht]
    rfl
  have hstep : P2PSocket.machine.step connectedSocket (.sendFrame frame, io) =
      ((t.sendFrame io frame).1.socket, (t.sendFrame io frame).1.effects) := by
    rw [ht, step_sendFrame]
  have hexec : P2PSocket.machine.exec {} (sendOne frame) =
      ([.stateChanged .Connecting, .connectToHost "10.77.0.2", .stateChanged .Connected,
        .connected] ++ (t.sendFrame io frame).1.effects, (t.sendFrame io frame).1.socket) := by
    rw [sendOne, ← hio]
    exact P2PSocket.machine.exec_pair hconnect hstep
  rw [hexec, hsend]
  refine ⟨by rw [hflush]; rfl, ?_⟩
  rw [Ledger.ofLog, Ledger.after_append, after_writeToClients, hflush]
  rfl

theorem transport_fidelity_ping :
    emitted (P2PSocket.machine.exec acceptingSocket
      (deliveries 0 [pingPacket.take 5, pingPacket.drop 5])).1 = [⟨.Heartbeat, [0x70]⟩] := by
  obtain ⟨hqueue, hledger⟩ := exec_sendOne ⟨.Heartbeat, [0x70]⟩ (by decide)
  have hchunks : [pingPacket.take 5, pingPacket.drop 5].flatten = (Ledger.ofLog
      (P2PSocket.machine.exec {} (sendOne ⟨.Heartbeat, [0x70]⟩)).1).accepted := by
    rw [hledger]
    decide +kernel
  have hiff := transport_fidelity (sendOne ⟨.Heartbeat, [0x70]⟩) hqueue value?_acceptingSocket rfl
    hchunks
  rw [hledger] at hiff
  refine hiff.mpr ⟨?_, by decide, by decide, trivial⟩
  rintro f hf
  rw [List.mem_singleton.mp hf]
  decide

/-- A frame whose payload is one byte longer than a receiver admits. -/
def oversizedFrame : P2PFrame where
  payload := List.replicate (4 * 1024 * 1024 + 1) 0

theorem oversized_frame_lost :
    (P2PSocket.machine.exec {} (sendOne oversizedFrame)).2.m_outgoingQueue = [] ∧
      (Ledger.ofLog (P2PSocket.machine.exec {} (sendOne oversizedFrame)).1).enqueued =
        [oversizedFrame] ∧
      ∀ chunks, chunks.flatten =
          (Ledger.ofLog (P2PSocket.machine.exec {} (sendOne oversizedFrame)).1).accepted →
        emitted (P2PSocket.machine.exec acceptingSocket (deliveries 0 chunks)).1 ≠
          [oversizedFrame] := by
  have hpayload : oversizedFrame.payload.length = 4 * 1024 * 1024 + 1 := List.length_replicate
  obtain ⟨hqueue, hledger⟩ := exec_sendOne oversizedFrame (by
    rw [P2PFrame.length_encode, hpayload, MAX_OUTGOING_QUEUE_SIZE]
    decide)
  refine ⟨hqueue, by rw [hledger], fun chunks _ heq => ?_⟩
  rw [emitted_deliveries chunks value?_acceptingSocket] at heq
  have hsmall := payload_emitted oversizedFrame (by rw [heq]; exact List.mem_singleton_self _)
  rw [hpayload] at hsmall
  exact absurd hsmall (by decide)

end MeckChat.Network
