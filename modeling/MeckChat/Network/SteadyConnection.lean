import MeckChat.Network.OutgoingQueue

/-!
Connections that stay.

* `Steady` says of a part of a call that the connection stays as long as the state of the
  socket does; `steady_react` says so of every event.
* `enqueued_prefix`: on a connection that stays, what was enqueued is enqueued.
-/

namespace MeckChat.Network

open MeckChat.Protocol

/-- A sign of another state. -/
def SocketEffect.isStateChange : SocketEffect → Bool
  | .stateChanged _ => true
  | _ => false

/-- The connection ends, or another one is begun. -/
def SocketEffect.isEnding : SocketEffect → Bool
  | .disconnected => true
  | .connectToHost _ => true
  | _ => false

/-- A part of a call on a connected socket tells if the state changes; if it does not, the
connection stays. -/
def SocketTurn.Steady (t t' : SocketTurn) : Prop :=
  ∃ ds, t'.effects = t.effects ++ ds ∧ (t.socket.m_state = .Connected →
    ds.any SocketEffect.isStateChange = true ∨
      t'.socket.m_state = .Connected ∧ ds.all (fun e => !e.isEnding) = true)

namespace SocketTurn

variable {t t' t'' : SocketTurn} {io : SocketIo}

lemma Steady.refl (t : SocketTurn) : Steady t t :=
  ⟨[], (List.append_nil _).symm, fun h => Or.inr ⟨h, rfl⟩⟩

lemma Steady.trans (h : Steady t t') (h' : Steady t' t'') : Steady t t'' := by
  obtain ⟨ds, hds, hsteady⟩ := h
  obtain ⟨ds', hds', hsteady'⟩ := h'
  refine ⟨ds ++ ds', by rw [hds', hds, List.append_assoc], fun hconnected => ?_⟩
  rw [List.any_append, List.all_append]
  rcases hsteady hconnected with hchange | ⟨hstate, hstays⟩
  · exact Or.inl (by rw [hchange, Bool.true_or])
  · rcases hsteady' hstate with hchange | ⟨hstate', hstays'⟩
    · exact Or.inl (by rw [hchange, Bool.or_true])
    · exact Or.inr ⟨hstate', by rw [hstays, hstays']; rfl⟩

/-- Effects that end nothing, and leave the state alone. -/
lemma steady_of_effects {ds : List SocketEffect} (hds : t'.effects = t.effects ++ ds)
    (hstate : t'.socket.m_state = t.socket.m_state)
    (hstays : ∀ e ∈ ds, e.isEnding = false) : Steady t t' := by
  refine ⟨ds, hds, fun hconnected => Or.inr ⟨hstate.trans hconnected, ?_⟩⟩
  rw [List.all_eq_true]
  intro e he
  rw [hstays e he]
  rfl

lemma steady_log {e : SocketEffect} (h : e.isEnding = false) : Steady t (t.log e) :=
  steady_of_effects rfl rfl fun e' he' => by rw [List.mem_singleton.mp he']; exact h

lemma steady_setState (state : P2PState) : Steady t (t.setState state) := by
  rw [setState]
  split_ifs
  · exact ⟨[.stateChanged state], rfl, fun _ => Or.inl rfl⟩
  · exact Steady.refl t

/-- What begins with another state is steady, whatever follows. -/
lemma Steady.of_change (state : P2PState) {ds : List SocketEffect} (hstate : state ≠ .Connected)
    (hds : t'.effects = (t.setState state).effects ++ ds) : Steady t t' := by
  obtain ⟨cs, hcs, _⟩ := steady_setState (t := t) state
  refine ⟨cs ++ ds, by rw [hds, hcs, List.append_assoc], fun hconnected => Or.inl ?_⟩
  have hne : t.socket.m_state ≠ state := fun h => hstate (h.symm.trans hconnected)
  rw [setState, if_pos hne] at hcs
  rw [← List.append_cancel_left hcs]
  rfl

lemma steady_flushWriteQueue : Steady t (t.flushWriteQueue io) := by
  rw [flushWriteQueue]
  split_ifs
  · refine steady_of_effects rfl rfl fun e he => ?_
    obtain ⟨bytes, _, rfl⟩ := List.mem_map.mp he
    rfl
  · exact Steady.refl t

lemma steady_writeToClients (packet : Bytes) : Steady t (t.writeToClients packet) := by
  refine steady_of_effects rfl rfl fun e he => ?_
  obtain ⟨c, _, rfl⟩ := List.mem_map.mp he
  rfl

lemma steady_sendFrame (frame : P2PFrame) : Steady t (t.sendFrame io frame).1 := by
  have henqueue : Steady t (t.enqueue frame) :=
    steady_of_effects rfl rfl fun e he => by rw [List.mem_singleton.mp he]; rfl
  rw [sendFrame]
  split_ifs
  · exact (henqueue.trans steady_flushWriteQueue).trans (steady_writeToClients _)
  · exact steady_log rfl
  · exact steady_writeToClients _

lemma steady_onSocketConnected : Steady t (t.onSocketConnected io) :=
  ((steady_setState _).trans (steady_log rfl)).trans steady_flushWriteQueue

lemma steady_onSocketDisconnected : Steady t t.onSocketDisconnected :=
  Steady.of_change .Disconnected nofun rfl

/-- Changes of the `QTcpSocket` and of the buffers are steady. -/
lemma steady_of_eq (heffects : t'.effects = t.effects)
    (hstate : t'.socket.m_state = t.socket.m_state) : Steady t t' :=
  steady_of_effects (by rw [heffects, List.append_nil]) hstate (List.forall_mem_nil _)

lemma steady_disconnectFromHost : Steady t (t.disconnectFromHost io) := by
  rw [disconnectFromHost]
  split_ifs
  · have hclosed : Steady t { t with socket.m_socket.state := .UnconnectedState } :=
      steady_of_eq rfl rfl
    exact hclosed.trans steady_onSocketDisconnected
  · exact steady_of_eq rfl rfl

lemma steady_disconnectFromPeer : Steady t (t.disconnectFromPeer io) := by
  rw [disconnectFromPeer]
  dsimp only
  split_ifs
  · exact (steady_setState _).trans steady_disconnectFromHost
  · exact steady_setState _
  · exact Steady.refl t

lemma effects_connectToHost (t : SocketTurn) (io : SocketIo) (virtualIp : String) :
    ∃ ds, (t.connectToHost io virtualIp).effects = t.effects ++ ds := by
  rw [connectToHost]
  dsimp only
  split_ifs
  · exact ⟨_, rfl⟩
  · obtain ⟨u, hu⟩ : ∃ u : SocketTurn, u = { t.log (.connectToHost virtualIp) with
        socket.m_socket := ⟨.ConnectedState, virtualIp⟩ } := ⟨_, rfl⟩
    obtain ⟨ds, hds, _⟩ : Steady u (u.onSocketConnected io) := steady_onSocketConnected
    rw [hu] at hds
    refine ⟨[.connectToHost virtualIp] ++ ds, ?_⟩
    rw [hds, log, List.append_assoc]
  · exact ⟨_, rfl⟩

/-- A new attempt on a connected socket changes the state. -/
lemma steady_connectToPeer (virtualIp : String) : Steady t (t.connectToPeer io virtualIp) := by
  rw [connectToPeer]
  obtain ⟨u, hu, hsteady⟩ : ∃ u, u = (if t.socket.m_state = .Connected ∨
      t.socket.m_state = .Connecting then t.disconnectFromPeer io else t) ∧ Steady t u := by
    refine ⟨_, rfl, ?_⟩
    split_ifs
    · exact steady_disconnectFromPeer
    · exact Steady.refl t
  rw [← hu]
  obtain ⟨ds, hds⟩ := effects_connectToHost (u.clearBuffers.setState .Connecting) io virtualIp
  have hclear : Steady u u.clearBuffers := steady_of_eq rfl rfl
  exact (hsteady.trans hclear).trans (Steady.of_change .Connecting (by simp) hds)

lemma steady_processIncomingBytes (senderIp : String) (r : StreamResult) :
    Steady t (t.processIncomingBytes senderIp r) := by
  have heffects : (t.processIncomingBytes senderIp r).effects = t.effects ++
      ((if r.errorString ≠ "" then [.errorOccurred r.errorString] else []) ++
        r.frames.map fun frame => .frameReceivedFrom frame senderIp) := by
    rw [processIncomingBytes, List.append_assoc]
  refine steady_of_effects heffects rfl fun e he => ?_
  rcases List.mem_append.mp he with he | he
  · split_ifs at he
    · rw [List.mem_singleton.mp he]
      rfl
    · cases he
  · obtain ⟨frame, _, rfl⟩ := List.mem_map.mp he
    rfl

/-- **Every event is steady.** -/
lemma steady_react (event : SocketEvent) : Steady t (P2PSocket.react event io t) := by
  cases event with
  | connectToPeer virtualIp => exact steady_connectToPeer virtualIp
  | disconnectFromPeer => exact steady_disconnectFromPeer
  | sendFrame frame => exact steady_sendFrame frame
  | connected => exact steady_onSocketConnected
  | disconnected => exact steady_onSocketDisconnected
  | readyRead data =>
      have hread : Steady t { t with
          socket.m_readBuffer := (received (t.socket.m_readBuffer ++ data)).buffer } :=
        steady_of_eq rfl rfl
      exact hread.trans (steady_processIncomingBytes _ _)
  | bytesWritten => exact steady_flushWriteQueue
  | errorOccurred error => exact steady_log rfl
  | stopServer => exact steady_of_eq rfl rfl
  | newConnection client peerIp =>
      rw [P2PSocket.react, onServerNewConnection]
      split_ifs
      · exact Steady.refl t
      · exact steady_of_effects rfl rfl fun e he => by rw [List.mem_singleton.mp he]; rfl
  | clientReadyRead client data =>
      rw [P2PSocket.react, onClientReadyRead]
      cases t.socket.m_serverClientBuffers.value? client with
      | none => exact Steady.refl t
      | some c =>
          refine Steady.trans ?_ (steady_processIncomingBytes _ _)
          exact steady_of_eq rfl rfl
  | clientDisconnected client =>
      rw [P2PSocket.react, onClientDisconnected]
      cases t.socket.m_serverClientBuffers.value? client with
      | none => exact Steady.refl t
      | some c => exact steady_of_effects rfl rfl fun e he => by rw [List.mem_singleton.mp he]; rfl
  | socketIs socket => exact steady_of_eq rfl rfl
  | clientIs client socket =>
      rw [P2PSocket.react]
      cases t.socket.m_serverClientBuffers.value? client with
      | none => exact Steady.refl t
      | some c => exact steady_of_eq rfl rfl

/-- What was enqueued on a connection that stays is enqueued. -/
lemma enqueued_prefix {l : Ledger} {ds : List SocketEffect}
    (h : ds.all (fun e => !e.isEnding) = true) : l.enqueued <+: (l.after ds).enqueued := by
  induction ds generalizing l with
  | nil => exact List.prefix_rfl
  | cons e ds ih =>
      rw [List.all_cons, Bool.and_eq_true] at h
      have hone : l.enqueued <+: (l.note e).enqueued := by
        cases e with
        | enqueued peer frame => exact List.prefix_append _ _
        | disconnected => exact absurd h.1 nofun
        | connectToHost ip => exact absurd h.1 nofun
        | _ => exact List.prefix_rfl
      exact hone.trans (ih h.2)

end SocketTurn

end MeckChat.Network
