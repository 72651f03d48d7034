import MeckChat.Network.MqttActs

/-!
The timers of the client of the broker, over whole runs.

* `awaiting` reads off a log whether a PINGREQ is unanswered on the current connection.
  `keepalive`: the client gives a connection up for a timeout exactly while that is so.
* `losses` counts the connections that were lost since the broker last granted the
  subscriptions. `backoff`: the wait before an attempt lies within the bounds, and doubles
  with the attempts, of which there are no more than losses.
* `gives_up`: an attempt that fails is the last one, unless `connectToBroker` is called.
-/

namespace MeckChat.Network

open MqttTurn QJson

variable {json : JsonCodec} {config : MqttConfig} {es es' : List (MqttEvent × MqttIo)}
  {log log' : List MqttDeed} {s s' : MqttSignalingClient}

/-! ### Keepalive -/

/-- Whether a PINGREQ is unanswered, behind one more deed. -/
def awaits (waiting : Bool) : MqttDeed → Bool
  | .write packet => packet.head? = some PacketType.PINGREQ || waiting
  | .dispatched header _ => header &&& 0xF0 ≠ PacketType.PINGRESP && waiting
  | .connectToHost _ _ => false
  | .disconnected => false
  | _ => waiting

/-- The last of these is a PINGREQ: one that was written, a PINGRESP that was handled, the
begin and the end of a connection. -/
def awaiting (log : List MqttDeed) : Bool := log.foldl awaits false

/-- **The invariant** of the timers that belong to a connection. -/
structure Alive (log : List MqttDeed) (s : MqttSignalingClient) : Prop where
  outstanding : s.m_pingOutstanding = awaiting log
  timeout : s.m_pingTimeoutTimer = true → s.m_pingOutstanding = true
  live : s.m_pingOutstanding = true ∨ s.m_pingTimer = true → s.m_socket.IsLive

lemma awaiting_append (d : MqttDeed) : awaiting (log ++ [d]) = awaits (awaiting log) d := by
  rw [awaiting, awaiting, List.foldl_append, List.foldl_cons, List.foldl_nil]

lemma awaits_of_isNote {d : MqttDeed} (h : d.IsNote) (waiting : Bool) :
    awaits waiting d = waiting := by
  cases d <;> first | rfl | exact absurd h id

/-- A packet that is no PINGREQ. -/
lemma awaits_controlPacket {header : UInt8} (body : Bytes) (h : header ≠ PacketType.PINGREQ)
    (waiting : Bool) : awaits waiting (.write (controlPacket header body)) = waiting := by
  rw [awaits, controlPacket, List.head?_cons, decide_eq_false, Bool.false_or]
  rwa [Option.some_inj]

/-- A handled packet that is no PINGRESP. -/
lemma awaits_dispatched {header : UInt8} (data : Bytes) (h : header &&& 0xF0 ≠ PacketType.PINGRESP)
    (waiting : Bool) : awaits waiting (.dispatched header data) = waiting := by
  rw [awaits, decide_eq_true h, Bool.true_and]

/-- A step that leaves the timers, and the connection that they belong to. -/
lemma Alive.of_same (h : Alive log s) {ds : List MqttDeed}
    (hds : awaiting (log ++ ds) = awaiting log)
    (hpings : s'.m_pingOutstanding = s.m_pingOutstanding)
    (htimeout : s'.m_pingTimeoutTimer = true → s.m_pingTimeoutTimer = true)
    (htimer : s'.m_pingTimer = true → s.m_pingTimer = true)
    (hlive : s.m_socket.IsLive → s'.m_socket.IsLive) : Alive (log ++ ds) s' := by
  refine ⟨?_, fun hactive => ?_, ?_⟩
  · rw [hpings, hds]
    exact h.outstanding
  · rw [hpings]
    exact h.timeout (htimeout hactive)
  · rw [hpings]
    rintro (hwaiting | hactive)
    · exact hlive (h.live (Or.inl hwaiting))
    · exact hlive (h.live (Or.inr (htimer hactive)))

/-- Where there is no connection, no timer is active. -/
lemma Alive.of_dead (h : Alive log s) (hdead : ¬ s.m_socket.IsLive) :
    s.m_pingOutstanding = false ∧ s.m_pingTimeoutTimer = false ∧ s.m_pingTimer = false := by
  have hwaiting : s.m_pingOutstanding = false := by
    rw [← Bool.not_eq_true]
    exact fun hwaiting => hdead (h.live (Or.inl hwaiting))
  refine ⟨hwaiting, ?_, ?_⟩
  · rw [← Bool.not_eq_true]
    exact fun hactive => absurd ((h.timeout hactive).symm.trans hwaiting) (by decide)
  · rw [← Bool.not_eq_true]
    exact fun hactive => hdead (h.live (Or.inr hactive))

/-- A step at which no timer is active. -/
lemma alive_of_idle {ds : List MqttDeed} (hds : awaiting (log ++ ds) = false)
    (hpings : s.m_pingOutstanding = false ∧ s.m_pingTimeoutTimer = false ∧
      s.m_pingTimer = false) : Alive (log ++ ds) s := by
  obtain ⟨hwaiting, htimeout, htimer⟩ := hpings
  refine ⟨by rw [hwaiting, hds], fun hactive => ?_, ?_⟩
  · exact absurd (hactive.symm.trans htimeout) (by decide)
  · rintro (hactive | hactive)
    · exact absurd (hactive.symm.trans hwaiting) (by decide)
    · exact absurd (hactive.symm.trans htimer) (by decide)

/-- **One step.** -/
lemma Alive.act {io : MqttIo} {early dials : Prop} {ds : List MqttDeed} (h : Alive log s)
    (hact : MqttAct json io early dials s ds s') : Alive (log ++ ds) s' := by
  have hnone : awaiting (log ++ []) = awaiting log := by rw [List.append_nil]
  have hdead : ¬ s.m_socket.IsLive → awaiting log = false := fun hdead =>
    h.outstanding.symm.trans (h.of_dead hdead).1
  have hone : ∀ {d : MqttDeed}, (∀ waiting, awaits waiting d = waiting) →
      awaiting (log ++ [d]) = awaiting log := fun hd => (awaiting_append _).trans (hd _)
  cases hact with
  | note hd => exact h.of_same (hone (awaits_of_isNote hd)) rfl id id id
  | buffer => exact h.of_same hnone rfl id id id
  | aim => exact h.of_same hnone rfl id id id
  | dial _ hsocket =>
      refine alive_of_idle (awaiting_append _) (h.of_dead ?_)
      rintro ⟨hopen, -⟩
      exact QSslSocket.state_ne_of_isOpen hopen hsocket
  | established hsocket =>
      have hlost := QSslSocket.not_isLive_of_isConnecting hsocket
      exact alive_of_idle (hnone.trans (hdead hlost)) (h.of_dead hlost)
  | failed hsocket =>
      have hlost : ¬ s.m_socket.IsLive :=
        fun hlive => absurd (hlive.1.symm.trans hsocket) (by decide)
      exact alive_of_idle (hnone.trans (hdead hlost)) (h.of_dead hlost)
  | postpone hsocket =>
      have hlost := QSslSocket.not_isLive_of_isConnecting hsocket
      exact alive_of_idle (hnone.trans (hdead hlost)) (h.of_dead hlost)
  | closing => exact h.of_same hnone rfl id id fun hlive => ⟨rfl, hlive.2⟩
  | greet hsocket hplain =>
      have hlost : ¬ s.m_socket.IsLive :=
        fun hlive => absurd (hlive.2.symm.trans hplain) (by decide)
      exact alive_of_idle ((hone (awaits_controlPacket _ (by decide))).trans (hdead hlost))
        (h.of_dead hlost)
  | take hlive hpassing => exact h.of_same (hone (awaits_dispatched _ hpassing.2.2)) rfl id id id
  | @accept header data hlive haccepting =>
      have hpingresp : header &&& 0xF0 ≠ PacketType.PINGRESP := by
        rw [haccepting.1]
        decide
      have hkept := hone (awaits_dispatched data hpingresp)
      exact ⟨h.outstanding.trans hkept.symm, h.timeout, fun _ => hlive⟩
  | subscribe => exact h.of_same (hone (awaits_controlPacket _ (by decide))) rfl id id id
  | @grant header data hlive hsuback =>
      have hpingresp : header &&& 0xF0 ≠ PacketType.PINGRESP := by
        rw [hsuback.1]
        decide
      exact h.of_same (hone (awaits_dispatched _ hpingresp)) rfl id id id
  | announce => exact h.of_same (hone fun _ => rfl) rfl id id id
  | pong hlive hpingresp =>
      refine ⟨?_, nofun, fun _ => hlive⟩
      rw [awaiting_append, awaits, hpingresp, decide_eq_false (not_not.mpr rfl)]
      rfl
  | puback => exact h.of_same (hone (awaits_controlPacket _ (by decide))) rfl id id id
  | @publish topic payload retain =>
      have hheader : publishHeader 1 retain ≠ PacketType.PINGREQ := by cases retain <;> decide
      exact h.of_same (hone (awaits_controlPacket _ hheader)) rfl id id id
  | ping _ hlive =>
      refine ⟨?_, fun _ => rfl, fun _ => hlive⟩
      rw [awaiting_append]
      rfl
  | farewell => exact h.of_same (hone fun _ => rfl) rfl id id fun hlive => ⟨rfl, hlive.2⟩
  | stop => exact h.of_same hnone rfl nofun nofun id
  | leave => exact h.of_same hnone rfl id id id
  | hangUp => exact alive_of_idle (awaiting_append _) ⟨rfl, rfl, rfl⟩
  | lose => exact alive_of_idle (awaiting_append _) ⟨rfl, rfl, rfl⟩
  | expire => exact h.of_same hnone rfl nofun id id
  | attempt => exact h.of_same hnone rfl id id id

lemma alive_of_run
    (hrun : Run (MqttSignalingClient.machine json) (fun _ _ => True) { config } es log s) :
    Alive log s :=
  (run_acts True True (fun _ => True) hrun (linked_of_ne nofun)
    ⟨rfl, nofun, by rintro (⟨⟨⟩⟩ | ⟨⟨⟩⟩)⟩ (fun _ _ e _ _ _ => ⟨permits_true e, trivial⟩)
    fun _ _ h hact => h.act hact).2

/-- What the end of a connection reports. -/
lemma disconnected_mem_closed {t : MqttTurn} {io : MqttIo}
    (hopen : t.client.m_socket.isOpen = true) :
    .disconnected ∈ (t.closed io).deeds := by
  have hschedule : ∀ u : MqttTurn, (u.scheduleReconnect io).deeds = u.deeds := by
    intro u
    rw [scheduleReconnect]
    split_ifs <;> rfl
  have hlost : ∀ u : MqttTurn, .disconnected ∈ (u.onSocketDisconnected io).deeds := by
    intro u
    rw [onSocketDisconnected]
    split_ifs
    · rw [hschedule]
      exact List.mem_append_right _ (List.mem_singleton_self _)
    · exact List.mem_append_right _ (List.mem_singleton_self _)
  rw [QSslSocket.isOpen, Bool.or_eq_true, decide_eq_true_eq, decide_eq_true_eq] at hopen
  rcases hopen with h | h
  · rw [closed, h]
    exact hlost _
  · rw [closed, h]
    exact hlost _

/-- **Keepalive.** The timer that waits for an answer is active only while the client has a
TLS connection on which its last PINGREQ is unanswered, and its expiry ends the connection.
An expiry at any other time ends none. PINGREQs are scheduled on such a connection only. -/
theorem keepalive
    (hrun : Run (MqttSignalingClient.machine json) (fun _ _ => True) { config } es log s) :
    (s.m_pingTimeoutTimer = true → awaiting log = true ∧ s.m_socket.IsLive) ∧
      (s.m_pingTimer = true → s.m_socket.IsLive) ∧
      ∀ io, .disconnected ∈ ((MqttSignalingClient.machine json).step s (.pingTimeout, io)).2 ↔
        s.m_pingTimeoutTimer = true := by
  have halive := alive_of_run hrun
  have hwaits : s.m_pingTimeoutTimer = true → awaiting log = true ∧ s.m_socket.IsLive :=
    fun hactive => ⟨halive.outstanding.symm.trans (halive.timeout hactive),
      halive.live (Or.inl (halive.timeout hactive))⟩
  refine ⟨hwaits, fun hactive => halive.live (Or.inr hactive), fun io => ?_⟩
  obtain ⟨u, hu⟩ : ∃ u : MqttTurn, u = setPing false s.m_pingOutstanding ⟨s, []⟩ := ⟨_, rfl⟩
  have hstep : ((MqttSignalingClient.machine json).step s (.pingTimeout, io)).2 =
      (if s.m_pingTimeoutTimer then u.onPingTimeout io else ⟨s, []⟩).deeds := by
    rw [hu]
    rfl
  rw [hstep]
  cases hactive : s.m_pingTimeoutTimer with
  | false =>
      rw [if_neg (by decide)]
      exact iff_of_false nofun nofun
  | true =>
      have hwaiting : u.client.m_pingOutstanding = true := by
        rw [hu]
        exact halive.timeout hactive
      have hopen : u.client.m_socket.isOpen = true := by
        rw [hu]
        exact (hwaits hactive).2.1
      rw [if_pos rfl, onPingTimeout, if_pos hwaiting]
      exact iff_of_true (disconnected_mem_closed hopen) rfl

/-- A client that is ready sends a PINGREQ. -/
def connectAndPing : List (MqttEvent × MqttIo) :=
  (connectAndRead granted).concat (.pingTimer, {})

theorem keepalive_ping :
    .disconnected ∈ ((MqttSignalingClient.machine QJson.compact).step
      ((MqttSignalingClient.machine QJson.compact).exec { config := { deviceId := "mc_0001" } }
        connectAndPing).2 (.pingTimeout, {})).2 :=
  ((keepalive (Run.exec_all (MqttSignalingClient.machine QJson.compact)
    { config := { deviceId := "mc_0001" } } connectAndPing)).2.2 {}).mpr (by decide +kernel)

/-! ### Attempts -/

/-- The connections lost since the subscriptions were granted, behind one more deed. -/
def countLoss (n : ℕ) : MqttDeed → ℕ
  | .connected => 0
  | .disconnected => n + 1
  | _ => n

/-- The connections lost since the subscriptions were granted. -/
def losses (log : List MqttDeed) : ℕ := log.foldl countLoss 0

/-- What `QRandomGenerator` promises of the random offset. -/
def MqttIo.IsBounded (io : MqttIo) : Prop := -100 ≤ io.jitter ∧ io.jitter < 100

/-- **The invariant** of the timer for the next attempt. -/
structure Scheduled (log : List MqttDeed) (s : MqttSignalingClient) : Prop where
  attempts : s.m_reconnectAttempts ≤ losses log
  delay : ∀ delay ∈ s.m_reconnectTimer, ∃ k, s.m_reconnectAttempts = k + 1 ∧
    ∃ io : MqttIo, io.IsBounded ∧ delay = reconnectDelay k io.jitter

lemma losses_append (d : MqttDeed) : losses (log ++ [d]) = countLoss (losses log) d := by
  rw [losses, losses, List.foldl_append, List.foldl_cons, List.foldl_nil]

/-- A step that leaves the attempts, and schedules none. -/
lemma Scheduled.of_same (h : Scheduled log s) {ds : List MqttDeed}
    (hds : losses log ≤ losses (log ++ ds))
    (hattempts : s'.m_reconnectAttempts = s.m_reconnectAttempts)
    (htimer : s'.m_reconnectTimer = s.m_reconnectTimer ∨ s'.m_reconnectTimer = none) :
    Scheduled (log ++ ds) s' := by
  refine ⟨by rw [hattempts]; exact h.attempts.trans hds, fun delay hdelay => ?_⟩
  rw [hattempts]
  rcases htimer with htimer | htimer
  · rw [htimer] at hdelay
    exact h.delay delay hdelay
  · rw [htimer] at hdelay
    exact absurd hdelay (Option.not_mem_none _)

/-- **One step.** -/
lemma Scheduled.act {io : MqttIo} {early dials : Prop} {ds : List MqttDeed} (hio : io.IsBounded)
    (h : Scheduled log s) (hact : MqttAct json io early dials s ds s') :
    Scheduled (log ++ ds) s' := by
  have hnone : losses log ≤ losses (log ++ []) := by rw [List.append_nil]
  have hone : ∀ {d : MqttDeed}, countLoss (losses log) d = losses log →
      losses log ≤ losses (log ++ [d]) := fun hd => ((losses_append _).trans hd).ge
  cases hact with
  | @note d hd =>
      have hkept : countLoss (losses log) d = losses log := by
        cases d <;> first | rfl | exact absurd hd id
      exact h.of_same (hone hkept) rfl (Or.inl rfl)
  | buffer => exact h.of_same hnone rfl (Or.inl rfl)
  | aim => exact h.of_same hnone rfl (Or.inl rfl)
  | dial => exact h.of_same (hone rfl) rfl (Or.inl rfl)
  | established => exact h.of_same hnone rfl (Or.inl rfl)
  | failed => exact h.of_same hnone rfl (Or.inl rfl)
  | postpone => exact h.of_same hnone rfl (Or.inl rfl)
  | closing => exact h.of_same hnone rfl (Or.inl rfl)
  | greet => exact h.of_same (hone rfl) rfl (Or.inl rfl)
  | take => exact h.of_same (hone rfl) rfl (Or.inl rfl)
  | accept => exact h.of_same (hone rfl) rfl (Or.inl rfl)
  | subscribe => exact h.of_same (hone rfl) rfl (Or.inl rfl)
  | grant => exact ⟨Nat.zero_le _, nofun⟩
  | announce _ hattempts =>
      refine ⟨by rw [hattempts]; exact Nat.zero_le _, ?_⟩
      exact h.delay
  | pong => exact h.of_same (hone rfl) rfl (Or.inl rfl)
  | puback => exact h.of_same (hone rfl) rfl (Or.inl rfl)
  | publish => exact h.of_same (hone rfl) rfl (Or.inl rfl)
  | ping => exact h.of_same (hone rfl) rfl (Or.inl rfl)
  | farewell => exact h.of_same (hone rfl) rfl (Or.inl rfl)
  | stop => exact h.of_same hnone rfl (Or.inr rfl)
  | leave => exact h.of_same hnone rfl (Or.inl rfl)
  | hangUp => exact h.of_same ((losses_append _).ge.trans' (Nat.le_succ _)) rfl (Or.inl rfl)
  | lose =>
      refine ⟨?_, ?_⟩
      · rw [losses_append]
        exact Nat.succ_le_succ h.attempts
      · rintro delay ⟨⟩
        exact ⟨s.m_reconnectAttempts, rfl, io, hio, rfl⟩
  | expire => exact h.of_same hnone rfl (Or.inl rfl)
  | attempt => exact h.of_same hnone rfl (Or.inr rfl)

/-- The wait doubles with the attempts, up to a minute. -/
lemma reconnectDelay_bounds (k : ℕ) {io : MqttIo} (hio : io.IsBounded) :
    1000 ≤ reconnectDelay k io.jitter ∧
      min (1000 * 2 ^ k) 60000 - 100 ≤ reconnectDelay k io.jitter ∧
      reconnectDelay k io.jitter < min (1000 * 2 ^ k) 60000 + 100 := by
  obtain ⟨hlow, hhigh⟩ := hio
  have hpow : (1 : ℤ) ≤ 2 ^ k := one_le_pow₀ (by decide)
  have hcapped : min (INITIAL_RECONNECT_MS * 2 ^ min k 6) MAX_RECONNECT_MS =
      min (1000 * 2 ^ k) 60000 := by
    rw [INITIAL_RECONNECT_MS, MAX_RECONNECT_MS]
    rcases Nat.le_total k 6 with hk | hk
    · rw [Nat.min_eq_left hk]
    · have hlarge : (2 : ℤ) ^ 6 ≤ 2 ^ k := pow_le_pow_right₀ (by decide) hk
      rw [Nat.min_eq_right hk]
      omega
  rw [reconnectDelay, hcapped]
  omega

/-- **Backoff.** While an attempt is scheduled, its wait is at least a second and follows
the attempts before it, of which there are fewer than connections lost since the
subscriptions were granted: it doubles with them up to a minute, with an offset below a
tenth of a second. -/
theorem backoff
    (hrun : Run (MqttSignalingClient.machine json) (fun _ e => e.2.IsBounded) { config } es log s)
    {delay : ℤ} (htimer : s.m_reconnectTimer = some delay) :
    ∃ k < losses log, s.m_reconnectAttempts = k + 1 ∧ 1000 ≤ delay ∧
      min (1000 * 2 ^ k) 60000 - 100 ≤ delay ∧ delay < min (1000 * 2 ^ k) 60000 + 100 := by
  have hscheduled : Scheduled log s :=
    (run_acts True True MqttIo.IsBounded hrun (linked_of_ne nofun) ⟨Nat.zero_le _, nofun⟩
      (fun _ _ e _ _ hio => ⟨permits_true e, hio⟩) fun hio _ h hact => h.act hio hact).2
  obtain ⟨k, hk, io, hio, rfl⟩ := hscheduled.delay delay htimer
  have hless := hscheduled.attempts
  exact ⟨k, by omega, hk, reconnectDelay_bounds k hio⟩

theorem backoff_lost : ∃ k < losses ((MqttSignalingClient.machine QJson.compact).exec
      { config := { deviceId := "mc_0001" } } (connectAndLose.map fun e => (e, {}))).1,
    (clientAfter connectAndLose).m_reconnectAttempts = k + 1 ∧ (1000 : ℤ) ≤ 1000 ∧
      min (1000 * 2 ^ k) 60000 - 100 ≤ (1000 : ℤ) ∧
      (1000 : ℤ) < min (1000 * 2 ^ k) 60000 + 100 := by
  have hbounded : (MqttSignalingClient.machine QJson.compact).Allows (fun _ e => e.2.IsBounded)
      { config := { deviceId := "mc_0001" } } (connectAndLose.map fun e => (e, {})) := by
    refine Machine.allows_of_forall_mem _ _ fun e he => ?_
    obtain ⟨e, -, rfl⟩ := List.mem_map.mp he
    have hzero : ({} : MqttIo).IsBounded := ⟨by decide, by decide⟩
    exact hzero
  exact backoff (Run.exec hbounded) (by decide +kernel)

/-! ### The last attempt -/

/-- **The invariant** of a client that has given up. -/
structure Resting (log : List MqttDeed) (s : MqttSignalingClient) : Prop where
  socket : s.m_socket.state = .UnconnectedState
  timer : s.m_reconnectTimer = none
  notes : ∀ d ∈ log, d.IsNote

lemma Resting.not_isOpen (h : Resting log s) : s.m_socket.isOpen = false := by
  rw [QSslSocket.isOpen, h.socket]
  rfl

/-- **One step**, none that begins a connection. -/
lemma Resting.act {io : MqttIo} {early : Prop} {ds : List MqttDeed} (hlinked : Linked s)
    (h : Resting log s) (hact : MqttAct json io early False s ds s') : Resting (log ++ ds) s' := by
  have hclosed : ¬ s.m_socket.isOpen = true := by
    rw [h.not_isOpen]
    decide
  have hconnecting : ¬ s.m_socket.isConnecting = true := by
    rw [QSslSocket.isConnecting, h.socket]
    decide
  have hconnected : ¬ s.m_socket.state = .ConnectedState := by
    rw [h.socket]
    decide
  have hsilent : ∀ d ∈ log ++ [], d.IsNote := by
    rw [List.append_nil]
    exact h.notes
  cases hact with
  | @note d hd =>
      refine ⟨h.socket, h.timer, fun d' hd' => ?_⟩
      rcases List.mem_append.mp hd' with hd' | hd'
      · exact h.notes d' hd'
      · rw [List.mem_singleton.mp hd']
        exact hd
  | buffer => exact ⟨h.socket, h.timer, hsilent⟩
  | aim => exact ⟨h.socket, h.timer, hsilent⟩
  | dial hdials => exact hdials.elim
  | established hsocket => exact absurd hsocket hconnecting
  | failed => exact ⟨rfl, h.timer, hsilent⟩
  | postpone hsocket => exact absurd hsocket hconnecting
  | closing hsocket => exact absurd hsocket hclosed
  | greet hsocket => exact absurd hsocket hconnected
  | take hlive => exact absurd hlive.1 hclosed
  | accept hlive => exact absurd hlive.1 hclosed
  | subscribe hlive => exact absurd hlive.1 hclosed
  | grant hlive => exact absurd hlive.1 hclosed
  | announce hstate => exact absurd (hlinked hstate).1 hclosed
  | pong hlive => exact absurd hlive.1 hclosed
  | puback _ hlive => exact absurd hlive.1 hclosed
  | publish _ _ hsocket => exact absurd hsocket hconnected
  | ping _ hlive => exact absurd hlive.1 hclosed
  | farewell _ hlive => exact absurd hlive.1 hclosed
  | stop => exact ⟨h.socket, rfl, hsilent⟩
  | leave => exact ⟨h.socket, h.timer, hsilent⟩
  | hangUp hsocket => exact absurd hsocket hclosed
  | lose hsocket => exact absurd hsocket hclosed
  | expire => exact ⟨h.socket, h.timer, hsilent⟩
  | attempt => exact ⟨h.socket, rfl, hsilent⟩

/-- **A failed attempt is the last.** When an attempt fails with none scheduled behind it,
the client stays away from the broker: in no run without a call of `connectToBroker` does it
begin a connection, schedule an attempt or write anything. -/
theorem gives_up
    (hrun : Run (MqttSignalingClient.machine json) (fun _ _ => True) { config } es log s)
    (hconnecting : s.m_socket.isConnecting = true) (htimer : s.m_reconnectTimer = none)
    (errorMsg : String) (io : MqttIo)
    (hrest : Run (MqttSignalingClient.machine json)
      (fun _ e => ∀ host port, e.1 ≠ .connectToBroker host port)
      ((MqttSignalingClient.machine json).step s (.connectionFailed errorMsg, io)).1 es' log' s') :
    s'.m_socket.state = .UnconnectedState ∧ s'.m_reconnectTimer = none ∧ ∀ d ∈ log', d.IsNote := by
  have hlinked : Linked s :=
    (run_acts True True (fun _ => True) (I := fun _ _ => True) hrun
      (linked_of_ne (by rintro ⟨⟩)) trivial (fun _ _ e _ _ _ => ⟨permits_true e, trivial⟩)
      fun _ _ _ _ => trivial).1
  have hfailed : ((MqttSignalingClient.machine json).step s (.connectionFailed errorMsg, io)).1 =
      { s with m_socket := {} } := by
    have hreact : (react json io ⟨s, []⟩ (.connectionFailed errorMsg)).client =
        { s with m_socket := {} } := by
      rw [react, if_pos hconnecting]
      rfl
    exact hreact
  rw [hfailed] at hrest
  have hresting : Resting log' s' := by
    refine (run_acts True False (fun _ => True) hrest ?_
      ⟨rfl, htimer, List.forall_mem_nil _⟩ ?_ fun _ hlinked h hact => h.act hlinked hact).2
    · exact fun hready =>
        absurd (hlinked hready) (QSslSocket.not_isLive_of_isConnecting hconnecting)
    · intro log s e io h he
      refine ⟨?_, trivial⟩
      cases e with
      | connectToBroker host port => exact he host port rfl
      | reconnectTimer =>
          intro hactive
          rw [h.timer] at hactive
          cases hactive
      | publishOnlinePresence => exact Or.inl trivial
      | publishOfflinePresence => exact Or.inl trivial
      | broadcastDiscoveryRequest => exact Or.inl trivial
      | _ => exact trivial
  exact ⟨hresting.socket, hresting.timer, hresting.notes⟩

/-- The client that begins its first connection. -/
def dialling : MqttSignalingClient :=
  ((MqttSignalingClient.machine QJson.compact).exec { config := { deviceId := "mc_0001" } }
    [(.connectToBroker "" 0, {})]).2

/-- It fails, and later calls and timers do not bring it back. -/
theorem gives_up_refused :
    ((MqttSignalingClient.machine QJson.compact).exec
      ((MqttSignalingClient.machine QJson.compact).step dialling
        (.connectionFailed "Connection refused", {})).1
      [(.reconnectTimer, {}), (.broadcastDiscoveryRequest "mc_0001", {})]).2.m_socket.state =
        .UnconnectedState := by
  have hrest : (MqttSignalingClient.machine QJson.compact).Allows
      (fun _ e => ∀ host port, e.1 ≠ .connectToBroker host port)
      ((MqttSignalingClient.machine QJson.compact).step dialling
        (.connectionFailed "Connection refused", {})).1
      [(.reconnectTimer, {}), (.broadcastDiscoveryRequest "mc_0001", {})] :=
    ⟨nofun, nofun, trivial⟩
  exact (gives_up (Run.exec_all (MqttSignalingClient.machine QJson.compact)
    { config := { deviceId := "mc_0001" } } [(.connectToBroker "" 0, {})]) (by decide +kernel)
    (by decide +kernel) "Connection refused" {} (Run.exec hrest)).1

end MeckChat.Network
