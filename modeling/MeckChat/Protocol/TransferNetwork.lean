import MeckChat.Protocol.TransferIntegrity

/-!
Two file transfer controllers that are joined by a lossless channel in each
direction.

* `Net` holds both controllers and the frames on their way; `Net.step` runs one
  event on one side, and appends the frames it sends to the channel. `network`
  is the machine; what it logs are the files sent and the offers accepted.
* `View` is what the network shows of one transfer: the sessions of both sides,
  its messages in both channels as `readFrame` reads them, and its timers.
* `Reacts` describes the network behind one reaction of one side, and
  `view_reacts_of_ne` says that the other transfers see nothing of it.
-/

namespace MeckChat.Protocol

open Qt QJson FileTransferController

variable (json : JsonCodec) (sha : Sha256)

/-! ### The network -/

/-- The two ends of the link. -/
inductive Side where
  | left
  | right
  deriving DecidableEq, Repr

/-- The other end. -/
def Side.other : Side → Side
  | .left => .right
  | .right => .left

@[simp] lemma Side.other_other (Z : Side) : Z.other.other = Z := by cases Z <;> rfl

@[simp] lemma Side.other_ne (Z : Side) : Z.other ≠ Z := by cases Z <;> decide

@[simp] lemma Side.ne_other (Z : Side) : Z ≠ Z.other := by cases Z <;> decide

lemma Side.eq_or_eq_other (X Z : Side) : Z = X ∨ Z = X.other := by
  cases X <;> cases Z <;> decide

/-- The frame a deed sends. -/
@[simp] def Deed.frame? : Deed → Option P2PFrame
  | .sendFrame frame => some frame
  | _ => none

/-- The frames sent, in order. -/
def framesSent (deeds : List Deed) : List P2PFrame := deeds.filterMap Deed.frame?

/-- Two controllers, and the frames on their way to each of them. -/
structure Net where
  ctrl : Side → FileTransferController
  chan : Side → List P2PFrame

/-- The network after side `Z` came to the state and the effects `r`. -/
def Net.put (net : Net) (Z : Side) (r : FileTransferController × List Effect) : Net where
  ctrl := Function.update net.ctrl Z r.1
  chan := Function.update net.chan Z.other
    (net.chan Z.other ++ framesSent (r.2.map Effect.deed))

/-- What can happen in the network. -/
inductive NetEvent where
  | sendFile (side : Side) (filePath peerVirtualIp : String)
  | acceptTransfer (side : Side) (transferId destinationDir : String)
  | timeout (side : Side) (transferId : String)
  | deliver (side : Side) (senderIp : String)
  deriving DecidableEq, Repr

/-- What is noted of a run: a file was sent under an id with the content it had,
and an offer was accepted. -/
inductive Fact where
  | sent (side : Side) (transferId filePath : String) (content : Bytes)
  | accepted (side : Side) (transferId : String)
  deriving DecidableEq, Repr

/-- One event in the network. -/
def Net.step (net : Net) : NetEvent × Io → Net × List Fact
  | (.sendFile Z filePath ip, io) =>
      let r := (net.ctrl Z).sendFile json sha io filePath ip
      (net.put Z (r.1, r.2.1),
        if r.2.2 = "" then []
        else [.sent Z r.2.2 filePath (((net.ctrl Z).files.contentAt filePath).getD [])])
  | (.acceptTransfer Z tid dir, io) =>
      let r := (net.ctrl Z).acceptTransfer json io tid dir
      (net.put Z (r.1, r.2.1), if r.2.2 then [.accepted Z tid] else [])
  | (.timeout Z tid, io) => (net.put Z ((net.ctrl Z).timeout json io tid), [])
  | (.deliver Z ip, io) =>
      match net.chan Z with
      | [] => (net, [])
      | frame :: rest =>
          (({ net with chan := Function.update net.chan Z rest } : Net).put Z
            ((net.ctrl Z).onFrameReceivedFrom json sha io frame ip), [])

/-- The network as a machine. -/
def network : Machine Net (NetEvent × Io) Fact where
  step net e := net.step json sha e

/-- Nothing is on its way, and no timer is pending. -/
structure Net.Quiet (net : Net) : Prop where
  chan (Z : Side) : net.chan Z = []
  timers (Z : Side) : (net.ctrl Z).timers = []

/-! ### What the network shows of one transfer -/

/-- The id that a command is about. -/
def Command.id? : Command → Option String
  | .offer m => some m.transferId
  | .request tid _ => some tid
  | _ => none

/-- The messages about one transfer on their way to a side. -/
def Net.messages (net : Net) (Z : Side) (tid : String) : List Command :=
  ((net.chan Z).map (readFrame json)).filter fun cmd => cmd.id? = some tid

/-- One transfer, from both of its ends. -/
structure View where
  sender : Option FileTransferSession
  receiver : Option FileTransferSession
  toReceiver : List Command
  toSender : List Command
  pending : ℕ
  stray : ℕ

/-- The transfer `tid`, sent by `X`. -/
def Net.view (net : Net) (X : Side) (tid : String) : View where
  sender := (net.ctrl X).m_sessions.value? tid
  receiver := (net.ctrl X.other).m_sessions.value? tid
  toReceiver := net.messages json X.other tid
  toSender := net.messages json X tid
  pending := (net.ctrl X).timers.count tid
  stray := (net.ctrl X.other).timers.count tid

/-! ### Reactions -/

/-- From `net` to `net'` side `Z` reacted for the transfer `tid`: its session,
the files and the timers are those of the turn `t`, and so are the frames sent. -/
structure Reacts (Z : Side) (tid : String) (t : Turn) (net net' : Net) : Prop where
  socket (Y : Side) : (net'.ctrl Y).m_socket = (net.ctrl Y).m_socket
  session : (net'.ctrl Z).m_sessions.value? tid = some t.session
  sessions {Y a} : Y ≠ Z ∨ a ≠ tid →
    (net'.ctrl Y).m_sessions.value? a = (net.ctrl Y).m_sessions.value? a
  files : (net'.ctrl Z).files = t.files
  files_other : (net'.ctrl Z.other).files = (net.ctrl Z.other).files
  timers : (net'.ctrl Z).timers = (net.ctrl Z).timers ++ t.timers
  timers_other : (net'.ctrl Z.other).timers = (net.ctrl Z.other).timers
  chan : net'.chan Z = net.chan Z
  chan_other : net'.chan Z.other = net.chan Z.other ++ framesSent t.deeds

/-- The first frame for side `Z` taken off its channel. -/
def Net.pop (net : Net) (Z : Side) (rest : List P2PFrame) : Net where
  ctrl := net.ctrl
  chan := Function.update net.chan Z rest

@[simp] lemma ctrl_pop (net : Net) (Z : Side) (rest : List P2PFrame) :
    (net.pop Z rest).ctrl = net.ctrl := rfl

/-- A timer of side `Z` taken off. -/
def Net.fire (net : Net) (Z : Side) (tid : String) : Net where
  ctrl := Function.update net.ctrl Z
    { net.ctrl Z with timers := (net.ctrl Z).timers.erase tid }
  chan := net.chan

/-- The network `base` is `net`, except that frames or timers may be missing. -/
structure Net.Base (base net : Net) : Prop where
  sessions (Y : Side) : (base.ctrl Y).m_sessions = (net.ctrl Y).m_sessions
  files (Y : Side) : (base.ctrl Y).files = (net.ctrl Y).files
  socket (Y : Side) : (base.ctrl Y).m_socket = (net.ctrl Y).m_socket
  timers {Y : Side} {a} : a ∈ (base.ctrl Y).timers → a ∈ (net.ctrl Y).timers

lemma Net.Base.refl (net : Net) : net.Base net := ⟨fun _ => rfl, fun _ => rfl, fun _ => rfl, id⟩

lemma base_pop (net : Net) (Z : Side) (rest : List P2PFrame) : (net.pop Z rest).Base net :=
  ⟨fun _ => rfl, fun _ => rfl, fun _ => rfl, id⟩

lemma base_fire (net : Net) (Z : Side) (tid : String) : (net.fire Z tid).Base net := by
  constructor
  · intro Y
    by_cases hY : Y = Z
    · subst hY
      simp [Net.fire]
    · simp [Net.fire, hY]
  · intro Y
    by_cases hY : Y = Z
    · subst hY
      simp [Net.fire]
    · simp [Net.fire, hY]
  · intro Y
    by_cases hY : Y = Z
    · subst hY
      simp [Net.fire]
    · simp [Net.fire, hY]
  · intro Y a ha
    by_cases hY : Y = Z
    · subst hY
      simp only [Net.fire, Function.update_self] at ha
      exact List.mem_of_mem_erase ha
    · simpa [Net.fire, hY] using ha

section Reactions

variable {json sha}
variable {net net' : Net} {Z : Side} {tid : String} {t : Turn}

lemma framesSent_map (i : ℕ) (deeds : List Deed) :
    framesSent ((deeds.map (Effect.mk i)).map Effect.deed) = framesSent deeds := by
  rw [List.map_map]
  exact congrArg framesSent (List.map_id deeds)

variable (net) in
/-- A request on a registered session is a reaction. -/
lemma reacts_onSession {s : FileTransferSession} {f : Turn → Turn}
    (hs : (net.ctrl Z).m_sessions.value? tid = some s) :
    Reacts Z tid (f { session := s, files := (net.ctrl Z).files }) net
      (net.put Z ((net.ctrl Z).onSession tid f)) := by
  rw [onSession_some hs]
  refine ⟨?_, ?_, ?_, ?_, ?_, ?_, ?_, ?_, ?_⟩
  · intro Y
    by_cases hY : Y = Z
    · subst hY
      simp [Net.put]
    · simp [Net.put, hY]
  · simp [Net.put]
  · intro Y a h
    by_cases hY : Y = Z
    · subst hY
      have ha : tid ≠ a := fun heq => (h.resolve_left (by simp)) heq.symm
      simp [Net.put, QMap.value?_insert_of_ne _ ha]
    · simp [Net.put, hY]
  · simp [Net.put]
  · simp [Net.put]
  · simp [Net.put]
  · simp [Net.put]
  · simp [Net.put]
  · simp only [Net.put, Function.update_self]
    rw [framesSent_map]

variable (net) in
/-- Registering a session is a reaction. -/
lemma reacts_register {s : FileTransferSession} (deeds : List Deed) (hs : s.transferId = tid) :
    Reacts Z tid { session := s, files := (net.ctrl Z).files, deeds := deeds } net
      (net.put Z ((net.ctrl Z).register s deeds)) := by
  subst hs
  rw [register]
  refine ⟨?_, ?_, ?_, ?_, ?_, ?_, ?_, ?_, ?_⟩
  · intro Y
    by_cases hY : Y = Z
    · subst hY
      simp [Net.put]
    · simp [Net.put, hY]
  · simp [Net.put]
  · intro Y a h
    by_cases hY : Y = Z
    · subst hY
      have ha : s.transferId ≠ a := fun heq => (h.resolve_left (by simp)) heq.symm
      simp [Net.put, QMap.value?_insert_of_ne _ ha]
    · simp [Net.put, hY]
  · simp [Net.put]
  · simp [Net.put]
  · simp [Net.put]
  · simp [Net.put]
  · simp [Net.put]
  · simp only [Net.put, Function.update_self]
    rw [framesSent_map]

namespace Reacts

variable (h : Reacts Z tid t net net')

include h

/-- The messages behind a reaction. -/
lemma messages (a : String) : net'.messages json Z a = net.messages json Z a := by
  rw [Net.messages, Net.messages, h.chan]

lemma messages_other (a : String) :
    net'.messages json Z.other a = net.messages json Z.other a ++
      ((framesSent t.deeds).map (readFrame json)).filter fun cmd => cmd.id? = some a := by
  rw [Net.messages, Net.messages, h.chan_other, List.map_append, List.filter_append]

/-- The messages that are sent are all about `tid`. -/
lemma messages_other_of_ne (hout : ∀ f ∈ framesSent t.deeds, (readFrame json f).id? = some tid)
    {a : String} (ha : a ≠ tid) :
    net'.messages json Z.other a = net.messages json Z.other a := by
  have hnone : (((framesSent t.deeds).map (readFrame json)).filter fun cmd => cmd.id? = some a) =
      [] := by
    rw [List.filter_eq_nil_iff]
    intro cmd hcmd
    obtain ⟨f, hf, rfl⟩ := List.mem_map.mp hcmd
    rw [hout f hf, decide_eq_true_eq, Option.some.injEq]
    exact ha.symm
  rw [h.messages_other, hnone, List.append_nil]

/-- The other transfers see nothing of a reaction. -/
lemma view_of_ne (hout : ∀ f ∈ framesSent t.deeds, (readFrame json f).id? = some tid)
    (htimers : ∀ a ∈ t.timers, a = tid) (X : Side) {a : String} (ha : a ≠ tid) :
    net'.view json X a = net.view json X a := by
  have hmessages : ∀ Y, net'.messages json Y a = net.messages json Y a := by
    intro Y
    rcases Z.eq_or_eq_other Y with rfl | rfl
    · exact h.messages a
    · exact h.messages_other_of_ne hout ha
  have hcount : ∀ Y, (net'.ctrl Y).timers.count a = (net.ctrl Y).timers.count a := by
    intro Y
    rcases Z.eq_or_eq_other Y with rfl | rfl
    · have hzero : t.timers.count a = 0 :=
        List.count_eq_zero.mpr fun hmem => ha (htimers a hmem)
      rw [h.timers, List.count_append, hzero, Nat.add_zero]
    · rw [h.timers_other]
  rw [Net.view, Net.view, h.sessions (.inr ha), h.sessions (.inr ha), hmessages, hmessages, hcount,
    hcount]

/-- What the sender's reaction does to the view of its transfer. -/
lemma view_sender (hout : ∀ f ∈ framesSent t.deeds, (readFrame json f).id? = some tid) :
    net'.view json Z tid =
      { net.view json Z tid with
        sender := some t.session
        toReceiver := (net.view json Z tid).toReceiver ++ (framesSent t.deeds).map (readFrame json)
        pending := (net.view json Z tid).pending + t.timers.count tid } := by
  have hall : (((framesSent t.deeds).map (readFrame json)).filter fun cmd => cmd.id? = some tid) =
      (framesSent t.deeds).map (readFrame json) := by
    rw [List.filter_eq_self]
    intro cmd hcmd
    obtain ⟨f, hf, rfl⟩ := List.mem_map.mp hcmd
    rw [hout f hf, decide_eq_true_eq]
  simp only [Net.view, h.session, h.sessions (.inl Z.other_ne), h.messages, h.messages_other,
    hall, h.timers, h.timers_other, List.count_append]

/-- What the receiver's reaction does to the view of its transfer. -/
lemma view_receiver (hout : ∀ f ∈ framesSent t.deeds, (readFrame json f).id? = some tid) :
    net'.view json Z.other tid =
      { net.view json Z.other tid with
        receiver := some t.session
        toSender := (net.view json Z.other tid).toSender ++
          (framesSent t.deeds).map (readFrame json)
        stray := (net.view json Z.other tid).stray + t.timers.count tid } := by
  have hall : (((framesSent t.deeds).map (readFrame json)).filter fun cmd => cmd.id? = some tid) =
      (framesSent t.deeds).map (readFrame json) := by
    rw [List.filter_eq_self]
    intro cmd hcmd
    obtain ⟨f, hf, rfl⟩ := List.mem_map.mp hcmd
    rw [hout f hf, decide_eq_true_eq]
  simp only [Net.view, Side.other_other, h.session, h.sessions (.inl Z.other_ne), h.messages,
    h.messages_other, hall, h.timers, h.timers_other, List.count_append]

end Reacts

section Base

variable {f : P2PFrame} {rest : List P2PFrame}

lemma messages_pop_self (hchan : net.chan Z = f :: rest)
    (hf : (readFrame json f).id? = some tid) :
    net.messages json Z tid = readFrame json f :: (net.pop Z rest).messages json Z tid := by
  simp [Net.messages, Net.pop, hchan, hf]

lemma messages_pop_of_ne (hchan : net.chan Z = f :: rest)
    (hf : (readFrame json f).id? = some tid) (Y : Side) {a : String} (ha : Y ≠ Z ∨ a ≠ tid) :
    (net.pop Z rest).messages json Y a = net.messages json Y a := by
  by_cases hY : Y = Z
  · subst hY
    have hne : tid ≠ a := (ha.resolve_left (by simp)).symm
    simp [Net.messages, Net.pop, hchan, hf, hne]
  · simp [Net.messages, Net.pop, hY]

/-- Taking a frame off shows only in the view of its own transfer. -/
lemma view_pop_of_ne (hchan : net.chan Z = f :: rest) (hf : (readFrame json f).id? = some tid)
    (X : Side) {a : String} (ha : a ≠ tid) : (net.pop Z rest).view json X a = net.view json X a := by
  rw [Net.view, Net.view, messages_pop_of_ne hchan hf _ (.inr ha),
    messages_pop_of_ne hchan hf _ (.inr ha)]
  rfl

lemma view_pop_receiver (hchan : net.chan Z = f :: rest) (hf : (readFrame json f).id? = some tid) :
    net.view json Z.other tid =
      { (net.pop Z rest).view json Z.other tid with
        toReceiver := readFrame json f :: ((net.pop Z rest).view json Z.other tid).toReceiver } := by
  simp only [Net.view, Side.other_other, messages_pop_self hchan hf,
    messages_pop_of_ne hchan hf _ (.inl Z.other_ne)]
  rfl

lemma view_pop_sender (hchan : net.chan Z = f :: rest) (hf : (readFrame json f).id? = some tid) :
    net.view json Z tid =
      { (net.pop Z rest).view json Z tid with
        toSender := readFrame json f :: ((net.pop Z rest).view json Z tid).toSender } := by
  simp only [Net.view, messages_pop_self hchan hf,
    messages_pop_of_ne hchan hf _ (.inl Z.other_ne)]
  rfl

/-- A timer that fires shows only in the view of its own transfer. -/
lemma view_fire_of_ne (X : Side) {a : String} (ha : a ≠ tid) :
    (net.fire Z tid).view json X a = net.view json X a := by
  have hcount : ∀ Y, ((net.fire Z tid).ctrl Y).timers.count a = (net.ctrl Y).timers.count a := by
    intro Y
    by_cases hY : Y = Z
    · subst hY
      simp [Net.fire, List.count_erase_of_ne ha]
    · simp [Net.fire, hY]
  simp only [Net.view, (base_fire net Z tid).sessions, hcount]
  rfl

lemma view_fire (h : tid ∈ (net.ctrl Z).timers) :
    net.view json Z tid =
      { (net.fire Z tid).view json Z tid with
        pending := ((net.fire Z tid).view json Z tid).pending + 1 } := by
  have hpos : 0 < (net.ctrl Z).timers.count tid := List.count_pos_iff.mpr h
  have hself : ((net.fire Z tid).ctrl Z).timers.count tid + 1 = (net.ctrl Z).timers.count tid := by
    simp only [Net.fire, Function.update_self, List.count_erase_self]
    omega
  have hother : (net.fire Z tid).ctrl Z.other = net.ctrl Z.other := by simp [Net.fire]
  simp only [Net.view, hself, (base_fire net Z tid).sessions, hother]
  rfl

end Base

/-! ### The events -/

section Events

variable {io : Io}

lemma put_unchanged : net.put Z (net.ctrl Z, []) = net := by
  simp [Net.put, framesSent]

lemma put_fire (r : FileTransferController × List Effect) :
    (net.fire Z tid).put Z r = net.put Z r := by
  simp [Net.put, Net.fire]

lemma step_deliver_nil {ip : String} (h : net.chan Z = []) :
    net.step json sha (.deliver Z ip, io) = (net, []) := by
  simp only [Net.step, h]

/-- A delivered frame is taken off the channel, and runs its command. -/
lemma step_deliver {ip : String} {f : P2PFrame} {rest : List P2PFrame}
    (h : net.chan Z = f :: rest) :
    net.step json sha (.deliver Z ip, io) =
      ((net.pop Z rest).put Z ((net.ctrl Z).runCommand json sha io (readFrame json f)), []) := by
  simp only [Net.step, h, ← onFrameReceivedFrom_eq json sha _ io f ip]
  rfl

lemma step_timeout_absent (h : tid ∉ (net.ctrl Z).timers) :
    net.step json sha (.timeout Z tid, io) = (net, []) := by
  simp only [Net.step, FileTransferController.timeout, if_neg h, put_unchanged]

/-- A timer that fires is taken off, and runs `sendNextChunk`. -/
lemma step_timeout (h : tid ∈ (net.ctrl Z).timers) :
    net.step json sha (.timeout Z tid, io) =
      ((net.fire Z tid).put Z (((net.fire Z tid).ctrl Z).onSession tid
        (Request.run json sha io ((net.fire Z tid).ctrl Z).m_socket tid .sendNextChunk)), []) := by
  simp only [Net.step, FileTransferController.timeout, if_pos h, put_fire]
  simp only [Net.fire, Function.update_self]
  rfl

lemma step_acceptTransfer_none {dir : String} (h : (net.ctrl Z).m_sessions.value? tid = none) :
    net.step json sha (.acceptTransfer Z tid dir, io) = (net, []) := by
  simp only [Net.step, FileTransferController.acceptTransfer, withSession, h, put_unchanged]
  rfl

lemma step_acceptTransfer {dir : String} {s : FileTransferSession}
    (h : (net.ctrl Z).m_sessions.value? tid = some s) :
    net.step json sha (.acceptTransfer Z tid dir, io) =
      (net.put Z ((net.ctrl Z).onSession tid
          (Request.run json sha io (net.ctrl Z).m_socket tid (.acceptTransfer dir))),
        if (Turn.acceptTransfer json io (net.ctrl Z).m_socket tid dir
          { session := s, files := (net.ctrl Z).files }).2 then [.accepted Z tid] else []) := by
  simp only [Net.step, FileTransferController.acceptTransfer, onSession, withSession, h]
  rfl

end Events

end Reactions

end MeckChat.Protocol
