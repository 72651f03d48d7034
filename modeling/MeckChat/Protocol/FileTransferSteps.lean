import MeckChat.Protocol.FileTransferController

/-!
What one step of the file transfer controller can be.

Every event comes down to one `Command`, and all but two of the commands are a
`Request` on the session of an id.

* `Request.run` gathers the handlers behind one look-up; `Event.command` reads
  the command out of an event, parsing the payload of a frame.
* `readFrame_fileOffer`, `readFrame_fileAccept`, `readFrame_fileChunk` and
  `readFrame_fileComplete` are what the other side reads of the frames of a
  transfer.
* `step_eq_run`: a step runs the command of its event.
* `step_induction` is the case distinction of a step as a rule for invariants
  of state and log.
* `onSession_none`, `onSession_some` and `value?_onSession_of_ne` are all that a
  request does to the controller.
* `Request.run_terms`: what no handler changes in a session.
* `deedsOf` reads the history of one session object out of a log, and
  `Numbered` says that the objects of a run are told apart.
-/

namespace MeckChat.Protocol

open Qt QJson

variable (json : JsonCodec) (sha : Sha256)

/-! ### Requests and commands -/

/-- What an event asks of one session: three local calls, five kinds of
frames, a timer, and the loss of the connection. -/
inductive Request where
  | acceptTransfer (destinationDir : String)
  | rejectTransfer (reason : String)
  | cancelTransfer (reason : String)
  | fileAccept
  | fileReject (reason : String)
  | fileChunk (chunkIndex : UInt32) (chunkData : Bytes)
  | fileComplete
  | fileCancel (reason : String)
  | sendNextChunk
  | disconnected
  deriving DecidableEq, Repr

/-- The handler of a request. -/
def Request.run (io : Io) (m_socket : Bool) (tid : String) : Request → Turn → Turn
  | .acceptTransfer dir, t => (t.acceptTransfer json io m_socket tid dir).1
  | .rejectTransfer reason, t => t.rejectTransfer json io m_socket tid reason
  | .cancelTransfer reason, t => t.cancelTransfer json io m_socket tid reason
  | .fileAccept, t => t.handleInboundFileAccept json io m_socket tid
  | .fileReject reason, t => t.handleInboundFileReject io tid reason
  | .fileChunk index data, t => t.handleInboundFileChunk io tid index data
  | .fileComplete, t => t.handleInboundFileComplete sha io tid
  | .fileCancel reason, t => t.handleInboundFileCancel io tid reason
  | .sendNextChunk, t => t.sendNextChunk json io m_socket tid
  | .disconnected, t => t.onSocketDisconnected io tid

/-- What an event comes down to. -/
inductive Command where
  | sendFile (filePath peerVirtualIp : String)
  | offer (offer : FileOffer)
  | request (transferId : String) (request : Request)
  | timeout (transferId : String)
  | disconnect
  | nothing
  deriving DecidableEq, Repr

/-- The command in a frame. -/
def readFrame (frame : P2PFrame) : Command :=
  let object := JsonDocument.toObject (json.fromJson frame.payload)
  if frame.type = .FileOffer then
    match json.fromJson frame.payload with
    | some (.object o) => ((FileOffer.fromJson o).map .offer).getD .nothing
    | _ => .nothing
  else if frame.type = .FileAccept then
    ((FileAccept.fromJson object).map fun m => .request m.transferId .fileAccept).getD .nothing
  else if frame.type = .FileReject then
    ((FileReject.fromJson object).map fun m =>
      .request m.transferId (.fileReject m.reason)).getD .nothing
  else if frame.type = .FileChunk then
    ((FileChunk.decodePacket frame.payload).map fun m =>
      .request m.transferId (.fileChunk m.chunkIndex m.chunkData)).getD .nothing
  else if frame.type = .FileComplete then
    ((FileComplete.fromJson object).map fun m =>
      .request m.transferId .fileComplete).getD .nothing
  else if frame.type = .FileCancel then
    ((FileCancel.fromJson object).map fun m =>
      .request m.transferId (.fileCancel m.reason)).getD .nothing
  else .nothing

section Frames

lemma readFrame_fileOffer {m : FileOffer} (hid : m.transferId ≠ "") (hsize : 0 ≤ m.fileSize)
    (hsha : m.sha256 ≠ "") (hchunk : 0 < m.chunkSize ∧ m.chunkSize < 2 ^ 31)
    (htotal : -2 ^ 31 ≤ m.totalChunks ∧ m.totalChunks < 2 ^ 31) :
    readFrame json (jsonFrame json .FileOffer m.toJson) =
      .offer { m with fileName := sanitizeFileName (sanitizeFileName m.fileName) } := by
  simp [readFrame, jsonFrame, FileOffer.fromJson_toJson hid hsize hsha hchunk htotal]

lemma readFrame_fileAccept {m : FileAccept} (hid : m.transferId ≠ "") :
    readFrame json (jsonFrame json .FileAccept m.toJson) = .request m.transferId .fileAccept := by
  simp [readFrame, jsonFrame, FileAccept.fromJson_toJson hid, JsonDocument.toObject,
    FrameType.FileAccept, FrameType.FileOffer]

lemma readFrame_fileChunk {tid : String} (h : IsChunkId tid) (index : UInt32) (data : Bytes)
    (hdata : data.length < 2 ^ 31 - 24) :
    readFrame json ⟨.FileChunk, FileChunk.encode tid index data⟩ =
      .request tid (.fileChunk index data) := by
  simp [readFrame, FileChunk.decodePacket_encode h index hdata, FrameType.FileAccept,
    FrameType.FileOffer, FrameType.FileReject, FrameType.FileChunk]

lemma readFrame_fileComplete {m : FileComplete} (hid : m.transferId ≠ "") (hsha : m.sha256 ≠ "") :
    readFrame json (jsonFrame json .FileComplete m.toJson) = .request m.transferId .fileComplete := by
  simp [readFrame, jsonFrame, FileComplete.fromJson_toJson hid hsha, JsonDocument.toObject,
    FrameType.FileAccept, FrameType.FileOffer, FrameType.FileReject, FrameType.FileChunk,
    FrameType.FileComplete]

lemma fromJson_of_readFrame {frame : P2PFrame} {offer : FileOffer}
    (h : readFrame json frame = .offer offer) : ∃ o, FileOffer.fromJson o = some offer := by
  rw [readFrame] at h
  split_ifs at h
  · split at h
    · next o _ =>
        cases hoffer : FileOffer.fromJson o with
        | none => simp [hoffer] at h
        | some offer' =>
            simp only [hoffer, Option.map_some, Option.getD_some, Command.offer.injEq] at h
            exact ⟨o, h ▸ hoffer⟩
    · cases h
  all_goals
    simp only [Option.getD_eq_iff, Option.map_eq_some_iff, reduceCtorEq, and_false, exists_false,
      or_false] at h

/-- No frame makes the controller accept a transfer. -/
lemma readFrame_ne_acceptTransfer (frame : P2PFrame) (tid dir : String) :
    readFrame json frame ≠ .request tid (.acceptTransfer dir) := by
  intro h
  unfold readFrame at h
  dsimp only at h
  split_ifs at h
  · split at h
    · next o _ => cases ho : FileOffer.fromJson o <;> simp [ho] at h
    · cases h
  all_goals
    rw [Option.getD_eq_iff] at h
    simp at h

/-- A frame is an offer, a request or nothing. -/
lemma readFrame_cases (f : P2PFrame) :
    readFrame json f = .nothing ∨ (∃ m, readFrame json f = .offer m) ∨
      ∃ tid request, readFrame json f = .request tid request := by
  simp only [readFrame]
  split_ifs
  · split
    · next o _ => cases FileOffer.fromJson o <;> simp
    · simp
  · cases FileAccept.fromJson (JsonDocument.toObject (json.fromJson f.payload)) <;> simp
  · cases FileReject.fromJson (JsonDocument.toObject (json.fromJson f.payload)) <;> simp
  · cases FileChunk.decodePacket f.payload <;> simp
  · cases FileComplete.fromJson (JsonDocument.toObject (json.fromJson f.payload)) <;> simp
  · cases FileCancel.fromJson (JsonDocument.toObject (json.fromJson f.payload)) <;> simp
  · simp

end Frames

namespace FileTransferController

/-- The command in an event. -/
def Event.command : Event → Command
  | .sendFile filePath peerVirtualIp => .sendFile filePath peerVirtualIp
  | .acceptTransfer tid dir => .request tid (.acceptTransfer dir)
  | .rejectTransfer tid reason => .request tid (.rejectTransfer reason)
  | .cancelTransfer tid reason => .request tid (.cancelTransfer reason)
  | .frameReceivedFrom frame _ => readFrame json frame
  | .peerDisconnected _ => .disconnect
  | .disconnected => .disconnect
  | .timeout tid => .timeout tid

/-- An offer that arrives has passed the checks. -/
lemma fromJson_of_command {e : Event} {offer : FileOffer} (h : e.command json = .offer offer) :
    ∃ o, FileOffer.fromJson o = some offer := by
  cases e with
  | frameReceivedFrom frame ip => exact fromJson_of_readFrame json h
  | _ => cases h

/-- Only the call itself accepts. -/
lemma acceptTransfer_of_command {e : Event} {tid dir : String}
    (h : e.command json = .request tid (.acceptTransfer dir)) : e = .acceptTransfer tid dir := by
  cases e with
  | acceptTransfer tid' dir' =>
      rw [Event.command, Command.request.injEq, Request.acceptTransfer.injEq] at h
      rw [h.1, h.2]
  | frameReceivedFrom frame ip => exact absurd h (readFrame_ne_acceptTransfer json frame tid dir)
  | _ => cases h

/-- A request on the session of an id. -/
def onRequest (c : FileTransferController) (io : Io) (tid : String) (r : Request) :
    FileTransferController × List Effect :=
  c.onSession tid (r.run json sha io c.m_socket tid)

/-- The effect of a command. -/
def runCommand (c : FileTransferController) (io : Io) :
    Command → FileTransferController × List Effect
  | .sendFile filePath peerVirtualIp =>
      ((c.sendFile json sha io filePath peerVirtualIp).1,
        (c.sendFile json sha io filePath peerVirtualIp).2.1)
  | .offer offer => c.registerOffer offer
  | .request tid r => c.onRequest json sha io tid r
  | .timeout tid =>
      if tid ∈ c.timers then
        onRequest json sha { c with timers := c.timers.erase tid } io tid .sendNextChunk
      else (c, [])
  | .disconnect => c.onSocketDisconnected io
  | .nothing => (c, [])

lemma onFrameReceivedFrom_eq (c : FileTransferController) (io : Io) (frame : P2PFrame)
    (ip : String) :
    c.onFrameReceivedFrom json sha io frame ip =
      c.runCommand json sha io (readFrame json frame) := by
  unfold onFrameReceivedFrom readFrame
  dsimp only
  split_ifs
  · rw [handleInboundFileOffer]
    cases json.fromJson frame.payload with
    | none => rfl
    | some doc =>
        cases doc with
        | array => rfl
        | object o =>
            dsimp only
            cases FileOffer.fromJson o <;> rfl
  · rw [handleInboundFileAccept]
    cases FileAccept.fromJson (JsonDocument.toObject (json.fromJson frame.payload)) <;> rfl
  · rw [handleInboundFileReject]
    cases FileReject.fromJson (JsonDocument.toObject (json.fromJson frame.payload)) <;> rfl
  · rw [handleInboundFileChunk]
    cases FileChunk.decodePacket frame.payload <;> rfl
  · rw [handleInboundFileComplete]
    cases FileComplete.fromJson (JsonDocument.toObject (json.fromJson frame.payload)) <;> rfl
  · rw [handleInboundFileCancel]
    cases FileCancel.fromJson (JsonDocument.toObject (json.fromJson frame.payload)) <;> rfl
  · rfl

lemma withSession_fst {α : Type} (c : FileTransferController) (tid : String) (absent : α)
    (f : Turn → Turn × α) :
    ((c.withSession tid absent f).1, (c.withSession tid absent f).2.1) =
      c.onSession tid fun t => (f t).1 := by
  rw [onSession, withSession, withSession]
  cases c.m_sessions.value? tid <;> rfl

/-- **One step.** A step runs the command of its event. -/
theorem step_eq_run (c : FileTransferController) (e : Event) (io : Io) :
    c.step json sha e io = c.runCommand json sha io (e.command json) := by
  cases e with
  | sendFile filePath ip => rfl
  | acceptTransfer tid dir => exact withSession_fst c tid _ _
  | rejectTransfer tid reason => exact withSession_fst c tid _ _
  | cancelTransfer tid reason => exact withSession_fst c tid _ _
  | frameReceivedFrom frame ip => exact onFrameReceivedFrom_eq json sha c io frame ip
  | peerDisconnected ip => rfl
  | disconnected => rfl
  | timeout tid => rfl

/-! ### Requests on the controller -/

section Sessions

variable {json sha}
variable {c : FileTransferController} {tid tid' : String} {s : FileTransferSession}
  {f : Turn → Turn}

lemma onSession_none (h : c.m_sessions.value? tid = none) : c.onSession tid f = (c, []) := by
  simp only [onSession, withSession, h]

lemma onSession_some (h : c.m_sessions.value? tid = some s) :
    c.onSession tid f =
      ({ c with
          m_sessions := c.m_sessions.insert tid (f { session := s, files := c.files }).session
          files := (f { session := s, files := c.files }).files
          timers := c.timers ++ (f { session := s, files := c.files }).timers },
        (f { session := s, files := c.files }).deeds.map (Effect.mk s.objectId)) := by
  simp only [onSession, withSession, h]

/-- A request leaves the other sessions alone. -/
lemma value?_onSession_of_ne (hne : tid' ≠ tid) :
    (c.onSession tid f).1.m_sessions.value? tid' = c.m_sessions.value? tid' := by
  cases h : c.m_sessions.value? tid with
  | none => rw [onSession_none h]
  | some s =>
      rw [onSession_some h]
      exact QMap.value?_insert_of_ne _ hne.symm _

lemma value?_onSession_self (h : c.m_sessions.value? tid = some s) :
    (c.onSession tid f).1.m_sessions.value? tid =
      some (f { session := s, files := c.files }).session := by
  rw [onSession_some h]
  exact QMap.value?_insert_self _ _ _

/-- The effects of a request are the deeds of its handler. -/
lemma mem_onSession {x : Effect} (h : x ∈ (c.onSession tid f).2) :
    ∃ s, c.m_sessions.value? tid = some s ∧ x.objectId = s.objectId ∧
      x.deed ∈ (f { session := s, files := c.files }).deeds := by
  cases hs : c.m_sessions.value? tid with
  | none =>
      rw [onSession_none hs] at h
      simp at h
  | some s =>
      rw [onSession_some hs, List.mem_map] at h
      obtain ⟨d, hd, rfl⟩ := h
      exact ⟨s, rfl, rfl, hd⟩

@[simp] lemma m_socket_onSession : (c.onSession tid f).1.m_socket = c.m_socket := by
  cases h : c.m_sessions.value? tid with
  | none => rw [onSession_none h]
  | some s => rw [onSession_some h]

@[simp] lemma nextObject_onSession : (c.onSession tid f).1.nextObject = c.nextObject := by
  cases h : c.m_sessions.value? tid with
  | none => rw [onSession_none h]
  | some s => rw [onSession_some h]

/-- The induction rule for the loop over all sessions when the connection is
lost. -/
lemma disconnectAll_induction {I : FileTransferController → List Effect → Prop} (io : Io)
    (hstep : ∀ c log tid, I c log →
      I (c.onSession tid (·.onSocketDisconnected io tid)).1
        (log ++ (c.onSession tid (·.onSocketDisconnected io tid)).2))
    (tids : List String) {c : FileTransferController} (log : List Effect) (h : I c log) :
    I (disconnectAll io tids c).1 (log ++ (disconnectAll io tids c).2) := by
  induction tids generalizing c log with
  | nil => simpa [disconnectAll] using h
  | cons tid tids ih =>
      have h' := ih _ (hstep c log tid h)
      rw [List.append_assoc] at h'
      exact h'

/-- Put a new session into the map, which a step does for an outgoing file and
for an inbound offer. -/
def register (c : FileTransferController) (s : FileTransferSession) (deeds : List Deed) :
    FileTransferController × List Effect :=
  ({ c with
      m_sessions := c.m_sessions.insert s.transferId s
      nextObject := c.nextObject + 1 }, deeds.map (Effect.mk c.nextObject))

/-- The sessions that a command makes, and what else it does. -/
inductive Registers (json : JsonCodec) (sha : Sha256) (c : FileTransferController) (io : Io) :
    Command → FileTransferSession → List Deed → Prop where
  | outgoing {filePath peerVirtualIp : String} {content : Bytes}
      (hfile : c.files.contentAt filePath = some content) :
      Registers json sha c io (.sendFile filePath peerVirtualIp)
        (outgoingSession c.nextObject (generateTransferId io.uuid) filePath (sha.hex content)
          content.length)
        (offerDeeds json io c.m_socket peerVirtualIp
          (outgoingSession c.nextObject (generateTransferId io.uuid) filePath (sha.hex content)
            content.length))
  | incoming (offer : FileOffer) :
      Registers json sha c io (.offer offer) (incomingSession c.nextObject offer)
        [.signal (.fileOfferReceived offer)]

lemma Registers.objectId_eq {io : Io} {cmd : Command} {deeds : List Deed}
    (h : Registers json sha c io cmd s deeds) : s.objectId = c.nextObject := by
  cases h <;> rfl

lemma Registers.state_eq {io : Io} {cmd : Command} {deeds : List Deed}
    (h : Registers json sha c io cmd s deeds) : s.state = .Offering := by
  cases h <;> rfl

variable (json sha) in
/-- `sendFile` does nothing, or draws an id and registers a session under it. -/
lemma sendFile_eq (c : FileTransferController) (io : Io) (filePath peerVirtualIp : String) :
    c.sendFile json sha io filePath peerVirtualIp = (c, [], "") ∨
      ∃ content, c.files.contentAt filePath = some content ∧
        c.sendFile json sha io filePath peerVirtualIp =
          let s := outgoingSession c.nextObject (generateTransferId io.uuid) filePath
            (sha.hex content) content.length
          let deeds := offerDeeds json io c.m_socket peerVirtualIp s
          ((c.register s deeds).1, (c.register s deeds).2, generateTransferId io.uuid) := by
  unfold sendFile
  cases hfile : c.files.contentAt filePath with
  | none => exact .inl rfl
  | some content =>
      by_cases hread : io.fileReadable = true
      · by_cases hsha : calculateFileSha256 sha io content = ""
        · left
          simp only [hread, hsha, not_true, if_false, if_true]
        · right
          have hhex : calculateFileSha256 sha io content = sha.hex content := by
            unfold calculateFileSha256 at hsha ⊢
            split_ifs at hsha ⊢
            · rfl
            · exact absurd rfl hsha
          rw [hhex] at hsha
          refine ⟨content, rfl, ?_⟩
          simp only [hread, hhex, hsha, not_true, if_false]
          rfl
      · left
        dsimp only
        rw [if_pos hread]

variable (json sha) in
/-- `sendFile` registers a session or does nothing. -/
lemma sendFile_cases (c : FileTransferController) (io : Io) (filePath peerVirtualIp : String) :
    ((c.sendFile json sha io filePath peerVirtualIp).1,
        (c.sendFile json sha io filePath peerVirtualIp).2.1) = (c, []) ∨
      ∃ s deeds, Registers json sha c io (.sendFile filePath peerVirtualIp) s deeds ∧
        ((c.sendFile json sha io filePath peerVirtualIp).1,
          (c.sendFile json sha io filePath peerVirtualIp).2.1) = c.register s deeds := by
  rcases sendFile_eq json sha c io filePath peerVirtualIp with
    hnone | ⟨content, hfile, hsome⟩
  · left
    rw [hnone]
  · right
    rw [hsome]
    exact ⟨_, _, .outgoing hfile, rfl⟩

/-- **Induction over one step.** What registering a session, a request, the
erasure of a timer and a lost connection keep is kept by every step. -/
theorem step_induction {I : FileTransferController → List Effect → Prop}
    {c : FileTransferController} (log : List Effect) {e : Event} {io : Io} (h : I c log)
    (hregister : ∀ s deeds, Registers json sha c io (e.command json) s deeds →
      I (c.register s deeds).1 (log ++ (c.register s deeds).2))
    (hrequest : ∀ tid s r, e.command json = .request tid r → c.m_sessions.value? tid = some s →
      I (c.onRequest json sha io tid r).1 (log ++ (c.onRequest json sha io tid r).2))
    (htimeout : ∀ tid, e.command json = .timeout tid → tid ∈ c.timers →
      I (onRequest json sha { c with timers := c.timers.erase tid } io tid .sendNextChunk).1
        (log ++ (onRequest json sha { c with timers := c.timers.erase tid } io tid
          .sendNextChunk).2))
    (hdisconnected : e.command json = .disconnect → ∀ c log tid, I c log →
      I (c.onRequest json sha io tid .disconnected).1
        (log ++ (c.onRequest json sha io tid .disconnected).2)) :
    I (c.step json sha e io).1 (log ++ (c.step json sha e io).2) := by
  rw [step_eq_run]
  cases hcmd : e.command json with
  | sendFile filePath ip =>
      rw [runCommand]
      rcases sendFile_cases json sha c io filePath ip with hnone | ⟨s, deeds, hr, heq⟩
      · rw [hnone]
        simpa using h
      · rw [heq]
        exact hregister s deeds (by rw [hcmd]; exact hr)
  | offer offer => exact hregister _ _ (by rw [hcmd]; exact .incoming offer)
  | request tid r =>
      rw [runCommand]
      cases hs : c.m_sessions.value? tid with
      | none =>
          rw [onRequest, onSession_none hs]
          simpa using h
      | some s => exact hrequest tid s r hcmd hs
  | timeout tid =>
      rw [runCommand]
      split_ifs with hmem
      · exact htimeout tid hcmd hmem
      · simpa using h
  | disconnect =>
      exact disconnectAll_induction io (hdisconnected hcmd) _ _ h
  | nothing =>
      rw [runCommand]
      simpa using h

end Sessions

end FileTransferController

/-! ### What no handler changes -/

/-- What of a session is fixed when it is created. -/
structure Terms where
  objectId : ℕ
  transferId : String
  fileName : String
  fileSize : ℤ
  expectedSha256 : String
  chunkSize : ℤ
  direction : TransferDirection
  sourceFilePath : String
  deriving DecidableEq, Repr

/-- The fixed part of a session. -/
def FileTransferSession.terms (s : FileTransferSession) : Terms where
  objectId := s.objectId
  transferId := s.transferId
  fileName := s.fileName
  fileSize := s.fileSize
  expectedSha256 := s.expectedSha256
  chunkSize := s.chunkSize
  direction := s.direction
  sourceFilePath := s.sourceFilePath

section Unchanged

variable {json sha}

lemma Turn.terms_writeData (io : Io) (t : Turn) (data : Bytes) :
    (t.writeData io data).session.terms = t.session.terms := by
  unfold Turn.writeData
  split
  · split_ifs <;> rfl
  · rfl

variable (json) in
lemma Turn.terms_sendNextChunk (io : Io) (b : Bool) (tid : String) (t : Turn) :
    (t.sendNextChunk json io b tid).session.terms = t.session.terms := by
  unfold Turn.sendNextChunk Turn.sendComplete Turn.sendChunk
  split_ifs <;> simp [FileTransferSession.terms]

lemma Turn.terms_startReceiving (io : Io) (b : Bool) (tid : String) (t : Turn) :
    (t.startReceiving json io b tid).session.terms = t.session.terms := by
  simp only [Turn.startReceiving, Turn.completeEmpty]
  split_ifs <;> simp [FileTransferSession.terms]

variable (json sha) in
/-- No handler changes what is fixed of a session. -/
theorem Request.run_terms (io : Io) (b : Bool) (tid : String) (r : Request) (t : Turn) :
    (r.run json sha io b tid t).session.terms = t.session.terms := by
  cases r with
  | acceptTransfer dir =>
      simp only [Request.run, Turn.acceptTransfer]
      split_ifs
      · rfl
      · rw [Turn.terms_startReceiving]
        simp [FileTransferSession.terms]
      · simp [FileTransferSession.terms]
  | rejectTransfer reason => simp [Request.run, Turn.rejectTransfer, FileTransferSession.terms]
  | cancelTransfer reason => simp [Request.run, Turn.cancelTransfer, FileTransferSession.terms]
  | fileAccept =>
      simp only [Request.run, Turn.handleInboundFileAccept]
      split_ifs
      · rfl
      · rw [Turn.terms_sendNextChunk]
        simp [FileTransferSession.terms]
      · simp [FileTransferSession.terms]
  | fileReject reason =>
      simp [Request.run, Turn.handleInboundFileReject, FileTransferSession.terms]
  | fileChunk index data =>
      have hwrite := Turn.terms_writeData io t data
      simp only [Request.run, Turn.handleInboundFileChunk]
      split_ifs
      · rfl
      · simp [FileTransferSession.terms]
      · simpa [FileTransferSession.terms] using hwrite
  | fileComplete =>
      simp only [Request.run, Turn.handleInboundFileComplete, Turn.moveToFinal]
      split_ifs <;> simp [FileTransferSession.terms]
  | fileCancel reason =>
      simp [Request.run, Turn.handleInboundFileCancel, FileTransferSession.terms]
  | sendNextChunk => exact Turn.terms_sendNextChunk json io b tid t
  | disconnected =>
      simp only [Request.run, Turn.onSocketDisconnected]
      split_ifs <;> simp [FileTransferSession.terms]

end Unchanged

/-! ### Histories of session objects -/

/-- The deeds done for one session object. -/
def deedsOf (i : ℕ) (log : List Effect) : List Deed :=
  log.filterMap fun e => if e.objectId = i then some e.deed else none

@[simp] lemma deedsOf_nil (i : ℕ) : deedsOf i [] = [] := rfl

@[simp] lemma deedsOf_append (i : ℕ) (log log' : List Effect) :
    deedsOf i (log ++ log') = deedsOf i log ++ deedsOf i log' := by
  simp [deedsOf]

lemma deedsOf_map_self (i : ℕ) (deeds : List Deed) :
    deedsOf i (deeds.map (Effect.mk i)) = deeds := by
  simp [deedsOf, List.filterMap_map]

lemma deedsOf_map_of_ne {i j : ℕ} (h : j ≠ i) (deeds : List Deed) :
    deedsOf i (deeds.map (Effect.mk j)) = [] := by
  simp [deedsOf, List.filterMap_map, h]

lemma deedsOf_onSession_self {c : FileTransferController} {tid : String} {s : FileTransferSession}
    {f : Turn → Turn} (h : c.m_sessions.value? tid = some s) :
    deedsOf s.objectId (c.onSession tid f).2 = (f { session := s, files := c.files }).deeds := by
  rw [FileTransferController.onSession_some h]
  exact deedsOf_map_self _ _

lemma deedsOf_onSession_of_ne {c : FileTransferController} {tid : String} {s : FileTransferSession}
    {f : Turn → Turn} {i : ℕ} (h : c.m_sessions.value? tid = some s) (hne : s.objectId ≠ i) :
    deedsOf i (c.onSession tid f).2 = [] := by
  rw [FileTransferController.onSession_some h]
  exact deedsOf_map_of_ne hne _

/-! ### The numbering of session objects -/

/-- Object numbers are given out in order and each belongs to one id; a session
is registered under its own id. -/
structure Numbered (c : FileTransferController) (log : List Effect) : Prop where
  key {tid s} : c.m_sessions.value? tid = some s → s.transferId = tid
  lt {tid s} : c.m_sessions.value? tid = some s → s.objectId < c.nextObject
  inj {tid tid' s s'} : c.m_sessions.value? tid = some s → c.m_sessions.value? tid' = some s' →
    s.objectId = s'.objectId → tid = tid'
  fresh {i} : c.nextObject ≤ i → deedsOf i log = []

namespace Numbered

open FileTransferController

variable {json sha}
variable {c : FileTransferController} {log : List Effect}

lemma init (m_socket : Bool) (files : FileSystem) :
    Numbered (FileTransferController.init m_socket files) [] where
  key h := by simp [FileTransferController.init] at h
  lt h := by simp [FileTransferController.init] at h
  inj h := by simp [FileTransferController.init] at h
  fresh _ := rfl

lemma register (h : Numbered c log) {s : FileTransferSession} (deeds : List Deed)
    (hs : s.objectId = c.nextObject) :
    Numbered (c.register s deeds).1 (log ++ (c.register s deeds).2) where
  key {tid r} hr := by
    simp only [FileTransferController.register, QMap.value?_insert] at hr
    split_ifs at hr with htid
    · rw [Option.some.injEq] at hr
      rw [← hr, htid]
    · exact h.key hr
  lt {tid r} hr := by
    simp only [FileTransferController.register, QMap.value?_insert] at hr ⊢
    split_ifs at hr with htid
    · rw [Option.some.injEq] at hr
      rw [← hr, hs]
      omega
    · have hlt := h.lt hr
      omega
  inj {tid tid' r r'} hr hr' heq := by
    simp only [FileTransferController.register, QMap.value?_insert] at hr hr'
    split_ifs at hr hr' with htid htid' htid'
    · rw [← htid, ← htid']
    · have hlt := h.lt hr'
      rw [Option.some.injEq] at hr
      rw [← heq, ← hr, hs] at hlt
      omega
    · have hlt := h.lt hr
      rw [Option.some.injEq] at hr'
      rw [heq, ← hr', hs] at hlt
      omega
    · exact h.inj hr hr' heq
  fresh {i} hi := by
    simp only [FileTransferController.register] at hi ⊢
    rw [deedsOf_append, h.fresh (by omega), deedsOf_map_of_ne (by omega)]
    rfl

variable (json sha) in
lemma onRequest (h : Numbered c log) (io : Io) (tid : String) (r : Request) :
    Numbered (c.onRequest json sha io tid r).1 (log ++ (c.onRequest json sha io tid r).2) := by
  unfold FileTransferController.onRequest
  cases hs : c.m_sessions.value? tid with
  | none =>
      rw [onSession_none hs]
      simpa using h
  | some s =>
      have hterms := r.run_terms json sha io c.m_socket tid
        { session := s, files := c.files }
      -- the session of an id after the step, with the terms it had before
      have hback : ∀ {tid' s'},
          (c.onSession tid (r.run json sha io c.m_socket tid)).1.m_sessions.value?
          tid' = some s' → ∃ s₀, c.m_sessions.value? tid' = some s₀ ∧ s'.terms = s₀.terms := by
        intro tid' s' hs'
        by_cases htid : tid' = tid
        · subst htid
          rw [value?_onSession_self hs, Option.some.injEq] at hs'
          exact ⟨s, hs, hs' ▸ hterms⟩
        · rw [value?_onSession_of_ne htid] at hs'
          exact ⟨s', hs', rfl⟩
      refine ⟨?_, ?_, ?_, ?_⟩
      · intro tid' s' hs'
        obtain ⟨s₀, hs₀, ht⟩ := hback hs'
        rw [← h.key hs₀]
        exact congrArg Terms.transferId ht
      · intro tid' s' hs'
        obtain ⟨s₀, hs₀, ht⟩ := hback hs'
        have hid : s'.objectId = s₀.objectId := congrArg Terms.objectId ht
        rw [nextObject_onSession, hid]
        exact h.lt hs₀
      · intro tid' tid'' s' s'' hs' hs'' heq
        obtain ⟨s₀, hs₀, ht⟩ := hback hs'
        obtain ⟨s₁, hs₁, ht'⟩ := hback hs''
        exact h.inj hs₀ hs₁ ((congrArg Terms.objectId ht).symm.trans
          (heq.trans (congrArg Terms.objectId ht')))
      · intro i hi
        rw [nextObject_onSession] at hi
        have hlt := h.lt hs
        rw [deedsOf_append, h.fresh hi, deedsOf_onSession_of_ne hs (by omega)]
        rfl

/-- The numbering is kept by every step. -/
theorem step (h : Numbered c log) (e : Event) (io : Io) :
    Numbered (c.step json sha e io).1 (log ++ (c.step json sha e io).2) := by
  apply step_induction (I := Numbered) _ h
  · intro s deeds hr
    exact h.register deeds hr.objectId_eq
  · intro tid s r _ _
    exact h.onRequest json sha io tid r
  · intro tid _ _
    exact onRequest json sha (c := { c with timers := c.timers.erase tid })
      ⟨h.key, h.lt, h.inj, h.fresh⟩ io tid _
  · intro _ c log tid h
    exact h.onRequest json sha io tid _

end Numbered

end MeckChat.Protocol
