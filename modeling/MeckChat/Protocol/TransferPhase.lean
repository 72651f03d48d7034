import MeckChat.Protocol.TransferNetwork

/-!
One transfer over a lossless link.

* `Phase` is the course of one transfer as the network shows it, from the offer
  on its way to both sides being done. It relates what the sender has read, what
  is in flight, and what the receiver has written.
* `Phase.of_toReceiver`, `Phase.of_toSender`, `Phase.of_pending` and
  `Phase.of_offering` say what can come next in a phase; `Taking.accept`,
  `Phase.fileAccept`, `Phase.send`, `Taking.chunk` and `Taking.complete` are the
  handlers that run then.
* `Tame` bounds what such a handler does to the rest of the network, and
  `Phase.frame` says that this keeps the other transfers in their phases.
* `Phase.done_of_quiet` and `Phase.waiting_of_quiet` are the ends.
-/

namespace MeckChat.Protocol

open Qt QJson FileTransferController

variable (json : JsonCodec) (sha : Sha256)

/-- Every call on files succeeds, and a read yields something. -/
structure Reliable (io : Io) : Prop where
  openOk : io.openOk = true
  writeLimit : io.writeLimit = none
  readLimit : 0 < io.readLimit
  removeOk (path : String) : io.removeOk path = true
  renameOk : io.renameOk = true

/-! ### The two ends of a transfer -/

/-- What is fixed of the sender's session. -/
structure IsSender (tid path : String) (content : Bytes) (s : FileTransferSession) : Prop where
  transferId : s.transferId = tid
  direction : s.direction = .Outgoing
  fileSize : s.fileSize = content.length
  expectedSha256 : s.expectedSha256 = sha.hex content
  chunkSize : s.chunkSize = DEFAULT_FILE_CHUNK_SIZE
  sourceFilePath : s.sourceFilePath = path

/-- What is fixed of the receiver's session. -/
structure IsReceiver (content : Bytes) (r : FileTransferSession) : Prop where
  direction : r.direction = .Incoming
  fileSize : r.fileSize = content.length
  expectedSha256 : r.expectedSha256 = sha.hex content

/-- The sender has read `p` bytes of its source file. -/
structure Reading (fs : FileSystem) (path : String) (content : Bytes) (p : ℕ)
    (s : FileTransferSession) : Prop where
  state : s.state = .Transferring
  handle : ∃ i, fs.dir path = some i ∧ s.fileHandle = some ⟨i, .ReadOnly, p, true⟩
  source : fs.contentAt path = some content
  transferredBytes : s.transferredBytes = p
  le : p ≤ content.length

/-- The receiver has accepted, and taken the bytes `got`: it is writing them, or
was done at once because there is nothing to come. -/
inductive Taking (fs : FileSystem) (content got : Bytes) (r : FileTransferSession) : Prop where
  | live {h : QFile} (state : r.state = .Transferring) (more : content ≠ [])
      (receiving : Receiving fs r h) (hash : r.cryptoHash = got)
      (dir : fs.dir r.tempFilePath = some h.inode) (ne : r.tempFilePath ≠ r.finalFilePath)
  | empty (state : r.state = .Completed) (nothing : content = []) (got_eq : got = [])
      (final : fs.contentAt r.finalFilePath = some [])

/-- Chunks in flight, numbered from `k` on. -/
def chunks (tid : String) : UInt32 → List Bytes → List Command
  | _, [] => []
  | k, d :: ds => .request tid (.fileChunk k d) :: chunks tid (k + 1) ds

lemma chunks_snoc (tid : String) (k : UInt32) (ds : List Bytes) (d : Bytes) :
    chunks tid k (ds ++ [d]) =
      chunks tid k ds ++ [.request tid (.fileChunk (k + UInt32.ofNat ds.length) d)] := by
  induction ds generalizing k with
  | nil => simp [chunks]
  | cons e ds ih =>
      have hindex : k + 1 + UInt32.ofNat ds.length = k + UInt32.ofNat (ds.length + 1) := by
        rw [UInt32.ofNat_add, UInt32.add_comm (UInt32.ofNat ds.length), ← UInt32.add_assoc]
        rfl
      rw [List.cons_append, chunks, ih, chunks, List.cons_append, hindex, List.length_cons]

/-- **The course of a transfer.** -/
inductive Phase (tid path : String) (content : Bytes) (fsX fsY : FileSystem) : View → Prop where
  | offered {i : ℕ} {o : FileOffer} (source : fsX.contentAt path = some content)
      (hid : o.transferId = tid) (hr : ∀ j, IsReceiver sha content (incomingSession j o)) :
      Phase tid path content fsX fsY
        ⟨some (outgoingSession i tid path (sha.hex content) content.length), none, [.offer o], [], 0, 0⟩
  | waiting {i j : ℕ} {o : FileOffer} (source : fsX.contentAt path = some content)
      (hr : IsReceiver sha content (incomingSession j o)) :
      Phase tid path content fsX fsY
        ⟨some (outgoingSession i tid path (sha.hex content) content.length),
          some (incomingSession j o), [], [], 0, 0⟩
  | accepted {s r : FileTransferSession} (hs : IsSender sha tid path content s)
      (hr : IsReceiver sha content r) (state : s.state = .Offering)
      (source : fsX.contentAt path = some content) (taking : Taking fsY content [] r)
      (index : r.currentChunkIndex = 0) :
      Phase tid path content fsX fsY ⟨some s, some r, [], [.request tid .fileAccept], 0, 0⟩
  | sending {s r : FileTransferSession} {p : ℕ} {got : Bytes} {ds : List Bytes}
      (hs : IsSender sha tid path content s) (hr : IsReceiver sha content r)
      (reading : Reading fsX path content p s) (taking : Taking fsY content got r)
      (index : s.currentChunkIndex = r.currentChunkIndex + UInt32.ofNat ds.length)
      (flight : got ++ ds.flatten = content.take p) (more : content ≠ []) :
      Phase tid path content fsX fsY
        ⟨some s, some r, chunks tid r.currentChunkIndex ds, [], 1, 0⟩
  | draining {s r : FileTransferSession} {got : Bytes} {ds : List Bytes}
      (hs : IsSender sha tid path content s) (hr : IsReceiver sha content r)
      (state : s.state = .Completed) (taking : Taking fsY content got r)
      (flight : got ++ ds.flatten = content) (nothing : content = [] → ds = []) :
      Phase tid path content fsX fsY
        ⟨some s, some r, chunks tid r.currentChunkIndex ds ++ [.request tid .fileComplete], [], 0, 0⟩
  | done {s r : FileTransferSession} (hs : IsSender sha tid path content s)
      (hr : IsReceiver sha content r) (state : s.state = .Completed) (state' : r.state = .Completed)
      (final : fsY.contentAt r.finalFilePath = some content) :
      Phase tid path content fsX fsY ⟨some s, some r, [], [], 0, 0⟩

/-! ### What others do to a transfer -/

/-- The paths a session relies on: the source of an outgoing transfer until it
is read, and both paths of an incoming one that was accepted. -/
def FileTransferSession.reserved (s : FileTransferSession) : List String :=
  match s.direction with
  | .Outgoing =>
      if s.state = .Offering ∨ s.state = .Transferring then [s.sourceFilePath] else []
  | .Incoming =>
      if s.state = .Transferring ∨ s.state = .Completed then [s.tempFilePath, s.finalFilePath]
      else []

section Frame

variable {json sha}
variable {tid path : String} {content got : Bytes} {fs fs' fsX fsX' fsY fsY' : FileSystem}
  {s r : FileTransferSession} {p : ℕ}

lemma IsSender.of_terms (h : IsSender sha tid path content s) {s' : FileTransferSession}
    (hterms : s'.terms = s.terms) : IsSender sha tid path content s' where
  transferId := (congrArg Terms.transferId hterms).trans h.transferId
  direction := (congrArg Terms.direction hterms).trans h.direction
  fileSize := (congrArg Terms.fileSize hterms).trans h.fileSize
  expectedSha256 := (congrArg Terms.expectedSha256 hterms).trans h.expectedSha256
  chunkSize := (congrArg Terms.chunkSize hterms).trans h.chunkSize
  sourceFilePath := (congrArg Terms.sourceFilePath hterms).trans h.sourceFilePath

lemma IsReceiver.of_terms (h : IsReceiver sha content r) {r' : FileTransferSession}
    (hterms : r'.terms = r.terms) : IsReceiver sha content r' where
  direction := (congrArg Terms.direction hterms).trans h.direction
  fileSize := (congrArg Terms.fileSize hterms).trans h.fileSize
  expectedSha256 := (congrArg Terms.expectedSha256 hterms).trans h.expectedSha256

lemma IsSender.reserved (hs : IsSender sha tid path content s)
    (h : s.state = .Offering ∨ s.state = .Transferring) : s.reserved = [path] := by
  simp only [FileTransferSession.reserved, hs.direction, if_pos h, hs.sourceFilePath]

lemma IsReceiver.reserved (hr : IsReceiver sha content r)
    (h : r.state = .Transferring ∨ r.state = .Completed) :
    r.reserved = [r.tempFilePath, r.finalFilePath] := by
  simp only [FileTransferSession.reserved, hr.direction, if_pos h]

lemma isSender_outgoingSession (i : ℕ) :
    IsSender sha tid path content
      (outgoingSession i tid path (sha.hex content) content.length) :=
  ⟨rfl, rfl, rfl, rfl, rfl, rfl⟩

lemma Reading.frame (h : Reading fs path content p s) (hk : FileSystem.Keeps path fs fs') :
    Reading fs' path content p s := by
  obtain ⟨i, hi, hhandle⟩ := h.handle
  exact ⟨h.state, ⟨i, hk.dir.trans hi, hhandle⟩, hk.contentAt.trans h.source, h.transferredBytes,
    h.le⟩

lemma Taking.frame (h : Taking fs content got r) (hr : IsReceiver sha content r)
    (hk : ∀ q ∈ r.reserved, FileSystem.Keeps q fs fs') : Taking fs' content got r := by
  cases h with
  | live state more receiving hash dir ne =>
      rw [hr.reserved (.inl state)] at hk
      have htemp := hk r.tempFilePath (by simp)
      exact .live state more ⟨receiving.handle, receiving.isOpen, receiving.mode,
        FileSystem.owns_of_dir (htemp.dir.trans dir),
        (htemp.content dir).trans receiving.content, receiving.pos⟩ hash (htemp.dir.trans dir) ne
  | empty state nothing got_eq final =>
      rw [hr.reserved (.inr state)] at hk
      have hfinal := hk r.finalFilePath (by simp)
      exact .empty state nothing got_eq (hfinal.contentAt.trans final)

/-- A transfer stays in its phase as long as the files at its reserved paths are
left alone. -/
theorem Phase.frame {v : View} (h : Phase sha tid path content fsX fsY v)
    (hX : ∀ s, v.sender = some s → ∀ q ∈ s.reserved, FileSystem.Keeps q fsX fsX')
    (hY : ∀ r, v.receiver = some r → ∀ q ∈ r.reserved, FileSystem.Keeps q fsY fsY') :
    Phase sha tid path content fsX' fsY' v := by
  have hpath : ∀ s, v.sender = some s → IsSender sha tid path content s →
      s.state = .Offering ∨ s.state = .Transferring → FileSystem.Keeps path fsX fsX' := by
    intro s hs hsender hstate
    apply hX s hs
    rw [hsender.reserved hstate]
    exact List.mem_singleton_self path
  cases h with
  | offered source hid hr =>
      have hkeep := hpath _ rfl (isSender_outgoingSession _) (.inl rfl)
      exact .offered (hkeep.contentAt.trans source) hid hr
  | waiting source hr =>
      have hkeep := hpath _ rfl (isSender_outgoingSession _) (.inl rfl)
      exact .waiting (hkeep.contentAt.trans source) hr
  | accepted hs hr state source taking index =>
      exact .accepted hs hr state ((hpath _ rfl hs (.inl state)).contentAt.trans source)
        (taking.frame hr (hY _ rfl)) index
  | sending hs hr reading taking index flight more =>
      exact .sending hs hr (reading.frame (hpath _ rfl hs (.inr reading.state)))
        (taking.frame hr (hY _ rfl)) index flight more
  | draining hs hr state taking flight nothing =>
      exact .draining hs hr state (taking.frame hr (hY _ rfl)) flight nothing
  | @done s r hs hr state state' final =>
      have hfinal := hY r rfl r.finalFilePath (by rw [hr.reserved (.inr state')]; simp)
      exact .done hs hr state state' (hfinal.contentAt.trans final)

end Frame

/-! ### The handlers of a transfer -/

section Handlers

variable {json sha}
variable {io : Io} {tid dir path : String} {content : Bytes} {t : Turn} {p : ℕ}

variable (json tid dir) in
/-- The acceptance is sent, and reported to the caller. -/
lemma Turn.acceptTransfer_sends
    (h : t.session.state = .Offering ∧ t.session.direction = .Incoming) (ho : io.openOk = true) :
    framesSent (t.acceptTransfer json io true tid dir).1.deeds =
        framesSent t.deeds ++ [jsonFrame json .FileAccept (FileAccept.toJson ⟨tid⟩)] ∧
      (t.acceptTransfer json io true tid dir).1.timers = t.timers ∧
      (t.acceptTransfer json io true tid dir).2 = true := by
  by_cases hsize : t.session.fileSize = 0
  · simp [acceptTransfer, startReceiving, completeEmpty, h.1, h.2, handleOpen_openTemp, ho, hsize,
      framesSent]
  · simp [acceptTransfer, startReceiving, h.1, h.2, handleOpen_openTemp, ho, hsize, framesSent]

section Sending

variable (hr : Reading t.files path content p t.session)
  (hs : IsSender sha tid path content t.session)

include hr

lemma Turn.handleOpen_reading : t.handleOpen = true := by
  obtain ⟨i, -, hhandle⟩ := hr.handle
  simp [handleOpen, hhandle]

lemma Turn.handleAtEnd_reading : t.handleAtEnd = decide (content.length ≤ p) := by
  obtain ⟨i, hi, hhandle⟩ := hr.handle
  have hcontent : t.files.content i = content := by
    have hsource := hr.source
    rw [FileSystem.contentAt, hi, Option.map_some, Option.some.injEq] at hsource
    exact hsource
  simp [handleAtEnd, hhandle, QFile.atEnd, hcontent]

include hs

variable (io) in
lemma Turn.readData_reading :
    t.readData io = (content.drop p).take (min 65536 io.readLimit) := by
  obtain ⟨i, hi, hhandle⟩ := hr.handle
  have hcontent : t.files.content i = content := by
    have hsource := hr.source
    rw [FileSystem.contentAt, hi, Option.map_some, Option.some.injEq] at hsource
    exact hsource
  have hchunk : t.session.chunkSize.toNat = 65536 := by
    rw [hs.chunkSize]
    rfl
  simp [readData, hhandle, QFile.read, hcontent, hchunk]

variable (json io) in
/-- At the end of the source the sender completes. -/
lemma Turn.sendNextChunk_done (hp : p = content.length) :
    (t.sendNextChunk json io true tid).session.state = .Completed ∧
      (t.sendNextChunk json io true tid).files = t.files ∧
      (t.sendNextChunk json io true tid).timers = t.timers ∧
      framesSent (t.sendNextChunk json io true tid).deeds =
        framesSent t.deeds ++ [jsonFrame json .FileComplete
          (FileComplete.toJson ⟨tid, sha.hex content, "verified"⟩)] := by
  have hopen := t.handleOpen_reading hr
  have hend : t.handleAtEnd = true := by
    rw [t.handleAtEnd_reading hr, hp]
    simp
  simp [sendNextChunk, sendComplete, hr.state, hopen, hend, hs.expectedSha256, framesSent]

variable (json io) in
/-- Before the end of the source the sender sends a chunk that is not empty, and
comes back for the next one. -/
lemma Turn.sendNextChunk_more (hp : p < content.length) (hlimit : 0 < io.readLimit) :
    ∃ d, d ≠ [] ∧ d.length ≤ 65536 ∧ content.take p ++ d = content.take (p + d.length) ∧
      Reading t.files path content (p + d.length) (t.sendNextChunk json io true tid).session ∧
      (t.sendNextChunk json io true tid).session.currentChunkIndex =
        t.session.currentChunkIndex + 1 ∧
      (t.sendNextChunk json io true tid).files = t.files ∧
      (t.sendNextChunk json io true tid).timers = t.timers ++ [tid] ∧
      framesSent (t.sendNextChunk json io true tid).deeds = framesSent t.deeds ++
        [⟨.FileChunk, FileChunk.encode tid t.session.currentChunkIndex d⟩] := by
  have hopen := t.handleOpen_reading hr
  have hend : t.handleAtEnd = false := by
    rw [t.handleAtEnd_reading hr, decide_eq_false_iff_not]
    omega
  have hread := t.readData_reading io hr hs
  have hlength : (t.readData io).length = min (min 65536 io.readLimit) (content.length - p) := by
    rw [hread, List.length_take, List.length_drop]
  have hne : t.readData io ≠ [] := by
    rw [← List.length_pos_iff, hlength]
    omega
  have hcount : ¬ t.session.fileSize ≤ t.session.transferredBytes := by
    rw [hs.fileSize, hr.transferredBytes]
    omega
  have hsend : t.sendNextChunk json io true tid = t.sendChunk true tid (t.readData io) := by
    simp [sendNextChunk, hr.state, hopen, hend, hcount, hne]
  obtain ⟨i, hi, hhandle⟩ := hr.handle
  refine ⟨t.readData io, hne, by omega, ?_, ?_, ?_, ?_, ?_, ?_⟩
  · rw [hread, List.take_add, List.length_take, List.length_drop]
    rw [← List.length_drop, ← List.take_eq_take_min]
  · rw [hsend]
    refine ⟨by simpa [sendChunk] using hr.state, ⟨i, hi, ?_⟩, hr.source, ?_, by omega⟩
    · simp [sendChunk, hhandle, QFile.advance]
    · simp [sendChunk, hr.transferredBytes]
  · rw [hsend]
    simp [sendChunk]
  · rw [hsend]
    simp [sendChunk]
  · rw [hsend]
    simp [sendChunk]
  · rw [hsend]
    simp [sendChunk, framesSent]

end Sending

variable (json) in
/-- The acceptance of an offered file opens it, and sends the first chunk. -/
lemma Turn.handleInboundFileAccept_offering (hs : IsSender sha tid path content t.session)
    (hstate : t.session.state = .Offering) (hsource : t.files.contentAt path = some content)
    (ho : io.openOk = true) :
    ∃ t₁ : Turn, t.handleInboundFileAccept json io true tid = t₁.sendNextChunk json io true tid ∧
      Reading t₁.files path content 0 t₁.session ∧ t₁.session.terms = t.session.terms ∧
      t₁.session.currentChunkIndex = 0 ∧ t₁.files = t.files ∧ t₁.timers = t.timers ∧
      framesSent t₁.deeds = framesSent t.deeds := by
  obtain ⟨i, hi, -⟩ := FileSystem.contentAt_eq_some.mp hsource
  have hhandle : QFile.openRead t.files path io.openOk = ⟨i, .ReadOnly, 0, true⟩ := by
    simp [QFile.openRead, hi, ho]
  refine ⟨((t.openSource io).setState .Transferring).resetCounters, ?_, ?_, ?_, ?_, ?_, ?_, ?_⟩
  · have hopen : (t.openSource io).handleOpen = true := by
      simp [handleOpen, hs.sourceFilePath, hhandle]
    simp [handleInboundFileAccept, hs.direction, hstate, hopen]
  · exact ⟨by simp, ⟨i, hi, by simp [hs.sourceFilePath, hhandle]⟩, hsource, by simp, by simp⟩
  · simp [FileTransferSession.terms]
  · simp
  · simp
  · simp
  · simp [framesSent]

variable (tid) in
/-- The chunk that is due goes to the end of the file. -/
lemma Turn.handleInboundFileChunk_due {h : QFile} (hdir : t.session.direction = .Incoming)
    (hstate : t.session.state = .Transferring) (hrec : Receiving t.files t.session h)
    (hlimit : io.writeLimit = none) (data : Bytes) :
    (t.handleInboundFileChunk io tid t.session.currentChunkIndex data).session =
        { t.session with
          fileHandle := some (h.advance data.length)
          cryptoHash := t.session.cryptoHash ++ data
          transferredBytes := t.session.transferredBytes + data.length
          currentChunkIndex := t.session.currentChunkIndex + 1 } ∧
      (t.handleInboundFileChunk io tid t.session.currentChunkIndex data).files =
        t.files.writeAt h.inode h.pos data ∧
      (t.handleInboundFileChunk io tid t.session.currentChunkIndex data).timers = t.timers ∧
      framesSent (t.handleInboundFileChunk io tid t.session.currentChunkIndex data).deeds =
        framesSent t.deeds := by
  have hw : QFile.written data io.writeLimit = data := by rw [hlimit, QFile.written]
  obtain ⟨hsession, hfiles⟩ := Turn.writeData_receiving hrec hw
  have htimers : (t.writeData io data).timers = t.timers := by
    simp [writeData, hrec.handle, hrec.isOpen, hrec.mode]
  refine ⟨?_, ?_, ?_, ?_⟩
  · simp [handleInboundFileChunk, hdir, hstate, hsession]
  · simp [handleInboundFileChunk, hdir, hstate, hfiles]
  · simp [handleInboundFileChunk, hdir, hstate, htimers]
  · simp [handleInboundFileChunk, hdir, hstate, framesSent]

variable (tid) in
/-- The end of a transfer whose hash is right moves the file. -/
lemma Turn.handleInboundFileComplete_right (hdir : t.session.direction = .Incoming)
    (hstate : t.session.state = .Transferring)
    (hhash : QString.equalCI (sha.hex t.session.cryptoHash) t.session.expectedSha256 = true)
    (hcan : (cleared io t.files t.session.finalFilePath).canRename t.session.tempFilePath
      t.session.finalFilePath io.renameOk = true) :
    (t.handleInboundFileComplete sha io tid).session.state = .Completed ∧
      (t.handleInboundFileComplete sha io tid).session.tempFilePath = t.session.tempFilePath ∧
      (t.handleInboundFileComplete sha io tid).session.finalFilePath = t.session.finalFilePath ∧
      (t.handleInboundFileComplete sha io tid).files =
        replaced io t.files t.session.tempFilePath t.session.finalFilePath ∧
      (t.handleInboundFileComplete sha io tid).timers = t.timers ∧
      framesSent (t.handleInboundFileComplete sha io tid).deeds = framesSent t.deeds := by
  simp [handleInboundFileComplete, moveToFinal, hdir, hstate, hhash, hcan, replaced, framesSent]

end Handlers

/-! ### The steps of a transfer -/

/-- A request that keeps to its own transfer: what it sends and schedules is
about it, and it touches no file but those that its session has reserved. -/
structure Tame (tid : String) (t t' : Turn) : Prop where
  frames : ∀ f ∈ framesSent t'.deeds, (readFrame json f).id? = some tid
  timers : ∀ a ∈ t'.timers, a = tid
  reserved : t'.session.reserved ⊆ t.session.reserved
  live : t'.session.Live → t.session.Live
  offered : t'.session.state = .Offering → t.session.state = .Offering
  started : t.session.state = .Offering → t.session.direction = .Incoming →
    t'.session.state = .Offering
  files : t'.files = t.files ∨
    t.session.Live ∧ ∀ q ∉ t.session.reserved, FileSystem.Keeps q t.files t'.files

section Steps

variable {json sha}
variable {io : Io} {tid dir path : String} {content got : Bytes} {fsX fsY : FileSystem}
  {s r : FileTransferSession} {t : Turn} {p : ℕ} {ds : List Bytes} {q : String}

lemma keeps_cleared (fs : FileSystem) {target : String} (h : q ≠ target) :
    FileSystem.Keeps q fs (Turn.cleared io fs target) := by
  unfold Turn.cleared
  split_ifs
  · exact FileSystem.keeps_remove _ h _
  · rfl

lemma keeps_replaced (fs : FileSystem) {source target : String} (hs : q ≠ source)
    (ht : q ≠ target) : FileSystem.Keeps q fs (replaced io fs source target) :=
  (keeps_cleared fs ht).trans (FileSystem.keeps_rename _ hs ht _)

lemma Reliable.movable (h : Reliable io) {fs : FileSystem} {source target : String}
    (hne : source ≠ target) : Movable io fs source target :=
  ⟨hne, h.renameOk, fun _ => h.removeOk target⟩

variable (json tid dir) in
/-- Accepting an offer makes the receiver take the file. -/
lemma Taking.accept (hio : Reliable io) (hr : IsReceiver sha content t.session)
    (hstate : t.session.state = .Offering)
    (hne : tempPath io tid dir ≠ finalPath io dir t.session) :
    Taking (t.acceptTransfer json io true tid dir).1.files content []
        (t.acceptTransfer json io true tid dir).1.session ∧
      (t.acceptTransfer json io true tid dir).1.session.currentChunkIndex = 0 ∧
      (t.acceptTransfer json io true tid dir).1.session.tempFilePath = tempPath io tid dir ∧
      (t.acceptTransfer json io true tid dir).1.session.finalFilePath = finalPath io dir t.session ∧
      ∀ q, q ≠ tempPath io tid dir → q ≠ finalPath io dir t.session →
        FileSystem.Keeps q t.files (t.acceptTransfer json io true tid dir).1.files := by
  have hcheck : t.session.state = .Offering ∧ t.session.direction = .Incoming :=
    ⟨hstate, hr.direction⟩
  by_cases hcontent : content = []
  · have hsize : t.session.fileSize = 0 := by rw [hr.fileSize, hcontent]; rfl
    obtain ⟨hsession, hfiles⟩ := Turn.acceptTransfer_empty json io true tid dir
      hcheck hio.openOk hsize
    rw [hsession, hfiles]
    refine ⟨.empty rfl hcontent rfl ?_, rfl, rfl, rfl, ?_⟩
    · exact contentAt_replaced (hio.movable hne)
        (by rw [FileSystem.contentAt_openTruncate, if_pos rfl])
    · intro q ht hf
      exact (FileSystem.keeps_openTruncate _ ht).trans (keeps_replaced _ ht hf)
  · have hsize : t.session.fileSize ≠ 0 := by
      rw [hr.fileSize]
      simpa using hcontent
    obtain ⟨hsession, hfiles⟩ := Turn.acceptTransfer_receiving json io true tid dir
      hcheck hio.openOk hsize
    rw [hsession, hfiles]
    refine ⟨.live rfl hcontent (h := ⟨t.files.opened (tempPath io tid dir), .WriteOnly, 0, true⟩)
      ⟨rfl, rfl, rfl, FileSystem.owns_openTruncate _ _,
        FileSystem.content_openTruncate_opened _ _, rfl⟩ rfl ?_ hne, rfl, rfl, rfl, ?_⟩
    · rw [FileSystem.dir_openTruncate, if_pos rfl]
    · intro q ht _
      exact FileSystem.keeps_openTruncate _ ht

variable (json) in
/-- The sender's next step: a chunk, or the end. -/
lemma Phase.send (hid : IsChunkId tid) (hlimit : 0 < io.readLimit)
    (hs : IsSender sha tid path content t.session) (hr : IsReceiver sha content r)
    (reading : Reading t.files path content p t.session) (taking : Taking fsY content got r)
    (index : t.session.currentChunkIndex = r.currentChunkIndex + UInt32.ofNat ds.length)
    (flight : got ++ ds.flatten = content.take p) (nothing : content = [] → ds = [])
    (hd : framesSent t.deeds = []) (ht : t.timers = []) (t' : Turn)
    (ht' : t' = t.sendNextChunk json io true tid) :
    Phase sha tid path content t.files fsY
        ⟨some t'.session, some r,
          chunks tid r.currentChunkIndex ds ++ (framesSent t'.deeds).map (readFrame json), [],
          t'.timers.count tid, 0⟩ ∧
      t'.files = t.files ∧ Tame json tid t t' := by
  subst ht'
  have hterms := Turn.terms_sendNextChunk json io true tid t
  have hs' := hs.of_terms hterms
  have hresOld : t.session.reserved = [path] := hs.reserved (.inr reading.state)
  have hdir' : (t.sendNextChunk json io true tid).session.direction = .Outgoing := hs'.direction
  have hlive : (t.sendNextChunk json io true tid).session.Live → t.session.Live := by
    intro h
    rw [FileTransferSession.Live, hdir'] at h
    cases h.1
  have hstarted : t.session.state = .Offering → t.session.direction = .Incoming →
      (t.sendNextChunk json io true tid).session.state = .Offering := by
    intro _ hdir
    rw [hs.direction] at hdir
    cases hdir
  by_cases hp : p = content.length
  · obtain ⟨hstate, hfiles, htimers, hframes⟩ :=
      Turn.sendNextChunk_done json io reading hs hp
    have hread := readFrame_fileComplete json
      (m := ⟨tid, sha.hex content, "verified"⟩) hid.ne_empty (sha.hex_ne_empty content)
    rw [hframes, hd, htimers, ht, List.nil_append, List.map_singleton, hread]
    refine ⟨?_, hfiles, ?_⟩
    · refine .draining hs' hr hstate taking ?_ nothing
      rw [flight, hp, List.take_length]
    · refine ⟨?_, ?_, ?_, hlive, ?_, hstarted, .inl hfiles⟩
      · intro f hf
        rw [hframes, hd, List.nil_append, List.mem_singleton] at hf
        rw [hf, hread]
        rfl
      · rw [htimers, ht]
        simp
      · simp [FileTransferSession.reserved, hdir', hstate]
      · rw [hstate]
        simp
  · have hlt : p < content.length := lt_of_le_of_ne reading.le hp
    obtain ⟨d, hdne, hdlen, htake, hreading, hindex, hfiles, htimers, hframes⟩ :=
      Turn.sendNextChunk_more json io reading hs hlt hlimit
    have hread := readFrame_fileChunk json hid t.session.currentChunkIndex d
      (by omega)
    rw [hframes, hd, htimers, ht, List.nil_append, List.map_singleton, hread, List.nil_append]
    refine ⟨?_, hfiles, ?_⟩
    · have hcount : List.count tid [tid] = 1 := by simp
      rw [hcount, index, ← chunks_snoc]
      refine .sending hs' hr hreading taking ?_ ?_ ?_
      · rw [hindex, index, List.length_append, UInt32.ofNat_add, UInt32.add_assoc]
        rfl
      · rw [List.flatten_append, ← List.append_assoc, flight, List.flatten_singleton, htake]
      · rintro rfl
        simp at hlt
    · refine ⟨?_, ?_, ?_, hlive, ?_, hstarted, .inl hfiles⟩
      · intro f hf
        rw [hframes, hd, List.nil_append, List.mem_singleton] at hf
        rw [hf, hread]
        rfl
      · rw [htimers, ht]
        simp
      · rw [hs'.reserved (.inr hreading.state), hresOld]
        simp
      · rw [hreading.state]
        simp

variable (json) in
/-- The acceptance reaches the sender. -/
lemma Phase.fileAccept (hid : IsChunkId tid) (hio : Reliable io)
    (hs : IsSender sha tid path content s) (hr : IsReceiver sha content r)
    (state : s.state = .Offering) (source : fsX.contentAt path = some content)
    (taking : Taking fsY content [] r) (index : r.currentChunkIndex = 0) (t' : Turn)
    (ht' : t' = Turn.handleInboundFileAccept json io true tid { session := s, files := fsX }) :
    Phase sha tid path content fsX fsY
        ⟨some t'.session, some r, (framesSent t'.deeds).map (readFrame json), [],
          t'.timers.count tid, 0⟩ ∧
      t'.files = fsX ∧ Tame json tid { session := s, files := fsX } t' := by
  obtain ⟨t₁, heq, hreading, hterms, hindex, hfiles, htimers, hframes⟩ :=
    Turn.handleInboundFileAccept_offering json (t := { session := s, files := fsX })
      hs state source hio.openOk
  have hs₁ := hs.of_terms hterms
  rw [heq] at ht'
  have hfirst : t₁.session.currentChunkIndex =
      r.currentChunkIndex + UInt32.ofNat ([] : List Bytes).length := by
    rw [hindex, index]
    rfl
  obtain ⟨hphase, hsame, htame⟩ := Phase.send json hid hio.readLimit hs₁ hr hreading taking hfirst
    (by simp) (fun _ => rfl) hframes htimers t' ht'
  rw [hfiles] at hphase
  have hres : t₁.session.reserved = s.reserved := by
    rw [hs₁.reserved (.inr hreading.state), hs.reserved (.inl state)]
  have hnotlive : ¬ t₁.session.Live := by
    intro h
    rw [FileTransferSession.Live, hs₁.direction] at h
    cases h.1
  refine ⟨hphase, hsame.trans hfiles, htame.frames, htame.timers, ?_, ?_, fun _ => state, ?_,
    .inl (hsame.trans hfiles)⟩
  · rw [← hres]
    exact htame.reserved
  · intro h
    exact absurd (htame.live h) hnotlive
  · intro _ hdir
    dsimp only at hdir
    rw [hs.direction] at hdir
    cases hdir

variable (json tid) in
/-- A chunk reaches the receiver. -/
lemma Taking.chunk (hio : Reliable io) (hr : IsReceiver sha content t.session)
    (taking : Taking t.files content got t.session) (more : content ≠ []) (data : Bytes)
    (ht : t.timers = []) (hd : framesSent t.deeds = []) (t' : Turn)
    (ht' : t' = t.handleInboundFileChunk io tid t.session.currentChunkIndex data) :
    Taking t'.files content (got ++ data) t'.session ∧
      t'.session.currentChunkIndex = t.session.currentChunkIndex + 1 ∧
      t'.timers = [] ∧ framesSent t'.deeds = [] ∧ Tame json tid t t' := by
  cases taking with
  | empty state nothing got_eq final => exact absurd nothing more
  | @live h state _ receiving hash dir ne =>
      obtain ⟨hsession, hfiles, htimers, hframes⟩ := Turn.handleInboundFileChunk_due tid
        hr.direction state receiving hio.writeLimit data
      rw [← ht'] at hsession hfiles htimers hframes
      have hres := hr.reserved (.inl state)
      refine ⟨?_, ?_, htimers.trans ht, hframes.trans hd, ?_⟩
      · refine .live (h := h.advance data.length) ?_ more ?_ ?_ ?_ ?_
        · rw [hsession]
          exact state
        · rw [hfiles]
          exact receiving.chunk data (by rw [hsession]) (by rw [hsession]) (by rw [hsession])
        · rw [hsession, ← hash]
        · rw [hfiles, hsession]
          exact dir
        · rw [hsession]
          exact ne
      · rw [hsession]
      · refine ⟨by simp [hframes, hd], by simp [htimers, ht], ?_, fun _ => ⟨hr.direction, state⟩,
          ?_, ?_, .inr ⟨⟨hr.direction, state⟩, ?_⟩⟩
        · rw [hsession]
          exact List.Subset.refl _
        · rw [hsession]
          exact id
        · rw [hsession]
          exact fun hstate _ => hstate
        · intro q hq
          rw [hres] at hq
          rw [hfiles]
          apply FileSystem.keeps_writeAt
          intro hdirq
          rw [t.files.dir_inj hdirq dir] at hq
          simp at hq

variable (json tid) in
/-- The end of the stream reaches the receiver. -/
lemma Taking.complete (hio : Reliable io) (hr : IsReceiver sha content t.session)
    (taking : Taking t.files content content t.session)
    (ht : t.timers = []) (hd : framesSent t.deeds = []) (t' : Turn)
    (ht' : t' = t.handleInboundFileComplete sha io tid) :
    t'.session.state = .Completed ∧
      t'.files.contentAt t'.session.finalFilePath = some content ∧
      t'.timers = [] ∧ framesSent t'.deeds = [] ∧ Tame json tid t t' := by
  cases taking with
  | empty state nothing got_eq final =>
      have hsame : t' = t := by
        rw [ht']
        simp [Turn.handleInboundFileComplete, state]
      rw [hsame, nothing]
      exact ⟨state, final, ht, hd, by simp [hd], by simp [ht], List.Subset.refl _, id, id,
        fun hstate _ => hstate, .inl rfl⟩
  | @live h state _ receiving hash dir ne =>
      have htemp : t.files.contentAt t.session.tempFilePath = some content := by
        rw [FileSystem.contentAt, dir, Option.map_some, receiving.content, hash]
      have hmove : Movable io t.files t.session.tempFilePath t.session.finalFilePath :=
        hio.movable ne
      have hhash : QString.equalCI (sha.hex t.session.cryptoHash) t.session.expectedSha256 =
          true := by
        rw [hash, hr.expectedSha256]
        exact QString.equalCI_self _
      obtain ⟨hstate, htempEq, hfinalEq, hfiles, htimers, hframes⟩ :=
        Turn.handleInboundFileComplete_right tid hr.direction state hhash
          (hmove.canRename htemp)
      rw [← ht'] at hstate htempEq hfinalEq hfiles htimers hframes
      have hterms : t'.session.terms = t.session.terms := by
        rw [ht']
        exact Request.run_terms json sha io true tid .fileComplete t
      have hres := hr.reserved (.inl state)
      refine ⟨hstate, ?_, htimers.trans ht, hframes.trans hd, ?_⟩
      · rw [hfinalEq, hfiles]
        exact contentAt_replaced hmove htemp
      · refine ⟨by simp [hframes, hd], by simp [htimers, ht], ?_, fun _ => ⟨hr.direction, state⟩,
          ?_, ?_, .inr ⟨⟨hr.direction, state⟩, ?_⟩⟩
        · rw [(hr.of_terms hterms).reserved (.inr hstate), hres, htempEq, hfinalEq]
          exact List.Subset.refl _
        · rw [hstate]
          intro h
          cases h
        · rw [state]
          intro h
          cases h
        · intro q hq
          rw [hres] at hq
          rw [hfiles]
          exact keeps_replaced _ (by simp at hq; exact hq.1) (by simp at hq; exact hq.2)

/-- What the receiver can be told: an offer, the chunk that is due, or the end;
each leads on to the next phase. -/
lemma Phase.of_toReceiver {v : View} {cmd : Command}
    (h : Phase sha tid path content fsX fsY { v with toReceiver := cmd :: v.toReceiver }) :
    (∃ o, cmd = .offer o ∧ o.transferId = tid ∧ v.receiver = none ∧
        ∀ i, Phase sha tid path content fsX fsY { v with receiver := some (incomingSession i o) }) ∨
      (∃ r got data, cmd = .request tid (.fileChunk r.currentChunkIndex data) ∧
        v.receiver = some r ∧ content ≠ [] ∧ IsReceiver sha content r ∧ Taking fsY content got r ∧
        ∀ r' fsY', IsReceiver sha content r' → Taking fsY' content (got ++ data) r' →
          r'.currentChunkIndex = r.currentChunkIndex + 1 →
            Phase sha tid path content fsX fsY' { v with receiver := some r' }) ∨
      (∃ r, cmd = .request tid .fileComplete ∧ v.receiver = some r ∧ IsReceiver sha content r ∧
        Taking fsY content content r ∧
        ∀ r' fsY', IsReceiver sha content r' → r'.state = .Completed →
          fsY'.contentAt r'.finalFilePath = some content →
            Phase sha tid path content fsX fsY' { v with receiver := some r' }) := by
  obtain ⟨sender, receiver, toReceiver, toSender, pending, stray⟩ := v
  dsimp only at h ⊢
  generalize hlist : cmd :: toReceiver = list at h
  cases h with
  | @offered i o source hid hr =>
      rw [List.cons.injEq] at hlist
      obtain ⟨rfl, rfl⟩ := hlist
      exact .inl ⟨o, rfl, hid, rfl, fun j => .waiting source (hr j)⟩
  | waiting => cases hlist
  | accepted => cases hlist
  | @sending s r p got ds hs hr reading taking index flight more =>
      cases ds with
      | nil => cases hlist
      | cons d ds =>
          rw [chunks, List.cons.injEq] at hlist
          obtain ⟨rfl, rfl⟩ := hlist
          refine .inr (.inl ⟨r, got, d, rfl, rfl, more, hr, taking, ?_⟩)
          intro r' fsY' hr' taking' hindex
          rw [← hindex]
          refine .sending hs hr' reading taking' ?_ ?_ more
          · rw [index, hindex, List.length_cons, UInt32.ofNat_add, UInt32.add_assoc,
              UInt32.add_comm (UInt32.ofNat ds.length)]
            rfl
          · rw [List.append_assoc, ← flight, List.flatten_cons]
  | @draining s r got ds hs hr state taking flight nothing =>
      cases ds with
      | nil =>
          rw [chunks, List.nil_append, List.cons.injEq] at hlist
          obtain ⟨rfl, rfl⟩ := hlist
          rw [List.flatten_nil, List.append_nil] at flight
          subst flight
          refine .inr (.inr ⟨r, rfl, rfl, hr, taking, ?_⟩)
          intro r' fsY' hr' state' final
          exact .done hs hr' state state' final
      | cons d ds =>
          rw [chunks, List.cons_append, List.cons.injEq] at hlist
          obtain ⟨rfl, rfl⟩ := hlist
          have more : content ≠ [] := fun hnil => by cases nothing hnil
          refine .inr (.inl ⟨r, got, d, rfl, rfl, more, hr, taking, ?_⟩)
          intro r' fsY' hr' taking' hindex
          rw [← hindex]
          refine .draining hs hr' state taking' ?_ (fun hnil => absurd hnil more)
          rw [List.append_assoc, ← flight, List.flatten_cons]
  | done => cases hlist

/-- What the sender can be told: that its offer was accepted. -/
lemma Phase.of_toSender {v : View} {cmd : Command}
    (h : Phase sha tid path content fsX fsY { v with toSender := cmd :: v.toSender }) :
    ∃ s r, cmd = .request tid .fileAccept ∧ v = ⟨some s, some r, [], [], 0, 0⟩ ∧
      IsSender sha tid path content s ∧ IsReceiver sha content r ∧ s.state = .Offering ∧
      fsX.contentAt path = some content ∧ Taking fsY content [] r ∧ r.currentChunkIndex = 0 := by
  obtain ⟨sender, receiver, toReceiver, toSender, pending, stray⟩ := v
  dsimp only at h
  generalize hlist : cmd :: toSender = list at h
  cases h with
  | @accepted s r hs hr state source taking index =>
      rw [List.cons.injEq] at hlist
      obtain ⟨rfl, rfl⟩ := hlist
      exact ⟨s, r, rfl, rfl, hs, hr, state, source, taking, index⟩
  | offered => cases hlist
  | waiting => cases hlist
  | sending => cases hlist
  | draining => cases hlist
  | done => cases hlist

/-- A timer is pending only while the sender is sending, and it is the only one. -/
lemma Phase.of_pending {v : View} (h : Phase sha tid path content fsX fsY v) (hv : 0 < v.pending) :
    ∃ s r p got ds, v = ⟨some s, some r, chunks tid r.currentChunkIndex ds, [], 1, 0⟩ ∧
      IsSender sha tid path content s ∧ IsReceiver sha content r ∧ Reading fsX path content p s ∧
      Taking fsY content got r ∧
      s.currentChunkIndex = r.currentChunkIndex + UInt32.ofNat ds.length ∧
      got ++ ds.flatten = content.take p ∧ content ≠ [] := by
  cases h with
  | @sending s r p got ds hs hr reading taking index flight more =>
      exact ⟨s, r, p, got, ds, rfl, hs, hr, reading, taking, index, flight, more⟩
  | offered => simp at hv
  | waiting => simp at hv
  | accepted => simp at hv
  | draining => simp at hv
  | done => simp at hv

/-- An offer that the receiver can accept waits with nothing in flight. -/
lemma Phase.of_offering {v : View} (h : Phase sha tid path content fsX fsY v) {r}
    (hv : v.receiver = some r) (hstate : r.state = .Offering) :
    ∃ s, v = ⟨some s, some r, [], [], 0, 0⟩ ∧ IsSender sha tid path content s ∧
      IsReceiver sha content r ∧ s.state = .Offering ∧ fsX.contentAt path = some content := by
  -- a receiver that takes the file is past the offer
  have htaking : ∀ {got r'}, Taking fsY content got r' → some r' = some r → False := by
    intro got r' taking heq
    rw [Option.some.injEq] at heq
    subst heq
    cases taking with
    | live state => rw [hstate] at state; cases state
    | empty state => rw [hstate] at state; cases state
  cases h with
  | offered => cases hv
  | waiting source hr =>
      dsimp only at hv
      rw [Option.some.injEq] at hv
      subst hv
      exact ⟨_, rfl, isSender_outgoingSession _, hr, rfl, source⟩
  | accepted hs hr state source taking => exact (htaking taking hv).elim
  | sending hs hr reading taking => exact (htaking taking hv).elim
  | draining hs hr state taking => exact (htaking taking hv).elim
  | done hs hr state state' =>
      dsimp only at hv
      rw [Option.some.injEq] at hv
      rw [hv, hstate] at state'
      cases state'

/-- The sender's session is the one of `sendFile`. -/
lemma Phase.sender {v : View} (h : Phase sha tid path content fsX fsY v) :
    ∃ s, v.sender = some s ∧ IsSender sha tid path content s := by
  cases h with
  | offered => exact ⟨_, rfl, isSender_outgoingSession _⟩
  | waiting => exact ⟨_, rfl, isSender_outgoingSession _⟩
  | accepted hs => exact ⟨_, rfl, hs⟩
  | sending hs => exact ⟨_, rfl, hs⟩
  | draining hs => exact ⟨_, rfl, hs⟩
  | done hs => exact ⟨_, rfl, hs⟩

/-- The receiver's session is one of an offer. -/
lemma Phase.receiver {v : View} (h : Phase sha tid path content fsX fsY v) {r}
    (hv : v.receiver = some r) : IsReceiver sha content r := by
  cases h with
  | offered => cases hv
  | waiting source hr => cases hv; exact hr
  | accepted hs hr => cases hv; exact hr
  | sending hs hr => cases hv; exact hr
  | draining hs hr => cases hv; exact hr
  | done hs hr => cases hv; exact hr

/-- No timers are pending at the receiver. -/
lemma Phase.stray {v : View} (h : Phase sha tid path content fsX fsY v) : v.stray = 0 := by
  cases h <;> rfl

/-- A transfer that was accepted, with nothing in flight and no timer pending,
is done. -/
lemma Phase.done_of_quiet {v : View} (h : Phase sha tid path content fsX fsY v) {r}
    (hv : v.receiver = some r) (haccepted : r.state ≠ .Offering) (hR : v.toReceiver = [])
    (hS : v.toSender = []) (hp : v.pending = 0) :
    ∃ s, v.sender = some s ∧ IsSender sha tid path content s ∧ s.state = .Completed ∧
      r.state = .Completed ∧ fsY.contentAt r.finalFilePath = some content := by
  cases h with
  | offered => cases hv
  | waiting =>
      cases hv
      exact absurd rfl haccepted
  | accepted => cases hS
  | sending => cases hp
  | draining =>
      dsimp only at hR
      simp at hR
  | done hs hr state state' final =>
      cases hv
      exact ⟨_, rfl, hs, state, state', final⟩

/-- A transfer that was not accepted, with nothing in flight, is as both sides
registered it. -/
lemma Phase.waiting_of_quiet {v : View} (h : Phase sha tid path content fsX fsY v)
    (hstarted : ∀ r, v.receiver = some r → r.state = .Offering) (hR : v.toReceiver = []) :
    (∃ i, v.sender = some (outgoingSession i tid path (sha.hex content) content.length)) ∧
      ∃ j o, v.receiver = some (incomingSession j o) := by
  have htaking : ∀ {got r}, Taking fsY content got r → r.state = .Offering → False := by
    intro got r taking hstate
    cases taking with
    | live state => rw [hstate] at state; cases state
    | empty state => rw [hstate] at state; cases state
  cases h with
  | offered => cases hR
  | waiting => exact ⟨⟨_, rfl⟩, _, _, rfl⟩
  | accepted hs hr state source taking => exact (htaking taking (hstarted _ rfl)).elim
  | sending hs hr reading taking => exact (htaking taking (hstarted _ rfl)).elim
  | draining hs hr state taking => exact (htaking taking (hstarted _ rfl)).elim
  | done hs hr state state' =>
      have hstate := hstarted _ rfl
      rw [state'] at hstate
      cases hstate

end Steps

end MeckChat.Protocol
