import MeckChat.Foundation.Run
import MeckChat.Protocol.FileTransferSession
import MeckChat.Protocol.Payload

/-!
The file transfer controller (`file_transfer_controller.cpp`).

* In the namespace `Turn`: the bodies of the handlers behind their look-up of
  the session, statement by statement.
* In the namespace `FileTransferController`: the state of the controller, the
  look-up `withSession`, and the public calls and slots under the names of the
  source.
* `Event` is what can happen to a controller and `machine` runs it. One handler
  runs to its end before the next event; what a handler emits is in the log.
-/

namespace MeckChat.Protocol

open Qt QJson

/-- What is used of `QCryptographicHash` for SHA-256: the digest of the bytes
fed to it, which is not empty. -/
structure Sha256 where
  digest : Bytes → Bytes
  digest_ne_nil : ∀ bs, digest bs ≠ []

/-- `hash.result().toHex()`. -/
def Sha256.hex (sha : Sha256) (bs : Bytes) : String := QString.toHex (sha.digest bs)

lemma Sha256.hex_ne_empty (sha : Sha256) (bs : Bytes) : sha.hex bs ≠ "" :=
  QString.toHex_ne_empty (sha.digest_ne_nil bs)

/-- SHA-256 of the empty string and of the letter `a`; the values on other
strings are arbitrary. -/
def Sha256.sample : Sha256 where
  digest bs :=
    if bs = [] then
      [0xe3, 0xb0, 0xc4, 0x42, 0x98, 0xfc, 0x1c, 0x14, 0x9a, 0xfb, 0xf4, 0xc8, 0x99, 0x6f, 0xb9, 0x24,
        0x27, 0xae, 0x41, 0xe4, 0x64, 0x9b, 0x93, 0x4c, 0xa4, 0x95, 0x99, 0x1b, 0x78, 0x52, 0xb8, 0x55]
    else if bs = [0x61] then
      [0xca, 0x97, 0x81, 0x12, 0xca, 0x1b, 0xbd, 0xca, 0xfa, 0xc2, 0x31, 0xb3, 0x9a, 0x23, 0xdc, 0x4d,
        0xa7, 0x86, 0xef, 0xf8, 0x14, 0x7c, 0x4e, 0x72, 0xb9, 0x80, 0x77, 0x85, 0xaf, 0xee, 0x48, 0xbb]
    else bs
  digest_ne_nil bs := by
    split_ifs with h
    · simp
    · simp
    · exact h

variable (json : JsonCodec) (sha : Sha256)

/-! ### The handlers, on one session -/

namespace Turn

/-- The directory that `acceptTransfer` saves to. -/
def targetDir (io : Io) (destinationDir : String) : String :=
  if destinationDir = "" then
    if io.downloadLocation = "" then io.currentPath else io.downloadLocation
  else destinationDir

/-- Make the directory if it is not there, and set the two paths in it. -/
def preparePaths (io : Io) (transferId dir : String) (t : Turn) : Turn :=
  { t with
    session.finalFilePath := QDir.filePath dir t.session.fileName
    session.tempFilePath := QDir.filePath dir (".tmp_" ++ transferId)
    deeds := if io.dirExists then t.deeds else t.deeds ++ [.file (.mkpath dir)] }

@[simp] lemma session_preparePaths (io : Io) (tid dir : String) (t : Turn) :
    (t.preparePaths io tid dir).session =
      { t.session with
        finalFilePath := QDir.filePath dir t.session.fileName
        tempFilePath := QDir.filePath dir (".tmp_" ++ tid) } := rfl

@[simp] lemma files_preparePaths (io : Io) (tid dir : String) (t : Turn) :
    (t.preparePaths io tid dir).files = t.files := rfl

@[simp] lemma timers_preparePaths (io : Io) (tid dir : String) (t : Turn) :
    (t.preparePaths io tid dir).timers = t.timers := rfl

@[simp] lemma filterMap_preparePaths {β : Type} (f : Deed → Option β) (io : Io)
    (tid dir : String) (t : Turn) :
    (t.preparePaths io tid dir).deeds.filterMap f =
      t.deeds.filterMap f ++ bif io.dirExists then [] else (f (.file (.mkpath dir))).toList := by
  by_cases h : io.dirExists = true
  · simp [preparePaths, h]
  · simp only [preparePaths, h, Bool.false_eq_true, if_false]
    exact filterMap_log f t _

/-- `if (session->fileSize == 0)` at the end of `acceptTransfer`: the hash is
not looked at, nor the outcome of the renaming. -/
def completeEmpty (io : Io) (transferId : String) (t : Turn) : Turn :=
  t.closeHandle
    |>.removeIfExists io t.session.finalFilePath
    |>.rename io t.session.tempFilePath t.session.finalFilePath
    |>.setState .Completed
    |>.emit (.transferCompleted transferId t.session.finalFilePath)

/-- `acceptTransfer`, once the temporary file is open. -/
def startReceiving (io : Io) (m_socket : Bool) (transferId : String) (t : Turn) : Turn :=
  let t := (t.resetHash.setState .Transferring).resetCounters
  let t := t.sendFrame m_socket (jsonFrame json .FileAccept (FileAccept.toJson ⟨transferId⟩))
  let t := t.emit (.transferStarted transferId t.session.fileName t.session.fileSize .Incoming)
  if t.session.fileSize = 0 then t.completeEmpty io transferId else t

/-- `FileTransferController::acceptTransfer`. -/
def acceptTransfer (io : Io) (m_socket : Bool) (transferId destinationDir : String) (t : Turn) :
    Turn × Bool :=
  if t.session.state ≠ .Offering ∨ t.session.direction ≠ .Incoming then (t, false)
  else
    let t := t.log .passedCheck
    let t := (t.preparePaths io transferId (targetDir io destinationDir)).openTemp io
    if t.handleOpen then (t.startReceiving json io m_socket transferId, true)
    else
      ((t.setState .Failed).emit
        (.transferFailed transferId "Failed to open temporary download file"), false)

/-- `FileTransferController::rejectTransfer`. -/
def rejectTransfer (io : Io) (m_socket : Bool) (transferId reason : String) (t : Turn) : Turn :=
  t.setState .Rejected
    |>.sendFrame m_socket (jsonFrame json .FileReject (FileReject.toJson ⟨transferId, reason⟩))
    |>.emit (.transferRejected transferId reason)
    |>.cleanupSession io true

/-- `FileTransferController::cancelTransfer`. -/
def cancelTransfer (io : Io) (m_socket : Bool) (transferId reason : String) (t : Turn) : Turn :=
  t.setState .Cancelled
    |>.sendFrame m_socket (jsonFrame json .FileCancel (FileCancel.toJson ⟨transferId, reason⟩))
    |>.emit (.transferCancelled transferId reason)
    |>.cleanupSession io true

/-- The end of the stream in `sendNextChunk`. -/
def sendComplete (m_socket : Bool) (transferId : String) (t : Turn) : Turn :=
  (t.closeHandle.setState .Verifying).sendFrame m_socket (jsonFrame json .FileComplete
      (FileComplete.toJson ⟨transferId, t.session.expectedSha256, "verified"⟩))
    |>.setState .Completed
    |>.emit (.transferCompleted transferId t.session.sourceFilePath)

/-- One chunk in `sendNextChunk`, and the timer for the next one. -/
def sendChunk (m_socket : Bool) (transferId : String) (chunkData : Bytes) (t : Turn) : Turn :=
  let t := t.sendFrame m_socket
    ⟨.FileChunk, FileChunk.encode transferId t.session.currentChunkIndex chunkData⟩
  let t := (t.advanceHandle chunkData.length).countChunk chunkData.length
  (t.emit (.transferProgress transferId t.session.transferredBytes t.session.fileSize)).schedule
    transferId

/-- `FileTransferController::sendNextChunk`. -/
def sendNextChunk (io : Io) (m_socket : Bool) (transferId : String) (t : Turn) : Turn :=
  if t.session.state ≠ .Transferring ∨ ¬ t.handleOpen then t
  else if t.handleAtEnd ∨ t.session.transferredBytes ≥ t.session.fileSize then
    t.sendComplete json m_socket transferId
  else if t.readData io = [] ∧ t.session.fileSize > 0 then
    (t.setState .Failed).emit (.transferFailed transferId "Error reading chunk from source file")
  else t.sendChunk m_socket transferId (t.readData io)

/-- `FileTransferController::handleInboundFileAccept`. -/
def handleInboundFileAccept (io : Io) (m_socket : Bool) (transferId : String) (t : Turn) : Turn :=
  if t.session.direction ≠ .Outgoing ∨ t.session.state ≠ .Offering then t
  else
    let t := t.openSource io
    if t.handleOpen then
      ((t.setState .Transferring).resetCounters).sendNextChunk json io m_socket transferId
    else
      (t.setState .Failed).emit
        (.transferFailed transferId "Failed to open source file for reading")

/-- `FileTransferController::handleInboundFileReject`. -/
def handleInboundFileReject (io : Io) (transferId reason : String) (t : Turn) : Turn :=
  t.setState .Rejected
    |>.emit (.transferRejected transferId reason)
    |>.cleanupSession io true

/-- `FileTransferController::handleInboundFileChunk`. -/
def handleInboundFileChunk (io : Io) (transferId : String) (chunkIndex : UInt32)
    (chunkData : Bytes) (t : Turn) : Turn :=
  if t.session.state ≠ .Transferring ∨ t.session.direction ≠ .Incoming then t
  else if chunkIndex ≠ t.session.currentChunkIndex then
    t.setState .Failed
      |>.emit (.transferFailed transferId "Out-of-order chunk received")
      |>.cleanupSession io true
  else
    let t := ((t.writeData io chunkData).addData chunkData).countChunk chunkData.length
    t.emit (.transferProgress transferId t.session.transferredBytes t.session.fileSize)

/-- The end of a transfer that was received, with the hash found right. -/
def moveToFinal (io : Io) (transferId : String) (t : Turn) : Turn :=
  let t := t.removeIfExists io t.session.finalFilePath
  let ok := t.files.canRename t.session.tempFilePath t.session.finalFilePath io.renameOk
  let t := t.rename io t.session.tempFilePath t.session.finalFilePath
  if ok then
    (t.setState .Completed).emit (.transferCompleted transferId t.session.finalFilePath)
  else
    t.setState .Failed
      |>.emit (.transferFailed transferId "Failed to move temporary file to destination path")
      |>.cleanupSession io true

/-- `FileTransferController::handleInboundFileComplete`. -/
def handleInboundFileComplete (io : Io) (transferId : String) (t : Turn) : Turn :=
  if t.session.direction ≠ .Incoming ∨ t.session.state ≠ .Transferring then t
  else
    let t := (t.setState .Verifying).closeHandle
    if QString.equalCI (sha.hex t.session.cryptoHash) t.session.expectedSha256 then
      t.moveToFinal io transferId
    else
      t.setState .Failed
        |>.emit (.transferFailed transferId "SHA-256 checksum mismatch (corrupted file)")
        |>.cleanupSession io true

/-- `FileTransferController::handleInboundFileCancel`. -/
def handleInboundFileCancel (io : Io) (transferId reason : String) (t : Turn) : Turn :=
  t.setState .Cancelled
    |>.emit (.transferCancelled transferId reason)
    |>.cleanupSession io true

/-- The body of the loop in `onSocketDisconnected`. -/
def onSocketDisconnected (io : Io) (transferId : String) (t : Turn) : Turn :=
  if t.session.state = .Offering ∨ t.session.state = .Transferring then
    t.setState .Failed
      |>.emit (.transferFailed transferId "Peer disconnected during file transfer")
      |>.cleanupSession io true
  else t

end Turn

/-! ### The controller -/

/-- `FileTransferController`, with the file system it works on and its pending
zero-delay timers. `nextObject` numbers the session objects. -/
structure FileTransferController where
  m_socket : Bool := true
  m_sessions : QMap String FileTransferSession := ∅
  files : FileSystem
  timers : List String := []
  nextObject : ℕ := 0

namespace FileTransferController

/-- A controller that was just constructed. -/
def init (m_socket : Bool) (files : FileSystem) : FileTransferController := { m_socket, files }

/-- Run a handler on the session of an id; `absent` is returned without one. -/
def withSession {α : Type} (c : FileTransferController) (transferId : String) (absent : α)
    (f : Turn → Turn × α) : FileTransferController × List Effect × α :=
  match c.m_sessions.value? transferId with
  | none => (c, [], absent)
  | some session =>
      let (t, r) := f { session, files := c.files }
      ({ c with
          m_sessions := c.m_sessions.insert transferId t.session
          files := t.files
          timers := c.timers ++ t.timers }, t.deeds.map (Effect.mk session.objectId), r)

/-- Run a handler that returns nothing. -/
def onSession (c : FileTransferController) (transferId : String) (f : Turn → Turn) :
    FileTransferController × List Effect :=
  let r := c.withSession transferId () fun t => (f t, ())
  (r.1, r.2.1)

/-- `calculateFileSha256`; the file may turn out unreadable. -/
def calculateFileSha256 (io : Io) (content : Bytes) : String :=
  if io.hashOk then sha.hex content else ""

/-- The session that `sendFile` creates. -/
def outgoingSession (objectId : ℕ) (tid filePath sha256 : String) (size : ℤ) :
    FileTransferSession where
  objectId
  transferId := tid
  fileName := sanitizeFileName (QString.fileName filePath)
  fileSize := size
  expectedSha256 := sha256
  chunkSize := DEFAULT_FILE_CHUNK_SIZE
  -- static_cast<int>
  totalChunks :=
    if size = 0 then 0
    else ((size + DEFAULT_FILE_CHUNK_SIZE - 1) / DEFAULT_FILE_CHUNK_SIZE).bmod (2 ^ 32)
  direction := .Outgoing
  state := .Offering
  sourceFilePath := filePath

/-- The offer for a session. -/
def offerOf (s : FileTransferSession) : FileOffer where
  transferId := s.transferId
  fileName := s.fileName
  fileSize := s.fileSize
  sha256 := s.expectedSha256
  chunkSize := DEFAULT_FILE_CHUNK_SIZE
  totalChunks := s.totalChunks

/-- What `sendFile` does once the session is in the map: connect if need be,
send the offer, and tell. -/
def offerDeeds (io : Io) (m_socket : Bool) (peerVirtualIp : String) (s : FileTransferSession) :
    List Deed :=
  (if m_socket && peerVirtualIp ≠ "" && !io.socketConnected then [.connectToPeer peerVirtualIp]
    else []) ++
    (if m_socket then [.sendFrame (jsonFrame json .FileOffer (offerOf s).toJson)] else []) ++
    [.signal (.transferStarted s.transferId s.fileName s.fileSize .Outgoing)]

/-- `FileTransferController::sendFile`. -/
def sendFile (c : FileTransferController) (io : Io) (filePath peerVirtualIp : String) :
    FileTransferController × List Effect × String :=
  match c.files.contentAt filePath with
  | none => (c, [], "")
  | some content =>
      if ¬ io.fileReadable then (c, [], "")
      else
        let sha256 := calculateFileSha256 sha io content
        if sha256 = "" then (c, [], "")
        else
          let tid := generateTransferId io.uuid
          let session := outgoingSession c.nextObject tid filePath sha256 content.length
          ({ c with
              m_sessions := c.m_sessions.insert tid session
              nextObject := c.nextObject + 1 },
            (offerDeeds json io c.m_socket peerVirtualIp session).map (Effect.mk c.nextObject),
            tid)

/-- `FileTransferController::acceptTransfer`. -/
def acceptTransfer (c : FileTransferController) (io : Io) (transferId destinationDir : String) :
    FileTransferController × List Effect × Bool :=
  c.withSession transferId false (·.acceptTransfer json io c.m_socket transferId destinationDir)

/-- `FileTransferController::rejectTransfer`. -/
def rejectTransfer (c : FileTransferController) (io : Io) (transferId reason : String) :
    FileTransferController × List Effect × Bool :=
  c.withSession transferId false fun t =>
    (t.rejectTransfer json io c.m_socket transferId reason, true)

/-- `FileTransferController::cancelTransfer`. -/
def cancelTransfer (c : FileTransferController) (io : Io) (transferId reason : String) :
    FileTransferController × List Effect × Bool :=
  c.withSession transferId false fun t =>
    (t.cancelTransfer json io c.m_socket transferId reason, true)

/-- The session that `handleInboundFileOffer` creates. -/
def incomingSession (objectId : ℕ) (offer : FileOffer) : FileTransferSession where
  objectId
  transferId := offer.transferId
  fileName := sanitizeFileName offer.fileName
  fileSize := offer.fileSize
  expectedSha256 := offer.sha256
  chunkSize := if offer.chunkSize > 0 then offer.chunkSize else DEFAULT_FILE_CHUNK_SIZE
  totalChunks := offer.totalChunks
  direction := .Incoming
  state := .Offering

/-- `m_sessions.insert` for an inbound offer, which replaces a session that the
id has already. -/
def registerOffer (c : FileTransferController) (offer : FileOffer) :
    FileTransferController × List Effect :=
  ({ c with
      m_sessions := c.m_sessions.insert offer.transferId (incomingSession c.nextObject offer)
      nextObject := c.nextObject + 1 },
    [⟨c.nextObject, .signal (.fileOfferReceived offer)⟩])

/-- `FileTransferController::handleInboundFileOffer`. -/
def handleInboundFileOffer (c : FileTransferController) (payload : Bytes) :
    FileTransferController × List Effect :=
  match json.fromJson payload with
  | some (.object o) =>
      match FileOffer.fromJson o with
      | some offer => c.registerOffer offer
      | none => (c, [])
  | _ => (c, [])

/-- `FileTransferController::handleInboundFileAccept`. -/
def handleInboundFileAccept (c : FileTransferController) (io : Io) (payload : Bytes) :
    FileTransferController × List Effect :=
  match FileAccept.fromJson (JsonDocument.toObject (json.fromJson payload)) with
  | some acc =>
      c.onSession acc.transferId (·.handleInboundFileAccept json io c.m_socket acc.transferId)
  | none => (c, [])

/-- `FileTransferController::sendNextChunk`. -/
def sendNextChunk (c : FileTransferController) (io : Io) (transferId : String) :
    FileTransferController × List Effect :=
  c.onSession transferId (·.sendNextChunk json io c.m_socket transferId)

/-- `FileTransferController::handleInboundFileReject`. -/
def handleInboundFileReject (c : FileTransferController) (io : Io) (payload : Bytes) :
    FileTransferController × List Effect :=
  match FileReject.fromJson (JsonDocument.toObject (json.fromJson payload)) with
  | some rej =>
      c.onSession rej.transferId (·.handleInboundFileReject io rej.transferId rej.reason)
  | none => (c, [])

/-- `FileTransferController::handleInboundFileChunk`. -/
def handleInboundFileChunk (c : FileTransferController) (io : Io) (payload : Bytes) :
    FileTransferController × List Effect :=
  match FileChunk.decodePacket payload with
  | some chunk =>
      c.onSession chunk.transferId
        (·.handleInboundFileChunk io chunk.transferId chunk.chunkIndex chunk.chunkData)
  | none => (c, [])

/-- `FileTransferController::handleInboundFileComplete`. -/
def handleInboundFileComplete (c : FileTransferController) (io : Io) (payload : Bytes) :
    FileTransferController × List Effect :=
  match FileComplete.fromJson (JsonDocument.toObject (json.fromJson payload)) with
  | some comp =>
      c.onSession comp.transferId (·.handleInboundFileComplete sha io comp.transferId)
  | none => (c, [])

/-- `FileTransferController::handleInboundFileCancel`. -/
def handleInboundFileCancel (c : FileTransferController) (io : Io) (payload : Bytes) :
    FileTransferController × List Effect :=
  match FileCancel.fromJson (JsonDocument.toObject (json.fromJson payload)) with
  | some can =>
      c.onSession can.transferId (·.handleInboundFileCancel io can.transferId can.reason)
  | none => (c, [])

/-- `FileTransferController::onFrameReceivedFrom`; the address of the sender is
not used. -/
def onFrameReceivedFrom (c : FileTransferController) (io : Io) (frame : P2PFrame)
    (_senderIp : String) : FileTransferController × List Effect :=
  if frame.type = .FileOffer then c.handleInboundFileOffer json frame.payload
  else if frame.type = .FileAccept then c.handleInboundFileAccept json io frame.payload
  else if frame.type = .FileReject then c.handleInboundFileReject json io frame.payload
  else if frame.type = .FileChunk then c.handleInboundFileChunk io frame.payload
  else if frame.type = .FileComplete then c.handleInboundFileComplete json sha io frame.payload
  else if frame.type = .FileCancel then c.handleInboundFileCancel json io frame.payload
  else (c, [])

/-- The loop of `onSocketDisconnected` over a list of ids. -/
def disconnectAll (io : Io) : List String → FileTransferController →
    FileTransferController × List Effect
  | [], c => (c, [])
  | tid :: tids, c =>
      let (c', effects) := c.onSession tid (·.onSocketDisconnected io tid)
      let (c'', effects') := disconnectAll io tids c'
      (c'', effects ++ effects')

/-- `FileTransferController::onSocketDisconnected`. -/
def onSocketDisconnected (c : FileTransferController) (io : Io) :
    FileTransferController × List Effect :=
  disconnectAll io c.m_sessions.keys c

/-- `FileTransferController::onPeerDisconnected`. -/
def onPeerDisconnected (c : FileTransferController) (io : Io) (_peerIp : String) :
    FileTransferController × List Effect :=
  c.onSocketDisconnected io

/-- A zero-delay timer fires; it does so once. -/
def timeout (c : FileTransferController) (io : Io) (transferId : String) :
    FileTransferController × List Effect :=
  if transferId ∈ c.timers then
    sendNextChunk json { c with timers := c.timers.erase transferId } io transferId
  else (c, [])

/-! ### Queries -/

/-- `FileTransferController::getTransferState`. -/
def getTransferState (c : FileTransferController) (transferId : String) : Option TransferState :=
  (c.m_sessions.value? transferId).map (·.state)

/-! ### Runs -/

/-- What can happen to a controller. -/
inductive Event where
  | sendFile (filePath peerVirtualIp : String)
  | acceptTransfer (transferId destinationDir : String)
  | rejectTransfer (transferId reason : String)
  | cancelTransfer (transferId reason : String)
  | frameReceivedFrom (frame : P2PFrame) (senderIp : String)
  | peerDisconnected (peerIp : String)
  | disconnected
  | timeout (transferId : String)
  deriving DecidableEq, Repr

/-- The reaction to an event, under what the surroundings decide. -/
def step (c : FileTransferController) (event : Event) (io : Io) :
    FileTransferController × List Effect :=
  match event with
  | .sendFile filePath peerVirtualIp =>
      let r := c.sendFile json sha io filePath peerVirtualIp
      (r.1, r.2.1)
  | .acceptTransfer transferId destinationDir =>
      let r := c.acceptTransfer json io transferId destinationDir
      (r.1, r.2.1)
  | .rejectTransfer transferId reason =>
      let r := c.rejectTransfer json io transferId reason
      (r.1, r.2.1)
  | .cancelTransfer transferId reason =>
      let r := c.cancelTransfer json io transferId reason
      (r.1, r.2.1)
  | .frameReceivedFrom frame senderIp => c.onFrameReceivedFrom json sha io frame senderIp
  | .peerDisconnected peerIp => c.onPeerDisconnected io peerIp
  | .disconnected => c.onSocketDisconnected io
  | .timeout transferId => c.timeout json io transferId

/-- The controller as a machine. -/
def machine : Machine FileTransferController (Event × Io) Effect where
  step c e := c.step json sha e.1 e.2

lemma machine_step (c : FileTransferController) (e : Event × Io) :
    (machine json sha).step c e = c.step json sha e.1 e.2 := rfl

end FileTransferController

end MeckChat.Protocol
