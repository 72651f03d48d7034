import MeckChat.Protocol.FileMessages
import MeckChat.Protocol.Framing
import MeckChat.Qt.QFile

/-!
One file transfer and the primitive actions on it
(`FileTransferSession` in `file_transfer_controller.h`).

* `FileTransferSession` is the record of the source. The controller keeps its
  sessions behind shared pointers; `objectId` is the identity of the object,
  which survives in the log when the id of a transfer is used again.
* `Deed` is what a handler does that can be seen from outside: assignments to
  `state`, signals, frames, calls on files. An `Effect` is a deed with the
  object it was done for.
* `Io` collects what the surroundings decide during one event.
* `Turn` is what a handler works on: one session, the file system, and what it
  has scheduled and done so far. Its operations are the statements of the
  handlers.
-/

namespace MeckChat.Protocol

open Qt QJson

/-- `TransferState`. -/
inductive TransferState where
  | Idle
  | Offering
  | Accepted
  | Rejected
  | Transferring
  | Verifying
  | Completed
  | Failed
  | Cancelled
  deriving DecidableEq, Repr

/-- `TransferDirection`. -/
inductive TransferDirection where
  | Outgoing
  | Incoming
  deriving DecidableEq, Repr

/-- `FileTransferSession`. The hash object is the bytes it was fed. -/
structure FileTransferSession where
  objectId : ℕ
  transferId : String
  fileName : String
  fileSize : ℤ
  expectedSha256 : String
  chunkSize : ℤ
  totalChunks : ℤ
  direction : TransferDirection
  state : TransferState
  transferredBytes : ℤ := 0
  currentChunkIndex : UInt32 := 0
  sourceFilePath : String := ""
  tempFilePath : String := ""
  finalFilePath : String := ""
  fileHandle : Option QFile := none
  cryptoHash : Bytes := []
  deriving DecidableEq, Repr

/-- The signals of the controller. -/
inductive Signal where
  | fileOfferReceived (offer : FileOffer)
  | transferStarted (transferId fileName : String) (fileSize : ℤ) (direction : TransferDirection)
  | transferProgress (transferId : String) (transferredBytes totalBytes : ℤ)
  | transferCompleted (transferId filePath : String)
  | transferFailed (transferId errorString : String)
  | transferRejected (transferId reason : String)
  | transferCancelled (transferId reason : String)
  deriving DecidableEq, Repr

/-- The calls that touch the file system. -/
inductive FileOp where
  | mkpath (dir : String)
  | create (path : String)
  | write (path : String)
  | remove (path : String)
  | rename (source target : String)
  deriving DecidableEq, Repr

/-- What a handler does for its session. `passedCheck` marks that
`acceptTransfer` got past its check of the state. -/
inductive Deed where
  | state (new : TransferState)
  | signal (signal : Signal)
  | sendFrame (frame : P2PFrame)
  | file (op : FileOp)
  | passedCheck
  | connectToPeer (virtualIp : String)
  deriving DecidableEq, Repr

/-- A deed and the session object it was done for. -/
structure Effect where
  objectId : ℕ
  deed : Deed
  deriving DecidableEq, Repr

/-- What the surroundings decide during one event: the outcomes of the calls on
files, the directories of the platform, the state of the socket and the next
UUID. -/
structure Io where
  openOk : Bool := true
  writeLimit : Option ℕ := none
  readLimit : ℕ := 65536
  removeOk : String → Bool := fun _ => true
  renameOk : Bool := true
  dirExists : Bool := true
  downloadLocation : String := ""
  currentPath : String := "."
  fileReadable : Bool := true
  hashOk : Bool := true
  socketConnected : Bool := true
  uuid : String := ""

/-- `QDir(dir).path()`, which has lost a final slash. -/
def QDir.path (dir : String) : String :=
  if dir = "" then "."
  else if 1 < dir.toList.length ∧ dir.toList.getLast? = some '/' then
    String.ofList dir.toList.dropLast
  else dir

/-- `QDir::isAbsolutePath`; a path that starts with a colon denotes a resource
and is absolute. -/
def QDir.isAbsolutePath (path : String) : Bool :=
  path.toList.head? = some '/' || path.toList.head? = some ':'

/-- What `QDir(dir)` puts in front of a relative file name. -/
def QDir.withSlash (dir : String) : String :=
  if (QDir.path dir).toList.getLast? = some '/' then QDir.path dir else QDir.path dir ++ "/"

/-- `QDir(dir).filePath(fileName)`. -/
def QDir.filePath (dir fileName : String) : String :=
  if QDir.isAbsolutePath fileName then fileName else QDir.withSlash dir ++ fileName

/-- One session in its surroundings, while a handler works on it. -/
structure Turn where
  session : FileTransferSession
  files : FileSystem
  timers : List String := []
  deeds : List Deed := []

namespace Turn

/-- Append to the log. -/
def log (t : Turn) (d : Deed) : Turn := { t with deeds := t.deeds ++ [d] }

/-- `emit`. -/
def emit (t : Turn) (s : Signal) : Turn := t.log (.signal s)

/-- `session->state = new`. -/
def setState (t : Turn) (new : TransferState) : Turn :=
  { t with session.state := new, deeds := t.deeds ++ [.state new] }

/-- `if (m_socket) m_socket->sendFrame(frame)`. -/
def sendFrame (m_socket : Bool) (t : Turn) (frame : P2PFrame) : Turn :=
  { t with deeds := if m_socket then t.deeds ++ [.sendFrame frame] else t.deeds }

/-- Whether there is a handle and it is open. -/
def handleOpen (t : Turn) : Bool := t.session.fileHandle.any (·.isOpen)

/-- `session->fileHandle->atEnd()`. -/
def handleAtEnd (t : Turn) : Bool := t.session.fileHandle.any (·.atEnd t.files)

/-- `session->fileHandle->close()`, if there is a handle. -/
def closeHandle (t : Turn) : Turn :=
  { t with session.fileHandle := t.session.fileHandle.map QFile.close }

/-- The files after `if (QFile::exists(path)) QFile::remove(path)`. -/
def cleared (io : Io) (files : FileSystem) (path : String) : FileSystem :=
  if files.exists? path then files.remove path (io.removeOk path) else files

/-- `if (QFile::exists(path)) QFile::remove(path)`. -/
def removeIfExists (io : Io) (t : Turn) (path : String) : Turn :=
  { t with
    files := if t.files.exists? path then t.files.remove path (io.removeOk path) else t.files
    deeds := if t.files.exists? path then t.deeds ++ [.file (.remove path)] else t.deeds }

/-- `QFile::rename(source, target)`, the outcome of which is
`FileSystem.canRename`. -/
def rename (io : Io) (t : Turn) (source target : String) : Turn :=
  { t with
    files := t.files.rename source target io.renameOk
    deeds := t.deeds ++ [.file (.rename source target)] }

/-- The fresh handle on the temporary file and its `open` for writing. -/
def openTemp (io : Io) (t : Turn) : Turn :=
  let path := t.session.tempFilePath
  { t with
    session.fileHandle := some (QFile.openWrite t.files path io.openOk)
    files := if io.openOk then t.files.openTruncate path else t.files
    deeds := if io.openOk then t.deeds ++ [.file (.create path)] else t.deeds }

/-- The fresh handle on the source file and its `open` for reading. -/
def openSource (io : Io) (t : Turn) : Turn :=
  { t with
    session.fileHandle := some (QFile.openRead t.files t.session.sourceFilePath io.openOk) }

/-- The bytes that `session->fileHandle->read(session->chunkSize)` returns. -/
def readData (io : Io) (t : Turn) : Bytes :=
  match t.session.fileHandle with
  | some h => h.read t.files t.session.chunkSize.toNat io.readLimit
  | none => []

/-- The handle moved over the bytes that were read. -/
def advanceHandle (t : Turn) (n : ℕ) : Turn :=
  { t with session.fileHandle := t.session.fileHandle.map (·.advance n) }

/-- `if (fileHandle && fileHandle->isOpen()) fileHandle->write(chunkData)`. -/
def writeData (io : Io) (t : Turn) (chunkData : Bytes) : Turn :=
  match t.session.fileHandle with
  | some h =>
      if h.isOpen && h.mode = .WriteOnly then
        let data := QFile.written chunkData io.writeLimit
        { t with
          session.fileHandle := some (h.advance data.length)
          files := t.files.writeAt h.inode h.pos data
          deeds := t.deeds ++ [.file (.write t.session.tempFilePath)] }
      else t
  | none => t

/-- `transferredBytes += n; currentChunkIndex++`. -/
def countChunk (t : Turn) (n : ℕ) : Turn :=
  { t with
    session.transferredBytes := t.session.transferredBytes + n
    session.currentChunkIndex := t.session.currentChunkIndex + 1 }

/-- `transferredBytes = 0; currentChunkIndex = 0`. -/
def resetCounters (t : Turn) : Turn :=
  { t with session.transferredBytes := 0, session.currentChunkIndex := 0 }

/-- `session->cryptoHash.reset()`. -/
def resetHash (t : Turn) : Turn := { t with session.cryptoHash := [] }

/-- `session->cryptoHash.addData(chunkData)`. -/
def addData (t : Turn) (chunkData : Bytes) : Turn :=
  { t with session.cryptoHash := t.session.cryptoHash ++ chunkData }

/-- `QTimer::singleShot(0, …)` for the next chunk. -/
def schedule (t : Turn) (transferId : String) : Turn :=
  { t with timers := t.timers ++ [transferId] }

/-- `FileTransferController::cleanupSession`. -/
def cleanupSession (io : Io) (t : Turn) (removeTempFile : Bool) : Turn :=
  if removeTempFile && t.session.tempFilePath ≠ "" then
    t.closeHandle.removeIfExists io t.session.tempFilePath
  else t.closeHandle

/-! ### What an operation does to each part of the turn -/

section Parts

variable (io : Io) (t : Turn)

@[simp] lemma session_log (d : Deed) : (t.log d).session = t.session := rfl
@[simp] lemma session_emit (s : Signal) : (t.emit s).session = t.session := rfl
@[simp] lemma session_setState (new : TransferState) :
    (t.setState new).session = { t.session with state := new } := rfl
@[simp] lemma session_sendFrame (b : Bool) (f : P2PFrame) :
    (t.sendFrame b f).session = t.session := rfl
@[simp] lemma session_closeHandle :
    t.closeHandle.session = { t.session with fileHandle := t.session.fileHandle.map QFile.close } :=
  rfl
@[simp] lemma session_removeIfExists (path : String) :
    (t.removeIfExists io path).session = t.session := rfl
@[simp] lemma session_rename (a b : String) : (t.rename io a b).session = t.session := rfl
@[simp] lemma session_openTemp :
    (t.openTemp io).session =
      { t.session with
        fileHandle := some (QFile.openWrite t.files t.session.tempFilePath io.openOk) } := rfl
@[simp] lemma session_openSource :
    (t.openSource io).session =
      { t.session with
        fileHandle := some (QFile.openRead t.files t.session.sourceFilePath io.openOk) } := rfl
@[simp] lemma session_countChunk (n : ℕ) :
    (t.countChunk n).session =
      { t.session with
        transferredBytes := t.session.transferredBytes + n
        currentChunkIndex := t.session.currentChunkIndex + 1 } := rfl
@[simp] lemma session_resetCounters :
    t.resetCounters.session = { t.session with transferredBytes := 0, currentChunkIndex := 0 } :=
  rfl
@[simp] lemma session_resetHash : t.resetHash.session = { t.session with cryptoHash := [] } := rfl
@[simp] lemma session_addData (bs : Bytes) :
    (t.addData bs).session = { t.session with cryptoHash := t.session.cryptoHash ++ bs } := rfl
@[simp] lemma session_schedule (tid : String) : (t.schedule tid).session = t.session := rfl
@[simp] lemma session_advanceHandle (n : ℕ) :
    (t.advanceHandle n).session =
      { t.session with fileHandle := t.session.fileHandle.map (·.advance n) } := rfl
@[simp] lemma session_cleanupSession (b : Bool) :
    (t.cleanupSession io b).session =
      { t.session with fileHandle := t.session.fileHandle.map QFile.close } := by
  unfold cleanupSession
  split_ifs <;> rfl

@[simp] lemma state_writeData (data : Bytes) :
    (t.writeData io data).session.state = t.session.state := by
  unfold writeData
  split
  · split_ifs <;> rfl
  · rfl

@[simp] lemma files_log (d : Deed) : (t.log d).files = t.files := rfl
@[simp] lemma files_emit (s : Signal) : (t.emit s).files = t.files := rfl
@[simp] lemma files_setState (new : TransferState) : (t.setState new).files = t.files := rfl
@[simp] lemma files_sendFrame (b : Bool) (f : P2PFrame) : (t.sendFrame b f).files = t.files := rfl
@[simp] lemma files_closeHandle : t.closeHandle.files = t.files := rfl
@[simp] lemma files_rename (a b : String) :
    (t.rename io a b).files = t.files.rename a b io.renameOk := rfl
@[simp] lemma files_openSource : (t.openSource io).files = t.files := rfl
@[simp] lemma files_countChunk (n : ℕ) : (t.countChunk n).files = t.files := rfl
@[simp] lemma files_resetCounters : t.resetCounters.files = t.files := rfl
@[simp] lemma files_resetHash : t.resetHash.files = t.files := rfl
@[simp] lemma files_addData (bs : Bytes) : (t.addData bs).files = t.files := rfl
@[simp] lemma files_schedule (tid : String) : (t.schedule tid).files = t.files := rfl
@[simp] lemma files_advanceHandle (n : ℕ) : (t.advanceHandle n).files = t.files := rfl

@[simp] lemma files_removeIfExists (path : String) :
    (t.removeIfExists io path).files = cleared io t.files path := rfl

@[simp] lemma files_cleanupSession (b : Bool) :
    (t.cleanupSession io b).files =
      bif b && t.session.tempFilePath ≠ "" then cleared io t.files t.session.tempFilePath
      else t.files := by
  unfold cleanupSession
  by_cases h : (b && decide (t.session.tempFilePath ≠ "")) = true
  · rw [if_pos h, h]
    rfl
  · rw [if_neg h, Bool.eq_false_of_not_eq_true h]
    rfl

lemma files_openTemp :
    (t.openTemp io).files =
      if io.openOk then t.files.openTruncate t.session.tempFilePath else t.files := rfl

lemma handleOpen_openTemp : (t.openTemp io).handleOpen = io.openOk := by
  cases h : io.openOk <;> simp [handleOpen, openTemp, QFile.openWrite, QFile.unopened, h]

@[simp] lemma timers_log (d : Deed) : (t.log d).timers = t.timers := rfl
@[simp] lemma timers_emit (s : Signal) : (t.emit s).timers = t.timers := rfl
@[simp] lemma timers_setState (new : TransferState) : (t.setState new).timers = t.timers := rfl
@[simp] lemma timers_sendFrame (b : Bool) (f : P2PFrame) : (t.sendFrame b f).timers = t.timers :=
  rfl
@[simp] lemma timers_closeHandle : t.closeHandle.timers = t.timers := rfl
@[simp] lemma timers_removeIfExists (path : String) :
    (t.removeIfExists io path).timers = t.timers := rfl
@[simp] lemma timers_rename (a b : String) : (t.rename io a b).timers = t.timers := rfl
@[simp] lemma timers_openTemp : (t.openTemp io).timers = t.timers := rfl
@[simp] lemma timers_openSource : (t.openSource io).timers = t.timers := rfl
@[simp] lemma timers_countChunk (n : ℕ) : (t.countChunk n).timers = t.timers := rfl
@[simp] lemma timers_resetCounters : t.resetCounters.timers = t.timers := rfl
@[simp] lemma timers_resetHash : t.resetHash.timers = t.timers := rfl
@[simp] lemma timers_addData (bs : Bytes) : (t.addData bs).timers = t.timers := rfl
@[simp] lemma timers_schedule (tid : String) : (t.schedule tid).timers = t.timers ++ [tid] := rfl
@[simp] lemma timers_advanceHandle (n : ℕ) : (t.advanceHandle n).timers = t.timers := rfl
@[simp] lemma timers_cleanupSession (b : Bool) : (t.cleanupSession io b).timers = t.timers := by
  unfold cleanupSession
  split_ifs <;> rfl

@[simp] lemma deeds_closeHandle : t.closeHandle.deeds = t.deeds := rfl
@[simp] lemma deeds_openSource : (t.openSource io).deeds = t.deeds := rfl
@[simp] lemma deeds_countChunk (n : ℕ) : (t.countChunk n).deeds = t.deeds := rfl
@[simp] lemma deeds_resetCounters : t.resetCounters.deeds = t.deeds := rfl
@[simp] lemma deeds_resetHash : t.resetHash.deeds = t.deeds := rfl
@[simp] lemma deeds_addData (bs : Bytes) : (t.addData bs).deeds = t.deeds := rfl
@[simp] lemma deeds_schedule (tid : String) : (t.schedule tid).deeds = t.deeds := rfl
@[simp] lemma deeds_advanceHandle (n : ℕ) : (t.advanceHandle n).deeds = t.deeds := rfl

end Parts

/-! ### What an operation adds to the log

For every way `f` to read deeds, what `f` sees behind an operation. -/

section Log

variable {β : Type} (f : Deed → Option β) (io : Io) (t : Turn)

@[simp] lemma filterMap_log (d : Deed) :
    (t.log d).deeds.filterMap f = t.deeds.filterMap f ++ (f d).toList := by
  simp [log, List.filterMap_cons]
  cases f d <;> rfl

@[simp] lemma filterMap_emit (s : Signal) :
    (t.emit s).deeds.filterMap f = t.deeds.filterMap f ++ (f (.signal s)).toList :=
  filterMap_log f t _

@[simp] lemma filterMap_setState (new : TransferState) :
    (t.setState new).deeds.filterMap f = t.deeds.filterMap f ++ (f (.state new)).toList :=
  filterMap_log f t _

@[simp] lemma filterMap_sendFrame (b : Bool) (frame : P2PFrame) :
    (t.sendFrame b frame).deeds.filterMap f =
      t.deeds.filterMap f ++ bif b then (f (.sendFrame frame)).toList else [] := by
  cases b with
  | false => simp [sendFrame]
  | true => exact filterMap_log f t _

@[simp] lemma filterMap_removeIfExists (path : String) :
    (t.removeIfExists io path).deeds.filterMap f =
      t.deeds.filterMap f ++
        bif t.files.exists? path then (f (.file (.remove path))).toList else [] := by
  cases h : t.files.exists? path with
  | false => simp [removeIfExists, h]
  | true =>
      simp only [removeIfExists, h, if_true, cond_true]
      exact filterMap_log f t _

@[simp] lemma filterMap_rename (a b : String) :
    (t.rename io a b).deeds.filterMap f =
      t.deeds.filterMap f ++ (f (.file (.rename a b))).toList :=
  filterMap_log f t _

@[simp] lemma filterMap_openTemp :
    (t.openTemp io).deeds.filterMap f =
      t.deeds.filterMap f ++
        bif io.openOk then (f (.file (.create t.session.tempFilePath))).toList else [] := by
  cases h : io.openOk with
  | false => simp [openTemp, h]
  | true =>
      simp only [openTemp, h, if_true, cond_true]
      exact filterMap_log f t _

/-- Whether `writeData` gets to the file. -/
def canWrite : Bool := t.session.fileHandle.any fun h => h.isOpen && h.mode = .WriteOnly

@[simp] lemma filterMap_writeData (data : Bytes) :
    (t.writeData io data).deeds.filterMap f =
      t.deeds.filterMap f ++
        bif t.canWrite then (f (.file (.write t.session.tempFilePath))).toList else [] := by
  unfold writeData canWrite
  cases t.session.fileHandle with
  | none => simp
  | some h =>
      dsimp only
      rw [Option.any_some]
      cases h.isOpen && decide (h.mode = .WriteOnly) with
      | false => simp
      | true => exact filterMap_log f t _

@[simp] lemma filterMap_cleanupSession (b : Bool) :
    (t.cleanupSession io b).deeds.filterMap f =
      t.deeds.filterMap f ++
        bif b && t.session.tempFilePath ≠ "" && t.files.exists? t.session.tempFilePath then
          (f (.file (.remove t.session.tempFilePath))).toList
        else [] := by
  unfold cleanupSession
  by_cases hb : (b && decide (t.session.tempFilePath ≠ "")) = true
  · rw [if_pos hb, filterMap_removeIfExists, hb, Bool.true_and]
    rfl
  · rw [if_neg hb, Bool.eq_false_of_not_eq_true hb, Bool.false_and]
    simp

end Log

end Turn

end MeckChat.Protocol
