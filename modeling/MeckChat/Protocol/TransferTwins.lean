import MeckChat.Protocol.TransferSides

/-!
The same handler on two controllers that cannot be told apart.

* `TurnAlike P B t t'`: two turns that differ in the number of the session and in the file
  objects behind the handles only, which `B` pairs.
* The lemmas in the namespace `TurnAlike` say so of each operation, and `Request.run_alike` of
  the handlers.
-/

namespace MeckChat.Protocol

open Qt QJson FileTransferController

variable (json : JsonCodec) (sha : Sha256)

/-- Two handles that differ in the object behind them. -/
structure HandleAlike (B : ℕ → ℕ → Prop) (h h' : QFile) : Prop where
  isOpen : h'.isOpen = h.isOpen
  mode : h'.mode = h.mode
  pos : h'.pos = h.pos
  object : h.isOpen = true → B h.inode h'.inode

/-- A session but for its number and its handle. -/
def FileTransferSession.core (s : FileTransferSession) : FileTransferSession :=
  { s with objectId := 0, fileHandle := none }

/-- Two sessions that differ in number and in the object behind the handle. -/
structure SessionAlike (B : ℕ → ℕ → Prop) (s s' : FileTransferSession) : Prop where
  core : s'.core = s.core
  handle : Option.Rel (HandleAlike B) s.fileHandle s'.fileHandle

/-- Two turns that cannot be told apart through the paths in `P`. -/
structure TurnAlike (P : Set String) (B : ℕ → ℕ → Prop) (t t' : Turn) : Prop where
  session : SessionAlike B t.session t'.session
  files : FileSystem.Alike P B t.files t'.files
  timers : t'.timers = t.timers

variable {json sha}
variable {io : Io} {b : Bool} {tid : String} {t t' : Turn} {s s' : FileTransferSession}
  {P : Set String} {B B' : ℕ → ℕ → Prop}

lemma HandleAlike.mono {h h' : QFile} (ha : HandleAlike B h h') (hB : ∀ i i', B i i' → B' i i') :
    HandleAlike B' h h' :=
  ⟨ha.isOpen, ha.mode, ha.pos, fun hopen => hB _ _ (ha.object hopen)⟩

namespace SessionAlike

lemma mono (h : SessionAlike B s s') (hB : ∀ i i', B i i' → B' i i') : SessionAlike B' s s' := by
  refine ⟨h.core, ?_⟩
  have hhandle := h.handle
  generalize s.fileHandle = g at hhandle ⊢
  generalize s'.fileHandle = g' at hhandle ⊢
  cases hhandle with
  | none => exact .none
  | some ha => exact .some (ha.mono hB)

variable (ha : SessionAlike B s s')

include ha

lemma field {α : Type} (f : FileTransferSession → α) (hf : ∀ s, f s.core = f s) : f s' = f s := by
  rw [← hf s', ha.core, hf s]

lemma state : s'.state = s.state := ha.field (·.state) fun _ => rfl
lemma direction : s'.direction = s.direction := ha.field (·.direction) fun _ => rfl
lemma fileName : s'.fileName = s.fileName := ha.field (·.fileName) fun _ => rfl
lemma fileSize : s'.fileSize = s.fileSize := ha.field (·.fileSize) fun _ => rfl
lemma chunkSize : s'.chunkSize = s.chunkSize := ha.field (·.chunkSize) fun _ => rfl
lemma expectedSha256 : s'.expectedSha256 = s.expectedSha256 :=
  ha.field (·.expectedSha256) fun _ => rfl
lemma cryptoHash : s'.cryptoHash = s.cryptoHash := ha.field (·.cryptoHash) fun _ => rfl
lemma transferredBytes : s'.transferredBytes = s.transferredBytes :=
  ha.field (·.transferredBytes) fun _ => rfl
lemma currentChunkIndex : s'.currentChunkIndex = s.currentChunkIndex :=
  ha.field (·.currentChunkIndex) fun _ => rfl
lemma sourceFilePath : s'.sourceFilePath = s.sourceFilePath :=
  ha.field (·.sourceFilePath) fun _ => rfl
lemma tempFilePath : s'.tempFilePath = s.tempFilePath := ha.field (·.tempFilePath) fun _ => rfl
lemma finalFilePath : s'.finalFilePath = s.finalFilePath := ha.field (·.finalFilePath) fun _ => rfl

end SessionAlike

/-! ### One operation after the other -/

namespace TurnAlike

variable (ha : TurnAlike P B t t')

include ha

lemma log (d d' : Deed) : TurnAlike P B (t.log d) (t'.log d') := ⟨ha.session, ha.files, ha.timers⟩

lemma emit (x x' : Signal) : TurnAlike P B (t.emit x) (t'.emit x') := ha.log _ _

lemma sendFrame (b : Bool) (f f' : P2PFrame) :
    TurnAlike P B (t.sendFrame b f) (t'.sendFrame b f') := ⟨ha.session, ha.files, ha.timers⟩

lemma setState (new : TransferState) : TurnAlike P B (t.setState new) (t'.setState new) :=
  ⟨⟨congrArg (fun c : FileTransferSession => { c with state := new }) ha.session.core,
    ha.session.handle⟩, ha.files, ha.timers⟩

lemma resetCounters : TurnAlike P B t.resetCounters t'.resetCounters :=
  ⟨⟨congrArg (fun c : FileTransferSession =>
      { c with transferredBytes := 0, currentChunkIndex := 0 }) ha.session.core,
    ha.session.handle⟩, ha.files, ha.timers⟩

lemma resetHash : TurnAlike P B t.resetHash t'.resetHash :=
  ⟨⟨congrArg (fun c : FileTransferSession => { c with cryptoHash := [] }) ha.session.core,
    ha.session.handle⟩, ha.files, ha.timers⟩

lemma addData (bs : Bytes) : TurnAlike P B (t.addData bs) (t'.addData bs) :=
  ⟨⟨congrArg (fun c : FileTransferSession => { c with cryptoHash := c.cryptoHash ++ bs })
      ha.session.core, ha.session.handle⟩, ha.files, ha.timers⟩

lemma countChunk (n : ℕ) : TurnAlike P B (t.countChunk n) (t'.countChunk n) :=
  ⟨⟨congrArg (fun c : FileTransferSession =>
      { c with
        transferredBytes := c.transferredBytes + n
        currentChunkIndex := c.currentChunkIndex + 1 }) ha.session.core,
    ha.session.handle⟩, ha.files, ha.timers⟩

lemma schedule (tid : String) : TurnAlike P B (t.schedule tid) (t'.schedule tid) :=
  ⟨ha.session, ha.files, congrArg (· ++ [tid]) ha.timers⟩

/-- An operation on the handle that keeps the object. -/
lemma mapHandle {f : QFile → QFile} (hf : ∀ h h', HandleAlike B h h' → HandleAlike B (f h) (f h')) :
    Option.Rel (HandleAlike B) (t.session.fileHandle.map f) (t'.session.fileHandle.map f) := by
  have hhandle := ha.session.handle
  generalize t.session.fileHandle = g at hhandle ⊢
  generalize t'.session.fileHandle = g' at hhandle ⊢
  cases hhandle with
  | none => exact .none
  | some hg => exact .some (hf _ _ hg)

lemma closeHandle : TurnAlike P B t.closeHandle t'.closeHandle := by
  refine ⟨⟨ha.session.core, ha.mapHandle ?_⟩, ha.files, ha.timers⟩
  exact fun h h' hg => ⟨rfl, hg.mode, hg.pos, fun hopen => Bool.noConfusion hopen⟩

lemma advanceHandle (n : ℕ) : TurnAlike P B (t.advanceHandle n) (t'.advanceHandle n) := by
  refine ⟨⟨ha.session.core, ha.mapHandle ?_⟩, ha.files, ha.timers⟩
  exact fun h h' hg => ⟨hg.isOpen, hg.mode, congrArg (· + n) hg.pos, hg.object⟩

lemma handleOpen : t'.handleOpen = t.handleOpen := by
  have hhandle := ha.session.handle
  rw [Turn.handleOpen, Turn.handleOpen]
  generalize t.session.fileHandle = g at hhandle ⊢
  generalize t'.session.fileHandle = g' at hhandle ⊢
  cases hhandle with
  | none => rfl
  | some hg => exact hg.isOpen

lemma handleAtEnd : t'.handleAtEnd = t.handleAtEnd := by
  have hhandle := ha.session.handle
  rw [Turn.handleAtEnd, Turn.handleAtEnd]
  generalize t.session.fileHandle = g at hhandle ⊢
  generalize t'.session.fileHandle = g' at hhandle ⊢
  cases hhandle with
  | none => rfl
  | @some h h' hg =>
      rw [Option.any_some, Option.any_some, QFile.atEnd, QFile.atEnd, hg.isOpen, hg.pos]
      cases hopen : h.isOpen with
      | false => rfl
      | true => rw [ha.files.content (hg.object hopen)]

lemma readData (io : Io) : t'.readData io = t.readData io := by
  have hhandle := ha.session.handle
  rw [Turn.readData, Turn.readData, ha.session.chunkSize]
  generalize t.session.fileHandle = g at hhandle ⊢
  generalize t'.session.fileHandle = g' at hhandle ⊢
  cases hhandle with
  | none => rfl
  | @some h h' hg =>
      dsimp only
      rw [QFile.read, QFile.read, hg.isOpen, hg.mode, hg.pos]
      cases hopen : h.isOpen with
      | false => rfl
      | true => rw [ha.files.content (hg.object hopen)]

lemma writeData (io : Io) (data : Bytes) :
    TurnAlike P B (t.writeData io data) (t'.writeData io data) := by
  have hhandle := ha.session.handle
  rw [Turn.writeData, Turn.writeData]
  generalize hh : t.session.fileHandle = g at hhandle
  generalize hh' : t'.session.fileHandle = g' at hhandle
  cases hhandle with
  | none => exact ha
  | @some h h' hg =>
      dsimp only
      rw [hg.isOpen, hg.mode]
      split_ifs with hopen
      · rw [Bool.and_eq_true] at hopen
        have hpair := hg.object hopen.1
        refine ⟨⟨ha.session.core, .some ?_⟩, ?_, ha.timers⟩
        · exact ⟨hg.isOpen, hg.mode, congrArg (· + _) hg.pos, hg.object⟩
        · rw [hg.pos]
          exact ha.files.writeAt hpair _ _
      · exact ha

lemma removeIfExists (io : Io) {p : String} (hp : p ∈ P) :
    TurnAlike P B (t.removeIfExists io p) (t'.removeIfExists io p) := by
  refine ⟨ha.session, ?_, ha.timers⟩
  rw [Turn.files_removeIfExists, Turn.files_removeIfExists, Turn.cleared, Turn.cleared,
    ha.files.exists?_eq hp]
  split_ifs
  · exact ha.files.remove _ _
  · exact ha.files

lemma rename (io : Io) {a c : String} (hp : a ∈ P) (hq : c ∈ P) :
    TurnAlike P B (t.rename io a c) (t'.rename io a c) :=
  ⟨ha.session, ha.files.rename hp hq _, ha.timers⟩

lemma cleanupSession (io : Io) (hloc : Located P t.session) :
    TurnAlike P B (t.cleanupSession io true) (t'.cleanupSession io true) := by
  rw [Turn.cleanupSession, Turn.cleanupSession, ha.session.tempFilePath]
  split_ifs with htemp
  · rw [Bool.true_and, decide_eq_true_eq] at htemp
    exact ha.closeHandle.removeIfExists io (hloc.paths htemp).1
  · exact ha.closeHandle

lemma openSource (io : Io) (hsource : t.session.sourceFilePath ∈ P) :
    TurnAlike P B (t.openSource io) (t'.openSource io) := by
  refine ⟨⟨ha.session.core, .some ?_⟩, ha.files, ha.timers⟩
  rw [ha.session.sourceFilePath, QFile.openRead, QFile.openRead]
  have hdir := ha.files.dir _ hsource
  generalize t.files.dir t.session.sourceFilePath = file at hdir ⊢
  generalize t'.files.dir t.session.sourceFilePath = file' at hdir ⊢
  cases hdir with
  | none => exact ⟨rfl, rfl, rfl, fun hopen => Bool.noConfusion hopen⟩
  | some hpair =>
      dsimp only
      split_ifs
      · exact ⟨rfl, rfl, rfl, fun _ => hpair⟩
      · exact ⟨rfl, rfl, rfl, fun hopen => Bool.noConfusion hopen⟩

lemma preparePaths (io : Io) (tid dir : String) :
    TurnAlike P B (t.preparePaths io tid dir) (t'.preparePaths io tid dir) := by
  refine ⟨⟨?_, ha.session.handle⟩, ha.files, ha.timers⟩
  exact congrArg (fun c : FileTransferSession =>
    { c with
      finalFilePath := QDir.filePath dir c.fileName
      tempFilePath := QDir.filePath dir (".tmp_" ++ tid) }) ha.session.core

/-- Opening the temporary file may pair two more objects. -/
lemma openTemp (io : Io) (htemp : t.session.tempFilePath ∈ P) :
    ∃ B', (∀ i i', B i i' → B' i i') ∧
      (∀ i i', B' i i' → B i i' ∨ t.files.next ≤ i ∧ t'.files.next ≤ i') ∧
      TurnAlike P B' (t.openTemp io) (t'.openTemp io) := by
  cases hopen : io.openOk with
  | false =>
      refine ⟨B, fun _ _ hi => hi, fun _ _ hi => .inl hi, ⟨ha.session.core, ?_⟩, ?_, ha.timers⟩
      · rw [Turn.session_openTemp, Turn.session_openTemp, hopen]
        exact .some ⟨rfl, rfl, rfl, fun hisOpen => Bool.noConfusion hisOpen⟩
      · rw [Turn.files_openTemp, Turn.files_openTemp, hopen]
        exact ha.files
  | true =>
      refine ⟨FileSystem.WithOpened t.session.tempFilePath t.files t'.files B,
        fun _ _ hi => .inl hi, ?_, ⟨ha.session.core, ?_⟩, ?_, ha.timers⟩
      · rintro i i' (hi | ⟨rfl, rfl⟩)
        · exact .inl hi
        · rcases ha.files.opened htemp with hpair | ⟨hnew, hnew'⟩
          · exact .inl hpair
          · exact .inr ⟨hnew.ge, hnew'.ge⟩
      · rw [Turn.session_openTemp, Turn.session_openTemp, hopen, ha.session.tempFilePath]
        exact .some ⟨rfl, rfl, rfl, fun _ => .inr ⟨rfl, rfl⟩⟩
      · rw [Turn.files_openTemp, Turn.files_openTemp, hopen, ha.session.tempFilePath]
        exact ha.files.openTruncate htemp

/-! ### The handlers -/

lemma sendNextChunk (json : JsonCodec) (io : Io) (b : Bool) (tid : String) :
    TurnAlike P B (t.sendNextChunk json io b tid) (t'.sendNextChunk json io b tid) := by
  rw [Turn.sendNextChunk, Turn.sendNextChunk, ha.session.state, ha.handleOpen, ha.handleAtEnd,
    ha.session.transferredBytes, ha.session.fileSize, ha.readData]
  split_ifs
  · exact ha
  · exact (((ha.closeHandle.setState _).sendFrame _ _ _).setState _).emit _ _
  · exact (ha.setState _).emit _ _
  · exact ((((ha.sendFrame _ _ _).advanceHandle _).countChunk _).emit _ _).schedule _

lemma moveToFinal (io : Io) (tid : String) (hloc : Located P t.session)
    (htemp : t.session.tempFilePath ≠ "") :
    TurnAlike P B (t.moveToFinal io tid) (t'.moveToFinal io tid) := by
  obtain ⟨hsource, htarget⟩ := hloc.paths htemp
  have hremoved := ha.removeIfExists io htarget
  have hmoved := hremoved.rename io hsource htarget
  have hunfold : ∀ u : Turn, u.moveToFinal io tid =
      if (u.removeIfExists io u.session.finalFilePath).files.canRename u.session.tempFilePath
          u.session.finalFilePath io.renameOk = true then
        (((u.removeIfExists io u.session.finalFilePath).rename io u.session.tempFilePath
          u.session.finalFilePath).setState .Completed).emit
            (.transferCompleted tid u.session.finalFilePath)
      else
        ((((u.removeIfExists io u.session.finalFilePath).rename io u.session.tempFilePath
          u.session.finalFilePath).setState .Failed).emit
            (.transferFailed tid "Failed to move temporary file to destination path")).cleanupSession
              io true := fun _ => rfl
  rw [hunfold, hunfold, ha.session.tempFilePath, ha.session.finalFilePath,
    hremoved.files.canRename_eq hsource htarget]
  by_cases hcan : (t.removeIfExists io t.session.finalFilePath).files.canRename
      t.session.tempFilePath t.session.finalFilePath io.renameOk = true
  · rw [if_pos hcan, if_pos hcan]
    exact (hmoved.setState _).emit _ _
  · rw [if_neg hcan, if_neg hcan]
    have hfailed := (hmoved.setState .Failed).emit
      (.transferFailed tid "Failed to move temporary file to destination path")
      (.transferFailed tid "Failed to move temporary file to destination path")
    exact hfailed.cleanupSession io ⟨hloc.paths, fun hlive => by cases hlive.2⟩

lemma completeEmpty (io : Io) (tid : String) (hsource : t.session.tempFilePath ∈ P)
    (htarget : t.session.finalFilePath ∈ P) :
    TurnAlike P B (t.completeEmpty io tid) (t'.completeEmpty io tid) := by
  have hremoved := ha.closeHandle.removeIfExists io htarget
  have hmoved := hremoved.rename io hsource htarget
  simp only [Turn.completeEmpty, ha.session.tempFilePath, ha.session.finalFilePath]
  exact (hmoved.setState _).emit _ _

lemma startReceiving (json : JsonCodec) (io : Io) (b : Bool) (tid : String)
    (hsource : t.session.tempFilePath ∈ P) (htarget : t.session.finalFilePath ∈ P) :
    TurnAlike P B (t.startReceiving json io b tid) (t'.startReceiving json io b tid) := by
  have hstarted := ((((ha.resetHash.setState .Transferring).resetCounters).sendFrame b
    (jsonFrame json .FileAccept (FileAccept.toJson ⟨tid⟩))
    (jsonFrame json .FileAccept (FileAccept.toJson ⟨tid⟩))).emit
    (.transferStarted tid t.session.fileName t.session.fileSize .Incoming)
    (.transferStarted tid t'.session.fileName t'.session.fileSize .Incoming))
  have hsize := ha.session.fileSize
  rw [Turn.startReceiving, Turn.startReceiving]
  by_cases hempty : t.session.fileSize = 0
  · rw [if_pos (by simpa using hempty), if_pos (by simpa [hsize] using hempty)]
    exact hstarted.completeEmpty io tid hsource htarget
  · rw [if_neg (by simpa using hempty), if_neg (by simpa [hsize] using hempty)]
    exact hstarted

lemma handleInboundFileAccept (json : JsonCodec) (io : Io) (b : Bool) (tid : String)
    (hsource : t.session.direction = .Outgoing → t.session.sourceFilePath ∈ P) :
    TurnAlike P B (t.handleInboundFileAccept json io b tid)
      (t'.handleInboundFileAccept json io b tid) := by
  rw [Turn.handleInboundFileAccept, Turn.handleInboundFileAccept, ha.session.state,
    ha.session.direction]
  by_cases hoffer : t.session.direction = .Outgoing ∧ t.session.state = .Offering
  · have hopened := ha.openSource io (hsource hoffer.1)
    have hgoes : ¬ (t.session.direction ≠ .Outgoing ∨ t.session.state ≠ .Offering) := by tauto
    rw [if_neg hgoes, if_neg hgoes]
    dsimp only
    rw [hopened.handleOpen]
    split_ifs
    · exact ((hopened.setState .Transferring).resetCounters).sendNextChunk json io b tid
    · exact (hopened.setState _).emit _ _
  · have hstays : t.session.direction ≠ .Outgoing ∨ t.session.state ≠ .Offering := by tauto
    rw [if_pos hstays, if_pos hstays]
    exact ha

lemma handleInboundFileChunk (io : Io) (tid : String) (index : UInt32) (data : Bytes)
    (hloc : Located P t.session) :
    TurnAlike P B (t.handleInboundFileChunk io tid index data)
      (t'.handleInboundFileChunk io tid index data) := by
  rw [Turn.handleInboundFileChunk, Turn.handleInboundFileChunk, ha.session.state,
    ha.session.direction, ha.session.currentChunkIndex]
  split_ifs
  · exact ha
  · have hfailed := (ha.setState .Failed).emit (.transferFailed tid "Out-of-order chunk received")
      (.transferFailed tid "Out-of-order chunk received")
    exact hfailed.cleanupSession io ⟨hloc.paths, fun hlive => by cases hlive.2⟩
  · exact (((ha.writeData io data).addData data).countChunk _).emit _ _

lemma handleInboundFileComplete (sha : Sha256) (io : Io) (tid : String)
    (hloc : Located P t.session) :
    TurnAlike P B (t.handleInboundFileComplete sha io tid)
      (t'.handleInboundFileComplete sha io tid) := by
  rw [Turn.handleInboundFileComplete, Turn.handleInboundFileComplete, ha.session.state,
    ha.session.direction]
  by_cases hlive : t.session.direction = .Incoming ∧ t.session.state = .Transferring
  · have hclosed := (ha.setState .Verifying).closeHandle
    have hplaces : Located P ((t.setState .Verifying).closeHandle).session :=
      ⟨hloc.paths, fun h => by cases h.2⟩
    have hgoes : ¬ (t.session.direction ≠ .Incoming ∨ t.session.state ≠ .Transferring) := by tauto
    rw [if_neg hgoes, if_neg hgoes]
    dsimp only
    rw [hclosed.session.cryptoHash, hclosed.session.expectedSha256]
    split_ifs
    · exact hclosed.moveToFinal io tid hplaces (hloc.live hlive)
    · have hfailed := (hclosed.setState .Failed).emit
        (.transferFailed tid "SHA-256 checksum mismatch (corrupted file)")
        (.transferFailed tid "SHA-256 checksum mismatch (corrupted file)")
      exact hfailed.cleanupSession io ⟨hloc.paths, fun h => by cases h.2⟩
  · have hstays : t.session.direction ≠ .Incoming ∨ t.session.state ≠ .Transferring := by tauto
    rw [if_pos hstays, if_pos hstays]
    exact ha

/-- Accepting may pair two more objects. -/
lemma acceptTransfer (json : JsonCodec) (io : Io) (b : Bool) (tid dir : String)
    (hinto : t.session.state = .Offering → t.session.direction = .Incoming →
      tempPath io tid dir ∈ P ∧ finalPath io dir t.session ∈ P) :
    ∃ B', (∀ i i', B i i' → B' i i') ∧
      (∀ i i', B' i i' → B i i' ∨ t.files.next ≤ i ∧ t'.files.next ≤ i') ∧
      TurnAlike P B' (t.acceptTransfer json io b tid dir).1
        (t'.acceptTransfer json io b tid dir).1 := by
  by_cases hoffer : t.session.state = .Offering ∧ t.session.direction = .Incoming
  · obtain ⟨hsource, htarget⟩ := hinto hoffer.1 hoffer.2
    have hprepared := (ha.log .passedCheck .passedCheck).preparePaths io tid (Turn.targetDir io dir)
    obtain ⟨B', hle, hnew, hopened⟩ := hprepared.openTemp io hsource
    refine ⟨B', hle, hnew, ?_⟩
    have hgoes : ¬ (t.session.state ≠ .Offering ∨ t.session.direction ≠ .Incoming) := by tauto
    rw [Turn.acceptTransfer, Turn.acceptTransfer, ha.session.state, ha.session.direction,
      if_neg hgoes, if_neg hgoes]
    dsimp only
    rw [hopened.handleOpen]
    split_ifs
    · exact hopened.startReceiving json io b tid hsource htarget
    · exact (hopened.setState _).emit _ _
  · refine ⟨B, fun _ _ hi => hi, fun _ _ hi => .inl hi, ?_⟩
    rw [Turn.acceptTransfer_refused json io b tid dir (by tauto),
      Turn.acceptTransfer_refused json io b tid dir
        (by rw [ha.session.state, ha.session.direction]; tauto)]
    exact ha

/-- A closed session that is cleaned up. -/
lemma finish (io : Io) (new : TransferState) (hnew : new ≠ .Transferring) (x : Signal)
    (hloc : Located P t.session) :
    TurnAlike P B (((t.setState new).emit x).cleanupSession io true)
      (((t'.setState new).emit x).cleanupSession io true) :=
  ((ha.setState new).emit x x).cleanupSession io ⟨hloc.paths, fun hlive => absurd hlive.2 hnew⟩

end TurnAlike

variable (json sha io b tid) in
/-- **Step lemma for two runs.** A request on both sides leaves what cannot be told apart. -/
theorem Request.run_alike (r : Request) (ha : TurnAlike P B t t') (hloc : Located P t.session)
    (hsource : t.session.direction = .Outgoing → t.session.sourceFilePath ∈ P)
    (haccept : r.AcceptsIn P io tid t.session) :
    ∃ B', (∀ i i', B i i' → B' i i') ∧
      (∀ i i', B' i i' → B i i' ∨ t.files.next ≤ i ∧ t'.files.next ≤ i') ∧
      TurnAlike P B' (r.run json sha io b tid t) (r.run json sha io b tid t') := by
  have hsame : ∀ u u', TurnAlike P B u u' → ∃ B', (∀ i i', B i i' → B' i i') ∧
      (∀ i i', B' i i' → B i i' ∨ t.files.next ≤ i ∧ t'.files.next ≤ i') ∧
      TurnAlike P B' u u' :=
    fun _ _ hu => ⟨B, fun _ _ hi => hi, fun _ _ hi => .inl hi, hu⟩
  cases r with
  | acceptTransfer dir => exact ha.acceptTransfer json io b tid dir (haccept dir rfl)
  | rejectTransfer reason =>
      refine hsame _ _ ?_
      have hsent := (ha.setState .Rejected).sendFrame b
        (jsonFrame json .FileReject (FileReject.toJson ⟨tid, reason⟩))
        (jsonFrame json .FileReject (FileReject.toJson ⟨tid, reason⟩))
      exact (hsent.emit _ _).cleanupSession io ⟨hloc.paths, fun hlive => by cases hlive.2⟩
  | cancelTransfer reason =>
      refine hsame _ _ ?_
      have hsent := (ha.setState .Cancelled).sendFrame b
        (jsonFrame json .FileCancel (FileCancel.toJson ⟨tid, reason⟩))
        (jsonFrame json .FileCancel (FileCancel.toJson ⟨tid, reason⟩))
      exact (hsent.emit _ _).cleanupSession io ⟨hloc.paths, fun hlive => by cases hlive.2⟩
  | fileAccept => exact hsame _ _ (ha.handleInboundFileAccept json io b tid hsource)
  | fileReject reason => exact hsame _ _ (ha.finish io .Rejected (by decide) _ hloc)
  | fileChunk index data => exact hsame _ _ (ha.handleInboundFileChunk io tid index data hloc)
  | fileComplete => exact hsame _ _ (ha.handleInboundFileComplete sha io tid hloc)
  | fileCancel reason => exact hsame _ _ (ha.finish io .Cancelled (by decide) _ hloc)
  | sendNextChunk => exact hsame _ _ (ha.sendNextChunk json io b tid)
  | disconnected =>
      refine hsame _ _ ?_
      rw [run, run, Turn.onSocketDisconnected, Turn.onSocketDisconnected, ha.session.state]
      split_ifs
      · exact ha.finish io .Failed (by decide) _ hloc
      · exact ha

end MeckChat.Protocol
