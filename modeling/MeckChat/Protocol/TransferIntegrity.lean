import MeckChat.Protocol.TransferConsent

/-!
Integrity of what is received: a completed incoming transfer has left a file
whose SHA-256 is the one of the offer.

* A session is `Live` while it receives. `Receiving` ties its handle, the bytes
  hashed so far and the file that was opened for it together.
* `Request.run_frame` is the step lemma for the files of the other live
  sessions, `Request.run_receiving` the one for the own file.
* `Request.run_completed`: where the two are kept, a completion is backed by a
  file with the right hash.
* `SoundStep` is what has to be ruled out for this: a chunk written short, an
  empty file that is accepted unchecked, paths that get in the way of a transfer
  in progress, and a stale timer on an incoming transfer. `sound_run_integrity`
  shows that nothing else can go wrong; `empty_file_unchecked` is a run in which
  it does.
-/

namespace MeckChat.Protocol

open Qt QJson FileTransferController

variable (json : JsonCodec) (sha : Sha256)

/-! ### Live sessions and their files -/

/-- An incoming transfer that is in progress. -/
def FileTransferSession.Live (s : FileTransferSession) : Prop :=
  s.direction = .Incoming ∧ s.state = .Transferring

/-- The temporary path that `acceptTransfer` gives a session. -/
def tempPath (io : Io) (tid dir : String) : String :=
  QDir.filePath (Turn.targetDir io dir) (".tmp_" ++ tid)

/-- The final path that `acceptTransfer` gives a session. -/
def finalPath (io : Io) (dir : String) (s : FileTransferSession) : String :=
  QDir.filePath (Turn.targetDir io dir) s.fileName

/-- What a live session has received is what it has hashed, and it is in the
file that was opened under the temporary path. -/
structure Receiving (fs : FileSystem) (s : FileTransferSession) (h : QFile) : Prop where
  handle : s.fileHandle = some h
  isOpen : h.isOpen = true
  mode : h.mode = .WriteOnly
  owns : fs.Owns s.tempFilePath h.inode
  content : fs.content h.inode = s.cryptoHash
  pos : h.pos = s.cryptoHash.length

/-- A renaming that succeeds whatever file is at the target now. -/
structure Movable (io : Io) (fs : FileSystem) (source target : String) : Prop where
  ne : source ≠ target
  renameOk : io.renameOk = true
  removeOk : fs.exists? target = true → io.removeOk target = true

/-- What the surroundings must not do to a request: give it a wrong hash for an
empty file or fail to move it, write a chunk short, or run a stale timer on an
incoming transfer. -/
def Request.Sound (io : Io) (tid : String) (s : FileTransferSession) (fs : FileSystem) :
    Request → Prop
  | .acceptTransfer dir =>
      s.state = .Offering → s.direction = .Incoming → io.openOk = true → s.fileSize = 0 →
        QString.equalCI (sha.hex []) s.expectedSha256 = true ∧
          Movable io fs (tempPath io tid dir) (finalPath io dir s)
  | .fileChunk index data =>
      s.Live → index = s.currentChunkIndex → QFile.written data io.writeLimit = data
  | .sendNextChunk => ¬ s.Live
  | _ => True

/-- The files after the source was moved over the target. -/
def replaced (io : Io) (fs : FileSystem) (source target : String) : FileSystem :=
  (Turn.cleared io fs target).rename source target io.renameOk

section Handlers

variable {json sha}
variable {io : Io} {b : Bool} {tid dir path : String} {i : ℕ} {t : Turn}

/-! ### What accepting does -/

section Accept

variable (json io b tid dir)

lemma Turn.acceptTransfer_refused
    (h : t.session.state ≠ .Offering ∨ t.session.direction ≠ .Incoming) :
    t.acceptTransfer json io b tid dir = (t, false) := if_pos h

variable (h : t.session.state = .Offering ∧ t.session.direction = .Incoming)

include h

lemma Turn.acceptTransfer_failed (ho : io.openOk = false) :
    (t.acceptTransfer json io b tid dir).1.session.state = .Failed ∧
      (t.acceptTransfer json io b tid dir).1.files = t.files := by
  simp [acceptTransfer, h.1, h.2, handleOpen_openTemp, files_openTemp, ho]

lemma Turn.acceptTransfer_receiving (ho : io.openOk = true) (hsize : t.session.fileSize ≠ 0) :
    (t.acceptTransfer json io b tid dir).1.session =
        { t.session with
          state := .Transferring
          transferredBytes := 0
          currentChunkIndex := 0
          tempFilePath := tempPath io tid dir
          finalFilePath := finalPath io dir t.session
          fileHandle := some ⟨t.files.opened (tempPath io tid dir), .WriteOnly, 0, true⟩
          cryptoHash := [] } ∧
      (t.acceptTransfer json io b tid dir).1.files =
        t.files.openTruncate (tempPath io tid dir) := by
  simp [acceptTransfer, startReceiving, h.1, h.2, handleOpen_openTemp, files_openTemp, ho, hsize,
    QFile.openWrite, tempPath, finalPath]

lemma Turn.acceptTransfer_empty (ho : io.openOk = true) (hsize : t.session.fileSize = 0) :
    (t.acceptTransfer json io b tid dir).1.session =
        { t.session with
          state := .Completed
          transferredBytes := 0
          currentChunkIndex := 0
          tempFilePath := tempPath io tid dir
          finalFilePath := finalPath io dir t.session
          fileHandle := some ⟨t.files.opened (tempPath io tid dir), .WriteOnly, 0, false⟩
          cryptoHash := [] } ∧
      (t.acceptTransfer json io b tid dir).1.files =
        replaced io (t.files.openTruncate (tempPath io tid dir)) (tempPath io tid dir)
          (finalPath io dir t.session) := by
  simp [acceptTransfer, startReceiving, completeEmpty, h.1, h.2, handleOpen_openTemp, files_openTemp, ho, hsize,
    tempPath, finalPath, replaced, QFile.openWrite, QFile.close]

end Accept

/-! ### The files of the others -/

lemma frame_cleared (fs : FileSystem) (q : String) :
    FileSystem.Frame path i fs (Turn.cleared io fs q) := by
  unfold Turn.cleared
  split_ifs
  · exact FileSystem.frame_remove _ _ _
  · rfl

variable (io i) in
lemma frame_replaced {source target : String} (fs : FileSystem) (hs : source ≠ path)
    (ht : target ≠ path) : FileSystem.Frame path i fs (replaced io fs source target) :=
  (frame_cleared fs target).trans (FileSystem.frame_rename _ hs ht _)

lemma Turn.frame_cleanupSession {fs : FileSystem} (hfs : t.files = fs) (remove : Bool) :
    FileSystem.Frame path i fs (t.cleanupSession io remove).files := by
  rw [files_cleanupSession, hfs]
  cases remove && decide (t.session.tempFilePath ≠ "") with
  | false => exact .refl _ _ _
  | true => exact frame_cleared _ _

/-- Writing into its own file leaves the others alone. -/
lemma Turn.frame_writeData (hother : ∀ h ∈ t.session.fileHandle, i ≠ h.inode) (data : Bytes) :
    FileSystem.Frame path i t.files (t.writeData io data).files := by
  unfold Turn.writeData
  cases hfile : t.session.fileHandle with
  | none => rfl
  | some h =>
      dsimp only
      split_ifs
      · exact FileSystem.frame_writeAt _ (hother h hfile) _ _
      · rfl

/-- **Step lemma for other files.** A request leaves the object `i` of `path`
alone, if the paths and the handle of its own session are others. -/
theorem Request.run_frame (r : Request)
    (haccept : ∀ dir, r = .acceptTransfer dir → t.session.state = .Offering →
      t.session.direction = .Incoming →
        tempPath io tid dir ≠ path ∧ finalPath io dir t.session ≠ path)
    (hpaths : t.session.Live →
      t.session.tempFilePath ≠ path ∧ t.session.finalFilePath ≠ path)
    (hother : t.session.Live → ∀ h ∈ t.session.fileHandle, i ≠ h.inode) :
    FileSystem.Frame path i t.files (r.run json sha io b tid t).files := by
  cases r with
  | acceptTransfer dir =>
      rw [run]
      by_cases hcheck : t.session.state = .Offering ∧ t.session.direction = .Incoming
      · obtain ⟨htemp, hfinal⟩ := haccept dir rfl hcheck.1 hcheck.2
        cases ho : io.openOk with
        | false => rw [(Turn.acceptTransfer_failed json io b tid dir hcheck ho).2]
        | true =>
            have hopened := FileSystem.frame_openTruncate (i := i) t.files htemp
            by_cases hsize : t.session.fileSize = 0
            · rw [(Turn.acceptTransfer_empty json io b tid dir hcheck ho hsize).2]
              exact hopened.trans (frame_replaced io i _ htemp hfinal)
            · rw [(Turn.acceptTransfer_receiving json io b tid dir hcheck ho hsize).2]
              exact hopened
      · rw [Turn.acceptTransfer_refused json io b tid dir (by tauto)]
  | rejectTransfer reason =>
      rw [run, Turn.rejectTransfer]
      exact Turn.frame_cleanupSession (by simp) true
  | cancelTransfer reason =>
      rw [run, Turn.cancelTransfer]
      exact Turn.frame_cleanupSession (by simp) true
  | fileAccept =>
      simp only [run, Turn.handleInboundFileAccept, Turn.sendNextChunk, Turn.sendComplete,
        Turn.sendChunk]
      split_ifs <;> simp
  | fileReject reason =>
      rw [run, Turn.handleInboundFileReject]
      exact Turn.frame_cleanupSession (by simp) true
  | fileChunk index data =>
      simp only [run, Turn.handleInboundFileChunk]
      split_ifs with h1 h2
      · exact .refl _ _ _
      · exact Turn.frame_cleanupSession (by simp) true
      · rw [not_or, not_not, not_not] at h1
        simpa using Turn.frame_writeData (hother ⟨h1.2, h1.1⟩) data
  | fileComplete =>
      by_cases hlive : t.session.Live
      · obtain ⟨htemp, hfinal⟩ := hpaths hlive
        have hmoved := frame_replaced io i t.files htemp hfinal
        simp only [run, Turn.handleInboundFileComplete, Turn.moveToFinal]
        split_ifs
        · exact .refl _ _ _
        · simpa [replaced] using hmoved
        · exact hmoved.trans (Turn.frame_cleanupSession (by simp [replaced]) true)
        · exact Turn.frame_cleanupSession (by simp) true
      · have hskip : t.session.direction ≠ .Incoming ∨ t.session.state ≠ .Transferring := by
          unfold FileTransferSession.Live at hlive
          tauto
        simp only [run, Turn.handleInboundFileComplete, if_pos hskip]
        exact .refl _ _ _
  | fileCancel reason =>
      rw [run, Turn.handleInboundFileCancel]
      exact Turn.frame_cleanupSession (by simp) true
  | sendNextChunk =>
      simp only [run, Turn.sendNextChunk, Turn.sendComplete, Turn.sendChunk]
      split_ifs <;> simp
  | disconnected =>
      simp only [run, Turn.onSocketDisconnected]
      split_ifs
      · exact Turn.frame_cleanupSession (by simp) true
      · exact .refl _ _ _

/-! ### The own file -/

/-- A chunk that is written in full goes to the end of the file. -/
lemma Turn.writeData_receiving {h : QFile} (hrec : Receiving t.files t.session h) {data : Bytes}
    (hw : QFile.written data io.writeLimit = data) :
    (t.writeData io data).session =
        { t.session with fileHandle := some (h.advance data.length) } ∧
      (t.writeData io data).files = t.files.writeAt h.inode h.pos data := by
  simp [writeData, hrec.handle, hrec.isOpen, hrec.mode, hw]

/-- A live session that took a chunk goes on receiving into the same file. -/
lemma Receiving.chunk {fs : FileSystem} {s : FileTransferSession} {h : QFile}
    (hrec : Receiving fs s h) (data : Bytes) {s' : FileTransferSession}
    (hhandle : s'.fileHandle = some (h.advance data.length))
    (htemp : s'.tempFilePath = s.tempFilePath) (hhash : s'.cryptoHash = s.cryptoHash ++ data) :
    Receiving (fs.writeAt h.inode h.pos data) s' (h.advance data.length) where
  handle := hhandle
  isOpen := hrec.isOpen
  mode := hrec.mode
  owns := htemp ▸ ⟨hrec.owns.lt, fun hq => hrec.owns.only hq⟩
  content := by
    rw [QFile.advance, FileSystem.content_writeAt_self, hrec.content, hrec.pos,
      FileSystem.splice_length, hhash]
  pos := by rw [QFile.advance, hrec.pos, hhash, List.length_append]

/-- How a session comes to be live behind a request: it was so before, with the
same paths and the same file, or it was accepted. -/
inductive ComesLive (io : Io) (tid : String) (t : Turn) (r : Request) (s' : FileTransferSession)
    (h' : QFile) : Prop where
  | before {h : QFile} (live : t.session.Live) (handle : t.session.fileHandle = some h)
      (inode : h'.inode = h.inode) (temp : s'.tempFilePath = t.session.tempFilePath)
      (final : s'.finalFilePath = t.session.finalFilePath)
  | accepted {dir : String} (request : r = .acceptTransfer dir)
      (offered : t.session.state = .Offering ∧ t.session.direction = .Incoming)
      (inode : h'.inode = t.files.opened (tempPath io tid dir))
      (temp : s'.tempFilePath = tempPath io tid dir)
      (final : s'.finalFilePath = finalPath io dir t.session)

/-- **Step lemma for the own file.** A session that is live behind a sound
request is receiving. -/
theorem Request.run_receiving (r : Request)
    (hrec : t.session.Live → ∃ h, Receiving t.files t.session h)
    (hsound : r.Sound sha io tid t.session t.files)
    (hlive : (r.run json sha io b tid t).session.Live) :
    ∃ h', Receiving (r.run json sha io b tid t).files (r.run json sha io b tid t).session h' ∧
      ComesLive io tid t r (r.run json sha io b tid t).session h' := by
  -- a request that was refused
  have hsame : ∀ t', t' = t → t'.session.Live → ∃ h', Receiving t'.files t'.session h' ∧
      ComesLive io tid t r t'.session h' := by
    rintro t' rfl hlive
    obtain ⟨h, hh⟩ := hrec hlive
    exact ⟨h, hh, .before hlive hh.handle rfl rfl rfl⟩
  have hdir : t.session.direction = .Incoming :=
    (congrArg Terms.direction (r.run_terms json sha io b tid t)).symm.trans hlive.1
  have hstate := hlive.2
  cases r with
  | acceptTransfer dir =>
      rw [run] at hlive hstate ⊢
      by_cases hcheck : t.session.state = .Offering ∧ t.session.direction = .Incoming
      · cases ho : io.openOk with
        | false =>
            rw [(Turn.acceptTransfer_failed json io b tid dir hcheck ho).1] at hstate
            cases hstate
        | true =>
            by_cases hsize : t.session.fileSize = 0
            · rw [(Turn.acceptTransfer_empty json io b tid dir hcheck ho hsize).1] at hstate
              cases hstate
            · obtain ⟨hsession, hfiles⟩ :=
                Turn.acceptTransfer_receiving json io b tid dir hcheck ho hsize
              rw [hsession, hfiles]
              refine ⟨⟨t.files.opened (tempPath io tid dir), .WriteOnly, 0, true⟩,
                ⟨rfl, rfl, rfl, FileSystem.owns_openTruncate _ _,
                  FileSystem.content_openTruncate_opened _ _, rfl⟩,
                .accepted rfl hcheck rfl rfl rfl⟩
      · rw [Turn.acceptTransfer_refused json io b tid dir (by tauto)] at hlive ⊢
        exact hsame t rfl hlive
  | rejectTransfer reason => simp [run, Turn.rejectTransfer] at hstate
  | cancelTransfer reason => simp [run, Turn.cancelTransfer] at hstate
  | fileAccept => exact hsame _ (by simp [run, Turn.handleInboundFileAccept, hdir]) hlive
  | fileReject reason => simp [run, Turn.handleInboundFileReject] at hstate
  | fileChunk index data =>
      simp only [run, Turn.handleInboundFileChunk] at hlive hstate ⊢
      split_ifs at hlive hstate ⊢ with h1 h2
      · exact hsame t rfl hlive
      · simp at hstate
      · rw [not_or, not_not, not_not] at h1
        obtain ⟨h, hh⟩ := hrec ⟨h1.2, h1.1⟩
        have hw : QFile.written data io.writeLimit = data :=
          hsound ⟨h1.2, h1.1⟩ (not_not.mp h2)
        obtain ⟨hsession, hfiles⟩ := Turn.writeData_receiving hh hw
        refine ⟨h.advance data.length, ?_, .before ⟨h1.2, h1.1⟩ hh.handle rfl ?_ ?_⟩
        · simp only [Turn.files_emit, Turn.files_countChunk, Turn.files_addData, hfiles]
          exact hh.chunk data (by simp [hsession]) (by simp [hsession]) (by simp [hsession])
        · simp [hsession]
        · simp [hsession]
  | fileComplete =>
      simp only [run, Turn.handleInboundFileComplete, Turn.moveToFinal] at hlive hstate ⊢
      split_ifs at hlive hstate ⊢
      · exact hsame t rfl hlive
      · simp at hstate
      · simp at hstate
      · simp at hstate
  | fileCancel reason => simp [run, Turn.handleInboundFileCancel] at hstate
  | sendNextChunk =>
      have hidle : t.session.state ≠ .Transferring := fun h => hsound ⟨hdir, h⟩
      exact hsame _ (by simp [run, Turn.sendNextChunk, hidle]) hlive
  | disconnected =>
      simp only [run, Turn.onSocketDisconnected] at hlive hstate ⊢
      split_ifs at hlive hstate ⊢
      · simp at hstate
      · exact hsame t rfl hlive

/-! ### Completion -/

/-- The path that a deed reports as complete. -/
@[simp] def Deed.completed? : Deed → Option String
  | .signal (.transferCompleted _ path) => some path
  | _ => none

/-- The paths reported as complete, in order. -/
def completions (deeds : List Deed) : List String := deeds.filterMap Deed.completed?

lemma mem_completions {deeds : List Deed} {tid path : String}
    (h : .signal (.transferCompleted tid path) ∈ deeds) : path ∈ completions deeds :=
  List.mem_filterMap.mpr ⟨_, h, rfl⟩

lemma contentAt_cleared_of_ne {fs : FileSystem} {target q : String} (h : q ≠ target) :
    (Turn.cleared io fs target).contentAt q = fs.contentAt q := by
  unfold Turn.cleared
  split_ifs
  · rw [FileSystem.contentAt_remove, if_neg (fun hc => h hc.2)]
  · rfl

/-- A file that may be moved is moved. -/
lemma Movable.canRename {fs : FileSystem} {source target : String} (h : Movable io fs source target)
    {bs : Bytes} (hs : fs.contentAt source = some bs) :
    (Turn.cleared io fs target).canRename source target io.renameOk = true := by
  have htarget : (Turn.cleared io fs target).exists? target = false := by
    unfold Turn.cleared
    split_ifs with he
    · simp [FileSystem.exists?, FileSystem.remove, h.removeOk he]
    · simpa using he
  rw [FileSystem.canRename_eq_true]
  refine ⟨h.renameOk, FileSystem.exists?_eq_true.mpr ⟨bs, ?_⟩, htarget⟩
  rw [contentAt_cleared_of_ne h.ne, hs]

/-- A file that may be moved is found at the target. -/
lemma contentAt_replaced {fs : FileSystem} {source target : String} (h : Movable io fs source target)
    {bs : Bytes} (hs : fs.contentAt source = some bs) :
    (replaced io fs source target).contentAt target = some bs := by
  rw [replaced, FileSystem.contentAt_rename, if_pos (h.canRename hs), if_pos rfl,
    contentAt_cleared_of_ne h.ne, hs]

variable (io) in
/-- A renaming that succeeded has moved the object of the source. -/
lemma contentAt_moved {fs : FileSystem} {source target : String} (ho : fs.Owns source i)
    (hcan : (Turn.cleared io fs target).canRename source target io.renameOk = true) :
    (replaced io fs source target).contentAt target = some (fs.content i) := by
  obtain ⟨-, hsource, -⟩ := FileSystem.canRename_eq_true.mp hcan
  obtain ⟨bs, hbs⟩ := FileSystem.exists?_eq_true.mp hsource
  have hframe : FileSystem.Frame source i fs (Turn.cleared io fs target) := frame_cleared fs target
  rw [replaced, FileSystem.contentAt_rename, if_pos hcan, if_pos rfl, hbs,
    (hframe.owns ho).contentAt_eq hbs, hframe.content ho]

variable (json sha b) in
/-- **Step lemma for completion.** What a sound request reports as complete, for
an incoming session, is a file with the promised hash. -/
theorem Request.run_completed (r : Request) (hdir : t.session.direction = .Incoming)
    (hd : t.deeds = []) (hrec : t.session.Live → ∃ h, Receiving t.files t.session h)
    (hsound : r.Sound sha io tid t.session t.files)
    (h : path ∈ completions (r.run json sha io b tid t).deeds) :
    ∃ content, (r.run json sha io b tid t).files.contentAt path = some content ∧
      QString.equalCI (sha.hex content) t.session.expectedSha256 = true := by
  cases r with
  | acceptTransfer dir =>
      simp only [run, Turn.acceptTransfer, Turn.startReceiving, Turn.completeEmpty,
        Turn.handleOpen_openTemp] at h
      split_ifs at h with h1 h2 h3
      · simp [completions, hd] at h
      · rw [not_or, not_not, not_not] at h1
        have hsize : t.session.fileSize = 0 := by simpa using h3
        have hpath : path = finalPath io dir t.session := by
          simpa [completions, hd, finalPath] using h
        obtain ⟨hhash, hmove⟩ := hsound h1.1 h1.2 h2 hsize
        have hmove' : Movable io (t.files.openTruncate (tempPath io tid dir))
            (tempPath io tid dir) (finalPath io dir t.session) := by
          refine ⟨hmove.ne, hmove.renameOk, fun he => hmove.removeOk ?_⟩
          obtain ⟨bs, hbs⟩ := FileSystem.exists?_eq_true.mp he
          rw [FileSystem.contentAt_openTruncate, if_neg hmove.ne.symm] at hbs
          exact FileSystem.exists?_eq_true.mpr ⟨bs, hbs⟩
        refine ⟨[], ?_, hhash⟩
        rw [run, (Turn.acceptTransfer_empty json io b tid dir h1 h2 hsize).2, hpath]
        exact contentAt_replaced hmove' (by rw [FileSystem.contentAt_openTruncate, if_pos rfl])
      · simp [completions, hd] at h
      · simp [completions, hd] at h
  | rejectTransfer reason => simp [run, Turn.rejectTransfer, completions, hd] at h
  | cancelTransfer reason => simp [run, Turn.cancelTransfer, completions, hd] at h
  | fileAccept => simp [run, Turn.handleInboundFileAccept, hdir, completions, hd] at h
  | fileReject reason => simp [run, Turn.handleInboundFileReject, completions, hd] at h
  | fileChunk index data =>
      simp only [run, Turn.handleInboundFileChunk] at h
      split_ifs at h <;> simp [completions, hd] at h
  | fileComplete =>
      simp only [run, Turn.handleInboundFileComplete, Turn.moveToFinal] at h ⊢
      split_ifs at h ⊢ with h1 h2 h3
      · simp [completions, hd] at h
      · rw [not_or, not_not, not_not] at h1
        obtain ⟨handle, hh⟩ := hrec h1
        have hpath : path = t.session.finalFilePath := by
          simpa [completions, hd] using h
        refine ⟨t.session.cryptoHash, ?_, by simpa using h2⟩
        rw [hpath, ← hh.content]
        simpa [replaced] using contentAt_moved io hh.owns (by simpa using h3)
      · simp [completions, hd] at h
      · simp [completions, hd] at h
  | fileCancel reason => simp [run, Turn.handleInboundFileCancel, completions, hd] at h
  | sendNextChunk =>
      have hidle : t.session.state ≠ .Transferring := fun h => hsound ⟨hdir, h⟩
      simp [run, Turn.sendNextChunk, hidle, completions, hd] at h
  | disconnected =>
      simp only [run, Turn.onSocketDisconnected] at h
      split_ifs at h <;> simp [completions, hd] at h

end Handlers

/-! ### Runs -/

/-- The offer that a deed reports. -/
@[simp] def Deed.offer? : Deed → Option FileOffer
  | .signal (.fileOfferReceived offer) => some offer
  | _ => none

/-- The offers reported, in order. -/
def offers (deeds : List Deed) : List FileOffer := deeds.filterMap Deed.offer?

@[simp] lemma offers_append (ds ds' : List Deed) : offers (ds ++ ds') = offers ds ++ offers ds' :=
  List.filterMap_append

section Handlers

variable {json sha}
variable {io : Io} {b : Bool} {tid : String} {t : Turn}

/-- No request reports an offer. -/
lemma Request.run_offers (r : Request) (hd : t.deeds = []) :
    offers (r.run json sha io b tid t).deeds = [] := by
  cases r with
  | acceptTransfer dir =>
      simp only [run, Turn.acceptTransfer, Turn.startReceiving, Turn.completeEmpty]
      split_ifs <;> simp [offers, hd]
  | rejectTransfer reason => simp [run, Turn.rejectTransfer, offers, hd]
  | cancelTransfer reason => simp [run, Turn.cancelTransfer, offers, hd]
  | fileAccept =>
      simp only [run, Turn.handleInboundFileAccept, Turn.sendNextChunk, Turn.sendComplete,
        Turn.sendChunk]
      split_ifs <;> simp [offers, hd]
  | fileReject reason => simp [run, Turn.handleInboundFileReject, offers, hd]
  | fileChunk index data =>
      simp only [run, Turn.handleInboundFileChunk]
      split_ifs <;> simp [offers, hd]
  | fileComplete =>
      simp only [run, Turn.handleInboundFileComplete, Turn.moveToFinal]
      split_ifs <;> simp [offers, hd]
  | fileCancel reason => simp [run, Turn.handleInboundFileCancel, offers, hd]
  | sendNextChunk =>
      simp only [run, Turn.sendNextChunk, Turn.sendComplete, Turn.sendChunk]
      split_ifs <;> simp [offers, hd]
  | disconnected =>
      simp only [run, Turn.onSocketDisconnected]
      split_ifs <;> simp [offers, hd]

end Handlers

namespace FileTransferController

/-- No transfer in progress has its files where a new one is accepted to. -/
def ClearPaths (io : Io) (tid : String) (s : FileTransferSession) (r : Request)
    (c : FileTransferController) : Prop :=
  ∀ dir, r = .acceptTransfer dir → s.state = .Offering ∧ s.direction = .Incoming →
    ∀ tid' s', c.m_sessions.value? tid' = some s' → tid' ≠ tid → s'.Live →
      tempPath io tid dir ≠ s'.tempFilePath ∧ tempPath io tid dir ≠ s'.finalFilePath ∧
        finalPath io dir s ≠ s'.tempFilePath

/-- What has to be ruled out in a step: the request of the event is sound, no
stale timer fires for an incoming transfer in progress, and no transfer is
accepted whose paths get in the way of another one in progress. -/
structure SoundStep (c : FileTransferController) (e : Event × Io) : Prop where
  request {tid r s} : e.1.command json = .request tid r → c.m_sessions.value? tid = some s →
    r.Sound sha e.2 tid s c.files
  timeout {tid s} : e.1.command json = .timeout tid → tid ∈ c.timers →
    c.m_sessions.value? tid = some s → ¬ s.Live
  paths {tid r s} : e.1.command json = .request tid r → c.m_sessions.value? tid = some s →
    ClearPaths e.2 tid s r c

/-- Two sessions whose files do not get in each other's way. -/
structure Apart (s s' : FileTransferSession) (h h' : QFile) : Prop where
  temp : s.tempFilePath ≠ s'.tempFilePath
  final : s.finalFilePath ≠ s'.tempFilePath
  final' : s'.finalFilePath ≠ s.tempFilePath
  inode : h.inode ≠ h'.inode

lemma Apart.symm {s s' : FileTransferSession} {h h' : QFile} (ha : Apart s s' h h') :
    Apart s' s h' h := ⟨ha.temp.symm, ha.final', ha.final, ha.inode.symm⟩

/-- Live sessions are receiving, each into its own file. -/
structure Safe (c : FileTransferController) : Prop where
  receiving {tid s} : c.m_sessions.value? tid = some s → s.Live → ∃ h, Receiving c.files s h
  apart {tid tid' s s' h h'} : c.m_sessions.value? tid = some s →
    c.m_sessions.value? tid' = some s' → tid ≠ tid' → s.Live → s'.Live →
    s.fileHandle = some h → s'.fileHandle = some h' → Apart s s' h h'

/-- Incoming sessions go back to one offer each. -/
structure Promised (c : FileTransferController) (log : List Effect) : Prop where
  numbered : Numbered c log
  offered {tid s} : c.m_sessions.value? tid = some s → s.direction = .Incoming →
    ∃ offer, offers (deedsOf s.objectId log) = [offer] ∧ offer.sha256 = s.expectedSha256

variable {json sha}
variable {c : FileTransferController} {log : List Effect} {es : List (Event × Io)}
  {io : Io} {e : Event}

lemma Promised.onRequest (h : Promised c log) (tid : String) (r : Request) :
    Promised (c.onRequest json sha io tid r).1 (log ++ (c.onRequest json sha io tid r).2) := by
  have hnum := h.numbered.onRequest json sha io tid r
  unfold FileTransferController.onRequest at hnum ⊢
  cases hs : c.m_sessions.value? tid with
  | none =>
      rw [onSession_none hs]
      simpa using h
  | some s =>
      have hterms := r.run_terms json sha io c.m_socket tid
        { session := s, files := c.files }
      refine ⟨hnum, ?_⟩
      intro tid' s' hs' hdir
      by_cases htid : tid' = tid
      · subst htid
        rw [value?_onSession_self hs, Option.some.injEq] at hs'
        subst hs'
        have hid := congrArg Terms.objectId hterms
        have hdir₀ := (congrArg Terms.direction hterms).symm.trans hdir
        obtain ⟨offer, hoffers, hsha⟩ := h.offered hs hdir₀
        refine ⟨offer, ?_, hsha.trans (congrArg Terms.expectedSha256 hterms).symm⟩
        rw [show (Request.run json sha io c.m_socket tid' r
            { session := s, files := c.files }).session.objectId = s.objectId from hid,
          deedsOf_append, offers_append, deedsOf_onSession_self hs, hoffers,
          r.run_offers rfl, List.append_nil]
      · rw [value?_onSession_of_ne htid] at hs'
        have hne : s.objectId ≠ s'.objectId := fun heq => htid (h.numbered.inj hs' hs heq.symm)
        rw [deedsOf_append, deedsOf_onSession_of_ne hs hne, List.append_nil]
        exact h.offered hs' hdir

lemma Promised.register (h : Promised c log) {cmd : Command} {s : FileTransferSession}
    {deeds : List Deed} (hr : Registers json sha c io cmd s deeds) :
    Promised (c.register s deeds).1 (log ++ (c.register s deeds).2) := by
  refine ⟨h.numbered.register deeds hr.objectId_eq, ?_⟩
  intro tid s' hs' hdir
  rw [FileTransferController.register, QMap.value?_insert] at hs'
  rw [deedsOf_append, FileTransferController.register]
  split_ifs at hs'
  · rw [Option.some.injEq] at hs'
    subst hs'
    rw [hr.objectId_eq, h.numbered.fresh le_rfl, deedsOf_map_self, List.nil_append]
    cases hr with
    | outgoing => cases hdir
    | incoming offer => exact ⟨offer, rfl, rfl⟩
  · have hlt := h.numbered.lt hs'
    rw [deedsOf_map_of_ne (by omega), List.append_nil]
    exact h.offered hs' hdir

lemma Promised.step (h : Promised c log) :
    Promised (c.step json sha e io).1 (log ++ (c.step json sha e io).2) := by
  apply step_induction (I := Promised) _ h
  · intro s deeds hr
    exact h.register hr
  · intro tid s r _ _
    exact h.onRequest tid r
  · intro tid _ _
    exact Promised.onRequest (c := { c with timers := c.timers.erase tid })
      ⟨⟨h.numbered.key, h.numbered.lt, h.numbered.inj, h.numbered.fresh⟩, h.offered⟩ tid _
  · intro _ c' log tid hI
    exact hI.onRequest tid _

/-- A sound request keeps live sessions receiving. -/
lemma Safe.onRequest (h : Safe c) {tid : String} {r : Request}
    (hr : ∀ s, c.m_sessions.value? tid = some s →
      r.Sound sha io tid s c.files ∧ ClearPaths io tid s r c) :
    Safe (c.onRequest json sha io tid r).1 := by
  unfold FileTransferController.onRequest
  cases hs : c.m_sessions.value? tid with
  | none =>
      rw [onSession_none hs]
      exact h
  | some s =>
      obtain ⟨hsound, hclear⟩ := hr s hs
      set t : Turn := { session := s, files := c.files } with ht
      set t' := r.run json sha io c.m_socket tid t with ht'
      have hown : t'.session.Live →
          ∃ h', Receiving t'.files t'.session h' ∧ ComesLive io tid t r t'.session h' :=
        fun hlive => r.run_receiving (h.receiving hs) hsound hlive
      have hframe : ∀ {tid' s' h'}, c.m_sessions.value? tid' = some s' → tid' ≠ tid → s'.Live →
          Receiving c.files s' h' →
            FileSystem.Frame s'.tempFilePath h'.inode c.files t'.files := by
        intro tid' s' h' hs' hne hlive' hrec'
        apply r.run_frame (t := t)
        · intro dir hdir hstate hin
          obtain ⟨htemp, -, hfinal⟩ := hclear dir hdir ⟨hstate, hin⟩ tid' s' hs' hne hlive'
          exact ⟨htemp, hfinal⟩
        · intro hlive
          obtain ⟨h₀, hrec⟩ := h.receiving hs hlive
          have ha := h.apart hs hs' hne.symm hlive hlive' hrec.handle hrec'.handle
          exact ⟨ha.temp, ha.final⟩
        · intro hlive h₀ hh₀
          exact (h.apart hs hs' hne.symm hlive hlive' hh₀ hrec'.handle).inode.symm
      have hapart : ∀ {tid' s' h₁ h'}, c.m_sessions.value? tid' = some s' → tid' ≠ tid →
          t'.session.Live → s'.Live → t'.session.fileHandle = some h₁ →
            s'.fileHandle = some h' → Apart t'.session s' h₁ h' := by
        intro tid' s' h₁ h' hs' hne hlive hlive' hh₁ hh'
        obtain ⟨h₂, hrec, hcomes⟩ := hown hlive
        have heq : h₁ = h₂ := by
          rw [hrec.handle, Option.some.injEq] at hh₁
          exact hh₁.symm
        subst heq
        cases hcomes with
        | before live handle inode temp final =>
            have ha := h.apart hs hs' hne.symm live hlive' handle hh'
            exact ⟨temp ▸ ha.temp, final ▸ ha.final, temp ▸ ha.final', inode ▸ ha.inode⟩
        | accepted request offered inode temp final =>
            obtain ⟨h₀, hrec'⟩ := h.receiving hs' hlive'
            have hh₀ : h' = h₀ := by
              rw [hrec'.handle, Option.some.injEq] at hh'
              exact hh'.symm
            obtain ⟨hT, hT', hF⟩ := hclear _ request offered tid' s' hs' hne hlive'
            refine ⟨temp ▸ hT, final ▸ hF, temp ▸ hT'.symm, ?_⟩
            rw [inode, hh₀]
            exact (hrec'.owns.ne_opened hT).symm
      constructor
      · intro tid' s' hs' hlive
        by_cases htid : tid' = tid
        · subst htid
          rw [value?_onSession_self hs, Option.some.injEq] at hs'
          subst hs'
          obtain ⟨h', hrec, -⟩ := hown hlive
          rw [onSession_some hs]
          exact ⟨h', hrec⟩
        · rw [value?_onSession_of_ne htid] at hs'
          obtain ⟨h', hrec⟩ := h.receiving hs' hlive
          have hf := hframe hs' htid hlive hrec
          rw [onSession_some hs]
          exact ⟨h', hrec.handle, hrec.isOpen, hrec.mode, hf.owns hrec.owns,
            (hf.content hrec.owns).trans hrec.content, hrec.pos⟩
      · intro tid₁ tid₂ s₁ s₂ h₁ h₂ hs₁ hs₂ hne hlive₁ hlive₂ hh₁ hh₂
        by_cases htid₁ : tid₁ = tid
        · have htid₂ : tid₂ ≠ tid := fun h => hne (htid₁.trans h.symm)
          subst htid₁
          rw [value?_onSession_self hs, Option.some.injEq] at hs₁
          rw [value?_onSession_of_ne htid₂] at hs₂
          subst hs₁
          exact hapart hs₂ htid₂ hlive₁ hlive₂ hh₁ hh₂
        · rw [value?_onSession_of_ne htid₁] at hs₁
          by_cases htid₂ : tid₂ = tid
          · subst htid₂
            rw [value?_onSession_self hs, Option.some.injEq] at hs₂
            subst hs₂
            exact (hapart hs₁ htid₁ hlive₂ hlive₁ hh₂ hh₁).symm
          · rw [value?_onSession_of_ne htid₂] at hs₂
            exact h.apart hs₁ hs₂ hne hlive₁ hlive₂ hh₁ hh₂

lemma Safe.register (h : Safe c) {cmd : Command} {s : FileTransferSession} {deeds : List Deed}
    (hr : Registers json sha c io cmd s deeds) : Safe (c.register s deeds).1 := by
  have hidle : ¬ s.Live := by
    intro hlive
    rw [FileTransferSession.Live, hr.state_eq] at hlive
    cases hlive.2
  -- a live session was there before
  have hold : ∀ {tid s'}, (c.register s deeds).1.m_sessions.value? tid = some s' → s'.Live →
      c.m_sessions.value? tid = some s' := by
    intro tid s' hs' hlive
    rw [FileTransferController.register, QMap.value?_insert] at hs'
    split_ifs at hs'
    · rw [Option.some.injEq] at hs'
      exact absurd (hs' ▸ hlive) hidle
    · exact hs'
  constructor
  · intro tid s' hs' hlive
    exact h.receiving (hold hs' hlive) hlive
  · intro tid₁ tid₂ s₁ s₂ h₁ h₂ hs₁ hs₂ hne hlive₁ hlive₂ hh₁ hh₂
    exact h.apart (hold hs₁ hlive₁) (hold hs₂ hlive₂) hne hlive₁ hlive₂ hh₁ hh₂

/-- A sound step keeps live sessions receiving. -/
lemma Safe.step (h : Safe c) (he : SoundStep json sha c (e, io)) :
    Safe (c.step json sha e io).1 := by
  apply step_induction (I := fun c' _ => Safe c') [] h
  · intro s deeds hr
    exact h.register hr
  · intro tid s r hcmd hs
    exact h.onRequest fun s hs => ⟨he.request hcmd hs, he.paths hcmd hs⟩
  · intro tid hcmd htimer
    have h' : Safe { c with timers := c.timers.erase tid } := ⟨h.receiving, h.apart⟩
    exact h'.onRequest fun s hs => ⟨he.timeout hcmd htimer hs, fun dir hr => by cases hr⟩
  · intro _ c' _ tid hI
    exact hI.onRequest fun s hs => ⟨trivial, fun dir hr => by cases hr⟩

/-- Losing the connection completes nothing. -/
lemma completions_of_disconnectAll (tids : List String) (i : ℕ) (tid path : String) :
    ⟨i, .signal (.transferCompleted tid path)⟩ ∉ (disconnectAll io tids c).2 := by
  rw [← List.nil_append (disconnectAll io tids c).2]
  apply disconnectAll_induction
    (I := fun _ log => ⟨i, .signal (.transferCompleted tid path)⟩ ∉ log)
  · intro c' log tid' ih h
    rcases List.mem_append.mp h with h | h
    · exact ih h
    · obtain ⟨s, -, -, hmem⟩ := mem_onSession h
      have hpath := mem_completions hmem
      simp only [Turn.onSocketDisconnected] at hpath
      split_ifs at hpath <;> simp [completions] at hpath
  · simp

/-- A completion is reported by one request, of the event or of a timer. -/
lemma request_of_completed {i : ℕ} {tid path : String}
    (h : ⟨i, .signal (.transferCompleted tid path)⟩ ∈ (c.step json sha e io).2) :
    ∃ c₀ tid' r, c₀.m_sessions = c.m_sessions ∧ c₀.files = c.files ∧
      c.step json sha e io = onRequest json sha c₀ io tid' r ∧
      (e.command json = .request tid' r ∨
        r = .sendNextChunk ∧ e.command json = .timeout tid' ∧ tid' ∈ c.timers) := by
  have hregister : ∀ {cmd s deeds}, Registers json sha c io cmd s deeds →
      ⟨i, .signal (.transferCompleted tid path)⟩ ∉ (c.register s deeds).2 := by
    intro cmd s deeds hr hmem
    rw [register, List.mem_map] at hmem
    obtain ⟨d, hd, heq⟩ := hmem
    rw [Effect.mk.injEq] at heq
    rw [heq.2] at hd
    cases hr with
    | outgoing =>
        simp only [offerDeeds] at hd
        split_ifs at hd <;> simp at hd
    | incoming offer => simp at hd
  rw [step_eq_run] at h ⊢
  cases hcmd : e.command json with
  | sendFile filePath ip =>
      rw [hcmd, runCommand] at h
      rcases sendFile_cases json sha c io filePath ip with
        hnone | ⟨s, deeds, hr, heq⟩
      · rw [hnone] at h
        simp at h
      · rw [heq] at h
        exact absurd h (hregister hr)
  | offer offer =>
      rw [hcmd] at h
      exact absurd h (hregister (.incoming offer))
  | request tid' r => exact ⟨c, tid', r, rfl, rfl, rfl, .inl rfl⟩
  | timeout tid' =>
      rw [hcmd, runCommand] at h
      split_ifs at h with htimer
      · exact ⟨{ c with timers := c.timers.erase tid' }, tid', _, rfl, rfl,
          by rw [runCommand, if_pos htimer], .inr ⟨rfl, rfl, htimer⟩⟩
      · simp at h
  | disconnect =>
      rw [hcmd] at h
      exact absurd h (completions_of_disconnectAll _ i tid path)
  | nothing =>
      rw [hcmd] at h
      simp [runCommand] at h

/-- Completion is backed: whatever an allowed next step reports as complete for
an incoming session is there, with the hash of the offer that the session was
created from. -/
def Integrity (json : JsonCodec) (sha : Sha256)
    (allowed : FileTransferController → Event × Io → Prop) (log : List Effect)
    (c : FileTransferController) : Prop :=
  ∀ e io i tid path tid' s, allowed c (e, io) →
    ⟨i, .signal (.transferCompleted tid path)⟩ ∈ (c.step json sha e io).2 →
    c.m_sessions.value? tid' = some s → s.objectId = i → s.direction = .Incoming →
      ∃ offer content, offers (deedsOf i log) = [offer] ∧
        (c.step json sha e io).1.files.contentAt path = some content ∧
        QString.equalCI (sha.hex content) offer.sha256 = true

/-- **Integrity.** In a run of sound steps every completion is backed. -/
theorem sound_run_integrity {m_socket : Bool} {files : FileSystem}
    (hrun : Run (machine json sha) (SoundStep json sha) (init m_socket files) es log c) :
    Integrity json sha (SoundStep json sha) log c := by
  have hsafe : Safe c := by
    apply hrun.invariant (I := Safe)
    · constructor
      · intro tid s hs
        simp [init] at hs
      · intro tid tid' s s' h h' hs
        simp [init] at hs
    · intro c e h he
      exact h.step he
  have hpromised : Promised c log := by
    apply hrun.invariant_log (I := fun _ log c => Promised c log)
    · refine ⟨Numbered.init m_socket files, ?_⟩
      intro tid s hs
      simp [init] at hs
    · intro es log c e h _
      exact h.step
  intro e io i tid path tid' s he hmem hs hid hdir
  obtain ⟨offer, hoffers, hsha⟩ := hpromised.offered hs hdir
  obtain ⟨c₀, tid'', r, hsessions, hfiles, hstep, hcmd⟩ := request_of_completed hmem
  rw [hstep] at hmem ⊢
  obtain ⟨s₀, hs₀, hid₀, hdeed⟩ := mem_onSession hmem
  rw [hsessions] at hs₀
  -- the session of the completion is the one the request was for
  have htid : tid'' = tid' := hpromised.numbered.inj hs₀ hs (hid₀.symm.trans hid.symm)
  subst htid
  have hsame : s₀ = s := by
    rw [hs₀, Option.some.injEq] at hs
    exact hs
  subst hsame
  have hsound : r.Sound sha io tid'' s₀ c.files := by
    rcases hcmd with hcmd | ⟨rfl, hcmd, htimer⟩
    · exact he.request hcmd hs₀
    · exact he.timeout hcmd htimer hs₀
  obtain ⟨content, hcontent, hhash⟩ := Request.run_completed json sha
    c₀.m_socket (t := { session := s₀, files := c₀.files }) r hdir rfl
    (fun hlive => by rw [hfiles]; exact hsafe.receiving hs₀ hlive) (by rw [hfiles]; exact hsound)
    (mem_completions hdeed)
  refine ⟨offer, content, by rw [← hid]; exact hoffers, ?_, by rw [hsha]; exact hhash⟩
  rw [onRequest, onSession_some (by rw [hsessions]; exact hs₀)]
  exact hcontent

/-- An offer of an empty file, with a given hash. -/
def emptyOffer (hash : String) : FileOffer :=
  ⟨"ft_fedcba9876543", "b.txt", 0, hash, 65536, 0⟩

/-- The offer arrives. -/
def offerArrives (hash : String) : Event × Io :=
  (.frameReceivedFrom (jsonFrame compact .FileOffer (emptyOffer hash).toJson) "10.77.0.2", {})

lemma command_offerArrives {hash : String} (h : hash ≠ "") :
    (offerArrives hash).1.command compact = .offer (emptyOffer hash) := by
  have hname : sanitizeFileName (sanitizeFileName "b.txt") = "b.txt" := by decide +kernel
  have hread := readFrame_fileOffer compact (m := emptyOffer hash) (by simp [emptyOffer])
    le_rfl h (by simp [emptyOffer]) (by simp [emptyOffer])
  rw [offerArrives, Event.command, hread]
  simp [emptyOffer, hname]

lemma step_offerArrives {hash : String} (h : hash ≠ "") (c : FileTransferController) :
    (machine compact .sample).step c (offerArrives hash) = c.registerOffer (emptyOffer hash) := by
  rw [machine_step, step_eq_run, command_offerArrives h, runCommand]

/-- The offer is accepted. -/
def acceptOffer : Event × Io := (.acceptTransfer "ft_fedcba9876543" "/home/in", {})

theorem sound_run_integrity_empty_file :
    Integrity compact .sample (SoundStep compact .sample)
        ((machine compact .sample).step (init true .empty)
          (offerArrives (Sha256.sample.hex []))).2
        ((machine compact .sample).step (init true .empty)
          (offerArrives (Sha256.sample.hex []))).1 ∧
      SoundStep compact .sample
        ((machine compact .sample).step (init true .empty)
          (offerArrives (Sha256.sample.hex []))).1 acceptOffer := by
  have hhash : Sha256.sample.hex [] ≠ "" := Sha256.hex_ne_empty _ _
  have hcmd := command_offerArrives hhash
  refine ⟨sound_run_integrity (Run.single ⟨?_, ?_, ?_⟩), ?_⟩
  · intro tid r s h
    rw [hcmd] at h
    cases h
  · intro tid s h
    rw [hcmd] at h
    cases h
  · intro tid r s h
    rw [hcmd] at h
    cases h
  · rw [step_offerArrives hhash]
    -- the only session is the one of the offer
    have hsession : ∀ {tid s}, ((init true .empty).registerOffer
        (emptyOffer (Sha256.sample.hex []))).1.m_sessions.value? tid = some s →
          tid = "ft_fedcba9876543" ∧ s = incomingSession 0 (emptyOffer (Sha256.sample.hex [])) := by
      intro tid s hs
      rw [registerOffer, init, QMap.value?_insert] at hs
      split_ifs at hs with htid
      · rw [Option.some.injEq] at hs
        exact ⟨htid.symm, hs.symm⟩
      · simp at hs
    refine ⟨?_, ?_, ?_⟩
    · intro tid r s h hs
      obtain ⟨rfl, rfl⟩ := hsession hs
      rw [acceptOffer, Event.command, Command.request.injEq] at h
      rw [← h.2]
      intro _ _ _ _
      exact ⟨QString.equalCI_self _, by decide +kernel, rfl, fun _ => rfl⟩
    · intro tid s h
      cases h
    · intro tid r s h hs dir _ _ tid' s' hs' hne
      exact absurd ((hsession hs').1.trans (hsession hs).1.symm) hne

/-- An empty file that was offered with another hash is reported as complete. -/
theorem empty_file_unchecked :
    ¬ ∀ es log c, Run (machine compact .sample) (fun _ _ => True) (init true .empty) es log c →
      Integrity compact .sample (fun _ _ => True) log c := by
  intro h
  have hint := h _ _ _ (Run.single (e := offerArrives (Sha256.sample.hex [0x61])) trivial)
  rw [step_offerArrives (Sha256.sample.hex_ne_empty [0x61])] at hint
  obtain ⟨offer, content, hoffer, hcontent, hhash⟩ := hint acceptOffer.1 acceptOffer.2 0
    "ft_fedcba9876543" "/home/in/b.txt" "ft_fedcba9876543"
    (incomingSession 0 (emptyOffer (Sha256.sample.hex [0x61]))) trivial (by decide +kernel)
    (by decide +kernel) rfl rfl
  have hempty : (step compact .sample ((init true .empty).registerOffer
      (emptyOffer (Sha256.sample.hex [0x61]))).1 acceptOffer.1 acceptOffer.2).1.files.contentAt
        "/home/in/b.txt" = some [] := by
    decide +kernel
  rw [hempty, Option.some.injEq] at hcontent
  have hoffer' : offer = emptyOffer (Sha256.sample.hex [0x61]) := by
    simpa [registerOffer, init, deedsOf, offers] using hoffer.symm
  rw [← hcontent, hoffer'] at hhash
  exact absurd hhash (by decide +kernel)

end FileTransferController

end MeckChat.Protocol
