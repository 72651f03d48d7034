import MeckChat.Protocol.TransferIntact
import MeckChat.Protocol.TransferLifecycle
import MeckChat.Protocol.TransferPaths

/-!
What a finished transfer holds on to.

* `Free` says of a session that its file handle is not open and that no file is at its
  temporary path, and `Released` that this is so of all sessions in a final state.
* `Request.Releases` is the condition under which a handler leaves its own session free,
  and `Request.puts` the path at which it leaves a file: `Request.run_free` and
  `Request.dir_run` show that they are exact.
* `released_step`: a step keeps `Released` exactly if it is `Clean`.
* `resources_released`: over every run; `handle_left_open` is a run in which a read fails.
-/

namespace MeckChat.Protocol

open Qt QJson FileTransferController

variable (json : JsonCodec) (sha : Sha256)

/-- No open handle, and no file at the temporary path. -/
structure Free (fs : FileSystem) (s : FileTransferSession) : Prop where
  handle : s.fileHandle.any (·.isOpen) = false
  temp : s.tempFilePath ≠ "" → fs.dir s.tempFilePath = none

/-- The open handle of a session is at the end, or everything was sent. -/
def StreamEnds (fs : FileSystem) (s : FileTransferSession) : Prop :=
  ∃ h, s.fileHandle = some h ∧ h.isOpen = true ∧
    (h.atEnd fs = true ∨ s.fileSize ≤ s.transferredBytes)

/-- The read of the next chunk fails. -/
def ReadFails (io : Io) (fs : FileSystem) (s : FileTransferSession) : Prop :=
  ∃ h, s.fileHandle = some h ∧ h.isOpen = true ∧ ¬ StreamEnds fs s ∧
    h.read fs s.chunkSize.toNat io.readLimit = [] ∧ 0 < s.fileSize

/-- What a handler must find so that it leaves its session free at the end: for an
acceptance that fails nothing at the temporary path, for an empty file a rename that
works, and for a stream reads that work and no temporary file. -/
def Request.Releases (io : Io) (tid : String) (s : FileTransferSession) (fs : FileSystem) :
    Request → Prop
  | .acceptTransfer dir =>
      s.state = .Offering → s.direction = .Incoming →
        (io.openOk = false → fs.dir (tempPath io tid dir) = none) ∧
          (io.openOk = true → s.fileSize = 0 →
            io.renameOk = true ∨ tempPath io tid dir = finalPath io dir s)
  | .fileAccept =>
      s.direction = .Outgoing → s.state = .Offering →
        ¬ ReadFails io fs { s with
          fileHandle := some (QFile.openRead fs s.sourceFilePath io.openOk), transferredBytes := 0 }
  | .sendNextChunk =>
      s.state = .Transferring → ¬ ReadFails io fs s ∧
        (StreamEnds fs s → s.tempFilePath ≠ "" → fs.dir s.tempFilePath = none)
  | _ => True

/-- The path at which a handler leaves a file. -/
def Request.puts (io : Io) (tid : String) (s : FileTransferSession) (fs : FileSystem) :
    Request → Option String
  | .acceptTransfer dir =>
      if s.state = .Offering ∧ s.direction = .Incoming ∧ io.openOk = true then
        if s.fileSize = 0 then
          if tempPath io tid dir = finalPath io dir s then none
          else if io.renameOk then some (finalPath io dir s) else some (tempPath io tid dir)
        else some (tempPath io tid dir)
      else none
  | .fileComplete =>
      if s.direction = .Incoming ∧ s.state = .Transferring ∧
          QString.equalCI (sha.hex s.cryptoHash) s.expectedSha256 = true ∧
          s.tempFilePath ≠ s.finalFilePath ∧ io.renameOk = true ∧
          fs.exists? s.tempFilePath = true then
        some s.finalFilePath
      else none
  | _ => none

section Handlers

variable {json sha}
variable {io : Io} {b : Bool} {tid dir : String} {t t' : Turn} {fs : FileSystem} {p q : String}
  {s : FileTransferSession}

/-- Where removing works, a path that was cleared is empty. -/
lemma dir_cleared (hok : ∀ p, io.removeOk p = true) : (Turn.cleared io fs p).dir p = none := by
  rw [Turn.cleared]
  split_ifs with hexists
  · simp [FileSystem.remove, hok p]
  · rwa [FileSystem.exists?, Option.not_isSome_iff_eq_none] at hexists

/-- A session that was cleaned up is free. -/
lemma free_of_cleaned (hok : ∀ p, io.removeOk p = true) {h : Option QFile}
    (hhandle : s.fileHandle = h.map QFile.close) : Free (cleaned io fs s.tempFilePath) s where
  handle := by
    rw [hhandle]
    cases h with
    | none => rfl
    | some h => rfl
  temp hne := by
    rw [cleaned, if_neg hne]
    exact dir_cleared hok

/-! ### Streaming -/

lemma Turn.handleAtEnd_eq {h : QFile} (hh : t.session.fileHandle = some h) :
    t.handleAtEnd = h.atEnd t.files := by rw [handleAtEnd, hh, Option.any_some]

lemma Turn.handleOpen_eq {h : QFile} (hh : t.session.fileHandle = some h) :
    t.handleOpen = h.isOpen := by rw [handleOpen, hh, Option.any_some]

variable (json io b tid) in
/-- **Streaming.** -/
lemma free_sendNextChunk (hstate : t.session.state = .Transferring) :
    ((t.sendNextChunk json io b tid).session.state.isFinal = true →
        Free (t.sendNextChunk json io b tid).files (t.sendNextChunk json io b tid).session) ↔
      ¬ ReadFails io t.files t.session ∧
        (StreamEnds t.files t.session → t.session.tempFilePath ≠ "" →
          t.files.dir t.session.tempFilePath = none) := by
  by_cases hopen : t.handleOpen = true
  · obtain ⟨h, hh, hisOpen⟩ : ∃ h, t.session.fileHandle = some h ∧ h.isOpen = true := by
      rwa [Turn.handleOpen, Option.any_eq_true] at hopen
    have hends : StreamEnds t.files t.session ↔
        (t.handleAtEnd = true ∨ t.session.transferredBytes ≥ t.session.fileSize) := by
      rw [Turn.handleAtEnd_eq hh]
      constructor
      · rintro ⟨h', hh', -, hend⟩
        rw [hh, Option.some.injEq] at hh'
        rwa [hh']
      · exact fun hend => ⟨h, hh, hisOpen, hend⟩
    have hfails : ReadFails io t.files t.session ↔
        ¬ StreamEnds t.files t.session ∧ t.readData io = [] ∧ t.session.fileSize > 0 := by
      rw [Turn.readData, hh]
      constructor
      · rintro ⟨h', hh', -, hfails⟩
        rw [hh, Option.some.injEq] at hh'
        rwa [hh']
      · exact fun hfails => ⟨h, hh, hisOpen, hfails⟩
    rw [hfails]
    rw [Turn.sendNextChunk, if_neg (by simp [hstate, hopen])]
    by_cases hend : StreamEnds t.files t.session
    · rw [if_pos (hends.mp hend)]
      simp only [Turn.sendComplete]
      constructor
      · intro hfree
        refine ⟨fun hnot => hnot.1 hend, fun _ hne => ?_⟩
        exact (hfree rfl).temp hne
      · rintro ⟨-, htemp⟩ _
        exact ⟨by simp [hh, QFile.close], htemp hend⟩
    · rw [if_neg fun h => hend (hends.mpr h)]
      by_cases hread : t.readData io = [] ∧ t.session.fileSize > 0
      · rw [if_pos hread]
        refine iff_of_false ?_ fun h => h.1 ⟨hend, hread⟩
        intro hfree
        have hclosed := (hfree rfl).handle
        rw [Turn.session_emit, Turn.session_setState, hh, Option.any_some, hisOpen] at hclosed
        cases hclosed
      · rw [if_neg hread]
        refine iff_of_true ?_ ⟨fun h => hread h.2, fun h => absurd h hend⟩
        intro hfinal
        have htransferring : (t.sendChunk b tid (t.readData io)).session.state =
            .Transferring := by simp [Turn.sendChunk, hstate]
        rw [htransferring] at hfinal
        cases hfinal
  · have hclosed : ∀ h, t.session.fileHandle = some h → h.isOpen = true → False := by
      intro h hh hisOpen
      exact hopen ((Turn.handleOpen_eq hh).trans hisOpen)
    rw [Turn.sendNextChunk, if_pos (.inr hopen)]
    refine iff_of_true ?_ ⟨?_, ?_⟩
    · intro hfinal
      rw [hstate] at hfinal
      cases hfinal
    · rintro ⟨h, hh, hisOpen, -⟩
      exact hclosed h hh hisOpen
    · rintro ⟨h, hh, hisOpen, -⟩
      exact absurd hisOpen (hclosed h hh)

/-! ### Moving and accepting -/

/-- Where removing works, a rename fails only for want of a source or by itself. -/
lemma canRename_cleared (hok : ∀ p, io.removeOk p = true) :
    (Turn.cleared io fs q).canRename p q io.renameOk = true ↔
      p ≠ q ∧ io.renameOk = true ∧ fs.exists? p = true := by
  rw [FileSystem.canRename_eq_true]
  have htarget : (Turn.cleared io fs q).exists? q = false := by
    rw [FileSystem.exists?, dir_cleared hok]
    rfl
  constructor
  · rintro ⟨hrename, hsource, -⟩
    have hne : p ≠ q := by
      rintro rfl
      rw [htarget] at hsource
      cases hsource
    refine ⟨hne, hrename, ?_⟩
    rwa [FileSystem.exists?, (keeps_cleared fs hne).dir] at hsource
  · rintro ⟨hne, hrename, hsource⟩
    refine ⟨hrename, ?_, htarget⟩
    rwa [FileSystem.exists?, (keeps_cleared fs hne).dir]

lemma dir_cleared_apply (hok : ∀ p, io.removeOk p = true) :
    (Turn.cleared io fs q).dir p = if p = q then none else fs.dir p := by
  split_ifs with h
  · rw [h]
    exact dir_cleared hok
  · exact (keeps_cleared fs h).dir

/-- What a move leaves at a path. -/
lemma dir_replaced (hok : ∀ p, io.removeOk p = true) (r : String) :
    (replaced io fs p q).dir r =
      if p ≠ q ∧ io.renameOk = true ∧ fs.exists? p = true then
        if r = q then fs.dir p else if r = p then none else fs.dir r
      else if r = q then none else fs.dir r := by
  by_cases hcan : (Turn.cleared io fs q).canRename p q io.renameOk = true
  · have hmoves := (canRename_cleared hok).mp hcan
    rw [if_pos hmoves]
    show (if _ then _ else _) = _
    rw [if_pos hcan, dir_cleared_apply hok, dir_cleared_apply hok, if_neg hmoves.1]
    split_ifs with hq <;> rfl
  · rw [if_neg fun hmoves => hcan ((canRename_cleared hok).mpr hmoves), ← dir_cleared_apply hok]
    exact (keeps_rename_of_not (Bool.eq_false_of_not_eq_true hcan)).dir

variable (fs) in
/-- A new file that was moved is at one of the two paths, or at none if they are the
same. -/
lemma dir_replaced_opened (hok : ∀ p, io.removeOk p = true) (temp target r : String) :
    (replaced io (fs.openTruncate temp) temp target).dir r = none ↔
      if r = temp then io.renameOk = true ∨ temp = target
      else if r = target then io.renameOk = false ∨ temp = target
      else fs.dir r = none := by
  have hthere : (fs.openTruncate temp).exists? temp = true := by
    rw [FileSystem.exists?, FileSystem.dir_openTruncate, if_pos rfl]
    rfl
  rw [dir_replaced hok]
  by_cases hsame : temp = target
  · subst hsame
    by_cases hr : r = temp
    · simp [hr]
    · simp [hr, FileSystem.dir_openTruncate]
  · cases hrename : io.renameOk with
    | true =>
        by_cases hr : r = target
        · subst hr
          simp [hthere, hsame, Ne.symm hsame, FileSystem.dir_openTruncate]
        · by_cases hr' : r = temp
          · simp [hthere, hsame, hr']
          · simp [hthere, hsame, hr, hr', FileSystem.dir_openTruncate]
    | false =>
        by_cases hr : r = target
        · simp [hr, Ne.symm hsame]
        · by_cases hr' : r = temp
          · simp [hr', hsame, FileSystem.dir_openTruncate]
          · simp [hr, hr', FileSystem.dir_openTruncate]

variable (json b tid dir) in
/-- An acceptance that fails leaves a handle that was not opened. -/
lemma handle_acceptTransfer_failed
    (hoffer : t.session.state = .Offering ∧ t.session.direction = .Incoming)
    (hopen : io.openOk = false) :
    (t.acceptTransfer json io b tid dir).1.session.fileHandle = some QFile.unopened := by
  simp [Turn.acceptTransfer, hoffer.1, hoffer.2, Turn.handleOpen_openTemp, QFile.openWrite, hopen]

lemma tempPath_ne_empty (io : Io) (tid dir : String) : tempPath io tid dir ≠ "" := by
  rw [tempPath, filePath_temp]
  intro h
  have hlist := congrArg String.toList h
  simp [String.toList_append] at hlist

variable (json io b tid dir) in
/-- **Accepting.** -/
lemma free_acceptTransfer (hok : ∀ p, io.removeOk p = true)
    (hoffer : t.session.state = .Offering ∧ t.session.direction = .Incoming) :
    ((t.acceptTransfer json io b tid dir).1.session.state.isFinal = true →
        Free (t.acceptTransfer json io b tid dir).1.files
          (t.acceptTransfer json io b tid dir).1.session) ↔
      (io.openOk = false → t.files.dir (tempPath io tid dir) = none) ∧
        (io.openOk = true → t.session.fileSize = 0 →
          io.renameOk = true ∨ tempPath io tid dir = finalPath io dir t.session) := by
  cases hopen : io.openOk with
  | false =>
      obtain ⟨hstate, hfiles⟩ := t.acceptTransfer_failed json io b tid dir hoffer hopen
      have htemp := (t.paths_acceptTransfer json io b tid dir hoffer).1
      have hhandle := handle_acceptTransfer_failed json b tid dir hoffer hopen
      rw [hstate]
      constructor
      · intro hfree
        refine ⟨fun _ => ?_, nofun⟩
        have hempty := (hfree rfl).temp (by rw [htemp]; exact tempPath_ne_empty io tid dir)
        rwa [htemp, hfiles] at hempty
      · rintro ⟨hempty, -⟩ _
        exact ⟨by rw [hhandle]; rfl, fun _ => by rw [htemp, hfiles]; exact hempty rfl⟩
  | true =>
      by_cases hsize : t.session.fileSize = 0
      · obtain ⟨hsession, hfiles⟩ := t.acceptTransfer_empty json io b tid dir hoffer hopen hsize
        rw [hsession, hfiles]
        have hne := tempPath_ne_empty io tid dir
        generalize tempPath io tid dir = temp at hne ⊢
        generalize finalPath io dir t.session = target
        have hleft := dir_replaced_opened t.files hok temp target temp
        rw [if_pos rfl] at hleft
        constructor
        · intro hfree
          exact ⟨nofun, fun _ _ => hleft.mp ((hfree rfl).temp hne)⟩
        · rintro ⟨-, hmoves⟩ _
          exact ⟨rfl, fun _ => hleft.mpr (hmoves rfl hsize)⟩
      · obtain ⟨hsession, -⟩ := t.acceptTransfer_receiving json io b tid dir hoffer hopen hsize
        rw [hsession]
        exact iff_of_true nofun ⟨nofun, fun _ h => absurd h hsize⟩

variable (sha io tid) in
lemma handle_handleInboundFileComplete
    (hlive : t.session.direction = .Incoming ∧ t.session.state = .Transferring) :
    ∃ h : Option QFile,
      (t.handleInboundFileComplete sha io tid).session.fileHandle = h.map QFile.close := by
  simp only [Turn.handleInboundFileComplete, Turn.moveToFinal]
  rw [if_neg (by simp [hlive])]
  split_ifs
  · exact ⟨_, rfl⟩
  · exact ⟨_, by rw [Turn.session_cleanupSession]⟩
  · exact ⟨_, by rw [Turn.session_cleanupSession]⟩

variable (tid) in
/-- **Completing.** -/
lemma free_handleInboundFileComplete (hok : ∀ p, io.removeOk p = true)
    (hlive : t.session.direction = .Incoming ∧ t.session.state = .Transferring) :
    Free (t.handleInboundFileComplete sha io tid).files
      (t.handleInboundFileComplete sha io tid).session := by
  obtain ⟨h, hclosed⟩ := handle_handleInboundFileComplete sha io tid hlive
  cases hhash : QString.equalCI (sha.hex t.session.cryptoHash) t.session.expectedSha256 with
  | true =>
      cases hcan : (Turn.cleared io t.files t.session.finalFilePath).canRename
          t.session.tempFilePath t.session.finalFilePath io.renameOk with
      | true =>
          obtain ⟨hsession, hfiles⟩ := t.complete_moved tid hlive hhash hcan
          have hmoves := (canRename_cleared hok).mp hcan
          refine ⟨?_, fun _ => ?_⟩
          · rw [hclosed]
            cases h <;> rfl
          · rw [hfiles, hsession, dir_replaced hok, if_pos hmoves, if_neg hmoves.1, if_pos rfl]
      | false =>
          obtain ⟨-, -, htemp, -, hfiles⟩ := t.complete_stuck tid hlive hhash hcan
          rw [hfiles, ← htemp]
          exact free_of_cleaned hok hclosed
  | false =>
      have hfiles : (t.handleInboundFileComplete sha io tid).files =
          cleaned io t.files (t.handleInboundFileComplete sha io tid).session.tempFilePath := by
        simp [-Turn.files_cleanupSession, files_cleanup, Turn.handleInboundFileComplete, hlive.1,
          hlive.2, hhash]
      rw [hfiles]
      exact free_of_cleaned hok hclosed

/-! ### Every request -/

/-- The outgoing sessions have no temporary file. -/
def BareSender (s : FileTransferSession) : Prop := s.direction = .Outgoing → s.tempFilePath = ""

variable (json sha io b tid t) in
/-- **The own session.** -/
theorem Request.run_free (r : Request) (hok : ∀ p, io.removeOk p = true)
    (hbare : BareSender t.session)
    (hbefore : t.session.state.isFinal = true → Free t.files t.session) :
    ((r.run json sha io b tid t).session.state.isFinal = true →
        Free (r.run json sha io b tid t).files (r.run json sha io b tid t).session) ↔
      r.Releases io tid t.session t.files := by
  have hcleaned : ∀ t' : Turn, t'.session.fileHandle = t.session.fileHandle.map QFile.close →
      t'.session.tempFilePath = t.session.tempFilePath →
        t'.files = cleaned io t.files t.session.tempFilePath → Free t'.files t'.session := by
    intro t' hhandle htemp hfiles
    rw [hfiles, ← htemp]
    exact free_of_cleaned hok hhandle
  cases r with
  | acceptTransfer dir =>
      rw [run, Releases]
      by_cases hoffer : t.session.state = .Offering ∧ t.session.direction = .Incoming
      · rw [free_acceptTransfer json io b tid dir hok hoffer]
        exact ⟨fun h _ _ => h, fun h => h hoffer.1 hoffer.2⟩
      · rw [t.acceptTransfer_refused json io b tid dir (by tauto)]
        exact iff_of_true hbefore fun hstate hdir => absurd ⟨hstate, hdir⟩ hoffer
  | rejectTransfer reason =>
      refine iff_of_true (fun _ => hcleaned _ ?_ ?_ ?_) trivial
      · simp [run, Turn.rejectTransfer]
      · simp [run, Turn.rejectTransfer]
      · simp [-Turn.files_cleanupSession, files_cleanup, run, Turn.rejectTransfer]
  | cancelTransfer reason =>
      refine iff_of_true (fun _ => hcleaned _ ?_ ?_ ?_) trivial
      · simp [run, Turn.cancelTransfer]
      · simp [run, Turn.cancelTransfer]
      · simp [-Turn.files_cleanupSession, files_cleanup, run, Turn.cancelTransfer]
  | fileAccept =>
      rw [run, Turn.handleInboundFileAccept, Releases]
      by_cases hoffer : t.session.direction = .Outgoing ∧ t.session.state = .Offering
      · rw [if_neg (by simp [hoffer.1, hoffer.2])]
        have htemp := hbare hoffer.1
        dsimp only
        by_cases hopen : (t.openSource io).handleOpen = true
        · rw [if_pos hopen, free_sendNextChunk json io b tid rfl]
          constructor
          · exact fun h _ _ => h.1
          · exact fun h => ⟨h hoffer.1 hoffer.2, fun _ hne => absurd htemp hne⟩
        · rw [if_neg hopen]
          refine iff_of_true (fun _ => ⟨Bool.eq_false_of_not_eq_true hopen, ?_⟩) fun _ _ => ?_
          · exact fun hne => absurd htemp hne
          · rintro ⟨h, hh, hisOpen, -⟩
            rw [Option.some.injEq] at hh
            rw [← hh] at hisOpen
            exact hopen hisOpen
      · rw [if_pos (by tauto)]
        exact iff_of_true hbefore fun hdir hstate => absurd ⟨hdir, hstate⟩ hoffer
  | fileReject reason =>
      refine iff_of_true (fun _ => hcleaned _ ?_ ?_ ?_) trivial
      · simp [run, Turn.handleInboundFileReject]
      · simp [run, Turn.handleInboundFileReject]
      · simp [-Turn.files_cleanupSession, files_cleanup, run, Turn.handleInboundFileReject]
  | fileChunk index data =>
      refine iff_of_true ?_ trivial
      rw [run, Turn.handleInboundFileChunk]
      by_cases hlive : t.session.state ≠ .Transferring ∨ t.session.direction ≠ .Incoming
      · rw [if_pos hlive]
        exact hbefore
      · rw [if_neg hlive]
        rw [not_or, not_not, not_not] at hlive
        by_cases hindex : index = t.session.currentChunkIndex
        · rw [if_neg (not_not.mpr hindex)]
          intro hfinal
          rw [Turn.session_emit, Turn.session_countChunk, Turn.session_addData] at hfinal
          dsimp only at hfinal
          rw [Turn.state_writeData, hlive.1] at hfinal
          cases hfinal
        · rw [if_pos hindex]
          refine fun _ => hcleaned _ ?_ ?_ ?_
          · simp
          · simp
          · simp [-Turn.files_cleanupSession, files_cleanup]
  | fileComplete =>
      refine iff_of_true ?_ trivial
      rw [run]
      by_cases hlive : t.session.direction = .Incoming ∧ t.session.state = .Transferring
      · exact fun _ => free_handleInboundFileComplete tid hok hlive
      · rw [Turn.handleInboundFileComplete, if_pos (by tauto)]
        exact hbefore
  | fileCancel reason =>
      refine iff_of_true (fun _ => hcleaned _ ?_ ?_ ?_) trivial
      · simp [run, Turn.handleInboundFileCancel]
      · simp [run, Turn.handleInboundFileCancel]
      · simp [-Turn.files_cleanupSession, files_cleanup, run, Turn.handleInboundFileCancel]
  | sendNextChunk =>
      rw [run, Releases]
      by_cases hstate : t.session.state = .Transferring
      · rw [free_sendNextChunk json io b tid hstate]
        exact ⟨fun h _ => h, fun h => h hstate⟩
      · rw [Turn.sendNextChunk, if_pos (.inl hstate)]
        exact iff_of_true hbefore fun h => absurd h hstate
  | disconnected =>
      refine iff_of_true ?_ trivial
      rw [run, Turn.onSocketDisconnected]
      split_ifs
      · refine fun _ => hcleaned _ ?_ ?_ ?_
        · simp
        · simp
        · simp [-Turn.files_cleanupSession, files_cleanup]
      · exact hbefore

lemma dir_cleaned_of_none (h : fs.dir q = none) : (cleaned io fs p).dir q = none := by
  rw [cleaned]
  split_ifs
  · exact h
  · exact dir_cleared_of_none h

variable (json sha io b tid t) in
/-- **The other sessions.** A path without a file gets one exactly where the handler puts
it. -/
theorem Request.dir_run (r : Request) (hok : ∀ p, io.removeOk p = true)
    (hfree : t.files.dir q = none) :
    (r.run json sha io b tid t).files.dir q = none ↔
      r.puts sha io tid t.session t.files ≠ some q := by
  have hcleaned : ∀ t' : Turn, t'.files = cleaned io t.files t.session.tempFilePath →
      t'.files.dir q = none := by
    intro t' hfiles
    rw [hfiles]
    exact dir_cleaned_of_none hfree
  cases r with
  | acceptTransfer dir =>
      rw [run, puts]
      by_cases hoffer : t.session.state = .Offering ∧ t.session.direction = .Incoming
      · cases hopen : io.openOk with
        | false =>
            rw [(t.acceptTransfer_failed json io b tid dir hoffer hopen).2]
            exact iff_of_true hfree (by simp)
        | true =>
            rw [if_pos ⟨hoffer.1, hoffer.2, rfl⟩]
            by_cases hsize : t.session.fileSize = 0
            · rw [(t.acceptTransfer_empty json io b tid dir hoffer hopen hsize).2, if_pos hsize]
              generalize tempPath io tid dir = temp
              generalize finalPath io dir t.session = target
              rw [dir_replaced_opened _ hok]
              by_cases hsame : temp = target
              · subst hsame
                simp [hfree]
              · rw [if_neg hsame]
                by_cases htemp : q = temp
                · subst htemp
                  cases io.renameOk <;> simp [hsame, Ne.symm hsame]
                · by_cases htarget : q = target
                  · subst htarget
                    cases io.renameOk <;> simp [hsame, Ne.symm hsame]
                  · rw [if_neg htemp, if_neg htarget]
                    refine iff_of_true hfree ?_
                    cases io.renameOk <;> simp [Ne.symm htemp, Ne.symm htarget]
            · rw [(t.acceptTransfer_receiving json io b tid dir hoffer hopen hsize).2,
                if_neg hsize, FileSystem.dir_openTruncate]
              by_cases hq : q = tempPath io tid dir
              · simp [hq]
              · simp [hq, hfree, Ne.symm hq]
      · rw [t.acceptTransfer_refused json io b tid dir (by tauto),
          if_neg fun h => hoffer ⟨h.1, h.2.1⟩]
        exact iff_of_true hfree (by simp)
  | rejectTransfer reason =>
      refine iff_of_true (hcleaned _ ?_) (by simp [puts])
      simp [-Turn.files_cleanupSession, files_cleanup, run, Turn.rejectTransfer]
  | cancelTransfer reason =>
      refine iff_of_true (hcleaned _ ?_) (by simp [puts])
      simp [-Turn.files_cleanupSession, files_cleanup, run, Turn.cancelTransfer]
  | fileAccept =>
      refine iff_of_true ?_ (by simp [puts])
      simp only [run, Turn.handleInboundFileAccept]
      split_ifs
      · exact hfree
      · rw [Turn.files_sendNextChunk]
        exact hfree
      · exact hfree
  | fileReject reason =>
      refine iff_of_true (hcleaned _ ?_) (by simp [puts])
      simp [-Turn.files_cleanupSession, files_cleanup, run, Turn.handleInboundFileReject]
  | fileChunk index data =>
      refine iff_of_true ?_ (by simp [puts])
      rw [run, Turn.handleInboundFileChunk]
      split_ifs
      · exact hfree
      · refine hcleaned _ ?_
        simp [-Turn.files_cleanupSession, files_cleanup]
      · rw [Turn.files_emit, Turn.files_countChunk, Turn.files_addData, Turn.dir_writeData]
        exact hfree
  | fileComplete =>
      rw [run, puts]
      by_cases hlive : t.session.direction = .Incoming ∧ t.session.state = .Transferring
      · cases hhash : QString.equalCI (sha.hex t.session.cryptoHash) t.session.expectedSha256 with
        | true =>
            cases hcan : (Turn.cleared io t.files t.session.finalFilePath).canRename
                t.session.tempFilePath t.session.finalFilePath io.renameOk with
            | true =>
                have hmoves := (canRename_cleared hok).mp hcan
                rw [if_pos ⟨hlive.1, hlive.2, rfl, hmoves⟩,
                  (t.complete_moved tid hlive hhash hcan).2, dir_replaced hok, if_pos hmoves]
                by_cases hq : q = t.session.finalFilePath
                · have hsource := hmoves.2.2
                  rw [FileSystem.exists?] at hsource
                  simp [hq, ← Option.not_isSome_iff_eq_none, hsource]
                · simp [hq, hfree, Ne.symm hq]
            | false =>
                have hstuck : ¬ (t.session.tempFilePath ≠ t.session.finalFilePath ∧
                    io.renameOk = true ∧ t.files.exists? t.session.tempFilePath = true) := by
                  intro hmoves
                  rw [(canRename_cleared hok).mpr hmoves] at hcan
                  cases hcan
                rw [(t.complete_stuck tid hlive hhash hcan).2.2.2.2, if_neg fun h => hstuck h.2.2.2]
                refine iff_of_true (dir_cleaned_of_none ?_) (by simp)
                rw [dir_replaced hok, if_neg hstuck, hfree, ite_self]
        | false =>
            rw [if_neg fun h => Bool.noConfusion h.2.2.1]
            refine iff_of_true (hcleaned _ ?_) (by simp)
            simp [-Turn.files_cleanupSession, files_cleanup, Turn.handleInboundFileComplete,
              hlive.1, hlive.2, hhash]
      · rw [Turn.handleInboundFileComplete, if_pos (by tauto), if_neg fun h => hlive ⟨h.1, h.2.1⟩]
        exact iff_of_true hfree (by simp)
  | fileCancel reason =>
      refine iff_of_true (hcleaned _ ?_) (by simp [puts])
      simp [-Turn.files_cleanupSession, files_cleanup, run, Turn.handleInboundFileCancel]
  | sendNextChunk =>
      rw [run, Turn.files_sendNextChunk]
      exact iff_of_true hfree (by simp [puts])
  | disconnected =>
      refine iff_of_true ?_ (by simp [puts])
      rw [run, Turn.onSocketDisconnected]
      split_ifs
      · refine hcleaned _ ?_
        simp [-Turn.files_cleanupSession, files_cleanup]
      · exact hfree

variable (json sha io b tid) in
lemma Request.run_bareSender (r : Request) (h : BareSender t.session) :
    BareSender (r.run json sha io b tid t).session := by
  intro hdir
  have hterms := r.run_terms json sha io b tid t
  have hdir' : t.session.direction = .Outgoing :=
    (congrArg Terms.direction hterms).symm.trans hdir
  by_cases haccept : ∀ dir, r ≠ .acceptTransfer dir
  · rw [(r.run_paths json sha io b tid t haccept).1]
    exact h hdir'
  · obtain ⟨dir, rfl⟩ := not_forall_not.mp haccept
    rw [run, t.acceptTransfer_refused json io b tid dir (.inr (by rw [hdir']; decide))]
    exact h hdir'

end Handlers

/-! ### The controller -/

namespace FileTransferController

/-- Every finished session is free. -/
def Released (c : FileTransferController) : Prop :=
  ∀ tid s, c.m_sessions.value? tid = some s → s.state.isFinal = true → Free c.files s

/-- No outgoing session has a temporary file. -/
def BareSenders (c : FileTransferController) : Prop :=
  ∀ tid s, c.m_sessions.value? tid = some s → BareSender s

/-- A path is not the temporary path of a finished session other than that of an id. -/
def Unclaimed (sessions : QMap String FileTransferSession) (tid q : String) : Prop :=
  ∀ tid' s, tid' ≠ tid → sessions.value? tid' = some s → s.state.isFinal = true →
    s.tempFilePath ≠ "" → s.tempFilePath ≠ q

/-- A handler leaves its own session free when it ends, and puts no file at the temporary
path of another finished session. -/
structure CleanRequest (sessions : QMap String FileTransferSession) (io : Io) (tid : String)
    (s : FileTransferSession) (fs : FileSystem) (r : Request) : Prop where
  own : r.Releases io tid s fs
  others : ∀ q, r.puts sha io tid s fs = some q → Unclaimed sessions tid q

/-- All handlers of the step are clean. -/
def Clean (c : FileTransferController) (e : Event × Io) : Prop :=
  ∀ h ∈ c.handlings json sha e,
    CleanRequest sha c.m_sessions h.io h.transferId h.before.session h.before.files h.request

variable {json sha}
variable {c : FileTransferController} {io : Io} {tid : String} {s : FileTransferSession}
  {r : Request}

lemma BareSenders.onRequest (h : BareSenders c) (io : Io) (tid : String) (r : Request) :
    BareSenders (c.onRequest json sha io tid r).1 := by
  intro tid' s' hs'
  rw [FileTransferController.onRequest] at hs'
  by_cases htid : tid' = tid
  · subst htid
    cases hs : c.m_sessions.value? tid' with
    | none =>
        rw [onSession_none hs, hs] at hs'
        cases hs'
    | some s =>
        rw [value?_onSession_self hs] at hs'
        rw [← Option.some_inj.mp hs']
        exact r.run_bareSender json sha io c.m_socket tid' (h tid' s hs)
  · rw [value?_onSession_of_ne htid] at hs'
    exact h tid' s' hs'

lemma bareSenders_step (h : BareSenders c) (e : Event × Io) :
    BareSenders (c.step json sha e.1 e.2).1 := by
  refine step_induction (I := fun c _ => BareSenders c) [] h ?_ ?_ ?_ ?_
  · intro s deeds hregisters tid s' hs'
    rw [register, QMap.value?_insert] at hs'
    split_ifs at hs'
    · rw [← Option.some_inj.mp hs']
      exact fun _ => hregisters.tempFilePath_eq
    · exact h tid s' hs'
  · exact fun tid s r _ _ => h.onRequest e.2 tid r
  · intro tid _ _
    have hfired : BareSenders { c with timers := c.timers.erase tid } := h
    exact hfired.onRequest e.2 tid .sendNextChunk
  · exact fun _ c log tid h => h.onRequest e.2 tid .disconnected

/-- **A request.** -/
lemma released_onRequest (hok : ∀ p, io.removeOk p = true) (hbare : BareSenders c) (h : Released c)
    (hs : c.m_sessions.value? tid = some s) :
    Released (c.onRequest json sha io tid r).1 ↔
      CleanRequest sha c.m_sessions io tid s c.files r := by
  have hfree := r.run_free json sha io c.m_socket tid { session := s, files := c.files } hok
    (hbare tid s hs) (h tid s hs)
  have hdir := fun q => r.dir_run json sha io c.m_socket tid { session := s, files := c.files }
    (q := q) hok
  rw [FileTransferController.onRequest]
  constructor
  · intro hall
    refine ⟨hfree.mp ?_, ?_⟩
    · have hself := hall tid _ (value?_onSession_self hs)
      rw [onSession_some hs] at hself
      exact hself
    · intro q hputs tid' s' hne hs' hfinal htemp heq
      have hother := hall tid' s' (by rw [value?_onSession_of_ne hne]; exact hs') hfinal
      rw [onSession_some hs] at hother
      have hempty := (hdir _ ((h tid' s' hs' hfinal).temp htemp)).mp (hother.temp htemp)
      exact hempty (by rw [heq]; exact hputs)
  · rintro ⟨hself, hothers⟩ tid' s' hs' hfinal
    by_cases htid : tid' = tid
    · subst htid
      rw [value?_onSession_self hs, Option.some.injEq] at hs'
      rw [onSession_some hs, ← hs']
      exact hfree.mpr hself (by rw [hs']; exact hfinal)
    · rw [value?_onSession_of_ne htid] at hs'
      have hbefore := h tid' s' hs' hfinal
      rw [onSession_some hs]
      refine ⟨hbefore.handle, fun htemp => (hdir _ (hbefore.temp htemp)).mpr ?_⟩
      intro hputs
      exact hothers _ hputs tid' s' htid hs' hfinal htemp rfl

variable (sha) in
lemma clean_disconnected {sessions : QMap String FileTransferSession} {fs : FileSystem} :
    CleanRequest sha sessions io tid s fs .disconnected :=
  ⟨trivial, fun q hputs => by cases hputs⟩

variable (json sha) in
lemma released_disconnectAll (hok : ∀ p, io.removeOk p = true) (tids : List String)
    (hbare : BareSenders c) (h : Released c) :
    Released (disconnectAll io tids c).1 ∧
      ∀ x ∈ disconnectHandlings json sha io tids c, x.request = .disconnected := by
  induction tids generalizing c with
  | nil => exact ⟨h, fun x hx => by cases hx⟩
  | cons tid tids ih =>
      have hnext : Released (c.onRequest json sha io tid .disconnected).1 := by
        cases hs : c.m_sessions.value? tid with
        | none =>
            rw [onRequest, onSession_none hs]
            exact h
        | some s => exact (released_onRequest hok hbare h hs).mpr (clean_disconnected sha)
      obtain ⟨hreleased, hrequests⟩ := ih (hbare.onRequest io tid .disconnected) hnext
      refine ⟨hreleased, ?_⟩
      intro x hx
      rw [disconnectHandlings, List.mem_append] at hx
      rcases hx with hx | hx
      · rw [handling] at hx
        cases hs : c.m_sessions.value? tid with
        | none =>
            rw [hs] at hx
            cases hx
        | some s =>
            rw [hs] at hx
            rw [List.mem_singleton.mp hx]
      · exact hrequests x hx

lemma clean_handling (hok : ∀ p, io.removeOk p = true) (hbare : BareSenders c) (h : Released c) :
    Released (c.onRequest json sha io tid r).1 ↔
      ∀ x ∈ c.handling io tid r,
        CleanRequest sha c.m_sessions x.io x.transferId x.before.session x.before.files
          x.request := by
  rw [handling]
  cases hs : c.m_sessions.value? tid with
  | none =>
      rw [onRequest, onSession_none hs]
      exact iff_of_true h (List.forall_mem_nil _)
  | some s =>
      rw [released_onRequest hok hbare h hs]
      constructor
      · intro hclean x hx
        rw [List.mem_singleton.mp hx]
        exact hclean
      · exact fun hall => hall _ (List.mem_singleton_self _)

/-- **One step.** -/
theorem released_step (hbare : BareSenders c) (h : Released c) {e : Event × Io}
    (hok : ∀ p, e.2.removeOk p = true) :
    Released (c.step json sha e.1 e.2).1 ↔ c.Clean json sha e := by
  have hregister : ∀ s' deeds, s'.state = .Offering → Released (c.register s' deeds).1 := by
    intro s' deeds hoffering tid s hs hfinal
    rw [register, QMap.value?_insert] at hs
    split_ifs at hs
    · rw [← Option.some_inj.mp hs, hoffering] at hfinal
      cases hfinal
    · exact h tid s hs hfinal
  rw [step_eq_run, Clean, handlings]
  cases e.1.command json with
  | sendFile filePath ip =>
      refine iff_of_true ?_ (List.forall_mem_nil _)
      rw [runCommand]
      rcases sendFile_cases json sha c e.2 filePath ip with hnone | ⟨s', deeds, hr, heq⟩
      · rw [hnone]
        exact h
      · rw [heq]
        exact hregister s' deeds hr.state_eq
  | offer offer =>
      exact iff_of_true (hregister (incomingSession c.nextObject offer) [] rfl)
        (List.forall_mem_nil _)
  | request tid r => exact clean_handling hok hbare h
  | timeout tid =>
      rw [runCommand]
      dsimp only
      split_ifs
      · have hfired : BareSenders { c with timers := c.timers.erase tid } := hbare
        exact clean_handling hok hfired h
      · exact iff_of_true h (List.forall_mem_nil _)
  | disconnect =>
      obtain ⟨hreleased, hrequests⟩ :=
        released_disconnectAll json sha hok c.m_sessions.keys hbare h
      refine iff_of_true hreleased fun x hx => ?_
      rw [hrequests x hx]
      exact clean_disconnected sha
  | nothing => exact iff_of_true h (List.forall_mem_nil _)

/-- **Finished transfers.** In every run of a new controller in which removing a file
works, whatever opens, reads, writes and renames do: the finished sessions have no open
handle and no temporary file in all states of the run exactly if all its steps are
clean. -/
theorem resources_released {m_socket : Bool} {files : FileSystem} {es : List (Event × Io)}
    (hremove : ∀ e ∈ es, ∀ p, e.2.removeOk p = true) :
    (∀ pre, pre <+: es → Released ((machine json sha).exec (init m_socket files) pre).2) ↔
      (machine json sha).Allows (fun c e => c.Clean json sha e) (init m_socket files) es := by
  refine (machine json sha).allows_iff (J := BareSenders)
    (fun c e h _ => bareSenders_step h e) (fun c e hbare h hok => released_step hbare h hok)
    ?_ ?_ ((machine json sha).allows_of_forall_mem _ hremove)
  · intro tid s hs
    rw [init, QMap.value?_empty] at hs
    cases hs
  · intro tid s hs
    rw [init, QMap.value?_empty] at hs
    cases hs

/-- An empty file is received. -/
theorem resources_released_empty_file :
    Released ((machine compact .sample).exec (init true .empty)
      [offerArrives (Sha256.sample.hex []), acceptOffer]).2 := by
  have hhash : Sha256.sample.hex [] ≠ "" := Sha256.hex_ne_empty _ _
  have hclean : (machine compact .sample).Allows (fun c e => c.Clean compact .sample e)
      (init true .empty) [offerArrives (Sha256.sample.hex []), acceptOffer] := by
    refine ⟨?_, ?_, trivial⟩
    · have hnone : (init true .empty).handlings compact .sample
          (offerArrives (Sha256.sample.hex [])) = [] := by
        rw [handlings, command_offerArrives hhash]
      intro h hmem
      rw [hnone] at hmem
      cases hmem
    · rw [step_offerArrives hhash]
      intro h hmem
      rw [List.mem_singleton.mp hmem]
      refine ⟨fun _ _ => ⟨by rintro ⟨⟩, fun _ _ => .inl rfl⟩, ?_⟩
      -- there is no other session
      intro q _ tid s hne hs
      rw [registerOffer, QMap.value?_insert] at hs
      split_ifs at hs with htid
      · exact absurd htid.symm hne
      · rw [init, QMap.value?_empty] at hs
        cases hs
  refine (resources_released ?_).mpr hclean _ List.prefix_rfl
  simp [offerArrives, acceptOffer]

/-- A letter is offered and accepted, and cannot be read any more. -/
def sendUnreadable : List (Event × Io) :=
  [(.sendFile "/home/a.txt" "", { uuid := "01234567-89ab-4def-8123-456789abcdef" }),
    (.frameReceivedFrom (jsonFrame compact .FileAccept (FileAccept.toJson ⟨"ft_0123456789ab4"⟩))
      "10.77.0.2", { readLimit := 0 })]

/-- **An open handle.** A read that fails leaves the session failed with the file open. -/
theorem handle_left_open :
    ¬ ∀ pre, pre <+: sendUnreadable →
      Released ((machine compact .sample).exec (init true oneLetterFile) pre).2 := by
  intro h
  have hleft : (((machine compact .sample).exec (init true oneLetterFile)
      sendUnreadable).2.m_sessions.value? "ft_0123456789ab4").any
        (fun s => s.state.isFinal && s.fileHandle.any (·.isOpen)) = true := by
    decide +kernel
  rw [Option.any_eq_true] at hleft
  obtain ⟨s, hs, hopen⟩ := hleft
  rw [Bool.and_eq_true] at hopen
  have hclosed := (h _ List.prefix_rfl _ s hs hopen.1).handle
  rw [hopen.2] at hclosed
  cases hclosed

end FileTransferController

end MeckChat.Protocol
