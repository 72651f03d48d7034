import MeckChat.Protocol.TransferPhase
import MeckChat.Protocol.TransferTurns

/-!
What becomes of the files at the destination of a transfer.

* `Intact` says of a handler that it leaves the destination alone unless it puts the
  received file there, and every other file when the transfer ends without success.
* `Replaces` is the condition on what a handler finds: the file that it takes away
  at the destination can be replaced, and is not its own temporary file.
* `intact_cleanup`, `intact_complete` and `intact_accept_empty` are the three ways in
  which handlers take files away; `Request.run_intact` collects them.
* `destination_intact`: over every run; `destination_lost` is a run in which a rename
  fails after the file at the destination was removed.
-/

namespace MeckChat.Protocol

open Qt QJson FileTransferController

variable (json : JsonCodec) (sha : Sha256)

/-- The ends of a transfer without success. -/
def TransferState.Unsuccessful (s : TransferState) : Prop :=
  s = .Failed ∨ s = .Cancelled ∨ s = .Rejected

instance (s : TransferState) : Decidable s.Unsuccessful :=
  inferInstanceAs (Decidable (_ ∨ _ ∨ _))

/-- From `t` to `t'` the files were left as they should be: those besides the
temporary one, when an incoming transfer is at an end without success, and the one at
the destination, unless what was received is there instead. -/
structure Intact (t t' : Turn) : Prop where
  others : t'.session.direction = .Incoming → t'.session.state.Unsuccessful →
    ∀ p, p ≠ t'.session.tempFilePath → FileSystem.Keeps p t.files t'.files
  replaced : t'.session.direction = .Incoming →
    ∀ i, t.files.dir t'.session.finalFilePath = some i →
      t'.files.dir t'.session.finalFilePath ≠ some i →
      t'.files.contentAt t'.session.finalFilePath = some t'.session.cryptoHash

/-- The files after `cleanupSession` removed a temporary file. -/
def cleaned (io : Io) (fs : FileSystem) (tempFilePath : String) : FileSystem :=
  if tempFilePath = "" then fs else Turn.cleared io fs tempFilePath

/-- There is a file at a path, and it can be removed. -/
def Removable (io : Io) (fs : FileSystem) (p : String) : Prop :=
  fs.exists? p = true ∧ io.removeOk p = true

/-- To clean up does not take away the file at the destination. -/
def CleansApart (io : Io) (fs : FileSystem) (s : FileTransferSession) : Prop :=
  s.tempFilePath ≠ "" → s.tempFilePath = s.finalFilePath → ¬ Removable io fs s.finalFilePath

/-- The file that a handler takes away at the destination can be replaced. -/
def Request.Replaces (io : Io) (tid : String) (s : FileTransferSession) (fs : FileSystem) :
    Request → Prop
  | .acceptTransfer dir =>
      s.state = .Offering → io.openOk = true → s.fileSize = 0 →
        Removable io fs (finalPath io dir s) →
        io.renameOk = true ∧ tempPath io tid dir ≠ finalPath io dir s
  | .fileComplete =>
      s.state = .Transferring →
        if QString.equalCI (sha.hex s.cryptoHash) s.expectedSha256 then
          Removable io fs s.finalFilePath →
            io.renameOk = true ∧ s.tempFilePath ≠ s.finalFilePath ∧
              fs.contentAt s.tempFilePath = some s.cryptoHash
        else CleansApart io fs s
  | .fileChunk index _ =>
      s.state = .Transferring → index ≠ s.currentChunkIndex → CleansApart io fs s
  | .disconnected => s.state = .Offering ∨ s.state = .Transferring → CleansApart io fs s
  | .rejectTransfer _ => CleansApart io fs s
  | .cancelTransfer _ => CleansApart io fs s
  | .fileReject _ => CleansApart io fs s
  | .fileCancel _ => CleansApart io fs s
  | .fileAccept => True
  | .sendNextChunk => True

section Handlers

variable {json sha}
variable {io : Io} {b : Bool} {tid : String} {t t' : Turn} {fs : FileSystem} {p : String} {i : ℕ}

lemma files_cleanup (io : Io) (t : Turn) :
    (t.cleanupSession io true).files = cleaned io t.files t.session.tempFilePath := by
  rw [Turn.files_cleanupSession, Bool.true_and, cleaned]
  by_cases h : t.session.tempFilePath = ""
  · rw [if_pos h, decide_eq_false (not_not.mpr h), cond_false]
  · rw [if_neg h, decide_eq_true h, cond_true]

lemma removable_of_dir (hp : fs.dir p = some i) (hok : io.removeOk p = true) :
    Removable io fs p := ⟨by rw [FileSystem.exists?, hp]; rfl, hok⟩

/-- A removable file is gone, another one is still there. -/
lemma dir_cleared_of_removable (h : Removable io fs p) : (Turn.cleared io fs p).dir p = none := by
  rw [Turn.cleared, if_pos h.1]
  simp [FileSystem.remove, h.2]

lemma dir_cleared_of_not (hp : fs.dir p = some i) (h : ¬ Removable io fs p) :
    (Turn.cleared io fs p).dir p = some i := by
  have hok : ¬ io.removeOk p = true := fun hok => h (removable_of_dir hp hok)
  rw [Turn.cleared]
  split_ifs
  · simp [FileSystem.remove, hok, hp]
  · exact hp

/-- Without a removable file nothing is taken away. -/
lemma keeps_cleared_of_not {q : String} (h : ¬ Removable io fs q) :
    FileSystem.Keeps p fs (Turn.cleared io fs q) := by
  by_cases hp : p = q
  · subst hp
    rw [Turn.cleared]
    split_ifs with hexists
    · have hok : ¬ io.removeOk p = true := fun hok => h ⟨hexists, hok⟩
      exact ⟨by simp [FileSystem.remove, hok], fun _ => rfl⟩
    · rfl
  · exact keeps_cleared fs hp

lemma dir_cleared_of_none {q : String} (hp : fs.dir p = none) :
    (Turn.cleared io fs q).dir p = none := by
  rw [Turn.cleared]
  split_ifs
  · simp [FileSystem.remove, hp]
  · exact hp

/-- Where nothing changes, everything is intact. -/
lemma intact_of_files (h : t'.files = t.files) : Intact t t' := by
  constructor
  · intro _ _ p _
    rw [h]
  · intro _ i hi hne
    rw [h] at hne
    exact absurd hi hne

/-- Files that were left alone and then cleaned up, without taking away the one at the
destination. -/
lemma intact_of_cleaned (htemp : t'.session.tempFilePath = t.session.tempFilePath)
    (hfinal : t'.session.finalFilePath = t.session.finalFilePath)
    (hkept : ∀ p, FileSystem.Keeps p t.files fs)
    (hfiles : t'.files = cleaned io fs t.session.tempFilePath)
    (h : CleansApart io t.files t.session) : Intact t t' := by
  have hkeeps : ∀ p, p ≠ t.session.tempFilePath → FileSystem.Keeps p t.files t'.files := by
    intro p hp
    rw [hfiles, cleaned]
    split_ifs
    · exact hkept p
    · exact (hkept p).trans (keeps_cleared _ hp)
  refine ⟨fun _ _ p hp => hkeeps p (by rwa [← htemp]), ?_⟩
  intro _ i hi hne
  rw [hfinal] at hi hne
  by_cases heq : t.session.tempFilePath = t.session.finalFilePath
  · -- the own file, which is not removable
    have hstill : fs.dir t.session.finalFilePath = some i := (hkept _).dir.trans hi
    rw [hfiles, cleaned] at hne
    split_ifs at hne with hempty
    · exact absurd hstill hne
    · have hnot : ¬ Removable io fs t.session.finalFilePath := fun hremovable =>
        h hempty heq (removable_of_dir hi hremovable.2)
      rw [heq] at hne
      exact absurd (dir_cleared_of_not hstill hnot) hne
  · exact absurd ((hkeeps _ (Ne.symm heq)).dir.trans hi) hne

/-- **Cleaning up.** -/
lemma intact_cleanup (hdir : t'.session.direction = .Incoming)
    (htemp : t'.session.tempFilePath = t.session.tempFilePath)
    (hfinal : t'.session.finalFilePath = t.session.finalFilePath)
    (hfiles : t'.files = cleaned io t.files t.session.tempFilePath) :
    Intact t t' ↔ CleansApart io t.files t.session := by
  constructor
  · intro h hne heq hremovable
    rw [cleaned, if_neg hne, heq] at hfiles
    obtain ⟨bs, hbs⟩ := FileSystem.exists?_eq_true.mp hremovable.1
    obtain ⟨i, hi, -⟩ := FileSystem.contentAt_eq_some.mp hbs
    have hgone := dir_cleared_of_removable hremovable
    have hreplaced := h.replaced hdir i (by rw [hfinal, hi]) (by rw [hfiles, hfinal, hgone]; simp)
    rw [hfiles, hfinal, FileSystem.contentAt, hgone] at hreplaced
    cases hreplaced
  · exact intact_of_cleaned htemp hfinal (fun _ => .refl _ _) hfiles

/-! ### Moving the file -/

/-- A rename that fails changes nothing. -/
lemma keeps_rename_of_not {a c : String} {ok : Bool} (h : fs.canRename a c ok = false) :
    FileSystem.Keeps p fs (fs.rename a c ok) :=
  ⟨if_neg (by rw [h]; exact Bool.false_ne_true), fun _ => rfl⟩

section Complete

variable (hcome : t.session.direction = .Incoming ∧ t.session.state = .Transferring)
  (hhash : QString.equalCI (sha.hex t.session.cryptoHash) t.session.expectedSha256 = true)

include hcome hhash

variable (tid) in
lemma Turn.complete_moved
    (hcan : (cleared io t.files t.session.finalFilePath).canRename t.session.tempFilePath
      t.session.finalFilePath io.renameOk = true) :
    (t.handleInboundFileComplete sha io tid).session =
        { t.session with
          state := .Completed, fileHandle := t.session.fileHandle.map QFile.close } ∧
      (t.handleInboundFileComplete sha io tid).files =
        MeckChat.Protocol.replaced io t.files t.session.tempFilePath t.session.finalFilePath := by
  simp [handleInboundFileComplete, moveToFinal, hcome.1, hcome.2, hhash, hcan,
    MeckChat.Protocol.replaced]

variable (tid) in
lemma Turn.complete_stuck
    (hcan : (cleared io t.files t.session.finalFilePath).canRename t.session.tempFilePath
      t.session.finalFilePath io.renameOk = false) :
    (t.handleInboundFileComplete sha io tid).session.terms = t.session.terms ∧
      (t.handleInboundFileComplete sha io tid).session.state = .Failed ∧
      (t.handleInboundFileComplete sha io tid).session.tempFilePath = t.session.tempFilePath ∧
      (t.handleInboundFileComplete sha io tid).session.finalFilePath = t.session.finalFilePath ∧
      (t.handleInboundFileComplete sha io tid).files =
        cleaned io (MeckChat.Protocol.replaced io t.files t.session.tempFilePath
          t.session.finalFilePath) t.session.tempFilePath := by
  simp [-files_cleanupSession, files_cleanup, handleInboundFileComplete, moveToFinal, hcome.1,
    hcome.2, hhash, hcan, MeckChat.Protocol.replaced, FileTransferSession.terms]

/-- **A complete file.** -/
lemma intact_complete :
    Intact t (t.handleInboundFileComplete sha io tid) ↔
      (Removable io t.files t.session.finalFilePath →
        io.renameOk = true ∧ t.session.tempFilePath ≠ t.session.finalFilePath ∧
          t.files.contentAt t.session.tempFilePath = some t.session.cryptoHash) := by
  cases hcan : (Turn.cleared io t.files t.session.finalFilePath).canRename t.session.tempFilePath
      t.session.finalFilePath io.renameOk with
  | true =>
      obtain ⟨hsession, hfiles⟩ := t.complete_moved tid hcome hhash hcan
      obtain ⟨hok, hsource, htarget⟩ := FileSystem.canRename_eq_true.mp hcan
      have hne : t.session.tempFilePath ≠ t.session.finalFilePath := by
        intro heq
        rw [heq, htarget] at hsource
        cases hsource
      have hcontent : (t.handleInboundFileComplete sha io tid).files.contentAt
          t.session.finalFilePath = t.files.contentAt t.session.tempFilePath := by
        rw [hfiles, replaced, FileSystem.contentAt_rename, if_pos hcan, if_pos rfl,
          contentAt_cleared_of_ne hne]
      have hmoved : (t.handleInboundFileComplete sha io tid).files.dir t.session.finalFilePath =
          t.files.dir t.session.tempFilePath := by
        rw [hfiles, replaced]
        show (if _ then _ else _) = _
        rw [if_pos hcan, if_pos rfl]
        exact (keeps_cleared t.files hne).dir
      constructor
      · intro h hremovable
        obtain ⟨bs, hbs⟩ := FileSystem.exists?_eq_true.mp hremovable.1
        obtain ⟨i, hi, -⟩ := FileSystem.contentAt_eq_some.mp hbs
        have hreplaced := h.replaced (by rw [hsession]; exact hcome.1) i
          (by rw [hsession]; exact hi) (by rw [hsession, hmoved]; exact FileSystem.dir_ne hne hi)
        rw [hsession, hcontent] at hreplaced
        exact ⟨hok, hne, hreplaced⟩
      · intro h
        constructor
        · intro _ hstate
          rw [hsession] at hstate
          exact absurd (show TransferState.Completed.Unsuccessful from hstate) (by decide)
        · intro _ i hi _
          rw [hsession] at hi ⊢
          rw [hcontent]
          -- the old file had to go for the rename to succeed
          have hremovable : Removable io t.files t.session.finalFilePath := by
            by_contra hnot
            rw [FileSystem.exists?, dir_cleared_of_not hi hnot] at htarget
            cases htarget
          exact (h hremovable).2.2
  | false =>
      obtain ⟨hterms, hstate, htemp, hfinal, hfiles⟩ :=
        t.complete_stuck tid hcome hhash hcan
      have hdir : (t.handleInboundFileComplete sha io tid).session.direction = .Incoming :=
        (congrArg Terms.direction hterms).trans hcome.1
      constructor
      · intro h hremovable
        obtain ⟨bs, hbs⟩ := FileSystem.exists?_eq_true.mp hremovable.1
        obtain ⟨i, hi, -⟩ := FileSystem.contentAt_eq_some.mp hbs
        have hgone : (t.handleInboundFileComplete sha io tid).files.dir
            t.session.finalFilePath = none := by
          have hreplaced : (replaced io t.files t.session.tempFilePath
              t.session.finalFilePath).dir t.session.finalFilePath = none :=
            (keeps_rename_of_not hcan).dir.trans (dir_cleared_of_removable hremovable)
          rw [hfiles, cleaned]
          split_ifs
          · exact hreplaced
          · exact dir_cleared_of_none hreplaced
        have hreplaced := h.replaced hdir i (by rw [hfinal]; exact hi)
          (by rw [hfinal, hgone]; simp)
        rw [hfinal, FileSystem.contentAt, hgone] at hreplaced
        cases hreplaced
      · intro h
        have hnot : ¬ Removable io t.files t.session.finalFilePath := by
          intro hremovable
          obtain ⟨hok, hne, hcontent⟩ := h hremovable
          have hmovable : Movable io t.files t.session.tempFilePath t.session.finalFilePath :=
            ⟨hne, hok, fun _ => hremovable.2⟩
          rw [hmovable.canRename hcontent] at hcan
          cases hcan
        have hkept : ∀ p, FileSystem.Keeps p t.files
            (replaced io t.files t.session.tempFilePath t.session.finalFilePath) :=
          fun p => (keeps_cleared_of_not hnot).trans (keeps_rename_of_not hcan)
        refine intact_of_cleaned htemp hfinal hkept hfiles ?_
        exact fun _ _ => hnot

end Complete

/-! ### Accepting -/

/-- A path keeps its file object when the same or another path is opened. -/
lemma dir_openTruncate_of_dir {q : String} (hp : fs.dir p = some i) :
    (fs.openTruncate q).dir p = some i := by
  rw [FileSystem.dir_openTruncate]
  split_ifs with hq
  · rw [← hq, FileSystem.opened, hp, Option.getD_some]
  · exact hp

variable {dir : String}

/-- **An empty file.** -/
lemma intact_accept_empty
    (hcome : t.session.state = .Offering ∧ t.session.direction = .Incoming)
    (hopen : io.openOk = true) (hsize : t.session.fileSize = 0) :
    Intact t (t.acceptTransfer json io b tid dir).1 ↔
      (Removable io t.files (finalPath io dir t.session) →
        io.renameOk = true ∧ tempPath io tid dir ≠ finalPath io dir t.session) := by
  obtain ⟨hsession, hfiles⟩ := t.acceptTransfer_empty json io b tid dir hcome hopen hsize
  generalize (t.acceptTransfer json io b tid dir).1 = t' at hsession hfiles ⊢
  generalize htarget : finalPath io dir t.session = target at hsession hfiles ⊢
  generalize htemp : tempPath io tid dir = temp at hsession hfiles ⊢
  have hopened : (t.files.openTruncate temp).contentAt temp = some [] := by
    rw [FileSystem.contentAt_openTruncate, if_pos rfl]
  constructor
  · intro h hremovable
    obtain ⟨bs, hbs⟩ := FileSystem.exists?_eq_true.mp hremovable.1
    obtain ⟨i, hi, -⟩ := FileSystem.contentAt_eq_some.mp hbs
    have hthere := removable_of_dir (dir_openTruncate_of_dir (q := temp) hi) hremovable.2
    cases hcan : (Turn.cleared io (t.files.openTruncate temp) target).canRename temp target
        io.renameOk with
    | true =>
        obtain ⟨hok, hsource, hfree⟩ := FileSystem.canRename_eq_true.mp hcan
        refine ⟨hok, ?_⟩
        rintro rfl
        rw [hfree] at hsource
        cases hsource
    | false =>
        have hgone : t'.files.dir target = none := by
          rw [hfiles]
          exact (keeps_rename_of_not hcan).dir.trans (dir_cleared_of_removable hthere)
        have hreplaced := h.replaced (by rw [hsession]; exact hcome.2) i
          (by rw [hsession]; exact hi) (by rw [hsession, hgone]; simp)
        rw [hsession, FileSystem.contentAt, hgone] at hreplaced
        cases hreplaced
  · intro h
    constructor
    · intro _ hstate
      rw [hsession] at hstate
      exact absurd (show TransferState.Completed.Unsuccessful from hstate) (by decide)
    · intro _ i hi hne
      rw [hsession] at hi hne ⊢
      have hthere : (t.files.openTruncate temp).dir target = some i := dir_openTruncate_of_dir hi
      by_cases hremovable : Removable io (t.files.openTruncate temp) target
      · obtain ⟨hok, hapart⟩ := h (removable_of_dir hi hremovable.2)
        have hmovable : Movable io (t.files.openTruncate temp) temp target :=
          ⟨hapart, hok, fun _ => hremovable.2⟩
        rw [hfiles]
        exact contentAt_replaced hmovable hopened
      · -- the file that is still there is in the way of the rename
        have hstill := dir_cleared_of_not hthere hremovable
        have hcan : (Turn.cleared io (t.files.openTruncate temp) target).canRename temp target
            io.renameOk = false := by
          rw [FileSystem.canRename, FileSystem.exists?, FileSystem.exists?, hstill]
          simp
        rw [hfiles] at hne
        exact absurd ((keeps_rename_of_not hcan).dir.trans hstill) hne

/-- Writing moves no file. -/
lemma Turn.dir_writeData (io : Io) (t : Turn) (data : Bytes) :
    (t.writeData io data).files.dir = t.files.dir := by
  rw [Turn.writeData]
  cases t.session.fileHandle with
  | none => rfl
  | some h =>
      dsimp only
      split_ifs
      · exact FileSystem.dir_writeAt _ _
      · rfl

variable (json) in
/-- Sending only reads. -/
lemma Turn.files_sendNextChunk (io : Io) (b : Bool) (tid : String) (t : Turn) :
    (t.sendNextChunk json io b tid).files = t.files := by
  rw [Turn.sendNextChunk]
  split_ifs
  · rfl
  · simp [Turn.sendComplete]
  · simp
  · simp [Turn.sendChunk]

/-- What a handler does to the files, for every request. -/
theorem Request.run_intact (r : Request) (hdir : t.session.direction = .Incoming) :
    Intact t (r.run json sha io b tid t) ↔ r.Replaces sha io tid t.session t.files := by
  cases r with
  | acceptTransfer dir =>
      rw [run, Replaces]
      by_cases hcome : t.session.state = .Offering
      · cases hopen : io.openOk with
        | false =>
            refine iff_of_true (intact_of_files ?_) fun _ h => Bool.noConfusion h
            exact (t.acceptTransfer_failed json io b tid dir ⟨hcome, hdir⟩ hopen).2
        | true =>
            by_cases hsize : t.session.fileSize = 0
            · rw [intact_accept_empty ⟨hcome, hdir⟩ hopen hsize]
              exact ⟨fun h _ _ _ => h, fun h => h hcome rfl hsize⟩
            · obtain ⟨hsession, hfiles⟩ :=
                t.acceptTransfer_receiving json io b tid dir ⟨hcome, hdir⟩ hopen hsize
              refine iff_of_true ⟨?_, ?_⟩ fun _ _ h => absurd h hsize
              · intro _ hstate
                rw [hsession] at hstate
                exact absurd (show TransferState.Transferring.Unsuccessful from hstate) (by decide)
              · intro _ i hi hne
                rw [hfiles] at hne
                exact absurd (dir_openTruncate_of_dir hi) hne
      · refine iff_of_true (intact_of_files ?_) fun h => absurd h hcome
        rw [t.acceptTransfer_refused json io b tid dir (.inl hcome)]
  | rejectTransfer reason =>
      exact intact_cleanup (by simpa [run, Turn.rejectTransfer] using hdir)
        (by simp [run, Turn.rejectTransfer]) (by simp [run, Turn.rejectTransfer])
        (by simp [-Turn.files_cleanupSession, files_cleanup, run, Turn.rejectTransfer])
  | cancelTransfer reason =>
      exact intact_cleanup (by simpa [run, Turn.cancelTransfer] using hdir)
        (by simp [run, Turn.cancelTransfer]) (by simp [run, Turn.cancelTransfer])
        (by simp [-Turn.files_cleanupSession, files_cleanup, run, Turn.cancelTransfer])
  | fileAccept =>
      refine iff_of_true (intact_of_files ?_) trivial
      simp [run, Turn.handleInboundFileAccept, hdir]
  | fileReject reason =>
      exact intact_cleanup (by simpa [run, Turn.handleInboundFileReject] using hdir)
        (by simp [run, Turn.handleInboundFileReject]) (by simp [run, Turn.handleInboundFileReject])
        (by simp [-Turn.files_cleanupSession, files_cleanup, run, Turn.handleInboundFileReject])
  | fileCancel reason =>
      exact intact_cleanup (by simpa [run, Turn.handleInboundFileCancel] using hdir)
        (by simp [run, Turn.handleInboundFileCancel]) (by simp [run, Turn.handleInboundFileCancel])
        (by simp [-Turn.files_cleanupSession, files_cleanup, run, Turn.handleInboundFileCancel])
  | fileChunk index data =>
      rw [run, Turn.handleInboundFileChunk, Replaces]
      by_cases hstate : t.session.state = .Transferring
      · rw [if_neg (by simp [hstate, hdir])]
        by_cases hindex : index = t.session.currentChunkIndex
        · rw [if_neg (not_not.mpr hindex)]
          refine iff_of_true ?_ fun _ h => absurd hindex h
          constructor
          · intro _ hfinished
            rw [Turn.session_emit, Turn.session_countChunk, Turn.session_addData] at hfinished
            dsimp only at hfinished
            rw [Turn.state_writeData, hstate] at hfinished
            exact absurd hfinished (by decide)
          · intro _ i hi hne
            rw [Turn.files_emit, Turn.files_countChunk, Turn.files_addData,
              Turn.dir_writeData] at hne
            exact absurd hi hne
        · rw [if_pos hindex]
          refine (intact_cleanup ?_ ?_ ?_ ?_).trans ⟨fun h _ _ => h, fun h => h hstate hindex⟩
          · simpa using hdir
          · simp
          · simp
          · simp [-Turn.files_cleanupSession, files_cleanup]
      · rw [if_pos (.inl hstate)]
        exact iff_of_true (intact_of_files rfl) fun h => absurd h hstate
  | fileComplete =>
      rw [run, Replaces]
      by_cases hstate : t.session.state = .Transferring
      · cases hhash : QString.equalCI (sha.hex t.session.cryptoHash) t.session.expectedSha256 with
        | true =>
            rw [intact_complete ⟨hdir, hstate⟩ hhash]
            simp [hstate]
        | false =>
            have hclean : Intact t (t.handleInboundFileComplete sha io tid) ↔
                CleansApart io t.files t.session := by
              refine intact_cleanup ?_ ?_ ?_ ?_
              all_goals
                simp [-Turn.files_cleanupSession, files_cleanup, Turn.handleInboundFileComplete,
                  hdir, hstate, hhash]
            rw [hclean]
            simp [hstate]
      · refine iff_of_true (intact_of_files ?_) fun h => absurd h hstate
        rw [Turn.handleInboundFileComplete, if_pos (.inr hstate)]
  | sendNextChunk =>
      exact iff_of_true (intact_of_files (Turn.files_sendNextChunk json io b tid t)) trivial
  | disconnected =>
      rw [run, Turn.onSocketDisconnected, Replaces]
      split_ifs with hstate
      · refine (intact_cleanup ?_ ?_ ?_ ?_).trans ⟨fun h _ => h, fun h => h hstate⟩
        · simpa using hdir
        · simp
        · simp
        · simp [-Turn.files_cleanupSession, files_cleanup]
      · exact iff_of_true (intact_of_files rfl) fun h => absurd h hstate

end Handlers

/-! ### Whole runs -/

/-- What a handler on an incoming session takes away at the destination can be
replaced. -/
def Handled.Replaces (h : Handled) : Prop :=
  h.before.session.direction = .Incoming →
    h.request.Replaces sha h.io h.transferId h.before.session h.before.files

lemma Handled.intact_iff (h : Handled) : Intact h.before (h.after json sha) ↔ h.Replaces sha := by
  cases hdir : h.before.session.direction with
  | Incoming =>
      rw [after, Request.run_intact h.request hdir]
      exact ⟨fun hreplaces _ => hreplaces, fun hreplaces => hreplaces hdir⟩
  | Outgoing =>
      have hterms := h.request.run_terms json sha h.io h.m_socket h.transferId h.before
      have hkept : (h.after json sha).session.direction = .Outgoing :=
        (congrArg Terms.direction hterms).trans hdir
      refine iff_of_true ⟨?_, ?_⟩ ?_
      · intro hcome
        rw [hkept] at hcome
        cases hcome
      · intro hcome
        rw [hkept] at hcome
        cases hcome
      · intro hcome
        rw [hdir] at hcome
        cases hcome

namespace FileTransferController

/-- The controller as a machine that shows its handlers at work. -/
abbrev atWork : Machine FileTransferController (Event × Io) Handled :=
  (machine json sha).observed fun c e => c.handlings json sha e

/-- **The destination of a transfer.** In every run of a new controller, whatever opens,
writes, removals and renames do: all files are what the handlers of the run made of them
one after the other, and every session that ended without success was left so by one of
them. They leave the destination and all other files intact exactly if the files that
they take away at a destination could be replaced. -/
theorem destination_intact (m_socket : Bool) (files : FileSystem) (es : List (Event × Io)) :
    let (log, c) := (atWork json sha).exec (init m_socket files) es
    Chain json sha files log c.files ∧
      (∀ tid s, c.m_sessions.value? tid = some s → s.state.Unsuccessful →
        ∃ h ∈ log, h.transferId = tid ∧ (h.after json sha).session = s) ∧
      ((∀ h ∈ log, Intact h.before (h.after json sha)) ↔ ∀ h ∈ log, h.Replaces sha) := by
  generalize hexec : (atWork json sha).exec (init m_socket files) es = r
  obtain ⟨log, c⟩ := r
  have hrun := Run.exec_all (atWork json sha) (init m_socket files) es
  rw [hexec] at hrun
  refine ⟨?_, ?_, ?_⟩
  · refine hrun.invariant_log (I := fun _ log c => Chain json sha files log c.files) ?_ ?_
    · rfl
    · exact fun _ log c e h _ => h.append (chain_step c e)
  · refine hrun.invariant_log (I := fun _ log c => ∀ tid s, c.m_sessions.value? tid = some s →
      s.state.Unsuccessful → ∃ h ∈ log, h.transferId = tid ∧ (h.after json sha).session = s) ?_ ?_
    · intro tid s hs
      rw [init, QMap.value?_empty] at hs
      cases hs
    · intro _ log c e h _ tid s hs hended
      have hoffered : s.state ≠ .Offering := by
        intro hoffering
        rw [hoffering] at hended
        exact absurd hended (by decide)
      rcases leftBy_step hs hoffered with hold | ⟨x, hx, hleft⟩
      · obtain ⟨x, hx, hleft⟩ := h tid s hold hended
        exact ⟨x, List.mem_append_left _ hx, hleft⟩
      · exact ⟨x, List.mem_append_right _ hx, hleft⟩
  · exact forall₂_congr fun h _ => h.intact_iff json sha

/-- A file that was there before the transfer. -/
def oldFile : FileSystem := (FileSystem.empty.openTruncate "/home/in/b.txt").writeAt 0 0 [0x62]

/-- The offer is accepted, and the file that was received cannot be moved. -/
def acceptStuck : Event × Io :=
  (.acceptTransfer "ft_fedcba9876543" "/home/in", { renameOk := false })

/-- **A lost file.** The old file at the destination is removed, and nothing takes its
place. -/
theorem destination_lost :
    ¬ ∀ h ∈ ((atWork compact .sample).exec (init true oldFile)
        [offerArrives (Sha256.sample.hex []), acceptStuck]).1,
      Intact h.before (h.after compact .sample) := by
  intro hall
  have hhash : Sha256.sample.hex [] ≠ "" := Sha256.hex_ne_empty _ _
  obtain ⟨s, hs⟩ : ∃ s, s = incomingSession 0 (emptyOffer (Sha256.sample.hex [])) := ⟨_, rfl⟩
  obtain ⟨h, hh⟩ : ∃ h : Handled, h = ⟨acceptStuck.2, true, "ft_fedcba9876543",
      .acceptTransfer "/home/in", { session := s, files := oldFile }⟩ := ⟨_, rfl⟩
  have hmem : h ∈ ((atWork compact .sample).exec (init true oldFile)
      [offerArrives (Sha256.sample.hex []), acceptStuck]).1 := by
    have hoffer : (init true oldFile).handlings compact .sample
        (offerArrives (Sha256.sample.hex [])) = [] := by
      rw [handlings, command_offerArrives hhash]
    rw [Machine.exec, Machine.exec, Machine.exec, Machine.observed_step, hoffer,
      step_offerArrives hhash, Machine.observed_step]
    rw [hh, hs]
    exact List.mem_singleton_self _
  have hreplaced := (hall h hmem).replaced
  rw [hh, hs] at hreplaced
  have hgone := hreplaced (by decide +kernel) 0 (by decide +kernel) (by decide +kernel)
  exact absurd hgone (by decide +kernel)

end FileTransferController

end MeckChat.Protocol
