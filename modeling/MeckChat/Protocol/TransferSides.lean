import MeckChat.Protocol.TransferResources
import MeckChat.Qt.FileViews

/-!
Transfers on two sides that share no path.

* `Located Q s`: the paths of a session, once it has some, are in `Q`. `Avoids M fs s`: what it
  writes to is not in `M`.
* `Request.run_located` and `Request.run_leaves`: the handlers keep to the side of their
  session, and leave the files of the other side alone.
-/

namespace MeckChat.Protocol

open Qt QJson FileTransferController

variable (json : JsonCodec) (sha : Sha256)

/-- The paths of a session are in `Q`, and it has some while it receives. -/
structure Located (Q : Set String) (s : FileTransferSession) : Prop where
  paths : s.tempFilePath ≠ "" → s.tempFilePath ∈ Q ∧ s.finalFilePath ∈ Q
  live : s.Live → s.tempFilePath ≠ ""

/-- The object that a session writes to exists and is not in `M`. -/
def Avoids (M : Set ℕ) (fs : FileSystem) (s : FileTransferSession) : Prop :=
  ∀ h, s.fileHandle = some h → h.isOpen = true → h.mode = .WriteOnly →
    h.inode ∉ M ∧ h.inode < fs.next

/-- An acceptance is into paths in `Q`. -/
def Request.AcceptsIn (Q : Set String) (io : Io) (tid : String) (s : FileTransferSession)
    (r : Request) : Prop :=
  ∀ dir, r = .acceptTransfer dir → s.state = .Offering → s.direction = .Incoming →
    tempPath io tid dir ∈ Q ∧ finalPath io dir s ∈ Q

section Handlers

variable {json sha}
variable {io : Io} {b : Bool} {tid dir : String} {t t' : Turn} {fs fs' : FileSystem}
  {p q : String} {s s' : FileTransferSession} {P Q : Set String} {M : Set ℕ}

/-! ### Where a session is -/

variable (json sha io b tid) in
/-- Nothing but an acceptance makes a session receive. -/
lemma Request.run_live (r : Request) (haccept : ∀ dir, r ≠ .acceptTransfer dir)
    (hlive : (r.run json sha io b tid t).session.Live) : t.session.Live := by
  have hterms := r.run_terms json sha io b tid t
  have hdir : t.session.direction = .Incoming :=
    (congrArg Terms.direction hterms).symm.trans hlive.1
  refine ⟨hdir, ?_⟩
  have hstate := hlive.2
  by_contra hidle
  cases r with
  | acceptTransfer dir => exact haccept dir rfl
  | rejectTransfer reason => simp [run, Turn.rejectTransfer] at hstate
  | cancelTransfer reason => simp [run, Turn.cancelTransfer] at hstate
  | fileAccept => simp [run, Turn.handleInboundFileAccept, hdir, hidle] at hstate
  | fileReject reason => simp [run, Turn.handleInboundFileReject] at hstate
  | fileChunk index data => simp [run, Turn.handleInboundFileChunk, hidle] at hstate
  | fileComplete => simp [run, Turn.handleInboundFileComplete, hidle] at hstate
  | fileCancel reason => simp [run, Turn.handleInboundFileCancel] at hstate
  | sendNextChunk => simp [run, Turn.sendNextChunk, hidle] at hstate
  | disconnected =>
      rw [run, Turn.onSocketDisconnected] at hstate
      split_ifs at hstate
      · simp at hstate
      · exact hidle hstate

variable (json sha io b tid) in
/-- **Step lemma for the side of a session.** -/
theorem Request.run_located (r : Request) (h : Located Q t.session)
    (haccept : r.AcceptsIn Q io tid t.session) :
    Located Q (r.run json sha io b tid t).session := by
  by_cases hnone : ∀ dir, r ≠ .acceptTransfer dir
  · obtain ⟨htemp, hfinal⟩ := r.run_paths json sha io b tid t hnone
    constructor
    · rw [htemp, hfinal]
      exact h.paths
    · intro hlive
      rw [htemp]
      exact h.live (r.run_live json sha io b tid hnone hlive)
  · obtain ⟨dir, rfl⟩ := not_forall_not.mp hnone
    rw [run]
    by_cases hoffer : t.session.state = .Offering ∧ t.session.direction = .Incoming
    · obtain ⟨htemp, hfinal⟩ := t.paths_acceptTransfer json io b tid dir hoffer
      constructor
      · rw [htemp, hfinal]
        exact fun _ => haccept dir rfl hoffer.1 hoffer.2
      · rw [htemp]
        exact fun _ => tempPath_ne_empty io tid dir
    · rw [t.acceptTransfer_refused json io b tid dir (by tauto)]
      exact h

/-! ### What a handler leaves alone -/

lemma avoids_closed {h : Option QFile} (hhandle : s.fileHandle = h.map QFile.close) :
    Avoids M fs s := by
  intro g hg hopen
  rw [hhandle, Option.map_eq_some_iff] at hg
  obtain ⟨h, -, rfl⟩ := hg
  cases hopen

lemma Avoids.mono (h : Avoids M fs s) (hhandle : s'.fileHandle = s.fileHandle)
    (hnext : fs.next ≤ fs'.next) : Avoids M fs' s' := by
  intro g hg hopen hmode
  rw [hhandle] at hg
  obtain ⟨hnot, hlt⟩ := h g hg hopen hmode
  exact ⟨hnot, hlt.trans_le hnext⟩

variable (io) in
lemma leaves_cleared (h : FileSystem.Holds P M fs) (hq : q ∉ P) :
    FileSystem.Leaves P M fs (Turn.cleared io fs q) := by
  rw [Turn.cleared]
  split_ifs
  · exact FileSystem.leaves_remove h hq _
  · exact .refl h

lemma leaves_cleaned (h : FileSystem.Holds P M fs) (hloc : Located Pᶜ s) :
    FileSystem.Leaves P M fs (cleaned io fs s.tempFilePath) := by
  rw [cleaned]
  split_ifs with hempty
  · exact .refl h
  · exact leaves_cleared io h (hloc.paths hempty).1

variable (io) in
lemma leaves_replaced (h : FileSystem.Holds P M fs) (hp : p ∉ P) (hq : q ∉ P) :
    FileSystem.Leaves P M fs (replaced io fs p q) := by
  have hcleared := leaves_cleared io h hq
  exact hcleared.trans (FileSystem.leaves_rename hcleared.holds hp hq _)

variable (io) in
/-- Whoever closes the handle and cleans up. -/
lemma leaves_of_cleaned (hholds : FileSystem.Holds P M t.files) (hloc : Located Pᶜ t.session)
    (hhandle : t'.session.fileHandle = t.session.fileHandle.map QFile.close)
    (hfiles : t'.files = cleaned io t.files t.session.tempFilePath) :
    FileSystem.Leaves P M t.files t'.files ∧ Avoids M t'.files t'.session := by
  rw [hfiles]
  exact ⟨leaves_cleaned hholds hloc, avoids_closed hhandle⟩

variable (io) in
/-- Writing is into the own object. -/
lemma leaves_writeData (hholds : FileSystem.Holds P M t.files)
    (havoids : Avoids M t.files t.session) (data : Bytes) :
    FileSystem.Leaves P M t.files (t.writeData io data).files ∧
      Avoids M (t.writeData io data).files (t.writeData io data).session := by
  rw [Turn.writeData]
  cases hh : t.session.fileHandle with
  | none =>
      refine ⟨.refl hholds, ?_⟩
      intro g hg
      rw [hh] at hg
      cases hg
  | some h =>
      dsimp only
      split_ifs with hopen
      · rw [Bool.and_eq_true, decide_eq_true_eq] at hopen
        obtain ⟨hnot, hlt⟩ := havoids h hh hopen.1 hopen.2
        refine ⟨FileSystem.leaves_writeAt hholds hnot _ _, ?_⟩
        intro g hg _ _
        rw [← Option.some_inj.mp hg]
        exact ⟨hnot, hlt⟩
      · exact ⟨.refl hholds, havoids⟩

/-- Reading goes on with an object that is not written to. -/
lemma avoids_sendNextChunk (havoids : Avoids M t.files t.session) :
    Avoids M t.files (t.sendNextChunk json io b tid).session := by
  rw [Turn.sendNextChunk]
  split_ifs
  · exact havoids
  · exact avoids_closed (h := t.session.fileHandle) (by simp [Turn.sendComplete])
  · exact havoids.mono rfl le_rfl
  · intro g hg hopen hmode
    rw [Turn.sendChunk] at hg
    obtain ⟨h, hh, rfl⟩ := Option.map_eq_some_iff.mp hg
    exact havoids h hh hopen hmode

variable (json io b tid) in
lemma leaves_acceptTransfer (hholds : FileSystem.Holds P M t.files)
    (hoffer : t.session.state = .Offering ∧ t.session.direction = .Incoming)
    (hinto : tempPath io tid dir ∉ P ∧ finalPath io dir t.session ∉ P) :
    FileSystem.Leaves P M t.files (t.acceptTransfer json io b tid dir).1.files ∧
      Avoids M (t.acceptTransfer json io b tid dir).1.files
        (t.acceptTransfer json io b tid dir).1.session := by
  cases hopen : io.openOk with
  | false =>
      rw [(t.acceptTransfer_failed json io b tid dir hoffer hopen).2]
      refine ⟨.refl hholds, ?_⟩
      intro g hg hisOpen
      rw [handle_acceptTransfer_failed json b tid dir hoffer hopen, Option.some.injEq] at hg
      rw [← hg] at hisOpen
      cases hisOpen
  | true =>
      have hopened := FileSystem.leaves_openTruncate hholds hinto.1
      by_cases hsize : t.session.fileSize = 0
      · obtain ⟨hsession, hfiles⟩ := t.acceptTransfer_empty json io b tid dir hoffer hopen hsize
        rw [hsession, hfiles]
        refine ⟨hopened.trans (leaves_replaced io hopened.holds hinto.1 hinto.2), ?_⟩
        intro g hg hisOpen
        rw [← Option.some_inj.mp hg] at hisOpen
        cases hisOpen
      · obtain ⟨hsession, hfiles⟩ :=
          t.acceptTransfer_receiving json io b tid dir hoffer hopen hsize
        rw [hsession, hfiles]
        refine ⟨hopened, ?_⟩
        intro g hg _ _
        rw [← Option.some_inj.mp hg]
        exact ⟨hholds.opened_notMem hinto.1, FileSystem.opened_lt _ _⟩

variable (tid) in
lemma leaves_handleInboundFileComplete (hholds : FileSystem.Holds P M t.files)
    (hloc : Located Pᶜ t.session)
    (hlive : t.session.direction = .Incoming ∧ t.session.state = .Transferring) :
    FileSystem.Leaves P M t.files (t.handleInboundFileComplete sha io tid).files ∧
      Avoids M (t.handleInboundFileComplete sha io tid).files
        (t.handleInboundFileComplete sha io tid).session := by
  obtain ⟨h, hclosed⟩ := handle_handleInboundFileComplete sha io tid hlive
  refine ⟨?_, avoids_closed hclosed⟩
  obtain ⟨htemp, hfinal⟩ := hloc.paths (hloc.live hlive)
  have hmoved := leaves_replaced io hholds htemp hfinal
  cases hhash : QString.equalCI (sha.hex t.session.cryptoHash) t.session.expectedSha256 with
  | true =>
      cases hcan : (Turn.cleared io t.files t.session.finalFilePath).canRename
          t.session.tempFilePath t.session.finalFilePath io.renameOk with
      | true =>
          rw [(t.complete_moved tid hlive hhash hcan).2]
          exact hmoved
      | false =>
          rw [(t.complete_stuck tid hlive hhash hcan).2.2.2.2]
          exact hmoved.trans (leaves_cleaned hmoved.holds hloc)
  | false =>
      have hfiles : (t.handleInboundFileComplete sha io tid).files =
          cleaned io t.files t.session.tempFilePath := by
        simp [-Turn.files_cleanupSession, files_cleanup, Turn.handleInboundFileComplete, hlive.1,
          hlive.2, hhash]
      rw [hfiles]
      exact leaves_cleaned hholds hloc

variable (json sha io b tid) in
/-- **Step lemma for the other side.** -/
theorem Request.run_leaves (r : Request) (hholds : FileSystem.Holds P M t.files)
    (hloc : Located Pᶜ t.session) (havoids : Avoids M t.files t.session)
    (haccept : r.AcceptsIn Pᶜ io tid t.session) :
    FileSystem.Leaves P M t.files (r.run json sha io b tid t).files ∧
      Avoids M (r.run json sha io b tid t).files (r.run json sha io b tid t).session := by
  cases r with
  | acceptTransfer dir =>
      rw [run]
      by_cases hoffer : t.session.state = .Offering ∧ t.session.direction = .Incoming
      · exact leaves_acceptTransfer json io b tid hholds hoffer
          (haccept dir rfl hoffer.1 hoffer.2)
      · rw [t.acceptTransfer_refused json io b tid dir (by tauto)]
        exact ⟨.refl hholds, havoids⟩
  | rejectTransfer reason =>
      refine leaves_of_cleaned io hholds hloc ?_ ?_
      · simp [run, Turn.rejectTransfer]
      · simp [-Turn.files_cleanupSession, files_cleanup, run, Turn.rejectTransfer]
  | cancelTransfer reason =>
      refine leaves_of_cleaned io hholds hloc ?_ ?_
      · simp [run, Turn.cancelTransfer]
      · simp [-Turn.files_cleanupSession, files_cleanup, run, Turn.cancelTransfer]
  | fileAccept =>
      simp only [run, Turn.handleInboundFileAccept]
      have hsource : Avoids M t.files (t.openSource io).session := by
        intro g hg hopen hmode
        rw [Turn.session_openSource, Option.some.injEq] at hg
        rw [← hg] at hopen hmode
        obtain ⟨i, -, heq⟩ := QFile.isOpen_openRead hopen
        rw [heq] at hmode
        cases hmode
      split_ifs
      · exact ⟨.refl hholds, havoids⟩
      · rw [Turn.files_sendNextChunk]
        exact ⟨.refl hholds, avoids_sendNextChunk (hsource.mono rfl le_rfl)⟩
      · exact ⟨.refl hholds, hsource.mono rfl le_rfl⟩
  | fileReject reason =>
      refine leaves_of_cleaned io hholds hloc ?_ ?_
      · simp [run, Turn.handleInboundFileReject]
      · simp [-Turn.files_cleanupSession, files_cleanup, run, Turn.handleInboundFileReject]
  | fileChunk index data =>
      rw [run, Turn.handleInboundFileChunk]
      split_ifs
      · exact ⟨.refl hholds, havoids⟩
      · refine leaves_of_cleaned io hholds hloc ?_ ?_
        · simp
        · simp [-Turn.files_cleanupSession, files_cleanup]
      · obtain ⟨hleaves, hwritten⟩ := leaves_writeData io hholds havoids data
        exact ⟨hleaves, hwritten.mono rfl le_rfl⟩
  | fileComplete =>
      rw [run]
      by_cases hlive : t.session.direction = .Incoming ∧ t.session.state = .Transferring
      · exact leaves_handleInboundFileComplete tid hholds hloc hlive
      · rw [Turn.handleInboundFileComplete, if_pos (by tauto)]
        exact ⟨.refl hholds, havoids⟩
  | fileCancel reason =>
      refine leaves_of_cleaned io hholds hloc ?_ ?_
      · simp [run, Turn.handleInboundFileCancel]
      · simp [-Turn.files_cleanupSession, files_cleanup, run, Turn.handleInboundFileCancel]
  | sendNextChunk =>
      rw [run, Turn.files_sendNextChunk]
      exact ⟨.refl hholds, avoids_sendNextChunk havoids⟩
  | disconnected =>
      rw [run, Turn.onSocketDisconnected]
      split_ifs
      · refine leaves_of_cleaned io hholds hloc ?_ ?_
        · simp
        · simp [-Turn.files_cleanupSession, files_cleanup]
      · exact ⟨.refl hholds, havoids⟩

end Handlers

end MeckChat.Protocol
