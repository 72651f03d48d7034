import MeckChat.Protocol.TransferLifecycle

/-!
Consent: what is sent and what is written needs the agreement of the side it
concerns.

* `Request.run_chunkFrame` is the step lemma for sending: a chunk leaves only
  from an outgoing session, when the peer's acceptance is handled or while it
  is transferring. `Agreed` ties transferring sessions to an acceptance in the
  history.
* `Request.run_final` says that a session in a final state stays in one, under
  every request; `Closed` follows a closed session object through a run, timers
  included.
* `Request.run_untouched` is the step lemma for files: a session that never
  passed the check of `acceptTransfer` has no temporary path and no transfer
  going, so its handlers touch no file. `Asked` carries this through a run.
* `consent` assembles both halves.
-/

namespace MeckChat.Protocol

open Qt QJson FileTransferController

variable (json : JsonCodec) (sha : Sha256)

/-! ### Chunks -/

/-- The file chunk a deed sends. -/
def Deed.chunkFrame? : Deed → Option P2PFrame
  | .sendFrame frame => if frame.type = .FileChunk then some frame else none
  | _ => none

/-- The file chunks sent, in order. -/
def chunkFrames (deeds : List Deed) : List P2PFrame := deeds.filterMap Deed.chunkFrame?

lemma mem_chunkFrames {deeds : List Deed} {frame : P2PFrame} :
    frame ∈ chunkFrames deeds ↔ .sendFrame frame ∈ deeds ∧ frame.type = .FileChunk := by
  rw [chunkFrames, List.mem_filterMap]
  constructor
  · rintro ⟨d, hd, hf⟩
    cases d with
    | sendFrame g =>
        rw [Deed.chunkFrame?] at hf
        split_ifs at hf with htype
        rw [Option.some.injEq] at hf
        rw [← hf]
        exact ⟨hd, htype⟩
    | _ => simp [Deed.chunkFrame?] at hf
  · rintro ⟨hd, htype⟩
    exact ⟨_, hd, if_pos htype⟩

@[simp] lemma chunkFrame?_state (a : TransferState) : (Deed.state a).chunkFrame? = none := rfl
@[simp] lemma chunkFrame?_signal (s : Signal) : (Deed.signal s).chunkFrame? = none := rfl
@[simp] lemma chunkFrame?_file (op : FileOp) : (Deed.file op).chunkFrame? = none := rfl
@[simp] lemma chunkFrame?_passedCheck : Deed.passedCheck.chunkFrame? = none := rfl

@[simp] lemma chunkFrame?_chunk (payload : Bytes) :
    (Deed.sendFrame ⟨.FileChunk, payload⟩).chunkFrame? = some ⟨.FileChunk, payload⟩ := rfl

/-- Of the frames with a JSON payload none is a chunk. -/
@[simp] lemma chunkFrame?_jsonFrame {json : JsonCodec} (type : FrameType) (o : JsonObject)
    (h : type ≠ .FileChunk) : (Deed.sendFrame (jsonFrame json type o)).chunkFrame? = none :=
  if_neg h

/-- A session counts no negative amount of bytes, and an incoming one holds no
file that could be read. -/
structure WellHeld (s : FileTransferSession) : Prop where
  counted : 0 ≤ s.transferredBytes
  writes : s.direction = .Incoming → ∀ h ∈ s.fileHandle, h.isOpen = true → h.mode = .WriteOnly

section Handlers

variable {json sha}
variable {io : Io} {b : Bool} {tid : String} {t : Turn} {frame : P2PFrame}

lemma Turn.readData_of_incoming (h : WellHeld t.session)
    (hdir : t.session.direction = .Incoming) : t.readData io = [] := by
  unfold Turn.readData
  cases hfile : t.session.fileHandle with
  | none => rfl
  | some handle =>
      by_cases hopen : handle.isOpen = true
      · have hmode := h.writes hdir handle hfile hopen
        simp [QFile.read, hmode]
      · simp [QFile.read, hopen]

/-- `sendNextChunk` sends a chunk only for an outgoing session that is
transferring. -/
lemma Turn.chunkFrames_sendNextChunk (hheld : WellHeld t.session)
    (h : frame ∈ chunkFrames (t.sendNextChunk json io b tid).deeds) :
    frame ∈ chunkFrames t.deeds ∨
      (t.session.direction = .Outgoing ∧ t.session.state = .Transferring ∧
        frame = ⟨.FileChunk, FileChunk.encode tid t.session.currentChunkIndex (t.readData io)⟩) := by
  have htype : FrameType.FileComplete ≠ .FileChunk := by decide
  unfold Turn.sendNextChunk Turn.sendComplete Turn.sendChunk at h
  split_ifs at h with h1 h2 h3
  · exact .inl h
  · left
    simpa [chunkFrames, htype] using h
  · left
    simpa [chunkFrames] using h
  · simp only [chunkFrames, deeds_schedule, filterMap_emit, deeds_countChunk, deeds_advanceHandle,
      filterMap_sendFrame, chunkFrame?_signal, chunkFrame?_chunk, Option.toList_none,
      Option.toList_some, List.append_nil, List.mem_append] at h
    rcases h with h | h
    · exact .inl h
    · right
      have hstate : t.session.state = .Transferring := by
        by_contra hne
        exact h1 (.inl hne)
      have hdir : t.session.direction = .Outgoing := by
        cases hd : t.session.direction with
        | Outgoing => rfl
        | Incoming =>
            have hcounted := hheld.counted
            have hsize : t.session.transferredBytes < t.session.fileSize := by
              by_contra hge
              exact h2 (.inr (by omega))
            exact absurd ⟨t.readData_of_incoming hheld hd, by omega⟩ h3
      cases b with
      | false => simp at h
      | true => exact ⟨hdir, hstate, by simpa using h⟩

/-- **Step lemma for sending.** A chunk leaves only from an outgoing session
that is transferring or that the peer just accepted. -/
theorem Request.run_chunkFrame {r : Request} (hheld : WellHeld t.session) (hd : t.deeds = [])
    (h : frame ∈ chunkFrames (r.run json sha io b tid t).deeds) :
    t.session.direction = .Outgoing ∧
      (r = .sendNextChunk ∧ t.session.state = .Transferring ∨
        r = .fileAccept ∧ t.session.state = .Offering) ∧
      ∃ index data, frame = ⟨.FileChunk, FileChunk.encode tid index data⟩ := by
  have h0 : frame ∉ chunkFrames t.deeds := by simp [hd, chunkFrames]
  have haccept : FrameType.FileAccept ≠ .FileChunk := by decide
  have hreject : FrameType.FileReject ≠ .FileChunk := by decide
  have hcancel : FrameType.FileCancel ≠ .FileChunk := by decide
  cases r with
  | acceptTransfer dir =>
      simp only [run, Turn.acceptTransfer, Turn.startReceiving, Turn.completeEmpty] at h
      split_ifs at h <;> simp [chunkFrames, hd, haccept] at h
  | rejectTransfer reason => simp [run, Turn.rejectTransfer, chunkFrames, hd, hreject] at h
  | cancelTransfer reason => simp [run, Turn.cancelTransfer, chunkFrames, hd, hcancel] at h
  | fileAccept =>
      simp only [run, Turn.handleInboundFileAccept] at h
      split_ifs at h with h1 h2
      · exact absurd h h0
      · have hstate : t.session.state = .Offering := by
          by_contra hne
          exact h1 (.inr hne)
        have hdir : t.session.direction = .Outgoing := by
          by_contra hne
          exact h1 (.inl hne)
        rcases Turn.chunkFrames_sendNextChunk ⟨by simp, by simp [hdir]⟩ h with h | ⟨-, -, hframe⟩
        · simp [chunkFrames, hd] at h
        · exact ⟨hdir, .inr ⟨rfl, hstate⟩, _, _, hframe⟩
      · simp [chunkFrames, hd] at h
  | fileReject reason => simp [run, Turn.handleInboundFileReject, chunkFrames, hd] at h
  | fileChunk index data =>
      simp only [run, Turn.handleInboundFileChunk] at h
      split_ifs at h <;> simp [chunkFrames, hd] at h
  | fileComplete =>
      simp only [run, Turn.handleInboundFileComplete, Turn.moveToFinal] at h
      split_ifs at h <;> simp [chunkFrames, hd] at h
  | fileCancel reason => simp [run, Turn.handleInboundFileCancel, chunkFrames, hd] at h
  | sendNextChunk =>
      rcases Turn.chunkFrames_sendNextChunk hheld h with h | ⟨hdir, hstate, hframe⟩
      · exact absurd h h0
      · exact ⟨hdir, .inl ⟨rfl, hstate⟩, _, _, hframe⟩
  | disconnected =>
      simp only [run, Turn.onSocketDisconnected] at h
      split_ifs at h <;> simp [chunkFrames, hd] at h

/-- A handle that is not open lets nothing be read. -/
lemma WellHeld.of_closed {s : FileTransferSession} (hcounted : 0 ≤ s.transferredBytes)
    (hclosed : ∀ h ∈ s.fileHandle, h.isOpen = false) : WellHeld s where
  counted := hcounted
  writes _ h hh hopen := by simp [hclosed h hh] at hopen

lemma Turn.wellHeld_sendNextChunk (h : WellHeld t.session) :
    WellHeld (t.sendNextChunk json io b tid).session := by
  have hcounted := h.counted
  unfold Turn.sendNextChunk Turn.sendComplete Turn.sendChunk
  split_ifs with h1 h2 h3
  · exact h
  · exact .of_closed (by simpa using hcounted) (by simp [QFile.close])
  · exact ⟨by simpa using hcounted, by simpa using h.writes⟩
  · refine ⟨by simp; omega, ?_⟩
    intro hdir h' hh' hopen
    simp only [session_schedule, session_emit, session_countChunk, session_advanceHandle,
      session_sendFrame, Option.mem_map] at hdir hh'
    obtain ⟨h₀, hh₀, rfl⟩ := hh'
    exact h.writes hdir h₀ hh₀ hopen

variable (io) in
lemma Turn.wellHeld_writeData (h : WellHeld t.session) (data : Bytes) :
    WellHeld (t.writeData io data).session := by
  unfold Turn.writeData
  cases hfile : t.session.fileHandle with
  | none => exact h
  | some handle =>
      dsimp only
      split_ifs with hw
      · refine ⟨h.counted, ?_⟩
        intro _ h' hh' _
        rw [Option.mem_def, Option.some.injEq] at hh'
        rw [Bool.and_eq_true, decide_eq_true_eq] at hw
        rw [← hh']
        exact hw.2
      · exact h

/-- Every request keeps a session well held. -/
lemma Request.run_wellHeld (r : Request) (h : WellHeld t.session) :
    WellHeld (r.run json sha io b tid t).session := by
  have hcounted := h.counted
  cases r with
  | acceptTransfer dir =>
      have hopen : ∀ (fs : FileSystem) (path : String) (h' : QFile),
          some (QFile.openWrite fs path io.openOk) = some h' → h'.isOpen = true →
            h'.mode = .WriteOnly := by
        intro fs path h' hh' ho
        rw [Option.some.injEq] at hh'
        subst hh'
        unfold QFile.openWrite at ho ⊢
        split_ifs at ho ⊢
        · rfl
        · simp [QFile.unopened] at ho
      simp only [run, Turn.acceptTransfer, Turn.startReceiving, Turn.completeEmpty]
      split_ifs with h1 h2 h3
      · exact h
      · exact .of_closed (by simp) (by simp [QFile.close])
      · exact ⟨by simp, fun _ h' hh' => hopen _ _ h' (by simpa using hh')⟩
      · exact ⟨by simpa using hcounted, fun _ h' hh' => hopen _ _ h' (by simpa using hh')⟩
  | rejectTransfer reason =>
      exact .of_closed (by simpa [run, Turn.rejectTransfer] using hcounted)
        (by simp [run, Turn.rejectTransfer, QFile.close])
  | cancelTransfer reason =>
      exact .of_closed (by simpa [run, Turn.cancelTransfer] using hcounted)
        (by simp [run, Turn.cancelTransfer, QFile.close])
  | fileAccept =>
      simp only [run, Turn.handleInboundFileAccept]
      split_ifs with h1 h2
      · exact h
      all_goals
        have hdir : t.session.direction = .Outgoing := by
          by_contra hne
          exact h1 (.inl hne)
      · exact Turn.wellHeld_sendNextChunk ⟨by simp, by simp [hdir]⟩
      · exact ⟨by simpa using hcounted, by simp [hdir]⟩
  | fileReject reason =>
      exact .of_closed (by simpa [run, Turn.handleInboundFileReject] using hcounted)
        (by simp [run, Turn.handleInboundFileReject, QFile.close])
  | fileChunk index data =>
      have hwrite := Turn.wellHeld_writeData io h data
      have hw := hwrite.counted
      simp only [run, Turn.handleInboundFileChunk]
      split_ifs with h1 h2
      · exact h
      · exact .of_closed (by simpa using hcounted) (by simp [QFile.close])
      · exact ⟨by simp; omega, by simpa using hwrite.writes⟩
  | fileComplete =>
      simp only [run, Turn.handleInboundFileComplete, Turn.moveToFinal]
      split_ifs with h1 h2 h3
      · exact h
      · exact .of_closed (by simpa using hcounted) (by simp [QFile.close])
      · exact .of_closed (by simpa using hcounted) (by simp [QFile.close])
      · exact .of_closed (by simpa using hcounted) (by simp [QFile.close])
  | fileCancel reason =>
      exact .of_closed (by simpa [run, Turn.handleInboundFileCancel] using hcounted)
        (by simp [run, Turn.handleInboundFileCancel, QFile.close])
  | sendNextChunk => exact Turn.wellHeld_sendNextChunk h
  | disconnected =>
      simp only [run, Turn.onSocketDisconnected]
      split_ifs
      · exact .of_closed (by simpa using hcounted) (by simp [QFile.close])
      · exact h

/-- An outgoing session begins to transfer only by an acceptance. -/
lemma Request.transferring_of_run {r : Request} (hdir : t.session.direction = .Outgoing)
    (h : (r.run json sha io b tid t).session.state = .Transferring) :
    t.session.state = .Transferring ∨ r = .fileAccept := by
  cases r with
  | acceptTransfer dir => simpa [run, Turn.acceptTransfer, hdir] using h
  | rejectTransfer reason => simp [run, Turn.rejectTransfer] at h
  | cancelTransfer reason => simp [run, Turn.cancelTransfer] at h
  | fileAccept => exact .inr rfl
  | fileReject reason => simp [run, Turn.handleInboundFileReject] at h
  | fileChunk index data => simpa [run, Turn.handleInboundFileChunk, hdir] using h
  | fileComplete => simpa [run, Turn.handleInboundFileComplete, hdir] using h
  | fileCancel reason => simp [run, Turn.handleInboundFileCancel] at h
  | sendNextChunk =>
      left
      by_contra hne
      simp only [run, Turn.sendNextChunk, if_pos (Or.inl hne)] at h
      exact hne h
  | disconnected =>
      simp only [run, Turn.onSocketDisconnected] at h
      split_ifs at h
      · simp at h
      · exact .inl h

/-- Whatever hits a session in a final state, it stays in one. -/
lemma Request.run_final (r : Request) (h : t.session.state.isFinal = true) :
    (r.run json sha io b tid t).session.state.isFinal = true := by
  have hoffering : t.session.state ≠ .Offering := by
    intro heq
    simp [heq, TransferState.isFinal] at h
  have htransferring : t.session.state ≠ .Transferring := by
    intro heq
    simp [heq, TransferState.isFinal] at h
  cases r with
  | acceptTransfer dir => simpa [run, Turn.acceptTransfer, hoffering] using h
  | rejectTransfer reason => simp [run, Turn.rejectTransfer, TransferState.isFinal]
  | cancelTransfer reason => simp [run, Turn.cancelTransfer, TransferState.isFinal]
  | fileAccept => simpa [run, Turn.handleInboundFileAccept, hoffering] using h
  | fileReject reason => simp [run, Turn.handleInboundFileReject, TransferState.isFinal]
  | fileChunk index data => simpa [run, Turn.handleInboundFileChunk, htransferring] using h
  | fileComplete => simpa [run, Turn.handleInboundFileComplete, htransferring] using h
  | fileCancel reason => simp [run, Turn.handleInboundFileCancel, TransferState.isFinal]
  | sendNextChunk => simpa [run, Turn.sendNextChunk, htransferring] using h
  | disconnected => simpa [run, Turn.onSocketDisconnected, hoffering, htransferring] using h

end Handlers

/-! ### Files -/

/-- A session that holds no temporary path, and receives nothing. -/
structure Untouched (s : FileTransferSession) : Prop where
  path : s.tempFilePath = ""
  idle : s.direction = .Incoming → s.state ≠ .Transferring

/-- Every call on files in a history comes behind a passed check. -/
def AfterCheck (deeds : List Deed) : Prop :=
  ∀ ds op ds', deeds = ds ++ .file op :: ds' → .passedCheck ∈ ds

/-- The call on files that a deed is. -/
def Deed.fileOp? : Deed → Option FileOp
  | .file op => some op
  | _ => none

/-- The calls on files, in order. -/
def fileOps (deeds : List Deed) : List FileOp := deeds.filterMap Deed.fileOp?

lemma mem_fileOps {deeds : List Deed} {op : FileOp} : op ∈ fileOps deeds ↔ .file op ∈ deeds := by
  rw [fileOps, List.mem_filterMap]
  constructor
  · rintro ⟨d, hd, hop⟩
    cases d with
    | file op' =>
        rw [Deed.fileOp?, Option.some.injEq] at hop
        rw [← hop]
        exact hd
    | _ => simp [Deed.fileOp?] at hop
  · intro h
    exact ⟨_, h, rfl⟩

/-- Whether a deed is the passed check. -/
def Deed.check? : Deed → Option Unit
  | .passedCheck => some ()
  | _ => none

lemma mem_passedCheck {deeds : List Deed} :
    Deed.passedCheck ∈ deeds ↔ deeds.filterMap Deed.check? ≠ [] := by
  rw [ne_eq, List.filterMap_eq_nil_iff, not_forall]
  constructor
  · intro h
    exact ⟨.passedCheck, fun hnone => by simp [Deed.check?] at hnone; exact hnone h⟩
  · rintro ⟨d, hd⟩
    rw [Classical.not_imp] at hd
    cases d with
    | passedCheck => exact hd.1
    | _ => exact absurd rfl hd.2

@[simp] lemma fileOp?_state (a : TransferState) : (Deed.state a).fileOp? = none := rfl
@[simp] lemma fileOp?_signal (s : Signal) : (Deed.signal s).fileOp? = none := rfl
@[simp] lemma fileOp?_sendFrame (f : P2PFrame) : (Deed.sendFrame f).fileOp? = none := rfl
@[simp] lemma fileOp?_passedCheck : Deed.passedCheck.fileOp? = none := rfl
@[simp] lemma fileOp?_file (op : FileOp) : (Deed.file op).fileOp? = some op := rfl
@[simp] lemma check?_state (a : TransferState) : (Deed.state a).check? = none := rfl
@[simp] lemma check?_signal (s : Signal) : (Deed.signal s).check? = none := rfl
@[simp] lemma check?_sendFrame (f : P2PFrame) : (Deed.sendFrame f).check? = none := rfl
@[simp] lemma check?_file (op : FileOp) : (Deed.file op).check? = none := rfl
@[simp] lemma check?_passedCheck : Deed.passedCheck.check? = some () := rfl

namespace AfterCheck

variable {ds ds' : List Deed}

lemma of_fileOps (h : fileOps ds = []) : AfterCheck ds := by
  rintro as op bs rfl
  simp [fileOps] at h

lemma of_check : AfterCheck (.passedCheck :: ds) := by
  rintro as op bs h
  cases as with
  | nil => simp at h
  | cons a as =>
      rw [List.cons_append, List.cons.injEq] at h
      rw [← h.1]
      exact List.mem_cons_self

lemma append (h : AfterCheck ds) (h' : .passedCheck ∈ ds ∨ AfterCheck ds') :
    AfterCheck (ds ++ ds') := by
  intro as op bs heq
  rcases List.append_eq_append_iff.mp heq with ⟨cs, rfl, hcs⟩ | ⟨cs, rfl, hcs⟩
  · rcases h' with hmem | h'
    · exact List.mem_append_left _ hmem
    · exact List.mem_append_right _ (h' cs op bs hcs)
  · cases cs with
    | nil =>
        rw [List.append_nil] at h h'
        rcases h' with hmem | h'
        · exact hmem
        · exact absurd (h' [] op bs hcs.symm) (by simp)
    | cons x cs =>
        rw [List.cons_append, List.cons.injEq] at hcs
        exact h as op cs (by rw [hcs.1])

end AfterCheck

section FileHandlers

variable {json sha}
variable {io : Io} {b : Bool} {tid : String} {t : Turn}

/-- **Step lemma for files.** A session that never passed the check is left
alone by every request, except an `acceptTransfer` that passes it first. -/
theorem Request.run_untouched (r : Request) (h : Untouched t.session) (hd : t.deeds = []) :
    (fileOps (r.run json sha io b tid t).deeds = [] ∧
        Untouched (r.run json sha io b tid t).session) ∨
      ∃ dir ds, r = .acceptTransfer dir ∧
        (r.run json sha io b tid t).deeds = .passedCheck :: ds := by
  have hpath := h.path
  have hidle : ¬ (t.session.direction = .Incoming ∧ t.session.state = .Transferring) :=
    fun hc => h.idle hc.1 hc.2
  cases r with
  | acceptTransfer dir =>
      by_cases hcheck : t.session.state ≠ .Offering ∨ t.session.direction ≠ .Incoming
      · left
        simp only [run, Turn.acceptTransfer, if_pos hcheck]
        exact ⟨by simp [fileOps, hd], h⟩
      · right
        refine ⟨dir, ?_⟩
        rw [← List.filterMap_some (l := (Request.run json sha io b tid (.acceptTransfer dir) t).deeds)]
        simp only [run, Turn.acceptTransfer, if_neg hcheck, Turn.startReceiving,
          Turn.completeEmpty]
        split_ifs <;> simp [hd, -List.filterMap_some]
  | rejectTransfer reason =>
      exact .inl ⟨by simp [run, Turn.rejectTransfer, fileOps, hd, hpath],
        by simp [run, Turn.rejectTransfer, hpath], by simp [run, Turn.rejectTransfer]⟩
  | cancelTransfer reason =>
      exact .inl ⟨by simp [run, Turn.cancelTransfer, fileOps, hd, hpath],
        by simp [run, Turn.cancelTransfer, hpath], by simp [run, Turn.cancelTransfer]⟩
  | fileAccept =>
      left
      simp only [run, Turn.handleInboundFileAccept, Turn.sendNextChunk, Turn.sendComplete,
        Turn.sendChunk]
      split_ifs with h1
      · exact ⟨by simp [fileOps, hd], h⟩
      all_goals
        have hdir : t.session.direction = .Outgoing := by
          by_contra hne
          exact h1 (.inl hne)
        exact ⟨by simp [fileOps, hd], by simp [hpath], by simp [hdir]⟩
  | fileReject reason =>
      exact .inl ⟨by simp [run, Turn.handleInboundFileReject, fileOps, hd, hpath],
        by simp [run, Turn.handleInboundFileReject, hpath],
        by simp [run, Turn.handleInboundFileReject]⟩
  | fileChunk index data =>
      left
      have hskip : t.session.state ≠ .Transferring ∨ t.session.direction ≠ .Incoming := by tauto
      simp only [run, Turn.handleInboundFileChunk, if_pos hskip]
      exact ⟨by simp [fileOps, hd], h⟩
  | fileComplete =>
      left
      have hskip : t.session.direction ≠ .Incoming ∨ t.session.state ≠ .Transferring := by tauto
      simp only [run, Turn.handleInboundFileComplete, if_pos hskip]
      exact ⟨by simp [fileOps, hd], h⟩
  | fileCancel reason =>
      exact .inl ⟨by simp [run, Turn.handleInboundFileCancel, fileOps, hd, hpath],
        by simp [run, Turn.handleInboundFileCancel, hpath],
        by simp [run, Turn.handleInboundFileCancel]⟩
  | sendNextChunk =>
      left
      simp only [run, Turn.sendNextChunk, Turn.sendComplete, Turn.sendChunk]
      split_ifs with h1 h2 h3
      · exact ⟨by simp [fileOps, hd], h⟩
      · exact ⟨by simp [fileOps, hd], by simp [hpath], by simp⟩
      · exact ⟨by simp [fileOps, hd], by simp [hpath], by simp⟩
      · exact ⟨by simp [fileOps, hd], by simp [hpath], by simpa using h.idle⟩
  | disconnected =>
      left
      simp only [run, Turn.onSocketDisconnected]
      split_ifs
      · exact ⟨by simp [fileOps, hd, hpath], by simp [hpath], by simp⟩
      · exact ⟨by simp [fileOps, hd], h⟩

/-- Only `acceptTransfer` on an offered incoming session passes the check. -/
lemma Request.passedCheck_of_run {r : Request} (hd : t.deeds = [])
    (h : .passedCheck ∈ (r.run json sha io b tid t).deeds) :
    (∃ dir, r = .acceptTransfer dir) ∧ t.session.state = .Offering ∧
      t.session.direction = .Incoming := by
  rw [mem_passedCheck] at h
  cases r with
  | acceptTransfer dir =>
      by_cases hcheck : t.session.state ≠ .Offering ∨ t.session.direction ≠ .Incoming
      · simp [run, Turn.acceptTransfer, if_pos hcheck, hd] at h
      · rw [not_or, not_not, not_not] at hcheck
        exact ⟨⟨dir, rfl⟩, hcheck⟩
  | rejectTransfer reason => simp [run, Turn.rejectTransfer, hd] at h
  | cancelTransfer reason => simp [run, Turn.cancelTransfer, hd] at h
  | fileAccept =>
      simp only [run, Turn.handleInboundFileAccept, Turn.sendNextChunk, Turn.sendComplete,
        Turn.sendChunk] at h
      split_ifs at h <;> simp [hd] at h
  | fileReject reason => simp [run, Turn.handleInboundFileReject, hd] at h
  | fileChunk index data =>
      simp only [run, Turn.handleInboundFileChunk] at h
      split_ifs at h <;> simp [hd] at h
  | fileComplete =>
      simp only [run, Turn.handleInboundFileComplete, Turn.moveToFinal] at h
      split_ifs at h <;> simp [hd] at h
  | fileCancel reason => simp [run, Turn.handleInboundFileCancel, hd] at h
  | sendNextChunk =>
      simp only [run, Turn.sendNextChunk, Turn.sendComplete, Turn.sendChunk] at h
      split_ifs at h <;> simp [hd] at h
  | disconnected =>
      simp only [run, Turn.onSocketDisconnected] at h
      split_ifs at h <;> simp [hd] at h

/-- A cleaning-up that removes no file changes none. -/
lemma Turn.files_cleanupSession_of_fileOps (remove : Bool)
    (h : fileOps (t.cleanupSession io remove).deeds = []) :
    (t.cleanupSession io remove).files = t.files := by
  unfold Turn.cleanupSession at h ⊢
  split_ifs at h ⊢ with hr
  · cases he : t.files.exists? t.session.tempFilePath with
    | false => simp [Turn.removeIfExists, he]
    | true => simp [fileOps, he] at h
  · rfl

/-- Without a handle open for writing nothing is written. -/
lemma Turn.writeData_of_canWrite (h : t.canWrite = false) {data : Bytes} :
    t.writeData io data = t := by
  unfold Turn.canWrite at h
  unfold Turn.writeData
  cases hfile : t.session.fileHandle with
  | none => rfl
  | some handle =>
      rw [hfile, Option.any_some] at h
      simp only [h, Bool.false_eq_true, if_false]

/-- Without a call on files the file system is the same. -/
lemma Request.run_files (r : Request) (h : fileOps (r.run json sha io b tid t).deeds = []) :
    (r.run json sha io b tid t).files = t.files := by
  cases r with
  | acceptTransfer dir =>
      simp only [run, Turn.acceptTransfer, Turn.startReceiving, Turn.completeEmpty] at h ⊢
      split_ifs at h ⊢ with h1 h2 h3
      · rfl
      · simp [fileOps] at h
      · rw [Turn.handleOpen_openTemp] at h2
        simp [fileOps, h2] at h
      · rw [Turn.handleOpen_openTemp] at h2
        simp [Turn.files_openTemp, h2]
  | rejectTransfer reason => exact Turn.files_cleanupSession_of_fileOps true h
  | cancelTransfer reason => exact Turn.files_cleanupSession_of_fileOps true h
  | fileAccept =>
      simp only [run, Turn.handleInboundFileAccept, Turn.sendNextChunk, Turn.sendComplete,
        Turn.sendChunk] at h ⊢
      split_ifs <;> simp
  | fileReject reason => exact Turn.files_cleanupSession_of_fileOps true h
  | fileChunk index data =>
      simp only [run, Turn.handleInboundFileChunk] at h ⊢
      split_ifs at h ⊢
      · rfl
      · exact Turn.files_cleanupSession_of_fileOps true h
      · cases hw : t.canWrite with
        | false => simp [Turn.writeData_of_canWrite hw]
        | true => simp [fileOps, hw] at h
  | fileComplete =>
      simp only [run, Turn.handleInboundFileComplete, Turn.moveToFinal] at h ⊢
      split_ifs at h ⊢
      · rfl
      · simp [fileOps] at h
      · simp [fileOps] at h
      · exact Turn.files_cleanupSession_of_fileOps true h
  | fileCancel reason => exact Turn.files_cleanupSession_of_fileOps true h
  | sendNextChunk =>
      simp only [run, Turn.sendNextChunk, Turn.sendComplete, Turn.sendChunk] at h ⊢
      split_ifs <;> simp
  | disconnected =>
      simp only [run, Turn.onSocketDisconnected] at h ⊢
      split_ifs at h ⊢
      · exact Turn.files_cleanupSession_of_fileOps true h
      · rfl

end FileHandlers

/-! ### Runs -/

namespace FileTransferController

/-- An acceptance of a transfer is among the events. -/
def Accepted (es : List (Event × Io)) (tid : String) : Prop :=
  ∃ e ∈ es, e.1.command json = .request tid .fileAccept

/-- What the sending half keeps: sessions are well held, and an outgoing one
transfers only behind an acceptance. -/
structure Agreed (es : List (Event × Io)) (c : FileTransferController) : Prop where
  held {tid s} : c.m_sessions.value? tid = some s → WellHeld s
  accepted {tid s} : c.m_sessions.value? tid = some s → s.direction = .Outgoing →
    s.state = .Transferring → Accepted json es tid

variable {json sha}
variable {c : FileTransferController} {log : List Effect} {es : List (Event × Io)}
  {io : Io} {e : Event}

lemma Accepted.mono {es' : List (Event × Io)} {tid : String} (h : Accepted json es tid) :
    Accepted json (es ++ es') tid := by
  obtain ⟨e, he, hcmd⟩ := h
  exact ⟨e, List.mem_append_left _ he, hcmd⟩

lemma Agreed.onRequest (h : Agreed json es c) {tid : String} {r : Request}
    (hr : r = .fileAccept → Accepted json es tid) :
    Agreed json es (c.onRequest json sha io tid r).1 := by
  unfold FileTransferController.onRequest
  cases hs : c.m_sessions.value? tid with
  | none =>
      rw [onSession_none hs]
      exact h
  | some s =>
      have hterms := r.run_terms json sha io c.m_socket tid
        { session := s, files := c.files }
      constructor
      · intro tid' s' hs'
        by_cases htid : tid' = tid
        · subst htid
          rw [value?_onSession_self hs, Option.some.injEq] at hs'
          rw [← hs']
          exact r.run_wellHeld (h.held hs)
        · rw [value?_onSession_of_ne htid] at hs'
          exact h.held hs'
      · intro tid' s' hs' hdir hstate
        by_cases htid : tid' = tid
        · subst htid
          rw [value?_onSession_self hs, Option.some.injEq] at hs'
          subst hs'
          have hdir₀ : s.direction = .Outgoing := (congrArg Terms.direction hterms).symm.trans hdir
          rcases Request.transferring_of_run hdir₀ hstate with hold | hacc
          · exact h.accepted hs hdir₀ hold
          · exact hr hacc
        · rw [value?_onSession_of_ne htid] at hs'
          exact h.accepted hs' hdir hstate

lemma Agreed.register (h : Agreed json es c) {cmd : Command} {s : FileTransferSession}
    {deeds : List Deed} (hr : Registers json sha c io cmd s deeds) :
    Agreed json es (c.register s deeds).1 := by
  have hnew : WellHeld s := by
    cases hr with
    | outgoing => exact .of_closed le_rfl (by simp [outgoingSession])
    | incoming => exact .of_closed le_rfl (by simp [incomingSession])
  constructor
  · intro tid s' hs'
    rw [FileTransferController.register, QMap.value?_insert] at hs'
    split_ifs at hs'
    · rw [Option.some.injEq] at hs'
      exact hs' ▸ hnew
    · exact h.held hs'
  · intro tid s' hs' hdir hstate
    rw [FileTransferController.register, QMap.value?_insert] at hs'
    split_ifs at hs'
    · rw [Option.some.injEq] at hs'
      rw [← hs', hr.state_eq] at hstate
      cases hstate
    · exact h.accepted hs' hdir hstate

/-- Registering a session sends no chunk. -/
lemma Registers.not_chunk {cmd : Command} {s : FileTransferSession} {deeds : List Deed}
    (hr : Registers json sha c io cmd s deeds) {frame : P2PFrame}
    (h : .sendFrame frame ∈ deeds) : frame.type ≠ .FileChunk := by
  cases hr with
  | outgoing =>
      simp only [offerDeeds] at h
      split_ifs at h <;> simp at h
      all_goals
        rw [h]
        exact (by decide : FrameType.FileOffer ≠ .FileChunk)
  | incoming offer => simp at h

/-- Registering a session passes no check. -/
lemma Registers.not_check {cmd : Command} {s : FileTransferSession} {deeds : List Deed}
    (hr : Registers json sha c io cmd s deeds) : .passedCheck ∉ deeds := by
  cases hr with
  | outgoing =>
      simp only [offerDeeds]
      split_ifs <;> simp
  | incoming offer => simp

/-- A chunk that a request sends, in terms of the session it is sent for. -/
lemma chunk_of_onRequest (hheld : ∀ {tid s}, c.m_sessions.value? tid = some s → WellHeld s)
    {tid : String} {r : Request} {i : ℕ} {frame : P2PFrame} (htype : frame.type = .FileChunk)
    (h : ⟨i, .sendFrame frame⟩ ∈ (c.onRequest json sha io tid r).2) :
    ∃ s, c.m_sessions.value? tid = some s ∧ s.objectId = i ∧ s.direction = .Outgoing ∧
      (r = .sendNextChunk ∧ s.state = .Transferring ∨ r = .fileAccept ∧ s.state = .Offering) ∧
      ∃ index data, frame = ⟨.FileChunk, FileChunk.encode tid index data⟩ := by
  obtain ⟨s, hs, hid, hmem⟩ := mem_onSession h
  have hsend := Request.run_chunkFrame (t := { session := s, files := c.files }) (hheld hs) rfl
    (mem_chunkFrames.mpr ⟨hmem, htype⟩)
  exact ⟨s, hs, hid.symm, hsend⟩

/-- The chunk `frame` is sent for the session that `c` has under `tid`, which is
an outgoing one that did not come to its end. -/
structure ChunkFor (c : FileTransferController) (tid : String) (i : ℕ) (frame : P2PFrame)
    (s : FileTransferSession) : Prop where
  registered : c.m_sessions.value? tid = some s
  object : s.objectId = i
  outgoing : s.direction = .Outgoing
  running : s.state.isFinal = false
  payload : ∃ index data, frame.payload = FileChunk.encode tid index data

/-- One step: sessions stay agreed, and a chunk is sent behind an acceptance. -/
lemma Agreed.step (h : Agreed json es c) :
    Agreed json (es ++ [(e, io)]) (c.step json sha e io).1 ∧
      ∀ i frame, ⟨i, .sendFrame frame⟩ ∈ (c.step json sha e io).2 → frame.type = .FileChunk →
        ∃ tid s, ChunkFor c tid i frame s ∧ Accepted json (es ++ [(e, io)]) tid := by
  have hbase : Agreed json (es ++ [(e, io)]) c :=
    ⟨h.held, fun hs hdir hstate => (h.accepted hs hdir hstate).mono⟩
  rw [← List.nil_append (c.step json sha e io).2]
  apply step_induction
    (I := fun c' log => Agreed json (es ++ [(e, io)]) c' ∧
      ∀ i frame, ⟨i, .sendFrame frame⟩ ∈ log → frame.type = .FileChunk →
        ∃ tid s, ChunkFor c tid i frame s ∧ Accepted json (es ++ [(e, io)]) tid)
    [] ⟨hbase, by simp⟩
  · intro s deeds hr
    refine ⟨hbase.register hr, ?_⟩
    intro i frame hmem htype
    rw [List.nil_append, FileTransferController.register, List.mem_map] at hmem
    obtain ⟨d, hd, heq⟩ := hmem
    rw [Effect.mk.injEq] at heq
    rw [heq.2] at hd
    exact absurd htype (hr.not_chunk hd)
  · intro tid s r hcmd hs
    have hacc : r = .fileAccept → Accepted json (es ++ [(e, io)]) tid := by
      rintro rfl
      exact ⟨(e, io), by simp, hcmd⟩
    refine ⟨hbase.onRequest hacc, ?_⟩
    intro i frame hmem htype
    rw [List.nil_append] at hmem
    obtain ⟨s, hs, hid, hdir, hcase, hframe⟩ := chunk_of_onRequest hbase.held htype hmem
    obtain ⟨index, data, rfl⟩ := hframe
    rcases hcase with ⟨-, hstate⟩ | ⟨rfl, hstate⟩
    · exact ⟨tid, s, ⟨hs, hid, hdir, by rw [hstate]; rfl, index, data, rfl⟩,
        hbase.accepted hs hdir hstate⟩
    · exact ⟨tid, s, ⟨hs, hid, hdir, by rw [hstate]; rfl, index, data, rfl⟩, hacc rfl⟩
  · intro tid _ _
    have hbase' : Agreed json (es ++ [(e, io)]) { c with timers := c.timers.erase tid } :=
      ⟨hbase.held, hbase.accepted⟩
    refine ⟨hbase'.onRequest (fun hr => by cases hr), ?_⟩
    intro i frame hmem htype
    rw [List.nil_append] at hmem
    obtain ⟨s, hs, hid, hdir, hcase, hframe⟩ := chunk_of_onRequest hbase'.held htype hmem
    obtain ⟨index, data, rfl⟩ := hframe
    rcases hcase with ⟨-, hstate⟩ | ⟨hr, -⟩
    · exact ⟨tid, s, ⟨hs, hid, hdir, by rw [hstate]; rfl, index, data, rfl⟩,
        hbase.accepted hs hdir hstate⟩
    · cases hr
  · intro _ c' log tid hI
    refine ⟨hI.1.onRequest (fun hr => by cases hr), ?_⟩
    intro i frame hmem htype
    rcases List.mem_append.mp hmem with hmem | hmem
    · exact hI.2 i frame hmem htype
    · obtain ⟨s, -, -, -, hcase, -⟩ := chunk_of_onRequest hI.1.held htype hmem
      rcases hcase with ⟨hr, -⟩ | ⟨hr, -⟩ <;> cases hr

/-! ### Closed sessions -/

/-- The session object `i` is closed: wherever it is registered, its state is
final. -/
structure Closed (i : ℕ) (c : FileTransferController) : Prop where
  old : i < c.nextObject
  final {tid s} : c.m_sessions.value? tid = some s → s.objectId = i → s.state.isFinal = true

/-- The id `tid` is shut: its session is in a final state or an incoming one. -/
def Shut (tid : String) (c : FileTransferController) : Prop :=
  ∃ s, c.m_sessions.value? tid = some s ∧ (s.state.isFinal = true ∨ s.direction = .Incoming)

lemma Closed.onRequest {i : ℕ} (h : Closed i c) (tid : String) (r : Request) :
    Closed i (c.onRequest json sha io tid r).1 := by
  unfold FileTransferController.onRequest
  cases hs : c.m_sessions.value? tid with
  | none =>
      rw [onSession_none hs]
      exact h
  | some s =>
      have hterms := r.run_terms json sha io c.m_socket tid
        { session := s, files := c.files }
      refine ⟨by rw [nextObject_onSession]; exact h.old, ?_⟩
      intro tid' s' hs' hid
      by_cases htid : tid' = tid
      · subst htid
        rw [value?_onSession_self hs, Option.some.injEq] at hs'
        rw [← hs'] at hid ⊢
        exact r.run_final (h.final hs ((congrArg Terms.objectId hterms).symm.trans hid))
      · rw [value?_onSession_of_ne htid] at hs'
        exact h.final hs' hid

/-- A closed session object stays closed. -/
lemma Closed.step {i : ℕ} (h : Closed i c) : Closed i (c.step json sha e io).1 := by
  apply step_induction (I := fun c' _ => Closed i c') [] h
  · intro s deeds hr
    have hold := h.old
    refine ⟨by simp only [FileTransferController.register]; omega, ?_⟩
    intro tid s' hs' hid
    rw [FileTransferController.register, QMap.value?_insert] at hs'
    split_ifs at hs'
    · rw [Option.some.injEq] at hs'
      rw [← hs', hr.objectId_eq] at hid
      omega
    · exact h.final hs' hid
  · intro tid s r _ _
    exact h.onRequest tid r
  · intro tid _ _
    exact Closed.onRequest (c := { c with timers := c.timers.erase tid }) ⟨h.old, h.final⟩ tid _
  · intro _ c' _ tid hI
    exact hI.onRequest tid _

lemma Shut.onRequest {tid : String} (h : Shut tid c) (tid' : String) (r : Request) :
    Shut tid (c.onRequest json sha io tid' r).1 := by
  obtain ⟨s, hs, hshut⟩ := h
  unfold FileTransferController.onRequest
  by_cases htid : tid = tid'
  · subst htid
    have hterms := r.run_terms json sha io c.m_socket tid
      { session := s, files := c.files }
    refine ⟨_, value?_onSession_self hs, ?_⟩
    rcases hshut with hfinal | hdir
    · exact .inl (r.run_final hfinal)
    · exact .inr ((congrArg Terms.direction hterms).trans hdir)
  · exact ⟨s, by rw [value?_onSession_of_ne htid]; exact hs, hshut⟩

/-- `sendFile` draws an id that has no session: the ids are taken from UUIDs. -/
def DrawsFreshId (json : JsonCodec) (c : FileTransferController) (e : Event × Io) : Prop :=
  ∀ filePath ip, e.1.command json = .sendFile filePath ip →
    c.m_sessions.value? (generateTransferId e.2.uuid) = none

/-- An id stays shut as long as no id is drawn twice. -/
lemma Shut.step {tid : String} (h : Shut tid c) (hfresh : DrawsFreshId json c (e, io)) :
    Shut tid (c.step json sha e io).1 := by
  apply step_induction (I := fun c' _ => Shut tid c') [] h
  · intro s deeds hr
    obtain ⟨s₀, hs₀, hshut⟩ := h
    rw [Shut, FileTransferController.register]
    dsimp only
    by_cases htid : s.transferId = tid
    · refine ⟨s, by rw [← htid]; exact QMap.value?_insert_self _ _ _, .inr ?_⟩
      generalize hcmd : e.command json = cmd at hr
      cases hr with
      | outgoing =>
          have hnone := hfresh _ _ hcmd
          rw [← htid] at hs₀
          rw [show c.m_sessions.value? (generateTransferId io.uuid) = some s₀ from hs₀] at hnone
          cases hnone
      | incoming => rfl
    · exact ⟨s₀, by rw [QMap.value?_insert_of_ne _ htid]; exact hs₀, hshut⟩
  · intro tid' s r _ _
    exact h.onRequest tid' r
  · intro tid' _ _
    exact Shut.onRequest (c := { c with timers := c.timers.erase tid' }) h tid' _
  · intro _ c' _ tid' hI
    exact hI.onRequest tid' _

/-! ### Files in a run -/

/-- What the other half keeps: a session object that did not pass the check is
untouched, and calls on files come behind a passed check. -/
structure Asked (c : FileTransferController) (log : List Effect) : Prop where
  numbered : Numbered c log
  untouched {tid s} : c.m_sessions.value? tid = some s →
    .passedCheck ∉ deedsOf s.objectId log → Untouched s
  ordered (i : ℕ) : AfterCheck (deedsOf i log)

lemma Asked.init (m_socket : Bool) (files : FileSystem) : Asked (init m_socket files) [] where
  numbered := Numbered.init m_socket files
  untouched h := by simp [FileTransferController.init] at h
  ordered _ := .of_fileOps rfl

lemma Asked.onRequest (h : Asked c log) (tid : String) (r : Request) :
    Asked (c.onRequest json sha io tid r).1 (log ++ (c.onRequest json sha io tid r).2) := by
  have hnum := h.numbered.onRequest json sha io tid r
  unfold FileTransferController.onRequest at hnum ⊢
  cases hs : c.m_sessions.value? tid with
  | none =>
      rw [onSession_none hs]
      simpa using h
  | some s =>
      set t : Turn := { session := s, files := c.files } with ht
      have hterms := r.run_terms json sha io c.m_socket tid t
      have hown : deedsOf s.objectId (log ++ (c.onSession tid (r.run json sha io c.m_socket tid)).2) =
          deedsOf s.objectId log ++ (r.run json sha io c.m_socket tid t).deeds := by
        rw [deedsOf_append, deedsOf_onSession_self hs]
      refine ⟨hnum, ?_, ?_⟩
      · intro tid' s' hs' hcheck
        by_cases htid : tid' = tid
        · subst htid
          rw [value?_onSession_self hs, Option.some.injEq] at hs'
          have hid : s'.objectId = s.objectId := by
            rw [← hs']
            exact congrArg Terms.objectId hterms
          rw [hid, hown, List.mem_append, not_or] at hcheck
          rcases r.run_untouched (t := t) (h.untouched hs hcheck.1) rfl with
            ⟨-, hsame⟩ | ⟨dir, ds, -, hds⟩
          · exact hs' ▸ hsame
          · rw [hds] at hcheck
            exact absurd List.mem_cons_self hcheck.2
        · rw [value?_onSession_of_ne htid] at hs'
          have hne : s.objectId ≠ s'.objectId := fun heq => htid (h.numbered.inj hs' hs heq.symm)
          rw [deedsOf_append, deedsOf_onSession_of_ne hs hne, List.append_nil] at hcheck
          exact h.untouched hs' hcheck
      · intro i
        by_cases hi : s.objectId = i
        · subst hi
          rw [hown]
          apply (h.ordered s.objectId).append
          by_cases hcheck : .passedCheck ∈ deedsOf s.objectId log
          · exact .inl hcheck
          · right
            rcases r.run_untouched (t := t) (h.untouched hs hcheck) rfl with
              ⟨hops, -⟩ | ⟨dir, ds, -, hds⟩
            · exact .of_fileOps hops
            · rw [hds]
              exact .of_check
        · rw [deedsOf_append, deedsOf_onSession_of_ne hs hi, List.append_nil]
          exact h.ordered i

lemma Asked.register (h : Asked c log) {cmd : Command} {s : FileTransferSession}
    {deeds : List Deed} (hr : Registers json sha c io cmd s deeds) :
    Asked (c.register s deeds).1 (log ++ (c.register s deeds).2) := by
  have hquiet : fileOps deeds = [] := by
    cases hr with
    | outgoing =>
        simp only [offerDeeds]
        split_ifs <;> rfl
    | incoming offer => rfl
  have hnew : Untouched s := by
    refine ⟨?_, fun _ => by rw [hr.state_eq]; decide⟩
    cases hr <;> rfl
  refine ⟨h.numbered.register deeds hr.objectId_eq, ?_, ?_⟩
  · intro tid s' hs' hcheck
    rw [FileTransferController.register, QMap.value?_insert] at hs'
    split_ifs at hs'
    · rw [Option.some.injEq] at hs'
      exact hs' ▸ hnew
    · rw [deedsOf_append, List.mem_append, not_or] at hcheck
      exact h.untouched hs' hcheck.1
  · intro i
    rw [deedsOf_append]
    apply (h.ordered i).append
    right
    rw [FileTransferController.register]
    by_cases hi : c.nextObject = i
    · subst hi
      rw [deedsOf_map_self]
      exact .of_fileOps hquiet
    · rw [deedsOf_map_of_ne hi]
      exact .of_fileOps rfl

lemma Asked.step (h : Asked c log) :
    Asked (c.step json sha e io).1 (log ++ (c.step json sha e io).2) := by
  apply step_induction (I := Asked) _ h
  · intro s deeds hr
    exact h.register hr
  · intro tid s r _ _
    exact h.onRequest tid r
  · intro tid _ _
    exact Asked.onRequest (c := { c with timers := c.timers.erase tid })
      ⟨⟨h.numbered.key, h.numbered.lt, h.numbered.inj, h.numbered.fresh⟩, h.untouched, h.ordered⟩
      tid _
  · intro _ c' log tid hI
    exact hI.onRequest tid _

/-- The check is passed only in a local call of `acceptTransfer`, by an offered
incoming session. -/
lemma passedCheck_of_step {i : ℕ} (h : ⟨i, .passedCheck⟩ ∈ (c.step json sha e io).2) :
    ∃ tid dir s, e = .acceptTransfer tid dir ∧ c.m_sessions.value? tid = some s ∧
      s.objectId = i ∧ s.state = .Offering ∧ s.direction = .Incoming := by
  have hrequest : ∀ {c : FileTransferController} {tid : String} {r : Request},
      ⟨i, .passedCheck⟩ ∈ (c.onRequest json sha io tid r).2 →
        ∃ dir s, r = .acceptTransfer dir ∧ c.m_sessions.value? tid = some s ∧ s.objectId = i ∧
          s.state = .Offering ∧ s.direction = .Incoming := by
    intro c tid r h
    obtain ⟨s, hs, hid, hmem⟩ := mem_onSession h
    obtain ⟨⟨dir, hr⟩, hstate, hdir⟩ := Request.passedCheck_of_run rfl hmem
    exact ⟨dir, s, hr, hs, hid.symm, hstate, hdir⟩
  rw [← List.nil_append (c.step json sha e io).2] at h
  revert h
  apply step_induction (I := fun _ log => ⟨i, .passedCheck⟩ ∈ log →
    ∃ tid dir s, e = .acceptTransfer tid dir ∧ c.m_sessions.value? tid = some s ∧
      s.objectId = i ∧ s.state = .Offering ∧ s.direction = .Incoming)
  · simp
  · intro s deeds hr h
    rw [List.nil_append, FileTransferController.register, List.mem_map] at h
    obtain ⟨d, hd, heq⟩ := h
    rw [Effect.mk.injEq] at heq
    rw [heq.2] at hd
    exact absurd hd hr.not_check
  · intro tid s r hcmd _ h
    obtain ⟨dir, s, rfl, hs, hid, hstate, hdir⟩ := hrequest h
    exact ⟨tid, dir, s, acceptTransfer_of_command json hcmd, hs, hid, hstate, hdir⟩
  · intro tid _ _ h
    obtain ⟨dir, s, hr, -⟩ := hrequest h
    cases hr
  · intro _ c' log tid ih h
    rcases List.mem_append.mp h with h | h
    · exact ih h
    · obtain ⟨dir, s, hr, -⟩ := hrequest h
      cases hr

/-- A step without a call on files leaves the file system as it is. -/
lemma files_of_step (h : ∀ i op, ⟨i, .file op⟩ ∉ (c.step json sha e io).2) :
    (c.step json sha e io).1.files = c.files := by
  have hrequest : ∀ {c : FileTransferController} {tid : String} {r : Request},
      (∀ i op, ⟨i, .file op⟩ ∉ (c.onRequest json sha io tid r).2) →
        (c.onRequest json sha io tid r).1.files = c.files := by
    intro c tid r h
    unfold FileTransferController.onRequest at h ⊢
    cases hs : c.m_sessions.value? tid with
    | none => rw [onSession_none hs]
    | some s =>
        rw [onSession_some hs] at h ⊢
        apply r.run_files
        rw [List.eq_nil_iff_forall_not_mem]
        intro op hop
        exact h s.objectId op (List.mem_map_of_mem (mem_fileOps.mp hop))
  rw [← List.nil_append (c.step json sha e io).2] at h
  revert h
  apply step_induction (I := fun c' log => (∀ i op, ⟨i, .file op⟩ ∉ log) → c'.files = c.files)
  · intro _
    rfl
  · intro s deeds _ _
    rfl
  · intro tid s r _ _ h
    exact hrequest h
  · intro tid _ _ h
    exact hrequest h
  · intro _ c' log tid ih h
    simp only [List.mem_append, not_or] at h
    rw [hrequest fun i op => (h i op).2]
    exact ih fun i op => (h i op).1

/-- The law of consent in a state that was reached.

For sending: a chunk is sent only for an outgoing session that did not come to
its end, under its own id, and behind an inbound `FileAccept` for this id; once
a session is in a final state its object never sends a chunk again, and as long
as no id is drawn twice neither does any other under its id, whatever offers
arrive.

For files: in the history of every session the calls on files come behind the
check of `acceptTransfer`, which only a local call passes, for an incoming
session that is offered; and without a call on files they stay as they are. -/
structure Consent (json : JsonCodec) (sha : Sha256) (es : List (Event × Io))
    (log : List Effect) (c : FileTransferController) : Prop where
  sending {e : Event} {io : Io} {i frame} : ⟨i, .sendFrame frame⟩ ∈ (c.step json sha e io).2 →
    frame.type = .FileChunk →
      ∃ tid s, ChunkFor c tid i frame s ∧ Accepted json (es ++ [(e, io)]) tid
  closed {tid s} {es' : List (Event × Io)} {log' c'} : c.m_sessions.value? tid = some s →
    s.state.isFinal = true →
    Run (machine json sha) (fun _ _ => True) c es' log' c' →
      ∀ {e : Event} {io : Io} {i frame}, ⟨i, .sendFrame frame⟩ ∈ (c'.step json sha e io).2 →
        frame.type = .FileChunk → i ≠ s.objectId
  shut {tid s} {es' : List (Event × Io)} {log' c'} : c.m_sessions.value? tid = some s →
    s.state.isFinal = true →
    Run (machine json sha) (DrawsFreshId json) c es' log' c' →
      ∀ {e : Event} {io : Io} {i frame s'}, ⟨i, .sendFrame frame⟩ ∈ (c'.step json sha e io).2 →
        frame.type = .FileChunk → c'.m_sessions.value? tid = some s' → i ≠ s'.objectId
  asked (i : ℕ) : AfterCheck (deedsOf i log)
  check {e : Event} {io : Io} {i} : ⟨i, .passedCheck⟩ ∈ (c.step json sha e io).2 →
    ∃ tid dir s, e = .acceptTransfer tid dir ∧ c.m_sessions.value? tid = some s ∧
      s.objectId = i ∧ s.state = .Offering ∧ s.direction = .Incoming
  files {e : Event} {io : Io} : (∀ i op, ⟨i, .file op⟩ ∉ (c.step json sha e io).2) →
    (c.step json sha e io).1.files = c.files

/-- Both halves of the invariant, in every state reached. -/
lemma agreed_asked_of_run {m_socket : Bool} {files : FileSystem}
    (hrun : Run (machine json sha) (fun _ _ => True) (init m_socket files) es log c) :
    Agreed json es c ∧ Asked c log := by
  apply hrun.invariant_log (I := fun es log c => Agreed json es c ∧ Asked c log)
  · refine ⟨⟨?_, ?_⟩, Asked.init m_socket files⟩
    · intro tid s hs
      simp [FileTransferController.init] at hs
    · intro tid s hs
      simp [FileTransferController.init] at hs
  · intro es log c e h _
    exact ⟨h.1.step.1, h.2.step⟩

/-- **Consent.** It is kept in every run. -/
theorem consent {m_socket : Bool} {files : FileSystem}
    (hrun : Run (machine json sha) (fun _ _ => True) (init m_socket files) es log c) :
    Consent json sha es log c := by
  obtain ⟨hagreed, hasked⟩ := agreed_asked_of_run hrun
  refine ⟨fun h htype => hagreed.step.2 _ _ h htype, ?_, ?_, hasked.ordered, passedCheck_of_step,
    files_of_step⟩
  · intro tid s es' log' c' hs hfinal hlater e io i frame h htype heq
    obtain ⟨hagreed', -⟩ := agreed_asked_of_run (hrun.trans hlater)
    have hclosed : Closed s.objectId c := by
      refine ⟨hasked.numbered.lt hs, ?_⟩
      intro tid' s' hs' hid
      have htid := hasked.numbered.inj hs' hs hid
      rw [htid, hs, Option.some.injEq] at hs'
      rw [← hs']
      exact hfinal
    have hclosed' : Closed s.objectId c' :=
      hlater.invariant hclosed fun _ _ h _ => h.step
    obtain ⟨tid', s', hchunk, -⟩ := hagreed'.step.2 _ _ h htype
    have hrunning := hchunk.running
    rw [hclosed'.final hchunk.registered (hchunk.object.trans heq)] at hrunning
    cases hrunning
  · intro tid s es' log' c' hs hfinal hlater e io i frame s' h htype hs' heq
    obtain ⟨hagreed', hasked'⟩ :=
      agreed_asked_of_run (hrun.trans (hlater.mono fun _ _ _ => trivial))
    obtain ⟨s₁, hs₁, hshut⟩ : Shut tid c' :=
      hlater.invariant ⟨s, hs, .inl hfinal⟩ fun _ _ h hfresh => h.step hfresh
    obtain ⟨tid', s₂, hchunk, -⟩ := hagreed'.step.2 _ _ h htype
    have htid := hasked'.numbered.inj hchunk.registered hs' (hchunk.object.trans heq)
    have hsame : s₂ = s₁ := by
      have hs₂ := hchunk.registered
      rw [htid, hs₁, Option.some.injEq] at hs₂
      exact hs₂.symm
    rw [← hsame] at hshut
    rcases hshut with hf | hd
    · rw [hchunk.running] at hf
      cases hf
    · rw [hchunk.outgoing] at hd
      cases hd

/-- A file system with a file that contains the letter `a`. -/
def oneLetterFile : FileSystem :=
  (FileSystem.empty.openTruncate "/home/a.txt").writeAt 0 0 [0x61]

/-- The letter is offered, and the peer accepts it. -/
def sendLetter : List (Event × Io) :=
  [(.sendFile "/home/a.txt" "", { uuid := "01234567-89ab-4def-8123-456789abcdef" }),
    (.frameReceivedFrom (jsonFrame compact .FileAccept (FileAccept.toJson ⟨"ft_0123456789ab4"⟩))
      "10.77.0.2", {})]

theorem consent_letter :
    Consent compact .sample sendLetter
        ((machine compact .sample).exec (init true oneLetterFile) sendLetter).1
        ((machine compact .sample).exec (init true oneLetterFile) sendLetter).2 ∧
      chunkFrames (deedsOf 0
        ((machine compact .sample).exec (init true oneLetterFile) sendLetter).1) =
          [⟨.FileChunk, FileChunk.encode "ft_0123456789ab4" 0 [0x61]⟩] :=
  ⟨consent (Run.exec ((machine compact .sample).allows_of_forall (fun _ _ => trivial) _ _)),
    by decide +kernel⟩

end FileTransferController

end MeckChat.Protocol
