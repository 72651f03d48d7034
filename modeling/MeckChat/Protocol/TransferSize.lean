import MeckChat.Protocol.TransferStream

/-!
The size of an incoming transfer.

* `Request.WithinSize` is what a request has to respect: a chunk brings no more than is missing of
  the offered size, and what completes a transfer finds all of it.
* `Sized` says that a session has counted, and its file was given, no more than the offer
  promised. `Request.run_sized` is its step lemma on one session.
* `accepted_size_respected` is the invariant of all runs whose requests are within the size. The
  controller itself checks none of this, and `long_chunk_taken` is a run in which a peer sends more
  than it offered.
-/

namespace MeckChat.Protocol

open Qt QJson FileTransferController

variable (json : JsonCodec) (sha : Sha256)

/-! ### What a request has to respect -/

/-- A chunk that is taken fits into what is missing, a completion that is about to succeed finds
nothing missing, and so does a stale timer with the file at its end. -/
def Request.WithinSize (io : Io) (t : Turn) : Request → Prop
  | .fileChunk index data =>
      t.session.Takes index → t.session.transferredBytes + data.length ≤ t.session.fileSize
  | .fileComplete =>
      t.session.Live →
        QString.equalCI (sha.hex t.session.cryptoHash) t.session.expectedSha256 = true →
        (Turn.cleared io t.files t.session.finalFilePath).canRename t.session.tempFilePath
          t.session.finalFilePath io.renameOk = true →
        t.session.transferredBytes = t.session.fileSize
  | .sendNextChunk =>
      t.session.Live → t.handleOpen = true → t.handleAtEnd = true →
        t.session.transferredBytes = t.session.fileSize
  | _ => True

/-- The request of a step is within the size of the incoming session that it is for. -/
def WithinSizes (c : FileTransferController) (e : Event × Io) : Prop :=
  match e.1.command json with
  | .request tid request =>
      ∀ s, c.m_sessions.value? tid = some s → s.direction = .Incoming →
        request.WithinSize sha e.2 { session := s, files := c.files }
  | .timeout tid =>
      tid ∈ c.timers → ∀ s, c.m_sessions.value? tid = some s → s.direction = .Incoming →
        Request.sendNextChunk.WithinSize sha e.2 { session := s, files := c.files }
  | _ => True

/-- No more was counted, or passed to the file, than the offer promised, and all of it where the
transfer is completed. The file of a transfer in progress cannot be read. -/
structure Sized (s : FileTransferSession) (r : Reception) : Prop where
  nonneg : 0 ≤ s.transferredBytes
  counted : s.transferredBytes ≤ s.fileSize
  written : s.fileHandle.isSome → (r.written.length : ℤ) ≤ s.transferredBytes
  completed : s.state = .Completed → s.transferredBytes = s.fileSize
  writeOnly : s.Live → ∀ h, s.fileHandle = some h → h.mode = .WriteOnly

variable {json sha}
variable {io : Io} {b : Bool} {tid : String} {s s' : FileTransferSession} {t : Turn} {r : Reception}

/-! ### One session -/

/-- A session that stops keeps its counters. -/
lemma Sized.settled (h : Sized s r) (hsize : s'.fileSize = s.fileSize)
    (hcount : s'.transferredBytes = s.transferredBytes)
    (hhandle : s'.fileHandle.isSome = s.fileHandle.isSome) (hstate : s'.state ≠ .Transferring)
    (hdone : s'.state = .Completed → s.transferredBytes = s.fileSize) : Sized s' r := by
  constructor
  · rw [hcount]
    exact h.nonneg
  · rw [hcount, hsize]
    exact h.counted
  · rw [hcount, hhandle]
    exact h.written
  · rw [hcount, hsize]
    exact hdone
  · exact fun hlive => absurd hlive.2 hstate

/-- A transfer that is offered. -/
lemma sized_incomingSession {offer : FileOffer} (hsize : 0 ≤ offer.fileSize) (i : ℕ) :
    Sized (incomingSession i offer) r :=
  ⟨le_rfl, hsize, nofun, nofun, nofun⟩

/-- Accepting starts from nothing. -/
lemma Sized.accept {dir : String} (h : Sized t.session r)
    (hcheck : t.session.state = .Offering ∧ t.session.direction = .Incoming) :
    Sized (t.acceptTransfer json io b tid dir).1.session {} := by
  have hsize : 0 ≤ t.session.fileSize := h.nonneg.trans h.counted
  cases ho : io.openOk with
  | false =>
      have hkept : (t.acceptTransfer json io b tid dir).1.session.state = .Failed ∧
          (t.acceptTransfer json io b tid dir).1.session.transferredBytes =
            t.session.transferredBytes ∧
          (t.acceptTransfer json io b tid dir).1.session.fileSize = t.session.fileSize := by
        simp [Turn.acceptTransfer, hcheck.1, hcheck.2, Turn.handleOpen_openTemp, ho]
      obtain ⟨hstate, hcount, hsize'⟩ := hkept
      constructor
      · rw [hcount]
        exact h.nonneg
      · rw [hcount, hsize']
        exact h.counted
      · rw [hcount]
        exact fun _ => h.nonneg
      · rw [hstate]
        rintro ⟨⟩
      · rw [FileTransferSession.Live, hstate]
        rintro ⟨-, ⟨⟩⟩
  | true =>
      by_cases hempty : t.session.fileSize = 0
      · rw [(Turn.acceptTransfer_empty json io b tid dir hcheck ho hempty).1]
        exact ⟨le_rfl, hsize, fun _ => le_rfl, fun _ => hempty.symm, by rintro ⟨-, ⟨⟩⟩⟩
      · rw [(Turn.acceptTransfer_receiving json io b tid dir hcheck ho hempty).1]
        refine ⟨le_rfl, hsize, fun _ => le_rfl, by rintro ⟨⟩, ?_⟩
        rintro - handle ⟨⟩
        rfl

/-- A chunk that fits. -/
lemma Sized.chunk {index : UInt32} {data : Bytes} (h : Sized t.session r)
    (htakes : t.session.Takes index)
    (hfits : t.session.transferredBytes + data.length ≤ t.session.fileSize) :
    Sized (t.handleInboundFileChunk io tid index data).session
      (r.after tid t.session (.fileChunk index data)) := by
  have hnonneg := h.nonneg
  obtain ⟨⟨hdir, hstate⟩, hindex⟩ := htakes
  have hwrite : ∃ handle, (t.writeData io data).session = { t.session with fileHandle := handle } ∧
      handle.isSome = t.session.fileHandle.isSome ∧
      ∀ h', handle = some h' → h'.mode = .WriteOnly := by
    cases hhandle : t.session.fileHandle with
    | none => exact ⟨none, by rw [Turn.writeData, hhandle]; simp [← hhandle], rfl, by rintro _ ⟨⟩⟩
    | some handle =>
        obtain ⟨handle', hsession, -, hmode⟩ := Turn.session_writeData io data hhandle
        refine ⟨some handle', hsession, rfl, ?_⟩
        rintro h' ⟨⟩
        exact hmode.trans (h.writeOnly ⟨hdir, hstate⟩ handle hhandle)
  obtain ⟨handle, hsession, hsome, hmode⟩ := hwrite
  rw [Reception.after, if_pos ⟨⟨hdir, hstate⟩, hindex⟩, Turn.handleInboundFileChunk,
    if_neg (by rw [hstate, hdir]; simp), if_neg (not_not.mpr hindex), Turn.session_emit,
    Turn.session_countChunk, Turn.session_addData, hsession]
  constructor
  · show 0 ≤ t.session.transferredBytes + (data.length : ℤ)
    omega
  · exact hfits
  · intro hhandle
    have hbefore := h.written (hsome.symm.trans hhandle)
    show ((r.written ++ _).length : ℤ) ≤ t.session.transferredBytes + (data.length : ℤ)
    rw [List.length_append]
    split_ifs
    · omega
    · rw [List.length_nil]
      omega
  · rw [hstate]
    rintro ⟨⟩
  · exact fun _ => hmode

/-- A stale timer either finds the transfer complete or fails it. -/
lemma Sized.sendNextChunk (h : Sized t.session r) (hdir : t.session.direction = .Incoming)
    (hwithin : Request.sendNextChunk.WithinSize sha io t) :
    Sized (t.sendNextChunk json io b tid).session r := by
  have hnonneg := h.nonneg
  have hcounted := h.counted
  rw [Turn.sendNextChunk]
  by_cases hidle : t.session.state ≠ .Transferring ∨ ¬ t.handleOpen
  · rw [if_pos hidle]
    exact h
  rw [not_or, not_not, not_not] at hidle
  have hlive : t.session.Live := ⟨hdir, hidle.1⟩
  rw [if_neg (by rw [not_or, not_not, not_not]; exact hidle)]
  by_cases hend : t.handleAtEnd ∨ t.session.transferredBytes ≥ t.session.fileSize
  · have hall : t.session.transferredBytes = t.session.fileSize := by
      rcases hend with hend | hend
      · exact hwithin hlive hidle.2 hend
      · omega
    rw [if_pos hend]
    refine h.settled ?_ ?_ ?_ ?_ fun _ => hall <;> simp [Turn.sendComplete]
  · -- nothing is read of a file that is written
    have hread : t.readData io = [] := by
      rw [Turn.readData]
      cases hhandle : t.session.fileHandle with
      | none => rfl
      | some handle => simp [QFile.read, h.writeOnly hlive handle hhandle]
    have hsize : t.session.fileSize > 0 := by
      rw [not_or] at hend
      omega
    rw [if_neg hend, if_pos ⟨hread, hsize⟩]
    refine h.settled rfl rfl rfl ?_ ?_ <;> simp

/-- Moving the file to its place completes the transfer or fails it. -/
lemma Sized.moveToFinal (h : Sized t.session r)
    (hall : (Turn.cleared io t.files t.session.finalFilePath).canRename t.session.tempFilePath
      t.session.finalFilePath io.renameOk = true → t.session.transferredBytes = t.session.fileSize) :
    Sized (t.moveToFinal io tid).session r := by
  rw [Turn.moveToFinal]
  split_ifs with hmove
  · have hdone := hall hmove
    refine h.settled ?_ ?_ ?_ ?_ fun _ => hdone <;> simp
  · refine h.settled ?_ ?_ ?_ ?_ ?_ <;> simp

/-- A completion that succeeds finds the whole file. -/
lemma Sized.fileComplete (h : Sized t.session r)
    (hwithin : Request.fileComplete.WithinSize sha io t) :
    Sized (t.handleInboundFileComplete sha io tid).session r := by
  rw [Turn.handleInboundFileComplete]
  by_cases hidle : t.session.direction ≠ .Incoming ∨ t.session.state ≠ .Transferring
  · rw [if_pos hidle]
    exact h
  rw [not_or, not_not, not_not] at hidle
  rw [if_neg (by rw [not_or, not_not, not_not]; exact hidle)]
  have hverifying : Sized (t.setState .Verifying).closeHandle.session r := by
    refine h.settled ?_ ?_ ?_ ?_ ?_ <;> simp
  dsimp only
  split_ifs with hhash
  · exact hverifying.moveToFinal fun hmove => hwithin hidle hhash hmove
  · refine hverifying.settled ?_ ?_ ?_ ?_ ?_ <;> simp

/-- **Step lemma for the size of a session.** -/
theorem Request.run_sized (request : Request) (h : Sized t.session r)
    (hdir : t.session.direction = .Incoming) (hwithin : request.WithinSize sha io t) :
    Sized (request.run json sha io b tid t).session (r.after tid t.session request) := by
  cases request with
  | acceptTransfer dir =>
      rw [run]
      by_cases hcheck : t.session.state = .Offering ∧ t.session.direction = .Incoming
      · rw [Reception.after, if_pos hcheck]
        exact h.accept hcheck
      · rw [Turn.acceptTransfer_refused json io b tid dir (by tauto), Reception.after,
          if_neg hcheck]
        exact h
  | rejectTransfer reason => refine h.settled ?_ ?_ ?_ ?_ ?_ <;> simp [run, Turn.rejectTransfer]
  | cancelTransfer reason => refine h.settled ?_ ?_ ?_ ?_ ?_ <;> simp [run, Turn.cancelTransfer]
  | fileAccept =>
      have hsame : t.handleInboundFileAccept json io b tid = t :=
        if_pos (.inl (by rw [hdir]; decide))
      rw [run, hsame]
      exact h
  | fileReject reason =>
      refine h.settled ?_ ?_ ?_ ?_ ?_ <;> simp [run, Turn.handleInboundFileReject]
  | fileChunk index data =>
      by_cases htakes : t.session.Takes index
      · exact h.chunk htakes (hwithin htakes)
      · rw [Reception.after, if_neg htakes, run, Turn.handleInboundFileChunk]
        split_ifs with hidle hindex
        · exact h
        · refine h.settled ?_ ?_ ?_ ?_ ?_ <;> simp
        · rw [not_or, not_not, not_not] at hidle
          exact absurd ⟨⟨hidle.2, hidle.1⟩, not_not.mp hindex⟩ htakes
  | fileComplete => exact h.fileComplete hwithin
  | fileCancel reason =>
      refine h.settled ?_ ?_ ?_ ?_ ?_ <;> simp [run, Turn.handleInboundFileCancel]
  | sendNextChunk => exact h.sendNextChunk hdir hwithin
  | disconnected =>
      rw [run, Turn.onSocketDisconnected]
      split_ifs
      · refine h.settled ?_ ?_ ?_ ?_ ?_ <;> simp
      · exact h

/-! ### The controller -/

namespace Downloads

variable {d : Downloads}

/-- **One step.** -/
lemma sized_step {e : Event × Io}
    (h : Everywhere (fun s r => s.direction = .Incoming → Sized s r) d.controller d.receptions)
    (he : WithinSizes json sha d.controller e) :
    Everywhere (fun s r => s.direction = .Incoming → Sized s r)
      ((recorder json sha).step d e).1.controller ((recorder json sha).step d e).1.receptions := by
  have hdirection : ∀ (request : Request) (b : Bool) (tid : String) (t : Turn),
      (request.run json sha e.2 b tid t).session.direction = .Incoming →
        t.session.direction = .Incoming := fun request b tid t hdir =>
    (congrArg Terms.direction (request.run_terms json sha e.2 b tid t)).symm.trans hdir
  refine everywhere_step h e ?_ ?_ ?_ ?_
  · intro s deeds r hregisters hdir
    generalize hcommand : e.1.command json = command at hregisters
    cases hregisters with
    | outgoing hfile => cases hdir
    | incoming offer =>
        obtain ⟨o, ho⟩ := fromJson_of_command json hcommand
        obtain ⟨-, -, hsize, -⟩ := FileOffer.of_fromJson ho
        exact sized_incomingSession hsize _
  · intro tid s request hcommand hs hself hdir
    have hincoming := hdirection request _ tid _ hdir
    rw [WithinSizes, hcommand] at he
    exact request.run_sized (hself hincoming) hincoming (he s hs hincoming)
  · intro tid s hcommand hmem hs hself hdir
    have hincoming := hdirection .sendNextChunk _ tid _ hdir
    rw [WithinSizes, hcommand] at he
    exact (hself hincoming).sendNextChunk hincoming (he hmem s hs hincoming)
  · intro tid t r hself hdir
    have hincoming := hdirection .disconnected true tid t hdir
    have hrun : t.onSocketDisconnected e.2 tid =
        Request.disconnected.run json sha e.2 true tid t := rfl
    rw [hrun]
    exact Request.run_sized .disconnected (hself hincoming) hincoming trivial

/-- **The accepted size.** Where every request is within the size of its transfer, no incoming
session counts, or passes to its file, more than the offered size, and one that is completed has
counted all of it. -/
theorem accepted_size_respected {m_socket : Bool} {files : FileSystem} {es : List (Event × Io)}
    {log : List Effect}
    (hrun : Run (recorder json sha) (fun d e => WithinSizes json sha d.controller e)
      { controller := init m_socket files } es log d) :
    ∀ tid s, d.controller.m_sessions.value? tid = some s → s.direction = .Incoming →
      s.transferredBytes ≤ s.fileSize ∧
      (s.fileHandle.isSome → ((d.receptions tid).written.length : ℤ) ≤ s.fileSize) ∧
      (s.state = .Completed → s.transferredBytes = s.fileSize) := by
  have hsized : Everywhere (fun s r => s.direction = .Incoming → Sized s r) d.controller
      d.receptions := by
    refine hrun.invariant (I := fun d => Everywhere (fun s r => s.direction = .Incoming → Sized s r)
      d.controller d.receptions) ?_ fun d e h he => sized_step h he
    intro tid s hs
    rw [init, QMap.value?_empty] at hs
    cases hs
  intro tid s hs hdir
  have h := hsized tid s hs hdir
  exact ⟨h.counted, fun hhandle => (h.written hhandle).trans h.counted, h.completed⟩

/-- The letter, after its transfer was accepted. -/
def letterSent : Event × Io :=
  (.frameReceivedFrom ⟨.FileChunk, FileChunk.encode "ft_0123456789ab4" 0 [0x61]⟩ "10.77.0.2", {})

/-- The controller that accepted the letter. -/
def letterAccepted : FileTransferController :=
  (letterOffered.controller.step compact .sample (.acceptTransfer "ft_0123456789ab4" "/home/in") {}).1

lemma command_letterSent : letterSent.1.command compact =
    .request "ft_0123456789ab4" (.fileChunk 0 [0x61]) := by
  decide +kernel

/-- The letter is within its size. -/
theorem accepted_size_respected_letter :
    (letterReceived.controller.m_sessions.value? "ft_0123456789ab4").any
        (fun s => s.direction = .Incoming ∧ s.transferredBytes = s.fileSize) = true ∧
    ∀ tid s, letterReceived.controller.m_sessions.value? tid = some s → s.direction = .Incoming →
      s.transferredBytes ≤ s.fileSize ∧
      (s.fileHandle.isSome → ((letterReceived.receptions tid).written.length : ℤ) ≤ s.fileSize) ∧
      (s.state = .Completed → s.transferredBytes = s.fileSize) := by
  have hallows : (recorder compact .sample).Allows
      (fun d e => WithinSizes compact .sample d.controller e) { controller := init true .empty }
      (letterArrives :: receiveLetter) := by
    refine ⟨?_, ?_⟩
    · show WithinSizes compact .sample (init true .empty) letterArrives
      rw [WithinSizes, command_letterArrives]
      trivial
    rw [step_letterArrives]
    refine ⟨fun _ _ _ => trivial, ?_, trivial⟩
    show WithinSizes compact .sample letterAccepted letterSent
    rw [WithinSizes, command_letterSent]
    intro s hs hdir htakes
    have hcounters : (letterAccepted.m_sessions.value? "ft_0123456789ab4").map
        (fun s => (s.transferredBytes, s.fileSize)) = some (0, 1) := by decide +kernel
    rw [hs, Option.map_some, Option.some.injEq, Prod.mk.injEq] at hcounters
    rw [hcounters.1, hcounters.2]
    decide
  have hrun := Run.exec hallows
  rw [Machine.exec_cons_snd, step_letterArrives] at hrun
  exact ⟨by decide +kernel, accepted_size_respected hrun⟩

/-- The letter is accepted, and two bytes of it arrive. -/
def receiveTwo : List (Event × Io) :=
  [(.acceptTransfer "ft_0123456789ab4" "/home/in", {}),
    (.frameReceivedFrom
      ⟨.FileChunk, FileChunk.encode "ft_0123456789ab4" 0 [0x61, 0x62]⟩ "10.77.0.2", {})]

/-- **A chunk that is too long.** The controller takes two bytes of a file of one letter. -/
theorem long_chunk_taken :
    ¬ ∀ es log d, Run (recorder compact .sample) (fun _ _ => True) { controller := init true .empty }
        es log d →
      ∀ tid s, d.controller.m_sessions.value? tid = some s → s.direction = .Incoming →
        s.transferredBytes ≤ s.fileSize := by
  intro h
  have hrun := Run.exec ((recorder compact .sample).allows_of_forall (fun _ _ => trivial)
    { controller := init true .empty } (letterArrives :: receiveTwo))
  rw [Machine.exec_cons_snd, step_letterArrives] at hrun
  have hlong : (((recorder compact .sample).exec letterOffered receiveTwo).2.controller.m_sessions.value?
      "ft_0123456789ab4").any (fun s => s.direction = .Incoming ∧ s.fileSize < s.transferredBytes) =
        true := by decide +kernel
  obtain ⟨s, hs, hcounted⟩ := (Option.any_eq_true _ _).mp hlong
  rw [decide_eq_true_eq] at hcounted
  have hle := h _ _ _ hrun _ s hs hcounted.1
  omega

end Downloads

end MeckChat.Protocol
