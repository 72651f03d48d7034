import MeckChat.Protocol.TransferIntegrity

/-!
The stream of an incoming transfer.

* `Reception` is what a transfer has received since it was accepted: the chunks that got past
  the checks of `handleInboundFileChunk`, and the bytes that were passed to `write`. `recorder`
  is the controller with the receptions of its transfers.
* `Streamed` says that the chunks, the file, the hash and the counters of a session agree.
  `Request.run_streamed` is its step lemma on one session, `streamed_step` the one on the
  controller.
* `incoming_stream` is the invariant of all runs, with what it says about completion.
-/

namespace MeckChat.Protocol

open Qt QJson FileTransferController

variable (json : JsonCodec) (sha : Sha256)

/-! ### What a transfer has received -/

/-- The chunks that an incoming transfer has taken since it was accepted, and the bytes that
were passed to its file handle. -/
structure Reception where
  chunks : List FileChunk := []
  written : Bytes := []
  deriving DecidableEq

/-- The data of the chunks. -/
def Reception.data (r : Reception) : Bytes := r.chunks.flatMap (·.chunkData)

instance (s : FileTransferSession) : Decidable s.Live := inferInstanceAs (Decidable (_ ∧ _))

/-- The checks of `handleInboundFileChunk`. -/
def FileTransferSession.Takes (s : FileTransferSession) (chunkIndex : UInt32) : Prop :=
  s.Live ∧ chunkIndex = s.currentChunkIndex

instance (s : FileTransferSession) (chunkIndex : UInt32) : Decidable (s.Takes chunkIndex) :=
  inferInstanceAs (Decidable (_ ∧ _))

/-- The reception behind a request on its session. -/
def Reception.after (tid : String) (s : FileTransferSession) (r : Reception) :
    Request → Reception
  | .acceptTransfer _ => if s.state = .Offering ∧ s.direction = .Incoming then {} else r
  | .fileChunk chunkIndex chunkData =>
      if s.Takes chunkIndex then
        { chunks := r.chunks ++ [⟨tid, chunkIndex, chunkData⟩]
          written := r.written ++ if s.fileHandle.any (·.isOpen) then chunkData else [] }
      else r
  | _ => r

/-- A controller, and what the transfers of its sessions have received. -/
structure Downloads where
  controller : FileTransferController
  receptions : String → Reception := fun _ => {}

namespace Downloads

/-- The receptions behind a command. -/
def record (d : Downloads) : Command → String → Reception
  | .request tid request =>
      match d.controller.m_sessions.value? tid with
      | some s => Function.update d.receptions tid ((d.receptions tid).after tid s request)
      | none => d.receptions
  | _ => d.receptions

/-- The controller, with a record of what its transfers receive. -/
def recorder : Machine Downloads (Event × Io) Effect where
  step d e :=
    ({ controller := (d.controller.step json sha e.1 e.2).1
       receptions := d.record (e.1.command json) },
      (d.controller.step json sha e.1 e.2).2)

end Downloads

/-- What a session holds of its reception. The indices are those of the type of
`chunkIndex`, 32 bits wide. -/
structure Streamed (s : FileTransferSession) (r : Reception) : Prop where
  indices : r.chunks.map (·.chunkIndex) = (List.range r.chunks.length).map UInt32.ofNat
  next : s.currentChunkIndex.toNat = r.chunks.length % 2 ^ 32
  file : r.written = r.data
  hash : s.cryptoHash = r.data
  counted : s.transferredBytes = r.data.length
  writes : ∃ h, s.fileHandle = some h ∧ h.isOpen = true ∧ h.mode = .WriteOnly

variable {json sha}
variable {io : Io} {b : Bool} {tid : String} {t : Turn} {r : Reception}

/-! ### One session -/

/-- A transfer that was accepted starts with nothing. -/
lemma streamed_accepted {dir : String}
    (hcheck : t.session.state = .Offering ∧ t.session.direction = .Incoming)
    (hlive : (t.acceptTransfer json io b tid dir).1.session.Live) :
    Streamed (t.acceptTransfer json io b tid dir).1.session {} := by
  have hstate := hlive.2
  cases ho : io.openOk with
  | false =>
      rw [(Turn.acceptTransfer_failed json io b tid dir hcheck ho).1] at hstate
      cases hstate
  | true =>
      by_cases hsize : t.session.fileSize = 0
      · rw [(Turn.acceptTransfer_empty json io b tid dir hcheck ho hsize).1] at hstate
        cases hstate
      · rw [(Turn.acceptTransfer_receiving json io b tid dir hcheck ho hsize).1]
        exact ⟨rfl, rfl, rfl, rfl, rfl, _, rfl, rfl, rfl⟩

/-- What writing a chunk changes of a session. -/
lemma Turn.session_writeData (io : Io) (data : Bytes) {h : QFile}
    (hhandle : t.session.fileHandle = some h) :
    ∃ h', (t.writeData io data).session = { t.session with fileHandle := some h' } ∧
      h'.isOpen = h.isOpen ∧ h'.mode = h.mode := by
  rw [writeData, hhandle]
  dsimp only
  split_ifs
  · exact ⟨h.advance _, rfl, rfl, rfl⟩
  · exact ⟨h, by rw [← hhandle], rfl, rfl⟩

/-- One more index. -/
lemma Streamed.indices_concat {chunks : List FileChunk} {chunk : FileChunk} {i : UInt32}
    (h : chunks.map (·.chunkIndex) = (List.range chunks.length).map UInt32.ofNat)
    (hnext : i.toNat = chunks.length % 2 ^ 32) (hchunk : chunk.chunkIndex = i) :
    (chunks ++ [chunk]).map (·.chunkIndex) =
      (List.range (chunks ++ [chunk]).length).map UInt32.ofNat := by
  have hi : i = UInt32.ofNat chunks.length := by
    rw [← UInt32.toNat_inj, UInt32.toNat_ofNat']
    exact hnext
  rw [List.map_append, h, List.length_append, List.length_singleton, List.range_succ,
    List.map_append, List.map_singleton, List.map_singleton, hchunk, hi]

/-- A chunk in its turn. -/
lemma Streamed.chunk {index : UInt32} {data : Bytes} (h : Streamed t.session r)
    (htakes : t.session.Takes index) :
    Streamed (t.handleInboundFileChunk io tid index data).session
      (r.after tid t.session (.fileChunk index data)) := by
  obtain ⟨handle, hhandle, hopen, hmode⟩ := h.writes
  obtain ⟨handle', hsession, hopen', hmode'⟩ := Turn.session_writeData io data hhandle
  have hdata : ({ chunks := r.chunks ++ [⟨tid, index, data⟩], written := r.written ++ data } :
      Reception).data = r.data ++ data := by
    rw [Reception.data, List.flatMap_append, List.flatMap_singleton]
    rfl
  have hafter : r.after tid t.session (.fileChunk index data) =
      { chunks := r.chunks ++ [⟨tid, index, data⟩], written := r.written ++ data } := by
    rw [Reception.after, if_pos htakes, hhandle, Option.any_some, if_pos hopen]
  obtain ⟨⟨hdir, hstate⟩, hindex⟩ := htakes
  rw [hafter, Turn.handleInboundFileChunk, if_neg (by rw [hstate, hdir]; simp),
    if_neg (not_not.mpr hindex), Turn.session_emit, Turn.session_countChunk, Turn.session_addData,
    hsession]
  constructor
  · exact indices_concat h.indices h.next hindex
  · rw [UInt32.toNat_add, h.next, List.length_append, List.length_singleton]
    exact Nat.mod_add_mod _ _ _
  · rw [hdata, h.file]
  · rw [hdata, h.hash]
  · rw [hdata, List.length_append, Nat.cast_add, h.counted]
  · exact ⟨handle', rfl, hopen'.trans hopen, hmode'.trans hmode⟩

/-- A stale timer ends an incoming transfer. -/
lemma Streamed.not_live_sendNextChunk (h : Streamed t.session r) (hlive : t.session.Live) :
    ¬ (t.sendNextChunk json io b tid).session.Live := by
  obtain ⟨handle, hhandle, hopen, hmode⟩ := h.writes
  have hread : t.readData io = [] := by
    rw [Turn.readData, hhandle]
    simp [QFile.read, hmode]
  have hcounted : 0 ≤ t.session.transferredBytes := by
    rw [h.counted]
    exact Int.natCast_nonneg _
  rintro ⟨_, hstate⟩
  rw [Turn.sendNextChunk, if_neg (by simp [hlive.2, Turn.handleOpen, hhandle, hopen])] at hstate
  split_ifs at hstate with hend hempty
  · simp [Turn.sendComplete] at hstate
  · simp at hstate
  · -- nothing is read of a file that is written
    have hsize : ¬ t.session.fileSize > 0 := fun hsize => hempty ⟨hread, hsize⟩
    exact hend (.inr (by omega))

/-- **Step lemma for the stream of a session.** -/
theorem Request.run_streamed (request : Request) (h : t.session.Live → Streamed t.session r)
    (hlive : (request.run json sha io b tid t).session.Live) :
    Streamed (request.run json sha io b tid t).session (r.after tid t.session request) := by
  have hdir : t.session.direction = .Incoming :=
    (congrArg Terms.direction (request.run_terms json sha io b tid t)).symm.trans hlive.1
  have hstate := hlive.2
  cases request with
  | acceptTransfer dir =>
      rw [run] at hlive ⊢
      by_cases hcheck : t.session.state = .Offering ∧ t.session.direction = .Incoming
      · rw [Reception.after, if_pos hcheck]
        exact streamed_accepted hcheck hlive
      · rw [Turn.acceptTransfer_refused json io b tid dir (by tauto)] at hlive ⊢
        rw [Reception.after, if_neg hcheck]
        exact h hlive
  | rejectTransfer reason => simp [run, Turn.rejectTransfer] at hstate
  | cancelTransfer reason => simp [run, Turn.cancelTransfer] at hstate
  | fileAccept =>
      have hsame : t.handleInboundFileAccept json io b tid = t :=
        if_pos (.inl (by rw [hdir]; decide))
      rw [run, hsame] at hlive ⊢
      exact h hlive
  | fileReject reason => simp [run, Turn.handleInboundFileReject] at hstate
  | fileChunk index data =>
      by_cases htakes : t.session.Takes index
      · exact (h htakes.1).chunk htakes
      · rw [Reception.after, if_neg htakes]
        simp only [run, Turn.handleInboundFileChunk] at hlive hstate ⊢
        split_ifs at hlive hstate ⊢ with hidle hindex
        · exact h hlive
        · simp at hstate
        · rw [not_or, not_not, not_not] at hidle
          exact absurd ⟨⟨hidle.2, hidle.1⟩, not_not.mp hindex⟩ htakes
  | fileComplete =>
      simp only [run, Turn.handleInboundFileComplete, Turn.moveToFinal] at hlive hstate ⊢
      split_ifs at hlive hstate ⊢
      · exact h hlive
      · simp at hstate
      · simp at hstate
      · simp at hstate
  | fileCancel reason => simp [run, Turn.handleInboundFileCancel] at hstate
  | sendNextChunk =>
      by_cases hbefore : t.session.Live
      · exact absurd hlive ((h hbefore).not_live_sendNextChunk hbefore)
      · have hsame : t.sendNextChunk json io b tid = t :=
          if_pos (.inl fun hstate => hbefore ⟨hdir, hstate⟩)
        rw [run, hsame] at hlive
        exact absurd hlive hbefore
  | disconnected =>
      simp only [run, Turn.onSocketDisconnected] at hlive hstate ⊢
      split_ifs at hlive hstate ⊢
      · simp at hstate
      · exact h hlive

/-- A session that `handleInboundFileComplete` completes was promised the hash of what it was
fed. -/
lemma Turn.completed_hash (hlive : t.session.Live)
    (h : (t.handleInboundFileComplete sha io tid).session.state = .Completed) :
    QString.equalCI (sha.hex t.session.cryptoHash) t.session.expectedSha256 = true := by
  rw [handleInboundFileComplete, if_neg (by rw [hlive.1, hlive.2]; simp)] at h
  by_contra hhash
  dsimp only at h
  rw [if_neg (by simpa using hhash)] at h
  simp at h

/-! ### The controller -/

namespace Downloads

/-- A property of sessions and their receptions, of all sessions of a controller. -/
def Everywhere (P : FileTransferSession → Reception → Prop) (c : FileTransferController)
    (receptions : String → Reception) : Prop :=
  ∀ tid s, c.m_sessions.value? tid = some s → P s (receptions tid)

/-- Every incoming transfer in progress holds what it has received. -/
def Consistent (c : FileTransferController) (receptions : String → Reception) : Prop :=
  ∀ tid s, c.m_sessions.value? tid = some s → s.Live → Streamed s (receptions tid)

variable {P : FileTransferSession → Reception → Prop}
variable {c : FileTransferController} {receptions : String → Reception} {d : Downloads}

lemma Everywhere.register (h : Everywhere P c receptions) {s : FileTransferSession}
    (hs : ∀ r, P s r) (deeds : List Deed) : Everywhere P (c.register s deeds).1 receptions := by
  intro tid s' hs'
  rw [FileTransferController.register, QMap.value?_insert] at hs'
  split_ifs at hs'
  · rw [← Option.some_inj.mp hs']
    exact hs _
  · exact h tid s' hs'

/-- A request that keeps the property of its own session. -/
lemma Everywhere.onSession {after : String → Reception} {f : Turn → Turn}
    (h : Everywhere P c receptions) (hother : ∀ tid', tid' ≠ tid → after tid' = receptions tid')
    (hself : ∀ s, c.m_sessions.value? tid = some s →
      P (f { session := s, files := c.files }).session (after tid)) :
    Everywhere P (c.onSession tid f).1 after := by
  intro tid' s' hs'
  by_cases htid : tid' = tid
  · subst htid
    cases hs : c.m_sessions.value? tid' with
    | none =>
        rw [onSession_none hs, hs] at hs'
        cases hs'
    | some s =>
        rw [value?_onSession_self hs] at hs'
        rw [← Option.some_inj.mp hs']
        exact hself s hs
  · rw [value?_onSession_of_ne htid] at hs'
    rw [hother tid' htid]
    exact h tid' s' hs'

/-- **Induction over one step**, for a property of each session and its reception. -/
theorem everywhere_step (h : Everywhere P d.controller d.receptions) (e : Event × Io)
    (hregister : ∀ s deeds r,
      Registers json sha d.controller e.2 (e.1.command json) s deeds → P s r)
    (hrequest : ∀ tid s request, e.1.command json = .request tid request →
      d.controller.m_sessions.value? tid = some s → P s (d.receptions tid) →
        P (request.run json sha e.2 d.controller.m_socket tid
            { session := s, files := d.controller.files }).session
          ((d.receptions tid).after tid s request))
    (htimeout : ∀ tid s, e.1.command json = .timeout tid → tid ∈ d.controller.timers →
      d.controller.m_sessions.value? tid = some s → P s (d.receptions tid) →
        P (Request.sendNextChunk.run json sha e.2 d.controller.m_socket tid
            { session := s, files := d.controller.files }).session (d.receptions tid))
    (hdisconnected : ∀ tid (t : Turn) r, P t.session r →
      P (t.onSocketDisconnected e.2 tid).session r) :
    Everywhere P ((recorder json sha).step d e).1.controller
      ((recorder json sha).step d e).1.receptions := by
  obtain ⟨event, io⟩ := e
  change Everywhere P (d.controller.step json sha event io).1 (d.record (event.command json))
  rw [FileTransferController.step_eq_run]
  cases hcommand : event.command json with
  | sendFile filePath ip =>
      rw [runCommand]
      rcases sendFile_cases json sha d.controller io filePath ip with
        hnone | ⟨s, deeds, hregisters, heq⟩
      · rw [hnone]
        exact h
      · rw [heq]
        exact h.register (fun r => hregister s deeds r (hcommand ▸ hregisters)) deeds
  | offer offer =>
      have hregisters : Registers json sha d.controller io (.offer offer)
          (incomingSession d.controller.nextObject offer) [.signal (.fileOfferReceived offer)] :=
        .incoming offer
      exact h.register (fun r => hregister _ _ r (hcommand ▸ hregisters))
        [.signal (.fileOfferReceived offer)]
  | request tid request =>
      rw [runCommand, record]
      cases hs : d.controller.m_sessions.value? tid with
      | none =>
          rw [onRequest, onSession_none hs]
          exact h
      | some s =>
          refine h.onSession (fun tid' htid => Function.update_of_ne htid _ _) fun s' hs' => ?_
          obtain rfl := Option.some_inj.mp (hs.symm.trans hs')
          dsimp only
          rw [Function.update_self]
          exact hrequest tid s request hcommand hs (h tid s hs)
  | timeout tid =>
      rw [runCommand]
      split_ifs with hmem
      · have hfired : Everywhere P { d.controller with timers := d.controller.timers.erase tid }
            d.receptions := h
        exact hfired.onSession (fun _ _ => rfl) fun s hs =>
          htimeout tid s hcommand hmem hs (h tid s hs)
      · exact h
  | disconnect =>
      refine disconnectAll_induction (I := fun c _ => Everywhere P c d.receptions) io ?_ _ [] h
      intro c _ tid h
      exact h.onSession (fun _ _ => rfl) fun s hs => hdisconnected tid _ _ (h tid s hs)
  | nothing => exact h

/-- **One step.** -/
lemma consistent_step (h : Consistent d.controller d.receptions) (e : Event × Io) :
    Consistent ((recorder json sha).step d e).1.controller
      ((recorder json sha).step d e).1.receptions := by
  have heverywhere : Everywhere (fun s r => s.Live → Streamed s r) d.controller d.receptions := h
  refine everywhere_step heverywhere e ?_ ?_ ?_ ?_
  · intro s deeds r hregisters hlive
    rw [FileTransferSession.Live, hregisters.state_eq] at hlive
    exact absurd hlive.2 (by simp)
  · intro tid s request _ _ hself
    exact request.run_streamed hself
  · intro tid s _ _ _ hself
    exact Request.run_streamed .sendNextChunk hself
  · intro tid t r hself
    have hrun : (t.onSocketDisconnected e.2 tid) =
        Request.disconnected.run json sha e.2 true tid t := rfl
    rw [hrun]
    exact Request.run_streamed .disconnected hself

/-- **The stream of an incoming transfer.** In every run, every incoming transfer in progress
has taken the chunks 0, 1, …, n - 1 in this order since it was accepted, it expects chunk n,
and the bytes passed to its file, the bytes fed to its hash and the data of these chunks are
the same, as many as it has counted; and where `handleInboundFileComplete` completes it, their
hash is the one that was promised. -/
theorem incoming_stream {m_socket : Bool} {files : FileSystem} {es : List (Event × Io)}
    {log : List Effect}
    (hrun : Run (recorder json sha) (fun _ _ => True) { controller := init m_socket files }
      es log d) :
    (∀ tid s, d.controller.m_sessions.value? tid = some s → s.Live →
      Streamed s (d.receptions tid)) ∧
    ∀ (e : Event × Io) tid s s', e.1.command json = .request tid .fileComplete →
      d.controller.m_sessions.value? tid = some s → s.Live →
      ((recorder json sha).step d e).1.controller.m_sessions.value? tid = some s' →
      s'.state = .Completed →
        QString.equalCI (sha.hex (d.receptions tid).data) s.expectedSha256 = true := by
  have hconsistent : Consistent d.controller d.receptions := by
    refine hrun.invariant (I := fun d => Consistent d.controller d.receptions) ?_
      fun d e h _ => consistent_step h e
    intro tid s hs
    rw [init, QMap.value?_empty] at hs
    cases hs
  refine ⟨hconsistent, ?_⟩
  rintro ⟨event, io⟩ tid s s' hcommand hs hlive hs' hcompleted
  change (d.controller.step json sha event io).1.m_sessions.value? tid = some s' at hs'
  rw [FileTransferController.step_eq_run, hcommand, runCommand, onRequest,
    value?_onSession_self hs] at hs'
  rw [← (hconsistent tid s hs hlive).hash]
  rw [← Option.some_inj.mp hs'] at hcompleted
  exact Turn.completed_hash (t := { session := s, files := d.controller.files }) hlive hcompleted

/-- An offer of a file of one letter. -/
def letterOffer : FileOffer :=
  ⟨"ft_0123456789ab4", "a.txt", 1, Sha256.sample.hex [0x61], 65536, 1⟩

/-- The letter is accepted and received. -/
def receiveLetter : List (Event × Io) :=
  [(.acceptTransfer "ft_0123456789ab4" "/home/in", {}),
    (.frameReceivedFrom ⟨.FileChunk, FileChunk.encode "ft_0123456789ab4" 0 [0x61]⟩ "10.77.0.2", {})]

/-- The offer arrives. -/
def letterArrives : Event × Io :=
  (.frameReceivedFrom (jsonFrame compact .FileOffer letterOffer.toJson) "10.77.0.2", {})

/-- The controller that was offered the letter. -/
def letterOffered : Downloads where
  controller := ((init true .empty).registerOffer letterOffer).1

lemma command_letterArrives : letterArrives.1.command compact = .offer letterOffer := by
  have hname : sanitizeFileName (sanitizeFileName "a.txt") = "a.txt" := by decide +kernel
  have hread := readFrame_fileOffer compact (m := letterOffer) (by decide) (by decide)
    (Sha256.sample.hex_ne_empty _) (by decide) (by decide)
  rw [letterArrives, Event.command, hread]
  simp [letterOffer, hname]

lemma step_letterArrives :
    ((recorder compact .sample).step { controller := init true .empty } letterArrives).1 =
      letterOffered := by
  rw [recorder]
  dsimp only
  rw [FileTransferController.step_eq_run, command_letterArrives]
  rfl

/-- The letter is received. -/
def letterReceived : Downloads :=
  ((recorder compact .sample).exec letterOffered receiveLetter).2

theorem incoming_stream_letter :
    (letterReceived.controller.m_sessions.value? "ft_0123456789ab4").any
        (fun s => s.Live ∧ s.currentChunkIndex = 1) = true ∧
      letterReceived.receptions "ft_0123456789ab4" =
        ⟨[⟨"ft_0123456789ab4", 0, [0x61]⟩], [0x61]⟩ ∧
      ∀ tid s, letterReceived.controller.m_sessions.value? tid = some s → s.Live →
        Streamed s (letterReceived.receptions tid) := by
  have hrun := Run.exec ((recorder compact .sample).allows_of_forall (fun _ _ => trivial)
    { controller := init true .empty } (letterArrives :: receiveLetter))
  rw [Machine.exec_cons_snd, step_letterArrives] at hrun
  exact ⟨by decide +kernel, by decide +kernel, (incoming_stream hrun).1⟩

end Downloads

end MeckChat.Protocol
