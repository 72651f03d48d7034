import MeckChat.Protocol.TransferOutcome

/-!
What the sender of a file says.

* `Histories P` holds of a run when `P` holds of every session object and all that was done for
  it; `Histories.run` is the induction: `P` has to hold where a session is registered, and every
  request on a session has to keep it.
* A `SenderStream` is what a sender may say about one transfer: the offer, numbered chunks, and
  what ends them. `Says` ties it to the state of the session; `Says.send` is one chunk more, and
  `Says.finish` the end of the file.
* `Says.run`: every request keeps an outgoing session to such a stream.
* `sender_streams`: over every run, whatever the peer sends and the user does.
-/

namespace MeckChat.Protocol

open Qt QJson FileTransferController

variable (json : JsonCodec) (sha : Sha256)

/-! ### Histories -/

/-- Every session object has a history that `P` holds of: a registered one as it is, and any
other as it was last. -/
structure Histories (P : FileTransferSession → List Deed → Prop) (m_socket : Bool)
    (c : FileTransferController) (log : List Effect) : Prop where
  numbered : Numbered c log
  socket : c.m_socket = m_socket
  current {tid s} : c.m_sessions.value? tid = some s → P s (deedsOf s.objectId log)
  past {i} : i < c.nextObject → ∃ s, P s (deedsOf i log)

namespace Histories

variable {json sha}
variable {P : FileTransferSession → List Deed → Prop} {m_socket : Bool}
variable {c : FileTransferController} {log : List Effect}

lemma init (m_socket : Bool) (files : FileSystem) :
    Histories P m_socket (FileTransferController.init m_socket files) [] where
  numbered := Numbered.init m_socket files
  socket := rfl
  current h := by simp [FileTransferController.init] at h
  past h := absurd h (Nat.not_lt_zero _)

/-- A new session object. -/
lemma register (h : Histories P m_socket c log) {s : FileTransferSession} {deeds : List Deed}
    (hid : s.objectId = c.nextObject) (hs : P s deeds) :
    Histories P m_socket (c.register s deeds).1 (log ++ (c.register s deeds).2) := by
  have hnew : deedsOf c.nextObject (log ++ (c.register s deeds).2) = deeds := by
    rw [deedsOf_append, h.numbered.fresh le_rfl, List.nil_append]
    exact deedsOf_map_self _ _
  have hold : ∀ i, i ≠ c.nextObject →
      deedsOf i (log ++ (c.register s deeds).2) = deedsOf i log := by
    intro i hi
    rw [deedsOf_append, FileTransferController.register, deedsOf_map_of_ne hi.symm,
      List.append_nil]
  refine ⟨h.numbered.register deeds hid, h.socket, ?_, ?_⟩
  · intro tid s' hs'
    rw [FileTransferController.register, QMap.value?_insert] at hs'
    split_ifs at hs'
    · rw [Option.some.injEq] at hs'
      rw [← hs', hid, hnew]
      exact hs
    · have hlt := h.numbered.lt hs'
      rw [hold _ (by omega)]
      exact h.current hs'
  · intro i hi
    by_cases hnow : i = c.nextObject
    · rw [hnow, hnew]
      exact ⟨s, hs⟩
    · have hlt : i < c.nextObject + 1 := hi
      rw [hold i hnow]
      exact h.past (by omega)

/-- A request on a session. -/
lemma onRequest (h : Histories P m_socket c log) {r : Request} (io : Io) (tid : String)
    (hrequest : ∀ s ds files, s.transferId = tid → P s ds →
      P (r.run json sha io m_socket tid { session := s, files := files }).session
        (ds ++ (r.run json sha io m_socket tid { session := s, files := files }).deeds)) :
    Histories P m_socket (c.onRequest json sha io tid r).1
      (log ++ (c.onRequest json sha io tid r).2) := by
  have hnum := h.numbered.onRequest json sha io tid r
  cases hs : c.m_sessions.value? tid with
  | none =>
      rw [FileTransferController.onRequest, onSession_none hs, List.append_nil]
      exact h
  | some s =>
      obtain ⟨t, ht⟩ : ∃ t : Turn, t = { session := s, files := c.files } := ⟨_, rfl⟩
      have hown : deedsOf s.objectId (log ++ (c.onRequest json sha io tid r).2) =
          deedsOf s.objectId log ++ (r.run json sha io c.m_socket tid t).deeds := by
        rw [deedsOf_append, ht]
        exact congrArg _ (deedsOf_onSession_self hs)
      have hother : ∀ i, s.objectId ≠ i →
          deedsOf i (log ++ (c.onRequest json sha io tid r).2) = deedsOf i log := by
        intro i hi
        rw [deedsOf_append, FileTransferController.onRequest, deedsOf_onSession_of_ne hs hi,
          List.append_nil]
      have hstep : P (r.run json sha io c.m_socket tid t).session
          (deedsOf s.objectId log ++ (r.run json sha io c.m_socket tid t).deeds) := by
        rw [ht, h.socket]
        exact hrequest s _ c.files (h.numbered.key hs) (h.current hs)
      refine ⟨hnum, m_socket_onSession.trans h.socket, ?_, ?_⟩
      · intro tid' s' hs'
        by_cases htid : tid' = tid
        · subst htid
          rw [FileTransferController.onRequest, value?_onSession_self hs, Option.some.injEq,
            ← ht] at hs'
          have hid : s'.objectId = s.objectId := by
            rw [← hs', ht]
            exact congrArg Terms.objectId (r.run_terms json sha io c.m_socket tid' _)
          rw [hid, hown, ← hs']
          exact hstep
        · rw [FileTransferController.onRequest, value?_onSession_of_ne htid] at hs'
          have hne : s.objectId ≠ s'.objectId :=
            fun heq => htid (h.numbered.inj hs' hs heq.symm)
          rw [hother _ hne]
          exact h.current hs'
      · intro i hi
        rw [FileTransferController.onRequest, nextObject_onSession] at hi
        by_cases hi' : s.objectId = i
        · rw [← hi', hown]
          exact ⟨_, hstep⟩
        · rw [hother i hi']
          exact h.past hi

/-- **Histories of runs.** What holds of every session where it is registered, and is kept by
every request, holds of all histories. -/
theorem run {es : List (Event × Io)} {files : FileSystem}
    (hrun : Run (machine json sha) (fun _ _ => True) (FileTransferController.init m_socket files)
      es log c)
    (hregister : ∀ c io cmd s deeds, c.m_socket = m_socket → Registers json sha c io cmd s deeds →
      P s deeds)
    (hrequest : ∀ io (r : Request) s ds files, P s ds →
      P (r.run json sha io m_socket s.transferId { session := s, files := files }).session
        (ds ++ (r.run json sha io m_socket s.transferId { session := s, files := files }).deeds)) :
    Histories P m_socket c log := by
  have hkept : ∀ {c log} (io : Io) (tid : String) (r : Request), Histories P m_socket c log →
      Histories P m_socket (c.onRequest json sha io tid r).1
        (log ++ (c.onRequest json sha io tid r).2) := by
    intro c log io tid r h
    refine h.onRequest io tid fun s ds files hid hs => ?_
    rw [← hid]
    exact hrequest io r s ds files hs
  refine hrun.invariant_log (I := fun _ log c => Histories P m_socket c log)
    (Histories.init m_socket files) ?_
  intro _ log c e h _
  apply step_induction (I := Histories P m_socket) _ h
  · intro s deeds hr
    exact h.register hr.objectId_eq (hregister c e.2 _ s deeds h.socket hr)
  · intro tid s r _ _
    exact hkept e.2 tid r h
  · intro tid _ _
    have hfired : Histories P m_socket { c with timers := c.timers.erase tid } log :=
      ⟨⟨h.numbered.key, h.numbered.lt, h.numbered.inj, h.numbered.fresh⟩, h.socket, h.current,
        h.past⟩
    exact hkept e.2 tid _ hfired
  · intro _ c log tid h
    exact hkept e.2 tid _ h

end Histories

/-! ### What a sender may say -/

/-- What was sent of a file: its pieces, in order, and what came after them. -/
structure SenderStream where
  pieces : List Bytes := []
  ending : List P2PFrame := []

/-- The pieces as chunks, numbered from zero. -/
def chunksOf (tid : String) (pieces : List Bytes) : List P2PFrame :=
  pieces.zipIdx.map fun p => ⟨.FileChunk, FileChunk.encode tid (UInt32.ofNat p.2) p.1⟩

lemma chunksOf_append (tid : String) (pieces : List Bytes) (piece : Bytes) :
    chunksOf tid (pieces ++ [piece]) = chunksOf tid pieces ++
      [⟨.FileChunk, FileChunk.encode tid (UInt32.ofNat pieces.length) piece⟩] := by
  rw [chunksOf, List.zipIdx_append, List.map_append, Nat.zero_add]
  rfl

/-- The frame behind the last chunk. -/
def completeFrame (offer : FileOffer) : P2PFrame :=
  jsonFrame json .FileComplete (FileComplete.toJson ⟨offer.transferId, offer.sha256, "verified"⟩)

/-- The frames with which a transfer is withdrawn. -/
def Withdraws (tid : String) (frame : P2PFrame) : Prop :=
  ∃ reason, frame = jsonFrame json .FileReject (FileReject.toJson ⟨tid, reason⟩) ∨
    frame = jsonFrame json .FileCancel (FileCancel.toJson ⟨tid, reason⟩)

/-- The frames of a stream. -/
def SenderStream.frames (offer : FileOffer) (w : SenderStream) : List P2PFrame :=
  jsonFrame json .FileOffer offer.toJson :: (chunksOf offer.transferId w.pieces ++ w.ending)

/-- A stream as the protocol has it: pieces of the offered size, each of them sent while something
was left of the file, at most one `FileComplete` behind them with the hash of the offer, and then
nothing but withdrawals. -/
structure SenderStream.Valid (offer : FileOffer) (w : SenderStream) : Prop where
  sized {piece} : piece ∈ w.pieces → piece ≠ [] ∧ (piece.length : ℤ) ≤ offer.chunkSize
  within {front piece back} : w.pieces = front ++ piece :: back →
    (front.flatten.length : ℤ) < offer.fileSize
  closed : ∃ withdrawals, (∀ frame ∈ withdrawals, Withdraws json offer.transferId frame) ∧
    (w.ending = withdrawals ∨ w.ending = completeFrame json offer :: withdrawals)

namespace SenderStream

variable {json}
variable {offer : FileOffer} {w : SenderStream}

lemma Valid.offered : Valid json offer {} where
  sized h := absurd h List.not_mem_nil
  within {front piece back} h := by
    have hlength := congrArg List.length h
    simp at hlength
  closed := ⟨[], List.forall_mem_nil _, Or.inl rfl⟩

/-- One piece more. -/
lemma Valid.send (h : w.Valid json offer) {piece : Bytes} (hne : piece ≠ [])
    (hsize : (piece.length : ℤ) ≤ offer.chunkSize)
    (hleft : (w.pieces.flatten.length : ℤ) < offer.fileSize) :
    Valid json offer { w with pieces := w.pieces ++ [piece] } where
  sized {p} hp := by
    rcases List.mem_append.mp hp with hp | hp
    · exact h.sized hp
    · rw [List.mem_singleton.mp hp]
      exact ⟨hne, hsize⟩
  within {front p back} heq := by
    rcases List.eq_nil_or_concat back with rfl | ⟨back, last, rfl⟩
    · obtain ⟨hfront, -⟩ := List.append_inj' heq rfl
      rw [← hfront]
      exact hleft
    · rw [List.concat_eq_append, ← List.cons_append, ← List.append_assoc] at heq
      exact h.within (List.append_inj' heq rfl).1
  closed := h.closed

/-- The end of the file. -/
lemma Valid.finish (h : w.Valid json offer) :
    Valid json offer { w with ending := [completeFrame json offer] } where
  sized := h.sized
  within := h.within
  closed := ⟨[], List.forall_mem_nil _, Or.inr rfl⟩

/-- A withdrawal, whatever was said before. -/
lemma Valid.withdraw (h : w.Valid json offer) {frame : P2PFrame}
    (hframe : Withdraws json offer.transferId frame) :
    Valid json offer { w with ending := w.ending ++ [frame] } where
  sized := h.sized
  within := h.within
  closed := by
    obtain ⟨withdrawals, hall, hending⟩ := h.closed
    refine ⟨withdrawals ++ [frame], ?_, ?_⟩
    · intro f hf
      rcases List.mem_append.mp hf with hf | hf
      · exact hall f hf
      · rw [List.mem_singleton.mp hf]
        exact hframe
    · rcases hending with hending | hending
      · exact Or.inl (congrArg (· ++ [frame]) hending)
      · exact Or.inr (congrArg (· ++ [frame]) hending)

end SenderStream

/-! ### What a session has said -/

/-- The stream of an outgoing session, as far as it has come. -/
structure Says (s : FileTransferSession) (frames : List P2PFrame) (w : SenderStream) : Prop where
  valid : w.Valid json (offerOf s)
  frames_eq : frames = w.frames json (offerOf s)
  chunkSize : s.chunkSize = DEFAULT_FILE_CHUNK_SIZE
  offered : s.state = .Offering → w.pieces = []
  unended : s.state = .Offering ∨ s.state = .Transferring → w.ending = []
  counted : s.state = .Transferring → s.transferredBytes = w.pieces.flatten.length ∧
    s.currentChunkIndex = UInt32.ofNat w.pieces.length
  completed : s.state = .Completed → w.ending = [completeFrame json (offerOf s)]

section Says

variable {json sha}
variable {s s' : FileTransferSession} {frames : List P2PFrame} {w : SenderStream}

/-- A session that is neither offered nor on its way any more has no more to say. -/
lemma Says.rest (h : Says json s frames w) (hoffer : offerOf s' = offerOf s)
    (hsize : s'.chunkSize = s.chunkSize)
    (hstate : s'.state = .Rejected ∨ s'.state = .Cancelled ∨ s'.state = .Failed) :
    Says json s' frames w := by
  refine ⟨hoffer ▸ h.valid, hoffer ▸ h.frames_eq, hsize.trans h.chunkSize, ?_, ?_, ?_, ?_⟩
  all_goals rcases hstate with hstate | hstate | hstate <;> rw [hstate]
  all_goals simp

/-- A withdrawal. -/
lemma Says.withdraw (h : Says json s frames w) {frame : P2PFrame}
    (hframe : Withdraws json s.transferId frame) (hoffer : offerOf s' = offerOf s)
    (hsize : s'.chunkSize = s.chunkSize)
    (hstate : s'.state = .Rejected ∨ s'.state = .Cancelled) :
    Says json s' (frames ++ [frame]) { w with ending := w.ending ++ [frame] } := by
  refine ⟨?_, ?_, hsize.trans h.chunkSize, ?_, ?_, ?_, ?_⟩
  · rw [hoffer]
    exact h.valid.withdraw hframe
  · rw [hoffer, h.frames_eq, SenderStream.frames, SenderStream.frames, List.cons_append,
      List.append_assoc]
  all_goals rcases hstate with hstate | hstate <;> rw [hstate]
  all_goals simp

/-- **One chunk more**, and the counters go on with it. -/
lemma Says.send (h : Says json s frames w) (hstate : s.state = .Transferring) {piece : Bytes}
    (hne : piece ≠ []) (hsize : (piece.length : ℤ) ≤ s.chunkSize)
    (hleft : s.transferredBytes < s.fileSize) (hoffer : offerOf s' = offerOf s)
    (hchunkSize : s'.chunkSize = s.chunkSize) (hstate' : s'.state = s.state)
    (hbytes : s'.transferredBytes = s.transferredBytes + piece.length)
    (hindex : s'.currentChunkIndex = s.currentChunkIndex + 1) :
    Says json s'
      (frames ++ [⟨.FileChunk, FileChunk.encode s.transferId s.currentChunkIndex piece⟩])
      { w with pieces := w.pieces ++ [piece] } := by
  obtain ⟨hcounted, hnumber⟩ := h.counted hstate
  have hunended := h.unended (Or.inr hstate)
  have hdefault : (piece.length : ℤ) ≤ (offerOf s).chunkSize := by
    rw [h.chunkSize] at hsize
    exact hsize
  rw [hstate] at hstate'
  refine ⟨?_, ?_, hchunkSize.trans h.chunkSize, ?_, fun _ => hunended, fun _ => ⟨?_, ?_⟩, ?_⟩
  · rw [hoffer]
    refine h.valid.send hne hdefault ?_
    rw [← hcounted]
    exact hleft
  · rw [hoffer, h.frames_eq, SenderStream.frames, SenderStream.frames, chunksOf_append, hunended,
      hnumber, List.append_nil, List.append_nil, List.cons_append]
    rfl
  · rw [hstate']
    rintro ⟨⟩
  · rw [hbytes, hcounted, List.flatten_append, List.length_append, List.flatten_singleton,
      Nat.cast_add]
  · rw [hindex, hnumber, List.length_append, List.length_singleton, UInt32.ofNat_add]
    rfl
  · rw [hstate']
    rintro ⟨⟩

/-- **The end of the file.** -/
lemma Says.finish (h : Says json s frames w) (hstate : s.state = .Transferring)
    (hoffer : offerOf s' = offerOf s) (hsize : s'.chunkSize = s.chunkSize)
    (hstate' : s'.state = .Completed) :
    Says json s' (frames ++ [completeFrame json (offerOf s)])
      { w with ending := [completeFrame json (offerOf s)] } := by
  have hunended := h.unended (Or.inr hstate)
  refine ⟨?_, ?_, hsize.trans h.chunkSize, ?_, ?_, ?_, ?_⟩
  · rw [hoffer]
    exact h.valid.finish
  · rw [hoffer, h.frames_eq, SenderStream.frames, SenderStream.frames, hunended, List.append_nil,
      List.cons_append]
  all_goals rw [hstate']
  · rintro ⟨⟩
  · rintro (⟨⟨⟩⟩ | ⟨⟨⟩⟩)
  · rintro ⟨⟩
  · rw [hoffer]
    exact fun _ => rfl

/-- The peer has accepted: the counters start. -/
lemma Says.begin (h : Says json s frames w) (hstate : s.state = .Offering)
    (hoffer : offerOf s' = offerOf s) (hsize : s'.chunkSize = s.chunkSize)
    (hstate' : s'.state = .Transferring) (hbytes : s'.transferredBytes = 0)
    (hindex : s'.currentChunkIndex = 0) : Says json s' frames w := by
  have hpieces := h.offered hstate
  refine ⟨hoffer ▸ h.valid, hoffer ▸ h.frames_eq, hsize.trans h.chunkSize, fun _ => hpieces,
    fun _ => h.unended (Or.inl hstate), fun _ => ⟨?_, ?_⟩, ?_⟩
  · rw [hbytes, hpieces]
    rfl
  · rw [hindex, hpieces]
    rfl
  · rw [hstate']
    rintro ⟨⟩

/-! ### What a request makes a session say -/

variable {io : Io} {t : Turn} {before : List P2PFrame}

/-- What is read of the source is a piece of the size that was asked for. -/
lemma Turn.length_readData_le (t : Turn) (io : Io) :
    (t.readData io).length ≤ t.session.chunkSize.toNat := by
  unfold Turn.readData
  cases t.session.fileHandle with
  | none => exact Nat.zero_le _
  | some h =>
      dsimp only
      rw [QFile.read]
      split_ifs
      · exact (List.length_take_le _ _).trans (min_le_left _ _)
      · exact Nat.zero_le _

variable (io) in
lemma Says.sendNextChunk (h : Says json t.session (before ++ framesSent t.deeds) w) :
    ∃ w', Says json (t.sendNextChunk json io true t.session.transferId).session
      (before ++ framesSent (t.sendNextChunk json io true t.session.transferId).deeds) w' := by
  unfold Turn.sendNextChunk
  split_ifs with hidle hend hempty
  · exact ⟨w, h⟩
  all_goals
    rw [not_or, not_not, not_not] at hidle
  · have hframes : before ++ framesSent
        (t.sendComplete json true t.session.transferId).deeds =
          before ++ framesSent t.deeds ++ [completeFrame json (offerOf t.session)] := by
      rw [List.append_assoc]
      simp [Turn.sendComplete, framesSent, completeFrame, offerOf]
    rw [hframes]
    exact ⟨_, h.finish hidle.1 (by simp [Turn.sendComplete, offerOf])
      (by simp [Turn.sendComplete]) (by simp [Turn.sendComplete])⟩
  · have hframes : before ++ framesSent ((t.setState .Failed).emit (.transferFailed
        t.session.transferId "Error reading chunk from source file")).deeds =
          before ++ framesSent t.deeds := by
      simp [framesSent]
    rw [hframes]
    exact ⟨_, h.rest rfl rfl (Or.inr (Or.inr rfl))⟩
  · rw [not_or, not_le] at hend
    have hcounted := (h.counted hidle.1).1
    have hne : t.readData io ≠ [] := fun hnil => hempty ⟨hnil, by omega⟩
    have hlength : ((t.readData io).length : ℤ) ≤ t.session.chunkSize := by
      have hle := t.length_readData_le io
      have hsize := h.chunkSize
      rw [DEFAULT_FILE_CHUNK_SIZE] at hsize
      omega
    have hframes : before ++ framesSent
        (t.sendChunk true t.session.transferId (t.readData io)).deeds =
          before ++ framesSent t.deeds ++ [⟨.FileChunk, FileChunk.encode t.session.transferId
            t.session.currentChunkIndex (t.readData io)⟩] := by
      rw [List.append_assoc]
      simp [Turn.sendChunk, framesSent]
    rw [hframes]
    exact ⟨_, h.send hidle.1 hne hlength hend.2 (by simp [Turn.sendChunk, offerOf])
      (by simp [Turn.sendChunk]) (by simp [Turn.sendChunk]) (by simp [Turn.sendChunk])
      (by simp [Turn.sendChunk])⟩

/-- **Step lemma.** A request on an outgoing session keeps it to a stream. -/
theorem Says.run (h : Says json t.session before w) (hout : t.session.direction = .Outgoing)
    (hd : t.deeds = []) (r : Request) :
    ∃ w', Says json (r.run json sha io true t.session.transferId t).session
      (before ++ framesSent (r.run json sha io true t.session.transferId t).deeds) w' := by
  have hnone : framesSent t.deeds = [] := by rw [hd, framesSent, List.filterMap_nil]
  have hsame : ∃ w', Says json t.session (before ++ framesSent t.deeds) w' := by
    rw [hnone, List.append_nil]
    exact ⟨w, h⟩
  have hincoming : t.session.direction ≠ .Incoming := by
    rw [hout]
    rintro ⟨⟩
  cases r with
  | acceptTransfer dir =>
      rw [Request.run, Turn.acceptTransfer_refused json io true _ dir (Or.inr hincoming)]
      exact hsame
  | rejectTransfer reason =>
      have hframes : framesSent (Turn.rejectTransfer json io true t.session.transferId reason
          t).deeds =
          [jsonFrame json .FileReject (FileReject.toJson ⟨t.session.transferId, reason⟩)] := by
        simp [Turn.rejectTransfer, framesSent, hd]
      rw [Request.run, hframes]
      exact ⟨_, h.withdraw ⟨reason, Or.inl rfl⟩ (by simp [Turn.rejectTransfer, offerOf])
        (by simp [Turn.rejectTransfer]) (Or.inl (by simp [Turn.rejectTransfer]))⟩
  | cancelTransfer reason =>
      have hframes : framesSent (Turn.cancelTransfer json io true t.session.transferId reason
          t).deeds =
          [jsonFrame json .FileCancel (FileCancel.toJson ⟨t.session.transferId, reason⟩)] := by
        simp [Turn.cancelTransfer, framesSent, hd]
      rw [Request.run, hframes]
      exact ⟨_, h.withdraw ⟨reason, Or.inr rfl⟩ (by simp [Turn.cancelTransfer, offerOf])
        (by simp [Turn.cancelTransfer]) (Or.inr (by simp [Turn.cancelTransfer]))⟩
  | fileAccept =>
      rw [Request.run, Turn.handleInboundFileAccept]
      dsimp only
      split_ifs with hidle
      · exact hsame
      · rw [not_or, not_not, not_not] at hidle
        have hbegun : Says json (((t.openSource io).setState .Transferring).resetCounters).session
            (before ++ framesSent
              (((t.openSource io).setState .Transferring).resetCounters).deeds) w := by
          have hquiet : framesSent
              (((t.openSource io).setState .Transferring).resetCounters).deeds = [] := by
            simp [framesSent, hd]
          rw [hquiet, List.append_nil]
          exact h.begin hidle.2 rfl rfl rfl rfl rfl
        exact hbegun.sendNextChunk io
      · have hframes : framesSent (((t.openSource io).setState .Failed).emit (.transferFailed
            t.session.transferId "Failed to open source file for reading")).deeds = [] := by
          simp [framesSent, hd]
        rw [hframes, List.append_nil]
        exact ⟨w, h.rest rfl rfl (Or.inr (Or.inr rfl))⟩
  | fileReject reason =>
      have hframes : framesSent (Turn.handleInboundFileReject io t.session.transferId reason
          t).deeds = [] := by
        simp [Turn.handleInboundFileReject, framesSent, hd]
      rw [Request.run, hframes, List.append_nil]
      exact ⟨w, h.rest (by simp [Turn.handleInboundFileReject, offerOf])
        (by simp [Turn.handleInboundFileReject])
        (Or.inl (by simp [Turn.handleInboundFileReject]))⟩
  | fileChunk index data =>
      rw [Request.run, Turn.handleInboundFileChunk, if_pos (Or.inr hincoming)]
      exact hsame
  | fileComplete =>
      rw [Request.run, Turn.handleInboundFileComplete, if_pos (Or.inl hincoming)]
      exact hsame
  | fileCancel reason =>
      have hframes : framesSent (Turn.handleInboundFileCancel io t.session.transferId reason
          t).deeds = [] := by
        simp [Turn.handleInboundFileCancel, framesSent, hd]
      rw [Request.run, hframes, List.append_nil]
      exact ⟨w, h.rest (by simp [Turn.handleInboundFileCancel, offerOf])
        (by simp [Turn.handleInboundFileCancel])
        (Or.inr (Or.inl (by simp [Turn.handleInboundFileCancel])))⟩
  | sendNextChunk =>
      refine Says.sendNextChunk io (w := w) ?_
      rw [hnone, List.append_nil]
      exact h
  | disconnected =>
      rw [Request.run, Turn.onSocketDisconnected]
      split_ifs
      · have hframes : framesSent (((t.setState .Failed).emit (.transferFailed
            t.session.transferId "Peer disconnected during file transfer")).cleanupSession io
              true).deeds = [] := by
          simp [framesSent, hd]
        rw [hframes, List.append_nil]
        exact ⟨w, h.rest (by simp [offerOf]) (by simp) (Or.inr (Or.inr (by simp)))⟩
      · exact hsame

end Says

/-! ### Runs -/

variable {json sha}

/-- What is known of a session and all that was done for it: an outgoing one keeps to a stream,
and an incoming one makes no offers. -/
def Speaks (json : JsonCodec) (s : FileTransferSession) (deeds : List Deed) : Prop :=
  match s.direction with
  | .Outgoing => ∃ w, Says json s (framesSent deeds) w
  | .Incoming => ∀ frame ∈ framesSent deeds, frame.type ≠ .FileOffer

/-- A session that is registered. -/
lemma speaks_registered {c : FileTransferController} {io : Io} {cmd : Command}
    {s : FileTransferSession} {deeds : List Deed} (hsocket : c.m_socket = true)
    (h : Registers json sha c io cmd s deeds) : Speaks json s deeds := by
  cases h with
  | outgoing hfile =>
      refine ⟨{}, .offered, ?_, rfl, fun _ => rfl, fun _ => rfl, ?_, ?_⟩
      · rw [offerDeeds, hsocket, if_pos (rfl : true = true)]
        split_ifs <;> rfl
      · rintro ⟨⟩
      · rintro ⟨⟩
  | incoming offer => exact List.forall_mem_nil _

/-- A request on a session. -/
lemma speaks_run {s : FileTransferSession} {deeds : List Deed} (io : Io) (r : Request)
    (files : FileSystem) (h : Speaks json s deeds) :
    Speaks json (r.run json sha io true s.transferId { session := s, files := files }).session
      (deeds ++ (r.run json sha io true s.transferId { session := s, files := files }).deeds) := by
  have hdir := congrArg Terms.direction
    (r.run_terms json sha io true s.transferId { session := s, files := files })
  dsimp only [FileTransferSession.terms] at hdir
  have happend : ∀ ds, framesSent (deeds ++ ds) = framesSent deeds ++ framesSent ds :=
    fun ds => List.filterMap_append
  rw [Speaks] at h ⊢
  rw [hdir, happend]
  cases hs : s.direction with
  | Outgoing =>
      rw [hs] at h
      obtain ⟨w, hw⟩ := h
      exact Says.run (t := { session := s, files := files }) hw hs rfl r
  | Incoming =>
      rw [hs] at h
      intro frame hframe
      rcases List.mem_append.mp hframe with hold | hnew
      · exact h frame hold
      · rcases Request.run_sends rfl hnew with ⟨rfl, -⟩ | ⟨hoffer, -⟩
        · show FrameType.FileAccept ≠ FrameType.FileOffer
          decide
        · exact hoffer

/-- What a controller has said in a run: each outgoing session that is registered has sent such
a stream, as far as its state says, and each object that ever sent an offer such a stream. -/
structure SenderStreams (json : JsonCodec) (c : FileTransferController) (log : List Effect) :
    Prop where
  current {tid s} : c.m_sessions.value? tid = some s → s.direction = .Outgoing →
    ∃ w, Says json s (framesSent (deedsOf s.objectId log)) w
  past {i frame} : frame ∈ framesSent (deedsOf i log) → frame.type = .FileOffer →
    ∃ offer w, SenderStream.Valid json offer w ∧
      framesSent (deedsOf i log) = w.frames json offer

/-- **The stream of a sender.** Over every run of a controller with a socket, whatever frames
arrive, whatever the user calls and whatever the files and timers do, everything that is sent for
an outgoing transfer is its offer, then its chunks in order, then at most one `FileComplete`, then
withdrawals. -/
theorem sender_streams {files : FileSystem} {es : List (Event × Io)} {log : List Effect}
    {c : FileTransferController}
    (hrun : Run (machine json sha) (fun _ _ => True) (init true files) es log c) :
    SenderStreams json c log := by
  have h : Histories (Speaks json) true c log :=
    Histories.run hrun (fun _ _ _ _ _ hsocket hr => speaks_registered hsocket hr)
      fun io r _ _ files hs => speaks_run io r files hs
  refine ⟨fun {tid s} hs hout => ?_, fun {i frame} hframe hoffer => ?_⟩
  · have hspeaks := h.current hs
    rwa [Speaks, hout] at hspeaks
  · have hlt : i < c.nextObject := by
      by_contra hge
      rw [h.numbered.fresh (not_lt.mp hge)] at hframe
      exact List.not_mem_nil hframe
    obtain ⟨s, hspeaks⟩ := h.past hlt
    rw [Speaks] at hspeaks
    cases hs : s.direction with
    | Outgoing =>
        rw [hs] at hspeaks
        obtain ⟨w, hw⟩ := hspeaks
        exact ⟨offerOf s, w, hw.valid, hw.frames_eq⟩
    | Incoming =>
        rw [hs] at hspeaks
        exact absurd hoffer (hspeaks frame hframe)

/-- A file with one letter is offered and accepted, and its last timer fires. -/
def sendWholeLetter : List (Event × Io) :=
  sendLetter ++ [(.timeout "ft_0123456789ab4", ({} : Io))]

theorem sender_streams_letter :
    SenderStreams compact
        ((machine compact .sample).exec (init true oneLetterFile) sendWholeLetter).2
        ((machine compact .sample).exec (init true oneLetterFile) sendWholeLetter).1 ∧
      (framesSent (deedsOf 0
        ((machine compact .sample).exec (init true oneLetterFile) sendWholeLetter).1)).map
          P2PFrame.type = [.FileOffer, .FileChunk, .FileComplete] :=
  ⟨sender_streams (Run.exec_all (machine compact .sample) (init true oneLetterFile)
    sendWholeLetter), by decide +kernel⟩

end MeckChat.Protocol
