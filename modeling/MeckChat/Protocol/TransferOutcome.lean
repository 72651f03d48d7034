import MeckChat.Protocol.TransferDelivery

/-!
What the completion of an outgoing transfer says about the receiver.

* `lossyLink` joins two controllers by FIFO channels that may lose frames; files may change at any
  time.
* `Request.run_sends` and `Request.run_completed_signal` say which frames a request sends, and when
  it reports a completion: `EndsStream`.
* `Aligned` is what holds between the two sides in every run: offers and acceptances under way stand
  for sessions of the side they come from. `Aligned.step` is its step lemma.
* `completion_agrees`: where only the streams of empty files end, and the receiver has not withdrawn
  by then, a completion that the sender reports is one of the receiver.
  `completion_before_verification` is a run with a file of one letter, in which it is not.
-/

namespace MeckChat.Protocol

open Qt QJson FileTransferController

variable (json : JsonCodec) (sha : Sha256)

/-! ### A link that loses frames -/

/-- What can happen on the link: a call, a timer or a lost connection on one side, the arrival of
the first frame, the loss of all frames under way, and a change of the files. -/
inductive LossyEvent where
  | call (side : Side) (event : Event)
  | deliver (side : Side) (senderIp : String)
  | lose (side : Side)
  | rewrite (side : Side) (files : FileSystem)

/-- What the surroundings decide during one event; `sendOk` is what the `sendFrame` calls of the
event return, in order. -/
structure LossyIo where
  io : Io := {}
  sendOk : ℕ → Bool := fun _ => true

/-- The frames that were sent with success. -/
def LossyIo.accepted (io : LossyIo) (frames : List P2PFrame) : List P2PFrame :=
  (frames.zipIdx.filter fun p => io.sendOk p.2).map Prod.fst

/-- The network after side `Z` came to the state and the effects `r`. -/
def Net.putLossy (net : Net) (Z : Side) (io : LossyIo) (r : FileTransferController × List Effect) :
    Net where
  ctrl := Function.update net.ctrl Z r.1
  chan := Function.update net.chan Z.other
    (net.chan Z.other ++ io.accepted (framesSent (r.2.map Effect.deed)))

/-- One event on the link. -/
def Net.stepLossy (net : Net) : LossyEvent × LossyIo → Net × List (Side × Effect)
  | (.call Z event, io) =>
      let r := (net.ctrl Z).step json sha event io.io
      (net.putLossy Z io r, r.2.map (Prod.mk Z))
  | (.deliver Z ip, io) =>
      match net.chan Z with
      | [] => (net, [])
      | frame :: rest =>
          let r := (net.ctrl Z).onFrameReceivedFrom json sha io.io frame ip
          ((net.pop Z rest).putLossy Z io r, r.2.map (Prod.mk Z))
  | (.lose Z, _) => (net.pop Z [], [])
  | (.rewrite Z files, _) =>
      ({ net with ctrl := Function.update net.ctrl Z { net.ctrl Z with files := files } }, [])

/-- The link as a machine; it logs the effects of both sides. -/
def lossyLink : Machine Net (LossyEvent × LossyIo) (Side × Effect) where
  step net e := net.stepLossy json sha e

/-- Two controllers that were just constructed. -/
def Net.initial (m_socket : Side → Bool) (files : Side → FileSystem) : Net where
  ctrl Z := init (m_socket Z) (files Z)
  chan _ := []

/-- The id that a deed reports as complete. -/
@[simp] def Deed.completedId? : Deed → Option String
  | .signal (.transferCompleted tid _) => some tid
  | _ => none

/-- The ids whose completion is reported, in order. -/
def completedIds (deeds : List Deed) : List String := deeds.filterMap Deed.completedId?

/-! ### What a request sends and reports -/

/-- A request comes to the end of an outgoing stream. -/
def EndsStream (io : Io) (t : Turn) : Request → Prop
  | .sendNextChunk =>
      t.session.state = .Transferring ∧ t.handleOpen = true ∧
        (t.handleAtEnd = true ∨ t.session.transferredBytes ≥ t.session.fileSize)
  | .fileAccept =>
      t.session.state = .Offering ∧ (t.openSource io).handleOpen = true ∧
        ((t.openSource io).handleAtEnd = true ∨ 0 ≥ t.session.fileSize)
  | _ => False

section Handlers

variable {json sha}
variable {io : Io} {b : Bool} {tid : String} {t : Turn} {frame : P2PFrame}

/-- An empty file was received and verified, and then perhaps withdrawn. -/
structure Settled (r : FileTransferSession) : Prop where
  state : r.state = .Completed ∨ r.state = .Cancelled ∨ r.state = .Rejected
  hash : r.cryptoHash = []

variable (json sha) in
/-- What is settled stays so. -/
lemma Settled.run (h : Settled t.session) (hdir : t.session.direction = .Incoming)
    (io : Io) (b : Bool) (tid : String) (request : Request) :
    Settled (request.run json sha io b tid t).session := by
  have hoffering : t.session.state ≠ .Offering := by
    rcases h.state with h | h | h <;> rw [h] <;> decide
  have htransferring : t.session.state ≠ .Transferring := by
    rcases h.state with h | h | h <;> rw [h] <;> decide
  cases request with
  | acceptTransfer dir =>
      rw [Request.run, Turn.acceptTransfer_refused json io b tid dir (.inl hoffering)]
      exact h
  | rejectTransfer reason => exact ⟨by simp [Request.run, Turn.rejectTransfer],
      by simpa [Request.run, Turn.rejectTransfer] using h.hash⟩
  | cancelTransfer reason => exact ⟨by simp [Request.run, Turn.cancelTransfer],
      by simpa [Request.run, Turn.cancelTransfer] using h.hash⟩
  | fileAccept =>
      rw [Request.run, Turn.handleInboundFileAccept, if_pos (.inl (by rw [hdir]; decide))]
      exact h
  | fileReject reason => exact ⟨by simp [Request.run, Turn.handleInboundFileReject],
      by simpa [Request.run, Turn.handleInboundFileReject] using h.hash⟩
  | fileChunk index data =>
      rw [Request.run, Turn.handleInboundFileChunk, if_pos (.inl htransferring)]
      exact h
  | fileComplete =>
      rw [Request.run, Turn.handleInboundFileComplete, if_pos (.inr htransferring)]
      exact h
  | fileCancel reason => exact ⟨by simp [Request.run, Turn.handleInboundFileCancel],
      by simpa [Request.run, Turn.handleInboundFileCancel] using h.hash⟩
  | sendNextChunk =>
      rw [Request.run, Turn.sendNextChunk, if_pos (.inl htransferring)]
      exact h
  | disconnected =>
      rw [Request.run, Turn.onSocketDisconnected, if_neg (by tauto)]
      exact h

/-- The frames of a stream are chunks and its end. -/
lemma Turn.type_sendNextChunk (h : frame ∈ framesSent (t.sendNextChunk json io b tid).deeds) :
    frame ∈ framesSent t.deeds ∨ frame.type = .FileChunk ∨ frame.type = .FileComplete := by
  rw [Turn.sendNextChunk] at h
  split_ifs at h
  · exact .inl h
  · cases b <;> simp [sendComplete, framesSent, jsonFrame] at h ⊢ <;> grind
  · left
    simpa [framesSent] using h
  · cases b <;> simp [sendChunk, framesSent] at h ⊢ <;> grind

/-- **Frames.** A request sends the acceptance of its transfer when it accepts one, and otherwise
neither an offer nor an acceptance. -/
lemma Request.run_sends {request : Request} (hd : t.deeds = [])
    (h : frame ∈ framesSent (request.run json sha io b tid t).deeds) :
    (frame = jsonFrame json .FileAccept (FileAccept.toJson ⟨tid⟩) ∧
      (t.session.state = .Offering ∧ t.session.direction = .Incoming) ∧ io.openOk = true ∧
      ∃ dir, request = .acceptTransfer dir) ∨
    (frame.type ≠ .FileOffer ∧ frame.type ≠ .FileAccept) := by
  have h0 : frame ∉ framesSent t.deeds := by simp [hd, framesSent]
  have hstream : frame.type = .FileChunk ∨ frame.type = .FileComplete →
      frame.type ≠ .FileOffer ∧ frame.type ≠ .FileAccept := by
    rintro (h | h) <;> rw [h] <;> decide
  cases request with
  | acceptTransfer dir =>
      by_cases hcheck : t.session.state = .Offering ∧ t.session.direction = .Incoming
      · cases ho : io.openOk with
        | false =>
            simp [run, Turn.acceptTransfer, hcheck.1, hcheck.2, Turn.handleOpen_openTemp,
              framesSent, hd, ho] at h
        | true =>
            left
            refine ⟨?_, hcheck, rfl, dir, rfl⟩
            simp only [run, Turn.acceptTransfer, Turn.startReceiving, Turn.completeEmpty] at h
            split_ifs at h <;> cases b <;> simp [framesSent, hd] at h
            · exact h
            · exact h
      · rw [run, Turn.acceptTransfer_refused json io b tid dir (by tauto)] at h
        exact absurd h h0
  | rejectTransfer reason =>
      right
      cases b <;> simp [run, Turn.rejectTransfer, framesSent, hd] at h
      rw [h, jsonFrame]
      dsimp only
      exact ⟨by decide, by decide⟩
  | cancelTransfer reason =>
      right
      cases b <;> simp [run, Turn.cancelTransfer, framesSent, hd] at h
      rw [h, jsonFrame]
      dsimp only
      exact ⟨by decide, by decide⟩
  | fileAccept =>
      right
      simp only [run, Turn.handleInboundFileAccept] at h
      split_ifs at h
      · exact absurd h h0
      · rcases Turn.type_sendNextChunk h with h | h
        · simp [framesSent, hd] at h
        · exact hstream h
      · simp [framesSent, hd] at h
  | fileReject reason => simp [run, Turn.handleInboundFileReject, framesSent, hd] at h
  | fileChunk index data =>
      simp only [run, Turn.handleInboundFileChunk] at h
      split_ifs at h <;> simp [framesSent, hd] at h
  | fileComplete =>
      simp only [run, Turn.handleInboundFileComplete, Turn.moveToFinal] at h
      split_ifs at h <;> simp [framesSent, hd] at h
  | fileCancel reason => simp [run, Turn.handleInboundFileCancel, framesSent, hd] at h
  | sendNextChunk =>
      right
      rcases Turn.type_sendNextChunk h with h | h
      · exact absurd h h0
      · exact hstream h
  | disconnected =>
      simp only [run, Turn.onSocketDisconnected] at h
      split_ifs at h <;> simp [framesSent, hd] at h

/-- A stream that comes to its end is reported. -/
lemma Turn.completed_sendNextChunk {a : String}
    (h : a ∈ completedIds (t.sendNextChunk json io b tid).deeds) (h0 : a ∉ completedIds t.deeds) :
    a = tid ∧ EndsStream io t .sendNextChunk := by
  rw [Turn.sendNextChunk] at h
  split_ifs at h with hidle hend hempty
  · exact absurd h h0
  · rw [not_or, not_not, not_not] at hidle
    have hreport : a ∈ completedIds t.deeds ∨ a = tid := by
      simpa [sendComplete, completedIds] using h
    exact ⟨hreport.resolve_left h0, hidle.1, hidle.2, hend⟩
  · exact absurd (by simpa [completedIds] using h) h0
  · exact absurd (by simpa [sendChunk, completedIds] using h) h0

/-- **Reports.** A request reports the completion of its own transfer, and for an outgoing one only
at the end of the stream. -/
lemma Request.run_completedId {request : Request} {a : String} (hd : t.deeds = [])
    (h : a ∈ completedIds (request.run json sha io b tid t).deeds) :
    a = tid ∧ (t.session.direction = .Outgoing → EndsStream io t request) := by
  have h0 : a ∉ completedIds t.deeds := by simp [hd, completedIds]
  cases request with
  | acceptTransfer dir =>
      by_cases hcheck : t.session.state = .Offering ∧ t.session.direction = .Incoming
      · refine ⟨?_, fun hout => ?_⟩
        · simp only [run, Turn.acceptTransfer, Turn.startReceiving, Turn.completeEmpty] at h
          split_ifs at h <;> simp [completedIds, hd] at h
          exact h
        · rw [hcheck.2] at hout
          cases hout
      · rw [run, Turn.acceptTransfer_refused json io b tid dir (by tauto)] at h
        exact absurd h h0
  | rejectTransfer reason => simp [run, Turn.rejectTransfer, completedIds, hd] at h
  | cancelTransfer reason => simp [run, Turn.cancelTransfer, completedIds, hd] at h
  | fileAccept =>
      simp only [run, Turn.handleInboundFileAccept] at h
      split_ifs at h with hidle hopen
      · exact absurd h h0
      · rw [not_or, not_not, not_not] at hidle
        obtain ⟨ha, -, -, hend⟩ := Turn.completed_sendNextChunk h (by simp [hd, completedIds])
        exact ⟨ha, fun _ => ⟨hidle.2, hopen, hend⟩⟩
      · simp [completedIds, hd] at h
  | fileReject reason => simp [run, Turn.handleInboundFileReject, completedIds, hd] at h
  | fileChunk index data =>
      simp only [run, Turn.handleInboundFileChunk] at h
      split_ifs at h <;> simp [completedIds, hd] at h
  | fileComplete =>
      rw [run, Turn.handleInboundFileComplete] at h
      by_cases hidle : t.session.direction ≠ .Incoming ∨ t.session.state ≠ .Transferring
      · rw [if_pos hidle] at h
        exact absurd h h0
      · rw [not_or, not_not, not_not] at hidle
        rw [if_neg (by rw [not_or, not_not, not_not]; exact hidle)] at h
        refine ⟨?_, fun hout => ?_⟩
        · simp only [Turn.moveToFinal] at h
          split_ifs at h <;> simp [completedIds, hd] at h
          exact h
        · rw [hidle.1] at hout
          cases hout
  | fileCancel reason => simp [run, Turn.handleInboundFileCancel, completedIds, hd] at h
  | sendNextChunk =>
      obtain ⟨ha, hend⟩ := Turn.completed_sendNextChunk h h0
      exact ⟨ha, fun _ => hend⟩
  | disconnected =>
      simp only [run, Turn.onSocketDisconnected] at h
      split_ifs at h <;> simp [completedIds, hd] at h

/-- The stream of an empty file ends with the acceptance. -/
lemma Turn.state_sendNextChunk (h : (t.sendNextChunk json io b tid).session.state = .Transferring)
    (hopen : t.handleOpen = true) : t.session.transferredBytes < t.session.fileSize ∨
      t.session.state ≠ .Transferring := by
  by_contra hno
  rw [not_or, not_lt, not_not] at hno
  rw [Turn.sendNextChunk, if_neg (by rw [not_or, not_not, not_not]; exact ⟨hno.2, hopen⟩),
    if_pos (.inr hno.1)] at h
  simp [sendComplete] at h

variable (json sha) in
/-- An outgoing transfer that is in progress has bytes to send. -/
lemma Request.run_outgoing (request : Request) (io : Io) (b : Bool) (tid : String)
    (hout : t.session.direction = .Outgoing)
    (h : t.session.state = .Transferring → t.session.fileSize ≠ 0)
    (hstate : (request.run json sha io b tid t).session.state = .Transferring) :
    t.session.fileSize ≠ 0 := by
  cases request with
  | acceptTransfer dir =>
      rw [run, Turn.acceptTransfer_refused json io b tid dir (.inr (by rw [hout]; decide))] at hstate
      exact h hstate
  | rejectTransfer reason => simp [run, Turn.rejectTransfer] at hstate
  | cancelTransfer reason => simp [run, Turn.cancelTransfer] at hstate
  | fileAccept =>
      simp only [run, Turn.handleInboundFileAccept] at hstate
      split_ifs at hstate with hidle hopen
      · exact h hstate
      · have hless := Turn.state_sendNextChunk hstate hopen
        simp only [Turn.session_resetCounters, Turn.session_setState, Turn.session_openSource,
          ne_eq, not_true_eq_false, or_false] at hless
        omega
      · simp at hstate
  | fileReject reason => simp [run, Turn.handleInboundFileReject] at hstate
  | fileChunk index data =>
      rw [run, Turn.handleInboundFileChunk, if_pos (.inr (by rw [hout]; decide))] at hstate
      exact h hstate
  | fileComplete =>
      rw [run, Turn.handleInboundFileComplete, if_pos (.inl (by rw [hout]; decide))] at hstate
      exact h hstate
  | fileCancel reason => simp [run, Turn.handleInboundFileCancel] at hstate
  | sendNextChunk =>
      by_cases hbefore : t.session.state = .Transferring
      · exact h hbefore
      · rw [run, Turn.sendNextChunk, if_pos (.inl hbefore)] at hstate
        exact absurd hstate hbefore
  | disconnected =>
      simp only [run, Turn.onSocketDisconnected] at hstate
      split_ifs at hstate
      · simp at hstate
      · exact h hstate

end Handlers

/-! ### What holds between the two sides -/

/-- The id of the offer in a frame. -/
def offerId? (frame : P2PFrame) : Option String :=
  match readFrame json frame with
  | .offer m => some m.transferId
  | _ => none

/-- A session that sends a file of this size and hash. -/
structure Promises (s : FileTransferSession) (fileSize : ℤ) (sha256 : String) : Prop where
  direction : s.direction = .Outgoing
  fileSize : s.fileSize = fileSize
  expectedSha256 : s.expectedSha256 = sha256

/-- A session that accepted its transfer, at once for good if the file is empty. -/
structure HasAccepted (r : FileTransferSession) : Prop where
  direction : r.direction = .Incoming
  settled : r.fileSize = 0 → Settled r

/-- What is under way to a side stands for sessions of the other one, what a side receives is what
the other one promised, and empty files are never in progress. -/
structure Aligned (net : Net) : Prop where
  offer {Z f m} : f ∈ net.chan Z → readFrame json f = .offer m →
    ∃ s, (net.ctrl Z.other).m_sessions.value? m.transferId = some s ∧
      Promises s m.fileSize m.sha256
  new {Z f m} : f ∈ net.chan Z → readFrame json f = .offer m →
    (net.ctrl Z).m_sessions.value? m.transferId = none
  once (Z) : ((net.chan Z).filterMap (offerId? json)).Nodup
  received {Z tid r} : (net.ctrl Z).m_sessions.value? tid = some r → r.direction = .Incoming →
    ∃ s, (net.ctrl Z.other).m_sessions.value? tid = some s ∧
      Promises s r.fileSize r.expectedSha256
  accepted {Z f tid} : f ∈ net.chan Z → readFrame json f = .request tid .fileAccept →
    ∃ r, (net.ctrl Z.other).m_sessions.value? tid = some r ∧ HasAccepted r
  busy {Z tid s} : (net.ctrl Z).m_sessions.value? tid = some s → s.direction = .Outgoing →
    s.state = .Transferring → s.fileSize ≠ 0
  empty {Z tid s} : (net.ctrl Z).m_sessions.value? tid = some s → s.direction = .Outgoing →
    s.fileSize = 0 → s.expectedSha256 = sha.hex []

/-- What requests do to a controller: the sessions stay, with their terms, none comes up, what is
settled stays so, and no empty file comes in progress. -/
structure Evolves (c c' : FileTransferController) : Prop where
  kept {tid s} : c.m_sessions.value? tid = some s →
    ∃ s', c'.m_sessions.value? tid = some s' ∧ s'.terms = s.terms ∧
      (s.direction = .Incoming → Settled s → Settled s') ∧
      (s.direction = .Outgoing → (s.state = .Transferring → s.fileSize ≠ 0) →
        s'.state = .Transferring → s.fileSize ≠ 0)
  absent {tid} : c.m_sessions.value? tid = none → c'.m_sessions.value? tid = none

section Evolution

variable {json sha}
variable {c c' c'' : FileTransferController} {tid : String} {s s' : FileTransferSession}

lemma Promises.of_terms {size : ℤ} {hash : String} (h : Promises s size hash)
    (hterms : s'.terms = s.terms) : Promises s' size hash where
  direction := (congrArg Terms.direction hterms).trans h.direction
  fileSize := (congrArg Terms.fileSize hterms).trans h.fileSize
  expectedSha256 := (congrArg Terms.expectedSha256 hterms).trans h.expectedSha256

namespace Evolves

lemma of_sessions (h : c'.m_sessions = c.m_sessions) : Evolves c c' := by
  constructor
  · intro tid s hs
    rw [h]
    exact ⟨s, hs, rfl, fun _ h => h, fun _ h => h⟩
  · intro tid hs
    rw [h]
    exact hs

lemma trans (h : Evolves c c') (h' : Evolves c' c'') : Evolves c c'' := by
  constructor
  · intro tid s hs
    obtain ⟨s', hs', hterms, hsettled, hbusy⟩ := h.kept hs
    obtain ⟨s'', hs'', hterms', hsettled', hbusy'⟩ := h'.kept hs'
    have hdir : s'.direction = s.direction := congrArg Terms.direction hterms
    have hsize : s'.fileSize = s.fileSize := congrArg Terms.fileSize hterms
    rw [hdir] at hsettled' hbusy'
    rw [hsize] at hbusy'
    exact ⟨s'', hs'', hterms'.trans hterms, fun hin h => hsettled' hin (hsettled hin h),
      fun hout h => hbusy' hout (hbusy hout h)⟩
  · exact fun hs => h'.absent (h.absent hs)

/-- The session behind one that evolved. -/
lemma before (h : Evolves c c') (hs' : c'.m_sessions.value? tid = some s') :
    ∃ s, c.m_sessions.value? tid = some s ∧ s'.terms = s.terms ∧
      (s.direction = .Outgoing → (s.state = .Transferring → s.fileSize ≠ 0) →
        s'.state = .Transferring → s.fileSize ≠ 0) := by
  cases hs : c.m_sessions.value? tid with
  | none =>
      rw [h.absent hs] at hs'
      cases hs'
  | some s =>
      obtain ⟨s'', hs'', hterms, -, hbusy⟩ := h.kept hs
      obtain rfl := Option.some_inj.mp (hs''.symm.trans hs')
      exact ⟨s, rfl, hterms, hbusy⟩

variable (json sha c) in
/-- A request lets a controller evolve. -/
lemma onRequest (io : Io) (tid : String) (request : Request) :
    Evolves c (c.onRequest json sha io tid request).1 := by
  rw [FileTransferController.onRequest]
  cases hs : c.m_sessions.value? tid with
  | none =>
      rw [onSession_none hs]
      exact of_sessions rfl
  | some s =>
      have hself := value?_onSession_self (f := request.run json sha io c.m_socket tid) hs
      constructor
      · intro a s' hs'
        by_cases ha : a = tid
        · subst ha
          obtain rfl := Option.some_inj.mp (hs.symm.trans hs')
          exact ⟨_, hself, Request.run_terms json sha io c.m_socket a request _,
            fun hin h => Settled.run json sha h hin io c.m_socket a request,
            fun hout h => Request.run_outgoing json sha request io c.m_socket a hout h⟩
        · refine ⟨s', ?_, rfl, fun _ h => h, fun _ h => h⟩
          rw [value?_onSession_of_ne ha]
          exact hs'
      · intro a hnone
        have ha : a ≠ tid := by
          rintro rfl
          rw [hs] at hnone
          cases hnone
        rw [value?_onSession_of_ne ha]
        exact hnone

end Evolves

/-- Only an offer is read as one. -/
lemma type_of_readFrame_offer {f : P2PFrame} {m : FileOffer} (h : readFrame json f = .offer m) :
    f.type = .FileOffer := by
  by_contra hne
  simp only [readFrame, if_neg hne] at h
  split_ifs at h
  all_goals
    simp only [Option.getD_eq_iff, Option.map_eq_some_iff, reduceCtorEq, and_false, exists_false,
      or_false] at h

/-- Only an acceptance is read as one. -/
lemma type_of_readFrame_fileAccept {f : P2PFrame}
    (h : readFrame json f = .request tid .fileAccept) : f.type = .FileAccept := by
  by_contra hne
  simp only [readFrame, if_neg hne] at h
  split_ifs at h
  · split at h
    · next o _ => cases ho : FileOffer.fromJson o <;> simp [ho] at h
    · cases h
  all_goals
    rw [Option.getD_eq_iff] at h
    simp at h

/-- An acceptance is read with its id. -/
lemma id_of_readFrame_fileAccept {a : String}
    (h : readFrame json (jsonFrame json .FileAccept (FileAccept.toJson ⟨tid⟩)) =
      .request a .fileAccept) : a = tid := by
  by_cases htid : tid = ""
  · subst htid
    simp [readFrame, jsonFrame, JsonDocument.toObject, FrameType.FileAccept, FrameType.FileOffer,
      FileAccept.fromJson, FileAccept.toJson] at h
  · rw [readFrame_fileAccept json (m := ⟨tid⟩) htid, Command.request.injEq] at h
    exact h.1.symm

/-- The frames of a request, as the other side reads them. -/
lemma framesSent_onRequest {io : Io} {request : Request} {f : P2PFrame}
    (hf : f ∈ framesSent ((c.onRequest json sha io tid request).2.map Effect.deed)) :
    (∀ m, readFrame json f ≠ .offer m) ∧
      ∀ a, readFrame json f = .request a .fileAccept →
        ∃ r, (c.onRequest json sha io tid request).1.m_sessions.value? a = some r ∧
          HasAccepted r := by
  rw [onRequest] at hf ⊢
  cases hs : c.m_sessions.value? tid with
  | none =>
      rw [onSession_none hs] at hf
      cases hf
  | some s =>
      have hself := value?_onSession_self (f := request.run json sha io c.m_socket tid) hs
      rw [onSession_some hs, framesSent_map] at hf
      rcases Request.run_sends rfl hf with ⟨rfl, hcheck, ho, dir, rfl⟩ | ⟨hoffer, haccept⟩
      · refine ⟨fun m h => ?_, fun a h => ?_⟩
        · have htype := type_of_readFrame_offer h
          rw [jsonFrame] at htype
          dsimp only at htype
          exact absurd htype (by decide)
        · obtain rfl := id_of_readFrame_fileAccept h
          refine ⟨_, hself, ?_, fun hsize => ⟨.inl ?_, ?_⟩⟩
          · exact (congrArg Terms.direction (Request.run_terms json sha io c.m_socket a _ _)).trans
              hcheck.2
          all_goals
            have hempty : s.fileSize = 0 := (congrArg Terms.fileSize
              (Request.run_terms json sha io c.m_socket a (.acceptTransfer dir)
                { session := s, files := c.files })).symm.trans hsize
            rw [Request.run, (Turn.acceptTransfer_empty json io c.m_socket a dir hcheck ho hempty).1]
      · exact ⟨fun m h => hoffer (type_of_readFrame_offer h),
          fun a h => absurd (type_of_readFrame_fileAccept h) haccept⟩

variable (c) in
/-- A lost connection lets a controller evolve, and sends nothing. -/
lemma evolves_onSocketDisconnected (io : Io) : Evolves c (c.onSocketDisconnected io).1 ∧
    framesSent ((c.onSocketDisconnected io).2.map Effect.deed) = [] := by
  rw [onSocketDisconnected, ← List.nil_append (disconnectAll io c.m_sessions.keys c).2]
  apply disconnectAll_induction
    (I := fun c' log => Evolves c c' ∧ framesSent (log.map Effect.deed) = [])
  · rintro c' log tid ⟨hevolves, hframes⟩
    -- the codec and the hash play no part here
    refine ⟨hevolves.trans (Evolves.onRequest compact .sample c' io tid .disconnected), ?_⟩
    rw [List.map_append, framesSent, List.filterMap_append]
    refine List.append_eq_nil_iff.mpr ⟨hframes, ?_⟩
    cases hs : c'.m_sessions.value? tid with
    | none =>
        rw [onSession_none hs]
        rfl
    | some s =>
        rw [onSession_some hs]
        refine (framesSent_map _ _).trans ?_
        simp only [Turn.onSocketDisconnected]
        split_ifs <;> simp [framesSent]
  · exact ⟨.of_sessions rfl, rfl⟩

end Evolution

section Invariant

variable {json sha}
variable {net net' : Net} {Z : Side} {tid : String} {io : LossyIo}

lemma LossyIo.accepted_sublist (frames : List P2PFrame) :
    (io.accepted frames).Sublist frames := by
  have h := (List.filter_sublist (p := fun p => io.sendOk p.2) (l := frames.zipIdx)).map Prod.fst
  rwa [List.zipIdx_map_fst] at h

lemma mem_offerIds {frames : List P2PFrame} {a : String} :
    a ∈ frames.filterMap (offerId? json) ↔
      ∃ f ∈ frames, ∃ m, readFrame json f = .offer m ∧ m.transferId = a := by
  rw [List.mem_filterMap]
  refine exists_congr fun f => and_congr_right fun _ => ?_
  rw [offerId?]
  cases readFrame json f <;> simp

lemma chan_putLossy_self (r : FileTransferController × List Effect) :
    (net.putLossy Z io r).chan Z = net.chan Z := by
  simp [Net.putLossy]

lemma chan_putLossy_other (r : FileTransferController × List Effect) :
    (net.putLossy Z io r).chan Z.other =
      net.chan Z.other ++ io.accepted (framesSent (r.2.map Effect.deed)) := by
  simp [Net.putLossy]

lemma ctrl_putLossy_self (r : FileTransferController × List Effect) :
    (net.putLossy Z io r).ctrl Z = r.1 := by
  simp [Net.putLossy]

lemma ctrl_putLossy_other (r : FileTransferController × List Effect) :
    (net.putLossy Z io r).ctrl Z.other = net.ctrl Z.other := by
  simp [Net.putLossy]

namespace Aligned

/-- What evolves stays aligned. -/
lemma evolve (h : Aligned json sha net) (hctrl : ∀ Y, Evolves (net.ctrl Y) (net'.ctrl Y))
    (hframes : ∀ Y f, f ∈ net'.chan Y → f ∈ net.chan Y ∨ (∀ m, readFrame json f ≠ .offer m) ∧
      ∀ tid, readFrame json f = .request tid .fileAccept →
        ∃ r, (net'.ctrl Y.other).m_sessions.value? tid = some r ∧ HasAccepted r)
    (hoffers : ∀ Y, ((net'.chan Y).filterMap (offerId? json)).Sublist
      ((net.chan Y).filterMap (offerId? json))) : Aligned json sha net' := by
  constructor
  · intro Y f m hf hread
    rcases hframes Y f hf with hold | ⟨hno, -⟩
    · obtain ⟨s, hs, hpromises⟩ := h.offer hold hread
      obtain ⟨s', hs', hterms, -, -⟩ := (hctrl _).kept hs
      exact ⟨s', hs', hpromises.of_terms hterms⟩
    · exact absurd hread (hno m)
  · intro Y f m hf hread
    rcases hframes Y f hf with hold | ⟨hno, -⟩
    · exact (hctrl Y).absent (h.new hold hread)
    · exact absurd hread (hno m)
  · exact fun Y => (h.once Y).sublist (hoffers Y)
  · intro Y a r' hr' hdir
    obtain ⟨r, hr, hterms, -⟩ := (hctrl Y).before hr'
    have hdir' : r.direction = .Incoming := (congrArg Terms.direction hterms).symm.trans hdir
    obtain ⟨s, hs, hpromises⟩ := h.received hr hdir'
    obtain ⟨s', hs', hterms', -, -⟩ := (hctrl _).kept hs
    have hsize : r'.fileSize = r.fileSize := congrArg Terms.fileSize hterms
    have hhash : r'.expectedSha256 = r.expectedSha256 := congrArg Terms.expectedSha256 hterms
    rw [hsize, hhash]
    exact ⟨s', hs', hpromises.of_terms hterms'⟩
  · intro Y f a hf hread
    rcases hframes Y f hf with hold | ⟨-, hnew⟩
    · obtain ⟨r, hr, haccepted⟩ := h.accepted hold hread
      obtain ⟨r', hr', hterms, hsettled, -⟩ := (hctrl _).kept hr
      have hsize : r'.fileSize = r.fileSize := congrArg Terms.fileSize hterms
      refine ⟨r', hr', (congrArg Terms.direction hterms).trans haccepted.direction, fun hempty => ?_⟩
      exact hsettled haccepted.direction (haccepted.settled (hsize.symm.trans hempty))
    · exact hnew a hread
  · intro Y a s' hs' hdir hstate
    obtain ⟨s, hs, hterms, hbusy⟩ := (hctrl Y).before hs'
    have hdir' : s.direction = .Outgoing := (congrArg Terms.direction hterms).symm.trans hdir
    have hsize : s'.fileSize = s.fileSize := congrArg Terms.fileSize hterms
    rw [hsize]
    exact hbusy hdir' (h.busy hs hdir') hstate
  · intro Y a s' hs' hdir hempty
    obtain ⟨s, hs, hterms, -⟩ := (hctrl Y).before hs'
    have hdir' : s.direction = .Outgoing := (congrArg Terms.direction hterms).symm.trans hdir
    have hsize : s'.fileSize = s.fileSize := congrArg Terms.fileSize hterms
    have hhash : s'.expectedSha256 = s.expectedSha256 := congrArg Terms.expectedSha256 hterms
    rw [hhash]
    exact h.empty hs hdir' (hsize.symm.trans hempty)

/-- Losing frames, and changing files or timers. -/
lemma of_sublist (h : Aligned json sha net)
    (hsessions : ∀ Y, (net'.ctrl Y).m_sessions = (net.ctrl Y).m_sessions)
    (hchan : ∀ Y, (net'.chan Y).Sublist (net.chan Y)) : Aligned json sha net' :=
  h.evolve (fun Y => .of_sessions (hsessions Y)) (fun Y _ hf => .inl ((hchan Y).subset hf))
    fun Y => (hchan Y).filterMap _

/-- What one side sends without an offer. -/
lemma put (h : Aligned json sha net) {r : FileTransferController × List Effect}
    (hctrl : Evolves (net.ctrl Z) r.1)
    (hframes : ∀ f ∈ framesSent (r.2.map Effect.deed), (∀ m, readFrame json f ≠ .offer m) ∧
      ∀ tid, readFrame json f = .request tid .fileAccept →
        ∃ s, r.1.m_sessions.value? tid = some s ∧ HasAccepted s) :
    Aligned json sha (net.putLossy Z io r) := by
  apply h.evolve
  · intro Y
    rcases Z.eq_or_eq_other Y with rfl | rfl
    · rw [ctrl_putLossy_self]
      exact hctrl
    · rw [ctrl_putLossy_other]
      exact .of_sessions rfl
  · intro Y f hf
    rcases Z.eq_or_eq_other Y with rfl | rfl
    · rw [chan_putLossy_self] at hf
      exact .inl hf
    · rw [chan_putLossy_other, List.mem_append] at hf
      rw [Side.other_other, ctrl_putLossy_self]
      exact hf.imp_right fun hf => hframes f ((LossyIo.accepted_sublist _).subset hf)
  · intro Y
    rcases Z.eq_or_eq_other Y with rfl | rfl
    · rw [chan_putLossy_self]
    · have hnone : (io.accepted (framesSent (r.2.map Effect.deed))).filterMap (offerId? json) =
          [] := by
        rw [List.filterMap_eq_nil_iff]
        intro f hf
        rw [offerId?]
        cases hread : readFrame json f with
        | offer m => exact absurd hread ((hframes f ((LossyIo.accepted_sublist _).subset hf)).1 m)
        | _ => rfl
      rw [chan_putLossy_other, List.filterMap_append, hnone, List.append_nil]

/-- A session under a new id, which is offered to the other side or was offered by it. -/
lemma register (h : Aligned json sha net) {s : FileTransferSession} {deeds : List Deed}
    (hnone : (net.ctrl Z).m_sessions.value? s.transferId = none) (hstate : s.state = .Offering)
    (hin : s.direction = .Incoming →
      ∃ p, (net.ctrl Z.other).m_sessions.value? s.transferId = some p ∧
        Promises p s.fileSize s.expectedSha256)
    (hout : s.direction = .Outgoing → s.fileSize = 0 → s.expectedSha256 = sha.hex [])
    (hunder : s.transferId ∉ (net.chan Z).filterMap (offerId? json))
    (hframes : ∀ f ∈ framesSent deeds, ∃ m, readFrame json f = .offer m ∧
      m.transferId = s.transferId ∧ Promises s m.fileSize m.sha256 ∧
        (net.ctrl Z.other).m_sessions.value? s.transferId = none)
    (hlength : (framesSent deeds).length ≤ 1) :
    Aligned json sha (net.putLossy Z io ((net.ctrl Z).register s deeds)) := by
  obtain ⟨net', hnet'⟩ : ∃ net', net' = net.putLossy Z io ((net.ctrl Z).register s deeds) :=
    ⟨_, rfl⟩
  have hZ : (net'.ctrl Z).m_sessions = (net.ctrl Z).m_sessions.insert s.transferId s := by
    rw [hnet', ctrl_putLossy_self]
    rfl
  have hZother : net'.ctrl Z.other = net.ctrl Z.other := by rw [hnet', ctrl_putLossy_other]
  have hself : (net'.ctrl Z).m_sessions.value? s.transferId = some s := by
    rw [hZ, QMap.value?_insert_self]
  -- the other sessions are as they were
  have hold : ∀ {Y a}, Y ≠ Z ∨ a ≠ s.transferId →
      (net'.ctrl Y).m_sessions.value? a = (net.ctrl Y).m_sessions.value? a := by
    intro Y a hne
    rcases Z.eq_or_eq_other Y with rfl | rfl
    · rw [hZ, QMap.value?_insert_of_ne _ (hne.resolve_left (by simp)).symm]
    · rw [hZother]
  have hkept : ∀ {Y a s'}, (net.ctrl Y).m_sessions.value? a = some s' →
      (net'.ctrl Y).m_sessions.value? a = some s' := by
    intro Y a s' hs'
    rw [hold ?_]
    · exact hs'
    · by_contra hno
      rw [not_or, not_not, not_not] at hno
      obtain ⟨rfl, rfl⟩ := hno
      rw [hnone] at hs'
      cases hs'
  have hcases : ∀ {Y a s'}, (net'.ctrl Y).m_sessions.value? a = some s' →
      (net.ctrl Y).m_sessions.value? a = some s' ∨ (Y = Z ∧ a = s.transferId ∧ s' = s) := by
    intro Y a s' hs'
    by_cases hne : Y ≠ Z ∨ a ≠ s.transferId
    · rw [hold hne] at hs'
      exact .inl hs'
    · rw [not_or, not_not, not_not] at hne
      obtain ⟨rfl, rfl⟩ := hne
      exact .inr ⟨rfl, rfl, Option.some_inj.mp (hs'.symm.trans hself)⟩
  have hchan : ∀ {Y f}, f ∈ net'.chan Y →
      f ∈ net.chan Y ∨ (Y = Z.other ∧ f ∈ framesSent deeds) := by
    intro Y f hf
    rw [hnet'] at hf
    rcases Z.eq_or_eq_other Y with rfl | rfl
    · rw [chan_putLossy_self] at hf
      exact .inl hf
    · rw [chan_putLossy_other, List.mem_append, FileTransferController.register,
        framesSent_map] at hf
      exact hf.imp_right fun hf => ⟨rfl, (LossyIo.accepted_sublist _).subset hf⟩
  rw [← hnet']
  constructor
  · intro Y f m hf hread
    rcases hchan hf with hf | ⟨rfl, hnew⟩
    · obtain ⟨p, hp, hpromises⟩ := h.offer hf hread
      exact ⟨p, hkept hp, hpromises⟩
    · obtain ⟨m', hread', hid, hpromises, -⟩ := hframes f hnew
      obtain rfl := Command.offer.inj (hread.symm.trans hread')
      rw [Side.other_other, hid]
      exact ⟨s, hself, hpromises⟩
  · intro Y f m hf hread
    rcases hchan hf with hf | ⟨rfl, hnew⟩
    · rw [hold ?_]
      · exact h.new hf hread
      · by_contra hno
        rw [not_or, not_not, not_not] at hno
        obtain ⟨rfl, hid⟩ := hno
        exact hunder (mem_offerIds.mpr ⟨f, hf, m, hread, hid⟩)
    · obtain ⟨m', hread', hid, -, hfresh⟩ := hframes f hnew
      obtain rfl := Command.offer.inj (hread.symm.trans hread')
      rw [hZother, hid]
      exact hfresh
  · intro Y
    rw [hnet']
    rcases Z.eq_or_eq_other Y with rfl | rfl
    · rw [chan_putLossy_self]
      exact h.once Y
    · rw [chan_putLossy_other, List.filterMap_append, FileTransferController.register,
        framesSent_map, List.nodup_append]
      have hsent : ∀ a ∈ (io.accepted (framesSent deeds)).filterMap (offerId? json),
          a = s.transferId := by
        intro a ha
        obtain ⟨f, hf, m, hread, rfl⟩ := mem_offerIds.mp ha
        obtain ⟨m', hread', hid, -, -⟩ := hframes f ((LossyIo.accepted_sublist _).subset hf)
        obtain rfl := Command.offer.inj (hread.symm.trans hread')
        exact hid
      refine ⟨h.once _, ?_, ?_⟩
      · have hshort : ((io.accepted (framesSent deeds)).filterMap (offerId? json)).length ≤ 1 :=
          (List.length_filterMap_le _ _).trans
            ((LossyIo.accepted_sublist _).length_le.trans hlength)
        exact List.nodup_iff_count_le_one.mpr fun a => List.count_le_length.trans hshort
      · intro a ha b hb hab
        obtain ⟨f, hf, m, hread, hid⟩ := mem_offerIds.mp ha
        obtain ⟨p, hp, -⟩ := h.offer hf hread
        rw [Side.other_other, hid, hab, hsent b hb, hnone] at hp
        cases hp
  · intro Y a r hr hdir
    rcases hcases hr with hr | ⟨rfl, rfl, rfl⟩
    · obtain ⟨p, hp, hpromises⟩ := h.received hr hdir
      exact ⟨p, hkept hp, hpromises⟩
    · rw [hZother]
      exact hin hdir
  · intro Y f a hf hread
    rcases hchan hf with hf | ⟨rfl, hnew⟩
    · obtain ⟨r, hr, haccepted⟩ := h.accepted hf hread
      exact ⟨r, hkept hr, haccepted⟩
    · obtain ⟨m, hread', -⟩ := hframes f hnew
      rw [hread] at hread'
      cases hread'
  · intro Y a s' hs' hdir hbusy
    rcases hcases hs' with hs' | ⟨rfl, rfl, rfl⟩
    · exact h.busy hs' hdir hbusy
    · rw [hstate] at hbusy
      cases hbusy
  · intro Y a s' hs' hdir hempty
    rcases hcases hs' with hs' | ⟨rfl, rfl, rfl⟩
    · exact h.empty hs' hdir hempty
    · exact hout hdir hempty

/-- A command of one side. -/
lemma command (h : Aligned json sha net) {cmd : Command}
    (hdrawn : ∀ path ip, cmd = .sendFile path ip →
      ∀ Y, (net.ctrl Y).m_sessions.value? (generateTransferId io.io.uuid) = none)
    (hoffer : ∀ m, cmd = .offer m → (net.ctrl Z).m_sessions.value? m.transferId = none ∧
      m.transferId ∉ (net.chan Z).filterMap (offerId? json) ∧
        ∃ p, (net.ctrl Z.other).m_sessions.value? m.transferId = some p ∧
          Promises p m.fileSize m.sha256) :
    Aligned json sha (net.putLossy Z io ((net.ctrl Z).runCommand json sha io.io cmd)) := by
  have hnothing : Aligned json sha (net.putLossy Z io (net.ctrl Z, [])) :=
    h.put (.of_sessions rfl) fun f hf => by cases hf
  cases cmd with
  | sendFile path ip =>
      rw [runCommand]
      rcases sendFile_cases json sha (net.ctrl Z) io.io path ip with hnone | ⟨s, deeds, hr, heq⟩
      · rw [hnone]
        exact hnothing
      · rw [heq]
        have hfresh := hdrawn path ip rfl
        cases hr with
        | @outgoing _ _ content _ =>
            obtain ⟨tid, htid⟩ : ∃ tid, tid = generateTransferId io.io.uuid := ⟨_, rfl⟩
            obtain ⟨s, hs⟩ : ∃ s, s = outgoingSession (net.ctrl Z).nextObject tid path
              (sha.hex content) content.length := ⟨_, rfl⟩
            rw [← htid] at hfresh ⊢
            have hne : tid ≠ "" := by
              intro hempty
              have hlist := toList_generateTransferId io.io.uuid
              rw [← htid, hempty] at hlist
              cases hlist
            have hread := readFrame_offerOf json hs hne
            have hsender : IsSender sha tid path content s := by
              rw [hs]
              exact isSender_outgoingSession _
            have hstate : s.state = .Offering := by
              rw [hs, outgoingSession]
            rw [← hs]
            have hframes : framesSent (offerDeeds json io.io (net.ctrl Z).m_socket ip s) =
                if (net.ctrl Z).m_socket then [jsonFrame json .FileOffer (offerOf s).toJson]
                else [] := by
              rw [offerDeeds]
              split_ifs <;> rfl
            apply h.register
            · rw [hsender.transferId]
              exact hfresh Z
            · exact hstate
            · intro hin
              rw [hsender.direction] at hin
              cases hin
            · intro _ hempty
              rw [hsender.fileSize] at hempty
              have hnil : content = [] := List.length_eq_zero_iff.mp (by exact_mod_cast hempty)
              rw [hsender.expectedSha256, hnil]
            · intro hmem
              obtain ⟨f, hf, m, hm, hid⟩ := mem_offerIds.mp hmem
              obtain ⟨p, hp, -⟩ := h.offer hf hm
              rw [hid, hsender.transferId, hfresh] at hp
              cases hp
            · intro f hf
              rw [hframes] at hf
              split_ifs at hf
              · rw [List.mem_singleton] at hf
                rw [hf]
                refine ⟨_, hread, rfl, ⟨hsender.direction, rfl, rfl⟩, ?_⟩
                rw [hsender.transferId]
                exact hfresh _
              · cases hf
            · rw [hframes]
              split_ifs <;> simp
  | offer m =>
      obtain ⟨hnone, hunder, hpromises⟩ := hoffer m rfl
      show Aligned json sha (net.putLossy Z io ((net.ctrl Z).register
        (incomingSession (net.ctrl Z).nextObject m) [.signal (.fileOfferReceived m)]))
      apply h.register
      · exact hnone
      · rfl
      · exact fun _ => hpromises
      · intro hout
        cases hout
      · exact hunder
      · intro f hf
        cases hf
      · exact Nat.zero_le 1
  | request tid request =>
      exact h.put (Evolves.onRequest json sha _ io.io tid request) fun f hf =>
        framesSent_onRequest hf
  | timeout tid =>
      rw [runCommand]
      split_ifs
      · refine h.put (Evolves.trans ?_ (Evolves.onRequest json sha _ io.io tid .sendNextChunk))
          fun f hf => framesSent_onRequest hf
        exact .of_sessions rfl
      · exact hnothing
  | disconnect =>
      obtain ⟨hevolves, hframes⟩ := evolves_onSocketDisconnected (net.ctrl Z) io.io
      refine h.put hevolves fun f hf => ?_
      rw [runCommand, hframes] at hf
      cases hf
  | nothing => exact hnothing

end Aligned

end Invariant

/-! ### Runs -/

/-- The request that an event makes, and the session that it is about. -/
def Net.request? (net : Net) : LossyEvent → Option (Side × String × Request)
  | .call Z event =>
      match event.command json with
      | .request tid request => some (Z, tid, request)
      | .timeout tid => if tid ∈ (net.ctrl Z).timers then some (Z, tid, .sendNextChunk) else none
      | _ => none
  | .deliver Z _ =>
      match net.chan Z with
      | frame :: _ =>
          match readFrame json frame with
          | .request tid request => some (Z, tid, request)
          | _ => none
      | [] => none
  | _ => none

/-- What is asked of an event: frames come from the other side, a file is sent under a new id, and
an outgoing stream only ends if the file is empty and the other side has not given the transfer
up. -/
structure Careful (net : Net) (e : LossyEvent × LossyIo) : Prop where
  own (Z frame ip) : e.1 ≠ .call Z (.frameReceivedFrom frame ip)
  drawn {Z path ip} : e.1 = .call Z (.sendFile path ip) →
    ∀ Y, (net.ctrl Y).m_sessions.value? (generateTransferId e.2.io.uuid) = none
  ends {Z tid request s} : net.request? json e.1 = some (Z, tid, request) →
    (net.ctrl Z).m_sessions.value? tid = some s → s.direction = .Outgoing →
    EndsStream e.2.io { session := s, files := (net.ctrl Z).files } request →
      s.fileSize = 0 ∧ ∀ r, (net.ctrl Z.other).m_sessions.value? tid = some r →
        r.state ≠ .Cancelled ∧ r.state ≠ .Rejected

section Runs

variable {json sha}
variable {net : Net} {e : LossyEvent × LossyIo} {Z : Side} {tid path : String}
  {s : FileTransferSession}

lemma chan_pop_self (rest : List P2PFrame) : (net.pop Z rest).chan Z = rest :=
  Function.update_self _ _ _

lemma stepLossy_deliver {ip : String} {io : LossyIo} {f : P2PFrame} {rest : List P2PFrame}
    (h : net.chan Z = f :: rest) :
    net.stepLossy json sha (.deliver Z ip, io) =
      ((net.pop Z rest).putLossy Z io
          ((net.ctrl Z).runCommand json sha io.io (readFrame json f)),
        ((net.ctrl Z).runCommand json sha io.io (readFrame json f)).2.map (Prod.mk Z)) := by
  simp only [Net.stepLossy, h, ← onFrameReceivedFrom_eq json sha _ io.io f ip]

/-- **One event.** The two sides stay aligned. -/
theorem Aligned.step (h : Aligned json sha net) (he : Careful json net e) :
    Aligned json sha (net.stepLossy json sha e).1 := by
  obtain ⟨e, io⟩ := e
  cases e with
  | call Z event =>
      rw [Net.stepLossy, step_eq_run]
      apply h.command
      · intro path ip hcmd
        cases event with
        | sendFile path' ip' => exact he.drawn rfl
        | frameReceivedFrom frame ip' => exact absurd rfl (he.own Z frame ip')
        | _ => cases hcmd
      · intro m hcmd
        cases event with
        | frameReceivedFrom frame ip => exact absurd rfl (he.own Z frame ip)
        | _ => cases hcmd
  | deliver Z ip =>
      cases hchan : net.chan Z with
      | nil =>
          simp only [Net.stepLossy, hchan]
          exact h
      | cons f rest =>
          rw [stepLossy_deliver hchan]
          have hsub : ∀ Y, ((net.pop Z rest).chan Y).Sublist (net.chan Y) := by
            intro Y
            rcases Z.eq_or_eq_other Y with rfl | rfl
            · rw [hchan, chan_pop_self]
              exact List.sublist_cons_self f rest
            · simp [Net.pop]
          have hpop : Aligned json sha (net.pop Z rest) := h.of_sublist (fun _ => rfl) hsub
          have hmem : f ∈ net.chan Z := by simp [hchan]
          rw [← ctrl_pop net Z rest]
          apply hpop.command
          · intro path ip' hcmd
            rcases readFrame_cases json f with hread | ⟨m, hread⟩ | ⟨tid, request, hread⟩ <;>
              · rw [hread] at hcmd
                cases hcmd
          · intro m hread
            refine ⟨h.new hmem hread, ?_, h.offer hmem hread⟩
            have honce := h.once Z
            have hid : offerId? json f = some m.transferId := by rw [offerId?, hread]
            rw [hchan, List.filterMap_cons_some hid, List.nodup_cons] at honce
            rw [chan_pop_self]
            exact honce.1
  | lose Z =>
      apply h.of_sublist
      · exact fun _ => rfl
      · intro Y
        rcases Z.eq_or_eq_other Y with rfl | rfl <;> simp [Net.stepLossy, Net.pop]
  | rewrite Z files =>
      apply h.of_sublist
      · intro Y
        rcases Z.eq_or_eq_other Y with rfl | rfl <;> simp [Net.stepLossy]
      · exact fun Y => List.Sublist.refl _

lemma aligned_initial (m_socket : Side → Bool) (files : Side → FileSystem) :
    Aligned json sha (Net.initial m_socket files) where
  offer hf := by cases hf
  new hf := by cases hf
  once _ := List.nodup_nil
  received hr := by simp [Net.initial, init] at hr
  accepted hf := by cases hf
  busy hs := by simp [Net.initial, init] at hs
  empty hs := by simp [Net.initial, init] at hs

/-- The request behind a completion that the sender reports ends the stream. -/
lemma ends_of_completed {i : ℕ} (hs : (net.ctrl Z).m_sessions.value? tid = some s)
    (hdir : s.direction = .Outgoing)
    (hx : (Z, ⟨i, .signal (.transferCompleted tid path)⟩) ∈ (net.stepLossy json sha e).2) :
    ∃ request, net.request? json e.1 = some (Z, tid, request) ∧
      EndsStream e.2.io { session := s, files := (net.ctrl Z).files } request := by
  obtain ⟨e, io⟩ := e
  -- one step of the controller
  have hstep : ∀ event : Event, ⟨i, .signal (.transferCompleted tid path)⟩ ∈
      ((net.ctrl Z).step json sha event io.io).2 →
      ∃ request, (event.command json = .request tid request ∨ request = .sendNextChunk ∧
          event.command json = .timeout tid ∧ tid ∈ (net.ctrl Z).timers) ∧
        EndsStream io.io { session := s, files := (net.ctrl Z).files } request := by
    intro event hmem
    obtain ⟨c, a, request, hsessions, hfiles, heq, hcmd⟩ := request_of_completed hmem
    rw [heq] at hmem
    obtain ⟨s', hs', -, hdeed⟩ := mem_onSession hmem
    have hreport : tid ∈ completedIds (request.run json sha io.io c.m_socket a
        { session := s', files := c.files }).deeds :=
      List.mem_filterMap.mpr ⟨_, hdeed, rfl⟩
    obtain ⟨rfl, hends⟩ := Request.run_completedId rfl hreport
    rw [hsessions, hs, Option.some.injEq] at hs'
    subst hs'
    rw [hfiles] at hends
    exact ⟨request, hcmd, hends hdir⟩
  cases e with
  | call Y event =>
      rw [Net.stepLossy, List.mem_map] at hx
      obtain ⟨x, hx, heq⟩ := hx
      obtain ⟨rfl, rfl⟩ := Prod.mk.inj heq
      obtain ⟨request, hcmd, hends⟩ := hstep event hx
      refine ⟨request, ?_, hends⟩
      rcases hcmd with hcmd | ⟨rfl, hcmd, htimer⟩
      · simp only [Net.request?, hcmd]
      · simp only [Net.request?, hcmd, if_pos htimer]
  | deliver Y ip =>
      cases hchan : net.chan Y with
      | nil =>
          simp only [Net.stepLossy, hchan] at hx
          cases hx
      | cons f rest =>
          simp only [Net.stepLossy, hchan, List.mem_map] at hx
          obtain ⟨x, hx, heq⟩ := hx
          obtain ⟨rfl, rfl⟩ := Prod.mk.inj heq
          obtain ⟨request, hcmd, hends⟩ := hstep (.frameReceivedFrom f ip) hx
          refine ⟨request, ?_, hends⟩
          rcases hcmd with hcmd | ⟨-, hcmd, -⟩
          · rw [Event.command] at hcmd
            simp only [Net.request?, hchan, hcmd]
          · rw [Event.command] at hcmd
            rcases readFrame_cases json f with hread | ⟨m, hread⟩ | ⟨a, r, hread⟩ <;>
              · rw [hread] at hcmd
                cases hcmd
  | lose Y => cases hx
  | rewrite Y files => cases hx

/-- An offer that arrives is no request. -/
lemma request?_deliver_offer {ip : String} {f : P2PFrame} {rest : List P2PFrame} {m : FileOffer}
    (hchan : net.chan Z = f :: rest) (hread : readFrame json f = .offer m) :
    net.request? json (.deliver Z ip) = none := by
  simp only [Net.request?, hchan, hread]

/-- An acceptance was on its way. -/
lemma fileAccept_of_request (he : Careful json net e)
    (h : net.request? json e.1 = some (Z, tid, .fileAccept)) :
    ∃ f ∈ net.chan Z, readFrame json f = .request tid .fileAccept := by
  obtain ⟨e, io⟩ := e
  cases e with
  | call Y event =>
      cases event with
      | frameReceivedFrom f ip => exact absurd rfl (he.own Y f ip)
      | timeout a =>
          simp only [Net.request?, Event.command] at h
          split_ifs at h
          simp at h
      | _ => simp [Net.request?, Event.command] at h
  | deliver Y ip =>
      cases hchan : net.chan Y with
      | nil => simp [Net.request?, hchan] at h
      | cons f rest =>
          rcases readFrame_cases json f with hread | ⟨m, hread⟩ | ⟨a, request, hread⟩ <;>
            simp only [Net.request?, hchan, hread, Option.some.injEq, Prod.mk.injEq,
              reduceCtorEq] at h
          obtain ⟨rfl, rfl, rfl⟩ := h
          exact ⟨f, by simp [hchan], hread⟩
  | lose Y => cases h
  | rewrite Y files => cases h

/-- **Outcomes agree.** Where only the streams of empty files end, a completion that the sender
reports finds the receiver at its end, with the hash verified. -/
theorem completion_agrees {m_socket : Side → Bool} {files : Side → FileSystem}
    {es : List (LossyEvent × LossyIo)} {log : List (Side × Effect)} {i : ℕ}
    (hrun : Run (lossyLink json sha) (Careful json) (Net.initial m_socket files) es log net)
    (he : Careful json net e) (hs : (net.ctrl Z).m_sessions.value? tid = some s)
    (hdir : s.direction = .Outgoing)
    (hx : (Z, ⟨i, .signal (.transferCompleted tid path)⟩) ∈ (net.stepLossy json sha e).2) :
    ∃ r, (net.ctrl Z.other).m_sessions.value? tid = some r ∧ r.direction = .Incoming ∧
      r.state = .Completed ∧ QString.equalCI (sha.hex r.cryptoHash) r.expectedSha256 = true := by
  have h : Aligned json sha net :=
    hrun.invariant (aligned_initial m_socket files) fun _ _ h he => h.step he
  obtain ⟨request, hrequest, hends⟩ := ends_of_completed hs hdir hx
  obtain ⟨hsize, hkept⟩ := he.ends hrequest hs hdir hends
  cases request with
  | sendNextChunk => exact absurd hsize (h.busy hs hdir hends.1)
  | fileAccept =>
      -- the acceptance came from the other side
      obtain ⟨f, hf, hread⟩ := fileAccept_of_request he hrequest
      obtain ⟨r, hr, haccepted⟩ := h.accepted hf hread
      obtain ⟨s', hs', hpromises⟩ := h.received hr haccepted.direction
      rw [Side.other_other, hs, Option.some.injEq] at hs'
      subst hs'
      have hsettled := haccepted.settled (hpromises.fileSize.symm.trans hsize)
      refine ⟨r, hr, haccepted.direction, ?_, ?_⟩
      · obtain ⟨hcancelled, hrejected⟩ := hkept r hr
        exact (hsettled.state.resolve_right (by tauto))
      · rw [hsettled.hash, ← hpromises.expectedSha256, h.empty hs hdir hsize, QString.equalCI_self]
  | _ => exact hends.elim

end Runs

/-! ### A file on the left side -/

/-- The left side has some files, the right one none. -/
def fileNet (files : FileSystem) : Net :=
  Net.initial (fun _ => true) fun
    | .left => files
    | .right => .empty

/-- The session of a file. -/
def fileSession (content : Bytes) : FileTransferSession :=
  outgoingSession 0 "ft_0123456789ab4" "/home/a.txt" (Sha256.sample.hex content) content.length

/-- The offer as it arrives. -/
def arrivingOffer (content : Bytes) : FileOffer :=
  { offerOf (fileSession content) with
    fileName := sanitizeFileName (sanitizeFileName (fileSession content).fileName) }

/-- The offer is sent. -/
def offerFile : LossyEvent × LossyIo :=
  (.call .left (.sendFile "/home/a.txt" ""), { io.uuid := "01234567-89ab-4def-8123-456789abcdef" })

/-- The offer arrives. -/
def offerIn : LossyEvent × LossyIo := (.deliver .right "10.77.0.1", {})

/-- The network with the offer under way. -/
def offeringFile (files : FileSystem) (content : Bytes) : Net :=
  (fileNet files).putLossy .left offerFile.2 ((init true files).register (fileSession content)
    (offerDeeds compact offerFile.2.io true "" (fileSession content)))

/-- The network after its arrival. -/
def offeredFile (files : FileSystem) (content : Bytes) : Net :=
  ((offeringFile files content).pop .right []).putLossy .right {}
    ((init true .empty).registerOffer (arrivingOffer content))

lemma step_offerFile {files : FileSystem} {content : Bytes}
    (h : files.contentAt "/home/a.txt" = some content) :
    ((fileNet files).stepLossy compact .sample offerFile).1 = offeringFile files content := by
  have hid : generateTransferId offerFile.2.io.uuid = "ft_0123456789ab4" := by decide +kernel
  have hfile : ((fileNet files).ctrl .left).files.contentAt "/home/a.txt" = some content := h
  have hhash : calculateFileSha256 .sample offerFile.2.io content = Sha256.sample.hex content :=
    if_pos rfl
  have hsend : ((fileNet files).ctrl .left).sendFile compact .sample offerFile.2.io "/home/a.txt"
      "" = (((init true files).register (fileSession content)
          (offerDeeds compact offerFile.2.io true "" (fileSession content))).1,
        ((init true files).register (fileSession content)
          (offerDeeds compact offerFile.2.io true "" (fileSession content))).2,
        "ft_0123456789ab4") := by
    rw [FileTransferController.sendFile, hfile]
    dsimp only
    rw [hhash, if_neg (by rw [offerFile]; decide), if_neg (Sha256.sample.hex_ne_empty content), hid]
    rfl
  have hstep : ((fileNet files).stepLossy compact .sample offerFile).1 =
      (fileNet files).putLossy .left offerFile.2
        ((((fileNet files).ctrl .left).sendFile compact .sample offerFile.2.io "/home/a.txt" "").1,
          (((fileNet files).ctrl .left).sendFile compact .sample offerFile.2.io "/home/a.txt"
            "").2.1) := rfl
  rw [hstep, hsend, offeringFile]

lemma chan_offeringFile (files : FileSystem) (content : Bytes) :
    (offeringFile files content).chan .right =
      [jsonFrame compact .FileOffer (offerOf (fileSession content)).toJson] := rfl

lemma readFrame_fileSession (content : Bytes) :
    readFrame compact (jsonFrame compact .FileOffer (offerOf (fileSession content)).toJson) =
      .offer (arrivingOffer content) :=
  readFrame_offerOf compact (s := fileSession content) rfl (by decide)

lemma step_offerIn (files : FileSystem) (content : Bytes) :
    ((offeringFile files content).stepLossy compact .sample offerIn).1 =
      offeredFile files content := by
  rw [offerIn, stepLossy_deliver (chan_offeringFile files content), readFrame_fileSession]
  rfl

/-- The right side accepts. -/
def acceptFile : LossyEvent × LossyIo :=
  (.call .right (.acceptTransfer "ft_0123456789ab4" "/home/in"), {})

/-- The left side hears of it. -/
def acceptanceIn : LossyEvent × LossyIo := (.deliver .left "10.77.0.2", {})

/-- The timer for the next chunk fires. -/
def nextChunk : LossyEvent × LossyIo := (.call .left (.timeout "ft_0123456789ab4"), {})

lemma exec_offerFile {files : FileSystem} {content : Bytes}
    (h : files.contentAt "/home/a.txt" = some content) (es : List (LossyEvent × LossyIo)) :
    ((lossyLink compact .sample).exec (fileNet files) (offerFile :: offerIn :: es)).2 =
      ((lossyLink compact .sample).exec (offeredFile files content) es).2 := by
  rw [Machine.exec_cons_snd, Machine.exec_cons_snd]
  have hoffer : ((lossyLink compact .sample).step (fileNet files) offerFile).1 =
    offeringFile files content := step_offerFile h
  have harrive : ((lossyLink compact .sample).step (offeringFile files content) offerIn).1 =
    offeredFile files content := step_offerIn files content
  rw [hoffer, harrive]

/-- **The sender is done before the receiver.** The sender reports the completion of a file of one
letter while the letter is still under way: the receiver has verified nothing. -/
theorem completion_before_verification :
    ∃ log net, Run (lossyLink compact .sample) (fun _ _ => True) (fileNet oneLetterFile)
        [offerFile, offerIn, acceptFile, acceptanceIn] log net ∧
      (.left, ⟨0, .signal (.transferCompleted "ft_0123456789ab4" "/home/a.txt")⟩) ∈
        (net.stepLossy compact .sample nextChunk).2 ∧
      (net.ctrl .right).getTransferState "ft_0123456789ab4" = some .Transferring := by
  have hcontent : oneLetterFile.contentAt "/home/a.txt" = some [0x61] := by decide +kernel
  have hallowed : (lossyLink compact .sample).Allows (fun _ _ => True) (fileNet oneLetterFile)
      [offerFile, offerIn, acceptFile, acceptanceIn] :=
    Machine.allows_of_forall _ (fun _ _ => trivial) _ _
  refine ⟨_, _, Run.exec hallowed, ?_, ?_⟩
  · rw [exec_offerFile hcontent]
    decide +kernel
  · rw [exec_offerFile hcontent]
    decide +kernel

/-- An empty file. -/
def emptyFile : FileSystem := FileSystem.empty.openTruncate "/home/a.txt"

/-- The network after the acceptance of the empty file. -/
def acceptedEmpty : Net := ((offeredFile emptyFile []).stepLossy compact .sample acceptFile).1

lemma request?_acceptanceIn : acceptedEmpty.request? compact acceptanceIn.1 =
    some (.left, "ft_0123456789ab4", .fileAccept) := by
  decide +kernel

lemma careful_acceptanceIn : Careful compact acceptedEmpty acceptanceIn where
  own _ _ _ h := by cases h
  drawn h := by cases h
  ends {Z tid request s} h hs _ _ := by
    rw [request?_acceptanceIn, Option.some.injEq, Prod.mk.injEq, Prod.mk.injEq] at h
    obtain ⟨rfl, rfl, rfl⟩ := h
    have hsize : ((acceptedEmpty.ctrl .left).m_sessions.value? "ft_0123456789ab4").map
        (·.fileSize) = some 0 := by decide +kernel
    have hstate : (acceptedEmpty.ctrl .right).getTransferState "ft_0123456789ab4" =
        some .Completed := by decide +kernel
    rw [hs, Option.map_some, Option.some.injEq] at hsize
    refine ⟨hsize, fun r hr => ?_⟩
    rw [Side.other] at hr
    rw [getTransferState, hr, Option.map_some, Option.some.injEq] at hstate
    rw [hstate]
    decide

lemma careful_offerFile : Careful compact (fileNet emptyFile) offerFile where
  own _ _ _ h := by cases h
  drawn _ Y := by cases Y <;> rfl
  ends h := by cases h

lemma careful_offerIn : Careful compact (offeringFile emptyFile []) offerIn where
  own _ _ _ h := by cases h
  drawn h := by cases h
  ends h := by
    have hnone : (offeringFile emptyFile []).request? compact offerIn.1 = none :=
      request?_deliver_offer (chan_offeringFile emptyFile []) (readFrame_fileSession [])
    rw [hnone] at h
    cases h

lemma careful_acceptFile (net : Net) : Careful compact net acceptFile where
  own _ _ _ h := by cases h
  drawn h := by cases h
  ends {Z tid request s} h _ _ hends := by
    have hrequest : some (Side.right, "ft_0123456789ab4", Request.acceptTransfer "/home/in") =
        some (Z, tid, request) := h
    rw [Option.some.injEq, Prod.mk.injEq, Prod.mk.injEq] at hrequest
    rw [← hrequest.2.2] at hends
    exact hends.elim

lemma run_acceptedEmpty : ∃ log, Run (lossyLink compact .sample) (Careful compact)
    (fileNet emptyFile) [offerFile, offerIn, acceptFile] log acceptedEmpty := by
  have hcontent : emptyFile.contentAt "/home/a.txt" = some [] := by decide +kernel
  have hoffer : Run (lossyLink compact .sample) (Careful compact) (fileNet emptyFile) [offerFile] _
    _ := Run.single careful_offerFile
  have hoffering : ((lossyLink compact .sample).step (fileNet emptyFile) offerFile).1 =
    offeringFile emptyFile [] := step_offerFile hcontent
  rw [hoffering] at hoffer
  have harrive := Run.snoc hoffer careful_offerIn
  have hoffered : ((lossyLink compact .sample).step (offeringFile emptyFile []) offerIn).1 =
    offeredFile emptyFile [] := step_offerIn emptyFile []
  rw [hoffered] at harrive
  exact ⟨_, Run.snoc harrive (careful_acceptFile _)⟩

theorem completion_agrees_empty_file :
    (.left, ⟨0, .signal (.transferCompleted "ft_0123456789ab4" "/home/a.txt")⟩) ∈
        (acceptedEmpty.stepLossy compact .sample acceptanceIn).2 ∧
      ∃ r, (acceptedEmpty.ctrl .right).m_sessions.value? "ft_0123456789ab4" = some r ∧
        r.direction = .Incoming ∧ r.state = .Completed ∧
          QString.equalCI (Sha256.sample.hex r.cryptoHash) r.expectedSha256 = true := by
  have hx : (.left, ⟨0, .signal (.transferCompleted "ft_0123456789ab4" "/home/a.txt")⟩) ∈
      (acceptedEmpty.stepLossy compact .sample acceptanceIn).2 := by decide +kernel
  obtain ⟨log, hrun⟩ := run_acceptedEmpty
  have hdir : ((acceptedEmpty.ctrl .left).m_sessions.value? "ft_0123456789ab4").map
      (·.direction) = some .Outgoing := by decide +kernel
  obtain ⟨s, hs, hout⟩ := Option.map_eq_some_iff.mp hdir
  exact ⟨hx, completion_agrees hrun careful_acceptanceIn hs hout hx⟩

end MeckChat.Protocol
