import MeckChat.Protocol.TransferIsolation
import MeckChat.Protocol.TransferStream

/-!
The id of an offer and the id in the chunks that follow it.

An offer carries its id as a JSON string, a chunk in a field of sixteen bytes.

* `TakesFirstChunk` says that a packet is taken by one session and by no other.
* `takesFirstChunk_iff`: the session of an id takes a packet that was encoded
  with this id exactly when the id comes back out of its field.
* `first_chunk_taken_iff` says so of a session that was offered and accepted;
  `long_id_not_taken` is an offer whose chunks do not find their session.
-/

namespace MeckChat.Protocol

namespace FileTransferController

open Qt QJson

variable {json : JsonCodec}
variable {c c₀ c₁ c₂ : FileTransferController} {offer : FileOffer} {s : FileTransferSession}

/-- The session of `tid` takes its first chunk, `data`, on the way from `c` to
`c'`, and no other session changes. -/
structure TakesFirstChunk (c c' : FileTransferController) (tid : String)
    (s : FileTransferSession) (data : Bytes) : Prop where
  taken : ∃ s', c'.m_sessions.value? tid = some s' ∧ s'.objectId = s.objectId ∧
    s'.currentChunkIndex = 1 ∧ s'.transferredBytes = s.transferredBytes + data.length
  others : ∀ tid', tid' ≠ tid → c'.m_sessions.value? tid' = c.m_sessions.value? tid'

lemma transferId_ne_of_offerOf? {payload : Bytes} (h : offerOf? json payload = some offer) :
    offer.transferId ≠ "" := by
  rw [offerOf?] at h
  split at h
  · exact (FileOffer.of_fromJson h).1
  · cases h

/-- A chunk for another id leaves the session of `tid` as it is. -/
lemma value?_chunk_of_ne {io : Io} {payload : Bytes} {tid : String}
    (h : ∀ chunk, FileChunk.decodePacket payload = some chunk → chunk.transferId ≠ tid) :
    (c.handleInboundFileChunk io payload).1.m_sessions.value? tid = c.m_sessions.value? tid := by
  rw [handleInboundFileChunk]
  cases hchunk : FileChunk.decodePacket payload with
  | none => rfl
  | some chunk => exact value?_onSession_of_ne (h chunk hchunk).symm

/-- The counters of a session that takes a chunk. -/
lemma counters_of_chunk (io : Io) (tid : String) (t : Turn) {index : UInt32} (data : Bytes)
    (h : t.session.Takes index) :
    (t.handleInboundFileChunk io tid index data).session.objectId = t.session.objectId ∧
      (t.handleInboundFileChunk io tid index data).session.currentChunkIndex =
        t.session.currentChunkIndex + 1 ∧
      (t.handleInboundFileChunk io tid index data).session.transferredBytes =
        t.session.transferredBytes + data.length := by
  obtain ⟨⟨hdir, hstate⟩, hindex⟩ := h
  have hwrite : ∃ handle,
      (t.writeData io data).session = { t.session with fileHandle := handle } := by
    cases hhandle : t.session.fileHandle with
    | none => exact ⟨none, by rw [Turn.writeData, hhandle]; simp [← hhandle]⟩
    | some handle =>
        obtain ⟨handle', hsession, -⟩ := Turn.session_writeData io data hhandle
        exact ⟨some handle', hsession⟩
  obtain ⟨handle, hsession⟩ := hwrite
  rw [Turn.handleInboundFileChunk, if_neg (by rw [hstate, hdir]; simp),
    if_neg (not_not.mpr hindex), Turn.session_emit, Turn.session_countChunk, Turn.session_addData,
    hsession]
  exact ⟨rfl, rfl, rfl⟩

/-- A live session that waits for its first chunk takes the packet of its id
exactly when the id survives the field of the packet and the data fit. -/
theorem takesFirstChunk_iff (io : Io) {tid : String} (hid : tid ≠ "")
    (hs : c.m_sessions.value? tid = some s) (htakes : s.Takes 0) (data : Bytes) :
    TakesFirstChunk c (c.handleInboundFileChunk io (FileChunk.encode tid 0 data)).1 tid s data ↔
      FileChunk.readId (FileChunk.idField tid) = tid ∧ data.length < 2 ^ 31 - 24 := by
  constructor
  · rintro ⟨⟨s', hs', -, hindex, -⟩, -⟩
    by_contra hno
    -- otherwise the packet is refused or goes to another session
    have hsame : (c.handleInboundFileChunk io (FileChunk.encode tid 0 data)).1.m_sessions.value? tid =
        c.m_sessions.value? tid := by
      refine value?_chunk_of_ne fun chunk hchunk heq => ?_
      obtain ⟨⟨-, hdata⟩, rfl⟩ := (FileChunk.decodePacket_encode_iff _ _ _ _).mp hchunk
      exact hno ⟨heq, hdata⟩
    rw [hsame, hs, Option.some.injEq] at hs'
    rw [← hs', ← htakes.2] at hindex
    cases hindex
  · rintro ⟨hread, hdata⟩
    have hchunk : FileChunk.decodePacket (FileChunk.encode tid 0 data) = some ⟨tid, 0, data⟩ := by
      rw [FileChunk.decodePacket_encode_iff, hread]
      exact ⟨⟨hid, hdata⟩, rfl⟩
    have hstep : c.handleInboundFileChunk io (FileChunk.encode tid 0 data) =
        c.onSession tid (·.handleInboundFileChunk io tid 0 data) := by
      rw [handleInboundFileChunk, hchunk]
    obtain ⟨hobject, hindex, hcount⟩ :=
      counters_of_chunk io tid { session := s, files := c.files } data htakes
    refine ⟨⟨_, by rw [hstep]; exact value?_onSession_self hs, hobject, ?_, hcount⟩, ?_⟩
    · rw [hindex]
      show s.currentChunkIndex + 1 = 1
      rw [← htakes.2]
      rfl
    · intro tid' hne
      rw [hstep]
      exact value?_onSession_of_ne hne

/-! ### Offered, accepted, and the first chunk -/

/-- The session of an id behind `acceptTransfer`. -/
lemma value?_acceptTransfer {tid : String} (hs : c.m_sessions.value? tid = some s) (io : Io)
    (dir : String) :
    (c.acceptTransfer json io tid dir).1.m_sessions.value? tid =
      some (Turn.acceptTransfer json io c.m_socket tid dir
        { session := s, files := c.files }).1.session := by
  have honSession : (c.acceptTransfer json io tid dir).1 =
      (c.onSession tid fun t => (t.acceptTransfer json io c.m_socket tid dir).1).1 :=
    congrArg Prod.fst (withSession_fst c tid false
      fun t => t.acceptTransfer json io c.m_socket tid dir)
  rw [honSession, value?_onSession_self hs]

/-- The session that an offer registers waits for its first chunk once
`acceptTransfer` has moved it to `Transferring`. -/
lemma takes_of_accepted {payload : Bytes} {io : Io} {dir : String}
    (hoffer : offerOf? json payload = some offer)
    (hregistered : c₁.m_sessions.value? offer.transferId =
      (c₀.handleInboundFileOffer json payload).1.m_sessions.value? offer.transferId)
    (haccepted : (c₁.acceptTransfer json io offer.transferId dir).1.m_sessions.value?
      offer.transferId = some s) (hstate : s.state = .Transferring) : s.Takes 0 := by
  rw [handleInboundFileOffer_eq, hoffer] at hregistered
  dsimp only at hregistered
  rw [registerOffer, QMap.value?_insert_self] at hregistered
  rw [value?_acceptTransfer hregistered, Option.some.injEq] at haccepted
  obtain ⟨t, ht⟩ : ∃ t : Turn, t =
      { session := incomingSession c₀.nextObject offer, files := c₁.files } := ⟨_, rfl⟩
  have hcheck : t.session.state = .Offering ∧ t.session.direction = .Incoming := by
    rw [ht]
    exact ⟨rfl, rfl⟩
  rw [← ht] at haccepted
  rw [← haccepted] at hstate ⊢
  cases ho : io.openOk with
  | false =>
      rw [(Turn.acceptTransfer_failed json io _ _ dir hcheck ho).1] at hstate
      cases hstate
  | true =>
      by_cases hsize : t.session.fileSize = 0
      · rw [(Turn.acceptTransfer_empty json io _ _ dir hcheck ho hsize).1] at hstate
        cases hstate
      · rw [(Turn.acceptTransfer_receiving json io _ _ dir hcheck ho hsize).1]
        exact ⟨⟨hcheck.2, rfl⟩, rfl⟩

/-- **Offer ids and chunk ids.** Let an offer be registered, its session be
accepted and moved to `Transferring`, and whatever happens to other sessions
before, between and after. The session takes the first chunk under the id of
the offer, and no other session changes, exactly when the sixteen bytes of the
id field give the id back and the data leave room for the header. -/
theorem first_chunk_taken_iff {payload : Bytes} {io : Io} {dir : String}
    (hoffer : offerOf? json payload = some offer)
    (hregistered : c₁.m_sessions.value? offer.transferId =
      (c₀.handleInboundFileOffer json payload).1.m_sessions.value? offer.transferId)
    (haccepted : (c₁.acceptTransfer json io offer.transferId dir).1.m_sessions.value?
      offer.transferId = some s) (hstate : s.state = .Transferring)
    (hnext : c₂.m_sessions.value? offer.transferId = some s) (io' : Io) (data : Bytes) :
    TakesFirstChunk c₂
        (c₂.handleInboundFileChunk io' (FileChunk.encode offer.transferId 0 data)).1
        offer.transferId s data ↔
      FileChunk.readId (FileChunk.idField offer.transferId) = offer.transferId ∧
        data.length < 2 ^ 31 - 24 :=
  takesFirstChunk_iff io' (transferId_ne_of_offerOf? hoffer) hnext
    (takes_of_accepted hoffer hregistered haccepted hstate) data

/-- An offer of one letter under an id. -/
def letterOffer (tid : String) : FileOffer :=
  { emptyOffer (Sha256.sample.hex [0x61]) with transferId := tid, fileSize := 1 }

/-- The offer in a payload. -/
def letterPayload (tid : String) : Bytes := compact.toJson (letterOffer tid).toJson

lemma offerOf?_letterPayload {tid : String} (h : tid ≠ "") :
    offerOf? compact (letterPayload tid) = some (letterOffer tid) := by
  have hname : sanitizeFileName (sanitizeFileName "b.txt") = "b.txt" := by decide +kernel
  have hread := FileOffer.fromJson_toJson (m := letterOffer tid) h (by simp [letterOffer])
    (Sha256.sample.hex_ne_empty _) (by simp [letterOffer, emptyOffer])
    (by simp [letterOffer, emptyOffer])
  rw [offerOf?, letterPayload, JsonCodec.fromJson_toJson]
  simpa [letterOffer, emptyOffer, hname] using hread

/-- The controller that has taken the offer. -/
def offered (tid : String) : FileTransferController :=
  ((init true .empty).handleInboundFileOffer compact (letterPayload tid)).1

/-- The controller that has accepted it. -/
def accepted (tid : String) : FileTransferController :=
  ((offered tid).acceptTransfer compact {} tid "/home/in").1

/-- The session of the offer. -/
def offeredTurn (tid : String) : Turn :=
  { session := incomingSession 0 (letterOffer tid), files := .empty }

/-- The session once it is accepted. -/
def acceptedSession (tid : String) : FileTransferSession :=
  ((offeredTurn tid).acceptTransfer compact {} true tid "/home/in").1.session

lemma state_acceptedSession (tid : String) : (acceptedSession tid).state = .Transferring := by
  rw [acceptedSession, (Turn.acceptTransfer_receiving compact {} true tid "/home/in"
    (t := offeredTurn tid) ⟨rfl, rfl⟩ rfl (by simp [offeredTurn, incomingSession, letterOffer])).1]

/-- The offer registers the session. -/
lemma value?_offered {tid : String} (h : tid ≠ "") :
    (offered tid).m_sessions.value? tid = some (incomingSession 0 (letterOffer tid)) := by
  rw [offered, handleInboundFileOffer_eq, offerOf?_letterPayload h]
  exact QMap.value?_insert_self _ _ _

/-- Accepting it is successful. -/
lemma value?_accepted {tid : String} (h : tid ≠ "") :
    (accepted tid).m_sessions.value? tid = some (acceptedSession tid) := by
  have hturn : (offered tid).m_socket = true ∧ (offered tid).files = .empty := by
    rw [offered, handleInboundFileOffer_eq, offerOf?_letterPayload h]
    exact ⟨rfl, rfl⟩
  rw [accepted, value?_acceptTransfer (value?_offered h), hturn.1, hturn.2]
  rfl

lemma transferId_letterOffer (tid : String) : (letterOffer tid).transferId = tid := rfl

/-- The offer and the acceptance, under the id that the offer carries. -/
lemma letter_accepted {tid : String} (h : tid ≠ "") :
    (offered tid).m_sessions.value? (letterOffer tid).transferId =
        ((init true .empty).handleInboundFileOffer compact (letterPayload tid)).1.m_sessions.value?
          (letterOffer tid).transferId ∧
      ((offered tid).acceptTransfer compact {} (letterOffer tid).transferId
        "/home/in").1.m_sessions.value? (letterOffer tid).transferId =
          some (acceptedSession tid) := by
  refine ⟨by rw [offered], ?_⟩
  rw [transferId_letterOffer, ← accepted]
  exact value?_accepted h

theorem first_chunk_taken_drawn_id :
    TakesFirstChunk (accepted "ft_fedcba9876543")
      ((accepted "ft_fedcba9876543").handleInboundFileChunk
        {} (FileChunk.encode "ft_fedcba9876543" 0 [0x61])).1 "ft_fedcba9876543"
      (acceptedSession "ft_fedcba9876543") [0x61] := by
  obtain ⟨tid, htid⟩ : ∃ tid, tid = "ft_fedcba9876543" := ⟨_, rfl⟩
  have hid : tid ≠ "" := by
    rw [htid]
    decide
  have hread : FileChunk.readId (FileChunk.idField tid) = tid := by
    rw [htid]
    decide +kernel
  obtain ⟨hregistered, haccepted⟩ := letter_accepted hid
  have hnext : (accepted tid).m_sessions.value? (letterOffer tid).transferId =
      some (acceptedSession tid) := value?_accepted hid
  have htaken := (first_chunk_taken_iff (offerOf?_letterPayload hid) hregistered haccepted
    (state_acceptedSession tid) hnext {} [0x61]).mpr ⟨hread, by decide⟩
  rw [transferId_letterOffer, htid] at htaken
  exact htaken

/-- **A long id.** Nothing bounds the id of an offer, and the chunks for an id
of seventeen letters do not find their session. -/
theorem long_id_not_taken :
    ¬ ∀ (c₀ c₁ c₂ : FileTransferController) (payload : Bytes) (offer : FileOffer) (io : Io)
      (dir : String) (s : FileTransferSession),
        offerOf? compact payload = some offer → 0 < offer.fileSize →
        c₁ = (c₀.handleInboundFileOffer compact payload).1 →
        c₂ = (c₁.acceptTransfer compact io offer.transferId dir).1 →
        c₂.m_sessions.value? offer.transferId = some s → s.state = .Transferring →
        TakesFirstChunk c₂
          (c₂.handleInboundFileChunk {} (FileChunk.encode offer.transferId 0 [0x61])).1
          offer.transferId s [0x61] := by
  intro h
  obtain ⟨tid, htid⟩ : ∃ tid, tid = "ft_fedcba98765432" := ⟨_, rfl⟩
  have hid : tid ≠ "" := by
    rw [htid]
    decide
  have hlost : FileChunk.readId (FileChunk.idField tid) ≠ tid := by
    rw [htid]
    decide +kernel
  obtain ⟨hregistered, haccepted⟩ := letter_accepted hid
  have hstate := state_acceptedSession tid
  have htakes : (acceptedSession tid).Takes 0 :=
    takes_of_accepted (offerOf?_letterPayload hid) hregistered haccepted hstate
  have htaken := h (init true .empty) (offered tid) _ (letterPayload tid) (letterOffer tid) {}
    "/home/in" _ (offerOf?_letterPayload hid) one_pos (by rw [offered]) rfl haccepted hstate
  have hread := ((takesFirstChunk_iff {} hid haccepted htakes [0x61]).mp htaken).1
  exact hlost hread

end FileTransferController

end MeckChat.Protocol
