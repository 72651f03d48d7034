import MeckChat.Crypto.Handshake

/-!
Pairing over a network that an attacker controls.

* `pairingNet`: any number of session objects at two devices. `Attacked` is what may be
  delivered to them: every message but one with a proof that verifies and that neither
  device computed for those bytes and that salt.
* `Ledger`: what the log of a run says of the messages that the devices made and accepted.
  `Ledger.step` is the step lemma, and `ledger_run` the statement about runs.
* `paired_initiator`: an initiator that is paired shares its secret with the key pair of the
  call that computed the proof, and with the responder if that call answered its request.
  `paired_without_request` is a run in which that call answered no request at all.
-/

namespace MeckChat.Crypto

open Protocol QByteArray CryptoProvider PairingTurn

/-- The two devices. -/
inductive Endpoint where
  | A
  | B
  deriving DecidableEq, Repr

/-- A call of one session object. -/
structure PairingCall where
  device : Endpoint
  object : ℕ
  event : PairingEvent

/-- What a call showed, and the session behind it. -/
structure PairingRecord where
  device : Endpoint
  object : ℕ
  session : PairingSession
  deed : PairingDeed

/-- The session objects, and the bytes and salts for which a device computed a proof. -/
structure PairingNet where
  sessions : Endpoint → ℕ → PairingSession := fun _ _ => {}
  computed : List (Bytes × Bytes) := []

/-- The bytes and the salt of the proof in a message that is made. -/
def PairingDeed.signed? : PairingDeed → Option (Bytes × Bytes)
  | .requested request => some (request.buildTranscriptMessage, decode64 request.saltBase64)
  | .responded _ response => some (response.buildTranscriptMessage, decode64 response.saltBase64)
  | _ => none

/-- The calls at both devices. -/
def pairingNet (prim : Primitives) : Machine PairingNet PairingCall PairingRecord where
  step net call :=
    let r := (PairingSession.machine prim).step (net.sessions call.device call.object) call.event
    ({ sessions := Function.update net.sessions call.device
        (Function.update (net.sessions call.device) call.object r.1)
       computed := net.computed ++ r.2.filterMap (·.signed?) },
      r.2.map (PairingRecord.mk call.device call.object r.1))

/-- The ids of the devices, and the password they share. -/
structure Acquaintance where
  deviceId : Endpoint → String
  password : String

variable (prim : Primitives) (acq : Acquaintance)

/-- A proof that verifies was computed by one of the devices. -/
def Unforged (net : PairingNet) (transcript salt proof : Bytes) : Prop :=
  prim.hmac (prim.kdf (QString.toUtf8 acq.password) salt) transcript = proof →
    (transcript, salt) ∈ net.computed

/-- The calls that the devices make, whatever the attacker delivers. -/
def Attacked (net : PairingNet) (call : PairingCall) : Prop :=
  match call.event with
  | .initiatePairing io _ password _ =>
      io.deviceId = acq.deviceId call.device ∧ password = acq.password
  | .handleIncomingRequest io request password _ =>
      io.deviceId = acq.deviceId call.device ∧ password = acq.password ∧
        Unforged prim acq net request.buildTranscriptMessage (decode64 request.saltBase64)
          (decode64 request.authProofBase64)
  | .handleIncomingResponse io response password =>
      io.deviceId = acq.deviceId call.device ∧ password = acq.password ∧
        Unforged prim acq net response.buildTranscriptMessage (decode64 response.saltBase64)
          (decode64 response.authProofBase64)
  | _ => True

namespace PairingRecord

/-- The call made a message with a proof for these bytes, in which it signs the public key
it generated. -/
def Signed (y : PairingRecord) (bytes salt : Bytes) : Prop :=
  y.deed.signed? = some (bytes, salt) ∧ ∃ receiver time privateKey,
    y.session.m_ephemeralKeyPair = ⟨privateKey, prim.publicKey privateKey⟩ ∧
      bytes = transcript (acq.deviceId y.device) receiver time
        (toBase64 (prim.publicKey privateKey))

/-- The call derived this secret from its private key and a public key. -/
def Derived (y : PairingRecord) (key : Bytes) : Prop :=
  ∃ secret, prim.agree y.session.m_ephemeralKeyPair.privateKey key = some secret ∧
    y.session.m_result.map (·.sharedSecret) = some secret

/-- The call made the request of a session, with its public key. -/
def Asked (z : PairingRecord) (device : Endpoint) (object : ℕ) (s : PairingSession) : Prop :=
  z.device = device ∧ z.object = object ∧
    ∃ request, z.deed = .requested request ∧ request.sessionId = s.m_sessionId ∧
      decode64 request.ephemeralPublicKeyBase64 = s.m_ephemeralKeyPair.publicKey ∧
      s.m_ephemeralKeyPair.publicKey = prim.publicKey s.m_ephemeralKeyPair.privateKey

/-- What is behind a response that is accepted. -/
structure Accepted (log : List PairingRecord) (x : PairingRecord) (response : PairingResponse) :
    Prop where
  sessionId : response.sessionId = x.session.m_sessionId
  request : ∃ z ∈ log, z.Asked prim x.device x.object x.session
  proof : ∃ y ∈ log, y.Signed prim acq response.buildTranscriptMessage
    (decode64 response.saltBase64)
  key : (decode64 response.ephemeralPublicKeyBase64).length = 32
  secret : x.Derived prim (decode64 response.ephemeralPublicKeyBase64)

end PairingRecord

/-- What the log of a run says. -/
structure Ledger (log : List PairingRecord) (net : PairingNet) : Prop where
  computed : ∀ p ∈ net.computed, ∃ y ∈ log, y.Signed prim acq p.1 p.2
  answered : ∀ y ∈ log, ∀ request response, y.deed = .responded request response →
    y.Derived prim (decode64 request.ephemeralPublicKeyBase64)
  awaiting : ∀ Z i, (net.sessions Z i).m_state = .AwaitingResponse →
    ∃ z ∈ log, z.Asked prim Z i (net.sessions Z i)
  accepted : ∀ x ∈ log, ∀ response, x.deed = .accepted response →
    x.Accepted prim acq log response

variable {prim acq}
variable {log log' : List PairingRecord} {net : PairingNet} {call : PairingCall}
  {x y : PairingRecord} {s : PairingSession} {e : PairingEvent}

/-! ### One call -/

lemma accepted_mono {response : PairingResponse} (h : x.Accepted prim acq log response)
    (hlog : log ⊆ log') : x.Accepted prim acq log' response where
  sessionId := h.sessionId
  request := h.request.imp fun _ hz => ⟨hlog hz.1, hz.2⟩
  proof := h.proof.imp fun _ hy => ⟨hlog hy.1, hy.2⟩
  key := h.key
  secret := h.secret

/-- The session behind a call, and what it showed. -/
lemma record_of_mem (h : y ∈ ((pairingNet prim).step net call).2) :
    y.device = call.device ∧ y.object = call.object ∧
      y.session = ((PairingSession.machine prim).step
        (net.sessions call.device call.object) call.event).1 ∧
      y.deed ∈ ((PairingSession.machine prim).step
        (net.sessions call.device call.object) call.event).2 := by
  obtain ⟨deed, hdeed, rfl⟩ := List.mem_map.mp h
  exact ⟨rfl, rfl, rfl, hdeed⟩

/-- The request that `initiatePairing` returns. -/
lemma asked_of_requested {q : PairingRequest}
    (h : PairingDeed.requested q ∈ ((PairingSession.machine prim).step s e).2) :
    ∃ io peer ip, (∃ password, e = .initiatePairing io peer password ip ∧
        q = freshRequest prim io password peer ip) ∧
      ((PairingSession.machine prim).step s e).1.m_sessionId = io.uuid ∧
      ((PairingSession.machine prim).step s e).1.m_ephemeralKeyPair = freshKeyPair prim io := by
  obtain ⟨io, peer, password, ip, rfl, hrequest⟩ := exists_of_requested h
  obtain ⟨hinitiates, rfl⟩ := initiates_of_initiatePairing hrequest
  have hsession : ((PairingSession.machine prim).step s
      (.initiatePairing io peer password ip)).1 = _ :=
    (initiatePairing_of_initiates hinitiates).2
  exact ⟨io, peer, ip, ⟨password, rfl, rfl⟩, by rw [hsession], by rw [hsession]⟩

/-- The response that `handleIncomingRequest` returns. -/
lemma answered_of_responded {q : PairingRequest} {response : PairingResponse}
    (h : PairingDeed.responded q response ∈ ((PairingSession.machine prim).step s e).2) :
    ∃ io ip kdfKey secret, (∃ password, e = .handleIncomingRequest io q password ip) ∧
      response = freshResponse prim io q ip kdfKey (decode64 q.saltBase64) ∧
      prim.agree io.privateKey (decode64 q.ephemeralPublicKeyBase64) = some secret ∧
      ((PairingSession.machine prim).step s e).1.m_ephemeralKeyPair = freshKeyPair prim io ∧
      ((PairingSession.machine prim).step s e).1.m_result = some (requestResult q secret) := by
  obtain ⟨io, password, ip, rfl, hresponse⟩ := exists_of_responded h
  obtain ⟨kdfKey, secret, -, hresponds, rfl, hbehind⟩ := exists_of_handleIncomingRequest hresponse
  have hsession : ((PairingSession.machine prim).step s
      (.handleIncomingRequest io q password ip)).1 = _ := hbehind
  have hagree := (deriveSharedSecret_eq_some.mp hresponds.secret).2.2.2
  exact ⟨io, ip, kdfKey, secret, ⟨password, rfl⟩, rfl, hagree, by rw [hsession], by rw [hsession]⟩

/-- **Who signs.** A proof that a call shows is over its own id and its own public key. -/
lemma signed_of_mem (hcall : Attacked prim acq net call)
    (hy : y ∈ ((pairingNet prim).step net call).2) {bytes salt : Bytes}
    (h : y.deed.signed? = some (bytes, salt)) : y.Signed prim acq bytes salt := by
  obtain ⟨hdevice, -, hsession, hdeed⟩ := record_of_mem hy
  refine ⟨h, ?_⟩
  rw [hsession, hdevice]
  generalize hd : y.deed = deed at hdeed h
  cases deed with
  | requested q =>
      obtain ⟨io, peer, ip, ⟨password, he, rfl⟩, -, hkeys⟩ := asked_of_requested hdeed
      rw [Attacked, he] at hcall
      refine ⟨peer, io.now, io.privateKey, hkeys, ?_⟩
      rw [← hcall.1, ← (Prod.mk.inj (Option.some.inj h)).1, buildTranscriptMessage_freshRequest]
  | responded q response =>
      obtain ⟨io, ip, kdfKey, secret, ⟨password, he⟩, rfl, -, hkeys, -⟩ :=
        answered_of_responded hdeed
      rw [Attacked, he] at hcall
      refine ⟨q.senderDeviceId, io.later, io.privateKey, hkeys, ?_⟩
      rw [← hcall.1, ← (Prod.mk.inj (Option.some.inj h)).1, buildTranscriptMessage_freshResponse]
  | signal signal => cases h
  | accepted response => cases h

lemma derived_of_mem (hy : y ∈ ((pairingNet prim).step net call).2) {q : PairingRequest}
    {response : PairingResponse} (h : y.deed = .responded q response) :
    y.Derived prim (decode64 q.ephemeralPublicKeyBase64) := by
  obtain ⟨-, -, hsession, hdeed⟩ := record_of_mem hy
  rw [h] at hdeed
  obtain ⟨io, ip, kdfKey, secret, -, -, hagree, hkeys, hresult⟩ := answered_of_responded hdeed
  refine ⟨secret, ?_, ?_⟩
  · rw [hsession, hkeys]
    exact hagree
  · rw [hsession, hresult]
    rfl

/-- A session awaits a response as before, or has just asked for one. -/
lemma asked_of_awaiting (Z : Endpoint) (i : ℕ)
    (h : (((pairingNet prim).step net call).1.sessions Z i).m_state = .AwaitingResponse) :
    ((pairingNet prim).step net call).1.sessions Z i = net.sessions Z i ∨
      ∃ z ∈ ((pairingNet prim).step net call).2,
        z.Asked prim Z i (((pairingNet prim).step net call).1.sessions Z i) := by
  by_cases hZ : Z = call.device
  · subst hZ
    by_cases hi : i = call.object
    · subst hi
      have hbehind : ((pairingNet prim).step net call).1.sessions call.device call.object =
          ((PairingSession.machine prim).step
            (net.sessions call.device call.object) call.event).1 := by
        simp [pairingNet]
      rw [hbehind] at h ⊢
      rcases requested_of_awaiting h with hsame | ⟨q, hmem⟩
      · exact .inl hsame
      · right
        refine ⟨_, List.mem_map_of_mem hmem, rfl, rfl, q, rfl, ?_⟩
        obtain ⟨io, peer, ip, ⟨password, -, rfl⟩, hid, hkeys⟩ := asked_of_requested hmem
        rw [hid, hkeys]
        exact ⟨rfl, HandshakeRun.decode64_toBase64 _, rfl⟩
    · left
      simp [pairingNet, hi]
  · left
    simp [pairingNet, hZ]

/-- **What an accepted response was checked for.** -/
lemma concluded_of_accepted {response : PairingResponse}
    (h : PairingDeed.accepted response ∈ ((PairingSession.machine prim).step s e).2) :
    ∃ io password secret, e = .handleIncomingResponse io response password ∧
      Concludes prim io response password s secret ∧
      ((PairingSession.machine prim).step s e).1.m_sessionId = s.m_sessionId ∧
      ((PairingSession.machine prim).step s e).1.m_ephemeralKeyPair = s.m_ephemeralKeyPair ∧
      ((PairingSession.machine prim).step s e).1.m_result =
        some (responseResult response secret) := by
  obtain ⟨io, password, rfl, hok⟩ := exists_of_accepted h
  obtain ⟨secret, hconcludes⟩ := exists_of_handleIncomingResponse hok
  have hsession : ((PairingSession.machine prim).step s
      (.handleIncomingResponse io response password)).1 = _ :=
    (handleIncomingResponse_of_concludes hconcludes).2
  exact ⟨io, password, secret, rfl, hconcludes, by rw [hsession], by rw [hsession],
    by rw [hsession]⟩

/-! ### Runs -/

lemma PairingRecord.Asked.congr {z : PairingRecord} {device : Endpoint} {object : ℕ}
    {s s' : PairingSession} (h : z.Asked prim device object s)
    (hid : s'.m_sessionId = s.m_sessionId) (hkeys : s'.m_ephemeralKeyPair = s.m_ephemeralKeyPair) :
    z.Asked prim device object s' := by
  rw [PairingRecord.Asked, hid, hkeys]
  exact h

/-- A response that is accepted in a call. -/
lemma Ledger.accepts (h : Ledger prim acq log net) (hcall : Attacked prim acq net call)
    (hx : x ∈ ((pairingNet prim).step net call).2) {response : PairingResponse}
    (hdeed : x.deed = .accepted response) : x.Accepted prim acq log response := by
  obtain ⟨hdevice, hobject, hsession, hmem⟩ := record_of_mem hx
  rw [hdeed] at hmem
  obtain ⟨io, password, secret, he, hconcludes, hid, hkeys, hresult⟩ := concluded_of_accepted hmem
  obtain ⟨z, hz, hasked⟩ := h.awaiting _ _ hconcludes.state
  obtain ⟨kdfKey, hproof⟩ := hconcludes.proof
  obtain ⟨hkey, -, -, -, -, rfl, hmac⟩ := authenticate_eq_ok.mp hproof
  have hagree := (deriveSharedSecret_eq_some.mp hconcludes.secret).2.2.2
  rw [Attacked, he] at hcall
  obtain ⟨-, rfl, hunforged⟩ := hcall
  refine ⟨?_, ⟨z, hz, ?_⟩, h.computed _ (hunforged hmac), hkey, secret, ?_, ?_⟩
  · rw [hsession, hid]
    exact hconcludes.sessionId
  · rw [hdevice, hobject, hsession]
    exact hasked.congr hid hkeys
  · rw [hsession, hkeys]
    exact hagree
  · rw [hsession, hresult]
    rfl

/-- **Step lemma for the ledger.** -/
theorem Ledger.step (h : Ledger prim acq log net) (hcall : Attacked prim acq net call) :
    Ledger prim acq (log ++ ((pairingNet prim).step net call).2)
      ((pairingNet prim).step net call).1 where
  computed p hp := by
    rcases List.mem_append.mp hp with hp | hp
    · obtain ⟨y, hy, hsigned⟩ := h.computed p hp
      exact ⟨y, List.mem_append_left _ hy, hsigned⟩
    · obtain ⟨deed, hdeed, hsigned⟩ := List.mem_filterMap.mp hp
      have hmem := List.mem_map_of_mem (f := PairingRecord.mk call.device call.object
        ((PairingSession.machine prim).step
          (net.sessions call.device call.object) call.event).1) hdeed
      exact ⟨_, List.mem_append_right _ hmem, signed_of_mem hcall hmem hsigned⟩
  answered y hy q response hdeed := by
    rcases List.mem_append.mp hy with hy | hy
    · exact h.answered y hy q response hdeed
    · exact derived_of_mem hy hdeed
  awaiting Z i hstate := by
    rcases asked_of_awaiting Z i hstate with hsame | ⟨z, hz, hasked⟩
    · rw [hsame] at hstate ⊢
      obtain ⟨z, hz, hasked⟩ := h.awaiting Z i hstate
      exact ⟨z, List.mem_append_left _ hz, hasked⟩
    · exact ⟨z, List.mem_append_right _ hz, hasked⟩
  accepted x hx response hdeed := by
    refine accepted_mono ?_ (List.subset_append_left _ _)
    rcases List.mem_append.mp hx with hx | hx
    · exact h.accepted x hx response hdeed
    · exact h.accepts hcall hx hdeed

/-- **Run lemma for the ledger.** -/
theorem ledger_run {es : List PairingCall}
    (hrun : Run (pairingNet prim) (Attacked prim acq) {} es log net) : Ledger prim acq log net := by
  refine hrun.invariant_log (I := fun _ log net => Ledger prim acq log net) ?_
    fun _ _ _ _ h hcall => h.step hcall
  refine ⟨fun p hp => ?_, fun y hy => ?_, fun Z i hstate => ?_, fun x hx => ?_⟩
  · cases hp
  · cases hy
  · cases hstate
  · cases hx

/-- **What a paired initiator shares.** A proof of its peer's response was computed in a call
`y`, and its secret is that of its own private key, whose public key its request carried, and
the public key of `y`. A responder that answered a request with this key has the same secret.
The call was one of the peer's, unless the id of one device begins with that of the other. -/
theorem paired_initiator {es : List PairingCall}
    (hrun : Run (pairingNet prim) (Attacked prim acq) {} es log net) (hx : x ∈ log)
    {response : PairingResponse} (hdeed : x.deed = .accepted response) (hA : x.device = .A)
    (hpeer : response.senderDeviceId = acq.deviceId .B) :
    response.sessionId = x.session.m_sessionId ∧
      (∃ z ∈ log, z.Asked prim .A x.object x.session) ∧
      ∃ y ∈ log,
        y.Signed prim acq response.buildTranscriptMessage (decode64 response.saltBase64) ∧
        decode64 response.ephemeralPublicKeyBase64 = y.session.m_ephemeralKeyPair.publicKey ∧
        x.Derived prim y.session.m_ephemeralKeyPair.publicKey ∧
        (∀ request response', y.deed = .responded request response' →
          decode64 request.ephemeralPublicKeyBase64 = x.session.m_ephemeralKeyPair.publicKey →
            y.session.m_result.map (·.sharedSecret) = x.session.m_result.map (·.sharedSecret)) ∧
        (¬ QString.toUtf8 (acq.deviceId .A) <+: QString.toUtf8 (acq.deviceId .B) →
          ¬ QString.toUtf8 (acq.deviceId .B) <+: QString.toUtf8 (acq.deviceId .A) →
            y.device = .B) := by
  have hledger := ledger_run hrun
  have h := hledger.accepted x hx response hdeed
  obtain ⟨z, hz, hasked⟩ := h.request
  obtain ⟨y, hy, hsigned⟩ := h.proof
  obtain ⟨receiver, time, privateKey, hkeys, hbytes⟩ := hsigned.2
  rw [PairingResponse.buildTranscriptMessage] at hbytes
  have hdecode : (fromBase64 (QString.toUtf8 (toBase64 (prim.publicKey privateKey)))).length =
      32 := by
    rw [fromBase64_toBase64, prim.length_publicKey]
  obtain ⟨htext, hhead⟩ := key_of_transcript_eq hdecode h.key hbytes
  have hkey : decode64 response.ephemeralPublicKeyBase64 =
      y.session.m_ephemeralKeyPair.publicKey := by
    rw [htext, HandshakeRun.decode64_toBase64, hkeys]
  refine ⟨h.sessionId, ⟨z, hz, hA ▸ hasked⟩, y, hy, hsigned, hkey, hkey ▸ h.secret, ?_, ?_⟩
  · intro request response' hresponded hsame
    obtain ⟨secret, hagree, hresult⟩ := hledger.answered y hy request response' hresponded
    obtain ⟨secret', hagree', hresult'⟩ := h.secret
    obtain ⟨-, -, -, -, -, -, hown⟩ := hasked
    -- the two agreements commute
    rw [hsame, hown, hkeys] at hagree
    rw [hkey, hkeys, prim.agree_comm] at hagree'
    rw [hresult, hresult', ← hagree, ← hagree']
  · intro hAB hBA
    cases hdevice : y.device with
    | B => rfl
    | A =>
        rw [hdevice, hpeer, transcriptHead, transcriptHead, List.append_assoc,
          List.append_assoc] at hhead
        rcases List.prefix_or_prefix_of_prefix (List.prefix_append _ _)
          (hhead ▸ List.prefix_append _ _) with hprefix | hprefix
        · exact absurd hprefix hAB
        · exact absurd hprefix hBA

/-! ### A request as a response -/

namespace PairingTest

/-- Alice and Bob of the test. -/
def acquaintance : Acquaintance where
  deviceId
    | .A => aliceId
    | .B => bobId
  password

/-- What surrounds a request of Bob's own. -/
def ioBob : PairingIo where
  privateKey := bobPrivate 0
  salt := salt 1
  deviceId := bobId
  now := 1760000001
  uuid := "5d1c6a0e-93b4-4f0d-8a77-2f8a5b1f9c33"

/-- Bob's request to Alice, in the form of a response to hers. -/
def turnedRequest : PairingResponse :=
  let request := freshRequest recording.primitives ioBob password aliceId "10.77.0.3"
  { sessionId := testRun.ioInitiate.uuid
    senderDeviceId := request.senderDeviceId
    receiverDeviceId := request.receiverDeviceId
    timestamp := request.timestamp
    saltBase64 := request.saltBase64
    ephemeralPublicKeyBase64 := request.ephemeralPublicKeyBase64
    proposedVirtualIp := request.proposedVirtualIp
    authProofBase64 := request.authProofBase64
    status := "accepted" }

/-- Alice and Bob ask each other, and Alice gets Bob's request as the response to hers. -/
def crossedCalls : List PairingCall :=
  [⟨.A, 0, .initiatePairing testRun.ioInitiate bobId password "10.77.0.2"⟩,
    ⟨.B, 0, .initiatePairing ioBob aliceId password "10.77.0.3"⟩,
    ⟨.A, 0, .handleIncomingResponse testRun.ioConclude turnedRequest password⟩]

lemma run_crossedCalls : Run (pairingNet recording.primitives)
    (Attacked recording.primitives acquaintance) {} crossedCalls
    ((pairingNet recording.primitives).exec {} crossedCalls).1
    ((pairingNet recording.primitives).exec {} crossedCalls).2 := by
  refine Run.exec ⟨⟨rfl, rfl⟩, ⟨rfl, rfl⟩, ⟨rfl, rfl, fun _ => ?_⟩, trivial⟩
  decide +kernel

lemma accepted_crossedCalls :
    ∃ x ∈ ((pairingNet recording.primitives).exec {} crossedCalls).1,
      x.device = .A ∧ x.deed = .accepted turnedRequest := by
  have hmem : (Endpoint.A, PairingDeed.accepted turnedRequest) ∈
      ((pairingNet recording.primitives).exec {} crossedCalls).1.map fun x =>
        (x.device, x.deed) := by
    decide +kernel
  obtain ⟨x, hx, heq⟩ := List.mem_map.mp hmem
  exact ⟨x, hx, congrArg Prod.fst heq, congrArg Prod.snd heq⟩

theorem paired_initiator_crossedCalls :
    ∃ x ∈ ((pairingNet recording.primitives).exec {} crossedCalls).1,
      x.deed = .accepted turnedRequest ∧
      ∃ y ∈ ((pairingNet recording.primitives).exec {} crossedCalls).1,
        y.device = .B ∧ x.Derived recording.primitives y.session.m_ephemeralKeyPair.publicKey := by
  obtain ⟨x, hx, hA, hdeed⟩ := accepted_crossedCalls
  obtain ⟨-, -, y, hy, -, -, hderived, -, hB⟩ :=
    paired_initiator run_crossedCalls hx hdeed hA (by decide +kernel)
  exact ⟨x, hx, hdeed, y, hy, hB (by decide +kernel) (by decide +kernel), hderived⟩

/-- **Paired with a peer that answered no request.** The proof of a request serves as that of
a response. -/
theorem paired_without_request :
    ¬ ∀ es log net, Run (pairingNet recording.primitives)
      (Attacked recording.primitives acquaintance) {} es log net →
        ∀ x ∈ log, ∀ response, x.device = .A → x.deed = .accepted response →
          response.senderDeviceId = acquaintance.deviceId .B →
            ∃ y ∈ log, y.device = .B ∧ ∃ request response', y.deed = .responded request response' ∧
              decode64 request.ephemeralPublicKeyBase64 =
                x.session.m_ephemeralKeyPair.publicKey ∧
              y.session.m_result.map (·.sharedSecret) = x.session.m_result.map (·.sharedSecret) := by
  intro h
  obtain ⟨x, hx, hA, hdeed⟩ := accepted_crossedCalls
  obtain ⟨y, hy, -, request, response', hresponded, -⟩ :=
    h _ _ _ run_crossedCalls x hx turnedRequest hA hdeed (by decide +kernel)
  have hnone : (((pairingNet recording.primitives).exec {} crossedCalls).1.map (·.deed)).all
      (fun deed => match deed with
        | .responded _ _ => false
        | _ => true) = true := by
    decide +kernel
  have hy' := List.all_eq_true.mp hnone _ (List.mem_map_of_mem hy)
  rw [hresponded] at hy'
  cases hy'

end PairingTest

end MeckChat.Crypto
