import MeckChat.Crypto.Handshake

/-!
What the result of a pairing owes to the authenticated bytes.

* `BoundTo` says what a result keeps of the message that was signed: the public key
  always, the id of the sender where it can be told from what follows it. The virtual
  address is not among the authenticated bytes.
* `boundTo_of_transcript_eq` derives it for a message with the signed bytes.
* `tamper_evident` puts it together for both handlers; `altered_fields_stored` shows a
  virtual address that is altered and a border between two ids that has moved.
-/

namespace MeckChat.Crypto

open Protocol QByteArray CryptoProvider PairingTurn

/-- The proof of a message verifies for no other bytes than those it was computed for. -/
def IdealFor (prim : Primitives) (password : String) (computed transcript salt proof : Bytes) :
    Prop :=
  prim.hmac (prim.kdf (QString.toUtf8 password) salt) transcript = proof → transcript = computed

/-- What the result of a message, addressed to `receiver` and dated `time`, keeps of the
signed one. -/
structure BoundTo (result : PairingResult) (receiver : String) (time : ℤ)
    (signedSender signedReceiver : String) (signedTime : ℤ) (signedKey : String) : Prop where
  key : result.peerPublicKeyBase64 = signedKey
  head : transcriptHead result.peerDeviceId receiver time =
    transcriptHead signedSender signedReceiver signedTime
  /-- The clock of an honest sender is past 1970. -/
  sender : signedReceiver = receiver →
    (0 < signedTime ∧ Delimits receiver) ∨ (number time).length = (number signedTime).length →
      result.peerDeviceId = signedSender

variable {prim : Primitives}

lemma pos_of_isTimestampValid {timestamp now clock : ℤ}
    (h : isTimestampValid timestamp now clock = true) : 0 < timestamp := by
  by_contra hle
  rw [isTimestampValid, if_pos (not_lt.mp hle)] at h
  cases h

lemma boundTo_of_transcript_eq {result : PairingResult}
    {receiver signedSender signedReceiver : String}
    {time signedTime : ℤ} {publicKey : Bytes} (htime : 0 < time)
    (hkey : (decode64 result.peerPublicKeyBase64).length = 32) (hpublic : publicKey.length = 32)
    (h : transcript result.peerDeviceId receiver time result.peerPublicKeyBase64 =
      transcript signedSender signedReceiver signedTime (toBase64 publicKey)) :
    BoundTo result receiver time signedSender signedReceiver signedTime (toBase64 publicKey) := by
  have hdecode : (fromBase64 (QString.toUtf8 (toBase64 publicKey))).length = 32 := by
    rw [fromBase64_toBase64, hpublic]
  obtain ⟨hkeys, hhead⟩ := key_of_transcript_eq hdecode hkey h
  refine ⟨hkeys, hhead, fun hreceiver hdelimits => ?_⟩
  subst hreceiver
  exact sender_of_transcript_eq htime hdelimits hhead

/-- **Results are bound to what was signed.** The copy of an honest request or
response that is accepted gives a result with the public key of the original, and with
its sender where the original is for the same receiver and the ids can be told from the
timestamps; the virtual address is that of the copy. -/
theorem tamper_evident (prim : Primitives) (password : String) :
    (∀ (io io' : PairingIo) (peer ip ip' : String) (t t' : PairingTurn)
        (original copy : PairingRequest) (response : PairingResponse),
      (initiatePairing prim io peer password ip t).2 = some original →
      IdealFor prim password original.buildTranscriptMessage copy.buildTranscriptMessage
        (decode64 copy.saltBase64) (decode64 copy.authProofBase64) →
      (handleIncomingRequest prim io' copy password ip' t').2 = some response →
      ∃ result,
        (handleIncomingRequest prim io' copy password ip' t').1.session.m_result = some result ∧
        BoundTo result io'.deviceId copy.timestamp original.senderDeviceId
          original.receiverDeviceId original.timestamp original.ephemeralPublicKeyBase64 ∧
        result.peerVirtualIp = copy.proposedVirtualIp) ∧
    (∀ (io io' : PairingIo) (request : PairingRequest) (ip : String) (t t' : PairingTurn)
        (original copy : PairingResponse),
      (handleIncomingRequest prim io request password ip t).2 = some original →
      IdealFor prim password original.buildTranscriptMessage copy.buildTranscriptMessage
        (decode64 copy.saltBase64) (decode64 copy.authProofBase64) →
      (handleIncomingResponse prim io' copy password t').2 = true →
      ∃ result,
        (handleIncomingResponse prim io' copy password t').1.session.m_result = some result ∧
        BoundTo result io'.deviceId copy.timestamp original.senderDeviceId
          original.receiverDeviceId original.timestamp original.ephemeralPublicKeyBase64 ∧
        result.peerDeviceId = t'.session.m_peerDeviceId ∧
        result.peerVirtualIp = copy.proposedVirtualIp) := by
  constructor
  · intro io io' peer ip ip' t t' original copy response horiginal hideal haccepted
    obtain ⟨-, rfl⟩ := initiates_of_initiatePairing horiginal
    obtain ⟨kdfKey, secret, hverifies, -, -, hsession⟩ := exists_of_handleIncomingRequest haccepted
    obtain ⟨hkey, -, -, -, -, rfl, hproof⟩ := authenticate_eq_ok.mp hverifies.proof
    refine ⟨requestResult copy secret, by rw [hsession], ?_, rfl⟩
    have hbytes := hideal hproof
    rw [PairingRequest.buildTranscriptMessage, hverifies.receiver] at hbytes
    exact boundTo_of_transcript_eq (pos_of_isTimestampValid hverifies.valid) hkey
      (prim.length_publicKey _) hbytes
  · intro io io' request ip t t' original copy horiginal hideal haccepted
    obtain ⟨_, _, -, -, rfl, -⟩ := exists_of_handleIncomingRequest horiginal
    obtain ⟨secret, hconcludes⟩ := exists_of_handleIncomingResponse haccepted
    obtain ⟨kdfKey, hauthentic⟩ := hconcludes.proof
    obtain ⟨hkey, -, -, -, -, rfl, hproof⟩ := authenticate_eq_ok.mp hauthentic
    refine ⟨responseResult copy secret, ?_, ?_, hconcludes.sender, rfl⟩
    · rw [(handleIncomingResponse_of_concludes hconcludes).2]
    · have hbytes := hideal hproof
      rw [PairingResponse.buildTranscriptMessage, hconcludes.receiver] at hbytes
      exact boundTo_of_transcript_eq (pos_of_isTimestampValid hconcludes.valid) hkey
        (prim.length_publicKey _) hbytes

namespace PairingTest

/-- The request of the test with another virtual address. -/
def alteredRequest : PairingRequest :=
  { testRun.request recording.primitives with proposedVirtualIp := "10.77.0.66" }

/-- The response of the test with another virtual address. -/
def alteredResponse : PairingResponse :=
  { testRun.response recording.primitives with proposedVirtualIp := "10.77.0.66" }

lemma exists_secret : ∃ secret,
    recording.primitives.agree testRun.ioRespond.privateKey
      (recording.primitives.publicKey testRun.ioInitiate.privateKey) = some secret :=
  honest_testRun.exists_agree

/-- Bob accepts the altered request. -/
lemma accepts_alteredRequest : ∃ response secret,
    (handleIncomingRequest recording.primitives testRun.ioRespond alteredRequest password
        testRun.responderIp ⟨testRun.responder, []⟩).2 = some response ∧
      (handleIncomingRequest recording.primitives testRun.ioRespond alteredRequest password
        testRun.responderIp ⟨testRun.responder, []⟩).1.session.m_result =
          some (requestResult alteredRequest secret) := by
  obtain ⟨secret, hsecret⟩ := exists_secret
  have hv := honest_testRun.verifies_received
  have hverifies : Verifies recording.primitives testRun.ioRespond alteredRequest password
      testRun.responder.m_replayCache (testRun.kdfKey recording.primitives) :=
    ⟨hv.receiver, hv.valid, hv.fresh, hv.proof⟩
  have hkey : decode64 alteredRequest.ephemeralPublicKeyBase64 =
      recording.primitives.publicKey testRun.ioInitiate.privateKey :=
    HandshakeRun.decode64_toBase64 _
  have hresponds := honest_testRun.responds hsecret
  have hne : testRun.kdfKey recording.primitives ≠ [] := kdf_ne_nil _ _
  rw [handleIncomingRequest_of_verifies (t := ⟨testRun.responder, []⟩) hverifies, hkey,
    (acceptRequest_of_responds hne hresponds).1, (acceptRequest_of_responds hne hresponds).2]
  exact ⟨_, secret, rfl, rfl⟩

/-- Alice accepts the altered response. -/
lemma accepts_alteredResponse :
    (handleIncomingResponse recording.primitives testRun.ioConclude alteredResponse password
      (testRun.initiated recording.primitives).1).2 = true := by
  obtain ⟨secret, hsecret⟩ := exists_secret
  have hc := honest_testRun.concludes_answered hsecret
  have hconcludes : Concludes recording.primitives testRun.ioConclude alteredResponse password
      (testRun.initiated recording.primitives).1.session secret :=
    ⟨hc.state, hc.sessionId, hc.receiver, hc.sender, hc.status, hc.valid, hc.fresh, hc.proof,
      hc.secret⟩
  exact (handleIncomingResponse_of_concludes hconcludes).1

/-- Bob accepts the request itself. -/
lemma responded_eq {secret : Bytes}
    (hsecret : recording.primitives.agree testRun.ioRespond.privateKey
      (recording.primitives.publicKey testRun.ioInitiate.privateKey) = some secret) :
    (handleIncomingRequest recording.primitives testRun.ioRespond
        (testRun.request recording.primitives) password testRun.responderIp
        ⟨testRun.responder, []⟩).2 = some (testRun.response recording.primitives) ∧
      (handleIncomingRequest recording.primitives testRun.ioRespond
        (testRun.request recording.primitives) password testRun.responderIp
        ⟨testRun.responder, []⟩).1.session.m_result =
          some (requestResult (testRun.request recording.primitives) secret) := by
  have hpassword : testRun.password = password := rfl
  have h := honest_testRun.responded_eq hsecret
  rw [HandshakeRun.responded, honest_testRun.received_eq, hpassword] at h
  simp only at h
  exact ⟨h.1, h.2.2⟩

lemma initiated_eq : (testRun.initiated recording.primitives).2 =
    some (testRun.request recording.primitives) :=
  (initiatePairing_of_initiates honest_testRun.initiates).1

/-- The altered messages are accepted, with the keys and senders of the originals. -/
theorem tamper_evident_altered :
    (∃ result,
      (handleIncomingRequest recording.primitives testRun.ioRespond alteredRequest password
        testRun.responderIp ⟨testRun.responder, []⟩).1.session.m_result = some result ∧
      BoundTo result bobId 1760000000 aliceId bobId 1760000000
        (testRun.request recording.primitives).ephemeralPublicKeyBase64 ∧
      result.peerVirtualIp = "10.77.0.66") ∧
    ∃ result,
      (handleIncomingResponse recording.primitives testRun.ioConclude alteredResponse password
        (testRun.initiated recording.primitives).1).1.session.m_result = some result ∧
      BoundTo result aliceId 1760000001 bobId aliceId 1760000001
        (testRun.response recording.primitives).ephemeralPublicKeyBase64 ∧
      result.peerDeviceId = (testRun.initiated recording.primitives).1.session.m_peerDeviceId ∧
      result.peerVirtualIp = "10.77.0.66" := by
  obtain ⟨response, -, haccepted, -⟩ := accepts_alteredRequest
  obtain ⟨secret, hsecret⟩ := exists_secret
  exact ⟨(tamper_evident recording.primitives password).1 _ _ _ _ _ _ _ _ _ _ initiated_eq
      (fun _ => rfl) haccepted,
    (tamper_evident recording.primitives password).2 _ _ _ _ _ _ _ _ (responded_eq hsecret).1
      (fun _ => rfl) accepts_alteredResponse⟩

/-- The surroundings of a device whose id is that of Alice without its last letter. -/
def movedIo : PairingIo := { testRun.ioInitiate with deviceId := "mc_alice_unit_tes" }

/-- Its request to a device whose id is that letter and the id of Bob. -/
def movedRequest : PairingRequest :=
  freshRequest recording.primitives movedIo password "tmc_bob_unit_test" testRun.initiatorIp

lemma initiates_moved : Initiates movedIo "tmc_bob_unit_test" password where
  deviceId := by decide
  peer := by decide
  password := by decide
  keygen := rfl
  privateKey := honest_testRun.initiatorKey
  salt := honest_testRun.salt
  kdf := rfl
  hmac := rfl

/-- The letter moves from one id to the other, and the bytes stay. -/
lemma buildTranscriptMessage_moved :
    movedRequest.buildTranscriptMessage =
      (testRun.request recording.primitives).buildTranscriptMessage := by
  have hids : QString.toUtf8 "mc_alice_unit_tes" ++ QString.toUtf8 "tmc_bob_unit_test" =
      QString.toUtf8 aliceId ++ QString.toUtf8 bobId := by
    decide +kernel
  change QString.toUtf8 "mc_alice_unit_tes" ++ QString.toUtf8 "tmc_bob_unit_test" ++ _ ++ _ =
    QString.toUtf8 aliceId ++ QString.toUtf8 bobId ++ _ ++ _
  rw [hids]
  rfl

/-- With the ids of Alice and Bob in it, it is the request of Alice. -/
lemma moved_eq :
    { movedRequest with senderDeviceId := aliceId, receiverDeviceId := bobId } =
      testRun.request recording.primitives := by
  have hbytes := buildTranscriptMessage_moved
  rw [movedRequest, buildTranscriptMessage_freshRequest] at hbytes
  rw [movedRequest, freshRequest, hbytes]
  rfl

/-- **Neither the virtual address nor the border between the ids is authenticated.** Bob
stores the address of the altered request, and he takes a request that another device
sent to another one for a request of Alice. -/
theorem altered_fields_stored :
    (∃ original response result,
      (testRun.initiated recording.primitives).2 = some original ∧
      IdealFor recording.primitives password original.buildTranscriptMessage
        alteredRequest.buildTranscriptMessage (decode64 alteredRequest.saltBase64)
        (decode64 alteredRequest.authProofBase64) ∧
      (handleIncomingRequest recording.primitives testRun.ioRespond alteredRequest password
        testRun.responderIp ⟨testRun.responder, []⟩).2 = some response ∧
      (handleIncomingRequest recording.primitives testRun.ioRespond alteredRequest password
        testRun.responderIp ⟨testRun.responder, []⟩).1.session.m_result = some result ∧
      result.peerVirtualIp ≠ original.proposedVirtualIp) ∧
    ∃ original copy response result,
      (initiatePairing recording.primitives movedIo "tmc_bob_unit_test" password
        testRun.initiatorIp ⟨{}, []⟩).2 = some original ∧
      copy = { original with senderDeviceId := aliceId, receiverDeviceId := bobId } ∧
      IdealFor recording.primitives password original.buildTranscriptMessage
        copy.buildTranscriptMessage (decode64 copy.saltBase64) (decode64 copy.authProofBase64) ∧
      (handleIncomingRequest recording.primitives testRun.ioRespond copy password
        testRun.responderIp ⟨testRun.responder, []⟩).2 = some response ∧
      (handleIncomingRequest recording.primitives testRun.ioRespond copy password
        testRun.responderIp ⟨testRun.responder, []⟩).1.session.m_result = some result ∧
      result.peerDeviceId ≠ original.senderDeviceId := by
  constructor
  · obtain ⟨response, secret, haccepted, hresult⟩ := accepts_alteredRequest
    refine ⟨_, response, _, initiated_eq, fun _ => rfl, haccepted, hresult, ?_⟩
    change "10.77.0.66" ≠ "10.77.0.2"
    decide
  · obtain ⟨secret, hsecret⟩ := exists_secret
    obtain ⟨haccepted, hresult⟩ := responded_eq hsecret
    refine ⟨movedRequest, _, _, _, (initiatePairing_of_initiates initiates_moved).1,
      moved_eq.symm, fun _ => buildTranscriptMessage_moved.symm, haccepted, hresult, ?_⟩
    change aliceId ≠ "mc_alice_unit_tes"
    decide

end PairingTest

end MeckChat.Crypto
