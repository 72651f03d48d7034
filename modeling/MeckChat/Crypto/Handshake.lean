import MeckChat.Crypto.PairingSteps
import MeckChat.Crypto.Recording

/-!
The handshake of two honest devices.

* `HandshakeRun` is the run of three calls: `initiatePairing` at one device,
  `handleIncomingRequest` at the other, `handleIncomingResponse` at the first, with
  the messages as JSON in between. `HandshakeRun.Honest` says what a run without
  disturbance is.
* `verifies_received` and `concludes_answered`: the request and the response pass the
  checks of their receivers.
* `honest_handshake` puts them together: both devices are paired with each other, and
  a responder with another password refuses.
-/

namespace MeckChat.Crypto

open Protocol QByteArray CryptoProvider PairingTurn

/-- No session of this id and no transcript of this hash was seen. -/
def ReplayProtectionCache.Lacks (c : ReplayProtectionCache) (sessionId : String)
    (transcriptHash : Bytes) : Prop :=
  c.m_seenSessions.value? sessionId = none ∧
    ∀ k entry, c.m_seenSessions.value? k = some entry → entry.transcriptHash ≠ transcriptHash

lemma ReplayProtectionCache.Lacks.isReplayed {c : ReplayProtectionCache} {sessionId : String}
    {transcriptHash : Bytes} {timestamp now clock : ℤ} (h : c.Lacks sessionId transcriptHash)
    (hid : sessionId ≠ "") (hhash : transcriptHash ≠ [])
    (hvalid : isTimestampValid timestamp now clock = true) :
    (c.isReplayed sessionId transcriptHash timestamp now clock).1 = false := by
  rw [isReplayed_eq_false]
  refine ⟨hid, hhash, hvalid, ?_, fun k entry hk => h.2 k entry (value?_of_pruneExpired hk)⟩
  rw [value?_pruneExpired, h.1]
  rfl

lemma isTimestampValid_of_near {timestamp now : ℤ} (clock : ℤ) (ht : 0 < timestamp) (hnow : 0 < now)
    (hnear : (now - timestamp).natAbs ≤ REPLAY_WINDOW_SECONDS) :
    isTimestampValid timestamp now clock = true := by
  rw [isTimestampValid, if_neg (not_le.mpr ht), effectiveTime, if_pos hnow]
  exact decide_eq_true hnear

/-- A handshake: the sessions of both devices, the surroundings of the three calls,
the virtual addresses that are passed, and the clock where the messages are written. -/
structure HandshakeRun where
  password : String
  initiator : PairingSession
  responder : PairingSession
  ioInitiate : PairingIo
  ioRespond : PairingIo
  ioConclude : PairingIo
  initiatorIp : String
  responderIp : String
  requestedAt : ℤ
  respondedAt : ℤ

namespace HandshakeRun

variable (prim : Primitives) (r : HandshakeRun)

/-- The virtual address that the initiator proposes. -/
def proposedIp : String := if r.initiatorIp = "" then r.ioInitiate.virtualIp else r.initiatorIp

/-- The virtual address that the responder proposes. -/
def answeredIp : String := if r.responderIp = "" then r.ioRespond.virtualIp else r.responderIp

/-- The first call. -/
def initiated : PairingTurn × Option PairingRequest :=
  initiatePairing prim r.ioInitiate r.ioRespond.deviceId r.password r.initiatorIp ⟨r.initiator, []⟩

/-- The request as the responder reads it. -/
def received : Option PairingRequest :=
  (r.initiated prim).2.bind fun request => PairingRequest.fromJson (request.toJson r.requestedAt)

/-- The second call, with the password of the responder. -/
def responded (password : String) : PairingTurn × Option PairingResponse :=
  match r.received prim with
  | some request =>
      handleIncomingRequest prim r.ioRespond request password r.responderIp ⟨r.responder, []⟩
  | none => (⟨r.responder, []⟩, none)

/-- The response as the initiator reads it. -/
def answered : Option PairingResponse :=
  (r.responded prim r.password).2.bind fun response =>
    PairingResponse.fromJson (response.toJson r.respondedAt)

/-- The third call. -/
def concluded : PairingTurn × Bool :=
  match r.answered prim with
  | some response =>
      handleIncomingResponse prim r.ioConclude response r.password (r.initiated prim).1
  | none => ((r.initiated prim).1, false)

/-- The request of the run. -/
def request : PairingRequest :=
  freshRequest prim r.ioInitiate r.password r.ioRespond.deviceId r.initiatorIp

/-- The key that both derive. -/
def kdfKey : Bytes := prim.kdf (QString.toUtf8 r.password) r.ioInitiate.salt

/-- The response of the run. -/
def response : PairingResponse :=
  freshResponse prim r.ioRespond (r.request prim) r.responderIp (r.kdfKey prim) r.ioInitiate.salt

/-- The cryptographic calls succeed. -/
structure Succeeds (io : PairingIo) : Prop where
  keygen : io.keygenOk = true
  kdf : io.kdfOk = true
  hmac : io.hmacOk = true
  responseHmac : io.responseHmacOk = true
  agree : io.agreeOk = true

/-- A run without disturbance: everything is there and fresh, the calls succeed, and
each message arrives within the window of its receiver. -/
structure Honest (prim : Primitives) (r : HandshakeRun) : Prop where
  password : r.password ≠ ""
  initiatorId : r.ioInitiate.deviceId ≠ ""
  responderId : r.ioRespond.deviceId ≠ ""
  sameInitiator : r.ioConclude.deviceId = r.ioInitiate.deviceId
  proposedIp : r.proposedIp ≠ ""
  answeredIp : r.answeredIp ≠ ""
  sessionId : r.ioInitiate.uuid ≠ ""
  salt : r.ioInitiate.salt.length = 16
  initiatorKey : r.ioInitiate.privateKey.length = 32
  responderKey : r.ioRespond.privateKey.length = 32
  freshKeys : prim.publicKey r.ioInitiate.privateKey ≠ prim.publicKey r.ioRespond.privateKey
  initiateSucceeds : Succeeds r.ioInitiate
  respondSucceeds : Succeeds r.ioRespond
  concludeSucceeds : Succeeds r.ioConclude
  agreement :
    (prim.agree r.ioRespond.privateKey (prim.publicKey r.ioInitiate.privateKey)).isSome = true
  initiateClock : 0 < r.ioInitiate.now
  respondClock : 0 < r.ioRespond.now
  respondLater : 0 < r.ioRespond.later
  concludeClock : 0 < r.ioConclude.now
  requestInTime : (r.ioRespond.now - r.ioInitiate.now).natAbs ≤ REPLAY_WINDOW_SECONDS
  responseInTime : (r.ioConclude.now - r.ioRespond.later).natAbs ≤ REPLAY_WINDOW_SECONDS
  responderCache : r.responder.m_replayCache.Lacks r.ioInitiate.uuid
    (prim.sha256 (r.request prim).buildTranscriptMessage)
  initiatorCache : r.initiator.m_replayCache.Lacks (r.ioInitiate.uuid ++ "_resp")
    (prim.sha256 (r.response prim).buildTranscriptMessage)
  /-- SHA-256 tells the two transcripts apart. -/
  collision : prim.sha256 (r.request prim).buildTranscriptMessage =
      prim.sha256 (r.response prim).buildTranscriptMessage →
    (r.request prim).buildTranscriptMessage = (r.response prim).buildTranscriptMessage

variable {prim r}

lemma decode64_toBase64 (bs : Bytes) : decode64 (toBase64 bs) = bs := fromBase64_toBase64 bs

lemma length_ne_zero {bs : Bytes} {n : ℕ} (h : bs.length = n + 1) : bs ≠ [] := by
  rintro rfl
  cases h

/-! ### The request -/

lemma Honest.initiates (h : Honest prim r) :
    Initiates r.ioInitiate r.ioRespond.deviceId r.password :=
  ⟨h.initiatorId, h.responderId, h.password, h.initiateSucceeds.keygen, h.initiatorKey, h.salt,
    h.initiateSucceeds.kdf, h.initiateSucceeds.hmac⟩

lemma Honest.received_eq (h : Honest prim r) : r.received prim = some (r.request prim) := by
  rw [received, initiated, (initiatePairing_of_initiates h.initiates).1, Option.bind_some]
  exact PairingRequest.fromJson_toJson r.requestedAt h.sessionId h.initiatorId h.responderId
    (toBase64_ne_empty (length_ne_zero h.salt))
    (toBase64_ne_empty (length_ne_zero (prim.length_publicKey _))) h.proposedIp
    (toBase64_ne_empty (length_ne_zero (prim.length_hmac _ _))) h.initiateClock

/-- **The request passes the checks of the responder.** -/
lemma Honest.verifies_received (h : Honest prim r) :
    Verifies prim r.ioRespond (r.request prim) r.password r.responder.m_replayCache
      (r.kdfKey prim) := by
  have hvalid := isTimestampValid_of_near r.ioRespond.again h.initiateClock
    h.respondClock h.requestInTime
  refine ⟨rfl, hvalid, h.responderCache.isReplayed h.sessionId (prim.sha256_ne_nil _) hvalid, ?_⟩
  rw [authenticate_eq_ok, request, freshRequest, decode64_toBase64, decode64_toBase64,
    decode64_toBase64]
  have hsalt : 8 ≤ r.ioInitiate.salt.length := by
    have := h.salt
    omega
  exact ⟨prim.length_publicKey _, hsalt, h.password, h.respondSucceeds.kdf,
    h.respondSucceeds.hmac, rfl, rfl⟩

/-- **Another password is refused**, where it leads to another key and HMAC tells the
keys apart. -/
lemma Honest.refuses {password : String} (h : Honest prim r) (hpassword : password ≠ "")
    (hne : prim.kdf (QString.toUtf8 password) r.ioInitiate.salt ≠ r.kdfKey prim)
    (hideal : prim.hmac (prim.kdf (QString.toUtf8 password) r.ioInitiate.salt)
        (r.request prim).buildTranscriptMessage =
          prim.hmac (r.kdfKey prim) (r.request prim).buildTranscriptMessage →
      prim.kdf (QString.toUtf8 password) r.ioInitiate.salt = r.kdfKey prim) :
    (r.responded prim password).2 = none ∧
      (r.responded prim password).1.session.m_state = .Failed ∧
      (r.responded prim password).1.session.m_lastError = .AuthFailed := by
  have hv := h.verifies_received
  have hreceiver : (r.request prim).receiverDeviceId = r.ioRespond.deviceId := rfl
  have hcache :
      ((⟨r.responder, []⟩ : PairingTurn).reset.setState .Verifying).session.m_replayCache =
      r.responder.m_replayCache := by
    rw [session_setState, session_reset]
  have hsalt : 8 ≤ r.ioInitiate.salt.length := by
    have := h.salt
    omega
  have hmismatch : authenticate prim r.ioRespond.toCryptoIo requestTexts password
      (r.request prim).buildTranscriptMessage
      (decode64 (r.request prim).ephemeralPublicKeyBase64) (decode64 (r.request prim).saltBase64)
      (decode64 (r.request prim).authProofBase64) =
        .error (.AuthFailed, requestTexts.mismatch) := by
    rw [request, freshRequest, decode64_toBase64, decode64_toBase64, decode64_toBase64]
    exact authenticate_mismatch (prim.length_publicKey _) hsalt (prim.length_hmac _ _) hpassword
      h.respondSucceeds.kdf h.respondSucceeds.hmac fun hproof => hne (hideal hproof)
  rw [responded, h.received_eq]
  simp only [handleIncomingRequest, hreceiver, ne_eq, not_true_eq_false, if_false, hv.valid,
    Bool.not_true, Bool.false_eq_true, hcache, hv.fresh, hmismatch, session_setFailed]
  exact ⟨trivial, trivial, trivial⟩

/-! ### The response -/

lemma Honest.exists_agree (h : Honest prim r) :
    ∃ secret,
      prim.agree r.ioRespond.privateKey (prim.publicKey r.ioInitiate.privateKey) = some secret :=
  Option.isSome_iff_exists.mp h.agreement

lemma Honest.responds {secret : Bytes} (h : Honest prim r)
    (hsecret : prim.agree r.ioRespond.privateKey (prim.publicKey r.ioInitiate.privateKey) =
      some secret) :
    Responds prim r.ioRespond (prim.publicKey r.ioInitiate.privateKey) secret :=
  ⟨h.respondSucceeds.keygen, h.responderKey,
    deriveSharedSecret_eq_some.mpr
      ⟨h.responderKey, prim.length_publicKey _, h.respondSucceeds.agree, hsecret⟩,
    h.respondSucceeds.responseHmac⟩

/-- What the responder returns and stores. -/
lemma Honest.responded_eq {secret : Bytes} (h : Honest prim r)
    (hsecret : prim.agree r.ioRespond.privateKey (prim.publicKey r.ioInitiate.privateKey) =
      some secret) :
    (r.responded prim r.password).2 = some (r.response prim) ∧
      (r.responded prim r.password).1.session.m_state = .Paired ∧
      (r.responded prim r.password).1.session.m_result =
        some (requestResult (r.request prim) secret) := by
  have hkey : decode64 (r.request prim).ephemeralPublicKeyBase64 =
      prim.publicKey r.ioInitiate.privateKey := decode64_toBase64 _
  have hsalt : decode64 (r.request prim).saltBase64 = r.ioInitiate.salt := decode64_toBase64 _
  have hne : r.kdfKey prim ≠ [] := kdf_ne_nil _ _
  rw [responded, h.received_eq]
  simp only
  rw [handleIncomingRequest_of_verifies h.verifies_received, hkey, hsalt,
    (acceptRequest_of_responds hne (h.responds hsecret)).1,
    (acceptRequest_of_responds hne (h.responds hsecret)).2]
  exact ⟨rfl, rfl, rfl⟩

lemma Honest.answered_eq (h : Honest prim r) : r.answered prim = some (r.response prim) := by
  obtain ⟨secret, hsecret⟩ := h.exists_agree
  rw [answered, (h.responded_eq hsecret).1, Option.bind_some]
  exact PairingResponse.fromJson_toJson r.respondedAt h.sessionId h.responderId h.initiatorId
    (toBase64_ne_empty (length_ne_zero h.salt))
    (toBase64_ne_empty (length_ne_zero (prim.length_publicKey _))) h.answeredIp
    (toBase64_ne_empty (length_ne_zero (prim.length_hmac _ _))) h.respondLater

/-- The two transcripts close with different keys. -/
lemma Honest.transcript_ne (h : Honest prim r) :
    (r.request prim).buildTranscriptMessage ≠ (r.response prim).buildTranscriptMessage := by
  intro heq
  have hdecode : ∀ key,
      (fromBase64 (QString.toUtf8 (toBase64 (prim.publicKey key)))).length = 32 := by
    intro key
    rw [fromBase64_toBase64, prim.length_publicKey]
  have hkeys := (key_of_transcript_eq (hdecode _) (hdecode _) heq).1
  have hbytes := congrArg decode64 hkeys
  rw [decode64_toBase64, decode64_toBase64] at hbytes
  exact h.freshKeys hbytes

lemma append_resp_ne (sessionId : String) : sessionId ≠ sessionId ++ "_resp" := by
  intro h
  have hlength := congrArg String.length h
  rw [String.length_append] at hlength
  have hresp : "_resp".length = 5 := rfl
  omega

/-- The cache of the initiator, with its own request in it, lacks the response. -/
lemma Honest.lacks_response (h : Honest prim r) :
    (r.initiator.m_replayCache.registerSession r.ioInitiate.uuid
      (prim.sha256 (r.request prim).buildTranscriptMessage) r.ioInitiate.now).Lacks
        (r.ioInitiate.uuid ++ "_resp") (prim.sha256 (r.response prim).buildTranscriptMessage) := by
  constructor
  · rw [ReplayProtectionCache.value?_registerSession_of_ne (append_resp_ne _)]
    exact h.initiatorCache.1
  · intro k entry hk
    rw [ReplayProtectionCache.value?_registerSession h.sessionId (prim.sha256_ne_nil _)] at hk
    split_ifs at hk
    · obtain rfl := Option.some.inj hk
      exact fun hhash => h.transcript_ne (h.collision hhash)
    · exact h.initiatorCache.2 k entry hk

/-- **The response passes the checks of the initiator.** -/
lemma Honest.concludes_answered {secret : Bytes} (h : Honest prim r)
    (hsecret : prim.agree r.ioRespond.privateKey (prim.publicKey r.ioInitiate.privateKey) =
      some secret) :
    Concludes prim r.ioConclude (r.response prim) r.password (r.initiated prim).1.session
      secret := by
  have hsession : (r.initiated prim).1.session = _ := (initiatePairing_of_initiates h.initiates).2
  have hvalid := isTimestampValid_of_near r.ioConclude.again h.respondLater
    h.concludeClock h.responseInTime
  have hid : r.ioInitiate.uuid ++ "_resp" ≠ "" := by
    intro hempty
    have hlength := congrArg String.length hempty
    rw [String.length_append] at hlength
    have hresp : "_resp".length = 5 := rfl
    have hzero : "".length = 0 := rfl
    omega
  have hsalt : 8 ≤ r.ioInitiate.salt.length := by
    have := h.salt
    omega
  rw [hsession]
  refine ⟨rfl, rfl, h.sameInitiator.symm, rfl, rfl, hvalid,
    h.lacks_response.isReplayed hid (prim.sha256_ne_nil _) hvalid, ⟨r.kdfKey prim, ?_⟩, ?_⟩
  · rw [authenticate_eq_ok, response, freshResponse, decode64_toBase64, decode64_toBase64,
      decode64_toBase64]
    exact ⟨prim.length_publicKey _, hsalt, h.password, h.concludeSucceeds.kdf,
      h.concludeSucceeds.hmac, rfl, rfl⟩
  · rw [response, freshResponse, decode64_toBase64, deriveSharedSecret_eq_some]
    exact ⟨h.initiatorKey, prim.length_publicKey _, h.concludeSucceeds.agree,
      (prim.agree_comm _ _).trans hsecret⟩

/-- **Honest devices are paired.** Both end with the same secret and with the id, the
public key and the virtual address of the other; a responder with another password
fails with `AuthFailed` and returns nothing. -/
theorem honest_handshake (h : Honest prim r) :
    (∃ secret,
      (r.concluded prim).1.session.m_state = .Paired ∧
      (r.responded prim r.password).1.session.m_state = .Paired ∧
      (r.concluded prim).1.session.m_result = some {
        peerDeviceId := r.ioRespond.deviceId
        peerPublicKeyBase64 := toBase64 (prim.publicKey r.ioRespond.privateKey)
        peerVirtualIp := r.answeredIp
        sharedSecret := secret } ∧
      (r.responded prim r.password).1.session.m_result = some {
        peerDeviceId := r.ioInitiate.deviceId
        peerPublicKeyBase64 := toBase64 (prim.publicKey r.ioInitiate.privateKey)
        peerVirtualIp := r.proposedIp
        sharedSecret := secret }) ∧
    ∀ password, password ≠ "" →
      prim.kdf (QString.toUtf8 password) r.ioInitiate.salt ≠ r.kdfKey prim →
      (prim.hmac (prim.kdf (QString.toUtf8 password) r.ioInitiate.salt)
          (r.request prim).buildTranscriptMessage =
            prim.hmac (r.kdfKey prim) (r.request prim).buildTranscriptMessage →
        prim.kdf (QString.toUtf8 password) r.ioInitiate.salt = r.kdfKey prim) →
      (r.responded prim password).2 = none ∧
        (r.responded prim password).1.session.m_state = .Failed ∧
        (r.responded prim password).1.session.m_lastError = .AuthFailed := by
  refine ⟨?_, fun password hpassword hne hideal => h.refuses hpassword hne hideal⟩
  obtain ⟨secret, hsecret⟩ := h.exists_agree
  have hresponded := h.responded_eq hsecret
  have hconcluded := handleIncomingResponse_of_concludes (h.concludes_answered hsecret)
  refine ⟨secret, ?_, hresponded.2.1, ?_, hresponded.2.2⟩
  · rw [concluded, h.answered_eq, hconcluded.2]
  · rw [concluded, h.answered_eq, hconcluded.2]
    rfl

end HandshakeRun

/-! ### The devices of the test

The ids and passwords of `test_pairing.cpp`, with recorded values of the primitives. -/

namespace PairingTest

/-- The id of Alice. -/
def aliceId : String := "mc_alice_unit_test"

/-- The id of Bob. -/
def bobId : String := "mc_bob_unit_test"

/-- The password of both. -/
def password : String := "MeckChat@2026_Secure_Passphrase"

/-- A password that is not theirs. -/
def wrongPassword : String := "WrongPassword456"

/-- Private keys of Alice. -/
def alicePrivate : ℕ → Bytes
  | 0 => block 0x0196720b2521dd0259f43e4cee7f05f5f5c3a8018c14a51a29a2ece128cb1ff4
  | _ => block 0xc5bd37f1c68cd50cdfd83d627bffb3b768e10ee54c0f84056a2a752d14ec2fe5

/-- Their public keys. -/
def alicePublic : ℕ → Bytes
  | 0 => block 0xe24617110afcfc710ebcf6719384fe3f50350365929a30b0a486aaa57def3b0f
  | _ => block 0x89b45e767c91613b7782a0f1bcc9b483661dd76e7a76490f5efd1ce0e118e648

/-- Private keys of Bob. -/
def bobPrivate : ℕ → Bytes
  | 0 => block 0x68df30833f66761fce464509ee43c243e0f34447d13d92831f465f23be131ed0
  | 1 => block 0xee01c943f8f5975ebac1b6d2f6a1aad8cf520bd21cb9ba55bb0ec2383d9fd044
  | _ => block 0x0dff7e5abe26939fdcf6f8895176dc547b3677be6e39c80375ce57a51bef75dd

/-- Their public keys. -/
def bobPublic : ℕ → Bytes
  | 0 => block 0x199c181f1b4d46662ff0086a4a7fcd0e022b760024758d4b0435d9a7741c1945
  | 1 => block 0xdbfc897b0be4d7038702dc83f4e82ec8e374050bf36ad0a476c9499eb44d1342
  | _ => block 0x366d989ee96f440d9c9f8d1a7eab018868d9cbf5730f59bc341c431d494c0559

/-- The salts that Alice draws. -/
def salt : ℕ → Bytes
  | 0 => BigEndian.encode 16 0xa74894aca6e4aa27d3ac9e0f44661431
  | _ => BigEndian.encode 16 0xd9e092b1f9726c2f7d02c9a4774e13b8

/-- The keys derived from the password. -/
def derived : ℕ → Bytes
  | 0 => block 0x978c187572406c3ecb228537e38bc4e9609308999e6ac4a46216956a0cf645a1
  | _ => block 0x83ee9bf32e422b7635d7402ba445dad3db0459f15291f6e860620115d2896f12

/-- The key derived from the wrong password. -/
def wrongDerived : Bytes :=
  block 0x0b04d233e6101c335bd23de2bfcd3abdc87331a0c8fddbdf8a5cd779f1095d09

/-- What Alice signs, at a time with a key. -/
def aliceTranscript (t : ℤ) (key : ℕ) : Bytes :=
  transcript aliceId bobId t (toBase64 (alicePublic key))

/-- What Bob signs. -/
def bobTranscript (t : ℤ) (key : ℕ) : Bytes :=
  transcript bobId aliceId t (toBase64 (bobPublic key))

/-- The values of the primitives in the calls of the test. -/
def recording : Recording where
  keys := [(alicePrivate 0, alicePublic 0), (alicePrivate 1, alicePublic 1),
    (bobPrivate 0, bobPublic 0), (bobPrivate 1, bobPublic 1), (bobPrivate 2, bobPublic 2)]
  secrets := [
    ((alicePrivate 0, bobPrivate 0),
      block 0x30dfdf96b3c045286f422b93d68545e1a031bc08df0763a89c18be079919cb18),
    ((alicePrivate 1, bobPrivate 1),
      block 0xa81c96d20454663032d0197aa80567f0e3b1b7a512a250ed92d107830a8c451a),
    ((alicePrivate 0, bobPrivate 2),
      block 0xf29a1c209e577ef1c0f7a6c35ec1b105e6c82c1ef9b8b969fbc569bb8935d118)]
  kdf := [((QString.toUtf8 password, salt 0), derived 0),
    ((QString.toUtf8 password, salt 1), derived 1),
    ((QString.toUtf8 wrongPassword, salt 0), wrongDerived)]
  hmac := [
    ((derived 0, aliceTranscript 1760000000 0),
      block 0x1b2349886244b8ef5a0716e591046018c70b342cc00208428de085faa65181d0),
    ((derived 0, bobTranscript 1760000001 0),
      block 0x75a2f8320566a7987908ab922fbfc179863c761a21d9af02c620cf8f336da69e),
    ((derived 0, bobTranscript 1760000021 2),
      block 0x86f76c985301acb209952d1f886820354bc08951dd42c622ff3462eca454033b),
    ((derived 1, bobTranscript 1760000001 0),
      block 0x7fc476fdd1ecd25c1f8a425e2478792c7eea78969492fc656ea5ecb108f9e85e),
    ((derived 1, aliceTranscript 1760000010 1),
      block 0x6a22f66f5b2a876d90072701afd607fa7c38fe19a15b97743885b066adc38f91),
    ((derived 1, bobTranscript 1760000011 1),
      block 0xed5e27b485de57a8be6ad346000af7646f156b00217c3c23d3c0762741a7db0c),
    ((wrongDerived, aliceTranscript 1760000000 0),
      block 0xed5a5b05a4f6032d646d87e57600bacfeeb74fba2276e36dd8328667275639b2)]
  sha256 := [
    (aliceTranscript 1760000000 0,
      block 0xf9cbdf3c4f750c35a507efca5a8e86926321d52581b05913e3e684baf2f22509),
    (bobTranscript 1760000001 0,
      block 0x1a02c3574a1617cd2daa6b39f72e6f743a3e5f4dea58de07df708c9ce258f8ef),
    (aliceTranscript 1760000010 1,
      block 0xc26385bd753f46b136acbc89130dbaf3e76aa3dbb2789cd46c3e29fb058611b8),
    (bobTranscript 1760000011 1,
      block 0x6b32c624bad4627dcaf45f575bd1ad3d1b5eeaf4d6c86b39760c867a7abb7474),
    (bobTranscript 1760000021 2,
      block 0x19f59d9d842bf8098e3fbb7236893d9062ea95b5c0fa714e438573b1f941ba17)]
  length_keys := by decide +kernel
  length_kdf := by decide +kernel
  length_hmac := by decide +kernel
  length_sha256 := by decide +kernel
  owner := by decide +kernel
  owner_zero := by decide +kernel
  once := by decide +kernel

/-- The handshake of the test. -/
def testRun : HandshakeRun where
  password
  initiator := {}
  responder := {}
  ioInitiate := {
    privateKey := alicePrivate 0
    salt := salt 0
    deviceId := aliceId
    now := 1760000000
    uuid := "0b9ff2c5-4f0f-4d3e-9f5a-6c1f6a2d7e10" }
  ioRespond := { privateKey := bobPrivate 0, deviceId := bobId, now := 1760000001 }
  ioConclude := { deviceId := aliceId, now := 1760000002 }
  initiatorIp := "10.77.0.2"
  responderIp := "10.77.0.3"
  requestedAt := 1760000000
  respondedAt := 1760000001

lemma lacks_empty (sessionId : String) (transcriptHash : Bytes) :
    (⟨∅⟩ : ReplayProtectionCache).Lacks sessionId transcriptHash := by
  refine ⟨QMap.value?_empty sessionId, fun k entry hk => ?_⟩
  rw [QMap.value?_empty] at hk
  cases hk

lemma honest_testRun : HandshakeRun.Honest recording.primitives testRun where
  password := by decide
  initiatorId := by decide
  responderId := by decide
  sameInitiator := rfl
  proposedIp := by decide
  answeredIp := by decide
  sessionId := by decide
  salt := by decide +kernel
  initiatorKey := by decide +kernel
  responderKey := by decide +kernel
  freshKeys := by decide +kernel
  initiateSucceeds := ⟨rfl, rfl, rfl, rfl, rfl⟩
  respondSucceeds := ⟨rfl, rfl, rfl, rfl, rfl⟩
  concludeSucceeds := ⟨rfl, rfl, rfl, rfl, rfl⟩
  agreement := by decide +kernel
  initiateClock := by decide
  respondClock := by decide
  respondLater := by decide
  concludeClock := by decide
  requestInTime := by decide
  responseInTime := by decide
  responderCache := lacks_empty _ _
  initiatorCache := lacks_empty _ _
  collision := by decide +kernel

/-- The handshake of the test, and its refusal. -/
theorem honest_handshake_testRun :
    (∃ secret,
      (testRun.concluded recording.primitives).1.session.m_state = .Paired ∧
      (testRun.responded recording.primitives password).1.session.m_state = .Paired ∧
      (testRun.concluded recording.primitives).1.session.m_result = some {
        peerDeviceId := bobId
        peerPublicKeyBase64 := toBase64 (recording.primitives.publicKey (bobPrivate 0))
        peerVirtualIp := "10.77.0.3"
        sharedSecret := secret } ∧
      (testRun.responded recording.primitives password).1.session.m_result = some {
        peerDeviceId := aliceId
        peerPublicKeyBase64 := toBase64 (recording.primitives.publicKey (alicePrivate 0))
        peerVirtualIp := "10.77.0.2"
        sharedSecret := secret }) ∧
    (testRun.responded recording.primitives wrongPassword).2 = none ∧
      (testRun.responded recording.primitives wrongPassword).1.session.m_state = .Failed ∧
      (testRun.responded recording.primitives wrongPassword).1.session.m_lastError = .AuthFailed :=
  ⟨(HandshakeRun.honest_handshake honest_testRun).1,
    (HandshakeRun.honest_handshake honest_testRun).2 wrongPassword (by decide) (by decide +kernel)
      (by decide +kernel)⟩

end PairingTest

end MeckChat.Crypto
