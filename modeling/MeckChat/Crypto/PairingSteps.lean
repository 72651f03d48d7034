import MeckChat.Crypto.PairingSession

/-!
What the calls of a pairing session do.

* `Initiates`, `Verifies` and `Concludes` collect the checks of `initiatePairing`,
  `handleIncomingRequest` and `handleIncomingResponse`, and `Responds` those of
  `acceptRequest`. For each of them there is one lemma for a call that passes the
  checks, and one for a call that does not: it fails, and of the session only the
  replay cache is left.
* `authenticate_eq_ok` says what a verified proof is.
* `value?_pruneExpired`, `value?_registerSession` and `isReplayed_eq_false` describe
  the cache.
-/

namespace MeckChat.Crypto

open Protocol QByteArray CryptoProvider

/-! ### The replay cache -/

namespace ReplayProtectionCache

variable {c : ReplayProtectionCache} {sessionId : String} {transcriptHash : Bytes}
  {timestamp now clock : ℤ}

lemma value?_pruneExpired (k : String) :
    (c.pruneExpired now clock).m_seenSessions.value? k =
      (c.m_seenSessions.value? k).filter fun entry =>
        (effectiveTime now clock - entry.timestamp).natAbs ≤ REPLAY_WINDOW_SECONDS :=
  QMap.value?_filter _ _ _

lemma value?_of_pruneExpired {k : String} {entry : ReplayEntry}
    (h : (c.pruneExpired now clock).m_seenSessions.value? k = some entry) :
    c.m_seenSessions.value? k = some entry := by
  rw [value?_pruneExpired, Option.filter_eq_some_iff] at h
  exact h.1

lemma value?_registerSession (hid : sessionId ≠ "") (hhash : transcriptHash ≠ []) (k : String) :
    (c.registerSession sessionId transcriptHash timestamp).m_seenSessions.value? k =
      if sessionId = k then some ⟨timestamp, transcriptHash⟩ else c.m_seenSessions.value? k := by
  rw [registerSession, if_neg (not_or.mpr ⟨hid, hhash⟩), QMap.value?_insert]

/-- What is registered leaves the other sessions alone. -/
lemma value?_registerSession_of_ne {k : String} (h : sessionId ≠ k) :
    (c.registerSession sessionId transcriptHash timestamp).m_seenSessions.value? k =
      c.m_seenSessions.value? k := by
  rw [registerSession]
  split_ifs
  · rfl
  · exact QMap.value?_insert_of_ne _ h _

lemma isReplayed_snd :
    (c.isReplayed sessionId transcriptHash timestamp now clock).2 = c.pruneExpired now clock := by
  simp only [isReplayed]
  split_ifs <;> rfl

/-- **What the cache lets through.** -/
lemma isReplayed_eq_false :
    (c.isReplayed sessionId transcriptHash timestamp now clock).1 = false ↔
      sessionId ≠ "" ∧ transcriptHash ≠ [] ∧ isTimestampValid timestamp now clock = true ∧
        (c.pruneExpired now clock).m_seenSessions.value? sessionId = none ∧
        ∀ k entry, (c.pruneExpired now clock).m_seenSessions.value? k = some entry →
          entry.transcriptHash ≠ transcriptHash := by
  simp only [isReplayed]
  by_cases hempty : sessionId = "" ∨ transcriptHash = []
  · rw [if_pos hempty]
    constructor
    · intro h
      cases h
    · rintro ⟨hid, hhash, -⟩
      exact absurd hempty (not_or.mpr ⟨hid, hhash⟩)
  · rw [if_neg hempty]
    obtain ⟨hid, hhash⟩ := not_or.mp hempty
    cases hvalid : isTimestampValid timestamp now clock with
    | false => simp
    | true =>
        cases hseen : (c.pruneExpired now clock).m_seenSessions.value? sessionId with
        | some entry => simp
        | none =>
            simp only [Bool.not_true, Bool.false_eq_true, if_false, Option.isSome_none,
              List.any_eq_false, Prod.forall, QMap.mem_toList, decide_eq_true_eq]
            exact ⟨fun h => ⟨hid, hhash, trivial, trivial, h⟩, fun h => h.2.2.2.2⟩

end ReplayProtectionCache

/-! ### Proofs -/

variable {prim : Primitives}

/-- **What a verified proof is.** -/
lemma authenticate_eq_ok {io : CryptoIo} {texts : AuthTexts} {password : String}
    {transcript peerPubKey salt peerProof kdfKey : Bytes} :
    authenticate prim io texts password transcript peerPubKey salt peerProof = .ok kdfKey ↔
      peerPubKey.length = 32 ∧ 8 ≤ salt.length ∧ password ≠ "" ∧ io.kdfOk = true ∧
        io.hmacOk = true ∧ prim.kdf (QString.toUtf8 password) salt = kdfKey ∧
        prim.hmac kdfKey transcript = peerProof := by
  rw [authenticate]
  by_cases hsize : peerPubKey.length ≠ 32 ∨ salt.length < 8 ∨ peerProof.length ≠ 32
  · rw [if_pos hsize]
    constructor
    · intro h
      cases h
    · rintro ⟨hkey, hsalt, -, -, -, -, rfl⟩
      rcases hsize with h | h | h
      · exact absurd hkey h
      · omega
      · exact absurd (prim.length_hmac _ _) h
  · rw [if_neg hsize]
    obtain ⟨hkey, hsalt, hproof⟩ :
        peerPubKey.length = 32 ∧ 8 ≤ salt.length ∧ peerProof.length = 32 := by
      simpa only [not_or, not_not, not_lt] using hsize
    cases hkdf : deriveArgon2idKey prim io password salt with
    | none =>
        constructor
        · intro h
          cases h
        · rintro ⟨-, -, hpassword, hok, -, hderived, -⟩
          rw [deriveArgon2idKey_eq_some.mpr ⟨hpassword, hsalt, hok, hderived⟩] at hkdf
          cases hkdf
    | some key =>
        obtain ⟨hpassword, -, hok, rfl⟩ := deriveArgon2idKey_eq_some.mp hkdf
        simp only [computeHmacSha256_kdf]
        cases io.hmacOk with
        | false => simp
        | true =>
            by_cases heq : prim.hmac (prim.kdf (QString.toUtf8 password) salt) transcript =
                peerProof
            · subst heq
              simp only [if_true, verifyHmacConstantTime_hmac, Except.ok.injEq]
              constructor
              · rintro rfl
                exact ⟨hkey, hsalt, hpassword, hok, trivial, rfl, rfl⟩
              · exact fun h => h.2.2.2.2.2.1
            · have hverify : ¬ verifyHmacConstantTime
                  (prim.hmac (prim.kdf (QString.toUtf8 password) salt) transcript) peerProof =
                  true := fun h => heq (eq_of_verifyHmacConstantTime h)
              simp only [if_true, if_neg hverify]
              constructor
              · intro h
                cases h
              · rintro ⟨-, -, -, -, -, rfl, h⟩
                exact absurd h heq

lemma authenticate_mismatch {io : CryptoIo} {texts : AuthTexts} {password : String}
    {transcript peerPubKey salt peerProof : Bytes} (hkey : peerPubKey.length = 32)
    (hsalt : 8 ≤ salt.length) (hproof : peerProof.length = 32) (hpassword : password ≠ "")
    (hkdf : io.kdfOk = true) (hhmac : io.hmacOk = true)
    (hne : prim.hmac (prim.kdf (QString.toUtf8 password) salt) transcript ≠ peerProof) :
    authenticate prim io texts password transcript peerPubKey salt peerProof =
      .error (.AuthFailed, texts.mismatch) := by
  have hderived : deriveArgon2idKey prim io password salt =
      some (prim.kdf (QString.toUtf8 password) salt) :=
    deriveArgon2idKey_eq_some.mpr ⟨hpassword, hsalt, hkdf, rfl⟩
  have hverify : ¬ verifyHmacConstantTime
      (prim.hmac (prim.kdf (QString.toUtf8 password) salt) transcript) peerProof = true :=
    fun h => hne (eq_of_verifyHmacConstantTime h)
  rw [authenticate, if_neg (by omega)]
  simp only [hderived, computeHmacSha256_kdf, hhmac, if_true, if_neg hverify]

/-! ### The session behind an operation -/

namespace PairingTurn

section Session

variable (t : PairingTurn)

@[simp] lemma session_emit (s : PairingSignal) : (t.emit s).session = t.session := rfl

@[simp] lemma session_setState (state : PairingState) :
    (t.setState state).session = { t.session with m_state := state } := by
  rw [setState]
  by_cases h : t.session.m_state = state
  · rw [if_neg (not_not.mpr h), ← h]
  · rw [if_pos h, session_emit]

@[simp] lemma session_setFailed (error : PairingError) (reason : String) :
    (t.setFailed error reason).session =
      { t.session with
        m_state := .Failed, m_lastError := error, m_lastErrorString := reason } := by
  rw [setFailed, session_emit, session_setState]

@[simp] lemma session_reset :
    t.reset.session = { m_replayCache := t.session.m_replayCache } := by
  rw [reset, session_setState]

@[simp] lemma session_setReplayCache (cache : ReplayProtectionCache) :
    (t.setReplayCache cache).session = { t.session with m_replayCache := cache } := rfl

@[simp] lemma session_registerSession (sessionId : String) (transcriptHash : Bytes)
    (timestamp : ℤ) :
    (t.registerSession sessionId transcriptHash timestamp).session =
      { t.session with
        m_replayCache :=
          t.session.m_replayCache.registerSession sessionId transcriptHash timestamp } := rfl

@[simp] lemma session_setKeyPair (keyPair : KeyPair) :
    (t.setKeyPair keyPair).session = { t.session with m_ephemeralKeyPair := keyPair } := rfl

@[simp] lemma session_succeed (result : PairingResult) :
    (t.succeed result).session =
      { t.session with m_state := .Paired, m_result := some result } := by
  rw [succeed, session_emit, session_setState]

/-- A cancelled session is a fresh one with the same cache. -/
lemma session_cancelPairing :
    t.cancelPairing.session = t.session ∨
      t.cancelPairing.session = { m_replayCache := t.session.m_replayCache } := by
  rw [cancelPairing]
  split_ifs
  · rw [session_reset, session_setFailed]
    exact Or.inr rfl
  · exact Or.inl rfl

end Session

variable {io : PairingIo} {password : String} {t : PairingTurn}

/-! ### Initiating -/

/-- The checks of `initiatePairing`. -/
structure Initiates (io : PairingIo) (peerDeviceId password : String) : Prop where
  deviceId : io.deviceId ≠ ""
  peer : peerDeviceId ≠ ""
  password : password ≠ ""
  keygen : io.keygenOk = true
  privateKey : io.privateKey.length = 32
  salt : io.salt.length = 16
  kdf : io.kdfOk = true
  hmac : io.hmacOk = true

variable (prim io) in
/-- The key pair that a call generates. -/
def freshKeyPair : KeyPair := ⟨io.privateKey, prim.publicKey io.privateKey⟩

variable (prim io password) in
/-- The request that a call makes, with its proof. -/
def freshRequest (peerDeviceId localVirtualIp : String) : PairingRequest where
  sessionId := io.uuid
  senderDeviceId := io.deviceId
  receiverDeviceId := peerDeviceId
  timestamp := io.now
  saltBase64 := toBase64 io.salt
  ephemeralPublicKeyBase64 := toBase64 (prim.publicKey io.privateKey)
  proposedVirtualIp := if localVirtualIp = "" then io.virtualIp else localVirtualIp
  authProofBase64 := toBase64 (prim.hmac (prim.kdf (QString.toUtf8 password) io.salt)
    (transcript io.deviceId peerDeviceId io.now (toBase64 (prim.publicKey io.privateKey))))

lemma buildTranscriptMessage_freshRequest (peerDeviceId localVirtualIp : String) :
    (freshRequest prim io password peerDeviceId localVirtualIp).buildTranscriptMessage =
      transcript io.deviceId peerDeviceId io.now (toBase64 (prim.publicKey io.privateKey)) := rfl

lemma initiatePairing_of_initiates {peerDeviceId localVirtualIp : String}
    (h : Initiates io peerDeviceId password) :
    (initiatePairing prim io peerDeviceId password localVirtualIp t).2 =
        some (freshRequest prim io password peerDeviceId localVirtualIp) ∧
      (initiatePairing prim io peerDeviceId password localVirtualIp t).1.session =
        { m_state := .AwaitingResponse
          m_sessionId := io.uuid
          m_peerDeviceId := peerDeviceId
          m_ephemeralKeyPair := freshKeyPair prim io
          m_salt := io.salt
          m_replayCache := t.session.m_replayCache.registerSession io.uuid
            (prim.sha256 (freshRequest prim io password peerDeviceId
              localVirtualIp).buildTranscriptMessage) io.now } := by
  have hempty : ¬ (io.deviceId = "" ∨ peerDeviceId = "" ∨ password = "") := by
    simp only [h.deviceId, h.peer, h.password, or_self, not_false_eq_true]
  have hkeys : generateX25519KeyPair prim io.toCryptoIo = some (freshKeyPair prim io) :=
    generateX25519KeyPair_eq_some.mpr ⟨h.keygen, h.privateKey, rfl⟩
  have hderived : deriveArgon2idKey prim io.toCryptoIo password io.salt =
      some (prim.kdf (QString.toUtf8 password) io.salt) :=
    deriveArgon2idKey_eq_some.mpr ⟨h.password, by have := h.salt; omega, h.kdf, rfl⟩
  simp only [initiatePairing, if_neg hempty, hkeys, h.salt, ne_eq, not_true_eq_false, if_false,
    hderived, computeHmacSha256_kdf, h.hmac, if_true]
  refine ⟨rfl, ?_⟩
  simp only [session_setState, session_registerSession, session_setKeyPair, session_reset]
  rfl

lemma initiatePairing_of_not_initiates {peerDeviceId localVirtualIp : String}
    (h : ¬ Initiates io peerDeviceId password) :
    (initiatePairing prim io peerDeviceId password localVirtualIp t).2 = none ∧
      (initiatePairing prim io peerDeviceId password localVirtualIp t).1.session.m_state = .Failed ∧
      (initiatePairing prim io peerDeviceId password localVirtualIp t).1.session.m_replayCache =
        t.session.m_replayCache := by
  simp only [initiatePairing]
  by_cases hempty : io.deviceId = "" ∨ peerDeviceId = "" ∨ password = ""
  · rw [if_pos hempty]
    simp
  · rw [if_neg hempty]
    obtain ⟨hdevice, hpeer, hpassword⟩ :
        io.deviceId ≠ "" ∧ peerDeviceId ≠ "" ∧ password ≠ "" := by
      simpa only [not_or] using hempty
    cases hkeys : generateX25519KeyPair prim io.toCryptoIo with
    | none => simp
    | some keyPair =>
        obtain ⟨hkeygen, hprivate, -⟩ := generateX25519KeyPair_eq_some.mp hkeys
        by_cases hsalt : io.salt.length = 16
        · simp only [hsalt, ne_eq, not_true_eq_false, if_false]
          cases hkdf : deriveArgon2idKey prim io.toCryptoIo password io.salt with
          | none => simp
          | some kdfKey =>
              obtain ⟨-, -, hkdfOk, rfl⟩ := deriveArgon2idKey_eq_some.mp hkdf
              have hhmac : io.hmacOk = false := by
                rw [Bool.eq_false_iff]
                exact fun hok =>
                  h ⟨hdevice, hpeer, hpassword, hkeygen, hprivate, hsalt, hkdfOk, hok⟩
              simp [computeHmacSha256_kdf, hhmac]
        · simp [hsalt]

/-! ### Responding -/

/-- The checks of `acceptRequest`, and the secret it derives. -/
structure Responds (prim : Primitives) (io : PairingIo) (peerPubKey secret : Bytes) : Prop where
  keygen : io.keygenOk = true
  privateKey : io.privateKey.length = 32
  secret : deriveSharedSecret prim io.toCryptoIo io.privateKey peerPubKey = some secret
  hmac : io.responseHmacOk = true

variable (prim io) in
/-- The response that a call makes, with its proof. -/
def freshResponse (request : PairingRequest) (localVirtualIp : String) (kdfKey salt : Bytes) :
    PairingResponse where
  sessionId := request.sessionId
  senderDeviceId := io.deviceId
  receiverDeviceId := request.senderDeviceId
  timestamp := io.later
  saltBase64 := toBase64 salt
  ephemeralPublicKeyBase64 := toBase64 (prim.publicKey io.privateKey)
  proposedVirtualIp := if localVirtualIp = "" then io.virtualIp else localVirtualIp
  authProofBase64 := toBase64 (prim.hmac kdfKey
    (transcript io.deviceId request.senderDeviceId io.later
      (toBase64 (prim.publicKey io.privateKey))))
  status := "accepted"

lemma buildTranscriptMessage_freshResponse (request : PairingRequest) (localVirtualIp : String)
    (kdfKey salt : Bytes) :
    (freshResponse prim io request localVirtualIp kdfKey salt).buildTranscriptMessage =
      transcript io.deviceId request.senderDeviceId io.later
        (toBase64 (prim.publicKey io.privateKey)) := rfl

/-- The result that a responder stores. -/
def requestResult (request : PairingRequest) (secret : Bytes) : PairingResult where
  peerDeviceId := request.senderDeviceId
  peerPublicKeyBase64 := request.ephemeralPublicKeyBase64
  peerVirtualIp := request.proposedVirtualIp
  sharedSecret := secret

variable {request : PairingRequest} {localVirtualIp : String} {kdfKey peerPubKey salt : Bytes}

lemma acceptRequest_of_responds {secret : Bytes} (hkey : kdfKey ≠ [])
    (h : Responds prim io peerPubKey secret) :
    (acceptRequest prim io request localVirtualIp kdfKey peerPubKey salt t).2 =
        some (freshResponse prim io request localVirtualIp kdfKey salt) ∧
      (acceptRequest prim io request localVirtualIp kdfKey peerPubKey salt t).1.session =
        { t.session with
          m_state := .Paired
          m_ephemeralKeyPair := freshKeyPair prim io
          m_result := some (requestResult request secret)
          m_replayCache := t.session.m_replayCache.registerSession (request.sessionId ++ "_resp")
            (prim.sha256 (freshResponse prim io request localVirtualIp kdfKey
              salt).buildTranscriptMessage) io.later } := by
  have hkeys : generateX25519KeyPair prim io.toCryptoIo = some (freshKeyPair prim io) :=
    generateX25519KeyPair_eq_some.mpr ⟨h.keygen, h.privateKey, rfl⟩
  have hsecret : deriveSharedSecret prim io.toCryptoIo (freshKeyPair prim io).privateKey
      peerPubKey = some secret := h.secret
  simp only [acceptRequest, hkeys, hsecret, computeHmacSha256, if_neg hkey, h.hmac, if_true]
  refine ⟨rfl, ?_⟩
  simp only [session_succeed, session_registerSession, session_setKeyPair]
  rfl

lemma acceptRequest_of_not_responds (h : ∀ secret, ¬ Responds prim io peerPubKey secret) :
    (acceptRequest prim io request localVirtualIp kdfKey peerPubKey salt t).2 = none ∧
      (acceptRequest prim io request localVirtualIp kdfKey peerPubKey salt t).1.session.m_state =
        .Failed ∧
      (acceptRequest prim io request localVirtualIp kdfKey peerPubKey salt
        t).1.session.m_replayCache = t.session.m_replayCache := by
  rw [acceptRequest]
  cases hkeys : generateX25519KeyPair prim io.toCryptoIo with
  | none => simp
  | some keyPair =>
      obtain ⟨hkeygen, hprivate, rfl⟩ := generateX25519KeyPair_eq_some.mp hkeys
      simp only
      cases hsecret : deriveSharedSecret prim io.toCryptoIo io.privateKey peerPubKey with
      | none => simp
      | some secret =>
          have hhmac : io.responseHmacOk = false := by
            rw [Bool.eq_false_iff]
            exact fun hok => h secret ⟨hkeygen, hprivate, hsecret, hok⟩
          simp [computeHmacSha256, hhmac]

/-! ### Requests -/

/-- The checks of `handleIncomingRequest` up to the proof, and the key it derives. -/
structure Verifies (prim : Primitives) (io : PairingIo) (request : PairingRequest)
    (password : String) (cache : ReplayProtectionCache) (kdfKey : Bytes) : Prop where
  receiver : request.receiverDeviceId = io.deviceId
  valid : isTimestampValid request.timestamp io.now io.again = true
  fresh : (cache.isReplayed request.sessionId (prim.sha256 request.buildTranscriptMessage)
    request.timestamp io.now io.again).1 = false
  proof : authenticate prim io.toCryptoIo requestTexts password request.buildTranscriptMessage
    (decode64 request.ephemeralPublicKeyBase64) (decode64 request.saltBase64)
    (decode64 request.authProofBase64) = .ok kdfKey

/-- The turn in which a verified request is accepted. -/
def verified (prim : Primitives) (io : PairingIo) (request : PairingRequest) (t : PairingTurn) :
    PairingTurn :=
  (t.reset.setState .Verifying).setReplayCache
      (t.session.m_replayCache.pruneExpired io.now io.again)
    |>.registerSession request.sessionId (prim.sha256 request.buildTranscriptMessage)
      request.timestamp

lemma session_verified :
    (verified prim io request t).session =
      { m_state := .Verifying
        m_replayCache := (t.session.m_replayCache.pruneExpired io.now io.again).registerSession
          request.sessionId (prim.sha256 request.buildTranscriptMessage) request.timestamp } := by
  rw [verified, session_registerSession, session_setReplayCache, session_setState, session_reset]

lemma handleIncomingRequest_of_verifies
    (h : Verifies prim io request password t.session.m_replayCache kdfKey) :
    handleIncomingRequest prim io request password localVirtualIp t =
      acceptRequest prim io request localVirtualIp kdfKey
        (decode64 request.ephemeralPublicKeyBase64) (decode64 request.saltBase64)
        (verified prim io request t) := by
  have hcache : (t.reset.setState .Verifying).session.m_replayCache = t.session.m_replayCache := by
    rw [session_setState, session_reset]
  simp only [handleIncomingRequest, h.receiver, ne_eq, not_true_eq_false, if_false, h.valid,
    Bool.not_true, Bool.false_eq_true, hcache, h.fresh, ReplayProtectionCache.isReplayed_snd,
    h.proof]
  rfl

lemma handleIncomingRequest_of_not_verifies
    (h : ∀ kdfKey, ¬ Verifies prim io request password t.session.m_replayCache kdfKey) :
    (handleIncomingRequest prim io request password localVirtualIp t).2 = none ∧
      (handleIncomingRequest prim io request password localVirtualIp t).1.session.m_state =
        .Failed ∧
      ((handleIncomingRequest prim io request password localVirtualIp
            t).1.session.m_replayCache = t.session.m_replayCache ∨
        (handleIncomingRequest prim io request password localVirtualIp
            t).1.session.m_replayCache =
          t.session.m_replayCache.pruneExpired io.now io.again) := by
  have hcache : (t.reset.setState .Verifying).session.m_replayCache = t.session.m_replayCache := by
    rw [session_setState, session_reset]
  simp only [handleIncomingRequest]
  by_cases hreceiver : request.receiverDeviceId = io.deviceId
  · rw [if_neg (not_not.mpr hreceiver)]
    cases hvalid : isTimestampValid request.timestamp io.now io.again with
    | false => simp
    | true =>
        simp only [Bool.not_true, Bool.false_eq_true, if_false, hcache]
        cases hreplay : (t.session.m_replayCache.isReplayed request.sessionId
            (prim.sha256 request.buildTranscriptMessage) request.timestamp io.now io.again).1 with
        | true => simp [ReplayProtectionCache.isReplayed_snd]
        | false =>
            simp only [Bool.false_eq_true, if_false]
            cases hproof : authenticate prim io.toCryptoIo requestTexts password
                request.buildTranscriptMessage (decode64 request.ephemeralPublicKeyBase64)
                (decode64 request.saltBase64) (decode64 request.authProofBase64) with
            | error failure => simp [ReplayProtectionCache.isReplayed_snd]
            | ok kdfKey => exact absurd ⟨hreceiver, hvalid, hreplay, hproof⟩ (h kdfKey)
  · rw [if_pos hreceiver]
    simp

/-- **What a returned response means**: the checks, the response and the session. -/
lemma exists_of_handleIncomingRequest {response : PairingResponse}
    (h : (handleIncomingRequest prim io request password localVirtualIp t).2 = some response) :
    ∃ kdfKey secret,
      Verifies prim io request password t.session.m_replayCache kdfKey ∧
      Responds prim io (decode64 request.ephemeralPublicKeyBase64) secret ∧
      response = freshResponse prim io request localVirtualIp kdfKey
        (decode64 request.saltBase64) ∧
      (handleIncomingRequest prim io request password localVirtualIp t).1.session =
        { (verified prim io request t).session with
          m_state := .Paired
          m_ephemeralKeyPair := freshKeyPair prim io
          m_result := some (requestResult request secret)
          m_replayCache := (verified prim io request t).session.m_replayCache.registerSession
            (request.sessionId ++ "_resp") (prim.sha256 response.buildTranscriptMessage)
            io.later } := by
  by_cases hverifies :
      ∃ kdfKey, Verifies prim io request password t.session.m_replayCache kdfKey
  · obtain ⟨kdfKey, hverifies⟩ := hverifies
    have hkey : kdfKey ≠ [] := by
      rw [← (authenticate_eq_ok.mp hverifies.proof).2.2.2.2.2.1]
      exact kdf_ne_nil _ _
    rw [handleIncomingRequest_of_verifies hverifies] at h ⊢
    by_cases hresponds :
        ∃ secret, Responds prim io (decode64 request.ephemeralPublicKeyBase64) secret
    · obtain ⟨secret, hresponds⟩ := hresponds
      rw [(acceptRequest_of_responds hkey hresponds).1] at h
      obtain rfl := Option.some.inj h
      exact ⟨kdfKey, secret, hverifies, hresponds, rfl,
        (acceptRequest_of_responds hkey hresponds).2⟩
    · rw [(acceptRequest_of_not_responds (not_exists.mp hresponds)).1] at h
      cases h
  · rw [(handleIncomingRequest_of_not_verifies (not_exists.mp hverifies)).1] at h
    cases h

variable (prim io request password localVirtualIp t) in
lemma state_handleIncomingRequest :
    (handleIncomingRequest prim io request password localVirtualIp t).1.session.m_state =
        .Failed ∨
      (handleIncomingRequest prim io request password localVirtualIp t).1.session.m_state =
        .Paired := by
  by_cases hverifies : ∃ kdfKey, Verifies prim io request password t.session.m_replayCache kdfKey
  · obtain ⟨kdfKey, hverifies⟩ := hverifies
    have hkey : kdfKey ≠ [] := by
      rw [← (authenticate_eq_ok.mp hverifies.proof).2.2.2.2.2.1]
      exact kdf_ne_nil _ _
    rw [handleIncomingRequest_of_verifies hverifies]
    by_cases hresponds :
        ∃ secret, Responds prim io (decode64 request.ephemeralPublicKeyBase64) secret
    · obtain ⟨secret, hresponds⟩ := hresponds
      right
      rw [(acceptRequest_of_responds hkey hresponds).2]
    · exact .inl (acceptRequest_of_not_responds (not_exists.mp hresponds)).2.1
  · exact .inl (handleIncomingRequest_of_not_verifies (not_exists.mp hverifies)).2.1

/-! ### Responses -/

/-- The checks of `handleIncomingResponse`, and the secret it derives. -/
structure Concludes (prim : Primitives) (io : PairingIo) (response : PairingResponse)
    (password : String) (s : PairingSession) (secret : Bytes) : Prop where
  state : s.m_state = .AwaitingResponse
  sessionId : response.sessionId = s.m_sessionId
  receiver : response.receiverDeviceId = io.deviceId
  sender : response.senderDeviceId = s.m_peerDeviceId
  status : response.status = "accepted"
  valid : isTimestampValid response.timestamp io.now io.again = true
  fresh : (s.m_replayCache.isReplayed (response.sessionId ++ "_resp")
    (prim.sha256 response.buildTranscriptMessage) response.timestamp io.now io.again).1 = false
  proof : ∃ kdfKey, authenticate prim io.toCryptoIo responseTexts password
    response.buildTranscriptMessage (decode64 response.ephemeralPublicKeyBase64)
    (decode64 response.saltBase64) (decode64 response.authProofBase64) = .ok kdfKey
  secret : deriveSharedSecret prim io.toCryptoIo s.m_ephemeralKeyPair.privateKey
    (decode64 response.ephemeralPublicKeyBase64) = some secret

/-- The result that an initiator stores. -/
def responseResult (response : PairingResponse) (secret : Bytes) : PairingResult where
  peerDeviceId := response.senderDeviceId
  peerPublicKeyBase64 := response.ephemeralPublicKeyBase64
  peerVirtualIp := response.proposedVirtualIp
  sharedSecret := secret

variable {response : PairingResponse}

lemma handleIncomingResponse_of_concludes {secret : Bytes}
    (h : Concludes prim io response password t.session secret) :
    (handleIncomingResponse prim io response password t).2 = true ∧
      (handleIncomingResponse prim io response password t).1.session =
        { t.session with
          m_state := .Paired
          m_result := some (responseResult response secret)
          m_replayCache :=
            (t.session.m_replayCache.pruneExpired io.now io.again).registerSession
              (response.sessionId ++ "_resp") (prim.sha256 response.buildTranscriptMessage)
              response.timestamp } := by
  obtain ⟨kdfKey, hproof⟩ := h.proof
  have hids : ¬ (response.receiverDeviceId ≠ io.deviceId ∨
      response.senderDeviceId ≠ t.session.m_peerDeviceId) := by
    rw [not_or, not_not, not_not]
    exact ⟨h.receiver, h.sender⟩
  simp only [handleIncomingResponse, h.state, ne_eq, not_true_eq_false, if_false, session_setState,
    h.sessionId, if_neg hids, h.status, h.valid, Bool.not_true, Bool.false_eq_true]
  have hfresh := h.fresh
  rw [h.sessionId] at hfresh
  simp only [hfresh, Bool.false_eq_true, if_false, ReplayProtectionCache.isReplayed_snd, hproof,
    session_setReplayCache, session_setState, h.secret, session_succeed, session_registerSession]
  exact ⟨trivial, rfl⟩

lemma handleIncomingResponse_of_not_concludes
    (h : ∀ secret, ¬ Concludes prim io response password t.session secret) :
    (handleIncomingResponse prim io response password t).2 = false ∧
      (handleIncomingResponse prim io response password t).1.session.m_state = .Failed ∧
      ((handleIncomingResponse prim io response password t).1.session.m_replayCache =
          t.session.m_replayCache ∨
        (handleIncomingResponse prim io response password t).1.session.m_replayCache =
          t.session.m_replayCache.pruneExpired io.now io.again) := by
  rw [handleIncomingResponse]
  by_cases hstate : t.session.m_state = .AwaitingResponse
  · simp only [hstate, ne_eq, not_true_eq_false, if_false, session_setState]
    by_cases hsession : response.sessionId = t.session.m_sessionId
    · rw [if_neg (not_not.mpr hsession)]
      by_cases hids : ¬ response.receiverDeviceId = io.deviceId ∨
          ¬ response.senderDeviceId = t.session.m_peerDeviceId
      · rw [if_pos hids]
        simp
      · rw [if_neg hids]
        rw [not_or, not_not, not_not] at hids
        by_cases hstatus : response.status = "accepted"
        · rw [if_neg (not_not.mpr hstatus)]
          cases hvalid : isTimestampValid response.timestamp io.now io.again with
          | false => simp
          | true =>
              simp only [Bool.not_true, Bool.false_eq_true, if_false]
              cases hreplay : (t.session.m_replayCache.isReplayed (response.sessionId ++ "_resp")
                  (prim.sha256 response.buildTranscriptMessage) response.timestamp io.now
                  io.again).1 with
              | true => simp [ReplayProtectionCache.isReplayed_snd]
              | false =>
                  simp only [Bool.false_eq_true, if_false]
                  cases hproof : authenticate prim io.toCryptoIo responseTexts password
                      response.buildTranscriptMessage
                      (decode64 response.ephemeralPublicKeyBase64) (decode64 response.saltBase64)
                      (decode64 response.authProofBase64) with
                  | error failure => simp [ReplayProtectionCache.isReplayed_snd]
                  | ok kdfKey =>
                      simp only [session_setReplayCache, session_setState]
                      cases hsecret : deriveSharedSecret prim io.toCryptoIo
                          t.session.m_ephemeralKeyPair.privateKey
                          (decode64 response.ephemeralPublicKeyBase64) with
                      | none => simp [ReplayProtectionCache.isReplayed_snd]
                      | some secret =>
                          exact absurd ⟨hstate, hsession, hids.1, hids.2, hstatus, hvalid,
                            hreplay, ⟨kdfKey, hproof⟩, hsecret⟩ (h secret)
        · rw [if_pos hstatus]
          simp
    · rw [if_pos hsession]
      simp
  · rw [if_pos hstate]
    simp

/-- **What an accepted response means.** -/
lemma exists_of_handleIncomingResponse
    (h : (handleIncomingResponse prim io response password t).2 = true) :
    ∃ secret, Concludes prim io response password t.session secret := by
  by_contra hconcludes
  rw [(handleIncomingResponse_of_not_concludes (not_exists.mp hconcludes)).1] at h
  cases h

/-- **What a returned request means.** -/
lemma initiates_of_initiatePairing {peerDeviceId : String}
    (h : (initiatePairing prim io peerDeviceId password localVirtualIp t).2 = some request) :
    Initiates io peerDeviceId password ∧
      request = freshRequest prim io password peerDeviceId localVirtualIp := by
  by_cases hinitiates : Initiates io peerDeviceId password
  · rw [(initiatePairing_of_initiates hinitiates).1] at h
    exact ⟨hinitiates, (Option.some.inj h).symm⟩
  · rw [(initiatePairing_of_not_initiates hinitiates).1] at h
    cases h

end PairingTurn

/-! ### What a step shows -/

section Shown

open PairingTurn

variable {s : PairingSession} {e : PairingEvent} {q : PairingRequest}

/-- What a logged request comes from. -/
lemma exists_of_requested
    (h : PairingDeed.requested q ∈ ((PairingSession.machine prim).step s e).2) :
    ∃ io peer password ip, e = .initiatePairing io peer password ip ∧
      (initiatePairing prim io peer password ip ⟨s, []⟩).2 = some q := by
  cases e with
  | initiatePairing io peer password ip =>
      simp only [PairingSession.machine, PairingTurn.shown, List.mem_append, List.mem_map,
        reduceCtorEq, and_false, exists_false, false_or, Option.mem_toList, Option.map_eq_some_iff,
        PairingDeed.requested.injEq] at h
      obtain ⟨request, hrequest, rfl⟩ := h
      exact ⟨io, peer, password, ip, rfl, hrequest⟩
  | handleIncomingRequest io request password ip =>
      simp [PairingSession.machine, PairingTurn.shown] at h
  | handleIncomingResponse io response password =>
      simp only [PairingSession.machine, PairingTurn.shown, List.mem_append, List.mem_map,
        reduceCtorEq, and_false, exists_false, false_or] at h
      split_ifs at h <;> simp at h
  | cancelPairing => simp [PairingSession.machine, PairingTurn.shown] at h
  | reset => simp [PairingSession.machine, PairingTurn.shown] at h

/-- What a logged response comes from. -/
lemma exists_of_responded {response : PairingResponse}
    (h : PairingDeed.responded q response ∈ ((PairingSession.machine prim).step s e).2) :
    ∃ io password ip, e = .handleIncomingRequest io q password ip ∧
      (handleIncomingRequest prim io q password ip ⟨s, []⟩).2 = some response := by
  cases e with
  | initiatePairing io peer password ip =>
      simp [PairingSession.machine, PairingTurn.shown] at h
  | handleIncomingRequest io request password ip =>
      simp only [PairingSession.machine, PairingTurn.shown, List.mem_append, List.mem_map,
        reduceCtorEq, and_false, exists_false, false_or, Option.mem_toList, Option.map_eq_some_iff,
        PairingDeed.responded.injEq] at h
      obtain ⟨response', hresponse, rfl, rfl⟩ := h
      exact ⟨io, password, ip, rfl, hresponse⟩
  | handleIncomingResponse io response' password =>
      simp only [PairingSession.machine, PairingTurn.shown, List.mem_append, List.mem_map,
        reduceCtorEq, and_false, exists_false, false_or] at h
      split_ifs at h <;> simp at h
  | cancelPairing => simp [PairingSession.machine, PairingTurn.shown] at h
  | reset => simp [PairingSession.machine, PairingTurn.shown] at h

/-- What an accepted response comes from. -/
lemma exists_of_accepted {response : PairingResponse}
    (h : PairingDeed.accepted response ∈ ((PairingSession.machine prim).step s e).2) :
    ∃ io password, e = .handleIncomingResponse io response password ∧
      (handleIncomingResponse prim io response password ⟨s, []⟩).2 = true := by
  cases e with
  | initiatePairing io peer password ip =>
      simp [PairingSession.machine, PairingTurn.shown] at h
  | handleIncomingRequest io request password ip =>
      simp [PairingSession.machine, PairingTurn.shown] at h
  | handleIncomingResponse io response' password =>
      simp only [PairingSession.machine, PairingTurn.shown, List.mem_append, List.mem_map,
        reduceCtorEq, and_false, exists_false, false_or] at h
      split_ifs at h with hok
      · rw [List.mem_singleton, PairingDeed.accepted.injEq] at h
        exact ⟨io, password, h ▸ rfl, h ▸ hok⟩
      · cases h
  | cancelPairing => simp [PairingSession.machine, PairingTurn.shown] at h
  | reset => simp [PairingSession.machine, PairingTurn.shown] at h

/-- A session awaits a response since it made its request. -/
lemma requested_of_awaiting
    (h : ((PairingSession.machine prim).step s e).1.m_state = .AwaitingResponse) :
    ((PairingSession.machine prim).step s e).1 = s ∨
      ∃ request, PairingDeed.requested request ∈ ((PairingSession.machine prim).step s e).2 := by
  cases e with
  | initiatePairing io peer password ip =>
      by_cases hinitiates : Initiates io peer password
      · right
        refine ⟨freshRequest prim io password peer ip, List.mem_append_right _ ?_⟩
        rw [(initiatePairing_of_initiates hinitiates).1]
        exact List.mem_singleton_self _
      · have hfailed : (initiatePairing prim io peer password ip ⟨s, []⟩).1.session.m_state =
            .Failed := (initiatePairing_of_not_initiates hinitiates).2.1
        exact absurd (hfailed.symm.trans h) (by decide)
  | handleIncomingRequest io request password ip =>
      rcases state_handleIncomingRequest prim io password ⟨s, []⟩ request ip with hstate | hstate
      all_goals exact absurd (hstate.symm.trans h) (by decide)
  | handleIncomingResponse io response password =>
      by_cases hconcludes : ∃ secret, Concludes prim io response password s secret
      · obtain ⟨secret, hconcludes⟩ := hconcludes
        have hpaired : (handleIncomingResponse prim io response password
            ⟨s, []⟩).1.session.m_state = .Paired := by
          rw [(handleIncomingResponse_of_concludes hconcludes).2]
        exact absurd (hpaired.symm.trans h) (by decide)
      · have hfailed : (handleIncomingResponse prim io response password
            ⟨s, []⟩).1.session.m_state = .Failed :=
          (handleIncomingResponse_of_not_concludes (not_exists.mp hconcludes)).2.1
        exact absurd (hfailed.symm.trans h) (by decide)
  | cancelPairing =>
      rcases session_cancelPairing ⟨s, []⟩ with hsession | hsession
      · exact .inl hsession
      · have hidle : (cancelPairing ⟨s, []⟩).session.m_state = .Idle := by rw [hsession]
        exact absurd (hidle.symm.trans h) (by decide)
  | reset =>
      have hidle : (reset ⟨s, []⟩).session.m_state = .Idle := by rw [session_reset]
      exact absurd (hidle.symm.trans h) (by decide)

end Shown

end MeckChat.Crypto
