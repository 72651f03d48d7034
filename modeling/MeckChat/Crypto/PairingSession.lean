import MeckChat.Crypto.CryptoProvider
import MeckChat.Foundation.Run
import MeckChat.Protocol.PairingMessages

/-!
Pairing (`pairing_session.cpp`).

* `ReplayProtectionCache` remembers the sessions that were seen. `isReplayed` prunes
  it, so it returns the cache as well.
* `PairingSession` is the state of the class, and `PairingIo` collects what the
  surroundings decide during one call.
* In the namespace `PairingTurn`: the calls under the names of the source, on a
  session and the signals so far. What both handlers do with a proof is
  `authenticate`; `acceptRequest` is what `handleIncomingRequest` does behind it.
* `PairingSession.machine` runs the calls.
-/

namespace MeckChat.Crypto

open Protocol QByteArray CryptoProvider

/-- `PairingState`. -/
inductive PairingState where
  | Idle
  | Initiating
  | AwaitingResponse
  | AwaitingPeerApproval
  | Verifying
  | Paired
  | Failed
  deriving DecidableEq, Repr

/-- `PairingError`. -/
inductive PairingError where
  | None
  | InvalidMessage
  | AuthFailed
  | TimestampExpired
  | ReplayDetected
  | CryptoError
  | ProtocolMismatch
  | Cancelled
  | Timeout
  deriving DecidableEq, Repr

/-- `PairingResult`. -/
structure PairingResult where
  peerDeviceId : String
  peerPublicKeyBase64 : String
  peerVirtualIp : String
  sharedSecret : Bytes
  deriving DecidableEq, Repr

/-! ### The replay cache -/

/-- `REPLAY_WINDOW_SECONDS`. -/
def REPLAY_WINDOW_SECONDS : ℕ := 300

/-- `ReplayProtectionCache::Entry`. -/
structure ReplayEntry where
  timestamp : ℤ
  transcriptHash : Bytes
  deriving DecidableEq, Repr

/-- `ReplayProtectionCache`. -/
structure ReplayProtectionCache where
  m_seenSessions : QMap String ReplayEntry := ∅

/-- The time of a check: the argument if it is positive, else the clock. -/
def effectiveTime (currentTimestamp clock : ℤ) : ℤ :=
  if 0 < currentTimestamp then currentTimestamp else clock

/-- `ReplayProtectionCache::isTimestampValid`. -/
def isTimestampValid (timestamp currentTimestamp clock : ℤ) : Bool :=
  if timestamp ≤ 0 then false
  else (effectiveTime currentTimestamp clock - timestamp).natAbs ≤ REPLAY_WINDOW_SECONDS

namespace ReplayProtectionCache

/-- `ReplayProtectionCache::pruneExpired`. -/
def pruneExpired (currentTimestamp clock : ℤ) (c : ReplayProtectionCache) : ReplayProtectionCache :=
  ⟨c.m_seenSessions.filter fun _ entry =>
    (effectiveTime currentTimestamp clock - entry.timestamp).natAbs ≤ REPLAY_WINDOW_SECONDS⟩

/-- `ReplayProtectionCache::isReplayed`: the answer, and the cache it leaves. -/
def isReplayed (sessionId : String) (transcriptHash : Bytes)
    (timestamp currentTimestamp clock : ℤ) (c : ReplayProtectionCache) :
    Bool × ReplayProtectionCache :=
  let c := c.pruneExpired currentTimestamp clock
  if sessionId = "" ∨ transcriptHash = [] then (true, c)
  else if !isTimestampValid timestamp currentTimestamp clock then (true, c)
  else if (c.m_seenSessions.value? sessionId).isSome then (true, c)
  else (c.m_seenSessions.toList.any fun seen => seen.2.transcriptHash = transcriptHash, c)

/-- `ReplayProtectionCache::registerSession`. -/
def registerSession (sessionId : String) (transcriptHash : Bytes) (timestamp : ℤ)
    (c : ReplayProtectionCache) : ReplayProtectionCache :=
  if sessionId = "" ∨ transcriptHash = [] then c
  else ⟨c.m_seenSessions.insert sessionId ⟨timestamp, transcriptHash⟩⟩

end ReplayProtectionCache

/-! ### The session -/

/-- `PairingSession`. -/
structure PairingSession where
  m_state : PairingState := .Idle
  m_lastError : PairingError := .None
  m_lastErrorString : String := ""
  m_sessionId : String := ""
  m_peerDeviceId : String := ""
  m_ephemeralKeyPair : KeyPair := {}
  m_salt : Bytes := []
  m_result : Option PairingResult := none
  m_replayCache : ReplayProtectionCache := {}

/-- The signals of the session. -/
inductive PairingSignal where
  | stateChanged (newState : PairingState)
  | pairingSucceeded (result : PairingResult)
  | pairingFailed (error : PairingError) (reason : String)
  deriving DecidableEq, Repr

/-- What the surroundings decide during one call: what `AppConfig` holds, the
readings of the clock, the next UUID, and the cryptographic calls. -/
structure PairingIo extends CryptoIo where
  deviceId : String := ""
  virtualIp : String := ""
  now : ℤ := 0
  /-- The clock where the cache reads it again. -/
  again : ℤ := now
  /-- The clock when the response is made. -/
  later : ℤ := now
  uuid : String := ""
  deriving DecidableEq, Repr

/-- A session while a call works on it. -/
structure PairingTurn where
  session : PairingSession
  signals : List PairingSignal := []

/-- The texts of the errors of `authenticate`. -/
structure AuthTexts where
  malformed : String
  derivation : String
  computation : String
  mismatch : String

/-- The texts of `handleIncomingRequest`. -/
def requestTexts : AuthTexts where
  malformed := "Malformed public key, salt, or auth proof size."
  derivation := "Argon2id derivation failed on request verification."
  computation := "Failed to compute expected authentication proof."
  mismatch := "Pairing authentication failed: Incorrect shared secret password or proof mismatch."

/-- The texts of `handleIncomingResponse`. -/
def responseTexts : AuthTexts where
  malformed := "Malformed response public key, salt, or proof size."
  derivation := "Argon2id derivation failed on response verification."
  computation := "Failed to compute expected response proof."
  mismatch := "Peer response authentication failed: Proof mismatch or invalid password."

/-- `QByteArray::fromBase64(text.toUtf8())`. -/
def decode64 (text : String) : Bytes := fromBase64 (QString.toUtf8 text)

variable (prim : Primitives)

/-- The sizes are checked, the key is derived and the proof verified: the derived key,
or the error. -/
def authenticate (io : CryptoIo) (texts : AuthTexts) (sharedSecretPassword : String)
    (transcript peerPubKey salt peerProof : Bytes) : Except (PairingError × String) Bytes :=
  if peerPubKey.length ≠ 32 ∨ salt.length < 8 ∨ peerProof.length ≠ 32 then
    .error (.InvalidMessage, texts.malformed)
  else
    match deriveArgon2idKey prim io sharedSecretPassword salt with
    | none => .error (.CryptoError, texts.derivation)
    | some kdfKey =>
        match computeHmacSha256 prim io.hmacOk kdfKey transcript with
        | none => .error (.CryptoError, texts.computation)
        | some expectedProof =>
            if verifyHmacConstantTime expectedProof peerProof then .ok kdfKey
            else .error (.AuthFailed, texts.mismatch)

namespace PairingTurn

/-- `emit`. -/
def emit (t : PairingTurn) (s : PairingSignal) : PairingTurn :=
  { t with signals := t.signals ++ [s] }

/-- `PairingSession::setState`. -/
def setState (state : PairingState) (t : PairingTurn) : PairingTurn :=
  if t.session.m_state ≠ state then
    emit { t with session.m_state := state } (.stateChanged state)
  else t

/-- `PairingSession::setFailed`. -/
def setFailed (error : PairingError) (reason : String) (t : PairingTurn) : PairingTurn :=
  { t with session.m_lastError := error, session.m_lastErrorString := reason }
    |>.setState .Failed
    |>.emit (.pairingFailed error reason)

/-- `PairingSession::reset`. -/
def reset (t : PairingTurn) : PairingTurn :=
  { t with session := {
      m_state := t.session.m_state
      m_replayCache := t.session.m_replayCache } }
    |>.setState .Idle

/-- `PairingSession::cancelPairing`. -/
def cancelPairing (t : PairingTurn) : PairingTurn :=
  if t.session.m_state ≠ .Idle ∧ t.session.m_state ≠ .Failed then
    (t.setFailed .Cancelled "Pairing cancelled by local user.").reset
  else t

/-- `m_replayCache = cache`. -/
def setReplayCache (cache : ReplayProtectionCache) (t : PairingTurn) : PairingTurn :=
  { t with session.m_replayCache := cache }

/-- `m_replayCache.registerSession(sessionId, transcriptHash, timestamp)`. -/
def registerSession (sessionId : String) (transcriptHash : Bytes) (timestamp : ℤ)
    (t : PairingTurn) : PairingTurn :=
  t.setReplayCache (t.session.m_replayCache.registerSession sessionId transcriptHash timestamp)

/-- `m_ephemeralKeyPair = keyPair`. -/
def setKeyPair (keyPair : KeyPair) (t : PairingTurn) : PairingTurn :=
  { t with session.m_ephemeralKeyPair := keyPair }

/-- `m_result = result`, the state `Paired`, and its signal. -/
def succeed (result : PairingResult) (t : PairingTurn) : PairingTurn :=
  { t with session.m_result := some result }
    |>.setState .Paired
    |>.emit (.pairingSucceeded result)

/-- `PairingSession::initiatePairing`. -/
def initiatePairing (io : PairingIo) (peerDeviceId sharedSecretPassword localVirtualIp : String)
    (t : PairingTurn) : PairingTurn × Option PairingRequest :=
  let t := t.reset.setState .Initiating
  if io.deviceId = "" ∨ peerDeviceId = "" ∨ sharedSecretPassword = "" then
    (t.setFailed .InvalidMessage "Device IDs and shared secret password cannot be empty.", none)
  else
    match generateX25519KeyPair prim io.toCryptoIo with
    | none => (t.setFailed .CryptoError "Failed to generate ephemeral X25519 keypair.", none)
    | some keyPair =>
        let t := t.setKeyPair keyPair
        let t := { t with session.m_salt := io.salt }
        if io.salt.length ≠ 16 then
          (t.setFailed .CryptoError "Failed to generate CSPRNG salt.", none)
        else
          match deriveArgon2idKey prim io.toCryptoIo sharedSecretPassword io.salt with
          | none => (t.setFailed .CryptoError "Argon2id derivation failed.", none)
          | some kdfKey =>
              let t :=
                { t with session.m_sessionId := io.uuid, session.m_peerDeviceId := peerDeviceId }
              let req : PairingRequest := {
                sessionId := io.uuid
                senderDeviceId := io.deviceId
                receiverDeviceId := peerDeviceId
                timestamp := io.now
                saltBase64 := toBase64 io.salt
                ephemeralPublicKeyBase64 := toBase64 keyPair.publicKey
                proposedVirtualIp := if localVirtualIp = "" then io.virtualIp else localVirtualIp
                authProofBase64 := "" }
              let transcript := req.buildTranscriptMessage
              match computeHmacSha256 prim io.hmacOk kdfKey transcript with
              | none => (t.setFailed .CryptoError "HMAC-SHA256 proof computation failed.", none)
              | some proof =>
                  let req := { req with authProofBase64 := toBase64 proof }
                  let t := t.registerSession req.sessionId (prim.sha256 transcript) req.timestamp
                  (t.setState .AwaitingResponse, some req)

/-- `PairingSession::handleIncomingRequest` once the proof of the request is verified. -/
def acceptRequest (io : PairingIo) (request : PairingRequest) (localVirtualIp : String)
    (kdfKey peerPubKey salt : Bytes) (t : PairingTurn) : PairingTurn × Option PairingResponse :=
  match generateX25519KeyPair prim io.toCryptoIo with
  | none => (t.setFailed .CryptoError "Failed to generate responder ephemeral keypair.", none)
  | some keyPair =>
      let t := t.setKeyPair keyPair
      match deriveSharedSecret prim io.toCryptoIo keyPair.privateKey peerPubKey with
      | none => (t.setFailed .CryptoError "ECDH shared secret derivation failed.", none)
      | some sharedSecret =>
          let resp : PairingResponse := {
            sessionId := request.sessionId
            senderDeviceId := io.deviceId
            receiverDeviceId := request.senderDeviceId
            timestamp := io.later
            saltBase64 := toBase64 salt
            ephemeralPublicKeyBase64 := toBase64 keyPair.publicKey
            proposedVirtualIp := if localVirtualIp = "" then io.virtualIp else localVirtualIp
            authProofBase64 := ""
            status := "accepted" }
          let respTranscript := resp.buildTranscriptMessage
          match computeHmacSha256 prim io.responseHmacOk kdfKey respTranscript with
          | none => (t.setFailed .CryptoError "Failed to compute response proof.", none)
          | some proof =>
              let resp := { resp with authProofBase64 := toBase64 proof }
              let t := t.registerSession (resp.sessionId ++ "_resp") (prim.sha256 respTranscript)
                resp.timestamp
              (t.succeed {
                peerDeviceId := request.senderDeviceId
                peerPublicKeyBase64 := request.ephemeralPublicKeyBase64
                peerVirtualIp := request.proposedVirtualIp
                sharedSecret }, some resp)

/-- `PairingSession::handleIncomingRequest`. -/
def handleIncomingRequest (io : PairingIo) (request : PairingRequest)
    (sharedSecretPassword localVirtualIp : String) (t : PairingTurn) :
    PairingTurn × Option PairingResponse :=
  let t := t.reset.setState .Verifying
  if request.receiverDeviceId ≠ io.deviceId then
    (t.setFailed .InvalidMessage "Pairing request is addressed to a different device ID.", none)
  else if !isTimestampValid request.timestamp io.now io.again then
    (t.setFailed .TimestampExpired ("Pairing request timestamp expired (|" ++ toString io.now ++
      " - " ++ toString request.timestamp ++ "| > 300s)."), none)
  else
    let transcript := request.buildTranscriptMessage
    let transcriptHash := prim.sha256 transcript
    let replay := t.session.m_replayCache.isReplayed request.sessionId transcriptHash
      request.timestamp io.now io.again
    let t := t.setReplayCache replay.2
    if replay.1 then
      (t.setFailed .ReplayDetected "Replayed pairing request detected.", none)
    else
      let peerPubKey := decode64 request.ephemeralPublicKeyBase64
      let salt := decode64 request.saltBase64
      match authenticate prim io.toCryptoIo requestTexts sharedSecretPassword transcript peerPubKey
        salt (decode64 request.authProofBase64) with
      | .error failure => (t.setFailed failure.1 failure.2, none)
      | .ok kdfKey =>
          acceptRequest prim io request localVirtualIp kdfKey peerPubKey salt
            (t.registerSession request.sessionId transcriptHash request.timestamp)

/-- `PairingSession::handleIncomingResponse`. -/
def handleIncomingResponse (io : PairingIo) (response : PairingResponse)
    (sharedSecretPassword : String) (t : PairingTurn) : PairingTurn × Bool :=
  if t.session.m_state ≠ .AwaitingResponse then
    (t.setFailed .InvalidMessage
      "Unexpected pairing response received in non-awaiting state.", false)
  else
    let t := t.setState .Verifying
    if response.sessionId ≠ t.session.m_sessionId then
      (t.setFailed .InvalidMessage "Session ID mismatch in pairing response.", false)
    else if response.receiverDeviceId ≠ io.deviceId ∨
        response.senderDeviceId ≠ t.session.m_peerDeviceId then
      (t.setFailed .InvalidMessage "Device ID mismatch in pairing response.", false)
    else if response.status ≠ "accepted" then
      (t.setFailed .AuthFailed
        (response.errorMessage.getD "Peer rejected pairing request."), false)
    else if !isTimestampValid response.timestamp io.now io.again then
      (t.setFailed .TimestampExpired "Pairing response timestamp expired (>300s).", false)
    else
      let respTranscript := response.buildTranscriptMessage
      let respTranscriptHash := prim.sha256 respTranscript
      let replay := t.session.m_replayCache.isReplayed (response.sessionId ++ "_resp")
        respTranscriptHash response.timestamp io.now io.again
      let t := t.setReplayCache replay.2
      if replay.1 then
        (t.setFailed .ReplayDetected "Replayed pairing response detected.", false)
      else
        let peerPubKey := decode64 response.ephemeralPublicKeyBase64
        match authenticate prim io.toCryptoIo responseTexts sharedSecretPassword respTranscript
          peerPubKey (decode64 response.saltBase64) (decode64 response.authProofBase64) with
        | .error failure => (t.setFailed failure.1 failure.2, false)
        | .ok _ =>
            match deriveSharedSecret prim io.toCryptoIo t.session.m_ephemeralKeyPair.privateKey
              peerPubKey with
            | none =>
                (t.setFailed .CryptoError "ECDH shared secret derivation failed on initiator side.",
                  false)
            | some sharedSecret =>
                let t := t.registerSession (response.sessionId ++ "_resp") respTranscriptHash
                  response.timestamp
                (t.succeed {
                  peerDeviceId := response.senderDeviceId
                  peerPublicKeyBase64 := response.ephemeralPublicKeyBase64
                  peerVirtualIp := response.proposedVirtualIp
                  sharedSecret }, true)

end PairingTurn

/-! ### The machine -/

/-- The calls of a session. -/
inductive PairingEvent where
  | initiatePairing (io : PairingIo) (peerDeviceId sharedSecretPassword localVirtualIp : String)
  | handleIncomingRequest (io : PairingIo) (request : PairingRequest)
      (sharedSecretPassword localVirtualIp : String)
  | handleIncomingResponse (io : PairingIo) (response : PairingResponse)
      (sharedSecretPassword : String)
  | cancelPairing
  | reset

/-- What a call shows: its signals, the message it returns to be sent, and the
response it accepts. -/
inductive PairingDeed where
  | signal (signal : PairingSignal)
  | requested (request : PairingRequest)
  | responded (request : PairingRequest) (response : PairingResponse)
  | accepted (response : PairingResponse)
  deriving DecidableEq, Repr

/-- The signals of a turn. -/
def PairingTurn.shown (t : PairingTurn) : List PairingDeed := t.signals.map .signal

/-- The calls, one after the other. -/
def PairingSession.machine : Machine PairingSession PairingEvent PairingDeed where
  step s
    | .initiatePairing io peerDeviceId sharedSecretPassword localVirtualIp =>
        let r := PairingTurn.initiatePairing prim io peerDeviceId sharedSecretPassword
          localVirtualIp ⟨s, []⟩
        (r.1.session, r.1.shown ++ (r.2.map PairingDeed.requested).toList)
    | .handleIncomingRequest io request sharedSecretPassword localVirtualIp =>
        let r := PairingTurn.handleIncomingRequest prim io request sharedSecretPassword
          localVirtualIp ⟨s, []⟩
        (r.1.session, r.1.shown ++ (r.2.map (PairingDeed.responded request)).toList)
    | .handleIncomingResponse io response sharedSecretPassword =>
        let r := PairingTurn.handleIncomingResponse prim io response sharedSecretPassword ⟨s, []⟩
        (r.1.session, r.1.shown ++ if r.2 then [.accepted response] else [])
    | .cancelPairing =>
        let t := PairingTurn.cancelPairing ⟨s, []⟩
        (t.session, t.shown)
    | .reset =>
        let t := PairingTurn.reset ⟨s, []⟩
        (t.session, t.shown)

end MeckChat.Crypto
