import MeckChat.Protocol.ChatMessages
import MeckChat.Qt.QByteArray

/-!
The messages of pairing (`models.cpp`): requests and responses with `toJson`,
`fromJson` and the round trip between them, and the bytes that are authenticated.

* `key_of_transcript_eq`: the authenticated bytes determine the public key, because a
  text that decodes to 32 bytes has 43 digits.
* `sender_of_transcript_eq`: they determine the sender only where the id of the
  receiver can be told from the timestamp behind it.
* `transcript_determines`: what two accepted messages with the same authenticated bytes
  have in common; `transcript_with_two_senders` shows two that differ.
-/

namespace MeckChat.Protocol

open QJson QByteArray

/-- `PairingRequest`. -/
structure PairingRequest where
  sessionId : String
  senderDeviceId : String
  receiverDeviceId : String
  timestamp : ℤ := 0
  saltBase64 : String
  ephemeralPublicKeyBase64 : String
  proposedVirtualIp : String
  authProofBase64 : String
  deriving DecidableEq, Repr

/-- `PairingRequest::toJson`, with the reading of the clock. -/
def PairingRequest.toJson (now : ℤ) (r : PairingRequest) : JsonObject :=
  (∅ : JsonObject)
    |>.insert "type" (.string "pairing_request")
    |>.insert "protocol_version" (.integer 1)
    |>.insert "session_id" (.string r.sessionId)
    |>.insert "sender_device_id" (.string r.senderDeviceId)
    |>.insert "receiver_device_id" (.string r.receiverDeviceId)
    |>.insert "timestamp" (.integer (stamp r.timestamp now))
    |>.insert "salt" (.string r.saltBase64)
    |>.insert "ephemeral_public_key" (.string r.ephemeralPublicKeyBase64)
    |>.insert "proposed_virtual_ip" (.string r.proposedVirtualIp)
    |>.insert "auth_proof" (.string r.authProofBase64)

/-- `PairingRequest::fromJson`: no field may be empty. -/
def PairingRequest.fromJson (json : JsonObject) : Option PairingRequest :=
  if toString (json.value? "type") ≠ "pairing_request" then none
  else
    let sessId := toString (json.value? "session_id")
    let sender := toString (json.value? "sender_device_id")
    let receiver := toString (json.value? "receiver_device_id")
    let salt := toString (json.value? "salt")
    let pubKey := toString (json.value? "ephemeral_public_key")
    let virtIp := toString (json.value? "proposed_virtual_ip")
    let proof := toString (json.value? "auth_proof")
    let ts := toInteger (json.value? "timestamp")
    if sessId = "" ∨ sender = "" ∨ receiver = "" ∨ salt = "" ∨ pubKey = "" ∨ virtIp = "" ∨
        proof = "" ∨ ts ≤ 0 then none
    else some {
      sessionId := sessId
      senderDeviceId := sender
      receiverDeviceId := receiver
      timestamp := ts
      saltBase64 := salt
      ephemeralPublicKeyBase64 := pubKey
      proposedVirtualIp := virtIp
      authProofBase64 := proof }

/-- `PairingRequest::buildTranscriptMessage`. -/
def PairingRequest.buildTranscriptMessage (r : PairingRequest) : Bytes :=
  QString.toUtf8 r.senderDeviceId ++ QString.toUtf8 r.receiverDeviceId ++ number r.timestamp ++
    QString.toUtf8 r.ephemeralPublicKeyBase64

/-- `PairingResponse`. -/
structure PairingResponse where
  sessionId : String
  senderDeviceId : String
  receiverDeviceId : String
  timestamp : ℤ := 0
  saltBase64 : String
  ephemeralPublicKeyBase64 : String
  proposedVirtualIp : String
  authProofBase64 : String
  status : String := "accepted"
  errorMessage : Option String := none
  deriving DecidableEq, Repr

/-- `PairingResponse::toJson`, with the reading of the clock. -/
def PairingResponse.toJson (now : ℤ) (r : PairingResponse) : JsonObject :=
  let obj := (∅ : JsonObject)
    |>.insert "type" (.string "pairing_response")
    |>.insert "protocol_version" (.integer 1)
    |>.insert "session_id" (.string r.sessionId)
    |>.insert "sender_device_id" (.string r.senderDeviceId)
    |>.insert "receiver_device_id" (.string r.receiverDeviceId)
    |>.insert "timestamp" (.integer (stamp r.timestamp now))
    |>.insert "salt" (.string r.saltBase64)
    |>.insert "ephemeral_public_key" (.string r.ephemeralPublicKeyBase64)
    |>.insert "proposed_virtual_ip" (.string r.proposedVirtualIp)
    |>.insert "auth_proof" (.string r.authProofBase64)
    |>.insert "status" (.string r.status)
  match r.errorMessage with
  | some text => obj.insert "error_message" (.string text)
  | none => obj

/-- `PairingResponse::fromJson`: a status that is missing is `accepted`. -/
def PairingResponse.fromJson (json : JsonObject) : Option PairingResponse :=
  if toString (json.value? "type") ≠ "pairing_response" then none
  else
    let sessId := toString (json.value? "session_id")
    let sender := toString (json.value? "sender_device_id")
    let receiver := toString (json.value? "receiver_device_id")
    let salt := toString (json.value? "salt")
    let pubKey := toString (json.value? "ephemeral_public_key")
    let virtIp := toString (json.value? "proposed_virtual_ip")
    let proof := toString (json.value? "auth_proof")
    let ts := toInteger (json.value? "timestamp")
    if sessId = "" ∨ sender = "" ∨ receiver = "" ∨ salt = "" ∨ pubKey = "" ∨ virtIp = "" ∨
        proof = "" ∨ ts ≤ 0 then none
    else some {
      sessionId := sessId
      senderDeviceId := sender
      receiverDeviceId := receiver
      timestamp := ts
      saltBase64 := salt
      ephemeralPublicKeyBase64 := pubKey
      proposedVirtualIp := virtIp
      authProofBase64 := proof
      status := toString (json.value? "status") "accepted"
      errorMessage :=
        if (json.value? "error_message").isSome ∧ json.value? "error_message" ≠ some .null then
          some (toString (json.value? "error_message"))
        else none }

/-- `PairingResponse::buildTranscriptMessage`. -/
def PairingResponse.buildTranscriptMessage (r : PairingResponse) : Bytes :=
  QString.toUtf8 r.senderDeviceId ++ QString.toUtf8 r.receiverDeviceId ++ number r.timestamp ++
    QString.toUtf8 r.ephemeralPublicKeyBase64

/-! ### Round trips -/

lemma stamp_of_pos {timestamp : ℤ} (h : 0 < timestamp) (now : ℤ) :
    stamp timestamp now = timestamp :=
  if_pos h

lemma PairingRequest.fromJson_toJson {r : PairingRequest} (now : ℤ) (hsession : r.sessionId ≠ "")
    (hsender : r.senderDeviceId ≠ "") (hreceiver : r.receiverDeviceId ≠ "")
    (hsalt : r.saltBase64 ≠ "") (hkey : r.ephemeralPublicKeyBase64 ≠ "")
    (hip : r.proposedVirtualIp ≠ "") (hproof : r.authProofBase64 ≠ "") (ht : 0 < r.timestamp) :
    PairingRequest.fromJson (r.toJson now) = some r := by
  simp [PairingRequest.fromJson, PairingRequest.toJson, QMap.value?_insert, hsession, hsender,
    hreceiver, hsalt, hkey, hip, hproof, stamp_of_pos ht, ht]

lemma PairingResponse.fromJson_toJson {r : PairingResponse} (now : ℤ) (hsession : r.sessionId ≠ "")
    (hsender : r.senderDeviceId ≠ "") (hreceiver : r.receiverDeviceId ≠ "")
    (hsalt : r.saltBase64 ≠ "") (hkey : r.ephemeralPublicKeyBase64 ≠ "")
    (hip : r.proposedVirtualIp ≠ "") (hproof : r.authProofBase64 ≠ "") (ht : 0 < r.timestamp) :
    PairingResponse.fromJson (r.toJson now) = some r := by
  cases herror : r.errorMessage with
  | none =>
      simp [PairingResponse.fromJson, PairingResponse.toJson, QMap.value?_insert, hsession, hsender,
        hreceiver, hsalt, hkey, hip, hproof, stamp_of_pos ht, ht, herror]
      rw [← herror]
  | some text =>
      simp [PairingResponse.fromJson, PairingResponse.toJson, QMap.value?_insert, hsession, hsender,
        hreceiver, hsalt, hkey, hip, hproof, stamp_of_pos ht, ht, herror]
      rw [← herror]

/-! ### What the authenticated bytes determine -/

variable {sender receiver : String} {t : ℤ}

/-- The authenticated bytes of ids, a timestamp and a public key. -/
def transcript (sender receiver : String) (t : ℤ) (key : String) : Bytes :=
  QString.toUtf8 sender ++ QString.toUtf8 receiver ++ number t ++ QString.toUtf8 key

/-- The bytes in front of the public key. -/
def transcriptHead (sender receiver : String) (t : ℤ) : Bytes :=
  QString.toUtf8 sender ++ QString.toUtf8 receiver ++ number t

/-- The last byte in front of the key is a digit. -/
lemma isDigit_of_suffix_head {w : Bytes} (hne : w ≠ [])
    (hw : w <:+ transcriptHead sender receiver t) : 0 < w.countP isDigit := by
  have hsuffix : number t <:+ transcriptHead sender receiver t := List.suffix_append _ _
  have hdecimal : isDecimal (w.getLast hne) = true := by
    rw [hw.getLast hne, ← hsuffix.getLast (number_ne_nil t)]
    exact isDecimal_getLast_number t
  rw [List.countP_pos_iff]
  exact ⟨_, List.getLast_mem hne, isDigit_of_isDecimal hdecimal⟩

/-- **The public key is authenticated.** Texts that decode to 32 bytes and close the
same bytes are equal. -/
theorem key_of_transcript_eq {sender' receiver' key key' : String} {t' : ℤ}
    (hkey : (fromBase64 (QString.toUtf8 key)).length = 32)
    (hkey' : (fromBase64 (QString.toUtf8 key')).length = 32)
    (h : transcript sender' receiver' t' key' = transcript sender receiver t key) :
    key' = key ∧ transcriptHead sender' receiver' t' = transcriptHead sender receiver t := by
  have hcount := countP_eq_of_length hkey
  have hcount' := countP_eq_of_length hkey'
  rcases List.append_eq_append_iff.mp h with ⟨w, hhead, htail⟩ | ⟨w, hhead, htail⟩
  · by_cases hw : w = []
    · subst hw
      rw [List.append_nil] at hhead
      exact ⟨QString.toUtf8_injective htail, hhead.symm⟩
    · -- the key would begin with a digit of the timestamp
      have hpos := isDigit_of_suffix_head hw ⟨transcriptHead sender' receiver' t', hhead.symm⟩
      rw [htail, List.countP_append] at hcount'
      omega
  · by_cases hw : w = []
    · subst hw
      rw [List.append_nil] at hhead
      exact ⟨(QString.toUtf8_injective htail).symm, hhead⟩
    · have hpos := isDigit_of_suffix_head hw ⟨transcriptHead sender receiver t, hhead.symm⟩
      rw [htail, List.countP_append] at hcount
      omega

/-- The decimal digits at the end of a byte string. -/
def decimalTail (bs : Bytes) : Bytes := bs.rtakeWhile isDecimal

lemma decimalTail_append {as bs : Bytes} (h : ∀ ch ∈ bs, isDecimal ch = true) :
    decimalTail (as ++ bs) = decimalTail as ++ bs := by
  induction bs using List.reverseRecOn with
  | nil => rw [List.append_nil, List.append_nil]
  | append_singleton bs ch ih =>
      have hch := h ch (by simp)
      rw [decimalTail, ← List.append_assoc, List.rtakeWhile_concat_pos _ _ _ hch,
        ← decimalTail, ih fun c hc => h c (by simp [hc]), List.append_assoc]

/-- A byte that is no decimal digit hides what is in front of it. -/
lemma decimalTail_append_left {as bs : Bytes} (h : ∃ ch ∈ bs, isDecimal ch = false) :
    decimalTail (as ++ bs) = decimalTail bs := by
  induction bs using List.reverseRecOn with
  | nil =>
      obtain ⟨ch, hch, -⟩ := h
      cases hch
  | append_singleton bs c ih =>
      by_cases hc : isDecimal c = true
      · obtain ⟨ch, hch, hfalse⟩ := h
        rw [List.mem_append, List.mem_singleton] at hch
        rcases hch with hch | rfl
        · rw [decimalTail, decimalTail, ← List.append_assoc, List.rtakeWhile_concat_pos _ _ _ hc,
            List.rtakeWhile_concat_pos _ _ _ hc, ← decimalTail, ih ⟨ch, hch, hfalse⟩, decimalTail]
        · rw [hfalse] at hc
          cases hc
      · rw [decimalTail, decimalTail, ← List.append_assoc, List.rtakeWhile_concat_neg _ _ _ hc,
          List.rtakeWhile_concat_neg _ _ _ hc]

/-- A device id that cannot run into the timestamp behind it. -/
def Delimits (deviceId : String) : Prop := ∃ ch ∈ QString.toUtf8 deviceId, isDecimal ch = false

/-- **The sender is authenticated** where the receiver is the same and its id has a
character that is no decimal digit, so that no digit of a positive timestamp can move
into it, or the timestamps have the same length. -/
theorem sender_of_transcript_eq {sender' : String} {t' : ℤ} (ht' : 0 < t')
    (hreceiver : (0 < t ∧ Delimits receiver) ∨ (number t').length = (number t).length)
    (h : transcriptHead sender' receiver t' = transcriptHead sender receiver t) :
    sender' = sender := by
  have hnumber : number t' = number t := by
    rcases hreceiver with ⟨ht, hreceiver⟩ | hlength
    · have htails := congrArg decimalTail h
      rw [transcriptHead, transcriptHead,
        decimalTail_append fun ch hch => isDecimal_of_mem_number ht'.le hch,
        decimalTail_append fun ch hch => isDecimal_of_mem_number ht.le hch,
        decimalTail_append_left hreceiver, decimalTail_append_left hreceiver] at htails
      exact List.append_cancel_left htails
    · exact (List.append_inj' h hlength).2
  rw [transcriptHead, transcriptHead, hnumber, List.append_cancel_right_eq,
    List.append_cancel_right_eq] at h
  exact QString.toUtf8_injective h

/-- **The fields of one transcript** are the same exactly if they begin at the same places. -/
lemma fields_of_transcript_eq {sender' receiver' key key' : String} {t' : ℤ} (ht : 0 < t)
    (ht' : 0 < t') (h : transcript sender' receiver' t' key' = transcript sender receiver t key) :
    (sender' = sender ∧ receiver' = receiver ∧ t' = t ∧ key' = key) ↔
      (QString.toUtf8 sender').length = (QString.toUtf8 sender).length ∧
        (QString.toUtf8 receiver').length = (QString.toUtf8 receiver).length ∧
        (number t').length = (number t).length := by
  constructor
  · rintro ⟨rfl, rfl, rfl, -⟩
    exact ⟨rfl, rfl, rfl⟩
  · rintro ⟨hsender, hreceiver, hnumber⟩
    rw [transcript, transcript, List.append_assoc, List.append_assoc, List.append_assoc,
      List.append_assoc] at h
    obtain ⟨hs, h⟩ := List.append_inj h hsender
    obtain ⟨hr, h⟩ := List.append_inj h hreceiver
    obtain ⟨hn, hk⟩ := List.append_inj h hnumber
    exact ⟨QString.toUtf8_injective hs, QString.toUtf8_injective hr, number_inj ht'.le ht.le hn,
      QString.toUtf8_injective hk⟩

/-- What two messages with one transcript have in common. -/
structure Unambiguous (sender receiver : String) (t : ℤ) (key sender' receiver' : String) (t' : ℤ)
    (key' : String) : Prop where
  fields : (sender' = sender ∧ receiver' = receiver ∧ t' = t ∧ key' = key) ↔
    (QString.toUtf8 sender').length = (QString.toUtf8 sender).length ∧
      (QString.toUtf8 receiver').length = (QString.toUtf8 receiver).length ∧
      (number t').length = (number t).length
  key : (fromBase64 (QString.toUtf8 key)).length = 32 →
    (fromBase64 (QString.toUtf8 key')).length = 32 → key' = key

lemma PairingRequest.timestamp_pos {json : JsonObject} {r : PairingRequest}
    (h : PairingRequest.fromJson json = some r) : 0 < r.timestamp := by
  simp only [PairingRequest.fromJson] at h
  split_ifs at h with htype hbad
  obtain rfl := Option.some_inj.mp h
  simp only [not_or, not_le] at hbad
  exact hbad.2.2.2.2.2.2.2

lemma PairingResponse.timestamp_pos {json : JsonObject} {r : PairingResponse}
    (h : PairingResponse.fromJson json = some r) : 0 < r.timestamp := by
  simp only [PairingResponse.fromJson] at h
  split at h
  · cases h
  · split at h
    · cases h
    · next hbad =>
        obtain rfl := Option.some_inj.mp h
        simp only [not_or, not_le] at hbad
        exact hbad.2.2.2.2.2.2.2

/-- **What a transcript determines.** Two messages that are accepted and have one transcript have
the same public key, and the same other fields exactly if the texts of these are equally long.
The texts are sequences of Unicode characters, on which UTF-8 is injective; a lone surrogate,
which a `QString` could hold too, is not among them. -/
theorem transcript_determines :
    (∀ json json' r r', PairingRequest.fromJson json = some r →
      PairingRequest.fromJson json' = some r' →
      r'.buildTranscriptMessage = r.buildTranscriptMessage →
        Unambiguous r.senderDeviceId r.receiverDeviceId r.timestamp r.ephemeralPublicKeyBase64
          r'.senderDeviceId r'.receiverDeviceId r'.timestamp r'.ephemeralPublicKeyBase64) ∧
    ∀ json json' r r', PairingResponse.fromJson json = some r →
      PairingResponse.fromJson json' = some r' →
      r'.buildTranscriptMessage = r.buildTranscriptMessage →
        Unambiguous r.senderDeviceId r.receiverDeviceId r.timestamp r.ephemeralPublicKeyBase64
          r'.senderDeviceId r'.receiverDeviceId r'.timestamp r'.ephemeralPublicKeyBase64 := by
  constructor
  · intro json json' r r' h h' heq
    exact ⟨fields_of_transcript_eq (PairingRequest.timestamp_pos h)
      (PairingRequest.timestamp_pos h') heq,
    fun hkey hkey' => (key_of_transcript_eq hkey hkey' heq).1⟩
  · intro json json' r r' h h' heq
    exact ⟨fields_of_transcript_eq (PairingResponse.timestamp_pos h)
      (PairingResponse.timestamp_pos h') heq,
    fun hkey hkey' => (key_of_transcript_eq hkey hkey' heq).1⟩

/-- A request from `mc_1` to a device with the id `2`. -/
def plainRequest : PairingRequest where
  sessionId := "s"
  senderDeviceId := "mc_1"
  receiverDeviceId := "2"
  timestamp := 1760000000
  saltBase64 := "c2FsdHNhbHQ="
  ephemeralPublicKeyBase64 := "AAECAwQFBgcICQoLDA0ODxAREhMUFRYXGBkaGxwdHh8="
  proposedVirtualIp := "10.77.0.2"
  authProofBase64 := "cHJvb2Y="

/-- A request from `mc_` to a device with the id `12`. -/
def shiftedRequest : PairingRequest :=
  { plainRequest with senderDeviceId := "mc_", receiverDeviceId := "12" }

lemma fromJson_plainRequest : PairingRequest.fromJson (plainRequest.toJson 0) = some plainRequest :=
  PairingRequest.fromJson_toJson 0 (by decide) (by decide) (by decide) (by decide) (by decide)
    (by decide) (by decide) (by decide)

lemma fromJson_shiftedRequest :
    PairingRequest.fromJson (shiftedRequest.toJson 0) = some shiftedRequest :=
  PairingRequest.fromJson_toJson 0 (by decide) (by decide) (by decide) (by decide) (by decide)
    (by decide) (by decide) (by decide)

lemma buildTranscriptMessage_shiftedRequest :
    shiftedRequest.buildTranscriptMessage = plainRequest.buildTranscriptMessage := by
  decide +kernel

theorem transcript_determines_key :
    shiftedRequest.ephemeralPublicKeyBase64 = plainRequest.ephemeralPublicKeyBase64 :=
  (transcript_determines.1 _ _ _ _ fromJson_plainRequest fromJson_shiftedRequest
    buildTranscriptMessage_shiftedRequest).key (by decide +kernel) (by decide +kernel)

/-- **The border between the ids can move.** Two requests that are accepted have one transcript and
different senders. -/
theorem transcript_with_two_senders :
    PairingRequest.fromJson (plainRequest.toJson 0) = some plainRequest ∧
      PairingRequest.fromJson (shiftedRequest.toJson 0) = some shiftedRequest ∧
      shiftedRequest.buildTranscriptMessage = plainRequest.buildTranscriptMessage ∧
      shiftedRequest.senderDeviceId ≠ plainRequest.senderDeviceId :=
  ⟨fromJson_plainRequest, fromJson_shiftedRequest, buildTranscriptMessage_shiftedRequest, by decide⟩

end MeckChat.Protocol
