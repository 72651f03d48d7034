import MeckChat.Protocol.FileMessages
import MeckChat.Protocol.PairingMessages
import MeckChat.Protocol.PresenceMessages

/-!
The encoders and decoders of the messages (`models.cpp`), taken together.

* `RoundTrip` is what is promised of an encoder and its decoder: a message comes back in
  its normal form, and what was decoded once is decoded again to the same message.
* `RoundTrip.of_back` reduces the second part to the first, where the decoder yields normal
  forms only.
* `Sendable`, one for each message: the fields that the decoder asks for, and the bounds.
* `codecs_round_trip` is the result, for all ten pairs.
-/

namespace MeckChat.Protocol

open QJson

/-- An encoder, which reads a clock, and its decoder: what is promised of them. -/
structure RoundTrip {α : Type} (toJson : ℤ → α → JsonObject) (fromJson : JsonObject → Option α)
    (Sendable : α → Prop) (normal : α → α) : Prop where
  back : ∀ now x, Sendable x → fromJson (toJson now x) = some (normal x)
  stable : ∀ now json x, fromJson json = some x → Sendable x →
    fromJson (toJson now x) = fromJson json

/-- A decoder that yields normal forms is stable. -/
lemma RoundTrip.of_back {α : Type} {toJson : ℤ → α → JsonObject}
    {fromJson : JsonObject → Option α} {Sendable : α → Prop} {normal : α → α}
    (hback : ∀ now x, Sendable x → fromJson (toJson now x) = some (normal x))
    (hnormal : ∀ json x, fromJson json = some x → normal x = x) :
    RoundTrip toJson fromJson Sendable normal where
  back := hback
  stable now json x hjson hx := by
    rw [hback now x hx, hnormal json x hjson, hjson]

/-! ### What is sent -/

/-- A message of a chat has ids and a time, and its content is within the limit. -/
structure ChatMessage.Sendable (m : ChatMessage) : Prop where
  messageId : m.messageId ≠ ""
  senderDeviceId : m.senderDeviceId ≠ ""
  recipientDeviceId : m.recipientDeviceId ≠ ""
  content : (QString.toUtf8 m.content).length ≤ MAX_CHAT_MESSAGE_CONTENT_SIZE
  timestamp : 0 < m.timestamp

/-- An acknowledgement has an id and a time. -/
structure MessageAck.Sendable (m : MessageAck) : Prop where
  messageId : m.messageId ≠ ""
  timestamp : 0 < m.timestamp

/-- A typing notification has ids and a time. -/
structure TypingIndicator.Sendable (m : TypingIndicator) : Prop where
  senderDeviceId : m.senderDeviceId ≠ ""
  recipientDeviceId : m.recipientDeviceId ≠ ""
  timestamp : 0 < m.timestamp

/-- A request for discovery has an id and a time. -/
structure Presence.DiscoveryRequest.Sendable (r : Presence.DiscoveryRequest) : Prop where
  deviceId : r.deviceId ≠ ""
  timestamp : 0 < r.timestamp

/-- The sizes of chunks and their count are of type `int`. -/
structure FileOffer.Sendable (m : FileOffer) : Prop where
  transferId : m.transferId ≠ ""
  fileSize : 0 ≤ m.fileSize
  sha256 : m.sha256 ≠ ""
  chunkSize : 0 < m.chunkSize ∧ m.chunkSize < 2 ^ 31
  totalChunks : -2 ^ 31 ≤ m.totalChunks ∧ m.totalChunks < 2 ^ 31

/-- The end of a file has an id and a hash. -/
structure FileComplete.Sendable (m : FileComplete) : Prop where
  transferId : m.transferId ≠ ""
  sha256 : m.sha256 ≠ ""

/-- A request for pairing has all its fields, and a time. -/
structure PairingRequest.Sendable (r : PairingRequest) : Prop where
  sessionId : r.sessionId ≠ ""
  senderDeviceId : r.senderDeviceId ≠ ""
  receiverDeviceId : r.receiverDeviceId ≠ ""
  saltBase64 : r.saltBase64 ≠ ""
  ephemeralPublicKeyBase64 : r.ephemeralPublicKeyBase64 ≠ ""
  proposedVirtualIp : r.proposedVirtualIp ≠ ""
  authProofBase64 : r.authProofBase64 ≠ ""
  timestamp : 0 < r.timestamp

/-- A response has all its fields, and a time; the text of an error may be missing. -/
structure PairingResponse.Sendable (r : PairingResponse) : Prop where
  sessionId : r.sessionId ≠ ""
  senderDeviceId : r.senderDeviceId ≠ ""
  receiverDeviceId : r.receiverDeviceId ≠ ""
  saltBase64 : r.saltBase64 ≠ ""
  ephemeralPublicKeyBase64 : r.ephemeralPublicKeyBase64 ≠ ""
  proposedVirtualIp : r.proposedVirtualIp ≠ ""
  authProofBase64 : r.authProofBase64 ≠ ""
  timestamp : 0 < r.timestamp

/-! ### The ten pairs -/

lemma ChatMessage.roundTrip :
    RoundTrip ChatMessage.toJson ChatMessage.fromJson ChatMessage.Sendable id := by
  refine .of_back (fun now m h => ?_) fun _ _ _ => rfl
  rw [fromJson_toJson now h.messageId h.senderDeviceId h.recipientDeviceId h.content,
    stamp_of_pos h.timestamp, id]

lemma MessageAck.roundTrip :
    RoundTrip MessageAck.toJson MessageAck.fromJson MessageAck.Sendable id := by
  refine .of_back (fun now m h => ?_) fun _ _ _ => rfl
  rw [fromJson_toJson now h.messageId, stamp_of_pos h.timestamp, id]

lemma TypingIndicator.roundTrip :
    RoundTrip TypingIndicator.toJson TypingIndicator.fromJson TypingIndicator.Sendable id := by
  refine .of_back (fun now m h => ?_) fun _ _ _ => rfl
  rw [fromJson_toJson now h.senderDeviceId h.recipientDeviceId, stamp_of_pos h.timestamp, id]

lemma Presence.DiscoveryRequest.fromJson_toJson {r : DiscoveryRequest} (now : ℤ)
    (hid : r.deviceId ≠ "") :
    fromJson (r.toJson now) = some { r with timestamp := stamp r.timestamp now } := by
  simp [fromJson, toJson, QMap.value?_insert, hid]

lemma Presence.DiscoveryRequest.roundTrip :
    RoundTrip DiscoveryRequest.toJson DiscoveryRequest.fromJson DiscoveryRequest.Sendable id := by
  refine .of_back (fun now r h => ?_) fun _ _ _ => rfl
  rw [fromJson_toJson now h.deviceId, stamp_of_pos h.timestamp, id]

/-- A name is sanitised once. -/
lemma FileOffer.roundTrip :
    RoundTrip (fun _ => FileOffer.toJson) FileOffer.fromJson FileOffer.Sendable
      fun m => { m with fileName := sanitizeFileName m.fileName } := by
  refine .of_back (fun _ m h => ?_) fun json m h => ?_
  · rw [fromJson_toJson h.transferId h.fileSize h.sha256 h.chunkSize h.totalChunks,
      sanitizeFileName_sanitizeFileName]
  · obtain ⟨-, ⟨name, hname⟩, -, -⟩ := FileOffer.of_fromJson h
    rw [hname, sanitizeFileName_sanitizeFileName, ← hname]

lemma FileReject.roundTrip :
    RoundTrip (fun _ => FileReject.toJson) FileReject.fromJson (fun m => m.transferId ≠ "") id :=
  .of_back (fun _ _ h => fromJson_toJson h) fun _ _ _ => rfl

lemma FileComplete.roundTrip :
    RoundTrip (fun _ => FileComplete.toJson) FileComplete.fromJson FileComplete.Sendable id :=
  .of_back (fun _ _ h => fromJson_toJson h.transferId h.sha256) fun _ _ _ => rfl

lemma FileCancel.roundTrip :
    RoundTrip (fun _ => FileCancel.toJson) FileCancel.fromJson (fun m => m.transferId ≠ "") id :=
  .of_back (fun _ _ h => fromJson_toJson h) fun _ _ _ => rfl

lemma PairingRequest.roundTrip :
    RoundTrip PairingRequest.toJson PairingRequest.fromJson PairingRequest.Sendable id :=
  .of_back (fun now _ h => fromJson_toJson now h.sessionId h.senderDeviceId h.receiverDeviceId
    h.saltBase64 h.ephemeralPublicKeyBase64 h.proposedVirtualIp h.authProofBase64 h.timestamp)
    fun _ _ _ => rfl

lemma PairingResponse.roundTrip :
    RoundTrip PairingResponse.toJson PairingResponse.fromJson PairingResponse.Sendable id :=
  .of_back (fun now _ h => fromJson_toJson now h.sessionId h.senderDeviceId h.receiverDeviceId
    h.saltBase64 h.ephemeralPublicKeyBase64 h.proposedVirtualIp h.authProofBase64 h.timestamp)
    fun _ _ _ => rfl

/-- **The codecs.** What is sent comes back as it was, the name in an offer sanitised; and an
object that is accepted as such a message is encoded to one that is accepted as the same. -/
theorem codecs_round_trip :
    RoundTrip ChatMessage.toJson ChatMessage.fromJson ChatMessage.Sendable id ∧
    RoundTrip MessageAck.toJson MessageAck.fromJson MessageAck.Sendable id ∧
    RoundTrip TypingIndicator.toJson TypingIndicator.fromJson TypingIndicator.Sendable id ∧
    RoundTrip Presence.DiscoveryRequest.toJson Presence.DiscoveryRequest.fromJson
      Presence.DiscoveryRequest.Sendable id ∧
    RoundTrip (fun _ => FileOffer.toJson) FileOffer.fromJson FileOffer.Sendable
      (fun m => { m with fileName := sanitizeFileName m.fileName }) ∧
    RoundTrip (fun _ => FileReject.toJson) FileReject.fromJson (fun m => m.transferId ≠ "") id ∧
    RoundTrip (fun _ => FileComplete.toJson) FileComplete.fromJson FileComplete.Sendable id ∧
    RoundTrip (fun _ => FileCancel.toJson) FileCancel.fromJson (fun m => m.transferId ≠ "") id ∧
    RoundTrip PairingRequest.toJson PairingRequest.fromJson PairingRequest.Sendable id ∧
    RoundTrip PairingResponse.toJson PairingResponse.fromJson PairingResponse.Sendable id :=
  ⟨ChatMessage.roundTrip, MessageAck.roundTrip, TypingIndicator.roundTrip,
    Presence.DiscoveryRequest.roundTrip, FileOffer.roundTrip, FileReject.roundTrip,
    FileComplete.roundTrip, FileCancel.roundTrip, PairingRequest.roundTrip,
    PairingResponse.roundTrip⟩

example : ChatMessage.Sendable ⟨"msg_1", "mc_alice", "mc_bob", "hello", 1700000000, none⟩ :=
  ⟨by decide, by decide, by decide, by decide, by decide⟩

example : FileOffer.Sendable ⟨"ft_1", "a.txt", 1, "ca978112", 65536, 1⟩ :=
  ⟨by decide, by decide, by decide, by decide, by decide⟩

example : PairingRequest.Sendable
    ⟨"s", "mc_alice", "mc_bob", 1760000000, "c2FsdHNhbHQ=", "AAECAwQF", "10.77.0.2", "cHJvb2Y="⟩ :=
  ⟨by decide, by decide, by decide, by decide, by decide, by decide, by decide, by decide⟩

end MeckChat.Protocol
