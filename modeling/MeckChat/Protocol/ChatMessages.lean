import MeckChat.Qt.QJson

/-!
The messages of a chat (`models.cpp`): texts, acknowledgements and typing
notifications, each with `toJson`, `fromJson` and the round trip between them.

A `toJson` puts the reading of the clock in place of a timestamp that is not
positive.
-/

namespace MeckChat.Protocol

open QJson

/-- `MAX_CHAT_MESSAGE_CONTENT_SIZE`, 64 KiB. -/
def MAX_CHAT_MESSAGE_CONTENT_SIZE : ℕ := 64 * 1024

/-- `generateMessageId`, on the text of the UUID it draws. -/
def generateMessageId (uuid : String) : String := "msg_" ++ uuid

/-- The ids of messages are never empty. -/
lemma generateMessageId_ne_empty (uuid : String) : generateMessageId uuid ≠ "" := by
  intro h
  have hlist := congrArg String.toList h
  rw [generateMessageId, String.toList_append] at hlist
  cases hlist

/-- `timestamp > 0 ? timestamp : QDateTime::currentSecsSinceEpoch()`. -/
def stamp (timestamp now : ℤ) : ℤ := if timestamp > 0 then timestamp else now

/-- `ChatMessage`. -/
structure ChatMessage where
  messageId : String
  senderDeviceId : String
  recipientDeviceId : String
  content : String
  timestamp : ℤ := 0
  replyToMessageId : Option String := none
  deriving DecidableEq, Repr

/-- `ChatMessage::toJson`, with the reading of the clock. -/
def ChatMessage.toJson (now : ℤ) (m : ChatMessage) : JsonObject :=
  (∅ : JsonObject)
    |>.insert "message_id" (.string m.messageId)
    |>.insert "sender_device_id" (.string m.senderDeviceId)
    |>.insert "recipient_device_id" (.string m.recipientDeviceId)
    |>.insert "content" (.string m.content)
    |>.insert "timestamp" (.integer (stamp m.timestamp now))
    |>.insert "reply_to_message_id" (match m.replyToMessageId with
        | some reply => .string reply
        | none => .null)

/-- `ChatMessage::fromJson`. -/
def ChatMessage.fromJson (json : JsonObject) : Option ChatMessage :=
  let msgId := toString (json.value? "message_id")
  let sender := toString (json.value? "sender_device_id")
  let recipient := toString (json.value? "recipient_device_id")
  if msgId = "" ∨ sender = "" ∨ recipient = "" then none
  else
    let content := toString (json.value? "content")
    -- reject oversized messages
    if (QString.toUtf8 content).length > MAX_CHAT_MESSAGE_CONTENT_SIZE then none
    else some {
      messageId := msgId
      senderDeviceId := sender
      recipientDeviceId := recipient
      content := content
      timestamp := toInteger (json.value? "timestamp")
      replyToMessageId :=
        if (json.value? "reply_to_message_id").isSome ∧
            json.value? "reply_to_message_id" ≠ some .null then
          some (toString (json.value? "reply_to_message_id"))
        else none }

/-- `MessageAck`. -/
structure MessageAck where
  messageId : String
  status : String
  timestamp : ℤ := 0
  deriving DecidableEq, Repr

/-- `MessageAck::toJson`, with the reading of the clock. -/
def MessageAck.toJson (now : ℤ) (m : MessageAck) : JsonObject :=
  (∅ : JsonObject)
    |>.insert "message_id" (.string m.messageId)
    |>.insert "status" (.string m.status)
    |>.insert "timestamp" (.integer (stamp m.timestamp now))

/-- `MessageAck::fromJson`: a status that is missing is `delivered`. -/
def MessageAck.fromJson (json : JsonObject) : Option MessageAck :=
  let msgId := toString (json.value? "message_id")
  if msgId = "" then none
  else some {
    messageId := msgId
    status := toString (json.value? "status") "delivered"
    timestamp := toInteger (json.value? "timestamp") }

/-- `TypingIndicator`. -/
structure TypingIndicator where
  senderDeviceId : String
  recipientDeviceId : String
  isTyping : Bool
  timestamp : ℤ := 0
  deriving DecidableEq, Repr

/-- `TypingIndicator::toJson`, with the reading of the clock. -/
def TypingIndicator.toJson (now : ℤ) (m : TypingIndicator) : JsonObject :=
  (∅ : JsonObject)
    |>.insert "sender_device_id" (.string m.senderDeviceId)
    |>.insert "recipient_device_id" (.string m.recipientDeviceId)
    |>.insert "is_typing" (.bool m.isTyping)
    |>.insert "timestamp" (.integer (stamp m.timestamp now))

/-- `TypingIndicator::fromJson`: the flag is `is_typing`, or else `typing`. -/
def TypingIndicator.fromJson (json : JsonObject) : Option TypingIndicator :=
  let sender := toString (json.value? "sender_device_id")
  let recipient := toString (json.value? "recipient_device_id")
  if sender = "" ∨ recipient = "" then none
  else some {
    senderDeviceId := sender
    recipientDeviceId := recipient
    isTyping :=
      if (json.value? "is_typing").isSome then QJson.toBool (json.value? "is_typing")
      else QJson.toBool (json.value? "typing") false
    timestamp := toInteger (json.value? "timestamp") }

/-- A message comes back with the timestamp that was sent. -/
lemma ChatMessage.fromJson_toJson {m : ChatMessage} (now : ℤ) (hid : m.messageId ≠ "")
    (hsender : m.senderDeviceId ≠ "") (hrecipient : m.recipientDeviceId ≠ "")
    (hsize : (QString.toUtf8 m.content).length ≤ MAX_CHAT_MESSAGE_CONTENT_SIZE) :
    ChatMessage.fromJson (m.toJson now) = some { m with timestamp := stamp m.timestamp now } := by
  have hfits : ¬ (QString.toUtf8 m.content).length > MAX_CHAT_MESSAGE_CONTENT_SIZE := by omega
  cases hreply : m.replyToMessageId with
  | none =>
      simp [ChatMessage.fromJson, ChatMessage.toJson, QMap.value?_insert, hid, hsender, hrecipient,
        hfits, hreply]
  | some reply =>
      simp [ChatMessage.fromJson, ChatMessage.toJson, QMap.value?_insert, hid, hsender, hrecipient,
        hfits, hreply]

lemma MessageAck.fromJson_toJson {m : MessageAck} (now : ℤ) (hid : m.messageId ≠ "") :
    MessageAck.fromJson (m.toJson now) = some { m with timestamp := stamp m.timestamp now } := by
  simp [MessageAck.fromJson, MessageAck.toJson, QMap.value?_insert, hid]

lemma TypingIndicator.fromJson_toJson {m : TypingIndicator} (now : ℤ)
    (hsender : m.senderDeviceId ≠ "") (hrecipient : m.recipientDeviceId ≠ "") :
    TypingIndicator.fromJson (m.toJson now) =
      some { m with timestamp := stamp m.timestamp now } := by
  simp [TypingIndicator.fromJson, TypingIndicator.toJson, QMap.value?_insert, hsender, hrecipient]

end MeckChat.Protocol
