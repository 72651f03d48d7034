import MeckChat.Protocol.Framing
import MeckChat.Qt.QJson

/-!
Frames with a JSON object for payload.

* `jsonFrame` packs an object, and `payloadObject` is what a handler reads that
  returns on every other payload.
-/

namespace MeckChat.Protocol

open QJson

variable (json : JsonCodec)

/-- A frame with a JSON payload. -/
def jsonFrame (type : FrameType) (o : JsonObject) : P2PFrame := ⟨type, json.toJson o⟩

/-- The object of a payload: `none` after a parse error, and where the document is
no object. -/
def payloadObject (payload : Bytes) : Option JsonObject :=
  match json.fromJson payload with
  | some (.object o) => some o
  | _ => none

@[simp] lemma payloadObject_jsonFrame (type : FrameType) (o : JsonObject) :
    payloadObject json (jsonFrame json type o).payload = some o := by
  simp [payloadObject, jsonFrame]

@[simp] lemma type_jsonFrame (type : FrameType) (o : JsonObject) :
    (jsonFrame json type o).type = type := rfl

end MeckChat.Protocol
