import MeckChat.Protocol.ChatMessages

/-!
The messages about the presence of devices (`models.cpp`): `Device`, as it is announced
when it comes online and when it leaves, and `DiscoveryRequest`.
-/

namespace MeckChat.Protocol.Presence

open QJson

/-- `Platform`. -/
inductive Platform where
  | Linux
  | Android
  | Windows
  | Unknown
  deriving DecidableEq, Repr

/-- `platformToString`. -/
def platformToString : Platform → String
  | .Linux => "linux"
  | .Android => "android"
  | .Windows => "windows"
  | .Unknown => "unknown"

/-- `stringToPlatform`. -/
def stringToPlatform (str : String) : Platform :=
  if QString.equalCI str "linux" then .Linux
  else if QString.equalCI str "android" then .Android
  else if QString.equalCI str "windows" then .Windows
  else .Unknown

/-- `Device`, with `lastSeen` in seconds. -/
structure Device where
  deviceId : String
  displayName : String
  platform : Platform := .Linux
  lastSeen : ℤ := 0
  isOnline : Bool := true
  deriving DecidableEq, Repr

/-- `Device::toPresenceOnlineJson`. -/
def Device.toPresenceOnlineJson (now : ℤ) (d : Device) : JsonObject :=
  (∅ : JsonObject)
    |>.insert "type" (.string "presence_online")
    |>.insert "protocol_version" (.integer 1)
    |>.insert "device_id" (.string d.deviceId)
    |>.insert "display_name" (.string d.displayName)
    |>.insert "platform" (.string (platformToString d.platform))
    |>.insert "timestamp" (.integer now)

/-- The object of `publishOfflinePresence` and of the last will. -/
def presenceOfflineJson (deviceId : String) : JsonObject :=
  (∅ : JsonObject)
    |>.insert "type" (.string "presence_offline")
    |>.insert "device_id" (.string deviceId)

/-- `Device::fromPresenceJson`. -/
def Device.fromPresenceJson (now : ℤ) (json : JsonObject) : Option Device :=
  let deviceId := toString (json.value? "device_id")
  if deviceId = "" then none
  else some {
    deviceId
    displayName := toString (json.value? "display_name") "Unknown Device"
    platform := stringToPlatform (toString (json.value? "platform"))
    isOnline := toString (json.value? "type") = "presence_online"
    lastSeen :=
      if (json.value? "timestamp").isSome then toInteger (json.value? "timestamp") else now }

/-- `DiscoveryRequest`. -/
structure DiscoveryRequest where
  deviceId : String
  timestamp : ℤ := 0
  deriving DecidableEq, Repr

/-- `DiscoveryRequest::toJson`, with the reading of the clock. -/
def DiscoveryRequest.toJson (now : ℤ) (r : DiscoveryRequest) : JsonObject :=
  (∅ : JsonObject)
    |>.insert "type" (.string "discovery_request")
    |>.insert "protocol_version" (.integer 1)
    |>.insert "device_id" (.string r.deviceId)
    |>.insert "timestamp" (.integer (stamp r.timestamp now))

/-- `DiscoveryRequest::fromJson`. -/
def DiscoveryRequest.fromJson (json : JsonObject) : Option DiscoveryRequest :=
  if toString (json.value? "type") ≠ "discovery_request" then none
  else
    let deviceId := toString (json.value? "device_id")
    if deviceId = "" then none
    else some { deviceId, timestamp := toInteger (json.value? "timestamp") }

lemma stringToPlatform_platformToString (p : Platform) :
    stringToPlatform (platformToString p) = p := by
  cases p <;> decide

/-- A device that comes online is read back, seen at the time of its announcement. -/
lemma Device.fromPresenceJson_online {d : Device} (now now' : ℤ) (hid : d.deviceId ≠ "") :
    Device.fromPresenceJson now' (d.toPresenceOnlineJson now) =
      some { d with lastSeen := now, isOnline := true } := by
  simp [Device.fromPresenceJson, Device.toPresenceOnlineJson, QMap.value?_insert, hid,
    stringToPlatform_platformToString]

end MeckChat.Protocol.Presence
