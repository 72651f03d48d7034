import MeckChat.Foundation.Run
import MeckChat.Network.MqttCodec
import MeckChat.Network.P2PSocket
import MeckChat.Protocol.Payload
import MeckChat.Protocol.PresenceMessages

/-!
The client of the signaling broker (`mqtt_signaling.cpp`).

* `MqttSignalingClient` is the state of the class, its socket and timers included, and
  `MqttDeed` what a call does: signals and writes, and the steps of the reader.
* In the namespace `MqttTurn`: the calls and slots under the names of the source, on a
  client and what was done so far.
* `MqttEvent` is what can happen to a client and `MqttSignalingClient.machine` runs it.
-/

namespace MeckChat.Network

open MeckChat.Protocol MeckChat.Protocol.Presence QJson

/-- `MqttState`. -/
inductive MqttState where
  | Disconnected
  | Connecting
  | Connected
  | Subscribing
  | Ready
  deriving DecidableEq, Repr

/-- What is used of a `QSslSocket`. -/
structure QSslSocket where
  state : SocketState := .UnconnectedState
  /-- The handshake is done. -/
  encrypted : Bool := false
  /-- `disconnectFromHost` was called before the connection was there. -/
  pendingClose : Bool := false
  deriving DecidableEq, Repr

/-- What the client uses of `AppConfig`. -/
structure MqttConfig where
  deviceId : String
  displayName : String := "Linux Device"
  mqttBrokerHost : String := "broker.hivemq.com"
  mqttBrokerPort : ℤ := 8883
  deriving DecidableEq, Repr

/-- `MqttSignalingClient`. A timer is known by whether it is active, the one for the next
attempt also by its interval. -/
structure MqttSignalingClient where
  config : MqttConfig
  m_socket : QSslSocket := {}
  m_pingTimer : Bool := false
  m_pingTimeoutTimer : Bool := false
  m_reconnectTimer : Option ℤ := none
  m_receiveBuffer : Bytes := []
  m_state : MqttState := .Disconnected
  m_host : String := ""
  m_port : ℤ := 8883
  m_nextPacketId : UInt16 := 1
  m_reconnectAttempts : ℕ := 0
  m_intentionalDisconnect : Bool := false
  m_pingOutstanding : Bool := false
  deriving DecidableEq, Repr

/-- What a call does: the signals, the calls on the socket that can be seen outside, and,
for the reader, what was handed to a handler (`dispatched`), a buffer that was given up
(`corrupted`), and a call of `processReceivedPayload` (`received`). -/
inductive MqttDeed where
  | stateChanged (newState : MqttState)
  | connected
  | disconnected
  | deviceDiscovered (device : Protocol.Presence.Device)
  | deviceLeft (deviceId : String)
  | discoveryRequested (senderDeviceId : String)
  | errorOccurred (error : String)
  | connectToHost (host : String) (port : ℤ)
  | write (packet : Bytes)
  | dispatched (header : UInt8) (data : Bytes)
  | corrupted (buffer : Bytes)
  | received (topic : String) (payload : Bytes)
  deriving DecidableEq, Repr

/-- What a call asks of its surroundings. -/
structure MqttIo where
  /-- The clock, in seconds. -/
  now : ℤ := 0
  /-- The text of a new UUID. -/
  uuid : String := ""
  /-- The random offset of the next attempt. -/
  jitter : ℤ := 0
  /-- Whether `disconnectFromHost` is done, and emits `disconnected`, before it
  returns. -/
  closesAtOnce : Bool := false
  deriving DecidableEq, Repr

/-- The bytes of a payload that is handled, at most: 64 KiB. -/
def MAX_SIGNALING_PAYLOAD_SIZE : ℕ := 65536
/-- The keepalive that a CONNECT announces. -/
def DEFAULT_KEEPALIVE_SECONDS : UInt16 := 60
/-- The delay of the first new attempt. -/
def INITIAL_RECONNECT_MS : ℤ := 1000
/-- The delay that later attempts do not exceed. -/
def MAX_RECONNECT_MS : ℤ := 60000

/-- A client while a call works on it. -/
structure MqttTurn where
  client : MqttSignalingClient
  deeds : List MqttDeed := []

namespace MqttTurn

/-- Append to what was done. -/
def log (d : MqttDeed) (t : MqttTurn) : MqttTurn := { t with deeds := t.deeds ++ [d] }

/-- `MqttSignalingClient::setState`. -/
def setState (state : MqttState) (t : MqttTurn) : MqttTurn :=
  if t.client.m_state ≠ state then
    log (.stateChanged state) { t with client.m_state := state }
  else t

/-- `m_receiveBuffer = buffer`. -/
def setBuffer (buffer : Bytes) (t : MqttTurn) : MqttTurn :=
  { t with client.m_receiveBuffer := buffer }

/-- `m_socket = socket`. -/
def setSocket (socket : QSslSocket) (t : MqttTurn) : MqttTurn :=
  { t with client.m_socket := socket }

/-- `m_reconnectTimer->stop()`, or `start` with an interval. -/
def setReconnectTimer (interval : Option ℤ) (t : MqttTurn) : MqttTurn :=
  { t with client.m_reconnectTimer := interval }

/-- `m_pingTimer->start()` and `stop()`. -/
def setPingTimer (active : Bool) (t : MqttTurn) : MqttTurn :=
  { t with client.m_pingTimer := active }

/-- The timer that waits for an answer, and `m_pingOutstanding`. -/
def setPing (timer outstanding : Bool) (t : MqttTurn) : MqttTurn :=
  { t with client.m_pingTimeoutTimer := timer, client.m_pingOutstanding := outstanding }

/-- `m_socket->write(packet)` and `flush()`. -/
def write (packet : Bytes) (t : MqttTurn) : MqttTurn := t.log (.write packet)

/-- `MqttSignalingClient::nextPacketId`. -/
def nextPacketId (t : MqttTurn) : MqttTurn × UInt16 :=
  let id := if t.client.m_nextPacketId = 0 then 1 else t.client.m_nextPacketId
  ({ t with client.m_nextPacketId := id + 1 }, id)

variable (json : JsonCodec) (io : MqttIo)

/-! ### Sending -/

/-- `MqttSignalingClient::sendConnect`. -/
def sendConnect (t : MqttTurn) : MqttTurn :=
  let localId :=
    if isValidDeviceId t.client.config.deviceId then t.client.config.deviceId
    else "mc_" ++ io.uuid
  -- Clean Session, Will Flag, Will QoS 1 and Will Retain
  let variableHeader := encodeUtf8String "MQTT" ++ [0x04, 0x02 ||| 0x04 ||| 0x08 ||| 0x20] ++
    be16 DEFAULT_KEEPALIVE_SECONDS
  let willTopic := "meckchat/v1/presence/offline/" ++ localId
  let willPayload := json.toJson (presenceOfflineJson localId)
  let payload := encodeUtf8String localId ++ encodeUtf8String willTopic ++
    be16 (UInt16.ofNat willPayload.length) ++ willPayload
  write (controlPacket PacketType.CONNECT (variableHeader ++ payload))
    { t with client.config.deviceId := localId }

/-- `MqttSignalingClient::sendSubscribe`. -/
def sendSubscribe (topics : List (String × UInt8)) (t : MqttTurn) : MqttTurn :=
  if topics = [] ∨ t.client.m_socket.state ≠ .ConnectedState then t
  else
    let (t, packetId) := t.nextPacketId
    let payload := topics.flatMap fun item => encodeUtf8String item.1 ++ [item.2 &&& 0x03]
    t.write (controlPacket PacketType.SUBSCRIBE (be16 packetId ++ payload))

/-- The header byte of a PUBLISH. -/
def publishHeader (qos : UInt8) (retain : Bool) : UInt8 :=
  (if retain then PacketType.PUBLISH ||| 0x01 else PacketType.PUBLISH) ||| ((qos &&& 0x03) <<< 1)

/-- `MqttSignalingClient::sendPublish`. -/
def sendPublish (topic : String) (payload : Bytes) (qos : UInt8) (retain : Bool) (t : MqttTurn) :
    MqttTurn :=
  if !isValidTopic topic || t.client.m_socket.state ≠ .ConnectedState then t
  else if qos > 0 then
    let (t, packetId) := t.nextPacketId
    t.write (controlPacket (publishHeader qos retain)
      (encodeUtf8String topic ++ be16 packetId ++ payload))
  else t.write (controlPacket (publishHeader qos retain) (encodeUtf8String topic ++ payload))

/-- `MqttSignalingClient::sendPuback`. -/
def sendPuback (packetId : UInt16) (t : MqttTurn) : MqttTurn :=
  t.write (controlPacket PacketType.PUBACK (be16 packetId))

/-- `MqttSignalingClient::sendPingreq`. -/
def sendPingreq (t : MqttTurn) : MqttTurn := t.write [PacketType.PINGREQ, 0x00]

/-- `MqttSignalingClient::sendDisconnect`. -/
def sendDisconnect (t : MqttTurn) : MqttTurn := t.write [PacketType.DISCONNECT, 0x00]

/-- `MqttSignalingClient::publishOnlinePresence`. -/
def publishOnlinePresence (localDevice : Protocol.Presence.Device) (t : MqttTurn) : MqttTurn :=
  if !isValidDeviceId localDevice.deviceId then t
  else
    t.sendPublish ("meckchat/v1/presence/online/" ++ localDevice.deviceId)
      (json.toJson (localDevice.toPresenceOnlineJson io.now)) 1 true

/-- `MqttSignalingClient::publishOfflinePresence`. -/
def publishOfflinePresence (deviceId : String) (t : MqttTurn) : MqttTurn :=
  if !isValidDeviceId deviceId then t
  else
    t.sendPublish ("meckchat/v1/presence/offline/" ++ deviceId)
      (json.toJson (presenceOfflineJson deviceId)) 1 true

/-- `MqttSignalingClient::broadcastDiscoveryRequest`. -/
def broadcastDiscoveryRequest (deviceId : String) (t : MqttTurn) : MqttTurn :=
  if !isValidDeviceId deviceId then t
  else
    let req : DiscoveryRequest := { deviceId, timestamp := io.now }
    t.sendPublish "meckchat/v1/discovery" (json.toJson (req.toJson io.now)) 1 false

/-! ### The connection -/

/-- `MqttSignalingClient::scheduleReconnect`. -/
def scheduleReconnect (t : MqttTurn) : MqttTurn :=
  if t.client.m_reconnectTimer.isSome then t
  else
    let backoff := min (INITIAL_RECONNECT_MS * 2 ^ min t.client.m_reconnectAttempts 6)
      MAX_RECONNECT_MS
    let delay := max 1000 (backoff + io.jitter)
    { t with client.m_reconnectAttempts := t.client.m_reconnectAttempts + 1 }
      |>.setReconnectTimer (some delay)

/-- `MqttSignalingClient::resetReconnect`. -/
def resetReconnect (t : MqttTurn) : MqttTurn :=
  { t with client.m_reconnectAttempts := 0 }
    |>.setReconnectTimer none

/-- `MqttSignalingClient::onSocketDisconnected`. -/
def onSocketDisconnected (t : MqttTurn) : MqttTurn :=
  let t := ((t.setPingTimer false).setPing false false).setBuffer []
  let t := (t.setState .Disconnected).log .disconnected
  if !t.client.m_intentionalDisconnect then t.scheduleReconnect io else t

/-- The socket is closed; `disconnected` is emitted where there was a connection. -/
def closed (t : MqttTurn) : MqttTurn :=
  match t.client.m_socket.state with
  | .ConnectedState => (t.setSocket {}).onSocketDisconnected io
  | .ClosingState => (t.setSocket {}).onSocketDisconnected io
  | _ => t.setSocket {}

/-- `m_socket->abort()`. -/
def abort (t : MqttTurn) : MqttTurn := t.closed io

/-- `m_socket->disconnectFromHost()`: a socket that is still connecting closes later, an
open one at once or when its data is written. -/
def disconnectFromHost (t : MqttTurn) : MqttTurn :=
  match t.client.m_socket.state with
  | .UnconnectedState => t
  | .HostLookupState => t.setSocket { t.client.m_socket with pendingClose := true }
  | .ConnectingState => t.setSocket { t.client.m_socket with pendingClose := true }
  | _ =>
      if io.closesAtOnce then t.closed io
      else t.setSocket { t.client.m_socket with state := .ClosingState }

/-- `MqttSignalingClient::connectToBroker`. -/
def connectToBroker (host : String) (port : ℤ) (t : MqttTurn) : MqttTurn :=
  let t := { t with
    client.m_host := if host = "" then t.client.config.mqttBrokerHost else host
    client.m_port := if port = 0 then t.client.config.mqttBrokerPort else port
    client.m_intentionalDisconnect := false }
  let t := if t.client.m_socket.state ≠ .UnconnectedState then t.abort io else t
  let t := (t.setBuffer []).setState .Connecting
  (t.setSocket { state := .ConnectingState }).log (.connectToHost t.client.m_host t.client.m_port)

/-- The start of `disconnectFromBroker`. -/
def stopTimers (t : MqttTurn) : MqttTurn :=
  { t with
    client.m_intentionalDisconnect := true
    client.m_reconnectTimer := none
    client.m_pingTimer := false
    client.m_pingTimeoutTimer := false }

/-- The farewell of a client that is ready. -/
def sayGoodbye (t : MqttTurn) : MqttTurn :=
  if t.client.m_state = .Ready then
    (if isValidDeviceId t.client.config.deviceId then
      t.publishOfflinePresence json t.client.config.deviceId
    else t).sendDisconnect
  else t

/-- `MqttSignalingClient::disconnectFromBroker`. -/
def disconnectFromBroker (t : MqttTurn) : MqttTurn :=
  let t := t.stopTimers.sayGoodbye json
  let t := if t.client.m_socket.state ≠ .UnconnectedState then t.disconnectFromHost io else t
  (t.setState .Disconnected).setBuffer []

/-! ### Receiving -/

/-- The device of this program, as it announces itself. -/
def localDevice (t : MqttTurn) : Protocol.Presence.Device where
  deviceId := t.client.config.deviceId
  displayName := t.client.config.displayName
  platform := .Linux
  isOnline := true

/-- `MqttSignalingClient::processReceivedPayload`. -/
def processReceivedPayload (topic : String) (payload : Bytes) (t : MqttTurn) : MqttTurn :=
  let t := t.log (.received topic payload)
  match json.fromJson payload with
  | some (.object obj) =>
      let deviceId := QJson.toString (obj.value? "device_id")
      if !isValidDeviceId deviceId then t
      -- echoes of our own messages
      else if deviceId = t.client.config.deviceId then t
      else if "meckchat/v1/presence/online/".toList <+: topic.toList then
        match Protocol.Presence.Device.fromPresenceJson io.now obj with
        | some dev => if dev.deviceId = deviceId then t.log (.deviceDiscovered dev) else t
        | none => t
      else if "meckchat/v1/presence/offline/".toList <+: topic.toList then
        t.log (.deviceLeft deviceId)
      else if topic = "meckchat/v1/discovery" then
        match DiscoveryRequest.fromJson obj with
        | some req =>
            if req.deviceId = deviceId then
              (t.log (.discoveryRequested deviceId)).publishOnlinePresence json io t.localDevice
            else t
        | none => t
      else t
  | _ => t

/-- `MqttSignalingClient::handlePublish`. -/
def handlePublish (header : UInt8) (data : Bytes) (t : MqttTurn) : MqttTurn :=
  let qos := (header >>> 1) &&& 0x03
  match decodeUtf8String data 0 with
  | none => t
  | some (topic, offset) =>
      if qos > 0 then
        if offset + 2 > data.length then t
        else
          let t := t.sendPuback (ofBE16 (slice data offset 2))
          let payload := data.drop (offset + 2)
          if payload.length > MAX_SIGNALING_PAYLOAD_SIZE then t
          else t.processReceivedPayload json io topic payload
      else
        let payload := data.drop offset
        if payload.length > MAX_SIGNALING_PAYLOAD_SIZE then t
        else t.processReceivedPayload json io topic payload

/-- `MqttSignalingClient::handleConnack`. -/
def handleConnack (data : Bytes) (t : MqttTurn) : MqttTurn :=
  match data with
  | _ :: returnCode :: _ =>
      if returnCode ≠ 0 then
        (t.abort io).log
          (.errorOccurred ("Broker connection rejected with code " ++ toString returnCode.toNat))
      else
        ((t.setState .Subscribing).sendSubscribe
          [("meckchat/v1/presence/online/+", 1), ("meckchat/v1/presence/offline/+", 1),
            ("meckchat/v1/discovery", 1)]).setPingTimer true
  | _ => t.abort io

/-- `MqttSignalingClient::handleSuback`. -/
def handleSuback (data : Bytes) (t : MqttTurn) : MqttTurn :=
  if data.length < 3 then t
  else
    let t := ((t.setState .Ready).resetReconnect).log .connected
    t.publishOnlinePresence json io t.localDevice

/-- `MqttSignalingClient::handlePingresp`. -/
def handlePingresp (t : MqttTurn) : MqttTurn := t.setPing false false

/-- The `switch` of `processIncomingData`. A PUBACK is only logged. -/
def dispatch (header : UInt8) (framePayload : Bytes) (t : MqttTurn) : MqttTurn :=
  let t := t.log (.dispatched header framePayload)
  let packetType := header &&& 0xF0
  if packetType = PacketType.CONNACK then t.handleConnack io framePayload
  else if packetType = PacketType.PUBLISH then t.handlePublish json io header framePayload
  else if packetType = PacketType.PUBACK then t
  else if packetType = PacketType.SUBACK then t.handleSuback json io framePayload
  else if packetType = PacketType.PINGRESP then t.handlePingresp
  else t

/-- The loop of `processIncomingData`, for at most `fuel` packets. -/
def processLoop : ℕ → MqttTurn → MqttTurn
  | 0, t => t
  | fuel + 1, t =>
      let buffer := t.client.m_receiveBuffer
      if buffer.length < 2 then t -- also where it is empty
      else
        let header := buffer.headI
        match decodeVariableLength buffer 1 with
        | none =>
            if buffer.length > 5 then (t.log (.corrupted buffer)).abort io else t
        | some (remainingLength, bytesConsumed) =>
            let totalFrameSize := 1 + bytesConsumed + remainingLength
            if buffer.length < totalFrameSize then t
            else
              let framePayload := slice buffer (1 + bytesConsumed) remainingLength
              processLoop fuel
                ((t.setBuffer (buffer.drop totalFrameSize)).dispatch json io header framePayload)

/-- `MqttSignalingClient::processIncomingData`. Every packet shortens the buffer. -/
def processIncomingData (t : MqttTurn) : MqttTurn :=
  t.processLoop json io t.client.m_receiveBuffer.length

/-! ### Slots -/

/-- `MqttSignalingClient::onSocketEncrypted`. -/
def onSocketEncrypted (t : MqttTurn) : MqttTurn := (t.setState .Connected).sendConnect json io

/-- `MqttSignalingClient::onSocketReadyRead`. -/
def onSocketReadyRead (data : Bytes) (t : MqttTurn) : MqttTurn :=
  (t.setBuffer (t.client.m_receiveBuffer ++ data)).processIncomingData json io

/-- `MqttSignalingClient::onSocketError`. -/
def onSocketError (errorMsg : String) (t : MqttTurn) : MqttTurn := t.log (.errorOccurred errorMsg)

/-- `MqttSignalingClient::onSslErrors`. -/
def onSslErrors (t : MqttTurn) : MqttTurn :=
  (t.abort io).log (.errorOccurred "TLS certificate verification failed.")

/-- `MqttSignalingClient::onPingTimer`. -/
def onPingTimer (t : MqttTurn) : MqttTurn :=
  if t.client.m_state = .Ready then (t.setPing true true).sendPingreq else t

/-- `MqttSignalingClient::onPingTimeout`. -/
def onPingTimeout (t : MqttTurn) : MqttTurn :=
  if t.client.m_pingOutstanding then t.abort io else t

/-- `MqttSignalingClient::onReconnectTimer`. -/
def onReconnectTimer (t : MqttTurn) : MqttTurn :=
  if t.client.m_intentionalDisconnect then t
  else t.connectToBroker io t.client.m_host t.client.m_port

end MqttTurn

/-! ### The machine -/

/-- What can happen to a client: calls, events of the socket and timers that expire. -/
inductive MqttEvent where
  | connectToBroker (host : String) (port : ℤ)
  | disconnectFromBroker
  | publishOnlinePresence (localDevice : Protocol.Presence.Device)
  | publishOfflinePresence (deviceId : String)
  | broadcastDiscoveryRequest (deviceId : String)
  | socketConnected
  | socketEncrypted
  | readyRead (data : Bytes)
  | socketError (errorMsg : String)
  | connectionFailed (errorMsg : String)
  | sslErrors
  | socketDisconnected
  | pingTimer
  | pingTimeout
  | reconnectTimer
  deriving DecidableEq, Repr

namespace QSslSocket

/-- A connection is being made. -/
def isConnecting (s : QSslSocket) : Bool :=
  s.state = .HostLookupState || s.state = .ConnectingState

/-- There is a connection. -/
def isOpen (s : QSslSocket) : Bool := s.state = .ConnectedState || s.state = .ClosingState

end QSslSocket

open MqttTurn in
/-- The turn of an event. One that the socket cannot report in its state, and the expiry of
a timer that is not active, does nothing. -/
def MqttTurn.react (json : JsonCodec) (io : MqttIo) (t : MqttTurn) : MqttEvent → MqttTurn
  | .connectToBroker host port => t.connectToBroker io host port
  | .disconnectFromBroker => t.disconnectFromBroker json io
  | .publishOnlinePresence localDevice => t.publishOnlinePresence json io localDevice
  | .publishOfflinePresence deviceId => t.publishOfflinePresence json deviceId
  | .broadcastDiscoveryRequest deviceId => t.broadcastDiscoveryRequest json io deviceId
  | .socketConnected =>
      if t.client.m_socket.isConnecting then
        if t.client.m_socket.pendingClose then
          (t.setSocket { state := .ConnectedState }).disconnectFromHost io
        else t.setSocket { state := .ConnectedState }
      else t
  | .socketEncrypted =>
      if t.client.m_socket.state = .ConnectedState ∧ !t.client.m_socket.encrypted then
        (t.setSocket { t.client.m_socket with encrypted := true }).onSocketEncrypted json io
      else t
  | .readyRead data =>
      if t.client.m_socket.isOpen && t.client.m_socket.encrypted then
        t.onSocketReadyRead json io data
      else t
  | .socketError errorMsg => t.onSocketError errorMsg
  | .connectionFailed errorMsg =>
      if t.client.m_socket.isConnecting then (t.setSocket {}).onSocketError errorMsg else t
  | .sslErrors =>
      if t.client.m_socket.state = .ConnectedState ∧ !t.client.m_socket.encrypted then
        t.onSslErrors io
      else t
  | .socketDisconnected => if t.client.m_socket.isOpen then t.closed io else t
  | .pingTimer => if t.client.m_pingTimer then t.onPingTimer else t
  | .pingTimeout =>
      if t.client.m_pingTimeoutTimer then
        (t.setPing false t.client.m_pingOutstanding).onPingTimeout io
      else t
  | .reconnectTimer =>
      if t.client.m_reconnectTimer.isSome then (t.setReconnectTimer none).onReconnectTimer io
      else t

/-- The events, one after the other. -/
def MqttSignalingClient.machine (json : JsonCodec) :
    Machine MqttSignalingClient (MqttEvent × MqttIo) MqttDeed where
  step s e :=
    let t := MqttTurn.react json e.2 ⟨s, []⟩ e.1
    (t.client, t.deeds)

end MeckChat.Network
