import MeckChat.Qt.QByteArray

/-!
The calls on the kernel (`netlink_wireguard.cpp`), over an abstract kernel.

* `Kernel` maps the names of the interfaces to their WireGuard peers, by raw public
  key. A request either takes effect or fails (`KernelAnswer`).
* `AddressReader` is what Qt and the C library make of texts.
* The calls are those of `NetlinkWireGuard`: `createInterface`, `deleteInterface`,
  `setInterfaceAddress`, `setInterfaceUp` and `setWireGuardDevice`. An attribute that a
  request leaves out keeps its value in the kernel (`configurePeer`).
-/

namespace MeckChat.Network

open QByteArray

/-- What is used of a `QHostAddress`. -/
inductive HostAddress where
  | null
  | ipv4 (address : UInt32)
  | ipv6
  deriving DecidableEq, Repr

/-- The readings of texts by Qt and the C library. -/
structure AddressReader where
  /-- `QHostAddress(text)`. -/
  hostAddress : String → HostAddress
  /-- `QString::toUInt`, where it succeeds. -/
  toUInt : String → Option ℕ
  /-- Whether `inet_pton(AF_INET, text)` succeeds. -/
  inetPton : String → Bool

/-- `WireGuardAllowedIp`. -/
structure WireGuardAllowedIp where
  address : HostAddress
  cidrMask : UInt8 := 32
  deriving DecidableEq, Repr

/-- `WireGuardPeerConfig`. -/
structure WireGuardPeerConfig where
  publicKey : Bytes
  endpoint : String := ""
  persistentKeepalive : UInt16 := 25
  allowedIps : List WireGuardAllowedIp := []
  remove : Bool := false
  deriving DecidableEq, Repr

/-! ### Validation -/

section Validation

variable (reader : AddressReader)

/-- `NetlinkWireGuard::isSubnetValid`, with its default parameters. -/
def isSubnetValid (ip : String) : Bool :=
  match reader.hostAddress ip, reader.hostAddress "10.77.0.0" with
  | .ipv4 ipVal, .ipv4 subVal =>
      let mask := (0xFFFFFFFF : UInt32) <<< (32 - 16 : UInt32)
      let hostPart := ipVal &&& ~~~mask
      ipVal &&& mask = subVal &&& mask && hostPart ≠ 0 && hostPart ≠ ~~~mask
  | _, _ => false

/-- `NetlinkWireGuard::isValidBase64Key`. -/
def isValidBase64Key (keyBase64 : String) : Bool :=
  QString.trimmed keyBase64 ≠ "" &&
    (fromBase64 (QString.toUtf8 (QString.trimmed keyBase64))).length = 32

/-- `NetlinkWireGuard::parseEndpoint`. -/
def parseEndpoint (endpointStr : String) : Option (HostAddress × UInt16) :=
  let str := (QString.trimmed endpointStr).toList
  let portPart := str.rtakeWhile (· ≠ ':')
  let hostPart := (str.rdropWhile (· ≠ ':')).dropLast
  if hostPart = [] ∨ portPart = [] then none
  else
    match reader.toUInt (String.ofList portPart) with
    | none => none
    | some p =>
        if p = 0 ∨ 65535 < p then none
        else if reader.hostAddress (String.ofList hostPart) = .null then none
        else some (reader.hostAddress (String.ofList hostPart), UInt16.ofNat p)

end Validation

/-! ### The kernel -/

/-- What the kernel holds of a peer. -/
structure KernelPeer where
  endpoint : Option (UInt32 × UInt16) := none
  keepalive : UInt16 := 0
  allowedIps : List (UInt32 × UInt8) := []
  deriving DecidableEq, Repr

/-- What the kernel holds of an interface. -/
structure KernelInterface where
  up : Bool := false
  peers : Bytes → Option KernelPeer := fun _ => none

/-- The interfaces by name. -/
abbrev Kernel := String → Option KernelInterface

/-- The outcome of the system calls of one function: whether the lookup of a name or of
the netlink family answers, whether the request takes effect, and the text if not. -/
structure KernelAnswer where
  lookup : Bool := true
  request : Bool := true
  error : String := ""
  deriving DecidableEq, Repr

/-- The name that the kernel sees of a text. -/
def kernelName (ifName : String) : String := QString.upTo (Char.ofNat 0) ifName

variable (reader : AddressReader) (kernel : Kernel) (answer : KernelAnswer) (ifName : String)

/-- `NetlinkWireGuard::interfaceExists`. -/
def interfaceExists (lookup : Bool) : Bool := lookup && (kernel (kernelName ifName)).isSome

/-- `NetlinkWireGuard::createInterface`. -/
def createInterface : Except String Kernel :=
  if interfaceExists kernel ifName answer.lookup then .ok kernel
  else if !answer.request then .error answer.error
  else
    match kernel (kernelName ifName) with
    | some _ => .ok kernel -- `-EEXIST`
    | none => .ok (Function.update kernel (kernelName ifName) (some {}))

/-- `NetlinkWireGuard::deleteInterface`. -/
def deleteInterface : Except String Kernel :=
  if !interfaceExists kernel ifName answer.lookup then .ok kernel
  else if !answer.request then .error answer.error
  else .ok (Function.update kernel (kernelName ifName) none)

/-- `NetlinkWireGuard::setInterfaceAddress`. The addresses are not modelled. -/
def setInterfaceAddress (virtualIp : String) : Except String Kernel :=
  if !interfaceExists kernel ifName answer.lookup then
    .error ("Interface " ++ ifName ++ " does not exist.")
  else if !reader.inetPton virtualIp then .error ("Invalid virtual IP address: " ++ virtualIp)
  else if !answer.request then .error answer.error
  else .ok kernel

/-- `NetlinkWireGuard::setInterfaceUp`. -/
def setInterfaceUp (up : Bool) : Except String Kernel :=
  match answer.lookup, kernel (kernelName ifName) with
  | true, some interface =>
      if !answer.request then .error answer.error
      else .ok (Function.update kernel (kernelName ifName) (some { interface with up }))
  | _, _ => .error ("Interface " ++ ifName ++ " does not exist.")

/-- The allowed addresses that go into a request. -/
def requestedIps (peer : WireGuardPeerConfig) : List (UInt32 × UInt8) :=
  peer.allowedIps.filterMap fun aip =>
    match aip.address with
    | .ipv4 address => some (address, aip.cidrMask)
    | _ => none

/-- The endpoint that goes into a request. -/
def requestedEndpoint (peer : WireGuardPeerConfig) : Option (UInt32 × UInt16) :=
  if peer.endpoint = "" then none
  else
    match parseEndpoint reader peer.endpoint with
    | some (.ipv4 address, port) => some (address, port)
    | _ => none

/-- What the kernel makes of one peer of a request: it is removed, or its addresses are
replaced and the attributes that are given are set. -/
def configurePeer (peers : Bytes → Option KernelPeer) (peer : WireGuardPeerConfig) :
    Bytes → Option KernelPeer :=
  if peer.publicKey.length ≠ 32 then peers
  else if peer.remove then Function.update peers peer.publicKey none
  else
    let old := (peers peer.publicKey).getD {}
    Function.update peers peer.publicKey (some {
      endpoint := (requestedEndpoint reader peer).or old.endpoint
      keepalive :=
        if 0 < peer.persistentKeepalive then peer.persistentKeepalive else old.keepalive
      allowedIps := requestedIps peer })

/-- `NetlinkWireGuard::setWireGuardDevice`. The private key and the port are not
modelled. -/
def setWireGuardDevice (peers : List WireGuardPeerConfig) : Except String Kernel :=
  if !answer.lookup then .error "WireGuard Generic Netlink family not found in Linux kernel."
  else if !answer.request then .error answer.error
  else
    match kernel (kernelName ifName) with
    | some interface =>
        .ok (Function.update kernel (kernelName ifName)
          (some { interface with peers := peers.foldl (configurePeer reader) interface.peers }))
    | none => .error answer.error -- `-ENODEV`

end MeckChat.Network
