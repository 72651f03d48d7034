import MeckChat.Foundation.AttributeTables
import MeckChat.Network.NetlinkResponse

/-!
The messages that the program sends to the kernel (`netlink_wireguard.cpp`).

* `createMessage`, `deleteMessage`, `addressMessage` and `linkMessage` are those on the
  interfaces, `familyMessage` and `deviceQuery` the two questions; the message of
  `setWireGuardDevice` is `deviceMessage`.
* `sent` is what goes out of a buffer, with its length put in.
* `KernelRequest` is what a receiver makes of a message, and `readRequest` its reader: the
  headers, then the attributes by their types.
* `messages_read`: every message is read as what it is meant to be, unless a name or the
  peers are too long for the length fields.
-/

namespace MeckChat.Network

open NetlinkBuffer

/-! ### The constants of the kernel's headers -/

/-- No family. -/
def AF_UNSPEC : UInt8 := 0
/-- An interface is created. -/
def RTM_NEWLINK : UInt16 := 16
/-- An interface is deleted. -/
def RTM_DELLINK : UInt16 := 17
/-- An interface is changed. -/
def RTM_SETLINK : UInt16 := 19
/-- An address is assigned. -/
def RTM_NEWADDR : UInt16 := 20
/-- What exists is replaced. -/
def NLM_F_REPLACE : UInt16 := 0x100
/-- What exists is an error. -/
def NLM_F_EXCL : UInt16 := 0x200
/-- What does not exist is created. -/
def NLM_F_CREATE : UInt16 := 0x400
/-- All entries are asked for. -/
def NLM_F_DUMP : UInt16 := 0x300
/-- The name of the interface. -/
def IFLA_IFNAME : UInt16 := 3
/-- The nest on its kind. -/
def IFLA_LINKINFO : UInt16 := 18
/-- The kind of the interface. -/
def IFLA_INFO_KIND : UInt16 := 1
/-- The address. -/
def IFA_ADDRESS : UInt16 := 1
/-- The address of this side. -/
def IFA_LOCAL : UInt16 := 2
/-- The address does not expire. -/
def IFA_F_PERMANENT : UInt8 := 0x80
/-- It is valid everywhere. -/
def RT_SCOPE_UNIVERSE : UInt8 := 0
/-- The flag of an interface that is up. -/
def IFF_UP : UInt32 := 1
/-- The family that knows the families. -/
def GENL_ID_CTRL : UInt16 := 16
/-- The command that asks for a family. -/
def CTRL_CMD_GETFAMILY : UInt8 := 3
/-- The name of the family. -/
def CTRL_ATTR_FAMILY_NAME : UInt16 := 2
/-- The command that asks for a device. -/
def WG_CMD_GET_DEVICE : UInt8 := 0

/-- `WG_GENL_NAME`, which is also the kind of the interfaces. -/
def WG_GENL_NAME : String := "wireguard"

section Messages

variable (order : ByteOrder)

/-- `struct ifinfomsg`. -/
def ifinfomsg (ifi_index ifi_flags ifi_change : UInt32) : Bytes :=
  [AF_UNSPEC, 0] ++ order.u16 0 ++ order.u32 ifi_index ++ order.u32 ifi_flags ++
    order.u32 ifi_change

/-- `struct ifaddrmsg`. -/
def ifaddrmsg (ifa_prefixlen : UInt8) (ifa_index : UInt32) : Bytes :=
  [2, ifa_prefixlen, IFA_F_PERMANENT, RT_SCOPE_UNIVERSE] ++ order.u32 ifa_index

/-- The message of `createInterface`. -/
def createMessage (ifName : String) : NetlinkBuffer :=
  let b : NetlinkBuffer := {}
  let b := b.appendRaw (nlmsghdr order 0 RTM_NEWLINK
    (NLM_F_REQUEST ||| NLM_F_ACK ||| NLM_F_CREATE ||| NLM_F_EXCL) 2)
  let b := b.appendRaw (ifinfomsg order 0 0 0)
  let b := b.putAttrStr order IFLA_IFNAME ifName
  let (b, linkInfo) := b.startNested order IFLA_LINKINFO
  let b := b.putAttrStr order IFLA_INFO_KIND WG_GENL_NAME
  b.endNested order linkInfo

/-- The message of `deleteInterface`. -/
def deleteMessage (ifName : String) (ifIndex : UInt32) : NetlinkBuffer :=
  let b : NetlinkBuffer := {}
  let b := b.appendRaw (nlmsghdr order 0 RTM_DELLINK (NLM_F_REQUEST ||| NLM_F_ACK) 3)
  let b := b.appendRaw (ifinfomsg order ifIndex 0 0)
  b.putAttrStr order IFLA_IFNAME ifName

/-- The message of `setInterfaceAddress`; the address is in network order already. -/
def addressMessage (ifIndex : UInt32) (prefixLen : UInt8) (addr : Bytes) : NetlinkBuffer :=
  let b : NetlinkBuffer := {}
  let b := b.appendRaw (nlmsghdr order 0 RTM_NEWADDR
    (NLM_F_REQUEST ||| NLM_F_ACK ||| NLM_F_CREATE ||| NLM_F_REPLACE) 4)
  let b := b.appendRaw (ifaddrmsg order prefixLen ifIndex)
  let b := b.putAttr order IFA_LOCAL addr
  b.putAttr order IFA_ADDRESS addr

/-- The message of `setInterfaceUp`. -/
def linkMessage (ifIndex : UInt32) (up : Bool) : NetlinkBuffer :=
  let b : NetlinkBuffer := {}
  let b := b.appendRaw (nlmsghdr order 0 RTM_SETLINK (NLM_F_REQUEST ||| NLM_F_ACK) 5)
  b.appendRaw (ifinfomsg order ifIndex (if up then IFF_UP else 0) IFF_UP)

/-- The message of `resolveWireGuardFamily`. -/
def familyMessage : NetlinkBuffer :=
  let b : NetlinkBuffer := {}
  let b := b.appendRaw (nlmsghdr order 0 GENL_ID_CTRL NLM_F_REQUEST 1)
  let b := b.appendRaw (genlmsghdr CTRL_CMD_GETFAMILY 1)
  b.putAttrStr order CTRL_ATTR_FAMILY_NAME WG_GENL_NAME

/-- The message of `getWireGuardDevice`. -/
def deviceQuery (familyId : UInt16) (ifName : String) : NetlinkBuffer :=
  let b : NetlinkBuffer := {}
  let b := b.appendRaw (nlmsghdr order 0 familyId (NLM_F_REQUEST ||| NLM_F_DUMP) 7)
  let b := b.appendRaw (genlmsghdr WG_CMD_GET_DEVICE WG_GENL_VERSION)
  b.putAttrStr order WGDEVICE_A_IFNAME ifName

/-- What is sent of a buffer: its length is put into `nlmsg_len`. -/
def sent (b : NetlinkBuffer) : Bytes :=
  order.u32 (UInt32.ofNat b.m_buf.length) ++ b.m_buf.drop 4

end Messages

/-! ### The reader -/

/-- What a request says of a peer. -/
structure PeerRequest where
  publicKey : Bytes
  flags : UInt32
  endpoint : Option (UInt32 × UInt16)
  keepalive : Option UInt16
  allowedIps : List (UInt32 × UInt8)
  deriving DecidableEq, Repr

/-- What a request says of a device. -/
structure DeviceRequest where
  ifName : Bytes
  privateKey : Option Bytes
  listenPort : Option UInt16
  peers : List PeerRequest
  deriving DecidableEq, Repr

/-- What a receiver makes of a message. -/
inductive KernelRequest where
  | newLink (flags : UInt16) (ifName kind : Bytes)
  | delLink (ifIndex : UInt32) (ifName : Bytes)
  | newAddress (flags : UInt16) (ifIndex : UInt32) (prefixLen : UInt8) (address : Bytes)
  | setLink (ifIndex flags change : UInt32)
  | getFamily (name : Bytes)
  | setDevice (request : DeviceRequest)
  | getDevice (ifName : Bytes)
  deriving DecidableEq, Repr

section Reader

variable (order : ByteOrder)

/-- A `struct sockaddr_in`. -/
def readSockaddr (data : Bytes) : Option (UInt32 × UInt16) :=
  if data.length = 16 ∧ order.ofU16 (slice data 0 2) = AF_INET then
    some (ofBE32 (slice data 4 4), ofBE16 (slice data 2 2))
  else none

/-- An allowed address. -/
def readAllowedIp (ts : Attributes) : Option (UInt32 × UInt8) := do
  let family ← ts.data? WGALLOWEDIP_A_FAMILY
  let address ← ts.data? WGALLOWEDIP_A_IPADDR
  let mask ← ts.data? WGALLOWEDIP_A_CIDR_MASK
  if order.ofU16 family = AF_INET ∧ address.length = 4 then
    return (ofBE32 address, mask.headD 0)
  else none

/-- A peer. -/
def readPeer (ts : Attributes) : Option PeerRequest := do
  let publicKey ← ts.data? WGPEER_A_PUBLIC_KEY
  let allowedIps ← (((ts.children? WGPEER_A_ALLOWEDIPS).map Attributes.elements).getD []).mapM
    (readAllowedIp order)
  if publicKey.length = 32 then
    return {
      publicKey
      flags := ((ts.data? WGPEER_A_FLAGS).map order.ofU32).getD 0
      endpoint := (ts.data? WGPEER_A_ENDPOINT).bind (readSockaddr order)
      keepalive := (ts.data? WGPEER_A_PERSISTENT_KEEPALIVE_INTERVAL).map order.ofU16
      allowedIps }
  else none

/-- A device. -/
def readDevice (ts : Attributes) : Option DeviceRequest := do
  let ifName ← ts.data? WGDEVICE_A_IFNAME
  let peers ← (((ts.children? WGDEVICE_A_PEERS).map Attributes.elements).getD []).mapM
    (readPeer order)
  return {
    ifName := cString ifName
    privateKey := ts.data? WGDEVICE_A_PRIVATE_KEY
    listenPort := (ts.data? WGDEVICE_A_LISTEN_PORT).map order.ofU16
    peers }

/-- A message on the interfaces. -/
def readRoute (nlmsg_type nlmsg_flags : UInt16) (payload : Bytes) : Option KernelRequest :=
  let ifi_index := order.ofU32 (slice payload 4 4)
  if nlmsg_type = RTM_NEWLINK then do
    let ts ← Attributes.parse order (payload.drop 16)
    let ifName ← ts.data? IFLA_IFNAME
    let kind ← (ts.children? IFLA_LINKINFO).bind (·.data? IFLA_INFO_KIND)
    return .newLink nlmsg_flags (cString ifName) (cString kind)
  else if nlmsg_type = RTM_DELLINK then do
    let ts ← Attributes.parse order (payload.drop 16)
    let ifName ← ts.data? IFLA_IFNAME
    return .delLink ifi_index (cString ifName)
  else if nlmsg_type = RTM_SETLINK then
    some (.setLink ifi_index (order.ofU32 (slice payload 8 4))
      (order.ofU32 (slice payload 12 4)))
  else if nlmsg_type = RTM_NEWADDR then do
    let ts ← Attributes.parse order (payload.drop 8)
    let address ← ts.data? IFA_LOCAL
    return .newAddress nlmsg_flags ifi_index ((slice payload 1 1).headD 0) address
  else none

/-- A generic message: to the controller, or to the family of WireGuard. -/
def readGeneric (familyId nlmsg_type : UInt16) (payload : Bytes) : Option KernelRequest := do
  let cmd := payload.headD 0
  let ts ← Attributes.parse order (payload.drop 4)
  if nlmsg_type = GENL_ID_CTRL then
    if cmd = CTRL_CMD_GETFAMILY then
      let name ← ts.data? CTRL_ATTR_FAMILY_NAME
      return .getFamily (cString name)
    else none
  else if nlmsg_type = familyId then
    if cmd = WG_CMD_SET_DEVICE then
      let request ← readDevice order ts
      return .setDevice request
    else if cmd = WG_CMD_GET_DEVICE then
      let ifName ← ts.data? WGDEVICE_A_IFNAME
      return .getDevice (cString ifName)
    else none
  else none

/-- The protocols of the sockets. -/
inductive NetlinkProtocol where
  | NETLINK_ROUTE
  | NETLINK_GENERIC
  deriving DecidableEq, Repr

/-- The reader of a protocol. A message that does not state its own length is refused. -/
def readRequest (familyId : UInt16) (protocol : NetlinkProtocol) (message : Bytes) :
    Option KernelRequest :=
  if message.length < 16 ∨ (order.ofU32 (slice message 0 4)).toNat ≠ message.length then none
  else
    let nlmsg_type := order.ofU16 (slice message 4 2)
    let payload := message.drop 16
    match protocol with
    | .NETLINK_ROUTE => readRoute order nlmsg_type (order.ofU16 (slice message 6 2)) payload
    | .NETLINK_GENERIC => readGeneric order familyId nlmsg_type payload

end Reader

/-! ### The headers -/

section Headers

variable {order : ByteOrder} {b : NetlinkBuffer} {nlmsg_type nlmsg_flags : UInt16}
  {nlmsg_seq : UInt32} {payload : Bytes}

/-- The header of a message that is sent. -/
lemma readRequest_sent (familyId : UInt16) (protocol : NetlinkProtocol)
    (hbuf : b.m_buf = nlmsghdr order 0 nlmsg_type nlmsg_flags nlmsg_seq ++ payload)
    (hsize : 16 + payload.length < 2 ^ 32) :
    readRequest order familyId protocol (sent order b) =
      match protocol with
      | .NETLINK_ROUTE => readRoute order nlmsg_type nlmsg_flags payload
      | .NETLINK_GENERIC => readGeneric order familyId nlmsg_type payload := by
  obtain ⟨len, hlen⟩ : ∃ len, len = UInt32.ofNat b.m_buf.length := ⟨_, rfl⟩
  have hbytes : sent order b = order.u32 len ++ (order.u16 nlmsg_type ++
      (order.u16 nlmsg_flags ++ (order.u32 nlmsg_seq ++ order.u32 0 ++ payload))) := by
    rw [sent, ← hlen, hbuf, nlmsghdr]
    simp only [List.append_assoc]
    rw [List.drop_left' (order.length_u32 0)]
  have hlength : (sent order b).length = 16 + payload.length := by
    rw [hbytes]
    simp only [List.length_append, ByteOrder.length_u16, ByteOrder.length_u32]
    omega
  have hfull : b.m_buf.length = 16 + payload.length := by
    rw [hbuf, nlmsghdr]
    simp only [List.length_append, ByteOrder.length_u16, ByteOrder.length_u32]
  have hfield : slice (sent order b) 0 4 = order.u32 len :=
    slice_eq_of_append (a := []) hbytes rfl (order.length_u32 len)
  have htype : slice (sent order b) 4 2 = order.u16 nlmsg_type :=
    slice_eq_of_append hbytes (order.length_u32 len) (order.length_u16 _)
  have hflags : slice (sent order b) 6 2 = order.u16 nlmsg_flags := by
    rw [← List.append_assoc] at hbytes
    refine slice_eq_of_append hbytes ?_ (order.length_u16 _)
    rw [List.length_append, ByteOrder.length_u32, ByteOrder.length_u16]
  have hpayload : (sent order b).drop 16 = payload := by
    have hparts : sent order b = (order.u32 len ++ order.u16 nlmsg_type ++
        order.u16 nlmsg_flags ++ order.u32 nlmsg_seq ++ order.u32 0) ++ payload := by
      rw [hbytes]
      simp only [List.append_assoc]
    rw [hparts]
    refine List.drop_left' ?_
    simp only [List.length_append, ByteOrder.length_u16, ByteOrder.length_u32]
  have hlen' : len.toNat = 16 + payload.length := by
    rw [hlen, hfull, UInt32.toNat_ofNat', Nat.mod_eq_of_lt hsize]
  rw [readRequest, hlength, hfield, ByteOrder.ofU32_u32, hlen', if_neg (by omega), htype,
    ByteOrder.ofU16_u16, hflags, ByteOrder.ofU16_u16, hpayload]

variable (order) in
/-- The attributes behind a header of the protocol. -/
lemma parse_drop {header : Bytes} {n : ℕ} (ts : Attributes) (hheader : header.length = n)
    (hfits : ts.Fits) (hflags : ts.Flagged) :
    Attributes.parse order ((header ++ ts.encode order).drop n) = some ts := by
  rw [List.drop_left' hheader]
  exact (Attributes.reads_encode order hfits).parse_eq hflags

end Headers

/-! ### The texts -/

/-- The name that a receiver finds. -/
lemma cString_toUtf8 (ifName : String) :
    cString (QString.toUtf8 ifName ++ [0]) = QString.toUtf8 (kernelName ifName) := by
  rw [kernelName, QString.toUtf8_upTo_null, cString]
  by_cases hall : ∀ b ∈ QString.toUtf8 ifName, decide (b ≠ 0) = true
  · rw [List.takeWhile_append_of_pos hall, List.takeWhile_eq_self_iff.mpr hall,
      List.takeWhile_cons_of_neg (by decide), List.append_nil]
  · rw [List.takeWhile_append, if_neg]
    intro hlength
    refine hall (List.takeWhile_eq_self_iff.mp ?_)
    exact (List.takeWhile_prefix _).eq_of_length hlength

/-- An attribute with a text that is not too long. -/
lemma fits_text {type : UInt16} {text : String} {rest : Attributes}
    (h : (QString.toUtf8 text).length ≤ 65530) (hrest : rest.Fits) :
    (Attributes.leaf type (QString.toUtf8 text ++ [0]) rest).Fits := by
  refine ⟨?_, hrest⟩
  rw [List.length_append, List.length_singleton, NLA_HDRLEN]
  omega

/-! ### The peers -/

/-- What the message says of a peer; one whose key does not have 32 bytes is left out. -/
def peerRequest (reader : AddressReader) (peer : WireGuardPeerConfig) : Option PeerRequest :=
  if peer.publicKey.length ≠ 32 then none
  else if peer.remove then some ⟨peer.publicKey, WGPEER_F_REMOVE_ME, none, none, []⟩
  else
    some {
      publicKey := peer.publicKey
      flags := WGPEER_F_REPLACE_ALLOWEDIPS
      endpoint := requestedEndpoint reader peer
      keepalive :=
        if 0 < peer.persistentKeepalive then some peer.persistentKeepalive else none
      allowedIps := requestedIps peer }

section Peers

open Attributes

variable {order : ByteOrder} (reader : AddressReader)

lemma data?_leafIf (k : UInt16) (cond : Prop) [Decidable cond] (type : UInt16) (data : Bytes) :
    (leafIf cond type data).data? k = if cond ∧ kind type = k then some data else none := by
  rw [leafIf]
  by_cases hcond : cond
  · rw [if_pos hcond, data?, data?_nil, Option.none_or]
    simp only [hcond, true_and]
  · rw [if_neg hcond, if_neg (fun h => hcond h.1), data?_nil]

lemma children?_leafIf (k : UInt16) (cond : Prop) [Decidable cond] (type : UInt16)
    (data : Bytes) : (leafIf cond type data).children? k = none := by
  rw [leafIf]
  split_ifs <;> rfl

/-- The elements of a list that a loop has written are read one by one. -/
lemma mapM_elements {α β : Type} {ts : α → Attributes} {f : Attributes → Option β}
    {g : α → Option β} (h : ∀ a, (ts a).elements.mapM f = some (g a).toList) (as : List α) :
    (attributesOf ts as).elements.mapM f = some (as.filterMap g) := by
  induction as with
  | nil => rfl
  | cons a as ih =>
      rw [attributesOf, elements_append, List.mapM_append, h, ih, List.filterMap_cons]
      cases g a <;> rfl

lemma readSockaddr_sockaddr_in (address : UInt32) (port : UInt16) :
    readSockaddr order (sockaddr_in order address port) = some (address, port) := by
  have hlength : (sockaddr_in order address port).length = 16 := by
    simp only [sockaddr_in, List.length_append, ByteOrder.length_u16, length_be16, length_be32,
      List.length_replicate]
  have hbytes : sockaddr_in order address port =
      order.u16 AF_INET ++ (be16 port ++ (be32 address ++ List.replicate 8 0)) := by
    simp only [sockaddr_in, List.append_assoc]
  have hfamily : slice (sockaddr_in order address port) 0 2 = order.u16 AF_INET :=
    slice_eq_of_append (a := []) hbytes rfl (order.length_u16 _)
  have hport : slice (sockaddr_in order address port) 2 2 = be16 port :=
    slice_eq_of_append hbytes (order.length_u16 _) (length_be16 port)
  have haddress : slice (sockaddr_in order address port) 4 4 = be32 address := by
    rw [← List.append_assoc] at hbytes
    refine slice_eq_of_append hbytes ?_ (length_be32 address)
    rw [List.length_append, ByteOrder.length_u16, length_be16]
  rw [readSockaddr, hlength, hfamily, ByteOrder.ofU16_u16, if_pos ⟨rfl, rfl⟩, haddress, hport,
    ofBE32_be32, ofBE16_be16]

lemma mapM_readAllowedIp (peer : WireGuardPeerConfig) :
    (attributesOf (allowedIpAttributes order) peer.allowedIps).elements.mapM
      (readAllowedIp order) = some (requestedIps peer) := by
  refine mapM_elements (fun aip => ?_) _
  rw [allowedIpAttributes]
  cases aip.address with
  | ipv4 address =>
      have hread : readAllowedIp order (.leaf WGALLOWEDIP_A_FAMILY (order.u16 AF_INET)
          (.leaf WGALLOWEDIP_A_IPADDR (be32 address)
            (.leaf WGALLOWEDIP_A_CIDR_MASK [aip.cidrMask] .nil))) =
          some (address, aip.cidrMask) := by
        simp +decide [readAllowedIp, data?]
      simp only [elements, List.mapM_cons, List.mapM_nil, hread]
      rfl
  | _ => rfl

variable (order) in
/-- What a receiver finds among the attributes of a peer that is not removed. -/
lemma lookups_settings (peer : WireGuardPeerConfig) :
    (settingsAttributes order reader peer).data? WGPEER_A_PUBLIC_KEY = none ∧
    (settingsAttributes order reader peer).data? WGPEER_A_FLAGS =
      some (order.u32 WGPEER_F_REPLACE_ALLOWEDIPS) ∧
    (settingsAttributes order reader peer).data? WGPEER_A_ENDPOINT =
      (requestedEndpoint reader peer).map (fun e => sockaddr_in order e.1 e.2) ∧
    (settingsAttributes order reader peer).data? WGPEER_A_PERSISTENT_KEEPALIVE_INTERVAL =
      (if 0 < peer.persistentKeepalive then some (order.u16 peer.persistentKeepalive)
      else none) ∧
    (settingsAttributes order reader peer).children? WGPEER_A_ALLOWEDIPS =
      if peer.allowedIps = [] then none
      else some (attributesOf (allowedIpAttributes order) peer.allowedIps) := by
  have hendpoint : ∀ k, (endpointAttributes order reader peer).data? k =
      if k = WGPEER_A_ENDPOINT then
        (requestedEndpoint reader peer).map (fun e => sockaddr_in order e.1 e.2)
      else none := by
    intro k
    rw [endpointAttributes]
    cases requestedEndpoint reader peer with
    | some endpoint =>
        have hkind : kind WGPEER_A_ENDPOINT = WGPEER_A_ENDPOINT := by decide
        simp only [data?, hkind, Option.none_or, Option.map_some, eq_comm]
    | none => rw [data?_nil, Option.map_none, ite_self]
  have hendpoint' : ∀ k, (endpointAttributes order reader peer).children? k = none := by
    intro k
    rw [endpointAttributes]
    cases requestedEndpoint reader peer <;> rfl
  have hips : ∀ k, (allowedIpsAttributes order peer).data? k = none := by
    intro k
    rw [allowedIpsAttributes]
    split_ifs <;> rfl
  have hips' : (allowedIpsAttributes order peer).children? WGPEER_A_ALLOWEDIPS =
      if peer.allowedIps = [] then none
      else some (attributesOf (allowedIpAttributes order) peer.allowedIps) := by
    rw [allowedIpsAttributes]
    split_ifs
    · rfl
    · have hkind : kind (NLA_F_NESTED ||| WGPEER_A_ALLOWEDIPS) = WGPEER_A_ALLOWEDIPS := by
        decide
      rw [children?, hkind, if_pos rfl, children?_nil, Option.none_or]
  rw [settingsAttributes]
  refine ⟨?_, ?_, ?_, ?_, ?_⟩
  · simp +decide [data?, data?_append, data?_leafIf, hendpoint, hips]
  · simp +decide [data?, data?_append, data?_leafIf, hendpoint, hips]
  · simp +decide [data?, data?_append, data?_leafIf, hendpoint, hips]
  · simp +decide [data?, data?_append, data?_leafIf, hendpoint, hips]
  · rw [children?, children?_append, children?_append, children?_leafIf, hendpoint', hips',
      Option.or_none, Option.or_none]

/-- **A peer** is read as it was written. -/
lemma mapM_readPeer (peer : WireGuardPeerConfig) :
    (peerAttributes order reader peer).elements.mapM (readPeer order) =
      some (peerRequest reader peer).toList := by
  rw [peerAttributes, peerRequest]
  by_cases hkey : peer.publicKey.length ≠ 32
  · rw [if_pos hkey, if_pos hkey]
    rfl
  · rw [if_neg hkey, if_neg hkey]
    rw [not_not] at hkey
    have hkind : kind WGPEER_A_PUBLIC_KEY = WGPEER_A_PUBLIC_KEY := by decide
    cases hremove : peer.remove with
    | true =>
        have hread : readPeer order (.leaf WGPEER_A_PUBLIC_KEY peer.publicKey
            (.leaf WGPEER_A_FLAGS (order.u32 WGPEER_F_REMOVE_ME) .nil)) =
            some ⟨peer.publicKey, WGPEER_F_REMOVE_ME, none, none, []⟩ := by
          simp +decide [readPeer, data?, children?, hkey]
        rw [elements, elements, List.mapM_cons, if_pos rfl, hread]
        rfl
    | false =>
        obtain ⟨hnokey, hflags, hendpoint, hkeepalive, hips⟩ :=
          lookups_settings order reader peer
        have hips' : ((((settingsAttributes order reader peer).children?
            WGPEER_A_ALLOWEDIPS).map elements).getD []).mapM (readAllowedIp order) =
              some (requestedIps peer) := by
          rw [hips]
          by_cases hnil : peer.allowedIps = []
          · rw [if_pos hnil, requestedIps, hnil]
            rfl
          · rw [if_neg hnil, Option.map_some, Option.getD_some, mapM_readAllowedIp]
        have hendpoint' : ((requestedEndpoint reader peer).map
            (fun e => sockaddr_in order e.1 e.2)).bind (readSockaddr order) =
              requestedEndpoint reader peer := by
          cases requestedEndpoint reader peer with
          | some endpoint =>
              rw [Option.map_some, Option.bind_some, readSockaddr_sockaddr_in]
          | none => rfl
        have hkeepalive' : (if 0 < peer.persistentKeepalive then
            some (order.u16 peer.persistentKeepalive) else none).map order.ofU16 =
              if 0 < peer.persistentKeepalive then some peer.persistentKeepalive else none := by
          split_ifs
          · rw [Option.map_some, ByteOrder.ofU16_u16]
          · rfl
        have hne : ∀ k, k ≠ WGPEER_A_PUBLIC_KEY →
            (leaf WGPEER_A_PUBLIC_KEY peer.publicKey
              (settingsAttributes order reader peer)).data? k =
                (settingsAttributes order reader peer).data? k := by
          intro k hk
          rw [data?, hkind, if_neg (Ne.symm hk), Option.or_none]
        have hread : readPeer order (.leaf WGPEER_A_PUBLIC_KEY peer.publicKey
            (settingsAttributes order reader peer)) =
            some {
              publicKey := peer.publicKey
              flags := WGPEER_F_REPLACE_ALLOWEDIPS
              endpoint := requestedEndpoint reader peer
              keepalive :=
                if 0 < peer.persistentKeepalive then some peer.persistentKeepalive else none
              allowedIps := requestedIps peer } := by
          rw [readPeer, hne WGPEER_A_FLAGS (by decide), hne WGPEER_A_ENDPOINT (by decide),
            hne WGPEER_A_PERSISTENT_KEEPALIVE_INTERVAL (by decide), hflags, hendpoint, hkeepalive,
            data?, hnokey, hkind, if_pos rfl, Option.none_or, children?, hendpoint', hkeepalive',
            Option.map_some, Option.getD_some, ByteOrder.ofU32_u32]
          change ((((settingsAttributes order reader peer).children?
            WGPEER_A_ALLOWEDIPS).map elements).getD []).mapM (readAllowedIp order) >>= _ = _
          rw [hips']
          change (if peer.publicKey.length = 32 then _ else none) = _
          rw [if_pos hkey]
          rfl
        rw [elements, elements, List.mapM_cons, if_neg Bool.false_ne_true, hread]
        rfl

/-- What the message to a device says. -/
def deviceRequest (ifName : String) (privateKey : Bytes) (listenPort : UInt16)
    (peers : List WireGuardPeerConfig) : DeviceRequest where
  ifName := QString.toUtf8 (kernelName ifName)
  privateKey := if privateKey.length = 32 then some privateKey else none
  listenPort := if 0 < listenPort then some listenPort else none
  peers := peers.filterMap (peerRequest reader)

/-- **A device** is read as it was written. -/
lemma readDevice_deviceAttributes (ifName : String) (privateKey : Bytes) (listenPort : UInt16)
    (peers : List WireGuardPeerConfig) :
    readDevice order (deviceAttributes order reader ifName privateKey listenPort peers) =
      some (deviceRequest reader ifName privateKey listenPort peers) := by
  have hleaf : ∀ k, (peersAttributes order reader peers).data? k = none := by
    intro k
    rw [peersAttributes]
    split_ifs <;> rfl
  have hpeers : ((((peersAttributes order reader peers).children? WGDEVICE_A_PEERS).map
      elements).getD []).mapM (readPeer order) = some (peers.filterMap (peerRequest reader)) := by
    rw [peersAttributes]
    by_cases hnil : peers = []
    · rw [if_pos hnil, hnil]
      rfl
    · have hkind : kind (NLA_F_NESTED ||| WGDEVICE_A_PEERS) = WGDEVICE_A_PEERS := by decide
      rw [if_neg hnil, children?, hkind, if_pos rfl, children?_nil, Option.none_or,
        Option.map_some, Option.getD_some]
      exact mapM_elements (mapM_readPeer reader) peers
  have hname : (deviceAttributes order reader ifName privateKey listenPort peers).data?
      WGDEVICE_A_IFNAME = some (QString.toUtf8 ifName ++ [0]) := by
    rw [deviceAttributes]
    simp +decide [data?, data?_append, data?_leafIf, hleaf]
  have hkey : (deviceAttributes order reader ifName privateKey listenPort peers).data?
      WGDEVICE_A_PRIVATE_KEY =
        if privateKey.length = 32 then some privateKey else none := by
    rw [deviceAttributes]
    simp +decide [data?, data?_append, data?_leafIf, hleaf]
  have hport : (deviceAttributes order reader ifName privateKey listenPort peers).data?
      WGDEVICE_A_LISTEN_PORT =
        if 0 < listenPort then some (order.u16 listenPort) else none := by
    rw [deviceAttributes]
    simp +decide [data?, data?_append, data?_leafIf, hleaf]
  have hchildren : (deviceAttributes order reader ifName privateKey listenPort peers).children?
      WGDEVICE_A_PEERS = (peersAttributes order reader peers).children? WGDEVICE_A_PEERS := by
    rw [deviceAttributes, children?, children?_append, children?_append, children?_leafIf,
      children?_leafIf, Option.or_none, Option.or_none]
  have hport' : (if 0 < listenPort then some (order.u16 listenPort) else none).map order.ofU16 =
      if 0 < listenPort then some listenPort else none := by
    split_ifs
    · rw [Option.map_some, ByteOrder.ofU16_u16]
    · rfl
  rw [readDevice, hname, hkey, hport, hport', hchildren]
  change (((peersAttributes order reader peers).children? WGDEVICE_A_PEERS).map
    elements |>.getD []).mapM (readPeer order) >>= _ = _
  rw [hpeers, deviceRequest, ← cString_toUtf8]
  rfl

end Peers

/-! ### All messages -/

section Sizes

/-- A message with one text. -/
lemma size_text (type : UInt16) {text : String} (h : (QString.toUtf8 text).length ≤ 65530)
    (rest : Attributes) :
    (Attributes.leaf type (QString.toUtf8 text ++ [0]) rest).size ≤ 65536 + rest.size := by
  rw [Attributes.size, List.length_append, List.length_singleton, NLA_HDRLEN, NLA_ALIGN]
  omega

/-- The message to a device is short enough for its own length field. -/
lemma size_deviceAttributes_lt (order : ByteOrder) {reader : AddressReader} {ifName : String}
    {peers : List WireGuardPeerConfig} (privateKey : Bytes) (listenPort : UInt16)
    (hname : (QString.toUtf8 ifName).length ≤ 65530)
    (hpeers : (peers.map (peerSize reader)).sum ≤ 65531) :
    (deviceAttributes order reader ifName privateKey listenPort peers).size ≤ 200000 := by
  have hkey : (leafIf (privateKey.length = 32) WGDEVICE_A_PRIVATE_KEY privateKey).size ≤ 36 := by
    rw [size_leafIf]
    split_ifs with hlength
    · rw [hlength]
      exact le_refl 36
    · exact Nat.zero_le _
  have hport : (leafIf (0 < listenPort) WGDEVICE_A_LISTEN_PORT
      (order.u16 listenPort)).size ≤ 8 := by
    rw [size_leafIf, ByteOrder.length_u16]
    split_ifs
    · exact le_refl 8
    · exact Nat.zero_le _
  have hlist : (peersAttributes order reader peers).size ≤ 65540 := by
    rw [peersAttributes]
    split_ifs with hnil
    · exact Nat.zero_le _
    · have hmap : (peers.map fun peer => (peerAttributes order reader peer).size) =
          peers.map (peerSize reader) :=
        List.map_congr_left fun peer _ => size_peerAttributes reader peer
      rw [Attributes.size, Attributes.size, size_attributesOf, hmap, NLA_HDRLEN, NLA_ALIGN]
      omega
  have htext := size_text WGDEVICE_A_IFNAME hname
    (((leafIf (privateKey.length = 32) WGDEVICE_A_PRIVATE_KEY privateKey).append
      (leafIf (0 < listenPort) WGDEVICE_A_LISTEN_PORT (order.u16 listenPort))).append
        (peersAttributes order reader peers))
  rw [Attributes.size_append, Attributes.size_append] at htext
  rw [deviceAttributes]
  omega

end Sizes

section Written

variable {order : ByteOrder}

variable (order) in
lemma writes_putAttrStr (type : UInt16) (str : String) :
    Writes order (fun b => b.putAttrStr order type str)
      (.leaf type (QString.toUtf8 str ++ [0]) .nil) :=
  writes_putAttr order type _

/-- The attributes of the message that creates an interface. -/
def createAttributes (ifName : String) : Attributes :=
  .leaf IFLA_IFNAME (QString.toUtf8 ifName ++ [0])
    (.nest (NLA_F_NESTED ||| IFLA_LINKINFO)
      (.leaf IFLA_INFO_KIND (QString.toUtf8 WG_GENL_NAME ++ [0]) .nil) .nil)

variable (order) in
lemma m_buf_createMessage (ifName : String) :
    (createMessage order ifName).m_buf =
      nlmsghdr order 0 RTM_NEWLINK
        (NLM_F_REQUEST ||| NLM_F_ACK ||| NLM_F_CREATE ||| NLM_F_EXCL) 2 ++
          (ifinfomsg order 0 0 0 ++ (createAttributes ifName).encode order) := by
  have hkind := writes_putAttrStr order IFLA_INFO_KIND WG_GENL_NAME
  have hinfo := (writes_putAttrStr order IFLA_IFNAME ifName).comp
    (writes_nested IFLA_LINKINFO hkind)
  simp only [Attributes.append] at hinfo
  rw [← List.append_assoc]
  exact hinfo ⟨nlmsghdr order 0 RTM_NEWLINK
    (NLM_F_REQUEST ||| NLM_F_ACK ||| NLM_F_CREATE ||| NLM_F_EXCL) 2 ++ ifinfomsg order 0 0 0⟩

variable (order) in
lemma m_buf_addressMessage (ifIndex : UInt32) (prefixLen : UInt8) (addr : Bytes) :
    (addressMessage order ifIndex prefixLen addr).m_buf =
      nlmsghdr order 0 RTM_NEWADDR
        (NLM_F_REQUEST ||| NLM_F_ACK ||| NLM_F_CREATE ||| NLM_F_REPLACE) 4 ++
          (ifaddrmsg order prefixLen ifIndex ++
            (Attributes.leaf IFA_LOCAL addr (.leaf IFA_ADDRESS addr .nil)).encode order) := by
  have hboth := (writes_putAttr order IFA_LOCAL addr).comp (writes_putAttr order IFA_ADDRESS addr)
  simp only [Attributes.append] at hboth
  rw [← List.append_assoc]
  exact hboth ⟨nlmsghdr order 0 RTM_NEWADDR
    (NLM_F_REQUEST ||| NLM_F_ACK ||| NLM_F_CREATE ||| NLM_F_REPLACE) 4 ++
      ifaddrmsg order prefixLen ifIndex⟩

/-- A message with one text behind a header. -/
lemma m_buf_putAttrStr (header : Bytes) (type : UInt16) (str : String) :
    (putAttrStr order ⟨header⟩ type str).m_buf =
      header ++ (Attributes.leaf type (QString.toUtf8 str ++ [0]) .nil).encode order :=
  writes_putAttrStr order type str ⟨header⟩

end Written

/-! ### Reading all of them -/

section Read

open Attributes

variable (order : ByteOrder) (familyId : UInt16)

lemma length_genlmsghdr (cmd version : UInt8) : (genlmsghdr cmd version).length = 4 := rfl

lemma length_ifinfomsg (ifi_index ifi_flags ifi_change : UInt32) :
    (ifinfomsg order ifi_index ifi_flags ifi_change).length = 16 := by
  simp only [ifinfomsg, List.length_append, ByteOrder.length_u16, ByteOrder.length_u32,
    List.length_cons, List.length_nil]

/-- The fields of a `struct ifinfomsg`. -/
lemma slices_ifinfomsg (ifi_index ifi_flags ifi_change : UInt32) (rest : Bytes) :
    slice (ifinfomsg order ifi_index ifi_flags ifi_change ++ rest) 4 4 = order.u32 ifi_index ∧
    slice (ifinfomsg order ifi_index ifi_flags ifi_change ++ rest) 8 4 = order.u32 ifi_flags ∧
    slice (ifinfomsg order ifi_index ifi_flags ifi_change ++ rest) 12 4 =
      order.u32 ifi_change := by
  simp only [ifinfomsg, List.append_assoc]
  refine ⟨slice_eq_of_append (List.append_assoc _ _ _).symm ?_ (order.length_u32 _), ?_, ?_⟩
  · rw [List.length_append, ByteOrder.length_u16]
    rfl
  · rw [← List.append_assoc, ← List.append_assoc]
    refine slice_eq_of_append rfl ?_ (order.length_u32 _)
    simp only [List.length_append, ByteOrder.length_u16, ByteOrder.length_u32]
    rfl
  · rw [← List.append_assoc, ← List.append_assoc, ← List.append_assoc]
    refine slice_eq_of_append rfl ?_ (order.length_u32 _)
    simp only [List.length_append, ByteOrder.length_u16, ByteOrder.length_u32]
    rfl

lemma readRequest_createMessage {ifName : String}
    (hname : (QString.toUtf8 ifName).length ≤ 65530) :
    readRequest order familyId .NETLINK_ROUTE (sent order (createMessage order ifName)) =
      some (.newLink (NLM_F_REQUEST ||| NLM_F_ACK ||| NLM_F_CREATE ||| NLM_F_EXCL)
        (QString.toUtf8 (kernelName ifName)) (QString.toUtf8 WG_GENL_NAME)) := by
  have hsize := size_text IFLA_IFNAME hname (.nest (NLA_F_NESTED ||| IFLA_LINKINFO)
    (.leaf IFLA_INFO_KIND (QString.toUtf8 WG_GENL_NAME ++ [0]) .nil) .nil)
  have hinfo : (Attributes.nest (NLA_F_NESTED ||| IFLA_LINKINFO)
      (.leaf IFLA_INFO_KIND (QString.toUtf8 WG_GENL_NAME ++ [0]) .nil) .nil).size = 20 := by
    decide
  have hparse := parse_drop order (createAttributes ifName)
    (length_ifinfomsg order 0 0 0) (fits_text hname (by decide))
    ⟨by decide, isNested_or _, ⟨by decide, trivial⟩, trivial⟩
  have hkind : cString (QString.toUtf8 WG_GENL_NAME ++ [0]) = QString.toUtf8 WG_GENL_NAME := by
    decide
  rw [readRequest_sent familyId _ (m_buf_createMessage order ifName) (by
    rw [List.length_append, length_ifinfomsg, length_encode, createAttributes]
    omega)]
  rw [readRoute, if_pos rfl, hparse]
  simp +decide [createAttributes, data?, children?, cString_toUtf8, hkind]

lemma readRequest_deleteMessage {ifName : String}
    (hname : (QString.toUtf8 ifName).length ≤ 65530) (ifIndex : UInt32) :
    readRequest order familyId .NETLINK_ROUTE (sent order (deleteMessage order ifName ifIndex)) =
      some (.delLink ifIndex (QString.toUtf8 (kernelName ifName))) := by
  have hsize := size_text IFLA_IFNAME hname .nil
  have hbuf : (deleteMessage order ifName ifIndex).m_buf =
      nlmsghdr order 0 RTM_DELLINK (NLM_F_REQUEST ||| NLM_F_ACK) 3 ++
        (ifinfomsg order ifIndex 0 0 ++
          (Attributes.leaf IFLA_IFNAME (QString.toUtf8 ifName ++ [0]) .nil).encode order) := by
    rw [← List.append_assoc]
    exact m_buf_putAttrStr _ _ _
  have hparse := parse_drop order
    (.leaf IFLA_IFNAME (QString.toUtf8 ifName ++ [0]) .nil)
    (length_ifinfomsg order ifIndex 0 0) (fits_text hname trivial) ⟨by decide, trivial⟩
  rw [readRequest_sent familyId _ hbuf (by
    rw [List.length_append, length_ifinfomsg, length_encode]
    rw [Attributes.size] at hsize
    omega)]
  rw [readRoute, if_neg (by decide), if_pos rfl, hparse,
    (slices_ifinfomsg order ifIndex 0 0 _).1, ByteOrder.ofU32_u32]
  simp +decide [data?, cString_toUtf8]

lemma readRequest_linkMessage (ifIndex : UInt32) (up : Bool) :
    readRequest order familyId .NETLINK_ROUTE (sent order (linkMessage order ifIndex up)) =
      some (.setLink ifIndex (if up then IFF_UP else 0) IFF_UP) := by
  have hbuf : (linkMessage order ifIndex up).m_buf =
      nlmsghdr order 0 RTM_SETLINK (NLM_F_REQUEST ||| NLM_F_ACK) 5 ++
        ifinfomsg order ifIndex (if up then IFF_UP else 0) IFF_UP := rfl
  obtain ⟨hindex, hflags, hchange⟩ :=
    slices_ifinfomsg order ifIndex (if up then IFF_UP else 0) IFF_UP []
  rw [List.append_nil] at hindex hflags hchange
  rw [readRequest_sent familyId _ hbuf (by rw [length_ifinfomsg]; omega)]
  rw [readRoute, if_neg (by decide), if_neg (by decide), if_pos rfl, hindex, hflags, hchange]
  simp only [ByteOrder.ofU32_u32]

lemma readRequest_addressMessage (ifIndex : UInt32) (prefixLen : UInt8) {addr : Bytes}
    (haddr : addr.length = 4) :
    readRequest order familyId .NETLINK_ROUTE
        (sent order (addressMessage order ifIndex prefixLen addr)) =
      some (.newAddress (NLM_F_REQUEST ||| NLM_F_ACK ||| NLM_F_CREATE ||| NLM_F_REPLACE)
        ifIndex prefixLen addr) := by
  have hheader : (ifaddrmsg order prefixLen ifIndex).length = 8 := by
    simp only [ifaddrmsg, List.length_append, ByteOrder.length_u32, List.length_cons,
      List.length_nil]
  have hfits : NLA_HDRLEN + addr.length ≤ 65535 := by
    rw [haddr, NLA_HDRLEN]
    omega
  have hparse := parse_drop order
    (.leaf IFA_LOCAL addr (.leaf IFA_ADDRESS addr .nil)) hheader
    ⟨hfits, hfits, trivial⟩ ⟨by decide, by decide, trivial⟩
  have hsize : (Attributes.leaf IFA_LOCAL addr (.leaf IFA_ADDRESS addr .nil)).size = 16 := by
    rw [Attributes.size, Attributes.size, haddr]
    rfl
  have hindex : ∀ rest, slice (ifaddrmsg order prefixLen ifIndex ++ rest) 4 4 =
      order.u32 ifIndex := by
    intro rest
    rw [ifaddrmsg, List.append_assoc]
    exact slice_eq_of_append rfl rfl (order.length_u32 ifIndex)
  have hprefix : ∀ rest, (slice (ifaddrmsg order prefixLen ifIndex ++ rest) 1 1).headD 0 =
      prefixLen := fun _ => rfl
  rw [readRequest_sent familyId _ (m_buf_addressMessage order ifIndex prefixLen addr) (by
    rw [List.length_append, hheader, length_encode, hsize]
    omega)]
  rw [readRoute, if_neg (by decide), if_neg (by decide), if_neg (by decide), if_pos rfl, hparse,
    hindex, hprefix, ByteOrder.ofU32_u32]
  simp +decide [data?]

lemma readRequest_familyMessage :
    readRequest order familyId .NETLINK_GENERIC (sent order (familyMessage order)) =
      some (.getFamily (QString.toUtf8 WG_GENL_NAME)) := by
  have hbuf : (familyMessage order).m_buf = nlmsghdr order 0 GENL_ID_CTRL NLM_F_REQUEST 1 ++
      (genlmsghdr CTRL_CMD_GETFAMILY 1 ++ (Attributes.leaf CTRL_ATTR_FAMILY_NAME
        (QString.toUtf8 WG_GENL_NAME ++ [0]) .nil).encode order) := by
    rw [← List.append_assoc]
    exact m_buf_putAttrStr _ _ _
  have hparse := parse_drop order
    (.leaf CTRL_ATTR_FAMILY_NAME (QString.toUtf8 WG_GENL_NAME ++ [0]) .nil)
    (length_genlmsghdr CTRL_CMD_GETFAMILY 1) (by decide) ⟨by decide, trivial⟩
  have hkind : cString (QString.toUtf8 WG_GENL_NAME ++ [0]) = QString.toUtf8 WG_GENL_NAME := by
    decide
  rw [readRequest_sent familyId _ hbuf (by
    rw [List.length_append, length_encode]
    decide)]
  rw [readGeneric, hparse]
  simp +decide [data?, genlmsghdr, hkind]

variable {familyId}

lemma readRequest_deviceQuery (hfamily : familyId ≠ GENL_ID_CTRL) {ifName : String}
    (hname : (QString.toUtf8 ifName).length ≤ 65530) :
    readRequest order familyId .NETLINK_GENERIC
        (sent order (deviceQuery order familyId ifName)) =
      some (.getDevice (QString.toUtf8 (kernelName ifName))) := by
  have hsize := size_text WGDEVICE_A_IFNAME hname .nil
  have hbuf : (deviceQuery order familyId ifName).m_buf =
      nlmsghdr order 0 familyId (NLM_F_REQUEST ||| NLM_F_DUMP) 7 ++
        (genlmsghdr WG_CMD_GET_DEVICE WG_GENL_VERSION ++ (Attributes.leaf WGDEVICE_A_IFNAME
          (QString.toUtf8 ifName ++ [0]) .nil).encode order) := by
    rw [← List.append_assoc]
    exact m_buf_putAttrStr _ _ _
  have hparse := parse_drop order
    (.leaf WGDEVICE_A_IFNAME (QString.toUtf8 ifName ++ [0]) .nil)
    (length_genlmsghdr WG_CMD_GET_DEVICE WG_GENL_VERSION) (fits_text hname trivial)
    ⟨by decide, trivial⟩
  rw [readRequest_sent familyId _ hbuf (by
    rw [List.length_append, length_encode, length_genlmsghdr]
    rw [Attributes.size] at hsize
    omega)]
  rw [readGeneric, hparse]
  simp +decide [hfamily, data?, genlmsghdr, cString_toUtf8]

lemma readRequest_deviceMessage (reader : AddressReader) (hfamily : familyId ≠ GENL_ID_CTRL)
    {ifName : String} (hname : (QString.toUtf8 ifName).length ≤ 65530) (privateKey : Bytes)
    (listenPort : UInt16) {peers : List WireGuardPeerConfig}
    (hpeers : (peers.map (peerSize reader)).sum ≤ 65531) :
    readRequest order familyId .NETLINK_GENERIC
        (sent order (deviceMessage order reader familyId ifName privateKey listenPort peers)) =
      some (.setDevice (deviceRequest reader ifName privateKey listenPort peers)) := by
  have hsize := size_deviceAttributes_lt order privateKey listenPort hname hpeers
  have hbuf : (deviceMessage order reader familyId ifName privateKey listenPort peers).m_buf = _ :=
    m_buf_deviceMessage reader familyId ifName privateKey listenPort peers
  rw [deviceHeaders, List.append_assoc] at hbuf
  have hparse := parse_drop order
    (deviceAttributes order reader ifName privateKey listenPort peers)
    (length_genlmsghdr WG_CMD_SET_DEVICE WG_GENL_VERSION)
    ((fits_deviceAttributes reader ifName privateKey listenPort peers).mpr ⟨hname, hpeers⟩)
    (flagged_deviceAttributes reader ifName privateKey listenPort peers)
  rw [readRequest_sent familyId _ hbuf (by
    rw [List.length_append, length_encode, length_genlmsghdr]
    omega)]
  rw [readGeneric, hparse]
  simp +decide [hfamily, genlmsghdr, readDevice_deviceAttributes]

variable {order}

/-- **The messages.** What the program sends is read back by a receiver that goes by the
length fields and the types: every message as the request that it stands for, with the
name up to its first null, and in the message to a device every peer whose key has 32
bytes, with all that is set of it. This holds as long as the name has at most 65530 bytes
and the peers at most 65531. -/
theorem messages_read (reader : AddressReader) (hfamily : familyId ≠ GENL_ID_CTRL)
    {ifName : String} (hname : (QString.toUtf8 ifName).length ≤ 65530) (ifIndex : UInt32)
    (up : Bool) (prefixLen : UInt8) {addr : Bytes} (haddr : addr.length = 4)
    (privateKey : Bytes) (listenPort : UInt16) {peers : List WireGuardPeerConfig}
    (hpeers : (peers.map (peerSize reader)).sum ≤ 65531) :
    let name := QString.toUtf8 (kernelName ifName)
    let route := fun b => readRequest order familyId .NETLINK_ROUTE (sent order b)
    let generic := fun b => readRequest order familyId .NETLINK_GENERIC (sent order b)
    route (createMessage order ifName) =
      some (.newLink (NLM_F_REQUEST ||| NLM_F_ACK ||| NLM_F_CREATE ||| NLM_F_EXCL) name
        (QString.toUtf8 WG_GENL_NAME)) ∧
    route (deleteMessage order ifName ifIndex) = some (.delLink ifIndex name) ∧
    route (linkMessage order ifIndex up) =
      some (.setLink ifIndex (if up then IFF_UP else 0) IFF_UP) ∧
    route (addressMessage order ifIndex prefixLen addr) =
      some (.newAddress (NLM_F_REQUEST ||| NLM_F_ACK ||| NLM_F_CREATE ||| NLM_F_REPLACE)
        ifIndex prefixLen addr) ∧
    generic (familyMessage order) = some (.getFamily (QString.toUtf8 WG_GENL_NAME)) ∧
    generic (deviceQuery order familyId ifName) = some (.getDevice name) ∧
    generic (deviceMessage order reader familyId ifName privateKey listenPort peers) =
      some (.setDevice {
        ifName := name
        privateKey := if privateKey.length = 32 then some privateKey else none
        listenPort := if 0 < listenPort then some listenPort else none
        peers := peers.filterMap (peerRequest reader) }) :=
  ⟨readRequest_createMessage order familyId hname,
    readRequest_deleteMessage order familyId hname ifIndex,
    readRequest_linkMessage order familyId ifIndex up,
    readRequest_addressMessage order familyId ifIndex prefixLen haddr,
    readRequest_familyMessage order familyId,
    readRequest_deviceQuery order hfamily hname,
    readRequest_deviceMessage order reader hfamily hname privateKey listenPort hpeers⟩

/-- A device with one peer that is set and one that is removed. -/
theorem messages_read_two_peers :
    readRequest .littleEndian 30 .NETLINK_GENERIC (sent .littleEndian
      (deviceMessage .littleEndian silentReader 30 "mc0" [] 51820
        [plainPeer 1, { publicKey := List.replicate 32 7, remove := true }])) =
      some (.setDevice {
        ifName := QString.toUtf8 (kernelName "mc0")
        privateKey := none
        listenPort := some 51820
        peers := [plainPeer 1, { publicKey := List.replicate 32 7, remove := true }].filterMap
          (peerRequest silentReader) }) :=
  (messages_read silentReader (by decide) (by decide) 1 true 16
    (List.length_replicate (a := (0 : UInt8)) (n := 4)) [] 51820 (by decide)).2.2.2.2.2.2

end Read

end MeckChat.Network
