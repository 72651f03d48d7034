import MeckChat.Network.NetlinkBuffer
import MeckChat.Network.NetlinkWireGuard

/-!
The message of `setWireGuardDevice`, byte by byte (`netlink_wireguard.cpp`).

* `deviceMessage` assembles the message as the source does, `putPeer` and `putAllowedIp`
  are the bodies of its loops.
* `deviceAttributes` are the attributes that the message is meant to have;
  `m_buf_deviceMessage` says that they are written behind the two headers.
* `peerSize` is the number of bytes of a peer.
* `peer_lengths_true`: the length fields are right exactly if the peers have at most 65531
  bytes together, and then the walk finds them all.
-/

namespace MeckChat.Network

open NetlinkBuffer

/-! ### The constants of the kernel's headers -/

/-- The family of IPv4 addresses. -/
def AF_INET : UInt16 := 2
/-- The message is a request. -/
def NLM_F_REQUEST : UInt16 := 1
/-- It asks for an acknowledgement. -/
def NLM_F_ACK : UInt16 := 4
/-- The command that configures a device. -/
def WG_CMD_SET_DEVICE : UInt8 := 1
/-- The version of the family. -/
def WG_GENL_VERSION : UInt8 := 1
/-- The name of the interface. -/
def WGDEVICE_A_IFNAME : UInt16 := 2
/-- The private key of the device. -/
def WGDEVICE_A_PRIVATE_KEY : UInt16 := 3
/-- The port it listens on. -/
def WGDEVICE_A_LISTEN_PORT : UInt16 := 6
/-- The nest of its peers. -/
def WGDEVICE_A_PEERS : UInt16 := 8
/-- The public key of a peer. -/
def WGPEER_A_PUBLIC_KEY : UInt16 := 1
/-- What is to be done with the peer. -/
def WGPEER_A_FLAGS : UInt16 := 3
/-- The address of the peer. -/
def WGPEER_A_ENDPOINT : UInt16 := 4
/-- The seconds between two keepalives. -/
def WGPEER_A_PERSISTENT_KEEPALIVE_INTERVAL : UInt16 := 5
/-- The nest of the networks behind the peer. -/
def WGPEER_A_ALLOWEDIPS : UInt16 := 9
/-- The family of a network. -/
def WGALLOWEDIP_A_FAMILY : UInt16 := 1
/-- The address of a network. -/
def WGALLOWEDIP_A_IPADDR : UInt16 := 2
/-- The length of its prefix. -/
def WGALLOWEDIP_A_CIDR_MASK : UInt16 := 3
/-- The flag of a peer that is to be removed. -/
def WGPEER_F_REMOVE_ME : UInt32 := 1
/-- The flag of a peer whose networks are to be replaced. -/
def WGPEER_F_REPLACE_ALLOWEDIPS : UInt32 := 2

variable (order : ByteOrder) (reader : AddressReader)

/-- `struct nlmsghdr`. -/
def nlmsghdr (nlmsg_len : UInt32) (nlmsg_type nlmsg_flags : UInt16)
    (nlmsg_seq : UInt32) : Bytes :=
  order.u32 nlmsg_len ++ order.u16 nlmsg_type ++ order.u16 nlmsg_flags ++
    order.u32 nlmsg_seq ++ order.u32 0

/-- `struct genlmsghdr`. -/
def genlmsghdr (cmd version : UInt8) : Bytes := [cmd, version, 0, 0]

/-- `struct sockaddr_in`. -/
def sockaddr_in (address : UInt32) (port : UInt16) : Bytes :=
  order.u16 AF_INET ++ be16 port ++ be32 address ++ List.replicate 8 0

/-! ### The message -/

/-- The loop over `peer.allowedIps`. -/
def putAllowedIp (b : NetlinkBuffer) (aip : WireGuardAllowedIp) : NetlinkBuffer :=
  match aip.address with
  | .ipv4 address =>
      let (b, aipNest) := b.startNested order 0
      let b := b.putAttrU16 order WGALLOWEDIP_A_FAMILY AF_INET
      let b := b.putAttr order WGALLOWEDIP_A_IPADDR (be32 address)
      let b := b.putAttrU8 order WGALLOWEDIP_A_CIDR_MASK aip.cidrMask
      b.endNested order aipNest
  | _ => b

/-- What is written of a peer that is not removed. -/
def putSettings (b : NetlinkBuffer) (peer : WireGuardPeerConfig) : NetlinkBuffer :=
  let b := b.putAttrU32 order WGPEER_A_FLAGS WGPEER_F_REPLACE_ALLOWEDIPS
  let b :=
    if 0 < peer.persistentKeepalive then
      b.putAttrU16 order WGPEER_A_PERSISTENT_KEEPALIVE_INTERVAL peer.persistentKeepalive
    else b
  let b :=
    match requestedEndpoint reader peer with
    | some (address, port) =>
        b.putAttr order WGPEER_A_ENDPOINT (sockaddr_in order address port)
    | none => b
  if peer.allowedIps = [] then b
  else
    let (b, allowedNest) := b.startNested order WGPEER_A_ALLOWEDIPS
    let b := peer.allowedIps.foldl (putAllowedIp order) b
    b.endNested order allowedNest

/-- The loop over `peers`. -/
def putPeer (b : NetlinkBuffer) (peer : WireGuardPeerConfig) : NetlinkBuffer :=
  if peer.publicKey.length ≠ 32 then b
  else
    let (b, peerNest) := b.startNested order 0
    let b := b.putAttrRaw order WGPEER_A_PUBLIC_KEY peer.publicKey
    let b :=
      if peer.remove then b.putAttrU32 order WGPEER_A_FLAGS WGPEER_F_REMOVE_ME
      else putSettings order reader b peer
    b.endNested order peerNest

/-- The attributes of the message, appended to a buffer. -/
def putDevice (b : NetlinkBuffer) (ifName : String) (privateKey : Bytes) (listenPort : UInt16)
    (peers : List WireGuardPeerConfig) : NetlinkBuffer :=
  let b := b.putAttrStr order WGDEVICE_A_IFNAME ifName
  let b :=
    if privateKey.length = 32 then b.putAttrRaw order WGDEVICE_A_PRIVATE_KEY privateKey else b
  let b :=
    if 0 < listenPort then b.putAttrU16 order WGDEVICE_A_LISTEN_PORT listenPort else b
  if peers = [] then b
  else
    let (b, peersNest) := b.startNested order WGDEVICE_A_PEERS
    let b := peers.foldl (putPeer order reader) b
    b.endNested order peersNest

/-- The message that `setWireGuardDevice` builds. Its own length is put in when it is
sent. -/
def deviceMessage (familyId : UInt16) (ifName : String) (privateKey : Bytes)
    (listenPort : UInt16) (peers : List WireGuardPeerConfig) : NetlinkBuffer :=
  let b : NetlinkBuffer := {}
  let b := b.appendRaw (nlmsghdr order 0 familyId (NLM_F_REQUEST ||| NLM_F_ACK) 6)
  let b := b.appendRaw (genlmsghdr WG_CMD_SET_DEVICE WG_GENL_VERSION)
  putDevice order reader b ifName privateKey listenPort peers

/-! ### Its attributes -/

/-- An attribute that is there under a condition. -/
def leafIf (cond : Prop) [Decidable cond] (type : UInt16) (data : Bytes) : Attributes :=
  if cond then .leaf type data .nil else .nil

/-- The attributes of an allowed address. -/
def allowedIpAttributes (aip : WireGuardAllowedIp) : Attributes :=
  match aip.address with
  | .ipv4 address =>
      .nest (NLA_F_NESTED ||| 0)
        (.leaf WGALLOWEDIP_A_FAMILY (order.u16 AF_INET)
          (.leaf WGALLOWEDIP_A_IPADDR (be32 address)
            (.leaf WGALLOWEDIP_A_CIDR_MASK [aip.cidrMask] .nil)))
        .nil
  | _ => .nil

/-- The endpoint of a peer. -/
def endpointAttributes (peer : WireGuardPeerConfig) : Attributes :=
  match requestedEndpoint reader peer with
  | some (address, port) => .leaf WGPEER_A_ENDPOINT (sockaddr_in order address port) .nil
  | none => .nil

/-- The list of the allowed addresses. -/
def allowedIpsAttributes (peer : WireGuardPeerConfig) : Attributes :=
  if peer.allowedIps = [] then .nil
  else
    .nest (NLA_F_NESTED ||| WGPEER_A_ALLOWEDIPS)
      (attributesOf (allowedIpAttributes order) peer.allowedIps) .nil

/-- The attributes of a peer that is not removed. -/
def settingsAttributes (peer : WireGuardPeerConfig) : Attributes :=
  .leaf WGPEER_A_FLAGS (order.u32 WGPEER_F_REPLACE_ALLOWEDIPS)
    (((leafIf (0 < peer.persistentKeepalive) WGPEER_A_PERSISTENT_KEEPALIVE_INTERVAL
      (order.u16 peer.persistentKeepalive)).append
        (endpointAttributes order reader peer)).append (allowedIpsAttributes order peer))

/-- The attributes of a peer. -/
def peerAttributes (peer : WireGuardPeerConfig) : Attributes :=
  if peer.publicKey.length ≠ 32 then .nil
  else
    .nest (NLA_F_NESTED ||| 0)
      (.leaf WGPEER_A_PUBLIC_KEY peer.publicKey
        (if peer.remove then .leaf WGPEER_A_FLAGS (order.u32 WGPEER_F_REMOVE_ME) .nil
        else settingsAttributes order reader peer))
      .nil

/-- The list of the peers. -/
def peersAttributes (peers : List WireGuardPeerConfig) : Attributes :=
  if peers = [] then .nil
  else
    .nest (NLA_F_NESTED ||| WGDEVICE_A_PEERS) (attributesOf (peerAttributes order reader) peers)
      .nil

/-- The attributes of the message. -/
def deviceAttributes (ifName : String) (privateKey : Bytes) (listenPort : UInt16)
    (peers : List WireGuardPeerConfig) : Attributes :=
  .leaf WGDEVICE_A_IFNAME (QString.toUtf8 ifName ++ [0])
    (((leafIf (privateKey.length = 32) WGDEVICE_A_PRIVATE_KEY privateKey).append
      (leafIf (0 < listenPort) WGDEVICE_A_LISTEN_PORT (order.u16 listenPort))).append
        (peersAttributes order reader peers))

/-! ### What is written -/

variable {order}

lemma writes_leafIf (cond : Prop) [Decidable cond] (type : UInt16) (data : Bytes) :
    Writes order (fun b => if cond then b.putAttr order type data else b)
      (leafIf cond type data) := by
  by_cases h : cond
  · simp only [leafIf, if_pos h]
    exact writes_putAttr order type data
  · simp only [leafIf, if_neg h]
    exact writes_nothing order

lemma writes_putAllowedIp (aip : WireGuardAllowedIp) :
    Writes order (fun b => putAllowedIp order b aip) (allowedIpAttributes order aip) := by
  simp only [putAllowedIp, allowedIpAttributes]
  cases aip.address with
  | ipv4 address =>
      have hinner := ((writes_putAttrU16 order WGALLOWEDIP_A_FAMILY AF_INET).comp
        (writes_putAttr order WGALLOWEDIP_A_IPADDR (be32 address))).comp
        (writes_putAttrU8 order WGALLOWEDIP_A_CIDR_MASK aip.cidrMask)
      simp only [Attributes.append] at hinner
      have hnest := writes_nested 0 hinner
      exact hnest
  | _ => exact writes_nothing order

lemma writes_endpoint (peer : WireGuardPeerConfig) :
    Writes order (fun b => match requestedEndpoint reader peer with
      | some (address, port) =>
          b.putAttr order WGPEER_A_ENDPOINT (sockaddr_in order address port)
      | none => b) (endpointAttributes order reader peer) := by
  rw [endpointAttributes]
  cases requestedEndpoint reader peer with
  | some endpoint => exact writes_putAttr order _ _
  | none => exact writes_nothing order

lemma writes_allowedIps (peer : WireGuardPeerConfig) :
    Writes order (fun b => if peer.allowedIps = [] then b else
      endNested order (peer.allowedIps.foldl (putAllowedIp order)
        (b.startNested order WGPEER_A_ALLOWEDIPS).1) (b.startNested order WGPEER_A_ALLOWEDIPS).2)
      (allowedIpsAttributes order peer) := by
  by_cases h : peer.allowedIps = []
  · simp only [allowedIpsAttributes, if_pos h]
    exact writes_nothing order
  · simp only [allowedIpsAttributes, if_neg h]
    exact writes_nested _ (writes_foldl writes_putAllowedIp _)

lemma writes_putSettings (peer : WireGuardPeerConfig) :
    Writes order (fun b => putSettings order reader b peer)
      (settingsAttributes order reader peer) :=
  (writes_putAttr order WGPEER_A_FLAGS _).comp
    (((writes_leafIf _ _ _).comp (writes_endpoint reader peer)).comp (writes_allowedIps peer))

lemma writes_putPeer (peer : WireGuardPeerConfig) :
    Writes order (fun b => putPeer order reader b peer) (peerAttributes order reader peer) := by
  by_cases hkey : peer.publicKey.length ≠ 32
  · simp only [putPeer, peerAttributes, if_pos hkey]
    exact writes_nothing order
  · simp only [putPeer, peerAttributes, if_neg hkey]
    have hkeyWritten := writes_putAttrRaw order WGPEER_A_PUBLIC_KEY peer.publicKey
    cases peer.remove with
    | true =>
        have hinner := hkeyWritten.comp (writes_putAttrU32 order WGPEER_A_FLAGS WGPEER_F_REMOVE_ME)
        simp only [Attributes.append] at hinner
        have hnest := writes_nested 0 hinner
        exact hnest
    | false =>
        have hinner := hkeyWritten.comp (writes_putSettings reader peer)
        simp only [Attributes.append] at hinner
        have hnest := writes_nested 0 hinner
        exact hnest

lemma writes_peers (peers : List WireGuardPeerConfig) :
    Writes order (fun b => if peers = [] then b else
      endNested order (peers.foldl (putPeer order reader)
        (b.startNested order WGDEVICE_A_PEERS).1) (b.startNested order WGDEVICE_A_PEERS).2)
      (peersAttributes order reader peers) := by
  by_cases h : peers = []
  · simp only [peersAttributes, if_pos h]
    exact writes_nothing order
  · simp only [peersAttributes, if_neg h]
    exact writes_nested _ (writes_foldl (writes_putPeer reader) _)

lemma writes_putDevice (ifName : String) (privateKey : Bytes) (listenPort : UInt16)
    (peers : List WireGuardPeerConfig) :
    Writes order (fun b => putDevice order reader b ifName privateKey listenPort peers)
      (deviceAttributes order reader ifName privateKey listenPort peers) :=
  (writes_putAttr order WGDEVICE_A_IFNAME _).comp
    (((writes_leafIf _ _ _).comp (writes_leafIf _ _ _)).comp (writes_peers reader peers))

/-- The two headers of the message. -/
def deviceHeaders (order : ByteOrder) (familyId : UInt16) : Bytes :=
  nlmsghdr order 0 familyId (NLM_F_REQUEST ||| NLM_F_ACK) 6 ++
    genlmsghdr WG_CMD_SET_DEVICE WG_GENL_VERSION

variable (order) in
lemma length_deviceHeaders (familyId : UInt16) : (deviceHeaders order familyId).length = 20 := by
  simp only [deviceHeaders, nlmsghdr, genlmsghdr, List.length_append, ByteOrder.length_u16,
    ByteOrder.length_u32, List.length_cons, List.length_nil]

/-- **The message** is its headers and its attributes. -/
theorem m_buf_deviceMessage (familyId : UInt16) (ifName : String) (privateKey : Bytes)
    (listenPort : UInt16) (peers : List WireGuardPeerConfig) :
    (deviceMessage order reader familyId ifName privateKey listenPort peers).m_buf =
      deviceHeaders order familyId ++
        (deviceAttributes order reader ifName privateKey listenPort peers).encode order :=
  writes_putDevice reader ifName privateKey listenPort peers ⟨deviceHeaders order familyId⟩

/-! ### How long it is -/

/-- The bytes of the settings of a peer that is not removed, without the flags. -/
def settingsSize (peer : WireGuardPeerConfig) : ℕ :=
  (if 0 < peer.persistentKeepalive then 8 else 0) +
    (if (requestedEndpoint reader peer).isSome then 20 else 0) +
      if peer.allowedIps = [] then 0 else 4 + 28 * (requestedIps peer).length

/-- The bytes of a peer; one whose key does not have 32 bytes is left out. -/
def peerSize (peer : WireGuardPeerConfig) : ℕ :=
  if peer.publicKey.length ≠ 32 then 0
  else 48 + if peer.remove then 0 else settingsSize reader peer

lemma size_leafIf (cond : Prop) [Decidable cond] (type : UInt16) (data : Bytes) :
    (leafIf cond type data).size =
      if cond then NLA_ALIGN (NLA_HDRLEN + data.length) else 0 := by
  rw [leafIf]
  split_ifs <;> rfl

lemma size_allowedIpAttributes (aip : WireGuardAllowedIp) :
    (allowedIpAttributes order aip).size =
      match aip.address with
      | .ipv4 _ => 28
      | _ => 0 := by
  rw [allowedIpAttributes]
  cases aip.address with
  | ipv4 address =>
      simp only [Attributes.size, ByteOrder.length_u16, length_be32, List.length_singleton]
      rfl
  | _ => rfl

variable (order) in
/-- The allowed addresses that are not IPv4 are left out. -/
lemma size_allowedIps (aips : List WireGuardAllowedIp) :
    (attributesOf (allowedIpAttributes order) aips).size =
      28 * (aips.filterMap fun aip =>
        match aip.address with
        | .ipv4 address => some (address, aip.cidrMask)
        | _ => none).length := by
  induction aips with
  | nil => rfl
  | cons aip aips ih =>
      rw [attributesOf, Attributes.size_append, ih, size_allowedIpAttributes,
        List.filterMap_cons]
      cases aip.address with
      | ipv4 address =>
          dsimp only
          rw [List.length_cons]
          omega
      | _ => exact Nat.zero_add _

lemma size_endpointAttributes (peer : WireGuardPeerConfig) :
    (endpointAttributes order reader peer).size =
      if (requestedEndpoint reader peer).isSome then 20 else 0 := by
  rw [endpointAttributes]
  cases requestedEndpoint reader peer with
  | some endpoint =>
      simp only [Attributes.size, sockaddr_in, List.length_append, ByteOrder.length_u16,
        length_be16, length_be32, List.length_replicate]
      rfl
  | none => rfl

lemma size_allowedIpsAttributes (peer : WireGuardPeerConfig) :
    (allowedIpsAttributes order peer).size =
      if peer.allowedIps = [] then 0 else 4 + 28 * (requestedIps peer).length := by
  rw [allowedIpsAttributes]
  split_ifs
  · rfl
  · have hsize := size_allowedIps order peer.allowedIps
    rw [Attributes.size, Attributes.size, hsize, NLA_HDRLEN, requestedIps,
      NLA_ALIGN_of_dvd (by omega)]
    rfl

lemma size_settingsAttributes (peer : WireGuardPeerConfig) :
    (settingsAttributes order reader peer).size = 8 + settingsSize reader peer := by
  rw [settingsAttributes, Attributes.size, Attributes.size_append, Attributes.size_append,
    size_leafIf, size_endpointAttributes, size_allowedIpsAttributes, ByteOrder.length_u16,
    ByteOrder.length_u32, settingsSize]
  rfl

/-- **The bytes of a peer.** -/
lemma size_peerAttributes (peer : WireGuardPeerConfig) :
    (peerAttributes order reader peer).size = peerSize reader peer := by
  rw [peerAttributes, peerSize]
  split_ifs with hkey hremove
  · rfl
  · rw [not_not] at hkey
    simp only [Attributes.size, ByteOrder.length_u32, hkey]
    rfl
  · rw [not_not] at hkey
    have hinner : 4 ∣ NLA_HDRLEN + (NLA_ALIGN (NLA_HDRLEN + 32) +
        (8 + settingsSize reader peer)) := by
      have hdvd := (settingsAttributes order reader peer).dvd_size
      rw [size_settingsAttributes] at hdvd
      exact Nat.dvd_add (by decide) (Nat.dvd_add (dvd_NLA_ALIGN _) hdvd)
    rw [Attributes.size, Attributes.size, Attributes.size, size_settingsAttributes, hkey,
      NLA_ALIGN_of_dvd hinner]
    have hkeySize : NLA_ALIGN (NLA_HDRLEN + 32) = 36 := rfl
    rw [hkeySize, NLA_HDRLEN]
    omega

/-! ### The length fields -/

/-- The attributes of the message fit exactly if the name and the peers are short enough. -/
lemma fits_deviceAttributes (ifName : String) (privateKey : Bytes) (listenPort : UInt16)
    (peers : List WireGuardPeerConfig) :
    (deviceAttributes order reader ifName privateKey listenPort peers).Fits ↔
      (QString.toUtf8 ifName).length ≤ 65530 ∧
        (peers.map (peerSize reader)).sum ≤ 65531 := by
  have hleaf : ∀ (cond : Prop) [Decidable cond] (type : UInt16) (data : Bytes),
      (cond → data.length ≤ 32) → (leafIf cond type data).Fits := by
    intro cond _ type data hdata
    rw [leafIf]
    split_ifs with hcond
    · exact ⟨by rw [NLA_HDRLEN]; have := hdata hcond; omega, trivial⟩
    · trivial
  have hkey := hleaf (privateKey.length = 32) WGDEVICE_A_PRIVATE_KEY privateKey fun h => h.le
  have hport := hleaf (0 < listenPort) WGDEVICE_A_LISTEN_PORT (order.u16 listenPort)
    fun _ => by rw [ByteOrder.length_u16]; omega
  have hpeers : (peersAttributes order reader peers).Fits ↔
      (peers.map (peerSize reader)).sum ≤ 65531 := by
    rw [peersAttributes]
    split_ifs with hempty
    · rw [hempty]
      exact iff_of_true trivial (Nat.zero_le _)
    · have hmap : (peers.map fun peer => (peerAttributes order reader peer).size) =
          peers.map (peerSize reader) :=
        List.map_congr_left fun peer _ => size_peerAttributes reader peer
      rw [Attributes.fits_nest, size_attributesOf, hmap, NLA_HDRLEN]
      exact ⟨fun h => by omega, fun h => ⟨by omega, trivial⟩⟩
  rw [deviceAttributes, Attributes.Fits, Attributes.fits_append, Attributes.fits_append, hpeers,
    List.length_append, List.length_singleton, NLA_HDRLEN]
  constructor
  · rintro ⟨hname, -, hsum⟩
    exact ⟨by omega, hsum⟩
  · rintro ⟨hname, hsum⟩
    exact ⟨by omega, ⟨hkey, hport⟩, hsum⟩

/-! ### The flags -/

lemma flagged_leafIf (cond : Prop) [Decidable cond] {type : UInt16} (data : Bytes)
    (htype : Attributes.isNested type = false) : (leafIf cond type data).Flagged := by
  rw [leafIf]
  split_ifs
  · exact ⟨htype, trivial⟩
  · trivial

lemma flagged_allowedIpsAttributes (peer : WireGuardPeerConfig) :
    (allowedIpsAttributes order peer).Flagged := by
  rw [allowedIpsAttributes]
  split_ifs
  · trivial
  · refine ⟨Attributes.isNested_or _, flagged_attributesOf (fun aip => ?_) _, trivial⟩
    rw [allowedIpAttributes]
    cases aip.address with
    | ipv4 address =>
        exact ⟨Attributes.isNested_or _, ⟨by decide, by decide, by decide, trivial⟩, trivial⟩
    | _ => trivial

lemma flagged_peerAttributes (peer : WireGuardPeerConfig) :
    (peerAttributes order reader peer).Flagged := by
  have hendpoint : (endpointAttributes order reader peer).Flagged := by
    rw [endpointAttributes]
    cases requestedEndpoint reader peer with
    | some endpoint => exact ⟨by decide, trivial⟩
    | none => trivial
  rw [peerAttributes]
  split_ifs
  · trivial
  · exact ⟨Attributes.isNested_or _, ⟨by decide, by decide, trivial⟩, trivial⟩
  · refine ⟨Attributes.isNested_or _, ⟨by decide, by decide, ?_⟩, trivial⟩
    rw [Attributes.flagged_append, Attributes.flagged_append]
    exact ⟨⟨flagged_leafIf _ _ (by decide), hendpoint⟩, flagged_allowedIpsAttributes peer⟩

lemma flagged_deviceAttributes (ifName : String) (privateKey : Bytes) (listenPort : UInt16)
    (peers : List WireGuardPeerConfig) :
    (deviceAttributes order reader ifName privateKey listenPort peers).Flagged := by
  have hpeers : (peersAttributes order reader peers).Flagged := by
    rw [peersAttributes]
    split_ifs
    · trivial
    · exact ⟨Attributes.isNested_or _, flagged_attributesOf (flagged_peerAttributes reader) _,
        trivial⟩
  refine ⟨by decide, ?_⟩
  rw [Attributes.flagged_append, Attributes.flagged_append]
  exact ⟨⟨flagged_leafIf _ _ (by decide), flagged_leafIf _ _ (by decide)⟩, hpeers⟩

/-- **The peers of a message.** In the message to a device, the length fields of all
attributes are right exactly if the peers have at most 65531 bytes together, and the name
at most 65530; and then the walk over the message finds all that was written, every peer
among it. -/
theorem peer_lengths_true (order : ByteOrder) (familyId : UInt16) (ifName : String)
    (privateKey : Bytes) (listenPort : UInt16) (peers : List WireGuardPeerConfig) :
    let message := (deviceMessage order reader familyId ifName privateKey listenPort peers).m_buf
    let attributes := deviceAttributes order reader ifName privateKey listenPort peers
    let short := (QString.toUtf8 ifName).length ≤ 65530 ∧
      (peers.map (peerSize reader)).sum ≤ 65531
    ((∀ p ∈ attributes.places 20, lengthAt order message p.1 = p.2) ↔ short) ∧
      (short → Attributes.parse order (message.drop 20) = some attributes) := by
  intro message attributes short
  have hmessage : message = deviceHeaders order familyId ++ (attributes.encode order ++ []) := by
    rw [List.append_nil]
    exact m_buf_deviceMessage reader familyId ifName privateKey listenPort peers
  have hlength := length_deviceHeaders order familyId
  have hfits : attributes.Fits ↔ short :=
    fits_deviceAttributes reader ifName privateKey listenPort peers
  constructor
  · rw [← hfits, hmessage, ← hlength]
    exact Attributes.lengths_true_iff order attributes (deviceHeaders order familyId) []
  · intro hshort
    have hbytes : message.drop 20 = attributes.encode order := by
      rw [hmessage, List.append_nil, List.drop_left' hlength]
    rw [hbytes]
    exact (Attributes.reads_encode order (hfits.mpr hshort)).parse_eq
      (flagged_deviceAttributes reader ifName privateKey listenPort peers)

/-! ### Too many peers -/

/-- A reader that knows no texts. -/
def silentReader : AddressReader := ⟨fun _ => .null, fun _ => none, fun _ => false⟩

/-- A peer without an endpoint, with one address. -/
def plainPeer (i : ℕ) : WireGuardPeerConfig where
  publicKey := List.replicate 30 0 ++ be16 (UInt16.ofNat i)
  allowedIps := [⟨.ipv4 (0x0A4D0000 + UInt32.ofNat i), 32⟩]

/-- The peers of 745 users. -/
def manyPeers : List WireGuardPeerConfig := (List.range 745).map plainPeer

lemma peerSize_plainPeer (i : ℕ) : peerSize silentReader (plainPeer i) = 88 := by
  have hkey : (plainPeer i).publicKey.length = 32 := by
    rw [plainPeer, List.length_append, List.length_replicate, length_be16]
  rw [peerSize, if_neg (not_not.mpr hkey)]
  rfl

lemma size_manyPeers :
    (attributesOf (peerAttributes .littleEndian silentReader) manyPeers).size = 65560 := by
  have hmap : (manyPeers.map fun peer =>
      (peerAttributes .littleEndian silentReader peer).size) =
        (List.range 745).map fun _ => 88 := by
    rw [manyPeers, List.map_map]
    refine List.map_congr_left fun i _ => ?_
    exact (size_peerAttributes silentReader (plainPeer i)).trans (peerSize_plainPeer i)
  rw [size_attributesOf, hmap, List.map_const', List.length_range, List.sum_replicate]
  rfl

/-- The name, and the list of the peers. -/
lemma deviceAttributes_manyPeers :
    deviceAttributes .littleEndian silentReader "mc0" [] 0 manyPeers =
      .leaf WGDEVICE_A_IFNAME (QString.toUtf8 "mc0" ++ [0])
        (.nest (NLA_F_NESTED ||| WGDEVICE_A_PEERS)
          (attributesOf (peerAttributes .littleEndian silentReader) manyPeers) .nil) := by
  have hne : manyPeers ≠ [] := by
    intro h
    have hlength := congrArg List.length h
    rw [manyPeers, List.length_map, List.length_range] at hlength
    cases hlength
  rw [deviceAttributes, leafIf, if_neg (by decide), leafIf, if_neg (by decide),
    peersAttributes, if_neg hne]
  rfl

/-- The list of 745 peers has 65564 bytes, and its length field says 28. -/
theorem peer_length_truncated :
    (28, 65564) ∈ (deviceAttributes .littleEndian silentReader "mc0" [] 0 manyPeers).places 20 ∧
      lengthAt .littleEndian
        (deviceMessage .littleEndian silentReader 30 "mc0" [] 0 manyPeers).m_buf 28 = 28 := by
  have hplace : (28, 65564) ∈
      (deviceAttributes .littleEndian silentReader "mc0" [] 0 manyPeers).places
        (deviceHeaders .littleEndian 30).length := by
    rw [deviceAttributes_manyPeers, length_deviceHeaders, Attributes.places, Attributes.places,
      size_manyPeers]
    exact List.mem_cons_of_mem _ List.mem_cons_self
  have hfield := Attributes.lengthAt_places .littleEndian _ (deviceHeaders .littleEndian 30) []
    hplace
  rw [List.append_nil, ← m_buf_deviceMessage] at hfield
  rw [length_deviceHeaders] at hplace
  exact ⟨hplace, hfield⟩

end MeckChat.Network
