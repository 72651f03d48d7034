import MeckChat.Foundation.Run
import MeckChat.Network.NetlinkWireGuard
import MeckChat.Qt.QMap

/-!
The tunnel service (`wireguard_service.cpp`).

* `WireGuardService` is the state of the class, and `TunnelIo` the outcome of the
  calls on the kernel during one call of the service.
* In the namespace `TunnelTurn`: the calls under the names of the source, on a
  service, the kernel and what was done so far.
* `WireGuardService.machine` runs the calls, on a service with its kernel.
-/

namespace MeckChat.Network

open QByteArray

/-- `TunnelStatus`. -/
inductive TunnelStatus where
  | Down
  | Configuring
  | Up
  | Error
  deriving DecidableEq, Repr

/-- `WireGuardService`. -/
structure WireGuardService where
  m_status : TunnelStatus := .Down
  m_interfaceName : String := "wg-meckchat"
  m_virtualIp : String := "10.77.0.2"
  m_listenPort : UInt16 := 51820
  m_lastError : String := ""
  m_peers : QMap String WireGuardPeerConfig := ∅
  m_interfaceCreatedByUs : Bool := false

/-- What a call does that can be seen from outside: its signals, and the interfaces it
creates and deletes in the kernel. -/
inductive TunnelDeed where
  | statusChanged (status : TunnelStatus)
  | errorOccurred (error : String)
  | peerAdded (peerPublicKey : String)
  | peerRemoved (peerPublicKey : String)
  | created (ifName : String)
  | deleted (ifName : String)
  deriving DecidableEq, Repr

/-- The outcome of the calls on the kernel during one call of the service. -/
structure TunnelIo where
  /-- `isWireGuardSupported()`. -/
  supported : Bool := true
  /-- Whether the lookup of `interfaceExists` in the service answers. -/
  existing : Bool := true
  create : KernelAnswer := {}
  device : KernelAnswer := {}
  address : KernelAnswer := {}
  link : KernelAnswer := {}
  delete : KernelAnswer := {}
  deriving DecidableEq, Repr

/-- A service and its kernel while a call works on them. -/
structure TunnelTurn where
  service : WireGuardService
  kernel : Kernel
  deeds : List TunnelDeed := []

namespace TunnelTurn

/-- Append to the log. -/
def log (t : TunnelTurn) (d : TunnelDeed) : TunnelTurn := { t with deeds := t.deeds ++ [d] }

/-- `WireGuardService::setStatus`. -/
def setStatus (status : TunnelStatus) (t : TunnelTurn) : TunnelTurn :=
  if t.service.m_status ≠ status then
    log { t with service.m_status := status } (.statusChanged status)
  else t

/-- `WireGuardService::setError`. -/
def setError (error : String) (t : TunnelTurn) : TunnelTurn :=
  { t with service.m_lastError := error }
    |>.setStatus .Error
    |>.log (.errorOccurred error)

/-- The kernel behind a call that succeeded. -/
def setKernel (kernel : Kernel) (t : TunnelTurn) : TunnelTurn := { t with kernel }

/-- `m_peers = peers`. -/
def setPeers (peers : QMap String WireGuardPeerConfig) (t : TunnelTurn) : TunnelTurn :=
  { t with service.m_peers := peers }

/-- `m_interfaceCreatedByUs = own`. -/
def setOwn (own : Bool) (t : TunnelTurn) : TunnelTurn :=
  { t with service.m_interfaceCreatedByUs := own }

/-- The kernel behind a successful `createInterface`. -/
def afterCreate (kernel : Kernel) (t : TunnelTurn) : TunnelTurn :=
  let name := kernelName t.service.m_interfaceName
  let t' := t.setKernel kernel
  if (t.kernel name).isNone ∧ (kernel name).isSome then t'.log (.created name) else t'

/-- The kernel behind a successful `deleteInterface`. -/
def afterDelete (kernel : Kernel) (t : TunnelTurn) : TunnelTurn :=
  let name := kernelName t.service.m_interfaceName
  let t' := t.setKernel kernel
  if (t.kernel name).isSome ∧ (kernel name).isNone then t'.log (.deleted name) else t'

variable (reader : AddressReader) (io : TunnelIo)

/-! ### The tunnel -/

/-- `WireGuardService::startTunnel` from the assignment of the address on. -/
def bringUp (t : TunnelTurn) : TunnelTurn × Bool :=
  let name := t.service.m_interfaceName
  match setInterfaceAddress reader t.kernel io.address name t.service.m_virtualIp with
  | .error errStr =>
      (t.setError ("Failed to assign virtual IP " ++ t.service.m_virtualIp ++ "/16 to " ++ name ++
        ": " ++ errStr), false)
  | .ok kernel =>
      let t := t.setKernel kernel
      match setInterfaceUp t.kernel io.link name true with
      | .error errStr =>
          (t.setError ("Failed to bring up interface " ++ name ++ ": " ++ errStr), false)
      | .ok kernel => ((t.setKernel kernel).setStatus .Up, true)

/-- `WireGuardService::startTunnel` from the creation of the interface on. -/
def establish (privateKeyBase64 : String) (t : TunnelTurn) : TunnelTurn × Bool :=
  let name := t.service.m_interfaceName
  let existed := interfaceExists t.kernel name io.existing
  match createInterface t.kernel io.create name with
  | .error errStr =>
      (t.setError ("Failed to create WireGuard interface '" ++ name ++ "': " ++ errStr), false)
  | .ok kernel =>
      let t := (t.afterCreate kernel).setOwn !existed
      if privateKeyBase64 ≠ "" then
        match setWireGuardDevice reader t.kernel io.device name
          (t.service.m_peers.toList.map Prod.snd) with
        | .error errStr =>
            (t.setError ("Failed to configure WireGuard device: " ++ errStr), false)
        | .ok kernel => (t.setKernel kernel).bringUp reader io
      else t.bringUp reader io

/-- The names and the port that `startTunnel` sets, with their defaults. -/
def rename (interfaceName virtualIp : String) (listenPort : UInt16) (t : TunnelTurn) : TunnelTurn :=
  { t with
    service.m_interfaceName := if interfaceName = "" then "wg-meckchat" else interfaceName
    service.m_virtualIp := if virtualIp = "" then "10.77.0.2" else virtualIp
    service.m_listenPort := if listenPort = 0 then 51820 else listenPort }

/-- `WireGuardService::startTunnel`. -/
def startTunnel (interfaceName virtualIp privateKeyBase64 : String) (listenPort : UInt16)
    (t : TunnelTurn) : TunnelTurn × Bool :=
  let t := (t.rename interfaceName virtualIp listenPort).setStatus .Configuring
  if !isSubnetValid reader t.service.m_virtualIp then
    (t.setError ("Invalid virtual IP: " ++ t.service.m_virtualIp ++
      ". Must be a valid address within 10.77.0.0/16."), false)
  else if privateKeyBase64 ≠ "" ∧ !isValidBase64Key privateKeyBase64 then
    (t.setError "Invalid WireGuard private key. Must be a 32-byte Base64 string.", false)
  else if !io.supported then
    (t.setError
      "WireGuard kernel module/subsystem is not available in the running Linux kernel.", false)
  else t.establish reader io privateKeyBase64

/-- The interface is brought down, as far as that succeeds. -/
def bringDown (t : TunnelTurn) : TunnelTurn :=
  match setInterfaceUp t.kernel io.link t.service.m_interfaceName false with
  | .ok kernel => t.setKernel kernel
  | .error _ => t

/-- `WireGuardService::stopTunnel`. -/
def stopTunnel (t : TunnelTurn) : TunnelTurn :=
  if t.service.m_status = .Down then t
  else
    let t :=
      if interfaceExists t.kernel t.service.m_interfaceName io.existing then
        let t := t.bringDown io
        if t.service.m_interfaceCreatedByUs then
          let t :=
            match deleteInterface t.kernel io.delete t.service.m_interfaceName with
            | .ok kernel => t.afterDelete kernel
            | .error _ => t
          t.setOwn false
        else t
      else t
    (t.setPeers ∅).setStatus .Down

/-! ### Peers -/

/-- The configuration that `addPeer` makes. -/
def peerConfig (peerPublicKeyBase64 peerVirtualIp endpoint : String)
    (persistentKeepalive : UInt16) : WireGuardPeerConfig where
  publicKey := fromBase64 (QString.toUtf8 peerPublicKeyBase64)
  endpoint
  persistentKeepalive
  allowedIps := [{ address := reader.hostAddress peerVirtualIp, cidrMask := 32 }]
  remove := false

/-- `WireGuardService::addPeer`. -/
def addPeer (peerPublicKeyBase64 peerVirtualIp endpoint : String) (persistentKeepalive : UInt16)
    (t : TunnelTurn) : TunnelTurn × Bool :=
  if !isValidBase64Key peerPublicKeyBase64 then
    (t.setError "Invalid peer public key. Must be a 32-byte Base64 string.", false)
  else if !isSubnetValid reader peerVirtualIp then
    (t.setError ("Invalid peer virtual IP: " ++ peerVirtualIp ++ ". Must be in 10.77.0.0/16."),
      false)
  else
    let peer := peerConfig reader peerPublicKeyBase64 peerVirtualIp endpoint persistentKeepalive
    let added := fun t : TunnelTurn =>
      ((t.setPeers (t.service.m_peers.insert peerPublicKeyBase64 peer)).log
        (.peerAdded peerPublicKeyBase64), true)
    if t.service.m_status = .Up then
      match setWireGuardDevice reader t.kernel io.device t.service.m_interfaceName [peer] with
      | .error errStr =>
          (t.setError ("Failed to configure peer " ++ peerPublicKeyBase64 ++ " in kernel: " ++
            errStr), false)
      | .ok kernel => added (t.setKernel kernel)
    else added t

/-- `WireGuardService::removePeer`, which always returns true. -/
def removePeer (peerPublicKeyBase64 : String) (t : TunnelTurn) : TunnelTurn :=
  if (t.service.m_peers.value? peerPublicKeyBase64).isNone then t
  else
    let peer : WireGuardPeerConfig :=
      { publicKey := fromBase64 (QString.toUtf8 peerPublicKeyBase64), remove := true }
    let t :=
      if t.service.m_status = .Up then
        match setWireGuardDevice reader t.kernel io.device t.service.m_interfaceName [peer] with
        | .ok kernel => t.setKernel kernel
        | .error _ => t
      else t
    (t.setPeers (t.service.m_peers.erase peerPublicKeyBase64)).log
      (.peerRemoved peerPublicKeyBase64)

end TunnelTurn

/-! ### The machine -/

/-- The calls of the service. -/
inductive TunnelEvent where
  | startTunnel (interfaceName virtualIp privateKeyBase64 : String) (listenPort : UInt16)
  | stopTunnel
  | addPeer (peerPublicKeyBase64 peerVirtualIp endpoint : String) (persistentKeepalive : UInt16)
  | removePeer (peerPublicKeyBase64 : String)
  deriving DecidableEq, Repr

/-- A service with its kernel. -/
structure Tunnel where
  service : WireGuardService := {}
  kernel : Kernel

/-- The turn of a call. -/
def Tunnel.react (reader : AddressReader) (s : Tunnel) (io : TunnelIo) : TunnelEvent → TunnelTurn
  | .startTunnel interfaceName virtualIp privateKeyBase64 listenPort =>
      (TunnelTurn.startTunnel reader io interfaceName virtualIp privateKeyBase64 listenPort
        ⟨s.service, s.kernel, []⟩).1
  | .stopTunnel => TunnelTurn.stopTunnel io ⟨s.service, s.kernel, []⟩
  | .addPeer peerPublicKeyBase64 peerVirtualIp endpoint persistentKeepalive =>
      (TunnelTurn.addPeer reader io peerPublicKeyBase64 peerVirtualIp endpoint persistentKeepalive
        ⟨s.service, s.kernel, []⟩).1
  | .removePeer peerPublicKeyBase64 =>
      TunnelTurn.removePeer reader io peerPublicKeyBase64 ⟨s.service, s.kernel, []⟩

/-- The calls, one after the other. -/
def WireGuardService.machine (reader : AddressReader) :
    Machine Tunnel (TunnelEvent × TunnelIo) TunnelDeed where
  step s e :=
    let t := s.react reader e.2 e.1
    (⟨t.service, t.kernel⟩, t.deeds)

end MeckChat.Network
