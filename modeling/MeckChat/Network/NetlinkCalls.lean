import MeckChat.Foundation.Interaction
import MeckChat.Network.NetlinkMessages

/-!
The functions of `NetlinkWireGuard` with their system calls (`netlink_wireguard.cpp`).

* `SystemCall` are the calls on the system, with what they answer; errors are the values of
  `errno`.
* The functions stand in the namespace `NetlinkWireGuard` under their names. A function that
  reads of a response what was not received faults, as in `Checked`.
* `exchange` is what they all do with a message on an open socket: it is sent, the answer is
  read and the socket is closed. `onSocket` opens the socket in front of it.
* `Descriptors` is the discipline of the descriptors; `sockets_released`: whatever the
  system answers, every socket is closed once, and none is used afterwards.
-/

namespace MeckChat.Network

open Program

/-- The calls on the system. -/
inductive SystemCall where
  | if_nametoindex (ifName : Bytes)
  | socket (protocol : NetlinkProtocol)
  | sendto (fd : ℕ) (message : Bytes)
  | recv (fd size : ℕ)
  | close (fd : ℕ)

/-- What they answer. -/
abbrev SystemCall.Answer : SystemCall → Type
  | .if_nametoindex _ => UInt32
  | .socket _ => Except ℤ ℕ
  | .sendto _ _ => Except ℤ Unit
  | .recv _ _ => Except ℤ Bytes
  | .close _ => Unit

/-- A function that makes system calls. -/
abbrev NetlinkCall := Program SystemCall SystemCall.Answer

/-- The index of an interface, 0 where there is none. -/
def if_nametoindex (ifName : Bytes) : NetlinkCall UInt32 :=
  perform (SystemCall.if_nametoindex ifName)

/-- `socket(AF_NETLINK, ..)`: a descriptor. -/
def socket (protocol : NetlinkProtocol) : NetlinkCall (Except ℤ ℕ) :=
  perform (SystemCall.socket protocol)

/-- A message goes to the kernel. -/
def sendto (fd : ℕ) (message : Bytes) : NetlinkCall (Except ℤ Unit) :=
  perform (SystemCall.sendto fd message)

/-- What the kernel answers, `size` bytes at most. -/
def recv (fd size : ℕ) : NetlinkCall (Except ℤ Bytes) := perform (SystemCall.recv fd size)

/-- A descriptor is given back. -/
def close (fd : ℕ) : NetlinkCall Unit := perform (SystemCall.close fd)

/-- Operation not permitted. -/
def EPERM : ℤ := 1
/-- No such entry. -/
def ENOENT : ℤ := 2
/-- Permission denied. -/
def EACCES : ℤ := 13
/-- It exists already. -/
def EEXIST : ℤ := 17
/-- No such device. -/
def ENODEV : ℤ := 19

namespace NetlinkWireGuard

variable (order : ByteOrder) (strerror : ℤ → String)

/-- `sendNetlinkRequest` behind `recv`: the value returned, and the text that is set. -/
def readAck (respBuf : Bytes) : Checked (ℤ × String) := do
  let nlmsg_type ← readU16 order respBuf 4
  if nlmsg_type = NLMSG_ERROR then
    let error ← readU32 order respBuf 16
    let netErr := -error.toInt32.toInt
    if netErr = 0 then
      return (0, "")
    else if netErr = EPERM ∨ netErr = EACCES then
      return (-netErr, "Insufficient privileges: CAP_NET_ADMIN required to manage WireGuard " ++
        "network interfaces.")
    else
      return (-netErr,
        "Netlink error: " ++ strerror netErr ++ " (code " ++ toString netErr ++ ")")
  else
    return (0, "")

/-- `sendNetlinkRequest`. -/
def sendNetlinkRequest (nlSocket : ℕ) (buffer : NetlinkBuffer) :
    NetlinkCall (Checked (ℤ × String)) := do
  match ← sendto nlSocket (sent order buffer) with
  | .error err =>
      return .ok (-err, "Failed to send Netlink message: " ++ strerror err)
  | .ok () =>
      match ← recv nlSocket 4096 with
      | .error err =>
          return .ok (-err, "Failed to receive Netlink response: " ++ strerror err)
      | .ok respBuf => return readAck order strerror respBuf

/-- The part that the functions share: on an open socket the message is sent, its answer is
read and accepted or not, and the socket is closed. -/
def exchange (sock : ℕ) (buffer : NetlinkBuffer) (accepts : ℤ → Bool) :
    NetlinkCall (Checked (Except String Unit)) := do
  match ← sendNetlinkRequest order strerror sock buffer with
  | .error fault => return .error fault
  | .ok (res, errorString) =>
      close sock
      return .ok (if accepts res then .ok () else .error errorString)

/-- A socket for one message. -/
def onSocket (protocol : NetlinkProtocol) (failure : String) (buffer : NetlinkBuffer)
    (accepts : ℤ → Bool) : NetlinkCall (Checked (Except String Unit)) := do
  match ← socket protocol with
  | .error err => return .ok (.error (failure ++ strerror err))
  | .ok sock => exchange order strerror sock buffer accepts

/-- The name that goes to the C library. -/
def constData (ifName : String) : Bytes := cString (QString.toUtf8 ifName ++ [0])

/-- `interfaceExists`. -/
def interfaceExists (ifName : String) : NetlinkCall Bool := do
  let index ← if_nametoindex (constData ifName)
  return 0 < index

/-- `resolveWireGuardFamily`. -/
def resolveWireGuardFamily : NetlinkCall (Checked ℤ) := do
  match ← socket .NETLINK_GENERIC with
  | .error _ => return .ok (-1)
  | .ok sock =>
      match ← sendto sock (sent order (familyMessage order)) with
      | .error _ =>
          close sock
          return .ok (-1)
      | .ok () =>
          let received ← recv sock 4096
          close sock
          match received with
          | .error _ => return .ok (-1)
          | .ok respBuf =>
              return (Network.resolveWireGuardFamily order respBuf).map fun family =>
                (family.map fun familyId => (familyId.toNat : ℤ)).getD (-1)

/-- `isWireGuardSupported`. -/
def isWireGuardSupported : NetlinkCall (Checked Bool) := do
  let family ← resolveWireGuardFamily order
  return family.map (0 < ·)

/-- `createInterface`. -/
def createInterface (ifName : String) : NetlinkCall (Checked (Except String Unit)) := do
  if ← interfaceExists ifName then
    return .ok (.ok ())
  else
    onSocket order strerror .NETLINK_ROUTE "Failed to open Netlink route socket: "
      (createMessage order ifName) fun res => res = 0 ∨ res = -EEXIST

/-- `deleteInterface`. -/
def deleteInterface (ifName : String) : NetlinkCall (Checked (Except String Unit)) := do
  if ← interfaceExists ifName then
    match ← socket .NETLINK_ROUTE with
    | .error err =>
        return .ok (.error ("Failed to open Netlink route socket: " ++ strerror err))
    | .ok sock =>
        let ifIndex ← if_nametoindex (constData ifName)
        exchange order strerror sock (deleteMessage order ifName ifIndex) fun res =>
          res = 0 ∨ res = -ENODEV ∨ res = -ENOENT
  else
    return .ok (.ok ())

/-- `setInterfaceAddress`; `inet_pton` gives the address in network order. -/
def setInterfaceAddress (inet_pton : String → Option Bytes) (ifName virtualIp : String)
    (prefixLen : UInt8) : NetlinkCall (Checked (Except String Unit)) := do
  let ifIndex ← if_nametoindex (constData ifName)
  if ifIndex = 0 then
    return .ok (.error ("Interface " ++ ifName ++ " does not exist."))
  else
    match inet_pton virtualIp with
    | none => return .ok (.error ("Invalid virtual IP address: " ++ virtualIp))
    | some addr =>
        onSocket order strerror .NETLINK_ROUTE "Failed to open Netlink route socket: "
          (addressMessage order ifIndex prefixLen addr) fun res => res = 0

/-- `setInterfaceUp`. -/
def setInterfaceUp (ifName : String) (up : Bool) :
    NetlinkCall (Checked (Except String Unit)) := do
  let ifIndex ← if_nametoindex (constData ifName)
  if ifIndex = 0 then
    return .ok (.error ("Interface " ++ ifName ++ " does not exist."))
  else
    onSocket order strerror .NETLINK_ROUTE "Failed to open Netlink route socket: "
      (linkMessage order ifIndex up) fun res => res = 0

/-- The text of the functions that need the family. -/
def familyMissing : String := "WireGuard Generic Netlink family not found in Linux kernel."

/-- `setWireGuardDevice`. -/
def setWireGuardDevice (reader : AddressReader) (ifName : String) (privateKey : Bytes)
    (listenPort : UInt16) (peers : List WireGuardPeerConfig) :
    NetlinkCall (Checked (Except String Unit)) := do
  match ← resolveWireGuardFamily order with
  | .error fault => return .error fault
  | .ok familyId =>
      if familyId ≤ 0 then
        return .ok (.error familyMissing)
      else
        onSocket order strerror .NETLINK_GENERIC "Failed to open Netlink generic socket: "
          (deviceMessage order reader (UInt16.ofNat familyId.toNat) ifName privateKey listenPort
            peers) fun res => res = 0

/-- `getWireGuardDevice`. -/
def getWireGuardDevice (ifName : String) :
    NetlinkCall (Checked (Except String WireGuardDeviceStatus)) := do
  match ← resolveWireGuardFamily order with
  | .error fault => return .error fault
  | .ok familyId =>
      if familyId ≤ 0 then
        return .ok (.error familyMissing)
      else
        match ← socket .NETLINK_GENERIC with
        | .error err =>
            return .ok (.error ("Failed to open Netlink generic socket: " ++ strerror err))
        | .ok sock =>
            let message := sent order (deviceQuery order (UInt16.ofNat familyId.toNat) ifName)
            match ← sendto sock message with
            | .error err =>
                close sock
                return .ok (.error
                  ("Failed to send WG_CMD_GET_DEVICE request: " ++ strerror err))
            | .ok () =>
                let received ← recv sock 8192
                close sock
                match received with
                | .error _ => return .ok (.error "Truncated response for WG_CMD_GET_DEVICE.")
                | .ok respBuf =>
                    return Network.getWireGuardDevice order (fun netErr => strerror netErr.toInt)
                      ifName respBuf

end NetlinkWireGuard

/-! ### Descriptors -/

/-- The discipline of the descriptors: what is used or closed is open, and a new descriptor
is one that is not open. The state are the open ones. -/
def Descriptors : Environment SystemCall SystemCall.Answer (Finset ℕ) where
  allowed fds
    | .if_nametoindex _ => True
    | .socket _ => True
    | .sendto fd _ => fd ∈ fds
    | .recv fd _ => fd ∈ fds
    | .close fd => fd ∈ fds
  answers fds
    | .if_nametoindex _, _, fds' => fds' = fds
    | .socket _, .ok fd, fds' => fd ∉ fds ∧ fds' = insert fd fds
    | .socket _, .error _, fds' => fds' = fds
    | .sendto _ _, _, fds' => fds' = fds
    | .recv _ _, _, fds' => fds' = fds
    | .close fd, _, fds' => fds' = fds.erase fd

/-- A function that gives back what it opens, unless it reads what was not received. -/
def Releases {α : Type} (p : NetlinkCall (Checked α)) : Prop :=
  ∀ fds : Finset ℕ, p.Ensures Descriptors fds fun r fds' => (∃ a, r = .ok a) → fds' = fds

section Released

open NetlinkWireGuard

variable (order : ByteOrder) (strerror : ℤ → String)

/-- The rule of a socket: behind a socket that was opened, it is closed once. -/
lemma releases_socket {α : Type} {protocol : NetlinkProtocol}
    {next : Except ℤ ℕ → NetlinkCall (Checked α)} (herror : ∀ err, Releases (next (.error err)))
    (hnext : ∀ fds fd, fd ∈ fds → (next (.ok fd)).Ensures Descriptors fds
      fun r fds' => (∃ a, r = .ok a) → fds' = fds.erase fd) :
    Releases (socket protocol >>= next) := by
  refine fun fds => ensures_perform_bind.mpr ⟨trivial, fun opened fds' h => ?_⟩
  cases opened with
  | error err =>
      obtain rfl : fds' = fds := h
      exact herror err fds'
  | ok fd =>
      obtain ⟨hfd, rfl⟩ : fd ∉ fds ∧ fds' = insert fd fds := h
      refine (hnext _ fd (Finset.mem_insert_self fd fds)).mono fun r fds' hr hok => ?_
      rw [hr hok, Finset.erase_insert hfd]

lemma sendNetlinkRequest_keeps {fds : Finset ℕ} {fd : ℕ} (hfd : fd ∈ fds)
    (buffer : NetlinkBuffer) :
    (sendNetlinkRequest order strerror fd buffer).Ensures Descriptors fds
      fun _ fds' => fds' = fds := by
  refine ensures_perform_bind.mpr ⟨hfd, fun done fds' h => ?_⟩
  obtain rfl : fds' = fds := h
  cases done with
  | error err => rfl
  | ok _ =>
      refine ensures_perform_bind.mpr ⟨hfd, fun received fds'' h => ?_⟩
      obtain rfl : fds'' = fds' := h
      cases received <;> rfl

/-- An exchange closes its socket. -/
lemma exchange_closes {fds : Finset ℕ} {fd : ℕ} (hfd : fd ∈ fds) (buffer : NetlinkBuffer)
    (accepts : ℤ → Bool) :
    (exchange order strerror fd buffer accepts).Ensures Descriptors fds
      fun r fds' => (∃ a, r = .ok a) → fds' = fds.erase fd := by
  refine (ensures_bind _ _).mpr ?_
  refine (sendNetlinkRequest_keeps order strerror hfd buffer).mono fun result fds' h => ?_
  obtain rfl : fds' = fds := h
  cases result with
  | error fault =>
      rintro ⟨a, ha⟩
      cases ha
  | ok result => exact ensures_perform_bind.mpr ⟨hfd, fun _ fds'' h _ => h⟩

lemma releases_onSocket (protocol : NetlinkProtocol) (failure : String) (buffer : NetlinkBuffer)
    (accepts : ℤ → Bool) : Releases (onSocket order strerror protocol failure buffer accepts) :=
  releases_socket (fun _ _ _ => rfl) fun _ _ hfd =>
    exchange_closes order strerror hfd buffer accepts

lemma releases_resolveWireGuardFamily :
    Releases (NetlinkWireGuard.resolveWireGuardFamily order) := by
  refine releases_socket (fun err fds _ => rfl) fun fds fd hfd => ?_
  refine ensures_perform_bind.mpr ⟨hfd, fun done fds' h => ?_⟩
  obtain rfl : fds' = fds := h
  cases done with
  | error err => exact ensures_perform_bind.mpr ⟨hfd, fun _ fds'' h _ => h⟩
  | ok _ =>
      refine ensures_perform_bind.mpr ⟨hfd, fun received fds'' h => ?_⟩
      obtain rfl : fds'' = fds' := h
      refine ensures_perform_bind.mpr ⟨hfd, fun _ fds' h => ?_⟩
      cases received <;> exact fun _ => h

/-- A lookup leaves the descriptors alone. -/
lemma releases_if_nametoindex {α : Type} {name : Bytes} {next : UInt32 → NetlinkCall (Checked α)}
    (hnext : ∀ index, Releases (next index)) : Releases (if_nametoindex name >>= next) := by
  refine fun fds => ensures_perform_bind.mpr ⟨trivial, fun index fds' h => ?_⟩
  obtain rfl : fds' = fds := h
  exact hnext index fds'

/-- Two functions one after the other, where a fault of the first is one of both. -/
lemma releases_bind {α β : Type} {p : NetlinkCall (Checked α)}
    {next : Checked α → NetlinkCall (Checked β)} (hp : Releases p)
    (hfault : ∀ fault, next (.error fault) = pure (.error fault))
    (hnext : ∀ a, Releases (next (.ok a))) : Releases (p >>= next) := by
  intro fds
  rw [ensures_bind]
  refine (hp fds).mono fun r fds' hr => ?_
  cases r with
  | error fault =>
      rw [hfault]
      rintro ⟨a, ha⟩
      cases ha
  | ok a =>
      obtain rfl : fds' = fds := hr ⟨a, rfl⟩
      exact hnext a fds'

lemma releases_pure {α : Type} (a : Checked α) : Releases (pure a) := fun _ _ => rfl

/-- **Descriptors.** Whatever the system answers to the calls: each function uses and closes
only descriptors that are open at that moment, and if it does not read what was not
received, then it leaves open exactly those that were open before. So every socket is
closed, and closed once, also where sending, receiving or the request fails. -/
theorem sockets_released (reader : AddressReader) (inet_pton : String → Option Bytes)
    (ifName virtualIp : String) (prefixLen : UInt8) (up : Bool) (privateKey : Bytes)
    (listenPort : UInt16) (peers : List WireGuardPeerConfig) :
    Releases (isWireGuardSupported order) ∧
    Releases (NetlinkWireGuard.createInterface order strerror ifName) ∧
    Releases (NetlinkWireGuard.deleteInterface order strerror ifName) ∧
    Releases (NetlinkWireGuard.setInterfaceAddress order strerror inet_pton ifName virtualIp
      prefixLen) ∧
    Releases (NetlinkWireGuard.setInterfaceUp order strerror ifName up) ∧
    Releases (NetlinkWireGuard.setWireGuardDevice order strerror reader ifName privateKey
      listenPort peers) ∧
    Releases (NetlinkWireGuard.getWireGuardDevice order strerror ifName) := by
  have hfamily := releases_resolveWireGuardFamily order
  refine ⟨?_, ?_, ?_, ?_, ?_, ?_, ?_⟩
  · exact releases_bind hfamily (fun fault => rfl) fun family => releases_pure _
  · refine releases_if_nametoindex fun index => ?_
    by_cases hexists : 0 < index
    · simp only [decide_eq_true hexists, if_true]
      exact releases_pure _
    · simp only [decide_eq_false hexists, Bool.false_eq_true, if_false]
      exact releases_onSocket order strerror _ _ _ _
  · refine releases_if_nametoindex fun index => ?_
    by_cases hexists : 0 < index
    · simp only [decide_eq_true hexists, if_true]
      refine releases_socket (fun err => releases_pure _) fun fds fd hfd => ?_
      refine ensures_perform_bind.mpr ⟨trivial, fun ifIndex fds' h => ?_⟩
      obtain rfl : fds' = fds := h
      exact exchange_closes order strerror hfd _ _
    · simp only [decide_eq_false hexists, Bool.false_eq_true, if_false]
      exact releases_pure _
  · refine releases_if_nametoindex fun index => ?_
    split_ifs
    · exact releases_pure _
    · cases inet_pton virtualIp with
      | none => exact releases_pure _
      | some addr => exact releases_onSocket order strerror _ _ _ _
  · refine releases_if_nametoindex fun index => ?_
    split_ifs
    · exact releases_pure _
    · exact releases_onSocket order strerror _ _ _ _
  · refine releases_bind hfamily (fun fault => rfl) fun family => ?_
    dsimp only
    split_ifs
    · exact releases_pure _
    · exact releases_onSocket order strerror _ _ _ _
  · refine releases_bind hfamily (fun fault => rfl) fun family => ?_
    dsimp only
    split_ifs
    · exact releases_pure _
    · refine releases_socket (fun err => releases_pure _) fun fds fd hfd => ?_
      refine ensures_perform_bind.mpr ⟨hfd, fun done fds' h => ?_⟩
      obtain rfl : fds' = fds := h
      cases done with
      | error err => exact ensures_perform_bind.mpr ⟨hfd, fun _ fds'' h _ => h⟩
      | ok _ =>
          refine ensures_perform_bind.mpr ⟨hfd, fun received fds'' h => ?_⟩
          obtain rfl : fds'' = fds' := h
          refine ensures_perform_bind.mpr ⟨hfd, fun _ fds' h => ?_⟩
          cases received <;> exact fun _ => h

end Released

end MeckChat.Network
