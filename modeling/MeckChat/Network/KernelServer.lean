import MeckChat.Network.NetlinkCalls
import MeckChat.Network.ResponseValues

/-!
The calls on the kernel against a kernel that reads messages (`netlink_wireguard.cpp`).

* `Host` is a kernel with the sockets of the program, and `Host.environment` says what it
  makes of the system calls: it reads the bytes of a message with `readRequest`, serves the
  request or refuses it, and answers. `Serves` is what it does, `Refuses` with which errors
  it may refuse, and `setPeer` what it makes of a peer.
* `foldl_setPeer`: the peers of a message have the effect of `configurePeer`.
* `exchange_outcome`: how the exchange of a message can end.
* `Refines` compares a function that makes system calls with one on the abstract kernel;
  `calls_refine` says that all of them have the effects that the service relies on.
-/

namespace MeckChat.Network

open Program

/-! ### The kernel -/

/-- What the kernel makes of a peer of a request. -/
def setPeer (peers : Bytes → Option KernelPeer) (request : PeerRequest) :
    Bytes → Option KernelPeer :=
  if request.flags &&& WGPEER_F_REMOVE_ME ≠ 0 then
    Function.update peers request.publicKey none
  else
    let old := (peers request.publicKey).getD {}
    Function.update peers request.publicKey (some {
      endpoint := request.endpoint.or old.endpoint
      keepalive := request.keepalive.getD old.keepalive
      allowedIps :=
        (if request.flags &&& WGPEER_F_REPLACE_ALLOWEDIPS ≠ 0 then [] else old.allowedIps) ++
          request.allowedIps })

/-- A request takes effect. Interfaces are found by their index, or by their name where a
request has no index. -/
inductive Serves (index : String → UInt32) (kernel : Kernel) : KernelRequest → Kernel → Prop
  | newLink {flags : UInt16} {n : String} (h : kernel n = none) :
      Serves index kernel (.newLink flags (QString.toUtf8 n) (QString.toUtf8 WG_GENL_NAME))
        (Function.update kernel n (some {}))
  | delLink {ifIndex : UInt32} {ifName : Bytes} {n : String} (h : (kernel n).isSome)
      (hn : if ifIndex = 0 then ifName = QString.toUtf8 n else ifIndex = index n) :
      Serves index kernel (.delLink ifIndex ifName) (Function.update kernel n none)
  | newAddress {flags : UInt16} {ifIndex : UInt32} {prefixLen : UInt8} {address : Bytes}
      {n : String} (h : (kernel n).isSome) (hn : ifIndex = index n) :
      Serves index kernel (.newAddress flags ifIndex prefixLen address) kernel
  | setLink {ifIndex flags : UInt32} {n : String} {interface : KernelInterface}
      (h : kernel n = some interface) (hn : ifIndex = index n) :
      Serves index kernel (.setLink ifIndex flags IFF_UP)
        (Function.update kernel n (some { interface with up := flags &&& IFF_UP ≠ 0 }))
  | setDevice {request : DeviceRequest} {n : String} {interface : KernelInterface}
      (h : kernel n = some interface) (hn : request.ifName = QString.toUtf8 n) :
      Serves index kernel (.setDevice request) (Function.update kernel n
        (some { interface with peers := request.peers.foldl setPeer interface.peers }))

/-- The errors with which a request may be refused. That a name is taken, or that nothing
has it, is said only where it is so. -/
def Refuses (kernel : Kernel) (request : KernelRequest) (err : ℤ) : Prop :=
  0 < err ∧
    match request with
    | .newLink _ ifName _ =>
        err = EEXIST → ∃ n, ifName = QString.toUtf8 n ∧ (kernel n).isSome
    | .delLink _ ifName =>
        err = ENODEV ∨ err = ENOENT → ∀ n, ifName = QString.toUtf8 n → kernel n = none
    | _ => True

/-- The errors of `sendto` and `recv`. -/
def TransferError (err : ℤ) : Prop := 0 < err ∧ err ≠ EEXIST ∧ err ≠ ENODEV ∧ err ≠ ENOENT

section Answers

variable (order : ByteOrder) (familyId : UInt16)

/-- The answer to a request: an error, or 0. -/
structure IsAck (resp : Bytes) (err : ℤ) : Prop where
  length : payloadOffset ≤ resp.length
  type : order.ofU16 (slice resp 4 2) = NLMSG_ERROR
  error : (order.ofU32 (slice resp 16 4)).toInt32.toInt = -err

/-- The answer to the question for the family. -/
structure IsFamily (resp : Bytes) (ts : Attributes) : Prop where
  response : IsResponse order resp ts
  ids : ∀ c ∈ ts.contents order, isFamilyId c = true → 2 ≤ c.2.length
  found : (ts.contents order).find? isFamilyId = some (CTRL_ATTR_FAMILY_ID, order.u16 familyId)

/-- A kernel, with the indices of the interfaces, the sockets of the program with the
answers that wait there, and whether an answer was lost. -/
structure Host where
  kernel : Kernel
  index : String → UInt32
  sockets : ℕ → Option (NetlinkProtocol × Option Bytes) := fun _ => none
  lost : Bool := false

/-- Set a socket. -/
def Host.setSocket (h : Host) (fd : ℕ) (socket : Option (NetlinkProtocol × Option Bytes)) :
    Host := { h with sockets := Function.update h.sockets fd socket }

@[simp] lemma Host.sockets_setSocket (h : Host) (fd : ℕ)
    (socket : Option (NetlinkProtocol × Option Bytes)) :
    (h.setSocket fd socket).sockets fd = socket := Function.update_self _ _ _

/-- What a request leads to: it is served or refused, and the answer waits at the socket. -/
inductive Host.Handles (h : Host) (fd : ℕ) (protocol : NetlinkProtocol) :
    KernelRequest → Host → Prop
  | served {request : KernelRequest} {kernel' : Kernel} {resp : Bytes}
      (hserves : Serves h.index h.kernel request kernel') (hack : IsAck order resp 0) :
      Handles h fd protocol request
        ({ h with kernel := kernel' }.setSocket fd (some (protocol, some resp)))
  | refused {request : KernelRequest} {err : ℤ} {resp : Bytes}
      (hrefuses : Refuses h.kernel request err) (hack : IsAck order resp err) :
      Handles h fd protocol request (h.setSocket fd (some (protocol, some resp)))
  | family {resp : Bytes} {ts : Attributes} (hfamily : IsFamily order familyId resp ts) :
      Handles h fd protocol (.getFamily (QString.toUtf8 WG_GENL_NAME))
        (h.setSocket fd (some (protocol, some resp)))

/-- What the host answers. A lookup may fail, and an answer may be lost. -/
def Host.environment : Environment SystemCall SystemCall.Answer Host where
  allowed _ _ := True
  answers h
    | .if_nametoindex ifName, ifIndex, h' =>
        h' = h ∧ (ifIndex = 0 ∨
          ∃ n, ifName = QString.toUtf8 n ∧ (h.kernel n).isSome ∧ ifIndex = h.index n)
    | .socket protocol, .ok fd, h' =>
        h.sockets fd = none ∧ h' = h.setSocket fd (some (protocol, none))
    | .socket _, .error _, h' => h' = h
    | .sendto fd message, .ok _, h' => ∃ protocol request,
        h.sockets fd = some (protocol, none) ∧
          readRequest order familyId protocol message = some request ∧
            h.Handles order familyId fd protocol request h'
    | .sendto _ _, .error err, h' => TransferError err ∧ h' = h
    | .recv fd size, .ok resp, h' => ∃ protocol, h.sockets fd = some (protocol, some resp) ∧
        resp.length ≤ size ∧ h' = h.setSocket fd (some (protocol, none))
    | .recv _ _, .error err, h' => TransferError err ∧ h' = { h with lost := true }
    | .close fd, _, h' => h' = h.setSocket fd none

end Answers

/-! ### The peers of a message -/

section Peers

variable (reader : AddressReader)

/-- A peer that is in the message. -/
lemma setPeer_peerRequest {peer : WireGuardPeerConfig} {request : PeerRequest}
    (h : peerRequest reader peer = some request) (peers : Bytes → Option KernelPeer) :
    setPeer peers request = configurePeer reader peers peer := by
  rw [peerRequest] at h
  rw [configurePeer]
  by_cases hkey : peer.publicKey.length ≠ 32
  · rw [if_pos hkey] at h
    cases h
  · by_cases hremove : peer.remove = true
    · rw [if_neg hkey, if_pos hremove] at h
      have hflag : WGPEER_F_REMOVE_ME &&& WGPEER_F_REMOVE_ME ≠ 0 := by decide
      rw [if_neg hkey, if_pos hremove, ← Option.some.inj h, setPeer, if_pos hflag]
    · rw [if_neg hkey, if_neg hremove] at h
      have hflag : ¬WGPEER_F_REPLACE_ALLOWEDIPS &&& WGPEER_F_REMOVE_ME ≠ 0 := by decide
      have hreplace : WGPEER_F_REPLACE_ALLOWEDIPS &&& WGPEER_F_REPLACE_ALLOWEDIPS ≠ 0 := by
        decide
      rw [if_neg hkey, if_neg hremove, ← Option.some.inj h, setPeer, if_neg hflag]
      dsimp only
      rw [if_pos hreplace, List.nil_append]
      split_ifs <;> rfl

/-- **The peers** of a message have the effect that is meant. -/
theorem foldl_setPeer (configs : List WireGuardPeerConfig) (peers : Bytes → Option KernelPeer) :
    (configs.filterMap (peerRequest reader)).foldl setPeer peers =
      configs.foldl (configurePeer reader) peers := by
  induction configs generalizing peers with
  | nil => rfl
  | cons config configs ih =>
      rw [List.filterMap_cons, List.foldl_cons]
      cases hrequest : peerRequest reader config with
      | some request =>
          dsimp only
          rw [List.foldl_cons, setPeer_peerRequest reader hrequest, ih]
      | none =>
          have hkey : config.publicKey.length ≠ 32 := by
            rw [peerRequest] at hrequest
            split_ifs at hrequest with hkey
            exact hkey
          dsimp only
          rw [ih, configurePeer, if_pos hkey]

end Peers

/-! ### The exchange of a message -/

section Exchange

open NetlinkWireGuard

variable {order : ByteOrder} {familyId : UInt16} (strerror : ℤ → String)

/-- The answer is understood. -/
lemma readAck_of_isAck {resp : Bytes} {err : ℤ} (h : IsAck order resp err) :
    ∃ errorString, readAck order strerror resp = .ok (-err, errorString) := by
  have hlength : 20 ≤ resp.length := h.length
  rw [readAck, readU16_ok (by omega), Checked.ok_bind, if_pos h.type, readU32_ok (by omega),
    Checked.ok_bind, h.error, neg_neg]
  by_cases hzero : err = 0
  · refine ⟨"", ?_⟩
    rw [if_pos hzero, hzero]
    rfl
  · rw [if_neg hzero]
    split_ifs <;> exact ⟨_, rfl⟩

/-- How the exchange of a message can end: it fails without an effect, it is served but the
answer is lost, it is refused with an error that is accepted, or it is served. -/
inductive Outcome (index : String → UInt32) (kernel : Kernel) (request : KernelRequest)
    (accepts : ℤ → Bool) : Checked (Except String Unit) → Host → Prop
  | failed {e : String} {h' : Host} (hkernel : h'.kernel = kernel) :
      Outcome index kernel request accepts (.ok (.error e)) h'
  | unanswered {e : String} {h' : Host} (hserves : Serves index kernel request h'.kernel)
      (hlost : h'.lost = true) : Outcome index kernel request accepts (.ok (.error e)) h'
  | accepted {err : ℤ} {h' : Host} (hrefuses : Refuses kernel request err)
      (haccepts : accepts (-err) = true) (hkernel : h'.kernel = kernel) :
      Outcome index kernel request accepts (.ok (.ok ())) h'
  | served {h' : Host} (hserves : Serves index kernel request h'.kernel) :
      Outcome index kernel request accepts (.ok (.ok ())) h'

variable {strerror} {request : KernelRequest} {accepts : ℤ → Bool}

variable (strerror) in
/-- What the answer that waits leads to. -/
lemma outcome_answer {h h' : Host} (h'' : Host) {fd : ℕ} {protocol protocol' : NetlinkProtocol}
    {resp : Bytes} (hhandles : h.Handles order familyId fd protocol request h')
    (hrequest : ∀ name, request ≠ .getFamily name) (hzero : accepts 0 = true)
    (hwaits : h'.sockets fd = some (protocol', some resp)) (hkernel : h''.kernel = h'.kernel) :
    ∃ res errorString, readAck order strerror resp = .ok (res, errorString) ∧
      Outcome h.index h.kernel request accepts
        (.ok (if accepts res then .ok () else .error errorString)) h'' := by
  cases hhandles with
  | @served _ kernel' resp' hserves hack =>
      rw [Host.sockets_setSocket, Option.some.injEq, Prod.mk.injEq, Option.some.injEq] at hwaits
      obtain ⟨errorString, hread⟩ := readAck_of_isAck strerror hack
      rw [neg_zero, hwaits.2] at hread
      refine ⟨0, errorString, hread, ?_⟩
      rw [if_pos hzero]
      refine .served ?_
      rw [hkernel]
      exact hserves
  | @refused _ err resp' hrefuses hack =>
      rw [Host.sockets_setSocket, Option.some.injEq, Prod.mk.injEq, Option.some.injEq] at hwaits
      obtain ⟨errorString, hread⟩ := readAck_of_isAck strerror hack
      rw [hwaits.2] at hread
      refine ⟨-err, errorString, hread, ?_⟩
      by_cases haccepts : accepts (-err) = true
      · rw [if_pos haccepts]
        exact .accepted hrefuses haccepts hkernel
      · rw [if_neg haccepts]
        exact .failed hkernel
  | family _ => exact absurd rfl (hrequest _)

/-- **An exchange.** Every end is one of these. -/
lemma exchange_outcome {protocol : NetlinkProtocol} {buffer : NetlinkBuffer}
    (hread : readRequest order familyId protocol (sent order buffer) = some request)
    (hrequest : ∀ name, request ≠ .getFamily name) (hzero : accepts 0 = true)
    (hrejects : ∀ err, TransferError err → accepts (-err) = false) (h : Host) (fd : ℕ) :
    (exchange order strerror fd buffer accepts).Ensures (Host.environment order familyId)
      (h.setSocket fd (some (protocol, none))) (Outcome h.index h.kernel request accepts) := by
  refine (ensures_bind _ _).mpr ?_
  refine ensures_perform_bind.mpr ⟨trivial, fun done h₂ hdone => ?_⟩
  cases done with
  | error err =>
      obtain ⟨herr, rfl⟩ : TransferError err ∧
        h₂ = h.setSocket fd (some (protocol, none)) := hdone
      refine ensures_perform_bind.mpr ⟨trivial, fun _ h₃ hclosed => ?_⟩
      obtain rfl : h₃ = _ := hclosed
      rw [hrejects err herr]
      exact .failed rfl
  | ok _ =>
      obtain ⟨protocol', request', hsocket, hread', hhandles⟩ := hdone
      rw [Host.sockets_setSocket, Option.some.injEq, Prod.mk.injEq] at hsocket
      rw [← hsocket.1, hread] at hread'
      rw [← Option.some.inj hread'] at hhandles
      refine ensures_perform_bind.mpr ⟨trivial, fun received h₃ hreceived => ?_⟩
      cases received with
      | error err =>
          obtain ⟨herr, rfl⟩ : TransferError err ∧ h₃ = { h₂ with lost := true } := hreceived
          refine ensures_perform_bind.mpr ⟨trivial, fun _ h₄ hclosed => ?_⟩
          obtain rfl : h₄ = _ := hclosed
          rw [hrejects err herr]
          cases hhandles with
          | served hserves _ => exact .unanswered hserves rfl
          | refused _ _ => exact .failed rfl
          | family _ => exact absurd rfl (hrequest _)
      | ok resp =>
          obtain ⟨_, hwaits, -, rfl⟩ := hreceived
          obtain ⟨res, errorString, hack, houtcome⟩ :=
            outcome_answer strerror ((h₂.setSocket fd _).setSocket fd none)
              hhandles hrequest hzero hwaits rfl
          refine ensures_pure.mpr ?_
          rw [hack]
          refine ensures_perform_bind.mpr ⟨trivial, fun _ h₄ hclosed => ?_⟩
          obtain rfl : h₄ = _ := hclosed
          exact houtcome

/-- An exchange, with the opening of its socket. -/
lemma onSocket_outcome {protocol : NetlinkProtocol} {failure : String} {buffer : NetlinkBuffer}
    (hread : readRequest order familyId protocol (sent order buffer) = some request)
    (hrequest : ∀ name, request ≠ .getFamily name) (hzero : accepts 0 = true)
    (hrejects : ∀ err, TransferError err → accepts (-err) = false) (h : Host) :
    (onSocket order strerror protocol failure buffer accepts).Ensures
      (Host.environment order familyId) h (Outcome h.index h.kernel request accepts) := by
  refine ensures_perform_bind.mpr ⟨trivial, fun opened h₁ hopened => ?_⟩
  cases opened with
  | error err => exact .failed (congrArg Host.kernel hopened)
  | ok fd =>
      obtain ⟨-, rfl⟩ : _ ∧ h₁ = h.setSocket fd (some (protocol, none)) := hopened
      exact exchange_outcome hread hrequest hzero hrejects h fd

/-- An error in place of the family. -/
lemma resolve_of_isAck {resp : Bytes} {err : ℤ} (h : IsAck order resp err) :
    Network.resolveWireGuardFamily order resp = .ok none := by
  have hlength : 20 ≤ resp.length := h.length
  rw [Network.resolveWireGuardFamily, if_neg (not_lt.mpr h.length), readU16_ok (by omega),
    Checked.ok_bind, if_pos h.type]
  rfl

lemma resolve_of_isFamily {resp : Bytes} {ts : Attributes}
    (h : IsFamily order familyId resp ts) :
    Network.resolveWireGuardFamily order resp = .ok (some familyId) := by
  have htake : (order.u16 familyId).take 2 = order.u16 familyId := by
    rw [List.take_of_length_le (le_of_eq (order.length_u16 familyId))]
  rw [resolveWireGuardFamily_response h.response h.ids, h.found, Option.map_some, htake,
    ByteOrder.ofU16_u16]

/-- The family is found, or it is not; nothing changes in the kernel. -/
lemma resolveWireGuardFamily_outcome (h : Host) :
    (NetlinkWireGuard.resolveWireGuardFamily order).Ensures (Host.environment order familyId) h
      fun r h' => h'.kernel = h.kernel ∧ h'.index = h.index ∧
        (r = .ok (familyId.toNat : ℤ) ∧ h'.lost = h.lost ∨ r = .ok (-1)) := by
  refine ensures_perform_bind.mpr ⟨trivial, fun opened h₁ hopened => ?_⟩
  cases opened with
  | error err =>
      obtain rfl : h₁ = h := hopened
      exact ⟨rfl, rfl, .inr rfl⟩
  | ok fd =>
      obtain ⟨-, rfl⟩ : _ ∧ h₁ = h.setSocket fd (some (.NETLINK_GENERIC, none)) := hopened
      refine ensures_perform_bind.mpr ⟨trivial, fun done h₂ hdone => ?_⟩
      cases done with
      | error err =>
          obtain ⟨-, rfl⟩ : _ ∧ h₂ = h.setSocket fd (some (.NETLINK_GENERIC, none)) := hdone
          refine ensures_perform_bind.mpr ⟨trivial, fun _ h₃ hclosed => ?_⟩
          obtain rfl : h₃ = _ := hclosed
          exact ⟨rfl, rfl, .inr rfl⟩
      | ok _ =>
          obtain ⟨protocol, request', hsocket, hread, hhandles⟩ := hdone
          rw [Host.sockets_setSocket, Option.some.injEq, Prod.mk.injEq] at hsocket
          rw [← hsocket.1, readRequest_familyMessage] at hread
          rw [← Option.some.inj hread] at hhandles
          have hanswer : h₂.kernel = h.kernel ∧ h₂.index = h.index ∧ h₂.lost = h.lost ∧
              ∃ protocol resp, h₂.sockets fd = some (protocol, some resp) ∧
                (Network.resolveWireGuardFamily order resp = .ok (some familyId) ∨
                  Network.resolveWireGuardFamily order resp = .ok none) := by
            cases hhandles with
            | served hserves _ => cases hserves
            | refused _ hack =>
                exact ⟨rfl, rfl, rfl, _, _, Host.sockets_setSocket _ _ _,
                  .inr (resolve_of_isAck hack)⟩
            | family hfamily =>
                exact ⟨rfl, rfl, rfl, _, _, Host.sockets_setSocket _ _ _,
                  .inl (resolve_of_isFamily hfamily)⟩
          obtain ⟨hkernel, hindex, hlost, _, resp, hwaits, hresolve⟩ := hanswer
          refine ensures_perform_bind.mpr ⟨trivial, fun received h₃ hreceived => ?_⟩
          refine ensures_perform_bind.mpr ⟨trivial, fun _ h₄ hclosed => ?_⟩
          obtain rfl : h₄ = _ := hclosed
          cases received with
          | error err =>
              obtain ⟨-, rfl⟩ : _ ∧ h₃ = { h₂ with lost := true } := hreceived
              exact ⟨hkernel, hindex, .inr rfl⟩
          | ok resp' =>
              obtain ⟨_, hwaits', -, rfl⟩ := hreceived
              rw [hwaits, Option.some.injEq, Prod.mk.injEq, Option.some.injEq] at hwaits'
              refine ensures_pure.mpr ⟨hkernel, hindex, ?_⟩
              rw [← hwaits'.2]
              rcases hresolve with hresolve | hresolve
              · rw [hresolve]
                exact .inl ⟨rfl, hlost⟩
              · rw [hresolve]
                exact .inr rfl

end Exchange

/-! ### The refinement -/

/-- Before a call: the indices tell the interfaces apart, and no answer was lost. -/
structure Host.Ready (h : Host) : Prop where
  index_ne : ∀ n, (h.kernel n).isSome → h.index n ≠ 0
  index_inj : ∀ n m, (h.kernel n).isSome → (h.kernel m).isSome → h.index n = h.index m → n = m
  answered : h.lost = false

/-- The end of a call is one of the abstract call: success is the effect of the abstract
call, and behind a failure nothing has changed, unless the answer to the request was
lost. -/
def Agrees (kernel : Kernel) (abstract : KernelAnswer → Except String Kernel)
    (r : Checked (Except String Unit)) (h' : Host) : Prop :=
  match r with
  | .ok (.ok ()) => ∃ answer, abstract answer = .ok h'.kernel
  | .ok (.error e) => (∃ answer, abstract answer = .error e) ∧
      (h'.kernel = kernel ∨ h'.lost = true ∧ ∃ answer, abstract answer = .ok h'.kernel)
  | .error _ => False

/-- A function that makes system calls does what an abstract call does. -/
def Refines (order : ByteOrder) (familyId : UInt16) (h : Host)
    (p : NetlinkCall (Checked (Except String Unit)))
    (abstract : KernelAnswer → Except String Kernel) : Prop :=
  p.Ensures (Host.environment order familyId) h (Agrees h.kernel abstract)

section Refinement

variable {order : ByteOrder} {familyId : UInt16} {strerror : ℤ → String} {h : Host}
  {ifName : String}

/-- From the ends of an exchange to those of a call. -/
lemma Outcome.agrees {index : String → UInt32} {kernel : Kernel} {request : KernelRequest}
    {accepts : ℤ → Bool} {abstract : KernelAnswer → Except String Kernel}
    (hfails : ∀ e, ∃ answer, abstract answer = .error e)
    (hserves : ∀ kernel', Serves index kernel request kernel' →
      ∃ answer, abstract answer = .ok kernel')
    (hrefuses : ∀ err, Refuses kernel request err → accepts (-err) = true →
      ∃ answer, abstract answer = .ok kernel)
    {r : Checked (Except String Unit)} {h' : Host}
    (houtcome : Outcome index kernel request accepts r h') : Agrees kernel abstract r h' := by
  cases houtcome with
  | failed hkernel => exact ⟨hfails _, .inl hkernel⟩
  | unanswered hserved hlost => exact ⟨hfails _, .inr ⟨hlost, hserves _ hserved⟩⟩
  | accepted hrefused haccepts hkernel =>
      rw [Agrees, hkernel]
      exact hrefuses _ hrefused haccepts
  | served hserved => exact hserves _ hserved

/-- The name that is looked up, and the name of a message. -/
lemma eq_kernelName {n : String} (hn : NetlinkWireGuard.constData ifName = QString.toUtf8 n) :
    n = kernelName ifName := by
  rw [NetlinkWireGuard.constData, cString_toUtf8] at hn
  exact (QString.toUtf8_injective hn).symm

/-- The rule of a lookup: the interface is there, or the answer is 0. -/
lemma refines_lookup {next : UInt32 → NetlinkCall (Checked (Except String Unit))}
    {abstract : KernelAnswer → Except String Kernel}
    (hfound : (h.kernel (kernelName ifName)).isSome →
      Refines order familyId h (next (h.index (kernelName ifName))) abstract)
    (hmissing : Refines order familyId h (next 0) abstract) :
    Refines order familyId h
      (if_nametoindex (NetlinkWireGuard.constData ifName) >>= next) abstract := by
  refine ensures_perform_bind.mpr ⟨trivial, fun ifIndex h' hanswer => ?_⟩
  obtain ⟨rfl, rfl | ⟨n, hn, hsome, rfl⟩⟩ := hanswer
  · exact hmissing
  · rw [eq_kernelName hn] at hsome ⊢
    exact hfound hsome

/-- A call that does nothing. -/
lemma refines_pure {abstract : KernelAnswer → Except String Kernel}
    (habstract : ∃ answer, abstract answer = .ok h.kernel) :
    Refines order familyId h (pure (.ok (.ok ()))) abstract := habstract

/-- A call that fails at once. -/
lemma refines_error {abstract : KernelAnswer → Except String Kernel} {e : String}
    (habstract : ∃ answer, abstract answer = .error e) :
    Refines order familyId h (pure (.ok (.error e))) abstract := ⟨habstract, .inl rfl⟩

lemma not_accepted {err : ℤ} (hpos : 0 < err) : decide (-err = 0) = false := by
  rw [decide_eq_false_iff_not]
  omega

/-! #### What was served -/

section Served

variable {index : String → UInt32} {kernel kernel' : Kernel}

lemma serves_newLink {flags : UInt16} {name kind : Bytes}
    (hserves : Serves index kernel (.newLink flags name kind) kernel') :
    ∃ n, name = QString.toUtf8 n ∧ kernel n = none ∧
      kernel' = Function.update kernel n (some {}) := by
  cases hserves with
  | newLink hnone => exact ⟨_, rfl, hnone, rfl⟩

lemma serves_delLink {ifIndex : UInt32} {name : Bytes}
    (hserves : Serves index kernel (.delLink ifIndex name) kernel') :
    ∃ n, (kernel n).isSome ∧ (if ifIndex = 0 then name = QString.toUtf8 n else ifIndex = index n) ∧
      kernel' = Function.update kernel n none := by
  cases hserves with
  | delLink hsome hn => exact ⟨_, hsome, hn, rfl⟩

lemma serves_setLink {ifIndex flags : UInt32}
    (hserves : Serves index kernel (.setLink ifIndex flags IFF_UP) kernel') :
    ∃ n interface, kernel n = some interface ∧ ifIndex = index n ∧
      kernel' = Function.update kernel n
        (some { interface with up := flags &&& IFF_UP ≠ 0 }) := by
  cases hserves with
  | setLink hsome hn => exact ⟨_, _, hsome, hn, rfl⟩

lemma serves_newAddress {flags : UInt16} {ifIndex : UInt32} {prefixLen : UInt8} {address : Bytes}
    (hserves : Serves index kernel (.newAddress flags ifIndex prefixLen address) kernel') :
    kernel' = kernel := by
  cases hserves with
  | newAddress _ _ => rfl

lemma serves_setDevice {request : DeviceRequest}
    (hserves : Serves index kernel (.setDevice request) kernel') :
    ∃ n interface, kernel n = some interface ∧ request.ifName = QString.toUtf8 n ∧
      kernel' = Function.update kernel n
        (some { interface with peers := request.peers.foldl setPeer interface.peers }) := by
  cases hserves with
  | setDevice hsome hn => exact ⟨_, _, hsome, hn, rfl⟩

end Served

/-! #### The calls -/

lemma createInterface_refines (hready : h.Ready)
    (hname : (QString.toUtf8 ifName).length ≤ 65530) :
    Refines order familyId h (NetlinkWireGuard.createInterface order strerror ifName)
      fun answer => createInterface h.kernel answer ifName := by
  refine refines_lookup (fun hsome => ?_) ?_
  · have hpos : 0 < h.index (kernelName ifName) :=
      UInt32.pos_iff_ne_zero.mpr (hready.index_ne _ hsome)
    simp only [decide_eq_true hpos, if_true]
    refine refines_pure ⟨{}, ?_⟩
    rw [createInterface, interfaceExists, hsome]
    rfl
  · have hzero : decide (0 < (0 : UInt32)) = false := rfl
    simp only [hzero, Bool.false_eq_true, if_false]
    refine (onSocket_outcome (readRequest_createMessage order familyId hname) (by simp) rfl
      (fun err herr => ?_) h).mono fun r h' houtcome => houtcome.agrees ?_ ?_ ?_
    · obtain ⟨hpos, hexist, -⟩ := herr
      rw [decide_eq_false_iff_not]
      rintro (h0 | h0) <;> omega
    · exact fun e => ⟨⟨false, false, e⟩, rfl⟩
    · intro kernel' hserves
      obtain ⟨n, hn, hnone, rfl⟩ := serves_newLink hserves
      obtain rfl := QString.toUtf8_injective hn
      refine ⟨⟨false, true, ""⟩, ?_⟩
      simp only [createInterface, interfaceExists, hnone, Bool.false_and, Bool.false_eq_true,
        if_false, Bool.not_true]
    · rintro err ⟨hpos, hexists⟩ haccepts
      have hexist : err = EEXIST := by
        rcases of_decide_eq_true haccepts with h0 | h0 <;> omega
      obtain ⟨n, hn, hsome⟩ := hexists hexist
      obtain rfl := QString.toUtf8_injective hn
      obtain ⟨interface, hinterface⟩ := Option.isSome_iff_exists.mp hsome
      refine ⟨⟨false, true, ""⟩, ?_⟩
      simp only [createInterface, interfaceExists, hinterface, Bool.false_and,
        Bool.false_eq_true, if_false, Bool.not_true]

lemma deleteInterface_refines (hready : h.Ready)
    (hname : (QString.toUtf8 ifName).length ≤ 65530) :
    Refines order familyId h (NetlinkWireGuard.deleteInterface order strerror ifName)
      fun answer => deleteInterface h.kernel answer ifName := by
  refine refines_lookup (fun hsome => ?_) ?_
  · have hpos : 0 < h.index (kernelName ifName) :=
      UInt32.pos_iff_ne_zero.mpr (hready.index_ne _ hsome)
    have hexists : ∀ answer : KernelAnswer, answer.lookup = true →
        deleteInterface h.kernel answer ifName =
          if !answer.request then .error answer.error
          else .ok (Function.update h.kernel (kernelName ifName) none) := by
      intro answer hlookup
      rw [deleteInterface, interfaceExists, hsome, hlookup]
      rfl
    simp only [decide_eq_true hpos, if_true]
    -- the second lookup may answer differently from the first one
    have hexchange : ∀ fd ifIndex, (ifIndex = 0 ∨ ifIndex = h.index (kernelName ifName)) →
        Refines order familyId (h.setSocket fd (some (.NETLINK_ROUTE, none)))
          (NetlinkWireGuard.exchange order strerror fd (deleteMessage order ifName ifIndex)
            fun res => res = 0 ∨ res = -ENODEV ∨ res = -ENOENT)
          fun answer => deleteInterface h.kernel answer ifName := by
      intro fd ifIndex hindex
      refine (exchange_outcome (readRequest_deleteMessage order familyId hname ifIndex)
        (by simp) rfl (fun err herr => ?_) h fd).mono
          fun r h' houtcome => houtcome.agrees ?_ ?_ ?_
      · obtain ⟨hpos, -, hnodev, hnoent⟩ := herr
        rw [decide_eq_false_iff_not]
        rintro (h0 | h0 | h0) <;> omega
      · exact fun e => ⟨⟨true, false, e⟩, hexists _ rfl⟩
      · intro kernel' hserves
        obtain ⟨n, hfound, hn, rfl⟩ := serves_delLink hserves
        have heq : n = kernelName ifName := by
          rcases hindex with rfl | rfl
          · rw [if_pos rfl] at hn
            exact (QString.toUtf8_injective hn).symm
          · rw [if_neg (hready.index_ne _ hsome)] at hn
            exact (hready.index_inj _ _ hsome hfound hn).symm
        rw [heq]
        exact ⟨⟨true, true, ""⟩, hexists _ rfl⟩
      · rintro err ⟨hpos, hmissing⟩ haccepts
        have hgone : err = ENODEV ∨ err = ENOENT := by
          rcases of_decide_eq_true haccepts with h0 | h0 | h0 <;> omega
        have hnone := hmissing hgone (kernelName ifName) rfl
        rw [hnone] at hsome
        cases hsome
    refine ensures_perform_bind.mpr ⟨trivial, fun opened h₁ hopened => ?_⟩
    cases opened with
    | error err =>
        obtain rfl : h₁ = h := hopened
        exact refines_error ⟨⟨true, false, _⟩, hexists _ rfl⟩
    | ok fd =>
        obtain ⟨-, rfl⟩ : _ ∧ h₁ = h.setSocket fd (some (.NETLINK_ROUTE, none)) := hopened
        exact refines_lookup (fun _ => hexchange fd _ (.inr rfl)) (hexchange fd 0 (.inl rfl))
  · have hzero : decide (0 < (0 : UInt32)) = false := rfl
    simp only [hzero, Bool.false_eq_true, if_false]
    exact refines_pure ⟨⟨false, true, ""⟩, rfl⟩

lemma setInterfaceAddress_refines {reader : AddressReader} {inet_pton : String → Option Bytes}
    (hpton : ∀ ip, reader.inetPton ip = (inet_pton ip).isSome)
    (hlength : ∀ ip, ∀ addr ∈ inet_pton ip, addr.length = 4) (virtualIp : String)
    (prefixLen : UInt8) (hready : h.Ready) :
    Refines order familyId h
      (NetlinkWireGuard.setInterfaceAddress order strerror inet_pton ifName virtualIp prefixLen)
      fun answer => setInterfaceAddress reader h.kernel answer ifName virtualIp := by
  refine refines_lookup (fun hsome => ?_) ?_
  · have hexists : ∀ answer : KernelAnswer, answer.lookup = true →
        setInterfaceAddress reader h.kernel answer ifName virtualIp =
          if !(inet_pton virtualIp).isSome then
            .error ("Invalid virtual IP address: " ++ virtualIp)
          else if !answer.request then .error answer.error else .ok h.kernel := by
      intro answer hlookup
      rw [setInterfaceAddress, interfaceExists, hsome, hlookup, hpton]
      rfl
    simp only [if_neg (hready.index_ne _ hsome)]
    cases haddr : inet_pton virtualIp with
    | none =>
        rw [haddr] at hexists
        exact refines_error ⟨{}, hexists {} rfl⟩
    | some addr =>
        rw [haddr] at hexists
        refine (onSocket_outcome (readRequest_addressMessage order familyId _ prefixLen
          (hlength virtualIp addr haddr)) (by simp) rfl (fun err herr => not_accepted herr.1)
          h).mono fun r h' houtcome => houtcome.agrees ?_ ?_ ?_
        · exact fun e => ⟨⟨true, false, e⟩, hexists _ rfl⟩
        · intro kernel' hserves
          rw [serves_newAddress hserves]
          exact ⟨{}, hexists {} rfl⟩
        · rintro err ⟨hpos, -⟩ haccepts
          rw [not_accepted hpos] at haccepts
          cases haccepts
  · simp only [if_true]
    exact refines_error ⟨⟨false, true, ""⟩, rfl⟩

lemma setInterfaceUp_refines (up : Bool) (hready : h.Ready) :
    Refines order familyId h (NetlinkWireGuard.setInterfaceUp order strerror ifName up)
      fun answer => setInterfaceUp h.kernel answer ifName up := by
  refine refines_lookup (fun hsome => ?_) ?_
  · obtain ⟨interface, hinterface⟩ := Option.isSome_iff_exists.mp hsome
    have hexists : ∀ answer : KernelAnswer, answer.lookup = true →
        setInterfaceUp h.kernel answer ifName up =
          if !answer.request then .error answer.error
          else .ok (Function.update h.kernel (kernelName ifName)
            (some { interface with up })) := by
      intro answer hlookup
      rw [setInterfaceUp, hinterface, hlookup]
    simp only [if_neg (hready.index_ne _ hsome)]
    refine (onSocket_outcome (readRequest_linkMessage order familyId _ up) (by simp) rfl
      (fun err herr => not_accepted herr.1) h).mono fun r h' houtcome => houtcome.agrees ?_ ?_ ?_
    · exact fun e => ⟨⟨true, false, e⟩, hexists _ rfl⟩
    · intro kernel' hserves
      obtain ⟨n, interface', hfound, hn, rfl⟩ := serves_setLink hserves
      have hsome' : (h.kernel n).isSome := by
        rw [hfound]
        rfl
      obtain rfl := hready.index_inj _ _ hsome hsome' hn
      obtain rfl : interface = interface' := Option.some.inj (hinterface.symm.trans hfound)
      have hup : decide ((if up then IFF_UP else 0) &&& IFF_UP ≠ 0) = up := by
        cases up <;> rfl
      rw [hup]
      exact ⟨{}, hexists {} rfl⟩
    · rintro err ⟨hpos, -⟩ haccepts
      rw [not_accepted hpos] at haccepts
      cases haccepts
  · simp only [if_true]
    exact refines_error ⟨⟨false, true, ""⟩, rfl⟩

lemma setWireGuardDevice_refines (reader : AddressReader) (privateKey : Bytes)
    (listenPort : UInt16) {peers : List WireGuardPeerConfig} (hid : 0 < familyId)
    (hctrl : familyId ≠ GENL_ID_CTRL) (hname : (QString.toUtf8 ifName).length ≤ 65530)
    (hpeers : (peers.map (peerSize reader)).sum ≤ 65531) :
    Refines order familyId h
      (NetlinkWireGuard.setWireGuardDevice order strerror reader ifName privateKey listenPort peers)
      fun answer => setWireGuardDevice reader h.kernel answer ifName peers := by
  refine (ensures_bind _ _).mpr ?_
  refine (resolveWireGuardFamily_outcome h).mono fun r h' hresolved => ?_
  obtain ⟨hkernel, hindex, ⟨rfl, hlost⟩ | rfl⟩ := hresolved
  · have hpos : ¬(familyId.toNat : ℤ) ≤ 0 := by
      rw [UInt16.lt_iff_toNat_lt] at hid
      have hzero : (0 : UInt16).toNat = 0 := rfl
      omega
    have hcast : UInt16.ofNat (familyId.toNat : ℤ).toNat = familyId := by
      rw [Int.toNat_natCast, UInt16.ofNat_toNat]
    simp only [if_neg hpos, hcast]
    refine (onSocket_outcome (readRequest_deviceMessage order reader hctrl hname privateKey
      listenPort hpeers) (by simp) rfl (fun err herr => not_accepted herr.1) h').mono
        fun r h'' houtcome => ?_
    rw [hkernel, hindex] at houtcome
    refine houtcome.agrees ?_ ?_ ?_
    · exact fun e => ⟨⟨true, false, e⟩, rfl⟩
    · intro kernel' hserves
      obtain ⟨n, interface, hfound, hn, rfl⟩ := serves_setDevice hserves
      obtain rfl := QString.toUtf8_injective hn
      refine ⟨{}, ?_⟩
      simp only [setWireGuardDevice, hfound, Bool.not_true, Bool.false_eq_true, if_false,
        deviceRequest, foldl_setPeer]
    · rintro err ⟨hpos, -⟩ haccepts
      rw [not_accepted hpos] at haccepts
      cases haccepts
  · exact ⟨⟨⟨false, true, ""⟩, rfl⟩, .inl hkernel⟩

/-- **The calls on the kernel.** Against a kernel that reads the bytes of the messages, that
may refuse every request, fail every system call and lose every answer, each call of the
service does what its abstract counterpart does: it reports success exactly with the effect
that is meant, and behind a failure the kernel is as before, unless the request took effect
and its answer was lost. -/
theorem calls_refine (order : ByteOrder) (strerror : ℤ → String) {familyId : UInt16}
    (hid : 0 < familyId) (hctrl : familyId ≠ GENL_ID_CTRL) {reader : AddressReader}
    (inet_pton : String → Option Bytes)
    (hpton : ∀ ip, reader.inetPton ip = (inet_pton ip).isSome)
    (hlength : ∀ ip, ∀ addr ∈ inet_pton ip, addr.length = 4) {h : Host} (hready : h.Ready)
    {ifName : String} (hname : (QString.toUtf8 ifName).length ≤ 65530) (virtualIp : String)
    (prefixLen : UInt8) (up : Bool) (privateKey : Bytes) (listenPort : UInt16)
    {peers : List WireGuardPeerConfig} (hpeers : (peers.map (peerSize reader)).sum ≤ 65531) :
    Refines order familyId h (NetlinkWireGuard.createInterface order strerror ifName)
      (fun answer => createInterface h.kernel answer ifName) ∧
    Refines order familyId h (NetlinkWireGuard.deleteInterface order strerror ifName)
      (fun answer => deleteInterface h.kernel answer ifName) ∧
    Refines order familyId h
      (NetlinkWireGuard.setInterfaceAddress order strerror inet_pton ifName virtualIp prefixLen)
      (fun answer => setInterfaceAddress reader h.kernel answer ifName virtualIp) ∧
    Refines order familyId h (NetlinkWireGuard.setInterfaceUp order strerror ifName up)
      (fun answer => setInterfaceUp h.kernel answer ifName up) ∧
    Refines order familyId h
      (NetlinkWireGuard.setWireGuardDevice order strerror reader ifName privateKey listenPort
        peers) (fun answer => setWireGuardDevice reader h.kernel answer ifName peers) :=
  ⟨createInterface_refines hready hname, deleteInterface_refines hready hname,
    setInterfaceAddress_refines hpton hlength virtualIp prefixLen hready,
    setInterfaceUp_refines up hready,
    setWireGuardDevice_refines reader privateKey listenPort hid hctrl hname hpeers⟩

/-- A reader that knows one address. -/
def oneAddress : AddressReader := { silentReader with inetPton := fun ip => ip = "10.77.0.2" }

/-- A kernel with one interface. -/
def oneInterface : Host where
  kernel n := if n = "mc0" then some {} else none
  index := fun _ => 3

lemma ready_oneInterface : oneInterface.Ready := by
  have hname : ∀ n, (oneInterface.kernel n).isSome → n = "mc0" := by
    intro n hn
    by_contra hne
    have hnone : oneInterface.kernel n = none := if_neg hne
    rw [hnone] at hn
    cases hn
  have hindex : (3 : UInt32) ≠ 0 := by decide
  exact ⟨fun _ _ => hindex, fun n m hn hm _ => (hname n hn).trans (hname m hm).symm, rfl⟩

/-- A peer is set on that interface. -/
theorem calls_refine_one_interface :
    Refines .littleEndian 30 oneInterface
      (NetlinkWireGuard.setWireGuardDevice .littleEndian (fun _ => "") oneAddress "mc0" [] 51820
        [plainPeer 1])
      (fun answer => setWireGuardDevice oneAddress oneInterface.kernel answer "mc0"
        [plainPeer 1]) :=
  (calls_refine .littleEndian (fun _ => "") (by decide) (by decide)
    (fun ip => if ip = "10.77.0.2" then some [10, 77, 0, 2] else none)
    (fun ip => by
      rw [oneAddress]
      by_cases hip : ip = "10.77.0.2" <;> simp [hip])
    (fun ip addr haddr => by
      by_cases hip : ip = "10.77.0.2"
      · rw [if_pos hip, Option.mem_some_iff] at haddr
        rw [← haddr]
        rfl
      · rw [if_neg hip] at haddr
        cases haddr)
    ready_oneInterface (by decide) "10.77.0.2" 16 true [] 51820 (by decide)).2.2.2.2

end Refinement

end MeckChat.Network
