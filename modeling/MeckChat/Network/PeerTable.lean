import MeckChat.Network.InterfaceOwnership

/-!
The peers of the tunnel service and those of the kernel.

* `Recorded` says that the kernel holds of a peer what was recorded for it, and
  `Mirrors` that it holds exactly the recorded peers.
* `recorded_foldl` is what a request makes of the kernel: a peer whose endpoint can be
  read, and that leaves out nothing that the kernel holds (`Covers`), is recorded.
* `Attentive` is the condition on a call, and `Synced` the invariant: while the tunnel is
  up, the kernel mirrors the peers.
* `peer_table_mirrors_kernel`: along attentive runs the kernel mirrors the peers, and a
  peer that is added while the interface is up is configured.
-/

namespace MeckChat.Network

open QByteArray TunnelTurn

variable (reader : AddressReader)

/-! ### What the kernel holds -/

/-- Whether an endpoint is left out, or can be given to the kernel. -/
def Readable (endpoint : String) : Prop :=
  endpoint = "" ∨ ∃ address port, parseEndpoint reader endpoint = some (.ipv4 address, port)

/-- The kernel holds of a peer what was recorded for it. -/
structure Recorded (config : WireGuardPeerConfig) (peer : KernelPeer) : Prop where
  endpoint : (config.endpoint = "" ∧ peer.endpoint = none) ∨
    ∃ address port, parseEndpoint reader config.endpoint = some (.ipv4 address, port) ∧
      config.endpoint ≠ "" ∧ peer.endpoint = some (address, port)
  keepalive : peer.keepalive = config.persistentKeepalive
  allowedIps : config.allowedIps = peer.allowedIps.map fun ip => ⟨.ipv4 ip.1, ip.2⟩

/-- **The kernel mirrors the peers**: it holds every recorded one, and no other. -/
structure Mirrors (peers : QMap String WireGuardPeerConfig)
    (kernelPeers : Bytes → Option KernelPeer) : Prop where
  held : ∀ text config, peers.value? text = some config →
    ∃ peer, kernelPeers (fromBase64 (QString.toUtf8 text)) = some peer ∧
      Recorded reader config peer
  known : ∀ key, (kernelPeers key).isSome = true →
    ∃ text config, peers.value? text = some config ∧ fromBase64 (QString.toUtf8 text) = key

/-- A request for a peer leaves out nothing that the kernel holds of it. -/
def Covers (config : WireGuardPeerConfig) (old : KernelPeer) : Prop :=
  (config.endpoint = "" → old.endpoint = none) ∧
    (config.persistentKeepalive = 0 → old.keepalive = 0)

/-- A configuration that `addPeer` makes. -/
structure Made (text : String) (config : WireGuardPeerConfig) : Prop where
  key : config.publicKey = fromBase64 (QString.toUtf8 text)
  length : config.publicKey.length = 32
  kept : config.remove = false
  ip : ∃ address, config.allowedIps = [⟨.ipv4 address, 32⟩]

variable {reader} {config : WireGuardPeerConfig} {text : String} {old peer : KernelPeer}
  {peers : Bytes → Option KernelPeer}

lemma Recorded.covers (h : Recorded reader config peer) : Covers config peer := by
  refine ⟨fun hempty => ?_, fun hzero => h.keepalive.trans hzero⟩
  rcases h.endpoint with ⟨_, hnone⟩ | ⟨_, _, _, hne, _⟩
  · exact hnone
  · exact absurd hempty hne

lemma covers_default : Covers config {} := ⟨fun _ => rfl, fun _ => rfl⟩

/-! ### Requests -/

/-- What a request makes of the peer it is about. -/
def configured (reader : AddressReader) (config : WireGuardPeerConfig) (old : KernelPeer) :
    KernelPeer where
  endpoint := (requestedEndpoint reader config).or old.endpoint
  keepalive := if 0 < config.persistentKeepalive then config.persistentKeepalive else old.keepalive
  allowedIps := requestedIps config

lemma configurePeer_self (h : Made text config) :
    configurePeer reader peers config config.publicKey =
      some (configured reader config ((peers config.publicKey).getD {})) := by
  rw [configurePeer, if_neg (not_not.mpr h.length), h.kept, if_neg Bool.false_ne_true]
  exact Function.update_self ..

lemma configurePeer_of_ne {key : Bytes} (h : key ≠ config.publicKey) :
    configurePeer reader peers config key = peers key := by
  rw [configurePeer]
  split
  · rfl
  · split
    · exact Function.update_of_ne h ..
    · exact Function.update_of_ne h ..

/-- The addresses of a request are those recorded. -/
lemma allowedIps_requestedIps (h : Made text config) :
    config.allowedIps = (requestedIps config).map fun ip => ⟨.ipv4 ip.1, ip.2⟩ := by
  obtain ⟨address, hip⟩ := h.ip
  rw [requestedIps, hip]
  rfl

/-- **One peer of a request.** -/
lemma recorded_configured (h : Made text config) (hreadable : Readable reader config.endpoint)
    (hcovers : Covers config old) : Recorded reader config (configured reader config old) := by
  refine ⟨?_, ?_, allowedIps_requestedIps h⟩
  · by_cases hempty : config.endpoint = ""
    · left
      refine ⟨hempty, ?_⟩
      rw [configured, requestedEndpoint, if_pos hempty]
      exact hcovers.1 hempty
    · right
      obtain ⟨address, port, hparse⟩ := hreadable.resolve_left hempty
      refine ⟨address, port, hparse, hempty, ?_⟩
      rw [configured, requestedEndpoint, if_neg hempty, hparse]
      rfl
  · rw [configured]
    by_cases hzero : 0 < config.persistentKeepalive
    · exact if_pos hzero
    · have hzero' : config.persistentKeepalive = 0 :=
        UInt16.not_lt.mp hzero |> UInt16.le_zero_iff.mp
      rw [if_neg hzero, hcovers.2 hzero', hzero']

lemma covers_configured (h : Covers config old) :
    Covers config (configured reader config old) := by
  refine ⟨fun hempty => ?_, fun hzero => ?_⟩
  · rw [configured, requestedEndpoint, if_pos hempty]
    exact h.1 hempty
  · have hkeep : (configured reader config old).keepalive = old.keepalive := by
      rw [configured, hzero]
      rfl
    exact hkeep.trans (h.2 hzero)

/-- The peers of a request that are about the same key are the same. -/
def Agree (configs : List WireGuardPeerConfig) : Prop :=
  ∀ config ∈ configs, ∀ config' ∈ configs, config.publicKey = config'.publicKey → config = config'

lemma foldl_configurePeer_of_notMem {configs : List WireGuardPeerConfig} {key : Bytes}
    (h : ∀ config ∈ configs, key ≠ config.publicKey) :
    configs.foldl (configurePeer reader) peers key = peers key := by
  induction configs generalizing peers with
  | nil => rfl
  | cons config configs ih =>
      rw [List.foldl_cons, ih fun c hc => h c (List.mem_cons_of_mem _ hc),
        configurePeer_of_ne (h config List.mem_cons_self)]

/-- **A request.** Behind it, a peer of it that covers what the kernel held is recorded. -/
lemma recorded_foldl {configs : List WireGuardPeerConfig} (hagree : Agree configs)
    (hmem : config ∈ configs) (h : Made text config)
    (hreadable : Readable reader config.endpoint)
    (hcovers : ∀ old, peers config.publicKey = some old → Covers config old) :
    ∃ peer, configs.foldl (configurePeer reader) peers config.publicKey = some peer ∧
      Recorded reader config peer := by
  induction configs generalizing peers with
  | nil => exact absurd hmem List.not_mem_nil
  | cons c configs ih =>
      rw [List.foldl_cons]
      have hagree' : Agree configs := fun a ha b hb =>
        hagree a (List.mem_cons_of_mem _ ha) b (List.mem_cons_of_mem _ hb)
      have hdefault : Covers config ((peers config.publicKey).getD {}) := by
        cases hold : peers config.publicKey with
        | none => exact covers_default
        | some old => exact hcovers old hold
      by_cases hlater : config ∈ configs
      · refine ih hagree' hlater fun old hold => ?_
        by_cases hkey : config.publicKey = c.publicKey
        · obtain rfl := hagree config hmem c List.mem_cons_self hkey
          rw [configurePeer_self h, Option.some_inj] at hold
          rw [← hold]
          exact covers_configured hdefault
        · rw [configurePeer_of_ne hkey] at hold
          exact hcovers old hold
      · obtain rfl : config = c := (List.mem_cons.mp hmem).resolve_right hlater
        refine ⟨_, ?_, recorded_configured h hreadable hdefault⟩
        -- no later peer of the request has this key
        rw [foldl_configurePeer_of_notMem, configurePeer_self h]
        intro c hc hkey
        refine hlater ?_
        rwa [hagree config List.mem_cons_self c (List.mem_cons_of_mem _ hc) hkey]

/-! ### The calls on the kernel -/

/-- The peers that the kernel holds of an interface. -/
def kernelPeers (kernel : Kernel) (ifName : String) : Bytes → Option KernelPeer :=
  ((kernel (kernelName ifName)).map KernelInterface.peers).getD fun _ => none

section Calls

variable {kernel kernel' : Kernel} {answer : KernelAnswer} {ifName : String}

lemma kernelPeers_of_some {interface : KernelInterface}
    (h : kernel (kernelName ifName) = some interface) :
    kernelPeers kernel ifName = interface.peers := by
  rw [kernelPeers, h]
  rfl

lemma kernelPeers_update {interface : KernelInterface} :
    kernelPeers (Function.update kernel (kernelName ifName) (some interface)) ifName =
      interface.peers :=
  kernelPeers_of_some (Function.update_self ..)

/-- An interface that was there keeps its peers, and a new one has none. -/
lemma createInterface_ok (h : createInterface kernel answer ifName = .ok kernel') :
    (answer.request = true ∨ interfaceExists kernel ifName answer.lookup = true) ∧
      kernelPeers kernel' ifName = kernelPeers kernel ifName := by
  rw [createInterface] at h
  split_ifs at h with hexists hrequest
  · exact ⟨Or.inr hexists, congrArg (kernelPeers · ifName) (Except.ok.inj h).symm⟩
  · refine ⟨Or.inl (by simpa using hrequest), ?_⟩
    cases hold : kernel (kernelName ifName) with
    | some interface =>
        rw [hold] at h
        exact congrArg (kernelPeers · ifName) (Except.ok.inj h).symm
    | none =>
        rw [hold] at h
        obtain rfl := Except.ok.inj h
        rw [kernelPeers_update, kernelPeers, hold]
        rfl

lemma setWireGuardDevice_ok {configs : List WireGuardPeerConfig}
    (h : setWireGuardDevice reader kernel answer ifName configs = .ok kernel') :
    (answer.lookup = true ∧ answer.request = true) ∧
      kernelPeers kernel' ifName =
        configs.foldl (configurePeer reader) (kernelPeers kernel ifName) ∧
      (kernel' (kernelName ifName)).isSome = true := by
  rw [setWireGuardDevice] at h
  split_ifs at h with hlookup hrequest
  refine ⟨⟨by simpa using hlookup, by simpa using hrequest⟩, ?_⟩
  cases hold : kernel (kernelName ifName) with
  | none =>
      rw [hold] at h
      cases h
  | some interface =>
      rw [hold] at h
      obtain rfl := Except.ok.inj h
      rw [kernelPeers_update, kernelPeers_of_some hold, Function.update_self]
      exact ⟨rfl, rfl⟩

lemma setWireGuardDevice_of_answers (reader : AddressReader) (configs : List WireGuardPeerConfig)
    (hlookup : answer.lookup = true) (hrequest : answer.request = true)
    (hpresent : (kernel (kernelName ifName)).isSome = true) :
    ∃ kernel', setWireGuardDevice reader kernel answer ifName configs = .ok kernel' := by
  obtain ⟨interface, hold⟩ := Option.isSome_iff_exists.mp hpresent
  rw [setWireGuardDevice, hlookup, hrequest, hold]
  exact ⟨_, rfl⟩

lemma setInterfaceUp_ok {up : Bool} (h : setInterfaceUp kernel answer ifName up = .ok kernel') :
    (answer.lookup = true ∧ answer.request = true) ∧
      kernelPeers kernel' ifName = kernelPeers kernel ifName ∧
      (kernel' (kernelName ifName)).isSome = true := by
  rw [setInterfaceUp] at h
  split at h
  · rename_i hlookup hold
    split_ifs at h with hrequest
    obtain rfl := Except.ok.inj h
    refine ⟨⟨hlookup, by simpa using hrequest⟩, ?_, ?_⟩
    · rw [kernelPeers_update, kernelPeers_of_some hold]
    · rw [Function.update_self]
      rfl
  · cases h

lemma setInterfaceAddress_answers {virtualIp : String}
    (h : setInterfaceAddress reader kernel answer ifName virtualIp = .ok kernel') :
    answer.lookup = true ∧ reader.inetPton virtualIp = true ∧ answer.request = true := by
  rw [setInterfaceAddress] at h
  split_ifs at h with hexists hvalid hrequest
  refine ⟨?_, by simpa using hvalid, by simpa using hrequest⟩
  rw [interfaceExists] at hexists
  simp only [Bool.not_eq_true', Bool.not_eq_false, Bool.and_eq_true] at hexists
  exact hexists.1

end Calls

/-! ### Attentive runs -/

/-- Whether `startTunnel` gets to its end: the checks pass and the calls succeed. -/
structure Ends (reader : AddressReader) (kernel : Kernel) (io : TunnelIo)
    (ifName virtualIp privateKeyBase64 : String) : Prop where
  reaches : Reaches reader io virtualIp privateKeyBase64
  create : io.create.request = true ∨ interfaceExists kernel ifName io.create.lookup = true
  device : privateKeyBase64 ≠ "" → io.device.lookup = true ∧ io.device.request = true
  address : io.address.lookup = true ∧
    reader.inetPton (if virtualIp = "" then "10.77.0.2" else virtualIp) = true ∧
    io.address.request = true
  link : io.link.lookup = true ∧ io.link.request = true

/-- The peers can be given to an interface that holds some peers already: their endpoints
can be read, texts of one key say the same, and every peer there is recorded, by a
configuration that covers it. -/
structure Mirrorable (reader : AddressReader) (peers : QMap String WireGuardPeerConfig)
    (kernelPeers : Bytes → Option KernelPeer) : Prop where
  readable : ∀ text config, peers.value? text = some config → Readable reader config.endpoint
  agree : ∀ text config text' config', peers.value? text = some config →
    peers.value? text' = some config' →
    fromBase64 (QString.toUtf8 text) = fromBase64 (QString.toUtf8 text') → config = config'
  covers : ∀ key old, kernelPeers key = some old →
    ∃ text config, peers.value? text = some config ∧ fromBase64 (QString.toUtf8 text) = key ∧
      Covers config old

/-- The peers that the kernel holds of the interface of a service. -/
def Tunnel.kernelPeers (s : Tunnel) : Bytes → Option KernelPeer :=
  Network.kernelPeers s.kernel s.service.m_interfaceName

/-- Whether the interface of a service is up. -/
def Tunnel.InterfaceUp (s : Tunnel) : Prop :=
  ∃ interface, s.kernel (kernelName s.service.m_interfaceName) = some interface ∧
    interface.up = true

/-- The condition on a call. -/
def Attentive (reader : AddressReader) (s : Tunnel) : TunnelEvent × TunnelIo → Prop
  | (.startTunnel interfaceName virtualIp privateKeyBase64 _, io) =>
      let name := effectiveName interfaceName
      Ends reader s.kernel io name virtualIp privateKeyBase64 →
        (privateKeyBase64 = "" →
          Mirrors reader s.service.m_peers (kernelPeers s.kernel name)) ∧
        (privateKeyBase64 ≠ "" →
          Mirrorable reader s.service.m_peers (kernelPeers s.kernel name))
  | (.stopTunnel, _) => True
  | (.addPeer text ip endpoint keepalive, io) =>
      let config := peerConfig reader text ip endpoint keepalive
      isValidBase64Key text = true → isSubnetValid reader ip = true →
        (s.service.m_status = .Up → io.device.lookup = true → io.device.request = true →
          Readable reader endpoint ∧
          (∀ old, s.kernelPeers config.publicKey = some old → Covers config old) ∧
          ∀ text' config', s.service.m_peers.value? text' = some config' → text' ≠ text →
            fromBase64 (QString.toUtf8 text') = fromBase64 (QString.toUtf8 text) →
              config' = config) ∧
        (s.service.m_status ≠ .Up → ¬ s.InterfaceUp)
  | (.removePeer text, io) =>
      s.service.m_status = .Up → (s.service.m_peers.value? text).isSome = true →
        (io.device.lookup = true ∧ io.device.request = true) ∧
        ∀ text', (s.service.m_peers.value? text').isSome = true → text' ≠ text →
          fromBase64 (QString.toUtf8 text') ≠ fromBase64 (QString.toUtf8 text)

/-- **The invariant.** While the tunnel is up, the kernel mirrors the peers. -/
structure Synced (reader : AddressReader) (s : Tunnel) : Prop where
  made : ∀ text config, s.service.m_peers.value? text = some config → Made text config
  present : s.service.m_status = .Up →
    (s.kernel (kernelName s.service.m_interfaceName)).isSome = true
  mirrors : s.service.m_status = .Up → Mirrors reader s.service.m_peers s.kernelPeers

/-! ### What a call keeps -/

section Calls

variable {t : TunnelTurn} {io : TunnelIo}

lemma status_setStatus (status : TunnelStatus) :
    (t.setStatus status).service.m_status = status := by
  rw [setStatus]
  split_ifs with h
  · rfl
  · exact not_not.mp h

lemma status_setError (error : String) : (t.setError error).service.m_status = .Error :=
  status_setStatus _

/-- The peers and the name are kept. -/
def Keeps (t t' : TunnelTurn) : Prop :=
  t'.service.m_peers = t.service.m_peers ∧
    t'.service.m_interfaceName = t.service.m_interfaceName ∧ t'.kernel = t.kernel

lemma keeps_setStatus (status : TunnelStatus) : Keeps t (t.setStatus status) := by
  rw [setStatus]
  split_ifs
  · exact ⟨rfl, rfl, rfl⟩
  · exact ⟨rfl, rfl, rfl⟩

lemma keeps_setError (error : String) : Keeps t (t.setError error) := by
  have h := keeps_setStatus (t := { t with service.m_lastError := error }) .Error
  exact h

/-- The peers of the request that gives all of them. -/
lemma mirrors_foldl {table : QMap String WireGuardPeerConfig}
    (hmade : ∀ text config, table.value? text = some config → Made text config)
    (h : Mirrorable reader table peers) :
    Mirrors reader table
      ((table.toList.map Prod.snd).foldl (configurePeer reader) peers) := by
  have hmem : ∀ config, config ∈ table.toList.map Prod.snd ↔
      ∃ text, table.value? text = some config := by
    intro config
    simp only [List.mem_map, Prod.exists, QMap.mem_toList, exists_eq_right]
  have hagree : Agree (table.toList.map Prod.snd) := by
    intro config hconfig config' hconfig' hkey
    obtain ⟨text, htext⟩ := (hmem config).mp hconfig
    obtain ⟨text', htext'⟩ := (hmem config').mp hconfig'
    rw [(hmade _ _ htext).key, (hmade _ _ htext').key] at hkey
    exact h.agree text config text' config' htext htext' hkey
  constructor
  · intro text config htext
    rw [← (hmade _ _ htext).key]
    refine recorded_foldl hagree ((hmem config).mpr ⟨text, htext⟩) (hmade _ _ htext)
      (h.readable _ _ htext) fun old hold => ?_
    obtain ⟨text', config', htext', hkey, hcovers⟩ := h.covers _ old hold
    rw [(hmade _ _ htext).key] at hkey
    rwa [h.agree _ _ _ _ htext htext' hkey.symm]
  · intro key hkey
    by_contra hnone
    rw [foldl_configurePeer_of_notMem, Option.isSome_iff_exists] at hkey
    · obtain ⟨old, hold⟩ := hkey
      obtain ⟨text, config, htext, hkey, _⟩ := h.covers _ old hold
      exact hnone ⟨text, config, htext, hkey⟩
    · rintro config hconfig rfl
      obtain ⟨text, htext⟩ := (hmem config).mp hconfig
      exact hnone ⟨text, config, htext, (hmade _ _ htext).key.symm⟩

/-- A start does not touch the table of the peers. -/
lemma table_bringUp : (t.bringUp reader io).1.service.m_peers = t.service.m_peers := by
  simp only [bringUp]
  split
  · exact (keeps_setError _).1
  · split
    · exact (keeps_setError _).1
    · exact (keeps_setStatus _).1

lemma table_establish {privateKeyBase64 : String} :
    (t.establish reader io privateKeyBase64).1.service.m_peers = t.service.m_peers := by
  have hafter : ∀ kernel, (t.afterCreate kernel).service.m_peers = t.service.m_peers := by
    intro kernel
    rw [afterCreate]
    split_ifs <;> rfl
  simp only [establish]
  split
  · exact (keeps_setError _).1
  · split_ifs
    · split
      · exact (keeps_setError _).1.trans (hafter _)
      · exact table_bringUp.trans (hafter _)
    · exact table_bringUp.trans (hafter _)

/-- An interface with its peers, behind a turn. -/
structure Risen (t t' : TunnelTurn) (peers : Bytes → Option KernelPeer) : Prop where
  name : t'.service.m_interfaceName = t.service.m_interfaceName
  peers : kernelPeers t'.kernel t.service.m_interfaceName = peers
  present : (t'.kernel (kernelName t.service.m_interfaceName)).isSome = true

lemma bringUp_up (h : (t.bringUp reader io).1.service.m_status = .Up) :
    (io.address.lookup = true ∧ reader.inetPton t.service.m_virtualIp = true ∧
        io.address.request = true) ∧
      (io.link.lookup = true ∧ io.link.request = true) ∧
      Risen t (t.bringUp reader io).1 (kernelPeers t.kernel t.service.m_interfaceName) := by
  simp only [bringUp] at h ⊢
  cases haddress : setInterfaceAddress reader t.kernel io.address t.service.m_interfaceName
      t.service.m_virtualIp with
  | error errStr =>
      rw [haddress] at h
      exact absurd ((status_setError _).symm.trans h) (by simp)
  | ok kernel =>
      rw [haddress] at h
      obtain rfl := setInterfaceAddress_ok haddress
      dsimp only at h ⊢
      cases hup : setInterfaceUp (t.setKernel t.kernel).kernel io.link t.service.m_interfaceName
          true with
      | error errStr =>
          rw [hup] at h
          exact absurd ((status_setError _).symm.trans h) (by simp)
      | ok kernel' =>
          obtain ⟨hanswer, hpeers, hpresent⟩ := setInterfaceUp_ok hup
          obtain ⟨_, hname, hkernel⟩ :=
            keeps_setStatus (t := (t.setKernel t.kernel).setKernel kernel') .Up
          refine ⟨setInterfaceAddress_answers haddress, hanswer, hname, ?_, ?_⟩
          · exact (congrArg (kernelPeers · _) hkernel).trans hpeers
          · exact (congrArg (fun kernel : Kernel => (kernel _).isSome) hkernel).trans hpresent

/-- **The end of `startTunnel`.** Where the tunnel is up behind it, its calls have
succeeded, and the peers were given to the interface if there was a key. -/
lemma establish_up {privateKeyBase64 : String}
    (h : (t.establish reader io privateKeyBase64).1.service.m_status = .Up) :
    (io.create.request = true ∨
        interfaceExists t.kernel t.service.m_interfaceName io.create.lookup = true) ∧
      (privateKeyBase64 ≠ "" → io.device.lookup = true ∧ io.device.request = true) ∧
      (io.address.lookup = true ∧ reader.inetPton t.service.m_virtualIp = true ∧
        io.address.request = true) ∧
      (io.link.lookup = true ∧ io.link.request = true) ∧
      Risen t (t.establish reader io privateKeyBase64).1
        (if privateKeyBase64 ≠ "" then
          (t.service.m_peers.toList.map Prod.snd).foldl (configurePeer reader)
            (kernelPeers t.kernel t.service.m_interfaceName)
        else kernelPeers t.kernel t.service.m_interfaceName) := by
  simp only [establish] at h ⊢
  cases hcreate : createInterface t.kernel io.create t.service.m_interfaceName with
  | error errStr =>
      rw [hcreate] at h
      exact absurd ((status_setError _).symm.trans h) (by simp)
  | ok kernel =>
      rw [hcreate] at h
      dsimp only at h ⊢
      obtain ⟨hanswer, hpeers⟩ := createInterface_ok hcreate
      obtain ⟨u, hu⟩ : ∃ u, u = (t.afterCreate kernel).setOwn
          (!interfaceExists t.kernel t.service.m_interfaceName io.existing) := ⟨_, rfl⟩
      have hfields : u.service.m_peers = t.service.m_peers ∧
          u.service.m_interfaceName = t.service.m_interfaceName ∧
          u.service.m_virtualIp = t.service.m_virtualIp ∧ u.kernel = kernel := by
        rw [hu, setOwn, afterCreate]
        split_ifs
        · exact ⟨rfl, rfl, rfl, rfl⟩
        · exact ⟨rfl, rfl, rfl, rfl⟩
      rw [← hu] at h ⊢
      obtain ⟨htable, hname, hip, hkernel⟩ := hfields
      by_cases hkey : privateKeyBase64 = ""
      · rw [if_neg (not_not.mpr hkey)] at h ⊢
        obtain ⟨haddress, hlink, hrisen⟩ := bringUp_up h
        rw [hip] at haddress
        refine ⟨hanswer, fun hne => absurd hkey hne, haddress, hlink,
          hrisen.name.trans hname, ?_, ?_⟩
        · rw [if_neg (not_not.mpr hkey), ← hpeers, ← hname, ← hkernel]
          exact hrisen.peers
        · rw [← hname]
          exact hrisen.present
      · rw [if_pos hkey] at h ⊢
        cases hdevice : setWireGuardDevice reader u.kernel io.device t.service.m_interfaceName
            (u.service.m_peers.toList.map Prod.snd) with
        | error errStr =>
            rw [hdevice] at h
            exact absurd ((status_setError _).symm.trans h) (by simp)
        | ok kernel' =>
            rw [hdevice] at h
            dsimp only at h ⊢
            obtain ⟨hgiven, hpeers', _⟩ := setWireGuardDevice_ok hdevice
            obtain ⟨haddress, hlink, hrisen⟩ := bringUp_up h
            have hip' : (u.setKernel kernel').service.m_virtualIp = t.service.m_virtualIp := hip
            have hname' : (u.setKernel kernel').service.m_interfaceName =
                t.service.m_interfaceName := hname
            rw [hip'] at haddress
            refine ⟨hanswer, fun _ => hgiven, haddress, hlink, hrisen.name.trans hname, ?_, ?_⟩
            · rw [if_pos hkey, ← hpeers, ← hkernel, ← htable, ← hpeers', ← hname']
              exact hrisen.peers
            · rw [← hname']
              exact hrisen.present

end Calls

/-! ### One peer -/

section Peers

variable {table : QMap String WireGuardPeerConfig}

lemma made_peerConfig {ip endpoint : String} {keepalive : UInt16}
    (hkey : isValidBase64Key text = true) (hip : isSubnetValid reader ip = true) :
    Made text (peerConfig reader text ip endpoint keepalive) := by
  refine ⟨rfl, ?_, rfl, ?_⟩
  · rw [isValidBase64Key, Bool.and_eq_true, decide_eq_true_eq, decide_eq_true_eq,
      fromBase64_trimmed] at hkey
    exact hkey.2
  · rw [isSubnetValid] at hip
    split at hip
    · rename_i address _ haddress _
      refine ⟨address, ?_⟩
      rw [peerConfig, haddress]
    · cases hip

/-- One more peer, in the table and in the kernel. -/
lemma mirrors_insert (hmade : Made text config) (h : Mirrors reader table peers)
    (hreadable : Readable reader config.endpoint)
    (hcovers : ∀ old, peers config.publicKey = some old → Covers config old)
    (hagree : ∀ text' config', table.value? text' = some config' → text' ≠ text →
      fromBase64 (QString.toUtf8 text') = fromBase64 (QString.toUtf8 text) → config' = config) :
    Mirrors reader (table.insert text config) (configurePeer reader peers config) := by
  have hrecorded : ∃ peer, configurePeer reader peers config config.publicKey = some peer ∧
      Recorded reader config peer := by
    refine ⟨_, configurePeer_self hmade, recorded_configured hmade hreadable ?_⟩
    cases hold : peers config.publicKey with
    | none => exact covers_default
    | some old => exact hcovers old hold
  constructor
  · intro text' config' htext'
    rw [QMap.value?_insert] at htext'
    by_cases hkey : fromBase64 (QString.toUtf8 text') = config.publicKey
    · have hsame : config' = config := by
        split_ifs at htext' with heq
        · exact (Option.some_inj.mp htext').symm
        · exact hagree text' config' htext' (Ne.symm heq) (hkey.trans hmade.key)
      rw [hkey, hsame]
      exact hrecorded
    · split_ifs at htext' with heq
      · rw [← heq] at hkey
        exact absurd hmade.key.symm hkey
      · rw [configurePeer_of_ne hkey]
        exact h.held text' config' htext'
  · intro key hpeer
    by_cases hkey : key = config.publicKey
    · exact ⟨text, config, QMap.value?_insert_self .., (hkey.trans hmade.key).symm⟩
    · rw [configurePeer_of_ne hkey] at hpeer
      obtain ⟨text', config', htext', hkey'⟩ := h.known key hpeer
      refine ⟨text', config', ?_, hkey'⟩
      rw [QMap.value?_insert_of_ne _ ?_]
      · exact htext'
      · rintro rfl
        exact hkey (hkey'.symm.trans hmade.key.symm)

/-- One peer less, in the table and in the kernel. -/
lemma mirrors_erase (h : Mirrors reader table peers)
    (hother : ∀ text', (table.value? text').isSome = true → text' ≠ text →
      fromBase64 (QString.toUtf8 text') ≠ fromBase64 (QString.toUtf8 text)) :
    Mirrors reader (table.erase text)
      (Function.update peers (fromBase64 (QString.toUtf8 text)) none) := by
  constructor
  · intro text' config' htext'
    rw [QMap.value?_erase] at htext'
    split_ifs at htext' with heq
    have hne := hother text' (by rw [htext']; rfl) (Ne.symm heq)
    rw [Function.update_of_ne hne]
    exact h.held text' config' htext'
  · intro key hpeer
    by_cases hkey : key = fromBase64 (QString.toUtf8 text)
    · rw [hkey, Function.update_self] at hpeer
      cases hpeer
    · rw [Function.update_of_ne hkey] at hpeer
      obtain ⟨text', config', htext', hkey'⟩ := h.known key hpeer
      refine ⟨text', config', ?_, hkey'⟩
      rw [QMap.value?_erase_of_ne _ ?_]
      · exact htext'
      · rintro rfl
        exact hkey hkey'.symm

end Peers

/-! ### Runs -/

section Steps

variable {io : TunnelIo} {s : Tunnel}

lemma synced_of_not_up {t : TunnelTurn} (h : t.service.m_status ≠ .Up)
    (hmade : ∀ text config, t.service.m_peers.value? text = some config → Made text config) :
    Synced reader ⟨t.service, t.kernel⟩ :=
  ⟨hmade, fun hup => absurd hup h, fun hup => absurd hup h⟩

/-- A start gives the interface its peers, or finds them there. -/
lemma synced_startTunnel {interfaceName virtualIp privateKeyBase64 : String}
    {listenPort : UInt16} (hsynced : Synced reader s)
    (hattentive : Attentive reader s
      (.startTunnel interfaceName virtualIp privateKeyBase64 listenPort, io)) :
    Synced reader ⟨(s.react reader io
        (.startTunnel interfaceName virtualIp privateKeyBase64 listenPort)).service,
      (s.react reader io
        (.startTunnel interfaceName virtualIp privateKeyBase64 listenPort)).kernel⟩ := by
  obtain ⟨u, hu, _, _, hname, hkernel, _⟩ := renamed interfaceName virtualIp listenPort s
  have htable : u.service.m_peers = s.service.m_peers := by
    rw [hu, (keeps_setStatus _).1]
    rfl
  have hip : u.service.m_virtualIp = if virtualIp = "" then "10.77.0.2" else virtualIp := by
    rw [hu, setStatus]
    split <;> rfl
  have hmade : ∀ text config, u.service.m_peers.value? text = some config → Made text config := by
    rw [htable]
    exact hsynced.made
  rw [Tunnel.react]
  have hcases := startTunnel_cases reader io interfaceName virtualIp privateKeyBase64 listenPort
    ⟨s.service, s.kernel, []⟩
  rw [← hu] at hcases
  rcases hcases with ⟨_, error, hfailed⟩ | ⟨hreaches, hestablish⟩
  · rw [hfailed]
    refine synced_of_not_up (by rw [status_setError]; decide) ?_
    rw [(keeps_setError error).1]
    exact hmade
  · have hmade' : ∀ text config,
        (u.establish reader io privateKeyBase64).1.service.m_peers.value? text = some config →
          Made text config := by
      rw [table_establish]
      exact hmade
    rw [hestablish]
    by_cases hup : (u.establish reader io privateKeyBase64).1.service.m_status = .Up
    · obtain ⟨hcreate, hdevice, haddress, hlink, hrisen⟩ := establish_up hup
      rw [hname, hkernel] at hcreate
      rw [hip] at haddress
      obtain ⟨hfound, hgiven⟩ := hattentive ⟨hreaches, hcreate, hdevice, haddress, hlink⟩
      refine ⟨hmade', fun _ => ?_, fun _ => ?_⟩
      · rw [hrisen.name]
        exact hrisen.present
      · rw [Tunnel.kernelPeers]
        dsimp only
        rw [hrisen.name, hrisen.peers, table_establish, hname, hkernel, htable]
        split_ifs with hkey
        · exact mirrors_foldl hsynced.made (hgiven hkey)
        · exact hfound (not_not.mp hkey)
    · exact synced_of_not_up hup hmade'

/-- An `addPeer` that succeeds records the peer. -/
lemma addPeer_ok {ip endpoint : String} {keepalive : UInt16}
    (h : (TunnelTurn.addPeer reader io text ip endpoint keepalive
      ⟨s.service, s.kernel, []⟩).2 = true) :
    (TunnelTurn.addPeer reader io text ip endpoint keepalive
        ⟨s.service, s.kernel, []⟩).1.service =
      { s.service with
        m_peers := s.service.m_peers.insert text (peerConfig reader text ip endpoint keepalive) } :=
      by
  simp only [addPeer] at h ⊢
  split_ifs at h ⊢
  · cases hdevice : setWireGuardDevice reader s.kernel io.device s.service.m_interfaceName
        [peerConfig reader text ip endpoint keepalive] with
    | error errStr =>
        rw [hdevice] at h
        cases h
    | ok kernel => rfl
  · rfl

lemma synced_addPeer {ip endpoint : String} {keepalive : UInt16} (hsynced : Synced reader s)
    (hattentive : Attentive reader s (.addPeer text ip endpoint keepalive, io)) :
    Synced reader ⟨(s.react reader io (.addPeer text ip endpoint keepalive)).service,
      (s.react reader io (.addPeer text ip endpoint keepalive)).kernel⟩ := by
  have hfailed : ∀ error, Synced reader
      ⟨(TunnelTurn.setError error ⟨s.service, s.kernel, []⟩).service,
        (TunnelTurn.setError error ⟨s.service, s.kernel, []⟩).kernel⟩ := by
    intro error
    refine synced_of_not_up (by rw [status_setError]; decide) ?_
    rw [(keeps_setError error).1]
    exact hsynced.made
  have hmade : ∀ text' config', isValidBase64Key text = true → isSubnetValid reader ip = true →
      QMap.value? (s.service.m_peers.insert text (peerConfig reader text ip endpoint keepalive))
        text' = some config' → Made text' config' := by
    intro text' config' hkey hip htext'
    rw [QMap.value?_insert] at htext'
    split_ifs at htext' with heq
    · rw [← heq, ← Option.some_inj.mp htext']
      exact made_peerConfig hkey hip
    · exact hsynced.made _ _ htext'
  simp only [Tunnel.react, addPeer]
  split_ifs with hkey hip hup
  · exact hfailed _
  · exact hfailed _
  · cases hdevice : setWireGuardDevice reader s.kernel io.device s.service.m_interfaceName
        [peerConfig reader text ip endpoint keepalive] with
    | error errStr => exact hfailed _
    | ok kernel =>
        have hkey' : isValidBase64Key text = true := by simpa using hkey
        have hip' : isSubnetValid reader ip = true := by simpa using hip
        obtain ⟨⟨hlookup, hrequest⟩, hpeers, hpresent⟩ := setWireGuardDevice_ok hdevice
        obtain ⟨hreadable, hcovers, hagree⟩ :=
          (hattentive hkey' hip').1 hup hlookup hrequest
        refine ⟨fun text' config' => hmade text' config' hkey' hip', fun _ => hpresent,
          fun _ => ?_⟩
        have hpeers' : kernelPeers kernel s.service.m_interfaceName =
            configurePeer reader s.kernelPeers (peerConfig reader text ip endpoint keepalive) :=
          hpeers
        have hmirrors := mirrors_insert (made_peerConfig hkey' hip') (hsynced.mirrors hup)
          hreadable hcovers hagree
        rw [← hpeers'] at hmirrors
        exact hmirrors
  · exact synced_of_not_up hup fun text' config' =>
      hmade text' config' (by simpa using hkey) (by simpa using hip)

lemma synced_removePeer (hsynced : Synced reader s)
    (hattentive : Attentive reader s (.removePeer text, io)) :
    Synced reader ⟨(s.react reader io (.removePeer text)).service,
      (s.react reader io (.removePeer text)).kernel⟩ := by
  have hmade : ∀ text' config', QMap.value? (s.service.m_peers.erase text) text' = some config' →
      Made text' config' := by
    intro text' config' htext'
    rw [QMap.value?_erase] at htext'
    split_ifs at htext'
    exact hsynced.made _ _ htext'
  simp only [Tunnel.react, removePeer]
  split_ifs with habsent hup
  · exact hsynced
  · have hrecorded : (s.service.m_peers.value? text).isSome = true :=
      Option.isSome_iff_ne_none.mpr (by simpa using habsent)
    obtain ⟨⟨hlookup, hrequest⟩, hother⟩ := hattentive hup hrecorded
    obtain ⟨kernel, hdevice⟩ := setWireGuardDevice_of_answers reader
      [{ publicKey := fromBase64 (QString.toUtf8 text), remove := true }] hlookup hrequest
      (hsynced.present hup)
    rw [hdevice]
    obtain ⟨_, hpeers, hpresent⟩ := setWireGuardDevice_ok hdevice
    obtain ⟨config, hconfig⟩ := Option.isSome_iff_exists.mp hrecorded
    have hlength : (fromBase64 (QString.toUtf8 text)).length = 32 := by
      rw [← (hsynced.made _ _ hconfig).key]
      exact (hsynced.made _ _ hconfig).length
    refine ⟨hmade, fun _ => hpresent, fun _ => ?_⟩
    have hremoved : kernelPeers kernel s.service.m_interfaceName =
        Function.update s.kernelPeers (fromBase64 (QString.toUtf8 text)) none := by
      rw [hpeers, List.foldl_cons, List.foldl_nil, configurePeer, if_neg (not_not.mpr hlength)]
      rfl
    have hmirrors := mirrors_erase (hsynced.mirrors hup) hother
    rw [← hremoved] at hmirrors
    exact hmirrors
  · exact synced_of_not_up hup hmade

/-- Behind `stopTunnel` the tunnel is down. -/
lemma synced_stopTunnel (hsynced : Synced reader s) :
    Synced reader
      ⟨(s.react reader io .stopTunnel).service, (s.react reader io .stopTunnel).kernel⟩ := by
  have hdown : ∀ t : TunnelTurn,
      Synced reader ⟨((t.setPeers ∅).setStatus .Down).service,
        ((t.setPeers ∅).setStatus .Down).kernel⟩ := by
    intro t
    refine synced_of_not_up (by rw [status_setStatus]; decide) ?_
    rw [(keeps_setStatus _).1]
    intro text config htext
    rw [TunnelTurn.setPeers, QMap.value?_empty] at htext
    cases htext
  simp only [Tunnel.react, stopTunnel]
  split_ifs
  · exact hsynced
  · exact hdown _
  · exact hdown _
  · exact hdown _

/-- **One call.** -/
lemma synced_step {e : TunnelEvent} (hsynced : Synced reader s)
    (hattentive : Attentive reader s (e, io)) :
    Synced reader ⟨(s.react reader io e).service, (s.react reader io e).kernel⟩ := by
  cases e with
  | startTunnel interfaceName virtualIp privateKeyBase64 listenPort =>
      exact synced_startTunnel hsynced hattentive
  | stopTunnel => exact synced_stopTunnel hsynced
  | addPeer text ip endpoint keepalive => exact synced_addPeer hsynced hattentive
  | removePeer text => exact synced_removePeer hsynced hattentive

/-- A peer that is added while the interface is up is configured. -/
lemma configured_addPeer {ip endpoint : String} {keepalive : UInt16}
    (hsynced : Synced reader s)
    (hattentive : Attentive reader s (.addPeer text ip endpoint keepalive, io))
    (hinterface : s.InterfaceUp)
    (h : (TunnelTurn.addPeer reader io text ip endpoint keepalive
      ⟨s.service, s.kernel, []⟩).2 = true) :
    ∃ peer, kernelPeers (TunnelTurn.addPeer reader io text ip endpoint keepalive
        ⟨s.service, s.kernel, []⟩).1.kernel s.service.m_interfaceName
        (fromBase64 (QString.toUtf8 text)) = some peer ∧
      Recorded reader (peerConfig reader text ip endpoint keepalive) peer := by
  have hvalid : isValidBase64Key text = true ∧ isSubnetValid reader ip = true := by
    simp only [addPeer] at h
    split_ifs at h with hkey hip
    all_goals exact ⟨by simpa using hkey, by simpa using hip⟩
  have hup : s.service.m_status = .Up := by
    by_contra hup
    exact (hattentive hvalid.1 hvalid.2).2 hup hinterface
  have hservice := addPeer_ok h
  have hmirrors := (synced_addPeer hsynced hattentive).mirrors
  rw [Tunnel.react, Tunnel.kernelPeers, hservice] at hmirrors
  exact (hmirrors hup).held text _ (QMap.value?_insert_self ..)

end Steps

variable {kernel : Kernel} {es : List (TunnelEvent × TunnelIo)} {log : List TunnelDeed}
  {s : Tunnel}

lemma synced_of_run
    (hrun : Run (WireGuardService.machine reader) (Attentive reader) { kernel } es log s) :
    Synced reader s := by
  refine hrun.invariant ⟨?_, nofun, nofun⟩ fun s e hsynced hattentive => ?_
  · intro text config htext
    rw [QMap.value?_empty] at htext
    cases htext
  · exact synced_step hsynced hattentive

/-- **The peer table mirrors the kernel.** Along attentive runs, while the tunnel is up
the kernel holds exactly the recorded peers, and a peer that is added while the interface
is up is configured. -/
theorem peer_table_mirrors_kernel
    (hrun : Run (WireGuardService.machine reader) (Attentive reader) { kernel } es log s) :
    (s.service.m_status = .Up → Mirrors reader s.service.m_peers s.kernelPeers) ∧
      ∀ text ip endpoint keepalive io,
        Attentive reader s (.addPeer text ip endpoint keepalive, io) → s.InterfaceUp →
        (TunnelTurn.addPeer reader io text ip endpoint keepalive
          ⟨s.service, s.kernel, []⟩).2 = true →
        ∃ peer, kernelPeers (TunnelTurn.addPeer reader io text ip endpoint keepalive
            ⟨s.service, s.kernel, []⟩).1.kernel s.service.m_interfaceName
            (fromBase64 (QString.toUtf8 text)) = some peer ∧
          Recorded reader (peerConfig reader text ip endpoint keepalive) peer := by
  have hsynced := synced_of_run hrun
  exact ⟨hsynced.mirrors, fun _ _ _ _ _ hattentive hinterface h =>
    configured_addPeer hsynced hattentive hinterface h⟩

/-! ### A run -/

/-- The text of a key of 32 zeros. -/
def zeroKey : String := "AAAAAAAAAAAAAAAAAAAAAAAAAAAAAAAAAAAAAAAAAAA="

/-- A peer is added, and a tunnel started with a private key. -/
def startWithPeer (privateKeyBase64 : String) : List (TunnelEvent × TunnelIo) :=
  [(.addPeer zeroKey "10.77.0.3" "" 25, {}),
    (.startTunnel "wg-meckchat" "10.77.0.2" privateKeyBase64 0, {})]

/-- The tunnel behind this. -/
def startedWithPeer (privateKeyBase64 : String) : Tunnel :=
  ((WireGuardService.machine someReader).exec { kernel := fun _ => none }
    (startWithPeer privateKeyBase64)).2

/-- The table behind the first call. -/
def oneEntry : QMap String WireGuardPeerConfig :=
  (∅ : QMap String WireGuardPeerConfig).insert zeroKey
    (peerConfig someReader zeroKey "10.77.0.3" "" 25)

lemma oneEntry_eq {config : WireGuardPeerConfig} (h : oneEntry.value? text = some config) :
    config = peerConfig someReader zeroKey "10.77.0.3" "" 25 := by
  rw [oneEntry, QMap.value?_insert, QMap.value?_empty] at h
  split_ifs at h
  exact (Option.some_inj.mp h).symm

/-- The first call. -/
lemma step_zeroKey :
    ((WireGuardService.machine someReader).step { kernel := fun _ => none }
      (.addPeer zeroKey "10.77.0.3" "" 25, {})).1 =
        { service := { m_peers := oneEntry }, kernel := fun _ => none } := by
  have hkey : isValidBase64Key zeroKey = true := by decide +kernel
  have hip : isSubnetValid someReader "10.77.0.3" = true := by decide +kernel
  simp only [WireGuardService.machine, Tunnel.react, addPeer, hkey, hip]
  rfl

lemma mirrorable_oneEntry : Mirrorable someReader oneEntry fun _ => none := by
  refine ⟨fun text config h => ?_, fun text config text' config' h h' _ => ?_, nofun⟩
  · rw [oneEntry_eq h]
    exact Or.inl rfl
  · rw [oneEntry_eq h, oneEntry_eq h']

theorem peer_table_mirrors_kernel_startWithPeer :
    (startedWithPeer zeroKey).service.m_status = .Up ∧
      (startedWithPeer zeroKey).service.m_peers.keys = [zeroKey] ∧
      Mirrors someReader (startedWithPeer zeroKey).service.m_peers
        (startedWithPeer zeroKey).kernelPeers := by
  have hup : (startedWithPeer zeroKey).service.m_status = .Up := by decide +kernel
  have hattentive : (WireGuardService.machine someReader).Allows (Attentive someReader)
      { kernel := fun _ => none } (startWithPeer zeroKey) := by
    refine ⟨fun _ _ => ⟨nofun, fun _ => nofun⟩, ?_, trivial⟩
    rw [step_zeroKey]
    exact fun _ => ⟨fun h => absurd h (by decide), fun _ => mirrorable_oneEntry⟩
  exact ⟨hup, by decide +kernel, (peer_table_mirrors_kernel (Run.exec hattentive)).1 hup⟩

/-- Without a private key the interface is not given its peers. -/
theorem up_without_peers :
    (startedWithPeer "").service.m_status = .Up ∧
      ¬ Mirrors someReader (startedWithPeer "").service.m_peers
        (startedWithPeer "").kernelPeers := by
  refine ⟨by decide +kernel, fun h => ?_⟩
  have hrecorded : ((startedWithPeer "").service.m_peers.value? zeroKey).isSome = true := by
    decide +kernel
  have hnone : (startedWithPeer "").kernelPeers (fromBase64 (QString.toUtf8 zeroKey)) = none := by
    decide +kernel
  obtain ⟨config, hconfig⟩ := Option.isSome_iff_exists.mp hrecorded
  obtain ⟨peer, hpeer, _⟩ := h.held zeroKey config hconfig
  rw [hnone] at hpeer
  cases hpeer

end MeckChat.Network
