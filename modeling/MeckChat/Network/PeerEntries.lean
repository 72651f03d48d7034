import MeckChat.Network.PeerTable

/-!
The entries of the peer table, and what a refused `addPeer` leaves behind.

* `Accepts` is what `addPeer` checks: the key, the address and, while the tunnel is up, the
  answer of the kernel. `addPeer_of_accepts` and `addPeer_of_not_accepts` are its two outcomes.
* `refused_keeps_iff`: a refusal leaves the peers and the kernel alone, and the status exactly
  where it was `Error` before.
* `PeerEntries` is the representation invariant of the table, and `Distinct` the condition on a
  call under which `entries_of_run` keeps it: an accepted peer has no key and no address of
  another entry.
-/

namespace MeckChat.Network

open QByteArray TunnelTurn

variable (reader : AddressReader)

/-! ### Refusals -/

/-- What `addPeer` checks. -/
structure Accepts (io : TunnelIo) (s : Tunnel) (text ip endpoint : String) (keepalive : UInt16) :
    Prop where
  key : isValidBase64Key text = true
  address : isSubnetValid reader ip = true
  kernel : s.service.m_status = .Up →
    ∃ kernel, setWireGuardDevice reader s.kernel io.device s.service.m_interfaceName
      [peerConfig reader text ip endpoint keepalive] = .ok kernel

/-- What a call leaves as it was. -/
structure Unchanged (s : Tunnel) (t : TunnelTurn) : Prop where
  status : t.service.m_status = s.service.m_status
  peers : t.service.m_peers = s.service.m_peers
  kernel : t.kernel = s.kernel

variable {reader} {io : TunnelIo} {s : Tunnel} {text ip endpoint : String} {keepalive : UInt16}

/-- An accepted peer is entered. -/
lemma addPeer_of_accepts (h : Accepts reader io s text ip endpoint keepalive) :
    (TunnelTurn.addPeer reader io text ip endpoint keepalive
      ⟨s.service, s.kernel, []⟩).2 = true := by
  have hkey : ¬ (!isValidBase64Key text) = true := by simp [h.key]
  have hip : ¬ (!isSubnetValid reader ip) = true := by simp [h.address]
  rw [addPeer, if_neg hkey, if_neg hip]
  by_cases hup : s.service.m_status = .Up
  · obtain ⟨kernel, hkernel⟩ := h.kernel hup
    dsimp only
    rw [if_pos hup, hkernel]
  · dsimp only
    rw [if_neg hup]

/-- Every other call reports an error and returns. -/
lemma addPeer_of_not_accepts (h : ¬ Accepts reader io s text ip endpoint keepalive) :
    ∃ error, TunnelTurn.addPeer reader io text ip endpoint keepalive ⟨s.service, s.kernel, []⟩ =
      (TunnelTurn.setError error ⟨s.service, s.kernel, []⟩, false) := by
  rw [addPeer]
  by_cases hkey : isValidBase64Key text = true
  swap
  · exact ⟨_, if_pos (by simp [hkey])⟩
  rw [if_neg (by simp [hkey])]
  by_cases hip : isSubnetValid reader ip = true
  swap
  · exact ⟨_, if_pos (by simp [hip])⟩
  rw [if_neg (by simp [hip])]
  by_cases hup : s.service.m_status = .Up
  swap
  · exact absurd ⟨hkey, hip, fun hup' => absurd hup' hup⟩ h
  dsimp only
  rw [if_pos hup]
  cases hdevice : setWireGuardDevice reader s.kernel io.device s.service.m_interfaceName
      [peerConfig reader text ip endpoint keepalive] with
  | error errStr => exact ⟨_, rfl⟩
  | ok kernel => exact absurd ⟨hkey, hip, fun _ => ⟨kernel, hdevice⟩⟩ h

/-- **A refused `addPeer`.** It leaves the status, the peers and the kernel as they were exactly
where it is not refused at all, or the status was `Error` already: the one thing a refusal
changes is the status. -/
theorem refused_keeps_iff (reader : AddressReader) (io : TunnelIo) (s : Tunnel)
    (text ip endpoint : String) (keepalive : UInt16) :
    ((TunnelTurn.addPeer reader io text ip endpoint keepalive
          ⟨s.service, s.kernel, []⟩).2 = false →
        Unchanged s (TunnelTurn.addPeer reader io text ip endpoint keepalive
          ⟨s.service, s.kernel, []⟩).1) ↔
      Accepts reader io s text ip endpoint keepalive ∨ s.service.m_status = .Error := by
  by_cases h : Accepts reader io s text ip endpoint keepalive
  · rw [addPeer_of_accepts h]
    exact ⟨fun _ => .inl h, fun _ => nofun⟩
  · obtain ⟨error, herror⟩ := addPeer_of_not_accepts h
    obtain ⟨hpeers, -, hkernel⟩ := keeps_setError (t := ⟨s.service, s.kernel, []⟩) error
    have hstatus := status_setError (t := ⟨s.service, s.kernel, []⟩) error
    rw [herror]
    constructor
    · intro hkeeps
      right
      rw [← (hkeeps rfl).status]
      exact hstatus
    · intro hbefore _
      exact ⟨hstatus.trans (hbefore.resolve_left h).symm, hpeers, hkernel⟩

/-- A tunnel is started. -/
def startWithoutKey : List (TunnelEvent × TunnelIo) :=
  [(.startTunnel "wg-meckchat" "10.77.0.2" "" 0, {})]

/-- **A bad key takes the tunnel out of `Up`.** -/
theorem refusal_changes_status :
    ¬ ∀ es log s, Run (WireGuardService.machine someReader) (fun _ _ => True)
        { kernel := fun _ => none } es log s →
      ∀ text ip endpoint keepalive io,
        (TunnelTurn.addPeer someReader io text ip endpoint keepalive
          ⟨s.service, s.kernel, []⟩).2 = false →
        Unchanged s (TunnelTurn.addPeer someReader io text ip endpoint keepalive
          ⟨s.service, s.kernel, []⟩).1 := by
  intro h
  have hall : ∀ s e, (fun (_ : Tunnel) (_ : TunnelEvent × TunnelIo) => True) s e :=
    fun _ _ => trivial
  have hrun := Run.exec ((WireGuardService.machine someReader).allows_of_forall hall
    { kernel := fun _ => none } startWithoutKey)
  have hkeeps := h _ _ _ hrun "" "10.77.0.3" "" 25 {} (by decide +kernel)
  have hup : ((WireGuardService.machine someReader).exec { kernel := fun _ => none }
      startWithoutKey).2.service.m_status = .Up := by decide +kernel
  have herror : (TunnelTurn.addPeer someReader {} "" "10.77.0.3" "" 25
      ⟨((WireGuardService.machine someReader).exec { kernel := fun _ => none }
        startWithoutKey).2.service, ((WireGuardService.machine someReader).exec
        { kernel := fun _ => none } startWithoutKey).2.kernel, []⟩).1.service.m_status =
      .Error := by decide +kernel
  have hstatus := hkeeps.status
  rw [herror, hup] at hstatus
  cases hstatus

/-! ### The representation invariant -/

/-- A host address of 10.77.0.0/16. -/
structure IsHost (address : UInt32) : Prop where
  subnet : address &&& 0xFFFF0000 = 0x0A4D0000
  ne_network : address ≠ 0x0A4D0000
  ne_broadcast : address ≠ 0x0A4DFFFF

/-- An entry of the table. -/
structure WellFormed (config : WireGuardPeerConfig) : Prop where
  key : config.publicKey.length = 32
  address : ∃ address, config.allowedIps = [⟨.ipv4 address, 32⟩] ∧ IsHost address

/-- **The representation invariant of the peer table.** -/
structure PeerEntries (peers : QMap String WireGuardPeerConfig) : Prop where
  entry : ∀ text config, peers.value? text = some config → WellFormed config
  keys : ∀ text config text' config', peers.value? text = some config →
    peers.value? text' = some config' → text ≠ text' → config.publicKey ≠ config'.publicKey
  addresses : ∀ text config text' config', peers.value? text = some config →
    peers.value? text' = some config' → text ≠ text' → config.allowedIps ≠ config'.allowedIps

/-- The condition on a call: a peer that is accepted has neither the key nor the address of an
entry under another text. -/
def Distinct (reader : AddressReader) (s : Tunnel) : TunnelEvent × TunnelIo → Prop
  | (.addPeer text ip endpoint keepalive, io) =>
      Accepts reader io s text ip endpoint keepalive →
        ∀ text' config', s.service.m_peers.value? text' = some config' → text' ≠ text →
          config'.publicKey ≠ fromBase64 (QString.toUtf8 text) ∧
            config'.allowedIps ≠ [⟨reader.hostAddress ip, 32⟩]
  | _ => True

/-- What the subnet test says about an address. -/
lemma isHost_of_isSubnetValid (hsubnet : reader.hostAddress "10.77.0.0" = .ipv4 0x0A4D0000)
    (h : isSubnetValid reader ip = true) :
    ∃ address, reader.hostAddress ip = .ipv4 address ∧ IsHost address := by
  rw [isSubnetValid, hsubnet] at h
  cases haddress : reader.hostAddress ip with
  | null =>
      rw [haddress] at h
      cases h
  | ipv6 =>
      rw [haddress] at h
      cases h
  | ipv4 address =>
      rw [haddress] at h
      simp only [Bool.and_eq_true, decide_eq_true_eq] at h
      obtain ⟨⟨hnet, hzero⟩, hones⟩ := h
      refine ⟨address, rfl, hnet, ?_, ?_⟩
      · rintro rfl
        exact hzero (by decide)
      · rintro rfl
        exact hones (by decide)

lemma wellFormed_peerConfig (hsubnet : reader.hostAddress "10.77.0.0" = .ipv4 0x0A4D0000)
    (hkey : isValidBase64Key text = true) (hip : isSubnetValid reader ip = true) :
    WellFormed (peerConfig reader text ip endpoint keepalive) := by
  obtain ⟨address, haddress, hhost⟩ := isHost_of_isSubnetValid hsubnet hip
  refine ⟨(made_peerConfig hkey hip).length, address, ?_, hhost⟩
  rw [peerConfig, haddress]

lemma peerEntries_empty : PeerEntries ∅ := by
  refine ⟨fun text config h => ?_, fun text config text' config' h => ?_,
    fun text config text' config' h => ?_⟩
  · rw [QMap.value?_empty] at h
    cases h
  · rw [QMap.value?_empty] at h
    cases h
  · rw [QMap.value?_empty] at h
    cases h

/-- Fewer entries. -/
lemma PeerEntries.erase {peers : QMap String WireGuardPeerConfig} (h : PeerEntries peers)
    (text : String) : PeerEntries (peers.erase text) := by
  have hsub : ∀ text' config, QMap.value? (peers.erase text) text' = some config →
      peers.value? text' = some config := by
    intro text' config hvalue
    rw [QMap.value?_erase] at hvalue
    split_ifs at hvalue
    exact hvalue
  exact ⟨fun t c hc => h.entry t c (hsub t c hc),
    fun t c t' c' hc hc' => h.keys t c t' c' (hsub t c hc) (hsub t' c' hc'),
    fun t c t' c' hc hc' => h.addresses t c t' c' (hsub t c hc) (hsub t' c' hc')⟩

/-- One more entry, or another one under the same text. -/
lemma PeerEntries.insert {peers : QMap String WireGuardPeerConfig} {config : WireGuardPeerConfig}
    (h : PeerEntries peers) (hconfig : WellFormed config)
    (hnew : ∀ text' config', peers.value? text' = some config' → text' ≠ text →
      config'.publicKey ≠ config.publicKey ∧ config'.allowedIps ≠ config.allowedIps) :
    PeerEntries (peers.insert text config) := by
  refine ⟨fun t c hc => ?_, fun t c t' c' hc hc' hne => ?_, fun t c t' c' hc hc' hne => ?_⟩
  · rw [QMap.value?_insert] at hc
    split_ifs at hc with ht
    · rw [← Option.some_inj.mp hc]
      exact hconfig
    · exact h.entry t c hc
  · rw [QMap.value?_insert] at hc hc'
    split_ifs at hc hc' with ht ht'
    · exact absurd (ht.symm.trans ht') hne
    · rw [← Option.some_inj.mp hc]
      exact (hnew t' c' hc' (Ne.symm ht')).1.symm
    · rw [← Option.some_inj.mp hc']
      exact (hnew t c hc (Ne.symm ht)).1
    · exact h.keys t c t' c' hc hc' hne
  · rw [QMap.value?_insert] at hc hc'
    split_ifs at hc hc' with ht ht'
    · exact absurd (ht.symm.trans ht') hne
    · rw [← Option.some_inj.mp hc]
      exact (hnew t' c' hc' (Ne.symm ht')).2.symm
    · rw [← Option.some_inj.mp hc']
      exact (hnew t c hc (Ne.symm ht)).2
    · exact h.addresses t c t' c' hc hc' hne

/-- A start does not touch the table. -/
lemma table_startTunnel (interfaceName virtualIp privateKeyBase64 : String) (listenPort : UInt16) :
    (s.react reader io (.startTunnel interfaceName virtualIp privateKeyBase64
      listenPort)).service.m_peers = s.service.m_peers := by
  have hrenamed : ((TunnelTurn.rename interfaceName virtualIp listenPort
      ⟨s.service, s.kernel, []⟩).setStatus .Configuring).service.m_peers = s.service.m_peers :=
    (keeps_setStatus _).1
  rw [Tunnel.react]
  rcases startTunnel_cases reader io interfaceName virtualIp privateKeyBase64 listenPort
    ⟨s.service, s.kernel, []⟩ with ⟨-, error, hfailed⟩ | ⟨-, hestablish⟩
  · rw [hfailed, (keeps_setError error).1, hrenamed]
  · rw [hestablish, table_establish, hrenamed]

/-- A stop clears the table, unless the tunnel is down. -/
lemma table_stopTunnel :
    (s.react reader io .stopTunnel).service.m_peers = s.service.m_peers ∨
      (s.react reader io .stopTunnel).service.m_peers = ∅ := by
  have hcleared : ∀ t : TunnelTurn, ((t.setPeers ∅).setStatus .Down).service.m_peers = ∅ :=
    fun _ => (keeps_setStatus _).1
  simp only [Tunnel.react, stopTunnel]
  split_ifs
  · exact .inl rfl
  · exact .inr (hcleared _)
  · exact .inr (hcleared _)
  · exact .inr (hcleared _)

/-- `removePeer` takes one entry out, if it is there. -/
lemma table_removePeer :
    (s.react reader io (.removePeer text)).service.m_peers = s.service.m_peers ∨
      (s.react reader io (.removePeer text)).service.m_peers = s.service.m_peers.erase text := by
  simp only [Tunnel.react, removePeer]
  split_ifs
  · exact .inl rfl
  · split <;> exact .inr rfl
  · exact .inr rfl

/-- **One call** on the table. -/
lemma PeerEntries.step (hsubnet : reader.hostAddress "10.77.0.0" = .ipv4 0x0A4D0000)
    {e : TunnelEvent} (h : PeerEntries s.service.m_peers) (hdistinct : Distinct reader s (e, io)) :
    PeerEntries (s.react reader io e).service.m_peers := by
  cases e with
  | startTunnel interfaceName virtualIp privateKeyBase64 listenPort =>
      rw [table_startTunnel]
      exact h
  | stopTunnel =>
      have hcases : (s.react reader io .stopTunnel).service.m_peers = s.service.m_peers ∨
          (s.react reader io .stopTunnel).service.m_peers = ∅ := table_stopTunnel
      rcases hcases with hsame | hcleared
      · rw [hsame]
        exact h
      · rw [hcleared]
        exact peerEntries_empty
  | addPeer text ip endpoint keepalive =>
      rw [Tunnel.react]
      by_cases haccepts : Accepts reader io s text ip endpoint keepalive
      · rw [addPeer_ok (addPeer_of_accepts haccepts)]
        exact h.insert (wellFormed_peerConfig hsubnet haccepts.key haccepts.address)
          (hdistinct haccepts)
      · obtain ⟨error, herror⟩ := addPeer_of_not_accepts haccepts
        rw [herror, (keeps_setError error).1]
        exact h
  | removePeer text =>
      have hcases : (s.react reader io (.removePeer text)).service.m_peers = s.service.m_peers ∨
          (s.react reader io (.removePeer text)).service.m_peers =
            s.service.m_peers.erase text := table_removePeer
      rcases hcases with hsame | herased
      · rw [hsame]
        exact h
      · rw [herased]
        exact h.erase text

/-- **The entries of the peer table.** Where no call enters the key or the address of another
entry, distinct entries have distinct keys of 32 bytes and distinct host addresses of the subnet,
in every state reached. -/
theorem entries_of_run {kernel : Kernel} {es : List (TunnelEvent × TunnelIo)}
    {log : List TunnelDeed} (hsubnet : reader.hostAddress "10.77.0.0" = .ipv4 0x0A4D0000)
    (hrun : Run (WireGuardService.machine reader) (Distinct reader) { kernel } es log s) :
    PeerEntries s.service.m_peers :=
  hrun.invariant (I := fun s => PeerEntries s.service.m_peers) peerEntries_empty
    fun _ _ h hdistinct => h.step hsubnet hdistinct

/-- Two peers. -/
def twoPeers (text ip : String) : List (TunnelEvent × TunnelIo) :=
  [(.addPeer zeroKey "10.77.0.3" "" 25, {}), (.addPeer text ip "" 25, {})]

/-- The tunnel behind this. -/
def withTwoPeers (text ip : String) : Tunnel :=
  ((WireGuardService.machine someReader).exec { kernel := fun _ => none } (twoPeers text ip)).2

/-- The text of a key of 31 zeros and a one. -/
def oneKey : String := "AAAAAAAAAAAAAAAAAAAAAAAAAAAAAAAAAAAAAAAAAAE="

theorem entries_of_run_two_peers :
    PeerEntries (withTwoPeers oneKey "10.77.0.2").service.m_peers ∧
      (withTwoPeers oneKey "10.77.0.2").service.m_peers.keys = [zeroKey, oneKey] := by
  have hdistinct : (WireGuardService.machine someReader).Allows (Distinct someReader)
      { kernel := fun _ => none } (twoPeers oneKey "10.77.0.2") := by
    refine ⟨fun _ text' config' h => ?_, ?_, trivial⟩
    · rw [QMap.value?_empty] at h
      cases h
    · rw [step_zeroKey]
      intro _ text' config' h _
      rw [oneEntry_eq h]
      exact ⟨by decide +kernel, by decide +kernel⟩
  exact ⟨entries_of_run (by decide) (Run.exec hdistinct), by decide +kernel⟩

/-- **Two texts of one key.** The table is keyed by the text, and Base64 text may leave out its
padding. -/
theorem two_texts_of_one_key :
    ¬ ∀ es log s, Run (WireGuardService.machine someReader) (fun _ _ => True)
        { kernel := fun _ => none } es log s → PeerEntries s.service.m_peers := by
  intro h
  have hall : ∀ s e, (fun (_ : Tunnel) (_ : TunnelEvent × TunnelIo) => True) s e :=
    fun _ _ => trivial
  have hrun := Run.exec ((WireGuardService.machine someReader).allows_of_forall hall
    { kernel := fun _ => none } (twoPeers "AAAAAAAAAAAAAAAAAAAAAAAAAAAAAAAAAAAAAAAAAAA" "10.77.0.2"))
  obtain ⟨-, hkeys, -⟩ := h _ _ _ hrun
  have hkey : ∀ text ∈ [zeroKey, "AAAAAAAAAAAAAAAAAAAAAAAAAAAAAAAAAAAAAAAAAAA"],
      ((withTwoPeers "AAAAAAAAAAAAAAAAAAAAAAAAAAAAAAAAAAAAAAAAAAA"
        "10.77.0.2").service.m_peers.value? text).map (·.publicKey) =
          some (List.replicate 32 0) :=
    List.forall_iff_forall_mem.mp (by decide +kernel)
  obtain ⟨config, hconfig, hzero⟩ := Option.map_eq_some_iff.mp (hkey zeroKey (by simp))
  obtain ⟨config', hconfig', hzero'⟩ := Option.map_eq_some_iff.mp
    (hkey "AAAAAAAAAAAAAAAAAAAAAAAAAAAAAAAAAAAAAAAAAAA" (by simp))
  exact hkeys _ config _ config' hconfig hconfig' (by decide) (hzero.trans hzero'.symm)

end MeckChat.Network
