import MeckChat.Network.WireGuardService

/-!
Which interfaces the tunnel service creates and deletes.

* `owned` reads off a log which interfaces the service has created and not deleted,
  and `Rightful` says that it deletes no others.
* `Quiet` is a part of a call that creates and deletes nothing; `establish_cases` says
  what the rest of `startTunnel` does, `stopTunnel_cases` what `stopTunnel` does.
* `Careful` is the condition on a call under which the one flag and the one name of the
  service are enough, and `Accounted` the invariant: the flag is set exactly while an
  interface is owned, and it is the one with the name.
* `interface_ownership`: along careful runs nothing foreign is deleted, and nothing is
  left behind.
-/

namespace MeckChat.Network

/-! ### What a log says about interfaces -/

/-- Whether a deed creates or deletes an interface. -/
def TunnelDeed.isMove : TunnelDeed → Bool
  | .created _ => true
  | .deleted _ => true
  | _ => false

/-- What is owned after one more deed. -/
def ownedStep (names : List String) : TunnelDeed → List String
  | .created name => name :: names
  | .deleted name => names.filter (· ≠ name)
  | _ => names

/-- The interfaces that were created and not deleted since. -/
def owned (log : List TunnelDeed) : List String := log.foldl ownedStep []

/-- Starting with some interfaces owned, nothing is deleted that is not owned. -/
def RightfulFrom : List String → List TunnelDeed → Prop
  | _, [] => True
  | names, d :: log =>
      (∀ name, d = .deleted name → name ∈ names) ∧ RightfulFrom (ownedStep names d) log

/-- Nothing is deleted that is not owned. -/
def Rightful (log : List TunnelDeed) : Prop := RightfulFrom [] log

lemma owned_append (log deeds : List TunnelDeed) :
    owned (log ++ deeds) = (deeds.filter TunnelDeed.isMove).foldl ownedStep (owned log) := by
  rw [owned, List.foldl_append, ← owned]
  generalize owned log = names
  induction deeds generalizing names with
  | nil => rfl
  | cons d deeds ih => cases d <;> exact ih _

lemma rightfulFrom_filter {names : List String} {deeds : List TunnelDeed} :
    RightfulFrom names deeds ↔ RightfulFrom names (deeds.filter TunnelDeed.isMove) := by
  induction deeds generalizing names with
  | nil => exact Iff.rfl
  | cons d deeds ih =>
      cases d with
      | created name => exact and_congr Iff.rfl ih
      | deleted name => exact and_congr Iff.rfl ih
      | statusChanged status => exact ⟨fun h => ih.mp h.2, fun h => ⟨nofun, ih.mpr h⟩⟩
      | errorOccurred error => exact ⟨fun h => ih.mp h.2, fun h => ⟨nofun, ih.mpr h⟩⟩
      | peerAdded key => exact ⟨fun h => ih.mp h.2, fun h => ⟨nofun, ih.mpr h⟩⟩
      | peerRemoved key => exact ⟨fun h => ih.mp h.2, fun h => ⟨nofun, ih.mpr h⟩⟩

lemma rightfulFrom_append {names : List String} {log deeds : List TunnelDeed} :
    RightfulFrom names (log ++ deeds) ↔
      RightfulFrom names log ∧ RightfulFrom (log.foldl ownedStep names) deeds := by
  induction log generalizing names with
  | nil => exact (true_and _).symm.to_iff
  | cons d log ih =>
      rw [List.cons_append, RightfulFrom, RightfulFrom, ih, and_assoc]
      rfl

/-! ### What a call does to the interfaces -/

namespace TunnelTurn

/-- The interfaces that were created and deleted in a turn. -/
def moves (t : TunnelTurn) : List TunnelDeed := t.deeds.filter TunnelDeed.isMove

/-- A part of a call that creates and deletes nothing. -/
structure Quiet (t t' : TunnelTurn) : Prop where
  moves : t'.moves = t.moves
  own : t'.service.m_interfaceCreatedByUs = t.service.m_interfaceCreatedByUs
  name : t'.service.m_interfaceName = t.service.m_interfaceName
  present : ∀ name, (t'.kernel name).isSome = (t.kernel name).isSome
  awake : t.service.m_status ≠ .Down → t'.service.m_status ≠ .Down

variable {t t' t'' : TunnelTurn} {reader : AddressReader} {io : TunnelIo}

lemma Quiet.refl (t : TunnelTurn) : Quiet t t := ⟨rfl, rfl, rfl, fun _ => rfl, id⟩

lemma Quiet.trans (h : Quiet t t') (h' : Quiet t' t'') : Quiet t t'' :=
  ⟨h'.moves.trans h.moves, h'.own.trans h.own, h'.name.trans h.name,
    fun name => (h'.present name).trans (h.present name), h'.awake ∘ h.awake⟩

lemma moves_log (d : TunnelDeed) :
    (t.log d).moves = t.moves ++ [d].filter TunnelDeed.isMove := List.filter_append _ _

lemma quiet_log {d : TunnelDeed} (h : d.isMove = false) : Quiet t (t.log d) := by
  refine ⟨?_, rfl, rfl, fun _ => rfl, id⟩
  rw [moves_log, List.filter_singleton, h]
  exact List.append_nil _

lemma quiet_setStatus (status : TunnelStatus) (h : status ≠ .Down) :
    Quiet t (t.setStatus status) := by
  have hstatus : Quiet t { t with service.m_status := status } :=
    ⟨rfl, rfl, rfl, fun _ => rfl, fun _ => h⟩
  rw [setStatus]
  split_ifs
  · exact hstatus.trans (quiet_log rfl)
  · exact Quiet.refl t

lemma quiet_setError (error : String) : Quiet t (t.setError error) := by
  have herror : Quiet t { t with service.m_lastError := error } :=
    ⟨rfl, rfl, rfl, fun _ => rfl, id⟩
  exact (herror.trans (quiet_setStatus _ (by decide))).trans (quiet_log rfl)

lemma quiet_setPeers (peers : QMap String WireGuardPeerConfig) : Quiet t (t.setPeers peers) :=
  ⟨rfl, rfl, rfl, fun _ => rfl, id⟩

lemma quiet_setKernel {kernel : Kernel}
    (h : ∀ name, (kernel name).isSome = (t.kernel name).isSome) : Quiet t (t.setKernel kernel) :=
  ⟨rfl, rfl, rfl, h, id⟩

lemma isSome_update {kernel : Kernel} {name : String} {old new : KernelInterface}
    (h : kernel name = some old) (a : String) :
    (Function.update kernel name (some new) a).isSome = (kernel a).isSome := by
  by_cases ha : a = name
  · rw [ha, Function.update_self, h]
    rfl
  · rw [Function.update_of_ne ha]

/-- The calls that only configure an interface leave the set of interfaces alone. -/
lemma isSome_setInterfaceUp {kernel kernel' : Kernel} {answer : KernelAnswer} {ifName : String}
    {up : Bool} (h : setInterfaceUp kernel answer ifName up = .ok kernel') (a : String) :
    (kernel' a).isSome = (kernel a).isSome := by
  rw [setInterfaceUp] at h
  split at h
  · rename_i hinterface
    split_ifs at h
    obtain rfl := Except.ok.inj h
    exact isSome_update hinterface a
  · cases h

lemma isSome_setWireGuardDevice {kernel kernel' : Kernel} {answer : KernelAnswer}
    {ifName : String} {peers : List WireGuardPeerConfig}
    (h : setWireGuardDevice reader kernel answer ifName peers = .ok kernel') (a : String) :
    (kernel' a).isSome = (kernel a).isSome := by
  rw [setWireGuardDevice] at h
  split_ifs at h
  cases hinterface : kernel (kernelName ifName) with
  | none =>
      rw [hinterface] at h
      cases h
  | some interface =>
      rw [hinterface] at h
      obtain rfl := Except.ok.inj h
      exact isSome_update hinterface a

lemma setInterfaceAddress_ok {kernel kernel' : Kernel} {answer : KernelAnswer}
    {ifName virtualIp : String}
    (h : setInterfaceAddress reader kernel answer ifName virtualIp = .ok kernel') :
    kernel' = kernel := by
  rw [setInterfaceAddress] at h
  split_ifs at h
  exact (Except.ok.inj h).symm

lemma quiet_bringUp : Quiet t (t.bringUp reader io).1 := by
  simp only [bringUp]
  cases haddress : setInterfaceAddress reader t.kernel io.address t.service.m_interfaceName
      t.service.m_virtualIp with
  | error errStr => exact quiet_setError _
  | ok kernel =>
      obtain rfl := setInterfaceAddress_ok haddress
      simp only
      cases hup : setInterfaceUp (t.setKernel t.kernel).kernel io.link t.service.m_interfaceName
          true with
      | error errStr => exact quiet_setError _
      | ok kernel' =>
          exact (quiet_setKernel (isSome_setInterfaceUp hup)).trans (quiet_setStatus _ (by decide))

lemma quiet_bringDown : Quiet t (t.bringDown io) := by
  rw [bringDown]
  cases hdown : setInterfaceUp t.kernel io.link t.service.m_interfaceName false with
  | error errStr => exact Quiet.refl t
  | ok kernel => exact quiet_setKernel (isSome_setInterfaceUp hdown)

lemma quiet_addPeer {key ip endpoint : String} {keepalive : UInt16} :
    Quiet t (t.addPeer reader io key ip endpoint keepalive).1 := by
  have hadded : ∀ t : TunnelTurn, ∀ peers,
      Quiet t ((t.setPeers peers).log (.peerAdded key)) :=
    fun t peers => (quiet_setPeers peers).trans (quiet_log rfl)
  simp only [addPeer]
  split_ifs
  · exact quiet_setError _
  · exact quiet_setError _
  · cases hdevice : setWireGuardDevice reader t.kernel io.device t.service.m_interfaceName
        [peerConfig reader key ip endpoint keepalive] with
    | error errStr => exact quiet_setError _
    | ok kernel => exact (quiet_setKernel (isSome_setWireGuardDevice hdevice)).trans (hadded _ _)
  · exact hadded _ _

lemma quiet_removePeer {key : String} : Quiet t (t.removePeer reader io key) := by
  have hremoved : ∀ t : TunnelTurn, ∀ peers,
      Quiet t ((t.setPeers peers).log (.peerRemoved key)) :=
    fun t peers => (quiet_setPeers peers).trans (quiet_log rfl)
  simp only [removePeer]
  split_ifs
  · exact Quiet.refl t
  · cases hdevice : setWireGuardDevice reader t.kernel io.device t.service.m_interfaceName
        [{ publicKey := QByteArray.fromBase64 (QString.toUtf8 key), remove := true }] with
    | error errStr => exact hremoved _ _
    | ok kernel => exact (quiet_setKernel (isSome_setWireGuardDevice hdevice)).trans (hremoved _ _)
  · exact hremoved _ _

/-- The rest of `establish`, behind the creation. -/
lemma quiet_configure (reader : AddressReader) (io : TunnelIo) (privateKeyBase64 : String) :
    Quiet t (if privateKeyBase64 ≠ "" then
      match setWireGuardDevice reader t.kernel io.device t.service.m_interfaceName
        (t.service.m_peers.toList.map Prod.snd) with
      | .error errStr => (t.setError ("Failed to configure WireGuard device: " ++ errStr), false)
      | .ok kernel => (t.setKernel kernel).bringUp reader io
    else t.bringUp reader io).1 := by
  split_ifs
  · cases hdevice : setWireGuardDevice reader t.kernel io.device t.service.m_interfaceName
        (t.service.m_peers.toList.map Prod.snd) with
    | error errStr => exact quiet_setError _
    | ok kernel => exact (quiet_setKernel (isSome_setWireGuardDevice hdevice)).trans quiet_bringUp
  · exact quiet_bringUp

/-- **What the creation does**: nothing, or the flag is cleared because the interface was
there, or it is created and the flag set. -/
lemma establish_cases (reader : AddressReader) (privateKeyBase64 : String)
    (hlookup : io.existing = true ∨ t.kernel (kernelName t.service.m_interfaceName) = none) :
    Quiet t (t.establish reader io privateKeyBase64).1 ∨
      ((t.establish reader io privateKeyBase64).1.moves = t.moves ∧
        (t.establish reader io privateKeyBase64).1.service.m_interfaceCreatedByUs = false) ∨
      ((t.establish reader io privateKeyBase64).1.moves =
          t.moves ++ [.created (kernelName t.service.m_interfaceName)] ∧
        (t.establish reader io privateKeyBase64).1.service.m_interfaceCreatedByUs = true ∧
        (t.establish reader io privateKeyBase64).1.service.m_interfaceName =
          t.service.m_interfaceName ∧
        ((t.establish reader io privateKeyBase64).1.kernel
          (kernelName t.service.m_interfaceName)).isSome = true ∧
        (t.service.m_status ≠ .Down →
          (t.establish reader io privateKeyBase64).1.service.m_status ≠ .Down)) := by
  simp only [establish]
  cases hcreate : createInterface t.kernel io.create t.service.m_interfaceName with
  | error errStr => exact Or.inl (quiet_setError _)
  | ok kernel =>
      right
      dsimp only
      obtain ⟨u, hu⟩ : ∃ u, u = (t.afterCreate kernel).setOwn
          (!interfaceExists t.kernel t.service.m_interfaceName io.existing) := ⟨_, rfl⟩
      have hname : u.service.m_interfaceName = t.service.m_interfaceName := by
        rw [hu, setOwn, afterCreate]
        split_ifs <;> rfl
      have hrest := quiet_configure (t := u) reader io privateKeyBase64
      rw [hname] at hrest
      rw [← hu]
      rw [createInterface] at hcreate
      cases hold : t.kernel (kernelName t.service.m_interfaceName) with
      | some interface =>
          left
          have hkernel : kernel = t.kernel := by
            rw [hold] at hcreate
            split_ifs at hcreate
            · exact (Except.ok.inj hcreate).symm
            · exact (Except.ok.inj hcreate).symm
          have hexisting : io.existing = true := by
            rcases hlookup with h | h
            · exact h
            · rw [hold] at h
              cases h
          have hexists : interfaceExists t.kernel t.service.m_interfaceName io.existing = true := by
            rw [interfaceExists, hexisting, hold]
            rfl
          rw [hexists, afterCreate, hold] at hu
          refine ⟨hrest.moves.trans ?_, hrest.own.trans ?_⟩
          · rw [hu]
            rfl
          · rw [hu]
            rfl
      | none =>
          right
          have habsent : ∀ lookup,
              interfaceExists t.kernel t.service.m_interfaceName lookup = false := by
            intro lookup
            rw [interfaceExists, hold]
            exact Bool.and_false _
          rw [habsent, if_neg Bool.false_ne_true, hold] at hcreate
          split_ifs at hcreate
          obtain rfl := Except.ok.inj hcreate
          have hcreated : t.afterCreate (Function.update t.kernel
              (kernelName t.service.m_interfaceName) (some {})) =
              (t.setKernel (Function.update t.kernel (kernelName t.service.m_interfaceName)
                (some {}))).log (.created (kernelName t.service.m_interfaceName)) := by
            rw [afterCreate, hold, Function.update_self]
            rfl
          rw [hcreated, habsent] at hu
          refine ⟨hrest.moves.trans ?_, hrest.own.trans ?_, hrest.name.trans hname,
            (hrest.present _).trans ?_, fun h => hrest.awake ?_⟩
          · rw [hu]
            exact moves_log _
          · rw [hu]
            rfl
          · rw [hu]
            have hself : Function.update t.kernel (kernelName t.service.m_interfaceName) (some {})
                (kernelName t.service.m_interfaceName) = some {} := Function.update_self ..
            exact congrArg Option.isSome hself
          · rw [hu]
            exact h

/-- The end of `stopTunnel`. -/
lemma stopped (t : TunnelTurn) :
    ((t.setPeers ∅).setStatus .Down).moves = t.moves ∧
      ((t.setPeers ∅).setStatus .Down).service.m_interfaceCreatedByUs =
        t.service.m_interfaceCreatedByUs := by
  rw [setStatus]
  split_ifs
  · exact ⟨(moves_log _).trans (List.append_nil _), rfl⟩
  · exact ⟨rfl, rfl⟩

lemma stopTunnel_of_not_own (io : TunnelIo) (h : t.service.m_interfaceCreatedByUs = false) :
    (t.stopTunnel io).moves = t.moves ∧
      (t.stopTunnel io).service.m_interfaceCreatedByUs = false := by
  have hdown : Quiet t (t.bringDown io) := quiet_bringDown
  simp only [stopTunnel, hdown.own, h, Bool.false_eq_true, if_false]
  split_ifs with hstatus hexists
  · exact ⟨rfl, h⟩
  · exact ⟨(stopped _).1.trans hdown.moves, (stopped _).2.trans (hdown.own.trans h)⟩
  · exact ⟨(stopped t).1, (stopped t).2.trans h⟩

/-- An interface that is owned is deleted, if the lookups and the deletion succeed. -/
lemma stopTunnel_of_own (hown : t.service.m_interfaceCreatedByUs = true)
    (hstatus : t.service.m_status ≠ .Down)
    (hpresent : (t.kernel (kernelName t.service.m_interfaceName)).isSome = true)
    (hexisting : io.existing = true) (hlookup : io.delete.lookup = true)
    (hrequest : io.delete.request = true) :
    (t.stopTunnel io).moves = t.moves ++ [.deleted (kernelName t.service.m_interfaceName)] ∧
      (t.stopTunnel io).service.m_interfaceCreatedByUs = false := by
  have hdown : Quiet t (t.bringDown io) := quiet_bringDown
  have hexists : interfaceExists t.kernel t.service.m_interfaceName io.existing = true := by
    rw [interfaceExists, hexisting, hpresent]
    rfl
  have hpresent' : ((t.bringDown io).kernel
      (kernelName (t.bringDown io).service.m_interfaceName)).isSome = true := by
    rw [hdown.present, hdown.name, hpresent]
  have hdelete : deleteInterface (t.bringDown io).kernel io.delete
      (t.bringDown io).service.m_interfaceName =
        .ok (Function.update (t.bringDown io).kernel
          (kernelName (t.bringDown io).service.m_interfaceName) none) := by
    rw [deleteInterface, interfaceExists, hlookup, hpresent', hrequest]
    rfl
  have hdeleted : (t.bringDown io).afterDelete (Function.update (t.bringDown io).kernel
      (kernelName (t.bringDown io).service.m_interfaceName) none) =
        ((t.bringDown io).setKernel (Function.update (t.bringDown io).kernel
          (kernelName (t.bringDown io).service.m_interfaceName) none)).log
            (.deleted (kernelName t.service.m_interfaceName)) := by
    rw [afterDelete, hpresent', Function.update_self, hdown.name]
    rfl
  rw [stopTunnel, if_neg hstatus, if_pos hexists]
  simp only [hdown.own, hown, if_true, hdelete, hdeleted]
  constructor
  · rw [(stopped _).1]
    exact (moves_log _).trans (congrArg (· ++ _) hdown.moves)
  · exact (stopped _).2

end TunnelTurn

/-! ### Careful runs -/

open TunnelTurn

/-- The name that `startTunnel` sets. -/
def effectiveName (interfaceName : String) : String :=
  if interfaceName = "" then "wg-meckchat" else interfaceName

/-- Whether `startTunnel` gets as far as the creation of the interface. -/
def Reaches (reader : AddressReader) (io : TunnelIo) (virtualIp privateKeyBase64 : String) : Prop :=
  isSubnetValid reader (if virtualIp = "" then "10.77.0.2" else virtualIp) = true ∧
    (privateKeyBase64 = "" ∨ isValidBase64Key privateKeyBase64 = true) ∧ io.supported = true

/-- The condition on a call. While an interface is owned, `startTunnel` neither changes
the name nor gets as far as the creation, and `stopTunnel` succeeds; and the creation
does not overlook an interface. -/
def Careful (reader : AddressReader) (s : Tunnel) : TunnelEvent × TunnelIo → Prop
  | (.startTunnel interfaceName virtualIp privateKeyBase64 _, io) =>
      (s.service.m_interfaceCreatedByUs = true →
        effectiveName interfaceName = s.service.m_interfaceName ∧
          ¬ Reaches reader io virtualIp privateKeyBase64) ∧
      (Reaches reader io virtualIp privateKeyBase64 →
        io.existing = true ∨ s.kernel (kernelName (effectiveName interfaceName)) = none)
  | (.stopTunnel, io) =>
      s.service.m_interfaceCreatedByUs = true →
        io.existing = true ∧ io.delete.lookup = true ∧ io.delete.request = true
  | _ => True

/-- **The invariant.** The flag is set exactly while an interface is owned, and it is the
one with the name. -/
structure Accounted (log : List TunnelDeed) (s : Tunnel) : Prop where
  own : s.service.m_interfaceCreatedByUs = true →
    s.service.m_status ≠ .Down ∧ owned log = [kernelName s.service.m_interfaceName] ∧
      (s.kernel (kernelName s.service.m_interfaceName)).isSome = true
  free : s.service.m_interfaceCreatedByUs = false → owned log = []

/-- A turn with its log, behind the calls before it. -/
def Accounts (log : List TunnelDeed) (t : TunnelTurn) : Prop :=
  Accounted (log ++ t.deeds) ⟨t.service, t.kernel⟩ ∧ Rightful (log ++ t.deeds)

section Steps

variable {reader : AddressReader} {io : TunnelIo} {log : List TunnelDeed} {s : Tunnel}

lemma owned_turn {t : TunnelTurn} :
    owned (log ++ t.deeds) = t.moves.foldl ownedStep (owned log) := owned_append _ _

lemma rightful_turn {t : TunnelTurn} (h : Rightful log) :
    Rightful (log ++ t.deeds) ↔ RightfulFrom (owned log) t.moves := by
  have hfilter : RightfulFrom (owned log) t.deeds ↔ RightfulFrom (owned log) t.moves :=
    rightfulFrom_filter
  rw [Rightful, rightfulFrom_append, ← owned, hfilter]
  exact and_iff_right h

/-- A call that moves nothing and lets the flag, the name and the interfaces be. -/
lemma accounts_of_quiet {t : TunnelTurn} (hacc : Accounted log s) (h : Rightful log)
    (hquiet : TunnelTurn.Quiet ⟨s.service, s.kernel, []⟩ t) : Accounts log t := by
  have hmoves : t.moves = [] := hquiet.moves
  refine ⟨⟨fun hown => ?_, fun hown => ?_⟩, ?_⟩
  · obtain ⟨hstatus, howned, hpresent⟩ := hacc.own (hquiet.own.symm.trans hown)
    refine ⟨hquiet.awake hstatus, ?_, ?_⟩
    · rw [owned_turn, hmoves]
      exact howned.trans (congrArg (fun name => [kernelName name]) hquiet.name.symm)
    · exact (hquiet.present _).trans ((congrArg (fun name =>
        (s.kernel (kernelName name)).isSome) hquiet.name).trans hpresent)
  · rw [owned_turn, hmoves]
    exact hacc.free (hquiet.own.symm.trans hown)
  · rw [rightful_turn h, hmoves]
    trivial

/-- A call behind which nothing is owned, and that moved nothing before that. -/
lemma accounts_of_free {t : TunnelTurn} (h : Rightful log) (howned : owned log = [])
    (hmoves : t.moves = []) (hown : t.service.m_interfaceCreatedByUs = false) :
    Accounts log t := by
  refine ⟨⟨fun h => ?_, fun _ => ?_⟩, ?_⟩
  · rw [hown] at h
    cases h
  · rw [owned_turn, hmoves]
    exact howned
  · rw [rightful_turn h, hmoves]
    trivial

/-- `startTunnel` with its checks: it fails one of them, or goes on to the creation. -/
lemma startTunnel_cases (reader : AddressReader) (io : TunnelIo)
    (interfaceName virtualIp privateKeyBase64 : String) (listenPort : UInt16) (t : TunnelTurn) :
    (¬ Reaches reader io virtualIp privateKeyBase64 ∧ ∃ error,
      (t.startTunnel reader io interfaceName virtualIp privateKeyBase64 listenPort).1 =
        ((t.rename interfaceName virtualIp listenPort).setStatus .Configuring).setError error) ∨
    (Reaches reader io virtualIp privateKeyBase64 ∧
      t.startTunnel reader io interfaceName virtualIp privateKeyBase64 listenPort =
        ((t.rename interfaceName virtualIp listenPort).setStatus .Configuring).establish
          reader io privateKeyBase64) := by
  have hip : ((t.rename interfaceName virtualIp listenPort).setStatus
      .Configuring).service.m_virtualIp = if virtualIp = "" then "10.77.0.2" else virtualIp := by
    generalize hrenamed : t.rename interfaceName virtualIp listenPort = u
    rw [setStatus]
    split
    · exact (congrArg (·.service.m_virtualIp) hrenamed).symm
    · exact (congrArg (·.service.m_virtualIp) hrenamed).symm
  simp only [startTunnel, hip, Reaches]
  by_cases hvalid : isSubnetValid reader (if virtualIp = "" then "10.77.0.2" else virtualIp) = true
  · by_cases hkey : privateKeyBase64 = "" ∨ isValidBase64Key privateKeyBase64 = true
    · have hkey' : ¬ (privateKeyBase64 ≠ "" ∧ (!isValidBase64Key privateKeyBase64) = true) := by
        simpa [or_iff_not_imp_left] using hkey
      by_cases hsupported : io.supported = true
      · right
        rw [hvalid, hsupported, if_neg hkey']
        exact ⟨⟨rfl, hkey, rfl⟩, rfl⟩
      · left
        refine ⟨fun h => hsupported h.2.2, ?_⟩
        rw [hvalid, if_neg hkey', Bool.eq_false_iff.mpr hsupported]
        exact ⟨_, rfl⟩
    · left
      have hkey' : privateKeyBase64 ≠ "" ∧ (!isValidBase64Key privateKeyBase64) = true := by
        simpa using hkey
      refine ⟨fun h => hkey h.2.1, ?_⟩
      rw [hvalid, if_pos hkey']
      exact ⟨_, rfl⟩
  · left
    refine ⟨fun h => hvalid h.1, ?_⟩
    rw [Bool.eq_false_iff.mpr hvalid]
    exact ⟨_, rfl⟩

/-- What the assignments at the start of `startTunnel` leave behind. -/
lemma renamed (interfaceName virtualIp : String) (listenPort : UInt16) (s : Tunnel) :
    ∃ u : TunnelTurn, u = (TunnelTurn.rename interfaceName virtualIp listenPort
        ⟨s.service, s.kernel, []⟩).setStatus .Configuring ∧
      u.moves = [] ∧ u.service.m_interfaceCreatedByUs = s.service.m_interfaceCreatedByUs ∧
      u.service.m_interfaceName = effectiveName interfaceName ∧ u.kernel = s.kernel ∧
      u.service.m_status ≠ .Down := by
  refine ⟨_, rfl, ?_⟩
  have hquiet := quiet_setStatus (t := TunnelTurn.rename interfaceName virtualIp listenPort
    ⟨s.service, s.kernel, []⟩) .Configuring (by decide)
  refine ⟨hquiet.moves, hquiet.own, hquiet.name, ?_, ?_⟩
  · rw [setStatus]
    split_ifs <;> rfl
  · rw [setStatus]
    split_ifs with hstatus
    · exact nofun
    · rw [not_not.mp hstatus]
      exact nofun

lemma accounts_startTunnel {interfaceName virtualIp privateKeyBase64 : String}
    {listenPort : UInt16} (hacc : Accounted log s) (h : Rightful log)
    (hcareful : Careful reader s
      (.startTunnel interfaceName virtualIp privateKeyBase64 listenPort, io)) :
    Accounts log (s.react reader io
      (.startTunnel interfaceName virtualIp privateKeyBase64 listenPort)) := by
  obtain ⟨hkeep, hlookup⟩ := hcareful
  obtain ⟨u, hu, hmoves, hown, hname, hkernel, hstatus⟩ :=
    renamed interfaceName virtualIp listenPort s
  rw [Tunnel.react]
  have hcases := startTunnel_cases reader io interfaceName virtualIp privateKeyBase64 listenPort
    ⟨s.service, s.kernel, []⟩
  rw [← hu] at hcases
  rcases hcases with ⟨hfails, error, hfailed⟩ | ⟨hreaches, hestablish⟩
  · have hquiet := quiet_setError (t := u) error
    rw [hfailed]
    cases hcase : s.service.m_interfaceCreatedByUs with
    | true =>
        -- the name is the one that is owned
        have hsame : TunnelTurn.Quiet ⟨s.service, s.kernel, []⟩ u :=
          ⟨hmoves, hown, hname.trans (hkeep hcase).1, fun name => by rw [hkernel],
            fun _ => hstatus⟩
        exact accounts_of_quiet hacc h (hsame.trans hquiet)
    | false =>
        exact accounts_of_free h (hacc.free hcase) (hquiet.moves.trans hmoves)
          (hquiet.own.trans (hown.trans hcase))
  · have hcase : s.service.m_interfaceCreatedByUs = false :=
      Bool.eq_false_iff.mpr fun hcase => (hkeep hcase).2 hreaches
    have hfree := hacc.free hcase
    rw [hestablish]
    have hlookup' : io.existing = true ∨
        u.kernel (kernelName u.service.m_interfaceName) = none := by
      rw [hname, hkernel]
      exact hlookup hreaches
    rcases establish_cases reader privateKeyBase64 hlookup' with
      hquiet | ⟨hsame, hown'⟩ | ⟨hcreated, hown', hname', hpresent, hawake⟩
    · exact accounts_of_free h hfree (hquiet.moves.trans hmoves)
        (hquiet.own.trans (hown.trans hcase))
    · exact accounts_of_free h hfree (hsame.trans hmoves) hown'
    · rw [hmoves, List.nil_append] at hcreated
      refine ⟨⟨fun _ => ⟨hawake hstatus, ?_, ?_⟩, fun hfalse => ?_⟩, ?_⟩
      · rw [owned_turn, hcreated, hfree]
        exact congrArg (fun name => [kernelName name]) hname'.symm
      · exact (congrArg (fun name => ((u.establish reader io privateKeyBase64).1.kernel
          (kernelName name)).isSome) hname').trans hpresent
      · exact absurd (hown'.symm.trans hfalse) nofun
      · rw [rightful_turn h, hcreated]
        exact ⟨nofun, trivial⟩

/-- Behind `stopTunnel` nothing is owned. -/
lemma accounts_stopTunnel (hacc : Accounted log s) (h : Rightful log)
    (hcareful : Careful reader s (.stopTunnel, io)) :
    Accounts log (s.react reader io .stopTunnel) ∧
      owned (log ++ (s.react reader io .stopTunnel).deeds) = [] := by
  rw [Tunnel.react]
  cases hcase : s.service.m_interfaceCreatedByUs with
  | true =>
      obtain ⟨hstatus, howned, hpresent⟩ := hacc.own hcase
      obtain ⟨hexisting, hlookup, hrequest⟩ := hcareful hcase
      obtain ⟨hmoves, hown⟩ := stopTunnel_of_own (t := ⟨s.service, s.kernel, []⟩) hcase hstatus
        hpresent hexisting hlookup hrequest
      have hmoves' : (TunnelTurn.stopTunnel io ⟨s.service, s.kernel, []⟩).moves =
          [.deleted (kernelName s.service.m_interfaceName)] := hmoves
      have hnone : owned (log ++ (TunnelTurn.stopTunnel io ⟨s.service, s.kernel, []⟩).deeds) =
          [] := by
        rw [owned_turn, hmoves', howned]
        simp [ownedStep]
      refine ⟨⟨⟨fun htrue => absurd (hown.symm.trans htrue) nofun, fun _ => hnone⟩, ?_⟩, hnone⟩
      rw [rightful_turn h, hmoves', howned]
      refine ⟨fun name hname => ?_, trivial⟩
      rw [← TunnelDeed.deleted.inj hname]
      exact List.mem_singleton_self _
  | false =>
      obtain ⟨hmoves, hown⟩ :=
        stopTunnel_of_not_own io (t := ⟨s.service, s.kernel, []⟩) hcase
      have hacc' := accounts_of_free h (hacc.free hcase) hmoves hown
      exact ⟨hacc', hacc'.1.free hown⟩

/-- **One call.** A careful call keeps the account. -/
lemma accounts_step {e : TunnelEvent} (hacc : Accounted log s) (h : Rightful log)
    (hcareful : Careful reader s (e, io)) : Accounts log (s.react reader io e) := by
  cases e with
  | startTunnel interfaceName virtualIp privateKeyBase64 listenPort =>
      exact accounts_startTunnel hacc h hcareful
  | stopTunnel => exact (accounts_stopTunnel hacc h hcareful).1
  | addPeer key ip endpoint keepalive => exact accounts_of_quiet hacc h quiet_addPeer
  | removePeer key => exact accounts_of_quiet hacc h quiet_removePeer

end Steps

variable {reader : AddressReader} {kernel : Kernel} {es : List (TunnelEvent × TunnelIo)}
  {log : List TunnelDeed} {s : Tunnel}

lemma accounted_of_run
    (hrun : Run (WireGuardService.machine reader) (Careful reader) { kernel } es log s) :
    Accounted log s ∧ Rightful log := by
  refine hrun.invariant_log (I := fun _ log s => Accounted log s ∧ Rightful log)
    ⟨⟨nofun, fun _ => rfl⟩, trivial⟩ ?_
  rintro es log s ⟨e, io⟩ ⟨hacc, h⟩ hcareful
  exact accounts_step hacc h hcareful

/-- **Ownership of interfaces.** Along careful runs the service deletes only interfaces
that it has created, and behind a `stopTunnel` none of these is left. -/
theorem interface_ownership
    (hrun : Run (WireGuardService.machine reader) (Careful reader) { kernel } es log s) :
    Rightful log ∧ ∀ io, es.getLast? = some (.stopTunnel, io) → owned log = [] := by
  refine ⟨(accounted_of_run hrun).2, fun io hlast => ?_⟩
  cases hrun with
  | nil => rfl
  | @snoc es log s e hrun he =>
      rw [List.getLast?_concat, Option.some_inj] at hlast
      subst hlast
      obtain ⟨hacc, h⟩ := accounted_of_run hrun
      exact (accounts_stopTunnel hacc h he).2

/-! ### A run -/

/-- The readings of the addresses of the runs. -/
def someAddresses : List (String × UInt32) :=
  [("10.77.0.0", 0x0A4D0000), ("10.77.0.2", 0x0A4D0002), ("10.77.0.3", 0x0A4D0003),
    ("10.78.0.2", 0x0A4E0002)]

/-- A reader of these addresses. -/
def someReader : AddressReader where
  hostAddress text := ((someAddresses.lookup text).map HostAddress.ipv4).getD .null
  toUInt _ := none
  inetPton text := (someAddresses.lookup text).isSome

/-- A tunnel of its own, and back. -/
def startAndStop : List (TunnelEvent × TunnelIo) :=
  [(.startTunnel "wg0" "10.77.0.2" "" 0, {}), (.stopTunnel, {})]

theorem interface_ownership_startAndStop :
    ((WireGuardService.machine someReader).exec { kernel := fun _ => none } startAndStop).1 =
        [.statusChanged .Configuring, .created "wg0", .statusChanged .Up, .deleted "wg0",
          .statusChanged .Down] ∧
      Rightful ((WireGuardService.machine someReader).exec { kernel := fun _ => none }
        startAndStop).1 := by
  refine ⟨by decide +kernel, ?_⟩
  have hcareful : (WireGuardService.machine someReader).Allows (Careful someReader)
      { kernel := fun _ => none } startAndStop :=
    ⟨⟨nofun, fun _ => Or.inr rfl⟩, fun _ => ⟨rfl, rfl, rfl⟩, trivial⟩
  exact (interface_ownership (Run.exec hcareful)).1

/-- A kernel with an interface of somebody else. -/
def foreignKernel : Kernel := Function.update (fun _ => none) "wg0" (some {})

/-- The second start fails, and leaves the name of the foreign interface behind. -/
def startTwice : List (TunnelEvent × TunnelIo) :=
  [(.startTunnel "wg-meckchat" "10.77.0.2" "" 0, {}), (.startTunnel "wg0" "10.78.0.2" "" 0, {}),
    (.stopTunnel, {})]

/-- The foreign interface is deleted, and the own one stays. -/
theorem foreign_interface_deleted :
    ¬ Rightful ((WireGuardService.machine someReader).exec { kernel := foreignKernel }
        startTwice).1 ∧
      owned ((WireGuardService.machine someReader).exec { kernel := foreignKernel }
        startTwice).1 = ["wg-meckchat"] := by
  have hlog : ((WireGuardService.machine someReader).exec { kernel := foreignKernel }
      startTwice).1 =
        [.statusChanged .Configuring, .created "wg-meckchat", .statusChanged .Up,
          .statusChanged .Configuring, .statusChanged .Error,
          .errorOccurred
            "Invalid virtual IP: 10.78.0.2. Must be a valid address within 10.77.0.0/16.",
          .deleted "wg0", .statusChanged .Down] := by
    decide +kernel
  rw [hlog]
  constructor
  · intro h
    have hmem : "wg0" ∈ ["wg-meckchat"] := h.2.2.2.2.2.2.1 "wg0" rfl
    exact absurd hmem (by decide)
  · decide

end MeckChat.Network
