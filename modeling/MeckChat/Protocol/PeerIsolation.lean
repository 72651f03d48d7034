import MeckChat.Protocol.TransferTwins

/-!
Transfers from one peer, and what another peer does.

* `Separated`: what comes from `Y` passes over the transfers with ids in `I`, and these keep to
  the paths in `P`, which the other transfers keep away from.
* `Twin I P B c c'`: two controllers that cannot be told apart through the ids in `I` and the
  paths in `P`. `Twin.request` is a request on both sides for an id in `I`, and `Twin.other` a
  request on one side for another id.
* `Twin.skip` and `Twin.step`: events of the peer that is left out, and all the others.
* `peers_isolated`: a peer changes nothing in the transfers of another one, in runs that keep
  the two apart. `disconnect_fails_others` is a run that does not.
-/

namespace MeckChat.Protocol

open Qt QJson

variable (json : JsonCodec) (sha : Sha256)

/-- A session that the handler of a request passes over. -/
def Request.IgnoredBy (s : FileTransferSession) : Request → Prop
  | .fileAccept => s.direction ≠ .Outgoing ∨ s.state ≠ .Offering
  | .fileChunk _ _ => s.state ≠ .Transferring ∨ s.direction ≠ .Incoming
  | .fileComplete => s.direction ≠ .Incoming ∨ s.state ≠ .Transferring
  | .disconnected => ¬ (s.state = .Offering ∨ s.state = .Transferring)
  | _ => False

namespace FileTransferController

/-- The transfers with ids in `I` keep to the paths in `P`, and the others keep away from
these and from the objects in `M`. -/
structure Sided (I P : Set String) (M : Set ℕ) (c : FileTransferController) : Prop where
  holds : FileSystem.Holds P M c.files
  inside : ∀ tid ∈ I, ∀ s, c.m_sessions.value? tid = some s →
    Located P s ∧ (s.direction = .Outgoing → s.sourceFilePath ∈ P)
  outside : ∀ tid ∉ I, ∀ s, c.m_sessions.value? tid = some s →
    Located Pᶜ s ∧ Avoids M c.files s

/-- The peer that an event comes from. -/
def Event.peer? : Event → Option String
  | .frameReceivedFrom _ senderIp => some senderIp
  | .peerDisconnected peerIp => some peerIp
  | _ => none

/-- A run without the frames of a peer, and without its loss. -/
def withoutPeer (Y : String) (es : List (Event × Io)) : List (Event × Io) :=
  es.filter fun e => e.1.peer? ≠ some Y

/-- The ids that a peer offers. -/
def offeredBy (X : String) (es : List (Event × Io)) : Set String :=
  {tid | ∃ frame offer io, (.frameReceivedFrom frame X, io) ∈ es ∧
    readFrame json frame = .offer offer ∧ offer.transferId = tid}

/-- A command that passes over the transfers with ids in `I`. -/
def PassesOver (I : Set String) (c : FileTransferController) : Command → Prop
  | .offer offer => offer.transferId ∉ I
  | .request tid r => tid ∈ I → ∀ s, c.m_sessions.value? tid = some s → r.IgnoredBy s
  | .disconnect =>
      ∀ tid ∈ I, ∀ s, c.m_sessions.value? tid = some s → Request.disconnected.IgnoredBy s
  | _ => True

/-- The transfers with ids in `I` are passed over by what comes from `Y`, they are accepted
into paths in `P` and the others into other paths, and no file elsewhere is sent under an id
in `I`. -/
structure Separated (I P : Set String) (Y : String) (c : FileTransferController)
    (e : Event × Io) : Prop where
  peer : e.1.peer? = some Y → PassesOver I c (e.1.command json)
  paths {tid dir s} : e.1 = .acceptTransfer tid dir → c.m_sessions.value? tid = some s →
    s.state = .Offering → s.direction = .Incoming →
      (tempPath e.2 tid dir ∈ P ↔ tid ∈ I) ∧ (finalPath e.2 dir s ∈ P ↔ tid ∈ I)
  drawn {path ip} : e.1 = .sendFile path ip → generateTransferId e.2.uuid ∈ I → path ∈ P

/-- Two controllers that agree on the transfers with ids in `I`: on the sessions, but for
their number and handle, and on the files at their paths. -/
structure AgreeOn (I : Set String) (c c' : FileTransferController) : Prop where
  sessions : ∀ tid ∈ I,
    (c'.m_sessions.value? tid).map (·.core) = (c.m_sessions.value? tid).map (·.core)
  files : ∀ tid ∈ I, ∀ s, c.m_sessions.value? tid = some s → s.tempFilePath ≠ "" →
    c'.files.contentAt s.tempFilePath = c.files.contentAt s.tempFilePath ∧
      c'.files.contentAt s.finalFilePath = c.files.contentAt s.finalFilePath

/-- Two controllers that cannot be told apart through the ids in `I` and the paths in `P`. -/
structure Twin (I P : Set String) (B : ℕ → ℕ → Prop) (c c' : FileTransferController) : Prop where
  socket : c'.m_socket = c.m_socket
  files : FileSystem.Alike P B c.files c'.files
  sessions : ∀ tid ∈ I,
    Option.Rel (SessionAlike B) (c.m_sessions.value? tid) (c'.m_sessions.value? tid)
  timers : ∀ tid ∈ I, c'.timers.count tid = c.timers.count tid
  side : Sided I P {i | ∃ i', B i i'} c
  side' : Sided I P {i' | ∃ i, B i i'} c'

variable {json sha}
variable {I P : Set String} {B : ℕ → ℕ → Prop} {c c' : FileTransferController} {io : Io}
  {tid : String} {s s' : FileTransferSession} {r : Request} {t : Turn} {b : Bool}

/-! ### The two sides -/

lemma rel_flip {α β : Type} {R : α → β → Prop} {R' : β → α → Prop} {x : Option α} {y : Option β}
    (h : Option.Rel R x y) (hflip : ∀ {u v}, R u v → R' v u) : Option.Rel R' y x := by
  cases h with
  | none => exact .none
  | some h => exact .some (hflip h)

lemma rel_mono {α β : Type} {R R' : α → β → Prop} {x : Option α} {y : Option β}
    (h : Option.Rel R x y) (hle : ∀ {u v}, R u v → R' u v) : Option.Rel R' x y := by
  cases h with
  | none => exact .none
  | some h => exact .some (hle h)

lemma sessionAlike_flip (h : SessionAlike B s s') : SessionAlike (flip B) s' s where
  core := h.core.symm
  handle := rel_flip h.handle fun huv =>
    ⟨huv.isOpen.symm, huv.mode.symm, huv.pos.symm, fun hopen => huv.object (huv.isOpen ▸ hopen)⟩

lemma alike_flip {fs fs' : FileSystem} (h : FileSystem.Alike P B fs fs') :
    FileSystem.Alike P (flip B) fs' fs where
  pairs hi hj := (h.pairs hi hj).symm
  lt hi := (h.lt hi).symm
  content hi := (h.content hi).symm
  dir p hp := rel_flip (h.dir p hp) id

/-- The two are on a par. -/
lemma Twin.flip (h : Twin I P B c c') : Twin I P (flip B) c' c where
  socket := h.socket.symm
  files := alike_flip h.files
  sessions tid htid := rel_flip (h.sessions tid htid) sessionAlike_flip
  timers tid htid := (h.timers tid htid).symm
  side := h.side'
  side' := h.side

/-- The first of two file systems changes elsewhere. -/
lemma alike_of_leaves {fs fs₁ fs' : FileSystem} (h : FileSystem.Alike P B fs fs')
    (hleaves : FileSystem.Leaves P {i | ∃ i', B i i'} fs fs₁) : FileSystem.Alike P B fs₁ fs' where
  pairs := h.pairs
  lt hi := ⟨(h.lt hi).1.trans_le hleaves.next, (h.lt hi).2⟩
  content hi := (h.content hi).trans (hleaves.content _ ⟨_, hi⟩).symm
  dir p hp := by
    rw [hleaves.dir p hp]
    exact h.dir p hp

/-! ### Requests -/

variable (json sha io b tid) in
/-- A handler schedules nothing but its own transfer. -/
lemma run_timers (r : Request) (ht : t.timers = []) (tid' : String) (hne : tid' ≠ tid) :
    (r.run json sha io b tid t).timers.count tid' = 0 := by
  have hsend : ∀ u : Turn, u.timers = [] →
      (u.sendNextChunk json io b tid).timers.count tid' = 0 := by
    intro u hu
    rw [Turn.sendNextChunk]
    split_ifs
    · rw [hu, List.count_nil]
    · simp [Turn.sendComplete, hu]
    · simp [hu]
    · simp [Turn.sendChunk, hu, Ne.symm hne]
  cases r with
  | acceptTransfer dir =>
      simp only [Request.run, Turn.acceptTransfer, Turn.startReceiving, Turn.completeEmpty]
      split_ifs <;> simp [ht]
  | rejectTransfer reason => simp [Request.run, Turn.rejectTransfer, ht]
  | cancelTransfer reason => simp [Request.run, Turn.cancelTransfer, ht]
  | fileAccept =>
      simp only [Request.run, Turn.handleInboundFileAccept]
      split_ifs
      · rw [ht, List.count_nil]
      · exact hsend _ (by simp [ht])
      · simp [ht]
  | fileReject reason => simp [Request.run, Turn.handleInboundFileReject, ht]
  | fileChunk index data =>
      have hwrite : (t.writeData io data).timers = t.timers := by
        rw [Turn.writeData]
        cases t.session.fileHandle with
        | none => rfl
        | some h =>
            dsimp only
            split_ifs <;> rfl
      simp only [Request.run, Turn.handleInboundFileChunk]
      split_ifs <;> simp [ht, hwrite]
  | fileComplete =>
      simp only [Request.run, Turn.handleInboundFileComplete, Turn.moveToFinal]
      split_ifs <;> simp [ht]
  | fileCancel reason => simp [Request.run, Turn.handleInboundFileCancel, ht]
  | sendNextChunk => exact hsend t ht
  | disconnected =>
      simp only [Request.run, Turn.onSocketDisconnected]
      split_ifs <;> simp [ht]

variable (json sha) in
/-- **A request elsewhere.** On one side a request for an id that is not in `I`. -/
lemma Twin.other (h : Twin I P B c c') (io : Io) (htid : tid ∉ I) (r : Request)
    (haccept : ∀ s, c.m_sessions.value? tid = some s → r.AcceptsIn Pᶜ io tid s) :
    Twin I P B (c.onRequest json sha io tid r).1 c' := by
  rw [FileTransferController.onRequest]
  cases hs : c.m_sessions.value? tid with
  | none =>
      rw [onSession_none hs]
      exact h
  | some s =>
      obtain ⟨hloc, havoids⟩ := h.side.outside tid htid s hs
      have hinto := haccept s hs
      obtain ⟨hleaves, havoids'⟩ := r.run_leaves json sha io c.m_socket tid
        (t := { session := s, files := c.files }) h.side.holds hloc havoids hinto
      have hloc' := r.run_located json sha io c.m_socket tid
        (t := { session := s, files := c.files }) hloc hinto
      have htimers := run_timers json sha io tid c.m_socket
        (t := { session := s, files := c.files }) r rfl
      rw [onSession_some hs]
      generalize r.run json sha io c.m_socket tid { session := s, files := c.files } = t' at *
      have hothers : ∀ tid', tid' ≠ tid →
          QMap.value? (c.m_sessions.insert tid t'.session) tid' = c.m_sessions.value? tid' :=
        fun tid' hne => QMap.value?_insert_of_ne _ hne.symm _
      have hne : ∀ tid' ∈ I, tid' ≠ tid := fun tid' hmem => ne_of_mem_of_not_mem hmem htid
      refine ⟨h.socket, alike_of_leaves h.files hleaves, ?_, ?_, ?_, h.side'⟩
      · intro tid' hmem
        rw [hothers tid' (hne tid' hmem)]
        exact h.sessions tid' hmem
      · intro tid' hmem
        rw [List.count_append, htimers tid' (hne tid' hmem)]
        exact h.timers tid' hmem
      · refine ⟨hleaves.holds, ?_, ?_⟩
        · intro tid' hmem s' hs'
          rw [hothers tid' (hne tid' hmem)] at hs'
          exact h.side.inside tid' hmem s' hs'
        · intro tid' hnot s' hs'
          by_cases heq : tid' = tid
          · subst heq
            rw [QMap.value?_insert_self, Option.some.injEq] at hs'
            rw [← hs']
            exact ⟨hloc', havoids'⟩
          · rw [hothers tid' heq] at hs'
            obtain ⟨hloc, havoids⟩ := h.side.outside tid' hnot s' hs'
            exact ⟨hloc, havoids.mono rfl hleaves.next⟩

/-- One of two controllers, at a request for an id in `I`. -/
lemma Sided.request {M M' : Set ℕ} (h : Sided I P M c) (io : Io) (htid : tid ∈ I)
    (hs : c.m_sessions.value? tid = some s) (r : Request) (haccept : r.AcceptsIn P io tid s)
    (hhandle : ∀ g, s.fileHandle = some g → g.isOpen = true → g.inode < c.files.next)
    (hnew : ∀ i ∈ M', i ∈ M ∨ c.files.next ≤ i)
    (hlt : ∀ i ∈ M', i < (c.onRequest json sha io tid r).1.files.next) :
    Sided I P M' (c.onRequest json sha io tid r).1 := by
  obtain ⟨hloc, hsource⟩ := h.inside tid htid s hs
  have hloc' := r.run_located json sha io c.m_socket tid
    (t := { session := s, files := c.files }) hloc haccept
  have hterms := r.run_terms json sha io c.m_socket tid { session := s, files := c.files }
  -- the paths outside `P` are left alone
  obtain ⟨hleaves, -⟩ := r.run_leaves json sha io c.m_socket tid
    (P := Pᶜ) (M := ∅) (t := { session := s, files := c.files }) (fun i hi => absurd hi (by simp))
    (by rwa [compl_compl]) (fun g hg hopen _ => ⟨by simp, hhandle g hg hopen⟩)
    (by rwa [compl_compl])
  rw [FileTransferController.onRequest, onSession_some hs] at hlt ⊢
  generalize r.run json sha io c.m_socket tid { session := s, files := c.files } = t at *
  have hothers : ∀ tid', tid' ≠ tid →
      QMap.value? (c.m_sessions.insert tid t.session) tid' = c.m_sessions.value? tid' :=
    fun tid' hne => QMap.value?_insert_of_ne _ hne.symm _
  refine ⟨?_, ?_, ?_⟩
  · intro i hi
    refine ⟨hlt i hi, fun q hq => ?_⟩
    rw [hleaves.dir q hq]
    rcases hnew i hi with hold | hfresh
    · exact (h.holds i hold).2 q hq
    · exact fun hdir => absurd (c.files.dir_lt hdir) (by omega)
  · intro tid' hmem s' hs'
    by_cases heq : tid' = tid
    · subst heq
      rw [QMap.value?_insert_self, Option.some.injEq] at hs'
      rw [← hs']
      refine ⟨hloc', fun hout => ?_⟩
      have hpath : t.session.sourceFilePath = s.sourceFilePath :=
        congrArg Terms.sourceFilePath hterms
      rw [hpath]
      exact hsource ((congrArg Terms.direction hterms).symm.trans hout)
    · rw [hothers tid' heq] at hs'
      exact h.inside tid' hmem s' hs'
  · intro tid' hnot s' hs'
    rw [hothers tid' (ne_of_mem_of_not_mem htid hnot).symm] at hs'
    obtain ⟨hloc, havoids⟩ := h.outside tid' hnot s' hs'
    refine ⟨hloc, fun g hg hopen hmode => ?_⟩
    obtain ⟨hnot, hbelow⟩ := havoids g hg hopen hmode
    refine ⟨fun hmem => ?_, hbelow.trans_le hleaves.next⟩
    rcases hnew _ hmem with hold | hfresh
    · exact hnot hold
    · exact absurd hbelow (by omega)

/-- The objects behind open handles are not new. -/
lemma handle_lt {fs fs' : FileSystem} (h : SessionAlike B s s')
    (hfiles : FileSystem.Alike P B fs fs') :
    ∀ g, s.fileHandle = some g → g.isOpen = true → g.inode < fs.next := by
  intro g hg hopen
  have hhandle := h.handle
  rw [hg] at hhandle
  generalize s'.fileHandle = g' at hhandle
  cases hhandle with
  | some hpair => exact (hfiles.lt (hpair.object hopen)).1

variable (json sha) in
/-- **A request on both sides.** For an id in `I` the same happens. -/
lemma Twin.request (h : Twin I P B c c') (io : Io) (htid : tid ∈ I) (r : Request)
    (haccept : ∀ s, c.m_sessions.value? tid = some s → r.AcceptsIn P io tid s) :
    ∃ B', Twin I P B' (c.onRequest json sha io tid r).1 (c'.onRequest json sha io tid r).1 := by
  have hsessions := h.sessions tid htid
  rcases hs : c.m_sessions.value? tid with _ | s
  · rw [hs] at hsessions
    have hs' : c'.m_sessions.value? tid = none := by
      generalize c'.m_sessions.value? tid = x at hsessions
      cases hsessions with
      | none => rfl
    refine ⟨B, ?_⟩
    rw [FileTransferController.onRequest, FileTransferController.onRequest, onSession_none hs,
      onSession_none hs']
    exact h
  · rw [hs] at hsessions
    obtain ⟨s', hs', ha⟩ : ∃ s', c'.m_sessions.value? tid = some s' ∧ SessionAlike B s s' := by
      generalize c'.m_sessions.value? tid = x at hsessions
      cases hsessions with
      | some ha => exact ⟨_, rfl, ha⟩
    have hinto := haccept s hs
    have hinto' : r.AcceptsIn P io tid s' := by
      intro dir hr hstate hdir
      rw [ha.state] at hstate
      rw [ha.direction] at hdir
      rw [finalPath, ha.fileName]
      exact hinto dir hr hstate hdir
    obtain ⟨hloc, hsource⟩ := h.side.inside tid htid s hs
    have hstart : TurnAlike P B { session := s, files := c.files }
        { session := s', files := c'.files } := ⟨ha, h.files, rfl⟩
    obtain ⟨B', hle, hnew, hturn⟩ :=
      r.run_alike json sha io c.m_socket tid hstart hloc hsource hinto
    have hfiles : FileSystem.Alike P B' (c.onRequest json sha io tid r).1.files
        (c'.onRequest json sha io tid r).1.files := by
      rw [FileTransferController.onRequest, FileTransferController.onRequest, onSession_some hs,
        onSession_some hs', h.socket]
      exact hturn.files
    refine ⟨B', ?_, hfiles, ?_, ?_, ?_, ?_⟩
    · rw [FileTransferController.onRequest, FileTransferController.onRequest, m_socket_onSession,
        m_socket_onSession]
      exact h.socket
    · intro tid' hmem
      rw [FileTransferController.onRequest, FileTransferController.onRequest]
      by_cases heq : tid' = tid
      · subst heq
        rw [value?_onSession_self hs, value?_onSession_self hs', h.socket]
        exact .some hturn.session
      · rw [value?_onSession_of_ne heq, value?_onSession_of_ne heq]
        exact rel_mono (h.sessions tid' hmem) fun ha => ha.mono hle
    · intro tid' hmem
      rw [FileTransferController.onRequest, FileTransferController.onRequest, onSession_some hs,
        onSession_some hs', h.socket]
      dsimp only
      rw [List.count_append, List.count_append, hturn.timers, h.timers tid' hmem]
    · refine h.side.request io htid hs r hinto (handle_lt ha h.files) ?_ ?_
      · rintro i ⟨i', hi⟩
        exact (hnew i i' hi).imp (fun hold => ⟨i', hold⟩) (·.1)
      · rintro i ⟨i', hi⟩
        exact (hfiles.lt hi).1
    · refine h.side'.request io htid hs' r hinto'
        (handle_lt (sessionAlike_flip ha) (alike_flip h.files)) ?_ ?_
      · rintro i' ⟨i, hi⟩
        exact (hnew i i' hi).imp (fun hold => ⟨i, hold⟩) (·.2)
      · rintro i' ⟨i, hi⟩
        exact (hfiles.lt hi).2

variable (json sha io b tid) in
lemma run_ignored (r : Request) (h : r.IgnoredBy t.session) : r.run json sha io b tid t = t := by
  cases r with
  | fileAccept => exact if_pos h
  | fileChunk index data => exact if_pos h
  | fileComplete => exact if_pos h
  | disconnected => exact if_neg h
  | _ => exact h.elim

/-- The first of two controllers does not change. -/
lemma Twin.of_same {c₁ : FileTransferController} (h : Twin I P B c c')
    (hsocket : c₁.m_socket = c.m_socket) (hfiles : c₁.files = c.files)
    (htimers : c₁.timers = c.timers)
    (hsessions : ∀ tid, c₁.m_sessions.value? tid = c.m_sessions.value? tid) : Twin I P B c₁ c' where
  socket := h.socket.trans hsocket.symm
  files := hfiles ▸ h.files
  sessions tid htid := hsessions tid ▸ h.sessions tid htid
  timers tid htid := htimers ▸ h.timers tid htid
  side :=
    { holds := hfiles ▸ h.side.holds
      inside := fun tid htid s hs => h.side.inside tid htid s (hsessions tid ▸ hs)
      outside := fun tid htid s hs => hfiles ▸ h.side.outside tid htid s (hsessions tid ▸ hs) }
  side' := h.side'

variable (json sha io) in
/-- A request that is passed over. -/
lemma value?_ignored (r : Request)
    (hignored : ∀ s, c.m_sessions.value? tid = some s → r.IgnoredBy s) (tid' : String) :
    (c.onRequest json sha io tid r).1.m_sessions.value? tid' = c.m_sessions.value? tid' := by
  rw [FileTransferController.onRequest]
  by_cases heq : tid' = tid
  · subst heq
    cases hs : c.m_sessions.value? tid' with
    | none => rw [onSession_none hs, hs]
    | some s =>
        rw [value?_onSession_self hs, run_ignored json sha io tid' c.m_socket r (hignored s hs)]
  · exact value?_onSession_of_ne heq

variable (json sha) in
lemma Twin.ignored (h : Twin I P B c c') (io : Io) (r : Request)
    (hignored : ∀ s, c.m_sessions.value? tid = some s → r.IgnoredBy s) :
    Twin I P B (c.onRequest json sha io tid r).1 c' := by
  have hvalues := value?_ignored json sha io r hignored
  rw [FileTransferController.onRequest] at hvalues ⊢
  cases hs : c.m_sessions.value? tid with
  | none =>
      rw [onSession_none hs]
      exact h
  | some s =>
      rw [onSession_some hs, run_ignored json sha io tid c.m_socket r (hignored s hs)] at hvalues ⊢
      exact h.of_same rfl rfl (List.append_nil _) hvalues

/-! ### New sessions -/

/-- A session that was just made. -/
structure Blank (s : FileTransferSession) : Prop where
  state : s.state = .Offering
  temp : s.tempFilePath = ""
  handle : s.fileHandle = none

lemma blank_outgoing (i : ℕ) (tid path sha256 : String) (size : ℤ) :
    Blank (outgoingSession i tid path sha256 size) := by
  constructor <;> rw [outgoingSession]

lemma blank_incoming (i : ℕ) (offer : FileOffer) : Blank (incomingSession i offer) := by
  constructor <;> rw [incomingSession]

lemma Blank.located (h : Blank s) (Q : Set String) : Located Q s where
  paths hne := absurd h.temp hne
  live hlive := by
    rw [FileTransferSession.Live, h.state] at hlive
    cases hlive.2

lemma Blank.avoids (h : Blank s) (M : Set ℕ) (fs : FileSystem) : Avoids M fs s := by
  intro g hg
  rw [h.handle] at hg
  cases hg

lemma Sided.register {M : Set ℕ} (h : Sided I P M c) (hblank : Blank s) (deeds : List Deed)
    (hsource : s.transferId ∈ I → s.direction = .Outgoing → s.sourceFilePath ∈ P) :
    Sided I P M (c.register s deeds).1 := by
  refine ⟨h.holds, ?_, ?_⟩
  · intro tid htid s₀ hs₀
    rw [FileTransferController.register, QMap.value?_insert] at hs₀
    split_ifs at hs₀ with heq
    · rw [← Option.some_inj.mp hs₀]
      exact ⟨hblank.located P, hsource (heq ▸ htid)⟩
    · exact h.inside tid htid s₀ hs₀
  · intro tid htid s₀ hs₀
    rw [FileTransferController.register, QMap.value?_insert] at hs₀
    split_ifs at hs₀ with heq
    · rw [← Option.some_inj.mp hs₀]
      exact ⟨hblank.located Pᶜ, hblank.avoids M _⟩
    · exact h.outside tid htid s₀ hs₀

/-- A new session elsewhere. -/
lemma Twin.register_other (h : Twin I P B c c') (hblank : Blank s) (hid : s.transferId ∉ I)
    (deeds : List Deed) : Twin I P B (c.register s deeds).1 c' where
  socket := h.socket
  files := h.files
  sessions tid htid := by
    rw [FileTransferController.register,
      QMap.value?_insert_of_ne _ (ne_of_mem_of_not_mem htid hid).symm]
    exact h.sessions tid htid
  timers := h.timers
  side := h.side.register hblank deeds fun hmem => absurd hmem hid
  side' := h.side'

/-- A new session on both sides. -/
lemma Twin.register (h : Twin I P B c c') (hblank : Blank s) (hblank' : Blank s')
    (hcore : s'.core = s.core) (deeds deeds' : List Deed)
    (hsource : s.direction = .Outgoing → s.sourceFilePath ∈ P) :
    Twin I P B (c.register s deeds).1 (c'.register s' deeds').1 := by
  have ha : SessionAlike B s s' := by
    refine ⟨hcore, ?_⟩
    rw [hblank.handle, hblank'.handle]
    exact .none
  have hid : s'.transferId = s.transferId := ha.field (·.transferId) fun _ => rfl
  refine ⟨h.socket, h.files, ?_, h.timers, ?_, ?_⟩
  · intro tid htid
    rw [FileTransferController.register, FileTransferController.register, QMap.value?_insert,
      QMap.value?_insert, hid]
    split_ifs
    · exact .some ha
    · exact h.sessions tid htid
  · exact h.side.register hblank deeds fun _ => hsource
  · refine h.side'.register hblank' deeds' fun _ hout => ?_
    rw [ha.sourceFilePath]
    exact hsource (ha.direction.symm.trans hout)

/-! ### The loss of a connection -/

lemma acceptsIn_disconnected (Q : Set String) (io : Io) (tid : String) (s : FileTransferSession) :
    Request.disconnected.AcceptsIn Q io tid s := by
  intro dir hr
  cases hr

variable (json sha) in
lemma disconnectAll_cons (io : Io) (tid : String) (tids : List String)
    (c : FileTransferController) : (disconnectAll io (tid :: tids) c).1 =
      (disconnectAll io tids (c.onRequest json sha io tid .disconnected).1).1 := rfl

lemma disconnectAll_append (io : Io) (tids tids' : List String) (c : FileTransferController) :
    (disconnectAll io (tids ++ tids') c).1 =
      (disconnectAll io tids' (disconnectAll io tids c).1).1 := by
  induction tids generalizing c with
  | nil => rfl
  | cons tid tids ih => exact ih _

/-- Transfers elsewhere. -/
lemma Twin.disconnect_others (json : JsonCodec) (sha : Sha256) (h : Twin I P B c c') (io : Io)
    {tids : List String} (htids : ∀ tid ∈ tids, tid ∉ I) :
    Twin I P B (disconnectAll io tids c).1 c' := by
  induction tids generalizing c with
  | nil => exact h
  | cons tid tids ih =>
      rw [disconnectAll_cons json sha]
      have hfirst := h.other json sha io (htids tid List.mem_cons_self) .disconnected
        fun s _ => acceptsIn_disconnected _ io tid s
      exact ih hfirst fun tid' hmem => htids tid' (List.mem_cons_of_mem tid hmem)

/-- Transfers in `I` one after the other, the same on both sides. -/
lemma Twin.disconnect (json : JsonCodec) (sha : Sha256) (h : Twin I P B c c') (io : Io)
    {tids tids' : List String} {p : String → Bool} (hp : ∀ tid, p tid = true ↔ tid ∈ I)
    (htids : tids.filter p = tids'.filter p) :
    ∃ B', Twin I P B' (disconnectAll io tids c).1 (disconnectAll io tids' c').1 := by
  have houtside : ∀ l : List String, l.filter p = [] → ∀ tid ∈ l, tid ∉ I := by
    intro l hl tid hmem htid
    exact List.filter_eq_nil_iff.mp hl tid hmem ((hp tid).mpr htid)
  induction tids generalizing tids' c c' B with
  | nil =>
      have hothers := houtside tids' htids.symm
      exact ⟨_, (h.flip.disconnect_others json sha io hothers).flip⟩
  | cons tid tids ih =>
      rw [disconnectAll_cons json sha]
      by_cases htid : tid ∈ I
      · rw [List.filter_cons_of_pos ((hp tid).mpr htid)] at htids
        obtain ⟨pre, post, rfl, hpre, -, hpost⟩ := List.filter_eq_cons_iff.mp htids.symm
        have hskip := (h.flip.disconnect_others json sha io fun tid' hmem hin =>
          hpre tid' hmem ((hp tid').mpr hin)).flip
        obtain ⟨B', hboth⟩ := hskip.request json sha io htid .disconnected
          fun s _ => acceptsIn_disconnected P io tid s
        rw [disconnectAll_append, disconnectAll_cons json sha]
        exact ih hboth hpost.symm
      · rw [List.filter_cons_of_neg (fun h => htid ((hp tid).mp h))] at htids
        exact ih (h.other json sha io htid .disconnected fun s _ =>
          acceptsIn_disconnected Pᶜ io tid s) htids

/-- What passes over the transfers in `I`. -/
lemma Twin.disconnect_ignored (json : JsonCodec) (sha : Sha256) (h : Twin I P B c c') (io : Io)
    (tids : List String) (hpass : PassesOver I c .disconnect) :
    Twin I P B (disconnectAll io tids c).1 c' := by
  induction tids generalizing c with
  | nil => exact h
  | cons tid tids ih =>
      rw [disconnectAll_cons json sha]
      by_cases htid : tid ∈ I
      · refine ih (h.ignored json sha io .disconnected (hpass tid htid)) ?_
        intro tid' htid' s hs
        rw [value?_ignored json sha io .disconnected (hpass tid htid)] at hs
        exact hpass tid' htid' s hs
      · refine ih (h.other json sha io htid .disconnected fun s _ =>
          acceptsIn_disconnected Pᶜ io tid s) ?_
        intro tid' htid' s hs
        rw [FileTransferController.onRequest,
          value?_onSession_of_ne (ne_of_mem_of_not_mem htid' htid)] at hs
        exact hpass tid' htid' s hs

/-! ### Timers -/

/-- A timer of another transfer. -/
lemma Twin.erase_other (h : Twin I P B c c') (htid : tid ∉ I) :
    Twin I P B { c with timers := c.timers.erase tid } c' where
  socket := h.socket
  files := h.files
  sessions := h.sessions
  timers tid' htid' := by
    rw [List.count_erase_of_ne (ne_of_mem_of_not_mem htid' htid)]
    exact h.timers tid' htid'
  side := ⟨h.side.holds, h.side.inside, h.side.outside⟩
  side' := h.side'

lemma Twin.erase (h : Twin I P B c c') (tid : String) :
    Twin I P B { c with timers := c.timers.erase tid }
      { c' with timers := c'.timers.erase tid } where
  socket := h.socket
  files := h.files
  sessions := h.sessions
  timers tid' htid' := by
    rw [List.count_erase, List.count_erase, h.timers tid' htid']
  side := ⟨h.side.holds, h.side.inside, h.side.outside⟩
  side' := ⟨h.side'.holds, h.side'.inside, h.side'.outside⟩

lemma acceptsIn_sendNextChunk (Q : Set String) (io : Io) (tid : String)
    (s : FileTransferSession) : Request.sendNextChunk.AcceptsIn Q io tid s := by
  intro dir hr
  cases hr

variable (json sha) in
lemma Twin.timeout_other (h : Twin I P B c c') (io : Io) (htid : tid ∉ I) :
    Twin I P B (c.runCommand json sha io (.timeout tid)).1 c' := by
  rw [runCommand]
  split_ifs
  · exact (h.erase_other htid).other json sha io htid .sendNextChunk fun s _ =>
      acceptsIn_sendNextChunk Pᶜ io tid s
  · exact h

variable (json sha) in
lemma Twin.timeout (h : Twin I P B c c') (io : Io) (htid : tid ∈ I) :
    ∃ B', Twin I P B' (c.runCommand json sha io (.timeout tid)).1
      (c'.runCommand json sha io (.timeout tid)).1 := by
  have hpending : tid ∈ c'.timers ↔ tid ∈ c.timers := by
    rw [← List.count_pos_iff, ← List.count_pos_iff, h.timers tid htid]
  rw [runCommand, runCommand]
  simp only [hpending]
  split_ifs
  · exact (h.erase tid).request json sha io htid .sendNextChunk fun s _ =>
      acceptsIn_sendNextChunk P io tid s
  · exact ⟨B, h⟩

/-! ### Steps -/

section Steps

variable {Y : String} {e : Event × Io}

lemma Separated.acceptsIn (he : Separated json I P Y c e) (hcmd : e.1.command json = .request tid r)
    (hs : c.m_sessions.value? tid = some s) :
    (tid ∈ I → r.AcceptsIn P e.2 tid s) ∧ (tid ∉ I → r.AcceptsIn Pᶜ e.2 tid s) := by
  constructor
  · rintro htid dir rfl hstate hdir
    obtain ⟨htemp, hfinal⟩ := he.paths (acceptTransfer_of_command json hcmd) hs hstate hdir
    exact ⟨htemp.mpr htid, hfinal.mpr htid⟩
  · rintro htid dir rfl hstate hdir
    obtain ⟨htemp, hfinal⟩ := he.paths (acceptTransfer_of_command json hcmd) hs hstate hdir
    exact ⟨fun hin => htid (htemp.mp hin), fun hin => htid (hfinal.mp hin)⟩

variable (json) in
/-- What comes from a peer. -/
lemma Event.command_peer (h : e.1.peer? = some Y) : e.1.command json = .nothing ∨
    (∃ offer, e.1.command json = .offer offer) ∨
      (∃ tid r, e.1.command json = .request tid r) ∨ e.1.command json = .disconnect := by
  obtain ⟨event, io⟩ := e
  cases event with
  | frameReceivedFrom frame ip =>
      rcases readFrame_cases json frame with hread | hread | hread
      · exact .inl hread
      · exact .inr (.inl hread)
      · exact .inr (.inr (.inl hread))
  | peerDisconnected ip => exact .inr (.inr (.inr rfl))
  | _ => cases h

variable (sha) in
/-- **Step lemma for the peer that is left out.** -/
theorem Twin.skip (h : Twin I P B c c') (he : Separated json I P Y c e) (hY : e.1.peer? = some Y) :
    Twin I P B (c.step json sha e.1 e.2).1 c' := by
  have hpass := he.peer hY
  rw [step_eq_run]
  rcases Event.command_peer json hY with hcmd | ⟨offer, hcmd⟩ | ⟨tid, r, hcmd⟩ | hcmd <;>
    rw [hcmd] at hpass ⊢
  · exact h
  · exact h.register_other (blank_incoming c.nextObject offer) hpass []
  · by_cases htid : tid ∈ I
    · exact h.ignored json sha e.2 r (hpass htid)
    · exact h.other json sha e.2 htid r fun s hs => (he.acceptsIn hcmd hs).2 htid
  · exact h.disconnect_ignored json sha e.2 _ hpass

variable (sha) in
/-- A file that is sent. -/
lemma Twin.sendFile (h : Twin I P B c c') (io : Io) (path ip : String)
    (hdrawn : generateTransferId io.uuid ∈ I → path ∈ P) :
    Twin I P B (c.runCommand json sha io (.sendFile path ip)).1
      (c'.runCommand json sha io (.sendFile path ip)).1 := by
  rw [runCommand, runCommand]
  by_cases hid : generateTransferId io.uuid ∈ I
  · have hpath := hdrawn hid
    have hcontent := h.files.contentAt hpath
    simp only [FileTransferController.sendFile, hcontent]
    cases c.files.contentAt path with
    | none => exact h
    | some content =>
        dsimp only
        split_ifs
        · exact h
        · have hblank := fun i => blank_outgoing i (generateTransferId io.uuid) path
            (calculateFileSha256 sha io content) content.length
          exact h.register (hblank c.nextObject) (hblank c'.nextObject) rfl [] [] fun _ => hpath
        · exact h
  · have hother : ∀ {B : ℕ → ℕ → Prop} {c c' : FileTransferController}, Twin I P B c c' →
        Twin I P B (c.sendFile json sha io path ip).1 c' := by
      intro B c c' h
      rcases sendFile_cases json sha c io path ip with hnone | ⟨s, deeds, hreg, heq⟩
      · rw [congrArg Prod.fst hnone]
        exact h
      · rw [congrArg Prod.fst heq]
        cases hreg with
        | outgoing hfile => exact h.register_other (blank_outgoing _ _ path _ _) hid _
    exact (hother (hother h).flip).flip

variable (sha) in
/-- **Step lemma for the other events.** -/
theorem Twin.step (h : Twin I P B c c') (he : Separated json I P Y c e)
    (he' : Separated json I P Y c' e) :
    ∃ B', Twin I P B' (c.step json sha e.1 e.2).1 (c'.step json sha e.1 e.2).1 := by
  rw [step_eq_run, step_eq_run]
  cases hcmd : e.1.command json with
  | sendFile path ip =>
      refine ⟨B, h.sendFile sha e.2 path ip ?_⟩
      obtain ⟨event, io⟩ := e
      cases event with
      | sendFile path' ip' =>
          obtain ⟨rfl, rfl⟩ := Command.sendFile.inj hcmd
          exact he.drawn rfl
      | frameReceivedFrom frame ip' =>
          rcases readFrame_cases json frame with hread | ⟨m, hread⟩ | ⟨tid, r, hread⟩ <;>
            exact absurd (hread.symm.trans hcmd) (by simp)
      | _ => cases hcmd
  | offer offer =>
      by_cases hid : offer.transferId ∈ I
      · refine ⟨B, h.register (blank_incoming c.nextObject offer)
          (blank_incoming c'.nextObject offer) rfl [] [] ?_⟩
        intro hout
        cases hout
      · have hfirst := h.register_other (blank_incoming c.nextObject offer) hid []
        exact ⟨_, (hfirst.flip.register_other (blank_incoming c'.nextObject offer) hid []).flip⟩
  | request tid r =>
      by_cases htid : tid ∈ I
      · exact h.request json sha e.2 htid r fun s hs => (he.acceptsIn hcmd hs).1 htid
      · have hfirst := h.other json sha e.2 htid r fun s hs => (he.acceptsIn hcmd hs).2 htid
        exact ⟨_, (hfirst.flip.other json sha e.2 htid r
          fun s hs => (he'.acceptsIn hcmd hs).2 htid).flip⟩
  | timeout tid =>
      by_cases htid : tid ∈ I
      · exact h.timeout json sha e.2 htid
      · have hfirst := h.timeout_other json sha e.2 htid
        exact ⟨_, (hfirst.flip.timeout_other json sha e.2 htid).flip⟩
  | disconnect =>
      classical
      refine h.disconnect json sha e.2 (p := fun tid => decide (tid ∈ I)) (by simp) ?_
      refine QMap.filter_keys_eq fun tid htid => ?_
      have hsessions := h.sessions tid (of_decide_eq_true htid)
      generalize c.m_sessions.value? tid = x at hsessions ⊢
      generalize c'.m_sessions.value? tid = x' at hsessions ⊢
      cases hsessions with
      | none => exact Iff.rfl
      | some _ => exact Iff.rfl
  | nothing => exact ⟨B, h⟩

end Steps

/-! ### Runs -/

/-- Two controllers that were just constructed over the same files. -/
lemma twin_init (I P : Set String) (b : Bool) (files : FileSystem) :
    Twin I P (fun i i' => i' = i ∧ ∃ p ∈ P, files.dir p = some i) (init b files)
      (init b files) := by
  have hnone : ∀ tid, (init b files).m_sessions.value? tid = none :=
    fun tid => QMap.value?_empty tid
  have hsided : ∀ M : Set ℕ, (∀ i ∈ M, ∃ p ∈ P, files.dir p = some i) →
      Sided I P M (init b files) := by
    intro M hM
    refine ⟨fun i hi => ?_, fun tid _ s hs => ?_, fun tid _ s hs => ?_⟩
    · obtain ⟨p, hp, hdir⟩ := hM i hi
      refine ⟨files.dir_lt hdir, fun q hq hother => hq ?_⟩
      rw [files.dir_inj hother hdir]
      exact hp
    all_goals
      rw [hnone] at hs
      cases hs
  refine ⟨rfl, ⟨?_, ?_, ?_, ?_⟩, ?_, fun _ _ => rfl, hsided _ ?_, hsided _ ?_⟩
  · rintro i _ j _ ⟨rfl, -⟩ ⟨rfl, -⟩
    exact Iff.rfl
  · rintro i _ ⟨rfl, p, -, hdir⟩
    exact ⟨files.dir_lt hdir, files.dir_lt hdir⟩
  · rintro i _ ⟨rfl, -⟩
    rfl
  · intro p hp
    cases hdir : files.dir p with
    | none =>
        rw [init, hdir]
        exact .none
    | some i =>
        rw [init, hdir]
        exact .some ⟨rfl, p, hp, hdir⟩
  · intro tid _
    rw [hnone]
    exact .none
  · rintro i ⟨_, rfl, hpath⟩
    exact hpath
  · rintro _ ⟨i, rfl, hpath⟩
    exact hpath

/-- **Run lemma.** -/
theorem Twin.exec {Y : String} {es pre : List (Event × Io)} (h : Twin I P B c c')
    (hes : (machine json sha).Allows (Separated json I P Y) c es)
    (hes' : (machine json sha).Allows (Separated json I P Y) c' (withoutPeer Y es))
    (hpre : pre <+: es) :
    ∃ B', Twin I P B' ((machine json sha).exec c pre).2
      ((machine json sha).exec c' (withoutPeer Y pre)).2 := by
  induction es generalizing pre c c' B with
  | nil =>
      rw [List.prefix_nil.mp hpre]
      exact ⟨B, h⟩
  | cons e es ih =>
      cases pre with
      | nil => exact ⟨B, h⟩
      | cons e' pre =>
          obtain ⟨rfl, hrest⟩ := List.cons_prefix_cons.mp hpre
          obtain ⟨he, hes⟩ := hes
          by_cases hY : e'.1.peer? = some Y
          · rw [withoutPeer, List.filter_cons_of_neg (by simpa using hY)] at hes' ⊢
            exact ih (h.skip sha he hY) hes hes' hrest
          · rw [withoutPeer, List.filter_cons_of_pos (by simpa using hY)] at hes' ⊢
            obtain ⟨he', hes'⟩ := hes'
            obtain ⟨B', hstep⟩ := h.step sha he he'
            exact ih hstep hes hes' hrest

/-- Two controllers that cannot be told apart agree. -/
lemma Twin.agreeOn (h : Twin I P B c c') : AgreeOn I c c' := by
  constructor
  · intro tid htid
    have hsessions := h.sessions tid htid
    generalize c.m_sessions.value? tid = x at hsessions ⊢
    generalize c'.m_sessions.value? tid = x' at hsessions ⊢
    cases hsessions with
    | none => rfl
    | some ha => exact congrArg some ha.core
  · intro tid htid s hs htemp
    obtain ⟨hsource, htarget⟩ := (h.side.inside tid htid s hs).1.paths htemp
    exact ⟨h.files.contentAt hsource, h.files.contentAt htarget⟩

lemma AgreeOn.mono {I' : Set String} (h : AgreeOn I c c') (hle : I' ⊆ I) : AgreeOn I' c c' :=
  ⟨fun tid htid => h.sessions tid (hle htid), fun tid htid => h.files tid (hle htid)⟩

/-- **Isolation of peers.** Leaving out what `Y` sends, and its loss, changes nothing in the
transfers that `X` offers, in runs in which these are kept apart from what `Y` does. -/
theorem peers_isolated {X Y : String} {m_socket : Bool} {files : FileSystem}
    {es pre : List (Event × Io)} (hX : offeredBy json X es ⊆ I)
    (hes : (machine json sha).Allows (Separated json I P Y) (init m_socket files) es)
    (hes' : (machine json sha).Allows (Separated json I P Y) (init m_socket files)
      (withoutPeer Y es))
    (hpre : pre <+: es) :
    AgreeOn (offeredBy json X es) ((machine json sha).exec (init m_socket files) pre).2
      ((machine json sha).exec (init m_socket files) (withoutPeer Y pre)).2 := by
  obtain ⟨B, h⟩ := (twin_init I P m_socket files).exec hes hes' hpre
  exact h.agreeOn.mono hX

lemma value?_registerOffer (c : FileTransferController) (offer : FileOffer) :
    (c.registerOffer offer).1.m_sessions.value? offer.transferId =
      some (incomingSession c.nextObject offer) :=
  QMap.value?_insert_self _ _ _

/-- A frame that another peer sends. -/
lemma separated_frame {ip Y : String} (hY : ip ≠ Y) (frame : P2PFrame) :
    Separated json I P Y c (.frameReceivedFrom frame ip, io) := by
  refine ⟨fun h => ?_, fun h => ?_, fun h => ?_⟩
  · exact absurd (Option.some_inj.mp h) hY
  · cases h
  · cases h

lemma mem_offeredBy {hash : String} (h : hash ≠ "") (es : List (Event × Io)) :
    "ft_fedcba9876543" ∈ offeredBy compact "10.77.0.2" (offerArrives hash :: es) := by
  have hread := command_offerArrives h
  rw [offerArrives, Event.command] at hread
  exact ⟨_, _, {}, List.mem_cons_self, hread, rfl⟩

/-- A peer offers a file, and another one accepts it. -/
def strayAccept : List (Event × Io) :=
  [offerArrives (Sha256.sample.hex []),
    (.frameReceivedFrom (jsonFrame compact .FileAccept (FileAccept.toJson ⟨"ft_fedcba9876543"⟩))
      "10.77.0.3", {})]

theorem peers_isolated_stray_accept :
    AgreeOn (offeredBy compact "10.77.0.2" strayAccept)
      ((machine compact .sample).exec (init true .empty) strayAccept).2
      ((machine compact .sample).exec (init true .empty)
        (withoutPeer "10.77.0.3" strayAccept)).2 := by
  have hhash : Sha256.sample.hex [] ≠ "" := Sha256.hex_ne_empty _ _
  have hfirst : ∀ c, Separated compact {"ft_fedcba9876543"} ∅ "10.77.0.3" c
      (offerArrives (Sha256.sample.hex [])) := by
    intro c
    rw [offerArrives]
    exact separated_frame (by decide) _
  refine peers_isolated (I := {"ft_fedcba9876543"}) (P := ∅) ?_ ⟨hfirst _, ?_, trivial⟩ ?_
    List.prefix_rfl
  · rintro tid ⟨frame, offer, io, hmem, hread, rfl⟩
    rcases List.mem_cons.mp hmem with heq | hmem
    · have hoffer := command_offerArrives hhash
      rw [← heq, Event.command, hread] at hoffer
      rw [Command.offer.inj hoffer]
      rfl
    · simp at hmem
  · rw [step_offerArrives hhash]
    refine ⟨fun _ => ?_, fun h => ?_, fun h => ?_⟩
    · rw [Event.command, readFrame_fileAccept compact (by decide)]
      intro _ s hs
      have hvalue := (value?_registerOffer (init true .empty)
        (emptyOffer (Sha256.sample.hex []))).symm.trans hs
      rw [← Option.some_inj.mp hvalue]
      exact .inl (by rw [incomingSession]; decide)
    · cases h
    · cases h
  · have honly : withoutPeer "10.77.0.3" strayAccept = [offerArrives (Sha256.sample.hex [])] := by
      simp [withoutPeer, strayAccept, offerArrives, Event.peer?]
    rw [honly]
    exact ⟨hfirst _, trivial⟩

/-- **Another peer is lost.** The transfers of all the others fail. -/
theorem disconnect_fails_others :
    ¬ ∀ X Y : String, X ≠ Y → ∀ m_socket files es pre, pre <+: es →
      AgreeOn (offeredBy compact X es)
        ((machine compact .sample).exec (init m_socket files) pre).2
        ((machine compact .sample).exec (init m_socket files) (withoutPeer Y pre)).2 := by
  intro h
  have hhash : Sha256.sample.hex [] ≠ "" := Sha256.hex_ne_empty _ _
  have hagree := h "10.77.0.2" "10.77.0.3" (by decide) true .empty
    [offerArrives (Sha256.sample.hex []), (.peerDisconnected "10.77.0.3", {})] _ List.prefix_rfl
  have honly : withoutPeer "10.77.0.3" [offerArrives (Sha256.sample.hex []),
      (.peerDisconnected "10.77.0.3", {})] = [offerArrives (Sha256.sample.hex [])] := by
    simp [withoutPeer, offerArrives, Event.peer?]
  rw [honly] at hagree
  have hsame := congrArg (Option.map (·.state)) (hagree.sessions _ (mem_offeredBy hhash _))
  rw [Machine.exec_cons_snd, Machine.exec_cons_snd, Machine.exec_cons_snd,
    step_offerArrives hhash] at hsame
  revert hsame
  decide +kernel

end FileTransferController

end MeckChat.Protocol
