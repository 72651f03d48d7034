import MeckChat.Protocol.TransferOrder

/-!
Delivery: over a lossless link every accepted transfer arrives.

* `Admissible` is what is asked of an event. `Orderly.sendFile`,
  `Orderly.acceptTransfer`, `Orderly.timeout`, `Orderly.deliver_receiver` and
  `Orderly.deliver_sender` show for each of them that it keeps the network in
  order, and `Orderly.step` is all of them.
* `delivery` reads the result off a quiet network.
* `run_letter` is a run that delivers a file of one letter.
-/

namespace MeckChat.Protocol

open Qt QJson FileTransferController

/-! ### Events -/

/-- What is asked of an event, in a network that started as `net₀`: the calls on
files succeed; a new transfer gets an id that neither side knows, and its source
is none of the paths of an incoming transfer in progress; calls are not about the
sessions of before, and an offer is accepted to two paths that no other transfer
of its side has reserved. -/
def Admissible (net₀ net : Net) (e : NetEvent × Io) : Prop :=
  Reliable e.2 ∧
    match e.1 with
    | .sendFile Z filePath _ =>
        IsUuid e.2.uuid ∧
          (∀ Y, (net.ctrl Y).m_sessions.value? (generateTransferId e.2.uuid) = none) ∧
          ∀ b s, (net₀.ctrl Z).m_sessions.value? b = none →
            (net.ctrl Z).m_sessions.value? b = some s → s.Live → filePath ∉ s.reserved
    | .acceptTransfer Z tid dir =>
        (net₀.ctrl Z).m_sessions.value? tid = none ∧
          ∀ r, (net.ctrl Z).m_sessions.value? tid = some r →
            r.state = .Offering ∧ r.direction = .Incoming →
              tempPath e.2 tid dir ≠ finalPath e.2 dir r ∧
                ∀ b s, b ≠ tid → (net₀.ctrl Z).m_sessions.value? b = none →
                  (net.ctrl Z).m_sessions.value? b = some s →
                    tempPath e.2 tid dir ∉ s.reserved ∧ finalPath e.2 dir r ∉ s.reserved
    | _ => True

/-- The offer of a file is read as it was sent, its name sanitised. -/
lemma readFrame_offerOf (json : JsonCodec) {sha : Sha256} {s : FileTransferSession} {i : ℕ}
    {tid path : String} {content : Bytes}
    (hs : s = outgoingSession i tid path (sha.hex content) content.length) (hid : tid ≠ "") :
    readFrame json (jsonFrame json .FileOffer (offerOf s).toJson) = .offer
      { offerOf s with fileName := sanitizeFileName (sanitizeFileName s.fileName) } := by
  have hsender : IsSender sha tid path content s := by
    subst hs
    exact ⟨rfl, rfl, rfl, rfl, rfl, rfl⟩
  have htotal : -2 ^ 31 ≤ s.totalChunks ∧ s.totalChunks < 2 ^ 31 := by
    rw [hs, outgoingSession]
    dsimp only
    split_ifs
    · decide
    · exact ⟨Int.le_bmod (by decide), Int.bmod_lt (by decide)⟩
  apply readFrame_fileOffer
  · rw [offerOf, hsender.transferId]
    exact hid
  · rw [offerOf, hsender.fileSize]
    exact Int.natCast_nonneg _
  · rw [offerOf, hsender.expectedSha256]
    exact sha.hex_ne_empty content
  · constructor <;> simp [offerOf, DEFAULT_FILE_CHUNK_SIZE]
  · exact htotal

namespace Orderly

variable {json : JsonCodec} {sha : Sha256}
variable {net₀ net net' : Net} {log : List Fact} {Z X : Side} {tid path : String}
  {content : Bytes} {io : Io}

/-- A delivery to the receiver of a transfer. -/
lemma deliver_receiver (h : Orderly json sha net₀ (fun _ => True) log net) (hio : Reliable io)
    {f : P2PFrame} {rest : List P2PFrame} (hchan : net.chan Z = f :: rest)
    (hf : (readFrame json f).id? = some tid) (hsent : .sent Z.other tid path content ∈ log) :
    Orderly json sha net₀ (fun _ => True) log
      ((net.pop Z rest).put Z ((net.ctrl Z).runCommand json sha io (readFrame json f))) := by
  have hbase := (h.but tid).pop hchan hf
  have hb := base_pop net Z rest
  have hphase := h.phase trivial hsent
  have hsocket : (net.ctrl Z).m_socket = true := h.socket Z
  rw [Side.other_other, view_pop_receiver hchan hf] at hphase
  rcases hphase.of_toReceiver with ⟨o, hcmd, ho, hnone, hnext⟩ |
    ⟨r, got, data, hcmd, hs, more, hr, taking, hnext⟩ | ⟨r, hcmd, hs, hr, taking, hnext⟩
  · -- the offer: nothing is registered for it yet
    have hreacts : Reacts Z tid _ (net.pop Z rest) ((net.pop Z rest).put Z
        (runCommand json sha (net.ctrl Z) io (.offer o))) :=
      reacts_register _ (s := incomingSession (net.ctrl Z).nextObject o)
        [.signal (.fileOfferReceived o)] ho
    have hsilent : framesSent [Deed.signal (.fileOfferReceived o)] = [] := rfl
    rw [hcmd]
    refine h.renew hbase hb hsent hreacts (by simp [hsilent]) (by simp)
      (fun _ _ _ _ _ _ _ => .refl _ _) ?_ ⟨h.stray hsent, .inr rfl⟩ ?_ ?_ id ?_
    · intro b s' _ _ _ _
      simp [FileTransferSession.reserved, incomingSession]
    · rw [Side.other_other, hreacts.files, hreacts.files_other,
        hreacts.view_receiver (by simp [hsilent]), hsilent]
      simpa using hnext (net.ctrl Z).nextObject
    · intro hacc
      obtain ⟨p, d, -, hrec⟩ := h.accepted hacc
      obtain ⟨r, hr, -⟩ := hrec trivial
      have hnone' : (net.ctrl Z).m_sessions.value? tid = none := by
        simpa [Net.view, Net.pop] using hnone
      rw [hnone'] at hr
      cases hr
    · intro Y r hY hr hstate
      obtain rfl : Y = Z := by rw [← Y.other_other, hY, Side.other_other]
      rw [hreacts.session, Option.some.injEq] at hr
      subst hr
      exact absurd rfl hstate
  · -- the chunk that is due
    rw [hcmd]
    have hZ : (net.ctrl Z).m_sessions.value? tid = some r := by simpa [Net.view] using hs
    obtain ⟨t', ht'⟩ : ∃ t', t' = Request.run json sha io (net.ctrl Z).m_socket tid
      (.fileChunk r.currentChunkIndex data) { session := r, files := (net.ctrl Z).files } := ⟨_, rfl⟩
    have hreacts : Reacts Z tid t' (net.pop Z rest) ((net.pop Z rest).put Z
        (runCommand json sha (net.ctrl Z) io
          (.request tid (.fileChunk r.currentChunkIndex data)))) := by
      rw [ht']
      exact reacts_onSession (net.pop Z rest) hZ
    have hterms : t'.session.terms = r.terms := by
      rw [ht']
      exact Request.run_terms json sha ..
    obtain ⟨htaking, hindex, htimers, hframes, htame⟩ := Taking.chunk json tid
      (t := { session := r, files := (net.ctrl Z).files }) hio hr
      (by simpa using taking) more data rfl rfl t' ht'
    refine h.tame hbase hb hsent hZ rfl htame hreacts (.inr htimers) ?_
    rw [Side.other_other, hreacts.files, hreacts.files_other, hreacts.view_receiver htame.frames,
      hframes, htimers]
    simpa using hnext _ _ (hr.of_terms hterms) htaking hindex
  · -- the end of the stream
    rw [hcmd]
    have hZ : (net.ctrl Z).m_sessions.value? tid = some r := by simpa [Net.view] using hs
    obtain ⟨t', ht'⟩ : ∃ t', t' = Request.run json sha io (net.ctrl Z).m_socket tid .fileComplete
      { session := r, files := (net.ctrl Z).files } := ⟨_, rfl⟩
    have hreacts : Reacts Z tid t' (net.pop Z rest) ((net.pop Z rest).put Z
        (runCommand json sha (net.ctrl Z) io (.request tid .fileComplete))) := by
      rw [ht']
      exact reacts_onSession (net.pop Z rest) hZ
    have hterms : t'.session.terms = r.terms := by
      rw [ht']
      exact Request.run_terms json sha ..
    obtain ⟨hstate, hfinal, htimers, hframes, htame⟩ := Taking.complete json tid
      (t := { session := r, files := (net.ctrl Z).files }) hio hr
      (by simpa using taking) rfl rfl t' ht'
    refine h.tame hbase hb hsent hZ rfl htame hreacts (.inr htimers) ?_
    rw [Side.other_other, hreacts.files, hreacts.files_other, hreacts.view_receiver htame.frames,
      hframes, htimers]
    simpa using hnext _ _ (hr.of_terms hterms) hstate hfinal

/-- A delivery to the sender of a transfer: its offer was accepted. -/
lemma deliver_sender (h : Orderly json sha net₀ (fun _ => True) log net) (hio : Reliable io)
    {f : P2PFrame} {rest : List P2PFrame} (hchan : net.chan Z = f :: rest)
    (hf : (readFrame json f).id? = some tid) (hsent : .sent Z tid path content ∈ log) :
    Orderly json sha net₀ (fun _ => True) log
      ((net.pop Z rest).put Z ((net.ctrl Z).runCommand json sha io (readFrame json f))) := by
  have hbase := (h.but tid).pop hchan hf
  have hb := base_pop net Z rest
  have hphase := h.phase trivial hsent
  rw [view_pop_sender hchan hf] at hphase
  obtain ⟨s, r, hcmd, hview, hs, hr, state, source, taking, index⟩ := hphase.of_toSender
  have hZ : (net.ctrl Z).m_sessions.value? tid = some s := congrArg View.sender hview
  obtain ⟨t', ht'⟩ : ∃ t', t' = Request.run json sha io (net.ctrl Z).m_socket tid .fileAccept
    { session := s, files := (net.ctrl Z).files } := ⟨_, rfl⟩
  rw [hcmd]
  have hreacts : Reacts Z tid t' (net.pop Z rest) ((net.pop Z rest).put Z
      (runCommand json sha (net.ctrl Z) io (.request tid .fileAccept))) := by
    rw [ht']
    exact reacts_onSession (net.pop Z rest) hZ
  rw [h.socket Z] at ht'
  obtain ⟨hnext, hfiles, htame⟩ := Phase.fileAccept json (h.own hsent).1 hio hs hr state
    source taking index t' ht'
  refine h.tame hbase hb hsent hZ rfl htame hreacts (.inl rfl) ?_
  rw [hreacts.files, hreacts.files_other, hreacts.view_sender htame.frames, hview, hfiles]
  simpa using hnext

/-- A timer of the sender fires. -/
lemma timeout (h : Orderly json sha net₀ (fun _ => True) log net) (hio : Reliable io)
    (hsent : .sent Z tid path content ∈ log) (htimer : tid ∈ (net.ctrl Z).timers) :
    Orderly json sha net₀ (fun _ => True) log (net.step json sha (.timeout Z tid, io)).1 := by
  have hbase := (h.but tid).fire (Z := Z)
  have hb := base_fire net Z tid
  have hphase := h.phase trivial hsent
  rw [view_fire htimer] at hphase
  obtain ⟨s, r, p, got, ds, hview, hs, hr, reading, taking, index, flight, more⟩ :=
    hphase.of_pending (Nat.succ_pos _)
  have hZ : ((net.fire Z tid).ctrl Z).m_sessions.value? tid = some s := congrArg View.sender hview
  have hZ' : (net.ctrl Z).m_sessions.value? tid = some s := by
    rw [← hb.sessions]
    exact hZ
  obtain ⟨t', ht'⟩ : ∃ t', t' = Request.run json sha io ((net.fire Z tid).ctrl Z).m_socket tid
    .sendNextChunk { session := s, files := ((net.fire Z tid).ctrl Z).files } := ⟨_, rfl⟩
  rw [step_timeout htimer]
  have hreacts : Reacts Z tid t' (net.fire Z tid) ((net.fire Z tid).put Z
      (((net.fire Z tid).ctrl Z).onSession tid (Request.run json sha io
        ((net.fire Z tid).ctrl Z).m_socket tid .sendNextChunk))) := by
    rw [ht']
    exact reacts_onSession _ hZ
  rw [hb.socket, h.socket Z, hb.files] at ht'
  obtain ⟨hnext, hfiles, htame⟩ := Phase.send json
    (t := { session := s, files := (net.ctrl Z).files }) (h.own hsent).1 hio.readLimit hs hr reading
    taking index flight (fun hnil => absurd hnil more) rfl rfl t' ht'
  refine h.tame hbase hb hsent hZ' rfl htame hreacts (.inl rfl) ?_
  rw [hreacts.files, hreacts.files_other, hreacts.view_sender htame.frames, hfiles, hb.files]
  have hbase_view : (net.fire Z tid).view json Z tid =
      ⟨some s, some r, chunks tid r.currentChunkIndex ds, [], 0, 0⟩ := by
    generalize (net.fire Z tid).view json Z tid = v at hview ⊢
    obtain ⟨sender, receiver, toReceiver, toSender, pending, stray⟩ := v
    rw [View.mk.injEq] at hview ⊢
    obtain ⟨hsender, hreceiver, hto, hback, hpending, hstray⟩ := hview
    exact ⟨hsender, hreceiver, hto, hback, Nat.succ.inj hpending, hstray⟩
  rw [hbase_view]
  simpa using hnext

/-- The network that already was in order, with one more acceptance noted. -/
lemma note_accepted (h : Orderly json sha net₀ (fun _ => True) log net)
    (hsent : .sent Z.other tid path content ∈ log) :
    Orderly json sha net₀ (· ≠ tid) (log ++ [.accepted Z tid]) net := by
  have hold := h.but tid
  have hmem : ∀ {X a p d}, Fact.sent X a p d ∈ log ++ [.accepted Z tid] ↔
      Fact.sent X a p d ∈ log := by simp
  constructor
  · exact hold.socket
  · exact hold.foreign
  · intro X a p d hs
    exact hold.own (hmem.mp hs)
  · intro X X' a p p' d d' hs hs'
    exact hold.unique (hmem.mp hs) (hmem.mp hs')
  · intro Y a s ha hs
    simpa only [hmem] using hold.session ha hs
  · intro Y f hf
    simpa only [hmem] using hold.frame hf
  · intro Y a ha hP
    simpa only [hmem] using hold.timer ha hP
  · intro X a p d ha hs
    exact hold.phase ha (hmem.mp hs)
  · exact hold.apart
  · intro Y a ha
    simp only [hmem]
    rcases List.mem_append.mp ha with ha | ha
    · exact hold.accepted ha
    · rw [List.mem_singleton, Fact.accepted.injEq] at ha
      obtain ⟨rfl, rfl⟩ := ha
      exact ⟨path, content, hsent, fun hne => absurd rfl hne⟩
  · intro Y a p d r ha hs hr hstate
    exact List.mem_append_left _ (hold.started ha (hmem.mp hs) hr hstate)

/-- A call of `acceptTransfer`. -/
lemma acceptTransfer (h : Orderly json sha net₀ (fun _ => True) log net) {dir : String}
    (he : Admissible net₀ net (.acceptTransfer Z tid dir, io)) :
    Orderly json sha net₀ (fun _ => True)
      (log ++ (net.step json sha (.acceptTransfer Z tid dir, io)).2)
      (net.step json sha (.acceptTransfer Z tid dir, io)).1 := by
  obtain ⟨hio, hown, hpaths⟩ := he
  cases hs : (net.ctrl Z).m_sessions.value? tid with
  | none =>
      rw [step_acceptTransfer_none hs]
      simpa using h
  | some r =>
      obtain ⟨X, path, content, hsent⟩ := (h.session trivial hs).resolve_left (by simp [hown])
      have hphase := h.phase trivial hsent
      obtain ⟨t', ht'⟩ : ∃ t', t' = Request.run json sha io (net.ctrl Z).m_socket tid
        (.acceptTransfer dir) { session := r, files := (net.ctrl Z).files } := ⟨_, rfl⟩
      rw [step_acceptTransfer hs]
      have hreacts : Reacts Z tid t' net (net.put Z ((net.ctrl Z).onSession tid
          (Request.run json sha io (net.ctrl Z).m_socket tid (.acceptTransfer dir)))) := by
        rw [ht']
        exact reacts_onSession _ hs
      rw [h.socket Z] at ht' ⊢
      rw [h.socket Z] at hreacts
      by_cases hcheck : r.state = .Offering ∧ r.direction = .Incoming
      · -- only the receiver's session is incoming
        obtain rfl : X = Z.other := by
          rcases Z.eq_or_eq_other X with rfl | hX
          · obtain ⟨s, hsender, hterms⟩ := hphase.sender
            have hsr : s = r := Option.some.inj (hsender.symm.trans hs)
            have hout := hterms.direction
            rw [hsr, hcheck.2] at hout
            cases hout
          · exact hX
        rw [Side.other_other] at hphase
        obtain ⟨s, hview, hsender, hr, state, source⟩ := hphase.of_offering
          (r := r) (by simpa [Net.view] using hs) hcheck.1
        obtain ⟨hne, hfree⟩ := hpaths r hs hcheck
        have hid := (h.own hsent).1
        obtain ⟨htaking, hindex, htemp, hfinal, hkeeps⟩ := Taking.accept json tid dir
          (t := { session := r, files := (net.ctrl Z).files }) hio hr hcheck.1 hne
        obtain ⟨hframes, htimers, hresult⟩ := Turn.acceptTransfer_sends json tid dir
          (t := { session := r, files := (net.ctrl Z).files }) hcheck hio.openOk
        rw [hresult, if_pos rfl]
        rw [Request.run] at ht'
        rw [← ht'] at htaking hindex htemp hfinal hkeeps hframes htimers
        have hread := readFrame_fileAccept json (m := ⟨tid⟩) hid.ne_empty
        have hr' : IsReceiver sha content t'.session := by
          apply hr.of_terms
          rw [ht']
          exact Request.run_terms json sha io true tid (.acceptTransfer dir) _
        have hlate : t'.session.state = .Transferring ∨ t'.session.state = .Completed := by
          cases htaking with
          | live state => exact .inl state
          | empty state => exact .inr state
        have hreserved : t'.session.reserved =
            [tempPath io tid dir, finalPath io dir r] := by
          rw [hr'.reserved hlate, htemp, hfinal]
        have hout : ∀ f ∈ framesSent t'.deeds, (readFrame json f).id? = some tid := by
          intro f hf
          rw [hframes] at hf
          obtain rfl : f = _ := by simpa [framesSent] using hf
          rw [hread]
          rfl
        refine h.renew (h.note_accepted hsent) (.refl net) (List.mem_append_left _ hsent) hreacts
          hout (by simp [htimers]) ?_ ?_ ⟨h.stray hsent, .inr (by simp [htimers])⟩ ?_ ?_ ?_ ?_
        · intro b s' hb hb₀ hs' q hq
          obtain ⟨hfreeTemp, hfreeFinal⟩ := hfree b s' hb hb₀ hs'
          exact hkeeps q (fun heq => hfreeTemp (heq ▸ hq)) (fun heq => hfreeFinal (heq ▸ hq))
        · intro b s' hb hb₀ hs' _
          obtain ⟨hfreeTemp, hfreeFinal⟩ := hfree b s' hb hb₀ hs'
          rw [hreserved]
          simp [hfreeTemp, hfreeFinal]
        · rw [Side.other_other, hreacts.files, hreacts.files_other, hreacts.view_receiver hout,
            hview, hframes, htimers]
          simpa [framesSent, hread] using .accepted hsender hr' state source htaking hindex
        · intro _ hstate
          rcases hlate with hlate | hlate
          · rw [hstate] at hlate
            cases hlate
          · rw [hstate] at hlate
            cases hlate
        · intro hmem
          simpa using hmem
        · intro Y r' hY _ _
          obtain rfl : Y = Z := by rw [← Y.other_other, hY, Side.other_other]
          simp
      · -- refused: nothing changes
        have hrefused := Turn.acceptTransfer_refused json io true tid dir
          (t := { session := r, files := (net.ctrl Z).files }) (by
            rw [not_and_or] at hcheck
            exact hcheck)
        rw [hrefused]
        have hsame : t' = { session := r, files := (net.ctrl Z).files } := by
          rw [ht', Request.run, hrefused]
        have htame : Tame json tid { session := r, files := (net.ctrl Z).files } t' := by
          rw [hsame]
          exact ⟨by simp [framesSent], by simp, List.Subset.refl _, id, id, fun hstate _ => hstate,
            .inl rfl⟩
        simp only [Bool.false_eq_true, if_false, List.append_nil]
        refine h.tame (h.but tid) (.refl net) hsent hs rfl htame hreacts
          (.inr (by rw [hsame])) ?_
        have hfiles : ∀ Y, ((net.put Z ((net.ctrl Z).onSession tid (Request.run json sha io true tid
            (.acceptTransfer dir)))).ctrl Y).files = (net.ctrl Y).files := by
          intro Y
          rcases Z.eq_or_eq_other Y with rfl | rfl
          · rw [hreacts.files, hsame]
          · rw [hreacts.files_other]
        rw [hfiles, hfiles]
        rcases Z.eq_or_eq_other X with rfl | rfl
        · rw [hreacts.view_sender htame.frames, hsame]
          simpa [framesSent, Net.view, hs] using hphase
        · rw [hreacts.view_receiver htame.frames, hsame]
          rw [Side.other_other] at hphase ⊢
          simpa [framesSent, Net.view, hs] using hphase

/-- An id that neither side knows is new to the network. -/
lemma fresh (h : Orderly json sha net₀ (fun _ => True) log net)
    (hfresh : ∀ Y, (net.ctrl Y).m_sessions.value? tid = none) :
    (∀ X p d, .sent X tid p d ∉ log) ∧ (∀ Y, .accepted Y tid ∉ log) ∧
      net.view json Z tid = ⟨none, none, [], [], 0, 0⟩ := by
  have hsent : ∀ X p d, .sent X tid p d ∉ log := by
    intro X p d hmem
    obtain ⟨s, hs, -⟩ := (h.phase trivial hmem).sender
    have hknown : (net.ctrl X).m_sessions.value? tid = some s := hs
    rw [hfresh X] at hknown
    cases hknown
  have hmessages : ∀ Y, net.messages json Y tid = [] := by
    intro Y
    rw [Net.messages, List.filter_eq_nil_iff]
    intro cmd hcmd heq
    obtain ⟨f, hf, rfl⟩ := List.mem_map.mp hcmd
    obtain ⟨a, ha, hknown⟩ := h.frame hf
    rw [decide_eq_true_eq, ha, Option.some.injEq] at heq
    obtain ⟨X, p, d, hmem⟩ := hknown trivial
    rw [heq] at hmem
    exact hsent X p d hmem
  have htimers : ∀ Y, (net.ctrl Y).timers.count tid = 0 := by
    intro Y
    rw [List.count_eq_zero]
    intro hmem
    obtain ⟨p, d, hknown⟩ := h.timer hmem trivial
    exact hsent Y p d hknown
  refine ⟨hsent, ?_, ?_⟩
  · intro Y hmem
    obtain ⟨p, d, hknown, -⟩ := h.accepted hmem
    exact hsent _ p d hknown
  · simp only [Net.view, hfresh, hmessages, htimers]

variable (path content) in
/-- The network that already was in order, with one more transfer noted. -/
lemma note_sent (h : Orderly json sha net₀ (fun _ => True) log net) (hid : IsChunkId tid)
    (hfresh : ∀ Y, (net.ctrl Y).m_sessions.value? tid = none) :
    Orderly json sha net₀ (· ≠ tid) (log ++ [.sent Z tid path content]) net := by
  have hold := h.but tid
  obtain ⟨hsent, haccepted, -⟩ := h.fresh (Z := Z) hfresh
  have hmem : ∀ {X a p d}, a ≠ tid → (Fact.sent X a p d ∈ log ++ [.sent Z tid path content] ↔
      Fact.sent X a p d ∈ log) := by
    intro X a p d ha
    simp [ha]
  constructor
  · exact hold.socket
  · exact hold.foreign
  · intro X a p d hs
    rcases List.mem_append.mp hs with hs | hs
    · exact hold.own hs
    · rw [List.mem_singleton, Fact.sent.injEq] at hs
      obtain ⟨-, rfl, -⟩ := hs
      refine ⟨hid, fun Y => ?_⟩
      cases hforeign : (net₀.ctrl Y).m_sessions.value? a with
      | none => rfl
      | some s =>
          have hs := h.foreign hforeign
          rw [hfresh Y] at hs
          cases hs
  · intro X X' a p p' d d' hs hs'
    by_cases ha : a = tid
    · subst ha
      have hlast : ∀ {X p d}, Fact.sent X a p d ∈ log ++ [.sent Z a path content] →
          X = Z ∧ p = path ∧ d = content := by
        intro X p d hs
        rcases List.mem_append.mp hs with hs | hs
        · exact absurd hs (hsent X p d)
        · rw [List.mem_singleton, Fact.sent.injEq] at hs
          exact ⟨hs.1, hs.2.2.1, hs.2.2.2⟩
      obtain ⟨rfl, rfl, rfl⟩ := hlast hs
      obtain ⟨rfl, rfl, rfl⟩ := hlast hs'
      exact ⟨rfl, rfl, rfl⟩
    · exact hold.unique ((hmem ha).mp hs) ((hmem ha).mp hs')
  · intro Y a s ha hs
    simpa only [hmem ha] using hold.session ha hs
  · intro Y f hf
    obtain ⟨a, hread, hknown⟩ := hold.frame hf
    refine ⟨a, hread, fun ha => ?_⟩
    simpa only [hmem ha] using hknown ha
  · intro Y a hin ha
    simpa only [hmem ha] using hold.timer hin ha
  · intro X a p d ha hs
    exact hold.phase ha ((hmem ha).mp hs)
  · exact hold.apart
  · intro Y a ha
    have hin : Fact.accepted Y a ∈ log := by simpa using ha
    obtain ⟨p, d, hs, hrec⟩ := hold.accepted hin
    exact ⟨p, d, List.mem_append_left _ hs, hrec⟩
  · intro Y a p d r ha hs hr hstate
    exact List.mem_append_left _ (hold.started ha ((hmem ha).mp hs) hr hstate)

/-- A call of `sendFile`. -/
lemma sendFile (h : Orderly json sha net₀ (fun _ => True) log net) {ip : String}
    (he : Admissible net₀ net (.sendFile Z path ip, io)) :
    Orderly json sha net₀ (fun _ => True)
      (log ++ (net.step json sha (.sendFile Z path ip, io)).2)
      (net.step json sha (.sendFile Z path ip, io)).1 := by
  obtain ⟨hio, huuid, hfresh, hpath⟩ := he
  have hid := isChunkId_generateTransferId huuid
  rcases sendFile_eq json sha (net.ctrl Z) io path ip with
    hnothing | ⟨content, hcontent, heq⟩
  · simp only [Net.step, hnothing, put_unchanged, if_true, List.append_nil]
    exact h
  · obtain ⟨tid, htid⟩ : ∃ tid, tid = generateTransferId io.uuid := ⟨_, rfl⟩
    rw [← htid] at hid hfresh heq
    obtain ⟨s, hsession⟩ : ∃ s, s = outgoingSession (net.ctrl Z).nextObject tid path
      (sha.hex content) content.length := ⟨_, rfl⟩
    rw [← hsession] at heq
    have hstep : net.step json sha (.sendFile Z path ip, io) =
        (net.put Z ((net.ctrl Z).register s (offerDeeds json io (net.ctrl Z).m_socket ip s)),
          [.sent Z tid path content]) := by
      simp only [Net.step, heq, if_neg hid.ne_empty, hcontent, Option.getD_some]
    have hs : IsSender sha tid path content s := by
      subst hsession
      exact ⟨rfl, rfl, rfl, rfl, rfl, rfl⟩
    have hstate : s.state = .Offering := by rw [hsession]; rfl
    have hframes : framesSent (offerDeeds json io (net.ctrl Z).m_socket ip s) =
        [jsonFrame json .FileOffer (offerOf s).toJson] := by
      simp only [offerDeeds, h.socket Z, if_true]
      split_ifs <;> rfl
    have hread := readFrame_offerOf json hsession hid.ne_empty
    obtain ⟨-, haccepted, hview⟩ := h.fresh (Z := Z) hfresh
    have hbase := h.note_sent (Z := Z) path content hid hfresh
    have hreacts := reacts_register net (Z := Z)
      (offerDeeds json io (net.ctrl Z).m_socket ip s) hs.transferId
    have hout : ∀ f ∈ framesSent (offerDeeds json io (net.ctrl Z).m_socket ip s),
        (readFrame json f).id? = some tid := by
      intro f hf
      rw [hframes, List.mem_singleton] at hf
      rw [hf, hread, Command.id?, offerOf, hs.transferId]
    rw [hstep]
    have hnoted : Fact.sent Z tid path content ∈ log ++ [.sent Z tid path content] := by simp
    refine h.renew hbase (.refl net) hnoted hreacts hout (by simp)
      (fun _ _ _ _ _ _ _ => .refl _ _) ?_ ⟨?_, .inl rfl⟩ ?_ ?_ ?_ ?_
    · intro b s' _ hb₀ hs' hlive
      rw [hs.reserved (.inl hstate)]
      have hlive' : s'.Live := by
        refine hlive.resolve_left fun hnot => ?_
        rw [FileTransferSession.Live, hs.direction] at hnot
        cases hnot.1
      simpa using hpath b s' hb₀ hs' hlive'
    · intro hmem
      have hzero := congrArg View.stray hview
      exact (List.count_pos_iff.mpr hmem).ne' hzero
    · rw [hreacts.files, hreacts.files_other, hreacts.view_sender hout, hview, hframes]
      simp only [List.map_singleton, hread, List.nil_append, List.count_nil, Nat.add_zero]
      rw [hsession]
      exact .offered hcontent rfl fun i => ⟨rfl, rfl, rfl⟩
    · intro hmem
      exact absurd (by simpa using hmem) (haccepted Z)
    · intro hmem
      simpa using hmem
    · rintro Y r rfl hr _
      rw [hreacts.sessions (.inl Y.ne_other), hfresh Y] at hr
      cases hr

/-- **One event.** An admissible event keeps the network in order. -/
theorem step (h : Orderly json sha net₀ (fun _ => True) log net) {e : NetEvent × Io}
    (he : Admissible net₀ net e) :
    Orderly json sha net₀ (fun _ => True) (log ++ (net.step json sha e).2)
      (net.step json sha e).1 := by
  obtain ⟨e, io⟩ := e
  cases e with
  | sendFile Z filePath ip => exact h.sendFile he
  | acceptTransfer Z tid dir => exact h.acceptTransfer he
  | timeout Z tid =>
      have hlog : (net.step json sha (.timeout Z tid, io)).2 = [] := rfl
      rw [hlog, List.append_nil]
      by_cases htimer : tid ∈ (net.ctrl Z).timers
      · obtain ⟨p, d, hsent⟩ := h.timer htimer trivial
        exact h.timeout he.1 hsent htimer
      · rw [step_timeout_absent htimer]
        exact h
  | deliver Z ip =>
      cases hchan : net.chan Z with
      | nil =>
          rw [step_deliver_nil hchan, List.append_nil]
          exact h
      | cons f rest =>
          obtain ⟨tid, hf, hknown⟩ := h.frame (Y := Z) (f := f) (by rw [hchan]; simp)
          obtain ⟨X, p, d, hsent⟩ := hknown trivial
          rw [step_deliver hchan, List.append_nil]
          rcases Z.eq_or_eq_other X with rfl | rfl
          · exact h.deliver_sender he.1 hchan hf hsent
          · exact h.deliver_receiver he.1 hchan hf hsent

/-- A quiet network is in order. -/
lemma start (hsocket : ∀ Y, (net₀.ctrl Y).m_socket = true) (hquiet : net₀.Quiet) :
    Orderly json sha net₀ (fun _ => True) [] net₀ where
  socket := hsocket
  foreign := id
  own hs := by simp at hs
  unique hs := by simp at hs
  session _ hs := .inl hs
  frame {Y f} hf := by
    rw [hquiet.chan Y] at hf
    cases hf
  timer {Y a} ha := by
    rw [hquiet.timers Y] at ha
    cases ha
  phase _ hs := by simp at hs
  apart _ _ _ ha _ hs := by
    rw [ha] at hs
    cases hs
  accepted ha := by simp at ha
  started _ hs := by simp at hs

end Orderly

/-! ### Delivery -/

/-- What a network shows that started as `net₀`: the transfers that were accepted
are completed on both sides and their files arrived, those that were not are as
they were registered, and so are the sessions of before. -/
structure Delivered (sha : Sha256) (net₀ net : Net) (log : List Fact) : Prop where
  arrived {Y : Side} {tid} : .accepted Y tid ∈ log →
    ∃ path content s r, .sent Y.other tid path content ∈ log ∧
      (net.ctrl Y.other).m_sessions.value? tid = some s ∧ s.state = .Completed ∧
      (net.ctrl Y).m_sessions.value? tid = some r ∧ r.state = .Completed ∧
      (net.ctrl Y).files.contentAt r.finalFilePath = some content
  offered {X : Side} {tid path content} : .sent X tid path content ∈ log →
    .accepted X.other tid ∉ log →
      (∃ i, (net.ctrl X).m_sessions.value? tid =
        some (outgoingSession i tid path (sha.hex content) content.length)) ∧
      ∃ j o, (net.ctrl X.other).m_sessions.value? tid = some (incomingSession j o)
  foreign {Y : Side} {tid s} : (net₀.ctrl Y).m_sessions.value? tid = some s →
    (net.ctrl Y).m_sessions.value? tid = some s

variable {json : JsonCodec} {sha : Sha256}

/-- **Delivery.** Once all frames and timers are processed, every transfer that
was accepted is completed on both sides, with the file that was sent. -/
theorem delivery {net₀ net : Net} {es : List (NetEvent × Io)} {log : List Fact}
    (hsocket : ∀ Y, (net₀.ctrl Y).m_socket = true) (hstart : net₀.Quiet)
    (hrun : Run (network json sha) (Admissible net₀) net₀ es log net) (hquiet : net.Quiet) :
    Delivered sha net₀ net log := by
  have h : Orderly json sha net₀ (fun _ => True) log net :=
    hrun.invariant_log (I := fun _ log net => Orderly json sha net₀ (fun _ => True) log net)
      (.start hsocket hstart) fun _ _ _ _ h he => h.step he
  have hmessages : ∀ Y tid, net.messages json Y tid = [] := by
    intro Y tid
    rw [Net.messages, hquiet.chan Y]
    rfl
  refine ⟨?_, ?_, h.foreign⟩
  · intro Y tid haccepted
    obtain ⟨path, content, hsent, hrec⟩ := h.accepted haccepted
    obtain ⟨r, hr, hstate⟩ := hrec trivial
    have hphase := h.phase trivial hsent
    rw [Side.other_other] at hphase
    obtain ⟨s, hs, -, hdone, hdone', hfinal⟩ := hphase.done_of_quiet (r := r)
      (by simpa [Net.view] using hr) hstate (hmessages _ _) (hmessages _ _)
      (by simp [Net.view, hquiet.timers])
    exact ⟨path, content, s, r, hsent, hs, hdone, hr, hdone', hfinal⟩
  · intro X tid path content hsent haccepted
    refine (h.phase trivial hsent).waiting_of_quiet ?_ (hmessages _ _)
    intro r hr
    by_contra hstate
    exact haccepted (h.started trivial (by rwa [Side.other_other]) hr hstate)

/-! ### One letter -/

/-- The left side has a file with one letter. -/
def letterNet : Net where
  ctrl
    | .left => init true oneLetterFile
    | .right => init true .empty
  chan _ := []

/-- It offers the file. -/
def offerLetter : NetEvent × Io :=
  (.sendFile .left "/home/a.txt" "", { uuid := "01234567-89ab-4def-8123-456789abcdef" })

/-- The session it makes for this. -/
def letterSession : FileTransferSession :=
  outgoingSession 0 "ft_0123456789ab4" "/home/a.txt" (Sha256.sample.hex [0x61]) 1

/-- The offer that arrives. -/
def letterOffer : FileOffer :=
  { offerOf letterSession with fileName := sanitizeFileName (sanitizeFileName letterSession.fileName) }

/-- The network with the offer on its way. -/
def sentNet : Net :=
  letterNet.put .left ((init true oneLetterFile).register letterSession
    (offerDeeds compact offerLetter.2 true "" letterSession))

/-- The network after the arrival. -/
def offeredNet : Net :=
  (sentNet.pop .right []).put .right ((init true .empty).registerOffer letterOffer)

/-- The right side accepts, and all but the last frame is processed. -/
def acceptLetter : List (NetEvent × Io) :=
  [(.acceptTransfer .right "ft_0123456789ab4" "/home/in", {}),
    (.deliver .left "10.77.0.2", {}),
    (.deliver .right "10.77.0.1", {}),
    (.timeout .left "ft_0123456789ab4", {})]

/-- The last frame. -/
def completeLetter : P2PFrame :=
  jsonFrame compact .FileComplete
    (FileComplete.toJson ⟨"ft_0123456789ab4", Sha256.sample.hex [0x61], "verified"⟩)

lemma reliable_default (uuid : String) : Reliable { uuid := uuid } :=
  ⟨rfl, rfl, Nat.zero_lt_succ _, fun _ => rfl, rfl⟩

lemma step_offerLetter : letterNet.step compact .sample offerLetter =
    (sentNet, [.sent .left "ft_0123456789ab4" "/home/a.txt" [0x61]]) := by
  have hid : generateTransferId "01234567-89ab-4def-8123-456789abcdef" = "ft_0123456789ab4" := by
    decide +kernel
  have hne : "ft_0123456789ab4" ≠ "" := by decide
  have hcontent : (letterNet.ctrl .left).files.contentAt "/home/a.txt" = some [0x61] := by
    decide +kernel
  rcases sendFile_eq compact .sample (letterNet.ctrl .left) offerLetter.2
    "/home/a.txt" "" with hnothing | ⟨content, hfile, hsend⟩
  · have hdrawn : ((letterNet.ctrl .left).sendFile compact .sample offerLetter.2 "/home/a.txt"
        "").2.2 ≠ "" := by decide +kernel
    rw [hnothing] at hdrawn
    exact absurd rfl hdrawn
  · obtain rfl : content = [0x61] := Option.some.inj (hfile.symm.trans hcontent)
    unfold offerLetter at hsend ⊢
    rw [hid] at hsend
    simp only [Net.step, hsend, hcontent, if_neg hne]
    rfl

lemma step_deliverOffer (io : Io) : sentNet.step compact .sample (.deliver .right "10.77.0.1", io) =
    (offeredNet, []) := by
  have hchan : sentNet.chan .right = [jsonFrame compact .FileOffer (offerOf letterSession).toJson] :=
    rfl
  have hread := readFrame_fileOffer compact (m := offerOf letterSession) (by decide)
    (by decide) (Sha256.sample.hex_ne_empty _) (by decide) (by decide)
  rw [step_deliver hchan, hread]
  rfl

/-- The network after the acceptance. -/
def lateNet : Net := ((network compact .sample).exec offeredNet acceptLetter).2

/-- The network at the end. -/
def quietNet : Net := (lateNet.step compact .sample (.deliver .right "10.77.0.1", {})).1

lemma run_letter : Run (network compact .sample) (Admissible letterNet) letterNet
    (offerLetter :: (.deliver .right "10.77.0.1", {}) ::
      (acceptLetter ++ [(.deliver .right "10.77.0.1", ({} : Io))]))
    [.sent .left "ft_0123456789ab4" "/home/a.txt" [0x61], .accepted .right "ft_0123456789ab4"]
    quietNet := by
  have hoffer : Run (network compact .sample) (Admissible letterNet) letterNet [offerLetter]
      [.sent .left "ft_0123456789ab4" "/home/a.txt" [0x61]] sentNet := by
    have hfresh : ∀ Y a, (letterNet.ctrl Y).m_sessions.value? a = none := by
      intro Y a
      cases Y <;> rfl
    have hadmissible : Admissible letterNet letterNet offerLetter := by
      refine ⟨reliable_default _,
        ⟨by decide +kernel, List.forall_iff_forall_mem.mp (by decide +kernel)⟩,
        fun Y => hfresh Y _, ?_⟩
      intro b s _ hs
      rw [hfresh] at hs
      cases hs
    have hstep := Run.single (M := network compact .sample) hadmissible
    have heq : (network compact .sample).step letterNet offerLetter = _ := step_offerLetter
    rwa [heq] at hstep
  have hdeliver : Run (network compact .sample) (Admissible letterNet) sentNet
      [(.deliver .right "10.77.0.1", {})] [] offeredNet := by
    have hstep : Run (network compact .sample) (Admissible letterNet) sentNet
        [(.deliver .right "10.77.0.1", {})] _ _ := Run.single ⟨reliable_default _, trivial⟩
    have heq : (network compact .sample).step sentNet (.deliver .right "10.77.0.1", {}) = _ :=
      step_deliverOffer {}
    rwa [heq] at hstep
  have haccept : Run (network compact .sample) (Admissible letterNet) offeredNet acceptLetter
      [.accepted .right "ft_0123456789ab4"] lateNet := by
    have hrun : Run (network compact .sample) (Admissible letterNet) offeredNet acceptLetter
        ((network compact .sample).exec offeredNet acceptLetter).1 lateNet := by
      apply Run.exec
      refine ⟨⟨reliable_default _, rfl, ?_⟩, ⟨reliable_default _, trivial⟩,
        ⟨reliable_default _, trivial⟩, ⟨reliable_default _, trivial⟩, trivial⟩
      -- the only session of the right side is the one of the offer
      have hsession : ∀ {a s}, (offeredNet.ctrl .right).m_sessions.value? a = some s →
          a = "ft_0123456789ab4" ∧ s = incomingSession 0 letterOffer := by
        intro a s hs
        have hs' : QMap.value? ((∅ : QMap String FileTransferSession).insert "ft_0123456789ab4"
            (incomingSession 0 letterOffer)) a = some s := hs
        rw [QMap.value?_insert] at hs'
        split_ifs at hs' with ha
        · exact ⟨ha.symm, (Option.some.inj hs').symm⟩
        · simp at hs'
      intro r hr _
      obtain ⟨-, rfl⟩ := hsession hr
      refine ⟨by decide +kernel, ?_⟩
      intro b s hb _ hs
      exact absurd (hsession hs).1 hb
    have hlog : ((network compact .sample).exec offeredNet acceptLetter).1 =
        [.accepted .right "ft_0123456789ab4"] := by decide +kernel
    rwa [hlog] at hrun
  have hlast : Run (network compact .sample) (Admissible letterNet) lateNet
      [(.deliver .right "10.77.0.1", {})]
      (lateNet.step compact .sample (.deliver .right "10.77.0.1", {})).2 quietNet :=
    Run.single ⟨reliable_default _, trivial⟩
  have hnothing : (lateNet.step compact .sample (.deliver .right "10.77.0.1", {})).2 = [] := rfl
  rw [hnothing] at hlast
  exact hoffer.trans (hdeliver.trans (haccept.trans hlast))

lemma quiet_quietNet : quietNet.Quiet := by
  have hchan : lateNet.chan .right = [completeLetter] := rfl
  have hread := readFrame_fileComplete compact
    (m := ⟨"ft_0123456789ab4", Sha256.sample.hex [0x61], "verified"⟩) (by decide)
    (Sha256.sample.hex_ne_empty _)
  have hstep : quietNet = (lateNet.pop .right []).put .right ((lateNet.ctrl .right).runCommand
      compact .sample {} (.request "ft_0123456789ab4" .fileComplete)) := by
    rw [quietNet, step_deliver hchan, completeLetter, hread]
  constructor
  · intro Z
    cases Z with
    | left => rw [hstep]; decide +kernel
    | right => rw [hstep]; decide +kernel
  · intro Z
    cases Z with
    | left => rw [hstep]; decide +kernel
    | right => rw [hstep]; decide +kernel

theorem delivery_letter : ∃ net, net.Quiet ∧ Delivered .sample letterNet net
    [.sent .left "ft_0123456789ab4" "/home/a.txt" [0x61], .accepted .right "ft_0123456789ab4"] := by
  refine ⟨quietNet, quiet_quietNet, delivery ?_ ?_ run_letter quiet_quietNet⟩
  · intro Y
    cases Y <;> rfl
  · constructor
    · intro Z
      rfl
    · intro Z
      cases Z <;> rfl

end MeckChat.Protocol
