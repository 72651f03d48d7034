import MeckChat.Protocol.TransferIntegrity

/-!
The paths of incoming transfers.

* `InDir` says that a path is a directory followed by one component, and `PathsContained` that all
  paths of a controller are so and that no temporary path is one of another session, or final.
* `Placed` is what the paths of a session are built from. `Request.run_placed` is its step lemma.
* `NamesApart` is what has to hold of the ids and the names that were offered:
  `paths_contained_iff` shows it necessary and sufficient in every state reached. The names are
  sanitised and the ids are not; `slash_in_id_escapes` is a run in which that matters.
-/

namespace MeckChat.Protocol

open Qt QJson FileTransferController

variable (json : JsonCodec) (sha : Sha256)

/-! ### Paths in a directory -/

/-- A path that is the directory, a slash, and one component. -/
def InDir (dir path : String) : Prop :=
  ∃ name, IsComponent name ∧ path = QDir.withSlash dir ++ name

lemma inDir_iff {dir name : String} : InDir dir (QDir.withSlash dir ++ name) ↔ IsComponent name := by
  constructor
  · rintro ⟨name', hname', h⟩
    rwa [(String.append_right_inj _).mp h]
  · exact fun h => ⟨name, h, rfl⟩

/-- The directory ends in a slash. -/
lemma slash_mem_withSlash (dir : String) : '/' ∈ (QDir.withSlash dir).toList := by
  rw [QDir.withSlash]
  split_ifs with h
  · exact List.mem_of_getLast? h
  · rw [String.toList_append]
    exact List.mem_append_right _ (by decide)

/-- A temporary name is relative. -/
lemma filePath_temp (dir tid : String) :
    QDir.filePath dir (".tmp_" ++ tid) = QDir.withSlash dir ++ (".tmp_" ++ tid) := by
  have hrelative : QDir.isAbsolutePath (".tmp_" ++ tid) = false := by
    rw [QDir.isAbsolutePath, String.toList_append]
    rfl
  rw [QDir.filePath, hrelative, if_neg Bool.false_ne_true]

/-- A component is relative unless it denotes a resource. -/
lemma filePath_component {dir name : String} (hname : IsComponent name)
    (hcolon : name.toList.head? ≠ some ':') :
    QDir.filePath dir name = QDir.withSlash dir ++ name := by
  have hslash : name.toList.head? ≠ some '/' := fun h => hname.no_slash (List.mem_of_head? h)
  have hrelative : QDir.isAbsolutePath name = false := by
    rw [QDir.isAbsolutePath]
    simp only [hslash, hcolon, decide_false, Bool.or_self]
  rw [QDir.filePath, hrelative, if_neg Bool.false_ne_true]

/-- The temporary name of an id is a component where the id has no slash. -/
lemma isComponent_temp_iff (tid : String) : IsComponent (".tmp_" ++ tid) ↔ '/' ∉ tid.toList := by
  have hlength : ∀ name : String, name.toList.length < 5 → ".tmp_" ++ tid ≠ name := by
    rintro name hshort rfl
    rw [String.toList_append, List.length_append] at hshort
    have hfive : (".tmp_" : String).toList.length = 5 := rfl
    omega
  have hmem : '/' ∈ (".tmp_" ++ tid).toList ↔ '/' ∈ tid.toList := by
    have hno : '/' ∉ (".tmp_" : String).toList := by decide
    rw [String.toList_append, List.mem_append, or_iff_right hno]
  constructor
  · exact fun h hslash => h.no_slash (hmem.mpr hslash)
  · exact fun h => ⟨hlength _ (by decide), fun hslash => h (hmem.mp hslash), hlength _ (by decide),
      hlength _ (by decide)⟩

/-! ### Paths in a directory, and names that keep apart -/

/-- A session that was given its paths. -/
def FileTransferSession.HasPaths (s : FileTransferSession) : Prop := s.tempFilePath ≠ ""

/-- All paths lie in the directory, and a temporary path is that of one session only and no final
path. -/
structure PathsContained (dir : String) (c : FileTransferController) : Prop where
  temp : ∀ tid s, c.m_sessions.value? tid = some s → s.HasPaths → InDir dir s.tempFilePath
  final : ∀ tid s, c.m_sessions.value? tid = some s → s.HasPaths → InDir dir s.finalFilePath
  temp_ne_temp : ∀ tid s tid' s', c.m_sessions.value? tid = some s → s.HasPaths →
    c.m_sessions.value? tid' = some s' → s'.HasPaths → tid ≠ tid' →
      s.tempFilePath ≠ s'.tempFilePath
  temp_ne_final : ∀ tid s tid' s', c.m_sessions.value? tid = some s → s.HasPaths →
    c.m_sessions.value? tid' = some s' → s'.HasPaths → s.tempFilePath ≠ s'.finalFilePath

/-- Of the sessions that were given their paths, no id contains a slash, no file name denotes a
resource, and no file name is the temporary name of an id. -/
structure NamesApart (c : FileTransferController) : Prop where
  id : ∀ tid s, c.m_sessions.value? tid = some s → s.HasPaths → '/' ∉ tid.toList
  name : ∀ tid s, c.m_sessions.value? tid = some s → s.HasPaths →
    s.fileName.toList.head? ≠ some ':'
  apart : ∀ tid s tid' s', c.m_sessions.value? tid = some s → s.HasPaths →
    c.m_sessions.value? tid' = some s' → s'.HasPaths → s'.fileName ≠ ".tmp_" ++ tid

/-- Whatever is accepted goes to the directory. -/
def AcceptsInto (dir : String) (e : Event × Io) : Prop :=
  ∀ tid dir', e.1 = .acceptTransfer tid dir' → Turn.targetDir e.2 dir' = dir

/-! ### How paths are made -/

/-- A session under `tid` has a sanitised name, and either no paths or those that `acceptTransfer`
makes of the directory. -/
structure Placed (dir tid : String) (s : FileTransferSession) : Prop where
  name : IsComponent s.fileName
  paths : s.HasPaths → s.tempFilePath = QDir.filePath dir (".tmp_" ++ tid) ∧
    s.finalFilePath = QDir.filePath dir s.fileName

variable {json sha}
variable {io : Io} {b : Bool} {dir tid : String} {s : FileTransferSession} {t : Turn}
variable {c : FileTransferController} {es : List (Event × Io)} {log : List Effect}

/-- A session that was just made has a sanitised name. -/
lemma FileTransferController.Registers.fileName_eq {cmd : Command} {deeds : List Deed}
    (h : Registers json sha c io cmd s deeds) :
    ∃ rawName, s.fileName = sanitizeFileName rawName := by
  cases h with
  | @outgoing filePath _ _ hfile => exact ⟨QString.fileName filePath, by rw [outgoingSession]⟩
  | incoming offer => exact ⟨offer.fileName, by rw [incomingSession]⟩

/-- A session that was just made has no paths. -/
lemma FileTransferController.Registers.tempFilePath_eq {cmd : Command} {deeds : List Deed}
    (h : Registers json sha c io cmd s deeds) : s.tempFilePath = "" := by
  cases h with
  | outgoing hfile => rw [outgoingSession]
  | incoming offer => rw [incomingSession]

lemma placed_registered {cmd : Command} {deeds : List Deed}
    (h : Registers json sha c io cmd s deeds) : Placed dir tid s := by
  obtain ⟨rawName, hname⟩ := h.fileName_eq
  constructor
  · rw [hname]
    exact isComponent_sanitizeFileName rawName
  · exact fun hpaths => absurd h.tempFilePath_eq hpaths

lemma Turn.paths_writeData (io : Io) (t : Turn) (data : Bytes) :
    (t.writeData io data).session.tempFilePath = t.session.tempFilePath ∧
      (t.writeData io data).session.finalFilePath = t.session.finalFilePath := by
  rw [Turn.writeData]
  cases t.session.fileHandle with
  | none => exact ⟨rfl, rfl⟩
  | some h =>
      dsimp only
      split_ifs
      · exact ⟨rfl, rfl⟩
      · exact ⟨rfl, rfl⟩

variable (json) in
lemma Turn.paths_sendNextChunk (io : Io) (b : Bool) (tid : String) (t : Turn) :
    (t.sendNextChunk json io b tid).session.tempFilePath = t.session.tempFilePath ∧
      (t.sendNextChunk json io b tid).session.finalFilePath = t.session.finalFilePath := by
  rw [Turn.sendNextChunk]
  split_ifs
  · exact ⟨rfl, rfl⟩
  · simp [Turn.sendComplete]
  · simp
  · simp [Turn.sendChunk]

variable (json sha) in
/-- No request but an acceptance changes the paths. -/
lemma Request.run_paths (io : Io) (b : Bool) (tid : String) (t : Turn) (request : Request)
    (h : ∀ dir', request ≠ .acceptTransfer dir') :
    (request.run json sha io b tid t).session.tempFilePath = t.session.tempFilePath ∧
      (request.run json sha io b tid t).session.finalFilePath = t.session.finalFilePath := by
  cases request with
  | acceptTransfer dir' => exact absurd rfl (h dir')
  | rejectTransfer reason => simp [run, Turn.rejectTransfer]
  | cancelTransfer reason => simp [run, Turn.cancelTransfer]
  | fileAccept =>
      simp only [run, Turn.handleInboundFileAccept]
      split_ifs
      · exact ⟨rfl, rfl⟩
      · exact Turn.paths_sendNextChunk json io b tid
          ((t.openSource io).setState .Transferring).resetCounters
      · simp
  | fileReject reason => simp [run, Turn.handleInboundFileReject]
  | fileChunk index data =>
      rw [run, Turn.handleInboundFileChunk]
      split_ifs
      · exact ⟨rfl, rfl⟩
      · simp
      · simpa using Turn.paths_writeData io t data
  | fileComplete =>
      simp only [run, Turn.handleInboundFileComplete, Turn.moveToFinal]
      split_ifs <;> simp
  | fileCancel reason => simp [run, Turn.handleInboundFileCancel]
  | sendNextChunk => exact Turn.paths_sendNextChunk json io b tid t
  | disconnected =>
      rw [run, Turn.onSocketDisconnected]
      split_ifs <;> simp

variable (json) in
/-- The paths that an acceptance makes. -/
lemma Turn.paths_acceptTransfer (io : Io) (b : Bool) (tid dir : String)
    (h : t.session.state = .Offering ∧ t.session.direction = .Incoming) :
    (t.acceptTransfer json io b tid dir).1.session.tempFilePath = tempPath io tid dir ∧
      (t.acceptTransfer json io b tid dir).1.session.finalFilePath = finalPath io dir t.session := by
  rw [Turn.acceptTransfer, if_neg (by simp [h])]
  dsimp only
  split_ifs
  · simp only [Turn.startReceiving, Turn.completeEmpty]
    split_ifs <;> simp [tempPath, finalPath]
  · simp [tempPath, finalPath]

/-- **Step lemma for the paths of a session.** -/
theorem Request.run_placed (request : Request) (h : Placed dir tid t.session)
    (hinto : ∀ dir', request = .acceptTransfer dir' → Turn.targetDir io dir' = dir) :
    Placed dir tid (request.run json sha io b tid t).session := by
  have hname : (request.run json sha io b tid t).session.fileName = t.session.fileName :=
    congrArg Terms.fileName (request.run_terms json sha io b tid t)
  by_cases haccept : ∃ dir', request = .acceptTransfer dir'
  · obtain ⟨dir', rfl⟩ := haccept
    have hdir := hinto dir' rfl
    by_cases hcheck : t.session.state = .Offering ∧ t.session.direction = .Incoming
    · obtain ⟨htemp, hfinal⟩ := Turn.paths_acceptTransfer json io b tid dir' hcheck
      rw [tempPath, hdir] at htemp
      rw [finalPath, hdir] at hfinal
      constructor
      · rw [hname]
        exact h.name
      · rw [hname]
        exact fun _ => ⟨htemp, hfinal⟩
    · rw [run, Turn.acceptTransfer_refused json io b tid dir' (by tauto)]
      exact h
  · obtain ⟨htemp, hfinal⟩ :=
      request.run_paths json sha io b tid t fun dir' heq => haccept ⟨dir', heq⟩
    constructor
    · rw [hname]
      exact h.name
    · rw [FileTransferSession.HasPaths, htemp, hfinal, hname]
      exact h.paths

/-! ### The controller -/

namespace FileTransferController

/-- Every session is placed. -/
def AllPlaced (dir : String) (c : FileTransferController) : Prop :=
  ∀ tid s, c.m_sessions.value? tid = some s → Placed dir tid s

lemma AllPlaced.onSession {f : Turn → Turn} (h : AllPlaced dir c)
    (hself : ∀ t : Turn, Placed dir tid t.session → Placed dir tid (f t).session) :
    AllPlaced dir (c.onSession tid f).1 := by
  intro tid' s' hs'
  by_cases htid : tid' = tid
  · subst htid
    cases hs : c.m_sessions.value? tid' with
    | none =>
        rw [onSession_none hs, hs] at hs'
        cases hs'
    | some s =>
        rw [value?_onSession_self hs] at hs'
        rw [← Option.some_inj.mp hs']
        exact hself _ (h tid' s hs)
  · rw [value?_onSession_of_ne htid] at hs'
    exact h tid' s' hs'

/-- **One step.** -/
lemma allPlaced_step (h : AllPlaced dir c) {e : Event × Io} (he : AcceptsInto dir e) :
    AllPlaced dir (c.step json sha e.1 e.2).1 := by
  refine step_induction (I := fun c _ => AllPlaced dir c) [] h ?_ ?_ ?_ ?_
  · intro s deeds hregisters tid s' hs'
    rw [FileTransferController.register, QMap.value?_insert] at hs'
    split_ifs at hs'
    · rw [← Option.some_inj.mp hs']
      exact placed_registered hregisters
    · exact h tid s' hs'
  · intro tid s request hcommand _
    refine h.onSession fun t ht => request.run_placed ht ?_
    rintro dir' rfl
    exact he tid dir' (acceptTransfer_of_command json hcommand)
  · intro tid hcommand hmem
    have hfired : AllPlaced dir { c with timers := c.timers.erase tid } := h
    exact hfired.onSession fun t ht => Request.run_placed .sendNextChunk ht (by simp)
  · intro _ c log tid h
    exact h.onSession fun t ht => Request.run_placed .disconnected ht (by simp)

/-- The paths of two sessions in terms of their ids and names. -/
lemma AllPlaced.contained_iff (h : AllPlaced dir c) : PathsContained dir c ↔ NamesApart c := by
  constructor
  · intro hcontained
    refine ⟨?_, ?_, ?_⟩
    · intro tid s hs hpaths
      have hin := hcontained.temp tid s hs hpaths
      rw [((h tid s hs).paths hpaths).1, filePath_temp, inDir_iff, isComponent_temp_iff] at hin
      exact hin
    · -- otherwise the final path is the name, which has no slash
      intro tid s hs hpaths hcolon
      obtain ⟨name, -, hpath⟩ := hcontained.final tid s hs hpaths
      have habsolute : QDir.isAbsolutePath s.fileName = true := by
        rw [QDir.isAbsolutePath, hcolon]
        rfl
      rw [((h tid s hs).paths hpaths).2, QDir.filePath, if_pos habsolute] at hpath
      refine (h tid s hs).name.no_slash ?_
      rw [hpath, String.toList_append]
      exact List.mem_append_left _ (slash_mem_withSlash dir)
    · intro tid s tid' s' hs hpaths hs' hpaths' hname
      refine hcontained.temp_ne_final tid s tid' s' hs hpaths hs' hpaths' ?_
      rw [((h tid s hs).paths hpaths).1, ((h tid' s' hs').paths hpaths').2, hname]
  · intro hapart
    have htemp : ∀ tid s, c.m_sessions.value? tid = some s → s.HasPaths →
        s.tempFilePath = QDir.withSlash dir ++ (".tmp_" ++ tid) := by
      intro tid s hs hpaths
      rw [((h tid s hs).paths hpaths).1, filePath_temp]
    have hfinal : ∀ tid s, c.m_sessions.value? tid = some s → s.HasPaths →
        s.finalFilePath = QDir.withSlash dir ++ s.fileName := by
      intro tid s hs hpaths
      rw [((h tid s hs).paths hpaths).2,
        filePath_component (h tid s hs).name (hapart.name tid s hs hpaths)]
    refine ⟨?_, ?_, ?_, ?_⟩
    · intro tid s hs hpaths
      rw [htemp tid s hs hpaths, inDir_iff, isComponent_temp_iff]
      exact hapart.id tid s hs hpaths
    · intro tid s hs hpaths
      rw [hfinal tid s hs hpaths, inDir_iff]
      exact (h tid s hs).name
    · intro tid s tid' s' hs hpaths hs' hpaths' hne heq
      rw [htemp tid s hs hpaths, htemp tid' s' hs' hpaths'] at heq
      exact hne ((String.append_right_inj _).mp ((String.append_right_inj _).mp heq))
    · intro tid s tid' s' hs hpaths hs' hpaths' heq
      rw [htemp tid s hs hpaths, hfinal tid' s' hs' hpaths'] at heq
      exact hapart.apart tid s tid' s' hs hpaths hs' hpaths' ((String.append_right_inj _).mp heq).symm

/-- **Path containment.** In every state that is reached with acceptances into one directory, the
paths are contained in it and kept apart exactly when the ids and the names are such. -/
theorem paths_contained_iff {m_socket : Bool} {files : FileSystem}
    (hrun : Run (machine json sha) (fun _ e => AcceptsInto dir e) (init m_socket files) es log c) :
    PathsContained dir c ↔ NamesApart c := by
  have hplaced : AllPlaced dir c := by
    refine hrun.invariant (I := AllPlaced dir) ?_ fun c e h he => allPlaced_step h he
    intro tid s hs
    rw [init, QMap.value?_empty] at hs
    cases hs
  exact hplaced.contained_iff

/-- The controller behind an offer that is accepted. -/
def acceptedInto (offer : FileOffer) : FileTransferController :=
  (((init true .empty).registerOffer offer).1.step compact .sample
    (.acceptTransfer offer.transferId "/home/in") {}).1

/-- The offer and its acceptance, as a run. -/
lemma run_acceptedInto (e : Event × Io) {offer : FileOffer}
    (h : e.1.command compact = .offer offer) :
    ∃ es log, Run (machine compact .sample) (fun _ e => AcceptsInto "/home/in" e) (init true .empty)
      es log (acceptedInto offer) := by
  have harrives : ((machine compact .sample).step (init true .empty) e).1 =
      ((init true .empty).registerOffer offer).1 := by
    rw [machine_step, step_eq_run, h, runCommand]
  have hfirst : AcceptsInto "/home/in" e := by
    intro tid dir heq
    rw [heq] at h
    cases h
  have hsecond : AcceptsInto "/home/in" (.acceptTransfer offer.transferId "/home/in", {}) := by
    rintro tid dir ⟨⟩
    rfl
  have hrun : Run (machine compact .sample) (fun _ e => AcceptsInto "/home/in" e) (init true .empty)
      _ _ _ := Run.snoc (Run.single hfirst) hsecond
  rw [harrives] at hrun
  exact ⟨_, _, hrun⟩

/-- The session of an offer that was accepted is the only one. -/
lemma value?_acceptedInto {offer : FileOffer}
    (h : (acceptedInto offer).m_sessions.value? tid = some s) :
    tid = offer.transferId ∧ s.fileName = sanitizeFileName offer.fileName := by
  rw [acceptedInto, step_eq_run, Event.command, runCommand, onRequest] at h
  by_cases htid : tid = offer.transferId
  · have hoffered : ((init true .empty).registerOffer offer).1.m_sessions.value? offer.transferId =
        some (incomingSession 0 offer) := QMap.value?_insert_self _ _ _
    have hname : ∀ (b : Bool) (t : Turn),
        (Request.run compact .sample {} b offer.transferId (.acceptTransfer "/home/in") t).session.fileName =
          t.session.fileName := fun b t =>
      congrArg Terms.fileName (Request.run_terms compact .sample {} b offer.transferId _ t)
    rw [htid, value?_onSession_self hoffered, Option.some.injEq] at h
    have hsession : (incomingSession 0 offer).fileName = sanitizeFileName offer.fileName := by
      rw [incomingSession]
    rw [← h, hname]
    exact ⟨htid, hsession⟩
  · rw [value?_onSession_of_ne htid, registerOffer, init, QMap.value?_insert_of_ne _ (Ne.symm htid),
      QMap.value?_empty] at h
    cases h

/-- The paths of an empty file that is accepted. -/
theorem paths_contained_iff_empty_file :
    PathsContained "/home/in" (acceptedInto (emptyOffer (Sha256.sample.hex []))) := by
  obtain ⟨es, log, hrun⟩ := run_acceptedInto _ (command_offerArrives (Sha256.sample.hex_ne_empty []))
  have hname : sanitizeFileName "b.txt" = "b.txt" := by decide +kernel
  refine (paths_contained_iff hrun).mpr ⟨?_, ?_, ?_⟩
  · intro tid s hs _
    rw [(value?_acceptedInto hs).1]
    decide
  · intro tid s hs _
    rw [(value?_acceptedInto hs).2, emptyOffer, hname]
    decide
  · intro tid s tid' s' hs _ hs' _
    rw [(value?_acceptedInto hs).1, (value?_acceptedInto hs').2, emptyOffer, hname]
    decide

/-- An offer whose id is a path. -/
def slashOffer : FileOffer := ⟨"a/b", "b.txt", 0, Sha256.sample.hex [], 65536, 0⟩

/-- **An id with a slash.** The temporary path of an accepted transfer leaves the directory. -/
theorem slash_in_id_escapes :
    ¬ ∀ es log c, Run (machine compact .sample) (fun _ e => AcceptsInto "/home/in" e)
        (init true .empty) es log c → PathsContained "/home/in" c := by
  intro h
  have hname : sanitizeFileName (sanitizeFileName "b.txt") = "b.txt" := by decide +kernel
  have hcommand : (Event.frameReceivedFrom (jsonFrame compact .FileOffer slashOffer.toJson)
      "10.77.0.2").command compact = .offer slashOffer := by
    have hread := readFrame_fileOffer compact (m := slashOffer) (by decide) (by decide)
      (Sha256.sample.hex_ne_empty _) (by decide) (by decide)
    rw [Event.command, hread]
    simp [slashOffer, hname]
  obtain ⟨es, log, hrun⟩ := run_acceptedInto
    (.frameReceivedFrom (jsonFrame compact .FileOffer slashOffer.toJson) "10.77.0.2", {}) hcommand
  have htemp : ((acceptedInto slashOffer).m_sessions.value? "a/b").map (·.tempFilePath) =
      some "/home/in/.tmp_a/b" := by decide +kernel
  obtain ⟨s, hs, hpath⟩ := Option.map_eq_some_iff.mp htemp
  have hin := (h es log _ hrun).temp _ s hs (by rw [FileTransferSession.HasPaths, hpath]; decide)
  have hsplit : s.tempFilePath = QDir.withSlash "/home/in" ++ ".tmp_a/b" := by
    rw [hpath]
    decide +kernel
  rw [hsplit, inDir_iff] at hin
  exact hin.no_slash (by decide)

end FileTransferController

end MeckChat.Protocol
