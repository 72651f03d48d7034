import MeckChat.Protocol.FileTransferSteps

/-!
The life of a transfer session.

* `Moves` is the state machine that a session is meant to follow, `stateWrites`
  and `reports` read the assignments to `state` and the closing signals out of
  the history of a session.
* `Lawful a deeds b`: the deeds lead from `a` to `b` along `Moves`, with a
  closing signal exactly when a final state is entered.
* `Request.run_lawful` is the step lemma: every handler is lawful, except that
  nothing stops `rejectTransfer`, `cancelTransfer` and the frames `FileReject`
  and `FileCancel` from hitting a session in any state. `Request.Timely` is the
  condition on these four.
* `timely_run_lawful`: runs whose requests are timely keep every session on
  `Moves` and close it once; `cancel_after_completion` is a run that is not
  timely.
-/

namespace MeckChat.Protocol

open Qt QJson FileTransferController

variable (json : JsonCodec) (sha : Sha256)

/-! ### The state machine -/

/-- The states a session may go to. -/
def TransferState.next : TransferState → List TransferState
  | .Offering => [.Transferring, .Rejected, .Cancelled, .Failed]
  | .Transferring => [.Verifying, .Completed, .Failed, .Cancelled]
  | .Verifying => [.Completed, .Failed]
  | _ => []

/-- One move of a session. -/
def Moves (a b : TransferState) : Prop := b ∈ a.next

instance (a b : TransferState) : Decidable (Moves a b) := inferInstanceAs (Decidable (b ∈ a.next))

/-- The states without a way out. -/
def TransferState.isFinal : TransferState → Bool
  | .Completed | .Failed | .Rejected | .Cancelled => true
  | _ => false

/-- The state a deed assigns. -/
@[simp] def Deed.newState? : Deed → Option TransferState
  | .state new => some new
  | _ => none

/-- The signals that close a transfer. -/
@[simp] def Signal.isReport : Signal → Bool
  | .transferCompleted _ _ | .transferFailed _ _ | .transferRejected _ _
  | .transferCancelled _ _ => true
  | _ => false

/-- The closing signal a deed emits. -/
@[simp] def Deed.report? : Deed → Option Signal
  | .signal s => if s.isReport then some s else none
  | _ => none

/-- The assignments to the state, in order. -/
def stateWrites (deeds : List Deed) : List TransferState := deeds.filterMap Deed.newState?

/-- The closing signals, in order. -/
def reports (deeds : List Deed) : List Signal := deeds.filterMap Deed.report?

@[simp] lemma stateWrites_nil : stateWrites [] = [] := rfl

@[simp] lemma reports_nil : reports [] = [] := rfl

@[simp] lemma stateWrites_append (ds ds' : List Deed) :
    stateWrites (ds ++ ds') = stateWrites ds ++ stateWrites ds' := List.filterMap_append

@[simp] lemma reports_append (ds ds' : List Deed) :
    reports (ds ++ ds') = reports ds ++ reports ds' := List.filterMap_append

/-- The deeds take a session from state `a` to state `b` along `Moves`, closing
it at most once, and leave it in a state that is no transient one. -/
structure Lawful (a : TransferState) (deeds : List Deed) (b : TransferState) : Prop where
  moves : List.IsChain Moves (a :: stateWrites deeds)
  last : (stateWrites deeds).getLast?.getD a = b
  closing : (reports deeds).length + a.isFinal.toNat = b.isFinal.toNat
  settled : b ≠ .Verifying

namespace Lawful

variable {a b c : TransferState} {ds ds' : List Deed}

lemma nil (h : a ≠ .Verifying) : Lawful a [] a :=
  ⟨List.isChain_singleton a, rfl, by simp, h⟩

lemma append (h : Lawful a ds b) (h' : Lawful b ds' c) : Lawful a (ds ++ ds') c where
  moves := by
    rw [stateWrites_append, ← List.cons_append, List.isChain_append]
    refine ⟨h.moves, ?_, ?_⟩
    · exact (List.isChain_cons.mp h'.moves).2
    · intro x hx y hy
      have hxb : x = b := by
        rw [← h.last]
        rw [List.getLast?_cons, Option.mem_some_iff] at hx
        exact hx.symm
      subst hxb
      exact (List.isChain_cons.mp h'.moves).1 y hy
  last := by
    rw [← h'.last, ← h.last, stateWrites_append, List.getLast?_append]
    cases (stateWrites ds').getLast? <;> rfl
  closing := by
    have h1 := h.closing
    have h2 := h'.closing
    rw [reports_append, List.length_append]
    omega
  settled := h'.settled

lemma reports_length_le (h : Lawful a ds b) : (reports ds).length ≤ 1 := by
  have h1 := h.closing
  have h2 := Bool.toNat_le b.isFinal
  omega

end Lawful

/-! ### The handlers -/

/-- The requests that no handler checks against the state: they have to come
in time. -/
def Request.Timely (r : Request) (a : TransferState) : Prop :=
  match r with
  | .rejectTransfer _ | .fileReject _ => a = .Offering
  | .cancelTransfer _ | .fileCancel _ => a = .Offering ∨ a = .Transferring
  | _ => True

section Handlers

variable {json sha}
variable {io : Io} {b : Bool} {tid : String} {t : Turn}

/-- Nothing was done and the state is the same. -/
lemma Lawful.of_eq {a b : TransferState} {ds : List Deed} (hw : stateWrites ds = [])
    (hr : reports ds = []) (ha : b = a) (hv : a ≠ .Verifying) : Lawful a ds b := by
  subst ha
  exact ⟨by simp [hw], by simp [hw], by simp [hr], hv⟩

/-- A handler with a fixed path through the state machine and a fixed number of
closing signals. -/
lemma Lawful.of_path {a b : TransferState} {ds : List Deed} (path : List TransferState) (n : ℕ)
    (hw : stateWrites ds = path) (hr : (reports ds).length = n) (hb : b = path.getLast?.getD a)
    (hpath : List.IsChain Moves (a :: path) ∧
      n + a.isFinal.toNat = (path.getLast?.getD a).isFinal.toNat ∧
      path.getLast?.getD a ≠ .Verifying) : Lawful a ds b := by
  subst hb
  exact ⟨by rw [hw]; exact hpath.1, by rw [hw], by rw [hr]; exact hpath.2.1, hpath.2.2⟩

lemma Turn.lawful_sendNextChunk (hv : t.session.state ≠ .Verifying) (hd : t.deeds = []) :
    Lawful t.session.state (t.sendNextChunk json io b tid).deeds
      (t.sendNextChunk json io b tid).session.state := by
  unfold Turn.sendNextChunk Turn.sendComplete Turn.sendChunk
  split_ifs with h1 h2 h3
  · exact .of_eq (by simp [hd]) (by simp [hd]) rfl hv
  · have ha : t.session.state = .Transferring := by
      by_contra hne
      exact h1 (.inl hne)
    rw [ha]
    exact .of_path [.Verifying, .Completed] 1 (by simp [stateWrites, hd]) (by simp [reports, hd])
      (by simp) (by decide)
  · have ha : t.session.state = .Transferring := by
      by_contra hne
      exact h1 (.inl hne)
    rw [ha]
    exact .of_path [.Failed] 1 (by simp [stateWrites, hd]) (by simp [reports, hd]) (by simp)
      (by decide)
  · exact .of_eq (by simp [stateWrites, hd]) (by simp [reports, hd]) (by simp) hv

lemma Turn.lawful_acceptTransfer (dir : String) (hv : t.session.state ≠ .Verifying)
    (hd : t.deeds = []) :
    Lawful t.session.state (t.acceptTransfer json io b tid dir).1.deeds
      (t.acceptTransfer json io b tid dir).1.session.state := by
  unfold Turn.acceptTransfer Turn.startReceiving Turn.completeEmpty
  dsimp only
  split_ifs with h1 h2 h3
  · exact .of_eq (by simp [hd]) (by simp [hd]) rfl hv
  all_goals
    have ha : t.session.state = .Offering := by
      by_contra hne
      exact h1 (.inl hne)
    rw [ha]
  · exact .of_path [.Transferring, .Completed] 1 (by simp [stateWrites, hd])
      (by simp [reports, hd]) (by simp) (by decide)
  · exact .of_path [.Transferring] 0 (by simp [stateWrites, hd]) (by simp [reports, hd]) (by simp)
      (by decide)
  · exact .of_path [.Failed] 1 (by simp [stateWrites, hd]) (by simp [reports, hd]) (by simp)
      (by decide)

lemma Turn.lawful_handleInboundFileAccept (hv : t.session.state ≠ .Verifying)
    (hd : t.deeds = []) :
    Lawful t.session.state (t.handleInboundFileAccept json io b tid).deeds
      (t.handleInboundFileAccept json io b tid).session.state := by
  unfold Turn.handleInboundFileAccept
  dsimp only
  split_ifs with h1 h2
  · exact .of_eq (by simp [hd]) (by simp [hd]) rfl hv
  all_goals
    have ha : t.session.state = .Offering := by
      by_contra hne
      exact h1 (.inr hne)
    rw [ha]
  · unfold Turn.sendNextChunk Turn.sendComplete Turn.sendChunk
    split_ifs with h3 h4 h5
    · exact .of_path [.Transferring] 0 (by simp [stateWrites, hd]) (by simp [reports, hd])
        (by simp) (by decide)
    · exact .of_path [.Transferring, .Verifying, .Completed] 1 (by simp [stateWrites, hd])
        (by simp [reports, hd]) (by simp) (by decide)
    · exact .of_path [.Transferring, .Failed] 1 (by simp [stateWrites, hd])
        (by simp [reports, hd]) (by simp) (by decide)
    · exact .of_path [.Transferring] 0 (by simp [stateWrites, hd]) (by simp [reports, hd])
        (by simp) (by decide)
  · exact .of_path [.Failed] 1 (by simp [stateWrites, hd]) (by simp [reports, hd]) (by simp)
      (by decide)

lemma Turn.lawful_handleInboundFileChunk (index : UInt32) (data : Bytes)
    (hv : t.session.state ≠ .Verifying) (hd : t.deeds = []) :
    Lawful t.session.state (t.handleInboundFileChunk io tid index data).deeds
      (t.handleInboundFileChunk io tid index data).session.state := by
  unfold Turn.handleInboundFileChunk
  dsimp only
  split_ifs with h1 h2
  · exact .of_eq (by simp [hd]) (by simp [hd]) rfl hv
  · have ha : t.session.state = .Transferring := by
      by_contra hne
      exact h1 (.inl hne)
    rw [ha]
    exact .of_path [.Failed] 1 (by simp [stateWrites, hd]) (by simp [reports, hd]) (by simp)
      (by decide)
  · exact .of_eq (by simp [stateWrites, hd]) (by simp [reports, hd])
      (by simp [Turn.state_writeData]) hv

lemma Turn.lawful_handleInboundFileComplete (hv : t.session.state ≠ .Verifying)
    (hd : t.deeds = []) :
    Lawful t.session.state (t.handleInboundFileComplete sha io tid).deeds
      (t.handleInboundFileComplete sha io tid).session.state := by
  unfold Turn.handleInboundFileComplete Turn.moveToFinal
  dsimp only
  split_ifs with h1 h2 h3
  · exact .of_eq (by simp [hd]) (by simp [hd]) rfl hv
  all_goals
    have ha : t.session.state = .Transferring := by
      by_contra hne
      exact h1 (.inr hne)
    rw [ha]
  · exact .of_path [.Verifying, .Completed] 1 (by simp [stateWrites, hd]) (by simp [reports, hd])
      (by simp) (by decide)
  · exact .of_path [.Verifying, .Failed] 1 (by simp [stateWrites, hd]) (by simp [reports, hd])
      (by simp) (by decide)
  · exact .of_path [.Verifying, .Failed] 1 (by simp [stateWrites, hd]) (by simp [reports, hd])
      (by simp) (by decide)

/-- **Step lemma.** A request that comes in time moves its session along
`Moves`. -/
theorem Request.run_lawful (r : Request) (hv : t.session.state ≠ .Verifying) (hd : t.deeds = [])
    (hr : r.Timely t.session.state) :
    Lawful t.session.state (r.run json sha io b tid t).deeds
      (r.run json sha io b tid t).session.state := by
  cases r with
  | acceptTransfer dir => exact Turn.lawful_acceptTransfer dir hv hd
  | rejectTransfer reason =>
      have ha : t.session.state = .Offering := hr
      rw [ha]
      exact .of_path [.Rejected] 1 (by simp [run, Turn.rejectTransfer, stateWrites, hd])
        (by simp [run, Turn.rejectTransfer, reports, hd]) (by simp [run, Turn.rejectTransfer])
        (by decide)
  | cancelTransfer reason =>
      rcases hr with ha | ha <;> rw [ha] <;>
        exact .of_path [.Cancelled] 1 (by simp [run, Turn.cancelTransfer, stateWrites, hd])
          (by simp [run, Turn.cancelTransfer, reports, hd]) (by simp [run, Turn.cancelTransfer])
          (by decide)
  | fileAccept => exact Turn.lawful_handleInboundFileAccept hv hd
  | fileReject reason =>
      have ha : t.session.state = .Offering := hr
      rw [ha]
      exact .of_path [.Rejected] 1 (by simp [run, Turn.handleInboundFileReject, stateWrites, hd])
        (by simp [run, Turn.handleInboundFileReject, reports, hd])
        (by simp [run, Turn.handleInboundFileReject]) (by decide)
  | fileChunk index data => exact Turn.lawful_handleInboundFileChunk index data hv hd
  | fileComplete => exact Turn.lawful_handleInboundFileComplete hv hd
  | fileCancel reason =>
      rcases hr with ha | ha <;> rw [ha] <;>
        exact .of_path [.Cancelled] 1 (by simp [run, Turn.handleInboundFileCancel, stateWrites, hd])
          (by simp [run, Turn.handleInboundFileCancel, reports, hd])
          (by simp [run, Turn.handleInboundFileCancel]) (by decide)
  | sendNextChunk => exact Turn.lawful_sendNextChunk hv hd
  | disconnected =>
      simp only [run, Turn.onSocketDisconnected]
      split_ifs with h1
      · rcases h1 with ha | ha <;> rw [ha] <;>
          exact .of_path [.Failed] 1 (by simp [stateWrites, hd]) (by simp [reports, hd]) (by simp)
            (by decide)
      · exact .of_eq (by simp [hd]) (by simp [hd]) rfl hv

/-- The condition is exact: a request that is not in time leaves `Moves`. -/
theorem Request.timely_of_moves (r : Request) (hd : t.deeds = [])
    (h : List.IsChain Moves (t.session.state :: stateWrites (r.run json sha io b tid t).deeds)) :
    r.Timely t.session.state := by
  have hrejected : ∀ a, Moves a .Rejected → a = .Offering := by
    intro a ha
    cases a <;> first | rfl | exact absurd ha (by decide)
  have hcancelled : ∀ a, Moves a .Cancelled → a = .Offering ∨ a = .Transferring := by
    intro a ha
    cases a <;> first | exact .inl rfl | exact .inr rfl | exact absurd ha (by decide)
  cases r with
  | rejectTransfer reason =>
      simp [run, Turn.rejectTransfer, stateWrites, hd] at h
      exact hrejected _ h
  | cancelTransfer reason =>
      simp [run, Turn.cancelTransfer, stateWrites, hd] at h
      exact hcancelled _ h
  | fileReject reason =>
      simp [run, Turn.handleInboundFileReject, stateWrites, hd] at h
      exact hrejected _ h
  | fileCancel reason =>
      simp [run, Turn.handleInboundFileCancel, stateWrites, hd] at h
      exact hcancelled _ h
  | acceptTransfer dir => trivial
  | fileAccept => trivial
  | fileChunk index data => trivial
  | fileComplete => trivial
  | sendNextChunk => trivial
  | disconnected => trivial

/-- Within one request an offered transfer is completed only by accepting an
empty file, or by the acceptance of an outgoing one with nothing to send. -/
lemma Request.completed_of_offering {r : Request} (ha : t.session.state = .Offering)
    (hc : (r.run json sha io b tid t).session.state = .Completed) :
    (∃ dir, r = .acceptTransfer dir ∧ t.session.fileSize = 0) ∨
      (r = .fileAccept ∧ t.session.direction = .Outgoing) := by
  cases r with
  | acceptTransfer dir =>
      left
      simp only [run, Turn.acceptTransfer, Turn.startReceiving] at hc
      split_ifs at hc with h1 h2 h3
      · rw [ha] at hc
        cases hc
      · exact ⟨dir, rfl, by simpa using h3⟩
      · simp at hc
      · simp at hc
  | fileAccept =>
      right
      refine ⟨rfl, ?_⟩
      by_contra hdir
      simp only [run, Turn.handleInboundFileAccept, if_pos (Or.inl hdir), ha] at hc
      cases hc
  | rejectTransfer reason => simp [run, Turn.rejectTransfer] at hc
  | cancelTransfer reason => simp [run, Turn.cancelTransfer] at hc
  | fileReject reason => simp [run, Turn.handleInboundFileReject] at hc
  | fileChunk index data => simp [run, Turn.handleInboundFileChunk, ha] at hc
  | fileComplete => simp [run, Turn.handleInboundFileComplete, ha] at hc
  | fileCancel reason => simp [run, Turn.handleInboundFileCancel] at hc
  | sendNextChunk => simp [run, Turn.sendNextChunk, ha] at hc
  | disconnected => simp [run, Turn.onSocketDisconnected, ha] at hc

end Handlers

/-! ### Runs -/

namespace FileTransferController

/-- The four unchecked requests of an event come in time. -/
def TimelyStep (c : FileTransferController) (e : Event × Io) : Prop :=
  ∀ tid r s, e.1.command json = .request tid r → c.m_sessions.value? tid = some s →
    r.Timely s.state

/-- Every session object has a lawful history, which for a registered one leads
to its state. -/
structure LawfulHistories (c : FileTransferController) (log : List Effect) : Prop where
  numbered : Numbered c log
  current {tid s} : c.m_sessions.value? tid = some s →
    Lawful .Offering (deedsOf s.objectId log) s.state
  past (i : ℕ) : ∃ b, Lawful .Offering (deedsOf i log) b

variable {json sha}
variable {c : FileTransferController} {log : List Effect} {es : List (Event × Io)}

lemma LawfulHistories.init (m_socket : Bool) (files : FileSystem) :
    LawfulHistories (init m_socket files) [] where
  numbered := Numbered.init m_socket files
  current h := by simp [FileTransferController.init] at h
  past _ := ⟨.Offering, .nil (by decide)⟩

lemma LawfulHistories.onRequest (h : LawfulHistories c log) {tid : String}
    {s : FileTransferSession} {r : Request} (io : Io) (hs : c.m_sessions.value? tid = some s)
    (hr : r.Timely s.state) :
    LawfulHistories (c.onRequest json sha io tid r).1
      (log ++ (c.onRequest json sha io tid r).2) := by
  have hnum := h.numbered.onRequest json sha io tid r
  set t : Turn := { session := s, files := c.files } with ht
  have hstep : Lawful s.state (r.run json sha io c.m_socket tid t).deeds
      (r.run json sha io c.m_socket tid t).session.state :=
    Request.run_lawful (t := t) r (h.current hs).settled rfl hr
  have hown : deedsOf s.objectId (log ++ (c.onRequest json sha io tid r).2) =
      deedsOf s.objectId log ++ (r.run json sha io c.m_socket tid t).deeds := by
    rw [deedsOf_append]
    exact congrArg _ (deedsOf_onSession_self hs)
  have hother : ∀ i, s.objectId ≠ i →
      deedsOf i (log ++ (c.onRequest json sha io tid r).2) = deedsOf i log := by
    intro i hi
    rw [deedsOf_append, FileTransferController.onRequest, deedsOf_onSession_of_ne hs hi,
      List.append_nil]
  refine ⟨hnum, ?_, ?_⟩
  · intro tid' s' hs'
    by_cases htid : tid' = tid
    · subst htid
      rw [FileTransferController.onRequest, value?_onSession_self hs, Option.some.injEq] at hs'
      have hid : s'.objectId = s.objectId := by
        rw [← hs']
        exact congrArg Terms.objectId (r.run_terms json sha io c.m_socket tid' t)
      rw [hid, hown, ← hs']
      exact (h.current hs).append hstep
    · rw [FileTransferController.onRequest, value?_onSession_of_ne htid] at hs'
      have hne : s.objectId ≠ s'.objectId := fun heq => htid (h.numbered.inj hs' hs heq.symm)
      rw [hother _ hne]
      exact h.current hs'
  · intro i
    by_cases hi : s.objectId = i
    · subst hi
      rw [hown]
      exact ⟨_, (h.current hs).append hstep⟩
    · rw [hother i hi]
      exact h.past i

lemma LawfulHistories.register (h : LawfulHistories c log) {io : Io} {cmd : Command}
    {s : FileTransferSession} {deeds : List Deed} (hr : Registers json sha c io cmd s deeds) :
    LawfulHistories (c.register s deeds).1 (log ++ (c.register s deeds).2) := by
  have hquiet : Lawful .Offering deeds .Offering := by
    cases hr with
    | outgoing hfile =>
        apply Lawful.of_path [] 0 _ _ rfl (by decide)
        · simp only [offerDeeds]
          split_ifs <;> rfl
        · simp only [offerDeeds]
          split_ifs <;> rfl
    | incoming offer => exact .of_path [] 0 rfl rfl rfl (by decide)
  have hnew : deedsOf c.nextObject (log ++ (c.register s deeds).2) = deeds := by
    rw [deedsOf_append, h.numbered.fresh le_rfl, List.nil_append]
    exact deedsOf_map_self _ _
  have hold : ∀ i, i ≠ c.nextObject →
      deedsOf i (log ++ (c.register s deeds).2) = deedsOf i log := by
    intro i hi
    rw [deedsOf_append, FileTransferController.register, deedsOf_map_of_ne hi.symm,
      List.append_nil]
  refine ⟨h.numbered.register deeds hr.objectId_eq, ?_, ?_⟩
  · intro tid r hs
    rw [FileTransferController.register, QMap.value?_insert] at hs
    split_ifs at hs
    · rw [Option.some.injEq] at hs
      rw [← hs, hr.objectId_eq, hnew, hr.state_eq]
      exact hquiet
    · have hlt := h.numbered.lt hs
      rw [hold _ (by omega)]
      exact h.current hs
  · intro i
    by_cases hi : i = c.nextObject
    · subst hi
      rw [hnew]
      exact ⟨_, hquiet⟩
    · rw [hold i hi]
      exact h.past i

lemma LawfulHistories.step (h : LawfulHistories c log) {e : Event} {io : Io}
    (he : TimelyStep json c (e, io)) :
    LawfulHistories (c.step json sha e io).1 (log ++ (c.step json sha e io).2) := by
  -- requests that are always in time
  have hfree : ∀ {c log} {r : Request} (tid : String), LawfulHistories c log →
      (∀ a, r.Timely a) → LawfulHistories (c.onRequest json sha io tid r).1
        (log ++ (c.onRequest json sha io tid r).2) := by
    intro c log r tid h hr
    cases hs : c.m_sessions.value? tid with
    | none =>
        rw [FileTransferController.onRequest, onSession_none hs]
        simpa using h
    | some s => exact h.onRequest io hs (hr _)
  apply step_induction (I := LawfulHistories) _ h
  · intro s deeds hr
    exact h.register hr
  · intro tid s r hcmd hs
    exact h.onRequest io hs (he tid r s hcmd hs)
  · intro tid _ _
    have h' : LawfulHistories { c with timers := c.timers.erase tid } log :=
      ⟨⟨h.numbered.key, h.numbered.lt, h.numbered.inj, h.numbered.fresh⟩, h.current, h.past⟩
    exact hfree tid h' fun _ => trivial
  · intro _ c log tid h
    exact hfree tid h fun _ => trivial

/-- A lost connection completes no transfer. -/
lemma completed_of_disconnectAll (io : Io) (tids : List String) {tid : String}
    {s' : FileTransferSession}
    (hs' : (disconnectAll io tids c).1.m_sessions.value? tid = some s')
    (hc : s'.state = .Completed) : c.m_sessions.value? tid = some s' := by
  have h := disconnectAll_induction
    (I := fun c' _ => ∀ tid s', c'.m_sessions.value? tid = some s' → s'.state = .Completed →
      c.m_sessions.value? tid = some s') io ?_ tids [] (fun _ _ hs _ => hs)
  · exact h tid s' hs' hc
  · intro c' _ tid' ih tid s' hs' hc
    cases hs : c'.m_sessions.value? tid' with
    | none =>
        rw [onSession_none hs] at hs'
        exact ih tid s' hs' hc
    | some s =>
        by_cases htid : tid = tid'
        · subst htid
          rw [value?_onSession_self hs, Option.some.injEq] at hs'
          subst hs'
          simp only [Turn.onSocketDisconnected] at hc ⊢
          split_ifs at hc ⊢ with hlive
          · simp at hc
          · exact ih tid s hs hc
        · rw [value?_onSession_of_ne htid] at hs'
          exact ih tid s' hs' hc

/-- Which steps take an offered session to `Completed`. -/
lemma completed_of_step (h : Numbered c log) {e : Event} {io : Io} {tid : String}
    {s s' : FileTransferSession} (hs : c.m_sessions.value? tid = some s)
    (ha : s.state = .Offering) (hs' : (c.step json sha e io).1.m_sessions.value? tid = some s')
    (hid : s'.objectId = s.objectId) (hc : s'.state = .Completed) :
    (∃ dir, e.command json = .request tid (.acceptTransfer dir) ∧ s.fileSize = 0) ∨
      (e.command json = .request tid .fileAccept ∧ s.direction = .Outgoing) := by
  -- a session that the step did not touch is still offered
  have hsame : c.m_sessions.value? tid ≠ some s' := by
    intro hs''
    rw [hs, Option.some.injEq] at hs''
    rw [← hs'', ha] at hc
    cases hc
  have hreg : ∀ r : FileTransferSession, r.objectId = c.nextObject →
      ∀ deeds, (c.register r deeds).1.m_sessions.value? tid ≠ some s' := by
    intro r hr deeds hs''
    rw [register, QMap.value?_insert] at hs''
    split_ifs at hs''
    · rw [Option.some.injEq] at hs''
      have hlt := h.lt hs
      rw [← hid, ← hs'', hr] at hlt
      omega
    · exact hsame hs''
  rw [step_eq_run] at hs'
  cases hcmd : e.command json with
  | sendFile filePath ip =>
      rw [hcmd, runCommand] at hs'
      rcases sendFile_cases json sha c io filePath ip with
        hnone | ⟨r, deeds, hr, heq⟩
      · rw [hnone] at hs'
        exact absurd hs' hsame
      · rw [heq] at hs'
        exact absurd hs' (hreg r hr.objectId_eq deeds)
  | offer offer =>
      rw [hcmd] at hs'
      exact absurd hs' (hreg (incomingSession c.nextObject offer) rfl
        [.signal (.fileOfferReceived offer)])
  | request tid' r =>
      rw [hcmd, runCommand, onRequest] at hs'
      by_cases htid : tid = tid'
      · subst htid
        rw [value?_onSession_self hs, Option.some.injEq] at hs'
        subst hs'
        rcases Request.completed_of_offering (t := { session := s, files := c.files }) ha hc with
          ⟨dir, rfl, hsize⟩ | ⟨rfl, hdir⟩
        · exact .inl ⟨dir, rfl, hsize⟩
        · exact .inr ⟨rfl, hdir⟩
      · rw [value?_onSession_of_ne htid] at hs'
        exact absurd hs' hsame
  | timeout tid' =>
      rw [hcmd, runCommand] at hs'
      split_ifs at hs'
      · have hs₁ : ({ c with timers := c.timers.erase tid' } : FileTransferController).m_sessions.value?
            tid = some s := hs
        rw [onRequest] at hs'
        by_cases htid : tid = tid'
        · subst htid
          rw [value?_onSession_self hs₁, Option.some.injEq] at hs'
          subst hs'
          simp [Request.run, Turn.sendNextChunk, ha] at hc
        · rw [value?_onSession_of_ne htid] at hs'
          exact absurd hs' hsame
      · exact absurd hs' hsame
  | disconnect =>
      rw [hcmd] at hs'
      exact absurd (completed_of_disconnectAll io _ hs' hc) hsame
  | nothing =>
      rw [hcmd] at hs'
      exact absurd hs' hsame

/-- The life of a transfer, as it is meant to be: the state of every session
object is assigned along `Moves`, so that final states are absorbing, and at
most one closing signal is emitted for it. Between two events a registered
session is in the state assigned last, which is not `Verifying`; and one event
takes it from `Offering` to `Completed` only if it accepts an empty file, or is
the peer's acceptance of an outgoing file. -/
structure Lifecycle (json : JsonCodec) (sha : Sha256) (c : FileTransferController)
    (log : List Effect) : Prop where
  moves (i : ℕ) : List.IsChain Moves (.Offering :: stateWrites (deedsOf i log))
  closing (i : ℕ) : (reports (deedsOf i log)).length ≤ 1
  current {tid s} : c.m_sessions.value? tid = some s →
    s.state = (stateWrites (deedsOf s.objectId log)).getLast?.getD .Offering ∧
      s.state ≠ .Verifying
  completing {e io tid s s'} : c.m_sessions.value? tid = some s → s.state = .Offering →
    (c.step json sha e io).1.m_sessions.value? tid = some s' → s'.objectId = s.objectId →
    s'.state = .Completed →
      (∃ dir, e.command json = .request tid (.acceptTransfer dir) ∧ s.fileSize = 0) ∨
        (e.command json = .request tid .fileAccept ∧ s.direction = .Outgoing)

/-- **The life of a transfer.** In a run whose four unchecked requests come in
time every session lives as it is meant to. -/
theorem timely_run_lawful {m_socket : Bool} {files : FileSystem}
    (hrun : Run (machine json sha) (TimelyStep json) (init m_socket files) es log c) :
    Lifecycle json sha c log := by
  have h : LawfulHistories c log :=
    hrun.invariant_log (I := fun _ log c => LawfulHistories c log)
      (LawfulHistories.init m_socket files) fun _ _ _ _ h he => h.step he
  refine ⟨fun i => ?_, fun i => ?_, fun hs => ?_, fun hs ha hs' hid hc => ?_⟩
  · obtain ⟨b, hb⟩ := h.past i
    exact hb.moves
  · obtain ⟨b, hb⟩ := h.past i
    exact hb.reports_length_le
  · exact ⟨(h.current hs).last.symm, (h.current hs).settled⟩
  · exact completed_of_step h.numbered hs ha hs' hid hc

/-- A file system with one empty file. -/
def oneEmptyFile : FileSystem := FileSystem.empty.openTruncate "/home/notes.txt"

/-- An empty file is offered and the peer accepts it, which completes it. -/
def sendEmptyFile : List (Event × Io) :=
  [(.sendFile "/home/notes.txt" "", { uuid := "01234567-89ab-4def-8123-456789abcdef" }),
    (.frameReceivedFrom (jsonFrame compact .FileAccept (FileAccept.toJson ⟨"ft_0123456789ab4"⟩))
      "10.77.0.2", {})]

lemma timely_sendEmptyFile :
    (machine compact .sample).Allows (TimelyStep compact) (init true oneEmptyFile)
      sendEmptyFile := by
  have hcmd : Event.command compact (.frameReceivedFrom
      (jsonFrame compact .FileAccept (FileAccept.toJson ⟨"ft_0123456789ab4"⟩)) "10.77.0.2") =
        .request "ft_0123456789ab4" .fileAccept := by
    decide +kernel
  refine ⟨?_, ?_, trivial⟩
  · intro tid r s h
    cases h
  · intro tid r s h
    rw [hcmd, Command.request.injEq] at h
    rw [← h.2]
    exact fun _ => trivial

theorem timely_run_lawful_empty_file :
    Lifecycle compact .sample
        ((machine compact .sample).exec (init true oneEmptyFile) sendEmptyFile).2
        ((machine compact .sample).exec (init true oneEmptyFile) sendEmptyFile).1 ∧
      reports (deedsOf 0
        ((machine compact .sample).exec (init true oneEmptyFile) sendEmptyFile).1) =
          [.transferCompleted "ft_0123456789ab4" "/home/notes.txt"] :=
  ⟨timely_run_lawful (Run.exec timely_sendEmptyFile), by decide +kernel⟩

/-- The same transfer, cancelled after it was completed. -/
def cancelSentFile : List (Event × Io) :=
  sendEmptyFile ++ [(.cancelTransfer "ft_0123456789ab4" "cancelled_by_user", ({} : Io))]

/-- A completed transfer can be cancelled: it leaves the state `Completed`, and
a second closing signal is emitted for it. -/
theorem cancel_after_completion :
    ¬ ∀ es log c, Run (machine compact .sample) (fun _ _ => True) (init true oneEmptyFile)
      es log c → Lifecycle compact .sample c log := by
  intro h
  have hlife := h _ _ _ (Run.exec ((machine compact .sample).allows_of_forall
    (fun _ _ => trivial) (init true oneEmptyFile) cancelSentFile))
  have hreports : reports (deedsOf 0
      ((machine compact .sample).exec (init true oneEmptyFile) cancelSentFile).1) =
        [.transferCompleted "ft_0123456789ab4" "/home/notes.txt",
          .transferCancelled "ft_0123456789ab4" "cancelled_by_user"] := by
    decide +kernel
  have hle := hlife.closing 0
  rw [hreports] at hle
  simp at hle

end FileTransferController

end MeckChat.Protocol
