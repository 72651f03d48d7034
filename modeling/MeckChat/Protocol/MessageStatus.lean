import MeckChat.Protocol.ChatSteps

/-!
The status of a message over whole runs of a chat controller.

* `progress` counts how far a message has got, and `progress_step` says that a
  step which is `InOrder` never takes it back.
* `status_forward`: in runs of such steps a read message stays read, and a delivered
  one can only become read.
* `read_becomes_delivered`: an acknowledgement of the delivery that arrives behind
  the read receipt takes the status back.
-/

namespace MeckChat.Protocol

open QJson ChatController

variable (json : JsonCodec)

/-- The state of a message. -/
def ChatController.stateOf (c : ChatController) (messageId : String) : Option MessageState :=
  (c.getTrackedMessage messageId).map (·.state)

/-- How far a message has got: to its peer, and to the eyes of its peer. -/
def MessageState.progress : MessageState → ℕ
  | .Read => 2
  | .Delivered => 1
  | _ => 0

/-- A step in order: an id that is drawn is new, and an acknowledgement that says
something else than "read" is not for a message that is read. -/
structure InOrder (c : ChatController) (e : ChatEvent × ChatIo) : Prop where
  fresh : ∀ recipient content ip, e.1 = .sendMessage recipient content ip →
    c.stateOf (generateMessageId e.2.uuid) = none
  ack : ∀ ack, e.1.command json = .messageAck ack → c.stateOf ack.messageId = some .Read →
    ack.status = "read"

variable {json} {c : ChatController} {e : ChatEvent × ChatIo} {a : String} {s : MessageState}

/-- A step in order takes no message back. -/
lemma progress_step (he : InOrder json c e) (h : c.stateOf a = some s) :
    ∃ s', (c.step json e.1 e.2).1.stateOf a = some s' ∧ s.progress ≤ s'.progress := by
  have hchange := trackedChange_run json (e.1.command json) e.2 { chat := c } a
  rw [← react_eq_run] at hchange
  change TrackedChange c e.2 a _ (c.getTrackedMessage a)
    ((c.step json e.1 e.2).1.getTrackedMessage a) at hchange
  generalize hcmd : e.1.command json = cmd at hchange
  rw [stateOf] at h ⊢
  generalize hold : c.getTrackedMessage a = old at h hchange
  generalize (c.step json e.1 e.2).1.getTrackedMessage a = new at hchange ⊢
  cases hchange with
  | unchanged => exact ⟨s, h, le_rfl⟩
  | sent sendable id =>
      have hnew := he.fresh _ _ _ (ChatEvent.command_eq_sendMessage hcmd)
      rw [id, stateOf, hold, h] at hnew
      cases hnew
  | @acked ack tracked id =>
      rw [Option.map_some, Option.some.injEq] at h
      subst h
      refine ⟨_, rfl, ?_⟩
      show tracked.state.progress ≤ (ChatTurn.ackState ack.status).progress
      rw [ChatTurn.ackState]
      split_ifs with hread
      · cases tracked.state <;> decide
      · cases hstate : tracked.state with
        | Read =>
            refine absurd (he.ack ack hcmd ?_) hread
            rw [id, stateOf, hold, Option.map_some, hstate]
        | Pending => decide
        | Sent => decide
        | Delivered => decide
        | Failed => decide
  | @failed timer tracked task state =>
      rw [Option.map_some, Option.some.injEq] at h
      subst h
      refine ⟨_, rfl, ?_⟩
      show tracked.state.progress ≤ MessageState.Failed.progress
      rcases state with state | state
      · rw [state]
        decide
      · rw [state]
        decide

/-- **Status only goes forward.** In every run of steps in order, a message that
is read stays read, and one that is delivered stays delivered or is read. -/
theorem status_forward {c₁ c₂ : ChatController} {es : List (ChatEvent × ChatIo)}
    {log : List ChatDeed} (hrun : Run (machine json) (InOrder json) c₁ es log c₂) (a : String) :
    (c₁.stateOf a = some .Read → c₂.stateOf a = some .Read) ∧
      (c₁.stateOf a = some .Delivered →
        c₂.stateOf a = some .Delivered ∨ c₂.stateOf a = some .Read) := by
  have hprogress : ∀ s, c₁.stateOf a = some s →
      ∃ s', c₂.stateOf a = some s' ∧ s.progress ≤ s'.progress := by
    intro s hs
    refine hrun.invariant (I := fun c => ∃ s', c.stateOf a = some s' ∧ s.progress ≤ s'.progress)
      ⟨s, hs, le_rfl⟩ ?_
    rintro c e ⟨s', hs', hle⟩ he
    obtain ⟨s'', hs'', hle'⟩ := progress_step he hs'
    exact ⟨s'', hs'', hle.trans hle'⟩
  constructor
  · intro h
    obtain ⟨s', hs', hle⟩ := hprogress _ h
    cases s' with
    | Read => exact hs'
    | Pending => exact absurd hle (by decide)
    | Sent => exact absurd hle (by decide)
    | Delivered => exact absurd hle (by decide)
    | Failed => exact absurd hle (by decide)
  · intro h
    obtain ⟨s', hs', hle⟩ := hprogress _ h
    cases s' with
    | Read => exact .inr hs'
    | Delivered => exact .inl hs'
    | Pending => exact absurd hle (by decide)
    | Sent => exact absurd hle (by decide)
    | Failed => exact absurd hle (by decide)

/-! ### Acknowledgements that overtake one another -/

/-- A message is sent. -/
def sendHello : ChatEvent × ChatIo :=
  (.sendMessage "mc_bob" "hello" "", { now := 1700000000, uuid := "1" })

/-- An acknowledgement of it arrives. -/
def ackArrives (status : String) : ChatEvent × ChatIo :=
  (.frameReceivedFrom (ackFrame compact { later := 1700000001 } "msg_1" status) "10.77.0.3", {})

lemma command_ackArrives (status : String) :
    (ackArrives status).1.command compact = .messageAck ⟨"msg_1", status, 1700000001⟩ := by
  have hid : (⟨"msg_1", status, 1700000001⟩ : MessageAck).messageId ≠ "" := by
    show "msg_1" ≠ ""
    decide
  have hread := MessageAck.fromJson_toJson 1700000001 hid
  simp [ackArrives, ChatEvent.command, readChatFrame, ackFrame, hread, FrameType.MessageAck,
    FrameType.ChatMessage, stamp]

lemma step_ackArrives (status : String) (c : ChatController) :
    (machine compact).step c (ackArrives status) =
      let t := ChatTurn.onMessageAck ⟨"msg_1", status, 1700000001⟩ { chat := c }
      (t.chat, t.deeds) := by
  rw [machine_step, step, react_eq_run, command_ackArrives]
  rfl

/-- The controller that has sent the message. -/
def waitingController : ChatController :=
  ((machine compact).step { deviceId := "mc_alice" } sendHello).1

/-- The controller behind acknowledgements of given statuses. -/
def acknowledgedWith (statuses : List String) : ChatController :=
  ((machine compact).exec waitingController (statuses.map ackArrives)).2

/-- An acknowledgement sets the state. -/
lemma stateOf_ackArrives {status : String} {new : MessageState} (h : c.stateOf "msg_1" = some s)
    (hnew : ChatTurn.ackState status = new) :
    ((machine compact).step c (ackArrives status)).1.stateOf "msg_1" = some new := by
  rw [stateOf, getTrackedMessage, Option.map_eq_some_iff] at h
  obtain ⟨tracked, hold, -⟩ := h
  rw [step_ackArrives, ← hnew]
  simp [ChatTurn.onMessageAck, stateOf, getTrackedMessage, ChatTurn.value?_setMessageState, hold]

lemma stateOf_waitingController : waitingController.stateOf "msg_1" = some .Sent := by
  have hsendable : ChatTurn.Sendable "mc_bob" "hello" := by decide
  have hid : generateMessageId "1" = "msg_1" := by decide
  rw [waitingController, machine_step, step, sendHello, react, stateOf, getTrackedMessage,
    ChatTurn.value?_sendMessage _ _ _ _ _ _ hsendable, if_pos hid]
  rfl

lemma acknowledgedWith_append (statuses : List String) (status : String) :
    acknowledgedWith (statuses ++ [status]) =
      ((machine compact).step (acknowledgedWith statuses) (ackArrives status)).1 := by
  rw [acknowledgedWith, acknowledgedWith, List.map_append, Machine.exec_append_snd,
    List.map_singleton, Machine.exec_cons_snd, Machine.exec_nil_snd]

/-- What the last acknowledgement says is the state. -/
lemma stateOf_acknowledgedWith {statuses : List String} {status : String} {new : MessageState}
    (hnew : ChatTurn.ackState status = new) :
    (acknowledgedWith (statuses ++ [status])).stateOf "msg_1" = some new := by
  have htracked : ∃ s, (acknowledgedWith statuses).stateOf "msg_1" = some s := by
    induction statuses using List.reverseRecOn with
    | nil =>
        rw [acknowledgedWith, List.map_nil, Machine.exec_nil_snd]
        exact ⟨_, stateOf_waitingController⟩
    | append_singleton statuses status ih =>
        obtain ⟨s, hs⟩ := ih
        rw [acknowledgedWith_append]
        exact ⟨_, stateOf_ackArrives hs rfl⟩
  obtain ⟨s, hs⟩ := htracked
  rw [acknowledgedWith_append]
  exact stateOf_ackArrives hs hnew

/-- The delivery and then the receipt: the message is read, and stays so when the
receipt arrives a second time. -/
theorem status_forward_receipt :
    (acknowledgedWith (["delivered"] ++ ["read"])).stateOf "msg_1" = some .Read ∧
      (acknowledgedWith (["delivered", "read"] ++ ["read"])).stateOf "msg_1" = some .Read := by
  have hread : (acknowledgedWith (["delivered"] ++ ["read"])).stateOf "msg_1" = some .Read :=
    stateOf_acknowledgedWith (by decide)
  have horder : InOrder compact (acknowledgedWith ["delivered", "read"]) (ackArrives "read") := by
    constructor
    · intro recipient content ip h
      cases h
    · intro ack h _
      rw [command_ackArrives, ChatCommand.messageAck.injEq] at h
      rw [← h]
  refine ⟨hread, ?_⟩
  rw [acknowledgedWith_append]
  exact (status_forward (Run.single horder) "msg_1").1 hread

/-- The receipt and then the delivery: the message is no longer read. -/
theorem read_becomes_delivered :
    (acknowledgedWith ([] ++ ["read"])).stateOf "msg_1" = some .Read ∧
      (acknowledgedWith (["read"] ++ ["delivered"])).stateOf "msg_1" = some .Delivered :=
  ⟨stateOf_acknowledgedWith (by decide), stateOf_acknowledgedWith (by decide)⟩

end MeckChat.Protocol
