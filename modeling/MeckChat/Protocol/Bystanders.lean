import MeckChat.Protocol.ChatNetwork
import MeckChat.Protocol.MessageStatus

/-!
Who is shown a message, in a network with any number of nodes.

* `Addressed` is a step that sends messages over links to their recipient only, and
  `MailAddressed` the invariant that such steps keep.
* `recipient_only`: in runs of such steps a message is shown, and acknowledged, by
  its recipient alone.
* `bystander_shows`: a node with links to two others sends its message to both, and
  the one that it is not for shows and acknowledges it.
-/

namespace MeckChat.Protocol

open QJson ChatController

variable {ι : Type} [DecidableEq ι] (json : JsonCodec) (deviceId : ι → String)

/-- A step that sends messages to their recipient only. -/
structure Addressed (net : ChatNet ι) (e : ChatMove ι) : Prop where
  genuine : Genuine net e
  recipient : ∀ recipient content ip, e.event = .sendMessage recipient content ip →
    ChatTurn.Sendable recipient content → ∀ j ∈ e.links, deviceId j = recipient

/-- What is on its way to a node is for that node. -/
structure MailAddressed (net : ChatNet ι) : Prop where
  ids : ∀ j, (net.nodes j).deviceId = deviceId j
  mail : ∀ j, ∀ frame ∈ net.mail j, ∀ m, readChatFrame json frame = .chatMessage m →
    m.recipientDeviceId = deviceId j

variable {json deviceId} {net : ChatNet ι} {e : ChatMove ι}

lemma mailAddressed_step (h : MailAddressed json deviceId net) (he : Addressed deviceId net e) :
    MailAddressed json deviceId (net.step json e).1 where
  ids j := by
    rw [nodes_step, deviceId_run]
    exact h.ids j
  mail j frame hframe m hread := by
    rcases mem_mail_step hframe with hframe | ⟨hlink, hdoes⟩
    · exact h.mail j frame hframe m hread
    · obtain ⟨recipient, content, ip, hcmd, hs, htext⟩ := readChatFrame_chatMessage hdoes hread
      obtain ⟨-, hevent⟩ := command_eq_of_ne_nothing hcmd ChatCommand.noConfusion
      have hlinked := he.recipient recipient content ip (ChatEvent.command_eq_sendMessage hevent)
        hs j hlink
      rw [hlinked]
      exact congrArg (·.2.2.1) htext

/-- A message that is handled is for the node that handles it. -/
lemma recipient_of_command (h : MailAddressed json deviceId net) (he : Genuine net e)
    {m : ChatMessage} (hcmd : e.event.command json = .chatMessage m) :
    m.recipientDeviceId = deviceId e.node := by
  have hnode : e.command json e.node = .chatMessage m := by
    rw [ChatMove.command, if_pos rfl, hcmd]
  obtain ⟨frame, hframe, hread⟩ := he.exists_mail hnode rfl ChatCommand.noConfusion
  exact h.mail _ frame hframe m hread

/-- **Only the recipient.** In every run whose messages are sent over links to their
recipient only, a node shows and acknowledges messages that are for it. -/
theorem recipient_only {m_socket : ι → Bool} {es : List (ChatMove ι)}
    {log : List (NodeDeed ι)}
    (hrun : Run (chatNetwork json) (Addressed deviceId) (ChatNet.start deviceId m_socket) es log
      net) :
    ∀ d ∈ log,
      (∀ m, d.deed = .signal (.messageReceived m) → m.recipientDeviceId = deviceId d.node) ∧
        ∀ m frame, d.event.command json = .chatMessage m → d.deed = .sendFrame frame →
          m.recipientDeviceId = deviceId d.node := by
  intro d hd
  obtain ⟨es₁, log₁, net₁, e, hrun₁, he, -, hdeed⟩ := hrun.exists_prefix hd
  have hstart : MailAddressed json deviceId (ChatNet.start deviceId m_socket) :=
    ⟨fun _ => rfl, fun _ _ h => by cases h⟩
  have hinv : MailAddressed json deviceId net₁ :=
    hrun₁.invariant hstart fun _ _ h he => mailAddressed_step h he
  obtain ⟨deed, hmem, rfl⟩ := List.mem_map.mp hdeed
  rw [step_eq_run] at hmem
  constructor
  · rintro m rfl
    have hdoes := does_run hmem
    generalize hcmd : e.event.command json = cmd at hdoes
    cases hdoes with
    | messageReceived new => exact recipient_of_command hinv he.genuine hcmd
  · intro m frame hcmd _
    exact recipient_of_command hinv he.genuine hcmd

/-! ### A network of three -/

/-- The ids of three nodes. -/
def party (i : Fin 3) : String :=
  if i = 0 then "mc_alice" else if i = 1 then "mc_bob" else "mc_carol"

/-- The message of `mc_alice` for `mc_bob`. -/
def greeting : ChatMessage := ⟨"msg_1", "mc_alice", "mc_bob", "hello", 1700000000, none⟩

/-- The message is sent over some links. -/
def greets (links : List (Fin 3)) : ChatMove (Fin 3) := ⟨0, sendHello.1, sendHello.2, links⟩

/-- The message arrives at a node. -/
def greeted (j : Fin 3) : ChatMove (Fin 3) where
  node := j
  event := .frameReceivedFrom (jsonFrame compact .ChatMessage (greeting.toJson 1700000000))
    "10.77.0.2"
  io := { later := 1700000001 }
  links := [0]

/-- The network behind both steps, and what is logged. -/
def greetingRun (links : List (Fin 3)) (j : Fin 3) : List (NodeDeed (Fin 3)) × ChatNet (Fin 3) :=
  (chatNetwork compact).exec (.start party fun _ => true) [greets links, greeted j]

lemma command_greeted (j : Fin 3) : (greeted j).event.command compact = .chatMessage greeting := by
  have hmessage : ChatMessage.fromJson (greeting.toJson 1700000000) = some greeting :=
    ChatMessage.fromJson_toJson 1700000000 (by decide) (by decide) (by decide) (by decide)
  simp [greeted, ChatEvent.command, readChatFrame, hmessage]

/-- The message is on its way over every link. -/
lemma genuine_greeted {links : List (Fin 3)} {j : Fin 3} (hj : j ∈ links) :
    Genuine ((ChatNet.start party fun _ => true).step compact (greets links)).1 (greeted j) := by
  have hsendable : ChatTurn.Sendable "mc_bob" "hello" := by decide
  have hcmd : (greets links).command compact (greets links).node =
      .sendMessage "mc_bob" "hello" "" := rfl
  rintro frame ip h
  cases h
  show _ ∈ ChatNet.mail _ j
  rw [mail_step, if_pos (show j ∈ (greets links).links from hj), List.mem_append, hcmd,
    frames_sendMessage hsendable]
  exact .inr (List.mem_singleton_self _)

/-- The node where the message arrives shows it, and acknowledges it. -/
lemma shows_greeting (links : List (Fin 3)) {j : Fin 3} (hj : j ≠ 0) :
    ⟨j, (greeted j).event, .signal (.messageReceived greeting)⟩ ∈ (greetingRun links j).1 ∧
      ⟨j, (greeted j).event, .sendFrame (ackFrame compact { later := 1700000001 } "msg_1"
        "delivered")⟩ ∈ (greetingRun links j).1 := by
  obtain ⟨net, hnet⟩ : ∃ net, net =
    (ChatNet.step compact (.start party fun _ => true) (greets links)).1 := ⟨_, rfl⟩
  have hnode : net.nodes j = { deviceId := party j } := by
    rw [hnet, nodes_step_of_ne hj]
    rfl
  have hlog : ∀ d ∈ ((ChatCommand.chatMessage greeting).run compact (greeted j).io
      { chat := net.nodes j }).deeds,
      ⟨j, (greeted j).event, d⟩ ∈ (greetingRun links j).1 := by
    intro d hd
    rw [← command_greeted j] at hd
    have hstep : ⟨j, (greeted j).event, d⟩ ∈ (net.step compact (greeted j)).2 :=
      mem_log_step (e := greeted j) hd
    rw [hnet] at hstep
    exact List.mem_append_right _ (List.mem_append_left _ hstep)
  constructor
  · refine hlog _ (mem_filterMap_shown.mp ?_)
    rw [filterMap_shown, ChatCommand.shows, hnode, if_neg (by simp [Knows])]
    exact List.mem_singleton_self _
  · refine hlog _ (mem_filterMap_frame.mp ?_)
    rw [frames_chatMessage, hnode]
    exact List.mem_singleton_self _

/-- With a link to `mc_bob` alone, `mc_bob` alone is shown the message. -/
theorem recipient_only_greeting :
    (∃ d ∈ (greetingRun [1] 1).1, d.deed = .signal (.messageReceived greeting)) ∧
      ∀ d ∈ (greetingRun [1] 1).1, ∀ m, d.deed = .signal (.messageReceived m) →
        m.recipientDeviceId = party d.node := by
  have hgreets : Addressed party (.start party fun _ => true) (greets [1]) :=
    { genuine := fun _ _ h => by cases h
      recipient := fun recipient content ip h _ j hj => by
        cases h
        rw [List.mem_singleton.mp hj]
        rfl }
  have hgreeted : Addressed party
      (ChatNet.step compact (.start party fun _ => true) (greets [1])).1 (greeted 1) :=
    { genuine := genuine_greeted (List.mem_singleton_self _)
      recipient := fun _ _ _ h => by cases h }
  have hallows : (chatNetwork compact).Allows (Addressed party) (.start party fun _ => true)
      [greets [1], greeted 1] := ⟨hgreets, hgreeted, trivial⟩
  have hrun := Run.exec hallows
  refine ⟨⟨_, (shows_greeting [1] (by decide)).1, rfl⟩, ?_⟩
  intro d hd m hm
  exact (recipient_only hrun d hd).1 m hm

/-- With a link to `mc_carol` as well, the message for `mc_bob` is shown to her, and
she acknowledges it. -/
theorem bystander_shows :
    ∃ es log net, Run (chatNetwork compact) Genuine (.start party fun _ => true) es log net ∧
      (∀ i j, party i = party j → i = j) ∧
      (∃ d ∈ log, ∃ m, d.deed = .signal (.messageReceived m) ∧
        m.recipientDeviceId ≠ party d.node) ∧
      ∃ d ∈ log, ∃ m, d.event.command compact = .chatMessage m ∧
        d.deed = .sendFrame (ackFrame compact { later := 1700000001 } m.messageId "delivered") ∧
        m.recipientDeviceId ≠ party d.node := by
  have hgreets : Genuine (ChatNet.start party fun _ => true) (greets [1, 2]) := by
    intro frame ip h
    cases h
  have hallows : (chatNetwork compact).Allows Genuine (.start party fun _ => true)
      [greets [1, 2], greeted 2] :=
    ⟨hgreets, genuine_greeted (List.mem_cons_of_mem _ (List.mem_singleton_self _)), trivial⟩
  have hrun := Run.exec hallows
  obtain ⟨hshown, hack⟩ := shows_greeting [1, 2] (j := 2) (by decide)
  refine ⟨_, _, _, hrun, by decide, ⟨_, hshown, greeting, rfl, ?_⟩,
    _, hack, greeting, command_greeted 2, rfl, ?_⟩
  · decide
  · decide

end MeckChat.Protocol
