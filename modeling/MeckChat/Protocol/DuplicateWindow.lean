import MeckChat.Protocol.ChatNetwork

/-!
How long a chat controller remembers the messages it has shown.

* `emissions` lists what the surroundings decided at the receptions that showed a
  message with a given id; their `later` is the clock reading under which the id
  was remembered.
* `Remembered` is the invariant: an entry of the duplicate cache stands for an
  emission, and an emission without entry has left the window. `remembered_step`
  keeps it.
* `duplicates_suppressed`: every message is acknowledged once, and shown unless its
  id was shown at most 300 s before.
-/

namespace MeckChat.Protocol

open QJson ChatController

variable (json : JsonCodec)

/-- The clock does not go back, within an event or from one event to the next. -/
structure ClockForward (es : List (ChatEvent × ChatIo)) : Prop where
  within : ∀ e ∈ es, e.2.now ≤ e.2.later
  between : es.Pairwise fun e e' => e.2.later ≤ e'.2.now

/-- What a log entry tells of the message with a given id. -/
def emission? (messageId : String) : (ChatEvent × ChatIo) × ChatDeed → Option ChatIo
  | (e, .signal (.messageReceived m)) => if m.messageId = messageId then some e.2 else none
  | _ => none

/-- The receptions that showed a message with a given id. -/
def emissions (messageId : String) (log : List ((ChatEvent × ChatIo) × ChatDeed)) : List ChatIo :=
  log.filterMap (emission? messageId)

/-- What holds of the duplicate cache, the log behind it and the events so far. -/
structure Remembered (es : List (ChatEvent × ChatIo))
    (log : List ((ChatEvent × ChatIo) × ChatDeed)) (c : ChatController) : Prop where
  entry : ∀ a received, c.m_receivedMessageCache.value? a = some received →
    ∃ io ∈ emissions a log, io.later = received
  recent : ∀ a, ∀ io ∈ emissions a log, c.m_receivedMessageCache.value? a = some io.later ∨
    ∃ e ∈ es, e.2.now - io.later > 300
  apart : ∀ a, (emissions a log).Pairwise fun io io' => io'.now - io.later > 300

variable {json} {es : List (ChatEvent × ChatIo)} {e : ChatEvent × ChatIo}
  {log : List ((ChatEvent × ChatIo) × ChatDeed)} {c : ChatController}

lemma ClockForward.le_now (h : ClockForward (es ++ [e])) {e₀ : ChatEvent × ChatIo}
    (he₀ : e₀ ∈ es) : e₀.2.now ≤ e.2.now := by
  have hwithin := h.within e₀ (List.mem_append_left _ he₀)
  have hbetween := (List.pairwise_append.mp h.between).2.2 e₀ he₀ e (List.mem_singleton_self e)
  exact hwithin.trans hbetween

lemma ClockForward.of_append (h : ClockForward (es ++ [e])) : ClockForward es where
  within e₀ he₀ := h.within e₀ (List.mem_append_left _ he₀)
  between := (List.pairwise_append.mp h.between).1

/-- What is remembered at a reception was shown at most 300 s before. -/
lemma Remembered.knows_iff (h : Remembered es log c) (hclock : ClockForward (es ++ [e]))
    (a : String) :
    c.Knows e.2.now a ↔ ∃ io ∈ emissions a log, e.2.now - io.later ≤ 300 := by
  rw [ChatController.knows_iff, DUPLICATE_CACHE_WINDOW_SECS]
  constructor
  · rintro ⟨received, hreceived, hle⟩
    obtain ⟨io, hio, hlater⟩ := h.entry a received hreceived
    exact ⟨io, hio, by rwa [hlater]⟩
  · rintro ⟨io, hio, hle⟩
    rcases h.recent a io hio with hentry | ⟨e₀, he₀, hgone⟩
    · exact ⟨io.later, hentry, hle⟩
    · have hnow := hclock.le_now he₀
      omega

/-- The emissions behind a step. -/
lemma emissions_step (a : String) :
    emissions a (log ++ ((machine json).withEvents.step c e).2) =
      emissions a log ++
        (((e.1.command json).shows c e.2).filter (·.messageId = a)).map fun _ => e.2 := by
  have hread : ∀ d, emission? a (e, d) =
      ((ChatDeed.shown? d).filter (·.messageId = a)).map fun _ => e.2 := by
    intro d
    cases d with
    | signal s =>
        cases s with
        | messageReceived m =>
            show (if m.messageId = a then some e.2 else none) = _
            split_ifs with hm <;> simp [ChatDeed.shown?, hm]
        | _ => rfl
    | _ => rfl
  have hlog : ∀ deeds : List ChatDeed, emissions a (deeds.map fun d => (e, d)) =
      ((deeds.filterMap ChatDeed.shown?).filter (·.messageId = a)).map fun _ => e.2 := by
    intro deeds
    rw [emissions, List.filterMap_map, List.filter_filterMap, List.map_filterMap]
    exact List.filterMap_congr fun d _ => hread d
  rw [emissions, List.filterMap_append]
  congr 1
  rw [← @filterMap_shown json, Machine.withEvents_step, machine_step, step_eq_run]
  exact hlog _

/-- A step shows a message with a given id. -/
def Shows (json : JsonCodec) (c : ChatController) (e : ChatEvent × ChatIo) (a : String) : Prop :=
  ∃ m, e.1.command json = .chatMessage m ∧ m.messageId = a ∧ ¬ c.Knows e.2.now a

lemma chat_withEvents_step : ((machine json).withEvents.step c e).1 =
    ((e.1.command json).run json e.2 { chat := c }).chat := by
  rw [Machine.withEvents_step, machine_step, step_eq_run]

variable (log) in
/-- A message that is shown is entered in the cache. -/
lemma Shows.step {a : String} (h : Shows json c e a) :
    emissions a (log ++ ((machine json).withEvents.step c e).2) = emissions a log ++ [e.2] ∧
      ((machine json).withEvents.step c e).1.m_receivedMessageCache.value? a =
        some e.2.later := by
  obtain ⟨m, hcmd, rfl, hnew⟩ := h
  constructor
  · rw [emissions_step, hcmd, ChatCommand.shows, if_neg hnew]
    simp
  · rw [chat_withEvents_step, hcmd, ChatCommand.run, ChatTurn.value?_cache_onChatMessage,
      if_pos ⟨rfl, hnew⟩]

variable (log) in
/-- For the other ids no message is shown, and an entry is forgotten only when it has
left the window. -/
lemma step_of_not_shows {a : String} (h : ¬ Shows json c e a) :
    emissions a (log ++ ((machine json).withEvents.step c e).2) = emissions a log ∧
      (((machine json).withEvents.step c e).1.m_receivedMessageCache.value? a =
          c.m_receivedMessageCache.value? a ∨
        ∃ received, c.m_receivedMessageCache.value? a = some received ∧
          e.2.now - received > 300 ∧
          ((machine json).withEvents.step c e).1.m_receivedMessageCache.value? a = none) := by
  rw [chat_withEvents_step, emissions_step]
  cases hcmd : e.1.command json with
  | chatMessage m =>
      have hold : m.messageId = a → c.Knows e.2.now a := fun hid =>
        not_not.mp fun hnew => h ⟨m, hcmd, hid, hnew⟩
      constructor
      · rw [ChatCommand.shows]
        split_ifs with hknown
        · simp
        · have hid : m.messageId ≠ a := fun hid => hknown (by rw [hid]; exact hold hid)
          simp [hid]
      · rw [ChatCommand.run, ChatTurn.value?_cache_onChatMessage,
          if_neg fun hnew => hnew.2 (hold hnew.1), DUPLICATE_CACHE_WINDOW_SECS]
        dsimp only
        cases hentry : c.m_receivedMessageCache.value? a with
        | none => exact .inl rfl
        | some received =>
            by_cases hgone : e.2.now - received > 300
            · exact .inr ⟨received, rfl, hgone, by simp [Option.filter, hgone]⟩
            · exact .inl (by simp [Option.filter, hgone])
  | _ =>
      refine ⟨by simp [ChatCommand.shows], .inl ?_⟩
      rw [m_receivedMessageCache_run fun m hm => by cases hm]

/-- Every step keeps the invariant. -/
lemma remembered_step (h : Remembered es log c) (hclock : ClockForward (es ++ [e])) :
    Remembered (es ++ [e]) (log ++ ((machine json).withEvents.step c e).2)
      ((machine json).withEvents.step c e).1 := by
  have hlast : e ∈ es ++ [e] := List.mem_append_right _ (List.mem_singleton_self e)
  constructor
  · intro a received hreceived
    by_cases hshows : Shows json c e a
    · obtain ⟨hlog, hentry⟩ := hshows.step log
      rw [hentry, Option.some.injEq] at hreceived
      rw [hlog]
      exact ⟨e.2, List.mem_append_right _ (List.mem_singleton_self _), hreceived⟩
    · obtain ⟨hlog, hentry | ⟨_, _, _, hentry⟩⟩ := step_of_not_shows log hshows
      · rw [hlog]
        exact h.entry a received (hentry ▸ hreceived)
      · rw [hentry] at hreceived
        cases hreceived
  · intro a io hio
    by_cases hshows : Shows json c e a
    · obtain ⟨hlog, hentry⟩ := hshows.step log
      rw [hlog, List.mem_append, List.mem_singleton] at hio
      rcases hio with hio | rfl
      · -- the window of an earlier emission is over
        obtain ⟨m, -, -, hnew⟩ := hshows
        rw [h.knows_iff hclock] at hnew
        exact .inr ⟨e, hlast, not_le.mp fun hle => hnew ⟨io, hio, hle⟩⟩
      · exact .inl hentry
    · obtain ⟨hlog, hentry⟩ := step_of_not_shows log hshows
      rw [hlog] at hio
      rcases h.recent a io hio with hold | ⟨e₀, he₀, hgone⟩
      · rcases hentry with hentry | ⟨received, hreceived, hgone, -⟩
        · exact .inl (hentry.trans hold)
        · rw [hold, Option.some.injEq] at hreceived
          exact .inr ⟨e, hlast, by rwa [hreceived]⟩
      · exact .inr ⟨e₀, List.mem_append_left _ he₀, hgone⟩
  · intro a
    by_cases hshows : Shows json c e a
    · obtain ⟨hlog, -⟩ := hshows.step log
      obtain ⟨m, -, -, hnew⟩ := hshows
      rw [h.knows_iff hclock] at hnew
      rw [hlog, List.pairwise_append]
      refine ⟨h.apart a, List.pairwise_singleton _ _, ?_⟩
      intro io hio io' hio'
      rw [List.mem_singleton.mp hio']
      exact not_le.mp fun hle => hnew ⟨io, hio, hle⟩
    · rw [(step_of_not_shows log hshows).1]
      exact h.apart a

/-- The controllers that a device runs: it has a socket, and nothing was received
before. -/
abbrev Received (json : JsonCodec) (deviceId : String) (es : List (ChatEvent × ChatIo))
    (log : List ((ChatEvent × ChatIo) × ChatDeed)) (c : ChatController) : Prop :=
  Run (machine json).withEvents (fun _ _ => True) { deviceId } es log c

lemma Received.m_socket {deviceId : String} (h : Received json deviceId es log c) :
    c.m_socket = true := by
  refine h.invariant (I := fun c => c.m_socket = true) rfl ?_
  intro c e hsocket _
  rw [chat_withEvents_step, m_socket_run]
  exact hsocket

lemma Received.remembered {deviceId : String} (h : Received json deviceId es log c)
    (hclock : ClockForward es) : Remembered es log c := by
  revert hclock
  refine h.invariant_log (I := fun es log c => ClockForward es → Remembered es log c) ?_ ?_
  · intro _
    constructor
    · intro a received hreceived
      rw [QMap.value?_empty] at hreceived
      cases hreceived
    · intro a io hio
      cases hio
    · exact fun a => .nil
  · exact fun es log c e ih _ hclock => remembered_step (ih hclock.of_append) hclock

/-- **Duplicate suppression.** Under a clock that does not go back, the messages of
one id that are shown are more than 300 s apart, whatever happens between them. Each
message that is read is acknowledged once, by its only frame, and it is shown unless
its id was shown at most 300 s before. -/
theorem duplicates_suppressed {deviceId : String} (hrun : Received json deviceId es log c)
    (hclock : ClockForward es) :
    (∀ a, (emissions a log).Pairwise fun io io' => io'.now - io.later > 300) ∧
      ∀ frame ip io m, ClockForward (es ++ [(.frameReceivedFrom frame ip, io)]) →
        frame.type = .ChatMessage →
        (payloadObject json frame.payload).bind ChatMessage.fromJson = some m →
        (c.step json (.frameReceivedFrom frame ip) io).2.filterMap ChatDeed.frame? =
            [ackFrame json io m.messageId "delivered"] ∧
          (c.step json (.frameReceivedFrom frame ip) io).2.filterMap ChatDeed.shown? =
            if ∃ io' ∈ emissions m.messageId log, io.now - io'.later ≤ 300 then [] else [m] := by
  have hinv := hrun.remembered hclock
  refine ⟨hinv.apart, ?_⟩
  intro frame ip io m hnext htype hread
  have hcmd : (ChatEvent.frameReceivedFrom frame ip).command json = .chatMessage m := by
    rw [ChatEvent.command, readChatFrame, if_pos htype, hread]
    rfl
  rw [step_eq_run, hcmd]
  constructor
  · rw [frames_chatMessage, hrun.m_socket]
    rfl
  · rw [filterMap_shown, ChatCommand.shows]
    simp only [hinv.knows_iff hnext]

/-! ### A message that arrives twice -/

/-- A message. -/
def again : ChatMessage := ⟨"msg_1", "mc_alice", "mc_bob", "hello", 1700000000, none⟩

/-- It arrives at a time. -/
def againArrives (now : ℤ) : ChatEvent × ChatIo :=
  (.frameReceivedFrom (jsonFrame compact .ChatMessage (again.toJson 1700000000)) "10.77.0.2",
    { now })

lemma read_again : (payloadObject compact
    (jsonFrame compact .ChatMessage (again.toJson 1700000000)).payload).bind ChatMessage.fromJson =
      some again := by
  rw [payloadObject_jsonFrame, Option.bind_some]
  exact ChatMessage.fromJson_toJson 1700000000 (by decide) (by decide) (by decide) (by decide)

/-- Five minutes later the message is still a duplicate: it is acknowledged, but not
shown again. -/
theorem duplicates_suppressed_once :
    let r := (machine compact).withEvents.step { deviceId := "mc_bob" } (againArrives 1700000000)
    emissions "msg_1" r.2 = [(againArrives 1700000000).2] ∧
      (r.1.step compact (againArrives 1700000300).1 (againArrives 1700000300).2).2.filterMap
        ChatDeed.shown? = [] := by
  have hrun : Received compact "mc_bob" [againArrives 1700000000] _ _ := Run.single trivial
  have hclock : ClockForward [againArrives 1700000000] := by
    constructor
    · simp [againArrives]
    · exact List.pairwise_singleton _ _
  have hnext : ClockForward ([againArrives 1700000000] ++ [againArrives 1700000300]) := by
    constructor
    · simp [againArrives]
    · simp [againArrives]
  have hshows : Shows compact { deviceId := "mc_bob" } (againArrives 1700000000) "msg_1" := by
    refine ⟨again, ?_, rfl, by simp [Knows]⟩
    rw [againArrives, ChatEvent.command, readChatFrame, type_jsonFrame, if_pos rfl, read_again]
    rfl
  have hlog := (hshows.step []).1
  rw [List.nil_append] at hlog
  refine ⟨hlog, ?_⟩
  refine ((duplicates_suppressed hrun hclock).2 _ _ _ again hnext rfl read_again).2.trans ?_
  refine if_pos ⟨(againArrives 1700000000).2, ?_, by decide⟩
  show _ ∈ emissions "msg_1" _
  rw [hlog]
  exact List.mem_singleton_self _

end MeckChat.Protocol
