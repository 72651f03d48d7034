import MeckChat.Crypto.Handshake

/-!
Replay protection of a pairing session.

* `Chronological` says that the clock does not run backwards along a run, and
  `Keeps` that a step overwrites no entry of one of the requests in the cache: entries
  are kept under the id of their session, and a response is entered under the id of its
  request with `_resp` behind it.
* `cache_step` says what a step keeps of the cache: every entry of such a request,
  unless it expires.
* `Remembered` is the invariant of an accepted request: its entry is in the cache, or
  it is expired for good.
* `no_replay`: no two accepted requests have the same transcript bytes.
-/

namespace MeckChat.Crypto

open Protocol QByteArray CryptoProvider PairingTurn

/-! ### Runs -/

/-- The readings of the clock during a call, in their order. -/
def PairingEvent.readings : PairingEvent → List ℤ
  | .initiatePairing io _ _ _ => [io.now]
  | .handleIncomingRequest io _ _ _ => [io.now, io.again, io.later]
  | .handleIncomingResponse io _ _ => [io.now, io.again]
  | .cancelPairing => []
  | .reset => []

/-- The request that is handled in a call. -/
def PairingEvent.request? : PairingEvent → Option PairingRequest
  | .handleIncomingRequest _ request _ _ => some request
  | _ => none

/-- The request that is answered. -/
def PairingDeed.request? : PairingDeed → Option PairingRequest
  | .responded request _ => some request
  | _ => none

/-- The transcript bytes of a request that is answered. -/
def PairingDeed.transcript? : PairingDeed → Option Bytes
  | .responded request _ => some request.buildTranscriptMessage
  | _ => none

/-- The clock does not run backwards. -/
def Chronological (es : List PairingEvent) : Prop :=
  (es.flatMap PairingEvent.readings).Pairwise (· ≤ ·)

instance (es : List PairingEvent) : Decidable (Chronological es) :=
  inferInstanceAs (Decidable ((es.flatMap PairingEvent.readings).Pairwise (· ≤ ·)))

/-- Requests with the same transcript bytes have the same timestamp. -/
def Dated (requests : List PairingRequest) : Prop :=
  ∀ q ∈ requests, ∀ q' ∈ requests,
    q.buildTranscriptMessage = q'.buildTranscriptMessage → q.timestamp = q'.timestamp

variable (prim : Primitives)

/-- The entry belongs to one of the requests. -/
def ReplayEntry.BelongsTo (requests : List PairingRequest) (entry : ReplayEntry) : Prop :=
  ∃ q ∈ requests, entry.transcriptHash = prim.sha256 q.buildTranscriptMessage

/-- A step does not enter anything in the place of a request: the id of a new session,
and the id under which the response to a request is entered, hold none. -/
def Keeps (requests : List PairingRequest) (s : PairingSession) : PairingEvent → Prop
  | .initiatePairing io _ _ _ =>
      ∀ entry, s.m_replayCache.m_seenSessions.value? io.uuid = some entry →
        ¬ entry.BelongsTo prim requests
  | .handleIncomingRequest io request _ _ =>
      ∀ entry, (s.m_replayCache.pruneExpired io.now io.again).m_seenSessions.value?
          (request.sessionId ++ "_resp") = some entry → ¬ entry.BelongsTo prim requests
  | _ => True

variable {prim} {requests : List PairingRequest} {s : PairingSession} {e : PairingEvent}
  {entry : ReplayEntry} {k : String}

/-! ### What a step keeps of the cache -/

/-- An entry is out of the window at one of the readings of a call. -/
def PairingEvent.Expires (e : PairingEvent) (entry : ReplayEntry) : Prop :=
  ∃ τ ∈ e.readings, REPLAY_WINDOW_SECONDS < (τ - entry.timestamp).natAbs

/-- The time of a check is one of the two readings. -/
lemma effectiveTime_mem {now clock : ℤ} {readings : List ℤ} (hnow : now ∈ readings)
    (hclock : clock ∈ readings) : effectiveTime now clock ∈ readings := by
  rw [effectiveTime]
  split_ifs
  · exact hnow
  · exact hclock

namespace ReplayProtectionCache

variable {c : ReplayProtectionCache}

/-- Pruning keeps an entry, or the entry is out of the window. -/
lemma pruneExpired_keeps (now clock : ℤ) (h : c.m_seenSessions.value? k = some entry) :
    (c.pruneExpired now clock).m_seenSessions.value? k = some entry ∨
      REPLAY_WINDOW_SECONDS < (effectiveTime now clock - entry.timestamp).natAbs := by
  rw [value?_pruneExpired, h]
  by_cases hle : (effectiveTime now clock - entry.timestamp).natAbs ≤ REPLAY_WINDOW_SECONDS
  · left
    rw [Option.filter_some, if_pos (decide_eq_true hle)]
  · exact Or.inr (not_le.mp hle)

/-- What is registered elsewhere keeps an entry. -/
lemma registerSession_keeps {sessionId : String} {transcriptHash : Bytes} {timestamp : ℤ}
    (h : c.m_seenSessions.value? k = some entry) (hne : sessionId ≠ k) :
    (c.registerSession sessionId transcriptHash timestamp).m_seenSessions.value? k =
      some entry := by
  rw [value?_registerSession_of_ne hne, h]

end ReplayProtectionCache

open ReplayProtectionCache

/-- **What a step keeps of the cache.** -/
lemma cache_step (hkeeps : Keeps prim requests s e) (hentry : entry.BelongsTo prim requests)
    (h : s.m_replayCache.m_seenSessions.value? k = some entry) :
    ((PairingSession.machine prim).step s e).1.m_replayCache.m_seenSessions.value? k = some entry ∨
      e.Expires entry := by
  cases e with
  | initiatePairing io peer password ip =>
      left
      change (initiatePairing prim io peer password ip
        ⟨s, []⟩).1.session.m_replayCache.m_seenSessions.value? k = some entry
      by_cases hinitiates : Initiates io peer password
      · rw [(initiatePairing_of_initiates hinitiates).2]
        refine registerSession_keeps h ?_
        rintro rfl
        exact hkeeps entry h hentry
      · rw [(initiatePairing_of_not_initiates hinitiates).2.2]
        exact h
  | handleIncomingRequest io request password ip =>
      have htime : effectiveTime io.now io.again ∈
          (PairingEvent.handleIncomingRequest io request password ip).readings :=
        effectiveTime_mem (by simp [PairingEvent.readings]) (by simp [PairingEvent.readings])
      rcases pruneExpired_keeps io.now io.again h with hpruned | hlt
      · left
        change (handleIncomingRequest prim io request password ip
          ⟨s, []⟩).1.session.m_replayCache.m_seenSessions.value? k = some entry
        by_cases hverifies : ∃ kdfKey, Verifies prim io request password s.m_replayCache kdfKey
        · obtain ⟨kdfKey, hverifies⟩ := hverifies
          obtain ⟨-, -, -, hunseen, -⟩ := isReplayed_eq_false.mp hverifies.fresh
          have hregistered : (verified prim io request
              ⟨s, []⟩).session.m_replayCache.m_seenSessions.value? k = some entry := by
            rw [session_verified]
            refine registerSession_keeps hpruned ?_
            rintro rfl
            rw [hunseen] at hpruned
            cases hpruned
          rw [handleIncomingRequest_of_verifies hverifies]
          by_cases hresponds :
              ∃ secret, Responds prim io (decode64 request.ephemeralPublicKeyBase64) secret
          · obtain ⟨secret, hresponds⟩ := hresponds
            have hkey : kdfKey ≠ [] := by
              rw [← (authenticate_eq_ok.mp hverifies.proof).2.2.2.2.2.1]
              exact kdf_ne_nil _ _
            rw [(acceptRequest_of_responds hkey hresponds).2]
            refine registerSession_keeps hregistered ?_
            rintro rfl
            exact hkeeps entry hpruned hentry
          · rw [(acceptRequest_of_not_responds (not_exists.mp hresponds)).2.2]
            exact hregistered
        · rcases (handleIncomingRequest_of_not_verifies (t := ⟨s, []⟩)
              (not_exists.mp hverifies)).2.2
            with hcache | hcache
          · rw [hcache]
            exact h
          · rw [hcache]
            exact hpruned
      · exact Or.inr ⟨_, htime, hlt⟩
  | handleIncomingResponse io response password =>
      have htime : effectiveTime io.now io.again ∈
          (PairingEvent.handleIncomingResponse io response password).readings :=
        effectiveTime_mem (by simp [PairingEvent.readings]) (by simp [PairingEvent.readings])
      rcases pruneExpired_keeps io.now io.again h with hpruned | hlt
      · left
        change (handleIncomingResponse prim io response password
          ⟨s, []⟩).1.session.m_replayCache.m_seenSessions.value? k = some entry
        by_cases hconcludes : ∃ secret, Concludes prim io response password s secret
        · obtain ⟨secret, hconcludes⟩ := hconcludes
          obtain ⟨-, -, -, hunseen, -⟩ := isReplayed_eq_false.mp hconcludes.fresh
          rw [(handleIncomingResponse_of_concludes hconcludes).2]
          refine registerSession_keeps hpruned ?_
          rintro rfl
          rw [hunseen] at hpruned
          cases hpruned
        · rcases (handleIncomingResponse_of_not_concludes (t := ⟨s, []⟩)
              (not_exists.mp hconcludes)).2.2
            with hcache | hcache
          · rw [hcache]
            exact h
          · rw [hcache]
            exact hpruned
      · exact Or.inr ⟨_, htime, hlt⟩
  | cancelPairing =>
      left
      change (PairingTurn.cancelPairing
        ⟨s, []⟩).session.m_replayCache.m_seenSessions.value? k = some entry
      rcases session_cancelPairing ⟨s, []⟩ with hsession | hsession
      · rw [hsession]
        exact h
      · rw [hsession]
        exact h
  | reset =>
      left
      change (PairingTurn.reset ⟨s, []⟩).session.m_replayCache.m_seenSessions.value? k = some entry
      rw [session_reset]
      exact h

/-! ### Accepted requests -/

variable {es : List PairingEvent} {q : PairingRequest}

variable (prim) in
/-- **The invariant of an accepted request.** Its entry is in the cache, or it is
expired for good; and it does not lie further in the future than the window. -/
structure Remembered (es : List PairingEvent) (s : PairingSession) (q : PairingRequest) : Prop where
  past : ∃ τ ∈ es.flatMap PairingEvent.readings, q.timestamp ≤ τ + REPLAY_WINDOW_SECONDS
  seen : (∃ k, s.m_replayCache.m_seenSessions.value? k =
      some ⟨q.timestamp, prim.sha256 q.buildTranscriptMessage⟩) ∨
    ∃ τ ∈ es.flatMap PairingEvent.readings, q.timestamp + REPLAY_WINDOW_SECONDS < τ

/-- The readings of the last call are behind those before. -/
lemma Chronological.le (h : Chronological (es ++ [e])) {τ τ' : ℤ}
    (hτ : τ ∈ es.flatMap PairingEvent.readings) (hτ' : τ' ∈ e.readings) : τ ≤ τ' := by
  rw [Chronological, List.flatMap_append, List.pairwise_append] at h
  refine h.2.2 τ hτ τ' ?_
  rw [List.flatMap_singleton]
  exact hτ'

lemma Chronological.of_snoc (h : Chronological (es ++ [e])) : Chronological es := by
  rw [Chronological, List.flatMap_append, List.pairwise_append] at h
  exact h.1

lemma mem_readings_of_mem {τ : ℤ} (h : τ ∈ es.flatMap PairingEvent.readings) :
    τ ∈ (es ++ [e]).flatMap PairingEvent.readings := by
  rw [List.flatMap_append]
  exact List.mem_append_left _ h

lemma mem_readings_last {τ : ℤ} (h : τ ∈ e.readings) :
    τ ∈ (es ++ [e]).flatMap PairingEvent.readings := by
  rw [List.flatMap_append, List.flatMap_singleton]
  exact List.mem_append_right _ h

/-- **A request stays remembered.** -/
lemma Remembered.step (h : Remembered prim es s q) (hclock : Chronological (es ++ [e]))
    (hkeeps : Keeps prim requests s e) (hq : q ∈ requests) :
    Remembered prim (es ++ [e]) ((PairingSession.machine prim).step s e).1 q := by
  obtain ⟨τ₀, hτ₀, hpast⟩ := h.past
  refine ⟨⟨τ₀, mem_readings_of_mem hτ₀, hpast⟩, ?_⟩
  rcases h.seen with ⟨k, hk⟩ | ⟨τ, hτ, hlt⟩
  · rcases cache_step hkeeps ⟨q, hq, rfl⟩ hk with hkept | ⟨τ, hτ, hexpired⟩
    · exact Or.inl ⟨k, hkept⟩
    · -- out of the window, and not in front of it
      right
      refine ⟨τ, mem_readings_last hτ, ?_⟩
      have hle := hclock.le hτ₀ hτ
      simp only at hexpired
      omega
  · exact Or.inr ⟨τ, mem_readings_of_mem hτ, hlt⟩

/-- **An accepted request is remembered.** -/
lemma remembered_of_responded {response : PairingResponse}
    (h : PairingDeed.responded q response ∈ ((PairingSession.machine prim).step s e).2) :
    Remembered prim (es ++ [e]) ((PairingSession.machine prim).step s e).1 q := by
  obtain ⟨io, password, ip, rfl, hresponse⟩ := exists_of_responded h
  obtain ⟨kdfKey, secret, hverifies, -, -, hsession⟩ := exists_of_handleIncomingRequest hresponse
  obtain ⟨hid, hhash, hvalid, -⟩ := isReplayed_eq_false.mp hverifies.fresh
  have htime : effectiveTime io.now io.again ∈
      (PairingEvent.handleIncomingRequest io q password ip).readings :=
    effectiveTime_mem (by simp [PairingEvent.readings]) (by simp [PairingEvent.readings])
  constructor
  · refine ⟨_, mem_readings_last htime, ?_⟩
    rw [isTimestampValid] at hvalid
    split_ifs at hvalid
    have hnear := of_decide_eq_true hvalid
    omega
  · left
    refine ⟨q.sessionId, ?_⟩
    change (handleIncomingRequest prim io q password ip
      ⟨s, []⟩).1.session.m_replayCache.m_seenSessions.value? q.sessionId = _
    rw [hsession, session_verified]
    refine registerSession_keeps ?_ (HandshakeRun.append_resp_ne q.sessionId).symm
    rw [value?_registerSession hid hhash, if_pos rfl]

/-- **A remembered request is refused.** -/
lemma Remembered.refused {q' : PairingRequest} {response : PairingResponse}
    (h : Remembered prim es s q) (hclock : Chronological (es ++ [e]))
    (htranscript : q.buildTranscriptMessage = q'.buildTranscriptMessage)
    (htimestamp : q.timestamp = q'.timestamp) :
    PairingDeed.responded q' response ∉ ((PairingSession.machine prim).step s e).2 := by
  intro hmem
  obtain ⟨io, password, ip, rfl, hresponse⟩ := exists_of_responded hmem
  obtain ⟨kdfKey, secret, hverifies, -⟩ := exists_of_handleIncomingRequest hresponse
  obtain ⟨-, -, hvalid, -, hhashes⟩ := isReplayed_eq_false.mp hverifies.fresh
  have htime : effectiveTime io.now io.again ∈
      (PairingEvent.handleIncomingRequest io q' password ip).readings :=
    effectiveTime_mem (by simp [PairingEvent.readings]) (by simp [PairingEvent.readings])
  rw [isTimestampValid] at hvalid
  split_ifs at hvalid
  have hnear := of_decide_eq_true hvalid
  rcases h.seen with ⟨k, hk⟩ | ⟨τ, hτ, hlt⟩
  · rcases pruneExpired_keeps io.now io.again hk with hpruned | hexpired
    · exact hhashes k _ hpruned (by rw [htranscript])
    · simp only at hexpired
      omega
  · have hle := hclock.le hτ htime
    omega

/-! ### The run -/

lemma filterMap_shown (t : PairingTurn) : t.shown.filterMap PairingDeed.transcript? = [] := by
  rw [PairingTurn.shown, List.filterMap_map]
  exact List.filterMap_eq_nil_iff.mpr fun _ _ => rfl

/-- A step answers one request at most. -/
lemma transcripts_step (prim : Primitives) (s : PairingSession) (e : PairingEvent) :
    ((PairingSession.machine prim).step s e).2.filterMap PairingDeed.transcript? = [] ∨
      ∃ q response,
        PairingDeed.responded q response ∈ ((PairingSession.machine prim).step s e).2 ∧
        ((PairingSession.machine prim).step s e).2.filterMap PairingDeed.transcript? =
          [q.buildTranscriptMessage] := by
  cases e with
  | initiatePairing io peer password ip =>
      left
      simp only [PairingSession.machine, List.filterMap_append, filterMap_shown, List.nil_append]
      cases (initiatePairing prim io peer password ip ⟨s, []⟩).2 <;> rfl
  | handleIncomingRequest io request password ip =>
      cases hresponse : (handleIncomingRequest prim io request password ip ⟨s, []⟩).2 with
      | none =>
          left
          simp only [PairingSession.machine, List.filterMap_append, filterMap_shown,
            List.nil_append, hresponse]
          rfl
      | some response =>
          right
          refine ⟨request, response, ?_, ?_⟩
          · simp [PairingSession.machine, hresponse]
          · simp only [PairingSession.machine, List.filterMap_append, filterMap_shown,
              List.nil_append, hresponse]
            rfl
  | handleIncomingResponse io response password =>
      left
      simp only [PairingSession.machine, List.filterMap_append, filterMap_shown, List.nil_append]
      split_ifs <;> rfl
  | cancelPairing => exact Or.inl (filterMap_shown _)
  | reset => exact Or.inl (filterMap_shown _)

lemma mem_answered {log : List PairingDeed} {response : PairingResponse}
    (h : PairingDeed.responded q response ∈ log) : q ∈ log.filterMap PairingDeed.request? :=
  List.mem_filterMap.mpr ⟨_, h, rfl⟩

lemma exists_of_mem_transcripts {log : List PairingDeed} {bytes : Bytes}
    (h : bytes ∈ log.filterMap PairingDeed.transcript?) :
    ∃ q response, PairingDeed.responded q response ∈ log ∧ q.buildTranscriptMessage = bytes := by
  obtain ⟨deed, hmem, hdeed⟩ := List.mem_filterMap.mp h
  cases deed with
  | responded q response => exact ⟨q, response, hmem, Option.some.inj hdeed⟩
  | signal _ => cases hdeed
  | requested _ => cases hdeed
  | accepted _ => cases hdeed

variable {s₀ : PairingSession} {log : List PairingDeed}

/-- What is answered along a run was handled. -/
lemma handled_of_answered {G : PairingSession → PairingEvent → Prop}
    (hrun : Run (PairingSession.machine prim) G s₀ es log s)
    (h : q ∈ log.filterMap PairingDeed.request?) : q ∈ es.filterMap PairingEvent.request? := by
  induction hrun with
  | nil => cases h
  | @snoc es log s e _ _ ih =>
      rw [List.filterMap_append] at h ⊢
      rcases List.mem_append.mp h with h | h
      · exact List.mem_append_left _ (ih h)
      · obtain ⟨deed, hmem, hdeed⟩ := List.mem_filterMap.mp h
        cases deed with
        | responded q' response =>
            obtain rfl := Option.some.inj hdeed
            obtain ⟨io, password, ip, rfl, -⟩ := exists_of_responded hmem
            exact List.mem_append_right _ List.mem_cons_self
        | signal _ => cases hdeed
        | requested _ => cases hdeed
        | accepted _ => cases hdeed

/-- Along a run every accepted request is remembered, and none is accepted twice. -/
lemma remembered_run (hrun : Run (PairingSession.machine prim) (Keeps prim requests) s₀ es log s)
    (hdated : Dated requests) (hclock : Chronological es)
    (hrequests : ∀ q ∈ log.filterMap PairingDeed.request?, q ∈ requests) :
    (∀ q response, PairingDeed.responded q response ∈ log →
      q ∈ requests ∧ Remembered prim es s q) ∧
    (log.filterMap PairingDeed.transcript?).Nodup := by
  induction hrun with
  | nil =>
      exact ⟨fun _ _ h => absurd h List.not_mem_nil, List.nodup_nil⟩
  | @snoc es log s e h he ih =>
      obtain ⟨hremembered, hnodup⟩ := ih hclock.of_snoc fun q hq =>
        hrequests q (by rw [List.filterMap_append]; exact List.mem_append_left _ hq)
      rw [List.filterMap_append]
      constructor
      · intro q response hmem
        rcases List.mem_append.mp hmem with hmem | hmem
        · obtain ⟨hq, hq'⟩ := hremembered q response hmem
          exact ⟨hq, hq'.step hclock he hq⟩
        · refine ⟨hrequests q ?_, remembered_of_responded hmem⟩
          rw [List.filterMap_append]
          exact List.mem_append_right _ (mem_answered hmem)
      · rcases transcripts_step prim s e with
          hnone | ⟨q, response, hmem, hone⟩
        · rw [hnone, List.append_nil]
          exact hnodup
        · rw [hone]
          refine List.nodup_append.mpr ⟨hnodup, List.nodup_singleton _, ?_⟩
          rintro bytes hbytes last hlast rfl
          obtain rfl := List.mem_singleton.mp hlast
          obtain ⟨q', response', hmem', htranscript⟩ := exists_of_mem_transcripts hbytes
          obtain ⟨hq', hremembered'⟩ := hremembered q' response' hmem'
          have hq : q ∈ requests := by
            refine hrequests q ?_
            rw [List.filterMap_append]
            exact List.mem_append_right _ (mem_answered hmem)
          exact hremembered'.refused hclock htranscript (hdated q' hq' q hq htranscript) hmem

/-- **No replay.** Along a run that overwrites no entry of a request it answers, and that
answers requests with the same transcript bytes only when they have the same timestamp,
no two requests with the same transcript bytes are answered. -/
theorem no_replay
    (hrun : Run (PairingSession.machine prim)
      (Keeps prim (log.filterMap PairingDeed.request?)) s₀ es log s)
    (hclock : Chronological es) (hdated : Dated (log.filterMap PairingDeed.request?)) :
    (log.filterMap PairingDeed.transcript?).Nodup :=
  (remembered_run hrun hdated hclock fun _ hq => hq).2

namespace PairingTest

/-- Bob answers a request and gets it again. -/
def replayedEvents : List PairingEvent := [
  .handleIncomingRequest { privateKey := bobPrivate 0, deviceId := bobId, now := 1760000001 }
    (testRun.request recording.primitives) password "10.77.0.3",
  .handleIncomingRequest { privateKey := bobPrivate 2, deviceId := bobId, now := 1760000021 }
    (testRun.request recording.primitives) password "10.77.0.3"]

/-- The second request of Alice. -/
def secondRequest : PairingRequest :=
  freshRequest recording.primitives {
    privateKey := alicePrivate 1
    salt := salt 1
    deviceId := aliceId
    now := 1760000010
    uuid := "5d2a7c11-88a4-4b0e-b1de-3f0c9be6a201" } password bobId "10.77.0.2"

/-- The first request of Alice arrives under the id that the response to the second will
have, then the second, then the first again under its own id. -/
def overwritingEvents : List PairingEvent := [
  .handleIncomingRequest { privateKey := bobPrivate 0, deviceId := bobId, now := 1760000001 }
    { testRun.request recording.primitives with
      sessionId := secondRequest.sessionId ++ "_resp" } password "10.77.0.3",
  .handleIncomingRequest { privateKey := bobPrivate 1, deviceId := bobId, now := 1760000011 }
    secondRequest password "10.77.0.3",
  .handleIncomingRequest { privateKey := bobPrivate 2, deviceId := bobId, now := 1760000021 }
    (testRun.request recording.primitives) password "10.77.0.3"]

/-- Nothing else is answered. -/
lemma eq_of_mem_answered {q : PairingRequest}
    (h : q ∈ ((PairingSession.machine recording.primitives).exec {} replayedEvents).1.filterMap
      PairingDeed.request?) :
    q = testRun.request recording.primitives := by
  have hallows : (PairingSession.machine recording.primitives).Allows (fun _ _ => True) {}
      replayedEvents := Machine.allows_of_forall _ (fun _ _ => trivial) _ _
  have hhandled := handled_of_answered (Run.exec hallows) h
  change q ∈ [testRun.request recording.primitives, testRun.request recording.primitives]
    at hhandled
  rcases List.mem_cons.mp hhandled with heq | hmem
  · exact heq
  · exact List.mem_singleton.mp hmem

/-- The second step of `replayedEvents` finds the entry of the first response. -/
lemma keeps_replayedEvents :
    (PairingSession.machine recording.primitives).Allows
      (Keeps recording.primitives (((PairingSession.machine recording.primitives).exec {}
        replayedEvents).1.filterMap PairingDeed.request?)) {} replayedEvents := by
  refine ⟨fun entry hentry => ?_, fun entry hentry => ?_, trivial⟩
  · have hnone : (({} : PairingSession).m_replayCache.pruneExpired 1760000001
        1760000001).m_seenSessions.value?
          ((testRun.request recording.primitives).sessionId ++ "_resp") = none := by
      decide +kernel
    rw [hnone] at hentry
    cases hentry
  · have hsome : ((((PairingSession.machine recording.primitives).step {}
        (replayedEvents.head (List.cons_ne_nil _ _))).1.m_replayCache.pruneExpired 1760000021
          1760000021).m_seenSessions.value?
            ((testRun.request recording.primitives).sessionId ++ "_resp")) =
        some ⟨1760000001, recording.primitives.sha256 (bobTranscript 1760000001 0)⟩ := by
      decide +kernel
    obtain rfl := Option.some.inj (hsome.symm.trans hentry)
    have hne : recording.primitives.sha256 (bobTranscript 1760000001 0) ≠
        recording.primitives.sha256
          (testRun.request recording.primitives).buildTranscriptMessage := by
      decide +kernel
    rintro ⟨q, hq, hhash⟩
    rw [eq_of_mem_answered hq] at hhash
    dsimp only at hhash
    exact hne hhash

/-- The repeated request is answered once. -/
theorem no_replay_replayedEvents :
    ((((PairingSession.machine recording.primitives).exec {} replayedEvents).1).filterMap
      PairingDeed.transcript?).Nodup :=
  no_replay (Run.exec keeps_replayedEvents) (by decide) fun _ hq _ hq' _ => by
    rw [eq_of_mem_answered hq, eq_of_mem_answered hq']

/-- **A request is answered twice.** The response to the second request overwrites the
entry of the first. -/
theorem request_answered_twice :
    ∃ (es : List PairingEvent) (log : List PairingDeed) (s : PairingSession),
      Run (PairingSession.machine recording.primitives) (fun _ _ => True) {} es log s ∧
      Chronological es ∧
      (∀ q ∈ es.filterMap PairingEvent.request?, ∀ q' ∈ es.filterMap PairingEvent.request?,
        recording.primitives.sha256 q.buildTranscriptMessage =
            recording.primitives.sha256 q'.buildTranscriptMessage →
          q.buildTranscriptMessage = q'.buildTranscriptMessage) ∧
      ¬ (log.filterMap PairingDeed.transcript?).Nodup := by
  refine ⟨overwritingEvents, _, _,
    Run.exec (Machine.allows_of_forall _ (fun _ _ => trivial) _ _), by decide,
    by decide +kernel, ?_⟩
  decide +kernel

end PairingTest

end MeckChat.Crypto
