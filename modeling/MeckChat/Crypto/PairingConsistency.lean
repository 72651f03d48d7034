import MeckChat.Crypto.Handshake

/-!
The result and the last error of a pairing session agree with its state.

* `Consistent` is the agreement, and `Blank` what `reset` leaves: neither result nor error.
* `consistent_setFailed` and `consistent_succeed` are the two ways a call ends; each call has one
  lemma about the exit it takes.
* `Undisturbed` says that no response arrives at a session that is paired.
* `step_consistent_iff` is the step lemma, and `result_exactly_when_paired` the statement about
  runs; `response_after_pairing` shows the result that is left behind.
-/

namespace MeckChat.Crypto

open Protocol QByteArray CryptoProvider PairingTurn

/-- There is a result exactly in the state `Paired`, and an error exactly in `Failed`. -/
structure Consistent (s : PairingSession) : Prop where
  result : s.m_result.isSome = true ↔ s.m_state = .Paired
  error : s.m_lastError = .None ↔ s.m_state ≠ .Failed

/-- Neither a result nor an error. -/
structure Blank (s : PairingSession) : Prop where
  result : s.m_result = none
  error : s.m_lastError = .None

variable {prim : Primitives}

section Exits

variable {t : PairingTurn}

lemma blank_reset : Blank t.reset.session := by
  rw [session_reset]
  exact ⟨rfl, rfl⟩

lemma Blank.setState (h : Blank t.session) (state : PairingState) :
    Blank (t.setState state).session := by
  rw [session_setState]
  exact ⟨h.result, h.error⟩

/-- A blank session agrees with every state but two. -/
lemma Blank.consistent {s : PairingSession} (h : Blank s) (hpaired : s.m_state ≠ .Paired)
    (hfailed : s.m_state ≠ .Failed) : Consistent s := by
  refine ⟨⟨fun hresult => ?_, fun hstate => absurd hstate hpaired⟩, fun _ => hfailed,
    fun _ => h.error⟩
  rw [h.result] at hresult
  cases hresult

/-- The failing exit. -/
lemma consistent_setFailed {error : PairingError} (hresult : t.session.m_result = none)
    (herror : error ≠ .None) (reason : String) : Consistent (t.setFailed error reason).session := by
  rw [session_setFailed]
  constructor
  · dsimp only
    rw [hresult]
    simp
  · simpa using herror

/-- The successful exit. -/
lemma consistent_succeed (herror : t.session.m_lastError = .None) (result : PairingResult) :
    Consistent (t.succeed result).session := by
  rw [session_succeed]
  exact ⟨by simp, by simpa using herror⟩

/-- `authenticate` fails with an error. -/
lemma error_of_authenticate {io : CryptoIo} {texts : AuthTexts} {password : String}
    {transcript peerPubKey salt peerProof : Bytes} {failure : PairingError × String}
    (h : authenticate prim io texts password transcript peerPubKey salt peerProof =
      .error failure) : failure.1 ≠ .None := by
  rw [authenticate] at h
  split at h
  · rw [← Except.error.inj h]
    exact PairingError.noConfusion
  · split at h
    · rw [← Except.error.inj h]
      exact PairingError.noConfusion
    · split at h
      · rw [← Except.error.inj h]
        exact PairingError.noConfusion
      · split at h
        · cases h
        · rw [← Except.error.inj h]
          exact PairingError.noConfusion

end Exits

/-! ### The calls -/

section Calls

variable {io : PairingIo} {password localVirtualIp peerDeviceId : String} {t : PairingTurn}

lemma consistent_initiatePairing :
    Consistent (initiatePairing prim io peerDeviceId password localVirtualIp t).1.session := by
  have hblank : Blank (t.reset.setState .Initiating).session := blank_reset.setState _
  simp only [initiatePairing]
  split
  · refine consistent_setFailed ?_ (by decide) _
    exact hblank.result
  · split
    · refine consistent_setFailed ?_ (by decide) _
      exact hblank.result
    · split
      · refine consistent_setFailed ?_ (by decide) _
        exact hblank.result
      · split
        · refine consistent_setFailed ?_ (by decide) _
          exact hblank.result
        · split
          · refine consistent_setFailed ?_ (by decide) _
            exact hblank.result
          · refine Blank.consistent (Blank.setState ?_ _) (by simp) (by simp)
            exact ⟨hblank.result, hblank.error⟩

lemma consistent_acceptRequest {request : PairingRequest} {kdfKey peerPubKey salt : Bytes}
    (h : Blank t.session) :
    Consistent
      (acceptRequest prim io request localVirtualIp kdfKey peerPubKey salt t).1.session := by
  simp only [acceptRequest]
  generalize (if localVirtualIp = "" then io.virtualIp else localVirtualIp) = ip
  split
  · refine consistent_setFailed ?_ (by decide) _
    exact h.result
  · split
    · refine consistent_setFailed ?_ (by decide) _
      exact h.result
    · split
      · refine consistent_setFailed ?_ (by decide) _
        exact h.result
      · refine consistent_succeed ?_ _
        exact h.error

lemma consistent_handleIncomingRequest {request : PairingRequest} :
    Consistent (handleIncomingRequest prim io request password localVirtualIp t).1.session := by
  have hblank : Blank (t.reset.setState .Verifying).session := blank_reset.setState _
  simp only [handleIncomingRequest]
  split
  · refine consistent_setFailed ?_ (by decide) _
    exact hblank.result
  · split
    · refine consistent_setFailed ?_ (by decide) _
      exact hblank.result
    · split
      · refine consistent_setFailed ?_ (by decide) _
        exact hblank.result
      · split
        · next failure hauth =>
            refine consistent_setFailed ?_ (error_of_authenticate hauth) _
            exact hblank.result
        · refine consistent_acceptRequest ?_
          exact ⟨hblank.result, hblank.error⟩

/-- A response leaves a result only if it leads to the state `Paired`, unless there was one. -/
lemma consistent_handleIncomingResponse {response : PairingResponse} (h : Consistent t.session) :
    Consistent (handleIncomingResponse prim io response password t).1.session ↔
      t.session.m_state ≠ .Paired := by
  rw [handleIncomingResponse]
  by_cases hawaiting : t.session.m_state = .AwaitingResponse
  · have hresult : t.session.m_result = none := by
      rw [← Option.not_isSome_iff_eq_none, h.result, hawaiting]
      decide
    have herror : t.session.m_lastError = .None := by
      rw [h.error, hawaiting]
      decide
    have hblank : Blank (t.setState .Verifying).session := Blank.setState ⟨hresult, herror⟩ _
    have hstate : t.session.m_state ≠ .Paired := by
      rw [hawaiting]
      decide
    refine iff_of_true ?_ hstate
    simp only [hawaiting, ne_eq, not_true_eq_false, if_false]
    split
    · refine consistent_setFailed ?_ (by decide) _
      exact hblank.result
    · split
      · refine consistent_setFailed ?_ (by decide) _
        exact hblank.result
      · split
        · refine consistent_setFailed ?_ (by decide) _
          exact hblank.result
        · split
          · refine consistent_setFailed ?_ (by decide) _
            exact hblank.result
          · split
            · refine consistent_setFailed ?_ (by decide) _
              exact hblank.result
            · split
              · next failure hauth =>
                  refine consistent_setFailed ?_ (error_of_authenticate hauth) _
                  exact hblank.result
              · split
                · refine consistent_setFailed ?_ (by decide) _
                  exact hblank.result
                · refine consistent_succeed ?_ _
                  exact hblank.error
  · rw [if_pos hawaiting]
    constructor
    · -- the state is left, the result is not
      intro hafter hpaired
      have hsome := h.result.mpr hpaired
      have hresult := hafter.result
      rw [session_setFailed] at hresult
      exact PairingState.noConfusion (hresult.mp hsome)
    · intro hpaired
      have hnone : t.session.m_result = none := by
        rw [← Option.not_isSome_iff_eq_none, h.result]
        exact hpaired
      exact consistent_setFailed hnone (by decide) _

lemma consistent_reset : Consistent t.reset.session := by
  rw [session_reset]
  exact Blank.consistent ⟨rfl, rfl⟩ PairingState.noConfusion PairingState.noConfusion

lemma consistent_cancelPairing (h : Consistent t.session) :
    Consistent t.cancelPairing.session := by
  rcases session_cancelPairing t with heq | heq
  · rw [heq]
    exact h
  · rw [heq]
    exact Blank.consistent ⟨rfl, rfl⟩ PairingState.noConfusion PairingState.noConfusion

end Calls

/-! ### Runs -/

/-- No response is handled while the session is paired. -/
def Undisturbed (s : PairingSession) : PairingEvent → Prop
  | .handleIncomingResponse _ _ _ => s.m_state ≠ .Paired
  | _ => True

/-- **One call** keeps the agreement exactly if it is not disturbed. -/
lemma step_consistent_iff {s : PairingSession} (h : Consistent s) (e : PairingEvent) :
    Consistent ((PairingSession.machine prim).step s e).1 ↔ Undisturbed s e := by
  cases e with
  | initiatePairing io peer password ip => exact iff_of_true consistent_initiatePairing trivial
  | handleIncomingRequest io request password ip =>
      exact iff_of_true consistent_handleIncomingRequest trivial
  | handleIncomingResponse io response password =>
      exact consistent_handleIncomingResponse (t := ⟨s, []⟩) h
  | cancelPairing => exact iff_of_true (consistent_cancelPairing (t := ⟨s, []⟩) h) trivial
  | reset => exact iff_of_true (consistent_reset (t := ⟨s, []⟩)) trivial

/-- **A result exactly when paired.** In every run without a response to a paired session the result
and the error agree with the state, and the next call keeps it so exactly if it is no such
response. -/
theorem result_exactly_when_paired {es : List PairingEvent} {log : List PairingDeed}
    {s : PairingSession} (hrun : Run (PairingSession.machine prim) Undisturbed {} es log s) :
    Consistent s ∧
      ∀ e, Consistent ((PairingSession.machine prim).step s e).1 ↔ Undisturbed s e := by
  have h : Consistent s := by
    apply hrun.invariant
    · exact Blank.consistent ⟨rfl, rfl⟩ (by decide) (by decide)
    · exact fun s e h he => (step_consistent_iff h e).mpr he
  exact ⟨h, step_consistent_iff h⟩

namespace PairingTest

/-- Bob answers the request of Alice. -/
def bobAnswers : PairingEvent :=
  .handleIncomingRequest testRun.ioRespond (testRun.request recording.primitives) password
    testRun.responderIp

/-- His session is paired, with a result. -/
lemma bob_paired :
    ((PairingSession.machine recording.primitives).step {} bobAnswers).1.m_state = .Paired ∧
      ((PairingSession.machine recording.primitives).step {} bobAnswers).1.m_result.isSome =
        true := by
  decide +kernel

theorem result_exactly_when_paired_bob :
    Consistent ((PairingSession.machine recording.primitives).step {} bobAnswers).1 := by
  have hrun : Run (PairingSession.machine recording.primitives) Undisturbed {} [bobAnswers] _ _ :=
    Run.single trivial
  exact (result_exactly_when_paired hrun).1

/-- A response that nobody asked for. -/
def unaskedResponse : PairingEvent :=
  .handleIncomingResponse testRun.ioRespond (testRun.response recording.primitives) password

/-- **A result without a pairing.** The response fails the paired session of Bob, and its result
stays. -/
theorem response_after_pairing :
    ∃ log s, Run (PairingSession.machine recording.primitives) (fun _ _ => True) {}
      [bobAnswers, unaskedResponse] log s ∧ s.m_state = .Failed ∧ s.m_result.isSome = true := by
  have hrun : Run (PairingSession.machine recording.primitives) (fun _ _ => True) {}
      [bobAnswers, unaskedResponse] _ _ := Run.snoc (Run.single trivial) trivial
  obtain ⟨hpaired, hresult⟩ := bob_paired
  refine ⟨_, _, hrun, ?_⟩
  obtain ⟨s, hs⟩ : ∃ s, s =
      ((PairingSession.machine recording.primitives).step {} bobAnswers).1 := ⟨_, rfl⟩
  rw [← hs] at hpaired hresult ⊢
  have hfailed : ((PairingSession.machine recording.primitives).step s unaskedResponse).1 =
      (handleIncomingResponse recording.primitives testRun.ioRespond
        (testRun.response recording.primitives) password ⟨s, []⟩).1.session := rfl
  have hunasked : s.m_state ≠ .AwaitingResponse := by
    rw [hpaired]
    decide
  rw [hfailed, handleIncomingResponse, if_pos hunasked, session_setFailed]
  exact ⟨rfl, hresult⟩

end PairingTest

end MeckChat.Crypto
