import MeckChat.Protocol.TransferIntegrity

/-!
The handlers at work, one session at a time.

* A `Handled` is one handler on one session: what it was asked, what it found and
  what it left.
* `handlings` lists the handlers that run in a step; the loss of a connection is one
  for each session.
* `chain_step`: the files change in a step as its handlers change them, one after the
  other, and not otherwise.
* `leftBy_step`: a session that was not just offered is as a handler left it.
-/

namespace MeckChat.Protocol

open Qt QJson FileTransferController

/-- A handler at work on a session: what the surroundings decide, what it is asked,
and the turn before it. -/
structure Handled where
  io : Io
  m_socket : Bool
  transferId : String
  request : Request
  before : Turn

/-- The turn behind the handler. -/
def Handled.after (json : JsonCodec) (sha : Sha256) (h : Handled) : Turn :=
  h.request.run json sha h.io h.m_socket h.transferId h.before

variable (json : JsonCodec) (sha : Sha256)

namespace FileTransferController

/-- The handler that a request calls, if the id has a session. -/
def handling (c : FileTransferController) (io : Io) (tid : String) (r : Request) : List Handled :=
  match c.m_sessions.value? tid with
  | some s => [⟨io, c.m_socket, tid, r, { session := s, files := c.files }⟩]
  | none => []

/-- The handlers that the loss of a connection calls. -/
def disconnectHandlings (io : Io) : List String → FileTransferController → List Handled
  | [], _ => []
  | tid :: tids, c =>
      c.handling io tid .disconnected ++
        disconnectHandlings io tids (c.onRequest json sha io tid .disconnected).1

/-- The handlers that run in a step. -/
def handlings (c : FileTransferController) (e : Event × Io) : List Handled :=
  match e.1.command json with
  | .request tid r => c.handling e.2 tid r
  | .timeout tid => if tid ∈ c.timers then c.handling e.2 tid .sendNextChunk else []
  | .disconnect => disconnectHandlings json sha e.2 c.m_sessions.keys c
  | _ => []

/-- From some files to others, one handler after the other. -/
def Chain : FileSystem → List Handled → FileSystem → Prop
  | fs, [], fs' => fs' = fs
  | fs, h :: hs, fs' => h.before.files = fs ∧ Chain (h.after json sha).files hs fs'

variable {json sha} {c : FileTransferController} {fs fs' fs'' : FileSystem} {hs hs' : List Handled}

lemma Chain.append (h : Chain json sha fs hs fs') (h' : Chain json sha fs' hs' fs'') :
    Chain json sha fs (hs ++ hs') fs'' := by
  induction hs generalizing fs with
  | nil =>
      obtain rfl : fs' = fs := h
      exact h'
  | cons x hs ih => exact ⟨h.1, ih h.2⟩

lemma chain_handling (c : FileTransferController) (io : Io) (tid : String) (r : Request) :
    Chain json sha c.files (c.handling io tid r) (c.onRequest json sha io tid r).1.files := by
  rw [handling, onRequest]
  cases hs : c.m_sessions.value? tid with
  | none => rw [onSession_none hs, Chain]
  | some s =>
      rw [onSession_some hs]
      exact ⟨rfl, rfl⟩

lemma chain_disconnectHandlings (io : Io) (tids : List String) (c : FileTransferController) :
    Chain json sha c.files (disconnectHandlings json sha io tids c)
      (disconnectAll io tids c).1.files := by
  induction tids generalizing c with
  | nil => rfl
  | cons tid tids ih => exact (chain_handling c io tid .disconnected).append (ih _)

/-- **Files in a step.** They change as the handlers of the step change them. -/
theorem chain_step (c : FileTransferController) (e : Event × Io) :
    Chain json sha c.files (c.handlings json sha e) (c.step json sha e.1 e.2).1.files := by
  rw [step_eq_run, handlings]
  cases e.1.command json with
  | sendFile filePath ip =>
      rw [runCommand]
      rcases sendFile_cases json sha c e.2 filePath ip with hnone | ⟨s, deeds, -, heq⟩
      · rw [hnone, Chain]
      · rw [heq]
        rfl
  | offer offer => rfl
  | request tid r => exact chain_handling c e.2 tid r
  | timeout tid =>
      rw [runCommand]
      dsimp only
      split_ifs
      · exact chain_handling { c with timers := c.timers.erase tid } e.2 tid .sendNextChunk
      · rfl
  | disconnect => exact chain_disconnectHandlings e.2 _ c
  | nothing => rfl

/-! ### Sessions in a step -/

variable (json sha) in
/-- What is found at an id was found there before, or a handler left it. -/
def LeftBy (c : FileTransferController) (hs : List Handled) (tid : String)
    (s : FileTransferSession) : Prop :=
  c.m_sessions.value? tid = some s ∨
    ∃ h ∈ hs, h.transferId = tid ∧ (h.after json sha).session = s

variable {tid : String} {s : FileTransferSession}

lemma leftBy_handling {io : Io} {tid' : String} {r : Request}
    (h : (c.onRequest json sha io tid' r).1.m_sessions.value? tid = some s) :
    LeftBy json sha c (c.handling io tid' r) tid s := by
  rw [onRequest] at h
  by_cases htid : tid = tid'
  · subst htid
    cases hs : c.m_sessions.value? tid with
    | none =>
        rw [onSession_none hs] at h
        exact .inl h
    | some s₀ =>
        rw [value?_onSession_self hs, Option.some.injEq] at h
        have hmem : (⟨io, c.m_socket, tid, r, { session := s₀, files := c.files }⟩ : Handled) ∈
            c.handling io tid r := by
          rw [handling, hs]
          exact List.mem_singleton_self _
        exact .inr ⟨_, hmem, rfl, h⟩
  · rw [value?_onSession_of_ne htid] at h
    exact .inl h

lemma leftBy_disconnectHandlings {io : Io} {tids : List String}
    (h : (disconnectAll io tids c).1.m_sessions.value? tid = some s) :
    LeftBy json sha c (disconnectHandlings json sha io tids c) tid s := by
  induction tids generalizing c with
  | nil => exact .inl h
  | cons tid' tids ih =>
      obtain ⟨c', hc'⟩ : ∃ c', c' = (c.onRequest json sha io tid' .disconnected).1 := ⟨_, rfl⟩
      have h' : (disconnectAll io tids c').1.m_sessions.value? tid = some s := by
        rw [hc']
        exact h
      rw [disconnectHandlings, ← hc']
      rcases ih h' with hold | ⟨x, hx, hleft⟩
      · rw [hc'] at hold
        rcases leftBy_handling hold with hbefore | ⟨x, hx, hleft⟩
        · exact .inl hbefore
        · exact .inr ⟨x, List.mem_append_left _ hx, hleft⟩
      · exact .inr ⟨x, List.mem_append_right _ hx, hleft⟩

/-- **Sessions in a step.** A session that was not just offered was there before, or a
handler of the step left it. -/
theorem leftBy_step {e : Event × Io}
    (h : (c.step json sha e.1 e.2).1.m_sessions.value? tid = some s) (hs : s.state ≠ .Offering) :
    LeftBy json sha c (c.handlings json sha e) tid s := by
  have hregister : ∀ s' deeds, s'.state = .Offering →
      (c.register s' deeds).1.m_sessions.value? tid = some s →
        c.m_sessions.value? tid = some s := by
    intro s' deeds hoffering hvalue
    rw [register, QMap.value?_insert] at hvalue
    split_ifs at hvalue
    · rw [Option.some.injEq] at hvalue
      exact absurd (hvalue ▸ hoffering) hs
    · exact hvalue
  rw [step_eq_run] at h
  rw [handlings]
  cases hcmd : e.1.command json with
  | sendFile filePath ip =>
      rw [hcmd, runCommand] at h
      rcases sendFile_cases json sha c e.2 filePath ip with hnone | ⟨s', deeds, hr, heq⟩
      · rw [hnone] at h
        exact .inl h
      · rw [heq] at h
        exact .inl (hregister s' deeds hr.state_eq h)
  | offer offer =>
      rw [hcmd, runCommand] at h
      exact .inl (hregister (incomingSession c.nextObject offer) [] rfl h)
  | request tid' r =>
      rw [hcmd] at h
      exact leftBy_handling h
  | timeout tid' =>
      rw [hcmd, runCommand] at h
      dsimp only
      split_ifs at h ⊢
      · exact leftBy_handling (c := { c with timers := c.timers.erase tid' }) h
      · exact .inl h
  | disconnect =>
      rw [hcmd] at h
      exact leftBy_disconnectHandlings h
  | nothing =>
      rw [hcmd] at h
      exact .inl h

end FileTransferController

end MeckChat.Protocol
