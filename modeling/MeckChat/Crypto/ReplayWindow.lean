import MeckChat.Crypto.PairingSteps

/-!
The replay cache on its own, used the way the handlers use it.

* `CacheUse` is a cache with what its user goes by: the time of the last call, and the arguments of
  the call before if `isReplayed` let them through. `CacheUse.machine` logs what is registered.
* `CacheUse.Guarded` allows calls with times that do not go back, and `registerSession` directly
  behind `isReplayed`.
* `CacheUse.Remembers` is what holds of a registered session: its entry is there until its
  timestamp is out of the window for good. `Remembers.step` is its step lemma.
* `guarded_use`: no registered session or transcript is let through a second time, and a check
  leaves no entry that is out of the window.
-/

namespace MeckChat.Crypto

open ReplayProtectionCache

/-- The calls of the cache that are about sessions. -/
inductive CacheCall where
  | isReplayed (sessionId : String) (transcriptHash : Bytes) (timestamp currentTimestamp : ℤ)
  | registerSession (sessionId : String) (transcriptHash : Bytes) (timestamp : ℤ)
  | pruneExpired (currentTimestamp : ℤ)
  deriving DecidableEq, Repr

/-- A cache in use: the time of the last call, and what was let through just now. -/
structure CacheUse where
  cache : ReplayProtectionCache := {}
  time : ℤ := 0
  passed : Option (String × ReplayEntry) := none

namespace CacheUse

/-- One call, with a reading of the clock; what is registered is logged. -/
def step (u : CacheUse) : CacheCall × ℤ → CacheUse × List (String × ReplayEntry)
  | (.isReplayed sessionId transcriptHash timestamp now, clock) =>
      let r := u.cache.isReplayed sessionId transcriptHash timestamp now clock
      ({ cache := r.2
         time := now
         passed := if r.1 then none else some (sessionId, ⟨timestamp, transcriptHash⟩) }, [])
  | (.registerSession sessionId transcriptHash timestamp, _) =>
      ({ u with
          cache := u.cache.registerSession sessionId transcriptHash timestamp
          passed := none }, [(sessionId, ⟨timestamp, transcriptHash⟩)])
  | (.pruneExpired now, clock) =>
      ({ cache := u.cache.pruneExpired now clock, time := now, passed := none }, [])

/-- The cache in use as a machine. -/
def machine : Machine CacheUse (CacheCall × ℤ) (String × ReplayEntry) where
  step := step

/-- Times are positive and do not go back, and what is registered was let through just now. -/
def Guarded (u : CacheUse) (e : CacheCall × ℤ) : Prop :=
  match e.1 with
  | .isReplayed _ _ _ now => 0 < now ∧ u.time ≤ now
  | .registerSession sessionId transcriptHash timestamp =>
      u.passed = some (sessionId, ⟨timestamp, transcriptHash⟩)
  | .pruneExpired now => 0 < now ∧ u.time ≤ now

/-- A registered session is remembered until it is out of the window for good. -/
structure Remembers (u : CacheUse) (sessionId : String) (entry : ReplayEntry) : Prop where
  kept : u.cache.m_seenSessions.value? sessionId = some entry ∨
    entry.timestamp + REPLAY_WINDOW_SECONDS < u.time
  soon : entry.timestamp ≤ u.time + REPLAY_WINDOW_SECONDS

/-- What was let through is in the window, and new to the cache. -/
structure Fresh (u : CacheUse) (sessionId : String) (entry : ReplayEntry) : Prop where
  sessionId_ne : sessionId ≠ ""
  hash_ne : entry.transcriptHash ≠ []
  window : (u.time - entry.timestamp).natAbs ≤ REPLAY_WINDOW_SECONDS
  absent : u.cache.m_seenSessions.value? sessionId = none

variable {u : CacheUse} {e : CacheCall × ℤ} {sessionId : String}
  {transcriptHash : Bytes} {timestamp now clock : ℤ} {entry : ReplayEntry}

lemma effectiveTime_of_pos (h : 0 < now) (clock : ℤ) : effectiveTime now clock = now := if_pos h

/-- Pruning keeps what is in the window. -/
lemma Remembers.prune (h : Remembers u sessionId entry) (clock : ℤ) (hpos : 0 < now)
    (hnow : u.time ≤ now) :
    (u.cache.pruneExpired now clock).m_seenSessions.value? sessionId = some entry ∨
      entry.timestamp + REPLAY_WINDOW_SECONDS < now := by
  have hsoon := h.soon
  rcases h.kept with hentry | hover
  · rw [value?_pruneExpired, hentry, effectiveTime_of_pos hpos]
    by_cases hwindow : (now - entry.timestamp).natAbs ≤ REPLAY_WINDOW_SECONDS
    · left
      rw [Option.filter_some, if_pos (decide_eq_true hwindow)]
    · right
      omega
  · right
    omega

/-- The transcript of a remembered session is not let through. -/
lemma Remembers.refused_transcript (h : Remembers u sessionId entry) (hpos : 0 < now)
    (hnow : u.time ≤ now) (id : String) (clock : ℤ) :
    (u.cache.isReplayed id entry.transcriptHash entry.timestamp now clock).1 = true := by
  by_contra hlet
  rw [Bool.not_eq_true, isReplayed_eq_false] at hlet
  obtain ⟨-, -, hvalid, -, hother⟩ := hlet
  rw [isTimestampValid, effectiveTime_of_pos hpos] at hvalid
  split_ifs at hvalid with hneg
  have hwindow := of_decide_eq_true hvalid
  rcases h.prune clock hpos hnow with hentry | hover
  · exact hother _ _ hentry rfl
  · omega

/-- Nor is its id, as long as its timestamp is in the window. -/
lemma Remembers.refused_session (h : Remembers u sessionId entry) (hpos : 0 < now)
    (hnow : u.time ≤ now) (hwindow : (now - entry.timestamp).natAbs ≤ REPLAY_WINDOW_SECONDS)
    (hash : Bytes) (t clock : ℤ) : (u.cache.isReplayed sessionId hash t now clock).1 = true := by
  by_contra hlet
  rw [Bool.not_eq_true, isReplayed_eq_false] at hlet
  obtain ⟨-, -, -, hnone, -⟩ := hlet
  rcases h.prune clock hpos hnow with hentry | hover
  · rw [hnone] at hentry
    cases hentry
  · omega

/-- What a check lets through is fresh. -/
lemma fresh_of_passed (hpos : 0 < now)
    (h : (u.cache.isReplayed sessionId transcriptHash timestamp now clock).1 = false) :
    Fresh (u.step (.isReplayed sessionId transcriptHash timestamp now, clock)).1 sessionId
      ⟨timestamp, transcriptHash⟩ := by
  obtain ⟨hid, hhash, hvalid, hnone, -⟩ := isReplayed_eq_false.mp h
  rw [isTimestampValid, effectiveTime_of_pos hpos] at hvalid
  split_ifs at hvalid
  refine ⟨hid, hhash, of_decide_eq_true hvalid, ?_⟩
  rw [step]
  dsimp only
  rw [isReplayed_snd]
  exact hnone

/-- **One call.** What is remembered stays so, and what is registered is remembered. -/
lemma Remembers.step (h : Remembers u sessionId entry) (he : Guarded u e)
    (hfresh : ∀ id x, u.passed = some (id, x) → Fresh u id x) :
    Remembers (u.step e).1 sessionId entry := by
  obtain ⟨call, clock⟩ := e
  have hsoon := h.soon
  cases call with
  | isReplayed id hash t now =>
      obtain ⟨hpos, hnow⟩ := he
      refine ⟨?_, hsoon.trans ?_⟩
      · rw [CacheUse.step]
        dsimp only
        rw [isReplayed_snd]
        exact h.prune clock hpos hnow
      · exact Int.add_le_add_right hnow _
  | registerSession id hash t =>
      have hnew := hfresh id ⟨t, hash⟩ he
      refine ⟨h.kept.imp_left fun hentry => ?_, hsoon⟩
      -- the session that is registered is not this one
      have hne : id ≠ sessionId := by
        rintro rfl
        rw [hnew.absent] at hentry
        cases hentry
      rw [CacheUse.step]
      dsimp only
      rw [value?_registerSession_of_ne hne]
      exact hentry
  | pruneExpired now =>
      obtain ⟨hpos, hnow⟩ := he
      exact ⟨h.prune clock hpos hnow, hsoon.trans (Int.add_le_add_right hnow _)⟩

/-- What is registered is remembered. -/
lemma remembers_register (h : Fresh u sessionId entry) :
    Remembers (u.step (.registerSession sessionId entry.transcriptHash entry.timestamp, clock)).1
      sessionId entry := by
  have hwindow := h.window
  refine ⟨.inl ?_, ?_⟩
  · rw [CacheUse.step]
    dsimp only
    rw [value?_registerSession h.sessionId_ne h.hash_ne, if_pos rfl]
  · rw [CacheUse.step]
    dsimp only
    omega

/-- What holds in every guarded use. -/
structure Sound (log : List (String × ReplayEntry)) (u : CacheUse) : Prop where
  remembers {id x} : (id, x) ∈ log → Remembers u id x
  fresh {id x} : u.passed = some (id, x) → Fresh u id x

lemma Sound.step {log : List (String × ReplayEntry)} (h : Sound log u) (he : Guarded u e) :
    Sound (log ++ (u.step e).2) (u.step e).1 := by
  have hold : ∀ {id x}, (id, x) ∈ log → Remembers (u.step e).1 id x := fun hmem =>
    (h.remembers hmem).step he fun _ _ => h.fresh
  obtain ⟨call, clock⟩ := e
  cases call with
  | isReplayed id hash t now =>
      refine ⟨fun hmem => hold (by simpa [CacheUse.step] using hmem), fun {id' x} hpassed => ?_⟩
      have hlet : (u.cache.isReplayed id hash t now clock).1 = false := by
        by_contra hreplayed
        rw [Bool.not_eq_false] at hreplayed
        simp [CacheUse.step, hreplayed] at hpassed
      have heq : some (id, (⟨t, hash⟩ : ReplayEntry)) = some (id', x) := by
        rw [← hpassed]
        simp [CacheUse.step, hlet]
      obtain ⟨rfl, rfl⟩ := Prod.mk.inj (Option.some.inj heq)
      exact fresh_of_passed he.1 hlet
  | registerSession id hash t =>
      refine ⟨fun {id' x} hmem => ?_, fun hpassed => by cases hpassed⟩
      rcases List.mem_append.mp hmem with hmem | hmem
      · exact hold hmem
      · obtain ⟨rfl, rfl⟩ := Prod.mk.inj (List.mem_singleton.mp hmem)
        exact remembers_register (h.fresh he)
  | pruneExpired now =>
      exact ⟨fun hmem => hold (by simpa [CacheUse.step] using hmem),
        fun hpassed => by cases hpassed⟩

/-- A check leaves only entries in the window. -/
lemma window_of_isReplayed (hpos : 0 < now) {id : String}
    (h : (u.cache.isReplayed sessionId transcriptHash timestamp now clock).2.m_seenSessions.value?
        id =
      some entry) : (now - entry.timestamp).natAbs ≤ REPLAY_WINDOW_SECONDS := by
  rw [isReplayed_snd, value?_pruneExpired, Option.filter_eq_some_iff,
    effectiveTime_of_pos hpos] at h
  exact of_decide_eq_true h.2

/-- **Guarded use.** A registered session is never let through again with its transcript, nor with
another one as long as its timestamp is in the window, and a check leaves only what is in the
window. -/
theorem guarded_use {es : List (CacheCall × ℤ)} {log : List (String × ReplayEntry)}
    (hrun : Run machine Guarded {} es log u) (hpos : 0 < now) (hnow : u.time ≤ now) :
    (∀ id h t, (id, ⟨t, h⟩) ∈ log → ∀ clock,
      (∀ id', (u.cache.isReplayed id' h t now clock).1 = true) ∧
        ((now - t).natAbs ≤ REPLAY_WINDOW_SECONDS →
          ∀ h' t', (u.cache.isReplayed id h' t' now clock).1 = true)) ∧
      ∀ id h t clock k entry,
        (u.cache.isReplayed id h t now clock).2.m_seenSessions.value? k = some entry →
          (now - entry.timestamp).natAbs ≤ REPLAY_WINDOW_SECONDS := by
  have hsound : Sound log u := by
    apply hrun.invariant_log (I := fun _ log u => Sound log u)
    · constructor
      · intro id x hmem
        cases hmem
      · intro id x hpassed
        cases hpassed
    · exact fun _ _ _ _ h he => h.step he
  refine ⟨fun id h t hmem clock => ⟨fun id' => ?_, fun hwindow h' t' => ?_⟩, ?_⟩
  · exact (hsound.remembers hmem).refused_transcript hpos hnow id' clock
  · exact (hsound.remembers hmem).refused_session hpos hnow hwindow h' t' clock
  · exact fun id h t clock k entry => window_of_isReplayed hpos

/-- A session is let through, registered, and checked again almost ten minutes later. -/
def useOnce : List (CacheCall × ℤ) :=
  [(.isReplayed "session-1" [0x61] 1300 1000, 0), (.registerSession "session-1" [0x61] 1300, 0),
    (.pruneExpired 1500, 0)]

theorem guarded_use_once :
    ((machine.exec {} useOnce).2.cache.isReplayed "session-2" [0x61] 1300 1600 0).1 = true := by
  have hallowed : machine.Allows Guarded {} useOnce := by
    refine ⟨⟨by decide, by decide⟩, ?_, ⟨by decide, by decide⟩, trivial⟩
    show CacheUse.passed _ = _
    decide +kernel
  have hlog : ("session-1", (⟨1300, [0x61]⟩ : ReplayEntry)) ∈ (machine.exec {} useOnce).1 := by
    decide +kernel
  exact ((guarded_use (Run.exec hallowed) (by decide) (by decide +kernel)).1 _ _ _ hlog 0).1 _

end CacheUse

end MeckChat.Crypto
