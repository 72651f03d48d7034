import MeckChat.Foundation.Run

/-!
Small steps that log what they do, and monitors of a log.

* `Trace R s log s'` says that steps of `R`, one behind the other, lead from `s` to `s'` and
  log `log`. `Run.invariant_trace` is the induction rule for a machine each of whose steps is
  such a trace: an invariant of the log and the state has to be kept by each small step only.
* A `Monitor` reads a log entry by entry and says what may come next; `accepts_append` adds
  one entry, and a monitor `Ignores` what it is indifferent to.
-/

variable {σ ε ω : Type*}

/-- Steps of `R`, one behind the other, with everything they log. -/
inductive Trace (R : σ → List ω → σ → Prop) (s₀ : σ) : List ω → σ → Prop where
  | nil : Trace R s₀ [] s₀
  | snoc {log entries : List ω} {s s' : σ} (h : Trace R s₀ log s) (hstep : R s entries s') :
      Trace R s₀ (log ++ entries) s'

namespace Trace

variable {R : σ → List ω → σ → Prop} {s₀ s s' : σ} {log log' : List ω}

lemma single (h : R s log s') : Trace R s log s' := by
  have hone := snoc (nil (R := R)) h
  rwa [List.nil_append] at hone

lemma trans (h : Trace R s₀ log s) (h' : Trace R s log' s') : Trace R s₀ (log ++ log') s' := by
  induction h' with
  | nil => rwa [List.append_nil]
  | snoc _ hstep ih =>
      rw [← List.append_assoc]
      exact snoc ih hstep

/-- What every step keeps, behind a log that was there before. -/
lemma invariant {I : List ω → σ → Prop} {before : List ω} (h : Trace R s₀ log s)
    (h0 : I before s₀)
    (hstep : ∀ log s entries s', R s entries s' → I log s → I (log ++ entries) s') :
    I (before ++ log) s := by
  induction h with
  | nil => rwa [List.append_nil]
  | snoc _ hlast ih =>
      rw [← List.append_assoc]
      exact hstep _ _ _ _ hlast ih

end Trace

/-- **Invariants, step by small step.** -/
theorem Run.invariant_trace {M : Machine σ ε ω} {guard : σ → ε → Prop} {s₀ s : σ} {es : List ε}
    {log : List ω} {I : List ω → σ → Prop} (hrun : Run M guard s₀ es log s) (h0 : I [] s₀)
    (htrace : ∀ log s e, I log s → guard s e → ∃ R : σ → List ω → σ → Prop,
      Trace R s (M.step s e).2 (M.step s e).1 ∧
        ∀ log s entries s', R s entries s' → I log s → I (log ++ entries) s') :
    I log s := by
  refine hrun.invariant_log (I := fun _ log s => I log s) h0 ?_
  intro _ log s e h he
  obtain ⟨R, hsteps, hkeeps⟩ := htrace log s e h he
  exact hsteps.invariant h hkeeps

/-! ### Monitors -/

/-- A reader of a log: where it starts, what it remembers, and what it lets pass. -/
structure Monitor (ω μ : Type*) where
  start : μ
  next : μ → ω → μ
  ok : μ → ω → Prop

namespace Monitor

variable {μ : Type*} (M : Monitor ω μ)

/-- What is remembered of a log. -/
def after (log : List ω) : μ := log.foldl M.next M.start

/-- Everything in a log passes, behind what came before it. -/
def Accepts (log : List ω) : Prop :=
  ∀ front entry back, log = front ++ entry :: back → M.ok (M.after front) entry

variable {M} {log : List ω} {entry : ω}

lemma after_append : M.after (log ++ [entry]) = M.next (M.after log) entry := by
  rw [after, after, List.foldl_append, List.foldl_cons, List.foldl_nil]

lemma accepts_nil : M.Accepts [] := by
  intro front entry back h
  cases front <;> cases h

lemma accepts_append : M.Accepts (log ++ [entry]) ↔ M.Accepts log ∧ M.ok (M.after log) entry := by
  constructor
  · intro h
    refine ⟨fun front entry' back heq => h front entry' (back ++ [entry]) ?_, h log entry [] rfl⟩
    rw [heq, List.append_assoc, List.cons_append]
  · rintro ⟨hlog, hentry⟩ front entry' back heq
    rcases List.eq_nil_or_concat back with rfl | ⟨back, last, rfl⟩
    · obtain ⟨rfl, hlast⟩ := List.append_inj' heq rfl
      obtain rfl : entry = entry' := by simpa using hlast
      exact hentry
    · rw [List.concat_eq_append, ← List.cons_append, ← List.append_assoc] at heq
      obtain ⟨hlog', -⟩ := List.append_inj' heq rfl
      exact hlog front entry' back hlog'

/-- The monitor is indifferent to an entry. -/
def Ignores (M : Monitor ω μ) (entry : ω) : Prop := ∀ m, M.next m entry = m ∧ M.ok m entry

end Monitor
