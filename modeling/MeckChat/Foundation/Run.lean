import Mathlib.Tactic

/-!
Runs of a deterministic machine that logs its effects.

* `Machine` is a step function from a state and an event to the next state and
  the effects of the step; what the environment decides (the outcome of an
  I/O call, a clock reading) is part of the event.
* `Run M guard s₀ es log s` says that from `s₀` the events `es`, each allowed
  by `guard` in the state it arrives in, lead to `s` and log `log`.
* `Run.invariant` is the induction rule for invariants of the state,
  `Run.invariant_log` the one for statements about history, log and state
  together.
* `Machine.withEvents` logs each effect with the event that led to it, and
  `Machine.observed` logs what an observer sees of each step.
* `Machine.allows_iff` compares what holds all the time with what is allowed.
* `Run.trans` composes runs, `Run.mono` weakens the guard, `Run.exec` and
  `Run.exec_all` run a list of events, and `Run.exists_prefix` finds the step at
  which an effect was logged.
-/

/-- A deterministic machine: one step takes an event, and yields the next
state and what the step did to its surroundings. -/
structure Machine (σ ε ω : Type*) where
  step : σ → ε → σ × List ω

variable {σ ε ω : Type*}

/-- Run a machine on a list of events: the log and the last state. -/
def Machine.exec (M : Machine σ ε ω) (s : σ) : List ε → List ω × σ
  | [] => ([], s)
  | e :: es =>
      let rest := M.exec (M.step s e).1 es
      ((M.step s e).2 ++ rest.1, rest.2)

/-- The last state, event by event. -/
lemma Machine.exec_nil_snd (M : Machine σ ε ω) (s : σ) : (M.exec s []).2 = s := rfl

lemma Machine.exec_cons_snd (M : Machine σ ε ω) (s : σ) (e : ε) (es : List ε) :
    (M.exec s (e :: es)).2 = (M.exec (M.step s e).1 es).2 := rfl

lemma Machine.exec_append_snd (M : Machine σ ε ω) (s : σ) (es es' : List ε) :
    (M.exec s (es ++ es')).2 = (M.exec (M.exec s es).2 es').2 := by
  induction es generalizing s with
  | nil => rfl
  | cons e es ih => rw [List.cons_append, exec_cons_snd, exec_cons_snd, ih]

/-- Two events. -/
lemma Machine.exec_pair (M : Machine σ ε ω) {s s₁ s₂ : σ} {e e' : ε} {log log' : List ω}
    (h : M.step s e = (s₁, log)) (h' : M.step s₁ e' = (s₂, log')) :
    M.exec s [e, e'] = (log ++ log', s₂) := by
  rw [exec, exec, exec, h, h', List.append_nil]

/-- Every event of a list is allowed in the state it arrives in. -/
def Machine.Allows (M : Machine σ ε ω) (guard : σ → ε → Prop) (s : σ) : List ε → Prop
  | [] => True
  | e :: es => guard s e ∧ M.Allows guard (M.step s e).1 es

lemma Machine.allows_of_forall (M : Machine σ ε ω) {guard : σ → ε → Prop}
    (h : ∀ s e, guard s e) (s : σ) (es : List ε) : M.Allows guard s es := by
  induction es generalizing s with
  | nil => trivial
  | cons e es ih => exact ⟨h s e, ih _⟩

lemma Machine.allows_of_forall_mem (M : Machine σ ε ω) {ok : ε → Prop} (s : σ) {es : List ε}
    (h : ∀ e ∈ es, ok e) : M.Allows (fun _ e => ok e) s es := by
  induction es generalizing s with
  | nil => trivial
  | cons e es ih =>
      exact ⟨h e List.mem_cons_self, ih _ fun e' he' => h e' (List.mem_cons_of_mem e he')⟩

/-- A property that holds at the start and that a possible step keeps exactly if it is
allowed holds all the time exactly if all events are allowed. -/
lemma Machine.allows_iff (M : Machine σ ε ω) {J P : σ → Prop} {possible guard : σ → ε → Prop}
    (hkept : ∀ s e, J s → possible s e → J (M.step s e).1)
    (hstep : ∀ s e, J s → P s → possible s e → (P (M.step s e).1 ↔ guard s e)) {s : σ}
    {es : List ε} (hs : J s) (h0 : P s) (hes : M.Allows possible s es) :
    (∀ pre, pre <+: es → P (M.exec s pre).2) ↔ M.Allows guard s es := by
  induction es generalizing s with
  | nil =>
      refine iff_of_true ?_ trivial
      intro pre hpre
      rw [List.prefix_nil.mp hpre]
      exact h0
  | cons e es ih =>
      have hfirst := hstep s e hs h0 hes.1
      have hrest := fun h => ih (hkept s e hs hes.1) h hes.2
      constructor
      · intro hall
        have hnext : P (M.step s e).1 :=
          hall [e] (List.cons_prefix_cons.mpr ⟨rfl, List.nil_prefix⟩)
        refine ⟨hfirst.mp hnext, (hrest hnext).mp ?_⟩
        intro pre hpre
        exact hall (e :: pre) (List.cons_prefix_cons.mpr ⟨rfl, hpre⟩)
      · rintro ⟨he, hes⟩ pre hpre
        have hnext := hfirst.mpr he
        cases pre with
        | nil => exact h0
        | cons e' pre =>
            obtain ⟨rfl, hrun⟩ := List.cons_prefix_cons.mp hpre
            exact (hrest hnext).mpr hes pre hrun

/-- The machine that logs each effect with the event that led to it. -/
def Machine.withEvents (M : Machine σ ε ω) : Machine σ ε (ε × ω) where
  step s e := ((M.step s e).1, (M.step s e).2.map fun x => (e, x))

lemma Machine.withEvents_step (M : Machine σ ε ω) (s : σ) (e : ε) :
    M.withEvents.step s e = ((M.step s e).1, (M.step s e).2.map fun x => (e, x)) := rfl

/-- The machine whose log is what an observer sees of each step. -/
def Machine.observed (M : Machine σ ε ω) {ω' : Type*} (look : σ → ε → List ω') :
    Machine σ ε ω' where
  step s e := ((M.step s e).1, look s e)

lemma Machine.observed_step (M : Machine σ ε ω) {ω' : Type*} (look : σ → ε → List ω') (s : σ)
    (e : ε) : (M.observed look).step s e = ((M.step s e).1, look s e) := rfl

/-- The runs from `s₀` whose events `guard` allows: the events, the effects
logged, and the state reached. -/
inductive Run (M : Machine σ ε ω) (guard : σ → ε → Prop) (s₀ : σ) :
    List ε → List ω → σ → Prop where
  | nil : Run M guard s₀ [] [] s₀
  | snoc {es : List ε} {log : List ω} {s : σ} {e : ε} (h : Run M guard s₀ es log s)
      (he : guard s e) :
      Run M guard s₀ (es ++ [e]) (log ++ (M.step s e).2) (M.step s e).1

namespace Run

variable {M : Machine σ ε ω} {guard guard' : σ → ε → Prop} {s₀ s s' : σ} {es es' : List ε}
  {log log' : List ω}

/-- **Invariants.** What holds at the start and is kept by every allowed step
holds in every state reached. -/
theorem invariant {I : σ → Prop} (hrun : Run M guard s₀ es log s) (h0 : I s₀)
    (hstep : ∀ s e, I s → guard s e → I (M.step s e).1) : I s := by
  induction hrun with
  | nil => exact h0
  | snoc _ he ih => exact hstep _ _ ih he

/-- **Invariants of the history.** The rule for statements that see the
events and the log as well. -/
theorem invariant_log {I : List ε → List ω → σ → Prop} (hrun : Run M guard s₀ es log s)
    (h0 : I [] [] s₀)
    (hstep : ∀ es log s e, I es log s → guard s e →
      I (es ++ [e]) (log ++ (M.step s e).2) (M.step s e).1) : I es log s := by
  induction hrun with
  | nil => exact h0
  | snoc _ he ih => exact hstep _ _ _ _ ih he

/-- A run of one step. -/
lemma single {e : ε} (he : guard s e) : Run M guard s [e] (M.step s e).2 (M.step s e).1 :=
  snoc nil he

/-- Runs compose. -/
lemma trans (h : Run M guard s₀ es log s) (h' : Run M guard s es' log' s') :
    Run M guard s₀ (es ++ es') (log ++ log') s' := by
  induction h' with
  | nil => simpa using h
  | snoc _ he ih => simpa only [List.append_assoc] using snoc ih he

/-- A run is a run under every guard that allows as much. -/
lemma mono (hg : ∀ s e, guard s e → guard' s e) (h : Run M guard s₀ es log s) :
    Run M guard' s₀ es log s := by
  induction h with
  | nil => exact nil
  | snoc _ he ih => exact snoc ih (hg _ _ he)

/-- Running a machine on allowed events gives a run. -/
lemma exec {guard : σ → ε → Prop} {s : σ} {es : List ε} (h : M.Allows guard s es) :
    Run M guard s es (M.exec s es).1 (M.exec s es).2 := by
  induction es generalizing s with
  | nil => exact nil
  | cons e es ih =>
      obtain ⟨he, hes⟩ := h
      exact trans (single he) (ih hes)

/-- Where everything is allowed, every list of events can be run. -/
lemma exec_all (M : Machine σ ε ω) (s : σ) (es : List ε) :
    Run M (fun _ _ => True) s es (M.exec s es).1 (M.exec s es).2 :=
  exec (M.allows_of_forall (fun _ _ => trivial) s es)

/-- Every effect of a run belongs to one of its steps. -/
lemma exists_prefix (h : Run M guard s₀ es log s) {x : ω} (hx : x ∈ log) :
    ∃ es₁ log₁ s₁ e, Run M guard s₀ es₁ log₁ s₁ ∧ guard s₁ e ∧ (es₁ ++ [e]) <+: es ∧
      x ∈ (M.step s₁ e).2 := by
  induction h with
  | nil => simp at hx
  | @snoc es log s e h he ih =>
      rcases List.mem_append.mp hx with hx | hx
      · obtain ⟨es₁, log₁, s₁, e₁, h₁, he₁, hpre, hmem⟩ := ih hx
        exact ⟨es₁, log₁, s₁, e₁, h₁, he₁, hpre.trans (List.prefix_append _ _), hmem⟩
      · exact ⟨es, log, s, e, h, he, List.prefix_rfl, hx⟩

end Run
