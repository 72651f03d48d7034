import Mathlib.Tactic

/-!
Switches that are told on and off by turns.

* `Alternates bs` says that `bs` reads `true, false, true, …`.
* `isOn bs` is the last value, and `false` when there is none yet.
* `alternates_snoc` adds one value: it has to differ from the last.
-/

/-- The values alternate, and the first one is `true`. -/
def Alternates (bs : List Bool) : Prop := List.IsChain (· ≠ ·) (false :: bs)

/-- Whether the last value is `true`. -/
def isOn (bs : List Bool) : Bool := bs.getLast?.getD false

instance (bs : List Bool) : Decidable (Alternates bs) :=
  inferInstanceAs (Decidable (List.IsChain _ _))

variable {bs : List Bool} {b : Bool}

lemma alternates_nil : Alternates [] := List.isChain_singleton _

@[simp] lemma isOn_snoc : isOn (bs ++ [b]) = b := by
  rw [isOn, List.getLast?_concat, Option.getD_some]

/-- The next value differs from the last. -/
lemma alternates_snoc : Alternates (bs ++ [b]) ↔ Alternates bs ∧ isOn bs ≠ b := by
  rw [Alternates, ← List.cons_append, List.isChain_append]
  have hlast : (false :: bs).getLast? = some (isOn bs) := by
    cases hbs : bs.getLast? <;> simp [isOn, List.getLast?_cons, hbs]
  simp [hlast, Alternates]

lemma isOn_eq_true_iff : isOn bs = true ↔ bs.getLast? = some true := by
  rw [isOn]
  cases bs.getLast? <;> simp
