import Mathlib.Tactic

/-!
Programs that call their surroundings.

* `Program` is a program over calls, each with a type of its answers; what a program does
  next depends on the answers so far.
* `Environment` says which calls may be made in a state, and which answers they can get.
* `Program.Ensures` says that a program makes only calls that may be made, and that what it
  returns and the state it leaves are as they should be, whatever is answered. Its rules
  are `ensures_perform_bind`, `ensures_bind` and `Ensures.mono`.
-/

/-- A program over the calls `C` with the answers `A`. -/
inductive Program (C : Type) (A : C → Type) (α : Type) where
  | done (a : α)
  | call (c : C) (next : A c → Program C A α)

/-- The surroundings of a program. -/
structure Environment (C : Type) (A : C → Type) (σ : Type) where
  allowed : σ → C → Prop
  answers : σ → (c : C) → A c → σ → Prop

namespace Program

variable {C : Type} {A : C → Type} {α β σ : Type}

/-- One program after another. -/
def bind (p : Program C A α) (f : α → Program C A β) : Program C A β :=
  match p with
  | done a => f a
  | call c next => call c fun a => (next a).bind f

instance : Monad (Program C A) where
  pure := done
  bind := bind

/-- A single call. -/
def perform (c : C) : Program C A (A c) := call c done

/-- Whatever is answered, the calls may be made and the end is as it should be. -/
def Ensures (env : Environment C A σ) (s : σ) (post : α → σ → Prop) : Program C A α → Prop
  | done a => post a s
  | call c next => env.allowed s c ∧
      ∀ a s', env.answers s c a s' → Ensures env s' post (next a)

variable {env : Environment C A σ} {s : σ}

/-- The rule of an end. -/
lemma ensures_pure {post : α → σ → Prop} {a : α} :
    Ensures env s post (pure a : Program C A α) ↔ post a s := Iff.rfl

/-- The rule of composition. -/
lemma ensures_bind {post : β → σ → Prop} (p : Program C A α) (f : α → Program C A β) :
    Ensures env s post (p >>= f) ↔ Ensures env s (fun a s' => Ensures env s' post (f a)) p := by
  change Ensures env s post (p.bind f) ↔ _
  induction p generalizing s with
  | done a => exact Iff.rfl
  | call c next ih =>
      rw [bind, Ensures, Ensures]
      exact and_congr_right' (forall_congr' fun a => forall₂_congr fun s' _ => ih a)

/-- The rule of a call with what follows it. -/
lemma ensures_perform_bind {c : C} {post : α → σ → Prop} {f : A c → Program C A α} :
    Ensures env s post (perform c >>= f) ↔
      env.allowed s c ∧ ∀ a s', env.answers s c a s' → Ensures env s' post (f a) := Iff.rfl

/-- The rule of consequence. -/
lemma Ensures.mono {post post' : α → σ → Prop} (hpost : ∀ a s', post a s' → post' a s')
    {p : Program C A α} (h : Ensures env s post p) : Ensures env s post' p := by
  induction p generalizing s with
  | done a => exact hpost a s h
  | call c next ih => exact ⟨h.1, fun a s' ha => ih a (h.2 a s' ha)⟩

end Program
