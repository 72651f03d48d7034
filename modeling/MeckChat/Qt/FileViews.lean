import Mathlib.Data.Option.Basic
import MeckChat.Qt.QFile

/-!
A part of a file system, seen from two sides.

* `Holds P M fs`: the file objects in `M` are found at the paths in `P` only. `Leaves`
  says of an operation elsewhere that it leaves these objects and paths alone.
* `Alike P B fs fs'`: two file systems cannot be told apart through the paths in `P` and
  through handles on objects that `B` pairs. `Alike.remove`, `Alike.rename`,
  `Alike.writeAt` and `Alike.openTruncate`: the same operation on both sides keeps that.
-/

namespace Qt

namespace FileSystem

variable {P : Set String} {M : Set ℕ} {fs fs' fs'' : FileSystem} {p q a b : String} {i j : ℕ}

/-! ### What happens elsewhere -/

/-- The objects in `M` exist and are found at the paths in `P` only. -/
def Holds (P : Set String) (M : Set ℕ) (fs : FileSystem) : Prop :=
  ∀ i ∈ M, i < fs.next ∧ ∀ q ∉ P, fs.dir q ≠ some i

/-- From `fs` to `fs'` the paths in `P` and the objects in `M` were left alone. -/
structure Leaves (P : Set String) (M : Set ℕ) (fs fs' : FileSystem) : Prop where
  next : fs.next ≤ fs'.next
  dir : ∀ p ∈ P, fs'.dir p = fs.dir p
  content : ∀ i ∈ M, fs'.content i = fs.content i
  holds : Holds P M fs'

lemma Leaves.refl (h : Holds P M fs) : Leaves P M fs fs :=
  ⟨le_rfl, fun _ _ => rfl, fun _ _ => rfl, h⟩

lemma Leaves.trans (h : Leaves P M fs fs') (h' : Leaves P M fs' fs'') : Leaves P M fs fs'' where
  next := h.next.trans h'.next
  dir p hp := (h'.dir p hp).trans (h.dir p hp)
  content i hi := (h'.content i hi).trans (h.content i hi)
  holds := h'.holds

lemma leaves_remove (h : Holds P M fs) (hq : q ∉ P) (ok : Bool) :
    Leaves P M fs (fs.remove q ok) where
  next := le_rfl
  dir p hp := dir_remove_of_ne (ne_of_mem_of_not_mem hp hq) ok
  content _ _ := rfl
  holds i hi := by
    refine ⟨(h i hi).1, fun r hr hdir => ?_⟩
    rw [remove] at hdir
    dsimp only at hdir
    split_ifs at hdir
    exact (h i hi).2 r hr hdir

lemma leaves_rename (h : Holds P M fs) (ha : a ∉ P) (hb : b ∉ P) (ok : Bool) :
    Leaves P M fs (fs.rename a b ok) where
  next := le_rfl
  dir p hp := dir_rename_of_ne (ne_of_mem_of_not_mem hp ha) (ne_of_mem_of_not_mem hp hb) ok
  content _ _ := rfl
  holds i hi := by
    refine ⟨(h i hi).1, fun r hr hdir => ?_⟩
    rw [rename] at hdir
    dsimp only at hdir
    split_ifs at hdir
    · exact (h i hi).2 a ha hdir
    · exact (h i hi).2 r hr hdir
    · exact (h i hi).2 r hr hdir

/-- Opening another path yields an object that is not in `M`. -/
lemma Holds.opened_notMem (h : Holds P M fs) (hq : q ∉ P) : fs.opened q ∉ M := by
  intro hmem
  obtain ⟨hlt, hdir⟩ := h _ hmem
  cases hfile : fs.dir q with
  | none =>
      rw [opened, hfile, Option.getD_none] at hlt
      exact lt_irrefl _ hlt
  | some j =>
      rw [opened, hfile, Option.getD_some] at hdir
      exact hdir q hq hfile

lemma opened_lt (fs : FileSystem) (q : String) : fs.opened q < (fs.openTruncate q).next :=
  (owns_openTruncate fs q).lt

lemma leaves_openTruncate (h : Holds P M fs) (hq : q ∉ P) :
    Leaves P M fs (fs.openTruncate q) where
  next := Nat.le_succ _
  dir p hp := if_neg (ne_of_mem_of_not_mem hp hq)
  content i hi := content_openTruncate_of_ne (ne_of_mem_of_not_mem hi (h.opened_notMem hq))
  holds i hi := by
    refine ⟨Nat.lt_succ_of_lt (h i hi).1, fun r hr hdir => ?_⟩
    rw [dir_openTruncate] at hdir
    split_ifs at hdir
    · rw [Option.some.injEq] at hdir
      exact h.opened_notMem hq (hdir ▸ hi)
    · exact (h i hi).2 r hr hdir

lemma leaves_writeAt (h : Holds P M fs) (hj : j ∉ M) (pos : ℕ) (data : Bytes) :
    Leaves P M fs (fs.writeAt j pos data) where
  next := le_rfl
  dir _ _ := rfl
  content _ hi := content_writeAt_of_ne (ne_of_mem_of_not_mem hi hj) pos data
  holds := h

/-! ### Two file systems -/

variable {B : ℕ → ℕ → Prop} {i' j' : ℕ}

/-- Through the paths in `P` and the objects that `B` pairs, the same is seen. -/
structure Alike (P : Set String) (B : ℕ → ℕ → Prop) (fs fs' : FileSystem) : Prop where
  pairs {i i' j j' : ℕ} : B i i' → B j j' → (i = j ↔ i' = j')
  lt {i i' : ℕ} : B i i' → i < fs.next ∧ i' < fs'.next
  content {i i' : ℕ} : B i i' → fs'.content i' = fs.content i
  dir : ∀ p ∈ P, Option.Rel B (fs.dir p) (fs'.dir p)

/-- The pairing with the objects that opening a path yields. -/
def WithOpened (q : String) (fs fs' : FileSystem) (B : ℕ → ℕ → Prop) (i i' : ℕ) : Prop :=
  B i i' ∨ i = fs.opened q ∧ i' = fs'.opened q

namespace Alike

variable (h : Alike P B fs fs')

include h

lemma contentAt (hp : p ∈ P) : fs'.contentAt p = fs.contentAt p := by
  have hdir := h.dir p hp
  rw [FileSystem.contentAt, FileSystem.contentAt]
  generalize fs.dir p = file at hdir ⊢
  generalize fs'.dir p = file' at hdir ⊢
  cases hdir with
  | none => rfl
  | some hpair => rw [Option.map_some, Option.map_some, h.content hpair]

lemma exists?_eq (hp : p ∈ P) : fs'.exists? p = fs.exists? p := by
  have hdir := h.dir p hp
  rw [exists?, exists?]
  generalize fs.dir p = file at hdir ⊢
  generalize fs'.dir p = file' at hdir ⊢
  cases hdir with
  | none => rfl
  | some _ => rfl

lemma canRename_eq (ha : a ∈ P) (hb : b ∈ P) (ok : Bool) :
    fs'.canRename a b ok = fs.canRename a b ok := by
  rw [canRename, canRename, h.exists?_eq ha, h.exists?_eq hb]

lemma remove (q : String) (ok : Bool) : Alike P B (fs.remove q ok) (fs'.remove q ok) where
  pairs := h.pairs
  lt := h.lt
  content := h.content
  dir p hp := by
    rw [FileSystem.remove, FileSystem.remove]
    dsimp only
    split_ifs
    · exact .none
    · exact h.dir p hp

lemma rename (ha : a ∈ P) (hb : b ∈ P) (ok : Bool) :
    Alike P B (fs.rename a b ok) (fs'.rename a b ok) where
  pairs := h.pairs
  lt := h.lt
  content := h.content
  dir p hp := by
    rw [FileSystem.rename, FileSystem.rename]
    dsimp only
    rw [h.canRename_eq ha hb]
    split_ifs
    · exact h.dir a ha
    · exact .none
    · exact h.dir p hp
    · exact h.dir p hp

lemma writeAt (hpair : B i i') (pos : ℕ) (data : Bytes) :
    Alike P B (fs.writeAt i pos data) (fs'.writeAt i' pos data) where
  pairs := h.pairs
  lt := h.lt
  content {j j'} hj := by
    by_cases heq : j = i
    · obtain rfl := (h.pairs hj hpair).mp heq
      subst heq
      rw [content_writeAt_self, content_writeAt_self, h.content hj]
    · have hne : j' ≠ i' := fun heq' => heq ((h.pairs hj hpair).mpr heq')
      rw [content_writeAt_of_ne heq, content_writeAt_of_ne hne, h.content hj]
  dir := h.dir

/-- The objects that opening a path yields are paired, or both new. -/
lemma opened (hq : q ∈ P) :
    B (fs.opened q) (fs'.opened q) ∨ fs.opened q = fs.next ∧ fs'.opened q = fs'.next := by
  have hdir := h.dir q hq
  rw [FileSystem.opened, FileSystem.opened]
  generalize fs.dir q = file at hdir ⊢
  generalize fs'.dir q = file' at hdir ⊢
  cases hdir with
  | none => exact .inr ⟨rfl, rfl⟩
  | some hpair => exact .inl hpair

lemma pairs_opened (hq : q ∈ P) (hi : B i i') : i = fs.opened q ↔ i' = fs'.opened q := by
  rcases h.opened hq with hpair | ⟨hnew, hnew'⟩
  · exact h.pairs hi hpair
  · obtain ⟨hlt, hlt'⟩ := h.lt hi
    rw [hnew, hnew']
    exact iff_of_false hlt.ne hlt'.ne

lemma openTruncate (hq : q ∈ P) :
    Alike P (WithOpened q fs fs' B) (fs.openTruncate q) (fs'.openTruncate q) where
  pairs {i i' j j'} hi hj := by
    rcases hi with hi | ⟨rfl, rfl⟩
    · rcases hj with hj | ⟨rfl, rfl⟩
      · exact h.pairs hi hj
      · exact h.pairs_opened hq hi
    · rcases hj with hj | ⟨rfl, rfl⟩
      · rw [eq_comm, eq_comm (b := j')]
        exact h.pairs_opened hq hj
      · exact iff_of_true rfl rfl
  lt {i i'} hi := by
    rcases hi with hi | ⟨rfl, rfl⟩
    · exact ⟨Nat.lt_succ_of_lt (h.lt hi).1, Nat.lt_succ_of_lt (h.lt hi).2⟩
    · exact ⟨opened_lt fs q, opened_lt fs' q⟩
  content {i i'} hi := by
    have hsame : i = fs.opened q ↔ i' = fs'.opened q := by
      rcases hi with hi | ⟨rfl, rfl⟩
      · exact h.pairs_opened hq hi
      · exact iff_of_true rfl rfl
    by_cases heq : i = fs.opened q
    · rw [heq, hsame.mp heq, content_openTruncate_opened, content_openTruncate_opened]
    · rw [content_openTruncate_of_ne heq, content_openTruncate_of_ne (hsame.not.mp heq)]
      rcases hi with hi | ⟨rfl, rfl⟩
      · exact h.content hi
      · exact absurd rfl heq
  dir p hp := by
    rw [dir_openTruncate, dir_openTruncate]
    split_ifs
    · exact .some (.inr ⟨rfl, rfl⟩)
    · have hdir := h.dir p hp
      generalize fs.dir p = file at hdir ⊢
      generalize fs'.dir p = file' at hdir ⊢
      cases hdir with
      | none => exact .none
      | some hpair => exact .some (.inl hpair)

end Alike

end FileSystem

end Qt
