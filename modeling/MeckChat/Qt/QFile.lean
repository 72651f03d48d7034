import Mathlib.Tactic
import MeckChat.Foundation.Bytes

/-!
Files: a directory from paths to file objects, the contents of these objects,
and handles that keep hold of an object whatever becomes of its path.

* `FileSystem` carries as fields that no two paths lead to one object and that
  the objects behind paths are older than the next one to be created.
* `remove`, `rename`, `openTruncate`, `writeAt` are the effects of the calls of
  `QFile`; an operation that may fail takes its outcome as an argument.
* `contentAt` is what a path shows. Each operation has one lemma about it for
  every path at once (`contentAt_remove`, `contentAt_rename`,
  `contentAt_openTruncate`, `contentAt_writeAt`), and one about `dir`.
* `Owns` says that a file object is the one behind a path and no other path's,
  and `Frame` that an operation leaves such an object alone; `Frame.trans`
  composes operations (`frame_remove`, `frame_rename`, `frame_openTruncate`,
  `frame_writeAt`).
* `Keeps` says that an operation leaves the file at a path where it is.
* `QFile` is a handle with its position; `read`, `write`, `atEnd` and `close`
  work on it.
-/

namespace Qt

/-- A file system without hard links; file objects are numbered. -/
structure FileSystem where
  dir : String → Option ℕ
  content : ℕ → Bytes
  next : ℕ
  dir_lt : ∀ {p i}, dir p = some i → i < next
  dir_inj : ∀ {p q i}, dir p = some i → dir q = some i → p = q

namespace FileSystem

variable {fs : FileSystem} {p q a b : String} {i j : ℕ}

/-- The file system without a file. -/
def empty : FileSystem where
  dir _ := none
  content _ := []
  next := 0
  dir_lt h := by cases h
  dir_inj h := by cases h

/-- What the file at a path contains. -/
def contentAt (fs : FileSystem) (p : String) : Option Bytes := (fs.dir p).map fs.content

/-- `QFile::exists`. -/
def exists? (fs : FileSystem) (p : String) : Bool := (fs.dir p).isSome

lemma contentAt_eq_some {bs : Bytes} :
    fs.contentAt p = some bs ↔ ∃ i, fs.dir p = some i ∧ fs.content i = bs := by
  simp [contentAt]

lemma exists?_eq_true : fs.exists? p = true ↔ ∃ bs, fs.contentAt p = some bs := by
  simp [exists?, contentAt, Option.isSome_iff_exists]

/-- Two paths with files lead to different objects. -/
lemma dir_ne (hne : q ≠ p) (hp : fs.dir p = some i) : fs.dir q ≠ some i :=
  fun hq => hne (fs.dir_inj hq hp)

/-! ### Directory operations -/

/-- `QFile::remove`, which `ok` says whether it succeeds. -/
def remove (fs : FileSystem) (p : String) (ok : Bool) : FileSystem where
  dir q := if ok ∧ q = p then none else fs.dir q
  content := fs.content
  next := fs.next
  dir_lt h := by
    split_ifs at h
    exact fs.dir_lt h
  dir_inj h h' := by
    split_ifs at h h'
    exact fs.dir_inj h h'

/-- Whether `QFile::rename` succeeds: it needs a source and never overwrites. -/
def canRename (fs : FileSystem) (a b : String) (ok : Bool) : Bool :=
  ok && fs.exists? a && !fs.exists? b

/-- `QFile::rename`. -/
def rename (fs : FileSystem) (a b : String) (ok : Bool) : FileSystem where
  dir q :=
    if fs.canRename a b ok then
      if q = b then fs.dir a else if q = a then none else fs.dir q
    else fs.dir q
  content := fs.content
  next := fs.next
  dir_lt h := by
    split_ifs at h <;> exact fs.dir_lt h
  dir_inj {p q i} h h' := by
    split_ifs at h h' with hok hp hq hqa hpa hq hqa
    · rw [hp, hq]
    · exact absurd (fs.dir_inj h' h) hqa
    · exact absurd (fs.dir_inj h h') hpa
    · exact fs.dir_inj h h'
    · exact fs.dir_inj h h'

lemma contentAt_remove (fs : FileSystem) (p q : String) (ok : Bool) :
    (fs.remove p ok).contentAt q = if ok ∧ q = p then none else fs.contentAt q := by
  simp only [contentAt, remove]
  split_ifs <;> rfl

lemma contentAt_rename (fs : FileSystem) (a b q : String) (ok : Bool) :
    (fs.rename a b ok).contentAt q =
      if fs.canRename a b ok then
        if q = b then fs.contentAt a else if q = a then none else fs.contentAt q
      else fs.contentAt q := by
  simp only [contentAt, rename]
  split_ifs <;> rfl

lemma dir_remove_of_ne (hne : q ≠ p) (ok : Bool) : (fs.remove p ok).dir q = fs.dir q :=
  if_neg fun h => hne h.2

lemma dir_rename_of_ne (ha : q ≠ a) (hb : q ≠ b) (ok : Bool) :
    (fs.rename a b ok).dir q = fs.dir q := by
  simp only [rename, if_neg ha, if_neg hb, ite_self]

@[simp] lemma content_remove (ok : Bool) : (fs.remove p ok).content = fs.content := rfl

@[simp] lemma content_rename (ok : Bool) : (fs.rename a b ok).content = fs.content := rfl

lemma canRename_eq_true {ok : Bool} :
    fs.canRename a b ok = true ↔ ok = true ∧ fs.exists? a = true ∧ fs.exists? b = false := by
  simp [canRename, and_assoc]

/-! ### Contents -/

/-- Opening for writing with truncation: the file object at the path, emptied,
or a new one. -/
def openTruncate (fs : FileSystem) (p : String) : FileSystem where
  dir q := if q = p then some ((fs.dir p).getD fs.next) else fs.dir q
  content i := if i = (fs.dir p).getD fs.next then [] else fs.content i
  next := fs.next + 1
  dir_lt {q i} h := by
    split_ifs at h with hq
    · cases hp : fs.dir p with
      | none =>
          rw [hp, Option.getD_none, Option.some.injEq] at h
          omega
      | some j =>
          rw [hp, Option.getD_some, Option.some.injEq] at h
          have hlt := fs.dir_lt hp
          omega
    · have hlt := fs.dir_lt h
      omega
  dir_inj {q r i} h h' := by
    have hnew : ∀ s, s ≠ p → fs.dir s ≠ some ((fs.dir p).getD fs.next) := by
      intro s hs hdir
      cases hp : fs.dir p with
      | none =>
          rw [hp, Option.getD_none] at hdir
          exact absurd (fs.dir_lt hdir) (lt_irrefl _)
      | some j =>
          rw [hp, Option.getD_some] at hdir
          exact hs (fs.dir_inj hdir hp)
    split_ifs at h h' with hq hr hr
    · rw [hq, hr]
    · exact absurd (h'.trans h.symm) (hnew r hr)
    · exact absurd (h.trans h'.symm) (hnew q hq)
    · exact fs.dir_inj h h'

/-- The object that opening for writing yields. -/
def opened (fs : FileSystem) (p : String) : ℕ := (fs.dir p).getD fs.next

lemma dir_openTruncate (fs : FileSystem) (p q : String) :
    (fs.openTruncate p).dir q = if q = p then some (fs.opened p) else fs.dir q := rfl

lemma opened_ne (hne : q ≠ p) (hq : fs.dir q = some i) : i ≠ fs.opened p := by
  intro heq
  cases hp : fs.dir p with
  | none =>
      rw [opened, hp, Option.getD_none] at heq
      have hlt := fs.dir_lt hq
      omega
  | some j =>
      rw [opened, hp, Option.getD_some] at heq
      subst heq
      exact hne (fs.dir_inj hq hp)

lemma content_openTruncate_opened (fs : FileSystem) (p : String) :
    (fs.openTruncate p).content (fs.opened p) = [] := if_pos rfl

lemma content_openTruncate_of_ne (h : i ≠ fs.opened p) :
    (fs.openTruncate p).content i = fs.content i := if_neg h

lemma contentAt_openTruncate (fs : FileSystem) (p q : String) :
    (fs.openTruncate p).contentAt q = if q = p then some [] else fs.contentAt q := by
  by_cases hq : q = p
  · rw [contentAt, dir_openTruncate, if_pos hq, if_pos hq, Option.map_some,
      content_openTruncate_opened]
  · rw [contentAt, dir_openTruncate, if_neg hq, if_neg hq, contentAt]
    cases hdir : fs.dir q with
    | none => rfl
    | some i =>
        rw [Option.map_some, Option.map_some, content_openTruncate_of_ne (opened_ne hq hdir)]

/-- The contents after bytes were written at a position; a gap reads as
zeros. -/
def splice (old : Bytes) (pos : ℕ) (data : Bytes) : Bytes :=
  old.take pos ++ List.replicate (pos - old.length) 0 ++ data ++ old.drop (pos + data.length)

/-- Writing at the end appends. -/
lemma splice_length (old data : Bytes) : splice old old.length data = old ++ data := by
  simp [splice]

/-- Writing bytes into a file object. -/
def writeAt (fs : FileSystem) (i : ℕ) (pos : ℕ) (data : Bytes) : FileSystem where
  dir := fs.dir
  content j := if j = i then splice (fs.content i) pos data else fs.content j
  next := fs.next
  dir_lt := fs.dir_lt
  dir_inj := fs.dir_inj

@[simp] lemma dir_writeAt (pos : ℕ) (data : Bytes) : (fs.writeAt i pos data).dir = fs.dir := rfl

lemma content_writeAt_self (pos : ℕ) (data : Bytes) :
    (fs.writeAt i pos data).content i = splice (fs.content i) pos data := if_pos rfl

lemma content_writeAt_of_ne (h : j ≠ i) (pos : ℕ) (data : Bytes) :
    (fs.writeAt i pos data).content j = fs.content j := if_neg h

/-! ### Ownership -/

/-- The object `i` belongs to `path`: it is found nowhere else, and nothing else
is found there. The path itself may be gone. -/
structure Owns (fs : FileSystem) (path : String) (i : ℕ) : Prop where
  lt : i < fs.next
  only {q : String} {j : ℕ} : fs.dir q = some j → (q = path ↔ j = i)

/-- From `fs` to `fs'` the object `i` of `path` was left alone. -/
structure Frame (path : String) (i : ℕ) (fs fs' : FileSystem) : Prop where
  owns : fs.Owns path i → fs'.Owns path i
  content : fs.Owns path i → fs'.content i = fs.content i

section Frame

variable {path : String} {fs' fs'' : FileSystem}

@[refl, simp] lemma Frame.refl (path : String) (i : ℕ) (fs : FileSystem) : Frame path i fs fs :=
  ⟨id, fun _ => rfl⟩

lemma Frame.trans (h : Frame path i fs fs') (h' : Frame path i fs' fs'') :
    Frame path i fs fs'' :=
  ⟨fun ho => h'.owns (h.owns ho), fun ho => (h'.content (h.owns ho)).trans (h.content ho)⟩

/-- Removing a path frames every object, also the one behind it. -/
lemma frame_remove (fs : FileSystem) (q : String) (ok : Bool) : Frame path i fs (fs.remove q ok) where
  owns ho := by
    refine ⟨ho.lt, ?_⟩
    intro r j hr
    simp only [remove] at hr
    split_ifs at hr
    exact ho.only hr
  content _ := rfl

lemma frame_rename (fs : FileSystem) (ha : a ≠ path) (hb : b ≠ path) (ok : Bool) :
    Frame path i fs (fs.rename a b ok) where
  owns ho := by
    refine ⟨ho.lt, ?_⟩
    intro r j hr
    simp only [rename] at hr
    split_ifs at hr with hok hrb
    · have hj := (ho.only hr).not.mp ha
      rw [hrb]
      exact ⟨fun h => absurd h hb, fun h => absurd h hj⟩
    · exact ho.only hr
    · exact ho.only hr
  content _ := rfl

/-- An object of a path is not the one that opening another path yields, be
that old or new. -/
lemma Owns.ne_opened (ho : fs.Owns path i) (hne : q ≠ path) : i ≠ fs.opened q := by
  intro heq
  cases hq : fs.dir q with
  | none =>
      have hlt := ho.lt
      rw [heq, opened, hq, Option.getD_none] at hlt
      exact lt_irrefl _ hlt
  | some j =>
      rw [opened, hq, Option.getD_some] at heq
      exact hne ((ho.only hq).mpr heq.symm)

lemma frame_openTruncate (fs : FileSystem) (hne : q ≠ path) :
    Frame path i fs (fs.openTruncate q) where
  owns ho := by
    refine ⟨Nat.lt_succ_of_lt ho.lt, ?_⟩
    intro r j hr
    rw [dir_openTruncate] at hr
    split_ifs at hr with hrq
    · rw [Option.some.injEq] at hr
      rw [hrq, ← hr]
      exact ⟨fun h => absurd h hne, fun h => absurd h.symm (ho.ne_opened hne)⟩
    · exact ho.only hr
  content ho := content_openTruncate_of_ne (ho.ne_opened hne)

lemma frame_writeAt (fs : FileSystem) (hne : i ≠ j) (pos : ℕ) (data : Bytes) :
    Frame path i fs (fs.writeAt j pos data) where
  owns ho := ⟨ho.lt, fun hr => ho.only hr⟩
  content _ := content_writeAt_of_ne hne pos data

/-- A file that was just opened for writing belongs to its path. -/
lemma owns_openTruncate (fs : FileSystem) (p : String) :
    (fs.openTruncate p).Owns p (fs.opened p) where
  lt := (fs.openTruncate p).dir_lt (by rw [dir_openTruncate, if_pos rfl])
  only {q j} hq := by
    rw [dir_openTruncate] at hq
    split_ifs at hq with hqp
    · rw [Option.some.injEq] at hq
      exact ⟨fun _ => hq.symm, fun _ => hqp⟩
    · exact ⟨fun h => absurd h hqp, fun h => absurd h (opened_ne hqp hq)⟩

/-- What is found at the path of an object is the content of the object. -/
lemma Owns.contentAt_eq (ho : fs.Owns path i) {bs : Bytes} (h : fs.contentAt path = some bs) :
    bs = fs.content i := by
  obtain ⟨j, hj, hbs⟩ := contentAt_eq_some.mp h
  rw [← hbs, (ho.only hj).mp rfl]

end Frame

/-! ### Paths that keep their file -/

/-- From `fs` to `fs'` the file at a path was left where it is, as it is. -/
structure Keeps (p : String) (fs fs' : FileSystem) : Prop where
  dir : fs'.dir p = fs.dir p
  content {i : ℕ} : fs.dir p = some i → fs'.content i = fs.content i

section Keeps

variable {fs' fs'' : FileSystem}

@[refl, simp] lemma Keeps.refl (p : String) (fs : FileSystem) : Keeps p fs fs := ⟨rfl, fun _ => rfl⟩

lemma Keeps.trans (h : Keeps p fs fs') (h' : Keeps p fs' fs'') : Keeps p fs fs'' :=
  ⟨h'.dir.trans h.dir, fun hi => (h'.content (h.dir.trans hi)).trans (h.content hi)⟩

lemma Keeps.contentAt (h : Keeps p fs fs') : fs'.contentAt p = fs.contentAt p := by
  rw [FileSystem.contentAt, FileSystem.contentAt, h.dir]
  cases hp : fs.dir p with
  | none => rfl
  | some i => rw [Option.map_some, Option.map_some, h.content hp]

lemma keeps_remove (fs : FileSystem) (hne : p ≠ q) (ok : Bool) : Keeps p fs (fs.remove q ok) :=
  ⟨dir_remove_of_ne hne ok, fun _ => rfl⟩

lemma keeps_rename (fs : FileSystem) (ha : p ≠ a) (hb : p ≠ b) (ok : Bool) :
    Keeps p fs (fs.rename a b ok) :=
  ⟨dir_rename_of_ne ha hb ok, fun _ => rfl⟩

lemma keeps_openTruncate (fs : FileSystem) (hne : p ≠ q) : Keeps p fs (fs.openTruncate q) :=
  ⟨if_neg hne, fun hi => content_openTruncate_of_ne (opened_ne hne hi)⟩

lemma keeps_writeAt (fs : FileSystem) (hne : fs.dir p ≠ some i) (pos : ℕ) (data : Bytes) :
    Keeps p fs (fs.writeAt i pos data) where
  dir := rfl
  content {j} hj := by
    apply content_writeAt_of_ne
    rintro rfl
    exact hne hj

/-- The object at a path belongs to it. -/
lemma owns_of_dir (h : fs.dir p = some i) : fs.Owns p i where
  lt := fs.dir_lt h
  only {q j} hq := by
    constructor
    · rintro rfl
      rw [hq, Option.some.injEq] at h
      exact h
    · rintro rfl
      exact fs.dir_inj hq h

end Keeps

end FileSystem

/-! ### Handles -/

/-- `QIODevice::OpenMode`, as far as the program uses it. -/
inductive OpenMode where
  | ReadOnly
  | WriteOnly
  deriving DecidableEq, Repr

/-- `QFile`: a handle on a file object, with its position. A file that could
not be opened is a handle that is not open. -/
structure QFile where
  inode : ℕ
  mode : OpenMode
  pos : ℕ
  isOpen : Bool
  deriving DecidableEq, Repr

namespace QFile

/-- A handle that was never opened. -/
def unopened : QFile := ⟨0, .ReadOnly, 0, false⟩

/-- `open(QIODevice::ReadOnly)`: fails on a missing file and whenever `ok` says
so. -/
def openRead (fs : FileSystem) (path : String) (ok : Bool) : QFile :=
  match fs.dir path with
  | some i => if ok then ⟨i, .ReadOnly, 0, true⟩ else unopened
  | none => unopened

/-- The handle after `open(QIODevice::WriteOnly | QIODevice::Truncate)`. -/
def openWrite (fs : FileSystem) (path : String) (ok : Bool) : QFile :=
  if ok then ⟨fs.opened path, .WriteOnly, 0, true⟩ else unopened

/-- `QFile::close`. -/
def close (h : QFile) : QFile := { h with isOpen := false }

/-- `QFile::atEnd`. -/
def atEnd (fs : FileSystem) (h : QFile) : Bool := !h.isOpen || (fs.content h.inode).length ≤ h.pos

/-- `QFile::read(maxSize)`, which yields at most `limit` bytes. -/
def read (fs : FileSystem) (h : QFile) (maxSize limit : ℕ) : Bytes :=
  if h.isOpen && h.mode = .ReadOnly then
    ((fs.content h.inode).drop h.pos).take (min maxSize limit)
  else []

/-- The bytes that `QFile::write` accepts: all of them or, in a short or failed
write, the first `limit`. -/
def written (data : Bytes) (limit : Option ℕ) : Bytes :=
  match limit with
  | some n => data.take n
  | none => data

/-- The position moved on. -/
def advance (h : QFile) (n : ℕ) : QFile := { h with pos := h.pos + n }

lemma isOpen_openRead {fs : FileSystem} {path : String} {ok : Bool}
    (h : (openRead fs path ok).isOpen = true) :
    ∃ i, fs.dir path = some i ∧ openRead fs path ok = ⟨i, .ReadOnly, 0, true⟩ := by
  unfold openRead at h ⊢
  cases hdir : fs.dir path with
  | none => simp [hdir, unopened] at h
  | some i =>
      cases ok with
      | false => simp [hdir, unopened] at h
      | true => exact ⟨i, rfl, by simp⟩

end QFile

end Qt
