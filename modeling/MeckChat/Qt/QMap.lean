import Mathlib.Tactic

/-!
The ordered map of Qt (`QMap`), on the extensional tree map of the standard
library.

* `value?` looks a key up, and `value?_insert`, `value?_erase`, `value?_filter`
  say what it finds behind an update.
* `keys` lists the keys in ascending order, each once, so that two maps with the same keys
  list them alike (`filter_keys_eq`).
-/

/-- `QMap`: an ordered map. -/
abbrev QMap (κ ν : Type) [Ord κ] := Std.ExtTreeMap κ ν compare

namespace QMap

variable {κ ν : Type} [Ord κ] [Std.TransOrd κ]

/-- The value of a key, if the map has one. -/
def value? (m : QMap κ ν) (k : κ) : Option ν := m[k]?

@[simp] lemma value?_empty (k : κ) : (∅ : QMap κ ν).value? k = none :=
  Std.ExtTreeMap.getElem?_empty

variable [Std.LawfulEqOrd κ]

lemma value?_insert [DecidableEq κ] (m : QMap κ ν) (k a : κ) (v : ν) :
    QMap.value? (m.insert k v) a = if k = a then some v else m.value? a := by
  rw [value?, Std.ExtTreeMap.getElem?_insert]
  simp only [Std.LawfulEqCmp.compare_eq_iff_eq]
  rfl

@[simp] lemma value?_insert_self (m : QMap κ ν) (k : κ) (v : ν) :
    QMap.value? (m.insert k v) k = some v := by
  classical rw [value?_insert, if_pos rfl]

lemma value?_insert_of_ne (m : QMap κ ν) {k a : κ} (h : k ≠ a) (v : ν) :
    QMap.value? (m.insert k v) a = m.value? a := by
  classical rw [value?_insert, if_neg h]

lemma value?_erase [DecidableEq κ] (m : QMap κ ν) (k a : κ) :
    QMap.value? (m.erase k) a = if k = a then none else m.value? a := by
  rw [value?, Std.ExtTreeMap.getElem?_erase]
  simp only [Std.LawfulEqCmp.compare_eq_iff_eq]
  rfl

@[simp] lemma value?_erase_self (m : QMap κ ν) (k : κ) : QMap.value? (m.erase k) k = none := by
  classical rw [value?_erase, if_pos rfl]

lemma value?_erase_of_ne (m : QMap κ ν) {k a : κ} (h : k ≠ a) :
    QMap.value? (m.erase k) a = m.value? a := by
  classical rw [value?_erase, if_neg h]

/-- What is left after the entries that fail a test were erased. -/
lemma value?_filter (m : QMap κ ν) (p : κ → ν → Bool) (a : κ) :
    QMap.value? (m.filter p) a = (m.value? a).filter (p a) :=
  Std.ExtTreeMap.getElem?_filter'

lemma mem_toList {m : QMap κ ν} {k : κ} {v : ν} : (k, v) ∈ m.toList ↔ m.value? k = some v :=
  Std.ExtTreeMap.mem_toList_iff_getElem?_eq_some

/-- `QMap::keys`, in ascending order. -/
def keys (m : QMap κ ν) : List κ := Std.ExtTreeMap.keys m

lemma mem_keys {m : QMap κ ν} {k : κ} : k ∈ m.keys ↔ ∃ v, m.value? k = some v := by
  rw [keys, Std.ExtTreeMap.mem_keys, ← Option.isSome_iff_exists, value?,
    Std.ExtTreeMap.isSome_getElem?_iff_mem]

/-- The keys that pass a test, where two maps have the same of them. -/
lemma filter_keys_eq {ν' : Type} {m : QMap κ ν} {m' : QMap κ ν'} {p : κ → Bool}
    (h : ∀ k, p k = true → ((m.value? k).isSome ↔ (m'.value? k).isSome)) :
    m.keys.filter p = m'.keys.filter p := by
  have hsorted : m.keys.Pairwise fun a b => compare a b = .lt := Std.ExtTreeMap.ordered_keys
  have hsorted' : m'.keys.Pairwise fun a b => compare a b = .lt := Std.ExtTreeMap.ordered_keys
  have hirrefl : Std.Irrefl fun a b : κ => compare a b = .lt := by
    refine ⟨fun a hlt => ?_⟩
    have hself : compare a a = .eq := Std.ReflCmp.compare_self
    rw [hself] at hlt
    cases hlt
  have hasymm : Std.Antisymm fun a b : κ => compare a b = .lt := by
    refine ⟨fun a b hlt hgt => ?_⟩
    have hswap : compare a b = (compare b a).swap := Std.OrientedCmp.eq_swap
    rw [hswap, hgt] at hlt
    cases hlt
  refine (hsorted.filter p).eq_of_mem_iff (hsorted'.filter p) ?_
  intro k
  rw [List.mem_filter, List.mem_filter, mem_keys, mem_keys, ← Option.isSome_iff_exists,
    ← Option.isSome_iff_exists]
  exact and_congr_left fun hp => h k hp

end QMap
