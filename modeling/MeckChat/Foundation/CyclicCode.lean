import Mathlib.Algebra.Field.ZMod
import Mathlib.RingTheory.AdjoinRoot

/-!
Cyclic redundancy checks over the field of two elements.

* `bitPoly` reads a bit string as a polynomial, its first bit being the highest coefficient:
  `bitPoly_append`, `degree_bitPoly_lt`, and `bitPoly_injOn` for strings of one length.
* `wordPoly` reads a machine word, its lowest bit being the highest coefficient. One step of the
  shift register (`shift`) is a multiplication by `X` modulo the generator (`residue_shift`).
* `register` feeds a message of `k`-bit symbols into the register; `residue_register` is the
  polynomial it computes, and `wordPoly_eq_modByMonic` says that the register holds its
  remainder.
* `register_ne_of_burst`: two messages that differ in a burst no longer than the register leave
  different registers.
-/

namespace CyclicCode

open Polynomial

/-! ### Bit strings -/

/-- A bit as an element of the field. -/
def bit (b : Bool) : ZMod 2 := if b then 1 else 0

@[simp] lemma bit_false : bit false = 0 := rfl

@[simp] lemma bit_true : bit true = 1 := rfl

lemma bit_xor (a b : Bool) : bit (a ^^ b) = bit a + bit b := by
  cases a <;> cases b <;> decide

lemma bit_injective : Function.Injective bit := by
  intro a b h
  cases a <;> cases b
  · rfl
  · exact absurd h (by decide)
  · exact absurd h (by decide)
  · rfl

/-- The polynomial of a bit string, its first bit being the highest coefficient. -/
noncomputable def bitPoly (bits : List Bool) : (ZMod 2)[X] :=
  bits.foldl (fun p b => p * X + C (bit b)) 0

@[simp] lemma bitPoly_nil : bitPoly [] = 0 := rfl

lemma bitPoly_concat (bits : List Bool) (b : Bool) :
    bitPoly (bits ++ [b]) = bitPoly bits * X + C (bit b) := by
  rw [bitPoly, List.foldl_append]
  rfl

/-- **Concatenation** shifts the front by the length of the back. -/
lemma bitPoly_append (bits bits' : List Bool) :
    bitPoly (bits ++ bits') = bitPoly bits * X ^ bits'.length + bitPoly bits' := by
  induction bits' using List.reverseRecOn with
  | nil => simp
  | append_singleton bits' b ih =>
      rw [← List.append_assoc, bitPoly_concat, bitPoly_concat, ih, List.length_append,
        List.length_singleton, pow_succ]
      ring

lemma bitPoly_cons (b : Bool) (bits : List Bool) :
    bitPoly (b :: bits) = C (bit b) * X ^ bits.length + bitPoly bits := by
  have h := bitPoly_append [b] bits
  rw [List.singleton_append] at h
  rw [h, show bitPoly [b] = C (bit b) by simp [bitPoly]]

lemma bitPoly_replicate_false (n : ℕ) : bitPoly (List.replicate n false) = 0 := by
  induction n with
  | zero => rfl
  | succ n ih => rw [List.replicate_succ, bitPoly_cons, ih, bit_false, C_0, zero_mul, zero_add]

lemma degree_bitPoly_lt (bits : List Bool) : (bitPoly bits).degree < bits.length := by
  induction bits with
  | nil => simp
  | cons b bits ih =>
      have hlt : (bits.length : WithBot ℕ) < ((b :: bits).length : ℕ) := by
        rw [List.length_cons]
        exact_mod_cast Nat.lt_succ_self _
      rw [bitPoly_cons]
      refine lt_of_le_of_lt (degree_add_le _ _) (max_lt ?_ (ih.trans hlt))
      exact lt_of_le_of_lt (degree_C_mul_X_pow_le _ _) hlt

/-- The first bit is the coefficient at the length of the rest. -/
lemma coeff_bitPoly_cons (b : Bool) (bits : List Bool) :
    (bitPoly (b :: bits)).coeff bits.length = bit b := by
  rw [bitPoly_cons, coeff_add, coeff_C_mul_X_pow, if_pos rfl,
    coeff_eq_zero_of_degree_lt (degree_bitPoly_lt bits), add_zero]

/-- Bit strings of one length with one polynomial are equal. -/
lemma bitPoly_injOn {bits bits' : List Bool} (hlength : bits.length = bits'.length)
    (h : bitPoly bits = bitPoly bits') : bits = bits' := by
  induction bits generalizing bits' with
  | nil => exact (List.length_eq_zero_iff.mp hlength.symm).symm
  | cons b bits ih =>
      cases bits' with
      | nil => exact absurd hlength (by simp)
      | cons b' bits' =>
          have htail : bits.length = bits'.length := Nat.succ_injective hlength
          have hhead : bit b = bit b' := by
            rw [← coeff_bitPoly_cons b bits, h, htail, coeff_bitPoly_cons]
          have hrest : bitPoly bits = bitPoly bits' := by
            rw [bitPoly_cons, bitPoly_cons, hhead, htail] at h
            exact add_left_cancel h
          rw [bit_injective hhead, ih htail hrest]

/-- The bits of a sum. -/
lemma bitPoly_zipWith_xor {bits bits' : List Bool} (hlength : bits.length = bits'.length) :
    bitPoly (List.zipWith xor bits bits') = bitPoly bits + bitPoly bits' := by
  induction bits generalizing bits' with
  | nil =>
      rw [List.length_eq_zero_iff.mp hlength.symm, List.zipWith_nil_left, bitPoly_nil, add_zero]
  | cons b bits ih =>
      cases bits' with
      | nil => exact absurd hlength (by simp)
      | cons b' bits' =>
          have htail : bits.length = bits'.length := Nat.succ_injective hlength
          rw [List.zipWith_cons_cons, bitPoly_cons, bitPoly_cons, bitPoly_cons, ih htail, bit_xor,
            List.length_zipWith, ← htail, min_self, C_add]
          ring

/-! ### Words -/

variable {w k : ℕ}

/-- The bits of a word from the lowest on. -/
def wordBits (c : BitVec w) : List Bool := (List.range w).map c.getLsbD

@[simp] lemma length_wordBits (c : BitVec w) : (wordBits c).length = w := by
  rw [wordBits, List.length_map, List.length_range]

lemma getElem_wordBits (c : BitVec w) {i : ℕ} (h : i < (wordBits c).length) :
    (wordBits c)[i] = c.getLsbD i := by
  simp [wordBits]

lemma wordBits_injective : Function.Injective (wordBits (w := w)) := by
  intro c c' h
  apply BitVec.eq_of_getLsbD_eq
  intro i hi
  have hbits : ∀ (d : BitVec w) (hd : i < (wordBits d).length), (wordBits d)[i] = d.getLsbD i :=
    fun d hd => getElem_wordBits d hd
  rw [← hbits c (by simpa using hi), ← hbits c' (by simpa using hi)]
  simp only [h]

lemma wordBits_xor (c c' : BitVec w) :
    wordBits (c ^^^ c') = List.zipWith xor (wordBits c) (wordBits c') := by
  apply List.ext_getElem
  · simp
  · intro i h h'
    rw [getElem_wordBits, List.getElem_zipWith, getElem_wordBits, getElem_wordBits,
      BitVec.getLsbD_xor]

/-- A word that is widened has zeros in its new bits. -/
lemma wordBits_setWidth (hk : k ≤ w) (b : BitVec k) :
    wordBits (b.setWidth w) = wordBits b ++ List.replicate (w - k) false := by
  apply List.ext_getElem
  · rw [List.length_append, length_wordBits, length_wordBits, List.length_replicate]
    omega
  · intro i h h'
    rw [length_wordBits] at h
    rw [getElem_wordBits, BitVec.getLsbD_setWidth]
    by_cases hik : i < k
    · rw [List.getElem_append_left (by simpa using hik), getElem_wordBits]
      simp [h]
    · rw [List.getElem_append_right (by simpa using hik), List.getElem_replicate,
        BitVec.getLsbD_of_ge _ _ (by omega), Bool.and_false]

/-- The polynomial of a word, its lowest bit being the highest coefficient. -/
noncomputable def wordPoly (c : BitVec w) : (ZMod 2)[X] := bitPoly (wordBits c)

lemma wordPoly_xor (c c' : BitVec w) : wordPoly (c ^^^ c') = wordPoly c + wordPoly c' := by
  rw [wordPoly, wordBits_xor, bitPoly_zipWith_xor (by simp), ← wordPoly, ← wordPoly]

lemma wordPoly_zero : wordPoly (0 : BitVec w) = 0 := by
  have h := wordPoly_xor (0 : BitVec w) 0
  rw [BitVec.xor_self] at h
  simpa using h

lemma wordPoly_setWidth (hk : k ≤ w) (b : BitVec k) :
    wordPoly (b.setWidth w) = wordPoly b * X ^ (w - k) := by
  rw [wordPoly, wordBits_setWidth hk, bitPoly_append, bitPoly_replicate_false,
    List.length_replicate, add_zero, ← wordPoly]

lemma degree_wordPoly_lt (c : BitVec w) : (wordPoly c).degree < w := by
  have h := degree_bitPoly_lt (wordBits c)
  rwa [length_wordBits] at h

/-- Each bit of a string is the coefficient at the number of bits behind it. -/
lemma coeff_bitPoly {bits : List Bool} {i : ℕ} (h : i < bits.length) :
    (bitPoly bits).coeff (bits.length - 1 - i) = bit bits[i] := by
  have hsplit : bits = bits.take i ++ bits[i] :: bits.drop (i + 1) := by
    rw [List.getElem_cons_drop, List.take_append_drop]
  have hlength : (bits.drop (i + 1)).length = bits.length - 1 - i := by
    rw [List.length_drop]
    omega
  have hpoly := congrArg bitPoly hsplit
  rw [hpoly, bitPoly_append, coeff_add, coeff_mul_X_pow', if_neg, zero_add, ← hlength,
    coeff_bitPoly_cons]
  rw [List.length_cons, hlength]
  omega

lemma coeff_wordPoly (c : BitVec w) {i : ℕ} (h : i < w) :
    (wordPoly c).coeff (w - 1 - i) = bit (c.getLsbD i) := by
  have hbits : i < (wordBits c).length := by rwa [length_wordBits]
  have hcoeff := coeff_bitPoly hbits
  rwa [length_wordBits, getElem_wordBits, ← wordPoly] at hcoeff

/-- The coefficients of a polynomial that is given by its bits. -/
lemma coeff_sum_bits (f : ℕ → Bool) (n m : ℕ) :
    (∑ i ∈ Finset.range n, if f i then X ^ i else 0 : (ZMod 2)[X]).coeff m =
      bit (decide (m < n) && f m) := by
  have hterm : ∀ i, (if f i then X ^ i else 0 : (ZMod 2)[X]).coeff m =
      if i = m then bit (f m) else 0 := by
    intro i
    by_cases hi : i = m
    · subst hi
      cases f i with
      | false => simp
      | true => simp
    · rw [if_neg hi]
      cases f i with
      | false => simp
      | true => simp [coeff_X_pow, Ne.symm hi]
  rw [finsetSum_coeff, Finset.sum_congr rfl fun i _ => hterm i, Finset.sum_ite_eq']
  by_cases hm : m < n
  · rw [if_pos (Finset.mem_range.mpr hm), decide_eq_true hm, Bool.true_and]
  · rw [if_neg (by simpa using hm), decide_eq_false hm, Bool.false_and, bit_false]

/-- The polynomial of a word as a sum over its bits. -/
lemma wordPoly_eq_sum (c : BitVec w) :
    wordPoly c = ∑ i ∈ Finset.range w, if c.getLsbD (w - 1 - i) then X ^ i else 0 := by
  ext n
  rw [coeff_sum_bits]
  by_cases hn : n < w
  · have hcoeff := coeff_wordPoly c (i := w - 1 - n) (by omega)
    rw [show w - 1 - (w - 1 - n) = n by omega] at hcoeff
    rw [hcoeff, decide_eq_true hn, Bool.true_and]
  · rw [decide_eq_false hn, Bool.false_and, bit_false]
    apply coeff_eq_zero_of_degree_lt
    refine lt_of_lt_of_le (degree_wordPoly_lt c) ?_
    exact_mod_cast Nat.le_of_not_lt hn

/-! ### Words from their bits -/

/-- The word with given bits. -/
def ofBits (f : ℕ → Bool) : BitVec w :=
  (List.range w).foldl (fun c i => if f i then c ||| BitVec.twoPow w i else c) 0

lemma getLsbD_ofBits (f : ℕ → Bool) {i : ℕ} (h : i < w) :
    (ofBits f : BitVec w).getLsbD i = f i := by
  have hpart : ∀ n, ((List.range n).foldl
      (fun c i => if f i then c ||| BitVec.twoPow w i else c) (0 : BitVec w)).getLsbD i =
        (decide (i < n) && f i) := by
    intro n
    induction n with
    | zero => simp
    | succ n ih =>
        rw [List.range_succ, List.foldl_append, List.foldl_cons, List.foldl_nil]
        obtain ⟨acc, hacc⟩ : ∃ acc : BitVec w, acc = (List.range n).foldl
            (fun c i => if f i then c ||| BitVec.twoPow w i else c) 0 := ⟨_, rfl⟩
        rw [← hacc] at ih ⊢
        have hstep : (if f n then acc ||| BitVec.twoPow w n else acc).getLsbD i =
            (acc.getLsbD i || (f n && decide (n = i))) := by
          cases f n with
          | false => simp
          | true => simp [h, eq_comm]
        rw [hstep, ih]
        by_cases hn : n = i
        · simp [hn]
        · have hlt : decide (i < n + 1) = decide (i < n) := by
            rw [decide_eq_decide]
            omega
          rw [decide_eq_false hn, hlt, Bool.and_false, Bool.or_false]
  rw [ofBits, hpart, decide_eq_true h, Bool.true_and]

/-- The word of a polynomial, bit `i` being the coefficient of `X ^ i`. -/
noncomputable def wordOf (p : (ZMod 2)[X]) : BitVec w := ofBits fun i => decide (p.coeff i = 1)

/-- The polynomial of a word has its lowest bit on top, so its word is the reflected one. -/
lemma reverse_wordOf_wordPoly (c : BitVec w) : (wordOf (wordPoly c) : BitVec w).reverse = c := by
  apply BitVec.eq_of_getLsbD_eq
  intro i hi
  have hbit : ∀ b : Bool, decide (bit b = 1) = b := by decide
  rw [BitVec.getLsbD_reverse, BitVec.getMsbD_eq_getLsbD, decide_eq_true hi, Bool.true_and, wordOf,
    getLsbD_ofBits _ (by omega), coeff_wordPoly c hi, hbit]

/-! ### The shift register -/

/-- One step of the register: it is shifted towards its lowest bit, and the polynomial is added
where a one falls out. -/
def shift (poly c : BitVec w) : BitVec w := (c >>> 1) ^^^ (if c.getLsbD 0 then poly else 0)

/-- The generator whose coefficients below the leading one are those of a word. -/
noncomputable def generator (poly : BitVec w) : (ZMod 2)[X] := X ^ w + wordPoly poly

/-- A shift moves all coefficients up; the lowest bit is the one that leaves the word. -/
lemma X_mul_wordPoly (c : BitVec w) :
    X * wordPoly c = C (bit (c.getLsbD 0)) * X ^ w + wordPoly (c >>> 1) := by
  cases w with
  | zero =>
      have hzero : c = 0 := Subsingleton.elim _ _
      rw [hzero]
      simp [wordPoly, wordBits]
  | succ w =>
      obtain ⟨rest, hrest⟩ : ∃ rest, rest = (List.range w).map fun i => c.getLsbD (i + 1) :=
        ⟨_, rfl⟩
      have hbits : wordBits c = c.getLsbD 0 :: rest := by
        rw [wordBits, List.range_succ_eq_map, List.map_cons, List.map_map, hrest]
        rfl
      have hshifted : wordBits (c >>> 1) = rest ++ [false] := by
        rw [wordBits, List.range_succ, List.map_append, List.map_singleton, hrest]
        congr 1
        · apply List.map_congr_left
          intro i _
          rw [BitVec.getLsbD_ushiftRight, Nat.add_comm 1 i]
        · rw [BitVec.getLsbD_ushiftRight, BitVec.getLsbD_of_ge _ _ (by omega)]
      have hlength : rest.length = w := by rw [hrest, List.length_map, List.length_range]
      rw [wordPoly, wordPoly, hbits, hshifted, bitPoly_cons, bitPoly_concat, bit_false, C_0,
        hlength, pow_succ]
      ring

lemma wordPoly_ite (poly : BitVec w) (b : Bool) :
    wordPoly (if b then poly else 0) = C (bit b) * wordPoly poly := by
  cases b with
  | false => simpa using wordPoly_zero
  | true => simp

/-- **One step** is a multiplication by `X`, up to a multiple of the generator. -/
lemma X_mul_wordPoly_eq (poly c : BitVec w) :
    X * wordPoly c = wordPoly (shift poly c) + C (bit (c.getLsbD 0)) * generator poly := by
  have htwo : (2 : (ZMod 2)[X]) = 0 := by
    rw [← map_ofNat C 2, show (OfNat.ofNat 2 : ZMod 2) = 0 by decide, C_0]
  rw [X_mul_wordPoly, shift, wordPoly_xor, wordPoly_ite, generator]
  linear_combination -(C (bit (c.getLsbD 0)) * wordPoly poly) * htwo

/-- The residues modulo the generator. -/
noncomputable abbrev residue (poly : BitVec w) : (ZMod 2)[X] →+* AdjoinRoot (generator poly) :=
  AdjoinRoot.mk (generator poly)

lemma residue_shift (poly c : BitVec w) :
    residue poly (wordPoly (shift poly c)) = residue poly (X * wordPoly c) := by
  rw [X_mul_wordPoly_eq, map_add, map_mul, residue, AdjoinRoot.mk_self, mul_zero, add_zero]

lemma residue_shift_iterate (poly c : BitVec w) (n : ℕ) :
    residue poly (wordPoly ((shift poly)^[n] c)) = residue poly (X ^ n * wordPoly c) := by
  induction n with
  | zero => rw [pow_zero, one_mul, Function.iterate_zero, id]
  | succ n ih =>
      rw [Function.iterate_succ_apply', residue_shift, map_mul, ih, ← map_mul, pow_succ]
      congr 1
      ring

/-! ### Messages -/

/-- A symbol of `k` bits is added to the low end of the register, which then makes `k` steps. -/
def feed (poly c : BitVec w) (b : BitVec k) : BitVec w := (shift poly)^[k] (c ^^^ b.setWidth w)

/-- The register behind a message. -/
def register (poly start : BitVec w) (message : List (BitVec k)) : BitVec w :=
  message.foldl (feed poly) start

/-- The polynomial of a message, symbol by symbol. -/
noncomputable def messagePoly (message : List (BitVec k)) : (ZMod 2)[X] :=
  bitPoly (message.flatMap wordBits)

lemma length_flatMap_wordBits (message : List (BitVec k)) :
    (message.flatMap wordBits).length = k * message.length := by
  induction message with
  | nil => simp
  | cons b message ih =>
      rw [List.flatMap_cons, List.length_append, length_wordBits, ih, List.length_cons]
      ring

/-- Messages of one length with one bit string are equal. -/
lemma flatMap_wordBits_injOn {message message' : List (BitVec k)}
    (hlength : message.length = message'.length)
    (h : message.flatMap wordBits = message'.flatMap wordBits) : message = message' := by
  induction message generalizing message' with
  | nil => exact (List.length_eq_zero_iff.mp hlength.symm).symm
  | cons b message ih =>
      cases message' with
      | nil => exact absurd hlength (by simp)
      | cons b' message' =>
          rw [List.flatMap_cons, List.flatMap_cons] at h
          obtain ⟨hhead, hrest⟩ := List.append_inj h (by simp)
          rw [wordBits_injective hhead, ih (Nat.succ_injective hlength) hrest]

lemma messagePoly_append (message message' : List (BitVec k)) :
    messagePoly (message ++ message') =
      messagePoly message * X ^ (k * message'.length) + messagePoly message' := by
  rw [messagePoly, List.flatMap_append, bitPoly_append, length_flatMap_wordBits, ← messagePoly,
    ← messagePoly]

/-- One symbol. -/
lemma residue_feed (hk : k ≤ w) (poly c : BitVec w) (b : BitVec k) :
    residue poly (wordPoly (feed poly c b)) =
      residue poly (X ^ k * wordPoly c + X ^ w * wordPoly b) := by
  have hpow : (X : (ZMod 2)[X]) ^ k * X ^ (w - k) = X ^ w := by
    rw [← pow_add, Nat.add_sub_cancel' hk]
  rw [feed, residue_shift_iterate, wordPoly_xor, wordPoly_setWidth hk, ← hpow]
  congr 1
  ring

/-- **The register behind a message**, as a residue. -/
theorem residue_register (hk : k ≤ w) (poly start : BitVec w) (message : List (BitVec k)) :
    residue poly (wordPoly (register poly start message)) =
      residue poly (X ^ (k * message.length) * wordPoly start + X ^ w * messagePoly message) := by
  induction message using List.reverseRecOn with
  | nil => simp [register, messagePoly]
  | append_singleton message b ih =>
      have hlast : messagePoly [b] = wordPoly b := by
        rw [messagePoly, List.flatMap_singleton, ← wordPoly]
      have hstep : register poly start (message ++ [b]) =
          feed poly (register poly start message) b := by
        rw [register, List.foldl_append]
        rfl
      rw [hstep, residue_feed hk, map_add, map_mul, ih, ← map_mul, ← map_add, messagePoly_append,
        hlast, List.length_append, List.length_singleton, Nat.mul_succ, pow_add, Nat.mul_one]
      congr 1
      ring

section Remainder

variable (poly : BitVec w)

lemma monic_generator : (generator poly).Monic := monic_X_pow_add (degree_wordPoly_lt poly)

lemma degree_generator : (generator poly).degree = w := by
  rw [generator, degree_add_eq_left_of_degree_lt, degree_X_pow]
  rw [degree_X_pow]
  exact degree_wordPoly_lt poly

/-- **A register holds a remainder.** -/
theorem wordPoly_eq_modByMonic {c : BitVec w} {p : (ZMod 2)[X]}
    (h : residue poly (wordPoly c) = residue poly p) : wordPoly c = p %ₘ generator poly := by
  have hself : wordPoly c %ₘ generator poly = wordPoly c := by
    rw [modByMonic_eq_self_iff (monic_generator poly), degree_generator]
    exact degree_wordPoly_lt c
  have hdvd : generator poly ∣ wordPoly c - p := AdjoinRoot.mk_eq_mk.mp h
  rw [← hself]
  exact modByMonic_eq_of_dvd_sub (monic_generator poly) hdvd

end Remainder

/-! ### Bursts -/

/-- A generator with a constant term shares no factor with `X`. -/
lemma isCoprime_X_generator {poly : BitVec w} (h : poly.getLsbD (w - 1) = true) :
    IsCoprime X (generator poly) := by
  have hpos : 0 < w := by
    by_contra hzero
    rw [BitVec.getLsbD_of_ge _ _ (by omega)] at h
    cases h
  obtain ⟨n, rfl⟩ : ∃ n, w = n + 1 := ⟨w - 1, by omega⟩
  have hbits : wordBits poly = (List.range n).map poly.getLsbD ++ [true] := by
    rw [wordBits, List.range_succ, List.map_append, List.map_singleton, ← h, Nat.add_sub_cancel]
  have hone : (generator poly).coeff 0 = 1 := by
    rw [generator, coeff_add, coeff_X_pow, if_neg (by omega), zero_add, wordPoly, hbits,
      bitPoly_concat, coeff_add, mul_coeff_zero, coeff_X_zero, mul_zero, zero_add, coeff_C_zero,
      bit_true]
  refine ⟨-divX (generator poly), 1, ?_⟩
  have hdiv := divX_mul_X_add (generator poly)
  rw [hone, C_1] at hdiv
  linear_combination -hdiv

/-- **Bursts are detected.** Two messages that differ in a burst no longer than the register
leave different registers, if the generator has a constant term. -/
theorem register_ne_of_burst (hk : k ≤ w) {poly : BitVec w} (hconst : poly.getLsbD (w - 1) = true)
    (start : BitVec w) (front back : List (BitVec k)) {burst burst' : List (BitVec k)}
    (hlength : burst.length = burst'.length) (hshort : k * burst.length ≤ w)
    (hne : burst ≠ burst') :
    register poly start (front ++ burst ++ back) ≠
      register poly start (front ++ burst' ++ back) := by
  intro h
  have hlengths : (front ++ burst' ++ back).length = (front ++ burst ++ back).length := by
    simp only [List.length_append, hlength]
  have hresidue := residue_register hk poly start (front ++ burst ++ back)
  rw [h, residue_register hk poly start, hlengths] at hresidue
  -- what the two messages differ in is the burst, moved up by the length of what follows
  have hdiff : X ^ (k * (front ++ burst ++ back).length) * wordPoly start +
        X ^ w * messagePoly (front ++ burst' ++ back) -
      (X ^ (k * (front ++ burst ++ back).length) * wordPoly start +
        X ^ w * messagePoly (front ++ burst ++ back)) =
      X ^ (w + k * back.length) * (messagePoly burst' - messagePoly burst) := by
    rw [messagePoly_append, messagePoly_append, messagePoly_append, messagePoly_append, hlength,
      pow_add]
    ring
  have hdvd : generator poly ∣ messagePoly burst' - messagePoly burst := by
    have hmul := AdjoinRoot.mk_eq_mk.mp hresidue
    rw [hdiff] at hmul
    exact (isCoprime_X_generator hconst).symm.pow_right.dvd_of_dvd_mul_left hmul
  have hdegree : (messagePoly burst' - messagePoly burst).degree < (generator poly).degree := by
    rw [degree_generator]
    have hbound : ∀ b : List (BitVec k), k * b.length ≤ w → (messagePoly b).degree < w := by
      intro b hb
      refine lt_of_lt_of_le (degree_bitPoly_lt _) ?_
      rw [length_flatMap_wordBits]
      exact_mod_cast hb
    refine lt_of_le_of_lt (degree_sub_le _ _) (max_lt ?_ (hbound burst hshort))
    exact hbound burst' (by rw [← hlength]; exact hshort)
  have hzero := eq_zero_of_dvd_of_degree_lt hdvd hdegree
  have hbits : burst.flatMap wordBits = burst'.flatMap wordBits := by
    apply bitPoly_injOn
    · rw [length_flatMap_wordBits, length_flatMap_wordBits, hlength]
    · exact (sub_eq_zero.mp hzero).symm
  exact hne (flatMap_wordBits_injOn hlength hbits)

end CyclicCode
