import Mathlib.Tactic
import Mathlib.Data.Nat.Digits.Lemmas

/-!
Byte strings, big-endian numerals and checked memory access.

* `BigEndian.encode` writes a number as a fixed count of bytes, the most
  significant first; `BigEndian.decode` reads a byte string back.
  `decode_encode` and `encode_decode` are the two inversions.
* `Checked` is the result type of code that reads raw memory or adds machine
  integers: `Fault` is what leaves the defined behaviour of such code.
* `indexOf` is the first occurrence of a pattern.
* `readBE16` and `readBE32` read a big-endian field at an offset and fault
  outside of the string, `addInt` adds two values of a 32-bit `int` and faults
  on overflow.
-/

/-- A byte string. -/
abbrev Bytes := List UInt8

namespace BigEndian

/-- The `k` big-endian bytes of `n`, reduced modulo `256 ^ k`. -/
def encode : ℕ → ℕ → Bytes
  | 0, _ => []
  | k + 1, n => encode k (n / 256) ++ [UInt8.ofNat n]

/-- The number a byte string denotes, its first byte being the most
significant. -/
def decode (bs : Bytes) : ℕ := bs.foldl (fun acc b => acc * 256 + b.toNat) 0

@[simp] lemma decode_nil : decode [] = 0 := rfl

@[simp] lemma decode_append_singleton (bs : Bytes) (b : UInt8) :
    decode (bs ++ [b]) = decode bs * 256 + b.toNat := by
  simp [decode]

@[simp] lemma length_encode (k n : ℕ) : (encode k n).length = k := by
  induction k generalizing n with
  | zero => rfl
  | succ k ih => simp [encode, ih]

/-- Reading back what was written. -/
lemma decode_encode {k n : ℕ} (h : n < 256 ^ k) : decode (encode k n) = n := by
  induction k generalizing n with
  | zero =>
      simp only [Nat.pow_zero, Nat.lt_one_iff] at h
      simp [encode, h]
  | succ k ih =>
      have hd : n / 256 < 256 ^ k := by
        rw [Nat.div_lt_iff_lt_mul (by norm_num)]
        rwa [pow_succ] at h
      rw [encode, decode_append_singleton, ih hd, UInt8.toNat_ofNat']
      omega

lemma decode_lt (bs : Bytes) : decode bs < 256 ^ bs.length := by
  induction bs using List.reverseRecOn with
  | nil => simp
  | append_singleton bs b ih =>
      have hb : b.toNat < 256 := b.toNat_lt
      rw [decode_append_singleton, List.length_append, List.length_singleton, pow_succ]
      omega

/-- A byte string is the numeral of the number it denotes. -/
lemma encode_decode (bs : Bytes) : encode bs.length (decode bs) = bs := by
  induction bs using List.reverseRecOn with
  | nil => rfl
  | append_singleton bs b ih =>
      have hb : b.toNat < 256 := b.toNat_lt
      have hdiv : (decode bs * 256 + b.toNat) / 256 = decode bs := by omega
      have hmod : UInt8.ofNat (decode bs * 256 + b.toNat) = b := by
        apply UInt8.toNat_inj.mp
        rw [UInt8.toNat_ofNat']
        omega
      rw [decode_append_singleton, List.length_append, List.length_singleton, encode, hdiv, ih,
        hmod]

end BigEndian

/-! ### Fixed-width fields -/

/-- The two big-endian bytes of a 16-bit value. -/
def be16 (v : UInt16) : Bytes := BigEndian.encode 2 v.toNat

/-- The four big-endian bytes of a 32-bit value. -/
def be32 (v : UInt32) : Bytes := BigEndian.encode 4 v.toNat

@[simp] lemma length_be16 (v : UInt16) : (be16 v).length = 2 := BigEndian.length_encode 2 _

@[simp] lemma length_be32 (v : UInt32) : (be32 v).length = 4 := BigEndian.length_encode 4 _

/-- The 16-bit value of a big-endian field. -/
def ofBE16 (bs : Bytes) : UInt16 := UInt16.ofNat (BigEndian.decode bs)

/-- The 32-bit value of a big-endian field. -/
def ofBE32 (bs : Bytes) : UInt32 := UInt32.ofNat (BigEndian.decode bs)

@[simp] lemma ofBE16_be16 (v : UInt16) : ofBE16 (be16 v) = v := by
  rw [ofBE16, be16, BigEndian.decode_encode (by simpa using v.toNat_lt), UInt16.ofNat_toNat]

@[simp] lemma ofBE32_be32 (v : UInt32) : ofBE32 (be32 v) = v := by
  rw [ofBE32, be32, BigEndian.decode_encode (by simpa using v.toNat_lt), UInt32.ofNat_toNat]

lemma be16_ofBE16 {bs : Bytes} (h : bs.length = 2) : be16 (ofBE16 bs) = bs := by
  have hlt : BigEndian.decode bs < 2 ^ 16 := by simpa [h] using BigEndian.decode_lt bs
  rw [be16, ofBE16, UInt16.toNat_ofNat', Nat.mod_eq_of_lt hlt, ← h, BigEndian.encode_decode]

lemma be32_ofBE32 {bs : Bytes} (h : bs.length = 4) : be32 (ofBE32 bs) = bs := by
  have hlt : BigEndian.decode bs < 2 ^ 32 := by simpa [h] using BigEndian.decode_lt bs
  rw [be32, ofBE32, UInt32.toNat_ofNat', Nat.mod_eq_of_lt hlt, ← h, BigEndian.encode_decode]

/-! ### Checked reads and checked integer arithmetic -/

/-- The ways in which code over raw memory leaves its defined behaviour, and
the exhaustion of the fuel that bounds a loop. -/
inductive Fault where
  | outOfBounds
  | signedOverflow
  | outOfFuel
  deriving DecidableEq, Repr

/-- The result of a computation that may fault. -/
abbrev Checked := Except Fault

@[simp] lemma Checked.ok_bind {α β : Type} (a : α) (f : α → Checked β) :
    ((Except.ok a : Checked α) >>= f) = f a := rfl

@[simp] lemma Checked.pure_eq {α : Type} (a : α) : (pure a : Checked α) = .ok a := rfl

/-- The bytes of `d` from offset `off` on, `len` of them. -/
def slice (d : Bytes) (off len : ℕ) : Bytes := (d.drop off).take len

lemma length_slice {d : Bytes} {off len : ℕ} (h : off + len ≤ d.length) :
    (slice d off len).length = len := by
  rw [slice, List.length_take, List.length_drop]
  omega

/-- Two adjacent slices are one. -/
lemma slice_append_slice (d : Bytes) (off a b : ℕ) :
    slice d off a ++ slice d (off + a) b = slice d off (a + b) := by
  rw [slice, slice, slice, List.take_add, List.drop_drop]

lemma slice_self (d : Bytes) : slice d 0 d.length = d := by
  rw [slice, List.drop_zero, List.take_length]

/-- A slice inside of `d` does not see what is appended. -/
lemma slice_append_of_le {d : Bytes} {off len : ℕ} (h : off + len ≤ d.length) (c : Bytes) :
    slice (d ++ c) off len = slice d off len := by
  rw [slice, slice, List.drop_append_of_le_length (by omega),
    List.take_append_of_le_length (by rw [List.length_drop]; omega)]

/-- The slice cut out by the lengths of the parts before and at it. -/
lemma slice_eq_of_append {d a b c : Bytes} {off len : ℕ} (h : d = a ++ (b ++ c))
    (ha : a.length = off) (hb : b.length = len) : slice d off len = b := by
  rw [slice, h, ← ha, ← hb, List.drop_left, List.take_left]

/-- A checked read of `len` bytes at `off`. -/
def readSlice (d : Bytes) (off len : ℕ) : Checked Bytes :=
  if off + len ≤ d.length then .ok (slice d off len) else .error .outOfBounds

/-- A checked read of a big-endian 16-bit field. -/
def readBE16 (d : Bytes) (off : ℕ) : Checked UInt16 := ofBE16 <$> readSlice d off 2

/-- A checked read of a big-endian 32-bit field. -/
def readBE32 (d : Bytes) (off : ℕ) : Checked UInt32 := ofBE32 <$> readSlice d off 4

lemma readSlice_ok {d : Bytes} {off len : ℕ} (h : off + len ≤ d.length) :
    readSlice d off len = .ok (slice d off len) := by
  rw [readSlice, if_pos h]

lemma readBE16_ok {d : Bytes} {off : ℕ} (h : off + 2 ≤ d.length) :
    readBE16 d off = .ok (ofBE16 (slice d off 2)) := by
  rw [readBE16, readSlice_ok h]
  rfl

lemma readBE32_ok {d : Bytes} {off : ℕ} (h : off + 4 ≤ d.length) :
    readBE32 d off = .ok (ofBE32 (slice d off 4)) := by
  rw [readBE32, readSlice_ok h]
  rfl

/-! ### Searching -/

/-- The first position at which `pat` occurs. -/
def indexOf (pat : Bytes) : Bytes → Option ℕ
  | [] => if pat = [] then some 0 else none
  | b :: bs => if pat <+: b :: bs then some 0 else (indexOf pat bs).map (· + 1)

lemma indexOf_le {pat bs : Bytes} {i : ℕ} (h : indexOf pat bs = some i) :
    i + pat.length ≤ bs.length := by
  induction bs generalizing i with
  | nil =>
      rw [indexOf] at h
      split_ifs at h with hp
      simp_all
  | cons b bs ih =>
      rw [indexOf] at h
      split_ifs at h with hp
      · rw [Option.some.injEq] at h
        have hle := hp.length_le
        omega
      · obtain ⟨j, hj, rfl⟩ := Option.map_eq_some_iff.mp h
        have hle := ih hj
        rw [List.length_cons]
        omega

/-- An occurrence that was found stays the first one, whatever is appended. -/
lemma indexOf_append {pat bs : Bytes} {i : ℕ} (h : indexOf pat bs = some i) (c : Bytes) :
    indexOf pat (bs ++ c) = some i := by
  induction bs generalizing i with
  | nil =>
      rw [indexOf] at h
      split_ifs at h with hp
      cases c <;> simp_all [indexOf]
  | cons b bs ih =>
      rw [indexOf] at h
      rw [List.cons_append, indexOf]
      split_ifs at h with hp
      · have hc : pat <+: b :: (bs ++ c) := hp.trans (List.prefix_append (b :: bs) c)
        rw [if_pos hc, h]
      · obtain ⟨j, hj, rfl⟩ := Option.map_eq_some_iff.mp h
        -- the pattern fits into `bs`, so it cannot start at `b` by reaching into `c`
        have hno : ¬ pat <+: b :: (bs ++ c) := by
          intro hc
          have hle := indexOf_le hj
          exact hp (List.prefix_of_prefix_length_le hc
            (List.prefix_append (b :: bs) c) (by rw [List.length_cons]; omega))
        rw [if_neg hno, ih hj]
        rfl

/-- Nothing is found in a string that does not contain the pattern. -/
lemma indexOf_eq_none {pat bs : Bytes} (h : ¬ pat <:+: bs) : indexOf pat bs = none := by
  induction bs with
  | nil =>
      have hne : pat ≠ [] := fun h0 => h (by rw [h0])
      rw [indexOf, if_neg hne]
  | cons b bs ih =>
      have hhead : ¬ pat <+: b :: bs := fun hp => h hp.isInfix
      have htail : ¬ pat <:+: bs := fun hp => h (hp.trans (List.suffix_cons b bs).isInfix)
      rw [indexOf, if_neg hhead, ih htail, Option.map_none]

/-- The pattern is found where it starts, if neither lies before nor reaches
across. -/
lemma indexOf_of_first {pat pre bs : Bytes} (hpat : pat <+: bs)
    (hfirst : ¬ pat <:+: pre ++ pat.dropLast) : indexOf pat (pre ++ bs) = some pre.length := by
  induction pre with
  | nil =>
      cases bs with
      | nil =>
          rw [List.prefix_nil.mp hpat]
          rfl
      | cons b bs =>
          rw [List.nil_append, indexOf, if_pos hpat]
          rfl
  | cons b pre ih =>
      have hhead : ¬ pat <+: b :: (pre ++ bs) := by
        intro hp
        have hrest : pat.dropLast <+: bs := (List.dropLast_prefix pat).trans hpat
        refine hfirst (List.IsPrefix.isInfix (List.prefix_of_prefix_length_le hp
          ((List.prefix_append_right_inj (b :: pre)).mpr hrest) ?_))
        rw [List.length_append, List.length_cons, List.length_dropLast]
        omega
      have htail : ¬ pat <:+: pre ++ pat.dropLast := fun hp =>
        hfirst (hp.trans (List.suffix_cons b _).isInfix)
      rw [List.cons_append, indexOf, if_neg hhead, ih htail, Option.map_some, List.length_cons]

/-- Addition of two `int` values: a result outside of the 32-bit range is
undefined behaviour. -/
def addInt (a b : ℤ) : Checked ℤ :=
  if -2 ^ 31 ≤ a + b ∧ a + b < 2 ^ 31 then .ok (a + b) else .error .signedOverflow

lemma addInt_ok {a b : ℤ} (h : -2 ^ 31 ≤ a + b ∧ a + b < 2 ^ 31) : addInt a b = .ok (a + b) :=
  if_pos h

/-- The cast of an unsigned 32-bit value to `int` reads it in two's
complement. -/
lemma toInt_toInt32 (v : UInt32) :
    v.toInt32.toInt = if v.toNat < 2 ^ 31 then (v.toNat : ℤ) else (v.toNat : ℤ) - 2 ^ 32 := by
  have hv : v.toNat < 2 ^ 32 := v.toNat_lt
  have h : v.toInt32.toInt = (v.toNat : ℤ).bmod (2 ^ 32) := BitVec.toInt_eq_toNat_bmod _
  rw [h, Int.bmod_def]
  split_ifs <;> omega
