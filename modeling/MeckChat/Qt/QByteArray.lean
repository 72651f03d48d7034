import MeckChat.Qt.QString

/-!
Numbers and Base64 in `QByteArray`.

* `toBase64` is the text of a byte string and `fromBase64` the lenient decoder, which
  skips every byte that is no digit; `fromBase64_toBase64` is the round trip.
* `length_fromBase64` counts what is decoded: the text of 32 bytes has 43 digits.
* `fromBase64_trimmed`: white space around a text does not matter.
* `number` is the decimal text of an integer.
-/

namespace QByteArray

/-! ### Digits -/

/-- The digit of a value below 64. -/
def digit (n : ℕ) : Char :=
  "ABCDEFGHIJKLMNOPQRSTUVWXYZabcdefghijklmnopqrstuvwxyz0123456789+/".toList.getD n 'A'

/-- The value of a digit. -/
def value? (ch : UInt8) : Option ℕ :=
  if 65 ≤ ch ∧ ch ≤ 90 then some (ch.toNat - 65)
  else if 97 ≤ ch ∧ ch ≤ 122 then some (ch.toNat - 97 + 26)
  else if 48 ≤ ch ∧ ch ≤ 57 then some (ch.toNat - 48 + 52)
  else if ch = 43 then some 62
  else if ch = 47 then some 63
  else none

/-- A digit is one byte, which has its value. -/
lemma encode_digit {n : ℕ} (h : n < 64) :
    ∃ ch, String.utf8EncodeChar (digit n) = [ch] ∧ value? ch = some n := by
  have hall : ∀ n < 64, String.utf8EncodeChar (digit n) = [UInt8.ofNat (digit n).toNat] ∧
      value? (UInt8.ofNat (digit n).toNat) = some n := by decide +kernel
  exact ⟨_, hall n h⟩

lemma value?_padding : value? 61 = none := by decide

/-! ### Encoding and decoding -/

/-- The characters of `QByteArray::toBase64`. -/
def base64Chars : Bytes → List Char
  | [] => []
  | [a] => [digit (a.toNat / 4), digit (a.toNat % 4 * 16), '=', '=']
  | [a, b] =>
      [digit (a.toNat / 4), digit (a.toNat % 4 * 16 + b.toNat / 16), digit (b.toNat % 16 * 4), '=']
  | a :: b :: c :: rest =>
      digit (a.toNat / 4) :: digit (a.toNat % 4 * 16 + b.toNat / 16) ::
        digit (b.toNat % 16 * 4 + c.toNat / 64) :: digit (c.toNat % 64) :: base64Chars rest

/-- `QByteArray::toBase64`, as the text it is assigned to. -/
def toBase64 (bs : Bytes) : String := String.ofList (base64Chars bs)

/-- The loop of `QByteArray::fromBase64`, with `nbits` bits of output in `buf`. -/
def decodeLoop (buf nbits : ℕ) : Bytes → Bytes
  | [] => []
  | ch :: cs =>
      match value? ch with
      | none => decodeLoop buf nbits cs
      | some d =>
          if nbits + 6 ≥ 8 then
            UInt8.ofNat ((buf * 64 + d) / 2 ^ (nbits + 6 - 8)) ::
              decodeLoop ((buf * 64 + d) % 2 ^ (nbits + 6 - 8)) (nbits + 6 - 8) cs
          else decodeLoop (buf * 64 + d) (nbits + 6) cs

/-- `QByteArray::fromBase64`, which ignores what it cannot decode. -/
def fromBase64 (base64 : Bytes) : Bytes := decodeLoop 0 0 base64

lemma decodeLoop_none {buf nbits : ℕ} {ch : UInt8} (h : value? ch = none) (cs : Bytes) :
    decodeLoop buf nbits (ch :: cs) = decodeLoop buf nbits cs := by
  rw [decodeLoop, h]

/-- A digit that completes a byte. -/
lemma decodeLoop_emit {buf nbits d : ℕ} {ch : UInt8} (h : value? ch = some d) (hn : 2 ≤ nbits)
    (cs : Bytes) : decodeLoop buf nbits (ch :: cs) =
      UInt8.ofNat ((buf * 64 + d) / 2 ^ (nbits - 2)) ::
        decodeLoop ((buf * 64 + d) % 2 ^ (nbits - 2)) (nbits - 2) cs := by
  have hsub : nbits + 6 - 8 = nbits - 2 := by omega
  simp only [decodeLoop, h, hsub]
  rw [if_pos (by omega)]

/-- A digit that does not. -/
lemma decodeLoop_keep {buf nbits d : ℕ} {ch : UInt8} (h : value? ch = some d) (hn : nbits < 2)
    (cs : Bytes) : decodeLoop buf nbits (ch :: cs) =
      decodeLoop (buf * 64 + d) (nbits + 6) cs := by
  simp only [decodeLoop, h]
  rw [if_neg (by omega)]

/-! ### The round trip -/

lemma ofNat_toNat_of_eq {n : ℕ} {a : UInt8} (h : n = a.toNat) : UInt8.ofNat n = a := by
  rw [h, UInt8.ofNat_toNat]

/-- The bytes of a digit, decoded. -/
lemma decode_chars {n : ℕ} (h : n < 64) (cs : List Char) :
    ∃ ch, (digit n :: cs).flatMap String.utf8EncodeChar =
      ch :: cs.flatMap String.utf8EncodeChar ∧ value? ch = some n := by
  obtain ⟨ch, hch, hvalue⟩ := encode_digit h
  refine ⟨ch, ?_, hvalue⟩
  rw [List.flatMap_cons, hch, List.singleton_append]

/-- **Round trip of Base64.** -/
theorem fromBase64_toBase64 (bs : Bytes) :
    fromBase64 (QString.toUtf8 (toBase64 bs)) = bs := by
  rw [fromBase64, QString.toUtf8, toBase64, String.toList_ofList]
  induction bs using base64Chars.induct with
  | case1 => rfl
  | case2 a =>
      have ha := a.toNat_lt
      obtain ⟨c₁, h₁, v₁⟩ := decode_chars (n := a.toNat / 4) (by omega)
        [digit (a.toNat % 4 * 16), '=', '=']
      obtain ⟨c₂, h₂, v₂⟩ := decode_chars (n := a.toNat % 4 * 16) (by omega) ['=', '=']
      rw [base64Chars, h₁, h₂, decodeLoop_keep v₁ (by omega), decodeLoop_emit v₂ (by omega)]
      have hpad : ['=', '='].flatMap String.utf8EncodeChar = [61, 61] := by decide
      rw [hpad, decodeLoop_none value?_padding, decodeLoop_none value?_padding, decodeLoop,
        ofNat_toNat_of_eq]
      omega
  | case3 a b =>
      have ha := a.toNat_lt
      have hb := b.toNat_lt
      obtain ⟨c₁, h₁, v₁⟩ := decode_chars (n := a.toNat / 4) (by omega)
        [digit (a.toNat % 4 * 16 + b.toNat / 16), digit (b.toNat % 16 * 4), '=']
      obtain ⟨c₂, h₂, v₂⟩ := decode_chars (n := a.toNat % 4 * 16 + b.toNat / 16) (by omega)
        [digit (b.toNat % 16 * 4), '=']
      obtain ⟨c₃, h₃, v₃⟩ := decode_chars (n := b.toNat % 16 * 4) (by omega) ['=']
      rw [base64Chars, h₁, h₂, h₃, decodeLoop_keep v₁ (by omega), decodeLoop_emit v₂ (by omega),
        decodeLoop_emit v₃ (by omega)]
      have hpad : ['='].flatMap String.utf8EncodeChar = [61] := by decide
      rw [hpad, decodeLoop_none value?_padding, decodeLoop, ofNat_toNat_of_eq (a := a) (by omega),
        ofNat_toNat_of_eq (a := b) (by omega)]
  | case4 a b c rest ih =>
      have ha := a.toNat_lt
      have hb := b.toNat_lt
      have hc := c.toNat_lt
      obtain ⟨c₁, h₁, v₁⟩ := decode_chars (n := a.toNat / 4) (by omega)
        (digit (a.toNat % 4 * 16 + b.toNat / 16) :: digit (b.toNat % 16 * 4 + c.toNat / 64) ::
          digit (c.toNat % 64) :: base64Chars rest)
      obtain ⟨c₂, h₂, v₂⟩ := decode_chars (n := a.toNat % 4 * 16 + b.toNat / 16) (by omega)
        (digit (b.toNat % 16 * 4 + c.toNat / 64) :: digit (c.toNat % 64) :: base64Chars rest)
      obtain ⟨c₃, h₃, v₃⟩ := decode_chars (n := b.toNat % 16 * 4 + c.toNat / 64) (by omega)
        (digit (c.toNat % 64) :: base64Chars rest)
      obtain ⟨c₄, h₄, v₄⟩ := decode_chars (n := c.toNat % 64) (by omega) (base64Chars rest)
      rw [base64Chars, h₁, h₂, h₃, h₄, decodeLoop_keep v₁ (by omega), decodeLoop_emit v₂ (by omega),
        decodeLoop_emit v₃ (by omega), decodeLoop_emit v₄ (by omega),
        ofNat_toNat_of_eq (a := a) (by omega), ofNat_toNat_of_eq (a := b) (by omega),
        ofNat_toNat_of_eq (a := c) (by omega)]
      have hbuf : ∀ n, n % 2 ^ (0 + 6 - 2 - 2 - 2) = 0 := fun n => Nat.mod_one n
      rw [hbuf]
      exact congrArg (fun rest => a :: b :: c :: rest) ih

/-! ### How much is decoded -/

/-- Whether a byte is a digit. -/
def isDigit (ch : UInt8) : Bool := (value? ch).isSome

/-- Six bits for every digit. -/
lemma length_decodeLoop {buf nbits : ℕ} (h : nbits < 8) (cs : Bytes) :
    (decodeLoop buf nbits cs).length = (nbits + 6 * cs.countP isDigit) / 8 := by
  induction cs generalizing buf nbits with
  | nil =>
      rw [decodeLoop, List.countP_nil, List.length_nil]
      omega
  | cons ch cs ih =>
      cases hd : value? ch with
      | none =>
          have hdigit : ¬ isDigit ch = true := by simp [isDigit, hd]
          rw [decodeLoop_none hd, ih h, List.countP_cons_of_neg hdigit]
      | some d =>
          have hdigit : isDigit ch = true := by simp [isDigit, hd]
          rw [List.countP_cons_of_pos hdigit]
          by_cases hn : 2 ≤ nbits
          · rw [decodeLoop_emit hd hn, List.length_cons, ih (by omega)]
            omega
          · rw [decodeLoop_keep hd (by omega), ih (by omega)]
            omega

lemma length_fromBase64 (cs : Bytes) :
    (fromBase64 cs).length = 6 * cs.countP isDigit / 8 := by
  rw [fromBase64, length_decodeLoop (by omega), Nat.zero_add]

/-- What decodes to 32 bytes has 43 digits. -/
lemma countP_eq_of_length {cs : Bytes} (h : (fromBase64 cs).length = 32) :
    cs.countP isDigit = 43 := by
  rw [length_fromBase64] at h
  omega

/-! ### White space -/

/-- The decoder does not see what is no digit. -/
lemma decodeLoop_filter (buf nbits : ℕ) (cs : Bytes) :
    decodeLoop buf nbits (cs.filter isDigit) = decodeLoop buf nbits cs := by
  fun_induction decodeLoop buf nbits cs with
  | case1 => rfl
  | case2 buf nbits ch cs h ih =>
      rw [List.filter_cons_of_neg (by rw [isDigit, h]; decide), ih]
  | case3 buf nbits ch cs d h hn ih =>
      rw [List.filter_cons_of_pos (by rw [isDigit, h]; rfl), decodeLoop, h]
      simp only [if_pos hn, ih]
  | case4 buf nbits ch cs d h hn ih =>
      rw [List.filter_cons_of_pos (by rw [isDigit, h]; rfl), decodeLoop, h]
      simp only [if_neg hn, ih]

/-- The code points of white space. -/
def spaces : List ℕ :=
  [0x20, 0x09, 0x0A, 0x0B, 0x0C, 0x0D, 0x85, 0xA0, 0x1680, 0x2000, 0x2001, 0x2002, 0x2003, 0x2004,
    0x2005, 0x2006, 0x2007, 0x2008, 0x2009, 0x200A, 0x2028, 0x2029, 0x202F, 0x205F, 0x3000]

/-- White space has no digits. -/
lemma filter_isDigit_of_isSpace {c : Char} (h : QString.isSpace c = true) :
    (String.utf8EncodeChar c).filter isDigit = [] := by
  have hall : ∀ n ∈ spaces, (String.utf8EncodeChar (Char.ofNat n)).filter isDigit = [] := by
    decide
  have hmem : c.toNat ∈ spaces := by
    simp only [QString.isSpace, Bool.or_eq_true, Bool.and_eq_true, decide_eq_true_eq] at h
    simp only [spaces, List.mem_cons, List.not_mem_nil, or_false]
    omega
  have hspace := hall _ hmem
  rwa [Char.ofNat_toNat] at hspace

lemma filter_isDigit_dropWhile (cs : List Char) :
    ((cs.dropWhile QString.isSpace).flatMap String.utf8EncodeChar).filter isDigit =
      (cs.flatMap String.utf8EncodeChar).filter isDigit := by
  induction cs with
  | nil => rfl
  | cons c cs ih =>
      rw [List.dropWhile_cons]
      split_ifs with h
      · rw [ih, List.flatMap_cons, List.filter_append, filter_isDigit_of_isSpace h, List.nil_append]
      · rfl

lemma filter_isDigit_rdropWhile (cs : List Char) :
    ((cs.rdropWhile QString.isSpace).flatMap String.utf8EncodeChar).filter isDigit =
      (cs.flatMap String.utf8EncodeChar).filter isDigit := by
  induction cs using List.reverseRecOn with
  | nil => rfl
  | append_singleton cs c ih =>
      by_cases h : QString.isSpace c = true
      · rw [List.rdropWhile_concat_pos _ _ _ h, ih, List.flatMap_append, List.filter_append,
          List.flatMap_singleton, filter_isDigit_of_isSpace h, List.append_nil]
      · rw [List.rdropWhile_concat_neg _ _ _ h]

/-- White space around a text does not change what it decodes to. -/
theorem fromBase64_trimmed (s : String) :
    fromBase64 (QString.toUtf8 (QString.trimmed s)) = fromBase64 (QString.toUtf8 s) := by
  rw [fromBase64, ← decodeLoop_filter, QString.toUtf8, QString.trimmed, String.toList_ofList,
    filter_isDigit_rdropWhile, filter_isDigit_dropWhile, decodeLoop_filter]
  rfl

lemma base64Chars_ne_nil {bs : Bytes} (h : bs ≠ []) : base64Chars bs ≠ [] := by
  cases bs using base64Chars.fun_cases with
  | case1 => exact absurd rfl h
  | case2 a => exact List.cons_ne_nil _ _
  | case3 a b => exact List.cons_ne_nil _ _
  | case4 a b c rest => exact List.cons_ne_nil _ _

lemma toBase64_ne_empty {bs : Bytes} (h : bs ≠ []) : toBase64 bs ≠ "" := by
  intro hempty
  have hchars := congrArg String.toList hempty
  rw [toBase64, String.toList_ofList] at hchars
  exact base64Chars_ne_nil h hchars

/-! ### Numbers -/

/-- `QByteArray::number`. -/
def number (n : ℤ) : Bytes := QString.toUtf8 (toString n)

/-- Whether a byte is a decimal digit. -/
def isDecimal (ch : UInt8) : Bool := 48 ≤ ch && ch ≤ 57

/-- A decimal digit is a digit of Base64. -/
lemma isDigit_of_isDecimal {ch : UInt8} (h : isDecimal ch = true) : isDigit ch = true := by
  rw [isDecimal, Bool.and_eq_true, decide_eq_true_eq, decide_eq_true_eq] at h
  rw [isDigit, value?]
  split_ifs <;> simp_all

lemma number_natCast (m : ℕ) :
    number m = (Nat.toDigits 10 m).flatMap String.utf8EncodeChar := by
  rw [number, Int.toString_eq_repr, Int.repr_eq_if, if_pos (Int.natCast_nonneg m), QString.toUtf8,
    Int.toNat_natCast, Nat.toList_repr]

lemma number_neg {n : ℤ} (hn : n < 0) : number n = 45 :: number (-n) := by
  have hsign : QString.toUtf8 "-" = [45] := by decide
  have hpos : ¬ 0 ≤ n := by omega
  have hneg : 0 ≤ -n := by omega
  rw [number, number, Int.toString_eq_repr, Int.toString_eq_repr, Int.repr_eq_if, if_neg hpos,
    Int.repr_eq_if, if_pos hneg, QString.toUtf8_append, hsign]
  rfl

/-- A number that is not negative is a text of decimal digits. -/
lemma isDecimal_of_mem_number {n : ℤ} (hn : 0 ≤ n) {ch : UInt8} (h : ch ∈ number n) :
    isDecimal ch = true := by
  obtain ⟨m, rfl⟩ := Int.eq_ofNat_of_zero_le hn
  rw [number_natCast, List.mem_flatMap] at h
  obtain ⟨c, hc, hch⟩ := h
  have hdigit := Nat.isDigit_of_mem_toDigits (by decide) (by decide) hc
  rw [Char.isDigit, Bool.and_eq_true, decide_eq_true_eq, decide_eq_true_eq] at hdigit
  have hlo : 48 ≤ c.toNat := hdigit.1
  have hhi : c.toNat < 58 := Nat.lt_succ_of_le hdigit.2
  have hall : ∀ k < 58, 48 ≤ k → ∀ ch ∈ String.utf8EncodeChar (Char.ofNat k),
      isDecimal ch = true := by decide +kernel
  rw [← Char.ofNat_toNat c] at hch
  exact hall _ hhi hlo ch hch

lemma number_ne_nil_of_nonneg {n : ℤ} (hn : 0 ≤ n) : number n ≠ [] := by
  obtain ⟨m, rfl⟩ := Int.eq_ofNat_of_zero_le hn
  rw [number_natCast]
  intro h
  have hle := QString.length_le_length_toUtf8 (Nat.toDigits 10 m)
  rw [h, List.length_nil, Nat.le_zero, List.length_eq_zero_iff] at hle
  exact Nat.toDigits_ne_nil hle

lemma number_ne_nil (n : ℤ) : number n ≠ [] := by
  rcases lt_or_ge n 0 with hn | hn
  · rw [number_neg hn]
    exact List.cons_ne_nil _ _
  · exact number_ne_nil_of_nonneg hn

/-- Numbers that are not negative and have one text are equal. -/
lemma number_inj {m n : ℤ} (hm : 0 ≤ m) (hn : 0 ≤ n) (h : number m = number n) : m = n := by
  obtain ⟨m, rfl⟩ := Int.eq_ofNat_of_zero_le hm
  obtain ⟨n, rfl⟩ := Int.eq_ofNat_of_zero_le hn
  have htext : ∀ k : ℕ, (toString (k : ℤ)).toList = Nat.toDigits 10 k := by
    intro k
    rw [Int.toString_eq_repr, Int.repr_eq_if, if_pos (Int.natCast_nonneg k), Int.toNat_natCast,
      Nat.repr, String.toList_ofList]
  have hdigits : Nat.toDigits 10 m = Nat.toDigits 10 n := by
    rw [← htext, ← htext, QString.toUtf8_injective h]
  have hvalue := congrArg (Nat.ofDigitChars 10 · 0) hdigits
  simp only [Nat.ofDigitChars_ten_toDigits] at hvalue
  rw [hvalue]

/-- A number ends in a decimal digit. -/
lemma isDecimal_getLast_number (n : ℤ) :
    isDecimal ((number n).getLast (number_ne_nil n)) = true := by
  rcases lt_or_ge n 0 with hn | hn
  · have hneg : 0 ≤ -n := by omega
    have hlast : (number n).getLast (number_ne_nil n) = (number (-n)).getLast (number_ne_nil _) := by
      simp only [number_neg hn, List.getLast_cons (number_ne_nil (-n))]
    rw [hlast]
    exact isDecimal_of_mem_number hneg (List.getLast_mem _)
  · exact isDecimal_of_mem_number hn (List.getLast_mem _)

end QByteArray
