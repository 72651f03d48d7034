import Mathlib.Data.List.DropRight
import Mathlib.Data.String.Basic
import MeckChat.Foundation.Bytes

/-!
The operations of `QString` and `QByteArray` that the program uses, over
Lean's `String` and over byte strings.

* `toUtf8` and `fromUtf8`: a malformed byte decodes to U+FFFD and a leading
  byte order mark is dropped; `fromUtf8_toUtf8` is the round trip and
  `toUtf8_injective` what it says about comparing encodings.
* `trimmed`, `remove`, `removeDotDot`, `fileName`: the text operations behind file
  names and transfer ids; each leaves a text alone in which it finds nothing to do
  (`trimmed_eq_self`, `remove_eq_self`, `removeDotDot_eq_self`, `fileName_eq_self`).
* `toHex` is the lower-case hexadecimal text of a byte string and `equalCI`
  comparison without regard to case.
-/

namespace QString

/-! ### UTF-8 -/

/-- `QString::toUtf8`. -/
def toUtf8 (s : String) : Bytes := s.toList.flatMap String.utf8EncodeChar

/-- The code points of a byte string, in at most `fuel` of them; a byte that
starts no well-formed sequence is replaced by U+FFFD. -/
def decodeUtf8 : ℕ → Bytes → List Char
  | 0, _ => []
  | _ + 1, [] => []
  | fuel + 1, b :: bs =>
      match ByteArray.utf8DecodeChar? (b :: bs).toByteArray 0 with
      | some c => c :: decodeUtf8 fuel ((b :: bs).drop c.utf8Size)
      | none => Char.ofNat 0xFFFD :: decodeUtf8 fuel bs

/-- The byte order mark U+FEFF. -/
def byteOrderMark : Char := Char.ofNat 0xFEFF

/-- `QString::fromUtf8`. -/
def fromUtf8 (bs : Bytes) : String :=
  let cs := decodeUtf8 bs.length bs
  String.ofList (if cs.head? = some byteOrderMark then cs.tail else cs)

@[simp] lemma toUtf8_append (s t : String) : toUtf8 (s ++ t) = toUtf8 s ++ toUtf8 t := by
  simp [toUtf8]

/-- One encoded code point in front is decoded first. -/
lemma utf8DecodeChar?_encode_append (c : Char) (rest : Bytes) :
    ByteArray.utf8DecodeChar? (String.utf8EncodeChar c ++ rest).toByteArray 0 = some c := by
  rw [List.toByteArray_append]
  have h : (String.utf8EncodeChar c).toByteArray = [c].utf8Encode := by simp [List.utf8Encode]
  rw [h]
  exact List.utf8DecodeChar?_utf8Encode_singleton_append

lemma decodeUtf8_encode_append (c : Char) (rest : Bytes) (fuel : ℕ) :
    decodeUtf8 (fuel + 1) (String.utf8EncodeChar c ++ rest) = c :: decodeUtf8 fuel rest := by
  have hdec := utf8DecodeChar?_encode_append c rest
  have hlen : (String.utf8EncodeChar c).length = c.utf8Size := String.length_utf8EncodeChar c
  have hpos : 0 < c.utf8Size := c.utf8Size_pos
  cases henc : String.utf8EncodeChar c with
  | nil => simp [henc] at hlen; omega
  | cons b bs =>
      rw [henc, List.cons_append] at hdec
      have hdrop : (b :: (bs ++ rest)).drop c.utf8Size = rest := by
        rw [← List.cons_append, ← hlen, henc, List.drop_left]
      rw [List.cons_append, decodeUtf8]
      simp only [hdec, hdrop]

/-- An encoded text in front is decoded first, whatever the fuel beyond it. -/
lemma decodeUtf8_toUtf8_append (cs : List Char) (rest : Bytes) (fuel : ℕ) :
    decodeUtf8 (cs.length + fuel) (cs.flatMap String.utf8EncodeChar ++ rest) =
      cs ++ decodeUtf8 fuel rest := by
  induction cs with
  | nil => simp
  | cons c cs ih =>
      have hfuel : (c :: cs).length + fuel = cs.length + fuel + 1 := by
        rw [List.length_cons]
        omega
      rw [hfuel, List.flatMap_cons, List.append_assoc, decodeUtf8_encode_append, ih,
        List.cons_append]

lemma length_le_length_toUtf8 (cs : List Char) :
    cs.length ≤ (cs.flatMap String.utf8EncodeChar).length := by
  induction cs with
  | nil => simp
  | cons c cs ih =>
      have hpos : 0 < c.utf8Size := c.utf8Size_pos
      rw [List.flatMap_cons, List.length_append, String.length_utf8EncodeChar, List.length_cons]
      omega

lemma decodeUtf8_nil (fuel : ℕ) : decodeUtf8 fuel [] = [] := by
  cases fuel <;> rfl

lemma decodeUtf8_toUtf8 (s : String) : decodeUtf8 (toUtf8 s).length (toUtf8 s) = s.toList := by
  have hle := length_le_length_toUtf8 s.toList
  have hfuel : (toUtf8 s).length = s.toList.length + ((toUtf8 s).length - s.toList.length) := by
    rw [toUtf8]
    omega
  have h := decodeUtf8_toUtf8_append s.toList [] ((toUtf8 s).length - s.toList.length)
  rw [← hfuel, List.append_nil, decodeUtf8_nil, List.append_nil] at h
  exact h

/-- **Round trip of UTF-8.** A text that does not begin with a byte order mark
comes back. -/
theorem fromUtf8_toUtf8 {s : String} (h : s.toList.head? ≠ some byteOrderMark) :
    fromUtf8 (toUtf8 s) = s := by
  rw [fromUtf8]
  simp only [decodeUtf8_toUtf8, if_neg h, String.ofList_toList]

/-- Texts with one encoding are equal. -/
theorem toUtf8_injective : Function.Injective toUtf8 := by
  intro s t h
  have hs := decodeUtf8_toUtf8 s
  rw [h, decodeUtf8_toUtf8] at hs
  exact (String.toList_inj.mp hs).symm

/-! ### Trimming and file names -/

/-- `QChar::isSpace`: the separators of Unicode and the white space among the
control characters. -/
def isSpace (c : Char) : Bool :=
  let v := c.toNat
  v = 0x20 || (0x09 ≤ v && v ≤ 0x0D) || v = 0x85 || v = 0xA0 || v = 0x1680 ||
    (0x2000 ≤ v && v ≤ 0x200A) || v = 0x2028 || v = 0x2029 || v = 0x202F || v = 0x205F ||
    v = 0x3000

/-- `QString::trimmed`. -/
def trimmed (s : String) : String :=
  String.ofList ((s.toList.dropWhile isSpace).rdropWhile isSpace)

/-- A text whose ends are no white space is trimmed already. -/
lemma trimmed_eq_self {cs : List Char} (hhead : ∀ c ∈ cs.head?, isSpace c = false)
    (hlast : ∀ c ∈ cs.getLast?, isSpace c = false) :
    trimmed (String.ofList cs) = String.ofList cs := by
  have hdrop : cs.dropWhile isSpace = cs := by
    cases cs with
    | nil => rfl
    | cons c cs => simp [hhead c (by simp)]
  have hrdrop : cs.rdropWhile isSpace = cs := by
    rw [List.rdropWhile_eq_self_iff]
    intro hne
    have hmem := hlast (cs.getLast hne) (by simp [List.getLast?_eq_some_getLast hne])
    simp [hmem]
  rw [trimmed, String.toList_ofList, hdrop, hrdrop]

/-- `QString::replace(c, "")`. -/
def remove (c : Char) (s : String) : String := String.ofList (s.toList.filter (· ≠ c))

/-- `QString::replace(a, b)` for characters. -/
def replaceChar (a b : Char) (s : String) : String :=
  String.ofList (s.toList.map fun c => if c = a then b else c)

/-- `QString::replace("..", "")`, from the left, on characters. -/
def dropDotDot : List Char → List Char
  | '.' :: '.' :: cs => dropDotDot cs
  | c :: cs => c :: dropDotDot cs
  | [] => []

/-- `QString::replace("..", "")`. -/
def removeDotDot (s : String) : String := String.ofList (dropDotDot s.toList)

/-- The text after the last slash, as `QFileInfo::fileName`. -/
def fileName (s : String) : String := String.ofList (s.toList.rtakeWhile (· ≠ '/'))

lemma mem_toList_trimmed {c : Char} {s : String} (h : c ∈ (trimmed s).toList) : c ∈ s.toList := by
  rw [trimmed, String.toList_ofList] at h
  exact (List.dropWhile_sublist _).subset ((List.rdropWhile_prefix _ _).subset h)

lemma mem_toList_remove {a c : Char} {s : String} :
    c ∈ (remove a s).toList ↔ c ∈ s.toList ∧ c ≠ a := by
  rw [remove, String.toList_ofList, List.mem_filter, decide_eq_true_eq]

lemma mem_toList_removeDotDot {c : Char} {s : String} (h : c ∈ (removeDotDot s).toList) :
    c ∈ s.toList := by
  rw [removeDotDot, String.toList_ofList] at h
  revert h
  induction s.toList using dropDotDot.induct with
  | case1 cs ih =>
      rw [dropDotDot]
      exact fun h => List.mem_cons_of_mem _ (List.mem_cons_of_mem _ (ih h))
  | case2 a cs hcs ih =>
      rw [dropDotDot]
      · intro h
        rcases List.mem_cons.mp h with rfl | h
        · exact List.mem_cons_self
        · exact List.mem_cons_of_mem _ (ih h)
      · exact hcs
  | case3 => exact id

/-! ### When a text operation finds nothing to do -/

lemma replaceChar_eq_self {a : Char} (b : Char) {s : String} (h : a ∉ s.toList) :
    replaceChar a b s = s := by
  have hid : s.toList.map (fun c => if c = a then b else c) = s.toList.map id := by
    apply List.map_congr_left
    intro c hc
    rw [if_neg (by rintro rfl; exact h hc), id]
  rw [replaceChar, hid, List.map_id, String.ofList_toList]

lemma remove_eq_self {a : Char} {s : String} (h : a ∉ s.toList) : remove a s = s := by
  have hfilter : s.toList.filter (· ≠ a) = s.toList := by
    rw [List.filter_eq_self]
    intro c hc
    rw [decide_eq_true_eq]
    rintro rfl
    exact h hc
  rw [remove, hfilter, String.ofList_toList]

lemma fileName_eq_self {s : String} (h : '/' ∉ s.toList) : fileName s = s := by
  have htake : s.toList.rtakeWhile (· ≠ '/') = s.toList := by
    rw [List.rtakeWhile_eq_self_iff]
    intro c hc
    rw [decide_eq_true_eq]
    rintro rfl
    exact h hc
  rw [fileName, htake, String.ofList_toList]

/-- A text that does not start with a dot does not do so without its pairs of dots. -/
lemma head?_dropDotDot {cs : List Char} (h : cs.head? ≠ some '.') :
    (dropDotDot cs).head? ≠ some '.' := by
  cases cs with
  | nil => rw [dropDotDot]; exact h
  | cons c cs =>
      have hc : c ≠ '.' := by
        rintro rfl
        exact h rfl
      rw [dropDotDot]
      · simpa using hc
      · rintro _ rfl
        exact absurd rfl hc

/-- **No pair of dots is left.** -/
lemma dropDotDot_no_pair (cs : List Char) : ¬ ['.', '.'] <:+: dropDotDot cs := by
  induction cs using dropDotDot.induct with
  | case1 cs ih =>
      rw [dropDotDot]
      exact ih
  | case2 c cs hpair ih =>
      rw [dropDotDot]
      · rw [List.infix_cons_iff, not_or]
        refine ⟨fun hprefix => ?_, ih⟩
        obtain ⟨rest, hrest⟩ := hprefix
        rw [List.cons_append, List.cons.injEq] at hrest
        obtain ⟨rfl, hrest⟩ := hrest
        -- what follows a single dot is no dot
        have hhead : cs.head? ≠ some '.' := by
          cases cs with
          | nil => simp
          | cons d ds =>
              intro hd
              rw [List.head?_cons, Option.some.injEq] at hd
              exact hpair ds rfl (by rw [hd])
        apply head?_dropDotDot hhead
        rw [← hrest]
        rfl
      · exact hpair
  | case3 =>
      rw [dropDotDot]
      simp

lemma dropDotDot_eq_self {cs : List Char} (h : ¬ ['.', '.'] <:+: cs) : dropDotDot cs = cs := by
  induction cs using dropDotDot.induct with
  | case1 cs ih => exact absurd ⟨[], cs, rfl⟩ h
  | case2 c cs hpair ih =>
      rw [List.infix_cons_iff, not_or] at h
      rw [dropDotDot, ih h.2]
      exact hpair
  | case3 => rfl

lemma removeDotDot_eq_self {s : String} (h : ¬ ['.', '.'] <:+: s.toList) : removeDotDot s = s := by
  rw [removeDotDot, dropDotDot_eq_self h, String.ofList_toList]

/-- What is trimmed is a part of the text. -/
lemma trimmed_infix (s : String) : (trimmed s).toList <:+: s.toList := by
  rw [trimmed, String.toList_ofList]
  exact (List.rdropWhile_prefix _ _).isInfix.trans (List.dropWhile_suffix _).isInfix

/-- A trimmed text does not end in white space. -/
lemma isSpace_getLast?_trimmed {s : String} {c : Char} (h : c ∈ (trimmed s).toList.getLast?) :
    isSpace c = false := by
  rw [trimmed, String.toList_ofList] at h
  obtain ⟨hne, rfl⟩ := List.mem_getLast?_eq_getLast h
  exact Bool.eq_false_of_not_eq_true (List.rdropWhile_last_not _ _ hne)

/-- Nor does it begin with it. -/
lemma isSpace_head?_trimmed {s : String} {c : Char} (h : c ∈ (trimmed s).toList.head?) :
    isSpace c = false := by
  rw [trimmed, String.toList_ofList] at h
  obtain ⟨rest, hrest⟩ := List.rdropWhile_prefix isSpace (s.toList.dropWhile isSpace)
  have hhead : (s.toList.dropWhile isSpace).head? = some c := by
    rw [← hrest, List.head?_append, h, Option.some_or]
  have hnot := List.head?_dropWhile_not isSpace s.toList
  rw [hhead] at hnot
  exact hnot

/-- `QString::left`. -/
def left (n : ℕ) (s : String) : String := String.ofList (s.toList.take n)

/-- What precedes the first `c`, and all of the text if there is none. -/
def upTo (c : Char) (s : String) : String := String.ofList (s.toList.takeWhile (· ≠ c))

/-- Only the null character is encoded with a null byte. -/
lemma utf8EncodeChar_ne_zero {c : Char} (h : c ≠ Char.ofNat 0) :
    ∀ b ∈ String.utf8EncodeChar c, b ≠ 0 := by
  have hpos : c.val.toNat ≠ 0 := by
    intro hzero
    refine h (Char.ext (UInt32.toNat_inj.mp ?_))
    rw [hzero]
    rfl
  have hlt : c.val.toNat < 1114112 := by
    have := c.valid
    rcases this with h | h <;> omega
  have hbyte : ∀ n : ℕ, n % 256 ≠ 0 → UInt8.ofNat n ≠ 0 := by
    intro n hn hzero
    have hval := congrArg UInt8.toNat hzero
    rw [UInt8.toNat_ofNat'] at hval
    exact hn hval
  intro b hb
  unfold String.utf8EncodeChar at hb
  dsimp only at hb
  split_ifs at hb
  · rw [List.mem_singleton.mp hb]
    exact hbyte _ (by omega)
  all_goals
    simp only [List.mem_cons, List.not_mem_nil, or_false] at hb
    rcases hb with rfl | rfl | rfl | rfl <;> exact hbyte _ (by omega)
/-- The bytes in front of the first null byte are those of the text in front of the first
null character. -/
lemma toUtf8_upTo_null (s : String) :
    toUtf8 (upTo (Char.ofNat 0) s) = (toUtf8 s).takeWhile (· ≠ 0) := by
  rw [upTo, toUtf8, toUtf8, String.toList_ofList]
  induction s.toList with
  | nil => rfl
  | cons c cs ih =>
      by_cases hc : c = Char.ofNat 0
      · have hnull : String.utf8EncodeChar (Char.ofNat 0) = [0] := by decide
        rw [hc, List.takeWhile_cons_of_neg (by simp), List.flatMap_nil, List.flatMap_cons,
          hnull, List.singleton_append, List.takeWhile_cons_of_neg (by simp)]
      · have hbytes : ∀ b ∈ String.utf8EncodeChar c, decide (b ≠ 0) = true :=
          fun b hb => decide_eq_true (utf8EncodeChar_ne_zero hc b hb)
        rw [List.takeWhile_cons_of_pos (by simpa using hc), List.flatMap_cons, ih,
          List.flatMap_cons, List.takeWhile_append_of_pos hbytes]

/-! ### Hexadecimal text and comparison -/

/-- The lower-case digit of a value below sixteen. -/
def hexDigit (n : ℕ) : Char := "0123456789abcdef".toList.getD n '0'

/-- `QByteArray::toHex`. -/
def toHex (bs : Bytes) : String :=
  String.ofList (bs.flatMap fun b => [hexDigit (b.toNat / 16), hexDigit (b.toNat % 16)])

lemma toHex_ne_empty {bs : Bytes} (h : bs ≠ []) : toHex bs ≠ "" := by
  cases bs with
  | nil => exact absurd rfl h
  | cons b bs =>
      intro hc
      simpa [toHex] using congrArg String.toList hc

/-- `a.compare(b, Qt::CaseInsensitive) == 0`, with the case folding of ASCII.
Beyond it no character folds to a hexadecimal digit. -/
def equalCI (a b : String) : Bool := a.toList.map Char.toLower = b.toList.map Char.toLower

@[simp] lemma equalCI_self (a : String) : equalCI a a = true := by simp [equalCI]

end QString
