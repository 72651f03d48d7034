import MeckChat.Qt.QMap
import MeckChat.Qt.QString

/-!
JSON objects and their text (`QJsonObject`, `QJsonDocument`).

* `JsonObject` is a `QMap` of values, with the conversions `toString`, `toInteger`, `toInt`
  and `toBool` of `QJsonValue`.
* `JsonCodec` is what the program relies on of `QJsonDocument`: a printer and
  a parser of which the parser undoes the printer.
* `compact` is the codec of compact JSON text: the printer of
  `QJsonDocument::Compact` and a parser for what it prints, with the round
  trip built from one lemma for each syntactic category.
-/

namespace QJson

/-- What the conversions of `QJsonValue` can see of a value. `integer` is a
number that `toInteger` converts, `number` any other one; the program never
looks into a nested array or object. -/
inductive JsonValue where
  | null
  | bool (b : Bool)
  | integer (v : ℤ)
  | number
  | string (s : String)
  | array
  | object
  deriving DecidableEq, Repr

/-- `QJsonObject`. -/
abbrev JsonObject := QMap String JsonValue

/-- `QJsonValue::toString`, on the value of a key or on `undefined`. -/
def toString (v : Option JsonValue) (defaultValue : String := "") : String :=
  match v with
  | some (.string s) => s
  | _ => defaultValue

/-- `QJsonValue::toInteger`. -/
def toInteger (v : Option JsonValue) (defaultValue : ℤ := 0) : ℤ :=
  match v with
  | some (.integer n) => n
  | _ => defaultValue

/-- `QJsonValue::toInt`. -/
def toInt (v : Option JsonValue) (defaultValue : ℤ := 0) : ℤ :=
  match v with
  | some (.integer n) => if -2 ^ 31 ≤ n ∧ n < 2 ^ 31 then n else defaultValue
  | _ => defaultValue

/-- `QJsonValue::toBool`. -/
def toBool (v : Option JsonValue) (defaultValue : Bool := false) : Bool :=
  match v with
  | some (.bool b) => b
  | _ => defaultValue

@[simp] lemma toString_string (s d : String) : toString (some (.string s)) d = s := rfl

@[simp] lemma toInteger_integer (n d : ℤ) : toInteger (some (.integer n)) d = n := rfl

@[simp] lemma toBool_bool (b d : Bool) : toBool (some (.bool b)) d = b := rfl

lemma toInt_integer {n d : ℤ} (h : -2 ^ 31 ≤ n ∧ n < 2 ^ 31) :
    toInt (some (.integer n)) d = n := if_pos h

/-- What a text parses to at its top level. -/
inductive JsonDocument where
  | object (o : JsonObject)
  | array

/-- `QJsonDocument::object`: the empty object for other documents, and for the
null document that a parse error leaves. -/
def JsonDocument.toObject : Option JsonDocument → JsonObject
  | some (.object o) => o
  | _ => ∅

/-- The printer and the parser of `QJsonDocument`; the parser undoes the
printer. -/
structure JsonCodec where
  toJson : JsonObject → Bytes
  fromJson : Bytes → Option JsonDocument
  fromJson_toJson : ∀ o, fromJson (toJson o) = some (.object o)

attribute [simp] JsonCodec.fromJson_toJson

@[simp] lemma JsonDocument.toObject_object (o : JsonObject) :
    JsonDocument.toObject (some (.object o)) = o := rfl

/-! ### Compact text: strings -/

/-- A character of a printed string. -/
def escape (c : Char) : List Char :=
  if c = '"' then ['\\', '"']
  else if c = '\\' then ['\\', '\\']
  else if c = '\n' then ['\\', 'n']
  else if c = '\r' then ['\\', 'r']
  else if c = '\t' then ['\\', 't']
  else if c.toNat = 8 then ['\\', 'b']
  else if c.toNat = 12 then ['\\', 'f']
  else if c.toNat < 32 then
    ['\\', 'u', '0', '0', QString.hexDigit (c.toNat / 16), QString.hexDigit (c.toNat % 16)]
  else [c]

/-- The value of a hexadecimal digit. -/
def hexValue (c : Char) : Option ℕ := "0123456789abcdef".toList.findIdx? (· = c)

/-- The characters an escape of one letter stands for. -/
def unescape : Char → Option Char
  | '"' => some '"'
  | '\\' => some '\\'
  | '/' => some '/'
  | 'n' => some '\n'
  | 'r' => some '\r'
  | 't' => some '\t'
  | 'b' => some (Char.ofNat 8)
  | 'f' => some (Char.ofNat 12)
  | _ => none

/-- One character of a string, escaped or not. -/
def parseChar : List Char → Option (Char × List Char)
  | '\\' :: 'u' :: a :: b :: c :: d :: cs => do
      let v := (((← hexValue a) * 16 + (← hexValue b)) * 16 + (← hexValue c)) * 16 + (← hexValue d)
      return (Char.ofNat v, cs)
  | '\\' :: c :: cs => (unescape c).map (·, cs)
  | c :: cs => some (c, cs)
  | [] => none

/-- The rest of a string behind its opening quote. -/
def parseString : ℕ → List Char → Option (List Char × List Char)
  | _ + 1, '"' :: cs => some ([], cs)
  | fuel + 1, cs =>
      match parseChar cs with
      | some (c, rest) => (parseString fuel rest).map fun (s, r) => (c :: s, r)
      | none => none
  | 0, _ => none

/-- A string in quotes. -/
def printString (s : String) : List Char := '"' :: (s.toList.flatMap escape ++ ['"'])

lemma head_escape_ne (c : Char) (cs : List Char) : ∃ d ds, d ≠ '"' ∧ escape c ++ cs = d :: ds := by
  rw [escape]
  split_ifs with h
  all_goals first
    | exact ⟨'\\', _, by decide, rfl⟩
    | exact ⟨c, cs, h, rfl⟩

/-- The control characters, one by one. -/
lemma parseChar_escape_control (cs : List Char) {n : ℕ} (h : n < 32) :
    parseChar (escape (Char.ofNat n) ++ cs) = some (Char.ofNat n, cs) := by
  interval_cases n <;> rfl

lemma parseChar_escape (c : Char) (cs : List Char) : parseChar (escape c ++ cs) = some (c, cs) := by
  by_cases h : c.toNat < 32
  · rw [← Char.ofNat_toNat c]
    exact parseChar_escape_control cs h
  · by_cases hq : c = '"'
    · subst hq
      rfl
    · by_cases hb : c = '\\'
      · subst hb
        rfl
      · have hesc : escape c = [c] := by
          rw [escape, if_neg hq, if_neg hb]
          split_ifs with h1 h2 h3 h4 h5 <;> first | rfl | (subst c; simp at h) | omega
        rw [hesc, List.singleton_append]
        unfold parseChar
        split <;> simp_all

/-- A printed string is read back, and what follows it is left. -/
lemma parseString_print (s cs : List Char) (fuel : ℕ) :
    parseString (s.length + 1 + fuel) (s.flatMap escape ++ '"' :: cs) = some (s, cs) := by
  induction s with
  | nil =>
      rw [show ([] : List Char).length + 1 + fuel = fuel + 1 by simp [Nat.add_comm]]
      rfl
  | cons c s ih =>
      obtain ⟨d, ds, hd, heq⟩ := head_escape_ne c (s.flatMap escape ++ '"' :: cs)
      have hchar := parseChar_escape c (s.flatMap escape ++ '"' :: cs)
      rw [List.flatMap_cons, List.append_assoc,
        show (c :: s).length + 1 + fuel = s.length + 1 + fuel + 1 by simp; omega]
      rw [heq] at hchar ⊢
      rw [parseString]
      · simp [hchar, ih]
      · rintro cs' ⟨⟩
        exact hd rfl

lemma parseString_printString (s : String) (cs : List Char) {fuel : ℕ}
    (h : s.toList.length < fuel) :
    parseString fuel (s.toList.flatMap escape ++ '"' :: cs) = some (s.toList, cs) := by
  obtain ⟨k, rfl⟩ := Nat.exists_eq_add_of_lt h
  rw [show s.toList.length + k + 1 = s.toList.length + 1 + k by omega]
  exact parseString_print s.toList cs k

lemma length_le_length_printString (s : String) :
    s.toList.length + 2 ≤ (printString s).length := by
  have hone : ∀ c ∈ s.toList, 1 ≤ (escape c).length := by
    intro c _
    obtain ⟨d, ds, _, heq⟩ := head_escape_ne c []
    rw [List.append_nil] at heq
    simp [heq]
  have hsum := List.card_nsmul_le_sum (s.toList.map fun c => (escape c).length) 1
    (by simpa using hone)
  simp only [printString, List.length_cons, List.length_append, List.length_flatMap]
  simp only [List.length_map, smul_eq_mul, mul_one] at hsum
  simp
  omega

/-! ### Compact text: numbers and values -/

/-- An unsigned decimal numeral. -/
def parseNat (cs : List Char) : Option (ℕ × List Char) :=
  if cs.takeWhile Char.isDigit = [] then none
  else some (Nat.ofDigitChars 10 (cs.takeWhile Char.isDigit) 0, cs.dropWhile Char.isDigit)

/-- The text of an integer. -/
def printInt : ℤ → List Char
  | .ofNat n => Nat.toDigits 10 n
  | .negSucc n => '-' :: Nat.toDigits 10 (n + 1)

/-- A numeral is read up to the first character that is no digit. -/
lemma parseNat_toDigits (n : ℕ) {cs : List Char} (h : ∀ c ∈ cs.head?, c.isDigit = false) :
    parseNat (Nat.toDigits 10 n ++ cs) = some (n, cs) := by
  have hdigit : ∀ c ∈ Nat.toDigits 10 n, c.isDigit = true := fun c hc =>
    Nat.isDigit_of_mem_toDigits (by decide) (by decide) hc
  have hrest : cs.takeWhile Char.isDigit = [] ∧ cs.dropWhile Char.isDigit = cs := by
    cases cs with
    | nil => exact ⟨rfl, rfl⟩
    | cons c cs =>
        have hc := h c (by simp)
        simp [hc]
  rw [parseNat, List.takeWhile_append_of_pos hdigit, List.dropWhile_append_of_pos hdigit, hrest.1,
    hrest.2, List.append_nil, if_neg Nat.toDigits_ne_nil, Nat.ofDigitChars_ten_toDigits]

/-- The text of a value; a value the model does not look into stands for the
simplest one of its kind. -/
def printValue : JsonValue → List Char
  | .null => ['n', 'u', 'l', 'l']
  | .bool true => ['t', 'r', 'u', 'e']
  | .bool false => ['f', 'a', 'l', 's', 'e']
  | .integer v => printInt v
  | .number => ['N']
  | .string s => printString s
  | .array => ['[', ']']
  | .object => ['{', '}']

/-- A value in front of a text. -/
def parseValue (fuel : ℕ) : List Char → Option (JsonValue × List Char)
  | 'n' :: 'u' :: 'l' :: 'l' :: cs => some (.null, cs)
  | 't' :: 'r' :: 'u' :: 'e' :: cs => some (.bool true, cs)
  | 'f' :: 'a' :: 'l' :: 's' :: 'e' :: cs => some (.bool false, cs)
  | 'N' :: cs => some (.number, cs)
  | '[' :: ']' :: cs => some (.array, cs)
  | '{' :: '}' :: cs => some (.object, cs)
  | '"' :: cs => (parseString fuel cs).map fun (s, rest) => (.string (String.ofList s), rest)
  | '-' :: cs => (parseNat cs).map fun (n, rest) => (.integer (-n), rest)
  | cs => (parseNat cs).map fun (n, rest) => (.integer n, rest)

/-- A text that begins with a digit can only be a number. -/
lemma parseValue_digits (fuel n : ℕ) {cs : List Char} (h : ∀ c ∈ cs.head?, c.isDigit = false) :
    parseValue fuel (Nat.toDigits 10 n ++ cs) = some (.integer n, cs) := by
  have hnat := parseNat_toDigits n h
  obtain ⟨d, ds, hds⟩ : ∃ d ds, Nat.toDigits 10 n = d :: ds :=
    List.exists_cons_of_ne_nil Nat.toDigits_ne_nil
  have hd : d.isDigit = true :=
    Nat.isDigit_of_mem_toDigits (by decide) (by decide) (hds ▸ List.mem_cons_self)
  rw [hds, List.cons_append] at hnat ⊢
  unfold parseValue
  split <;> first | (exfalso; simp_all; done) | simp [hnat]

lemma parseValue_print (fuel : ℕ) (v : JsonValue) {cs : List Char}
    (hfuel : (printValue v).length ≤ fuel) (h : ∀ c ∈ cs.head?, c.isDigit = false) :
    parseValue fuel (printValue v ++ cs) = some (v, cs) := by
  cases v with
  | null => rfl
  | bool b => cases b <;> rfl
  | number => rfl
  | array => rfl
  | object => rfl
  | integer v =>
      cases v with
      | ofNat n => exact parseValue_digits fuel n h
      | negSucc n =>
          rw [printValue, printInt, List.cons_append, parseValue, parseNat_toDigits _ h]
          rfl
  | string s =>
      have hlen : s.toList.length < fuel := by
        have hle := length_le_length_printString s
        rw [printValue] at hfuel
        omega
      rw [printValue, printString, List.cons_append, List.append_assoc, List.singleton_append,
        parseValue, parseString_printString s cs hlen]
      simp

/-! ### Compact text: objects -/

/-- A key with its value. -/
def printMember (m : String × JsonValue) : List Char := printString m.1 ++ ':' :: printValue m.2

/-- The members of an object up to the closing brace. -/
def printMembers : List (String × JsonValue) → List Char
  | [] => ['}']
  | [m] => printMember m ++ ['}']
  | m :: ms => printMember m ++ ',' :: printMembers ms

/-- One member in front of a text. -/
def parseMember (fuel : ℕ) (cs : List Char) : Option ((String × JsonValue) × List Char) := do
  let '"' :: cs := cs | none
  let (key, ':' :: cs) ← parseString fuel cs | none
  let (v, cs) ← parseValue fuel cs
  return ((String.ofList key, v), cs)

/-- The members of an object up to the closing brace, at least one of them. -/
def parseMembers : ℕ → List Char → Option (List (String × JsonValue) × List Char)
  | 0, _ => none
  | fuel + 1, cs =>
      match parseMember (fuel + 1) cs with
      | some (m, '}' :: rest) => some ([m], rest)
      | some (m, ',' :: rest) => (parseMembers fuel rest).map fun (ms, rest) => (m :: ms, rest)
      | _ => none

/-- A text of one object, and nothing else. -/
def parseObject : List Char → Option (List (String × JsonValue))
  | '{' :: '}' :: [] => some []
  | '{' :: cs =>
      match parseMembers cs.length cs with
      | some (ms, []) => some ms
      | _ => none
  | _ => none

lemma parseMember_print (fuel : ℕ) (m : String × JsonValue) {cs : List Char}
    (hfuel : (printMember m).length ≤ fuel) (h : ∀ c ∈ cs.head?, c.isDigit = false) :
    parseMember fuel (printMember m ++ cs) = some (m, cs) := by
  obtain ⟨key, v⟩ := m
  have hkey := length_le_length_printString key
  simp only [printMember, List.length_append, List.length_cons] at hfuel
  have hstr := parseString_printString key (':' :: (printValue v ++ cs))
    (show key.toList.length < fuel by omega)
  have hval := parseValue_print fuel v (by omega) h
  simp [parseMember, printMember, printString, hstr, hval]

lemma head_not_digit_brace (cs : List Char) : ∀ c ∈ ('}' :: cs).head?, c.isDigit = false := by
  simp

lemma head_not_digit_comma (cs : List Char) : ∀ c ∈ (',' :: cs).head?, c.isDigit = false := by
  simp

/-- The members of an object are read back in order. -/
lemma parseMembers_print (fuel : ℕ) (m : String × JsonValue) (ms : List (String × JsonValue))
    (cs : List Char) (hfuel : (printMembers (m :: ms)).length ≤ fuel) :
    parseMembers fuel (printMembers (m :: ms) ++ cs) = some (m :: ms, cs) := by
  induction ms generalizing m fuel with
  | nil =>
      simp only [printMembers, List.length_append, List.length_singleton] at hfuel
      obtain ⟨k, rfl⟩ : ∃ k, fuel = k + 1 := ⟨fuel - 1, by omega⟩
      have hm := parseMember_print (k + 1) m (by omega) (head_not_digit_brace cs)
      simp [printMembers, parseMembers, hm]
  | cons m' ms ih =>
      simp only [printMembers, List.length_append, List.length_cons] at hfuel
      obtain ⟨k, rfl⟩ : ∃ k, fuel = k + 1 := ⟨fuel - 1, by omega⟩
      have hrest := ih k m' (by omega)
      have hm := parseMember_print (k + 1) m (by omega)
        (head_not_digit_comma (printMembers (m' :: ms) ++ cs))
      rw [printMembers, List.append_assoc, List.cons_append, parseMembers, hm]
      · simp only [hrest]
        rfl
      · simp

lemma parseObject_print (ms : List (String × JsonValue)) :
    parseObject ('{' :: printMembers ms) = some ms := by
  cases ms with
  | nil => rfl
  | cons m ms =>
      have hms := parseMembers_print _ m ms [] le_rfl
      rw [List.append_nil] at hms
      rw [parseObject]
      · simp [hms]
      · intro h
        cases ms <;> simp [printMembers, printMember, printString] at h

lemma ofList_toList (o : JsonObject) : Std.ExtTreeMap.ofList o.toList compare = o := by
  apply Std.ExtTreeMap.ext_getElem?
  intro k
  cases hk : o[k]? with
  | none =>
      apply Std.ExtTreeMap.getElem?_ofList_of_contains_eq_false
      rw [List.contains_eq_mem, decide_eq_false_iff_not]
      intro hmem
      obtain ⟨⟨k', v⟩, hkv, rfl⟩ := List.mem_map.mp hmem
      rw [Std.ExtTreeMap.mem_toList_iff_getElem?_eq_some, hk] at hkv
      cases hkv
  | some v =>
      exact Std.ExtTreeMap.getElem?_ofList_of_mem Std.ReflCmp.compare_self
        Std.ExtTreeMap.distinct_keys_toList
        (Std.ExtTreeMap.mem_toList_iff_getElem?_eq_some.mpr hk)

/-- The codec of compact text. -/
def compact : JsonCodec where
  toJson o := QString.toUtf8 (String.ofList ('{' :: printMembers o.toList))
  fromJson bs :=
    (parseObject (QString.fromUtf8 bs).toList).map fun ms =>
      .object (Std.ExtTreeMap.ofList ms compare)
  fromJson_toJson o := by
    have hhead : (String.ofList ('{' :: printMembers o.toList)).toList.head? ≠
        some QString.byteOrderMark := by
      rw [String.toList_ofList, List.head?_cons]
      decide
    rw [QString.fromUtf8_toUtf8 hhead, String.toList_ofList, parseObject_print, Option.map_some,
      ofList_toList]

example :
    compact.toJson ((∅ : JsonObject).insert "transfer_id" (.string "ft_1") |>.insert "file_size"
      (.integer 12)) =
      QString.toUtf8 "\x7b\"file_size\":12,\"transfer_id\":\"ft_1\"\x7d" := by
  decide

end QJson
