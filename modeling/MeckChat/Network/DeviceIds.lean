import MeckChat.Network.RetainedPresence

/-!
Device ids and the topics made of them (`mqtt_signaling.cpp`).

* `IsDeviceId` is the grammar that `isValidDeviceId` is to test, and `UsableTopics` what the
  topics of presence owe to it.
* `isValidDeviceId_iff`: the test accepts the grammar, and besides an id with a line feed
  behind it, in front of which the pattern ends as well.
* `deviceId_grammar_iff`: apart from these the test is right; `accepts_line_feed` is one.
-/

namespace MeckChat.Network

open QString

/-- An ASCII letter, a digit, or one of three marks. -/
def IsWordChar (c : Char) : Prop :=
  ('a' ≤ c ∧ c ≤ 'z') ∨ ('A' ≤ c ∧ c ≤ 'Z') ∨ ('0' ≤ c ∧ c ≤ '9') ∨ c = '_' ∨ c = '-' ∨ c = '.'

/-- The grammar of device ids. -/
structure IsDeviceId (s : String) : Prop where
  length : 4 ≤ s.toList.length ∧ s.toList.length ≤ 128
  head : "mc_".toList <+: s.toList
  chars : ∀ c ∈ s.toList, IsWordChar c

/-- A line feed at the end, behind characters of the grammar. -/
def EndsInLineFeed (s : String) : Prop :=
  ∃ word, s.toList = word ++ ['\n'] ∧ "mc_".toList <+: word ∧ word.length ≤ 127 ∧
    ∀ c ∈ word, IsWordChar c

/-- The topics of presence are valid, and have no other level or wildcard in them. -/
def UsableTopics (s : String) : Prop :=
  '/' ∉ s.toList ∧ ∀ isOnline, isValidTopic (presenceTopic isOnline s) = true ∧
    '+' ∉ (presenceTopic isOnline s).toList ∧ '#' ∉ (presenceTopic isOnline s).toList

/-! ### The pattern -/

lemma isIdChar_iff (c : Char) : isIdChar c = true ↔ IsWordChar c := by
  simp only [isIdChar_eq, IsWordChar, Char.le_def, Bool.or_eq_true, Bool.and_eq_true,
    decide_eq_true_eq, ge_iff_le]
  tauto

lemma lineFeed_not_word : ¬ IsWordChar '\n' := by
  rw [← isIdChar_iff]
  decide

/-- What the pattern matches. -/
lemma matchesId_iff (cs : List Char) :
    matchesId cs = true ↔ (cs ≠ [] ∧ ∀ c ∈ cs, IsWordChar c) ∨
      ∃ word, cs = word ++ ['\n'] ∧ word ≠ [] ∧ ∀ c ∈ word, IsWordChar c := by
  have hword : ∀ word : List Char, (!word.isEmpty && word.all isIdChar) = true ↔
      word ≠ [] ∧ ∀ c ∈ word, IsWordChar c := by
    intro word
    simp only [Bool.and_eq_true, Bool.not_eq_true', List.isEmpty_eq_false_iff, List.all_eq_true,
      isIdChar_iff]
  rw [matchesId]
  by_cases hlast : cs.getLast? = some '\n'
  · obtain ⟨word, rfl⟩ := List.getLast?_eq_some_iff.mp hlast
    rw [if_pos hlast, List.dropLast_concat, hword]
    constructor
    · exact fun h => .inr ⟨word, rfl, h⟩
    · rintro (⟨-, hchars⟩ | ⟨word', heq, h⟩)
      · exact absurd (hchars '\n' (by simp)) lineFeed_not_word
      · rwa [(List.append_inj' heq rfl).1]
  · rw [if_neg hlast, hword]
    constructor
    · exact .inl
    · rintro (h | ⟨word, rfl, -⟩)
      · exact h
      · exact absurd (by simp) hlast

/-- **What is accepted**: the grammar, and also a line feed at the end. -/
theorem isValidDeviceId_iff (s : String) :
    isValidDeviceId s = true ↔ IsDeviceId s ∨ EndsInLineFeed s := by
  have hthree : "mc_".toList.length = 3 := rfl
  rw [isValidDeviceId]
  constructor
  · intro h
    split_ifs at h with hlength hhead
    rcases (matchesId_iff _).mp h with ⟨-, hchars⟩ | ⟨word, hword, -, hchars⟩
    · exact .inl ⟨by omega, hhead, hchars⟩
    · rw [hword, List.length_append, List.length_singleton] at hlength
      rw [hword] at hhead
      refine .inr ⟨word, hword, ?_, by omega, hchars⟩
      exact List.prefix_of_prefix_length_le hhead (List.prefix_append _ _) (by omega)
  · rintro (h | ⟨word, hword, hhead, hlength, hchars⟩)
    · have hlength := h.length
      rw [if_neg (by omega), if_neg (not_not.mpr h.head), matchesId_iff]
      refine .inl ⟨?_, h.chars⟩
      intro hnil
      rw [hnil] at hlength
      exact absurd hlength.1 (by decide)
    · have hmin := hhead.length_le
      have hsize : s.toList.length = word.length + 1 := by
        rw [hword, List.length_append, List.length_singleton]
      have hpre : "mc_".toList <+: s.toList := hword ▸ hhead.trans (List.prefix_append _ _)
      rw [if_neg (by omega), if_neg (not_not.mpr hpre), matchesId_iff]
      refine .inr ⟨word, hword, ?_, hchars⟩
      rintro rfl
      exact absurd hmin (by decide)

/-! ### Topics -/

lemma toNat_of_range {a b c : Char} (h : a ≤ c ∧ c ≤ b) :
    a.toNat ≤ c.toNat ∧ c.toNat ≤ b.toNat :=
  ⟨UInt32.le_iff_toNat_le.mp h.1, UInt32.le_iff_toNat_le.mp h.2⟩

/-- The characters of the grammar are printable, and none is a mark of a topic. -/
lemma IsWordChar.printable {c : Char} (h : IsWordChar c) :
    (32 ≤ c.toNat ∧ c.toNat ≤ 126) ∧ c ≠ '/' ∧ c ≠ '+' ∧ c ≠ '#' := by
  have hmarks : c ≠ '/' ∧ c ≠ '+' ∧ c ≠ '#' := by
    refine ⟨?_, ?_, ?_⟩
    all_goals
      rintro rfl
      rw [← isIdChar_iff] at h
      exact absurd h (by decide)
  refine ⟨?_, hmarks⟩
  rcases h with h | h | h | rfl | rfl | rfl
  · obtain ⟨hmin, hmax⟩ := toNat_of_range h
    exact ⟨le_trans (by decide) hmin, hmax.trans (by decide)⟩
  · obtain ⟨hmin, hmax⟩ := toNat_of_range h
    exact ⟨le_trans (by decide) hmin, hmax.trans (by decide)⟩
  · obtain ⟨hmin, hmax⟩ := toNat_of_range h
    exact ⟨le_trans (by decide) hmin, hmax.trans (by decide)⟩
  all_goals decide

/-- The levels in front of the id. -/
lemma presenceTopic_front (isOnline : Bool) (s : String) : ∃ front : List Char,
    (presenceTopic isOnline s).toList = front ++ s.toList ∧ front ≠ [] ∧ front.length ≤ 29 ∧
      ∀ c ∈ front, (32 ≤ c.toNat ∧ c.toNat ≤ 126) ∧ c ≠ '+' ∧ c ≠ '#' := by
  rw [presenceTopic, String.toList_append]
  cases isOnline with
  | true =>
      exact ⟨_, rfl, by decide, by decide, List.forall_iff_forall_mem.mp (by decide)⟩
  | false =>
      exact ⟨_, rfl, by decide, by decide, List.forall_iff_forall_mem.mp (by decide)⟩

lemma usableTopics_of_isDeviceId {s : String} (h : IsDeviceId s) : UsableTopics s := by
  refine ⟨fun hmem => (h.chars _ hmem).printable.2.1 rfl, fun isOnline => ?_⟩
  obtain ⟨front, htopic, hne, hlength, hchars⟩ := presenceTopic_front isOnline s
  have hall : ∀ c ∈ (presenceTopic isOnline s).toList,
      (32 ≤ c.toNat ∧ c.toNat ≤ 126) ∧ c ≠ '+' ∧ c ≠ '#' := by
    intro c hc
    rw [htopic] at hc
    rcases List.mem_append.mp hc with hc | hc
    · exact hchars c hc
    · have hprintable := (h.chars c hc).printable
      exact ⟨hprintable.1, hprintable.2.2⟩
  refine ⟨?_, fun hmem => (hall _ hmem).2.1 rfl, fun hmem => (hall _ hmem).2.2 rfl⟩
  have hshort : ¬ (presenceTopic isOnline s = "" ∨
      256 < (presenceTopic isOnline s).toList.length) := by
    rintro (hempty | hlong)
    · rw [hempty] at htopic
      exact hne (List.append_eq_nil_iff.mp htopic.symm).1
    · have hid := h.length
      rw [htopic, List.length_append] at hlong
      omega
  rw [isValidTopic, if_neg hshort, List.all_eq_true]
  intro c hc
  have hprintable := (hall c hc).1
  simp only [Bool.and_eq_true, decide_eq_true_eq]
  exact hprintable

/-- **The grammar of device ids.** It is tested, and what passes gives usable topics, for
every text but an id with a line feed behind it. -/
theorem deviceId_grammar_iff (s : String) :
    ((isValidDeviceId s = true ↔ IsDeviceId s) ∧ (isValidDeviceId s = true → UsableTopics s)) ↔
      ¬ EndsInLineFeed s := by
  have hnot : EndsInLineFeed s → ¬ IsDeviceId s := by
    rintro ⟨word, hword, -⟩ h
    exact lineFeed_not_word (h.chars '\n' (by simp [hword]))
  constructor
  · rintro ⟨hiff, -⟩ hfeed
    exact hnot hfeed (hiff.mp ((isValidDeviceId_iff s).mpr (.inr hfeed)))
  · intro hfeed
    have hiff : isValidDeviceId s = true ↔ IsDeviceId s := by
      rw [isValidDeviceId_iff]
      exact or_iff_left hfeed
    exact ⟨hiff, fun h => usableTopics_of_isDeviceId (hiff.mp h)⟩

/-- **A line feed is accepted** at the end of an id. -/
theorem accepts_line_feed :
    ¬ ∀ s, (isValidDeviceId s = true ↔ IsDeviceId s) ∧
      (isValidDeviceId s = true → UsableTopics s) := by
  intro h
  have haccepted : isValidDeviceId "mc_a\n" = true := by decide
  have hid := (h "mc_a\n").1.mp haccepted
  exact lineFeed_not_word (hid.chars '\n' (by decide))

end MeckChat.Network
