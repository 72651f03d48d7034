import Mathlib.Tactic

/-!
Incremental decoding of a stream that arrives in chunks.

A `Scanner` looks at the front of a buffer and says to wait for more input, to
drop a positive number of elements (with or without an item), or to discard the
whole buffer. `drain` repeats the look until it waits or discards; `feed`
appends chunk after chunk, draining after each.

* `drain_append`: where draining `b` discards nothing, draining `b ++ c` is
  draining `b` and then the rest with `c` appended.
* `Found`: pieces lie in a buffer one behind the other, and a rest follows.
  `found_drain` says that the items of a drain do, each as the bytes it was
  dropped with.
* `feed_eq_drain`: so feeding chunks is draining their concatenation, however
  it was cut, once no prefix of the input makes the scanner discard.
* `feed_packets`: a stream of packets, each of which the scanner recognises
  whole and waits for while it is incomplete, yields the packets' items in
  order and leaves nothing, for every cutting.
-/

namespace StreamDecoder

variable {β ι : Type*}

/-- What a look at a buffer decides. -/
inductive Verdict (ι : Type*) where
  | wait
  | drop (n : ℕ) (item : Option ι)
  | flush

/-- A scanner: its decision to drop elements names how many, at least one and
no more than are there, and stands whatever arrives later. -/
structure Scanner (β ι : Type*) where
  look : List β → Verdict ι
  drop_pos : ∀ {b n item}, look b = .drop n item → 0 < n
  drop_le : ∀ {b n item}, look b = .drop n item → n ≤ b.length
  look_append : ∀ {b n item} (c : List β), look b = .drop n item → look (b ++ c) = .drop n item

/-- The outcome of draining a buffer: the items, what is left, and whether the
scanner discarded the buffer. -/
@[ext] structure Drained (β ι : Type*) where
  items : List ι
  rest : List β
  flushed : Bool

/-- Put an item that was found first in front. -/
def Drained.cons? (item : Option ι) (d : Drained β ι) : Drained β ι :=
  { d with items := item.toList ++ d.items }

namespace Scanner

variable (S : Scanner β ι)

/-- Look and drop until the scanner waits or discards. -/
def drain (b : List β) : Drained β ι :=
  match _h : S.look b with
  | .wait => ⟨[], b, false⟩
  | .flush => ⟨[], [], true⟩
  | .drop n item => (drain (b.drop n)).cons? item
termination_by b.length
decreasing_by
  have h1 := S.drop_pos _h
  have h2 := S.drop_le _h
  rw [List.length_drop]
  omega

lemma drain_of_wait {b : List β} (h : S.look b = .wait) : S.drain b = ⟨[], b, false⟩ := by
  rw [drain]
  split <;> simp_all

lemma drain_of_flush {b : List β} (h : S.look b = .flush) : S.drain b = ⟨[], [], true⟩ := by
  rw [drain]
  split <;> simp_all

lemma drain_of_drop {b : List β} {n : ℕ} {item : Option ι} (h : S.look b = .drop n item) :
    S.drain b = (S.drain (b.drop n)).cons? item := by
  rw [drain]
  split <;> simp_all

/-- Induction along the looks of a drain. -/
@[elab_as_elim]
lemma drain_induction {P : List β → Prop} (wait : ∀ b, S.look b = .wait → P b)
    (flush : ∀ b, S.look b = .flush → P b)
    (drop : ∀ b n item, S.look b = .drop n item → P (b.drop n) → P b) (b : List β) : P b := by
  induction hn : b.length using Nat.strong_induction_on generalizing b with
  | _ n ih =>
    cases h : S.look b with
    | wait => exact wait b h
    | flush => exact flush b h
    | drop m item =>
        have hpos := S.drop_pos h
        have hle := S.drop_le h
        exact drop b m item h (ih _ (by rw [List.length_drop]; omega) _ rfl)

/-- What is left after a drain that discards nothing makes the scanner wait. -/
lemma look_rest {b : List β} (hb : (S.drain b).flushed = false) :
    S.look (S.drain b).rest = .wait := by
  induction b using S.drain_induction with
  | wait b h => rwa [S.drain_of_wait h]
  | flush b h => simp [S.drain_of_flush h] at hb
  | drop b n item h ih =>
      rw [S.drain_of_drop h] at hb ⊢
      exact ih hb

/-- A drain that discards leaves nothing. -/
lemma rest_of_flushed {b : List β} (hb : (S.drain b).flushed = true) : (S.drain b).rest = [] := by
  induction b using S.drain_induction with
  | wait b h => simp [S.drain_of_wait h] at hb
  | flush b h => rw [S.drain_of_flush h]
  | drop b n item h ih =>
      rw [S.drain_of_drop h] at hb ⊢
      exact ih hb

/-- Draining the rest again finds nothing, if the scanner waits for a first
element. -/
lemma drain_rest (h0 : S.look [] = .wait) (b : List β) :
    S.drain (S.drain b).rest = ⟨[], (S.drain b).rest, false⟩ := by
  cases hb : (S.drain b).flushed with
  | false => exact S.drain_of_wait (S.look_rest hb)
  | true => rw [S.rest_of_flushed hb, S.drain_of_wait h0]

/-- **Incrementality of draining.** -/
theorem drain_append {b : List β} (hb : (S.drain b).flushed = false) (c : List β) :
    S.drain (b ++ c) = { S.drain ((S.drain b).rest ++ c) with
      items := (S.drain b).items ++ (S.drain ((S.drain b).rest ++ c)).items } := by
  induction b using S.drain_induction with
  | wait b h => rw [S.drain_of_wait h]; rfl
  | flush b h => simp [S.drain_of_flush h] at hb
  | drop b n item h ih =>
      have hle := S.drop_le h
      rw [S.drain_of_drop h] at hb ⊢
      rw [S.drain_of_drop (S.look_append c h), List.drop_append_of_le_length hle, ih hb]
      simp [Drained.cons?]

/-! ### Where the items come from -/

/-- The pieces lie in `b` in this order and without overlap, and `rest` is what
follows the last of them but for skipped elements. -/
inductive Found : List (List β) → List β → List β → Prop where
  | rest (skipped rest : List β) : Found [] (skipped ++ rest) rest
  | piece {ps : List (List β)} {b rest : List β} (skipped p : List β) (h : Found ps b rest) :
      Found (p :: ps) (skipped ++ (p ++ b)) rest

omit S in
lemma Found.skip {ps : List (List β)} {b rest : List β} (h : Found ps b rest)
    (skipped : List β) : Found ps (skipped ++ b) rest := by
  cases h with
  | rest skipped' rest =>
      rw [← List.append_assoc]
      exact .rest _ _
  | piece skipped' p h =>
      rw [← List.append_assoc]
      exact .piece _ p h

omit S in
lemma Found.rest_suffix {ps : List (List β)} {b rest : List β} (h : Found ps b rest) :
    rest <:+ b := by
  induction h with
  | rest skipped rest => exact List.suffix_append _ _
  | piece skipped p _ ih => exact (ih.trans (List.suffix_append _ _)).trans (List.suffix_append _ _)

/-- The items of a drain are found in the buffer, as the elements they were
dropped with. -/
theorem found_drain (code : ι → List β)
    (hcode : ∀ b n item, S.look b = .drop n (some item) → b.take n = code item) (b : List β) :
    Found ((S.drain b).items.map code) b (S.drain b).rest := by
  induction b using S.drain_induction with
  | wait b h =>
      rw [S.drain_of_wait h]
      exact .rest [] b
  | flush b h =>
      rw [S.drain_of_flush h]
      have hall := Found.rest b []
      rw [List.append_nil] at hall
      exact hall
  | drop b n item h ih =>
      rw [S.drain_of_drop h]
      have hsplit : b = b.take n ++ b.drop n := (List.take_append_drop n b).symm
      cases item with
      | none =>
          have hskip := ih.skip (b.take n)
          rw [← hsplit] at hskip
          exact hskip
      | some item =>
          have hpiece := Found.piece [] (b.take n) ih
          rw [List.nil_append, ← hsplit, hcode b n item h] at hpiece
          exact hpiece

omit S in
/-- Pieces that are found are together no longer than the buffer. -/
lemma Found.length_le {ps : List (List β)} {b rest : List β} (h : Found ps b rest) :
    ps.flatten.length + rest.length ≤ b.length := by
  induction h with
  | rest skipped rest => simp
  | piece skipped p _ ih =>
      rw [List.flatten_cons, List.length_append, List.length_append, List.length_append]
      omega

/-- What holds of every item that is dropped holds of all items of a drain. -/
lemma forall_items_drain {P : ι → Prop}
    (h : ∀ b n item, S.look b = .drop n (some item) → P item) (b : List β) :
    ∀ item ∈ (S.drain b).items, P item := by
  induction b using S.drain_induction with
  | wait b hlook => simp [S.drain_of_wait hlook]
  | flush b hlook => simp [S.drain_of_flush hlook]
  | drop b n item hlook ih =>
      intro x hx
      rw [S.drain_of_drop hlook, Drained.cons?, List.mem_append] at hx
      rcases hx with hx | hx
      · rw [Option.mem_toList] at hx
        subst hx
        exact h b n x hlook
      · exact ih x hx

/-! ### Feeding chunks -/

/-- Append each chunk in turn to what is left and drain: all items, and what is
left in the end. -/
def feed (r : List β) : List (List β) → List ι × List β
  | [] => ([], r)
  | c :: cs =>
      let d := S.drain (r ++ c)
      let later := feed d.rest cs
      (d.items ++ later.1, later.2)

/-- Feeding chunks is draining what they make up, for every cutting, once no
prefix of the input makes the scanner discard. -/
theorem feed_eq_drain {r : List β} (hr : S.look r = .wait) {cs : List (List β)}
    (hflush : ∀ q, q <+: cs.flatten → (S.drain (r ++ q)).flushed = false) :
    S.feed r cs = ((S.drain (r ++ cs.flatten)).items, (S.drain (r ++ cs.flatten)).rest) := by
  induction cs generalizing r with
  | nil => simp [feed, S.drain_of_wait hr]
  | cons c cs ih =>
      have hc : (S.drain (r ++ c)).flushed = false :=
        hflush c (by rw [List.flatten_cons]; exact List.prefix_append _ _)
      have hlater : ∀ q, q <+: cs.flatten →
          (S.drain ((S.drain (r ++ c)).rest ++ q)).flushed = false := by
        intro q hq
        have h := hflush (c ++ q) (by
          rw [List.flatten_cons]
          exact (List.prefix_append_right_inj c).mpr hq)
        rwa [← List.append_assoc, S.drain_append hc] at h
      rw [feed, ih (S.look_rest hc) hlater, List.flatten_cons, ← List.append_assoc,
        S.drain_append hc]

/-- The same from the first chunk on: what the scanner discarded before it does
not matter. -/
theorem feed_cons_eq_drain {r c : List β} {cs : List (List β)}
    (hflush : ∀ q, q <+: cs.flatten → (S.drain (r ++ c ++ q)).flushed = false) :
    S.feed r (c :: cs) = ((S.drain (r ++ (c :: cs).flatten)).items,
      (S.drain (r ++ (c :: cs).flatten)).rest) := by
  have hc : (S.drain (r ++ c)).flushed = false := by
    have h := hflush [] List.nil_prefix
    rwa [List.append_nil] at h
  have hlater : ∀ q, q <+: cs.flatten →
      (S.drain ((S.drain (r ++ c)).rest ++ q)).flushed = false := by
    intro q hq
    have h := hflush q hq
    rwa [S.drain_append hc] at h
  rw [feed, S.feed_eq_drain (S.look_rest hc) hlater, List.flatten_cons, ← List.append_assoc,
    S.drain_append hc]

/-- The items of a feed fit into what was fed. -/
lemma length_items_feed (code : ι → List β)
    (hcode : ∀ b n item, S.look b = .drop n (some item) → b.take n = code item)
    (r : List β) (cs : List (List β)) :
    ((S.feed r cs).1.map code).flatten.length ≤ r.length + cs.flatten.length := by
  induction cs generalizing r with
  | nil => exact Nat.zero_le _
  | cons c cs ih =>
      have hfirst := (S.found_drain code hcode (r ++ c)).length_le
      have hlater := ih (S.drain (r ++ c)).rest
      rw [List.length_append] at hfirst
      rw [feed, List.map_append, List.flatten_append, List.length_append, List.flatten_cons,
        List.length_append]
      omega

/-! ### Streams of packets -/

/-- The scanner recognises `p` whole, with item `item`, and waits on every
proper prefix of it. -/
structure IsPacket (p : List β) (item : Option ι) : Prop where
  whole : S.look p = .drop p.length item
  partial_wait : ∀ q, q <+: p → q ≠ p → S.look q = .wait

variable {S}

lemma IsPacket.drain_append {p : List β} {item : Option ι} (h : S.IsPacket p item) (t : List β) :
    S.drain (p ++ t) = (S.drain t).cons? item := by
  rw [S.drain_of_drop (S.look_append t h.whole), List.drop_left]

variable {ps : List (List β)} {val : List β → Option ι}

/-- Draining a list of whole packets. -/
lemma drain_packets (h0 : S.look [] = .wait) (hps : ∀ p ∈ ps, S.IsPacket p (val p)) :
    S.drain ps.flatten = ⟨ps.filterMap val, [], false⟩ := by
  induction ps with
  | nil => simpa using S.drain_of_wait h0
  | cons p ps ih =>
      have hp := hps p (by simp)
      rw [List.flatten_cons, hp.drain_append, ih fun q hq => hps q (by simp [hq])]
      cases hv : val p <;> simp [Drained.cons?, hv]

/-- No prefix of a stream of packets makes the scanner discard. -/
lemma flushed_of_prefix_packets (h0 : S.look [] = .wait) (hps : ∀ p ∈ ps, S.IsPacket p (val p))
    {q : List β} (hq : q <+: ps.flatten) : (S.drain q).flushed = false := by
  induction ps generalizing q with
  | nil =>
      have hnil : q = [] := by simpa using hq
      rw [hnil, S.drain_of_wait h0]
  | cons p ps ih =>
      have hp := hps p (by simp)
      rw [List.flatten_cons] at hq
      -- either the prefix ends inside the first packet or it contains it
      rcases List.prefix_or_prefix_of_prefix hq (List.prefix_append p ps.flatten) with
        hin | ⟨t, rfl⟩
      · by_cases hwhole : q = p
        · have hnil := hp.drain_append []
          rw [List.append_nil] at hnil
          rw [hwhole, hnil, S.drain_of_wait h0]
          rfl
        · rw [S.drain_of_wait (hp.partial_wait q hin hwhole)]
      · rw [hp.drain_append]
        exact ih (fun r hr => hps r (by simp [hr])) ((List.prefix_append_right_inj p).mp hq)

/-- **Chunking independence.** A stream of packets yields their items in order
and leaves nothing, however it is cut into chunks. -/
theorem feed_packets (h0 : S.look [] = .wait) (hps : ∀ p ∈ ps, S.IsPacket p (val p))
    {cs : List (List β)} (hcs : cs.flatten = ps.flatten) :
    S.feed [] cs = (ps.filterMap val, []) := by
  have hflush : ∀ q, q <+: cs.flatten → (S.drain ([] ++ q)).flushed = false := by
    intro q hq
    rw [hcs] at hq
    exact flushed_of_prefix_packets h0 hps hq
  rw [S.feed_eq_drain h0 hflush, List.nil_append, hcs, drain_packets h0 hps]

end Scanner

end StreamDecoder
