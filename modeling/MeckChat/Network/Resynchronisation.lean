import MeckChat.Network.Transport

/-!
Resynchronisation: what `processStreamBuffer` makes of a stream that starts with
bytes that belong to no frame.

* `look_garbage`: eight bytes or more without the magic are discarded, fewer
  are waited on; `look_before_magic`: what lies before the magic is dropped.
* `garbageLeft` follows, by the lengths of the chunks alone, how much of the
  garbage is still in the buffer; `SplitsMagic` says that a chunk ends after the
  first byte of the magic while at least eight bytes are in the buffer.
* `feed_garbage` and `feed_unsplit` are the two ways the stream can go.
* `resynchronised_iff`: the frames come out, all and in order, exactly when no
  chunk splits the magic so.
* `split_magic_loses_frame`: seven zero bytes and the first byte of a heartbeat
  in one chunk cost the heartbeat.
-/

namespace MeckChat.Network

open MeckChat.Protocol StreamDecoder

/-! ### Garbage and the first magic -/

/-- The first byte of the magic completes none. -/
lemma no_magic_concat {g : Bytes} (hg : ¬ magicBytes <:+: g) : ¬ magicBytes <:+: g ++ [0x4D] := by
  rintro ⟨before, after, h⟩
  rcases List.eq_nil_or_concat after with rfl | ⟨after, b, rfl⟩
  · have hlast := congrArg List.getLast? h
    simp [magicBytes] at hlast
  · rw [List.concat_eq_append, ← List.append_assoc] at h
    exact hg ⟨before, after, (List.append_inj' h rfl).1⟩

/-- The two-byte field at the front is the magic where the magic stands there. -/
lemma ofBE16_eq_magic {b : Bytes} (h8 : 8 ≤ b.length) (h : ofBE16 (slice b 0 2) = FRAME_MAGIC) :
    magicBytes <+: b := by
  have hlength : (slice b 0 2).length = 2 := by
    rw [slice, List.length_take, List.length_drop]
    omega
  have hfield : slice b 0 2 = magicBytes := by
    rw [← be16_ofBE16 hlength, h]
    rfl
  rw [← hfield, slice, List.drop_zero]
  exact List.take_prefix 2 b

/-- The scanner waits for eight bytes, and discards eight or more that do not
contain the magic. -/
lemma look_garbage {b : Bytes} (hb : ¬ magicBytes <:+: b) :
    socketScanner.look b = if b.length < 8 then .wait else .flush := by
  show frameLook MAX_FRAME_PAYLOAD_SIZE b = _
  rw [frameLook]
  by_cases h8 : b.length < 8
  · rw [if_pos h8, if_pos h8]
  have hmagic : ofBE16 (slice b 0 2) ≠ FRAME_MAGIC := fun h =>
    hb (ofBE16_eq_magic (by omega) h).isInfix
  have hidx : indexOf magicBytes (b.drop 1) = none :=
    indexOf_eq_none fun h => hb (h.trans (List.drop_suffix 1 b).isInfix)
  rw [if_neg h8, if_neg h8, if_pos hmagic, hidx]

/-- What lies before the first magic is dropped, once eight bytes are there. -/
lemma look_before_magic {x : UInt8} {g q : Bytes} (hg : ¬ magicBytes <:+: x :: g)
    (hq : magicBytes <+: q) (h8 : 8 ≤ (x :: g ++ q).length) :
    socketScanner.look (x :: g ++ q) = .drop (x :: g).length none := by
  have hfirst := no_magic_concat hg
  have hnot : ¬ magicBytes <+: x :: g ++ q := by
    intro h
    have hprefix : x :: g ++ [0x4D] <+: x :: g ++ q :=
      (List.prefix_append_right_inj _).mpr ((List.dropLast_prefix magicBytes).trans hq)
    refine hfirst (List.IsPrefix.isInfix (List.prefix_of_prefix_length_le h hprefix ?_))
    simp [magicBytes]
  have hmagic : ofBE16 (slice (x :: g ++ q) 0 2) ≠ FRAME_MAGIC := fun h =>
    hnot (ofBE16_eq_magic h8 h)
  have hidx : indexOf magicBytes ((x :: g ++ q).drop 1) = some g.length :=
    indexOf_of_first hq fun h => hfirst (h.trans (List.suffix_cons x _).isInfix)
  show frameLook MAX_FRAME_PAYLOAD_SIZE (x :: g ++ q) = _
  rw [frameLook, if_neg (by omega), if_pos hmagic, hidx, List.length_cons]

/-- From the whole first magic on, the scanner treats garbage and stream as the
stream alone. -/
lemma drain_before_magic {g q : Bytes} (hg : ¬ magicBytes <:+: g) (hq : magicBytes <+: q)
    (h8 : 8 ≤ (g ++ q).length) : socketScanner.drain (g ++ q) = socketScanner.drain q := by
  cases g with
  | nil => rfl
  | cons x g =>
      rw [socketScanner.drain_of_drop (look_before_magic hg hq h8), List.drop_left]
      rfl

/-! ### The cut that loses a frame -/

/-- How many bytes of garbage are in the buffer, `n` at first, after the chunks:
from eight on the buffer is cleared. -/
def garbageLeft : ℕ → List Bytes → ℕ
  | n, [] => n
  | n, chunk :: chunks =>
      garbageLeft (if n + chunk.length < 8 then n + chunk.length else 0) chunks

/-- A chunk ends after the first byte of the magic that follows the garbage
`g`, with at least eight bytes in the buffer. -/
def SplitsMagic (n : ℕ) (g : Bytes) (chunks : List Bytes) : Prop :=
  ∃ before chunk after, chunks = before ++ chunk :: after ∧
    before.flatten ++ chunk = g ++ [0x4D] ∧ 8 ≤ garbageLeft n before + chunk.length

/-- Nothing is found while no magic has arrived, and when the buffer of eight
bytes or more is discarded the stream goes on with the chunks that follow. -/
lemma feed_garbage {before after : List Bytes} {chunk r : Bytes}
    (hgarbage : ¬ magicBytes <:+: r ++ before.flatten ++ chunk)
    (h8 : 8 ≤ garbageLeft r.length before + chunk.length) :
    socketScanner.feed r (before ++ chunk :: after) = socketScanner.feed [] after := by
  induction before generalizing r with
  | nil =>
      rw [List.flatten_nil, List.append_nil] at hgarbage
      have hflush : socketScanner.look (r ++ chunk) = .flush := by
        rw [look_garbage hgarbage, if_neg]
        rw [List.length_append]
        exact not_lt.mpr h8
      rw [List.nil_append, Scanner.feed, socketScanner.drain_of_flush hflush]
      rfl
  | cons c before ih =>
      rw [List.flatten_cons, ← List.append_assoc] at hgarbage
      have hhere : ¬ magicBytes <:+: r ++ c := fun h => hgarbage
        (h.trans ((List.prefix_append (r ++ c) _).trans (List.prefix_append _ chunk)).isInfix)
      have hlook := look_garbage hhere
      rw [List.length_append] at hlook
      rw [garbageLeft] at h8
      rw [List.cons_append, Scanner.feed]
      by_cases hshort : r.length + c.length < 8
      · rw [if_pos hshort] at hlook h8
        rw [socketScanner.drain_of_wait hlook]
        exact ih hgarbage (by rw [List.length_append]; exact h8)
      · rw [if_neg hshort] at hlook h8
        rw [socketScanner.drain_of_flush hlook]
        refine ih (fun h => hgarbage ?_) h8
        rw [List.append_assoc]
        exact h.trans (List.suffix_append (r ++ c) _).isInfix

/-! ### The cuts that do not -/

section Frames

variable {fs : List P2PFrame} (hfs : ∀ f ∈ fs, f.payload.length ≤ MAX_FRAME_PAYLOAD_SIZE.toNat)
  (hne : fs ≠ [])

include hne in
/-- The frames start with the magic, and take at least twelve bytes. -/
lemma frameBytes_start : magicBytes <+: frameBytes fs ∧ 12 ≤ (frameBytes fs).length := by
  obtain ⟨f, fs, rfl⟩ := List.exists_cons_of_ne_nil hne
  rw [frameBytes, List.flatMap_cons]
  refine ⟨?_, ?_⟩
  · rw [P2PFrame.encode_eq]
    exact (List.prefix_append (be16 FRAME_MAGIC) _).trans (List.prefix_append _ _)
  · rw [List.length_append, P2PFrame.length_encode]
    omega

include hfs hne in
/-- Once the first magic has arrived whole, nothing is discarded any more. -/
lemma flushed_after_magic {g p : Bytes} (hg : ¬ magicBytes <:+: g)
    (hp : p <+: g ++ frameBytes fs) (hlong : g.length + 2 ≤ p.length) :
    (socketScanner.drain p).flushed = false := by
  obtain ⟨q, rfl⟩ : g <+: p :=
    List.prefix_of_prefix_length_le (List.prefix_append g _) hp (by omega)
  have hq : q <+: frameBytes fs := (List.prefix_append_right_inj g).mp hp
  rw [List.length_append] at hlong
  have hmagic : magicBytes <+: q :=
    List.prefix_of_prefix_length_le (frameBytes_start hne).1 hq (by simp [magicBytes]; omega)
  by_cases h8 : (g ++ q).length < 8
  · have hwait : socketScanner.look (g ++ q) = .wait := if_pos h8
    rw [socketScanner.drain_of_wait hwait]
  · have hnone := drain_prefix hfs hq
    rw [drain_before_magic hg hmagic (not_lt.mp h8)]
    exact hnone.1

include hfs hne in
/-- If no chunk splits the magic, garbage and frames yield the frames. -/
lemma feed_unsplit {g r : Bytes} {chunks : List Bytes} (hg : ¬ magicBytes <:+: g)
    (hcut : r ++ chunks.flatten = g ++ frameBytes fs) (hr : r.length ≤ g.length + 1)
    (hsplit : ∀ before chunk after, chunks = before ++ chunk :: after →
      r ++ before.flatten ++ chunk = g ++ [0x4D] → garbageLeft r.length before + chunk.length < 8) :
    socketScanner.feed r chunks = (fs, []) := by
  obtain ⟨hmagic, h12⟩ := frameBytes_start hne
  have htotal := congrArg List.length hcut
  rw [List.length_append, List.length_append] at htotal
  induction chunks generalizing g r with
  | nil =>
      rw [List.flatten_nil, List.length_nil] at htotal
      omega
  | cons c cs ih =>
      rw [List.flatten_cons, ← List.append_assoc] at hcut
      rw [List.flatten_cons, List.length_append] at htotal
      by_cases hlong : g.length + 2 ≤ r.length + c.length
      · have hflush : ∀ q, q <+: cs.flatten →
            (socketScanner.drain (r ++ c ++ q)).flushed = false := by
          intro q hq
          refine flushed_after_magic hfs hne hg ?_ ?_
          · rw [← hcut]
            exact (List.prefix_append_right_inj (r ++ c)).mpr hq
          · rw [List.length_append, List.length_append]
            omega
        have hlength : 8 ≤ (g ++ frameBytes fs).length := by
          rw [List.length_append]
          omega
        rw [socketScanner.feed_cons_eq_drain hflush, List.flatten_cons, ← List.append_assoc, hcut,
          drain_before_magic hg hmagic hlength, drain_frameBytes hfs]
      -- so far there is garbage, and at most the first byte of the magic
      have hin : r ++ c <+: g ++ [0x4D] := by
        have hbyte : [0x4D] <+: frameBytes fs := (List.dropLast_prefix magicBytes).trans hmagic
        refine List.prefix_of_prefix_length_le ?_ ((List.prefix_append_right_inj g).mpr hbyte) ?_
        · rw [← hcut]
          exact List.prefix_append _ _
        · rw [List.length_append, List.length_append, List.length_singleton]
          omega
      have hlook := look_garbage fun h => no_magic_concat hg (h.trans hin.isInfix)
      rw [List.length_append] at hlook
      rw [Scanner.feed]
      by_cases hshort : r.length + c.length < 8
      · rw [if_pos hshort] at hlook
        rw [socketScanner.drain_of_wait hlook]
        have hrest := ih hg hcut (by rw [List.length_append]; omega) (fun before chunk after h hmid => by
          have hlt := hsplit (c :: before) chunk after (by rw [h]; rfl)
            (by rw [List.flatten_cons, ← List.append_assoc]; exact hmid)
          rwa [garbageLeft, if_pos hshort, ← List.length_append] at hlt)
          (by rw [List.length_append]; omega)
        rw [hrest]
        rfl
      · rw [if_neg hshort] at hlook
        rw [socketScanner.drain_of_flush hlook]
        -- the buffer is discarded; by the assumption it was garbage only
        have hgarbage : r ++ c <+: g := by
          rcases hin with ⟨t, ht⟩
          rcases List.eq_nil_or_concat t with rfl | ⟨t, b, rfl⟩
          · rw [List.append_nil] at ht
            have hlt := hsplit [] c cs rfl (by rw [List.flatten_nil, List.append_nil]; exact ht)
            exact absurd hlt hshort
          · rw [List.concat_eq_append, ← List.append_assoc] at ht
            exact ⟨t, (List.append_inj' ht rfl).1⟩
        obtain ⟨g', rfl⟩ := hgarbage
        have hrest := ih (r := []) (g := g') (fun h => hg (h.trans (List.suffix_append _ _).isInfix))
          (by rw [List.append_assoc (r ++ c)] at hcut; exact List.append_cancel_left hcut)
          (Nat.zero_le _)
          (fun before chunk after h hmid => by
            have hlt := hsplit (c :: before) chunk after (by rw [h]; rfl) (by
              rw [List.nil_append] at hmid
              rw [List.flatten_cons, ← List.append_assoc, List.append_assoc, hmid,
                ← List.append_assoc])
            rwa [garbageLeft, if_neg hshort] at hlt)
          (by
            rw [List.length_append, List.length_append] at htotal
            rw [List.length_nil]
            omega)
        rw [hrest]
        rfl

/-- **Resynchronisation.** Frames that follow garbage without a magic come out,
all and in order, exactly when no chunk ends after the first byte of the magic
with eight bytes or more in the buffer. -/
theorem resynchronised_iff {fs : List P2PFrame}
    (hfs : ∀ f ∈ fs, f.payload.length ≤ MAX_FRAME_PAYLOAD_SIZE.toNat) (hne : fs ≠ []) {g : Bytes}
    (hg : ¬ magicBytes <:+: g) {chunks : List Bytes}
    (hcut : chunks.flatten = g ++ frameBytes fs)
    (hfit : fitsBuffer MAX_FRAME_PAYLOAD_SIZE [] chunks) :
    (∃ rest, feedStream MAX_FRAME_PAYLOAD_SIZE [] chunks = .ok (fs, rest)) ↔
      ¬ SplitsMagic 0 g chunks := by
  rw [feedStream_eq (by decide) hfit]
  constructor
  · rintro ⟨rest, hfeed⟩ ⟨before, chunk, after, rfl, hmid, h8⟩
    have hlost : socketScanner.feed [] (before ++ chunk :: after) = socketScanner.feed [] after :=
      feed_garbage (by rw [List.nil_append, hmid]; exact no_magic_concat hg) h8
    -- all frames take more bytes than are left behind the split
    have hlength := socketScanner.length_items_feed P2PFrame.encode
      (fun _ _ _ h => (look_frame h).1) [] after
    have hfs' : (socketScanner.feed [] after).1 = fs := by
      rw [← hlost]
      exact congrArg Prod.fst (Except.ok.inj hfeed)
    have htotal := congrArg List.length hcut
    have hmid' := congrArg List.length hmid
    rw [hfs', ← List.flatMap_def] at hlength
    rw [List.flatten_append, List.flatten_cons, ← List.append_assoc, List.length_append,
      hmid', List.length_append, List.length_append, frameBytes] at htotal
    simp at hlength htotal
    omega
  · intro hsplit
    refine ⟨[], ?_⟩
    have hall : socketScanner.feed [] chunks = (fs, []) := by
      refine feed_unsplit hfs hne hg hcut (Nat.zero_le _) fun before chunk after h hmid => ?_
      rw [List.nil_append] at hmid
      by_contra h8
      exact hsplit ⟨before, chunk, after, h, hmid, not_lt.mp h8⟩
    rw [← hall]
    rfl

end Frames

/-- Three bytes of garbage and a heartbeat that is cut after its first byte: with
four bytes in the buffer nothing is lost. -/
theorem resynchronised_iff_short :
    ∃ rest, feedStream MAX_FRAME_PAYLOAD_SIZE [] [[0, 0, 0, 0x4D], pingPacket.drop 1] =
      .ok ([⟨.Heartbeat, [0x70]⟩], rest) := by
  have hmagic : ¬ magicBytes <:+: [0, 0, 0] := by decide
  have hcut : [[0, 0, 0, 0x4D], pingPacket.drop 1].flatten =
      [0, 0, 0] ++ frameBytes [⟨.Heartbeat, [0x70]⟩] := by decide +kernel
  refine (resynchronised_iff ?_ (List.cons_ne_nil _ _) hmagic hcut (by decide +kernel)).mpr ?_
  · decide
  · rintro ⟨before, chunk, after, h, hmid, h8⟩
    rcases before with _ | ⟨first, _ | ⟨second, before⟩⟩
    · rw [List.nil_append, List.cons.injEq] at h
      rw [garbageLeft, ← h.1] at h8
      exact absurd h8 (by decide)
    · rw [List.cons_append, List.nil_append, List.cons.injEq, List.cons.injEq] at h
      rw [← h.1, ← h.2.1] at hmid
      exact absurd hmid (by decide)
    · have hlength := congrArg List.length h
      simp at hlength

/-- Seven zero bytes and a heartbeat, cut after the heartbeat's first byte: the
buffer of eight bytes is cleared, and the heartbeat is lost. -/
theorem split_magic_loses_frame :
    ¬ magicBytes <:+: List.replicate 7 0 ∧
      [List.replicate 7 0 ++ [0x4D], pingPacket.drop 1].flatten =
        List.replicate 7 0 ++ frameBytes [⟨.Heartbeat, [0x70]⟩] ∧
      fitsBuffer MAX_FRAME_PAYLOAD_SIZE [] [List.replicate 7 0 ++ [0x4D], pingPacket.drop 1] ∧
      feedStream MAX_FRAME_PAYLOAD_SIZE [] [List.replicate 7 0 ++ [0x4D], pingPacket.drop 1] =
        .ok ([], []) :=
  ⟨by decide, by decide +kernel, by decide +kernel, by decide +kernel⟩

end MeckChat.Network
