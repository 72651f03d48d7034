import MeckChat.Foundation.CyclicCode
import MeckChat.Protocol.Framing

/-!
The checksum of a frame as a cyclic code (`P2PFrame::calculateCrc32`).

* `toBitVec_crcBit` and `toBitVec_crcByte` connect the loop of the source with the shift register
  of the library.
* `calculateCrc32_eq`: the checksum is the complement of the reflected remainder of the message.
* `calculateCrc32_ne_of_burst`: messages that differ in four consecutive bytes have different
  checksums, and `decode_burst` says so of frames.
-/

namespace MeckChat.Protocol

namespace P2PFrame

open Polynomial CyclicCode

/-! ### The loop and the register -/

/-- The constant of the loop: the coefficients of the generator below the leading one, that of
`X ^ 31` being the lowest bit. -/
def crcWord : BitVec 32 := 0xEDB88320

/-- One bit of the loop is one step of the register. -/
lemma toBitVec_crcBit (crc : UInt32) :
    (crcBit crc).toBitVec = shift crcWord crc.toBitVec := by
  have hlow : crc.toBitVec &&& 1 = (BitVec.ofBool (crc.toBitVec.getLsbD 0)).setWidth 32 :=
    BitVec.and_one_eq_setWidth_ofBool_getLsbD
  show (crc.toBitVec >>> 1) ^^^ (crcWord &&& -(crc.toBitVec &&& 1)) = _
  rw [shift, hlow]
  cases crc.toBitVec.getLsbD 0 with
  | false => rfl
  | true => rfl

/-- One byte of the loop is one symbol of eight bits. -/
lemma toBitVec_crcByte (crc : UInt32) (byte : UInt8) :
    (crcByte crc byte).toBitVec = feed crcWord crc.toBitVec byte.toBitVec := by
  have hsteps : ∀ (n : ℕ) (c : UInt32),
      ((List.range n).foldl (fun crc _ => crcBit crc) c).toBitVec =
        (shift crcWord)^[n] c.toBitVec := by
    intro n c
    induction n with
    | zero => rfl
    | succ n ih =>
        rw [List.range_succ, List.foldl_append, List.foldl_cons, List.foldl_nil, toBitVec_crcBit,
          ih, Function.iterate_succ_apply']
  rw [crcByte, hsteps, feed]
  rfl

/-- The loop over a byte string is the register behind it. -/
lemma toBitVec_foldl_crcByte (data : Bytes) (crc : UInt32) :
    (data.foldl crcByte crc).toBitVec =
      register crcWord crc.toBitVec (data.map UInt8.toBitVec) := by
  induction data generalizing crc with
  | nil => rfl
  | cons byte data ih =>
      rw [List.foldl_cons, ih, toBitVec_crcByte, List.map_cons]
      rfl

/-! ### The remainder -/

/-- The polynomial of a byte string: the bits of each byte from the lowest on, the first one being
the highest coefficient. -/
noncomputable def dataPoly (data : Bytes) : (ZMod 2)[X] :=
  bitPoly (data.flatMap fun byte => wordBits byte.toBitVec)

/-- The polynomial 0x104C11DB7, bit `i` being the coefficient of `X ^ i`. -/
noncomputable def crcPolynomial : (ZMod 2)[X] :=
  ∑ i ∈ Finset.range 33, if Nat.testBit 0x104C11DB7 i then X ^ i else 0

lemma crcPolynomial_eq : crcPolynomial = generator crcWord := by
  have hreflected : ∀ i < 32, crcWord.getLsbD (32 - 1 - i) = Nat.testBit 0x104C11DB7 i := by decide
  have hrest : ∀ i ∈ Finset.range 32,
      (if Nat.testBit 0x104C11DB7 i then X ^ i else 0 : (ZMod 2)[X]) =
        if crcWord.getLsbD (32 - 1 - i) then X ^ i else 0 := by
    intro i hi
    rw [hreflected i (Finset.mem_range.mp hi)]
  rw [crcPolynomial, Finset.sum_range_succ, if_pos (by decide), Finset.sum_congr rfl hrest,
    ← wordPoly_eq_sum, generator, add_comm]

/-- The register starts with ones. -/
lemma wordPoly_ones : wordPoly (0xFFFFFFFF : BitVec 32) = ∑ i ∈ Finset.range 32, X ^ i := by
  have hones : ∀ i < 32, (0xFFFFFFFF : BitVec 32).getLsbD (32 - 1 - i) = true := by decide
  rw [wordPoly_eq_sum]
  apply Finset.sum_congr rfl
  intro i hi
  rw [if_pos (hones i (Finset.mem_range.mp hi))]

/-- **The checksum is the CRC-32 of IEEE 802.3**: the complement of the reflected remainder of
`X ^ 32 * M + X ^ (8 * n) * (X ^ 31 + ⋯ + 1)`, where `M` is the polynomial of the `n` bytes. -/
theorem calculateCrc32_eq (data : Bytes) :
    calculateCrc32 data =
      ⟨~~~(wordOf ((X ^ 32 * dataPoly data +
        X ^ (8 * data.length) * ∑ i ∈ Finset.range 32, X ^ i) %ₘ crcPolynomial) :
          BitVec 32).reverse⟩ := by
  obtain ⟨c, hc⟩ : ∃ c, c = data.foldl crcByte 0xFFFFFFFF := ⟨_, rfl⟩
  have hregister : c.toBitVec =
      register crcWord (0xFFFFFFFF : BitVec 32) (data.map UInt8.toBitVec) := by
    rw [hc]
    exact toBitVec_foldl_crcByte data 0xFFFFFFFF
  have hmessage : messagePoly (data.map UInt8.toBitVec) = dataPoly data := by
    rw [messagePoly, dataPoly, List.flatMap_map]
  have hresidue := residue_register (k := 8) (w := 32) (by omega) crcWord 0xFFFFFFFF
    (data.map UInt8.toBitVec)
  rw [← hregister, hmessage, wordPoly_ones, List.length_map, add_comm] at hresidue
  rw [crcPolynomial_eq, ← wordPoly_eq_modByMonic crcWord hresidue, reverse_wordOf_wordPoly,
    calculateCrc32, ← hc]
  rfl

/-! ### Bursts -/

/-- Messages that differ in four consecutive bytes have different checksums. -/
theorem calculateCrc32_ne_of_burst (front back : Bytes) {burst burst' : Bytes}
    (hlength : burst.length = burst'.length) (hshort : burst.length ≤ 4) (hne : burst ≠ burst') :
    calculateCrc32 (front ++ burst ++ back) ≠ calculateCrc32 (front ++ burst' ++ back) := by
  have hinj : Function.Injective UInt8.toBitVec := fun _ _ h => UInt8.toBitVec_inj.mp h
  have hconst : crcWord.getLsbD (32 - 1) = true := by decide
  have hlength' : (burst.map UInt8.toBitVec).length = (burst'.map UInt8.toBitVec).length := by
    rw [List.length_map, List.length_map, hlength]
  have hne' : burst.map UInt8.toBitVec ≠ burst'.map UInt8.toBitVec := fun h =>
    hne (List.map_injective_iff.mpr hinj h)
  have hregister := register_ne_of_burst (by omega : 8 ≤ 32) hconst 0xFFFFFFFF
    (front.map UInt8.toBitVec) (back.map UInt8.toBitVec) hlength'
    (by rw [List.length_map]; omega) hne'
  intro h
  apply hregister
  have hcomplement : (front ++ burst ++ back).foldl crcByte 0xFFFFFFFF =
      (front ++ burst' ++ back).foldl crcByte 0xFFFFFFFF := by
    rw [calculateCrc32, calculateCrc32] at h
    exact UInt32.not_inj.mp h
  have hbits := congrArg UInt32.toBitVec hcomplement
  rw [toBitVec_foldl_crcByte, toBitVec_foldl_crcByte] at hbits
  simp only [List.map_append] at hbits
  exact hbits

/-- Two strings that differ in four consecutive positions only agree on both sides of them. -/
lemma sides_of_burst {d e : Bytes} {start : ℕ}
    (hburst : ∀ i, d[i]? ≠ e[i]? → start ≤ i ∧ i < start + 4) :
    d.take start = e.take start ∧ d.drop (start + 4) = e.drop (start + 4) := by
  constructor
  · apply List.ext_getElem?
    intro i
    rw [List.getElem?_take, List.getElem?_take]
    split_ifs with hi
    · by_contra hne
      have hin := (hburst i hne).1
      omega
    · rfl
  · apply List.ext_getElem?
    intro i
    rw [List.getElem?_drop, List.getElem?_drop]
    by_contra hne
    have hin := (hburst _ hne).2
    omega

/-- If they agree there as well, they are the same. -/
lemma eq_of_sides {d e : Bytes} {start : ℕ} (hfront : d.take start = e.take start)
    (hmid : slice d start 4 = slice e start 4) (hback : d.drop (start + 4) = e.drop (start + 4)) :
    d = e := by
  have hparts : ∀ b : Bytes, b = b.take start ++ (slice b start 4 ++ b.drop (start + 4)) := by
    intro b
    rw [slice, ← List.drop_drop, List.take_append_drop, List.take_append_drop]
  rw [hparts d, hparts e, hfront, hmid, hback]

/-- A slice behind the burst, and one in front of it. -/
lemma slice_eq_of_drop {d e : Bytes} {n off len : ℕ} (h : d.drop n = e.drop n) (hn : n ≤ off) :
    slice d off len = slice e off len := by
  obtain ⟨m, rfl⟩ : ∃ m, off = n + m := ⟨off - n, by omega⟩
  rw [slice, slice, ← List.drop_drop, ← List.drop_drop, h]

lemma slice_zero_eq_take (d : Bytes) (n : ℕ) : slice d 0 n = d.take n := by
  rw [slice, List.drop_zero]

/-- **Burst errors are detected.** A string that differs from an encoding, but only in four
consecutive bytes of the checksummed part or only in the checksum, is refused. -/
theorem decode_burst {f : P2PFrame} (hf : f.payload.length < 2 ^ 31 - 12) {d : Bytes}
    (hlength : d.length = f.encode.length) (hne : d ≠ f.encode) {start : ℕ}
    (hpart : start + 4 ≤ f.encode.length - 4 ∨ start = f.encode.length - 4)
    (hburst : ∀ i, d[i]? ≠ f.encode[i]? → start ≤ i ∧ i < start + 4) :
    decode d = .ok none := by
  have hframe := isFrame_encode hf
  have hsize : 12 ≤ f.encode.length := by
    rw [length_encode]
    omega
  obtain ⟨e, he⟩ : ∃ e, e = f.encode := ⟨_, rfl⟩
  rw [← he] at hframe hsize hlength hne hpart hburst
  obtain ⟨hfront, hback⟩ := sides_of_burst hburst
  rw [decode_eq_ok, decodePacket, if_neg]
  intro hd
  have hcrc := hd.crc
  rw [hlength] at hcrc
  have hmid : slice d start 4 = slice e start 4 := by
    rcases hpart with hchecked | rfl
    · -- the checksum is the one of the encoding, so the checksummed parts cannot differ in a burst
      have hsame : calculateCrc32 (slice d 0 (e.length - 4)) =
          calculateCrc32 (slice e 0 (e.length - 4)) := by
        rw [← hcrc, ← hframe.crc, slice_eq_of_drop hback (by omega)]
      have hparts : ∀ b : Bytes, slice b 0 (e.length - 4) =
          b.take start ++ slice b start 4 ++ slice b (start + 4) (e.length - 4 - (start + 4)) := by
        intro b
        have hin := slice_append_slice b 0 start 4
        have hall := slice_append_slice b 0 (start + 4) (e.length - 4 - (start + 4))
        rw [Nat.zero_add] at hin hall
        rw [← slice_zero_eq_take, hin, hall]
        congr 1
        omega
      by_contra hdiff
      rw [hparts d, hparts e, hfront, slice_eq_of_drop hback le_rfl] at hsame
      refine calculateCrc32_ne_of_burst _ _ ?_ ?_ hdiff hsame
      · rw [length_slice (by omega), length_slice (by omega)]
      · rw [length_slice (by omega)]
    · -- the checksummed parts agree, so their checksums do
      have hchecksum : ofBE32 (slice d (e.length - 4) 4) = ofBE32 (slice e (e.length - 4) 4) := by
        rw [hcrc, hframe.crc, slice_zero_eq_take, slice_zero_eq_take, hfront]
      have hfield : (slice d (e.length - 4) 4).length = 4 := length_slice (by omega)
      rw [← be32_ofBE32 hfield, hchecksum, be32_ofBE32 (length_slice (by omega))]
  exact hne (eq_of_sides hfront hmid hback)

/-- A frame without payload, with the last byte of its type overwritten. -/
theorem decode_burst_heartbeat :
    decode (({ type := .Heartbeat, payload := [] } : P2PFrame).encode.set 3 0xFF) = .ok none := by
  refine @decode_burst { type := .Heartbeat, payload := [] } (by decide) _ ?_ ?_ 0 ?_ ?_
  · rw [List.length_set]
  · decide +kernel
  · left
    rw [length_encode]
    decide
  · intro i hi
    by_cases h3 : i = 3
    · omega
    · exact absurd (List.getElem?_set_ne (Ne.symm h3)) hi

end P2PFrame

end MeckChat.Protocol
