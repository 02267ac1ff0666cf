/-
What the checksum finds out. Two payloads of one length have the same checksum exactly when the generator
divides the polynomial of the bits in which they differ. It divides none of a short burst, which is too
small once the zeros behind it are taken off, and none with an odd number of terms, since one is a root of
it. A receiver that gets such a payload in the place of another one refuses it at the last octet.
-/
import VoxelCube.Proofs.Crc.PolynomialCode
import VoxelCube.Proofs.Link.Verdicts

namespace VoxelCube

namespace Crc

open Polynomial

variable {variant : Variant} {p q : List UInt8} {bits : List Bool}

/-! ## Polynomials of damage -/

/-- The places in which the bits of two payloads differ, in the order in which a checksum takes them. -/
def damage (variant : Variant) (p q : List UInt8) : List Bool :=
  List.zipWith (· != ·) (variant.bits p) (variant.bits q)

/-- The damage lies within sixteen bits that follow each other. -/
def IsBurst (damage : List Bool) : Prop :=
  ∃ first, ∀ i, damage[i]? = some true → first ≤ i ∧ i < first + 16

theorem ofBits_zipWith {a b : List Bool} (long : a.length = b.length) :
    ofBits (List.zipWith (· != ·) a b) = ofBits a + ofBits b := by
  induction a generalizing b with
  | nil =>
    obtain rfl := List.eq_nil_of_length_eq_zero long.symm
    simp [ofBits]
  | cons bit rest ih =>
    obtain _ | ⟨bit', rest'⟩ := b
    · cases long
    have tail : rest.length = rest'.length := by simpa using long
    have here : (if bit != bit' then (X : (ZMod 2)[X]) ^ rest'.length else 0) =
        (if bit then X ^ rest'.length else 0) + if bit' then X ^ rest'.length else 0 := by
      cases bit <;> cases bit' <;> simp [CharTwo.add_self_eq_zero]
    rw [List.zipWith_cons_cons, ofBits, ofBits, ofBits, ih tail, List.length_zipWith, tail, Nat.min_self,
      here]
    ring

theorem degree_ofBits_lt (bits : List Bool) : (ofBits bits).degree < bits.length := by
  induction bits with
  | nil => simp [ofBits]
  | cons bit rest ih =>
    have grown : ((rest.length : WithBot ℕ)) < (bit :: rest).length := by
      simp
      norm_cast
      omega
    rw [ofBits]
    refine (degree_add_le _ _).trans_lt (max_lt ?_ (ih.trans grown))
    cases bit
    · simp
    · simpa using grown

theorem ofBits_eq_zero_iff : ofBits bits = 0 ↔ true ∉ bits := by
  induction bits with
  | nil => simp [ofBits]
  | cons bit rest ih =>
    cases bit
    · simpa [ofBits] using ih
    · have lower : (ofBits rest).coeff rest.length = 0 :=
        coeff_eq_zero_of_degree_lt (degree_ofBits_lt rest)
      constructor
      · intro zero
        have top := congrArg (fun f => f.coeff rest.length) zero
        simp [ofBits, lower] at top
      · intro none
        exact absurd List.mem_cons_self none

/-- At one, the polynomial of bits counts those that are set. -/
theorem eval_ofBits (bits : List Bool) : (ofBits bits).eval 1 = (bits.count true : ZMod 2) := by
  induction bits with
  | nil => simp [ofBits]
  | cons bit rest ih =>
    rw [ofBits, eval_add, ih]
    cases bit <;> simp [add_comm]

/-! ## What the generator does not divide -/

theorem generator_coprime (n : Nat) : IsCoprime generator (X ^ n) := by
  apply IsCoprime.pow_right
  refine ⟨1, -(X ^ 15 + X ^ 11 + X ^ 4), ?_⟩
  unfold generator
  ring

theorem not_dvd_odd (odd : Odd (bits.count true)) : ¬generator ∣ ofBits bits := by
  rintro ⟨quotient, product⟩
  have root : generator.eval 1 = 0 := by
    simp [generator]
    decide
  have values := congrArg (eval 1) product
  rw [eval_ofBits, eval_mul, root, zero_mul, ZMod.natCast_eq_zero_iff] at values
  exact Nat.not_even_iff_odd.mpr odd (even_iff_two_dvd.mpr values)

/-- A burst is a short run of bits between bits that are not set. -/
theorem IsBurst.split (burst : IsBurst bits) : ∃ before inside behind,
    bits = before ++ inside ++ behind ∧ inside.length ≤ 16 ∧ true ∉ before ∧ true ∉ behind := by
  obtain ⟨first, within⟩ := burst
  refine ⟨bits.take first, (bits.drop first).take 16, (bits.drop first).drop 16, ?_, ?_, ?_, ?_⟩
  · rw [List.append_assoc, List.take_append_drop, List.take_append_drop]
  · exact List.length_take_le 16 _
  · intro mem
    obtain ⟨i, place⟩ := List.mem_iff_getElem?.mp mem
    rw [List.getElem?_take] at place
    split at place
    · have := within i place
      omega
    · cases place
  · intro mem
    obtain ⟨i, place⟩ := List.mem_iff_getElem?.mp mem
    rw [List.getElem?_drop, List.getElem?_drop] at place
    have := within _ place
    omega

theorem not_dvd_burst (burst : IsBurst bits) (some : true ∈ bits) : ¬generator ∣ ofBits bits := by
  intro divides
  obtain ⟨before, inside, behind, rfl, short, clean, clean'⟩ := burst.split
  have shifted : ofBits (before ++ inside ++ behind) = ofBits inside * X ^ behind.length := by
    rw [ofBits_append, ofBits_append, ofBits_eq_zero_iff.mpr clean, ofBits_eq_zero_iff.mpr clean']
    ring
  have within : generator ∣ ofBits inside :=
    (generator_coprime behind.length).dvd_of_dvd_mul_right (shifted ▸ divides)
  have small : (ofBits inside).degree < generator.degree := by
    rw [generator_degree]
    exact (degree_ofBits_lt inside).trans_le (by exact_mod_cast short)
  have zero : ofBits inside = 0 := by
    by_contra left
    exact generator_monic.not_dvd_of_degree_lt left small within
  have none := ofBits_eq_zero_iff.mp zero
  simp only [List.mem_append] at some
  rcases some with (inBefore | inInside) | inBehind
  · exact clean inBefore
  · exact none inInside
  · exact clean' inBehind

/-! ## What a checksum overlooks -/

theorem byteBits_injective {a b : UInt8} (same : variant.byteBits a = variant.byteBits b) : a = b := by
  apply UInt8.toBitVec_inj.mp
  have bit : ∀ i < 8, (variant.byteBits a)[i]? = (variant.byteBits b)[i]? := by simp [same]
  cases variant with
  | xmodem =>
    apply BitVec.eq_of_getMsbD_eq
    intro i inside
    simpa [Variant.byteBits, inside] using bit i inside
  | ccitt =>
    apply BitVec.eq_of_getLsbD_eq
    intro i inside
    simpa [Variant.byteBits, inside] using bit i inside

theorem bits_injective (long : p.length = q.length) (same : variant.bits p = variant.bits q) : p = q := by
  induction p generalizing q with
  | nil => exact (List.eq_nil_of_length_eq_zero long.symm).symm
  | cons b rest ih =>
    obtain _ | ⟨b', rest'⟩ := q
    · cases long
    · simp only [Variant.bits, List.flatMap_cons] at same
      obtain ⟨first, others⟩ := List.append_inj same (by rw [length_byteBits, length_byteBits])
      rw [byteBits_injective first, ih (by simpa using long) others]

theorem eq_of_zipWith {a b : List Bool} (long : a.length = b.length)
    (none : true ∉ List.zipWith (· != ·) a b) : a = b := by
  induction a generalizing b with
  | nil => exact (List.eq_nil_of_length_eq_zero long.symm).symm
  | cons bit rest ih =>
    obtain _ | ⟨bit', rest'⟩ := b
    · cases long
    · simp only [List.zipWith_cons_cons, List.mem_cons, not_or] at none
      have here : bit = bit' := by simpa using none.1
      rw [here, ih (by simpa using long) none.2]

/-- Different payloads are different in some bit. -/
theorem mem_damage (long : p.length = q.length) (apart : p ≠ q) : true ∈ damage variant p q := by
  by_contra none
  exact apart (bits_injective long (eq_of_zipWith (by rw [length_bits, length_bits, long]) none))

theorem byteBits_ccitt (b : UInt8) :
    Variant.ccitt.byteBits b = Variant.xmodem.byteBits (mirrorByte b) := by
  simp only [Variant.byteBits, mirrorByte, BitVec.getMsbD_reverse]

/-- The bits of a payload in the one order are those of the mirrored payload in the other. -/
theorem bits_ccitt (bytes : List UInt8) :
    Variant.ccitt.bits bytes = Variant.xmodem.bits (bytes.map mirrorByte) := by
  unfold Variant.bits
  rw [List.flatMap_map]
  exact congrArg (fun byteBits => bytes.flatMap byteBits) (funext byteBits_ccitt)

theorem residue_injective {a b : UInt16} (same : residue a = residue b) : a = b := by
  have small : (poly a.toBitVec - poly b.toBitVec).degree < generator.degree := by
    rw [generator_degree]
    exact (degree_sub_le _ _).trans_lt (max_lt (degree_poly_lt _) (degree_poly_lt _))
  have zero := eq_zero_of_dvd_of_degree_lt (AdjoinRoot.mk_eq_mk.mp same) small
  exact UInt16.toBitVec_inj.mp (poly_injective (sub_eq_zero.mp zero))

theorem checksum_xmodem_eq_iff (long : p.length = q.length) :
    checksum .xmodem p = checksum .xmodem q ↔ generator ∣ ofBits (damage .xmodem p q) := by
  have difference : poly seed.toBitVec * X ^ (8 * p.length) + ofBits (Variant.xmodem.bits p) * X ^ 16 -
      (poly seed.toBitVec * X ^ (8 * q.length) + ofBits (Variant.xmodem.bits q) * X ^ 16) =
        ofBits (damage .xmodem p q) * X ^ 16 := by
    rw [damage, ofBits_zipWith (by rw [length_bits, length_bits, long]), long,
      ← CharTwo.sub_eq_add (ofBits (Variant.xmodem.bits p))]
    ring
  have registers : checksum .xmodem p = checksum .xmodem q ↔
      residue (checksum .xmodem p) = residue (checksum .xmodem q) := ⟨congrArg residue, residue_injective⟩
  rw [registers, checksum, checksum, residue_foldl, residue_foldl, AdjoinRoot.mk_eq_mk, difference]
  constructor
  · exact (generator_coprime 16).dvd_of_dvd_mul_right
  · intro divides
    exact divides.mul_right _

/-- Two payloads of one length have the same checksum exactly when the generator divides the polynomial
of the damage. -/
theorem checksum_eq_iff (long : p.length = q.length) :
    checksum variant p = checksum variant q ↔ generator ∣ ofBits (damage variant p q) := by
  cases variant with
  | xmodem => exact checksum_xmodem_eq_iff long
  | ccitt =>
    have mirrored : damage .ccitt p q = damage .xmodem (p.map mirrorByte) (q.map mirrorByte) := by
      rw [damage, damage, bits_ccitt, bits_ccitt]
    rw [mirrored, ← checksum_xmodem_eq_iff (by simpa using long), checksum_ccitt, checksum_ccitt]
    exact ⟨mirrorWord_injective, congrArg mirrorWord⟩

theorem checksum_ne (long : p.length = q.length) (apart : p ≠ q)
    (detectable : IsBurst (damage variant p q) ∨ Odd ((damage variant p q).count true)) :
    checksum variant p ≠ checksum variant q := by
  intro same
  have divides := (checksum_eq_iff long).mp same
  rcases detectable with burst | odd
  · exact not_dvd_burst burst (mem_damage long apart) divides
  · exact not_dvd_odd odd divides

end Crc

namespace Link

/-! ## What a receiver refuses -/

/-- A payload on the wire that was replaced by `received`, with the length and the checksum left as they
were sent. -/
def damagedWire (variant : Crc.Variant) (sent received : List UInt8) : List UInt8 :=
  [startOctet, openOctet] ++ Hex.encode (Word.toBytes 2 sent.length) ++ Hex.encode received ++
    Hex.encode (Word.toBytes 2 (Crc.checksum variant sent).toNat)

namespace Receiver

variable (variant : Crc.Variant)

/-- A receiver takes a frame in silence up to its last octet, on which it gives its verdict on the payload
that came. -/
theorem damagedWire_judged {r : Receiver} (wf : r.WF) {p q : List UInt8} (long : p.length = q.length)
    (fits : p.length ≤ capacity) : ∃ front last, damagedWire variant p q = front ++ [last] ∧
      Silent variant r front ∧ (after variant r front).feed variant last =
        (ready, some (judge variant q (Crc.checksum variant p))) := by
  have small : p.length < 65536 := by
    unfold capacity at fits
    omega
  have number : (UInt16.ofNat p.length).toNat = p.length := UInt16.toNat_ofNat_of_lt' small
  have all : q.length = (UInt16.ofNat p.length).toNat := by rw [number, long]
  have allDigits : ∀ c ∈ announced (UInt16.ofNat p.length) q ++
      Hex.encode (Word.toBytes 2 (Crc.checksum variant p).toNat), Hex.IsDigit c := by
    intro c mem
    rcases List.mem_append.mp mem with front | last
    · exact isDigit_of_mem_announced front
    · exact Hex.isDigit_of_mem_encode last
  obtain ⟨front, last, digits, silent, outcome⟩ := read_to_end variant wf
    ((announced_begins _ q).trans (List.prefix_append _ _))
    (whole_digits (Crc.checksum variant p) all (long ▸ fits)) allDigits
  refine ⟨[startOctet, openOctet] ++ front, last, ?_, silent, outcome.of_whole all (long ▸ fits)⟩
  rw [List.append_assoc, ← digits, damagedWire, announced, number]
  simp only [List.append_assoc]

/-- **Error detection.** Two payloads of one length, however long, that differ in a burst of at most sixteen
bits or in an odd number of them have different checksums. Where one that fits is put in the place of the
other one on the wire, a new receiver reports nothing up to the last octet, on which it finds the checksum
wrong. -/
theorem damage_detected {p q : List UInt8} (long : p.length = q.length) (apart : p ≠ q)
    (detectable : Crc.IsBurst (Crc.damage variant p q) ∨ Odd ((Crc.damage variant p q).count true)) :
    Crc.checksum variant p ≠ Crc.checksum variant q ∧
      (p.length ≤ capacity → ∃ front last, damagedWire variant p q = front ++ [last] ∧
        Silent variant ready front ∧
        (after variant ready front).feed variant last = (ready, some (.error .badChecksum))) := by
  have wrong := Crc.checksum_ne long apart detectable
  refine ⟨wrong, fun fits => ?_⟩
  obtain ⟨front, last, split, silent, judged⟩ :=
    damagedWire_judged variant (show ready.WF from trivial) long fits
  rw [judge, if_neg wrong] at judged
  exact ⟨front, last, split, silent, judged⟩

/-- Two digits that changed places, and one bit that was turned round. -/
theorem swap_and_flip_detected :
    (∃ front last, damagedWire .xmodem [0x31, 0x32] [0x32, 0x31] = front ++ [last] ∧
      Silent .xmodem ready front ∧
      (after .xmodem ready front).feed .xmodem last = (ready, some (.error .badChecksum))) ∧
    ∃ front last, damagedWire .ccitt [0x31, 0x32] [0x31, 0x36] = front ++ [last] ∧
      Silent .ccitt ready front ∧
      (after .ccitt ready front).feed .ccitt last = (ready, some (.error .badChecksum)) := by
  have burst : Crc.IsBurst (Crc.damage .xmodem [0x31, 0x32] [0x32, 0x31]) := by
    refine ⟨0, fun i differs => ⟨Nat.zero_le i, ?_⟩⟩
    obtain ⟨inside, -⟩ := List.getElem?_eq_some_iff.mp differs
    simpa [Crc.damage, Crc.length_bits] using inside
  have odd : Odd ((Crc.damage .ccitt [0x31, 0x32] [0x31, 0x36]).count true) := by decide +kernel
  constructor
  · have detected := damage_detected .xmodem (p := [0x31, 0x32]) (q := [0x32, 0x31]) rfl (by decide)
      (.inl burst)
    exact detected.2 (by decide)
  · have detected := damage_detected .ccitt (p := [0x31, 0x32]) (q := [0x31, 0x36]) rfl (by decide)
      (.inr odd)
    exact detected.2 (by decide)

end Receiver

end Link

end VoxelCube
