/-
The checksums as one polynomial code. A register is a polynomial over the field of two elements, its bits
the coefficients. A left shift multiplies by `X` and takes the generator off where a bit falls out, so
that eight of them make a byte the next eight coefficients; what is left in the register at the end is the
remainder of the whole. A right shift does the same to a register that is read from its other end.
-/
import Mathlib.Algebra.CharP.Two
import Mathlib.Algebra.Field.ZMod
import Mathlib.RingTheory.AdjoinRoot
import Mathlib.Tactic.ComputeDegree
import VoxelCube.Crc

namespace VoxelCube.Crc

open Polynomial

/-! ## Polynomials of bits -/

/-- The polynomial of a word: each bit is the coefficient at its place. -/
noncomputable def poly {w : Nat} (x : BitVec w) : (ZMod 2)[X] :=
  ∑ i ∈ Finset.range w, if x.getLsbD i then X ^ i else 0

/-- The polynomial of a run of bits, the highest coefficient first. -/
noncomputable def ofBits : (bits : List Bool) → (ZMod 2)[X]
  | [] => 0
  | bit :: rest => (if bit then X ^ rest.length else 0) + ofBits rest

/-- The bits of a byte in the order in which a checksum takes them. -/
def Variant.byteBits (variant : Variant) (b : UInt8) : List Bool :=
  (List.range 8).map fun i =>
    match variant with
    | .xmodem => b.toBitVec.getMsbD i
    | .ccitt => b.toBitVec.getLsbD i

/-- The bits of bytes in the order in which a checksum takes them. -/
def Variant.bits (variant : Variant) (bytes : List UInt8) : List Bool := bytes.flatMap variant.byteBits

theorem length_byteBits (variant : Variant) (b : UInt8) : (variant.byteBits b).length = 8 := by
  simp [Variant.byteBits]

theorem length_bits (variant : Variant) (bytes : List UInt8) :
    (variant.bits bytes).length = 8 * bytes.length := by
  induction bytes with
  | nil => rfl
  | cons b rest ih =>
    have first := length_byteBits variant b
    simp only [Variant.bits, List.flatMap_cons, List.length_append, List.length_cons] at ih ⊢
    omega

theorem coeff_poly {w : Nat} (x : BitVec w) (i : Nat) :
    (poly x).coeff i = if x.getLsbD i then 1 else 0 := by
  have term : ∀ j, (if x.getLsbD j then (X : (ZMod 2)[X]) ^ j else 0).coeff i =
      if i = j then (if x.getLsbD i then 1 else 0) else 0 := by
    intro j
    by_cases same : i = j
    · subst same
      rw [if_pos rfl]
      split <;> simp
    · rw [if_neg same]
      split
      · rw [coeff_X_pow, if_neg same]
      · exact coeff_zero i
  unfold poly
  rw [finsetSum_coeff]
  simp only [term, Finset.sum_ite_eq, Finset.mem_range]
  by_cases inside : i < w
  · rw [if_pos inside]
  · rw [if_neg inside, BitVec.getLsbD_of_ge x i (Nat.le_of_not_lt inside)]
    rfl

theorem degree_poly_lt {w : Nat} (x : BitVec w) : (poly x).degree < w := by
  rw [degree_lt_iff_coeff_zero]
  intro i beyond
  rw [coeff_poly, BitVec.getLsbD_of_ge x i beyond]
  rfl

theorem poly_injective {w : Nat} {x y : BitVec w} (same : poly x = poly y) : x = y := by
  apply BitVec.eq_of_getLsbD_eq
  intro i _
  have coeffs := congrArg (fun p => p.coeff i) same
  simp only [coeff_poly] at coeffs
  generalize x.getLsbD i = a at coeffs ⊢
  generalize y.getLsbD i = b at coeffs ⊢
  revert a b
  decide

theorem poly_xor {w : Nat} (x y : BitVec w) : poly (x ^^^ y) = poly x + poly y := by
  ext i
  rw [coeff_add, coeff_poly, coeff_poly, coeff_poly, BitVec.getLsbD_xor]
  cases x.getLsbD i <;> cases y.getLsbD i <;> decide

/-- Doubling a word multiplies its polynomial, less the bit that falls out. -/
theorem poly_double {w : Nat} (some : 0 < w) (x : BitVec w) :
    poly (x <<< 1) = X * poly x + if x.msb then X ^ w else 0 := by
  have top : (if x.msb then (X : (ZMod 2)[X]) ^ w else 0).coeff w = if x.getLsbD (w - 1) then 1 else 0 := by
    rw [BitVec.msb_eq_getLsbD_last]
    split <;> simp
  have other : ∀ i, i ≠ w → (if x.msb then (X : (ZMod 2)[X]) ^ w else 0).coeff i = 0 := by
    intro i apart
    split
    · rw [coeff_X_pow, if_neg apart]
    · exact coeff_zero i
  ext i
  rw [coeff_add, coeff_poly, BitVec.getLsbD_shiftLeft]
  cases i with
  | zero =>
    rw [other 0 (Nat.ne_of_lt some), coeff_X_mul_zero]
    simp
  | succ i =>
    rw [coeff_X_mul, coeff_poly]
    by_cases last : i + 1 = w
    · subst last
      rw [top, Nat.add_sub_cancel]
      generalize x.getLsbD i = bit
      cases bit <;> simp
      decide
    · rw [other _ last]
      by_cases inside : i + 1 < w
      · simp [inside]
      · have beyond : x.getLsbD i = false := BitVec.getLsbD_of_ge x i (by omega)
        simp [beyond]

/-- A byte that enters a register at its upper end. -/
theorem poly_upper (b : BitVec 8) : poly (b.setWidth 16 <<< 8) = X ^ 8 * poly b := by
  ext i
  rw [coeff_poly, BitVec.getLsbD_shiftLeft, BitVec.getLsbD_setWidth, coeff_X_pow_mul', coeff_poly]
  by_cases upper : 8 ≤ i
  · by_cases inside : i < 16
    · simp [upper, inside, show ¬i < 8 by omega, show i - 8 < 16 by omega]
    · have beyond : b.getLsbD (i - 8) = false := BitVec.getLsbD_of_ge b _ (by omega)
      simp [beyond]
  · simp [upper, show i < 8 by omega]

theorem ofBits_append (a b : List Bool) : ofBits (a ++ b) = ofBits a * X ^ b.length + ofBits b := by
  induction a with
  | nil => simp [ofBits]
  | cons bit rest ih =>
    rw [List.cons_append, ofBits, ofBits, ih, List.length_append]
    split <;> ring

theorem ofBits_byte (b : UInt8) : ofBits (Variant.xmodem.byteBits b) = poly b.toBitVec := by
  have bits : Variant.xmodem.byteBits b = [b.toBitVec.getLsbD 7, b.toBitVec.getLsbD 6,
      b.toBitVec.getLsbD 5, b.toBitVec.getLsbD 4, b.toBitVec.getLsbD 3, b.toBitVec.getLsbD 2,
      b.toBitVec.getLsbD 1, b.toBitVec.getLsbD 0] := rfl
  rw [bits]
  simp only [ofBits, poly, Finset.sum_range_succ, Finset.sum_range_zero, List.length_cons,
    List.length_nil]
  ring

/-! ## Shifts of the register -/

/-- The generator of the code. -/
noncomputable def generator : (ZMod 2)[X] := X ^ 16 + X ^ 12 + X ^ 5 + 1

theorem generator_monic : generator.Monic := by
  unfold generator
  monicity!

theorem generator_degree : generator.degree = 16 := by
  unfold generator
  compute_degree!

theorem poly_feedback : poly 0x1021#16 = X ^ 12 + X ^ 5 + 1 := by
  simp [poly, Finset.sum_range_succ]
  ring

theorem toBitVec_shiftLeft (crc : UInt16) : (shiftLeft crc).toBitVec =
    if crc.toBitVec.msb then crc.toBitVec <<< 1 ^^^ 0x1021#16 else crc.toBitVec <<< 1 := by
  have top : (crc &&& 0x8000 ≠ 0) ↔ crc.toBitVec.msb = true := by
    rw [Ne, ← UInt16.toBitVec_inj, UInt16.toBitVec_and, BitVec.msb_eq_getLsbD_last,
      show (0x8000 : UInt16).toBitVec = BitVec.twoPow 16 15 from rfl, BitVec.and_twoPow]
    cases crc.toBitVec.getLsbD 15 <;> decide
  unfold shiftLeft
  simp only [top]
  split <;> simp

theorem toBitVec_shiftRight (crc : UInt16) : (shiftRight crc).toBitVec =
    if crc.toBitVec.getLsbD 0 then crc.toBitVec >>> 1 ^^^ 0x8408#16 else crc.toBitVec >>> 1 := by
  have bottom : (crc &&& 1 ≠ 0) ↔ crc.toBitVec.getLsbD 0 = true := by
    rw [Ne, ← UInt16.toBitVec_inj, UInt16.toBitVec_and,
      show (1 : UInt16).toBitVec = BitVec.twoPow 16 0 from rfl, BitVec.and_twoPow]
    cases crc.toBitVec.getLsbD 0 <;> decide
  unfold shiftRight
  simp only [bottom]
  split <;> simp

/-- A shift multiplies, and takes the generator off where a bit falls out. -/
theorem poly_shiftLeft (crc : UInt16) : poly (shiftLeft crc).toBitVec =
    X * poly crc.toBitVec + if crc.toBitVec.msb then generator else 0 := by
  rw [toBitVec_shiftLeft]
  have doubled := poly_double (by decide) crc.toBitVec
  split
  · rename_i falls
    rw [poly_xor, doubled, if_pos falls, poly_feedback, generator]
    ring
  · rename_i kept
    rw [doubled, if_neg kept]

/-! ## Residues -/

/-- The remainders of polynomials by the generator. -/
abbrev Residue : Type := AdjoinRoot generator

/-- The residue of what a register holds. -/
noncomputable def residue (crc : UInt16) : Residue := AdjoinRoot.mk generator (poly crc.toBitVec)

theorem residue_shiftLeft (crc : UInt16) :
    residue (shiftLeft crc) = AdjoinRoot.root generator * residue crc := by
  unfold residue
  rw [poly_shiftLeft, map_add, map_mul, AdjoinRoot.mk_X]
  split <;> simp

theorem residue_shifts (n : Nat) (crc : UInt16) :
    residue (Nat.repeat shiftLeft n crc) = AdjoinRoot.root generator ^ n * residue crc := by
  induction n with
  | zero => simp [Nat.repeat]
  | succ n ih =>
    rw [Nat.repeat, residue_shiftLeft, ih]
    ring

theorem residue_update (crc : UInt16) (b : UInt8) : residue (Variant.xmodem.update crc b) =
    AdjoinRoot.mk generator (poly crc.toBitVec * X ^ 8 + poly b.toBitVec * X ^ 16) := by
  have entered : poly (crc ^^^ b.toUInt16 <<< 8).toBitVec =
      poly crc.toBitVec + X ^ 8 * poly b.toBitVec := by
    rw [UInt16.toBitVec_xor, poly_xor, ← poly_upper]
    rfl
  rw [Variant.update, residue_shifts, residue, entered, ← AdjoinRoot.mk_X, ← map_pow, ← map_mul]
  exact congrArg _ (by ring)

theorem residue_foldl (bytes : List UInt8) (crc : UInt16) :
    residue (bytes.foldl Variant.xmodem.update crc) = AdjoinRoot.mk generator
      (poly crc.toBitVec * X ^ (8 * bytes.length) + ofBits (Variant.xmodem.bits bytes) * X ^ 16) := by
  -- The induction is on the bytes from the front; the register holds those before them.
  induction bytes generalizing crc with
  | nil => simp [residue, Variant.bits, ofBits]
  | cons b rest ih =>
    have bits : ofBits (Variant.xmodem.bits (b :: rest)) =
        poly b.toBitVec * X ^ (8 * rest.length) + ofBits (Variant.xmodem.bits rest) := by
      have front : Variant.xmodem.bits (b :: rest) =
          Variant.xmodem.byteBits b ++ Variant.xmodem.bits rest := List.flatMap_cons
      rw [front, ofBits_append, ofBits_byte, length_bits]
    have updated : AdjoinRoot.mk generator (poly (Variant.xmodem.update crc b).toBitVec) = _ :=
      residue_update crc b
    rw [List.foldl_cons, ih, map_add, map_mul, updated, ← map_mul, ← map_add, bits, List.length_cons]
    exact congrArg _ (by ring)

/-- The register at the end of bytes, as a polynomial. -/
theorem poly_foldl (bytes : List UInt8) (crc : UInt16) :
    poly (bytes.foldl Variant.xmodem.update crc).toBitVec =
      (poly crc.toBitVec * X ^ (8 * bytes.length) +
        ofBits (Variant.xmodem.bits bytes) * X ^ 16) %ₘ generator := by
  have small : (poly (bytes.foldl Variant.xmodem.update crc).toBitVec).degree < generator.degree := by
    rw [generator_degree]
    exact degree_poly_lt _
  have same := AdjoinRoot.mk_eq_mk.mp (residue_foldl bytes crc)
  rw [← modByMonic_eq_of_dvd_sub generator_monic same, (modByMonic_eq_self_iff generator_monic).mpr small]

/-! ## Registers read from the other end -/

/-- A byte with its bits in the other order. -/
def mirrorByte (b : UInt8) : UInt8 := .ofBitVec b.toBitVec.reverse

/-- A register with its bits in the other order. -/
def mirrorWord (crc : UInt16) : UInt16 := .ofBitVec crc.toBitVec.reverse

theorem mirrorWord_injective {a b : UInt16} (same : mirrorWord a = mirrorWord b) : a = b := by
  have reversed := congrArg (fun n : UInt16 => n.toBitVec.reverse) same
  simp only [mirrorWord, BitVec.reverse_reverse_eq] at reversed
  exact UInt16.toBitVec_inj.mp reversed

theorem reverse_xor {w : Nat} (x y : BitVec w) : (x ^^^ y).reverse = x.reverse ^^^ y.reverse := by
  apply BitVec.eq_of_getLsbD_eq
  intro i _
  simp only [BitVec.getLsbD_reverse, BitVec.getLsbD_xor, BitVec.getMsbD_xor]

theorem reverse_double {w : Nat} (x : BitVec w) : (x <<< 1).reverse = x.reverse >>> 1 := by
  apply BitVec.eq_of_getLsbD_eq
  intro i _
  simp only [BitVec.getLsbD_reverse, BitVec.getLsbD_ushiftRight, BitVec.getMsbD_shiftLeft, Nat.add_comm]

theorem mirrorWord_shiftLeft (crc : UInt16) :
    mirrorWord (shiftLeft crc) = shiftRight (mirrorWord crc) := by
  apply UInt16.toBitVec_inj.mp
  have bit : (mirrorWord crc).toBitVec.getLsbD 0 = crc.toBitVec.msb := BitVec.getLsbD_reverse
  rw [toBitVec_shiftRight, bit]
  show (shiftLeft crc).toBitVec.reverse = _
  rw [toBitVec_shiftLeft]
  split
  · rw [reverse_xor, reverse_double]
    rfl
  · exact reverse_double _

theorem mirrorWord_shifts (n : Nat) (crc : UInt16) :
    mirrorWord (Nat.repeat shiftLeft n crc) = Nat.repeat shiftRight n (mirrorWord crc) := by
  induction n with
  | zero => rfl
  | succ n ih => rw [Nat.repeat, mirrorWord_shiftLeft, ih, Nat.repeat]

theorem mirrorWord_update (crc : UInt16) (b : UInt8) :
    mirrorWord (Variant.xmodem.update crc b) = Variant.ccitt.update (mirrorWord crc) (mirrorByte b) := by
  have entered : mirrorWord (crc ^^^ b.toUInt16 <<< 8) = mirrorWord crc ^^^ (mirrorByte b).toUInt16 := by
    have shifted : (b.toBitVec.setWidth 16 <<< 8).reverse = b.toBitVec.reverse.setWidth 16 := by
      apply BitVec.eq_of_getLsbD_eq
      intro i inside
      rw [BitVec.getLsbD_reverse, BitVec.getMsbD_shiftLeft, BitVec.getMsbD_setWidth,
        BitVec.getLsbD_setWidth, BitVec.getLsbD_reverse]
      simp [inside]
    apply UInt16.toBitVec_inj.mp
    show (crc.toBitVec ^^^ b.toBitVec.setWidth 16 <<< 8).reverse = _
    rw [reverse_xor, shifted]
    rfl
  rw [Variant.update, mirrorWord_shifts, entered]
  rfl

theorem mirrorWord_foldl (bytes : List UInt8) (crc : UInt16) :
    mirrorWord (bytes.foldl Variant.xmodem.update crc) =
      (bytes.map mirrorByte).foldl Variant.ccitt.update (mirrorWord crc) := by
  induction bytes generalizing crc with
  | nil => rfl
  | cons b rest ih => rw [List.foldl_cons, ih, mirrorWord_update, List.map_cons, List.foldl_cons]

theorem mirrorByte_mirrorByte (b : UInt8) : mirrorByte (mirrorByte b) = b := by
  simp [mirrorByte]

/-- The checksum that is shifted right, read from the other end, is the one that is shifted left, of bytes
that are read from the other end. -/
theorem checksum_ccitt (bytes : List UInt8) :
    checksum .ccitt bytes = mirrorWord (checksum .xmodem (bytes.map mirrorByte)) := by
  have twice : (bytes.map mirrorByte).map mirrorByte = bytes := by
    rw [List.map_map]
    exact List.map_id'' mirrorByte_mirrorByte bytes
  have start : mirrorWord seed = seed := by decide
  unfold checksum
  rw [mirrorWord_foldl, twice, start]

/-! ## The code -/

theorem foldl_update (crc : Crc) (pieces : List (List UInt8)) :
    pieces.foldl update crc = crc.update pieces.flatten := by
  induction pieces generalizing crc with
  | nil => rfl
  | cons piece rest ih => rw [List.foldl_cons, ih, List.flatten_cons, update_append]

/-- **Polynomial code.** The checksum that is shifted left is the remainder of the seed and the bytes, each
with its most significant bit first, moved up behind each other; the one that is shifted right is the same
with all bits in the other order. A checksum in the making that is new, or that was reset whatever it was
before, takes bytes in pieces of any size to the checksum of them all. -/
theorem checksum_is_remainder :
    (∀ bytes, poly (checksum .xmodem bytes).toBitVec =
      (poly 0xFFFF#16 * X ^ (8 * bytes.length) + ofBits (Variant.xmodem.bits bytes) * X ^ 16) %ₘ
        (X ^ 16 + X ^ 12 + X ^ 5 + 1)) ∧
    (∀ bytes, checksum .ccitt bytes = mirrorWord (checksum .xmodem (bytes.map mirrorByte))) ∧
    (∀ (variant : Variant) (pieces : List (List UInt8)),
      (pieces.foldl update { variant }).value = checksum variant pieces.flatten) ∧
    ∀ (crc : Crc) (pieces : List (List UInt8)),
      (pieces.foldl update crc.reset).value = checksum crc.variant pieces.flatten := by
  refine ⟨fun bytes => poly_foldl bytes seed, checksum_ccitt, fun variant pieces => ?_,
    fun crc pieces => ?_⟩
  · rw [foldl_update, value_update]
    rfl
  · rw [foldl_update, value_update]
    rfl

/-- Both checksums of the digits one to nine. -/
example : checksum .xmodem [49, 50, 51, 52, 53, 54, 55, 56, 57] = 0x29B1 ∧
    checksum .ccitt [49, 50, 51, 52, 53, 54, 55, 56, 57] = 0x6F91 := by decide +kernel

end VoxelCube.Crc
