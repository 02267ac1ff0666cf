/-
The voxels as hexadecimal digits. The packed bytes are a row of digits, two in each byte, and voxel `i`
has the digits `3 i`, `3 i + 1` and `3 i + 2` for itself, wherever the bytes begin. So a voxel that is
written changes no other one, and bytes that show the same voxels are the same.
-/
import Mathlib.Data.Nat.Bitwise
import VoxelCube.Proofs.Display.Painting

namespace VoxelCube.Display

/-! ## Windows as numbers -/

theorem toNat_mask (w : UInt16) {mask : UInt16} {k : Nat} (low : mask.toNat = 2 ^ k - 1) :
    (w &&& mask).toNat = w.toNat % 2 ^ k := by
  rw [UInt16.toNat_and, low]
  exact Nat.and_two_pow_sub_one_eq_mod w.toNat k

theorem toNat_highBits (w : UInt16) : (w >>> 4).toNat = w.toNat / 16 := by
  rw [UInt16.toNat_shiftRight]
  exact Nat.shiftRight_eq_div_pow w.toNat 4

theorem toNat_highDigit (w : UInt16) : (w &&& 0xF000).toNat = 4096 * (w.toNat / 4096) := by
  have beyond (i : Nat) (h : 16 ≤ i) : w.toNat.testBit i = false :=
    Nat.testBit_lt_two_pow (Nat.lt_of_lt_of_le w.toNat_lt (Nat.pow_le_pow_right (by decide) h))
  rw [UInt16.toNat_and]
  show w.toNat &&& (2 ^ 4 - 1) * 2 ^ 12 = 2 ^ 12 * (w.toNat / 2 ^ 12)
  refine Nat.eq_of_testBit_eq fun i => ?_
  rw [Nat.mul_comm (2 ^ 12), Nat.testBit_and, Nat.testBit_mul_two_pow, Nat.testBit_mul_two_pow,
    Nat.testBit_two_pow_sub_one, Nat.testBit_div_two_pow]
  by_cases low : i < 12
  · simp [show ¬12 ≤ i by omega]
  · rw [show i - 12 + 12 = i by omega]
    by_cases inside : i < 16
    · simp [show i - 12 < 4 by omega, show 12 ≤ i by omega]
    · simp [beyond i (by omega)]

theorem toNat_join (high low : UInt8) :
    (high.toUInt16 <<< 8 ||| low.toUInt16).toNat = 256 * high.toNat + low.toNat := by
  have small := high.toNat_lt
  rw [UInt16.toNat_or, UInt16.toNat_shiftLeft, UInt8.toNat_toUInt16, UInt8.toNat_toUInt16]
  show (high.toNat <<< 8) % 65536 ||| low.toNat = _
  rw [Nat.shiftLeft_eq, Nat.mod_eq_of_lt (by omega), Nat.mul_comm]
  exact (Nat.two_pow_add_eq_or_of_lt low.toNat_lt _).symm

theorem toNat_upper (w : UInt16) : ((w >>> 8).toUInt8).toNat = w.toNat / 256 := by
  have small := w.toNat_lt
  rw [UInt16.toNat_toUInt8, UInt16.toNat_shiftRight]
  show (w.toNat >>> 8) % 256 = _
  rw [Nat.shiftRight_eq_div_pow]
  omega

variable {intensity : UInt16}

theorem toNat_le (fits : intensity ≤ maxIntensity) : intensity.toNat ≤ 4095 :=
  UInt16.le_iff_toNat_le.mp fits

theorem toNat_shift (fits : intensity ≤ maxIntensity) :
    (intensity <<< 4).toNat = 16 * intensity.toNat := by
  have small := toNat_le fits
  rw [UInt16.toNat_shiftLeft]
  show (intensity.toNat <<< 4) % 65536 = _
  rw [Nat.shiftLeft_eq]
  omega

theorem toNat_putHigh (w : UInt16) (fits : intensity ≤ maxIntensity) :
    (w &&& (0x000F : UInt16) ||| intensity <<< 4).toNat = 16 * intensity.toNat + w.toNat % 16 := by
  rw [UInt16.toNat_or, toNat_mask w (k := 4) rfl, toNat_shift fits, Nat.or_comm]
  exact (Nat.two_pow_add_eq_or_of_lt (i := 4) (Nat.mod_lt _ (by decide)) _).symm

theorem toNat_putLow (w : UInt16) (fits : intensity ≤ maxIntensity) :
    (w &&& (0xF000 : UInt16) ||| intensity).toNat = 4096 * (w.toNat / 4096) + intensity.toNat := by
  rw [UInt16.toNat_or, toNat_highDigit]
  exact (Nat.two_pow_add_eq_or_of_lt (i := 12) (Nat.lt_succ_of_le (toNat_le fits)) _).symm

/-! ## Digits -/

namespace Voxels

variable {v w : Voxels}

def byteAt (v : Voxels) (n : Nat) : Nat := (v.bytes[n]?.getD 0).toNat

/-- A hexadecimal digit of the packed intensities, the high one of each byte first. -/
def digit (v : Voxels) (n : Nat) : Nat :=
  if n % 2 = 0 then v.byteAt (n / 2) / 16 else v.byteAt (n / 2) % 16

theorem byteAt_lt (v : Voxels) (n : Nat) : v.byteAt n < 256 := UInt8.toNat_lt _

theorem byteAt_eq {n : Nat} (inside : n < byteCount) : v.byteAt n = (v.bytes[n]).toNat := by
  unfold byteAt
  rw [Vector.getElem?_eq_getElem inside, Option.getD_some]

theorem byteAt_digits (v : Voxels) (n : Nat) :
    v.byteAt n = 16 * v.digit (2 * n) + v.digit (2 * n + 1) := by
  unfold digit
  rw [if_pos (by omega), if_neg (by omega), show 2 * n / 2 = n by omega, show (2 * n + 1) / 2 = n by omega]
  omega

theorem digit_lt (v : Voxels) (n : Nat) : v.digit n < 16 := by
  have small := v.byteAt_lt (n / 2)
  unfold digit
  split <;> omega

/-- Bytes with the same digits are the same. -/
theorem ext_digit (same : ∀ n < 2 * byteCount, v.digit n = w.digit n) : v = w := by
  rcases v with ⟨bytes⟩
  rcases w with ⟨others⟩
  congr 1
  ext n inside
  rw [← byteAt_eq (v := ⟨bytes⟩) inside, ← byteAt_eq (v := ⟨others⟩) inside, byteAt_digits, byteAt_digits,
    same (2 * n) (by omega), same (2 * n + 1) (by omega)]

/-! ## Voxels as digits -/

theorem toNat_window (v : Voxels) (i : Fin voxelCount) :
    (v.window i).toNat = 256 * v.byteAt (highByte i) + v.byteAt (lowByte i) := by
  rw [byteAt_eq (highByte i).isLt, byteAt_eq (lowByte i).isLt]
  exact toNat_join _ _

theorem getElem?_setWindow (v : Voxels) (i : Fin voxelCount) (window : UInt16) (n : Nat) :
    (v.setWindow i window).bytes[n]? = if n = lowByte i then some window.toUInt8
      else if n = highByte i then some (window >>> 8).toUInt8 else v.bytes[n]? := by
  unfold setWindow
  simp only [Vector.getElem?_set, eq_comm]

theorem byteAt_setWindow (v : Voxels) (i : Fin voxelCount) (window : UInt16) (n : Nat) :
    (v.setWindow i window).byteAt n = if n = lowByte i then window.toNat % 256
      else if n = highByte i then window.toNat / 256 else v.byteAt n := by
  unfold byteAt
  rw [getElem?_setWindow]
  split_ifs
  · rw [Option.getD_some, UInt16.toNat_toUInt8]
  · rw [Option.getD_some, toNat_upper]
  · rfl

theorem toNat_get (v : Voxels) (i : Fin voxelCount) :
    (v.get i).toNat = if isHigh i then (v.window i).toNat / 16 else (v.window i).toNat % 4096 := by
  unfold get
  split
  · exact toNat_highBits _
  · exact toNat_mask _ (k := 12) rfl

/-- A voxel is read from its own two bytes. -/
theorem get_congr {i : Fin voxelCount} (high : w.bytes[(highByte i).val]? = v.bytes[(highByte i).val]?)
    (low : w.bytes[(lowByte i).val]? = v.bytes[(lowByte i).val]?) : w.get i = v.get i := by
  rw [← UInt16.toNat_inj, toNat_get, toNat_get, toNat_window, toNat_window]
  unfold byteAt
  rw [high, low]

theorem get_le (v : Voxels) (i : Fin voxelCount) : v.get i ≤ maxIntensity := by
  have small := (v.window i).toNat_lt
  rw [UInt16.le_iff_toNat_le, toNat_get]
  show _ ≤ 4095
  split <;> omega

theorem isHigh_iff (i : Fin voxelCount) : isHigh i = true ↔ i.val % 2 = 0 := by
  unfold isHigh bitOffset
  rw [decide_eq_true_iff]
  omega

theorem highByte_val (i : Fin voxelCount) : (highByte i).val = 12 * i.val / 8 := rfl

theorem lowByte_val (i : Fin voxelCount) : (lowByte i).val = 12 * i.val / 8 + 1 := rfl

/-- A voxel is read from its own three digits. -/
theorem toNat_get_digits (v : Voxels) (i : Fin voxelCount) :
    (v.get i).toNat = 256 * v.digit (3 * i.val) + 16 * v.digit (3 * i.val + 1) + v.digit (3 * i.val + 2) := by
  rw [toNat_get, toNat_window, byteAt_digits, byteAt_digits, highByte_val, lowByte_val]
  by_cases high : isHigh i = true
  · -- the fourth digit of the window is the first one of the next voxel
    have even := (isHigh_iff i).mp high
    have behind := v.digit_lt (3 * i.val + 2 + 1)
    rw [if_pos high, show 2 * (12 * i.val / 8) = 3 * i.val by omega,
      show 2 * (12 * i.val / 8 + 1) = 3 * i.val + 2 by omega]
    omega
  · -- the first digit of the window is the last one of the voxel before
    have odd := mt (isHigh_iff i).mpr high
    have first := v.digit_lt (3 * i.val)
    have second := v.digit_lt (3 * i.val + 1)
    have third := v.digit_lt (3 * i.val + 2)
    rw [if_neg high, show 2 * (12 * i.val / 8) + 1 = 3 * i.val by omega,
      show 2 * (12 * i.val / 8 + 1) = 3 * i.val + 1 by omega,
      show 3 * i.val + 1 + 1 = 3 * i.val + 2 from rfl]
    omega

theorem byteAt_set (v : Voxels) (i : Fin voxelCount) (fits : intensity ≤ maxIntensity) (n : Nat) :
    (v.set i intensity).byteAt n =
      if n = lowByte i then
        if isHigh i then 16 * (intensity.toNat % 16) + v.byteAt n % 16 else intensity.toNat % 256
      else if n = highByte i then
        if isHigh i then intensity.toNat / 16 else 16 * (v.byteAt n / 16) + intensity.toNat / 256
      else v.byteAt n := by
  have high := v.byteAt_lt (highByte i)
  have low := v.byteAt_lt (lowByte i)
  have bound := toNat_le fits
  unfold set
  rw [byteAt_setWindow]
  split_ifs with atLow
  · rw [toNat_putHigh _ fits, toNat_window, atLow]
    omega
  · rw [toNat_putLow _ fits, toNat_window]
    omega
  · rw [toNat_putHigh _ fits, toNat_window]
    omega
  · rename_i atHigh _
    rw [toNat_putLow _ fits, toNat_window, atHigh]
    omega
  · rfl

/-- A voxel is written to its own two bytes. -/
theorem getElem?_set_other (v : Voxels) (i : Fin voxelCount) {n : Nat} (high : n ≠ highByte i)
    (low : n ≠ lowByte i) : (v.set i intensity).bytes[n]? = v.bytes[n]? := by
  unfold set
  rw [getElem?_setWindow, if_neg low, if_neg high]

/-- A voxel that is written leaves the digits of all others. -/
theorem digit_set_other (v : Voxels) (i : Fin voxelCount) (fits : intensity ≤ maxIntensity) {n : Nat}
    (other : n / 3 ≠ i.val) : (v.set i intensity).digit n = v.digit n := by
  unfold digit
  rw [byteAt_set v i fits, highByte_val, lowByte_val]
  by_cases high : isHigh i = true
  · have even := (isHigh_iff i).mp high
    rw [if_pos high, if_pos high]
    split_ifs <;> omega
  · have odd := mt (isHigh_iff i).mpr high
    have bound := toNat_le fits
    rw [if_neg high, if_neg high]
    split_ifs <;> omega

/-- A voxel that was written has the digits of its intensity. -/
theorem get_set_same (v : Voxels) (i : Fin voxelCount) (fits : intensity ≤ maxIntensity) :
    (v.set i intensity).get i = intensity := by
  have apart : ¬(highByte i).val = lowByte i := by simp [highByte_val, lowByte_val]
  have bound := toNat_le fits
  rw [← UInt16.toNat_inj, toNat_get, toNat_window, byteAt_set v i fits, byteAt_set v i fits,
    if_neg apart, if_pos rfl, if_pos rfl]
  split_ifs <;> omega

theorem get_set_other (v : Voxels) {i j : Fin voxelCount} (apart : j ≠ i)
    (fits : intensity ≤ maxIntensity) : (v.set i intensity).get j = v.get j := by
  have other := Fin.val_ne_of_ne apart
  rw [← UInt16.toNat_inj, toNat_get_digits, toNat_get_digits, digit_set_other v i fits (by omega),
    digit_set_other v i fits (by omega), digit_set_other v i fits (by omega)]

/-- Voxels that are all the same have the same bytes. -/
theorem ext_get (same : ∀ i, v.get i = w.get i) : v = w := by
  apply ext_digit
  intro n inside
  have voxel := congrArg UInt16.toNat (same ⟨n / 3, by simp only [voxelCount, byteCount] at *; omega⟩)
  rw [toNat_get_digits, toNat_get_digits] at voxel
  dsimp only at voxel
  have first := v.digit_lt (3 * (n / 3) + 1)
  have second := w.digit_lt (3 * (n / 3) + 1)
  have third := v.digit_lt (3 * (n / 3) + 2)
  have fourth := w.digit_lt (3 * (n / 3) + 2)
  obtain at' | at' | at' : n = 3 * (n / 3) ∨ n = 3 * (n / 3) + 1 ∨ n = 3 * (n / 3) + 2 := by omega
  all_goals
    rw [at']
    omega

/-- To write what a voxel has changes nothing. -/
theorem set_get (v : Voxels) (i : Fin voxelCount) : v.set i (v.get i) = v := by
  apply ext_get
  intro j
  by_cases same : j = i
  · rw [same, get_set_same v i (v.get_le i)]
  · exact get_set_other v same (v.get_le i)

end Voxels

/-! ## Places -/

/-- There is a voxel at this place. -/
def InCube (x y z : Nat) : Prop := x < edge ∧ y < edge ∧ z < edge

/-- The first of the two bytes in which the voxel at a place lies. -/
def firstByte (x y z : Nat) : Nat := 12 * (x + 8 * y + 64 * z) / 8

section

variable {x y z : Nat} {i : Fin voxelCount}

theorem voxelIndex_eq_ok_iff : voxelIndex x y z = .ok i ↔ InCube x y z ∧ i.val = x + 8 * y + 64 * z := by
  unfold voxelIndex
  split
  · rename_i inside
    constructor
    · rintro ⟨⟩
      exact ⟨inside, rfl⟩
    · rintro ⟨-, same⟩
      rw [Except.ok.injEq]
      exact Fin.ext same.symm
  · rename_i outside
    constructor
    · rintro ⟨⟩
    · rintro ⟨inside, -⟩
      exact absurd inside outside

theorem exists_voxelIndex (inside : InCube x y z) : ∃ i, voxelIndex x y z = .ok i :=
  ⟨_, dif_pos inside⟩

theorem voxelIndex_outside (outside : ¬InCube x y z) : voxelIndex x y z = .error .outOfBounds :=
  dif_neg outside

/-- Every voxel is at a place. -/
theorem exists_place (i : Fin voxelCount) : ∃ x y z, voxelIndex x y z = .ok i := by
  have bound := i.isLt
  refine ⟨i.val % 8, i.val / 8 % 8, i.val / 64, voxelIndex_eq_ok_iff.mpr ⟨⟨?_, ?_, ?_⟩, ?_⟩⟩ <;>
    simp only [edge, voxelCount] at * <;> omega

/-- Different places have different voxels. -/
theorem voxelIndex_injective {x' y' z' : Nat} (found : voxelIndex x y z = .ok i)
    (again : voxelIndex x' y' z' = .ok i) : (x', y', z') = (x, y, z) := by
  obtain ⟨⟨hx, hy, hz⟩, at'⟩ := voxelIndex_eq_ok_iff.mp found
  obtain ⟨⟨hx', hy', hz'⟩, at''⟩ := voxelIndex_eq_ok_iff.mp again
  simp only [edge, Prod.mk.injEq] at *
  omega

theorem firstByte_eq (found : voxelIndex x y z = .ok i) : firstByte x y z = highByte i := by
  rw [firstByte, Voxels.highByte_val, (voxelIndex_eq_ok_iff.mp found).2]

namespace Voxels

variable {v w : Voxels}

theorem read_eq (found : voxelIndex x y z = .ok i) : v.read x y z = .ok (v.get i) := by
  unfold read
  rw [found]

theorem write_eq_ok_iff : v.write x y z intensity = .ok w ↔
    intensity ≤ maxIntensity ∧ ∃ i, voxelIndex x y z = .ok i ∧ w = v.set i intensity := by
  unfold write
  by_cases fits : intensity ≤ maxIntensity
  · rw [if_neg (UInt16.not_lt.mpr fits)]
    cases voxelIndex x y z with
    | ok i => simp [fits, eq_comm]
    | error e => simp
  · rw [if_pos (UInt16.not_le.mp fits)]
    simp [fits]

theorem write_accepted_iff :
    (∃ w, v.write x y z intensity = .ok w) ↔ InCube x y z ∧ intensity ≤ maxIntensity := by
  constructor
  · rintro ⟨w, wrote⟩
    obtain ⟨fits, i, found, -⟩ := write_eq_ok_iff.mp wrote
    exact ⟨(voxelIndex_eq_ok_iff.mp found).1, fits⟩
  · rintro ⟨inside, fits⟩
    obtain ⟨i, found⟩ := exists_voxelIndex inside
    exact ⟨_, write_eq_ok_iff.mpr ⟨fits, i, found, rfl⟩⟩

/-- A voxel reads as it was written, and every other place as before. -/
theorem read_of_write (wrote : v.write x y z intensity = .ok w) (x' y' z' : Nat) :
    w.read x' y' z' = if (x', y', z') = (x, y, z) then .ok intensity else v.read x' y' z' := by
  obtain ⟨fits, i, found, rfl⟩ := write_eq_ok_iff.mp wrote
  split
  · rename_i same
    cases same
    rw [read_eq found, get_set_same v i fits]
  · rename_i apart
    by_cases inside : InCube x' y' z'
    · obtain ⟨j, found'⟩ := exists_voxelIndex inside
      have other : j ≠ i := by
        rintro rfl
        exact apart (voxelIndex_injective found found')
      rw [read_eq found', read_eq found', get_set_other v other fits]
    · unfold read
      rw [voxelIndex_outside inside]

end Voxels

end

/-- **Packing.** The bytes are an array of voxels that have nothing to do with each other. A voxel is written
if it is there and the intensity fits, and a refused write changes nothing. It is then read as it was written,
all others as they were before, and no bytes but its own two are changed; they are among the bytes, and no
others are read. To write what was read changes nothing. Bytes with the same voxels are the same. -/
theorem voxels_independent (v : Voxels) (x y z : Nat) (intensity : UInt16) :
    ((∃ w, v.write x y z intensity = .ok w) ↔ (x < 8 ∧ y < 8 ∧ z < 8) ∧ intensity ≤ 4095) ∧
    (¬((x < 8 ∧ y < 8 ∧ z < 8) ∧ intensity ≤ 4095) →
      ∀ f : FrameBuffer, (Stroke.set x y z intensity).paint f = f) ∧
    (∀ w, v.write x y z intensity = .ok w →
      (∀ x' y' z', w.read x' y' z' = if (x', y', z') = (x, y, z) then .ok intensity else v.read x' y' z') ∧
        ∀ n, n ≠ firstByte x y z → n ≠ firstByte x y z + 1 → w.bytes[n]? = v.bytes[n]?) ∧
    (x < 8 ∧ y < 8 ∧ z < 8 → ∃ old, v.read x y z = .ok old ∧ v.write x y z old = .ok v ∧
      firstByte x y z + 1 < 768 ∧
        ∀ w : Voxels, w.bytes[firstByte x y z]? = v.bytes[firstByte x y z]? →
          w.bytes[firstByte x y z + 1]? = v.bytes[firstByte x y z + 1]? → w.read x y z = .ok old) ∧
    ∀ w : Voxels, (∀ x y z, x < 8 ∧ y < 8 ∧ z < 8 → w.read x y z = v.read x y z) → w.bytes = v.bytes := by
  refine ⟨Voxels.write_accepted_iff, fun refused f => ?_, fun w wrote => ⟨Voxels.read_of_write wrote, ?_⟩,
    fun inside => ?_, fun w same => ?_⟩
  · unfold Stroke.paint FrameBuffer.set
    cases outcome : f.drawn.write x y z intensity with
    | ok w => exact absurd (Voxels.write_accepted_iff.mp ⟨w, outcome⟩) refused
    | error e => simp only [outcome, Except.toOption, Option.getD_none]
  · obtain ⟨fits, i, found, rfl⟩ := Voxels.write_eq_ok_iff.mp wrote
    rw [firstByte_eq found]
    exact fun n high low => Voxels.getElem?_set_other v i high low
  · obtain ⟨i, found⟩ := exists_voxelIndex inside
    rw [firstByte_eq found]
    refine ⟨v.get i, Voxels.read_eq found, ?_, (lowByte i).isLt, fun w high low => ?_⟩
    · exact Voxels.write_eq_ok_iff.mpr ⟨v.get_le i, i, found, (v.set_get i).symm⟩
    · rw [Voxels.read_eq found, Voxels.get_congr high low]
  · have equal : w = v := by
      apply Voxels.ext_get
      intro i
      obtain ⟨x, y, z, found⟩ := exists_place i
      have read := same x y z (voxelIndex_eq_ok_iff.mp found).1
      rw [Voxels.read_eq found, Voxels.read_eq found] at read
      exact Except.ok.inj read
    rw [equal]

end VoxelCube.Display

namespace VoxelCube.Bench

open Display

/-- The second voxel is written beside the first one, with which it shares a byte; behind the edge nothing is. -/
theorem secondVoxel_independent : ∃ w, Voxels.dark.write 1 0 0 0x123 = .ok w ∧
    w.read 1 0 0 = .ok 0x123 ∧ w.read 0 0 0 = Voxels.dark.read 0 0 0 ∧ w.write 1 0 0 0x123 = .ok w ∧
      (Stroke.set 8 0 0 0x123).paint {} = {} := by
  obtain ⟨accepted, -, written, -⟩ := voxels_independent .dark 1 0 0 0x123
  obtain ⟨w, wrote⟩ := accepted.mpr ⟨by decide, by decide⟩
  obtain ⟨reads, -⟩ := written w wrote
  obtain ⟨-, -, -, inside, -⟩ := voxels_independent w 1 0 0 0x123
  obtain ⟨old, read, again, -⟩ := inside (by decide)
  obtain ⟨-, refused, -⟩ := voxels_independent .dark 8 0 0 0x123
  have same : old = 0x123 := Except.ok.inj (read.symm.trans (reads 1 0 0))
  exact ⟨w, wrote, reads 1 0 0, reads 0 0 0, same ▸ again, refused (by decide) {}⟩

end VoxelCube.Bench
