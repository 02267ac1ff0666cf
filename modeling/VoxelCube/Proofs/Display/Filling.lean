/-
Painting many voxels at once, and reading around the edges. To fill the back is to set each of its voxels,
in whatever order, and to clear it is to fill it with darkness; a coordinate that is taken around the edge
is always inside the cube.
-/
import Mathlib.Data.List.ProdSigma
import VoxelCube.Proofs.Display.Packing

namespace VoxelCube.Display

variable {intensity : UInt16}

/-! ## All voxels of one intensity -/

namespace Voxels

theorem toNat_middle (fits : intensity ≤ maxIntensity) :
    ((intensity <<< 4).toUInt8 ||| (intensity >>> 8).toUInt8).toNat =
      16 * (intensity.toNat % 16) + intensity.toNat / 256 := by
  have bound := toNat_le fits
  have digit : (intensity <<< 4).toUInt8.toNat = 2 ^ 4 * (intensity.toNat % 16) := by
    rw [UInt16.toNat_toUInt8, toNat_shift fits]
    omega
  rw [UInt8.toNat_or, toNat_upper, digit]
  exact (Nat.two_pow_add_eq_or_of_lt (i := 4) (by omega) _).symm

theorem byteAt_uniform (fits : intensity ≤ maxIntensity) {n : Nat} (inside : n < byteCount) :
    (uniform intensity).byteAt n = if n % 3 = 0 then intensity.toNat / 16
      else if n % 3 = 1 then 16 * (intensity.toNat % 16) + intensity.toNat / 256
      else intensity.toNat % 256 := by
  have bound := toNat_le fits
  rw [byteAt_eq inside]
  unfold uniform
  rw [Vector.getElem_ofFn]
  obtain first | second | third : n % 3 = 0 ∨ n % 3 = 1 ∨ n % 3 = 2 := by omega
  · simp only [first, if_pos]
    show (intensity >>> 4).toUInt8.toNat = _
    rw [UInt16.toNat_toUInt8, toNat_highBits]
    omega
  · simp only [second]
    exact toNat_middle fits
  · simp only [third]
    exact UInt16.toNat_toUInt8 intensity

theorem get_uniform (fits : intensity ≤ maxIntensity) (i : Fin voxelCount) :
    (uniform intensity).get i = intensity := by
  have bound := toNat_le fits
  rw [← UInt16.toNat_inj, toNat_get, toNat_window, byteAt_uniform fits (highByte i).isLt,
    byteAt_uniform fits (lowByte i).isLt, highByte_val, lowByte_val]
  by_cases high : isHigh i = true
  · have even := (isHigh_iff i).mp high
    rw [if_pos high, if_pos (by omega), if_neg (by omega), if_pos (by omega)]
    omega
  · have odd := mt (isHigh_iff i).mpr high
    rw [if_neg high, if_neg (by omega), if_pos (by omega), if_neg (by omega), if_neg (by omega)]
    omega

/-- A voxel has an intensity when it was set to it, or had it before others were set to it. -/
theorem get_foldl_set (fits : intensity ≤ maxIntensity) {voxels : List (Fin voxelCount)} {v : Voxels}
    {j : Fin voxelCount} (set' : j ∈ voxels ∨ v.get j = intensity) :
    (voxels.foldl (fun v i => v.set i intensity) v).get j = intensity := by
  induction voxels generalizing v with
  | nil => exact set'.resolve_left List.not_mem_nil
  | cons i rest ih =>
    rw [List.foldl_cons]
    apply ih
    by_cases same : j = i
    · exact .inr (same ▸ get_set_same v i fits)
    · rw [get_set_other v same fits]
      exact set'.imp_left fun there => (List.mem_cons.mp there).resolve_left same

/-- To set every voxel, in whatever order, gives the bytes of all voxels of one intensity. -/
theorem foldl_set_eq_uniform (v : Voxels) (fits : intensity ≤ maxIntensity) {voxels : List (Fin voxelCount)}
    (all : ∀ i, i ∈ voxels) : voxels.foldl (fun v i => v.set i intensity) v = uniform intensity := by
  apply ext_get
  intro i
  rw [get_foldl_set fits (.inl (all i)), get_uniform fits]

theorem uniform_zero : uniform 0 = dark := by
  refine congrArg mk (Vector.ext fun n inside => ?_)
  rw [Vector.getElem_ofFn, Vector.getElem_replicate]
  obtain first | second | third : n % 3 = 0 ∨ n % 3 = 1 ∨ n % 3 = 2 := by omega
  · simp only [first]
    rfl
  · simp only [second]
    rfl
  · simp only [third]
    rfl

end Voxels

namespace FrameBuffer

variable {f : FrameBuffer}

/-! ## Painting in bulk -/

/-- Sets voxels to one intensity, one after the other. -/
def setEach (f : FrameBuffer) (intensity : UInt16) (places : List (Nat × Nat × Nat)) :
    Except VoxelError FrameBuffer :=
  places.foldlM (fun f (x, y, z) => f.set x y z intensity) f

/-- One frame buffer is another one with the arena in the back painted over. -/
structure OnlyBack (f painted : FrameBuffer) : Prop where
  front : painted.front = f.front
  back : painted.back = f.back
  gate : painted.mayFlip = f.mayFlip
  other : painted.arena f.back.other = f.arena f.back.other

theorem onlyBack_draw (f : FrameBuffer) (v : Voxels) : f.OnlyBack (f.draw v) := by
  rcases f with ⟨first, second, front, _ | _, gate⟩ <;> exact ⟨rfl, rfl, rfl, rfl⟩

theorem set_eq {x y z : Nat} {i : Fin voxelCount} (found : voxelIndex x y z = .ok i)
    (fits : intensity ≤ maxIntensity) :
    f.set x y z intensity = .ok (f.draw (f.drawn.set i intensity)) := by
  unfold set
  rw [Voxels.write_eq_ok_iff.mpr ⟨fits, i, found, rfl⟩]

theorem setEach_eq (f : FrameBuffer) (fits : intensity ≤ maxIntensity) {places : List (Nat × Nat × Nat)}
    (inside : ∀ x y z, (x, y, z) ∈ places → InCube x y z) :
    ∃ voxels : List (Fin voxelCount),
      (∀ x y z i, (x, y, z) ∈ places → voxelIndex x y z = .ok i → i ∈ voxels) ∧
        f.setEach intensity places =
          .ok (f.draw (voxels.foldl (fun v i => v.set i intensity) f.drawn)) := by
  induction places generalizing f with
  | nil => exact ⟨[], by simp, by rw [List.foldl_nil, draw_drawn]; rfl⟩
  | cons place rest ih =>
    obtain ⟨x, y, z⟩ := place
    obtain ⟨i, found⟩ := exists_voxelIndex (inside x y z List.mem_cons_self)
    obtain ⟨voxels, covers, painted⟩ := ih (f.draw (f.drawn.set i intensity))
      fun x y z there => inside x y z (List.mem_cons_of_mem _ there)
    refine ⟨i :: voxels, ?_, ?_⟩
    · intro x' y' z' j there found'
      rcases List.mem_cons.mp there with same | later
      · cases same
        cases found.symm.trans found'
        exact List.mem_cons_self
      · exact List.mem_cons_of_mem _ (covers x' y' z' j later found')
    · unfold setEach
      rw [List.foldlM_cons]
      dsimp only
      rw [set_eq found fits]
      rw [drawn_draw, draw_draw] at painted
      exact painted

theorem fill_eq (f : FrameBuffer) (fits : intensity ≤ maxIntensity) :
    f.fill intensity = .ok (f.draw (.uniform intensity)) :=
  if_neg (UInt16.not_lt.mpr fits)

theorem setEach_eq_fill (f : FrameBuffer) (fits : intensity ≤ maxIntensity)
    {places : List (Nat × Nat × Nat)} (all : ∀ x y z, (x, y, z) ∈ places ↔ InCube x y z) :
    f.setEach intensity places = f.fill intensity := by
  obtain ⟨voxels, covers, painted⟩ := f.setEach_eq fits fun x y z => (all x y z).mp
  have every : ∀ i, i ∈ voxels := by
    intro i
    obtain ⟨x, y, z, found⟩ := exists_place i
    exact covers x y z i ((all x y z).mpr (voxelIndex_eq_ok_iff.mp found).1) found
  rw [painted, Voxels.foldl_set_eq_uniform _ fits every, fill_eq f fits]

/-! ## Around the edges -/

theorem wrap_lt (n : Int16) : wrap n < edge := by
  unfold wrap edge
  omega

theorem get_wrap (f : FrameBuffer) (x y z : Int16) :
    f.get (wrap x) (wrap y) (wrap z) = .ok (f.getWrapping x y z) := by
  obtain ⟨i, found⟩ := exists_voxelIndex ⟨wrap_lt x, wrap_lt y, wrap_lt z⟩
  have read : f.get (wrap x) (wrap y) (wrap z) = .ok (f.shown.get i) := Voxels.read_eq found
  unfold getWrapping
  rw [read]

end FrameBuffer

/-- **Painting in bulk.** To fill a frame buffer is to set every voxel, one by one and in any order, and to
clear it is to fill it with darkness; nothing is painted but the back, and nothing at all with an intensity
that does not fit. Around the edges a voxel is read at the coordinates' remainders by eight, and one is
always there. -/
theorem bulk_painting_agrees (f : FrameBuffer) (intensity : UInt16) (x y z : Int16) :
    (intensity ≤ 4095 → ∃ filled, f.fill intensity = .ok filled ∧ f.OnlyBack filled ∧
      ∀ order, (∀ x y z, (x, y, z) ∈ order ↔ x < 8 ∧ y < 8 ∧ z < 8) →
        f.setEach intensity order = .ok filled) ∧
    (4095 < intensity →
      f.fill intensity = .error .intensityOutOfRange ∧ (Stroke.fill intensity).paint f = f) ∧
    (f.fill 0 = .ok f.clear ∧ f.OnlyBack f.clear) ∧
    f.get (x.toInt % 8).toNat (y.toInt % 8).toNat (z.toInt % 8).toNat = .ok (f.getWrapping x y z) := by
  refine ⟨fun fits => ?_, fun exceeds => ?_, ⟨?_, f.onlyBack_draw .dark⟩, f.get_wrap x y z⟩
  · refine ⟨_, f.fill_eq fits, f.onlyBack_draw _, fun order all => ?_⟩
    rw [f.setEach_eq_fill fits all, f.fill_eq fits]
  · have refused : f.fill intensity = .error .intensityOutOfRange := if_pos exceeds
    refine ⟨refused, ?_⟩
    unfold Stroke.paint
    simp only [refused, Except.toOption, Option.getD_none]
  · rw [f.fill_eq (by decide), Voxels.uniform_zero]
    rfl

end VoxelCube.Display

namespace VoxelCube.Bench

open Display

/-- The places of the cube, column by column. -/
def everyPlace : List (Nat × Nat × Nat) := List.range 8 ×ˢ List.range 8 ×ˢ List.range 8

/-- A buffer both of whose roles are on one arena is filled voxel by voxel as at once; too much light is
refused. -/
theorem sharedBuffer_filled :
    let f : FrameBuffer := { front := .second }
    f.isAliased = true ∧ f.setEach 0xA5C everyPlace = f.fill 0xA5C ∧
      f.setEach 0xA5C everyPlace.reverse = f.fill 0xA5C ∧
      f.fill 4096 = .error .intensityOutOfRange ∧ f.get 7 0 7 = .ok (f.getWrapping (-1) 8 15) := by
  intro f
  obtain ⟨fills, -, -, read⟩ := bulk_painting_agrees f 0xA5C (-1) 8 15
  obtain ⟨filled, atOnce, -, each⟩ := fills (by decide)
  obtain ⟨-, refused, -⟩ := bulk_painting_agrees f 4096 0 0 0
  have every (x y z : Nat) : (x, y, z) ∈ everyPlace ↔ x < 8 ∧ y < 8 ∧ z < 8 := by simp [everyPlace]
  refine ⟨rfl, ?_, ?_, (refused (by decide)).1, read⟩
  · rw [each everyPlace every, atOnce]
  · rw [each everyPlace.reverse (by simpa using every), atOnce]

end VoxelCube.Bench
