/-
The voxels of the cube, eight by eight by eight of twelve bits each, packed into 768 bytes. Voxel
`x + 8 y + 64 z` begins at bit twelve times that, so two voxels share three bytes: a voxel of even
number fills the high twelve bits of its two bytes, one of odd number the low twelve.
-/
namespace VoxelCube.Display

/-- How many voxels each edge of the cube has. -/
def edge : Nat := 8

def voxelCount : Nat := 512

def byteCount : Nat := 768

def maxIntensity : UInt16 := 4095

inductive VoxelError where
  | outOfBounds
  | intensityOutOfRange
  deriving DecidableEq, Repr

def voxelIndex (x y z : Nat) : Except VoxelError (Fin voxelCount) :=
  if inside : x < edge ∧ y < edge ∧ z < edge then
    .ok ⟨x + 8 * y + 64 * z, by simp only [edge, voxelCount] at *; omega⟩
  else .error .outOfBounds

def bitOffset (i : Fin voxelCount) : Nat := 12 * i.val

/-- The first of the two bytes in which a voxel lies. -/
def highByte (i : Fin voxelCount) : Fin byteCount :=
  ⟨bitOffset i / 8, by
    have := i.isLt
    simp only [bitOffset, voxelCount, byteCount] at *
    omega⟩

/-- The second of the two bytes in which a voxel lies. -/
def lowByte (i : Fin voxelCount) : Fin byteCount :=
  ⟨bitOffset i / 8 + 1, by
    have := i.isLt
    simp only [bitOffset, voxelCount, byteCount] at *
    omega⟩

/-- The packed intensities of all voxels. -/
structure Voxels where
  bytes : Vector UInt8 byteCount
  deriving DecidableEq

namespace Voxels

def dark : Voxels := ⟨Vector.replicate byteCount 0⟩

/-- The two bytes in which a voxel lies, the first one high. -/
def window (v : Voxels) (i : Fin voxelCount) : UInt16 :=
  (v.bytes[highByte i].toUInt16 <<< 8) ||| v.bytes[lowByte i].toUInt16

def setWindow (v : Voxels) (i : Fin voxelCount) (window : UInt16) : Voxels :=
  ⟨(v.bytes.set (highByte i) (window >>> 8).toUInt8).set (lowByte i) window.toUInt8⟩

/-- The voxel fills the high twelve bits of its two bytes. -/
def isHigh (i : Fin voxelCount) : Bool := bitOffset i % 8 = 0

def get (v : Voxels) (i : Fin voxelCount) : UInt16 :=
  let w : UInt16 := v.window i
  if isHigh i then w >>> 4 else w &&& 0x0FFF

/-- Sets the intensity of a voxel; the four bits beside it are kept. -/
def set (v : Voxels) (i : Fin voxelCount) (intensity : UInt16) : Voxels :=
  let w : UInt16 := v.window i
  let kept : UInt16 := if isHigh i then w &&& 0x000F else w &&& 0xF000
  let put : UInt16 := if isHigh i then intensity <<< 4 else intensity
  v.setWindow i (kept ||| put)

def read (v : Voxels) (x y z : Nat) : Except VoxelError UInt16 :=
  match voxelIndex x y z with
  | .ok i => .ok (v.get i)
  | .error e => .error e

/-- Writes the voxel at a place; the intensity is judged before the place. -/
def write (v : Voxels) (x y z : Nat) (intensity : UInt16) : Except VoxelError Voxels :=
  if maxIntensity < intensity then .error .intensityOutOfRange
  else
    match voxelIndex x y z with
    | .ok i => .ok (v.set i intensity)
    | .error e => .error e

/-- The three bytes of two voxels of one intensity. -/
def twin (intensity : UInt16) : Vector UInt8 3 :=
  #v[(intensity >>> 4).toUInt8, (intensity <<< 4).toUInt8 ||| (intensity >>> 8).toUInt8,
    intensity.toUInt8]

/-- All voxels of one intensity. -/
def uniform (intensity : UInt16) : Voxels :=
  ⟨Vector.ofFn fun n =>
    have : n.val % 3 < 3 := Nat.mod_lt _ (by decide)
    (twin intensity)[n.val % 3]⟩

end Voxels

end VoxelCube.Display
