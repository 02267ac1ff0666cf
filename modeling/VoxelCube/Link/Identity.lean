/-
The answer to an identity probe: the device's name and its address, most significant byte first.
-/
import VoxelCube.Hex
import VoxelCube.Word

namespace VoxelCube.Link

/-- The bytes of an address, digit pairs between colons. -/
def addressText (address : UInt64) : List UInt8 :=
  [':'.toUInt8].intercalate ((Word.toBytes 8 address.toNat).reverse.map Hex.pair)

/-- The answer of a device with a name and an address: one line. -/
def identity (name : List UInt8) (address : UInt64) : List UInt8 :=
  name ++ addressText address ++ ['\n'.toUInt8]

end VoxelCube.Link
