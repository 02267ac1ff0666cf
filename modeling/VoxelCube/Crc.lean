/-
The 16-bit checksums of the link. Both start from all ones and take a byte in eight shifts: `xmodem`
shifts left with the polynomial 0x1021, `ccitt` shifts right with its reversal 0x8408. `Crc.update`
is the incremental form of `checksum`.
-/
namespace VoxelCube

namespace Crc

/-- The two checksums a device can be configured with. -/
inductive Variant where
  | ccitt
  | xmodem
  deriving DecidableEq, Repr, Inhabited

/-- One left shift of the register, the outgoing bit folded back by the polynomial. -/
def shiftLeft (crc : UInt16) : UInt16 :=
  if crc &&& 0x8000 ≠ 0 then (crc <<< 1) ^^^ 0x1021 else crc <<< 1

/-- One right shift of the register, the outgoing bit folded back by the reversed polynomial. -/
def shiftRight (crc : UInt16) : UInt16 :=
  if crc &&& 1 ≠ 0 then (crc >>> 1) ^^^ 0x8408 else crc >>> 1

/-- The register after one more byte. -/
def Variant.update : Variant → (crc : UInt16) → (byte : UInt8) → UInt16
  | .xmodem, crc, byte => Nat.repeat shiftLeft 8 (crc ^^^ (byte.toUInt16 <<< 8))
  | .ccitt, crc, byte => Nat.repeat shiftRight 8 (crc ^^^ byte.toUInt16)

def seed : UInt16 := 0xFFFF

def checksum (variant : Variant) (bytes : List UInt8) : UInt16 := bytes.foldl variant.update seed

end Crc

/-- A checksum in the making. -/
structure Crc where
  variant : Crc.Variant
  value : UInt16 := Crc.seed
  deriving DecidableEq, Repr

namespace Crc

def push (crc : Crc) (byte : UInt8) : Crc := { crc with value := crc.variant.update crc.value byte }

def update (crc : Crc) (bytes : List UInt8) : Crc := bytes.foldl push crc

def reset (crc : Crc) : Crc := { variant := crc.variant }

theorem update_append (crc : Crc) (a b : List UInt8) :
    crc.update (a ++ b) = (crc.update a).update b := by
  simp [update]

@[simp] theorem variant_update (crc : Crc) (bytes : List UInt8) :
    (crc.update bytes).variant = crc.variant := by
  induction bytes generalizing crc with
  | nil => rfl
  | cons b rest ih => exact ih (crc.push b)

theorem value_update (crc : Crc) (bytes : List UInt8) :
    (crc.update bytes).value = bytes.foldl crc.variant.update crc.value := by
  induction bytes generalizing crc with
  | nil => rfl
  | cons b rest ih => exact ih (crc.push b)

end Crc

end VoxelCube
