/-
The stored form of a configuration: its fields in order, wide numbers in groups of seven bits, one
byte for an endpoint, a number for the checksum variant, and counted texts. Whatever follows the
last field is ignored.
-/
import VoxelCube.Config.Basic
import VoxelCube.Cursor
import VoxelCube.Varint

namespace VoxelCube

namespace Config

/-- Why bytes are no configuration. -/
inductive DecodeError where
  /-- The bytes end inside a field. -/
  | ended
  /-- A number is too long or too large. -/
  | badNumber
  /-- A text is no well-formed Unicode. -/
  | badText
  /-- A text is too long or a variant unknown. -/
  | refused
  deriving DecidableEq, Repr

/-! ## Fields -/

def variantIndex : Crc.Variant → Nat
  | .ccitt => 0
  | .xmodem => 1

def encodeText (text : String) : List UInt8 :=
  Varint.encode text.utf8ByteSize ++ text.toUTF8.data.toList

def readByte : List UInt8 → Except DecodeError (UInt8 × List UInt8)
  | [] => .error .ended
  | b :: rest => .ok (b, rest)

/-- Reads a number of `bits` bits. -/
def readNumber (bits : Nat) (bytes : List UInt8) : Except DecodeError (Nat × List UInt8) :=
  match Varint.decode bits bytes with
  | .ok read => .ok read
  | .error .ended => .error .ended
  | .error .overlong => .error .badNumber

def readVariant (bytes : List UInt8) : Except DecodeError (Crc.Variant × List UInt8) :=
  match readNumber 32 bytes with
  | .ok (0, rest) => .ok (.ccitt, rest)
  | .ok (1, rest) => .ok (.xmodem, rest)
  | .ok _ => .error .refused
  | .error e => .error e

/-- The label of a text's bytes; whether it is a text is judged before its length. -/
def labelOf (room : Nat) (bytes : List UInt8) : Except DecodeError (Label room) :=
  match String.fromUTF8? ⟨bytes.toArray⟩ with
  | some text => if fits : text.utf8ByteSize ≤ room then .ok ⟨text, fits⟩ else .error .refused
  | none => .error .badText

def readLabel (room : Nat) (bytes : List UInt8) : Except DecodeError (Label room × List UInt8) :=
  match readNumber 64 bytes with
  | .error e => .error e
  | .ok (count, rest) =>
    match split? count rest with
    | none => .error .ended
    | some (front, rest) =>
      match labelOf room front with
      | .ok label => .ok (label, rest)
      | .error e => .error e

/-! ## Configurations -/

def encode (c : Config) : List UInt8 :=
  Varint.encode c.profile.toNat ++ [c.endpoint, c.configEndpoint] ++
    Varint.encode (variantIndex c.crc) ++ encodeText c.identity.text ++
    encodeText c.hardware.text ++ encodeText c.software.text ++
    Varint.encode c.factoryAddress.toNat

def decode (bytes : List UInt8) : Except DecodeError Config := do
  let (profile, rest) ← readNumber 16 bytes
  let (endpoint, rest) ← readByte rest
  let (configEndpoint, rest) ← readByte rest
  let (crc, rest) ← readVariant rest
  let (identity, rest) ← readLabel identityRoom rest
  let (hardware, rest) ← readLabel versionRoom rest
  let (software, rest) ← readLabel versionRoom rest
  let (address, _) ← readNumber 64 rest
  return { profile := UInt16.ofNat profile, endpoint, configEndpoint, crc, identity, hardware,
           software, factoryAddress := UInt64.ofNat address }

end Config

end VoxelCube
