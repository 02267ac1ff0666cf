/-
The types of attribute values and how far a value of each type reaches. Numbers have a fixed width;
strings are counted, and a count of all ones marks an invalid string, which has no bytes.
-/
import VoxelCube.Cursor

namespace VoxelCube

inductive DataType where
  | boolean
  | uint8
  | int32
  | enum8
  | octetString
  | longOctetString
  | utcTime
  | ieeeAddress
  deriving DecidableEq, Repr

namespace DataType

/-- The byte that announces a value of the type. -/
def tag : DataType → UInt8
  | boolean => 0x10
  | uint8 => 0x20
  | int32 => 0x2B
  | enum8 => 0x30
  | octetString => 0x41
  | longOctetString => 0x43
  | utcTime => 0xE2
  | ieeeAddress => 0xF0

/-- The type that a byte announces; `none` for types whose values cannot be measured. -/
def ofTag? (tag : UInt8) : Option DataType :=
  match tag with
  | 0x10 => some boolean
  | 0x20 => some uint8
  | 0x2B => some int32
  | 0x30 => some enum8
  | 0x41 => some octetString
  | 0x43 => some longOctetString
  | 0xE2 => some utcTime
  | 0xF0 => some ieeeAddress
  | _ => none

@[simp] theorem ofTag?_tag (type : DataType) : ofTag? type.tag = some type := by
  cases type <;> rfl

/-- The width of a number's bytes; `none` for strings. -/
def width? : DataType → Option Nat
  | boolean | uint8 | enum8 => some 1
  | int32 | utcTime => some 4
  | ieeeAddress => some 8
  | octetString | longOctetString => none

/-- The longest octet string; one more marks an invalid one. -/
def maxOctets : Nat := 254

/-- The longest long octet string; one more marks an invalid one. -/
def maxLongOctets : Nat := 65534

/-- How many bytes a string has by its one-byte count. -/
def shortSize (count : Nat) : Nat := if count = 0xFF then 0 else count

/-- How many bytes a string has by its two-byte count. -/
def longSize (count : Nat) : Nat := if count = 0xFFFF then 0 else count

def skipBytes (n : Nat) (c : Cursor) : Except Cursor Cursor :=
  match c.take? n with
  | some (_, c) => .ok c
  | none => .error c

/-- Steps over a string whose count, of `width` bytes, stands for `size` bytes. -/
def skipString (width : Nat) (size : Nat → Nat) (c : Cursor) : Except Cursor Cursor :=
  match c.number? width size with
  | some (n, c) => skipBytes n c
  | none => .error c

/-- Steps over one value; an error carries the place where the bytes ran out. -/
def skip (type : DataType) (c : Cursor) : Except Cursor Cursor :=
  match type with
  | octetString => skipString 1 shortSize c
  | longOctetString => skipString 2 longSize c
  | _ => skipBytes (type.width?.getD 0) c

end DataType

end VoxelCube
