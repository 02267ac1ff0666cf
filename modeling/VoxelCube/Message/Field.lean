/-
The items of which a message's payload is put together, and their bytes.
-/
import VoxelCube.Message.Header
import VoxelCube.Message.Value

namespace VoxelCube

inductive Field where
  | u8 (n : UInt8)
  | u16 (n : UInt16)
  | u32 (n : UInt32)
  | i32 (n : Int32)
  | u64 (n : UInt64)
  | bytes (content : List UInt8)
  /-- A string with a one-byte count. -/
  | short (content : List UInt8)
  /-- A string with a two-byte count. -/
  | long (content : List UInt8)
  | value (v : Value)
  | header (h : Header)
  deriving DecidableEq, Repr

def Field.encode : Field → List UInt8
  | u8 n => [n]
  | u16 n => Word.toBytes 2 n.toNat
  | u32 n => Word.toBytes 4 n.toNat
  | i32 n => Word.toBytes 4 n.toUInt32.toNat
  | u64 n => Word.toBytes 8 n.toNat
  | bytes content => content
  | short content => Value.shortString content
  | long content => Value.longString content
  | value v => v.encode
  | header h => h.encode

end VoxelCube
