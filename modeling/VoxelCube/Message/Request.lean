/-
The bodies of commands: the attribute numbers of a read and the records of a write. Each is read
from the front as far as it is well formed; a write body also tells how it ends, because the reply
depends on it.
-/
import VoxelCube.Message.Value

namespace VoxelCube

/-! ## Read commands -/

/-- The attribute numbers of a read; an odd byte at the end is no number. -/
def readIds : (body : List UInt8) → List UInt16
  | low :: high :: rest => UInt16.ofNat (Word.ofBytes [low, high]) :: readIds rest
  | _ => []

/-! ## Write commands -/

structure WriteRecord where
  id : UInt16
  value : Value
  deriving DecidableEq, Repr

/-- How the body of a write ends after its last complete record. -/
inductive WriteEnding where
  | complete
  /-- Inside the number or the tag of another record. -/
  | ragged
  /-- With a record whose values cannot be measured, and whatever follows. -/
  | unknownType (id : UInt16)
  /-- Inside the value of another record. -/
  | cutValue (id : UInt16) (type : DataType)
  deriving DecidableEq, Repr

/-- The complete records at the front of a write's body, and how the body ends. -/
def writeRecords (body : List UInt8) : List WriteRecord × WriteEnding :=
  match body with
  | [] => ([], .complete)
  | low :: high :: tag :: rest =>
    let id := UInt16.ofNat (Word.ofBytes [low, high])
    match DataType.ofTag? tag with
    | none => ([], .unknownType id)
    | some type =>
      match read : Value.decode type { rest } with
      | .error _ => ([], .cutValue id type)
      | .ok (value, c) =>
        have : c.rest.length ≤ rest.length := Value.length_decode read
        let (records, ending) := writeRecords c.rest
        ({ id, value } :: records, ending)
  | _ => ([], .ragged)
termination_by body.length
decreasing_by
  simp only [List.length_cons]
  omega

end VoxelCube
