/-
The records that a device keeps over a power cycle, and the one-byte form in which a flash map
stores their keys.
-/
namespace VoxelCube

namespace Store

inductive Key where
  | operatingMode
  | effect
  | playlist
  | effectText
  | deviceAddress
  deriving DecidableEq, Repr

/-- Why a key cannot be stored in a buffer or found in one. -/
inductive KeyError where
  | bufferTooSmall
  | invalidFormat
  deriving DecidableEq, Repr

namespace Key

def index : Key → Fin 5
  | operatingMode => 0
  | effect => 1
  | playlist => 2
  | effectText => 3
  | deviceAddress => 4

def code (key : Key) : UInt8 := UInt8.ofNat key.index.val

def ofCode? (code : UInt8) : Option Key :=
  match code with
  | 0 => some operatingMode
  | 1 => some effect
  | 2 => some playlist
  | 3 => some effectText
  | 4 => some deviceAddress
  | _ => none

@[simp] theorem ofCode?_code (key : Key) : ofCode? key.code = some key := by
  cases key <;> rfl

theorem index_injective {a b : Key} (h : a.index = b.index) : a = b := by
  cases a <;> cases b <;> simp_all [index]

/-- Puts a key in front of a buffer, over what was there, and says how many bytes it takes. -/
def store (key : Key) : (buffer : List UInt8) → Except KeyError (List UInt8 × Nat)
  | [] => .error .bufferTooSmall
  | _ :: rest => .ok (key.code :: rest, 1)

/-- Finds a key in front of a buffer, and says how many bytes it takes. -/
def load : (buffer : List UInt8) → Except KeyError (Key × Nat)
  | [] => .error .bufferTooSmall
  | b :: _ =>
    match ofCode? b with
    | some key => .ok (key, 1)
    | none => .error .invalidFormat

end Key

end Store

end VoxelCube
