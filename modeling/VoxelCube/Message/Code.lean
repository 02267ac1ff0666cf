/-
The one-byte codes of messages: the commands that a message can carry and the statuses that a reply
reports. A byte that is no code of a known command is answered as an unsupported command.
-/
namespace VoxelCube

inductive Command where
  | readAttributes
  | readAttributesResponse
  | writeAttributes
  | writeAttributesResponse
  | reportAttributes
  | defaultResponse
  deriving DecidableEq, Repr

namespace Command

def code : Command → UInt8
  | readAttributes => 0x00
  | readAttributesResponse => 0x01
  | writeAttributes => 0x02
  | writeAttributesResponse => 0x04
  | reportAttributes => 0x0A
  | defaultResponse => 0x0B

def ofCode? (code : UInt8) : Option Command :=
  match code with
  | 0x00 => some readAttributes
  | 0x01 => some readAttributesResponse
  | 0x02 => some writeAttributes
  | 0x04 => some writeAttributesResponse
  | 0x0A => some reportAttributes
  | 0x0B => some defaultResponse
  | _ => none

@[simp] theorem ofCode?_code (command : Command) : ofCode? command.code = some command := by
  cases command <;> rfl

end Command

/-- What a reply reports about a command or one of its records. -/
inductive Status where
  | success
  | failure
  | unsupportedClusterCommand
  | unsupportedGeneralCommand
  | unsupportedAttribute
  | invalidValue
  | readOnly
  | invalidDataType
  | writeOnly
  deriving DecidableEq, Repr

def Status.code : Status → UInt8
  | success => 0x00
  | failure => 0x01
  | unsupportedClusterCommand => 0x81
  | unsupportedGeneralCommand => 0x82
  | unsupportedAttribute => 0x86
  | invalidValue => 0x87
  | readOnly => 0x88
  | invalidDataType => 0x8D
  | writeOnly => 0x8F

end VoxelCube
