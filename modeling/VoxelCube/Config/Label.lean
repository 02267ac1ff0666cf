/-
Texts of a limited number of bytes. A longer text is cut before the first character that does not
fit, so a label never ends inside a character.
-/
namespace VoxelCube

/-- A text of at most `room` bytes. -/
structure Label (room : Nat) where
  text : String
  fits : text.utf8ByteSize ≤ room
  deriving DecidableEq

namespace Label

def empty (room : Nat) : Label room := ⟨"", by simp⟩

/-- Appends characters up to the first that does not fit. -/
def extend {room : Nat} (label : Label room) : List Char → Label room
  | [] => label
  | c :: rest =>
    if fits : (label.text.push c).utf8ByteSize ≤ room then extend ⟨label.text.push c, fits⟩ rest
    else label

/-- A text, cut to the label's room. -/
def ofText (room : Nat) (text : String) : Label room := (empty room).extend text.toList

end Label

end VoxelCube
