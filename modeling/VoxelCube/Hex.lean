/-
Hexadecimal digits on the wire. Bytes are written as two upper-case digits, high digit first, and
only such digits are read; characters are given by their codes. `byte?_pair` reads every written
byte back, and a `PairReader` does the same one character at a time.
-/
namespace VoxelCube.Hex

/-- The digit for the low four bits of `n`. -/
def digit (n : UInt8) : UInt8 :=
  let v := n &&& 0x0F
  if v < 10 then v + 48 else v + 55

/-- The value of a digit `0`-`9` or `A`-`F`; lower-case letters are no digits here. -/
def value? (c : UInt8) : Option UInt8 :=
  if 48 ≤ c ∧ c ≤ 57 then some (c - 48)
  else if 65 ≤ c ∧ c ≤ 70 then some (c - 55)
  else none

def pair (b : UInt8) : List UInt8 := [digit (b >>> 4), digit b]

def encode (bytes : List UInt8) : List UInt8 := bytes.flatMap pair

def join (high low : UInt8) : UInt8 := (high <<< 4) ||| low

/-- The byte that two characters spell; `none` when one of them is no digit. -/
def byte? (high low : UInt8) : Option UInt8 := do
  let h ← value? high
  let l ← value? low
  return join h l

theorem byte?_pair (b : UInt8) : byte? (digit (b >>> 4)) (digit b) = some b := by
  have all : ∀ i : Fin 256, byte? (digit (UInt8.ofNat i.val >>> 4)) (digit (UInt8.ofNat i.val)) =
      some (UInt8.ofNat i.val) := by decide +kernel
  simpa using all ⟨b.toNat, b.toNat_lt⟩

@[simp] theorem encode_nil : encode [] = [] := rfl

theorem encode_append (a b : List UInt8) : encode (a ++ b) = encode a ++ encode b := by
  simp [encode]

theorem length_encode (bytes : List UInt8) : (encode bytes).length = 2 * bytes.length := by
  induction bytes with
  | nil => rfl
  | cons b rest ih => simp only [encode, List.flatMap_cons, pair] at *; simp [ih]; omega

/-! ## Reading pairs character by character -/

/-- What one more character makes of the pair in progress. -/
inductive Fed where
  /-- The high digit is held until its partner comes. -/
  | held
  | byte (b : UInt8)
  | invalid
  deriving DecidableEq, Repr

/-- A reader of digit pairs: the value of the high digit read so far, if any. -/
structure PairReader where
  high : Option UInt8 := none
  deriving DecidableEq, Repr

namespace PairReader

/-- Reads one character; an invalid one also drops the digit held before it. -/
def feed (r : PairReader) (c : UInt8) : PairReader × Fed :=
  match value? c, r.high with
  | none, _ => ({}, .invalid)
  | some v, none => ({ high := some v }, .held)
  | some v, some h => ({}, .byte (join h v))

end PairReader

end VoxelCube.Hex
