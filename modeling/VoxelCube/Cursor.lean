/-
Reading a message from its front. A cursor holds the bytes still to be read and how many were read;
a read that wants more bytes than are left fails and moves nothing.
-/
import VoxelCube.Word

namespace VoxelCube

/-- The first `n` elements of a list and the others; `none` when there are fewer than `n`. -/
def split? {α : Type} : Nat → List α → Option (List α × List α)
  | 0, rest => some ([], rest)
  | _ + 1, [] => none
  | n + 1, a :: rest => (split? n rest).map fun (front, back) => (a :: front, back)

theorem split?_eq {α : Type} (n : Nat) (list : List α) :
    split? n list = if n ≤ list.length then some (list.take n, list.drop n) else none := by
  induction n generalizing list with
  | zero => simp [split?]
  | succ n ih =>
    cases list with
    | nil => simp [split?]
    | cons a rest =>
      simp only [split?, ih, List.length_cons, Nat.add_le_add_iff_right]
      split <;> simp

structure Cursor where
  /-- The bytes still to be read. -/
  rest : List UInt8
  position : Nat := 0
  deriving DecidableEq, Repr

namespace Cursor

def take? (c : Cursor) (n : Nat) : Option (List UInt8 × Cursor) :=
  (split? n c.rest).map fun (front, back) => (front, { rest := back, position := c.position + n })

/-- Reads a little-endian number of `width` bytes. -/
def number? {α : Type} (c : Cursor) (width : Nat) (ofNat : Nat → α) : Option (α × Cursor) :=
  (c.take? width).map fun (bytes, c) => (ofNat (Word.ofBytes bytes), c)

def u8? (c : Cursor) : Option (UInt8 × Cursor) := c.number? 1 UInt8.ofNat

def u16? (c : Cursor) : Option (UInt16 × Cursor) := c.number? 2 UInt16.ofNat

def u32? (c : Cursor) : Option (UInt32 × Cursor) := c.number? 4 UInt32.ofNat

def i32? (c : Cursor) : Option (Int32 × Cursor) := c.number? 4 fun n => (UInt32.ofNat n).toInt32

def u64? (c : Cursor) : Option (UInt64 × Cursor) := c.number? 8 UInt64.ofNat

theorem take?_eq (c : Cursor) (n : Nat) :
    c.take? n = if n ≤ c.rest.length then
      some (c.rest.take n, { rest := c.rest.drop n, position := c.position + n }) else none := by
  simp only [take?, split?_eq]
  split <;> simp

theorem length_take? {c d : Cursor} {n : Nat} {bytes : List UInt8}
    (h : c.take? n = some (bytes, d)) : d.rest.length + n = c.rest.length := by
  rw [take?_eq] at h
  split at h
  · simp only [Option.some.injEq, Prod.mk.injEq] at h
    obtain ⟨-, rfl⟩ := h
    simp only [List.length_drop]
    omega
  · cases h

theorem length_number? {α : Type} {c d : Cursor} {width : Nat} {ofNat : Nat → α} {a : α}
    (h : c.number? width ofNat = some (a, d)) : d.rest.length + width = c.rest.length := by
  obtain ⟨⟨bytes, e⟩, taken, eq⟩ := Option.map_eq_some_iff.1 h
  simp only [Prod.mk.injEq] at eq
  obtain ⟨-, rfl⟩ := eq
  exact length_take? taken

theorem number?_toBytes {α : Type} (width n position : Nat) (rest : List UInt8) (ofNat : Nat → α) :
    Cursor.number? { rest := Word.toBytes width n ++ rest, position } width ofNat =
      some (ofNat (n % Word.limit width), { rest, position := position + width }) := by
  simp [number?, take?_eq, Word.ofBytes_toBytes]

theorem u8?_cons (b : UInt8) (rest : List UInt8) (position : Nat) :
    Cursor.u8? { rest := b :: rest, position } = some (b, { rest, position := position + 1 }) := by
  simp [u8?, number?, take?_eq, Word.ofBytes]

end Cursor

end VoxelCube
