/-
Readers from the front of some bytes. They are put one behind another; what one reads in front, and the
next behind it, both read together. A reader that goes from front to back makes the same of its bytes
whatever follows them, or else they ended too early: that is so of all readers here, and so no bytes
that are read in full are read when they are cut.
-/
import VoxelCube.Cursor
import VoxelCube.Varint

namespace VoxelCube

/-! ## Readers -/

/-- Reads from the front of some bytes and gives back the others. -/
abbrev Reader (ε α : Type) := List UInt8 → Except ε (α × List UInt8)

namespace Reader

variable {ε α β : Type}

/-- Takes nothing and gives what is there already. -/
def give (result : Except ε α) : Reader ε α := fun bytes => result.map fun a => (a, bytes)

def byte (ended : ε) : Reader ε UInt8
  | [] => .error ended
  | b :: rest => .ok (b, rest)

def take (ended : ε) (count : Nat) : Reader ε (List UInt8) := fun bytes =>
  match split? count bytes with
  | some read => .ok read
  | none => .error ended

/-- One reader behind another. -/
def next (f : Reader ε α) (g : α → Reader ε β) : Reader ε β := fun bytes =>
  match f bytes with
  | .ok (a, rest) => g a rest
  | .error e => .error e

/-- What is done with the result is done behind the last reader. -/
theorem map_next {γ : Type} (f : Reader ε α) (g : α → Reader ε β) (use : β × List UInt8 → γ)
    (bytes : List UInt8) :
    (f.next g bytes).map use = (f bytes).bind fun read => (g read.1 read.2).map use := by
  unfold next
  cases f bytes <;> rfl

/-! ### Reading what was written -/

/-- These bytes are read as `a`, whatever follows them. -/
def Reads (f : Reader ε α) (bytes : List UInt8) (a : α) : Prop :=
  ∀ rest, f (bytes ++ rest) = .ok (a, rest)

variable {f : Reader ε α} {g : α → Reader ε β} {ended : ε} {xs ys : List UInt8} {a : α} {b : β}

theorem reads_give (a : α) : (give (.ok a) : Reader ε α).Reads [] a := fun _ => rfl

theorem reads_byte (b : UInt8) : (byte ended).Reads [b] b := fun _ => rfl

theorem reads_take (ended : ε) (bytes : List UInt8) :
    (take ended bytes.length).Reads bytes bytes := by
  intro rest
  simp [take, split?_eq]

theorem Reads.next (first : f.Reads xs a) (second : (g a).Reads ys b) :
    (f.next g).Reads (xs ++ ys) b := by
  intro rest
  simp only [Reader.next, List.append_assoc, first (ys ++ rest), second rest]

/-! ### Front to back -/

/-- Once a reader has made something of its bytes, other than that they ended, more of them behind
change nothing. -/
structure Sequential (ended : ε) (f : Reader ε α) : Prop where
  ok : ∀ {bytes a rest}, f bytes = .ok (a, rest) → ∀ more, f (bytes ++ more) = .ok (a, rest ++ more)
  error : ∀ {bytes e}, f bytes = .error e → e ≠ ended → ∀ more, f (bytes ++ more) = .error e

theorem sequential_give (result : Except ε α) : Sequential ended (give result) := by
  cases result with
  | ok a =>
    constructor
    · intro bytes a' rest read more
      cases read
      rfl
    · intro bytes e failed
      cases failed
  | error e =>
    constructor
    · intro bytes a rest read
      cases read
    · intro bytes e' failed _ more
      exact failed

theorem sequential_byte : Sequential ended (byte ended) := by
  constructor
  · intro bytes b rest read more
    cases bytes with
    | nil => cases read
    | cons b bytes =>
      cases read
      rfl
  · intro bytes e failed other more
    cases bytes with
    | nil =>
      cases failed
      exact absurd rfl other
    | cons b bytes => cases failed

theorem sequential_take (count : Nat) : Sequential ended (take ended count) := by
  constructor
  · intro bytes front rest read more
    simp only [take, split?_eq] at read ⊢
    by_cases enough : count ≤ bytes.length
    · have still : count ≤ (bytes ++ more).length := by
        rw [List.length_append]
        omega
      rw [if_pos enough] at read
      cases read
      rw [if_pos still, List.take_append_of_le_length enough, List.drop_append_of_le_length enough]
    · rw [if_neg enough] at read
      cases read
  · intro bytes e failed other more
    simp only [take, split?_eq] at failed
    split at failed
    · cases failed
    · cases failed
      exact absurd rfl other

theorem Sequential.next (first : f.Sequential ended) (second : ∀ a, (g a).Sequential ended) :
    (f.next g).Sequential ended := by
  constructor
  · intro bytes b rest read more
    simp only [Reader.next] at read ⊢
    split at read
    · rename_i front
      rw [first.ok front more]
      exact (second _).ok read more
    · cases read
  · intro bytes e failed other more
    simp only [Reader.next] at failed ⊢
    split at failed
    · rename_i front
      rw [first.ok front more]
      exact (second _).error failed other more
    · rename_i front
      cases failed
      rw [first.error front other more]

/-- Bytes that are read in full end too early when they are cut. -/
theorem Sequential.cut (h : f.Sequential ended) (reads : f.Reads xs a) {front : List UInt8}
    (part : front <+: xs) (short : front ≠ xs) : f front = .error ended := by
  obtain ⟨more, rfl⟩ := part
  have whole : f (front ++ more) = .ok (a, []) := by
    have all := reads []
    rwa [List.append_nil] at all
  cases made : f front with
  | ok read =>
    obtain ⟨a', rest⟩ := read
    rw [h.ok made more] at whole
    cases more with
    | nil => exact absurd (List.append_nil front).symm short
    | cons b more => simp at whole
  | error e =>
    by_cases other : e = ended
    · rw [other]
    · rw [h.error made other more] at whole
      cases whole

end Reader

open Reader (Sequential)

/-! ## Numbers -/

namespace Varint

theorem groups_succ (room : Nat) : groups (room + 1) =
    (Reader.byte .ended).next fun b =>
      if b.toNat < 128 then .give (.ok b.toNat)
      else Reader.next (groups room) fun n => .give (.ok (b.toNat - 128 + 128 * n)) := by
  funext bytes
  cases bytes with
  | nil => rfl
  | cons b bytes =>
    simp only [groups, Reader.next, Reader.byte]
    split
    · rfl
    · simp only [Reader.next]
      cases groups room bytes <;> rfl

theorem groups_sequential (room : Nat) : Sequential Error.ended (groups room) := by
  induction room with
  | zero => exact Reader.sequential_give (.error Error.overlong)
  | succ room ih =>
    rw [groups_succ]
    refine Reader.sequential_byte.next fun b => ?_
    split
    · exact Reader.sequential_give _
    · exact ih.next fun n => Reader.sequential_give _

theorem decode_sequential (bits : Nat) : Sequential Error.ended (decode bits) := by
  have steps : decode bits = Reader.next (groups ((bits + 6) / 7)) fun n =>
      .give (if n < 1 <<< bits then .ok n else .error .overlong) := by
    funext bytes
    simp only [decode, Reader.next]
    cases groups ((bits + 6) / 7) bytes with
    | ok read =>
      dsimp only
      split <;> rfl
    | error e => rfl
  rw [steps]
  exact (groups_sequential _).next fun n => Reader.sequential_give _

end Varint

end VoxelCube
