/-
How far a value reaches. Where a value ends in a message is told by its type and, for a string, by the
count in front of it, and by nothing else; a value is stepped over exactly as far as it is read. So a
record that is not wanted costs the records behind it nothing.
-/
import VoxelCube.Proofs.Message.Spelling

namespace VoxelCube

/-- The cursor of a message of which so many bytes were read. -/
def Cursor.inside (data : List UInt8) (position : Nat) : Cursor :=
  { rest := data.drop position, position }

/-- How many bytes a value takes that begins with these bytes; none where its count is cut off. -/
def DataType.extent? : (type : DataType) → (bytes : List UInt8) → Option Nat
  | .octetString, count :: _ => some (1 + if count = 0xFF then 0 else count.toNat)
  | .longOctetString, low :: high :: _ =>
    let count := low.toNat + 256 * high.toNat
    some (2 + if count = 0xFFFF then 0 else count)
  | type, _ => type.width?

/-! ## Steps of a cursor -/

/-- A reader of a message steps over as many bytes as it is to take, and stays in the message. It fails
where there are not that many, or where it cannot be told how many they are. -/
def Cursor.Steps (data : List UInt8) (position : Nat) (size? : Option Nat)
    (result : Except Cursor Cursor) : Prop :=
  ∃ next, position ≤ next ∧ next ≤ data.length ∧
    ((size? = some (next - position) ∧ result = .ok (.inside data next)) ∨
      ((∀ size, size? = some size → data.length < position + size) ∧
        result = .error (.inside data next)))

variable {data : List UInt8} {position : Nat}

theorem Cursor.take?_inside (within : position ≤ data.length) (n : Nat) :
    (Cursor.inside data position).take? n = if position + n ≤ data.length then
      some ((data.drop position).take n, .inside data (position + n)) else none := by
  have room : n ≤ (data.drop position).length ↔ position + n ≤ data.length := by
    rw [List.length_drop]
    omega
  rw [take?_eq]
  unfold inside
  simp only [room, List.drop_drop]

namespace DataType

theorem steps_skipBytes (within : position ≤ data.length) (n : Nat) :
    Cursor.Steps data position (some n) (skipBytes n (.inside data position)) := by
  unfold skipBytes
  rw [Cursor.take?_inside within]
  by_cases fits : position + n ≤ data.length
  · rw [if_pos fits]
    exact ⟨position + n, Nat.le_add_right _ _, fits, .inl ⟨by rw [Nat.add_sub_cancel_left], rfl⟩⟩
  · rw [if_neg fits]
    refine ⟨position, Nat.le_refl _, within, .inr ⟨?_, rfl⟩⟩
    rintro _ ⟨⟩
    exact Nat.not_le.mp fits

/-- A string is stepped over by its count and then by as many bytes as the count stands for. -/
theorem steps_skipString (within : position ≤ data.length) (width : Nat) (size : Nat → Nat) :
    Cursor.Steps data position
      (if width ≤ (data.drop position).length then
        some (width + size (Word.ofBytes ((data.drop position).take width))) else none)
      (skipString width size (.inside data position)) := by
  have room : width ≤ (data.drop position).length ↔ position + width ≤ data.length := by
    rw [List.length_drop]
    omega
  unfold skipString Cursor.number?
  rw [Cursor.take?_inside within]
  by_cases counted : position + width ≤ data.length
  · rw [if_pos (room.mpr counted), if_pos counted]
    -- behind the count, the string is so many bytes
    obtain ⟨next, onward, last, ⟨size, result⟩ | ⟨short, result⟩⟩ :=
      steps_skipBytes counted (size (Word.ofBytes ((data.drop position).take width)))
    · refine ⟨next, by omega, last, .inl ⟨?_, result⟩⟩
      rw [Option.some.injEq] at size ⊢
      omega
    · refine ⟨next, by omega, last, .inr ⟨?_, result⟩⟩
      rintro _ ⟨⟩
      have := short _ rfl
      omega
  · rw [if_neg (fun wide => counted (room.mp wide)), if_neg counted]
    refine ⟨position, Nat.le_refl _, within, .inr ⟨?_, rfl⟩⟩
    rintro _ ⟨⟩

theorem extent?_octetString (bytes : List UInt8) : extent? .octetString bytes =
    if 1 ≤ bytes.length then some (1 + shortSize (Word.ofBytes (bytes.take 1))) else none := by
  cases bytes with
  | nil => rfl
  | cons count rest =>
    have marked : count.toNat = 0xFF ↔ count = 0xFF := UInt8.toNat_inj (b := 0xFF)
    simp [extent?, shortSize, Word.ofBytes, marked]

theorem extent?_longOctetString (bytes : List UInt8) : extent? .longOctetString bytes =
    if 2 ≤ bytes.length then some (2 + longSize (Word.ofBytes (bytes.take 2))) else none := by
  rcases bytes with _ | ⟨low, _ | ⟨high, rest⟩⟩
  · rfl
  · rfl
  · simp [extent?, longSize, Word.ofBytes]

/-- A value is stepped over by its extent. -/
theorem steps_skip (within : position ≤ data.length) (type : DataType) :
    Cursor.Steps data position (type.extent? (data.drop position))
      (type.skip (.inside data position)) := by
  cases type with
  | boolean | uint8 | int32 | enum8 | utcTime | ieeeAddress => exact steps_skipBytes within _
  | octetString =>
    rw [extent?_octetString]
    exact steps_skipString within 1 shortSize
  | longOctetString =>
    rw [extent?_longOctetString]
    exact steps_skipString within 2 longSize

end DataType

namespace Value

/-- A value that is read in a message leaves the cursor in the message. -/
theorem exists_inside_of_decode (within : position ≤ data.length) {type : DataType} {v : Value}
    {d : Cursor} (read : decode type (.inside data position) = .ok (v, d)) :
    ∃ next ≤ data.length, d = .inside data next := by
  have skipped := skip_eq_decode type (.inside data position)
  rw [read] at skipped
  obtain ⟨next, -, last, ⟨-, result⟩ | ⟨-, result⟩⟩ := type.steps_skip within
  · exact ⟨next, last, Except.ok.inj (skipped.symm.trans result)⟩
  · cases skipped.symm.trans result

/-- **Extents.** From any place of any message, a value of a type is stepped over as it is read. Either
both come to the place behind its extent, which is the width of its type or that of the count and what the
count stands for; or both fail, and stay at one place of the message, because the extent is not all there. -/
theorem skip_agrees_with_decode (within : position ≤ data.length) (type : DataType) :
    let start := Cursor.inside data position
    ∃ next, position ≤ next ∧ next ≤ data.length ∧
      ((type.extent? start.rest = some (next - position) ∧ type.skip start = .ok (.inside data next) ∧
          ∃ v, decode type start = .ok (v, .inside data next)) ∨
        ((∀ size, type.extent? start.rest = some size → data.length < position + size) ∧
          type.skip start = .error (.inside data next) ∧
          decode type start = .error (.inside data next))) := by
  intro start
  have both : type.skip start = (decode type start).map Prod.snd := skip_eq_decode type start
  generalize decode type start = read at both ⊢
  obtain ⟨next, onward, last, ⟨size, skipped⟩ | ⟨short, skipped⟩⟩ := type.steps_skip within
  · refine ⟨next, onward, last, .inl ⟨size, skipped, ?_⟩⟩
    rw [skipped] at both
    cases read with
    | error e => cases both
    | ok read =>
      obtain ⟨v, d⟩ := read
      cases both
      exact ⟨v, rfl⟩
  · refine ⟨next, onward, last, .inr ⟨short, skipped, ?_⟩⟩
    rw [skipped] at both
    cases read with
    | error e =>
      cases both
      rfl
    | ok read => cases both

/-- A string that is marked as invalid has no bytes: in the middle of a message, it is stepped over and read
by its count alone. -/
theorem markedString_skipped :
    let data := [0x2A, 0xFF, 0xFF, 0x7F]
    1 ≤ data.length ∧ DataType.longOctetString.skip (.inside data 1) = .ok (.inside data 3) ∧
      ∃ v, decode .longOctetString (.inside data 1) = .ok (v, .inside data 3) := by
  intro data
  have within : 1 ≤ data.length := by decide
  have extent : DataType.longOctetString.extent? (Cursor.inside data 1).rest = some 2 := by decide
  obtain ⟨next, onward, -, ⟨size, both⟩ | ⟨short, -⟩⟩ :=
    skip_agrees_with_decode within .longOctetString
  · rw [extent, Option.some.injEq] at size
    obtain rfl : next = 3 := by omega
    exact ⟨within, both⟩
  · exact absurd (short 2 extent) (by decide)

end Value

end VoxelCube
