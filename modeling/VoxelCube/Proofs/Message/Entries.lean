/-
The body of a read reply: one entry after the other, each with a number and a status, and after a success
with a tag and a value of the type that the tag announces. Whatever a device sends as a value spells a
plain one, which is read back; so a body is read back entry by entry, with nothing left over.
-/
import VoxelCube.Message.Code
import VoxelCube.Proofs.Message.Spelling

namespace VoxelCube

/-! ## Values as they are sent -/

namespace Value

/-- The plain value that a sent value is read back as: strings cut to what their counts can announce,
names and effects as the bytes that stand for them. -/
def plain : Value → Value
  | .octetString bytes => .octetString (bytes.take DataType.maxOctets)
  | .longOctetString bytes => .longOctetString (bytes.take DataType.maxLongOctets)
  | .nameList names => .longOctetString (nameText names)
  | .effectIds entries => .octetString ((entries.map (·.effect)).take DataType.maxOctets)
  | v => v

theorem length_quoted (name : String) : (quoted name).length = name.utf8ByteSize + 2 := by
  have length : (textBytes name).length = name.utf8ByteSize := rfl
  unfold quoted
  rw [List.cons_append, List.length_cons, List.length_append, length]
  rfl

/-- The length that is announced for a list of names is the length of its text. -/
theorem length_nameText (names : List String) : (nameText names).length = nameTextLength names := by
  have listed : ([0x2C].intercalate (names.map quoted)).length =
      names.foldr (fun name n => name.utf8ByteSize + 2 + n) 0 + (names.length - 1) := by
    induction names with
    | nil => rfl
    | cons name rest ih =>
      cases rest with
      | nil =>
        rw [List.map_singleton, List.intercalate_singleton]
        exact length_quoted name
      | cons next rest =>
        rw [List.map_cons, List.map_cons, List.intercalate_cons_cons, ← List.map_cons,
          List.length_append, List.length_append, ih, length_quoted]
        simp only [List.foldr_cons, List.length_cons, List.length_nil]
        omega
  unfold nameText nameTextLength
  rw [List.cons_append, List.length_cons, List.length_append, listed]
  simp only [List.length_cons, List.length_nil]
  omega

theorem spells_shortString (bytes : List UInt8) :
    Spells .octetString (shortString bytes) (.octetString (bytes.take DataType.maxOctets)) :=
  .octetString (List.length_take_le _ _)

theorem spells_longString (bytes : List UInt8) :
    Spells .longOctetString (longString bytes) (.longOctetString (bytes.take DataType.maxLongOctets)) :=
  .longOctetString (List.length_take_le _ _)

/-- Every value is sent as the spelling of its plain one. -/
theorem spells_encode (v : Value)
    (fits : ∀ names, v = .nameList names → nameTextLength names ≤ DataType.maxLongOctets) :
    Spells v.type v.encode v.plain := by
  cases v with
  | boolean b => cases b <;> exact .boolean _
  | uint8 n => exact .uint8 n
  | enum8 n => exact .enum8 n
  | int32 n => exact .int32 n
  | utcTime seconds => exact .utcTime seconds
  | ieeeAddress address => exact .ieeeAddress address
  | octetString bytes => exact spells_shortString bytes
  | longOctetString bytes => exact spells_longString bytes
  | effectIds entries => exact spells_shortString _
  | nameList names =>
    have bound := fits names rfl
    have announced : encode (.nameList names) =
        Word.toBytes 2 (nameText names).length ++ nameText names := by
      have short : min (nameTextLength names) 0xFFFF = nameTextLength names :=
        Nat.min_eq_left (Nat.le_succ_of_le bound)
      rw [length_nameText]
      exact congrArg (fun n => Word.toBytes 2 n ++ nameText names) short
    rw [announced]
    exact .longOctetString (by rw [length_nameText]; exact bound)

end Value

/-! ## Entries -/

/-- What a read reply says of one attribute number. -/
inductive ReadEntry where
  | value (id : UInt16) (type : DataType) (value : Value)
  | refusal (id : UInt16) (status : UInt8)
  deriving DecidableEq, Repr

/-- The bytes are a complete entry. -/
inductive ReadEntry.Spells : List UInt8 → ReadEntry → Prop where
  | value (id : UInt16) {type : DataType} {bytes : List UInt8} {value : Value}
    (h : value.Spells type bytes) :
    Spells (Word.toBytes 2 id.toNat ++ Status.success.code :: type.tag :: bytes) (.value id type value)
  | refusal (id : UInt16) {status : UInt8} (refused : status ≠ Status.success.code) :
    Spells (Word.toBytes 2 id.toNat ++ [status]) (.refusal id status)

/-- The entries of a body; none of one that is not made of complete entries. -/
def readEntries (body : List UInt8) : Option (List ReadEntry) :=
  match body with
  | [] => some []
  | low :: high :: status :: rest =>
    let id := UInt16.ofNat (Word.ofBytes [low, high])
    if status = Status.success.code then
      match rest with
      | [] => none
      | tag :: rest =>
        match DataType.ofTag? tag with
        | none => none
        | some type =>
          match read : Value.decode type { rest } with
          | .error _ => none
          | .ok (value, c) =>
            have : c.rest.length ≤ rest.length := Value.length_decode read
            (readEntries c.rest).map (.value id type value :: ·)
    else (readEntries rest).map (.refusal id status :: ·)
  | _ => none
termination_by body.length

/-- An entry at the front is read, whatever follows. -/
theorem readEntries_append {bytes : List UInt8} {entry : ReadEntry} (h : entry.Spells bytes)
    (others : List UInt8) :
    readEntries (bytes ++ others) = (readEntries others).map (entry :: ·) := by
  cases h with
  | @refusal id status refused =>
    have number := Word.ofBytes_id id
    rw [Word.toBytes, Word.toBytes, Word.toBytes] at number ⊢
    dsimp only [List.cons_append, List.nil_append]
    rw [readEntries.eq_def]
    dsimp only
    rw [number, if_neg refused]
  | @value id type bytes value h =>
    obtain ⟨d, read, rfl⟩ := h.decode others 0
    have number := Word.ofBytes_id id
    rw [List.append_assoc]
    rw [Word.toBytes, Word.toBytes, Word.toBytes] at number ⊢
    dsimp only [List.cons_append, List.nil_append]
    rw [readEntries]
    dsimp only
    rw [number, if_pos rfl]
    split
    · rename_i unknown
      rw [DataType.ofTag?_tag] at unknown
      cases unknown
    · rename_i known
      rw [DataType.ofTag?_tag] at known
      cases known
      split
      · rename_i failed
        rw [read] at failed
        cases failed
      · rename_i again
        rw [read] at again
        cases again
        rfl

/-- The bytes are entries, one after the other. -/
inductive EntriesSpell : List UInt8 → List ReadEntry → Prop where
  | nil : EntriesSpell [] []
  | cons {bytes others : List UInt8} {entry : ReadEntry} {entries : List ReadEntry}
    (first : entry.Spells bytes) (more : EntriesSpell others entries) :
    EntriesSpell (bytes ++ others) (entry :: entries)

/-- A body that is made of entries is read back as these and no others. -/
theorem EntriesSpell.readEntries_eq {body : List UInt8} {entries : List ReadEntry}
    (h : EntriesSpell body entries) : readEntries body = some entries := by
  induction h with
  | nil => rw [readEntries]
  | cons first _ ih =>
    rw [readEntries_append first, ih]
    rfl

end VoxelCube
