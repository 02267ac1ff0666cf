/-
Values that are sent and read back. Whatever stands before and behind a value in a message, it is read
there as its plain value, up to its last byte: a number and a string that is not too long as what they
are, a longer string cut, a list of names as its text, and the effects of playlist entries as the numbers
that they are. So no two values that are read as they are begin alike.
-/
import VoxelCube.Proofs.Message.Entries
import VoxelCube.Proofs.Message.Extent

namespace VoxelCube

theorem textBytes_append (a b : String) : textBytes (a ++ b) = textBytes a ++ textBytes b := by
  unfold textBytes String.toUTF8
  rw [String.toByteArray_append]
  simp

theorem DataType.tag_injective {type other : DataType} (same : type.tag = other.tag) : type = other := by
  have known := congrArg ofTag? same
  rw [ofTag?_tag, ofTag?_tag] at known
  exact Option.some.inj known

namespace Value

/-! ## Lists of names -/

/-- A name in quotation marks. -/
def inQuotes (name : String) : String := "\"" ++ name ++ "\""

theorem quoted_eq (name : String) : quoted name = textBytes (inQuotes name) := by
  unfold inQuotes
  rw [textBytes_append, textBytes_append]
  rfl

/-- A list of names is sent as one text: the names in quotation marks, commas between them, in brackets. -/
theorem nameText_eq (names : List String) :
    nameText names = textBytes ("[" ++ String.intercalate "," (names.map inQuotes) ++ "]") := by
  have listed : [0x2C].intercalate (names.map quoted) =
      textBytes (String.intercalate "," (names.map inQuotes)) := by
    induction names with
    | nil => rfl
    | cons name rest ih =>
      cases rest with
      | nil => simp [quoted_eq]
      | cons next rest =>
        simp only [List.map_cons, List.intercalate_cons_cons, String.intercalate_cons_cons] at ih ⊢
        rw [ih, textBytes_append, textBytes_append, quoted_eq]
        rfl
  unfold nameText
  rw [listed, textBytes_append, textBytes_append]
  rfl

/-! ## Values that are read as they are -/

/-- A number, or a string that its count can announce whole. -/
def IsWhole : Value → Prop
  | .octetString bytes => bytes.length ≤ DataType.maxOctets
  | .longOctetString bytes => bytes.length ≤ DataType.maxLongOctets
  | .nameList _ | .effectIds _ => False
  | .boolean _ | .uint8 _ | .int32 _ | .enum8 _ | .utcTime _ | .ieeeAddress _ => True

theorem IsWhole.plain_eq {v : Value} (whole : v.IsWhole) : v.plain = v := by
  cases v with
  | octetString bytes => exact congrArg octetString (List.take_of_length_le whole)
  | longOctetString bytes => exact congrArg longOctetString (List.take_of_length_le whole)
  | nameList names => exact whole.elim
  | effectIds entries => exact whole.elim
  | _ => rfl

/-- The spelling of a whole value is its own. -/
theorem IsWhole.spells {v : Value} (whole : v.IsWhole) : Spells v.type v.encode v := by
  have spelled := v.spells_encode fun names list => (list ▸ whole : (nameList names).IsWhole).elim
  rwa [whole.plain_eq] at spelled

/-! ## Reading back -/

/-- What is spelled in the middle of a message is read there, and the cursor comes behind it. -/
theorem Spells.decode_inside {type : DataType} {bytes : List UInt8} {v : Value}
    (h : Spells type bytes v) (before rest : List UInt8) :
    Value.decode type (.inside (before ++ bytes ++ rest) before.length) =
      .ok (v, .inside (before ++ bytes ++ rest) (before ++ bytes).length) := by
  have start : Cursor.inside (before ++ bytes ++ rest) before.length =
      { rest := bytes ++ rest, position := before.length } := by
    unfold Cursor.inside
    rw [List.append_assoc, List.drop_left]
  obtain ⟨d, read, left⟩ := h.decode rest before.length
  rw [← start] at read
  obtain ⟨next, within, rfl⟩ := exists_inside_of_decode (by simp) read
  -- what is left tells how far the cursor came
  have onward : next = (before ++ bytes).length := by
    have lengths := congrArg List.length left
    unfold Cursor.inside at lengths
    rw [List.length_drop, List.length_append] at lengths
    rw [List.length_append] at within
    omega
  rw [read, onward]

/-- A list of names that is too long is announced as an invalid string, and read as an empty one. -/
theorem decode_nameList_long {names : List String} (long : DataType.maxLongOctets < nameTextLength names)
    (before rest : List UInt8) : ∃ d,
    decode .longOctetString (.inside (before ++ (nameList names).encode ++ rest) before.length) =
      .ok (.longOctetString [], d) := by
  have announced : (nameList names).encode = [0xFF, 0xFF] ++ nameText names := by
    have most : min (nameTextLength names) 0xFFFF = 0xFFFF := Nat.min_eq_right long
    exact congrArg (fun n => Word.toBytes 2 n ++ nameText names) most
  have marked := Spells.invalidLongOctetString.decode_inside before (nameText names ++ rest)
  rw [← List.append_assoc, List.append_assoc before, ← announced] at marked
  exact ⟨_, marked⟩

/-- **Values read back.** In the middle of any message a value is read as its plain one, up to its last
byte, unless it is a list of names whose text is too long for a string. A number, and a string that is not
too long, is its own plain value; that of a list of names is its text. So of two such values of one type,
and of any two behind their tags, neither begins with the other. -/
theorem values_read_back :
    (∀ (v : Value) (before rest : List UInt8),
      let message := before ++ v.encode ++ rest
      decode v.type (.inside message before.length) =
          .ok (v.plain, .inside message (before ++ v.encode).length) ↔
        ∀ names, v = .nameList names → nameTextLength names ≤ DataType.maxLongOctets) ∧
    (∀ v : Value, v.IsWhole → v.plain = v) ∧
    (∀ names, plain (.nameList names) = .longOctetString
      (textBytes ("[" ++ String.intercalate "," (names.map inQuotes) ++ "]"))) ∧
    ∀ v w : Value, v.IsWhole → w.IsWhole → ∀ rest last,
      (v.type = w.type → v.encode ++ rest = w.encode ++ last → v = w ∧ rest = last) ∧
      (v.type.tag :: v.encode ++ rest = w.type.tag :: w.encode ++ last → v = w ∧ rest = last) := by
  refine ⟨fun v before rest => ⟨fun read names list => ?_, fun fits => ?_⟩,
    fun v whole => whole.plain_eq, fun names => congrArg longOctetString (nameText_eq names),
    fun v w whole whole' rest last => ?_⟩
  · refine Nat.not_lt.mp fun long => ?_
    subst list
    obtain ⟨d, empty⟩ := decode_nameList_long long before rest
    cases empty.symm.trans read
  · exact (v.spells_encode fits).decode_inside before rest
  · have ofType : v.type = w.type → v.encode ++ rest = w.encode ++ last → v = w ∧ rest = last := by
      intro type same
      have spelled := whole'.spells
      rw [← type] at spelled
      exact whole.spells.unique spelled same
    refine ⟨ofType, fun same => ?_⟩
    obtain ⟨tag, values⟩ := List.cons.inj same
    exact ofType (DataType.tag_injective tag) values

end Value

end VoxelCube
