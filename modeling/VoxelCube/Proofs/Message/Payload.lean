/-
What a writer makes of a run of fields. Each field is laid out in parts, numbers of so many bytes and runs
of bytes that are taken as they are, and the payload is the parts behind each other. The counting pass
learns how long the payload is and touches nothing; the applying pass sends it in digits, with the checksum
behind it. A sink that fills up on the way keeps the front of what it is sent, and the writer does not
notice.
-/
import VoxelCube.Proofs.Message.Entries
import VoxelCube.Cube
import VoxelCube.Message.Writer

namespace VoxelCube

/-! ## Sinks that fill up -/

namespace Sink

theorem puts_bounded (capacity : Nat) (bytes : List UInt8) (kept : Array UInt8) :
    (bounded capacity).puts bytes kept = kept ++ (bytes.take (capacity - kept.size)).toArray := by
  induction bytes generalizing kept with
  | nil => simp [puts]
  | cons b rest ih =>
    have step : (bounded capacity).puts (b :: rest) kept =
        (bounded capacity).puts rest (bounded capacity b kept) := rfl
    rw [step, ih]
    unfold bounded
    by_cases room : kept.size < capacity
    · obtain ⟨left, more⟩ : ∃ left, capacity - kept.size = left + 1 := ⟨capacity - kept.size - 1, by omega⟩
      have behind : capacity - (kept.size + 1) = left := by omega
      rw [if_pos room, Array.size_push, more, behind, List.take_succ_cons]
      simp
    · have full : capacity - kept.size = 0 := by omega
      rw [if_neg room, full]
      simp

end Sink

/-! ## Layouts -/

/-- A part of a payload. -/
inductive Part where
  /-- A number of `width` bytes, the least significant byte first. -/
  | number (width n : Nat)
  | text (content : List UInt8)
  deriving DecidableEq, Repr

namespace Part

/-- The bytes are those of a part. -/
inductive Spells : Part → List UInt8 → Prop where
  | number {width : Nat} {bytes : List UInt8} (wide : bytes.length = width) :
    Spells (number width (Word.ofBytes bytes)) bytes
  | text (content : List UInt8) : Spells (text content) content

/-- A signed number of four bytes, in two's complement. -/
def signed (n : Int32) : Part := number 4 (n.toInt % Word.limit 4).toNat

/-- A string behind its count, cut to the longest that may be announced. -/
def counted (width longest : Nat) (content : List UInt8) : List Part :=
  [number width (min content.length longest), text (content.take longest)]

theorem Spells.unique {part : Part} {a b : List UInt8} (first : part.Spells a) (second : part.Spells b) :
    a = b := by
  cases first with
  | text => cases second with | text => rfl
  | @number width bytes wide =>
    generalize same : Word.ofBytes a = n at second
    cases second with
    | number wide' =>
      rw [← Word.toBytes_ofBytes a, ← Word.toBytes_ofBytes b, same, wide, wide']

theorem spells_toBytes {width n : Nat} (fits : n < Word.limit width) :
    (number width n).Spells (Word.toBytes width n) := by
  have spelled := Spells.number (Word.length_toBytes width n)
  rwa [Word.ofBytes_toBytes, Nat.mod_eq_of_lt fits] at spelled

theorem spells_signed (n : Int32) : (signed n).Spells (Word.toBytes 4 n.toUInt32.toNat) := by
  have complement : (n.toInt % Word.limit 4).toNat = n.toUInt32.toNat := by
    have signed : n.toInt = (n.toUInt32.toNat : Int).bmod (Word.limit 4) :=
      n.toUInt32.toBitVec.toInt_eq_toNat_bmod
    have small : n.toUInt32.toNat < Word.limit 4 := n.toUInt32.toNat_lt
    rw [signed, Int.bmod_emod, ← Int.natCast_emod, Int.toNat_natCast, Nat.mod_eq_of_lt small]
  rw [signed, complement]
  exact spells_toBytes n.toUInt32.toNat_lt

theorem spells_byte (n : UInt8) : (number 1 n.toNat).Spells [n] :=
  @Spells.number 1 [n] rfl

end Part

/-- The bytes are those of parts that stand behind each other. -/
inductive Laid : List Part → List UInt8 → Prop where
  | nil : Laid [] []
  | cons {part : Part} {parts : List Part} {bytes more : List UInt8} (first : part.Spells bytes)
    (rest : Laid parts more) : Laid (part :: parts) (bytes ++ more)

theorem Laid.append {parts others : List Part} {bytes more : List UInt8} (first : Laid parts bytes)
    (rest : Laid others more) : Laid (parts ++ others) (bytes ++ more) := by
  induction first with
  | nil => exact rest
  | cons spelled _ ih =>
    rw [List.cons_append, List.append_assoc]
    exact .cons spelled ih

theorem Laid.single {part : Part} {bytes : List UInt8} (h : part.Spells bytes) : Laid [part] bytes := by
  have laid := Laid.cons h .nil
  rwa [List.append_nil] at laid

theorem Laid.unique {parts : List Part} {a b : List UInt8} (first : Laid parts a)
    (second : Laid parts b) : a = b := by
  induction first generalizing b with
  | nil => cases second; rfl
  | cons spelled _ ih =>
    cases second with
    | cons spelled' rest' => rw [spelled.unique spelled', ih rest']

theorem laid_counted {width longest : Nat} (fits : longest < Word.limit width) (content : List UInt8) :
    Laid (Part.counted width longest content)
      (Word.toBytes width (content.take longest).length ++ content.take longest) := by
  have count : (content.take longest).length = min content.length longest := by
    rw [List.length_take, Nat.min_comm]
  have announces : min content.length longest < Word.limit width :=
    Nat.lt_of_le_of_lt (Nat.min_le_right _ _) fits
  rw [count]
  exact .cons (Part.spells_toBytes announces) (.single (.text _))

/-! ## Fields -/

namespace Value

/-- The parts of a value. A list of names is the text of a list in brackets behind its length; it is not
cut, and a length that has no two-byte number is announced as the largest. -/
def parts : Value → List Part
  | boolean b => [.number 1 (if b then 1 else 0)]
  | uint8 n | enum8 n => [.number 1 n.toNat]
  | int32 n => [.signed n]
  | utcTime seconds => [.number 4 seconds.toNat]
  | ieeeAddress address => [.number 8 address.toNat]
  | octetString bytes => Part.counted 1 DataType.maxOctets bytes
  | longOctetString bytes => Part.counted 2 DataType.maxLongOctets bytes
  | nameList names => [.number 2 (min (nameText names).length 0xFFFF), .text (nameText names)]
  | effectIds entries => Part.counted 1 DataType.maxOctets (entries.map (·.effect))

end Value

/-- The parts of a header. -/
def Header.parts (h : Header) : List Part :=
  [.number 1 h.channel.toNat, .number 8 h.address.toNat, .number 1 h.endpoint.toNat,
    .number 2 h.profile.toNat, .number 2 h.cluster.toNat, .number 1 h.flags.toNat,
    .number 1 h.transaction.toNat, .number 1 h.command.toNat]

/-- The parts of a field. -/
def Field.parts : Field → List Part
  | u8 n => [.number 1 n.toNat]
  | u16 n => [.number 2 n.toNat]
  | u32 n => [.number 4 n.toNat]
  | i32 n => [.signed n]
  | u64 n => [.number 8 n.toNat]
  | bytes content => [.text content]
  | short content => Part.counted 1 DataType.maxOctets content
  | long content => Part.counted 2 DataType.maxLongOctets content
  | value v => v.parts
  | header h => h.parts

theorem Value.laid_encode (v : Value) : Laid v.parts v.encode := by
  cases v with
  | boolean b =>
    cases b
    · exact .single (Part.spells_byte 0)
    · exact .single (Part.spells_byte 1)
  | uint8 n | enum8 n => exact .single (Part.spells_byte n)
  | int32 n => exact .single (Part.spells_signed n)
  | utcTime seconds => exact .single (Part.spells_toBytes seconds.toNat_lt)
  | ieeeAddress address => exact .single (Part.spells_toBytes address.toNat_lt)
  | octetString bytes => exact laid_counted (by decide) bytes
  | longOctetString bytes => exact laid_counted (by decide) bytes
  | effectIds entries => exact laid_counted (by decide) _
  | nameList names =>
    have announces : min (nameText names).length 0xFFFF < Word.limit 2 :=
      Nat.lt_succ_of_le (Nat.min_le_right _ _)
    rw [encode, ← length_nameText]
    exact .cons (Part.spells_toBytes announces) (.single (.text _))

theorem Header.laid_encode (h : Header) : Laid h.parts h.encode := by
  have pieces : h.encode = [h.channel] ++ (Word.toBytes 8 h.address.toNat ++ ([h.endpoint] ++
      (Word.toBytes 2 h.profile.toNat ++ (Word.toBytes 2 h.cluster.toNat ++ ([h.flags] ++
        ([h.transaction] ++ ([h.command] ++ []))))))) := by
    simp [encode]
  rw [pieces]
  exact .cons (Part.spells_byte h.channel) <| .cons (Part.spells_toBytes h.address.toNat_lt) <|
    .cons (Part.spells_byte h.endpoint) <| .cons (Part.spells_toBytes h.profile.toNat_lt) <|
    .cons (Part.spells_toBytes h.cluster.toNat_lt) <| .cons (Part.spells_byte h.flags) <|
    .cons (Part.spells_byte h.transaction) <| .cons (Part.spells_byte h.command) .nil

theorem Field.laid_encode (field : Field) : Laid field.parts field.encode := by
  cases field with
  | u8 n => exact .single (Part.spells_byte n)
  | u16 n => exact .single (Part.spells_toBytes n.toNat_lt)
  | u32 n => exact .single (Part.spells_toBytes n.toNat_lt)
  | i32 n => exact .single (Part.spells_signed n)
  | u64 n => exact .single (Part.spells_toBytes n.toNat_lt)
  | bytes content => exact .single (.text content)
  | short content => exact laid_counted (by decide) content
  | long content => exact laid_counted (by decide) content
  | value v => exact v.laid_encode
  | header h => exact h.laid_encode

/-- The payload of a run of fields. -/
theorem laid_fields (fields : List Field) :
    Laid (fields.flatMap Field.parts) (fields.flatMap Field.encode) := by
  induction fields with
  | nil => exact .nil
  | cons field rest ih => exact field.laid_encode.append ih

/-! ## Runs of a writer -/

namespace Writer

/-- What a writer sends in front of a payload: the opening of a frame of a length, if one is given. -/
def front : (opening : Option UInt16) → List UInt8
  | none => []
  | some length => ['S'.toUInt8, '0'.toUInt8] ++ Hex.encode (Word.toBytes 2 length.toNat)

/-- All that is sent of a payload by its end. -/
def sent (variant : Crc.Variant) (opening : Option UInt16) (payload : List UInt8) : List UInt8 :=
  front opening ++ Hex.encode payload ++
    Hex.encode (Word.toBytes 2 (Crc.checksum variant payload).toNat)

variable {ω : Type} (sink : Sink ω)

/-- Opens a frame, if a length is given for it. -/
def opens (opening : Option UInt16) (s : Writer × ω) : Writer × ω :=
  match opening with
  | none => s
  | some length => begin sink length s

/-- A pass over fields from its start, behind an opening or not. -/
def run (pass : Pass) (variant : Crc.Variant) (opening : Option UInt16) (fields : List Field) (w : ω) :
    Writer × ω :=
  fields.foldl (fun s field => write sink field s) (opens sink opening (new pass variant, w))

theorem foldl_write (fields : List Field) (s : Writer × ω) :
    fields.foldl (fun s field => write sink field s) s = pushes sink (fields.flatMap Field.encode) s := by
  induction fields generalizing s with
  | nil => rfl
  | cons field rest ih =>
    rw [List.foldl_cons, ih, List.flatMap_cons, pushes, pushes, List.foldl_append]
    rfl

variable (variant : Crc.Variant) (opening : Option UInt16) (fields : List Field) (w : ω)

theorem run_count : run sink .count variant opening fields w =
    ({ new .count variant with length := (fields.flatMap Field.encode).length }, w) := by
  have opened : opens sink opening (new .count variant, w) = (new .count variant, w) := by
    cases opening <;> rfl
  rw [run, opened, foldl_write, pushes_count sink _ _ _ rfl]
  simp [new]

theorem run_apply : run sink .apply variant opening fields w =
    ({ new .apply variant with
        length := (fields.flatMap Field.encode).length
        crc := Crc.update { variant } (fields.flatMap Field.encode) },
      sink.puts (front opening ++ Hex.encode (fields.flatMap Field.encode)) w) := by
  have opened : opens sink opening (new .apply variant, w) =
      (new .apply variant, sink.puts (front opening) w) := by
    cases opening <;> rfl
  rw [run, opened, foldl_write, pushes_apply sink _ _ _ rfl, Sink.puts_append]
  simp [new]

/-- Whatever the sink, all that the applying pass sends goes there, and the length and the checksum that it
goes by are those of the payload. -/
theorem finish_apply : finish sink (run sink .apply variant opening fields w) =
    ((fields.flatMap Field.encode).length,
      sink.puts (sent variant opening (fields.flatMap Field.encode)) w) := by
  have checksum : (Crc.update { variant } (fields.flatMap Field.encode)).value =
      Crc.checksum variant (fields.flatMap Field.encode) := Crc.value_update _ _
  rw [run_apply, sent, Sink.puts_append sink (front opening ++ _), ← checksum]
  rfl

/-- **Exact writer.** A run of fields has one payload, in which its parts stand behind each other. After
the fields, and so after each of them, both passes have counted its length, whatever the sink makes of what
it is sent, and the applying pass has its checksum. The counting pass leaves the world as it is. At the end
an unbounded sink has the digits of the payload and of its checksum, behind an opening if there was one,
and a sink that holds fewer bytes has the first of them. -/
theorem writes_payload : ∃ payload,
    (∀ bytes, Laid (fields.flatMap Field.parts) bytes ↔ bytes = payload) ∧
    (∀ {ω : Type} (sink : Sink ω) (w : ω),
      let counted := run sink .count variant opening fields w
      let applied := run sink .apply variant opening fields w
      counted.1.length = payload.length ∧ applied.1.length = payload.length ∧
        applied.1.crc.value = Crc.checksum variant payload ∧
        counted.2 = w ∧ finish sink counted = (payload.length, w)) ∧
    finish Sink.unbounded (run Sink.unbounded .apply variant opening fields #[]) =
      (payload.length, (sent variant opening payload).toArray) ∧
    ∀ capacity,
      finish (Sink.bounded capacity) (run (Sink.bounded capacity) .apply variant opening fields #[]) =
        (payload.length, ((sent variant opening payload).take capacity).toArray) := by
  refine ⟨fields.flatMap Field.encode, fun bytes => ?_, fun sink w => ?_, ?_, fun capacity => ?_⟩
  · constructor
    · intro laid
      exact laid.unique (laid_fields fields)
    · rintro rfl
      exact laid_fields fields
  · dsimp only
    rw [run_count, run_apply]
    exact ⟨rfl, rfl, Crc.value_update _ _, rfl, rfl⟩
  · rw [finish_apply, Sink.puts_unbounded, Array.empty_append]
  · rw [finish_apply, Sink.puts_bounded, Array.empty_append]
    rfl

end Writer

end VoxelCube
