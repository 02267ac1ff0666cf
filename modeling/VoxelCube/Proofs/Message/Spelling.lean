/-
The bytes of a write. A value of each type has its spelling, and a record is spelled by its number,
its tag and the spelling of its value. No spelling begins another one, so one run of records stands at
the front of a body and is followed by no further one; it is the run that `writeRecords` reads.
-/
import VoxelCube.Message.Request

namespace VoxelCube

/-! ## Reading from the front -/

namespace Cursor

theorem take?_append (bytes rest : List UInt8) (position : Nat) :
    Cursor.take? { rest := bytes ++ rest, position } bytes.length =
      some (bytes, { rest, position := position + bytes.length }) := by
  simp [take?_eq]

theorem rest_of_take? {c d : Cursor} {n : Nat} {bytes : List UInt8}
    (h : c.take? n = some (bytes, d)) : c.rest = bytes ++ d.rest ∧ bytes.length = n := by
  rw [take?_eq] at h
  split at h
  · rename_i enough
    cases h
    exact ⟨(List.take_append_drop n c.rest).symm, List.length_take_of_le enough⟩
  · cases h

theorem rest_of_number? {α : Type} {c d : Cursor} {width : Nat} {ofNat : Nat → α} {a : α}
    (h : c.number? width ofNat = some (a, d)) :
    ∃ n < Word.limit width, c.rest = Word.toBytes width n ++ d.rest ∧ a = ofNat n := by
  obtain ⟨⟨bytes, e⟩, taken, eq⟩ := Option.map_eq_some_iff.1 h
  obtain ⟨front, width⟩ := rest_of_take? taken
  cases eq
  refine ⟨Word.ofBytes bytes, ?_, ?_, rfl⟩
  · rw [← width]
    exact Word.ofBytes_lt bytes
  · rw [← width, Word.toBytes_ofBytes]
    exact front

end Cursor

namespace Value

theorem ofNumber_append (width : Nat) {n : Nat} (fits : n < Word.limit width) (make : Nat → Value)
    (rest : List UInt8) (position : Nat) :
    ofNumber { rest := Word.toBytes width n ++ rest, position } width make =
      .ok (make n, { rest, position := position + width }) := by
  unfold ofNumber
  rw [Cursor.number?_toBytes, Nat.mod_eq_of_lt fits]

theorem rest_of_ofNumber {c d : Cursor} {width : Nat} {make : Nat → Value} {v : Value}
    (h : ofNumber c width make = .ok (v, d)) :
    ∃ n < Word.limit width, c.rest = Word.toBytes width n ++ d.rest ∧ v = make n := by
  unfold ofNumber at h
  split at h
  · rename_i read
    cases h
    exact Cursor.rest_of_number? read
  · cases h

theorem ofString_append (width : Nat) (size : Nat → Nat) {count : Nat} {text : List UInt8}
    (fits : count < Word.limit width) (length : text.length = size count)
    (make : List UInt8 → Value) (rest : List UInt8) (position : Nat) :
    ofString { rest := Word.toBytes width count ++ text ++ rest, position } width size make =
      .ok (make text, { rest, position := position + width + text.length }) := by
  unfold ofString
  rw [List.append_assoc, Cursor.number?_toBytes, Nat.mod_eq_of_lt fits, ← length]
  dsimp only
  rw [Cursor.take?_append]

theorem rest_of_ofString {c d : Cursor} {width : Nat} {size : Nat → Nat} {make : List UInt8 → Value}
    {v : Value} (h : ofString c width size make = .ok (v, d)) :
    ∃ count < Word.limit width, ∃ text : List UInt8, text.length = size count ∧
      c.rest = Word.toBytes width count ++ text ++ d.rest ∧ v = make text := by
  unfold ofString at h
  split at h
  · cases h
  · rename_i counted
    obtain ⟨count, fits, front, rfl⟩ := Cursor.rest_of_number? counted
    split at h
    · rename_i taken
      cases h
      obtain ⟨text, length⟩ := Cursor.rest_of_take? taken
      exact ⟨count, fits, _, length, by rw [front, text, List.append_assoc], rfl⟩
    · cases h

/-! ## Values -/

/-- The bytes are a complete value of a type. A string is counted; a count of all ones marks an
invalid one, which has no bytes. -/
inductive Spells : DataType → List UInt8 → Value → Prop where
  | boolean (b : UInt8) : Spells .boolean [b] (.boolean (b != 0))
  | uint8 (n : UInt8) : Spells .uint8 [n] (.uint8 n)
  | enum8 (n : UInt8) : Spells .enum8 [n] (.enum8 n)
  | int32 (n : Int32) : Spells .int32 (Word.toBytes 4 n.toUInt32.toNat) (.int32 n)
  | utcTime (seconds : UInt32) : Spells .utcTime (Word.toBytes 4 seconds.toNat) (.utcTime seconds)
  | ieeeAddress (address : UInt64) :
    Spells .ieeeAddress (Word.toBytes 8 address.toNat) (.ieeeAddress address)
  | octetString {text : List UInt8} (fits : text.length ≤ DataType.maxOctets) :
    Spells .octetString (Word.toBytes 1 text.length ++ text) (.octetString text)
  | invalidOctetString : Spells .octetString [0xFF] (.octetString [])
  | longOctetString {text : List UInt8} (fits : text.length ≤ DataType.maxLongOctets) :
    Spells .longOctetString (Word.toBytes 2 text.length ++ text) (.longOctetString text)
  | invalidLongOctetString : Spells .longOctetString [0xFF, 0xFF] (.longOctetString [])

variable {type : DataType} {bytes : List UInt8} {v : Value}

theorem Spells.type_eq (h : Spells type bytes v) : v.type = type := by
  cases h <;> rfl

/-- What is spelled at the front is read, whatever follows. -/
theorem Spells.decode (h : Spells type bytes v) (rest : List UInt8) (position : Nat) :
    ∃ d, Value.decode type { rest := bytes ++ rest, position } = .ok (v, d) ∧ d.rest = rest := by
  cases h with
  | boolean b =>
    have read := ofNumber_append 1 b.toNat_lt (fun n => .boolean (UInt8.ofNat n != 0)) rest position
    simp only [Word.toBytes, UInt8.ofNat_toNat] at read
    exact ⟨_, read, rfl⟩
  | uint8 n =>
    have read := ofNumber_append 1 n.toNat_lt (fun n => .uint8 (UInt8.ofNat n)) rest position
    simp only [Word.toBytes, UInt8.ofNat_toNat] at read
    exact ⟨_, read, rfl⟩
  | enum8 n =>
    have read := ofNumber_append 1 n.toNat_lt (fun n => .enum8 (UInt8.ofNat n)) rest position
    simp only [Word.toBytes, UInt8.ofNat_toNat] at read
    exact ⟨_, read, rfl⟩
  | int32 n =>
    have read := ofNumber_append 4 n.toUInt32.toNat_lt (fun n => .int32 (UInt32.ofNat n).toInt32) rest
      position
    rw [UInt32.ofNat_toNat] at read
    exact ⟨_, read, rfl⟩
  | utcTime seconds =>
    have read := ofNumber_append 4 seconds.toNat_lt (fun n => .utcTime (UInt32.ofNat n)) rest position
    rw [UInt32.ofNat_toNat] at read
    exact ⟨_, read, rfl⟩
  | ieeeAddress address =>
    have read := ofNumber_append 8 address.toNat_lt (fun n => .ieeeAddress (UInt64.ofNat n)) rest
      position
    rw [UInt64.ofNat_toNat] at read
    exact ⟨_, read, rfl⟩
  | @octetString text fits =>
    have count : text.length < 255 := Nat.lt_succ_of_le fits
    exact ⟨_, ofString_append 1 DataType.shortSize (Nat.lt_succ_of_lt count)
      (if_neg (Nat.ne_of_lt count)).symm .octetString rest position, rfl⟩
  | invalidOctetString =>
    have read := ofString_append 1 DataType.shortSize (show 255 < Word.limit 1 by decide)
      (show [].length = DataType.shortSize 255 by decide) .octetString rest position
    exact ⟨_, read, rfl⟩
  | @longOctetString text fits =>
    have count : text.length < 65535 := Nat.lt_succ_of_le fits
    exact ⟨_, ofString_append 2 DataType.longSize (Nat.lt_succ_of_lt count)
      (if_neg (Nat.ne_of_lt count)).symm .longOctetString rest position, rfl⟩
  | invalidLongOctetString =>
    have read := ofString_append 2 DataType.longSize (show 65535 < Word.limit 2 by decide)
      (show [].length = DataType.longSize 65535 by decide) .longOctetString rest position
    exact ⟨_, read, rfl⟩

/-- What is read was spelled at the front. -/
theorem spells_of_decode {c d : Cursor} (h : Value.decode type c = .ok (v, d)) :
    ∃ bytes, Spells type bytes v ∧ c.rest = bytes ++ d.rest := by
  cases type with
  | boolean =>
    obtain ⟨n, -, front, rfl⟩ := rest_of_ofNumber h
    exact ⟨_, .boolean (UInt8.ofNat n), front⟩
  | uint8 =>
    obtain ⟨n, -, front, rfl⟩ := rest_of_ofNumber h
    exact ⟨_, .uint8 (UInt8.ofNat n), front⟩
  | enum8 =>
    obtain ⟨n, -, front, rfl⟩ := rest_of_ofNumber h
    exact ⟨_, .enum8 (UInt8.ofNat n), front⟩
  | int32 =>
    obtain ⟨n, fits, front, rfl⟩ := rest_of_ofNumber h
    refine ⟨_, .int32 (UInt32.ofNat n).toInt32, ?_⟩
    rw [front, UInt32.toUInt32_toInt32, UInt32.toNat_ofNat_of_lt' fits]
  | utcTime =>
    obtain ⟨n, fits, front, rfl⟩ := rest_of_ofNumber h
    refine ⟨_, .utcTime (UInt32.ofNat n), ?_⟩
    rw [front, UInt32.toNat_ofNat_of_lt' fits]
  | ieeeAddress =>
    obtain ⟨n, fits, front, rfl⟩ := rest_of_ofNumber h
    refine ⟨_, .ieeeAddress (UInt64.ofNat n), ?_⟩
    rw [front, UInt64.toNat_ofNat_of_lt' fits]
  | octetString =>
    obtain ⟨count, fits, text, length, front, rfl⟩ := rest_of_ofString h
    -- a count of all ones has no text; any other one is its length
    by_cases marked : count = 0xFF
    · rw [DataType.shortSize, if_pos marked] at length
      rw [marked, List.eq_nil_of_length_eq_zero length] at front
      rw [List.eq_nil_of_length_eq_zero length]
      exact ⟨_, .invalidOctetString, front⟩
    · rw [DataType.shortSize, if_neg marked] at length
      have below : count < 256 := fits
      refine ⟨_, .octetString (by rw [length]; show count ≤ 254; omega), ?_⟩
      rw [front, length]
  | longOctetString =>
    obtain ⟨count, fits, text, length, front, rfl⟩ := rest_of_ofString h
    by_cases marked : count = 0xFFFF
    · rw [DataType.longSize, if_pos marked] at length
      rw [marked, List.eq_nil_of_length_eq_zero length] at front
      rw [List.eq_nil_of_length_eq_zero length]
      exact ⟨_, .invalidLongOctetString, front⟩
    · rw [DataType.longSize, if_neg marked] at length
      have below : count < 65536 := fits
      refine ⟨_, .longOctetString (by rw [length]; show count ≤ 65534; omega), ?_⟩
      rw [front, length]

/-- A spelling is told from what follows it. -/
theorem Spells.unique {other rest last : List UInt8} {w : Value} (h : Spells type bytes v)
    (h' : Spells type other w) (same : bytes ++ rest = other ++ last) : v = w ∧ rest = last := by
  obtain ⟨d, read, left⟩ := h.decode rest 0
  obtain ⟨e, read', left'⟩ := h'.decode last 0
  rw [same, read'] at read
  cases read
  exact ⟨rfl, left.symm.trans left'⟩

/-- A value that is not wanted is stepped over as far as it would be read. -/
theorem skip_eq_decode (type : DataType) (c : Cursor) :
    type.skip c = (Value.decode type c).map Prod.snd := by
  have number : ∀ (width : Nat) (make : Nat → Value),
      DataType.skipBytes width c = (ofNumber c width make).map Prod.snd := by
    intro width make
    unfold DataType.skipBytes ofNumber Cursor.number?
    cases c.take? width <;> rfl
  have string : ∀ (width : Nat) (size : Nat → Nat) (make : List UInt8 → Value),
      DataType.skipString width size c = (ofString c width size make).map Prod.snd := by
    intro width size make
    unfold DataType.skipString ofString DataType.skipBytes
    cases c.number? width size with
    | none => rfl
    | some counted =>
      dsimp only
      cases counted.2.take? counted.1 <;> rfl
  cases type with
  | boolean | uint8 | int32 | enum8 | utcTime | ieeeAddress => exact number _ _
  | octetString | longOctetString => exact string _ _ _

end Value

/-! ## Records -/

theorem DataType.tag_of_ofTag? {tag : UInt8} {type : DataType} (h : ofTag? tag = some type) :
    type.tag = tag := by
  unfold ofTag? at h
  split at h <;> cases h <;> rfl

theorem Word.ofBytes_id (id : UInt16) : UInt16.ofNat (ofBytes (toBytes 2 id.toNat)) = id := by
  have fits : id.toNat < limit 2 := id.toNat_lt
  rw [ofBytes_toBytes, Nat.mod_eq_of_lt fits, UInt16.ofNat_toNat]

/-- The bytes are a complete record. -/
inductive WriteRecord.Spells : List UInt8 → WriteRecord → Prop where
  | record (id : UInt16) {type : DataType} {bytes : List UInt8} {value : Value}
    (h : value.Spells type bytes) :
    Spells (Word.toBytes 2 id.toNat ++ type.tag :: bytes) { id, value }

theorem WriteRecord.Spells.length_pos {bytes : List UInt8} {record : WriteRecord}
    (h : record.Spells bytes) : 0 < bytes.length := by
  cases h
  rw [List.length_append, Word.length_toBytes]
  omega

theorem WriteRecord.Spells.unique {bytes other rest last : List UInt8} {record record' : WriteRecord}
    (h : record.Spells bytes) (h' : record'.Spells other) (same : bytes ++ rest = other ++ last) :
    record = record' ∧ rest = last := by
  cases h with | @record id type _ _ value => ?_
  cases h' with | @record id' type' _ _ value' => ?_
  rw [List.append_assoc, List.append_assoc] at same
  obtain ⟨number, tagged⟩ := List.append_inj same (by simp)
  have ids : id = id' := by
    rw [← Word.ofBytes_id id, number, Word.ofBytes_id]
  obtain ⟨tag, values⟩ := List.cons.inj tagged
  have types : type = type' := by
    have known := congrArg DataType.ofTag? tag
    rw [DataType.ofTag?_tag, DataType.ofTag?_tag] at known
    exact Option.some.inj known
  subst types
  obtain ⟨rfl, left⟩ := value.unique value' values
  exact ⟨by rw [ids], left⟩

/-- The records are those that stand complete at the front of a body, one after the other, and the
rest, which begins with no further one, follows them. -/
inductive Leading : List UInt8 → List WriteRecord → List UInt8 → Prop where
  | stop {rest : List UInt8}
    (last : ∀ bytes others (record : WriteRecord), record.Spells bytes → rest ≠ bytes ++ others) :
    Leading rest [] rest
  | next {bytes others rest : List UInt8} {record : WriteRecord} {records : List WriteRecord}
    (first : record.Spells bytes) (more : Leading others records rest) :
    Leading (bytes ++ others) (record :: records) rest

namespace Leading

variable {body rest : List UInt8} {records : List WriteRecord}

theorem total (body : List UInt8) : ∃ records rest, Leading body records rest := by
  -- by induction on the length, as a record is never empty
  induction length : body.length using Nat.strongRecOn generalizing body with | _ n ih => ?_
  by_cases begins : ∃ bytes others, ∃ record : WriteRecord, record.Spells bytes ∧ body = bytes ++ others
  · obtain ⟨bytes, others, record, first, rfl⟩ := begins
    have shorter : others.length < n := by
      have := first.length_pos
      rw [List.length_append] at length
      omega
    obtain ⟨records, rest, more⟩ := ih _ shorter others rfl
    exact ⟨record :: records, rest, .next first more⟩
  · exact ⟨[], body, .stop fun bytes others record first same =>
      begins ⟨bytes, others, record, first, same⟩⟩

theorem unique {records' : List WriteRecord} {rest' : List UInt8} (h : Leading body records rest)
    (h' : Leading body records' rest') : records' = records ∧ rest' = rest := by
  induction h generalizing records' with
  | stop last =>
    cases h' with
    | stop _ => exact ⟨rfl, rfl⟩
    | next first _ => exact absurd rfl (last _ _ _ first)
  | @next bytes others rest record records first more ih =>
    -- both runs cut off the same first record, since no spelling begins another
    generalize same : bytes ++ others = body at h'
    cases h' with
    | stop last => exact absurd same.symm (last _ _ _ first)
    | next first' more' =>
      obtain ⟨rfl, rfl⟩ := first.unique first' same
      obtain ⟨rfl, rfl⟩ := ih more'
      exact ⟨rfl, rfl⟩

end Leading

/-! ## Reading a body -/

/-- How a body ends, by what follows its last complete record. -/
def WriteEnding.ofRest : List UInt8 → WriteEnding
  | [] => .complete
  | low :: high :: tag :: _ =>
    let id := UInt16.ofNat (Word.ofBytes [low, high])
    match DataType.ofTag? tag with
    | none => .unknownType id
    | some type => .cutValue id type
  | _ => .ragged

theorem writeRecords_append {bytes : List UInt8} {record : WriteRecord} (h : record.Spells bytes)
    (others : List UInt8) :
    writeRecords (bytes ++ others) = (record :: (writeRecords others).1, (writeRecords others).2) := by
  cases h with | @record id type bytes value h => ?_
  obtain ⟨d, read, rfl⟩ := h.decode others 0
  have number := Word.ofBytes_id id
  -- `writeRecords` looks at the two bytes of the number and at the tag
  rw [List.append_assoc, Word.toBytes, Word.toBytes, Word.toBytes]
  rw [Word.toBytes, Word.toBytes, Word.toBytes] at number
  dsimp only [List.cons_append, List.nil_append]
  rw [writeRecords]
  dsimp only
  rw [number]
  split
  · rename_i unknown
    rw [DataType.ofTag?_tag] at unknown
    cases unknown
  · rename_i known
    rw [DataType.ofTag?_tag] at known
    cases known
    split
    · rename_i failed
      rw [read] at failed
      cases failed
    · rename_i again
      rw [read] at again
      cases again
      rfl

theorem Leading.stop_of_writeRecords {rest : List UInt8} (none : (writeRecords rest).1 = []) :
    Leading rest [] rest := by
  refine .stop fun bytes others record first same => ?_
  rw [same, writeRecords_append first] at none
  cases none

/-- A body is read as the records that stand at its front, and ends as the rest does. -/
theorem Leading.writeRecords_eq {body rest : List UInt8} {records : List WriteRecord}
    (h : Leading body records rest) : writeRecords body = (records, .ofRest rest) := by
  induction h with
  | next first _ ih => rw [writeRecords_append first, ih]
  | @stop rest last =>
    rcases rest with _ | ⟨low, _ | ⟨high, _ | ⟨tag, others⟩⟩⟩ <;> rw [writeRecords.eq_def]
    · rfl
    · rfl
    · rfl
    dsimp only [WriteEnding.ofRest]
    cases known : DataType.ofTag? tag with
    | none => rfl
    | some type =>
      dsimp only
      split
      · rfl
      · -- a value that can be read would make one more record
        rename_i value d read
        obtain ⟨bytes, spelled, front⟩ := Value.spells_of_decode read
        refine absurd ?_ (last _ d.rest _ (.record (UInt16.ofNat (Word.ofBytes [low, high])) spelled))
        have fits : Word.ofBytes [low, high] < 2 ^ 16 := Word.ofBytes_lt [low, high]
        have number : Word.toBytes 2 (Word.ofBytes [low, high]) = [low, high] :=
          Word.toBytes_ofBytes [low, high]
        rw [UInt16.toNat_ofNat_of_lt' fits, number, DataType.tag_of_ofTag? known]
        exact congrArg (low :: high :: tag :: ·) front

end VoxelCube
