/-
What a write does. Each record at the front of the body has a verdict that depends on its number, its
tag, its value and the tables of the cube. The accepted ones are carried out in their order, as if the
refused ones were not there; the reply names the refused ones, and what it says of the rest depends on
the rest alone.
-/
import VoxelCube.Proofs.Message.Spelling
import VoxelCube.Proofs.Reply.Passes

namespace VoxelCube

open Link

/-! ## Verdicts -/

theorem Mode.ofCode?_eq_none_iff {code : UInt8} : Mode.ofCode? code = none ↔ 3 < code := by
  unfold Mode.ofCode?
  split
  · decide
  · decide
  · decide
  · decide
  · rename_i sleep idle playlist effect
    have apart : ∀ n : UInt8, (code = n → False) → code.toNat ≠ n.toNat :=
      fun n differs same => differs (UInt8.toNat_inj.mp same)
    have := apart 0 sleep
    have := apart 1 idle
    have := apart 2 playlist
    have := apart 3 effect
    refine iff_of_true rfl (UInt8.lt_iff_toNat_lt.mpr ?_)
    simp only [UInt8.reduceToNat] at *
    omega

theorem Attribute.find?_of_writable? {cluster id : UInt16} {type : DataType} {a : Attribute}
    (h : writable? cluster id type = .ok a) : find? cluster id = some a := by
  unfold writable? at h
  split at h
  · cases h
  · rename_i found
    split at h
    · split at h
      · cases h
        exact found
      · cases h
    · cases h

namespace Cube

variable {ω : Type} (c : Cube ω)

/-- A value of its attribute's type that the attribute does not take. -/
def isOutOfRange : Attribute → Value → Bool
  | .operatingMode, .enum8 code => 3 < code
  | .playlist, .uint8 playlist => c.playlists.count ≤ playlist.toNat
  | .effect, .uint8 effect => c.effects.length ≤ effect.toNat
  | _, _ => false

/-- Why a record is refused; `none` when it is accepted. -/
def verdict (cluster : UInt16) (record : WriteRecord) : Option Status :=
  match Attribute.find? cluster record.id with
  | none => some .unsupportedAttribute
  | some a =>
    if !a.row.access.isWritable then some .readOnly
    else if record.value.type ≠ a.row.type then some .invalidDataType
    else if c.isOutOfRange a record.value then some .invalidValue
    else none

/-- The verdict that a judgement gives. -/
def refusal : Except Status Change → Option Status
  | .ok _ => none
  | .error status => some status

/-- A spelled value of the attribute's own type is refused only when it is out of range. -/
theorem refusal_change? {a : Attribute} {bytes : List UInt8} {value : Value}
    (spelled : value.Spells a.row.type bytes) (writable : a.row.access.isWritable) :
    refusal (c.change? a a.row.access value) =
      if c.isOutOfRange a value then some .invalidValue else none := by
  have bound : ∀ (n count : Nat) (change : Change),
      refusal (if n < count then .ok change else .error .invalidValue) =
        if decide (count ≤ n) then some .invalidValue else none := by
    intro n count change
    by_cases below : n < count
    · rw [if_pos below, if_neg (by simpa using below)]
      rfl
    · rw [if_neg below, if_pos (by simpa using below)]
      rfl
  unfold change?
  rw [if_pos writable]
  -- the type of the row leaves each value one spelling; rows that cannot be written are out
  cases a with
  | deviceEnabled => cases spelled; rfl
  | alarmMask => cases spelled; rfl
  | operatingMode =>
    cases spelled with
    | enum8 code =>
      have range : c.isOutOfRange .operatingMode (.enum8 code) = decide (3 < code) := rfl
      rw [range]
      dsimp only
      by_cases outside : 3 < code
      · rw [Mode.ofCode?_eq_none_iff.mpr outside, decide_eq_true outside]
        rfl
      · rw [decide_eq_false outside]
        cases known : Mode.ofCode? code with
        | none => exact absurd (Mode.ofCode?_eq_none_iff.mp known) outside
        | some mode => rfl
  | effectText => cases spelled <;> rfl
  | playlist => cases spelled with | uint8 n => exact bound _ _ _
  | effect => cases spelled with | uint8 n => exact bound _ _ _
  | timezone => cases spelled; rfl
  | time => cases spelled; rfl
  | deviceAddress => cases spelled; rfl
  | effectNames => cases writable
  | playlistNames => cases writable
  | playlistEffects => cases writable
  | hardwareVersion => cases writable
  | softwareVersion => cases writable
  | playlistPosition => cases writable

/-- A record is judged by its verdict. -/
theorem refusal_judge {bytes : List UInt8} {record : WriteRecord} (spelled : record.Spells bytes)
    (cluster : UInt16) : refusal (c.judge cluster record) = c.verdict cluster record := by
  cases spelled with | @record id type bytes value spelled => ?_
  unfold judge verdict Attribute.writable?
  dsimp only
  cases Attribute.find? cluster id with
  | none => rfl
  | some a =>
    dsimp only
    by_cases writable : a.row.access.isWritable
    · rw [if_pos writable, writable]
      by_cases same : a.row.type = type
      · rw [← same] at spelled
        rw [spelled.type_eq, if_pos rfl]
        simpa using c.refusal_change? spelled writable
      · rw [spelled.type_eq, if_neg same]
        simp [refusal, Ne.symm same]
    · simp [writable, refusal]

/-! ## Carrying records out -/

/-- Writes the attribute of a record; nothing happens when there is none or it refuses the value. -/
def obey (cluster : UInt16) (s : Machine ω) (record : WriteRecord) : Machine ω :=
  match Attribute.find? cluster record.id with
  | none => s
  | some a =>
    match c.writeAttribute a a.row.access record.value .apply s with
    | .ok t => t
    | .error _ => s

theorem obey_of_judge {cluster : UInt16} {record : WriteRecord} {change : Change}
    (judged : c.judge cluster record = .ok change) (s : Machine ω) :
    c.obey cluster s record = c.carryOut change s := by
  unfold judge at judged
  split at judged
  · rename_i a writable
    unfold obey writeAttribute
    rw [Attribute.find?_of_writable? writable]
    dsimp only
    rw [judged]
  · cases judged

/-- The records that are accepted. -/
def accepted (cluster : UInt16) (records : List WriteRecord) : List WriteRecord :=
  records.filter fun record => (c.verdict cluster record).isNone

/-- The numbers of the records that are refused, each with its verdict. -/
def refused (cluster : UInt16) (records : List WriteRecord) : List (UInt16 × Status) :=
  records.filterMap fun record => (c.verdict cluster record).map (record.id, ·)

end Cube

/-- What a reply says of the rest of a body: why the record that it breaks off in is refused, if its
number and its tag are enough to tell. -/
def restRefused (cluster : UInt16) : List UInt8 → List (UInt16 × Status)
  | low :: high :: tag :: _ =>
    let id := UInt16.ofNat (Word.ofBytes [low, high])
    match DataType.ofTag? tag with
    | none => [(id, .invalidDataType)]
    | some type =>
      match Attribute.find? cluster id with
      | none => [(id, .unsupportedAttribute)]
      | some a =>
        if !a.row.access.isWritable then [(id, .readOnly)]
        else if type ≠ a.row.type then [(id, .invalidDataType)]
        else []
  | _ => []

/-- The bytes of numbers with their statuses. -/
def statusBytes (refused : List (UInt16 × Status)) : List UInt8 :=
  refused.flatMap fun (id, status) => Word.toBytes 2 id.toNat ++ [status.code]

theorem statusBytes_append (a b : List (UInt16 × Status)) :
    statusBytes (a ++ b) = statusBytes a ++ statusBytes b := by
  unfold statusBytes
  exact List.flatMap_append

/-! ## The applying pass -/

namespace Cube

variable {ω : Type} (c : Cube ω) (sink : Sink ω) (variant : Crc.Variant) (opening : List UInt8)

theorem writeStatus_sending (s : Machine ω) (payload : List UInt8) (id : UInt16) (status : Status) :
    (Exchange.sending sink variant opening s payload).writeStatus sink id status =
      .sending sink variant opening s (payload ++ statusBytes [(id, status)]) := by
  unfold Exchange.writeStatus
  rw [Exchange.sending_write, Exchange.sending_write, List.append_assoc]
  simp [statusBytes, Field.encode]

theorem answerEnding_sending (cluster : UInt16) (rest : List UInt8) (s : Machine ω)
    (payload : List UInt8) :
    answerEnding sink cluster (.ofRest rest) (.sending sink variant opening s payload) =
      (.sending sink variant opening s (payload ++ statusBytes (restRefused cluster rest)),
        rest.isEmpty) := by
  have silent : payload = payload ++ statusBytes [] := (List.append_nil payload).symm
  rcases rest with _ | ⟨low, _ | ⟨high, _ | ⟨tag, others⟩⟩⟩
  · exact congrArg (fun p => (Exchange.sending sink variant opening s p, true)) silent
  · exact congrArg (fun p => (Exchange.sending sink variant opening s p, false)) silent
  · exact congrArg (fun p => (Exchange.sending sink variant opening s p, false)) silent
  · unfold WriteEnding.ofRest restRefused
    dsimp only
    cases DataType.ofTag? tag with
    | none => exact congrArg (·, false) (writeStatus_sending ..)
    | some type =>
      dsimp only [answerEnding, Attribute.writable?]
      cases Attribute.find? cluster (UInt16.ofNat (Word.ofBytes [low, high])) with
      | none => exact congrArg (·, false) (writeStatus_sending ..)
      | some a =>
        dsimp only
        by_cases writable : a.row.access.isWritable
        · rw [if_pos writable, writable]
          by_cases same : a.row.type = type
          · rw [if_pos same, same]
            simp [statusBytes]
          · rw [if_neg same]
            simpa [Ne.symm same] using congrArg (·, false) (writeStatus_sending ..)
        · rw [if_neg writable]
          simpa [writable] using congrArg (·, false) (writeStatus_sending ..)

variable {sink} (apart : ∀ byte, c.board.Apart (sink byte))
include apart

theorem answerWrite_sending {bytes : List UInt8} {record : WriteRecord}
    (spelled : record.Spells bytes) (cluster : UInt16) (s : Machine ω) (payload : List UInt8) :
    c.answerWrite sink cluster (.sending sink variant opening s payload) record =
      match c.verdict cluster record with
      | none => (.sending sink variant opening (c.obey cluster s record) payload, true)
      | some status =>
        (.sending sink variant opening s (payload ++ statusBytes [(record.id, status)]), false) := by
  rw [← c.refusal_judge spelled]
  unfold answerWrite
  cases judged : c.judge cluster record with
  | ok change =>
    -- what was sent so far may as well be sent after the change
    have late := (Board.Apart.puts apart (opening ++ Hex.encode payload)).carryOut s change
    dsimp only [refusal]
    rw [c.obey_of_judge judged]
    unfold Exchange.sending Machine.send
    rw [← late]
  | error status =>
    dsimp only [refusal]
    rw [writeStatus_sending]

/-- The records of a body are answered in their order; the accepted ones are carried out. -/
theorem answerWrites_sending {body rest : List UInt8} {records : List WriteRecord}
    (leading : Leading body records rest) (cluster : UInt16) (s : Machine ω) (payload : List UInt8)
    (ok : Bool) :
    c.answerWrites sink cluster records (.sending sink variant opening s payload, ok) =
      (.sending sink variant opening ((c.accepted cluster records).foldl (c.obey cluster) s)
        (payload ++ statusBytes (c.refused cluster records)),
       ok && (c.refused cluster records).isEmpty) := by
  induction leading generalizing s payload ok with
  | stop last =>
    show (Exchange.sending sink variant opening s payload, ok) =
      (.sending sink variant opening s (payload ++ []), ok && true)
    rw [List.append_nil, Bool.and_true]
  | @next bytes others rest record records first more ih =>
    have answered := c.answerWrite_sending variant opening apart first cluster s payload
    rw [c.answerWrites_cons, answered]
    cases verdict : c.verdict cluster record with
    | none =>
      have kept : c.accepted cluster (record :: records) = record :: c.accepted cluster records :=
        List.filter_cons_of_pos (by rw [verdict]; rfl)
      have unnamed : c.refused cluster (record :: records) = c.refused cluster records :=
        List.filterMap_cons_none (by rw [verdict]; rfl)
      rw [kept, unnamed]
      dsimp only
      rw [ih, Bool.and_true, List.foldl_cons]
    | some status =>
      have dropped : c.accepted cluster (record :: records) = c.accepted cluster records :=
        List.filter_cons_of_neg (by rw [verdict]; exact Bool.false_ne_true)
      have named : c.refused cluster (record :: records) =
          (record.id, status) :: c.refused cluster records :=
        List.filterMap_cons_some (by rw [verdict]; rfl)
      rw [dropped, named]
      dsimp only
      rw [ih, List.append_assoc, ← statusBytes_append, Bool.and_false, Bool.false_and]
      simp

end Cube

/-! ## Writes -/

variable {ω : Type} (c : Cube ω) {sink : Sink ω} {s : Machine ω} {h : Header}

/-- **Writes.** In the body of a write, one run of records stands complete at the front and one rest
follows it. If the reply can be announced, the accepted records are carried out in their order and
nothing else is; the reply names the refused ones with their verdicts, then the one that the rest
breaks off in if it is refused already; when there is no rest and none was refused, it says so in one
byte. -/
theorem write_obeys_accepted (apart : ∀ byte, c.board.Apart (sink byte))
    (asks : c.Asks .writeAttributes s.device.address h) (body : List UInt8) :
    ∃ records rest, (∀ records' rest', Leading body records' rest' ↔ records' = records ∧ rest' = rest) ∧
      let refused := c.refused h.cluster records
      let payload := (h.reply s.device.address Command.writeAttributesResponse.code).encode ++
        statusBytes (refused ++ restRefused h.cluster rest) ++
        if rest = [] ∧ refused = [] then [0x00] else []
      (payload.length ≤ Cube.maxReply → c.dispatch sink (h.encode ++ body) s = (.responded payload.length,
        ((c.accepted h.cluster records).foldl (c.obey h.cluster) s).send sink
          (wire c.config.crc payload))) := by
  obtain ⟨records, rest, leading⟩ := Leading.total body
  refine ⟨records, rest, fun records' rest' => ⟨leading.unique, ?_⟩, ?_⟩
  · rintro ⟨rfl, rfl⟩
    exact leading
  intro refused payload fits
  -- whatever length was announced, the applying pass writes this payload
  have made : ∀ opening, c.runReply sink { header := h, body } .write
      (.sending sink c.config.crc opening s []) = .sending sink c.config.crc opening
        ((c.accepted h.cluster records).foldl (c.obey h.cluster) s) payload := by
    intro opening
    unfold Cube.runReply
    dsimp only
    rw [Cube.replyWrite_eq, leading.writeRecords_eq]
    dsimp only
    rw [Exchange.sending_write, c.answerWrites_sending c.config.crc opening apart leading,
      Cube.answerEnding_sending]
    dsimp only
    rw [List.nil_append, List.append_assoc, ← statusBytes_append]
    by_cases clean : rest = [] ∧ refused = []
    · have flag : (true && refused.isEmpty && rest.isEmpty) = true := by simp [clean]
      rw [if_pos flag, Exchange.sending_write]
      dsimp only [payload]
      rw [if_pos clean]
      rfl
    · have flag : ¬(true && refused.isEmpty && rest.isEmpty) = true := by
        simpa [and_comm] using clean
      rw [if_neg flag]
      dsimp only [payload]
      rw [if_neg clean, List.append_nil]
      rfl
  have applied := c.applyReply_sending sink fits made
  -- both passes are equally long, so the reply that is sent is the write
  have size : (c.countReply sink { header := h, body } .write s).1 = payload.length := by
    rw [c.countReply_length, ← c.applyReply_length sink _ _ (UInt16.ofNat payload.length), applied]
  have sent : c.sentReply sink { header := h, body } .write s = .write := by
    unfold Cube.sentReply
    rw [size, if_pos fits]
  unfold Cube.dispatch
  rw [Packet.ofBytes?_encode]
  dsimp only
  rw [asks.route rfl]
  dsimp only
  rw [c.respond_eq, sent, size, applied]

namespace Bench

/-- The tray is apart from the sample board. -/
theorem traySink_apart (byte : UInt8) : sampleCube.board.Apart (traySink byte) where
  write key record w := by
    rcases w with ⟨⟨_, _, _ | fault⟩, calls⟩ <;> rfl
  setTime seconds w := rfl
  setZone offset w := rfl
  powerUp w := rfl
  powerDown w := rfl

/-- A write of the mode, of an attribute that there is not, of an effect that there is not and of the
effect text, which breaks off in the value of an attribute that cannot be written. -/
def mixedBody : List UInt8 :=
  [0x01, 0x00, 0x30, 0x02] ++ ([0x77, 0x00, 0x10, 0x01] ++ ([0x09, 0x00, 0x20, 0x09] ++
    ([0x02, 0x00, 0x41, 0x02, 0x68, 0x69] ++ [0x06, 0x00, 0x43, 0x05])))

theorem mixedBody_leading : Leading mixedBody
    [⟨1, .enum8 2⟩, ⟨0x77, .boolean true⟩, ⟨9, .uint8 9⟩, ⟨2, .octetString [0x68, 0x69]⟩]
    [0x06, 0x00, 0x43, 0x05] := by
  have cut : (writeRecords [0x06, 0x00, 0x43, 0x05]).1 = [] := by
    rw [writeRecords.eq_def]
    rfl
  have text : Value.Spells .octetString [0x02, 0x68, 0x69] (.octetString [0x68, 0x69]) :=
    .octetString (show [0x68, 0x69].length ≤ DataType.maxOctets by decide)
  exact .next (.record 1 (.enum8 2)) (.next (.record 0x77 (.boolean 1))
    (.next (.record 9 (.uint8 9)) (.next (.record 2 text) (.stop_of_writeRecords cut))))

/-- Of the mixed write, the mode and the text are carried out; the reply names the other three. -/
theorem mixedWrite_obeys :
    sampleCube.dispatch traySink ((sampleHeader .writeAttributes).encode ++ mixedBody) newMachine =
      (.responded 26, (sampleCube.storeText [0x68, 0x69] (sampleCube.setMode .playlist newMachine)).send
        traySink (wire sampleCube.config.crc
          (((sampleHeader .writeAttributes).reply sampleCube.config.factoryAddress 0x04).encode ++
            [0x77, 0x00, 0x86, 0x09, 0x00, 0x87, 0x06, 0x00, 0x88]))) := by
  have asks : sampleCube.Asks .writeAttributes newMachine.device.address (sampleHeader .writeAttributes) :=
    ⟨rfl, .inr rfl, rfl, rfl, rfl, rfl, rfl⟩
  obtain ⟨records, rest, leading, obeyed⟩ :=
    write_obeys_accepted sampleCube traySink_apart asks mixedBody
  obtain ⟨rfl, rfl⟩ := (leading _ _).mp mixedBody_leading
  exact obeyed (by decide +kernel)

end Bench

end VoxelCube
