/-
Replies on two boards. Two cubes that differ in nothing but their boards, and these in nothing but what the
stores, the line and its flushes answer, make the same replies, except that an entry of a reply to a read
may tell another kept playlist or effect in its one byte. The boards have no say in how long a reply is.
-/
import VoxelCube.Proofs.Device.Twins
import VoxelCube.Proofs.Reply.Outbox
import VoxelCube.Proofs.Reply.Reading

namespace VoxelCube

open Link

/-! ## What may differ -/

/-- The entry of a read reply that tells a kept number. -/
def keptEntry (a : Attribute) (n : UInt8) : List UInt8 :=
  Word.toBytes 2 a.row.id.toNat ++ [Status.success.code, DataType.uint8.tag, n]

/-- Two entries for one number are the same, or tell two numbers of a kept attribute. -/
inductive AlikeEntry (cluster : UInt16) : List UInt8 → List UInt8 → Prop where
  | same {bytes : List UInt8} {entry : ReadEntry} (spelled : entry.Spells bytes) :
    AlikeEntry cluster bytes bytes
  | kept {a : Attribute} (kept : a.IsKept) (here : a.row.cluster.code = cluster) (n n' : UInt8) :
    AlikeEntry cluster (keptEntry a n) (keptEntry a n')

/-- Two bodies of read replies are alike entry by entry. -/
inductive AlikeEntries (cluster : UInt16) : List UInt8 → List UInt8 → Prop where
  | nil : AlikeEntries cluster [] []
  | cons {bytes bytes' rest rest' : List UInt8} (first : AlikeEntry cluster bytes bytes')
    (more : AlikeEntries cluster rest rest') : AlikeEntries cluster (bytes ++ rest) (bytes' ++ rest')

/-- Two payloads of replies are the same, or reply to a read in two ways that are alike. -/
inductive AlikeReply : List UInt8 → List UInt8 → Prop where
  | same (payload : List UInt8) : AlikeReply payload payload
  | read {h : Header} {body body' : List UInt8} (replies : h.command = Command.readAttributesResponse.code)
    (alike : AlikeEntries h.cluster body body') : AlikeReply (h.encode ++ body) (h.encode ++ body')

theorem AlikeEntry.length_eq {cluster : UInt16} {bytes bytes' : List UInt8}
    (h : AlikeEntry cluster bytes bytes') : bytes'.length = bytes.length := by
  cases h <;> simp [keptEntry]

theorem AlikeEntries.length_eq {cluster : UInt16} {body body' : List UInt8}
    (h : AlikeEntries cluster body body') : body'.length = body.length := by
  induction h with
  | nil => rfl
  | cons first _ ih => rw [List.length_append, List.length_append, first.length_eq, ih]

theorem AlikeReply.length_eq {payload payload' : List UInt8} (h : AlikeReply payload payload') :
    payload'.length = payload.length := by
  cases h with
  | same => rfl
  | read _ alike => rw [List.length_append, List.length_append, alike.length_eq]

/-! ## Exchanges on two boards -/

section Exchanges

variable {ω : Type} {b b' : Board ω} {R : ω → ω → Prop} (c : Cube ω) (outbox : Outbox b)
  (outbox' : Outbox b')

/-- Two exchanges of the applying pass, each with the payload that it wrote, over machines that agree. -/
structure Abreast (R : ω → ω → Prop) (start start' : List UInt8) (x x' : Exchange ω)
    (payload payload' : List UInt8) : Prop where
  wrote : Tape.Wrote (c := c.on b) outbox.tape start x payload
  wrote' : Tape.Wrote (c := c.on b') outbox'.tape start' x' payload'
  agree : x.machine.Agree R x'.machine

variable {c outbox outbox'} (twins : b.Twins b' R) {start start' payload payload' : List UInt8}
  {x x' : Exchange ω}

namespace Abreast

theorem applies (h : Abreast c outbox outbox' R start start' x x' payload payload') :
    x.writer.pass = .apply ∧ x'.writer.pass = .apply := by
  rw [h.wrote.1, h.wrote'.1]
  exact ⟨rfl, rfl⟩

include twins

theorem write (h : Abreast c outbox outbox' R start start' x x' payload payload') (field field' : Field)
    (long : field'.encode.length = field.encode.length) :
    Abreast c outbox outbox' R start start' (x.write outbox.tape.sink field)
      (x'.write outbox'.tape.sink field') (payload ++ field.encode) (payload' ++ field'.encode) := by
  refine ⟨h.wrote.write field, h.wrote'.write field', h.agree.device, ?_⟩
  rw [Exchange.write_apply _ field x h.applies.1, Exchange.write_apply _ field' x' h.applies.2]
  exact twins.puts (by rw [Hex.length_encode, Hex.length_encode, long]) h.agree.world

theorem look (h : Abreast c outbox outbox' R start start' x x' payload payload') (a : Attribute)
    (access : Access) :
    Abreast c outbox outbox' R start start'
      { x with machine := { x.machine with world := ((c.on b).readAttribute a access .apply x.machine).2 } }
      { x' with machine :=
        { x'.machine with world := ((c.on b').readAttribute a access .apply x'.machine).2 } }
      payload payload' := by
  have looked := h.wrote.look a access
  have looked' := h.wrote'.look a access
  rw [h.applies.1] at looked
  rw [h.applies.2] at looked'
  exact ⟨looked, looked', h.agree.device, (twins.readAttribute c h.agree a access .apply).1⟩

theorem change (h : Abreast c outbox outbox' R start start' x x' payload payload') (change : Change) :
    Abreast c outbox outbox' R start start' { x with machine := (c.on b).carryOut change x.machine }
      { x' with machine := (c.on b').carryOut change x'.machine } payload payload' :=
  ⟨h.wrote.change change, h.wrote'.change change, twins.carryOut c change h.agree⟩

/-! ### Reads -/

/-- Values that are equally long are sent behind the same status. -/
theorem writeValue (h : Abreast c outbox outbox' R start start' x x' payload payload') (v v' : Value)
    (long : v'.encode.length = v.encode.length) :
    Abreast c outbox outbox' R start start'
      (((x.write outbox.tape.sink (.u8 Status.success.code)).write outbox.tape.sink
        (.u8 v.type.tag)).write outbox.tape.sink (.value v))
      (((x'.write outbox'.tape.sink (.u8 Status.success.code)).write outbox'.tape.sink
        (.u8 v'.type.tag)).write outbox'.tape.sink (.value v'))
      (payload ++ Status.success.code :: v.type.tag :: v.encode)
      (payload' ++ Status.success.code :: v'.type.tag :: v'.encode) := by
  have sent := ((h.write twins (.u8 Status.success.code) (.u8 Status.success.code) rfl).write twins
    (.u8 v.type.tag) (.u8 v'.type.tag) rfl).write twins (.value v) (.value v') long
  simpa [Field.encode] using sent

/-- A number is answered by entries that are alike. -/
theorem answerRead (h : Abreast c outbox outbox' R start start' x x' payload payload')
    (cluster id : UInt16) : ∃ bytes bytes', AlikeEntry cluster bytes bytes' ∧
      Abreast c outbox outbox' R start start' ((c.on b).answerRead outbox.tape.sink cluster x id)
        ((c.on b').answerRead outbox'.tape.sink cluster x' id) (payload ++ bytes) (payload' ++ bytes') := by
  have named := h.write twins (.u16 id) (.u16 id) rfl
  unfold Cube.answerRead
  dsimp only
  generalize x.write outbox.tape.sink (.u16 id) = y at named ⊢
  generalize x'.write outbox'.tape.sink (.u16 id) = y' at named ⊢
  cases found : Attribute.find? cluster id with
  | none =>
    have unknown : Status.unsupportedAttribute.code ≠ Status.success.code := by decide
    refine ⟨_, _, .same (.refusal id unknown), ?_⟩
    rw [← List.append_assoc, ← List.append_assoc]
    exact named.write twins (.u8 _) (.u8 _) rfl
  | some a =>
    have looked := named.look twins a a.row.access
    have results := (twins.readAttribute c named.agree a a.row.access .apply).2
    obtain ⟨here, number⟩ := Attribute.find?_eq_some_iff.mp found
    dsimp only
    rw [named.applies.1, named.applies.2]
    by_cases readable : a.row.access.isReadable = true
    · obtain ⟨v, read, type, spelled⟩ := (c.on b).readAttribute_spells readable y.machine
      rw [read] at results ⊢
      rcases results with same | ⟨kept, n, n', first, second⟩
      · rw [same]
        refine ⟨_, _, .same (.value id spelled), ?_⟩
        rw [← List.append_assoc, ← List.append_assoc, ← type]
        exact looked.writeValue twins v v rfl
      · cases first
        rw [second]
        refine ⟨keptEntry a n, keptEntry a n', .kept kept here n n', ?_⟩
        rw [keptEntry, keptEntry, number, ← List.append_assoc, ← List.append_assoc]
        exact looked.writeValue twins (.uint8 n) (.uint8 n') rfl
    · rw [(c.on b).readAttribute_refused readable, (c.on b').readAttribute_refused readable]
      have unreadable : Status.writeOnly.code ≠ Status.success.code := by decide
      refine ⟨_, _, .same (.refusal id unreadable), ?_⟩
      rw [← List.append_assoc, ← List.append_assoc]
      exact looked.write twins (.u8 _) (.u8 _) rfl

theorem answerReads (h : Abreast c outbox outbox' R start start' x x' payload payload')
    (cluster : UInt16) (ids : List UInt16) : ∃ body body', AlikeEntries cluster body body' ∧
      Abreast c outbox outbox' R start start'
        (ids.foldl ((c.on b).answerRead outbox.tape.sink cluster) x)
        (ids.foldl ((c.on b').answerRead outbox'.tape.sink cluster) x') (payload ++ body)
        (payload' ++ body') := by
  induction ids generalizing x x' payload payload' with
  | nil => exact ⟨[], [], .nil, by rw [List.append_nil, List.append_nil]; exact h⟩
  | cons id rest ih =>
    obtain ⟨bytes, bytes', first, answered⟩ := h.answerRead twins cluster id
    obtain ⟨body, body', more, done⟩ := ih answered
    refine ⟨_, _, .cons first more, ?_⟩
    rw [← List.append_assoc, ← List.append_assoc]
    exact done

/-! ### Writes -/

theorem writeStatus (h : Abreast c outbox outbox' R start start' x x' payload payload) (id : UInt16)
    (status : Status) : ∃ bytes, Abreast c outbox outbox' R start start'
      (x.writeStatus outbox.tape.sink id status) (x'.writeStatus outbox'.tape.sink id status) bytes bytes :=
  ⟨_, (h.write twins (.u16 id) (.u16 id) rfl).write twins (.u8 status.code) (.u8 status.code) rfl⟩

/-- A record of a write is judged without the boards, and so answered with the same bytes. -/
theorem answerWrite (h : Abreast c outbox outbox' R start start' x x' payload payload) (cluster : UInt16)
    (record : WriteRecord) :
    let done := (c.on b).answerWrite outbox.tape.sink cluster x record
    let done' := (c.on b').answerWrite outbox'.tape.sink cluster x' record
    done'.2 = done.2 ∧ ∃ bytes, Abreast c outbox outbox' R start start' done.1 done'.1 bytes bytes := by
  have judged : (c.on b').judge cluster record = (c.on b).judge cluster record := rfl
  unfold Cube.answerWrite
  rw [judged, h.applies.1, h.applies.2]
  cases (c.on b).judge cluster record with
  | ok change => exact ⟨rfl, _, h.change twins change⟩
  | error status => exact ⟨rfl, h.writeStatus twins record.id status⟩

theorem answerWrites (h : Abreast c outbox outbox' R start start' x x' payload payload)
    (cluster : UInt16) (records : List WriteRecord) (accepted : Bool) :
    let done := (c.on b).answerWrites outbox.tape.sink cluster records (x, accepted)
    let done' := (c.on b').answerWrites outbox'.tape.sink cluster records (x', accepted)
    done'.2 = done.2 ∧ ∃ bytes, Abreast c outbox outbox' R start start' done.1 done'.1 bytes bytes := by
  unfold Cube.answerWrites
  induction records generalizing x x' payload accepted with
  | nil => exact ⟨rfl, payload, h⟩
  | cons record rest ih =>
    obtain ⟨same, bytes, answered⟩ := h.answerWrite twins cluster record
    rw [List.foldl_cons, List.foldl_cons]
    dsimp only
    rw [same]
    exact ih answered _

theorem answerEnding (h : Abreast c outbox outbox' R start start' x x' payload payload)
    (cluster : UInt16) (ending : WriteEnding) :
    let done := Cube.answerEnding outbox.tape.sink cluster ending x
    let done' := Cube.answerEnding outbox'.tape.sink cluster ending x'
    done'.2 = done.2 ∧ ∃ bytes, Abreast c outbox outbox' R start start' done.1 done'.1 bytes bytes := by
  unfold Cube.answerEnding
  cases ending with
  | complete | ragged => exact ⟨rfl, payload, h⟩
  | unknownType id => exact ⟨rfl, h.writeStatus twins id .invalidDataType⟩
  | cutValue id type =>
    dsimp only
    cases Attribute.writable? cluster id type with
    | ok a => exact ⟨rfl, payload, h⟩
    | error status => exact ⟨rfl, h.writeStatus twins id status⟩

/-! ### Replies -/

/-- A reply is made with payloads that are alike. -/
theorem runReply (packet : Packet) (reply : Reply)
    (h : Abreast c outbox outbox' R start start' x x' [] []) :
    ∃ payload payload', AlikeReply payload payload' ∧ Abreast c outbox outbox' R start start'
      ((c.on b).runReply outbox.tape.sink packet reply x)
      ((c.on b').runReply outbox'.tape.sink packet reply x') payload payload' := by
  have headed : ∀ command : Command, let header := packet.header.reply x.machine.device.address command.code
      Abreast c outbox outbox' R start start' (x.write outbox.tape.sink (.header header))
        (x'.write outbox'.tape.sink (.header header)) header.encode header.encode :=
    fun command => h.write twins (.header _) (.header _) rfl
  cases reply with
  | read =>
    obtain ⟨body, body', alike, answered⟩ := (headed .readAttributesResponse).answerReads twins
      packet.header.cluster (readIds packet.body)
    let header := packet.header.reply x.machine.device.address Command.readAttributesResponse.code
    refine ⟨header.encode ++ body, header.encode ++ body', .read rfl alike, ?_⟩
    unfold Cube.runReply Cube.replyRead
    rw [h.agree.device]
    exact answered
  | write =>
    obtain ⟨accepted, bytes, answered⟩ := (headed .writeAttributesResponse).answerWrites twins
      packet.header.cluster (writeRecords packet.body).1 true
    obtain ⟨complete, bytes', ended⟩ := answered.answerEnding twins packet.header.cluster
      (writeRecords packet.body).2
    unfold Cube.runReply
    dsimp only
    rw [Cube.replyWrite_eq, Cube.replyWrite_eq, h.agree.device]
    dsimp only
    rw [accepted, complete]
    split
    · exact ⟨_, _, .same _, ended.write twins (.u8 Status.success.code) (.u8 _) rfl⟩
    · exact ⟨_, _, .same _, ended⟩
  | default command status =>
    unfold Cube.runReply
    rw [h.agree.device]
    exact ⟨_, _, .same _, ((headed .defaultResponse).write twins (.u8 command) (.u8 command) rfl).write
      twins (.u8 status.code) (.u8 status.code) rfl⟩

end Abreast

/-! ## Sending on two boards -/

namespace Cube

variable (c : Cube ω) (b b' : Board ω) {s s' : Machine ω}

/-- How long a reply is does not depend on the board. -/
theorem replySize_on (device : s'.device = s.device) (packet : Packet) (reply : Reply) :
    (c.on b').replySize packet s' reply = (c.on b).replySize packet s reply := by
  have sizes : ∀ a, resultSize ((c.on b').currentValue s' a) = resultSize ((c.on b).currentValue s a) := by
    intro a
    cases a <;> simp [currentValue, resultSize, Value.encode, device]
  have answers : ∀ id, (c.on b').answerSize packet.header.cluster s' id =
      (c.on b).answerSize packet.header.cluster s id := by
    intro id
    unfold answerSize
    split
    · rfl
    · rw [readAttribute_size, readAttribute_size, sizes]
  cases reply with
  | read =>
    unfold replySize
    rw [funext answers]
  | write => rfl
  | default command status => rfl

theorem sentReply_on {b b' : Board ω} (outbox : Outbox b) (outbox' : Outbox b')
    (device : s'.device = s.device) (packet : Packet) (reply : Reply) :
    (c.on b').sentReply outbox'.tape.sink packet reply s' =
      (c.on b).sentReply outbox.tape.sink packet reply s := by
  unfold sentReply
  rw [countReply_length, countReply_length, c.replySize_on b b' device]

end Cube

namespace Board.Twins

variable (outbox outbox') (c) {s s' : Machine ω}
include twins

/-- A reply that was counted is sent in two frames that are alike. -/
theorem applyReply (h : s.Agree R s') (packet : Packet) (reply : Reply)
    (fits : (c.on b).replySize packet s reply ≤ Cube.maxReply) :
    let length := UInt16.ofNat ((c.on b).replySize packet s reply)
    let t := ((c.on b).applyReply outbox.tape.sink packet reply length s).2
    let t' := ((c.on b').applyReply outbox'.tape.sink packet reply length s').2
    t.Agree R t' ∧ ∃ payload payload', AlikeReply payload payload' ∧
      outbox.sent t.world = outbox.sent s.world ++ wire c.config.crc payload ∧
      outbox'.sent t'.world = outbox'.sent s'.world ++ wire c.config.crc payload' := by
  intro length t t'
  have opened : Abreast c outbox outbox' R (outbox.sent s.world ++ Tape.opening length)
      (outbox'.sent s'.world ++ Tape.opening length) (Tape.opened (c := c.on b) outbox.tape length s)
      (Tape.opened (c := c.on b') outbox'.tape length s') [] [] :=
    ⟨Tape.wrote_opened (c := c.on b) outbox.tape length s,
      Tape.wrote_opened (c := c.on b') outbox'.tape length s', h.device, twins.puts rfl h.world⟩
  obtain ⟨payload, payload', alike, done⟩ := opened.runReply twins packet reply
  obtain ⟨size, device, sent⟩ := Tape.applyReply_of_wrote (c := c.on b) outbox.tape done.wrote
  obtain ⟨size', device', sent'⟩ := Tape.applyReply_of_wrote (c := c.on b') outbox'.tape done.wrote'
  -- both payloads are as long as the frame announces
  have announced : length = UInt16.ofNat payload.length := by
    rw [← size, Cube.applyReply_length]
  have short : payload.length ≤ Cube.maxReply := by
    rw [← size, Cube.applyReply_length]
    exact fits
  refine ⟨⟨?_, ?_⟩, payload, payload', alike, ?_, ?_⟩
  · exact (device'.trans done.agree.device).trans device.symm
  · show R ((c.on b).applyReply outbox.tape.sink packet reply length s).2.world
      ((c.on b').applyReply outbox'.tape.sink packet reply length s').2.world
    rw [Cube.applyReply_eq, Cube.applyReply_eq]
    exact twins.puts (by simp [Hex.length_encode]) done.agree.world
  · have framed := Tape.frame_eq_wire (c := c.on b) short
    rw [← announced] at framed
    exact sent.trans (congrArg _ framed)
  · rw [← alike.length_eq] at announced short
    have framed := Tape.frame_eq_wire (c := c.on b') short
    rw [← announced] at framed
    exact sent'.trans (congrArg _ framed)

theorem respond (h : s.Agree R s') (packet : Packet) (reply : Reply) :
    let t := ((c.on b).respond outbox.tape.sink packet reply s).2
    let t' := ((c.on b').respond outbox'.tape.sink packet reply s').2
    t.Agree R t' ∧ ∃ payload payload', AlikeReply payload payload' ∧
      outbox.sent t.world = outbox.sent s.world ++ wire c.config.crc payload ∧
      outbox'.sent t'.world = outbox'.sent s'.world ++ wire c.config.crc payload' := by
  rw [Cube.respond_eq, Cube.respond_eq, Cube.countReply_length, Cube.countReply_length,
    c.sentReply_on outbox outbox' h.device, c.replySize_on b b' h.device]
  exact twins.applyReply c outbox outbox' h packet _ ((c.on b).sentReply_size outbox.tape.sink packet reply s)

end Board.Twins

end Exchanges

end VoxelCube
