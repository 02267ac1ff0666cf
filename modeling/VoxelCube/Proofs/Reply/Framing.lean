/-
The framing of replies. The counting pass and the applying pass of a reply are equally long, although
the applying pass changes the device and asks the store on its way: no status and no width depends
on anything that a record can change. So what `dispatch` puts into an unbounded sink is exactly one
frame around a payload of the length that it reports, and nothing when it does not respond.
-/
import Mathlib.Algebra.GroupWithZero.Nat
import VoxelCube.Bench.Sample
import VoxelCube.Link.Frame
import VoxelCube.Proofs.Reply.Moves
import VoxelCube.Proofs.Store.Records

namespace VoxelCube

open Link Store

/-! ## The size of a reply -/

namespace Cube

variable {ω : Type} (c : Cube ω) (sink : Sink ω)

/-- How many bytes the result of reading an attribute takes, its number apart. -/
def resultSize : Except Status Value → Nat
  | .ok value => 2 + value.encode.length
  | .error _ => 1

/-- How many bytes the answer for an attribute number takes at a machine. -/
def answerSize (cluster : UInt16) (s : Machine ω) (id : UInt16) : Nat :=
  match Attribute.find? cluster id with
  | none => 3
  | some a => 2 + resultSize (c.readAttribute a a.row.access .count s).1

/-- How many bytes the answer for a record of a write takes: none when it is accepted. -/
def refusalSize (cluster : UInt16) (record : WriteRecord) : Nat :=
  match c.judge cluster record with
  | .ok _ => 0
  | .error _ => 3

/-- How many bytes the answer for the end of a write takes. -/
def endingSize (cluster : UInt16) : WriteEnding → Nat
  | .complete | .ragged => 0
  | .unknownType _ => 3
  | .cutValue id type =>
    match Attribute.writable? cluster id type with
    | .ok _ => 0
    | .error _ => 3

/-- A write whose records are all accepted and which ends with its last one. -/
def isFlawless (cluster : UInt16) (body : List UInt8) : Bool :=
  (writeRecords body).1.all (fun record => (c.judge cluster record).isOk) &&
    (writeRecords body).2 == .complete

/-- How many bytes a reply takes, whichever pass makes it. -/
def replySize (packet : Packet) (s : Machine ω) : Reply → Nat
  | .read => 17 + ((readIds packet.body).map (c.answerSize packet.header.cluster s)).sum
  | .write =>
    let (records, ending) := writeRecords packet.body
    17 + (records.map (c.refusalSize packet.header.cluster)).sum +
      endingSize packet.header.cluster ending +
      if c.isFlawless packet.header.cluster packet.body then 1 else 0
  | .default _ _ => 19

/-! ## Reading is equally wide in both passes -/

/-- Only the effects of the playlist are not always equally many. -/
theorem currentValue_size {s t : Machine ω} (same : s.device.playlist = t.device.playlist)
    (a : Attribute) : resultSize (c.currentValue s a) = resultSize (c.currentValue t a) := by
  cases a <;> simp [currentValue, resultSize, Value.encode, same]

/-- Either pass reads an attribute as wide as its current value is, whatever the store answers. -/
theorem readAttribute_size (a : Attribute) (access : Access) (pass : Pass) (s : Machine ω) :
    resultSize (c.readAttribute a access pass s).1 =
      if access.isReadable then resultSize (c.currentValue s a) else 1 := by
  unfold readAttribute
  split
  · cases a <;> cases pass <;> rfl
  · rfl

theorem answerSize_congr {s t : Machine ω} (same : s.device.playlist = t.device.playlist)
    (cluster id : UInt16) :
    c.answerSize cluster s id = c.answerSize cluster t id := by
  unfold answerSize
  split
  · rfl
  · rw [readAttribute_size, readAttribute_size, c.currentValue_size same]

theorem answerRead_spec (cluster : UInt16) (x : Exchange ω) (id : UInt16) :
    (c.answerRead sink cluster x id).machine.device = x.machine.device ∧
      (c.answerRead sink cluster x id).writer.length =
        x.writer.length + c.answerSize cluster x.machine id := by
  unfold answerRead answerSize
  dsimp only
  cases Attribute.find? cluster id with
  | none => simp [Field.encode]
  | some a =>
    have width : resultSize (c.readAttribute a a.row.access (x.write sink (.u16 id)).writer.pass
        (x.write sink (.u16 id)).machine).1 =
        resultSize (c.readAttribute a a.row.access .count x.machine).1 := by
      rw [readAttribute_size, readAttribute_size,
        c.currentValue_size (congrArg Device.playlist (x.write_device sink (.u16 id)))]
    dsimp only
    rw [← width]
    split
    · rename_i read
      rw [read]
      simp [Field.encode, resultSize]
      omega
    · rename_i read
      rw [read]
      simp [Field.encode, resultSize]

theorem answerReads_spec (cluster : UInt16) (ids : List UInt16) (x : Exchange ω) :
    (ids.foldl (c.answerRead sink cluster) x).writer.length =
      x.writer.length + (ids.map (c.answerSize cluster x.machine)).sum := by
  induction ids generalizing x with
  | nil => rfl
  | cons id rest ih =>
    obtain ⟨device, length⟩ := c.answerRead_spec sink cluster x id
    have sizes : c.answerSize cluster (c.answerRead sink cluster x id).machine =
        c.answerSize cluster x.machine :=
      funext fun _ => c.answerSize_congr (congrArg Device.playlist device) cluster _
    rw [List.foldl_cons, ih, length, sizes, List.map_cons, List.sum_cons, Nat.add_assoc]

/-! ## Writing is judged equally in both passes -/

theorem writeStatus_length (id : UInt16) (status : Status) (x : Exchange ω) :
    (x.writeStatus sink id status).writer.length = x.writer.length + 3 := by
  simp [Exchange.writeStatus, Field.encode]

theorem answerWrite_spec (cluster : UInt16) (x : Exchange ω) (record : WriteRecord) :
    (c.answerWrite sink cluster x record).1.writer.length =
        x.writer.length + c.refusalSize cluster record ∧
      (c.answerWrite sink cluster x record).2 = (c.judge cluster record).isOk := by
  unfold answerWrite refusalSize
  cases c.judge cluster record with
  | ok change => cases x.writer.pass <;> exact ⟨rfl, rfl⟩
  | error status => exact ⟨writeStatus_length sink record.id status x, rfl⟩

theorem answerWrites_spec (cluster : UInt16) (records : List WriteRecord) (y : Exchange ω × Bool) :
    (c.answerWrites sink cluster records y).1.writer.length =
        y.1.writer.length + (records.map (c.refusalSize cluster)).sum ∧
      (c.answerWrites sink cluster records y).2 =
        (y.2 && records.all fun record => (c.judge cluster record).isOk) := by
  unfold answerWrites
  induction records generalizing y with
  | nil => simp
  | cons record rest ih =>
    obtain ⟨length, ok⟩ := c.answerWrite_spec sink cluster y.1 record
    obtain ⟨lengths, oks⟩ := ih ((c.answerWrite sink cluster y.1 record).1,
      y.2 && (c.answerWrite sink cluster y.1 record).2)
    constructor
    · rw [List.foldl_cons, lengths, length, List.map_cons, List.sum_cons, Nat.add_assoc]
    · rw [List.foldl_cons, oks, ok, List.all_cons, Bool.and_assoc]

theorem answerEnding_spec (cluster : UInt16) (ending : WriteEnding) (x : Exchange ω) :
    (answerEnding sink cluster ending x).1.writer.length =
        x.writer.length + endingSize cluster ending ∧
      (answerEnding sink cluster ending x).2 = (ending == .complete) := by
  unfold answerEnding endingSize
  cases ending with
  | complete => exact ⟨rfl, rfl⟩
  | ragged => exact ⟨rfl, rfl⟩
  | unknownType id => exact ⟨writeStatus_length sink id _ x, rfl⟩
  | cutValue id type =>
    dsimp only
    cases Attribute.writable? cluster id type with
    | ok a => exact ⟨rfl, rfl⟩
    | error status => exact ⟨writeStatus_length sink id status x, rfl⟩

/-! ## Both passes are equally long -/

theorem runReply_length (packet : Packet) (reply : Reply) (x : Exchange ω) :
    (c.runReply sink packet reply x).writer.length =
      x.writer.length + c.replySize packet x.machine reply := by
  cases reply with
  | read =>
    unfold runReply replyRead replySize
    dsimp only
    rw [answerReads_spec, Exchange.write_length]
    simp only [Field.encode, Header.length_encode, Nat.add_assoc]
    congr 3
    exact List.map_congr_left fun id _ =>
      c.answerSize_congr (congrArg Device.playlist (x.write_device sink _)) _ id
  | write =>
    unfold runReply replySize isFlawless
    dsimp only
    rw [replyWrite_eq]
    dsimp only
    generalize hopen : (x.write sink _, true) = opened
    obtain ⟨lengths, oks⟩ := c.answerWrites_spec sink packet.header.cluster
      (writeRecords packet.body).1 opened
    obtain ⟨length, complete⟩ := answerEnding_spec sink packet.header.cluster
      (writeRecords packet.body).2
      (c.answerWrites sink packet.header.cluster (writeRecords packet.body).1 opened).1
    have start : opened.1.writer.length = x.writer.length + 17 := by
      rw [← hopen, Exchange.write_length]
      simp [Field.encode]
    rw [complete, oks, show opened.2 = true by rw [← hopen], Bool.true_and]
    split
    · rw [Exchange.write_length, length, lengths, start]
      simp only [Field.encode, List.length_singleton, Nat.add_assoc]
    · rw [length, lengths, start]
      simp only [Nat.add_assoc, Nat.add_zero]
  | default command status =>
    unfold runReply replySize
    simp [Field.encode]

theorem replySize_congr {s t : Machine ω} (same : s.device = t.device) (packet : Packet)
    (reply : Reply) : c.replySize packet s reply = c.replySize packet t reply := by
  cases reply with
  | read =>
    have sizes : c.answerSize packet.header.cluster s = c.answerSize packet.header.cluster t :=
      funext fun _ => c.answerSize_congr (congrArg Device.playlist same) _ _
    unfold replySize
    rw [sizes]
  | write => rfl
  | default command status => rfl

theorem countReply_length (packet : Packet) (reply : Reply) (s : Machine ω) :
    (c.countReply sink packet reply s).1 = c.replySize packet s reply := by
  unfold countReply
  dsimp only
  rw [runReply_length]
  exact Nat.zero_add _

theorem applyReply_length (packet : Packet) (reply : Reply) (length : UInt16) (s : Machine ω) :
    (c.applyReply sink packet reply length s).1 = c.replySize packet s reply := by
  rw [applyReply_eq]
  dsimp only
  rw [runReply_length]
  exact (Nat.zero_add _).trans (c.replySize_congr (by rfl) packet reply)

/-- A reply that is sent can be announced by its frame. -/
theorem sentReply_size (packet : Packet) (reply : Reply) (s : Machine ω) :
    c.replySize packet s (c.sentReply sink packet reply s) ≤ maxReply := by
  unfold sentReply
  split
  · rename_i fits
    rwa [countReply_length] at fits
  · show 19 ≤ maxReply
    decide

end Cube

/-! ## An unbounded sink -/

/-- An unbounded sink in the world of a board: it keeps every byte in order, and no operation of the
board touches what it keeps. -/
structure Tape {ω : Type} (b : Board ω) where
  sink : Sink ω
  /-- The bytes that were put into the sink. -/
  sent : ω → List UInt8
  sent_sink : ∀ byte w, sent (sink byte w) = sent w ++ [byte]
  untouched : ∀ bytes, b.Keeps fun w => sent w = bytes

/-- The tray of the sample board is an unbounded sink. -/
def Bench.sampleTape : Tape Bench.sampleBoard where
  sink := traySink
  sent w := w.world.tray.reverse
  sent_sink byte w := List.reverse_cons
  untouched bytes := by
    refine ⟨fun key room w h => ?_, fun key record w h => ?_, fun _ _ h => h, fun _ _ h => h,
      fun _ h => h, fun _ h => h⟩
    · exact (congrArg (fun m : Memory => m.tray.reverse) (Memory.read_snd key room w.world)).trans h
    · have kept : (Memory.write key record w.world).2.tray = w.world.tray := by
        unfold Memory.write
        split <;> rfl
      exact (congrArg List.reverse kept).trans h

namespace Tape

variable {ω : Type} {c : Cube ω} (tape : Tape c.board)

theorem sent_puts (bytes : List UInt8) (w : ω) :
    tape.sent (tape.sink.puts bytes w) = tape.sent w ++ bytes := by
  induction bytes generalizing w with
  | nil => exact (List.append_nil _).symm
  | cons b rest ih =>
    have step : tape.sink.puts (b :: rest) w = tape.sink.puts rest (tape.sink b w) := rfl
    rw [step, ih, tape.sent_sink, List.append_assoc, List.singleton_append]

/-- An exchange whose writer and tape agree on the payload written since the tape held `before`. -/
def Wrote (before : List UInt8) (x : Exchange ω) (payload : List UInt8) : Prop :=
  x.writer = { pass := .apply, crc := Crc.update { variant := c.config.crc } payload,
               length := payload.length } ∧
    tape.sent x.machine.world = before ++ Hex.encode payload

variable {tape}

theorem Wrote.write {before payload : List UInt8} {x : Exchange ω} (h : tape.Wrote before x payload)
    (field : Field) : tape.Wrote before (x.write tape.sink field) (payload ++ field.encode) := by
  obtain ⟨writer, sent⟩ := h
  constructor
  · rw [Exchange.write_apply _ _ _ (by rw [writer])]
    simp [writer, Crc.update_append]
  · rw [Exchange.write_apply _ _ _ (by rw [writer])]
    dsimp only
    rw [sent_puts, sent, Hex.encode_append, List.append_assoc]

theorem Wrote.look {before payload : List UInt8} {x : Exchange ω} (h : tape.Wrote before x payload)
    (a : Attribute) (access : Access) : tape.Wrote before
      { x with machine := { x.machine with world := (c.readAttribute a access x.writer.pass x.machine).2 } }
      payload :=
  ⟨h.1, (tape.untouched _).readAttribute x.machine a access _ h.2⟩

theorem Wrote.change {before payload : List UInt8} {x : Exchange ω} (h : tape.Wrote before x payload)
    (change : Change) :
    tape.Wrote before { x with machine := c.carryOut change x.machine } payload :=
  ⟨h.1, (tape.untouched _).carryOut x.machine change h.2⟩

variable (tape)

/-- What opens the frame of a payload of this length. -/
def opening (length : UInt16) : List UInt8 :=
  [startOctet, openOctet] ++ Hex.encode (Word.toBytes 2 length.toNat)

/-- The applying pass over a machine when it opened a frame. -/
def opened (length : UInt16) (s : Machine ω) : Exchange ω where
  machine := { s with world := tape.sink.puts (opening length) s.world }
  writer := .new .apply c.config.crc

theorem wrote_opened (length : UInt16) (s : Machine ω) :
    tape.Wrote (tape.sent s.world ++ opening length) (tape.opened length s) [] :=
  ⟨rfl, by rw [Hex.encode_nil, List.append_nil]; exact tape.sent_puts _ _⟩

/-- The frame that the applying pass sends is the one around the payload that its reply wrote. -/
theorem applyReply_of_wrote {packet : Packet} {reply : Reply} {length : UInt16} {s : Machine ω}
    {payload : List UInt8} (wrote : tape.Wrote (tape.sent s.world ++ opening length)
      (c.runReply tape.sink packet reply (tape.opened length s)) payload) :
    (c.applyReply tape.sink packet reply length s).1 = payload.length ∧
      (c.applyReply tape.sink packet reply length s).2.device =
        (c.runReply tape.sink packet reply (tape.opened length s)).machine.device ∧
      tape.sent (c.applyReply tape.sink packet reply length s).2.world =
        tape.sent s.world ++ (opening length ++ Hex.encode payload ++
          Hex.encode (Word.toBytes 2 (Crc.checksum c.config.crc payload).toNat)) := by
  have applied : c.applyReply tape.sink packet reply length s =
      let x := c.runReply tape.sink packet reply (tape.opened length s)
      let closing := Hex.encode (Word.toBytes 2 x.writer.crc.value.toNat)
      (x.writer.length, { x.machine with world := tape.sink.puts closing x.machine.world }) :=
    c.applyReply_eq tape.sink packet reply length s
  obtain ⟨writer, sent⟩ := wrote
  rw [applied]
  dsimp only
  refine ⟨congrArg Writer.length writer, rfl, ?_⟩
  rw [sent_puts, sent, writer, Crc.value_update]
  simp only [List.append_assoc]
  rfl

/-- The applying pass puts one frame into the sink, with the length that it was given. Its payload
begins with the header of the reply. -/
theorem sent_applyReply (packet : Packet) (reply : Reply) (length : UInt16) (s : Machine ω) :
    ∃ rest, let payload := (packet.header.reply s.device.address reply.command.code).encode ++ rest
      payload.length = c.replySize packet s reply ∧
      tape.sent (c.applyReply tape.sink packet reply length s).2.world =
        tape.sent s.world ++ (opening length ++ Hex.encode payload ++
          Hex.encode (Word.toBytes 2 (Crc.checksum c.config.crc payload).toNat)) := by
  let header := packet.header.reply s.device.address reply.command.code
  have keeps : c.ReplyKeeps tape.sink fun x => ∃ rest,
      tape.Wrote (tape.sent s.world ++ opening length) x (header.encode ++ rest) := by
    refine ⟨⟨?_, ?_⟩, ?_⟩
    · rintro field x ⟨rest, wrote⟩
      exact ⟨rest ++ field.encode, List.append_assoc .. ▸ wrote.write field⟩
    · rintro a access x ⟨rest, wrote⟩
      exact ⟨rest, wrote.look a access⟩
    · rintro cluster record change x - - ⟨rest, wrote⟩
      exact ⟨rest, wrote.change change⟩
  obtain ⟨rest, wrote⟩ := keeps.runReply_of_headed packet reply (tape.opened length s)
    ⟨[], List.append_nil header.encode ▸ (tape.wrote_opened length s).write (.header header)⟩
  obtain ⟨size, -, sent⟩ := tape.applyReply_of_wrote wrote
  exact ⟨rest, by rw [← size, c.applyReply_length], sent⟩

/-- A payload that a frame can announce makes a frame of its own length. -/
theorem frame_eq_wire {payload : List UInt8} (fits : payload.length ≤ Cube.maxReply) :
    opening (UInt16.ofNat payload.length) ++ Hex.encode payload ++
      Hex.encode (Word.toBytes 2 (Crc.checksum c.config.crc payload).toNat) =
        wire c.config.crc payload := by
  have announced : (UInt16.ofNat payload.length).toNat = payload.length :=
    UInt16.toNat_ofNat_of_lt' (Nat.lt_succ_of_le fits)
  unfold opening
  rw [announced]
  rfl

/-- Responding puts one frame into the sink, whose payload begins with the header of the reply. -/
theorem sent_respond_headed (packet : Packet) (reply : Reply) (s : Machine ω) :
    let sent := c.sentReply tape.sink packet reply s
    ∃ rest, let payload := (packet.header.reply s.device.address sent.command.code).encode ++ rest
      payload.length = (c.respond tape.sink packet reply s).1 ∧
      payload.length = c.replySize packet s sent ∧
      tape.sent (c.respond tape.sink packet reply s).2.world =
        tape.sent s.world ++ wire c.config.crc payload := by
  have fits := c.sentReply_size tape.sink packet reply s
  rw [c.respond_eq]
  generalize c.sentReply tape.sink packet reply s = sent at fits ⊢
  rw [c.countReply_length]
  obtain ⟨rest, length, framed⟩ := tape.sent_applyReply packet sent
    (UInt16.ofNat (c.replySize packet s sent)) s
  refine ⟨rest, ?_, length, ?_⟩
  · rw [c.applyReply_length, length]
  · rw [framed, ← length, frame_eq_wire (by rw [length]; exact fits)]

/-- Responding puts one frame into the sink. -/
theorem sent_respond (packet : Packet) (reply : Reply) (s : Machine ω) :
    ∃ payload, payload.length = (c.respond tape.sink packet reply s).1 ∧
      payload.length ≤ Cube.maxReply ∧
      tape.sent (c.respond tape.sink packet reply s).2.world =
        tape.sent s.world ++ wire c.config.crc payload := by
  obtain ⟨rest, length, size, sent⟩ := tape.sent_respond_headed packet reply s
  exact ⟨_, length, size ▸ c.sentReply_size tape.sink packet reply s, sent⟩

/-- Setting the clock puts nothing into the sink. -/
theorem sent_takeTimeReport (body : List UInt8) (w : ω) :
    tape.sent (c.takeTimeReport body w) = tape.sent w :=
  List.foldlRecOn (motive := fun world => tape.sent world = tape.sent w) _ _ rfl
    fun world h _ _ => (tape.untouched _).setZone _ _ ((tape.untouched _).setTime _ world h)

/-- Dispatching puts nothing into the sink, or one frame. -/
theorem sent_dispatch (payload : List UInt8) (s : Machine ω) :
    ∃ answer, (answer = [] ∨ ∃ reply, answer = wire c.config.crc reply) ∧
      tape.sent (c.dispatch tape.sink payload s).2.world = tape.sent s.world ++ answer := by
  have unsent : ∀ t : Machine ω, tape.sent t.world = tape.sent s.world →
      ∃ answer, (answer = [] ∨ ∃ reply, answer = wire c.config.crc reply) ∧
        tape.sent t.world = tape.sent s.world ++ answer :=
    fun t same => ⟨[], .inl rfl, by rw [List.append_nil, same]⟩
  unfold Cube.dispatch
  cases Packet.ofBytes? payload with
  | none => exact unsent s rfl
  | some packet =>
    dsimp only
    cases c.route s.device.address packet.header with
    | ignore => exact unsent s rfl
    | timeReport => exact unsent _ (tape.sent_takeTimeReport packet.body s.world)
    | reply reply =>
      obtain ⟨answer, -, -, sent⟩ := tape.sent_respond packet reply s
      exact ⟨_, .inr ⟨answer, rfl⟩, sent⟩

/-- The two passes of every reply are equally long, and what `dispatch` puts into an unbounded sink is
one frame around a payload of the reported length, or nothing when it reports no reply. -/
theorem dispatch_sends_one_frame (payload : List UInt8) (s : Machine ω) :
    (∀ packet reply length, (c.applyReply tape.sink packet reply length s).1 =
      (c.countReply tape.sink packet reply s).1) ∧
    match c.dispatch tape.sink payload s with
    | (.responded n, t) =>
      ∃ answer : List UInt8, answer.length = n ∧ n < 65536 ∧
        tape.sent t.world = tape.sent s.world ++ wire c.config.crc answer
    | (_, t) => tape.sent t.world = tape.sent s.world := by
  constructor
  · intro packet reply length
    rw [c.applyReply_length, c.countReply_length]
  · unfold Cube.dispatch
    cases Packet.ofBytes? payload with
    | none => rfl
    | some packet =>
      dsimp only
      cases c.route s.device.address packet.header with
      | ignore => rfl
      | timeReport => exact tape.sent_takeTimeReport packet.body s.world
      | reply reply =>
        obtain ⟨answer, length, fits, sent⟩ := tape.sent_respond packet reply s
        exact ⟨answer, length, by rw [← length]; exact Nat.lt_succ_of_le fits, sent⟩

end Tape

end VoxelCube
