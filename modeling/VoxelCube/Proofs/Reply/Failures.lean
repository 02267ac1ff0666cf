/-
Failures stay apart. Two cubes that differ in nothing but their boards, and these in nothing but what the
stores, the line and its flushes answer, take the same bytes in the same way: the devices and the receivers
go on as one, the clocks and the power are set alike, and the same bytes are sent, except that the replies
to reads may tell different kept playlists and effects, each in its one byte, and end with the checksums
that belong to them.
-/
import VoxelCube.MainLoop
import VoxelCube.Proofs.Reply.Alike

namespace VoxelCube

open Link

/-! ## What may differ on the line -/

/-- Two runs of bytes on the line are the same but for the payloads of frames that are alike. -/
inductive AlikeLine (variant : Crc.Variant) : List UInt8 → List UInt8 → Prop where
  | nil : AlikeLine variant [] []
  | same (bytes : List UInt8) {rest rest' : List UInt8} (more : AlikeLine variant rest rest') :
    AlikeLine variant (bytes ++ rest) (bytes ++ rest')
  | frame {payload payload' rest rest' : List UInt8} (alike : AlikeReply payload payload')
    (more : AlikeLine variant rest rest') :
    AlikeLine variant (wire variant payload ++ rest) (wire variant payload' ++ rest')

theorem length_wire (variant : Crc.Variant) (payload : List UInt8) :
    (wire variant payload).length = 10 + 2 * payload.length := by
  simp [wire, Hex.length_encode]
  omega

theorem AlikeLine.length_eq {variant : Crc.Variant} {sent sent' : List UInt8}
    (h : AlikeLine variant sent sent') : sent'.length = sent.length := by
  induction h with
  | nil => rfl
  | same bytes _ ih => rw [List.length_append, List.length_append, ih]
  | frame alike _ ih =>
    rw [List.length_append, List.length_append, ih, length_wire, length_wire, alike.length_eq]

theorem AlikeLine.append {variant : Crc.Variant} {sent sent' more more' : List UInt8}
    (h : AlikeLine variant sent sent') (next : AlikeLine variant more more') :
    AlikeLine variant (sent ++ more) (sent' ++ more') := by
  induction h with
  | nil => exact next
  | same bytes _ ih =>
    rw [List.append_assoc, List.append_assoc]
    exact .same bytes ih
  | frame alike _ ih =>
    rw [List.append_assoc, List.append_assoc]
    exact .frame alike ih

/-! ## Messages on two boards -/

section Messages

variable {ω : Type} {b b' : Board ω} {R : ω → ω → Prop} {outbox : Outbox b} {outbox' : Outbox b'}
  (twins : b.Twins b' R)

/-- Worlds that agree came to worlds that agree, and what was sent in between is alike. -/
structure Alongside (R : ω → ω → Prop) (outbox : Outbox b) (outbox' : Outbox b') (variant : Crc.Variant)
    (w w' v v' : ω) : Prop where
  agree : R v v'
  sent : ∃ line line', AlikeLine variant line line' ∧ outbox.sent v = outbox.sent w ++ line ∧
    outbox'.sent v' = outbox'.sent w' ++ line'

namespace Alongside

variable {variant : Crc.Variant} {w w' v v' u u' : ω}

theorem of_same (agree : R v v') (line : List UInt8) (sent : outbox.sent v = outbox.sent w ++ line)
    (sent' : outbox'.sent v' = outbox'.sent w' ++ line) : Alongside R outbox outbox' variant w w' v v' := by
  have same : AlikeLine variant (line ++ []) (line ++ []) := .same line .nil
  rw [List.append_nil] at same
  exact ⟨agree, line, line, same, sent, sent'⟩

theorem of_silent (agree : R v v') (sent : outbox.sent v = outbox.sent w)
    (sent' : outbox'.sent v' = outbox'.sent w') : Alongside R outbox outbox' variant w w' v v' :=
  .of_same agree [] (sent.trans (List.append_nil _).symm) (sent'.trans (List.append_nil _).symm)

theorem refl (agree : R w w') : Alongside R outbox outbox' variant w w' w w' := .of_silent agree rfl rfl

theorem trans (h : Alongside R outbox outbox' variant w w' v v')
    (next : Alongside R outbox outbox' variant v v' u u') :
    Alongside R outbox outbox' variant w w' u u' := by
  obtain ⟨-, line, line', alike, sent, sent'⟩ := h
  obtain ⟨agree, more, more', alike', went, went'⟩ := next
  refine ⟨agree, line ++ more, line' ++ more', alike.append alike', ?_, ?_⟩
  · rw [went, sent, List.append_assoc]
  · rw [went', sent', List.append_assoc]

end Alongside

namespace Board.Twins

variable (outbox outbox') {w w' : ω}
include twins

theorem alongside_puts (variant : Crc.Variant) (bytes : List UInt8) (h : R w w') :
    Alongside R outbox outbox' variant w w' (b.puts bytes w) (b'.puts bytes w') :=
  .of_same (twins.puts rfl h) bytes (outbox.sent_puts bytes w) (outbox'.sent_puts bytes w')

theorem alongside_drain (variant : Crc.Variant) (h : R w w') :
    Alongside R outbox outbox' variant w w' (b.drain w) (b'.drain w') :=
  .of_silent (twins.flush h) (outbox.sent_flush w) (outbox'.sent_flush w')

/-- A message is taken in the same way on both boards. -/
theorem dispatch (c : Cube ω) (payload : List UInt8) {s s' : Machine ω} (h : s.Agree R s') :
    let t := ((c.on b).dispatch b.put payload s).2
    let t' := ((c.on b').dispatch b'.put payload s').2
    t'.device = t.device ∧
      Alongside R outbox outbox' c.config.crc s.world s'.world t.world t'.world := by
  unfold Cube.dispatch
  cases Packet.ofBytes? payload with
  | none => exact ⟨h.device, .refl h.world⟩
  | some packet =>
    dsimp only
    rw [h.device, show (c.on b').route = (c.on b).route from rfl]
    cases (c.on b).route s.device.address packet.header with
    | ignore => exact ⟨h.device, .refl h.world⟩
    | timeReport =>
      exact ⟨rfl, .of_silent (twins.takeTimeReport c packet.body h.world)
        (Tape.sent_takeTimeReport (c := c.on b) outbox.tape packet.body s.world)
        (Tape.sent_takeTimeReport (c := c.on b') outbox'.tape packet.body s'.world)⟩
    | reply reply =>
      obtain ⟨agree, payload, payload', alike, sent, sent'⟩ :=
        twins.respond c outbox outbox' h packet reply
      have line : AlikeLine c.config.crc (wire c.config.crc payload ++ [])
          (wire c.config.crc payload' ++ []) := .frame alike .nil
      rw [List.append_nil, List.append_nil] at line
      exact ⟨agree.device, agree.world, _, _, line, sent, sent'⟩

/-! ## Main loops on two boards -/

theorem takeEvent (c : Cube ω) (event : Event) (l : MainLoop ω) (h : R l.world w') :
    ∃ v', (c.on b').takeEvent event { l with world := w' } =
        { (c.on b).takeEvent event l with world := v' } ∧
      Alongside R outbox outbox' c.config.crc l.world w' ((c.on b).takeEvent event l).world v' := by
  cases event with
  | frame payload =>
    have acked := twins.alongside_puts outbox outbox' c.config.crc [ackOctet] h
    have start : Machine.Agree R { l.toMachine with world := b.put ackOctet l.world }
        { l.toMachine with world := b'.put ackOctet w' } := ⟨rfl, acked.agree⟩
    obtain ⟨device, taken⟩ := twins.dispatch outbox outbox' c payload start
    unfold Cube.takeEvent
    dsimp only
    generalize ((c.on b).dispatch b.put payload _).2 = t at device taken ⊢
    generalize ((c.on b').dispatch b'.put payload _).2 = t' at device taken ⊢
    have drained := twins.alongside_drain outbox outbox' c.config.crc taken.agree
    exact ⟨b'.drain t'.world, by rw [device], (acked.trans taken).trans drained⟩
  | ack | nak => exact ⟨w', rfl, .refl h⟩
  | probe =>
    have told := twins.alongside_puts outbox outbox' c.config.crc
      (identity (textBytes c.config.identity.text) l.device.address) h
    exact ⟨_, rfl, told.trans (twins.alongside_drain outbox outbox' c.config.crc told.agree)⟩

theorem takeByte (c : Cube ω) (byte : UInt8) (l : MainLoop ω) (h : R l.world w') :
    ∃ v', (c.on b').takeByte byte { l with world := w' } =
        { (c.on b).takeByte byte l with world := v' } ∧
      Alongside R outbox outbox' c.config.crc l.world w' ((c.on b).takeByte byte l).world v' := by
  unfold Cube.takeByte
  dsimp only
  rcases l.receiver.feed c.config.crc byte with ⟨receiver, none | fault | event⟩
  · exact ⟨w', rfl, .refl h⟩
  · exact ⟨_, rfl, twins.alongside_puts outbox outbox' c.config.crc [fault.reply] h⟩
  · exact twins.takeEvent outbox outbox' c event { l with receiver } h

/-- As many bytes are taken from the one line as from the other, in the same way. -/
theorem takeBytes (c : Cube ω) (budget : Nat) (l : MainLoop ω) (h : R l.world w') :
    ∃ v', (c.on b').takeBytes budget { l with world := w' } =
        { (c.on b).takeBytes budget l with world := v' } ∧
      Alongside R outbox outbox' c.config.crc l.world w' ((c.on b).takeBytes budget l).world v' := by
  induction budget generalizing l w' with
  | zero => exact ⟨w', rfl, .refl h⟩
  | succ budget ih =>
    obtain ⟨same, agree⟩ := twins.receive h
    have heard : Alongside R outbox outbox' c.config.crc l.world w' (b.receive l.world).2
        (b'.receive w').2 :=
      .of_silent agree (outbox.sent_receive l.world) (outbox'.sent_receive w')
    unfold Cube.takeBytes
    dsimp only
    rcases first : b.receive l.world with ⟨byte, world⟩
    rcases second : b'.receive w' with ⟨byte', world'⟩
    rw [first, second] at same agree heard
    obtain rfl : byte' = byte := same
    cases byte' with
    | none => exact ⟨world', rfl, heard⟩
    | some byte =>
      obtain ⟨v', took, taken⟩ := twins.takeByte outbox outbox' c byte { l with world } agree
      obtain ⟨u', rest, others⟩ := ih ((c.on b).takeByte byte { l with world }) taken.agree
      refine ⟨u', ?_, (heard.trans taken).trans others⟩
      dsimp only
      rw [took]
      exact rest

end Board.Twins

end Messages

/-! ## Recorded boards -/

/-- The call sets the clock or switches the power. -/
def Call.commands {ν : Type} : Call ν → Bool
  | .setTime _ | .setZone _ | .powerUp | .powerDown => true
  | _ => false

section Recorded

variable {ω ν : Type} {b b' : Board ω} {R : ω → ω → Prop} {w w' : Recorded ω ν}

/-- Two recorded worlds that agree, on which the same commands were recorded since they stood at `start`
and `start'`. -/
structure CommandedAlike (R : ω → ω → Prop) (start start' w w' : Recorded ω ν) : Prop where
  world : R w.world w'.world
  calls : ∃ calls calls', w.calls = start.calls ++ calls ∧ w'.calls = start'.calls ++ calls' ∧
    calls'.filter Call.commands = calls.filter Call.commands

theorem CommandedAlike.record {start start' : Recorded ω ν} (h : CommandedAlike R start start' w w')
    {v v' : ω} (agree : R v v') {call call' : Call ν}
    (same : [call'].filter Call.commands = [call].filter Call.commands) :
    CommandedAlike R start start' (Recorded.record { w with world := v } call)
      (Recorded.record { w' with world := v' } call') := by
  obtain ⟨calls, calls', told, told', commands⟩ := h.calls
  refine ⟨agree, calls ++ [call], calls' ++ [call'], ?_, ?_, ?_⟩
  · rw [Recorded.calls_record, ← List.append_assoc]
    exact congrArg (· ++ [call]) told
  · rw [Recorded.calls_record, ← List.append_assoc]
    exact congrArg (· ++ [call']) told'
  · rw [List.filter_append, List.filter_append, commands, same]

/-- Recording the calls of boards that differ in their luck keeps them so. -/
theorem Board.Twins.recorded (twins : b.Twins b' R) (start start' : Recorded ω ν) :
    b.recorded.Twins b'.recorded (CommandedAlike R start start') where
  read key room _ _ h := h.record (twins.read key room h.world) rfl
  write key record _ _ h := h.record (twins.write key record h.world) rfl
  now h := twins.now h.world
  zone h := twins.zone h.world
  setTime seconds _ _ h := h.record (twins.setTime seconds h.world) rfl
  setZone offset _ _ h := h.record (twins.setZone offset h.world) rfl
  powerUp h := h.record (twins.powerUp h.world) rfl
  powerDown h := h.record (twins.powerDown h.world) rfl
  receive h := ⟨(twins.receive h.world).1, (twins.receive h.world).2, h.calls⟩
  send byte byte' _ _ h := h.record (twins.send byte byte' h.world) rfl
  flush h := h.record (twins.flush h.world) rfl

/-- **Failures stay apart.** Two main loops that differ in nothing but their boards take what waits on
their lines in the same way, whatever their stores, lines and flushes answer: afterwards they differ in
their worlds alone, which still agree, and their boards were given the same commands for the clock and the
power. The same bytes were sent, but for replies to reads, which are alike entry by entry: each entry is
the same or tells another number of a kept attribute. -/
theorem failures_stay_apart (twins : b.Twins b' R) (c : Cube (Recorded ω ν))
    (l : MainLoop (Recorded ω ν)) (agree : R l.world.world w'.world) :
    let t := (c.on b.recorded).processSerial l
    let t' := (c.on b'.recorded).processSerial { l with world := w' }
    t' = { t with world := t'.world } ∧ R t.world.world t'.world.world ∧
      ∃ calls calls', t.world.calls = l.world.calls ++ calls ∧ t'.world.calls = w'.calls ++ calls' ∧
        calls'.filter Call.commands = calls.filter Call.commands ∧
        AlikeLine c.config.crc (calls.filterMap Call.sent?) (calls'.filterMap Call.sent?) ∧
        (calls'.filterMap Call.sent?).length = (calls.filterMap Call.sent?).length := by
  intro t t'
  have start : CommandedAlike R l.world w' l.world w' :=
    ⟨agree, [], [], (List.append_nil _).symm, (List.append_nil _).symm, rfl⟩
  obtain ⟨v', took, taken⟩ := (twins.recorded l.world w').takeBytes b.outbox b'.outbox c
    Cube.serialBudget l start
  have end' : t' = { t with world := v' } := took
  obtain ⟨world, calls, calls', told, told', commands⟩ := taken.agree
  obtain ⟨line, line', alike, sent, sent'⟩ := taken.sent
  -- what was sent is what the calls say that are new
  have line_eq : line = calls.filterMap Call.sent? := by
    have all : t.world.calls.filterMap Call.sent? = l.world.calls.filterMap Call.sent? ++ line := sent
    rw [show t.world.calls = l.world.calls ++ calls from told, List.filterMap_append] at all
    exact (List.append_cancel_left all).symm
  have line_eq' : line' = calls'.filterMap Call.sent? := by
    have all : v'.calls.filterMap Call.sent? = w'.calls.filterMap Call.sent? ++ line' := sent'
    rw [told', List.filterMap_append] at all
    exact (List.append_cancel_left all).symm
  subst line_eq line_eq'
  rw [end']
  exact ⟨rfl, world, calls, calls', told, told', commands, alike, alike.length_eq⟩

end Recorded

namespace Bench

/-- A memory whose store, line and flushes fail every time. -/
def brokenBoard : Board Memory :=
  { Memory.board with
    read := fun _ _ m => (.error .storage, m)
    write := fun _ _ m => (.error .storage, m)
    send := fun _ m => (false, m)
    flush := fun m => (false, m) }

/-- Two memories that differ in their records alone. -/
def SameButRecords (m m' : Memory) : Prop := ∃ records, m' = { m with records }

theorem brokenBoard_twins : Memory.board.Twins brokenBoard SameButRecords where
  read key room := by
    rintro m _ ⟨records, rfl⟩
    exact ⟨records, by rw [show (Memory.board.read key room m).2 = m from Memory.read_snd key room m]; rfl⟩
  write key record := by
    rintro m _ ⟨records, rfl⟩
    refine ⟨records, ?_⟩
    show { m with records } = { (Memory.write key record m).2 with records }
    unfold Memory.write
    split <;> rfl
  now := by
    rintro m _ ⟨records, rfl⟩
    rfl
  zone := by
    rintro m _ ⟨records, rfl⟩
    rfl
  setTime seconds := by
    rintro m _ ⟨records, rfl⟩
    exact ⟨records, rfl⟩
  setZone offset := by
    rintro m _ ⟨records, rfl⟩
    exact ⟨records, rfl⟩
  powerUp h := h
  powerDown h := h
  receive := by
    rintro m _ ⟨records, rfl⟩
    rcases m with ⟨_, _, _, _, _, _, inbox, fails, _, _, _, _, _⟩
    cases fails with
    | true => exact ⟨rfl, records, rfl⟩
    | false => cases inbox <;> exact ⟨rfl, records, rfl⟩
  send _ _ _ _ h := h
  flush h := h

/-- A read of the playlist, the effect and the mode of the sample cube. -/
def keptRead : List UInt8 :=
  (sampleHeader .readAttributes).encode ++ [0x03, 0x00, 0x09, 0x00, 0x01, 0x00]

/-- A main loop that keeps a playlist and an effect other than its own, and is asked for both. -/
def keptLoop : MainLoop World :=
  let records := (({} : Memory).put .playlist (some [1])).put .effect (some [3])
  sampleCube.mainLoop { world := { records with inbox := wire sampleCube.config.crc keptRead } }

/-- Its world with nothing stored. -/
def wipedWorld : World :=
  { keptLoop.world with world := { keptLoop.world.world with records := .replicate 5 none } }

/-- On a broken board, its records lost, it answers as on a good one, but with its own playlist and
effect. -/
theorem keptLoop_alike :
    let t := (sampleCube.on Memory.board.recorded).processSerial keptLoop
    let t' := (sampleCube.on brokenBoard.recorded).processSerial { keptLoop with world := wipedWorld }
    t'.device = t.device ∧ t'.receiver = t.receiver ∧
      t'.world.calls.filterMap Call.sent? ≠ t.world.calls.filterMap Call.sent? ∧
      AlikeLine sampleCube.config.crc (t.world.calls.filterMap Call.sent?)
        (t'.world.calls.filterMap Call.sent?) := by
  have agree : SameButRecords keptLoop.world.world wipedWorld.world := ⟨.replicate 5 none, rfl⟩
  obtain ⟨same, -, calls, calls', told, told', -, alike, -⟩ :=
    failures_stay_apart brokenBoard_twins sampleCube keptLoop agree
  rw [show keptLoop.world.calls = [] from rfl, List.nil_append] at told
  rw [show wipedWorld.calls = [] from rfl, List.nil_append] at told'
  rw [← told, ← told'] at alike
  have device := congrArg (fun l : MainLoop World => l.device) same
  have receiver := congrArg (fun l : MainLoop World => l.receiver) same
  dsimp only [World] at device receiver ⊢
  exact ⟨device, receiver, by decide +kernel, alike⟩

end Bench

end VoxelCube
