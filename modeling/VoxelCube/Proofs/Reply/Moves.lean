/-
The moves of which a reply is made: writing an item, asking the store for a kept setting, and
carrying an accepted change out. What each of them keeps, `runReply` keeps in either pass and
`dispatch` keeps for every payload; the counting pass keeps the whole machine.
-/
import VoxelCube.Device.Dispatch
import VoxelCube.Proofs.Device.World

namespace VoxelCube

/-! ## Writing an item -/

namespace Exchange

variable {ω : Type} (sink : Sink ω) (field : Field) (x : Exchange ω)

/-- The counting pass only counts an item. -/
theorem write_count (h : x.writer.pass = .count) :
    x.write sink field =
      { x with writer := { x.writer with length := x.writer.length + field.encode.length } } := by
  unfold write Writer.write
  rw [Writer.pushes_count sink _ _ _ h]

/-- The applying pass sends the digits of an item and keeps its checksum. -/
theorem write_apply (h : x.writer.pass = .apply) :
    x.write sink field =
      { machine := { x.machine with world := sink.puts (Hex.encode field.encode) x.machine.world },
        writer := { x.writer with length := x.writer.length + field.encode.length,
                                  crc := x.writer.crc.update field.encode } } := by
  unfold write Writer.write
  rw [Writer.pushes_apply sink _ _ _ h]

@[simp] theorem write_pass : (x.write sink field).writer.pass = x.writer.pass := by
  cases h : x.writer.pass with
  | count => rw [write_count sink field x h]; exact h
  | apply => rw [write_apply sink field x h]; exact h

@[simp] theorem write_device : (x.write sink field).machine.device = x.machine.device := rfl

@[simp] theorem write_length :
    (x.write sink field).writer.length = x.writer.length + field.encode.length :=
  Writer.length_write sink field (x.writer, x.machine.world)

end Exchange

/-- The command in the header of a reply. -/
def Reply.command : Reply → Command
  | .read => .readAttributesResponse
  | .write => .writeAttributesResponse
  | .default _ _ => .defaultResponse

namespace Cube

variable {ω : Type} (c : Cube ω) (sink : Sink ω)

/-! ## Replies -/

/-- Answers the records of a write in order; also tells whether all of them were accepted. -/
def answerWrites (cluster : UInt16) (records : List WriteRecord) (y : Exchange ω × Bool) :
    Exchange ω × Bool :=
  records.foldl
    (fun (x, accepted) record =>
      let (x, ok) := c.answerWrite sink cluster x record
      (x, accepted && ok)) y

theorem answerWrites_cons (cluster : UInt16) (record : WriteRecord) (records : List WriteRecord)
    (y : Exchange ω × Bool) : c.answerWrites sink cluster (record :: records) y =
      c.answerWrites sink cluster records ((c.answerWrite sink cluster y.1 record).1,
        y.2 && (c.answerWrite sink cluster y.1 record).2) := rfl

theorem replyWrite_eq (packet : Packet) (x : Exchange ω) :
    c.replyWrite sink packet x =
      let header := packet.header.reply x.machine.device.address Command.writeAttributesResponse.code
      let cluster := packet.header.cluster
      let done := c.answerWrites sink cluster (writeRecords packet.body).1
        (x.write sink (.header header), true)
      let ended := answerEnding sink cluster (writeRecords packet.body).2 done.1
      if done.2 && ended.2 then ended.1.write sink (.u8 Status.success.code) else ended.1 := rfl

/-- An exchange that wrote the header of its reply. -/
def headed (packet : Packet) (reply : Reply) (x : Exchange ω) : Exchange ω :=
  x.write sink (.header (packet.header.reply x.machine.device.address reply.command.code))

/-- A property of exchanges that is not broken by writing an item or by asking for a kept setting. -/
structure ReplySpares (P : Exchange ω → Prop) : Prop where
  write : ∀ field x, P x → P (x.write sink field)
  look : ∀ a access x, P x →
    P { x with machine := { x.machine with world := (c.readAttribute a access x.writer.pass x.machine).2 } }

namespace ReplySpares

variable {c sink} {P : Exchange ω → Prop} (h : c.ReplySpares sink P)
include h

theorem answerRead (cluster : UInt16) (x : Exchange ω) (id : UInt16) (hx : P x) :
    P (c.answerRead sink cluster x id) := by
  have hid := h.write (.u16 id) x hx
  unfold Cube.answerRead
  cases Attribute.find? cluster id with
  | none => exact h.write _ _ hid
  | some a =>
    have looked := h.look a a.row.access _ hid
    dsimp only
    split
    · exact h.write _ _ (h.write _ _ (h.write _ _ looked))
    · exact h.write _ _ looked

theorem writeStatus (id : UInt16) (status : Status) (x : Exchange ω) (hx : P x) :
    P (x.writeStatus sink id status) :=
  h.write _ _ (h.write _ _ hx)

theorem answerEnding (cluster : UInt16) (ending : WriteEnding) (x : Exchange ω) (hx : P x) :
    P (answerEnding sink cluster ending x).1 := by
  unfold Cube.answerEnding
  split
  · exact hx
  · exact hx
  · exact h.writeStatus _ _ x hx
  · split
    · exact hx
    · exact h.writeStatus _ _ x hx

/-- A reply to anything but a write carries nothing out. -/
theorem runReply (packet : Packet) {reply : Reply} (still : reply ≠ .write) (x : Exchange ω)
    (opened : P (headed sink packet reply x)) : P (c.runReply sink packet reply x) := by
  cases reply with
  | read => exact List.foldlRecOn _ _ opened fun y hy id _ => h.answerRead _ y id hy
  | write => exact absurd rfl still
  | default command status =>
    unfold Cube.runReply
    exact h.write _ _ (h.write _ _ opened)

/-- A write reply is its header, the answers to the records and to the end, and maybe a success. -/
theorem replyWrite (packet : Packet) (x : Exchange ω)
    (answered : P (c.answerWrites sink packet.header.cluster (writeRecords packet.body).1
      (headed sink packet .write x, true)).1) : P (c.runReply sink packet .write x) := by
  have ended := h.answerEnding packet.header.cluster (writeRecords packet.body).2 _ answered
  unfold Cube.runReply
  dsimp only
  rw [replyWrite_eq]
  dsimp only
  split
  · exact h.write _ _ ended
  · exact ended

end ReplySpares

/-- A property of exchanges that no move of a reply breaks. -/
structure ReplyKeeps (P : Exchange ω → Prop) : Prop extends ReplySpares c sink P where
  change : ∀ cluster record change x, x.writer.pass = .apply → c.judge cluster record = .ok change →
    P x → P { x with machine := c.carryOut change x.machine }

namespace ReplyKeeps

variable {c sink} {P : Exchange ω → Prop} (h : c.ReplyKeeps sink P)
include h

theorem answerWrite (cluster : UInt16) (x : Exchange ω) (record : WriteRecord) (hx : P x) :
    P (c.answerWrite sink cluster x record).1 := by
  unfold Cube.answerWrite
  split
  · exact hx
  · rename_i judged pass
    exact h.change _ _ _ x pass judged hx
  · exact h.writeStatus _ _ x hx

theorem answerWrites (cluster : UInt16) (records : List WriteRecord) (y : Exchange ω × Bool)
    (hy : P y.1) : P (c.answerWrites sink cluster records y).1 :=
  List.foldlRecOn (motive := fun y : Exchange ω × Bool => P y.1) _ _ hy
    fun y hy record _ => h.answerWrite cluster y.1 record hy

/-- What the moves of a reply keep once it wrote its header, a whole reply keeps. -/
theorem runReply_of_headed (packet : Packet) (reply : Reply) (x : Exchange ω)
    (opened : P (headed sink packet reply x)) : P (c.runReply sink packet reply x) := by
  by_cases writes : reply = .write
  · subst writes
    exact h.replyWrite packet x (h.answerWrites _ _ (_, true) opened)
  · exact h.toReplySpares.runReply packet writes x opened

/-- What the moves of a reply keep, a whole reply keeps. -/
theorem runReply (packet : Packet) (reply : Reply) (x : Exchange ω) (hx : P x) :
    P (c.runReply sink packet reply x) :=
  h.runReply_of_headed packet reply x (h.write _ x hx)

end ReplyKeeps

/-! ## The two passes -/

theorem readAttribute_count (a : Attribute) (access : Access) (s : Machine ω) :
    (c.readAttribute a access .count s).2 = s.world := by
  unfold readAttribute
  split
  · cases a <;> rfl
  · rfl

theorem runReply_pass (packet : Packet) (reply : Reply) (x : Exchange ω) :
    (c.runReply sink packet reply x).writer.pass = x.writer.pass := by
  have keeps : c.ReplyKeeps sink fun y => y.writer.pass = x.writer.pass :=
    ⟨⟨fun _ _ hy => (Exchange.write_pass ..).trans hy, fun _ _ _ hy => hy⟩, fun _ _ _ _ _ _ hy => hy⟩
  exact keeps.runReply packet reply x rfl

/-- The counting pass leaves the machine as it was. -/
theorem runReply_count (packet : Packet) (reply : Reply) (x : Exchange ω)
    (h : x.writer.pass = .count) : (c.runReply sink packet reply x).machine = x.machine := by
  have keeps : c.ReplyKeeps sink fun y => y.writer.pass = .count ∧ y.machine = x.machine := by
    refine ⟨⟨fun field y hy => ?_, fun a access y hy => ?_⟩, fun _ _ _ y pass _ hy => ?_⟩
    · refine ⟨(Exchange.write_pass ..).trans hy.1, ?_⟩
      rw [Exchange.write_count sink field y hy.1]
      exact hy.2
    · refine ⟨hy.1, ?_⟩
      dsimp only
      rw [hy.1, readAttribute_count]
      exact hy.2
    · rw [hy.1] at pass
      cases pass
  exact (keeps.runReply packet reply x ⟨h, rfl⟩).2

@[simp] theorem countReply_machine (packet : Packet) (reply : Reply) (s : Machine ω) :
    (c.countReply sink packet reply s).2 = s :=
  c.runReply_count sink packet reply _ rfl

/-- The applying pass opens the frame, makes the reply, and closes the frame with its checksum. -/
theorem applyReply_eq (packet : Packet) (reply : Reply) (length : UInt16) (s : Machine ω) :
    c.applyReply sink packet reply length s =
      let opening := ['S'.toUInt8, '0'.toUInt8] ++ Hex.encode (Word.toBytes 2 length.toNat)
      let x := c.runReply sink packet reply
        { machine := { s with world := sink.puts opening s.world },
          writer := .new .apply c.config.crc }
      let closing := Hex.encode (Word.toBytes 2 x.writer.crc.value.toNat)
      (x.writer.length, { x.machine with world := sink.puts closing x.machine.world }) := by
  have pass := fun machine =>
    c.runReply_pass sink packet reply { machine, writer := .new .apply c.config.crc }
  unfold applyReply
  dsimp only [Writer.begin, Writer.finish, Writer.new] at pass ⊢
  rw [pass]

/-- The reply that is sent: the one asked for, or a failure when no frame can announce that. -/
def sentReply (packet : Packet) (reply : Reply) (s : Machine ω) : Reply :=
  if (c.countReply sink packet reply s).1 ≤ maxReply then reply
  else .default packet.header.command .failure

theorem respond_eq (packet : Packet) (reply : Reply) (s : Machine ω) :
    c.respond sink packet reply s =
      c.applyReply sink packet (c.sentReply sink packet reply s)
        (UInt16.ofNat (c.countReply sink packet (c.sentReply sink packet reply s) s).1) s := by
  unfold respond sentReply
  dsimp only
  split <;> simp

/-! ## Messages -/

/-- A property of machines that no move of a message breaks. -/
structure Keeps (P : Machine ω → Prop) : Prop where
  put : ∀ byte s, P s → P { s with world := sink byte s.world }
  readPlaylist : ∀ s, P s → P { s with world := (c.board.readPlaylist s.world).2 }
  readEffect : ∀ s, P s → P { s with world := (c.board.readEffect s.world).2 }
  change : ∀ cluster record change s, c.judge cluster record = .ok change → P s →
    P (c.carryOut change s)
  setTime : ∀ seconds s, P s → P { s with world := c.board.setTime seconds s.world }
  setZone : ∀ offset s, P s → P { s with world := c.board.setZone offset s.world }

variable {c sink} {P : Machine ω → Prop}

/-- A property that no read of a record breaks need not tell the records apart. -/
theorem Keeps.of_reads (put : ∀ byte s, P s → P { s with world := sink byte s.world })
    (read : ∀ key room s, P s → P { s with world := (c.board.read key room s.world).2 })
    (change : ∀ cluster record change s, c.judge cluster record = .ok change → P s →
      P (c.carryOut change s))
    (setTime : ∀ seconds s, P s → P { s with world := c.board.setTime seconds s.world })
    (setZone : ∀ offset s, P s → P { s with world := c.board.setZone offset s.world }) :
    c.Keeps sink P := by
  refine ⟨put, fun s hs => ?_, fun s hs => ?_, change, setTime, setZone⟩
  · rw [Board.readPlaylist_eq]
    exact read _ _ s hs
  · rw [Board.readEffect_eq]
    exact read _ _ s hs

theorem Keeps.readAttribute (h : c.Keeps sink P) (a : Attribute) (access : Access) (pass : Pass)
    (s : Machine ω) (hs : P s) : P { s with world := (c.readAttribute a access pass s).2 } := by
  unfold Cube.readAttribute
  split
  · split
    · dsimp only
      rw [storedPlaylist_world]
      exact h.readPlaylist s hs
    · dsimp only
      rw [storedEffect_world]
      exact h.readEffect s hs
    · exact hs
  · exact hs

theorem Keeps.puts (h : c.Keeps sink P) (bytes : List UInt8) (s : Machine ω) (hs : P s) :
    P { s with world := sink.puts bytes s.world } :=
  List.foldlRecOn (motive := fun world => P { s with world }) _ _ hs
    fun world hw byte _ => h.put byte { s with world } hw

theorem Keeps.applyReply (h : c.Keeps sink P) (packet : Packet) (reply : Reply) (length : UInt16)
    (s : Machine ω) (hs : P s) : P (c.applyReply sink packet reply length s).2 := by
  have keeps : c.ReplyKeeps sink fun y => y.writer.pass = .apply ∧ P y.machine := by
    refine ⟨⟨fun field y hy => ?_, fun a access y hy => ?_⟩, fun cluster record change y _ judged hy => ?_⟩
    · rw [Exchange.write_apply sink field y hy.1]
      exact ⟨hy.1, h.puts _ _ hy.2⟩
    · exact ⟨hy.1, h.readAttribute a access _ _ hy.2⟩
    · exact ⟨hy.1, h.change cluster record change _ judged hy.2⟩
  rw [applyReply_eq]
  exact h.puts _ _ (keeps.runReply packet reply _ ⟨rfl, h.puts _ s hs⟩).2

/-- What the moves of a message keep, `dispatch` keeps for every payload. -/
theorem Keeps.dispatch (h : c.Keeps sink P) (payload : List UInt8) (s : Machine ω) (hs : P s) :
    P (c.dispatch sink payload s).2 := by
  unfold Cube.dispatch
  split
  · exact hs
  · split
    · exact hs
    · exact List.foldlRecOn (motive := fun world => P { s with world }) _ _ hs
        fun world hw record _ => h.setZone _ _ (h.setTime _ { s with world } hw)
    · dsimp only
      rw [respond_eq]
      exact h.applyReply _ _ _ s hs

end Cube

end VoxelCube
