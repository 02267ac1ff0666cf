/-
What a message changes. Whatever a device sends and reads on its way, a message comes down to the changes
that it asks for, carried out in their order: the accepted records of a write that is replied to, the
times and offsets of a time report, and nothing else. Which ones these are depends on the message, and
for the device only on its address, by which it may ignore the message.
-/
import VoxelCube.Proofs.Reply.Framing

namespace VoxelCube.Cube

/-! ## The changes of a message -/

section Changes

variable {ω : Type} (c : Cube ω)

/-- The changes that the records of a write ask for; a record that is refused asks for none. -/
def asked (cluster : UInt16) (records : List WriteRecord) : List Change :=
  records.filterMap fun record => (c.judge cluster record).toOption

/-- The changes that a time report asks for. -/
def reported (body : List UInt8) : List Change :=
  (TimeRecord.readAll body).flatMap fun record => [.time record.seconds, .zone record.zone]

/-- The changes that a reply makes on its way. -/
def replied (packet : Packet) : Reply → List Change
  | .write => c.asked packet.header.cluster (writeRecords packet.body).1
  | .read | .default _ _ => []

/-- The changes that a message makes at a machine; a reply that no frame can announce makes none. -/
def changes (payload : List UInt8) (s : Machine ω) : List Change :=
  match Packet.ofBytes? payload with
  | none => []
  | some packet =>
    match c.route s.device.address packet.header with
    | .ignore => []
    | .timeReport => reported packet.body
    | .reply reply => if c.replySize packet s reply ≤ maxReply then c.replied packet reply else []

/-- A message goes to a device with another address as it goes to this one, unless it is ignored. -/
theorem route_or_ignore (h : Header) (address : UInt64) :
    c.route address h = .ignore ∨ c.route address h = c.route h.address h := by
  by_cases addressed : isAddressed address h = true
  · have known : isAddressed h.address h = true := by
      simp only [isAddressed, Bool.and_eq_true, Bool.or_eq_true] at addressed ⊢
      exact ⟨⟨addressed.1.1, .inl (by simp)⟩, addressed.2⟩
    right
    unfold route
    rw [addressed, known]
  · left
    unfold route
    simp [addressed]

variable {c} {s t : Machine ω} {payload : List UInt8} {packet : Packet}

theorem changes_of_route (parsed : Packet.ofBytes? payload = some packet)
    (same : c.route s.device.address packet.header = c.route t.device.address packet.header) :
    c.changes payload s = c.changes payload t := by
  unfold changes
  rw [parsed]
  dsimp only
  rw [same]
  rcases c.route t.device.address packet.header with _ | _ | (_ | _ | ⟨command, status⟩)
  · rfl
  · rfl
  · simp [replied]
  · rfl
  · simp [replied]

theorem changes_congr (same : s.device.address = t.device.address) :
    c.changes payload s = c.changes payload t := by
  cases parsed : Packet.ofBytes? payload with
  | none => simp [changes, parsed]
  | some packet => exact changes_of_route parsed (by rw [same])

/-- Where a message makes other changes than at another machine, one of the two ignores it. -/
theorem changes_eq_of_ne_nil (some : c.changes payload s ≠ []) (other : c.changes payload t ≠ []) :
    c.changes payload s = c.changes payload t := by
  cases parsed : Packet.ofBytes? payload with
  | none => simp [changes, parsed]
  | some packet =>
    have heard : ∀ u : Machine ω, c.changes payload u ≠ [] →
        c.route u.device.address packet.header = c.route packet.header.address packet.header := by
      intro u changed
      refine (c.route_or_ignore packet.header u.device.address).resolve_left fun ignored => changed ?_
      simp [changes, parsed, ignored]
    exact changes_of_route parsed ((heard s some).trans (heard t other).symm)

end Changes

/-! ## Carrying a message out -/

variable {ω : Type} {c : Cube ω} {sink : Sink ω} {P : List Change → Machine ω → Prop}

/-- A property of machines and of the changes that were made, which every change carries on, and which
neither sending nor reading breaks. -/
structure Tracks (c : Cube ω) (sink : Sink ω) (P : List Change → Machine ω → Prop) : Prop where
  put : ∀ byte made s, P made s → P made { s with world := sink byte s.world }
  read : ∀ key room made s, P made s → P made { s with world := (c.board.read key room s.world).2 }
  change : ∀ change made s, P made s → P (made ++ [change]) (c.carryOut change s)

namespace Tracks

variable (k : c.Tracks sink P) {made : List Change}
include k

theorem puts (bytes : List UInt8) {s : Machine ω} (hs : P made s) :
    P made { s with world := sink.puts bytes s.world } :=
  List.foldlRecOn (motive := fun world => P made { s with world }) _ _ hs
    fun world hw byte _ => k.put byte made { s with world } hw

/-- What an applying pass does apart from its changes. -/
theorem spares (made : List Change) :
    c.ReplySpares sink fun x => x.writer.pass = .apply ∧ P made x.machine := by
  refine ⟨fun field x hx => ?_, fun a access x hx => ⟨hx.1, ?_⟩⟩
  · rw [Exchange.write_apply sink field x hx.1]
    exact ⟨hx.1, k.puts _ hx.2⟩
  · rcases c.readAttribute_world x.machine a access x.writer.pass with same | ⟨key, room, read⟩
    · rw [same]
      exact hx.2
    · rw [read]
      exact k.read key room made x.machine hx.2

theorem answerWrites (cluster : UInt16) (records : List WriteRecord) {y : Exchange ω × Bool}
    (hy : y.1.writer.pass = .apply ∧ P made y.1.machine) :
    (c.answerWrites sink cluster records y).1.writer.pass = .apply ∧
      P (made ++ c.asked cluster records) (c.answerWrites sink cluster records y).1.machine := by
  induction records generalizing y made with
  | nil =>
    rw [asked, List.filterMap_nil, List.append_nil]
    exact hy
  | cons record rest ih =>
    rw [c.answerWrites_cons]
    unfold asked answerWrite
    cases judged : c.judge cluster record with
    | error status =>
      rw [List.filterMap_cons_none (by rw [judged]; rfl)]
      exact ih ((k.spares made).writeStatus record.id status y.1 hy)
    | ok change =>
      rw [List.filterMap_cons_some (b := change) (by rw [judged]; rfl), List.append_cons, hy.1]
      exact ih ⟨hy.1, k.change change made y.1.machine hy.2⟩

theorem runReply (packet : Packet) (reply : Reply) {x : Exchange ω}
    (hx : x.writer.pass = .apply ∧ P made x.machine) :
    P (made ++ c.replied packet reply) (c.runReply sink packet reply x).machine := by
  have opened := (k.spares made).write (.header (packet.header.reply x.machine.device.address
    reply.command.code)) x hx
  cases reply with
  | write =>
    exact ((k.spares _).replyWrite packet x (k.answerWrites _ _ (y := (_, true)) opened)).2
  | read | default command status =>
    rw [replied, List.append_nil]
    exact ((k.spares made).runReply packet (by rintro ⟨⟩) x opened).2

theorem applyReply (packet : Packet) (reply : Reply) (length : UInt16) {s : Machine ω}
    (hs : P made s) :
    P (made ++ c.replied packet reply) (c.applyReply sink packet reply length s).2 := by
  rw [applyReply_eq]
  exact k.puts _ (k.runReply packet reply ⟨rfl, k.puts _ hs⟩)

theorem takeTimeReport (body : List UInt8) {s : Machine ω} (hs : P made s) :
    P (made ++ reported body) { s with world := c.takeTimeReport body s.world } := by
  unfold Cube.takeTimeReport reported
  induction TimeRecord.readAll body generalizing s made with
  | nil =>
    rw [List.flatMap_nil, List.append_nil]
    exact hs
  | cons record rest ih =>
    have timed := k.change (.time record.seconds) made s hs
    have zoned := k.change (.zone record.zone) _ _ timed
    rw [List.flatMap_cons, ← List.append_assoc, List.append_cons made]
    exact ih zoned

/-- A message comes down to its changes. -/
theorem dispatch (payload : List UInt8) {s : Machine ω} (hs : P made s) :
    P (made ++ c.changes payload s) (c.dispatch sink payload s).2 := by
  unfold Cube.dispatch changes
  cases Packet.ofBytes? payload with
  | none => simpa using hs
  | some packet =>
    dsimp only
    cases c.route s.device.address packet.header with
    | ignore => simpa using hs
    | timeReport => exact k.takeTimeReport packet.body hs
    | reply reply =>
      dsimp only
      rw [c.respond_eq, ← c.countReply_length sink]
      unfold sentReply
      split
      · exact k.applyReply packet reply _ hs
      · exact k.applyReply packet (.default packet.header.command .failure) _ hs

end Tracks

end VoxelCube.Cube
