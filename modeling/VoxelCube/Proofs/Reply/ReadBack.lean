/-
Reading what was written. A device that answers a write with success has taken the value, and whoever
reads the attribute afterwards is told it, until the attribute is written again: each value goes its own
way, into the device, a record of the store or the clock, and comes back from there. Nobody is told
anything else of the other attributes than before.
-/
import VoxelCube.Proofs.Link.Digits
import VoxelCube.Proofs.Reply.Reports

namespace VoxelCube

open Link Store

variable {ω : Type} {c : Cube ω} {s t : Machine ω} {a : Attribute} {v : Value} {h : Header}
  {body bytes rest : List UInt8}

/-! ## What a frame tells -/

namespace Cube

variable {sink : Sink ω} {packet : Packet} {reply : Reply}

/-- A reply that is not sent as a default one is sent as it was made. -/
theorem sentReply_eq (other : (c.sentReply sink packet reply s).command ≠ .defaultResponse) :
    c.sentReply sink packet reply s = reply := by
  unfold sentReply at other ⊢
  split
  · rfl
  · rename_i long
    rw [if_neg long] at other
    exact absurd rfl other

end Cube

namespace Tape

variable {tape : Tape c.board}

/-- The frame of a reply that is no default one tells which reply it is, and how long. -/
theorem route_of_sent {command : Command} {n : Nat}
    (answered : c.dispatch tape.sink (h.encode ++ body) s = (.responded n, t))
    (sent : tape.sent t.world = tape.sent s.world ++ wire c.config.crc
      ((h.reply s.device.address command.code).encode ++ rest))
    (other : command ≠ .defaultResponse) :
    ∃ reply, c.route s.device.address h = .reply reply ∧ reply.command = command ∧
      c.replySize { header := h, body } s reply = 17 + rest.length ∧
      c.replySize { header := h, body } s reply ≤ Cube.maxReply := by
  have parsed := Packet.ofBytes?_encode h body
  obtain ⟨reply, routed⟩ := Cube.route_of_responded parsed (congrArg Prod.fst answered)
  obtain ⟨rest', -, size, sent'⟩ := tape.sent_respond_headed { header := h, body } reply s
  have fits := c.sentReply_size tape.sink { header := h, body } reply s
  rw [Cube.dispatch_of_route parsed routed] at answered
  rw [congrArg Prod.snd answered, sent] at sent'
  -- the payload is told by its frame, and the header by the payload
  have same := wire_injective (List.append_cancel_left sent')
  have headers : h.reply s.device.address command.code = h.reply s.device.address
      (c.sentReply tape.sink { header := h, body } reply s).command.code := by
    have packets := congrArg Packet.ofBytes? same
    rw [Packet.ofBytes?_encode, Packet.ofBytes?_encode] at packets
    exact congrArg Packet.header (Option.some.inj packets)
  have kind : (c.sentReply tape.sink { header := h, body } reply s).command = command := by
    have codes : Command.ofCode? command.code = Command.ofCode?
        (c.sentReply tape.sink { header := h, body } reply s).command.code :=
      congrArg (fun header : Header => Command.ofCode? header.command) headers
    rw [Command.ofCode?_code, Command.ofCode?_code] at codes
    exact (Option.some.inj codes).symm
  have made := Cube.sentReply_eq (kind ▸ other)
  rw [made] at kind fits size same
  refine ⟨reply, routed, kind, ?_, fits⟩
  rw [← size, ← same]
  simp

/-! ## Reads of one attribute -/

/-- Whoever reads the attribute is told the value. -/
def Returns (tape : Tape c.board) (s : Machine ω) (a : Attribute) (v : Value) : Prop :=
  ∀ h : Header, c.Asks .readAttributes s.device.address h → h.cluster = a.row.cluster.code →
    ∃ answer t,
      c.dispatch tape.sink (h.encode ++ Word.toBytes 2 a.row.id.toNat) s =
        (.responded (17 + answer.length), t) ∧
      tape.sent t.world = tape.sent s.world ++ wire c.config.crc
        ((h.reply s.device.address Command.readAttributesResponse.code).encode ++ answer) ∧
      readEntries answer = some [.value a.row.id a.row.type v]

/-- Every attribute can be asked for. -/
theorem exists_asks (c : Cube ω) (address : UInt64) (a : Attribute) :
    ∃ h, c.Asks .readAttributes address h ∧ h.cluster = a.row.cluster.code := by
  refine ⟨{ channel := Header.deviceChannel, address, endpoint := c.config.endpoint,
            profile := c.config.profile, cluster := a.row.cluster.code, flags := 0, transaction := 0,
            command := Command.readAttributes.code }, ⟨rfl, .inl rfl, ?_, rfl, rfl, ?_, rfl⟩, rfl⟩
  · simp [Header.isManufacturerSpecific]
  · cases a <;> rfl

theorem readIds_single (id : UInt16) : readIds (Word.toBytes 2 id.toNat) = [id] := by
  have asking : Asking (Word.toBytes 2 id.toNat) [id] [] := ⟨Nat.zero_le 1, by simp⟩
  exact asking.readIds_eq

theorem replySize_read (cluster : h.cluster = a.row.cluster.code) (s : Machine ω) :
    c.replySize { header := h, body := Word.toBytes 2 a.row.id.toNat } s .read =
      17 + c.answerSize a.row.cluster.code s a.row.id := by
  unfold Cube.replySize
  dsimp only
  rw [readIds_single, cluster, List.map_singleton, List.sum_singleton]

theorem Returns.unique {w : Value} (first : tape.Returns s a v) (second : tape.Returns s a w) :
    v = w := by
  obtain ⟨h, asks, cluster⟩ := exists_asks c s.device.address a
  obtain ⟨answer, t, answered, sent, read⟩ := first h asks cluster
  obtain ⟨answer', t', answered', sent', read'⟩ := second h asks cluster
  have same : t = t' := congrArg Prod.snd (answered.symm.trans answered')
  rw [same] at sent
  have payloads := wire_injective (List.append_cancel_left (sent.symm.trans sent'))
  rw [List.append_cancel_left payloads, read'] at read
  cases read
  rfl

theorem Returns.fits (returned : tape.Returns s a v) :
    17 + c.answerSize a.row.cluster.code s a.row.id ≤ Cube.maxReply := by
  obtain ⟨h, asks, cluster⟩ := exists_asks c s.device.address a
  obtain ⟨answer, t, answered, sent, -⟩ := returned h asks cluster
  obtain ⟨reply, -, kind, -, fits⟩ := route_of_sent answered sent (by decide)
  cases reply with
  | read => rwa [replySize_read cluster] at fits
  | write => cases kind
  | default command status => cases kind

/-- An attribute that reports one value at every moment of the reply is read as that. -/
theorem returns_of_report (readable : a.row.access.isReadable = true)
    (steady : ∀ w, c.board.Answering tape.sink s.world w → c.report { s with world := w } a = v)
    (fits : 17 + c.answerSize a.row.cluster.code s a.row.id ≤ Cube.maxReply) : tape.Returns s a v := by
  intro h asks cluster
  rw [← replySize_read cluster] at fits
  obtain ⟨answer, entries, t, answered, -, sent, read, told⟩ := tape.dispatch_read asks _ fits
  have entry : entries = [.value a.row.id a.row.type v] := by
    rw [readIds_single] at told
    obtain ⟨_, _, ⟨w, moment, rfl⟩, none, rfl⟩ := List.forall₂_cons_left_iff.mp told
    rw [List.forall₂_nil_left_iff.mp none, cluster]
    unfold Cube.entryAt
    rw [Attribute.find?_row]
    dsimp only
    rw [if_pos readable, steady w moment]
  exact ⟨answer, t, answered, sent, entry ▸ read⟩

/-- Where nothing changes while a reply is sent, an attribute is read as what it reports. -/
theorem returns_report (readable : a.row.access.isReadable = true)
    (steady : ∀ w, c.board.Answering tape.sink s.world w → c.board.Alike s.world w)
    (fits : 17 + c.answerSize a.row.cluster.code s a.row.id ≤ Cube.maxReply) :
    tape.Returns s a (c.report s a) := by
  refine returns_of_report readable (fun w moment => ?_) fits
  exact (c.report_alike (s := s) (t := { s with world := w }) rfl (steady w moment) a).symm

theorem returns_iff (readable : a.row.access.isReadable = true)
    (steady : ∀ w, c.board.Answering tape.sink s.world w → c.board.Alike s.world w) :
    tape.Returns s a v ↔
      v = c.report s a ∧ 17 + c.answerSize a.row.cluster.code s a.row.id ≤ Cube.maxReply := by
  constructor
  · intro returned
    exact ⟨returned.unique (returns_report readable steady returned.fits), returned.fits⟩
  · rintro ⟨rfl, fits⟩
    exact returns_report readable steady fits

end Tape

/-! ## Writes of one attribute -/

namespace Cube

/-- An attribute that shows a setting is answered in a few bytes. -/
theorem answerSize_le (shown : a.setting? ≠ none) (s : Machine ω) :
    c.answerSize a.row.cluster.code s a.row.id ≤ 12 := by
  unfold answerSize
  rw [Attribute.find?_row]
  dsimp only
  rw [readAttribute_size]
  cases a <;> first
    | exact absurd rfl shown
    | simp [Attribute.row, Access.isReadable, currentValue, resultSize, Value.encode]

/-- A record for an attribute is judged by what the attribute says of the value. -/
theorem judge_row (type : v.type = a.row.type) :
    c.judge a.row.cluster.code { id := a.row.id, value := v } = c.change? a a.row.access v := by
  unfold judge Attribute.writable? change?
  dsimp only
  rw [Attribute.find?_row]
  dsimp only
  by_cases writable : a.row.access.isWritable
  · rw [if_pos writable, if_pos type.symm]
  · rw [if_neg writable, if_neg writable]

/-- The size of the reply to a write of one record: one byte for a success, three for a refusal. -/
theorem replySize_write {record : WriteRecord} (read : writeRecords body = ([record], .complete))
    (s : Machine ω) : c.replySize { header := h, body } s .write =
      17 + if (c.judge h.cluster record).isOk then 1 else 3 := by
  unfold replySize isFlawless
  dsimp only
  rw [read]
  dsimp only
  rw [List.map_singleton, List.sum_singleton, List.all_cons, List.all_nil]
  unfold refusalSize endingSize
  cases c.judge h.cluster record <;> rfl

/-- The applying pass of a write of one record that is accepted. -/
theorem runReply_single {sink : Sink ω} {packet : Packet} {record : WriteRecord} {change : Change}
    {x : Exchange ω}
    (read : writeRecords packet.body = ([record], .complete))
    (judged : c.judge packet.header.cluster record = .ok change) (applies : x.writer.pass = .apply) :
    c.runReply sink packet .write x =
      let y := headed sink packet .write x
      Exchange.write sink (.u8 Status.success.code)
        { y with machine := c.carryOut change y.machine } := by
  have took : ∀ y : Exchange ω, y.writer.pass = .apply →
      c.answerWrite sink packet.header.cluster y record =
        ({ y with machine := c.carryOut change y.machine }, true) := by
    intro y applies
    unfold answerWrite
    rw [judged, applies]
  show c.replyWrite sink packet x = _
  rw [replyWrite_eq, read]
  unfold answerWrites
  dsimp only
  rw [List.foldl_cons, List.foldl_nil]
  dsimp only
  rw [took _ ((Exchange.write_pass ..).trans applies)]
  rfl

end Cube

namespace Tape

variable {tape : Tape c.board}

/-- The body of a write of one value. -/
def single (a : Attribute) (bytes : List UInt8) : List UInt8 :=
  Word.toBytes 2 a.row.id.toNat ++ a.row.type.tag :: bytes

/-- A write of one value is answered with the one byte of a success, and leaves the device at `t`. -/
structure Succeeds (tape : Tape c.board) (h : Header) (a : Attribute) (bytes : List UInt8)
    (s t : Machine ω) : Prop where
  answered : c.dispatch tape.sink (h.encode ++ single a bytes) s = (.responded 18, t)
  sent : tape.sent t.world = tape.sent s.world ++ wire c.config.crc
    ((h.reply s.device.address Command.writeAttributesResponse.code).encode ++ [Status.success.code])

theorem writeRecords_single (spelled : v.Spells a.row.type bytes) :
    writeRecords (single a bytes) = ([{ id := a.row.id, value := v }], .complete) := by
  have front := writeRecords_append (.record a.row.id spelled) []
  rw [List.append_nil, writeRecords] at front
  exact front

variable {change : Change}

/-- The attribute took the value of a write that succeeded, and nothing else was asked for. -/
theorem Succeeds.takes (succeeds : tape.Succeeds h a bytes s t)
    (cluster : h.cluster = a.row.cluster.code) (spelled : v.Spells a.row.type bytes) :
    ∃ change, c.Takes a v change ∧ c.changes (h.encode ++ single a bytes) s = [change] := by
  obtain ⟨reply, routed, kind, size, fits⟩ :=
    route_of_sent succeeds.answered succeeds.sent (by decide)
  obtain rfl : reply = .write := by
    cases reply <;> first | rfl | cases kind
  have read := writeRecords_single spelled
  have judged := c.judge_row spelled.type_eq
  rw [Cube.replySize_write read, cluster, judged] at size
  cases accepted : c.change? a a.row.access v with
  | error status =>
    -- a refusal takes two bytes more than a success
    rw [accepted] at size
    cases size
  | ok change =>
    rw [accepted] at judged
    refine ⟨change, .of_change? accepted, ?_⟩
    unfold Cube.changes
    rw [Packet.ofBytes?_encode]
    dsimp only
    rw [routed]
    dsimp only
    rw [if_pos fits]
    unfold Cube.replied Cube.asked
    dsimp only
    rw [read, cluster]
    dsimp only
    rw [List.filterMap_cons_some (b := change) (by rw [judged]; rfl), List.filterMap_nil]

/-- A write of a value that the attribute takes succeeds. -/
theorem exists_succeeds (asks : c.Asks .writeAttributes s.device.address h)
    (cluster : h.cluster = a.row.cluster.code) (spelled : v.Spells a.row.type bytes)
    (takes : c.Takes a v change) : ∃ t, tape.Succeeds h a bytes s t := by
  let packet : Packet := { header := h, body := single a bytes }
  let header := h.reply s.device.address Command.writeAttributesResponse.code
  have read := writeRecords_single spelled
  have judged : c.judge h.cluster { id := a.row.id, value := v } = .ok change := by
    rw [cluster, c.judge_row spelled.type_eq, takes.change?_eq]
  have size : c.replySize packet s .write = 18 := by
    rw [Cube.replySize_write read, judged]
    rfl
  have wrote : ∀ length, tape.Wrote (tape.sent s.world ++ opening length)
      (c.runReply tape.sink packet .write (tape.opened length s))
      (header.encode ++ [Status.success.code]) := by
    intro length
    have opened := (tape.wrote_opened length s).write (.header header)
    rw [Cube.runReply_single read judged rfl]
    exact (opened.change change).write (.u8 Status.success.code)
  obtain ⟨t, answered, -, sent⟩ := dispatch_of_wrote (Packet.ofBytes?_encode h (single a bytes))
    (asks.route rfl) (by rw [size]; decide) (wrote _)
  rw [List.length_append, Header.length_encode] at answered
  exact ⟨t, answered, sent⟩

end Tape

/-! ## Reading back -/

namespace Snapshot.Depicts

variable {tape : Tape c.board} {store : c.board.KeyValue} {k : Snapshot} (depicted : k.Depicts store s)
  (steady : c.board.Steady) (spares : store.Spares tape.sink) (spared : c.board.SparesTime tape.sink)
include depicted steady spares spared

/-- What a snapshot reports is what everyone is told, unless it is too long. -/
theorem returns_iff (readable : a.row.access.isReadable = true) : tape.Returns s a v ↔
    v = k.report c a ∧ 17 + c.answerSize a.row.cluster.code s a.row.id ≤ Cube.maxReply := by
  rw [← depicted.report a]
  exact Tape.returns_iff readable fun w moment =>
    depicted.alike (depicted.answering steady spares spared moment)

/-- A setting is never too long. -/
theorem returns (readable : a.row.access.isReadable = true) (shown : a.setting? ≠ none) :
    tape.Returns s a (k.report c a) := by
  rw [depicted.returns_iff steady spares spared readable]
  have size := Cube.answerSize_le (c := c) shown s
  refine ⟨rfl, ?_⟩
  unfold Cube.maxReply
  omega

/-- After a change everyone is told what they were told before of the attributes of other settings. -/
theorem returns_iff_of_change {change : Change} (changed : (k.carryOut change).Depicts store t)
    (playlist : t.device.playlist = s.device.playlist) (readable : a.row.access.isReadable = true)
    (other : a.setting? ≠ some change.setting) : tape.Returns t a v ↔ tape.Returns s a v := by
  rw [changed.returns_iff steady spares spared readable,
    depicted.returns_iff steady spares spared readable, report_carryOut_other other,
    c.answerSize_congr playlist]

end Snapshot.Depicts

/-- **Reading back.** Over a store that works and a clock that moves only when it is set, a device answers
a write of one value with success where the attribute takes the value, as it does with every time, offset
and address. Then whoever reads the attribute is told the value, however often the device took settings
over and moved on in between; an effect text cannot be read, and is cut to the text of the device by the
next sync. Of all other attributes everyone is told what they were told before, except that the two
attributes of the mode follow each other. -/
theorem write_reads_back (tape : Tape c.board) (store : c.board.KeyValue) (steady : c.board.Steady)
    (spares : store.Spares tape.sink) (spared : c.board.SparesTime tape.sink)
    (working : store.working s.world) (cluster : h.cluster = a.row.cluster.code)
    (spelled : v.Spells a.row.type bytes) :
    (c.Asks .writeAttributes s.device.address h →
      ((∃ t, tape.Succeeds h a bytes s t) ↔ ∃ change, c.Takes a v change)) ∧
    ∀ t, tape.Succeeds h a bytes s t →
      (∀ ops : List (Operation ω), (∀ op ∈ ops, op = .sync ∨ op = .advance) →
        let later := c.performAll ops t
        (a.row.access.isReadable → tape.Returns later a v) ∧
        (∀ text, a = .effectText → v = .octetString text →
          (c.sync later).device.text = text.take 32)) ∧
      (∀ b : Attribute, b.row.access.isReadable → b ≠ a → (a = .deviceEnabled → b ≠ .operatingMode) →
        (a = .operatingMode → b ≠ .deviceEnabled) →
          ∀ w, tape.Returns t b w ↔ tape.Returns s b w) ∧
      (a = .deviceEnabled → ∃ enabled, v = .boolean enabled ∧
        tape.Returns t .operatingMode (.enum8 (if enabled then Mode.playlist else Mode.idle).code)) ∧
      (a = .operatingMode → ∃ mode : Mode, v = .enum8 mode.code ∧
        tape.Returns t .deviceEnabled (.boolean mode.isRendering)) := by
  refine ⟨fun asks => ⟨?_, ?_⟩, fun t succeeds => ?_⟩
  · rintro ⟨t, succeeds⟩
    obtain ⟨change, takes, -⟩ := succeeds.takes cluster spelled
    exact ⟨change, takes⟩
  · rintro ⟨change, takes⟩
    exact Tape.exists_succeeds asks cluster spelled takes
  obtain ⟨k, before⟩ := Snapshot.exists_depicts working
  obtain ⟨change, takes, changes⟩ := succeeds.takes cluster spelled
  have after : (k.carryOut change).Depicts store t := by
    have carried := before.dispatch steady spares spared (h.encode ++ Tape.single a bytes)
    rw [changes, succeeds.answered] at carried
    exact carried
  have shown : a.setting? ≠ none := by simp [takes.setting?_eq]
  refine ⟨fun ops unasked => ?_, fun b readable other enabled moded w => ?_, ?_, ?_⟩
  · obtain ⟨k', later, on⟩ := after.performAll steady unasked
    constructor
    · intro readable
      rw [← Snapshot.report_of_takes takes readable on]
      exact later.returns steady spares spared readable shown
    · rintro text rfl rfl
      cases takes
      exact later.sync_text (on.text _ (k.textDue_carryOut text))
  · have apart : b.setting? ≠ some change.setting := by
      rw [← takes.setting?_eq]
      intro same
      rcases Attribute.setting?_inj same.symm with none | same | ⟨first, second⟩ | ⟨first, second⟩
      · exact shown none
      · exact other same
      · exact enabled first second
      · exact moded first second
    have stays := Cube.stays_dispatch (c := c) (s := s) tape.sink (h.encode ++ Tape.single a bytes)
    rw [succeeds.answered] at stays
    exact before.returns_iff_of_change steady spares spared after stays.playlist readable apart
  · rintro rfl
    cases takes with | deviceEnabled enabled => ?_
    have told := after.returns steady spares spared (a := .operatingMode) rfl (by decide)
    rw [Snapshot.report_operatingMode, Snapshot.carryOut_mode] at told
    exact ⟨enabled, rfl, told⟩
  · rintro rfl
    cases takes with | operatingMode mode => ?_
    have told := after.returns steady spares spared (a := .deviceEnabled) rfl (by decide)
    rw [Snapshot.report_deviceEnabled, Snapshot.carryOut_mode] at told
    exact ⟨mode, rfl, told⟩

namespace Bench

/-- A time so late that the seconds since 1970 wrap around. -/
def lateTime : UInt32 := 0xFFFFFFF0

/-- The new sample cube takes the late time as an early one, and it is still read back. -/
theorem lateTime_reads_back :
    let message := (sampleHeader .writeAttributes).encode ++
      Tape.single .time (Word.toBytes 4 lateTime.toNat)
    let t := (sampleCube.dispatch traySink message newMachine).2
    t.world.world.clock = 946684784 ∧
      Tape.Returns (c := sampleCube) sampleTape (sampleCube.performAll [.sync, .advance, .sync] t) .time
        (.utcTime lateTime) := by
  intro message t
  have working : sampleStore.working newMachine.world := ⟨rfl, rfl⟩
  have asks : sampleCube.Asks .writeAttributes newMachine.device.address (sampleHeader .writeAttributes) :=
    ⟨rfl, .inr rfl, rfl, rfl, rfl, rfl, rfl⟩
  obtain ⟨succeeds, back⟩ := write_reads_back sampleTape (c := sampleCube) (a := .time)
    (h := sampleHeader .writeAttributes) sampleStore sampleBoard_steady traySink_spares
    traySink_sparesTime working rfl (.utcTime lateTime)
  obtain ⟨t', took⟩ := (succeeds asks).mpr ⟨_, .time lateTime⟩
  have same : t' = t := (congrArg Prod.snd took.answered).symm
  have unasked : ∀ op ∈ ([.sync, .advance, .sync] : List (Operation World)),
      op = .sync ∨ op = .advance := by simp
  exact ⟨by decide +kernel, ((back t (same ▸ took)).1 _ unasked).1 rfl⟩

end Bench

end VoxelCube
