/-
What a read replies. The body of the reply is one entry for each number that was asked for, in their
order, and is read back without knowing the tables of the cube. An entry tells the value that the
attribute has when its turn comes: sending a reply takes time, in which the clock may move on and the
store may answer differently.
-/
import Mathlib.Data.List.Forall2
import VoxelCube.Proofs.Message.Entries
import VoxelCube.Proofs.Reply.Passes

namespace VoxelCube

open Link

/-! ## The numbers asked for -/

/-- The body is a run of attribute numbers, after which at most one byte is left. -/
def Asking (body : List UInt8) (ids : List UInt16) (odd : List UInt8) : Prop :=
  odd.length ≤ 1 ∧ body = ids.flatMap (fun id => Word.toBytes 2 id.toNat) ++ odd

theorem Asking.total (body : List UInt8) : ∃ odd, Asking body (readIds body) odd := by
  induction body using readIds.induct with
  | case1 low high rest ih =>
    obtain ⟨odd, short, spelled⟩ := ih
    have fits : Word.ofBytes [low, high] < 2 ^ 16 := Word.ofBytes_lt [low, high]
    have number : Word.toBytes 2 (Word.ofBytes [low, high]) = [low, high] :=
      Word.toBytes_ofBytes [low, high]
    refine ⟨odd, short, ?_⟩
    rw [readIds, List.flatMap_cons, UInt16.toNat_ofNat_of_lt' fits, number, List.append_assoc, ← spelled]
    rfl
  | case2 rest ends =>
    have none : readIds rest = [] := by
      rw [readIds]
      exact ends
    rw [none]
    rcases rest with _ | ⟨low, _ | ⟨high, rest⟩⟩
    · exact ⟨[], by decide, rfl⟩
    · exact ⟨[low], Nat.le_refl 1, rfl⟩
    · exact absurd rfl (ends low high rest)

/-- No other numbers are read than those that the body is a run of. -/
theorem Asking.readIds_eq {body odd : List UInt8} {ids : List UInt16} (asking : Asking body ids odd) :
    readIds body = ids := by
  obtain ⟨short, rfl⟩ := asking
  induction ids with
  | nil =>
    rcases odd with _ | ⟨low, _ | ⟨high, rest⟩⟩
    · rfl
    · rfl
    · exact absurd short (by simp)
  | cons id rest ih =>
    have number : UInt16.ofNat (Word.ofBytes (Word.toBytes 2 id.toNat)) = id := Word.ofBytes_id id
    rw [List.flatMap_cons, List.append_assoc]
    rw [Word.toBytes, Word.toBytes, Word.toBytes] at number ⊢
    exact congr (congrArg List.cons number) ih

theorem Asking.unique {body odd odd' : List UInt8} {ids ids' : List UInt16}
    (asking : Asking body ids odd) (other : Asking body ids' odd') : ids' = ids ∧ odd' = odd := by
  obtain rfl : ids' = ids := other.readIds_eq.symm.trans asking.readIds_eq
  exact ⟨rfl, List.append_cancel_left (other.2.symm.trans asking.2)⟩

/-! ## Values -/

/-- The number in a record of one byte, or another one where none can be read. -/
def Board.numberAt {ω : Type} (b : Board ω) (key : Store.Key) (other : UInt8) (w : ω) : UInt8 :=
  (Store.byteIn (b.read key Store.valueRoom w).1).toOption.getD other

namespace Cube

variable {ω : Type} (c : Cube ω)

/-- The value of an attribute, as it is read back. The playlist and the effect are the numbers in their
records, or the ones that run where no number can be read. -/
def report (s : Machine ω) : Attribute → Value
  | .deviceEnabled => .boolean (s.device.mode == .playlist || s.device.mode == .effect)
  | .alarmMask => .boolean s.device.alarmMask
  | .operatingMode => .enum8 s.device.mode.code
  | .effectText => .octetString s.device.text
  | .playlist => .uint8 (c.board.numberAt .playlist s.device.playlist s.world)
  | .timezone => .int32 (c.board.zone s.world)
  | .time => .utcTime (c.board.now s.world - epochOffset)
  | .effectNames => .longOctetString (Value.nameText (c.effects.map (·.name)))
  | .playlistNames => .longOctetString c.playlists.names
  | .playlistEffects =>
    .octetString (((c.playlists.entries s.device.playlist).map (·.effect)).take DataType.maxOctets)
  | .effect => .uint8 (c.board.numberAt .effect s.device.effect s.world)
  | .hardwareVersion => .octetString (textBytes c.config.hardware.text)
  | .softwareVersion => .octetString (textBytes c.config.software.text)
  | .deviceAddress => .ieeeAddress s.device.address
  | .playlistPosition => .uint8 (s.device.selector.position c.playlists s.device.playlist)

theorem storedPlaylist_fst (s : Machine ω) :
    (c.storedPlaylist s).1 = c.board.numberAt .playlist s.device.playlist s.world := by
  unfold storedPlaylist Board.numberAt
  rw [Board.readPlaylist_eq]
  cases Store.byteIn (c.board.read .playlist Store.valueRoom s.world).1 <;> rfl

theorem storedEffect_fst (s : Machine ω) :
    (c.storedEffect s).1 = c.board.numberAt .effect s.device.effect s.world := by
  unfold storedEffect Board.numberAt
  rw [Board.readEffect_eq]
  cases Store.byteIn (c.board.read .effect Store.valueRoom s.world).1 <;> rfl

/-- The entry for a number that is asked for: the value of an attribute that can be read, or why there
is none. -/
def entryAt (cluster : UInt16) (s : Machine ω) (id : UInt16) : ReadEntry :=
  match Attribute.find? cluster id with
  | none => .refusal id Status.unsupportedAttribute.code
  | some a =>
    if a.row.access.isReadable then .value id a.row.type (c.report s a)
    else .refusal id Status.writeOnly.code

/-- A label is short enough to be announced as it is. -/
theorem plain_label {room : Nat} (label : Label room) (small : room ≤ DataType.maxOctets) :
    (Value.octetString (textBytes label.text)).plain = .octetString (textBytes label.text) := by
  have fits : (textBytes label.text).length ≤ DataType.maxOctets := Nat.le_trans label.fits small
  exact congrArg Value.octetString (List.take_of_length_le fits)

theorem readAttribute_refused {a : Attribute} {access : Access} (unreadable : ¬access.isReadable = true)
    (pass : Pass) (s : Machine ω) : (c.readAttribute a access pass s).1 = .error .writeOnly := by
  unfold readAttribute
  rw [if_neg unreadable]

/-- An attribute that can be read is sent under the type of its row, as a spelling of its value. -/
theorem readAttribute_spells {a : Attribute} (readable : a.row.access.isReadable = true) (s : Machine ω) :
    ∃ v, (c.readAttribute a a.row.access .apply s).1 = .ok v ∧ v.type = a.row.type ∧
      Value.Spells a.row.type v.encode (c.report s a) := by
  have read : ∀ {v w : Value}, (c.readAttribute a a.row.access .apply s).1 = .ok v → v.type = a.row.type →
      v.plain = w → (∀ names, v = .nameList names → Value.nameTextLength names ≤ DataType.maxLongOctets) →
      ∃ v, (c.readAttribute a a.row.access .apply s).1 = .ok v ∧ v.type = a.row.type ∧
        Value.Spells a.row.type v.encode w := by
    intro v w found type plain fits
    exact ⟨v, found, type, type ▸ plain ▸ v.spells_encode fits⟩
  unfold readAttribute at read ⊢
  rw [if_pos readable] at read ⊢
  cases a with
  | effectText => cases readable
  | deviceEnabled =>
    refine read rfl rfl ?_ (fun _ h => by cases h)
    unfold report
    cases s.device.mode <;> rfl
  | effectNames =>
    refine read rfl rfl rfl fun names same => ?_
    cases same
    exact c.namesFit
  | playlistNames =>
    refine read rfl rfl ?_ (fun _ h => by cases h)
    exact congrArg Value.longOctetString (List.take_of_length_le c.playlists.sizes.names)
  | hardwareVersion => exact read rfl rfl (plain_label _ (by decide)) (fun _ h => by cases h)
  | softwareVersion => exact read rfl rfl (plain_label _ (by decide)) (fun _ h => by cases h)
  | playlist => exact read rfl rfl (congrArg Value.uint8 (c.storedPlaylist_fst s)) (fun _ h => by cases h)
  | effect => exact read rfl rfl (congrArg Value.uint8 (c.storedEffect_fst s)) (fun _ h => by cases h)
  | alarmMask | operatingMode | timezone | time | playlistEffects | deviceAddress
  | playlistPosition => exact read rfl rfl rfl (fun _ h => by cases h)

end Cube

/-! ## Moments -/

/-- What a world may come to while a read reply is sent: bytes are put into the sink, and the store is
read. -/
inductive Board.Answering {ω : Type} (b : Board ω) (sink : Sink ω) (w : ω) : ω → Prop where
  | start : Answering b sink w w
  | put {w' : ω} (h : Answering b sink w w') (byte : UInt8) : Answering b sink w (sink byte w')
  | read {w' : ω} (h : Answering b sink w w') (key : Store.Key) (room : Nat) :
    Answering b sink w (b.read key room w').2

/-- Two worlds in which it is the same time and the store gives the same answers. -/
structure Board.Alike {ω : Type} (b : Board ω) (w w' : ω) : Prop where
  now : b.now w = b.now w'
  zone : b.zone w = b.zone w'
  read : ∀ key room, (b.read key room w).1 = (b.read key room w').1

namespace Cube

variable {ω : Type} (c : Cube ω) {s t : Machine ω}

theorem report_alike (device : s.device = t.device) (alike : c.board.Alike s.world t.world)
    (a : Attribute) : c.report s a = c.report t a := by
  have kept : ∀ key other, c.board.numberAt key other s.world = c.board.numberAt key other t.world := by
    intro key other
    unfold Board.numberAt
    rw [alike.read]
  unfold report
  rw [kept, kept, alike.now, alike.zone, device]

theorem entryAt_alike (device : s.device = t.device) (alike : c.board.Alike s.world t.world)
    (cluster id : UInt16) : c.entryAt cluster s id = c.entryAt cluster t id := by
  unfold entryAt
  cases Attribute.find? cluster id with
  | none => rfl
  | some a =>
    dsimp only
    rw [c.report_alike device alike a]

end Cube

/-! ## The applying pass -/

namespace Tape

variable {ω : Type} {c : Cube ω}

/-- The entry is what belongs to a number at some moment of a reply that is begun at `s`. -/
def Tells (tape : Tape c.board) (cluster : UInt16) (s : Machine ω) (id : UInt16) (entry : ReadEntry) :
    Prop :=
  ∃ w, c.board.Answering tape.sink s.world w ∧ entry = c.entryAt cluster { s with world := w } id

/-- An exchange of the applying pass that only wrote a payload and read the store since a machine. -/
structure Answered (tape : Tape c.board) (before : List UInt8) (s : Machine ω) (x : Exchange ω)
    (payload : List UInt8) : Prop where
  wrote : tape.Wrote before x payload
  device : x.machine.device = s.device
  world : c.board.Answering tape.sink s.world x.machine.world

namespace Answered

variable {tape : Tape c.board} {before payload : List UInt8} {s : Machine ω} {x : Exchange ω}

theorem applies (h : tape.Answered before s x payload) : x.writer.pass = .apply := by
  rw [h.wrote.1]

theorem write (h : tape.Answered before s x payload) (field : Field) :
    tape.Answered before s (x.write tape.sink field) (payload ++ field.encode) := by
  refine ⟨h.wrote.write field, h.device, ?_⟩
  rw [Exchange.write_apply tape.sink field x h.applies]
  exact List.foldlRecOn (motive := c.board.Answering tape.sink s.world) _ _ h.world
    fun _ sent byte _ => sent.put byte

theorem look (h : tape.Answered before s x payload) (a : Attribute) (access : Access) :
    tape.Answered before s
      { x with machine := { x.machine with world := (c.readAttribute a access x.writer.pass x.machine).2 } }
      payload := by
  refine ⟨h.wrote.look a access, h.device, ?_⟩
  rcases c.readAttribute_world x.machine a access x.writer.pass with same | ⟨key, room, read⟩
  · exact same ▸ h.world
  · exact read ▸ h.world.read key room

/-- A number is answered with its entry, as it is when the number was sent. -/
theorem answerRead (h : tape.Answered before s x payload) (cluster id : UInt16) :
    ∃ bytes w, c.board.Answering tape.sink s.world w ∧
      (c.entryAt cluster { s with world := w } id).Spells bytes ∧
      tape.Answered before s (c.answerRead tape.sink cluster x id) (payload ++ bytes) := by
  have named := h.write (.u16 id)
  unfold Cube.answerRead Cube.entryAt
  dsimp only
  generalize x.write tape.sink (.u16 id) = y at named ⊢
  cases Attribute.find? cluster id with
  | none =>
    refine ⟨_, y.machine.world, named.world, .refusal id (by decide), ?_⟩
    rw [← List.append_assoc]
    exact named.write (.u8 Status.unsupportedAttribute.code)
  | some a =>
    have looked := named.look a a.row.access
    dsimp only
    rw [named.applies] at looked ⊢
    by_cases readable : a.row.access.isReadable = true
    · obtain ⟨v, found, type, spelled⟩ := c.readAttribute_spells readable y.machine
      have same : y.machine = { s with world := y.machine.world } := by rw [← named.device]
      have sent := ((looked.write (.u8 Status.success.code)).write (.u8 v.type.tag)).write (.value v)
      rw [found]
      refine ⟨Word.toBytes 2 id.toNat ++ Status.success.code :: a.row.type.tag :: v.encode,
        y.machine.world, named.world, ?_, ?_⟩
      · rw [if_pos readable, ← same]
        exact .value id spelled
      · rw [← type]
        simpa [Field.encode] using sent
    · have sent := looked.write (.u8 Status.writeOnly.code)
      rw [c.readAttribute_refused readable]
      refine ⟨Word.toBytes 2 id.toNat ++ [Status.writeOnly.code], y.machine.world, named.world, ?_, ?_⟩
      · rw [if_neg readable]
        exact .refusal id (by decide)
      · rw [← List.append_assoc]
        exact sent

/-- The numbers that are asked for are answered one after the other. -/
theorem answerReads (h : tape.Answered before s x payload) (cluster : UInt16) (ids : List UInt16) :
    ∃ answer entries, EntriesSpell answer entries ∧
      List.Forall₂ (tape.Tells cluster s) ids entries ∧
      tape.Answered before s (ids.foldl (c.answerRead tape.sink cluster) x) (payload ++ answer) := by
  induction ids generalizing x payload with
  | nil => exact ⟨[], [], .nil, .nil, (List.append_nil payload).symm ▸ h⟩
  | cons id rest ih =>
    obtain ⟨bytes, w, moment, spelled, answered⟩ := h.answerRead cluster id
    obtain ⟨answer, entries, more, told, done⟩ := ih answered
    refine ⟨bytes ++ answer, _ :: entries, .cons spelled more, .cons ⟨w, moment, rfl⟩ told, ?_⟩
    rw [← List.append_assoc]
    exact done

end Answered

/-- The applying pass of a read writes an entry for each number. -/
theorem runReply_read (tape : Tape c.board) (packet : Packet) (length : UInt16) (s : Machine ω) :
    ∃ answer entries, EntriesSpell answer entries ∧
      List.Forall₂ (tape.Tells packet.header.cluster s) (readIds packet.body) entries ∧
      tape.Answered (tape.sent s.world ++ opening length) s
        (c.runReply tape.sink packet .read (tape.opened length s))
        ((packet.header.reply s.device.address Command.readAttributesResponse.code).encode ++ answer) := by
  have opened : tape.Answered (tape.sent s.world ++ opening length) s (tape.opened length s) [] := by
    refine ⟨tape.wrote_opened length s, rfl, ?_⟩
    exact List.foldlRecOn (motive := c.board.Answering tape.sink s.world) _ _ .start
      fun _ sent byte _ => sent.put byte
  exact (opened.write (.header (packet.header.reply s.device.address
    Command.readAttributesResponse.code))).answerReads packet.header.cluster (readIds packet.body)

/-- A read whose reply can be announced is replied to with an entry for each number. -/
theorem dispatch_read (tape : Tape c.board) {s : Machine ω} {h : Header}
    (asks : c.Asks .readAttributes s.device.address h) (body : List UInt8)
    (fits : c.replySize { header := h, body } s .read ≤ Cube.maxReply) :
    ∃ answer entries t,
      c.dispatch tape.sink (h.encode ++ body) s = (.responded (17 + answer.length), t) ∧
      t.device = s.device ∧
      tape.sent t.world = tape.sent s.world ++ wire c.config.crc
        ((h.reply s.device.address Command.readAttributesResponse.code).encode ++ answer) ∧
      readEntries answer = some entries ∧
      List.Forall₂ (tape.Tells h.cluster s) (readIds body) entries := by
  obtain ⟨answer, entries, made, told, answered⟩ := tape.runReply_read { header := h, body }
    (UInt16.ofNat (c.replySize { header := h, body } s .read)) s
  obtain ⟨t, replied, device, sent⟩ := dispatch_of_wrote (Packet.ofBytes?_encode h body)
    (asks.route rfl) fits answered.wrote
  rw [List.length_append, Header.length_encode] at replied
  exact ⟨answer, entries, t, replied, device.trans answered.device, sent, made.readEntries_eq, told⟩

/-- Where nothing changes while a reply is sent, each number is told the entry that belongs to it. -/
theorem Tells.entries_eq {tape : Tape c.board} {s : Machine ω} {cluster : UInt16} {ids : List UInt16}
    {entries : List ReadEntry}
    (steady : ∀ w, c.board.Answering tape.sink s.world w → c.board.Alike s.world w)
    (told : List.Forall₂ (tape.Tells cluster s) ids entries) :
    entries = ids.map (c.entryAt cluster s) := by
  have now : List.Forall₂ (fun id entry => c.entryAt cluster s id = entry) ids entries := by
    refine told.imp fun id entry told => ?_
    obtain ⟨w, moment, rfl⟩ := told
    exact c.entryAt_alike (s := s) (t := { s with world := w }) rfl (steady w moment) cluster id
  rw [← List.forall₂_map_left_iff, List.forall₂_eq_eq_eq] at now
  exact now.symm

end Tape

/-! ## Reads -/

variable {ω : Type} (c : Cube ω) {s : Machine ω} {h : Header}

/-- **Reads.** The body of a read is a run of numbers and at most one odd byte, in one way only. If the
reply can be announced, it is sent as one frame and nothing of the device changes; its body is read back
as one entry for each number, in their order, with nothing left over. Each entry is what belongs to its
number at some moment while the reply is sent; where the clock and the store answer the same at all of
these moments, it is what belonged to it before. -/
theorem read_reads_back (tape : Tape c.board) (asks : c.Asks .readAttributes s.device.address h)
    (body : List UInt8) :
    ∃ ids odd, (∀ ids' odd', Asking body ids' odd' ↔ ids' = ids ∧ odd' = odd) ∧
      ((c.countReply tape.sink { header := h, body } .read s).1 ≤ Cube.maxReply →
        ∃ answer entries t,
          c.dispatch tape.sink (h.encode ++ body) s = (.responded (17 + answer.length), t) ∧
          t.device = s.device ∧
          tape.sent t.world = tape.sent s.world ++ wire c.config.crc
            ((h.reply s.device.address Command.readAttributesResponse.code).encode ++ answer) ∧
          readEntries answer = some entries ∧
          List.Forall₂ (tape.Tells h.cluster s) ids entries ∧
          ((∀ w, c.board.Answering tape.sink s.world w → c.board.Alike s.world w) →
            entries = ids.map (c.entryAt h.cluster s))) := by
  obtain ⟨odd, asking⟩ := Asking.total body
  refine ⟨readIds body, odd, fun ids' odd' => ⟨asking.unique, ?_⟩, fun fits => ?_⟩
  · rintro ⟨rfl, rfl⟩
    exact asking
  · rw [c.countReply_length] at fits
    obtain ⟨answer, entries, t, replied, device, sent, read, told⟩ := tape.dispatch_read asks body fits
    exact ⟨answer, entries, t, replied, device, sent, read, told,
      fun steady => Tape.Tells.entries_eq steady told⟩

namespace Bench

theorem Memory.read_tray (key : Store.Key) (room : Nat) (m : Memory) (tray : List UInt8) :
    (Memory.read key room { m with tray }).1 = (Memory.read key room m).1 := by
  unfold Memory.read Memory.get?
  dsimp only
  cases m.readFaults[key.index] with
  | some e => rfl
  | none =>
    cases m.records[key.index] with
    | none => rfl
    | some record =>
      dsimp only
      split <;> rfl

/-- Nothing but the tray of the sample board changes while a read reply is sent. -/
theorem answering_alike {w w' : World} (h : sampleBoard.Answering traySink w w') :
    sampleBoard.Alike w w' := by
  have aside : ∃ tray, w'.world = { w.world with tray } := by
    induction h with
    | start => exact ⟨_, rfl⟩
    | put _ byte ih =>
      obtain ⟨tray, same⟩ := ih
      exact ⟨byte :: tray, congrArg (Memory.collect byte) same⟩
    | read _ key room ih =>
      obtain ⟨tray, same⟩ := ih
      exact ⟨tray, (Memory.read_snd key room _).trans same⟩
  obtain ⟨tray, same⟩ := aside
  refine ⟨?_, ?_, fun key room => ?_⟩
  · exact (congrArg Memory.clock same).symm
  · exact (congrArg Memory.zone same).symm
  · exact ((congrArg (fun m => (Memory.read key room m).1) same).trans
      (Memory.read_tray key room w.world tray)).symm

/-- A read of the playlist, twice, of the effect text, of an attribute that there is not and of the
effects of the playlist, with an odd byte after it. -/
def mixedRead : List UInt8 :=
  [0x03, 0x00, 0x03, 0x00, 0x02, 0x00, 0x77, 0x77, 0x08, 0x00, 0x05]

theorem mixedRead_reads_back : ∃ answer t,
    sampleCube.dispatch traySink ((sampleHeader .readAttributes).encode ++ mixedRead) newMachine =
      (.responded (17 + answer.length), t) ∧
    readEntries answer = some [.value 0x0003 .uint8 (.uint8 0), .value 0x0003 .uint8 (.uint8 0),
      .refusal 0x0002 0x8F, .refusal 0x7777 0x86, .value 0x0008 .octetString (.octetString [0, 1, 2])] := by
  have asks : sampleCube.Asks .readAttributes newMachine.device.address (sampleHeader .readAttributes) :=
    ⟨rfl, .inr rfl, rfl, rfl, rfl, rfl, rfl⟩
  obtain ⟨ids, odd, asking, replied⟩ := read_reads_back sampleCube sampleTape asks mixedRead
  obtain ⟨rfl, rfl⟩ := (asking [0x0003, 0x0003, 0x0002, 0x7777, 0x0008] [0x05]).mp ⟨by decide, by decide⟩
  have fits : (sampleCube.countReply traySink
      { header := sampleHeader .readAttributes, body := mixedRead } .read newMachine).1 ≤ Cube.maxReply := by
    decide +kernel
  obtain ⟨answer, entries, t, replied, -, -, read, -, steady⟩ := replied fits
  refine ⟨answer, t, replied, ?_⟩
  rw [read, steady fun w => answering_alike]
  decide +kernel

end Bench

end VoxelCube
