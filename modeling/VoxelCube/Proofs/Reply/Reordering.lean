/-
Records that trade places. Writes of two attributes set two settings, so that a body of accepted records
may bring them in any order in which those of one attribute stay in theirs: the device, its store, its
clock and its power end up the same, and so does the reply, which depends on the end of the body alone.
-/
import VoxelCube.Proofs.MainLoop.Power
import VoxelCube.Proofs.Reply.Reports

namespace VoxelCube

open Link

/-! ## Records in another order -/

/-- The same records in another order, in which the records of one number stand as they stood. -/
structure Reordered (records records' : List WriteRecord) : Prop where
  perm : records'.Perm records
  order : ∀ id, records'.filter (·.id == id) = records.filter (·.id == id)

namespace Reordered

variable {σ : Type} {f : σ → WriteRecord → σ} {record : WriteRecord} {records records' : List WriteRecord}

theorem trans {records'' : List WriteRecord} (h : Reordered records records')
    (h' : Reordered records' records'') : Reordered records records'' :=
  ⟨h'.perm.trans h.perm, fun id => (h'.order id).trans (h.order id)⟩

/-- Two neighbours of different numbers may trade places. -/
theorem swap {other : WriteRecord} (apart : record.id ≠ other.id) (front back : List WriteRecord) :
    Reordered (front ++ record :: other :: back) (front ++ other :: record :: back) := by
  refine ⟨.append_left front (.swap record other back), fun id => ?_⟩
  rw [List.filter_append, List.filter_append]
  by_cases same : record.id = id
  · have different : ¬other.id = id := fun also => apart (same.trans also.symm)
    simp [same, different]
  · simp [List.filter_cons, same]

/-- The first record of a list is found in the other one behind records of other numbers, and without it
the rest of the list is reordered. -/
theorem exists_front (h : Reordered (record :: records) records') : ∃ front back,
    records' = front ++ record :: back ∧ (∀ other ∈ front, other.id ≠ record.id) ∧
      Reordered records (front ++ back) := by
  have first : records'.filter (·.id == record.id) = record :: records.filter (·.id == record.id) := by
    rw [h.order, List.filter_cons_of_pos (by simp)]
  obtain ⟨front, back, rfl, others, -, later⟩ := List.filter_eq_cons_iff.mp first
  refine ⟨front, back, rfl, fun other mem same => others other mem (beq_iff_eq.mpr same), ?_, ?_⟩
  · exact List.Perm.cons_inv (List.perm_middle.symm.trans h.perm)
  · intro id
    have whole := h.order id
    by_cases same : record.id = id
    · -- no record of this number stands in front
      have none : front.filter (·.id == id) = [] :=
        List.filter_eq_nil_iff.mpr fun other mem => same ▸ others other mem
      rw [List.filter_append, none, ← same]
      exact later
    · rw [List.filter_append, List.filter_cons_of_neg (by simpa using same),
        List.filter_cons_of_neg (by simpa using same), ← List.filter_append] at whole
      exact whole

/-- A step that commutes with all steps of a list may be made before them. -/
theorem foldl_step_comm {front : List WriteRecord}
    (comm : ∀ other ∈ front, ∀ s, f (f s other) record = f (f s record) other) (s : σ) :
    f (front.foldl f s) record = front.foldl f (f s record) := by
  induction front generalizing s with
  | nil => rfl
  | cons other rest ih =>
    obtain ⟨here, there⟩ := List.forall_mem_cons.mp comm
    calc f (rest.foldl f (f s other)) record
        = rest.foldl f (f (f s other) record) := ih there _
      _ = rest.foldl f (f (f s record) other) := by rw [here]

/-- Steps that commute for records of different numbers lead to the same in either order. -/
theorem foldl_eq (comm : ∀ a b : WriteRecord, a.id ≠ b.id → ∀ s, f (f s a) b = f (f s b) a)
    (h : Reordered records records') (s : σ) : records'.foldl f s = records.foldl f s := by
  induction records generalizing records' s with
  | nil => rw [h.perm.eq_nil]
  | cons record records ih =>
    obtain ⟨front, back, rfl, others, rest⟩ := h.exists_front
    have first : f (front.foldl f s) record = front.foldl f (f s record) :=
      foldl_step_comm (fun other mem => comm other record (others other mem)) s
    rw [List.foldl_append, List.foldl_cons, first, ← List.foldl_append, ih rest, List.foldl_cons]

end Reordered

/-! ## Records of different numbers -/

namespace Cube

variable {ω : Type} {c : Cube ω} {cluster : UInt16} {record other : WriteRecord} {x y : Change}
  {records records' : List WriteRecord}

/-- Within one cluster, accepted records of different numbers set different settings. -/
theorem setting_ne_of_id_ne (first : c.judge cluster record = .ok x)
    (second : c.judge cluster other = .ok y) (apart : record.id ≠ other.id) :
    x.setting ≠ y.setting := by
  intro same
  obtain ⟨a, found, takes⟩ := Takes.exists_of_judge first
  obtain ⟨b, found', takes'⟩ := Takes.exists_of_judge second
  obtain ⟨clusterA, idA⟩ := Attribute.find?_eq_some_iff.mp found
  obtain ⟨clusterB, idB⟩ := Attribute.find?_eq_some_iff.mp found'
  have shown : a.setting? = b.setting? := by rw [takes.setting?_eq, takes'.setting?_eq, same]
  have clusters : a.row.cluster.code = b.row.cluster.code := clusterA.trans clusterB.symm
  rcases Attribute.setting?_inj shown with none | rfl | ⟨rfl, rfl⟩ | ⟨rfl, rfl⟩
  · rw [takes.setting?_eq] at none
    cases none
  · exact apart (idA.symm.trans idB)
  -- the two attributes of the mode are in two clusters
  · exact absurd clusters (by decide)
  · exact absurd clusters (by decide)

/-- What commutes for changes of different settings comes to the same for reordered records. -/
theorem foldl_asked_reordered {σ : Type} {f : σ → Change → σ}
    (comm : ∀ x y : Change, x.setting ≠ y.setting → ∀ s, f (f s x) y = f (f s y) x)
    (reordered : Reordered records records') (s : σ) :
    (c.asked cluster records').foldl f s = (c.asked cluster records).foldl f s := by
  unfold asked
  rw [List.foldl_filterMap, List.foldl_filterMap]
  refine reordered.foldl_eq (fun record other apart s => ?_) s
  cases first : c.judge cluster record with
  | error status => rfl
  | ok x =>
    cases second : c.judge cluster other with
    | error status => rfl
    | ok y => exact comm x y (setting_ne_of_id_ne first second apart) s

end Cube

/-! ## The power -/

namespace Meter

theorem follow_comm (x y : Change) (apart : x.setting ≠ y.setting) (p : Mode × List PowerAction) :
    follow (follow p x) y = follow (follow p y) x := by
  cases x with
  | mode mode =>
    cases y with
    | mode other => exact absurd rfl apart
    | _ => rfl
  | _ => rfl

variable {ω : Type} {c : Cube ω} (m : Meter c)

/-- A message does to the mode and the power what its changes do. -/
theorem told_dispatch {sink : Sink ω} (quiet : ∀ byte w, m.hooks (sink byte w) = m.hooks w)
    (payload : List UInt8) (s : Machine ω) :
    m.told (c.dispatch sink payload s).2 = (c.changes payload s).foldl follow (m.told s) := by
  have tracks : c.Tracks sink fun made t => m.told t = made.foldl follow (m.told s) := by
    refine ⟨fun byte made t h => ?_, fun key room made t h => ?_, fun change made t h => ?_⟩
    · rw [← h]
      exact told_eq rfl (quiet byte t.world)
    · rw [← h]
      exact told_eq rfl (m.read key room t.world)
    · rw [List.foldl_append, ← h]
      exact m.told_carryOut change t
  have start : m.told s = ([] : List Change).foldl follow (m.told s) := rfl
  exact tracks.dispatch payload start

end Meter

/-! ## The reply -/

/-- All records of a write are accepted. -/
def Cube.Accepts {ω : Type} (c : Cube ω) (cluster : UInt16) (records : List WriteRecord) : Prop :=
  ∀ record ∈ records, ∃ change, c.judge cluster record = .ok change

namespace Tape

variable {ω : Type} {c : Cube ω} {tape : Tape c.board} {before payload : List UInt8} {x : Exchange ω}
  {cluster : UInt16} {records : List WriteRecord} {s : Machine ω} {h : Header}

theorem Wrote.writeStatus (wrote : tape.Wrote before x payload) (id : UInt16) (status : Status) :
    tape.Wrote before (x.writeStatus tape.sink id status) (payload ++ statusBytes [(id, status)]) := by
  have both := (wrote.write (.u16 id)).write (.u8 status.code)
  rw [List.append_assoc] at both
  unfold Exchange.writeStatus
  simpa [statusBytes, Field.encode] using both

/-- The end of a write is answered with the same bytes, whatever was written before. -/
theorem exists_endingTail (tape : Tape c.board) (cluster : UInt16) (ending : WriteEnding) :
    ∃ tail, ∀ {before payload : List UInt8} {x : Exchange ω}, tape.Wrote before x payload →
      tape.Wrote before (Cube.answerEnding tape.sink cluster ending x).1 (payload ++ tail) := by
  unfold Cube.answerEnding
  cases ending with
  | complete => exact ⟨[], fun wrote => by rwa [List.append_nil]⟩
  | ragged => exact ⟨[], fun wrote => by rwa [List.append_nil]⟩
  | unknownType id => exact ⟨_, fun wrote => wrote.writeStatus id .invalidDataType⟩
  | cutValue id type =>
    dsimp only
    cases Attribute.writable? cluster id type with
    | ok a => exact ⟨[], fun wrote => by rwa [List.append_nil]⟩
    | error status => exact ⟨_, fun wrote => wrote.writeStatus id status⟩

/-- Records that are all accepted are not answered. -/
theorem Wrote.answerWrites (accepted : c.Accepts cluster records)
    {y : Exchange ω × Bool} (wrote : tape.Wrote before y.1 payload) :
    tape.Wrote before (c.answerWrites tape.sink cluster records y).1 payload := by
  induction records generalizing y with
  | nil => exact wrote
  | cons record rest ih =>
    obtain ⟨⟨change, judged⟩, others⟩ := List.forall_mem_cons.mp accepted
    have applies : y.1.writer.pass = .apply := by rw [wrote.1]
    rw [c.answerWrites_cons]
    refine ih others ?_
    unfold Cube.answerWrite
    rw [judged, applies]
    exact wrote.change change

/-- The payload of a write of accepted records depends on its header and the end of its body alone. -/
theorem exists_tail (tape : Tape c.board) (h : Header) (ending : WriteEnding) :
    ∃ tail, ∀ {body : List UInt8} {records : List WriteRecord} {before : List UInt8} {x : Exchange ω},
      writeRecords body = (records, ending) → c.Accepts h.cluster records → tape.Wrote before x [] →
      tape.Wrote before (c.runReply tape.sink { header := h, body } .write x)
        ((h.reply x.machine.device.address Command.writeAttributesResponse.code).encode ++ tail) := by
  obtain ⟨tail, ended⟩ := tape.exists_endingTail h.cluster ending
  refine ⟨if ending == .complete then tail ++ [Status.success.code] else tail, ?_⟩
  intro body records before x read accepted wrote
  let opened : Exchange ω × Bool := (x.write tape.sink (.header (h.reply x.machine.device.address
    Command.writeAttributesResponse.code)), true)
  let answered := c.answerWrites tape.sink h.cluster records opened
  have flawless : answered.2 = true := by
    rw [(c.answerWrites_spec tape.sink h.cluster records opened).2, Bool.true_and, List.all_eq_true]
    intro record mem
    obtain ⟨change, judged⟩ := accepted record mem
    rw [judged]
    rfl
  have complete := (Cube.answerEnding_spec tape.sink h.cluster ending answered.1).2
  have written := ended ((wrote.write _).answerWrites accepted (y := opened))
  unfold Cube.runReply
  dsimp only
  rw [Cube.replyWrite_eq, read]
  show tape.Wrote before (if answered.2 && (Cube.answerEnding tape.sink h.cluster ending answered.1).2 then
    _ else _) _
  rw [flawless, complete, Bool.true_and]
  split
  · have done := written.write (.u8 Status.success.code)
    rwa [List.append_assoc] at done
  · exact written

end Tape

namespace Cube

variable {ω : Type} {c : Cube ω} {s : Machine ω} {h : Header} {body rest : List UInt8}
  {records : List WriteRecord}

theorem endingSize_le (cluster : UInt16) (ending : WriteEnding) : endingSize cluster ending ≤ 3 := by
  unfold endingSize
  split
  · decide
  · decide
  · decide
  · split <;> decide

/-- A write whose records are all accepted is answered in a few bytes. -/
theorem replySize_le {ending : WriteEnding} (read : writeRecords body = (records, ending))
    (accepted : c.Accepts h.cluster records) :
    c.replySize { header := h, body } s .write ≤ 21 := by
  have unanswered : (records.map (c.refusalSize h.cluster)).sum = 0 := by
    refine List.sum_eq_zero_iff_forall_eq_nat.mpr fun size mem => ?_
    obtain ⟨record, listed, rfl⟩ := List.mem_map.mp mem
    obtain ⟨change, judged⟩ := accepted record listed
    unfold refusalSize
    rw [judged]
  have ended := endingSize_le h.cluster ending
  unfold replySize
  dsimp only
  rw [read]
  dsimp only
  rw [unanswered]
  split <;> omega

/-- The changes of a write whose records are all accepted are the ones that they ask for. -/
theorem changes_accepted {ending : WriteEnding} (asks : c.Asks .writeAttributes s.device.address h)
    (read : writeRecords body = (records, ending))
    (accepted : c.Accepts h.cluster records) :
    c.changes (h.encode ++ body) s = c.asked h.cluster records := by
  have fits : c.replySize { header := h, body } s .write ≤ maxReply :=
    Nat.le_trans (replySize_le read accepted) (by decide)
  unfold changes
  rw [Packet.ofBytes?_encode]
  dsimp only
  rw [asks.route rfl]
  dsimp only
  rw [if_pos fits, replied, read]

end Cube

/-- Records that stand in a body are judged by their verdicts. -/
theorem Leading.accepts {ω : Type} {c : Cube ω} {cluster : UInt16} {body rest : List UInt8}
    {records : List WriteRecord} (leading : Leading body records rest)
    (accepted : ∀ record ∈ records, c.verdict cluster record = none) : c.Accepts cluster records := by
  induction leading with
  | stop last => exact fun record mem => absurd mem List.not_mem_nil
  | @next bytes others rest record records first more ih =>
    obtain ⟨here, there⟩ := List.forall_mem_cons.mp accepted
    refine List.forall_mem_cons.mpr ⟨?_, ih there⟩
    rw [← c.refusal_judge first] at here
    cases judged : c.judge cluster record with
    | ok change => exact ⟨change, rfl⟩
    | error status =>
      rw [judged] at here
      cases here

namespace Tape

/-- Writes of accepted records that end alike are answered alike. -/
theorem exists_answer {ω : Type} {c : Cube ω} (tape : Tape c.board) {s : Machine ω} {h : Header}
    (asks : c.Asks .writeAttributes s.device.address h) (ending : WriteEnding) :
    ∃ payload : List UInt8, ∀ {body : List UInt8} {records : List WriteRecord},
      writeRecords body = (records, ending) → c.Accepts h.cluster records →
      let t := c.dispatch tape.sink (h.encode ++ body) s
      t.1 = .responded payload.length ∧
        tape.sent t.2.world = tape.sent s.world ++ wire c.config.crc payload := by
  obtain ⟨tail, wrote⟩ := tape.exists_tail h ending
  refine ⟨(h.reply s.device.address Command.writeAttributesResponse.code).encode ++ tail, ?_⟩
  intro body records read accepted
  have fits : c.replySize { header := h, body } s .write ≤ Cube.maxReply :=
    Nat.le_trans (Cube.replySize_le read accepted) (by decide)
  obtain ⟨t, answered, -, sent⟩ := dispatch_of_wrote (Packet.ofBytes?_encode h body) (asks.route rfl)
    fits (wrote read accepted (tape.wrote_opened _ s))
  intro t'
  have done : t' = _ := answered
  rw [done]
  exact ⟨rfl, sent⟩

end Tape

/-! ## Reordered writes -/

/-- **Independent writes.** Over a store that works, two writes whose records are all accepted, and are the
same up to an order in which the records of each attribute stay in theirs, are answered with one and the
same reply, and leave the device and its store the same. So they do the clock where it moves only when it
is set, and the power. -/
theorem independent_writes_commute {ω : Type} {c : Cube ω} (tape : Tape c.board)
    (store : c.board.KeyValue) (spares : store.Spares tape.sink) {s : Machine ω}
    (working : store.working s.world) {h : Header} (asks : c.Asks .writeAttributes s.device.address h)
    {body body' rest : List UInt8} {records records' : List WriteRecord}
    (leading : Leading body records rest) (leading' : Leading body' records' rest)
    (accepted : ∀ record ∈ records, c.verdict h.cluster record = none)
    (reordered : Reordered records records') :
    let one := c.dispatch tape.sink (h.encode ++ body) s
    let other := c.dispatch tape.sink (h.encode ++ body') s
    (∃ payload, one.1 = .responded payload.length ∧ other.1 = .responded payload.length ∧
      tape.sent one.2.world = tape.sent s.world ++ wire c.config.crc payload ∧
      tape.sent other.2.world = tape.sent s.world ++ wire c.config.crc payload) ∧
    other.2.device = one.2.device ∧ store.records other.2.world = store.records one.2.world ∧
    (c.board.Steady → c.board.SparesTime tape.sink → c.board.SameTime one.2.world other.2.world) ∧
    ∀ m : Meter c, (∀ byte w, m.hooks (tape.sink byte w) = m.hooks w) →
      m.hooks other.2.world = m.hooks one.2.world := by
  intro one other
  have judged := leading.accepts accepted
  have judged' : c.Accepts h.cluster records' :=
    fun record mem => judged record (reordered.perm.mem_iff.mp mem)
  -- the changes of the two messages come to the same wherever those of two settings commute
  have alike {σ : Type} {f : σ → Change → σ}
      (comm : ∀ x y : Change, x.setting ≠ y.setting → ∀ s, f (f s x) y = f (f s y) x) (x : σ) :
      (c.changes (h.encode ++ body') s).foldl f x = (c.changes (h.encode ++ body) s).foldl f x := by
    rw [Cube.changes_accepted asks leading.writeRecords_eq judged,
      Cube.changes_accepted asks leading'.writeRecords_eq judged', Cube.foldl_asked_reordered comm reordered]
  obtain ⟨k, depicted⟩ := Snapshot.exists_depicts working
  have snapshots := alike (fun x y apart k => k.carryOut_comm apart) k
  have shown := depicted.shows.dispatch spares (h.encode ++ body)
  have shown' := depicted.shows.dispatch spares (h.encode ++ body')
  rw [snapshots] at shown'
  refine ⟨?_, shown'.device.trans shown.device.symm, shown'.world.2.trans shown.world.2.symm, ?_, ?_⟩
  · obtain ⟨payload, answers⟩ := tape.exists_answer asks (.ofRest rest)
    obtain ⟨answered, sent⟩ := answers leading.writeRecords_eq judged
    obtain ⟨answered', sent'⟩ := answers leading'.writeRecords_eq judged'
    exact ⟨payload, answered, answered', sent, sent'⟩
  · intro steady spared
    have timed := depicted.dispatch steady spares spared (h.encode ++ body)
    have timed' := depicted.dispatch steady spares spared (h.encode ++ body')
    rw [snapshots] at timed'
    exact ⟨timed'.now.trans timed.now.symm, timed'.zone.trans timed.zone.symm⟩
  · intro m quiet
    have told := m.told_dispatch quiet (h.encode ++ body) s
    have told' := m.told_dispatch quiet (h.encode ++ body') s
    rw [alike Meter.follow_comm] at told'
    exact congrArg Prod.snd (told'.trans told.symm)

namespace Bench

/-- To sleep, to another address, to the playlist, and to another time. -/
def restlessBody : List UInt8 :=
  [0x01, 0x00, 0x30, 0x00] ++ ([0x12, 0x00, 0xF0, 7, 0, 0, 0, 0, 0, 0, 0] ++
    ([0x01, 0x00, 0x30, 0x02] ++ ([0x05, 0x00, 0xE2, 60, 0, 0, 0] ++ [])))

/-- The same with the address first and the time before the playlist. -/
def reorderedBody : List UInt8 :=
  [0x12, 0x00, 0xF0, 7, 0, 0, 0, 0, 0, 0, 0] ++ ([0x01, 0x00, 0x30, 0x00] ++
    ([0x05, 0x00, 0xE2, 60, 0, 0, 0] ++ ([0x01, 0x00, 0x30, 0x02] ++ [])))

theorem restlessBody_leading :
    Leading restlessBody [⟨1, .enum8 0⟩, ⟨0x12, .ieeeAddress 7⟩, ⟨1, .enum8 2⟩, ⟨5, .utcTime 60⟩] [] :=
  .next (.record 1 (.enum8 0)) (.next (.record 0x12 (.ieeeAddress 7)) (.next (.record 1 (.enum8 2))
    (.next (.record 5 (.utcTime 60)) (.stop_of_writeRecords (by rw [writeRecords.eq_def])))))

theorem reorderedBody_leading :
    Leading reorderedBody [⟨0x12, .ieeeAddress 7⟩, ⟨1, .enum8 0⟩, ⟨5, .utcTime 60⟩, ⟨1, .enum8 2⟩] [] :=
  .next (.record 0x12 (.ieeeAddress 7)) (.next (.record 1 (.enum8 0)) (.next (.record 5 (.utcTime 60))
    (.next (.record 1 (.enum8 2)) (.stop_of_writeRecords (by rw [writeRecords.eq_def])))))

/-- The sample cube moves, wakes up and keeps the time in either order. -/
theorem restlessBody_reordered :
    let one :=
      sampleCube.dispatch traySink ((sampleHeader .writeAttributes).encode ++ restlessBody) newMachine
    let other :=
      sampleCube.dispatch traySink ((sampleHeader .writeAttributes).encode ++ reorderedBody) newMachine
    one.1 = .responded 18 ∧ one.2.device.address = 7 ∧ one.2.device.mode = .playlist ∧
      sampleMeter.hooks one.2.world = [.shutdown, .start] ∧
      other.1 = .responded 18 ∧ sampleTape.sent other.2.world = sampleTape.sent one.2.world ∧
      other.2.device = one.2.device ∧ other.2.world.world.get? = one.2.world.world.get? ∧
      sampleBoard.SameTime one.2.world other.2.world ∧
      sampleMeter.hooks other.2.world = sampleMeter.hooks one.2.world := by
  have asks : sampleCube.Asks .writeAttributes newMachine.device.address
      (sampleHeader .writeAttributes) := ⟨rfl, .inr rfl, rfl, rfl, rfl, rfl, rfl⟩
  have reordered : Reordered
      [⟨1, .enum8 0⟩, ⟨0x12, .ieeeAddress 7⟩, ⟨1, .enum8 2⟩, ⟨5, .utcTime 60⟩]
      [⟨0x12, .ieeeAddress 7⟩, ⟨1, .enum8 0⟩, ⟨5, .utcTime 60⟩, ⟨1, .enum8 2⟩] :=
    (Reordered.swap (by decide) [] _).trans (Reordered.swap (by decide) [_, _] [])
  have working : sampleStore.working newMachine.world := ⟨rfl, rfl⟩
  obtain ⟨⟨payload, answered, answered', sent, sent'⟩, device, records, time, power⟩ :=
    independent_writes_commute (c := sampleCube) sampleTape sampleStore traySink_spares working asks
      restlessBody_leading reorderedBody_leading (by decide +kernel) reordered
  intro one other
  have length : one.1 = .responded 18 := by decide +kernel
  have told := sent'.trans sent.symm
  have quiet : ∀ byte w, sampleMeter.hooks (traySink byte w) = sampleMeter.hooks w := fun _ _ => rfl
  have powered := power sampleMeter quiet
  have timed := time sampleBoard_steady traySink_sparesTime
  refine ⟨length, ?_, ?_, ?_, ?_, ?_, ?_, ?_, ?_, ?_⟩
  · decide +kernel
  · decide +kernel
  · decide +kernel
  · exact (answered'.trans answered.symm).trans length
  · exact told
  · exact device
  · exact records
  · exact timed
  · exact powered

end Bench

end VoxelCube
