/-
What a time report does to the clock. The records at the front of its body are the ones that it spells one
after the other, as many as there are of them. Each sets the time and then the zone, and nothing else is
called, whatever comes after the last of them.
-/
import VoxelCube.Bench.Recorded
import VoxelCube.Bench.Sample
import VoxelCube.Proofs.Device.Twins
import VoxelCube.Proofs.Reply.Footprint

namespace VoxelCube

/-! ## Records at the front of a body -/

namespace Word

theorem ofBytes_toBytes_uint32 (n : UInt32) : UInt32.ofNat (ofBytes (toBytes 4 n.toNat)) = n := by
  rw [ofBytes_toBytes]
  simp [limit]

theorem toBytes_ofBytes_uint32 {bytes : List UInt8} (four : bytes.length = 4) :
    toBytes 4 (UInt32.ofNat (ofBytes bytes)).toNat = bytes := by
  have bound : ofBytes bytes < UInt32.size := by
    have := ofBytes_lt bytes
    rwa [four] at this
  rw [UInt32.toNat_ofNat_of_lt' bound, ← four]
  exact toBytes_ofBytes bytes

end Word

namespace TimeRecord

/-- The bytes of a record: the number, the tag and the count of its value, then the time and the zone. -/
def spelling (record : TimeRecord) : List UInt8 :=
  [0x03, 0x04, 0x41, 0x08] ++ Word.toBytes 4 record.seconds.toNat ++
    Word.toBytes 4 record.zone.toUInt32.toNat

@[simp] theorem length_spelling (record : TimeRecord) : record.spelling.length = width := by
  simp [spelling, width]

theorem read?_spelling (record : TimeRecord) (rest : List UInt8) :
    read? (record.spelling ++ rest) = some (record, rest) := by
  have taken : split? width (record.spelling ++ rest) = some (record.spelling, rest) := by
    rw [split?_eq, if_pos (by simp), ← length_spelling record, List.take_left, List.drop_left]
  unfold read?
  rw [taken]
  have front : record.spelling.take 4 = lead := rfl
  have seconds : (record.spelling.drop 4).take 4 = Word.toBytes 4 record.seconds.toNat := rfl
  have zone : record.spelling.drop 8 = Word.toBytes 4 record.zone.toUInt32.toNat := rfl
  dsimp only
  rw [if_pos front, seconds, zone, Word.ofBytes_toBytes_uint32, Word.ofBytes_toBytes_uint32,
    Int32.toInt32_toUInt32]

/-- The bytes in which a record was found are its spelling. -/
theorem spelling_of_lead {front : List UInt8} (long : front.length = width) (begins : front.take 4 = lead) :
    spelling ⟨UInt32.ofNat (Word.ofBytes ((front.drop 4).take 4)),
      (UInt32.ofNat (Word.ofBytes (front.drop 8))).toInt32⟩ = front := by
  have seconds : ((front.drop 4).take 4).length = 4 := by
    rw [List.length_take, List.length_drop, long]
    rfl
  have zone : (front.drop 8).length = 4 := by
    rw [List.length_drop, long]
    rfl
  unfold spelling
  dsimp only
  rw [UInt32.toUInt32_toInt32, Word.toBytes_ofBytes_uint32 seconds, Word.toBytes_ofBytes_uint32 zone,
    List.append_assoc]
  calc lead ++ ((front.drop 4).take 4 ++ front.drop 8)
    _ = lead ++ front.drop 4 := by rw [← List.drop_drop (i := 4) (j := 4), List.take_append_drop]
    _ = front := by rw [← begins, List.take_append_drop]

/-- What is read from the front of a body is what is spelled there. -/
theorem read?_eq_some_iff {body rest : List UInt8} {record : TimeRecord} :
    read? body = some (record, rest) ↔ body = record.spelling ++ rest := by
  refine ⟨fun read => ?_, fun spelled => spelled ▸ read?_spelling record rest⟩
  unfold read? at read
  rw [split?_eq] at read
  by_cases long : width ≤ body.length
  · rw [if_pos long] at read
    dsimp only at read
    by_cases begins : (body.take width).take 4 = lead
    · rw [if_pos begins] at read
      cases read
      rw [spelling_of_lead (List.length_take_of_le long) begins, List.take_append_drop]
    · rw [if_neg begins] at read
      cases read
  · rw [if_neg long] at read
    cases read

/-! ## All records of a body -/

theorem readAll_eq_nil {body : List UInt8} (none : read? body = none) : readAll body = [] := by
  rw [readAll]
  split
  · next read => rw [none] at read; cases read
  · rfl

theorem readAll_append (record : TimeRecord) (rest : List UInt8) :
    readAll (record.spelling ++ rest) = record :: readAll rest := by
  rw [readAll]
  split
  · next read =>
    rw [read?_spelling] at read
    cases read
    rfl
  · next read =>
    rw [read?_spelling] at read
    cases read

/-- Records that are spelled in front of a body are the first ones read. -/
theorem readAll_flatMap (records : List TimeRecord) (rest : List UInt8) :
    readAll (records.flatMap spelling ++ rest) = records ++ readAll rest := by
  induction records with
  | nil => rfl
  | cons record records ih =>
    rw [List.flatMap_cons, List.append_assoc, readAll_append, ih, List.cons_append]

/-- A body spells the records that are read from it, and goes on with something that begins with none. -/
theorem exists_rest (body : List UInt8) :
    ∃ rest, body = (readAll body).flatMap spelling ++ rest ∧ readAll rest = [] := by
  induction body using readAll.induct with
  | case1 body record rest read _ ih =>
    obtain ⟨last, spelled, ends⟩ := ih
    obtain rfl := read?_eq_some_iff.mp read
    refine ⟨last, ?_, ends⟩
    rw [readAll_append, List.flatMap_cons, List.append_assoc, ← spelled]
  | case2 body read =>
    have none := readAll_eq_nil read
    exact ⟨body, by rw [none]; rfl, none⟩

/-- No other records are in front of a body than the first of those that are read. -/
theorem prefix_readAll {body last : List UInt8} {others : List TimeRecord}
    (spelled : body = others.flatMap spelling ++ last) : others <+: readAll body := by
  rw [spelled, readAll_flatMap]
  exact List.prefix_append others _

end TimeRecord

/-! ## The calls of a report -/

/-- What is called for a record: the time is set to the seconds since 1970, then the zone is set. -/
def TimeRecord.calls {ν : Type} (record : TimeRecord) : List (Call ν) :=
  [.setTime (record.seconds + 946684800), .setZone record.zone]

namespace Cube

variable {ω ν : Type} (c : Cube (Recorded ω ν)) (b : Board ω)

/-- A record makes its two calls, whatever was called before. -/
theorem calls_setClock (record : TimeRecord) (w : Recorded ω ν) :
    (b.recorded.setZone record.zone (b.recorded.setTime (record.seconds + epochOffset) w)).calls =
      w.calls ++ record.calls := by
  simp [Board.recorded, Recorded.calls, Recorded.record, TimeRecord.calls, epochOffset]

theorem calls_takeTimeReport (body : List UInt8) (w : Recorded ω ν) :
    ((c.on b.recorded).takeTimeReport body w).calls =
      w.calls ++ (TimeRecord.readAll body).flatMap TimeRecord.calls := by
  unfold takeTimeReport
  generalize TimeRecord.readAll body = records
  induction records generalizing w with
  | nil => exact (List.append_nil _).symm
  | cons record records ih =>
    rw [List.foldl_cons, ih, calls_setClock, List.flatMap_cons, List.append_assoc]

/-- A message that tells the time is applied: its body goes to the clock, and the device stays as it is. -/
theorem TellsTime.dispatch {c : Cube ω} {s : Machine ω} {h : Header}
    (tells : c.TellsTime s.device.address h) (sink : Sink ω) (body : List UInt8) :
    c.dispatch sink (h.encode ++ body) s =
      (.applied, { s with world := c.takeTimeReport body s.world }) := by
  unfold Cube.dispatch
  rw [Packet.ofBytes?_encode]
  dsimp only
  rw [tells.route]

/-- **Time reports.** The body of a report spells the records that are read from it, and these are all that
it spells at its front. Each of them makes the two calls to the clock, in their order, and nothing else is
called, whatever follows the last of them; so a message that tells the time is carried out. -/
theorem timeReport_calls (sink : Sink (Recorded ω ν)) (body : List UInt8) (s : Machine (Recorded ω ν))
    (h : Header) (tells : (c.on b.recorded).TellsTime s.device.address h) :
    let records := TimeRecord.readAll body
    let w := (c.on b.recorded).takeTimeReport body s.world
    (∃ rest, body = records.flatMap TimeRecord.spelling ++ rest) ∧
    (∀ others last, body = others.flatMap TimeRecord.spelling ++ last → others <+: records) ∧
    w.calls = s.world.calls ++ records.flatMap (fun record =>
      [.setTime (record.seconds + 946684800), .setZone record.zone]) ∧
    (c.on b.recorded).dispatch sink (h.encode ++ body) s = (.applied, { s with world := w }) := by
  intro records w
  obtain ⟨rest, spelled, -⟩ := TimeRecord.exists_rest body
  refine ⟨⟨rest, spelled⟩, fun others last => TimeRecord.prefix_readAll, ?_, tells.dispatch sink body⟩
  exact calls_takeTimeReport c b body s.world

end Cube

namespace Bench

/-- A report of the time to the configuration endpoint of every sample cube. -/
def reportHeader : Header :=
  { sampleHeader .reportAttributes with endpoint := 1, cluster := Cluster.time.code }

/-- Two records, the first of them with the latest time, and a third that breaks off before its last byte. -/
def brokenReport : List UInt8 :=
  [⟨0xFFFFFFFF, 3600⟩, ⟨60, -7200⟩].flatMap TimeRecord.spelling ++
    (TimeRecord.spelling ⟨61, 0⟩).take 11

/-- The time of the first record wraps around, and the third one sets nothing. -/
theorem brokenReport_calls :
    let t := sampleCube.dispatch traySink (reportHeader.encode ++ brokenReport) newMachine
    t.1 = .applied ∧ t.2.device = newMachine.device ∧
      t.2.world.calls = newMachine.world.calls ++
        [.setTime 946684799, .setZone 3600, .setTime 946684860, .setZone (-7200)] := by
  have tells : (sampleCube.on Memory.board.recorded).TellsTime newMachine.device.address reportHeader :=
    ⟨rfl, .inr rfl, rfl, rfl, rfl, rfl, rfl⟩
  obtain ⟨-, -, calls, told⟩ :=
    Cube.timeReport_calls sampleCube Memory.board traySink brokenReport newMachine reportHeader tells
  have records : TimeRecord.readAll brokenReport = [⟨0xFFFFFFFF, 3600⟩, ⟨60, -7200⟩] := by
    have broken : TimeRecord.readAll ((TimeRecord.spelling ⟨61, 0⟩).take 11) = [] :=
      TimeRecord.readAll_eq_nil (by decide)
    rw [brokenReport, TimeRecord.readAll_flatMap, broken]
    rfl
  rw [records] at calls
  intro t
  have result : t = _ := told
  rw [result]
  exact ⟨rfl, rfl, calls⟩

end Bench

end VoxelCube
