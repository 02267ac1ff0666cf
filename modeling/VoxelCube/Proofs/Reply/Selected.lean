/-
The selection that is reported. A device runs the effect or the playlist that a sync took over from its
store, or the first one where the number there is out of range; whoever reads the attribute is told the
number in the store as it is. So a device reports what it runs exactly as long as that number is in
range. No message puts another one there, but a store may have come with one.
-/
import VoxelCube.Proofs.Device.Reboot
import VoxelCube.Proofs.Reply.ReadBack

namespace VoxelCube

open Store

variable {ω : Type} {c : Cube ω} {store : c.board.KeyValue} {r : Contents} {s : Machine ω} {w : ω}
  {key : Key} {count : Nat} {n : UInt8} {a : Attribute}

/-! ## Numbers in range -/

/-- The number in a record, if it holds one, is below the count. -/
def Store.Contents.Within (r : Contents) (key : Key) (count : Nat) : Prop :=
  ∀ n, byteIn (r.answer key valueRoom) = .ok n → n.toNat < count

theorem Store.Contents.within_set_other {other : Key} (apart : key ≠ other) (record : List UInt8) :
    (r.set other record).Within key count ↔ r.Within key count := by
  unfold Within
  rw [r.answer_set_other apart]

theorem Store.Contents.within_set_same (known : n.toNat < count) : (r.set key [n]).Within key count := by
  have fits : [n].length ≤ valueRoom := by simp [valueRoom]
  intro m kept
  rw [r.answer_set_same fits] at kept
  cases kept
  exact known

namespace Cube

/-- A number that was read is what is taken over exactly where it is in range. -/
theorem getD_orFirst_eq_iff {ε : Type} (some : 0 < count) (read : Except ε UInt8) :
    read.toOption.getD (orFirst count read) = orFirst count read ↔
      ∀ n, read = .ok n → n.toNat < count := by
  cases read with
  | error e =>
    refine ⟨fun _ n none => ?_, fun _ => rfl⟩
    cases none
  | ok n =>
    show n = orFirst count (.ok n : Except ε UInt8) ↔ _
    constructor
    · rintro same m ⟨⟩
      rw [same]
      exact orFirst_lt some _
    · intro known
      exact (if_pos (known n rfl)).symm

/-! ## Messages -/

/-- A change that an attribute takes puts no number out of range into the store. -/
theorem Takes.record_within {v : Value} {change : Change} {record : List UInt8} (takes : c.Takes a v change)
    (written : change.record? = some (key, record)) :
    (key = .effect → ∃ n, record = [n] ∧ n.toNat < c.effects.length) ∧
      (key = .playlist → ∃ n, record = [n] ∧ n.toNat < c.playlists.count) := by
  cases takes with
  | playlist exists' | effect exists' =>
    cases written
    refine ⟨?_, ?_⟩ <;> rintro ⟨⟩
    exact ⟨_, rfl, exists'⟩
  | _ => cases written <;> exact ⟨nofun, nofun⟩

/-- What all changes that are taken write in range, a message leaves in range. -/
theorem dispatch_within
    (fits : ∀ {a v change record}, c.Takes a v change → change.record? = some (key, record) →
      ∃ n : UInt8, record = [n] ∧ n.toNat < count)
    {sink : Sink ω} (spares : store.Spares sink) (payload : List UInt8)
    (h : store.Has r s.world ∧ r.Within key count) :
    ∃ r, store.Has r (c.dispatch sink payload s).2.world ∧ r.Within key count := by
  refine dispatch_of_changes (P := fun r s => store.Has r s.world ∧ r.Within key count) spares
    (fun h => h.1) (fun h has => ⟨has, h.2⟩) ?change payload h
  case change =>
    rintro cluster record change r s judged ⟨has, known⟩
    obtain ⟨a, -, takes⟩ := Takes.exists_of_judge judged
    rcases carryOut_has has change with same | ⟨other, written, which, has⟩
    · exact ⟨r, same, known⟩
    · refine ⟨_, has, ?_⟩
      by_cases same : key = other
      · subst same
        obtain ⟨n, rfl, known⟩ := fits takes which
        exact Contents.within_set_same known
      · exact (Contents.within_set_other same _).mpr known

end Cube

/-! ## Reads -/

/-- While a reply is sent the store stays as it is. -/
theorem Board.KeyValue.Has.answering {sink : Sink ω} (h : store.Has r s.world)
    (spares : store.Spares sink) (moment : c.board.Answering sink s.world w) : store.Has r w := by
  induction moment with
  | start => exact h
  | put _ byte ih => exact spares r byte _ ih
  | read _ key room ih => exact ih.read key room

namespace Tape

/-- Everyone is told the number that runs exactly as long as the one in the record is in range. Where it
is not, that one is told, and the first one runs. -/
structure Shows (tape : Tape c.board) (s : Machine ω) (a : Attribute) (r : Contents) (key : Key)
    (count : Nat) (running : UInt8) : Prop where
  told_iff : tape.Returns s a (.uint8 running) ↔ r.Within key count
  stray : ∀ n, byteIn (r.answer key valueRoom) = .ok n → count ≤ n.toNat →
    running = 0 ∧ tape.Returns s a (.uint8 n)

variable {tape : Tape c.board} {running : UInt8}

/-- A number that was taken over from a record is shown as the record allows. -/
theorem Returns.shows (some : 0 < count)
    (told : tape.Returns s a (.uint8 ((byteIn (r.answer key valueRoom)).toOption.getD running)))
    (kept : running = Cube.orFirst count (byteIn (r.answer key valueRoom))) :
    tape.Shows s a r key count running := by
  have same := Cube.getD_orFirst_eq_iff some (byteIn (r.answer key valueRoom))
  rw [← kept] at same
  refine ⟨⟨fun told' => ?_, fun known => ?_⟩, fun n read high => ?_⟩
  · exact same.mp (Value.uint8.inj (told.unique told'))
  · exact same.mpr known ▸ told
  · rw [read] at told kept
    exact ⟨kept.trans (if_neg (Nat.not_lt.mpr high)), told⟩

variable (h : store.Has r s.world) (spares : store.Spares tape.sink)
include h spares

theorem returns_number (readable : a.row.access.isReadable = true) (shown : a.setting? ≠ none)
    (reports : ∀ w, store.Has r w → c.report { s with world := w } a = .uint8 n) :
    tape.Returns s a (.uint8 n) := by
  refine returns_of_report readable (fun w moment => reports w (h.answering spares moment)) ?_
  have size := c.answerSize_le shown s
  unfold Cube.maxReply
  omega

/-- Whoever reads the effect is told the number in the store, or the running one where there is none. -/
theorem returns_effect : tape.Returns s .effect
    (.uint8 ((byteIn (r.answer .effect valueRoom)).toOption.getD s.device.effect)) :=
  returns_number h spares rfl (by decide) fun w kept =>
    congrArg Value.uint8 (Cube.numberAt_eq (s := { s with world := w }) kept .effect _)

/-- Whoever reads the playlist is told the number in the store, or the playing one where there is none. -/
theorem returns_playlist : tape.Returns s .playlist
    (.uint8 ((byteIn (r.answer .playlist valueRoom)).toOption.getD s.device.playlist)) :=
  returns_number h spares rfl (by decide) fun w kept =>
    congrArg Value.uint8 (Cube.numberAt_eq (s := { s with world := w }) kept .playlist _)

end Tape

/-! ## Runs -/

namespace Cube

/-- A device that was only sent messages and synced since it booted is in a run. -/
theorem Run.performAll (run : c.Run store s) {ops : List (Operation ω)}
    (asked : ∀ op ∈ ops, op = .sync ∨ ∃ sink payload, store.Spares sink ∧ op = .dispatch sink payload) :
    c.Run store (c.performAll ops s) := by
  induction ops generalizing s with
  | nil => exact run
  | cons op rest ih =>
    obtain ⟨first, others⟩ := List.forall_mem_cons.mp asked
    refine ih (run.perform ?_) others
    rcases first with rfl | ⟨sink, payload, spares, rfl⟩
    · trivial
    · exact spares

/-- Once all that was changed is taken over, a device shows the record of what it runs. -/
theorem Run.shows (run : c.Run store s) (tape : Tape c.board) (spares : store.Spares tape.sink)
    (clean : s.device.dirty = .none) :
    let r := store.records s.world
    (s.device.mode = .effect →
      tape.Shows s .effect r .effect c.effects.length s.device.effect) ∧
    (s.device.mode = .playlist →
      tape.Shows s .playlist r .playlist c.playlists.count s.device.playlist) := by
  obtain ⟨r, h⟩ := run.remembers
  obtain rfl : store.records s.world = r := h.world.2
  refine ⟨fun running => ?_, fun playing => ?_⟩
  · refine (Tape.returns_effect h.world spares).shows c.effects_pos ?_
    exact h.effect running (by rw [clean]; rfl) (by rw [clean]; rfl)
  · refine (Tape.returns_playlist h.world spares).shows c.playlists.count_pos ?_
    exact h.playlist playing (by rw [clean]; rfl) (by rw [clean]; rfl)

/-- Messages and syncs leave a record in range that no change takes out of it. -/
theorem performAll_within
    (fits : ∀ {a v change record}, c.Takes a v change → change.record? = some (key, record) →
      ∃ n : UInt8, record = [n] ∧ n.toNat < count)
    {ops : List (Operation ω)}
    (asked : ∀ op ∈ ops, op = .sync ∨ ∃ sink payload, store.Spares sink ∧ op = .dispatch sink payload)
    (h : store.Has r s.world) (known : r.Within key count) :
    (store.records (c.performAll ops s).world).Within key count := by
  suffices kept : ∃ r, store.Has r (c.performAll ops s).world ∧ r.Within key count by
    obtain ⟨r, has, known⟩ := kept
    rwa [has.2]
  induction ops generalizing s r with
  | nil => exact ⟨r, h, known⟩
  | cons op rest ih =>
    obtain ⟨first, others⟩ := List.forall_mem_cons.mp asked
    rcases first with rfl | ⟨sink, payload, spares, rfl⟩
    · have synced : store.Has r (c.sync s).world :=
        c.sync_world s (fun key room _ has => has.read key room) h
      exact ih others synced known
    · obtain ⟨r, has, known⟩ := dispatch_within fits spares payload ⟨h, known⟩
      exact ih others has known

end Cube

/-- **The reported selection.** A device that booted over any store that works, and was sent messages and
synced in any order since, tells everyone the effect or the playlist that it runs, when all that was
changed is taken over, exactly where the number in the store is in range. Where it is not, the first
effect or playlist runs, and the number is told. Messages leave a number in range that was. -/
theorem reported_selection_runs (tape : Tape c.board) (spares : store.Spares tape.sink)
    (working : store.working w) {ops : List (Operation ω)}
    (asked : ∀ op ∈ ops, op = .sync ∨ ∃ sink payload, store.Spares sink ∧ op = .dispatch sink payload) :
    let s := c.performAll ops (c.boot (c.machine w))
    let r := store.records s.world
    (s.device.dirty = .none →
      (s.device.mode = .effect →
        tape.Shows s .effect r .effect c.effects.length s.device.effect) ∧
      (s.device.mode = .playlist →
        tape.Shows s .playlist r .playlist c.playlists.count s.device.playlist)) ∧
    ((store.records w).Within .effect c.effects.length → r.Within .effect c.effects.length) ∧
    ((store.records w).Within .playlist c.playlists.count → r.Within .playlist c.playlists.count) := by
  intro s r
  have run : c.Run store s := (Cube.Run.boot working).performAll asked
  have booted : store.Has (store.records w) (c.boot (c.machine w)).world :=
    (Cube.Remembers.boot ⟨working, rfl⟩).world
  refine ⟨run.shows tape spares, ?_, ?_⟩
  · exact Cube.performAll_within (fun takes written => (takes.record_within written).1 rfl) asked booted
  · exact Cube.performAll_within (fun takes written => (takes.record_within written).2 rfl) asked booted

namespace Bench

/-- The sample cube after it was sent to its second playlist plays that, and says so. -/
theorem reportedPlaylist_runs :
    let s := sampleCube.performAll [.dispatch traySink playMessage, .sync]
      (sampleCube.boot (sampleCube.machine { world := {} }))
    s.device.playlist = 1 ∧ Tape.Returns (c := sampleCube) sampleTape s .playlist (.uint8 1) := by
  intro s
  have asked : ∀ op ∈ ([.dispatch traySink playMessage, .sync] : List (Operation World)), op = .sync ∨
      ∃ sink payload, sampleStore.Spares sink ∧ op = .dispatch sink payload := by
    simp [traySink_spares]
  obtain ⟨shows, -, known⟩ := reported_selection_runs (c := sampleCube) (w := { world := {} }) sampleTape
    traySink_spares ⟨rfl, rfl⟩ asked
  have playing : s.device.mode = .playlist ∧ s.device.dirty = .none ∧ s.device.playlist = 1 := by
    decide +kernel
  refine ⟨playing.2.2, ?_⟩
  have told := ((shows playing.2.1).2 playing.1).told_iff.mpr (known nofun)
  rwa [playing.2.2] at told

/-- A store that holds an effect which the sample cube does not have, and the mode that runs it. -/
def strayWorld : World :=
  { world := ({} : Memory).put .operatingMode (some [Mode.effect.code]) |>.put .effect (some [200]) }

/-- The sample cube runs its first effect over this store, and reports another one. -/
theorem strayEffect_misreported :
    let s := sampleCube.performAll [.sync] (sampleCube.boot (sampleCube.machine strayWorld))
    s.device.mode = .effect ∧ s.device.dirty = .none ∧ s.device.effect = 0 ∧
      Tape.Returns (c := sampleCube) sampleTape s .effect (.uint8 200) ∧
      ¬Tape.Returns (c := sampleCube) sampleTape s .effect (.uint8 s.device.effect) := by
  intro s
  have settled : s.device.mode = .effect ∧ s.device.dirty = .none ∧ s.device.effect = 0 := by
    decide +kernel
  have booted : sampleCube.Run sampleStore (sampleCube.boot (sampleCube.machine strayWorld)) :=
    .boot ⟨by decide +kernel, by decide +kernel⟩
  have run : sampleCube.Run sampleStore s :=
    booted.perform (show Cube.Allowed _ _ .sync from trivial)
  obtain ⟨-, told⟩ := ((run.shows sampleTape traySink_spares settled.2.1).1 settled.1).stray 200
    (by decide +kernel) (by decide +kernel)
  refine ⟨settled.1, settled.2.1, settled.2.2, told, fun told' => ?_⟩
  rw [settled.2.2] at told'
  cases told.unique told'

end Bench

end VoxelCube
