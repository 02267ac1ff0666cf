/-
Messages that come again. A sender that misses a reply sends its message once more, and over a store that
works and a clock that moves only when it is set, that changes nothing: either the message asks for the
same changes again, each of which it made before, or it gave the device another address and is now
ignored.
-/
import VoxelCube.Proofs.Device.Snapshot
import VoxelCube.Proofs.Reply.Passes

namespace VoxelCube

open Store

variable {ω : Type} {c : Cube ω} {sink : Sink ω} {k : Snapshot} {s t : Machine ω}

/-- A message asks for the same changes after it was carried out, or for none. -/
theorem Snapshot.foldl_changes_again {store : c.board.KeyValue} (payload : List UInt8)
    (before : k.Depicts store s)
    (after : ((c.changes payload s).foldl Snapshot.carryOut k).Depicts store t) :
    (c.changes payload t).foldl Snapshot.carryOut ((c.changes payload s).foldl Snapshot.carryOut k) =
      (c.changes payload s).foldl Snapshot.carryOut k := by
  by_cases first : c.changes payload s = []
  · -- nothing changed, not even the address
    rw [first] at after ⊢
    have same : t.device = s.device := after.device.trans before.device.symm
    rw [Cube.changes_congr (s := t) (t := s) (by rw [same]), first]
    rfl
  · by_cases second : c.changes payload t = []
    · rw [second]
      rfl
    · rw [Cube.changes_eq_of_ne_nil second first]
      exact k.foldl_of_subset (List.Subset.refl _)

/-- **Repetition.** Over a store that works and a clock that moves only when it is set, a message that is
dispatched twice in a row leaves the device, the records of the store and the clock as it does when it is
dispatched once, whatever it is and asks for, also where it changes the address of the device. -/
theorem dispatch_twice_as_once (store : c.board.KeyValue) (steady : c.board.Steady)
    (spares : store.Spares sink) (spared : c.board.SparesTime sink) (working : store.working s.world)
    (payload : List UInt8) :
    let once := (c.dispatch sink payload s).2
    let twice := (c.dispatch sink payload once).2
    twice.device = once.device ∧ store.records twice.world = store.records once.world ∧
      c.board.SameTime once.world twice.world := by
  obtain ⟨k, before⟩ := Snapshot.exists_depicts working
  have first := before.dispatch steady spares spared payload
  have second := first.dispatch steady spares spared payload
  rw [Snapshot.foldl_changes_again payload before first] at second
  exact ⟨second.device.trans first.device.symm, second.world.2.trans first.world.2.symm,
    second.now.trans first.now.symm, second.zone.trans first.zone.symm⟩

namespace Bench

/-- A write to the new sample cube of two modes, and of another address between them. -/
def movingWrite : List UInt8 :=
  ({ sampleHeader .writeAttributes with address := newMachine.device.address } : Header).encode ++
    ([0x01, 0x00, 0x30, 0x03] ++ [0x12, 0x00, 0xF0, 7, 0, 0, 0, 0, 0, 0, 0] ++ [0x01, 0x00, 0x30, 0x02])

/-- The write that moved the sample cube is ignored when it comes again. -/
theorem movingWrite_again :
    let once := (sampleCube.dispatch traySink movingWrite newMachine).2
    let again := sampleCube.dispatch traySink movingWrite once
    once.device.address = 7 ∧ once.device.mode = .playlist ∧ again.1 = .ignored ∧
      again.2.device = once.device ∧ again.2.world.world.get? = once.world.world.get? := by
  have working : sampleStore.working newMachine.world := ⟨rfl, rfl⟩
  obtain ⟨device, records, -⟩ := dispatch_twice_as_once (c := sampleCube) sampleStore sampleBoard_steady
    traySink_spares traySink_sparesTime working movingWrite
  exact ⟨by decide +kernel, by decide +kernel, by decide +kernel, device, records⟩

end Bench

end VoxelCube
