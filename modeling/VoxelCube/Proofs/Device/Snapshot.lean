/-
A device with what its board remembers for it: the records of its store and its clock. Over a store that
keeps what it is given and a clock that moves only when it is set, a change does the same wherever the
same snapshot is taken, so that changes are functions of snapshots. Changes of two settings may be made
in either order, and a change that is made again later need not have been made before.
-/
import VoxelCube.Proofs.Device.Operation
import VoxelCube.Proofs.Reply.Changes
import VoxelCube.Proofs.Store.KeyValue

namespace VoxelCube

open Store

/-! ## Steady clocks -/

namespace Board

variable {ω : Type} (b : Board ω)

/-- It is the same time in two worlds. -/
def SameTime (w w' : ω) : Prop := b.now w' = b.now w ∧ b.zone w' = b.zone w

/-- A sink that leaves the clock alone. -/
def SparesTime (sink : Sink ω) : Prop := ∀ byte w, b.SameTime w (sink byte w)

/-- The clock moves only when it is set. -/
structure Steady : Prop where
  setTime : ∀ seconds w, b.now (b.setTime seconds w) = seconds ∧ b.zone (b.setTime seconds w) = b.zone w
  setZone : ∀ offset w, b.now (b.setZone offset w) = b.now w ∧ b.zone (b.setZone offset w) = offset
  read : ∀ key room w, b.SameTime w (b.read key room w).2
  write : ∀ key record w, b.SameTime w (b.write key record w).2
  powerUp : ∀ w, b.SameTime w (b.powerUp w)
  powerDown : ∀ w, b.SameTime w (b.powerDown w)

variable {b}

theorem SameTime.trans {w w' w'' : ω} (h : b.SameTime w w') (h' : b.SameTime w' w'') :
    b.SameTime w w'' :=
  ⟨h'.1.trans h.1, h'.2.trans h.2⟩

namespace Steady

variable {c : Cube ω} (steady : c.board.Steady) (s : Machine ω) (mode : Mode)
include steady

theorem enter : c.board.SameTime s.world (c.enter mode s).world := by
  rcases c.enter_world s mode with same | up | down
  · rw [same]
    exact ⟨rfl, rfl⟩
  · rw [up]
    exact steady.powerUp s.world
  · rw [down]
    exact steady.powerDown s.world

theorem setMode : c.board.SameTime s.world (c.setMode mode s).world := by
  by_cases same : s.device.mode = mode
  · rw [← same, c.setMode_same]
    exact ⟨rfl, rfl⟩
  · rw [c.setMode_other s same]
    exact (steady.write ..).trans (steady.enter ..)

end Steady

end Board

/-! ## Settings -/

/-- What a change can set. -/
inductive Setting where
  | mode
  | alarmMask
  | text
  | playlist
  | effect
  | zone
  | time
  | address
  deriving DecidableEq, Repr

def Change.setting : Change → Setting
  | .mode _ => .mode
  | .alarmMask _ => .alarmMask
  | .text _ => .text
  | .playlist _ => .playlist
  | .effect _ => .effect
  | .zone _ => .zone
  | .time _ => .time
  | .address _ => .address

namespace Store.Contents

variable (r : Contents) (key : Key) (record other : List UInt8)

@[simp] theorem set_same : (r.set key record).set key other = r.set key other := by
  funext k
  unfold set
  split <;> rfl

variable {key} in
theorem set_comm {key' : Key} (apart : key ≠ key') :
    (r.set key record).set key' other = (r.set key' other).set key record := by
  funext k
  unfold set
  split
  · rename_i same
    rw [if_neg (same ▸ apart.symm)]
  · rfl

end Store.Contents

/-! ## Snapshots -/

/-- The device, the records of its store and its clock. -/
structure Snapshot where
  device : Device
  records : Contents
  /-- Seconds since the start of the year 2000. -/
  seconds : UInt32
  zone : Int32

namespace Snapshot

/-- The snapshot after a change. -/
def carryOut (k : Snapshot) : Change → Snapshot
  | .mode mode =>
    if k.device.mode = mode then k
    else { k with device := { k.device.mark .ofMode with mode },
                  records := k.records.set .operatingMode [mode.code] }
  | .alarmMask mask => { k with device := { k.device with alarmMask := mask } }
  | .text text =>
    { k with device := k.device.mark .ofText,
             records := k.records.set .effectText (text.take textRoom) }
  | .playlist playlist =>
    { k with device := k.device.mark .ofPlaylist, records := k.records.set .playlist [playlist] }
  | .effect effect =>
    { k with device := k.device.mark .ofEffect, records := k.records.set .effect [effect] }
  | .zone zone => { k with zone }
  | .time seconds => { k with seconds }
  | .address address =>
    { k with device := { k.device with address },
             records := k.records.set .deviceAddress (Varint.encode address.toNat) }

variable (k : Snapshot) {a b : Change}

theorem carryOut_mode_comm (mode : Mode) (apart : b.setting ≠ .mode) :
    (k.carryOut (.mode mode)).carryOut b = (k.carryOut b).carryOut (.mode mode) := by
  by_cases same : k.device.mode = mode
  · cases b with
    | mode other => exact absurd rfl apart
    | _ => simp [carryOut, Device.mark, same]
  · cases b with
    | mode other => exact absurd rfl apart
    | alarmMask | zone | time => simp [carryOut, Device.mark, same]
    | text | playlist | effect | address =>
      simp only [carryOut, Device.mark, Dirty.union, same, Bool.or_right_comm, if_false]
      rw [Contents.set_comm _ _ _ (by decide)]

/-- Changes of two settings may be made in either order. -/
theorem carryOut_comm (apart : a.setting ≠ b.setting) :
    (k.carryOut a).carryOut b = (k.carryOut b).carryOut a := by
  cases a with
  | mode mode => exact k.carryOut_mode_comm mode apart.symm
  | alarmMask | zone | time =>
    cases b with
    | mode mode => exact (k.carryOut_mode_comm mode apart).symm
    | _ => first | rfl | exact absurd rfl apart
  | text | playlist | effect | address =>
    cases b with
    | mode mode => exact (k.carryOut_mode_comm mode apart).symm
    | alarmMask | zone | time => rfl
    | text | playlist | effect | address =>
      -- two records, unless both change the same one
      first
      | exact absurd rfl apart
      | simp only [carryOut, Device.mark, Dirty.union, Bool.or_right_comm]
        rw [Contents.set_comm _ _ _ (by decide)]

/-- A change that is made again after another one of its setting need not have been made before. -/
theorem carryOut_again (same : a.setting = b.setting) :
    ((k.carryOut a).carryOut b).carryOut a = (k.carryOut b).carryOut a := by
  cases a with
  | mode mode =>
    cases b with
    | mode other =>
      by_cases first : k.device.mode = mode <;> by_cases second : k.device.mode = other <;>
        by_cases third : mode = other <;>
        simp_all [carryOut, Device.mark, Dirty.union, Dirty.ofMode]
    | _ => cases same
  | _ =>
    cases b <;> cases same
    simp [carryOut, Device.mark, Dirty.union]

theorem carryOut_twice (a : Change) : (k.carryOut a).carryOut a = k.carryOut a := by
  cases a with
  | mode mode =>
    by_cases same : k.device.mode = mode <;> simp [carryOut, Device.mark, same]
  | _ => simp [carryOut, Device.mark, Dirty.union]

/-- A change that is made again later need not have been made before. -/
theorem carryOut_absorb (a b : Change) :
    ((k.carryOut a).carryOut b).carryOut a = (k.carryOut b).carryOut a := by
  by_cases same : a.setting = b.setting
  · exact k.carryOut_again same
  · rw [k.carryOut_comm same, carryOut_twice]

/-! ## Runs of changes -/

theorem foldl_absorb (changes : List Change) (a : Change) :
    (changes.foldl carryOut (k.carryOut a)).carryOut a = (changes.foldl carryOut k).carryOut a := by
  induction changes generalizing k with
  | nil => exact k.carryOut_twice a
  | cons b rest ih =>
    calc (rest.foldl carryOut ((k.carryOut a).carryOut b)).carryOut a
        = (rest.foldl carryOut (((k.carryOut a).carryOut b).carryOut a)).carryOut a := (ih _).symm
      _ = (rest.foldl carryOut ((k.carryOut b).carryOut a)).carryOut a := by rw [carryOut_absorb]
      _ = (rest.foldl carryOut (k.carryOut b)).carryOut a := ih _

/-- Changes that are all made again need not have been made before. -/
theorem foldl_of_subset {before changes : List Change} (again : before ⊆ changes) :
    changes.foldl carryOut (before.foldl carryOut k) = changes.foldl carryOut k := by
  induction before generalizing k with
  | nil => rfl
  | cons a rest ih =>
    obtain ⟨mem, more⟩ := List.cons_subset.mp again
    obtain ⟨front, back, rfl⟩ := List.append_of_mem mem
    rw [List.foldl_cons, ih _ more]
    simp only [List.foldl_append, List.foldl_cons]
    rw [foldl_absorb]

/-! ## Machines -/

variable {ω : Type} {c : Cube ω} {store : c.board.KeyValue} {s : Machine ω} {sink : Sink ω}

/-- The device and its store are as the snapshot shows them, whatever time it is. -/
structure Shows (k : Snapshot) (store : c.board.KeyValue) (s : Machine ω) : Prop where
  world : store.Has k.records s.world
  device : s.device = k.device

/-- The machine is as the snapshot shows it. -/
structure Depicts (k : Snapshot) (store : c.board.KeyValue) (s : Machine ω) : Prop where
  world : store.Has k.records s.world
  device : s.device = k.device
  now : c.board.now s.world = k.seconds + epochOffset
  zone : c.board.zone s.world = k.zone

variable {k}

/-- A snapshot can be taken of every machine whose store works. -/
theorem exists_depicts (working : store.working s.world) : ∃ k : Snapshot, k.Depicts store s :=
  ⟨{ device := s.device, records := store.records s.world,
     seconds := c.board.now s.world - epochOffset, zone := c.board.zone s.world },
    ⟨working, rfl⟩, rfl, (UInt32.sub_add_cancel ..).symm, rfl⟩

namespace Shows

/-- A record is written, and the device goes on as it likes. -/
theorem write (h : k.Shows store s) (device : Device) (key : Key) (record : List UInt8) :
    Shows { k with device, records := k.records.set key record } store
      { device, world := (c.board.write key record s.world).2 } :=
  ⟨h.world.write key record, rfl⟩

theorem enter (h : k.Shows store s) (mode : Mode) :
    Shows { k with device := { k.device with mode } } store (c.enter mode s) := by
  have device : (c.enter mode s).device = { k.device with mode } := by rw [c.enter_device, h.device]
  rcases c.enter_world s mode with same | up | down
  · exact ⟨same ▸ h.world, device⟩
  · exact ⟨up ▸ h.world.powerUp, device⟩
  · exact ⟨down ▸ h.world.powerDown, device⟩

/-- A change does to a device and its store what it does to the snapshot. -/
theorem carryOut (h : k.Shows store s) (change : Change) :
    (k.carryOut change).Shows store (c.carryOut change s) := by
  unfold Cube.carryOut Snapshot.carryOut
  cases change with
  | mode mode =>
    dsimp only
    rw [← h.device]
    split
    · rename_i same
      rw [← same, c.setMode_same]
      exact h
    · rename_i other
      rw [c.setMode_other s other]
      exact (h.write _ _ _).enter mode
  | alarmMask mask => exact ⟨h.world, by rw [h.device]⟩
  | text text =>
    dsimp only
    rw [c.storeText_eq, ← h.device]
    exact h.write _ _ _
  | playlist playlist =>
    dsimp only
    rw [c.storePlaylist_eq, ← h.device]
    exact h.write _ _ _
  | effect effect =>
    dsimp only
    rw [c.storeEffect_eq, ← h.device]
    exact h.write _ _ _
  | zone zone => exact ⟨h.world.setZone zone, h.device⟩
  | time seconds => exact ⟨h.world.setTime _, h.device⟩
  | address address =>
    dsimp only
    rw [c.storeAddress_eq, ← h.device]
    exact h.write _ _ _

/-- A message does to a device and its store what its changes do to the snapshot. -/
theorem dispatch (h : k.Shows store s) (spares : store.Spares sink) (payload : List UInt8) :
    ((c.changes payload s).foldl Snapshot.carryOut k).Shows store (c.dispatch sink payload s).2 := by
  have tracks : c.Tracks sink fun made s => (made.foldl Snapshot.carryOut k).Shows store s := by
    refine ⟨fun byte made s h => ?_, fun key room made s h => ?_, fun change made s h => ?_⟩
    · exact ⟨spares _ byte _ h.world, h.device⟩
    · exact ⟨h.world.read key room, h.device⟩
    · rw [List.foldl_append]
      exact h.carryOut change
  have unchanged : (([] : List Change).foldl Snapshot.carryOut k).Shows store s := h
  exact tracks.dispatch payload unchanged

end Shows

namespace Depicts

theorem shows (h : k.Depicts store s) : k.Shows store s := ⟨h.world, h.device⟩

theorem within (h : k.Depicts store s) {w : ω} (world : store.Has k.records w)
    (time : c.board.SameTime s.world w) : k.Depicts store { s with world := w } :=
  ⟨world, h.device, time.1.trans h.now, time.2.trans h.zone⟩

/-- A change does to a machine what it does to the snapshot. -/
theorem carryOut (h : k.Depicts store s) (steady : c.board.Steady) (change : Change) :
    (k.carryOut change).Depicts store (c.carryOut change s) := by
  obtain ⟨world, device⟩ := h.shows.carryOut change
  -- a change that is not for the clock leaves it alone
  have still (same : c.board.SameTime s.world (c.carryOut change s).world)
      (seconds : (k.carryOut change).seconds = k.seconds) (zone : (k.carryOut change).zone = k.zone) :
      (k.carryOut change).Depicts store (c.carryOut change s) :=
    ⟨world, device, by rw [same.1, seconds, h.now], by rw [same.2, zone, h.zone]⟩
  have written {device : Device} {key : Key} {record : List UInt8}
      (does : c.carryOut change s = { device, world := (c.board.write key record s.world).2 }) :
      c.board.SameTime s.world (c.carryOut change s).world := by
    rw [does]
    exact steady.write key record s.world
  cases change with
  | mode mode =>
    have clock : (k.carryOut (.mode mode)).seconds = k.seconds ∧
        (k.carryOut (.mode mode)).zone = k.zone := by
      unfold Snapshot.carryOut
      dsimp only
      split <;> exact ⟨rfl, rfl⟩
    exact still (steady.setMode s mode) clock.1 clock.2
  | alarmMask mask => exact still ⟨rfl, rfl⟩ rfl rfl
  | text text => exact still (written (c.storeText_eq s text)) rfl rfl
  | playlist playlist => exact still (written (c.storePlaylist_eq s playlist)) rfl rfl
  | effect effect => exact still (written (c.storeEffect_eq s effect)) rfl rfl
  | address address => exact still (written (c.storeAddress_eq s address)) rfl rfl
  | zone zone =>
    obtain ⟨now, set⟩ := steady.setZone zone s.world
    exact ⟨world, device, now.trans h.now, set⟩
  | time seconds =>
    obtain ⟨set, zone⟩ := steady.setTime (seconds + epochOffset) s.world
    exact ⟨world, device, set, zone.trans h.zone⟩

/-- A message does to a machine what its changes do to the snapshot. -/
theorem dispatch (h : k.Depicts store s) (steady : c.board.Steady) (spares : store.Spares sink)
    (spared : c.board.SparesTime sink) (payload : List UInt8) :
    ((c.changes payload s).foldl Snapshot.carryOut k).Depicts store (c.dispatch sink payload s).2 := by
  have tracks : c.Tracks sink fun made s => (made.foldl Snapshot.carryOut k).Depicts store s := by
    refine ⟨fun byte made s h => ?_, fun key room made s h => ?_, fun change made s h => ?_⟩
    · exact h.within (spares _ byte _ h.world) (spared byte s.world)
    · exact h.within (h.world.read key room) (steady.read key room s.world)
    · rw [List.foldl_append]
      exact h.carryOut steady change
  have unchanged : (([] : List Change).foldl Snapshot.carryOut k).Depicts store s := h
  exact tracks.dispatch payload unchanged

end Depicts

end Snapshot

namespace Bench

/-- The clock of the sample board moves only when it is set. -/
theorem sampleBoard_steady : sampleBoard.Steady where
  setTime _ _ := ⟨rfl, rfl⟩
  setZone _ _ := ⟨rfl, rfl⟩
  read key room w := by
    have same : (Memory.read key room w.world).2 = w.world := Memory.read_snd key room w.world
    exact ⟨congrArg Memory.clock same, congrArg Memory.zone same⟩
  write key record w := by
    rcases w with ⟨⟨_, _, _ | fault⟩, calls⟩ <;> exact ⟨rfl, rfl⟩
  powerUp _ := ⟨rfl, rfl⟩
  powerDown _ := ⟨rfl, rfl⟩

theorem traySink_sparesTime : sampleBoard.SparesTime traySink := fun _ _ => ⟨rfl, rfl⟩

end Bench

end VoxelCube
