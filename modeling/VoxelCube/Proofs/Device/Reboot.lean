/-
No setting is lost. Over a key-value store, right after any sync a device has the mode, the address,
the text and the effect or playlist of its mode that it would have if it were switched off and on
again. The invariant ties every setting that is not marked to its record. A sync also unmarks settings
that it did not take over, but only those that the mode does not use, and entering another mode marks
the mode, for which all of them are read again.
-/
import VoxelCube.Proofs.Device.Operation
import VoxelCube.Proofs.Reply.Moves
import VoxelCube.Proofs.Store.KeyValue

namespace VoxelCube

open Store

/-- The record that a change writes where it changes anything. -/
def Change.record? : Change → Option (Key × List UInt8)
  | .mode m => some (.operatingMode, [m.code])
  | .text bytes => some (.effectText, bytes.take textRoom)
  | .playlist n => some (.playlist, [n])
  | .effect n => some (.effect, [n])
  | .address a => some (.deviceAddress, Varint.encode a.toNat)
  | .alarmMask _ | .zone _ | .time _ => none

namespace Cube

variable {ω : Type} {c : Cube ω} {store : c.board.KeyValue} {r : Contents} {s : Machine ω} {w : ω}

/-! ## What a sync takes over -/

theorem keptEffect_eq (h : store.Has r w) : c.keptEffect w = r.effect c.effects.length := by
  unfold keptEffect
  rw [h.answer]
  rfl

theorem keptPlaylist_eq (h : store.Has r w) : c.keptPlaylist w = r.playlist c.playlists.count := by
  unfold keptPlaylist
  rw [h.answer]
  rfl

/-! ## Records that are written -/

theorem entered (h : store.Has r s.world) (mode : Mode) : store.Has r (c.enter mode s).world := by
  rcases c.enter_world s mode with none | up | down
  · exact none ▸ h
  · exact up ▸ h.powerUp
  · exact down ▸ h.powerDown

/-- A boot enters the mode in the store, and leaves the store as it is. -/
theorem boot_restores (h : store.Has r s.world) :
    (c.boot s).device.mode = r.mode ∧ store.Has r (c.boot s).world := by
  have addressed := h.read .deviceAddress valueRoom
  have moded := addressed.read .operatingMode valueRoom
  rw [c.boot_eq]
  constructor
  · dsimp only
    rw [addressed.answer]
    rfl
  · dsimp only
    exact iteInduction (fun _ => moded) (fun _ => moded.powerUp)

/-- A write of a mode that the device is not in puts it into the store. -/
theorem setMode_kept (h : store.Has r s.world) {mode : Mode} (other : s.device.mode ≠ mode) :
    (c.setMode mode s).device.mode = mode ∧
      store.Has (r.set .operatingMode [mode.code]) (c.setMode mode s).world := by
  constructor
  · rw [c.setMode_device s other]
  · rw [c.setMode_other s other]
    exact entered (h.write .operatingMode [mode.code]) mode

/-- A change writes its record and no other, or none. -/
theorem carryOut_has (h : store.Has r s.world) (change : Change) :
    store.Has r (c.carryOut change s).world ∨ ∃ key record, change.record? = some (key, record) ∧
      store.Has (r.set key record) (c.carryOut change s).world := by
  have written : ∀ {t : Machine ω} {key record}, t.world = (c.board.write key record s.world).2 →
      store.Has (r.set key record) t.world := fun same => same ▸ h.write _ _
  cases change with
  | mode mode =>
    show store.Has r (c.setMode mode s).world ∨ _
    by_cases same : s.device.mode = mode
    · rw [← same, c.setMode_same]
      exact .inl h
    · exact .inr ⟨_, _, rfl, (setMode_kept h same).2⟩
  | alarmMask mask => exact .inl h
  | zone offset => exact .inl (h.setZone offset)
  | time seconds => exact .inl (h.setTime _)
  | text text => exact .inr ⟨_, _, rfl, written (congrArg Machine.world (c.storeText_eq s text))⟩
  | playlist playlist =>
    exact .inr ⟨_, _, rfl, written (congrArg Machine.world (c.storePlaylist_eq s playlist))⟩
  | effect effect =>
    exact .inr ⟨_, _, rfl, written (congrArg Machine.world (c.storeEffect_eq s effect))⟩
  | address address =>
    exact .inr ⟨_, _, rfl, written (congrArg Machine.world (c.storeAddress_eq s address))⟩

/-- What ties a device to the records of its store, and does not mind the rest of the world, a message
keeps as far as the changes do that it can make. -/
theorem dispatch_of_changes {P : Contents → Machine ω → Prop} {sink : Sink ω} (spares : store.Spares sink)
    (has : ∀ {r s}, P r s → store.Has r s.world)
    (within : ∀ {r s w}, P r s → store.Has r w → P r { s with world := w })
    (change : ∀ {cluster record change r s}, c.judge cluster record = .ok change → P r s →
      ∃ r, P r (c.carryOut change s))
    (payload : List UInt8) (h : P r s) : ∃ r, P r (c.dispatch sink payload s).2 := by
  have keeps : c.Keeps sink fun s => ∃ r, P r s := by
    refine .of_reads ?put ?read (fun _ _ _ _ judged ⟨r, h⟩ => change judged h) ?setTime ?setZone
    case put => exact fun byte s ⟨r, h⟩ => ⟨r, within h (spares r byte _ (has h))⟩
    case read => exact fun key room s ⟨r, h⟩ => ⟨r, within h ((has h).read key room)⟩
    case setTime => exact fun seconds s ⟨r, h⟩ => ⟨r, within h ((has h).setTime seconds)⟩
    case setZone => exact fun offset s ⟨r, h⟩ => ⟨r, within h ((has h).setZone offset)⟩
  exact keeps.dispatch payload s ⟨r, h⟩

/-! ## The invariant -/

/-- What a device that booted knows of its store: the mode and the address always, the text and what
its mode runs unless they are marked. A text that cannot be read was never taken over. -/
structure Remembers (c : Cube ω) (store : c.board.KeyValue) (r : Contents) (s : Machine ω) : Prop where
  world : store.Has r s.world
  mode : s.device.mode = r.mode
  address : s.device.address = r.address c.config.factoryAddress
  unreadable : r.text? = none → s.device.text = []
  text : s.device.dirty.mode = false → s.device.dirty.text = false →
    s.device.text = r.text?.getD []
  effect : s.device.mode = .effect → s.device.dirty.mode = false → s.device.dirty.effect = false →
    s.device.effect = r.effect c.effects.length
  playlist : s.device.mode = .playlist → s.device.dirty.mode = false →
    s.device.dirty.playlist = false → s.device.playlist = r.playlist c.playlists.count

namespace Remembers

theorem within (h : c.Remembers store r s) {world : ω} (same : store.Has r world) :
    c.Remembers store r { s with world } :=
  { h with world := same }

theorem boot (h : store.Has r w) : c.Remembers store r (c.boot (c.machine w)) := by
  obtain ⟨mode, world⟩ := boot_restores (c := c) (s := c.machine w) h
  have device := congrArg Machine.device (c.boot_eq (c.machine w))
  have marked : (c.boot (c.machine w)).device.dirty = .all := by rw [device]
  refine ⟨world, mode, ?_, fun _ => ?_, fun clean => ?_, fun _ clean => ?_, fun _ clean => ?_⟩
  · rw [device]
    dsimp only [machine]
    rw [h.answer]
    rfl
  · rw [device]
    rfl
  all_goals
    rw [marked] at clean
    cases clean

/-! ## Operations -/

theorem setMode (h : c.Remembers store r s) (mode : Mode) :
    ∃ r, c.Remembers store r (c.setMode mode s) := by
  by_cases same : s.device.mode = mode
  · rw [← same, c.setMode_same]
    exact ⟨r, h⟩
  · obtain ⟨-, written⟩ := setMode_kept h.world same
    have marked : (c.setMode mode s).device.dirty.mode = true := by
      rw [c.setMode_device s same]
      exact Device.mark_ofMode _
    have device := c.setMode_device s same
    refine ⟨_, written, ?_, ?_, ?_, ?_, ?_, ?_⟩
    · rw [r.mode_set_code, device]
    · rw [r.address_set_other (by decide), device]
      exact h.address
    · rw [r.text?_set_other (by decide), device]
      exact h.unreadable
    · intro clean
      cases marked.symm.trans clean
    · intro _ clean
      cases marked.symm.trans clean
    · intro _ clean
      cases marked.symm.trans clean

/-- A setting that is written and marked, other than the mode and the address. -/
theorem mark (h : c.Remembers store r s) {key : Key} {record : List UInt8} {settings : Dirty}
    (written : store.Has (r.set key record) w) (mode : .operatingMode ≠ key)
    (address : .deviceAddress ≠ key)
    (text : .effectText = key → record.length ≤ textRoom ∧ settings.text = true)
    (effect : .effect = key → settings.effect = true)
    (playlist : .playlist = key → settings.playlist = true) :
    c.Remembers store (r.set key record) { device := s.device.mark settings, world := w } := by
  -- A setting whose record changed is marked, so that nothing is said of it; every other one has the
  -- record that it had.
  have flagged : ∀ {a b : Bool}, b = true → (a || b) ≠ false := by
    intro a b set clean
    rw [set, Bool.or_true] at clean
    cases clean
  refine ⟨written, ?_, ?_, ?_, ?_, ?_, ?_⟩
  · rw [r.mode_set_other mode]
    exact h.mode
  · rw [r.address_set_other address]
    exact h.address
  · by_cases same : .effectText = key
    · obtain ⟨fits, -⟩ := text same
      subst same
      rw [r.text?_set_same fits]
      intro none
      cases none
    · rw [r.text?_set_other same]
      exact h.unreadable
  · intro clean marks
    by_cases same : .effectText = key
    · exact absurd marks (flagged (text same).2)
    · rw [r.text?_set_other same]
      exact h.text (Device.mode_of_mark clean) (Device.text_of_mark marks)
  · intro running clean marks
    by_cases same : .effect = key
    · exact absurd marks (flagged (effect same))
    · rw [r.effect_set_other same]
      exact h.effect running (Device.mode_of_mark clean) (Device.effect_of_mark marks)
  · intro playing clean marks
    by_cases same : .playlist = key
    · exact absurd marks (flagged (playlist same))
    · rw [r.playlist_set_other same]
      exact h.playlist playing (Device.mode_of_mark clean) (Device.playlist_of_mark marks)

theorem storeEffect (h : c.Remembers store r s) (effect : UInt8) :
    c.Remembers store (r.set .effect [effect]) (c.storeEffect effect s) := by
  rw [c.storeEffect_eq]
  exact h.mark (h.world.write .effect [effect]) (by decide) (by decide) (fun key => by cases key)
    (fun _ => rfl) (fun key => by cases key)

theorem storePlaylist (h : c.Remembers store r s) (playlist : UInt8) :
    c.Remembers store (r.set .playlist [playlist]) (c.storePlaylist playlist s) := by
  rw [c.storePlaylist_eq]
  exact h.mark (h.world.write .playlist [playlist]) (by decide) (by decide)
    (fun key => by cases key) (fun key => by cases key) (fun _ => rfl)

theorem storeText (h : c.Remembers store r s) (text : List UInt8) :
    c.Remembers store (r.set .effectText (text.take textRoom)) (c.storeText text s) := by
  rw [c.storeText_eq]
  exact h.mark (h.world.write .effectText (text.take textRoom)) (by decide) (by decide)
    (fun _ => ⟨List.length_take_le _ _, rfl⟩) (fun key => by cases key) (fun key => by cases key)

theorem storeAddress (h : c.Remembers store r s) (address : UInt64) :
    c.Remembers store (r.set .deviceAddress (Varint.encode address.toNat))
      (c.storeAddress address s) := by
  rw [c.storeAddress_eq]
  refine ⟨h.world.write _ _, ?_, ?_, ?_, ?_, ?_, ?_⟩
  · rw [r.mode_set_other (by decide)]
    exact h.mode
  · rw [r.address_set_encode]
  · rw [r.text?_set_other (by decide)]
    exact h.unreadable
  · rw [r.text?_set_other (by decide)]
    exact h.text
  · rw [r.effect_set_other (by decide)]
    exact h.effect
  · rw [r.playlist_set_other (by decide)]
    exact h.playlist

theorem carryOut (h : c.Remembers store r s) (change : Change) :
    ∃ r, c.Remembers store r (c.carryOut change s) := by
  cases change with
  | mode mode => exact h.setMode mode
  | alarmMask mask => exact ⟨r, { h with }⟩
  | text text => exact ⟨_, h.storeText text⟩
  | playlist playlist => exact ⟨_, h.storePlaylist playlist⟩
  | effect effect => exact ⟨_, h.storeEffect effect⟩
  | zone offset => exact ⟨r, h.within (h.world.setZone offset)⟩
  | time seconds => exact ⟨r, h.within (h.world.setTime _)⟩
  | address address => exact ⟨_, h.storeAddress address⟩

theorem dispatch (h : c.Remembers store r s) {sink : Sink ω} (spared : store.Spares sink)
    (payload : List UInt8) : ∃ r, c.Remembers store r (c.dispatch sink payload s).2 :=
  dispatch_of_changes spared (fun h => h.world) (fun h => h.within) (fun _ h => h.carryOut _) payload h

/-- A device that plays moves on without a change of its settings. -/
theorem advancePlaylist (h : c.Remembers store r s) (playing : s.device.mode = .playlist) :
    c.Remembers store r (c.advancePlaylist s) := by
  unfold Cube.advancePlaylist
  split
  · refine { h with effect := fun running => ?_ }
    cases playing.symm.trans running
  · exact h

/-! ## A sync -/

theorem syncText (h : c.Remembers store r s) : c.Remembers store r (c.syncText s) ∧
    (c.syncText s).device.text = r.text?.getD [] := by
  unfold Cube.syncText
  by_cases wanted : s.device.dirty.mode || s.device.dirty.text
  · rw [if_pos wanted, c.takeText_eq]
    have taken : (textIn (c.board.read .effectText textRoom s.world).1).toOption.getD
        s.device.text = r.text?.getD [] := by
      rw [h.world.answer]
      show r.text?.getD s.device.text = _
      cases readable : r.text? with
      | none => exact h.unreadable readable
      | some text => rfl
    refine ⟨{ h with world := h.world.read _ _, unreadable := fun none => ?_, text := fun _ _ => taken },
      taken⟩
    exact taken.trans (by rw [none]; rfl)
  · rw [if_neg wanted]
    obtain ⟨mode, text⟩ := Bool.or_eq_false_iff.mp (Bool.not_eq_true _ ▸ wanted)
    exact ⟨h, h.text mode text⟩

theorem syncPlaylist (h : c.Remembers store r s) : c.Remembers store r (c.syncPlaylist s) ∧
    (c.syncPlaylist s).device.text = s.device.text ∧
    (s.device.mode = .playlist →
      (c.syncPlaylist s).device.playlist = r.playlist c.playlists.count) := by
  unfold Cube.syncPlaylist
  split
  · rename_i wanted
    obtain ⟨selected, -, taken⟩ := c.takePlaylist_eq s
    have kept : c.keptPlaylist s.world = r.playlist c.playlists.count := keptPlaylist_eq h.world
    rw [taken]
    refine ⟨{ h with world := h.world.read _ _, effect := fun running => ?_,
                     playlist := fun _ _ _ => kept }, rfl, fun _ => kept⟩
    cases wanted.1.symm.trans running
  · rename_i unwanted
    refine ⟨h, rfl, fun playing => ?_⟩
    have clean : ¬(s.device.dirty.mode || s.device.dirty.playlist) = true :=
      fun marked => unwanted ⟨playing, marked⟩
    obtain ⟨mode, playlist⟩ := Bool.or_eq_false_iff.mp (Bool.not_eq_true _ ▸ clean)
    exact h.playlist playing mode playlist

theorem syncEffect (h : c.Remembers store r s) : c.Remembers store r (c.syncEffect s) ∧
    (c.syncEffect s).device.text = s.device.text ∧
    (c.syncEffect s).device.playlist = s.device.playlist ∧
    (s.device.mode = .effect → (c.syncEffect s).device.effect = r.effect c.effects.length) := by
  unfold Cube.syncEffect
  split
  · rename_i wanted
    have kept : c.keptEffect s.world = r.effect c.effects.length := keptEffect_eq h.world
    rw [c.takeEffect_eq]
    exact ⟨{ h with world := h.world.read _ _, effect := fun _ _ _ => kept }, rfl, rfl, fun _ => kept⟩
  · rename_i unwanted
    refine ⟨h, rfl, rfl, fun running => ?_⟩
    have clean : ¬(s.device.dirty.mode || s.device.dirty.effect) = true :=
      fun marked => unwanted ⟨running, by rw [marked]; rfl⟩
    obtain ⟨mode, effect⟩ := Bool.or_eq_false_iff.mp (Bool.not_eq_true _ ▸ clean)
    exact h.effect running mode effect

end Remembers

/-- A device that took over all that its mode uses. -/
structure Settled (c : Cube ω) (r : Contents) (d : Device) : Prop where
  mode : d.mode = r.mode
  address : d.address = r.address c.config.factoryAddress
  text : d.text = r.text?.getD []
  effect : d.mode = .effect → d.effect = r.effect c.effects.length
  playlist : d.mode = .playlist → d.playlist = r.playlist c.playlists.count

/-- A sync takes over all that the mode uses, from contents that it leaves as they are. -/
theorem Remembers.settles (h : c.Remembers store r s) :
    store.Has r (c.sync s).world ∧ c.Settled r (c.sync s).device := by
  obtain ⟨texted, text⟩ := h.syncText
  obtain ⟨listed, sameText, list⟩ := texted.syncPlaylist
  obtain ⟨done, sameText', sameList, effect⟩ := listed.syncEffect
  have mode := (c.syncEffect_shell (c.syncPlaylist (c.syncText s))).mode
  have mode' := (c.syncPlaylist_shell (c.syncText s)).mode
  rw [c.sync_eq]
  refine ⟨done.world, done.mode, done.address, ?_, fun running => ?_, fun playing => ?_⟩
  · exact sameText'.trans (sameText.trans text)
  · exact effect (mode.symm.trans running)
  · exact sameList.trans (list (mode'.symm.trans (mode.symm.trans playing)))

theorem Remembers.sync (h : c.Remembers store r s) : c.Remembers store r (c.sync s) := by
  obtain ⟨world, settled⟩ := h.settles
  refine ⟨world, settled.mode, settled.address, fun none => ?_, fun _ _ => settled.text,
    fun running _ _ => settled.effect running, fun playing _ _ => settled.playlist playing⟩
  rw [settled.text, none]
  rfl

/-! ## Runs -/

/-- What a device may be asked in a run: nothing that selects for now only, to move on only while it
plays, and to send replies only where the store is not. -/
def Allowed (store : c.board.KeyValue) (s : Machine ω) : Operation ω → Prop
  | .dispatch sink _ => store.Spares sink
  | .advance => s.device.mode = .playlist
  | .boot | .changeEffect _ | .changePlaylist _ => False
  | _ => True

/-- A machine that booted over some contents and did what it was asked since. -/
inductive Run (c : Cube ω) (store : c.board.KeyValue) : Machine ω → Prop where
  | boot {w : ω} (working : store.working w) : Run c store (c.boot (c.machine w))
  | perform {s : Machine ω} (run : Run c store s) {op : Operation ω} (allowed : Allowed store s op) :
    Run c store (c.perform op s)

theorem Run.remembers (run : c.Run store s) : ∃ r, c.Remembers store r s := by
  induction run with
  | boot working => exact ⟨_, .boot ⟨working, rfl⟩⟩
  | @perform s _ op allowed ih =>
    obtain ⟨r, h⟩ := ih
    cases op with
    | boot => exact allowed.elim
    | dispatch sink payload => exact h.dispatch allowed payload
    | setMode mode => exact h.setMode mode
    | changeEffect effect => exact allowed.elim
    | changePlaylist playlist => exact allowed.elim
    | storeEffect effect => exact ⟨_, h.storeEffect effect⟩
    | storePlaylist playlist => exact ⟨_, h.storePlaylist playlist⟩
    | storeText text => exact ⟨_, h.storeText text⟩
    | storeAddress address => exact ⟨_, h.storeAddress address⟩
    | sync => exact ⟨r, h.sync⟩
    | advance => exact ⟨r, h.advancePlaylist allowed⟩

/-- **No setting is lost.** After any run and a sync, a device is as one of the same cube would be that
boots over the same contents and syncs, in all that it keeps and its mode uses. -/
theorem sync_agrees_with_reboot (run : c.Run store s) (working : store.working w)
    (same : store.records w = store.records (c.sync s).world) :
    let live := (c.sync s).device
    let fresh := (c.sync (c.boot (c.machine w))).device
    live.mode = fresh.mode ∧ live.address = fresh.address ∧ live.text = fresh.text ∧
      (live.mode = .effect → live.effect = fresh.effect) ∧
      (live.mode = .playlist → live.playlist = fresh.playlist) := by
  obtain ⟨r, h⟩ := run.remembers
  obtain ⟨world, live⟩ := h.settles
  have booted : c.Remembers store r (c.boot (c.machine w)) := .boot ⟨working, same.trans world.2⟩
  obtain ⟨-, fresh⟩ := booted.settles
  have mode := live.mode.trans fresh.mode.symm
  refine ⟨mode, live.address.trans fresh.address.symm, live.text.trans fresh.text.symm,
    fun running => ?_, fun playing => ?_⟩
  · exact (live.effect running).trans (fresh.effect (mode.symm.trans running)).symm
  · exact (live.playlist playing).trans (fresh.playlist (mode.symm.trans playing)).symm

end Cube

namespace Bench

/-- A message that keeps the second playlist and enters the mode that plays it. -/
def playMessage : List UInt8 :=
  Header.encode { channel := Header.deviceChannel, address := 0, endpoint := 70, profile := 1024,
                  cluster := Cluster.cube.code, flags := 0, transaction := 1,
                  command := Command.writeAttributes.code } ++
    [0x03, 0x00, DataType.uint8.tag, 1] ++ [0x01, 0x00, DataType.enum8.tag, Mode.playlist.code]

/-- The sample cube, sent this message, moved on, and given an effect text. -/
def editedMachine : Machine World :=
  let s := sampleCube.boot (sampleCube.machine { world := {} })
  sampleCube.performAll [.dispatch traySink playMessage, .sync, .advance,
    .storeText (textBytes "night")] s

theorem editedMachine_run : sampleCube.Run sampleStore editedMachine := by
  have booted : sampleCube.Run sampleStore (sampleCube.boot (sampleCube.machine { world := {} })) :=
    .boot ⟨rfl, rfl⟩
  have told := booted.perform (show Cube.Allowed _ _ (.dispatch traySink playMessage) from
    traySink_spares)
  have synced := told.perform (show Cube.Allowed _ _ .sync from trivial)
  have playing : (sampleCube.performAll [.dispatch traySink playMessage, .sync]
      (sampleCube.boot (sampleCube.machine { world := {} }))).device.mode = .playlist := by
    decide +kernel
  have moved := synced.perform (show Cube.Allowed _ _ .advance from playing)
  exact moved.perform (show Cube.Allowed _ _ (.storeText (textBytes "night")) from trivial)

/-- After the next sync the edited machine plays what it would play after a reboot. -/
theorem editedMachine_reboots :
    let live := sampleCube.sync editedMachine
    let fresh := sampleCube.sync (sampleCube.boot (sampleCube.machine live.world))
    live.device.playlist = fresh.device.playlist ∧ live.device.text = fresh.device.text := by
  have working : sampleStore.working (sampleCube.sync editedMachine).world :=
    ⟨by decide +kernel, by decide +kernel⟩
  obtain ⟨-, -, text, -, playlist⟩ := Cube.sync_agrees_with_reboot editedMachine_run working rfl
  exact ⟨playlist (by decide +kernel), text⟩

end Bench

end VoxelCube
