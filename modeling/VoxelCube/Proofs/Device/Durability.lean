/-
Whether a mode outlasts a reboot. A mode that the device enters by a write is put into its store; a
write of the mode that the device is in is not, on the ground that the store has it. The store does
have it as long as the device is in touch with it. A selection for now only, and a write that the store
refused, put the two apart, and only a write of another mode or a boot brings them together again.
-/
import VoxelCube.Proofs.Device.Reboot
import VoxelCube.Proofs.MainLoop.Selection

namespace VoxelCube

open Store

/-- The mode is a matter of its own record. -/
theorem Store.Contents.mode_congr {r r' : Contents} (same : r .operatingMode = r' .operatingMode) :
    r.mode = r'.mode := by
  unfold mode answer
  rw [same]

namespace Cube

variable {ω : Type} {c : Cube ω} {store : c.board.KeyValue} {r : Contents} {s t : Machine ω}

/-! ## Being in touch with the store -/

/-- What a device may be asked without getting out of touch with its store: nothing that selects for
now only, and to send replies only where the store is not. -/
def KeepsTouch (store : c.board.KeyValue) : Operation ω → Prop
  | .dispatch sink _ => store.Spares sink
  | .changeEffect _ | .changePlaylist _ => False
  | _ => True

/-- A machine that booted, or was given another mode, while its store worked, whatever came before,
and was not put out of touch since. -/
inductive InTouch (c : Cube ω) (store : c.board.KeyValue) : Machine ω → Prop where
  | boot {s : Machine ω} (working : store.working s.world) : InTouch c store (c.boot s)
  | setMode {s : Machine ω} {mode : Mode} (working : store.working s.world)
    (other : s.device.mode ≠ mode) : InTouch c store (c.setMode mode s)
  | perform {s : Machine ω} (h : InTouch c store s) {op : Operation ω} (kept : KeepsTouch store op) :
    InTouch c store (c.perform op s)

/-- The store works, and the device is in the mode that it has. -/
def ModeKept (store : c.board.KeyValue) (s : Machine ω) : Prop :=
  ∃ r, store.Has r s.world ∧ s.device.mode = r.mode

namespace ModeKept

theorem within (h : ModeKept store s) (mode : t.device.mode = s.device.mode)
    (world : ∀ r, store.Has r s.world → store.Has r t.world) : ModeKept store t := by
  obtain ⟨r, has, same⟩ := h
  exact ⟨r, world r has, mode.trans same⟩

theorem write (h : ModeKept store s) {key : Key} (other : .operatingMode ≠ key)
    (record : List UInt8) (mode : t.device.mode = s.device.mode)
    (world : t.world = (c.board.write key record s.world).2) : ModeKept store t := by
  obtain ⟨r, has, same⟩ := h
  refine ⟨r.set key record, ?_, ?_⟩
  · rw [world]
    exact has.write key record
  · rw [r.mode_set_other other, mode, same]

theorem setMode (h : ModeKept store s) (mode : Mode) : ModeKept store (c.setMode mode s) := by
  by_cases same : s.device.mode = mode
  · rw [← same, c.setMode_same]
    exact h
  · obtain ⟨r, has, -⟩ := h
    obtain ⟨entered, written⟩ := setMode_kept has same
    exact ⟨_, written, by rw [entered, r.mode_set_code]⟩

theorem carryOut (h : ModeKept store s) (change : Change) : ModeKept store (c.carryOut change s) := by
  cases change with
  | mode mode => exact h.setMode mode
  | alarmMask mask => exact h.within rfl fun _ has => has
  | text text => exact h.write (by decide) _ rfl (congrArg Machine.world (c.storeText_eq s text))
  | playlist playlist =>
    exact h.write (by decide) _ rfl (congrArg Machine.world (c.storePlaylist_eq s playlist))
  | effect effect =>
    exact h.write (by decide) _ rfl (congrArg Machine.world (c.storeEffect_eq s effect))
  | zone offset => exact h.within rfl fun _ has => has.setZone offset
  | time seconds => exact h.within rfl fun _ has => has.setTime _
  | address address =>
    exact h.write (by decide) _ rfl (congrArg Machine.world (c.storeAddress_eq s address))

theorem dispatch (h : ModeKept store s) {sink : Sink ω} (spared : store.Spares sink)
    (payload : List UInt8) : ModeKept store (c.dispatch sink payload s).2 := by
  obtain ⟨r, known⟩ := h
  exact dispatch_of_changes (P := fun r s => store.Has r s.world ∧ s.device.mode = r.mode) spared
    (fun known => known.1) (fun known has => ⟨has, known.2⟩) (fun _ known => carryOut ⟨_, known⟩ _)
    payload known

theorem perform (h : ModeKept store s) {op : Operation ω} (kept : KeepsTouch store op) :
    ModeKept store (c.perform op s) := by
  cases op with
  | boot =>
    obtain ⟨r, has, -⟩ := h
    obtain ⟨restored, same⟩ := boot_restores has
    exact ⟨r, same, restored⟩
  | dispatch sink payload => exact h.dispatch kept payload
  | setMode mode => exact h.setMode mode
  | changeEffect effect => exact kept.elim
  | changePlaylist playlist => exact kept.elim
  | storeEffect effect => exact h.carryOut (.effect effect)
  | storePlaylist playlist => exact h.carryOut (.playlist playlist)
  | storeText text => exact h.carryOut (.text text)
  | storeAddress address => exact h.carryOut (.address address)
  | sync =>
    exact h.within (c.sync_shell s).1 fun r has =>
      c.sync_world s (fun key room w hw => hw.read key room) has
  | advance =>
    obtain ⟨effect, selector, moved⟩ := c.advancePlaylist_device s
    have mode : (c.advancePlaylist s).device.mode = s.device.mode := by rw [moved]
    exact h.within mode fun r has => (c.advancePlaylist_world s).symm ▸ has

end ModeKept

/-- A machine that is in touch with its store is in the mode that the store has. -/
theorem InTouch.kept (h : c.InTouch store s) : ModeKept store s := by
  induction h with
  | boot working =>
    obtain ⟨restored, same⟩ := boot_restores (c := c) ⟨working, rfl⟩
    exact ⟨_, same, restored⟩
  | @setMode s mode working other =>
    obtain ⟨entered, written⟩ := setMode_kept (c := c) ⟨working, rfl⟩ other
    exact ⟨_, written, by rw [entered, Contents.mode_set_code]⟩
  | perform _ kept ih => exact ih.perform kept

/-! ## Reboots -/

/-- **Durability of the mode.** Take any device, whatever happened to it before, over a store that
works now, write a mode, and let any device boot later over a working store whose mode is as it was left.
It restores the mode that was written, unless the device was in that mode already: then nothing is
written and the mode in the store is restored, which is the same one wherever the device was in touch
with its store. -/
theorem written_mode_restored (working : store.working s.world) (mode : Mode)
    (later : store.working t.world)
    (left : store.records t.world .operatingMode =
      store.records (c.setMode mode s).world .operatingMode) :
    ((c.boot t).device.mode = mode ↔
      s.device.mode ≠ mode ∨ (store.records s.world).mode = mode) ∧
    (s.device.mode = mode → c.setMode mode s = s) ∧
    (c.InTouch store s → (c.boot t).device.mode = mode ∧ (store.records s.world).mode = s.device.mode) := by
  have restored : (c.boot t).device.mode = (store.records (c.setMode mode s).world).mode :=
    (boot_restores ⟨later, rfl⟩).1.trans (Contents.mode_congr left)
  by_cases same : s.device.mode = mode
  · -- the device is in this mode, and the store is left alone
    have still : c.setMode mode s = s := by rw [← same, c.setMode_same]
    rw [still] at restored
    refine ⟨?_, fun _ => still, fun touch => ?_⟩
    · rw [restored]
      simp [same]
    · obtain ⟨r, has, kept⟩ := touch.kept
      rw [restored, has.2]
      exact ⟨kept.symm.trans same, kept.symm⟩
  · -- another mode is written
    obtain ⟨-, written⟩ := setMode_kept (c := c) (r := store.records s.world) ⟨working, rfl⟩ same
    rw [written.2, Contents.mode_set_code] at restored
    refine ⟨⟨fun _ => .inl same, fun _ => restored⟩, fun already => absurd already same, fun touch => ?_⟩
    obtain ⟨r, has, kept⟩ := touch.kept
    rw [has.2]
    exact ⟨restored, kept.symm⟩

end Cube

namespace Bench

/-- A message that writes a mode. -/
def modeMessage (mode : Mode) : List UInt8 :=
  (sampleHeader .writeAttributes).encode ++ [0x01, 0x00, DataType.enum8.tag, mode.code]

/-- The sample cube after it booted over an empty store, and ran its third effect for now only. -/
def visitedLoop : MainLoop World :=
  let l := sampleCube.mainLoop { world := {} }
  { l with toMachine := sampleCube.performAll [.boot, .changeEffect 2] l.toMachine }

theorem visitedLoop_reachable : Reachable sampleCube visitedLoop :=
  (Reachable.new _).performAll [.boot, .changeEffect 2]

/-- A write of the mode is answered with success and yet not restored: the device that runs an effect for
now only is told to run the effect, and after a reboot it is idle. -/
theorem visit_not_restored :
    (sampleCube.dispatch traySink (modeMessage .effect) visitedLoop.toMachine).1 = .responded 18 ∧
      ¬∀ l : MainLoop World, Reachable sampleCube l → sampleStore.working l.world → ∀ mode : Mode,
        (sampleCube.boot (sampleCube.setMode mode l.toMachine)).device.mode = mode := by
  refine ⟨by decide +kernel, fun restores => ?_⟩
  have idle : (sampleCube.boot (sampleCube.setMode .effect visitedLoop.toMachine)).device.mode = .idle := by
    decide +kernel
  have effect := restores visitedLoop visitedLoop_reachable ⟨by decide +kernel, by decide +kernel⟩ .effect
  rw [idle] at effect
  cases effect

/-- The same device, told to sleep instead, sleeps after a reboot. -/
theorem visit_sleeps :
    sampleStore.working visitedLoop.world ∧ visitedLoop.device.mode ≠ .sleep ∧
      (sampleCube.boot (sampleCube.setMode .sleep visitedLoop.toMachine)).device.mode = .sleep := by
  have working : sampleStore.working visitedLoop.world := ⟨by decide +kernel, by decide +kernel⟩
  have awake : visitedLoop.device.mode ≠ .sleep := by decide +kernel
  have later : sampleStore.working (sampleCube.setMode .sleep visitedLoop.toMachine).world :=
    ⟨by decide +kernel, by decide +kernel⟩
  exact ⟨working, awake, (Cube.written_mode_restored working .sleep later rfl).1.mpr (.inl awake)⟩

end Bench

end VoxelCube
