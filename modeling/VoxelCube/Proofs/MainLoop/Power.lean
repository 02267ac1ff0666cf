/-
The display's power. From a boot on, the display is powered up and down in turns, beginning with up,
and at every point between operations it is up exactly in the modes that are not sleep. The modes are
entered on four ways; each of them goes through one entry, which acts only where sleep begins or ends.
-/
import Mathlib.Data.List.Basic
import VoxelCube.Bench.Sample
import VoxelCube.Proofs.Device.Operation
import VoxelCube.Proofs.Device.World
import VoxelCube.Proofs.MainLoop.Moves
import VoxelCube.Proofs.Reply.Moves

namespace VoxelCube

/-! ## The meter -/

/-- A record of the power actions in the world of a cube: the two hooks add themselves to it, nothing
else that the cube asks of its board or of its effects touches it. -/
structure Meter {ω : Type} (c : Cube ω) where
  hooks : ω → List PowerAction
  powerUp : ∀ w, hooks (c.board.powerUp w) = hooks w ++ [.start]
  powerDown : ∀ w, hooks (c.board.powerDown w) = hooks w ++ [.shutdown]
  read : ∀ key room w, hooks (c.board.read key room w).2 = hooks w
  write : ∀ key record w, hooks (c.board.write key record w).2 = hooks w
  setTime : ∀ seconds w, hooks (c.board.setTime seconds w) = hooks w
  setZone : ∀ offset w, hooks (c.board.setZone offset w) = hooks w
  wait : ∀ w, hooks (c.board.wait w) = hooks w
  receive : ∀ w, hooks (c.board.receive w).2 = hooks w
  send : ∀ byte w, hooks (c.board.send byte w).2 = hooks w
  flush : ∀ w, hooks (c.board.flush w).2 = hooks w
  elapse : ∀ w, hooks (c.board.elapse w) = hooks w
  resetTicks : ∀ w, hooks (c.board.resetTicks w) = hooks w
  init : ∀ effect ∈ c.effects, ∀ scene s, hooks (effect.init scene s).2 = hooks s.2
  draw : ∀ effect ∈ c.effects, ∀ scene s, hooks (effect.draw scene s).2 = hooks s.2

/-- What a meter records of a power action. -/
def PowerAction.hooks : PowerAction → List PowerAction
  | none => []
  | action => [action]

theorem Mode.hooks_transition_self (mode : Mode) : (mode.transition mode).hooks = [] := by
  cases mode <;> rfl

namespace Meter

variable {ω : Type} {c : Cube ω} (m : Meter c)

/-- The first action powers up, and each one undoes the one before it. -/
def turnTaking (n : Nat) : PowerAction := if n % 2 = 0 then .start else .shutdown

/-- The actions so far took turns, and the display is up exactly when the mode is not sleep. -/
def Agrees (s : Machine ω) : Prop :=
  ∃ n, m.hooks s.world = (List.range n).map turnTaking ∧ (n % 2 = 1 ↔ s.device.mode ≠ .sleep)

/-! ## What is told of the power -/

/-- The mode of a machine and its power actions so far. -/
def told (s : Machine ω) : Mode × List PowerAction := (s.device.mode, m.hooks s.world)

/-- The mode and the recorded power actions after a change. -/
def follow (p : Mode × List PowerAction) : Change → Mode × List PowerAction
  | .mode mode => (mode, p.2 ++ (p.1.transition mode).hooks)
  | _ => p

variable {s t : Machine ω}

variable {m} in
theorem told_eq (mode : t.device.mode = s.device.mode) (hooks : m.hooks t.world = m.hooks s.world) :
    m.told t = m.told s := Prod.ext mode hooks

theorem hooks_power (action : PowerAction) (w : ω) :
    m.hooks (c.power action w) = m.hooks w ++ action.hooks := by
  cases action with
  | none => exact (List.append_nil _).symm
  | start => exact m.powerUp w
  | shutdown => exact m.powerDown w

theorem told_enter (mode : Mode) (s : Machine ω) :
    m.told (c.enter mode s) = follow (m.told s) (.mode mode) := by
  have hooks : m.hooks (c.enter mode s).world =
      m.hooks s.world ++ (s.device.mode.transition mode).hooks := by
    unfold Cube.enter Mode.enter?
    by_cases same : s.device.mode = mode
    · rw [if_pos same, same, mode.hooks_transition_self, List.append_nil]
    · rw [if_neg same]
      exact m.hooks_power _ _
  exact Prod.ext (congrArg Device.mode (c.enter_device s mode)) hooks

theorem told_setMode (mode : Mode) (s : Machine ω) :
    m.told (c.setMode mode s) = follow (m.told s) (.mode mode) := by
  by_cases same : s.device.mode = mode
  · subst same
    rw [c.setMode_same, follow, told, Mode.hooks_transition_self, List.append_nil]
  · rw [c.setMode_other s same, told_enter]
    exact congrArg (follow · (.mode mode)) (told_eq rfl (m.write ..))

theorem told_carryOut (change : Change) (s : Machine ω) :
    m.told (c.carryOut change s) = follow (m.told s) change := by
  have written {device : Device} {key : Store.Key} {record : List UInt8}
      (does : c.carryOut change s = { device, world := (c.board.write key record s.world).2 })
      (mode : device.mode = s.device.mode) : m.told (c.carryOut change s) = m.told s := by
    rw [does]
    exact told_eq mode (m.write ..)
  cases change with
  | mode mode => exact m.told_setMode mode s
  | alarmMask mask => rfl
  | text text => exact written (c.storeText_eq s text) rfl
  | playlist playlist => exact written (c.storePlaylist_eq s playlist) rfl
  | effect effect => exact written (c.storeEffect_eq s effect) rfl
  | zone offset => exact told_eq rfl (m.setZone ..)
  | time seconds => exact told_eq rfl (m.setTime ..)
  | address address => exact written (c.storeAddress_eq s address) rfl

variable {m}

/-! ## Operations -/

theorem Agrees.keep (h : m.Agrees s) {s' : Machine ω} (mode : s'.device.mode = s.device.mode)
    (hooks : m.hooks s'.world = m.hooks s.world) : m.Agrees s' := by
  obtain ⟨n, log, up⟩ := h
  exact ⟨n, hooks.trans log, by rw [mode]; exact up⟩

/-- One more action, which is due because the display is up or down. -/
theorem Agrees.push {n : Nat} {action : PowerAction} {s' : Machine ω}
    (log : m.hooks s.world = (List.range n).map turnTaking)
    (hooks : m.hooks s'.world = m.hooks s.world ++ [action]) (due : turnTaking n = action)
    (up : (n + 1) % 2 = 1 ↔ s'.device.mode ≠ .sleep) : m.Agrees s' := by
  refine ⟨n + 1, ?_, up⟩
  rw [hooks, log, List.range_succ, List.map_append, List.map_singleton, due]

/-- Another mode acts exactly where sleep begins or ends. -/
theorem Agrees.change_mode (h : m.Agrees s) {mode : Mode}
    (told : m.told t = follow (m.told s) (.mode mode)) : m.Agrees t := by
  have now : t.device.mode = mode := congrArg Prod.fst told
  have hooks : m.hooks t.world = m.hooks s.world ++ (s.device.mode.transition mode).hooks :=
    congrArg Prod.snd told
  by_cases same : s.device.mode = mode
  · rw [same, mode.hooks_transition_self, List.append_nil] at hooks
    exact h.keep (now.trans same.symm) hooks
  obtain ⟨n, log, up⟩ := h
  by_cases asleep : s.device.mode = .sleep
  · -- sleep ends, and the display has been down
    have even : n % 2 = 0 := by
      have : ¬n % 2 = 1 := fun odd => up.mp odd asleep
      omega
    have awake : mode ≠ .sleep := fun sleeping => same (asleep.trans sleeping.symm)
    have wakes : s.device.mode.transition mode = .start := by
      rw [asleep]
      cases mode <;> first | rfl | exact absurd rfl awake
    rw [wakes] at hooks
    exact .push log hooks (if_pos even) ⟨fun _ => now ▸ awake, fun _ => by omega⟩
  have odd : n % 2 = 1 := up.mpr asleep
  by_cases falls : mode = .sleep
  · -- sleep begins, and the display has been up
    have sleeps : s.device.mode.transition mode = .shutdown := by
      rw [falls]
      cases was : s.device.mode <;> first | rfl | exact absurd was asleep
    rw [sleeps] at hooks
    exact .push log hooks (if_neg (by omega)) ⟨fun _ => by omega, fun awake => absurd (now.trans falls) awake⟩
  · -- from one waking mode to another
    have stays : s.device.mode.transition mode = .none := by
      cases was : s.device.mode <;> cases next : mode <;>
        first | rfl | exact absurd was asleep | exact absurd next falls
    rw [stays] at hooks
    exact ⟨n, (hooks.trans (List.append_nil _)).trans log, fun _ => now ▸ falls, fun _ => odd⟩

theorem Agrees.enter (h : m.Agrees s) (mode : Mode) : m.Agrees (c.enter mode s) :=
  h.change_mode (m.told_enter mode s)

theorem Agrees.carryOut (h : m.Agrees s) (change : Change) : m.Agrees (c.carryOut change s) := by
  have told := m.told_carryOut change s
  cases change with
  | mode mode => exact h.change_mode told
  | _ => exact h.keep (congrArg Prod.fst told) (congrArg Prod.snd told)

theorem Agrees.changeEffect (h : m.Agrees s) (effect : UInt8) :
    m.Agrees ((c.changeEffect effect s).toOption.getD s) := by
  unfold Cube.changeEffect
  split
  · exact (h.enter .effect).keep rfl rfl
  · exact h

theorem Agrees.changePlaylist (h : m.Agrees s) (playlist : UInt8) :
    m.Agrees ((c.changePlaylist playlist s).toOption.getD s) := by
  unfold Cube.changePlaylist
  split
  · exact (h.enter .playlist).keep rfl rfl
  · exact h

theorem Agrees.advancePlaylist (h : m.Agrees s) : m.Agrees (c.advancePlaylist s) := by
  unfold Cube.advancePlaylist
  split
  · exact h.keep rfl rfl
  · exact h

theorem Agrees.dispatch (h : m.Agrees s) {sink : Sink ω}
    (quiet : ∀ byte w, m.hooks (sink byte w) = m.hooks w) (payload : List UInt8) :
    m.Agrees (c.dispatch sink payload s).2 := by
  have keeps : c.Keeps sink m.Agrees := by
    refine .of_reads ?put ?read ?change ?setTime ?setZone
    case put => exact fun byte s h => h.keep rfl (quiet byte s.world)
    case read => exact fun _ _ _ h => h.keep rfl (m.read ..)
    case change => exact fun _ _ change _ _ h => h.carryOut change
    case setTime => exact fun _ _ h => h.keep rfl (m.setTime ..)
    case setZone => exact fun _ _ h => h.keep rfl (m.setZone ..)
  exact keeps.dispatch payload s h

/-! ## A sync -/

theorem Agrees.sync (h : m.Agrees s) : m.Agrees (c.sync s) := by
  have quiet : ∀ key room w, m.hooks w = m.hooks s.world →
      m.hooks (c.board.read key room w).2 = m.hooks s.world :=
    fun key room w same => (m.read key room w).trans same
  exact h.keep (c.sync_shell s).1 (c.sync_world s quiet rfl)

/-! ## The main loop -/

theorem hooks_initEffect (l : MainLoop ω) : m.hooks (c.initEffect l).world = m.hooks l.world := by
  unfold Cube.initEffect
  dsimp only
  split
  · rename_i effect found
    exact (m.resetTicks _).trans (m.init effect (Cube.mem_of_effect? found) _ _)
  · exact m.resetTicks _

theorem hooks_drawAt (ticks : UInt16) (l : MainLoop ω) :
    m.hooks (c.drawAt ticks l).2.world = m.hooks l.world := by
  unfold Cube.drawAt
  split
  · rfl
  · rename_i effect found
    dsimp only
    split
    · exact m.draw effect (Cube.mem_of_effect? found) _ _
    · rfl

theorem lineKeeps (m : Meter c) : c.LineKeeps fun l => m.Agrees l.toMachine where
  feed _ h := h
  receive h := h.keep rfl (m.receive _)
  put _ h := h.keep rfl (m.send ..)
  drain h := h.keep rfl (m.flush _)
  dispatch payload h := h.dispatch m.send payload

theorem turnKeeps (m : Meter c) : c.TurnKeeps fun l => m.Agrees l.toMachine where
  sync h := h.sync
  begin h := h.keep (by rw [c.initEffect_device]) (hooks_initEffect _)
  elapse h := h.keep rfl (m.elapse _)
  draw ticks h := h.keep (by rw [(c.drawAt_shell _ ticks).1]) (hooks_drawAt ticks _)
  advance h := h.advancePlaylist
  wait h := h.keep rfl (m.wait _)

/-! ## Runs -/

/-- What may be asked of a device that booted: anything but to boot again, with replies sent to where
the meter is not. -/
def Allows (m : Meter c) : Operation ω → Prop
  | .boot => False
  | .dispatch sink _ => ∀ byte w, m.hooks (sink byte w) = m.hooks w
  | _ => True

end Meter

/-- A main loop that booted with an empty record of its power, and what it comes to since: by
operations, by turns, and by whatever changes around the device without touching the record. -/
inductive Powered {ω : Type} {c : Cube ω} (m : Meter c) : MainLoop ω → Prop where
  | boot {w : ω} (fresh : m.hooks w = []) :
    Powered m { c.mainLoop w with toMachine := c.boot (c.machine w) }
  | perform {l : MainLoop ω} (run : Powered m l) {op : Operation ω} (allowed : m.Allows op) :
    Powered m { l with toMachine := c.perform op l.toMachine }
  | turn {l : MainLoop ω} (run : Powered m l) : Powered m (c.step l).2
  | around {l l' : MainLoop ω} (run : Powered m l) (device : l'.device = l.device)
    (hooks : m.hooks l'.world = m.hooks l.world) : Powered m l'

variable {ω : Type} {c : Cube ω} {m : Meter c} {l : MainLoop ω}

open Meter in
theorem Powered.agrees (run : Powered m l) : m.Agrees l.toMachine := by
  induction run with
  | @boot w fresh =>
    -- a boot asks for the address and the mode, and powers up unless it is to sleep
    have asked : m.hooks (c.board.read .operatingMode Store.valueRoom
        (c.board.read .deviceAddress Store.valueRoom w).2).2 = [] :=
      (m.read ..).trans ((m.read ..).trans fresh)
    show m.Agrees (c.boot (c.machine w))
    rw [c.boot_eq]
    dsimp only [Cube.machine]
    generalize (Store.modeIn _).toOption.getD .idle = mode
    by_cases asleep : mode = .sleep
    · exact ⟨0, by rw [if_pos asleep]; exact asked, by simp [asleep]⟩
    · refine ⟨1, ?_, by simp [asleep]⟩
      rw [if_neg asleep, m.powerUp, asked]
      rfl
  | @perform l _ op allowed ih =>
    cases op with
    | boot => exact allowed.elim
    | dispatch sink payload => exact ih.dispatch allowed payload
    | setMode mode => exact ih.carryOut (.mode mode)
    | changeEffect effect => exact ih.changeEffect effect
    | changePlaylist playlist => exact ih.changePlaylist playlist
    | storeEffect effect => exact ih.carryOut (.effect effect)
    | storePlaylist playlist => exact ih.carryOut (.playlist playlist)
    | storeText text => exact ih.carryOut (.text text)
    | storeAddress address => exact ih.carryOut (.address address)
    | sync => exact ih.sync
    | advance => exact ih.advancePlaylist
  | turn _ ih => exact (turnKeeps m).step ((lineKeeps m).processSerial ih)
  | around _ device hooks ih => exact ih.keep (by rw [device]) hooks

/-- **Power.** In every run the power actions take turns, beginning with powering up; the last one
powered up exactly when the mode is not sleep; and writing the current mode adds none. -/
theorem hooks_take_turns (run : Powered m l) :
    (∀ i action, (m.hooks l.world)[i]? = some action →
      action = if i % 2 = 0 then .start else .shutdown) ∧
    ((m.hooks l.world).getLast? = some .start ↔ l.device.mode ≠ .sleep) ∧
    m.hooks (c.setMode l.device.mode l.toMachine).world = m.hooks l.world := by
  -- the record is the first `n` actions, and `n` tells whether the display is up
  obtain ⟨n, log, up⟩ := run.agrees
  refine ⟨fun i action at' => ?_, ?_, by rw [c.setMode_same]⟩
  · have inside : i < n := by
      have := (List.getElem?_eq_some_iff.mp at').1
      simpa [log] using this
    rw [log, List.getElem?_map, List.getElem?_range inside] at at'
    exact (Option.some.inj at').symm
  · rw [log, ← up]
    cases n with
    | zero => simp
    | succ n =>
      rw [List.range_succ, List.map_append, List.map_singleton, List.getLast?_concat,
        Option.some.injEq, Meter.turnTaking]
      split <;> simp <;> omega

namespace Bench

/-- The power action that a call on a board is, if it is one. -/
def hook? : Call Report → Option PowerAction
  | .powerUp => some .start
  | .powerDown => some .shutdown
  | _ => none

theorem hooks_record (w : World) (call : Call Report) :
    (w.record call).calls.filterMap hook? = w.calls.filterMap hook? ++ (hook? call).toList := by
  rw [Recorded.calls_record, List.filterMap_append]
  cases call <;> rfl

theorem hooks_record_quiet (w : World) {call : Call Report} (quiet : hook? call = none) :
    (w.record call).calls.filterMap hook? = w.calls.filterMap hook? := by
  rw [hooks_record, quiet]
  exact List.append_nil _

/-- The calls that the sample board recorded tell its power actions. -/
def sampleMeter : Meter sampleCube where
  hooks w := w.calls.filterMap hook?
  powerUp _ := hooks_record _ _
  powerDown _ := hooks_record _ _
  read _ _ _ := hooks_record_quiet _ rfl
  write _ _ _ := hooks_record_quiet _ rfl
  setTime _ _ := hooks_record_quiet _ rfl
  setZone _ _ := hooks_record_quiet _ rfl
  wait _ := hooks_record_quiet _ rfl
  receive _ := rfl
  send _ _ := hooks_record_quiet _ rfl
  flush _ := hooks_record_quiet _ rfl
  elapse _ := rfl
  resetTicks _ := hooks_record_quiet _ rfl
  init effect mem scene s := by
    obtain ⟨n, found⟩ := List.mem_iff_getElem?.1 mem
    obtain ⟨info, animated, rfl⟩ := scripted_of_sampleEffects found
    exact hooks_record_quiet _ rfl
  draw effect mem scene s := by
    obtain ⟨n, found⟩ := List.mem_iff_getElem?.1 mem
    obtain ⟨info, animated, rfl⟩ := scripted_of_sampleEffects found
    exact hooks_record_quiet _ rfl

/-- One message that writes the mode four times: to sleep, to the effect, to the effect again and to
sleep. -/
def restlessMessage : List UInt8 :=
  (sampleHeader .writeAttributes).encode ++
    ([Mode.sleep, .effect, .effect, .sleep].flatMap fun mode =>
      [0x01, 0x00, DataType.enum8.tag, mode.code])

/-- The sample cube, booted, sent this message, and left to itself for a turn. -/
def restlessLoop : MainLoop World :=
  let l := sampleCube.mainLoop { world := {} }
  let l := { l with toMachine := sampleCube.boot l.toMachine }
  let l := { l with toMachine := sampleCube.perform (.dispatch traySink restlessMessage) l.toMachine }
  (sampleCube.step l).2

theorem restlessLoop_powered : Powered sampleMeter restlessLoop := by
  have booted : Powered sampleMeter _ := .boot (rfl : sampleMeter.hooks { world := {} } = [])
  have told := booted.perform
    (show sampleMeter.Allows (.dispatch traySink restlessMessage) from fun _ _ => rfl)
  exact told.turn

/-- Four writes of the mode in one message act three times, after which the display is down. -/
theorem restlessLoop_sleeps :
    sampleMeter.hooks restlessLoop.world = [.start, .shutdown, .start, .shutdown] ∧
      (sampleMeter.hooks restlessLoop.world).getLast? ≠ some .start := by
  have asleep : restlessLoop.device.mode = .sleep := by decide +kernel
  have log : sampleMeter.hooks restlessLoop.world = [.start, .shutdown, .start, .shutdown] := by
    decide +kernel
  exact ⟨log, fun up => (hooks_take_turns restlessLoop_powered).2.1.mp up asleep⟩

end Bench

end VoxelCube
