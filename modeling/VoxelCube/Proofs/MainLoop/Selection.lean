/-
The selection of a running cube. Whatever is asked of a cube and in whatever order, whatever its store
holds or refuses, between any two moves of the main loop the running effect and the playing playlist
exist, the selector is inside the playlist, and a device that plays in a mode that it took over runs
its entry. So nothing that selects can fail.
-/
import VoxelCube.Bench.Sample
import VoxelCube.Proofs.Device.Selection
import VoxelCube.Proofs.MainLoop.Moves

namespace VoxelCube

open Playlist Link

variable {ω : Type} {c : Cube ω} {l : MainLoop ω}

/-! ## Reachable main loops -/

/-- A main loop that its cube can come to from a new one: by operations on its device, by the moves of
its turns, and by what changes around the device, such as the world or the frame on display. -/
inductive Reachable (c : Cube ω) : MainLoop ω → Prop where
  | new (world : ω) : Reachable c (c.mainLoop world)
  | perform {l : MainLoop ω} (h : Reachable c l) (op : Operation ω) :
    Reachable c { l with toMachine := c.perform op l.toMachine }
  | begin {l : MainLoop ω} (h : Reachable c l) : Reachable c (c.initEffect l)
  | around {l l' : MainLoop ω} (h : Reachable c l) (same : l'.device = l.device) : Reachable c l'

namespace Reachable

theorem performAll (h : Reachable c l) (ops : List (Operation ω)) :
    Reachable c { l with toMachine := c.performAll ops l.toMachine } := by
  induction ops generalizing l with
  | nil => exact h
  | cons op rest ih => exact ih (h.perform op)

theorem takeEvent (h : Reachable c l) (event : Event) : Reachable c (c.takeEvent event l) := by
  cases event with
  | frame payload =>
    have acknowledged : Reachable c { l with world := c.board.put ackOctet l.world } := by
      refine h.around ?_
      rfl
    refine (acknowledged.perform (.dispatch c.board.put payload)).around ?_
    unfold Cube.takeEvent Cube.perform
    dsimp only
  | ack => exact h
  | nak => exact h
  | probe => exact h.around rfl

theorem takeByte (h : Reachable c l) (byte : UInt8) : Reachable c (c.takeByte byte l) := by
  unfold Cube.takeByte
  rcases l.receiver.feed c.config.crc byte with ⟨receiver, none | fault | event⟩
  · exact h.around rfl
  · exact h.around rfl
  · have fed : Reachable c { l with receiver } := h.around rfl
    exact fed.takeEvent event

theorem takeBytes (h : Reachable c l) (budget : Nat) : Reachable c (c.takeBytes budget l) := by
  induction budget generalizing l with
  | zero => exact h
  | succ budget ih =>
    unfold Cube.takeBytes
    rcases c.board.receive l.world with ⟨none | byte, world⟩
    · exact h.around rfl
    · have read : Reachable c { l with world } := h.around rfl
      exact ih (read.takeByte byte)

theorem processSerial (h : Reachable c l) : Reachable c (c.processSerial l) :=
  h.takeBytes Cube.serialBudget

theorem drawAt (h : Reachable c l) (ticks : UInt16) : Reachable c (c.drawAt ticks l).2 :=
  h.around (c.drawAt_shell l ticks).1

theorem turnKeeps (c : Cube ω) : c.TurnKeeps (Reachable c) where
  sync h := h.perform .sync
  begin h := h.begin
  elapse h := h.around rfl
  draw ticks h := h.drawAt ticks
  advance h := h.perform .advance
  wait h := h.around rfl

/-- Every turn of the main loop, with all states between its moves, is a run of such moves. -/
theorem step (h : Reachable c l) : Reachable c (c.step l).2 :=
  (turnKeeps c).step h.processSerial

/-! ## The invariant -/

theorem selected (h : Reachable c l) : c.Selected l.device := by
  induction h with
  | new world => exact Cube.Selected.newDevice c
  | perform _ op ih => exact ih.perform op
  | begin _ ih =>
    rw [c.initEffect_device]
    exact ih.keep rfl rfl rfl fun playing clean => ⟨playing, clean⟩
  | around _ same ih => exact same ▸ ih

/-- The running effect exists. -/
theorem runs (h : Reachable c l) : ∃ effect, c.effect? l.device.effect = some effect :=
  ⟨_, List.getElem?_eq_getElem h.selected.effect⟩

end Reachable

/-- **Selection.** In every reachable state the selection is consistent, and no branch for a selection
that failed is taken: the running effect exists, whatever playlist the store has starts, and the
playing one moves on. The position that is reported is inside the playlist, and while the device plays
in a mode that it took over, the entry there is the one that runs. -/
theorem selection_consistent (h : Reachable c l) :
    let d := l.device
    let position := (d.selector.position c.playlists d.playlist).toNat
    c.Selected d ∧
      position < (c.playlists.entries d.playlist).length ∧
      (d.mode = .playlist → d.dirty.mode = false →
        ∃ entry, (c.playlists.entries d.playlist)[position]? = some entry ∧
          entry.effect = d.effect ∧ entry.duration = d.selector.duration ∧
          entry.data = d.selector.data) ∧
      (∃ effect, c.effect? d.effect = some effect) ∧
      (∀ read : Except Store.SettingError UInt8, ∃ selected,
        Selector.start c.playlists (Cube.orFirst c.playlists.count read) = .ok selected) ∧
      ∃ selected, d.selector.advance c.playlists d.playlist = .ok selected := by
  have selected := h.selected
  refine ⟨selected, Selector.position_lt selected.place, fun playing clean => ?_, ?_, ?_, ?_⟩
  · rw [Selector.entries_position selected.place]
    exact selected.plays playing clean
  · exact ⟨_, List.getElem?_eq_getElem selected.effect⟩
  · intro read
    obtain ⟨effect, selector, started⟩ := c.start_orFirst read
    exact ⟨_, started⟩
  · obtain ⟨effect, selector, moved, -⟩ := selected.advance
    exact ⟨_, moved⟩

/-- The sample cube on its second playlist, one entry further. -/
def Bench.nightLoop : MainLoop Bench.World :=
  let l := Bench.sampleCube.mainLoop
    { world := { records := #v[some [Mode.playlist.code], none, some [1], none, none] } }
  { l with toMachine := Bench.sampleCube.performAll [.boot, .sync, .advance] l.toMachine }

theorem Bench.nightLoop_reachable : Reachable Bench.sampleCube Bench.nightLoop :=
  (Reachable.new _).performAll [.boot, .sync, .advance]

theorem Bench.nightLoop_plays :
    ∃ entry, (Bench.sampleCatalog.entries 1)[1]? = some entry ∧
      entry.effect = Bench.nightLoop.device.effect ∧
      entry.duration = Bench.nightLoop.device.selector.duration ∧
      entry.data = Bench.nightLoop.device.selector.data :=
  (selection_consistent Bench.nightLoop_reachable).2.2.1 (by decide +kernel) (by decide +kernel)

end VoxelCube
