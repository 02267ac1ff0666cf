/-
What a device selects. The running effect and the playing playlist exist, and the selector is at a
place of this playlist. While the device plays and its mode is taken over, the effect runs as the
entry at this place has it; a mode that is still to be taken over leaves the effect of the old mode
running, and the next sync selects again. Every operation keeps this, whatever the store answers.
-/
import VoxelCube.Proofs.Device.Choice

namespace VoxelCube.Cube

open Playlist Store

variable {ω : Type} {c : Cube ω} {d : Device} {s : Machine ω}

/-- The selection of a device is consistent. -/
structure Selected (c : Cube ω) (d : Device) : Prop where
  effect : d.effect.toNat < c.effects.length
  playlist : d.playlist.toNat < c.playlists.count
  place : c.playlists.Holds d.playlist d.selector.index.toNat
  plays : d.mode = .playlist → d.dirty.mode = false → d.selector.Plays c.playlists d.effect

namespace Selected

/-! ## Changes of a selection -/

/-- A change that selects nothing, and leaves no mode taken over that was not. -/
theorem keep {d' : Device} (h : c.Selected d) (effect : d'.effect = d.effect)
    (playlist : d'.playlist = d.playlist) (selector : d'.selector = d.selector)
    (mode : d'.mode = .playlist → d'.dirty.mode = false → d.mode = .playlist ∧ d.dirty.mode = false) :
    c.Selected d' := by
  refine ⟨effect ▸ h.effect, playlist ▸ h.playlist, ?_, fun playing clean => ?_⟩
  · rw [playlist, selector]
    exact h.place
  · obtain ⟨was, settled⟩ := mode playing clean
    rw [selector, effect]
    exact h.plays was settled

theorem newDevice (c : Cube ω) : c.Selected c.newDevice := by
  have entry : c.playlists.master[0]? = some (c.playlists.master.head c.playlists.master_ne_nil) := by
    rw [← List.head?_eq_getElem?, List.head?_eq_some_head]
  have first : c.playlists.Holds 0 0 := by
    have zeroth : (0 : UInt8).toNat < c.playlists.count := c.playlists.count_pos
    obtain ⟨start, stop, range⟩ := Catalog.range?_of_lt_count zeroth
    have zero : start = 0 := by
      have head := c.playlists.cuts.first
      unfold Catalog.range? at range
      rw [List.head?_eq_getElem?] at head
      rw [show (0 : UInt8).toNat = 0 from rfl, head] at range
      exact (Prod.mk.inj (Option.some.inj range)).1.symm
    exact ⟨start, stop, range, by omega, by have := (Catalog.range?_bounds range).1; omega⟩
  exact ⟨c.known _ (List.head_mem _), c.playlists.count_pos, first, fun playing => by cases playing⟩

/-! ## Operations -/

/-- The playlist always moves on. -/
theorem advance (h : c.Selected d) : ∃ effect selector,
    d.selector.advance c.playlists d.playlist = .ok (effect, selector) ∧
      c.Selected { d with effect, selector } := by
  obtain ⟨effect, selector, moved, place, plays⟩ := Selector.advance_of_lt_count d.selector h.playlist
  exact ⟨effect, selector, moved, plays.lt c.known, h.playlist, place, fun _ _ => plays⟩

/-- Every operation keeps the selection consistent. -/
theorem perform (h : c.Selected s.device) (op : Operation ω) :
    c.Selected (c.perform op s).device := by
  have chosen := c.perform_chooses op s
  generalize c.choice? op s = choice at chosen
  cases chosen with
  | stays same =>
    refine h.keep same.effect same.playlist same.selector fun playing clean => ?_
    obtain ⟨mode, settled⟩ := same.mode (by rw [playing]; rfl) clean
    exact ⟨mode.symm.trans playing, settled⟩
  | effect exists' mode effect playlist selector _ =>
    -- an effect that runs alone keeps the playlist and the place
    refine ⟨effect ▸ exists', playlist ▸ h.playlist, ?_, fun playing => ?_⟩
    · rw [playlist, selector]
      exact h.place
    · cases mode.symm.trans playing
  | playlist started mode playlist effect selector _ =>
    obtain ⟨exists', place, plays⟩ := Selector.start_ok started
    rw [← effect, ← selector] at plays
    rw [← playlist, ← selector] at place
    exact ⟨plays.lt c.known, playlist ▸ exists', place, fun _ _ => plays⟩
  | next moved device =>
    obtain ⟨effect, selector, moved', selected⟩ := h.advance
    cases moved.symm.trans moved'
    rw [device]
    exact selected

end Selected

end VoxelCube.Cube

/-! ## Effects that run alone -/

namespace VoxelCube

/-- A device that runs an effect in a mode that it took over has no data for it. -/
def Device.Alone (d : Device) : Prop := d.mode = .effect → d.dirty.mode = false → d.selector.data = none

variable {ω : Type} {c : Cube ω} {s : Machine ω}

theorem Device.Alone.perform (h : s.device.Alone) {op : Operation ω} (still : op ≠ .advance) :
    (c.perform op s).device.Alone := by
  have chosen := c.perform_chooses op s
  have unmoved := c.choice?_ne_next still s
  generalize c.choice? op s = choice at chosen unmoved
  intro alone clean
  cases chosen with
  | stays same =>
    obtain ⟨mode, settled⟩ := same.mode (by rw [alone]; rfl) clean
    rw [same.selector]
    exact h (mode.symm.trans alone) settled
  | effect _ _ _ _ selector _ =>
    rw [selector]
    rfl
  | playlist _ mode => cases mode.symm.trans alone
  | next => exact absurd rfl unmoved

end VoxelCube
