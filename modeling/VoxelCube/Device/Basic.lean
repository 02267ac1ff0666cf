/-
The memory of a device: its mode and selection, the settings it took over from the store, and what
is still to be done. A machine is a device together with the world of its board.
-/
import VoxelCube.Cube
import VoxelCube.Device.Dirty
import VoxelCube.Device.Mode
import VoxelCube.Playlist.Selector

namespace VoxelCube

open Playlist

/-- The memory of a device. -/
structure Device where
  mode : Mode := .idle
  effect : UInt8 := 0
  playlist : UInt8 := 0
  /-- The settings to take over at the next sync. -/
  dirty : Dirty := .all
  selector : Selector := {}
  address : UInt64
  alarmMask : Bool := false
  text : List UInt8 := []
  /-- The effect has to begin before it draws. -/
  needsInit : Bool := false
  deriving DecidableEq, Repr

namespace Device

def mark (d : Device) (settings : Dirty) : Device := { d with dirty := d.dirty.union settings }

/-- Takes an effect with its place in the playlists; it has to begin. -/
def play (d : Device) (selected : UInt8 × Selector) : Device :=
  { d with effect := selected.1, selector := selected.2, needsInit := true }

/-- Takes an effect on its own; it has to begin and is told no data. -/
def runAlone (d : Device) (effect : UInt8) : Device :=
  { d with effect, selector := d.selector.withoutData, needsInit := true }

end Device

structure Machine (ω : Type) where
  device : Device
  world : ω

namespace Cube

variable {ω : Type} (c : Cube ω)

/-- The device of a cube before it boots, at the first entry of the master sequence. -/
def newDevice : Device :=
  let entry := c.playlists.master.head c.playlists.master_ne_nil
  { effect := entry.effect, selector := Selector.ofEntry 0 entry,
    address := c.config.factoryAddress }

/-- The machine of a cube before it boots. -/
def machine (world : ω) : Machine ω := { device := c.newDevice, world }

end Cube

end VoxelCube
