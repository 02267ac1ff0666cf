/-
Which effect began. A device that renders in a mode that it took over runs the effect that began last,
unless it is marked to begin an effect. Every operation but moving the playlist on keeps this, since
whatever selects another effect marks it to begin; the playlist moves on where an effect begins at once.
-/
import VoxelCube.Proofs.Device.Choice

namespace VoxelCube

/-- Where nothing has to begin first, the effect that runs is the one that began last. -/
def Device.Continues (began : Option UInt8) (d : Device) : Prop :=
  d.mode.isRendering = true → d.dirty.mode = false → d.needsInit = false → began = some d.effect

namespace Device.Continues

variable {ω : Type} {c : Cube ω} {began : Option UInt8} {d : Device} {s : Machine ω}

theorem of_needsInit (marked : d.needsInit = true) : d.Continues began := by
  intro _ _ ready
  rw [marked] at ready
  cases ready

theorem perform (h : s.device.Continues began) {op : Operation ω} (still : op ≠ .advance) :
    (c.perform op s).device.Continues began := by
  have chosen := c.perform_chooses op s
  have unmoved := c.choice?_ne_next still s
  generalize c.choice? op s = choice at chosen unmoved
  cases chosen with
  | stays same =>
    intro rendering clean ready
    obtain ⟨mode, settled⟩ := same.mode rendering clean
    rw [same.effect]
    exact h (mode ▸ rendering) settled (same.needsInit ▸ ready)
  | effect _ _ _ _ _ marked => exact of_needsInit marked
  | playlist _ _ _ _ _ marked => exact of_needsInit marked
  | next => exact absurd rfl unmoved

end Device.Continues

end VoxelCube
