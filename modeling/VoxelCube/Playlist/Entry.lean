/-
One entry of a playlist: which effect runs, for how long, and what it is told.
-/
namespace VoxelCube

namespace Playlist

structure Entry where
  effect : UInt8
  /-- How many ticks the entry runs before the next one. -/
  duration : UInt16
  /-- Data handed to the effect as it is. -/
  data : Option (List UInt8) := none
  deriving DecidableEq, Repr

end Playlist

end VoxelCube
