/-
A cube to try things on: five effects, one of them still and one that starts over with the effect
text, and a master sequence of five entries in two playlists.
-/
import VoxelCube.Bench.Script
import VoxelCube.Cube
import VoxelCube.Message.Attribute
import VoxelCube.Message.Code
import VoxelCube.Message.Header

namespace VoxelCube.Bench

/-- The effects of the sample cube; each begins with its own number in the first voxel and counts
its frames in the second. -/
def sampleEffects : List (Effect World) :=
  let infos : List (EffectInfo × Bool) :=
    [({ name := "sine", flip := .flip, minimumTicks := 2 }, true),
     ({ name := "heart", flip := .flip, minimumTicks := 3 }, true),
     ({ name := "stairs", flip := .noFlip, minimumTicks := 100 }, false),
     ({ name := "worm", flip := .flip, minimumTicks := 1 }, true),
     ({ name := "scroll_text", flip := .noFlip, minimumTicks := 1, dynamicText := true }, true)]
  infos.zipIdx.map fun ((info, animated), i) =>
    scripted i info animated [.command (.set 0 0 0 (UInt16.ofNat (i + 1)))] [.count 1 0 0]

theorem scripted_of_sampleEffects {n : Nat} {effect : Effect World}
    (h : sampleEffects[n]? = some effect) : ∃ info animated, effect =
      scripted n info animated [.command (.set 0 0 0 (UInt16.ofNat (n + 1)))] [.count 1 0 0] := by
  unfold sampleEffects at h
  rw [List.getElem?_map, List.getElem?_zipIdx] at h
  obtain ⟨_, numbered, rfl⟩ := Option.map_eq_some_iff.1 h
  obtain ⟨⟨info, animated⟩, -, rfl⟩ := Option.map_eq_some_iff.1 numbered
  exact ⟨info, animated, by simp only [Nat.zero_add]⟩

def sampleMaster : List Playlist.Entry :=
  [⟨0, 10, none⟩, ⟨1, 20, some [0x2A]⟩, ⟨2, 30, none⟩, ⟨3, 5, none⟩, ⟨4, 6, none⟩]

def sampleStarts : List UInt8 := [0, 3]

def sampleNames : List UInt8 := textBytes "[\"demo\",\"night\"]"

/-- The board of the sample cube: memory, with its calls recorded. -/
def sampleBoard : Board World := Memory.board.recorded

def sampleCatalog : Playlist.Catalog where
  master := sampleMaster
  starts := sampleStarts
  names := sampleNames
  sizes := by decide +kernel
  cuts := by decide +kernel

def sampleCube : Cube World where
  board := sampleBoard
  config := {}
  playlists := sampleCatalog
  effects := sampleEffects
  known := by decide +kernel
  effectsFit := by decide +kernel
  namesFit := by decide +kernel

/-- The header of a command to the sample cube about its own attributes. -/
def sampleHeader (command : Command) : Header :=
  { channel := Header.deviceChannel, address := 0, endpoint := 70, profile := 1024,
    cluster := Cluster.cube.code, flags := 0, transaction := 1, command := command.code }

/-- A sink into the tray of the bench. -/
def traySink : Sink World := fun byte w => { w with world := Memory.collect byte w.world }

end VoxelCube.Bench
