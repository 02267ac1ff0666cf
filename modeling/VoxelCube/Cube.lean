/-
A cube as it is built: its board, its configuration, its playlists and its effects. A cube carries
the proof that its tables belong together: every playlist entry names an effect of the cube, and the
effects can be numbered and named in a message.
-/
import VoxelCube.Board
import VoxelCube.Config.Basic
import VoxelCube.Effect
import VoxelCube.Message.Value
import VoxelCube.Playlist.Catalog

namespace VoxelCube

/-- What is fixed when a cube is built. -/
structure Cube (ω : Type) where
  board : Board ω
  config : Config
  playlists : Playlist.Catalog
  effects : List (Effect ω)
  known : playlists.Knows effects.length
  effectsFit : effects.length ≤ Playlist.tableLimit
  namesFit : Value.nameTextLength (Effect.names effects) ≤ DataType.maxLongOctets

namespace Cube

open Playlist

variable {ω : Type}

/-- Puts a cube together, or says why its tables do not fit. -/
def build (board : Board ω) (config : Config) (playlists : Catalog) (effects : List (Effect ω)) :
    Except TableError (Cube ω) :=
  match check : playlists.checkEffects effects.length with
  | .error e => .error e
  | .ok () =>
    if fit : effects.length ≤ tableLimit ∧
        Value.nameTextLength (Effect.names effects) ≤ DataType.maxLongOctets then
      .ok { board, config, playlists, effects, known := Catalog.knows_of_checkEffects check,
            effectsFit := fit.1, namesFit := fit.2 }
    else .error .tooLarge

def effect? (c : Cube ω) (n : UInt8) : Option (Effect ω) := c.effects[n.toNat]?

end Cube

end VoxelCube
