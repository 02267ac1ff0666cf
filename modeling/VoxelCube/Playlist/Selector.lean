/-
The entry that plays. A selector keeps the entry's place in one byte, and its duration and data.
-/
import VoxelCube.Playlist.Catalog

namespace VoxelCube.Playlist

inductive SelectError where
  | playlistOutOfRange
  | effectOutOfRange
  | indexOutOfRange
  deriving DecidableEq, Repr

structure Selector where
  /-- The entry's place in the master sequence. -/
  index : UInt8 := 0
  duration : UInt16 := 0
  data : Option (List UInt8) := none
  deriving DecidableEq, Repr

namespace Selector

def ofEntry (index : Nat) (entry : Entry) : Selector :=
  { index := UInt8.ofNat index, duration := entry.duration, data := entry.data }

/-- The selector at a place of the master sequence, and the effect to run there. -/
def atIndex (c : Catalog) (index : Nat) : Except SelectError (UInt8 × Selector) :=
  match c.master[index]? with
  | some entry => .ok (entry.effect, ofEntry index entry)
  | none => .error .indexOutOfRange

/-- The selector at the first entry of a playlist. -/
def start (c : Catalog) (playlist : UInt8) : Except SelectError (UInt8 × Selector) :=
  match c.range? playlist with
  | some (start, _) => atIndex c start
  | none => .error .playlistOutOfRange

/-- The selector at the next entry, at the first one again after a playlist's last. -/
def advance (s : Selector) (c : Catalog) (playlist : UInt8) :
    Except SelectError (UInt8 × Selector) :=
  match c.range? playlist with
  | some (start, stop) =>
    let next := s.index.toNat + 1
    atIndex c (if stop ≤ next ∨ next < start then start else next)
  | none => .error .playlistOutOfRange

/-- How far into a playlist the entry is. -/
def position (s : Selector) (c : Catalog) (playlist : UInt8) : UInt8 :=
  match c.range? playlist with
  | some (start, _) => UInt8.ofNat (s.index.toNat - start)
  | none => 0

/-- Forgets the entry's data, for an effect that runs on its own. -/
def withoutData (s : Selector) : Selector := { s with data := none }

end Selector

end VoxelCube.Playlist
