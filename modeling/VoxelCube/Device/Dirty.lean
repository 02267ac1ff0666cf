/-
Which settings changed in the store since the device last took them over.
-/
namespace VoxelCube

/-- A set of settings. -/
structure Dirty where
  mode : Bool := false
  playlist : Bool := false
  effect : Bool := false
  text : Bool := false
  deriving DecidableEq, Repr

namespace Dirty

def none : Dirty := {}

def all : Dirty := { mode := true, playlist := true, effect := true, text := true }

def ofMode : Dirty := { mode := true }

def ofPlaylist : Dirty := { playlist := true }

def ofEffect : Dirty := { effect := true }

def ofText : Dirty := { text := true }

def union (a b : Dirty) : Dirty :=
  { mode := a.mode || b.mode, playlist := a.playlist || b.playlist,
    effect := a.effect || b.effect, text := a.text || b.text }

def inter (a b : Dirty) : Dirty :=
  { mode := a.mode && b.mode, playlist := a.playlist && b.playlist,
    effect := a.effect && b.effect, text := a.text && b.text }

def isEmpty (a : Dirty) : Bool := a == none

/-- Every setting of `b` is in `a`. -/
def contains (a b : Dirty) : Bool := a.inter b == b

/-- Some setting of `b` is in `a`. -/
def intersects (a b : Dirty) : Bool := !(a.inter b).isEmpty

end Dirty

end VoxelCube
