/-
The memory of the display: two arenas of voxels and two roles. Drawing writes the arena in the back,
the display shows the one in front, and a swap exchanges the roles while the gate is open. An effect
that draws in place has both roles on one arena.
-/
import VoxelCube.Display.Voxels

namespace VoxelCube.Display

/-- How an effect uses the two arenas. -/
inductive FlipPolicy where
  /-- It draws in the back, to be shown after a swap. -/
  | flip
  /-- It draws in place. -/
  | noFlip
  deriving DecidableEq, Repr

inductive Arena where
  | first
  | second
  deriving DecidableEq, Repr

def Arena.other : Arena → Arena
  | first => second
  | second => first

/-- The two arenas, their roles and the gate. -/
structure FrameBuffer where
  first : Voxels := .dark
  second : Voxels := .dark
  front : Arena := .first
  back : Arena := .second
  /-- A finished frame waits to be shown. -/
  mayFlip : Bool := false
  deriving DecidableEq

namespace FrameBuffer

def arena (f : FrameBuffer) : Arena → Voxels
  | .first => f.first
  | .second => f.second

def setArena (f : FrameBuffer) (a : Arena) (v : Voxels) : FrameBuffer :=
  match a with
  | .first => { f with first := v }
  | .second => { f with second := v }

def shown (f : FrameBuffer) : Voxels := f.arena f.front

def drawn (f : FrameBuffer) : Voxels := f.arena f.back

def draw (f : FrameBuffer) (v : Voxels) : FrameBuffer := f.setArena f.back v

/-- Both roles are on one arena. -/
def isAliased (f : FrameBuffer) : Bool := f.front == f.back

/-! ## Painting -/

def set (f : FrameBuffer) (x y z : Nat) (intensity : UInt16) : Except VoxelError FrameBuffer :=
  match f.drawn.write x y z intensity with
  | .ok v => .ok (f.draw v)
  | .error e => .error e

/-- Reads a voxel in front. -/
def get (f : FrameBuffer) (x y z : Nat) : Except VoxelError UInt16 := f.shown.read x y z

/-- A coordinate moved into the cube by whole edges. -/
def wrap (n : Int16) : Nat := (n.toInt % (edge : Int)).toNat

/-- Reads a voxel in front, coordinates taken around each edge. -/
def getWrapping (f : FrameBuffer) (x y z : Int16) : UInt16 :=
  match f.get (wrap x) (wrap y) (wrap z) with
  | .ok v => v
  | .error _ => 0

def clear (f : FrameBuffer) : FrameBuffer := f.draw .dark

def fill (f : FrameBuffer) (intensity : UInt16) : Except VoxelError FrameBuffer :=
  if maxIntensity < intensity then .error .intensityOutOfRange else .ok (f.draw (.uniform intensity))

/-! ## Roles and the gate -/

def allowFlip (f : FrameBuffer) (allow : Bool) : FrameBuffer := { f with mayFlip := allow }

def exchange (f : FrameBuffer) : FrameBuffer := { f with front := f.back, back := f.front }

/-- The display takes the finished frame and closes the gate; nothing happens at a closed gate. -/
def swap (f : FrameBuffer) : Bool × FrameBuffer :=
  if f.mayFlip then (true, f.exchange.allowFlip false) else (false, f)

/-- Puts the back role on the arena that is not in front. -/
def restoreRoles (f : FrameBuffer) : FrameBuffer := { f with back := f.front.other }

/-- Shows the first frame of an effect; one that draws in place keeps both roles there. -/
def commitInitialFrame (f : FrameBuffer) (policy : FlipPolicy) : FrameBuffer :=
  match policy with
  | .flip => f.exchange
  | .noFlip => { f.exchange with back := f.back }

end FrameBuffer

end VoxelCube.Display
