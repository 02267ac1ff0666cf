/-
The visual effects of a cube. An effect is told the ticks since it began, the playing entry's data
and the effect text, and acts on the frame buffer; whatever it remembers is in the world. Its place
in the cube's list is its number.
-/
import VoxelCube.Display.FrameBuffer

namespace VoxelCube

open Display

/-- What an effect is told when it runs. -/
structure Scene where
  /-- The ticks since the effect began. -/
  ticks : UInt16
  data : Option (List UInt8)
  text : List UInt8
  deriving DecidableEq, Repr

/-- What is known of an effect before it runs. -/
structure EffectInfo where
  name : String
  flip : FlipPolicy
  /-- The fewest ticks between two frames. -/
  minimumTicks : UInt16
  /-- The effect starts over when the effect text changes. -/
  dynamicText : Bool := false
  deriving DecidableEq, Repr

structure Effect (ω : Type) extends EffectInfo where
  /-- The effect draws frames after its first one, if it says nothing else when it is asked. -/
  animated : Bool := true
  /-- What it says: it is asked before every frame, and may answer by what it remembers. -/
  animates : ω → Bool := fun _ => animated
  /-- Makes ready, and paints the first frame if there is one. -/
  init : Scene → FrameBuffer × ω → FrameBuffer × ω := fun _ s => s
  /-- Paints one more frame. -/
  draw : Scene → FrameBuffer × ω → FrameBuffer × ω := fun _ s => s

namespace Effect

/-- What an effect is asked to do. -/
inductive Phase where
  | init
  | draw
  deriving DecidableEq, Repr

variable {ω : Type}

/-- The name of the effect with a number; empty for a number that none has. -/
def nameAt (effects : List (Effect ω)) (n : Nat) : String := (effects[n]?.map (·.name)).getD ""

def names (effects : List (Effect ω)) : List String := effects.map (·.name)

end Effect

end VoxelCube
