/-
Effects that follow a script, for trying a cube out. A script is a list of instructions to the frame
buffer; running it gives one answer for each, and a scripted effect leaves them in its note.
-/
import VoxelCube.Bench.Memory
import VoxelCube.Bench.Recorded
import VoxelCube.Effect

namespace VoxelCube.Bench

open Display

/-! ## Commands to the frame buffer -/

inductive FrameCommand where
  | set (x y z : Nat) (intensity : UInt16)
  | get (x y z : Nat)
  | getWrapping (x y z : Int16)
  | clear
  | fill (intensity : UInt16)
  | allowFlip (allow : Bool)
  | swap
  | restoreRoles
  | commit (policy : FlipPolicy)
  | shown

inductive Answer where
  | done
  | wrote (result : Except VoxelError Unit)
  | read (result : Except VoxelError UInt16)
  | intensity (n : UInt16)
  | flag (b : Bool)
  | bytes (bytes : List UInt8)

/-- The answer to a write, with the frame buffer as it is after it. -/
def written (f : FrameBuffer) : Except VoxelError FrameBuffer → Answer × FrameBuffer
  | .ok f => (.wrote (.ok ()), f)
  | .error e => (.wrote (.error e), f)

def FrameCommand.run (f : FrameBuffer) : FrameCommand → Answer × FrameBuffer
  | set x y z intensity => written f (f.set x y z intensity)
  | get x y z => (.read (f.get x y z), f)
  | getWrapping x y z => (.intensity (f.getWrapping x y z), f)
  | clear => (.done, f.clear)
  | fill intensity => written f (f.fill intensity)
  | allowFlip allow => (.done, f.allowFlip allow)
  | swap =>
    let (taken, f) := f.swap
    (.flag taken, f)
  | restoreRoles => (.done, f.restoreRoles)
  | commit policy => (.done, f.commitInitialFrame policy)
  | shown => (.bytes f.shown.bytes.toList, f)

/-! ## Scripts -/

inductive Instruction where
  | command (c : FrameCommand)
  /-- Sets a voxel to the ticks of the scene. -/
  | ticks (x y z : Nat)
  /-- Sets a voxel to the number of runs so far. -/
  | count (x y z : Nat)
  /-- Sets a voxel in the back to the one in front and some more. -/
  | add (x y z : Nat) (more : Nat)
  | pause

/-- A number cut to an intensity. -/
def asIntensity (n : Nat) : UInt16 := UInt16.ofNat (n % 4096)

/-- Carries an instruction out in the `count`-th run. -/
def Instruction.run (scene : Scene) (count : Nat) (f : FrameBuffer) :
    Instruction → Answer × FrameBuffer
  | command c => c.run f
  | ticks x y z => written f (f.set x y z (asIntensity scene.ticks.toNat))
  | .count x y z => written f (f.set x y z (asIntensity count))
  | add x y z more =>
    match f.get x y z with
    | .ok n => written f (f.set x y z (asIntensity (n.toNat + more)))
    | .error e => (.read (.error e), f)
  | pause => (.done, f)

def runScript (scene : Scene) (count : Nat) :
    List Instruction → FrameBuffer → List Answer × FrameBuffer
  | [], f => ([], f)
  | i :: rest, f =>
    let (answer, f) := i.run scene count f
    let (answers, f) := runScript scene count rest f
    (answer :: answers, f)

/-! ## Scripted effects -/

/-- What a scripted effect notes of a run. -/
structure Report where
  phase : Effect.Phase
  effect : Nat
  scene : Scene
  answers : List Answer

/-- The world of scripted effects. -/
abbrev World := Recorded Memory Report

/-- Counts one more run of an effect. -/
def countRun (phase : Effect.Phase) (effect : Nat) (m : Memory) : Nat × Memory :=
  match phase with
  | .init =>
    let count := m.begun[effect]?.getD 0 + 1
    (count, { m with begun := m.begun.setIfInBounds effect count })
  | .draw =>
    let count := m.drawn[effect]?.getD 0 + 1
    (count, { m with drawn := m.drawn.setIfInBounds effect count })

/-- Runs a script of the effect with this number. -/
def perform (phase : Effect.Phase) (effect : Nat) (script : List Instruction) (scene : Scene)
    (s : FrameBuffer × World) : FrameBuffer × World :=
  let (f, w) := s
  let (count, world) := countRun phase effect w.world
  let (answers, f) := runScript scene count script f
  (f, Recorded.record { w with world } (.note { phase, effect, scene, answers }))

/-- The effect that follows two scripts. -/
def scripted (effect : Nat) (info : EffectInfo) (animated : Bool)
    (init draw : List Instruction) : Effect World :=
  { info with animated, init := perform .init effect init, draw := perform .draw effect draw }

end VoxelCube.Bench
