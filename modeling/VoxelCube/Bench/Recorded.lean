/-
Recording what is asked of a board. A recorded board does what its board does and keeps every call
with its answer; effects may leave notes of their own between the calls. What the board itself
remembers is not changed by recording.
-/
import VoxelCube.Board

namespace VoxelCube

inductive Call (ν : Type) where
  | read (key : Store.Key) (answer : Except Store.Error (List UInt8))
  | write (key : Store.Key) (record : List UInt8) (answer : Except Store.Error Unit)
  | setTime (seconds : UInt32)
  | setZone (offset : Int32)
  | powerUp
  | powerDown
  | wait
  | send (byte : UInt8) (sent : Bool)
  | flush (drained : Bool)
  | resetTicks
  | note (n : ν)

structure Recorded (ω ν : Type) where
  world : ω
  /-- The calls, the latest first. -/
  latest : List (Call ν) := []

namespace Recorded

variable {ω ν : Type}

/-- The calls in the order in which they were made. -/
def calls (w : Recorded ω ν) : List (Call ν) := w.latest.reverse

def record (w : Recorded ω ν) (call : Call ν) : Recorded ω ν :=
  { w with latest := call :: w.latest }

def forget (w : Recorded ω ν) : Recorded ω ν := { w with latest := [] }

theorem calls_record (w : Recorded ω ν) (call : Call ν) :
    (w.record call).calls = w.calls ++ [call] := by
  simp [calls, record]

end Recorded

namespace Board

variable {ω ν : Type} (b : Board ω)

/-- A board that keeps every call made on it. Reading the clock, the ticks and the line is no call. -/
def recorded : Board (Recorded ω ν) where
  read key room w :=
    let (answer, world) := b.read key room w.world
    (answer, Recorded.record { w with world } (.read key answer))
  write key record w :=
    let (answer, world) := b.write key record w.world
    (answer, Recorded.record { w with world } (.write key record answer))
  now w := b.now w.world
  zone w := b.zone w.world
  setTime seconds w := Recorded.record { w with world := b.setTime seconds w.world } (.setTime seconds)
  setZone offset w := Recorded.record { w with world := b.setZone offset w.world } (.setZone offset)
  powerUp w := Recorded.record { w with world := b.powerUp w.world } .powerUp
  powerDown w := Recorded.record { w with world := b.powerDown w.world } .powerDown
  wait w := Recorded.record { w with world := b.wait w.world } .wait
  receive w :=
    let (byte, world) := b.receive w.world
    (byte, { w with world })
  hasPending w := b.hasPending w.world
  send byte w :=
    let (sent, world) := b.send byte w.world
    (sent, Recorded.record { w with world } (.send byte sent))
  flush w :=
    let (drained, world) := b.flush w.world
    (drained, Recorded.record { w with world } (.flush drained))
  elapse w := { w with world := b.elapse w.world }
  ticks w := b.ticks w.world
  resetTicks w := Recorded.record { w with world := b.resetTicks w.world } .resetTicks

end Board

end VoxelCube
