/-
The main loop of a cube. One turn takes what the serial line brought, takes changed settings over,
and then lets the running effect begin or draw. An effect draws when the display took its last frame
and its interval passed; an entry of a playlist gives way to the next one when its duration passed.
-/
import VoxelCube.Device.Dispatch
import VoxelCube.Link.Identity
import VoxelCube.Link.Receiver

namespace VoxelCube

open Display Link

structure MainLoop (ω : Type) extends Machine ω where
  receiver : Receiver := .ready
  frame : FrameBuffer := {}
  /-- The earliest tick of the next frame. -/
  nextDraw : UInt16 := 0

/-- What a turn did with the effect. -/
inductive Turn where
  | idle
  /-- The last frame was not shown yet. -/
  | framePending
  /-- The interval since the last frame has not passed. -/
  | throttled
  | drew
  /-- The effect has only its first frame. -/
  | still
  deriving DecidableEq, Repr

namespace Cube

variable {ω : Type} (c : Cube ω)

def mainLoop (world : ω) : MainLoop ω := { c.machine world with }

/-! ## The serial line -/

def serialBudget : Nat := 64

/-- Does what an event asks for: a frame is acknowledged before it is dispatched. -/
def takeEvent (event : Event) (l : MainLoop ω) : MainLoop ω :=
  match event with
  | .frame payload =>
    let world := c.board.put ackOctet l.world
    let (_, s) := c.dispatch c.board.put payload { l.toMachine with world }
    { l with toMachine := { s with world := c.board.drain s.world } }
  | .ack | .nak => l
  | .probe =>
    let answer := identity (textBytes c.config.identity.text) l.device.address
    { l with world := c.board.drain (c.board.puts answer l.world) }

/-- Answers a fault, and resets the receiver where it needs it. -/
def takeFault (fault : Fault) (l : MainLoop ω) : MainLoop ω :=
  { l with world := c.board.put fault.reply l.world,
           receiver := if fault.needsReset then .ready else l.receiver }

def takeByte (byte : UInt8) (l : MainLoop ω) : MainLoop ω :=
  let (receiver, report) := l.receiver.feed c.config.crc byte
  let l := { l with receiver }
  match report with
  | none => l
  | some (.ok event) => c.takeEvent event l
  | some (.error fault) => c.takeFault fault l

/-- Takes up to `budget` bytes from the line. -/
def takeBytes : (budget : Nat) → MainLoop ω → MainLoop ω
  | 0, l => l
  | budget + 1, l =>
    match c.board.receive l.world with
    | (some byte, world) => takeBytes budget (c.takeByte byte { l with world })
    | (none, world) => { l with world }

/-- Takes what the line brought, as much as one turn may. -/
def processSerial (l : MainLoop ω) : MainLoop ω := c.takeBytes serialBudget l

/-! ## The running effect -/

def scene (ticks : UInt16) (d : Device) : Scene :=
  { ticks, data := d.selector.data, text := d.text }

/-- Begins the running effect: its first frame is shown, the ticks start over and the next frame may
follow at once. -/
def initEffect (l : MainLoop ω) : MainLoop ω :=
  let frame := (l.frame.allowFlip false).restoreRoles
  let l := { l with device := { l.device with needsInit := false }, frame, nextDraw := 0 }
  match c.effect? l.device.effect with
  | some effect =>
    let (frame, world) := effect.init (scene 0 l.device) (l.frame, l.world)
    { l with frame := frame.commitInitialFrame effect.flip, world := c.board.resetTicks world }
  | none => { l with world := c.board.resetTicks l.world }

/-- A sum that stops at the largest value. -/
def saturatingAdd (a b : UInt16) : UInt16 := UInt16.ofNat (min (a.toNat + b.toNat) 65535)

/-- Reads the counter, which has moved on by then. -/
def readTicks (l : MainLoop ω) : UInt16 × MainLoop ω :=
  let (ticks, world) := c.board.readTicks l.world
  (ticks, { l with world })

/-- Lets the running effect draw, unless it is a still one, and notes when it may draw next. -/
def drawAt (ticks : UInt16) (l : MainLoop ω) : Turn × MainLoop ω :=
  match c.effect? l.device.effect with
  | none => (.idle, l)
  | some effect =>
    let nextDraw := saturatingAdd ticks effect.minimumTicks
    if effect.animates l.world then
      let (frame, world) := effect.draw (scene ticks l.device) (l.frame, l.world)
      (.drew, { l with frame := frame.allowFlip true, world, nextDraw })
    else (.still, { l with nextDraw })

/-- Lets the running effect draw if it may; an effect that ran until the counter stopped begins
again, because no later tick can be told from that one. -/
def render (l : MainLoop ω) : Turn × MainLoop ω :=
  if l.frame.mayFlip then (.framePending, l)
  else
    let (ticks, l) := c.readTicks l
    if ticks < l.nextDraw then (.throttled, l)
    else if ticks = 65535 then
      let (ticks, l) := c.readTicks (c.initEffect l)
      c.drawAt ticks l
    else c.drawAt ticks l

/-! ## Turns -/

/-- Waits for something to happen, unless there is a byte to take. -/
def rest (l : MainLoop ω) : MainLoop ω :=
  if c.board.hasPending l.world then l else { l with world := c.board.wait l.world }

/-- Moves the playlist on when the playing entry's duration passed. -/
def expireEntry (l : MainLoop ω) : MainLoop ω :=
  let (ticks, l) := c.readTicks l
  if l.device.selector.duration < ticks then
    c.initEffect { l with toMachine := c.advancePlaylist l.toMachine }
  else l

/-- One turn of the main loop. -/
def step (l : MainLoop ω) : Turn × MainLoop ω :=
  let l := c.processSerial l
  let l := { l with toMachine := c.sync l.toMachine }
  let mode := l.device.mode
  let l := if l.device.needsInit && mode.isRendering then c.initEffect l else l
  match mode with
  | .sleep | .idle => (.idle, c.rest l)
  | .playlist => c.render (c.expireEntry l)
  | .effect => c.render l

end Cube

end VoxelCube
