/-
The board on which a cube runs: what the controller asks of the hardware, as functions on a world
`ω` that holds whatever the hardware and its surroundings remember. Nothing is assumed of a board
here; a store that forgets, a line that drops bytes and a clock that nobody set are boards too.
-/
import VoxelCube.Store.Key

namespace VoxelCube

/-- Why the store could not be read or written. -/
inductive Store.Error where
  | storage
  | notFound
  /-- The record is longer than it may be. -/
  | bufferTooSmall
  /-- The record is damaged. -/
  | corrupted
  | full
  deriving DecidableEq, Repr

/-- The hardware of a cube, seen from the controller. -/
structure Board (ω : Type) where
  /-- Reads a record of at most `room` bytes. -/
  read : (key : Store.Key) → (room : Nat) → ω → Except Store.Error (List UInt8) × ω
  write : (key : Store.Key) → (record : List UInt8) → ω → Except Store.Error Unit × ω
  /-- The seconds since the start of the year 1970. -/
  now : ω → UInt32
  /-- The offset of the local time in seconds. -/
  zone : ω → Int32
  setTime : UInt32 → ω → ω
  setZone : Int32 → ω → ω
  powerUp : ω → ω
  powerDown : ω → ω
  /-- Waits for something to happen, with little power. -/
  wait : ω → ω
  /-- Takes the next byte from the serial line; none when none came or the line failed. -/
  receive : ω → Option UInt8 × ω
  hasPending : ω → Bool
  /-- Sends a byte and says whether it went out. -/
  send : UInt8 → ω → Bool × ω
  /-- Waits until all bytes are out and says whether they are. -/
  flush : ω → Bool × ω
  /-- Lets pass the time until the counter is read. -/
  elapse : ω → ω
  /-- The ticks since the last reset; the counter stops at its largest value. -/
  ticks : ω → UInt16
  resetTicks : ω → ω

namespace Board

variable {ω : Type} (b : Board ω)

/-- Sends a byte, whether it goes out or not. -/
def put (byte : UInt8) (w : ω) : ω := (b.send byte w).2

def puts (bytes : List UInt8) (w : ω) : ω := bytes.foldl (fun w byte => b.put byte w) w

/-- Waits until all bytes are out, whether they get out or not. -/
def drain (w : ω) : ω := (b.flush w).2

/-- Reads the counter, which runs on its own: nothing holds it between a reset and a reading, or between
two readings. -/
def readTicks (w : ω) : UInt16 × ω := (b.ticks (b.elapse w), b.elapse w)

/-- There is a record, of whatever length. -/
def holds (key : Store.Key) (w : ω) : Bool × ω :=
  match b.read key 0 w with
  | (.error .notFound, w) => (false, w)
  | (_, w) => (true, w)

end Board

end VoxelCube
