/-
The receiving end of the serial link. A receiver takes one octet at a time and reports frames, the
peer's acknowledgements and the identity probe. The start octet begins a frame wherever it comes,
except after a fault that needs a reset.
-/
import VoxelCube.Link.Frame

namespace VoxelCube.Link

/-! ## Two-byte numbers -/

/-- A reader of a two-byte number, low byte first: the low byte read so far and the pair after it. -/
structure WordReader where
  low : Option UInt8 := none
  pair : Hex.PairReader := {}
  deriving DecidableEq, Repr

namespace WordReader

/-- What one more character makes of the number in progress. -/
inductive Fed where
  | held
  | word (n : UInt16)
  | invalid
  deriving DecidableEq, Repr

def feed (r : WordReader) (c : UInt8) : WordReader × Fed :=
  match r.pair.feed c with
  | (pair, .held) => ({ r with pair }, .held)
  | (_, .invalid) => ({}, .invalid)
  | (pair, .byte b) =>
    match r.low with
    | none => ({ low := some b, pair }, .held)
    | some low => ({}, .word (UInt16.ofNat (Word.ofBytes [low, b])))

end WordReader

/-! ## Reports -/

inductive Event where
  /-- A frame with a good checksum. -/
  | frame (payload : List UInt8)
  /-- The peer took a frame. -/
  | ack
  /-- The peer found a frame damaged. -/
  | nak
  /-- The peer asks who is there. -/
  | probe
  deriving DecidableEq, Repr

inductive Fault where
  /-- More payload than a frame may have. -/
  | overflow
  /-- A character that is no digit where one must be. -/
  | invalidDigit
  /-- Something other than the opening after the start. -/
  | notAPacket
  | badChecksum
  deriving DecidableEq, Repr

namespace Fault

/-- The octet with which a fault is answered. -/
def reply : Fault → UInt8
  | overflow | invalidDigit => ackOctet
  | notAPacket | badChecksum => nakOctet

/-- The receiver takes nothing more until it is reset. -/
def needsReset : Fault → Bool
  | overflow | invalidDigit => true
  | notAPacket | badChecksum => false

end Fault

/-! ## The receiver -/

/-- The letters of the identity probe. -/
def probeLetters : Vector UInt8 3 := #v['A'.toUInt8, 'T'.toUInt8, 'I'.toUInt8]

/-- The payload of a frame in progress. -/
structure Partial where
  /-- How many bytes the frame announced. -/
  declared : UInt16
  bytes : List UInt8 := []
  deriving DecidableEq, Repr

inductive Receiver where
  /-- Between frames, with the first letters of the probe read. -/
  | idle (matched : Fin 3)
  | opening
  /-- In the payload's length. -/
  | length (digits : WordReader)
  | payload (part : Partial) (pair : Hex.PairReader)
  | checksum (part : Partial) (digits : WordReader)
  /-- After a fault that needs a reset. -/
  | stuck
  deriving DecidableEq, Repr

namespace Receiver

/-- A receiver at the start, and after a reset. -/
def ready : Receiver := .idle 0

def isStuck : Receiver → Bool
  | stuck => true
  | _ => false

def isInFrame : Receiver → Bool
  | idle _ | stuck => false
  | _ => true

/-- Reads an octet between frames. -/
def feedIdle (matched : Fin 3) (c : UInt8) : Receiver × Option Event :=
  if c = ackOctet then (ready, some .ack)
  else if c = nakOctet then (ready, some .nak)
  else if c = probeLetters[matched] then
    if more : matched.val + 1 < 3 then (idle ⟨matched.val + 1, more⟩, none)
    else (ready, some .probe)
  else (idle (if c = probeLetters[0] then 1 else 0), none)

def takePayload (part : Partial) (b : UInt8) : Receiver × Option Fault :=
  if capacity ≤ part.bytes.length then (stuck, some .overflow)
  else
    let part := { part with bytes := part.bytes ++ [b] }
    if part.bytes.length = part.declared.toNat then (checksum part {}, none)
    else (payload part {}, none)

/-- What the checksum says of a frame. -/
def judge (variant : Crc.Variant) (payload : List UInt8) (received : UInt16) : Except Fault Event :=
  if received = Crc.checksum variant payload then .ok (.frame payload) else .error .badChecksum

/-- Reads one octet other than the start octet. -/
def feedInside (variant : Crc.Variant) (r : Receiver) (c : UInt8) :
    Receiver × Option (Except Fault Event) :=
  match r with
  | idle matched =>
    let (r, event) := feedIdle matched c
    (r, event.map .ok)
  | opening => if c = openOctet then (length {}, none) else (ready, some (.error .notAPacket))
  | length digits =>
    match digits.feed c with
    | (_, .invalid) => (stuck, some (.error .invalidDigit))
    | (digits, .held) => (length digits, none)
    | (_, .word n) => (if n = 0 then checksum { declared := n } {} else payload { declared := n } {}, none)
  | payload part pair =>
    match pair.feed c with
    | (_, .invalid) => (stuck, some (.error .invalidDigit))
    | (pair, .held) => (payload part pair, none)
    | (_, .byte b) =>
      let (r, fault) := takePayload part b
      (r, fault.map .error)
  | checksum part digits =>
    match digits.feed c with
    | (_, .invalid) => (stuck, some (.error .invalidDigit))
    | (digits, .held) => (checksum part digits, none)
    | (_, .word n) => (ready, some (judge variant part.bytes n))
  | stuck => (stuck, none)

def feed (variant : Crc.Variant) (r : Receiver) (c : UInt8) :
    Receiver × Option (Except Fault Event) :=
  if c = startOctet ∧ r.isStuck = false then (opening, none) else feedInside variant r c

/-- Reads octets up to the first report; those after it are lost. -/
def feedUntil (variant : Crc.Variant) (r : Receiver) :
    List UInt8 → Receiver × Option (Except Fault Event)
  | [] => (r, none)
  | c :: rest =>
    match feed variant r c with
    | (r, none) => feedUntil variant r rest
    | (r, some report) => (r, some report)

end Receiver

end VoxelCube.Link
