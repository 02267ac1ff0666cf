/-
Frames, the unit of the serial link: an opening, the payload's length, the payload and its checksum,
all in hexadecimal. A frame that a device takes in holds at most `capacity` payload bytes; one that
it sends may be longer.
-/
import VoxelCube.Crc
import VoxelCube.Hex
import VoxelCube.Word

namespace VoxelCube.Link

/-- Starts a frame, and drops one in progress. -/
def startOctet : UInt8 := 'S'.toUInt8

/-- Follows the start of a frame. -/
def openOctet : UInt8 := '0'.toUInt8

/-- Says that a frame was taken. -/
def ackOctet : UInt8 := 'K'.toUInt8

/-- Says that a frame was damaged. -/
def nakOctet : UInt8 := 'N'.toUInt8

/-- The most payload bytes in a frame that a device takes in. -/
def capacity : Nat := 32

/-- A payload on the wire. -/
def wire (variant : Crc.Variant) (payload : List UInt8) : List UInt8 :=
  [startOctet, openOctet] ++ Hex.encode (Word.toBytes 2 payload.length) ++ Hex.encode payload ++
    Hex.encode (Word.toBytes 2 (Crc.checksum variant payload).toNat)

structure Frame where
  payload : List UInt8
  fits : payload.length ≤ capacity
  deriving DecidableEq

namespace Frame

/-- The frame of a payload; `none` when it does not fit. -/
def ofPayload? (payload : List UInt8) : Option Frame :=
  if fits : payload.length ≤ capacity then some { payload, fits } else none

def encode (variant : Crc.Variant) (frame : Frame) : List UInt8 := wire variant frame.payload

end Frame

end VoxelCube.Link
