/-
The seventeen bytes in front of every message: where it comes from, what it is about and which
command it carries. A packet is a header and the body after it. `ofBytes?_encode` reads a written
header back, whatever body follows.
-/
import VoxelCube.Cursor

namespace VoxelCube

structure Header where
  channel : UInt8
  address : UInt64
  endpoint : UInt8
  profile : UInt16
  cluster : UInt16
  flags : UInt8
  transaction : UInt8
  command : UInt8
  deriving DecidableEq, Repr

namespace Header

/-- The channel on which a device listens and answers. -/
def deviceChannel : UInt8 := 1

/-- The message is in a manufacturer's own command set. -/
def isManufacturerSpecific (h : Header) : Bool := h.flags &&& 0x01 != 0

/-- The sender wants no default reply. -/
def disablesDefaultReply (h : Header) : Bool := h.flags &&& 0x10 != 0

/-- The header of the reply to a message: it keeps endpoint, profile, cluster and transaction. -/
def reply (h : Header) (address : UInt64) (command : UInt8) : Header :=
  { h with channel := deviceChannel, address, flags := 0, command }

/-- The bytes of a header, numbers least significant byte first. -/
def encode (h : Header) : List UInt8 :=
  [h.channel] ++ Word.toBytes 8 h.address.toNat ++ [h.endpoint] ++ Word.toBytes 2 h.profile.toNat ++
    Word.toBytes 2 h.cluster.toNat ++ [h.flags, h.transaction, h.command]

def read? (c : Cursor) : Option (Header × Cursor) := do
  let (channel, c) ← c.u8?
  let (address, c) ← c.u64?
  let (endpoint, c) ← c.u8?
  let (profile, c) ← c.u16?
  let (cluster, c) ← c.u16?
  let (flags, c) ← c.u8?
  let (transaction, c) ← c.u8?
  let (command, c) ← c.u8?
  return ({ channel, address, endpoint, profile, cluster, flags, transaction, command }, c)

@[simp] theorem length_encode (h : Header) : h.encode.length = 17 := by
  simp [encode]

end Header

structure Packet where
  header : Header
  body : List UInt8
  deriving DecidableEq, Repr

namespace Packet

/-- The message in a run of bytes; `none` when they are fewer than a header takes. -/
def ofBytes? (bytes : List UInt8) : Option Packet := do
  let (header, c) ← Header.read? { rest := bytes }
  return { header, body := c.rest }

theorem ofBytes?_encode (h : Header) (body : List UInt8) :
    ofBytes? (h.encode ++ body) = some { header := h, body } := by
  simp [ofBytes?, Header.read?, Header.encode, Cursor.u8?_cons, Cursor.u16?, Cursor.u64?,
    Cursor.number?_toBytes, Word.limit]

end Packet

end VoxelCube
