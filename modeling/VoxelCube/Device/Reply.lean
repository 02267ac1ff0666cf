/-
The replies of a device. A reply is made by the same code in both passes, item by item: the counting
pass changes neither the device nor the world, the applying pass carries accepted writes out as it
goes and sends the reply's bytes in between.
-/
import VoxelCube.Device.Attribute
import VoxelCube.Message.Request

namespace VoxelCube

structure Exchange (ω : Type) where
  machine : Machine ω
  writer : Writer

inductive Reply where
  | read
  | write
  /-- Nothing but a status of the command. -/
  | default (command : UInt8) (status : Status)
  deriving DecidableEq, Repr

namespace Exchange

variable {ω : Type}

def write (sink : Sink ω) (field : Field) (x : Exchange ω) : Exchange ω :=
  let (writer, world) := Writer.write sink field (x.writer, x.machine.world)
  { machine := { x.machine with world }, writer }

def writeStatus (sink : Sink ω) (id : UInt16) (status : Status) (x : Exchange ω) : Exchange ω :=
  (x.write sink (.u16 id)).write sink (.u8 status.code)

end Exchange

namespace Attribute

/-- The attribute that a record of this type may write, or why there is none. -/
def writable? (cluster id : UInt16) (type : DataType) : Except Status Attribute :=
  match find? cluster id with
  | none => .error .unsupportedAttribute
  | some a =>
    if a.row.access.isWritable then
      if a.row.type = type then .ok a else .error .invalidDataType
    else .error .readOnly

end Attribute

namespace Cube

variable {ω : Type} (c : Cube ω) (sink : Sink ω)

/-! ## Read replies -/

def answerRead (cluster : UInt16) (x : Exchange ω) (id : UInt16) : Exchange ω :=
  let x := x.write sink (.u16 id)
  match Attribute.find? cluster id with
  | none => x.write sink (.u8 Status.unsupportedAttribute.code)
  | some a =>
    let (result, world) := c.readAttribute a a.row.access x.writer.pass x.machine
    let x := { x with machine := { x.machine with world } }
    match result with
    | .ok value =>
      ((x.write sink (.u8 Status.success.code)).write sink (.u8 value.type.tag)).write sink
        (.value value)
    | .error status => x.write sink (.u8 status.code)

def replyRead (packet : Packet) (x : Exchange ω) : Exchange ω :=
  let header := packet.header.reply x.machine.device.address Command.readAttributesResponse.code
  (readIds packet.body).foldl (c.answerRead sink packet.header.cluster)
    (x.write sink (.header header))

/-! ## Write replies -/

/-- What a complete record of a write asks for, or why it is refused. -/
def judge (cluster : UInt16) (record : WriteRecord) : Except Status Change :=
  match Attribute.writable? cluster record.id record.value.type with
  | .ok a => c.change? a a.row.access record.value
  | .error status => .error status

/-- Carries one record of a write out, or answers why not; also tells whether it was accepted. -/
def answerWrite (cluster : UInt16) (x : Exchange ω) (record : WriteRecord) : Exchange ω × Bool :=
  match c.judge cluster record, x.writer.pass with
  | .ok _, .count => (x, true)
  | .ok change, .apply => ({ x with machine := c.carryOut change x.machine }, true)
  | .error status, _ => (x.writeStatus sink record.id status, false)

/-- Answers the end of a write's body. A record cut inside its value is only answered when its
number or type alone refuse it. -/
def answerEnding (cluster : UInt16) (ending : WriteEnding) (x : Exchange ω) : Exchange ω × Bool :=
  match ending with
  | .complete => (x, true)
  | .ragged => (x, false)
  | .unknownType id => (x.writeStatus sink id .invalidDataType, false)
  | .cutValue id type =>
    match Attribute.writable? cluster id type with
    | .ok _ => (x, false)
    | .error status => (x.writeStatus sink id status, false)

/-- Answers a write: the statuses of what was refused, or one success when nothing was. -/
def replyWrite (packet : Packet) (x : Exchange ω) : Exchange ω :=
  let header := packet.header.reply x.machine.device.address Command.writeAttributesResponse.code
  let cluster := packet.header.cluster
  let (records, ending) := writeRecords packet.body
  let (x, accepted) := records.foldl
    (fun (x, accepted) record =>
      let (x, ok) := c.answerWrite sink cluster x record
      (x, accepted && ok))
    (x.write sink (.header header), true)
  let (x, complete) := answerEnding sink cluster ending x
  if accepted && complete then x.write sink (.u8 Status.success.code) else x

/-! ## Replies -/

def runReply (packet : Packet) (reply : Reply) (x : Exchange ω) : Exchange ω :=
  match reply with
  | .read => c.replyRead sink packet x
  | .write => c.replyWrite sink packet x
  | .default command status =>
    let header := packet.header.reply x.machine.device.address Command.defaultResponse.code
    ((x.write sink (.header header)).write sink (.u8 command)).write sink (.u8 status.code)

/-- Counts a reply: its length, and the machine after the counting pass. -/
def countReply (packet : Packet) (reply : Reply) (s : Machine ω) : Nat × Machine ω :=
  let x := c.runReply sink packet reply { machine := s, writer := .new .count c.config.crc }
  (x.writer.length, x.machine)

/-- Sends a reply whose length was counted, and carries it out. -/
def applyReply (packet : Packet) (reply : Reply) (length : UInt16) (s : Machine ω) :
    Nat × Machine ω :=
  let (writer, world) := Writer.begin sink length (.new .apply c.config.crc, s.world)
  let x := c.runReply sink packet reply { machine := { s with world }, writer }
  let (length, world) := Writer.finish sink (x.writer, x.machine.world)
  (length, { x.machine with world })

/-- The longest payload that a frame can announce. -/
def maxReply : Nat := 65535

/-- Makes a reply in two passes and returns its length. One that no frame can announce is replaced
by a failure before anything is carried out. -/
def respond (packet : Packet) (reply : Reply) (s : Machine ω) : Nat × Machine ω :=
  let (length, s) := c.countReply sink packet reply s
  if length ≤ maxReply then c.applyReply sink packet reply (UInt16.ofNat length) s
  else
    let failure := Reply.default packet.header.command .failure
    let (length, s) := c.countReply sink packet failure s
    c.applyReply sink packet failure (UInt16.ofNat length) s

end Cube

end VoxelCube
