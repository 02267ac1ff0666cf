/-
What a device does with a message. Where a message goes is decided by its header alone; most
messages of others are ignored, a time report sets the clock, and everything else is replied to,
unless all there is to say is a default reply that the sender does not want.
-/
import VoxelCube.Device.Reply
import VoxelCube.Message.TimeReport

namespace VoxelCube

inductive Outcome where
  | ignored
  /-- It was carried out without a reply. -/
  | applied
  /-- A reply with a payload of this length was sent. -/
  | responded (length : Nat)
  deriving DecidableEq, Repr

inductive Route where
  | ignore
  | timeReport
  | reply (reply : Reply)
  deriving DecidableEq, Repr

namespace Cube

variable {ω : Type} (c : Cube ω)

/-- The message is for a device with this address. -/
def isAddressed (address : UInt64) (h : Header) : Bool :=
  h.channel == Header.deviceChannel && (h.address == address || h.address == 0) &&
    !h.isManufacturerSpecific

/-- The message reports the time to the configuration endpoint. -/
def isTimeReport (h : Header) : Bool :=
  Command.ofCode? h.command == some .reportAttributes && h.cluster == Cluster.time.code &&
    h.endpoint == c.config.configEndpoint

def replyFor (h : Header) : Reply :=
  let general := Reply.default h.command .unsupportedGeneralCommand
  if h.endpoint = c.config.endpoint then
    match Command.ofCode? h.command, Cluster.isServed h.cluster with
    | some .readAttributes, true => .read
    | some .writeAttributes, true => .write
    | some .readAttributes, false => .default h.command .unsupportedClusterCommand
    | some .writeAttributes, false => .default h.command .unsupportedClusterCommand
    | _, _ => general
  else general

/-- Where a message with this header goes, at a device with this address. -/
def route (address : UInt64) (h : Header) : Route :=
  if !isAddressed address h || h.profile != c.config.profile then .ignore
  else if Command.ofCode? h.command = some .defaultResponse then .ignore
  else if c.isTimeReport h then .timeReport
  else
    match c.replyFor h with
    | .default command status =>
      if h.disablesDefaultReply then .ignore else .reply (.default command status)
    | reply => .reply reply

/-- Sets the clock from every record of a time report. -/
def takeTimeReport (body : List UInt8) (w : ω) : ω :=
  (TimeRecord.readAll body).foldl
    (fun w record =>
      c.board.setZone record.zone (c.board.setTime (record.seconds + epochOffset) w))
    w

/-- Does what a message asks for; a reply goes to the sink as one frame. -/
def dispatch (sink : Sink ω) (payload : List UInt8) (s : Machine ω) : Outcome × Machine ω :=
  match Packet.ofBytes? payload with
  | none => (.ignored, s)
  | some packet =>
    match c.route s.device.address packet.header with
    | .ignore => (.ignored, s)
    | .timeReport => (.applied, { s with world := c.takeTimeReport packet.body s.world })
    | .reply reply =>
      let (length, s) := c.respond sink packet reply s
      (.responded length, s)

end Cube

end VoxelCube
