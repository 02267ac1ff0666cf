/-
The catalogue of attributes: in which cluster and under which number each is found, the type of its
values, and whether it can be read and written. `find?_eq_some_iff` says that the catalogue names
every attribute once.
-/
import VoxelCube.Message.DataType

namespace VoxelCube

inductive Access where
  | read
  | write
  | readWrite
  deriving DecidableEq, Repr

namespace Access

def isReadable : Access → Bool
  | read | readWrite => true
  | write => false

def isWritable : Access → Bool
  | write | readWrite => true
  | read => false

end Access

inductive Cluster where
  /-- General information on the device. -/
  | basic
  | time
  /-- The cube's own attributes. -/
  | cube
  deriving DecidableEq, Repr

namespace Cluster

def code : Cluster → UInt16
  | basic => 0x0000
  | time => 0x000A
  | cube => 0x0500

/-- The cluster's attributes can be read and written. -/
def isServed (cluster : UInt16) : Bool := cluster == basic.code || cluster == cube.code

end Cluster

inductive Attribute where
  | deviceEnabled
  | alarmMask
  | operatingMode
  | effectText
  | playlist
  | timezone
  | time
  | effectNames
  | playlistNames
  | playlistEffects
  | effect
  | hardwareVersion
  | softwareVersion
  | deviceAddress
  | playlistPosition
  deriving DecidableEq, Repr

namespace Attribute

structure Row where
  cluster : Cluster
  id : UInt16
  type : DataType
  access : Access
  deriving DecidableEq, Repr

def row : Attribute → Row
  | deviceEnabled => ⟨.basic, 0x0012, .boolean, .readWrite⟩
  | alarmMask => ⟨.basic, 0x0013, .boolean, .readWrite⟩
  | operatingMode => ⟨.cube, 0x0001, .enum8, .readWrite⟩
  | effectText => ⟨.cube, 0x0002, .octetString, .write⟩
  | playlist => ⟨.cube, 0x0003, .uint8, .readWrite⟩
  | timezone => ⟨.cube, 0x0004, .int32, .readWrite⟩
  | time => ⟨.cube, 0x0005, .utcTime, .readWrite⟩
  | effectNames => ⟨.cube, 0x0006, .longOctetString, .read⟩
  | playlistNames => ⟨.cube, 0x0007, .longOctetString, .read⟩
  | playlistEffects => ⟨.cube, 0x0008, .octetString, .read⟩
  | effect => ⟨.cube, 0x0009, .uint8, .readWrite⟩
  | hardwareVersion => ⟨.cube, 0x0010, .octetString, .read⟩
  | softwareVersion => ⟨.cube, 0x0011, .octetString, .read⟩
  | deviceAddress => ⟨.cube, 0x0012, .ieeeAddress, .readWrite⟩
  | playlistPosition => ⟨.cube, 0x0013, .uint8, .read⟩

def all : List Attribute :=
  [deviceEnabled, alarmMask, operatingMode, effectText, playlist, timezone, time, effectNames,
    playlistNames, playlistEffects, effect, hardwareVersion, softwareVersion, deviceAddress,
    playlistPosition]

/-- The attribute found in a cluster under a number. -/
def find? (cluster id : UInt16) : Option Attribute :=
  all.find? fun a => a.row.cluster.code == cluster && a.row.id == id

theorem find?_row (a : Attribute) : find? a.row.cluster.code a.row.id = some a := by
  cases a <;> decide

theorem find?_eq_some_iff {cluster id : UInt16} {a : Attribute} :
    find? cluster id = some a ↔ a.row.cluster.code = cluster ∧ a.row.id = id := by
  constructor
  · intro h
    simpa using List.find?_some h
  · rintro ⟨rfl, rfl⟩
    exact find?_row a

end Attribute

end VoxelCube
