/-
The attributes of a device: what each one reads, and what writing it does. A written value is judged
first, by the attribute and the value alone; what is accepted is a change, and a change is carried
out in the applying pass only. Reading asks the store in the applying pass only.
-/
import VoxelCube.Device.Control
import VoxelCube.Message.Attribute
import VoxelCube.Message.Code
import VoxelCube.Message.Writer

namespace VoxelCube

/-- The seconds from the start of the year 1970 to the start of the year 2000. -/
def epochOffset : UInt32 := 946684800

inductive Change where
  | mode (mode : Mode)
  | alarmMask (mask : Bool)
  | text (text : List UInt8)
  | playlist (playlist : UInt8)
  | effect (effect : UInt8)
  | zone (offset : Int32)
  /-- Seconds since the start of the year 2000. -/
  | time (seconds : UInt32)
  | address (address : UInt64)
  deriving DecidableEq, Repr

namespace Cube

variable {ω : Type} (c : Cube ω)

/-! ## Reading -/

/-- The value of an attribute that no store has to be asked for. -/
def currentValue (s : Machine ω) : Attribute → Except Status Value
  | .deviceEnabled => .ok (.boolean s.device.mode.isRendering)
  | .alarmMask => .ok (.boolean s.device.alarmMask)
  | .operatingMode => .ok (.enum8 s.device.mode.code)
  | .effectText => .error .writeOnly
  | .playlist => .ok (.uint8 s.device.playlist)
  | .timezone => .ok (.int32 (c.board.zone s.world))
  | .time => .ok (.utcTime (c.board.now s.world - epochOffset))
  | .effectNames => .ok (.nameList (Effect.names c.effects))
  | .playlistNames => .ok (.longOctetString c.playlists.names)
  | .playlistEffects => .ok (.effectIds (c.playlists.entries s.device.playlist))
  | .effect => .ok (.uint8 s.device.effect)
  | .hardwareVersion => .ok (.octetString (textBytes c.config.hardware.text))
  | .softwareVersion => .ok (.octetString (textBytes c.config.software.text))
  | .deviceAddress => .ok (.ieeeAddress s.device.address)
  | .playlistPosition => .ok (.uint8 (s.device.selector.position c.playlists s.device.playlist))

/-- Reads an attribute. The kept playlist and effect come from the store in the applying pass; the
counting pass answers with the active ones, which are as wide. -/
def readAttribute (a : Attribute) (access : Access) (pass : Pass) (s : Machine ω) :
    Except Status Value × ω :=
  if access.isReadable then
    match a, pass with
    | .playlist, .apply =>
      let (playlist, world) := c.storedPlaylist s
      (.ok (.uint8 playlist), world)
    | .effect, .apply =>
      let (effect, world) := c.storedEffect s
      (.ok (.uint8 effect), world)
    | a, _ => (c.currentValue s a, s.world)
  else (.error .writeOnly, s.world)

/-! ## Writing -/

/-- The change that writing a value to an attribute asks for. -/
def change? (a : Attribute) (access : Access) (value : Value) : Except Status Change :=
  if access.isWritable then
    match a, value with
    | .deviceEnabled, .boolean enabled => .ok (.mode (if enabled then .playlist else .idle))
    | .alarmMask, .boolean mask => .ok (.alarmMask mask)
    | .operatingMode, .enum8 code =>
      match Mode.ofCode? code with
      | some mode => .ok (.mode mode)
      | none => .error .invalidValue
    | .effectText, .octetString text => .ok (.text text)
    | .playlist, .uint8 playlist =>
      if playlist.toNat < c.playlists.count then .ok (.playlist playlist) else .error .invalidValue
    | .effect, .uint8 effect =>
      if effect.toNat < c.effects.length then .ok (.effect effect) else .error .invalidValue
    | .timezone, .int32 offset => .ok (.zone offset)
    | .time, .utcTime seconds => .ok (.time seconds)
    | .deviceAddress, .ieeeAddress address => .ok (.address address)
    | _, _ => .error .invalidDataType
  else .error .readOnly

def carryOut (change : Change) (s : Machine ω) : Machine ω :=
  match change with
  | .mode mode => c.setMode mode s
  | .alarmMask mask => { s with device := { s.device with alarmMask := mask } }
  | .text text => c.storeText text s
  | .playlist playlist => c.storePlaylist playlist s
  | .effect effect => c.storeEffect effect s
  | .zone offset => { s with world := c.board.setZone offset s.world }
  | .time seconds => { s with world := c.board.setTime (seconds + epochOffset) s.world }
  | .address address => c.storeAddress address s

/-- Writes an attribute; the counting pass only judges the value. -/
def writeAttribute (a : Attribute) (access : Access) (value : Value) (pass : Pass)
    (s : Machine ω) : Except Status (Machine ω) :=
  match c.change? a access value, pass with
  | .error status, _ => .error status
  | .ok _, .count => .ok s
  | .ok change, .apply => .ok (c.carryOut change s)

end Cube

end VoxelCube
