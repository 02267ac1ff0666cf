/-
The settings of a device as records of its store. A number of one byte is stored as it is, the
address as a number of seven-bit groups, the effect text byte by byte. What is read may be missing,
damaged or out of range, and every cause is told apart.
-/
import VoxelCube.Board
import VoxelCube.Device.Mode
import VoxelCube.Varint

namespace VoxelCube

namespace Store

def valueRoom : Nat := 10

def textRoom : Nat := 32

/-- Why a setting could not be read or written. -/
inductive SettingError where
  | storage (e : Store.Error)
  /-- The value is too long for a record. -/
  | serialize
  /-- The record is no value. -/
  | deserialize
  /-- The record is a value that the setting cannot have. -/
  | invalidValue
  deriving DecidableEq, Repr

/-- The number of one byte in a record. -/
def byteOf : (record : List UInt8) → Except SettingError UInt8
  | [] => .error .deserialize
  | b :: _ => .ok b

def addressOf (record : List UInt8) : Except SettingError UInt64 :=
  match Varint.decode 64 record with
  | .ok (n, _) => .ok (UInt64.ofNat n)
  | .error _ => .error .deserialize

def modeOf (code : UInt8) : Except SettingError Mode :=
  match Mode.ofCode? code with
  | some mode => .ok mode
  | none => .error .invalidValue

end Store

namespace Board

open Store

variable {ω : Type} (b : Board ω)

def loadValue (key : Key) (w : ω) : Except SettingError (List UInt8) × ω :=
  match b.read key valueRoom w with
  | (.ok record, w) => (.ok record, w)
  | (.error e, w) => (.error (.storage e), w)

def saveRecord (key : Key) (record : List UInt8) (w : ω) : Except SettingError Unit × ω :=
  match b.write key record w with
  | (.ok (), w) => (.ok (), w)
  | (.error e, w) => (.error (.storage e), w)

/-- Writes the record of a number, if it is no longer than such a record may be. -/
def saveValue (key : Key) (record : List UInt8) (w : ω) : Except SettingError Unit × ω :=
  if record.length ≤ valueRoom then b.saveRecord key record w else (.error .serialize, w)

def loadByte (key : Key) (w : ω) : Except SettingError UInt8 × ω :=
  match b.loadValue key w with
  | (.ok record, w) => (byteOf record, w)
  | (.error e, w) => (.error e, w)

def readMode (w : ω) : Except SettingError Mode × ω :=
  match b.loadByte .operatingMode w with
  | (.ok code, w) => (modeOf code, w)
  | (.error e, w) => (.error e, w)

def storeMode (mode : Mode) : ω → Except SettingError Unit × ω :=
  b.saveValue .operatingMode [mode.code]

def readEffect : ω → Except SettingError UInt8 × ω := b.loadByte .effect

def storeEffect (effect : UInt8) : ω → Except SettingError Unit × ω := b.saveValue .effect [effect]

def readPlaylist : ω → Except SettingError UInt8 × ω := b.loadByte .playlist

def storePlaylist (playlist : UInt8) : ω → Except SettingError Unit × ω :=
  b.saveValue .playlist [playlist]

def readAddress (w : ω) : Except SettingError UInt64 × ω :=
  match b.loadValue .deviceAddress w with
  | (.ok record, w) => (addressOf record, w)
  | (.error e, w) => (.error e, w)

def storeAddress (address : UInt64) : ω → Except SettingError Unit × ω :=
  b.saveValue .deviceAddress (Varint.encode address.toNat)

/-- Reads the effect text; a missing record is an empty text. -/
def readText (w : ω) : Except SettingError (List UInt8) × ω :=
  match b.read .effectText textRoom w with
  | (.ok text, w) => (.ok text, w)
  | (.error .notFound, w) => (.ok [], w)
  | (.error e, w) => (.error (.storage e), w)

/-- Writes the effect text, cut to the longest. -/
def storeText (text : List UInt8) : ω → Except SettingError Unit × ω :=
  b.saveRecord .effectText (text.take textRoom)

end Board

end VoxelCube
