/-
What is fixed about a device when it is built: how it is addressed and what it says of itself.
-/
import VoxelCube.Config.Label
import VoxelCube.Crc

namespace VoxelCube

def identityRoom : Nat := 32

def versionRoom : Nat := 16

structure Config where
  /-- The profile of the messages it takes. -/
  profile : UInt16 := 1024
  /-- The endpoint at which attributes are read and written. -/
  endpoint : UInt8 := 70
  /-- The endpoint at which time reports arrive. -/
  configEndpoint : UInt8 := 1
  /-- The checksum of frames in both directions. -/
  crc : Crc.Variant := .xmodem
  /-- The text in front of the address in an answer to an identity probe. -/
  identity : Label identityRoom := .ofText _ "C2IS,elovalo,v1.5,"
  hardware : Label versionRoom := .ofText _ "EV-1-C2"
  software : Label versionRoom := .ofText _ "0.2012.11.15"
  /-- The address of a device that was given none. -/
  factoryAddress : UInt64 := 0x0123456789ABCDEF
  deriving DecidableEq

end VoxelCube
