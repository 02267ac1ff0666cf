/-
The body of a time report: records of one octet string each, which holds the time and the offset of
the local time. Records are read from the front as far as they are well formed.
-/
import VoxelCube.Cursor
import VoxelCube.Message.DataType

namespace VoxelCube

structure TimeRecord where
  /-- Seconds since the start of the year 2000. -/
  seconds : UInt32
  zone : Int32
  deriving DecidableEq, Repr

namespace TimeRecord

/-- The number, tag and count that begin every record. -/
def lead : List UInt8 := [0x03, 0x04, DataType.octetString.tag, 8]

def width : Nat := 12

def read? (body : List UInt8) : Option (TimeRecord × List UInt8) :=
  match split? width body with
  | some (front, rest) =>
    if front.take 4 = lead then
      let seconds := UInt32.ofNat (Word.ofBytes ((front.drop 4).take 4))
      let zone := UInt32.ofNat (Word.ofBytes (front.drop 8))
      some ({ seconds, zone := zone.toInt32 }, rest)
    else none
  | none => none

theorem length_read? {body rest : List UInt8} {record : TimeRecord}
    (h : read? body = some (record, rest)) : rest.length + width = body.length := by
  simp only [read?, split?_eq] at h
  split at h
  · next taken =>
    split at taken
    · cases taken
      split at h
      · simp only [Option.some.injEq, Prod.mk.injEq] at h
        obtain ⟨-, rfl⟩ := h
        simp
        omega
      · cases h
    · cases taken
  · cases h

/-- The records at the front of a time report; whatever follows them is ignored. -/
def readAll (body : List UInt8) : List TimeRecord :=
  match read : read? body with
  | some (record, rest) =>
    have : rest.length + width = body.length := length_read? read
    record :: readAll rest
  | none => []
termination_by body.length
decreasing_by
  simp only [width] at this
  omega

end TimeRecord

end VoxelCube
