/-
A board that is only memory, for trying a cube out. Its store, line and clock do what they are told,
and each can be made to fail. It also keeps a tray for bytes that are put aside, and counts how
often each effect began and drew.
-/
import VoxelCube.Board
import VoxelCube.Message.Writer

namespace VoxelCube.Bench

structure Memory where
  /-- The records, by the number of their key. -/
  records : Vector (Option (List UInt8)) 5 := .replicate 5 none
  /-- The errors with which reads fail, by the number of the key. -/
  readFaults : Vector (Option Store.Error) 5 := .replicate 5 none
  writeFault : Option Store.Error := none
  clock : UInt32 := 0
  zone : Int32 := 0
  ticks : UInt16 := 0
  /-- The bytes that wait on the line. -/
  inbox : List UInt8 := []
  receiveFails : Bool := false
  sendFails : Bool := false
  flushFails : Bool := false
  /-- The bytes put aside, the latest first. -/
  tray : List UInt8 := []
  begun : Vector Nat 256 := .replicate 256 0
  drawn : Vector Nat 256 := .replicate 256 0

namespace Memory

def get? (m : Memory) (key : Store.Key) : Option (List UInt8) := m.records[key.index]

/-- Puts a record in place, or takes it away. -/
def put (m : Memory) (key : Store.Key) (record : Option (List UInt8)) : Memory :=
  { m with records := m.records.set key.index record }

theorem get?_put (m : Memory) (key other : Store.Key) (record : Option (List UInt8)) :
    (m.put key record).get? other = if key = other then record else m.get? other := by
  by_cases h : key = other
  · subst h
    simp [put, get?]
  · have apart : key.index.val ≠ other.index.val :=
      fun e => h (Store.Key.index_injective (Fin.ext e))
    simp [put, get?, h, apart]

def read (key : Store.Key) (room : Nat) (m : Memory) :
    Except Store.Error (List UInt8) × Memory :=
  match m.readFaults[key.index], m.get? key with
  | some e, _ => (.error e, m)
  | none, none => (.error .notFound, m)
  | none, some record =>
    if room < record.length then (.error .bufferTooSmall, m) else (.ok record, m)

theorem read_snd (key : Store.Key) (room : Nat) (m : Memory) : (read key room m).2 = m := by
  unfold read
  split
  · rfl
  · rfl
  · split <;> rfl

def write (key : Store.Key) (record : List UInt8) (m : Memory) :
    Except Store.Error Unit × Memory :=
  match m.writeFault with
  | some e => (.error e, m)
  | none => (.ok (), m.put key (some record))

/-- Takes the first byte that waits, unless the line fails. -/
def receive (m : Memory) : Option UInt8 × Memory :=
  if m.receiveFails then (none, m)
  else
    match m.inbox with
    | [] => (none, m)
    | byte :: rest => (some byte, { m with inbox := rest })

def board : Board Memory where
  read := read
  write := write
  now := clock
  zone := zone
  setTime seconds m := { m with clock := seconds }
  setZone offset m := { m with zone := offset }
  powerUp m := m
  powerDown m := m
  wait m := m
  receive := receive
  hasPending m := !m.inbox.isEmpty
  send _ m := (!m.sendFails, m)
  flush m := (!m.flushFails, m)
  elapse m := m
  ticks := ticks
  resetTicks m := { m with ticks := 0 }

/-- A sink that puts bytes into the tray. -/
def collect : Sink Memory := fun byte m => { m with tray := byte :: m.tray }

end Memory

end VoxelCube.Bench
