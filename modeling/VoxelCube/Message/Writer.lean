/-
Writing a payload into a frame, byte by byte and in one of two passes. The counting pass only learns
how long the payload is; the applying pass also sends every byte as two digits and keeps the
checksum that closes the frame.
-/
import VoxelCube.Crc
import VoxelCube.Hex
import VoxelCube.Message.Field

namespace VoxelCube

/-! ## Sinks -/

/-- Where bytes go: how one byte changes the world. -/
abbrev Sink (ω : Type) := UInt8 → ω → ω

namespace Sink

def puts {ω : Type} (sink : Sink ω) (bytes : List UInt8) (w : ω) : ω :=
  bytes.foldl (fun w b => sink b w) w

def unbounded : Sink (Array UInt8) := fun b kept => kept.push b

/-- A sink that keeps the first `capacity` bytes. -/
def bounded (capacity : Nat) : Sink (Array UInt8) := fun b kept =>
  if kept.size < capacity then kept.push b else kept

theorem puts_append {ω : Type} (sink : Sink ω) (a b : List UInt8) (w : ω) :
    sink.puts (a ++ b) w = sink.puts b (sink.puts a w) := by
  simp [puts]

theorem puts_unbounded (bytes : List UInt8) (kept : Array UInt8) :
    unbounded.puts bytes kept = kept ++ bytes.toArray := by
  induction bytes generalizing kept with
  | nil => simp [puts]
  | cons b rest ih =>
    have step := ih (kept.push b)
    simp only [puts, unbounded, List.foldl_cons] at step ⊢
    rw [step]
    simp

end Sink

/-! ## Passes -/

/-- The two runs in which a reply is made. -/
inductive Pass where
  /-- Count the payload and change nothing. -/
  | count
  /-- Carry the command out and send the payload. -/
  | apply
  deriving DecidableEq, Repr

structure Writer where
  pass : Pass
  crc : Crc
  length : Nat := 0
  deriving DecidableEq, Repr

namespace Writer

def new (pass : Pass) (variant : Crc.Variant) : Writer := { pass, crc := { variant } }

variable {ω : Type} (sink : Sink ω)

/-- Opens the frame of a payload of `length` bytes; neither counted nor covered by the checksum. -/
def begin (length : UInt16) (s : Writer × ω) : Writer × ω :=
  match s.1.pass with
  | .count => s
  | .apply =>
    (s.1, sink.puts (['S'.toUInt8, '0'.toUInt8] ++ Hex.encode (Word.toBytes 2 length.toNat)) s.2)

def push (byte : UInt8) (s : Writer × ω) : Writer × ω :=
  match s.1.pass with
  | .count => ({ s.1 with length := s.1.length + 1 }, s.2)
  | .apply =>
    ({ s.1 with length := s.1.length + 1, crc := s.1.crc.push byte }, sink.puts (Hex.pair byte) s.2)

def pushes (bytes : List UInt8) (s : Writer × ω) : Writer × ω :=
  bytes.foldl (fun s b => push sink b s) s

def write (field : Field) (s : Writer × ω) : Writer × ω := pushes sink field.encode s

/-- Closes the frame with the checksum. -/
def finish (s : Writer × ω) : Nat × ω :=
  match s.1.pass with
  | .count => (s.1.length, s.2)
  | .apply => (s.1.length, sink.puts (Hex.encode (Word.toBytes 2 s.1.crc.value.toNat)) s.2)

/-! ## Laws -/

theorem pushes_count (bytes : List UInt8) (w : Writer) (x : ω) (h : w.pass = .count) :
    pushes sink bytes (w, x) = ({ w with length := w.length + bytes.length }, x) := by
  induction bytes generalizing w with
  | nil => rfl
  | cons b rest ih =>
    have step : push sink b (w, x) = ({ w with length := w.length + 1 }, x) := by simp [push, h]
    simp only [pushes, List.foldl_cons, step] at ih ⊢
    rw [ih { w with length := w.length + 1 } h]
    simp only [List.length_cons, Nat.add_assoc, Nat.add_comm 1]

theorem pushes_apply (bytes : List UInt8) (w : Writer) (x : ω) (h : w.pass = .apply) :
    pushes sink bytes (w, x) =
      ({ w with length := w.length + bytes.length, crc := w.crc.update bytes },
        sink.puts (Hex.encode bytes) x) := by
  induction bytes generalizing w x with
  | nil => rfl
  | cons b rest ih =>
    have step : push sink b (w, x) =
        ({ w with length := w.length + 1, crc := w.crc.push b }, sink.puts (Hex.pair b) x) := by
      simp [push, h]
    simp only [pushes, List.foldl_cons, step] at ih ⊢
    rw [ih { w with length := w.length + 1, crc := w.crc.push b } _ h]
    simp only [List.length_cons, Nat.add_assoc, Nat.add_comm 1, Crc.update, List.foldl_cons,
      Hex.encode, List.flatMap_cons, Sink.puts_append]

theorem length_write (field : Field) (s : Writer × ω) :
    (write sink field s).1.length = s.1.length + field.encode.length := by
  obtain ⟨w, x⟩ := s
  cases h : w.pass
  · rw [write, pushes_count sink _ _ _ h]
  · rw [write, pushes_apply sink _ _ _ h]

end Writer

end VoxelCube
