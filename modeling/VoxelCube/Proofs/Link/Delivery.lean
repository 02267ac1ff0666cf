/-
What a cube dispatches. In any run of the serial line over a new main loop, cut into turns in any way,
a payload is dispatched on a byte exactly when the bytes up to it end with the payload on the wire and
the payload fits a frame. The traced main loop writes down next to every byte what was dispatched on
it, and does nothing else that the main loop does not.
-/
import VoxelCube.Bench.Sample
import VoxelCube.Proofs.Link.Recognition
import VoxelCube.Proofs.MainLoop.Moves

namespace VoxelCube

open Link

/-! ## The traced main loop -/

/-- A byte that the line brought, and the payload that was dispatched on it, if any. -/
structure Taken where
  byte : UInt8
  dispatched : Option (List UInt8)
  deriving DecidableEq, Repr

/-- The bytes that were taken. -/
def Taken.bytes (log : List Taken) : List UInt8 := log.map Taken.byte

namespace Cube

variable {ω : Type} (c : Cube ω)

/-- Does what an event asks for, and says which payload it gave to `dispatch`. -/
def traceEvent (event : Event) (l : MainLoop ω) : Option (List UInt8) × MainLoop ω :=
  match event with
  | .frame payload =>
    let world := c.board.put ackOctet l.world
    let (_, s) := c.dispatch c.board.put payload { l.toMachine with world }
    (some payload, { l with toMachine := { s with world := c.board.drain s.world } })
  | .ack | .nak => (none, l)
  | .probe =>
    let answer := identity (textBytes c.config.identity.text) l.device.address
    (none, { l with world := c.board.drain (c.board.puts answer l.world) })

/-- Takes one byte that the line brought. -/
def traceByte (byte : UInt8) (l : MainLoop ω) : Taken × MainLoop ω :=
  let (receiver, report) := l.receiver.feed c.config.crc byte
  let l := { l with receiver }
  match report with
  | none => ({ byte, dispatched := none }, l)
  | some (.ok event) =>
    let (dispatched, l) := c.traceEvent event l
    ({ byte, dispatched }, l)
  | some (.error fault) => ({ byte, dispatched := none }, c.takeFault fault l)

/-- Takes up to `budget` bytes from the line. -/
def traceBytes : (budget : Nat) → MainLoop ω → List Taken × MainLoop ω
  | 0, l => ([], l)
  | budget + 1, l =>
    match c.board.receive l.world with
    | (some byte, world) =>
      let (taken, l) := c.traceByte byte { l with world }
      let (log, l) := traceBytes budget l
      (taken :: log, l)
    | (none, world) => ([], { l with world })

/-- What the line brought in one turn. -/
def traceSerial (l : MainLoop ω) : List Taken × MainLoop ω := c.traceBytes serialBudget l

theorem traceEvent_snd (event : Event) (l : MainLoop ω) :
    (c.traceEvent event l).2 = c.takeEvent event l := by
  cases event <;> rfl

theorem traceByte_snd (byte : UInt8) (l : MainLoop ω) :
    (c.traceByte byte l).2 = c.takeByte byte l := by
  unfold traceByte takeByte
  rcases l.receiver.feed c.config.crc byte with ⟨receiver, none | fault | event⟩
  · rfl
  · rfl
  · exact c.traceEvent_snd event _

theorem traceBytes_snd (budget : Nat) (l : MainLoop ω) :
    (c.traceBytes budget l).2 = c.takeBytes budget l := by
  induction budget generalizing l with
  | zero => rfl
  | succ budget ih =>
    unfold traceBytes takeBytes
    rcases c.board.receive l.world with ⟨none | byte, world⟩
    · rfl
    · show (c.traceBytes budget _).2 = _
      rw [ih, traceByte_snd]

/-- Tracing changes nothing. -/
theorem traceSerial_snd (l : MainLoop ω) : (c.traceSerial l).2 = c.processSerial l :=
  c.traceBytes_snd serialBudget l

/-! ## One byte -/

theorem takeEvent_receiver (event : Event) (l : MainLoop ω) :
    (c.takeEvent event l).receiver = l.receiver := by
  cases event <;> rfl

theorem takeByte_receiver (byte : UInt8) (l : MainLoop ω) :
    (c.takeByte byte l).receiver = l.receiver.next c.config.crc byte := by
  unfold takeByte Receiver.next
  rcases l.receiver.feed c.config.crc byte with ⟨receiver, none | fault | event⟩
  · rfl
  · rfl
  · exact c.takeEvent_receiver event _

theorem traceByte_byte (byte : UInt8) (l : MainLoop ω) : (c.traceByte byte l).1.byte = byte := by
  unfold traceByte
  rcases l.receiver.feed c.config.crc byte with ⟨receiver, none | fault | event⟩ <;> rfl

theorem traceByte_dispatched (byte : UInt8) (l : MainLoop ω) (p : List UInt8) :
    (c.traceByte byte l).1.dispatched = some p ↔ l.receiver.Reports c.config.crc byte p := by
  unfold traceByte Receiver.Reports
  rcases l.receiver.feed c.config.crc byte with ⟨receiver, none | fault | event⟩
  · simp
  · simp
  · cases event <;> simp [traceEvent]

/-- Only the serial line moves the receiver in a turn. -/
theorem step_receiver (l : MainLoop ω) : (c.step l).2.receiver = (c.processSerial l).receiver := by
  have keeps : TurnKeeps c (fun l' => l'.receiver = (c.processSerial l).receiver) :=
    { sync := fun h => h
      begin := fun h => (c.initEffect_receiver _).trans h
      elapse := fun h => h
      draw := fun ticks h => (c.drawAt_shell _ ticks).2.trans h
      advance := fun h => h
      wait := fun h => h }
  exact keeps.step rfl

end Cube

/-! ## Runs of the serial line -/

variable {ω : Type} {c : Cube ω} {log : List Taken} {l : MainLoop ω}

/-- The line was served since the main loop was new, and `log` is what it brought. Machines may come
with any past, and between two calls everything but the receiver may change. -/
inductive Serial (c : Cube ω) : List Taken → MainLoop ω → Prop where
  | new (s : Machine ω) : Serial c [] { s with }
  | call {log : List Taken} {l : MainLoop ω} (run : Serial c log l) :
    Serial c (log ++ (c.traceSerial l).1) (c.processSerial l)
  | between {log : List Taken} {l l' : MainLoop ω} (run : Serial c log l)
    (same : l'.receiver = l.receiver) : Serial c log l'

/-- The first call. -/
theorem Serial.first (s : Machine ω) :
    Serial c (c.traceSerial { s with }).1 (c.processSerial { s with }) := by
  simpa using Serial.call (Serial.new (c := c) s)

/-- A turn of the main loop is a call and what follows it. -/
theorem Serial.turn (run : Serial c log l) :
    Serial c (log ++ (c.traceSerial l).1) (c.step l).2 :=
  run.call.between (c.step_receiver l)

/-- A payload is dispatched on a byte of a log exactly when it fits and the bytes up to this one end
with it on the wire. -/
def Exact (variant : Crc.Variant) (log : List Taken) : Prop :=
  ∀ i p, (∃ byte, log[i]? = some { byte, dispatched := some p }) ↔
    i < log.length ∧ p.length ≤ capacity ∧ wire variant p <:+ Taken.bytes (log.take (i + 1))

/-- The receiver followed the bytes of an exact log. -/
structure Follows (c : Cube ω) (log : List Taken) (l : MainLoop ω) : Prop where
  receiver : l.receiver = Receiver.after c.config.crc .ready (Taken.bytes log)
  exact : Exact c.config.crc log

theorem Exact.push {variant : Crc.Variant} {log : List Taken} {taken : Taken}
    (h : Exact variant log)
    (new : ∀ p, taken.dispatched = some p ↔
      p.length ≤ capacity ∧ wire variant p <:+ Taken.bytes log ++ [taken.byte]) :
    Exact variant (log ++ [taken]) := by
  intro i p
  by_cases old : i < log.length
  · have before : i < (log ++ [taken]).length := by simp; omega
    rw [List.getElem?_append_left old, List.take_append_of_le_length old, h i p]
    simp only [old, before]
  by_cases last : i = log.length
  · subst last
    have all : Taken.bytes ((log ++ [taken]).take (log.length + 1)) =
        Taken.bytes log ++ [taken.byte] := by
      rw [List.take_of_length_le (by simp)]
      simp [Taken.bytes]
    rw [all, ← new p]
    simp only [List.getElem?_concat_length, Option.some.injEq, List.length_append,
      List.length_singleton, Nat.lt_add_one, true_and]
    constructor
    · rintro ⟨byte, same⟩
      rw [same]
    · intro dispatched
      exact ⟨taken.byte, by rw [← dispatched]⟩
  · have beyond : (log ++ [taken]).length ≤ i := by simp; omega
    rw [List.getElem?_eq_none beyond]
    constructor
    · rintro ⟨byte, impossible⟩
      cases impossible
    · rintro ⟨inside, -⟩
      omega

/-- One byte more keeps a log exact. -/
theorem Follows.byte (h : Follows c log l) (byte : UInt8) :
    Follows c (log ++ [(c.traceByte byte l).1]) (c.takeByte byte l) where
  receiver := by
    have grown : Taken.bytes (log ++ [(c.traceByte byte l).1]) = Taken.bytes log ++ [byte] := by
      simp [Taken.bytes, c.traceByte_byte]
    rw [c.takeByte_receiver, h.receiver, grown, Receiver.after_append]
    rfl
  exact := by
    refine h.exact.push fun p => ?_
    rw [c.traceByte_dispatched, h.receiver, c.traceByte_byte]
    exact Receiver.reports_iff c.config.crc (Taken.bytes log) byte p

theorem Follows.bytes (h : Follows c log l) (budget : Nat) :
    Follows c (log ++ (c.traceBytes budget l).1) (c.takeBytes budget l) := by
  -- The induction is on the budget; the log grows at its end while the budget is used up.
  induction budget generalizing log l with
  | zero => exact (List.append_nil log).symm ▸ h
  | succ budget ih =>
    unfold Cube.traceBytes Cube.takeBytes
    rcases c.board.receive l.world with ⟨none | byte, world⟩
    · exact ⟨(List.append_nil log).symm ▸ h.receiver, (List.append_nil log).symm ▸ h.exact⟩
    · have read : Follows c log { l with world } := ⟨h.receiver, h.exact⟩
      have rest := ih (read.byte byte)
      rw [List.append_assoc] at rest
      simp only [c.traceByte_snd]
      exact rest

theorem Serial.follows (run : Serial c log l) : Follows c log l := by
  induction run with
  | new s => exact ⟨rfl, fun i p => by simp⟩
  | call _ ih => exact ih.bytes Cube.serialBudget
  | between _ same ih => exact ⟨same.trans ih.receiver, ih.exact⟩

/-- **Delivery.** A payload is dispatched on a byte of the line exactly when the bytes up to this one
end with the payload on the wire and the payload fits a frame. -/
theorem dispatched_iff_wire_suffix (run : Serial c log l) (i : Nat) (p : List UInt8) :
    (∃ byte, log[i]? = some { byte, dispatched := some p }) ↔
      i < log.length ∧ p.length ≤ capacity ∧
        wire c.config.crc p <:+ Taken.bytes (log.take (i + 1)) :=
  run.follows.exact i p

/-- A line on which an abandoned frame and a bad digit come before a good frame. -/
def Bench.noisyWorld : Bench.World :=
  { world := { inbox := textBytes "S0010S00Z" ++ wire .xmodem [0x2A, 0x07] } }

/-- The frame behind the noise is dispatched on its last byte. -/
theorem dispatched_behind_noise :
    ∃ byte, (Bench.sampleCube.traceSerial { Bench.sampleCube.machine Bench.noisyWorld with }).1[22]? =
      some { byte, dispatched := some [0x2A, 0x07] } :=
  (dispatched_iff_wire_suffix (Serial.first (Bench.sampleCube.machine Bench.noisyWorld)) 22
    [0x2A, 0x07]).mpr ⟨by decide +kernel, by decide, by decide +kernel⟩

end VoxelCube
