/-
Serving the serial line, and what the other parts of a turn leave as it is. The line is served by a few
moves: bytes are taken and sent, messages dispatched. A property that every move keeps holds after the
line was served if it held before.
-/
import VoxelCube.MainLoop

namespace VoxelCube.Cube

/-! ## The running effect -/

section Effect

variable {ω : Type} (c : Cube ω) (l : MainLoop ω)

theorem mem_of_effect? {c : Cube ω} {n : UInt8} {effect : Effect ω} (found : c.effect? n = some effect) :
    effect ∈ c.effects :=
  List.mem_of_getElem? found

theorem initEffect_device : (c.initEffect l).device = { l.device with needsInit := false } := by
  unfold initEffect
  dsimp only
  split <;> rfl

theorem initEffect_receiver : (c.initEffect l).receiver = l.receiver := by
  unfold initEffect
  dsimp only
  split <;> rfl

/-- An effect that begins may draw at once. -/
theorem initEffect_nextDraw : (c.initEffect l).nextDraw = 0 := by
  unfold initEffect
  dsimp only
  split <;> rfl

/-- An effect that draws changes the frame and the world, not the device and the receiver. -/
theorem drawAt_shell (ticks : UInt16) : (c.drawAt ticks l).2.device = l.device ∧
    (c.drawAt ticks l).2.receiver = l.receiver := by
  unfold drawAt
  split
  · exact ⟨rfl, rfl⟩
  · dsimp only
    split <;> exact ⟨rfl, rfl⟩

end Effect

/-! ## The serial line -/

variable {ω : Type} {c : Cube ω} {P : MainLoop ω → Prop} {l : MainLoop ω}

/-- The moves of serving the line keep a property. -/
structure LineKeeps (c : Cube ω) (P : MainLoop ω → Prop) : Prop where
  feed : ∀ {l} receiver, P l → P { l with receiver }
  receive : ∀ {l}, P l → P { l with world := (c.board.receive l.world).2 }
  put : ∀ {l} byte, P l → P { l with world := c.board.put byte l.world }
  drain : ∀ {l}, P l → P { l with world := c.board.drain l.world }
  dispatch : ∀ {l} payload, P l →
    P { l with toMachine := (c.dispatch c.board.put payload l.toMachine).2 }

namespace LineKeeps

theorem puts (k : LineKeeps c P) (bytes : List UInt8) (h : P l) :
    P { l with world := c.board.puts bytes l.world } :=
  List.foldlRecOn (motive := fun world => P { l with world }) bytes _ h
    fun _ hw byte _ => k.put byte hw

theorem takeEvent (k : LineKeeps c P) (event : Link.Event) (h : P l) : P (c.takeEvent event l) := by
  unfold Cube.takeEvent
  cases event with
  | frame payload =>
    have told := k.dispatch payload (k.put Link.ackOctet h)
    dsimp only at told ⊢
    generalize (c.dispatch c.board.put payload _).2 = s at told ⊢
    exact k.drain told
  | ack => exact h
  | nak => exact h
  | probe => exact k.drain (k.puts _ h)

theorem takeFault (k : LineKeeps c P) (fault : Link.Fault) (h : P l) : P (c.takeFault fault l) :=
  k.feed _ (k.put fault.reply h)

theorem takeByte (k : LineKeeps c P) (byte : UInt8) (h : P l) : P (c.takeByte byte l) := by
  unfold Cube.takeByte
  rcases l.receiver.feed c.config.crc byte with ⟨receiver, none | fault | event⟩
  · exact k.feed receiver h
  · exact k.takeFault fault (k.feed receiver h)
  · exact k.takeEvent event (k.feed receiver h)

theorem takeBytes (k : LineKeeps c P) (budget : Nat) (h : P l) : P (c.takeBytes budget l) := by
  induction budget generalizing l with
  | zero => exact h
  | succ budget ih =>
    have taken := k.receive h
    unfold Cube.takeBytes
    rcases received : c.board.receive l.world with ⟨none | byte, world⟩ <;> rw [received] at taken
    · exact taken
    · exact ih (k.takeByte byte taken)

theorem processSerial (k : LineKeeps c P) (h : P l) : P (c.processSerial l) :=
  k.takeBytes serialBudget h

end LineKeeps

/-- A line that brings nothing is only asked once. -/
theorem processSerial_silent (silent : (c.board.receive l.world).1 = none) :
    c.processSerial l = { l with world := (c.board.receive l.world).2 } := by
  unfold processSerial serialBudget takeBytes
  split
  · rename_i received
    rw [received] at silent
    cases silent
  · rename_i received
    rw [received]

end VoxelCube.Cube
