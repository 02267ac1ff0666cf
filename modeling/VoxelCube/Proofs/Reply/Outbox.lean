/-
What a board was given to send, in order and whether it went out or not: a reply, a frame and the identity
are all found there. A record of the calls of a board is such an outbox, whatever the board does.
-/
import VoxelCube.Proofs.Reply.Framing

namespace VoxelCube

/-- What a board was given to send: every byte in order, whether it went out or not. -/
structure Outbox {ω : Type} (b : Board ω) where
  sent : ω → List UInt8
  sent_send : ∀ byte w, sent (b.send byte w).2 = sent w ++ [byte]
  sent_flush : ∀ w, sent (b.flush w).2 = sent w
  sent_receive : ∀ w, sent (b.receive w).2 = sent w
  untouched : ∀ bytes, b.Keeps fun w => sent w = bytes

namespace Outbox

variable {ω : Type} {b : Board ω} (outbox : Outbox b)

/-- The serial line as an unbounded sink. -/
def tape : Tape b where
  sink := b.put
  sent := outbox.sent
  sent_sink := outbox.sent_send
  untouched := outbox.untouched

theorem sent_puts (bytes : List UInt8) (w : ω) :
    outbox.sent (b.puts bytes w) = outbox.sent w ++ bytes := by
  induction bytes generalizing w with
  | nil => exact (List.append_nil _).symm
  | cons byte rest ih =>
    have step : b.puts (byte :: rest) w = b.puts rest (b.put byte w) := rfl
    rw [step, ih, show outbox.sent (b.put byte w) = outbox.sent w ++ [byte] from outbox.sent_send byte w,
      List.append_assoc, List.singleton_append]

end Outbox

/-- The byte that a call gives to the serial line. -/
def Call.sent? {ν : Type} : Call ν → Option UInt8
  | .send byte _ => some byte
  | _ => none

/-- Whatever a board does, its record shows what it was given to send. -/
def Board.outbox {ω ν : Type} (b : Board ω) : Outbox (b.recorded : Board (Recorded ω ν)) where
  sent w := w.calls.filterMap Call.sent?
  sent_send byte w := by
    show List.filterMap Call.sent? (Recorded.record _ (.send byte _)).calls = _
    rw [Recorded.calls_record, List.filterMap_append]
    rfl
  sent_flush w := by
    show List.filterMap Call.sent? (Recorded.record _ (.flush _)).calls = _
    rw [Recorded.calls_record, List.filterMap_append]
    exact List.append_nil _
  sent_receive w := rfl
  untouched bytes := by
    have other : ∀ (w : Recorded ω ν) (call : Call ν), call.sent? = none →
        w.calls.filterMap Call.sent? = bytes → (w.record call).calls.filterMap Call.sent? = bytes := by
      intro w call silent same
      rw [Recorded.calls_record, List.filterMap_append, same]
      simp [silent]
    exact {
      read := fun _ _ w same => other { w with world := _ } _ rfl same
      write := fun _ _ w same => other { w with world := _ } _ rfl same
      setTime := fun _ w same => other { w with world := _ } _ rfl same
      setZone := fun _ w same => other { w with world := _ } _ rfl same
      powerUp := fun w same => other { w with world := _ } _ rfl same
      powerDown := fun w same => other { w with world := _ } _ rfl same }

def Bench.sampleOutbox : Outbox Bench.sampleBoard := Memory.board.outbox

end VoxelCube
