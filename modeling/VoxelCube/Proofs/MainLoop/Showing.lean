/-
Every frame is shown once. A drawn frame waits behind the gate until the display takes it or an effect
begins, and as long as one waits nothing is drawn. So the gate is open exactly while a drawn frame waits:
the display gets each frame at its first request, and nothing at any other.
-/
import Mathlib.Data.List.Induction
import VoxelCube.Proofs.MainLoop.Pacing

namespace VoxelCube

namespace Happening

variable {ω : Type} {log more : List (Happening ω)}

/-- A drawn frame waits, if one did or not before this happened. -/
def waits (before : Bool) : Happening ω → Bool
  | .cue _ told => told.phase == .draw
  | .swap _ => false
  | .choice _ => before
  | .reset => before

/-- A drawn frame waits after all this happened. -/
def pending (log : List (Happening ω)) : Bool := log.foldl waits false

/-- Nothing is drawn while a frame waits, and the display gets a frame when one waits, no other time. -/
def Gated (before : List (Happening ω)) : Happening ω → Prop
  | .cue _ told => told.phase = .draw → pending before = false
  | .swap taken => taken = pending before
  | .choice _ => True
  | .reset => True

/-- No effect runs, and the display does not ask. -/
def Quiet : Happening ω → Prop
  | .cue _ _ => False
  | .swap _ => False
  | .choice _ => True
  | .reset => True

@[simp] theorem pending_push (happening : Happening ω) :
    pending (log ++ [happening]) = happening.waits (pending log) := List.foldl_concat ..

theorem pending_append_cons (happening : Happening ω) :
    pending (log ++ happening :: more) = pending (log ++ [happening] ++ more) := by
  rw [← List.append_cons]

theorem quiet_ofChoice? (choice : Option Choice) :
    ∀ happening ∈ (ofChoice? choice : List (Happening ω)), happening.Quiet := by
  intro happening mem
  obtain ⟨choice, -, rfl⟩ := List.mem_map.mp mem
  trivial

/-- While nothing runs and the display does not ask, a frame goes on waiting. -/
theorem pending_of_quiet (quiet : ∀ happening ∈ more, happening.Quiet) :
    pending (log ++ more) = pending log := by
  induction more generalizing log with
  | nil => rw [List.append_nil]
  | cons happening rest ih =>
    obtain ⟨first, others⟩ := List.forall_mem_cons.mp quiet
    rw [pending_append_cons, ih others, pending_push]
    cases happening with
    | cue | swap => exact first.elim
    | choice | reset => rfl

end Happening

open Happening

variable {ω : Type} {c : Cube ω} {log : List (Happening ω)} {l : MainLoop ω}

/-- What happened so far went by the gate, which is open exactly while a drawn frame waits. -/
structure Guarded (c : Cube ω) (log : List (Happening ω)) (l : MainLoop ω) : Prop where
  reached : Reachable c l
  gated : Along Gated log
  gate : l.frame.mayFlip = pending log

namespace Guarded

theorem around (h : Guarded c log l) {l' : MainLoop ω} (device : l'.device = l.device)
    (frame : l'.frame = l.frame) : Guarded c log l' :=
  ⟨h.reached.around device, h.gated, frame ▸ h.gate⟩

theorem choice (h : Guarded c log l) (choice : Option Choice) : Guarded c (log ++ ofChoice? choice) l := by
  refine ⟨h.reached, h.gated.choice choice fun _ => trivial, ?_⟩
  rw [pending_of_quiet (quiet_ofChoice? choice)]
  exact h.gate

/-- An effect that begins closes the gate. -/
theorem begin (spares : c.SparesGate) (reached : Reachable c l) (gated : Along Gated log) :
    Guarded c (log ++ (c.traceInit l).1) (c.initEffect l) := by
  obtain ⟨effect, found⟩ := reached.runs
  rw [Cube.traceInit_of_found found, List.append_cons]
  refine ⟨reached.begin, (gated.push ?_).push trivial, ?_⟩
  · rintro ⟨⟩
  · rw [pending_push, pending_push]
    exact spares.initEffect l

/-- An effect draws behind a closed gate, and opens it; a still one leaves it closed. -/
theorem draw (h : Guarded c log l) (closed : l.frame.mayFlip = false)
    (ticks : UInt16) : Guarded c (log ++ (c.traceDraw ticks l).1) (c.drawAt ticks l).2 := by
  obtain ⟨effect, found⟩ := h.reached.runs
  have none_waits : pending log = false := h.gate.symm.trans closed
  have reached := h.reached.drawAt ticks
  rw [Cube.traceDraw_of_found ticks found]
  unfold Cube.drawAt at reached ⊢
  rw [found] at reached ⊢
  dsimp only at reached ⊢
  by_cases animates : effect.animates l.world = true
  · rw [if_pos animates] at reached ⊢
    rw [if_pos animates]
    refine ⟨reached, h.gated.push fun _ => none_waits, ?_⟩
    simp [waits, Cube.drawCue, Display.FrameBuffer.allowFlip]
  · rw [if_neg animates] at reached ⊢
    rw [if_neg animates, List.append_nil]
    exact ⟨reached, h.gated, h.gate⟩

/-- A request of the display gets the frame that waits, and closes the gate. -/
theorem swap (h : Guarded c log l) :
    Guarded c (log ++ [.swap l.frame.swap.1]) { l with frame := l.frame.swap.2 } := by
  refine ⟨h.reached.around rfl, h.gated.push ?_, ?_⟩
  · show l.frame.swap.1 = pending log
    rw [← h.gate]
    unfold Display.FrameBuffer.swap
    split <;> simp_all
  · rw [pending_push]
    unfold Display.FrameBuffer.swap
    split <;> simp_all [waits, Display.FrameBuffer.allowFlip]

theorem runKeeps (spares : c.SparesGate) : c.RunKeeps (Guarded c) where
  new world := ⟨.new world, along_nil, rfl⟩
  perform {log l op} h _ := by
    obtain ⟨reached, gated, gate⟩ := h.choice (c.choice? op l.toMachine)
    exact ⟨reached.perform op, gated, gate⟩
  around h device frame _ := h.around device frame
  swap h := h.swap
  begin h _ _ := .begin spares h.reached h.gated
  next {log l} h _ _ := by
    rw [← List.append_assoc]
    exact .begin spares (h.reached.perform .advance) (h.choice _).gated
  draw {log l} h due := by
    have read : Guarded c log (c.readTicks l).2 := h.around rfl rfl
    exact read.draw (due.closed spares) _

end Guarded

namespace Bench

end Bench

end VoxelCube
