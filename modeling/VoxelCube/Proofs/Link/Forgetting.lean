/-
A receiver forgets. What it holds of a frame ends with the report on that frame: after every report, and
after the reset that some faults need, no further input tells it from a new receiver. A reset does the
same whatever the receiver holds, and a start octet drops what came before it. Registers that phases
share keep bytes of what is over, and still forget in this sense.
-/
import VoxelCube.Proofs.Link.Registers

namespace VoxelCube.Link

/-- What has to be done to a receiver after a report before it takes anything more. -/
def owed : Except Fault Event → List Input
  | .ok _ => []
  | .error fault => if fault.needsReset then [.reset] else []

/-- Nothing that was given to a receiver counts once it reported something, and was reset if the report
is a fault that needs it: whatever it is given next, it cannot be told from a new one. The same holds
after a reset, in whatever state it was made. A start octet drops what came before it, unless a reset is
still owed. -/
structure Port.Forgets {σ : Type} (p : Port σ) (new : σ) : Prop where
  report : ∀ past c report more, (p.feed (p.run new past) c).2 = some report →
    p.observe (p.run new (past ++ .octet c :: owed report)) more = p.observe new more
  reset : ∀ s more, p.observe (p.reset s) more = p.observe new more
  start : ∀ past more, p.isStuck (p.run new past) = false →
    p.observe (p.run new (past ++ [.octet startOctet])) more =
      p.observe (p.run new [.octet startOctet]) more

/-- What simulates a receiver that forgets does so too, if a reset makes it a new one. -/
theorem Port.Simulates.forgets {σ τ : Type} {p : Port σ} {q : Port τ} {R : σ → τ → Prop}
    (h : p.Simulates q R) {new : σ} {new' : τ} (start : R new new') (reset : ∀ s, R (p.reset s) new')
    (forgets : q.Forgets new') : p.Forgets new where
  report past c report more reported := by
    have reported' : (q.feed (q.run new' past) c).2 = some report :=
      (h.feed (h.run start past) c).2 ▸ reported
    rw [h.observe (h.run start _) more, h.observe start more]
    exact forgets.report past c report more reported'
  reset s more := by rw [h.observe (reset s) more, h.observe start more]
  start past more free := by
    have free' : q.isStuck (q.run new' past) = false := h.stuck (h.run start past) ▸ free
    rw [h.observe (h.run start _) more, h.observe (h.run start _) more]
    exact forgets.start past more free'

namespace Receiver

/-! ## What a report leaves behind -/

variable (variant : Crc.Variant)

/-- A receiver that reports is a new one once it was given what it is owed. -/
def Spent (fed : Receiver × Option (Except Fault Event)) : Prop :=
  ∀ report, fed.2 = some report → (port variant).run fed.1 (owed report) = ready

theorem spent_none (r : Receiver) : Spent variant (r, none) := by
  intro report reported
  cases reported

theorem spent_fault {fault : Fault} (r : Receiver) (reset : fault.needsReset = true) :
    Spent variant (r, some (.error fault)) := by
  intro report reported
  cases reported
  simp [owed, reset, port, Port.run, Port.take]

theorem spent_invalid : Spent variant (stuck, some (.error .invalidDigit)) :=
  spent_fault variant stuck rfl

theorem spent_ready (report : Except Fault Event) : Spent variant (ready, some report) := by
  intro report reported
  cases report with
  | ok event => rfl
  | error fault => cases fault <;> rfl

theorem feedIdle_spent (matched : Fin 3) (c : UInt8) :
    Spent variant ((feedIdle matched c).1, (feedIdle matched c).2.map .ok) := by
  unfold feedIdle
  split
  · exact spent_ready variant _
  split
  · exact spent_ready variant _
  split
  · split
    · exact spent_none variant _
    · exact spent_ready variant _
  · exact spent_none variant _

theorem takePayload_spent (part : Partial) (b : UInt8) :
    Spent variant ((takePayload part b).1, (takePayload part b).2.map .error) := by
  unfold takePayload
  split
  · exact spent_fault variant stuck rfl
  · dsimp only
    split <;> exact spent_none variant _

/-- Whatever state a receiver leaves on a report, it keeps nothing of it. -/
theorem feedInside_spent (r : Receiver) (c : UInt8) : Spent variant (r.feedInside variant c) := by
  cases r with
  | idle matched => exact feedIdle_spent variant matched c
  | opening =>
    by_cases opened : c = openOctet
    · simp only [feedInside, if_pos opened]
      exact spent_none variant _
    · simp only [feedInside, if_neg opened]
      exact spent_ready variant _
  | length digits =>
    rcases fed : digits.feed c with ⟨_, _ | n | _⟩ <;> simp only [feedInside, fed]
    · exact spent_none variant _
    · exact spent_none variant _
    · exact spent_invalid variant
  | payload part pair =>
    rcases fed : pair.feed c with ⟨_, _ | b | _⟩ <;> simp only [feedInside, fed]
    · exact spent_none variant _
    · exact takePayload_spent variant part b
    · exact spent_invalid variant
  | checksum part digits =>
    rcases fed : digits.feed c with ⟨_, _ | n | _⟩ <;> simp only [feedInside, fed]
    · exact spent_none variant _
    · exact spent_ready variant _
    · exact spent_invalid variant
  | stuck => exact spent_none variant stuck

theorem feed_spent (r : Receiver) (c : UInt8) : Spent variant (r.feed variant c) := by
  unfold feed
  split
  · exact spent_none variant opening
  · exact feedInside_spent variant r c

theorem port_forgets : (port variant).Forgets ready where
  report past c report more reported := by
    have settled : (port variant).run ((port variant).run ready past) (.octet c :: owed report) = ready :=
      feed_spent variant _ c report reported
    rw [Port.run_append, settled]
  reset _ _ := rfl
  start past more free := by
    have opened : (port variant).run ((port variant).run ready past) [.octet startOctet] = opening :=
      congrArg Prod.fst (if_pos ⟨rfl, free⟩)
    rw [Port.run_append, opened]
    rfl

end Receiver

/-- **No memory.** A receiver forgets, whether its phases hold data of their own or share their registers;
the two cannot be told from one another. -/
theorem nothing_kept (variant : Crc.Variant) :
    (Receiver.port variant).Forgets .ready ∧ (Registers.port variant).Forgets {} ∧
      ∀ inputs, (Registers.port variant).observe {} inputs =
        (Receiver.port variant).observe .ready inputs := by
  have simulates := Registers.port_simulates variant
  have new : Registers.StandsFor {} .ready := .idle 0
  have forgets := Receiver.port_forgets variant
  exact ⟨forgets, simulates.forgets new (fun _ => .idle 0) forgets, simulates.observe new⟩

/-- A bad digit ends a frame in its payload. Registers that are reset still hold the length that it
announced, but take the rest as new ones do. -/
theorem spoiled_frame_forgotten :
    let port := Registers.port .xmodem
    let inside := (textBytes "S00200A").map Input.octet
    let left := port.run {} (inside ++ [.octet 'Z'.toUInt8, .reset])
    let rest := (textBytes "5ATI").map Input.octet
    (port.feed (port.run {} inside) 'Z'.toUInt8).2 = some (.error .invalidDigit) ∧
      left ≠ {} ∧ port.observe left rest = port.observe {} rest := by
  have spoiled : ((Registers.port .xmodem).feed
      ((Registers.port .xmodem).run {} ((textBytes "S00200A").map .octet)) 'Z'.toUInt8).2 =
        some (.error .invalidDigit) := by rfl
  refine ⟨spoiled, by decide +kernel, ?_⟩
  exact (nothing_kept .xmodem).2.1.report _ _ (.error .invalidDigit) _ spoiled

/-- One that is not reset can be told from a new one. -/
example : ((Receiver.port .xmodem).observe .stuck []).map (·.stuck) ≠
    ((Receiver.port .xmodem).observe .ready []).map (·.stuck) := by
  decide

end VoxelCube.Link
