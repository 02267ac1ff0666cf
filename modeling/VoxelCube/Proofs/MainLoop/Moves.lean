/-
What the moves of a turn keep, the turn keeps, be it of the main loop or also of what happened so far. An
effect begins in a device that renders and has taken everything over, and draws in a settled one, right
after the counter was read, while no frame waits, and not before its next frame is due.
-/
import VoxelCube.Proofs.MainLoop.Trace

namespace VoxelCube

/-! ## Settled devices -/

/-- The device renders, has taken everything over, and no effect has to begin. -/
structure Device.Settled (d : Device) : Prop where
  rendering : d.mode.isRendering = true
  clean : d.dirty = .none
  begun : d.needsInit = false

variable {ω : Type}

namespace Cube

variable (c : Cube ω) {l : MainLoop ω}

theorem takeOver_clean (l : MainLoop ω) : (c.takeOver l).device.dirty = .none := by
  unfold takeOver
  dsimp only
  rw [c.sync_eq]

theorem settled_initEffect (rendering : l.device.mode.isRendering = true)
    (clean : l.device.dirty = .none) : (c.initEffect l).device.Settled := by
  rw [c.initEffect_device]
  exact ⟨rendering, clean, rfl⟩

theorem beginMarked_mode (l : MainLoop ω) : (c.beginMarked l).device.mode = l.device.mode := by
  unfold beginMarked
  split
  · rw [c.initEffect_device]
  · rfl

theorem settled_beginMarked (rendering : l.device.mode.isRendering = true)
    (clean : l.device.dirty = .none) : (c.beginMarked l).device.Settled := by
  unfold beginMarked
  split
  · exact c.settled_initEffect rendering clean
  · rename_i unmarked
    rw [rendering, Bool.and_true, Bool.not_eq_true] at unmarked
    exact ⟨rendering, clean, unmarked⟩

/-- The next entry of a playlist changes what is selected, and nothing else. -/
theorem settled_moveOn (settled : l.device.Settled) : (c.moveOn l).device.Settled := by
  obtain ⟨effect, selector, moved⟩ := c.advancePlaylist_device l.toMachine
  unfold moveOn
  dsimp only
  rw [moved]
  exact ⟨settled.rendering, settled.clean, settled.begun⟩

theorem settled_expireEntry (settled : l.device.Settled) : (c.expireEntry l).device.Settled := by
  rw [expireEntry_eq]
  split
  · have moved := c.settled_moveOn (l := (c.readTicks l).2) settled
    exact c.settled_initEffect moved.rendering moved.clean
  · exact settled

/-- No effect opens or closes the gate. -/
def SparesGate (c : Cube ω) : Prop :=
  ∀ cue : Cue ω, c.effect? cue.number = some cue.effect → cue.painted.mayFlip = cue.frame.mayFlip

variable {c}

theorem SparesGate.initEffect (spares : c.SparesGate) (l : MainLoop ω) :
    (c.initEffect l).frame.mayFlip = false := by
  unfold Cube.initEffect
  dsimp only
  split
  · rename_i effect found
    have kept := spares (initCue effect l) found
    cases effect.flip <;> exact kept
  · rfl

/-- An effect that begins resets the counter last. -/
theorem initEffect_world (l : MainLoop ω) : ∃ w, (c.initEffect l).world = c.board.resetTicks w := by
  unfold Cube.initEffect
  dsimp only
  split <;> exact ⟨_, rfl⟩

end Cube

/-! ## Turns -/

/-- The running effect may draw at the next reading of the counter. Where that tells the end of the
counter, it was just reset. -/
structure Cube.Due (c : Cube ω) (l : MainLoop ω) : Prop where
  settled : l.device.Settled
  closed : c.SparesGate → l.frame.mayFlip = false
  passed : l.nextDraw ≤ (c.readTicks l).1
  running : (c.readTicks l).1 = 65535 → ∃ w, l.world = c.board.resetTicks w

variable {c : Cube ω} {P : List (Happening ω) → MainLoop ω → Prop} {log : List (Happening ω)}
  {l : MainLoop ω}

/-- The moves of a turn that follow when the changed settings are taken over keep a property of what happened
so far and the main loop. -/
structure Cube.PresentKeeps (c : Cube ω) (P : List (Happening ω) → MainLoop ω → Prop) : Prop where
  read : ∀ {log l}, P log l → P log (c.readTicks l).2
  begin : ∀ {log l}, P log l → l.device.mode.isRendering = true → l.device.dirty = .none →
    P (log ++ (c.traceInit l).1) (c.initEffect l)
  next : ∀ {log l}, P log l → l.device.Settled → l.device.mode = .playlist →
    P (log ++ ((c.traceNext l).1 ++ (c.traceInit (c.moveOn l)).1)) (c.initEffect (c.moveOn l))
  draw : ∀ {log l}, P log l → c.Due l → P (log ++ (c.traceFrame l).1) (c.drawFrame l).2
  wait : ∀ {log l}, P log l → P log { l with world := c.board.wait l.world }

namespace Cube.PresentKeeps

theorem beginMarked (k : c.PresentKeeps P) (clean : l.device.dirty = .none) (h : P log l) :
    P (log ++ (c.traceMarked l).1) (c.beginMarked l) := by
  unfold Cube.beginMarked traceMarked
  split
  · rename_i due
    exact k.begin h (Bool.and_eq_true_iff.mp due).2 clean
  · rw [List.append_nil]
    exact h

theorem rest (k : c.PresentKeeps P) (h : P log l) : P log (c.rest l) := by
  unfold Cube.rest
  split
  · exact h
  · exact k.wait h

theorem expireEntry (k : c.PresentKeeps P) (settled : l.device.Settled)
    (playing : l.device.mode = .playlist) (h : P log l) :
    P (log ++ (c.traceExpire l).1) (c.expireEntry l) := by
  rw [traceExpire_eq, expireEntry_eq]
  dsimp only
  split
  · exact k.next (k.read h) settled playing
  · rw [List.append_nil]
    exact k.read h

theorem render (k : c.PresentKeeps P) (settled : l.device.Settled) (h : P log l) :
    P (log ++ (c.traceRender l).1) (c.render l).2 := by
  rw [traceRender_eq, render_eq]
  dsimp only
  by_cases waiting : l.frame.mayFlip = true
  · rw [if_pos waiting, if_pos waiting, List.append_nil]
    exact h
  rw [if_neg waiting, if_neg waiting]
  by_cases early : (c.readTicks l).1 < l.nextDraw
  · rw [if_pos early, if_pos early, List.append_nil]
    exact k.read h
  rw [if_neg early, if_neg early]
  by_cases stopped : (c.readTicks l).1 = 65535
  · -- the effect begins again, and its next frame is due at once
    have begun := k.begin (k.read h) settled.rendering settled.clean
    have due : c.Due (c.initEffect (c.readTicks l).2) := by
      refine ⟨c.settled_initEffect settled.rendering settled.clean, fun spares => spares.initEffect _, ?_,
        fun _ => initEffect_world _⟩
      rw [c.initEffect_nextDraw]
      exact UInt16.zero_le
    rw [if_pos stopped, if_pos stopped, ← List.append_assoc, traceInit_snd]
    exact k.draw begun due
  · rw [if_neg stopped, if_neg stopped]
    refine k.draw h ⟨settled, fun _ => ?_, UInt16.not_lt.mp early, fun last => absurd last stopped⟩
    simpa using waiting

theorem present (k : c.PresentKeeps P) (log : List (Happening ω)) (clean : l.device.dirty = .none)
    (h : P log l) : P (log ++ (c.tracePresent l).1) (c.present l).2 := by
  have begun := k.beginMarked clean h
  have settled := c.settled_beginMarked (l := l)
  rw [tracePresent_fst, ← List.append_assoc]
  unfold Cube.present
  -- what is left of the turn goes by the mode, and renders in a settled device only
  cases mode : l.device.mode with
  | sleep | idle =>
    dsimp only
    rw [List.append_nil]
    exact k.rest begun
  | playlist =>
    have ready := settled (by rw [mode]; rfl) clean
    dsimp only
    rw [← List.append_assoc]
    exact k.render (c.settled_expireEntry ready)
      (k.expireEntry ready ((c.beginMarked_mode l).trans mode) begun)
  | effect => exact k.render (settled (by rw [mode]; rfl) clean) begun

end Cube.PresentKeeps

/-- The moves of a turn keep a property of what happened so far and the main loop. -/
structure Cube.TraceKeeps (c : Cube ω) (P : List (Happening ω) → MainLoop ω → Prop) : Prop
    extends c.PresentKeeps P where
  line : ∀ {log}, c.LineKeeps (P log)
  sync : ∀ {log l}, P log l → P (log ++ (c.traceSync l).1) (c.takeOver l)

/-- A turn keeps what its moves keep. -/
theorem Cube.TraceKeeps.turn (k : c.TraceKeeps P) (log : List (Happening ω)) (h : P log l) :
    P (log ++ (c.traceTurn l).1) (c.step l).2 := by
  rw [traceTurn_fst, step_eq, ← List.append_assoc]
  exact k.present _ (c.takeOver_clean _) (k.sync (k.line.processSerial h))

/-! ## Properties of the main loop alone -/

namespace Cube

variable {Q : MainLoop ω → Prop}

/-- The moves of a turn keep a property of the main loop, once the changed settings are taken over. -/
structure ShowKeeps (c : Cube ω) (Q : MainLoop ω → Prop) : Prop where
  begin : ∀ {l}, Q l → Q (c.initEffect l)
  elapse : ∀ {l}, Q l → Q { l with world := c.board.elapse l.world }
  draw : ∀ {l} ticks, Q l → Q (c.drawAt ticks l).2
  advance : ∀ {l}, l.device.mode = .playlist → Q l →
    Q { l with toMachine := c.advancePlaylist l.toMachine }
  wait : ∀ {l}, Q l → Q { l with world := c.board.wait l.world }

/-- A turn keeps what its moves keep from when it took the changed settings over. -/
theorem ShowKeeps.step (k : ShowKeeps c Q) (taken : Q (c.takeOver (c.processSerial l))) :
    Q (c.step l).2 := by
  have keeps : c.PresentKeeps fun _ l => Q l :=
    { read := k.elapse
      begin := fun h _ _ => k.begin h
      next := fun h _ playing => k.begin (k.advance playing h)
      draw := fun h _ => k.draw _ (k.elapse h)
      wait := k.wait }
  exact keeps.present [] (c.takeOver_clean _) taken

/-- The moves of a turn after the serial line keep a property of the main loop. -/
structure TurnKeeps (c : Cube ω) (Q : MainLoop ω → Prop) : Prop where
  sync : ∀ {l}, Q l → Q { l with toMachine := c.sync l.toMachine }
  begin : ∀ {l}, Q l → Q (c.initEffect l)
  elapse : ∀ {l}, Q l → Q { l with world := c.board.elapse l.world }
  draw : ∀ {l} ticks, Q l → Q (c.drawAt ticks l).2
  advance : ∀ {l}, Q l → Q { l with toMachine := c.advancePlaylist l.toMachine }
  wait : ∀ {l}, Q l → Q { l with world := c.board.wait l.world }

theorem TurnKeeps.step (k : TurnKeeps c Q) (h : Q (c.processSerial l)) : Q (c.step l).2 := by
  have shows : ShowKeeps c Q :=
    { begin := k.begin, elapse := k.elapse, draw := k.draw, advance := fun _ => k.advance, wait := k.wait }
  exact shows.step (k.sync h)

end Cube

end VoxelCube
