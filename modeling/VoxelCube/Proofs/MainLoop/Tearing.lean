/-
Freedom from tearing. In every run of turns and of requests by the display, the voxels shown change
only when a finished frame is taken, when an effect began and its first frame is complete, and while
an effect draws that draws in place. The effects are taken apart into their strokes, so that this is
said of every moment of a run.
-/
import VoxelCube.Proofs.Device.Restart
import VoxelCube.Proofs.Display.Painting
import VoxelCube.Proofs.MainLoop.Runs

namespace VoxelCube

open Display

/-- The effects of a cube in strokes: whatever an effect does to the frame buffer, it does by setting,
filling and clearing, and it chooses its strokes by what it is told and by what it reads. -/
structure Painter {ω : Type} (c : Cube ω) where
  strokes : Cue ω → List Stroke
  paints : ∀ cue, c.effect? cue.number = some cue.effect →
    cue.painted = (strokes cue).foldl Stroke.paint cue.frame

namespace Painter

variable {ω : Type} {c : Cube ω} (p : Painter c)

/-- What happens to the frame buffer, act by act. -/
def acts : Happening ω → List Act
  | .swap _ => [.swap]
  | .cue _ cue =>
    match cue.phase with
    | .init => .prepare :: ((p.strokes cue).map (.stroke .first) ++ [.commit cue.effect.flip])
    | .draw => (p.strokes cue).map (.stroke (.later cue.effect.flip)) ++ [.finish]
  | .choice _ => []
  | .reset => []

/-- The frame buffer after what happened, with what is remembered of it. -/
def stage (log : List (Happening ω)) : Stage := ({} : Stage).run (log.flatMap p.acts)

theorem sparesGate (p : Painter c) : c.SparesGate := by
  intro cue found
  rw [p.paints cue found, Stroke.mayFlip_paint]

/-! ## The frame buffer in a run -/

variable {p} {log more : List (Happening ω)} {l : MainLoop ω} {effect : Effect ω}

/-- The frame buffer is the one that the acts so far make, each of which was due. -/
structure Staged (p : Painter c) (log : List (Happening ω)) (f : FrameBuffer) : Prop where
  admitted : ({} : Stage).Admits (log.flatMap p.acts)
  frame : (p.stage log).frame = f
  between : (p.stage log).beginning = false

theorem stage_append (log more : List (Happening ω)) :
    p.stage (log ++ more) = (p.stage log).run (more.flatMap p.acts) := by
  unfold stage
  rw [List.flatMap_append, Stage.run_append]

theorem Staged.append {f g : FrameBuffer} (h : p.Staged log f)
    (admits : (p.stage log).Admits (more.flatMap p.acts))
    (frame : ((p.stage log).run (more.flatMap p.acts)).frame = g)
    (between : ((p.stage log).run (more.flatMap p.acts)).beginning = false) :
    p.Staged (log ++ more) g := by
  refine ⟨?_, ?_, ?_⟩
  · rw [List.flatMap_append]
    exact Stage.admits_append.mpr ⟨h.admitted, admits⟩
  · rw [stage_append]
    exact frame
  · rw [stage_append]
    exact between

/-- An effect begins: what it paints is put in front when it is complete. -/
theorem Staged.begin (h : p.Staged log l.frame) (found : c.effect? l.device.effect = some effect) :
    p.Staged (log ++ (c.traceInit l).1) (c.initEffect l).frame ∧
      (p.stage (log ++ (c.traceInit l).1)).policy = some effect.flip := by
  let cue := Cube.initCue effect l
  have frame : (c.initEffect l).frame = cue.painted.commitInitialFrame effect.flip := by
    unfold Cube.initEffect
    dsimp only
    rw [found]
    rfl
  have acts : (c.traceInit l).1.flatMap p.acts =
      .prepare :: ((p.strokes cue).map (.stroke .first) ++ [.commit effect.flip]) := by
    rw [Cube.traceInit_of_found found]
    exact List.append_nil _
  have prepared : ((p.stage log).step .prepare).frame = cue.frame := by
    unfold Stage.step
    dsimp only
    rw [h.frame]
    rfl
  -- preparing, painting and committing come to what `initEffect` does
  have run : (p.stage log).run ((c.traceInit l).1.flatMap p.acts) =
      { (p.stage log) with
        frame := (c.initEffect l).frame, beginning := false, policy := some effect.flip } := by
    rw [acts]
    show ((p.stage log).step .prepare).run _ = _
    rw [Stage.run_append, Stage.run_strokes, prepared, frame, p.paints cue found]
    rfl
  constructor
  · refine h.append ?_ ?_ ?_
    · rw [acts]
      refine ⟨h.between, Stage.admits_append.mpr ⟨Stage.admits_first rfl _, ?_⟩⟩
      rw [Stage.run_strokes]
      exact ⟨rfl, trivial⟩
    · rw [run]
    · rw [run]
  · rw [stage_append, run]

/-- An effect draws, if it is not a still one, by the policy of the effect that began last. -/
theorem Staged.draw (h : p.Staged log l.frame) (found : c.effect? l.device.effect = some effect)
    (began : (p.stage log).policy = some effect.flip) (closed : l.frame.mayFlip = false)
    (ticks : UInt16) :
    p.Staged (log ++ (c.traceDraw ticks l).1) (c.drawAt ticks l).2.frame ∧
      (p.stage (log ++ (c.traceDraw ticks l).1)).policy = some effect.flip := by
  rw [Cube.traceDraw_of_found ticks found]
  unfold Cube.drawAt
  rw [found]
  dsimp only
  split
  · let cue := Cube.drawCue effect ticks l
    have acts : [Happening.cue l.device cue].flatMap p.acts =
        (p.strokes cue).map (.stroke (.later effect.flip)) ++ [.finish] := List.append_nil _
    have run : (p.stage log).run ([Happening.cue l.device cue].flatMap p.acts) =
        { (p.stage log) with
          frame := cue.painted.allowFlip true, finished := some cue.painted.drawn } := by
      rw [acts, Stage.run_append, Stage.run_strokes, h.frame, p.paints cue found]
      rfl
    constructor
    · refine h.append ?_ ?_ ?_
      · rw [acts]
        refine Stage.admits_append.mpr ⟨Stage.admits_later h.between began ?_ _, ?_⟩
        · rw [h.frame]
          exact closed
        · rw [Stage.run_strokes]
          exact ⟨h.between, trivial⟩
      · rw [run]
        rfl
      · rw [run]
        exact h.between
    · rw [stage_append, run]
      exact began
  · rw [List.append_nil]
    exact ⟨h, began⟩

/-! ## The main loop in a run -/

/-- The frame buffer is the one that the acts so far make; where nothing has to begin first, the
effect that runs is the one that began last, and the stage remembers its policy. -/
structure Shows (p : Painter c) (log : List (Happening ω)) (l : MainLoop ω) : Prop where
  reached : Reachable c l
  staged : p.Staged log l.frame
  continues : ∃ began, l.device.Continues began ∧ ∀ n, began = some n →
    ∃ effect, c.effect? n = some effect ∧ (p.stage log).policy = some effect.flip

theorem Shows.around (h : p.Shows log l) {l' : MainLoop ω} (device : l'.device = l.device)
    (frame : l'.frame = l.frame) : p.Shows log l' := by
  refine ⟨h.reached.around device, ?_, ?_⟩
  · rw [frame]
    exact h.staged
  · rw [device]
    exact h.continues

/-- What does not touch the frame buffer may happen. -/
theorem Shows.quiet (h : p.Shows log l) (still : more.flatMap p.acts = []) : p.Shows (log ++ more) l := by
  have acts : (log ++ more).flatMap p.acts = log.flatMap p.acts := by
    rw [List.flatMap_append, still, List.append_nil]
  have stage : p.stage (log ++ more) = p.stage log := congrArg ({} : Stage).run acts
  refine ⟨h.reached, ⟨?_, ?_, ?_⟩, ?_⟩
  · rw [acts]
    exact h.staged.admitted
  · rw [stage]
    exact h.staged.frame
  · rw [stage]
    exact h.staged.between
  · rw [stage]
    exact h.continues

theorem acts_ofChoice? (choice : Option Choice) : (Happening.ofChoice? choice).flatMap p.acts = [] := by
  cases choice <;> rfl

theorem Shows.perform (h : p.Shows log l) {op : Operation ω} (still : op ≠ .advance) :
    p.Shows (log ++ Happening.ofChoice? (c.choice? op l.toMachine))
      { l with toMachine := c.perform op l.toMachine } := by
  obtain ⟨reached, staged, began, continues, policy⟩ := h.quiet (p.acts_ofChoice? (c.choice? op l.toMachine))
  exact ⟨reached.perform op, staged, began, continues.perform still, policy⟩

theorem shows_begin (reached : Reachable c l) (staged : p.Staged log l.frame) :
    p.Shows (log ++ (c.traceInit l).1) (c.initEffect l) := by
  obtain ⟨effect, found⟩ := reached.runs
  obtain ⟨begun, policy⟩ := staged.begin found
  refine ⟨reached.begin, begun, some l.device.effect, ?_, ?_⟩
  · intro _ _ _
    rw [c.initEffect_device]
  · rintro n ⟨⟩
    exact ⟨effect, found, policy⟩

theorem Shows.draw (h : p.Shows log l) (settled : l.device.Settled) (closed : l.frame.mayFlip = false)
    (ticks : UInt16) : p.Shows (log ++ (c.traceDraw ticks l).1) (c.drawAt ticks l).2 := by
  obtain ⟨began, continues, policy⟩ := h.continues
  -- a settled device runs the effect that began last, so its policy is the one on the stage
  have running := continues settled.rendering (by rw [settled.clean]; rfl) settled.begun
  obtain ⟨effect, found, flip⟩ := policy l.device.effect running
  obtain ⟨staged, same⟩ := h.staged.draw found flip closed ticks
  refine ⟨h.reached.drawAt ticks, staged, began, ?_, ?_⟩
  · rw [(c.drawAt_shell l ticks).1]
    exact continues
  · rintro n ran
    rw [running] at ran
    cases ran
    exact ⟨effect, found, same⟩

theorem Shows.swap (h : p.Shows log l) (taken : Bool) :
    p.Shows (log ++ [.swap taken]) { l with frame := l.frame.swap.2 } := by
  have same : (p.stage (log ++ [.swap taken])).policy = (p.stage log).policy := by
    rw [stage_append]
    rfl
  obtain ⟨began, continues, policy⟩ := h.continues
  refine ⟨h.reached.around rfl, h.staged.append ?_ ?_ ?_, began, continues, ?_⟩
  · exact ⟨h.staged.between, trivial⟩
  · exact congrArg (fun f : FrameBuffer => f.swap.2) h.staged.frame
  · exact h.staged.between
  · rw [same]
    exact policy

theorem runKeeps (p : Painter c) : c.RunKeeps p.Shows where
  new world := by
    refine ⟨.new world, ⟨trivial, rfl, rfl⟩, none, ?_, ?_⟩
    · intro _ clean
      cases clean
    · intro n began
      cases began
  perform h still := h.perform still
  around h device frame _ := h.around device frame
  swap h := h.swap _
  begin h _ _ := shows_begin h.reached h.staged
  -- the playlist moves on, and the effect of its next entry begins at once
  next {log l} h _ _ := by
    have moved := h.quiet (p.acts_ofChoice? (c.choice? .advance l.toMachine))
    rw [← List.append_assoc]
    exact shows_begin (h.reached.perform .advance) moved.staged
  draw {log l} h due := by
    have read : p.Shows log (c.readTicks l).2 := h.around rfl rfl
    exact read.draw due.settled (due.closed p.sparesGate) _

theorem shows_of_watched (p : Painter c) (run : Watched c log l) : p.Shows log l := run.keeps p.runKeeps

end Painter

variable {ω : Type} {c : Cube ω} {log : List (Happening ω)} {l : MainLoop ω}

/-- **Freedom from tearing.** In every run, the acts make the frame buffer of the main loop, and every
act is lawful where it happens: the voxels shown change only at a swap, which shows the frame that was
finished last, when an effect began, whose first frame is shown as it was painted, and under the
strokes of a later frame that is drawn in place. Whenever no effect is about to begin, as between
turns, both roles are on one arena exactly when the effect that began last draws in place. -/
theorem no_tearing (p : Painter c) (run : Watched c log l) :
    (p.stage log).frame = l.frame ∧
    (∀ before act after, log.flatMap p.acts = before ++ act :: after →
      (({} : Stage).run before).Lawful act) ∧
    (∀ before after, log.flatMap p.acts = before ++ after →
      (({} : Stage).run before).beginning = false →
      ((({} : Stage).run before).frame.isAliased = true ↔
        (({} : Stage).run before).policy = some .noFlip)) ∧
    (p.stage log).beginning = false := by
  have staged := (p.shows_of_watched run).staged
  refine ⟨staged.frame, fun before act after split => ?_, fun before after split settled => ?_,
    staged.between⟩
  · have admitted := staged.admitted
    rw [split] at admitted
    exact Stage.Sound.start.lawful_of_admits admitted
  · have admitted := staged.admitted
    rw [split] at admitted
    exact (Stage.Sound.start.run (Stage.admits_append.mp admitted).1).roles settled

namespace Bench

/-- Each effect of the sample cube makes one stroke: it begins with its number, and counts its frames. -/
def samplePainter : Painter sampleCube where
  strokes cue :=
    match cue.phase with
    | .init => [.set 0 0 0 (UInt16.ofNat (cue.number.toNat + 1))]
    | .draw => [.set 1 0 0 (asIntensity (countRun .draw cue.number.toNat cue.world.world).1)]
  paints cue found := by
    obtain ⟨⟨phase, number, scene⟩, effect, frame, world⟩ := cue
    have numbered : sampleEffects[number.toNat]? = some effect := found
    obtain ⟨info, animated, rfl⟩ := scripted_of_sampleEffects numbered
    have stroke : ∀ x intensity, (written frame (frame.set x 0 0 intensity)).2 =
        (frame.set x 0 0 intensity).toOption.getD frame := by
      intro x intensity
      cases frame.set x 0 0 intensity <;> rfl
    cases phase with
    | init => exact stroke 0 _
    | draw => exact stroke 1 _

/-- The sample cube after it booted to play. -/
def bootedLoop : MainLoop World :=
  let l := sampleCube.mainLoop
    { world := { records := #v[some [Mode.playlist.code], none, none, none, none] } }
  { l with toMachine := sampleCube.perform .boot l.toMachine }

theorem bootedLoop_watched : Watched sampleCube [] bootedLoop := by
  have still : (Operation.boot : Operation World) ≠ .advance := by
    rintro ⟨⟩
  exact (Watched.new _).perform still

/-- The booted loop after a turn, whose frame the display took; now it runs the effect text, which
draws in place. -/
def textLoop : MainLoop World :=
  let l := (sampleCube.step bootedLoop).2
  { l with toMachine := sampleCube.perform (.changeEffect 4) l.toMachine, frame := l.frame.swap.2 }

/-- What happened up to the first turn of the effect text. -/
def textLog : List (Happening World) :=
  (sampleCube.traceTurn bootedLoop).1 ++ [.swap (sampleCube.step bootedLoop).2.frame.swap.1] ++
    [.choice (.effect 4)] ++ (sampleCube.traceTurn textLoop).1

theorem textLog_watched : Watched sampleCube textLog (sampleCube.step textLoop).2 := by
  have still : (Operation.changeEffect 4 : Operation World) ≠ .advance := by
    rintro ⟨⟩
  exact (bootedLoop_watched.turn.swap.perform still).turn

/-- At the end of the run the effect text draws in place, with both roles on one arena. -/
theorem textLoop_draws_in_place :
    (samplePainter.stage textLog).frame = (sampleCube.step textLoop).2.frame ∧
      (sampleCube.step textLoop).2.frame.isAliased = true := by
  obtain ⟨frame, -, roles, between⟩ := no_tearing samplePainter textLog_watched
  have policy : (samplePainter.stage textLog).policy = some .noFlip := by decide +kernel
  have aliased := (roles _ [] (List.append_nil _).symm between).mpr policy
  refine ⟨frame, ?_⟩
  rw [← frame]
  exact aliased

end Bench

end VoxelCube
