/-
The pace of an effect. Between two of its frames at least its interval passes, though the earliest tick
of the next frame is kept in a word that stops at its largest value, as the counter does. No frame is
drawn at that value, from which no later tick can be told: a turn that finds the counter there begins an
effect again, and with it the counter.
-/
import Mathlib.Data.List.Basic
import VoxelCube.Proofs.MainLoop.Reel
import VoxelCube.Proofs.MainLoop.Tearing

namespace VoxelCube

/-! ## The earliest tick of the next frame -/

theorem Cube.saturatingAdd_toNat (a b : UInt16) :
    (Cube.saturatingAdd a b).toNat = min (a.toNat + b.toNat) 65535 := by
  unfold Cube.saturatingAdd
  rw [UInt16.toNat_ofNat']
  omega

namespace Happening

variable {ω : Type}

/-- The earliest tick of the next frame, if it was `bound` before this happened: an effect that began
may draw at once, one that drew has to let its interval pass. -/
def earliest (bound : Nat) : Happening ω → Nat
  | .cue _ told =>
    match told.phase with
    | .init => 0
    | .draw => max bound (told.scene.ticks.toNat + told.effect.minimumTicks.toNat)
  | .choice _ => bound
  | .reset => bound
  | .swap _ => bound

/-- The earliest tick of the next frame after all this happened. -/
def earliestAfter (log : List (Happening ω)) : Nat := log.foldl earliest 0

/-- A frame is drawn at the tick that the counter tells, which is not its last one, and not before the
earliest tick, as far as a word can tell. -/
def Timely (c : Cube ω) (before : List (Happening ω)) : Happening ω → Prop
  | .cue _ told => told.phase = .draw →
    told.scene.ticks = c.board.ticks told.world ∧ told.scene.ticks ≠ 65535 ∧
      min (earliestAfter before) 65535 ≤ told.scene.ticks.toNat
  | .choice _ => True
  | .reset => True
  | .swap _ => True

variable {log more : List (Happening ω)}

theorem earliestAfter_push (happening : Happening ω) :
    earliestAfter (log ++ [happening]) = happening.earliest (earliestAfter log) := List.foldl_concat ..

theorem earliestAfter_choice (choice : Option Choice) :
    earliestAfter (log ++ ofChoice? choice) = earliestAfter log := by
  cases choice with
  | none => exact congrArg earliestAfter (List.append_nil log)
  | some choice => exact earliestAfter_push _

/-- As long as no effect begins, the earliest tick is never moved back. -/
theorem earliestAfter_le (runs : ∀ teller told, .cue teller told ∈ more → told.phase = .draw) :
    earliestAfter log ≤ earliestAfter (log ++ more) := by
  induction more generalizing log with
  | nil => exact Nat.le_of_eq (congrArg earliestAfter (List.append_nil log).symm)
  | cons happening rest ih =>
    have later : earliestAfter (log ++ [happening]) ≤ earliestAfter (log ++ happening :: rest) := by
      rw [List.append_cons log happening rest]
      exact ih fun teller told mem => runs teller told (.tail _ mem)
    refine Nat.le_trans ?_ later
    rw [earliestAfter_push]
    cases happening with
    | choice | reset | swap => exact Nat.le_refl _
    | cue teller told =>
      unfold earliest
      dsimp only
      rw [runs teller told (.head _)]
      exact Nat.le_max_left ..

end Happening

open Happening

variable {ω : Type} {c : Cube ω} {log : List (Happening ω)} {l : MainLoop ω}

/-! ## The counter -/

/-- A counter as a cube needs it. A reset takes it to zero, and from there it only runs forward, also
while the store and the serial line are asked. -/
structure Ticking (c : Cube ω) : Prop where
  reset : ∀ w, c.board.ticks (c.board.resetTicks w) = 0
  elapse : ∀ w, c.board.ticks w ≤ c.board.ticks (c.board.elapse w)
  read : ∀ key room w, c.board.ticks w ≤ c.board.ticks (c.board.read key room w).2
  receive : ∀ w, c.board.ticks w ≤ c.board.ticks (c.board.receive w).2

/-- From zero to the next reading the counter does not run through its whole range. -/
def Cube.Prompt (c : Cube ω) : Prop :=
  ∀ w, c.board.ticks w = 0 → c.board.ticks (c.board.elapse w) ≠ 65535

/-- A counter that stopped and did not go back is still there. -/
theorem last_of_le {a b : UInt16} (stopped : a = 65535) (later : a ≤ b) : b = 65535 := by
  rw [stopped, UInt16.le_iff_toNat_le] at later
  exact UInt16.toNat_inj.mp (Nat.le_antisymm (Nat.le_of_lt_succ (UInt16.toNat_lt _)) later)

namespace Ticking

/-- An effect that is due draws before the counter stops. -/
theorem running (ticking : Ticking c) (prompt : c.Prompt) (due : c.Due l) : (c.readTicks l).1 ≠ 65535 := by
  intro last
  obtain ⟨w, world⟩ := due.running last
  refine prompt l.world ?_ last
  rw [world]
  exact ticking.reset w

theorem readTicks_stopped (ticking : Ticking c) (stopped : c.board.ticks l.world = 65535) :
    (c.readTicks l).1 = 65535 := last_of_le stopped (ticking.elapse _)

/-- The counter is still stopped after the line was asked and changed settings were taken over. -/
theorem takeOver_stopped (ticking : Ticking c) (silent : (c.board.receive l.world).1 = none)
    (stopped : c.board.ticks l.world = 65535) :
    c.board.ticks (c.takeOver (c.processSerial l)).world = 65535 := by
  rw [c.processSerial_silent silent]
  exact c.sync_world _ (fun key room w stopped => last_of_le stopped (ticking.read key room w))
    (last_of_le stopped (ticking.receive l.world))

end Ticking

/-! ## The pace of a run -/

/-- What was drawn so far was timely, and what the main loop keeps is the earliest tick of the next frame,
or the largest that it can keep. -/
structure Paced (c : Cube ω) (log : List (Happening ω)) (l : MainLoop ω) : Prop where
  reached : Reachable c l
  timely : Along (Timely c) log
  next : min (earliestAfter log) 65535 ≤ l.nextDraw.toNat

namespace Paced

theorem around (h : Paced c log l) {l' : MainLoop ω} (device : l'.device = l.device)
    (next : l'.nextDraw = l.nextDraw) : Paced c log l' :=
  ⟨h.reached.around device, h.timely, next ▸ h.next⟩

theorem choice (h : Paced c log l) (choice : Option Choice) : Paced c (log ++ ofChoice? choice) l := by
  refine ⟨h.reached, h.timely.choice choice fun _ => trivial, ?_⟩
  rw [earliestAfter_choice]
  exact h.next

/-- An effect begins, and may draw at once. -/
theorem begin (reached : Reachable c l) (timely : Along (Timely c) log) :
    Paced c (log ++ (c.traceInit l).1) (c.initEffect l) := by
  obtain ⟨effect, found⟩ := reached.runs
  rw [Cube.traceInit_of_found found, List.append_cons]
  refine ⟨reached.begin, (timely.push ?_).push trivial, ?_⟩
  · rintro ⟨⟩
  · rw [earliestAfter_push, earliestAfter_push, c.initEffect_nextDraw]
    exact Nat.le_refl 0

/-- An effect draws when it is due, and a still one lets its interval pass as well. -/
theorem draw (h : Paced c log l) {ticks : UInt16} (told : ticks = c.board.ticks l.world)
    (running : ticks ≠ 65535) (passed : l.nextDraw ≤ ticks) :
    Paced c (log ++ (c.traceDraw ticks l).1) (c.drawAt ticks l).2 := by
  obtain ⟨effect, found⟩ := h.reached.runs
  have reached := h.reached.drawAt ticks
  have kept := h.next
  have next : (c.drawAt ticks l).2.nextDraw = Cube.saturatingAdd ticks effect.minimumTicks := by
    unfold Cube.drawAt
    rw [found]
    dsimp only
    split <;> rfl
  rw [UInt16.le_iff_toNat_le] at passed
  rw [Cube.traceDraw_of_found ticks found]
  split
  · refine ⟨reached, h.timely.push fun _ => ⟨told, running, ?_⟩, ?_⟩
    · dsimp only [Cube.drawCue, Cube.scene]
      omega
    · rw [earliestAfter_push, next, Cube.saturatingAdd_toNat]
      dsimp only [earliest, Cube.drawCue, Cube.scene]
      omega
  · rw [List.append_nil]
    refine ⟨reached, h.timely, ?_⟩
    rw [next, Cube.saturatingAdd_toNat]
    omega

theorem runKeeps (ticking : Ticking c) (prompt : c.Prompt) : c.RunKeeps (Paced c) where
  new world := ⟨.new world, along_nil, Nat.le_refl 0⟩
  perform {log l op} h _ := by
    obtain ⟨reached, timely, next⟩ := h.choice (c.choice? op l.toMachine)
    exact ⟨reached.perform op, timely, next⟩
  around h device _ next := h.around device next
  swap {log l} h := by
    refine ⟨h.reached.around rfl, h.timely.push trivial, ?_⟩
    rw [earliestAfter_push]
    exact h.next
  begin h _ _ := .begin h.reached h.timely
  next {log l} h _ _ := by
    rw [← List.append_assoc]
    exact .begin (h.reached.perform .advance) (h.choice _).timely
  draw {log l} h due := by
    have read : Paced c log (c.readTicks l).2 := h.around rfl rfl
    exact read.draw rfl (ticking.running prompt due) due.passed

end Paced

/-! ## The end of the counter -/

/-- An effect begins, and with it the counter. -/
def Restarted (log : List (Happening ω)) : Prop :=
  ∃ before teller began after, log = before ++ .cue teller began :: .reset :: after ∧ began.phase = .init

namespace Restarted

theorem traceInit (reached : Reachable c l) : Restarted (c.traceInit l).1 := by
  obtain ⟨effect, found⟩ := reached.runs
  rw [Cube.traceInit_of_found found]
  exact ⟨[], _, _, [], rfl, rfl⟩

theorem after (h : Restarted log) (front : List (Happening ω)) : Restarted (front ++ log) := by
  obtain ⟨before, teller, began, after, rfl, phase⟩ := h
  exact ⟨front ++ before, teller, began, after, (List.append_assoc ..).symm, phase⟩

theorem before (h : Restarted log) (more : List (Happening ω)) : Restarted (log ++ more) := by
  obtain ⟨before, teller, began, after, rfl, phase⟩ := h
  exact ⟨before, teller, began, after ++ more, List.append_assoc .., phase⟩

end Restarted

/-- In this turn an effect begins, the counter is reset, and the running effect draws unless it is a still
one. -/
structure Cube.Restarts (c : Cube ω) (l : MainLoop ω) : Prop where
  begins : Restarted (c.traceTurn l).1
  outcome : (c.step l).1 = .drew ∨ (c.step l).1 = .still

theorem drawFrame_outcome (reached : Reachable c l) :
    (c.drawFrame l).1 = .drew ∨ (c.drawFrame l).1 = .still := by
  obtain ⟨effect, found⟩ := reached.runs
  rw [c.drawFrame_eq]
  unfold Cube.drawAt
  rw [show c.effect? (c.readTicks l).2.device.effect = some effect from found]
  dsimp only
  split
  · exact .inl rfl
  · exact .inr rfl

/-- The running effect may draw at once. -/
structure Cube.Ready (c : Cube ω) (l : MainLoop ω) : Prop where
  reached : Reachable c l
  closed : l.frame.mayFlip = false
  next : l.nextDraw = 0

namespace Cube.Ready

theorem begin (spares : c.SparesGate) (reached : Reachable c l) : c.Ready (c.initEffect l) :=
  ⟨reached.begin, spares.initEffect l, c.initEffect_nextDraw l⟩

theorem read (h : c.Ready l) : c.Ready (c.readTicks l).2 := ⟨h.reached.around rfl, h.closed, h.next⟩

theorem expireEntry (spares : c.SparesGate) (h : c.Ready l) : c.Ready (c.expireEntry l) := by
  rw [expireEntry_eq]
  split
  · exact .begin spares (h.read.reached.perform .advance)
  · exact h.read

theorem render (h : c.Ready l) : (c.render l).1 = .drew ∨ (c.render l).1 = .still := by
  have closed : ¬l.frame.mayFlip = true := by
    rw [h.closed]
    exact Bool.false_ne_true
  have passed : ¬(c.readTicks l).1 < l.nextDraw := by
    rw [h.next, UInt16.not_lt]
    exact UInt16.zero_le
  rw [render_eq, if_neg closed, if_neg passed]
  split
  · exact drawFrame_outcome h.read.reached.begin
  · exact drawFrame_outcome h.reached

end Cube.Ready

/-- At the end of the counter the running effect begins again and draws. -/
theorem traceRender_stopped (closed : l.frame.mayFlip = false) (stopped : (c.readTicks l).1 = 65535) :
    c.traceRender l = ((c.traceInit (c.readTicks l).2).1 ++ (c.traceFrame (c.initEffect (c.readTicks l).2)).1,
      c.drawFrame (c.initEffect (c.readTicks l).2)) := by
  have late : ¬(65535 : UInt16) < l.nextDraw := by
    rw [UInt16.not_lt, UInt16.le_iff_toNat_le]
    exact Nat.le_of_lt_succ l.nextDraw.toNat_lt
  rw [Cube.traceRender_eq]
  dsimp only
  rw [stopped, closed, if_neg Bool.false_ne_true, if_neg late, if_pos rfl, Cube.traceInit_snd,
    Cube.traceFrame_snd]

theorem render_stopped (reached : Reachable c l) (closed : l.frame.mayFlip = false)
    (stopped : (c.readTicks l).1 = 65535) :
    Restarted (c.traceRender l).1 ∧ ((c.render l).1 = .drew ∨ (c.render l).1 = .still) := by
  have read : Reachable c (c.readTicks l).2 := reached.around rfl
  rw [← Cube.traceRender_snd, traceRender_stopped closed stopped]
  exact ⟨(Restarted.traceInit read).before _, drawFrame_outcome read.begin⟩

namespace Ticking

variable (ticking : Ticking c) (spares : c.SparesGate) (reached : Reachable c l)
include ticking spares reached

/-- While a playlist plays, the effect of its next entry begins, or the running one begins again. -/
theorem play_stopped (closed : l.frame.mayFlip = false) (stopped : c.board.ticks l.world = 65535) :
    Restarted ((c.traceExpire l).1 ++ (c.traceRender (c.expireEntry l)).1) ∧
      ((c.render (c.expireEntry l)).1 = .drew ∨ (c.render (c.expireEntry l)).1 = .still) := by
  have read : Reachable c (c.readTicks l).2 := reached.around rfl
  have last := ticking.readTicks_stopped stopped
  rw [Cube.traceExpire_eq, Cube.expireEntry_eq]
  dsimp only
  split
  · have moved : Reachable c (c.moveOn (c.readTicks l).2) := read.perform .advance
    exact ⟨((Restarted.traceInit moved).after _).before _, (Cube.Ready.begin spares moved).render⟩
  · exact render_stopped read closed (ticking.readTicks_stopped last)

/-- Where the counter stopped, an effect begins: one that had to begin, the next one of the playlist, or
the one that runs. -/
theorem present_stopped (rendering : l.device.mode.isRendering = true) (closed : l.frame.mayFlip = false)
    (stopped : c.board.ticks l.world = 65535) : Restarted (c.tracePresent l).1 ∧
      ((c.present l).1 = .drew ∨ (c.present l).1 = .still) := by
  rw [Cube.tracePresent_fst]
  unfold Cube.present Cube.traceMarked Cube.beginMarked
  rw [rendering, Bool.and_true]
  by_cases marked : l.device.needsInit = true
  · -- the effect that had to begin does, and may draw at once
    have begun : c.Ready (c.initEffect l) := .begin spares reached
    rw [if_pos marked, if_pos marked]
    refine ⟨(Restarted.traceInit reached).before _, ?_⟩
    cases mode : l.device.mode with
    | sleep | idle =>
      rw [mode] at rendering
      cases rendering
    | playlist => exact (begun.expireEntry spares).render
    | effect => exact begun.render
  · rw [if_neg marked, if_neg marked, List.nil_append]
    cases mode : l.device.mode with
    | sleep | idle =>
      rw [mode] at rendering
      cases rendering
    | playlist => exact ticking.play_stopped spares reached closed stopped
    | effect => exact render_stopped reached closed (ticking.readTicks_stopped stopped)

/-- A turn that finds the counter stopped begins an effect. -/
theorem restarts (rendering : l.device.mode.isRendering = true) (closed : l.frame.mayFlip = false)
    (silent : (c.board.receive l.world).1 = none) (stopped : c.board.ticks l.world = 65535) :
    c.Restarts l := by
  have still := ticking.takeOver_stopped silent stopped
  have ready : Reachable c (c.takeOver (c.processSerial l)) := reached.processSerial.perform .sync
  have served := c.processSerial_silent silent
  have waiting : (c.takeOver (c.processSerial l)).frame.mayFlip = false := by
    rw [served]
    exact closed
  have mode : (c.takeOver (c.processSerial l)).device.mode = l.device.mode := by
    rw [served]
    exact (c.sync_shell _).1
  obtain ⟨begins, outcome⟩ := ticking.present_stopped spares ready (mode ▸ rendering) waiting still
  exact ⟨c.traceTurn_fst l ▸ begins.after _, outcome⟩

end Ticking

/-! ## Runs -/

/-- **Pacing.** The trace of a turn tells what the turn does, and in every run, an effect that draws twice
without an effect beginning in between lets its whole interval pass, counted without a bound; every frame
is drawn at the tick that the counter tells, and never at the last one that it can tell. A cube that finds
its counter there, while it renders, no frame waits and the line is silent, begins an effect, resets the
counter, and draws unless the effect is a still one. -/
theorem draws_keep_pace (ticking : Ticking c) (prompt : c.Prompt) (spares : c.SparesGate)
    (run : Watched c log l) :
    c.Faithful ∧
    (∀ before teller first between teller' second after,
      log = before ++ .cue teller first :: between ++ .cue teller' second :: after →
      first.phase = .draw → second.phase = .draw →
      (∀ teller cue, .cue teller cue ∈ between → cue.phase = .draw) →
      first.scene.ticks.toNat + first.effect.minimumTicks.toNat ≤ second.scene.ticks.toNat) ∧
    (∀ teller cue, .cue teller cue ∈ log → cue.phase = .draw →
      cue.scene.ticks = c.board.ticks cue.world ∧ cue.scene.ticks ≠ 65535) ∧
    (l.device.mode.isRendering = true → l.frame.mayFlip = false →
      (c.board.receive l.world).1 = none → c.board.ticks l.world = 65535 → c.Restarts l) := by
  have timely := (run.keeps (Paced.runKeeps ticking prompt)).timely
  refine ⟨c.faithful, fun before teller first between teller' second after split draws again alone => ?_,
    fun teller cue mem draws => ?_, ticking.restarts spares run.reachable⟩
  · obtain ⟨-, running, waited⟩ := timely _ _ _ split again
    have inside : second.scene.ticks.toNat < 65535 :=
      Nat.lt_of_le_of_ne (Nat.le_of_lt_succ second.scene.ticks.toNat_lt) fun last =>
        running (UInt16.toNat_inj.mp last)
    -- the second frame was due after the first one, and nothing in between moved that back
    have kept : earliestAfter (before ++ [.cue teller first]) ≤
        earliestAfter (before ++ .cue teller first :: between) := by
      rw [List.append_cons before _ between]
      exact earliestAfter_le alone
    have moved : first.scene.ticks.toNat + first.effect.minimumTicks.toNat ≤
        earliestAfter (before ++ [.cue teller first]) := by
      rw [earliestAfter_push]
      unfold earliest
      dsimp only
      rw [draws]
      exact Nat.le_max_right ..
    omega
  · obtain ⟨before, after, split⟩ := List.append_of_mem mem
    obtain ⟨told, running, -⟩ := timely _ _ _ split draws
    exact ⟨told, running⟩

namespace Bench

/-- The counter of the sample cube moves by a reset only, and by what happens around it. -/
theorem sampleTicking : Ticking sampleCube where
  reset _ := rfl
  elapse _ := UInt16.le_refl _
  read key room w := by
    have same : sampleCube.board.ticks (sampleCube.board.read key room w).2 = sampleCube.board.ticks w :=
      congrArg Memory.ticks (Memory.read_snd key room w.world)
    exact same ▸ UInt16.le_refl _
  receive w := by
    have same : sampleCube.board.ticks (sampleCube.board.receive w).2 = sampleCube.board.ticks w := by
      show (Memory.receive w.world).2.ticks = w.world.ticks
      unfold Memory.receive
      split
      · rfl
      · split <;> rfl
    exact same ▸ UInt16.le_refl _

theorem samplePrompt : sampleCube.Prompt := by
  intro w begun
  have same : sampleCube.board.ticks (sampleCube.board.elapse w) = 0 := begun
  rw [same]
  decide

/-- The booted loop after its first turn, with its frame taken, at a tick. -/
def agedLoop (l : MainLoop World) (ticks : UInt16) : MainLoop World :=
  let l := (sampleCube.step l).2
  { l with frame := l.frame.swap.2, world := { l.world with world := { l.world.world with ticks } } }

/-- What happened in two turns of the sample cube, the second at tick two. -/
def pacedLog : List (Happening World) :=
  (sampleCube.traceTurn bootedLoop).1 ++ [.swap (sampleCube.step bootedLoop).2.frame.swap.1] ++
    (sampleCube.traceTurn (agedLoop bootedLoop 2)).1 ++
      [.swap (sampleCube.step (agedLoop bootedLoop 2)).2.frame.swap.1]

theorem agedLoop_watched {log : List (Happening World)} {l : MainLoop World}
    (run : Watched sampleCube log l) (ticks : UInt16) :
    Watched sampleCube (log ++ (sampleCube.traceTurn l).1 ++ [.swap (sampleCube.step l).2.frame.swap.1])
      (agedLoop l ticks) := run.turn.swap.around _

theorem pacedLog_watched : Watched sampleCube pacedLog (agedLoop (agedLoop bootedLoop 2) 65535) :=
  agedLoop_watched (agedLoop_watched bootedLoop_watched 2) 65535

/-- The first turn begins the effect sine and draws, the second only draws. -/
theorem pacedLog_draws : ∃ before teller first between teller' second after,
    pacedLog = before ++ .cue teller first :: between ++ .cue teller' second :: after ∧
      first.phase = .draw ∧ second.phase = .draw ∧ ∀ teller cue, .cue teller cue ∉ between := by
  have takes : pacedLog.map Happening.take? =
      [none, some ⟨.init, 0, ⟨0, none, []⟩⟩, none, some ⟨.draw, 0, ⟨0, none, []⟩⟩, none] ++
        some ⟨.draw, 0, ⟨2, none, []⟩⟩ :: [none] := by decide +kernel
  obtain ⟨front, teller', second, after, log, early, again, -⟩ := exists_of_take? takes
  have begun : front.map Happening.take? = [_, _, _] ++ _ :: _ := early
  obtain ⟨before, teller, first, between, rfl, -, draws, quiet⟩ := exists_of_take? begun
  refine ⟨before, teller, first, between, teller', second, after, log, ?_, ?_, fun teller cue mem => ?_⟩
  · rw [draws]
  · rw [again]
  · have told := List.mem_map_of_mem (f := Happening.take?) mem
    rw [quiet] at told
    cases List.mem_singleton.mp told

/-- The effect sine draws at ticks zero and two, as it recorded, and the next entry begins when the counter
stopped. -/
theorem agedLoop_keeps_pace :
    (sampleReel.takes (agedLoop (agedLoop bootedLoop 2) 65535).world).map
      (fun take => (take.phase, take.scene.ticks)) = [(.init, 0), (.draw, 0), (.draw, 2)] ∧
    (∃ before teller first between teller' second after,
      pacedLog = before ++ .cue teller first :: between ++ .cue teller' second :: after ∧
      first.phase = .draw ∧ second.phase = .draw ∧
      first.scene.ticks.toNat + first.effect.minimumTicks.toNat ≤ second.scene.ticks.toNat ∧
      second.scene.ticks ≠ 65535) ∧
    sampleCube.Restarts (agedLoop (agedLoop bootedLoop 2) 65535) := by
  obtain ⟨-, paced, told, restarts⟩ :=
    draws_keep_pace sampleTicking samplePrompt samplePainter.sparesGate pacedLog_watched
  obtain ⟨before, teller, first, between, teller', second, after, log, draws, again, still⟩ := pacedLog_draws
  refine ⟨by decide +kernel, ⟨before, teller, first, between, teller', second, after, log, draws, again,
    paced _ _ _ _ _ _ _ log draws again ?_, ?_⟩, ?_⟩
  · exact fun teller cue mem => absurd mem (still teller cue)
  · exact (told teller' second (by rw [log]; simp) again).2
  · exact restarts (by decide +kernel) (by decide +kernel) (by decide +kernel) (by decide +kernel)

end Bench

end VoxelCube
