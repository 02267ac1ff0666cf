/-
Beginning before drawing. An effect that draws is the one that began last, and nothing was chosen since:
whatever chooses marks the device to begin an effect or begins one at once, and the mark is used up only
by a beginning. What an effect is told follows from the same choices: a device that plays is at the entry
whose effect runs, and an effect that runs alone is told no data.
-/
import VoxelCube.Proofs.MainLoop.Pacing

namespace VoxelCube

open Playlist

/-! ## What an effect is told -/

/-- A cue goes to the running effect of the device that gives it. It tells the data of the entry that
plays, or none to an effect that runs alone. -/
structure Told {ω : Type} (c : Cube ω) (teller : Device) (cue : Cue ω) : Prop where
  rendering : teller.mode.isRendering = true
  number : cue.number = teller.effect
  effect : c.effect? cue.number = some cue.effect
  playing : teller.mode = .playlist → ∃ entry,
    c.playlists.master[teller.selector.index.toNat]? = some entry ∧ entry.effect = cue.number ∧
      cue.scene.data = entry.data
  alone : teller.mode = .effect → cue.scene.data = none

variable {ω : Type} {c : Cube ω} {l : MainLoop ω} {log : List (Happening ω)}

/-- A settled device tells an effect what belongs to it. -/
theorem told_of_settled (reached : Reachable c l) (alone : l.device.Alone)
    (rendering : l.device.mode.isRendering = true) (clean : l.device.dirty = .none) {cue : Cue ω}
    (number : cue.number = l.device.effect) (effect : c.effect? l.device.effect = some cue.effect)
    (data : cue.scene.data = l.device.selector.data) : Told c l.device cue := by
  have settled : l.device.dirty.mode = false := by rw [clean]; rfl
  refine ⟨rendering, number, number ▸ effect, fun playing => ?_, fun running => ?_⟩
  · obtain ⟨entry, found, runs, -, kept⟩ := reached.selected.plays playing settled
    exact ⟨entry, found, runs.trans number.symm, data.trans kept.symm⟩
  · exact data.trans (alone running settled)

/-! ## The effect that began last -/

/-- Nothing is chosen and no effect begins. -/
def Happening.GoesOn : Happening ω → Prop
  | .choice _ => False
  | .cue _ told => told.phase = .draw
  | .reset => True
  | .swap _ => True

/-- The effect of a cue began for a device that selects as this one, and since then nothing was chosen and
no effect began. -/
structure BeganFor (log : List (Happening ω)) (d : Device) (teller : Device) (cue : Cue ω) : Prop where
  since : ∃ front between, log = front ++ .cue teller cue :: between ∧
    ∀ happening ∈ between, happening.GoesOn
  phase : cue.phase = .init
  number : cue.number = d.effect
  selection : teller.selection = d.selection

namespace BeganFor

variable {d d' teller : Device} {cue : Cue ω}

theorem keep (h : BeganFor log d teller cue) (same : d'.selection = d.selection) :
    BeganFor log d' teller cue := by
  refine ⟨h.since, h.phase, ?_, h.selection.trans same.symm⟩
  exact h.number.trans (congrArg Prod.fst same).symm

theorem push (h : BeganFor log d teller cue) {happening : Happening ω} (goes : happening.GoesOn) :
    BeganFor (log ++ [happening]) d teller cue := by
  obtain ⟨front, between, split, went⟩ := h.since
  refine ⟨⟨front, between ++ [happening], ?_, ?_⟩, h.phase, h.number, h.selection⟩
  · rw [split, List.append_assoc, List.cons_append]
  · intro other mem
    rcases List.mem_append.mp mem with old | new
    · exact went other old
    · rw [List.mem_singleton.mp new]
      exact goes

end BeganFor

/-- A cue stands in a log as it should: it tells what belongs to the effect, and lets only an effect draw
that began last. -/
def Happening.Stands (c : Cube ω) (before : List (Happening ω)) : Happening ω → Prop
  | .cue teller told => Told c teller told ∧ (told.phase = .draw →
      ∃ teller' began, BeganFor before teller teller' began ∧ began.effect = told.effect)
  | .choice _ => True
  | .reset => True
  | .swap _ => True

/-- All cues stand as they should; where nothing has to begin first, an effect began for the device. -/
structure Orderly (c : Cube ω) (log : List (Happening ω)) (l : MainLoop ω) : Prop where
  reached : Reachable c l
  alone : l.device.Alone
  stands : Along (Happening.Stands c) log
  began : l.device.mode.isRendering = true → l.device.dirty.mode = false → l.device.needsInit = false →
    ∃ teller cue, BeganFor log l.device teller cue ∧ c.effect? l.device.effect = some cue.effect

namespace Orderly

theorem around (h : Orderly c log l) {l' : MainLoop ω} (device : l'.device = l.device) :
    Orderly c log l' := by
  refine ⟨h.reached.around device, ?_, h.stands, ?_⟩
  · rw [device]
    exact h.alone
  · rw [device]
    exact h.began

theorem perform (h : Orderly c log l) {op : Operation ω} (still : op ≠ .advance) :
    Orderly c (log ++ Happening.ofChoice? (c.choice? op l.toMachine))
      { l with toMachine := c.perform op l.toMachine } := by
  refine ⟨h.reached.perform op, h.alone.perform still, h.stands.choice _ fun _ => trivial, ?_⟩
  have chosen := c.perform_chooses op l.toMachine
  have unmoved := c.choice?_ne_next still l.toMachine
  generalize c.choice? op l.toMachine = choice at chosen unmoved
  intro rendering clean ready
  dsimp only at rendering clean ready ⊢
  cases chosen with
  | stays same =>
    obtain ⟨mode, settled⟩ := same.mode rendering clean
    obtain ⟨teller, cue, began, found⟩ := h.began (mode ▸ rendering) settled (same.needsInit ▸ ready)
    refine ⟨teller, cue, ?_, ?_⟩
    · rw [Happening.ofChoice?, Option.toList_none, List.map_nil, List.append_nil]
      exact began.keep same.selection
    · rw [same.effect]
      exact found
  | effect _ _ _ _ _ marked => cases marked.symm.trans ready
  | playlist _ _ _ _ _ marked => cases marked.symm.trans ready
  | next => exact absurd rfl unmoved

/-- An effect begins, for a device that renders and took everything over. -/
theorem begin (reached : Reachable c l) (alone : l.device.Alone) (stands : Along (Happening.Stands c) log)
    (rendering : l.device.mode.isRendering = true) (clean : l.device.dirty = .none) :
    Orderly c (log ++ (c.traceInit l).1) (c.initEffect l) := by
  obtain ⟨effect, found⟩ := reached.runs
  have told : Told c l.device (Cube.initCue effect l) :=
    told_of_settled reached alone rendering clean rfl found rfl
  have stood : Happening.Stands c log (.cue l.device (Cube.initCue effect l)) := by
    refine ⟨told, ?_⟩
    rintro ⟨⟩
  rw [Cube.traceInit_of_found found, List.append_cons]
  refine ⟨reached.begin, ?_, (stands.push stood).push trivial, fun _ _ _ => ?_⟩
  · rw [c.initEffect_device]
    exact alone
  · have began : BeganFor (log ++ [.cue l.device (Cube.initCue effect l)]) l.device l.device
        (Cube.initCue effect l) := by
      refine ⟨⟨log, [], rfl, ?_⟩, rfl, rfl, rfl⟩
      rintro _ ⟨⟩
    have passed : (Happening.reset : Happening ω).GoesOn := trivial
    rw [c.initEffect_device]
    exact ⟨l.device, Cube.initCue effect l, (began.push passed).keep rfl, found⟩

theorem draw (h : Orderly c log l) (settled : l.device.Settled) (ticks : UInt16) :
    Orderly c (log ++ (c.traceDraw ticks l).1) (c.drawAt ticks l).2 := by
  have device := (c.drawAt_shell l ticks).1
  obtain ⟨effect, running⟩ := h.reached.runs
  have told : Told c l.device (Cube.drawCue effect ticks l) :=
    told_of_settled h.reached h.alone settled.rendering settled.clean rfl running rfl
  -- the device is settled, so an effect began for it, and that is the one that draws
  obtain ⟨teller, began, since, found⟩ :=
    h.began settled.rendering (by rw [settled.clean]; rfl) settled.begun
  have same : began.effect = effect := Option.some.inj (found.symm.trans running)
  rw [Cube.traceDraw_of_found ticks running]
  split
  · refine ⟨h.reached.drawAt ticks, ?_, h.stands.push ⟨told, fun _ => ⟨teller, began, since, same⟩⟩,
      fun _ _ _ => ?_⟩
    · rw [device]
      exact h.alone
    · rw [device]
      exact ⟨teller, began, since.push rfl, found⟩
  · rw [List.append_nil]
    exact h.around device

theorem runKeeps (c : Cube ω) : c.RunKeeps (Orderly c) where
  new world := by
    refine ⟨.new world, ?_, along_nil, ?_⟩
    · rintro ⟨⟩
    · intro _ clean
      cases clean
  perform h still := h.perform still
  around h device _ _ := h.around device
  swap {log l} h := by
    refine ⟨h.reached.around rfl, h.alone, h.stands.push trivial, fun rendering clean ready => ?_⟩
    obtain ⟨teller, cue, began, found⟩ := h.began rendering clean ready
    exact ⟨teller, cue, began.push trivial, found⟩
  begin h rendering clean := .begin h.reached h.alone h.stands rendering clean
  next {log l} h settled playing := by
    -- the playlist moves on, and the effect of its next entry begins at once
    obtain ⟨effect, selector, moved⟩ := c.advancePlaylist_device l.toMachine
    have ready := c.settled_moveOn settled
    have mode : (c.moveOn l).device.mode = .playlist := by
      unfold Cube.moveOn
      rw [moved]
      exact playing
    rw [← List.append_assoc]
    refine .begin (h.reached.perform .advance) ?_ (h.stands.choice _ fun _ => trivial) ready.rendering
      ready.clean
    intro alone
    cases mode.symm.trans alone
  draw {log l} h due := by
    have read : Orderly c log (c.readTicks l).2 := h.around rfl
    exact read.draw due.settled _

end Orderly

/-- **Beginning before drawing.** The trace of a turn tells what the turn does, and in every run, an effect
that draws is the one that began last, for a device that selected just as the one that lets it draw, and
since it began nothing was chosen and no effect began. Each cue goes to the running effect of a device that
renders, and tells it the data of the entry that plays, or none where an effect runs alone. -/
theorem draws_what_began (run : Watched c log l) :
    c.Faithful ∧
    ∀ before teller cue after, log = before ++ .cue teller cue :: after →
      Told c teller cue ∧ (cue.phase = .draw → ∃ front teller' began between,
        before = front ++ .cue teller' began :: between ∧ began.phase = .init ∧
          (∀ happening ∈ between, happening.GoesOn) ∧ began.number = cue.number ∧
            began.effect = cue.effect ∧ teller'.selection = teller.selection) := by
  refine ⟨c.faithful, fun before teller cue after split => ?_⟩
  obtain ⟨told, began⟩ := (run.keeps (Orderly.runKeeps c)).stands before _ after split
  refine ⟨told, fun draws => ?_⟩
  obtain ⟨teller', began, for', same⟩ := began draws
  obtain ⟨front, between, log, went⟩ := for'.since
  exact ⟨front, teller', began, between, log, for'.phase, went, for'.number.trans told.number.symm, same,
    for'.selection⟩

namespace Bench

/-- The booted loop when its playlist moves on to the effect heart, which has data. -/
def movingLoop : MainLoop World := agedLoop bootedLoop 11

/-- The same loop a turn later, told to run the effect heart alone. -/
def heartLoop : MainLoop World :=
  let l := agedLoop movingLoop 1
  { l with toMachine := sampleCube.perform (.changeEffect 1) l.toMachine }

/-- What happened up to the turn in which the effect heart begins alone. -/
def heartLog : List (Happening World) :=
  (sampleCube.traceTurn bootedLoop).1 ++ [.swap (sampleCube.step bootedLoop).2.frame.swap.1] ++
    (sampleCube.traceTurn movingLoop).1 ++ [.swap (sampleCube.step movingLoop).2.frame.swap.1] ++
      Happening.ofChoice? (sampleCube.choice? (.changeEffect 1) (agedLoop movingLoop 1).toMachine) ++
        (sampleCube.traceTurn heartLoop).1

theorem heartLog_watched : Watched sampleCube heartLog (sampleCube.step heartLoop).2 := by
  have still : (Operation.changeEffect 1 : Operation World) ≠ .advance := by
    rintro ⟨⟩
  have moved : Watched sampleCube _ movingLoop := agedLoop_watched bootedLoop_watched 11
  have asked : Watched sampleCube _ heartLoop := (agedLoop_watched moved 1).perform still
  exact asked.turn

/-- The effect heart draws with the data of its entry while the playlist plays, and begins again before
it draws alone; so the effects recorded. -/
theorem heartLoop_begins :
    (sampleReel.takes (sampleCube.step heartLoop).2.world).map
      (fun take => (take.phase, take.number, take.scene.data)) =
        [(.init, 0, none), (.draw, 0, none), (.init, 1, some [0x2A]), (.draw, 1, some [0x2A]),
          (.init, 1, none), (.draw, 1, none)] ∧
    ∃ before teller cue, heartLog = before ++ [.cue teller cue] ∧
      cue.phase = .draw ∧ cue.number = 1 ∧ Told sampleCube teller cue ∧ ∃ front teller' began between,
        before = front ++ .cue teller' began :: between ∧ began.phase = .init ∧ began.number = 1 := by
  refine ⟨by decide +kernel, ?_⟩
  have takes : (sampleCube.traceTurn heartLoop).1.map Happening.take? =
      [some ⟨.init, 1, ⟨0, none, []⟩⟩, none] ++ some ⟨.draw, 1, ⟨0, none, []⟩⟩ :: [] := by
    decide +kernel
  obtain ⟨early, teller, cue, after, turn, -, take, none⟩ := Happening.exists_of_take? takes
  obtain rfl := List.map_eq_nil_iff.mp none
  have draws : cue.phase = .draw := by rw [take]
  have heart : cue.number = 1 := by rw [take]
  -- what happened before the last turn stands in front of what the turn tells
  obtain ⟨before, log⟩ : ∃ before, heartLog = before ++ [.cue teller cue] := by
    unfold heartLog
    rw [turn, ← List.append_assoc]
    exact ⟨_, rfl⟩
  obtain ⟨-, stands⟩ := draws_what_began heartLog_watched
  obtain ⟨told, began⟩ := stands before teller cue [] log
  obtain ⟨front, teller', began, between, split, phase, -, number, -⟩ := began draws
  exact ⟨before, teller, cue, log, draws, heart, told, front, teller', began, between, split, phase,
    number.trans heart⟩

end Bench

end VoxelCube
