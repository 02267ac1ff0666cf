/-
Runs of the main loop, with all that happened in them. It takes turns, the display asks for frames, and the
device is asked for all kinds of things, in any order. What everything that happens keeps holds in every
run.
-/
import VoxelCube.Proofs.MainLoop.Selection

namespace VoxelCube

/-! ## Logs -/

section Along

variable {α : Type} {R : List α → α → Prop} {log more : List α}

/-- Every note of a log stands as `R` says in regard to the notes before it. -/
def Along (R : List α → α → Prop) (log : List α) : Prop :=
  ∀ before note after, log = before ++ note :: after → R before note

theorem along_nil : Along R [] := by
  intro before note after split
  cases before <;> cases split

theorem along_append : Along R (log ++ more) ↔
    Along R log ∧ Along (fun before => R (log ++ before)) more := by
  constructor
  · refine fun h => ⟨fun before note after split => ?_, fun before note after split => ?_⟩
    · exact h before note (after ++ more) (by rw [split, List.append_assoc, List.cons_append])
    · exact h (log ++ before) note after (by rw [split, List.append_assoc])
  · rintro ⟨old, new⟩ before note after split
    rcases List.append_eq_append_iff.mp split with ⟨front, rfl, inside⟩ | ⟨rest, inside, tail⟩
    · exact new front note after inside
    · -- the note is in the log, or the first one after it
      cases rest with
      | nil =>
        rw [List.append_nil] at inside
        have first : R (log ++ []) note := new [] note after tail.symm
        rw [List.append_nil, inside] at first
        exact first
      | cons first rest =>
        obtain ⟨rfl, -⟩ := List.cons.inj tail
        exact old before _ rest inside

theorem along_singleton {note : α} : Along R [note] ↔ R [] note := by
  constructor
  · exact fun h => h [] note [] rfl
  · intro h before other after split
    cases before with
    | nil =>
      cases split
      exact h
    | cons _ front => cases front <;> cases split

/-- One more note. -/
theorem Along.push {note : α} (h : Along R log) (stands : R log note) : Along R (log ++ [note]) :=
  along_append.mpr ⟨h, along_singleton.mpr (by rw [List.append_nil]; exact stands)⟩

end Along

/-- A choice, if one is made, where every choice stands. -/
theorem Along.choice {ω : Type} {R : List (Happening ω) → Happening ω → Prop} {log : List (Happening ω)}
    (h : Along R log) (choice : Option Choice) (stands : ∀ choice, R log (.choice choice)) :
    Along R (log ++ Happening.ofChoice? choice) := by
  cases choice with
  | none => exact (List.append_nil log).symm ▸ h
  | some choice => exact h.push (stands choice)

variable {ω : Type} {c : Cube ω} {P : List (Happening ω) → MainLoop ω → Prop} {log : List (Happening ω)}
  {l : MainLoop ω}

/-! ## Runs -/

/-- A main loop with what happened since it was new. It takes turns and the display asks for frames,
in any order; in between, anything may be asked of the device but to move its playlist on, and the
world may become another one. -/
inductive Watched (c : Cube ω) : List (Happening ω) → MainLoop ω → Prop where
  | new (world : ω) : Watched c [] (c.mainLoop world)
  | turn {log : List (Happening ω)} {l : MainLoop ω} (run : Watched c log l) :
    Watched c (log ++ (c.traceTurn l).1) (c.step l).2
  | swap {log : List (Happening ω)} {l : MainLoop ω} (run : Watched c log l) :
    Watched c (log ++ [.swap l.frame.swap.1]) { l with frame := l.frame.swap.2 }
  | perform {log : List (Happening ω)} {l : MainLoop ω} (run : Watched c log l) {op : Operation ω}
    (still : op ≠ .advance) : Watched c (log ++ Happening.ofChoice? (c.choice? op l.toMachine))
      { l with toMachine := c.perform op l.toMachine }
  | around {log : List (Happening ω)} {l : MainLoop ω} (run : Watched c log l) (world : ω) :
    Watched c log { l with world }

theorem Watched.reachable (run : Watched c log l) : Reachable c l := by
  induction run with
  | new world => exact .new world
  | turn _ ih => exact ih.step
  | swap _ ih => exact ih.around rfl
  | perform _ _ ih => exact ih.perform _
  | around _ world ih => exact ih.around rfl

/-- What happens in a run keeps a property of what happened so far and the main loop: something is asked
of the device or changes around it, the display asks for a frame, an effect begins or draws. -/
structure Cube.RunKeeps (c : Cube ω) (P : List (Happening ω) → MainLoop ω → Prop) : Prop where
  new : ∀ world, P [] (c.mainLoop world)
  perform : ∀ {log l op}, P log l → op ≠ .advance →
    P (log ++ Happening.ofChoice? (c.choice? op l.toMachine)) { l with toMachine := c.perform op l.toMachine }
  around : ∀ {log l l'}, P log l → l'.device = l.device → l'.frame = l.frame →
    l'.nextDraw = l.nextDraw → P log l'
  swap : ∀ {log l}, P log l → P (log ++ [.swap l.frame.swap.1]) { l with frame := l.frame.swap.2 }
  begin : ∀ {log l}, P log l → l.device.mode.isRendering = true → l.device.dirty = .none →
    P (log ++ (c.traceInit l).1) (c.initEffect l)
  next : ∀ {log l}, P log l → l.device.Settled → l.device.mode = .playlist →
    P (log ++ ((c.traceNext l).1 ++ (c.traceInit (c.moveOn l)).1)) (c.initEffect (c.moveOn l))
  draw : ∀ {log l}, P log l → c.Due l → P (log ++ (c.traceFrame l).1) (c.drawFrame l).2

theorem Cube.RunKeeps.traceKeeps (k : c.RunKeeps P) : c.TraceKeeps P where
  line {log} :=
    { feed := fun _ h => k.around h rfl rfl rfl
      receive := fun h => k.around h rfl rfl rfl
      put := fun _ h => k.around h rfl rfl rfl
      drain := fun h => k.around h rfl rfl rfl
      dispatch := fun payload h => by
        have still : Operation.dispatch c.board.put payload ≠ .advance := by
          rintro ⟨⟩
        -- no message chooses
        exact List.append_nil log ▸ k.perform h still }
  sync h := by
    have still : (Operation.sync : Operation ω) ≠ .advance := by
      rintro ⟨⟩
    exact k.perform h still
  read h := k.around h rfl rfl rfl
  begin := k.begin
  next := k.next
  draw := k.draw
  wait h := k.around h rfl rfl rfl

/-- What everything that happens keeps holds in every run. -/
theorem Watched.keeps (k : c.RunKeeps P) (run : Watched c log l) : P log l := by
  induction run with
  | new world => exact k.new world
  | turn _ ih => exact k.traceKeeps.turn _ ih
  | swap _ ih => exact k.swap ih
  | perform _ still ih => exact k.perform ih still
  | around _ world ih => exact k.around ih rfl rfl rfl

end VoxelCube
