/-
What happens to the frame buffer, act by act. An effect paints stroke by stroke in the back; its first
frame is put in front when it is complete, a later one waits at the gate until the display takes it.
When each act is due where it happens, the front changes only where a complete frame is shown, and
under the strokes of an effect that draws in place.
-/
import VoxelCube.Display.FrameBuffer

namespace VoxelCube.Display

/-! ## Arenas and roles -/

namespace FrameBuffer

variable (f : FrameBuffer) (v : Voxels)

@[simp] theorem draw_drawn : f.draw f.drawn = f := by
  rcases f with ⟨first, second, front, _ | _, gate⟩ <;> rfl

@[simp] theorem drawn_draw : (f.draw v).drawn = v := by
  rcases f with ⟨first, second, front, _ | _, gate⟩ <;> rfl

@[simp] theorem draw_draw (w : Voxels) : (f.draw v).draw w = f.draw w := by
  rcases f with ⟨first, second, front, _ | _, gate⟩ <;> rfl

@[simp] theorem mayFlip_draw : (f.draw v).mayFlip = f.mayFlip := by
  rcases f with ⟨first, second, front, _ | _, gate⟩ <;> rfl

@[simp] theorem isAliased_draw : (f.draw v).isAliased = f.isAliased := by
  rcases f with ⟨first, second, front, _ | _, gate⟩ <;> rfl

theorem shown_draw (apart : f.isAliased = false) : (f.draw v).shown = f.shown := by
  rcases f with ⟨first, second, _ | _, _ | _, gate⟩
  · cases apart
  · rfl
  · rfl
  · cases apart

theorem isAliased_exchange : f.exchange.isAliased = f.isAliased := by
  rcases f with ⟨first, second, _ | _, _ | _, gate⟩ <;> rfl

theorem isAliased_restoreRoles : f.restoreRoles.isAliased = false := by
  rcases f with ⟨first, second, _ | _, back, gate⟩ <;> rfl

theorem shown_commit (policy : FlipPolicy) : (f.commitInitialFrame policy).shown = f.drawn := by
  cases policy <;> rfl

theorem mayFlip_commit (policy : FlipPolicy) :
    (f.commitInitialFrame policy).mayFlip = f.mayFlip := by
  cases policy <;> rfl

theorem isAliased_commit (policy : FlipPolicy) (apart : f.isAliased = false) :
    (f.commitInitialFrame policy).isAliased = true ↔ policy = .noFlip := by
  cases policy with
  | flip =>
    have still : (f.commitInitialFrame .flip).isAliased = false := f.isAliased_exchange.trans apart
    simp [still]
  | noFlip =>
    have aliased : (f.commitInitialFrame .noFlip).isAliased = true := beq_self_eq_true f.back
    simp [aliased]

end FrameBuffer

/-! ## Strokes and acts -/

/-- What an effect may do to the frame buffer besides reading it. -/
inductive Stroke where
  | set (x y z : Nat) (intensity : UInt16)
  | fill (intensity : UInt16)
  | clear

/-- Makes a stroke; one that is refused changes nothing. -/
def Stroke.paint (f : FrameBuffer) : Stroke → FrameBuffer
  | .set x y z intensity => (f.set x y z intensity).toOption.getD f
  | .fill intensity => (f.fill intensity).toOption.getD f
  | .clear => f.clear

/-- A stroke changes the back and nothing else. -/
theorem Stroke.paint_eq (stroke : Stroke) (f : FrameBuffer) : ∃ v, stroke.paint f = f.draw v := by
  cases stroke with
  | set x y z intensity =>
    unfold paint FrameBuffer.set
    dsimp only
    cases f.drawn.write x y z intensity with
    | ok v => exact ⟨v, rfl⟩
    | error e => exact ⟨f.drawn, f.draw_drawn.symm⟩
  | fill intensity =>
    unfold paint FrameBuffer.fill
    dsimp only
    split
    · exact ⟨f.drawn, f.draw_drawn.symm⟩
    · exact ⟨.uniform intensity, rfl⟩
  | clear => exact ⟨.dark, rfl⟩

theorem Stroke.mayFlip_paint (strokes : List Stroke) (f : FrameBuffer) :
    (strokes.foldl Stroke.paint f).mayFlip = f.mayFlip := by
  induction strokes generalizing f with
  | nil => rfl
  | cons stroke rest ih =>
    obtain ⟨v, painted⟩ := stroke.paint_eq f
    rw [List.foldl_cons, ih, painted, FrameBuffer.mayFlip_draw]

/-- Which painting a stroke belongs to. -/
inductive Painting where
  /-- The first frame of an effect. -/
  | first
  /-- A later frame of an effect with this policy. -/
  | later (policy : FlipPolicy)

/-- What can happen to the frame buffer. -/
inductive Act where
  /-- The display asks for a finished frame. -/
  | swap
  /-- An effect is about to begin. -/
  | prepare
  | stroke (painting : Painting) (stroke : Stroke)
  /-- An effect began. -/
  | commit (policy : FlipPolicy)
  /-- A later frame is finished. -/
  | finish

/-- The frame buffer with what is remembered of the acts so far. -/
structure Stage where
  frame : FrameBuffer := {}
  /-- An effect is about to begin, and paints its first frame. -/
  beginning : Bool := false
  /-- The policy of the effect that began last. -/
  policy : Option FlipPolicy := none
  /-- The back as it was when the last later frame was finished. -/
  finished : Option Voxels := none

namespace Stage

variable {s : Stage} {a : Act} {acts : List Act}

/-- What an act does. -/
def step (s : Stage) : Act → Stage
  | .swap => { s with frame := s.frame.swap.2 }
  | .prepare => { s with frame := (s.frame.allowFlip false).restoreRoles, beginning := true }
  | .stroke _ stroke => { s with frame := stroke.paint s.frame }
  | .commit policy =>
    { s with frame := s.frame.commitInitialFrame policy, beginning := false, policy := some policy }
  | .finish => { s with frame := s.frame.allowFlip true, finished := some s.frame.drawn }

/-- An act is due: a first frame is painted and committed after its effect was prepared, a later one
is painted by the policy of the effect that began last and while no frame waits; the display asks for
a frame between the paintings. -/
def Due (s : Stage) : Act → Prop
  | .swap | .prepare | .finish => s.beginning = false
  | .stroke .first _ | .commit _ => s.beginning = true
  | .stroke (.later policy) _ =>
    s.beginning = false ∧ s.policy = some policy ∧ s.frame.mayFlip = false

/-- What an act may do to the voxels shown. A swap shows the last finished frame, if it waits; a
commit shows the first frame as it was painted; an effect that draws in place shows what it draws;
nothing else changes what is shown. -/
def Lawful (s : Stage) (a : Act) : Prop :=
  match a with
  | .swap =>
    if s.frame.mayFlip then s.finished = some (s.step a).frame.shown
    else (s.step a).frame.shown = s.frame.shown
  | .commit _ => (s.step a).frame.shown = s.frame.drawn
  | .stroke (.later .noFlip) _ => True
  | .stroke _ _ | .prepare | .finish => (s.step a).frame.shown = s.frame.shown

/-- Between paintings the roles follow the policy of the effect that began last; a first frame is
painted apart from the front, and no frame waits then; a frame that waits is the last finished one. -/
structure Sound (s : Stage) : Prop where
  roles : s.beginning = false → (s.frame.isAliased = true ↔ s.policy = some .noFlip)
  apart : s.beginning = true → s.frame.isAliased = false ∧ s.frame.mayFlip = false
  waiting : s.frame.mayFlip = true → s.finished = some s.frame.drawn

namespace Sound

theorem start : Sound {} where
  roles _ := by simp [FrameBuffer.isAliased]
  apart beginning := by cases beginning
  waiting gate := by cases gate

theorem swap (h : s.Sound) : (s.step .swap).Sound := by
  unfold Stage.step FrameBuffer.swap
  dsimp only
  by_cases gate : s.frame.mayFlip = true
  · rw [if_pos gate]
    refine ⟨fun settled => ?_, fun beginning => ?_, fun open' => by cases open'⟩
    · have same : (s.frame.exchange.allowFlip false).isAliased = s.frame.isAliased :=
        s.frame.isAliased_exchange
      rw [same]
      exact h.roles settled
    · -- no frame waits before a first frame
      have closed := (h.apart beginning).2
      rw [gate] at closed
      cases closed
  · rw [if_neg gate]
    exact h

theorem prepare : (s.step .prepare).Sound where
  roles settled := by cases settled
  apart _ := ⟨FrameBuffer.isAliased_restoreRoles _, rfl⟩
  waiting gate := by cases gate

/-- A stroke is sound while no frame waits. -/
theorem stroke (h : s.Sound) (painting : Painting) (stroke : Stroke) (closed : s.frame.mayFlip = false) :
    (s.step (.stroke painting stroke)).Sound := by
  obtain ⟨v, painted⟩ := stroke.paint_eq s.frame
  unfold Stage.step
  dsimp only
  rw [painted]
  refine ⟨fun settled => ?_, fun beginning => ?_, fun gate => ?_⟩
  · dsimp only
    rw [FrameBuffer.isAliased_draw]
    exact h.roles settled
  · dsimp only
    rw [FrameBuffer.isAliased_draw, FrameBuffer.mayFlip_draw]
    exact h.apart beginning
  · dsimp only at gate
    rw [FrameBuffer.mayFlip_draw, closed] at gate
    cases gate

theorem commit (h : s.Sound) (policy : FlipPolicy) (beginning : s.beginning = true) :
    (s.step (.commit policy)).Sound := by
  obtain ⟨apart, closed⟩ := h.apart beginning
  refine ⟨fun _ => ?_, fun again => (by cases again), fun gate => ?_⟩
  · -- the first frame was painted apart from the front, so the policy alone decides the roles
    have followed := s.frame.isAliased_commit policy apart
    unfold Stage.step
    simpa using followed
  · have still := (s.frame.mayFlip_commit policy).trans closed
    cases gate.symm.trans still

theorem finish (h : s.Sound) (settled : s.beginning = false) : (s.step .finish).Sound where
  roles _ := h.roles settled
  apart beginning := by
    have going : s.beginning = true := beginning
    rw [settled] at going
    cases going
  waiting _ := rfl

/-- What is due keeps the stage sound. -/
theorem step (h : s.Sound) (due : s.Due a) : (s.step a).Sound := by
  rcases a with _ | _ | ⟨painting, stroke⟩ | policy | _
  · exact h.swap
  · exact prepare
  · cases painting with
    | first => exact h.stroke .first stroke (h.apart due).2
    | later policy => exact h.stroke (.later policy) stroke due.2.2
  · exact h.commit policy due
  · exact h.finish due

/-- What is due is lawful. -/
theorem lawful (h : s.Sound) (due : s.Due a) : s.Lawful a := by
  rcases a with _ | _ | ⟨painting, stroke⟩ | policy | _
  · unfold Lawful Stage.step FrameBuffer.swap
    dsimp only
    by_cases gate : s.frame.mayFlip = true
    · rw [if_pos gate, if_pos gate]
      exact h.waiting gate
    · rw [if_neg gate, if_neg gate]
  · rfl
  · -- a stroke is seen only where both roles are on one arena
    have unseen : s.frame.isAliased = false → (stroke.paint s.frame).shown = s.frame.shown := by
      intro apart
      obtain ⟨v, painted⟩ := stroke.paint_eq s.frame
      rw [painted]
      exact s.frame.shown_draw v apart
    rcases painting with _ | policy
    · exact unseen (h.apart due).1
    · cases policy with
      | flip =>
        obtain ⟨settled, began, -⟩ := due
        refine unseen ?_
        have roles := h.roles settled
        rw [began] at roles
        simpa using roles
      | noFlip => trivial
  · exact s.frame.shown_commit policy
  · rfl

end Sound

/-! ## Runs of acts -/

/-- The stage after acts, one after the other. -/
def run (s : Stage) (acts : List Act) : Stage := acts.foldl step s

/-- Each act is due where it happens. -/
def Admits (s : Stage) : List Act → Prop
  | [] => True
  | a :: rest => s.Due a ∧ (s.step a).Admits rest

theorem run_append (s : Stage) (first rest : List Act) :
    s.run (first ++ rest) = (s.run first).run rest :=
  List.foldl_append

theorem admits_append {first rest : List Act} :
    s.Admits (first ++ rest) ↔ s.Admits first ∧ (s.run first).Admits rest := by
  induction first generalizing s with
  | nil => exact ⟨fun h => ⟨trivial, h⟩, fun h => h.2⟩
  | cons a more ih =>
    constructor
    · rintro ⟨due, others⟩
      obtain ⟨before, after⟩ := ih.mp others
      exact ⟨⟨due, before⟩, after⟩
    · rintro ⟨⟨due, before⟩, after⟩
      exact ⟨due, ih.mpr ⟨before, after⟩⟩

theorem run_strokes (s : Stage) (painting : Painting) (strokes : List Stroke) :
    s.run (strokes.map (.stroke painting)) =
      { s with frame := strokes.foldl Stroke.paint s.frame } := by
  induction strokes generalizing s with
  | nil => rfl
  | cons stroke rest ih => exact ih (s.step (.stroke painting stroke))

theorem admits_first (beginning : s.beginning = true) (strokes : List Stroke) :
    s.Admits (strokes.map (.stroke .first)) := by
  induction strokes generalizing s with
  | nil => trivial
  | cons stroke rest ih => exact ⟨beginning, ih beginning⟩

theorem admits_later {policy : FlipPolicy} (between : s.beginning = false)
    (began : s.policy = some policy) (closed : s.frame.mayFlip = false) (strokes : List Stroke) :
    s.Admits (strokes.map (.stroke (.later policy))) := by
  induction strokes generalizing s with
  | nil => trivial
  | cons stroke rest ih =>
    obtain ⟨v, painted⟩ := stroke.paint_eq s.frame
    refine ⟨⟨between, began, closed⟩, ih between began ?_⟩
    -- a stroke leaves the gate as it was
    show (stroke.paint s.frame).mayFlip = false
    rw [painted, FrameBuffer.mayFlip_draw]
    exact closed

theorem Sound.run (h : s.Sound) (admitted : s.Admits acts) : (s.run acts).Sound := by
  induction acts generalizing s with
  | nil => exact h
  | cons a rest ih => exact ih (h.step admitted.1) admitted.2

/-- In a run of acts that are due, every act is lawful where it happens. -/
theorem Sound.lawful_of_admits (h : s.Sound) {before after : List Act}
    (admitted : s.Admits (before ++ a :: after)) : (s.run before).Lawful a := by
  obtain ⟨first, due, -⟩ := admits_append.mp admitted
  exact (h.run first).lawful due

end Stage

end VoxelCube.Display
