/-
What happens in a turn. The traced turn makes the moves of a turn and writes down what happens at each:
what is chosen, which effect runs, with all that it is told and given, and that the counter is reset. Every
effect is run on its cue, and by tracing nothing changes.
-/
import VoxelCube.Proofs.Device.Choice
import VoxelCube.Proofs.MainLoop.Turn

namespace VoxelCube

open Display

/-! ## Cues -/

/-- What an effect is asked to do, and what it is told. -/
structure Take where
  phase : Effect.Phase
  /-- The number of the effect. -/
  number : UInt8
  scene : Scene
  deriving DecidableEq, Repr

/-- A cue of an effect: what it is told, with the frame and the world that it is given. -/
structure Cue (ω : Type) extends Take where
  effect : Effect ω
  frame : FrameBuffer
  world : ω

namespace Cue

variable {ω : Type}

/-- Runs the effect on what it is told and given. -/
def perform (cue : Cue ω) : FrameBuffer × ω :=
  match cue.phase with
  | .init => cue.effect.init cue.scene (cue.frame, cue.world)
  | .draw => cue.effect.draw cue.scene (cue.frame, cue.world)

/-- The frame buffer as the effect leaves it. -/
def painted (cue : Cue ω) : FrameBuffer := cue.perform.1

end Cue

/-! ## What happens -/

/-- What happens in a run. -/
inductive Happening (ω : Type) where
  /-- The device chooses what to run. -/
  | choice (choice : Choice)
  /-- An effect runs, cued by the device as it is then. -/
  | cue (teller : Device) (cue : Cue ω)
  /-- The counter is reset. -/
  | reset
  /-- The display asks for a frame, and takes one or gets none. -/
  | swap (taken : Bool)

namespace Happening

variable {ω : Type}

/-- A choice, if one is made. -/
def ofChoice? (choice : Option Choice) : List (Happening ω) := choice.toList.map .choice

def cue? : Happening ω → Option (Cue ω)
  | .cue _ told => some told
  | .choice _ => none
  | .reset => none
  | .swap _ => none

/-- What an effect is told, if one runs. -/
def take? (happening : Happening ω) : Option Take := happening.cue?.map (·.toTake)

/-- Where an effect is told this, it is cued. -/
theorem exists_of_take? {log : List (Happening ω)} {front back : List (Option Take)} {told : Take}
    (takes : log.map take? = front ++ some told :: back) : ∃ before teller cue after,
      log = before ++ .cue teller cue :: after ∧ before.map take? = front ∧ cue.toTake = told ∧
        after.map take? = back := by
  obtain ⟨before, rest, rfl, early, late⟩ := List.map_eq_append_iff.mp takes
  obtain ⟨happening, after, rfl, here, last⟩ := List.map_eq_cons_iff.mp late
  cases happening with
  | cue teller cue => exact ⟨before, teller, cue, after, rfl, early, Option.some.inj here, last⟩
  | choice | reset | swap => cases here

theorem filterMap_ofChoice? {α : Type} {f : Happening ω → Option α} (spares : ∀ choice, f (.choice choice) = none)
    (choice : Option Choice) : (ofChoice? choice).filterMap f = [] := by
  cases choice with
  | none => rfl
  | some choice => exact List.filterMap_cons_none (spares choice)

end Happening

/-! ## The traced turn -/

namespace Cube

variable {ω : Type} (c : Cube ω)

/-- The cue with which the running effect begins. -/
def initCue (effect : Effect ω) (l : MainLoop ω) : Cue ω :=
  { phase := .init, number := l.device.effect, effect, scene := scene 0 l.device,
    frame := (l.frame.allowFlip false).restoreRoles, world := l.world }

/-- The cue with which the running effect draws. -/
def drawCue (effect : Effect ω) (ticks : UInt16) (l : MainLoop ω) : Cue ω :=
  { phase := .draw, number := l.device.effect, effect, scene := scene ticks l.device,
    frame := l.frame, world := l.world }

/-- The part of a turn that takes changed settings over. -/
def takeOver (l : MainLoop ω) : MainLoop ω := { l with toMachine := c.sync l.toMachine }

/-- The part of a turn that moves the playlist on. -/
def moveOn (l : MainLoop ω) : MainLoop ω := { l with toMachine := c.advancePlaylist l.toMachine }

def traceSync (l : MainLoop ω) : List (Happening ω) × MainLoop ω :=
  (Happening.ofChoice? (c.choice? .sync l.toMachine), c.takeOver l)

def traceNext (l : MainLoop ω) : List (Happening ω) × MainLoop ω :=
  (Happening.ofChoice? (c.choice? .advance l.toMachine), c.moveOn l)

/-- Begins the running effect on its cue. -/
def traceInit (l : MainLoop ω) : List (Happening ω) × MainLoop ω :=
  let device := { l.device with needsInit := false }
  match c.effect? l.device.effect with
  | some effect =>
    let cue := initCue effect l
    let (frame, world) := cue.perform
    ([.cue l.device cue, .reset],
      { l with device, frame := frame.commitInitialFrame effect.flip, nextDraw := 0,
               world := c.board.resetTicks world })
  | none =>
    ([.reset], { l with device, frame := (l.frame.allowFlip false).restoreRoles, nextDraw := 0,
                        world := c.board.resetTicks l.world })

/-- Lets the running effect draw on its cue; a still one gets none. -/
def traceDraw (ticks : UInt16) (l : MainLoop ω) : List (Happening ω) × Turn × MainLoop ω :=
  match c.effect? l.device.effect with
  | some effect =>
    let nextDraw := saturatingAdd ticks effect.minimumTicks
    if effect.animates l.world then
      let cue := drawCue effect ticks l
      let (frame, world) := cue.perform
      ([.cue l.device cue], .drew, { l with frame := frame.allowFlip true, world, nextDraw })
    else ([], .still, { l with nextDraw })
  | none => ([], .idle, l)

/-- Reads the counter, and lets the running effect draw. -/
def drawFrame (l : MainLoop ω) : Turn × MainLoop ω :=
  let (ticks, l) := c.readTicks l
  c.drawAt ticks l

def traceFrame (l : MainLoop ω) : List (Happening ω) × Turn × MainLoop ω :=
  let (ticks, l) := c.readTicks l
  c.traceDraw ticks l

def traceRender (l : MainLoop ω) : List (Happening ω) × Turn × MainLoop ω :=
  if l.frame.mayFlip then ([], .framePending, l)
  else
    let (ticks, read) := c.readTicks l
    if ticks < l.nextDraw then ([], .throttled, read)
    else if ticks = 65535 then
      let (begun, l) := c.traceInit read
      let (drawn, turn, l) := c.traceFrame l
      (begun ++ drawn, turn, l)
    else c.traceDraw ticks read

def traceExpire (l : MainLoop ω) : List (Happening ω) × MainLoop ω :=
  let (ticks, l) := c.readTicks l
  if l.device.selector.duration < ticks then
    let (moved, l) := c.traceNext l
    let (begun, l) := c.traceInit l
    (moved ++ begun, l)
  else ([], l)

/-- The part of a turn that begins an effect which has to begin. -/
def beginMarked (l : MainLoop ω) : MainLoop ω :=
  if l.device.needsInit && l.device.mode.isRendering then c.initEffect l else l

def traceMarked (l : MainLoop ω) : List (Happening ω) × MainLoop ω :=
  if l.device.needsInit && l.device.mode.isRendering then c.traceInit l else ([], l)

/-- The part of a turn that follows when the changed settings are taken over. -/
def present (l : MainLoop ω) : Turn × MainLoop ω :=
  let begun := c.beginMarked l
  match l.device.mode with
  | .sleep | .idle => (.idle, c.rest begun)
  | .playlist => c.render (c.expireEntry begun)
  | .effect => c.render begun

def tracePresent (l : MainLoop ω) : List (Happening ω) × Turn × MainLoop ω :=
  let (begun, now) := c.traceMarked l
  match l.device.mode with
  | .sleep | .idle => (begun, .idle, c.rest now)
  | .playlist =>
    let (expired, l) := c.traceExpire now
    let (rendered, turn, l) := c.traceRender l
    (begun ++ (expired ++ rendered), turn, l)
  | .effect =>
    let (rendered, turn, l) := c.traceRender now
    (begun ++ rendered, turn, l)

/-- One turn of the main loop, with what happens in it. -/
def traceTurn (l : MainLoop ω) : List (Happening ω) × Turn × MainLoop ω :=
  let (chosen, l) := c.traceSync (c.processSerial l)
  let (presented, turn, l) := c.tracePresent l
  (chosen ++ presented, turn, l)

/-- The cues of a turn. -/
def turnCues (l : MainLoop ω) : List (Cue ω) := (c.traceTurn l).1.filterMap Happening.cue?

variable {c} in
/-- An effect that begins is cued, and then the counter is reset. -/
theorem traceInit_of_found {l : MainLoop ω} {effect : Effect ω}
    (found : c.effect? l.device.effect = some effect) :
    (c.traceInit l).1 = [.cue l.device (initCue effect l), .reset] := by
  unfold traceInit
  rw [found]

variable {c} in
/-- An effect that draws is cued. -/
theorem traceDraw_of_found {l : MainLoop ω} {effect : Effect ω} (ticks : UInt16)
    (found : c.effect? l.device.effect = some effect) : (c.traceDraw ticks l).1 =
      if effect.animates l.world then [.cue l.device (drawCue effect ticks l)] else [] := by
  unfold traceDraw
  rw [found]
  dsimp only
  split <;> rfl

/-! ## Tracing changes nothing -/

variable (l : MainLoop ω)

theorem traceInit_snd : (c.traceInit l).2 = c.initEffect l := by
  unfold traceInit initEffect
  dsimp only
  cases c.effect? l.device.effect <;> rfl

theorem traceDraw_snd (ticks : UInt16) : (c.traceDraw ticks l).2 = c.drawAt ticks l := by
  unfold traceDraw drawAt
  cases c.effect? l.device.effect with
  | none => rfl
  | some effect =>
    dsimp only
    split <;> rfl

theorem drawFrame_eq : c.drawFrame l = c.drawAt (c.readTicks l).1 (c.readTicks l).2 := rfl

theorem traceFrame_snd : (c.traceFrame l).2 = c.drawFrame l := c.traceDraw_snd _ _

/-- A rendering in its parts. -/
theorem render_eq : c.render l =
    if l.frame.mayFlip then (.framePending, l)
    else if (c.readTicks l).1 < l.nextDraw then (.throttled, (c.readTicks l).2)
    else if (c.readTicks l).1 = 65535 then c.drawFrame (c.initEffect (c.readTicks l).2)
    else c.drawFrame l := rfl

/-- A traced rendering in its parts. -/
theorem traceRender_eq : c.traceRender l =
    let begun := c.traceInit (c.readTicks l).2
    if l.frame.mayFlip then ([], .framePending, l)
    else if (c.readTicks l).1 < l.nextDraw then ([], .throttled, (c.readTicks l).2)
    else if (c.readTicks l).1 = 65535 then
      (begun.1 ++ (c.traceFrame begun.2).1, (c.traceFrame begun.2).2)
    else c.traceFrame l := rfl

theorem traceRender_snd : (c.traceRender l).2 = c.render l := by
  rw [traceRender_eq, render_eq, ← traceInit_snd, ← traceFrame_snd, ← traceFrame_snd]
  dsimp only
  split
  · rfl
  split
  · rfl
  split <;> rfl

/-- The end of an entry in its parts. -/
theorem expireEntry_eq : c.expireEntry l =
    if l.device.selector.duration < (c.readTicks l).1 then c.initEffect (c.moveOn (c.readTicks l).2)
    else (c.readTicks l).2 := rfl

theorem traceExpire_eq : c.traceExpire l =
    let begun := c.traceInit (c.moveOn (c.readTicks l).2)
    if l.device.selector.duration < (c.readTicks l).1 then
      ((c.traceNext (c.readTicks l).2).1 ++ begun.1, begun.2)
    else ([], (c.readTicks l).2) := rfl

theorem traceExpire_snd : (c.traceExpire l).2 = c.expireEntry l := by
  rw [traceExpire_eq, expireEntry_eq, ← traceInit_snd]
  dsimp only
  split <;> rfl

theorem traceMarked_snd : (c.traceMarked l).2 = c.beginMarked l := by
  unfold traceMarked beginMarked
  split
  · exact c.traceInit_snd l
  · rfl

/-- What happens once the changed settings are taken over, part by part. -/
theorem tracePresent_fst : (c.tracePresent l).1 = (c.traceMarked l).1 ++
    match l.device.mode with
    | .sleep | .idle => []
    | .playlist =>
      (c.traceExpire (c.beginMarked l)).1 ++ (c.traceRender (c.expireEntry (c.beginMarked l))).1
    | .effect => (c.traceRender (c.beginMarked l)).1 := by
  unfold tracePresent
  rw [← traceMarked_snd, ← traceExpire_snd]
  cases l.device.mode with
  | sleep | idle => exact (List.append_nil _).symm
  | playlist | effect => rfl

theorem tracePresent_snd : (c.tracePresent l).2 = c.present l := by
  unfold tracePresent present
  rw [← traceMarked_snd]
  cases l.device.mode with
  | sleep | idle => rfl
  | playlist =>
    dsimp only
    rw [← traceExpire_snd]
    exact c.traceRender_snd _
  | effect => exact c.traceRender_snd _

/-- A turn serves the line, takes the changed settings over, and presents. -/
theorem step_eq : c.step l = c.present (c.takeOver (c.processSerial l)) := rfl

theorem traceTurn_fst : (c.traceTurn l).1 =
    (c.traceSync (c.processSerial l)).1 ++ (c.tracePresent (c.takeOver (c.processSerial l))).1 := rfl

/-- Tracing changes nothing. -/
theorem traceTurn_snd : (c.traceTurn l).2 = c.step l := c.tracePresent_snd _

end Cube

end VoxelCube
