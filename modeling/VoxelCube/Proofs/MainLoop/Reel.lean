/-
What the trace of a turn is worth. Where every effect records what it is told, and every reset of the
counter records itself, the record grows in a turn by just the cues and the resets that the traced turn
tells of: so the trace tells which effects are run, in which order, and with what. And a turn of which it
tells no choice selects nothing.
-/
import VoxelCube.Bench.Sample
import VoxelCube.Proofs.Device.World
import VoxelCube.Proofs.MainLoop.Runs

namespace VoxelCube

/-! ## Reels -/

/-- What is recorded. -/
inductive Shot where
  | take (take : Take)
  | reset
  deriving DecidableEq, Repr

def Shot.take? : Shot → Option Take
  | .take told => some told
  | .reset => none

/-- What is recorded of what happens. -/
def Happening.shot? {ω : Type} : Happening ω → Option Shot
  | .cue _ told => some (.take told.toTake)
  | .reset => some .reset
  | .choice _ => none
  | .swap _ => none

/-- A record in the world of a cube: every effect adds what it is asked to do and told, every reset of the
counter adds itself, and nothing else that the cube asks of its board touches it. -/
structure Reel {ω : Type} (c : Cube ω) where
  shots : ω → List Shot
  init : ∀ n effect, c.effect? n = some effect → ∀ scene s,
    shots (effect.init scene s).2 = shots s.2 ++ [.take { phase := .init, number := n, scene }]
  draw : ∀ n effect, c.effect? n = some effect → ∀ scene s,
    shots (effect.draw scene s).2 = shots s.2 ++ [.take { phase := .draw, number := n, scene }]
  resetTicks : ∀ w, shots (c.board.resetTicks w) = shots w ++ [.reset]
  read : ∀ key room w, shots (c.board.read key room w).2 = shots w
  write : ∀ key record w, shots (c.board.write key record w).2 = shots w
  setTime : ∀ seconds w, shots (c.board.setTime seconds w) = shots w
  setZone : ∀ offset w, shots (c.board.setZone offset w) = shots w
  powerUp : ∀ w, shots (c.board.powerUp w) = shots w
  powerDown : ∀ w, shots (c.board.powerDown w) = shots w
  wait : ∀ w, shots (c.board.wait w) = shots w
  receive : ∀ w, shots (c.board.receive w).2 = shots w
  send : ∀ byte w, shots (c.board.send byte w).2 = shots w
  flush : ∀ w, shots (c.board.flush w).2 = shots w
  elapse : ∀ w, shots (c.board.elapse w) = shots w

namespace Reel

variable {ω : Type} {c : Cube ω} (reel : Reel c)

/-- The runs of the effects in a record. -/
def takes (w : ω) : List Take := (reel.shots w).filterMap Shot.take?

theorem shots_perform (cue : Cue ω) (found : c.effect? cue.number = some cue.effect) :
    reel.shots cue.perform.2 = reel.shots cue.world ++ [.take cue.toTake] := by
  obtain ⟨⟨phase, number, scene⟩, effect, frame, world⟩ := cue
  cases phase with
  | init => exact reel.init _ _ found _ _
  | draw => exact reel.draw _ _ found _ _

theorem shots_initEffect (l : MainLoop ω) : reel.shots (c.initEffect l).world =
    reel.shots l.world ++ (c.traceInit l).1.filterMap Happening.shot? := by
  rw [← c.traceInit_snd]
  unfold Cube.traceInit
  cases found : c.effect? l.device.effect with
  | none => exact reel.resetTicks _
  | some effect =>
    have ran := reel.shots_perform (Cube.initCue effect l) found
    refine (reel.resetTicks _).trans ?_
    rw [ran, List.append_assoc]
    rfl

theorem shots_drawAt (ticks : UInt16) (l : MainLoop ω) : reel.shots (c.drawAt ticks l).2.world =
    reel.shots l.world ++ (c.traceDraw ticks l).1.filterMap Happening.shot? := by
  rw [← c.traceDraw_snd]
  unfold Cube.traceDraw
  cases found : c.effect? l.device.effect with
  | none => exact (List.append_nil _).symm
  | some effect =>
    dsimp only
    split
    · exact reel.shots_perform (Cube.drawCue effect ticks l) found
    · exact (List.append_nil _).symm

/-- The record does not change but by the effects and the resets. -/
theorem quiet (shots : List Shot) : c.board.Keeps fun w => reel.shots w = shots where
  read key room w h := (reel.read key room w).trans h
  write key record w h := (reel.write key record w).trans h
  setTime seconds w h := (reel.setTime seconds w).trans h
  setZone offset w h := (reel.setZone offset w).trans h
  powerUp w h := (reel.powerUp w).trans h
  powerDown w h := (reel.powerDown w).trans h

theorem lineKeeps (shots : List Shot) : c.LineKeeps fun l => reel.shots l.world = shots where
  feed _ h := h
  receive h := (reel.receive _).trans h
  put byte h := (reel.send byte _).trans h
  drain h := (reel.flush _).trans h
  dispatch payload h := by
    have quiet := reel.quiet shots
    have keeps : c.Keeps c.board.put fun s => reel.shots s.world = shots :=
      .of_reads (fun byte s h => (reel.send byte s.world).trans h)
        (fun key room s h => quiet.read key room s.world h)
        (fun _ _ change s _ h => quiet.carryOut s change h)
        (fun seconds s h => quiet.setTime seconds s.world h)
        (fun offset s h => quiet.setZone offset s.world h)
    exact keeps.dispatch payload _ h

/-- Every move of a turn is recorded as it is traced. -/
theorem traceKeeps (start : List Shot) : c.TraceKeeps fun log l =>
    reel.shots l.world = start ++ log.filterMap Happening.shot? where
  line := reel.lineKeeps _
  sync {log l} h := by
    have unseen : (c.traceSync l).1.filterMap Happening.shot? = [] :=
      Happening.filterMap_ofChoice? (fun _ => rfl) _
    rw [List.filterMap_append, unseen, List.append_nil]
    exact c.sync_world _ (reel.quiet _).read h
  read h := (reel.elapse _).trans h
  begin h _ _ := by
    rw [reel.shots_initEffect, h, List.filterMap_append, List.append_assoc]
  next {log l} h _ _ := by
    have unseen : (c.traceNext l).1.filterMap Happening.shot? = [] :=
      Happening.filterMap_ofChoice? (fun _ => rfl) _
    have moved : reel.shots (c.moveOn l).world = start ++ log.filterMap Happening.shot? :=
      (congrArg reel.shots (c.advancePlaylist_world l.toMachine)).trans h
    rw [reel.shots_initEffect, moved, List.filterMap_append, List.filterMap_append, unseen,
      List.nil_append, List.append_assoc]
  draw {log l} h _ := by
    have read : reel.shots (c.readTicks l).2.world = start ++ log.filterMap Happening.shot? :=
      (reel.elapse _).trans h
    rw [List.filterMap_append, ← List.append_assoc, ← read]
    exact reel.shots_drawAt _ _
  wait h := (reel.wait _).trans h

end Reel

/-! ## Faithful traces -/

variable {ω : Type}

/-- Nothing is chosen. -/
def Happening.Unchosen (log : List (Happening ω)) : Prop := ∀ choice, .choice choice ∉ log

namespace Happening

variable {log more : List (Happening ω)}

theorem unchosen_append : Unchosen (log ++ more) ↔ Unchosen log ∧ Unchosen more := by
  unfold Unchosen
  simp only [List.mem_append, not_or, forall_and]

theorem Unchosen.choice {choice : Option Choice} (h : Unchosen (ofChoice? choice : List (Happening ω))) :
    choice = none := by
  cases choice with
  | none => rfl
  | some choice => exact absurd (.head _) (h choice)

end Happening

/-- A turn in which nothing is chosen leaves what the device selects. -/
theorem Cube.selectionKeeps (c : Cube ω) (selected : UInt8 × UInt8 × Playlist.Selector) :
    c.TraceKeeps fun log l => Happening.Unchosen log → l.device.selection = selected where
  line :=
    { feed := fun _ h => h
      receive := fun h => h
      put := fun _ h => h
      drain := fun h => h
      dispatch := fun payload h unchosen => (stays_dispatch _ payload).selection.trans (h unchosen) }
  sync h unchosen := by
    obtain ⟨before, now⟩ := Happening.unchosen_append.mp unchosen
    exact (selection_perform now.choice).trans (h before)
  read h := h
  begin {log l} h _ _ unchosen := by
    rw [c.initEffect_device]
    exact h (Happening.unchosen_append.mp unchosen).1
  next {log l} h _ _ unchosen := by
    obtain ⟨before, now⟩ := Happening.unchosen_append.mp unchosen
    rw [c.initEffect_device]
    exact (selection_perform (Happening.unchosen_append.mp now).1.choice).trans (h before)
  draw {log l} h _ unchosen := by
    have same : (c.drawFrame l).2.device = l.device := (c.drawAt_shell _ _).1
    rw [same]
    exact h (Happening.unchosen_append.mp unchosen).1
  wait h := h

/-- The trace of a turn tells what the turn does: tracing changes nothing, what the effects and the resets
of the counter record in the turn is what the trace tells of them, and where it tells of no choice, the
device selects what it did. So it does where an operation is said to choose nothing. -/
structure Cube.Faithful (c : Cube ω) : Prop where
  turn : ∀ l, (c.traceTurn l).2 = c.step l
  shots : ∀ (reel : Reel c) l, reel.shots (c.step l).2.world =
    reel.shots l.world ++ (c.traceTurn l).1.filterMap Happening.shot?
  unchosen : ∀ l, Happening.Unchosen (c.traceTurn l).1 → (c.step l).2.device.selection = l.device.selection
  operation : ∀ op s, c.choice? op s = none → (c.perform op s).device.selection = s.device.selection

theorem Cube.faithful (c : Cube ω) : c.Faithful where
  turn := c.traceTurn_snd
  shots reel l := (reel.traceKeeps (reel.shots l.world)).turn [] (List.append_nil _).symm
  unchosen l := (c.selectionKeeps l.device.selection).turn [] fun _ => rfl
  operation _ _ := selection_perform

/-- In a turn the effects are run on its cues, one after the other. -/
theorem Reel.takes_step {c : Cube ω} (reel : Reel c) (l : MainLoop ω) :
    reel.takes (c.step l).2.world = reel.takes l.world ++ (c.turnCues l).map Cue.toTake := by
  have told : (c.turnCues l).map Cue.toTake =
      ((c.traceTurn l).1.filterMap Happening.shot?).filterMap Shot.take? := by
    unfold Cube.turnCues
    rw [List.map_filterMap, List.filterMap_filterMap]
    congr 1
    funext happening
    cases happening <;> rfl
  unfold takes
  rw [c.faithful.shots, List.filterMap_append, told]

namespace Bench

/-- What a call on a board is to a reel: an effect's note is a take. -/
def shot? : Call Report → Option Shot
  | .note report =>
    some (.take { phase := report.phase, number := UInt8.ofNat report.effect, scene := report.scene })
  | .resetTicks => some .reset
  | _ => none

theorem shots_record (w : World) (call : Call Report) :
    (w.record call).calls.filterMap shot? = w.calls.filterMap shot? ++ (shot? call).toList := by
  rw [Recorded.calls_record, List.filterMap_append]
  cases call <;> rfl

theorem shots_record_quiet (w : World) {call : Call Report} (quiet : shot? call = none) :
    (w.record call).calls.filterMap shot? = w.calls.filterMap shot? := by
  rw [shots_record, quiet]
  exact List.append_nil _

/-- The note of an effect is a take of it. -/
theorem shots_note (w : World) (phase : Effect.Phase) (n : UInt8) (scene : Scene) (answers : List Answer) :
    (w.record (.note { phase, effect := n.toNat, scene, answers })).calls.filterMap shot? =
      w.calls.filterMap shot? ++ [.take { phase, number := n, scene }] := by
  rw [shots_record]
  unfold shot?
  dsimp only
  rw [UInt8.ofNat_toNat]
  rfl

/-- The calls that the sample board recorded tell the runs of its effects. -/
def sampleReel : Reel sampleCube where
  shots w := w.calls.filterMap shot?
  init n effect found scene s := by
    have numbered : sampleEffects[n.toNat]? = some effect := found
    obtain ⟨info, animated, rfl⟩ := scripted_of_sampleEffects numbered
    exact shots_note _ .init n scene _
  draw n effect found scene s := by
    have numbered : sampleEffects[n.toNat]? = some effect := found
    obtain ⟨info, animated, rfl⟩ := scripted_of_sampleEffects numbered
    exact shots_note _ .draw n scene _
  resetTicks _ := shots_record _ _
  read _ _ _ := shots_record_quiet _ rfl
  write _ _ _ := shots_record_quiet _ rfl
  setTime _ _ := shots_record_quiet _ rfl
  setZone _ _ := shots_record_quiet _ rfl
  powerUp _ := shots_record_quiet _ rfl
  powerDown _ := shots_record_quiet _ rfl
  wait _ := shots_record_quiet _ rfl
  receive _ := rfl
  send _ _ := shots_record_quiet _ rfl
  flush _ := shots_record_quiet _ rfl
  elapse _ := rfl

end Bench

end VoxelCube
