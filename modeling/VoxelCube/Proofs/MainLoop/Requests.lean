/-
Requests to the main loop. Whoever asks for an effect or a playlist expects the next turn to begin it.
The turn takes changed settings over first, though, and these may select again: a request is honoured
exactly where no such setting is left over from before, or the store happens to have what was asked for.
-/
import VoxelCube.Proofs.MainLoop.Reel

namespace VoxelCube

open Playlist

variable {ω : Type} {c : Cube ω} {l : MainLoop ω} {s t : Machine ω} {n : UInt8}

/-! ## What is asked for -/

/-- The device is to begin an effect on its own. -/
structure Device.ToRun (d : Device) (n : UInt8) : Prop where
  mode : d.mode = .effect
  effect : d.effect = n
  data : d.selector.data = none
  marked : d.needsInit = true

/-- The device is to begin a playlist with what was selected for its start. -/
structure Device.ToPlay (d : Device) (n : UInt8) (selected : UInt8 × Selector) : Prop where
  mode : d.mode = .playlist
  playlist : d.playlist = n
  effect : d.effect = selected.1
  selector : d.selector = selected.2
  marked : d.needsInit = true

namespace Cube

/-- An effect that is taken now exists, and is to run on its own. -/
theorem changeEffect_ok (asked : c.changeEffect n s = .ok t) :
    n.toNat < c.effects.length ∧ t.device.ToRun n := by
  unfold changeEffect at asked
  split at asked
  · rename_i exists'
    cases asked
    exact ⟨exists', congrArg Device.mode (c.enter_device s .effect), rfl, rfl, rfl⟩
  · cases asked

/-- A playlist that is taken now exists, and is to play from its start. -/
theorem changePlaylist_ok (asked : c.changePlaylist n s = .ok t) : ∃ selected,
    Selector.start c.playlists n = .ok selected ∧ t.device.ToPlay n selected := by
  unfold changePlaylist at asked
  split at asked
  · rename_i selected started
    cases asked
    exact ⟨selected, started, congrArg Device.mode (c.enter_device s .playlist), rfl, rfl, rfl, rfl⟩
  · cases asked

/-! ## A turn that begins -/

/-- What beginning an effect and moving on in the playlist leave as it is, a turn keeps from when it
took the changed settings over. -/
theorem step_device {P : Device → Prop} (begin : ∀ d : Device, P d → P { d with needsInit := false })
    (advance : ∀ s : Machine ω, s.device.mode = .playlist → P s.device → P (c.advancePlaylist s).device)
    (taken : P (c.takeOver (c.processSerial l)).device) : P (c.step l).2.device := by
  have keeps : c.ShowKeeps fun l => P l.device := by
    refine ⟨?begin, fun h => h, ?draw, fun playing h => advance _ playing h, fun h => h⟩
    case begin =>
      intro l h
      rw [initEffect_device]
      exact begin _ h
    case draw =>
      intro l ticks h
      rw [(c.drawAt_shell l ticks).1]
      exact h
  exact keeps.step taken

/-- The cues begin with an effect that begins, with this number and told this data. -/
def BeginsWith (cues : List (Cue ω)) (number : UInt8) (data : Option (List UInt8)) : Prop :=
  ∃ cue rest, cues = cue :: rest ∧ cue.phase = .init ∧ cue.number = number ∧ cue.scene.data = data

/-- A turn begins with an effect that begins, with this number and told this data: so it is cued, and so
it stands in every record of the effects. -/
structure Begins (c : Cube ω) (l : MainLoop ω) (number : UInt8) (data : Option (List UInt8)) : Prop where
  cues : BeginsWith (c.turnCues l) number data
  recorded : ∀ reel : Reel c, ∃ take rest,
    reel.takes (c.step l).2.world = reel.takes l.world ++ take :: rest ∧
      take.phase = .init ∧ take.number = number ∧ take.scene.data = data

/-- What is cued is recorded. -/
theorem BeginsWith.begins {number : UInt8} {data : Option (List UInt8)}
    (h : BeginsWith (c.turnCues l) number data) : c.Begins l number data := by
  refine ⟨h, fun reel => ?_⟩
  obtain ⟨cue, rest, cues, told⟩ := h
  refine ⟨cue.toTake, rest.map Cue.toTake, ?_, told⟩
  rw [reel.takes_step, cues, List.map_cons]

theorem beginsWith_traceInit (exists' : l.device.effect.toNat < c.effects.length)
    (more : List (Happening ω)) : BeginsWith (((c.traceInit l).1 ++ more).filterMap Happening.cue?)
      l.device.effect l.device.selector.data := by
  have found : c.effect? l.device.effect = some c.effects[l.device.effect.toNat] :=
    List.getElem?_eq_getElem exists'
  rw [traceInit_of_found found]
  exact ⟨_, _, rfl, rfl, rfl, rfl⟩

/-- The cues of a turn are given once it took the changed settings over. -/
theorem turnCues_eq (l : MainLoop ω) : c.turnCues l =
    (c.tracePresent (c.takeOver (c.processSerial l))).1.filterMap Happening.cue? := by
  have quiet : (c.traceSync (c.processSerial l)).1.filterMap Happening.cue? = [] :=
    Happening.filterMap_ofChoice? (fun _ => rfl) _
  unfold turnCues
  rw [traceTurn_fst, List.filterMap_append, quiet, List.nil_append]

/-- A turn that finds an effect which has to begin begins it before anything else. -/
theorem begins_of_marked {d : Device} (taken : (c.takeOver (c.processSerial l)).device = d)
    (marked : d.needsInit = true) (rendering : d.mode.isRendering = true)
    (exists' : d.effect.toNat < c.effects.length) : c.Begins l d.effect d.selector.data := by
  subst taken
  have begun : c.traceMarked (c.takeOver (c.processSerial l)) =
      c.traceInit (c.takeOver (c.processSerial l)) := by
    unfold traceMarked
    rw [marked, rendering]
    rfl
  apply BeginsWith.begins
  rw [turnCues_eq, tracePresent_fst, begun]
  exact beginsWith_traceInit exists' _

/-! ## Requests that are honoured -/

/-- The next turn begins the effect, which then runs in the mode for that. -/
structure HonoursEffect (c : Cube ω) (l : MainLoop ω) (n : UInt8) : Prop where
  begins : c.Begins l n none
  mode : (c.step l).2.device.mode = .effect
  effect : (c.step l).2.device.effect = n

/-- The next turn begins the first entry of the playlist, which then plays in the mode for that. -/
structure HonoursPlaylist (c : Cube ω) (l : MainLoop ω) (n : UInt8) : Prop where
  begins : ∃ entry, (c.playlists.entries n).head? = some entry ∧
    c.Begins l entry.effect entry.data
  mode : (c.step l).2.device.mode = .playlist
  playlist : (c.step l).2.device.playlist = n

/-- A turn that is to run an effect honours a request for this one and for no other. -/
theorem honoursEffect_iff {m : UInt8} (exists' : m.toNat < c.effects.length)
    (taken : (c.takeOver (c.processSerial l)).device.ToRun m) : c.HonoursEffect l n ↔ m = n := by
  have done : (c.step l).2.device.mode = .effect ∧ (c.step l).2.device.effect = m := by
    refine step_device (P := fun d => d.mode = .effect ∧ d.effect = m) (fun _ h => h) ?_
      ⟨taken.mode, taken.effect⟩
    rintro s playing ⟨running, -⟩
    cases playing.symm.trans running
  constructor
  · exact fun honoured => done.2.symm.trans honoured.effect
  · rintro rfl
    have begins := begins_of_marked rfl taken.marked (by rw [taken.mode]; rfl) (taken.effect ▸ exists')
    rw [taken.effect, taken.data] at begins
    exact ⟨begins, done.1, done.2⟩

/-- A turn that is to play a playlist honours a request for this one and for no other. -/
theorem honoursPlaylist_iff {m : UInt8} {selected : UInt8 × Selector}
    (started : Selector.start c.playlists m = .ok selected)
    (taken : (c.takeOver (c.processSerial l)).device.ToPlay m selected) :
    c.HonoursPlaylist l n ↔ m = n := by
  have done : (c.step l).2.device.mode = .playlist ∧ (c.step l).2.device.playlist = m := by
    refine step_device (P := fun d => d.mode = .playlist ∧ d.playlist = m) (fun _ h => h) ?_
      ⟨taken.mode, taken.playlist⟩
    rintro s - playing
    obtain ⟨effect, selector, moved⟩ := c.advancePlaylist_device s
    rw [moved]
    exact playing
  constructor
  · exact fun honoured => done.2.symm.trans honoured.playlist
  · rintro rfl
    obtain ⟨entry, first, effect, data⟩ := Selector.head?_of_start started
    have exists' : selected.1.toNat < c.effects.length := (Selector.start_ok started).2.2.lt c.known
    have begins := begins_of_marked rfl taken.marked (by rw [taken.mode]; rfl) (taken.effect ▸ exists')
    rw [taken.effect, taken.selector, ← effect, ← data] at begins
    exact ⟨⟨entry, first, begins⟩, done.1, done.2⟩

end Cube

/-- **Requests.** A request for an effect or a playlist that is accepted while the line is silent is
honoured by the next turn exactly where the sync of that turn does not select, or selects the same: no
change of the mode, nor of the effect or the playlist, was left to be taken over, nor one of the text if
the effect shows it, or the store has what was asked for. -/
theorem request_honoured_iff (l : MainLoop ω) (silent : (c.board.receive s.world).1 = none) :
    let next : MainLoop ω := { l with toMachine := s }
    let found := (c.syncText { s with world := (c.board.receive s.world).2 }).world
    (c.changeEffect n l.toMachine = .ok s →
      (c.HonoursEffect next n ↔ (c.WantsEffect s.device → c.keptEffect found = n))) ∧
    (c.changePlaylist n l.toMachine = .ok s →
      (c.HonoursPlaylist next n ↔ (Cube.WantsPlaylist s.device → c.keptPlaylist found = n))) := by
  intro next found
  let asked : Machine ω := { s with world := (c.board.receive s.world).2 }
  have taken : (c.takeOver (c.processSerial next)).device = (c.sync asked).device := by
    rw [c.processSerial_silent silent]
    rfl
  constructor
  · intro accepted
    obtain ⟨exists', run⟩ := Cube.changeEffect_ok accepted
    have unplayed : ¬Cube.WantsPlaylist asked.device := by
      rintro ⟨playing, -⟩
      cases playing.symm.trans run.mode
    by_cases wanted : c.WantsEffect asked.device
    · rw [Cube.honoursEffect_iff (c.keptEffect_lt found) ?kept]
      · exact ⟨fun same _ => same, fun same => same wanted⟩
      case kept =>
        rw [taken, Cube.sync_of_effect wanted]
        exact ⟨wanted.1, rfl, rfl, rfl⟩
    · refine iff_of_true ((Cube.honoursEffect_iff exists' ?_).mpr rfl) fun other => absurd other wanted
      rw [taken, Cube.sync_of_neither unplayed wanted]
      exact ⟨run.mode, run.effect, run.data, run.marked⟩
  · intro accepted
    obtain ⟨selected, started, play⟩ := Cube.changePlaylist_ok accepted
    have unrun : ¬c.WantsEffect asked.device := by
      rintro ⟨running, -⟩
      cases running.symm.trans play.mode
    by_cases wanted : Cube.WantsPlaylist asked.device
    · obtain ⟨kept, begun, synced⟩ := Cube.sync_of_playlist wanted
      rw [Cube.honoursPlaylist_iff begun ?kept]
      · exact ⟨fun same _ => same, fun same => same wanted⟩
      case kept =>
        rw [taken, synced]
        exact ⟨wanted.1, rfl, rfl, rfl, rfl⟩
    · refine iff_of_true ((Cube.honoursPlaylist_iff started ?_).mpr rfl) fun other => absurd other wanted
      rw [taken, Cube.sync_of_neither wanted unrun]
      exact ⟨play.mode, play.playlist, play.effect, play.selector, play.marked⟩

namespace Bench

/-- The sample cube after it booted over an empty store. -/
def freshLoop : MainLoop World :=
  let l := sampleCube.mainLoop { world := {} }
  { l with toMachine := sampleCube.perform .boot l.toMachine }

/-- A main loop that was asked for the third effect. -/
def askedLoop (l : MainLoop World) : MainLoop World :=
  { l with toMachine := sampleCube.perform (.changeEffect 2) l.toMachine }

/-- After a turn in which all was taken over, the sample cube begins the effect that it is asked for. -/
theorem askedLater_honoured :
    sampleCube.HonoursEffect (askedLoop (sampleCube.step freshLoop).2) 2 := by
  let l := (sampleCube.step freshLoop).2
  have silent : (sampleBoard.receive (askedLoop l).world).1 = none := by decide +kernel
  have accepted : sampleCube.changeEffect 2 l.toMachine = .ok (askedLoop l).toMachine :=
    if_pos (by decide +kernel)
  have clean : (askedLoop l).device.dirty = .none := by decide +kernel
  refine ((request_honoured_iff l silent).1 accepted).mpr fun wanted => ?_
  have marked := wanted.2
  rw [clean] at marked
  cases marked

/-- Right after it booted the sample cube accepts the request, and begins its first effect. -/
theorem askedFirst_ignored :
    (sampleCube.changeEffect 2 freshLoop.toMachine).toOption.isSome = true ∧
      (sampleBoard.receive (askedLoop freshLoop).world).1 = none ∧
      (askedLoop freshLoop).device.effect = 2 ∧
      (sampleCube.turnCues (askedLoop freshLoop)).map (fun cue => (cue.phase, cue.number)) =
        [(.init, 0), (.draw, 0)] ∧
      (sampleCube.step (askedLoop freshLoop)).2.device.effect = 0 ∧
      ¬sampleCube.HonoursEffect (askedLoop freshLoop) 2 := by
  have ran : (sampleCube.step (askedLoop freshLoop)).2.device.effect = 0 := by decide +kernel
  refine ⟨by decide +kernel, by decide +kernel, by decide +kernel, by decide +kernel, ran, ?_⟩
  intro honoured
  cases ran.symm.trans honoured.effect

end Bench

end VoxelCube
