/-
How long an entry plays. An entry gives way to the next one of its playlist once the counter is past its
duration. The counter stops at its largest value, so an entry of that duration is never over: where the
counter stopped its effect begins again, and it goes on playing for as long as nobody asks for anything.
-/
import VoxelCube.Proofs.MainLoop.Pacing
import VoxelCube.Proofs.MainLoop.Requests
import VoxelCube.Proofs.Playlist.Cycling

namespace VoxelCube

open Playlist

variable {ω : Type} {c : Cube ω} {l : MainLoop ω}

namespace Cube

/-! ## Turns of a device that plays -/

/-- A device that has taken everything over takes nothing more. -/
theorem takeOver_settled (clean : l.device.dirty = .none) : c.takeOver l = l := by
  have same : c.sync l.toMachine = l.toMachine := by
    unfold sync
    rw [clean]
    rfl
  unfold takeOver
  rw [same]

theorem render_device (begun : l.device.needsInit = false) : (c.render l).2.device = l.device := by
  have again : (c.initEffect (c.readTicks l).2).device = l.device := by
    rw [c.initEffect_device]
    show { l.device with needsInit := false } = l.device
    rw [← begun]
  rw [render_eq]
  split
  · rfl
  split
  · rfl
  split
  · exact (c.drawAt_shell _ _).1.trans again
  · exact (c.drawAt_shell _ _).1

/-- The turn of a settled device that plays, with a silent line: the entry may be over, and then the effect
may draw. -/
theorem play_eq (settled : l.device.Settled) (playing : l.device.mode = .playlist)
    (silent : (c.board.receive l.world).1 = none) :
    let heard := { l with world := (c.board.receive l.world).2 }
    c.step l = c.render (c.expireEntry heard) ∧ c.turnCues l =
      ((c.traceExpire heard).1 ++ (c.traceRender (c.expireEntry heard)).1).filterMap Happening.cue? := by
  intro heard
  have taken : c.takeOver (c.processSerial l) = heard := by
    rw [c.processSerial_silent silent]
    exact takeOver_settled settled.clean
  have unmarked : ¬(heard.device.needsInit && heard.device.mode.isRendering) = true := by
    rw [show heard.device.needsInit = false from settled.begun]
    exact Bool.false_ne_true
  have begun : c.beginMarked heard = heard := if_neg unmarked
  have untold : (c.traceMarked heard).1 = [] := congrArg Prod.fst (if_neg unmarked)
  have mode : heard.device.mode = .playlist := playing
  constructor
  · rw [c.step_eq, taken]
    unfold present
    rw [begun, mode]
  · rw [c.turnCues_eq, taken, tracePresent_fst, begun, untold, mode]
    rfl

/-- Up to its duration the entry stays. -/
theorem step_early (settled : l.device.Settled) (playing : l.device.mode = .playlist)
    (silent : (c.board.receive l.world).1 = none) :
    let heard := { l with world := (c.board.receive l.world).2 }
    ¬l.device.selector.duration < (c.readTicks heard).1 → (c.step l).2.device = l.device ∧
      c.turnCues l = (c.traceRender (c.readTicks heard).2).1.filterMap Happening.cue? := by
  intro heard early
  obtain ⟨turn, cues⟩ := play_eq settled playing silent
  have stays : c.expireEntry heard = (c.readTicks heard).2 := by
    rw [expireEntry_eq]
    exact if_neg early
  have untold : (c.traceExpire heard).1 = [] := by
    rw [traceExpire_eq]
    exact congrArg Prod.fst (if_neg early)
  rw [stays] at turn cues
  rw [untold, List.nil_append] at cues
  constructor
  · rw [turn]
    exact render_device settled.begun
  · exact cues

/-! ## Entries that are over -/

/-- The turn moves the playlist on to the next entry, the first one behind the last, and begins its
effect with its data. -/
def MovesOn (c : Cube ω) (l : MainLoop ω) : Prop :=
  ∃ start stop entry, c.playlists.range? l.device.playlist = some (start, stop) ∧
    let place := nextPlace start stop l.device.selector.index.toNat
    c.playlists.master[place]? = some entry ∧
      (c.step l).2.device.playlist = l.device.playlist ∧
      (c.step l).2.device.selector = Selector.ofEntry place entry ∧
      (c.step l).2.device.effect = entry.effect ∧ c.Begins l entry.effect entry.data

/-- Past its duration the entry gives way to the next one. -/
theorem movesOn_of_late (reached : Reachable c l) (settled : l.device.Settled)
    (playing : l.device.mode = .playlist) (silent : (c.board.receive l.world).1 = none)
    (late : l.device.selector.duration <
      (c.readTicks { l with world := (c.board.receive l.world).2 }).1) : c.MovesOn l := by
  obtain ⟨start, stop, range, after, before⟩ := reached.selected.place
  obtain ⟨entry, found, moved⟩ := Selector.advance_eq range after before
  obtain ⟨turn, cues⟩ := play_eq settled playing silent
  let heard := { l with world := (c.board.receive l.world).2 }
  let next := c.moveOn (c.readTicks heard).2
  have device : next.device = { l.device with
      effect := entry.effect
      selector := Selector.ofEntry (nextPlace start stop l.device.selector.index.toNat) entry } := by
    show (c.advancePlaylist (c.readTicks heard).2.toMachine).device = _
    unfold advancePlaylist
    rw [show (c.readTicks heard).2.toMachine.device = l.device from rfl, moved]
  have ended : c.expireEntry heard = c.initEffect next := by
    rw [expireEntry_eq]
    exact if_pos late
  have told : (c.traceExpire heard).1 = (c.traceNext (c.readTicks heard).2).1 ++ (c.traceInit next).1 := by
    rw [traceExpire_eq]
    exact congrArg Prod.fst (if_pos late)
  have quiet : (c.traceNext (c.readTicks heard).2).1.filterMap Happening.cue? = [] :=
    Happening.filterMap_ofChoice? (fun _ => rfl) _
  have result : (c.step l).2.device = { next.device with needsInit := false } := by
    rw [turn, ended, render_device (by rw [c.initEffect_device]), c.initEffect_device]
  have known : next.device.effect.toNat < c.effects.length := by
    rw [device]
    exact c.known entry (List.mem_of_getElem? found)
  have begins := beginsWith_traceInit known (c.traceRender (c.expireEntry heard)).1
  rw [told, List.append_assoc, List.filterMap_append, quiet, List.nil_append] at cues
  rw [← cues] at begins
  rw [device] at result begins
  refine ⟨start, stop, entry, range, found, ?_, ?_, ?_, begins.begins⟩
  · rw [result]
  · rw [result]
  · rw [result]

/-- A counter that stopped is still there when the line was asked. -/
theorem heard_stopped (ticking : Ticking c) (stopped : c.board.ticks l.world = 65535) :
    (c.readTicks { l with world := (c.board.receive l.world).2 }).1 = 65535 := by
  refine ticking.readTicks_stopped ?_
  exact last_of_le stopped (ticking.receive l.world)

/-- Where the counter stopped, an entry that stays has moved on exactly if it is the only one of its
playlist and no frame waits, so that its effect begins again. -/
theorem movesOn_of_early_iff (ticking : Ticking c) (reached : Reachable c l) (settled : l.device.Settled)
    (playing : l.device.mode = .playlist) (silent : (c.board.receive l.world).1 = none)
    (stopped : c.board.ticks l.world = 65535) (longest : l.device.selector.duration = 65535) :
    c.MovesOn l ↔
      (c.playlists.entries l.device.playlist).length = 1 ∧ l.frame.mayFlip = false := by
  let heard := { l with world := (c.board.receive l.world).2 }
  have last : (c.readTicks heard).1 = 65535 := heard_stopped ticking stopped
  have early : ¬l.device.selector.duration < (c.readTicks heard).1 := by
    rw [longest, last]
    exact UInt16.lt_irrefl _
  obtain ⟨start, stop, range, after, before⟩ := reached.selected.place
  obtain ⟨device, cues⟩ := step_early settled playing silent early
  rw [Catalog.length_entries range, ← nextPlace_eq_self_iff after before]
  constructor
  · rintro ⟨start', stop', entry, range', found, -, selector, -, begins⟩
    cases range.symm.trans range'
    have inside := (List.getElem?_eq_some_iff.mp found).1
    have index := Selector.ofEntry_index (Catalog.lt_256_of_lt_length inside) entry
    rw [← selector, device] at index
    refine ⟨index.symm, ?_⟩
    by_contra waiting
    rw [Bool.not_eq_false] at waiting
    obtain ⟨cue, rest, begun, -⟩ := begins.cues
    have pending : (c.traceRender (c.readTicks heard).2).1 = [] := by
      rw [traceRender_eq]
      exact congrArg Prod.fst (if_pos waiting)
    rw [pending] at cues
    cases cues.symm.trans begun
  · rintro ⟨alone, closed⟩
    obtain ⟨entry, found, effect, duration, data⟩ :=
      reached.selected.plays playing (by rw [settled.clean]; rfl)
    have same : l.device.selector = Selector.ofEntry l.device.selector.index.toNat entry := by
      rw [Selector.ofEntry, UInt8.ofNat_toNat, duration, data]
    have still : (c.readTicks (c.readTicks heard).2).1 = 65535 := ticking.readTicks_stopped last
    have begins := beginsWith_traceInit (l := (c.readTicks (c.readTicks heard).2).2) reached.selected.effect
      (c.traceFrame (c.initEffect (c.readTicks (c.readTicks heard).2).2)).1
    rw [traceRender_stopped (l := (c.readTicks heard).2) closed still] at cues
    rw [← cues] at begins
    change BeginsWith _ l.device.effect l.device.selector.data at begins
    rw [← effect, ← data] at begins
    refine ⟨start, stop, entry, range, ?_⟩
    dsimp only
    rw [alone, device]
    exact ⟨found, rfl, same, effect.symm, begins.begins⟩

end Cube

/-! ## Runs -/

/-- Where a main loop comes to by turns with a silent line, while the display asks for frames and the
world may become another one. -/
inductive Undisturbed (c : Cube ω) (l : MainLoop ω) : MainLoop ω → Prop where
  | start : Undisturbed c l l
  | turn {l' : MainLoop ω} (run : Undisturbed c l l') (silent : (c.board.receive l'.world).1 = none) :
    Undisturbed c l (c.step l').2
  | swap {l' : MainLoop ω} (run : Undisturbed c l l') :
    Undisturbed c l { l' with frame := l'.frame.swap.2 }
  | around {l' : MainLoop ω} (run : Undisturbed c l l') (world : ω) :
    Undisturbed c l { l' with world }

/-- An entry of the largest duration plays on. -/
theorem Undisturbed.device_eq {l' : MainLoop ω} (run : Undisturbed c l l') (settled : l.device.Settled)
    (playing : l.device.mode = .playlist) (longest : l.device.selector.duration = 65535) :
    l'.device = l.device := by
  induction run with
  | start => rfl
  | @turn l' _ silent ih =>
    have early : ¬l'.device.selector.duration <
        (c.readTicks { l' with world := (c.board.receive l'.world).2 }).1 := by
      rw [ih, longest, UInt16.not_lt, UInt16.le_iff_toNat_le]
      exact Nat.le_of_lt_succ (UInt16.toNat_lt _)
    rw [← ih]
    exact (Cube.step_early (ih ▸ settled) (ih ▸ playing) silent early).1
  | swap _ ih => exact ih
  | around _ _ ih => exact ih

/-- **Expiry.** Where the counter stopped, a settled device that plays moves on to the next entry of its
playlist and begins its effect, unless the entry that plays has the largest duration; then it begins the
same effect again, which is to move on in a playlist of one entry, or waits for its frame to be taken. Such
an entry plays for as long as the device is left alone. -/
theorem entry_gives_way_iff (ticking : Ticking c) (reached : Reachable c l) (settled : l.device.Settled)
    (playing : l.device.mode = .playlist) :
    ∃ entry, c.playlists.master[l.device.selector.index.toNat]? = some entry ∧
      entry.effect = l.device.effect ∧
      ((c.board.receive l.world).1 = none → c.board.ticks l.world = 65535 →
        (c.MovesOn l ↔ entry.duration ≠ 65535 ∨
          (c.playlists.entries l.device.playlist).length = 1 ∧ l.frame.mayFlip = false)) ∧
      (entry.duration = 65535 → ∀ l', Undisturbed c l l' → l'.device = l.device) := by
  obtain ⟨entry, found, effect, duration, data⟩ :=
    reached.selected.plays playing (by rw [settled.clean]; rfl)
  refine ⟨entry, found, effect, fun silent stopped => ?_, fun longest l' run => ?_⟩
  · rw [duration]
    by_cases longest : l.device.selector.duration = 65535
    · rw [Cube.movesOn_of_early_iff ticking reached settled playing silent stopped longest,
        or_iff_right (not_not_intro longest)]
    · have late : l.device.selector.duration <
          (c.readTicks { l with world := (c.board.receive l.world).2 }).1 := by
        rw [Cube.heard_stopped ticking stopped, UInt16.lt_iff_toNat_lt]
        refine Nat.lt_of_le_of_ne (Nat.le_of_lt_succ l.device.selector.duration.toNat_lt) fun same => ?_
        exact longest (UInt16.toNat_inj.mp same)
      exact iff_of_true (Cube.movesOn_of_late reached settled playing silent late) (.inl longest)
  · exact run.device_eq settled playing (duration ▸ longest)

namespace Bench

/-- The first entry of the sample cube gives way to the second one. -/
theorem firstEntry_gives_way : sampleCube.MovesOn (agedLoop (agedLoop bootedLoop 2) 65535) := by
  have settled : (agedLoop (agedLoop bootedLoop 2) 65535).device.Settled :=
    ⟨by decide +kernel, by decide +kernel, by decide +kernel⟩
  obtain ⟨entry, found, -, gives, -⟩ :=
    entry_gives_way_iff sampleTicking pacedLog_watched.reachable settled (by decide +kernel)
  have first : (agedLoop (agedLoop bootedLoop 2) 65535).device.selector.index.toNat = 0 := by
    decide +kernel
  rw [first] at found
  have short : entry.duration ≠ 65535 := by
    rw [← Option.some.inj found]
    decide
  exact (gives (by decide +kernel) (by decide +kernel)).mpr (.inl short)

/-- A main loop when the display took the frame and the counter stopped. -/
def atLastTick (l : MainLoop World) : MainLoop World :=
  { l with frame := l.frame.swap.2, world := { l.world with world := { l.world.world with ticks := 65535 } } }

theorem atLastTick_reachable {c : Cube World} {l : MainLoop World} (reached : Reachable c l) :
    Reachable c (atLastTick l) := reached.around rfl

/-- A cube that booted to play, at the last tick after its first turn. -/
def stoppedLoop (c : Cube World) : MainLoop World :=
  let l := c.mainLoop { world := Memory.put {} .operatingMode (some [Mode.playlist.code]) }
  atLastTick (c.step { l with toMachine := c.perform .boot l.toMachine }).2

theorem stoppedLoop_reachable (c : Cube World) : Reachable c (stoppedLoop c) :=
  atLastTick_reachable (((Reachable.new _).perform .boot).step)

/-- The sample cube with an entry of the largest duration before another one. -/
def patientCube : Cube World :=
  { sampleCube with
    playlists :=
      { master := [⟨0, 65535, none⟩, ⟨1, 20, none⟩], starts := [0], names := sampleNames,
        sizes := by decide +kernel, cuts := by decide +kernel }
    known := by decide +kernel }

/-- The first entry of this cube does not give way to the second one, but begins again. -/
theorem patientEntry_stays : Reachable patientCube (stoppedLoop patientCube) ∧
    (stoppedLoop patientCube).device.Settled ∧ (stoppedLoop patientCube).device.mode = .playlist ∧
    (patientCube.board.receive (stoppedLoop patientCube).world).1 = none ∧
    patientCube.board.ticks (stoppedLoop patientCube).world = 65535 ∧
    (patientCube.turnCues (stoppedLoop patientCube)).map (fun cue => (cue.phase, cue.number)) =
      [(.init, 0), (.draw, 0)] ∧
    (patientCube.step (stoppedLoop patientCube)).2.device.selector.index = 0 ∧
    ¬patientCube.MovesOn (stoppedLoop patientCube) := by
  have stays : (patientCube.step (stoppedLoop patientCube)).2.device.selector.index = 0 := by
    decide +kernel
  refine ⟨stoppedLoop_reachable patientCube, ⟨by decide +kernel, by decide +kernel, by decide +kernel⟩,
    by decide +kernel, by decide +kernel, by decide +kernel, by decide +kernel, stays, ?_⟩
  rintro ⟨start, stop, entry, range, -, -, selector, -⟩
  have whole : patientCube.playlists.range? (stoppedLoop patientCube).device.playlist = some (0, 2) := by
    decide +kernel
  have first : (stoppedLoop patientCube).device.selector.index = 0 := by decide +kernel
  cases range.symm.trans whole
  rw [first] at selector
  rw [selector] at stays
  cases stays

end Bench

end VoxelCube
