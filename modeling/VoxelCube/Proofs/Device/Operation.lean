/-
The operations of a device: what can be asked of it at any time, one operation after the other. What
each of them makes of the device is said here once; the statements about runs of operations are built
on it.
-/
import VoxelCube.Device.Dispatch
import VoxelCube.Proofs.Playlist.Places
import VoxelCube.Proofs.Store.Records

namespace VoxelCube

open Playlist Store

/-- What can be asked of a device. -/
inductive Operation (ω : Type) where
  | boot
  | dispatch (sink : Sink ω) (payload : List UInt8)
  | setMode (mode : Mode)
  | changeEffect (effect : UInt8)
  | changePlaylist (playlist : UInt8)
  | storeEffect (effect : UInt8)
  | storePlaylist (playlist : UInt8)
  | storeText (text : List UInt8)
  | storeAddress (address : UInt64)
  | sync
  | advance

namespace Device

variable (d : Device) (settings : Dirty)

@[simp] theorem mark_ofMode : (d.mark .ofMode).dirty.mode = true := Bool.or_true _

variable {d settings}

theorem mode_of_mark (h : (d.mark settings).dirty.mode = false) : d.dirty.mode = false :=
  (Bool.or_eq_false_iff.mp h).1

theorem playlist_of_mark (h : (d.mark settings).dirty.playlist = false) : d.dirty.playlist = false :=
  (Bool.or_eq_false_iff.mp h).1

theorem effect_of_mark (h : (d.mark settings).dirty.effect = false) : d.dirty.effect = false :=
  (Bool.or_eq_false_iff.mp h).1

theorem text_of_mark (h : (d.mark settings).dirty.text = false) : d.dirty.text = false :=
  (Bool.or_eq_false_iff.mp h).1

end Device

namespace Cube

variable {ω : Type} (c : Cube ω) (s : Machine ω)

/-- Does what is asked; what is refused changes nothing. -/
def perform (op : Operation ω) (s : Machine ω) : Machine ω :=
  match op with
  | .boot => c.boot s
  | .dispatch sink payload => (c.dispatch sink payload s).2
  | .setMode mode => c.setMode mode s
  | .changeEffect effect => (c.changeEffect effect s).toOption.getD s
  | .changePlaylist playlist => (c.changePlaylist playlist s).toOption.getD s
  | .storeEffect effect => c.storeEffect effect s
  | .storePlaylist playlist => c.storePlaylist playlist s
  | .storeText text => c.storeText text s
  | .storeAddress address => c.storeAddress address s
  | .sync => c.sync s
  | .advance => c.advancePlaylist s

/-- Does what is asked, one operation after the other. -/
def performAll (ops : List (Operation ω)) (s : Machine ω) : Machine ω :=
  ops.foldl (fun s op => c.perform op s) s

/-! ## Modes -/

theorem enter_device (mode : Mode) : (c.enter mode s).device = { s.device with mode } := by
  unfold enter Mode.enter?
  by_cases same : s.device.mode = mode
  · subst same
    rw [if_pos rfl]
  · rw [if_neg same]

/-- A mode that is not the current one is kept, marked and entered. -/
theorem setMode_other {mode : Mode} (other : s.device.mode ≠ mode) :
    c.setMode mode s = c.enter mode { device := s.device.mark .ofMode,
                                      world := (c.board.write .operatingMode [mode.code] s.world).2 } := by
  unfold setMode
  rw [if_neg other, ← Board.storeMode_world]

theorem setMode_device {mode : Mode} (other : s.device.mode ≠ mode) :
    (c.setMode mode s).device = { s.device.mark .ofMode with mode } := by
  rw [c.setMode_other s other]
  exact c.enter_device _ mode

theorem setMode_same : c.setMode s.device.mode s = s := if_pos rfl

/-- A device boots with the address and the mode that its store has. -/
theorem boot_eq : c.boot s =
    let address := c.board.read .deviceAddress valueRoom s.world
    let answer := c.board.read .operatingMode valueRoom address.2
    let mode := (modeIn answer.1).toOption.getD .idle
    { device := { s.device with
        address := (addressIn address.1).toOption.getD c.config.factoryAddress, mode, dirty := .all },
      world := if mode = .sleep then answer.2 else c.board.powerUp answer.2 } := by
  unfold boot
  rw [Board.readAddress_eq]
  dsimp only
  rw [Board.readMode_eq]
  cases addressIn (c.board.read .deviceAddress valueRoom s.world).1 <;>
    cases modeIn (c.board.read .operatingMode valueRoom
      (c.board.read .deviceAddress valueRoom s.world).2).1 <;> rfl

/-! ## Moving on -/

theorem advancePlaylist_device : ∃ effect selector,
    (c.advancePlaylist s).device = { s.device with effect, selector } := by
  unfold advancePlaylist
  split
  · exact ⟨_, _, rfl⟩
  · exact ⟨s.device.effect, s.device.selector, rfl⟩

theorem advancePlaylist_mode : (c.advancePlaylist s).device.mode = s.device.mode := by
  obtain ⟨effect, selector, moved⟩ := c.advancePlaylist_device s
  rw [moved]

theorem advancePlaylist_world : (c.advancePlaylist s).world = s.world := by
  unfold advancePlaylist
  split <;> rfl

/-! ## Settings for the next sync -/

theorem storeEffect_eq (effect : UInt8) : c.storeEffect effect s =
    { device := s.device.mark .ofEffect, world := (c.board.write .effect [effect] s.world).2 } := by
  rw [← Board.storeEffect_world]
  rfl

theorem storePlaylist_eq (playlist : UInt8) : c.storePlaylist playlist s =
    { device := s.device.mark .ofPlaylist,
      world := (c.board.write .playlist [playlist] s.world).2 } := by
  rw [← Board.storePlaylist_world]
  rfl

theorem storeText_eq (text : List UInt8) : c.storeText text s =
    { device := s.device.mark .ofText,
      world := (c.board.write .effectText (text.take textRoom) s.world).2 } := by
  rw [← Board.storeText_world]
  rfl

theorem storeAddress_eq (address : UInt64) : c.storeAddress address s =
    { device := { s.device with address },
      world := (c.board.write .deviceAddress (Varint.encode address.toNat) s.world).2 } := by
  rw [← Board.storeAddress_world]
  rfl

/-! ## Taking settings over -/

theorem effects_pos : 0 < c.effects.length := by
  have known := c.known _ (List.head_mem c.playlists.master_ne_nil)
  omega

theorem orFirst_lt {ε : Type} {count : Nat} (some : 0 < count) (read : Except ε UInt8) :
    (orFirst count read).toNat < count := by
  unfold orFirst
  split
  · split
    · assumption
    · exact some
  · exact some

/-- A kept playlist can always be played. -/
theorem start_orFirst {ε : Type} (read : Except ε UInt8) :
    ∃ effect selector, Selector.start c.playlists (orFirst c.playlists.count read) =
      .ok (effect, selector) := by
  obtain ⟨effect, selector, started, -⟩ :=
    Selector.start_of_lt_count (orFirst_lt c.playlists.count_pos read)
  exact ⟨effect, selector, started⟩

theorem takeText_eq : c.takeText s =
    let answer := c.board.read .effectText textRoom s.world
    { device := { s.device with text := (textIn answer.1).toOption.getD s.device.text },
      world := answer.2 } := by
  unfold takeText
  rw [Board.readText_eq]
  dsimp only
  cases textIn (c.board.read .effectText textRoom s.world).1 <;> rfl

/-- The playlist that a sync takes over: the stored one, or the first where there is none that exists. -/
def keptPlaylist (w : ω) : UInt8 :=
  orFirst c.playlists.count (byteIn (c.board.read .playlist valueRoom w).1)

/-- The effect that a sync takes over: the stored one, or the first where there is none that exists. -/
def keptEffect (w : ω) : UInt8 := orFirst c.effects.length (byteIn (c.board.read .effect valueRoom w).1)

theorem keptEffect_lt (w : ω) : (c.keptEffect w).toNat < c.effects.length :=
  orFirst_lt c.effects_pos _

theorem takePlaylist_eq : ∃ selected,
    Selector.start c.playlists (c.keptPlaylist s.world) = .ok selected ∧
      c.takePlaylist s = { device := { s.device.play selected with playlist := c.keptPlaylist s.world },
                           world := (c.board.read .playlist valueRoom s.world).2 } := by
  obtain ⟨effect, selector, started⟩ :=
    c.start_orFirst (byteIn (c.board.read .playlist valueRoom s.world).1)
  refine ⟨(effect, selector), started, ?_⟩
  unfold takePlaylist
  rw [Board.readPlaylist_eq]
  dsimp only
  rw [started]
  rfl

theorem takeEffect_eq : c.takeEffect s =
    { device := s.device.runAlone (c.keptEffect s.world),
      world := (c.board.read .effect valueRoom s.world).2 } := by
  unfold takeEffect
  rw [Board.readEffect_eq]
  rfl

/-! ## A sync in steps -/

theorem wantsText_eq (dirty : Dirty) : wantsText dirty = (dirty.mode || dirty.text) := by
  rcases dirty with ⟨_ | _, _ | _, _ | _, _ | _⟩ <;> rfl

theorem wantsPlaylist_eq (dirty : Dirty) (mode : Mode) :
    wantsPlaylist dirty mode = (mode == .playlist && (dirty.mode || dirty.playlist)) := by
  unfold wantsPlaylist
  congr 1
  rcases dirty with ⟨_ | _, _ | _, _ | _, _ | _⟩ <;> rfl

theorem wantsEffect_eq (dirty : Dirty) (d : Device) : c.wantsEffect dirty d =
    (d.mode == .effect && ((dirty.mode || dirty.effect) ||
      (dirty.text && c.hasDynamicText d.effect))) := by
  unfold wantsEffect
  congr 1
  rcases dirty with ⟨_ | _, _ | _, _ | _, _ | _⟩ <;> rfl

/-- The step of a sync that takes the text. -/
def syncText : Machine ω := if s.device.dirty.mode || s.device.dirty.text then c.takeText s else s

/-- The step of a sync that takes the playlist. -/
def syncPlaylist : Machine ω :=
  if s.device.mode = .playlist ∧ (s.device.dirty.mode || s.device.dirty.playlist) then
    c.takePlaylist s
  else s

/-- The step of a sync that takes the effect. -/
def syncEffect : Machine ω :=
  if s.device.mode = .effect ∧ ((s.device.dirty.mode || s.device.dirty.effect) ||
      (s.device.dirty.text && c.hasDynamicText s.device.effect)) then
    c.takeEffect s
  else s

/-- What a step of a sync leaves alone: the mode, the marks and what is no setting. -/
structure SameShell (d d' : Device) : Prop where
  mode : d'.mode = d.mode
  dirty : d'.dirty = d.dirty
  address : d'.address = d.address

theorem syncText_shell : SameShell s.device (c.syncText s).device := by
  unfold syncText
  split
  · rw [takeText_eq]
    exact ⟨rfl, rfl, rfl⟩
  · exact ⟨rfl, rfl, rfl⟩

theorem syncPlaylist_shell : SameShell s.device (c.syncPlaylist s).device := by
  unfold syncPlaylist
  split
  · obtain ⟨selected, -, taken⟩ := c.takePlaylist_eq s
    rw [taken]
    exact ⟨rfl, rfl, rfl⟩
  · exact ⟨rfl, rfl, rfl⟩

theorem syncEffect_shell : SameShell s.device (c.syncEffect s).device := by
  unfold syncEffect
  split
  · rw [takeEffect_eq]
    exact ⟨rfl, rfl, rfl⟩
  · exact ⟨rfl, rfl, rfl⟩

/-- A sync is its three steps, and clears all marks. -/
theorem sync_eq : c.sync s =
    let t := c.syncEffect (c.syncPlaylist (c.syncText s))
    { t with device := { t.device with dirty := .none } } := by
  have text := c.syncText_shell s
  have list := c.syncPlaylist_shell (c.syncText s)
  unfold sync
  by_cases clean : s.device.dirty.isEmpty
  · have none : s.device.dirty = .none := by simpa [Dirty.isEmpty] using clean
    have nothing : c.syncEffect (c.syncPlaylist (c.syncText s)) = s := by
      simp [syncText, syncPlaylist, syncEffect, none, Dirty.none]
    rw [if_pos clean, nothing]
    dsimp only
    rw [← none]
  · have first : (if wantsText s.device.dirty then c.takeText s else s) = c.syncText s := by
      rw [wantsText_eq]
      rfl
    have second : ∀ t : Machine ω, t.device.dirty = s.device.dirty →
        (if wantsPlaylist s.device.dirty t.device.mode then c.takePlaylist t else t) =
          c.syncPlaylist t := by
      intro t same
      rw [wantsPlaylist_eq, ← same]
      simp [syncPlaylist]
    have third : ∀ t : Machine ω, t.device.dirty = s.device.dirty →
        (if c.wantsEffect s.device.dirty t.device then c.takeEffect t else t) = c.syncEffect t := by
      intro t same
      rw [wantsEffect_eq, ← same]
      simp [syncEffect]
    rw [if_neg clean]
    dsimp only
    rw [first, second _ text.dirty, third _ (list.dirty.trans text.dirty)]

/-- A sync reaches the world only by reading the store. -/
theorem sync_world {Q : ω → Prop} (read : ∀ key room w, Q w → Q (c.board.read key room w).2)
    (h : Q s.world) : Q (c.sync s).world := by
  have text : ∀ t : Machine ω, Q t.world → Q (c.syncText t).world := by
    intro t ht
    unfold syncText
    split
    · rw [takeText_eq]
      exact read _ _ _ ht
    · exact ht
  have list : ∀ t : Machine ω, Q t.world → Q (c.syncPlaylist t).world := by
    intro t ht
    unfold syncPlaylist
    split
    · obtain ⟨selected, -, taken⟩ := c.takePlaylist_eq t
      rw [taken]
      exact read _ _ _ ht
    · exact ht
  have effect : ∀ t : Machine ω, Q t.world → Q (c.syncEffect t).world := by
    intro t ht
    unfold syncEffect
    split
    · rw [takeEffect_eq]
      exact read _ _ _ ht
    · exact ht
  rw [c.sync_eq]
  exact effect _ (list _ (text s h))

/-- A sync leaves the mode and the address alone. -/
theorem sync_shell : (c.sync s).device.mode = s.device.mode ∧
    (c.sync s).device.address = s.device.address := by
  have text := c.syncText_shell s
  have list := c.syncPlaylist_shell (c.syncText s)
  have effect := c.syncEffect_shell (c.syncPlaylist (c.syncText s))
  rw [c.sync_eq]
  exact ⟨effect.mode.trans (list.mode.trans text.mode),
    effect.address.trans (list.address.trans text.address)⟩

end Cube

end VoxelCube
