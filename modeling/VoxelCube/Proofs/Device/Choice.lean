/-
What an operation chooses. A choice gives the device another effect to run, alone or as an entry of a
playlist; every other operation leaves what the device selects as it is. What each operation comes to
is said here once, and each property of the selection is a case analysis on it.
-/
import VoxelCube.Proofs.Device.Operation
import VoxelCube.Proofs.Reply.Moves

namespace VoxelCube

open Playlist

/-- A change of what a device selects. -/
inductive Choice where
  /-- An effect, for now. -/
  | effect (number : UInt8)
  /-- A playlist, for now. -/
  | playlist (number : UInt8)
  | keptEffect
  | keptPlaylist
  /-- The next entry of the playing playlist. -/
  | next
  deriving DecidableEq, Repr

/-- What a device selects. -/
def Device.selection (d : Device) : UInt8 × UInt8 × Selector := (d.effect, d.playlist, d.selector)

/-- What a device selects, and its mark to begin, are left as they are. Where a mode is taken over
afterwards, it was so before. -/
structure Device.Stays (d d' : Device) : Prop where
  effect : d'.effect = d.effect
  playlist : d'.playlist = d.playlist
  selector : d'.selector = d.selector
  needsInit : d'.needsInit = d.needsInit
  mode : d'.mode.isRendering = true → d'.dirty.mode = false → d'.mode = d.mode ∧ d.dirty.mode = false

namespace Device.Stays

variable {d d' d'' : Device}

theorem refl (d : Device) : d.Stays d := ⟨rfl, rfl, rfl, rfl, fun _ clean => ⟨rfl, clean⟩⟩

theorem trans (h : d.Stays d') (h' : d'.Stays d'') : d.Stays d'' := by
  refine ⟨h'.effect.trans h.effect, h'.playlist.trans h.playlist, h'.selector.trans h.selector,
    h'.needsInit.trans h.needsInit, fun rendering clean => ?_⟩
  obtain ⟨same', clean'⟩ := h'.mode rendering clean
  obtain ⟨same, settled⟩ := h.mode (same' ▸ rendering) clean'
  exact ⟨same'.trans same, settled⟩

theorem mark (d : Device) (settings : Dirty) : d.Stays (d.mark settings) :=
  ⟨rfl, rfl, rfl, rfl, fun _ clean => ⟨rfl, Device.mode_of_mark clean⟩⟩

theorem selection (h : d.Stays d') : d'.selection = d.selection := by
  unfold Device.selection
  rw [h.effect, h.playlist, h.selector]

end Device.Stays

namespace Cube

variable {ω : Type} (c : Cube ω) (s : Machine ω)

/-- The choice that an operation makes for a machine, if it makes one. -/
def choice? (op : Operation ω) (s : Machine ω) : Option Choice :=
  match op with
  | .changeEffect effect => (c.changeEffect effect s).toOption.map fun _ => .effect effect
  | .changePlaylist playlist => (c.changePlaylist playlist s).toOption.map fun _ => .playlist playlist
  | .sync =>
    if wantsPlaylist s.device.dirty s.device.mode then some .keptPlaylist
    else if c.wantsEffect s.device.dirty s.device then some .keptEffect
    else none
  | .advance =>
    (s.device.selector.advance c.playlists s.device.playlist).toOption.map fun _ => .next
  | _ => none

/-- What a device comes to by a choice, or without one. -/
inductive Chooses (c : Cube ω) (d d' : Device) : Option Choice → Prop where
  | stays (same : d.Stays d') : Chooses c d d' none
  /-- An effect is run on its own, and has to begin. -/
  | effect {choice : Choice} {n : UInt8} (exists' : n.toNat < c.effects.length) (mode : d'.mode = .effect)
    (effect : d'.effect = n) (playlist : d'.playlist = d.playlist)
    (selector : d'.selector = d.selector.withoutData) (needsInit : d'.needsInit = true) :
    Chooses c d d' (some choice)
  /-- A playlist is started, and its first effect has to begin. -/
  | playlist {choice : Choice} {n : UInt8} {selected : UInt8 × Selector}
    (started : Selector.start c.playlists n = .ok selected) (mode : d'.mode = .playlist)
    (playlist : d'.playlist = n) (effect : d'.effect = selected.1) (selector : d'.selector = selected.2)
    (needsInit : d'.needsInit = true) : Chooses c d d' (some choice)
  /-- The playlist moves on, and nothing is marked. -/
  | next {selected : UInt8 × Selector}
    (moved : d.selector.advance c.playlists d.playlist = .ok selected)
    (device : d' = { d with effect := selected.1, selector := selected.2 }) :
    Chooses c d d' (some .next)

variable {c s}

/-! ## Operations -/

theorem stays_setMode (mode : Mode) : s.device.Stays (c.setMode mode s).device := by
  by_cases same : s.device.mode = mode
  · rw [← same, c.setMode_same]
    exact .refl _
  · rw [c.setMode_device s same]
    refine ⟨rfl, rfl, rfl, rfl, fun _ clean => ?_⟩
    cases (Device.mark_ofMode s.device).symm.trans clean

theorem stays_carryOut (change : Change) : s.device.Stays (c.carryOut change s).device := by
  cases change with
  | mode mode => exact stays_setMode mode
  | text text => exact .mark _ .ofText
  | playlist playlist => exact .mark _ .ofPlaylist
  | effect effect => exact .mark _ .ofEffect
  | alarmMask mask => exact ⟨rfl, rfl, rfl, rfl, fun _ clean => ⟨rfl, clean⟩⟩
  | address address => exact ⟨rfl, rfl, rfl, rfl, fun _ clean => ⟨rfl, clean⟩⟩
  | zone offset => exact .refl _
  | time seconds => exact .refl _

/-- No message chooses. -/
theorem stays_dispatch (sink : Sink ω) (payload : List UInt8) :
    s.device.Stays (c.dispatch sink payload s).2.device := by
  have keeps : c.Keeps sink fun t => s.device.Stays t.device :=
    { put := fun _ _ h => h
      readPlaylist := fun _ h => h
      readEffect := fun _ h => h
      change := fun _ _ change _ _ h => h.trans (stays_carryOut change)
      setTime := fun _ _ h => h
      setZone := fun _ _ h => h }
  exact keeps.dispatch payload s (.refl _)

theorem chooses_changeEffect (effect : UInt8) :
    c.Chooses s.device (c.perform (.changeEffect effect) s).device (c.choice? (.changeEffect effect) s) := by
  unfold perform choice? changeEffect
  dsimp only
  split
  · rename_i exists'
    show c.Chooses s.device ((c.enter .effect s).device.runAlone effect) (some (.effect effect))
    rw [c.enter_device]
    exact .effect exists' rfl rfl rfl rfl rfl
  · exact .stays (.refl _)

theorem chooses_changePlaylist (playlist : UInt8) :
    c.Chooses s.device (c.perform (.changePlaylist playlist) s).device
      (c.choice? (.changePlaylist playlist) s) := by
  unfold perform choice? changePlaylist
  dsimp only
  split
  · rename_i selected started
    show c.Chooses s.device { (c.enter .playlist s).device.play selected with playlist }
      (some (.playlist playlist))
    rw [c.enter_device]
    exact .playlist started rfl rfl rfl rfl rfl
  · exact .stays (.refl _)

theorem chooses_advance :
    c.Chooses s.device (c.advancePlaylist s).device (c.choice? .advance s) := by
  unfold advancePlaylist choice?
  dsimp only
  split
  · rename_i moved
    rw [moved]
    exact .next moved rfl
  · rename_i refused
    rw [refused]
    exact .stays (.refl _)

/-! ## A sync -/

/-- A sync is to select a playlist. -/
def WantsPlaylist (d : Device) : Prop := d.mode = .playlist ∧ (d.dirty.mode || d.dirty.playlist) = true

/-- A sync is to select an effect. -/
def WantsEffect (c : Cube ω) (d : Device) : Prop :=
  d.mode = .effect ∧ ((d.dirty.mode || d.dirty.effect) ||
    (d.dirty.text && c.hasDynamicText d.effect)) = true

theorem wantsPlaylist_iff (d : Device) : wantsPlaylist d.dirty d.mode = true ↔ WantsPlaylist d := by
  rw [wantsPlaylist_eq, Bool.and_eq_true, beq_iff_eq]
  rfl

theorem wantsEffect_iff (d : Device) : c.wantsEffect d.dirty d = true ↔ c.WantsEffect d := by
  rw [wantsEffect_eq, Bool.and_eq_true, beq_iff_eq]
  rfl

theorem syncText_device :
    (c.syncText s).device = { s.device with text := (c.syncText s).device.text } := by
  unfold syncText
  split
  · rw [c.takeText_eq]
  · rfl

theorem sync_of_playlist (wanted : WantsPlaylist s.device) : ∃ selected,
    Selector.start c.playlists (c.keptPlaylist (c.syncText s).world) = .ok selected ∧
      (c.sync s).device = { s.device.play selected with
        playlist := c.keptPlaylist (c.syncText s).world, text := (c.syncText s).device.text,
        dirty := .none } := by
  have read := syncText_device (c := c) (s := s)
  obtain ⟨selected, started, taken⟩ := c.takePlaylist_eq (c.syncText s)
  have played : c.syncPlaylist (c.syncText s) = c.takePlaylist (c.syncText s) := by
    unfold syncPlaylist
    rw [read]
    exact if_pos wanted
  have kept : c.syncEffect (c.takePlaylist (c.syncText s)) = c.takePlaylist (c.syncText s) := by
    unfold syncEffect
    rw [taken, read]
    exact if_neg fun alone => by cases alone.1.symm.trans wanted.1
  refine ⟨selected, started, ?_⟩
  rw [c.sync_eq, played, kept, taken, read]
  rfl

theorem sync_of_effect (wanted : c.WantsEffect s.device) :
    (c.sync s).device = { s.device.runAlone (c.keptEffect (c.syncText s).world) with
      text := (c.syncText s).device.text, dirty := .none } := by
  have read := syncText_device (c := c) (s := s)
  have unplayed : c.syncPlaylist (c.syncText s) = c.syncText s := by
    unfold syncPlaylist
    rw [read]
    exact if_neg fun played => by cases played.1.symm.trans wanted.1
  have ran : c.syncEffect (c.syncText s) = c.takeEffect (c.syncText s) := by
    unfold syncEffect
    rw [read]
    exact if_pos wanted
  rw [c.sync_eq, unplayed, ran, c.takeEffect_eq, read]
  rfl

theorem sync_of_neither (playlist : ¬WantsPlaylist s.device) (effect : ¬c.WantsEffect s.device) :
    (c.sync s).device = { s.device with text := (c.syncText s).device.text, dirty := .none } := by
  have read := syncText_device (c := c) (s := s)
  have unplayed : c.syncPlaylist (c.syncText s) = c.syncText s := by
    unfold syncPlaylist
    rw [read]
    exact if_neg playlist
  have idle : c.syncEffect (c.syncText s) = c.syncText s := by
    unfold syncEffect
    rw [read]
    exact if_neg effect
  rw [c.sync_eq, unplayed, idle]
  dsimp only
  rw [read]

/-- A sync changes nothing of the device but its selection and its text, and clears the marks. -/
theorem sync_device (s : Machine ω) : ∃ effect playlist selector needsInit,
    (c.sync s).device = { s.device with effect, playlist, selector, needsInit,
                                        text := (c.syncText s).device.text, dirty := .none } := by
  by_cases played : WantsPlaylist s.device
  · obtain ⟨selected, -, device⟩ := sync_of_playlist (c := c) played
    exact ⟨_, _, _, _, device⟩
  by_cases ran : c.WantsEffect s.device
  · exact ⟨_, _, _, _, sync_of_effect ran⟩
  · exact ⟨_, _, _, _, sync_of_neither played ran⟩

/-- A sync chooses for the mode that it takes over, if that renders. -/
theorem chooses_sync : c.Chooses s.device (c.sync s).device (c.choice? .sync s) := by
  unfold choice?
  dsimp only
  split
  · rename_i wanted
    have wanted := (wantsPlaylist_iff s.device).mp wanted
    obtain ⟨selected, started, device⟩ := sync_of_playlist wanted
    rw [device]
    exact .playlist started wanted.1 rfl rfl rfl rfl
  rename_i unplayed
  rw [wantsPlaylist_iff] at unplayed
  split
  · rename_i wanted
    have wanted := (wantsEffect_iff s.device).mp wanted
    rw [sync_of_effect wanted]
    exact .effect (c.keptEffect_lt _) wanted.1 rfl rfl rfl rfl
  · rename_i idle
    rw [wantsEffect_iff] at idle
    rw [sync_of_neither unplayed idle]
    -- a mode that renders and was still to be taken over would have been chosen for
    refine .stays ⟨rfl, rfl, rfl, rfl, fun rendering _ => ⟨rfl, ?_⟩⟩
    rw [← Bool.not_eq_true]
    intro marked
    cases mode : s.device.mode with
    | sleep | idle =>
      dsimp only at rendering
      rw [mode] at rendering
      cases rendering
    | playlist => exact unplayed ⟨mode, by rw [marked, Bool.true_or]⟩
    | effect => exact idle ⟨mode, by rw [marked, Bool.true_or, Bool.true_or]⟩

/-- **Choices.** Every operation leaves the selection as it is or makes the choice that is told of it. -/
theorem perform_chooses (op : Operation ω) (s : Machine ω) :
    c.Chooses s.device (c.perform op s).device (c.choice? op s) := by
  cases op with
  | boot => exact .stays ⟨rfl, rfl, rfl, rfl, fun _ clean => by cases clean⟩
  | dispatch sink payload => exact .stays (stays_dispatch sink payload)
  | setMode mode => exact .stays (stays_setMode mode)
  | changeEffect effect => exact chooses_changeEffect effect
  | changePlaylist playlist => exact chooses_changePlaylist playlist
  | storeEffect effect => exact .stays (.mark _ .ofEffect)
  | storePlaylist playlist => exact .stays (.mark _ .ofPlaylist)
  | storeText text => exact .stays (.mark _ .ofText)
  | storeAddress address => exact .stays ⟨rfl, rfl, rfl, rfl, fun _ clean => ⟨rfl, clean⟩⟩
  | sync => exact chooses_sync
  | advance => exact chooses_advance

theorem selection_perform {op : Operation ω} {s : Machine ω} (unchosen : c.choice? op s = none) :
    (c.perform op s).device.selection = s.device.selection := by
  have chosen := perform_chooses (c := c) op s
  rw [unchosen] at chosen
  cases chosen with
  | stays same => exact same.selection

theorem choice?_ne_next {op : Operation ω} (still : op ≠ .advance) (s : Machine ω) :
    c.choice? op s ≠ some .next := by
  cases op with
  | advance => exact absurd rfl still
  | changeEffect effect | changePlaylist playlist =>
    intro told
    obtain ⟨_, -, ⟨⟩⟩ := Option.map_eq_some_iff.mp told
  | sync =>
    unfold choice?
    dsimp only
    split
    · rintro ⟨⟩
    · split <;> rintro ⟨⟩
  | boot | dispatch | setMode | storeEffect | storePlaylist | storeText | storeAddress => rintro ⟨⟩

end Cube

end VoxelCube
