/-
A new effect text. A sync that has nothing to take over but the text goes on with what runs, and an
effect that shows the text begins again. That effect is taken from the store for it, so that the device
goes on with the same one as long as the store has the effect that runs: the invariant says that it has,
unless an effect was chosen for now only and nothing was chosen since.
-/
import VoxelCube.Proofs.Device.Reboot
import VoxelCube.Proofs.Device.Selection

namespace VoxelCube

open Playlist Store

variable {ω : Type} {c : Cube ω} {store : c.board.KeyValue} {r : Contents} {s : Machine ω}
  {last : Option Choice}

namespace Cube

/-! ## A sync of the text -/

/-- The device runs an effect on its own that shows the text. -/
def showsText (c : Cube ω) (d : Device) : Bool := d.mode == .effect && c.hasDynamicText d.effect

/-- A device goes on with a text: an effect that shows it has to begin again, and nothing else changes. -/
def withText (c : Cube ω) (d : Device) (text : List UInt8) : Device :=
  { d with text, dirty := .none, needsInit := c.showsText d || d.needsInit }

theorem showsText_iff {d : Device} (marked : d.dirty = .ofText) :
    c.showsText d = true ↔ c.WantsEffect d := by
  unfold showsText WantsEffect
  rw [marked, Bool.and_eq_true, beq_iff_eq]
  simp [Dirty.ofText]

theorem syncText_has (h : store.Has r s.world) : store.Has r (c.syncText s).world := by
  unfold syncText
  split
  · rw [c.takeText_eq]
    exact h.read _ _
  · exact h

/-- The text is taken over, and an effect that shows it is taken from the store. -/
theorem sync_ofText (h : store.Has r s.world) (alone : s.device.Alone)
    (marked : s.device.dirty = .ofText) :
    (c.sync s).device = { c.withText s.device (r.text?.getD s.device.text) with
      effect := if c.showsText s.device then r.effect c.effects.length else s.device.effect } := by
  have text : (c.syncText s).device.text = r.text?.getD s.device.text := by
    unfold syncText
    rw [if_pos (by rw [marked]; rfl), c.takeText_eq]
    dsimp only
    rw [h.answer]
    rfl
  have world := syncText_has (c := c) h
  have unplayed : ¬WantsPlaylist s.device := by
    rintro ⟨-, wanted⟩
    rw [marked] at wanted
    cases wanted
  by_cases shows : c.showsText s.device = true
  · have wanted := (showsText_iff marked).mp shows
    have same : s.device.selector.withoutData = s.device.selector := by
      have none := alone wanted.1 (by rw [marked]; rfl)
      unfold Selector.withoutData
      rw [← none]
    rw [sync_of_effect wanted, keptEffect_eq world, text]
    simp [withText, Device.runAlone, shows, same]
  · rw [sync_of_neither unplayed (mt (showsText_iff marked).mpr shows), text]
    simp [withText, shows]

/-! ## Histories -/

/-- What a device may be asked while its store works: to send replies only where the store is not, and to
move on only while it plays. -/
def Undisturbed (store : c.board.KeyValue) (s : Machine ω) : Operation ω → Prop
  | .dispatch sink _ => store.Spares sink
  | .advance => s.device.mode = .playlist
  | _ => True

/-- A machine over a store that works, with the last choice that was made of its new device. -/
inductive History (c : Cube ω) (store : c.board.KeyValue) : Option Choice → Machine ω → Prop where
  | new {w : ω} (working : store.working w) : History c store none (c.machine w)
  | perform {last : Option Choice} {s : Machine ω} (h : History c store last s) {op : Operation ω}
    (undisturbed : Undisturbed store s op) :
    History c store ((c.choice? op s).or last) (c.perform op s)

theorem History.alone (h : c.History store last s) : s.device.Alone := by
  induction h with
  | new => exact fun running => by cases running
  | @perform _ s _ op undisturbed ih =>
    by_cases moves : op = .advance
    · subst moves
      have playing : (c.advancePlaylist s).device.mode = .playlist :=
        (c.advancePlaylist_mode s).trans undisturbed
      intro running
      cases running.symm.trans playing
    · exact ih.perform moves

/-- The effect that runs alone is the one in the store, unless it is still to be taken over from there or
was chosen for now. -/
structure Recalls (c : Cube ω) (store : c.board.KeyValue) (last : Option Choice) (r : Contents)
    (s : Machine ω) : Prop where
  world : store.Has r s.world
  effect : s.device.mode = .effect → s.device.dirty.mode = false → s.device.dirty.effect = false →
    (∀ n, last ≠ some (.effect n)) → s.device.effect = r.effect c.effects.length

namespace Recalls

theorem within (h : c.Recalls store last r s) {world : ω} (same : store.Has r world) :
    c.Recalls store last r { s with world } :=
  { h with world := same }

/-- Nothing is said of a device in another mode, or one that is still to take its mode over. -/
theorem elsewhere (world : store.Has r s.world)
    (other : s.device.mode ≠ .effect ∨ s.device.dirty.mode = true) : c.Recalls store last r s := by
  refine ⟨world, fun running clean => ?_⟩
  rcases other with other | marked
  · exact absurd running other
  · cases marked.symm.trans clean

theorem mark (h : c.Recalls store last r s) {key : Key} {record : List UInt8} {settings : Dirty} {w : ω}
    (written : store.Has (r.set key record) w) (effect : .effect = key → settings.effect = true) :
    c.Recalls store last (r.set key record) { device := s.device.mark settings, world := w } := by
  refine ⟨written, fun running clean unmarked lasting => ?_⟩
  by_cases same : .effect = key
  · have marked : (s.device.dirty.effect || settings.effect) = true := by
      rw [effect same, Bool.or_true]
    cases marked.symm.trans unmarked
  · rw [r.effect_set_other same]
    exact h.effect running (Device.mode_of_mark clean) (Device.effect_of_mark unmarked) lasting

theorem carryOut (h : c.Recalls store last r s) (change : Change) :
    ∃ r, c.Recalls store last r (c.carryOut change s) := by
  cases change with
  | mode mode =>
    show ∃ r, c.Recalls store last r (c.setMode mode s)
    by_cases same : s.device.mode = mode
    · rw [← same, c.setMode_same]
      exact ⟨r, h⟩
    · refine ⟨_, elsewhere (setMode_kept h.world same).2 (.inr ?_)⟩
      rw [c.setMode_device s same]
      exact Device.mark_ofMode _
  | alarmMask mask => exact ⟨r, h.world, h.effect⟩
  | zone offset => exact ⟨r, h.within (h.world.setZone offset)⟩
  | time seconds => exact ⟨r, h.within (h.world.setTime _)⟩
  | text text =>
    exact ⟨_, (c.storeText_eq s text).symm ▸ h.mark (h.world.write _ _) (fun key => by cases key)⟩
  | playlist playlist =>
    exact ⟨_, (c.storePlaylist_eq s playlist).symm ▸ h.mark (h.world.write _ _) (fun key => by cases key)⟩
  | effect effect =>
    exact ⟨_, (c.storeEffect_eq s effect).symm ▸ h.mark (h.world.write _ _) (fun _ => rfl)⟩
  | address address =>
    refine ⟨r.set .deviceAddress (Varint.encode address.toNat), ?_⟩
    show c.Recalls store last _ (c.storeAddress address s)
    rw [c.storeAddress_eq]
    refine ⟨h.world.write _ _, ?_⟩
    rw [r.effect_set_other (by decide)]
    exact h.effect

theorem dispatch (h : c.Recalls store last r s) {sink : Sink ω} (spares : store.Spares sink)
    (payload : List UInt8) : ∃ r, c.Recalls store last r (c.dispatch sink payload s).2 :=
  dispatch_of_changes spares (fun h => h.world) (fun h => h.within) (fun _ h => h.carryOut _) payload h

theorem changeEffect (h : c.Recalls store last r s) (effect : UInt8) :
    c.Recalls store ((c.choice? (.changeEffect effect) s).or last) r
      (c.perform (.changeEffect effect) s) := by
  unfold choice? perform Cube.changeEffect
  dsimp only
  split
  · refine ⟨entered h.world .effect, fun _ _ _ lasting => ?_⟩
    exact absurd rfl (lasting effect)
  · exact h

theorem changePlaylist (h : c.Recalls store last r s) (playlist : UInt8) :
    c.Recalls store ((c.choice? (.changePlaylist playlist) s).or last) r
      (c.perform (.changePlaylist playlist) s) := by
  unfold choice? perform Cube.changePlaylist
  dsimp only
  split
  · rename_i selected started
    refine elsewhere (entered h.world .playlist) (.inl fun running => ?_)
    have entering := c.enter_device s .playlist
    cases (congrArg Device.mode entering).symm.trans running
  · exact h

theorem sync (h : c.Recalls store last r s) :
    c.Recalls store ((c.choice? .sync s).or last) r (c.sync s) := by
  have world : store.Has r (c.sync s).world :=
    c.sync_world s (fun key room _ has => has.read key room) h.world
  unfold choice?
  dsimp only
  split
  · rename_i wanted
    have wanted := (wantsPlaylist_iff s.device).mp wanted
    refine elsewhere world (.inl fun running => ?_)
    obtain ⟨selected, -, device⟩ := sync_of_playlist wanted
    rw [device] at running
    cases wanted.1.symm.trans running
  rename_i unplayed
  rw [wantsPlaylist_iff] at unplayed
  split
  · rename_i wanted
    have wanted := (wantsEffect_iff s.device).mp wanted
    refine ⟨world, fun _ _ _ _ => ?_⟩
    have kept : store.Has r (c.syncText s).world := syncText_has h.world
    rw [sync_of_effect wanted, keptEffect_eq kept]
    rfl
  · rename_i idle
    rw [wantsEffect_iff] at idle
    rw [Option.none_or]
    refine ⟨world, fun running _ _ lasting => ?_⟩
    rw [sync_of_neither unplayed idle] at running ⊢
    -- what a sync does not take over in this mode was not marked
    have clean : ¬(s.device.dirty.mode || s.device.dirty.effect) = true :=
      fun marked => idle ⟨running, by rw [marked, Bool.true_or]⟩
    obtain ⟨mode, effect⟩ := Bool.or_eq_false_iff.mp (Bool.not_eq_true _ ▸ clean)
    exact h.effect running mode effect lasting

end Recalls

theorem History.recalls (h : c.History store last s) : ∃ r, c.Recalls store last r s := by
  induction h with
  | new working => exact ⟨_, .elsewhere ⟨working, rfl⟩ (.inl fun running => by cases running)⟩
  | @perform last s _ op undisturbed ih =>
    obtain ⟨r, h⟩ := ih
    cases op with
    | boot =>
      have marked : (c.boot s).device.dirty = .all := by rw [c.boot_eq]
      exact ⟨r, .elsewhere (boot_restores h.world).2 (.inr (congrArg Dirty.mode marked))⟩
    | dispatch sink payload => exact h.dispatch undisturbed payload
    | setMode mode => exact h.carryOut (.mode mode)
    | storeEffect effect => exact h.carryOut (.effect effect)
    | storePlaylist playlist => exact h.carryOut (.playlist playlist)
    | storeText text => exact h.carryOut (.text text)
    | storeAddress address => exact h.carryOut (.address address)
    | sync => exact ⟨r, h.sync⟩
    | changeEffect effect => exact ⟨r, h.changeEffect effect⟩
    | changePlaylist playlist => exact ⟨r, h.changePlaylist playlist⟩
    | advance =>
      have world : (c.advancePlaylist s).world = s.world := c.advancePlaylist_world s
      have playing : (c.advancePlaylist s).device.mode = .playlist :=
        (c.advancePlaylist_mode s).trans undisturbed
      exact ⟨r, .elsewhere (world ▸ h.world) (.inl fun running => by cases running.symm.trans playing)⟩

end Cube

/-- **A new text.** Whatever was asked of a device over a store that works, if only the text is marked, a
sync takes it over, and an effect that runs alone and shows it has to begin again. Nothing else changes,
except that this effect is taken from the store: the device goes on with the same one exactly where the
store has it. So it does unless the last choice was an effect for now only. -/
theorem text_change_goes_on (h : c.History store last s) (marked : s.device.dirty = .ofText) :
    let d := s.device
    let r := store.records s.world
    let kept := r.effect c.effects.length
    let goesOn := c.withText d (r.text?.getD d.text)
    (c.sync s).device = { goesOn with effect := if c.showsText d then kept else d.effect } ∧
      ((c.sync s).device = goesOn ↔ (c.showsText d → kept = d.effect)) ∧
      ((∀ n, last ≠ some (.effect n)) → (c.sync s).device = goesOn) := by
  intro d r kept goesOn
  obtain ⟨r', recalls⟩ := h.recalls
  obtain rfl : r = r' := recalls.world.2
  have synced : (c.sync s).device =
      { goesOn with effect := if c.showsText d then kept else d.effect } :=
    Cube.sync_ofText recalls.world h.alone marked
  have goes_iff : (c.sync s).device = goesOn ↔ (c.showsText d → kept = d.effect) := by
    rw [synced]
    constructor
    · intro same shows
      have effect := congrArg Device.effect same
      rwa [if_pos shows] at effect
    · intro same
      by_cases shows : c.showsText d
      · rw [if_pos shows, same shows]
        rfl
      · rw [if_neg shows]
        rfl
  refine ⟨synced, goes_iff, fun lasting => goes_iff.mpr fun shows => ?_⟩
  have running := ((Cube.showsText_iff marked).mp shows).1
  exact (recalls.effect running (by rw [marked]; rfl) (by rw [marked]; rfl) lasting).symm

namespace Bench

/-- The sample cube was told to keep its scrolling effect and to run it, and then given a text. -/
def scrollingMachine : Machine World :=
  sampleCube.performAll [.boot, .storeEffect 4, .setMode .effect, .sync, .storeText (textBytes "night")]
    (sampleCube.machine { world := {} })

/-- It begins the same effect again. -/
theorem scrollingMachine_goes_on :
    let d := (sampleCube.sync scrollingMachine).device
    d.effect = 4 ∧ d.text = textBytes "night" ∧ d.needsInit = true := by
  have new : sampleCube.History sampleStore none (sampleCube.machine { world := {} }) := .new ⟨rfl, rfl⟩
  have booted := new.perform (show Cube.Undisturbed _ _ .boot from trivial)
  have stored := booted.perform (show Cube.Undisturbed _ _ (.storeEffect 4) from trivial)
  have entered := stored.perform (show Cube.Undisturbed _ _ (.setMode .effect) from trivial)
  have ran := entered.perform (show Cube.Undisturbed _ _ .sync from trivial)
  have texted := ran.perform (show Cube.Undisturbed _ _ (.storeText (textBytes "night")) from trivial)
  obtain ⟨last, chosen, told⟩ : ∃ last, last = some .keptEffect ∧
      sampleCube.History sampleStore last scrollingMachine := ⟨_, by decide +kernel, texted⟩
  obtain ⟨-, -, goesOn⟩ := text_change_goes_on told (by decide +kernel)
  rw [goesOn (by simp [chosen])]
  decide +kernel

/-- The sample cube was told to run its scrolling effect for now, and then given a text. -/
def scrollingForNow : Machine World :=
  let s := sampleCube.performAll [.boot, .sync] (sampleCube.machine { world := {} })
  sampleCube.performAll [.changeEffect 4, .storeText (textBytes "hi")] s

/-- It goes on with another effect. -/
theorem scrollingForNow_moves :
    scrollingForNow.device.dirty = .ofText ∧ scrollingForNow.device.mode = .effect ∧
      scrollingForNow.device.effect = 4 ∧ (sampleCube.sync scrollingForNow).device.effect = 0 := by
  decide +kernel

end Bench

end VoxelCube
