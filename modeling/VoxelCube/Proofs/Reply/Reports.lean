/-
What attributes report of a snapshot. An attribute that can be written shows the setting that writing it
sets and no other, so that a change is seen in the attributes of its setting alone. What a device does by
itself, taking settings over and moving on in its playlist, leaves all of them as they are.
-/
import VoxelCube.Proofs.Device.Choice
import VoxelCube.Proofs.Device.Snapshot
import VoxelCube.Proofs.Reply.Reading
import VoxelCube.Proofs.Reply.Writing

namespace VoxelCube

open Store

/-- The setting that an attribute shows, if it can be set. -/
def Attribute.setting? : Attribute → Option Setting
  | .deviceEnabled | .operatingMode => some .mode
  | .alarmMask => some .alarmMask
  | .effectText => some .text
  | .playlist => some .playlist
  | .timezone => some .zone
  | .time => some .time
  | .effect => some .effect
  | .deviceAddress => some .address
  | .effectNames | .playlistNames | .playlistEffects | .hardwareVersion | .softwareVersion
  | .playlistPosition => none

/-- No two attributes show one setting, apart from the two that show the mode. -/
theorem Attribute.setting?_inj {a b : Attribute} (same : a.setting? = b.setting?) :
    a.setting? = none ∨ b = a ∨ (a = .deviceEnabled ∧ b = .operatingMode) ∨
      (a = .operatingMode ∧ b = .deviceEnabled) := by
  revert same
  cases a <;> cases b <;> decide

/-! ## Values that are taken -/

/-- An attribute takes a value, which asks for a change. -/
inductive Cube.Takes {ω : Type} (c : Cube ω) : Attribute → Value → Change → Prop where
  | deviceEnabled (enabled : Bool) :
    Takes c .deviceEnabled (.boolean enabled) (.mode (if enabled then .playlist else .idle))
  | alarmMask (mask : Bool) : Takes c .alarmMask (.boolean mask) (.alarmMask mask)
  | operatingMode (mode : Mode) : Takes c .operatingMode (.enum8 mode.code) (.mode mode)
  | effectText (text : List UInt8) : Takes c .effectText (.octetString text) (.text text)
  | playlist {n : UInt8} (exists' : n.toNat < c.playlists.count) :
    Takes c .playlist (.uint8 n) (.playlist n)
  | effect {n : UInt8} (exists' : n.toNat < c.effects.length) : Takes c .effect (.uint8 n) (.effect n)
  | timezone (offset : Int32) : Takes c .timezone (.int32 offset) (.zone offset)
  | time (seconds : UInt32) : Takes c .time (.utcTime seconds) (.time seconds)
  | deviceAddress (address : UInt64) : Takes c .deviceAddress (.ieeeAddress address) (.address address)

namespace Cube.Takes

variable {ω : Type} {c : Cube ω} {a : Attribute} {v : Value} {change : Change}

/-- Nothing else is accepted by an attribute. -/
theorem of_change? {access : Access} (accepted : c.change? a access v = .ok change) :
    c.Takes a v change := by
  unfold change? at accepted
  split at accepted
  · -- the attributes that can be written, in the order of `change?`
    split at accepted
    · cases accepted
      exact .deviceEnabled _
    · cases accepted
      exact .alarmMask _
    · split at accepted
      · rename_i known
        cases accepted
        rw [← Mode.code_of_ofCode? known]
        exact .operatingMode _
      · cases accepted
    · cases accepted
      exact .effectText _
    · split at accepted
      · rename_i exists'
        cases accepted
        exact .playlist exists'
      · cases accepted
    · split at accepted
      · rename_i exists'
        cases accepted
        exact .effect exists'
      · cases accepted
    · cases accepted
      exact .timezone _
    · cases accepted
      exact .time _
    · cases accepted
      exact .deviceAddress _
    · cases accepted
  · cases accepted

/-- A record of a write that is accepted is for an attribute, which takes its value. -/
theorem exists_of_judge {cluster : UInt16} {record : WriteRecord}
    (judged : c.judge cluster record = .ok change) :
    ∃ a, Attribute.find? cluster record.id = some a ∧ c.Takes a record.value change := by
  unfold judge at judged
  split at judged
  · rename_i writable
    exact ⟨_, Attribute.find?_of_writable? writable, .of_change? judged⟩
  · cases judged

/-- What an attribute takes is accepted. -/
theorem change?_eq (h : c.Takes a v change) : c.change? a a.row.access v = .ok change := by
  cases h with
  | operatingMode mode => cases mode <;> rfl
  | playlist exists' | effect exists' => exact if_pos exists'
  | _ => rfl

theorem setting?_eq (h : c.Takes a v change) : a.setting? = some change.setting := by
  cases h <;> rfl

end Cube.Takes

/-! ## Numbers that are kept -/

namespace Cube

variable {ω : Type} {c : Cube ω} {store : c.board.KeyValue} {r : Contents} {s : Machine ω}

/-- The number that is reported is the one in the store, where there is one. -/
theorem numberAt_eq (h : store.Has r s.world) (key : Key) (other : UInt8) :
    c.board.numberAt key other s.world = (byteIn (r.answer key valueRoom)).toOption.getD other := by
  unfold Board.numberAt
  rw [h.answer]

end Cube

namespace Snapshot

variable {ω : Type} {c : Cube ω} {store : c.board.KeyValue} {k k' : Snapshot} {s t : Machine ω}
  {a : Attribute} {v : Value} {change : Change}

/-! ## Reports -/

/-- The number in a record of one byte, or another one where there is none. -/
def numberAt (k : Snapshot) (key : Key) (other : UInt8) : UInt8 :=
  (byteIn (k.records.answer key valueRoom)).toOption.getD other

/-- The value of an attribute where the snapshot is taken. -/
def report (c : Cube ω) (k : Snapshot) : Attribute → Value
  | .deviceEnabled => .boolean (k.device.mode == .playlist || k.device.mode == .effect)
  | .alarmMask => .boolean k.device.alarmMask
  | .operatingMode => .enum8 k.device.mode.code
  | .effectText => .octetString k.device.text
  | .playlist => .uint8 (k.numberAt .playlist k.device.playlist)
  | .timezone => .int32 k.zone
  | .time => .utcTime k.seconds
  | .effectNames => .longOctetString (Value.nameText (c.effects.map (·.name)))
  | .playlistNames => .longOctetString c.playlists.names
  | .playlistEffects =>
    .octetString (((c.playlists.entries k.device.playlist).map (·.effect)).take DataType.maxOctets)
  | .effect => .uint8 (k.numberAt .effect k.device.effect)
  | .hardwareVersion => .octetString (textBytes c.config.hardware.text)
  | .softwareVersion => .octetString (textBytes c.config.software.text)
  | .deviceAddress => .ieeeAddress k.device.address
  | .playlistPosition => .uint8 (k.device.selector.position c.playlists k.device.playlist)

theorem report_deviceEnabled : k.report c .deviceEnabled = .boolean k.device.mode.isRendering := by
  unfold report
  cases k.device.mode <;> rfl

theorem report_operatingMode : k.report c .operatingMode = .enum8 k.device.mode.code := rfl

theorem Depicts.report (h : k.Depicts store s) (a : Attribute) : c.report s a = k.report c a := by
  unfold Cube.report Snapshot.report
  cases a with
  | playlist | effect =>
    dsimp only
    rw [Cube.numberAt_eq h.world, h.device]
    rfl
  | timezone => exact congrArg Value.int32 h.zone
  | time =>
    dsimp only
    rw [h.now, UInt32.add_sub_cancel]
  | deviceEnabled | alarmMask | operatingMode | effectText | playlistEffects | deviceAddress
  | playlistPosition =>
    dsimp only
    rw [h.device]
  | effectNames | playlistNames | hardwareVersion | softwareVersion => rfl

theorem Depicts.alike (h : k.Depicts store s) (h' : k.Depicts store t) :
    c.board.Alike s.world t.world where
  now := h.now.trans h'.now.symm
  zone := h.zone.trans h'.zone.symm
  read key room := (h.world.answer key room).trans (h'.world.answer key room).symm

/-- Sending and reading the store leave the snapshot as it is. -/
theorem Depicts.answering (h : k.Depicts store s) (steady : c.board.Steady) {sink : Sink ω}
    (spares : store.Spares sink) (spared : c.board.SparesTime sink) {w : ω}
    (moment : c.board.Answering sink s.world w) : k.Depicts store { s with world := w } := by
  induction moment with
  | start => exact h
  | @put w' _ byte ih => exact ih.within (spares _ byte _ ih.world) (spared byte w')
  | @read w' _ key room ih => exact ih.within (ih.world.read key room) (steady.read key room w')

/-! ## Changes that are seen -/

theorem numberAt_of_record {key : Key} {n : UInt8} (kept : k.records key = some [n]) (other : UInt8) :
    k.numberAt key other = n := by
  unfold numberAt Contents.answer
  rw [kept]
  rfl

theorem numberAt_set_other {key key' : Key} (apart : key' ≠ key) (device : Device)
    (record : List UInt8) (other : UInt8) :
    numberAt { k with device, records := k.records.set key record } key' other =
      k.numberAt key' other := by
  unfold numberAt
  rw [k.records.answer_set_other apart]

theorem carryOut_mode (mode : Mode) : (k.carryOut (.mode mode)).device.mode = mode := by
  unfold carryOut
  dsimp only
  split
  · assumption
  · rfl

/-- A change is not seen in the attributes of other settings. -/
theorem report_carryOut_other {b : Attribute} (other : b.setting? ≠ some change.setting) :
    (k.carryOut change).report c b = k.report c b := by
  cases change with
  | mode mode =>
    simp only [carryOut]
    split
    · rfl
    · cases b with
      | deviceEnabled | operatingMode => exact absurd rfl other
      | playlist | effect => exact congrArg Value.uint8 (numberAt_set_other (by decide) _ _ _)
      | _ => rfl
  | alarmMask | zone | time => cases b <;> first | rfl | exact absurd rfl other
  | text | playlist | effect | address =>
    cases b with
    | playlist | effect =>
      first
      | exact absurd rfl other
      | exact congrArg Value.uint8 (numberAt_set_other (by decide) _ _ _)
    | _ => first | rfl | exact absurd rfl other

/-! ## What a device does by itself -/

/-- The text is the kept one, or the kept one is still to be taken over. -/
structure TextDue (k : Snapshot) (text : List UInt8) : Prop where
  kept : k.records.text? = some text
  due : k.device.dirty.text = true ∨ k.device.text = text

/-- A later snapshot, which a device came to without being asked for anything. -/
structure GoesOn (k k' : Snapshot) : Prop where
  records : k'.records = k.records
  seconds : k'.seconds = k.seconds
  zone : k'.zone = k.zone
  mode : k'.device.mode = k.device.mode
  alarmMask : k'.device.alarmMask = k.device.alarmMask
  address : k'.device.address = k.device.address
  text : ∀ text, k.TextDue text → k'.TextDue text

theorem GoesOn.refl (k : Snapshot) : k.GoesOn k := ⟨rfl, rfl, rfl, rfl, rfl, rfl, fun _ due => due⟩

theorem GoesOn.trans {k'' : Snapshot} (h : k.GoesOn k') (h' : k'.GoesOn k'') : k.GoesOn k'' where
  records := h'.records.trans h.records
  seconds := h'.seconds.trans h.seconds
  zone := h'.zone.trans h.zone
  mode := h'.mode.trans h.mode
  alarmMask := h'.alarmMask.trans h.alarmMask
  address := h'.address.trans h.address
  text text due := h'.text text (h.text text due)

/-- The text that is due is taken over by the next sync. -/
theorem Depicts.sync_text (h : k.Depicts store s) {text : List UInt8} (due : k.TextDue text) :
    (c.sync s).device.text = text := by
  obtain ⟨effect, playlist, selector, needsInit, device⟩ := Cube.sync_device (c := c) s
  have taken : (textIn (c.board.read .effectText textRoom s.world).1).toOption = some text := by
    rw [h.world.answer]
    exact due.kept
  rw [device]
  dsimp only
  unfold Cube.syncText
  split
  · rw [c.takeText_eq]
    dsimp only
    rw [taken]
    rfl
  · -- a text that is not wanted any more was taken over before
    rename_i unwanted
    have marked : ¬k.device.dirty.text = true := by
      intro marked
      rw [h.device, marked, Bool.or_true] at unwanted
      exact unwanted rfl
    rw [h.device]
    exact due.due.resolve_left marked

theorem Depicts.sync (h : k.Depicts store s) (steady : c.board.Steady) :
    ∃ k', k'.Depicts store (c.sync s) ∧ k.GoesOn k' := by
  obtain ⟨effect, playlist, selector, needsInit, device⟩ := Cube.sync_device (c := c) s
  have world : store.Has k.records (c.sync s).world ∧ c.board.SameTime s.world (c.sync s).world := by
    refine c.sync_world s (Q := fun w => store.Has k.records w ∧ c.board.SameTime s.world w) ?_
      ⟨h.world, rfl, rfl⟩
    rintro key room w ⟨has, now, zone⟩
    obtain ⟨now', zone'⟩ := steady.read key room w
    exact ⟨has.read key room, now'.trans now, zone'.trans zone⟩
  have text : ∀ text, k.TextDue text → (c.sync s).device.text = text := fun _ => h.sync_text
  rw [h.device] at device
  refine ⟨{ k with device := (c.sync s).device },
    ⟨world.1, rfl, world.2.1.trans h.now, world.2.2.trans h.zone⟩, ?_⟩
  rw [device] at text ⊢
  exact ⟨rfl, rfl, rfl, rfl, rfl, rfl, fun _ due => ⟨due.kept, .inr (text _ due)⟩⟩

theorem Depicts.advance (h : k.Depicts store s) :
    ∃ k', k'.Depicts store (c.advancePlaylist s) ∧ k.GoesOn k' := by
  obtain ⟨effect, selector, moved⟩ := c.advancePlaylist_device s
  have world := c.advancePlaylist_world s
  rw [h.device] at moved
  exact ⟨{ k with device := { k.device with effect, selector } },
    ⟨world ▸ h.world, moved, world ▸ h.now, world ▸ h.zone⟩,
    ⟨rfl, rfl, rfl, rfl, rfl, rfl, fun _ due => ⟨due.kept, due.due⟩⟩⟩

/-- However often a device takes settings over and moves on, its settings stay as they are. -/
theorem Depicts.performAll (h : k.Depicts store s) (steady : c.board.Steady) {ops : List (Operation ω)}
    (unasked : ∀ op ∈ ops, op = .sync ∨ op = .advance) :
    ∃ k', k'.Depicts store (c.performAll ops s) ∧ k.GoesOn k' := by
  induction ops generalizing k s with
  | nil => exact ⟨k, h, .refl k⟩
  | cons op rest ih =>
    obtain ⟨first, others⟩ := List.forall_mem_cons.mp unasked
    have next : ∃ k', k'.Depicts store (c.perform op s) ∧ k.GoesOn k' := by
      rcases first with rfl | rfl
      · exact h.sync steady
      · exact h.advance
    obtain ⟨k', depicted, on⟩ := next
    obtain ⟨k'', done, further⟩ := ih depicted others
    exact ⟨k'', done, on.trans further⟩

/-- A value that an attribute took is reported of it, also when the device went on. -/
theorem report_of_takes (takes : c.Takes a v change) (readable : a.row.access.isReadable = true)
    (on : (k.carryOut change).GoesOn k') : k'.report c a = v := by
  cases takes with
  | deviceEnabled enabled =>
    rw [report_deviceEnabled, on.mode, carryOut_mode]
    cases enabled <;> rfl
  | alarmMask mask => exact congrArg Value.boolean on.alarmMask
  | operatingMode mode => rw [report_operatingMode, on.mode, carryOut_mode]
  | effectText text => cases readable
  | playlist _ => exact congrArg Value.uint8 (numberAt_of_record (by rw [on.records]; rfl) _)
  | effect _ => exact congrArg Value.uint8 (numberAt_of_record (by rw [on.records]; rfl) _)
  | timezone offset => exact congrArg Value.int32 on.zone
  | time seconds => exact congrArg Value.utcTime on.seconds
  | deviceAddress address => exact congrArg Value.ieeeAddress on.address

/-- A text that was set is due. -/
theorem textDue_carryOut (k : Snapshot) (text : List UInt8) :
    (k.carryOut (.text text)).TextDue (text.take textRoom) where
  kept := k.records.text?_set_same (List.length_take_le _ _)
  due := .inl (Bool.or_true _)

end Snapshot

end VoxelCube
