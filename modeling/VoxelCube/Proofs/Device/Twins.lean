/-
Two boards that differ in their luck. Their stores, their serial lines and their flushes may answer as they
like, each its own way, but as long as the same is asked of both, the same time passes and the same bytes
come in. A device on the one goes the same way as a device on the other: whatever either of them is told
of its store, only the kept playlist and the kept effect are read differently.
-/
import VoxelCube.Device.Dispatch
import VoxelCube.Proofs.Device.World

namespace VoxelCube

/-- Worlds of two boards that agree go on agreeing while the same is asked of both, whatever the answers
of the stores and of the lines are. In worlds that agree it is the same time, and the same byte comes in. -/
structure Board.Twins {ω : Type} (b b' : Board ω) (R : ω → ω → Prop) : Prop where
  read : ∀ key room {w w'}, R w w' → R (b.read key room w).2 (b'.read key room w').2
  write : ∀ key record {w w'}, R w w' → R (b.write key record w).2 (b'.write key record w').2
  now : ∀ {w w'}, R w w' → b'.now w' = b.now w
  zone : ∀ {w w'}, R w w' → b'.zone w' = b.zone w
  setTime : ∀ seconds {w w'}, R w w' → R (b.setTime seconds w) (b'.setTime seconds w')
  setZone : ∀ offset {w w'}, R w w' → R (b.setZone offset w) (b'.setZone offset w')
  powerUp : ∀ {w w'}, R w w' → R (b.powerUp w) (b'.powerUp w')
  powerDown : ∀ {w w'}, R w w' → R (b.powerDown w) (b'.powerDown w')
  receive : ∀ {w w'}, R w w' →
    (b'.receive w').1 = (b.receive w).1 ∧ R (b.receive w).2 (b'.receive w').2
  send : ∀ byte byte' {w w'}, R w w' → R (b.send byte w).2 (b'.send byte' w').2
  flush : ∀ {w w'}, R w w' → R (b.flush w).2 (b'.flush w').2

/-- A cube on another board. -/
abbrev Cube.on {ω : Type} (c : Cube ω) (b : Board ω) : Cube ω := { c with board := b }

/-- Two machines with one device, in worlds that agree. -/
structure Machine.Agree {ω : Type} (R : ω → ω → Prop) (s s' : Machine ω) : Prop where
  device : s'.device = s.device
  world : R s.world s'.world

/-- An attribute that is read from the store. -/
def Attribute.IsKept (a : Attribute) : Prop := a = .playlist ∨ a = .effect

namespace Board.Twins

open Store

variable {ω : Type} {b b' : Board ω} {R : ω → ω → Prop} (twins : b.Twins b' R) (c : Cube ω)
  {s s' : Machine ω}
include twins

/-- As many bytes to the one line as to the other. -/
theorem puts {bytes bytes' : List UInt8} (long : bytes'.length = bytes.length) {w w' : ω}
    (h : R w w') : R (b.puts bytes w) (b'.puts bytes' w') := by
  induction bytes generalizing bytes' w w' with
  | nil =>
    obtain rfl := List.eq_nil_of_length_eq_zero long
    exact h
  | cons byte rest ih =>
    cases bytes' with
    | nil => cases long
    | cons byte' rest' => exact ih (Nat.succ.inj long) (twins.send byte byte' h)

theorem enter (mode : Mode) (h : s.Agree R s') :
    ((c.on b).enter mode s).Agree R ((c.on b').enter mode s') := by
  unfold Cube.enter
  rw [h.device]
  cases s.device.mode.enter? mode with
  | none => exact h
  | some action =>
    refine ⟨rfl, ?_⟩
    cases action with
    | none => exact h.world
    | start => exact twins.powerUp h.world
    | shutdown => exact twins.powerDown h.world

theorem setMode (mode : Mode) (h : s.Agree R s') :
    ((c.on b).setMode mode s).Agree R ((c.on b').setMode mode s') := by
  unfold Cube.setMode
  rw [h.device]
  split
  · exact h
  · refine twins.enter c mode ⟨rfl, ?_⟩
    show R (b.storeMode mode s.world).2 (b'.storeMode mode s'.world).2
    rw [storeMode_world, storeMode_world]
    exact twins.write _ _ h.world

/-- A change goes the same way on both boards. -/
theorem carryOut (change : Change) (h : s.Agree R s') :
    ((c.on b).carryOut change s).Agree R ((c.on b').carryOut change s') := by
  cases change with
  | mode mode => exact twins.setMode c mode h
  | alarmMask mask => exact ⟨congrArg (fun d : Device => { d with alarmMask := mask }) h.device, h.world⟩
  | text text =>
    refine ⟨congrArg (Device.mark · .ofText) h.device, ?_⟩
    show R (b.storeText text s.world).2 (b'.storeText text s'.world).2
    rw [storeText_world, storeText_world]
    exact twins.write _ _ h.world
  | playlist playlist =>
    refine ⟨congrArg (Device.mark · .ofPlaylist) h.device, ?_⟩
    show R (b.storePlaylist playlist s.world).2 (b'.storePlaylist playlist s'.world).2
    rw [storePlaylist_world, storePlaylist_world]
    exact twins.write _ _ h.world
  | effect effect =>
    refine ⟨congrArg (Device.mark · .ofEffect) h.device, ?_⟩
    show R (b.storeEffect effect s.world).2 (b'.storeEffect effect s'.world).2
    rw [storeEffect_world, storeEffect_world]
    exact twins.write _ _ h.world
  | zone offset => exact ⟨h.device, twins.setZone offset h.world⟩
  | time seconds => exact ⟨h.device, twins.setTime _ h.world⟩
  | address address =>
    refine ⟨congrArg (fun d : Device => { d with address }) h.device, ?_⟩
    show R (b.storeAddress address s.world).2 (b'.storeAddress address s'.world).2
    rw [storeAddress_world, storeAddress_world]
    exact twins.write _ _ h.world

theorem takeTimeReport (body : List UInt8) {w w' : ω} (h : R w w') :
    R ((c.on b).takeTimeReport body w) ((c.on b').takeTimeReport body w') := by
  unfold Cube.takeTimeReport
  generalize TimeRecord.readAll body = records
  induction records generalizing w w' with
  | nil => exact h
  | cons record rest ih => exact ih (twins.setZone _ (twins.setTime _ h))

theorem currentValue (h : s.Agree R s') (a : Attribute) :
    (c.on b').currentValue s' a = (c.on b).currentValue s a := by
  cases a <;> simp [Cube.currentValue, h.device, twins.now h.world, twins.zone h.world]

/-- An attribute is read alike on both boards, but for one that is kept: of such a one each board tells a
byte of its own. -/
theorem readAttribute (h : s.Agree R s') (a : Attribute) (access : Access) (pass : Pass) :
    R ((c.on b).readAttribute a access pass s).2 ((c.on b').readAttribute a access pass s').2 ∧
      (((c.on b').readAttribute a access pass s').1 = ((c.on b).readAttribute a access pass s).1 ∨
        a.IsKept ∧ ∃ n n', ((c.on b).readAttribute a access pass s).1 = .ok (.uint8 n) ∧
          ((c.on b').readAttribute a access pass s').1 = .ok (.uint8 n')) := by
  have current := twins.currentValue c h a
  unfold Cube.readAttribute
  by_cases readable : access.isReadable = true
  · rw [if_pos readable, if_pos readable]
    cases pass with
    | count => cases a <;> exact ⟨h.world, .inl current⟩
    | apply =>
      cases a with
      | playlist =>
        refine ⟨?_, .inr ⟨.inl rfl, _, _, rfl, rfl⟩⟩
        dsimp only
        rw [Cube.storedPlaylist_world, Cube.storedPlaylist_world, readPlaylist_eq, readPlaylist_eq]
        exact twins.read _ _ h.world
      | effect =>
        refine ⟨?_, .inr ⟨.inr rfl, _, _, rfl, rfl⟩⟩
        dsimp only
        rw [Cube.storedEffect_world, Cube.storedEffect_world, readEffect_eq, readEffect_eq]
        exact twins.read _ _ h.world
      | _ => exact ⟨h.world, .inl current⟩
  · rw [if_neg readable, if_neg readable]
    exact ⟨h.world, .inl rfl⟩

end Board.Twins

end VoxelCube
