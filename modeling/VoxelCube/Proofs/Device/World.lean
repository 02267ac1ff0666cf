/-
A device reaches the world only through its board: a property of worlds that no operation of the
board breaks is kept by every change that a device carries out, and by every reading of an attribute.
What happens apart from the board, such as the sending of a reply, may as well happen after a change.
-/
import VoxelCube.Device.Attribute
import VoxelCube.Proofs.Store.Records

namespace VoxelCube

namespace Cube

variable {ω : Type} (c : Cube ω) (s : Machine ω)

theorem storedPlaylist_world (s : Machine ω) :
    (c.storedPlaylist s).2 = (c.board.readPlaylist s.world).2 := by
  unfold storedPlaylist
  split <;> simp_all

theorem storedEffect_world (s : Machine ω) :
    (c.storedEffect s).2 = (c.board.readEffect s.world).2 := by
  unfold storedEffect
  split <;> simp_all

/-- Reading an attribute asks the store for one record, or for none. -/
theorem readAttribute_world (a : Attribute) (access : Access) (pass : Pass) :
    (c.readAttribute a access pass s).2 = s.world ∨
      ∃ key room, (c.readAttribute a access pass s).2 = (c.board.read key room s.world).2 := by
  unfold readAttribute
  split
  · split
    · dsimp only
      rw [storedPlaylist_world, Board.readPlaylist_eq]
      exact .inr ⟨_, _, rfl⟩
    · dsimp only
      rw [storedEffect_world, Board.readEffect_eq]
      exact .inr ⟨_, _, rfl⟩
    · exact .inl rfl
  · exact .inl rfl

theorem enter_world (mode : Mode) : (c.enter mode s).world = s.world ∨
    (c.enter mode s).world = c.board.powerUp s.world ∨
    (c.enter mode s).world = c.board.powerDown s.world := by
  unfold enter
  split
  · rename_i action _
    cases action with
    | none => exact .inl rfl
    | start => exact .inr (.inl rfl)
    | shutdown => exact .inr (.inr rfl)
  · exact .inl rfl

end Cube

/-- A property of worlds that no operation of a board on behalf of a device breaks. -/
structure Board.Keeps {ω : Type} (b : Board ω) (Q : ω → Prop) : Prop where
  read : ∀ key room w, Q w → Q (b.read key room w).2
  write : ∀ key record w, Q w → Q (b.write key record w).2
  setTime : ∀ seconds w, Q w → Q (b.setTime seconds w)
  setZone : ∀ offset w, Q w → Q (b.setZone offset w)
  powerUp : ∀ w, Q w → Q (b.powerUp w)
  powerDown : ∀ w, Q w → Q (b.powerDown w)

namespace Board.Keeps

open Store

variable {ω : Type} {c : Cube ω} {Q : ω → Prop} (h : c.board.Keeps Q) (s : Machine ω)
include h

theorem enter (mode : Mode) (hs : Q s.world) : Q (c.enter mode s).world := by
  rcases c.enter_world s mode with same | up | down
  · exact same ▸ hs
  · exact up ▸ h.powerUp _ hs
  · exact down ▸ h.powerDown _ hs

theorem setMode (mode : Mode) (hs : Q s.world) : Q (c.setMode mode s).world := by
  unfold Cube.setMode
  split
  · exact hs
  · apply h.enter
    show Q (c.board.storeMode mode s.world).2
    rw [storeMode_world]
    exact h.write _ _ _ hs

theorem carryOut (change : Change) (hs : Q s.world) : Q (c.carryOut change s).world := by
  cases change with
  | mode mode => exact h.setMode s mode hs
  | alarmMask mask => exact hs
  | text text =>
    show Q (c.board.storeText text s.world).2
    rw [storeText_world]
    exact h.write _ _ _ hs
  | playlist playlist =>
    show Q (c.board.storePlaylist playlist s.world).2
    rw [storePlaylist_world]
    exact h.write _ _ _ hs
  | effect effect =>
    show Q (c.board.storeEffect effect s.world).2
    rw [storeEffect_world]
    exact h.write _ _ _ hs
  | zone offset => exact h.setZone _ _ hs
  | time seconds => exact h.setTime _ _ hs
  | address address =>
    show Q (c.board.storeAddress address s.world).2
    rw [storeAddress_world]
    exact h.write _ _ _ hs

theorem readAttribute (a : Attribute) (access : Access) (pass : Pass) (hs : Q s.world) :
    Q (c.readAttribute a access pass s).2 := by
  rcases c.readAttribute_world s a access pass with same | ⟨key, room, read⟩
  · exact same ▸ hs
  · exact read ▸ h.read key room _ hs

end Board.Keeps

/-- The board changes the world in the same way before and after something that happens apart from it. -/
structure Board.Apart {ω : Type} (b : Board ω) (f : ω → ω) : Prop where
  write : ∀ key record w, (b.write key record (f w)).2 = f (b.write key record w).2
  setTime : ∀ seconds w, b.setTime seconds (f w) = f (b.setTime seconds w)
  setZone : ∀ offset w, b.setZone offset (f w) = f (b.setZone offset w)
  powerUp : ∀ w, b.powerUp (f w) = f (b.powerUp w)
  powerDown : ∀ w, b.powerDown (f w) = f (b.powerDown w)

/-- A machine after something that happened to its world. -/
def Machine.around {ω : Type} (s : Machine ω) (f : ω → ω) : Machine ω := { s with world := f s.world }

namespace Board.Apart

open Store

theorem puts {ω : Type} {b : Board ω} {sink : Sink ω} (h : ∀ byte, b.Apart (sink byte))
    (bytes : List UInt8) : b.Apart (sink.puts bytes) := by
  induction bytes with
  | nil => exact ⟨fun _ _ _ => rfl, fun _ _ => rfl, fun _ _ => rfl, fun _ => rfl, fun _ => rfl⟩
  | cons byte rest ih =>
    refine ⟨fun key record w => ?_, fun seconds w => ?_, fun offset w => ?_, fun w => ?_, fun w => ?_⟩
    · exact (ih.write key record _).trans (congrArg _ ((h byte).write key record w))
    · exact (ih.setTime seconds _).trans (congrArg _ ((h byte).setTime seconds w))
    · exact (ih.setZone offset _).trans (congrArg _ ((h byte).setZone offset w))
    · exact (ih.powerUp _).trans (congrArg _ ((h byte).powerUp w))
    · exact (ih.powerDown _).trans (congrArg _ ((h byte).powerDown w))

variable {ω : Type} {c : Cube ω} {f : ω → ω} (h : c.board.Apart f) (s : Machine ω)
include h

theorem power (action : PowerAction) (w : ω) : c.power action (f w) = f (c.power action w) := by
  cases action with
  | none => rfl
  | start => exact h.powerUp w
  | shutdown => exact h.powerDown w

theorem enter (mode : Mode) : c.enter mode (s.around f) = (c.enter mode s).around f := by
  unfold Cube.enter Machine.around
  dsimp only
  cases s.device.mode.enter? mode with
  | none => rfl
  | some action => exact congrArg (Machine.mk _) (h.power action s.world)

theorem setMode (mode : Mode) : c.setMode mode (s.around f) = (c.setMode mode s).around f := by
  unfold Cube.setMode
  by_cases same : s.device.mode = mode
  · rw [if_pos same]
    exact if_pos same
  · rw [if_neg same]
    refine (if_neg same).trans ?_
    dsimp only
    rw [← h.enter]
    unfold Machine.around
    dsimp only
    rw [storeMode_world, storeMode_world, h.write]

/-- A change may be carried out before what happens apart from the board. -/
theorem carryOut (change : Change) : c.carryOut change (s.around f) = (c.carryOut change s).around f := by
  cases change with
  | mode mode => exact h.setMode s mode
  | alarmMask mask => rfl
  | text text =>
    unfold Cube.carryOut Cube.storeText Machine.around
    dsimp only
    rw [storeText_world, storeText_world, h.write]
  | playlist playlist =>
    unfold Cube.carryOut Cube.storePlaylist Machine.around
    dsimp only
    rw [storePlaylist_world, storePlaylist_world, h.write]
  | effect effect =>
    unfold Cube.carryOut Cube.storeEffect Machine.around
    dsimp only
    rw [storeEffect_world, storeEffect_world, h.write]
  | zone offset => exact congrArg (Machine.mk s.device) (h.setZone offset s.world)
  | time seconds => exact congrArg (Machine.mk s.device) (h.setTime _ s.world)
  | address address =>
    unfold Cube.carryOut Cube.storeAddress Machine.around
    dsimp only
    rw [storeAddress_world, storeAddress_world, h.write]

end Board.Apart

end VoxelCube
