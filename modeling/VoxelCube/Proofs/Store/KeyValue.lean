/-
Stores that keep what they are given. The contents of a store say what every read answers and so what
each setting is; a key-value store answers every read from its contents, changes one record with every
write, and is touched by nothing else.
-/
import VoxelCube.Bench.Sample
import VoxelCube.Device.Control
import VoxelCube.Proofs.Store.Records

namespace VoxelCube

namespace Store

/-! ## Contents -/

/-- The records of a store. -/
abbrev Contents := Key → Option (List UInt8)

namespace Contents

variable (r : Contents)

/-- What a read of at most `room` bytes answers. -/
def answer (key : Key) (room : Nat) : Except Store.Error (List UInt8) :=
  match r key with
  | none => .error .notFound
  | some record => if room < record.length then .error .bufferTooSmall else .ok record

/-- The contents with one record written. -/
def set (key : Key) (record : List UInt8) : Contents :=
  fun k => if k = key then some record else r k

theorem answer_set_same {key : Key} {record : List UInt8} {room : Nat}
    (fits : record.length ≤ room) : (r.set key record).answer key room = .ok record := by
  simp only [answer, set, if_pos, if_neg (Nat.not_lt.mpr fits)]

theorem answer_set_other {key other : Key} (h : other ≠ key) (record : List UInt8) (room : Nat) :
    (r.set key record).answer other room = r.answer other room := by
  simp only [answer, set, if_neg h]

/-- The mode that a device boots in. -/
def mode : Mode := (modeIn (r.answer .operatingMode valueRoom)).toOption.getD .idle

/-- The address of a device that boots. -/
def address (factory : UInt64) : UInt64 :=
  (addressIn (r.answer .deviceAddress valueRoom)).toOption.getD factory

/-- The effect text; none when its record is longer than a text may be. -/
def text? : Option (List UInt8) := (textIn (r.answer .effectText textRoom)).toOption

/-- The effect of a device with this many. -/
def effect (count : Nat) : UInt8 := Cube.orFirst count (byteIn (r.answer .effect valueRoom))

/-- The playlist of a device with this many. -/
def playlist (count : Nat) : UInt8 := Cube.orFirst count (byteIn (r.answer .playlist valueRoom))

theorem mode_set_other {key : Key} (h : .operatingMode ≠ key) (record : List UInt8) :
    (r.set key record).mode = r.mode := by
  rw [mode, answer_set_other r h, mode]

theorem address_set_other {key : Key} (h : .deviceAddress ≠ key) (record : List UInt8)
    (factory : UInt64) : (r.set key record).address factory = r.address factory := by
  rw [address, answer_set_other r h, address]

theorem text?_set_other {key : Key} (h : .effectText ≠ key) (record : List UInt8) :
    (r.set key record).text? = r.text? := by
  rw [text?, answer_set_other r h, text?]

theorem effect_set_other {key : Key} (h : .effect ≠ key) (record : List UInt8) (count : Nat) :
    (r.set key record).effect count = r.effect count := by
  rw [effect, answer_set_other r h, effect]

theorem playlist_set_other {key : Key} (h : .playlist ≠ key) (record : List UInt8) (count : Nat) :
    (r.set key record).playlist count = r.playlist count := by
  rw [playlist, answer_set_other r h, playlist]

theorem mode_set_code (m : Mode) : (r.set .operatingMode [m.code]).mode = m := by
  have fits : [m.code].length ≤ valueRoom := by simp [valueRoom]
  rw [mode, answer_set_same r fits, modeIn_code]
  rfl

theorem address_set_encode (address factory : UInt64) :
    (r.set .deviceAddress (Varint.encode address.toNat)).address factory = address := by
  rw [Contents.address, answer_set_same r (length_address_le address), addressIn_encode]
  rfl

theorem text?_set_same {text : List UInt8} (fits : text.length ≤ textRoom) :
    (r.set .effectText text).text? = some text := by
  rw [text?, answer_set_same r fits]
  rfl

end Contents

end Store

open Store

/-! ## Key-value stores -/

/-- A board whose store is a faithful key-value store while it works. -/
structure Board.KeyValue {ω : Type} (b : Board ω) where
  records : ω → Contents
  /-- No failure is forced on the store. -/
  working : ω → Prop
  answer : ∀ key room w, working w → (b.read key room w).1 = (records w).answer key room
  read : ∀ key room w, working w →
    working (b.read key room w).2 ∧ records (b.read key room w).2 = records w
  write : ∀ key record w, working w →
    working (b.write key record w).2 ∧ records (b.write key record w).2 = (records w).set key record
  setTime : ∀ seconds w, working w →
    working (b.setTime seconds w) ∧ records (b.setTime seconds w) = records w
  setZone : ∀ offset w, working w →
    working (b.setZone offset w) ∧ records (b.setZone offset w) = records w
  powerUp : ∀ w, working w → working (b.powerUp w) ∧ records (b.powerUp w) = records w
  powerDown : ∀ w, working w → working (b.powerDown w) ∧ records (b.powerDown w) = records w

namespace Board.KeyValue

variable {ω : Type} {b : Board ω} (store : b.KeyValue)

/-- A world whose store works and has these contents. -/
def Has (r : Contents) (w : ω) : Prop := store.working w ∧ store.records w = r

/-- A sink that leaves the store alone. -/
def Spares (sink : Sink ω) : Prop := ∀ r byte w, store.Has r w → store.Has r (sink byte w)

variable {store} {r : Contents} {w : ω} (h : store.Has r w)
include h

theorem Has.answer (key : Key) (room : Nat) : (b.read key room w).1 = r.answer key room :=
  h.2 ▸ store.answer key room w h.1

theorem Has.read (key : Key) (room : Nat) : store.Has r (b.read key room w).2 :=
  ⟨(store.read key room w h.1).1, (store.read key room w h.1).2.trans h.2⟩

theorem Has.write (key : Key) (record : List UInt8) :
    store.Has (r.set key record) (b.write key record w).2 :=
  ⟨(store.write key record w h.1).1, h.2 ▸ (store.write key record w h.1).2⟩

theorem Has.setTime (seconds : UInt32) : store.Has r (b.setTime seconds w) :=
  ⟨(store.setTime seconds w h.1).1, (store.setTime seconds w h.1).2.trans h.2⟩

theorem Has.setZone (offset : Int32) : store.Has r (b.setZone offset w) :=
  ⟨(store.setZone offset w h.1).1, (store.setZone offset w h.1).2.trans h.2⟩

theorem Has.powerUp : store.Has r (b.powerUp w) :=
  ⟨(store.powerUp w h.1).1, (store.powerUp w h.1).2.trans h.2⟩

theorem Has.powerDown : store.Has r (b.powerDown w) :=
  ⟨(store.powerDown w h.1).1, (store.powerDown w h.1).2.trans h.2⟩

end Board.KeyValue

namespace Bench

namespace Memory

variable {m : Memory}

/-- No fault is set for the store. -/
def Sound (m : Memory) : Prop := m.readFaults = .replicate 5 none ∧ m.writeFault = none

theorem Sound.read_fst (h : m.Sound) (key : Key) (room : Nat) :
    (read key room m).1 = Contents.answer m.get? key room := by
  have sound : m.readFaults[key.index] = none := by
    rw [h.1]
    exact Vector.getElem_replicate _
  unfold read Contents.answer
  rw [sound]
  cases m.get? key with
  | none => rfl
  | some record =>
    dsimp only
    split <;> rfl

theorem Sound.write_snd (h : m.Sound) (key : Key) (record : List UInt8) :
    (write key record m).2 = m.put key (some record) := by
  unfold write
  rw [h.2]

theorem get?_put_eq (m : Memory) (key : Key) (record : List UInt8) :
    (m.put key (some record)).get? = Contents.set m.get? key record := by
  funext k
  rw [get?_put]
  unfold Contents.set
  by_cases same : k = key
  · rw [if_pos same, if_pos same.symm]
  · rw [if_neg same, if_neg (Ne.symm same)]

theorem Sound.read (h : m.Sound) (key : Key) (room : Nat) :
    (Memory.read key room m).2.Sound ∧ (Memory.read key room m).2.get? = m.get? := by
  rw [read_snd]
  exact ⟨h, rfl⟩

theorem Sound.write (h : m.Sound) (key : Key) (record : List UInt8) :
    (Memory.write key record m).2.Sound ∧
      (Memory.write key record m).2.get? = Contents.set m.get? key record := by
  rw [h.write_snd]
  exact ⟨h, m.get?_put_eq key record⟩

end Memory

/-- The store of the sample board works unless a fault is set. -/
def sampleStore : sampleBoard.KeyValue where
  records w := w.world.get?
  working w := w.world.Sound
  answer key room _ h := h.read_fst key room
  read key room _ h := h.read key room
  write key record _ h := h.write key record
  setTime _ _ h := ⟨h, rfl⟩
  setZone _ _ h := ⟨h, rfl⟩
  powerUp _ h := ⟨h, rfl⟩
  powerDown _ h := ⟨h, rfl⟩

end Bench

theorem Bench.traySink_spares : Bench.sampleStore.Spares Bench.traySink :=
  fun _ _ _ h => h

end VoxelCube
