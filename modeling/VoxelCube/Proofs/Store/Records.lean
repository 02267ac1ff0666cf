/-
The settings as records of the store: what each typed read makes of the board's answer, and which
record each typed write hands to the board. A number of one byte and an address always fit their
record, so no typed write fails before the board is asked.
-/
import VoxelCube.Store.Settings

namespace VoxelCube

/-! ## Numbers in groups of seven bits -/

theorem Varint.length_encode_le (room n : Nat) (fits : n < 1 <<< (7 * (room + 1))) :
    (Varint.encode n).length ≤ room + 1 := by
  induction room generalizing n with
  | zero =>
    have small : n < 128 := by simpa using fits
    rw [Varint.encode, if_pos small]
    simp
  | succ room ih =>
    rw [Varint.encode]
    split
    · simp
    · have below : n / 128 < 1 <<< (7 * (room + 1)) := by
        rw [Nat.div_lt_iff_lt_mul (by decide)]
        rwa [shift_group] at fits
      have := ih _ below
      simp only [List.length_cons]
      omega

/-! ## What an answer says of a setting -/

namespace Store

/-- What an answer says of a setting of one byte. -/
def byteIn : Except Store.Error (List UInt8) → Except SettingError UInt8
  | .ok record => byteOf record
  | .error e => .error (.storage e)

/-- What an answer says of the mode. -/
def modeIn (answer : Except Store.Error (List UInt8)) : Except SettingError Mode :=
  match byteIn answer with
  | .ok code => modeOf code
  | .error e => .error e

/-- What an answer says of the address. -/
def addressIn : Except Store.Error (List UInt8) → Except SettingError UInt64
  | .ok record => addressOf record
  | .error e => .error (.storage e)

/-- What an answer says of the effect text. -/
def textIn : Except Store.Error (List UInt8) → Except SettingError (List UInt8)
  | .ok text => .ok text
  | .error .notFound => .ok []
  | .error e => .error (.storage e)

@[simp] theorem modeIn_code (mode : Mode) : modeIn (.ok [mode.code]) = .ok mode := by
  cases mode <;> rfl

@[simp] theorem addressIn_encode (address : UInt64) :
    addressIn (.ok (Varint.encode address.toNat)) = .ok address := by
  have read := Varint.decode_encode 64 address.toNat [] (by decide) address.toNat_lt
  rw [List.append_nil] at read
  simp only [addressIn, addressOf, read, UInt64.ofNat_toNat]

theorem length_address_le (address : UInt64) :
    (Varint.encode address.toNat).length ≤ valueRoom :=
  Varint.length_encode_le 9 _ (by have := address.toNat_lt; omega)

end Store

/-! ## Reads and writes of settings -/

namespace Board

open Store

variable {ω : Type} (b : Board ω) (w : ω)

theorem loadByte_eq (key : Key) :
    b.loadByte key w = (byteIn (b.read key valueRoom w).1, (b.read key valueRoom w).2) := by
  unfold loadByte loadValue
  rcases b.read key valueRoom w with ⟨_ | _, _⟩ <;> rfl

theorem readEffect_eq :
    b.readEffect w = (byteIn (b.read .effect valueRoom w).1, (b.read .effect valueRoom w).2) :=
  b.loadByte_eq w .effect

theorem readPlaylist_eq :
    b.readPlaylist w = (byteIn (b.read .playlist valueRoom w).1, (b.read .playlist valueRoom w).2) :=
  b.loadByte_eq w .playlist

theorem readMode_eq :
    b.readMode w =
      (modeIn (b.read .operatingMode valueRoom w).1, (b.read .operatingMode valueRoom w).2) := by
  unfold readMode modeIn
  rw [loadByte_eq]
  cases byteIn (b.read .operatingMode valueRoom w).1 <;> rfl

theorem readAddress_eq :
    b.readAddress w =
      (addressIn (b.read .deviceAddress valueRoom w).1, (b.read .deviceAddress valueRoom w).2) := by
  unfold readAddress loadValue
  rcases b.read .deviceAddress valueRoom w with ⟨_ | _, _⟩ <;> rfl

theorem readText_eq :
    b.readText w = (textIn (b.read .effectText textRoom w).1, (b.read .effectText textRoom w).2) := by
  unfold readText
  rcases b.read .effectText textRoom w with ⟨(_ | _ | _ | _ | _) | _, _⟩ <;> rfl

theorem saveRecord_world (key : Key) (record : List UInt8) :
    (b.saveRecord key record w).2 = (b.write key record w).2 := by
  unfold saveRecord
  rcases b.write key record w with ⟨_ | _, _⟩ <;> rfl

theorem saveValue_world {key : Key} {record : List UInt8} (fits : record.length ≤ valueRoom) :
    (b.saveValue key record w).2 = (b.write key record w).2 := by
  unfold saveValue
  rw [if_pos fits, saveRecord_world]

theorem storeMode_world (mode : Mode) :
    (b.storeMode mode w).2 = (b.write .operatingMode [mode.code] w).2 :=
  b.saveValue_world w (by simp [valueRoom])

theorem storeEffect_world (effect : UInt8) :
    (b.storeEffect effect w).2 = (b.write .effect [effect] w).2 :=
  b.saveValue_world w (by simp [valueRoom])

theorem storePlaylist_world (playlist : UInt8) :
    (b.storePlaylist playlist w).2 = (b.write .playlist [playlist] w).2 :=
  b.saveValue_world w (by simp [valueRoom])

theorem storeAddress_world (address : UInt64) :
    (b.storeAddress address w).2 = (b.write .deviceAddress (Varint.encode address.toNat) w).2 :=
  b.saveValue_world w (length_address_le address)

theorem storeText_world (text : List UInt8) :
    (b.storeText text w).2 = (b.write .effectText (text.take textRoom) w).2 :=
  b.saveRecord_world w _ _

end Board

end VoxelCube
