/-
What is stored is read back. A configuration is read field after field by readers that go from front to
back, so it is read back out of its stored form, and no stored form that is cut short is one. An address
always fits its record and is read back from it.
-/
import VoxelCube.Config.Binary
import VoxelCube.Proofs.Config.Readers
import VoxelCube.Proofs.Store.KeyValue

namespace VoxelCube

open Reader (Sequential)

/-! ## Configurations -/

namespace Config

open Reader (Reads)

theorem readNumber_sequential (bits : Nat) : Sequential DecodeError.ended (readNumber bits) := by
  have sequential := Varint.decode_sequential bits
  constructor
  · intro bytes n rest read more
    simp only [readNumber] at read ⊢
    split at read
    · rename_i decoded
      cases read
      rw [sequential.ok decoded more]
    · cases read
    · cases read
  · intro bytes e failed other more
    simp only [readNumber] at failed ⊢
    split at failed
    · cases failed
    · cases failed
      exact absurd rfl other
    · rename_i decoded
      cases failed
      rw [sequential.error decoded nofun more]

theorem reads_number {bits n : Nat} (wide : 0 < bits) (fits : n < 1 <<< bits) :
    Reads (readNumber bits) (Varint.encode n) n := by
  intro rest
  rw [readNumber, Varint.decode_encode bits n rest wide fits]

theorem readByte_eq : readByte = Reader.byte .ended := by
  funext bytes
  cases bytes <;> rfl

/-- The variant with a number. -/
def variantOf : Nat → Except DecodeError Crc.Variant
  | 0 => .ok .ccitt
  | 1 => .ok .xmodem
  | _ => .error .refused

theorem readVariant_eq :
    readVariant = Reader.next (readNumber 32) fun n => .give (variantOf n) := by
  funext bytes
  simp only [readVariant, Reader.next]
  cases readNumber 32 bytes with
  | error e => rfl
  | ok read =>
    obtain ⟨n, rest⟩ := read
    rcases n with _ | _ | n <;> rfl

theorem readLabel_eq (room : Nat) : readLabel room =
    Reader.next (readNumber 64) fun count =>
      (Reader.take .ended count).next fun front => .give (labelOf room front) := by
  funext bytes
  simp only [readLabel, Reader.next, Reader.take]
  cases readNumber 64 bytes with
  | error e => rfl
  | ok read =>
    obtain ⟨count, rest⟩ := read
    dsimp only
    cases split? count rest with
    | none => rfl
    | some read =>
      dsimp only
      cases labelOf room read.1 <;> rfl

theorem readVariant_sequential : Sequential DecodeError.ended readVariant := by
  rw [readVariant_eq]
  exact (readNumber_sequential 32).next fun n => Reader.sequential_give (variantOf n)

theorem readLabel_sequential (room : Nat) : Sequential DecodeError.ended (readLabel room) := by
  rw [readLabel_eq]
  refine (readNumber_sequential 64).next fun count => ?_
  exact (Reader.sequential_take count).next fun front => Reader.sequential_give (labelOf room front)

theorem reads_byte (b : UInt8) : Reads readByte [b] b := by
  rw [readByte_eq]
  exact Reader.reads_byte b

theorem reads_variant (variant : Crc.Variant) :
    Reads readVariant (Varint.encode (variantIndex variant)) variant := by
  have small : variantIndex variant < 1 <<< 32 := by cases variant <;> decide
  have known : variantOf (variantIndex variant) = .ok variant := by cases variant <;> rfl
  rw [readVariant_eq, ← List.append_nil (Varint.encode _)]
  refine (reads_number (by decide) small).next ?_
  rw [known]
  exact Reader.reads_give variant

/-- The bytes of a text that fits are its label. -/
theorem labelOf_text {room : Nat} (label : Label room) :
    labelOf room label.text.toUTF8.data.toList = .ok label := by
  have bytes : (⟨label.text.toUTF8.data.toList.toArray⟩ : ByteArray) = label.text.toUTF8 := by simp
  have text : String.fromUTF8? label.text.toUTF8 = some label.text := by
    unfold String.fromUTF8?
    rw [dif_pos (show label.text.toUTF8.IsValidUTF8 from label.text.isValidUTF8)]
    rfl
  simp only [labelOf, bytes, text, dif_pos label.fits]

/-- A label that counts less than a number can is read back from its counted text. -/
theorem reads_label {room : Nat} (countable : room < 1 <<< 64) (label : Label room) :
    Reads (readLabel room) (encodeText label.text) label := by
  have small : label.text.utf8ByteSize < 1 <<< 64 := Nat.lt_of_le_of_lt label.fits countable
  have text : Reads (Reader.take DecodeError.ended label.text.utf8ByteSize)
      label.text.toUTF8.data.toList label.text.toUTF8.data.toList := by
    have read := Reader.reads_take DecodeError.ended label.text.toUTF8.data.toList
    rwa [show label.text.toUTF8.data.toList.length = label.text.utf8ByteSize by simp] at read
  rw [readLabel_eq, encodeText]
  refine (reads_number (by decide) small).next ?_
  rw [← List.append_nil label.text.toUTF8.data.toList]
  refine text.next ?_
  rw [labelOf_text]
  exact Reader.reads_give label

/-! ### Field after field -/

/-- A configuration with the bytes after it. -/
def reader : Reader DecodeError Config :=
  Reader.next (readNumber 16) fun profile =>
  Reader.next readByte fun endpoint =>
  Reader.next readByte fun configEndpoint =>
  Reader.next readVariant fun crc =>
  Reader.next (readLabel identityRoom) fun identity =>
  Reader.next (readLabel versionRoom) fun hardware =>
  Reader.next (readLabel versionRoom) fun software =>
  Reader.next (readNumber 64) fun address =>
  .give (.ok
    { profile := UInt16.ofNat profile, endpoint, configEndpoint, crc, identity, hardware, software,
      factoryAddress := UInt64.ofNat address })

theorem reader_sequential : Sequential DecodeError.ended reader := by
  have byte : Sequential DecodeError.ended readByte := by
    rw [readByte_eq]
    exact Reader.sequential_byte
  refine (readNumber_sequential 16).next fun profile => ?_
  refine byte.next fun endpoint => byte.next fun configEndpoint => ?_
  refine readVariant_sequential.next fun crc => ?_
  refine (readLabel_sequential identityRoom).next fun identity => ?_
  refine (readLabel_sequential versionRoom).next fun hardware => ?_
  refine (readLabel_sequential versionRoom).next fun software => ?_
  exact (readNumber_sequential 64).next fun address => Reader.sequential_give _

theorem decode_eq (bytes : List UInt8) : decode bytes = (reader bytes).map Prod.fst := by
  simp only [reader, Reader.map_next]
  rfl

theorem reads_encode (c : Config) : Reads reader c.encode c := by
  have profile : Reads (readNumber 16) (Varint.encode c.profile.toNat) c.profile.toNat :=
    reads_number (by decide) c.profile.toNat_lt
  have address : Reads (readNumber 64) (Varint.encode c.factoryAddress.toNat)
      c.factoryAddress.toNat :=
    reads_number (by decide) c.factoryAddress.toNat_lt
  have identity := reads_label (by decide : identityRoom < 1 <<< 64) c.identity
  have hardware := reads_label (by decide : versionRoom < 1 <<< 64) c.hardware
  have software := reads_label (by decide : versionRoom < 1 <<< 64) c.software
  have whole : Reads reader _ _ :=
    profile.next <| (reads_byte c.endpoint).next <| (reads_byte c.configEndpoint).next <|
      (reads_variant c.crc).next <| identity.next <| hardware.next <| software.next <|
      address.next <| Reader.reads_give _
  simpa [encode] using whole

end Config

/-! ## Addresses -/

namespace Board

variable {ω : Type} (b : Board ω)

/-- A store that took a record answers with it, if there is room for it. -/
def Retains (w : ω) : Prop :=
  ∀ key record room, (b.write key record w).1 = .ok () → record.length ≤ room →
    (b.read key room (b.write key record w).2).1 = .ok record

/-- A faithful key-value store does so while it works. -/
theorem KeyValue.retains {b : Board ω} (store : b.KeyValue) {w : ω} (working : store.working w) :
    b.Retains w := by
  intro key record room _ fits
  obtain ⟨still, records⟩ := store.write key record w working
  rw [store.answer key room _ still, records]
  exact Store.Contents.answer_set_same _ fits

/-- An address is stored as far as the board can write. -/
theorem storeAddress_fst (address : UInt64) (w : ω) :
    (b.storeAddress address w).1 =
      (b.write .deviceAddress (Varint.encode address.toNat) w).1.mapError .storage := by
  unfold storeAddress saveValue saveRecord
  rw [if_pos (Store.length_address_le address)]
  rcases b.write .deviceAddress (Varint.encode address.toNat) w with ⟨_ | _, _⟩ <;> rfl

theorem readAddress_storeAddress {address : UInt64} {w : ω} (retains : b.Retains w)
    (stored : (b.storeAddress address w).1 = .ok ()) :
    (b.readAddress (b.storeAddress address w).2).1 = .ok address := by
  rw [storeAddress_fst] at stored
  have written : (b.write .deviceAddress (Varint.encode address.toNat) w).1 = .ok () := by
    cases taken : (b.write .deviceAddress (Varint.encode address.toNat) w).1 with
    | ok done => rfl
    | error e =>
      rw [taken] at stored
      cases stored
  rw [readAddress_eq, storeAddress_world,
    retains .deviceAddress _ Store.valueRoom written (Store.length_address_le address)]
  exact Store.addressIn_encode address

end Board

/-! ## Both -/

/-- **Stored values.** A configuration is read back out of its stored form, whatever follows it, and a
stored form that is cut short anywhere ends inside a field. An address always has room in its record, so
that only the board can keep it from being stored, and it is read back behind a write that the board
took and retains. -/
theorem stored_values_kept {ω : Type} (b : Board ω) :
    (∀ (c : Config) rest, Config.decode (c.encode ++ rest) = .ok c) ∧
      (∀ (c : Config) front, front <+: c.encode → front ≠ c.encode →
        Config.decode front = .error .ended) ∧
      (∀ (address : UInt64) w, (Varint.encode address.toNat).length ≤ Store.valueRoom ∧
        (b.storeAddress address w).1 ≠ .error .serialize) ∧
      ∀ address w, b.Retains w → (b.storeAddress address w).1 = .ok () →
        (b.readAddress (b.storeAddress address w).2).1 = .ok address := by
  refine ⟨?_, ?_, ?_, ?_⟩
  · intro c rest
    rw [Config.decode_eq, c.reads_encode rest]
    rfl
  · intro c front part short
    rw [Config.decode_eq, Config.reader_sequential.cut c.reads_encode part short]
    rfl
  · intro address w
    refine ⟨Store.length_address_le address, ?_⟩
    rw [b.storeAddress_fst]
    cases (b.write .deviceAddress (Varint.encode address.toNat) w).1 <;> nofun
  · intro address w retains stored
    exact b.readAddress_storeAddress retains stored

namespace Bench

/-- A configuration with a text outside ASCII and the largest address. -/
def farConfig : Config where
  profile := 300
  crc := .ccitt
  identity := ⟨"é", by decide⟩
  hardware := .empty _
  software := .empty _
  factoryAddress := 0xFFFFFFFFFFFFFFFF

/-- Its stored form is cut inside a letter, and its address takes all the room of its record. -/
theorem farConfig_kept :
    let w : World := { world := {} }
    [172, 2, 70, 1, 0, 2, 195] <+: farConfig.encode ∧
      [172, 2, 70, 1, 0, 2, 195] ≠ farConfig.encode ∧
      Config.decode [172, 2, 70, 1, 0, 2, 195] = .error .ended ∧ sampleBoard.Retains w ∧
      (sampleBoard.storeAddress farConfig.factoryAddress w).1 = .ok () ∧
      (sampleBoard.readAddress (sampleBoard.storeAddress farConfig.factoryAddress w).2).1 =
        .ok farConfig.factoryAddress := by
  intro w
  have form : farConfig.encode = [172, 2, 70, 1, 0, 2, 195] ++
      [169, 0, 0, 255, 255, 255, 255, 255, 255, 255, 255, 255, 1] := by decide +kernel
  have part : [172, 2, 70, 1, 0, 2, 195] <+: farConfig.encode := ⟨_, form.symm⟩
  have short : [172, 2, 70, 1, 0, 2, 195] ≠ farConfig.encode := by
    rw [form]
    decide
  have retains : sampleBoard.Retains w := sampleStore.retains ⟨rfl, rfl⟩
  have stored : (sampleBoard.storeAddress farConfig.factoryAddress w).1 = .ok () := by
    rw [Board.storeAddress_fst]
    rfl
  exact ⟨part, short, (stored_values_kept sampleBoard).2.1 farConfig _ part short, retains, stored,
    (stored_values_kept sampleBoard).2.2.2 farConfig.factoryAddress w retains stored⟩

end Bench

end VoxelCube
