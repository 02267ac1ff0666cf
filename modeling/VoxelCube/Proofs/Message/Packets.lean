/-
Messages taken apart. A run of bytes that is a message is the bytes of its header with its body after
them, so nothing of a message is lost when it is read. A reader walks the fields one after the other and
a writer may put each at its place: headers and runs of seventeen bytes are the same either way.
-/
import VoxelCube.Message.Header
import VoxelCube.Proofs.Message.Spelling

namespace VoxelCube

/-! ## Field after field -/

namespace Cursor

variable {c d : Cursor}

/-- A number is read as long as there are bytes for it. -/
theorem exists_number? {α : Type} (c : Cursor) (width : Nat) (ofNat : Nat → α)
    (enough : width ≤ c.rest.length) :
    ∃ a d, c.number? width ofNat = some (a, d) ∧ d.rest.length + width = c.rest.length := by
  obtain ⟨a, d, read⟩ : ∃ a d, c.number? width ofNat = some (a, d) := by
    simp only [number?, take?_eq, if_pos enough, Option.map_some]
    exact ⟨_, _, rfl⟩
  exact ⟨a, d, read, length_number? read⟩

theorem rest_of_u8? {n : UInt8} (h : c.u8? = some (n, d)) : c.rest = n :: d.rest := by
  obtain ⟨m, -, front, rfl⟩ := rest_of_number? h
  simpa [Word.toBytes] using front

theorem rest_of_u16? {n : UInt16} (h : c.u16? = some (n, d)) :
    c.rest = Word.toBytes 2 n.toNat ++ d.rest := by
  obtain ⟨m, small, front, rfl⟩ := rest_of_number? h
  rwa [UInt16.toNat_ofNat_of_lt' small]

theorem rest_of_u64? {n : UInt64} (h : c.u64? = some (n, d)) :
    c.rest = Word.toBytes 8 n.toNat ++ d.rest := by
  obtain ⟨m, small, front, rfl⟩ := rest_of_number? h
  rwa [UInt64.toNat_ofNat_of_lt' small]

end Cursor

theorem Header.rest_of_read? {c d : Cursor} {h : Header} (read : Header.read? c = some (h, d)) :
    c.rest = h.encode ++ d.rest := by
  simp only [Header.read?, Option.bind_eq_bind, Option.bind_eq_some_iff, Option.pure_def,
    Option.some.injEq, Prod.mk.injEq, Prod.exists] at read
  obtain ⟨channel, c₁, h₁, address, c₂, h₂, endpoint, c₃, h₃, profile, c₄, h₄, cluster, c₅, h₅,
    flags, c₆, h₆, transaction, c₇, h₇, command, c₈, h₈, rfl, rfl⟩ := read
  rw [Cursor.rest_of_u8? h₁, Cursor.rest_of_u64? h₂, Cursor.rest_of_u8? h₃, Cursor.rest_of_u16? h₄,
    Cursor.rest_of_u16? h₅, Cursor.rest_of_u8? h₆, Cursor.rest_of_u8? h₇, Cursor.rest_of_u8? h₈]
  simp [Header.encode]

/-- How many bytes a header takes. -/
def Header.size : Nat := 17

/-- A header is read as long as there are bytes for all its fields. -/
theorem Header.exists_read? {c : Cursor} (enough : Header.size ≤ c.rest.length) :
    ∃ h d, Header.read? c = some (h, d) := by
  unfold Header.size at enough
  obtain ⟨channel, c₁, h₁, left₁⟩ := c.exists_number? 1 UInt8.ofNat (by omega)
  obtain ⟨address, c₂, h₂, left₂⟩ := c₁.exists_number? 8 UInt64.ofNat (by omega)
  obtain ⟨endpoint, c₃, h₃, left₃⟩ := c₂.exists_number? 1 UInt8.ofNat (by omega)
  obtain ⟨profile, c₄, h₄, left₄⟩ := c₃.exists_number? 2 UInt16.ofNat (by omega)
  obtain ⟨cluster, c₅, h₅, left₅⟩ := c₄.exists_number? 2 UInt16.ofNat (by omega)
  obtain ⟨flags, c₆, h₆, left₆⟩ := c₅.exists_number? 1 UInt8.ofNat (by omega)
  obtain ⟨transaction, c₇, h₇, left₇⟩ := c₆.exists_number? 1 UInt8.ofNat (by omega)
  obtain ⟨command, c₈, h₈, -⟩ := c₇.exists_number? 1 UInt8.ofNat (by omega)
  refine ⟨{ channel, address, endpoint, profile, cluster, flags, transaction, command }, c₈, ?_⟩
  simp only [Header.read?, Cursor.u8?, Cursor.u16?, Cursor.u64?, Option.bind_eq_bind, h₁, h₂, h₃, h₄,
    h₅, h₆, h₇, h₈, Option.bind_some, Option.pure_def]

/-- The message that is read is the one that was sent. -/
theorem Packet.ofBytes?_eq_some_iff {bytes : List UInt8} {packet : Packet} :
    Packet.ofBytes? bytes = some packet ↔ bytes = packet.header.encode ++ packet.body := by
  constructor
  · intro parsed
    simp only [Packet.ofBytes?, Option.bind_eq_bind, Option.bind_eq_some_iff, Option.pure_def,
      Option.some.injEq, Prod.exists] at parsed
    obtain ⟨header, c, read, rfl⟩ := parsed
    exact Header.rest_of_read? read
  · rintro rfl
    exact Packet.ofBytes?_encode packet.header packet.body

/-- There is a message in every run of bytes that a header fits in. -/
theorem Packet.exists_ofBytes? {bytes : List UInt8} (enough : Header.size ≤ bytes.length) :
    ∃ packet, Packet.ofBytes? bytes = some packet := by
  obtain ⟨header, c, read⟩ := Header.exists_read? (c := { rest := bytes }) enough
  refine ⟨{ header, body := c.rest }, ?_⟩
  simp only [Packet.ofBytes?, Option.bind_eq_bind, read, Option.bind_some, Option.pure_def]

/-- There is none in a shorter one. -/
theorem Packet.ofBytes?_eq_none {bytes : List UInt8} (short : bytes.length < Header.size) :
    Packet.ofBytes? bytes = none := by
  cases parsed : Packet.ofBytes? bytes with
  | none => rfl
  | some packet =>
    have long := congrArg List.length (Packet.ofBytes?_eq_some_iff.mp parsed)
    rw [List.length_append, Header.length_encode] at long
    unfold Header.size at short
    omega

/-! ## Each field at its place -/

/-- A buffer with bytes put in at a place, over those that were there. -/
def overwrite (buffer : List UInt8) (place : Nat) (bytes : List UInt8) : List UInt8 :=
  buffer.take place ++ bytes ++ buffer.drop (place + bytes.length)

namespace Header

/-- The fields of a header with their places in it. -/
def places (h : Header) : List (Nat × List UInt8) :=
  [(0, [h.channel]), (1, Word.toBytes 8 h.address.toNat), (9, [h.endpoint]),
    (10, Word.toBytes 2 h.profile.toNat), (12, Word.toBytes 2 h.cluster.toNat), (14, [h.flags]),
    (15, [h.transaction]), (16, [h.command])]

/-- A header put field by field into an empty buffer, each field at its place. -/
def laidOut (h : Header) : List UInt8 :=
  h.places.foldl (fun buffer field => overwrite buffer field.1 field.2) (.replicate size 0)

/-- The places leave no gap and do not overlap. -/
theorem laidOut_eq (h : Header) : h.laidOut = h.encode := by
  simp [laidOut, places, overwrite, size, encode, Word.toBytes, List.replicate]

end Header

/-! ## Both ways -/

/-- **Nothing lost.** A header that is written, whatever body follows, is read back with that body; a run
of bytes that is long enough is a message, and writing its header in front of its body gives the run
again; a shorter run is none. A reply read back has the channel of devices, the address and the command
it was made with and no flags, and keeps the other fields of the message that it answers. A header is
the same bytes with each field put at its place. -/
theorem packets_read_back :
    (∀ (h : Header) body, Packet.ofBytes? (h.encode ++ body) = some { header := h, body }) ∧
      (∀ bytes, Header.size ≤ bytes.length → ∃ packet, Packet.ofBytes? bytes = some packet ∧
        packet.header.encode ++ packet.body = bytes) ∧
      (∀ bytes, bytes.length < Header.size → Packet.ofBytes? bytes = none) ∧
      (∀ (h : Header) address command body,
        Packet.ofBytes? ((h.reply address command).encode ++ body) =
          some { header :=
                   { channel := 1, address, endpoint := h.endpoint, profile := h.profile,
                     cluster := h.cluster, flags := 0, transaction := h.transaction, command },
                 body }) ∧
      ∀ h : Header, h.laidOut = h.encode := by
  refine ⟨Packet.ofBytes?_encode, ?_, ?_, ?_, Header.laidOut_eq⟩
  · intro bytes enough
    obtain ⟨packet, parsed⟩ := Packet.exists_ofBytes? enough
    exact ⟨packet, parsed, (Packet.ofBytes?_eq_some_iff.mp parsed).symm⟩
  · intro bytes short
    exact Packet.ofBytes?_eq_none short
  · intro h address command body
    exact Packet.ofBytes?_encode (h.reply address command) body

/-- Seventeen bytes are a message without a body, sixteen are none. -/
theorem Bench.shortest_read_back :
    Header.size ≤ (List.replicate 17 (0xA5 : UInt8)).length ∧
      (∃ packet, Packet.ofBytes? (.replicate 17 0xA5) = some packet ∧
        packet.header.encode ++ packet.body = .replicate 17 0xA5) ∧
      (List.replicate 16 (0xA5 : UInt8)).length < Header.size ∧
      Packet.ofBytes? (.replicate 16 0xA5) = none := by
  have long : Header.size ≤ (List.replicate 17 (0xA5 : UInt8)).length := by decide
  have short : (List.replicate 16 (0xA5 : UInt8)).length < Header.size := by decide
  exact ⟨long, packets_read_back.2.1 _ long, short, packets_read_back.2.2.1 _ short⟩

end VoxelCube
