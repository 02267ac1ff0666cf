/-
Numbers in groups of seven bits, lowest group first, every byte but the last with its high bit set.
A reader of a given width takes no more bytes than the width can need and refuses a number that does
not fit; it accepts padding, so reading is not the exact inverse of writing. `decode_encode` reads a
written number back whatever follows it.
-/
namespace VoxelCube.Varint

def encode (n : Nat) : List UInt8 :=
  if n < 128 then [UInt8.ofNat n] else UInt8.ofNat (n % 128 + 128) :: encode (n / 128)
termination_by n
decreasing_by omega

inductive Error where
  /-- The bytes end inside the number. -/
  | ended
  /-- The number is too long or too large for its width. -/
  | overlong
  deriving DecidableEq, Repr

/-- Reads a number of at most `room` groups and returns the bytes after it. -/
def groups : (room : Nat) → List UInt8 → Except Error (Nat × List UInt8)
  | 0, _ => .error .overlong
  | _ + 1, [] => .error .ended
  | room + 1, b :: rest =>
    if b.toNat < 128 then .ok (b.toNat, rest)
    else
      match groups room rest with
      | .ok (n, rest) => .ok (b.toNat - 128 + 128 * n, rest)
      | .error e => .error e

/-- Reads a number of `bits` bits and returns the bytes after it. -/
def decode (bits : Nat) (bytes : List UInt8) : Except Error (Nat × List UInt8) :=
  match groups ((bits + 6) / 7) bytes with
  | .ok (n, rest) => if n < 1 <<< bits then .ok (n, rest) else .error .overlong
  | .error e => .error e

theorem shift_group (room : Nat) :
    1 <<< (7 * (room + 1)) = (1 <<< (7 * room)) * 128 := by
  rw [Nat.mul_succ, Nat.shiftLeft_add, Nat.shiftLeft_eq (1 <<< (7 * room)) 7]

theorem groups_encode (room n : Nat) (rest : List UInt8) (fits : n < 1 <<< (7 * (room + 1))) :
    groups (room + 1) (encode n ++ rest) = .ok (n, rest) := by
  induction room generalizing n with
  | zero =>
    have small : n < 128 := by simpa using fits
    rw [encode, if_pos small]
    simp [groups, Nat.mod_eq_of_lt (by omega : n < 256), small]
  | succ room ih =>
    rw [encode]
    split
    · next small => simp [groups, Nat.mod_eq_of_lt (by omega : n < 256), small]
    · next large =>
      have byte : (UInt8.ofNat (n % 128 + 128)).toNat = n % 128 + 128 := by
        rw [UInt8.toNat_ofNat']
        omega
      have below : n / 128 < 1 <<< (7 * (room + 1)) := by
        rw [Nat.div_lt_iff_lt_mul (by decide)]
        rwa [shift_group] at fits
      have sum : n % 128 + 128 * (n / 128) = n := Nat.mod_add_div n 128
      rw [List.cons_append, groups, ih _ below, byte, if_neg (by omega)]
      simp only [Nat.add_sub_cancel, sum]

theorem decode_encode (bits n : Nat) (rest : List UInt8) (wide : 0 < bits) (fits : n < 1 <<< bits) :
    decode bits (encode n ++ rest) = .ok (n, rest) := by
  obtain ⟨room, room_eq⟩ : ∃ room, (bits + 6) / 7 = room + 1 := ⟨(bits + 6) / 7 - 1, by omega⟩
  have enough : n < 1 <<< (7 * (room + 1)) := by
    rw [Nat.one_shiftLeft] at fits ⊢
    exact Nat.lt_of_lt_of_le fits (Nat.pow_le_pow_right (by decide) (by omega))
  rw [decode, room_eq, groups_encode _ _ _ enough]
  simp [fits]

end VoxelCube.Varint
