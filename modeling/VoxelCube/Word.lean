/-
Numbers as little-endian bytes, the byte order of everything on the wire. `ofBytes_toBytes` reads a
written number back modulo the width, `toBytes_ofBytes` writes read bytes back unchanged.
-/
namespace VoxelCube.Word

/-- The lowest `width` bytes of `n`, least significant first. -/
def toBytes : (width : Nat) → (n : Nat) → List UInt8
  | 0, _ => []
  | width + 1, n => UInt8.ofNat n :: toBytes width (n / 256)

/-- The number that `bytes` spell, least significant first. -/
def ofBytes : (bytes : List UInt8) → Nat
  | [] => 0
  | b :: rest => b.toNat + 256 * ofBytes rest

/-- How many numbers `width` bytes can spell. -/
def limit : (width : Nat) → Nat
  | 0 => 1
  | width + 1 => 256 * limit width

@[simp] theorem length_toBytes (width n : Nat) : (toBytes width n).length = width := by
  induction width generalizing n with
  | zero => rfl
  | succ width ih => simp [toBytes, ih]

theorem ofBytes_toBytes (width n : Nat) : ofBytes (toBytes width n) = n % limit width := by
  induction width generalizing n with
  | zero => simp [toBytes, ofBytes, limit, Nat.mod_one]
  | succ width ih =>
    rw [limit, Nat.mod_mul]
    simp [toBytes, ofBytes, ih]

theorem toBytes_ofBytes (bytes : List UInt8) : toBytes bytes.length (ofBytes bytes) = bytes := by
  induction bytes with
  | nil => rfl
  | cons b rest ih =>
    have low : (b.toNat + 256 * ofBytes rest) / 256 = ofBytes rest := by
      have := b.toNat_lt
      omega
    have head : UInt8.ofNat (b.toNat + 256 * ofBytes rest) = b := by
      apply UInt8.toNat_inj.mp
      have := b.toNat_lt
      rw [UInt8.toNat_ofNat']
      omega
    simp [toBytes, ofBytes, low, head, ih]

theorem ofBytes_lt (bytes : List UInt8) : ofBytes bytes < limit bytes.length := by
  induction bytes with
  | nil => simp [ofBytes, limit]
  | cons b rest ih =>
    have := b.toNat_lt
    simp only [ofBytes, List.length_cons, limit]
    omega

end VoxelCube.Word
