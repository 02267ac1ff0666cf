/-
How digits are read off the wire. A pair reader and a word reader hold the characters that they were
fed, and what they finish is spelled by these characters and the last one; conversely the digits of a
byte or a two-byte number are taken one by one, the number complete at its last digit. So no two runs
of bytes have the same digits, and no two payloads the same frame.
-/
import VoxelCube.Link.Receiver

namespace VoxelCube

/-! ## Digits and pairs -/

namespace Hex

theorem forall_byte {P : UInt8 → Prop} (h : ∀ i : Fin 256, P (UInt8.ofNat i.val)) (b : UInt8) : P b := by
  have := h ⟨b.toNat, b.toNat_lt⟩
  rwa [UInt8.ofNat_toNat] at this

theorem digit_of_value? {c v : UInt8} (h : value? c = some v) : digit v = c ∧ v < 16 := by
  have table : (value? c).all fun v => decide (digit v = c ∧ v < 16) :=
    forall_byte (P := fun c => (value? c).all fun v => decide (digit v = c ∧ v < 16))
      (by decide +kernel) c
  rw [h] at table
  exact of_decide_eq_true table

theorem pair_join (high : UInt8) {low : UInt8} (h : low < 16) :
    pair (join high low) = [digit high, digit low] := by
  -- Only the low four bits of the high value count, so that a table for these is enough.
  have nibble : ∀ b : UInt8, b &&& 0x0F < 16 ∧ (b &&& 0x0F) <<< 4 = b <<< 4 ∧
      digit (b &&& 0x0F) = digit b := forall_byte (by decide +kernel)
  have table : ∀ i j : Fin 16, pair (join (UInt8.ofNat i.val) (UInt8.ofNat j.val)) =
      [digit (UInt8.ofNat i.val), digit (UInt8.ofNat j.val)] := by decide +kernel
  obtain ⟨small, shifted, same⟩ := nibble high
  have read := table ⟨(high &&& 0x0F).toNat, small⟩ ⟨low.toNat, h⟩
  simp only [UInt8.ofNat_toNat] at read
  rwa [join, shifted, same] at read

theorem digit_ne_start (n : UInt8) : digit n ≠ Link.startOctet :=
  forall_byte (P := fun n => digit n ≠ Link.startOctet) (by decide +kernel) n

theorem pair_injective {a b : UInt8} (same : pair a = pair b) : a = b := by
  obtain ⟨high, low⟩ := List.cons.inj same
  have read := byte?_pair a
  rw [high, (List.cons.inj low).1, byte?_pair] at read
  exact (Option.some.inj read).symm

theorem encode_injective {xs ys : List UInt8} (same : encode xs = encode ys) : xs = ys := by
  induction xs generalizing ys with
  | nil =>
    cases ys with
    | nil => rfl
    | cons y ys => cases same
  | cons x xs ih =>
    cases ys with
    | nil => cases same
    | cons y ys =>
      have digits : pair x ++ encode xs = pair y ++ encode ys := same
      obtain ⟨first, rest⟩ := List.append_inj digits rfl
      rw [pair_injective first, ih rest]

namespace PairReader

/-- The characters that a reader holds. -/
def text (r : PairReader) : List UInt8 := (r.high.map digit).toList

theorem text_feed_held {r r' : PairReader} {c : UInt8} (h : r.feed c = (r', .held)) :
    r'.text = r.text ++ [c] := by
  unfold feed at h
  split at h <;> cases h
  rename_i v value empty
  simp [text, empty, (digit_of_value? value).1]

theorem text_feed_byte {r r' : PairReader} {c b : UInt8} (h : r.feed c = (r', .byte b)) :
    r' = {} ∧ pair b = r.text ++ [c] := by
  unfold feed at h
  split at h <;> cases h
  rename_i v high value held
  obtain ⟨same, small⟩ := digit_of_value? value
  exact ⟨rfl, by simp [text, held, pair_join _ small, same]⟩

/-- A written pair is read back: its first digit is held, its second completes the byte. -/
theorem feed_pair (b : UInt8) :
    ∃ r, feed {} (digit (b >>> 4)) = (r, .held) ∧ r.feed (digit b) = ({}, .byte b) := by
  have read := byte?_pair b
  unfold byte? at read
  cases high : value? (digit (b >>> 4)) with
  | none => simp [high] at read
  | some h =>
    cases low : value? (digit b) with
    | none => simp [high, low] at read
    | some l =>
      simp only [high, low, Option.bind_eq_bind, Option.bind_some, Option.pure_def,
        Option.some.injEq] at read
      exact ⟨{ high := some h }, by simp [feed, high], by simp [feed, low, read]⟩

end PairReader

end Hex

/-! ## Two-byte numbers -/

namespace Link

namespace WordReader

/-- The characters that a reader holds. -/
def text (r : WordReader) : List UInt8 := (r.low.map Hex.pair).getD [] ++ r.pair.text

theorem text_feed_held {r r' : WordReader} {c : UInt8} (h : r.feed c = (r', .held)) :
    r'.text = r.text ++ [c] := by
  unfold feed at h
  split at h
  · rename_i held
    cases h
    simp [text, Hex.PairReader.text_feed_held held]
  · cases h
  · rename_i byte
    split at h <;> cases h
    rename_i empty
    obtain ⟨rfl, pair⟩ := Hex.PairReader.text_feed_byte byte
    simpa [text, empty, Hex.PairReader.text] using pair

theorem text_feed_word {r r' : WordReader} {c : UInt8} {n : UInt16} (h : r.feed c = (r', .word n)) :
    Hex.encode (Word.toBytes 2 n.toNat) = r.text ++ [c] := by
  unfold feed at h
  split at h
  · cases h
  · cases h
  · rename_i b byte
    split at h <;> cases h
    rename_i low held
    obtain ⟨rfl, pair⟩ := Hex.PairReader.text_feed_byte byte
    have bound := Word.ofBytes_lt [low, b]
    have number : (UInt16.ofNat (Word.ofBytes [low, b])).toNat = Word.ofBytes [low, b] :=
      UInt16.toNat_ofNat_of_lt' bound
    rw [number, show Word.toBytes 2 (Word.ofBytes [low, b]) = [low, b] from
      Word.toBytes_ofBytes [low, b]]
    simp [Hex.encode, text, held, pair]

/-- A reader holds octets one after the other, none of them the start octet. -/
inductive Held : WordReader → List UInt8 → WordReader → Prop where
  | nil (r : WordReader) : Held r [] r
  | cons {r r₁ r₂ : WordReader} {c : UInt8} {rest : List UInt8} (plain : c ≠ startOctet)
      (fed : r.feed c = (r₁, .held)) (more : Held r₁ rest r₂) : Held r (c :: rest) r₂

/-- A written number is read back at the last of its digits. -/
theorem feed_digits (n : UInt16) :
    ∃ front last r, Hex.encode (Word.toBytes 2 n.toNat) = front ++ [last] ∧ last ≠ startOctet ∧
      Held {} front r ∧ r.feed last = ({}, .word n) := by
  obtain ⟨low, high, split⟩ : ∃ low high, Word.toBytes 2 n.toNat = [low, high] := ⟨_, _, rfl⟩
  obtain ⟨r, first, second⟩ := Hex.PairReader.feed_pair low
  obtain ⟨t, third, fourth⟩ := Hex.PairReader.feed_pair high
  have small : n.toNat < Word.limit 2 := n.toNat_lt
  have value : UInt16.ofNat (Word.ofBytes [low, high]) = n := by
    rw [← split, Word.ofBytes_toBytes, Nat.mod_eq_of_lt small, UInt16.ofNat_toNat]
  refine ⟨[Hex.digit (low >>> 4), Hex.digit low, Hex.digit (high >>> 4)], Hex.digit high,
    { low := some low, pair := t }, ?_, Hex.digit_ne_start _, ?_, ?_⟩
  · rw [split]; rfl
  · have h₁ : feed {} (Hex.digit (low >>> 4)) = ({ pair := r }, .held) := by simp [feed, first]
    have h₂ : feed { pair := r } (Hex.digit low) = ({ low := some low }, .held) := by
      simp [feed, second]
    have h₃ : feed { low := some low } (Hex.digit (high >>> 4)) =
        ({ low := some low, pair := t }, .held) := by simp [feed, third]
    exact .cons (Hex.digit_ne_start _) h₁ (.cons (Hex.digit_ne_start _) h₂
      (.cons (Hex.digit_ne_start _) h₃ (.nil _)))
  · simp [feed, fourth, value]

end WordReader

/-! ## Frames -/

/-- A frame has one payload. -/
theorem wire_injective {variant : Crc.Variant} {p q : List UInt8}
    (same : wire variant p = wire variant q) : p = q := by
  have length : p.length = q.length := by
    have total := congrArg List.length same
    simp only [wire, List.length_append, Hex.length_encode, Word.length_toBytes] at total
    omega
  unfold wire at same
  rw [length] at same
  obtain ⟨front, -⟩ := List.append_inj same (by simp [Hex.length_encode, length])
  exact Hex.encode_injective (List.append_cancel_left front)

end Link

end VoxelCube
