/-
A frame in progress. Behind the begin octet of a frame come digits, and the receiver holds them all until
the frame is over; a digit carries the frame on, finds the payload too long or makes the frame whole, and
no other character stands in a frame. Between frames digits say nothing.
-/
import VoxelCube.Proofs.Link.Recognition

namespace VoxelCube

/-! ## Digits -/

namespace Hex

def IsDigit (c : UInt8) : Prop := (value? c).isSome = true

theorem isDigit_digit (n : UInt8) : IsDigit (digit n) :=
  forall_byte (P := fun n => (value? (digit n)).isSome = true) (by decide +kernel) n

theorem isDigit_of_mem_encode {bytes : List UInt8} {c : UInt8} (h : c ∈ encode bytes) : IsDigit c := by
  obtain ⟨b, -, inPair⟩ := List.mem_flatMap.mp h
  simp only [pair, List.mem_cons, List.not_mem_nil, or_false] at inPair
  rcases inPair with rfl | rfl
  · exact isDigit_digit _
  · exact isDigit_digit _

theorem IsDigit.ne_start {c : UInt8} (h : IsDigit c) : c ≠ Link.startOctet := by
  rintro rfl
  cases h

namespace PairReader

theorem text_length (r : PairReader) : r.text.length ≤ 1 := by
  cases high : r.high <;> simp [text, high]

theorem isDigit_of_mem_text {r : PairReader} {c : UInt8} (h : c ∈ r.text) : IsDigit c := by
  obtain ⟨v, -, rfl⟩ : ∃ v, r.high = some v ∧ digit v = c := by simpa [text] using h
  exact isDigit_digit v

/-- A pair goes wrong exactly on a character that is no digit. -/
theorem feed_invalid_iff (r : PairReader) (c : UInt8) : (r.feed c).2 = .invalid ↔ ¬IsDigit c := by
  unfold feed IsDigit
  cases value? c with
  | none => simp
  | some v => cases r.high <;> simp

theorem feed_invalid (r : PairReader) {c : UInt8} (other : ¬IsDigit c) :
    ∃ r', r.feed c = (r', .invalid) :=
  ⟨_, Prod.ext rfl ((r.feed_invalid_iff c).mpr other)⟩

end PairReader

end Hex

namespace Link

open Hex (IsDigit)

namespace WordReader

theorem text_length (r : WordReader) : r.text.length ≤ 3 := by
  have half := r.pair.text_length
  cases low : r.low <;> simp [text, low, Hex.pair] <;> omega

theorem isDigit_of_mem_text {r : WordReader} {c : UInt8} (h : c ∈ r.text) : IsDigit c := by
  rcases List.mem_append.mp h with inLow | inPair
  · cases low : r.low with
    | none => simp [low] at inLow
    | some b =>
      have inCode : c ∈ Hex.encode [b] := by simpa [low, Hex.encode] using inLow
      exact Hex.isDigit_of_mem_encode inCode
  · exact Hex.PairReader.isDigit_of_mem_text inPair

theorem feed_invalid_iff (r : WordReader) (c : UInt8) : (r.feed c).2 = .invalid ↔ ¬IsDigit c := by
  rw [← r.pair.feed_invalid_iff c]
  unfold feed
  rcases r.pair.feed c with ⟨pair, held | b | invalid⟩
  · simp
  · cases r.low <;> simp
  · simp

theorem feed_invalid (r : WordReader) {c : UInt8} (other : ¬IsDigit c) :
    ∃ r', r.feed c = (r', .invalid) :=
  ⟨_, Prod.ext rfl ((r.feed_invalid_iff c).mpr other)⟩

end WordReader

/-! ## Frames in progress -/

/-- The digits behind the begin octet that announce a length and spell the bytes so far. -/
def announced (length : UInt16) (bytes : List UInt8) : List UInt8 :=
  Hex.encode (Word.toBytes 2 length.toNat) ++ Hex.encode bytes

/-- How many digits behind the begin octet a receiver reads of a frame that announces this length: the
frame to its end, or to the first byte that does not fit. -/
def digitsRead (length : UInt16) : Nat :=
  if length.toNat ≤ capacity then 4 + 2 * length.toNat + 4 else 4 + 2 * (capacity + 1)

/-- The digits behind a begin octet leave the frame unfinished: if they announce a length, they are fewer
than are read of such a frame. -/
def Unfinished (digits : List UInt8) : Prop :=
  ∀ length : UInt16, announced length [] <+: digits → digits.length < digitsRead length

theorem Unfinished.of_append {digits more : List UInt8} (h : Unfinished (digits ++ more)) :
    Unfinished digits := by
  intro length announces
  have all := h length (announces.trans (List.prefix_append digits more))
  rw [List.length_append] at all
  omega

theorem announced_length (length : UInt16) (bytes : List UInt8) :
    (announced length bytes).length = 4 + 2 * bytes.length := by
  simp [announced, Hex.length_encode]

/-- Of a frame that is too long one payload byte more is read than fits. -/
theorem overlong_digits {length : UInt16} {bytes : List UInt8} (large : capacity < length.toNat)
    (excess : bytes.length = capacity + 1) : (announced length bytes).length = digitsRead length := by
  unfold digitsRead
  rw [announced_length, excess, if_neg (Nat.not_le.mpr large)]

/-- Of a frame that fits everything is read. -/
theorem whole_digits {length : UInt16} {bytes : List UInt8} (received : UInt16)
    (all : bytes.length = length.toNat) (fits : bytes.length ≤ capacity) :
    (announced length bytes ++ Hex.encode (Word.toBytes 2 received.toNat)).length =
      digitsRead length := by
  unfold digitsRead
  rw [List.length_append, announced_length, Hex.length_encode, Word.length_toBytes, all,
    if_pos (all ▸ fits)]

theorem announced_append (length : UInt16) (bytes more : List UInt8) :
    announced length (bytes ++ more) = announced length bytes ++ Hex.encode more := by
  simp [announced, Hex.encode_append]

theorem announced_begins (length : UInt16) (bytes : List UInt8) :
    announced length [] <+: announced length bytes :=
  ⟨Hex.encode bytes, by simp [announced]⟩

theorem isDigit_of_mem_announced {length : UInt16} {bytes : List UInt8} {c : UInt8}
    (h : c ∈ announced length bytes) : IsDigit c := by
  rcases List.mem_append.mp h with inLength | inBytes
  · exact Hex.isDigit_of_mem_encode inLength
  · exact Hex.isDigit_of_mem_encode inBytes

theorem word_injective {m n : UInt16}
    (same : Hex.encode (Word.toBytes 2 m.toNat) = Hex.encode (Word.toBytes 2 n.toNat)) : m = n := by
  have bytes := congrArg Word.ofBytes (Hex.encode_injective same)
  have small : m.toNat < Word.limit 2 ∧ n.toNat < Word.limit 2 := ⟨m.toNat_lt, n.toNat_lt⟩
  rw [Word.ofBytes_toBytes, Word.ofBytes_toBytes, Nat.mod_eq_of_lt small.1,
    Nat.mod_eq_of_lt small.2] at bytes
  exact UInt16.toNat_inj.mp bytes

/-- Digits announce one length at most. -/
theorem announced_unique {m n : UInt16} {digits : List UInt8} (first : announced m [] <+: digits)
    (second : announced n [] <+: digits) : m = n := by
  have within : announced m [] <+: announced n [] :=
    List.prefix_of_prefix_length_le first second
      (Nat.le_of_eq (by rw [announced_length, announced_length]))
  have same := within.eq_of_length (by rw [announced_length, announced_length])
  simp only [announced, Hex.encode_nil, List.append_nil] at same
  exact word_injective same

theorem announced_injective {m n : UInt16} {xs ys more others : List UInt8}
    (same : announced m xs ++ more = announced n ys ++ others) (long : xs.length = ys.length) :
    m = n ∧ xs = ys ∧ more = others := by
  obtain ⟨front, rest⟩ := List.append_inj same (by rw [announced_length, announced_length, long])
  obtain ⟨number, bytes⟩ := List.append_inj front (by simp [Hex.length_encode])
  exact ⟨word_injective number, Hex.encode_injective bytes, rest⟩

namespace Receiver

/-- A receiver that reads the digits of a frame, with those that it read. -/
inductive Reading : Receiver → (digits : List UInt8) → Prop where
  | length (digits : WordReader) : Reading (length digits) digits.text
  | payload {part : Partial} (pair : Hex.PairReader)
    (short : part.bytes.length < part.declared.toNat) (room : part.bytes.length ≤ capacity) :
    Reading (payload part pair) (announced part.declared part.bytes ++ pair.text)
  | checksum {part : Partial} (digits : WordReader)
    (whole : part.bytes.length = part.declared.toNat) (fits : part.bytes.length ≤ capacity) :
    Reading (checksum part digits) (announced part.declared part.bytes ++ digits.text)

theorem reading_payload_fresh (part : Partial) (short : part.bytes.length < part.declared.toNat)
    (room : part.bytes.length ≤ capacity) :
    Reading (payload part {}) (announced part.declared part.bytes) := by
  have fresh := Reading.payload {} short room
  rwa [show ({} : Hex.PairReader).text = [] from rfl, List.append_nil] at fresh

theorem reading_checksum_fresh (part : Partial) (whole : part.bytes.length = part.declared.toNat)
    (fits : part.bytes.length ≤ capacity) :
    Reading (checksum part {}) (announced part.declared part.bytes) := by
  have fresh := Reading.checksum {} whole fits
  rwa [show ({} : WordReader).text = [] from rfl, List.append_nil] at fresh

variable (variant : Crc.Variant) {r : Receiver} {digits more : List UInt8} {c : UInt8}

theorem Reading.isInFrame (h : Reading r digits) : r.isInFrame = true := by
  cases h <;> rfl

theorem Reading.isDigit (h : Reading r digits) (mem : c ∈ digits) : IsDigit c := by
  cases h with
  | length digits => exact WordReader.isDigit_of_mem_text mem
  | payload pair =>
    rcases List.mem_append.mp mem with front | last
    · exact isDigit_of_mem_announced front
    · exact Hex.PairReader.isDigit_of_mem_text last
  | checksum digits =>
    rcases List.mem_append.mp mem with front | last
    · exact isDigit_of_mem_announced front
    · exact WordReader.isDigit_of_mem_text last

/-- A frame that is being read is unfinished. -/
theorem Reading.unfinished (h : Reading r digits) : Unfinished digits := by
  intro length announces
  cases h with
  | length digits =>
    have few := digits.text_length
    have enough := announces.length_le
    rw [announced_length] at enough
    omega
  | @payload part pair short room =>
    obtain rfl := announced_unique announces
      ((announced_begins part.declared part.bytes).trans (List.prefix_append _ _))
    have half := pair.text_length
    rw [List.length_append, announced_length]
    unfold digitsRead
    split <;> omega
  | @checksum part digits whole fits =>
    obtain rfl := announced_unique announces
      ((announced_begins part.declared part.bytes).trans (List.prefix_append _ _))
    have few := digits.text_length
    rw [List.length_append, announced_length]
    unfold digitsRead
    split <;> omega

/-! ## One digit more -/

/-- What a receiver makes of a frame on a digit, `digits` being those that it read with this one: there
is more to come, the payload is too long, or the frame is whole. -/
inductive Outcome (variant : Crc.Variant) (digits : List UInt8) :
    Receiver × Option (Except Fault Event) → Prop where
  | more {r : Receiver} (reading : Reading r digits) : Outcome variant digits (r, none)
  | overflow {length : UInt16} {bytes : List UInt8} (large : capacity < length.toNat)
    (excess : bytes.length = capacity + 1) (read : digits = announced length bytes) :
    Outcome variant digits (stuck, some (.error .overflow))
  | whole {length : UInt16} {bytes : List UInt8} (received : UInt16)
    (all : bytes.length = length.toNat) (fits : bytes.length ≤ capacity)
    (read : digits = announced length bytes ++ Hex.encode (Word.toBytes 2 received.toNat)) :
    Outcome variant digits (ready, some (judge variant bytes received))

theorem takePayload_outcome {part : Partial} (b : UInt8)
    (short : part.bytes.length < part.declared.toNat) (room : part.bytes.length ≤ capacity) :
    Outcome variant (announced part.declared (part.bytes ++ [b]))
      ((takePayload part b).1, (takePayload part b).2.map .error) := by
  have grown : (part.bytes ++ [b]).length = part.bytes.length + 1 := by simp
  unfold takePayload
  by_cases full : capacity ≤ part.bytes.length
  · rw [if_pos full]
    exact .overflow (by omega) (by omega) rfl
  rw [if_neg full]
  by_cases last : (part.bytes ++ [b]).length = part.declared.toNat
  · simp only [if_pos last]
    exact .more (reading_checksum_fresh ({ part with bytes := part.bytes ++ [b] }) last
      (show (part.bytes ++ [b]).length ≤ capacity by omega))
  · simp only [if_neg last]
    exact .more (reading_payload_fresh ({ part with bytes := part.bytes ++ [b] })
      (show (part.bytes ++ [b]).length < part.declared.toNat by omega)
      (show (part.bytes ++ [b]).length ≤ capacity by omega))

theorem length_outcome (word : WordReader) (digit : IsDigit c) :
    Outcome variant (word.text ++ [c]) (feedInside variant (length word) c) := by
  rcases fed : word.feed c with ⟨word', held | n | invalid⟩
  · simp only [feedInside, fed]
    rw [← WordReader.text_feed_held fed]
    exact .more (.length word')
  · simp only [feedInside, fed]
    have number : word.text ++ [c] = announced n [] := by
      rw [← WordReader.text_feed_word fed]
      simp [announced]
    rw [number]
    by_cases zero : n = 0
    · rw [if_pos zero]
      exact .more (reading_checksum_fresh ({ declared := n })
        (show 0 = n.toNat by rw [zero]; rfl) (Nat.zero_le _))
    · rw [if_neg zero]
      have some : 0 < n.toNat := Nat.pos_of_ne_zero fun none => zero (UInt16.toNat_inj.mp none)
      exact .more (reading_payload_fresh ({ declared := n }) some (Nat.zero_le _))
  · exact absurd digit ((word.feed_invalid_iff c).mp (by rw [fed]))

theorem payload_outcome {part : Partial} (pair : Hex.PairReader)
    (short : part.bytes.length < part.declared.toNat) (room : part.bytes.length ≤ capacity)
    (digit : IsDigit c) : Outcome variant (announced part.declared part.bytes ++ pair.text ++ [c])
      (feedInside variant (payload part pair) c) := by
  rw [List.append_assoc]
  rcases fed : pair.feed c with ⟨pair', held | b | invalid⟩
  · simp only [feedInside, fed]
    rw [← Hex.PairReader.text_feed_held fed]
    exact .more (.payload pair' short room)
  · simp only [feedInside, fed]
    have byte : pair.text ++ [c] = Hex.encode [b] := by
      rw [← (Hex.PairReader.text_feed_byte fed).2]
      simp [Hex.encode]
    rw [byte, ← announced_append]
    exact takePayload_outcome variant b short room
  · exact absurd digit ((pair.feed_invalid_iff c).mp (by rw [fed]))

theorem checksum_outcome {part : Partial} (word : WordReader)
    (whole : part.bytes.length = part.declared.toNat) (fits : part.bytes.length ≤ capacity)
    (digit : IsDigit c) : Outcome variant (announced part.declared part.bytes ++ word.text ++ [c])
      (feedInside variant (checksum part word) c) := by
  rw [List.append_assoc]
  rcases fed : word.feed c with ⟨word', held | n | invalid⟩
  · simp only [feedInside, fed]
    rw [← WordReader.text_feed_held fed]
    exact .more (.checksum word' whole fits)
  · simp only [feedInside, fed]
    exact .whole n whole fits (by rw [WordReader.text_feed_word fed])
  · exact absurd digit ((word.feed_invalid_iff c).mp (by rw [fed]))

/-- A digit carries a frame on or ends it. -/
theorem Reading.feed_digit (h : Reading r digits) (digit : IsDigit c) :
    Outcome variant (digits ++ [c]) (r.feed variant c) := by
  rw [feed_of_ne digit.ne_start]
  cases h with
  | length word => exact length_outcome variant word digit
  | payload pair short room => exact payload_outcome variant pair short room digit
  | checksum word whole fits => exact checksum_outcome variant word whole fits digit

/-- Anything else ends it, unless it starts another frame. -/
theorem Reading.feed_other (h : Reading r digits) (other : ¬IsDigit c) (plain : c ≠ startOctet) :
    r.feed variant c = (stuck, some (.error .invalidDigit)) := by
  rw [feed_of_ne plain]
  cases h with
  | length word =>
    obtain ⟨_, invalid⟩ := word.feed_invalid other
    simp only [feedInside, invalid]
  | payload pair =>
    obtain ⟨_, invalid⟩ := pair.feed_invalid other
    simp only [feedInside, invalid]
  | checksum word =>
    obtain ⟨_, invalid⟩ := word.feed_invalid other
    simp only [feedInside, invalid]

/-- While the frame stays unfinished, nothing is reported on its digits. -/
theorem Reading.feed_unfinished (h : Reading r digits) (digit : IsDigit c)
    (going : Unfinished (digits ++ [c])) :
    ∃ r', r.feed variant c = (r', none) ∧ Reading r' (digits ++ [c]) := by
  have outcome := h.feed_digit variant digit
  generalize r.feed variant c = fed at outcome
  cases outcome with
  | more reading => exact ⟨_, rfl, reading⟩
  | @overflow length bytes large excess read =>
    have few := going length (read ▸ announced_begins length bytes)
    rw [read, overlong_digits large excess] at few
    exact absurd few (Nat.lt_irrefl _)
  | @whole length bytes received all fits read =>
    have few := going length (read ▸ (announced_begins length bytes).trans (List.prefix_append _ _))
    rw [read, whole_digits received all fits] at few
    exact absurd few (Nat.lt_irrefl _)

/-! ## Many digits -/

/-- Nothing is reported on any of the octets. -/
def Silent (variant : Crc.Variant) (r : Receiver) : (octets : List UInt8) → Prop
  | [] => True
  | c :: rest => (r.feed variant c).2 = none ∧ Silent variant (next variant r c) rest

theorem silent_append {octets : List UInt8} :
    Silent variant r (octets ++ more) ↔
      Silent variant r octets ∧ Silent variant (after variant r octets) more := by
  induction octets generalizing r with
  | nil => simp [Silent, after]
  | cons c rest ih =>
    have tail := ih (r := next variant r c)
    simp only [List.cons_append, Silent, tail, and_assoc]
    rfl

/-- Digits that leave the frame unfinished are held, and nothing is reported on them. -/
theorem Reading.go_on (h : Reading r digits) (allDigits : ∀ c ∈ more, IsDigit c)
    (going : Unfinished (digits ++ more)) :
    Silent variant r more ∧ Reading (after variant r more) (digits ++ more) := by
  -- The induction is on the digits to come; those that were read wait in the receiver.
  induction more generalizing r digits with
  | nil =>
    rw [List.append_nil]
    exact ⟨trivial, h⟩
  | cons c rest ih =>
    have regroup : digits ++ c :: rest = digits ++ [c] ++ rest := by simp
    rw [regroup] at going ⊢
    obtain ⟨r', held, reading⟩ :=
      h.feed_unfinished variant (allDigits c List.mem_cons_self) going.of_append
    have moved : next variant r c = r' := next_held held
    obtain ⟨silent, read⟩ := ih reading (fun d mem => allDigits d (List.mem_cons_of_mem c mem)) going
    refine ⟨⟨by rw [held], by rw [moved]; exact silent⟩, ?_⟩
    show Reading (after variant (next variant r c) rest) _
    rw [moved]
    exact read

/-- A receiver that is well formed reads the digits behind a start and a begin octet. -/
theorem reading_behind (wf : r.WF) (allDigits : ∀ c ∈ digits, IsDigit c) (going : Unfinished digits) :
    Silent variant r ([startOctet, openOctet] ++ digits) ∧
      Reading (after variant r ([startOctet, openOctet] ++ digits)) digits := by
  have fresh : Reading (length {}) [] := .length {}
  obtain ⟨silent, read⟩ := fresh.go_on variant allDigits going
  rw [silent_append, after_append, after_opening wf]
  have opened : next variant r startOctet = opening := next_held (feed_start wf)
  refine ⟨⟨⟨?_, ?_, trivial⟩, silent⟩, read⟩
  · rw [feed_start wf]
  · rw [opened]
    rfl

/-- Between frames, after no more of the probe than its first letter, a digit says nothing. -/
theorem feedIdle_digit {matched : Fin 3} (first : matched.val ≤ 1) (digit : IsDigit c) :
    ∃ matched' : Fin 3, matched'.val ≤ 1 ∧ feedIdle matched c = (idle matched', none) := by
  have notAck : c ≠ ackOctet := by rintro rfl; cases digit
  have notNak : c ≠ nakOctet := by rintro rfl; cases digit
  unfold feedIdle
  rw [if_neg notAck, if_neg notNak]
  by_cases probed : c = probeLetters[matched]
  · -- the second letter of the probe is no digit, so this is the first one
    obtain rfl : matched = 0 := by
      rcases Nat.le_one_iff_eq_zero_or_eq_one.mp first with zero | one
      · exact Fin.ext zero
      · obtain rfl : matched = 1 := Fin.ext one
        rw [probed] at digit
        cases digit
    rw [if_pos probed]
    exact ⟨1, Nat.le_refl 1, rfl⟩
  · rw [if_neg probed]
    refine ⟨_, ?_, rfl⟩
    split <;> decide

theorem idle_silent {matched : Fin 3} (first : matched.val ≤ 1) (allDigits : ∀ c ∈ digits, IsDigit c) :
    Silent variant (idle matched) digits := by
  induction digits generalizing matched with
  | nil => trivial
  | cons c rest ih =>
    have digit := allDigits c List.mem_cons_self
    obtain ⟨matched', first', still⟩ := feedIdle_digit first digit
    have fed : (idle matched).feed variant c = (idle matched', none) := by
      rw [feed_of_ne digit.ne_start]
      simp only [feedInside, still, Option.map_none]
    have moved : next variant (idle matched) c = idle matched' := next_held fed
    refine ⟨by rw [fed], ?_⟩
    rw [moved]
    exact ih first' fun d mem => allDigits d (List.mem_cons_of_mem c mem)

end Receiver

end Link

end VoxelCube
